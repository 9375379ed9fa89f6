import CardDrawing.Loading
import CardDrawing.Proofs.ColorOpacity
import CardDrawing.Proofs.UrlParts

/-!
# Failures of vector documents

What the outside world reports while a document is loaded, and what is wrong with its markup, is
told as a failure of loading. Colors are the exception: an opacity that is infinite under that of
its element is found where it is cut to a whole number, and passes for an error of another kind.
-/

namespace CardDrawing

namespace Svg
open Xml (Element Attributes)

/-- Why a number is not cut to a whole one. -/
def uncut? (x : Float) : Option Error :=
  if x.isNaN then some .nanToInt else if x.isInf then some .infinityToInt else none

/-- The opacity of a color under that of its element, unless it stays. -/
def reducedOpacity? (color : Option Rgba) (opacity : Option Float) : Option Float :=
  match color, opacity with
  | some c, some share =>
    if 1.0 ≤ share then none else (Number.floatOfInt c.a).toOption.map (· * share)
  | _, _ => none

def fillOf (attributes : Attributes) : Option Rgba :=
  match property? attributes "fill" with
  | some raw => color? raw
  | none => some Rgba.black

def strokeOf (attributes : Attributes) : Option Rgba :=
  (property? attributes "stroke").bind color?

def opacityOf (attributes : Attributes) : Option Float :=
  (property? attributes "opacity").bind length?

/-- The opacities that are reduced in a style: that of the fill, then that of the stroke. -/
def reducedInStyle (attributes : Attributes) : List Float :=
  (reducedOpacity? (fillOf attributes) (opacityOf attributes)).toList ++
    (reducedOpacity? (strokeOf attributes) (opacityOf attributes)).toList

/-- The opacities that are reduced in an element, if it draws a shape. -/
def reducedOpacities (e : Element) : List Float :=
  match outline? e.name.label e.attributes with
  | none => []
  | some _ => reducedInStyle e.attributes

/-- The reduced opacities of all elements in document order. -/
def allReducedOpacities (root : Element) : List Float := root.all.flatMap reducedOpacities

/-- What comes of loading a document for a url when its markup is read as `markup`. -/
structure LoadJudged (url : String) (markup : Except Error Element)
    (outcome : Except Error (Document Float)) : Prop where
  loaded : (∃ d, outcome = .ok d) ↔ ∃ root, markup = .ok root ∧ root.name.label = "svg" ∧
    ∀ x ∈ allReducedOpacities root, x.isFinite
  told : ∀ why, outcome = .error why →
    (∃ cause, why = .loadFailed .parse .svg url cause) ∨ why = .infinityToInt
  untold : outcome = .error .infinityToInt ↔ ∃ root, markup = .ok root ∧ root.name.label = "svg" ∧
    ∃ before x after, allReducedOpacities root = before ++ x :: after ∧
      x.isInf ∧ ∀ y ∈ before, y.isFinite

end Svg

namespace Proofs
open Svg
open Xml (Element Attributes)

/-! ## Colors -/

/-- A number is finite, infinite, or no number at all. -/
lemma uncut?_eq_none {x : Float} : uncut? x = none ↔ x.isFinite := by
  unfold uncut? Float.isNaN Float.isInf Float.isFinite
  unfold Float.Model.isNaN Float.Model.isInf Float.Model.isFinite
  cases x.toModel.unpack with
  | notANumber => exact iff_of_false (Option.some_ne_none _) Bool.false_ne_true
  | infinity sign => exact iff_of_false (Option.some_ne_none _) Bool.false_ne_true
  | _ => exact iff_of_true rfl rfl

lemma uncut?_eq_infinity {x : Float} : uncut? x = some .infinityToInt ↔ x.isInf := by
  unfold uncut? Float.isNaN Float.isInf
  unfold Float.Model.isNaN Float.Model.isInf
  cases x.toModel.unpack with
  | infinity sign => exact iff_of_true rfl rfl
  | notANumber => exact iff_of_false (by rintro ⟨⟩) Bool.false_ne_true
  | _ => exact iff_of_false (Option.some_ne_none _).symm Bool.false_ne_true

lemma failure?_truncate (x : Float) : failure? (Number.real x).truncate = uncut? x := by
  unfold Number.truncate Number.wholeWith uncut?
  dsimp only
  split_ifs <;> rfl

lemma failure?_withOpacity {color : Option Rgba}
    (h : ∀ c, color = some c → ∃ x, Number.floatOfInt c.a = .ok x) (opacity : Option Float) :
    failure? (withOpacity color opacity) = (reducedOpacity? color opacity).bind uncut? := by
  cases color with
  | none => cases opacity <;> rfl
  | some c =>
    cases opacity with
    | none => rfl
    | some share =>
      obtain ⟨x, hx⟩ := h c rfl
      unfold withOpacity reducedOpacity?
      dsimp only
      split_ifs
      · rfl
      · have hmul : Number.mul (.int c.a) (.real share) = .ok (.real (x * share)) := by
          simp only [Number.mul, Number.withFloats, Number.toFloat, hx]
          rfl
        have hcut : failure? ((Number.real (x * share)).truncate >>=
            fun a => .ok (some { c with a := clampByte a })) =
              (failure? (Number.real (x * share)).truncate).or none := failure?_bind fun _ => rfl
        rw [hmul, hx]
        exact hcut.trans (by rw [Option.or_none, failure?_truncate]; rfl)

lemma exists_opacity_color {raw : String} {c : Rgba} (h : Svg.color? raw = some c) :
    ∃ x, Number.floatOfInt c.a = .ok x := by
  unfold Svg.color? at h
  dsimp only at h
  split_ifs at h
  exact exists_opacity h

lemma exists_opacity_fill (attributes : Attributes) (c : Rgba) (h : fillOf attributes = some c) :
    ∃ x, Number.floatOfInt c.a = .ok x := by
  unfold fillOf at h
  split at h
  · exact exists_opacity_color h
  · obtain rfl := Option.some.inj h
    exact exists_floatOfInt byte_lt

lemma exists_opacity_stroke (attributes : Attributes) (c : Rgba)
    (h : strokeOf attributes = some c) : ∃ x, Number.floatOfInt c.a = .ok x := by
  obtain ⟨raw, -, h⟩ := Option.bind_eq_some_iff.mp h
  exact exists_opacity_color h

lemma failure?_readStyle (attributes : Attributes) (strokeWidth : Float) :
    failure? (readStyle attributes strokeWidth) = (reducedInStyle attributes).findSome? uncut? := by
  have hfill := failure?_withOpacity (exists_opacity_fill attributes) (opacityOf attributes)
  have hstroke := failure?_withOpacity (exists_opacity_stroke attributes) (opacityOf attributes)
  have hread : failure? (readStyle attributes strokeWidth) =
      (failure? (withOpacity (fillOf attributes) (opacityOf attributes))).or
        ((failure? (withOpacity (strokeOf attributes) (opacityOf attributes))).or none) :=
    failure?_bind fun _ => failure?_bind fun _ => rfl
  have hlist (x? : Option Float) : x?.toList.findSome? uncut? = x?.bind uncut? := by
    cases x? with
    | none => rfl
    | some x => exact List.findSome?_singleton ..
  rw [hread, hfill, hstroke, Option.or_none, reducedInStyle, List.findSome?_append, hlist, hlist]

lemma failure?_readShape (e : Element) :
    failure? (readShape? e) = (reducedOpacities e).findSome? uncut? := by
  unfold readShape? reducedOpacities
  cases outline? e.name.label e.attributes with
  | none => rfl
  | some outline => exact (failure?_map _).trans (failure?_readStyle _ _)

/-! ## Markup -/

lemma findSome?_flatMap {α β γ : Type} (f : α → List β) (p : β → Option γ) (l : List α) :
    (l.flatMap f).findSome? p = l.findSome? fun x => (f x).findSome? p := by
  induction l with
  | nil => rfl
  | cons x l ih =>
    rw [List.flatMap_cons, List.findSome?_append, ih, List.findSome?_cons]
    cases (f x).findSome? p <;> rfl

lemma failure?_ofElement (root : Element) : failure? (Document.ofElement root) =
    if root.name.label = "svg" then (allReducedOpacities root).findSome? uncut?
    else some (.svgRoot root.name.label) := by
  unfold Document.ofElement
  by_cases h : root.name.label = "svg"
  · rw [if_pos h, if_neg (not_not_intro h), allReducedOpacities, findSome?_flatMap]
    simp only [← failure?_readShape]
    rw [← failure?_mapM]
    exact failure?_map _
  · rw [if_neg h, if_pos h]
    rfl

lemma failure?_ofElement_eq_none {root : Element} : failure? (Document.ofElement root) = none ↔
    root.name.label = "svg" ∧ ∀ x ∈ allReducedOpacities root, x.isFinite := by
  rw [failure?_ofElement]
  by_cases h : root.name.label = "svg"
  · rw [if_pos h, List.findSome?_eq_none_iff]
    simp only [uncut?_eq_none, h, true_and]
  · rw [if_neg h]
    exact iff_of_false (Option.some_ne_none _) fun hsvg => h hsvg.1

lemma failure?_ofElement_eq_infinity {root : Element} :
    failure? (Document.ofElement root) = some .infinityToInt ↔ root.name.label = "svg" ∧
      ∃ before x after, allReducedOpacities root = before ++ x :: after ∧
        x.isInf ∧ ∀ y ∈ before, y.isFinite := by
  rw [failure?_ofElement]
  by_cases h : root.name.label = "svg"
  · rw [if_pos h, List.findSome?_eq_some_iff]
    simp only [uncut?_eq_none, uncut?_eq_infinity, h, true_and]
  · rw [if_neg h]
    exact iff_of_false (by rintro ⟨⟩) fun hsvg => h hsvg.1

/-! ## Reports of the outside world -/

/-- A report of the outside world that has not been told as a failure of loading. -/
def Untold (why : Error) : Prop := ∃ what, why = .outage what

lemma duringStep_told {α : Type} (step : LoadStep) (url : String) (result : Except Error α) :
    FailsOnly (¬ Untold ·) (Loading.duringStep step .svg url result) := by
  unfold Loading.duringStep
  split
  · exact FailsOnly.error (by rintro ⟨_, ⟨⟩⟩)
  · next result h =>
    rintro why rfl ⟨what, rfl⟩
    exact h what rfl

lemma url_told (url : String) : FailsOnly (¬ Untold ·) (Url.ofText url) := by
  refine (ofText_fails url).imp fun why hkind => ?_
  rintro ⟨what, rfl⟩
  cases hkind

lemma readLocal_told (files : Files) (url : String) :
    FailsOnly (¬ Untold ·) (Loading.readLocal .svg files url) := by
  have hpath : FailsOnly (¬ Untold ·) (localPath url) := by
    refine (url_told url).bind fun parts _ => ?_
    refine FailsOnly.ite (fun _ => FailsOnly.ok) fun _ => ?_
    exact FailsOnly.ite (fun _ => FailsOnly.error (by rintro ⟨_, ⟨⟩⟩)) fun _ => FailsOnly.ok
  exact hpath.bind fun path _ => duringStep_told .read url _

lemma fetch_told (network : Web.Network) (client : Web.Client) (url : String) :
    FailsOnly (¬ Untold ·) (Loading.fetch .svg network client url).run.1 :=
  duringStep_told .fetch url (client.get network url).run.1

/-- Whatever the outside world reports on the way to the bytes is told. -/
lemma bytesFor_told (places : Loading.Places) (client : Web.Client) (url : String) :
    FailsOnly (¬ Untold ·) (Loading.bytesFor .svg places client url).run.1 := by
  have hweb : FailsOnly (¬ Untold ·) (isHttpUrl url) := (url_told url).bind fun _ _ => FailsOnly.ok
  unfold Loading.bytesFor
  cases h : isHttpUrl url with
  | error why => exact FailsOnly.error (hweb why h)
  | ok isWeb =>
    cases isWeb with
    | true => exact fetch_told places.network client url
    | false => exact readLocal_told places.files url

/-! ## Bytes -/

/-- How an error of a document is told. -/
def told (url : String) (why : Error) : Error :=
  if Loading.isMalformed why then .loadFailed .parse .svg url why else why

lemma told_eq_infinity {url : String} {why : Error} :
    told url why = .infinityToInt ↔ why = .infinityToInt := by
  constructor
  · intro h
    unfold told at h
    split_ifs at h
    exact h
  · rintro rfl
    rfl

/-- Of the errors of a document, only that of an infinite number is not told as one of loading. -/
lemma told_failure {root : Element} {why : Error}
    (h : failure? (Document.ofElement root) = some why) (url : String) :
    (∃ cause, told url why = .loadFailed .parse .svg url cause) ∨
      told url why = .infinityToInt := by
  rw [failure?_ofElement] at h
  split_ifs at h
  · obtain ⟨x, -, hx⟩ := List.exists_of_findSome?_eq_some h
    unfold uncut? at hx
    split_ifs at hx
    · obtain rfl := Option.some.inj hx
      exact .inl ⟨_, rfl⟩
    · obtain rfl := Option.some.inj hx
      exact .inr rfl
  · obtain rfl := Option.some.inj h
    exact .inl ⟨_, rfl⟩

lemma failure?_parseDocument (url : String) (bytes : Text.Bytes) :
    failure? (Loading.parseDocument url bytes) =
      (failure? (Xml.readBytes bytes >>= Document.ofElement)).map (told url) := by
  have hbind : (Xml.readBytes bytes).bind Document.ofElement =
      Xml.readBytes bytes >>= Document.ofElement := rfl
  rw [Loading.parseDocument, hbind]
  cases Xml.readBytes bytes >>= Document.ofElement <;> rfl

lemma loadJudged (url : String) {bytes : Text.Bytes}
    (hxml : ∀ why, Xml.readBytes bytes = .error why → why = .outage .xmlSyntax) :
    LoadJudged url (Xml.readBytes bytes) (Loading.parseDocument url bytes) := by
  have hfailure := failure?_parseDocument url bytes
  cases h : Xml.readBytes bytes with
  | error why =>
    obtain rfl := hxml why h
    rw [h] at hfailure
    have herror := failure?_eq_some.mp hfailure
    exact {
      loaded := by simp [herror]
      told := fun why' hwhy' => .inl ⟨_, (Except.error.inj (herror.symm.trans hwhy')).symm⟩
      untold := by simp [herror, told_eq_infinity] }
  | ok root =>
    have hroot : failure? (Loading.parseDocument url bytes) =
        (failure? (Document.ofElement root)).map (told url) := by
      rw [hfailure, h]
      rfl
    constructor
    case loaded =>
      rw [← failure?_eq_none, hroot, Option.map_eq_none_iff, failure?_ofElement_eq_none]
      simp
    case told =>
      intro why hwhy
      rw [failure?_eq_some.mpr hwhy] at hroot
      obtain ⟨cause, hcause, rfl⟩ := Option.map_eq_some_iff.mp hroot.symm
      exact told_failure hcause url
    case untold =>
      rw [← failure?_eq_some, hroot, Option.map_eq_some_iff]
      simp only [told_eq_infinity, exists_eq_right, failure?_ofElement_eq_infinity]
      simp

lemma outcome_document (places : Loading.Places) (client : Web.Client) (url : String) :
    (Loading.document places client url).run.1 =
      (Loading.bytesFor .svg places client url).run.1 >>= Loading.parseDocument url :=
  outcome_bind_lift _ _

/-! ## Markup without references -/

/-- A text without references stands for itself. -/
lemma substitute?_plain (d : Xml.DocumentType) (depth : ℕ) (text : List Char) :
    d.substitute? depth (text.map .char) = some text := by
  induction text with
  | nil => rw [List.map_nil, Xml.DocumentType.substitute?]
  | cons c text ih => 
    rw [List.map_cons, Xml.DocumentType.substitute?, ih]
    rfl

/-- Content without references is read token by token. -/
lemma read?_plain (d : Xml.DocumentType) (depth : ℕ) (c : Xml.Content) (tokens : List Xml.Token)
    (h : ∀ token ∈ tokens, ∀ name, token ≠ .reference name) :
    c.read? d depth tokens =
      tokens.foldlM (fun c token => if c.admits token then c.next? d token else none) c := by
  induction tokens generalizing c with
  | nil =>
    rw [Xml.Content.read?]
    rfl
  | cons token rest ih =>
    have hrest (c : Xml.Content) := ih c fun token ht => h token (List.mem_cons_of_mem _ ht)
    have hfirst := h token List.mem_cons_self
    have hread : c.read? d depth (token :: rest) =
        if c.admits token then (c.next? d token).bind fun c => c.read? d depth rest else none := by
      rw [Xml.Content.read?]
      · cases c.admits token <;> rfl
      · exact fun name h => absurd h (hfirst name)
      · exact fun name _ h => absurd h (hfirst name)
    rw [hread, List.foldlM_cons]
    simp only [hrest]
    cases c.admits token <;> rfl

/-- A place where every path leads to the same markup. -/
def placesOf (markup : String) : Loading.Places where
  files _ := .file (Text.encodeUtf8 markup)
  network _ := none

def visitor : Web.Client where
  agent := "visitor"

lemma bytesFor_placesOf (markup : String) :
    (Loading.bytesFor .svg (placesOf markup) visitor "badge.svg").run.1 =
      .ok (Text.encodeUtf8 markup) := by
  with_unfolding_all rfl

/-- A black square under an opacity. -/
def badge (opacity : String) : String := "<svg><rect opacity=\"" ++ opacity ++ "\"/></svg>"

def badgeRoot (opacity : String) : Element :=
  .node ⟨"", "svg"⟩ [] [.node ⟨"", "rect"⟩ [(⟨"", "opacity"⟩, opacity)] []]

def badgeTokens (opacity : String) : List Xml.Token :=
  [.opening ⟨none, "svg"⟩ [] false,
    .opening ⟨none, "rect"⟩ [(⟨none, "opacity"⟩, opacity.toList)] true,
    .closing ⟨none, "svg"⟩]

/-- What the markup of a badge is cut into. -/
structure BadgeCut (opacity : String) : Prop where
  marked : Xml.marked (Text.encodeUtf8 (badge opacity)) = (.utf8, Text.encodeUtf8 (badge opacity))
  unnamed : Xml.namedEncoding? .utf8 (Text.encodeUtf8 (badge opacity)) = none
  document : (Xml.Encoding.utf8.decode? (Text.encodeUtf8 (badge opacity))).bind Xml.document? =
    Xml.root? {} (badge opacity).toList
  tokens : Xml.tokens? (badge opacity).toList = some (badgeTokens opacity)
  pieces : Xml.DocumentType.valuePieces? opacity.toList = some (opacity.toList.map .char)

lemma badgeCut_half : BadgeCut "0.5" where
  marked := by with_unfolding_all rfl
  unnamed := by with_unfolding_all rfl
  document := by with_unfolding_all rfl
  tokens := by with_unfolding_all rfl
  pieces := by with_unfolding_all rfl

lemma badgeCut_faded : BadgeCut "-inf" where
  marked := by with_unfolding_all rfl
  unnamed := by with_unfolding_all rfl
  document := by with_unfolding_all rfl
  tokens := by with_unfolding_all rfl
  pieces := by with_unfolding_all rfl

lemma root?_badge {opacity : String} (h : BadgeCut opacity) :
    Xml.root? {} (badge opacity).toList = some (badgeRoot opacity) := by
  have hvalue : ({} : Xml.DocumentType).value? false opacity.toList = some opacity := by
    rw [Xml.DocumentType.value?, h.pieces, Option.bind_eq_bind, Option.bind_some,
      substitute?_plain]
    exact congrArg some String.ofList_toList
  have hattributes : ({} : Xml.DocumentType).attributes? ⟨none, "rect"⟩
      [(⟨none, "opacity"⟩, opacity.toList)] = some [(⟨none, "opacity"⟩, opacity)] := by
    rw [Xml.DocumentType.attributes?, List.mapM_cons, List.mapM_nil]
    change ((Xml.DocumentType.value? {} false opacity.toList >>= fun value =>
      some ((⟨none, "opacity"⟩ : Xml.RawName), value)) >>= _) >>= _ = _
    rw [hvalue]
    rfl
  rw [Xml.root?, h.tokens, Option.bind_eq_bind, Option.bind_some, read?_plain]
  · simp only [badgeTokens, List.foldlM_cons, List.foldlM_nil, Xml.Content.next?, hattributes]
    with_unfolding_all rfl
  · simp [badgeTokens]

lemma readBytes_badge {opacity : String} (h : BadgeCut opacity) :
    Xml.readBytes (Text.encodeUtf8 (badge opacity)) = .ok (badgeRoot opacity) := by
  unfold Xml.readBytes
  rw [h.marked]
  dsimp only
  rw [h.unnamed]
  dsimp only
  rw [pure_bind, h.document, root?_badge h]
  rfl

/-- A badge whose markup is read is not refused for it. -/
lemma badge_readable {opacity : String} (h : BadgeCut opacity) : ∀ why,
    Xml.readBytes (Text.encodeUtf8 (badge opacity)) = .error why → why = .outage .xmlSyntax := by
  rw [readBytes_badge h]
  rintro why ⟨⟩

/-! ## Documents -/

/-- No report of the outside world is left untold. Once there are bytes, a document is loaded unless
its markup is malformed or the opacity of a color in it is not finite; and only an infinite one,
before any that is no number, is not told as a failure of loading. -/
theorem document_loading_judged (places : Loading.Places) (client : Web.Client) (url : String) :
    (∀ why, (Loading.bytesFor .svg places client url).run.1 = .error why →
      (Loading.document places client url).run.1 = .error why ∧ ∀ what, why ≠ .outage what) ∧
    ∀ bytes, (Loading.bytesFor .svg places client url).run.1 = .ok bytes →
      (∀ why, Xml.readBytes bytes = .error why → why = .outage .xmlSyntax) →
      LoadJudged url (Xml.readBytes bytes) (Loading.document places client url).run.1 := by
  rw [outcome_document]
  constructor
  · intro why h
    refine ⟨by rw [h]; rfl, fun what hwhat => ?_⟩
    exact bytesFor_told places client url why h ⟨what, hwhat⟩
  · intro bytes h hxml
    rw [h]
    exact loadJudged url hxml

/-- Half of an opacity is a number like any other. -/
theorem half_badge_loaded :
    (Loading.bytesFor .svg (placesOf (badge "0.5")) visitor "badge.svg").run.1 =
      .ok (Text.encodeUtf8 (badge "0.5")) ∧
    (∀ why, Xml.readBytes (Text.encodeUtf8 (badge "0.5")) = .error why → why = .outage .xmlSyntax) ∧
    ∃ d, (Loading.document (placesOf (badge "0.5")) visitor "badge.svg").run.1 = .ok d := by
  have hxml := badge_readable badgeCut_half
  obtain ⟨-, hjudged⟩ := document_loading_judged (placesOf (badge "0.5")) visitor "badge.svg"
  have hload := (hjudged _ (bytesFor_placesOf _) hxml).loaded
  refine ⟨bytesFor_placesOf _, hxml, hload.mpr ⟨_, readBytes_badge badgeCut_half, rfl, ?_⟩⟩
  have hfinite : (allReducedOpacities (badgeRoot "0.5")).all Float.isFinite := by decide +kernel
  exact List.all_eq_true.mp hfinite

/-- A black fill under an opacity of minus infinity. -/
theorem faded_badge_untold :
    (Loading.bytesFor .svg (placesOf (badge "-inf")) visitor "badge.svg").run.1 =
      .ok (Text.encodeUtf8 (badge "-inf")) ∧
    Xml.readBytes (Text.encodeUtf8 (badge "-inf")) = .ok (badgeRoot "-inf") ∧
    ∃ why, (Loading.document (placesOf (badge "-inf")) visitor "badge.svg").run.1 = .error why ∧
      why.kind = .overflow ∧ ∀ step cause, why ≠ .loadFailed step .svg "badge.svg" cause := by
  have hread := readBytes_badge badgeCut_faded
  have hinfinite : (allReducedOpacities (badgeRoot "-inf")).map Float.isInf = [true] := by
    decide +kernel
  obtain ⟨x, hx, hinf⟩ := List.map_eq_singleton_iff.mp hinfinite
  have hload := (loadJudged "badge.svg" (badge_readable badgeCut_faded)).untold.mpr
    ⟨_, hread, rfl, [], x, [], hx, hinf, List.forall_mem_nil _⟩
  refine ⟨bytesFor_placesOf _, hread, .infinityToInt, ?_, rfl, by rintro step cause ⟨⟩⟩
  rw [outcome_document, bytesFor_placesOf]
  exact hload

end Proofs

end CardDrawing
