import CardDrawing.Proofs.ColorReferences
import CardDrawing.Proofs.SpacedTexts
import CardDrawing.Svg.Reader

/-!
# Styles of elements

A property of an element has the value of its last declaration in the style of the element, or else
that of its attribute. Nothing else of the style counts: not the order of declarations of different
properties, nor blanks, nor pieces that declare something else or nothing.
-/

namespace CardDrawing

namespace Svg
open Xml (Attributes)
open Text (Trimmed Padded)

/-- The properties that a style is made of. -/
def styleProperties : List String := ["fill", "stroke", "stroke-width", "opacity"]

/-- A piece of a style declares a value under a key: its first colon stands between them, and blanks
may stand around each. -/
def DeclaresValue (piece key value : String) : Prop :=
  ∃ before after, piece.toList = before ++ ':' :: after ∧ ':' ∉ before ∧
    (Trimmed key ∧ Padded key before) ∧ Trimmed value ∧ Padded value after

/-- An element whose style is made of pieces with semicolons between them. Without a style there are
no pieces. -/
structure Styled (attributes : Attributes) (pieces : List String) : Prop where
  joined : (attributes.get? "style").getD "" = ";".intercalate pieces
  whole : ∀ piece ∈ pieces, ';' ∉ piece.toList

/-- The value that is effective for a key, if there is one: that of the last piece that declares
one, or else that of the attribute. -/
inductive Effective (attributes : Attributes) (pieces : List String) (key : String) :
    Option String → Prop where
  | declared {before after : List String} {piece value : String}
      (hpieces : pieces = before ++ piece :: after) (h : DeclaresValue piece key value)
      (hlast : ∀ later ∈ after, ∀ other, ¬ DeclaresValue later key other) :
      Effective attributes pieces key (some value)
  | undeclared (h : ∀ piece ∈ pieces, ∀ value, ¬ DeclaresValue piece key value) :
      Effective attributes pieces key (attributes.get? key)

/-- The color that shapes are filled with before their opacity counts. -/
def fillColor (fill : Option String) : Option Rgba :=
  match fill with
  | some raw => color? raw
  | none => some Rgba.black

/-- What fills a shape: opaque black without a value, nothing at a value that is empty, `none` or no
color, and else the color that the value stands for. -/
inductive Fills : Option String → Option Rgba → Prop where
  | absent : Fills none (some ⟨0, 0, 0, 255⟩)
  | unfilled {raw name : String} (hname : Trimmed name) (hraw : Padded name raw.toList)
      (h : name = "" ∨ name = "none" ∨ Color.ofText? name = none) : Fills (some raw) none
  | filled {raw name : String} {color : Rgba} (hname : Trimmed name) (hraw : Padded name raw.toList)
      (hempty : name ≠ "") (hnone : name ≠ "none") (h : Color.ofText? name = some color) :
      Fills (some raw) (some color)

/-- The style that the effective values of its properties stand for. -/
def styleOf (fill stroke width opacity : Option String) (strokeWidth : Float) :
    Except Error (Style Float) := do
  let share := opacity.bind length?
  return {
    fill := ← withOpacity (fillColor fill) share
    stroke := ← withOpacity (stroke.bind color?) share
    strokeWidth := (width.bind length?).getD strokeWidth }

/-- Pieces of a style that are written in another way: two declarations of different keys change
places, the blanks of a declaration change, or a piece is put in that declares nothing or a key that
is no property. -/
inductive Rewrites : List String → List String → Prop where
  | swapped {p q key key' value value' : String} (hp : DeclaresValue p key value)
      (hq : DeclaresValue q key' value') (hne : key ≠ key') (before after : List String) :
      Rewrites (before ++ p :: q :: after) (before ++ q :: p :: after)
  | spaced {p q key value : String} (hp : DeclaresValue p key value)
      (hq : DeclaresValue q key value) (before after : List String) :
      Rewrites (before ++ p :: after) (before ++ q :: after)
  | empty {p : String} (hp : ':' ∉ p.toList) (before after : List String) :
      Rewrites (before ++ after) (before ++ p :: after)
  | other {p key value : String} (hp : DeclaresValue p key value) (hkey : key ∉ styleProperties)
      (before after : List String) : Rewrites (before ++ after) (before ++ p :: after)

/-- How the style of an element comes from its attributes and the pieces of its style. -/
structure StyleJudged (attributes : Attributes) (pieces : List String) : Prop where
  effective : ∀ key value, property? attributes key = value ↔
    Effective attributes pieces key value
  read : ∀ fill stroke width opacity strokeWidth, Effective attributes pieces "fill" fill →
    Effective attributes pieces "stroke" stroke →
    Effective attributes pieces "stroke-width" width →
    Effective attributes pieces "opacity" opacity →
    readStyle attributes strokeWidth = styleOf fill stroke width opacity strokeWidth
  rewritten : ∀ attributes' pieces', Styled attributes' pieces' →
    (∀ key ∈ styleProperties, attributes'.get? key = attributes.get? key) →
    Relation.EqvGen Rewrites pieces pieces' →
    ∀ strokeWidth, readStyle attributes' strokeWidth = readStyle attributes strokeWidth

end Svg

namespace Proofs
open Svg
open Xml (Attributes)

variable {attributes attributes' : Attributes} {pieces pieces' : List String}
  {piece key value : String}

/-! ## Declarations -/

/-- What a piece of a style declares. -/
def declaration? (piece : String) : Option (String × String) :=
  (Text.cutAt? ':' piece.toList).map fun (key, value) =>
    (Text.strip (String.ofList key), Text.strip (String.ofList value))

lemma declaration?_eq_some : declaration? piece = some (key, value) ↔
    DeclaresValue piece key value := by
  have hstrip {cs : List Char} {s : String} :
      Text.strip (String.ofList cs) = s ↔ Text.Trimmed s ∧ Text.Padded s cs := by
    rw [Text.strip_eq_iff, String.toList_ofList]
  rw [declaration?, Option.map_eq_some_iff]
  constructor
  · rintro ⟨⟨before, after⟩, hcut, heq⟩
    obtain ⟨hkey, hvalue⟩ := Prod.mk.inj heq
    obtain ⟨hpiece, hcolon⟩ := cutAt?_eq_some.mp hcut
    exact ⟨before, after, hpiece, hcolon, hstrip.mp hkey, hstrip.mp hvalue⟩
  · rintro ⟨before, after, hpiece, hcolon, hkey, hvalue⟩
    exact ⟨(before, after), cutAt?_eq_some.mpr ⟨hpiece, hcolon⟩,
      Prod.ext (hstrip.mpr hkey) (hstrip.mpr hvalue)⟩

lemma declaration?_eq_none (h : ':' ∉ piece.toList) : declaration? piece = none := by
  cases hdeclared : declaration? piece with
  | none => rfl
  | some entry =>
    obtain ⟨before, after, hpiece, -⟩ := declaration?_eq_some.mp hdeclared
    simp [hpiece] at h

/-- The value of the last declaration of a key. -/
def lastValue? (pieces : List String) (key : String) : Option String :=
  (pieces.filterMap declaration?).reverse.lookup key

lemma lastValue?_append (before after : List String) (key : String) :
    lastValue? (before ++ after) key = (lastValue? after key).or (lastValue? before key) := by
  rw [lastValue?, List.filterMap_append, List.reverse_append, List.lookup_append]
  rfl

lemma lastValue?_cons (piece : String) (after : List String) (key : String) :
    lastValue? (piece :: after) key = (lastValue? after key).or (lastValue? [piece] key) :=
  lastValue?_append [piece] after key

lemma lastValue?_of_declares (h : DeclaresValue piece key value) (other : String) :
    lastValue? [piece] other = if other = key then some value else none := by
  rw [lastValue?, List.filterMap_cons, declaration?_eq_some.mpr h]
  by_cases heq : other = key
  · simp [heq]
  · have hb : (other == key) = false := by simpa using heq
    simp [List.lookup_cons, hb, heq]

lemma lastValue?_of_undeclared (h : ∀ value, ¬ DeclaresValue piece key value) :
    lastValue? [piece] key = none := by
  cases hdeclared : declaration? piece with
  | none => simp [lastValue?, hdeclared]
  | some entry =>
    have hdeclares : DeclaresValue piece entry.1 entry.2 := declaration?_eq_some.mp hdeclared
    have hne : key ≠ entry.1 := by
      rintro rfl
      exact h _ hdeclares
    rw [lastValue?_of_declares hdeclares, if_neg hne]

lemma lastValue?_of_colonless (h : ':' ∉ piece.toList) (key : String) :
    lastValue? [piece] key = none := by
  simp [lastValue?, declaration?_eq_none h]

lemma lastValue?_eq_none : lastValue? pieces key = none ↔
    ∀ piece ∈ pieces, ∀ value, ¬ DeclaresValue piece key value := by
  induction pieces with
  | nil => simp [lastValue?]
  | cons piece pieces ih =>
    rw [lastValue?_cons, Option.or_eq_none_iff, ih, List.forall_mem_cons, and_comm]
    refine and_congr_left fun _ => ⟨fun h value hdeclares => ?_, lastValue?_of_undeclared⟩
    rw [lastValue?_of_declares hdeclares, if_pos rfl] at h
    cases h

lemma lastValue?_eq_some : lastValue? pieces key = some value ↔
    ∃ before piece after, pieces = before ++ piece :: after ∧ DeclaresValue piece key value ∧
      ∀ later ∈ after, ∀ other, ¬ DeclaresValue later key other := by
  constructor
  · intro h
    induction pieces with
    | nil => cases h
    | cons piece pieces ih =>
      rw [lastValue?_cons] at h
      cases hlater : lastValue? pieces key with
      | some later =>
        -- the last declaration is among the later pieces
        rw [hlater, Option.some_or] at h
        obtain ⟨before, last, after, rfl, hlast⟩ := ih (hlater.trans h)
        exact ⟨piece :: before, last, after, rfl, hlast⟩
      | none =>
        -- only the first piece can declare the key
        rw [hlater, Option.none_or] at h
        refine ⟨[], piece, pieces, rfl, ?_, lastValue?_eq_none.mp hlater⟩
        by_contra hnot
        cases hdeclared : declaration? piece with
        | none => simp [lastValue?, hdeclared] at h
        | some entry =>
          have hdeclares : DeclaresValue piece entry.1 entry.2 := declaration?_eq_some.mp hdeclared
          rw [lastValue?_of_declares hdeclares] at h
          split_ifs at h with heq
          obtain rfl := Option.some.inj h
          exact hnot (heq ▸ hdeclares)
  · rintro ⟨before, piece, after, rfl, hdeclares, hlast⟩
    rw [lastValue?_append, lastValue?_cons, lastValue?_eq_none.mpr hlast,
      lastValue?_of_declares hdeclares, if_pos rfl]
    rfl

/-! ## Effective values -/

lemma property?_eq (h : Styled attributes pieces) (key : String) :
    property? attributes key = (lastValue? pieces key).or (attributes.get? key) := by
  have hdeclarations : declarations ((attributes.get? "style").getD "") =
      pieces.filterMap declaration? := by
    rw [h.joined]
    change (Text.splitOn ';' (";".intercalate pieces)).filterMap declaration? = _
    by_cases hnil : pieces = []
    · subst hnil
      rfl
    · have hcut : Text.splitOn ';' (";".intercalate pieces) = pieces :=
        Text.splitOn_intercalate hnil h.whole
      rw [hcut]
  rw [property?, hdeclarations]
  change (lastValue? pieces key).orElse _ = _
  cases lastValue? pieces key <;> rfl

lemma property?_eq_iff (h : Styled attributes pieces) {value : Option String} :
    property? attributes key = value ↔ Effective attributes pieces key value := by
  rw [property?_eq h]
  constructor
  · rintro rfl
    cases hlast : lastValue? pieces key with
    | some value =>
      obtain ⟨before, piece, after, hpieces, hdeclares, hafter⟩ := lastValue?_eq_some.mp hlast
      exact .declared hpieces hdeclares hafter
    | none => exact .undeclared (lastValue?_eq_none.mp hlast)
  · rintro (⟨hpieces, hdeclares, hlast⟩ | hnone)
    · rw [lastValue?_eq_some.mpr ⟨_, _, _, hpieces, hdeclares, hlast⟩, Option.some_or]
    · rw [lastValue?_eq_none.mpr hnone, Option.none_or]

lemma readStyle_eq (attributes : Attributes) (strokeWidth : Float) :
    readStyle attributes strokeWidth = styleOf (property? attributes "fill")
      (property? attributes "stroke") (property? attributes "stroke-width")
      (property? attributes "opacity") strokeWidth := rfl

lemma fills_fillColor (fill : Option String) : Fills fill (fillColor fill) := by
  cases fill with
  | none => exact .absent
  | some raw =>
    obtain ⟨hname, hraw⟩ := Text.strip_eq_iff.mp (rfl : Text.strip raw = _)
    change Fills (some raw) (Svg.color? raw)
    unfold Svg.color?
    dsimp only
    split_ifs with h
    · refine .unfilled hname hraw ?_
      rcases (by simpa using h : _ ∨ _) with hempty | hnone
      · exact .inl hempty
      · exact .inr (.inl hnone)
    · have hne : Text.strip raw ≠ "" ∧ Text.strip raw ≠ "none" := by simpa using h
      cases hcolor : Color.ofText? (Text.strip raw) with
      | none => exact .unfilled hname hraw (.inr (.inr hcolor))
      | some color => exact .filled hname hraw hne.1 hne.2 hcolor

/-! ## Styles written in another way -/

lemma lastValue?_congr (before after : List String) {middle middle' : List String}
    (h : lastValue? middle' key = lastValue? middle key) :
    lastValue? (before ++ (middle' ++ after)) key =
      lastValue? (before ++ (middle ++ after)) key := by
  simp only [lastValue?_append, h]

lemma lastValue?_rewrites (h : Rewrites pieces pieces') (hkey : key ∈ styleProperties) :
    lastValue? pieces' key = lastValue? pieces key := by
  cases h with
  | @swapped p q k k' v v' hp hq hne before after =>
    have hpair : lastValue? [q, p] key = lastValue? [p, q] key := by
      rw [lastValue?_cons q [p], lastValue?_cons p [q], lastValue?_of_declares hp,
        lastValue?_of_declares hq]
      by_cases hk : key = k
      · have hk' : key ≠ k' := fun heq => hne (hk.symm.trans heq)
        simp [hk, hne]
      · simp [hk]
    exact lastValue?_congr before after hpair
  | @spaced p q k v hp hq before after =>
    have hsame : lastValue? [q] key = lastValue? [p] key := by
      rw [lastValue?_of_declares hp, lastValue?_of_declares hq]
    exact lastValue?_congr before after hsame
  | @empty p hp before after =>
    have hnothing : lastValue? [p] key = lastValue? [] key := lastValue?_of_colonless hp key
    exact lastValue?_congr before after hnothing
  | @other p k v hp hother before after =>
    have hne : key ≠ k := by
      rintro rfl
      exact hother hkey
    have hnothing : lastValue? [p] key = lastValue? [] key := by
      rw [lastValue?_of_declares hp, if_neg hne]
      rfl
    exact lastValue?_congr before after hnothing

lemma lastValue?_rewritten (h : Relation.EqvGen Rewrites pieces pieces')
    (hkey : key ∈ styleProperties) : lastValue? pieces' key = lastValue? pieces key := by
  have hkept : Relation.EqvGen.setoid Rewrites ≤ Setoid.ker fun pieces => lastValue? pieces key :=
    Setoid.eqvGen_le fun _ _ h => (lastValue?_rewrites h hkey).symm
  exact (hkept h).symm

lemma readStyle_congr
    (h : ∀ key ∈ styleProperties, property? attributes' key = property? attributes key)
    (strokeWidth : Float) :
    readStyle attributes' strokeWidth = readStyle attributes strokeWidth := by
  rw [readStyle_eq, readStyle_eq, h "fill" (by decide), h "stroke" (by decide),
    h "stroke-width" (by decide), h "opacity" (by decide)]

lemma exists_styled (attributes : Attributes) : ∃ pieces, Styled attributes pieces :=
  ⟨Text.splitOn ';' ((attributes.get? "style").getD ""),
    (Text.intercalate_splitOn ';' _).symm, fun _ => Text.notMem_of_mem_splitOn⟩

/-- The style of an element is that of the effective values of its properties, however its
declarations are written, and a shape without a value for its fill is filled with opaque black. -/
theorem style_cascade (attributes : Attributes) :
    (∃ pieces, Styled attributes pieces) ∧
    (∀ pieces, Styled attributes pieces → StyleJudged attributes pieces) ∧
    ∀ fill, Fills fill (fillColor fill) := by
  refine ⟨exists_styled attributes, fun pieces h => ?_, fills_fillColor⟩
  constructor
  · exact fun key value => property?_eq_iff h
  · intro fill stroke width opacity strokeWidth hfill hstroke hwidth hopacity
    rw [readStyle_eq, (property?_eq_iff h).mpr hfill, (property?_eq_iff h).mpr hstroke,
      (property?_eq_iff h).mpr hwidth, (property?_eq_iff h).mpr hopacity]
  · intro attributes' pieces' h' hattributes hpieces strokeWidth
    refine readStyle_congr (fun key hkey => ?_) strokeWidth
    rw [property?_eq h, property?_eq h', lastValue?_rewritten hpieces hkey, hattributes key hkey]

/-- A banner whose fill is given three times. -/
def banner (style : String) : Attributes :=
  [(⟨"", "fill"⟩, "#0a0b0c"), (⟨"", "style"⟩, style)]

def bannerPieces : List String := ["fill: gold ", "stroke:red", "", " fill:none"]

/-- The pieces in another order, without the empty one and with one that does not count. -/
def bannerRewritten : List String := [" stroke : red", "fill: gold ", " fill:none", "x:y:z"]

theorem banner_cascade :
    Styled (banner "fill: gold ;stroke:red;; fill:none") bannerPieces ∧
    Styled (banner " stroke : red;fill: gold ; fill:none;x:y:z") bannerRewritten ∧
    Effective (banner "fill: gold ;stroke:red;; fill:none") bannerPieces "fill" (some "none") ∧
    readStyle (banner " stroke : red;fill: gold ; fill:none;x:y:z") 1 =
      readStyle (banner "fill: gold ;stroke:red;; fill:none") 1 := by
  have hstyled : Styled (banner "fill: gold ;stroke:red;; fill:none") bannerPieces :=
    ⟨by decide +kernel, by decide⟩
  have hstyled' : Styled (banner " stroke : red;fill: gold ; fill:none;x:y:z") bannerRewritten :=
    ⟨by decide +kernel, by decide⟩
  have hgold : DeclaresValue "fill: gold " "fill" "gold" :=
    declaration?_eq_some.mp (by decide +kernel)
  have hred : DeclaresValue "stroke:red" "stroke" "red" :=
    declaration?_eq_some.mp (by decide +kernel)
  have hspaced : DeclaresValue " stroke : red" "stroke" "red" :=
    declaration?_eq_some.mp (by decide +kernel)
  have hother : DeclaresValue "x:y:z" "x" "y:z" := declaration?_eq_some.mp (by decide +kernel)
  have hnone : DeclaresValue " fill:none" "fill" "none" :=
    declaration?_eq_some.mp (by decide +kernel)
  have hempty : ':' ∉ "".toList := by decide
  obtain ⟨-, hjudged, -⟩ := style_cascade (banner "fill: gold ;stroke:red;; fill:none")
  have hrewritten : Relation.EqvGen Rewrites bannerPieces bannerRewritten := by
    refine .trans _ _ _ (.rel _ _ (.swapped hgold hred (by decide) [] ["", " fill:none"])) ?_
    refine .trans _ _ _ (.rel _ _ (.spaced hred hspaced [] ["fill: gold ", "", " fill:none"])) ?_
    refine .trans _ _ _ (.symm _ _ (.rel _ _
      (.empty hempty [" stroke : red", "fill: gold "] [" fill:none"]))) ?_
    exact .rel _ _ (.other hother (by decide) [" stroke : red", "fill: gold ", " fill:none"] [])
  refine ⟨hstyled, hstyled', ?_, ?_⟩
  · have hpieces : bannerPieces = ["fill: gold ", "stroke:red", ""] ++ " fill:none" :: [] := rfl
    exact .declared hpieces hnone (by simp)
  · refine (hjudged _ hstyled).rewritten _ _ hstyled' (fun key hkey => ?_) hrewritten 1
    revert key
    decide

end Proofs

end CardDrawing
