import CardDrawing.Primitive.Record
import CardDrawing.Proofs.KeyedEntries

/-!
# Wire records

A record has one entry for each attribute of a primitive that is set, whatever its value, and none
for one that is not. All attributes but the resource and its request can be read back from it, so
that two primitives with the same record agree on them.
-/

namespace CardDrawing

def Box.layout (b : Box) : Keyed (Option Value) :=
  [("x", some b.x.toValue), ("y", some b.y.toValue), ("width", some b.width.toValue),
    ("height", some b.height.toValue)]

/-- What a record holds under its keys: the attributes of a primitive, those that are not set as
none, and a summary of its resource. -/
def Primitive.layout : Primitive → Keyed (Option Value)
  | color p => ("type", some (.text "color")) :: p.toBox.layout ++ [("color", some p.color)]
  | line p =>
    [("type", some (.text "line")), ("startX", some p.startX.toValue),
      ("startY", some p.startY.toValue), ("endX", some p.endX.toValue),
      ("endY", some p.endY.toValue), ("width", some p.width.toValue), ("color", some p.color)]
  | text p =>
    [("type", some (.text "text")), ("x", some p.x.toValue), ("y", some p.y.toValue),
      ("font", some (textOrNull p.font)), ("color", some p.color), ("text", some (.text p.text)),
      ("fontFamily", p.fontFamily.map .text), ("fontSize", p.fontSize.map Number.toValue),
      ("prefix", p.leading.map .text), ("wrapAt", p.wrapAt.map Number.toValue),
      ("textAlign", p.align.map .text)]
  | image p =>
    ("type", some (.text "image")) :: ("id", some (.text p.id)) :: p.toBox.layout ++
      [("panX", p.panX.map Number.toValue), ("panY", p.panY.map Number.toValue),
        ("zoomLevel", p.zoomLevel.map Number.toValue), ("rotate", p.rotate.map Number.toValue),
        ("flipVert", p.flipVert.map .bool), ("flipHoriz", p.flipHoriz.map .bool),
        ("url", p.url.map .text), ("resource", some p.resource.describe)]
  | svg p =>
    ("type", some (.text "svg")) :: p.toBox.layout ++
      [("url", p.url.map .text), ("resource", some p.resource.describe)]

/-- A sameness of values under which no two texts are the same. -/
def TellsTexts (R : Value → Value → Prop) : Prop := ∀ s t : String, R (.text s) (.text t) → s = t

structure Box.Agree (R : Value → Value → Prop) (b c : Box) : Prop where
  x : R b.x.toValue c.x.toValue
  y : R b.y.toValue c.y.toValue
  width : R b.width.toValue c.width.toValue
  height : R b.height.toValue c.height.toValue

/-- Primitives of one kind whose attributes are the same, apart from resources and requests. -/
inductive Primitive.Agree (R : Value → Value → Prop) : Primitive → Primitive → Prop
  | color {p q : ColorPrimitive} (box : p.toBox.Agree R q.toBox) (color : R p.color q.color) :
    Agree R (.color p) (.color q)
  | line {p q : LinePrimitive} (startX : R p.startX.toValue q.startX.toValue)
      (startY : R p.startY.toValue q.startY.toValue) (endX : R p.endX.toValue q.endX.toValue)
      (endY : R p.endY.toValue q.endY.toValue) (width : R p.width.toValue q.width.toValue)
      (color : R p.color q.color) : Agree R (.line p) (.line q)
  | text {p q : TextPrimitive} (x : R p.x.toValue q.x.toValue) (y : R p.y.toValue q.y.toValue)
      (text : p.text = q.text) (font : R (textOrNull p.font) (textOrNull q.font))
      (color : R p.color q.color) (fontFamily : p.fontFamily = q.fontFamily)
      (fontSize : Option.Rel R (p.fontSize.map Number.toValue) (q.fontSize.map Number.toValue))
      (leading : p.leading = q.leading)
      (wrapAt : Option.Rel R (p.wrapAt.map Number.toValue) (q.wrapAt.map Number.toValue))
      (align : p.align = q.align) : Agree R (.text p) (.text q)
  | image {p q : ImagePrimitive} (box : p.toBox.Agree R q.toBox) (id : p.id = q.id)
      (panX : Option.Rel R (p.panX.map Number.toValue) (q.panX.map Number.toValue))
      (panY : Option.Rel R (p.panY.map Number.toValue) (q.panY.map Number.toValue))
      (zoomLevel : Option.Rel R (p.zoomLevel.map Number.toValue) (q.zoomLevel.map Number.toValue))
      (rotate : Option.Rel R (p.rotate.map Number.toValue) (q.rotate.map Number.toValue))
      (flipVert : Option.Rel R (p.flipVert.map .bool) (q.flipVert.map .bool))
      (flipHoriz : Option.Rel R (p.flipHoriz.map .bool) (q.flipHoriz.map .bool))
      (url : p.url = q.url) : Agree R (.image p) (.image q)
  | svg {p q : SvgPrimitive} (box : p.toBox.Agree R q.toBox) (url : p.url = q.url) :
    Agree R (.svg p) (.svg q)

/-- What the record of a primitive tells. -/
structure Primitive.Recorded (p : Primitive) : Prop where
  distinct : Keyed.Distinct p.toRecord
  present : ∀ key value?, (key, value?) ∈ p.layout → Keyed.get? p.toRecord key = value?
  absent : ∀ key, key ∉ Keyed.keys p.layout → Keyed.get? p.toRecord key = none
  decoded : Primitive.ofRecord? p.toRecord = some (p.attach (.value .null))

namespace Proofs

/-! ## Entries that are present -/

/-- The entries of a layout that have a value. -/
def present (layout : Keyed (Option Value)) : Keyed Value :=
  layout.filterMap fun entry => entry.2.map (entry.1, ·)

lemma present_cons (key : String) (value? : Option Value) (rest : Keyed (Option Value)) :
    present ((key, value?) :: rest) = optionalEntry key value? ++ present rest := by
  cases value? <;> rfl

lemma optionalEntry_some (key : String) (v : Value) : optionalEntry key (some v) = [(key, v)] := rfl

lemma toRecord_eq (p : Primitive) : p.toRecord = present p.layout := by
  cases p <;>
  · simp only [Primitive.toRecord, Primitive.layout, Box.toRecord, Box.layout, present_cons,
      optionalEntry_some, List.cons_append, List.nil_append, List.append_assoc]
    simp [present]

/-- The keys depend on the kind only, and none is used twice. -/
lemma distinct_layout (p : Primitive) : Keyed.Distinct p.layout := by
  cases p <;>
  · simp only [Keyed.Distinct]
    simp only [Primitive.layout, Box.layout, Keyed.keys, List.map_cons, List.map_nil,
      List.cons_append, List.nil_append]
    decide

lemma get?_present {layout : Keyed (Option Value)} (h : Keyed.Distinct layout) (key : String) :
    Keyed.get? (present layout) key = (Keyed.get? layout key).join := by
  induction layout with
  | nil => rfl
  | cons entry rest ih =>
    obtain ⟨first, value?⟩ := entry
    obtain ⟨hfirst, hrest⟩ := List.nodup_cons.mp h
    rw [present_cons, Keyed.get?_cons]
    dsimp only
    cases value? with
    | some v =>
      change Keyed.get? ((first, v) :: present rest) key = _
      rw [Keyed.get?_cons, ih hrest]
      by_cases hkey : key = first
      · rw [if_pos hkey, if_pos hkey]
        rfl
      · rw [if_neg hkey, if_neg hkey]
    | none =>
      change Keyed.get? (present rest) key = _
      rw [ih hrest]
      by_cases hkey : key = first
      · rw [if_pos hkey, hkey, get?_of_not_mem hfirst]
        rfl
      · rw [if_neg hkey]

lemma get?_toRecord (p : Primitive) (key : String) :
    Keyed.get? p.toRecord key = (Keyed.get? p.layout key).join := by
  rw [toRecord_eq, get?_present (distinct_layout p)]

/-! ## Reading attributes -/

section

variable {record : Keyed Value} {key : String}

lemma ofValue?_toValue (n : Number) : Number.ofValue? n.toValue = some n := by
  cases n <;> rfl

lemma numberIn?_some {n : Number} (h : Keyed.get? record key = some n.toValue) :
    numberIn? record key = some n := by
  unfold numberIn?
  rw [h]
  exact ofValue?_toValue n

lemma numberIn?_eq {n? : Option Number} (h : Keyed.get? record key = n?.map Number.toValue) :
    numberIn? record key = n? := by
  cases n? with
  | some n => exact numberIn?_some h
  | none =>
    unfold numberIn?
    rw [h]
    rfl

lemma textIn?_some {s : String} (h : Keyed.get? record key = some (.text s)) :
    textIn? record key = some s := by
  unfold textIn?
  rw [h]

lemma textIn?_eq {text? : Option String} (h : Keyed.get? record key = text?.map .text) :
    textIn? record key = text? := by
  cases text? with
  | some s => exact textIn?_some h
  | none =>
    unfold textIn?
    rw [h]
    rfl

lemma textIn?_textOrNull {text? : Option String}
    (h : Keyed.get? record key = some (textOrNull text?)) : textIn? record key = text? := by
  unfold textIn?
  rw [h]
  cases text? <;> rfl

lemma flagIn?_eq {flag? : Option Bool} (h : Keyed.get? record key = flag?.map .bool) :
    flagIn? record key = flag? := by
  unfold flagIn?
  rw [h]
  cases flag? <;> rfl

lemma valueIn_some {v : Value} (h : Keyed.get? record key = some v) :
    Value.getD record key = v := by
  unfold Value.getD
  rw [h]
  rfl

lemma boxIn?_some {b : Box} (hx : Keyed.get? record "x" = some b.x.toValue)
    (hy : Keyed.get? record "y" = some b.y.toValue)
    (hwidth : Keyed.get? record "width" = some b.width.toValue)
    (hheight : Keyed.get? record "height" = some b.height.toValue) :
    Box.ofRecord? record = some b := by
  unfold Box.ofRecord?
  rw [numberIn?_some hx, numberIn?_some hy, numberIn?_some hwidth, numberIn?_some hheight]
  rfl

/-- Every attribute is read back from what the record holds under its key. -/
lemma ofRecord?_of_get? {p : Primitive}
    (hget : ∀ key, Keyed.get? record key = (Keyed.get? p.layout key).join) :
    Primitive.ofRecord? record = some (p.attach (.value .null)) := by
  unfold Primitive.ofRecord?
  cases p with
  | color p =>
    have hbox : Box.ofRecord? record = some p.toBox :=
      boxIn?_some (hget "x") (hget "y") (hget "width") (hget "height")
    have hcolor : Value.getD record "color" = p.color := valueIn_some (hget "color")
    rw [textIn?_some (hget "type")]
    unfold ColorPrimitive.ofRecord?
    rw [hbox, hcolor]
    rfl
  | line p =>
    have hstartX : numberIn? record "startX" = some p.startX := numberIn?_some (hget "startX")
    have hstartY : numberIn? record "startY" = some p.startY := numberIn?_some (hget "startY")
    have hendX : numberIn? record "endX" = some p.endX := numberIn?_some (hget "endX")
    have hendY : numberIn? record "endY" = some p.endY := numberIn?_some (hget "endY")
    have hwidth : numberIn? record "width" = some p.width := numberIn?_some (hget "width")
    have hcolor : Value.getD record "color" = p.color := valueIn_some (hget "color")
    rw [textIn?_some (hget "type")]
    unfold LinePrimitive.ofRecord?
    rw [hstartX, hstartY, hendX, hendY, hwidth, hcolor]
    rfl
  | text p =>
    have hx : numberIn? record "x" = some p.x := numberIn?_some (hget "x")
    have hy : numberIn? record "y" = some p.y := numberIn?_some (hget "y")
    have htext : textIn? record "text" = some p.text := textIn?_some (hget "text")
    have hfont : textIn? record "font" = p.font := textIn?_textOrNull (hget "font")
    have hcolor : Value.getD record "color" = p.color := valueIn_some (hget "color")
    have hfamily : textIn? record "fontFamily" = p.fontFamily := textIn?_eq (hget "fontFamily")
    have hsize : numberIn? record "fontSize" = p.fontSize := numberIn?_eq (hget "fontSize")
    have hleading : textIn? record "prefix" = p.leading := textIn?_eq (hget "prefix")
    have hwrap : numberIn? record "wrapAt" = p.wrapAt := numberIn?_eq (hget "wrapAt")
    have halign : textIn? record "textAlign" = p.align := textIn?_eq (hget "textAlign")
    rw [textIn?_some (hget "type")]
    unfold TextPrimitive.ofRecord?
    rw [hx, hy, htext, hfont, hcolor, hfamily, hsize, hleading, hwrap, halign]
    rfl
  | image p =>
    have hbox : Box.ofRecord? record = some p.toBox :=
      boxIn?_some (hget "x") (hget "y") (hget "width") (hget "height")
    have hid : textIn? record "id" = some p.id := textIn?_some (hget "id")
    have hpanX : numberIn? record "panX" = p.panX := numberIn?_eq (hget "panX")
    have hpanY : numberIn? record "panY" = p.panY := numberIn?_eq (hget "panY")
    have hzoom : numberIn? record "zoomLevel" = p.zoomLevel := numberIn?_eq (hget "zoomLevel")
    have hrotate : numberIn? record "rotate" = p.rotate := numberIn?_eq (hget "rotate")
    have hvert : flagIn? record "flipVert" = p.flipVert := flagIn?_eq (hget "flipVert")
    have hhoriz : flagIn? record "flipHoriz" = p.flipHoriz := flagIn?_eq (hget "flipHoriz")
    have hurl : textIn? record "url" = p.url := textIn?_eq (hget "url")
    rw [textIn?_some (hget "type")]
    unfold ImagePrimitive.ofRecord?
    rw [hbox, hid, hpanX, hpanY, hzoom, hrotate, hvert, hhoriz, hurl]
    rfl
  | svg p =>
    have hbox : Box.ofRecord? record = some p.toBox :=
      boxIn?_some (hget "x") (hget "y") (hget "width") (hget "height")
    have hurl : textIn? record "url" = p.url := textIn?_eq (hget "url")
    rw [textIn?_some (hget "type")]
    unfold SvgPrimitive.ofRecord?
    rw [hbox, hurl]
    rfl

end

lemma keys_present (layout : Keyed (Option Value)) :
    (Keyed.keys (present layout)).Sublist (Keyed.keys layout) := by
  induction layout with
  | nil => exact List.Sublist.refl _
  | cons entry rest ih =>
    obtain ⟨key, value?⟩ := entry
    rw [present_cons]
    cases value? with
    | none => exact ih.cons key
    | some v => exact ih.cons_cons key

lemma recorded (p : Primitive) : p.Recorded where
  distinct := by
    unfold Keyed.Distinct
    rw [toRecord_eq]
    exact (distinct_layout p).sublist (keys_present p.layout)
  present key value? hmem := by
    rw [get?_toRecord, get?_of_mem (distinct_layout p) hmem]
    rfl
  absent key hkey := by
    rw [get?_toRecord, get?_of_not_mem hkey]
    rfl
  decoded := ofRecord?_of_get? (get?_toRecord p)

/-! ## Records that are the same -/

/-- Reading a record back depends only on what it holds under each key. -/
lemma ofRecord?_congr {record record' : Keyed Value}
    (h : ∀ key, Keyed.get? record key = Keyed.get? record' key) :
    Primitive.ofRecord? record = Primitive.ofRecord? record' := by
  have hnumber : numberIn? record = numberIn? record' := by
    funext key
    unfold numberIn?
    rw [h]
  have htext : textIn? record = textIn? record' := by
    funext key
    unfold textIn?
    rw [h]
  have hflag : flagIn? record = flagIn? record' := by
    funext key
    unfold flagIn?
    rw [h]
  have hvalue : Value.getD record = Value.getD record' := by
    funext key
    unfold Value.getD
    rw [h]
  have hbox : Box.ofRecord? record = Box.ofRecord? record' := by
    unfold Box.ofRecord?
    rw [hnumber]
  unfold Primitive.ofRecord? ColorPrimitive.ofRecord? LinePrimitive.ofRecord?
    TextPrimitive.ofRecord? ImagePrimitive.ofRecord? SvgPrimitive.ofRecord?
  rw [hnumber, htext, hflag, hvalue, hbox]

lemma kind_attach (p : Primitive) (resource : Resource) : (p.attach resource).kind = p.kind := by
  cases p <;> rfl

section

variable {R : Value → Value → Prop} (hR : TellsTexts R)
include hR

lemma eq_of_rel {text? text?' : Option String}
    (h : Option.Rel R (text?.map .text) (text?'.map .text)) : text? = text?' := by
  cases text? with
  | none =>
    cases text?' with
    | none => rfl
    | some t => cases h
  | some s =>
    cases text?' with
    | none => cases h
    | some t => rw [hR s t (Option.rel_some_some.mp h)]

/-- Primitives whose records are the same are of one kind and have the same attributes. -/
lemma agree_of_rel {p q : Primitive}
    (h : ∀ key, Option.Rel R (Keyed.get? p.toRecord key) (Keyed.get? q.toRecord key)) :
    p.kind = q.kind ∧ p.Agree R q := by
  have hlayout (key : String) :
      Option.Rel R (Keyed.get? p.layout key).join (Keyed.get? q.layout key).join := by
    have hkey := h key
    rwa [get?_toRecord, get?_toRecord] at hkey
  have hkind : p.kind = q.kind := by
    have htype := hlayout "type"
    have hget (p : Primitive) : (Keyed.get? p.layout "type").join = some (.text p.kind) := by
      cases p <;> rfl
    rw [hget, hget] at htype
    exact hR _ _ (Option.rel_some_some.mp htype)
  refine ⟨hkind, ?_⟩
  have hset (key : String) {v w : Value} (hv : (Keyed.get? p.layout key).join = some v)
      (hw : (Keyed.get? q.layout key).join = some w) : R v w := by
    have hkey := hlayout key
    rw [hv, hw] at hkey
    exact Option.rel_some_some.mp hkey
  cases p with
  | color p =>
    cases q with
    | color q =>
      have hbox : p.toBox.Agree R q.toBox := ⟨hset "x" rfl rfl, hset "y" rfl rfl,
        hset "width" rfl rfl, hset "height" rfl rfl⟩
      exact .color hbox (hset "color" rfl rfl)
    | _ => exact absurd hkind (by simp [Primitive.kind])
  | line p =>
    cases q with
    | line q =>
      exact .line (hset "startX" rfl rfl) (hset "startY" rfl rfl) (hset "endX" rfl rfl)
        (hset "endY" rfl rfl) (hset "width" rfl rfl) (hset "color" rfl rfl)
    | _ => exact absurd hkind (by simp [Primitive.kind])
  | text p =>
    cases q with
    | text q =>
      exact .text (hset "x" rfl rfl) (hset "y" rfl rfl) (hR _ _ (hset "text" rfl rfl))
        (hset "font" rfl rfl) (hset "color" rfl rfl) (eq_of_rel hR (hlayout "fontFamily"))
        (hlayout "fontSize") (eq_of_rel hR (hlayout "prefix")) (hlayout "wrapAt")
        (eq_of_rel hR (hlayout "textAlign"))
    | _ => exact absurd hkind (by simp [Primitive.kind])
  | image p =>
    cases q with
    | image q =>
      have hbox : p.toBox.Agree R q.toBox := ⟨hset "x" rfl rfl, hset "y" rfl rfl,
        hset "width" rfl rfl, hset "height" rfl rfl⟩
      exact .image hbox (hR _ _ (hset "id" rfl rfl)) (hlayout "panX") (hlayout "panY")
        (hlayout "zoomLevel") (hlayout "rotate") (hlayout "flipVert") (hlayout "flipHoriz")
        (eq_of_rel hR (hlayout "url"))
    | _ => exact absurd hkind (by simp [Primitive.kind])
  | svg p =>
    cases q with
    | svg q =>
      have hbox : p.toBox.Agree R q.toBox := ⟨hset "x" rfl rfl, hset "y" rfl rfl,
        hset "width" rfl rfl, hset "height" rfl rfl⟩
      exact .svg hbox (eq_of_rel hR (hlayout "url"))
    | _ => exact absurd hkind (by simp [Primitive.kind])

end

/-- A record holds every attribute that is set under its own key and no entry for one that is not.
All attributes can be read back from it, and primitives with the same record are of one kind and
agree on them, whatever values are the same as long as texts are told apart. -/
theorem records_lose_nothing :
    (∀ p : Primitive, p.Recorded) ∧
    (∀ p q : Primitive, (∀ key, Keyed.get? p.toRecord key = Keyed.get? q.toRecord key) →
      p.kind = q.kind ∧ p.attach (.value .null) = q.attach (.value .null)) ∧
    ∀ R : Value → Value → Prop, TellsTexts R → ∀ p q : Primitive,
      (∀ key, Option.Rel R (Keyed.get? p.toRecord key) (Keyed.get? q.toRecord key)) →
        p.kind = q.kind ∧ p.Agree R q := by
  refine ⟨recorded, fun p q h => ?_, fun R hR p q h => agree_of_rel hR h⟩
  have hsame : p.attach (.value .null) = q.attach (.value .null) := by
    have hread := ofRecord?_congr h
    rw [(recorded p).decoded, (recorded q).decoded] at hread
    exact Option.some.inj hread
  have hkind := congrArg Primitive.kind hsame
  rw [kind_attach, kind_attach] at hkind
  exact ⟨hkind, hsame⟩

/-- Values are alike unless they are different texts. -/
def AlikeButTexts (v w : Value) : Prop := ∀ s t, v = .text s → w = .text t → s = t

/-- A document that is still to be loaded, from an empty url. -/
def pendingBadge (x : Number) (resource : Resource) : Primitive :=
  .svg { x, y := 0, width := .real 0, height := 2, url := some "", resource,
         request := some { kind := .svg, url := some "" } }

lemma alike_refl (v : Value) : AlikeButTexts v v := by
  rintro s t hs ht
  rw [hs] at ht
  exact Value.text.inj ht

theorem badges_agree : TellsTexts AlikeButTexts ∧
    (pendingBadge 0 (.value .null)).Agree AlikeButTexts
      (pendingBadge (.real 0) (.value (.int 0))) := by
  have htexts : TellsTexts AlikeButTexts := fun s t h => h s t rfl rfl
  have hrecords (key : String) : Option.Rel AlikeButTexts
      (Keyed.get? (pendingBadge 0 (.value .null)).toRecord key)
      (Keyed.get? (pendingBadge (.real 0) (.value (.int 0))).toRecord key) := by
    rw [get?_toRecord, get?_toRecord]
    simp only [pendingBadge, Primitive.layout, Box.layout, List.cons_append, List.nil_append,
      Keyed.get?_cons, Keyed.get?_nil]
    split_ifs
    · exact .some (alike_refl _)
    · exact .some fun s t h => by cases h
    · exact .some (alike_refl _)
    · exact .some (alike_refl _)
    · exact .some (alike_refl _)
    · exact .some (alike_refl _)
    · exact .some fun s t h => by cases h
    · exact .none
  exact ⟨htexts, (records_lose_nothing.2.2 AlikeButTexts htexts _ _ hrecords).2⟩

end Proofs

end CardDrawing
