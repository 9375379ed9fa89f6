import CardDrawing.Editor
import CardDrawing.Proofs.FieldReading
import CardDrawing.Proofs.KeyedEntries

/-!
# Older names of field types

Older documents call two of the field types by longer names. Which of the names a document uses,
for a field or for an additional element at whatever depth, makes no difference to what is read
from it, nor to the error if nothing is.
-/

namespace CardDrawing.Proofs
open Keyed

/-- What older documents call two of the field types. -/
inductive OldName : String → String → Prop where
  | image : OldName "image" "labeled-choice-image"
  | svg : OldName "svg" "labeled-choice-svg"

mutual

/-- A field's document, and the same with some type tags under their older names: its own, or those
of additional elements at any depth. -/
inductive Renamed : Value → Value → Prop where
  | same {raw : Value} : Renamed raw raw
  | object {data older : Keyed Value} : List.Forall₂ RenamedEntry data older →
      Renamed (.object data) (.object older)

inductive RenamedEntry : String × Value → String × Value → Prop where
  | same {entry : String × Value} : RenamedEntry entry entry
  | tag {tag older : String} : OldName tag older →
      RenamedEntry ("type", .text tag) ("type", .text older)
  | extras {items olders : List Value} : List.Forall₂ Renamed items olders →
      RenamedEntry ("additionalElements", .list items) ("additionalElements", .list olders)

end

/-- A template's document, and the same with some type tags of its fields under their older
names. -/
inductive RenamedTemplate : Value → Value → Prop where
  | same {payload : Value} : RenamedTemplate payload payload
  | fields {before after fields olders : Keyed Value} :
      List.Forall₂ (fun field older => field.1 = older.1 ∧ Renamed field.2 older.2) fields olders →
      RenamedTemplate (.object (before ++ ("fields", .object fields) :: after))
        (.object (before ++ ("fields", .object olders) :: after))

/-- How an entry may be affected: not at all, in its type tag, or in its additional elements. -/
lemma RenamedEntry.cases {key : String} {v v' : Value} (h : RenamedEntry (key, v) (key, v')) :
    v' = v ∨
    (key = "type" ∧ ∃ tag older, OldName tag older ∧ v = .text tag ∧ v' = .text older) ∨
    (key = "additionalElements" ∧ ∃ items olders, List.Forall₂ Renamed items olders ∧
      v = .list items ∧ v' = .list olders) := by
  cases h with
  | same => exact .inl rfl
  | tag h => exact .inr (.inl ⟨rfl, _, _, h, rfl, rfl⟩)
  | extras h => exact .inr (.inr ⟨rfl, _, _, h, rfl, rfl⟩)

/-! ## Attributes -/

section

variable {data older : Keyed Value} (h : List.Forall₂ RenamedEntry data older)
include h

lemma get?_renamed (key : String) :
    Option.Rel (fun v v' => RenamedEntry (key, v) (key, v')) (get? data key) (get? older key) := by
  induction h with
  | nil => exact .none
  | @cons entry entry' rest rest' hentry _ ih =>
    have hkey : entry.1 = entry'.1 := by cases hentry <;> rfl
    rw [get?_cons, get?_cons, ← hkey]
    by_cases hk : key = entry.1
    · subst hk
      rw [if_pos rfl, if_pos rfl]
      exact .some (by rwa [Prod.eta, hkey, Prod.eta])
    · rw [if_neg hk, if_neg hk]
      exact ih

/-- Only the type tag and the additional elements are affected. -/
lemma get?_unaffected {key : String} (hkey : key ∉ ["type", "additionalElements"]) :
    get? older key = get? data key := by
  have hrel := get?_renamed h key
  revert hrel
  generalize get? data key = v?, get? older key = v?'
  rintro (hentry | _)
  · rcases hentry.cases with rfl | ⟨rfl, -⟩ | ⟨rfl, -⟩
    · rfl
    · exact (hkey (by decide)).elim
    · exact (hkey (by decide)).elim
  · rfl

lemma getD_unaffected {key : String} (hkey : key ∉ ["type", "additionalElements"]) :
    Value.getD older key = Value.getD data key :=
  congrArg (·.getD .null) (get?_unaffected h hkey)

lemma coordinate_renamed {key : String} (hkey : key ∉ ["type", "additionalElements"])
    (default : Float) :
    Field.coordinate older key default = Field.coordinate data key default := by
  rw [Field.coordinate, Field.coordinate, getD_unaffected h hkey]

lemma readStyle_renamed : Field.readStyle older = Field.readStyle data := by
  simp (disch := decide) only [Field.readStyle, Field.number?, Field.text?, getD_unaffected h]

lemma readBox_renamed : Field.readBox older = Field.readBox data := by
  simp (disch := decide) only [Field.readBox, coordinate_renamed h]

lemma readBoxField_renamed (identity : Identity) :
    Field.readBoxField identity older = Field.readBoxField identity data := by
  rw [Field.readBoxField, Field.readBoxField, readBox_renamed h]

lemma readLine_renamed (identity : Identity) :
    Field.readLine identity older = Field.readLine identity data := by
  simp (disch := decide) only [Field.readLine, Field.text?, coordinate_renamed h, getD_unaffected h]

lemma readText_renamed (identity : Identity) :
    Field.readText identity older = Field.readText identity data := by
  simp (disch := decide) only [Field.readText, coordinate_renamed h, readStyle_renamed h]

lemma readRow_renamed (identity : Identity) :
    Field.readRow identity older = Field.readRow identity data := by
  simp (disch := decide) only [Field.readRow, coordinate_renamed h, readStyle_renamed h]

lemma readImage_renamed (id : String) (identity : Identity) :
    Field.readImage id identity older = Field.readImage id identity data := by
  simp (disch := decide) only [Field.readImage, Field.readCredit, readBox_renamed h,
    getD_unaffected h]

lemma readSpecs_renamed (id : String) : Field.readSpecs id older = Field.readSpecs id data := by
  rw [Field.readSpecs, Field.readSpecs, get?_unaffected h (by decide)]

lemma readIdentity_renamed (id : String) :
    Field.readIdentity id older = Field.readIdentity id data := by
  simp (disch := decide) only [Field.readIdentity, Field.text?, getD_unaffected h]

lemma readRowSpec_renamed (id : String) :
    Field.readRowSpec id older = Field.readRowSpec id data := by
  rw [Field.readRowSpec, Field.readRowSpec, getD_unaffected h (by decide)]

/-! ## The type tag and the additional elements -/

/-- A type tag is read alike under both names, with the same complaint about any other value. -/
lemma readType_renamed (id : String) : Field.readType id older = Field.readType id data := by
  have hrel := get?_renamed h "type"
  rw [Field.readType, Field.readType, Value.getD, Value.getD]
  revert hrel
  generalize get? data "type" = v?, get? older "type" = v?'
  rintro (hentry | _)
  · rcases hentry.cases with rfl | ⟨-, tag, older, htag, rfl, rfl⟩ | ⟨hkey, -⟩
    · rfl
    · cases htag <;> rfl
    · exact absurd hkey (by decide)
  · rfl

lemma extras_renamed : Field.extrasAreList older = Field.extrasAreList data ∧
    List.Forall₂ Renamed (Field.extrasOf data) (Field.extrasOf older) := by
  have hrel := get?_renamed h "additionalElements"
  rw [Field.extrasAreList, Field.extrasAreList, Field.extrasOf, Field.extrasOf]
  revert hrel
  generalize get? data "additionalElements" = v?, get? older "additionalElements" = v?'
  have hrefl (items : List Value) : List.Forall₂ Renamed items items :=
    List.forall₂_same.mpr fun _ _ => .same
  rintro (hentry | _)
  · rcases hentry.cases with rfl | ⟨hkey, -⟩ | ⟨-, items, olders, hitems, rfl, rfl⟩
    · exact ⟨rfl, hrefl _⟩
    · exact absurd hkey (by decide)
    · exact ⟨rfl, hitems⟩
  · exact ⟨rfl, .nil⟩

end

/-! ## Fields -/

/-- A field is read alike under both names of its type and of the types in it. -/
theorem read_renamed (raw : Value) :
    ∀ older, Renamed raw older → ∀ id, Field.read id older = Field.read id raw := by
  cases raw with
  | object data =>
    intro older h id
    cases h with
    | same => rfl
    | object hentries =>
      rename_i older
      obtain ⟨hlist, hitems⟩ := extras_renamed hentries
      have hextras : readExtras id older = readExtras id data := by
        refine mapM_zipIdx_congr
          (f := fun item i => Field.read s!"{id}.additionalElements[{i}]" item) hitems ?_ 0
        exact fun item hm item' i hr => read_renamed item item' hr _
      have has (identity : Identity) (type : FieldType) :
          readAs id older identity type = readAs id data identity type := by
        cases type <;>
          simp (disch := decide) only [readAs, readBoxField_renamed hentries,
            readLine_renamed hentries, readText_renamed hentries, readRow_renamed hentries,
            readRowSpec_renamed hentries, hlist, hextras, coordinate_renamed hentries,
            readImage_renamed hentries, readSpecs_renamed hentries]
      rw [read_object, read_object, readType_renamed hentries, readIdentity_renamed hentries]
      simp only [has]
  | _ =>
    intro older h id
    cases h
    rfl
termination_by sizeOf raw
decreasing_by exact Field.sizeOf_lt_of_mem_extras hm

/-! ## Templates -/

lemma readFields_renamed {fields olders : Keyed Value}
    (h : List.Forall₂ (fun field older => field.1 = older.1 ∧ Renamed field.2 older.2)
      fields olders) : Template.readFields olders = Template.readFields fields := by
  induction h with
  | nil => rfl
  | @cons field older fields olders hfield _ ih =>
    obtain ⟨id, raw⟩ := field
    obtain ⟨id', raw'⟩ := older
    obtain ⟨rfl, hrenamed⟩ : id = id' ∧ Renamed raw raw' := hfield
    have hread := read_renamed raw raw' hrenamed id
    unfold Template.readFields at ih ⊢
    rw [List.mapM_cons, List.mapM_cons, ih]
    dsimp only
    rw [hread]

/-- A template is read alike under both names of the types in it. -/
theorem template_read_renamed {payload older : Value} (h : RenamedTemplate payload older)
    (name? : Option String) : Template.read older name? = Template.read payload name? := by
  cases h with
  | same => rfl
  | @fields before after fields olders hfields =>
    have hother (key : String) (hkey : key ≠ "fields") :
        get? (before ++ ("fields", .object olders) :: after) key =
          get? (before ++ ("fields", .object fields) :: after) key := by
      rw [get?_append, get?_append, get?_cons, get?_cons, if_neg hkey, if_neg hkey]
    have hfound (raw : Keyed Value) :
        get? (before ++ ("fields", .object raw) :: after) "fields" =
          (get? before "fields").or (some (.object raw)) := by
      rw [get?_append, get?_cons, if_pos rfl]
    simp (disch := decide) only [Template.read, Template.readExtent, hother]
    rw [hfound, hfound]
    cases get? before "fields" with
    | some v => rfl
    | none =>
      dsimp only [Option.none_or, Option.getD_some, expectObject, bind, Except.bind]
      rw [readFields_renamed hfields]

/-! ## What is made of templates -/

lemma canonicalTag_oldName {tag older : String} (h : OldName tag older) :
    canonicalTag older = canonicalTag tag := by
  cases h <;> rfl

lemma checkFieldName_eq_ok {e : Editor} {name tag : String} {field : Field} :
    e.checkFieldName name tag = .ok field ↔
      get? e.template.fields name = some field ∧ field.type.tag = canonicalTag tag := by
  rw [Editor.checkFieldName]
  cases get? e.template.fields name with
  | none => simp
  | some field' =>
    dsimp only
    constructor
    · intro h
      split at h
      · cases h
        exact ⟨rfl, ‹_›⟩
      · cases h
    · rintro ⟨⟨⟩, htag⟩
      exact if_pos htag

/-- Editors that check the types of fields alike, whichever name a type is asked for by. -/
structure ChecksAlike (e e' : Editor) : Prop where
  same : ∀ name tag, e'.checkFieldName name tag = e.checkFieldName name tag
  renamed : ∀ name tag older, OldName tag older → ∀ field,
    (e'.checkFieldName name older = .ok field ↔ e.checkFieldName name tag = .ok field) ∧
    (e'.checkFieldName name tag = .ok field ↔ e.checkFieldName name older = .ok field)

lemma checksAlike_of_template {e e' : Editor} (h : e'.template = e.template) :
    ChecksAlike e e' := by
  have hsame (name tag : String) : e'.checkFieldName name tag = e.checkFieldName name tag := by
    rw [Editor.checkFieldName, Editor.checkFieldName, h]
  refine ⟨hsame, fun name tag older hold field => ?_⟩
  rw [hsame, hsame, checkFieldName_eq_ok, checkFieldName_eq_ok, canonicalTag_oldName hold]
  exact ⟨Iff.rfl, Iff.rfl⟩

/-- Documents that differ in the names of field types only are read as the same template, or fail
alike; so a card is built alike, one load after another or several at a time, and fields pass for
the same types under either name. -/
theorem type_names_transparent {payload older : Value} (h : RenamedTemplate payload older)
    (name? : Option String) :
    Template.read older name? = Template.read payload name? ∧
    (∀ c card, (do return build c (← Template.read older name?) card) =
      do return build c (← Template.read payload name?) card) ∧
    (∀ (τ : Type) [Add τ] [LT τ] [DecidableLT τ] (start : τ) (delay : Fetch → τ) c bound card,
      (do return buildConcurrently start delay c bound (← Template.read older name?) card) =
        do return buildConcurrently start delay c bound (← Template.read payload name?) card) ∧
    ∀ template template', Template.read payload name? = .ok template →
      Template.read older name? = .ok template' →
      (∀ c answer bound card outcome history,
        ConcurrentBuild c answer bound template' card outcome history ↔
          ConcurrentBuild c answer bound template card outcome history) ∧
      ∀ e e' : Editor, e.template = template → e'.template = template' → ChecksAlike e e' := by
  have hread := template_read_renamed h name?
  refine ⟨hread, fun c card => by rw [hread], fun τ _ _ _ start delay c bound card => by rw [hread],
    fun template template' ht ht' => ?_⟩
  obtain rfl : template = template' := Except.ok.inj (ht.symm.trans (hread.symm.trans ht'))
  refine ⟨fun _ _ _ _ _ _ => Iff.rfl, ?_⟩
  rintro e e' rfl htemplate
  exact checksAlike_of_template htemplate

/-- A list whose only additional element is the given one. -/
def listWith (element : Value) : Value := .object [
  ("type", .text "key-val-list"), ("keyValSpec", .object []),
  ("additionalElements", .list [element])]

/-- A template with a picture, and with a document inside a list inside a list. -/
def signal (picture document : String) : Value := .object [
  ("width", .int 40), ("height", .int 30), ("fields", .object [
    ("photo", .object [("type", .text picture)]),
    ("prices", listWith (listWith (.object [("type", .text document)])))])]

lemma signal_renamed : RenamedTemplate (signal "image" "svg")
    (signal "labeled-choice-image" "labeled-choice-svg") := by
  have hlist {element older : Value} (h : Renamed element older) :
      Renamed (listWith element) (listWith older) :=
    .object (.cons .same (.cons .same (.cons (.extras (.cons h .nil)) .nil)))
  refine @RenamedTemplate.fields [("width", .int 40), ("height", .int 30)] [] _ _
    (.cons ⟨rfl, ?_⟩ (.cons ⟨rfl, ?_⟩ .nil))
  · exact .object (.cons (.tag .image) .nil)
  · exact hlist (hlist (.object (.cons (.tag .svg) .nil)))

theorem signal_transparent : ∃ template, Template.read (signal "image" "svg") = .ok template ∧
    Template.read (signal "labeled-choice-image" "labeled-choice-svg") = .ok template ∧
    ∀ (card : Card) (compiler : Compiler) (field : Field),
      let e : Editor := { card, template, compiler }
      e.checkFieldName "photo" "labeled-choice-image" = .ok field ↔
        e.checkFieldName "photo" "image" = .ok field := by
  obtain ⟨hread, -, -, hall⟩ := type_names_transparent signal_renamed none
  have hok : (Template.read (signal "image" "svg")).isOk = true := by decide +kernel
  cases ht : Template.read (signal "image" "svg") with
  | error why =>
    rw [ht] at hok
    cases hok
  | ok template =>
    have ht' := hread.trans ht
    refine ⟨template, rfl, ht', fun card compiler field => ?_⟩
    exact ((((hall template template ht ht').2 _ _ rfl rfl).renamed "photo" _ _ .image) field).1

end CardDrawing.Proofs
