import CardDrawing.Card.Basic
import CardDrawing.Proofs.FieldIdentity
import CardDrawing.Proofs.NumberFailures

/-!
# How reading a document fails

A document of the wrong shape is reported as field data, and a type tag that names no type as an
unsupported field type. What is not guarded is the conversion of numbers: a value that does not
convert is reported as the conversion reports it. None of these errors is internal.
-/

namespace CardDrawing.Proofs

/-! ## Numbers in documents -/

/-- A value is a part of another one, or that value itself. -/
inductive Inside (v : Value) : Value → Prop where
  | refl : Inside v v
  | item {w : Value} {items : List Value} : w ∈ items → Inside v w → Inside v (.list items)
  | entry {key : String} {w : Value} {entries : Keyed Value} : (key, w) ∈ entries → Inside v w →
      Inside v (.object entries)

lemma Inside.trans {u v w : Value} (h : Inside u v) (h' : Inside v w) : Inside u w := by
  induction h' with
  | refl => exact h
  | item hm _ ih => exact .item hm ih
  | entry hm _ ih => exact .entry hm ih

lemma Inside.of_get? {entries : Keyed Value} {key : String} {v : Value}
    (h : Keyed.get? entries key = some v) : Inside v (.object entries) :=
  .entry (Keyed.mem_of_get? h) .refl

/-- The attributes of fields that are numbers. -/
def numberKeys : List String :=
  ["x", "y", "width", "height", "startX", "startY", "endX", "endY", "keyX", "valX", "yIncr",
    "fontSize", "wrapAt"]

/-- A number under one of the keys, at whatever depth of a value, does not convert. -/
def Unconverted (keys : List String) (raw : Value) (why : Error) : Prop :=
  ∃ data key v, Inside (.object data) raw ∧ key ∈ keys ∧ Keyed.get? data key = some v ∧
    v.toFloat = .error why

lemma Unconverted.within {keys : List String} {raw whole : Value} {why : Error}
    (h : Unconverted keys raw why) (hi : Inside raw whole) : Unconverted keys whole why := by
  obtain ⟨data, key, v, hin, hkey, hv, hwhy⟩ := h
  exact ⟨data, key, v, hin.trans hi, hkey, hv, hwhy⟩

lemma Unconverted.foreign {keys : List String} {raw : Value} {why : Error}
    (h : Unconverted keys raw why) : Foreign why := by
  obtain ⟨-, -, v, -, -, -, hwhy⟩ := h
  exact toFloat_foreign v why hwhy

/-- How the reading of a field fails: for its shape, for its type tag, or for a number. -/
inductive FieldFailure (raw : Value) (why : Error) : Prop where
  | shape : Told .fieldData why → FieldFailure raw why
  | tag : Told .unsupportedFieldType why → FieldFailure raw why
  | number : Unconverted numberKeys raw why → FieldFailure raw why

lemma FieldFailure.within {raw whole : Value} {why : Error} (h : FieldFailure raw why)
    (hi : Inside raw whole) : FieldFailure whole why := by
  cases h with
  | shape h => exact .shape h
  | tag h => exact .tag h
  | number h => exact .number (h.within hi)

lemma FieldFailure.regular {raw : Value} {why : Error} (h : FieldFailure raw why) :
    Regular why := by
  cases h with
  | shape h => exact h.regular
  | tag h => exact h.regular
  | number h => exact h.foreign.regular

/-! ## Shapes -/

lemma expectObject_eq_ok {place : String} {raw : Value} {entries : Keyed Value} :
    expectObject place raw = .ok entries ↔ raw = .object entries := by
  cases raw <;> simp [expectObject]

lemma expectObject_fails (place : String) (raw : Value) :
    FailsOnly (Told .fieldData) (expectObject place raw) := by
  cases raw with
  | object entries => exact .ok
  | _ => exact .error ⟨rfl, rfl⟩

lemma readChoiceIndex_fails (place : String) (raw : Value) :
    FailsOnly (Told .fieldData) (readChoiceIndex place raw) := by
  unfold readChoiceIndex
  split
  · exact .ok
  · exact .ok
  · split
    · exact .ok
    · exact .error ⟨rfl, rfl⟩
  · exact .error ⟨rfl, rfl⟩

lemma checkId_fails (id : String) : FailsOnly (Told .fieldData) (Field.checkId id) :=
  .ite (fun _ => .error ⟨rfl, rfl⟩) fun _ => .ok

/-! ## Attributes -/

section

variable {data : Keyed Value} {identity : Identity} {id : String}

lemma getD_cases (data : Keyed Value) (key : String) :
    Value.getD data key = .null ∨ Keyed.get? data key = some (Value.getD data key) := by
  rw [Value.getD]
  cases Keyed.get? data key with
  | none => exact .inl rfl
  | some v => exact .inr rfl

lemma coordinate_fails {key : String} {default : Float} (hkey : key ∈ numberKeys) :
    FailsOnly (FieldFailure (.object data)) (Field.coordinate data key default) := by
  intro why h
  unfold Field.coordinate at h
  split at h
  · cases h
  · rename_i hne
    have hv := (getD_cases data key).resolve_left hne
    exact .number ⟨data, key, _, .refl, hkey, hv, map_eq_error (f := Number.real).mp h⟩

lemma number?_unconverted {keys : List String} {key : String} (hkey : key ∈ keys) :
    FailsOnly (Unconverted keys (.object data)) (Field.number? data key) := by
  intro why h
  have h := map_eq_error (f := fun x : Option Float => x.map Number.real).mp h
  unfold Value.toFloat? at h
  split at h
  · cases h
  · rename_i hne
    have hv := (getD_cases data key).resolve_left hne
    exact ⟨data, key, _, .refl, hkey, hv, map_eq_error (f := some).mp h⟩

lemma number?_fails {key : String} (hkey : key ∈ numberKeys) :
    FailsOnly (FieldFailure (.object data)) (Field.number? data key) :=
  (number?_unconverted hkey).imp fun _ => .number

lemma readStyle_fails : FailsOnly (FieldFailure (.object data)) (Field.readStyle data) :=
  .bind (number?_fails (by decide)) fun _ _ => .bind (number?_fails (by decide)) fun _ _ => .ok

lemma readBox_fails : FailsOnly (FieldFailure (.object data)) (Field.readBox data) :=
  .bind (coordinate_fails (by decide)) fun _ _ => .bind (coordinate_fails (by decide)) fun _ _ =>
    .bind (coordinate_fails (by decide)) fun _ _ => .bind (coordinate_fails (by decide)) fun _ _ =>
      .ok

lemma readBoxField_fails :
    FailsOnly (FieldFailure (.object data)) (Field.readBoxField identity data) :=
  .bind readBox_fails fun _ _ => .bind ((checkId_fails _).imp fun _ => .shape) fun _ _ => .ok

lemma readLine_fails : FailsOnly (FieldFailure (.object data)) (Field.readLine identity data) := by
  unfold Field.readLine
  refine .bind (coordinate_fails (by decide)) fun startX _ => ?_
  refine .bind (coordinate_fails (by decide)) fun startY _ => ?_
  refine .bind (coordinate_fails (by decide)) fun endX _ => ?_
  refine .bind (coordinate_fails (by decide)) fun endY _ => ?_
  refine .bind (coordinate_fails (by decide)) fun width _ => ?_
  exact .bind ((checkId_fails _).imp fun _ => .shape) fun _ _ => .ok

lemma readText_fails : FailsOnly (FieldFailure (.object data)) (Field.readText identity data) := by
  unfold Field.readText
  refine .bind (coordinate_fails (by decide)) fun x _ => ?_
  refine .bind (coordinate_fails (by decide)) fun y _ => ?_
  refine .bind readStyle_fails fun style _ => ?_
  exact .bind ((checkId_fails _).imp fun _ => .shape) fun _ _ => .ok

lemma readRow_fails : FailsOnly (FieldFailure (.object data)) (Field.readRow identity data) := by
  unfold Field.readRow
  refine .bind (coordinate_fails (by decide)) fun keyX _ => ?_
  refine .bind (coordinate_fails (by decide)) fun valX _ => ?_
  refine .bind (coordinate_fails (by decide)) fun y _ => ?_
  refine .bind readStyle_fails fun style _ => ?_
  exact .bind ((checkId_fails _).imp fun _ => .shape) fun _ _ => .ok

/-! ## Nested objects and lists -/

lemma nested_fails {α : Type} {place : String} {raw whole : Value}
    {f : Keyed Value → Except Error α} (hin : Inside raw whole)
    (hf : ∀ entries, FailsOnly (FieldFailure (.object entries)) (f entries)) :
    FailsOnly (FieldFailure whole) (expectObject place raw >>= f) := by
  refine .bind ((expectObject_fails place raw).imp fun _ => .shape) fun entries he => ?_
  obtain rfl := expectObject_eq_ok.mp he
  exact (hf entries).imp fun why h => h.within hin

lemma inside_getD {key : String} (h : Value.getD data key ≠ .null) :
    Inside (Value.getD data key) (.object data) :=
  .of_get? ((getD_cases data key).resolve_left h)

lemma readCredit_fails : FailsOnly (FieldFailure (.object data)) (Field.readCredit id data) := by
  refine .ite (fun hraw => nested_fails (inside_getD ?_) fun entries => ?_) fun _ => .ok
  · intro hnull
    rw [hnull] at hraw
    cases hraw
  · exact .bind readText_fails fun _ _ => .ok

lemma readImage_fails :
    FailsOnly (FieldFailure (.object data)) (Field.readImage id identity data) := by
  unfold Field.readImage
  refine .bind readCredit_fails fun credit _ => ?_
  refine .bind readBox_fails fun box _ => ?_
  exact .bind ((checkId_fails _).imp fun _ => .shape) fun _ _ => .ok

lemma readSpec_fails (row i : Nat) (raw : Value) :
    FailsOnly (FieldFailure raw) (Field.readSpec id row i raw) :=
  nested_fails .refl fun _ => readImage_fails

lemma readSpecRow_fails (row : Nat) (raw : Value) :
    FailsOnly (FieldFailure raw) (Field.readSpecRow id row raw) := by
  cases raw with
  | list items =>
    refine .mapM fun entry hm => ?_
    have hitem := List.fst_mem_of_mem_zipIdx hm
    exact (readSpec_fails row entry.2 entry.1).imp fun why h => h.within (.item hitem .refl)
  | _ => exact .error (.shape ⟨rfl, rfl⟩)

lemma readSpecs_fails : FailsOnly (FieldFailure (.object data)) (Field.readSpecs id data) := by
  unfold Field.readSpecs
  split
  · rename_i rows hrows
    refine .mapM fun entry hm => ?_
    have hrow := List.fst_mem_of_mem_zipIdx hm
    -- without an attribute there are no rows, and with one they stand in it
    have hin : Inside (.list rows) (.object data) := by
      cases hget : Keyed.get? data "specs" with
      | none =>
        rw [hget] at hrows
        cases hrows
        cases hrow
      | some specs =>
        rw [hget] at hrows
        obtain rfl : specs = .list rows := hrows
        exact .of_get? hget
    exact (readSpecRow_fails entry.2 entry.1).imp fun why h =>
      h.within (Inside.trans (.item hrow .refl) hin)
  · exact .error (.shape ⟨rfl, rfl⟩)

lemma readType_fails (id : String) (data : Keyed Value) :
    FailsOnly (FieldFailure (.object data)) (Field.readType id data) := by
  unfold Field.readType
  split
  · refine .ite (fun _ => .error (.shape ⟨rfl, rfl⟩)) fun _ => ?_
    split
    · exact .ok
    · exact .error (.tag ⟨rfl, rfl⟩)
  · exact .error (.shape ⟨rfl, rfl⟩)

lemma readIdentity_fails (id : String) (data : Keyed Value) :
    FailsOnly (FieldFailure (.object data)) (Field.readIdentity id data) :=
  .bind ((readChoiceIndex_fails _ _).imp fun _ => .shape) fun _ _ => .ok

lemma readRowSpec_fails : FailsOnly (FieldFailure (.object data)) (Field.readRowSpec id data) := by
  unfold Field.readRowSpec
  split
  · exact .error (.shape ⟨rfl, rfl⟩)
  · rename_i hne
    exact nested_fails (inside_getD hne) fun _ => readRow_fails

lemma rowList_fails {y yIncr : Number} {row? : Option RowField} {extras : List Field} :
    FailsOnly (FieldFailure (.object data)) (Field.rowList identity y yIncr row? extras) := by
  refine .bind ((checkId_fails _).imp fun _ => .shape) fun _ _ => ?_
  split
  · exact .ok
  · exact .error (.shape ⟨rfl, rfl⟩)

lemma inside_extras {v : Value} (h : v ∈ Field.extrasOf data) : Inside v (.object data) := by
  unfold Field.extrasOf at h
  split at h
  · rename_i items hget
    exact Inside.trans (.item h .refl) (.of_get? hget)
  · cases h

end

/-- Reading a field fails for its shape, for its type tag, or for a number that does not convert,
at whatever depth. -/
theorem field_read_fails (id : String) (raw : Value) :
    FailsOnly (FieldFailure raw) (Field.read id raw) := by
  cases raw with
  | object data =>
    rw [Field.read]
    refine .bind (readType_fails id data) fun type _ => ?_
    refine .bind (readIdentity_fails id data) fun identity _ => ?_
    cases type with
    | color => exact .bind readBoxField_fails fun _ _ => .ok
    | line => exact .bind readLine_fails fun _ _ => .ok
    | text => exact .bind readText_fails fun _ _ => .ok
    | keyValText => exact .bind readRow_fails fun _ _ => .ok
    | keyValList =>
      refine .bind readRowSpec_fails fun row _ => ?_
      refine .ite (fun _ => .error (.shape ⟨rfl, rfl⟩)) fun _ => ?_
      refine .bind (.mapM fun entry hm => ?_) fun extras _ => ?_
      · -- an additional element is a part of the document, and so is the number it fails for
        have hitem : entry.1.1 ∈ Field.extrasOf data := entry.1.2
        exact (field_read_fails _ entry.1.1).imp fun why h => h.within (inside_extras hitem)
      · refine .bind (coordinate_fails (by decide)) fun y _ => ?_
        exact .bind (coordinate_fails (by decide)) fun yIncr _ => rowList_fails
    | image => exact .bind readImage_fails fun _ _ => .ok
    | multiImage =>
      refine .bind readSpecs_fails fun specs _ => ?_
      exact .bind ((checkId_fails _).imp fun _ => .shape) fun _ _ => .ok
    | svg => exact .bind readBoxField_fails fun _ _ => .ok
    | colorScheme => exact .bind ((checkId_fails _).imp fun _ => .shape) fun _ _ => .ok
  | _ =>
    rw [Field.read.eq_def]
    exact .error (.shape ⟨rfl, rfl⟩)
termination_by sizeOf raw
decreasing_by exact Field.sizeOf_lt_of_mem_extras hitem

/-! ## Templates -/

/-- How the reading of a template fails: as a field of it, or for a side of its extent that does
not convert. -/
inductive TemplateFailure (entries : Keyed Value) (why : Error) : Prop where
  | field : FieldFailure (.object entries) why → TemplateFailure entries why
  | extent {key : String} {v : Value} : key ∈ ["width", "height"] →
      Keyed.get? entries key = some v → v.toInt = .error why → TemplateFailure entries why

section

variable {entries : Keyed Value}

lemma readExtent_fails {key : String} (hkey : key ∈ ["width", "height"]) :
    FailsOnly (TemplateFailure entries) (Template.readExtent entries key) := by
  intro why h
  unfold Template.readExtent at h
  split at h
  · exact .extent hkey ‹_› h
  · exact FailsOnly.error (.field (.shape ⟨rfl, rfl⟩)) why h

lemma readFields_fails (raw : Keyed Value) :
    FailsOnly (FieldFailure (.object raw)) (Template.readFields raw) := by
  refine .mapM fun entry hm => .bind ?_ fun _ _ => .ok
  exact (field_read_fails entry.1 entry.2).imp fun why h => h.within (.entry hm .refl)

/-- Parts whose fields stand under their own ids can only lack an area. -/
lemma ofParts_fails {name : String} {width height : Number} {fields : Keyed Field}
    (h : Template.checkKeys fields = .ok ()) :
    FailsOnly (Told .fieldData) (Template.ofParts name width height fields) := by
  refine .ite (fun _ => .error ⟨rfl, rfl⟩) fun _ => ?_
  rw [h]
  exact .ok

lemma readFields_within {raw : Keyed Value}
    (h : (Keyed.get? entries "fields").getD (.object []) = .object raw) :
    FailsOnly (FieldFailure (.object entries)) (Template.readFields raw) := by
  cases hget : Keyed.get? entries "fields" with
  | none =>
    rw [hget] at h
    cases h
    exact .ok
  | some fields =>
    rw [hget] at h
    obtain rfl : fields = .object raw := h
    exact (readFields_fails raw).imp fun why h => h.within (.of_get? hget)

theorem template_read_fails (entries : Keyed Value) (name? : Option String) :
    FailsOnly (TemplateFailure entries) (Template.read (.object entries) name?) := by
  unfold Template.read
  refine .bind ((expectObject_fails _ _).imp fun _ h => .field (.shape h)) fun raw hraw => ?_
  refine .bind (readExtent_fails (by decide)) fun width _ => ?_
  refine .bind (readExtent_fails (by decide)) fun height _ => ?_
  have hfields := readFields_within (expectObject_eq_ok.mp hraw)
  refine .bind (hfields.imp fun _ => .field) fun fields hread => ?_
  exact (ofParts_fails (checkKeys_of_read hread)).imp fun _ h => .field (.shape h)

lemma TemplateFailure.regular {why : Error} (h : TemplateFailure entries why) : Regular why := by
  cases h with
  | field h => exact h.regular
  | extent _ _ h => exact (toInt_foreign _ why h).regular

theorem template_read_regular (payload : Value) (name? : Option String) :
    FailsOnly Regular (Template.read payload name?) := by
  cases payload with
  | object entries => exact (template_read_fails entries name?).imp fun _ => TemplateFailure.regular
  | _ => exact .error rfl

end

/-! ## Cards -/

lemma foldValue_fails (place : String) (raw : Keyed Value) :
    FailsOnly (Told .fieldData) (DataEntry.foldValue place raw) := by
  refine .ite (fun _ => .ok) fun _ => ?_
  split
  · exact .ok
  · exact .ok
  · exact .error ⟨rfl, rfl⟩

lemma dataEntry_read_fails (place : String) (raw : Value) :
    FailsOnly (Told .fieldData) (DataEntry.read place raw) :=
  .bind (expectObject_fails place raw) fun entries _ => .bind (foldValue_fails place entries)
    fun _ _ => .bind (readChoiceIndex_fails _ _) fun _ _ => .ok

lemma partOf_fails (payload : Keyed Value) (key : String) :
    FailsOnly (Told .fieldData) (Card.partOf payload key) :=
  .ite (fun _ => expectObject_fails key _) fun _ => .ok

lemma readChoices_fails (raw : Keyed Value) :
    FailsOnly (Told .fieldData) (Card.readChoices raw) := by
  induction raw with
  | nil => exact .ok
  | cons entry rest ih =>
    obtain ⟨id, v⟩ := entry
    cases v with
    | list items => exact .bind ih fun _ _ => .ok
    | _ => exact .error ⟨rfl, rfl⟩

lemma readEntries_fails (place : String) (raw : Keyed Value) :
    FailsOnly (Told .fieldData) (Card.readEntries place raw) := by
  induction raw with
  | nil => exact .ok
  | cons entry rest ih =>
    obtain ⟨id, v⟩ := entry
    cases v with
    | null => exact ih
    | _ => exact .bind (dataEntry_read_fails _ _) fun _ _ => .bind ih fun _ _ => .ok

lemma readDefaults_fails (raw : Value) :
    FailsOnly (Told .fieldData) (Card.readDefaults raw) := by
  unfold Card.readDefaults
  split
  · exact .ok
  · exact .bind (expectObject_fails _ _) fun _ _ => .bind (readEntries_fails _ _) fun _ _ => .ok

/-- Nothing of a card is converted when it is read. -/
theorem card_read_fails (entries : Keyed Value) :
    FailsOnly (Told .fieldData) (Card.read (.object entries)) := by
  unfold Card.read
  refine .bind (partOf_fails _ _) fun data _ => ?_
  refine .bind (partOf_fails _ _) fun choices _ => ?_
  refine .bind (readChoices_fails _) fun choices _ => ?_
  refine .bind (readDefaults_fails _) fun defaultData _ => ?_
  exact .bind (readEntries_fails _ _) fun data _ => .ok

end CardDrawing.Proofs
