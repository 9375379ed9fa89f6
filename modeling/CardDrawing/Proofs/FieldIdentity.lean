import CardDrawing.Template
import CardDrawing.Proofs.Outcomes

/-!
# The identity of fields

A field that is read has the identity that its document gives it, and stands under its own id.
-/

namespace CardDrawing.Proofs

section

variable {data : Keyed Value} {identity : Identity} {id : String}

lemma readIdentity_id (h : Field.readIdentity id data = .ok identity) : identity.id = id := by
  obtain ⟨choiceIndex, -, h⟩ := bind_eq_ok.mp h
  obtain rfl := pure_eq_ok.mp h
  rfl

lemma readBoxField_identity {field : BoxField} (h : Field.readBoxField identity data = .ok field) :
    field.toIdentity = identity := by
  obtain ⟨box, -, h⟩ := bind_eq_ok.mp h
  obtain ⟨-, -, h⟩ := bind_eq_ok.mp h
  obtain rfl := pure_eq_ok.mp h
  rfl

lemma readLine_identity {field : LineField} (h : Field.readLine identity data = .ok field) :
    field.toIdentity = identity := by
  obtain ⟨startX, -, h⟩ := bind_eq_ok.mp h
  obtain ⟨startY, -, h⟩ := bind_eq_ok.mp h
  obtain ⟨endX, -, h⟩ := bind_eq_ok.mp h
  obtain ⟨endY, -, h⟩ := bind_eq_ok.mp h
  obtain ⟨width, -, h⟩ := bind_eq_ok.mp h
  obtain ⟨-, -, h⟩ := bind_eq_ok.mp h
  obtain rfl := pure_eq_ok.mp h
  rfl

lemma readText_identity {field : TextField} (h : Field.readText identity data = .ok field) :
    field.toIdentity = identity := by
  obtain ⟨x, -, h⟩ := bind_eq_ok.mp h
  obtain ⟨y, -, h⟩ := bind_eq_ok.mp h
  obtain ⟨style, -, h⟩ := bind_eq_ok.mp h
  obtain ⟨-, -, h⟩ := bind_eq_ok.mp h
  obtain rfl := pure_eq_ok.mp h
  rfl

lemma readRow_identity {row : RowField} (h : Field.readRow identity data = .ok row) :
    row.toIdentity = identity := by
  obtain ⟨keyX, -, h⟩ := bind_eq_ok.mp h
  obtain ⟨valX, -, h⟩ := bind_eq_ok.mp h
  obtain ⟨y, -, h⟩ := bind_eq_ok.mp h
  obtain ⟨style, -, h⟩ := bind_eq_ok.mp h
  obtain ⟨-, -, h⟩ := bind_eq_ok.mp h
  obtain rfl := pure_eq_ok.mp h
  rfl

lemma readImage_identity {field : ImageField}
    (h : Field.readImage id identity data = .ok field) : field.toIdentity = identity := by
  obtain ⟨credit, -, h⟩ := bind_eq_ok.mp h
  obtain ⟨box, -, h⟩ := bind_eq_ok.mp h
  obtain ⟨-, -, h⟩ := bind_eq_ok.mp h
  obtain rfl := pure_eq_ok.mp h
  rfl

lemma rowList_eq_ok {y yIncr : Number} {row : RowField} {extras : List Field} {field : Field}
    (h : Field.rowList identity y yIncr (some row) extras = .ok field) :
    field = .keyValList identity y yIncr row extras := by
  obtain ⟨-, -, h⟩ := bind_eq_ok.mp h
  exact (pure_eq_ok.mp h).symm

/-- A field that is read has the identity of its document, and a key-value list the row of its
row spec. -/
structure ReadFrom (id : String) (data : Keyed Value) (field : Field) : Prop where
  identity : Field.readIdentity id data = .ok field.identity
  row : ∀ identity y yIncr row extras, field = .keyValList identity y yIncr row extras →
    Field.readRowSpec id data = .ok row

lemma readFrom_of_map {α : Type} {read : Except Error α} {f : α → Field} {field : Field}
    {t : FieldType} (hid : Field.readIdentity id data = .ok identity)
    (h : (do return f (← read)) = .ok field) (ht : ∀ a, (f a).type = t)
    (hne : t ≠ .keyValList) (hread : ∀ a, read = .ok a → (f a).identity = identity) :
    ReadFrom id data field := by
  obtain ⟨a, ha, h⟩ := bind_eq_ok.mp h
  obtain rfl := pure_eq_ok.mp h
  refine ⟨hread a ha ▸ hid, fun _ _ _ _ _ hf => (hne ?_).elim⟩
  rw [← ht a, hf]
  rfl

lemma readFrom_of_read {field : Field} (h : Field.read id (.object data) = .ok field) :
    ReadFrom id data field := by
  rw [Field.read] at h
  obtain ⟨type, -, h⟩ := bind_eq_ok.mp h
  obtain ⟨identity, hid, h⟩ := bind_eq_ok.mp h
  cases type with
  | color => exact readFrom_of_map hid h (fun _ => rfl) (by decide) fun _ => readBoxField_identity
  | line => exact readFrom_of_map hid h (fun _ => rfl) (by decide) fun _ => readLine_identity
  | text => exact readFrom_of_map hid h (fun _ => rfl) (by decide) fun _ => readText_identity
  | keyValText => exact readFrom_of_map hid h (fun _ => rfl) (by decide) fun _ => readRow_identity
  | keyValList =>
    obtain ⟨row, hrow, h⟩ := bind_eq_ok.mp h
    split at h
    · cases h
    · obtain ⟨extras, -, h⟩ := bind_eq_ok.mp h
      obtain ⟨y, -, h⟩ := bind_eq_ok.mp h
      obtain ⟨yIncr, -, h⟩ := bind_eq_ok.mp h
      obtain rfl := rowList_eq_ok h
      refine ⟨hid, ?_⟩
      rintro _ _ _ _ _ ⟨⟩
      exact hrow
  | image => exact readFrom_of_map hid h (fun _ => rfl) (by decide) fun _ => readImage_identity
  | multiImage =>
    obtain ⟨specs, -, h⟩ := bind_eq_ok.mp h
    exact readFrom_of_map (t := .multiImage) hid h (fun _ => rfl) (by decide) fun _ _ => rfl
  | svg => exact readFrom_of_map hid h (fun _ => rfl) (by decide) fun _ => readBoxField_identity
  | colorScheme =>
    exact readFrom_of_map (t := .colorScheme) hid h (fun _ => rfl) (by decide) fun _ _ => rfl

lemma read_id {raw : Value} {field : Field} (h : Field.read id raw = .ok field) :
    field.id = id := by
  cases raw with
  | object data => exact readIdentity_id (readFrom_of_read h).identity
  | _ =>
    rw [Field.read.eq_def] at h
    cases h

end

/-- Fields that are read stand under their own ids. -/
lemma checkKeys_of_read {raw : Keyed Value} {fields : Keyed Field}
    (h : Template.readFields raw = .ok fields) : Template.checkKeys fields = .ok () := by
  have hkeyed : ∀ entry ∈ fields, entry.2.id = entry.1 := by
    intro entry hm
    obtain ⟨⟨id, v⟩, -, hread⟩ := mem_of_mapM h hm
    obtain ⟨field, hf, hread⟩ := bind_eq_ok.mp hread
    obtain rfl := pure_eq_ok.mp hread
    exact read_id hf
  clear h
  induction fields with
  | nil => rfl
  | cons entry rest ih =>
    obtain ⟨key, field⟩ := entry
    obtain ⟨hkey, hrest⟩ := List.forall_mem_cons.mp hkeyed
    rw [Template.checkKeys, if_pos hkey]
    exact ih hrest

end CardDrawing.Proofs
