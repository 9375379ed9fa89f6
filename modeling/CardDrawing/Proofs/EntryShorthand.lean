import CardDrawing.Proofs.CardRoundTrip
import CardDrawing.Proofs.EffectiveValues

/-!
# Shorthand in the entries of a card

An entry may spell the keys of its value beside the selection instead of inside the value. Which
entries are read, what they fold to, and that the spelling does not matter beyond it.
-/

namespace CardDrawing.Proofs
open Keyed

variable {place : String} {raw explicit : Keyed Value} {v : Value} {entry : DataEntry}

/-! ## Selections that are read -/

/-- Nothing, one whole number, or a list of whole numbers; a boolean is not a number. -/
inductive IsSelection : Value → Prop where
  | nothing : IsSelection .null
  | one (index : Int) : IsSelection (.int index)
  | many (indices : List Int) : IsSelection (.list (indices.map .int))

lemma isSelection_iff : IsSelection v ↔ ∃ c : Option ChoiceIndex,
    v = .ofOption (c.map ChoiceIndex.toValue) := by
  constructor
  · rintro (_ | index | indices)
    · exact ⟨none, rfl⟩
    · exact ⟨some (.one index), rfl⟩
    · exact ⟨some (.many indices), rfl⟩
  · rintro ⟨_ | index | indices, rfl⟩
    · exact .nothing
    · exact .one index
    · exact .many indices

/-! ## Values that are folded -/

/-- The entries of a value that shorthand can be folded into: those of an object, or none of a
value that is absent or null. -/
inductive Spelled : Value → Keyed Value → Prop where
  | absent : Spelled .null []
  | object (explicit : Keyed Value) : Spelled (.object explicit) explicit

/-- What the value of an entry comes to. Without shorthand it is as it stands; with shorthand it is
an object, in which the entries of the value are written over the shorthand. -/
inductive FoldsTo (raw : Keyed Value) : Value → Prop where
  | plain : DataEntry.shorthand raw = [] → FoldsTo raw (Value.getD raw "value")
  | folded {explicit merged : Keyed Value} : DataEntry.shorthand raw ≠ [] →
      Spelled (Value.getD raw "value") explicit →
      Updates (DataEntry.shorthand raw) explicit merged → FoldsTo raw (.object merged)

lemma Spelled.distinct (h : Spelled v explicit) (hv : Unrepeated v) : Distinct explicit := by
  cases h with
  | absent => exact List.nodup_nil
  | object => exact hv explicit rfl

lemma foldValue_of_spelled (hshort : DataEntry.shorthand raw ≠ [])
    (h : Spelled (Value.getD raw "value") explicit) (place : String) :
    DataEntry.foldValue place raw =
      .ok (.object (overlay (DataEntry.shorthand raw) explicit)) := by
  have hinline : (DataEntry.shorthand raw).isEmpty = false := List.isEmpty_eq_false_iff.mpr hshort
  rw [DataEntry.foldValue, hinline]
  generalize Value.getD raw "value" = value at h ⊢
  cases h <;> rfl

/-- A value is folded just if there is no shorthand or it has entries to fold the shorthand into. -/
lemma exists_foldValue_iff : (∃ value, DataEntry.foldValue place raw = .ok value) ↔
    DataEntry.shorthand raw = [] ∨ ∃ explicit, Spelled (Value.getD raw "value") explicit := by
  by_cases hshort : DataEntry.shorthand raw = []
  · exact iff_of_true ⟨_, foldValue_explicit hshort place⟩ (.inl hshort)
  · have hinline := List.isEmpty_eq_false_iff.mpr hshort
    constructor
    · rintro ⟨value, h⟩
      rw [DataEntry.foldValue, hinline] at h
      generalize Value.getD raw "value" = own at h ⊢
      cases own with
      | null => exact .inr ⟨_, .absent⟩
      | object explicit => exact .inr ⟨_, .object explicit⟩
      | _ => cases h
    · rintro (h | ⟨explicit, h⟩)
      · exact (hshort h).elim
      · exact ⟨_, foldValue_of_spelled hshort h place⟩

lemma foldValue_eq_ok (hd : PlainDocument (.object raw)) :
    DataEntry.foldValue place raw = .ok v ↔ FoldsTo raw v := by
  have hinline : Distinct (DataEntry.shorthand raw) := distinct_shorthand (hd raw .refl)
  have hupdates {explicit : Keyed Value} (h : Spelled (Value.getD raw "value") explicit)
      (merged : Keyed Value) : Updates (DataEntry.shorthand raw) explicit merged ↔
        overlay (DataEntry.shorthand raw) explicit = merged :=
    updates_iff hinline (h.distinct (plain_getD hd "value").unrepeated)
  constructor
  · intro h
    by_cases hshort : DataEntry.shorthand raw = []
    · rw [foldValue_explicit hshort] at h
      cases h
      exact .plain hshort
    · obtain hnone | ⟨explicit, hspelled⟩ := exists_foldValue_iff.mp ⟨v, h⟩
      · exact (hshort hnone).elim
      · rw [foldValue_of_spelled hshort hspelled] at h
        cases h
        exact .folded hshort hspelled ((hupdates hspelled _).mpr rfl)
  · rintro (hshort | ⟨hshort, hspelled, hmerged⟩)
    · exact foldValue_explicit hshort place
    · rw [foldValue_of_spelled hshort hspelled, (hupdates hspelled _).mp hmerged]

/-! ## Entries -/

lemma exists_read_iff : (∃ entry, DataEntry.read place (.object raw) = .ok entry) ↔
    (∃ value, DataEntry.foldValue place raw = .ok value) ∧
      IsSelection (Value.getD raw "choiceIndex") := by
  simp only [dataEntry_read_eq_ok, isSelection_iff]
  constructor
  · rintro ⟨entry, hvalue, hc⟩
    exact ⟨⟨entry.value, hvalue⟩, entry.choiceIndex, hc⟩
  · rintro ⟨⟨value, hvalue⟩, c, hc⟩
    exact ⟨⟨value, c⟩, hvalue, hc⟩

/-- An object is read as an entry just if its selection is absent, null, a whole number or a list
of whole numbers, and it has no shorthand or a value to fold the shorthand into. The value of the
entry is what the object folds to, the selection is that of the object, and every object that
spells this value and this selection without shorthand is read as the same entry. -/
theorem shorthand_folds (place : String) (raw : Keyed Value) (hd : PlainDocument (.object raw)) :
    ((∃ entry, DataEntry.read place (.object raw) = .ok entry) ↔
      IsSelection (Value.getD raw "choiceIndex") ∧
      (DataEntry.shorthand raw = [] ∨ ∃ explicit, Spelled (Value.getD raw "value") explicit)) ∧
    ∀ entry, DataEntry.read place (.object raw) = .ok entry →
      FoldsTo raw entry.value ∧
      Value.getD raw "choiceIndex" = .ofOption (entry.choiceIndex.map ChoiceIndex.toValue) ∧
      ∀ plain, DataEntry.shorthand plain = [] → Value.getD plain "value" = entry.value →
        Value.getD plain "choiceIndex" = Value.getD raw "choiceIndex" →
        DataEntry.read place (.object plain) = .ok entry := by
  constructor
  · rw [exists_read_iff, exists_foldValue_iff, and_comm]
  · intro entry h
    obtain ⟨hvalue, hc⟩ := dataEntry_read_eq_ok.mp h
    refine ⟨(foldValue_eq_ok hd).mp hvalue, hc, fun plain hshort hplain hindex => ?_⟩
    have hfold := foldValue_explicit hshort place
    rw [hplain] at hfold
    exact dataEntry_read_eq_ok.mpr ⟨hfold, hindex.trans hc⟩

/-- A picture whose address is spelled twice. -/
def quayEntry : Keyed Value :=
  [("url", .text "a.png"), ("value", .object [("text", .text "Quay"), ("url", .text "b.png")]),
    ("zoom", .int 2), ("choiceIndex", .list [.int 0, .int 1])]

def quayFolded : DataEntry where
  value := .object [("url", .text "b.png"), ("zoom", .int 2), ("text", .text "Quay")]
  choiceIndex := some (.many [0, 1])

lemma quay_plain : PlainDocument (.object quayEntry) := by
  have hscalar {v : Value} (h : ∀ entries, ¬ Inside (.object entries) v) : PlainDocument v :=
    fun entries hin => (h entries hin).elim
  have htext (s : String) : PlainDocument (.text s) := hscalar fun _ hin => nomatch hin
  have hint (n : Int) : PlainDocument (.int n) := hscalar fun _ hin => nomatch hin
  have hvalue : PlainDocument (.object [("text", .text "Quay"), ("url", .text "b.png")]) :=
    plain_object (by decide) (by simp [htext])
  have hindex : PlainDocument (.list [.int 0, .int 1]) := plain_list (by simp [hint])
  exact plain_object (by decide) (by simp [quayEntry, htext, hint, hvalue, hindex])

theorem quay_folds : DataEntry.read "data.photo" (.object quayEntry) = .ok quayFolded ∧
    FoldsTo quayEntry quayFolded.value ∧
    DataEntry.read "data.photo" (.object [("choiceIndex", .list [.int 0, .int 1]),
      ("value", quayFolded.value)]) = .ok quayFolded := by
  obtain ⟨-, hread⟩ := shorthand_folds "data.photo" quayEntry quay_plain
  have hquay : DataEntry.read "data.photo" (.object quayEntry) = .ok quayFolded := by rfl
  obtain ⟨hfolds, -, hplain⟩ := hread quayFolded hquay
  exact ⟨hquay, hfolds, hplain _ rfl rfl rfl⟩

end CardDrawing.Proofs
