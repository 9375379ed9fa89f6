import CardDrawing.Proofs.EditorCalls

/-!
# Cards that are written and read again

Reading takes several spellings of a card; writing has one. What is written of a card, however it
has come about, reads as that card.
-/

namespace CardDrawing.Proofs
open Keyed

lemma wholeNumbers_toValue (indices : List Int) :
    (indices.map Value.int).mapM wholeNumber? = some indices := by
  induction indices with
  | nil => rfl
  | cons n indices ih =>
    rw [List.map_cons, List.mapM_cons, ih]
    rfl

lemma readChoiceIndex_toValue (place : String) (index : ChoiceIndex) :
    readChoiceIndex place index.toValue = .ok (some index) := by
  cases index with
  | one n => rfl
  | many indices =>
    rw [ChoiceIndex.toValue, readChoiceIndex, wholeNumbers_toValue]

lemma wholeNumbers_eq_some {items : List Value} {indices : List Int}
    (h : items.mapM wholeNumber? = some indices) : items = indices.map .int := by
  induction items generalizing indices with
  | nil =>
    cases h
    rfl
  | cons item items ih =>
    rw [List.mapM_cons] at h
    obtain ⟨n, hn, h⟩ := Option.bind_eq_some_iff.mp h
    obtain ⟨rest, hrest, h⟩ := Option.bind_eq_some_iff.mp h
    cases h
    have hitem : item = .int n := by
      cases item with
      | int m =>
        cases hn
        rfl
      | _ => cases hn
    rw [List.map_cons, hitem, ih hrest]

/-- A selection is read just from what is written of it, and no selection from null. -/
lemma readChoiceIndex_eq_ok {place : String} {v : Value} {c : Option ChoiceIndex} :
    readChoiceIndex place v = .ok c ↔ v = .ofOption (c.map ChoiceIndex.toValue) := by
  constructor
  · intro h
    cases v with
    | null | int n =>
      cases h
      rfl
    | list items =>
      rw [readChoiceIndex] at h
      split at h
      · rename_i indices hindices
        cases h
        rw [wholeNumbers_eq_some hindices]
        rfl
      · cases h
    | _ => cases h
  · rintro rfl
    cases c with
    | none => rfl
    | some index => exact readChoiceIndex_toValue place index

/-- Without shorthand there is nothing to fold into the value, whatever keys the value has. -/
lemma foldValue_explicit {raw : Keyed Value} (h : DataEntry.shorthand raw = []) (place : String) :
    DataEntry.foldValue place raw = .ok (Value.getD raw "value") := by
  rw [DataEntry.foldValue, h]
  rfl

/-- What is read of an entry: the value that is folded, and the selection as it is written. -/
lemma dataEntry_read_eq_ok {place : String} {raw : Keyed Value} {entry : DataEntry} :
    DataEntry.read place (.object raw) = .ok entry ↔
      DataEntry.foldValue place raw = .ok entry.value ∧
        Value.getD raw "choiceIndex" = .ofOption (entry.choiceIndex.map ChoiceIndex.toValue) := by
  rw [DataEntry.read, expectObject, bind_eq_ok]
  constructor
  · rintro ⟨_, hraw, h⟩
    cases hraw
    obtain ⟨value, hvalue, h⟩ := bind_eq_ok.mp h
    obtain ⟨c, hc, h⟩ := bind_eq_ok.mp h
    cases h
    exact ⟨hvalue, readChoiceIndex_eq_ok.mp hc⟩
  · rintro ⟨hvalue, hc⟩
    refine ⟨raw, rfl, bind_eq_ok.mpr ⟨entry.value, hvalue, bind_eq_ok.mpr ⟨entry.choiceIndex, ?_⟩⟩⟩
    exact ⟨readChoiceIndex_eq_ok.mpr hc, rfl⟩

/-- The entries that are written of a data entry. -/
lemma toValue_eq (entry : DataEntry) : ∃ raw, entry.toValue = .object raw ∧
    DataEntry.shorthand raw = [] ∧ Value.getD raw "value" = entry.value ∧
    Value.getD raw "choiceIndex" = .ofOption (entry.choiceIndex.map ChoiceIndex.toValue) := by
  obtain ⟨value, choiceIndex⟩ := entry
  refine ⟨_, rfl, ?_⟩
  cases choiceIndex <;> cases value <;> exact ⟨rfl, rfl, rfl⟩

lemma dataEntry_read_toValue (place : String) (entry : DataEntry) :
    DataEntry.read place entry.toValue = .ok entry := by
  obtain ⟨raw, hraw, hshort, hvalue, hindex⟩ := toValue_eq entry
  have hfold : DataEntry.foldValue place raw = .ok entry.value := by
    rw [foldValue_explicit hshort, hvalue]
  rw [hraw]
  exact dataEntry_read_eq_ok.mpr ⟨hfold, hindex⟩

lemma readEntries_toValue (place : String) (entries : Keyed DataEntry) :
    Card.readEntries place (mapValues DataEntry.toValue entries) = .ok entries := by
  induction entries with
  | nil => rfl
  | cons entry rest ih =>
    obtain ⟨id, entry⟩ := entry
    obtain ⟨raw, hraw, -⟩ := toValue_eq entry
    have hentry := dataEntry_read_toValue s!"{place}.{id}" entry
    rw [hraw] at hentry
    have hcons : mapValues DataEntry.toValue ((id, entry) :: rest) =
        (id, .object raw) :: mapValues DataEntry.toValue rest := by
      rw [← hraw]
      rfl
    rw [hcons, Card.readEntries]
    · exact bind_eq_ok.mpr ⟨entry, hentry, bind_eq_ok.mpr ⟨rest, ih, rfl⟩⟩
    · exact fun h => nomatch h

lemma readChoices_toValue (choices : Keyed (List Value)) :
    Card.readChoices (mapValues Value.list choices) = .ok choices := by
  induction choices with
  | nil => rfl
  | cons choice rest ih => exact bind_eq_ok.mpr ⟨rest, ih, rfl⟩

lemma partOf_object {payload part : Keyed Value} {key : String}
    (h : get? payload key = some (.object part)) : Card.partOf payload key = .ok part := by
  rw [Card.partOf, Value.getD, h]
  cases part <;> rfl

lemma readDefaults_toValue (defaults : Option (Keyed DataEntry)) :
    Card.readDefaults (.ofOption (defaults.map Card.entriesValue)) = .ok defaults := by
  cases defaults with
  | none => rfl
  | some entries =>
    exact bind_eq_ok.mpr ⟨_, rfl, bind_eq_ok.mpr ⟨entries, readEntries_toValue _ entries, rfl⟩⟩

/-- The parts that are written of a card. -/
lemma card_toValue_eq (card : Card) : ∃ raw, card.toValue = .object raw ∧
    get? raw "templateName" = some (.text card.templateName) ∧
    get? raw "data" = some (Card.entriesValue card.data) ∧
    get? raw "choices" = some (.object (mapValues Value.list card.choices)) ∧
    Value.getD raw "defaultData" = .ofOption (card.defaultData.map Card.entriesValue) := by
  obtain ⟨templateName, data, choices, defaultData⟩ := card
  refine ⟨_, rfl, ?_⟩
  cases defaultData <;> exact ⟨rfl, rfl, rfl, rfl⟩

lemma card_read_toValue (card : Card) : Card.read card.toValue = .ok card := by
  obtain ⟨raw, hraw, hname, hdata, hchoices, hdefaults⟩ := card_toValue_eq card
  have hdefaults' : Card.readDefaults (Value.getD raw "defaultData") = .ok card.defaultData := by
    rw [hdefaults, readDefaults_toValue]
  rw [hraw, Card.read]
  refine bind_eq_ok.mpr ⟨_, partOf_object hdata, bind_eq_ok.mpr ⟨_, partOf_object hchoices, ?_⟩⟩
  refine bind_eq_ok.mpr ⟨_, readChoices_toValue card.choices, ?_⟩
  refine bind_eq_ok.mpr ⟨_, hdefaults', bind_eq_ok.mpr ⟨_, readEntries_toValue _ card.data, ?_⟩⟩
  rw [hname]
  rfl

/-- A document as it is written again after it has been read. -/
def rewritten (payload : Value) : Except Error Value := Card.toValue <$> Card.read payload

lemma rewritten_toValue (card : Card) : rewritten card.toValue = .ok card.toValue := by
  rw [rewritten, card_read_toValue]
  rfl

/-- What is written of a card reads as that very card, whichever card it is; so it does after a
card has been read, in whatever spelling, and edited. A document that has been rewritten once is
rewritten to itself. -/
theorem cards_read_back :
    (∀ card : Card, Card.read card.toValue = .ok card) ∧
    (∀ payload card, Card.read payload = .ok card → ∀ e : Editor, e.card = card →
      ∀ calls : List Call, Card.read (after e calls).card.toValue = .ok (after e calls).card) ∧
    ∀ payload document, rewritten payload = .ok document → rewritten document = .ok document := by
  refine ⟨card_read_toValue, fun _ _ _ e _ calls => card_read_toValue (after e calls).card, ?_⟩
  intro payload document h
  obtain ⟨card, -, rfl⟩ := map_eq_ok.mp h
  exact rewritten_toValue card

/-- A document with shorthand, an entry that is null and one that is empty, and a value with keys
like those of an entry. -/
def almanacDocument : Value :=
  .object [
    ("templateName", .text "almanac"),
    ("data", .object [
      ("title", .object [("text", .text "Woods"), ("choiceIndex", .list [.int 1, .int 0])]),
      ("photo", .object [("value", .object [("value", .null)]), ("credit", .text "R.")]),
      ("rule", .null),
      ("ink", .object []),
      ("motto", .object [("value", .text "Slowly.")])]),
    ("defaultData", .object [])]

lemma almanac_read : Card.read almanacDocument = .ok almanac.card := by rfl

/-- The edits bring keys of an entry into the values of two entries. -/
def almanacEdits : List Call :=
  [.set ⟨"title", "choiceIndex", .int 7⟩, .watch, .set ⟨"ink", "value", .null⟩]

def almanacEdited : Card where
  templateName := "almanac"
  data := [
    ("title", {
      value := .object [("text", .text "Woods"), ("choiceIndex", .int 7)]
      choiceIndex := some (.many [1, 0]) }),
    ("photo", { value := .object [("credit", .text "R."), ("value", .null)] }),
    ("ink", { value := .object [("value", .null)] }),
    ("motto", { value := .text "Slowly." })]
  defaultData := some []

lemma almanac_edited : (after almanac almanacEdits).card = almanacEdited := by rfl

theorem almanac_reads_back : Card.read almanacDocument = .ok almanac.card ∧
    Card.read almanacEdited.toValue = .ok almanacEdited ∧
    rewritten almanac.card.toValue = .ok almanac.card.toValue := by
  obtain ⟨-, hedited, hagain⟩ := cards_read_back
  have hback := hedited _ _ almanac_read almanac rfl almanacEdits
  rw [almanac_edited] at hback
  have hdocument : rewritten almanacDocument = .ok almanac.card.toValue := by
    rw [rewritten, almanac_read]
    rfl
  exact ⟨almanac_read, hback, hagain _ _ hdocument⟩

end CardDrawing.Proofs
