import CardDrawing.Proofs.BuildFailures
import CardDrawing.Proofs.BuildIsolation
import CardDrawing.Proofs.EditorCalls
import CardDrawing.Proofs.Overrides

/-!
# Effective values after an edit

Setting an attribute of a field changes what the card itself holds for the field. Where the card
holds something, this is as good as laying the attribute over the effective value; where it holds
nothing, the attribute is all that is left.
-/

namespace CardDrawing.Proofs
open Keyed

variable {e next : Editor} {card : Card} {edit : Edit} {field : Field} {f g a : String} {x : Value}

/-! ## Objects without repeated keys -/

/-- If the value is an object, it has no key twice. -/
def Unrepeated (v : Value) : Prop := ∀ entries, v = .object entries → Distinct entries

lemma unrepeated_object {entries : Keyed Value} (h : Distinct entries) :
    Unrepeated (.object entries) := by
  intro entries' he
  cases he
  exact h

lemma unrepeated_null : Unrepeated .null := by
  intro entries he
  cases he

lemma unrepeated_of_editable? {v : Value} {entries : Keyed Value} (hv : Unrepeated v)
    (h : editable? v = some entries) : Distinct entries := by
  rcases editable?_eq_some.mp h with ⟨-, rfl⟩ | rfl
  · exact List.nodup_nil
  · exact hv entries rfl

lemma unrepeated_edited (h : ∀ id, Unrepeated (ownValue card id)) (edit : Edit) :
    ∀ id, Unrepeated (ownValue (edited card edit) id) := by
  intro id
  rw [ownValue, get?_edited]
  split
  · refine unrepeated_object (distinct_put ?_ _ _)
    cases hv : editable? (ownValue card edit.field) with
    | none => exact List.nodup_nil
    | some entries => exact unrepeated_of_editable? (h edit.field) hv
  · exact h id

/-! ## What a document says -/

/-- No object in the document has a key twice. -/
def PlainDocument (payload : Value) : Prop :=
  ∀ entries, Inside (.object entries) payload → Distinct entries

lemma PlainDocument.inside {payload v : Value} (h : PlainDocument payload)
    (hin : Inside v payload) : PlainDocument v :=
  fun entries he => h entries (he.trans hin)

lemma PlainDocument.tail {entry : String × Value} {rest : Keyed Value}
    (h : PlainDocument (.object (entry :: rest))) : PlainDocument (.object rest) := by
  intro entries hin
  cases hin with
  | refl => exact (List.nodup_cons.mp (h _ .refl)).2
  | entry hm hin => exact h entries (.entry (List.mem_cons_of_mem entry hm) hin)

lemma PlainDocument.unrepeated {v : Value} (h : PlainDocument v) : Unrepeated v := by
  rintro entries rfl
  exact h entries .refl

lemma distinct_overlay {base : Keyed Value} (h : Distinct base) (added : Keyed Value) :
    Distinct (overlay base added) := by
  induction added generalizing base with
  | nil => exact h
  | cons entry rest ih => exact ih (distinct_put h entry.1 entry.2)

lemma distinct_shorthand {raw : Keyed Value} (h : Distinct raw) :
    Distinct (DataEntry.shorthand raw) :=
  h.sublist (List.filter_sublist.map Prod.fst)

lemma unrepeated_foldValue {place : String} {raw : Keyed Value} {v : Value}
    (hd : PlainDocument (.object raw)) (h : DataEntry.foldValue place raw = .ok v) :
    Unrepeated v := by
  have hshort := distinct_shorthand (hd raw .refl)
  have hvalue : Unrepeated (Value.getD raw "value") := by
    rcases getD_cases raw "value" with hnull | hget
    · exact hnull ▸ unrepeated_null
    · exact (hd.inside (.of_get? hget)).unrepeated
  rw [DataEntry.foldValue] at h
  split at h
  · cases h
    exact hvalue
  · split at h
    · cases h
      exact unrepeated_object hshort
    · cases h
      exact unrepeated_object (distinct_overlay hshort _)
    · cases h

lemma unrepeated_readEntries {place : String} {raw : Keyed Value} {entries : Keyed DataEntry}
    (hd : PlainDocument (.object raw)) (h : Card.readEntries place raw = .ok entries) :
    ∀ entry ∈ entries, Unrepeated entry.2.value := by
  induction raw generalizing entries with
  | nil =>
    cases h
    simp
  | cons entry rest ih =>
    obtain ⟨id, v⟩ := entry
    by_cases hv : v = .null
    · subst hv
      exact ih hd.tail h
    · rw [Card.readEntries] at h
      · obtain ⟨own, hown, h⟩ := bind_eq_ok.mp h
        obtain ⟨others, hothers, h⟩ := bind_eq_ok.mp h
        obtain rfl := pure_eq_ok.mp h
        obtain ⟨fields, hfields, hown⟩ := bind_eq_ok.mp hown
        obtain ⟨value, hvalue, hown⟩ := bind_eq_ok.mp hown
        obtain ⟨index, -, hown⟩ := bind_eq_ok.mp hown
        obtain rfl := pure_eq_ok.mp hown
        obtain rfl := expectObject_eq_ok.mp hfields
        have hinside := hd.inside (.entry List.mem_cons_self .refl)
        exact List.forall_mem_cons.mpr ⟨unrepeated_foldValue hinside hvalue, ih hd.tail hothers⟩
      · exact hv

lemma plain_partOf {payload part : Keyed Value} {key : String}
    (hd : PlainDocument (.object payload)) (h : Card.partOf payload key = .ok part) :
    PlainDocument (.object part) := by
  rw [Card.partOf] at h
  split at h
  · rename_i hholds
    have hraw := expectObject_eq_ok.mp h
    refine hd.inside ?_
    rw [← hraw]
    refine inside_getD fun hnull => ?_
    rw [hnull] at hholds
    cases hholds
  · cases h
    intro entries hin
    cases hin with
    | refl => exact List.nodup_nil
    | entry hm _ => cases hm

/-- What a card holds for its fields repeats no key, if it has been read from a document that
repeats none, whatever edits have been made since. -/
theorem unrepeated_of_read {payload : Value} (hd : PlainDocument payload)
    (h : Card.read payload = .ok e.card) (calls : List Call) :
    ∀ id, Unrepeated (ownValue (after e calls).card id) := by
  have hread : ∀ id, Unrepeated (ownValue e.card id) := by
    cases payload with
    | object entries =>
      obtain ⟨part, hpart, h⟩ := bind_eq_ok.mp h
      obtain ⟨choicesPart, -, h⟩ := bind_eq_ok.mp h
      obtain ⟨choices, -, h⟩ := bind_eq_ok.mp h
      obtain ⟨defaults, -, h⟩ := bind_eq_ok.mp h
      obtain ⟨data, hdata, h⟩ := bind_eq_ok.mp h
      have hcard := pure_eq_ok.mp h
      intro id
      rw [ownValue, ← hcard]
      cases hget : get? data id with
      | none => exact unrepeated_null
      | some entry =>
        exact unrepeated_readEntries (plain_partOf hd hpart) hdata _ (mem_of_get? hget)
    | _ => cases h
  rw [card_after]
  generalize made e calls = edits
  generalize e.card = card at hread
  induction edits generalizing card with
  | nil => exact hread
  | cons edit edits ih => exact ih (edited card edit) (unrepeated_edited hread edit)

/-! ## What an edit does to the effective value -/

/-- An attribute that is set in a source is laid over whatever the source comes to. -/
lemma resolve_edited {entry : DataEntry} {entries : Keyed Value} (hv : Unrepeated entry.value)
    (he : editable? entry.value = some entries) (a : String) (x : Value) (id : String)
    (choices? : Option (List Value)) :
    DataEntry.resolve { entry with value := .object (put entries a x) } id choices? =
      (mergeOverride · (.object [(a, x)])) <$> entry.resolve id choices? := by
  obtain ⟨value, choiceIndex⟩ := entry
  have hvalue : value = .null ∧ entries = [] ∨ value = .object entries := editable?_eq_some.mp he
  cases choiceIndex with
  | none => rcases hvalue with ⟨rfl, rfl⟩ | rfl <;> rfl
  | some index =>
    unfold DataEntry.resolve
    dsimp only
    cases resolveChoice index.toValue choices? with
    | error why => rfl
    | ok chosen =>
      rcases hvalue with ⟨rfl, rfl⟩ | rfl
      · rfl
      · -- the override that was there and the new attribute are laid over the choice at once
        exact congrArg Except.ok (mergeOverride_mergeOverride (hv _ rfl) [(a, x)] chosen).symm

lemma resolveValue_of_entry {entry : DataEntry} (h : get? card.data field.id = some entry) :
    resolveValue field card = entry.resolve field.id (get? card.choices field.id) := by
  rw [resolveValue, selectSource, h]

lemma fieldValue_of_field (h : get? e.template.fields f = some field) :
    e.fieldValue f = resolveValue field e.card := by
  rw [Editor.fieldValue, Template.getField, h]
  rfl

lemma agreeExcept_edited (card : Card) (edit : Edit) :
    AgreeExcept edit.field card (edited card edit) := by
  intro id hid
  exact ⟨by rw [get?_edited, if_neg hid], rfl, rfl⟩

/-- An effective value has an override laid over it; if there is none, for the same reason, it is
because a choice cannot be looked up. -/
structure Overridden (override : Value) (before after : Except Error Value) : Prop where
  value : ∀ v, before = .ok v → after = .ok (mergeOverride v override)
  failure : ∀ why, after = .error why ↔ before = .error why
  lookup : ∀ why, before = .error why → why.kind = .choiceLookup

lemma overridden_of_eq {override : Value} {before after : Except Error Value}
    (h : after = (mergeOverride · override) <$> before)
    (hb : FailsOnly (·.kind = .choiceLookup) before) : Overridden override before after where
  value := fun v hv => by
    rw [h, hv]
    rfl
  failure := fun why => by rw [h, map_eq_error]
  lookup := hb

lemma setAttribute_eq_ok (h : e.setAttribute f a x = .ok next) :
    Accepts e ⟨f, a, x⟩ ∧ next.template = e.template ∧ next.card = edited e.card ⟨f, a, x⟩ := by
  have ha : Accepts e ⟨f, a, x⟩ := accepts_of_ok h
  obtain rfl := Except.ok.inj ((perform_accepted ha).symm.trans h)
  exact ⟨ha, rfl, rfl⟩

section

variable (hw : WellFormed e.template) (h : e.setAttribute f a x = .ok next)
include hw h

lemma fieldValue_edited : ∃ field, field.id = f ∧ e.fieldValue f = resolveValue field e.card ∧
    next.fieldValue f = resolveValue field (edited e.card ⟨f, a, x⟩) := by
  obtain ⟨ha, htemplate, hcard⟩ := setAttribute_eq_ok h
  obtain ⟨field, hf⟩ := Option.isSome_iff_exists.mp ha.1
  have hafter := fieldValue_of_field (htemplate ▸ hf)
  rw [hcard] at hafter
  exact ⟨field, hw.keyed _ (mem_of_get? hf), fieldValue_of_field hf, hafter⟩

lemma fieldValue_other (hg : g ≠ f) : next.fieldValue g = e.fieldValue g := by
  obtain ⟨-, htemplate, hcard⟩ := setAttribute_eq_ok h
  rw [Editor.fieldValue, Editor.fieldValue, htemplate, hcard]
  cases hget : e.template.getField g with
  | error why => rfl
  | ok field =>
    have hid : field.id = g := by
      rw [Template.getField] at hget
      split at hget
      · rename_i hfield
        cases hget
        exact hw.keyed _ (mem_of_get? hfield)
      · cases hget
    exact (resolveValue_congr (agreeExcept_edited e.card ⟨f, a, x⟩ field.id (hid ▸ hg))).symm

lemma fieldValue_of_present (hv : Unrepeated (ownValue e.card f)) {entry : DataEntry}
    (hentry : get? e.card.data f = some entry) :
    next.fieldValue f = (mergeOverride · (.object [(a, x)])) <$> e.fieldValue f := by
  obtain ⟨field, rfl, hbefore, hafter⟩ := fieldValue_edited hw h
  have hown : ownValue e.card field.id = entry.value := by rw [ownValue, hentry, Option.getD_some]
  obtain ⟨entries, he⟩ := Option.isSome_iff_exists.mp (setAttribute_eq_ok h).1.2
  have hput : get? (edited e.card ⟨field.id, a, x⟩).data field.id =
      some { entry with value := .object (put entries a x) } := by
    rw [get?_edited, if_pos rfl, he, selection?, hentry]
    rfl
  rw [hown] at hv he
  rw [hafter, hbefore, resolveValue_of_entry hentry, resolveValue_of_entry hput]
  exact resolve_edited hv he a x field.id _

lemma fieldValue_of_absent (hentry : get? e.card.data f = none) :
    next.fieldValue f = .ok (.object [(a, x)]) := by
  obtain ⟨field, rfl, -, hafter⟩ := fieldValue_edited hw h
  have hput : get? (edited e.card ⟨field.id, a, x⟩).data field.id =
      some { value := .object [(a, x)] } := by
    rw [get?_edited, if_pos rfl, ownValue, selection?, hentry]
    rfl
  rw [hafter, resolveValue_of_entry hput]
  rfl

/-- An edit of a field with an entry of its own lays the attribute over the effective value of the
field, and a choice that could not be looked up before cannot be looked up after it. Of a field
without an entry the attribute becomes the whole value. No other field is affected. -/
theorem edit_overrides (hv : Unrepeated (ownValue e.card f)) :
    (∀ entry, get? e.card.data f = some entry →
      Overridden (.object [(a, x)]) (e.fieldValue f) (next.fieldValue f)) ∧
    (get? e.card.data f = none → next.fieldValue f = .ok (.object [(a, x)])) ∧
    ∀ g, g ≠ f → next.fieldValue g = e.fieldValue g := by
  refine ⟨fun entry hentry => ?_, fieldValue_of_absent hw h, fun g => fieldValue_other hw h⟩
  obtain ⟨field, -, hbefore, -⟩ := fieldValue_edited hw h
  have hfails := (resolveValue_fails field e.card).imp fun _ => Told.kind
  exact overridden_of_eq (fieldValue_of_present hw h hv hentry) (hbefore ▸ hfails)

end

/-- An editor of a card with a selection of a selection: the title picks a list of objects and a
text, and then nothing. -/
def gazetteer : Editor where
  template := {
    name := "gazetteer", width := 16, height := 8
    fields := [("title", .text { id := "title" }), ("motto", .text { id := "motto" })] }
  card := {
    templateName := "gazetteer"
    data := [("title", { value := .object [("size", .int 8)], choiceIndex := some (.many [1, 0]) })]
    choices := [("title", [.null, .list [.object [("text", .text "Fen")], .text "Moor"]])]
    defaultData := some [("motto", { value := .text "Slowly." })] }
  compiler := { collaborators := {}, bound := 1 }

lemma gazetteer_wellFormed : WellFormed gazetteer.template where
  distinct := by decide
  keyed := by
    rintro entry hm
    rcases List.mem_cons.mp hm with rfl | hm
    · rfl
    · obtain rfl := List.mem_singleton.mp hm
      rfl

theorem gazetteer_overridden : ∃ next,
    gazetteer.setAttribute "title" "bold" (.bool true) = .ok next ∧
    next.fieldValue "title" = .ok (.list [
      .list [.object [("text", .text "Fen"), ("size", .int 8), ("bold", .bool true)],
        .object [("size", .int 8), ("bold", .bool true)]],
      .object [("size", .int 8), ("bold", .bool true)]]) ∧
    next.fieldValue "motto" = .ok (.text "Slowly.") := by
  have hv : Unrepeated (ownValue gazetteer.card "title") := unrepeated_object (by decide)
  obtain ⟨hpresent, -, hother⟩ := edit_overrides gazetteer_wellFormed
    (rfl : gazetteer.setAttribute "title" "bold" (.bool true) = .ok _) hv
  exact ⟨_, rfl, (hpresent _ rfl).value _ rfl, hother "motto" (by decide)⟩

end CardDrawing.Proofs
