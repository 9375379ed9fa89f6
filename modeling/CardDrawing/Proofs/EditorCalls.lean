import CardDrawing.Editor
import CardDrawing.Proofs.KeyedEntries
import CardDrawing.Proofs.Outcomes

/-!
# Calls on an editor

An editor is called again and again: watchers register and attributes are set. Whether an edit is
accepted is settled by the template and the first card, and the card after all calls is the first
one with the accepted edits made one after another.
-/

namespace CardDrawing.Proofs
open Keyed

/-- One attribute of a field that is to be set. -/
structure Edit where
  field : String
  attr : String
  value : Value

/-- A call on an editor by which something may change. -/
inductive Call where
  | watch
  | set (edit : Edit)

namespace Call

def edit? : Call → Option Edit
  | watch => none
  | set edit => some edit

end Call

/-- The editor that a call leads to, or why it is refused. -/
def perform (e : Editor) : Call → Except Error Editor
  | .watch => .ok e.watch
  | .set edit => e.setAttribute edit.field edit.attr edit.value

/-- The editor after a call; a refused one leaves it as it is. -/
def afterCall (e : Editor) (call : Call) : Editor :=
  match perform e call with
  | .ok next => next
  | .error _ => e

def after (e : Editor) (calls : List Call) : Editor := calls.foldl afterCall e

variable {e : Editor} {card : Card} {edit : Edit} {call : Call} {calls : List Call}
  {f a : String}

lemma after_append (e : Editor) (calls calls' : List Call) :
    after e (calls ++ calls') = after (after e calls) calls' :=
  List.foldl_append

/-! ## Edits of a card -/

/-- The value of the card's own entry for a field, null if there is none. -/
def ownValue (card : Card) (id : String) : Value :=
  ((get? card.data id).getD {}).value

/-- The entries of a value whose attributes can be set; null has none yet. -/
def editable? : Value → Option (Keyed Value)
  | .null => some []
  | .object entries => some entries
  | _ => none

lemma editable?_eq_some {v : Value} {entries : Keyed Value} :
    editable? v = some entries ↔ v = .null ∧ entries = [] ∨ v = .object entries := by
  cases v <;> simp [editable?, eq_comm]

def attribute? (card : Card) (f a : String) : Option Value :=
  (get? card.data f).bind fun entry => entry.value.get? a

def selection? (card : Card) (f : String) : Option ChoiceIndex :=
  (get? card.data f).bind DataEntry.choiceIndex

/-- The card with one attribute set. -/
def edited (card : Card) (edit : Edit) : Card :=
  let entries := (editable? (ownValue card edit.field)).getD []
  let entry : DataEntry := {
    value := .object (put entries edit.attr edit.value)
    choiceIndex := selection? card edit.field }
  { card with data := put card.data edit.field entry }

/-- The template has the field, and the card holds nothing for it but an object or null. -/
def Accepts (e : Editor) (edit : Edit) : Prop :=
  has e.template.fields edit.field = true ∧ (editable? (ownValue e.card edit.field)).isSome = true

instance (e : Editor) (edit : Edit) : Decidable (Accepts e edit) :=
  inferInstanceAs (Decidable (_ ∧ _))

lemma get?_edited : get? (edited card edit).data f =
    if f = edit.field then some {
        value := .object (put ((editable? (ownValue card edit.field)).getD []) edit.attr edit.value)
        choiceIndex := selection? card edit.field }
      else get? card.data f :=
  get?_put card.data edit.field f _

/-- The attributes of a field are the entries of its own value, if it can be edited at all. -/
lemma attribute?_eq : attribute? card f a = get? ((editable? (ownValue card f)).getD []) a := by
  unfold attribute? ownValue
  cases get? card.data f with
  | none => rfl
  | some entry =>
    dsimp only [Option.bind_some, Option.getD_some]
    cases entry.value <;> rfl

lemma attribute?_edited : attribute? (edited card edit) f a =
    if f = edit.field ∧ a = edit.attr then some edit.value else attribute? card f a := by
  by_cases hf : f = edit.field
  · subst hf
    have hput : attribute? (edited card edit) edit.field a =
        get? (put ((editable? (ownValue card edit.field)).getD []) edit.attr edit.value) a := by
      rw [attribute?, get?_edited, if_pos rfl]
      rfl
    rw [hput, get?_put, attribute?_eq]
    simp only [true_and]
  · have hother : attribute? (edited card edit) f a = attribute? card f a := by
      rw [attribute?, get?_edited, if_neg hf, attribute?]
    rw [hother, if_neg fun h => hf h.1]

lemma selection?_edited : selection? (edited card edit) f = selection? card f := by
  rw [selection?, get?_edited]
  split
  · rename_i hf
    rw [hf]
    rfl
  · rfl

lemma editable?_edited (h : (editable? (ownValue card edit.field)).isSome = true) :
    (editable? (ownValue (edited card edit) f)).isSome = (editable? (ownValue card f)).isSome := by
  by_cases hf : f = edit.field
  · subst hf
    rw [h, ownValue, get?_edited, if_pos rfl]
    rfl
  · rw [ownValue, get?_edited, if_neg hf, ownValue]

/-! ## One call -/

lemma editableData_eq : e.editableData f a =
    match editable? (ownValue e.card f) with
    | some entries => .ok entries
    | none => .error (.valueNotEditable f a) := by
  unfold Editor.editableData ownValue
  cases ((get? e.card.data f).getD {}).value <;> rfl

lemma getField_of_has (h : has e.template.fields f = true) :
    ∃ field, e.template.getField f = .ok field := by
  obtain ⟨field, hf⟩ := Option.isSome_iff_exists.mp h
  exact ⟨field, by rw [Template.getField, hf]⟩

lemma perform_unknown (h : has e.template.fields edit.field = false) :
    perform e (.set edit) = .error (.noField e.template.name edit.field) := by
  have hf : e.template.getField edit.field = .error (.noField e.template.name edit.field) := by
    rw [Template.getField, Option.isSome_eq_false_iff.mp h |> Option.isNone_iff_eq_none.mp]
  rw [perform, Editor.setAttribute, hf]
  rfl

lemma perform_misshapen (h : has e.template.fields edit.field = true)
    (hv : editable? (ownValue e.card edit.field) = none) :
    perform e (.set edit) = .error (.valueNotEditable edit.field edit.attr) := by
  obtain ⟨field, hf⟩ := getField_of_has h
  rw [perform, Editor.setAttribute, hf, editableData_eq, hv]
  rfl

lemma perform_accepted (h : Accepts e edit) :
    perform e (.set edit) = .ok (Editor.notify { e with card := edited e.card edit }) := by
  obtain ⟨hknown, hv⟩ := h
  obtain ⟨field, hf⟩ := getField_of_has hknown
  obtain ⟨entries, hv⟩ := Option.isSome_iff_exists.mp hv
  rw [perform, Editor.setAttribute, hf, editableData_eq, hv, edited, hv]
  rfl

lemma perform_refused (h : ¬ Accepts e edit) : ∃ why, perform e (.set edit) = .error why := by
  by_cases hknown : has e.template.fields edit.field = true
  · have hv : editable? (ownValue e.card edit.field) = none := by
      by_contra hne
      exact h ⟨hknown, Option.isSome_iff_ne_none.mpr hne⟩
    exact ⟨_, perform_misshapen hknown hv⟩
  · exact ⟨_, perform_unknown (Bool.eq_false_of_not_eq_true hknown)⟩

lemma accepts_of_ok {next : Editor} (h : perform e (.set edit) = .ok next) : Accepts e edit := by
  by_contra ha
  obtain ⟨why, hw⟩ := perform_refused ha
  cases hw.symm.trans h

lemma afterCall_accepted (h : Accepts e edit) :
    afterCall e (.set edit) = Editor.notify { e with card := edited e.card edit } := by
  rw [afterCall, perform_accepted h]

lemma afterCall_error {why : Error} (h : perform e call = .error why) : afterCall e call = e := by
  rw [afterCall, h]

lemma afterCall_refused (h : ¬ Accepts e edit) : afterCall e (.set edit) = e := by
  obtain ⟨why, hw⟩ := perform_refused h
  exact afterCall_error hw

/-! ## A run of calls -/

/-- The edits among the calls that are accepted. -/
def made (e : Editor) (calls : List Call) : List Edit :=
  (calls.filterMap Call.edit?).filter fun edit => Accepts e edit

lemma accepts_afterCall (e : Editor) (call : Call) (edit : Edit) :
    Accepts (afterCall e call) edit ↔ Accepts e edit := by
  cases call with
  | watch => rfl
  | set other =>
    by_cases h : Accepts e other
    · rw [afterCall_accepted h, Accepts, Accepts]
      simp only [Editor.notify, editable?_edited h.2]
    · rw [afterCall_refused h]

lemma template_afterCall (e : Editor) (call : Call) :
    (afterCall e call).template = e.template := by
  cases call with
  | watch => rfl
  | set edit =>
    by_cases h : Accepts e edit
    · rw [afterCall_accepted h]
      rfl
    · rw [afterCall_refused h]

lemma made_afterCall (e : Editor) (call : Call) (calls : List Call) :
    made (afterCall e call) calls = made e calls := by
  simp only [made, accepts_afterCall]

lemma made_cons_accepted (h : Accepts e edit) :
    made e (.set edit :: calls) = edit :: made e calls := by
  simp [made, Call.edit?, h]

lemma made_cons_refused (h : ¬ Accepts e edit) :
    made e (.set edit :: calls) = made e calls := by
  simp [made, Call.edit?, h]

/-- What the calls before have done does not change which edits are accepted. -/
lemma accepts_after (e : Editor) (calls : List Call) (edit : Edit) :
    Accepts (after e calls) edit ↔ Accepts e edit := by
  induction calls generalizing e with
  | nil => rfl
  | cons call calls ih => exact (ih (afterCall e call)).trans (accepts_afterCall e call edit)

lemma template_after (e : Editor) (calls : List Call) :
    (after e calls).template = e.template := by
  induction calls generalizing e with
  | nil => rfl
  | cons call calls ih => exact (ih (afterCall e call)).trans (template_afterCall e call)

lemma made_after (e : Editor) (before calls : List Call) :
    made (after e before) calls = made e calls := by
  simp only [made, accepts_after]

/-- The card after all calls is the first one with the accepted edits made in their order. -/
lemma card_after (e : Editor) (calls : List Call) :
    (after e calls).card = (made e calls).foldl edited e.card := by
  induction calls generalizing e with
  | nil => rfl
  | cons call calls ih =>
    have hrest : (after e (call :: calls)).card =
        (made e calls).foldl edited (afterCall e call).card := by
      rw [← made_afterCall e call calls]
      exact ih (afterCall e call)
    rw [hrest]
    cases call with
    | watch => rfl
    | set edit =>
      by_cases h : Accepts e edit
      · rw [made_cons_accepted h, afterCall_accepted h]
        rfl
      · rw [made_cons_refused h, afterCall_refused h]

/-- An editor whose card has a selection, a value that is no object, and an empty entry; one
entry is of no field. -/
def almanac : Editor where
  template := {
    name := "almanac", width := 16, height := 8
    fields := [("ink", .colorScheme { id := "ink" }), ("title", .text { id := "title" }),
      ("motto", .text { id := "motto" })] }
  card := {
    templateName := "almanac"
    data := [
      ("title", { value := .object [("text", .text "Woods")], choiceIndex := some (.many [1, 0]) }),
      ("photo", { value := .object [("credit", .text "R."), ("value", .null)] }),
      ("ink", {}),
      ("motto", { value := .text "Slowly." })]
    defaultData := some [] }
  compiler := { collaborators := {}, bound := 1 }

end CardDrawing.Proofs
