import CardDrawing.Proofs.EditorCalls

/-!
# An editor after a history of calls

What is read from an editor is what was last written to it. Edits that are refused leave no trace,
and every watcher is told of each edit that is made after it has registered, with the card as the
edit leaves it.
-/

namespace CardDrawing.Proofs
open Keyed

variable {e : Editor} {card : Card} {edit : Edit} {call : Call} {calls : List Call}
  {f a : String} {n w : Nat}

/-! ## What is written -/

/-- The value of the last of the edits that set an attribute of a field. -/
def lastWrite (f a : String) (edits : List Edit) : Option Value :=
  edits.reverse.findSome? fun edit =>
    if f = edit.field ∧ a = edit.attr then some edit.value else none

/-- A value, with a default in place of an absent or a null one. -/
def orDefault (default : Value) : Option Value → Value
  | none | some .null => default
  | some value => value

lemma lastWrite_cons (edits : List Edit) : lastWrite f a (edit :: edits) =
    (lastWrite f a edits).or
      (if f = edit.field ∧ a = edit.attr then some edit.value else none) := by
  rw [lastWrite, List.reverse_cons, List.findSome?_append, List.findSome?_singleton, lastWrite]

lemma attribute?_edits (edits : List Edit) (card : Card) :
    attribute? (edits.foldl edited card) f a = (lastWrite f a edits).or (attribute? card f a) := by
  induction edits generalizing card with
  | nil => rfl
  | cons edit edits ih =>
    rw [List.foldl_cons, ih, attribute?_edited, lastWrite_cons, Option.or_assoc]
    split <;> rfl

lemma selection?_edits (edits : List Edit) (card : Card) :
    selection? (edits.foldl edited card) f = selection? card f := by
  induction edits generalizing card with
  | nil => rfl
  | cons edit edits ih => rw [List.foldl_cons, ih, selection?_edited]

lemma get?_edits {edits : List Edit} (h : ∀ edit ∈ edits, edit.field ≠ f) (card : Card) :
    get? (edits.foldl edited card).data f = get? card.data f := by
  induction edits generalizing card with
  | nil => rfl
  | cons edit edits ih =>
    obtain ⟨hne, h⟩ := List.forall_mem_cons.mp h
    rw [List.foldl_cons, ih h, get?_edited, if_neg hne.symm]

/-- The parts of a card that no edit touches. -/
structure SameElsewhere (card card' : Card) : Prop where
  templateName : card'.templateName = card.templateName
  choices : card'.choices = card.choices
  defaultData : card'.defaultData = card.defaultData

lemma sameElsewhere_edits (edits : List Edit) (card : Card) :
    SameElsewhere card (edits.foldl edited card) := by
  induction edits generalizing card with
  | nil => exact ⟨rfl, rfl, rfl⟩
  | cons edit edits ih =>
    obtain ⟨hname, hchoices, hdefaults⟩ := ih (edited card edit)
    exact ⟨hname, hchoices, hdefaults⟩

lemma getAttribute_eq (default : Value) :
    e.getAttribute f a default = orDefault default (attribute? e.card f a) := by
  unfold Editor.getAttribute attribute?
  cases (get? e.card.data f).bind fun entry => entry.value.get? a with
  | none => rfl
  | some value => cases value <;> rfl

/-! ## Who is told -/

/-- How many watchers the calls register. -/
def registrations (calls : List Call) : Nat := (calls.filter (·.edit?.isNone)).length

/-- The cards that edits leave behind, one after another. -/
def versions : Card → List Edit → List Card
  | _, [] => []
  | card, edit :: rest => edited card edit :: versions (edited card edit) rest

/-- The cards of which a watcher has been told. -/
def heard (w : Nat) (e : Editor) : List Card :=
  (e.notices.filter (·.watcher = w)).map Notice.card

/-- The watchers have the numbers below `n`, and nobody else has been told anything. -/
structure Numbered (n : Nat) (e : Editor) : Prop where
  watchers : e.watchers = List.range n
  told : ∀ notice ∈ e.notices, notice.watcher < n

lemma registrations_watch : registrations (.watch :: calls) = registrations calls + 1 := rfl

lemma registrations_set : registrations (.set edit :: calls) = registrations calls := rfl

/-- Every watcher is told of an edit, in the order of registration and after the card is changed. -/
lemma notices_accepted (h : Accepts e edit) : (afterCall e (.set edit)).notices =
    e.notices ++ e.watchers.map fun w => { watcher := w, card := edited e.card edit } := by
  rw [afterCall_accepted h]
  rfl

lemma numbered_watch (h : Numbered n e) : Numbered (n + 1) (afterCall e .watch) where
  watchers := by
    have hwatch : (afterCall e .watch).watchers = e.watchers ++ [e.watchers.length] := rfl
    rw [hwatch, h.watchers, List.length_range, List.range_succ]
  told := fun notice hm => Nat.lt_succ_of_lt (h.told notice hm)

lemma numbered_set (h : Numbered n e) (edit : Edit) :
    Numbered n (afterCall e (.set edit)) := by
  by_cases ha : Accepts e edit
  · refine ⟨?_, fun notice hm => ?_⟩
    · rw [afterCall_accepted ha]
      exact h.watchers
    · rw [notices_accepted ha] at hm
      rcases List.mem_append.mp hm with hm | hm
      · exact h.told notice hm
      · obtain ⟨w, hw, rfl⟩ := List.mem_map.mp hm
        exact List.mem_range.mp (h.watchers ▸ hw)
  · rw [afterCall_refused ha]
    exact h

lemma numbered_after (h : Numbered n e) (calls : List Call) :
    Numbered (n + registrations calls) (after e calls) := by
  induction calls generalizing e n with
  | nil => exact h
  | cons call calls ih =>
    cases call with
    | watch =>
      rw [registrations_watch, Nat.add_comm _ 1, ← Nat.add_assoc]
      exact ih (numbered_watch h)
    | set edit =>
      rw [registrations_set]
      exact ih (numbered_set h edit)

lemma heard_accepted (h : Numbered n e) (hw : w < n) (ha : Accepts e edit) :
    heard w (afterCall e (.set edit)) = heard w e ++ [edited e.card edit] := by
  have hone : (List.range n).filter (· = w) = [w] := by
    have hcount : (List.range n).count w = 1 :=
      List.count_eq_one_of_mem List.nodup_range (List.mem_range.mpr hw)
    have hbeq : (List.range n).filter (· = w) = (List.range n).filter (· == w) :=
      List.filter_congr fun v _ => (beq_eq_decide v w).symm
    rw [hbeq, List.filter_beq, hcount]
    rfl
  have hmine : (e.watchers.map fun v =>
      { watcher := v, card := edited e.card edit : Notice }).filter (·.watcher = w) =
        [{ watcher := w, card := edited e.card edit }] := by
    rw [List.filter_map, h.watchers]
    exact congrArg (List.map _) hone
  rw [heard, notices_accepted ha, List.filter_append, hmine, List.map_append]
  rfl

/-- Whoever watches is told of every edit that is made, and of nothing else. -/
lemma heard_after (h : Numbered n e) (hw : w < n) (calls : List Call) :
    heard w (after e calls) = heard w e ++ versions e.card (made e calls) := by
  induction calls generalizing e n with
  | nil => exact (List.append_nil _).symm
  | cons call calls ih =>
    cases call with
    | watch => exact ih (numbered_watch h) (Nat.lt_succ_of_lt hw)
    | set edit =>
      have hrest := ih (numbered_set h edit) hw
      rw [made_afterCall] at hrest
      refine hrest.trans ?_
      by_cases ha : Accepts e edit
      · rw [heard_accepted h hw ha, made_cons_accepted ha, afterCall_accepted ha, versions,
          List.append_assoc]
        rfl
      · rw [afterCall_refused ha, made_cons_refused ha]

lemma heard_watch : heard w (afterCall e .watch) = heard w e := rfl

/-- A watcher hears nothing before it registers. -/
lemma heard_new (h : Numbered n e) : heard n e = [] := by
  rw [heard, List.map_eq_nil_iff, List.filter_eq_nil_iff]
  intro notice hm
  simpa using (h.told notice hm).ne

/-! ## Histories -/

/-- The card after the calls holds what was last written to it, and for the rest what it held at
first. -/
structure LastWritten (e : Editor) (calls : List Call) : Prop where
  read : ∀ f a default, (after e calls).getAttribute f a default =
    orDefault default ((lastWrite f a (made e calls)).or (attribute? e.card f a))
  selections : ∀ f, selection? (after e calls).card f = selection? e.card f
  untouched : ∀ f, (∀ edit ∈ made e calls, edit.field ≠ f) →
    get? (after e calls).card.data f = get? e.card.data f
  elsewhere : SameElsewhere e.card (after e calls).card

lemma lastWritten_after (e : Editor) (calls : List Call) : LastWritten e calls where
  read := fun f a default => by rw [getAttribute_eq, card_after, attribute?_edits]
  selections := fun f => by rw [card_after, selection?_edits]
  untouched := fun f h => by rw [card_after, get?_edits h]
  elsewhere := by
    rw [card_after]
    exact sameElsewhere_edits _ _

/-- The call is refused with an error of its kind, and the editor is as it was before. -/
structure Refuses (e : Editor) (call : Call) (why : Error) (kind : ErrorKind) : Prop where
  error : perform e call = .error why
  kind : why.kind = kind
  unchanged : afterCall e call = e

lemma refuses_of_error {why : Error} (h : perform e call = .error why) :
    Refuses e call why why.kind :=
  ⟨h, rfl, afterCall_error h⟩

/-- How an editor answers an edit after a history of calls, `n` of them registrations. Only what
was there at first decides whether the edit is made. -/
structure Answers (e : Editor) (calls : List Call) (n : Nat) (edit : Edit) : Prop where
  unknown : has e.template.fields edit.field = false →
    Refuses (after e calls) (.set edit) (.noField e.template.name edit.field) .fieldLookup
  misshapen : has e.template.fields edit.field = true →
    editable? (ownValue (after e calls).card edit.field) = none →
    Refuses (after e calls) (.set edit) (.valueNotEditable edit.field edit.attr) .fieldData
  accepted : Accepts e edit ↔ ∃ next, perform (after e calls) (.set edit) = .ok next
  told : ∀ next, perform (after e calls) (.set edit) = .ok next →
    next.card = edited (after e calls).card edit ∧ next.notices = (after e calls).notices ++
      (List.range n).map fun w => { watcher := w, card := next.card }

lemma answers_after (h : Numbered n (after e calls)) (edit : Edit) : Answers e calls n edit where
  unknown := fun hf => by
    rw [← template_after e calls] at hf ⊢
    exact refuses_of_error (perform_unknown hf)
  misshapen := fun hf hv => by
    rw [← template_after e calls] at hf
    exact refuses_of_error (perform_misshapen hf hv)
  accepted := by
    rw [← accepts_after e calls]
    exact ⟨fun ha => ⟨_, perform_accepted ha⟩, fun ⟨next, hn⟩ => accepts_of_ok hn⟩
  told := fun next hn => by
    obtain rfl := Except.ok.inj ((perform_accepted (accepts_of_ok hn)).symm.trans hn)
    refine ⟨rfl, ?_⟩
    rw [← h.watchers]
    rfl

/-- An editor of a card, whom nobody watches yet. -/
def opened (card : Card) (template : Template) (compiler : Compiler) : Editor :=
  { card, template, compiler }

/-- The last write to an attribute wins, through any history of calls: it is read back, and all
else is as it was at first. An edit of an unknown field or of a value that is no object is refused
and leaves everything as it is. Any other is made, and then every watcher so far is told of the
changed card, in the order of registration; so each watcher hears once of every edit that is made
after it has registered, and of no other. -/
theorem last_write_wins (card : Card) (template : Template) (compiler : Compiler)
    (calls : List Call) :
    LastWritten (opened card template compiler) calls ∧
    (∀ edit, Answers (opened card template compiler) calls (registrations calls) edit) ∧
    (∀ before rest, calls = before ++ .watch :: rest →
      heard (registrations before) (after (opened card template compiler) calls) =
        versions (after (opened card template compiler) before).card
          (made (opened card template compiler) rest)) ∧
    ∀ notice ∈ (after (opened card template compiler) calls).notices,
      notice.watcher < registrations calls := by
  have hstart : Numbered 0 (opened card template compiler) :=
    ⟨rfl, fun notice hm => (List.not_mem_nil hm).elim⟩
  have hrun (calls : List Call) :
      Numbered (registrations calls) (after (opened card template compiler) calls) := by
    have h := numbered_after hstart calls
    rwa [Nat.zero_add] at h
  refine ⟨lastWritten_after _ _, answers_after (hrun calls), ?_, (hrun calls).told⟩
  rintro before rest rfl
  have hheard := heard_after (numbered_watch (hrun before)) (Nat.lt_succ_self _) rest
  rw [heard_watch, heard_new (hrun before), List.nil_append, made_afterCall, made_after] at hheard
  rw [after_append]
  exact hheard

/-- One edit of an unknown field and one of a value that is no object among others, and a watcher
that comes late. -/
def almanacCalls : List Call :=
  [.watch, .set ⟨"title", "text", .text "Moor"⟩, .set ⟨"photo", "url", .text "m.png"⟩, .watch,
    .set ⟨"motto", "text", .text "Quickly."⟩, .set ⟨"title", "text", .null⟩]

theorem almanac_last_write :
    (after almanac almanacCalls).getAttribute "title" "text" (.text "Fen") = .text "Fen" ∧
    (heard 0 (after almanac almanacCalls)).length = 2 ∧
    (heard 1 (after almanac almanacCalls)).length = 1 := by
  obtain ⟨hlast, -, hheard, -⟩ :=
    last_write_wins almanac.card almanac.template almanac.compiler almanacCalls
  refine ⟨hlast.read "title" "text" (.text "Fen"), ?_, ?_⟩
  · exact congrArg List.length (hheard [] _ rfl)
  · exact congrArg List.length (hheard (almanacCalls.take 3) _ rfl)

end CardDrawing.Proofs
