import CardDrawing.Schedule.Basic

/-!
# Histories

What the history of a schedule tells about its items: which have been started, which of those have
ended, and how.
-/

namespace CardDrawing.Schedule

variable {ι : Type}

namespace Event

def started? : Event ι → Option ι
  | start item => some item
  | _ => none

def finished? : Event ι → Option ι
  | finish item => some item
  | _ => none

def failed? : Event ι → Option ι
  | fail item => some item
  | _ => none

/-- The item that the event takes out of flight. -/
def ended? : Event ι → Option ι
  | start _ => none
  | finish item | fail item | cancel item => some item

theorem started?_eq_some {e : Event ι} {item : ι} : e.started? = some item ↔ e = start item := by
  cases e <;> simp [started?]

theorem finished?_eq_some {e : Event ι} {item : ι} :
    e.finished? = some item ↔ e = finish item := by
  cases e <;> simp [finished?]

theorem failed?_eq_some {e : Event ι} {item : ι} : e.failed? = some item ↔ e = fail item := by
  cases e <;> simp [failed?]

theorem ended?_eq_some {e : Event ι} {item : ι} :
    e.ended? = some item ↔ e = finish item ∨ e = fail item ∨ e = cancel item := by
  cases e <;> simp [ended?]

end Event

def started (history : List (Event ι)) : List ι := history.filterMap Event.started?

def finished (history : List (Event ι)) : List ι := history.filterMap Event.finished?

def failed (history : List (Event ι)) : List ι := history.filterMap Event.failed?

def ended (history : List (Event ι)) : List ι := history.filterMap Event.ended?

/-- The item has been started and has not ended. -/
def InFlight (history : List (Event ι)) (item : ι) : Prop :=
  item ∈ started history ∧ item ∉ ended history

@[simp] theorem started_append (h h' : List (Event ι)) :
    started (h ++ h') = started h ++ started h' :=
  List.filterMap_append

@[simp] theorem finished_append (h h' : List (Event ι)) :
    finished (h ++ h') = finished h ++ finished h' :=
  List.filterMap_append

@[simp] theorem failed_append (h h' : List (Event ι)) :
    failed (h ++ h') = failed h ++ failed h' :=
  List.filterMap_append

@[simp] theorem ended_append (h h' : List (Event ι)) : ended (h ++ h') = ended h ++ ended h' :=
  List.filterMap_append

@[simp] theorem mem_started {h : List (Event ι)} {item : ι} :
    item ∈ started h ↔ .start item ∈ h := by
  simp [started, Event.started?_eq_some]

@[simp] theorem mem_finished {h : List (Event ι)} {item : ι} :
    item ∈ finished h ↔ .finish item ∈ h := by
  simp [finished, Event.finished?_eq_some]

@[simp] theorem mem_failed {h : List (Event ι)} {item : ι} :
    item ∈ failed h ↔ .fail item ∈ h := by
  simp [failed, Event.failed?_eq_some]

theorem mem_ended {h : List (Event ι)} {item : ι} :
    item ∈ ended h ↔ .finish item ∈ h ∨ .fail item ∈ h ∨ .cancel item ∈ h := by
  simp only [ended, List.mem_filterMap, Event.ended?_eq_some]
  grind

/-! ## Single events and cancellations -/

@[simp] theorem started_start (item : ι) : started [.start item] = [item] := rfl
@[simp] theorem started_finish (item : ι) : started [.finish item] = [] := rfl
@[simp] theorem started_fail (item : ι) : started [.fail item] = [] := rfl

@[simp] theorem finished_start (item : ι) : finished [.start item] = [] := rfl
@[simp] theorem finished_finish (item : ι) : finished [.finish item] = [item] := rfl
@[simp] theorem finished_fail (item : ι) : finished [.fail item] = [] := rfl

@[simp] theorem failed_start (item : ι) : failed [.start item] = [] := rfl
@[simp] theorem failed_finish (item : ι) : failed [.finish item] = [] := rfl
@[simp] theorem failed_fail (item : ι) : failed [.fail item] = [item] := rfl

@[simp] theorem ended_start (item : ι) : ended [.start item] = [] := rfl
@[simp] theorem ended_finish (item : ι) : ended [.finish item] = [item] := rfl
@[simp] theorem ended_fail (item : ι) : ended [.fail item] = [item] := rfl

section

variable (flights : List (Flight ι))

@[simp] theorem started_cancels : started (flights.map (Event.cancel ·.item)) = [] := by
  simp [started, Event.started?, Function.comp_def]

@[simp] theorem finished_cancels : finished (flights.map (Event.cancel ·.item)) = [] := by
  simp [finished, Event.finished?, Function.comp_def]

@[simp] theorem failed_cancels : failed (flights.map (Event.cancel ·.item)) = [] := by
  simp [failed, Event.failed?, Function.comp_def]

@[simp] theorem ended_cancels :
    ended (flights.map (Event.cancel ·.item)) = flights.map Flight.item := by
  simp [ended, Event.ended?, Function.comp_def]

end

end CardDrawing.Schedule
