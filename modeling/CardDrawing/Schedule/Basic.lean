/-!
# Bounded schedules

Lanes of work share a bounded number of slots. A lane waits in line for a slot, keeps it while it
runs its items one at a time, and gives it back when it is done. After the first failure no item
is started any more, and what is running is cancelled.
-/

namespace CardDrawing.Schedule

variable {ι ρ ε : Type}

/-- The items that a lane still has to start, first to last. -/
structure Lane (ι : Type) where
  number : Nat
  items : List ι
deriving Repr

/-- A running item, and what its lane has to start after it. -/
structure Flight (ι : Type) where
  number : Nat
  item : ι
  rest : List ι
deriving Repr

inductive Event (ι : Type) where
  | start (item : ι)
  | finish (item : ι)
  | fail (item : ι)
  | cancel (item : ι)
deriving Repr, DecidableEq

structure State (ι ρ ε : Type) where
  /-- slots that no lane holds -/
  free : Nat
  /-- lanes in line for a slot -/
  waiting : List (Lane ι)
  /-- lanes that were handed a slot and have not gone on yet, in the order of the line -/
  called : List (Lane ι)
  /-- lanes that hold a slot and are between two items -/
  idle : List (Lane ι)
  /-- lanes that hold a slot and run an item, in the order of the lanes -/
  running : List (Flight ι)
  results : List (ι × ρ)
  failure : Option ε
  history : List (Event ι)

/-- The lanes of `work`, numbered in declaration order. -/
def lanes (work : List (List ι)) : List (Lane ι) :=
  work.zipIdx.map fun (items, number) => { number, items }

namespace State

/-- All lanes wait in declaration order, and all slots are free. -/
def initial (bound : Nat) (work : List (List ι)) : State ι ρ ε where
  free := bound
  waiting := lanes work
  called := []
  idle := []
  running := []
  results := []
  failure := none
  history := []

/-- Keeps running items in the order of their lanes. -/
def insertFlight (flight : Flight ι) : List (Flight ι) → List (Flight ι)
  | [] => [flight]
  | other :: rest =>
    if flight.number < other.number then flight :: other :: rest
    else other :: insertFlight flight rest

/-- The first lane in line is handed a free slot. -/
def enter? (s : State ι ρ ε) : Option (State ι ρ ε) :=
  match s.waiting, s.free with
  | lane :: waiting, free + 1 => some { s with waiting, free, called := s.called ++ [lane] }
  | _, _ => none

/-- Starts an item of a lane, which has `rest` to start after it. -/
def launch (s : State ι ρ ε) (number : Nat) (item : ι) (rest : List ι) : State ι ρ ε :=
  { s with
    running := insertFlight { number, item, rest } s.running
    history := s.history ++ [.start item] }

/-- A slot is given back. -/
def release (s : State ι ρ ε) : State ι ρ ε := { s with free := s.free + 1 }

/-- A lane that holds a slot goes on: it starts its next item, or gives its slot back when it has
none left or something has failed. -/
def proceed (s : State ι ρ ε) (lane : Lane ι) : State ι ρ ε :=
  match lane.items, s.failure with
  | item :: rest, none => s.launch lane.number item rest
  | _, _ => s.release

/-- One step that needs no item to end: a lane that holds a slot goes on, else the first lane in
line is handed a slot. -/
def advance? (s : State ι ρ ε) : Option (State ι ρ ε) :=
  match s.idle, s.called with
  | lane :: idle, _ => some ({ s with idle }.proceed lane)
  | [], lane :: called => some ({ s with called }.proceed lane)
  | [], [] => s.enter?

/-- Steps left until nothing can go on without an item ending. -/
def pressure (s : State ι ρ ε) : Nat := 2 * s.waiting.length + s.called.length + s.idle.length

theorem pressure_proceed (s : State ι ρ ε) (lane : Lane ι) :
    (s.proceed lane).pressure = s.pressure := by
  unfold proceed
  split <;> rfl

theorem pressure_lt_of_advance? {s t : State ι ρ ε} (h : s.advance? = some t) :
    t.pressure < s.pressure := by
  unfold advance? at h
  split at h
  · rename_i lane idle hidle
    cases h
    rw [pressure_proceed]
    simp [pressure, hidle]
  · rename_i lane called hidle hcalled
    cases h
    rw [pressure_proceed]
    simp [pressure, hcalled]
  · rename_i hidle hcalled
    unfold enter? at h
    split at h
    · rename_i lane waiting free hw hf
      cases h
      simp [pressure, hcalled, hw]
      omega
    · cases h

/-- Lets everything go on that can without an item ending. -/
def settle (s : State ι ρ ε) : State ι ρ ε :=
  match _h : s.advance? with
  | some t => settle t
  | none => s
termination_by s.pressure
decreasing_by exact pressure_lt_of_advance? _h

def withoutFlight (number : Nat) (running : List (Flight ι)) : List (Flight ι) :=
  running.filter fun flight => flight.number ≠ number

/-- A running item ends well; its lane is idle again. -/
def finish (s : State ι ρ ε) (flight : Flight ι) (result : ρ) : State ι ρ ε :=
  { s with
    running := withoutFlight flight.number s.running
    idle := s.idle ++ [{ number := flight.number, items := flight.rest }]
    results := s.results ++ [(flight.item, result)]
    history := s.history ++ [.finish flight.item] }

/-- A running item fails; its lane gives its slot back, and the first failure is kept. The error is
a failure of the item itself: that an item is called off from outside, or that the whole program is
interrupted while it runs, is not one of the ways in which items end here. -/
def fail (s : State ι ρ ε) (flight : Flight ι) (why : ε) : State ι ρ ε :=
  { s with
    running := withoutFlight flight.number s.running
    free := s.free + 1
    failure := some (s.failure.getD why)
    history := s.history ++ [.fail flight.item] }

/-- Every lane is called off; what is running is cancelled, in the order of the lanes. -/
def cancelAll (s : State ι ρ ε) : State ι ρ ε :=
  { s with
    waiting := []
    called := []
    idle := []
    running := []
    free := s.free + s.called.length + s.idle.length + s.running.length
    history := s.history ++ s.running.map (.cancel ·.item) }

def complete (s : State ι ρ ε) (flight : Flight ι) : Except ε ρ → State ι ρ ε
  | .ok result => s.finish flight result
  | .error why => s.fail flight why

/-- No lane is left: each has gone through its items, or was called off. -/
def Over (s : State ι ρ ε) : Prop :=
  s.waiting = [] ∧ s.called = [] ∧ s.idle = [] ∧ s.running = []

end State

/-- The ways in which a schedule goes on when the items come to what `answer` says. Which running
item ends next, and when a lane or the line moves, is left open; lanes are handed slots, and make
their first start, in the order of the line. -/
inductive Step (answer : ι → Except ε ρ) : State ι ρ ε → State ι ρ ε → Prop where
  | enter {s t : State ι ρ ε} : s.enter? = some t → Step answer s t
  | begin {s : State ι ρ ε} {lane : Lane ι} {called : List (Lane ι)} :
      s.called = lane :: called → Step answer s ({ s with called }.proceed lane)
  | resume {s : State ι ρ ε} {lane : Lane ι} {before after : List (Lane ι)} :
      s.idle = before ++ lane :: after →
      Step answer s ({ s with idle := before ++ after }.proceed lane)
  | complete {s : State ι ρ ε} {flight : Flight ι} :
      flight ∈ s.running → Step answer s (s.complete flight (answer flight.item))
  | cancel {s : State ι ρ ε} : s.failure.isSome → Step answer s s.cancelAll

/-- Any number of steps. -/
inductive Run (answer : ι → Except ε ρ) : State ι ρ ε → State ι ρ ε → Prop where
  | refl (s : State ι ρ ε) : Run answer s s
  | step {s t u : State ι ρ ε} : Run answer s t → Step answer t u → Run answer s u

/-- The states that a schedule of `work` under `bound` can get into. -/
def Reachable (answer : ι → Except ε ρ) (bound : Nat) (work : List (List ι))
    (s : State ι ρ ε) : Prop :=
  Run answer (State.initial bound work) s

end CardDrawing.Schedule
