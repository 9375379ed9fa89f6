import CardDrawing.Schedule.Basic

/-!
# Schedules on a clock

A schedule in which every item takes a given time. At one instant an item ends first, and then
everything starts that this makes possible.
-/

namespace CardDrawing.Schedule

variable {ι ρ ε τ : Type}

/-- An event and when it happened. -/
structure Timed (ι τ : Type) where
  event : Event ι
  time : τ

/-- A schedule in progress: when each running item will end, by lane. -/
structure Watch (ι ρ ε τ : Type) where
  state : State ι ρ ε
  due : List (Nat × τ)
  log : List (Timed ι τ)

/-- The earlier of the best item so far and a flight; the best so far if they are due together. -/
def sooner [LT τ] [DecidableLT τ] (due : List (Nat × τ)) (best : Option (Flight ι × τ))
    (flight : Flight ι) : Option (Flight ι × τ) :=
  match due.lookup flight.number, best with
  | some time, some (first, earliest) =>
    if time < earliest then some (flight, time) else some (first, earliest)
  | some time, none => some (flight, time)
  | none, _ => best

/-- The running item that ends first; of several, the one of the first lane. -/
def soonest [LT τ] [DecidableLT τ] (due : List (Nat × τ)) (running : List (Flight ι)) :
    Option (Flight ι × τ) :=
  running.foldl (sooner due) none

namespace Watch

/-- Goes to the state `t` at `now`: what has started since is due after its delay. -/
def observe [Add τ] (w : Watch ι ρ ε τ) (delay : ι → τ) (now : τ) (t : State ι ρ ε) :
    Watch ι ρ ε τ where
  state := t
  due := t.running.map fun flight =>
    (flight.number, (w.due.lookup flight.number).getD (now + delay flight.item))
  log := w.log ++ (t.history.drop w.state.history.length).map fun event => { event, time := now }

/-- Forgets when the item of a lane was due. -/
def forget (w : Watch ι ρ ε τ) (number : Nat) : Watch ι ρ ε τ :=
  { w with due := w.due.filter (·.1 ≠ number) }

/-- The next item ends, and everything that this makes possible starts; after a failure everything
that runs is cancelled. -/
def next? [Add τ] [LT τ] [DecidableLT τ] (delay : ι → τ) (answer : ι → Except ε ρ)
    (w : Watch ι ρ ε τ) : Option (Watch ι ρ ε τ) :=
  (soonest w.due w.state.running).map fun (flight, now) =>
    (w.forget flight.number).observe delay now
      (match answer flight.item with
      | .ok result => (w.state.finish flight result).settle
      | .error why => (w.state.fail flight why).cancelAll)

/-- Lets at most `count` items end. -/
def run [Add τ] [LT τ] [DecidableLT τ] (delay : ι → τ) (answer : ι → Except ε ρ) :
    Nat → Watch ι ρ ε τ → Watch ι ρ ε τ
  | 0, w => w
  | count + 1, w =>
    match w.next? delay answer with
    | some next => run delay answer count next
    | none => w

end Watch

/-- The opening of a schedule at the time `start`: everything starts that can. -/
def Watch.opening [Add τ] (start : τ) (delay : ι → τ) (bound : Nat) (work : List (List ι)) :
    Watch ι ρ ε τ :=
  let first : Watch ι ρ ε τ := { state := State.initial bound work, due := [], log := [] }
  first.observe delay start (State.initial bound work).settle

/-- A whole schedule from the time `start`: as many items end as there are, unless one fails. -/
def runOnClock [Add τ] [LT τ] [DecidableLT τ] (start : τ) (delay : ι → τ)
    (answer : ι → Except ε ρ) (bound : Nat) (work : List (List ι)) : Watch ι ρ ε τ :=
  Watch.run delay answer work.flatten.length (Watch.opening start delay bound work)

end CardDrawing.Schedule
