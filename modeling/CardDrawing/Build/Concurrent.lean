import CardDrawing.Build.Basic
import CardDrawing.Schedule.Clock

/-!
# Building a card concurrently

Every field is expanded first. Then the pending resources are loaded, several fields at a time and
one request at a time within a field, and the output is put together in declaration order. What
cannot succeed is refused before any load starts.
-/

namespace CardDrawing

/-- A pending load and the place in the output that waits for it. -/
structure Pending where
  index : Nat
  fetch : Fetch
deriving DecidableEq, Repr

/-- The pending loads among a field's primitives, the first of which has place `start`. -/
def pendingOf (c : Collaborators) : Nat → List Primitive → Except Error (List Pending)
  | _, [] => .ok []
  | index, p :: rest =>
    match p.request? with
    | some r =>
      if r.inline.isNull then do
        let fetch ← checkFetchable c p r
        let others ← pendingOf c (index + 1) rest
        return { index, fetch } :: others
      else pendingOf c (index + 1) rest
    | none => pendingOf c (index + 1) rest

/-- The pending loads, field by field; fields without any are left out. -/
def lanesOf (c : Collaborators) : Nat → List (List Primitive) → Except Error (List (List Pending))
  | _, [] => .ok []
  | start, primitives :: rest => do
    let lane ← pendingOf c start primitives
    let lanes ← lanesOf c (start + primitives.length) rest
    return if lane.isEmpty then lanes else lane :: lanes

/-- Everything that is known before the first load. -/
structure Prepared where
  expanded : List Primitive
  lanes : List (List Pending)

def prepare (c : Collaborators) (template : Template) (card : Card) : Except Error Prepared := do
  let (palettes, fields) ← openSession template card
  let expanded ← fields.mapM (resolveAndExpand palettes card)
  let lanes ← lanesOf c 0 expanded
  return { expanded := expanded.flatten, lanes }

/-- A primitive with its inline or its loaded resource in place. -/
def attachLoaded (loaded : List (Pending × Resource)) (p : Primitive) (index : Nat) : Primitive :=
  match p.request? with
  | none => p
  | some r =>
    match r.inline with
    | .null =>
      match loaded.find? (·.1.index = index) with
      | some (_, resource) => p.attach resource
      | none => p
    | inline => p.attach (.value inline)

def assemble (expanded : List Primitive) (loaded : List (Pending × Resource)) : List Primitive :=
  expanded.zipIdx.map fun (p, index) => attachLoaded loaded p index

/-- What comes of a schedule in its last state: the first failure, or the whole output. A load fails
with an error of its own; one that is called off from outside, or interrupted, comes to nothing here
and is left out. -/
def outcomeOf (prepared : Prepared) (last : Schedule.State Pending Resource Error) :
    Except Error (List Primitive) :=
  match last.failure with
  | some why => .error why
  | none => .ok (assemble prepared.expanded last.results)

/-- What a concurrent build can come to, and after which events, when loads come to what `answer`
says and end in any order. -/
inductive ConcurrentBuild (c : Collaborators) (answer : Pending → Except Error Resource)
    (bound : Nat) (template : Template) (card : Card) :
    Except Error (List Primitive) → List (Schedule.Event Pending) → Prop where
  | refused {why : Error} : prepare c template card = .error why →
      ConcurrentBuild c answer bound template card (.error why) []
  | ended {prepared : Prepared} {last : Schedule.State Pending Resource Error} :
      prepare c template card = .ok prepared →
      Schedule.Reachable answer bound prepared.lanes last → last.Over →
      ConcurrentBuild c answer bound template card (outcomeOf prepared last) last.history

/-- Builds a card under a bound on concurrent loads, each of which takes its delay; gives the
outcome and the log of the loads. -/
def buildConcurrently {τ : Type} [Add τ] [LT τ] [DecidableLT τ] (start : τ) (delay : Fetch → τ)
    (c : Collaborators) (bound : Nat) (template : Template) (card : Card) :
    Except Error (List Primitive) × List (Schedule.Timed Pending τ) :=
  match prepare c template card with
  | .error why => (.error why, [])
  | .ok prepared =>
    let last := Schedule.runOnClock start (fun p => delay p.fetch) (fun p => c.answer p.fetch)
      bound prepared.lanes
    (outcomeOf prepared last.state, last.log)

end CardDrawing
