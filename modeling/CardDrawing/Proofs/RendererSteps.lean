import CardDrawing.Renderer
import CardDrawing.Proofs.BuildAgreement

/-!
# Painting, all or nothing

A renderer is asked for lists of primitives and for painted surfaces, time and again. A request
for a surface goes the way of a request for the list first. Only when this has come to its end is
anything done to a surface: one is asked for, and the list is painted on it.
-/

namespace CardDrawing.Proofs

variable {σ κ α : Type}

/-! ## Requests -/

/-- Something that is done in the course of a request. -/
inductive Deed (σ : Type) where
  | sought (name : String)
  | loaded (fetch : Fetch)
  | scheduled (event : Schedule.Event Pending)
  | drawn (event : DrawEvent σ)

def Deed.drawn? : Deed σ → Option (DrawEvent σ)
  | drawn event => some event
  | _ => none

/-- What a compilation can come to, and what it does on the way. Whoever waits has the loads end
in any order. -/
inductive Compiles (r : Renderer σ) (template : Template) (card : Card) :
    Patience → Except Error (List Primitive) × List (Deed σ) → Prop where
  | immediate : Compiles r template card .immediate
      ((build r.compiler.collaborators template card).1,
        (build r.compiler.collaborators template card).2.map .loaded)
  | waiting {outcome : Except Error (List Primitive)} {history : List (Schedule.Event Pending)} :
      ConcurrentBuild r.compiler.collaborators (fun p => r.compiler.collaborators.answer p.fetch)
        r.compiler.bound template card outcome history →
      Compiles r template card .waiting (outcome, history.map .scheduled)

/-- A request to a renderer as it is at the time, and how the loads go that it leads to. -/
structure Request (σ : Type) where
  renderer : Renderer σ
  bounded : 1 ≤ renderer.compiler.bound
  patience : Patience
  card : Card
  /-- what the compilation comes to and does, once the template is there -/
  compiled : Template → Except Error (List Primitive) × List (Deed σ)
  possible : ∀ template, Compiles renderer template card patience (compiled template)

/-- The steps that come to a given result and leave a given record. -/
def replay (run : Except Error α × List κ) : Trace κ α := do
  modify (· ++ run.2)
  Trace.lift run.1

namespace Request

/-- A template source is asked for the card's template, if there is one. -/
def sought (q : Request σ) : List (Deed σ) :=
  match q.renderer.templates with
  | .absent => []
  | _ => [.sought q.card.templateName]

def lookup (q : Request σ) : Trace (Deed σ) Template :=
  replay (q.renderer.loadTemplate q.patience q.card, q.sought)

def compilation (q : Request σ) (template : Template) : Trace (Deed σ) (List Primitive) :=
  replay (q.compiled template)

def painting (q : Request σ) (template : Template) (primitives : List Primitive) :
    Trace (Deed σ) σ :=
  let (outcome, events) := q.renderer.paint template primitives
  replay (outcome, events.map .drawn)

/-- The course of the request if the list of primitives is asked for. -/
def building (q : Request σ) : Trace (Deed σ) (List Primitive) := do
  let template ← q.lookup
  q.compilation template

/-- The course of the request if a painted surface is asked for. -/
def drawing (q : Request σ) : Trace (Deed σ) σ := do
  let template ← q.lookup
  let primitives ← q.compilation template
  q.painting template primitives

end Request

variable {q : Request σ} {r : Renderer σ} {template : Template} {card : Card}
  {patience : Patience} {ps : List Primitive} {why : Error}

/-! ## Compilations -/

lemma compiles_quiet {run : Except Error (List Primitive) × List (Deed σ)}
    (h : Compiles r template card patience run) : run.2.filterMap Deed.drawn? = [] := by
  cases h <;> simp [List.filterMap_eq_nil_iff, Deed.drawn?]

/-- All compilations that come to a list come to the same list. -/
lemma compiles_eq_ok {run : Except Error (List Primitive) × List (Deed σ)}
    (h : Compiles r template card patience run) (hb : 1 ≤ r.compiler.bound) :
    run.1 = .ok ps ↔ r.compile patience template card = .ok ps := by
  cases h with
  | immediate => rfl
  | waiting h =>
    have hsteady : r.compile .waiting template card = .ok ps ↔
        (build r.compiler.collaborators template card).1 = .ok ps :=
      concurrentBuild_eq_ok (buildConcurrently_schedule (0 : Nat) (fun _ => 1) hb)
    exact (concurrentBuild_eq_ok h).trans hsteady.symm

/-- A request whose loads take given times, if they can be waited for. -/
def Request.onClock (r : Renderer σ) (hb : 1 ≤ r.compiler.bound) (patience : Patience) (card : Card)
    (delay : Fetch → Nat) : Request σ where
  renderer := r
  bounded := hb
  patience := patience
  card := card
  compiled := fun template =>
    match patience with
    | .immediate =>
      let (outcome, loads) := build r.compiler.collaborators template card
      (outcome, loads.map .loaded)
    | .waiting =>
      let (outcome, log) := buildConcurrently 0 delay r.compiler.collaborators r.compiler.bound
        template card
      (outcome, (log.map Schedule.Timed.event).map .scheduled)
  possible := fun template => by
    cases patience with
    | immediate => exact .immediate
    | waiting => exact .waiting (buildConcurrently_schedule 0 delay hb)

/-! ## The course of a request -/

/-- The steps come to the outcome and add the record to whatever has been recorded. -/
structure Runs (steps : Trace κ α) (outcome : Except Error α) (record : List κ) : Prop where
  additive : Additive steps
  run : steps.run = (outcome, record)

section

variable {β : Type} {steps : Trace κ α} {f : α → Trace κ β} {record record' : List κ}

lemma runs_replay (run : Except Error α × List κ) : Runs (replay run) run.1 run.2 := by
  obtain ⟨ha, hr⟩ : Additive (replay run) ∧ (replay run).run = run := additive_of_run fun _ => rfl
  exact ⟨ha, hr⟩

lemma Runs.bind_error (h : Runs steps (.error why) record) :
    Runs (steps >>= f) (.error why) record := by
  obtain ⟨ha, hr⟩ := run_bind_error (f := f) h.additive (congrArg Prod.fst h.run)
  exact ⟨ha, by rw [hr, h.run]⟩

lemma Runs.bind_ok {a : α} {outcome : Except Error β} (h : Runs steps (.ok a) record)
    (hf : Runs (f a) outcome record') : Runs (steps >>= f) outcome (record ++ record') := by
  obtain ⟨ha, hr⟩ := run_bind_ok (f := f) h.additive (congrArg Prod.fst h.run) hf.additive
  exact ⟨ha, by rw [hr, h.run, hf.run]⟩

end

lemma runs_lookup (q : Request σ) :
    Runs q.lookup (q.renderer.loadTemplate q.patience q.card) q.sought :=
  runs_replay _

lemma runs_compilation (q : Request σ) (template : Template) :
    Runs (q.compilation template) (q.compiled template).1 (q.compiled template).2 :=
  runs_replay _

lemma runs_painting (q : Request σ) (template : Template) (ps : List Primitive) :
    Runs (q.painting template ps) (q.renderer.paint template ps).1
      ((q.renderer.paint template ps).2.map .drawn) :=
  runs_replay _

lemma building_unfound (h : q.renderer.loadTemplate q.patience q.card = .error why) :
    q.building.run = (.error why, q.sought) :=
  (h ▸ runs_lookup q).bind_error.run

lemma building_found (h : q.renderer.loadTemplate q.patience q.card = .ok template) :
    q.building.run = ((q.compiled template).1, q.sought ++ (q.compiled template).2) :=
  ((h ▸ runs_lookup q).bind_ok (runs_compilation q template)).run

/-- Whatever keeps a list from being built keeps a surface from being asked for. -/
lemma drawing_of_error (h : q.building.run.1 = .error why) :
    q.drawing.run = (.error why, q.building.run.2) := by
  have hlookup := runs_lookup q
  cases hl : q.renderer.loadTemplate q.patience q.card with
  | error why' =>
    rw [building_unfound hl] at h ⊢
    rw [hl] at hlookup
    cases h
    exact hlookup.bind_error.run
  | ok template =>
    rw [building_found hl] at h ⊢
    rw [hl] at hlookup
    have hcompiled := runs_compilation q template
    rw [h] at hcompiled
    exact (hlookup.bind_ok hcompiled.bind_error).run

lemma drawing_of_ok (hl : q.renderer.loadTemplate q.patience q.card = .ok template)
    (h : q.building.run.1 = .ok ps) :
    q.drawing.run = ((q.renderer.paint template ps).1,
      q.building.run.2 ++ (q.renderer.paint template ps).2.map .drawn) := by
  rw [building_found hl] at h ⊢
  have hlookup := runs_lookup q
  have hcompiled := runs_compilation q template
  rw [hl] at hlookup
  rw [h] at hcompiled
  rw [List.append_assoc]
  exact (hlookup.bind_ok (hcompiled.bind_ok (runs_painting q template ps))).run

/-- Nothing is done to surfaces before the whole list is there. -/
lemma building_quiet (q : Request σ) : q.building.run.2.filterMap Deed.drawn? = [] := by
  have hsought : q.sought.filterMap Deed.drawn? = [] := by
    unfold Request.sought
    split <;> rfl
  cases hl : q.renderer.loadTemplate q.patience q.card with
  | error why => rw [building_unfound hl, hsought]
  | ok template =>
    rw [building_found hl, List.filterMap_append, hsought, compiles_quiet (q.possible template)]
    rfl

lemma building_eq_ok (q : Request σ) :
    q.building.run.1 = .ok ps ↔ q.renderer.build q.patience q.card = .ok ps := by
  rw [Renderer.build]
  cases hl : q.renderer.loadTemplate q.patience q.card with
  | error why =>
    rw [building_unfound hl]
    constructor <;> (intro h; cases h)
  | ok template =>
    have hcompiled : (q.compiled template).1 = .ok ps ↔ _ :=
      compiles_eq_ok (q.possible template) q.bounded
    rw [building_found hl]
    exact hcompiled

/-! ## One request -/

/-- The template is found and the whole list is built: the one that comes back whenever the list is
asked for. -/
structure Ready (q : Request σ) (template : Template) (ps : List Primitive) : Prop where
  found : q.renderer.loadTemplate q.patience q.card = .ok template
  course : q.building.run = (.ok ps, .sought q.card.templateName :: (q.compiled template).2)
  returned : q.renderer.build q.patience q.card = .ok ps
  always : ∀ q' : Request σ, q'.renderer = q.renderer → q'.patience = q.patience →
    q'.card = q.card → q'.building.run.1 = .ok ps

lemma Ready.built (h : Ready q template ps) : q.building.run.1 = .ok ps :=
  congrArg Prod.fst h.course

lemma sought_of_found (h : q.renderer.loadTemplate q.patience q.card = .ok template) :
    q.sought = [.sought q.card.templateName] := by
  unfold Renderer.loadTemplate at h
  unfold Request.sought
  cases ht : q.renderer.templates with
  | absent =>
    rw [ht] at h
    cases h
  | direct => rfl
  | deferred => rfl

lemma ready_of_built (h : q.building.run.1 = .ok ps) : ∃ template, Ready q template ps := by
  have hreturned := (building_eq_ok q).mp h
  cases hl : q.renderer.loadTemplate q.patience q.card with
  | error why =>
    rw [building_unfound hl] at h
    cases h
  | ok template =>
    have hcourse := building_found hl
    rw [hcourse] at h
    rw [sought_of_found hl, h] at hcourse
    refine ⟨template, hl, hcourse, hreturned, fun q' hr hp hc => ?_⟩
    rw [building_eq_ok, hr, hp, hc]
    exact hreturned

lemma drawing_of_ready (h : Ready q template ps) :
    q.drawing.run = ((q.renderer.paint template ps).1,
      q.building.run.2 ++ (q.renderer.paint template ps).2.map .drawn) :=
  drawing_of_ok h.found h.built

lemma draw_of_ready (h : Ready q template ps) :
    q.renderer.draw q.patience q.card = q.renderer.paint template ps := by
  have hreturned := h.returned
  rw [Renderer.build, h.found] at hreturned
  have hcompiled : q.renderer.compile q.patience template q.card = .ok ps := hreturned
  rw [Renderer.draw, h.found]
  dsimp only
  rw [hcompiled]

/-- A list that is not built when the loads go one way is not built when they go another. -/
lemma draw_of_error (h : q.building.run.1 = .error why) :
    ∃ why', q.renderer.draw q.patience q.card = (.error why', []) := by
  have hunbuilt : ∀ ps, q.renderer.build q.patience q.card ≠ .ok ps := by
    intro ps hps
    cases h.symm.trans ((building_eq_ok q).mpr hps)
  rw [Renderer.draw]
  cases hl : q.renderer.loadTemplate q.patience q.card with
  | error why' => exact ⟨why', rfl⟩
  | ok template =>
    rw [Renderer.build, hl] at hunbuilt
    cases hc : q.renderer.compile q.patience template q.card with
    | error why' => exact ⟨why', by dsimp only; rw [hc]⟩
    | ok ps => exact (hunbuilt ps hc).elim

/-- However the loads go, a surface is given back when drawing gives one, and the same is done to
surfaces. -/
lemma drawing_agrees (q : Request σ) :
    (∀ surface, q.drawing.run.1 = .ok surface ↔
      (q.renderer.draw q.patience q.card).1 = .ok surface) ∧
    q.drawing.run.2.filterMap Deed.drawn? = (q.renderer.draw q.patience q.card).2 := by
  cases hb : q.building.run.1 with
  | error why =>
    obtain ⟨why', hd⟩ := draw_of_error hb
    rw [drawing_of_error hb, hd]
    refine ⟨fun surface => ?_, building_quiet q⟩
    constructor <;> (intro h; cases h)
  | ok ps =>
    obtain ⟨template, hr⟩ := ready_of_built hb
    rw [drawing_of_ready hr, draw_of_ready hr, List.filterMap_append, building_quiet,
      List.filterMap_map]
    exact ⟨fun surface => .rfl, List.filterMap_some⟩

/-- What comes of asking for a painted surface. -/
structure AllOrNothing (q : Request σ) : Prop where
  unfound : ∀ why, q.renderer.loadTemplate q.patience q.card = .error why →
    q.building.run.1 = .error why
  unbuilt : ∀ why, q.building.run.1 = .error why → q.drawing.run = (.error why, q.building.run.2)
  built : ∀ ps, q.building.run.1 = .ok ps → ∃ template, Ready q template ps
  quiet : q.building.run.2.filterMap Deed.drawn? = []
  unequipped : ∀ ps, q.building.run.1 = .ok ps →
    q.renderer.canvas = none ∨ q.renderer.painter = none →
    ∃ why, why.kind = .configuration ∧ q.drawing.run = (.error why, q.building.run.2)
  unsupplied : ∀ template ps supply paint why, Ready q template ps →
    q.renderer.canvas = some supply → q.renderer.painter = some paint →
    supply template.width template.height = .error why →
    q.drawing.run =
      (.error why, q.building.run.2 ++ [.drawn (.supplied template.width template.height)])
  painted : ∀ template ps supply paint surface, Ready q template ps →
    q.renderer.canvas = some supply → q.renderer.painter = some paint →
    supply template.width template.height = .ok surface →
    q.drawing.run = (paint surface ps, q.building.run.2 ++
      [.drawn (.supplied template.width template.height), .drawn (.painted surface ps)])
  surface : ∀ surface, q.drawing.run.1 = .ok surface ↔
    (q.renderer.draw q.patience q.card).1 = .ok surface
  events : q.drawing.run.2.filterMap Deed.drawn? = (q.renderer.draw q.patience q.card).2

section

variable {r : Renderer σ} {supply : Number → Number → Except Error σ}
  {apply : σ → List Primitive → Except Error σ} {surface : σ}

lemma paint_unequipped (h : r.canvas = none ∨ r.painter = none) (template : Template)
    (ps : List Primitive) : ∃ why, why.kind = .configuration ∧
      r.paint template ps = (.error why, []) := by
  rw [Renderer.paint]
  cases hc : r.canvas with
  | none => exact ⟨.noCanvasSupplier, rfl, rfl⟩
  | some supply =>
    rw [h.resolve_left (hc ▸ Option.some_ne_none supply)]
    exact ⟨.noPainter, rfl, rfl⟩

lemma paint_unsupplied (hc : r.canvas = some supply) (hp : r.painter = some apply)
    (hs : supply template.width template.height = .error why) (ps : List Primitive) :
    r.paint template ps = (.error why, [.supplied template.width template.height]) := by
  rw [Renderer.paint, hc, hp]
  dsimp only
  rw [hs]

lemma paint_supplied (hc : r.canvas = some supply) (hp : r.painter = some apply)
    (hs : supply template.width template.height = .ok surface) (ps : List Primitive) :
    r.paint template ps = (apply surface ps,
      [.supplied template.width template.height, .painted surface ps]) := by
  rw [Renderer.paint, hc, hp]
  dsimp only
  rw [hs]

end

lemma allOrNothing (q : Request σ) : AllOrNothing q where
  unfound := fun why h => by rw [building_unfound h]
  unbuilt := fun why => drawing_of_error
  built := fun ps => ready_of_built
  quiet := building_quiet q
  unequipped := fun ps hps hmissing => by
    obtain ⟨template, hr⟩ := ready_of_built hps
    obtain ⟨why, hkind, hpaint⟩ := paint_unequipped hmissing template ps
    refine ⟨why, hkind, ?_⟩
    rw [drawing_of_ready hr, hpaint, List.map_nil, List.append_nil]
  unsupplied := fun template ps supply apply why hr hc hp hs => by
    rw [drawing_of_ready hr, paint_unsupplied hc hp hs]
    rfl
  painted := fun template ps supply apply surface hr hc hp hs => by
    rw [drawing_of_ready hr, paint_supplied hc hp hs]
    rfl
  surface := (drawing_agrees q).1
  events := (drawing_agrees q).2

/-! ## One request after another -/

inductive RenderStep (σ : Type) where
  | build (q : Request σ)
  | draw (q : Request σ)

def RenderStep.record : RenderStep σ → List (Deed σ)
  | build q => q.building.run.2
  | draw q => q.drawing.run.2

/-- What is done in all steps together; a step that fails does not keep the later ones from being
taken. -/
def recordOf (steps : List (RenderStep σ)) : List (Deed σ) := steps.flatMap RenderStep.record

lemma nil_ne_append_cons {a b : List α} {x : α} : [] ≠ a ++ x :: b := by simp

/-- What stands at a place of two lists together stands in one of them. -/
lemma append_eq_append_cons {a b c d : List α} {x : α} (h : a ++ b = c ++ x :: d) :
    (∃ rest, c = a ++ rest ∧ b = rest ++ x :: d) ∨ ∃ rest, a = c ++ x :: rest ∧ d = rest ++ b := by
  rcases List.append_eq_append_iff.mp h with hright | ⟨rest, ha, hd⟩
  · exact .inl hright
  · cases rest with
    | nil => exact .inl ⟨[], by rw [ha, List.append_nil, List.append_nil], hd.symm⟩
    | cons y rest =>
      obtain ⟨rfl, rfl⟩ := List.cons.inj hd
      exact .inr ⟨rest, ha, rfl⟩

/-- Everything in the record of all steps is in the record of one of them. -/
lemma recordOf_eq_append {steps : List (RenderStep σ)} {before after : List (Deed σ)}
    {deed : Deed σ} (h : recordOf steps = before ++ deed :: after) :
    ∃ done step todo front back,
      steps = done ++ step :: todo ∧ step.record = front ++ deed :: back ∧
      before = recordOf done ++ front ∧ after = back ++ recordOf todo := by
  induction steps generalizing before with
  | nil => exact (nil_ne_append_cons h).elim
  | cons step steps ih =>
    rcases append_eq_append_cons h with ⟨rest, rfl, hrest⟩ | ⟨back, hrecord, rfl⟩
    · obtain ⟨done, step', todo, front, back, rfl, hrecord, rfl, rfl⟩ := ih hrest
      exact ⟨step :: done, step', todo, front, back, rfl, hrecord,
        (List.append_assoc _ _ _).symm, rfl⟩
    · exact ⟨[], step, steps, before, back, rfl, hrecord, rfl, rfl⟩

/-- Something that is done to a surface is done in a step that paints one, after the whole list
has been built. -/
lemma record_drawn {step : RenderStep σ} {front back : List (Deed σ)} {event : DrawEvent σ}
    (h : step.record = front ++ .drawn event :: back) : ∃ q template ps rest, step = .draw q ∧
      Ready q template ps ∧ front = q.building.run.2 ++ rest ∧
      (q.renderer.paint template ps).2.map .drawn = rest ++ .drawn event :: back := by
  have hquiet (q : Request σ) : .drawn event ∉ q.building.run.2 := by
    intro hm
    cases List.filterMap_eq_nil_iff.mp (building_quiet q) _ hm
  have hbuild (q : Request σ) : q.building.run.2 ≠ front ++ .drawn event :: back := by
    intro he
    exact hquiet q (he ▸ List.mem_append_right _ List.mem_cons_self)
  cases step with
  | build q => exact (hbuild q h).elim
  | draw q =>
    rw [RenderStep.record] at h
    cases hb : q.building.run.1 with
    | error why =>
      rw [drawing_of_error hb] at h
      exact (hbuild q h).elim
    | ok ps =>
      obtain ⟨template, hr⟩ := ready_of_built hb
      rw [drawing_of_ready hr] at h
      rcases append_eq_append_cons h with ⟨rest, hfront, hrest⟩ | ⟨rest, hbuilt, -⟩
      · exact ⟨q, template, ps, rest, rfl, hr, hfront, hrest⟩
      · exact (hquiet q (hbuilt ▸ List.mem_append_right _ List.mem_cons_self)).elim

/-- Where in the painting something is done to a surface: first one is asked for, and if there is
one, then the list is painted on it. -/
lemma paint_eq_append {rest back : List (Deed σ)} {event : DrawEvent σ}
    (h : (r.paint template ps).2.map .drawn = rest ++ .drawn event :: back) :
    ∃ supply, r.canvas = some supply ∧ r.painter ≠ none ∧
      ((rest = [] ∧ event = .supplied template.width template.height ∧
        ((∃ why, supply template.width template.height = .error why ∧ back = []) ∨
          ∃ surface, supply template.width template.height = .ok surface ∧
            back = [.drawn (.painted surface ps)])) ∨
      ∃ surface, supply template.width template.height = .ok surface ∧
        rest = [.drawn (.supplied template.width template.height)] ∧
        event = .painted surface ps ∧ back = []) := by
  by_cases hmissing : r.canvas = none ∨ r.painter = none
  · obtain ⟨why, -, hpaint⟩ := paint_unequipped hmissing template ps
    rw [hpaint] at h
    exact (nil_ne_append_cons h).elim
  · obtain ⟨hcanvas, hpainter⟩ := not_or.mp hmissing
    obtain ⟨supply, hc⟩ := Option.ne_none_iff_exists'.mp hcanvas
    obtain ⟨apply, hp⟩ := Option.ne_none_iff_exists'.mp hpainter
    refine ⟨supply, hc, hpainter, ?_⟩
    cases hs : supply template.width template.height with
    | error why =>
      rw [paint_unsupplied hc hp hs] at h
      rcases List.cons_eq_append_iff.mp h with ⟨rfl, hdeed⟩ | ⟨_, -, hnil⟩
      · cases hdeed
        exact .inl ⟨rfl, rfl, .inl ⟨why, rfl, rfl⟩⟩
      · exact (nil_ne_append_cons hnil).elim
    | ok surface =>
      rw [paint_supplied hc hp hs] at h
      rcases List.cons_eq_append_iff.mp h with ⟨rfl, hdeed⟩ | ⟨_, rfl, hpainted⟩
      · cases hdeed
        exact .inl ⟨rfl, rfl, .inr ⟨surface, rfl, rfl⟩⟩
      · rcases List.cons_eq_append_iff.mp hpainted with ⟨rfl, hdeed⟩ | ⟨_, -, hnil⟩
        · cases hdeed
          exact .inr ⟨surface, rfl, rfl, rfl, rfl⟩
        · exact (nil_ne_append_cons hnil).elim

/-- Among the steps, one asks for a painted surface, has everything ready for it, and has someone
to supply it and someone to paint it. -/
structure Turn (steps done : List (RenderStep σ)) (q : Request σ) (todo : List (RenderStep σ))
    (template : Template) (ps : List Primitive) (supply : Number → Number → Except Error σ) :
    Prop where
  steps : steps = done ++ .draw q :: todo
  ready : Ready q template ps
  canvas : q.renderer.canvas = some supply
  painter : q.renderer.painter ≠ none

/-- A card is painted all or nothing, whatever is asked of renderers and however the loads go. In
the record of all steps, a surface is asked for only when a step that is to paint it has found its
template and built the whole list of primitives, and it is asked for with the template's extent.
If it is supplied then next, and only then, that list is painted on it, and nothing else is done
in the step. -/
theorem painted_all_or_nothing (steps : List (RenderStep σ)) :
    (∀ q : Request σ, AllOrNothing q) ∧
    (∀ before w h after, recordOf steps = before ++ .drawn (.supplied w h) :: after →
      ∃ done q todo template ps supply, Turn steps done q todo template ps supply ∧
        before = recordOf done ++ q.building.run.2 ∧ w = template.width ∧ h = template.height ∧
        ((∃ why, supply w h = .error why ∧ after = recordOf todo) ∨
          ∃ surface, supply w h = .ok surface ∧
            after = .drawn (.painted surface ps) :: recordOf todo)) ∧
    ∀ before surface ps after, recordOf steps = before ++ .drawn (.painted surface ps) :: after →
      ∃ done q todo template supply, Turn steps done q todo template ps supply ∧
        supply template.width template.height = .ok surface ∧
        before = recordOf done ++ q.building.run.2 ++
          [.drawn (.supplied template.width template.height)] ∧
        after = recordOf todo := by
  refine ⟨allOrNothing, fun before w h after hrun => ?_, fun before surface ps after hrun => ?_⟩
  · obtain ⟨done, step, todo, front, back, hsteps, hrecord, rfl, rfl⟩ := recordOf_eq_append hrun
    obtain ⟨q, template, ps, rest, rfl, hr, rfl, hevents⟩ := record_drawn hrecord
    obtain ⟨supply, hc, hp, ⟨rfl, hevent, hs⟩ | ⟨_, -, -, hevent, -⟩⟩ := paint_eq_append hevents
    · cases hevent
      refine ⟨done, q, todo, template, ps, supply, ⟨hsteps, hr, hc, hp⟩, ?_, rfl, rfl, ?_⟩
      · rw [List.append_nil]
      · rcases hs with ⟨why, hs, rfl⟩ | ⟨surface, hs, rfl⟩
        · exact .inl ⟨why, hs, rfl⟩
        · exact .inr ⟨surface, hs, rfl⟩
    · cases hevent
  · obtain ⟨done, step, todo, front, back, hsteps, hrecord, rfl, rfl⟩ := recordOf_eq_append hrun
    obtain ⟨q, template, ps', rest, rfl, hr, rfl, hevents⟩ := record_drawn hrecord
    obtain ⟨supply, hc, hp, ⟨-, hevent, -⟩ | ⟨_, hs, rfl, hevent, rfl⟩⟩ :=
      paint_eq_append hevents
    · cases hevent
    · cases hevent
      exact ⟨done, q, todo, template, supply, ⟨hsteps, hr, hc, hp⟩, hs,
        (List.append_assoc _ _ _).symm, rfl⟩

/-- A renderer that knows nothing but the atlas, with surfaces that keep what is painted on
them. -/
def easel : Renderer (List Primitive) where
  templates := .deferred fun name =>
    if name = "atlas" then .ok atlas else .error (.noTemplate name)
  canvas := some fun _ _ => .ok []
  painter := some fun surface ps => .ok (surface ++ ps)
  compiler := { collaborators := atlasLoader, bound := 2 }

/-- However long the maps take, the atlas is painted for whoever can wait. Others are refused. -/
theorem easel_painted : 1 ≤ easel.compiler.bound ∧ ∀ delay : Fetch → Nat,
    let patient := Request.onClock easel (by decide) .waiting atlasCard delay
    let hasty := Request.onClock easel (by decide) .immediate atlasCard delay
    patient.drawing.run = (.ok atlasDrawing, patient.building.run.2 ++
      [.drawn (.supplied 16 16), .drawn (.painted [] atlasDrawing)]) ∧
    hasty.drawing.run = (.error .templateSupplierIsAsync, [.sought "atlas"]) := by
  refine ⟨by decide, fun delay => ?_⟩
  intro patient hasty
  obtain ⟨hall, -, -⟩ := painted_all_or_nothing [RenderStep.draw patient, .draw hasty]
  have hfound : patient.renderer.loadTemplate patient.patience patient.card = .ok atlas := rfl
  have hbuilt : patient.building.run.1 = .ok atlasDrawing := by
    rw [building_found hfound]
    exact atlas_drawn (by decide) delay
  obtain ⟨template, hready⟩ := (hall patient).built _ hbuilt
  obtain rfl := Except.ok.inj (hfound.symm.trans hready.found)
  constructor
  · exact (hall patient).painted _ _ _ _ _ hready rfl rfl rfl
  · have hunfound := building_unfound (rfl : hasty.renderer.loadTemplate _ _ = .error _)
    have hunbuilt := (hall hasty).unbuilt _ (congrArg Prod.fst hunfound)
    rw [hunfound] at hunbuilt
    exact hunbuilt

end CardDrawing.Proofs
