import CardDrawing.Proofs.ScheduleSteps

/-!
# Safety of schedules

What holds in every state that a schedule can get into: the slots, the place of every lane, the
account of every item, and the order of the starts.
-/

namespace CardDrawing.Proofs
open Schedule
open scoped List

variable {ι ρ ε : Type} {answer : ι → Except ε ρ} {bound : Nat} {work : List (List ι)}

/-! ## Slots and lanes -/

/-- Every slot is free or held by one lane, and no lane is in two places. -/
structure Placed (bound : Nat) (s : State ι ρ ε) : Prop where
  slots : s.free + s.called.length + s.idle.length + s.running.length = bound
  numbers : (numbersOf s).Nodup

lemma lanes_numbers (work : List (List ι)) :
    (lanes work).map Lane.number = List.range work.length := by
  simp [lanes, Function.comp_def, List.zipIdx_map_snd, List.range_eq_range']

lemma initial_placed : Placed bound (State.initial bound work : State ι ρ ε) where
  slots := by simp [State.initial]
  numbers := by simp [numbersOf, State.initial, lanes_numbers, List.nodup_range]

lemma Placed.running {s : State ι ρ ε} (hs : Placed bound s) :
    (s.running.map Flight.number).Nodup :=
  (List.nodup_append.mp hs.numbers).2.1

/-- A lane moves on to run an item. -/
lemma numbersOf_launch (s : State ι ρ ε) (number : Nat) (item : ι) (rest : List ι) :
    (numbersOf (s.launch number item rest)).Perm (number :: numbersOf s) := by
  have h : ((State.insertFlight { number, item, rest } s.running).map Flight.number).Perm
      (number :: s.running.map Flight.number) := (insertFlight_perm _ _).map _
  exact (h.append_left _).trans List.perm_middle

/-- The lane in hand is in no list and holds one slot. -/
lemma placed_proceed {s : State ι ρ ε} {lane : Lane ι}
    (hslots : s.free + s.called.length + s.idle.length + s.running.length + 1 = bound)
    (hnum : (lane.number :: numbersOf s).Nodup) : Placed bound (s.proceed lane) := by
  rcases proceed_cases s lane with ⟨item, rest, hi, hf, he⟩ | ⟨-, he⟩ <;> rw [he]
  · refine ⟨?_, (numbersOf_launch _ _ _ _).nodup_iff.mpr hnum⟩
    have hl := (insertFlight_perm { number := lane.number, item, rest } s.running).length_eq
    simp only [State.launch, hl, List.length_cons]
    omega
  · refine ⟨?_, (List.nodup_cons.mp hnum).2⟩
    simp only [State.release]
    omega

lemma step_placed {s t : State ι ρ ε} (h : Step answer s t) (hs : Placed bound s) :
    Placed bound t := by
  obtain ⟨hslots, hnum⟩ := hs
  cases h with
  | enter h =>
    obtain ⟨lane, waiting, free, hw, hf, rfl⟩ := enter?_eq_some h
    refine ⟨?_, ?_⟩
    · simp only [List.length_append, List.length_singleton]
      omega
    · simpa [numbersOf, hw] using hnum
  | @begin lane called hc =>
    apply placed_proceed
    · rw [hc, List.length_cons] at hslots
      dsimp only
      omega
    · simpa [numbersOf, hc] using hnum
  | @resume lane before after hidle =>
    apply placed_proceed
    · rw [hidle, List.length_append, List.length_cons] at hslots
      dsimp only
      rw [List.length_append]
      omega
    · refine (List.Perm.nodup_iff ?_).mp hnum
      have hp : (s.called ++ s.waiting ++ s.idle).Perm
          (lane :: (s.called ++ s.waiting ++ (before ++ after))) := by
        rw [hidle]
        exact (List.perm_middle.append_left _).trans List.perm_middle
      exact (hp.map Lane.number).append_right _
  | @complete flight hm =>
    have hr := running_perm_withoutFlight (Placed.running ⟨hslots, hnum⟩) hm
    have hl := hr.length_eq
    rw [List.length_cons] at hl
    have hnum' : (flight.number :: numbersOf { s with
        running := State.withoutFlight flight.number s.running }).Nodup := by
      refine (List.Perm.nodup_iff ?_).mp hnum
      exact ((hr.map Flight.number).append_left _).trans List.perm_middle
    cases answer flight.item with
    | ok result =>
      refine ⟨?_, (List.Perm.nodup_iff ?_).mpr hnum'⟩
      · simp only [State.complete, State.finish, List.length_append, List.length_singleton]
        omega
      · simp only [State.complete, State.finish, numbersOf, List.map_append, List.append_assoc,
          List.map_cons, List.map_nil, List.cons_append, List.nil_append]
        simp only [← List.append_assoc]
        exact List.perm_middle
    | error why =>
      refine ⟨?_, (List.nodup_cons.mp hnum').2⟩
      simp only [State.complete, State.fail]
      omega
  | cancel _ =>
    refine ⟨?_, ?_⟩
    · simp only [State.cancelAll, List.length_nil]
      omega
    · simp [State.cancelAll, numbersOf]

lemma reachable_placed {s : State ι ρ ε} (h : Reachable answer bound work s) : Placed bound s :=
  run_induction (fun _ _ => step_placed) h initial_placed

/-! ## The account of the items -/

/-- Every item that was started is running or has ended. No item is started more often than it
occurs in `work`, and as long as nothing has failed no item is lost. -/
structure Counted (work : List (List ι)) (s : State ι ρ ε) : Prop where
  flights : (s.running.map Flight.item ++ ended s.history).Perm (started s.history)
  account : s.failure = none → (leftOf s ++ started s.history).Perm work.flatten
  once : (started s.history).Subperm work.flatten

lemma lanes_items (work : List (List ι)) : (lanes work).flatMap Lane.items = work.flatten := by
  have h : (lanes work).map Lane.items = work := by
    simp [lanes, Function.comp_def, List.zipIdx_map_fst]
  rw [List.flatMap_def, h]

lemma initial_counted : Counted work (State.initial bound work : State ι ρ ε) where
  flights := .refl []
  account _ := by simp [leftOf, State.initial, lanes_items, started]
  once := List.nil_subperm

lemma leftOf_launch (s : State ι ρ ε) (number : Nat) (item : ι) (rest : List ι) :
    (leftOf (s.launch number item rest)).Perm (rest ++ leftOf s) := by
  have h : ((State.insertFlight { number, item, rest } s.running).flatMap Flight.rest).Perm
      (rest ++ s.running.flatMap Flight.rest) := (insertFlight_perm _ _).flatMap_right _
  calc leftOf (s.launch number item rest)
      _ ~ (s.called ++ s.waiting ++ s.idle).flatMap Lane.items ++
          (rest ++ s.running.flatMap Flight.rest) := h.append_left _
      _ ~ rest ++ leftOf s := by
        simp only [leftOf, ← List.append_assoc]
        exact List.perm_append_comm.append_right _

/-- The items of the lane in hand are not among those that are left in `s`. -/
lemma counted_proceed {s : State ι ρ ε} {lane : Lane ι}
    (hflights : (s.running.map Flight.item ++ ended s.history).Perm (started s.history))
    (haccount : s.failure = none →
      (lane.items ++ leftOf s ++ started s.history).Perm work.flatten)
    (honce : (started s.history).Subperm work.flatten) : Counted work (s.proceed lane) := by
  rcases proceed_cases s lane with ⟨item, rest, hi, hf, he⟩ | ⟨hi, he⟩ <;> rw [he]
  · have hall : (leftOf (s.launch lane.number item rest) ++ (started s.history ++ [item])).Perm
        work.flatten := by
      refine List.Perm.trans ?_ (haccount hf)
      rw [hi]
      refine ((leftOf_launch s lane.number item rest).append_right _).trans ?_
      rw [← List.append_assoc]
      exact List.perm_append_singleton item _
    refine ⟨?_, fun _ => ?_, ?_⟩
    · have hr := ((insertFlight_perm { number := lane.number, item, rest } s.running).map
        Flight.item).append_right (ended s.history)
      simp only [State.launch, started_append, ended_append, started_start, ended_start,
        List.append_nil]
      exact hr.trans ((hflights.cons item).trans (List.perm_append_singleton item _).symm)
    · simpa only [State.launch, started_append, started_start] using hall
    · simp only [State.launch, started_append, started_start]
      exact (List.sublist_append_right _ _).subperm.trans hall.subperm
  · refine ⟨hflights, fun hf => ?_, honce⟩
    have h := haccount hf
    rwa [hi hf, List.nil_append] at h

/-- A lane that is idle again has the rest of its items to start. -/
lemma leftOf_finish {s : State ι ρ ε} {flight : Flight ι} (result : ρ)
    (hr : s.running ~ flight :: State.withoutFlight flight.number s.running) :
    leftOf (s.finish flight result) ~ leftOf s := by
  have h : s.running.flatMap Flight.rest ~
      flight.rest ++ (State.withoutFlight flight.number s.running).flatMap Flight.rest :=
    hr.flatMap_right _
  simp only [leftOf, State.finish, ← List.append_assoc, List.flatMap_append]
  simp only [List.append_assoc, List.flatMap_singleton]
  exact ((((h.symm).append_left _).append_left _).append_left _)

lemma step_counted {s t : State ι ρ ε} (h : Step answer s t) (hp : Placed bound s)
    (hs : Counted work s) : Counted work t := by
  obtain ⟨hflights, haccount, honce⟩ := hs
  cases h with
  | enter h =>
    obtain ⟨lane, waiting, free, hw, hf, rfl⟩ := enter?_eq_some h
    refine ⟨hflights, fun hf => ?_, honce⟩
    simpa [leftOf, hw] using haccount hf
  | @begin lane called hc =>
    refine counted_proceed hflights (fun hf => ?_) honce
    simpa [leftOf, hc] using haccount hf
  | @resume lane before after hidle =>
    refine counted_proceed hflights (fun hf => ?_) honce
    have hl : s.called ++ s.waiting ++ s.idle ~
        lane :: (s.called ++ s.waiting ++ (before ++ after)) := by
      rw [hidle]
      exact (List.perm_middle.append_left _).trans List.perm_middle
    refine (List.Perm.append_right _ ?_).trans (haccount hf)
    simpa [leftOf] using ((hl.flatMap_right Lane.items).append_right _).symm
  | @complete flight hm =>
    have hr := running_perm_withoutFlight hp.running hm
    have hends : (State.withoutFlight flight.number s.running).map Flight.item ++
        (ended s.history ++ [flight.item]) ~ started s.history := by
      rw [← List.append_assoc]
      refine (List.perm_append_singleton _ _).trans (List.Perm.trans ?_ hflights)
      exact ((hr.map Flight.item).append_right _).symm
    cases answer flight.item with
    | ok result =>
      refine ⟨?_, fun hf => ?_, ?_⟩
      · simpa [State.complete, State.finish] using hends
      · have hl := (leftOf_finish result hr).append_right (started s.history)
        simpa [State.complete, State.finish] using! hl.trans (haccount hf)
      · simpa [State.complete, State.finish] using honce
    | error why =>
      refine ⟨?_, fun hf => ?_, ?_⟩
      · simpa [State.complete, State.fail] using hends
      · cases hf
      · simpa [State.complete, State.fail] using honce
  | cancel hf =>
    refine ⟨?_, fun hn => ?_, ?_⟩
    · simpa [State.cancelAll] using List.perm_append_comm.trans hflights
    · exact absurd hn (Option.isSome_iff_ne_none.mp hf)
    · simpa [State.cancelAll] using honce

lemma reachable_counted {s : State ι ρ ε} (h : Reachable answer bound work s) :
    Placed bound s ∧ Counted work s :=
  run_induction (P := fun s => Placed bound s ∧ Counted work s)
    (fun _ _ hst hs => ⟨step_placed hst hs.1, step_counted hst hs.1 hs.2⟩) h
    ⟨initial_placed, initial_counted⟩

/-! ## The order of the starts -/

lemma lane_unique (hw : work.flatten.Nodup) {m n : Nat} {l l' : List ι} {item : ι}
    (hm : work[m]? = some l) (hn : work[n]? = some l') (hl : item ∈ l) (hl' : item ∈ l') :
    m = n := by
  have hd := List.pairwise_iff_getElem.mp (List.nodup_flatten.mp hw).2
  obtain ⟨hm', rfl⟩ := List.getElem?_eq_some_iff.mp hm
  obtain ⟨hn', rfl⟩ := List.getElem?_eq_some_iff.mp hn
  rcases Nat.lt_trichotomy m n with h | h | h
  · exact (hd m n hm' hn' h hl hl').elim
  · exact h
  · exact (hd n m hn' hm' h hl' hl).elim

lemma split_unique {item : ι} {a b c d : List ι} (hn : (a ++ item :: b).Nodup)
    (h : a ++ item :: b = c ++ item :: d) : a = c ∧ b = d := by
  have ha : item ∉ a := fun hi => (List.nodup_append.mp hn).2.2 _ hi _ List.mem_cons_self rfl
  have hc : item ∉ c :=
    fun hi => (List.nodup_append.mp (h ▸ hn)).2.2 _ hi _ List.mem_cons_self rfl
  induction a generalizing c with
  | nil =>
    cases c with
    | nil => exact ⟨rfl, (List.cons.inj h).2⟩
    | cons x c => exact (hc ((List.cons.inj h).1 ▸ List.mem_cons_self)).elim
  | cons y a ih =>
    cases c with
    | nil => exact (ha ((List.cons.inj h).1 ▸ List.mem_cons_self)).elim
    | cons x c =>
      obtain ⟨rfl, ht⟩ := List.cons.inj h
      obtain ⟨rfl, rfl⟩ := ih (List.nodup_cons.mp hn).2 ht
        (fun hi => ha (List.mem_cons_of_mem _ hi)) (fun hi => hc (List.mem_cons_of_mem _ hi))
      exact ⟨rfl, rfl⟩

/-- What must have happened before an item may start. -/
structure Justified (work : List (List ι)) (before : List (Event ι)) (item : ι) : Prop where
  fresh : item ∉ started before
  follows : ∀ done prev rest, done ++ prev :: item :: rest ∈ work → prev ∈ finished before
  healthy : failed before = []

/-- Every start of a history is justified by what precedes it. -/
def Orderly (work : List (List ι)) (history : List (Event ι)) : Prop :=
  ∀ before item, before ++ [.start item] <+: history → Justified work before item

lemma orderly_nil : Orderly work [] := by
  intro before item h
  simp at h

lemma orderly_start {history : List (Event ι)} {item : ι} (h : Orderly work history)
    (hj : Justified work history item) : Orderly work (history ++ [.start item]) := by
  intro before other hp
  rcases List.prefix_concat_iff.mp hp with he | hp
  · obtain ⟨hb, hi⟩ := List.append_inj' he rfl
    obtain rfl : other = item := by simpa using hi
    exact hb ▸ hj
  · exact h before other hp

lemma orderly_append {history tail : List (Event ι)} (h : Orderly work history)
    (ht : started tail = []) : Orderly work (history ++ tail) := by
  induction tail generalizing history with
  | nil => simpa using h
  | cons e tail ih =>
    rw [List.append_cons]
    rw [← List.singleton_append, started_append, List.append_eq_nil_iff] at ht
    refine ih ?_ ht.2
    intro before item hp
    rcases List.prefix_concat_iff.mp hp with he | hp
    · obtain ⟨-, hi⟩ := List.append_inj' he rfl
      rw [← hi] at ht
      simp at ht
    · exact h before item hp

/-- The place of every lane in its work, and the order of what was started so far: `k` lanes have
begun. -/
structure Ordered (work : List (List ι)) (k : Nat) (s : State ι ρ ε) : Prop where
  healthy : s.failure = none ↔ failed s.history = []
  idle : ∀ lane ∈ s.idle, ∃ done last,
    work[lane.number]? = some (done ++ last :: lane.items) ∧ last ∈ finished s.history
  running : ∀ flight ∈ s.running, ∃ done,
    work[flight.number]? = some (done ++ flight.item :: flight.rest)
  begun : ∀ n lane, work[n]? = some lane → ((∃ item ∈ lane, item ∈ started s.history) ↔ n < k)
  orderly : Orderly work s.history

/-- The lanes that have not begun stand in line, in order, as long as nothing has failed. -/
def Lined (work : List (List ι)) (k : Nat) (s : State ι ρ ε) : Prop :=
  s.failure = none → s.called ++ s.waiting = (lanes work).drop k

lemma initial_ordered : Ordered work 0 (State.initial bound work : State ι ρ ε) where
  healthy := by simp [State.initial, failed]
  idle := by simp [State.initial]
  running := by simp [State.initial]
  begun := by simp [State.initial, started]
  orderly := orderly_nil

lemma initial_lined : Lined work 0 (State.initial bound work : State ι ρ ε) := by
  simp [Lined, State.initial]

/-- The first lane of the line is the first that has not begun. -/
lemma lanes_drop_eq_cons {k : Nat} {lane : Lane ι} {rest : List (Lane ι)}
    (h : (lanes work).drop k = lane :: rest) :
    lane.number = k ∧ work[k]? = some lane.items ∧ (lanes work).drop (k + 1) = rest := by
  have hk : (lanes work)[k]? = some lane := by
    rw [← List.head?_drop, h, List.head?_cons]
  simp only [lanes, List.getElem?_map, List.getElem?_zipIdx, Option.map_map,
    Option.map_eq_some_iff] at hk
  obtain ⟨items, hi, rfl⟩ := hk
  refine ⟨by simp, hi, ?_⟩
  rw [← List.tail_drop, h, List.tail_cons]

/-- The next item of a lane is justified once the item before it, if any, has finished. -/
lemma justified_of_split {history : List (Event ι)} {number : Nat} {item : ι} {done rest : List ι}
    (hw : work.flatten.Nodup) (hsplit : work[number]? = some (done ++ item :: rest))
    (hdone : ∀ d last, done = d ++ [last] → last ∈ finished history)
    (hfresh : item ∉ started history) (hf : failed history = []) :
    Justified work history item := by
  refine ⟨hfresh, fun d prev r hl => ?_, hf⟩
  obtain ⟨n, hn, he⟩ := List.mem_iff_getElem.mp hl
  have hn' : work[n]? = some (d ++ prev :: item :: r) := by simp [hn, he]
  have hmem : item ∈ d ++ prev :: item :: r := by simp
  obtain rfl : n = number := lane_unique hw hn' hsplit hmem (by simp)
  have heq : d ++ [prev] ++ item :: r = done ++ item :: rest := by
    simpa using Option.some.inj (hn'.symm.trans hsplit)
  have hnodup : (d ++ [prev] ++ item :: r).Nodup := by
    simpa using (List.nodup_flatten.mp hw).1 _ hl
  exact hdone d prev (split_unique hnodup heq).1.symm

lemma ordered_launch {s : State ι ρ ε} {k k' number : Nat} {item : ι} {done rest : List ι}
    (hw : work.flatten.Nodup) (hs : Ordered work k s) (hk : ∀ n, n < k' ↔ n < k ∨ n = number)
    (hsplit : work[number]? = some (done ++ item :: rest))
    (hj : Justified work s.history item) : Ordered work k' (s.launch number item rest) where
  healthy := by simpa [State.launch] using hs.healthy
  idle lane hl := by simpa [State.launch] using hs.idle lane hl
  running flight hm := by
    rcases List.mem_cons.mp ((insertFlight_perm _ _).mem_iff.mp hm) with rfl | hm
    · exact ⟨done, hsplit⟩
    · exact hs.running flight hm
  begun n lane hn := by
    have hb := hs.begun n lane hn
    have hi : item ∈ lane ↔ n = number := by
      constructor
      · exact fun hi => lane_unique hw hn hsplit hi (by simp)
      · rintro rfl
        rw [Option.some.inj (hn.symm.trans hsplit)]
        simp
    rw [hk n, ← hb, ← hi]
    simp only [State.launch, started_append, started_start, List.mem_append, List.mem_singleton]
    constructor
    · rintro ⟨x, hx, hx' | rfl⟩
      · exact .inl ⟨x, hx, hx'⟩
      · exact .inr hx
    · rintro (⟨x, hx, hx'⟩ | hi)
      · exact ⟨x, hx, .inl hx'⟩
      · exact ⟨item, hi, .inr rfl⟩
  orderly := orderly_start hs.orderly hj

lemma Counted.started_of_ended {s : State ι ρ ε} (hs : Counted work s) {item : ι}
    (hi : item ∈ ended s.history) : item ∈ started s.history :=
  hs.flights.mem_iff.mp (List.mem_append_right _ hi)

lemma Counted.started_of_finished {s : State ι ρ ε} (hs : Counted work s) {item : ι}
    (hi : item ∈ finished s.history) : item ∈ started s.history :=
  hs.started_of_ended (mem_ended.mpr (.inl (mem_finished.mp hi)))

/-- An item that is left has not been started. -/
lemma Counted.fresh {s : State ι ρ ε} (hw : work.flatten.Nodup) (hs : Counted work s)
    (hf : s.failure = none) {item : ι} (hi : item ∈ leftOf s) : item ∉ started s.history :=
  fun hm => List.disjoint_of_nodup_append ((hs.account hf).nodup_iff.mpr hw) hi hm

/-- Only the idle and the running lanes and the history count. -/
lemma Ordered.congr {s t : State ι ρ ε} {k : Nat} (hs : Ordered work k s)
    (hf : t.failure = s.failure) (hh : t.history = s.history) (hi : t.idle ⊆ s.idle)
    (hr : t.running ⊆ s.running) : Ordered work k t where
  healthy := by
    rw [hf, hh]
    exact hs.healthy
  idle lane hl := by
    rw [hh]
    exact hs.idle lane (hi hl)
  running flight hm := hs.running flight (hr hm)
  begun := by
    rw [hh]
    exact hs.begun
  orderly := by
    rw [hh]
    exact hs.orderly

section

variable {s : State ι ρ ε} {k : Nat}

/-- The first lane that was called begins its work. -/
lemma ordered_begin (hw : work.flatten.Nodup) (hne : [] ∉ work) (hc : Counted work s)
    (hs : Ordered work k s) (hl : Lined work k s) {lane : Lane ι} {called : List (Lane ι)}
    (hcalled : s.called = lane :: called) :
    ∃ k', Ordered work k' ({ s with called }.proceed lane) ∧
      Lined work k' ({ s with called }.proceed lane) := by
  have hs' : Ordered work k { s with called } :=
    hs.congr rfl rfl (List.Subset.refl _) (List.Subset.refl _)
  have hhead (hf : s.failure = none) : lane.number = k ∧ work[k]? = some lane.items ∧
      (lanes work).drop (k + 1) = called ++ s.waiting := by
    apply lanes_drop_eq_cons
    rw [← hl hf, hcalled, List.cons_append]
  rcases proceed_cases { s with called } lane with ⟨item, rest, hi, hf, he⟩ | ⟨hi, he⟩ <;> rw [he]
  · obtain ⟨hnum, hwork, hdrop⟩ := hhead hf
    have hsplit : work[lane.number]? = some ([] ++ item :: rest) := by
      rw [hnum, hwork, hi, List.nil_append]
    have hfresh : item ∉ started s.history :=
      hc.fresh hw hf (by simp [leftOf, hcalled, hi])
    have hj := justified_of_split hw hsplit (by simp) hfresh (hs.healthy.mp hf)
    refine ⟨k + 1, ordered_launch hw hs' (fun n => ?_) hsplit hj, fun _ => hdrop.symm⟩
    omega
  · refine ⟨k, hs'.congr rfl rfl (List.Subset.refl _) (List.Subset.refl _), fun hf => ?_⟩
    -- no lane is empty, so this one gives its slot back after a failure only
    have hwork := (hhead hf).2.1
    rw [hi hf] at hwork
    exact (hne (List.mem_of_getElem? hwork)).elim

/-- A lane that has begun goes on to the item after the one that has finished. -/
lemma ordered_resume (hw : work.flatten.Nodup) (hc : Counted work s) (hs : Ordered work k s)
    {lane : Lane ι} {before after : List (Lane ι)} (hidle : s.idle = before ++ lane :: after) :
    Ordered work k ({ s with idle := before ++ after }.proceed lane) := by
  have hsub : before ++ after ⊆ s.idle := by
    rw [hidle]
    exact ((List.sublist_cons_self lane after).append_left before).subset
  have hs' : Ordered work k { s with idle := before ++ after } :=
    hs.congr rfl rfl hsub (List.Subset.refl _)
  obtain ⟨done, last, hwork, hlast⟩ := hs.idle lane (by simp [hidle])
  rcases proceed_cases { s with idle := before ++ after } lane with
    ⟨item, rest, hi, hf, he⟩ | ⟨-, he⟩ <;> rw [he]
  · have hsplit : work[lane.number]? = some (done ++ [last] ++ item :: rest) := by
      simpa [hi] using hwork
    have hfresh : item ∉ started s.history :=
      hc.fresh hw hf (by simp [leftOf, hidle, hi])
    have hdone : ∀ d l, done ++ [last] = d ++ [l] → l ∈ finished s.history := by
      intro d l hd
      obtain ⟨-, hl⟩ := List.append_inj' hd rfl
      exact List.singleton_inj.mp hl ▸ hlast
    have hj := justified_of_split hw hsplit hdone hfresh (hs.healthy.mp hf)
    have hnum : lane.number < k := (hs.begun _ _ hwork).mp
      ⟨last, by simp, hc.started_of_finished hlast⟩
    refine ordered_launch hw hs' (fun n => ?_) hsplit hj
    omega
  · exact hs'.congr rfl rfl (List.Subset.refl _) (List.Subset.refl _)

lemma ordered_finish (hs : Ordered work k s) {flight : Flight ι} (hm : flight ∈ s.running)
    (result : ρ) : Ordered work k (s.finish flight result) where
  healthy := by simpa [State.finish] using hs.healthy
  idle lane hlane := by
    simp only [State.finish, finished_append, finished_finish, List.mem_append,
      List.mem_singleton] at hlane ⊢
    rcases hlane with hlane | rfl
    · obtain ⟨done, last, hwork, hlast⟩ := hs.idle lane hlane
      exact ⟨done, last, hwork, .inl hlast⟩
    · obtain ⟨done, hwork⟩ := hs.running flight hm
      exact ⟨done, flight.item, hwork, .inr rfl⟩
  running other ho := hs.running other (List.mem_of_mem_filter ho)
  begun := by simpa [State.finish] using hs.begun
  orderly := orderly_append hs.orderly rfl

lemma ordered_fail (hs : Ordered work k s) (flight : Flight ι) (why : ε) :
    Ordered work k (s.fail flight why) where
  healthy := by simp [State.fail]
  idle := by simpa [State.fail] using hs.idle
  running other ho := hs.running other (List.mem_of_mem_filter ho)
  begun := by simpa [State.fail] using hs.begun
  orderly := orderly_append hs.orderly rfl

lemma ordered_cancelAll (hs : Ordered work k s) : Ordered work k s.cancelAll where
  healthy := by simpa [State.cancelAll] using hs.healthy
  idle := by simp [State.cancelAll]
  running := by simp [State.cancelAll]
  begun := by simpa [State.cancelAll] using hs.begun
  orderly := orderly_append hs.orderly (started_cancels _)

end

lemma step_ordered {s t : State ι ρ ε} {k : Nat} (hw : work.flatten.Nodup) (hne : [] ∉ work)
    (h : Step answer s t) (hc : Counted work s) (hs : Ordered work k s) (hl : Lined work k s) :
    ∃ k', Ordered work k' t ∧ Lined work k' t := by
  cases h with
  | enter h =>
    obtain ⟨lane, waiting, free, hwait, hfree, rfl⟩ := enter?_eq_some h
    refine ⟨k, hs.congr rfl rfl (List.Subset.refl _) (List.Subset.refl _), fun hf => ?_⟩
    simpa [hwait] using hl hf
  | begin hcalled => exact ordered_begin hw hne hc hs hl hcalled
  | @resume lane before after hidle =>
    refine ⟨k, ordered_resume hw hc hs hidle, ?_⟩
    rcases proceed_cases { s with idle := before ++ after } lane with
      ⟨item, rest, -, -, he⟩ | ⟨-, he⟩ <;> rw [he] <;> exact hl
  | @complete flight hm =>
    cases answer flight.item with
    | ok result => exact ⟨k, ordered_finish hs hm result, hl⟩
    | error why =>
      refine ⟨k, ordered_fail hs flight why, fun hf => ?_⟩
      cases hf
  | cancel hf =>
    exact ⟨k, ordered_cancelAll hs, fun hn => absurd hn (Option.isSome_iff_ne_none.mp hf)⟩

/-- The whole invariant of a schedule whose lanes hold distinct items, none of them empty. -/
structure Lawful (bound : Nat) (work : List (List ι)) (s : State ι ρ ε) : Prop where
  placed : Placed bound s
  counted : Counted work s
  ordered : ∃ k, Ordered work k s ∧ Lined work k s

theorem reachable_lawful (hw : work.flatten.Nodup) (hne : [] ∉ work) {s : State ι ρ ε}
    (h : Reachable answer bound work s) : Lawful bound work s := by
  refine run_induction (fun s t hst hs => ?_) h
    ⟨initial_placed, initial_counted, 0, initial_ordered, initial_lined⟩
  obtain ⟨k, ho, hl⟩ := hs.ordered
  exact ⟨step_placed hst hs.placed, step_counted hst hs.placed hs.counted,
    step_ordered hw hne hst hs.counted ho hl⟩

/-! ## Safety -/

/-- What a schedule of `work` promises about its running items and its history. -/
structure Safe (bound : Nat) (work : List (List ι)) (s : State ι ρ ε) : Prop where
  /-- at most `bound` items run -/
  bounded : s.running.length ≤ bound
  /-- the running items are those that were started and have not ended -/
  inFlight : ∀ item, item ∈ s.running.map Flight.item ↔ InFlight s.history item
  /-- of each lane at most one item runs -/
  alone : ∀ lane ∈ work, ∀ i ∈ lane, ∀ j ∈ lane,
    InFlight s.history i → InFlight s.history j → i = j
  /-- an item starts only after the one before it in its lane has finished well -/
  successive : ∀ before item, before ++ [.start item] <+: s.history →
    ∀ done prev rest, done ++ prev :: item :: rest ∈ work → .finish prev ∈ before
  /-- only items of the work start, and none starts twice -/
  once : (started s.history).Nodup ∧ ∀ item ∈ started s.history, item ∈ work.flatten
  /-- the lanes that have started are the first ones -/
  inOrder : ∃ k : Nat, ∀ n lane, work[n]? = some lane →
    ((∃ item ∈ lane, .start item ∈ s.history) ↔ n < k)

lemma Lawful.started_nodup (hw : work.flatten.Nodup) {s : State ι ρ ε} (hs : Lawful bound work s) :
    (started s.history).Nodup := by
  obtain ⟨l, hp, hl⟩ := hs.counted.once
  exact hp.nodup_iff.mp (hw.sublist hl)

lemma Lawful.mem_running_iff (hw : work.flatten.Nodup) {s : State ι ρ ε}
    (hs : Lawful bound work s) (item : ι) :
    item ∈ s.running.map Flight.item ↔ InFlight s.history item := by
  have hn : (s.running.map Flight.item ++ ended s.history).Nodup :=
    hs.counted.flights.nodup_iff.mpr (hs.started_nodup hw)
  have hm := hs.counted.flights.mem_iff (a := item)
  rw [List.mem_append] at hm
  constructor
  · exact fun hi => ⟨hm.mp (.inl hi), fun he => List.disjoint_of_nodup_append hn hi he⟩
  · exact fun hi => (hm.mpr hi.1).resolve_right hi.2

theorem Lawful.safe (hw : work.flatten.Nodup) {s : State ι ρ ε} (hs : Lawful bound work s) :
    Safe bound work s := by
  obtain ⟨k, ho, -⟩ := hs.ordered
  refine ⟨?_, hs.mem_running_iff hw, ?_, ?_, ⟨hs.started_nodup hw, ?_⟩, k, ?_⟩
  · have := hs.placed.slots
    omega
  · intro lane hlane i hi j hj hfi hfj
    obtain ⟨n, hn⟩ := List.mem_iff_getElem?.mp hlane
    obtain ⟨f, hf, rfl⟩ := List.mem_map.mp ((hs.mem_running_iff hw i).mpr hfi)
    obtain ⟨g, hg, rfl⟩ := List.mem_map.mp ((hs.mem_running_iff hw j).mpr hfj)
    obtain ⟨done, hwf⟩ := ho.running f hf
    obtain ⟨done', hwg⟩ := ho.running g hg
    have hnf : f.number = n := lane_unique hw hwf hn (by simp) hi
    have hng : g.number = n := lane_unique hw hwg hn (by simp) hj
    have hfg : f = g := List.inj_on_of_nodup_map hs.placed.running hf hg (hnf.trans hng.symm)
    rw [hfg]
  · intro before item hb done prev rest hl
    simpa using (ho.orderly before item hb).follows done prev rest hl
  · exact fun item hi => hs.counted.once.subset hi
  · simpa using ho.begun

end CardDrawing.Proofs
