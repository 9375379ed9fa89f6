import CardDrawing.Trace
import Mathlib

/-!
# Outcomes of steps that may fail

When a sequence of steps comes to a result, which error is the first of a list of steps, and what
the outcome of a trace is apart from its record.
-/

namespace CardDrawing.Proofs

section

variable {ε α β γ : Type}

lemma bind_eq_ok {x : Except ε α} {f : α → Except ε β} {b : β} :
    x >>= f = .ok b ↔ ∃ a, x = .ok a ∧ f a = .ok b := by
  cases x with
  | ok a => simp [bind, Except.bind]
  | error why => simp [bind, Except.bind]

lemma bind_eq_error {x : Except ε α} {f : α → Except ε β} {why : ε} :
    x >>= f = .error why ↔ x = .error why ∨ ∃ a, x = .ok a ∧ f a = .error why := by
  cases x with
  | ok a => simp [bind, Except.bind]
  | error why' => simp [bind, Except.bind]

lemma map_eq_ok {x : Except ε α} {f : α → β} {b : β} :
    f <$> x = .ok b ↔ ∃ a, x = .ok a ∧ f a = b := by
  cases x <;> simp [Functor.map, Except.map]

lemma map_eq_error {x : Except ε α} {f : α → β} {why : ε} :
    f <$> x = .error why ↔ x = .error why := by
  cases x <;> simp [Functor.map, Except.map]

lemma pure_eq_ok {a b : α} : (pure a : Except ε α) = .ok b ↔ a = b := Except.ok.injEq a b ▸ Iff.rfl

lemma eq_ok_of_toOption {x : Except ε α} {a : α} (h : x.toOption = some a) : x = .ok a := by
  cases x with
  | ok b => exact congrArg Except.ok (Option.some.inj h)
  | error why => cases h

/-- Steps fail just if they do not come to a result. -/
lemma exists_error_iff {x : Except ε α} : (∃ why, x = .error why) ↔ ¬ ∃ a, x = .ok a := by
  cases x <;> simp

/-- Lists that are related position by position have related members. -/
lemma exists_of_forall₂ {R : α → β → Prop} {l : List α} {ys : List β}
    (h : List.Forall₂ R l ys) {x : α} (hx : x ∈ l) : ∃ y ∈ ys, R x y := by
  induction h with
  | nil => cases hx
  | cons hr _ ih =>
    rcases List.mem_cons.mp hx with rfl | hx
    · exact ⟨_, List.mem_cons_self, hr⟩
    · obtain ⟨y, hy, hxy⟩ := ih hx
      exact ⟨y, List.mem_cons_of_mem _ hy, hxy⟩

/-- What has been checked of all entries of a table holds of the one that is found. -/
lemma check_of_lookup {κ : Type} [BEq κ] [LawfulBEq κ] {table : List (κ × α)} {check : κ × α → Bool}
    (htable : table.all check = true) {key : κ} {a : α} (h : table.lookup key = some a) :
    check (key, a) = true := by
  obtain ⟨before, after, hlist, -⟩ := List.lookup_eq_some_iff.mp h
  have hentry : (key, a) ∈ table := by
    rw [hlist]
    exact List.mem_append_right before List.mem_cons_self
  exact List.all_eq_true.mp htable _ hentry

/-- All steps of a list come to a result. -/
lemma mapM_eq_ok {f : α → Except ε β} {l : List α} {ys : List β} :
    l.mapM f = .ok ys ↔ List.Forall₂ (fun x y => f x = .ok y) l ys := by
  induction l generalizing ys with
  | nil =>
    rw [List.mapM_nil, pure_eq_ok, List.forall₂_nil_left_iff, eq_comm]
  | cons x l ih =>
    rw [List.mapM_cons, bind_eq_ok, List.forall₂_cons_left_iff]
    constructor
    · rintro ⟨y, hy, h⟩
      obtain ⟨rest, hrest, h⟩ := bind_eq_ok.mp h
      exact ⟨y, rest, hy, ih.mp hrest, (pure_eq_ok.mp h).symm⟩
    · rintro ⟨y, rest, hy, hrest, rfl⟩
      exact ⟨y, hy, bind_eq_ok.mpr ⟨rest, ih.mpr hrest, rfl⟩⟩

/-- The error of a list of steps is that of the first step that fails. -/
lemma mapM_eq_error {f : α → Except ε β} {l : List α} {why : ε} :
    l.mapM f = .error why ↔ ∃ before x after, l = before ++ x :: after ∧
      (∀ b ∈ before, ∃ y, f b = .ok y) ∧ f x = .error why := by
  induction l with
  | nil => simp [pure, Except.pure]
  | cons x l ih =>
    rw [List.mapM_cons, bind_eq_error]
    constructor
    · rintro (hx | ⟨y, hy, h⟩)
      · exact ⟨[], x, l, rfl, by simp, hx⟩
      · have hl : l.mapM f = .error why := by
          rcases bind_eq_error.mp h with hl | ⟨rest, -, h⟩
          · exact hl
          · cases h
        obtain ⟨before, z, after, rfl, hb, hz⟩ := ih.mp hl
        refine ⟨x :: before, z, after, rfl, fun b hm => ?_, hz⟩
        rcases List.mem_cons.mp hm with rfl | hm
        · exact ⟨y, hy⟩
        · exact hb b hm
    · rintro ⟨before, z, after, he, hb, hz⟩
      cases before with
      | nil =>
        obtain ⟨rfl, -⟩ := List.cons.inj he
        exact .inl hz
      | cons b before =>
        obtain ⟨rfl, rfl⟩ := List.cons.inj he
        obtain ⟨y, hy⟩ := hb x List.mem_cons_self
        have hl := ih.mpr ⟨before, z, after, rfl, fun b hm => hb b (List.mem_cons_of_mem _ hm), hz⟩
        exact .inr ⟨y, hy, bind_eq_error.mpr (.inl hl)⟩

/-- The step at a place comes to the result at the same place. -/
lemma mapM_getElem? {f : α → Except ε β} {l : List α} {ys : List β} (h : l.mapM f = .ok ys)
    {i : Nat} {y : β} : ys[i]? = some y ↔ ∃ x, l[i]? = some x ∧ f x = .ok y := by
  have hall := mapM_eq_ok.mp h
  clear h
  induction hall generalizing i with
  | nil => simp
  | @cons x z l ys hx _ ih =>
    cases i with
    | zero => simp [hx]
    | succ i => exact ih

lemma ok_of_mapM {f : α → Except ε β} {l : List α} {ys : List β} (h : l.mapM f = .ok ys) {x : α}
    (hx : x ∈ l) : ∃ y, f x = .ok y := by
  obtain ⟨i, hi, rfl⟩ := List.mem_iff_getElem.mp hx
  have hlen : i < ys.length := (mapM_eq_ok.mp h).length_eq ▸ hi
  obtain ⟨z, hz, hy⟩ := (mapM_getElem? h).mp (List.getElem?_eq_getElem hlen)
  obtain rfl : l[i] = z := Option.some.inj ((List.getElem?_eq_getElem hi).symm.trans hz)
  exact ⟨_, hy⟩

lemma mapM_isOk_iff {f : α → Except ε β} {l : List α} :
    (∃ ys, l.mapM f = .ok ys) ↔ ∀ x ∈ l, ∃ y, f x = .ok y := by
  constructor
  · rintro ⟨ys, h⟩ x hx
    exact ok_of_mapM h hx
  · intro h
    cases hm : l.mapM f with
    | ok ys => exact ⟨ys, rfl⟩
    | error why =>
      obtain ⟨before, x, after, rfl, -, hx⟩ := mapM_eq_error.mp hm
      obtain ⟨y, hy⟩ := h x (List.mem_append_right before List.mem_cons_self)
      cases hx.symm.trans hy

lemma mem_of_mapM {f : α → Except ε β} {l : List α} {ys : List β} (h : l.mapM f = .ok ys) {y : β}
    (hy : y ∈ ys) : ∃ x ∈ l, f x = .ok y := by
  obtain ⟨i, hi⟩ := List.mem_iff_getElem?.mp hy
  obtain ⟨x, hx, hf⟩ := (mapM_getElem? h).mp hi
  exact ⟨x, List.mem_of_getElem? hx, hf⟩

/-- What is kept of every step is kept of the list. -/
lemma mapM_map_eq {f : α → Except ε β} {l : List α} {ys : List β} (h : l.mapM f = .ok ys)
    {key : α → γ} {key' : β → γ} (hkey : ∀ x y, f x = .ok y → key x = key' y) :
    ys.map key' = l.map key := by
  have hall := mapM_eq_ok.mp h
  clear h
  induction hall with
  | nil => rfl
  | cons hx _ ih => rw [List.map_cons, List.map_cons, ih, hkey _ _ hx]

/-- Steps that are taken in another order come to the same results in another order. -/
lemma mapM_perm {f : α → Except ε β} {l l' : List α} {ys ys' : List β} (hp : l.Perm l')
    (h : l.mapM f = .ok ys) (h' : l'.mapM f = .ok ys') : ys.Perm ys' := by
  have hone : Relator.RightUnique fun x y => f x = .ok y :=
    fun x y z hy hz => Except.ok.inj (hy.symm.trans hz)
  exact List.rel_perm_imp hone (mapM_eq_ok.mp h) (mapM_eq_ok.mp h') hp

lemma mapM_congr {m : Type → Type} [Monad m] [LawfulMonad m] {f g : α → m β} {l : List α}
    (h : ∀ x ∈ l, f x = g x) : l.mapM f = l.mapM g := by
  induction l with
  | nil => rfl
  | cons x l ih =>
    obtain ⟨hx, hl⟩ := List.forall_mem_cons.mp h
    rw [List.mapM_cons, List.mapM_cons, hx, ih hl]

/-- One list of steps after another. -/
lemma mapM_append_eq_ok {f : α → Except ε β} {l l' : List α} {ys : List β} :
    (l ++ l').mapM f = .ok ys ↔
      ∃ zs zs', l.mapM f = .ok zs ∧ l'.mapM f = .ok zs' ∧ ys = zs ++ zs' := by
  rw [List.mapM_append, bind_eq_ok]
  constructor
  · rintro ⟨zs, hz, h⟩
    obtain ⟨zs', hz', h⟩ := bind_eq_ok.mp h
    exact ⟨zs, zs', hz, hz', (pure_eq_ok.mp h).symm⟩
  · rintro ⟨zs, zs', hz, hz', rfl⟩
    exact ⟨zs, hz, bind_eq_ok.mpr ⟨zs', hz', rfl⟩⟩

/-- Expanding the items of a list one by one and going through what comes of each at once is as
good as expanding them all first. -/
lemma mapM_bind_flatten_eq_ok {f : α → Except ε (List β)} {g : β → Except ε γ} {l : List α}
    {zs : List γ} :
    List.flatten <$> l.mapM (fun x => f x >>= List.mapM g) = .ok zs ↔
      ∃ parts, l.mapM f = .ok parts ∧ parts.flatten.mapM g = .ok zs := by
  induction l generalizing zs with
  | nil =>
    simp only [List.mapM_nil, map_eq_ok, pure_eq_ok]
    constructor
    · rintro ⟨_, rfl, rfl⟩
      exact ⟨[], rfl, rfl⟩
    · rintro ⟨_, rfl, h⟩
      exact ⟨[], rfl, pure_eq_ok.mp h⟩
  | cons x l ih =>
    simp only [map_eq_ok, mapM_eq_ok, List.forall₂_cons_left_iff, bind_eq_ok] at ih ⊢
    constructor
    · rintro ⟨_, ⟨y, rest, ⟨part, hx, hy⟩, hrest, rfl⟩, rfl⟩
      obtain ⟨parts, hparts, hg⟩ := ih.mp ⟨rest, hrest, rfl⟩
      refine ⟨part :: parts, ⟨part, parts, hx, hparts, rfl⟩, ?_⟩
      exact List.rel_append hy hg
    · rintro ⟨_, ⟨part, parts, hx, hparts, rfl⟩, hg⟩
      obtain ⟨y, rest, hy, hrest, rfl⟩ := mapM_append_eq_ok.mp (mapM_eq_ok.mpr hg)
      obtain ⟨rest', hr, rfl⟩ := ih.mpr ⟨parts, hparts, mapM_eq_ok.mp hrest⟩
      exact ⟨y :: rest', ⟨y, rest', ⟨part, hx, mapM_eq_ok.mp hy⟩, hr, rfl⟩, rfl⟩

end

/-! ## Traces -/

variable {κ α β : Type}

/-- The steps come to the same whatever the record says, and only add to it. -/
def Additive (steps : Trace κ α) : Prop :=
  ∀ log, StateT.run (ExceptT.run steps) log = (steps.run.1, log ++ steps.run.2)

lemma additive_of_run {steps : Trace κ α} {result : Except Error α} {record : List κ}
    (h : ∀ log, StateT.run (ExceptT.run steps) log = (result, log ++ record)) :
    Additive steps ∧ steps.run = (result, record) := by
  have hr : steps.run = (result, record) := h []
  exact ⟨fun log => by rw [h, hr], hr⟩

lemma run_lift (result : Except Error α) :
    Additive (Trace.lift result : Trace κ α) ∧
      (Trace.lift result : Trace κ α).run = (result, []) := by
  refine additive_of_run fun log => ?_
  rw [List.append_nil]
  rfl

lemma run_record (event : κ) :
    Additive (Trace.record event) ∧ (Trace.record event).run = (.ok (), [event]) :=
  additive_of_run fun _ => rfl

lemma run_bind_error {steps : Trace κ α} {f : α → Trace κ β} {why : Error} (hs : Additive steps)
    (h : steps.run.1 = .error why) :
    Additive (steps >>= f) ∧ (steps >>= f).run = (.error why, steps.run.2) := by
  refine additive_of_run fun log => ?_
  rw [ExceptT.run_bind, StateT.run_bind, hs log, h]
  rfl

lemma run_bind_ok {steps : Trace κ α} {f : α → Trace κ β} {a : α} (hs : Additive steps)
    (h : steps.run.1 = .ok a) (hf : Additive (f a)) :
    Additive (steps >>= f) ∧
      (steps >>= f).run = ((f a).run.1, steps.run.2 ++ (f a).run.2) := by
  refine additive_of_run fun log => ?_
  rw [ExceptT.run_bind, StateT.run_bind, hs log, h, ← List.append_assoc]
  exact hf _

/-- What comes of a sequence of steps does not depend on the record. -/
lemma outcome_bind {steps : Trace κ α} {f : α → Trace κ β} (hs : Additive steps)
    (hf : ∀ a, Additive (f a)) :
    Additive (steps >>= f) ∧ (steps >>= f).run.1 = steps.run.1 >>= fun a => (f a).run.1 := by
  cases h : steps.run.1 with
  | ok a =>
    obtain ⟨ha, hr⟩ := run_bind_ok hs h (hf a)
    exact ⟨ha, by rw [hr]; rfl⟩
  | error why =>
    obtain ⟨ha, hr⟩ := run_bind_error (f := f) hs h
    exact ⟨ha, by rw [hr]; rfl⟩

/-- What comes of steps whose last one leaves no record. -/
lemma outcome_bind_lift (steps : Trace κ α) (f : α → Except Error β) :
    (steps >>= fun a => Trace.lift (f a)).run.1 = steps.run.1 >>= f := by
  unfold Trace.run
  rw [ExceptT.run_bind, StateT.run_bind]
  rcases StateT.run (ExceptT.run steps) [] with ⟨_ | _, record⟩ <;> rfl

lemma outcome_pure (κ : Type) (a : α) :
    Additive (pure a : Trace κ α) ∧ (pure a : Trace κ α).run.1 = .ok a := by
  have h : Additive (pure a : Trace κ α) ∧ (pure a : Trace κ α).run = (.ok a, []) :=
    run_lift (.ok a)
  exact ⟨h.1, congrArg Prod.fst h.2⟩

lemma outcome_mapM {f : α → Trace κ β} (hf : ∀ a, Additive (f a)) (l : List α) :
    Additive (l.mapM f) ∧ (l.mapM f).run.1 = l.mapM fun a => (f a).run.1 := by
  induction l with
  | nil => exact outcome_pure κ []
  | cons a l ih =>
    have hrest (b : β) : Additive (do let bs ← l.mapM f; return b :: bs) ∧
        (do let bs ← l.mapM f; return b :: bs : Trace κ (List β)).run.1 =
          (l.mapM fun a => (f a).run.1) >>= fun bs => .ok (b :: bs) := by
      obtain ⟨ha, ho⟩ := outcome_bind ih.1 fun bs : List β => (outcome_pure κ (b :: bs)).1
      refine ⟨ha, ho.trans ?_⟩
      rw [ih.2]
      rfl
    obtain ⟨ha, ho⟩ := outcome_bind (hf a) fun b => (hrest b).1
    rw [List.mapM_cons, List.mapM_cons]
    refine ⟨ha, ho.trans ?_⟩
    simp only [(hrest _).2]
    rfl

/-! ## Records -/

lemma run_map {steps : Trace κ α} {f : α → β} (hs : Additive steps) :
    Additive (f <$> steps) ∧ (f <$> steps).run = (f <$> steps.run.1, steps.run.2) := by
  rw [map_eq_pure_bind]
  cases h : steps.run.1 with
  | ok a =>
    obtain ⟨ha, hr⟩ := run_bind_ok (f := pure ∘ f) hs h (outcome_pure κ (f a)).1
    exact ⟨ha, hr.trans (congrArg _ (List.append_nil _))⟩
  | error why => exact run_bind_error hs h

lemma run_mapM_cons_ok {f : α → Trace κ β} (hf : ∀ a, Additive (f a)) {a : α} {l : List α} {b : β}
    (h : (f a).run.1 = .ok b) : ((a :: l).mapM f).run =
      ((b :: ·) <$> (l.mapM f).run.1, (f a).run.2 ++ (l.mapM f).run.2) := by
  obtain ⟨ha, hr⟩ := run_map (f := (b :: ·)) (outcome_mapM hf l).1
  rw [List.mapM_cons]
  simp only [bind_pure_comp]
  rw [(run_bind_ok (hf a) h ha).2, hr]

lemma run_mapM_cons_error {f : α → Trace κ β} (hf : ∀ a, Additive (f a)) {a : α} {l : List α}
    {why : Error} (h : (f a).run.1 = .error why) :
    ((a :: l).mapM f).run = (.error why, (f a).run.2) := by
  rw [List.mapM_cons]
  exact (run_bind_error (hf a) h).2

/-- What the records of steps that come to a result are like, one after another. -/
lemma record_of_mapM_ok {f : α → Trace κ β} (hf : ∀ a, Additive (f a))
    {Q : List α → List κ → Prop} (nil : Q [] [])
    (cons : ∀ a b l log, (f a).run.1 = .ok b → Q l log → Q (a :: l) ((f a).run.2 ++ log))
    {l : List α} {ys : List β} (h : (l.mapM f).run.1 = .ok ys) : Q l (l.mapM f).run.2 := by
  induction l generalizing ys with
  | nil => exact nil
  | cons a l ih =>
    cases hb : (f a).run.1 with
    | ok b =>
      rw [run_mapM_cons_ok hf hb] at h ⊢
      obtain ⟨bs, hbs, -⟩ := map_eq_ok.mp h
      exact cons a b l _ hb (ih hbs)
    | error why =>
      rw [run_mapM_cons_error hf hb] at h
      cases h

/-- A list of steps that fails has the record of the steps before the first failure, and what the
failing step leaves. -/
lemma record_of_mapM_error {f : α → Trace κ β} (hf : ∀ a, Additive (f a)) {l : List α}
    {why : Error} (h : (l.mapM f).run.1 = .error why) : ∃ before a after ys,
      l = before ++ a :: after ∧ (before.mapM f).run.1 = .ok ys ∧ (f a).run.1 = .error why ∧
      (l.mapM f).run.2 = (before.mapM f).run.2 ++ (f a).run.2 := by
  induction l with
  | nil => cases h
  | cons a l ih =>
    cases hb : (f a).run.1 with
    | ok b =>
      rw [run_mapM_cons_ok hf hb] at h ⊢
      obtain ⟨before, x, after, ys, rfl, hys, hx, hlog⟩ := ih (map_eq_error.mp h)
      refine ⟨a :: before, x, after, b :: ys, rfl, ?_, hx, ?_⟩
      · rw [run_mapM_cons_ok hf hb, hys]
        rfl
      · rw [run_mapM_cons_ok hf hb, hlog, List.append_assoc]
    | error why' =>
      rw [run_mapM_cons_error hf hb] at h ⊢
      cases h
      exact ⟨[], a, l, [], rfl, rfl, hb, rfl⟩

/-- Steps that leave nothing but records of some kind, whatever comes of them. -/
structure Leaves (P : κ → Prop) (steps : Trace κ α) : Prop where
  additive : Additive steps
  records : ∀ event ∈ steps.run.2, P event

namespace Leaves

variable {P : κ → Prop}

lemma pure (a : α) : Leaves P (pure a : Trace κ α) where
  additive := (outcome_pure κ a).1
  records := List.forall_mem_nil P

lemma record {event : κ} (h : P event) : Leaves P (Trace.record event) where
  additive := (run_record event).1
  records := by
    rw [(run_record event).2]
    exact List.forall_mem_singleton.mpr h

lemma bind {steps : Trace κ α} {f : α → Trace κ β} (hs : Leaves P steps)
    (hf : ∀ a, steps.run.1 = .ok a → Leaves P (f a)) : Leaves P (steps >>= f) := by
  cases h : steps.run.1 with
  | ok a =>
    obtain ⟨hadd, hrun⟩ := run_bind_ok hs.additive h (hf a h).additive
    refine ⟨hadd, ?_⟩
    rw [hrun]
    exact List.forall_mem_append.mpr ⟨hs.records, (hf a h).records⟩
  | error why =>
    obtain ⟨hadd, hrun⟩ := run_bind_error (f := f) hs.additive h
    refine ⟨hadd, ?_⟩
    rw [hrun]
    exact hs.records

/-- Steps that go on with a result leave what comes after it. -/
lemma lift {x : Except Error α} {f : α → Trace κ β} (hf : ∀ a, x = .ok a → Leaves P (f a)) :
    Leaves P (Trace.lift x >>= f) := by
  obtain ⟨hadd, hrun⟩ := run_lift (κ := κ) x
  have hx : Leaves P (Trace.lift x : Trace κ α) := by
    refine ⟨hadd, ?_⟩
    rw [hrun]
    exact List.forall_mem_nil P
  refine bind hx fun a ha => hf a ?_
  rwa [hrun] at ha

/-- A record that is only made under a condition. -/
lemma recordIf {p : Prop} [Decidable p] {event : κ} {f : Unit → Trace κ β} (h : P event)
    (hf : Leaves P (f ())) : Leaves P (if p then Trace.record event >>= f else f ()) := by
  split
  · exact bind (record h) fun _ _ => hf
  · exact hf

end Leaves

end CardDrawing.Proofs
