import CardDrawing.Build.Concurrent
import CardDrawing.Proofs.BuildOutcome

/-!
# Before the first load

Which loads a concurrent build prepares, at which places, and what it refuses before it starts
any of them.
-/

namespace CardDrawing.Proofs

variable {c : Collaborators} {template : Template} {card : Card}

/-! ## The pending loads of a list of primitives -/

/-- The load that a primitive waits for, if it waits for one. -/
def wanted (c : Collaborators) (p : Primitive) : Except Error (Option Fetch) :=
  match p.request? with
  | some r => if r.inline.isNull then some <$> checkFetchable c p r else .ok none
  | none => .ok none

/-- The loads with their places, the first of which is `start`. -/
def collect (start : Nat) (loads : List (Option Fetch)) : List Pending :=
  (loads.zipIdx start).filterMap fun (load?, index) => load?.map fun fetch => { index, fetch }

lemma isNull_eq_true {v : Value} : v.isNull = true ↔ v = .null := by
  cases v <;> simp [Value.isNull]

/-- Only what waits for a load wants one. -/
lemma wanted_cases (c : Collaborators) (p : Primitive) :
    (∃ r, Waits p r ∧ wanted c p = some <$> checkFetchable c p r) ∨
      ((∀ r, ¬ Waits p r) ∧ wanted c p = .ok none) := by
  unfold wanted
  cases hp : p.request? with
  | none => exact .inr ⟨fun r hr => by simp [Waits, hp] at hr, rfl⟩
  | some r =>
    by_cases hn : r.inline = .null
    · exact .inl ⟨r, ⟨hp, hn⟩, if_pos (isNull_eq_true.mpr hn)⟩
    · refine .inr ⟨fun r' hr => ?_, if_neg fun h => hn (isNull_eq_true.mp h)⟩
      obtain rfl : r = r' := Option.some.inj (hp.symm.trans hr.1)
      exact hn hr.2

lemma wanted_eq_error {p : Primitive} {why : Error} :
    wanted c p = .error why ↔ ∃ r, Waits p r ∧ checkFetchable c p r = .error why := by
  rcases wanted_cases c p with ⟨r, hr, he⟩ | ⟨hr, he⟩
  · rw [he, map_eq_error]
    constructor
    · exact fun h => ⟨r, hr, h⟩
    · rintro ⟨r', hr', h⟩
      rwa [hr.unique hr']
  · rw [he]
    constructor
    · intro h
      cases h
    · rintro ⟨r, hr', -⟩
      exact (hr r hr').elim

lemma wanted_eq_some {p : Primitive} {call : Fetch} :
    wanted c p = .ok (some call) ↔ ∃ r, Waits p r ∧ checkFetchable c p r = .ok call := by
  rcases wanted_cases c p with ⟨r, hr, he⟩ | ⟨hr, he⟩
  · rw [he, map_eq_ok]
    constructor
    · rintro ⟨call', h, hc⟩
      cases hc
      exact ⟨r, hr, h⟩
    · rintro ⟨r', hr', h⟩
      exact ⟨call, hr.unique hr' ▸ h, rfl⟩
  · rw [he]
    constructor
    · intro h
      cases h
    · rintro ⟨r, hr', -⟩
      exact (hr r hr').elim

lemma wanted_isOk_iff {p : Primitive} : (∃ load?, wanted c p = .ok load?) ↔
    ∀ r, Waits p r → ∃ call, checkFetchable c p r = .ok call := by
  rcases wanted_cases c p with ⟨r, hr, he⟩ | ⟨hr, he⟩
  · simp only [he, map_eq_ok]
    constructor
    · rintro ⟨load?, call, hcall, -⟩ r' hr'
      exact ⟨call, hr.unique hr' ▸ hcall⟩
    · intro h
      obtain ⟨call, hcall⟩ := h r hr
      exact ⟨some call, call, hcall, rfl⟩
  · exact ⟨fun _ r hr' => (hr r hr').elim, fun _ => ⟨none, he⟩⟩

lemma collect_cons (start : Nat) (load? : Option Fetch) (loads : List (Option Fetch)) :
    collect start (load? :: loads) =
      (load?.map fun fetch => { index := start, fetch }).toList ++ collect (start + 1) loads := by
  cases load? <;> simp [collect]

lemma collect_append (start : Nat) (loads loads' : List (Option Fetch)) :
    collect start (loads ++ loads') =
      collect start loads ++ collect (start + loads.length) loads' := by
  simp [collect, List.zipIdx_append]

lemma mem_collect {start : Nat} {loads : List (Option Fetch)} {item : Pending} :
    item ∈ collect start loads ↔
      ∃ i, item.index = start + i ∧ loads[i]? = some (some item.fetch) := by
  simp only [collect, List.mem_filterMap, Option.map_eq_some_iff]
  constructor
  · rintro ⟨⟨load?, index⟩, hm, fetch, hf, rfl⟩
    obtain ⟨hle, hi⟩ := List.mk_mem_zipIdx_iff_le_and_getElem?_sub.mp hm
    obtain rfl : load? = some fetch := hf
    exact ⟨index - start, by dsimp only; omega, hi⟩
  · rintro ⟨i, hi, hf⟩
    refine ⟨(some item.fetch, item.index), ?_, item.fetch, rfl, rfl⟩
    refine List.mk_mem_zipIdx_iff_le_and_getElem?_sub.mpr ⟨by omega, ?_⟩
    rw [hi, Nat.add_sub_cancel_left, hf]

/-- The places go up. -/
lemma collect_pairwise (start : Nat) (loads : List (Option Fetch)) :
    (collect start loads).Pairwise fun a b => a.index < b.index := by
  have hlt : (loads.zipIdx start).Pairwise fun a b => a.2 < b.2 := by
    rw [← List.pairwise_map, List.zipIdx_map_snd]
    exact List.pairwise_lt_range'
  refine hlt.filterMap _ fun x y hxy a ha b hb => ?_
  obtain ⟨fetch, -, rfl⟩ := Option.map_eq_some_iff.mp ha
  obtain ⟨fetch', -, rfl⟩ := Option.map_eq_some_iff.mp hb
  exact hxy

lemma pendingOf_cons (start : Nat) (p : Primitive) (rest : List Primitive) :
    pendingOf c start (p :: rest) = wanted c p >>= fun load? =>
      ((load?.map fun fetch => ⟨start, fetch⟩).toList ++ ·) <$> pendingOf c (start + 1) rest := by
  rw [wanted, pendingOf]
  cases p.request? with
  | none => cases pendingOf c (start + 1) rest <;> rfl
  | some r =>
    dsimp only
    split
    · cases checkFetchable c p r with
      | error why => rfl
      | ok fetch => cases pendingOf c (start + 1) rest <;> rfl
    · cases pendingOf c (start + 1) rest <;> rfl

lemma pendingOf_eq (start : Nat) (ps : List Primitive) :
    pendingOf c start ps = collect start <$> ps.mapM (wanted c) := by
  induction ps generalizing start with
  | nil => rfl
  | cons p rest ih =>
    rw [List.mapM_cons, pendingOf_cons, ih]
    cases wanted c p with
    | error why => rfl
    | ok load? =>
      cases rest.mapM (wanted c) with
      | error why => rfl
      | ok loads => exact congrArg Except.ok (collect_cons start load? loads).symm

lemma mapM_wanted_length {ps : List Primitive} {loads : List (Option Fetch)}
    (h : ps.mapM (wanted c) = .ok loads) : loads.length = ps.length :=
  (mapM_eq_ok.mp h).length_eq.symm

/-! ## The lanes -/

/-- A field's pending loads come before those of the fields after it. -/
lemma lanesOf_cons (start : Nat) (xs : List Primitive) (rest : List (List Primitive)) :
    List.flatten <$> lanesOf c start (xs :: rest) = pendingOf c start xs >>= fun lane =>
      (lane ++ ·) <$> List.flatten <$> lanesOf c (start + xs.length) rest := by
  rw [lanesOf]
  cases pendingOf c start xs with
  | error why => rfl
  | ok lane =>
    cases lanesOf c (start + xs.length) rest with
    | error why => rfl
    | ok lanes =>
      refine congrArg Except.ok ?_
      cases lane <;> rfl

/-- The lanes hold the pending loads of the whole output, in order. -/
lemma flatten_lanesOf (start : Nat) (xss : List (List Primitive)) :
    List.flatten <$> lanesOf c start xss = collect start <$> xss.flatten.mapM (wanted c) := by
  induction xss generalizing start with
  | nil => rfl
  | cons xs rest ih =>
    rw [lanesOf_cons, ih, pendingOf_eq, List.flatten_cons, List.mapM_append]
    cases hx : xs.mapM (wanted c) with
    | error why => rfl
    | ok loads =>
      cases rest.flatten.mapM (wanted c) with
      | error why => rfl
      | ok loads' =>
        refine congrArg Except.ok ?_
        rw [collect_append, mapM_wanted_length hx]

/-- Fields without pending loads have no lane. -/
lemma lanesOf_nonempty {start : Nat} {xss : List (List Primitive)} {lanes : List (List Pending)}
    (h : lanesOf c start xss = .ok lanes) : [] ∉ lanes := by
  induction xss generalizing start lanes with
  | nil =>
    cases h
    exact List.not_mem_nil
  | cons xs rest ih =>
    obtain ⟨lane, -, h⟩ := bind_eq_ok.mp h
    obtain ⟨others, hothers, h⟩ := bind_eq_ok.mp h
    rw [← pure_eq_ok.mp h]
    split
    · exact ih hothers
    · rename_i hlane
      rw [List.mem_cons, not_or]
      exact ⟨fun he => hlane (by rw [← he]; rfl), ih hothers⟩

/-! ## What is prepared -/

lemma prepare_eq_ok {prepared : Prepared} : prepare c template card = .ok prepared ↔
    ∃ palettes fields expanded, openSession template card = .ok (palettes, fields) ∧
      fields.mapM (resolveAndExpand palettes card) = .ok expanded ∧
      lanesOf c 0 expanded = .ok prepared.lanes ∧ prepared.expanded = expanded.flatten := by
  rw [prepare, bind_eq_ok]
  constructor
  · rintro ⟨⟨palettes, fields⟩, hopen, h⟩
    obtain ⟨expanded, he, h⟩ := bind_eq_ok.mp h
    obtain ⟨lanes, hl, h⟩ := bind_eq_ok.mp h
    cases pure_eq_ok.mp h
    exact ⟨palettes, fields, expanded, hopen, he, hl, rfl⟩
  · rintro ⟨palettes, fields, expanded, hopen, he, hl, hp⟩
    refine ⟨(palettes, fields), hopen, bind_eq_ok.mpr ⟨expanded, he, ?_⟩⟩
    refine bind_eq_ok.mpr ⟨prepared.lanes, hl, ?_⟩
    rw [← hp]
    rfl

lemma prepared_lanes_flatten {prepared : Prepared} (h : prepare c template card = .ok prepared) :
    ∃ loads, prepared.expanded.mapM (wanted c) = .ok loads ∧
      prepared.lanes.flatten = collect 0 loads := by
  obtain ⟨palettes, fields, expanded, -, -, hl, hp⟩ := prepare_eq_ok.mp h
  have hf := flatten_lanesOf (c := c) 0 expanded
  rw [hl, ← hp] at hf
  obtain ⟨loads, hloads, he⟩ := map_eq_ok.mp hf.symm
  exact ⟨loads, hloads, he.symm⟩

/-- No load is prepared twice, and no lane is empty. -/
lemma prepared_nodup {prepared : Prepared} (h : prepare c template card = .ok prepared) :
    prepared.lanes.flatten.Nodup ∧ [] ∉ prepared.lanes := by
  refine ⟨?_, ?_⟩
  · obtain ⟨loads, -, hl⟩ := prepared_lanes_flatten h
    rw [hl]
    exact (collect_pairwise 0 loads).imp fun hlt he => by simp [he] at hlt
  · obtain ⟨palettes, fields, expanded, -, -, hl, -⟩ := prepare_eq_ok.mp h
    exact lanesOf_nonempty hl

/-- The prepared loads are those that the primitives of the output wait for. -/
lemma mem_prepared_lanes {prepared : Prepared} (h : prepare c template card = .ok prepared)
    {item : Pending} : item ∈ prepared.lanes.flatten ↔
      ∃ p r, prepared.expanded[item.index]? = some p ∧ Waits p r ∧
        checkFetchable c p r = .ok item.fetch := by
  obtain ⟨loads, hloads, hl⟩ := prepared_lanes_flatten h
  simp only [hl, mem_collect, Nat.zero_add, exists_eq_left', mapM_getElem? hloads,
    wanted_eq_some, exists_and_left]

/-- A prepared load is known by its place. -/
lemma prepared_index_inj {prepared : Prepared} (h : prepare c template card = .ok prepared)
    {x y : Pending} (hx : x ∈ prepared.lanes.flatten) (hy : y ∈ prepared.lanes.flatten)
    (hxy : x.index = y.index) : x = y := by
  obtain ⟨p, r, hp, hr, hcall⟩ := (mem_prepared_lanes h).mp hx
  obtain ⟨p', r', hp', hr', hcall'⟩ := (mem_prepared_lanes h).mp hy
  rw [hxy, hp'] at hp
  obtain rfl := Option.some.inj hp
  obtain rfl := hr.unique hr'
  have hfetch : x.fetch = y.fetch := Except.ok.inj (hcall.symm.trans hcall')
  cases x
  cases y
  simp_all

/-- Whatever waits for a load has one prepared. -/
lemma prepared_of_waits {prepared : Prepared} (h : prepare c template card = .ok prepared)
    {i : Nat} {p : Primitive} {r : ResourceRequest} (hp : prepared.expanded[i]? = some p)
    (hr : Waits p r) :
    ∃ call, checkFetchable c p r = .ok call ∧ ⟨i, call⟩ ∈ prepared.lanes.flatten := by
  obtain ⟨loads, hloads, -⟩ := prepared_lanes_flatten h
  have hw := ok_of_mapM hloads (List.mem_of_getElem? hp)
  obtain ⟨call, hcall⟩ := wanted_isOk_iff.mp hw r hr
  exact ⟨call, hcall, (mem_prepared_lanes h).mpr ⟨p, r, hp, hr, hcall⟩⟩

/-! ## What is refused -/

/-- Why a build comes to nothing before the first load: a palette, else the first field that does
not expand, else the first request of the output that nothing can load. -/
inductive Refusal (c : Collaborators) (template : Template) (card : Card) : Error → Prop where
  | palettes {why : Error} :
      Palettes.build (partitionFields template.orderedFields).1 card = .error why →
      Refusal c template card why
  | expansion {palettes : Palettes} {before after : List Field} {field : Field} {why : Error} :
      openSession template card = .ok (palettes, before ++ field :: after) →
      (∀ f ∈ before, ∃ ps, resolveAndExpand palettes card f = .ok ps) →
      resolveAndExpand palettes card field = .error why →
      Refusal c template card why
  | request {palettes : Palettes} {fields : List Field} {expanded : List (List Primitive)}
      {before after : List Primitive} {p : Primitive} {r : ResourceRequest} {why : Error} :
      openSession template card = .ok (palettes, fields) →
      fields.mapM (resolveAndExpand palettes card) = .ok expanded →
      expanded.flatten = before ++ p :: after →
      (∀ q ∈ before, ∀ r, Waits q r → ∃ call, checkFetchable c q r = .ok call) →
      Waits p r → checkFetchable c p r = .error why →
      Refusal c template card why

lemma openSession_eq_error {why : Error} : openSession template card = .error why ↔
    Palettes.build (partitionFields template.orderedFields).1 card = .error why := by
  rw [openSession, bind_eq_error]
  constructor
  · rintro (h | ⟨palettes, -, h⟩)
    · exact h
    · cases h
  · exact .inl

lemma lanesOf_eq_error {start : Nat} {xss : List (List Primitive)} {why : Error} :
    lanesOf c start xss = .error why ↔ ∃ before p after r, xss.flatten = before ++ p :: after ∧
      (∀ q ∈ before, ∀ r, Waits q r → ∃ call, checkFetchable c q r = .ok call) ∧
      Waits p r ∧ checkFetchable c p r = .error why := by
  rw [← map_eq_error (f := List.flatten), flatten_lanesOf, map_eq_error, mapM_eq_error]
  simp only [wanted_isOk_iff, wanted_eq_error]
  constructor
  · rintro ⟨before, p, after, he, hb, r, hr, hw⟩
    exact ⟨before, p, after, r, he, hb, hr, hw⟩
  · rintro ⟨before, p, after, r, he, hb, hr, hw⟩
    exact ⟨before, p, after, he, hb, r, hr, hw⟩

/-- A build is refused for exactly one reason, and otherwise prepared. -/
theorem prepare_eq_error {why : Error} :
    prepare c template card = .error why ↔ Refusal c template card why := by
  rw [prepare, bind_eq_error]
  constructor
  · rintro (h | ⟨⟨palettes, fields⟩, hopen, h⟩)
    · exact .palettes (openSession_eq_error.mp h)
    rcases bind_eq_error.mp h with h | ⟨expanded, he, h⟩
    · obtain ⟨before, field, after, rfl, hb, hf⟩ := mapM_eq_error.mp h
      exact .expansion hopen hb hf
    rcases bind_eq_error.mp h with h | ⟨lanes, -, h⟩
    · obtain ⟨before, p, after, r, hflat, hb, hr, hw⟩ := lanesOf_eq_error.mp h
      exact .request hopen he hflat hb hr hw
    · cases h
  · intro h
    cases h with
    | palettes h => exact .inl (openSession_eq_error.mpr h)
    | @expansion palettes before after field _ hopen hb hf =>
      have he : (before ++ field :: after).mapM (resolveAndExpand palettes card) = .error why :=
        mapM_eq_error.mpr ⟨before, field, after, rfl, hb, hf⟩
      exact .inr ⟨_, hopen, bind_eq_error.mpr (.inl he)⟩
    | @request palettes fields expanded before after p r _ hopen he hflat hb hr hw =>
      have hl : lanesOf c 0 expanded = .error why :=
        lanesOf_eq_error.mpr ⟨before, p, after, r, hflat, hb, hr, hw⟩
      exact .inr ⟨_, hopen, bind_eq_error.mpr (.inr ⟨_, he, bind_eq_error.mpr (.inl hl)⟩)⟩

/-! ## An atlas -/

def atlasMap (id url : String) : Field :=
  .svg { id, value := .object [("url", .text url)], x := 0, y := 0, width := 8, height := 8 }

def atlasPhoto : Field :=
  .image {
    id := "photo", value := .object [("image", .int 7)], x := 8, y := 0, width := 8, height := 8 }

/-- Two maps to load, and between them a photo that is given inline. -/
def atlas : Template where
  name := "atlas"
  width := 16
  height := 16
  fields := [("north", atlasMap "north" "n.svg"), ("photo", atlasPhoto),
    ("south", atlasMap "south" "s.svg")]

def atlasCard : Card := { templateName := "atlas" }

def atlasPrepared : Prepared where
  expanded := [
    .svg {
      x := 0, y := 0, width := 8, height := 8
      url := some "n.svg", request := some { kind := .svg, url := some "n.svg" } },
    .image {
      id := "photo", x := 8, y := 0, width := 8, height := 8
      request := some { kind := .image, url := none, inline := .int 7 } },
    .svg {
      x := 0, y := 0, width := 8, height := 8
      url := some "s.svg", request := some { kind := .svg, url := some "s.svg" } }]
  lanes := [[⟨0, .svg, "n.svg"⟩], [⟨2, .svg, "s.svg"⟩]]

/-- With any loader for the maps, both are prepared, and the photo is not. -/
lemma atlas_prepared (load : String → Except Error Resource) :
    prepare { svgs := some load } atlas atlasCard = .ok atlasPrepared := by
  rfl

end CardDrawing.Proofs
