import CardDrawing.Proofs.OverrideLaws

/-!
# Values over choices

What a value makes of the choice that it is laid over, said by the keys and the positions of the
result instead of the writing that leads to it.
-/

namespace CardDrawing.Proofs
open Keyed

/-- Entries after others have been written over them: present keys keep their places, new ones
follow in their own order, and the later entry under a key is found. -/
structure Updates (entries more merged : Keyed Value) : Prop where
  keys : keys merged = keys entries ++ (keys more).filter (· ∉ keys entries)
  found : ∀ key, get? merged key = (get? more key).or (get? entries key)

/-- The value and the choice are of shapes that mix: both objects, both lists, or an object for the
items of a list. -/
def Mixes : Value → Value → Prop
  | .object _, .object _ | .object _, .list _ | .list _, .list _ => True
  | _, _ => False

/-- What a value makes of the choice that it is laid over: an object goes over an object key by key
and over every item of a list, at any depth; a list goes over a list position by position and adds
what is left of it; anything else takes the place of the choice. -/
inductive LaidOver (override : Value) : Value → Value → Prop where
  | entries {more entries merged : Keyed Value} : override = .object more →
      Updates entries more merged → LaidOver override (.object entries) (.object merged)
  | items {more : Keyed Value} {items results : List Value} : override = .object more →
      List.Forall₂ (LaidOver override) items results →
      LaidOver override (.list items) (.list results)
  | positions {others items results : List Value} : override = .list others →
      (∀ i : Nat, results[i]? = others[i]?.or items[i]?) →
      LaidOver override (.list items) (.list results)
  | replaced {chosen : Value} : ¬ Mixes override chosen → LaidOver override chosen override

section

variable {α : Type} {entries entries' base added : Keyed α}

lemma get?_reverse (h : Distinct entries) (key : String) :
    get? entries.reverse key = get? entries key :=
  (get?_eq_of_perm h (List.reverse_perm entries).symm key).symm

lemma keys_overlay (hd : Distinct added) (base : Keyed α) :
    keys (overlay base added) = keys base ++ (keys added).filter (· ∉ keys base) := by
  induction added generalizing base with
  | nil => simp [overlay, keys]
  | cons entry rest ih =>
    obtain ⟨k, v⟩ := entry
    obtain ⟨hk, hrest⟩ := List.nodup_cons.mp hd
    have hover : overlay base ((k, v) :: rest) = overlay (put base k v) rest := rfl
    have hcons : keys ((k, v) :: rest) = k :: keys rest := rfl
    rw [hover, ih hrest, keys_put, hcons, List.filter_cons]
    -- a key of the base keeps its place, another one follows the base before all that is left
    by_cases hb : k ∈ keys base
    · simp [hb]
    · have hne : ∀ j ∈ keys rest, (j ∉ keys base ++ [k]) = (j ∉ keys base) := by
        intro j hj
        have hjk : j ≠ k := fun he => hk (he ▸ hj)
        simp [hjk]
      simp only [hb, if_false, not_false_eq_true, decide_true, if_true, List.append_assoc,
        List.singleton_append]
      congr 2
      exact List.filter_congr fun j hj => by rw [decide_eq_decide, hne j hj]

/-- Entries without repeated keys are told by their keys and by what is found under them. -/
lemma eq_of_keys_eq (hd : Distinct entries) (hk : keys entries = keys entries')
    (hg : ∀ key, get? entries key = get? entries' key) : entries = entries' := by
  have hlist {entries : Keyed α} (hd : Distinct entries) : entries.map some =
      (keys entries).map fun key => (get? entries key).map (key, ·) := by
    rw [keys, List.map_map]
    refine List.map_congr_left fun entry hm => ?_
    rw [Function.comp_apply, get?_of_mem hd hm, Option.map_some]
  have hd' : Distinct entries' := by rwa [Distinct, ← hk]
  have hsome : entries.map some = entries'.map some := by
    rw [hlist hd, hlist hd', hk]
    simp only [hg]
  exact List.map_injective_iff.mpr (Option.some_injective _) hsome

end

lemma updates_iff {entries more merged : Keyed Value} (he : Distinct entries)
    (hm : Distinct more) : Updates entries more merged ↔ overlay entries more = merged := by
  have hkeys := keys_overlay hm entries
  have hfound (key : String) :
      get? (overlay entries more) key = (get? more key).or (get? entries key) := by
    rw [get?_overlay, get?_reverse hm]
  constructor
  · rintro ⟨hkeys', hfound'⟩
    refine eq_of_keys_eq (distinct_overlay he more) (hkeys.trans hkeys'.symm) fun key => ?_
    rw [hfound, hfound']
  · rintro rfl
    exact ⟨hkeys, hfound⟩

lemma forall₂_iff_map_eq {α β : Type} {R : α → β → Prop} {f : α → β} {xs : List α} {ys : List β}
    (h : ∀ x ∈ xs, ∀ y, R x y ↔ f x = y) : List.Forall₂ R xs ys ↔ xs.map f = ys := by
  induction xs generalizing ys with
  | nil => rw [List.forall₂_nil_left_iff, List.map_nil, eq_comm]
  | cons x xs ih =>
    obtain ⟨hx, hxs⟩ := List.forall_mem_cons.mp h
    rw [List.forall₂_cons_left_iff, List.map_cons]
    constructor
    · rintro ⟨y, rest, hy, hrest, rfl⟩
      rw [(hx y).mp hy, (ih hxs).mp hrest]
    · rintro rfl
      exact ⟨f x, xs.map f, (hx _).mpr rfl, (ih hxs).mpr rfl, rfl⟩

/-- A list over a list, told by its positions. -/
lemma append_drop_eq_iff {α : Type} {xs ys zs : List α} :
    xs ++ ys.drop xs.length = zs ↔ ∀ i : Nat, zs[i]? = xs[i]?.or ys[i]? := by
  have hget (i : Nat) : (xs ++ ys.drop xs.length)[i]? = xs[i]?.or ys[i]? := by
    by_cases hi : i < xs.length
    · rw [List.getElem?_append_left hi, List.getElem?_eq_getElem hi, Option.some_or]
    · have hi := not_lt.mp hi
      rw [List.getElem?_append_right hi, List.getElem?_eq_none hi, Option.none_or,
        List.getElem?_drop, Nat.add_sub_cancel' hi]
  constructor
  · rintro rfl
    exact hget
  · intro h
    exact List.ext_getElem? fun i => (hget i).trans (h i).symm

section

variable {override chosen result : Value}

lemma mergeOverride_of_not_mixes (h : ¬ Mixes override chosen) :
    mergeOverride chosen override = override := by
  cases override with
  | object more =>
    cases chosen with
    | object | list => exact (h trivial).elim
    | _ => rfl
  | list others =>
    cases chosen with
    | list items => exact (h trivial).elim
    | _ => rfl
  | _ => exact mergeOverride_of_replaces (by trivial) chosen

lemma laidOver_of_not_mixes (h : ¬ Mixes override chosen) :
    LaidOver override chosen result ↔ mergeOverride chosen override = result := by
  rw [mergeOverride_of_not_mixes h]
  constructor
  · rintro (⟨rfl, -⟩ | ⟨rfl, -⟩ | ⟨rfl, -⟩ | _)
    · exact (h trivial).elim
    · exact (h trivial).elim
    · exact (h trivial).elim
    · rfl
  · rintro rfl
    exact .replaced h

lemma laidOver_positions {others items : List Value} :
    LaidOver (.list others) (.list items) result ↔
      mergeOverride (.list items) (.list others) = result := by
  rw [mergeOverride_list, entriesOf]
  constructor
  · rintro (_ | ⟨⟨⟩, -⟩ | ⟨⟨⟩, h⟩ | h)
    · rw [append_drop_eq_iff.mpr h]
    · exact (h trivial).elim
  · rintro rfl
    exact .positions rfl (append_drop_eq_iff.mp rfl)

/-- An object goes over an object, over the items of a list one by one, or in place of the rest. -/
lemma laidOver_object {more : Keyed Value} (hm : Distinct more) :
    ∀ chosen result : Value, PlainDocument chosen →
      (LaidOver (.object more) chosen result ↔ mergeOverride chosen (.object more) = result)
  | .object entries, result, hp => by
    have hmerge : mergeOverride (.object entries) (.object more) =
      .object (overlay entries more) := by rw [mergeOverride]
    have hupdates (merged : Keyed Value) :
        Updates entries more merged ↔ overlay entries more = merged :=
      updates_iff (hp.unrepeated _ rfl) hm
    rw [hmerge]
    constructor
    · rintro (⟨⟨⟩, h⟩ | _ | _ | h)
      · rw [(hupdates _).mp h]
      · exact (h trivial).elim
    · rintro rfl
      exact .entries rfl ((hupdates _).mpr rfl)
  | .list items, result, hp => by
    have hmerge : mergeOverride (.list items) (.object more) =
        .list (items.map (mergeOverride · (.object more))) := by rw [mergeOverride, mergeInto_eq]
    have hitems (results : List Value) : List.Forall₂ (LaidOver (.object more)) items results ↔
        items.map (mergeOverride · (.object more)) = results :=
      forall₂_iff_map_eq fun item hin result =>
        laidOver_object hm item result (hp.inside (.item hin .refl))
    rw [hmerge]
    constructor
    · rintro (_ | ⟨-, h⟩ | ⟨⟨⟩, -⟩ | h)
      · rw [(hitems _).mp h]
      · exact (h trivial).elim
    · rintro rfl
      exact .items rfl ((hitems _).mpr rfl)
  | .null, _, _ | .bool _, _, _ | .int _, _, _ | .float _, _, _ | .text _, _, _ =>
    laidOver_of_not_mixes not_false
termination_by chosen => sizeOf chosen
decreasing_by exact Value.sizeOf_lt_of_mem hin

/-- Laying a value over a choice gives what is described, and nothing else is described. -/
theorem laidOver_iff (hu : Unrepeated override) (hp : PlainDocument chosen) :
    LaidOver override chosen result ↔ mergeOverride chosen override = result := by
  cases override with
  | object more => exact laidOver_object (hu more rfl) chosen result hp
  | list others =>
    cases chosen with
    | list items => exact laidOver_positions
    | _ => exact laidOver_of_not_mixes not_false
  | _ => exact laidOver_of_not_mixes not_false

end

end CardDrawing.Proofs
