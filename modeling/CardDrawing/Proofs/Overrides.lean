import CardDrawing.Card.Resolution
import CardDrawing.Proofs.KeyedEntries

/-!
# Overrides laid one over another

To lay one override over a value and then another over the result is to lay both at once, the
second over the first, in lists of any depth and with the order of the keys.
-/

namespace CardDrawing.Proofs
open Keyed

/-! ## Entries that are written over others -/

section

variable {α : Type} {base entries : Keyed α} {j k : String}

lemma keys_put (entries : Keyed α) (k : String) (v : α) :
    keys (put entries k v) = if k ∈ keys entries then keys entries else keys entries ++ [k] := by
  induction entries with
  | nil => rfl
  | cons entry rest ih =>
    obtain ⟨j, w⟩ := entry
    by_cases hj : j = k
    · subst hj
      simp [put, keys]
    · have hput : put ((j, w) :: rest) k v = (j, w) :: put rest k v := if_neg hj
      have hcons (entries : Keyed α) : keys ((j, w) :: entries) = j :: keys entries := rfl
      rw [hput, hcons, hcons, ih]
      by_cases hk : k ∈ keys rest
      · rw [if_pos hk, if_pos (List.mem_cons_of_mem j hk)]
      · have hne : k ∉ j :: keys rest := fun hm =>
          (List.mem_cons.mp hm).elim (fun h => hj h.symm) hk
        rw [if_neg hk, if_neg hne]
        rfl

lemma mem_keys_put (entries : Keyed α) (k : String) (v : α) : k ∈ keys (put entries k v) := by
  rw [keys_put]
  split
  · assumption
  · simp

lemma mem_keys_put_of_mem (h : k ∈ keys entries) (v : α) : k ∈ keys (put entries j v) := by
  rw [keys_put]
  split
  · exact h
  · exact List.mem_append_left _ h

lemma distinct_put (h : Distinct entries) (k : String) (v : α) : Distinct (put entries k v) := by
  rw [Distinct, keys_put]
  split
  · exact h
  · rename_i hk
    exact List.nodup_append_comm.mp (List.nodup_cons.mpr ⟨hk, h⟩)

lemma put_put (entries : Keyed α) (k : String) (v w : α) :
    put (put entries k v) k w = put entries k w := by
  induction entries with
  | nil => simp [put]
  | cons entry rest ih =>
    by_cases hj : entry.1 = k
    · simp [put, hj]
    · simp [put, hj, ih]

/-- An entry that is present keeps its place, so that it may be written before another one. -/
lemma put_comm (h : k ∈ keys entries) (hne : j ≠ k) (v w : α) :
    put (put entries j v) k w = put (put entries k w) j v := by
  induction entries with
  | nil => cases h
  | cons entry rest ih =>
    obtain ⟨i, u⟩ := entry
    by_cases hk : i = k
    · subst hk
      simp [put, hne.symm]
    · have hm : k ∈ keys rest := (List.mem_cons.mp h).resolve_left fun he => hk he.symm
      by_cases hj : i = j
      · subst hj
        simp [put, hk]
      · simp [put, hk, hj, ih hm]

/-- What is written to a present key last may be written first, if nothing else is written to it. -/
lemma put_overlay_of_notMem {added : Keyed α} (hb : k ∈ keys base) (ha : k ∉ keys added) (v : α) :
    put (overlay base added) k v = overlay (put base k v) added := by
  induction added generalizing base with
  | nil => rfl
  | cons entry rest ih =>
    obtain ⟨j, w⟩ := entry
    have hne : k ≠ j := List.ne_of_not_mem_cons ha
    have hrest : k ∉ keys rest := List.not_mem_of_not_mem_cons ha
    have hover (base : Keyed α) : overlay base ((j, w) :: rest) = overlay (put base j w) rest := rfl
    rw [hover, hover, ih (mem_keys_put_of_mem hb w) hrest, put_comm hb hne.symm]

/-- One more entry may be written to the base at the end, or to what is laid over it. -/
lemma put_overlay {added : Keyed α} (hd : Distinct added) (base : Keyed α) (k : String) (v : α) :
    put (overlay base added) k v = overlay base (put added k v) := by
  induction added generalizing base with
  | nil => rfl
  | cons entry rest ih =>
    obtain ⟨j, w⟩ := entry
    obtain ⟨hj, hrest⟩ := List.nodup_cons.mp hd
    have hover (base : Keyed α) (w : α) :
        overlay base ((j, w) :: rest) = overlay (put base j w) rest := rfl
    by_cases hk : j = k
    · subst hk
      have hput : put ((j, w) :: rest) j v = (j, v) :: rest := if_pos rfl
      rw [hput, hover, hover, put_overlay_of_notMem (mem_keys_put base j w) hj, put_put]
    · have hput : put ((j, w) :: rest) k v = (j, w) :: put rest k v := if_neg hk
      rw [hput, hover, ih hrest]
      rfl

lemma overlay_overlay {added : Keyed α} (hd : Distinct added) (base more : Keyed α) :
    overlay (overlay base added) more = overlay base (overlay added more) := by
  induction more generalizing added with
  | nil => rfl
  | cons entry rest ih =>
    have hover (base : Keyed α) :
        overlay base (entry :: rest) = overlay (put base entry.1 entry.2) rest := rfl
    rw [hover, hover, put_overlay hd, ih (distinct_put hd _ _)]

end

/-! ## Overrides -/

mutual

lemma mergeOverride_mergeOverride {entries : Keyed Value} (hd : Distinct entries)
    (more : Keyed Value) : ∀ chosen : Value,
      mergeOverride (mergeOverride chosen (.object entries)) (.object more) =
        mergeOverride chosen (.object (overlay entries more))
  | .list items => by
    rw [mergeOverride, mergeOverride, mergeOverride, mergeInto_mergeInto hd more items]
  | .object base => by
    rw [mergeOverride, mergeOverride, mergeOverride, overlay_overlay hd]
  | .null | .bool _ | .int _ | .float _ | .text _ => by
    simp only [mergeOverride]

lemma mergeInto_mergeInto {entries : Keyed Value} (hd : Distinct entries) (more : Keyed Value) :
    ∀ items : List Value,
      mergeInto (mergeInto items entries) more = mergeInto items (overlay entries more)
  | [] => rfl
  | item :: rest => by
    rw [mergeInto, mergeInto, mergeInto, mergeOverride_mergeOverride hd more item,
      mergeInto_mergeInto hd more rest]

end

end CardDrawing.Proofs
