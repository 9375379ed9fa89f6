import CardDrawing.Keyed
import Mathlib

/-!
# Lookups in entries

What is found under a key after entries have been written over others, and what a lookup says
about entries whose keys are not repeated.
-/

namespace CardDrawing.Proofs
open Keyed

variable {α : Type}

lemma get?_append (entries entries' : Keyed α) (key : String) :
    get? (entries ++ entries') key = (get? entries key).or (get? entries' key) :=
  List.lookup_append

/-- The last entry written under a key counts, and the base where nothing was written. -/
lemma get?_overlay (base added : Keyed α) (key : String) :
    get? (overlay base added) key = (get? added.reverse key).or (get? base key) := by
  induction added generalizing base with
  | nil => rfl
  | cons entry rest ih =>
    have hput := ih (put base entry.1 entry.2)
    rw [get?_put] at hput
    rw [List.reverse_cons, get?_append, get?_cons, get?_nil]
    refine hput.trans ?_
    by_cases hk : key = entry.1
    · rw [if_pos hk, if_pos hk, Option.or_assoc, Option.some_or]
    · rw [if_neg hk, if_neg hk, Option.or_none]

lemma get?_ofEntries (entries : List (String × α)) (key : String) :
    get? (ofEntries entries) key = get? entries.reverse key := by
  rw [ofEntries, get?_overlay, get?_nil, Option.or_none]

lemma mem_of_get?_ofEntries {entries : List (String × α)} {key : String} {value : α}
    (h : get? (ofEntries entries) key = some value) : (key, value) ∈ entries := by
  rw [get?_ofEntries] at h
  exact List.mem_reverse.mp (mem_of_get? h)

/-- Without repeated keys, whatever stands among the entries is found. -/
lemma get?_of_mem {entries : Keyed α} (hd : Distinct entries) {key : String} {value : α}
    (h : (key, value) ∈ entries) : get? entries key = some value := by
  induction entries with
  | nil => cases h
  | cons entry rest ih =>
    rw [Distinct, keys, List.map_cons, List.nodup_cons] at hd
    rw [get?_cons]
    rcases List.mem_cons.mp h with rfl | h
    · exact if_pos rfl
    · have hne : key ≠ entry.1 := fun he => hd.1 (he ▸ List.mem_map_of_mem (f := Prod.fst) h)
      rw [if_neg hne]
      exact ih hd.2 h

lemma get?_of_not_mem {entries : Keyed α} {key : String} (h : key ∉ keys entries) :
    get? entries key = none := by
  cases hvalue : get? entries key with
  | none => rfl
  | some value => exact absurd (List.mem_map_of_mem (mem_of_get? hvalue)) h

lemma get?_eq_some_iff_mem {entries : Keyed α} (hd : Distinct entries) {key : String}
    {value : α} : get? entries key = some value ↔ (key, value) ∈ entries :=
  ⟨mem_of_get?, get?_of_mem hd⟩

lemma Distinct.perm {entries entries' : Keyed α} (hd : Distinct entries)
    (hp : entries.Perm entries') : Distinct entries' :=
  (hp.map Prod.fst).nodup_iff.mp hd

/-- Entries that are listed in another order, with no key twice, are looked up alike. -/
lemma get?_eq_of_perm {entries entries' : Keyed α} (hd : Distinct entries)
    (hp : entries.Perm entries') (key : String) : get? entries key = get? entries' key := by
  refine Option.ext fun value => ?_
  rw [get?_eq_some_iff_mem hd, get?_eq_some_iff_mem (Distinct.perm hd hp), hp.mem_iff]

end CardDrawing.Proofs
