import CardDrawing.Proofs.EditedValues

/-!
# Laws of overrides

An override that is laid over a value twice is as good as once. Two overrides can be laid over one
another first, whatever they are laid over then, for the pairs of shapes that combine and for no
others.
-/

namespace CardDrawing.Proofs
open Keyed

variable {first second : Value}

/-- What takes the place of anything that it is laid over: neither an object nor a list. -/
def Replaces : Value → Prop
  | .object _ | .list _ => False
  | _ => True

/-- The pairs of overrides that can be laid over one another first. -/
inductive Combines : Value → Value → Prop where
  | objects (entries more : Keyed Value) : Combines (.object entries) (.object more)
  | lists (items others : List Value) : Combines (.list items) (.list others)
  | replaces {second : Value} (first : Value) : Replaces second → Combines first second

/-! ## Overrides by their shape -/

lemma mergeOverride_of_replaces (h : Replaces second) (chosen : Value) :
    mergeOverride chosen second = second := by
  cases second with
  | object | list => exact h.elim
  | _ => cases chosen <;> rfl

/-- A list goes over the first items of a list, and in place of everything else. -/
lemma mergeOverride_list (chosen : Value) (others : List Value) :
    mergeOverride chosen (.list others) =
      .list (others ++ (entriesOf chosen).drop others.length) := by
  cases chosen with
  | list items => rw [mergeOverride, entriesOf]
  | _ => rw [mergeOverride, entriesOf, List.drop_nil, List.append_nil] <;> simp

lemma mergeInto_eq (items : List Value) (entries : Keyed Value) :
    mergeInto items entries = items.map (mergeOverride · (.object entries)) := by
  induction items with
  | nil => rfl
  | cons item rest ih => rw [mergeInto, ih, List.map_cons]

/-! ## One override over itself -/

section

variable {α : Type} {base entries : Keyed α}

lemma put_of_get? {k : String} {v : α} (h : get? entries k = some v) :
    put entries k v = entries := by
  induction entries with
  | nil => cases h
  | cons entry rest ih =>
    obtain ⟨j, w⟩ := entry
    rw [get?_cons] at h
    by_cases hk : k = j
    · rw [if_pos hk, Option.some.injEq] at h
      rw [put, if_pos hk.symm, ← h]
    · rw [if_neg hk] at h
      rw [put, if_neg (Ne.symm hk), ih h]

/-- Entries that are there already change nothing. -/
lemma overlay_of_present {added : Keyed α}
    (h : ∀ entry ∈ added, get? base entry.1 = some entry.2) : overlay base added = base := by
  induction added with
  | nil => rfl
  | cons entry rest ih =>
    have hover : overlay base (entry :: rest) = overlay (put base entry.1 entry.2) rest := rfl
    rw [hover, put_of_get? (h entry List.mem_cons_self)]
    exact ih fun other hm => h other (List.mem_cons_of_mem entry hm)

lemma overlay_self (h : Distinct entries) : overlay entries entries = entries :=
  overlay_of_present fun _ hm => get?_of_mem h hm

end

lemma mergeOverride_self (h : Unrepeated first) : mergeOverride first first = first := by
  cases first with
  | object entries => rw [mergeOverride, overlay_self (h entries rfl)]
  | list items => rw [mergeOverride_list, entriesOf, List.drop_length, List.append_nil]
  | _ => rfl

lemma combines_self (o : Value) : Combines o o := by
  cases o with
  | object entries => exact .objects entries entries
  | list items => exact .lists items items
  | _ => exact .replaces _ trivial

/-! ## One override over another -/

lemma mergeOverride_lists (chosen : Value) (items others : List Value) :
    mergeOverride (mergeOverride chosen (.list items)) (.list others) =
      mergeOverride chosen (mergeOverride (.list items) (.list others)) := by
  simp only [mergeOverride_list, entriesOf, List.append_assoc, List.drop_append, List.drop_drop,
    List.length_append, List.length_drop]
  congr 4
  omega

lemma mergeOverride_assoc (hd : Unrepeated first) (h : Combines first second) (chosen : Value) :
    mergeOverride (mergeOverride chosen first) second =
      mergeOverride chosen (mergeOverride first second) := by
  cases h with
  | objects entries more =>
    rw [mergeOverride_mergeOverride (hd entries rfl), mergeOverride]
  | lists items others => exact mergeOverride_lists chosen items others
  | replaces _ hr => simp only [mergeOverride_of_replaces hr]

/-! ## Overrides of different shapes -/

/-- A list of nulls that is longer than a list that goes over it keeps its last one. -/
lemma list_over_nulls (others : List Value) :
    mergeOverride (.list (List.replicate (others.length + 1) .null)) (.list others) =
      .list (others ++ [.null]) := by
  rw [mergeOverride_list, entriesOf, List.drop_replicate, Nat.add_sub_cancel_left]
  rfl

lemma override_over_null (override : Value) : mergeOverride .null override = override := by
  cases override <;> rfl

lemma object_over_nulls (entries : Keyed Value) (n : Nat) :
    mergeOverride (.list (List.replicate n .null)) (.object entries) =
      .list (List.replicate n (.object entries)) := by
  rw [mergeOverride, mergeInto_eq, List.map_replicate, override_over_null]

/-- Overrides that do not combine are told apart from their combination by some list of nulls. -/
lemma combines_of_assoc (h : ∀ chosen, mergeOverride (mergeOverride chosen first) second =
    mergeOverride chosen (mergeOverride first second)) : Combines first second := by
  cases second with
  | object more =>
    cases first with
    | object entries => exact .objects entries more
    | list items =>
      -- the object reaches the item that the list leaves alone, but not through the list
      have hnulls := h (.list (List.replicate (items.length + 1) .null))
      rw [list_over_nulls, mergeOverride, mergeOverride, mergeInto_eq, mergeInto_eq,
        List.map_append] at hnulls
      have hlast := list_over_nulls (items.map (mergeOverride · (.object more)))
      rw [List.length_map] at hlast
      rw [hlast] at hnulls
      simp [mergeOverride] at hnulls
    | _ =>
      have hnull := h (.list [])
      simp [mergeOverride, mergeInto] at hnull
  | list others =>
    cases first with
    | list items => exact .lists items others
    | object entries =>
      -- the list leaves the last item alone, which holds the object by then
      have hnulls := h (.list (List.replicate (others.length + 1) .null))
      have hover := mergeOverride_list (.object entries) others
      rw [entriesOf, List.drop_nil, List.append_nil] at hover
      · rw [object_over_nulls, hover, list_over_nulls, mergeOverride_list, entriesOf] at hnulls
        simp at hnulls
      · simp
    | _ =>
      have hnulls := h (.list (List.replicate (others.length + 1) .null))
      simp [mergeOverride_list, mergeOverride, entriesOf] at hnulls
  | _ => exact .replaces _ trivial

/-- To lay an override over a value a second time changes nothing. Two overrides can be combined
before they are laid over a value, whatever the value is, exactly if both are objects, both are
lists, or the second one is neither. -/
theorem overrides_combine :
    (∀ chosen override, Unrepeated override →
      mergeOverride (mergeOverride chosen override) override = mergeOverride chosen override) ∧
    ∀ first second, Unrepeated first →
      ((∀ chosen, mergeOverride (mergeOverride chosen first) second =
        mergeOverride chosen (mergeOverride first second)) ↔ Combines first second) := by
  refine ⟨fun chosen override hd => ?_, fun first second hd => ⟨combines_of_assoc, ?_⟩⟩
  · rw [mergeOverride_assoc hd (combines_self override), mergeOverride_self hd]
  · exact fun h chosen => mergeOverride_assoc hd h chosen

/-- Two notes, one of them in a list of its own. -/
def notes : Value := .list [.list [.object [("text", .text "Fen"), ("size", .int 6)]], .null]

def pen : Value := .object [("size", .int 8), ("ink", .text "red")]

def brush : Value := .object [("ink", .text "black"), ("bold", .bool true)]

theorem notes_overridden :
    mergeOverride (mergeOverride notes pen) pen = mergeOverride notes pen ∧
    mergeOverride (mergeOverride notes pen) brush = .list [
      .list [.object [("text", .text "Fen"), ("size", .int 8), ("ink", .text "black"),
        ("bold", .bool true)]],
      .object [("size", .int 8), ("ink", .text "black"), ("bold", .bool true)]] ∧
    ∃ chosen, mergeOverride (mergeOverride chosen pen) (.list []) ≠
      mergeOverride chosen (mergeOverride pen (.list [])) := by
  have hd : Unrepeated pen := unrepeated_object (by decide)
  refine ⟨overrides_combine.1 notes pen hd, ?_, ?_⟩
  · rw [(overrides_combine.2 pen brush hd).mpr (.objects _ _) notes]
    rfl
  · by_contra hall
    push Not at hall
    cases (overrides_combine.2 pen (.list []) hd).mp hall with
    | replaces _ hr => exact hr

end CardDrawing.Proofs
