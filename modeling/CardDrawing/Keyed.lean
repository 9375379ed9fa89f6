/-!
# Entries under string keys

Objects, palettes, templates and cards keep their entries in the order in which the keys first
appeared. Writing to a present key keeps its place; writing to a new key appends it.
-/

namespace CardDrawing

/-- Entries under string keys, in the order in which the keys first appeared. -/
abbrev Keyed (α : Type) := List (String × α)

namespace Keyed

variable {α β : Type}

/-- The entry under `key`. -/
def get? (entries : Keyed α) (key : String) : Option α :=
  List.lookup key entries

def keys (entries : Keyed α) : List String :=
  entries.map Prod.fst

def has (entries : Keyed α) (key : String) : Bool :=
  (get? entries key).isSome

/-- Writes one entry: a present key keeps its place, a new one goes to the end. -/
def put : Keyed α → String → α → Keyed α
  | [], key, value => [(key, value)]
  | (k, v) :: rest, key, value =>
    if k = key then (k, value) :: rest else (k, v) :: put rest key value

/-- Writes every entry of `added` onto `base`, first to last. -/
def overlay (base added : Keyed α) : Keyed α :=
  added.foldl (fun entries entry => put entries entry.1 entry.2) base

/-- Entries listed first to last, a repeated key keeping its first place and its last value. -/
def ofEntries (entries : List (String × α)) : Keyed α :=
  overlay [] entries

def mapValues (f : α → β) (entries : Keyed α) : Keyed β :=
  entries.map fun entry => (entry.1, f entry.2)

/-- No key is repeated. -/
def Distinct (entries : Keyed α) : Prop :=
  (keys entries).Nodup

instance (entries : Keyed α) : Decidable (Distinct entries) :=
  inferInstanceAs (Decidable (keys entries).Nodup)

@[simp] theorem get?_nil (key : String) : get? ([] : Keyed α) key = none := rfl

theorem get?_cons (entry : String × α) (rest : Keyed α) (key : String) :
    get? (entry :: rest) key = if key = entry.1 then some entry.2 else get? rest key := by
  rcases entry with ⟨k, v⟩
  by_cases h : key = k
  · simp [get?, h]
  · have hb : (key == k) = false := by simpa using h
    simp [get?, List.lookup_cons, hb, h]

theorem get?_put (entries : Keyed α) (key other : String) (value : α) :
    get? (put entries key value) other =
      if other = key then some value else get? entries other := by
  induction entries with
  | nil => simp [put, get?_cons]
  | cons entry rest ih =>
    rcases entry with ⟨k, v⟩
    by_cases hk : k = key
    · subst hk
      by_cases ho : other = k <;> simp [put, get?_cons, ho]
    · by_cases ho : other = k
      · subst ho
        simp [put, hk, get?_cons]
      · simp [put, hk, get?_cons, ho, ih]

theorem mem_of_get? {entries : Keyed α} {key : String} {value : α}
    (h : get? entries key = some value) : (key, value) ∈ entries := by
  induction entries with
  | nil => simp at h
  | cons entry rest ih =>
    rcases entry with ⟨k, v⟩
    rw [get?_cons] at h
    split at h
    · rename_i hk
      cases hk
      cases h
      exact List.mem_cons_self
    · exact List.mem_cons_of_mem _ (ih h)

end Keyed

end CardDrawing
