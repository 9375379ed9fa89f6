import CardDrawing.Field.Reader
import CardDrawing.Proofs.Outcomes

/-!
# Reading additional elements

The additional elements of a key-value list are read one after another, each as a field of its own
under an id that spells its place.
-/

namespace CardDrawing.Proofs

/-! ## Items under their numbers -/

section

variable {α β : Type} {l : List α}

/-- Items that are read one after another, each under its number. -/
lemma mapM_zipIdx {f : α × Nat → Except Error β} {ys : List β} (h : l.zipIdx.mapM f = .ok ys) :
    ys.length = l.length ∧
      ∀ (i : Nat) (x : α) (y : β), l[i]? = some x → ys[i]? = some y → f (x, i) = .ok y := by
  refine ⟨?_, fun i x y hx hy => ?_⟩
  · rw [← (mapM_eq_ok.mp h).length_eq, List.length_zipIdx]
  · obtain ⟨⟨x', j⟩, hnumbered, hread⟩ := (mapM_getElem? h).mp hy
    rw [List.getElem?_zipIdx, hx, Option.map_some, Nat.zero_add] at hnumbered
    cases hnumbered
    exact hread

lemma mapM_attach_zipIdx (f : α → Nat → Except Error β) (l : List α) :
    (l.attach.zipIdx.mapM fun x => f x.1.1 x.2) = l.zipIdx.mapM fun x => f x.1 x.2 := by
  have hl : l.zipIdx = l.attach.zipIdx.map (Prod.map Subtype.val id) := by
    rw [← List.zipIdx_map, List.attach_map_subtype_val]
  rw [hl, List.mapM_map]
  rfl

/-- Items that are read alike one by one are read alike all together. -/
lemma mapM_zipIdx_congr {R : α → α → Prop} {f : α → Nat → Except Error β} {l' : List α}
    (h : List.Forall₂ R l l') (hf : ∀ x ∈ l, ∀ x' i, R x x' → f x' i = f x i) (k : Nat) :
    ((l'.zipIdx k).mapM fun x => f x.1 x.2) = (l.zipIdx k).mapM fun x => f x.1 x.2 := by
  induction h generalizing k with
  | nil => rfl
  | cons hr _ ih =>
    obtain ⟨hx, hrest⟩ := List.forall_mem_cons.mp hf
    rw [List.zipIdx_cons, List.zipIdx_cons, List.mapM_cons, List.mapM_cons, ih hrest, hx _ k hr]

end

/-! ## Additional elements -/

variable {data : Keyed Value} {id : String}

/-- The additional elements of a field, read under their places. -/
def readExtras (id : String) (data : Keyed Value) : Except Error (List Field) :=
  (Field.extrasOf data).zipIdx.mapM fun x => Field.read s!"{id}.additionalElements[{x.2}]" x.1

lemma extras_getD (h : Field.extrasAreList data = true) :
    (Keyed.get? data "additionalElements").getD (.list []) = .list (Field.extrasOf data) := by
  rw [Field.extrasAreList] at h
  rw [Field.extrasOf]
  cases hget : Keyed.get? data "additionalElements" with
  | none => rfl
  | some v =>
    rw [hget] at h
    cases v with
    | list items => rfl
    | _ => cases h

/-- What is read of a field of a type, once its type and its identity are. -/
def readAs (id : String) (data : Keyed Value) (identity : Identity) :
    FieldType → Except Error Field
  | .color => do return .color (← Field.readBoxField identity data)
  | .line => do return .line (← Field.readLine identity data)
  | .text => do return .text (← Field.readText identity data)
  | .keyValText => do return .keyValText (← Field.readRow identity data)
  | .keyValList => do
    let row ← Field.readRowSpec id data
    if !Field.extrasAreList data then throw (.notList s!"fields.{id}.additionalElements")
    let extras ← readExtras id data
    let y ← Field.coordinate data "y"
    let yIncr ← Field.coordinate data "yIncr"
    Field.rowList identity y yIncr (some row) extras
  | .image => do return .image (← Field.readImage id identity data)
  | .multiImage => do
    let specs ← Field.readSpecs id data
    Field.checkId id
    return .multiImage identity specs
  | .svg => do return .svg (← Field.readBoxField identity data)
  | .colorScheme => do
    Field.checkId id
    return .colorScheme identity

lemma read_object (id : String) (data : Keyed Value) :
    Field.read id (.object data) = (do
      let type ← Field.readType id data
      let identity ← Field.readIdentity id data
      readAs id data identity type) := by
  have hextras : ((Field.extrasOf data).attach.zipIdx.mapM fun x =>
      Field.read s!"{id}.additionalElements[{x.2}]" x.1.1) = readExtras id data :=
    mapM_attach_zipIdx (fun item i => Field.read s!"{id}.additionalElements[{i}]" item) _
  rw [Field.read]
  refine congrArg _ (funext fun type => congrArg _ (funext fun identity => ?_))
  cases type with
  | keyValList => rw [readAs, ← hextras]
  | _ => rfl

end CardDrawing.Proofs
