import CardDrawing.Template
import CardDrawing.Proofs.KeyedEntries
import CardDrawing.Proofs.Outcomes

/-!
# Well-formed templates

A template lists its fields under their own ids, and no id twice. Every template that is read from
a document is so.
-/

namespace CardDrawing.Proofs
open Keyed

/-- Every field stands under its own id, and no id is taken twice. -/
structure WellFormed (template : Template) : Prop where
  distinct : Distinct template.fields
  keyed : ∀ entry ∈ template.fields, entry.2.id = entry.1

variable {template : Template}

lemma WellFormed.ids_nodup (h : WellFormed template) :
    (template.orderedFields.map Field.id).Nodup := by
  have hids : template.orderedFields.map Field.id = keys template.fields := by
    rw [Template.orderedFields, List.map_map, keys]
    exact List.map_congr_left h.keyed
  rw [hids]
  exact h.distinct

lemma WellFormed.filter_ids_nodup (h : WellFormed template) (p : Field → Bool) :
    ((template.orderedFields.filter p).map Field.id).Nodup :=
  h.ids_nodup.sublist (List.filter_sublist.map Field.id)

lemma checkKeys_eq_ok {fields : Keyed Field} (h : Template.checkKeys fields = .ok ()) :
    ∀ entry ∈ fields, entry.2.id = entry.1 := by
  induction fields with
  | nil => simp
  | cons entry rest ih =>
    obtain ⟨key, field⟩ := entry
    rw [Template.checkKeys] at h
    split at h
    · rename_i hkey
      exact List.forall_mem_cons.mpr ⟨hkey, ih h⟩
    · cases h

lemma readFields_keys {raw : Keyed Value} {fields : Keyed Field}
    (h : Template.readFields raw = .ok fields) : keys fields = keys raw := by
  refine mapM_map_eq h fun entry read hread => ?_
  obtain ⟨field, -, hread⟩ := bind_eq_ok.mp hread
  obtain rfl := pure_eq_ok.mp hread
  rfl

lemma ofParts_eq_ok {name : String} {width height : Number} {fields : Keyed Field}
    (h : Template.ofParts name width height fields = .ok template) :
    Template.checkKeys fields = .ok () ∧ template.fields = fields := by
  rw [Template.ofParts] at h
  split at h
  · cases h
  · obtain ⟨⟨⟩, hkeys, h⟩ := bind_eq_ok.mp h
    obtain rfl := pure_eq_ok.mp h
    exact ⟨hkeys, rfl⟩

/-- A template that is read from a document without repeated keys is well-formed. -/
theorem wellFormed_read {entries : Keyed Value} {name? : Option String}
    (hd : ∀ raw, get? entries "fields" = some (.object raw) → Distinct raw)
    (h : Template.read (.object entries) name? = .ok template) : WellFormed template := by
  obtain ⟨raw, hraw, h⟩ := bind_eq_ok.mp h
  obtain ⟨width, -, h⟩ := bind_eq_ok.mp h
  obtain ⟨height, -, h⟩ := bind_eq_ok.mp h
  obtain ⟨fields, hfields, h⟩ := bind_eq_ok.mp h
  obtain ⟨hkeys, rfl⟩ := ofParts_eq_ok h
  refine ⟨?_, checkKeys_eq_ok hkeys⟩
  rw [Distinct, readFields_keys hfields]
  cases hget : get? entries "fields" with
  | none =>
    rw [hget] at hraw
    cases hraw
    exact List.nodup_nil
  | some value =>
    rw [hget] at hraw
    cases value with
    | object raw' =>
      cases hraw
      exact hd raw hget
    | _ => cases hraw

end CardDrawing.Proofs
