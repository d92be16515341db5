import Mathlib.Data.List.Nodup
import SealedContent.Cbor.Shape

/-!
Fields by their keys. Sorting only reorders them, whatever they hold, and where no key comes twice
looking a key up finds its own value.
-/

namespace SealedContent.Cbor

section Lists

variable {α β : Type}

theorem insertField_perm (field : String × α) (fields : List (String × α)) :
    (insertField field fields).Perm (field :: fields) := by
  induction fields with
  | nil => exact List.Perm.refl _
  | cons other rest induction =>
      rw [insertField]
      split
      · exact List.Perm.refl _
      · exact (induction.cons other).trans (List.Perm.swap field other rest)

theorem sortFields_perm (fields : List (String × α)) : (sortFields fields).Perm fields := by
  induction fields with
  | nil => exact List.Perm.refl _
  | cons field rest induction =>
      rw [sortFields, List.foldr_cons, ← sortFields]
      exact (insertField_perm field _).trans (induction.cons field)

section Map

variable (form : α → β)

theorem insertField_map (field : String × α) (fields : List (String × α)) :
    insertField (field.1, form field.2) (fields.map fun field => (field.1, form field.2)) =
      (insertField field fields).map fun field => (field.1, form field.2) := by
  induction fields with
  | nil => rfl
  | cons other rest induction =>
      rw [List.map_cons, insertField, insertField]
      split
      · rfl
      · rw [induction, List.map_cons]

theorem sortFields_map (fields : List (String × α)) :
    sortFields (fields.map fun field => (field.1, form field.2)) =
      (sortFields fields).map fun field => (field.1, form field.2) := by
  induction fields with
  | nil => rfl
  | cons field rest induction =>
      rw [List.map_cons, sortFields, List.foldr_cons, ← sortFields, induction, insertField_map]
      rfl

end Map

theorem lookup_of_mem {fields : List (String × α)} (distinct : (fields.map Prod.fst).Nodup)
    {key : String} {value : α} (member : (key, value) ∈ fields) :
    fields.lookup key = some value := by
  induction fields with
  | nil => cases member
  | cons field rest induction =>
      rw [List.map_cons, List.nodup_cons] at distinct
      rcases List.mem_cons.mp member with rfl | later
      · exact List.lookup_cons_self
      · have different : key ≠ field.1 := by
          intro same
          exact distinct.1 (List.mem_map.mpr ⟨_, later, same⟩)
        rw [List.lookup_cons, beq_eq_false_iff_ne.mpr different]
        exact induction distinct.2 later

theorem lookup_of_not_mem {fields : List (String × α)} {key : String}
    (absent : key ∉ fields.map Prod.fst) : fields.lookup key = none := by
  rw [List.lookup_eq_none_iff]
  intro field member
  have different : key ≠ field.1 := by
    rintro rfl
    exact absent (List.mem_map_of_mem member)
  simpa using different

/-- Fields of the same keys in the same order stand opposite each other. -/
theorem exists_opposite {left : List (String × α)} {right : List (String × β)}
    (keys : right.map Prod.fst = left.map Prod.fst) {field : String × β} (member : field ∈ right) :
    ∃ value, (field.1, value) ∈ left ∧ ((field.1, value), field) ∈ left.zip right := by
  induction right generalizing left with
  | nil => cases member
  | cons first rest induction =>
      cases left with
      | nil => cases keys
      | cons other others =>
          rw [List.map_cons, List.map_cons, List.cons.injEq] at keys
          rcases List.mem_cons.mp member with rfl | later
          · refine ⟨other.2, ?_⟩
            rw [keys.1]
            simp
          · obtain ⟨value, known, pair⟩ := induction keys.2 later
            exact ⟨value, List.mem_cons_of_mem _ known, List.mem_cons_of_mem _ pair⟩

end Lists

theorem arrange?_of_lookup {fields stored : List (String × Value)}
    (found : ∀ field ∈ fields, stored.lookup field.1 = some field.2) :
    arrange? (fields.map Prod.fst) stored = some fields := by
  induction fields with
  | nil => rfl
  | cons field rest induction =>
      have later := induction fun other member => found other (List.mem_cons_of_mem _ member)
      rw [arrange?] at later
      simp [arrange?, found field List.mem_cons_self, later]

end SealedContent.Cbor
