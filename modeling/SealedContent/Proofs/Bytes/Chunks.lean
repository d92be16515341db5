import Mathlib.Data.List.Basic
import SealedContent.Bytes.Basic

/-!
Data that is given in chunks: the place at which each chunk starts, and how long they are together.
-/

namespace SealedContent.Bytes

theorem take_length_take (count : Nat) (data : Bytes) :
    data.take (data.take count).length = data.take count := by
  rw [List.length_take, ← List.take_eq_take_min]

theorem drop_length_take (count : Nat) (data : Bytes) :
    data.drop (data.take count).length = data.drop count := by
  rcases Nat.le_total count data.length with long | short
  · rw [List.length_take, Nat.min_eq_left long]
  · rw [List.take_of_length_le short, List.drop_length, List.drop_eq_nil_of_le short]

/-- How many bytes stand before a chunk. -/
def startOf (chunks : List Bytes) (index : Nat) : Nat :=
  (chunks.take index).flatten.length

@[simp] theorem startOf_zero (chunks : List Bytes) : startOf chunks 0 = 0 := rfl

theorem startOf_cons (chunk : Bytes) (rest : List Bytes) (index : Nat) :
    startOf (chunk :: rest) (index + 1) = chunk.length + startOf rest index := by
  simp [startOf]

theorem startOf_succ {chunks : List Bytes} {index : Nat} {chunk : Bytes}
    (given : chunks[index]? = some chunk) :
    startOf chunks (index + 1) = startOf chunks index + chunk.length := by
  rw [startOf, List.take_add_one, given]
  simp [startOf]

theorem startOf_mono (chunks : List Bytes) {first second : Nat} (before : first ≤ second) :
    startOf chunks first ≤ startOf chunks second := by
  obtain ⟨more, rfl⟩ := Nat.exists_eq_add_of_le before
  rw [startOf, startOf, List.take_add, List.flatten_append, List.length_append]
  exact Nat.le_add_right _ _

section Length

variable {α : Type}

theorem length_form_le (form : α → Bytes) {items : List α} {item : α} (member : item ∈ items) :
    (form item).length ≤ (items.flatMap form).length := by
  rw [List.flatMap_def]
  exact (List.sublist_flatten_of_mem (List.mem_map_of_mem member)).length_le

theorem length_le_flatMap {form : α → Bytes} (filled : ∀ item, form item ≠ []) (items : List α) :
    items.length ≤ (items.flatMap form).length := by
  induction items with
  | nil => exact Nat.le_refl 0
  | cons item rest induction =>
      have first := List.length_pos_of_ne_nil (filled item)
      rw [List.flatMap_cons, List.length_append, List.length_cons]
      omega

end Length

end SealedContent.Bytes
