import Mathlib.Algebra.Order.Ring.Nat
import SealedContent.Content.Varint

/-!
Numbers in groups of seven bits read back, by either reader and in front of any other bytes.
-/

namespace SealedContent.Content.Varint

theorem write_small {value : Nat} (small : value < 128) : write value = [UInt8.ofNat value] := by
  rw [write, if_pos small]

theorem write_large {value : Nat} (large : ¬ value < 128) :
    write value = UInt8.ofNat (value % 128 + 128) :: write (value / 128) := by
  rw [write, if_neg large]

theorem write_ne_nil (value : Nat) : write value ≠ [] := by
  rw [write]
  split <;> simp

theorem toNat_group {group : Nat} (small : group < 256) : (UInt8.ofNat group).toNat = group := by
  rw [UInt8.toNat_ofNat']
  exact Nat.mod_eq_of_lt small

theorem length_write {value groups : Nat} (bounded : value < 128 ^ (groups + 1)) :
    (write value).length ≤ groups + 1 := by
  induction groups generalizing value with
  | zero => rw [write_small (by simpa using bounded), List.length_singleton]
  | succ groups induction =>
      by_cases small : value < 128
      · rw [write_small small]
        simp
      · have shorter : value / 128 < 128 ^ (groups + 1) :=
          Nat.div_lt_of_lt_mul (by rwa [pow_succ'] at bounded)
        rw [write_large small, List.length_cons]
        exact Nat.succ_le_succ (induction shorter)

/-- With `left` groups before it the last group may hold one bit. -/
theorem readGroups_write {left value : Nat} (bounded : value < 2 * 128 ^ left) (rest : Bytes) :
    readGroups (left + 1) (write value ++ rest) = .ok (value, rest) := by
  induction left generalizing value with
  | zero =>
      have bit : value < 2 := by simpa using bounded
      rw [write_small (by omega), List.singleton_append]
      simp only [readGroups, toNat_group (show value < 256 by omega)]
      rw [if_neg (by omega), if_pos (by omega), Nat.mod_eq_of_lt (by omega)]
  | succ left induction =>
      by_cases small : value < 128
      · rw [write_small small, List.singleton_append]
        simp only [readGroups, toNat_group (show value < 256 by omega)]
        rw [if_neg (by omega), if_pos small, Nat.mod_eq_of_lt small]
      · have higher : value / 128 < 2 * 128 ^ left :=
          Nat.div_lt_of_lt_mul (by rw [pow_succ] at bounded; omega)
        rw [write_large small, List.cons_append]
        simp only [readGroups, toNat_group (show value % 128 + 128 < 256 by omega)]
        rw [if_neg (by omega), if_neg (by omega), induction higher]
        simp only [Except.ok.injEq, Prod.mk.injEq, and_true]
        omega

theorem read_write {value : Nat} (bounded : value < bound) (rest : Bytes) :
    read (write value ++ rest) = .ok (value, rest) := by
  apply readGroups_write
  calc
    value < bound := bounded
    _ = 2 * 128 ^ 9 := by decide

/-- A number beyond the bound has more groups than the reader takes, or a last one of several bits. -/
theorem readGroups_write_beyond {left value : Nat} (beyond : 2 * 128 ^ left ≤ value)
    (rest : Bytes) : ∃ fault, readGroups (left + 1) (write value ++ rest) = .error fault := by
  induction left generalizing value with
  | zero =>
      have bits : 2 ≤ value := by simpa using beyond
      by_cases small : value < 128
      · rw [write_small small, List.singleton_append]
        simp only [readGroups, toNat_group (show value < 256 by omega)]
        exact ⟨_, if_pos ⟨trivial, by omega⟩⟩
      · rw [write_large small, List.cons_append]
        simp only [readGroups, toNat_group (show value % 128 + 128 < 256 by omega)]
        split
        · exact ⟨_, rfl⟩
        · rw [if_neg (by omega)]
          exact ⟨_, rfl⟩
  | succ left induction =>
      have positive : 0 < 128 ^ left := Nat.pow_pos (by decide)
      rw [pow_succ] at beyond
      have large : ¬ value < 128 := by omega
      obtain ⟨fault, failed⟩ := induction (show 2 * 128 ^ left ≤ value / 128 by omega)
      rw [write_large large, List.cons_append]
      simp only [readGroups, toNat_group (show value % 128 + 128 < 256 by omega)]
      rw [if_neg (by omega), if_neg (by omega), failed]
      exact ⟨fault, rfl⟩

theorem read_write_beyond {value : Nat} (beyond : bound ≤ value) (rest : Bytes) :
    ∃ fault, read (write value ++ rest) = .error fault := by
  apply readGroups_write_beyond
  calc
    2 * 128 ^ 9 = bound := by decide
    _ ≤ value := beyond

theorem readMinimalGroups?_small {value : Nat} (small : value < 128) {first : Bool}
    (shortest : value = 0 → first = true) (left : Nat) (rest : Bytes) :
    readMinimalGroups? first (left + 1) (write value ++ rest) = some (value, rest) := by
  have byte := toNat_group (show value < 256 by omega)
  rw [write_small small, List.singleton_append]
  simp only [readMinimalGroups?, byte]
  rw [if_pos small, if_neg]
  rintro ⟨zero, later⟩
  rw [zero] at byte
  exact later (shortest byte.symm)

theorem readMinimalGroups?_write {left value : Nat} (bounded : value < 128 ^ (left + 1))
    {first : Bool} (shortest : value = 0 → first = true) (rest : Bytes) :
    readMinimalGroups? first (left + 1) (write value ++ rest) = some (value, rest) := by
  induction left generalizing value first with
  | zero => exact readMinimalGroups?_small (by simpa using bounded) shortest 0 rest
  | succ left induction =>
      by_cases small : value < 128
      · exact readMinimalGroups?_small small shortest (left + 1) rest
      · have higher : value / 128 < 128 ^ (left + 1) :=
          Nat.div_lt_of_lt_mul (by rwa [pow_succ'] at bounded)
        rw [write_large small, List.cons_append]
        simp only [readMinimalGroups?, toNat_group (show value % 128 + 128 < 256 by omega)]
        rw [if_neg (by omega), induction higher (by omega)]
        simp only [Option.bind_eq_bind, Option.bind_some, Option.pure_def, Option.some.injEq,
          Prod.mk.injEq, and_true]
        omega

theorem readMinimal?_write (value : UInt64) (rest : Bytes) :
    readMinimal? (write value.toNat ++ rest) = some (value, rest) := by
  have bounded : value.toNat < 128 ^ (9 + 1) := lt_trans value.toNat_lt (by decide)
  rw [readMinimal?, maxLength, readMinimalGroups?_write bounded fun _ => rfl]
  simp

end SealedContent.Content.Varint
