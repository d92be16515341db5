import Mathlib.Tactic.Linarith
import SealedContent.Cipher.Counter
import SealedContent.Proofs.Bytes.Positional

/-!
The counter as a number of 128 bits. Advancing it is exact addition: the carry out of the first
byte is what the sum has beyond `2 ^ 128`, so the only failure is a sum that does not fit.
-/

namespace SealedContent.Cipher.Counter

/-- Sixteen digits of the given number. -/
def ofNat (value : Nat) : Counter :=
  ⟨⟨(Bytes.ofNatBig 16 value).toArray, by simp⟩⟩

theorem toList_ofNat (value : Nat) : (ofNat value).bytes.toList = Bytes.ofNatBig 16 value := by
  simp [ofNat, Vector.toList]

theorem value_lt (counter : Counter) : counter.value < 2 ^ 128 := by
  have bounded := Bytes.bigEndian_lt counter.bytes.toList
  rw [Vector.length_toList] at bounded
  exact lt_of_lt_of_eq bounded (by norm_num)

theorem value_ofNat {value : Nat} (bounded : value < 2 ^ 128) : (ofNat value).value = value := by
  rw [Counter.value, toList_ofNat]
  exact Bytes.bigEndian_ofNatBig (lt_of_lt_of_eq bounded (by norm_num))

theorem ofNat_value (counter : Counter) : ofNat counter.value = counter := by
  have digits := Bytes.ofNatBig_bigEndian counter.bytes.toList
  rw [Vector.length_toList] at digits
  have same : (ofNat counter.value).bytes = counter.bytes := by
    apply Vector.toList_inj.mp
    rw [toList_ofNat]
    exact digits
  exact congrArg Counter.mk same

/-- The digits and the carry hold the sum, whatever was added. -/
theorem littleEndian_addDigits (digits : Bytes) (addend : Nat) :
    Bytes.littleEndian (addDigits digits addend).1 +
        256 ^ digits.length * (addDigits digits addend).2 =
      Bytes.littleEndian digits + addend := by
  induction digits generalizing addend with
  | nil => simp [addDigits, Bytes.littleEndian]
  | cons digit digits induction =>
      have tail := induction ((digit.toNat + addend) / 256)
      have low : (UInt8.ofNat (digit.toNat + addend)).toNat = (digit.toNat + addend) % 256 := by
        simp
      have split := Nat.mod_add_div (digit.toNat + addend) 256
      simp only [addDigits, Bytes.littleEndian, List.length_cons, pow_succ, low]
      linarith

theorem increment_eq (counter : Counter) (blocks : Nat) :
    counter.increment blocks =
      if counter.value + blocks < 2 ^ 128 then .ok (ofNat (counter.value + blocks))
      else .error (.counterOverflow blocks) := by
  let sum := addDigits counter.bytes.toList.reverse blocks
  have digits : sum.1.length = 16 := by simp [sum, length_addDigits]
  have width : (256 : Nat) ^ 16 = 2 ^ 128 := by norm_num
  have total : Bytes.littleEndian sum.1 + 2 ^ 128 * sum.2 = counter.value + blocks := by
    have exact := littleEndian_addDigits counter.bytes.toList.reverse blocks
    rw [← Bytes.bigEndian_eq_littleEndian_reverse, List.length_reverse, Vector.length_toList,
      width] at exact
    exact exact
  have bounded : Bytes.littleEndian sum.1 < 2 ^ 128 := by
    have below := Bytes.littleEndian_lt sum.1
    rwa [digits, width] at below
  change (if sum.2 = 0 then Except.ok _ else _) = _
  by_cases fits : counter.value + blocks < 2 ^ 128
  · have carry : sum.2 = 0 := by omega
    rw [if_pos carry, if_pos fits]
    congr 1
    rw [← ofNat_value ⟨⟨sum.1.reverse.toArray, _⟩⟩]
    congr 1
    rw [carry, Nat.mul_zero, Nat.add_zero] at total
    simpa [Counter.value, Bytes.bigEndian_eq_littleEndian_reverse, Vector.toList] using total
  · have carry : sum.2 ≠ 0 := by
      intro none
      rw [none] at total
      omega
    rw [if_neg carry, if_neg fits]

theorem value_injective : Function.Injective value := by
  intro left right same
  rw [← ofNat_value left, same, ofNat_value]

theorem increment_eq_ok_iff {counter next : Counter} {blocks : Nat} :
    counter.increment blocks = .ok next ↔
      counter.value + blocks < 2 ^ 128 ∧ next.value = counter.value + blocks := by
  rw [increment_eq]
  by_cases fits : counter.value + blocks < 2 ^ 128
  · rw [if_pos fits, Except.ok.injEq, ← value_injective.eq_iff, value_ofNat fits, eq_comm]
    exact (and_iff_right fits).symm
  · rw [if_neg fits]
    exact ⟨nofun, fun sum => absurd sum.1 fits⟩

theorem increment_eq_error_iff {counter : Counter} {blocks : Nat} {error : CipherError} :
    counter.increment blocks = .error error ↔
      2 ^ 128 ≤ counter.value + blocks ∧ error = .counterOverflow blocks := by
  rw [increment_eq]
  by_cases fits : counter.value + blocks < 2 ^ 128
  · rw [if_pos fits]
    exact ⟨nofun, fun sum => absurd fits (Nat.not_lt_of_le sum.1)⟩
  · rw [if_neg fits, Except.error.injEq, eq_comm]
    exact (and_iff_right (Nat.le_of_not_lt fits)).symm

/-- Two steps reach what one step of both lengths reaches, and fail together with it. -/
theorem increment_add_eq_ok_iff {counter next : Counter} {first second : Nat} :
    counter.increment (first + second) = .ok next ↔
      ∃ middle, counter.increment first = .ok middle ∧ middle.increment second = .ok next := by
  simp only [increment_eq_ok_iff]
  constructor
  · rintro ⟨fits, sum⟩
    have middle : (ofNat (counter.value + first)).value = counter.value + first :=
      value_ofNat (by omega)
    exact ⟨ofNat (counter.value + first), ⟨by omega, middle⟩, by omega, by omega⟩
  · rintro ⟨middle, ⟨-, reached⟩, fits, sum⟩
    exact ⟨by omega, by omega⟩

end SealedContent.Cipher.Counter
