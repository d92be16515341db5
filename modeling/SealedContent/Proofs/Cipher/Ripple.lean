import SealedContent.Proofs.Cipher.Counter

/-!
The addition to the counter in words of fixed width, byte by byte from the last one: what is left of the
number that is added sits in 64 bits, the carry in 16, and the walk ends early where both are zero. No sum
outgrows its word and no bit of the number is lost, so the counter comes out as exact addition has it.
-/

namespace SealedContent.Cipher

/-- What an addition has still to add when it comes to a byte. -/
structure Ripple where
  addend : UInt64
  carry : UInt16

namespace Ripple

def amount (left : Ripple) : Nat :=
  left.addend.toNat + left.carry.toNat

/-- One byte of the sum, and what is left for the bytes before it. -/
def step (left : Ripple) (byte : UInt8) : UInt8 × Ripple :=
  let sum := byte.toUInt16 + (left.addend &&& 0xff).toUInt16 + left.carry
  ((sum &&& 0xff).toUInt8, ⟨left.addend >>> 8, sum >>> 8⟩)

/-- Adds to a number whose least significant byte comes first. -/
def add (left : Ripple) : Bytes → Bytes × Ripple
  | [] => ([], left)
  | byte :: bytes =>
      if left.addend = 0 ∧ left.carry = 0 then (byte :: bytes, left)
      else
        let (digit, next) := left.step byte
        let (digits, last) := next.add bytes
        (digit :: digits, last)

theorem length_add (left : Ripple) (bytes : Bytes) : (left.add bytes).1.length = bytes.length := by
  induction bytes generalizing left with
  | nil => rfl
  | cons byte bytes induction =>
      rw [add]
      split
      · rfl
      · rw [List.length_cons, List.length_cons, induction]

theorem amount_eq_zero_iff (left : Ripple) : left.amount = 0 ↔ left.addend = 0 ∧ left.carry = 0 := by
  rw [amount, Nat.add_eq_zero_iff, ← UInt64.toNat_inj, ← UInt16.toNat_inj]
  rfl

theorem toNat_low (word : UInt64) : (word &&& 0xff).toUInt16.toNat = word.toNat % 256 := by
  have low : (word &&& 0xff).toNat = word.toNat % 256 := by
    rw [UInt64.toNat_and]
    exact Nat.and_two_pow_sub_one_eq_mod word.toNat 8
  rw [UInt64.toNat_toUInt16, low]
  omega

/-- Two bytes and a carry of one are less than two bytes' worth, so the carry stays a single bit. -/
theorem toNat_sum {left : Ripple} (single : left.carry.toNat ≤ 1) (byte : UInt8) :
    (byte.toUInt16 + (left.addend &&& 0xff).toUInt16 + left.carry).toNat =
      byte.toNat + left.addend.toNat % 256 + left.carry.toNat := by
  have bounded := byte.toNat_lt
  rw [UInt16.toNat_add, UInt16.toNat_add, UInt8.toNat_toUInt16, toNat_low]
  omega

theorem step_eq {left : Ripple} (single : left.carry.toNat ≤ 1) (byte : UInt8) :
    (left.step byte).1 = UInt8.ofNat (byte.toNat + left.amount) ∧
      (left.step byte).2.amount = (byte.toNat + left.amount) / 256 ∧
      (left.step byte).2.carry.toNat ≤ 1 := by
  have bounded := byte.toNat_lt
  let sum := byte.toUInt16 + (left.addend &&& 0xff).toUInt16 + left.carry
  have total : sum.toNat = byte.toNat + left.addend.toNat % 256 + left.carry.toNat :=
    toNat_sum single byte
  have digit : (sum &&& 0xff).toUInt8.toNat = sum.toNat % 256 := by
    rw [UInt16.toNat_toUInt8, UInt16.toNat_and]
    change (sum.toNat &&& 2 ^ 8 - 1) % 2 ^ 8 = _
    rw [Nat.and_two_pow_sub_one_eq_mod, Nat.mod_mod]
  have carry : (sum >>> 8).toNat = sum.toNat / 256 := by
    rw [UInt16.toNat_shiftRight, Nat.shiftRight_eq_div_pow]
    rfl
  have addend : (left.addend >>> 8).toNat = left.addend.toNat / 256 := by
    rw [UInt64.toNat_shiftRight, Nat.shiftRight_eq_div_pow]
    rfl
  refine ⟨?_, ?_, ?_⟩
  · rw [← UInt8.toNat_inj, UInt8.toNat_ofNat']
    change (sum &&& 0xff).toUInt8.toNat = _
    rw [digit, total, amount]
    omega
  · change (left.addend >>> 8).toNat + (sum >>> 8).toNat = _
    rw [addend, carry, total, amount]
    omega
  · change (sum >>> 8).toNat ≤ 1
    rw [carry, total]
    omega

end Ripple

namespace Counter

theorem addDigits_zero (digits : Bytes) : addDigits digits 0 = (digits, 0) := by
  induction digits with
  | nil => rfl
  | cons digit digits induction =>
      have bounded := digit.toNat_lt
      have nothing : digit.toNat / 256 = 0 := by omega
      simp only [addDigits, Nat.add_zero, nothing, induction, UInt8.ofNat_toNat]

/-- The walk over the bytes in words keeps up with the one over digits, and stops early where that one
changes nothing. -/
theorem ripple_add_eq {left : Ripple} (single : left.carry.toNat ≤ 1) (bytes : Bytes) :
    (left.add bytes).1 = (addDigits bytes left.amount).1 ∧
      (left.add bytes).2.amount = (addDigits bytes left.amount).2 := by
  induction bytes generalizing left with
  | nil => exact ⟨rfl, rfl⟩
  | cons byte bytes induction =>
      rw [Ripple.add]
      by_cases spent : left.addend = 0 ∧ left.carry = 0
      · have nothing := left.amount_eq_zero_iff.mpr spent
        rw [if_pos spent, nothing, addDigits_zero]
        exact ⟨rfl, rfl⟩
      · obtain ⟨digit, amount, small⟩ := Ripple.step_eq single byte
        obtain ⟨digits, last⟩ := induction small
        rw [amount] at digits last
        rw [if_neg spent]
        exact ⟨congrArg₂ List.cons digit digits, last⟩

/-- The counter advanced by the walk in words. -/
def rippled (counter : Counter) (blocks : UInt64) : Except CipherError Counter :=
  let sum := Ripple.add ⟨blocks, 0⟩ counter.bytes.toList.reverse
  if sum.2.carry ≠ 0 ∨ sum.2.addend ≠ 0 then .error (.counterOverflow blocks.toNat)
  else .ok ⟨⟨sum.1.reverse.toArray, by simp [sum, Ripple.length_add]⟩⟩

theorem rippled_eq (counter : Counter) (blocks : UInt64) :
    counter.rippled blocks = counter.increment blocks.toNat := by
  let start : Ripple := ⟨blocks, 0⟩
  have amount : start.amount = blocks.toNat := Nat.add_zero _
  obtain ⟨digits, last⟩ :=
    ripple_add_eq (show start.carry.toNat ≤ 1 from Nat.zero_le 1) counter.bytes.toList.reverse
  rw [amount] at digits last
  have carried : ((start.add counter.bytes.toList.reverse).2.carry ≠ 0 ∨
      (start.add counter.bytes.toList.reverse).2.addend ≠ 0) ↔
        (addDigits counter.bytes.toList.reverse blocks.toNat).2 ≠ 0 := by
    rw [← last, ne_eq, ne_eq, ne_eq, Ripple.amount_eq_zero_iff, not_and_or, or_comm]
  rw [rippled, increment]
  by_cases fits : (addDigits counter.bytes.toList.reverse blocks.toNat).2 = 0
  · rw [if_neg (mt carried.mp (not_not_intro fits)), if_pos fits]
    simp only [start, digits]
  · rw [if_pos (carried.mpr fits), if_neg fits]

/-- Advancing a counter is addition of numbers of 128 bits, and the walk in words computes it. The sum is
reached or, if it does not fit, nothing is; parts of a number may be added one after the other; and no two
numbers lead to the same counter. -/
theorem increment_exact (counter : Counter) :
    (∀ blocks : UInt64, counter.rippled blocks = counter.increment blocks.toNat ∧
      ((counter.value + blocks.toNat < 2 ^ 128 ∧ ∃ next,
          counter.increment blocks.toNat = .ok next ∧ next.value = counter.value + blocks.toNat) ∨
        (2 ^ 128 ≤ counter.value + blocks.toNat ∧
          counter.increment blocks.toNat = .error (.counterOverflow blocks.toNat)))) ∧
    (∀ first second : UInt64, first.toNat + second.toNat < 2 ^ 64 → ∀ next,
      counter.increment (first + second).toNat = .ok next ↔
        ∃ middle, counter.increment first.toNat = .ok middle ∧
          middle.increment second.toNat = .ok next) ∧
    (∀ (first second : UInt64) (next : Counter), counter.increment first.toNat = .ok next →
      counter.increment second.toNat = .ok next → first = second) := by
  refine ⟨fun blocks => ⟨rippled_eq counter blocks, ?_⟩, ?_, ?_⟩
  · by_cases fits : counter.value + blocks.toNat < 2 ^ 128
    · have sum := value_ofNat fits
      exact .inl ⟨fits, _, increment_eq_ok_iff.mpr ⟨fits, sum⟩, sum⟩
    · have beyond := Nat.le_of_not_lt fits
      exact .inr ⟨beyond, increment_eq_error_iff.mpr ⟨beyond, rfl⟩⟩
  · intro first second small next
    have sum : (first + second).toNat = first.toNat + second.toNat := by
      rw [UInt64.toNat_add]
      exact Nat.mod_eq_of_lt small
    rw [sum, increment_add_eq_ok_iff]
  · intro first second next reached same
    have firstSum := (increment_eq_ok_iff.mp reached).2
    have secondSum := (increment_eq_ok_iff.mp same).2
    apply UInt64.toNat_inj.mp
    omega

/-- Five steps and four more lead from ten below the end to the last counter. -/
theorem nearEnd_increment :
    let start := ofNat (2 ^ 128 - 10)
    (5 : UInt64).toNat + (4 : UInt64).toNat < 2 ^ 64 ∧
      start.increment 9 = .ok (ofNat (2 ^ 128 - 1)) ∧
      ∃ middle, start.increment 5 = .ok middle ∧ middle.increment 4 = .ok (ofNat (2 ^ 128 - 1)) := by
  intro start
  have small : (5 : UInt64).toNat + (4 : UInt64).toNat < 2 ^ 64 := by decide
  have reached : start.increment ((5 : UInt64) + 4).toNat = .ok (ofNat (2 ^ 128 - 1)) := by decide
  exact ⟨small, reached, ((increment_exact start).2.1 5 4 small _).mp reached⟩

end Counter

end SealedContent.Cipher
