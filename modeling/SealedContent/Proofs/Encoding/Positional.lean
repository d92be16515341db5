import Mathlib.Data.Nat.Digits.Lemmas
import SealedContent.Encoding.Positional
import SealedContent.Proofs.Encoding.BitGroups

/-!
Bytes read back from the symbols of one large number, in any base with two symbols or more. The zeros at
the front are carried over one by one; behind them stand the digits of a number, which start with no zero
and so are the only ones that it has.
-/

namespace SealedContent.Encoding

variable {base fromBase toBase : Nat} {digits significant : List Nat}

theorem digitsLittle_eq (proper : 1 < base) (value : Nat) :
    digitsLittle base value = Nat.digits base value := by
  induction value using Nat.strongRecOn with
  | ind value induction =>
      rw [digitsLittle]
      by_cases zero : value = 0
      · rw [if_pos (.inr zero), zero, Nat.digits_zero]
      · have positive : 0 < value := Nat.pos_of_ne_zero zero
        rw [if_neg (by omega), induction _ (Nat.div_lt_self positive proper),
          Nat.digits_def' proper positive]

theorem natOfDigits_eq (base : Nat) (digits : List Nat) :
    natOfDigits base digits = Nat.ofDigits base digits.reverse := by
  induction digits using List.reverseRecOn with
  | nil => rfl
  | append_singleton digits digit induction =>
      rw [natOfDigits, List.foldl_append, ← natOfDigits, induction, List.reverse_append,
        List.reverse_singleton, List.singleton_append, Nat.ofDigits_cons, Nat.add_comm, Nat.mul_comm]
      rfl

/-- Digits in front of others count as much more as the base raised to the number of those. -/
theorem natOfDigits_append (base : Nat) (first second : List Nat) :
    natOfDigits base (first ++ second) =
      natOfDigits base second + base ^ second.length * natOfDigits base first := by
  simp only [natOfDigits_eq, List.reverse_append, Nat.ofDigits_append, List.length_reverse]

theorem lt_of_mem_bytes {bytes : Bytes} : ∀ digit ∈ bytes.map UInt8.toNat, digit < 256 := by
  intro digit member
  obtain ⟨byte, -, rfl⟩ := List.mem_map.mp member
  exact byte.toNat_lt

theorem natOfDigits_lt (proper : 1 < base) (below : ∀ digit ∈ digits, digit < base) :
    natOfDigits base digits < base ^ digits.length := by
  have bounded := Nat.ofDigits_lt_base_pow_length (l := digits.reverse) proper fun digit member =>
    below digit (List.mem_reverse.mp member)
  rwa [List.length_reverse, ← natOfDigits_eq] at bounded

theorem natOfDigits_bytes_lt (bytes : Bytes) :
    natOfDigits 256 (bytes.map UInt8.toNat) < 256 ^ bytes.length := by
  have bounded := natOfDigits_lt (by decide : 1 < 256) (@lt_of_mem_bytes bytes)
  rwa [List.length_map] at bounded

theorem exists_significant (digits : List Nat) : ∃ zeros significant,
    digits = List.replicate zeros 0 ++ significant ∧ significant.head? ≠ some 0 := by
  induction digits with
  | nil => exact ⟨0, [], rfl, nofun⟩
  | cons digit digits induction =>
      by_cases zero : digit = 0
      · obtain ⟨zeros, significant, rfl, start⟩ := induction
        exact ⟨zeros + 1, significant, by rw [zero]; rfl, start⟩
      · exact ⟨0, digit :: digits, rfl, by simpa using zero⟩

theorem digits_ofDigits_significant (proper : 1 < base) (start : significant.head? ≠ some 0)
    (below : ∀ digit ∈ significant, digit < base) :
    (Nat.digits base (Nat.ofDigits base significant.reverse)).reverse = significant := by
  rw [Nat.digits_ofDigits base proper, List.reverse_reverse]
  · intro digit member
    exact below digit (List.mem_reverse.mp member)
  · intro present zero
    apply start
    rw [List.head?_eq_some_head (mt List.reverse_eq_nil_iff.mpr present), ← zero, List.getLast_reverse]

theorem head?_digits_reverse (base value : Nat) : (Nat.digits base value).reverse.head? ≠ some 0 := by
  intro first
  rw [List.head?_reverse] at first
  by_cases zero : value = 0
  · simp [zero] at first
  · have present : Nat.digits base value ≠ [] := Nat.digits_ne_nil_iff_ne_zero.mpr zero
    rw [List.getLast?_eq_some_getLast present] at first
    exact Nat.getLast_digit_ne_zero base zero (Option.some.inj first)

theorem changeBase_significant (proper : 1 < toBase) (zeros : Nat)
    (start : significant.head? ≠ some 0) :
    changeBase fromBase toBase (List.replicate zeros 0 ++ significant) =
      List.replicate zeros 0 ++
        (Nat.digits toBase (Nat.ofDigits fromBase significant.reverse)).reverse := by
  have front : (List.replicate zeros 0 ++ significant).takeWhile (fun digit => digit = 0) =
      List.replicate zeros 0 := by
    cases significant with
    | nil => simp
    | cons digit digits =>
        have other : digit ≠ 0 := by simpa using start
        rw [List.takeWhile_append_of_pos (by simp), List.takeWhile_cons_of_neg (by simpa using other),
          List.append_nil]
  have value : natOfDigits fromBase (List.replicate zeros 0 ++ significant) =
      Nat.ofDigits fromBase significant.reverse := by
    rw [natOfDigits_eq, List.reverse_append, List.reverse_replicate,
      Nat.ofDigits_append_replicate_zero]
  rw [changeBase, front, value, digitsLittle_eq proper]

/-- Without a zero at the front nothing is carried over. -/
theorem changeBase_of_leading (proper : 1 < toBase) (start : digits.head? ≠ some 0) :
    changeBase fromBase toBase digits =
      (Nat.digits toBase (natOfDigits fromBase digits)).reverse := by
  rw [natOfDigits_eq]
  exact changeBase_significant proper 0 start

theorem changeBase_changeBase (fromProper : 1 < fromBase) (toProper : 1 < toBase)
    (below : ∀ digit ∈ digits, digit < fromBase) :
    changeBase toBase fromBase (changeBase fromBase toBase digits) = digits := by
  obtain ⟨zeros, significant, rfl, start⟩ := exists_significant digits
  have significantBelow : ∀ digit ∈ significant, digit < fromBase := fun digit member =>
    below digit (List.mem_append_right _ member)
  rw [changeBase_significant toProper zeros start,
    changeBase_significant fromProper zeros (head?_digits_reverse _ _), List.reverse_reverse,
    Nat.ofDigits_digits, digits_ofDigits_significant fromProper start significantBelow]

theorem lt_of_mem_changeBase (proper : 1 < toBase) :
    ∀ digit ∈ changeBase fromBase toBase digits, digit < toBase := by
  intro digit member
  obtain ⟨zeros, significant, rfl, start⟩ := exists_significant digits
  rw [changeBase_significant proper zeros start] at member
  rcases List.mem_append.mp member with zero | later
  · rw [List.eq_of_mem_replicate zero]
    omega
  · exact Nat.digits_lt_base proper (List.mem_reverse.mp later)

/-- Where the leading digits of a number stand for `high`, the others are of the known count. -/
theorem digits_reverse_leading {count low high : Nat} (proper : 1 < base) (positive : 0 < high)
    (below : low < base ^ count) : ∃ others, others.length = count ∧
      (Nat.digits base (low + base ^ count * high)).reverse =
        (Nat.digits base high).reverse ++ others := by
  have short : (Nat.digits base low).length ≤ count :=
    (Nat.digits_length_le_iff proper low).mpr below
  have joined := Nat.digits_append_zeroes_append_digits (b := base)
    (k := count - (Nat.digits base low).length) (m := high) (n := low) proper positive
  rw [Nat.add_sub_cancel' short] at joined
  refine ⟨(Nat.digits base low ++
    List.replicate (count - (Nat.digits base low).length) 0).reverse, ?_, ?_⟩
  · rw [List.length_reverse, List.length_append, List.length_replicate, Nat.add_sub_cancel' short]
  · rw [← joined, List.reverse_append]

namespace Radix

/-- Every digit is read from its symbol. -/
def Faithful (radix : Radix) : Prop :=
  ∀ digit < radix.base, radix.value? (radix.symbols.getD digit '0') = some digit

instance (radix : Radix) : Decidable radix.Faithful :=
  inferInstanceAs (Decidable (∀ digit < radix.base, _))

theorem mem_encode {radix : Radix} (proper : 1 < radix.base) {bytes : Bytes} {char : Char}
    (member : char ∈ radix.encode bytes) :
    ∃ digit < radix.base, radix.symbols.getD digit '0' = char := by
  obtain ⟨digit, written, rfl⟩ := List.mem_map.mp member
  exact ⟨digit, lt_of_mem_changeBase proper digit written, rfl⟩

theorem Faithful.decode?_encode {radix : Radix} (faithful : radix.Faithful)
    (proper : 1 < radix.base) (bytes : Bytes) : radix.decode? (radix.encode bytes) = some bytes := by
  have digits : (radix.encode bytes).mapM radix.value? =
      some (changeBase 256 radix.base (bytes.map UInt8.toNat)) :=
    Text.mapM_written fun digit written =>
      faithful digit (lt_of_mem_changeBase proper digit written)
  rw [decode?, digits]
  simp only [Option.bind_eq_bind, Option.bind_some,
    changeBase_changeBase (by decide : 1 < 256) proper lt_of_mem_bytes, List.map_map]
  rw [show UInt8.ofNat ∘ UInt8.toNat = id from funext fun _ => UInt8.ofNat_toNat, List.map_id]
  rfl

end Radix

end SealedContent.Encoding
