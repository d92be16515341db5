import Mathlib.Data.Nat.Digits.Defs

/-!
Decimal text of natural numbers: digits only, which fold to the number, the first of them zero for zero
only.
-/

namespace SealedContent.Text

theorem toList_toString (value : Nat) : (toString value).toList = Nat.toDigits 10 value := by
  change (Nat.repr value).toList = _
  rw [Nat.repr_eq_ofList_toDigits, String.toList_ofList]

theorem isDigit_decimal (value : Nat) : ∀ char ∈ Nat.toDigits 10 value, char.isDigit = true :=
  fun _ member => Nat.isDigit_of_mem_toDigits (by decide) (by decide) member

theorem foldl_decimal (value : Nat) :
    (Nat.toDigits 10 value).foldl (fun value digit => value * 10 + (digit.toNat - 48)) 0 = value := by
  have read : Nat.ofDigitChars 10 (Nat.toDigits 10 value) 0 = value :=
    Nat.ofDigitChars_ten_toDigits
  simp only [Nat.ofDigitChars, mul_comm 10] at read
  exact read

theorem digitChar_lead : ∀ digit < 10, digit = 0 ∨ Nat.digitChar digit ≠ '0' := by
  decide

theorem decimal_lead {value : Nat} (positive : value ≠ 0) (rest : List Char) :
    Nat.toDigits 10 value ≠ '0' :: rest := by
  -- All digits but the last are those of the tenth part.
  induction value using Nat.strongRecOn generalizing rest with
  | ind value induction =>
      intro same
      by_cases single : value < 10
      · rw [Nat.toDigits_of_lt_base single] at same
        rcases digitChar_lead value single with zero | lead
        · exact positive zero
        · exact lead (List.cons.inj same).1
      · rw [Nat.toDigits_of_base_le (by decide) (by omega)] at same
        rcases List.append_eq_cons_iff.mp same with ⟨empty, -⟩ | ⟨others, tenth, -⟩
        · exact Nat.toDigits_ne_nil empty
        · exact induction (value / 10) (by omega) (by omega) others tenth

/-- The first digit, and what it is not. -/
theorem exists_decimal_lead (value : Nat) : ∃ first more, Nat.toDigits 10 value = first :: more ∧
    (value ≠ 0 → first ≠ '0') ∧ ∀ other : Char, other.isDigit = false → first ≠ other := by
  obtain ⟨first, more, digits⟩ :=
    List.exists_cons_of_ne_nil (Nat.toDigits_ne_nil (n := value) (b := 10))
  refine ⟨first, more, digits, ?_, ?_⟩
  · rintro positive rfl
    exact decimal_lead positive more digits
  · rintro other figure rfl
    rw [isDigit_decimal value first (by rw [digits]; exact List.mem_cons_self)] at figure
    cases figure

end SealedContent.Text
