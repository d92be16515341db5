import SealedContent.Proofs.Bytes.Text
import SealedContent.Web.Percent

/-!
Percent encoding leaves nothing to encode: what it writes instead of a character is a percent sign and
digits, which stand for themselves in every part of an address. A text without percent signs is decoded
as its own bytes.
-/

namespace SealedContent.Web.Percent

variable {isEncoded : Char → Bool} {text : List Char}

theorem encode_plain (plain : ∀ char ∈ text, isEncoded char = false) :
    encode isEncoded text = text := by
  induction text with
  | nil => rfl
  | cons char rest induction =>
      rw [List.forall_mem_cons] at plain
      rw [encode, List.flatMap_cons, plain.1, ← encode, induction plain.2]
      rfl

/-- The characters that encoding itself writes: a percent sign or an upper-case digit. -/
def IsMark (char : Char) : Prop :=
  char = '%' ∨ ∃ value < 16, char = upperDigit value

theorem IsMark.of_decide {test : Char → Bool} (percent : test '%' = false)
    (digits : ∀ value < 16, test (upperDigit value) = false) {char : Char} (mark : IsMark char) :
    test char = false := by
  rcases mark with rfl | ⟨value, bounded, rfl⟩
  · exact percent
  · exact digits value bounded

theorem mem_encode {char : Char} (member : char ∈ encode isEncoded text) :
    IsMark char ∨ (char ∈ text ∧ isEncoded char = false) := by
  obtain ⟨source, found, written⟩ := List.mem_flatMap.mp member
  split at written
  case isFalse kept =>
    rw [List.mem_singleton.mp written]
    exact .inr ⟨found, Bool.eq_false_iff.mpr kept⟩
  case isTrue =>
    obtain ⟨byte, -, digit⟩ := List.mem_flatMap.mp written
    have bounded := byte.toNat_lt
    simp only [encodeByte, List.mem_cons, List.not_mem_nil, or_false] at digit
    rcases digit with rfl | rfl | rfl
    · exact .inl (.inl rfl)
    · exact .inl (.inr ⟨_, by omega, rfl⟩)
    · exact .inl (.inr ⟨_, by omega, rfl⟩)

/-- Encoding twice is encoding once. -/
theorem clear_encode (percent : isEncoded '%' = false)
    (digits : ∀ value < 16, isEncoded (upperDigit value) = false) :
    ∀ char ∈ encode isEncoded text, isEncoded char = false := fun _ member =>
  (mem_encode member).elim (IsMark.of_decide percent digits) And.right

theorem decode_plain (plain : ∀ char ∈ text, char ≠ '%') :
    decode text = Bytes.ofText (String.ofList text) := by
  induction text with
  | nil => rw [decode]; rfl
  | cons char rest induction =>
      rw [List.forall_mem_cons] at plain
      have parts : Bytes.ofText (String.ofList (char :: rest)) =
          Bytes.ofText (String.singleton char) ++ Bytes.ofText (String.ofList rest) := by
        simp [Bytes.ofText, List.utf8Encode]
      rw [decode, induction plain.2, parts]
      rintro high low others rfl
      exact absurd rfl plain.1

end SealedContent.Web.Percent
