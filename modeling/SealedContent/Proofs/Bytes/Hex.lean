import Mathlib.Data.List.Basic
import SealedContent.Bytes.Hex
import SealedContent.Proofs.Text.Blank

/-!
Hexadecimal text reads back, so texts differ where the bytes do, and it has no white space.
-/

namespace SealedContent.Bytes

theorem hexValue?_hexDigit : ∀ value < 16, hexValue? (hexDigit value) = some value := by decide

theorem ofHexDigits?_hexDigits (done bytes : Bytes) :
    ofHexDigits? done (hexDigits bytes) = some (done.reverse ++ bytes) := by
  induction bytes generalizing done with
  | nil => simp [hexDigits, ofHexDigits?]
  | cons byte rest induction =>
      have bounded := byte.toNat_lt
      have high := hexValue?_hexDigit (byte.toNat / 16) (by omega)
      have low := hexValue?_hexDigit (byte.toNat % 16) (by omega)
      have joined : UInt8.ofNat (16 * (byte.toNat / 16) + byte.toNat % 16) = byte := by
        rw [Nat.div_add_mod, UInt8.ofNat_toNat]
      have digits : hexDigits (byte :: rest) =
          hexDigit (byte.toNat / 16) :: hexDigit (byte.toNat % 16) :: hexDigits rest := rfl
      rw [digits, ofHexDigits?, high, low]
      dsimp only
      rw [joined, induction, List.reverse_cons, List.append_assoc, List.singleton_append]

theorem ofHex?_toHex (bytes : Bytes) : ofHex? (toHex bytes) = some bytes := by
  rw [ofHex?, toHex, String.toList_ofList]
  exact ofHexDigits?_hexDigits [] bytes

theorem toHex_injective {left right : Bytes} (same : toHex left = toHex right) : left = right := by
  have read := ofHex?_toHex left
  rw [same, ofHex?_toHex] at read
  exact (Option.some.inj read).symm

theorem hexDigit_visible : ∀ value < 16, Text.isBlank (hexDigit value) = false := by decide

theorem toHex_not_blank {bytes : Bytes} (present : bytes ≠ []) :
    Text.onlyBlank (toHex bytes) = false := by
  apply Text.onlyBlank_of_visible
  · intro empty
    have none : toHex [] = "" := by decide
    exact present (toHex_injective (empty.trans none.symm))
  · intro char member
    rw [toHex, String.toList_ofList] at member
    obtain ⟨byte, -, digit⟩ := List.mem_flatMap.mp member
    have bounded := byte.toNat_lt
    rcases List.mem_pair.mp digit with rfl | rfl
    · exact hexDigit_visible _ (by omega)
    · exact hexDigit_visible _ (by omega)

end SealedContent.Bytes
