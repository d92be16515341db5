import SealedContent.Encoding.Multibase
import SealedContent.Proofs.Encoding.Positional
import SealedContent.Text.Blank

/-!
The two self-describing texts that are written: base 32 in small letters with its code, and base 58
without one. Both read back, and their symbols are plain, visible and no separators of a path.
-/

namespace SealedContent.Encoding.Multibase

/-- A character that nothing cuts off a text or splits a text at. -/
def IsSolid (char : Char) : Prop :=
  Text.isBlank char = false ∧ char ≠ '/' ∧ char.toNat < 128

instance (char : Char) : Decidable (IsSolid char) :=
  inferInstanceAs (Decidable (_ ∧ _ ∧ _))

theorem base32_faithful : base32.Faithful := by
  decide

theorem base58_faithful : base58.Faithful := by
  decide

theorem base32_symbol : ∀ value < 32, IsSolid (base32.symbol value) := by
  decide

theorem base58_symbol : ∀ value < 58, IsSolid (base58.symbols.getD value '0') := by
  decide

theorem encodeBase32_solid (bytes : Bytes) : ∀ char ∈ encodeBase32 bytes, IsSolid char := by
  intro char member
  rcases List.mem_cons.mp member with rfl | symbol
  · decide
  · obtain ⟨value, grouped, rfl⟩ := List.mem_map.mp symbol
    exact base32_symbol value (lt_of_mem_bitGroups value grouped)

theorem base58_solid (bytes : Bytes) : ∀ char ∈ base58.encode bytes, IsSolid char := by
  intro char member
  obtain ⟨digit, bounded, rfl⟩ := Radix.mem_encode (by decide) member
  exact base58_symbol digit bounded

theorem encodeBase32_alphanumeric (bytes : Bytes) :
    ∀ char ∈ encodeBase32 bytes, char.isAlphanum = true := by
  intro char member
  rcases List.mem_cons.mp member with rfl | symbol
  · rfl
  · obtain ⟨value, grouped, rfl⟩ := List.mem_map.mp symbol
    exact (by decide : ∀ value < 32, (base32.symbol value).isAlphanum = true) value
      (lt_of_mem_bitGroups value grouped)

theorem base58_alphanumeric (bytes : Bytes) :
    ∀ char ∈ base58.encode bytes, char.isAlphanum = true := by
  intro char member
  obtain ⟨digit, bounded, rfl⟩ := Radix.mem_encode (by decide) member
  exact (by decide : ∀ value < 58, (base58.symbols.getD value '0').isAlphanum = true) digit bounded

theorem decode?_encodeBase32 (bytes : Bytes) : decode? (encodeBase32 bytes) = some bytes :=
  base32_faithful.decodeSymbols?_symbols (by decide) (by decide) bytes

theorem decode?_base58 (bytes : Bytes) : base58.decode? (base58.encode bytes) = some bytes :=
  base58_faithful.decode?_encode (by decide) bytes

/-- Bytes have symbols after the code. -/
theorem length_encodeBase32 {bytes : Bytes} (present : bytes ≠ []) :
    2 ≤ (encodeBase32 bytes).length := by
  have symbols : base32.encode bytes ≠ [] := by
    intro nothing
    have read := base32_faithful.decodeSymbols?_symbols (by decide) (by decide) bytes
    change base32.decodeSymbols? (base32.encode bytes) = some bytes at read
    rw [nothing] at read
    exact present (Option.some.inj read).symm
  have positive := List.length_pos_of_ne_nil symbols
  rw [encodeBase32, List.length_cons]
  omega

end SealedContent.Encoding.Multibase
