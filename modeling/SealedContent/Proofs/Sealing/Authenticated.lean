import Mathlib.Data.List.Basic
import SealedContent.Sealing.Authenticated

/-!
What was encrypted under a key and a nonce decrypts under them, and the tag is all that it is longer.
-/

namespace SealedContent

theorem Bytes.mask_mask {data key : Bytes} (enough : data.length ≤ key.length) :
    mask (mask data key) key = data := by
  induction data generalizing key with
  | nil => rfl
  | cons byte data induction =>
      cases key with
      | nil => simp at enough
      | cons keyByte key =>
          have rest := induction (Nat.le_of_succ_le_succ enough)
          rw [mask] at rest
          rw [mask, mask, List.zipWith_cons_cons, List.zipWith_cons_cons]
          congr 1
          rw [UInt8.xor_assoc, UInt8.xor_self, UInt8.xor_zero]

namespace Sealing

namespace ChaCha

theorem length_block (key nonce : Bytes) (counter : Nat) : (block key nonce counter).length = 64 := by
  simp [block, List.length_flatMap]

theorem length_keystream (key nonce : Bytes) (counter length : Nat) :
    (keystream key nonce counter length).length = length := by
  have blocks : ((List.range ((length + 63) / 64)).flatMap fun index =>
      block key nonce (counter + index)).length = 64 * ((length + 63) / 64) := by
    simp [List.length_flatMap, length_block, Nat.mul_comm]
  rw [keystream, List.length_take, blocks]
  omega

theorem length_apply (key nonce : Bytes) (counter : Nat) (data : Bytes) :
    (apply key nonce counter data).length = data.length := by
  rw [apply, Bytes.length_mask, length_keystream, Nat.min_self]

theorem apply_apply (key nonce : Bytes) (counter : Nat) (data : Bytes) :
    apply key nonce counter (apply key nonce counter data) = data := by
  have enough := length_keystream key nonce counter data.length
  rw [apply, length_apply, apply, Bytes.mask_mask (Nat.le_of_eq enough.symm)]

end ChaCha

namespace Authenticated

theorem length_tag (key nonce ciphertext : Bytes) : (tag key nonce ciphertext).length = tagLength :=
  Bytes.length_ofNatLittle 16 _

theorem length_encrypt (key nonce plaintext : Bytes) :
    (encrypt key nonce plaintext).length = plaintext.length + tagLength := by
  rw [encrypt, List.length_append, ChaCha.length_apply, length_tag]

theorem decrypt?_encrypt (key nonce plaintext : Bytes) :
    decrypt? key nonce (encrypt key nonce plaintext) = some plaintext := by
  have ciphertext_length : (encrypt key nonce plaintext).length - tagLength =
      (ChaCha.apply key nonce 1 plaintext).length := by
    rw [length_encrypt, ChaCha.length_apply, Nat.add_sub_cancel]
  rw [decrypt?, ciphertext_length, encrypt, List.take_left, List.drop_left, if_pos, ChaCha.apply_apply]
  refine ⟨?_, rfl⟩
  rw [List.length_append, length_tag]
  exact Nat.le_add_left _ _

end Authenticated

end Sealing

end SealedContent
