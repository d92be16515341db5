import SealedContent.Hash.Sha256
import SealedContent.Proofs.Bytes.Pieces
import SealedContent.Proofs.Bytes.Positional

/-!
SHA-256 of data that is absorbed in pieces is SHA-256 of the whole message. What that is gets said without
a hasher: the message and its padding are a row of blocks, and the blocks are compressed one after another.
The padding ends in the number of bits in eight bytes, so a message has fewer than `2 ^ 61` bytes.
-/

namespace SealedContent.Hash

/-- What stands behind a message of so many bytes: a one bit, the zeros that fill up the last block, and
the number of bits. -/
def IsPadding (length : Nat) (padding : Bytes) : Prop :=
  ∃ zeros < 64, ∃ bits : Bytes, bits.length = 8 ∧ Bytes.bigEndian bits = 8 * length ∧
    padding = 0x80 :: List.replicate zeros 0 ++ bits ∧ 64 ∣ length + padding.length

def IsSha256 (message digest : Bytes) : Prop :=
  ∃ (padding : Bytes) (blocks : List Bytes), IsPadding message.length padding ∧
    (∀ block ∈ blocks, block.length = 64) ∧ blocks.flatten = message ++ padding ∧
      digest = (blocks.foldl Sha256.compress Words256.initial).toBytes

/-- The zeros are fewer than a block has bytes, so there is one padding only. -/
theorem isPadding_iff {length : Nat} (bounded : length < 2 ^ 61) (padding : Bytes) :
    IsPadding length padding ↔ padding = Sha256Hasher.padding length := by
  constructor
  · rintro ⟨zeros, few, bits, width, count, rfl, whole⟩
    simp only [List.length_append, List.length_cons, List.length_replicate, width] at whole
    have zeros_eq : zeros = (119 - length % 64) % 64 := by omega
    have bits_eq := Bytes.ofNatBig_bigEndian bits
    rw [width, count] at bits_eq
    rw [Sha256Hasher.padding, zeros_eq, bits_eq]
  · rintro rfl
    refine ⟨(119 - length % 64) % 64, Nat.mod_lt _ (by decide), Bytes.ofNatBig 8 (8 * length),
      Bytes.length_ofNatBig 8 _, Bytes.bigEndian_ofNatBig ?_, rfl, ?_⟩
    · norm_num
      omega
    · simp only [Sha256Hasher.padding, List.length_append, List.length_cons, List.length_replicate,
        Bytes.length_ofNatBig]
      omega

namespace Sha256Hasher

theorem update_append (hasher : Sha256Hasher) (first second : Bytes) :
    (hasher.update first).update second = hasher.update (first ++ second) := by
  have fed := Bytes.foldPieces_append 64 Sha256.compress hasher.chain (hasher.pending ++ first) second
  simp only [update, List.length_append, ← List.append_assoc, fed, Nat.add_assoc]

end Sha256Hasher

theorem sha256_eq (message : Bytes) :
    sha256 message = (Bytes.foldPieces 64 Sha256.compress Words256.initial
      (message ++ Sha256Hasher.padding message.length)).1.toBytes := by
  have absorbed : (Sha256Hasher.empty.update message).absorbed = message.length := Nat.zero_add _
  rw [sha256, Sha256Hasher.digest, absorbed, Sha256Hasher.update_append]
  rfl

theorem isSha256_iff {message : Bytes} (bounded : message.length < 2 ^ 61) (digest : Bytes) :
    IsSha256 message digest ↔ digest = sha256 message := by
  constructor
  · rintro ⟨padding, blocks, padded, whole, joined, rfl⟩
    rw [(isPadding_iff bounded padding).mp padded] at joined
    rw [sha256_eq, ← joined, Bytes.foldPieces_flatten (by decide) _ _ whole]
  · rintro rfl
    have padded := (isPadding_iff bounded (Sha256Hasher.padding message.length)).mpr rfl
    have multiple : 64 ∣ (message ++ Sha256Hasher.padding message.length).length := by
      obtain ⟨-, -, -, -, -, -, multiple⟩ := padded
      rwa [List.length_append]
    obtain ⟨blocks, whole, joined⟩ := Bytes.exists_whole_pieces _ multiple
    refine ⟨_, blocks, padded, whole, joined, ?_⟩
    rw [sha256_eq, ← joined, Bytes.foldPieces_flatten (by decide) _ _ whole]

end SealedContent.Hash
