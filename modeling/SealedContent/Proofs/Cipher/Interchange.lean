import SealedContent.Proofs.Cipher.UniqueCiphertext

/-!
A ciphertext read with the other algorithm than it was made with. Counter mode keeps the length and
block chaining always adds to it, so neither algorithm gives back what the other was given, whatever
the keys are and wherever the chunks are cut.
-/

namespace SealedContent.Cipher

theorem Keystream.length_of_collect {encrypt : Block → Block} {base : Counter} {chunks : List Bytes}
    {result : Bytes}
    (collected : collect (keystreamStage.run (start encrypt base) (chunks.map .ok)) = .ok result) :
    result.length = chunks.flatten.length := by
  rw [collect_start] at collected
  split at collected
  · cases collected
    exact length_maskFrom encrypt base 0 chunks.flatten
  · cases collected

theorem Chaining.length_lt_sealData (encrypt : Block → Block) (iv : Block) (data : Bytes) :
    data.length < (sealData encrypt iv data).length := by
  rw [length_sealData]
  omega

/-- What block chaining makes comes out of counter mode longer than the plaintext, if it comes out at
all; what counter mode makes comes out of block chaining shorter, or is refused. So reading with the
wrong algorithm never gives the plaintext, not even under the keys it was encrypted with. -/
theorem never_read_as_other (cipher : BlockCipher) (sealing opening : KeyMaterial)
    (plain chunks : List Bytes) :
    let made (algorithm : CipherAlgorithm) :=
      collect (encryptStream cipher algorithm sealing (plain.map .ok))
    let read (algorithm : CipherAlgorithm) :=
      collect (decryptStream cipher algorithm opening (chunks.map .ok))
    let size := plain.flatten.length
    (made .aesCbc = .ok chunks.flatten →
      read .aesCtr ≠ .ok plain.flatten ∧
      ∀ result, read .aesCtr = .ok result →
        result.length = 16 * (size / 16 + 1) ∧ size < result.length) ∧
    (made .aesCtr = .ok chunks.flatten →
      read .aesCbc ≠ .ok plain.flatten ∧
      ∀ result, read .aesCbc = .ok result →
        size = 16 * (result.length / 16 + 1) ∧ result.length < size) := by
  intro made read size
  constructor
  · intro chained
    have sealedForm := ChainEncryptor.collect_eq_ok_iff.mp chained
    have law : ∀ result, read .aesCtr = .ok result →
        result.length = 16 * (size / 16 + 1) ∧ size < result.length := by
      intro result collected
      rw [Keystream.length_of_collect collected, sealedForm]
      exact ⟨Chaining.length_sealData _ _ _, Chaining.length_lt_sealData _ _ _⟩
    exact ⟨fun same => absurd (law _ same).2 (lt_irrefl size), law⟩
  · intro masked
    have kept : chunks.flatten.length = size := Keystream.length_of_collect masked
    have law : ∀ result, read .aesCbc = .ok result →
        size = 16 * (result.length / 16 + 1) ∧ result.length < size := by
      intro result collected
      rw [← kept, ChainDecryptor.sealed_of_collect collected]
      exact ⟨Chaining.length_sealData _ _ _, Chaining.length_lt_sealData _ _ _⟩
    exact ⟨fun same => absurd (law _ same).2 (lt_irrefl size), law⟩

end SealedContent.Cipher
