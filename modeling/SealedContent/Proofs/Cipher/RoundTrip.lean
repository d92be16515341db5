import SealedContent.Proofs.Cipher.Chaining
import SealedContent.Proofs.Cipher.CounterMode

/-!
Encrypted streams decrypt to what was encrypted, however the plaintext and the ciphertext are cut
into chunks. Only counter mode can refuse to encrypt, when the data needs more blocks than there are.
-/

namespace SealedContent.Cipher

namespace ChainDecryptor

open Chaining

theorem finish_sealed (permutation : BlockPermutation) (previous last : Block) {tail : Bytes}
    (last_eq : last.toList = pad tail) (short : tail.length < 16) (total : Nat) :
    finish ⟨permutation.decrypt, previous, (permutation.encrypt (previous.xor last)).toList, total⟩ =
      .ok tail := by
  have opened :
      (permutation.decrypt (permutation.encrypt (previous.xor last))).xor previous = last := by
    rw [permutation.decrypt_encrypt, Block.xor_comm previous last, Block.xor_xor_cancel]
  simp only [finish, Block.ofBytes?_toList, opened, last_eq, unpad?_pad short]

theorem collect_sealed (permutation : BlockPermutation) (iv : Block) (data : Bytes)
    {chunks : List Bytes}
    (joined : chunks.flatten = Block.join
      (encryptBlocks permutation.encrypt iv (Block.split (padded data)).1)) :
    collect (chainDecryptStage.run ⟨permutation.decrypt, iv, [], 0⟩ (chunks.map .ok)) = .ok data := by
  obtain ⟨blocks, tail, rfl, short⟩ := Block.exists_blocks data
  obtain ⟨last, last_eq, cut⟩ := split_padded blocks short
  let sealedBlocks := encryptBlocks permutation.encrypt iv blocks
  let held := permutation.encrypt ((lastOr iv sealedBlocks).xor last)
  have parts : chunks.flatten = Block.join sealedBlocks ++ held.toList := by
    rw [joined, cut, encryptBlocks_append, Block.join_append]
    exact congrArg (Block.join sealedBlocks ++ ·) (Block.join_singleton held)
  have size : held.toList.length = 16 := Vector.length_toList
  have some : held.toList ≠ [] := List.ne_nil_of_length_pos (by rw [size]; decide)
  have released := release_join sealedBlocks some (Nat.le_of_eq size)
  rw [collect_run, parts, released]
  simp only [held, sealedBlocks, finish_sealed permutation _ last last_eq short,
    decryptBlocks_encryptBlocks]
  rfl

end ChainDecryptor

/-- Whatever an encrypted stream comes to decrypts to the data, however it is cut. -/
theorem collect_decryptStream {cipher : BlockCipher} {algorithm : CipherAlgorithm}
    {material : KeyMaterial} {plain chunks : List Bytes} {ciphertext : Bytes}
    (encrypted : collect (encryptStream cipher algorithm material (plain.map .ok)) = .ok ciphertext)
    (joined : chunks.flatten = ciphertext) :
    collect (decryptStream cipher algorithm material (chunks.map .ok)) = .ok plain.flatten := by
  cases algorithm with
  | aesCtr =>
      let base : Counter := ⟨material.iv.bytes⟩
      let encrypt := (cipher material.key).encrypt
      have encrypted_eq := Keystream.collect_start encrypt base plain
      by_cases fits : plain.flatten.length ≤ 16 * Keystream.limit base
      · rw [if_pos fits] at encrypted_eq
        have same := Except.ok.inj (encrypted.symm.trans encrypted_eq)
        have decrypted := Keystream.collect_start encrypt base chunks
        rw [joined, same, Keystream.length_maskFrom, if_pos fits,
          Keystream.maskFrom_maskFrom] at decrypted
        exact decrypted
      · rw [if_neg fits] at encrypted_eq
        cases encrypted.symm.trans encrypted_eq
  | aesCbc =>
      have encrypted_eq := ChainEncryptor.collect_run (cipher material.key).encrypt material.iv.bytes
        plain
      have same := Except.ok.inj (encrypted.symm.trans encrypted_eq)
      exact ChainDecryptor.collect_sealed (cipher material.key) material.iv.bytes plain.flatten
        (joined.trans same)

/-- For both algorithms and every two ways of cutting: encryption fails only in counter mode, exactly
when the blocks of the data exceed what counter and block count allow, and whatever it yields
decrypts to the data. -/
theorem stream_round_trip (cipher : BlockCipher) (algorithm : CipherAlgorithm)
    (material : KeyMaterial) (plain : List Bytes) :
    let blocks := (plain.flatten.length + 15) / 16
    let encrypted := collect (encryptStream cipher algorithm material (plain.map .ok))
    ((∃ failure, encrypted = .error failure) ↔
      algorithm = .aesCtr ∧
        (2 ^ 128 - Bytes.bigEndian material.iv.bytes.toList < blocks ∨ 2 ^ 64 - 1 < blocks)) ∧
    ∀ (ciphertext : Bytes) (chunks : List Bytes), encrypted = .ok ciphertext →
      chunks.flatten = ciphertext →
        collect (decryptStream cipher algorithm material (chunks.map .ok)) = .ok plain.flatten := by
  intro blocks encrypted
  refine ⟨?_, fun ciphertext chunks yielded joined => collect_decryptStream yielded joined⟩
  cases algorithm with
  | aesCtr =>
      let base : Counter := ⟨material.iv.bytes⟩
      have encrypted_eq := Keystream.collect_start (cipher material.key).encrypt base plain
      have enough : plain.flatten.length ≤ 16 * Keystream.limit base ↔
          ¬ (2 ^ 128 - base.value < blocks ∨ 2 ^ 64 - 1 < blocks) := by
        rw [not_or, not_lt, not_lt, ← Nat.le_min, ← Keystream.limit]
        omega
      constructor
      · rintro ⟨failure, failed⟩
        refine ⟨rfl, ?_⟩
        by_contra fits
        rw [if_pos (enough.mpr fits)] at encrypted_eq
        cases failed.symm.trans encrypted_eq
      · rintro ⟨-, beyond⟩
        rw [if_neg fun fits => enough.mp fits beyond] at encrypted_eq
        exact ⟨_, encrypted_eq⟩
  | aesCbc =>
      have encrypted_eq := ChainEncryptor.collect_run (cipher material.key).encrypt material.iv.bytes
        plain
      constructor
      · rintro ⟨failure, failed⟩
        cases failed.symm.trans encrypted_eq
      · rintro ⟨impossible, -⟩
        cases impossible

end SealedContent.Cipher
