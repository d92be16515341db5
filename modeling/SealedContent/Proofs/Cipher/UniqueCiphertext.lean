import SealedContent.Proofs.Cipher.OpenedForm
import SealedContent.Proofs.Cipher.RoundTrip

/-!
The ciphertexts that block chaining accepts. The check of the padding leaves one final block for each
rest of the data, so what opens to some data is the sealed form of that data, and nothing else is.
-/

namespace SealedContent.Cipher

namespace Chaining

variable {permutation : BlockPermutation} {iv : Block} {data body : Bytes}

/-- The number of the added bytes is told by the length of what they complete. -/
theorem padsTo_iff_of_blocks {whole : Bytes} (blocks : whole.length % 16 = 0) :
    PadsTo body whole ↔ whole = padded body := by
  constructor
  · rintro ⟨count, some, most, rfl⟩
    rw [List.length_append, List.length_replicate] at blocks
    have missing : 16 - body.length % 16 = count := by omega
    rw [padded, missing]
  · rintro rfl
    exact ⟨16 - body.length % 16, by omega, by omega, rfl⟩

theorem sealData_of_openData (whole : data.length % 16 = 0)
    (opened : openData permutation.decrypt iv data = padded body) :
    sealData permutation.encrypt iv body = data := by
  obtain ⟨blocks, rest, rfl, short⟩ := Block.exists_blocks data
  rw [List.length_append, Block.length_join] at whole
  have complete : rest = [] := List.eq_nil_of_length_eq_zero (by omega)
  subst complete
  rw [List.append_nil] at opened ⊢
  have cut := Block.split_join (decryptBlocks permutation.decrypt iv blocks) Block.nil_short
  rw [List.append_nil, ← openData_join, opened] at cut
  rw [sealData_eq_join, cut, encryptBlocks_decryptBlocks]

end Chaining

namespace ChainDecryptor

open Chaining

variable {permutation : BlockPermutation} {iv : Block} {chunks : List Bytes} {body : Bytes}

theorem sealed_of_collect
    (collected : collect (chainDecryptStage.run ⟨permutation.decrypt, iv, [], 0⟩ (chunks.map .ok)) =
      .ok body) : chunks.flatten = sealData permutation.encrypt iv body := by
  by_cases incomplete : chunks.flatten = [] ∨ chunks.flatten.length % 16 ≠ 0
  · rw [collect_incomplete _ _ incomplete] at collected
    cases collected
  · rw [not_or, not_not] at incomplete
    obtain ⟨some, whole⟩ := incomplete
    obtain ⟨accepted, refused⟩ := collect_whole permutation.decrypt iv some whole
    have size : (openData permutation.decrypt iv chunks.flatten).length % 16 = 0 := by
      rw [length_openData]
      omega
    by_cases padding : ∃ found, PadsTo found (openData permutation.decrypt iv chunks.flatten)
    · obtain ⟨found, pads⟩ := padding
      cases (accepted found pads).symm.trans collected
      exact (sealData_of_openData whole ((padsTo_iff_of_blocks size).mp pads)).symm
    · cases (refused (not_exists.mp padding)).symm.trans collected

theorem collect_eq_ok_iff :
    collect (chainDecryptStage.run ⟨permutation.decrypt, iv, [], 0⟩ (chunks.map .ok)) = .ok body ↔
      chunks.flatten = sealData permutation.encrypt iv body := by
  refine ⟨sealed_of_collect, fun sealedForm => ?_⟩
  rw [sealData_eq_join] at sealedForm
  exact collect_sealed permutation iv body sealedForm

end ChainDecryptor

theorem ChainEncryptor.collect_eq_ok_iff {encrypt : Block → Block} {iv : Block} {plain : List Bytes}
    {ciphertext : Bytes} :
    collect (chainEncryptStage.run ⟨encrypt, iv, []⟩ (plain.map .ok)) = .ok ciphertext ↔
      ciphertext = Chaining.sealData encrypt iv plain.flatten := by
  rw [collect_run, ← Chaining.sealData_eq_join, Except.ok.injEq, eq_comm]

/-- Decryption in block chaining accepts exactly what encryption under the same keys makes, however
either side is cut. So each plaintext has one ciphertext that is accepted for it, and no two accepted
ciphertexts share their plaintext. -/
theorem accepted_iff_sealed (cipher : BlockCipher) (material : KeyMaterial) :
    let sealing (plain : List Bytes) :=
      collect (encryptStream cipher .aesCbc material (plain.map .ok))
    let opening (chunks : List Bytes) :=
      collect (decryptStream cipher .aesCbc material (chunks.map .ok))
    (∀ chunks plain : List Bytes,
      opening chunks = .ok plain.flatten ↔ sealing plain = .ok chunks.flatten) ∧
    (∀ body : Bytes, ∃! ciphertext : Bytes, ∀ chunks : List Bytes,
      chunks.flatten = ciphertext ↔ opening chunks = .ok body) ∧
    ∀ (left right : List Bytes) (body : Bytes), opening left = .ok body →
      opening right = .ok body → left.flatten = right.flatten := by
  intro sealing opening
  let encrypt := (cipher material.key).encrypt
  let iv := material.iv.bytes
  have opens : ∀ chunks body, opening chunks = .ok body ↔
      chunks.flatten = Chaining.sealData encrypt iv body :=
    fun chunks body => ChainDecryptor.collect_eq_ok_iff
  refine ⟨?_, ?_, ?_⟩
  · intro chunks plain
    exact (opens chunks plain.flatten).trans ChainEncryptor.collect_eq_ok_iff.symm
  · intro body
    refine ⟨Chaining.sealData encrypt iv body, fun chunks => (opens chunks body).symm, ?_⟩
    intro other accepted
    have alone := (accepted [other]).mp List.flatten_singleton
    rwa [opens, List.flatten_singleton] at alone
  · intro left right body leftOpens rightOpens
    exact ((opens left body).mp leftOpens).trans ((opens right body).mp rightOpens).symm

end SealedContent.Cipher
