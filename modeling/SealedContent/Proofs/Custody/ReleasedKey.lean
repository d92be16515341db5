import SealedContent.Custody.Threshold
import SealedContent.Proofs.Bytes.Hex
import SealedContent.Proofs.Custody.Call
import SealedContent.Proofs.Record.Root

/-!
What a threshold network can make of an unwrap, whatever it answers. Only bytes with the recorded hash
become a key, the hash is that of the key that was wrapped, and so no other key comes out unless two
keys of one hash are known.
-/

namespace SealedContent

namespace Cipher.KeyMaterial

theorem exists_combined {bytes : Bytes} (size : bytes.length = 48) :
    ∃ material : KeyMaterial, material.combined = bytes := by
  refine ⟨⟨⟨(bytes.take 32).toArray, by simp [size]⟩, ⟨(bytes.drop 32).toArray, by simp [size]⟩⟩, ?_⟩
  exact List.take_append_drop 32 bytes

theorem split_of_length_ne {bytes : Bytes} (other : bytes.length ≠ 48) :
    split bytes = .error (.invalidCombinedLength 48 bytes.length) :=
  if_neg other

theorem split_eq_ok_iff {bytes : Bytes} {material : KeyMaterial} :
    split bytes = .ok material ↔ material.combined = bytes := by
  constructor
  · intro divided
    by_cases size : bytes.length = 48
    · obtain ⟨same, rfl⟩ := exists_combined size
      rw [split_combined] at divided
      rw [Except.ok.inj divided]
    · cases (split_of_length_ne size).symm.trans divided
  · rintro rfl
    exact split_combined material

theorem combined_injective {left right : KeyMaterial} (same : left.combined = right.combined) :
    left = right := by
  have read := split_combined left
  rw [same, split_combined] at read
  exact (Except.ok.inj read).symm

end Cipher.KeyMaterial

namespace Custody.ThresholdNetwork

open Cipher (KeyMaterial)
open Content (Cid)
open Record (Metadata ThresholdRecord)
open Record.Metadata (Archived Collide extract)

variable {σ : Type}

theorem materialOf_eq_ok_iff {fields : ThresholdRecord} {combined : Bytes}
    {material : KeyMaterial} :
    materialOf fields combined = .ok material ↔
      keyHash combined = fields.keyHash ∧ material.combined = combined := by
  rw [materialOf, ← KeyMaterial.split_eq_ok_iff]
  split
  · rename_i hashed
    cases KeyMaterial.split combined <;> simp [Except.mapError, hashed]
  · rename_i differs
    simp [differs]

theorem materialOf_other_hash {fields : ThresholdRecord} {combined : Bytes}
    (differs : keyHash combined ≠ fields.keyHash) :
    materialOf fields combined = .error (.invalidResponse .keyHash) := by
  rw [materialOf, if_neg differs]

theorem materialOf_other_length {fields : ThresholdRecord} {combined : Bytes}
    (hashed : keyHash combined = fields.keyHash) (length : combined.length ≠ 48) :
    materialOf fields combined = .error (.cipher (.invalidCombinedLength 48 combined.length)) := by
  rw [materialOf, if_pos hashed, KeyMaterial.split_of_length_ne length]
  rfl

theorem keyHash_of_unwrap {suite : Suite} {network : ThresholdNetwork σ} {moment : Moment}
    {encryptedKey : String} {fields : ThresholdRecord} {requester : Requester} {state after : σ}
    {material : KeyMaterial}
    (unwrapped : network.unwrap suite moment encryptedKey (.threshold fields) requester state =
      (.ok material, after)) : keyHash material.combined = fields.keyHash := by
  cases authorized : requester.authority with
  | error error =>
      rw [unwrap, authorized] at unwrapped
      cases unwrapped
  | ok pair =>
      rw [unwrap_of_authority authorized, Prod.mk.injEq] at unwrapped
      obtain ⟨accepted, -⟩ := unwrapped
      cases released : (network.release (network.releaseRequest suite moment encryptedKey fields
          requester.proofs pair.1 pair.2) state).1 with
      | error error =>
          rw [released] at accepted
          cases accepted
      | ok combined =>
          rw [released] at accepted
          obtain ⟨hashed, rfl⟩ := materialOf_eq_ok_iff.mp accepted
          exact hashed

theorem exists_of_wrap {network : ThresholdNetwork σ} {material : KeyMaterial}
    {requester : Requester} {state after : σ} {wrapped : WrappedKey}
    (made : network.wrap material requester state = (.ok wrapped, after)) :
    ∃ ciphertext conditions, wrapped =
      ⟨.thresholdNetwork, .threshold (keyHash material.combined) conditions, ciphertext⟩ := by
  rw [wrap] at made
  split at made
  · cases made
  dsimp only at made
  split at made
  · cases made
  · cases made
    exact ⟨_, _, rfl⟩

/-- The record of a wrapped key still has the hash of that key after it was shipped and read. -/
theorem keyHash_of_extract {network : ThresholdNetwork σ} {material : KeyMaterial}
    {requester : Requester} {state after : σ} {wrapped : WrappedKey} {dataCid : Cid}
    {record read : Metadata} {archived : Archived}
    (made : network.wrap material requester state = (.ok wrapped, after))
    (recorded : wrapped.toMetadata dataCid = .ok record)
    (shipped : record.archive = .ok archived) (extracted : extract archived.bytes = .ok read) :
    ∃ fields, read = .threshold fields ∧ fields.keyHash = keyHash material.combined := by
  obtain ⟨ciphertext, conditions, rfl⟩ := exists_of_wrap made
  rw [Metadata.eq_of_extract_archive shipped extracted,
    WrappedKey.eq_record_of_toMetadata recorded]
  exact ⟨_, rfl, rfl⟩

theorem sha256_eq_of_keyHash {left right : Bytes} (same : keyHash left = keyHash right) :
    Hash.sha256 left = Hash.sha256 right :=
  Bytes.toHex_injective same

/-- Whatever a network answers, a key that is unwrapped has the hash in its record. The reply to the
request decides: a failure is passed on, and bytes of another hash or of another length than that of a
key are refused. And where the record was made by wrapping a key and has been shipped and read, the
outcome is an error or a key that the hash does not tell from that one. -/
theorem network_cannot_substitute (suite : Suite) (network : ThresholdNetwork σ)
    (requester : Requester) (moment : Moment) :
    (∀ encryptedKey fields state material after,
      network.unwrap suite moment encryptedKey (.threshold fields) requester state =
        (.ok material, after) →
          (Hash.sha256 material.combined).toHex = fields.keyHash) ∧
    (∀ encryptedKey fields state space issuer, requester.authority = .ok (space, issuer) →
      let outcome := network.unwrap suite moment encryptedKey (.threshold fields) requester state
      ∃ request : ReleaseRequest, request.ciphertext = encryptedKey ∧
        request.keyHash = fields.keyHash ∧ request.conditions = fields.conditions ∧
        (∀ error after, network.release request state = (.error error, after) →
          outcome = (.error error, after)) ∧
        ∀ combined after, network.release request state = (.ok combined, after) →
          let hashed := (Hash.sha256 combined).toHex = fields.keyHash
          (¬ hashed → outcome = (.error (.invalidResponse .keyHash), after)) ∧
          (hashed → combined.length ≠ 48 →
            outcome = (.error (.cipher (.invalidCombinedLength 48 combined.length)), after)) ∧
          (hashed → combined.length = 48 →
            ∃ material, outcome = (.ok material, after) ∧ material.combined = combined)) ∧
    ∀ original wrapper start between wrapped dataCid record archived read,
      network.wrap original wrapper start = (.ok wrapped, between) →
      wrapped.toMetadata dataCid = .ok record → record.archive = .ok archived →
      extract archived.bytes = .ok read →
      ∀ encryptedKey state,
        let outcome := (network.unwrap suite moment encryptedKey read requester state).1
        (∃ error, outcome = .error error) ∨
          ∃ material, outcome = .ok material ∧ material.combined.length = 48 ∧
            Hash.sha256 material.combined = Hash.sha256 original.combined ∧
            (¬ Collide material.combined original.combined → material = original) := by
  refine ⟨fun _ _ _ _ _ unwrapped => keyHash_of_unwrap unwrapped, ?_, ?_⟩
  · intro encryptedKey fields state space issuer authorized outcome
    let request := network.releaseRequest suite moment encryptedKey fields requester.proofs space
      issuer
    have outcome_eq : outcome = ((network.release request state).1.bind (materialOf fields),
        (network.release request state).2) := unwrap_of_authority authorized state
    refine ⟨request, rfl, rfl, rfl, ?_, ?_⟩
    · intro error after failed
      rw [outcome_eq, failed]
      rfl
    · intro combined after released hashed
      have checked : outcome = (materialOf fields combined, after) := by
        rw [outcome_eq, released]
        rfl
      refine ⟨?_, ?_, ?_⟩
      · intro differs
        rw [checked, materialOf_other_hash differs]
      · intro same length
        rw [checked, materialOf_other_length same length]
      · intro same size
        obtain ⟨material, combined_eq⟩ := KeyMaterial.exists_combined size
        exact ⟨material, by rw [checked, materialOf_eq_ok_iff.mpr ⟨same, combined_eq⟩], combined_eq⟩
  · intro original wrapper start between wrapped dataCid record archived read made recorded shipped
      extracted encryptedKey state outcome
    obtain ⟨fields, rfl, hash_eq⟩ := keyHash_of_extract made recorded shipped extracted
    cases result : outcome with
    | error error => exact .inl ⟨error, rfl⟩
    | ok material =>
        have unwrapped : network.unwrap suite moment encryptedKey (.threshold fields) requester
            state = (.ok material, _) := Prod.ext result rfl
        have same := sha256_eq_of_keyHash ((keyHash_of_unwrap unwrapped).trans hash_eq)
        refine .inr ⟨material, rfl, material.length_combined, same, ?_⟩
        intro distinguished
        apply KeyMaterial.combined_injective
        by_contra different
        exact distinguished ⟨different, same⟩

end Custody.ThresholdNetwork

end SealedContent
