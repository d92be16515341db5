import SealedContent.Proofs.Content.Cid

/-!
The check of a block is exact. Which of its outcomes comes depends on the hash function and the digest that
the identifier states, and on nothing else of it. The identifier of the data is computed under the version
of the given one by steps that refuse hashes of a wrong size; they are written out here to show that the
check never ends in such a refusal.
-/

namespace SealedContent.Content

namespace Cid

/-- Version 0 takes SHA-256 hashes of thirty-two bytes alone. -/
def ofHash? (hash : Multihash) : Option Cid :=
  if hash.code = sha256Code then (Bytes.toVector? 32 hash.digest).map v0 else none

def recompute? (cid : Cid) (data : Bytes) : Option Cid :=
  match cid with
  | v0 _ => (Multihash.wrap? sha256Code (Hash.sha256 data)).bind ofHash?
  | v1 codec _ => ofData? codec data

theorem recompute?_eq (cid : Cid) (data : Bytes) :
    cid.recompute? data = some (cid.recompute data) := by
  cases cid with
  | v0 digest =>
      have sized := Hash.length_sha256 data
      rw [recompute?, Multihash.wrap?_digest _ sized, Option.bind_some, ofHash?]
      dsimp only
      rw [if_pos rfl, Bytes.toVector?, dif_pos sized]
      rfl
  | v1 codec hash => exact ofData?_eq codec data

end Cid

/-- The outcomes of the check, and what each of them says of the identifier. -/
theorem block_check_exact (cid : Cid) (data : Bytes) :
    (Hash.sha256 data).length = 32 ∧
    (verifyBlock cid data = .ok () ↔
      cid.hash.code = sha256Code ∧ cid.hash.digest = Hash.sha256 data) ∧
    (∀ error, verifyBlock cid data = .error error ↔
      (cid.hash.code ≠ sha256Code ∧ error = .unsupportedHash cid.hash.code) ∨
      (cid.hash.code = sha256Code ∧ cid.hash.digest ≠ Hash.sha256 data ∧
        error = .hashMismatch cid (cid.recompute data))) ∧
    cid.recompute? data = some (cid.recompute data) ∧
    ∀ codec, ∃ made, Cid.ofData? codec data = some made ∧ verifyBlock made data = .ok () := by
  refine ⟨Hash.length_sha256 data, verifyBlock_eq_ok_iff, fun error => ?_,
    Cid.recompute?_eq cid data, fun codec => ⟨_, Cid.ofData?_eq codec data, verifyBlock_ofData codec data⟩⟩
  rw [verifyBlock_eq]
  by_cases code : cid.hash.code = sha256Code
  · by_cases same : cid.hash.digest = Hash.sha256 data
    · simp [code, same]
    · simp [code, same, eq_comm]
  · simp [code, eq_comm]

end SealedContent.Content
