import SealedContent.Proofs.Content.Read
import SealedContent.Proofs.Record.RoundTrip

/-!
The root of an archive stands for one record. Whatever else two archives hold, the records read from
them agree once their roots do, unless the hash fails to tell the two root blocks apart.
-/

namespace SealedContent.Record.Metadata

open Content (Archive Block BlockError Cid verifyBlock verifyBlock_eq_ok_iff)

/-- Two byte strings that the hash does not tell apart. -/
def Collide (left right : Bytes) : Prop :=
  left ≠ right ∧ Hash.sha256 left = Hash.sha256 right

/-- A reason that lies in the bytes of the record, and not in the archive round them. -/
def IsRecordFault (fault : BlockError) : Prop :=
  fault = .decode ∨ ∃ variant field, fault = .missingField variant field

theorem ofBlock_fault {data : Bytes} {fault : BlockError} (refused : ofBlock data = .error fault) :
    IsRecordFault fault := by
  rw [ofBlock] at refused
  split at refused
  · cases refused
    exact .inl rfl
  · rename_i record read
    rw [validated] at refused
    split at refused
    · cases refused
    · rename_i reason invalid
      cases refused
      obtain ⟨field, missing⟩ := validate_error invalid
      exact .inr ⟨_, field, missing⟩

theorem extract_of_root {input : Bytes} {archive : Archive} {block : Block}
    (decoded : Archive.decode input = .ok archive) (found : archive.rootBlock? = some block)
    (checked : verifyBlock archive.root block.data = .ok ()) :
    extract input = ofBlock block.data := by
  rw [extract, decoded]
  dsimp only
  rw [Archive.verifiedRoot_of_found found, checked]
  rfl

theorem root_of_extract {input : Bytes} {archive : Archive} {block : Block} {record : Metadata}
    (decoded : Archive.decode input = .ok archive) (found : archive.rootBlock? = some block)
    (extracted : extract input = .ok record) :
    verifyBlock archive.root block.data = .ok () ∧ ofBlock block.data = .ok record := by
  rw [extract, decoded] at extracted
  dsimp only at extracted
  split at extracted
  · cases extracted
  · rename_i verified
    obtain ⟨foundToo, checked⟩ := Archive.found_of_verifiedRoot verified
    cases found.symm.trans foundToo
    exact ⟨checked, extracted⟩

/-- The hash in the root leaves one choice for the data of the root block. -/
theorem data_eq_of_verified {root : Cid} {left right : Bytes}
    (leftChecked : verifyBlock root left = .ok ()) (rightChecked : verifyBlock root right = .ok ())
    (distinguished : ¬ Collide left right) : left = right := by
  have leftHash := (verifyBlock_eq_ok_iff.mp leftChecked).2
  have rightHash := (verifyBlock_eq_ok_iff.mp rightChecked).2
  by_contra different
  exact distinguished ⟨different, leftHash.symm.trans rightHash⟩

theorem extract_eq_of_root {first second : Bytes} {left right : Archive}
    {leftBlock rightBlock : Block} {record other : Metadata}
    (leftDecoded : Archive.decode first = .ok left)
    (rightDecoded : Archive.decode second = .ok right) (sameRoot : left.root = right.root)
    (leftFound : left.rootBlock? = some leftBlock) (rightFound : right.rootBlock? = some rightBlock)
    (distinguished : ¬ Collide leftBlock.data rightBlock.data)
    (leftRead : extract first = .ok record) (rightRead : extract second = .ok other) :
    record = other := by
  obtain ⟨leftChecked, leftRecord⟩ := root_of_extract leftDecoded leftFound leftRead
  obtain ⟨rightChecked, rightRecord⟩ := root_of_extract rightDecoded rightFound rightRead
  rw [← sameRoot] at rightChecked
  rw [data_eq_of_verified leftChecked rightChecked distinguished, rightRecord] at leftRecord
  exact (Except.ok.inj leftRecord).symm

/-- Data under the identifier of a valid record is that record, if it can be the data of a block. -/
theorem ofBlock_of_archived {record : Metadata} {archived : Archived} {data : Bytes}
    (made : record.archive = .ok archived) (checked : verifyBlock archived.cid data = .ok ())
    (bounded : data.length < UInt64.size) (distinguished : ¬ Collide data record.toBlock.data) :
    ofBlock data = .ok record := by
  rw [archive_eq] at made
  cases valid : record.validate with
  | error fault =>
      rw [valid] at made
      cases made
  | ok =>
      rw [valid] at made
      cases made
      have original : verifyBlock record.toBlock.cid record.toBlock.data = .ok () :=
        Content.verifyBlock_ofData _ _
      have same := data_eq_of_verified checked original distinguished
      subst same
      rw [ofBlock_of_narrow bounded, validated_eq, valid]
      rfl

end SealedContent.Record.Metadata
