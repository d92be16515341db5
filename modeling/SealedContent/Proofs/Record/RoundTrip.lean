import SealedContent.Custody.Wrap
import SealedContent.Proofs.Content.Archive
import SealedContent.Proofs.Record.Form

/-!
Records survive their block and their archive. What makes a record invalid is told the same way
before it is written and after it is read, and no operation hands out an invalid record.
-/

namespace SealedContent.Record.Metadata

open Cbor (Fits Value Shape)
open Content (Archive BlockError Cid)
open Custody (WrappedKey)

theorem validated_eq (record : Metadata) :
    record.validated = record.validate.map fun _ => record := by
  rw [validated]
  cases record.validate <;> rfl

theorem validate_error {record : Metadata} {fault : BlockError}
    (refused : record.validate = .error fault) :
    ∃ field, fault = .missingField record.tag field := by
  rw [validate] at refused
  split at refused
  · exact ⟨_, (Except.error.inj refused).symm⟩
  · cases refused

theorem validate_validated {record result : Metadata} (built : record.validated = .ok result) :
    result.validate = .ok () := by
  rw [validated] at built
  split at built
  · rename_i valid
    rwa [← Except.ok.inj built]
  · cases built

theorem readTagged?_toValue {record : Metadata}
    (bounded : record.toValue.encode.length < UInt64.size) :
    (Cbor.readTagged? shapes record.toValue.encode).bind ofTagged? = some record := by
  cases record with
  | service fields =>
      have known : shapes.lookup (service fields).tag = some ServiceRecord.shape := by
        simp [shapes, tag, serviceTag, thresholdTag, List.lookup_cons]
      rw [toValue, Cbor.readTagged?_encode known (fields.fits 254) bounded]
      simp [ofTagged?, tag, serviceTag, thresholdTag, ServiceRecord.ofValue?_toValue]
  | threshold fields =>
      have known : shapes.lookup (threshold fields).tag = some ThresholdRecord.shape := by
        simp [shapes, tag]
      rw [toValue, Cbor.readTagged?_encode known (fields.fits 252) bounded]
      simp [ofTagged?, tag, ThresholdRecord.ofValue?_toValue]

theorem ofBlock_of_narrow {record : Metadata} (narrow : record.toBlock.data.length < UInt64.size) :
    ofBlock record.toBlock.data = record.validated := by
  have read := readTagged?_toValue narrow
  rw [ofBlock, toBlock]
  dsimp only
  rw [read]

theorem ofBlock_toBlock {record : Metadata} (bounded : record.toBlock.data.length < 2 ^ 63) :
    ofBlock record.toBlock.data = record.validated :=
  ofBlock_of_narrow (lt_trans bounded (by decide))

/-- The archive that a valid record is shipped as. -/
def shipped (record : Metadata) : Archive :=
  ⟨record.toBlock.cid, [record.toBlock]⟩

theorem decode_of_section {record : Metadata}
    (bounded : (Archive.blockBytes record.toBlock).length < Content.Varint.bound) :
    Archive.decode record.shipped.encode = .ok record.shipped := by
  have sections : ∀ block ∈ record.shipped.blocks,
      (Archive.blockBytes block).length < Content.Varint.bound := by
    rwa [shipped, List.forall_mem_singleton]
  rw [Archive.decode, Archive.decodeFault_encode sections]
  rfl

theorem decode_shipped {record : Metadata} (bounded : record.toBlock.data.length < 2 ^ 63) :
    Archive.decode record.shipped.encode = .ok record.shipped := by
  have cid_length := record.toBlock.cid.length_toBytes
  have large : 2 ^ 63 + 95 < Content.Varint.bound := by decide
  apply decode_of_section
  rw [Archive.blockBytes, List.length_append]
  omega

theorem verifiedRoot_shipped (record : Metadata) :
    record.shipped.verifiedRoot = .ok record.toBlock := by
  have found : record.shipped.rootBlock? = some record.toBlock := by
    simp [shipped, Archive.rootBlock?, Archive.find?]
  rw [Archive.verifiedRoot, found]
  dsimp only
  rw [toBlock, Content.verifyBlock_ofData]

theorem extract_shipped {record : Metadata} (bounded : record.toBlock.data.length < 2 ^ 63) :
    extract record.shipped.encode = record.validated := by
  rw [extract, decode_shipped bounded]
  dsimp only
  rw [verifiedRoot_shipped]
  exact ofBlock_toBlock bounded

theorem archive_eq (record : Metadata) :
    record.archive = record.validate.map fun _ => ⟨record.toBlock.cid, record.shipped.encode⟩ := by
  rw [archive]
  cases record.validate <;> rfl

/-- Whatever its length, what is read from the archive of a record is that record. -/
theorem eq_of_extract_archive {record read : Metadata} {archived : Archived}
    (made : record.archive = .ok archived) (extracted : extract archived.bytes = .ok read) :
    read = record := by
  rw [archive_eq] at made
  cases valid : record.validate with
  | error fault =>
      rw [valid] at made
      cases made
  | ok =>
      rw [valid] at made
      cases made
      dsimp only at extracted
      rw [extract] at extracted
      split at extracted
      · cases extracted
      rename_i archive decoded
      have bounded := Archive.length_of_decode_encode decoded
      cases (decode_of_section bounded).symm.trans decoded
      rw [verifiedRoot_shipped] at extracted
      rw [Archive.blockBytes, List.length_append] at bounded
      have narrow : record.toBlock.data.length < UInt64.size :=
        lt_of_le_of_lt (Nat.le_add_left _ _) bounded
      dsimp only at extracted
      rw [ofBlock_of_narrow narrow, validated_eq, valid] at extracted
      exact (Except.ok.inj extracted).symm

theorem validate_ofBlock {data : Bytes} {record : Metadata} (read : ofBlock data = .ok record) :
    record.validate = .ok () := by
  rw [ofBlock] at read
  split at read
  · cases read
  · exact validate_validated read

/-- The records that some operation gives: those built from their fields or under a wrapped key,
and those read from a block or an archive. -/
inductive Issued : Metadata → Prop
  | service {fields : ServiceRecord} {record : Metadata}
      (built : (service fields).validated = .ok record) : Issued record
  | threshold {fields : ThresholdRecord} {record : Metadata}
      (built : (threshold fields).validated = .ok record) : Issued record
  | wrapped {key : WrappedKey} {dataCid : Cid} {record : Metadata}
      (built : key.toMetadata dataCid = .ok record) : Issued record
  | block {data : Bytes} {record : Metadata} (read : ofBlock data = .ok record) : Issued record
  | archive {input : Bytes} {record : Metadata} (read : extract input = .ok record) : Issued record

theorem Issued.validate {record : Metadata} (issued : Issued record) :
    record.validate = .ok () := by
  cases issued with
  | service built => exact validate_validated built
  | threshold built => exact validate_validated built
  | @wrapped key dataCid _ built =>
      rw [WrappedKey.toMetadata] at built
      cases result : (key.record dataCid).validated with
      | error fault =>
          rw [result] at built
          cases built
      | ok record =>
          rw [result] at built
          cases built
          exact validate_validated result
  | block read => exact validate_ofBlock read
  | archive read =>
      rw [extract] at read
      split at read
      · cases read
      split at read
      · cases read
      · exact validate_ofBlock read

/-- Valid or not, a record whose block is no longer than any buffer reads back from that block, or is
refused there as it is before; a valid one ships as the archive of its block and reads back from it.
And no operation gives an invalid record. -/
theorem record_round_trip (record : Metadata) (bounded : record.toBlock.data.length < 2 ^ 63) :
    (record.validate = .ok () → ofBlock record.toBlock.data = .ok record) ∧
    (∀ fault, record.validate = .error fault →
      (∃ field, fault = .missingField record.tag field) ∧
        ofBlock record.toBlock.data = .error fault) ∧
    ((∃ archived, record.archive = .ok archived) ↔ record.validate = .ok ()) ∧
    (∀ archived, record.archive = .ok archived →
      extract archived.bytes = .ok record ∧
        archived.cid = .ofData Content.Codec.dagCbor record.toBlock.data ∧
          Archive.decode archived.bytes = .ok ⟨archived.cid, [record.toBlock]⟩) ∧
    ∀ issued, Issued issued → issued.validate = .ok () := by
  have from_block := ofBlock_toBlock bounded
  have from_archive := extract_shipped bounded
  rw [validated_eq] at from_block from_archive
  rw [archive_eq]
  refine ⟨?_, ?_, ?_, ?_, fun issued given => given.validate⟩
  · intro valid
    rw [from_block, valid]
    rfl
  · intro fault refused
    rw [from_block, refused]
    exact ⟨validate_error refused, rfl⟩
  · cases record.validate with
    | error fault => simp [Except.map]
    | ok => simp [Except.map]
  · intro archived made
    cases valid : record.validate with
    | error fault =>
        rw [valid] at made
        cases made
    | ok =>
        rw [valid] at made from_archive
        cases made
        exact ⟨from_archive, rfl, decode_shipped bounded⟩

def keyServiceRecord : Metadata :=
  .service ⟨.v0 (Vector.replicate 32 7), "wrapped", "space", ⟨"provider", "key", "algorithm"⟩⟩

theorem keyServiceRecord_round_trip :
    keyServiceRecord.toBlock.data.length < 2 ^ 63 ∧
      ofBlock keyServiceRecord.toBlock.data = .ok keyServiceRecord ∧
        ∃ archived, keyServiceRecord.archive = .ok archived ∧
          extract archived.bytes = .ok keyServiceRecord := by
  have bounded : keyServiceRecord.toBlock.data.length < 2 ^ 63 := by decide +kernel
  have valid : keyServiceRecord.validate = .ok () := by decide
  obtain ⟨from_block, -, shipped, from_archive, -⟩ := record_round_trip keyServiceRecord bounded
  obtain ⟨archived, made⟩ := shipped.mpr valid
  exact ⟨bounded, from_block valid, archived, made, (from_archive archived made).1⟩

end SealedContent.Record.Metadata
