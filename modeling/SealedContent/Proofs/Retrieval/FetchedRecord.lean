import SealedContent.Proofs.Content.Grammar
import SealedContent.Proofs.Record.Root
import SealedContent.Proofs.Retrieval.Verified

/-!
Records that come from a gateway. Once bytes have been verified against an identifier, the record in
them is the one that the identifier was made from, and what can still go wrong lies in the record.
-/

namespace SealedContent.Retrieval

open Content (Archive Cid verifyBlock)
open Record (Metadata)
open Record.Metadata (Collide IsRecordFault keyServiceRecord)
open Web (Transport)
open Gateway (exactGateway answering served)

/-- The client and the reader of archives look up the root block differently, but where there is only
one block they agree. -/
theorem exists_block_of_verifyArchive {cid : Cid} {bytes : Bytes}
    (verified : verifyArchive cid bytes = .ok ()) :
    ∃ data, Archive.decode bytes = .ok ⟨cid, [⟨cid, data⟩]⟩ ∧ verifyBlock cid data = .ok () ∧
      data.length < UInt64.size ∧ Metadata.extract bytes = Metadata.ofBlock data := by
  obtain ⟨data, decoded, hashed⟩ := verifyArchive_eq_ok_iff.mp verified
  have checked := Content.verifyBlock_eq_ok_iff.mpr hashed
  have bounded := Archive.decode_length_lt decoded
  rw [List.forall_mem_singleton] at bounded
  have found : (Archive.mk cid [⟨cid, data⟩]).rootBlock? = some ⟨cid, data⟩ := by
    simp [Archive.rootBlock?, Archive.find?]
  exact ⟨data, decoded, checked, bounded, Metadata.extract_of_root decoded found checked⟩

theorem verifyArchive_of_fetch {σ : Type} {gateway : Gateway} {transport : Transport σ}
    {name : String} {state after : σ} {bytes : Bytes}
    (fetched : gateway.fetch transport name state = (.ok bytes, after)) :
    ∃ cid, Cid.parse name = .ok cid ∧ verifyArchive cid bytes = .ok () := by
  obtain ⟨cid, reply, parsed, -, accepted⟩ := Gateway.exists_answers_of_fetch fetched
  exact ⟨cid, parsed, verifyArchive_eq_ok_iff.mpr (Gateway.accept_eq_ok_iff.mp accepted).2⟩

theorem fetchRecord_of_fetch {σ : Type} {gateway : Gateway} {transport : Transport σ}
    {name : String} {state after : σ} {bytes : Bytes}
    (fetched : gateway.fetch transport name state = (.ok bytes, after)) :
    gateway.fetchRecord transport name state =
      ((Metadata.extract bytes).mapError .invalidRecord, after) := by
  rw [Gateway.fetchRecord, fetched]

/-- The root alone determines the record. Two archives of one root give one record, whatever blocks
stand beside the root block, unless their root blocks collide. Bytes that were verified hold one block
and give its record, so that reading them fails only for a fault of that record; and if their
identifier is that of a valid record, the record that comes out, also of a fetch, is that one. -/
theorem root_determines_record :
    (∀ first second left right leftBlock rightBlock record other,
      Archive.decode first = .ok left → Archive.decode second = .ok right →
      left.root = right.root →
      left.rootBlock? = some leftBlock → right.rootBlock? = some rightBlock →
      ¬ Collide leftBlock.data rightBlock.data →
      Metadata.extract first = .ok record → Metadata.extract second = .ok other →
        record = other) ∧
    (∀ cid bytes, verifyArchive cid bytes = .ok () →
      ∃ data, Archive.decode bytes = .ok ⟨cid, [⟨cid, data⟩]⟩ ∧
        verifyBlock cid data = .ok () ∧
        Metadata.extract bytes = Metadata.ofBlock data ∧
        (∀ fault, Metadata.extract bytes = .error fault → IsRecordFault fault) ∧
        ∀ record archived, record.archive = .ok archived → archived.cid = cid →
          ¬ Collide data record.toBlock.data → Metadata.extract bytes = .ok record) ∧
    ∀ (σ : Type) (gateway : Gateway) (transport : Transport σ) name state bytes after,
      gateway.fetch transport name state = (.ok bytes, after) →
      ∃ cid data, Cid.parse name = .ok cid ∧
        Archive.decode bytes = .ok ⟨cid, [⟨cid, data⟩]⟩ ∧
        (∀ error later, gateway.fetchRecord transport name state = (.error error, later) →
          ∃ fault, error = .invalidRecord fault ∧ IsRecordFault fault) ∧
        ∀ record archived, record.archive = .ok archived → archived.cid = cid →
          ¬ Collide data record.toBlock.data →
            gateway.fetchRecord transport name state = (.ok record, after) := by
  refine ⟨?_, ?_, ?_⟩
  · intro first second left right leftBlock rightBlock record other leftDecoded rightDecoded
      sameRoot leftFound rightFound distinguished leftRead rightRead
    exact Metadata.extract_eq_of_root leftDecoded rightDecoded sameRoot leftFound rightFound
      distinguished leftRead rightRead
  · intro cid bytes verified
    obtain ⟨data, decoded, checked, bounded, extracted⟩ := exists_block_of_verifyArchive verified
    refine ⟨data, decoded, checked, extracted, ?_, ?_⟩
    · intro fault refused
      rw [extracted] at refused
      exact Metadata.ofBlock_fault refused
    · rintro record archived made rfl distinguished
      rw [extracted]
      exact Metadata.ofBlock_of_archived made checked bounded distinguished
  · intro σ gateway transport name state bytes after fetched
    obtain ⟨cid, parsed, verified⟩ := verifyArchive_of_fetch fetched
    obtain ⟨data, decoded, checked, bounded, extracted⟩ := exists_block_of_verifyArchive verified
    rw [fetchRecord_of_fetch fetched, extracted]
    refine ⟨cid, data, parsed, decoded, ?_, ?_⟩
    · intro error later failed
      cases read : Metadata.ofBlock data with
      | error fault =>
          rw [read] at failed
          cases failed
          exact ⟨fault, rfl, Metadata.ofBlock_fault read⟩
      | ok record =>
          rw [read] at failed
          cases failed
    · rintro record archived made rfl distinguished
      rw [Metadata.ofBlock_of_archived made checked bounded distinguished]
      rfl

/-- An archive of a record in which a forged block comes first, another claims the root, and the root
block stands twice. -/
def crowdedArchive : Archive where
  root := keyServiceRecord.toBlock.cid
  blocks :=
    [⟨.ofData Content.Codec.raw [1], [2]⟩, keyServiceRecord.toBlock,
      ⟨keyServiceRecord.toBlock.cid, [0]⟩, keyServiceRecord.toBlock]

theorem rootBlock?_crowded : crowdedArchive.rootBlock? = some keyServiceRecord.toBlock := by
  have other : Cid.ofData Content.Codec.raw [1] ≠ keyServiceRecord.toBlock.cid := by
    intro same
    cases Content.Cid.v1.inj same |>.1
  simp [crowdedArchive, Archive.rootBlock?, Archive.find?, other]

theorem decode_crowded : Archive.decode crowdedArchive.encode = .ok crowdedArchive := by
  have short : ∀ block ∈ crowdedArchive.blocks, block.data.length < 1000 := by decide +kernel
  have sections : ∀ block ∈ crowdedArchive.blocks,
      (Archive.blockBytes block).length < Content.Varint.bound := by
    intro block member
    have data_length := short block member
    have cid_length := block.cid.length_toBytes
    have large : 2000 < Content.Varint.bound := by decide
    rw [Archive.blockBytes, List.length_append]
    omega
  rw [Archive.decode, Archive.decodeFault_encode sections]
  rfl

theorem archive_keyServiceRecord : keyServiceRecord.archive =
    .ok ⟨keyServiceRecord.toBlock.cid, keyServiceRecord.shipped.encode⟩ := by
  have valid : keyServiceRecord.validate = .ok () := by decide
  rw [Metadata.archive_eq, valid]
  rfl

theorem fetch_keyServiceRecord :
    exactGateway.fetch (answering (served [keyServiceRecord.shipped.encode]))
      keyServiceRecord.toBlock.cid.toText 0 = (.ok keyServiceRecord.shipped.encode, 1) := by
  have joined : keyServiceRecord.shipped.encode = [keyServiceRecord.shipped.encode].flatten := by
    simp
  have delivers : Delivers exactGateway.maxResponseBytes (served [keyServiceRecord.shipped.encode])
      keyServiceRecord.shipped.encode := Gateway.delivers_served joined (Nat.le_refl _)
  rw [Gateway.fetch_of_answers Gateway.parse_keyServiceRecord (Gateway.answers_served _ 0),
    Gateway.accept_eq_ok_iff.mpr ⟨delivers, Gateway.isArchiveOf_shipped⟩]

/-- Whatever crowds round its root block, an archive gives the record of its root, and so do verified
bytes and the gateway. -/
theorem keyServiceRecord_determined :
    (∃ other, Metadata.extract crowdedArchive.encode = .ok other) ∧
    (∀ other, Metadata.extract crowdedArchive.encode = .ok other → other = keyServiceRecord) ∧
    Metadata.extract keyServiceRecord.shipped.encode = .ok keyServiceRecord ∧
    exactGateway.fetchRecord (answering (served [keyServiceRecord.shipped.encode]))
      keyServiceRecord.toBlock.cid.toText 0 = (.ok keyServiceRecord, 1) := by
  have same_root := root_determines_record.1
  obtain ⟨-, verified_bytes, fetched_bytes⟩ := root_determines_record
  have bounded : keyServiceRecord.toBlock.data.length < 2 ^ 63 := by decide +kernel
  have decoded := Metadata.decode_shipped bounded
  have alone : ∀ data : Bytes, Archive.decode keyServiceRecord.shipped.encode =
      .ok ⟨keyServiceRecord.toBlock.cid, [⟨keyServiceRecord.toBlock.cid, data⟩]⟩ →
        ¬ Collide data keyServiceRecord.toBlock.data := by
    intro data other collision
    cases decoded.symm.trans other
    exact collision.1 rfl
  have extracted : Metadata.extract keyServiceRecord.shipped.encode = .ok keyServiceRecord := by
    obtain ⟨data, holds, -, -, -, original⟩ :=
      verified_bytes _ _ (verifyArchive_eq_ok_iff.mpr Gateway.isArchiveOf_shipped)
    exact original _ _ archive_keyServiceRecord rfl (alone data holds)
  have found : keyServiceRecord.shipped.rootBlock? = some keyServiceRecord.toBlock := by
    simp [Metadata.shipped, Archive.rootBlock?, Archive.find?]
  have crowded : Metadata.extract crowdedArchive.encode =
      Metadata.extract keyServiceRecord.shipped.encode := by
    have checked := Content.verifyBlock_ofData Content.Codec.dagCbor keyServiceRecord.toBlock.data
    rw [Metadata.extract_of_root decode_crowded rootBlock?_crowded checked,
      Metadata.extract_of_root decoded found checked]
  refine ⟨⟨_, crowded.trans extracted⟩, ?_, extracted, ?_⟩
  · intro other read
    exact same_root _ _ _ _ _ _ _ _ decode_crowded decoded rfl rootBlock?_crowded found
      (fun collision => collision.1 rfl) read extracted
  · obtain ⟨cid, data, parsed, holds, -, original⟩ :=
      fetched_bytes Nat _ _ _ _ _ _ fetch_keyServiceRecord
    cases Gateway.parse_keyServiceRecord.symm.trans parsed
    exact original _ _ archive_keyServiceRecord rfl (alone data holds)

end SealedContent.Retrieval
