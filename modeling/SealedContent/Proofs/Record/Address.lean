import SealedContent.Proofs.Record.Root

/-!
The identifier of a record beside the one that it was found under. Whoever reads an archive checks
the hash in its root and nothing else: any codec and either version will do there, and so will a root
block that was written otherwise than the record would be. The two identifiers agree when the root
names the codec of records and its block has the bytes of the record.
-/

namespace SealedContent.Content

theorem Cid.ofData_eq_iff {codec : UInt64} {data : Bytes} {cid : Cid} :
    Cid.ofData codec data = cid ↔
      cid.version = 1 ∧ cid.codec = codec ∧ cid.hash = sha256Hash data := by
  cases cid with
  | v0 digest => simp [ofData, version]
  | v1 other hash =>
      simp only [ofData, version, Cid.codec, Cid.hash, v1.injEq, true_and]
      exact and_congr eq_comm eq_comm

theorem hash_eq_of_verified {cid : Cid} {data : Bytes} (checked : verifyBlock cid data = .ok ()) :
    cid.hash = sha256Hash data := by
  obtain ⟨code, digest⟩ := verifyBlock_eq_ok_iff.mp checked
  rw [sha256Hash, Multihash.mk.injEq]
  exact ⟨code, digest⟩

theorem sha256Hash_eq_iff {left right : Bytes} :
    sha256Hash left = sha256Hash right ↔ Hash.sha256 left = Hash.sha256 right := by
  simp [sha256Hash]

end SealedContent.Content

namespace SealedContent.Record.Metadata

open Content (Archive Block Cid verifyBlock)

theorem archive_of_extract {input : Bytes} {record : Metadata}
    (extracted : extract input = .ok record) :
    record.archive = .ok ⟨record.toBlock.cid, record.shipped.encode⟩ := by
  rw [archive_eq, (Issued.archive extracted).validate]
  rfl

theorem root_found_of_extract {input : Bytes} {record : Metadata}
    (extracted : extract input = .ok record) :
    ∃ archive block, Archive.decode input = .ok archive ∧ archive.rootBlock? = some block ∧
      verifyBlock archive.root block.data = .ok () ∧ ofBlock block.data = .ok record := by
  cases decoded : Archive.decode input with
  | error fault =>
      rw [extract, decoded] at extracted
      cases extracted
  | ok archive =>
      cases verified : archive.verifiedRoot with
      | error fault =>
          rw [extract, decoded] at extracted
          dsimp only at extracted
          rw [verified] at extracted
          cases extracted
      | ok block =>
          obtain ⟨found, checked⟩ := Archive.found_of_verifiedRoot verified
          exact ⟨archive, block, rfl, found, checked, (root_of_extract decoded found extracted).2⟩

/-- The archive of one block under a root that was chosen for it. -/
def addressed (root : Cid) (data : Bytes) : Archive :=
  ⟨root, [⟨root, data⟩]⟩

theorem decode_addressed {root : Cid} {data : Bytes}
    (bounded : (root.toBytes ++ data).length < Content.Varint.bound) :
    Archive.decode (addressed root data).encode = .ok (addressed root data) := by
  have sections : ∀ block ∈ (addressed root data).blocks,
      (Archive.blockBytes block).length < Content.Varint.bound := by
    rwa [addressed, List.forall_mem_singleton]
  rw [Archive.decode, Archive.decodeFault_encode sections]
  rfl

/-- No matter which root states the hash of some data, the data is read alike. -/
theorem extract_addressed {root : Cid} {data : Bytes}
    (checked : verifyBlock root data = .ok ())
    (bounded : (root.toBytes ++ data).length < Content.Varint.bound) :
    extract (addressed root data).encode = ofBlock data := by
  have found : (addressed root data).rootBlock? = some ⟨root, data⟩ := by
    simp [addressed, Archive.rootBlock?, Archive.find?]
  exact extract_of_root (decode_addressed bounded) found checked

theorem same_address_iff {record : Metadata} {root : Cid} {data : Bytes}
    (checked : verifyBlock root data = .ok ()) :
    record.toBlock.cid = root ↔
      root.version = 1 ∧ root.codec = Content.Codec.dagCbor ∧
        Hash.sha256 data = Hash.sha256 record.toBlock.data := by
  have own : record.toBlock.cid = .ofData Content.Codec.dagCbor record.toBlock.data := rfl
  rw [own, Content.Cid.ofData_eq_iff, Content.hash_eq_of_verified checked,
    Content.sha256Hash_eq_iff]

theorem encodeText_tag (record : Metadata) :
    Cbor.encodeText record.tag = 0x76 :: Bytes.ofText record.tag := by
  have both : ∀ tag ∈ [serviceTag, thresholdTag],
      Cbor.encodeText tag = 0x76 :: Bytes.ofText tag := by decide +kernel
  apply both
  cases record <;> simp [tag]

theorem data_form (record : Metadata) :
    ∃ body, record.toBlock.data = 0xa1 :: 0x76 :: (Bytes.ofText record.tag ++ body) := by
  have tagged : ∃ value, record.toValue = .map [(record.tag, value)] := ⟨_, rfl⟩
  obtain ⟨value, form⟩ := tagged
  refine ⟨value.encode, ?_⟩
  rw [toBlock, form, Cbor.encode_map]
  simp [Cbor.sortFields, Cbor.insertField, Cbor.encodeField, Cbor.head, encodeText_tag]

theorem hash_eq_iff_of_not_collide {left right : Bytes} (distinguished : ¬ Collide left right) :
    Hash.sha256 left = Hash.sha256 right ↔ left = right := by
  constructor
  · intro same
    by_contra different
    exact distinguished ⟨different, same⟩
  · exact congrArg Hash.sha256

/-- A block without the head of its map reads as the same record. -/
theorem ofBlock_bare (record : Metadata) :
    ofBlock (record.toBlock.data.drop 1) = ofBlock record.toBlock.data := by
  obtain ⟨body, form⟩ := record.data_form
  rw [form, List.drop_one, List.tail_cons, ofBlock, ofBlock, Cbor.readTagged?, Cbor.readTagged?]
  rfl

/-- A record that was read from an archive has an archive of its own, under the identifier of its own
bytes. That is the root it was read under exactly when the root names the codec of records and its
block has the hash of those bytes; the block has those bytes then, unless the hash fails to tell them
apart. Of the root nothing but the hash is checked, so that the same record is read under every root
that states the hash of that block. -/
theorem extracted_address {input : Bytes} {record : Metadata}
    (extracted : extract input = .ok record) :
    ∃ archive block archived, Archive.decode input = .ok archive ∧
      archive.rootBlock? = some block ∧ verifyBlock archive.root block.data = .ok () ∧
      record.archive = .ok archived ∧
      archived.cid = .ofData Content.Codec.dagCbor record.toBlock.data ∧
      (archived.cid = archive.root ↔
        archive.root.version = 1 ∧ archive.root.codec = Content.Codec.dagCbor ∧
          Hash.sha256 block.data = Hash.sha256 record.toBlock.data) ∧
      (¬ Collide block.data record.toBlock.data →
        (archived.cid = archive.root ↔
          archive.root.version = 1 ∧ archive.root.codec = Content.Codec.dagCbor ∧
            block.data = record.toBlock.data)) ∧
      ∀ root, verifyBlock root block.data = .ok () →
        (root.toBytes ++ block.data).length < 2 ^ 64 →
          extract (addressed root block.data).encode = .ok record := by
  obtain ⟨archive, block, decoded, found, checked, read⟩ := root_found_of_extract extracted
  have agree : record.toBlock.cid = archive.root ↔ _ := same_address_iff checked
  refine ⟨archive, block, _, decoded, found, checked, archive_of_extract extracted, rfl, agree,
    ?_, ?_⟩
  · intro distinguished
    have hashes := hash_eq_iff_of_not_collide distinguished
    rw [agree, hashes]
  · intro root states bounded
    rw [extract_addressed states bounded, read]

theorem keyServiceRecord_bounded (root : Cid) {data : Bytes}
    (shorter : data.length ≤ keyServiceRecord.toBlock.data.length) :
    (root.toBytes ++ data).length < 2 ^ 64 := by
  have data_length : keyServiceRecord.toBlock.data.length ≤ 1000 := by decide +kernel
  have root_length := root.length_toBytes
  rw [List.length_append]
  omega

theorem keyServiceRecord_ofBlock :
    ofBlock keyServiceRecord.toBlock.data = .ok keyServiceRecord := by
  have bounded : keyServiceRecord.toBlock.data.length < UInt64.size := by decide +kernel
  rw [ofBlock_of_narrow bounded]
  decide

theorem keyServiceRecord_extracted_address :
    extract keyServiceRecord.shipped.encode = .ok keyServiceRecord ∧
      (∃ archived, keyServiceRecord.archive = .ok archived ∧
        archived.cid = keyServiceRecord.shipped.root) ∧
      extract (addressed (.ofData Content.Codec.raw keyServiceRecord.toBlock.data)
        keyServiceRecord.toBlock.data).encode = .ok keyServiceRecord := by
  have bounded : keyServiceRecord.toBlock.data.length < 2 ^ 63 := by decide +kernel
  have extracted : extract keyServiceRecord.shipped.encode = .ok keyServiceRecord := by
    rw [extract_shipped bounded]
    decide
  obtain ⟨archive, block, archived, decoded, found, -, made, -, agree, -, other_roots⟩ :=
    extracted_address extracted
  cases (decode_shipped bounded).symm.trans decoded
  have found_first : keyServiceRecord.shipped.rootBlock? = some keyServiceRecord.toBlock := by
    simp [shipped, Archive.rootBlock?, Archive.find?]
  cases found_first.symm.trans found
  exact ⟨extracted, ⟨archived, made, agree.mpr ⟨rfl, rfl, rfl⟩⟩,
    other_roots _ (Content.verifyBlock_ofData _ _) (keyServiceRecord_bounded _ le_rfl)⟩

/-- The record of a key service under other roots: under the codec of bare data, under the older
version, and as a block that lacks the head of its map. -/
def otherAddresses : List (Cid × Bytes) :=
  let data := keyServiceRecord.toBlock.data
  let bare := data.drop 1
  [(.ofData Content.Codec.raw data, data),
    ((Cid.v0 (Vector.replicate 32 0)).recompute data, data),
    (.ofData Content.Codec.dagCbor bare, bare)]

theorem keyServiceRecord_bare_hash :
    Hash.sha256 (keyServiceRecord.toBlock.data.drop 1) ≠
      Hash.sha256 keyServiceRecord.toBlock.data := by
  decide +kernel

theorem keyServiceRecord_other_addresses :
    ∃ archived, keyServiceRecord.archive = .ok archived ∧
      ∀ address ∈ otherAddresses,
        Archive.decode (addressed address.1 address.2).encode =
            .ok (addressed address.1 address.2) ∧
          extract (addressed address.1 address.2).encode = .ok keyServiceRecord ∧
            archived.cid ≠ address.1 := by
  have valid : keyServiceRecord.validate = .ok () := by decide
  have made : keyServiceRecord.archive =
      .ok ⟨keyServiceRecord.toBlock.cid, keyServiceRecord.shipped.encode⟩ := by
    rw [archive_eq, valid]
    rfl
  have bare_read := (ofBlock_bare keyServiceRecord).trans keyServiceRecord_ofBlock
  refine ⟨_, made, ?_⟩
  have read_under : ∀ root data, verifyBlock root data = .ok () →
      ofBlock data = .ok keyServiceRecord →
      data.length ≤ keyServiceRecord.toBlock.data.length →
      ¬ (root.version = 1 ∧ root.codec = Content.Codec.dagCbor ∧
        Hash.sha256 data = Hash.sha256 keyServiceRecord.toBlock.data) →
      Archive.decode (addressed root data).encode = .ok (addressed root data) ∧
        extract (addressed root data).encode = .ok keyServiceRecord ∧
          keyServiceRecord.toBlock.cid ≠ root := by
    intro root data checked read shorter apart
    have bounded := keyServiceRecord_bounded root shorter
    refine ⟨decode_addressed bounded, (extract_addressed checked bounded).trans read, ?_⟩
    exact fun same => apart ((same_address_iff checked).mp same)
  simp only [otherAddresses, List.forall_mem_cons]
  refine ⟨?_, ?_, ?_, List.forall_mem_nil _⟩
  · apply read_under _ _ (Content.verifyBlock_ofData _ _) keyServiceRecord_ofBlock le_rfl
    intro agree
    exact absurd agree.2.1 (by decide)
  · have checked : verifyBlock ((Cid.v0 (Vector.replicate 32 0)).recompute
        keyServiceRecord.toBlock.data) keyServiceRecord.toBlock.data = .ok () :=
      Content.verifyBlock_eq_ok_iff.mpr ⟨rfl, rfl⟩
    apply read_under _ _ checked keyServiceRecord_ofBlock le_rfl
    intro agree
    exact absurd agree.1 Nat.zero_ne_one
  · apply read_under _ _ (Content.verifyBlock_ofData _ _) bare_read (List.drop_sublist _ _).length_le
    exact fun agree => keyServiceRecord_bare_hash agree.2.2

end SealedContent.Record.Metadata
