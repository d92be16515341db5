import SealedContent.Content.Archive
import SealedContent.Proofs.Cbor.Canonical

/-!
Archives read back section by section: the header gives the root, and every block its identifier
and its data, in their order.
-/

namespace SealedContent.Content.Archive

open Cbor (Fits)

theorem headerValue_fits (root : Cid) : Fits Cbor.depthLimit headerShape (headerValue root) := by
  apply Fits.of_fields rfl (by decide)
  simp only [Cbor.fitsFields_cons, Cbor.fitsFields_nil, and_true]
  constructor
  · apply Fits.list
    rw [List.forall_mem_singleton]
    exact .link root
  · exact .unsigned (by decide)

theorem length_header (root : Cid) : (headerValue root).encode.length < Varint.bound := by
  have link := Cbor.length_encodeLink root
  have fixed : (Cbor.head 5 2).length + (Cbor.encodeText "roots").length +
      (Cbor.head 4 1).length + (Cbor.encodeText "version").length +
      (Cbor.head 0 formatVersion).length = 17 := by decide
  have large : 200 < Varint.bound := by decide
  rw [headerValue, Cbor.length_encode_map]
  simp only [List.flatMap_cons, List.flatMap_nil, Cbor.encodeField, Cbor.Value.encode,
    Cbor.encodeItems, List.length_append, List.length_cons, List.length_nil, zero_add, Nat.reduceAdd]
  omega

theorem readHeader_encode (root : Cid) : readHeader (headerValue root).encode = .ok root := by
  rw [readHeader, Cbor.Shape.read?_encode (headerValue_fits root) (length_header root)]
  rfl

theorem readSection_frame {content : Bytes} (filled : content ≠ [])
    (bounded : content.length < Varint.bound) (rest : Bytes) :
    readSection (frame content ++ rest) = .ok (some (content, rest)) := by
  have started : (frame content ++ rest).isEmpty = false := by
    simp [frame, Varint.write_ne_nil]
  have positive := List.length_pos_of_ne_nil filled
  rw [readSection, started, frame, List.append_assoc, Varint.read_write bounded]
  simp only [Bool.false_eq_true, if_false, List.take_left, List.drop_left]
  rw [if_neg (by omega), if_neg (by simp)]

theorem readSection_beyond {content : Bytes} (beyond : Varint.bound ≤ content.length)
    (rest : Bytes) : ∃ fault, readSection (frame content ++ rest) = .error fault := by
  have started : (frame content ++ rest).isEmpty = false := by
    simp [frame, Varint.write_ne_nil]
  rw [readSection, started, frame, List.append_assoc]
  obtain ⟨fault, failed⟩ := Varint.read_write_beyond beyond (content ++ rest)
  rw [failed]
  exact ⟨_, rfl⟩

/-- A block as its section holds it. -/
def blockBytes (block : Block) : Bytes :=
  block.cid.toBytes ++ block.data

theorem blockBytes_ne_nil (block : Block) : blockBytes block ≠ [] := by
  simp [blockBytes, Cid.toBytes_ne_nil]

theorem readBlock_blockBytes (block : Block) : readBlock (blockBytes block) = .ok block := by
  rw [readBlock, blockBytes, Cid.read?_toBytes]

theorem frame_ne_nil (content : Bytes) : frame content ≠ [] := by
  simp [frame, Varint.write_ne_nil]

theorem readBlocks_frames {blocks : List Block}
    (bounded : ∀ block ∈ blocks, (blockBytes block).length < Varint.bound) {fuel : Nat}
    (enough : blocks.length < fuel) :
    readBlocks fuel (blocks.flatMap fun block => frame (blockBytes block)) = .ok blocks := by
  induction blocks generalizing fuel with
  | nil => cases fuel <;> rfl
  | cons block blocks induction =>
      obtain ⟨fuel, rfl⟩ := Nat.exists_eq_succ_of_ne_zero (Nat.ne_zero_of_lt enough)
      have later := induction (fun other member => bounded other (List.mem_cons_of_mem _ member))
        (Nat.lt_of_succ_lt_succ enough)
      rw [List.flatMap_cons, readBlocks,
        readSection_frame (blockBytes_ne_nil block) (bounded block List.mem_cons_self)]
      simp only [readBlock_blockBytes, later]

theorem decodeFault_encode {archive : Archive}
    (bounded : ∀ block ∈ archive.blocks, (blockBytes block).length < Varint.bound) :
    decodeFault archive.encode = .ok archive := by
  let framed := archive.blocks.flatMap fun block => frame (blockBytes block)
  have enough : archive.blocks.length < framed.length + 1 :=
    Nat.lt_succ_of_le (Bytes.length_le_flatMap (fun block => frame_ne_nil (blockBytes block)) _)
  have form : archive.encode = frame (headerValue archive.root).encode ++ framed := rfl
  rw [form, decodeFault, readSection_frame (Cbor.encode_ne_nil _) (length_header archive.root)]
  simp only [readHeader_encode, framed, readBlocks_frames bounded enough]

/-- An archive whose first block is too long for its length to be read cannot be read. -/
theorem length_of_decode_encode {root : Cid} {block : Block} {blocks : List Block}
    {archive : Archive} (decoded : decode (Archive.mk root (block :: blocks)).encode = .ok archive) :
    (blockBytes block).length < Varint.bound := by
  by_contra long
  have form : (Archive.mk root (block :: blocks)).encode = frame (headerValue root).encode ++
      (frame (blockBytes block) ++ blocks.flatMap fun other => frame (blockBytes other)) := rfl
  obtain ⟨fault, failed⟩ := readSection_beyond (Nat.le_of_not_lt long)
    (blocks.flatMap fun other => frame (blockBytes other))
  rw [decode, form, decodeFault, readSection_frame (Cbor.encode_ne_nil _) (length_header root)]
    at decoded
  simp only [readHeader_encode, readBlocks, failed] at decoded
  cases decoded

/-- Every archive can be written, and reads back with its root, its blocks in their order, and the
identifier and data of each. Blocks may repeat, hold nothing, and lack the root. -/
theorem archive_round_trip {archive : Archive}
    (bounded : ∀ block ∈ archive.blocks, (block.cid.toBytes ++ block.data).length < 2 ^ 64) :
    decode archive.encode = .ok archive := by
  have narrow : 2 ^ 64 = Varint.bound := by decide
  rw [narrow] at bounded
  rw [decode, decodeFault_encode bounded]
  rfl

/-- An archive without its root block, with a block of no data that stands in it twice and one whose
digest is as long as a digest can be. -/
def rootlessArchive : Archive where
  root := .v1 0xffffffffffffffff ⟨0, [], by decide⟩
  blocks :=
    [⟨.v0 (Vector.replicate 32 7), []⟩, ⟨.v0 (Vector.replicate 32 7), []⟩,
      ⟨.v1 0 ⟨0x13, List.replicate 64 9, by decide⟩, [0, 1]⟩]

theorem rootlessArchive_round_trip :
    (∀ block ∈ rootlessArchive.blocks, (block.cid.toBytes ++ block.data).length < 2 ^ 64) ∧
      decode rootlessArchive.encode = .ok rootlessArchive := by
  have bounded : ∀ block ∈ rootlessArchive.blocks,
      (block.cid.toBytes ++ block.data).length < 2 ^ 64 := by
    intro block member
    have cid_length := block.cid.length_toBytes
    have data_length : block.data.length ≤ 2 := by
      have each : ∀ block ∈ rootlessArchive.blocks, block.data.length ≤ 2 := by decide
      exact each block member
    rw [List.length_append]
    omega
  exact ⟨bounded, archive_round_trip bounded⟩

end SealedContent.Content.Archive
