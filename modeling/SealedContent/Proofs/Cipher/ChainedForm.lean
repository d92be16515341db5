import Mathlib.Data.List.GetD
import Mathlib.Data.List.Range
import SealedContent.Proofs.Cipher.Chaining

/-!
Block chaining of all data at once, block by block, and the encryptor as a window on it. After any
chunks the encryptor has released the sealed form of every whole block it was given and holds the
bytes that are left over; the padding comes out with the last block and nothing comes out empty.
-/

namespace SealedContent.Cipher

namespace Block

/-- The block that starts at byte `16 * index`. -/
def ofIndex (data : Bytes) (index : Nat) : Block :=
  Vector.ofFn fun place => data.getD (16 * index + place) 0

theorem ofIndex_zero (block : Block) (data : Bytes) : ofIndex (block.toList ++ data) 0 = block := by
  apply Vector.ext
  intro place bound
  have inside : place < block.toList.length := by rwa [Vector.length_toList]
  simp only [ofIndex, Vector.getElem_ofFn, Nat.mul_zero, Nat.zero_add]
  rw [List.getD_append _ _ _ _ inside, List.getD_eq_getElem _ _ inside, Vector.getElem_toList]

theorem ofIndex_succ (block : Block) (data : Bytes) (index : Nat) :
    ofIndex (block.toList ++ data) (index + 1) = ofIndex data index := by
  apply Vector.ext
  intro place bound
  have beyond : block.toList.length ≤ 16 * (index + 1) + place := by
    rw [Vector.length_toList]
    omega
  have shifted : 16 * (index + 1) + place - 16 = 16 * index + place := by omega
  simp only [ofIndex, Vector.getElem_ofFn]
  rw [List.getD_append_right _ _ _ _ beyond, Vector.length_toList, shifted]

theorem get_ofIndex (data : Bytes) (index : Nat) (place : Fin 16) :
    (ofIndex data index).get place = data.getD (16 * index + place) 0 :=
  Vector.getElem_ofFn place.isLt

theorem ofIndex_join_append {blocks : List Block} {index : Nat} {block : Block}
    (found : blocks[index]? = some block) (rest : Bytes) :
    ofIndex (join blocks ++ rest) index = block := by
  induction blocks generalizing index with
  | nil => cases found
  | cons first others induction =>
      rw [join_cons, List.append_assoc]
      cases index with
      | zero =>
          rw [ofIndex_zero]
          exact Option.some.inj found
      | succ index =>
          rw [ofIndex_succ]
          exact induction found

theorem ofIndex_join {blocks : List Block} {index : Nat} {block : Block}
    (found : blocks[index]? = some block) : ofIndex (join blocks) index = block := by
  have alone := ofIndex_join_append found []
  rwa [List.append_nil] at alone

theorem xor_eq_ofFn (left right : Block) :
    left.xor right = Vector.ofFn fun place => left.get place ^^^ right.get place := by
  ext place bound
  rw [getElem_xor, Vector.getElem_ofFn]
  rfl

theorem length_split (data : Bytes) : (split data).1.length = data.length / 16 := by
  obtain ⟨blocks, rest, rfl, short⟩ := exists_blocks data
  rw [split_join blocks short, List.length_append, length_join]
  dsimp only
  omega

theorem split_rest (data : Bytes) : (split data).2 = data.drop (16 * (data.length / 16)) := by
  obtain ⟨blocks, rest, rfl, short⟩ := exists_blocks data
  have whole : 16 * ((join blocks ++ rest).length / 16) = (join blocks).length := by
    rw [List.length_append, length_join]
    omega
  rw [split_join blocks short, whole, List.drop_left]

end Block

namespace Chaining

/-- Block number `index` after sealing: each plain block is combined byte by byte with the sealed block
before it, the first with the initialization vector. -/
def sealedBlock (encrypt : Block → Block) (iv : Block) (plain : Nat → Block) : Nat → Block
  | 0 => encrypt (Vector.ofFn fun place => iv.get place ^^^ (plain 0).get place)
  | index + 1 => encrypt (Vector.ofFn fun place =>
      (sealedBlock encrypt iv plain index).get place ^^^ (plain (index + 1)).get place)

/-- All data sealed at once: the padded data, one block after the other. -/
def sealData (encrypt : Block → Block) (iv : Block) (data : Bytes) : Bytes :=
  (List.range (data.length / 16 + 1)).flatMap fun index =>
    (sealedBlock encrypt iv (Block.ofIndex (padded data)) index).toList

theorem length_encryptBlocks (encrypt : Block → Block) (previous : Block) (blocks : List Block) :
    (encryptBlocks encrypt previous blocks).length = blocks.length := by
  induction blocks generalizing previous with
  | nil => rfl
  | cons block blocks induction => rw [encryptBlocks, List.length_cons, induction, List.length_cons]

theorem lastOr_sealedBlock (encrypt : Block → Block) (iv : Block) (plain : Nat → Block)
    (count : Nat) :
    encrypt ((lastOr iv ((List.range count).map (sealedBlock encrypt iv plain))).xor (plain count)) =
      sealedBlock encrypt iv plain count := by
  rw [Block.xor_eq_ofFn]
  cases count with
  | zero => rfl
  | succ count =>
      rw [List.range_succ, List.map_append, lastOr_append]
      rfl

theorem encryptBlocks_eq_map (encrypt : Block → Block) (iv : Block) {plain : Nat → Block}
    {blocks : List Block} (opposite : ∀ index block, blocks[index]? = some block → plain index = block) :
    encryptBlocks encrypt iv blocks =
      (List.range blocks.length).map (sealedBlock encrypt iv plain) := by
  -- The last block is chained to all before it, so the list is peeled from its end.
  induction blocks using List.reverseRecOn with
  | nil => rfl
  | append_singleton blocks last induction =>
      have earlier := induction fun index block found =>
        opposite index block (List.getElem?_append_left (List.getElem?_eq_some_iff.mp found).1 ▸ found)
      have final : plain blocks.length = last := opposite _ _ (by simp)
      rw [encryptBlocks_append, earlier, List.length_append, List.length_singleton, List.range_succ,
        List.map_append, List.map_singleton, ← lastOr_sealedBlock, final]
      rfl

theorem length_padded (data : Bytes) :
    (padded data).length = 16 * (data.length / 16 + 1) := by
  simp only [padded, List.length_append, List.length_replicate]
  omega

theorem sealData_eq_join (encrypt : Block → Block) (iv : Block) (data : Bytes) :
    sealData encrypt iv data =
      Block.join (encryptBlocks encrypt iv (Block.split (padded data)).1) := by
  obtain ⟨blocks, rest, cut, short⟩ := Block.exists_blocks (padded data)
  have size := length_padded data
  rw [cut, List.length_append, Block.length_join] at size
  have whole : rest = [] := List.eq_nil_of_length_eq_zero (by omega)
  have count : blocks.length = data.length / 16 + 1 := by omega
  subst whole
  rw [List.append_nil] at cut
  have opposite : ∀ index block, blocks[index]? = some block →
      Block.ofIndex (padded data) index = block := by
    intro index block found
    rw [cut]
    exact Block.ofIndex_join found
  have blocks_eq := Block.split_join blocks Block.nil_short
  rw [List.append_nil, ← cut] at blocks_eq
  rw [blocks_eq, encryptBlocks_eq_map encrypt iv opposite, count, Block.join, List.flatMap_map]
  rfl

theorem length_sealData (encrypt : Block → Block) (iv : Block) (data : Bytes) :
    (sealData encrypt iv data).length = 16 * (data.length / 16 + 1) := by
  rw [sealData_eq_join, Block.length_join, length_encryptBlocks, Block.length_split, length_padded]
  omega

theorem ofIndex_sealData (encrypt : Block → Block) (iv : Block) {data : Bytes} {index : Nat}
    (inside : index ≤ data.length / 16) :
    Block.ofIndex (sealData encrypt iv data) index =
      sealedBlock encrypt iv (Block.ofIndex (padded data)) index := by
  have joined : sealData encrypt iv data = Block.join ((List.range (data.length / 16 + 1)).map
      (sealedBlock encrypt iv (Block.ofIndex (padded data)))) :=
    (List.flatMap_map _ _ _).symm
  rw [joined]
  apply Block.ofIndex_join
  rw [List.getElem?_map, List.getElem?_range (by omega), Option.map_some]

/-- The chain, byte by byte: behind the initialization vector, each block of the sealed form is the
encryption of the block before it combined with the padded data of its own place. -/
theorem sealData_chain (encrypt : Block → Block) (iv : Block) {data : Bytes} {index : Nat}
    (inside : index ≤ data.length / 16) :
    let chain := iv.toList ++ sealData encrypt iv data
    Block.ofIndex chain (index + 1) = encrypt (Vector.ofFn fun place =>
      chain.getD (16 * index + place) 0 ^^^ (padded data).getD (16 * index + place) 0) := by
  intro chain
  have combined : (Vector.ofFn fun place : Fin 16 =>
      chain.getD (16 * index + place) 0 ^^^ (padded data).getD (16 * index + place) 0) =
      Vector.ofFn fun place =>
        (Block.ofIndex chain index).get place ^^^ (Block.ofIndex (padded data) index).get place := by
    simp only [Block.get_ofIndex]
  rw [combined, Block.ofIndex_succ, ofIndex_sealData encrypt iv inside]
  cases index with
  | zero => rw [Block.ofIndex_zero, sealedBlock]
  | succ index =>
      rw [Block.ofIndex_succ, ofIndex_sealData encrypt iv (Nat.le_of_succ_le inside), sealedBlock]

/-- The sealed form of whole blocks does not depend on what follows them. -/
theorem take_sealData (encrypt : Block → Block) (iv : Block) (given later : Bytes) :
    (sealData encrypt iv (given ++ later)).take (16 * (given.length / 16)) =
      Block.join (encryptBlocks encrypt iv (Block.split given).1) := by
  have size : (Block.join (encryptBlocks encrypt iv (Block.split given).1)).length =
      16 * (given.length / 16) := by
    rw [Block.length_join, length_encryptBlocks, Block.length_split]
  rw [sealData_eq_join, padded, List.append_assoc, Block.split_append, encryptBlocks_append,
    Block.join_append, List.take_left' size]

theorem exists_padding {tail : Bytes} (short : tail.length < 16) :
    ∃ count, 1 ≤ count ∧ count ≤ 16 ∧ tail.length + count = 16 ∧
      pad tail = tail ++ List.replicate count (UInt8.ofNat count) :=
  ⟨16 - tail.length, by omega, by omega, by omega, rfl⟩

end Chaining

namespace ChainEncryptor

open Chaining

theorem ne_nil_of_nonEmpty? {chunk output : Bytes} (kept : nonEmpty? chunk = some output) :
    output ≠ [] := by
  rw [nonEmpty?] at kept
  split at kept
  · cases kept
  · rename_i filled
    cases kept
    rintro rfl
    exact filled rfl

theorem exists_of_mem_run {state : ChainEncryptor} {chunks : List Bytes} {item : StreamItem}
    (member : item ∈ chainEncryptStage.run state (chunks.map .ok)) :
    ∃ bytes, item = .ok bytes ∧ bytes ≠ [] := by
  induction chunks generalizing state with
  | nil =>
      rw [List.map_nil, Stage.run] at member
      dsimp only [chainEncryptStage] at member
      cases last : nonEmpty? state.finish with
      | none =>
          rw [last] at member
          cases member
      | some bytes =>
          rw [last] at member
          exact ⟨bytes, List.mem_singleton.mp member, ne_nil_of_nonEmpty? last⟩
  | cons chunk rest induction =>
      rw [List.map_cons, Stage.run] at member
      dsimp only [chainEncryptStage] at member
      cases output : nonEmpty? (state.update chunk).1 with
      | none =>
          rw [output] at member
          exact induction member
      | some bytes =>
          rw [output] at member
          rcases List.mem_cons.mp member with first | later
          · exact ⟨bytes, first, ne_nil_of_nonEmpty? output⟩
          · exact induction later

/-- The exact stream of block chaining. After any of the chunks, what was yielded is the sealed form
of the whole blocks given so far and the encryptor holds the bytes left over, fewer than a block, so
that a padding of one to sixteen bytes completes them. At the end the sealed form of all data has
come out, wherever the data was cut, and no item was empty. The sealed form is the chain: each block
is the encryption of the block before it combined with the padded data. -/
theorem chained_stream (cipher : BlockCipher) (material : KeyMaterial) (chunks : List Bytes) :
    let encrypt := (cipher material.key).encrypt
    let iv := material.iv.bytes
    let data := chunks.flatten
    let whole := sealData encrypt iv data
    let chain := iv.toList ++ whole
    let items := encryptStream cipher .aesCbc material (chunks.map .ok)
    (∀ count : Nat, ∃ outputs state,
      let given := (chunks.take count).flatten
      chainEncryptStage.feed ⟨encrypt, iv, []⟩ (chunks.take count) = .ok (outputs, state) ∧
      items = outputs.map .ok ++ chainEncryptStage.run state ((chunks.drop count).map .ok) ∧
      outputs.flatten = whole.take (16 * (given.length / 16)) ∧
      state.pending = given.drop (16 * (given.length / 16)) ∧
      state.pending.length = given.length % 16 ∧
      ∃ padding, 1 ≤ padding ∧ padding ≤ 16 ∧ state.pending.length + padding = 16 ∧
        pad state.pending = state.pending ++ List.replicate padding (UInt8.ofNat padding)) ∧
    collect items = .ok whole ∧
    whole.length = 16 * (data.length / 16 + 1) ∧
    (∀ index ≤ data.length / 16, Block.ofIndex chain (index + 1) =
      encrypt (Vector.ofFn fun place =>
        chain.getD (16 * index + place) 0 ^^^ (padded data).getD (16 * index + place) 0)) ∧
    ∀ item ∈ items, ∃ bytes, item = .ok bytes ∧ bytes ≠ [] := by
  intro encrypt iv data whole chain items
  refine ⟨?_, ?_, length_sealData encrypt iv _, fun index inside => sealData_chain encrypt iv inside,
    fun item member => exists_of_mem_run member⟩
  · intro count
    obtain ⟨outputs, fed, released⟩ := feed_eq encrypt iv Block.nil_short (chunks.take count)
    rw [List.nil_append] at fed released
    have parts : chunks.flatten = (chunks.take count).flatten ++ (chunks.drop count).flatten := by
      rw [← List.flatten_append, List.take_append_drop]
    refine ⟨outputs, _, fed, ?_, ?_, Block.split_rest _, ?_, exists_padding (Block.split_rest_lt _)⟩
    · have onward := Stage.run_append fed ((chunks.drop count).map .ok)
      rwa [← List.map_append, List.take_append_drop] at onward
    · rw [released]
      dsimp only [whole, data]
      rw [parts, take_sealData]
    · rw [Block.split_rest, List.length_drop]
      omega
  · have collected := collect_run encrypt iv chunks
    rwa [← sealData_eq_join] at collected

end ChainEncryptor

end SealedContent.Cipher
