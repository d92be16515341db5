import SealedContent.Proofs.Cipher.ChainedForm

/-!
Block chaining undone for all data at once, block by block, and the decryptor as a window on it. After
any chunks the decryptor has released the opened form of every block that something follows, and holds
the one to sixteen bytes given last. So the last block is not released before its padding is checked,
and what is collected is told by length and padding of the whole.
-/

namespace SealedContent.Cipher

namespace Chaining

/-- Block number `index` after opening: combined byte by byte with the sealed block before it, the first
with the initialization vector. -/
def openedBlock (decrypt : Block → Block) (iv : Block) (sealedAt : Nat → Block) : Nat → Block
  | 0 => Vector.ofFn fun place => (decrypt (sealedAt 0)).get place ^^^ iv.get place
  | index + 1 => Vector.ofFn fun place =>
      (decrypt (sealedAt (index + 1))).get place ^^^ (sealedAt index).get place

/-- All whole blocks of the data opened at once, one after the other. -/
def openData (decrypt : Block → Block) (iv : Block) (data : Bytes) : Bytes :=
  (List.range (data.length / 16)).flatMap fun index =>
    (openedBlock decrypt iv (Block.ofIndex data) index).toList

/-- The body followed by one to sixteen bytes, each of which states how many there are. -/
def PadsTo (body whole : Bytes) : Prop :=
  ∃ count, 1 ≤ count ∧ count ≤ 16 ∧ whole = body ++ List.replicate count (UInt8.ofNat count)

theorem openedBlock_lastOr (decrypt : Block → Block) (iv : Block) {sealedAt : Nat → Block}
    {blocks : List Block}
    (opposite : ∀ index block, blocks[index]? = some block → sealedAt index = block) :
    (decrypt (sealedAt blocks.length)).xor (lastOr iv blocks) =
      openedBlock decrypt iv sealedAt blocks.length := by
  rw [Block.xor_eq_ofFn]
  cases blocks using List.reverseRecOn with
  | nil => rfl
  | append_singleton earlier last =>
      have before : sealedAt earlier.length = last := opposite _ _ (by simp)
      rw [lastOr_append, List.length_append, List.length_singleton, openedBlock, before]
      rfl

theorem decryptBlocks_eq_map (decrypt : Block → Block) (iv : Block) {sealedAt : Nat → Block}
    {blocks : List Block}
    (opposite : ∀ index block, blocks[index]? = some block → sealedAt index = block) :
    decryptBlocks decrypt iv blocks =
      (List.range blocks.length).map (openedBlock decrypt iv sealedAt) := by
  -- The last block is chained to the one before it, so the list is peeled from its end.
  induction blocks using List.reverseRecOn with
  | nil => rfl
  | append_singleton blocks last induction =>
      have shared : ∀ index block, blocks[index]? = some block → sealedAt index = block :=
        fun index block found => opposite index block
          (List.getElem?_append_left (List.getElem?_eq_some_iff.mp found).1 ▸ found)
      have final : sealedAt blocks.length = last := opposite _ _ (by simp)
      rw [decryptBlocks_append, induction shared, List.length_append, List.length_singleton,
        List.range_succ, List.map_append, List.map_singleton,
        ← openedBlock_lastOr decrypt iv shared, final]
      rfl

theorem openData_eq_join (decrypt : Block → Block) (iv : Block) (data : Bytes) :
    openData decrypt iv data = Block.join (decryptBlocks decrypt iv (Block.split data).1) := by
  obtain ⟨blocks, rest, rfl, short⟩ := Block.exists_blocks data
  have opposite : ∀ index block, blocks[index]? = some block →
      Block.ofIndex (Block.join blocks ++ rest) index = block :=
    fun index block found => Block.ofIndex_join_append found rest
  have count : (Block.join blocks ++ rest).length / 16 = blocks.length := by
    rw [List.length_append, Block.length_join]
    omega
  rw [Block.split_join blocks short, decryptBlocks_eq_map decrypt iv opposite, openData, count]
  exact (List.flatMap_map _ _ _).symm

theorem openData_join (decrypt : Block → Block) (iv : Block) (blocks : List Block) :
    openData decrypt iv (Block.join blocks) = Block.join (decryptBlocks decrypt iv blocks) := by
  have cut := Block.split_join blocks Block.nil_short
  rw [List.append_nil] at cut
  rw [openData_eq_join, cut]

theorem length_decryptBlocks (decrypt : Block → Block) (previous : Block) (blocks : List Block) :
    (decryptBlocks decrypt previous blocks).length = blocks.length := by
  induction blocks generalizing previous with
  | nil => rfl
  | cons block blocks induction => rw [decryptBlocks, List.length_cons, induction, List.length_cons]

theorem length_openData (decrypt : Block → Block) (iv : Block) (data : Bytes) :
    (openData decrypt iv data).length = 16 * (data.length / 16) := by
  rw [openData_eq_join, Block.length_join, length_decryptBlocks, Block.length_split]

/-- The opened form, byte by byte: the decryption of each block combined with the block before it. -/
theorem ofIndex_openData (decrypt : Block → Block) (iv : Block) {data : Bytes} {index : Nat}
    (inside : index < data.length / 16) :
    Block.ofIndex (openData decrypt iv data) index = Vector.ofFn fun place =>
      (decrypt (Block.ofIndex data index)).get place ^^^
        (iv.toList ++ data).getD (16 * index + place) 0 := by
  have joined : openData decrypt iv data = Block.join ((List.range (data.length / 16)).map
      (openedBlock decrypt iv (Block.ofIndex data))) :=
    (List.flatMap_map _ _ _).symm
  have found : ((List.range (data.length / 16)).map
      (openedBlock decrypt iv (Block.ofIndex data)))[index]? =
      some (openedBlock decrypt iv (Block.ofIndex data) index) := by
    rw [List.getElem?_map, List.getElem?_range inside, Option.map_some]
  simp only [← Block.get_ofIndex]
  rw [joined, Block.ofIndex_join found]
  cases index with
  | zero => rw [Block.ofIndex_zero, openedBlock]
  | succ index => rw [Block.ofIndex_succ, openedBlock]

/-- The check of a final block finds the one body that it pads, if there is one. -/
theorem unpad?_eq_some_iff {last body : Bytes} (size : last.length = 16) :
    unpad? last = some body ↔ PadsTo body last := by
  constructor
  · intro found
    simp only [unpad?] at found
    split at found
    · rename_i valid
      obtain ⟨some, most, uniform⟩ := valid
      generalize (last.getLast?.getD 0).toNat = count at some most uniform found
      refine ⟨count, some, most, ?_⟩
      have filling : last.drop (last.length - count) =
          List.replicate count (UInt8.ofNat count) := by
        rw [List.eq_replicate_iff]
        constructor
        · rw [List.length_drop]
          omega
        · intro byte member
          have value := of_decide_eq_true (List.all_eq_true.mp uniform byte member)
          rw [← value, UInt8.ofNat_toNat]
      rw [← Option.some.inj found, ← filling, List.take_append_drop]
    · cases found
  · rintro ⟨count, some, most, rfl⟩
    rw [List.length_append, List.length_replicate] at size
    have missing : 16 - body.length = count := by omega
    have filled : body ++ List.replicate count (UInt8.ofNat count) = pad body := by
      rw [pad, missing]
    rw [filled]
    exact unpad?_pad (by omega)

/-- A padding lies within the last block, whatever stands before that block. -/
theorem padsTo_append_iff {front last body : Bytes} (size : last.length = 16) :
    PadsTo body (front ++ last) ↔ ∃ tail, PadsTo tail last ∧ body = front ++ tail := by
  constructor
  · rintro ⟨count, some, most, whole⟩
    rcases List.append_eq_append_iff.mp whole with ⟨tail, parts, rest⟩ | ⟨extra, parts, rest⟩
    · exact ⟨tail, ⟨count, some, most, rest⟩, parts⟩
    · have none_extra : extra = [] := by
        have lengths := congrArg List.length rest
        rw [List.length_replicate, List.length_append] at lengths
        exact List.eq_nil_of_length_eq_zero (by omega)
      subst none_extra
      rw [List.append_nil] at parts
      exact ⟨[], ⟨count, some, most, rest.symm⟩, by rw [parts, List.append_nil]⟩
  · rintro ⟨tail, ⟨count, some, most, rfl⟩, rfl⟩
    exact ⟨count, some, most, (List.append_assoc _ _ _).symm⟩

end Chaining

namespace ChainDecryptor

open Chaining

/-- All whole blocks that something follows are released, and the rest is held. -/
theorem release_eq (data : Bytes) :
    Block.join (release data).1 = data.take (16 * ((data.length - 1) / 16)) ∧
      (release data).2 = data.drop (16 * ((data.length - 1) / 16)) := by
  by_cases empty : data = []
  · subst empty
    rw [release_held (Nat.le_of_lt Block.nil_short)]
    exact ⟨rfl, rfl⟩
  · obtain ⟨ready, held, rfl, some, most⟩ := exists_release empty
    have least := List.length_pos_of_ne_nil some
    have front : 16 * (((Block.join ready ++ held).length - 1) / 16) = (Block.join ready).length := by
      rw [List.length_append, Block.length_join]
      omega
    rw [release_join ready some most, front, List.take_left, List.drop_left]
    exact ⟨rfl, rfl⟩

theorem collect_incomplete (decrypt : Block → Block) (iv : Block) {chunks : List Bytes}
    (incomplete : chunks.flatten = [] ∨ chunks.flatten.length % 16 ≠ 0) :
    collect (chainDecryptStage.run ⟨decrypt, iv, [], 0⟩ (chunks.map .ok)) =
      .error (.invalidCiphertextLength chunks.flatten.length) := by
  have held_size : (release chunks.flatten).2.length ≠ 16 := by
    rw [(release_eq _).2, List.length_drop]
    rcases incomplete with empty | partial_block
    · rw [empty]
      decide
    · omega
  have no_block : Block.ofBytes? (release chunks.flatten).2 = none := by
    rw [Block.ofBytes?, Bytes.toVector?, dif_neg held_size]
  rw [collect_run]
  simp only [finish, no_block]
  rfl

theorem collect_whole (decrypt : Block → Block) (iv : Block) {chunks : List Bytes}
    (some : chunks.flatten ≠ []) (whole : chunks.flatten.length % 16 = 0) :
    let plain := openData decrypt iv chunks.flatten
    let collected := collect (chainDecryptStage.run ⟨decrypt, iv, [], 0⟩ (chunks.map .ok))
    (∀ body, PadsTo body plain → collected = .ok body) ∧
      ((∀ body, ¬ PadsTo body plain) → collected = .error .invalidPadding) := by
  intro plain collected
  obtain ⟨ready, held, parts, held_some, most⟩ := exists_release some
  have least := List.length_pos_of_ne_nil held_some
  have held_size : held.length = 16 := by
    rw [parts, List.length_append, Block.length_join] at whole
    omega
  obtain ⟨last, rfl⟩ := Block.exists_toList held_size
  let opened := (decrypt last).xor (lastOr iv ready)
  have plain_eq : plain = Block.join (decryptBlocks decrypt iv ready) ++ opened.toList := by
    have joined : Block.join ready ++ last.toList = Block.join (ready ++ [last]) := by
      rw [Block.join_append, Block.join_singleton]
    dsimp only [plain]
    rw [parts, joined, openData_join, decryptBlocks_append, Block.join_append]
    exact congrArg (Block.join (decryptBlocks decrypt iv ready) ++ ·) (Block.join_singleton opened)
  have opened_size : opened.toList.length = 16 := Vector.length_toList
  have released := release_join ready held_some most
  have collected_eq : collected = (finish ⟨decrypt, lastOr iv ready, last.toList,
      chunks.flatten.length⟩).map (Block.join (decryptBlocks decrypt iv ready) ++ ·) := by
    dsimp only [collected]
    rw [collect_run, parts, released]
  rw [plain_eq, collected_eq, finish]
  simp only [Block.ofBytes?_toList]
  constructor
  · intro body padded
    obtain ⟨tail, last_padded, rfl⟩ := (padsTo_append_iff opened_size).mp padded
    rw [(unpad?_eq_some_iff opened_size).mpr last_padded]
    rfl
  · intro unpadded
    have refused : unpad? opened.toList = none := by
      rw [Option.eq_none_iff_forall_not_mem]
      intro tail found
      have last_padded := (unpad?_eq_some_iff opened_size).mp found
      exact unpadded _ ((padsTo_append_iff opened_size).mpr ⟨tail, last_padded, rfl⟩)
    rw [refused]
    rfl

/-- The exact stream of opening a chain. What is collected is an error about the length unless the data
are whole blocks, at least one, an error about the padding unless their opened form is a padded body,
and else that body. After any of the chunks, what was yielded is the opened form of the blocks that
something follows, and the decryptor holds the other bytes, no more than one block. The opened form of
any bytes is the decryption of each of their blocks combined with the block before it. -/
theorem opened_stream (cipher : BlockCipher) (material : KeyMaterial) (chunks : List Bytes) :
    let decrypt := (cipher material.key).decrypt
    let iv := material.iv.bytes
    let data := chunks.flatten
    let plain := openData decrypt iv data
    let items := decryptStream cipher .aesCbc material (chunks.map .ok)
    (data = [] ∨ data.length % 16 ≠ 0 →
      collect items = .error (.invalidCiphertextLength data.length)) ∧
    (data ≠ [] → data.length % 16 = 0 →
      (∀ body, PadsTo body plain → collect items = .ok body) ∧
        ((∀ body, ¬ PadsTo body plain) → collect items = .error .invalidPadding)) ∧
    (∀ count : Nat, ∃ outputs state,
      let given := (chunks.take count).flatten
      let released := 16 * ((given.length - 1) / 16)
      chainDecryptStage.feed ⟨decrypt, iv, [], 0⟩ (chunks.take count) = .ok (outputs, state) ∧
      items = outputs.map .ok ++ chainDecryptStage.run state ((chunks.drop count).map .ok) ∧
      outputs.flatten = openData decrypt iv (given.take released) ∧
      state.pending = given.drop released ∧
      state.pending.length ≤ 16) ∧
    ∀ bytes : Bytes, (openData decrypt iv bytes).length = 16 * (bytes.length / 16) ∧
      ∀ index < bytes.length / 16, Block.ofIndex (openData decrypt iv bytes) index =
        Vector.ofFn fun place => (decrypt (Block.ofIndex bytes index)).get place ^^^
          (iv.toList ++ bytes).getD (16 * index + place) 0 := by
  intro decrypt iv data plain items
  refine ⟨collect_incomplete decrypt iv, collect_whole decrypt iv, ?_, fun bytes =>
    ⟨length_openData decrypt iv bytes, fun index inside => ofIndex_openData decrypt iv inside⟩⟩
  intro count
  obtain ⟨outputs, fed, joined⟩ :=
    feed_eq decrypt iv 0 (Nat.le_of_lt Block.nil_short) (chunks.take count)
  rw [List.nil_append] at fed joined
  obtain ⟨ready_eq, held_eq⟩ := release_eq (chunks.take count).flatten
  refine ⟨outputs, _, fed, ?_, ?_, held_eq, release_held_le _⟩
  · have onward := Stage.run_append fed ((chunks.drop count).map .ok)
    rwa [← List.map_append, List.take_append_drop] at onward
  · rw [joined, ← openData_join, ready_eq]

end ChainDecryptor

end SealedContent.Cipher
