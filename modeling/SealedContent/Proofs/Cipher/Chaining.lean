import Mathlib.Data.List.Induction
import SealedContent.Proofs.Cipher.Blocks
import SealedContent.Proofs.Cipher.Stage

/-!
Block chaining over a chunked stream. Each direction is described by the joined chunks: what has been
released after some of them, what is held, and the block that the next one is chained to.
-/

namespace SealedContent.Cipher

namespace Chaining

/-- The block that the block after `blocks` is chained to. -/
def lastOr (first : Block) (blocks : List Block) : Block := blocks.getLast?.getD first

theorem lastOr_append (first : Block) (left right : List Block) :
    lastOr first (left ++ right) = lastOr (lastOr first left) right := by
  cases right using List.reverseRecOn with
  | nil => rw [List.append_nil]; rfl
  | append_singleton right last => simp [lastOr, ← List.append_assoc]

theorem lastOr_cons (first block : Block) (blocks : List Block) :
    lastOr first (block :: blocks) = lastOr block blocks :=
  lastOr_append first [block] blocks

theorem encryptBlocks_append (encrypt : Block → Block) (previous : Block) (left right : List Block) :
    encryptBlocks encrypt previous (left ++ right) =
      encryptBlocks encrypt previous left ++
        encryptBlocks encrypt (lastOr previous (encryptBlocks encrypt previous left)) right := by
  induction left generalizing previous with
  | nil => rfl
  | cons block left induction =>
      simp only [List.cons_append, encryptBlocks, induction, lastOr_cons]

theorem decryptBlocks_append (decrypt : Block → Block) (previous : Block) (left right : List Block) :
    decryptBlocks decrypt previous (left ++ right) =
      decryptBlocks decrypt previous left ++ decryptBlocks decrypt (lastOr previous left) right := by
  induction left generalizing previous with
  | nil => rfl
  | cons block left induction =>
      simp only [List.cons_append, decryptBlocks, induction, lastOr_cons]

theorem decryptBlocks_encryptBlocks (permutation : BlockPermutation) (previous : Block)
    (blocks : List Block) :
    decryptBlocks permutation.decrypt previous (encryptBlocks permutation.encrypt previous blocks) =
      blocks := by
  induction blocks generalizing previous with
  | nil => rfl
  | cons block blocks induction =>
      have opened : (previous.xor block).xor previous = block := by
        rw [Block.xor_comm previous block, Block.xor_xor_cancel]
      simp only [encryptBlocks, decryptBlocks, permutation.decrypt_encrypt, opened, induction]

theorem encryptBlocks_decryptBlocks (permutation : BlockPermutation) (previous : Block)
    (blocks : List Block) :
    encryptBlocks permutation.encrypt previous (decryptBlocks permutation.decrypt previous blocks) =
      blocks := by
  induction blocks generalizing previous with
  | nil => rfl
  | cons block blocks induction =>
      have chained : previous.xor ((permutation.decrypt block).xor previous) =
          permutation.decrypt block := by
        rw [Block.xor_comm previous, Block.xor_xor_cancel]
      simp only [encryptBlocks, decryptBlocks, chained, permutation.encrypt_decrypt, induction]

theorem length_pad {tail : Bytes} (short : tail.length < 16) : (pad tail).length = 16 := by
  simp only [pad, List.length_append, List.length_replicate]
  omega

theorem unpad?_pad {tail : Bytes} (short : tail.length < 16) : unpad? (pad tail) = some tail := by
  have count : (UInt8.ofNat (16 - tail.length)).toNat = 16 - tail.length := by
    rw [UInt8.toNat_ofNat']
    omega
  have last : (pad tail).getLast?.getD 0 = UInt8.ofNat (16 - tail.length) := by
    have nonzero : ¬ 16 - tail.length = 0 := by omega
    rw [pad, List.getLast?_append, List.getLast?_replicate, if_neg nonzero]
    rfl
  have keep : (pad tail).length - (16 - tail.length) = tail.length := by
    rw [length_pad short]
    omega
  have filling : (pad tail).drop tail.length =
      List.replicate (16 - tail.length) (UInt8.ofNat (16 - tail.length)) :=
    List.drop_left' rfl
  have uniform : ((pad tail).drop tail.length).all (fun byte => byte.toNat = 16 - tail.length) := by
    rw [filling, List.all_eq_true]
    intro byte member
    rw [List.eq_of_mem_replicate member, count]
    exact decide_eq_true rfl
  simp only [unpad?, last, count, keep]
  rw [if_pos ⟨by omega, by omega, uniform⟩]
  exact congrArg some (List.take_left' rfl)

/-- Data with its last block filled up; whole blocks get a further one. -/
def padded (data : Bytes) : Bytes :=
  data ++ List.replicate (16 - data.length % 16) (UInt8.ofNat (16 - data.length % 16))

/-- The blocks of padded data: those of the data, and one that holds the rest with its padding. -/
theorem split_padded (blocks : List Block) {tail : Bytes} (short : tail.length < 16) :
    ∃ last : Block, last.toList = pad tail ∧
      Block.split (padded (Block.join blocks ++ tail)) = (blocks ++ [last], []) := by
  obtain ⟨last, last_eq⟩ := Block.exists_toList (length_pad short)
  refine ⟨last, last_eq, ?_⟩
  have remainder : (Block.join blocks ++ tail).length % 16 = tail.length := by
    rw [List.length_append, Block.length_join]
    omega
  have whole : padded (Block.join blocks ++ tail) = Block.join (blocks ++ [last]) ++ [] := by
    rw [padded, remainder, Block.join_append, Block.join_singleton, last_eq, pad, List.append_nil,
      List.append_assoc]
  rw [whole]
  exact Block.split_join _ Block.nil_short

end Chaining

namespace ChainEncryptor

open Chaining

/-- After any chunks the encryptor has released the whole blocks of what it was given and holds the
rest. -/
theorem feed_eq (encrypt : Block → Block) (previous : Block) {pending : Bytes}
    (short : pending.length < 16) (chunks : List Bytes) :
    ∃ outputs, chainEncryptStage.feed ⟨encrypt, previous, pending⟩ chunks =
        .ok (outputs, ⟨encrypt,
          lastOr previous
            (encryptBlocks encrypt previous (Block.split (pending ++ chunks.flatten)).1),
          (Block.split (pending ++ chunks.flatten)).2⟩) ∧
      outputs.flatten =
        Block.join (encryptBlocks encrypt previous (Block.split (pending ++ chunks.flatten)).1) := by
  induction chunks generalizing previous pending with
  | nil =>
      rw [List.flatten_nil, List.append_nil, Block.split_short short]
      exact ⟨[], rfl, rfl⟩
  | cons chunk rest induction =>
      have shortNext := Block.split_rest_lt (pending ++ chunk)
      obtain ⟨outputs, fed, joined⟩ := induction
        (lastOr previous (encryptBlocks encrypt previous (Block.split (pending ++ chunk)).1))
        shortNext
      rw [List.flatten_cons, ← List.append_assoc, Block.split_append, encryptBlocks_append,
        lastOr_append]
      refine ⟨_, Stage.feed_cons rfl fed, ?_⟩
      rw [List.flatten_append, nonEmpty?_flatten, joined, Block.join_append]

/-- Encryption never fails, and what is collected is the chained form of the padded data. -/
theorem collect_run (encrypt : Block → Block) (iv : Block) (chunks : List Bytes) :
    collect (chainEncryptStage.run ⟨encrypt, iv, []⟩ (chunks.map .ok)) =
      .ok (Block.join (encryptBlocks encrypt iv (Block.split (padded chunks.flatten)).1)) := by
  obtain ⟨blocks, tail, data_eq, short⟩ := Block.exists_blocks chunks.flatten
  obtain ⟨last, last_eq, cut_padded⟩ := split_padded blocks short
  obtain ⟨outputs, fed, joined⟩ := feed_eq encrypt iv Block.nil_short chunks
  rw [List.nil_append, data_eq, Block.split_join blocks short] at fed joined
  have finished : ChainEncryptor.finish
      ⟨encrypt, lastOr iv (encryptBlocks encrypt iv blocks), tail⟩ =
        Block.join (encryptBlocks encrypt (lastOr iv (encryptBlocks encrypt iv blocks)) [last]) := by
    have only := Block.split_join [last] Block.nil_short
    rw [Block.join_singleton, List.append_nil, last_eq] at only
    rw [finish, only]
  have run_eq := Stage.run_append fed []
  rw [List.append_nil] at run_eq
  rw [run_eq, collect_append, Stage.collect_run_nil rfl, finished, joined, data_eq, cut_padded,
    encryptBlocks_append, Block.join_append]
  rfl

end ChainEncryptor

namespace ChainDecryptor

open Chaining

/-- Any bytes but the last one to sixteen can be released once more bytes are seen to follow. -/
theorem release_join (ready : List Block) {held : Bytes} (some : held ≠ [])
    (most : held.length ≤ 16) : release (Block.join ready ++ held) = (ready, held) := by
  rcases Nat.lt_or_eq_of_le most with short | full
  · have kept : ¬ held.isEmpty = true := fun empty => some (List.isEmpty_iff.mp empty)
    simp only [release, Block.split_join ready short, if_neg kept]
  · obtain ⟨last, rfl⟩ := Block.exists_toList full
    have whole : Block.join ready ++ last.toList = Block.join (ready ++ [last]) ++ [] := by
      rw [Block.join_append, Block.join_singleton, List.append_nil]
    simp only [release, whole, Block.split_join _ Block.nil_short]
    simp

theorem release_held {pending : Bytes} (most : pending.length ≤ 16) :
    release pending = ([], pending) := by
  by_cases empty : pending = []
  · subst empty
    simp only [release, Block.split_short Block.nil_short]
    rfl
  · exact release_join [] empty most

theorem exists_release {data : Bytes} (some : data ≠ []) :
    ∃ ready held, data = Block.join ready ++ held ∧ held ≠ [] ∧ held.length ≤ 16 := by
  obtain ⟨blocks, rest, rfl, short⟩ := Block.exists_blocks data
  by_cases empty : rest = []
  · subst empty
    cases blocks using List.reverseRecOn with
    | nil => exact absurd rfl some
    | append_singleton ready last =>
        refine ⟨ready, last.toList, ?_, ?_, Nat.le_of_eq Vector.length_toList⟩
        · rw [Block.join_append, Block.join_singleton, List.append_nil]
        · intro nothing
          have size : last.toList.length = 16 := Vector.length_toList
          rw [nothing] at size
          cases size
  · exact ⟨blocks, rest, rfl, empty, Nat.le_of_lt short⟩

theorem release_held_le (data : Bytes) : (release data).2.length ≤ 16 := by
  by_cases empty : data = []
  · subst empty
    rw [release_held (Nat.le_of_lt Block.nil_short)]
    decide
  · obtain ⟨ready, held, rfl, some, most⟩ := exists_release empty
    rwa [release_join ready some most]

theorem release_append (data more : Bytes) :
    release (data ++ more) =
      ((release data).1 ++ (release ((release data).2 ++ more)).1,
        (release ((release data).2 ++ more)).2) := by
  by_cases empty : data = []
  · subst empty
    rw [release_held (Nat.le_of_lt Block.nil_short)]
    rfl
  · obtain ⟨ready, held, rfl, some, most⟩ := exists_release empty
    have onward : held ++ more ≠ [] := List.append_ne_nil_of_left_ne_nil some more
    obtain ⟨laterReady, laterHeld, later, laterSome, laterMost⟩ := exists_release onward
    rw [release_join ready some most, List.append_assoc, later, ← List.append_assoc,
      ← Block.join_append, release_join _ laterSome laterMost, release_join _ laterSome laterMost]

theorem step_eq (decrypt : Block → Block) (previous : Block) (pending : Bytes) (total : Nat)
    (chunk : Bytes) :
    chainDecryptStage.step ⟨decrypt, previous, pending, total⟩ chunk =
      .ok (nonEmpty? (Block.join (decryptBlocks decrypt previous (release (pending ++ chunk)).1)),
        ⟨decrypt, lastOr previous (release (pending ++ chunk)).1, (release (pending ++ chunk)).2,
          total + chunk.length⟩) := rfl

/-- After any chunks the decryptor has released every block that something follows and holds at most
sixteen bytes. -/
theorem feed_eq (decrypt : Block → Block) (previous : Block) {pending : Bytes} (total : Nat)
    (most : pending.length ≤ 16) (chunks : List Bytes) :
    ∃ outputs, chainDecryptStage.feed ⟨decrypt, previous, pending, total⟩ chunks =
        .ok (outputs, ⟨decrypt, lastOr previous (release (pending ++ chunks.flatten)).1,
          (release (pending ++ chunks.flatten)).2, total + chunks.flatten.length⟩) ∧
      outputs.flatten =
        Block.join (decryptBlocks decrypt previous (release (pending ++ chunks.flatten)).1) := by
  induction chunks generalizing previous pending total with
  | nil =>
      rw [List.flatten_nil, List.append_nil, release_held most]
      exact ⟨[], rfl, rfl⟩
  | cons chunk rest induction =>
      have mostNext := release_held_le (pending ++ chunk)
      obtain ⟨outputs, fed, joined⟩ := induction
        (lastOr previous (release (pending ++ chunk)).1) (total + chunk.length) mostNext
      rw [List.flatten_cons, ← List.append_assoc, release_append, decryptBlocks_append,
        lastOr_append, List.length_append, ← Nat.add_assoc]
      refine ⟨_, Stage.feed_cons (step_eq decrypt previous pending total chunk) fed, ?_⟩
      rw [List.flatten_append, nonEmpty?_flatten, joined, Block.join_append]

theorem collect_finish (state : ChainDecryptor) :
    collect (chainDecryptStage.run state []) = state.finish := by
  cases finished : state.finish with
  | error failure =>
      have failed : chainDecryptStage.finish state = .error failure := by
        simp only [chainDecryptStage, finished]
        rfl
      rw [Stage.run, failed]
      rfl
  | ok last =>
      apply Stage.collect_run_nil
      simp only [chainDecryptStage, finished]
      rfl

/-- What is collected depends on the joined chunks only: the blocks released on the way, and what the
check of the last block leaves of it. -/
theorem collect_run (decrypt : Block → Block) (iv : Block) (chunks : List Bytes) :
    let cut := release chunks.flatten
    collect (chainDecryptStage.run ⟨decrypt, iv, [], 0⟩ (chunks.map .ok)) =
      (finish ⟨decrypt, lastOr iv cut.1, cut.2, chunks.flatten.length⟩).map
        (Block.join (decryptBlocks decrypt iv cut.1) ++ ·) := by
  intro cut
  obtain ⟨outputs, fed, joined⟩ := feed_eq decrypt iv 0 (Nat.le_of_lt Block.nil_short) chunks
  rw [List.nil_append, Nat.zero_add] at fed
  rw [List.nil_append] at joined
  have run_eq := Stage.run_append fed []
  rw [List.append_nil] at run_eq
  rw [run_eq, collect_append, joined, collect_finish]

end ChainDecryptor

end SealedContent.Cipher
