import SealedContent.Proofs.Cipher.CounterMode
import SealedContent.Proofs.Cipher.OpenedForm

/-!
Streams whose source breaks off. What was made of the chunks before the break comes out, then the error of
the source, and nothing more: a stage is told of the end of its input only when there is one, so a
truncated source never gets the last block of a complete one. An error of the cipher ends a stream as well.
-/

namespace SealedContent.Cipher

/-- At most one of the items is an error, and it is the last one. -/
def FailStop (items : List StreamItem) : Prop :=
  ∃ chunks : List Bytes, items = chunks.map .ok ∨
    ∃ failure, items = chunks.map .ok ++ [.error failure]

theorem FailStop.ok {items : List StreamItem} (stops : FailStop items) (chunk : Bytes) :
    FailStop (.ok chunk :: items) := by
  obtain ⟨chunks, rfl | ⟨failure, rfl⟩⟩ := stops
  · exact ⟨chunk :: chunks, .inl rfl⟩
  · exact ⟨chunk :: chunks, .inr ⟨failure, rfl⟩⟩

theorem failStop_error (failure : CipherError) : FailStop [.error failure] :=
  ⟨[], .inr ⟨failure, rfl⟩⟩

theorem error_notMem_map_ok (failure : CipherError) (chunks : List Bytes) :
    .error failure ∉ (chunks.map .ok : List StreamItem) := by
  simp

namespace Stage

variable {State : Type} {stage : Stage State} {state last : State} {chunks outputs : List Bytes}

/-- The items that a stage makes of some chunks while it is not told that the stream ends with them. A
chunk that it cannot take becomes the error that ends the items. -/
def yields (stage : Stage State) (state : State) : List Bytes → List StreamItem
  | [] => []
  | chunk :: rest =>
      match stage.step state chunk with
      | .error failure => [.error failure]
      | .ok (output, next) => output.toList.map .ok ++ stage.yields next rest

theorem yields_of_feed (fed : stage.feed state chunks = .ok (outputs, last)) :
    stage.yields state chunks = outputs.map .ok := by
  induction chunks generalizing state outputs with
  | nil =>
      cases fed
      rfl
  | cons chunk chunks induction =>
      obtain ⟨output, next, laterOutputs, stepped, later, rfl⟩ := exists_of_feed_cons fed
      rw [yields, stepped]
      dsimp only
      rw [induction later, List.map_append]

/-- A stage takes all of the chunks, or it stops at one of them, whatever comes after it. -/
theorem feed_or_stop (stage : Stage State) (state : State) (chunks : List Bytes) :
    (∃ outputs last, stage.feed state chunks = .ok (outputs, last)) ∨
      ∃ (outputs : List Bytes) (failure : CipherError),
        stage.yields state chunks = outputs.map .ok ++ [.error failure] ∧
        ∀ rest, stage.run state (chunks.map .ok ++ rest) = stage.yields state chunks := by
  induction chunks generalizing state with
  | nil => exact .inl ⟨[], state, rfl⟩
  | cons chunk chunks induction =>
      cases stepped : stage.step state chunk with
      | error failure =>
          refine .inr ⟨[], failure, ?_, fun rest => ?_⟩
          · rw [yields, stepped]
            rfl
          · rw [List.map_cons, List.cons_append, run, yields, stepped]
      | ok pair =>
          obtain ⟨output, next⟩ := pair
          rcases induction next with ⟨outputs, last, fed⟩ | ⟨outputs, failure, stopped, runs⟩
          · exact .inl ⟨_, last, feed_cons stepped fed⟩
          · refine .inr ⟨output.toList ++ outputs, failure, ?_, fun rest => ?_⟩
            · rw [yields, stepped]
              dsimp only
              rw [stopped, List.map_append, List.append_assoc]
            · rw [List.map_cons, List.cons_append, run, yields, stepped]
              dsimp only
              cases output with
              | none => exact runs rest
              | some bytes => exact congrArg (.ok bytes :: ·) (runs rest)

theorem run_append_error (taken : ∀ failure, .error failure ∉ stage.yields state chunks)
    (failure : CipherError) (rest : List StreamItem) :
    stage.run state (chunks.map .ok ++ .error failure :: rest) =
      stage.yields state chunks ++ [.error failure] := by
  rcases stage.feed_or_stop state chunks with ⟨outputs, last, fed⟩ | ⟨outputs, error, stopped, -⟩
  · rw [run_append fed, run, yields_of_feed fed]
  · exact absurd (by simp [stopped]) (taken error)

theorem run_append_of_stopped {error : CipherError}
    (stopped : .error error ∈ stage.yields state chunks) (rest : List StreamItem) :
    stage.run state (chunks.map .ok ++ rest) = stage.yields state chunks := by
  rcases stage.feed_or_stop state chunks with ⟨outputs, last, fed⟩ | ⟨-, -, -, runs⟩
  · rw [yields_of_feed fed] at stopped
    exact absurd stopped (error_notMem_map_ok error outputs)
  · exact runs rest

/-- The end of the input adds to what was made of the chunks. -/
theorem exists_ending (taken : ∀ failure, .error failure ∉ stage.yields state chunks) :
    ∃ ending, stage.run state (chunks.map .ok) = stage.yields state chunks ++ ending := by
  rcases stage.feed_or_stop state chunks with ⟨outputs, last, fed⟩ | ⟨outputs, error, stopped, -⟩
  · have complete := run_append fed []
    rw [List.append_nil] at complete
    exact ⟨_, by rw [complete, yields_of_feed fed]⟩
  · exact absurd (by simp [stopped]) (taken error)

theorem run_failStop (stage : Stage State) (state : State) (items : List StreamItem) :
    FailStop (stage.run state items) := by
  induction items generalizing state with
  | nil =>
      rw [run]
      split
      · exact failStop_error _
      · exact ⟨[], .inl rfl⟩
      · rename_i chunk _
        exact ⟨[chunk], .inl rfl⟩
  | cons item rest induction =>
      cases item with
      | error failure => exact failStop_error failure
      | ok chunk =>
          rw [run]
          split
          · exact failStop_error _
          · exact induction _
          · exact (induction _).ok _

/-- A stage that adds nothing at the end makes of a stream what it makes of its chunks. -/
theorem run_eq_yields (nothing : ∀ state, stage.finish state = .ok none) (state : State)
    (chunks : List Bytes) : stage.run state (chunks.map .ok) = stage.yields state chunks := by
  rcases stage.feed_or_stop state chunks with ⟨outputs, last, fed⟩ | ⟨-, -, -, runs⟩
  · have complete := run_append fed []
    rw [List.append_nil, run, nothing] at complete
    rw [complete, yields_of_feed fed, List.append_nil]
  · have stopped := runs []
    rwa [List.append_nil] at stopped

theorem ne_nil_of_mem_feed
    (fills : ∀ state chunk output next, stage.step state chunk = .ok (some output, next) → output ≠ [])
    (fed : stage.feed state chunks = .ok (outputs, last)) : ∀ output ∈ outputs, output ≠ [] := by
  induction chunks generalizing state outputs with
  | nil =>
      cases fed
      exact List.forall_mem_nil _
  | cons chunk chunks induction =>
      obtain ⟨output, next, laterOutputs, stepped, later, rfl⟩ := exists_of_feed_cons fed
      intro bytes member
      rcases List.mem_append.mp member with first | rest
      · rw [Option.mem_toList.mp first] at stepped
        exact fills _ _ _ _ stepped
      · exact induction later bytes rest

end Stage

/-- How a stream ends early: what was made of the chunks comes first, and then one error, that of the
source or that of the cipher. -/
structure StopsWith (stream : List StreamItem → List StreamItem)
    (yielded : List Bytes → List StreamItem) : Prop where
  of_source : ∀ chunks failure rest, (∀ error, .error error ∉ yielded chunks) →
    stream (chunks.map .ok ++ .error failure :: rest) = yielded chunks ++ [.error failure]
  of_cipher : ∀ chunks error rest, .error error ∈ yielded chunks →
    stream (chunks.map .ok ++ rest) = yielded chunks
  at_most_once : ∀ items, FailStop (stream items)
  completed : ∀ chunks, (∀ error, .error error ∉ yielded chunks) →
    ∃ ending, stream (chunks.map .ok) = yielded chunks ++ ending

theorem Stage.stopsWith {State : Type} (stage : Stage State) (state : State) :
    StopsWith (stage.run state) (stage.yields state) where
  of_source _ failure rest taken := run_append_error taken failure rest
  of_cipher _ _ rest stopped := run_append_of_stopped stopped rest
  at_most_once := stage.run_failStop state
  completed _ taken := exists_ending taken

inductive Direction where
  | encryption
  | decryption

namespace Direction

variable (cipher : BlockCipher) (algorithm : CipherAlgorithm) (material : KeyMaterial)

def stream : Direction → List StreamItem → List StreamItem
  | .encryption => encryptStream cipher algorithm material
  | .decryption => decryptStream cipher algorithm material

/-- What a cipher makes of some chunks while it is not told that the stream ends with them. -/
def yielded (direction : Direction) : List Bytes → List StreamItem :=
  let permutation := cipher material.key
  let iv := material.iv.bytes
  match algorithm, direction with
  | .aesCtr, _ => keystreamStage.yields (Keystream.start permutation.encrypt ⟨iv⟩)
  | .aesCbc, .encryption => chainEncryptStage.yields ⟨permutation.encrypt, iv, []⟩
  | .aesCbc, .decryption => chainDecryptStage.yields ⟨permutation.decrypt, iv, [], 0⟩

theorem stopsWith (direction : Direction) :
    StopsWith (direction.stream cipher algorithm material)
      (direction.yielded cipher algorithm material) := by
  cases algorithm <;> cases direction <;> exact Stage.stopsWith _ _

end Direction

namespace Keystream

theorem yields_getElem? (encrypt : Block → Block) (base : Counter) (chunks : List Bytes)
    (index : Nat) :
    (keystreamStage.yields (start encrypt base) chunks)[index]? =
      (chunks[index]?).bind fun chunk =>
        itemAt encrypt base (Bytes.startOf chunks index) chunk := by
  have item := run_getElem? (at_start encrypt base) chunks index
  rw [Nat.zero_add] at item
  rw [← Stage.run_eq_yields (fun _ => rfl), item]

end Keystream

open Chaining

/-- Only whole blocks come out, and no padding. -/
theorem ChainEncryptor.exists_yields (encrypt : Block → Block) (iv : Block) (chunks : List Bytes) :
    ∃ outputs : List Bytes, chainEncryptStage.yields ⟨encrypt, iv, []⟩ chunks = outputs.map .ok ∧
      (∀ output ∈ outputs, output ≠ []) ∧
      outputs.flatten =
        (sealData encrypt iv chunks.flatten).take (16 * (chunks.flatten.length / 16)) := by
  obtain ⟨outputs, fed, released⟩ := feed_eq encrypt iv Block.nil_short chunks
  refine ⟨outputs, Stage.yields_of_feed fed, Stage.ne_nil_of_mem_feed ?_ fed, ?_⟩
  · intro state chunk output next stepped
    exact ne_nil_of_nonEmpty? (congrArg Prod.fst (Except.ok.inj stepped))
  · have sealedForm := take_sealData encrypt iv chunks.flatten []
    rw [List.append_nil] at sealedForm
    rw [released, List.nil_append, sealedForm]

/-- Only blocks that something follows come out, and nothing is said about the length or the padding. -/
theorem ChainDecryptor.exists_yields (decrypt : Block → Block) (iv : Block) (chunks : List Bytes) :
    ∃ outputs : List Bytes, chainDecryptStage.yields ⟨decrypt, iv, [], 0⟩ chunks = outputs.map .ok ∧
      (∀ output ∈ outputs, output ≠ []) ∧
      outputs.flatten =
        openData decrypt iv (chunks.flatten.take (16 * ((chunks.flatten.length - 1) / 16))) := by
  obtain ⟨outputs, fed, released⟩ :=
    feed_eq decrypt iv 0 (Nat.le_of_lt Block.nil_short) chunks
  refine ⟨outputs, Stage.yields_of_feed fed, Stage.ne_nil_of_mem_feed ?_ fed, ?_⟩
  · intro state chunk output next stepped
    exact ChainEncryptor.ne_nil_of_nonEmpty? (congrArg Prod.fst (Except.ok.inj stepped))
  · rw [released, List.nil_append, ← openData_join, (release_eq chunks.flatten).1]

/-- Where the source of a stream breaks off, the stream yields what it makes of the chunks before that
without being told that they end, then the error of the source, and nothing more; an error of the cipher
before that ends it in the same way. In counter mode the chunks come out masked, up to the one that needs
a block which is not there. Block chaining has no error of its own before the end: encryption has given
the sealed form of the whole blocks, without a padding, and decryption the opened form of the blocks that
something follows. -/
theorem streams_fail_stop (cipher : BlockCipher) (algorithm : CipherAlgorithm)
    (material : KeyMaterial) (direction : Direction) :
    let yielded := direction.yielded cipher algorithm material
    let permutation := cipher material.key
    let iv := material.iv.bytes
    StopsWith (direction.stream cipher algorithm material) yielded ∧
    ∀ chunks : List Bytes,
      let data := chunks.flatten
      match algorithm, direction with
      | .aesCtr, _ => ∀ index : Nat, (yielded chunks)[index]? =
          (chunks[index]?).bind fun chunk =>
            Keystream.itemAt permutation.encrypt ⟨iv⟩ (Bytes.startOf chunks index) chunk
      | .aesCbc, .encryption => ∃ outputs : List Bytes, yielded chunks = outputs.map .ok ∧
          (∀ output ∈ outputs, output ≠ []) ∧
          outputs.flatten =
            (sealData permutation.encrypt iv data).take (16 * (data.length / 16))
      | .aesCbc, .decryption => ∃ outputs : List Bytes, yielded chunks = outputs.map .ok ∧
          (∀ output ∈ outputs, output ≠ []) ∧
          outputs.flatten =
            openData permutation.decrypt iv (data.take (16 * ((data.length - 1) / 16))) := by
  intro yielded permutation iv
  refine ⟨direction.stopsWith cipher algorithm material, fun chunks => ?_⟩
  cases algorithm with
  | aesCtr => exact Keystream.yields_getElem? permutation.encrypt ⟨iv⟩ chunks
  | aesCbc =>
      cases direction with
      | encryption => exact ChainEncryptor.exists_yields permutation.encrypt iv chunks
      | decryption => exact ChainDecryptor.exists_yields permutation.decrypt iv chunks

end SealedContent.Cipher
