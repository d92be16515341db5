import SealedContent.Proofs.Cipher.Keystream
import SealedContent.Proofs.Cipher.Stage

/-!
Streams in counter mode. Each chunk comes out masked with the keystream bytes of its place, and the
first chunk that reaches past the last block becomes the error that ends the stream. What is
collected is therefore a function of the joined chunks.
-/

namespace SealedContent.Cipher.Keystream

open Bytes (startOf startOf_cons startOf_succ startOf_mono)

variable {encrypt : Block → Block} {base : Counter} {position : Nat} {stream : Keystream}

/-- The item that stands for a chunk starting at `position`, as long as the stream has not ended. -/
def itemAt (encrypt : Block → Block) (base : Counter) (position : Nat) (chunk : Bytes) :
    Option StreamItem :=
  if position + chunk.length ≤ 16 * limit base then some (.ok (maskFrom encrypt base position chunk))
  else if position ≤ 16 * limit base then some (.error (.counterOverflow (limit base)))
  else none

theorem itemAt_beyond (beyond : 16 * limit base < position) (chunk : Bytes) :
    itemAt encrypt base position chunk = none := by
  rw [itemAt, if_neg (by omega), if_neg (by omega)]

theorem step_ok (here : At encrypt base position stream) {chunk : Bytes}
    (fits : position + chunk.length ≤ 16 * limit base) :
    ∃ next, At encrypt base (position + chunk.length) next ∧
      keystreamStage.step stream chunk = .ok (some (maskFrom encrypt base position chunk), next) := by
  have ends := apply_ends here chunk
  refine ⟨(stream.apply chunk).after, ?_, ?_⟩
  · have after := ends.after
    rwa [Nat.min_eq_left fits] at after
  · have data := ends.data_eq
    rw [List.take_of_length_le (by omega), List.drop_eq_nil_of_le (by omega), List.append_nil]
      at data
    simp only [keystreamStage, ends.failure_eq, if_pos fits, data]

theorem step_error (here : At encrypt base position stream) {chunk : Bytes}
    (long : ¬ position + chunk.length ≤ 16 * limit base) :
    keystreamStage.step stream chunk = .error (.counterOverflow (limit base)) := by
  simp only [keystreamStage, (apply_ends here chunk).failure_eq, if_neg long]

theorem run_getElem? (here : At encrypt base position stream) (chunks : List Bytes) (index : Nat) :
    (keystreamStage.run stream (chunks.map .ok))[index]? =
      (chunks[index]?).bind fun chunk =>
        itemAt encrypt base (position + startOf chunks index) chunk := by
  induction chunks generalizing stream position index with
  | nil => simp [Stage.run, keystreamStage]
  | cons chunk rest induction =>
      rw [List.map_cons, Stage.run]
      by_cases fits : position + chunk.length ≤ 16 * limit base
      · obtain ⟨next, there, stepped⟩ := step_ok here fits
        rw [stepped]
        cases index with
        | zero => simp [itemAt, fits]
        | succ index =>
            simp only [List.getElem?_cons_succ]
            rw [induction there, startOf_cons, Nat.add_assoc]
      · rw [step_error here fits]
        cases index with
        | zero => simp [itemAt, fits, here.within]
        | succ index =>
            have ended : 16 * limit base < position + startOf (chunk :: rest) (index + 1) := by
              rw [startOf_cons]
              omega
            cases later : (chunk :: rest)[index + 1]? with
            | none => rfl
            | some laterChunk => exact (itemAt_beyond ended laterChunk).symm

theorem feed_ok (here : At encrypt base position stream) {chunks : List Bytes}
    (fits : position + chunks.flatten.length ≤ 16 * limit base) :
    ∃ outputs last, keystreamStage.feed stream chunks = .ok (outputs, last) ∧
      At encrypt base (position + chunks.flatten.length) last := by
  induction chunks generalizing stream position with
  | nil => exact ⟨[], stream, rfl, here⟩
  | cons chunk rest induction =>
      rw [List.flatten_cons, List.length_append, ← Nat.add_assoc] at fits ⊢
      have first : position + chunk.length ≤ 16 * limit base := by omega
      obtain ⟨next, there, stepped⟩ := step_ok here first
      obtain ⟨outputs, last, fed, at_last⟩ := induction there fits
      exact ⟨_, last, Stage.feed_cons stepped fed, at_last⟩

theorem collect_run (here : At encrypt base position stream) (chunks : List Bytes) :
    collect (keystreamStage.run stream (chunks.map .ok)) =
      if position + chunks.flatten.length ≤ 16 * limit base then
        .ok (maskFrom encrypt base position chunks.flatten)
      else .error (.counterOverflow (limit base)) := by
  induction chunks generalizing stream position with
  | nil =>
      rw [List.flatten_nil, List.length_nil, Nat.add_zero, if_pos here.within]
      rfl
  | cons chunk rest induction =>
      rw [List.map_cons, Stage.run, List.flatten_cons, List.length_append, ← Nat.add_assoc]
      by_cases fits : position + chunk.length ≤ 16 * limit base
      · obtain ⟨next, there, stepped⟩ := step_ok here fits
        rw [stepped]
        simp only [collect_ok, induction there]
        by_cases all : position + chunk.length + rest.flatten.length ≤ 16 * limit base
        · rw [if_pos all, if_pos all, maskFrom_append]
          rfl
        · rw [if_neg all, if_neg all]
          rfl
      · rw [step_error here fits, if_neg (by omega)]
        rfl

theorem collect_start (encrypt : Block → Block) (base : Counter) (chunks : List Bytes) :
    collect (keystreamStage.run (start encrypt base) (chunks.map .ok)) =
      if chunks.flatten.length ≤ 16 * limit base then
        .ok (maskFrom encrypt base 0 chunks.flatten)
      else .error (.counterOverflow (limit base)) := by
  have collected := collect_run (at_start encrypt base) chunks
  rwa [Nat.zero_add] at collected

/-- The exact stream in counter mode, item by item: a chunk of the input becomes a chunk of the same
length, each byte combined by exclusive or with the keystream byte of its place; the chunk that first
needs a block that is not there becomes the error, and nothing follows. What is collected depends on
the joined chunks only. -/
theorem counter_mode_stream (cipher : BlockCipher) (material : KeyMaterial) (chunks : List Bytes) :
    let encrypt := (cipher material.key).encrypt
    let base : Counter := ⟨material.iv.bytes⟩
    let last := limit base
    let items := encryptStream cipher .aesCtr material (chunks.map .ok)
    decryptStream cipher .aesCtr material (chunks.map .ok) = items ∧
    IsLeast {index | base.value + index = 2 ^ 128 ∨ index = 2 ^ 64 - 1} last ∧
    (∀ index < last, (Counter.ofNat (base.value + index)).value = base.value + index) ∧
    (∀ index : Nat, items[index]? =
      (chunks[index]?).bind fun chunk =>
        if startOf chunks index + chunk.length ≤ 16 * last then
          some (.ok (maskFrom encrypt base (startOf chunks index) chunk))
        else if startOf chunks index ≤ 16 * last then some (.error (.counterOverflow last))
        else none) ∧
    (∀ place chunk, (maskFrom encrypt base place chunk).length = chunk.length) ∧
    (∀ (place : Nat) (chunk : Bytes) (index : Nat), (maskFrom encrypt base place chunk)[index]? =
      (chunk[index]?).map fun byte => byte ^^^ byteAt encrypt base (place + index)) ∧
    (∀ count, startOf chunks count ≤ 16 * last → ∃ outputs stream,
      keystreamStage.feed (start encrypt base) (chunks.take count) = .ok (outputs, stream) ∧
        stream.blocksConsumed = (startOf chunks count + 15) / 16) ∧
    collect items =
      if chunks.flatten.length ≤ 16 * last then .ok (maskFrom encrypt base 0 chunks.flatten)
      else .error (.counterOverflow last) := by
  intro encrypt base last items
  refine ⟨rfl, limit_isLeast base, ?_, ?_, length_maskFrom encrypt base,
    fun place chunk index => getElem?_maskFrom encrypt base place index chunk, ?_, ?_⟩
  · intro index below
    exact Counter.value_ofNat (counter_fits below)
  · intro index
    have item := run_getElem? (at_start encrypt base) chunks index
    rw [Nat.zero_add] at item
    exact item
  · intro count fits
    have enough : 0 + (chunks.take count).flatten.length ≤ 16 * limit base := by
      rw [Nat.zero_add]
      exact fits
    obtain ⟨outputs, stream, fed, there⟩ := feed_ok (at_start encrypt base) enough
    refine ⟨outputs, stream, fed, ?_⟩
    rw [there.consumed, Nat.zero_add]
    rfl
  · exact collect_start encrypt base chunks

end SealedContent.Cipher.Keystream
