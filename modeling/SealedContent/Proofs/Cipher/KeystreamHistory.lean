import SealedContent.Proofs.Cipher.Keystream

/-!
Histories of calls on one keystream, those that fail included. The bytes of the whole history are
masked with the keystream bytes of the same positions, up to the end of the last block; beyond it
every call fails and changes nothing.
-/

namespace SealedContent.Cipher.Keystream

open Bytes (startOf startOf_cons startOf_succ startOf_mono)

/-- The outcomes of calls made one after another, whether or not they fail. -/
def history (stream : Keystream) : List Bytes → List Applied
  | [] => []
  | buffer :: rest =>
      let applied := stream.apply buffer
      applied :: applied.after.history rest

variable {encrypt : Block → Block} {base : Counter} {position : Nat} {stream : Keystream}

theorem length_history (stream : Keystream) (buffers : List Bytes) :
    (stream.history buffers).length = buffers.length := by
  induction buffers generalizing stream with
  | nil => rfl
  | cons buffer rest induction => simp [history, induction]

theorem history_ends (here : At encrypt base position stream) {buffers : List Bytes} {index : Nat}
    {buffer : Bytes} (given : buffers[index]? = some buffer) :
    ∃ applied, (stream.history buffers)[index]? = some applied ∧
      Ends encrypt base (min (position + startOf buffers index) (16 * limit base)) buffer
        applied := by
  induction buffers generalizing stream position index with
  | nil => simp at given
  | cons first rest induction =>
      have ends := apply_ends here first
      cases index with
      | zero =>
          simp only [List.getElem?_cons_zero, Option.some.injEq] at given
          subst given
          refine ⟨_, rfl, ?_⟩
          rw [Bytes.startOf_zero, Nat.add_zero, Nat.min_eq_left here.within]
          exact ends
      | succ index =>
          rw [List.getElem?_cons_succ] at given
          obtain ⟨applied, found, later⟩ := induction ends.after given
          refine ⟨applied, found, ?_⟩
          have position_eq : min (min (position + first.length) (16 * limit base) +
              startOf rest index) (16 * limit base) =
                min (position + startOf (first :: rest) (index + 1)) (16 * limit base) := by
            rw [startOf_cons]
            omega
          rwa [position_eq] at later

theorem history_data (here : At encrypt base position stream) (buffers : List Bytes) :
    ((stream.history buffers).map Applied.data).flatten =
      maskFrom encrypt base position (buffers.flatten.take (16 * limit base - position)) ++
        buffers.flatten.drop (16 * limit base - position) := by
  induction buffers generalizing stream position with
  | nil => simp [history]
  | cons buffer rest induction =>
      have ends := apply_ends here buffer
      have within := here.within
      rw [history, List.map_cons, List.flatten_cons, ends.data_eq, induction ends.after,
        List.flatten_cons, List.take_append, List.drop_append, maskFrom_append, List.length_take]
      by_cases fits : buffer.length ≤ 16 * limit base - position
      · have next : min (position + buffer.length) (16 * limit base) =
            position + min (16 * limit base - position) buffer.length := by omega
        have room : 16 * limit base - (position + min (16 * limit base - position) buffer.length) =
            16 * limit base - position - buffer.length := by omega
        rw [next, room, List.drop_eq_nil_of_le fits, List.append_nil, List.nil_append,
          List.append_assoc]
      · have next : min (position + buffer.length) (16 * limit base) = 16 * limit base := by omega
        have room : 16 * limit base - position - buffer.length = 0 := by omega
        rw [next, room, Nat.sub_self, List.take_zero, maskFrom_nil, maskFrom_nil, List.drop_zero,
          List.nil_append, List.append_nil, List.append_assoc]

theorem history_byte (encrypt : Block → Block) (base : Counter) (buffers : List Bytes)
    (place : Nat) :
    ((((start encrypt base).history buffers).map Applied.data).flatten)[place]? =
      (buffers.flatten[place]?).map fun byte =>
        if place < 16 * limit base then byte ^^^ byteAt encrypt base place else byte := by
  rw [history_data (at_start encrypt base), Nat.sub_zero]
  generalize buffers.flatten = data
  by_cases inside : place < data.length
  · by_cases masked : place < 16 * limit base
    · have early : place < (data.take (16 * limit base)).length := by
        rw [List.length_take]
        omega
      rw [List.getElem?_append_left (by rwa [length_maskFrom]), getElem?_maskFrom, Nat.zero_add,
        List.getElem?_take_of_lt masked]
      simp only [if_pos masked]
    · have late : (data.take (16 * limit base)).length = 16 * limit base := by
        rw [List.length_take]
        omega
      rw [List.getElem?_append_right (by rw [length_maskFrom]; omega), length_maskFrom, late,
        List.getElem?_drop, Nat.add_sub_cancel' (Nat.le_of_not_lt masked)]
      simp only [if_neg masked, Option.map_id']
  · have beyond : data.length ≤ place := Nat.le_of_not_lt inside
    rw [List.getElem?_eq_none beyond, List.getElem?_eq_none]
    · rfl
    · rw [List.length_append, length_maskFrom, ← List.length_append, List.take_append_drop]
      exact beyond

theorem history_call (encrypt : Block → Block) (base : Counter) {buffers : List Bytes} {index : Nat}
    {buffer : Bytes} {applied : Applied} (given : buffers[index]? = some buffer)
    (call : ((start encrypt base).history buffers)[index]? = some applied) :
    let room := 16 * limit base - startOf buffers index
    applied.data =
        maskFrom encrypt base (startOf buffers index) (buffer.take room) ++ buffer.drop room ∧
      applied.after.blocksConsumed = min ((startOf buffers (index + 1) + 15) / 16) (limit base) ∧
      applied.failure =
        if buffer.length ≤ room then none
        else some (.counterOverflow applied.after.blocksConsumed) := by
  intro room
  obtain ⟨found, same, ends⟩ := history_ends (at_start encrypt base) given
  rw [call] at same
  cases same
  have after := startOf_succ given
  have consumed : applied.after.blocksConsumed =
      min ((startOf buffers (index + 1) + 15) / 16) (limit base) := by
    rw [ends.after.consumed]
    omega
  have left : 16 * limit base - min (0 + startOf buffers index) (16 * limit base) = room := by
    omega
  refine ⟨?_, consumed, ?_⟩
  · rw [ends.data_eq, left]
    by_cases started : startOf buffers index ≤ 16 * limit base
    · rw [Nat.zero_add, Nat.min_eq_left started]
    · have nothing : room = 0 := by omega
      rw [nothing, List.take_zero, maskFrom_nil, maskFrom_nil]
  · rw [ends.failure_eq]
    by_cases fits : buffer.length ≤ room
    · rw [if_pos fits, if_pos (by omega)]
    · have last : applied.after.blocksConsumed = limit base := by omega
      rw [if_neg fits, if_neg (by omega), last]

theorem history_failure (encrypt : Block → Block) (base : Counter) {buffers : List Bytes}
    {index : Nat} {failed : Applied} {failure : CipherError}
    (call : ((start encrypt base).history buffers)[index]? = some failed)
    (failing : failed.failure = some failure) :
    16 * limit base < startOf buffers (index + 1) ∧ failure = .counterOverflow (limit base) := by
  have inside : index < buffers.length := by
    have bound := (List.getElem?_eq_some_iff.mp call).1
    rwa [length_history] at bound
  have given := List.getElem?_eq_getElem inside
  obtain ⟨-, consumed, failure_eq⟩ := history_call encrypt base given call
  have after := startOf_succ given
  rw [failing] at failure_eq
  by_cases fits : buffers[index].length ≤ 16 * limit base - startOf buffers index
  · rw [if_pos fits] at failure_eq
    cases failure_eq
  · rw [if_neg fits] at failure_eq
    have last : failed.after.blocksConsumed = limit base := by omega
    rw [last] at failure_eq
    exact ⟨by omega, Option.some.inj failure_eq⟩

/-- Over any history of calls, byte number `place` of the data meets byte number `place` of the
keystream and no other. Where the blocks end, the call that needs one more fails: it has masked
what came before, it reports the blocks used, and no later call changes anything. -/
theorem history_masks_each_byte_once (encrypt : Block → Block) (base : Counter)
    (buffers : List Bytes) :
    let calls := (start encrypt base).history buffers
    let room index := 16 * limit base - startOf buffers index
    calls.length = buffers.length ∧
    (∀ place : Nat, (calls.map Applied.data).flatten[place]? =
      (buffers.flatten[place]?).map fun byte =>
        if place < 16 * limit base then byte ^^^ byteAt encrypt base place else byte) ∧
    IsLeast {index | base.value + index = 2 ^ 128 ∨ index = 2 ^ 64 - 1} (limit base) ∧
    (∀ index < limit base, base.value + index < 2 ^ 128 ∧
      base.increment index = .ok (Counter.ofNat (base.value + index)) ∧
      (Counter.ofNat (base.value + index)).value = base.value + index) ∧
    (∀ (index : Nat) (buffer : Bytes) (applied : Applied),
      buffers[index]? = some buffer → calls[index]? = some applied →
        applied.data = maskFrom encrypt base (startOf buffers index) (buffer.take (room index)) ++
          buffer.drop (room index) ∧
        applied.after.blocksConsumed =
          min ((startOf buffers (index + 1) + 15) / 16) (limit base) ∧
        applied.failure =
          if buffer.length ≤ room index then none
          else some (.counterOverflow applied.after.blocksConsumed)) ∧
    (∀ (index : Nat) (failed : Applied) (failure : CipherError),
      calls[index]? = some failed → failed.failure = some failure →
        ∀ (later : Nat) (buffer : Bytes) (applied : Applied), index < later →
          buffers[later]? = some buffer → calls[later]? = some applied →
            applied.data = buffer ∧
              applied.failure = if buffer = [] then none else some failure) := by
  intro calls room
  refine ⟨length_history _ _, history_byte encrypt base buffers, limit_isLeast base, ?_, ?_, ?_⟩
  · intro index below
    have fits := counter_fits below
    exact ⟨fits, by rw [Counter.increment_eq, if_pos fits], Counter.value_ofNat fits⟩
  · intro index buffer applied given call
    exact history_call encrypt base given call
  · intro index failed failure call failing later buffer applied after given laterCall
    obtain ⟨spent, overflow⟩ := history_failure encrypt base call failing
    have further : startOf buffers (index + 1) ≤ startOf buffers later := startOf_mono buffers after
    have onward := startOf_succ given
    obtain ⟨data_eq, consumed, failure_eq⟩ := history_call encrypt base given laterCall
    have nothing : 16 * limit base - startOf buffers later = 0 := by omega
    rw [nothing] at data_eq failure_eq
    rw [List.take_zero, maskFrom_nil, List.drop_zero, List.nil_append] at data_eq
    refine ⟨data_eq, ?_⟩
    by_cases empty : buffer = []
    · rw [failure_eq, if_pos empty, empty]
      rfl
    · have length := List.length_pos_iff.mpr empty
      have last : applied.after.blocksConsumed = limit base := by omega
      rw [failure_eq, if_neg empty, if_neg (by omega), last, overflow]

end SealedContent.Cipher.Keystream
