import Mathlib.Tactic.Linarith
import SealedContent.Cipher.Keystream
import SealedContent.Proofs.Bytes.Chunks
import SealedContent.Proofs.Cipher.Counter

/-!
The keystream as a function of the position in the masked data. The invariant `At` ties the block
count and the carried bytes to one position, and it survives a call that fails between two blocks.
A history of calls therefore uses every keystream byte at most once, in order and without a gap.
-/

namespace SealedContent.Cipher.Keystream

/-- How many blocks there are: the counter stays below `2 ^ 128`, the block count below `2 ^ 64`. -/
def limit (base : Counter) : Nat := min (2 ^ 128 - base.value) (2 ^ 64 - 1)

theorem counter_fits {base : Counter} {index : Nat} (below : index < limit base) :
    base.value + index < 2 ^ 128 := by
  have first : index < 2 ^ 128 - base.value := lt_of_lt_of_le below (Nat.min_le_left _ _)
  omega

theorem limit_isLeast (base : Counter) :
    IsLeast {index | base.value + index = 2 ^ 128 ∨ index = 2 ^ 64 - 1} (limit base) := by
  have bounded := base.value_lt
  constructor
  · by_cases counter : 2 ^ 128 - base.value ≤ 2 ^ 64 - 1
    · left
      rw [limit, Nat.min_eq_left counter]
      omega
    · right
      exact Nat.min_eq_right (by omega)
  · rintro index (last | last)
    · exact (Nat.min_le_left _ _).trans (by omega)
    · exact (Nat.min_le_right _ _).trans (by omega)

theorem nextBlock_eq (stream : Keystream) :
    stream.nextBlock =
      if stream.blocksConsumed < limit stream.base then
        .ok (stream.encrypt (Counter.ofNat (stream.base.value + stream.blocksConsumed)).bytes,
          { stream with blocksConsumed := stream.blocksConsumed + 1 })
      else .error (.counterOverflow stream.blocksConsumed) := by
  have size : countBound = 2 ^ 64 := rfl
  rw [nextBlock, Counter.increment_eq]
  by_cases below : stream.blocksConsumed < limit stream.base
  · have fits := counter_fits below
    have counted : stream.blocksConsumed + 1 < countBound := by
      have second := lt_of_lt_of_le below (Nat.min_le_right _ _)
      omega
    simp only [if_pos below, if_pos fits, if_pos counted]
    rfl
  · rw [if_neg below]
    by_cases fits : stream.base.value + stream.blocksConsumed < 2 ^ 128
    · have counted : ¬ stream.blocksConsumed + 1 < countBound := by
        rw [limit, Nat.lt_min] at below
        omega
      simp only [if_pos fits, if_neg counted]
      rfl
    · rw [if_neg fits]
      rfl

section Positions

variable (encrypt : Block → Block) (base : Counter)

/-- The bytes of block `index` are the encryption of the counter that far past the base. -/
def blockAt (index : Nat) : Block :=
  encrypt (Counter.ofNat (base.value + index)).bytes

def byteAt (position : Nat) : UInt8 :=
  (blockAt encrypt base (position / 16))[position % 16]

def segment (position count : Nat) : Bytes :=
  (List.range' position count).map (byteAt encrypt base)

/-- Data masked with the keystream from a position on, each byte by exclusive or with its own. -/
def maskFrom (position : Nat) (data : Bytes) : Bytes :=
  data.mapIdx fun index byte => byte ^^^ byteAt encrypt base (position + index)

@[simp] theorem length_segment (position count : Nat) :
    (segment encrypt base position count).length = count := by
  simp [segment]

@[simp] theorem length_maskFrom (position : Nat) (data : Bytes) :
    (maskFrom encrypt base position data).length = data.length := by
  simp [maskFrom]

@[simp] theorem maskFrom_nil (position : Nat) : maskFrom encrypt base position [] = [] := rfl

theorem segment_append (position first second : Nat) :
    segment encrypt base position (first + second) =
      segment encrypt base position first ++ segment encrypt base (position + first) second := by
  rw [segment, segment, segment, ← List.map_append, List.range'_append_1]

theorem drop_segment (position count total : Nat) :
    (segment encrypt base position total).drop count =
      segment encrypt base (position + count) (total - count) := by
  by_cases within : count ≤ total
  · obtain ⟨rest, rfl⟩ := Nat.exists_eq_add_of_le within
    rw [segment_append, Nat.add_sub_cancel_left]
    exact List.drop_left' (length_segment _ _ _ _)
  · have nothing : total - count = 0 := by omega
    rw [nothing, List.drop_eq_nil_of_le (by rw [length_segment]; omega)]
    rfl

theorem blockAt_toList (index : Nat) :
    (blockAt encrypt base index).toList = segment encrypt base (16 * index) 16 := by
  apply List.ext_getElem
  · simp
  · intro offset inBlock inSegment
    have small : offset < 16 := by simpa using inBlock
    have quotient : (16 * index + offset) / 16 = index := by omega
    have remainder : (16 * index + offset) % 16 = offset := by omega
    simp [segment, byteAt, quotient, remainder]

theorem getElem?_maskFrom (position index : Nat) (data : Bytes) :
    (maskFrom encrypt base position data)[index]? =
      data[index]?.map fun byte => byte ^^^ byteAt encrypt base (position + index) := by
  rw [maskFrom, List.getElem?_mapIdx]

theorem getElem?_segment (position : Nat) {index count : Nat} (inside : index < count) :
    (segment encrypt base position count)[index]? = some (byteAt encrypt base (position + index)) := by
  rw [segment, List.getElem?_map, List.getElem?_range' inside, Nat.one_mul, Option.map_some]

theorem mask_segment {count : Nat} (position : Nat) (data : Bytes) (enough : data.length ≤ count) :
    Bytes.mask data (segment encrypt base position count) = maskFrom encrypt base position data := by
  apply List.ext_getElem?
  intro index
  rw [getElem?_maskFrom]
  by_cases inside : index < data.length
  · have used := getElem?_segment encrypt base position (Nat.lt_of_lt_of_le inside enough)
    rw [List.getElem?_eq_getElem inside, Option.map_some]
    exact Bytes.getElem?_mask (List.getElem?_eq_getElem inside) used
  · have beyond := Nat.le_of_not_lt inside
    rw [List.getElem?_eq_none beyond, Option.map_none, List.getElem?_eq_none]
    rw [Bytes.length_mask]
    exact (Nat.min_le_left _ _).trans beyond

theorem maskFrom_append (position : Nat) (left right : Bytes) :
    maskFrom encrypt base position (left ++ right) =
      maskFrom encrypt base position left ++
        maskFrom encrypt base (position + left.length) right := by
  rw [maskFrom, List.mapIdx_append]
  congr 2
  funext index byte
  rw [Nat.add_assoc, Nat.add_comm left.length]

theorem maskFrom_maskFrom (position : Nat) (data : Bytes) :
    maskFrom encrypt base position (maskFrom encrypt base position data) = data := by
  apply List.ext_getElem?
  intro index
  rw [getElem?_maskFrom, getElem?_maskFrom, Option.map_map]
  have cancel : (fun byte => byte ^^^ byteAt encrypt base (position + index)) ∘
      (fun byte => byte ^^^ byteAt encrypt base (position + index)) = id := by
    funext byte
    rw [Function.comp_apply, UInt8.xor_assoc, UInt8.xor_self, UInt8.xor_zero, id]
  rw [cancel, Option.map_id, id]

/-- The state once `position` bytes have been masked: the block count covers them, and what the
last block has beyond them is carried. -/
structure At (position : Nat) (stream : Keystream) : Prop where
  encrypt_eq : stream.encrypt = encrypt
  base_eq : stream.base = base
  within : position ≤ 16 * limit base
  consumed : stream.blocksConsumed = (position + 15) / 16
  carried : stream.carry = segment encrypt base position (16 * stream.blocksConsumed - position)

/-- What a call on `data` comes to that starts at `position`. The bytes before the end of the last
block are masked, the others stay as given, and the next call starts where the masked bytes end. -/
structure Ends (position : Nat) (data : Bytes) (applied : Applied) : Prop where
  data_eq : applied.data =
    maskFrom encrypt base position (data.take (16 * limit base - position)) ++
      data.drop (16 * limit base - position)
  after : At encrypt base (min (position + data.length) (16 * limit base)) applied.after
  failure_eq : applied.failure =
    if position + data.length ≤ 16 * limit base then none else some (.counterOverflow (limit base))

theorem at_start : At encrypt base 0 (start encrypt base) :=
  ⟨rfl, rfl, Nat.zero_le _, rfl, rfl⟩

end Positions

section Calls

variable {encrypt : Block → Block} {base : Counter} {position : Nat} {stream : Keystream}

theorem At.consumed_le (here : At encrypt base position stream) :
    stream.blocksConsumed ≤ limit base := by
  have within := here.within
  have consumed := here.consumed
  omega

theorem At.nextBlock_eq (here : At encrypt base position stream) :
    stream.nextBlock =
      if stream.blocksConsumed < limit base then
        .ok (blockAt encrypt base stream.blocksConsumed,
          ⟨encrypt, base, stream.blocksConsumed + 1, stream.carry⟩)
      else .error (.counterOverflow stream.blocksConsumed) := by
  obtain rfl := here.encrypt_eq
  obtain rfl := here.base_eq
  exact Keystream.nextBlock_eq stream

/-- Nothing is carried exactly between two blocks. -/
theorem At.position_eq (here : At encrypt base position stream) (spent : stream.carry = []) :
    position = 16 * stream.blocksConsumed := by
  have consumed := here.consumed
  have carried := congrArg List.length here.carried
  rw [spent, length_segment, List.length_nil] at carried
  omega

/-- Masking the first `count` bytes and going on with the rest masks the whole. -/
theorem Ends.of_rest {data : Bytes} {count : Nat} {rest : Applied} (enough : count ≤ data.length)
    (within : position + count ≤ 16 * limit base)
    (ends : Ends encrypt base (position + count) (data.drop count) rest) :
    Ends encrypt base position data
      { rest with data := maskFrom encrypt base position (data.take count) ++ rest.data } := by
  have total : position + count + (data.drop count).length = position + data.length := by
    rw [List.length_drop]
    omega
  have room : 16 * limit base - position = count + (16 * limit base - (position + count)) := by
    omega
  refine ⟨?_, ?_, ?_⟩
  · have first : (data.take count).length = count := by
      rw [List.length_take]
      omega
    rw [ends.data_eq, room, List.take_add, maskFrom_append, first, List.drop_drop,
      List.append_assoc]
  · have after := ends.after
    rwa [total] at after
  · have failure := ends.failure_eq
    rwa [total] at failure

theorem At.next (here : At encrypt base position stream) (spent : stream.carry = [])
    (below : stream.blocksConsumed < limit base) (count : Nat) (some : 0 < count)
    (whole : count ≤ 16) :
    At encrypt base (position + count)
      ⟨encrypt, base, stream.blocksConsumed + 1,
        (blockAt encrypt base stream.blocksConsumed).toList.drop count⟩ := by
  have aligned := here.position_eq spent
  refine ⟨rfl, rfl, ?_, ?_, ?_⟩
  · omega
  · change stream.blocksConsumed + 1 = (position + count + 15) / 16
    omega
  · change List.drop _ _ = segment _ _ _ (16 * (stream.blocksConsumed + 1) - (position + count))
    have left : 16 * (stream.blocksConsumed + 1) - (position + count) = 16 - count := by omega
    rw [blockAt_toList, drop_segment, left, ← aligned]

theorem At.ends_nil (here : At encrypt base position stream) :
    Ends encrypt base position [] ⟨[], stream, none⟩ := by
  refine ⟨?_, ?_, ?_⟩
  · rw [List.take_nil, maskFrom_nil, List.drop_nil, List.append_nil]
  · rw [List.length_nil, Nat.add_zero, Nat.min_eq_left here.within]
    exact here
  · exact (if_pos here.within).symm

theorem At.ends_full (here : At encrypt base position stream) (spent : stream.carry = [])
    (full : ¬ stream.blocksConsumed < limit base) {data : Bytes} (nonempty : data ≠ []) :
    Ends encrypt base position data ⟨data, stream, some (.counterOverflow (limit base))⟩ := by
  have counted : stream.blocksConsumed = limit base := by
    have most := here.consumed_le
    omega
  have aligned := here.position_eq spent
  rw [counted] at aligned
  have length := List.length_pos_iff.mpr nonempty
  refine ⟨?_, ?_, ?_⟩
  · rw [aligned, Nat.sub_self, List.take_zero, maskFrom_nil, List.drop_zero, List.nil_append]
  · rw [Nat.min_eq_right (by omega), ← aligned]
    exact here
  · rw [if_neg (by omega)]

theorem applyBlocks_ends (done : List Bytes) (data : Bytes) (here : At encrypt base position stream)
    (spent : data ≠ [] → stream.carry = []) :
    ∃ rest, Ends encrypt base position data rest ∧
      applyBlocks stream done data =
        { rest with data := done.reverse.flatten ++ rest.data } := by
  -- Each turn of the loop is one step of `Ends.of_rest`; the pieces in `done` only stand before it.
  induction stream, done, data using applyBlocks.induct generalizing position with
  | case1 stream done data empty =>
      have nothing : data = [] := List.isEmpty_iff.mp empty
      subst nothing
      refine ⟨⟨[], stream, none⟩, here.ends_nil, ?_⟩
      rw [applyBlocks, if_pos empty, List.append_nil]
  | case2 stream done data filled failure failed =>
      have nonempty : data ≠ [] := fun nothing => filled (List.isEmpty_iff.mpr nothing)
      have full : ¬ stream.blocksConsumed < limit base := by
        intro below
        rw [here.nextBlock_eq, if_pos below] at failed
        cases failed
      have ends := here.ends_full (spent nonempty) full nonempty
      refine ⟨_, ends, ?_⟩
      have most := here.consumed_le
      have counted : stream.blocksConsumed = limit base := by omega
      rw [applyBlocks, if_neg filled, here.nextBlock_eq, if_neg full, counted]
      simp
  | case3 stream done data filled block next generated piece =>
      rename_i induction
      have nonempty : data ≠ [] := fun nothing => filled (List.isEmpty_iff.mpr nothing)
      have length := List.length_pos_iff.mpr nonempty
      have below : stream.blocksConsumed < limit base := by
        by_contra full
        rw [here.nextBlock_eq, if_neg full] at generated
        cases generated
      have step := generated
      rw [here.nextBlock_eq, if_pos below] at step
      injection step with step
      injection step with block_eq next_eq
      subst block_eq next_eq
      let count := (data.take 16).length
      have counted : count = min 16 data.length := List.length_take
      have advanced := here.next (spent nonempty) below count (by omega) (by omega)
      have head : data.take 16 = data.take count := (Bytes.take_length_take 16 data).symm
      have tail : data.drop 16 = data.drop count := (Bytes.drop_length_take 16 data).symm
      have spentNext : data.drop 16 ≠ [] →
          (blockAt encrypt base stream.blocksConsumed).toList.drop count = [] := by
        intro more
        have long := List.length_pos_iff.mpr more
        rw [List.length_drop] at long
        apply List.drop_eq_nil_of_le
        rw [Vector.length_toList]
        omega
      obtain ⟨rest, ends, result⟩ := induction advanced spentNext
      have aligned := here.position_eq (spent nonempty)
      have masked : Bytes.mask piece (blockAt encrypt base stream.blocksConsumed).toList =
          maskFrom encrypt base position (data.take count) := by
        rw [blockAt_toList, ← aligned, mask_segment _ _ _ _ (List.length_take_le _ _)]
        exact congrArg (maskFrom encrypt base position) head
      rw [tail] at ends
      refine ⟨_, Ends.of_rest (by omega) advanced.within ends, ?_⟩
      rw [applyBlocks, if_neg filled, generated]
      refine result.trans ?_
      rw [masked]
      simp only [List.reverse_cons, List.flatten_append, List.flatten_cons, List.flatten_nil,
        List.append_nil, List.append_assoc]

theorem apply_ends (here : At encrypt base position stream) (data : Bytes) :
    Ends encrypt base position data (stream.apply data) := by
  let count := (data.take stream.carry.length).length
  have counted : count = min stream.carry.length data.length := List.length_take
  have carried : stream.carry.length = 16 * stream.blocksConsumed - position := by
    rw [here.carried, length_segment]
  have consumed := here.consumed
  have most := here.consumed_le
  have advanced : At encrypt base (position + count)
      { stream with carry := stream.carry.drop count } := by
    refine ⟨here.encrypt_eq, here.base_eq, by omega, ?_, ?_⟩
    · change stream.blocksConsumed = (position + count + 15) / 16
      omega
    · change stream.carry.drop count = _
      rw [here.carried, drop_segment, Nat.sub_sub]
  have head : data.take stream.carry.length = data.take count := (Bytes.take_length_take _ data).symm
  have tail : data.drop stream.carry.length = data.drop count := (Bytes.drop_length_take _ data).symm
  have masked : Bytes.mask (data.take stream.carry.length) stream.carry =
      maskFrom encrypt base position (data.take count) := by
    rw [head, here.carried]
    apply mask_segment
    rw [List.length_take]
    omega
  have spent : data.drop stream.carry.length ≠ [] → stream.carry.drop count = [] := by
    intro more
    have long := List.length_pos_iff.mpr more
    rw [List.length_drop] at long
    exact List.drop_eq_nil_of_le (by omega)
  obtain ⟨rest, ends, result⟩ := applyBlocks_ends
    [Bytes.mask (data.take stream.carry.length) stream.carry] (data.drop stream.carry.length)
    advanced spent
  rw [tail] at ends
  have whole := Ends.of_rest (by omega) advanced.within ends
  rw [← masked] at whole
  have joined : stream.apply data =
      { rest with data := Bytes.mask (data.take stream.carry.length) stream.carry ++ rest.data } := by
    refine result.trans ?_
    simp only [List.reverse_singleton, List.flatten_singleton]
  rwa [joined]

end Calls

end SealedContent.Cipher.Keystream
