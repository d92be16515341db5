import Mathlib.Data.Nat.Bitwise
import SealedContent.Proofs.Content.Grammar

/-!
The reading of archives with its ranges watched. A slice that starts or ends past the bytes, a shift by
the width of the word or more, and a turn of the loop beyond those allowed leave it without an answer.
There always is one, and it is the answer of the reader that takes no such care: a number is put together
in a word without losing a bit, and each turn of the loop takes something off the input.
-/

namespace SealedContent

namespace Bytes

def sliceFrom? (place : Nat) (bytes : Bytes) : Option Bytes :=
  if place ≤ bytes.length then some (bytes.drop place) else none

def sliceTo? (place : Nat) (bytes : Bytes) : Option Bytes :=
  if place ≤ bytes.length then some (bytes.take place) else none

end Bytes

namespace Content

namespace Varint

/-- A word shifted to the left by less than its width. -/
def shiftLeft? (word : UInt64) (distance : Nat) : Option UInt64 :=
  if distance < 64 then some (word <<< UInt64.ofNat distance) else none

/-- Puts the groups at the front of the input together in a word. So many groups are left to be taken and
so many have been; `word` holds those, and `ahead` is what follows them. -/
def readWord? (input : Bytes) :
    Nat → Nat → UInt64 → Bytes → Option (Except Fault (UInt64 × Bytes))
  | 0, _, _, _ => some (.error .truncated)
  | _ + 1, _, _, [] => some (.error .truncated)
  | left + 1, index, word, byte :: ahead =>
      let bits := (byte &&& 0x7f).toUInt64
      if index = maxLength - 1 ∧ 1 < bits then some (.error .overflow)
      else do
        let shifted ← shiftLeft? bits (7 * index)
        if byte &&& 0x80 = 0 then
          let rest ← Bytes.sliceFrom? (index + 1) input
          return .ok (word ||| shifted, rest)
        else readWord? input left (index + 1) (word ||| shifted) ahead

theorem toNat_low (byte : UInt8) : (byte &&& 0x7f).toUInt64.toNat = byte.toNat % 128 := by
  rw [UInt8.toNat_toUInt64, UInt8.toNat_and]
  exact Nat.and_two_pow_sub_one_eq_mod byte.toNat 7

theorem high_eq_zero_iff (byte : UInt8) : byte &&& 0x80 = 0 ↔ byte.toNat < 128 := by
  have bounded := byte.toNat_lt
  have masked : (byte &&& 0x80).toNat = byte.toNat / 128 % 2 * 128 := by
    rw [UInt8.toNat_and]
    change byte.toNat &&& 2 ^ 7 = _
    rw [Nat.and_two_pow, Nat.toNat_testBit]
    rfl
  rw [← UInt8.toNat_inj, masked]
  change _ = 0 ↔ _
  omega

theorem toNat_or_shifted {word bits : UInt64} {distance : Nat} (near : distance < 64)
    (below : word.toNat < 2 ^ distance) (room : 2 ^ distance * bits.toNat < 2 ^ 64) :
    (word ||| bits <<< UInt64.ofNat distance).toNat = word.toNat + 2 ^ distance * bits.toNat := by
  have shifted : (bits <<< UInt64.ofNat distance).toNat = 2 ^ distance * bits.toNat := by
    rw [UInt64.toNat_shiftLeft, UInt64.toNat_ofNat', Nat.mod_eq_of_lt (show distance < 2 ^ 64 by omega),
      Nat.mod_eq_of_lt near, Nat.shiftLeft_eq, Nat.mul_comm, Nat.mod_eq_of_lt room]
  rw [UInt64.toNat_or, shifted, Nat.or_comm, ← Nat.two_pow_add_eq_or_of_lt below, Nat.add_comm]

/-- The groups that may be taken have room in the word. -/
theorem room_of_group {index left bits : Nat} (groups : index + (left + 1) = maxLength)
    (narrow : bits < 128) (single : ¬ (left = 0 ∧ 1 < bits)) : 2 ^ (7 * index) * bits < 2 ^ 64 := by
  rw [maxLength] at groups
  -- Nine groups fill all bits of the word but the topmost.
  by_cases last : left = 0
  · have most : bits ≤ 1 := by omega
    calc
      2 ^ (7 * index) * bits ≤ 2 ^ (7 * 9) * 1 :=
        Nat.mul_le_mul (Nat.pow_le_pow_right (by decide) (by omega)) most
      _ < 2 ^ 64 := by decide
  · calc
      2 ^ (7 * index) * bits ≤ 2 ^ (7 * 8) * 127 :=
        Nat.mul_le_mul (Nat.pow_le_pow_right (by decide) (by omega)) (by omega)
      _ < 2 ^ 64 := by decide

section Groups

variable {input ahead : Bytes} {left index : Nat} {word : UInt64} {byte : UInt8}

theorem overflows_iff (groups : index + (left + 1) = maxLength) :
    (index = maxLength - 1 ∧ 1 < (byte &&& 0x7f).toUInt64) ↔ (left = 0 ∧ 1 < byte.toNat % 128) := by
  rw [UInt64.lt_iff_toNat_lt, toNat_low, maxLength]
  rw [maxLength] at groups
  exact and_congr_left' (by omega)

theorem readWord?_cons (taken : byte :: ahead = input.drop index)
    (groups : index + (left + 1) = maxLength) (below : word.toNat < 2 ^ (7 * index))
    (single : ¬ (left = 0 ∧ 1 < byte.toNat % 128)) :
    ∃ longer : UInt64, longer.toNat = word.toNat + 2 ^ (7 * index) * (byte.toNat % 128) ∧
      readWord? input (left + 1) index word (byte :: ahead) =
        if byte.toNat < 128 then some (.ok (longer, ahead))
        else readWord? input left (index + 1) longer ahead := by
  have here : index < input.length := by
    by_contra beyond
    rw [List.drop_eq_nil_of_le (by omega)] at taken
    cases taken
  have onward : input.drop (index + 1) = ahead := by
    rw [← List.drop_drop, ← taken, List.drop_one, List.tail_cons]
  have near : 7 * index < 64 := by
    rw [maxLength] at groups
    omega
  have room := room_of_group groups (Nat.mod_lt byte.toNat (by decide)) single
  rw [← toNat_low] at room
  refine ⟨word ||| (byte &&& 0x7f).toUInt64 <<< UInt64.ofNat (7 * index), ?_, ?_⟩
  · rw [toNat_or_shifted near below room, toNat_low]
  · rw [readWord?, if_neg (mt (overflows_iff groups).mp single), shiftLeft?, if_pos near]
    simp only [Option.bind_eq_bind, Option.bind_some, high_eq_zero_iff]
    rw [Bytes.sliceFrom?, if_pos (show index + 1 ≤ input.length by omega), onward]
    rfl

/-- Behind so many groups the word holds what they spell, and the reading goes on in step with the one
that adds up numbers. -/
theorem readWord?_eq (taken : ahead = input.drop index) (groups : index + left = maxLength)
    (below : word.toNat < 2 ^ (7 * index)) :
    readWord? input left index word ahead =
      some ((readGroups left ahead).map fun pair =>
        (UInt64.ofNat (word.toNat + 2 ^ (7 * index) * pair.1), pair.2)) := by
  induction left generalizing index word ahead with
  | zero => rfl
  | succ left induction =>
      cases ahead with
      | nil => rfl
      | cons byte ahead =>
          rw [readGroups]
          by_cases overflow : left = 0 ∧ 1 < byte.toNat % 128
          · rw [readWord?, if_pos ((overflows_iff groups).mpr overflow), if_pos overflow]
            rfl
          · obtain ⟨longer, joined, step⟩ := readWord?_cons taken groups below overflow
            rw [if_neg overflow, step]
            by_cases small : byte.toNat < 128
            · rw [if_pos small, if_pos small]
              simp only [Except.map, ← joined, UInt64.ofNat_toNat]
            · have narrow : byte.toNat % 128 < 128 := Nat.mod_lt _ (by decide)
              have wider : 2 ^ (7 * (index + 1)) = 2 ^ (7 * index) * 128 := by
                rw [Nat.mul_succ, pow_add]
                rfl
              have longer_below : longer.toNat < 2 ^ (7 * (index + 1)) := by
                calc
                  longer.toNat < 2 ^ (7 * index) * (byte.toNat % 128 + 1) := by
                    rw [joined, Nat.mul_succ]
                    omega
                  _ ≤ 2 ^ (7 * index) * 128 := Nat.mul_le_mul_left _ narrow
                  _ = 2 ^ (7 * (index + 1)) := wider.symm
              have onward : ahead = input.drop (index + 1) := by
                rw [← List.drop_drop, ← taken, List.drop_one, List.tail_cons]
              rw [if_neg small, if_neg small, induction onward (by omega) longer_below]
              cases readGroups left ahead with
              | error fault => rfl
              | ok pair =>
                  simp only [Except.map, joined, wider]
                  rw [Nat.mul_add, Nat.mul_assoc, Nat.add_assoc]

end Groups

theorem readWord?_start (input : Bytes) :
    readWord? input maxLength 0 0 input =
      some ((read input).map fun pair => (UInt64.ofNat pair.1, pair.2)) := by
  have started : readWord? input maxLength 0 0 input = _ :=
    readWord?_eq List.drop_zero.symm (Nat.zero_add maxLength) (by decide)
  simpa only [read, Nat.mul_zero, pow_zero, one_mul, UInt64.toNat_zero, zero_add] using started

end Varint

namespace Archive

/-- One section, its length read in a word and its bytes cut out at a place that is there. -/
def readSectionWithin? (input : Bytes) : Option (Except ArchiveFault (Option (Bytes × Bytes))) :=
  if input.isEmpty then some (.ok none)
  else
    match Varint.readWord? input Varint.maxLength 0 0 input with
    | none => none
    | some (.error fault) => some (.error (.varint fault))
    | some (.ok (length, rest)) =>
        if length = 0 then some (.error .emptySection)
        else if rest.length < length.toNat then
          some (.error (.sectionTooLong length.toNat rest.length))
        else do
          let content ← Bytes.sliceTo? length.toNat rest
          let after ← Bytes.sliceFrom? length.toNat rest
          return .ok (some (content, after))

/-- A block's data is cut out behind the bytes that its identifier took. -/
def readBlockWithin? (content : Bytes) : Option (Except ArchiveFault Block) :=
  match Cid.read? content with
  | none => some (.error .blockCid)
  | some (cid, after) => do
      let data ← Bytes.sliceFrom? (content.length - after.length) content
      return .ok ⟨cid, data⟩

/-- The loop over the blocks, which may be entered so many times. -/
def readBlocksWithin? : Nat → Bytes → Option (Except ArchiveFault (List Block))
  | 0, _ => none
  | turns + 1, input =>
      match readSectionWithin? input with
      | none => none
      | some (.error fault) => some (.error fault)
      | some (.ok none) => some (.ok [])
      | some (.ok (some (content, rest))) =>
          match readBlockWithin? content with
          | none => none
          | some (.error fault) => some (.error fault)
          | some (.ok block) =>
              (readBlocksWithin? turns rest).map fun result => result.map fun blocks => block :: blocks

def decodeWithin? (turns : Nat) (input : Bytes) : Option (Except ArchiveFault Archive) :=
  match readSectionWithin? input with
  | none => none
  | some (.error fault) => some (.error fault)
  | some (.ok none) => some (.error .empty)
  | some (.ok (some (header, rest))) =>
      match readHeader header with
      | .error fault => some (.error fault)
      | .ok root =>
          (readBlocksWithin? turns rest).map fun result => result.map fun blocks => ⟨root, blocks⟩

theorem readSectionWithin?_eq (input : Bytes) :
    readSectionWithin? input = some (readSection input) := by
  rw [readSectionWithin?, readSection, Varint.readWord?_start]
  by_cases ended : input.isEmpty = true
  · rw [if_pos ended, if_pos ended]
  rw [if_neg ended, if_neg ended]
  cases counted : Varint.read input with
  | error fault => rfl
  | ok pair =>
      obtain ⟨length, rest⟩ := pair
      have fits : (UInt64.ofNat length).toNat = length := by
        rw [UInt64.toNat_ofNat', Nat.mod_eq_of_lt]
        exact Varint.read_lt counted
      have empty : UInt64.ofNat length = 0 ↔ length = 0 := by
        rw [← UInt64.toNat_inj, fits]
        rfl
      dsimp only [Except.map]
      simp only [empty, fits]
      split
      · rfl
      split
      · rfl
      rename_i enough
      rw [Bytes.sliceTo?, Bytes.sliceFrom?, if_pos (Nat.le_of_not_lt enough),
        if_pos (Nat.le_of_not_lt enough)]
      rfl

theorem readBlockWithin?_eq (content : Bytes) :
    readBlockWithin? content = some (readBlock content) := by
  rw [readBlockWithin?, readBlock]
  cases named : Cid.read? content with
  | none => rfl
  | some pair =>
      obtain ⟨cid, data⟩ := pair
      obtain ⟨name, rfl⟩ := Cid.read?_takesForm.suffix named
      dsimp only
      rw [Bytes.sliceFrom?, if_pos (Nat.sub_le _ _)]
      simp

/-- Each turn takes a section off the input, so the input runs out before the turns do. -/
theorem readBlocksWithin?_eq {turns fuel : Nat} {input : Bytes} (ends : input.length < turns)
    (enough : input.length < fuel) :
    readBlocksWithin? turns input = some (readBlocks fuel input) := by
  induction turns generalizing fuel input with
  | zero => cases ends
  | succ turns induction =>
      obtain ⟨fuel, rfl⟩ := Nat.exists_eq_succ_of_ne_zero (Nat.ne_zero_of_lt enough)
      rw [readBlocksWithin?, readBlocks, readSectionWithin?_eq]
      cases cut : readSection input with
      | error fault => rfl
      | ok section? =>
          cases section? with
          | none => rfl
          | some pair =>
              obtain ⟨content, rest⟩ := pair
              obtain ⟨framed, framing, rfl⟩ := readSection_eq_some_iff.mp cut
              have taken := List.length_pos_of_ne_nil framing.ne_nil
              rw [List.length_append] at ends enough
              dsimp only
              rw [readBlockWithin?_eq]
              cases readBlock content with
              | error fault => rfl
              | ok block =>
                  dsimp only
                  rw [@induction fuel rest (by omega) (by omega)]
                  cases readBlocks fuel rest <;> rfl

theorem decodeWithin?_eq {turns : Nat} {input : Bytes} (ends : input.length ≤ turns) :
    decodeWithin? turns input = some (decodeFault input) := by
  rw [decodeWithin?, decodeFault, readSectionWithin?_eq]
  cases cut : readSection input with
  | error fault => rfl
  | ok section? =>
      cases section? with
      | none => rfl
      | some pair =>
          obtain ⟨header, rest⟩ := pair
          obtain ⟨framed, framing, rfl⟩ := readSection_eq_some_iff.mp cut
          have taken := List.length_pos_of_ne_nil framing.ne_nil
          rw [List.length_append] at ends
          dsimp only
          cases readHeader header with
          | error fault => rfl
          | ok root =>
              dsimp only
              rw [readBlocksWithin?_eq (by omega) (Nat.lt_succ_self rest.length)]
              cases readBlocks (rest.length + 1) rest <;> rfl

/-- Reading accepts the inputs of the grammar with what they spell and refuses every other. It ends
within as many turns of its loop as there are bytes, and cuts and shifts only within range. -/
theorem decode_exact (input : Bytes) :
    (∀ archive, decode input = .ok archive ↔ Spells archive input) ∧
      ((∀ archive, ¬ Spells archive input) →
        ∃ fault, decode input = .error (.archive fault)) ∧
      ∀ turns, input.length ≤ turns →
        (decodeWithin? turns input).map (Except.mapError BlockError.archive) =
          some (decode input) := by
  refine ⟨fun archive => decode_eq_ok_iff, fun unspelled => ?_, fun turns ends => ?_⟩
  · refine (decode_error_or_ok input).resolve_right ?_
    rintro ⟨archive, decoded⟩
    exact unspelled archive (decode_eq_ok_iff.mp decoded)
  · rw [decodeWithin?_eq ends]
    rfl

end Archive

end Content

end SealedContent
