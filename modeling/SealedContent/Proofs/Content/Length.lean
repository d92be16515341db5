import Mathlib.Data.Nat.Digits.Defs
import SealedContent.Proofs.Content.Ranges

/-!
The lengths in front of sections, written and read in words of 64 bits. The two loops keep every bit of a
word: what is written reads back in front of anything, and an input is read just where groups with a
number that fits in a word stand at its front, whether or not they are as few as they could be.
-/

namespace SealedContent.Content.Varint

/-- Groups of seven bits, of which every one but the last says that another follows. -/
def IsGroups (form : Bytes) : Prop :=
  ∃ front last, form = front ++ [last] ∧ (∀ byte ∈ front, 128 ≤ byte.toNat) ∧ last.toNat < 128

def magnitude (form : Bytes) : Nat :=
  Nat.ofDigits 128 (form.map fun byte => byte.toNat % 128)

theorem magnitude_cons (byte : UInt8) (form : Bytes) :
    magnitude (byte :: form) = byte.toNat % 128 + 128 * magnitude form := by
  rw [magnitude, List.map_cons, Nat.ofDigits_cons, magnitude]

theorem magnitude_singleton {last : UInt8} (small : last.toNat < 128) :
    magnitude [last] = last.toNat := by
  rw [magnitude_cons, magnitude, List.map_nil, Nat.ofDigits_nil, Nat.mul_zero, Nat.add_zero,
    Nat.mod_eq_of_lt small]

theorem spells_iff {value : Nat} {form : Bytes} :
    Spells value form ↔ IsGroups form ∧ magnitude form = value := by
  constructor
  · intro spelled
    induction spelled with
    | last small =>
        exact ⟨⟨[], _, rfl, List.forall_mem_nil _, small⟩, magnitude_singleton small⟩
    | @next byte higher form large rest induction =>
        obtain ⟨⟨front, last, rfl, more, small⟩, rfl⟩ := induction
        exact ⟨⟨byte :: front, last, rfl, List.forall_mem_cons.mpr ⟨large, more⟩, small⟩,
          magnitude_cons byte _⟩
  · rintro ⟨⟨front, last, rfl, more, small⟩, rfl⟩
    induction front with
    | nil =>
        rw [List.nil_append, magnitude_singleton small]
        exact .last small
    | cons byte front induction =>
        rw [List.forall_mem_cons] at more
        rw [List.cons_append, magnitude_cons]
        exact .next more.1 (induction more.2)

section Writing

theorem toNat_higher (word : UInt64) : (word >>> 7).toNat = word.toNat / 128 := by
  rw [UInt64.toNat_shiftRight, Nat.shiftRight_eq_div_pow]
  rfl

/-- Writes a word group by group, as long as what is left of it does not fit in one. -/
def writeWord (word : UInt64) : Bytes :=
  if 0x80 ≤ word then ((word.toUInt8 &&& 0x7f) ||| 0x80) :: writeWord (word >>> 7)
  else [word.toUInt8]
termination_by word.toNat
decreasing_by
  rename_i large
  have positive : 128 ≤ word.toNat := UInt64.le_iff_toNat_le.mp large
  rw [toNat_higher]
  omega

/-- The mark that another group follows takes the place of a bit that the group does not use. -/
theorem marked_eq (word : UInt64) :
    (word.toUInt8 &&& 0x7f) ||| 0x80 = UInt8.ofNat (word.toNat % 128 + 128) := by
  have low : (word.toUInt8 &&& 0x7f).toNat = word.toNat % 128 := by
    rw [UInt8.toNat_and, UInt64.toNat_toUInt8]
    change word.toNat % 2 ^ 8 &&& 2 ^ 7 - 1 = _
    rw [Nat.and_two_pow_sub_one_eq_mod]
    omega
  have narrow : word.toNat % 128 < 2 ^ 7 := Nat.mod_lt _ (by decide)
  rw [← UInt8.toNat_inj, UInt8.toNat_or, low, toNat_group (by omega), Nat.or_comm]
  exact (Nat.two_pow_add_eq_or_of_lt narrow 1).symm.trans (Nat.add_comm _ _)

theorem writeWord_eq (word : UInt64) : writeWord word = write word.toNat := by
  induction word using writeWord.induct with
  | case1 word large induction =>
      have positive : 128 ≤ word.toNat := UInt64.le_iff_toNat_le.mp large
      rw [writeWord, if_pos large, write_large (by omega), marked_eq, induction, toNat_higher]
  | case2 word small =>
      have below : word.toNat < 128 := by
        rw [UInt64.le_iff_toNat_le] at small
        exact Nat.lt_of_not_le small
      rw [writeWord, if_neg small, write_small below]
      rfl

end Writing

/-- The length at the front of the input; there is none where the input has ended. -/
def readLength? (input : Bytes) : Option (Except Fault (Option (UInt64 × Bytes))) :=
  if input.isEmpty then some (.ok none)
  else (readWord? input maxLength 0 0 input).map fun result => result.map some

section Reading

variable {input rest : Bytes} {value : UInt64}

theorem readLength?_of_ne_nil (filled : input ≠ []) :
    readLength? input =
      some ((read input).map fun pair => some (UInt64.ofNat pair.1, pair.2)) := by
  rw [readLength?, if_neg (mt List.isEmpty_iff.mp filled), readWord?_start]
  cases read input <;> rfl

theorem readLength?_eq_none_iff : readLength? input = some (.ok none) ↔ input = [] := by
  constructor
  · intro ended
    by_contra filled
    rw [readLength?_of_ne_nil filled] at ended
    revert ended
    cases read input with
    | error fault => exact nofun
    | ok pair => exact nofun
  · rintro rfl
    rfl

/-- Reading a number as a word loses none of it. -/
theorem readLength?_eq_some_iff :
    readLength? input = some (.ok (some (value, rest))) ↔ read input = .ok (value.toNat, rest) := by
  by_cases ended : input = []
  · rw [ended]
    exact ⟨nofun, nofun⟩
  rw [readLength?_of_ne_nil ended]
  cases counted : read input with
  | error fault => exact ⟨nofun, nofun⟩
  | ok pair =>
      obtain ⟨number, after⟩ := pair
      have fits : (UInt64.ofNat number).toNat = number := by
        rw [UInt64.toNat_ofNat', Nat.mod_eq_of_lt]
        exact read_lt counted
      simp only [Except.map, Option.some.injEq, Except.ok.injEq, Prod.mk.injEq,
        ← UInt64.toNat_inj, fits]

theorem read_toNat_eq_ok_iff :
    read input = .ok (value.toNat, rest) ↔
      ∃ form, input = form ++ rest ∧ IsGroups form ∧ form.length ≤ 10 ∧
        magnitude form = value.toNat := by
  rw [read_eq_ok_iff]
  constructor
  · rintro ⟨form, ⟨spelled, short, -⟩, cut⟩
    obtain ⟨groups, number⟩ := spells_iff.mp spelled
    exact ⟨form, cut, groups, short, number⟩
  · rintro ⟨form, cut, groups, short, number⟩
    exact ⟨form, ⟨spells_iff.mpr ⟨groups, number⟩, short, value.toNat_lt⟩, cut⟩

/-- Where groups at the front are too many or stand for too much, both loops refuse the input alike. -/
theorem readLength?_refuses (filled : input ≠ [])
    (beyond : ∀ form rest, input = form ++ rest → IsGroups form → form.length ≤ 10 →
      2 ^ 64 ≤ magnitude form) :
    ∃ fault, readLength? input = some (.error fault) ∧ read input = .error fault := by
  rw [readLength?_of_ne_nil filled]
  cases counted : read input with
  | error fault => exact ⟨fault, rfl, rfl⟩
  | ok pair =>
      obtain ⟨number, after⟩ := pair
      have fits : number < 2 ^ 64 := read_lt counted
      rw [← UInt64.toNat_ofNat_of_lt' fits] at counted
      obtain ⟨form, cut, groups, short, same⟩ := read_toNat_eq_ok_iff.mp counted
      have large := beyond form after cut groups short
      rw [same] at large
      exact absurd (UInt64.toNat_lt _) (Nat.not_lt_of_le large)

end Reading

/-- A word is written as its number is, and is read back in front of any bytes, which are left. A word is
read from an input exactly where at most ten groups that stand for it are at the front; these are taken
and no more. An input that has ended has no further section, and every other input is refused. -/
theorem lengths_exact :
    (∀ (value : UInt64) (rest : Bytes), writeWord value = write value.toNat ∧
      readLength? (writeWord value ++ rest) = some (.ok (some (value, rest)))) ∧
    (∀ (input : Bytes) (value : UInt64) (rest : Bytes),
      (readLength? input = some (.ok (some (value, rest))) ↔
        ∃ form, input = form ++ rest ∧ IsGroups form ∧ form.length ≤ 10 ∧
          magnitude form = value.toNat) ∧
      (readLength? input = some (.ok (some (value, rest))) ↔
        read input = .ok (value.toNat, rest))) ∧
    ∀ input : Bytes,
      (readLength? input = some (.ok none) ↔ input = []) ∧
      (Archive.readSection input = .ok none ↔ input = []) ∧
      (input ≠ [] → (∀ form rest, input = form ++ rest → IsGroups form → form.length ≤ 10 →
          2 ^ 64 ≤ magnitude form) →
        ∃ fault, readLength? input = some (.error fault) ∧ read input = .error fault) := by
  refine ⟨fun value rest => ⟨writeWord_eq value, ?_⟩, fun input value rest => ⟨?_, ?_⟩,
    fun input => ⟨readLength?_eq_none_iff, Archive.readSection_eq_none_iff, readLength?_refuses⟩⟩
  · rw [readLength?_eq_some_iff, writeWord_eq]
    exact read_write value.toNat_lt rest
  · rw [readLength?_eq_some_iff, read_toNat_eq_ok_iff]
  · exact readLength?_eq_some_iff

/-- Of ten groups the last one holds a single bit. -/
example :
    read (List.replicate 9 0xff ++ [0x01, 0x2a]) = .ok (2 ^ 64 - 1, [0x2a]) ∧
      read (List.replicate 9 0xff ++ [0x02, 0x2a]) = .error .overflow := by
  decide

end SealedContent.Content.Varint
