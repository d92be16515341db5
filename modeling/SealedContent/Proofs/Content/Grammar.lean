import SealedContent.Proofs.Cbor.ReadValue
import SealedContent.Proofs.Content.Read

/-!
The grammar of archives, stated without a reader's loop or its fuel. An archive is a row of sections, the
header first and then one for each block, every one preceded by its length in any form that can be read.
Reading accepts exactly the inputs of the grammar, so no byte is skipped and none is left over.
-/

namespace SealedContent.Content

namespace Varint

/-- A number in groups of seven bits, the lowest first. Every group but the last says that another
follows; the topmost groups may be zero. -/
inductive Spells : Nat → Bytes → Prop
  | last {byte : UInt8} (small : byte.toNat < 128) : Spells byte.toNat [byte]
  | next {byte : UInt8} {higher : Nat} {form : Bytes} (large : 128 ≤ byte.toNat)
      (rest : Spells higher form) : Spells (byte.toNat % 128 + 128 * higher) (byte :: form)

/-- A form of at most ten groups of a number that fits in eight bytes. -/
structure IsForm (value : Nat) (form : Bytes) : Prop where
  spelled : Spells value form
  short : form.length ≤ maxLength
  bounded : value < bound

theorem Spells.ne_nil {value : Nat} {form : Bytes} (spelled : Spells value form) : form ≠ [] := by
  cases spelled <;> exact List.cons_ne_nil _ _

theorem Spells.readGroups {value : Nat} {form : Bytes} (spelled : Spells value form) {left : Nat}
    (short : form.length ≤ left + 1) (bounded : value < 2 * 128 ^ left) (rest : Bytes) :
    readGroups (left + 1) (form ++ rest) = .ok (value, rest) := by
  induction spelled generalizing left with
  | @last byte small =>
      -- With no group left after it, the bound on the number leaves this one a single bit.
      have single : ¬ (left = 0 ∧ 1 < byte.toNat % 128) := by
        rintro ⟨rfl, bits⟩
        omega
      rw [List.singleton_append, Varint.readGroups, if_neg single, if_pos small,
        Nat.mod_eq_of_lt small]
  | @next byte higher form large spelled induction =>
      have filled := List.length_pos_of_ne_nil spelled.ne_nil
      rw [List.length_cons] at short
      obtain ⟨left, rfl⟩ := Nat.exists_eq_succ_of_ne_zero (show left ≠ 0 by omega)
      rw [Nat.succ_eq_add_one, pow_succ] at bounded
      rw [List.cons_append, Varint.readGroups, if_neg (by omega), if_neg (by omega),
        induction (by omega) (by omega)]

theorem exists_spells_of_readGroups {left value : Nat} {input rest : Bytes}
    (read : readGroups left input = .ok (value, rest)) :
    ∃ form, Spells value form ∧ form.length ≤ left ∧ input = form ++ rest := by
  induction left generalizing input value with
  | zero => cases read
  | succ left induction =>
      cases input with
      | nil => cases read
      | cons byte input =>
          rw [Varint.readGroups] at read
          split at read
          · cases read
          split at read
          · rename_i small
            cases read
            rw [Nat.mod_eq_of_lt small]
            exact ⟨[byte], .last small, by simp, rfl⟩
          · rename_i large
            cases more : Varint.readGroups left input with
            | error fault =>
                rw [more] at read
                cases read
            | ok pair =>
                obtain ⟨higher, after⟩ := pair
                rw [more] at read
                cases read
                obtain ⟨form, spelled, short, rfl⟩ := induction more
                exact ⟨byte :: form, .next (by omega) spelled, Nat.succ_le_succ short, rfl⟩

theorem read_eq_ok_iff {value : Nat} {input rest : Bytes} :
    read input = .ok (value, rest) ↔ ∃ form, IsForm value form ∧ input = form ++ rest := by
  constructor
  · intro found
    obtain ⟨form, spelled, short, cut⟩ := exists_spells_of_readGroups found
    exact ⟨form, ⟨spelled, short, read_lt found⟩, cut⟩
  · rintro ⟨form, ⟨spelled, short, bounded⟩, rfl⟩
    apply spelled.readGroups short
    calc
      value < bound := bounded
      _ = 2 * 128 ^ 9 := by decide

end Varint

namespace Archive

open Cbor (Fits Shape)

/-- Content that holds something, behind its length. -/
def IsSection (content framed : Bytes) : Prop :=
  content ≠ [] ∧ ∃ length, Varint.IsForm content.length length ∧ framed = length ++ content

/-- The content of a block's section: the binary form of an identifier and the data right behind it. -/
def SpellsBlock (block : Block) (content : Bytes) : Prop :=
  ∃ name, Cid.read? name = some (block.cid, []) ∧ content = name ++ block.data

inductive SpellsBlocks : List Block → Bytes → Prop
  | none : SpellsBlocks [] []
  | next {block : Block} {blocks : List Block} {content framed rest : Bytes}
      (first : IsSection content framed) (named : SpellsBlock block content)
      (others : SpellsBlocks blocks rest) : SpellsBlocks (block :: blocks) (framed ++ rest)

/-- The header states the version and the one root, and a section follows for each block. -/
def Spells (archive : Archive) (input : Bytes) : Prop :=
  ∃ header framed rest, IsSection header framed ∧
    headerShape.read? header = some (headerValue archive.root) ∧
    SpellsBlocks archive.blocks rest ∧ input = framed ++ rest

section Sections

variable {content framed rest input : Bytes}

theorem IsSection.ne_nil (framing : IsSection content framed) : framed ≠ [] := by
  obtain ⟨-, length, form, rfl⟩ := framing
  exact List.append_ne_nil_of_left_ne_nil form.spelled.ne_nil content

theorem readSection_eq_none_iff : readSection input = .ok none ↔ input = [] := by
  constructor
  · intro read
    rw [readSection] at read
    split at read
    · exact List.isEmpty_iff.mp ‹_›
    split at read
    · cases read
    split at read
    · cases read
    split at read <;> cases read
  · rintro rfl
    rfl

/-- Reading a section takes it off the front of the input. -/
theorem readSection_eq_some_iff :
    readSection input = .ok (some (content, rest)) ↔
      ∃ framed, IsSection content framed ∧ input = framed ++ rest := by
  constructor
  · intro read
    rw [readSection] at read
    split at read
    · cases read
    split at read
    · cases read
    rename_i length after counted
    split at read
    · cases read
    split at read
    · cases read
    · cases read
      obtain ⟨lead, form, rfl⟩ := Varint.read_eq_ok_iff.mp counted
      have size : (after.take length).length = length := by
        rw [List.length_take]
        omega
      refine ⟨lead ++ after.take length, ⟨?_, lead, by rwa [size], rfl⟩, ?_⟩
      · apply List.ne_nil_of_length_pos
        omega
      · rw [List.append_assoc, List.take_append_drop]
  · rintro ⟨framed, framing, rfl⟩
    have started : ¬ (framed ++ rest).isEmpty = true := by
      rw [List.isEmpty_iff]
      exact List.append_ne_nil_of_left_ne_nil framing.ne_nil rest
    obtain ⟨filled, lead, form, rfl⟩ := framing
    have positive := List.length_pos_of_ne_nil filled
    have counted : Varint.read (lead ++ content ++ rest) =
        .ok (content.length, content ++ rest) :=
      Varint.read_eq_ok_iff.mpr ⟨lead, form, List.append_assoc _ _ _⟩
    rw [readSection, if_neg started, counted]
    dsimp only
    rw [if_neg (by omega), if_neg (by simp), List.take_left, List.drop_left]

end Sections

theorem readBlock_eq_ok_iff {content : Bytes} {block : Block} :
    readBlock content = .ok block ↔ SpellsBlock block content := by
  rw [SpellsBlock, ← Cid.read?_takesForm.eq_some_iff, readBlock]
  cases Cid.read? content with
  | none => simp
  | some pair =>
      obtain ⟨cid, data⟩ := pair
      obtain ⟨other, bytes⟩ := block
      simp

/-- With more fuel than input the loop ends where the input does. -/
theorem readBlocks_eq_ok_iff {fuel : Nat} {input : Bytes} {blocks : List Block}
    (enough : input.length < fuel) :
    readBlocks fuel input = .ok blocks ↔ SpellsBlocks blocks input := by
  induction fuel generalizing input blocks with
  | zero => cases enough
  | succ fuel induction =>
      constructor
      · intro read
        rw [readBlocks] at read
        split at read
        · cases read
        · rename_i ended
          cases read
          rw [readSection_eq_none_iff.mp ended]
          exact .none
        rename_i content rest cut
        obtain ⟨framed, framing, rfl⟩ := readSection_eq_some_iff.mp cut
        have taken := List.length_pos_of_ne_nil framing.ne_nil
        rw [List.length_append] at enough
        split at read
        · cases read
        rename_i block found
        split at read
        · cases read
        · rename_i later laterRead
          cases read
          exact .next framing (readBlock_eq_ok_iff.mp found)
            ((induction (by omega)).mp laterRead)
      · intro spelled
        cases spelled with
        | none => rfl
        | @next block blocks content framed rest framing named others =>
            have taken := List.length_pos_of_ne_nil framing.ne_nil
            rw [List.length_append] at enough
            rw [readBlocks, readSection_eq_some_iff.mpr ⟨framed, framing, rfl⟩]
            dsimp only
            rw [readBlock_eq_ok_iff.mpr named]
            dsimp only
            rw [(induction (by omega)).mpr others]

theorem headerShape_distinct : headerShape.Distinct := by
  apply Shape.Distinct.record (by decide)
  simp only [List.forall_mem_cons]
  exact ⟨.list .link, .unsigned, List.forall_mem_nil _⟩

theorem linksOf_links {depth : Nat} {items : List Cbor.Value}
    (links : ∀ item ∈ items, Fits depth .link item) : items = (linksOf items).map .link := by
  induction items with
  | nil => rfl
  | cons item items induction =>
      obtain ⟨first, others⟩ := List.forall_mem_cons.mp links
      cases first
      rw [linksOf, List.map_cons, ← induction others]

theorem readHeader_eq_ok_iff {header : Bytes} {root : Cid} :
    readHeader header = .ok root ↔ headerShape.read? header = some (headerValue root) := by
  constructor
  · intro accepted
    rw [readHeader] at accepted
    split at accepted
    · rename_i rootsName roots versionName version read
      split at accepted
      · cases accepted
      rename_i supported
      split at accepted
      · rename_i single
        cases accepted
        cases headerShape_distinct.fits_whole read with
        | @record depth shapes fields keys distinct each =>
            obtain ⟨rootsNamed, versionNamed⟩ : rootsName = "roots" ∧ versionName = "version" := by
              simpa using keys
            have listed := (List.forall_mem_cons.mp each).1
            cases listed with
            | list links =>
                have roots_eq := linksOf_links links
                rw [single] at roots_eq
                rw [read, headerValue, rootsNamed, versionNamed, roots_eq, not_not.mp supported]
                rfl
      · cases accepted
    · cases accepted
  · intro read
    rw [readHeader, read]
    rfl

theorem decode_error_or_ok (input : Bytes) :
    (∃ fault, decode input = .error (.archive fault)) ∨ ∃ archive, decode input = .ok archive := by
  rw [decode]
  cases decodeFault input with
  | error fault => exact .inl ⟨fault, rfl⟩
  | ok archive => exact .inr ⟨archive, rfl⟩

theorem decode_eq_ok_iff {input : Bytes} {archive : Archive} :
    decode input = .ok archive ↔ Spells archive input := by
  constructor
  · intro decoded
    rw [decode, decodeFault] at decoded
    split at decoded
    · cases decoded
    · cases decoded
    rename_i header rest cut
    obtain ⟨framed, framing, rfl⟩ := readSection_eq_some_iff.mp cut
    split at decoded
    · cases decoded
    rename_i root accepted
    split at decoded
    · cases decoded
    · rename_i blocks read
      cases decoded
      exact ⟨header, framed, rest, framing, readHeader_eq_ok_iff.mp accepted,
        (readBlocks_eq_ok_iff (Nat.lt_succ_self _)).mp read, rfl⟩
  · rintro ⟨header, framed, rest, framing, accepted, blocks, rfl⟩
    rw [decode, decodeFault, readSection_eq_some_iff.mpr ⟨framed, framing, rfl⟩]
    dsimp only
    rw [readHeader_eq_ok_iff.mpr accepted]
    dsimp only
    rw [(readBlocks_eq_ok_iff (Nat.lt_succ_self _)).mpr blocks]
    rfl

theorem SpellsBlocks.length_lt {blocks : List Block} {input : Bytes}
    (spelled : SpellsBlocks blocks input) :
    ∀ block ∈ blocks, block.data.length < Varint.bound := by
  induction spelled with
  | none => exact List.forall_mem_nil _
  | next first named others induction =>
      obtain ⟨-, length, form, -⟩ := first
      obtain ⟨name, -, rfl⟩ := named
      have bounded := form.bounded
      rw [List.length_append] at bounded
      exact List.forall_mem_cons.mpr ⟨by omega, induction⟩

/-- No block of an archive that was read holds more data than the length of its section can state. -/
theorem decode_length_lt {input : Bytes} {archive : Archive}
    (decoded : decode input = .ok archive) :
    ∀ block ∈ archive.blocks, block.data.length < Varint.bound := by
  obtain ⟨header, framed, rest, -, -, spelled, -⟩ := decode_eq_ok_iff.mp decoded
  exact spelled.length_lt

end Archive

end SealedContent.Content
