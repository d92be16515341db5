import SealedContent.Proofs.Bytes.Hex
import SealedContent.Proofs.Bytes.Positional
import SealedContent.Proofs.Encoding.Positional
import SealedContent.Proofs.Text.Decimal
import SealedContent.Proofs.Web.Domain
import SealedContent.Proofs.Web.Percent
import SealedContent.Web.Host

/-!
A host is written as it is read: a name in its ASCII form, a number of four bytes as four decimal parts,
and a number of sixteen bytes as groups of which the longest run of zeros is left out.
-/

namespace SealedContent.Web.Host

open Encoding (natOfDigits natOfDigits_lt)

theorem ofText?_of_canonical {name : List Char} (canonical : Domain.canonical? name = some name) :
    ofText? name =
      if name.isEmpty then none
      else if endsInNumber name then (fourByte? name).map .fourByte
      else some (.domain name) := by
  have clear := Domain.not_forbidden canonical
  have unencoded : ∀ char ∈ name, char ≠ '%' := by
    rintro char member rfl
    exact absurd (clear '%' member) (by decide)
  have decoded : Bytes.toText? (Percent.decode name) = some (String.ofList name) := by
    rw [Percent.decode_plain unencoded, Bytes.toText?_ofText]
  rw [ofText?]
  · simp only [decoded, Option.bind_eq_bind, Option.bind_some, String.toList_ofList, canonical]
  · rintro inner rfl
    exact absurd (clear '[' List.mem_cons_self) (by decide)

section Four

theorem decimalValue?_decimal (value : Nat) :
    decimalValue? (Nat.toDigits 10 value) = some value := by
  rw [decimalValue?, if_pos (List.all_eq_true.mpr (Text.isDigit_decimal value)),
    Text.foldl_decimal]

theorem part?_decimal (value : Nat) : part? (Nat.toDigits 10 value) = some value := by
  by_cases zero : value = 0
  · rw [zero]
    rfl
  · have lead := Text.decimal_lead zero
    unfold part?
    split
    case h_1 empty => exact absurd empty Nat.toDigits_ne_nil
    case h_2 same => exact absurd same (lead _)
    case h_3 same => exact absurd same (lead _)
    case h_4 same => exact absurd same (lead _)
    case h_5 => exact decimalValue?_decimal value

theorem fourByte?_lt {name : List Char} {address : Nat} (read : fourByte? name = some address) :
    address < 256 ^ 4 := by
  unfold fourByte? at read
  obtain ⟨numbers, -, read⟩ := Option.bind_eq_some_iff.mp read
  obtain ⟨last, -, read⟩ := Option.bind_eq_some_iff.mp read
  simp only [] at read
  split at read
  case isFalse => cases read
  case isTrue fits =>
    obtain ⟨few, small, room⟩ := fits
    have heads : natOfDigits 256 numbers.dropLast < 256 ^ numbers.dropLast.length :=
      natOfDigits_lt (by decide) fun number member => by
        simpa using List.all_eq_true.mp small number member
    rw [← Option.some.inj read]
    calc natOfDigits 256 numbers.dropLast * 256 ^ (4 - numbers.dropLast.length) + last
        < (natOfDigits 256 numbers.dropLast + 1) * 256 ^ (4 - numbers.dropLast.length) := by
          rw [Nat.add_mul, Nat.one_mul]
          exact Nat.add_lt_add_left room _
      _ ≤ 256 ^ numbers.dropLast.length * 256 ^ (4 - numbers.dropLast.length) :=
          Nat.mul_le_mul_right _ heads
      _ = 256 ^ 4 := by
          rw [← Nat.pow_add]
          congr 1
          omega

def decimalParts (address : Nat) : List (List Char) :=
  ((Bytes.ofNatBig 4 address).map UInt8.toNat).map (Nat.toDigits 10)

theorem writeFourByte_eq (address : Nat) :
    writeFourByte address = Text.joinWith '.' (decimalParts address) := by
  rw [writeFourByte, decimalParts, List.map_map]
  congr 1
  apply List.map_congr_left
  intro byte _
  exact Text.toList_toString byte.toNat

theorem digits_of_mem_decimalParts {address : Nat} {text : List Char}
    (one : text ∈ decimalParts address) :
    text ≠ [] ∧ ∀ char ∈ text, char.isDigit = true := by
  obtain ⟨value, -, rfl⟩ := List.mem_map.mp one
  exact ⟨Nat.toDigits_ne_nil, Text.isDigit_decimal value⟩

theorem numerals_writeFourByte (address : Nat) :
    ∀ char ∈ writeFourByte address, Domain.IsNumeral char := by
  intro char member
  rw [writeFourByte_eq] at member
  rcases Text.mem_joinWith member with rfl | ⟨text, one, found⟩
  · exact .inr rfl
  · exact .inl ((digits_of_mem_decimalParts one).2 char found)

theorem parts_writeFourByte (address : Nat) :
    parts (writeFourByte address) = decimalParts address := by
  have split : Text.splitWhere (· = '.') (writeFourByte address) = decimalParts address := by
    rw [writeFourByte_eq]
    apply Text.splitWhere_joinWith (by decide)
    · exact List.cons_ne_nil _ _
    · intro text one char member
      have digit := (digits_of_mem_decimalParts one).2 char member
      rw [decide_eq_false_iff_not]
      rintro rfl
      cases digit
  rw [parts, split]
  apply if_neg
  intro empty
  exact (digits_of_mem_decimalParts (List.mem_of_getLast? empty)).1 rfl

theorem writeFourByte_ne_nil (address : Nat) : writeFourByte address ≠ [] := by
  intro empty
  have none := parts_writeFourByte address
  rw [empty] at none
  cases none

theorem fourByte?_writeFourByte {address : Nat} (bounded : address < 256 ^ 4) :
    fourByte? (writeFourByte address) = some address := by
  obtain ⟨a, b, c, d, bytes⟩ : ∃ a b c d, Bytes.ofNatBig 4 address = [a, b, c, d] :=
    ⟨_, _, _, _, rfl⟩
  have value : Bytes.bigEndian (Bytes.ofNatBig 4 address) = address :=
    Bytes.bigEndian_ofNatBig bounded
  have read : (([a, b, c, d].map UInt8.toNat).map (Nat.toDigits 10)).mapM part? =
      some ([a, b, c, d].map UInt8.toNat) :=
    Text.mapM_written fun value _ => part?_decimal value
  have small : ∀ byte : UInt8, byte.toNat < 256 := UInt8.toNat_lt
  rw [bytes] at value
  rw [fourByte?, parts_writeFourByte, decimalParts, bytes, read, ← value]
  simp [small, Bytes.bigEndian]

theorem ofText?_writeFourByte {address : Nat} (bounded : address < 256 ^ 4) :
    ofText? (writeFourByte address) = some (.fourByte address) := by
  have numeric : endsInNumber (writeFourByte address) = true := by
    have some_last : decimalParts address ≠ [] := List.cons_ne_nil _ _
    obtain ⟨filled, digits⟩ := digits_of_mem_decimalParts (List.getLast_mem some_last)
    obtain ⟨first, rest, text⟩ := List.exists_cons_of_ne_nil filled
    rw [text] at digits
    rw [endsInNumber, parts_writeFourByte, List.getLast?_eq_some_getLast some_last, text]
    simp [List.all_eq_true.mpr digits]
  rw [ofText?_of_canonical (Domain.canonical?_numerals (numerals_writeFourByte address)),
    if_neg (mt List.isEmpty_iff.mp (writeFourByte_ne_nil address)), if_pos numeric,
    fourByte?_writeFourByte bounded]
  rfl

end Four

section Groups

theorem hexValue?_lt {digit : Char} {value : Nat} (read : Bytes.hexValue? digit = some value) :
    value < 16 := by
  simp only [Bytes.hexValue?, Char.le_def, UInt32.le_iff_toNat_le] at read
  split at read
  case isTrue bounds =>
    have greatest : digit.toNat ≤ 57 := bounds.2
    have least : 48 ≤ digit.toNat := bounds.1
    cases read
    omega
  case isFalse =>
    split at read
    case isTrue bounds =>
      have greatest : digit.toNat ≤ 102 := bounds.2
      have least : 97 ≤ digit.toNat := bounds.1
      cases read
      omega
    case isFalse =>
      split at read
      case isTrue bounds =>
        have greatest : digit.toNat ≤ 70 := bounds.2
        have least : 65 ≤ digit.toNat := bounds.1
        cases read
        omega
      case isFalse => cases read

theorem group?_lt {text : List Char} {group : Nat} (read : group? text = some group) :
    group < 16 ^ 4 := by
  unfold group? at read
  split at read
  case isTrue => cases read
  case isFalse short =>
    obtain ⟨values, all, value⟩ := Option.map_eq_some_iff.mp read
    obtain ⟨length, digits⟩ := Text.forall_of_mapM (fun _ _ _ => hexValue?_lt) all
    have bounded := natOfDigits_lt (by decide) digits
    rw [length] at bounded
    rw [← value]
    exact lt_of_lt_of_le bounded (Nat.pow_le_pow_right (by decide) (by simp at short; omega))

theorem embedded?_lt {text : List Char} {groups : List Nat}
    (read : embedded? text = some groups) : ∀ group ∈ groups, group < 16 ^ 4 := by
  unfold embedded? at read
  split at read
  case h_2 => cases read
  case h_1 a b c d all =>
    have small : ∀ number ∈ [a, b, c, d], number < 256 := by
      refine (Text.forall_of_mapM (fun part _ number found => ?_) all).2
      split at found
      case isTrue =>
        have kept := (Option.filter_eq_some_iff.mp found).2
        simpa using kept
      case isFalse => cases found
    cases read
    simp only [List.forall_mem_cons] at small ⊢
    exact ⟨by omega, by omega, nofun⟩

theorem groups?_lt {text : List Char} {groups : List Nat} (read : groups? text = some groups) :
    ∀ group ∈ groups, group < 16 ^ 4 := by
  unfold groups? at read
  split at read
  case isTrue =>
    cases read
    exact nofun
  case isFalse =>
    simp only [] at read
    split at read
    case h_2 => cases read
    case h_1 last ends =>
      split at read
      case isFalse => exact (Text.forall_of_mapM (fun _ _ _ => group?_lt) read).2
      case isTrue =>
        obtain ⟨front, all, read⟩ := Option.bind_eq_some_iff.mp read
        obtain ⟨back, found, read⟩ := Option.bind_eq_some_iff.mp read
        cases read
        intro group member
        rcases List.mem_append.mp member with before | after
        · exact (Text.forall_of_mapM (fun _ _ _ => group?_lt) all).2 group before
        · exact embedded?_lt found group after

/-- Eight groups of two bytes. -/
structure IsAddress (groups : List Nat) : Prop where
  eight : groups.length = 8
  small : ∀ group ∈ groups, group < 16 ^ 4

theorem isAddress_of_sixteenByte? {text : List Char} {groups : List Nat}
    (read : sixteenByte? text = some groups) : IsAddress groups := by
  unfold sixteenByte? at read
  split at read
  case h_1 =>
    obtain ⟨all, eight⟩ := Option.filter_eq_some_iff.mp read
    exact ⟨of_decide_eq_true eight, groups?_lt all⟩
  case h_2 =>
    obtain ⟨front, before, read⟩ := Option.bind_eq_some_iff.mp read
    obtain ⟨back, after, read⟩ := Option.bind_eq_some_iff.mp read
    split at read
    case isTrue => cases read
    case isFalse room =>
      have short : front.length + back.length < 8 := by
        by_contra long
        exact room (.inr (by omega))
      cases read
      constructor
      · simp only [List.length_append, List.length_replicate]
        omega
      · intro group member
        rcases List.mem_append.mp member with early | late
        · rcases List.mem_append.mp early with first | zero
          · exact groups?_lt before group first
          · rw [List.eq_of_mem_replicate zero]
            decide
        · exact groups?_lt after group late

theorem exists_digits (value : Nat) : ∃ digits : List Nat, digits ≠ [] ∧
    (∀ digit ∈ digits, digit < 16) ∧ Text.hexNumber value = digits.map Bytes.hexDigit ∧
    natOfDigits 16 digits = value ∧ ∀ places, value < 16 ^ (places + 1) → digits.length ≤ places + 1 := by
  induction value using Nat.strongRecOn with
  | ind value induction =>
      by_cases single : value < 16
      · refine ⟨[value], List.cons_ne_nil _ _, by simpa using single, ?_, ?_, ?_⟩
        · rw [Text.hexNumber, if_pos single, List.map_singleton]
        · simp [natOfDigits]
        · simp
      · obtain ⟨digits, -, small, text, number, length⟩ := induction (value / 16) (by omega)
        refine ⟨digits ++ [value % 16], by simp, ?_, ?_, ?_, ?_⟩
        · intro digit member
          rcases List.mem_append.mp member with high | low
          · exact small digit high
          · rw [List.mem_singleton.mp low]
            omega
        · rw [Text.hexNumber, if_neg single, text, List.map_append, List.map_singleton]
        · rw [natOfDigits, List.foldl_append, ← natOfDigits, number]
          simp only [List.foldl_cons, List.foldl_nil]
          omega
        · intro places bounded
          cases places with
          | zero => omega
          | succ places =>
              have tenth := length places (by rw [Nat.pow_succ] at bounded; omega)
              simp only [List.length_append, List.length_singleton]
              omega

theorem hexNumber_ne_nil (value : Nat) : Text.hexNumber value ≠ [] := by
  obtain ⟨digits, present, -, text, -⟩ := exists_digits value
  rw [text]
  exact mt List.map_eq_nil_iff.mp present

/-- What a digit of a group never is. -/
theorem hexDigit_apart : ∀ digit < 16, Bytes.hexDigit digit ≠ ':' ∧ Bytes.hexDigit digit ≠ '.' ∧
    Domain.isForbidden (Bytes.hexDigit digit) = false := by
  decide

theorem mem_hexNumber {value : Nat} {char : Char} (member : char ∈ Text.hexNumber value) :
    char ≠ ':' ∧ char ≠ '.' ∧ Domain.isForbidden char = false := by
  obtain ⟨digits, -, small, text, -⟩ := exists_digits value
  rw [text] at member
  obtain ⟨digit, one, rfl⟩ := List.mem_map.mp member
  exact hexDigit_apart digit (small digit one)

theorem group?_hexNumber {value : Nat} (bounded : value < 16 ^ 4) :
    group? (Text.hexNumber value) = some value := by
  obtain ⟨digits, present, small, text, number, length⟩ := exists_digits value
  have read : (digits.map Bytes.hexDigit).mapM Bytes.hexValue? = some digits :=
    Text.mapM_written fun digit one => Bytes.hexValue?_hexDigit digit (small digit one)
  have short := length 3 bounded
  rw [group?, text, if_neg, hexadecimalValue?, read, ← number]
  · rfl
  · rw [List.isEmpty_iff, List.map_eq_nil_iff, List.length_map]
    exact not_or.mpr ⟨present, Nat.not_lt.mpr short⟩

theorem mem_writeGroups {groups : List Nat} {char : Char} (member : char ∈ writeGroups groups) :
    char = ':' ∨ (char ≠ '.' ∧ Domain.isForbidden char = false) := by
  rcases Text.mem_joinWith member with rfl | ⟨text, one, found⟩
  · exact .inl rfl
  · obtain ⟨group, -, rfl⟩ := List.mem_map.mp one
    exact .inr (mem_hexNumber found).2

theorem writeGroups_cons (group : Nat) {rest : List Nat} (present : rest ≠ []) :
    writeGroups (group :: rest) = Text.hexNumber group ++ ':' :: writeGroups rest :=
  Text.joinWith_cons ':' _ (mt List.map_eq_nil_iff.mp present)

theorem writeGroups_ne_nil {groups : List Nat} (present : groups ≠ []) :
    ∃ char more, writeGroups groups = char :: more ∧ char ≠ ':' := by
  cases groups with
  | nil => exact absurd rfl present
  | cons group rest =>
      obtain ⟨char, more, text⟩ := List.exists_cons_of_ne_nil (hexNumber_ne_nil group)
      have digit : char ≠ ':' := (mem_hexNumber (by rw [text]; exact List.mem_cons_self)).1
      cases rest with
      | nil => exact ⟨char, more, text, digit⟩
      | cons next others =>
          rw [writeGroups_cons group (List.cons_ne_nil _ _), text]
          exact ⟨char, _, rfl, digit⟩

theorem groups?_writeGroups {groups : List Nat} (small : ∀ group ∈ groups, group < 16 ^ 4) :
    groups? (writeGroups groups) = some groups := by
  by_cases none : groups = []
  · rw [none]
    rfl
  · obtain ⟨char, more, text, -⟩ := writeGroups_ne_nil none
    have split : Text.splitWhere (· = ':') (writeGroups groups) = groups.map Text.hexNumber := by
      apply Text.splitWhere_joinWith (by decide) (mt List.map_eq_nil_iff.mp none)
      intro piece one char member
      obtain ⟨group, -, rfl⟩ := List.mem_map.mp one
      exact decide_eq_false (mem_hexNumber member).1
    have present : (groups.map Text.hexNumber) ≠ [] := mt List.map_eq_nil_iff.mp none
    have last := List.getLast?_eq_some_getLast present
    have undotted : ((groups.map Text.hexNumber).getLast present).contains '.' = false := by
      obtain ⟨group, -, piece⟩ := List.mem_map.mp (List.getLast_mem present)
      rw [← piece, List.contains_eq_any_beq, List.any_eq_false]
      intro char member same
      exact (mem_hexNumber member).2.1 (beq_iff_eq.mp same).symm
    rw [groups?, if_neg (by rw [text]; exact Bool.false_ne_true), split]
    simp only [last, undotted, Bool.false_eq_true, if_false]
    exact Text.mapM_written fun group one => group?_hexNumber (small group one)

/-- No gap begins before what follows characters that are no colons. -/
theorem splitGap?_append {piece : List Char} (plain : ∀ char ∈ piece, char ≠ ':')
    (rest : List Char) : splitGap? (piece ++ rest) =
      (splitGap? rest).map fun (before, after) => (piece ++ before, after) := by
  induction piece with
  | nil => simp
  | cons char others induction =>
      rw [List.forall_mem_cons] at plain
      rw [List.cons_append, splitGap?, induction plain.2, Option.map_map]
      · rfl
      · rintro more same -
        exact plain.1 same

theorem splitGap?_writeGroups (groups : List Nat) (rest : List Char) :
    splitGap? (writeGroups groups ++ rest) =
      (splitGap? rest).map fun (before, after) => (writeGroups groups ++ before, after) := by
  induction groups with
  | nil => simp [writeGroups, Text.joinWith]
  | cons group others induction =>
      have plain : ∀ char ∈ Text.hexNumber group, char ≠ ':' := fun char member =>
        (mem_hexNumber member).1
      by_cases last : others = []
      · rw [last]
        exact splitGap?_append plain rest
      · obtain ⟨char, more, text, digit⟩ := writeGroups_ne_nil last
        have single : splitGap? (':' :: (writeGroups others ++ rest)) =
            (splitGap? (writeGroups others ++ rest)).map fun (before, after) =>
              (':' :: before, after) := by
          rw [splitGap?]
          rintro after - same
          rw [text] at same
          exact digit (List.cons.inj same).1
        rw [writeGroups_cons group last, List.append_assoc, splitGap?_append plain,
          List.cons_append, single, induction, Option.map_map, Option.map_map]
        cases splitGap? rest with
        | none => rfl
        | some parts => simp

theorem longestRun_split (groups : List Nat) :
    groups = groups.take (longestRun groups).1 ++ (List.replicate (longestRun groups).2 0 ++
      groups.drop ((longestRun groups).1 + (longestRun groups).2)) := by
  induction groups with
  | nil => rfl
  | cons group rest induction =>
      rw [longestRun]
      simp only []
      split
      case isTrue =>
        rw [Nat.add_right_comm, List.take_succ_cons, List.drop_succ_cons, List.cons_append,
          ← induction]
      case isFalse =>
        have zeros : (group :: rest).takeWhile (· = 0) =
            List.replicate (zeroRun (group :: rest)) 0 := by
          apply List.eq_replicate_of_mem
          intro value member
          simpa using List.mem_takeWhile_imp member
        rw [List.take_zero, List.nil_append, Nat.zero_add, ← zeros, zeroRun]
        exact (List.prefix_iff_eq_append.mp (List.takeWhile_prefix _)).symm

theorem sixteenByte?_writeSixteenByte {groups : List Nat} (address : IsAddress groups) :
    sixteenByte? (writeSixteenByte groups) = some groups := by
  obtain ⟨eight, small⟩ := address
  rw [writeSixteenByte]
  simp only []
  split
  case isTrue =>
    have whole := splitGap?_writeGroups groups []
    rw [List.append_nil] at whole
    rw [sixteenByte?, whole, groups?_writeGroups small]
    simp [splitGap?, eight]
  case isFalse long =>
    let before := (longestRun groups).1
    let length := (longestRun groups).2
    have parts : groups = groups.take before ++ (List.replicate length 0 ++
        groups.drop (before + length)) := longestRun_split groups
    have sizes := congrArg List.length parts
    simp only [List.length_append, List.length_replicate, eight] at sizes
    have cut := splitGap?_writeGroups (groups.take before)
      (':' :: ':' :: writeGroups (groups.drop (before + length)))
    have front : groups? (writeGroups (groups.take before)) = some (groups.take before) :=
      groups?_writeGroups fun group member => small group (List.mem_of_mem_take member)
    have back : groups? (writeGroups (groups.drop (before + length))) =
        some (groups.drop (before + length)) :=
      groups?_writeGroups fun group member => small group (List.mem_of_mem_drop member)
    have undotted : (writeGroups (groups.take before)).contains '.' = false := by
      rw [List.contains_eq_any_beq, List.any_eq_false]
      intro char member same
      rcases mem_writeGroups member with colon | ⟨other, -⟩
      · rw [colon] at same
        cases same
      · exact other (beq_iff_eq.mp same).symm
    rw [List.append_assoc, List.cons_append, List.singleton_append, sixteenByte?, cut]
    simp only [splitGap?, Option.map_some, List.append_nil, front, back, Option.bind_eq_bind,
      Option.bind_some, undotted]
    rw [if_neg (by simp only [Bool.false_eq_true, false_or]; omega), List.append_assoc]
    conv_rhs => rw [parts]
    congr 4
    omega

end Groups

theorem ofText?_write {text : List Char} {host : Host} (read : ofText? text = some host) :
    ofText? host.write = some host := by
  unfold ofText? at read
  split at read
  case h_1 inner =>
    split at read
    case isFalse => cases read
    case isTrue =>
      obtain ⟨groups, found, rfl⟩ := Option.map_eq_some_iff.mp read
      have written := sixteenByte?_writeSixteenByte (isAddress_of_sixteenByte? found)
      rw [write, List.cons_append, ofText?]
      simp [written]
  case h_2 =>
    obtain ⟨decoded, -, read⟩ := Option.bind_eq_some_iff.mp read
    obtain ⟨name, canonical, read⟩ := Option.bind_eq_some_iff.mp read
    split at read
    case isTrue => cases read
    case isFalse present =>
      split at read
      case isTrue =>
        obtain ⟨address, found, rfl⟩ := Option.map_eq_some_iff.mp read
        exact ofText?_writeFourByte (fourByte?_lt found)
      case isFalse named =>
        cases read
        rw [write, ofText?_of_canonical (Domain.canonical?_idempotent canonical), if_neg present,
          if_neg named]

/-- A host is written without anything that ends one, but for the brackets round groups and the colons
between them. -/
theorem write_cases {text : List Char} {host : Host} (read : ofText? text = some host) :
    (host.write ≠ [] ∧ ∀ char ∈ host.write, Domain.isForbidden char = false) ∨
      ∃ inner, host.write = '[' :: inner ++ [']'] ∧
        ∀ char ∈ inner, char = ':' ∨ Domain.isForbidden char = false := by
  unfold ofText? at read
  split at read
  case h_1 =>
    split at read
    case isFalse => cases read
    case isTrue =>
      obtain ⟨groups, -, rfl⟩ := Option.map_eq_some_iff.mp read
      refine .inr ⟨writeSixteenByte groups, rfl, ?_⟩
      intro char member
      have grouped : ∀ {some : List Nat}, char ∈ writeGroups some →
          char = ':' ∨ Domain.isForbidden char = false :=
        fun found => (mem_writeGroups found).imp_right And.right
      rw [writeSixteenByte] at member
      simp only [] at member
      split at member
      · exact grouped member
      · rcases List.mem_append.mp member with early | late
        · rcases List.mem_append.mp early with first | colon
          · exact grouped first
          · exact .inl (by simpa using colon)
        · exact grouped late
  case h_2 =>
    obtain ⟨decoded, -, read⟩ := Option.bind_eq_some_iff.mp read
    obtain ⟨name, canonical, read⟩ := Option.bind_eq_some_iff.mp read
    split at read
    case isTrue => cases read
    case isFalse present =>
      split at read
      case isTrue =>
        obtain ⟨address, -, rfl⟩ := Option.map_eq_some_iff.mp read
        exact .inl ⟨writeFourByte_ne_nil address, fun char member =>
          (numerals_writeFourByte address char member).not_forbidden⟩
      case isFalse =>
        cases read
        exact .inl ⟨mt List.isEmpty_iff.mpr present, Domain.not_forbidden canonical⟩

theorem write_ne_nil {text : List Char} {host : Host} (read : ofText? text = some host) :
    host.write ≠ [] := by
  rcases write_cases read with ⟨filled, -⟩ | ⟨inner, written, -⟩
  · exact filled
  · rw [written]
    exact List.cons_ne_nil _ _

end SealedContent.Web.Host
