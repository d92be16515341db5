import SealedContent.Proofs.Text.Decimal
import SealedContent.Proofs.Toml.HeldNumber
import SealedContent.Proofs.Toml.QuotedText

/-!
A written line reads back. Every scalar is read up to the end of its line, a header starts the section
it names, and a field is added to the section that is being read.
-/

namespace SealedContent.Toml

open Lexeme

/-- The value that a scalar is written for. -/
def Scalar.value : Scalar → Value
  | .string text => .string text
  | .natural value => .integer value
  | .boolean value => .boolean value

section Numbers

variable {digits rest : List Char}

theorem takeWhile_digits {stops : Char → Bool} (all : ∀ char ∈ digits, stops char = true)
    (ends : stops '\n' = false) : (digits ++ '\n' :: rest).takeWhile stops = digits := by
  rw [List.takeWhile_append_of_pos all, List.takeWhile_cons_of_neg, List.append_nil]
  rw [ends]
  exact Bool.false_ne_true

theorem digits?_plain (present : digits ≠ []) (all : ∀ char ∈ digits, char.isDigit = true) :
    digits? Char.isDigit (digits ++ '\n' :: rest) = some (digits, '\n' :: rest) := by
  have solid : ∀ char ∈ digits, char ≠ '_' := by
    rintro char member rfl
    cases all '_' member
  have word : (digits ++ '\n' :: rest).takeWhile
      (fun char => decide (char.isDigit = true ∨ char = '_')) = digits :=
    takeWhile_digits (fun char member => decide_eq_true (.inl (all char member))) (by decide)
  have kept : digits.filter (fun char => decide (char ≠ '_')) = digits :=
    List.filter_eq_self.mpr fun char member => decide_eq_true (solid char member)
  have first : digits.head? ≠ some '_' := fun same => solid '_' (List.mem_of_head? same) rfl
  have last : digits.getLast? ≠ some '_' := fun same => solid '_' (List.mem_of_getLast? same) rfl
  rw [digits?, word]
  dsimp only
  rw [if_neg, kept, List.drop_left' rfl]
  rintro (empty | starts | ends | mixed)
  · exact present (List.isEmpty_iff.mp empty)
  · exact first starts
  · exact last ends
  · apply mixed
    apply List.all_eq_true.mpr
    rintro ⟨left, right⟩ member
    exact decide_eq_true (.inl (solid left (List.of_mem_zip member).1))

/-- The decimal text of a number at the end of a line. -/
theorem wholePart?_decimal (value : Nat) (rest : List Char) :
    wholePart? (Nat.toDigits 10 value ++ '\n' :: rest) =
      some (false, Nat.toDigits 10 value, '\n' :: rest) := by
  by_cases zero : value = 0
  · rw [zero]
    rfl
  · have read : digits? Char.isDigit (Nat.toDigits 10 value ++ '\n' :: rest) =
        some (Nat.toDigits 10 value, '\n' :: rest) :=
      digits?_plain Nat.toDigits_ne_nil (Text.isDigit_decimal value)
    obtain ⟨first, more, digits, lead, other⟩ := Text.exists_decimal_lead value
    rw [digits, List.cons_append] at read ⊢
    rw [wholePart?]
    · simp only [read]
      rfl
    · exact fun after same => other '+' rfl (List.cons.inj same).1
    · exact fun after same => other '-' rfl (List.cons.inj same).1
    · exact fun after same => lead zero (List.cons.inj same).1

theorem keyword?_decimal (words : List String) (figureless : ∀ word ∈ words, ∃ letter letters,
    word.toList = letter :: letters ∧ letter.isDigit = false) (value : Nat) (rest : List Char) :
    keyword? words (Nat.toDigits 10 value ++ rest) = none := by
  obtain ⟨first, more, digits, -, other⟩ := Text.exists_decimal_lead value
  rw [keyword?, List.findSome?_eq_none_iff]
  intro word member
  obtain ⟨letter, letters, text, figure⟩ := figureless word member
  simp only [text, digits, List.length_cons, List.cons_append, List.take_succ_cons]
  apply if_neg
  exact fun same => other letter figure (List.cons.inj same).1

theorem float?_decimal (value : Nat) (rest : List Char) :
    float? (Nat.toDigits 10 value ++ '\n' :: rest) = none := by
  have special : specialFloat? (Nat.toDigits 10 value ++ '\n' :: rest) = none := by
    have none := keyword?_decimal ["inf", "nan"] (by
      intro word member
      rcases List.mem_pair.mp member with rfl | rfl
      · exact ⟨'i', ['n', 'f'], by decide, rfl⟩
      · exact ⟨'n', ['a', 'n'], by decide, rfl⟩) value ('\n' :: rest)
    obtain ⟨first, more, digits, -, other⟩ := Text.exists_decimal_lead value
    rw [digits, List.cons_append] at none ⊢
    rw [specialFloat?]
    · exact none
    · exact fun after same => other '+' rfl (List.cons.inj same).1
    · exact fun after same => other '-' rfl (List.cons.inj same).1
  rw [float?, special]
  simp only [wholePart?_decimal]
  rfl

/-- Digits in a fixed number are followed by another digit or by the end of the line. -/
theorem fixedDigits?_decimal {value count : Nat} {read : Nat} {after : List Char}
    (found : fixedDigits? count (Nat.toDigits 10 value ++ '\n' :: rest) = some (read, after))
    {mark : Char} (notDigit : mark.isDigit = false) (notEnd : mark ≠ '\n') :
    literal? mark after = none := by
  unfold fixedDigits? at found
  simp only [] at found
  split at found
  case isFalse => cases found
  case isTrue fixed =>
    have figures := List.all_eq_true.mp fixed.2
    cases found
    have within : count ≤ (Nat.toDigits 10 value).length := by
      by_contra beyond
      have newline : '\n' ∈ (Nat.toDigits 10 value ++ '\n' :: rest).take count := by
        obtain ⟨more, excess⟩ : ∃ more, count - (Nat.toDigits 10 value).length = more + 1 :=
          Nat.exists_eq_add_one.mpr (by omega)
        rw [List.take_append, excess, List.take_succ_cons]
        exact List.mem_append_right _ List.mem_cons_self
      cases figures '\n' newline
    rw [List.drop_append_of_le_length within]
    cases left : (Nat.toDigits 10 value).drop count with
    | nil =>
        rw [List.nil_append, literal?]
        exact if_neg notEnd.symm
    | cons next more =>
        have member : next ∈ Nat.toDigits 10 value :=
          List.mem_of_mem_drop (by rw [left]; exact List.mem_cons_self)
        rw [List.cons_append, literal?]
        apply if_neg
        rintro rfl
        rw [Text.isDigit_decimal value next member] at notDigit
        cases notDigit

theorem moment?_decimal (value : Nat) (rest : List Char) :
    moment? (Nat.toDigits 10 value ++ '\n' :: rest) = none := by
  have date : date? (Nat.toDigits 10 value ++ '\n' :: rest) = none := by
    rw [date?]
    cases found : fixedDigits? 4 (Nat.toDigits 10 value ++ '\n' :: rest) with
    | none => rfl
    | some year =>
        have stopped : literal? '-' year.2 = none := fixedDigits?_decimal found rfl (by decide)
        simp only [Option.bind_eq_bind, Option.bind_some, stopped]
        rfl
  have time : time? (Nat.toDigits 10 value ++ '\n' :: rest) = none := by
    rw [time?]
    cases found : fixedDigits? 2 (Nat.toDigits 10 value ++ '\n' :: rest) with
    | none => rfl
    | some hour =>
        have stopped : literal? ':' hour.2 = none := fixedDigits?_decimal found rfl (by decide)
        simp only [Option.bind_eq_bind, Option.bind_some, stopped]
        rfl
  rw [moment?, date]
  exact time

theorem integer?_decimal {value : Nat} (small : value < integerBound) (rest : List Char) :
    integer? (Nat.toDigits 10 value ++ '\n' :: rest) = some ((value : Int), '\n' :: rest) := by
  have whole := wholePart?_decimal value rest
  have number : decimalNatural (Nat.toDigits 10 value) = value := Text.foldl_decimal value
  by_cases zero : value = 0
  · rw [zero]
    rfl
  · obtain ⟨first, more, digits, lead, -⟩ := Text.exists_decimal_lead value
    rw [digits] at number
    rw [digits, List.cons_append] at whole ⊢
    rw [integer?]
    · simp only [whole, Option.bind_eq_bind, Option.bind_some, number, Bool.false_eq_true, if_false,
        if_pos small]
    · exact fun after same => lead zero (List.cons.inj same).1
    · exact fun after same => lead zero (List.cons.inj same).1
    · exact fun after same => lead zero (List.cons.inj same).1

end Numbers

theorem exists_writeString_lead (text : String) : ∃ quote more,
    writeString text = quote :: more ∧ (quote = '"' ∨ quote = '\'') := by
  unfold writeString
  simp only []
  split
  · exact ⟨'"', _, rfl, .inl rfl⟩
  · split
    · exact ⟨'\'', _, rfl, .inr rfl⟩
    · split
      · exact ⟨'"', _, rfl, .inl rfl⟩
      · split
        · exact ⟨'\'', _, rfl, .inr rfl⟩
        · exact ⟨'"', _, rfl, .inl rfl⟩

theorem readValue?_write {scalar : Scalar} (held : scalar.value.IsHeld) (depth : Nat)
    (rest : List Char) :
    readValue? depth (scalar.write ++ '\n' :: rest) = some (scalar.value, '\n' :: rest) := by
  cases scalar with
  | string text =>
      have read : string? (writeString text ++ '\n' :: rest) = some (text, '\n' :: rest) := by
        apply string?_writeString
        intro char more same
        rw [← (List.cons.inj same).1]
        decide
      obtain ⟨quote, more, written, rfl | rfl⟩ := exists_writeString_lead text
      all_goals
        rw [written, List.cons_append] at read
        rw [Scalar.write, written, List.cons_append, readValue?, read]
        rfl
  | natural value =>
      have moment := moment?_decimal value rest
      have float := float?_decimal value rest
      have small : value < integerBound := by
        cases held with
        | integer small => exact Int.ofNat_lt.mp small
      have integer := integer?_decimal small rest
      obtain ⟨first, more, digits, -, other⟩ := Text.exists_decimal_lead value
      rw [Scalar.write, Text.toList_toString]
      rw [digits, List.cons_append] at moment float integer ⊢
      rw [readValue?]
      · rw [readNumber?, moment, float, integer]
        rfl
      · exact List.cons_ne_nil _ _
      all_goals exact fun after same => absurd (List.cons.inj same).1 (other _ rfl)
  | boolean value =>
      cases value <;> cases depth <;> rfl

/-- A name that is written without quotes. -/
def IsBareName (name : String) : Prop :=
  name.toList ≠ [] ∧ name.toList.all isBare = true

instance (name : String) : Decidable (IsBareName name) :=
  inferInstanceAs (Decidable (_ ∧ _))

section Lines

variable {rest : List Char}

theorem skipSpace_visible {char : Char} (visible : isSpace char = false) (rest : List Char) :
    skipSpace (char :: rest) = char :: rest := by
  rw [skipSpace, List.dropWhile_cons_of_neg]
  rw [visible]
  exact Bool.false_ne_true

/-- What a bare character is not. -/
theorem bare_apart {char : Char} (bare : isBare char = true) :
    isSpace char = false ∧ char ≠ '"' ∧ char ≠ '\'' ∧ char ≠ '[' ∧ char ≠ '#' ∧ char ≠ '\n' ∧
      char ≠ '\r' := by
  refine ⟨?_, ?_, ?_, ?_, ?_, ?_, ?_⟩
  · rw [isSpace, decide_eq_false_iff_not]
    rintro (rfl | rfl) <;> cases bare
  all_goals
    rintro rfl
    cases bare

theorem IsBareName.exists_lead {name : String} (bare : IsBareName name) :
    ∃ first more, name.toList = first :: more ∧ isBare first = true := by
  obtain ⟨first, more, text⟩ := List.exists_cons_of_ne_nil bare.1
  exact ⟨first, more, text, List.all_eq_true.mp bare.2 first (by rw [text]; exact List.mem_cons_self)⟩

theorem key?_bare {name : String} (bare : IsBareName name) {mark : Char} {after : List Char}
    (follows : skipSpace rest = mark :: after) (notDot : mark ≠ '.')
    (stops : ∀ char more, rest = char :: more → isBare char = false) (fuel : Nat) :
    key? (fuel + 1) (name.toList ++ rest) = some ([name], mark :: after) := by
  obtain ⟨first, more, text, lead⟩ := bare.exists_lead
  have apart := bare_apart lead
  have all := List.all_eq_true.mp bare.2
  have word : (name.toList ++ rest).takeWhile isBare = name.toList := by
    rw [List.takeWhile_append_of_pos all]
    cases rest with
    | nil => rw [List.takeWhile_nil, List.append_nil]
    | cons char more =>
        rw [List.takeWhile_cons_of_neg, List.append_nil]
        rw [stops char more rfl]
        exact Bool.false_ne_true
  have beyond : (name.toList ++ rest).dropWhile isBare = rest := by
    have whole := (List.takeWhile_append_dropWhile (p := isBare) (l := name.toList ++ rest))
    rw [word] at whole
    exact List.append_cancel_left whole
  have single : simpleKey? (name.toList ++ rest) = some (name, rest) := by
    rw [simpleKey?]
    · simp only [word, beyond, List.isEmpty_iff, bare.1, if_false, String.ofList_toList]
    · intro tail same
      rw [text] at same
      exact apart.2.1 (List.cons.inj same).1
    · intro tail same
      rw [text] at same
      exact apart.2.2.1 (List.cons.inj same).1
  have start : skipSpace (name.toList ++ rest) = name.toList ++ rest := by
    rw [text, List.cons_append]
    exact skipSpace_visible apart.1 _
  rw [key?, start, single]
  simp only [Option.bind_eq_bind, Option.bind_some, follows]
  split
  case h_1 same => exact absurd (List.cons.inj same).1 notDot
  case h_2 => rfl

theorem exists_write_lead (scalar : Scalar) : ∃ first more, scalar.write = first :: more ∧
    isSpace first = false := by
  cases scalar with
  | string text =>
      obtain ⟨quote, more, written, rfl | rfl⟩ := exists_writeString_lead text
      · exact ⟨_, more, written, rfl⟩
      · exact ⟨_, more, written, rfl⟩
  | natural value =>
      obtain ⟨first, more, digits, -, other⟩ := Text.exists_decimal_lead value
      refine ⟨first, more, ?_, ?_⟩
      · rw [Scalar.write, Text.toList_toString, digits]
      · rw [isSpace, decide_eq_false_iff_not]
        rintro (same | same)
        · exact other ' ' rfl same
        · exact other '\t' rfl same
  | boolean value =>
      cases value with
      | false => exact ⟨'f', ['a', 'l', 's', 'e'], by decide, rfl⟩
      | true => exact ⟨'t', ['r', 'u', 'e'], by decide, rfl⟩

def writeField (field : String × Scalar) : List Char :=
  field.1.toList ++ ([' ', '=', ' '] ++ (field.2.write ++ ['\n']))

theorem readLine?_field {field : String × Scalar} (bare : IsBareName field.1)
    (held : field.2.value.IsHeld) (reading : Reading) (rest : List Char) :
    reading.readLine? (writeField field ++ rest) =
      (reading.pair? [field.1] field.2.value).map fun next => (next, rest) := by
  obtain ⟨first, more, text, bareLead⟩ := bare.exists_lead
  have lead := bare_apart bareLead
  obtain ⟨mark, others, written, visible⟩ := exists_write_lead field.2
  have key : key? depthLimit (writeField field ++ rest) =
      some ([field.1], '=' :: ' ' :: (field.2.write ++ '\n' :: rest)) := by
    have behind : writeField field ++ rest =
        field.1.toList ++ (' ' :: '=' :: ' ' :: (field.2.write ++ '\n' :: rest)) := by
      simp [writeField]
    rw [behind]
    apply key?_bare bare rfl (by decide)
    intro char tail same
    rw [← (List.cons.inj same).1]
    decide
  have value : readValue? depthLimit (skipSpace (' ' :: (field.2.write ++ '\n' :: rest))) =
      some (field.2.value, '\n' :: rest) := by
    have start : skipSpace (' ' :: (field.2.write ++ '\n' :: rest)) =
        field.2.write ++ '\n' :: rest := by
      rw [written, List.cons_append]
      exact skipSpace_visible visible _
    rw [start]
    exact readValue?_write held depthLimit rest
  have pair : readPair? (readValue? depthLimit) (writeField field ++ rest) =
      some (([field.1], field.2.value), '\n' :: rest) := by
    rw [readPair?, key]
    simp only [Option.bind_eq_bind, Option.bind_some, literal?, if_true, value]
    rfl
  have start : skipSpace (writeField field ++ rest) = writeField field ++ rest := by
    rw [writeField, text, List.cons_append, List.cons_append]
    exact skipSpace_visible lead.1 _
  have line : ∃ others, writeField field ++ rest = first :: others :=
    ⟨_, by rw [writeField, text, List.cons_append, List.cons_append]⟩
  obtain ⟨others, line⟩ := line
  rw [line] at pair start ⊢
  rw [Reading.readLine?, start]
  split
  case h_1 same => exact absurd (List.cons.inj same).1 lead.2.2.2.1
  case h_2 same => exact absurd (List.cons.inj same).1 lead.2.2.2.1
  case h_3 char tail _ _ same =>
    obtain ⟨rfl, rfl⟩ := List.cons.inj same
    have content : ¬ (first = '#' ∨ first = '\n' ∨ first = '\r') :=
      not_or.mpr ⟨lead.2.2.2.2.1, not_or.mpr lead.2.2.2.2.2⟩
    rw [if_neg content, pair]
    have ended : endLine? ('\n' :: rest) = some rest := rfl
    simp only [Option.bind_eq_bind, Option.bind_some, ended]
    cases reading.pair? [field.1] field.2.value <;> rfl
  case h_4 same => cases same

theorem readLine?_header {name : String} (bare : IsBareName name) (reading : Reading)
    (rest : List Char) :
    reading.readLine? ('[' :: (name.toList ++ (']' :: '\n' :: rest))) =
      (reading.header? false [name]).map fun next => (next, rest) := by
  obtain ⟨first, more, text, bareLead⟩ := bare.exists_lead
  have lead := bare_apart bareLead
  have key : key? depthLimit (name.toList ++ (']' :: '\n' :: rest)) =
      some ([name], ']' :: '\n' :: rest) := by
    apply key?_bare bare rfl (by decide)
    intro char tail same
    rw [← (List.cons.inj same).1]
    decide
  have ended : endLine? ('\n' :: rest) = some rest := rfl
  have header : reading.readHeader? false (name.toList ++ (']' :: '\n' :: rest)) =
      (reading.header? false [name]).map fun next => (next, rest) := by
    rw [Reading.readHeader?, key]
    simp only [Option.bind_eq_bind, Option.bind_some, literal?, if_true, ended, Bool.false_eq_true,
      if_false]
    cases reading.header? false [name] <;> rfl
  have start : skipSpace ('[' :: (name.toList ++ (']' :: '\n' :: rest))) =
      '[' :: (name.toList ++ (']' :: '\n' :: rest)) := skipSpace_visible rfl _
  rw [Reading.readLine?, start, text, List.cons_append]
  rw [text, List.cons_append] at header
  split
  case h_1 same => exact absurd (List.cons.inj (List.cons.inj same).2).1 lead.2.2.2.1
  case h_2 same =>
    rw [← (List.cons.inj same).2]
    exact header
  case h_3 opened same => exact absurd (List.cons.inj same).1.symm opened
  case h_4 same => cases same

theorem readLine?_empty (reading : Reading) (rest : List Char) :
    reading.readLine? ('\n' :: rest) = some (reading, rest) := rfl

theorem readLine?_comment {comment : List Char} (plain : ∀ char ∈ comment, isPlain char = true)
    (reading : Reading) (rest : List Char) :
    reading.readLine? ('#' :: (comment ++ '\n' :: rest)) = some (reading, rest) := by
  have skipped : (comment ++ '\n' :: rest).dropWhile isPlain = '\n' :: rest := by
    rw [List.dropWhile_append_of_pos plain, List.dropWhile_cons_of_neg]
    decide
  have ended : endLine? ('#' :: (comment ++ '\n' :: rest)) = some rest := by
    rw [endLine?, skipSpace_visible rfl, skipComment, skipped]
    rfl
  rw [Reading.readLine?, skipSpace_visible rfl]
  change (endLine? ('#' :: (comment ++ '\n' :: rest))).map (fun rest => (reading, rest)) = _
  rw [ended, Option.map_some]

end Lines

end SealedContent.Toml
