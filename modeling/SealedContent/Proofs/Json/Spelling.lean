import SealedContent.Json.Record
import SealedContent.Proofs.Json.Literal

/-!
The many spellings of one JSON text. A character of a string stands for itself, or is escaped by a
letter or by number, and white space may surround every part of an object. Whatever the spelling, the
reader finds the same strings under the same keys.
-/

namespace SealedContent.Json.Written

/-- The number that four hexadecimal digits of either case write. -/
def codeOf? (first second third fourth : Char) : Option Nat :=
  match Bytes.hexValue? first, Bytes.hexValue? second, Bytes.hexValue? third,
      Bytes.hexValue? fourth with
  | some a, some b, some c, some d => some (((a * 16 + b) * 16 + c) * 16 + d)
  | _, _, _, _ => none

/-- The spellings of a character inside a string. By number, a character beyond 16 bits takes two
surrogates. -/
inductive SpellsChar (char : Char) : List Char → Prop
  | plain (printable : 0x20 ≤ char.toNat) (notQuote : char ≠ '"') (notBackslash : char ≠ '\\') :
      SpellsChar char [char]
  | letter {mark : Char} (escape : simpleEscape? mark = some char) : SpellsChar char ['\\', mark]
  | number {a b c d : Char} (code : codeOf? a b c d = some char.toNat) :
      SpellsChar char ['\\', 'u', a, b, c, d]
  | surrogates {a b c d e f g h : Char} {high low : Nat} (first : codeOf? a b c d = some high)
      (second : codeOf? e f g h = some low) (leads : 0xD800 ≤ high ∧ high < 0xDC00)
      (trails : 0xDC00 ≤ low ∧ low < 0xE000)
      (joined : char.toNat = 0x10000 + (high - 0xD800) * 0x400 + (low - 0xDC00)) :
      SpellsChar char ['\\', 'u', a, b, c, d, '\\', 'u', e, f, g, h]

/-- What may stand between the quotes of a string that means a text. -/
inductive SpellsChars : List Char → List Char → Prop
  | nil : SpellsChars [] []
  | cons {char : Char} {text first rest : List Char} (head : SpellsChar char first)
      (tail : SpellsChars text rest) : SpellsChars (char :: text) (first ++ rest)

/-- A text with quotes round it. -/
inductive SpellsText (text : String) : List Char → Prop
  | quoted {inner : List Char} (chars : SpellsChars text.toList inner) :
      SpellsText text ('"' :: (inner ++ ['"']))

def Blank (chars : List Char) : Prop :=
  ∀ char ∈ chars, isSpace char = true

/-- A field of an object, with white space round its parts. -/
inductive SpellsField (key : String) (value : List Char) : List Char → Prop
  | field {before name between gap after : List Char} (blankBefore : Blank before)
      (blankBetween : Blank between) (blankGap : Blank gap) (blankAfter : Blank after)
      (spelled : SpellsText key name) :
      SpellsField key value (before ++ (name ++ (between ++ ':' :: (gap ++ (value ++ after)))))

section Strings

theorem readUnits?_code {a b c d : Char} {code : Nat} (read : codeOf? a b c d = some code)
    (done : List Unit) (rest : List Char) :
    readUnits? done ('\\' :: 'u' :: a :: b :: c :: d :: rest) =
      readUnits? (unitOfCode code :: done) rest := by
  rw [codeOf?] at read
  rw [readUnits?]
  split at read <;> cases read
  simp only [*]

theorem unitOfCode_toNat (char : Char) : unitOfCode char.toNat = .inl char := by
  have valid : char.toNat < 0xD800 ∨ 0xDFFF < char.toNat ∧ char.toNat < 0x110000 := char.valid
  rw [unitOfCode, if_neg (by omega), Char.ofNat_toNat]

/-- A spelled character is read as units that join to it. -/
theorem SpellsChar.exists_units {char : Char} {spelled : List Char}
    (spells : SpellsChar char spelled) : ∃ units : List Unit,
      (∀ done rest, readUnits? done (spelled ++ rest) = readUnits? (units.reverse ++ done) rest) ∧
        ∀ done more, joinUnits? done (units ++ more) = joinUnits? (char :: done) more := by
  cases spells with
  | plain printable notQuote notBackslash =>
      refine ⟨[.inl char], fun done rest => ?_, fun done more => ?_⟩
      · rw [List.singleton_append, readUnits?.eq_def]
        split <;> simp_all
      · rw [List.singleton_append, joinUnits?]
  | @letter mark escape =>
      refine ⟨[.inl char], fun done rest => ?_, fun done more => ?_⟩
      · have notNumber : mark ≠ 'u' := by
          rintro rfl
          cases escape
        rw [List.cons_append, List.singleton_append, readUnits?]
        · simp only [escape]
          rfl
        · exact fun _ _ _ _ _ same => absurd same notNumber
      · rw [List.singleton_append, joinUnits?]
  | number code =>
      refine ⟨[.inl char], fun done rest => ?_, fun done more => ?_⟩
      · have read := readUnits?_code code done rest
        rw [unitOfCode_toNat] at read
        exact read
      · rw [List.singleton_append, joinUnits?]
  | @surrogates a b c d e f g h high low first second leads trails joined =>
      have highUnit : unitOfCode high = .inr high := if_pos (by omega)
      have lowUnit : unitOfCode low = .inr low := if_pos (by omega)
      refine ⟨[.inr high, .inr low], fun done rest => ?_, fun done more => ?_⟩
      · have read := readUnits?_code first done ('\\' :: 'u' :: e :: f :: g :: h :: rest)
        rw [readUnits?_code second, highUnit, lowUnit] at read
        exact read
      · have same : Char.ofNat (0x10000 + (high - 0xD800) * 0x400 + (low - 0xDC00)) = char := by
          rw [← joined, Char.ofNat_toNat]
        rw [List.cons_append, List.cons_append, List.nil_append, joinUnits?,
          if_pos ⟨leads.2, trails.1⟩, same]

theorem SpellsChars.exists_units {text spelled : List Char} (spells : SpellsChars text spelled) :
    ∃ units : List Unit,
      (∀ done rest, readUnits? done (spelled ++ '"' :: rest) =
        some ((units.reverse ++ done).reverse, rest)) ∧
        ∀ done, joinUnits? done units = some (done.reverse ++ text) := by
  induction spells with
  | nil => exact ⟨[], fun done rest => by simp [readUnits?], fun done => by simp [joinUnits?]⟩
  | @cons char text first rest head tail induction =>
      obtain ⟨units, read, join⟩ := head.exists_units
      obtain ⟨later, readLater, joinLater⟩ := induction
      refine ⟨units ++ later, fun done after => ?_, fun done => ?_⟩
      · have reversed : (units ++ later).reverse = later.reverse ++ units.reverse :=
          List.reverse_append
        rw [List.append_assoc, read, readLater, reversed, List.append_assoc]
      · rw [join, joinLater, List.reverse_cons, List.append_assoc, List.singleton_append]

theorem SpellsChars.readString? {text : String} {spelled : List Char}
    (spells : SpellsChars text.toList spelled) (rest : List Char) :
    Written.readString? (spelled ++ '"' :: rest) = some (some text, rest) := by
  obtain ⟨units, read, join⟩ := spells.exists_units
  simp [Written.readString?, read, join]

/-- A character that the writer escapes is spelled by what the writer puts for it. -/
theorem spellsChar_escape (char : Char) : SpellsChar char (Value.escape char) := by
  unfold Value.escape
  split
  case h_8 notQuote notBackslash _ _ _ _ _ =>
    split
    · rename_i control
      have high := Bytes.hexValue?_hexDigit (char.toNat / 16) (by omega)
      have low := Bytes.hexValue?_hexDigit (char.toNat % 16) (by omega)
      have zero : Bytes.hexValue? '0' = some 0 := rfl
      apply SpellsChar.number
      simp only [codeOf?, zero, high, low, Option.some.injEq]
      omega
    · exact .plain (by omega) notQuote notBackslash
  all_goals exact .letter rfl

theorem spellsChars_escape (text : List Char) : SpellsChars text (text.flatMap Value.escape) := by
  induction text with
  | nil => exact .nil
  | cons char text induction => exact .cons (spellsChar_escape char) induction

theorem spellsText_writeString (text : String) : SpellsText text (Value.writeString text) :=
  .quoted (spellsChars_escape text.toList)

end Strings

section Objects

theorem skipSpace_append {blank : List Char} (spaces : Blank blank) (rest : List Char) :
    skipSpace (blank ++ rest) = skipSpace rest :=
  List.dropWhile_append_of_pos spaces

theorem skipSpace_blank {blank : List Char} (spaces : Blank blank) : skipSpace blank = [] :=
  List.dropWhile_eq_nil_iff.mpr spaces

/-- A text is read as one value, whatever follows it, in a number of steps. -/
structure ReadsAs (steps : Nat) (text : List Char) (written : Written) : Prop where
  lead : ∃ char more, text = char :: more ∧ isSpace char = false
  reads : ∀ fuel rest, steps ≤ fuel → readValue? fuel (text ++ rest) = some (written, rest)

variable {steps : Nat} {text : List Char} {written : Written}

theorem ReadsAs.skipSpace_eq (reads : ReadsAs steps text written) (rest : List Char) :
    skipSpace (text ++ rest) = text ++ rest := by
  obtain ⟨char, more, rfl, visible⟩ := reads.lead
  exact skipSpace_cons visible _

theorem ReadsAs.read? (reads : ReadsAs steps text written) (few : steps ≤ 2 * text.length)
    {before after : List Char} (blankBefore : Blank before) (blankAfter : Blank after) :
    Written.read? (String.ofList (before ++ (text ++ after))) = some written := by
  have enough : steps ≤ 2 * (text ++ after).length + 2 := by
    rw [List.length_append]
    omega
  rw [Written.read?, String.toList_ofList, skipSpace_append blankBefore, reads.skipSpace_eq]
  rw [reads.reads _ after enough]
  simp [skipSpace_blank blankAfter]

theorem SpellsText.readsAs {meant : String} (spells : SpellsText meant text) :
    ReadsAs 1 text (.string (some meant)) := by
  obtain ⟨chars⟩ := spells
  refine ⟨⟨'"', _, rfl, rfl⟩, fun fuel rest enough => ?_⟩
  obtain ⟨fuel, rfl⟩ := Nat.exists_eq_add_of_le' enough
  rw [List.cons_append, List.append_assoc, List.singleton_append, readValue?, chars.readString?]
  rfl

variable {key : String} {value field : List Char}

theorem SpellsField.length_le (spells : SpellsField key value field) :
    value.length + 3 ≤ field.length := by
  obtain ⟨-, -, -, -, ⟨-⟩⟩ := spells
  simp only [List.length_append, List.length_cons, List.length_nil]
  omega

/-- What the reader finds in a field, one part after the other, up to the character after it. -/
theorem SpellsField.exists_parts (spells : SpellsField key value field)
    (reads : ReadsAs steps value written) {fuel : Nat} (enough : steps ≤ fuel) (rest : List Char) :
    ∃ input afterKey afterColon afterValue, skipSpace (field ++ rest) = '"' :: input ∧
      readString? input = some (some key, afterKey) ∧ skipSpace afterKey = ':' :: afterColon ∧
      readValue? fuel (skipSpace afterColon) = some (written, afterValue) ∧
      skipSpace afterValue = skipSpace rest := by
  obtain @⟨before, name, between, gap, after, blankBefore, blankBetween, blankGap, blankAfter,
    @⟨inner, chars⟩⟩ := spells
  let afterValue := after ++ rest
  let afterColon := gap ++ (value ++ afterValue)
  let afterKey := between ++ ':' :: afterColon
  simp only [List.append_assoc, List.cons_append, List.nil_append]
  refine ⟨inner ++ '"' :: afterKey, afterKey, afterColon, afterValue, ?_, chars.readString? _, ?_, ?_,
    skipSpace_append blankAfter rest⟩
  · rw [skipSpace_append blankBefore]
    exact skipSpace_cons rfl _
  · exact (skipSpace_append blankBetween _).trans (skipSpace_cons rfl _)
  · rw [skipSpace_append blankGap, reads.skipSpace_eq]
    exact reads.reads fuel _ enough

theorem SpellsField.readFields?_last (spells : SpellsField key value field)
    (reads : ReadsAs steps value written) {fuel : Nat} (enough : steps ≤ fuel)
    (done : List (Option String × Written)) (rest : List Char) :
    readFields? (fuel + 1) done (skipSpace (field ++ '\x7d' :: rest)) =
      some (.object ((some key, written) :: done).reverse, rest) := by
  obtain ⟨_, _, _, _, found, quoted, colon, read, ends⟩ :=
    spells.exists_parts reads enough ('\x7d' :: rest)
  rw [found]
  exact Written.readFields?_last quoted colon read (ends.trans (skipSpace_cons rfl _)) done

theorem SpellsField.readFields?_next (spells : SpellsField key value field)
    (reads : ReadsAs steps value written) {fuel : Nat} (enough : steps ≤ fuel)
    (done : List (Option String × Written)) (rest : List Char) :
    readFields? (fuel + 1) done (skipSpace (field ++ ',' :: rest)) =
      readFields? fuel ((some key, written) :: done) (skipSpace rest) := by
  obtain ⟨_, _, _, _, found, quoted, colon, read, ends⟩ :=
    spells.exists_parts reads enough (',' :: rest)
  rw [found]
  exact Written.readFields?_next quoted colon read (ends.trans (skipSpace_cons rfl _)) done

theorem readValue?_object (fuel : Nat) (spells : SpellsField key value field) (rest : List Char) :
    readValue? (fuel + 1) ('\x7b' :: (field ++ rest)) =
      readFields? fuel [] (skipSpace (field ++ rest)) := by
  obtain ⟨blankBefore, -, -, -, ⟨chars⟩⟩ := spells
  have quote : isSpace '"' = false := rfl
  rw [readValue?]
  simp only [List.append_assoc, List.cons_append, skipSpace_append blankBefore,
    skipSpace_cons quote]
  rfl

theorem ReadsAs.object_one (spells : SpellsField key value field)
    (reads : ReadsAs steps value written) :
    ReadsAs (steps + 2) ('\x7b' :: (field ++ ['\x7d'])) (.object [(some key, written)]) := by
  refine ⟨⟨'\x7b', _, rfl, rfl⟩, fun fuel rest enough => ?_⟩
  obtain ⟨fuel, rfl⟩ := Nat.exists_eq_add_of_le' enough
  have few : steps ≤ fuel + steps := Nat.le_add_left _ _
  rw [List.cons_append, List.append_assoc, List.singleton_append, ← Nat.add_assoc,
    readValue?_object _ spells, spells.readFields?_last reads few]
  rfl

theorem ReadsAs.object_two {next : String} {nextSteps : Nat} {nextValue nextField : List Char}
    {nextWritten : Written} (spells : SpellsField key value field)
    (reads : ReadsAs steps value written) (nextSpells : SpellsField next nextValue nextField)
    (nextReads : ReadsAs nextSteps nextValue nextWritten) :
    ReadsAs (steps + nextSteps + 3) ('\x7b' :: (field ++ ',' :: (nextField ++ ['\x7d'])))
      (.object [(some key, written), (some next, nextWritten)]) := by
  refine ⟨⟨'\x7b', _, rfl, rfl⟩, fun fuel rest enough => ?_⟩
  obtain ⟨fuel, rfl⟩ := Nat.exists_eq_add_of_le' enough
  have few : steps ≤ fuel + (steps + nextSteps) + 1 := by omega
  have fewer : nextSteps ≤ fuel + (steps + nextSteps) := by omega
  have shape : ('\x7b' :: (field ++ ',' :: (nextField ++ ['\x7d']))) ++ rest =
      '\x7b' :: (field ++ ',' :: (nextField ++ '\x7d' :: rest)) := by simp
  have count : fuel + (steps + nextSteps + 3) = fuel + (steps + nextSteps) + 1 + 1 + 1 := by omega
  rw [shape, count, readValue?_object _ spells, spells.readFields?_next reads few]
  exact nextSpells.readFields?_last nextReads fewer _ rest

end Objects

end SealedContent.Json.Written
