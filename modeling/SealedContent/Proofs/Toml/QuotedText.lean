import Mathlib.Data.List.Basic
import SealedContent.Proofs.Bytes.Hex
import SealedContent.Toml.Lexeme
import SealedContent.Toml.Writer

/-!
Texts of a TOML document read back, whichever of the five forms they are written in. Escapes are read one
by one. In the forms over several lines a quote of the text may stand right before the closing ones, and
what tells them apart is that the text has no three quotes in a row.
-/

namespace SealedContent.Toml

open Lexeme

section Escapes

theorem hexValue?_upperDigit :
    ∀ value < 16, Bytes.hexValue? (Bytes.hexDigit value).toUpper = some value := by
  decide

theorem hexCode?_control {char : Char} (control : char.toNat < 0x80) :
    hexCode? ['0', '0', (Bytes.hexDigit (char.toNat / 16)).toUpper,
      (Bytes.hexDigit (char.toNat % 16)).toUpper] = some char := by
  have zero : Bytes.hexValue? '0' = some 0 := rfl
  have high := hexValue?_upperDigit (char.toNat / 16) (by omega)
  have low := hexValue?_upperDigit (char.toNat % 16) (by omega)
  have code : ((0 * 16 + 0) * 16 + char.toNat / 16) * 16 + char.toNat % 16 = char.toNat := by omega
  have read : ['0', '0', (Bytes.hexDigit (char.toNat / 16)).toUpper,
      (Bytes.hexDigit (char.toNat % 16)).toUpper].mapM Bytes.hexValue? =
        some [0, 0, char.toNat / 16, char.toNat % 16] := by
    simp [zero, high, low]
  rw [hexCode?, read]
  simp only [Option.bind_eq_bind, Option.bind_some, List.foldl_cons, List.foldl_nil, Nat.zero_mul,
    Nat.zero_add] at code ⊢
  rw [code, if_pos (.inl (by omega)), Char.ofNat_toNat]

/-- How a reader takes what is written for a character: for itself, or by an escape that is no
continuation of a line. -/
inductive Spells (escapes : Bool) (char : Char) : List Char → Prop
  | plain (readable : isPlain char = true) (unescaped : escapes = true → char ≠ '\\') :
      Spells escapes char [char]
  | newline (same : char = '\n') : Spells escapes char ['\n']
  | escaped (active : escapes = true) (code : List Char)
      (noBreak : ∀ rest, continuation? (code ++ rest) = none)
      (read : ∀ rest, escape? (code ++ rest) = some (char, rest)) :
      Spells escapes char ('\\' :: code)

theorem Spells.ne_nil {escapes : Bool} {char : Char} {written : List Char}
    (spelled : Spells escapes char written) : written ≠ [] := by
  cases spelled <;> exact List.cons_ne_nil _ _

theorem Spells.lead {escapes : Bool} {char quote : Char} {written : List Char}
    (spelled : Spells escapes char written) (apart : char ≠ quote)
    (proper : quote ≠ '\\' ∧ quote ≠ '\n') {rest after : List Char} {first : Char}
    (same : written ++ rest = first :: after) : first ≠ quote := by
  cases spelled with
  | plain => exact (List.cons.inj same).1 ▸ apart
  | newline => exact (List.cons.inj same).1 ▸ proper.2.symm
  | escaped => exact (List.cons.inj same).1 ▸ proper.1.symm

theorem isPlain_of_visible {char : Char} (visible : ¬ (char.toNat < 0x20 ∨ char.toNat = 0x7f)) :
    isPlain char = true := by
  rw [isPlain, decide_eq_true_eq]
  omega

/-- A letter after a backslash begins an escape. -/
theorem continuation?_letter {letter : Char} (visible : isSpace letter = false)
    (sameLine : letter ≠ '\n' ∧ letter ≠ '\r') (rest : List Char) :
    continuation? (letter :: rest) = none := by
  have kept : skipSpace (letter :: rest) = letter :: rest := by
    rw [skipSpace, List.dropWhile_cons_of_neg]
    rw [visible]
    exact Bool.false_ne_true
  have none : newline? (letter :: rest) = none := by
    unfold newline?
    split
    case h_1 same => exact absurd (List.cons.inj same).1 sameLine.1
    case h_2 same => exact absurd (List.cons.inj same).1 sameLine.2
    case h_3 => rfl
  rw [continuation?, kept, none]
  rfl

theorem spells_escapeChar (keepNewline : Bool) (char : Char) :
    Spells true char (escapeChar keepNewline char) := by
  unfold escapeChar
  split
  case h_1 => exact .escaped rfl ['b'] (continuation?_letter rfl (by decide)) fun _ => rfl
  case h_2 => exact .escaped rfl ['t'] (continuation?_letter rfl (by decide)) fun _ => rfl
  case h_3 =>
    split
    · exact .newline rfl
    · exact .escaped rfl ['n'] (continuation?_letter rfl (by decide)) fun _ => rfl
  case h_4 => exact .escaped rfl ['f'] (continuation?_letter rfl (by decide)) fun _ => rfl
  case h_5 => exact .escaped rfl ['r'] (continuation?_letter rfl (by decide)) fun _ => rfl
  case h_6 =>
    split
    · exact .plain rfl fun _ => by decide
    · exact .escaped rfl ['"'] (continuation?_letter rfl (by decide)) fun _ => rfl
  case h_7 => exact .escaped rfl ['\\'] (continuation?_letter rfl (by decide)) fun _ => rfl
  case h_8 notBackslash =>
    split
    case isTrue control =>
      refine .escaped rfl _ (fun _ => @continuation?_letter 'u' rfl (by decide) _) fun rest => ?_
      have read := @hexCode?_control char (by omega)
      simp only [List.cons_append, List.nil_append, escape?]
      simp [read]
    case isFalse visible => exact .plain (isPlain_of_visible visible) fun _ => notBackslash

end Escapes

section OneLine

theorem basicBody?_escapeChar (fuel : Nat) (done : List Char) (char : Char) (rest : List Char) :
    basicBody? (fuel + 1) done (escapeChar false char ++ rest) =
      basicBody? fuel (char :: done) rest := by
  by_cases quote : char = '"'
  · rw [quote]
    rfl
  by_cases newline : char = '\n'
  · rw [newline]
    rfl
  have spelled := spells_escapeChar false char
  generalize escapeChar false char = written at spelled
  cases spelled with
  | plain readable unescaped =>
      rw [List.singleton_append, basicBody?, if_pos readable]
      · exact fun same => quote same
      · exact fun same => unescaped rfl same
  | newline same => exact absurd same newline
  | escaped active code noBreak read =>
      rw [List.cons_append, basicBody?]
      simp only [read rest]

theorem basicBody?_text {chars : List Char} {fuel : Nat}
    (enough : (chars.flatMap (escapeChar false)).length < fuel) (done rest : List Char) :
    basicBody? fuel done (chars.flatMap (escapeChar false) ++ '"' :: rest) =
      some (String.ofList (done.reverse ++ chars), rest) := by
  induction chars generalizing fuel done with
  | nil =>
      obtain ⟨fuel, rfl⟩ := Nat.exists_eq_add_one.mpr enough
      rw [List.append_nil]
      rfl
  | cons char others induction =>
      have present := List.length_pos_of_ne_nil (spells_escapeChar false char).ne_nil
      rw [List.flatMap_cons, List.length_append] at enough
      obtain ⟨fuel, rfl⟩ : ∃ less, fuel = less + 1 := Nat.exists_eq_add_one.mpr (by omega)
      have later := induction (by omega : _ < fuel) (char :: done)
      rw [List.flatMap_cons, List.append_assoc, basicBody?_escapeChar, later, List.reverse_cons,
        List.append_assoc, List.singleton_append]

theorem literalBody?_text {chars : List Char}
    (readable : ∀ char ∈ chars, isPlain char = true ∧ char ≠ '\'') (done rest : List Char) :
    literalBody? done (chars ++ '\'' :: rest) =
      some (String.ofList (done.reverse ++ chars), rest) := by
  induction chars generalizing done with
  | nil =>
      rw [List.append_nil]
      rfl
  | cons char others induction =>
      rw [List.forall_mem_cons] at readable
      rw [List.cons_append, literalBody?, if_pos readable.1.1, induction readable.2,
        List.reverse_cons, List.append_assoc, List.singleton_append]
      exact readable.1.2

end OneLine

section Runs

variable {char : Char}

def runStep (char : Char) (state : Nat × Nat) (next : Char) : Nat × Nat :=
  let run := if next = char then state.2 + 1 else 0
  (max state.1 run, run)

theorem longestRun_eq (char : Char) (chars : List Char) :
    longestRun char chars = (chars.foldl (runStep char) (0, 0)).1 := rfl

/-- What was counted before does not shorten what is counted later. -/
theorem foldl_runStep_mono (chars : List Char) {less more : Nat × Nat}
    (below : less.1 ≤ more.1 ∧ less.2 ≤ more.2) :
    (chars.foldl (runStep char) less).1 ≤ (chars.foldl (runStep char) more).1 := by
  induction chars generalizing less more with
  | nil => exact below.1
  | cons next rest induction =>
      rw [List.foldl_cons, List.foldl_cons]
      apply induction
      simp only [runStep]
      split <;> omega

theorem le_foldl_runStep (chars : List Char) (state : Nat × Nat) :
    state.1 ≤ (chars.foldl (runStep char) state).1 := by
  induction chars generalizing state with
  | nil => exact Nat.le_refl _
  | cons next rest induction =>
      have longer : state.1 ≤ (runStep char state next).1 := Nat.le_max_left _ _
      exact Nat.le_trans longer (induction _)

theorem longestRun_append_le (front rest : List Char) :
    longestRun char rest ≤ longestRun char (front ++ rest) := by
  rw [longestRun_eq, longestRun_eq, List.foldl_append]
  exact foldl_runStep_mono rest ⟨Nat.zero_le _, Nat.zero_le _⟩

theorem le_longestRun_replicate (count : Nat) (rest : List Char) :
    count ≤ longestRun char (List.replicate count char ++ rest) := by
  have counted : ∀ before, ((List.replicate count char).foldl (runStep char) (before, before)) =
      (before + count, before + count) := by
    induction count with
    | zero => exact fun _ => rfl
    | succ count induction =>
        intro before
        have step : runStep char (before, before) char = (before + 1, before + 1) := by
          simp [runStep]
        rw [List.replicate_succ, List.foldl_cons, step, induction, Nat.add_right_comm,
          Nat.add_assoc]
  rw [longestRun_eq, List.foldl_append, counted 0, Nat.zero_add]
  exact le_foldl_runStep rest (count, count)

theorem ne_of_longestRun_zero {chars : List Char} (never : longestRun char chars = 0) :
    ∀ other ∈ chars, other ≠ char := by
  rintro other member rfl
  obtain ⟨front, rest, rfl⟩ := List.append_of_mem member
  have once : 1 ≤ longestRun other (other :: rest) := le_longestRun_replicate 1 rest
  have whole := @longestRun_append_le other front (other :: rest)
  omega

end Runs

section SeveralLines

variable {quote : Char} {escapes : Bool}

theorem newline?_plain {char : Char} (readable : isPlain char = true) (rest : List Char) :
    newline? (char :: rest) = none := by
  unfold newline?
  split
  case h_1 same =>
    rw [(List.cons.inj same).1] at readable
    cases readable
  case h_2 same =>
    rw [(List.cons.inj same).1] at readable
    cases readable
  case h_3 => rfl

/-- A character that is no quote is one step of the reader. -/
theorem linesBody?_spelled {char : Char} {written : List Char}
    (spelled : Spells escapes char written) (apart : char ≠ quote)
    (proper : quote ≠ '\\') (fuel : Nat) (done rest : List Char) :
    linesBody? quote escapes (fuel + 1) done (written ++ rest) =
      linesBody? quote escapes fuel (char :: done) rest := by
  cases spelled with
  | plain readable unescaped =>
      have literal : ¬ (char = '\\' ∧ escapes = true) := fun both => unescaped both.2 both.1
      rw [List.singleton_append, linesBody?]
      simp only [if_neg apart, if_neg literal, newline?_plain readable, if_pos readable]
  | newline same =>
      subst same
      rw [List.singleton_append, linesBody?]
      have literal : ¬ ('\n' = '\\' ∧ escapes = true) := fun both => absurd both.1 (by decide)
      simp only [if_neg apart, if_neg literal]
      rfl
  | escaped active code noBreak read =>
      rw [List.cons_append, linesBody?]
      simp only [if_neg proper.symm, active, noBreak rest, read rest]
      rfl

theorem takeWhile_run (count : Nat) {rest : List Char}
    (ends : ∀ char more, rest = char :: more → char ≠ quote) :
    (List.replicate count quote ++ rest).takeWhile (fun next => decide (next = quote)) =
      List.replicate count quote := by
  have passed : ∀ char ∈ List.replicate count quote, decide (char = quote) = true := fun char member =>
    decide_eq_true (List.eq_of_mem_replicate member)
  rw [List.takeWhile_append_of_pos passed]
  cases rest with
  | nil => rw [List.takeWhile_nil, List.append_nil]
  | cons char more =>
      rw [List.takeWhile_cons_of_neg, List.append_nil]
      exact fun same => ends char more rfl (of_decide_eq_true same)

/-- A run of quotes that something else follows. -/
theorem linesBody?_run {count : Nat} {rest : List Char}
    (ends : ∀ char more, rest = char :: more → char ≠ quote) (fuel : Nat) (done : List Char) :
    linesBody? quote escapes (fuel + 1) done (List.replicate (count + 1) quote ++ rest) =
      match quoteRun (count + 1) with
      | .text count =>
          if rest.isEmpty then none
          else linesBody? quote escapes fuel (List.replicate count quote ++ done) rest
      | .close count => some (String.ofList (List.replicate count quote ++ done).reverse, rest)
      | .tooLong => none := by
  have run := takeWhile_run (count + 1) ends
  rw [List.replicate_succ, List.cons_append] at run ⊢
  rw [linesBody?]
  simp only [if_true, run, List.length_replicate, List.length_cons]
  rewrite [List.drop_succ_cons, List.drop_left' List.length_replicate]
  rfl

theorem exists_run (quote : Char) (chars : List Char) : ∃ count tail,
    chars = List.replicate count quote ++ tail ∧ ∀ char more, tail = char :: more → char ≠ quote := by
  induction chars with
  | nil => exact ⟨0, [], rfl, nofun⟩
  | cons char rest induction =>
      by_cases same : char = quote
      · obtain ⟨count, tail, rfl, ends⟩ := induction
        exact ⟨count + 1, tail, by rw [same]; rfl, ends⟩
      · refine ⟨0, char :: rest, rfl, ?_⟩
        intro first more whole
        rw [← (List.cons.inj whole).1]
        exact same

theorem quoteRun_text {count : Nat} (few : count < 3) : quoteRun count = .text count := by
  rw [quoteRun, if_pos few]

theorem quoteRun_close {count : Nat} (few : count < 3) : quoteRun (count + 3) = .close count := by
  rw [quoteRun, if_neg (by omega), if_pos (by omega), Nat.add_sub_cancel]

/-- A text without three quotes in a row is read up to the three quotes that close it. -/
theorem linesBody?_text {write : Char → List Char} {chars rest : List Char}
    (proper : quote ≠ '\\' ∧ quote ≠ '\n') (self : write quote = [quote])
    (each : ∀ char ∈ chars, Spells escapes char (write char)) (short : longestRun quote chars < 3)
    (closed : ∀ char more, rest = char :: more → char ≠ quote) {fuel : Nat}
    (enough : (chars.flatMap write).length < fuel) (done : List Char) :
    linesBody? quote escapes fuel done
      (chars.flatMap write ++ (List.replicate 3 quote ++ rest)) =
        some (String.ofList (done.reverse ++ chars), rest) := by
  have repeated : ∀ count, (List.replicate count quote).flatMap write =
      List.replicate count quote := by
    intro count
    induction count with
    | zero => rfl
    | succ count induction =>
        rw [List.replicate_succ, List.flatMap_cons, self, induction, List.singleton_append]
  induction fuel generalizing chars done with
  | zero => exact absurd enough (Nat.not_lt_zero _)
  | succ fuel induction =>
      obtain ⟨count, tail, rfl, ends⟩ := exists_run quote chars
      have few : count < 3 := Nat.lt_of_le_of_lt (le_longestRun_replicate count tail) short
      rw [List.flatMap_append, repeated, List.append_assoc]
      cases tail with
      | nil =>
          -- The quotes at the end of the text stand together with those that close it.
          rw [List.flatMap_nil, List.nil_append, ← List.append_assoc, List.replicate_append_replicate,
            List.append_nil]
          have close : quoteRun (count + 2 + 1) = .close count := quoteRun_close few
          change linesBody? quote escapes (fuel + 1) done
            (List.replicate (count + 2 + 1) quote ++ rest) = _
          rw [linesBody?_run closed, close]
          simp
      | cons first more =>
          have apart : first ≠ quote := ends first more rfl
          have spelled : Spells escapes first (write first) := each first (by simp)
          have beyond : ∀ char ∈ first :: more, Spells escapes char (write char) := fun char member =>
            each char (List.mem_append_right _ member)
          have later : longestRun quote (first :: more) < 3 :=
            Nat.lt_of_le_of_lt (longestRun_append_le _ _) short
          rw [List.flatMap_append, repeated, List.length_append, List.length_replicate] at enough
          cases count with
          | zero =>
              have present := List.length_pos_of_ne_nil spelled.ne_nil
              rw [List.flatMap_cons, List.length_append] at enough
              have last : longestRun quote more < 3 :=
                Nat.lt_of_le_of_lt (longestRun_append_le [first] more) later
              rw [List.replicate_zero, List.nil_append, List.flatMap_cons, List.append_assoc,
                linesBody?_spelled spelled apart proper.1,
                induction (List.forall_mem_cons.mp beyond).2 last (by omega), List.reverse_cons,
                List.append_assoc, List.singleton_append, List.nil_append]
          | succ count =>
              have lead : ∀ char after, (first :: more).flatMap write ++
                  (List.replicate 3 quote ++ rest) = char :: after → char ≠ quote := by
                intro char after same
                rw [List.flatMap_cons, List.append_assoc] at same
                exact spelled.lead apart proper same
              have filled : ((first :: more).flatMap write ++
                  (List.replicate 3 quote ++ rest)).isEmpty = false := by simp
              rw [linesBody?_run lead, quoteRun_text few]
              simp only [filled, Bool.false_eq_true, if_false]
              rw [induction beyond later (by omega), List.reverse_append, List.reverse_replicate,
                List.append_assoc]

end SeveralLines

section Forms

theorem spells_of_visible {char : Char} (visible : isControl char = false) :
    Spells false char [char] := by
  rw [isControl, decide_eq_false_iff_not] at visible
  by_cases newline : char = '\n'
  · rw [newline]
    exact .newline rfl
  · refine .plain ?_ nofun
    rw [isPlain, decide_eq_true_eq]
    by_cases tab : char = '\t'
    · exact .inl tab
    · refine .inr ⟨?_, fun delete => visible (.inr delete)⟩
      by_contra low
      exact visible (.inl ⟨by omega, tab, newline⟩)

theorem Spells.newline? {escapes : Bool} {char : Char} {written : List Char}
    (spelled : Spells escapes char written) (sameLine : char ≠ '\n') (rest : List Char) :
    Lexeme.newline? (written ++ rest) = none := by
  cases spelled with
  | plain readable => exact newline?_plain readable rest
  | newline same => exact absurd same sameLine
  | escaped => rfl

/-- The line end that is written before a text of several lines is the one that is not part of it. -/
theorem lines?_text {quote : Char} {escapes : Bool} {write : Char → List Char}
    {chars rest : List Char} (proper : quote ≠ '\\' ∧ quote ≠ '\n' ∧ quote ≠ '\r')
    (self : write quote = [quote]) (each : ∀ char ∈ chars, Spells escapes char (write char))
    (short : longestRun quote chars < 3)
    (closed : ∀ char more, rest = char :: more → char ≠ quote) :
    lines? quote escapes ((if chars.contains '\n' then ['\n'] else []) ++
      (chars.flatMap write ++ (List.replicate 3 quote ++ rest))) =
        some (String.ofList chars, rest) := by
  let body := chars.flatMap write ++ (List.replicate 3 quote ++ rest)
  have read : linesBody? quote escapes (body.length + 1) [] body =
      some (String.ofList chars, rest) := by
    have enough : (chars.flatMap write).length < body.length + 1 := by
      rw [List.length_append]
      omega
    exact linesBody?_text ⟨proper.1, proper.2.1⟩ self each short closed enough []
  by_cases newline : chars.contains '\n' = true
  · rw [if_pos newline]
    exact read
  · have opened : Lexeme.newline? (chars.flatMap write ++ (List.replicate 3 quote ++ rest)) = none := by
      clear read
      cases chars with
      | nil =>
          rw [List.flatMap_nil, List.nil_append, List.replicate_succ, List.cons_append]
          unfold Lexeme.newline?
          split
          case h_1 same => exact absurd (List.cons.inj same).1 proper.2.1
          case h_2 same => exact absurd (List.cons.inj same).1 proper.2.2
          case h_3 => rfl
      | cons first more =>
          have other : first ≠ '\n' := by
            rintro rfl
            exact newline (by simp)
          rw [List.flatMap_cons, List.append_assoc]
          exact (each first List.mem_cons_self).newline? other _
    rw [if_neg newline, List.nil_append, lines?, opened]
    exact read

variable {rest : List Char}

theorem string?_basic (chars : List Char) (closed : ∀ char more, rest = char :: more → char ≠ '"') :
    string? ('"' :: (chars.flatMap (escapeChar false) ++ '"' :: rest)) =
      some (String.ofList chars, rest) := by
  have single : string? ('"' :: (chars.flatMap (escapeChar false) ++ '"' :: rest)) =
      oneLine? ('"' :: (chars.flatMap (escapeChar false) ++ '"' :: rest)) := by
    rw [string?]
    · intro more same
      have inner := (List.cons.inj same).2
      cases chars with
      | nil => exact closed '"' more (List.cons.inj inner).2 rfl
      | cons first others =>
          rw [List.flatMap_cons, List.append_assoc] at inner
          by_cases quote : first = '"'
          · rw [quote] at inner
            cases inner
          · exact (spells_escapeChar false first).lead quote (by decide) inner rfl
    · intro more same
      cases same
  rw [single, oneLine?]
  apply basicBody?_text
  rw [List.length_append]
  omega

theorem string?_literal {chars : List Char} (present : chars ≠ [])
    (readable : ∀ char ∈ chars, isPlain char = true ∧ char ≠ '\'') :
    string? ('\'' :: (chars ++ '\'' :: rest)) = some (String.ofList chars, rest) := by
  obtain ⟨first, more, rfl⟩ := List.exists_cons_of_ne_nil present
  have single : string? ('\'' :: (first :: more ++ '\'' :: rest)) =
      oneLine? ('\'' :: (first :: more ++ '\'' :: rest)) := by
    rw [string?]
    · intro after same
      cases same
    · intro after same
      have second := (List.cons.inj (List.cons.inj same).2).1
      exact (readable first List.mem_cons_self).2 second
  rw [single, oneLine?]
  exact literalBody?_text readable [] rest

theorem string?_writeString (text : String)
    (closed : ∀ char more, rest = char :: more → char ≠ '"' ∧ char ≠ '\'') :
    string? (writeString text ++ rest) = some (text, rest) := by
  have notDouble : ∀ char more, rest = char :: more → char ≠ '"' := fun char more same =>
    (closed char more same).1
  have notSingle : ∀ char more, rest = char :: more → char ≠ '\'' := fun char more same =>
    (closed char more same).2
  have visible : ¬ text.toList.any isControl = true →
      ∀ char ∈ text.toList, Spells false char [char] := by
    intro none char member
    apply spells_of_visible
    exact Bool.eq_false_iff.mpr fun control => none (List.any_eq_true.mpr ⟨char, member, control⟩)
  have quoted := string?_basic text.toList notDouble
  rw [String.ofList_toList] at quoted
  unfold writeString
  simp only []
  split
  case isTrue =>
    rw [List.append_assoc, List.cons_append, List.singleton_append]
    exact quoted
  case isFalse unquoted =>
    split
    case isTrue literal =>
      obtain ⟨clear, unmarked, sameLine⟩ := literal
      have readable : ∀ char ∈ text.toList, isPlain char = true ∧ char ≠ '\'' := by
        intro char member
        refine ⟨?_, ne_of_longestRun_zero unmarked char member⟩
        cases visible clear char member with
        | plain readable => exact readable
        | newline same =>
            rw [same] at member
            exact absurd (List.contains_iff_mem.mpr member) sameLine
        | escaped active => cases active
      have present : text.toList ≠ [] := by
        intro empty
        rw [empty] at unquoted
        exact unquoted (by decide)
      have read : string? ('\'' :: (text.toList ++ '\'' :: rest)) =
          some (String.ofList text.toList, rest) := string?_literal present readable
      rw [String.ofList_toList] at read
      rw [List.append_assoc, List.cons_append, List.singleton_append]
      exact read
    case isFalse =>
      split
      case isTrue several =>
        have read := lines?_text (by decide) rfl (fun char _ => spells_escapeChar true char)
          several.2.2 notDouble
        rw [String.ofList_toList] at read
        rw [List.append_assoc, List.append_assoc, List.append_assoc]
        exact read
      case isFalse =>
        split
        case isTrue several =>
          have read := lines?_text (by decide) rfl (visible several.1) several.2 notSingle
          rw [String.ofList_toList, List.flatMap_singleton'] at read
          rw [List.append_assoc, List.append_assoc, List.append_assoc]
          exact read
        case isFalse =>
          rw [List.append_assoc, List.cons_append, List.singleton_append]
          exact quoted

end Forms

end SealedContent.Toml
