import SealedContent.Json.Value
import SealedContent.Proofs.Bytes.Hex
import SealedContent.Proofs.Text.Decimal

/-!
Integers and strings as a compact JSON text spells them. What the reader finds at the start of the text
is the very number or string, and it stops where the spelling ends.
-/

namespace SealedContent.Json

/-- A value is followed by nothing, or by what separates it from the next one or closes the list. -/
def Separated (rest : List Char) : Prop :=
  ∀ char more, rest = char :: more → char = ',' ∨ char = ']' ∨ char = '\x7d'

theorem separated_nil : Separated [] := by
  intro char more impossible
  cases impossible

theorem separated_cons {char : Char} (separator : char = ',' ∨ char = ']' ∨ char = '\x7d')
    (more : List Char) : Separated (char :: more) := by
  intro first others same
  cases same
  exact separator

namespace NumberLiteral

/-- The decimal figures of a number, the first of which is zero for zero only. -/
def figures (value : Nat) : List Nat :=
  (Nat.toDigits 10 value).map fun char => char.toNat - 48

def ofInt (value : Int) : NumberLiteral :=
  ⟨value < 0, figures value.natAbs, [], true, false, []⟩

theorem natural_figures (value : Nat) : natural (figures value) = value := by
  rw [natural, figures, List.foldl_map]
  exact Text.foldl_decimal value

theorem ofInt_injective {left right : Int} (same : ofInt left = ofInt right) : left = right := by
  simp only [ofInt, mk.injEq, decide_eq_decide] at same
  have magnitudes := congrArg natural same.2.1
  rw [natural_figures, natural_figures] at magnitudes
  omega

theorem figures_ne_nil (value : Nat) : figures value ≠ [] := by
  simp [figures, Nat.toDigits_ne_nil]

theorem figures_lead (value : Nat) : value = 0 ∨ ∀ rest, figures value ≠ 0 :: rest := by
  refine or_iff_not_imp_left.mpr fun positive rest same => ?_
  obtain ⟨char, more, digits⟩ :=
    List.exists_cons_of_ne_nil (Nat.toDigits_ne_nil (n := value) (b := 10))
  rw [figures, digits, List.map_cons] at same
  have digit : char.isDigit = true :=
    Text.isDigit_decimal value char (by rw [digits]; exact List.mem_cons_self)
  -- Zero is the only digit that has this figure.
  have zero : char = '0' := by
    simp only [Char.isDigit, Bool.and_eq_true, decide_eq_true_eq, UInt32.le_iff_toNat_le] at digit
    have least : 48 ≤ char.toNat := digit.1
    have figure : char.toNat - 48 = 0 := (List.cons.inj same).1
    have code : char.toNat = 48 := by omega
    rw [← Char.ofNat_toNat char, code]
  exact Text.decimal_lead positive more (by rw [digits, zero])

end NumberLiteral

namespace Written

open NumberLiteral

theorem digit?_of_isDigit {char : Char} (digit : char.isDigit = true) :
    digit? char = some (char.toNat - 48) := by
  rw [digit?, if_pos]
  simpa [Char.isDigit, Char.le_def] using digit

theorem digit?_separator {char : Char} (separator : char = ',' ∨ char = ']' ∨ char = '\x7d') :
    digit? char = none := by
  rcases separator with rfl | rfl | rfl <;> rfl

theorem readDigits_separated {rest : List Char} (separated : Separated rest) :
    readDigits rest = ([], rest) := by
  cases rest with
  | nil => rfl
  | cons char more => rw [readDigits, digit?_separator (separated char more rfl)]

theorem readDigits_append {digits rest : List Char} (all : ∀ char ∈ digits, char.isDigit = true)
    (separated : Separated rest) :
    readDigits (digits ++ rest) = (digits.map fun char => char.toNat - 48, rest) := by
  induction digits with
  | nil => exact readDigits_separated separated
  | cons char digits induction =>
      have later := induction fun other member => all other (List.mem_cons_of_mem _ member)
      rw [List.cons_append, readDigits, digit?_of_isDigit (all char List.mem_cons_self)]
      simp only [later, List.map_cons]

theorem readWhole?_toDigits (value : Nat) {rest : List Char} (separated : Separated rest) :
    readWhole? (Nat.toDigits 10 value ++ rest) = some (figures value, rest) := by
  have read := readDigits_append (Text.isDigit_decimal value) separated
  rw [← figures] at read
  rw [readWhole?, read]
  split
  · rename_i empty
    cases figures_ne_nil value (Prod.mk.inj empty).1
  · rename_i leading
    rcases figures_lead value with rfl | lead
    · cases (Prod.mk.inj leading).1
    · cases lead _ (Prod.mk.inj leading).1
  · rename_i same
    cases same
    rfl

theorem readFraction?_separated {rest : List Char} (separated : Separated rest) :
    readFraction? rest = some (none, rest) := by
  cases rest with
  | nil => rfl
  | cons char more =>
      rcases separated char more rfl with rfl | rfl | rfl <;> rfl

theorem readExponent?_separated {rest : List Char} (separated : Separated rest) :
    readExponent? rest = some (none, rest) := by
  cases rest with
  | nil => rfl
  | cons char more =>
      rcases separated char more rfl with rfl | rfl | rfl <;> rfl

theorem toList_toString (value : Int) : (toString value).toList =
    (if value < 0 then ['-'] else []) ++ Nat.toDigits 10 value.natAbs := by
  cases value with
  | ofNat size =>
      have notNegative : ¬ Int.ofNat size < 0 := not_lt.mpr (Int.natCast_nonneg size)
      rw [if_neg notNegative, List.nil_append]
      change (Nat.repr size).toList = _
      rw [Nat.repr_eq_ofList_toDigits, String.toList_ofList]
      rfl
  | negSucc size =>
      rw [if_pos (Int.negSucc_lt_zero size)]
      change ("-" ++ Nat.repr (size + 1)).toList = ['-'] ++ Nat.toDigits 10 (size + 1)
      rw [String.toList_append, Nat.repr_eq_ofList_toDigits, String.toList_ofList,
        String.toList_ofList]

/-- The first character of an integer is a digit or the sign. -/
theorem exists_integer_lead (value : Int) : ∃ char more, (toString value).toList = char :: more ∧
    (char = '-' ∨ char.isDigit = true) := by
  rw [toList_toString]
  split
  · exact ⟨'-', _, rfl, .inl rfl⟩
  · obtain ⟨char, more, digits⟩ := List.exists_cons_of_ne_nil
      (Nat.toDigits_ne_nil (n := value.natAbs) (b := 10))
    rw [digits]
    refine ⟨char, more, rfl, .inr ?_⟩
    apply Text.isDigit_decimal value.natAbs
    rw [digits]
    exact List.mem_cons_self

/-- No other kind of value starts as an integer does. -/
theorem lead_cases {char : Char} (lead : char = '-' ∨ char.isDigit = true) :
    isSpace char = false ∧ char ≠ '"' ∧ char ≠ '[' ∧ char ≠ ']' ∧ char ≠ '\x7b' ∧ char ≠ 'n' ∧
      char ≠ 't' ∧ char ≠ 'f' := by
  rcases lead with rfl | digit
  · decide
  · refine ⟨?_, ?_, ?_, ?_, ?_, ?_, ?_, ?_⟩
    · rw [isSpace, decide_eq_false_iff_not]
      rintro (rfl | rfl | rfl | rfl) <;> cases digit
    all_goals
      rintro rfl
      cases digit

theorem readNumber?_toString (value : Int) {rest : List Char} (separated : Separated rest) :
    readNumber? ((toString value).toList ++ rest) = some (ofInt value, rest) := by
  have whole := readWhole?_toDigits value.natAbs separated
  have fraction := readFraction?_separated separated
  have exponent := readExponent?_separated separated
  rw [toList_toString]
  by_cases negative : value < 0
  · rw [if_pos negative, List.append_assoc, List.singleton_append, readNumber?]
    simp only [whole, fraction, exponent, Option.bind_eq_bind, Option.bind_some]
    simp [ofInt, negative]
  · have unsigned : ∀ more, Nat.toDigits 10 value.natAbs ++ rest ≠ '-' :: more := by
      intro more same
      rcases List.append_eq_cons_iff.mp same with ⟨empty, -⟩ | ⟨others, digits, -⟩
      · exact Nat.toDigits_ne_nil empty
      · have digit := Text.isDigit_decimal value.natAbs '-'
          (by rw [digits]; exact List.mem_cons_self)
        cases digit
    rw [if_neg negative, List.nil_append, readNumber?]
    · simp only [whole, fraction, exponent, Option.bind_eq_bind, Option.bind_some]
      simp [ofInt, negative]
    · exact unsigned

/-- A control character without a letter of its own is read from its number. -/
theorem readUnits?_numbered (done : List Unit) {char : Char} (control : char.toNat < 0x20)
    (rest : List Char) :
    readUnits? done ('\\' :: 'u' :: '0' :: '0' :: Bytes.hexDigit (char.toNat / 16) ::
      Bytes.hexDigit (char.toNat % 16) :: rest) = readUnits? (.inl char :: done) rest := by
  have zero : Bytes.hexValue? '0' = some 0 := rfl
  have high := Bytes.hexValue?_hexDigit (char.toNat / 16) (by omega)
  have low := Bytes.hexValue?_hexDigit (char.toNat % 16) (by omega)
  have code : ((0 * 16 + 0) * 16 + char.toNat / 16) * 16 + char.toNat % 16 = char.toNat := by omega
  have unit : unitOfCode char.toNat = .inl char := by
    rw [unitOfCode, if_neg (by omega), Char.ofNat_toNat]
  rw [readUnits?]
  simp only [zero, high, low, code, unit]

/-- An escaped character is read as that character. -/
theorem readUnits?_escape (done : List Unit) (char : Char) (rest : List Char) :
    readUnits? done (Value.escape char ++ rest) = readUnits? (.inl char :: done) rest := by
  unfold Value.escape
  split
  case h_8 =>
    split
    · rename_i control
      exact readUnits?_numbered done control rest
    · rename_i printable
      rw [List.singleton_append, readUnits?.eq_def]
      split <;> simp_all
  all_goals simp [readUnits?, simpleEscape?]

theorem readUnits?_text (done : List Unit) (text rest : List Char) :
    readUnits? done (text.flatMap Value.escape ++ '"' :: rest) =
      some (done.reverse ++ text.map .inl, rest) := by
  induction text generalizing done with
  | nil => simp [readUnits?]
  | cons char text induction =>
      rw [List.flatMap_cons, List.append_assoc, readUnits?_escape, induction, List.reverse_cons,
        List.append_assoc, List.singleton_append, List.map_cons]

theorem joinUnits?_text (done text : List Char) :
    joinUnits? done (text.map .inl) = some (done.reverse ++ text) := by
  induction text generalizing done with
  | nil => simp [joinUnits?]
  | cons char text induction =>
      rw [List.map_cons, joinUnits?, induction, List.reverse_cons, List.append_assoc,
        List.singleton_append]

theorem readString?_text (text : String) (rest : List Char) :
    readString? (text.toList.flatMap Value.escape ++ '"' :: rest) = some (some text, rest) := by
  rw [readString?, readUnits?_text]
  simp only [Option.bind_eq_bind, Option.bind_some, List.reverse_nil, List.nil_append,
    joinUnits?_text, Option.map_some, String.ofList_toList]
  rfl

theorem skipSpace_cons {char : Char} (notSpace : isSpace char = false) (more : List Char) :
    skipSpace (char :: more) = char :: more := by
  rw [skipSpace, List.dropWhile_cons_of_neg (by simp [notSpace])]

section Fields

variable {fuel : Nat} {key : Option String} {value : Written}
  {input afterKey afterColon afterValue after : List Char}

theorem readFields?_last (quoted : readString? input = some (key, afterKey))
    (colon : skipSpace afterKey = ':' :: afterColon)
    (read : readValue? fuel (skipSpace afterColon) = some (value, afterValue))
    (closed : skipSpace afterValue = '\x7d' :: after) (done : List (Option String × Written)) :
    readFields? (fuel + 1) done ('"' :: input) =
      some (.object ((key, value) :: done).reverse, after) := by
  rw [readFields?]
  simp only [quoted, colon, read, closed]

theorem readFields?_next (quoted : readString? input = some (key, afterKey))
    (colon : skipSpace afterKey = ':' :: afterColon)
    (read : readValue? fuel (skipSpace afterColon) = some (value, afterValue))
    (parted : skipSpace afterValue = ',' :: after) (done : List (Option String × Written)) :
    readFields? (fuel + 1) done ('"' :: input) =
      readFields? fuel ((key, value) :: done) (skipSpace after) := by
  rw [readFields?]
  simp only [quoted, colon, read, parted]

end Fields

end Written

end SealedContent.Json
