import SealedContent.Bytes.Hex

/-!
JSON as it is written. Numbers keep their digits, objects keep order and repetition, and a string
with an unpaired surrogate escape is kept as a string that no text spells. What a reader makes of
these is decided later.
-/

namespace SealedContent.Json

structure NumberLiteral where
  negative : Bool
  whole : List Nat
  fraction : List Nat
  /-- Whether a fraction or an exponent is written. -/
  isInteger : Bool
  exponentNegative : Bool
  exponent : List Nat

inductive Written where
  | null
  | bool (value : Bool)
  | number (literal : NumberLiteral)
  | string (text : Option String)
  | array (items : List Written)
  | object (fields : List (Option String × Written))

namespace Written

def isSpace (char : Char) : Bool :=
  char = ' ' ∨ char = '\n' ∨ char = '\t' ∨ char = '\r'

def skipSpace (input : List Char) : List Char :=
  input.dropWhile isSpace

def digit? (char : Char) : Option Nat :=
  if '0' ≤ char ∧ char ≤ '9' then some (char.toNat - 48) else none

def readDigits (input : List Char) : List Nat × List Char :=
  match input with
  | [] => ([], [])
  | char :: rest =>
      match digit? char with
      | none => ([], char :: rest)
      | some digit =>
          let (digits, after) := readDigits rest
          (digit :: digits, after)

/-- A whole part has no leading zero unless it is zero. -/
def readWhole? (input : List Char) : Option (List Nat × List Char) :=
  match readDigits input with
  | ([], _) => none
  | (0 :: _ :: _, _) => none
  | (digits, rest) => some (digits, rest)

def readFraction? (input : List Char) : Option (Option (List Nat) × List Char) :=
  match input with
  | '.' :: rest =>
      match readDigits rest with
      | ([], _) => none
      | (digits, after) => some (some digits, after)
  | _ => some (none, input)

def readExponent? (input : List Char) : Option (Option (Bool × List Nat) × List Char) :=
  match input with
  | mark :: rest =>
      if mark = 'e' ∨ mark = 'E' then
        let (negative, unsigned) := match rest with
          | '+' :: after => (false, after)
          | '-' :: after => (true, after)
          | _ => (false, rest)
        match readDigits unsigned with
        | ([], _) => none
        | (digits, after) => some (some (negative, digits), after)
      else some (none, input)
  | [] => some (none, input)

def readNumber? (input : List Char) : Option (NumberLiteral × List Char) := do
  let (negative, unsigned) := match input with
    | '-' :: rest => (true, rest)
    | _ => (false, input)
  let (whole, afterWhole) ← readWhole? unsigned
  let (fraction, afterFraction) ← readFraction? afterWhole
  let (exponent, rest) ← readExponent? afterFraction
  let (exponentNegative, exponentDigits) := exponent.getD (false, [])
  return (⟨negative, whole, fraction.getD [], fraction.isNone && exponent.isNone,
    exponentNegative, exponentDigits⟩, rest)

/-- A string is first a list of characters and of escaped surrogate halves. -/
abbrev Unit := Char ⊕ Nat

def unitOfCode (code : Nat) : Unit :=
  if 0xD800 ≤ code ∧ code ≤ 0xDFFF then .inr code else .inl (Char.ofNat code)

def simpleEscape? (char : Char) : Option Char :=
  match char with
  | '"' => some '"'
  | '\\' => some '\\'
  | '/' => some '/'
  | 'b' => some '\x08'
  | 'f' => some '\x0c'
  | 'n' => some '\n'
  | 'r' => some '\r'
  | 't' => some '\t'
  | _ => none

/-- Reads up to the closing quote; the units read before are kept last first. -/
def readUnits? (done : List Unit) : List Char → Option (List Unit × List Char)
  | [] => none
  | '"' :: rest => some (done.reverse, rest)
  | '\\' :: 'u' :: a :: b :: c :: d :: rest =>
      match Bytes.hexValue? a, Bytes.hexValue? b, Bytes.hexValue? c, Bytes.hexValue? d with
      | some a, some b, some c, some d =>
          readUnits? (unitOfCode (((a * 16 + b) * 16 + c) * 16 + d) :: done) rest
      | _, _, _, _ => none
  | '\\' :: escape :: rest =>
      match simpleEscape? escape with
      | some char => readUnits? (.inl char :: done) rest
      | none => none
  | char :: rest =>
      if char.toNat < 0x20 ∨ char = '\\' then none else readUnits? (.inl char :: done) rest

/-- Joins surrogate pairs; a half without its partner leaves no text. -/
def joinUnits? (done : List Char) : List Unit → Option (List Char)
  | [] => some done.reverse
  | .inl char :: rest => joinUnits? (char :: done) rest
  | .inr high :: .inr low :: rest =>
      if high < 0xDC00 ∧ 0xDC00 ≤ low then
        joinUnits? (Char.ofNat (0x10000 + (high - 0xD800) * 0x400 + (low - 0xDC00)) :: done) rest
      else none
  | .inr _ :: _ => none

def readString? (input : List Char) : Option (Option String × List Char) := do
  let (units, rest) ← readUnits? [] input
  return ((joinUnits? [] units).map String.ofList, rest)

def keyword? (word : String) (value : Written) (input : List Char) :
    Option (Written × List Char) :=
  let letters := word.toList
  if input.take letters.length = letters then some (value, input.drop letters.length) else none

mutual

/-- Reads one value that starts at the first character. The fuel bounds the characters read. -/
def readValue? : Nat → List Char → Option (Written × List Char)
  | 0, _ => none
  | fuel + 1, input =>
      match input with
      | [] => none
      | '"' :: rest => (readString? rest).map fun (text, after) => (.string text, after)
      | '[' :: rest =>
          match skipSpace rest with
          | ']' :: after => some (.array [], after)
          | items => readItems? fuel [] items
      | '\x7b' :: rest =>
          match skipSpace rest with
          | '\x7d' :: after => some (.object [], after)
          | fields => readFields? fuel [] fields
      | 'n' :: _ => keyword? "null" .null input
      | 't' :: _ => keyword? "true" (.bool true) input
      | 'f' :: _ => keyword? "false" (.bool false) input
      | _ => (readNumber? input).map fun (literal, after) => (.number literal, after)

/-- Reads the items that are left; those read before are kept last first. -/
def readItems? : Nat → List Written → List Char → Option (Written × List Char)
  | 0, _, _ => none
  | fuel + 1, done, input =>
      match readValue? fuel input with
      | none => none
      | some (item, rest) =>
          match skipSpace rest with
          | ']' :: after => some (.array (item :: done).reverse, after)
          | ',' :: after => readItems? fuel (item :: done) (skipSpace after)
          | _ => none

def readFields? : Nat → List (Option String × Written) → List Char → Option (Written × List Char)
  | 0, _, _ => none
  | fuel + 1, done, input =>
      match input with
      | '"' :: rest =>
          match readString? rest with
          | none => none
          | some (key, afterKey) =>
              match skipSpace afterKey with
              | ':' :: afterColon =>
                  match readValue? fuel (skipSpace afterColon) with
                  | none => none
                  | some (value, afterValue) =>
                      match skipSpace afterValue with
                      | '\x7d' :: after => some (.object ((key, value) :: done).reverse, after)
                      | ',' :: after => readFields? fuel ((key, value) :: done) (skipSpace after)
                      | _ => none
              | _ => none
      | _ => none

end

def read? (text : String) : Option Written :=
  let input := skipSpace text.toList
  match readValue? (2 * input.length + 2) input with
  | some (value, rest) => if (skipSpace rest).isEmpty then some value else none
  | none => none

end Written

end SealedContent.Json
