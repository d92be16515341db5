import SealedContent.Bytes.Hex
import SealedContent.Decimal.Double

/-!
The words of a TOML document: white space, comments, strings, keys, numbers, dates and times. Each
reader takes characters from the front and returns what follows.
-/

namespace SealedContent.Toml.Lexeme

def isSpace (char : Char) : Bool :=
  char = ' ' ∨ char = '\t'

def skipSpace (input : List Char) : List Char :=
  input.dropWhile isSpace

/-- A line ends with a line feed, which a carriage return may precede. -/
def newline? : List Char → Option (List Char)
  | '\n' :: rest => some rest
  | '\r' :: '\n' :: rest => some rest
  | _ => none

/-- No control character except a tab. -/
def isPlain (char : Char) : Bool :=
  char = '\t' ∨ (0x20 ≤ char.toNat ∧ char.toNat ≠ 0x7f)

def skipComment : List Char → List Char
  | '#' :: rest => rest.dropWhile isPlain
  | input => input

/-- Skips to the next line; only white space and a comment may be left on this one. -/
def endLine? (input : List Char) : Option (List Char) :=
  match skipComment (skipSpace input) with
  | [] => some []
  | rest => newline? rest

/-- Skips white space, comments and line ends; the fuel bounds the steps. -/
def skipLines : Nat → List Char → List Char
  | 0, input => input
  | fuel + 1, input =>
      match input with
      | [] => []
      | char :: rest =>
          if isSpace char then skipLines fuel rest
          else if char = '#' then
            match newline? (rest.dropWhile isPlain) with
            | some after => skipLines fuel after
            | none => input
          else
            match newline? input with
            | some after => skipLines fuel after
            | none => input

def hexCode? (digits : List Char) : Option Char := do
  let values ← digits.mapM Bytes.hexValue?
  let code := values.foldl (fun code value => code * 16 + value) 0
  if code < 0xD800 ∨ (0xDFFF < code ∧ code < 0x110000) then some (Char.ofNat code) else none

def escape? : List Char → Option (Char × List Char)
  | 'b' :: rest => some ('\x08', rest)
  | 't' :: rest => some ('\t', rest)
  | 'n' :: rest => some ('\n', rest)
  | 'f' :: rest => some ('\x0c', rest)
  | 'r' :: rest => some ('\r', rest)
  | '"' :: rest => some ('"', rest)
  | '\\' :: rest => some ('\\', rest)
  | 'u' :: rest =>
      if (rest.take 4).length = 4 then
        (hexCode? (rest.take 4)).map fun char => (char, rest.drop 4)
      else none
  | 'U' :: rest =>
      if (rest.take 8).length = 8 then
        (hexCode? (rest.take 8)).map fun char => (char, rest.drop 8)
      else none
  | _ => none

/-- Reads to the closing quote; the characters read before are kept last first. -/
def basicBody? : Nat → List Char → List Char → Option (String × List Char)
  | 0, _, _ => none
  | fuel + 1, done, input =>
      match input with
      | [] => none
      | '"' :: rest => some (String.ofList done.reverse, rest)
      | '\\' :: rest =>
          match escape? rest with
          | some (char, after) => basicBody? fuel (char :: done) after
          | none => none
      | char :: rest => if isPlain char then basicBody? fuel (char :: done) rest else none

def literalBody? (done : List Char) : List Char → Option (String × List Char)
  | [] => none
  | '\'' :: rest => some (String.ofList done.reverse, rest)
  | char :: rest => if isPlain char then literalBody? (char :: done) rest else none

/-- What a run of quotes inside a text of several lines means: up to two are text, three close it,
and up to two more before the closing three are text. -/
inductive QuoteRun where
  | text (count : Nat)
  | close (count : Nat)
  | tooLong

def quoteRun (length : Nat) : QuoteRun :=
  if length < 3 then .text length
  else if length < 6 then .close (length - 3)
  else .tooLong

/-- After a backslash at the end of a line, white space and line ends are skipped. -/
def continuation? (input : List Char) : Option (List Char) :=
  (newline? (skipSpace input)).map fun rest =>
    let rec skip : Nat → List Char → List Char
      | 0, input => input
      | fuel + 1, input =>
          match newline? input with
          | some after => skip fuel after
          | none =>
              match input with
              | char :: after => if isSpace char then skip fuel after else input
              | [] => []
    skip rest.length rest

/-- Reads a text of several lines to its closing quotes. Escapes count where `escapes` is set; line
ends are read as line feeds. -/
def linesBody? (quote : Char) (escapes : Bool) : Nat → List Char → List Char →
    Option (String × List Char)
  | 0, _, _ => none
  | fuel + 1, done, input =>
      match input with
      | [] => none
      | char :: rest =>
          if char = quote then
            let run := (input.takeWhile fun next => next = quote).length
            let after := input.drop run
            match quoteRun run with
            | .text count =>
                if after.isEmpty then none
                else linesBody? quote escapes fuel (List.replicate count quote ++ done) after
            | .close count =>
                some (String.ofList (List.replicate count quote ++ done).reverse, after)
            | .tooLong => none
          else if char = '\\' ∧ escapes then
            match continuation? rest with
            | some after => linesBody? quote escapes fuel done after
            | none =>
                match escape? rest with
                | some (escaped, after) => linesBody? quote escapes fuel (escaped :: done) after
                | none => none
          else
            match newline? input with
            | some after => linesBody? quote escapes fuel ('\n' :: done) after
            | none =>
                if isPlain char then linesBody? quote escapes fuel (char :: done) rest else none

/-- A line end directly after the opening quotes is not part of the text. -/
def lines? (quote : Char) (escapes : Bool) (input : List Char) : Option (String × List Char) :=
  let body := (newline? input).getD input
  linesBody? quote escapes (body.length + 1) [] body

def oneLine? : List Char → Option (String × List Char)
  | '"' :: rest => basicBody? (rest.length + 1) [] rest
  | '\'' :: rest => literalBody? [] rest
  | _ => none

def string? : List Char → Option (String × List Char)
  | '"' :: '"' :: '"' :: rest => lines? '"' true rest
  | '\'' :: '\'' :: '\'' :: rest => lines? '\'' false rest
  | input => oneLine? input

def isBare (char : Char) : Bool :=
  char.isAlphanum ∨ char = '-' ∨ char = '_'

def simpleKey? (input : List Char) : Option (String × List Char) :=
  match input with
  | '"' :: _ | '\'' :: _ => oneLine? input
  | _ =>
      let bare := input.takeWhile isBare
      if bare.isEmpty then none else some (String.ofList bare, input.dropWhile isBare)

/-- Keys joined by dots, with white space round each; the fuel bounds their number. -/
def key? : Nat → List Char → Option (List String × List Char)
  | 0, _ => none
  | fuel + 1, input => do
      let (first, afterFirst) ← simpleKey? (skipSpace input)
      match skipSpace afterFirst with
      | '.' :: rest =>
          let (others, after) ← key? fuel rest
          return (first :: others, after)
      | rest => return ([first], rest)

/-- Digits with single underscores between them. -/
def digits? (isDigit : Char → Bool) (input : List Char) : Option (List Char × List Char) :=
  let word := input.takeWhile fun char => isDigit char ∨ char = '_'
  let separated := (word.zip (word.drop 1)).all fun (left, right) => left ≠ '_' ∨ right ≠ '_'
  if word.isEmpty ∨ word.head? = some '_' ∨ word.getLast? = some '_' ∨ ¬ separated then none
  else some (word.filter (fun char => char ≠ '_'), input.drop word.length)

def decimalNatural (digits : List Char) : Nat :=
  digits.foldl (fun value digit => value * 10 + (digit.toNat - 48)) 0

/-- A sign, and the digits of a whole number without leading zeros. -/
def wholePart? (input : List Char) : Option (Bool × List Char × List Char) := do
  let (negative, unsigned) := match input with
    | '+' :: rest => (false, rest)
    | '-' :: rest => (true, rest)
    | _ => (false, input)
  match unsigned with
  | '0' :: rest => return (negative, ['0'], rest)
  | _ =>
      let (digits, rest) ← digits? Char.isDigit unsigned
      return (negative, digits, rest)

def integerBound : Nat := UInt64.size / 2

def radixInteger? (radix : Nat) (input : List Char) : Option (Int × List Char) := do
  let isDigit (char : Char) : Bool := (Bytes.hexValue? char).any fun value => value < radix
  let (digits, rest) ← digits? isDigit input
  let value := digits.foldl (fun value digit => value * radix + (Bytes.hexValue? digit).getD 0) 0
  if value < integerBound then some (value, rest) else none

def integer? : List Char → Option (Int × List Char)
  | '0' :: 'x' :: rest => radixInteger? 16 rest
  | '0' :: 'o' :: rest => radixInteger? 8 rest
  | '0' :: 'b' :: rest => radixInteger? 2 rest
  | input => do
      let (negative, digits, rest) ← wholePart? input
      let value := decimalNatural digits
      if negative then
        if value ≤ integerBound then some (-(value : Int), rest) else none
      else if value < integerBound then some (value, rest) else none

def fraction? : List Char → Option (List Char × List Char)
  | '.' :: rest => digits? Char.isDigit rest
  | _ => none

def exponent? : List Char → Option (Int × List Char)
  | mark :: rest =>
      if mark = 'e' ∨ mark = 'E' then do
        let (negative, unsigned) := match rest with
          | '+' :: after => (false, after)
          | '-' :: after => (true, after)
          | _ => (false, rest)
        let (digits, after) ← digits? Char.isDigit unsigned
        let value : Int := decimalNatural digits
        return (if negative then -value else value, after)
      else none
  | [] => none

/-- Whether a decimal rounds to something beyond the largest number. -/
def overflows (digits : List Char) (exponent : Int) : Bool :=
  let value := decimalNatural digits
  let position := exponent + (Nat.toDigits 10 value).length
  if value = 0 ∨ position < 300 then false
  else if 320 < position then true
  else
    let rounded :=
      if 0 ≤ exponent then Double.ofFraction? (value * Nat.pow 10 exponent.toNat) 1
      else Double.ofFraction? value (Nat.pow 10 (-exponent).toNat)
    rounded.isNone

def keyword? (words : List String) (input : List Char) : Option (List Char) :=
  words.findSome? fun word =>
    let letters := word.toList
    if input.take letters.length = letters then some (input.drop letters.length) else none

def specialFloat? (input : List Char) : Option (List Char) :=
  match input with
  | '+' :: rest | '-' :: rest => keyword? ["inf", "nan"] rest
  | _ => keyword? ["inf", "nan"] input

/-- A fraction or an exponent follows the whole part. A positive number must not be too large. -/
def float? (input : List Char) : Option (List Char) :=
  match specialFloat? input with
  | some rest => some rest
  | none => do
      let (negative, whole, afterWhole) ← wholePart? input
      match fraction? afterWhole with
      | some (fraction, afterFraction) =>
          let (exponent, rest) := (exponent? afterFraction).getD (0, afterFraction)
          if ¬ negative ∧ overflows (whole ++ fraction) (exponent - fraction.length) then none
          else some rest
      | none =>
          let (exponent, rest) ← exponent? afterWhole
          if ¬ negative ∧ overflows whole exponent then none else some rest

def fixedDigits? (count : Nat) (input : List Char) : Option (Nat × List Char) :=
  let digits := input.take count
  if digits.length = count ∧ digits.all Char.isDigit then
    some (decimalNatural digits, input.drop count)
  else none

def literal? (char : Char) : List Char → Option (List Char)
  | first :: rest => if first = char then some rest else none
  | [] => none

def daysInMonth (year month : Nat) : Nat :=
  let leap := year % 4 = 0 ∧ (year % 100 ≠ 0 ∨ year % 400 = 0)
  if month = 2 then (if leap then 29 else 28)
  else if month = 4 ∨ month = 6 ∨ month = 9 ∨ month = 11 then 30
  else 31

def date? (input : List Char) : Option (List Char) := do
  let (year, rest) ← fixedDigits? 4 input
  let rest ← literal? '-' rest
  let (month, rest) ← fixedDigits? 2 rest
  let rest ← literal? '-' rest
  let (day, rest) ← fixedDigits? 2 rest
  if 1 ≤ month ∧ month ≤ 12 ∧ 1 ≤ day ∧ day ≤ daysInMonth year month then some rest else none

def secondFraction (input : List Char) : List Char :=
  match input with
  | '.' :: digit :: rest => if digit.isDigit then rest.dropWhile Char.isDigit else input
  | _ => input

/-- A minute may have a sixty-first second. -/
def time? (input : List Char) : Option (List Char) := do
  let (hour, rest) ← fixedDigits? 2 input
  let rest ← literal? ':' rest
  let (minute, rest) ← fixedDigits? 2 rest
  let rest ← literal? ':' rest
  let (second, rest) ← fixedDigits? 2 rest
  if hour < 24 ∧ minute < 60 ∧ second ≤ 60 then some (secondFraction rest) else none

def offset? : List Char → Option (List Char)
  | 'Z' :: rest | 'z' :: rest => some rest
  | '+' :: rest | '-' :: rest => do
      let (hour, rest) ← fixedDigits? 2 rest
      let rest ← literal? ':' rest
      let (minute, rest) ← fixedDigits? 2 rest
      if hour < 24 ∧ minute < 60 then some rest else none
  | _ => none

/-- A date, a time, or both with an offset from universal time. -/
def moment? (input : List Char) : Option (List Char) :=
  match date? input with
  | none => time? input
  | some afterDate =>
      let withTime : Option (List Char) := match afterDate with
        | 'T' :: rest | 't' :: rest | ' ' :: rest =>
            (time? rest).map fun after => (offset? after).getD after
        | _ => none
      some (withTime.getD afterDate)

end SealedContent.Toml.Lexeme
