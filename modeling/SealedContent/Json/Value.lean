import SealedContent.Decimal.Shortest
import SealedContent.Json.Written

/-!
JSON values, how they are read from what is written, and their compact text. The keys of an object
are distinct and in ascending order; of a repeated key the last value counts.
-/

namespace SealedContent.Json

inductive Value where
  | null
  | bool (value : Bool)
  /-- An integer between the least signed and the greatest unsigned number of 64 bits. -/
  | integer (value : Int)
  | double (value : Double)
  | string (text : String)
  | array (items : List Value)
  | object (fields : List (String × Value))

namespace Fields

/-- Puts a field in its place among fields in ascending order of their keys. -/
def insert {α : Type} (key : String) (value : α) : List (String × α) → List (String × α)
  | [] => [(key, value)]
  | (other, present) :: rest =>
      if key < other then (key, value) :: (other, present) :: rest
      else if key = other then (key, value) :: rest
      else (other, present) :: insert key value rest

def ofList {α : Type} (fields : List (String × α)) : List (String × α) :=
  fields.foldl (fun sorted (key, value) => insert key value sorted) []

end Fields

namespace NumberLiteral

def natural (digits : List Nat) : Nat :=
  digits.foldl (fun value digit => value * 10 + digit) 0

def wordBound : Nat := UInt64.size

/-- The digits that fit into one word, and how many do not. -/
def leading (value : Nat) : List Nat → Nat × Nat
  | [] => (value, 0)
  | digit :: rest =>
      if value * 10 + digit < wordBound then leading (value * 10 + digit) rest
      else (value, rest.length + 1)

/-- A word times a power of ten, one rounding for the word, one for the power and one for the
result; powers below the least are taken in steps. -/
def scaled? : Nat → Double → Int → Option Double
  | 0, _, _ => none
  | fuel + 1, word, exponent =>
      if exponent.natAbs ≤ 308 then
        match Double.powerOfTen? exponent.natAbs with
        | none => none
        | some power =>
            if 0 ≤ exponent then word.multiply? power else word.divide? power
      else if word.isZero then some word
      else if 0 ≤ exponent then none
      else
        match Double.powerOfTen? 308 with
        | none => none
        | some power =>
            match word.divide? power with
            | none => none
            | some smaller => scaled? fuel smaller (exponent + 308)

def exponentBound : Nat := UInt32.size / 2 - 1

def magnitude? (literal : NumberLiteral) : Option Double :=
  let (whole, dropped) := leading 0 literal.whole
  let (word, unread) := leading whole literal.fraction
  let kept := literal.fraction.length - unread
  let written := natural literal.exponent
  let start : Int := (dropped : Int) - kept
  if exponentBound < written then
    if word ≠ 0 ∧ ¬ literal.exponentNegative then none else some .zero
  else
    let exponent : Int := if literal.exponentNegative then start - written else start + written
    match Double.ofFraction? word 1 with
    | none => none
    | some significand => scaled? 8 significand exponent

def toValue? (literal : NumberLiteral) : Option Value :=
  let whole := natural literal.whole
  if literal.isInteger ∧ ¬ literal.negative ∧ whole < wordBound then some (.integer whole)
  else if literal.isInteger ∧ literal.negative ∧ 0 < whole ∧ whole ≤ UInt64.size / 2 then
    some (.integer (-(whole : Int)))
  else
    (magnitude? literal).map fun size =>
      .double (if literal.negative then size.negate else size)

end NumberLiteral

namespace Written

mutual

/-- The value of what is written, unless it nests deeper than `depth` levels, holds a number out of
range, or a string that no text spells. -/
def toValue? (depth : Nat) : Written → Option Value
  | .null => some .null
  | .bool value => some (.bool value)
  | .number literal => literal.toValue?
  | .string text => text.map .string
  | .array items =>
      match depth with
      | 0 => none
      | inner + 1 => (toValues? inner items).map .array
  | .object fields =>
      match depth with
      | 0 => none
      | inner + 1 => (toFields? inner fields).map fun read => .object (Fields.ofList read)

def toValues? (depth : Nat) : List Written → Option (List Value)
  | [] => some []
  | item :: rest =>
      match toValue? depth item with
      | none => none
      | some value => (toValues? depth rest).map (value :: ·)

def toFields? (depth : Nat) : List (Option String × Written) → Option (List (String × Value))
  | [] => some []
  | (key, item) :: rest =>
      match key, toValue? depth item with
      | some name, some value => (toFields? depth rest).map ((name, value) :: ·)
      | _, _ => none

end

end Written

namespace Value

def depthLimit : Nat := 127

def ofText? (text : String) : Option Value :=
  (Written.read? text).bind (Written.toValue? depthLimit)

/-- Quotes, backslashes and control characters are escaped, and nothing else. -/
def escape (char : Char) : List Char :=
  match char with
  | '"' => ['\\', '"']
  | '\\' => ['\\', '\\']
  | '\x08' => ['\\', 'b']
  | '\x0c' => ['\\', 'f']
  | '\n' => ['\\', 'n']
  | '\r' => ['\\', 'r']
  | '\t' => ['\\', 't']
  | _ =>
      if char.toNat < 0x20 then
        ['\\', 'u', '0', '0', Bytes.hexDigit (char.toNat / 16), Bytes.hexDigit (char.toNat % 16)]
      else [char]

def writeString (text : String) : List Char :=
  '"' :: text.toList.flatMap escape ++ ['"']

mutual

/-- The compact text: no white space, fields in the order of their keys. -/
def write : Value → List Char
  | .null => "null".toList
  | .bool true => "true".toList
  | .bool false => "false".toList
  | .integer value => (toString value).toList
  | .double value => value.render.toList
  | .string text => writeString text
  | .array items => '[' :: writeItems items ++ [']']
  | .object fields => '\x7b' :: writeFields fields ++ ['\x7d']

def writeItems : List Value → List Char
  | [] => []
  | [item] => write item
  | item :: rest => write item ++ ',' :: writeItems rest

def writeFields : List (String × Value) → List Char
  | [] => []
  | [(key, value)] => writeString key ++ ':' :: write value
  | (key, value) :: rest => writeString key ++ ':' :: write value ++ ',' :: writeFields rest

end

def render (value : Value) : String :=
  String.ofList value.write

def ofFields (fields : List (String × Value)) : Value :=
  .object (Fields.ofList fields)

def field? (value : Value) (key : String) : Option Value :=
  match value with
  | .object fields => (fields.find? fun field => field.1 = key).map Prod.snd
  | _ => none

def text? : Value → Option String
  | .string text => some text
  | _ => none

end Value

end SealedContent.Json
