/-!
Punycode: the code points of a label beyond ASCII, as insertions into its ASCII part. Each insertion
is a distance from the one before, written in digits whose weights adapt to the distances seen.
-/

namespace SealedContent.Web.Punycode

/-- How the weights of digits follow a distance, after `count` code points are in place. -/
def shrink (delta weight : Nat) : Nat :=
  if 455 < delta then shrink (delta / 35) (weight + 36)
  else weight + 36 * delta / (delta + 38)
termination_by delta

def adapt (delta count : Nat) (isFirst : Bool) : Nat :=
  let scaled := if isFirst then delta / 700 else delta / 2
  shrink (scaled + scaled / count) 0

/-- The least digit that does not end a number, at a position given by its weight. -/
def threshold (weight bias : Nat) : Nat :=
  if weight ≤ bias then 1 else if bias + 26 ≤ weight then 26 else weight - bias

theorem one_le_threshold (weight bias : Nat) : 1 ≤ threshold weight bias := by
  unfold threshold
  (repeat' split) <;> omega

def writeNumber (bias weight value : Nat) : List Nat :=
  let least := threshold weight bias
  if value < least then [value]
  else
    (least + (value - least) % (36 - least)) ::
      writeNumber bias (weight + 36) ((value - least) / (36 - least))
termination_by value
decreasing_by
  have low := one_le_threshold weight bias
  exact Nat.lt_of_le_of_lt (Nat.div_le_self _ _) (by omega)

def readNumber? (bias : Nat) : List Nat → Nat → Nat → Nat → Option (Nat × List Nat)
  | [], _, _, _ => none
  | digit :: rest, weight, factor, value =>
      let least := threshold weight bias
      let sum := value + digit * factor
      if digit < least then some (sum, rest)
      else readNumber? bias rest (weight + 36) (factor * (36 - least)) sum

def digitChar (digit : Nat) : Char :=
  if digit < 26 then Char.ofNat (97 + digit) else Char.ofNat (48 + (digit - 26))

def digitOf? (char : Char) : Option Nat :=
  if 'a' ≤ char ∧ char ≤ 'z' then some (char.toNat - 97)
  else if 'A' ≤ char ∧ char ≤ 'Z' then some (char.toNat - 65)
  else if '0' ≤ char ∧ char ≤ '9' then some (char.toNat - 48 + 26)
  else none

structure Writer where
  delta : Nat
  bias : Nat
  /-- How many code points are in place. -/
  placed : Nat
  isFirst : Bool
  digits : List Nat

/-- Passes over one code point of the label while the code point `point` is inserted. -/
def Writer.pass (point : Nat) (writer : Writer) (code : Nat) : Writer :=
  if code < point then { writer with delta := writer.delta + 1 }
  else if code = point then
    { delta := 0
      bias := adapt writer.delta (writer.placed + 1) writer.isFirst
      placed := writer.placed + 1
      isFirst := false
      digits := writer.digits ++ writeNumber writer.bias 36 writer.delta }
  else writer

/-- Inserts all occurrences of each point in turn; `next` is the least point not yet inserted. -/
def insertPoints (label : List Nat) : Nat → Writer → List Nat → Writer
  | _, writer, [] => writer
  | next, writer, point :: rest =>
      let started := { writer with delta := writer.delta + (point - next) * (writer.placed + 1) }
      let passed := label.foldl (Writer.pass point) started
      insertPoints label (point + 1) { passed with delta := passed.delta + 1 } rest

def points (label : List Nat) : List Nat :=
  ((label.filter fun code => 0x80 ≤ code).mergeSort (· ≤ ·)).eraseDups

def encode (label : List Char) : List Char :=
  let codes := label.map Char.toNat
  let basic := label.filter fun char => char.toNat < 0x80
  let start : Writer := ⟨0, 72, basic.length, true, []⟩
  let written := insertPoints codes 0x80 start (points codes)
  basic ++ (if basic.isEmpty then [] else ['-']) ++ written.digits.map digitChar

/-- Inserts the code points that the digits name. The fuel bounds their number. -/
def insertAll? : Nat → Nat → Nat → Nat → Bool → List Nat → List Nat → Option (List Nat)
  | _, _, _, _, _, label, [] => some label
  | 0, _, _, _, _, _, _ => none
  | fuel + 1, point, position, bias, isFirst, label, digits =>
      match readNumber? bias digits 36 1 0 with
      | none => none
      | some (delta, rest) =>
          let count := label.length + 1
          let reached := position + delta
          let next := point + reached / count
          let place := reached % count
          if 0x110000 ≤ next then none
          else
            insertAll? fuel next (place + 1) (adapt delta count isFirst) false
              (label.take place ++ next :: label.drop place) rest

/-- The ASCII part stands before the last hyphen, unless that is the first character. -/
def splitBasic (text : List Char) : List Char × List Char :=
  let tail := (text.reverse.takeWhile fun char => char ≠ '-').reverse
  let head := text.take (text.length - tail.length)
  if head.length ≤ 1 then ([], text) else (head.dropLast, tail)

def codePoint? (code : Nat) : Option Char :=
  if code < 0xD800 ∨ (0xE000 ≤ code ∧ code < 0x110000) then some (Char.ofNat code) else none

def decode? (text : List Char) : Option (List Char) := do
  let (basic, tail) := splitBasic text
  let digits ← tail.mapM digitOf?
  let codes ← insertAll? (digits.length + 1) 0x80 0 72 true (basic.map Char.toNat) digits
  codes.mapM codePoint?

end SealedContent.Web.Punycode
