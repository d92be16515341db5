import SealedContent.Bytes.Hex
import SealedContent.Text.Quoted
import SealedContent.Web.Domain
import SealedContent.Web.Percent

/-!
Hosts of addresses: names, and numbers of four or of sixteen bytes. Numbers are read in the forms
that users write and printed in one form.
-/

namespace SealedContent.Web

inductive Host where
  | domain (name : List Char)
  /-- A number of four bytes. -/
  | fourByte (address : Nat)
  /-- Eight groups of two bytes. -/
  | sixteenByte (groups : List Nat)
  /-- A name in an address whose scheme says nothing about hosts. -/
  | verbatim (name : List Char)
deriving DecidableEq

namespace Host

def decimalValue? (digits : List Char) : Option Nat :=
  if digits.all Char.isDigit then
    some (digits.foldl (fun value char => value * 10 + (char.toNat - 48)) 0)
  else none

def octalValue? (digits : List Char) : Option Nat :=
  if digits.all fun char => '0' ≤ char ∧ char ≤ '7' then
    some (digits.foldl (fun value char => value * 8 + (char.toNat - 48)) 0)
  else none

def hexadecimalValue? (digits : List Char) : Option Nat :=
  (digits.mapM Bytes.hexValue?).map fun values =>
    values.foldl (fun value digit => value * 16 + digit) 0

def part? (text : List Char) : Option Nat :=
  match text with
  | [] => none
  | '0' :: 'x' :: digits => hexadecimalValue? digits
  | '0' :: 'X' :: digits => hexadecimalValue? digits
  | '0' :: first :: digits => octalValue? (first :: digits)
  | _ => decimalValue? text

def parts (name : List Char) : List (List Char) :=
  let pieces := Text.splitWhere (· = '.') name
  if pieces.getLast? = some [] then pieces.dropLast else pieces

/-- A name whose last part is a number is read as a number. -/
def endsInNumber (name : List Char) : Bool :=
  match (parts name).getLast? with
  | none => false
  | some [] => false
  | some last => last.all Char.isDigit ∨ (part? last).isSome

/-- Up to four parts; the last one fills the bytes that the others leave. -/
def fourByte? (name : List Char) : Option Nat := do
  let numbers ← (parts name).mapM part?
  let last ← numbers.getLast?
  let heads := numbers.dropLast
  let room := Nat.pow 256 (4 - heads.length)
  if heads.length ≤ 3 ∧ (heads.all fun number => number < 256) ∧ last < room then
    some (heads.foldl (fun value number => value * 256 + number) 0 * room + last)
  else none

/-- Four decimal numbers below 256 without leading zeros, as two groups. -/
def embedded? (text : List Char) : Option (List Nat) :=
  match (Text.splitWhere (· = '.') text).mapM fun part =>
      if part = ['0'] ∨ (part ≠ [] ∧ part.head? ≠ some '0' ∧ part.length ≤ 3) then
        (decimalValue? part).filter (· < 256)
      else none with
  | some [a, b, c, d] => some [a * 256 + b, c * 256 + d]
  | _ => none

def group? (text : List Char) : Option Nat :=
  if text.isEmpty ∨ 4 < text.length then none else hexadecimalValue? text

/-- Groups with colons between them; the last piece may be a number in four parts. -/
def groups? (text : List Char) : Option (List Nat) :=
  if text.isEmpty then some []
  else
    let pieces := Text.splitWhere (· = ':') text
    match pieces.getLast? with
    | some last =>
        if last.contains '.' then do
          return (← pieces.dropLast.mapM group?) ++ (← embedded? last)
        else pieces.mapM group?
    | none => none

/-- What stands before and after the first pair of colons. -/
def splitGap? : List Char → Option (List Char × List Char)
  | [] => none
  | ':' :: ':' :: rest => some ([], rest)
  | char :: rest => (splitGap? rest).map fun (before, after) => (char :: before, after)

/-- Eight groups, of which a pair of colons stands for one or more that are zero. -/
def sixteenByte? (text : List Char) : Option (List Nat) :=
  match splitGap? text with
  | none => (groups? text).filter fun groups => groups.length = 8
  | some (before, after) => do
      let front ← groups? before
      let back ← groups? after
      if before.contains '.' ∨ 8 ≤ front.length + back.length then none
      else some (front ++ List.replicate (8 - front.length - back.length) 0 ++ back)

def ofText? (text : List Char) : Option Host :=
  match text with
  | '[' :: inner =>
      if inner.getLast? = some ']' then (sixteenByte? inner.dropLast).map .sixteenByte else none
  | _ => do
      let decoded ← Bytes.toText? (Percent.decode text)
      let name ← Domain.canonical? decoded.toList
      if name.isEmpty then none
      else if endsInNumber name then (fourByte? name).map .fourByte
      else some (.domain name)

/-- Characters that no host holds, whatever the scheme. -/
def isSeparator (char : Char) : Bool :=
  "\x00\t\n\x0d #/:<>?@[\\]^|".toList.contains char

def verbatim? (text : List Char) : Option Host :=
  match text with
  | '[' :: inner =>
      if inner.getLast? = some ']' then (sixteenByte? inner.dropLast).map .sixteenByte else none
  | _ =>
      if text.any isSeparator then none
      else some (.verbatim (Percent.encode Percent.inControls text))

def writeFourByte (address : Nat) : List Char :=
  Text.joinWith '.' ((Bytes.ofNatBig 4 address).map fun byte => (toString byte.toNat).toList)

def zeroRun (groups : List Nat) : Nat :=
  (groups.takeWhile (· = 0)).length

/-- The longest run of zeros: how many groups stand before it, and how many it has. -/
def longestRun : List Nat → Nat × Nat
  | [] => (0, 0)
  | group :: rest =>
      let here := zeroRun (group :: rest)
      let (before, length) := longestRun rest
      if here < length ∨ here = 0 then (before + 1, length) else (0, here)

def writeGroups (groups : List Nat) : List Char :=
  Text.joinWith ':' (groups.map Text.hexNumber)

/-- The first longest run of two or more zeros is written as a pair of colons. -/
def writeSixteenByte (groups : List Nat) : List Char :=
  let (before, length) := longestRun groups
  if length < 2 then writeGroups groups
  else
    writeGroups (groups.take before) ++ [':', ':'] ++ writeGroups (groups.drop (before + length))

def write : Host → List Char
  | .domain name => name
  | .fourByte address => writeFourByte address
  | .sixteenByte groups => '[' :: writeSixteenByte groups ++ [']']
  | .verbatim name => name

end Host

end SealedContent.Web
