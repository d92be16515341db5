import SealedContent.Bytes.Hex
import SealedContent.Toml.Value

/-!
Writing a TOML document of sections. A string takes the first of five forms that needs no escape
in it: quoted, literal, quoted over several lines, literal over several lines; failing these, it is
quoted with escapes.
-/

namespace SealedContent.Toml

/-- A control character other than those that some form of string can hold. -/
def isControl (char : Char) : Bool :=
  (char.toNat < 0x20 ∧ char ≠ '\t' ∧ char ≠ '\n') ∨ char.toNat = 0x7f

def longestRun (char : Char) (chars : List Char) : Nat :=
  (chars.foldl (fun (longest, run) next =>
    let run := if next = char then run + 1 else 0
    (max longest run, run)) (0, 0)).1

def escapeChar (keepNewline : Bool) (char : Char) : List Char :=
  match char with
  | '\x08' => ['\\', 'b']
  | '\t' => ['\\', 't']
  | '\n' => if keepNewline then ['\n'] else ['\\', 'n']
  | '\x0c' => ['\\', 'f']
  | '\r' => ['\\', 'r']
  | '"' => if keepNewline then ['"'] else ['\\', '"']
  | '\\' => ['\\', '\\']
  | _ =>
      if char.toNat < 0x20 ∨ char.toNat = 0x7f then
        let digit (value : Nat) : Char := (Bytes.hexDigit value).toUpper
        ['\\', 'u', '0', '0', digit (char.toNat / 16), digit (char.toNat % 16)]
      else [char]

def writeString (text : String) : List Char :=
  let chars := text.toList
  let hasControl := chars.any isControl
  let hasBackslash := chars.contains '\\'
  let hasNewline := chars.contains '\n'
  let doubles := longestRun '"' chars
  let singles := longestRun '\'' chars
  let opening : List Char := if hasNewline then ['\n'] else []
  let threeDoubles : List Char := ['"', '"', '"']
  let threeSingles : List Char := ['\'', '\'', '\'']
  if ¬ hasControl ∧ ¬ hasBackslash ∧ doubles = 0 ∧ ¬ hasNewline then
    '"' :: chars.flatMap (escapeChar false) ++ ['"']
  else if ¬ hasControl ∧ singles = 0 ∧ ¬ hasNewline then
    '\'' :: chars ++ ['\'']
  else if ¬ hasControl ∧ ¬ hasBackslash ∧ doubles < 3 then
    threeDoubles ++ opening ++ chars.flatMap (escapeChar true) ++ threeDoubles
  else if ¬ hasControl ∧ singles < 3 then
    threeSingles ++ opening ++ chars ++ threeSingles
  else '"' :: chars.flatMap (escapeChar false) ++ ['"']

inductive Scalar where
  | string (text : String)
  | natural (value : Nat)
  | boolean (value : Bool)
deriving DecidableEq

def Scalar.write : Scalar → List Char
  | .string text => writeString text
  | .natural value => (toString value).toList
  | .boolean true => "true".toList
  | .boolean false => "false".toList

structure WrittenSection where
  name : String
  fields : List (String × Scalar)

def WrittenSection.write (part : WrittenSection) : List Char :=
  '[' :: part.name.toList ++ ']' :: '\n' :: part.fields.flatMap fun (key, value) =>
    key.toList ++ " = ".toList ++ value.write ++ ['\n']

/-- Sections with an empty line between them. -/
def writeDocument (parts : List WrittenSection) : String :=
  String.ofList ((parts.map WrittenSection.write).intersperse ['\n']).flatten

end SealedContent.Toml
