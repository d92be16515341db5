import SealedContent.Toml.Lexeme
import SealedContent.Toml.Table

/-!
Reading a TOML document into one table. Arrays and inline tables nest to a limit, and so do the
parts of a key.
-/

namespace SealedContent.Toml

open Lexeme

/-- Levels of arrays and inline tables, and parts of a key. -/
def depthLimit : Nat := 79

/-- Reads the rest of an array up to its closing bracket. -/
def readItems? (read : List Char → Option (Value × List Char)) :
    Nat → List Value → List Char → Option (List Value × List Char)
  | 0, _, _ => none
  | fuel + 1, done, input =>
      match skipLines input.length input with
      | ']' :: rest => some (done.reverse, rest)
      | item => do
          let (value, afterValue) ← read item
          match skipLines afterValue.length afterValue with
          | ']' :: rest => some ((value :: done).reverse, rest)
          | ',' :: rest => readItems? read fuel (value :: done) rest
          | _ => none

def readPair? (read : List Char → Option (Value × List Char)) (input : List Char) :
    Option ((List String × Value) × List Char) := do
  let (path, afterKey) ← key? depthLimit input
  let afterSign ← literal? '=' afterKey
  let (value, rest) ← read (skipSpace afterSign)
  return ((path, value), rest)

/-- Reads the pairs of an inline table, which stands on one line, up to its closing brace. -/
def readPairs? (read : List Char → Option (Value × List Char)) :
    Nat → Fields → List Char → Option (Fields × List Char)
  | 0, _, _ => none
  | fuel + 1, fields, input => do
      let ((path, value), afterPair) ← readPair? read input
      let fields ← Fields.insertValue? path value fields
      match skipSpace afterPair with
      | '\x7d' :: rest => some (fields, rest)
      | ',' :: rest => readPairs? read fuel fields rest
      | _ => none

def readNumber? (input : List Char) : Option (Value × List Char) :=
  let spelled (rest : List Char) : String := String.ofList (input.take (input.length - rest.length))
  match moment? input with
  | some rest => some (.moment (spelled rest), rest)
  | none =>
      match float? input with
      | some rest => some (.float (spelled rest), rest)
      | none => (integer? input).map fun (value, rest) => (.integer value, rest)

/-- Reads a value, with as many levels of nesting as are left. -/
def readValue? (depth : Nat) (input : List Char) : Option (Value × List Char) :=
  match input with
  | [] => none
  | '"' :: _ | '\'' :: _ => (string? input).map fun (text, rest) => (.string text, rest)
  | '[' :: rest =>
      match depth with
      | 0 => none
      | inner + 1 =>
          (readItems? (readValue? inner) rest.length [] rest).map fun (items, after) =>
            (.array items, after)
  | '\x7b' :: rest =>
      match depth with
      | 0 => none
      | inner + 1 =>
          match skipSpace rest with
          | '\x7d' :: after => some (.table [], after)
          | pairs =>
              (readPairs? (readValue? inner) pairs.length [] pairs).map fun (fields, after) =>
                (.table (fieldValues fields), after)
  | 't' :: _ => (keyword? ["true"] input).map fun rest => (.boolean true, rest)
  | 'f' :: _ => (keyword? ["false"] input).map fun rest => (.boolean false, rest)
  | _ => readNumber? input

structure Section where
  path : List String
  repeated : Bool
  fields : Fields

structure Reading where
  root : Fields
  current : Section

namespace Reading

def start : Reading :=
  ⟨[], ⟨[], false, []⟩⟩

def close? (reading : Reading) : Option Fields :=
  match reading.current.path.getLast? with
  | none => some reading.current.fields
  | some key =>
      let put (_ : Bool) (parent : Fields) : Option Fields :=
        if reading.current.repeated then Fields.appendTable? key reading.current.fields parent
        else Fields.closeTable? key reading.current.fields parent
      Fields.updateAt false put reading.current.path.dropLast false reading.root

/-- The fields of the table at the end of a path, as far as it exists. -/
def fieldsAt? : List String → Fields → Option Fields
  | [], fields => some fields
  | key :: path, fields =>
      match fields.lookup key with
      | none => some []
      | some (.value _) => none
      | some (.tables last _) => fieldsAt? path last
      | some (.table _ inner) => fieldsAt? path inner

def header? (repeated : Bool) (path : List String) (reading : Reading) : Option Reading := do
  let root ← reading.close?
  let key ← path.getLast?
  let parent ← fieldsAt? path.dropLast root
  let fields ←
    if repeated then
      match parent.lookup key with
      | none => some []
      | some (.tables ..) => some []
      | some _ => none
    else Fields.openTable? key parent
  return ⟨root, ⟨path, repeated, fields⟩⟩

def pair? (path : List String) (value : Value) (reading : Reading) : Option Reading := do
  let fields ← Fields.insertValue? path value reading.current.fields
  return { reading with current := { reading.current with fields := fields } }

def readHeader? (repeated : Bool) (input : List Char) (reading : Reading) :
    Option (Reading × List Char) := do
  let (path, afterKey) ← key? depthLimit input
  let afterClose ← literal? ']' afterKey
  let afterClose ← if repeated then literal? ']' afterClose else some afterClose
  let rest ← endLine? afterClose
  let reading ← reading.header? repeated path
  return (reading, rest)

/-- Reads one line that holds something, or skips an empty one. -/
def readLine? (input : List Char) (reading : Reading) : Option (Reading × List Char) :=
  match skipSpace input with
  | '[' :: '[' :: rest => reading.readHeader? true rest
  | '[' :: rest => reading.readHeader? false rest
  | line@(char :: _) =>
      if char = '#' ∨ char = '\n' ∨ char = '\r' then
        (endLine? line).map fun rest => (reading, rest)
      else do
        let ((path, value), afterPair) ← readPair? (readValue? depthLimit) line
        let rest ← endLine? afterPair
        let reading ← reading.pair? path value
        return (reading, rest)
  | [] => some (reading, [])

def readLines? : Nat → List Char → Reading → Option Reading
  | 0, _, reading => some reading
  | fuel + 1, input, reading =>
      if input.isEmpty then some reading
      else do
        let (next, rest) ← reading.readLine? input
        readLines? fuel rest next

end Reading

/-- The table of a whole document. A byte order mark before it is skipped. -/
def read? (text : String) : Option (List (String × Value)) := do
  let chars := text.toList
  let input := if chars.head? = some '\uFEFF' then chars.drop 1 else chars
  let reading ← Reading.readLines? (input.length + 1) input Reading.start
  let root ← reading.close?
  return fieldValues root

end SealedContent.Toml
