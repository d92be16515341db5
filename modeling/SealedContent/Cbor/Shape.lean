import SealedContent.Cbor.Value

/-!
Reading values of a known shape. The reader takes more than the canonical form: heads of any width,
keys in any order, strings in chunks, unknown fields, and for some heads a neighbouring major type.
It refuses repeated and missing fields, and nesting beyond a limit.
-/

namespace SealedContent.Cbor

open Content (Cid)

/-- What is expected at a place. A record lists its fields by name. -/
inductive Shape where
  | unsigned
  | text
  | link
  | list (item : Shape)
  | record (fields : List (String × Shape))

/-- Levels of nesting that a reader goes into. -/
def depthLimit : Nat := 256

/-- The argument of a head, by the code in its first byte. -/
def readArgument? (code : Nat) (rest : Bytes) : Option (Nat × Bytes) :=
  let wide (size : Nat) : Option (Nat × Bytes) :=
    let bytes := rest.take size
    if bytes.length = size then some (Bytes.bigEndian bytes, rest.drop size) else none
  if code < 24 then some (code, rest)
  else if code = 24 then wide 1
  else if code = 25 then wide 2
  else if code = 26 then wide 4
  else if code = 27 then wide 8
  else none

def readHead? (majors : List Nat) (input : Bytes) : Option (Nat × Bytes) :=
  match input with
  | [] => none
  | first :: rest =>
      if first.toNat / 32 ∈ majors then readArgument? (first.toNat % 32) rest else none

/-- The head of each kind of item is taken for some other major types as well. -/
def textMajors : List Nat := [0, 1, 2, 3]

def bytesMajors : List Nat := [0, 2]

def listMajors : List Nat := [0, 4]

def mapMajors : List Nat := [0, 1, 4, 5]

def tagMajors : List Nat := [0, 2, 4, 6]

def takeExactly? (length : Nat) (input : Bytes) : Option (Bytes × Bytes) :=
  let taken := input.take length
  if taken.length = length then some (taken, input.drop length) else none

/-- Reads with `read` until a break byte; the fuel bounds the turns. -/
def untilBreak? {α : Type} (read : Bytes → Option (α × Bytes)) :
    Nat → Bytes → Option (List α × Bytes)
  | 0, _ => none
  | _ + 1, [] => none
  | fuel + 1, first :: rest =>
      if first = 0xff then some ([], rest)
      else do
        let (item, after) ← read (first :: rest)
        let (items, last) ← untilBreak? read fuel after
        return (item :: items, last)

/-- Reads a string of bytes whose indefinite form has a first byte of its own; chunks may be
indefinite again. -/
def readString? (indefinite : UInt8) (majors : List Nat) : Nat → Bytes → Option (Bytes × Bytes)
  | depth, input =>
      if input.head? = some indefinite then
        match depth with
        | 0 => none
        | inner + 1 => do
            let (chunks, rest) ←
              untilBreak? (readString? indefinite majors inner) input.length (input.drop 1)
            return (chunks.flatten, rest)
      else do
        let (length, rest) ← readHead? majors input
        takeExactly? length rest

def readText? (depth : Nat) (input : Bytes) : Option (String × Bytes) := do
  let (bytes, rest) ← readString? 0x7f textMajors depth input
  let text ← Bytes.toText? bytes
  return (text, rest)

/-- The identifier in a link is preceded by a zero byte; bytes after it are ignored. -/
def readLink? (depth : Nat) (input : Bytes) : Option (Cid × Bytes) := do
  let (tag, tagged) ← readHead? tagMajors input
  let first ← tagged.head?
  if tag = linkTag ∧ first.toNat / 32 = 2 then
    let (bytes, rest) ← readString? 0x5f bytesMajors depth tagged
    match bytes with
    | 0 :: content => do
        let cid ← Cid.ofBytes? content
        return (cid, rest)
    | _ => none
  else none

def skipMany? (skip : Bytes → Option Bytes) : Nat → Bytes → Option Bytes
  | 0, input => some input
  | count + 1, input => (skip input).bind (skipMany? skip count)

def skip? : Nat → Bytes → Option Bytes
  | 0, _ => none
  | inner + 1, input =>
      match input with
      | [] => none
      | first :: rest =>
          let major := first.toNat / 32
          let code := first.toNat % 32
          let items (perTurn : Nat) : Option Bytes :=
            if code = 31 then
              let read (input : Bytes) : Option (Unit × Bytes) :=
                (skipMany? (skip? inner) perTurn input).map fun after => ((), after)
              (untilBreak? read input.length rest).map Prod.snd
            else do
              let (count, after) ← readArgument? code rest
              skipMany? (skip? inner) (perTurn * count) after
          if major < 2 then (readArgument? code rest).map Prod.snd
          else if major < 4 then
            if code = 31 then items 1
            else do
              let (length, after) ← readArgument? code rest
              (takeExactly? length after).map Prod.snd
          else if major = 4 then items 1
          else if major = 5 then items 2
          else if major = 6 then do
            let (_, after) ← readArgument? code rest
            skip? inner after
          else if code = 20 ∨ code = 21 ∨ code = 22 ∨ code = 23 then some rest
          else if code = 25 then (takeExactly? 2 rest).map Prod.snd
          else if code = 26 then (takeExactly? 4 rest).map Prod.snd
          else if code = 27 then (takeExactly? 8 rest).map Prod.snd
          else none

/-- Readers are given the levels of nesting that are left. -/
abbrev Reader := Nat → Bytes → Option (Value × Bytes)

def readItems? (read : Bytes → Option (Value × Bytes)) :
    Nat → Bytes → Option (List Value × Bytes)
  | 0, input => some ([], input)
  | count + 1, input => do
      let (item, after) ← read input
      let (items, rest) ← readItems? read count after
      return (item :: items, rest)

/-- Reads fields onto those read before; a known field may come only once. -/
def readFields? (readers : List (String × Reader)) (depth : Nat) :
    Nat → List (String × Value) → Bytes → Option (List (String × Value) × Bytes)
  | 0, done, input => some (done, input)
  | count + 1, done, input => do
      let (key, afterKey) ← readText? depth input
      match readers.lookup key with
      | none => do
          let rest ← skip? depth afterKey
          readFields? readers depth count done rest
      | some read =>
          if (done.lookup key).isSome then none
          else do
            let (value, rest) ← read depth afterKey
            readFields? readers depth count ((key, value) :: done) rest

/-- The fields of a record in the order of its shape, if none is missing. -/
def arrange? (names : List String) (fields : List (String × Value)) :
    Option (List (String × Value)) :=
  names.mapM fun name => (fields.lookup name).map fun value => (name, value)

def readList? (read : Reader) : Reader
  | 0, _ => none
  | inner + 1, input => do
      let (count, rest) ← readHead? listMajors input
      let (items, after) ← readItems? (read inner) count rest
      return (.list items, after)

def readRecord? (readers : List (String × Reader)) : Reader
  | 0, _ => none
  | inner + 1, input => do
      let (count, rest) ← readHead? mapMajors input
      let (fields, after) ← readFields? readers inner count [] rest
      let arranged ← arrange? (readers.map Prod.fst) fields
      return (.map arranged, after)

mutual

def Shape.reader : Shape → Reader
  | .unsigned => fun _ input =>
      (readHead? [0] input).map fun (value, rest) => (.unsigned value, rest)
  | .text => fun depth input =>
      (readText? depth input).map fun (value, rest) => (.text value, rest)
  | .link => fun depth input =>
      (readLink? depth input).map fun (cid, rest) => (.link cid, rest)
  | .list item => readList? item.reader
  | .record fields => readRecord? (fieldReaders fields)

def fieldReaders : List (String × Shape) → List (String × Reader)
  | [] => []
  | (name, shape) :: rest => (name, shape.reader) :: fieldReaders rest

end

def Shape.read? (shape : Shape) (input : Bytes) : Option Value :=
  match shape.reader depthLimit input with
  | some (value, []) => some value
  | _ => none

/-- Reads a whole input that holds one value with a tag before it, as a map of one entry or bare.
The tag decides the shape. -/
def readTagged? (shapes : List (String × Shape)) (input : Bytes) : Option (String × Value) := do
  let first ← input.head?
  let tagged ←
    if first = 0xa1 then some (input.drop 1)
    else if first.toNat / 32 = 3 then some input
    else none
  let (tag, body) ← readText? depthLimit tagged
  let shape ← shapes.lookup tag
  let value ← shape.read? body
  return (tag, value)

end SealedContent.Cbor
