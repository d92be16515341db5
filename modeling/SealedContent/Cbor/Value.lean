import SealedContent.Content.Cid

/-!
The values that records are made of, and their canonical binary form: shortest heads, map keys in
order of length and then of bytes, links as tagged identifiers.
-/

namespace SealedContent.Cbor

open Content (Cid)

inductive Value where
  | unsigned (value : Nat)
  | text (value : String)
  | list (items : List Value)
  | map (fields : List (String × Value))
  | link (cid : Cid)

/-- The head of an item: its major type with an argument in the shortest form. -/
def head (major argument : Nat) : Bytes :=
  let lead (code : Nat) : UInt8 := UInt8.ofNat (major * 32 + code)
  if argument < 24 then [lead argument]
  else if argument < UInt8.size then lead 24 :: Bytes.ofNatBig 1 argument
  else if argument < UInt16.size then lead 25 :: Bytes.ofNatBig 2 argument
  else if argument < UInt32.size then lead 26 :: Bytes.ofNatBig 4 argument
  else lead 27 :: Bytes.ofNatBig 8 argument

/-- Shorter keys come first, and keys of one length in the order of their bytes. -/
def keyBefore (left right : String) : Bool :=
  let leftBytes := Bytes.ofText left
  let rightBytes := Bytes.ofText right
  leftBytes.length < rightBytes.length ∨
    (leftBytes.length = rightBytes.length ∧ leftBytes < rightBytes)

def insertField {α : Type} (field : String × α) : List (String × α) → List (String × α)
  | [] => [field]
  | other :: rest =>
      if keyBefore field.1 other.1 then field :: other :: rest
      else other :: insertField field rest

def sortFields {α : Type} (fields : List (String × α)) : List (String × α) :=
  fields.foldr insertField []

def encodeText (value : String) : Bytes :=
  let bytes := Bytes.ofText value
  head 3 bytes.length ++ bytes

def linkTag : Nat := 42

def encodeLink (cid : Cid) : Bytes :=
  let bytes := 0 :: cid.toBytes
  head 6 linkTag ++ head 2 bytes.length ++ bytes

mutual

def Value.encode : Value → Bytes
  | .unsigned value => head 0 value
  | .text value => encodeText value
  | .list items => head 4 items.length ++ encodeItems items
  | .map fields =>
      head 5 fields.length ++ ((sortFields (encodeFields fields)).flatMap fun field =>
        encodeText field.1 ++ field.2)
  | .link cid => encodeLink cid

def encodeItems : List Value → Bytes
  | [] => []
  | item :: rest => item.encode ++ encodeItems rest

def encodeFields : List (String × Value) → List (String × Bytes)
  | [] => []
  | (key, value) :: rest => (key, value.encode) :: encodeFields rest

end

end SealedContent.Cbor
