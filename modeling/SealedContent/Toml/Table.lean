import SealedContent.Toml.Value

/-!
Tables while a document is read. A table remembers how it came about, because a table that was
once defined must not be defined again or extended from elsewhere.
-/

namespace SealedContent.Toml

inductive Origin where
  /-- Defined under a header of its own. -/
  | header
  /-- Implied by the header of a table inside it. -/
  | implied
  /-- Made by a dotted key. -/
  | dotted
deriving DecidableEq

inductive Item where
  | value (value : Value)
  | table (origin : Origin) (fields : List (String × Item))
  /-- The tables under one repeated header, the last one first. -/
  | tables (last : List (String × Item)) (earlier : List (List (String × Item)))

abbrev Fields := List (String × Item)

namespace Fields

def replace (key : String) (item : Item) : Fields → Fields
  | [] => [(key, item)]
  | (other, present) :: rest =>
      if key = other then (key, item) :: rest else (other, present) :: replace key item rest

def updateAt (byDots : Bool) (change : Bool → Fields → Option Fields) :
    List String → Bool → Fields → Option Fields
  | [], isDotted, fields => change isDotted fields
  | key :: path, _, fields =>
      match fields.lookup key with
      | none => do
          let inner ← updateAt byDots change path byDots []
          return fields ++ [(key, .table (if byDots then .dotted else .implied) inner)]
      | some (.value _) => none
      | some (.tables last earlier) => do
          let inner ← updateAt byDots change path false last
          return replace key (.tables inner earlier) fields
      | some (.table origin inner) =>
          if byDots ∧ origin = .header then none
          else do
            let changed ← updateAt byDots change path (origin = .dotted) inner
            return replace key (.table origin changed) fields

/-- Adds a value under a key path. The key must be new, and a dotted path must end in a table made
by dotted keys. -/
def insertValue? (path : List String) (value : Value) (fields : Fields) : Option Fields :=
  match path.getLast? with
  | none => none
  | some key =>
      let parents := path.dropLast
      let add (isDotted : Bool) (table : Fields) : Option Fields :=
        if (isDotted ∨ parents.isEmpty) ∧ (table.lookup key).isNone then
          some (table ++ [(key, .value value)])
        else none
      updateAt true add parents false fields

/-- What a table holds before the lines under its header: an implied table is completed, any other
entry is a repetition. -/
def openTable? (key : String) (parent : Fields) : Option Fields :=
  match parent.lookup key with
  | none => some []
  | some (.table .implied inner) => some inner
  | some _ => none

def closeTable? (key : String) (table : Fields) (parent : Fields) : Option Fields :=
  match parent.lookup key with
  | none => some (parent ++ [(key, .table .header table)])
  | some (.table .implied _) => some (replace key (.table .header table) parent)
  | some _ => none

def appendTable? (key : String) (table : Fields) (parent : Fields) : Option Fields :=
  match parent.lookup key with
  | none => some (parent ++ [(key, .tables table [])])
  | some (.tables last earlier) => some (replace key (.tables table (last :: earlier)) parent)
  | some _ => none

end Fields

mutual

def Item.toValue : Item → Value
  | .value value => value
  | .table _ fields => .table (fieldValues fields)
  | .tables last earlier => .array (tableValues earlier [.table (fieldValues last)])

def fieldValues : List (String × Item) → List (String × Value)
  | [] => []
  | (key, item) :: rest => (key, item.toValue) :: fieldValues rest

/-- Tables that are listed last first, in their order, before those that come after them. -/
def tableValues : List (List (String × Item)) → List Value → List Value
  | [], after => after
  | fields :: earlier, after => tableValues earlier (.table (fieldValues fields) :: after)

end

end SealedContent.Toml
