import SealedContent.Json.Value

/-!
Reading structures of known fields from JSON: from an object, in which unknown fields are ignored
and no known one is repeated, or from an array of all fields in order.
-/

namespace SealedContent.Json

/-- The value of a field that occurs exactly once. -/
def onlyField? {α : Type} (name : String) (fields : List (String × α)) : Option α :=
  match fields.filter fun field => field.1 = name with
  | [(_, value)] => some value
  | _ => none

namespace Written

/-- The fields of an object with keys that some text spells. -/
def fields? : Written → Option (List (String × Written))
  | .object fields => fields.mapM fun (key, value) => key.map fun name => (name, value)
  | _ => none

def record? (names : List String) (written : Written) : Option (List Written) :=
  match written with
  | .array items => if items.length = names.length then some items else none
  | .object _ => do
      let fields ← written.fields?
      names.mapM fun name => onlyField? name fields
  | _ => none

end Written

namespace Value

def record? (names : List String) : Value → Option (List Value)
  | .array items => if items.length = names.length then some items else none
  | .object fields => names.mapM fun name => fields.lookup name
  | _ => none

end Value

end SealedContent.Json
