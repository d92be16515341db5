import SealedContent.Custody.Error
import SealedContent.Json.Record

/-!
Receipts: what a peer answers to an invocation, either a value or a failure with a name.
-/

namespace SealedContent.Custody

open Json (Value Written)

structure Failure where
  name : String
  message : String
deriving DecidableEq

inductive Receipt where
  | ok (value : Value)
  | error (failure : Failure)

namespace Receipt

def failure? (written : Written) : Option Failure := do
  match ← written.record? ["name", "message"] with
  | [.string name, .string message] => return ⟨← name, ← message⟩
  | _ => none

/-- Reads a receipt: an object with one field, which says what it is. -/
def ofText? (text : String) : Option Receipt := do
  let written ← Written.read? text
  match ← written.fields? with
  | [("ok", value)] => (Written.toValue? (Value.depthLimit - 1) value).map .ok
  | [("error", body)] => (failure? body).map .error
  | _ => none

def toText : Receipt → String
  | .ok value => Value.render (.object [("ok", value)])
  | .error failure =>
      Value.render (.object [("error",
        .object [("name", .string failure.name), ("message", .string failure.message)])])

def result : Receipt → Except CustodyError Value
  | .ok value => .ok value
  | .error failure => .error (.remote failure.name failure.message)

end Receipt

end SealedContent.Custody
