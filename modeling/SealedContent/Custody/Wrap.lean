import SealedContent.Custody.Invocation
import SealedContent.Record.Basic

/-!
Wrapped content keys, and the requests to wrap a key or to get it back.
-/

namespace SealedContent.Custody

open Content (Cid)
open Record (AccessCondition Metadata ServiceKeyInfo)

/-- What a kind of custody adds to a metadata record. -/
inductive WrapDetails where
  | service (space : String) (keyInfo : ServiceKeyInfo)
  | threshold (keyHash : String) (conditions : List AccessCondition)

structure WrappedKey where
  kind : CustodyKind
  details : WrapDetails
  encryptedKey : String

namespace WrappedKey

def record (wrapped : WrappedKey) (dataCid : Cid) : Metadata :=
  match wrapped.details with
  | .service space keyInfo => .service ⟨dataCid, wrapped.encryptedKey, space, keyInfo⟩
  | .threshold keyHash conditions =>
      .threshold ⟨dataCid, wrapped.encryptedKey, keyHash, conditions⟩

def toMetadata (wrapped : WrappedKey) (dataCid : Cid) : Except CustodyError Metadata :=
  (wrapped.record dataCid).validated.mapError .block

end WrappedKey

/-- Who asks, for which space, and on the strength of which proofs. -/
structure Requester where
  space : Option String
  issuer : Option Issuer
  proofs : List String

namespace Requester

/-- A blank space is no space. -/
def namedSpace? (requester : Requester) : Option String :=
  requester.space.filter fun space => ¬ Text.onlyBlank space

/-- What a wrap by a key service needs. -/
def identity (requester : Requester) : Except CustodyError (String × Issuer) :=
  match requester.namedSpace?, requester.issuer with
  | some space, some issuer => .ok (space, issuer)
  | space, issuer =>
      .error (.missingParameters ((if space.isNone then ["space"] else []) ++
        if issuer.isNone then ["issuer"] else []))

/-- The names of what an unwrap needs and the requester does not bring. -/
def missing (requester : Requester) : List String :=
  (if requester.namedSpace?.isNone then ["space"] else []) ++
    (if requester.proofs.isEmpty then ["delegation"] else []) ++
    if requester.issuer.isNone then ["issuer"] else []

/-- What an unwrap needs: a space, an issuer and at least one proof. -/
def authority (requester : Requester) : Except CustodyError (String × Issuer) :=
  match requester.missing, requester.namedSpace?, requester.issuer with
  | [], some space, some issuer => .ok (space, issuer)
  | names, _, _ => .error (.missingParameters names)

end Requester

end SealedContent.Custody
