import SealedContent.Cipher.KeyMaterial
import SealedContent.Custody.Wrap
import SealedContent.Hash.Sha256

/-!
Custody by a threshold network. The network encrypts a key under conditions that name the space, and
releases it to whoever meets them; what it releases is checked against a hash.
-/

namespace SealedContent.Custody

open Cipher (KeyMaterial)
open Record (AccessCondition Metadata ThresholdRecord)

structure ReleaseRequest where
  ciphertext : String
  keyHash : String
  conditions : List AccessCondition
  invocation : SignedInvocation

structure ThresholdNetwork (σ : Type) where
  did : String
  encrypt : Bytes → List AccessCondition → σ → Except CustodyError String × σ
  release : ReleaseRequest → σ → Except CustodyError Bytes × σ

namespace ThresholdNetwork

variable {σ : Type}

def describe (network : ThresholdNetwork σ) : String :=
  s!"ThresholdKeyWrap \x7b network: {Text.quoted network.did} \x7d"

def keyHash (combined : Bytes) : String :=
  (Hash.sha256 combined).toHex

def wrap (network : ThresholdNetwork σ) (material : KeyMaterial) (requester : Requester)
    (state : σ) : Except CustodyError WrappedKey × σ :=
  match requester.namedSpace? with
  | none => (.error (.missingParameters ["space"]), state)
  | some space =>
      let conditions := [AccessCondition.spaceAuthority space]
      match network.encrypt material.combined conditions state with
      | (.error error, after) => (.error error, after)
      | (.ok ciphertext, after) =>
          (.ok ⟨.thresholdNetwork, .threshold (keyHash material.combined) conditions, ciphertext⟩,
            after)

def invocation (network : ThresholdNetwork σ) (issuer : Issuer) (space : String)
    (fields : ThresholdRecord) (proofs : List String) (moment : Moment) : Invocation :=
  Invocation.make issuer network.did Ability.contentDecrypt space
    (.ofFields [("resource", .string fields.dataCid.toText)]) proofs moment

/-- What was released counts only if it has the hash that the record gives. -/
def materialOf (fields : ThresholdRecord) (combined : Bytes) : Except CustodyError KeyMaterial :=
  if keyHash combined = fields.keyHash then (KeyMaterial.split combined).mapError .cipher
  else .error (.invalidResponse .keyHash)

/-- Has the network release a key, if the requester may ask and the record is of its kind. -/
def unwrap (suite : Suite) (network : ThresholdNetwork σ) (moment : Moment)
    (encryptedKey : String) (metadata : Metadata) (requester : Requester) (state : σ) :
    Except CustodyError KeyMaterial × σ :=
  match requester.authority with
  | .error error => (.error error, state)
  | .ok (space, issuer) =>
      match metadata with
      | .service _ => (.error (.strategyMismatch .thresholdNetwork .keyService), state)
      | .threshold fields =>
          match (network.invocation issuer space fields requester.proofs moment).sign
              suite.signing issuer with
          | .error error => (.error error, state)
          | .ok signed =>
              match network.release ⟨encryptedKey, fields.keyHash, fields.conditions, signed⟩
                  state with
              | (.error error, after) => (.error error, after)
              | (.ok combined, after) => (materialOf fields combined, after)

end ThresholdNetwork

end SealedContent.Custody
