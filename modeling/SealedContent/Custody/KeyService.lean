import SealedContent.Cipher.KeyMaterial
import SealedContent.Custody.Endpoint
import SealedContent.Custody.KeyReference
import SealedContent.Custody.Wrap

/-!
Custody by a key service. A key is wrapped here, for the recipient that the service names for a
space; only the service can unwrap it.
-/

namespace SealedContent.Custody

open Cipher (KeyMaterial)
open Json (Value)
open Record (ServiceRecord)
open Web (Url)

/-- What a service answers when it is asked for the key of a space. -/
structure EncryptionSetup where
  publicKey : String
  algorithm : String
  provider : String
  keyReference : String

def EncryptionSetup.ofValue? (value : Value) : Option EncryptionSetup :=
  match value.record? ["publicKey", "algorithm", "provider", "keyReference"] with
  | some [.string publicKey, .string algorithm, .string provider, .string keyReference] =>
      some ⟨publicKey, algorithm, provider, keyReference⟩
  | _ => none

def decryptedKey? (value : Value) : Option String :=
  match value.record? ["decryptedSymmetricKey"] with
  | some [.string text] => some text
  | _ => none

structure KeyService where
  endpoint : Url
  did : String

namespace KeyService

def algorithm : String := "age-x25519"

/-- A service at an address, which has to be secure unless plain ones are allowed. -/
def connect (address did : String) (allowPlain : Bool) : Except CustodyError KeyService :=
  (Endpoint.ofText address allowPlain).map fun endpoint => ⟨endpoint, did⟩

def describe (service : KeyService) : String :=
  s!"KmsKeyWrap \x7b endpoint: {Text.quoted service.endpoint.toText}, " ++
    s!"service_did: {Text.quoted service.did}, .. \x7d"

def call {σ : Type} (suite : Suite) (service : KeyService) (peer : Peer σ) (issuer : Issuer)
    (ability space : String) (caveats : Value) (proofs : List String) (moment : Moment)
    (state : σ) : Except CustodyError Value × σ :=
  let invocation := Invocation.make issuer service.did ability space caveats proofs moment
  match invocation.sign suite.signing issuer with
  | .error error => (.error error, state)
  | .ok signed => peer signed state

def setupCaveats (space : String) : Value :=
  .ofFields [("keyId", .string (KeyReference.keyIdOfSpace space))]

/-- Wraps a key as the answer to a setup call says. -/
def wrapUnder (suite : Suite) (entropy : Sealing.SealEntropy) (material : KeyMaterial)
    (space : String) (answer : Value) : Except CustodyError WrappedKey :=
  match EncryptionSetup.ofValue? answer with
  | none => .error (.invalidResponse .setup)
  | some setup =>
      if setup.algorithm ≠ algorithm then .error (.unsupportedAlgorithm setup.algorithm)
      else
        match suite.sealing.readRecipient? (Text.trim setup.publicKey) with
        | none => .error (.invalidResponse .recipient)
        | some recipient =>
            let sealed := suite.sealing.sealFor recipient entropy material.combined
            .ok ⟨.keyService,
              .service space ⟨setup.provider, KeyReference.encode setup.keyReference,
                setup.algorithm⟩,
              Encoding.Base64.encode sealed⟩

def wrap {σ : Type} (suite : Suite) (service : KeyService) (peer : Peer σ) (chance : Chance)
    (material : KeyMaterial) (requester : Requester) (state : σ) :
    Except CustodyError WrappedKey × σ :=
  match requester.identity with
  | .error error => (.error error, state)
  | .ok (space, issuer) =>
      match service.call suite peer issuer Ability.encryptionSetup space (setupCaveats space)
          requester.proofs chance.moment state with
      | (.error error, after) => (.error error, after)
      | (.ok answer, after) => (wrapUnder suite chance.sealing material space answer, after)

def decryptCaveats (encryptedKey : String) (fields : ServiceRecord) : Value :=
  .ofFields [("encryptedSymmetricKey", .string encryptedKey),
    ("keyId", .string fields.keyInfo.keyId), ("algorithm", .string fields.keyInfo.algorithm)]

def materialOf (answer : Value) : Except CustodyError KeyMaterial :=
  match decryptedKey? answer with
  | none => .error (.invalidResponse .keyDecrypt)
  | some text =>
      match Encoding.Base64.decode? (Text.trim text) with
      | none => .error (.invalidResponse .decryptedKey)
      | some combined => (KeyMaterial.split combined).mapError .cipher

/-- Has the service unwrap a key, if the requester may ask and the record is of its kind. -/
def unwrap {σ : Type} (suite : Suite) (service : KeyService) (peer : Peer σ) (moment : Moment)
    (encryptedKey : String) (metadata : Record.Metadata) (requester : Requester) (state : σ) :
    Except CustodyError KeyMaterial × σ :=
  match requester.authority with
  | .error error => (.error error, state)
  | .ok (space, issuer) =>
      match metadata with
      | .threshold _ => (.error (.strategyMismatch .keyService .thresholdNetwork), state)
      | .service fields =>
          match service.call suite peer issuer Ability.keyDecrypt space
              (decryptCaveats encryptedKey fields) requester.proofs moment state with
          | (.error error, after) => (.error error, after)
          | (.ok answer, after) => (materialOf answer, after)

end KeyService

end SealedContent.Custody
