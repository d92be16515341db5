import Mathlib.Logic.Relation
import SealedContent.Custody.Adapter
import SealedContent.Proofs.Custody.Call
import SealedContent.Proofs.Json.Literal
import SealedContent.Proofs.Text.Blank

/-!
Custodians that keep their promises: what an honest peer answers to the calls of an issuer for a space,
and that it does so at every later time, whatever else it is asked in between.
-/

namespace SealedContent.Custody

open Cipher (KeyMaterial)
open Record (AccessCondition)

variable {σ : Type}

/-- An issuer has signed that it asks an audience for an ability on a space. -/
structure SignedInvocation.Asks (scheme : Curve.SignatureScheme) (issuer : Issuer)
    (audience ability space : String) (signed : SignedInvocation) : Prop where
  issuer_eq : signed.invocation.issuer = issuer.did
  audience_eq : signed.invocation.audience = audience
  ability_eq : signed.invocation.ability = ability
  resource_eq : signed.invocation.resource = space
  signed_eq : signed = signed.invocation.signedBy scheme issuer

/-- An identity opens the keys that are sealed for a recipient with the given random bytes. -/
structure Suite.Opens (suite : Suite) (entropy : Sealing.SealEntropy) (identity recipient : Bytes) :
    Prop where
  sealed_ne_nil : ∀ content, suite.sealing.sealFor recipient entropy content ≠ []
  opens : ∀ material : KeyMaterial, suite.sealing.openWith? identity
    (suite.sealing.sealFor recipient entropy material.combined) = some material.combined

namespace EncryptionSetup

/-- An answer that names the fields of a setup, with others or without. -/
structure GivenBy (answer : Json.Value) (setup : EncryptionSetup) : Prop where
  publicKey : answer.field? "publicKey" = some (.string setup.publicKey)
  algorithm : answer.field? "algorithm" = some (.string setup.algorithm)
  provider : answer.field? "provider" = some (.string setup.provider)
  keyReference : answer.field? "keyReference" = some (.string setup.keyReference)

/-- A setup that a key can be wrapped under, for a recipient whose identity is at hand. -/
structure Names (suite : Suite) (entropy : Sealing.SealEntropy) (identity : Bytes)
    (setup : EncryptionSetup) : Prop where
  algorithm : setup.algorithm = "age-x25519"
  recipient : ∃ recipient, suite.sealing.readRecipient? (Text.trim setup.publicKey) = some recipient ∧
    suite.Opens entropy identity recipient
  provider : Text.onlyBlank setup.provider = false
  keyReference : setup.keyReference ≠ ""

end EncryptionSetup

/-- A service that keeps identities, each under a reference. It answers a setup call with the recipient
of one that it keeps, never loses one, and opens with it what a decrypt call asks for. -/
structure KeyService.Honest (suite : Suite) (entropy : Sealing.SealEntropy) (issuer : Issuer)
    (space : String) (service : KeyService) (peer : Peer σ) (Keeps : σ → String → Bytes → Prop) :
    Prop where
  keeps : ∀ signed state reference identity, Keeps state reference identity →
    Keeps (peer signed state).2 reference identity
  offers : ∀ signed state,
    signed.Asks suite.signing issuer service.did Ability.encryptionSetup space →
      ∃ answer setup identity, (peer signed state).1 = .ok answer ∧
        EncryptionSetup.GivenBy answer setup ∧ setup.Names suite entropy identity ∧
          Keeps (peer signed state).2 setup.keyReference identity
  opens : ∀ signed state keyId reference identity text sealed content,
    signed.Asks suite.signing issuer service.did Ability.keyDecrypt space →
    signed.invocation.proofs ≠ [] →
    signed.invocation.caveats.field? "keyId" = some (.string keyId) →
    KeyReference.decode keyId = .ok reference → Keeps state reference identity →
    signed.invocation.caveats.field? "encryptedSymmetricKey" = some (.string text) →
    Encoding.Base64.decode? text = some sealed →
    suite.sealing.openWith? identity sealed = some content →
      ∃ answer, (peer signed state).1 = .ok answer ∧
        answer.field? "decryptedSymmetricKey" = some (.string (Encoding.Base64.encode content))

/-- The text of a signed invocation determines it. -/
def SignedInvocation.Legible (signed : SignedInvocation) : Prop :=
  SignedInvocation.ofText? signed.toText = some signed

/-- A service that knows invocations only by their texts: it keeps identities, and does as an honest
service does for every invocation that its text determines. -/
structure KeyService.Reliable (suite : Suite) (entropy : Sealing.SealEntropy) (issuer : Issuer)
    (space : String) (service : KeyService) (peer : Peer σ) (Keeps : σ → String → Bytes → Prop) :
    Prop where
  keeps : ∀ signed state reference identity, Keeps state reference identity →
    Keeps (peer signed state).2 reference identity
  offers : ∀ signed state, signed.Legible →
    signed.Asks suite.signing issuer service.did Ability.encryptionSetup space →
      ∃ answer setup identity, (peer signed state).1 = .ok answer ∧
        EncryptionSetup.GivenBy answer setup ∧ setup.Names suite entropy identity ∧
          Keeps (peer signed state).2 setup.keyReference identity
  opens : ∀ signed state keyId reference identity text sealed content, signed.Legible →
    signed.Asks suite.signing issuer service.did Ability.keyDecrypt space →
    signed.invocation.proofs ≠ [] →
    signed.invocation.caveats.field? "keyId" = some (.string keyId) →
    KeyReference.decode keyId = .ok reference → Keeps state reference identity →
    signed.invocation.caveats.field? "encryptedSymmetricKey" = some (.string text) →
    Encoding.Base64.decode? text = some sealed →
    suite.sealing.openWith? identity sealed = some content →
      ∃ answer, (peer signed state).1 = .ok answer ∧
        answer.field? "decryptedSymmetricKey" = some (.string (Encoding.Base64.encode content))

/-- A network that keeps plaintexts, each under a ciphertext and conditions. What it was given to
encrypt it releases for the same ciphertext and conditions, and never loses it. -/
structure ThresholdNetwork.Honest (suite : Suite) (issuer : Issuer) (space : String)
    (network : ThresholdNetwork σ) (Keeps : σ → String → List AccessCondition → Bytes → Prop) :
    Prop where
  keeps_encrypt : ∀ plaintext asked state ciphertext conditions kept,
    Keeps state ciphertext conditions kept →
      Keeps (network.encrypt plaintext asked state).2 ciphertext conditions kept
  keeps_release : ∀ request state ciphertext conditions kept,
    Keeps state ciphertext conditions kept →
      Keeps (network.release request state).2 ciphertext conditions kept
  encrypts : ∀ plaintext conditions state, ∃ ciphertext,
    (network.encrypt plaintext conditions state).1 = .ok ciphertext ∧
      Text.onlyBlank ciphertext = false ∧
        Keeps (network.encrypt plaintext conditions state).2 ciphertext conditions plaintext
  releases : ∀ request state plaintext,
    request.invocation.Asks suite.signing issuer network.did Ability.contentDecrypt space →
    request.invocation.invocation.proofs ≠ [] →
    request.keyHash = ThresholdNetwork.keyHash plaintext →
    Keeps state request.ciphertext request.conditions plaintext →
      (network.release request state).1 = .ok plaintext

namespace Custodian

/-- What the far side of a custodian can come to by one call, whoever makes it. -/
inductive Moves : Custodian σ → σ → σ → Prop
  | call (service : KeyService) (peer : Peer σ) (signed : SignedInvocation) (state : σ) :
      Moves (.keyService service peer) state (peer signed state).2
  | encrypt (network : ThresholdNetwork σ) (plaintext : Bytes) (conditions : List AccessCondition)
      (state : σ) : Moves (.threshold network) state (network.encrypt plaintext conditions state).2
  | release (network : ThresholdNetwork σ) (request : ReleaseRequest) (state : σ) :
      Moves (.threshold network) state (network.release request state).2

/-- Any number of calls later. -/
def Later (custodian : Custodian σ) : σ → σ → Prop :=
  Relation.ReflTransGen custodian.Moves

def Honest (suite : Suite) (entropy : Sealing.SealEntropy) (issuer : Issuer) (space : String) :
    Custodian σ → Prop
  | .keyService service peer => ∃ Keeps, service.Honest suite entropy issuer space peer Keeps
  | .threshold network => ∃ Keeps, network.Honest suite issuer space Keeps

end Custodian

namespace KeyService

variable {suite : Suite} {entropy : Sealing.SealEntropy} {issuer : Issuer} {space : String}
  {service : KeyService} {peer : Peer σ} {Keeps : σ → String → Bytes → Prop}

theorem Honest.reliable (honest : service.Honest suite entropy issuer space peer Keeps) :
    service.Reliable suite entropy issuer space peer Keeps where
  keeps := honest.keeps
  offers signed state _ := honest.offers signed state
  opens signed state keyId reference identity text sealed content _ :=
    honest.opens signed state keyId reference identity text sealed content

theorem Reliable.keeps_later (reliable : service.Reliable suite entropy issuer space peer Keeps)
    {state later : σ} (passed : (Custodian.keyService service peer).Later state later)
    {reference : String} {identity : Bytes} (kept : Keeps state reference identity) :
    Keeps later reference identity := by
  induction passed with
  | refl => exact kept
  | tail before moved induction =>
      cases moved with
      | call signed => exact reliable.keeps _ _ _ _ induction

end KeyService

namespace ThresholdNetwork.Honest

variable {suite : Suite} {issuer : Issuer} {space : String} {network : ThresholdNetwork σ}
  {Keeps : σ → String → List AccessCondition → Bytes → Prop}

theorem keeps_later (honest : network.Honest suite issuer space Keeps) {state later : σ}
    (passed : (Custodian.threshold network).Later state later) {ciphertext : String}
    {conditions : List AccessCondition} {plaintext : Bytes}
    (kept : Keeps state ciphertext conditions plaintext) :
    Keeps later ciphertext conditions plaintext := by
  induction passed with
  | refl => exact kept
  | tail before moved induction =>
      cases moved with
      | encrypt plaintext conditions => exact honest.keeps_encrypt _ _ _ _ _ _ induction
      | release request => exact honest.keeps_release _ _ _ _ _ induction

end ThresholdNetwork.Honest

namespace KeyService

/-- What a caller asks a holder of one identity to open, if it names the reference of that identity. -/
def opened? (suite : Suite) (identity : Bytes) (reference : String) (caveats : Json.Value) :
    Option Bytes := do
  let keyId ← (caveats.field? "keyId").bind Json.Value.text?
  let text ← (caveats.field? "encryptedSymmetricKey").bind Json.Value.text?
  let sealed ← Encoding.Base64.decode? text
  if (KeyReference.decode keyId).toOption = some reference then
    suite.sealing.openWith? identity sealed
  else none

theorem opened?_of_named {suite : Suite} {identity sealed content : Bytes} {reference keyId text : String}
    {caveats : Json.Value} (named : caveats.field? "keyId" = some (.string keyId))
    (decoded : KeyReference.decode keyId = .ok reference)
    (given : caveats.field? "encryptedSymmetricKey" = some (.string text))
    (read : Encoding.Base64.decode? text = some sealed)
    (opens : suite.sealing.openWith? identity sealed = some content) :
    opened? suite identity reference caveats = some content := by
  simp [opened?, named, given, Json.Value.text?, read, decoded, Except.toOption, opens]

def offer (setup : EncryptionSetup) : Json.Value :=
  .object [("publicKey", .string setup.publicKey), ("algorithm", .string setup.algorithm),
    ("provider", .string setup.provider), ("keyReference", .string setup.keyReference)]

/-- A service that holds one identity and gives out one setup. -/
def holder (suite : Suite) (identity : Bytes) (setup : EncryptionSetup) : Peer σ :=
  fun signed state =>
    if signed.invocation.ability = Ability.encryptionSetup then
      (.ok (offer setup), state)
    else
      match opened? suite identity setup.keyReference signed.invocation.caveats with
      | some content =>
          (.ok (.object [("decryptedSymmetricKey",
            .string (Encoding.Base64.encode content))]), state)
      | none => (.error (.remote "KeyDecryptFailed" "key cannot be opened"), state)

end KeyService

namespace ThresholdNetwork

end ThresholdNetwork

end SealedContent.Custody
