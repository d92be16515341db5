import SealedContent.Custody.KeyService
import SealedContent.Custody.Threshold
import SealedContent.Proofs.Record.RoundTrip

/-!
What every call of a custodian rests on: who may ask, the invocation that is signed for it, the answer
that decides, and the record that a wrapped key gives.
-/

namespace SealedContent.Custody

open Cipher (KeyMaterial)
open Content (Cid)
open Record (Metadata ServiceRecord ThresholdRecord)

variable {σ : Type}

namespace Invocation

def signedBy (scheme : Curve.SignatureScheme) (issuer : Issuer) (invocation : Invocation) :
    SignedInvocation :=
  ⟨invocation, Encoding.Base64.encode
    (scheme.sign issuer.secret (Bytes.ofText invocation.signingText))⟩

theorem sign_eq (scheme : Curve.SignatureScheme) {issuer : Issuer} {invocation : Invocation}
    (own : issuer.did = invocation.issuer) :
    invocation.sign scheme issuer = .ok (invocation.signedBy scheme issuer) := by
  rw [sign, if_neg (not_not_intro own)]
  rfl

theorem eq_signedBy_of_sign {scheme : Curve.SignatureScheme} {issuer : Issuer}
    {invocation : Invocation} {signed : SignedInvocation}
    (made : invocation.sign scheme issuer = .ok signed) :
    signed = invocation.signedBy scheme issuer := by
  by_cases own : issuer.did = invocation.issuer
  · rw [sign_eq scheme own] at made
    exact (Except.ok.inj made).symm
  · rw [sign, if_pos own] at made
    cases made

end Invocation

namespace Requester

variable {space : String}

theorem namedSpace?_of_named (named : Text.onlyBlank space = false) (issuer : Option Issuer)
    (proofs : List String) : namedSpace? ⟨some space, issuer, proofs⟩ = some space := by
  simp [namedSpace?, Option.filter, named]

theorem identity_of_named (named : Text.onlyBlank space = false) (issuer : Issuer)
    (proofs : List String) : identity ⟨some space, some issuer, proofs⟩ = .ok (space, issuer) := by
  rw [identity, namedSpace?_of_named named]

theorem authority_of_named (named : Text.onlyBlank space = false) (issuer : Issuer)
    {proofs : List String} (proven : proofs ≠ []) :
    authority ⟨some space, some issuer, proofs⟩ = .ok (space, issuer) := by
  have complete : missing ⟨some space, some issuer, proofs⟩ = [] := by
    rw [missing, namedSpace?_of_named named]
    simp [proven]
  rw [authority, complete, namedSpace?_of_named named]

end Requester

namespace KeyService

def setupCall (suite : Suite) (service : KeyService) (issuer : Issuer) (space : String)
    (proofs : List String) (moment : Moment) : SignedInvocation :=
  (Invocation.make issuer service.did Ability.encryptionSetup space (setupCaveats space) proofs
    moment).signedBy suite.signing issuer

def decryptCall (suite : Suite) (service : KeyService) (issuer : Issuer) (space : String)
    (proofs : List String) (moment : Moment) (encryptedKey : String) (fields : ServiceRecord) :
    SignedInvocation :=
  (Invocation.make issuer service.did Ability.keyDecrypt space (decryptCaveats encryptedKey fields)
    proofs moment).signedBy suite.signing issuer

theorem call_eq (suite : Suite) (service : KeyService) (peer : Peer σ) (issuer : Issuer)
    (ability space : String) (caveats : Json.Value) (proofs : List String) (moment : Moment)
    (state : σ) : service.call suite peer issuer ability space caveats proofs moment state =
      peer ((Invocation.make issuer service.did ability space caveats proofs moment).signedBy
        suite.signing issuer) state := by
  have own : issuer.did =
    (Invocation.make issuer service.did ability space caveats proofs moment).issuer := rfl
  rw [call, Invocation.sign_eq suite.signing own]

/-- One call is made, and its answer says how to wrap. -/
theorem wrap_of_identity {suite : Suite} {service : KeyService} {peer : Peer σ} {chance : Chance}
    {requester : Requester} {space : String} {issuer : Issuer}
    (identified : requester.identity = .ok (space, issuer)) (material : KeyMaterial) (state : σ) :
    let reply := peer (service.setupCall suite issuer space requester.proofs chance.moment) state
    service.wrap suite peer chance material requester state =
      (reply.1.bind (wrapUnder suite chance.sealing material space), reply.2) := by
  intro reply
  rw [wrap, identified]
  dsimp only
  rw [call_eq, ← setupCall]
  rcases reply_eq : peer (service.setupCall suite issuer space requester.proofs chance.moment) state
    with ⟨_ | answer, after⟩ <;> simp [reply, reply_eq, Except.bind]

/-- One call is made, and its answer holds the key. -/
theorem unwrap_of_authority {suite : Suite} {service : KeyService} {peer : Peer σ} {moment : Moment}
    {encryptedKey : String} {fields : ServiceRecord} {requester : Requester} {space : String}
    {issuer : Issuer} (authorized : requester.authority = .ok (space, issuer)) (state : σ) :
    let reply := peer (service.decryptCall suite issuer space requester.proofs moment encryptedKey
      fields) state
    service.unwrap suite peer moment encryptedKey (.service fields) requester state =
      (reply.1.bind materialOf, reply.2) := by
  intro reply
  rw [unwrap, authorized]
  dsimp only
  rw [call_eq, ← decryptCall]
  rcases reply_eq : peer (service.decryptCall suite issuer space requester.proofs moment
    encryptedKey fields) state with ⟨_ | answer, after⟩ <;> simp [reply, reply_eq, Except.bind]

end KeyService

namespace ThresholdNetwork

/-- A key as the network has encrypted it for a space. -/
def keyIn (material : KeyMaterial) (space ciphertext : String) : WrappedKey :=
  ⟨.thresholdNetwork,
    .threshold (keyHash material.combined) [Record.AccessCondition.spaceAuthority space], ciphertext⟩

theorem wrap_of_named {network : ThresholdNetwork σ} {requester : Requester} {space : String}
    (named : requester.namedSpace? = some space) (material : KeyMaterial) (state : σ) :
    let reply := network.encrypt material.combined [Record.AccessCondition.spaceAuthority space] state
    network.wrap material requester state =
      (reply.1.bind fun ciphertext => .ok (keyIn material space ciphertext), reply.2) := by
  intro reply
  rw [wrap, named]
  dsimp only
  rcases reply_eq : network.encrypt material.combined [Record.AccessCondition.spaceAuthority space]
    state with ⟨_ | ciphertext, after⟩ <;> simp [reply, reply_eq, Except.bind, keyIn]

def releaseRequest (suite : Suite) (network : ThresholdNetwork σ) (moment : Moment)
    (encryptedKey : String) (fields : ThresholdRecord) (proofs : List String) (space : String)
    (issuer : Issuer) : ReleaseRequest :=
  ⟨encryptedKey, fields.keyHash, fields.conditions,
    (network.invocation issuer space fields proofs moment).signedBy suite.signing issuer⟩

/-- One request is made, and its reply is checked. -/
theorem unwrap_of_authority {suite : Suite} {network : ThresholdNetwork σ} {moment : Moment}
    {encryptedKey : String} {fields : ThresholdRecord} {requester : Requester} {space : String}
    {issuer : Issuer} (authorized : requester.authority = .ok (space, issuer)) (state : σ) :
    let reply := network.release (network.releaseRequest suite moment encryptedKey fields
      requester.proofs space issuer) state
    network.unwrap suite moment encryptedKey (.threshold fields) requester state =
      (reply.1.bind (materialOf fields), reply.2) := by
  intro reply
  let invocation := network.invocation issuer space fields requester.proofs moment
  have own : issuer.did = invocation.issuer := rfl
  have signed := invocation.sign_eq suite.signing own
  rw [unwrap, authorized]
  dsimp only
  rw [signed]
  have request_eq : reply = network.release ⟨encryptedKey, fields.keyHash, fields.conditions,
    (network.invocation issuer space fields requester.proofs moment).signedBy suite.signing issuer⟩
      state := rfl
  dsimp only
  rw [← request_eq]
  rcases reply with ⟨_ | combined, after⟩ <;> rfl

end ThresholdNetwork

namespace WrappedKey

theorem toMetadata_eq (wrapped : WrappedKey) (dataCid : Cid) :
    wrapped.toMetadata dataCid =
      ((wrapped.record dataCid).validate.map fun _ => wrapped.record dataCid).mapError .block := by
  rw [toMetadata, Metadata.validated_eq]

theorem dataCid_record (wrapped : WrappedKey) (dataCid : Cid) :
    (wrapped.record dataCid).dataCid = dataCid := by
  rw [record]
  cases wrapped.details <;> rfl

theorem eq_record_of_toMetadata {wrapped : WrappedKey} {dataCid : Cid} {record : Metadata}
    (made : wrapped.toMetadata dataCid = .ok record) : record = wrapped.record dataCid := by
  rw [toMetadata_eq] at made
  cases valid : (wrapped.record dataCid).validate with
  | error fault =>
      rw [valid] at made
      cases made
  | ok =>
      rw [valid] at made
      exact (Except.ok.inj made).symm

end WrappedKey

end SealedContent.Custody
