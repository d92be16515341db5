import SealedContent.Proofs.Bytes.Hex
import SealedContent.Proofs.Cipher.RoundTrip
import SealedContent.Proofs.Custody.Honest
import SealedContent.Proofs.Custody.KeyReference
import SealedContent.Proofs.Custody.Transport
import SealedContent.Proofs.Json.Record
import SealedContent.Proofs.Record.Size
import SealedContent.Proofs.Sealing.AgeFile

/-!
With an honest custodian nothing is lost: the key that was wrapped is unwrapped again from the record
as it was shipped, at any later time, and the content decrypts to what was encrypted.
-/

namespace SealedContent

namespace Record.Metadata

/-- A record that is bound to a space. -/
def NamesSpace (space : String) : Metadata → Prop
  | .service fields => fields.space = space
  | .threshold fields => fields.conditions = [AccessCondition.spaceAuthority space]

theorem validate_service {fields : ServiceRecord} (key : Text.onlyBlank fields.encryptedKey = false)
    (space : Text.onlyBlank fields.space = false)
    (provider : Text.onlyBlank fields.keyInfo.provider = false)
    (keyId : Text.onlyBlank fields.keyInfo.keyId = false)
    (algorithm : Text.onlyBlank fields.keyInfo.algorithm = false) :
    (service fields).validate = .ok () := by
  simp [validate, missingField?, requiredTexts, key, space, provider, keyId, algorithm]

theorem validate_threshold {fields : ThresholdRecord}
    (ciphertext : Text.onlyBlank fields.ciphertext = false)
    (keyHash : Text.onlyBlank fields.keyHash = false) (conditions : fields.conditions ≠ []) :
    (threshold fields).validate = .ok () := by
  simp [validate, missingField?, requiredTexts, ciphertext, keyHash, conditions]

theorem exists_error_of_blank {record : Metadata} {field : String × String}
    (required : field ∈ record.requiredTexts) (blank : Text.onlyBlank field.2 = true) :
    ∃ fault, record.validate = .error fault := by
  have found : (record.requiredTexts.find? fun field => Text.onlyBlank field.2).isSome = true :=
    List.find?_isSome.mpr ⟨field, required, blank⟩
  obtain ⟨first, found⟩ := Option.isSome_iff_exists.mp found
  exact ⟨.missingField record.tag first.1, by simp [validate, missingField?, found]⟩

end Record.Metadata

namespace Custody

open Cipher (KeyMaterial)
open Content (Cid)
open Record (Metadata)

section

variable {σ : Type} {suite : Suite} {entropy : Sealing.SealEntropy} {issuer : Issuer} {space : String}

theorem WrappedKey.exists_archived {wrapped : WrappedKey} {dataCid : Cid}
    (valid : (wrapped.record dataCid).validate = .ok ())
    (bounded : (wrapped.record dataCid).toBlock.data.length < 2 ^ 63) :
    wrapped.toMetadata dataCid = .ok (wrapped.record dataCid) ∧
      ∃ archived, (wrapped.record dataCid).archive = .ok archived ∧
        Metadata.extract archived.bytes = .ok (wrapped.record dataCid) := by
  have read := Metadata.extract_shipped bounded
  rw [Metadata.validated_eq, valid] at read
  rw [toMetadata_eq, Metadata.archive_eq, valid]
  exact ⟨rfl, _, rfl, read⟩

/-- What a wrapped key is good for: its record is valid and says where the key is, and at any later time
the custodian unwraps the key from it. -/
structure Custodian.Recovers (suite : Suite) (custodian : Custodian σ) (material : KeyMaterial)
    (requester : Requester) (space : String) (dataCid : Cid) (between : σ) (record : Metadata) :
    Prop where
  valid : record.validate = .ok ()
  kind_eq : record.kind = custodian.kind
  dataCid_eq : record.dataCid = dataCid
  named : record.NamesSpace space
  unwrapped : ∀ later moment, custodian.Later between later →
    (custodian.unwrap suite moment record.encryptedKey record requester later).1 = .ok material

namespace KeyService

variable {service : KeyService} {peer : Peer σ} {Keeps : σ → String → Bytes → Prop}

theorem EncryptionSetup.ofValue?_of_givenBy {answer : Json.Value} {setup : EncryptionSetup}
    (given : EncryptionSetup.GivenBy answer setup) : EncryptionSetup.ofValue? answer = some setup := by
  rw [EncryptionSetup.ofValue?, Json.Value.record?_of_field? given.publicKey]
  simp [given.publicKey, given.algorithm, given.provider, given.keyReference]

theorem materialOf_combined {answer : Json.Value} {material : KeyMaterial}
    (given : answer.field? "decryptedSymmetricKey" =
      some (.string (Encoding.Base64.encode material.combined))) :
    materialOf answer = .ok material := by
  have text : decryptedKey? answer = some (Encoding.Base64.encode material.combined) := by
    rw [decryptedKey?, Json.Value.record?_of_field? given]
    simp [given]
  rw [materialOf, text]
  dsimp only
  rw [Text.trim_of_visible (Encoding.Base64.encode_visible _), Encoding.Base64.decode?_encode]
  dsimp only
  rw [KeyMaterial.split_combined]
  rfl

theorem decryptCaveats_keyId (encryptedKey : String) (fields : Record.ServiceRecord) :
    (decryptCaveats encryptedKey fields).field? "keyId" = some (.string fields.keyInfo.keyId) := by
  rfl

theorem decryptCaveats_key (encryptedKey : String) (fields : Record.ServiceRecord) :
    (decryptCaveats encryptedKey fields).field? "encryptedSymmetricKey" =
      some (.string encryptedKey) := by
  rfl

/-- The one invocation that an unwrap sends, whatever peer receives it. -/
def Sends (suite : Suite) (service : KeyService) (moment : Moment) (requester : Requester)
    (record : Metadata) (sent : SignedInvocation) : Prop :=
  ∀ {σ : Type} (peer : Peer σ) (state : σ),
    service.unwrap suite peer moment record.encryptedKey record requester state =
      ((peer sent state).1.bind materialOf, (peer sent state).2)

/-- An unwrap asks for the key under a reference, in the form in which references travel. -/
def AsksFor (suite : Suite) (service : KeyService) (moment : Moment) (requester : Requester)
    (record : Metadata) (reference : String) : Prop :=
  ∃ sent keyId, service.Sends suite moment requester record sent ∧
    sent.invocation.ability = Ability.keyDecrypt ∧
    sent.invocation.caveats.field? "keyId" = some (.string keyId) ∧
    keyId = KeyReference.encode reference ∧ KeyReference.decode keyId = .ok reference

theorem asksFor_service (named : Text.onlyBlank space = false) {proofs : List String}
    (proven : proofs ≠ []) (moment : Moment) {fields : Record.ServiceRecord} {reference : String}
    (keyId : fields.keyInfo.keyId = KeyReference.encode reference) :
    service.AsksFor suite moment ⟨some space, some issuer, proofs⟩ (.service fields) reference := by
  have authorized := Requester.authority_of_named named issuer proven
  refine ⟨service.decryptCall suite issuer space proofs moment fields.encryptedKey fields,
    fields.keyInfo.keyId, ?_, rfl, decryptCaveats_keyId _ fields, keyId, ?_⟩
  · intro σ peer state
    exact unwrap_of_authority authorized state
  · rw [keyId, KeyReference.decode_encode]

theorem setupCall_legible (service : KeyService) (proofs : List String) (moment : Moment) :
    (service.setupCall suite issuer space proofs moment).Legible :=
  SignedInvocation.ofText?_toText
    (Invocation.make_portable _ _ _ _ (setupCaveats_portable space) proofs moment)

theorem decryptCall_legible (service : KeyService) (proofs : List String) (moment : Moment)
    (encryptedKey : String) (fields : Record.ServiceRecord) :
    (service.decryptCall suite issuer space proofs moment encryptedKey fields).Legible :=
  SignedInvocation.ofText?_toText
    (Invocation.make_portable _ _ _ _ (decryptCaveats_portable encryptedKey fields) proofs moment)

theorem setupCall_asks (service : KeyService) (proofs : List String) (moment : Moment) :
    (service.setupCall suite issuer space proofs moment).Asks suite.signing issuer service.did
      Ability.encryptionSetup space :=
  ⟨rfl, rfl, rfl, rfl, rfl⟩

theorem decryptCall_asks (service : KeyService) (proofs : List String) (moment : Moment)
    (encryptedKey : String) (fields : Record.ServiceRecord) :
    (service.decryptCall suite issuer space proofs moment encryptedKey fields).Asks suite.signing
      issuer service.did Ability.keyDecrypt space :=
  ⟨rfl, rfl, rfl, rfl, rfl⟩

def keyUnder (suite : Suite) (entropy : Sealing.SealEntropy) (material : KeyMaterial) (space : String)
    (setup : EncryptionSetup) (recipient : Bytes) : WrappedKey :=
  ⟨.keyService,
    .service space ⟨setup.provider, KeyReference.encode setup.keyReference, setup.algorithm⟩,
    Encoding.Base64.encode (suite.sealing.sealFor recipient entropy material.combined)⟩

theorem wrapUnder_of_givenBy {answer : Json.Value} {setup : EncryptionSetup} {recipient : Bytes}
    (given : EncryptionSetup.GivenBy answer setup) (supported : setup.algorithm = "age-x25519")
    (read : suite.sealing.readRecipient? (Text.trim setup.publicKey) = some recipient)
    (material : KeyMaterial) (space : String) :
    wrapUnder suite entropy material space answer =
      .ok (keyUnder suite entropy material space setup recipient) := by
  have known : ¬ setup.algorithm ≠ algorithm := not_not_intro supported
  rw [wrapUnder, EncryptionSetup.ofValue?_of_givenBy given]
  dsimp only
  rw [if_neg known, read]
  rfl

theorem wrap_of_offer {chance : Chance} (named : Text.onlyBlank space = false) {proofs : List String}
    {start : σ} {answer : Json.Value} {setup : EncryptionSetup} {recipient : Bytes}
    (answered : (peer (service.setupCall suite issuer space proofs chance.moment) start).1 =
      .ok answer)
    (given : EncryptionSetup.GivenBy answer setup) (supported : setup.algorithm = "age-x25519")
    (read : suite.sealing.readRecipient? (Text.trim setup.publicKey) = some recipient)
    (material : KeyMaterial) :
    service.wrap suite peer chance material ⟨some space, some issuer, proofs⟩ start =
      (.ok (keyUnder suite chance.sealing material space setup recipient),
        (peer (service.setupCall suite issuer space proofs chance.moment) start).2) := by
  rw [wrap_of_identity (Requester.identity_of_named named issuer proofs), answered]
  exact congrArg (·, _) (wrapUnder_of_givenBy given supported read material space)

theorem Reliable.unwrap_eq (reliable : service.Reliable suite entropy issuer space peer Keeps)
    (named : Text.onlyBlank space = false) {proofs : List String} (proven : proofs ≠ [])
    {state : σ} {reference : String} {identity sealed : Bytes} {material : KeyMaterial}
    (kept : Keeps state reference identity)
    (opened : suite.sealing.openWith? identity sealed = some material.combined) (moment : Moment)
    {fields : Record.ServiceRecord} (keyId : fields.keyInfo.keyId = KeyReference.encode reference) :
    (service.unwrap suite peer moment (Encoding.Base64.encode sealed) (.service fields)
      ⟨some space, some issuer, proofs⟩ state).1 = .ok material := by
  let call := service.decryptCall suite issuer space proofs moment (Encoding.Base64.encode sealed)
    fields
  have decoded : KeyReference.decode fields.keyInfo.keyId = .ok reference := by
    rw [keyId, KeyReference.decode_encode]
  obtain ⟨answer, answered, given⟩ := reliable.opens call state _ reference identity _ sealed _
    (decryptCall_legible service proofs moment _ fields)
    (decryptCall_asks service proofs moment _ fields) proven (decryptCaveats_keyId _ fields) decoded
    kept (decryptCaveats_key _ fields) (Encoding.Base64.decode?_encode sealed) opened
  rw [unwrap_of_authority (Requester.authority_of_named named issuer proven), answered]
  exact materialOf_combined given

/-- A reliable service gives a setup to wrap under, and the wrapped key can be recovered. -/
theorem Reliable.exists_recovers {chance : Chance}
    (reliable : service.Reliable suite chance.sealing issuer space peer Keeps)
    (named : Text.onlyBlank space = false) {proofs : List String} (proven : proofs ≠ [])
    (material : KeyMaterial) (dataCid : Cid) (start : σ) :
    let requester : Requester := ⟨some space, some issuer, proofs⟩
    ∃ answer setup wrapped between,
      (peer (service.setupCall suite issuer space proofs chance.moment) start).1 = .ok answer ∧
      EncryptionSetup.GivenBy answer setup ∧
      service.wrap suite peer chance material requester start = (.ok wrapped, between) ∧
      (∀ moment, service.AsksFor suite moment requester (wrapped.record dataCid)
        setup.keyReference) ∧
      Custodian.Recovers suite (.keyService service peer) material requester space dataCid between
        (wrapped.record dataCid) := by
  intro requester
  obtain ⟨answer, setup, identity, answered, given, names, kept⟩ :=
    reliable.offers _ start (setupCall_legible service proofs chance.moment)
      (setupCall_asks service proofs chance.moment)
  obtain ⟨recipient, read, opens⟩ := names.recipient
  let wrapped := keyUnder suite chance.sealing material space setup recipient
  have visible : Text.onlyBlank setup.algorithm = false := by
    rw [names.algorithm]
    decide
  have made := wrap_of_offer named answered given names.algorithm read material
  refine ⟨answer, setup, wrapped, _, answered, given, made, ?_, ?_, rfl, rfl, rfl, ?_⟩
  · intro moment
    exact asksFor_service named proven moment rfl
  · apply Metadata.validate_service
    · exact Encoding.Base64.encode_not_blank (opens.sealed_ne_nil _)
    · exact named
    · exact names.provider
    · exact KeyReference.encode_not_blank names.keyReference
    · exact visible
  · intro later moment passed
    exact reliable.unwrap_eq named proven (reliable.keeps_later passed kept) (opens.opens material)
      moment rfl

end KeyService

namespace ThresholdNetwork

variable {network : ThresholdNetwork σ}
  {Keeps : σ → String → List Record.AccessCondition → Bytes → Prop}

theorem wrap_of_encrypted (named : Text.onlyBlank space = false) {proofs : List String}
    {material : KeyMaterial} {start : σ} {ciphertext : String}
    (encrypted : (network.encrypt material.combined
      [Record.AccessCondition.spaceAuthority space] start).1 = .ok ciphertext) :
    network.wrap material ⟨some space, some issuer, proofs⟩ start =
      (.ok (keyIn material space ciphertext),
        (network.encrypt material.combined
          [Record.AccessCondition.spaceAuthority space] start).2) := by
  rw [wrap_of_named (Requester.namedSpace?_of_named named (some issuer) proofs), encrypted]
  rfl

theorem Honest.unwrap_eq (honest : network.Honest suite issuer space Keeps)
    (named : Text.onlyBlank space = false) {proofs : List String} (proven : proofs ≠ [])
    {material : KeyMaterial} {state : σ} {ciphertext : String}
    {conditions : List Record.AccessCondition}
    (kept : Keeps state ciphertext conditions material.combined) (dataCid : Cid) (moment : Moment) :
    (network.unwrap suite moment ciphertext
      (.threshold ⟨dataCid, ciphertext, keyHash material.combined, conditions⟩)
      ⟨some space, some issuer, proofs⟩ state).1 = .ok material := by
  let fields : Record.ThresholdRecord :=
    ⟨dataCid, ciphertext, keyHash material.combined, conditions⟩
  have asked : (network.releaseRequest suite moment ciphertext fields proofs space
      issuer).invocation.Asks suite.signing issuer network.did Ability.contentDecrypt space :=
    ⟨rfl, rfl, rfl, rfl, rfl⟩
  have released := honest.releases _ state _ asked proven rfl kept
  rw [unwrap_of_authority (Requester.authority_of_named named issuer proven), released]
  simp only [Except.bind, materialOf, if_pos, KeyMaterial.split_combined, Except.mapError]

/-- An honest network encrypts a key under the space, and the wrapped key can be recovered. -/
theorem Honest.exists_recovers (honest : network.Honest suite issuer space Keeps)
    (named : Text.onlyBlank space = false) {proofs : List String} (proven : proofs ≠ [])
    (material : KeyMaterial) (dataCid : Cid) (start : σ) :
    let requester : Requester := ⟨some space, some issuer, proofs⟩
    ∃ wrapped between, network.wrap material requester start = (.ok wrapped, between) ∧
      Custodian.Recovers suite (.threshold network) material requester space dataCid between
        (wrapped.record dataCid) := by
  intro requester
  obtain ⟨ciphertext, encrypted, visible, kept⟩ :=
    honest.encrypts material.combined [Record.AccessCondition.spaceAuthority space] start
  refine ⟨_, _, wrap_of_encrypted named encrypted, ?_, rfl, rfl, rfl, ?_⟩
  · apply Metadata.validate_threshold
    · exact visible
    · apply Bytes.toHex_not_blank
      apply List.ne_nil_of_length_pos
      rw [Hash.length_sha256]
      decide
    · exact List.cons_ne_nil _ _
  · intro later moment passed
    exact honest.unwrap_eq named proven (honest.keeps_later passed kept) dataCid moment

end ThresholdNetwork

theorem Custodian.Honest.exists_recovers {chance : Chance} {custodian : Custodian σ}
    (honest : custodian.Honest suite chance.sealing issuer space)
    (named : Text.onlyBlank space = false) {proofs : List String} (proven : proofs ≠ [])
    (material : KeyMaterial) (dataCid : Cid) (start : σ) :
    let requester : Requester := ⟨some space, some issuer, proofs⟩
    ∃ wrapped between, custodian.wrap suite chance material requester start = (.ok wrapped, between) ∧
      custodian.Recovers suite material requester space dataCid between (wrapped.record dataCid) ∧
      ∀ service peer, custodian = .keyService service peer → ∃ answer setup,
        (peer (service.setupCall suite issuer space proofs chance.moment) start).1 = .ok answer ∧
        EncryptionSetup.GivenBy answer setup ∧ ∀ moment, service.AsksFor suite moment requester
          (wrapped.record dataCid) setup.keyReference := by
  intro requester
  cases custodian with
  | keyService service peer =>
      obtain ⟨Keeps, honest⟩ := honest
      obtain ⟨answer, setup, wrapped, between, answered, given, made, asks, recovers⟩ :=
        honest.reliable.exists_recovers named proven material dataCid start
      refine ⟨wrapped, between, made, recovers, ?_⟩
      intro service peer same
      cases same
      exact ⟨answer, setup, answered, given, asks⟩
  | threshold network =>
      obtain ⟨Keeps, honest⟩ := honest
      obtain ⟨wrapped, between, made, recovers⟩ :=
        honest.exists_recovers named proven material dataCid start
      refine ⟨wrapped, between, made, recovers, ?_⟩
      intro service peer other
      cases other

namespace Adapter

end Adapter

end

/-! Content under the key of an honest service, and under that of an honest network. -/

namespace Sample

def issuer : Issuer := ⟨"did:key:z6MkIssuer", List.replicate 32 5, rfl⟩

def space : String := "did:key:z6MkSpace"

def proofs : List String := ["proof"]

def requester : Requester := ⟨some space, some issuer, proofs⟩

def material : KeyMaterial := ⟨⟨Vector.replicate 32 6⟩, ⟨Vector.replicate 16 7⟩⟩

def chance : Chance :=
  ⟨⟨1700000000, List.replicate 12 8⟩, ⟨List.replicate 16 2, List.replicate 32 3, List.replicate 16 4⟩⟩

def identity : Bytes := List.replicate 32 1

def recipient : Bytes :=
  [164, 224, 146, 146, 182, 81, 194, 120, 185, 119, 44, 86, 159, 95, 169, 187, 19, 217, 6, 180, 106,
    182, 140, 157, 249, 220, 43, 68, 9, 248, 162, 9]

def setup : EncryptionSetup :=
  ⟨"age15nsf9y4k28p83wth93tf7hafhvfajp45d2mge80ems45gz0c5gys3me64l", "age-x25519", "provider",
    "reference"⟩

def service : KeyService :=
  ⟨⟨"https".toList, [], [], some (.domain "service.example".toList), none, .segments [], none, none⟩,
    "did:web:service.example"⟩

theorem setup_read :
    Suite.standard.sealing.readRecipient? (Text.trim setup.publicKey) = some recipient := by
  decide +kernel

theorem agree : Sealing.AgeFile.Agree identity recipient chance.sealing.secret := by
  constructor <;> decide +kernel

theorem setup_names : setup.Names Suite.standard chance.sealing identity where
  algorithm := rfl
  recipient := by
    refine ⟨recipient, setup_read, ?_, ?_⟩
    · exact Sealing.AgeFile.age_ne_nil recipient rfl
    · intro material
      apply Sealing.AgeFile.age_opens agree rfl rfl
      rw [KeyMaterial.length_combined]
      decide
  provider := by decide
  keyReference := by decide

def plain : List Bytes := [[1, 2, 3], [], [4]]

def dataCid : Cid := .v0 (Vector.replicate 32 7)

theorem keyUnder_fits (dataCid : Cid) :
    ((KeyService.keyUnder Suite.standard chance.sealing material space setup recipient).record
      dataCid).toBlock.data.length < 2 ^ 63 := by
  -- The sealed key is never computed here: its length is bounded by what sealing adds.
  let sealed := Suite.standard.sealing.sealFor recipient chance.sealing material.combined
  let reference := KeyReference.encode setup.keyReference
  have size : sealed.length ≤ 300 + material.combined.length :=
    Sealing.AgeFile.length_age recipient rfl rfl (by decide)
  have text := Encoding.Base64.length_ofText_encode sealed
  have texts : (Bytes.ofText space).length + (Bytes.ofText reference).length +
      (Bytes.ofText setup.provider).length + (Bytes.ofText setup.algorithm).length ≤ 1000 := by
    decide +kernel
  have block := Metadata.length_toBlock_service ⟨dataCid, Encoding.Base64.encode sealed, space,
    ⟨setup.provider, reference, setup.algorithm⟩⟩
  rw [KeyMaterial.length_combined] at size
  have combined : KeyMaterial.combinedSize = 48 := rfl
  refine Nat.lt_of_le_of_lt block ?_
  dsimp only
  omega

end Sample

namespace Adapter

open Sample

end Adapter

end Custody

end SealedContent
