import SealedContent.Proofs.Custody.Observed
import SealedContent.Proofs.Custody.Signature
import SealedContent.Proofs.Json.Portable

/-!
Invocations on their way. What a receiver reads from the text of a signed invocation is the invocation
that was signed, so its signature is checked over the very bytes that it was made for.
-/

namespace SealedContent

/-- What a scheme signs with a secret it accepts for the public key of this secret. -/
structure Curve.SignatureScheme.Recognises (scheme : SignatureScheme) (secret message : Bytes) :
    Prop where
  length_sign : (scheme.sign secret message).length = 64
  verify_sign : scheme.verify (scheme.publicKey secret) message (scheme.sign secret message) = true

theorem Curve.Ed25519.length_sign (secret message : Bytes) :
    (Curve.Ed25519.sign secret message).length = 64 := by
  simp [Curve.Ed25519.sign, Curve.EdwardsPoint.encode]

namespace Custody

open Cipher (KeyMaterial)
open Json (Value Written)
open Record (Metadata)

/-- The levels of arrays and objects up to which caveats are sent. -/
def Invocation.caveatLevels : Nat := 100

/-- An invocation that its text determines: its caveats are what a reader makes of their text, and its
expiry is an integer of 64 bits. -/
structure Invocation.Portable (invocation : Invocation) : Prop where
  caveats : invocation.caveats.Portable caveatLevels
  expiry : invocation.expiry < 2 ^ 64

namespace Invocation

variable {invocation : Invocation}

theorem Portable.fields (portable : invocation.Portable) :
    ∀ field ∈ invocation.fields, field.2.Portable (Value.depthLimit - 1) := by
  have caveats := portable.caveats.mono (show caveatLevels ≤ Value.depthLimit - 1 by decide)
  have expiry := portable.expiry
  intro field member
  simp only [Invocation.fields, List.mem_cons, List.not_mem_nil, or_false] at member
  rcases member with rfl | rfl | rfl | rfl | rfl | rfl | rfl | rfl
  case inr.inr.inr.inr.inl => exact caveats
  case inr.inr.inr.inr.inr.inl =>
    refine @Value.Portable.array 125 _ ?_
    intro item proof
    obtain ⟨text, -, rfl⟩ := List.mem_map.mp proof
    exact .string text
  case inr.inr.inr.inr.inr.inr.inr => exact .integer (by omega) (by omega)
  all_goals exact .string _

theorem mapM_text? (texts : List String) :
    (texts.map Value.string).mapM Value.text? = some texts := by
  induction texts with
  | nil => rfl
  | cons text texts induction =>
      rw [List.map_cons, List.mapM_cons, induction]
      rfl

theorem ofValues?_fields (invocation : Invocation) :
    ofValues? (invocation.fields.map Prod.snd) = some invocation := by
  have expiry : expiry? (.integer invocation.expiry) = some invocation.expiry := by
    rw [expiry?, if_pos (Int.natCast_nonneg _), Int.toNat_natCast]
  simp only [fields, List.map_cons, List.map_nil, ofValues?, mapM_text?, expiry,
    Option.bind_eq_bind, Option.bind_some]
  rfl

end Invocation

namespace SignedInvocation

theorem ofText?_toText {signed : SignedInvocation} (portable : signed.invocation.Portable) :
    ofText? signed.toText = some signed := by
  let fields := signed.invocation.fields ++ [("sig", Value.string signed.signature)]
  have each : ∀ field ∈ fields, field.2.Portable (Value.depthLimit - 1) := by
    intro field member
    rcases List.mem_append.mp member with member | member
    · exact portable.fields field member
    · rw [List.mem_singleton.mp member]
      exact .string _
  have exact := Value.IsExact.object fun field member => (each field member).isExact
  have signature : Json.onlyField? "sig" fields = some (.string signed.signature) := by
    simp [fields, Invocation.fields, Json.onlyField?]
  have values : (Invocation.names.mapM fun name => Json.onlyField? name fields) =
      some (signed.invocation.fields.map Prod.snd) := by
    simp [fields, Invocation.fields, Invocation.names, Json.onlyField?]
  have read := Written.toFields?_spelled fun field member => (each field member).toValue?_spelled
  rw [ofText?, toText, Written.read?_render exact, Value.spelled]
  simp only [Option.bind_eq_bind, Option.bind_some, read, signature, values, Value.text?,
    Invocation.ofValues?_fields]
  rfl

/-- What comes of a signed invocation where its text arrives: the same invocation over the same signed
bytes, with the same outcome of its check for every key, which is a success for the key of its issuer
if the scheme recognises what it signed. -/
def Arrives (scheme : Curve.SignatureScheme) (issuer : Issuer) (signed : SignedInvocation) : Prop :=
  ∃ received, ofText? signed.toText = some received ∧ received = signed ∧
    Bytes.ofText received.invocation.signingText = Bytes.ofText signed.invocation.signingText ∧
    (∀ publicKey, received.verify scheme publicKey = signed.verify scheme publicKey) ∧
    (scheme.Recognises issuer.secret (Bytes.ofText signed.invocation.signingText) →
      received.verify scheme (scheme.publicKey issuer.secret) = .ok ())

end SignedInvocation

namespace Invocation

variable {scheme : Curve.SignatureScheme} {issuer : Issuer} {invocation : Invocation}

theorem Portable.arrives (portable : invocation.Portable) (scheme : Curve.SignatureScheme)
    (issuer : Issuer) : (invocation.signedBy scheme issuer).Arrives scheme issuer := by
  refine ⟨_, SignedInvocation.ofText?_toText portable, rfl, rfl, fun _ => rfl, fun recognised => ?_⟩
  exact SignedInvocation.verify_encode_iff.mpr ⟨recognised.length_sign, recognised.verify_sign⟩

theorem caveat_portable (key text : String) :
    (Value.ofFields [(key, .string text)]).Portable caveatLevels := by
  refine @Value.Portable.object 99 _ ?_ ?_
  · exact List.pairwise_singleton _ _
  · intro field member
    rw [List.mem_singleton.mp member]
    exact .string text

theorem make_portable (issuer : Issuer) (audience ability resource : String) {caveats : Value}
    (portable : caveats.Portable caveatLevels) (proofs : List String) (moment : Moment) :
    (make issuer audience ability resource caveats proofs moment).Portable where
  caveats := portable
  expiry := Nat.lt_of_le_of_lt (Nat.min_le_right _ _) (by decide)

end Invocation

namespace KeyService

theorem setupCaveats_portable (space : String) :
    (setupCaveats space).Portable Invocation.caveatLevels :=
  Invocation.caveat_portable "keyId" _

theorem decryptCaveats_portable (encryptedKey : String) (fields : Record.ServiceRecord) :
    (decryptCaveats encryptedKey fields).Portable Invocation.caveatLevels := by
  have caveats : decryptCaveats encryptedKey fields =
      .object [("algorithm", .string fields.keyInfo.algorithm),
        ("encryptedSymmetricKey", .string encryptedKey), ("keyId", .string fields.keyInfo.keyId)] :=
    rfl
  rw [caveats]
  refine @Value.Portable.object 99 _ ?_ ?_
  · simp only [List.map_cons, List.map_nil]
    decide
  · simp [Value.Portable.string]

end KeyService

theorem ThresholdNetwork.caveats_portable (fields : Record.ThresholdRecord) :
    (Value.ofFields [("resource", .string fields.dataCid.toText)]).Portable
      Invocation.caveatLevels :=
  Invocation.caveat_portable "resource" _

namespace Custodian

variable {σ : Type} {suite : Suite} {requester : Requester}

/-- What goes along with a call is signed by the requester's issuer, and its text determines it. -/
def SentFor (suite : Suite) (requester : Requester) (call : Call) : Prop :=
  ∀ signed, call.invocation? = some signed → ∃ (issuer : Issuer) (invocation : Invocation),
    requester.issuer = some issuer ∧ invocation.Portable ∧
      signed = invocation.signedBy suite.signing issuer

theorem sentFor_of_signed {call : Call} {issuer : Issuer} (own : requester.issuer = some issuer)
    {invocation : Invocation} (portable : invocation.Portable)
    (along : call.invocation? = some (invocation.signedBy suite.signing issuer)) :
    SentFor suite requester call := by
  intro signed same
  cases along.symm.trans same
  exact ⟨issuer, invocation, own, portable, rfl⟩

theorem sentFor_of_wrap (custodian : Custodian σ) (chance : Chance) (material : KeyMaterial)
    (state : σ) : ∀ call ∈ (custodian.observed.wrap suite chance material requester (state, [])).2.2,
      SentFor suite requester call := by
  cases custodian with
  | keyService service peer =>
      obtain ⟨missing, -, refused, granted⟩ := requester.exists_identity
      by_cases complete : missing = []
      · obtain ⟨space, issuer, own, identified⟩ := granted complete
        simp only [wrap, observed, KeyService.wrap_of_identity identified, Peer.observed,
          List.nil_append, List.forall_mem_singleton]
        exact sentFor_of_signed own
          (Invocation.make_portable _ _ _ _ (KeyService.setupCaveats_portable space) _ _) rfl
      · simp [wrap, observed, KeyService.wrap, refused complete]
  | threshold network =>
      cases named : requester.namedSpace? with
      | none => simp [wrap, observed, ThresholdNetwork.wrap, named]
      | some space =>
          simp only [wrap, observed, ThresholdNetwork.wrap_of_named named,
            ThresholdNetwork.observed, List.nil_append, List.forall_mem_singleton]
          intro signed impossible
          cases impossible

theorem sentFor_of_unwrap (custodian : Custodian σ) (moment : Moment) (encryptedKey : String)
    (metadata : Metadata) (state : σ) :
    ∀ call ∈ (custodian.observed.unwrap suite moment encryptedKey metadata requester
      (state, [])).2.2, SentFor suite requester call := by
  by_cases complete : requester.missing = []
  · obtain ⟨space, issuer, own, authorized⟩ := Requester.exists_authority complete
    by_cases same : metadata.kind = custodian.observed.kind
    · cases custodian with
      | keyService service peer =>
          cases metadata with
          | service fields =>
              simp only [unwrap, observed, KeyService.unwrap_of_authority authorized, Peer.observed,
                List.nil_append, List.forall_mem_singleton]
              exact sentFor_of_signed own (Invocation.make_portable _ _ _ _
                (KeyService.decryptCaveats_portable encryptedKey fields) _ _) rfl
          | threshold fields => cases same
      | threshold network =>
          cases metadata with
          | service fields => cases same
          | threshold fields =>
              simp only [unwrap, observed, ThresholdNetwork.unwrap_of_authority authorized,
                ThresholdNetwork.observed, List.nil_append, List.forall_mem_singleton]
              exact sentFor_of_signed own (Invocation.make_portable _ _ _ _
                (ThresholdNetwork.caveats_portable fields) _ _) rfl
    · simp [unwrap_of_other_kind authorized custodian.observed same]
  · simp [unwrap_of_refused (Requester.authority_of_missing complete)]

end Custodian

/-- An invocation that was signed by its own issuer arrives as it was signed, whatever texts, proofs and
expiry it has, and so does every invocation that a custodian sends when a key is wrapped or unwrapped. -/
theorem Invocation.invocations_survive_transport (suite : Suite) :
    (∀ (issuer : Issuer) (invocation : Invocation) (signed : SignedInvocation),
      invocation.caveats.Portable 100 → invocation.expiry < 2 ^ 64 →
        invocation.sign suite.signing issuer = .ok signed → signed.Arrives suite.signing issuer) ∧
    ∀ {σ : Type} (custodian : Custodian σ) (requester : Requester) (issuer : Issuer) (state : σ),
      requester.issuer = some issuer →
      (∀ chance material,
        ∀ call ∈ (custodian.observed.wrap suite chance material requester (state, [])).2.2,
          ∀ signed, call.invocation? = some signed → signed.Arrives suite.signing issuer) ∧
      ∀ moment encryptedKey metadata,
        ∀ call ∈ (custodian.observed.unwrap suite moment encryptedKey metadata requester
            (state, [])).2.2,
          ∀ signed, call.invocation? = some signed → signed.Arrives suite.signing issuer := by
  have arrives {requester : Requester} {issuer : Issuer} (own : requester.issuer = some issuer)
      {call : Call} (sent : Custodian.SentFor suite requester call) (signed : SignedInvocation)
      (along : call.invocation? = some signed) : signed.Arrives suite.signing issuer := by
    obtain ⟨signer, invocation, same, portable, rfl⟩ := sent signed along
    cases own.symm.trans same
    exact portable.arrives suite.signing issuer
  constructor
  · intro issuer invocation signed caveats expiry made
    obtain rfl := eq_signedBy_of_sign made
    exact Portable.arrives ⟨caveats, expiry⟩ suite.signing issuer
  · intro σ custodian requester issuer state own
    constructor
    · intro chance material call member
      exact arrives own (Custodian.sentFor_of_wrap custodian chance material state call member)
    · intro moment encryptedKey metadata call member
      exact arrives own
        (Custodian.sentFor_of_unwrap custodian moment encryptedKey metadata state call member)

/-- An invocation with escapes, signs beyond 16 bits, nested caveats and the largest expiry. -/
def Invocation.farTravelled : Invocation where
  issuer := "ü😀"
  audience := "\""
  ability := ""
  resource := "\n\x00"
  caveats := .object [("a", .array [.integer (-9223372036854775808), .null, .object []]),
    ("b", .integer 18446744073709551615)]
  proofs := ["p", ""]
  nonce := "/"
  expiry := 18446744073709551615

theorem Invocation.farTravelled_verified :
    let issuer : Issuer := ⟨"ü😀", List.replicate 32 5, rfl⟩
    ∃ signed received, farTravelled.sign Curve.ed25519 issuer = .ok signed ∧
      SignedInvocation.ofText? signed.toText = some received ∧
      received.verify Curve.ed25519 (Curve.ed25519.publicKey issuer.secret) = .ok () := by
  intro issuer
  have caveats : farTravelled.caveats.Portable 100 := by
    have least : (Value.integer (-9223372036854775808)).Portable 98 := .integer (by decide) (by decide)
    have empty : (Value.object []).Portable 98 :=
      @Value.Portable.object 97 [] .nil (List.forall_mem_nil _)
    have items := @Value.Portable.array 98 _
      (List.forall_mem_cons.mpr ⟨least, List.forall_mem_cons.mpr
        ⟨.null, List.forall_mem_cons.mpr ⟨empty, List.forall_mem_nil _⟩⟩⟩)
    have greatest : (Value.integer 18446744073709551615).Portable 99 :=
      .integer (by decide) (by decide)
    exact @Value.Portable.object 99 _ (by decide)
      (List.forall_mem_cons.mpr ⟨items, List.forall_mem_cons.mpr ⟨greatest, List.forall_mem_nil _⟩⟩)
  have made : farTravelled.sign Curve.ed25519 issuer = .ok _ := sign_eq Curve.ed25519 rfl
  have recognised : Curve.ed25519.Recognises issuer.secret (Bytes.ofText farTravelled.signingText) :=
    ⟨Curve.Ed25519.length_sign _ _, by decide +kernel⟩
  obtain ⟨received, read, -, -, -, verified⟩ := (invocations_survive_transport Suite.standard).1 issuer
    farTravelled _ caveats (by decide) made
  exact ⟨_, received, made, read, verified recognised⟩

end Custody

end SealedContent
