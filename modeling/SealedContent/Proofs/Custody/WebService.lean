import SealedContent.Proofs.Custody.Honest
import SealedContent.Proofs.Json.Portable

/-!
A key service on the web. It knows an invocation by the text that arrives, and its answer is the text of a
receipt; where both texts say all there is, it serves as well as one that is asked directly.
-/

namespace SealedContent.Custody

open Json (Value Written)
open Web (Transport Url)

variable {σ : Type}

theorem Receipt.ofText?_toText {value : Value} (portable : value.Portable (Value.depthLimit - 1)) :
    ofText? (Receipt.ok value).toText = some (.ok value) := by
  have exact : (Value.object [("ok", value)]).IsExact := by
    apply Value.IsExact.object
    intro field member
    rw [List.mem_singleton.mp member]
    exact portable.isExact
  rw [ofText?, toText, Written.read?_render exact]
  simp [Value.spelled, Value.spelledFields, Written.fields?, portable.toValue?_spelled]

def Receipt.reply (receipt : Receipt) : Web.Reply :=
  ⟨200, none, none, [Bytes.ofText receipt.toText], true⟩

namespace Endpoint

variable {endpoint : Url} {transport : Transport σ} {signed : SignedInvocation} {state after : σ}

theorem readReply_of_receipt {receipt : Receipt}
    (read : Receipt.ofText? receipt.toText = some receipt) :
    readReply receipt.reply = receipt.result := by
  simp [readReply, Web.Reply.body?, Receipt.reply, Bytes.toText?_ofText, read]

theorem peer_of_receipt {receipt : Receipt}
    (replied : transport (request endpoint signed) state = (some receipt.reply, after))
    (read : Receipt.ofText? receipt.toText = some receipt) :
    peer endpoint transport signed state = (receipt.result, after) := by
  have final : Transport.next? (request endpoint signed) receipt.reply = none := rfl
  have sent : transport.send (request endpoint signed) state = (some receipt.reply, after) := by
    rw [Transport.send, Transport.follow, replied]
    dsimp only
    rw [final]
  rw [peer, sent]
  dsimp only
  rw [readReply_of_receipt read]

end Endpoint

namespace KeyService

/-- A setup with its fields in order. -/
def orderedOffer (setup : EncryptionSetup) : Value :=
  .object [("algorithm", .string setup.algorithm), ("keyReference", .string setup.keyReference),
    ("provider", .string setup.provider), ("publicKey", .string setup.publicKey)]

theorem orderedOffer_givenBy (setup : EncryptionSetup) :
    EncryptionSetup.GivenBy (orderedOffer setup) setup :=
  ⟨rfl, rfl, rfl, rfl⟩

theorem orderedOffer_portable (setup : EncryptionSetup) :
    (orderedOffer setup).Portable (Value.depthLimit - 1) := by
  refine @Value.Portable.object 125 _ ?_ ?_
  · simp only [List.map_cons, List.map_nil]
    decide
  · simp [Value.Portable.string]

def release (content : Bytes) : Value :=
  .object [("decryptedSymmetricKey", .string (Encoding.Base64.encode content))]

theorem release_portable (content : Bytes) : (release content).Portable (Value.depthLimit - 1) := by
  refine @Value.Portable.object 125 _ ?_ ?_
  · exact List.pairwise_singleton _ _
  · simp [Value.Portable.string]

/-- What a holder of one identity, which gives out one setup, answers to an invocation. -/
def receiptFor (suite : Suite) (identity : Bytes) (setup : EncryptionSetup)
    (signed : SignedInvocation) : Receipt :=
  if signed.invocation.ability = Ability.encryptionSetup then .ok (orderedOffer setup)
  else
    match opened? suite identity setup.keyReference signed.invocation.caveats with
    | some content => .ok (release content)
    | none => .error ⟨"KeyDecryptFailed", "key cannot be opened"⟩

/-- The web with a holder of one identity on it. -/
def webHolder (suite : Suite) (identity : Bytes) (setup : EncryptionSetup) : Transport σ :=
  fun request state =>
    match (Bytes.toText? request.body).bind SignedInvocation.ofText? with
    | some signed => (some (receiptFor suite identity setup signed).reply, state)
    | none => (some ⟨400, none, none, [], true⟩, state)

variable {suite : Suite} {entropy : Sealing.SealEntropy} {identity : Bytes} {setup : EncryptionSetup}

theorem peer_webHolder {signed : SignedInvocation} (legible : signed.Legible) {value : Value}
    (answers : receiptFor suite identity setup signed = .ok value)
    (portable : value.Portable (Value.depthLimit - 1)) (endpoint : Url) (state : σ) :
    Endpoint.peer endpoint (webHolder suite identity setup) signed state = (.ok value, state) := by
  have arrived : (Bytes.toText? (Endpoint.request endpoint signed).body).bind
      SignedInvocation.ofText? = some signed := by
    rw [Endpoint.request, Bytes.toText?_ofText, Option.bind_some]
    exact legible
  have replied : webHolder suite identity setup (Endpoint.request endpoint signed) state =
      (some (Receipt.ok value).reply, state) := by
    simp only [webHolder, arrived, answers]
  exact Endpoint.peer_of_receipt replied (Receipt.ofText?_toText portable)

theorem peer_webHolder_setup {signed : SignedInvocation} (legible : signed.Legible)
    (asked : signed.invocation.ability = Ability.encryptionSetup) (endpoint : Url) (state : σ) :
    Endpoint.peer endpoint (webHolder suite identity setup) signed state =
      (.ok (orderedOffer setup), state) := by
  have answers : receiptFor suite identity setup signed = .ok (orderedOffer setup) := by
    rw [receiptFor, if_pos asked]
  exact peer_webHolder legible answers (orderedOffer_portable setup) endpoint state

theorem webHolder_reliable (names : setup.Names suite entropy identity) (issuer : Issuer)
    (space : String) (service : KeyService) :
    service.Reliable suite entropy issuer space
      (Endpoint.peer service.endpoint (webHolder suite identity setup) : Peer σ)
      fun _ reference kept => reference = setup.keyReference ∧ kept = identity where
  keeps _ _ _ _ kept := kept
  offers signed state legible asks := by
    rw [peer_webHolder_setup legible asks.ability_eq]
    exact ⟨_, setup, identity, rfl, orderedOffer_givenBy setup, names, rfl, rfl⟩
  opens signed state keyId reference kept text sealed content legible asks _ named decoded held given
      read opens := by
    obtain ⟨rfl, rfl⟩ := held
    have other : signed.invocation.ability ≠ Ability.encryptionSetup := by
      rw [asks.ability_eq]
      decide
    have answers : receiptFor suite kept setup signed = .ok (release content) := by
      rw [receiptFor, if_neg other, opened?_of_named named decoded given read opens]
    rw [peer_webHolder legible answers (release_portable content)]
    exact ⟨_, rfl, rfl⟩

end KeyService

end SealedContent.Custody
