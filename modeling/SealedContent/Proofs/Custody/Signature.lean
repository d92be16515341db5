import SealedContent.Proofs.Bytes.Text
import SealedContent.Proofs.Custody.Call
import SealedContent.Proofs.Encoding.Base64
import SealedContent.Proofs.Json.Text

/-!
What the signature of an invocation covers. The signed text determines every field, so a signature
for one invocation is good for another one only where it is good for a text that was never signed.
-/

namespace SealedContent

/-- A signature is taken for that of another message than the one it was made for. -/
def Curve.SignatureScheme.Transfers (scheme : SignatureScheme) (secret message publicKey other : Bytes) :
    Prop :=
  other ≠ message ∧ scheme.verify publicKey other (scheme.sign secret message) = true

namespace Custody

open Json (Value)

namespace Invocation

theorem fields_exact {invocation : Invocation} (exact : invocation.caveats.IsExact) :
    (Value.object invocation.fields).IsExact := by
  apply Value.IsExact.object
  intro field member
  simp only [fields, List.mem_cons, List.not_mem_nil, or_false] at member
  rcases member with rfl | rfl | rfl | rfl | rfl | rfl | rfl | rfl
  case inr.inr.inr.inr.inl => exact exact
  case inr.inr.inr.inr.inr.inl =>
    apply Value.IsExact.array
    intro item proof
    obtain ⟨text, -, rfl⟩ := List.mem_map.mp proof
    exact .string text
  case inr.inr.inr.inr.inr.inr.inr => exact .integer _
  all_goals exact .string _

theorem fields_injective {first second : Invocation} (same : first.fields = second.fields) :
    first = second := by
  obtain ⟨issuer, audience, ability, resource, caveats, proofs, nonce, expiry⟩ := first
  simp only [fields, List.cons.injEq, Prod.mk.injEq, Value.string.injEq, Value.array.injEq,
    Value.integer.injEq, true_and, and_true] at same
  obtain ⟨rfl, rfl, rfl, rfl, rfl, proofs_eq, rfl, expiry_eq⟩ := same
  have texts : Function.Injective Value.string := fun _ _ => Value.string.inj
  obtain rfl := List.map_injective_iff.mpr texts proofs_eq
  obtain rfl := Int.ofNat_inj.mp expiry_eq
  rfl

theorem signingText_injective {first second : Invocation} (firstExact : first.caveats.IsExact)
    (secondExact : second.caveats.IsExact) (same : first.signingText = second.signingText) :
    first = second := by
  have objects := Value.render_injective (fields_exact firstExact) (fields_exact secondExact) same
  exact fields_injective (Value.object.inj objects)

end Invocation

theorem SignedInvocation.verify_encode_iff {scheme : Curve.SignatureScheme}
    {invocation : Invocation} {signature publicKey : Bytes} :
    SignedInvocation.verify scheme ⟨invocation, Encoding.Base64.encode signature⟩ publicKey = .ok () ↔
      signature.length = 64 ∧
        scheme.verify publicKey (Bytes.ofText invocation.signingText) signature = true := by
  rw [verify, Encoding.Base64.decode?_encode]
  dsimp only
  split
  · simp_all
  · split <;> simp_all

/-- Two invocations are signed by the same bytes only if they agree in every field. So a signature over
one of them is accepted on a different one only if the scheme takes it for a message that was not
signed. -/
theorem Invocation.signature_covers_every_field (scheme : Curve.SignatureScheme)
    {first second : Invocation} (firstExact : first.caveats.IsExact)
    (secondExact : second.caveats.IsExact) :
    (Bytes.ofText first.signingText = Bytes.ofText second.signingText → first = second) ∧
    ∀ issuer signed publicKey, first.sign scheme issuer = .ok signed →
      SignedInvocation.verify scheme ⟨second, signed.signature⟩ publicKey = .ok () →
        second = first ∨ scheme.Transfers issuer.secret (Bytes.ofText first.signingText) publicKey
          (Bytes.ofText second.signingText) := by
  have covered : Bytes.ofText first.signingText = Bytes.ofText second.signingText →
      first = second := fun same =>
    signingText_injective firstExact secondExact (Bytes.ofText_injective same)
  refine ⟨covered, ?_⟩
  intro issuer signed publicKey made accepted
  obtain rfl := eq_signedBy_of_sign made
  obtain ⟨-, valid⟩ := SignedInvocation.verify_encode_iff.mp accepted
  by_cases same : second = first
  · exact .inl same
  · refine .inr ⟨?_, valid⟩
    intro texts
    exact same (covered texts.symm).symm

/-- An invocation on the strength of two proofs. -/
def Invocation.twoProofs : Invocation where
  issuer := "did:key:z6MkIssuer"
  audience := "did:web:kms.example"
  ability := Ability.keyDecrypt
  resource := "did:key:z6MkSpace"
  caveats := .object [("keyId", .string "abc"), ("levels", .array [.integer 7, .null, .bool true])]
  proofs := ["proof-1", "proof-2"]
  nonce := "AAECAwQFBgcICQoL"
  expiry := 300

/-- The same on the strength of one, whose text has the end of one proof and the start of another. -/
def Invocation.joinedProofs : Invocation :=
  { Invocation.twoProofs with proofs := ["proof-1\",\"proof-2"] }

theorem Invocation.joinedProofs_signed_apart :
    Invocation.twoProofs.caveats.IsExact ∧ Invocation.joinedProofs.caveats.IsExact ∧
      Bytes.ofText Invocation.twoProofs.signingText ≠
        Bytes.ofText Invocation.joinedProofs.signingText := by
  have levels : ∀ item ∈ [Value.integer 7, .null, .bool true], item.IsExact := by
    simp [Value.IsExact.integer, Value.IsExact.null, Value.IsExact.bool]
  have exact : Invocation.twoProofs.caveats.IsExact := by
    apply Value.IsExact.object
    simp [Value.IsExact.string, Value.IsExact.array levels]
  have joinedExact : Invocation.joinedProofs.caveats.IsExact := exact
  refine ⟨exact, joinedExact, ?_⟩
  intro same
  have equal := (Invocation.signature_covers_every_field Curve.ed25519 exact joinedExact).1 same
  have proofs := congrArg (fun invocation => invocation.proofs.length) equal
  cases proofs

end Custody

end SealedContent
