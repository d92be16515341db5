import SealedContent.Custody.Error
import SealedContent.Custody.Suite
import SealedContent.Encoding.Base64
import SealedContent.Json.Record
import SealedContent.Text.Quoted

/-!
Signed invocations of an ability on a resource, on the strength of proofs. The signature covers the
JSON text of every other field.
-/

namespace SealedContent.Custody

open Curve (SignatureScheme)
open Json (Value Written)

namespace Ability

def encryptionSetup : String := "space/encryption/setup"

def keyDecrypt : String := "space/encryption/key/decrypt"

def contentDecrypt : String := "space/content/decrypt"

end Ability

/-- Whoever signs invocations, with a secret of 32 bytes. -/
structure Issuer where
  did : String
  secret : Bytes
  length_secret : secret.length = 32
deriving DecidableEq

def Issuer.ofSecret (did : String) (secret : Bytes) : Except CustodyError Issuer :=
  if bound : secret.length = 32 then .ok ⟨did, secret, bound⟩
  else .error (.signature (.secretLength secret.length))

def Issuer.redacted (issuer : Issuer) : String :=
  s!"Issuer \x7b did: {Text.quoted issuer.did}, signing_key: \"[REDACTED]\" \x7d"

structure Invocation where
  issuer : String
  audience : String
  ability : String
  resource : String
  caveats : Value
  proofs : List String
  nonce : String
  /-- Seconds since the epoch. -/
  expiry : Nat

namespace Invocation

def lifetime : Nat := 300

def expiryBound : Nat := UInt64.size

def make (issuer : Issuer) (audience ability resource : String) (caveats : Value)
    (proofs : List String) (moment : Moment) : Invocation where
  issuer := issuer.did
  audience := audience
  ability := ability
  resource := resource
  caveats := caveats
  proofs := proofs
  nonce := String.ofList (Encoding.base64Url.encode moment.nonce)
  expiry := min (moment.now + lifetime) (expiryBound - 1)

def fields (invocation : Invocation) : List (String × Value) :=
  [("iss", .string invocation.issuer), ("aud", .string invocation.audience),
    ("can", .string invocation.ability), ("with", .string invocation.resource),
    ("nb", invocation.caveats), ("prf", .array (invocation.proofs.map .string)),
    ("nonce", .string invocation.nonce), ("exp", .integer invocation.expiry)]

def signingText (invocation : Invocation) : String :=
  Value.render (.object invocation.fields)

def names : List String := ["iss", "aud", "can", "with", "nb", "prf", "nonce", "exp"]

def expiry? : Value → Option Nat
  | .integer value => if 0 ≤ value then some value.toNat else none
  | _ => none

def ofValues? : List Value → Option Invocation
  | [.string issuer, .string audience, .string ability, .string resource, caveats,
      .array proofs, .string nonce, expiry] => do
      let proofs ← proofs.mapM Value.text?
      let expiry ← expiry? expiry
      return ⟨issuer, audience, ability, resource, caveats, proofs, nonce, expiry⟩
  | _ => none

/-- Reads an invocation from an object, or from the list of its fields. -/
def ofText? (text : String) : Option Invocation := do
  let written ← Written.read? text
  let fields ← written.record? names
  let values ← Written.toValues? (Value.depthLimit - 1) fields
  ofValues? values

end Invocation

structure SignedInvocation where
  invocation : Invocation
  signature : String

namespace Invocation

/-- Only its own issuer signs an invocation. -/
def sign (scheme : SignatureScheme) (invocation : Invocation) (issuer : Issuer) :
    Except CustodyError SignedInvocation :=
  if issuer.did ≠ invocation.issuer then
    .error (.signature (.wrongIssuer invocation.issuer issuer.did))
  else
    let signature := scheme.sign issuer.secret (Bytes.ofText invocation.signingText)
    .ok ⟨invocation, Encoding.Base64.encode signature⟩

end Invocation

namespace SignedInvocation

def verify (scheme : SignatureScheme) (signed : SignedInvocation) (publicKey : Bytes) :
    Except CustodyError Unit :=
  match Encoding.Base64.decode? signed.signature with
  | none => .error (.signature .encoding)
  | some signature =>
      if signature.length ≠ 64 then .error (.signature .malformed)
      else if scheme.verify publicKey (Bytes.ofText signed.invocation.signingText) signature then
        .ok ()
      else .error (.signature .mismatch)

def isExpired (signed : SignedInvocation) (now : Nat) : Bool :=
  signed.invocation.expiry ≤ now

/-- The fields of the invocation and then the signature. -/
def toText (signed : SignedInvocation) : String :=
  Value.render (.object (signed.invocation.fields ++ [("sig", .string signed.signature)]))

/-- Reads a signed invocation, which must be an object all of whose fields are sound. -/
def ofText? (text : String) : Option SignedInvocation := do
  match ← Written.read? text with
  | .object fields =>
      let read ← Written.toFields? (Value.depthLimit - 1) fields
      let signature ← (← Json.onlyField? "sig" read).text?
      let values ← Invocation.names.mapM fun name => Json.onlyField? name read
      let invocation ← Invocation.ofValues? values
      return ⟨invocation, signature⟩
  | _ => none

end SignedInvocation

end SealedContent.Custody
