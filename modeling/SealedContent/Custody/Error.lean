import SealedContent.Cipher.Error
import SealedContent.Content.Error
import SealedContent.Custody.Kind

/-!
What can go wrong when a key is wrapped or recovered, and how it is worded. Reasons that lie in the
reading of a foreign format have a star in their place.
-/

namespace SealedContent.Custody

open Cipher (CipherError)
open Content (BlockError)

inductive SignatureFault where
  | secretLength (actual : Nat)
  | wrongIssuer (invocation issuer : String)
  | encoding
  | malformed
  | mismatch
deriving DecidableEq

def SignatureFault.message : SignatureFault → String
  | .secretLength actual => s!"Ed25519 secret must be 32 bytes, got {actual}"
  | .wrongIssuer invocation issuer =>
      s!"invocation issued by {invocation} cannot be signed by {issuer}"
  | .encoding => "signature encoding: *"
  | .malformed => "*"
  | .mismatch => "signature does not match issuer key"

inductive ResponseFault where
  | receipt
  | setup
  | recipient
  | keyDecrypt
  | decryptedKey
  | keyHash
deriving DecidableEq

def ResponseFault.message : ResponseFault → String
  | .receipt => "receipt: *"
  | .setup => "encryption setup: *"
  | .recipient => "age recipient: *"
  | .keyDecrypt => "key decrypt: *"
  | .decryptedKey => "decrypted key: *"
  | .keyHash => "released key does not match plaintextKeyHash"

inductive CustodyError where
  | httpsRequired (url : String)
  | invalidUrl (url : String)
  | missingParameters (names : List String)
  | strategyMismatch (expected found : CustodyKind)
  | remote (name message : String)
  | unsupportedAlgorithm (name : String)
  | invalidResponse (fault : ResponseFault)
  | signature (fault : SignatureFault)
  | wrap
  | invalidKeyReference
  | cipher (error : CipherError)
  | block (error : BlockError)
  | http
deriving DecidableEq

def CustodyError.message : CustodyError → String
  | .httpsRequired url =>
      s!"key-custody URL must use HTTPS, got '{url}'. " ++
        "Plain HTTP is only permitted with allow_insecure_http in test environments."
  | .invalidUrl url => s!"invalid key-custody URL '{url}': *"
  | .missingParameters names =>
      "missing required parameters: " ++ String.intercalate ", " names
  | .strategyMismatch expected found =>
      s!"metadata uses the {found.name} strategy but this adapter implements {expected.name}"
  | .remote name message => s!"{name}: {message}"
  | .unsupportedAlgorithm name => s!"unsupported key-wrap algorithm '{name}'"
  | .invalidResponse fault =>
      s!"invalid response from key-custody service: {fault.message}"
  | .signature fault => s!"invocation signature error: {fault.message}"
  | .wrap => "key wrap failed: *"
  | .invalidKeyReference => "invalid key reference: *"
  | .cipher error => error.message
  | .block error => error.message
  | .http => "HTTP error: *"

end SealedContent.Custody
