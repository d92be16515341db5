import SealedContent.Bytes.Basic

/-!
What can go wrong with keys and cipher streams, and how it is worded.
-/

namespace SealedContent.Cipher

inductive CipherError where
  | invalidKeyLength (expected actual : Nat)
  | invalidIvLength (expected actual : Nat)
  | invalidCombinedLength (expected actual : Nat)
  /-- Advancing the counter would pass its last value and reuse keystream. -/
  | counterOverflow (blocks : Nat)
  | invalidCiphertextLength (length : Nat)
  | invalidPadding
  /-- The source of a stream failed. -/
  | input (reason : String)
deriving DecidableEq, Repr

def CipherError.message : CipherError → String
  | .invalidKeyLength expected actual =>
      s!"invalid key length: expected {expected}, got {actual}"
  | .invalidIvLength expected actual =>
      s!"invalid IV length: expected {expected}, got {actual}"
  | .invalidCombinedLength expected actual =>
      s!"invalid combined key material length: expected {expected}, got {actual}"
  | .counterOverflow blocks =>
      s!"block counter overflow: cannot advance by {blocks} blocks"
  | .invalidCiphertextLength length =>
      s!"invalid ciphertext length: {length} bytes is not a positive multiple of the block size"
  | .invalidPadding => "invalid padding in final ciphertext block"
  | .input reason => s!"I/O error in stream: {reason}"

end SealedContent.Cipher
