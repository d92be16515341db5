import SealedContent.Sealing.ChaCha

/-!
Encryption with a tag of sixteen bytes that shows any change of the ciphertext.
-/

namespace SealedContent.Sealing

namespace Poly1305

def prime : Nat := Nat.pow 2 130 - 5

/-- The multiplier has some of its bits cleared. -/
def multiplierMask : Nat := 0x0ffffffc0ffffffc0ffffffc0fffffff

/-- The value of a message as a polynomial in pieces of sixteen bytes, each with a one after it. -/
def evaluate (multiplier : Nat) (message : Bytes) : Nat :=
  (Bytes.pieces 16 message).foldl (fun value piece =>
    (value + (Bytes.littleEndian piece + Nat.pow 256 piece.length)) * multiplier % prime) 0

def tag (key message : Bytes) : Bytes :=
  let multiplier := Bytes.littleEndian (key.take 16) &&& multiplierMask
  Bytes.ofNatLittle 16 (evaluate multiplier message + Bytes.littleEndian (key.drop 16))

end Poly1305

namespace Authenticated

def tagLength : Nat := 16

/-- What the tag covers: the ciphertext filled to whole pieces, and its length. -/
def covered (ciphertext : Bytes) : Bytes :=
  ciphertext ++ List.replicate ((16 - ciphertext.length % 16) % 16) 0 ++
    Bytes.ofNatLittle 8 0 ++ Bytes.ofNatLittle 8 ciphertext.length

def tag (key nonce ciphertext : Bytes) : Bytes :=
  Poly1305.tag ((ChaCha.block key nonce 0).take 32) (covered ciphertext)

def encrypt (key nonce plaintext : Bytes) : Bytes :=
  let ciphertext := ChaCha.apply key nonce 1 plaintext
  ciphertext ++ tag key nonce ciphertext

def decrypt? (key nonce sealed : Bytes) : Option Bytes :=
  let length := sealed.length - tagLength
  let ciphertext := sealed.take length
  if tagLength ≤ sealed.length ∧ sealed.drop length = tag key nonce ciphertext then
    some (ChaCha.apply key nonce 1 ciphertext)
  else none

end Authenticated

end SealedContent.Sealing
