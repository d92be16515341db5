import SealedContent.Cipher.Block
import SealedContent.Cipher.Error

/-!
Cipher block chaining with padding to whole blocks. Encryption releases every block as soon as it
is complete; decryption keeps the last block back until it knows that the input ends there, since
that block holds the padding.
-/

namespace SealedContent.Cipher

namespace Chaining

/-- Each plaintext block is combined with the ciphertext block before it. -/
def encryptBlocks (encrypt : Block → Block) : Block → List Block → List Block
  | _, [] => []
  | previous, plain :: rest =>
      let sealedBlock := encrypt (previous.xor plain)
      sealedBlock :: encryptBlocks encrypt sealedBlock rest

def decryptBlocks (decrypt : Block → Block) : Block → List Block → List Block
  | _, [] => []
  | previous, sealedBlock :: rest =>
      (decrypt sealedBlock).xor previous :: decryptBlocks decrypt sealedBlock rest

/-- Fills the last, incomplete block; every added byte states how many were added. -/
def pad (tail : Bytes) : Bytes :=
  let count := 16 - tail.length
  tail ++ List.replicate count (UInt8.ofNat count)

/-- Removes the padding of a final block, if it is padded as `pad` does it. -/
def unpad? (last : Bytes) : Option Bytes :=
  let count := (last.getLast?.getD 0).toNat
  let keep := last.length - count
  if 1 ≤ count ∧ count ≤ 16 ∧ (last.drop keep).all (fun byte => byte.toNat = count) then
    some (last.take keep)
  else none

end Chaining

structure ChainEncryptor where
  encrypt : Block → Block
  previous : Block
  /-- Fewer than sixteen bytes that wait for the rest of their block. -/
  pending : Bytes

namespace ChainEncryptor

def update (state : ChainEncryptor) (chunk : Bytes) : Bytes × ChainEncryptor :=
  let (plain, pending) := Block.split (state.pending ++ chunk)
  let output := Chaining.encryptBlocks state.encrypt state.previous plain
  (Block.join output,
    { state with previous := output.getLast?.getD state.previous, pending := pending })

def finish (state : ChainEncryptor) : Bytes :=
  Block.join (Chaining.encryptBlocks state.encrypt state.previous
    (Block.split (Chaining.pad state.pending)).1)

end ChainEncryptor

structure ChainDecryptor where
  decrypt : Block → Block
  previous : Block
  /-- At most sixteen bytes; a complete block among them may be the last. -/
  pending : Bytes
  total : Nat

namespace ChainDecryptor

/-- Whole blocks that something follows, and the bytes kept back. -/
def release (data : Bytes) : List Block × Bytes :=
  let (blocks, rest) := Block.split data
  if rest.isEmpty then (blocks.dropLast, (blocks.getLast?.map Vector.toList).getD [])
  else (blocks, rest)

def update (state : ChainDecryptor) (chunk : Bytes) : Bytes × ChainDecryptor :=
  let (ready, pending) := release (state.pending ++ chunk)
  (Block.join (Chaining.decryptBlocks state.decrypt state.previous ready),
    { state with
      previous := ready.getLast?.getD state.previous
      pending := pending
      total := state.total + chunk.length })

def finish (state : ChainDecryptor) : Except CipherError Bytes :=
  match Block.ofBytes? state.pending with
  | none => .error (.invalidCiphertextLength state.total)
  | some last =>
      match Chaining.unpad? ((state.decrypt last).xor state.previous).toList with
      | none => .error .invalidPadding
      | some plain => .ok plain

end ChainDecryptor

end SealedContent.Cipher
