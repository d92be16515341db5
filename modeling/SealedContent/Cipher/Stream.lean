import SealedContent.Cipher.Aes
import SealedContent.Cipher.Chaining
import SealedContent.Cipher.Keystream
import SealedContent.Cipher.KeyMaterial
import SealedContent.Cipher.Algorithm

/-!
Encryption and decryption of chunk streams. A stream is the list of what its consumer sees: chunks,
ended early by at most one error. Whatever a stage does, an error of its input or of its own is the
last item it yields.
-/

namespace SealedContent.Cipher

abbrev StreamItem := Except CipherError Bytes

/-- A stage of a stream: what it makes of each chunk, and what it adds at the end. -/
structure Stage (State : Type) where
  step : State → Bytes → Except CipherError (Option Bytes × State)
  finish : State → Except CipherError (Option Bytes)

namespace Stage

def run {State : Type} (stage : Stage State) (state : State) : List StreamItem → List StreamItem
  | [] =>
      match stage.finish state with
      | .error failure => [.error failure]
      | .ok none => []
      | .ok (some chunk) => [.ok chunk]
  | .error failure :: _ => [.error failure]
  | .ok chunk :: rest =>
      match stage.step state chunk with
      | .error failure => [.error failure]
      | .ok (none, next) => stage.run next rest
      | .ok (some output, next) => .ok output :: stage.run next rest

end Stage

def nonEmpty? (chunk : Bytes) : Option Bytes :=
  if chunk.isEmpty then none else some chunk

def keystreamStage : Stage Keystream where
  step stream chunk :=
    let applied := stream.apply chunk
    match applied.failure with
    | some failure => .error failure
    | none => .ok (some applied.data, applied.after)
  finish _ := .ok none

def chainEncryptStage : Stage ChainEncryptor where
  step state chunk :=
    let (output, next) := state.update chunk
    .ok (nonEmpty? output, next)
  finish state := .ok (nonEmpty? state.finish)

def chainDecryptStage : Stage ChainDecryptor where
  step state chunk :=
    let (output, next) := state.update chunk
    .ok (nonEmpty? output, next)
  finish state := state.finish.map nonEmpty?

abbrev BlockCipher := SymmetricKey → BlockPermutation

def aes256 : BlockCipher := fun key => Aes.permutation key.bytes

def encryptStream (cipher : BlockCipher) (algorithm : CipherAlgorithm) (material : KeyMaterial)
    (input : List StreamItem) : List StreamItem :=
  let permutation := cipher material.key
  match algorithm with
  | .aesCtr => keystreamStage.run (Keystream.start permutation.encrypt ⟨material.iv.bytes⟩) input
  | .aesCbc => chainEncryptStage.run ⟨permutation.encrypt, material.iv.bytes, []⟩ input

def decryptStream (cipher : BlockCipher) (algorithm : CipherAlgorithm) (material : KeyMaterial)
    (input : List StreamItem) : List StreamItem :=
  let permutation := cipher material.key
  match algorithm with
  | .aesCtr => keystreamStage.run (Keystream.start permutation.encrypt ⟨material.iv.bytes⟩) input
  | .aesCbc => chainDecryptStage.run ⟨permutation.decrypt, material.iv.bytes, [], 0⟩ input

/-- All chunks joined, or the error that ends the stream. -/
def collect (items : List StreamItem) : Except CipherError Bytes := do
  let chunks ← items.mapM id
  return chunks.flatten

end SealedContent.Cipher
