import SealedContent.Cipher.Error

/-!
Keys, initialization vectors, and the 48-byte form in which the two travel together.
-/

namespace SealedContent.Cipher

structure SymmetricKey where
  bytes : Vector UInt8 32
deriving DecidableEq

structure Iv where
  bytes : Vector UInt8 16
deriving DecidableEq

structure KeyMaterial where
  key : SymmetricKey
  iv : Iv
deriving DecidableEq

def SymmetricKey.ofBytes (bytes : Bytes) : Except CipherError SymmetricKey :=
  match Bytes.toVector? 32 bytes with
  | some key => .ok ⟨key⟩
  | none => .error (.invalidKeyLength 32 bytes.length)

def Iv.ofBytes (bytes : Bytes) : Except CipherError Iv :=
  match Bytes.toVector? 16 bytes with
  | some iv => .ok ⟨iv⟩
  | none => .error (.invalidIvLength 16 bytes.length)

namespace KeyMaterial

def combinedSize : Nat := 48

def combined (material : KeyMaterial) : Bytes :=
  material.key.bytes.toList ++ material.iv.bytes.toList

/-- Key material from its two parts; a wrong key length is reported first. -/
def ofParts (key iv : Bytes) : Except CipherError KeyMaterial := do
  let key ← SymmetricKey.ofBytes key
  let iv ← Iv.ofBytes iv
  return ⟨key, iv⟩

def split (bytes : Bytes) : Except CipherError KeyMaterial :=
  if bytes.length = combinedSize then ofParts (bytes.take 32) (bytes.drop 32)
  else .error (.invalidCombinedLength combinedSize bytes.length)

/-- Takes random bytes as a key and what follows it; missing bytes are zero. -/
def ofRandom (bytes : Bytes) : KeyMaterial :=
  ⟨⟨Vector.ofFn fun index => bytes.getD index.val 0⟩,
    ⟨Vector.ofFn fun index => bytes.getD (32 + index.val) 0⟩⟩

@[simp] theorem length_combined (material : KeyMaterial) :
    material.combined.length = combinedSize := by
  simp [combined, combinedSize]

theorem split_combined (material : KeyMaterial) : split material.combined = .ok material := by
  have keySize : material.key.bytes.toList.length = 32 := by simp
  simp only [split, length_combined, ↓reduceIte]
  simp only [combined, ← keySize, List.take_left, List.drop_left]
  simp [ofParts, SymmetricKey.ofBytes, Iv.ofBytes, bind, Except.bind, pure, Except.pure]

def redacted : String :=
  "KeyMaterial \x7b key: SymmetricKey \x7b bytes: \"[REDACTED]\" \x7d, " ++
    "iv: Iv \x7b bytes: \"[REDACTED]\" \x7d \x7d"

end KeyMaterial

end SealedContent.Cipher
