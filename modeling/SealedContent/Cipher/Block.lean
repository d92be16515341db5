import SealedContent.Bytes.Basic

/-!
Sixteen-byte blocks and the permutations that block ciphers apply to them. A permutation carries
its inverse, so a mode of operation can be reasoned about without the cipher behind it.
-/

namespace SealedContent.Cipher

abbrev Block := Vector UInt8 16

namespace Block

def xor (left right : Block) : Block :=
  Vector.zipWith (fun byte other => byte ^^^ other) left right

@[simp] theorem getElem_xor (left right : Block) {index : Nat} (bound : index < 16) :
    (left.xor right)[index] = left[index] ^^^ right[index] :=
  Vector.getElem_zipWith bound

@[simp] theorem xor_xor_cancel (block key : Block) : xor (xor block key) key = block := by
  ext index bound
  simp only [getElem_xor, UInt8.xor_assoc, UInt8.xor_self, UInt8.xor_zero]

def ofBytes? (bytes : Bytes) : Option Block :=
  Bytes.toVector? 16 bytes

/-- Cuts whole blocks off the front; fewer than sixteen bytes remain. -/
def split (data : Bytes) : List Block × Bytes :=
  if bound : (data.take 16).length = 16 then
    let (blocks, rest) := split (data.drop 16)
    (⟨(data.take 16).toArray, by simpa using bound⟩ :: blocks, rest)
  else ([], data)
termination_by data.length
decreasing_by simp only [List.length_take, List.length_drop] at *; omega

def join (blocks : List Block) : Bytes :=
  blocks.flatMap fun block => block.toList

end Block

structure BlockPermutation where
  encrypt : Block → Block
  decrypt : Block → Block
  decrypt_encrypt : ∀ block, decrypt (encrypt block) = block
  encrypt_decrypt : ∀ block, encrypt (decrypt block) = block

namespace BlockPermutation

def andThen (first second : BlockPermutation) : BlockPermutation where
  encrypt block := second.encrypt (first.encrypt block)
  decrypt block := first.decrypt (second.decrypt block)
  decrypt_encrypt block := by rw [second.decrypt_encrypt, first.decrypt_encrypt]
  encrypt_decrypt block := by rw [first.encrypt_decrypt, second.encrypt_decrypt]

/-- Exclusive or with a fixed block undoes itself. -/
def addKey (key : Block) : BlockPermutation where
  encrypt block := block.xor key
  decrypt block := block.xor key
  decrypt_encrypt block := Block.xor_xor_cancel block key
  encrypt_decrypt block := Block.xor_xor_cancel block key

end BlockPermutation

end SealedContent.Cipher
