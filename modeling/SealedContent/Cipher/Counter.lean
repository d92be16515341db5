import SealedContent.Cipher.Error

/-!
The block counter of counter mode: sixteen bytes, most significant first, advanced by rippling a
carry from the last byte to the first. A carry out of the first byte would repeat keystream and is
an error.
-/

namespace SealedContent.Cipher

structure Counter where
  bytes : Vector UInt8 16
deriving DecidableEq

namespace Counter

def zero : Counter :=
  ⟨Vector.replicate 16 0⟩

def value (counter : Counter) : Nat :=
  Bytes.bigEndian counter.bytes.toList

/-- Adds a number to little-endian digits and returns what does not fit into them. -/
def addDigits : Bytes → Nat → Bytes × Nat
  | [], addend => ([], addend)
  | digit :: digits, addend =>
      let sum := digit.toNat + addend
      let (higher, carry) := addDigits digits (sum / 256)
      (UInt8.ofNat sum :: higher, carry)

theorem length_addDigits (digits : Bytes) (addend : Nat) :
    (addDigits digits addend).1.length = digits.length := by
  induction digits generalizing addend with
  | nil => rfl
  | cons digit digits induction => simp [addDigits, induction]

def increment (counter : Counter) (blocks : Nat) : Except CipherError Counter :=
  let sum := addDigits counter.bytes.toList.reverse blocks
  if sum.2 = 0 then
    .ok ⟨⟨sum.1.reverse.toArray, by simp [sum, length_addDigits]⟩⟩
  else .error (.counterOverflow blocks)

end Counter

end SealedContent.Cipher
