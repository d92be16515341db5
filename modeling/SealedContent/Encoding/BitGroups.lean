import SealedContent.Bytes.Basic

/-!
Texts whose symbols each stand for the same number of bits, most significant first. The last
symbol is filled with zero bits. Reading is canonical: it rejects a last symbol that no byte needs
and filling bits that are not zero.
-/

namespace SealedContent.Encoding

/-- The low `width` bits of a number, most significant first. -/
def bitsOf : Nat → Nat → List Bool
  | 0, _ => []
  | width + 1, value => value.testBit width :: bitsOf width value

def natOfBits (bits : List Bool) : Nat :=
  bits.foldl (fun value bit => 2 * value + bit.toNat) 0

def bytesToBits (bytes : Bytes) : List Bool :=
  bytes.flatMap fun byte => bitsOf 8 byte.toNat

/-- Whole bytes, and the bits that are left over. -/
def bitsToBytes : List Bool → Bytes × List Bool
  | b7 :: b6 :: b5 :: b4 :: b3 :: b2 :: b1 :: b0 :: rest =>
      let (bytes, left) := bitsToBytes rest
      (UInt8.ofNat (natOfBits [b7, b6, b5, b4, b3, b2, b1, b0]) :: bytes, left)
  | left => ([], left)

/-- Groups of `width` bits, the last one filled with zeros. -/
def bitGroups (width : Nat) (bits : List Bool) : List Nat :=
  if bits = [] ∨ width = 0 then []
  else
    let group := bits.take width
    natOfBits (group ++ List.replicate (width - group.length) false) ::
      bitGroups width (bits.drop width)
termination_by bits.length
decreasing_by
  cases bits with
  | nil => simp_all
  | cons bit rest => simp_all; omega

structure BitAlphabet where
  width : Nat
  symbols : List Char
  /-- Letters of the other case stand for the same values. -/
  foldsCase : Bool
  /-- Texts are filled with `=` to blocks of this many symbols. -/
  padTo : Option Nat

namespace BitAlphabet

def swapCase (char : Char) : Char :=
  if 'a' ≤ char ∧ char ≤ 'z' then Char.ofNat (char.toNat - 32)
  else if 'A' ≤ char ∧ char ≤ 'Z' then Char.ofNat (char.toNat + 32)
  else char

def value? (alphabet : BitAlphabet) (char : Char) : Option Nat :=
  match alphabet.symbols.findIdx? (fun symbol => symbol = char) with
  | some index => some index
  | none =>
      if alphabet.foldsCase then
        alphabet.symbols.findIdx? (fun symbol => symbol = swapCase char)
      else none

def symbol (alphabet : BitAlphabet) (value : Nat) : Char :=
  alphabet.symbols.getD value '='

def encode (alphabet : BitAlphabet) (bytes : Bytes) : List Char :=
  let body := (bitGroups alphabet.width (bytesToBits bytes)).map alphabet.symbol
  match alphabet.padTo with
  | none => body
  | some size => body ++ List.replicate ((size - body.length % size) % size) '='

def decodeSymbols? (alphabet : BitAlphabet) (symbols : List Char) : Option Bytes := do
  let values ← symbols.mapM alphabet.value?
  let (bytes, left) := bitsToBytes (values.flatMap (bitsOf alphabet.width))
  if left.length < alphabet.width ∧ left.all (fun bit => !bit) then some bytes else none

/-- Reads blocks of `size` symbols; each block may end in filling. -/
def decodeBlocks? (alphabet : BitAlphabet) (size : Nat) : Nat → List Char → Option Bytes
  | 0, symbols => if symbols.isEmpty then some [] else none
  | fuel + 1, symbols =>
      if symbols.isEmpty then some []
      else
        let block := symbols.take size
        let kept := (block.reverse.dropWhile fun char => char = '=').reverse
        if block.length = size ∧ ¬ kept.isEmpty then do
          let bytes ← alphabet.decodeSymbols? kept
          let rest ← decodeBlocks? alphabet size fuel (symbols.drop size)
          return bytes ++ rest
        else none

def decode? (alphabet : BitAlphabet) (symbols : List Char) : Option Bytes :=
  match alphabet.padTo with
  | none => alphabet.decodeSymbols? symbols
  | some size => alphabet.decodeBlocks? size symbols.length symbols

end BitAlphabet

end SealedContent.Encoding
