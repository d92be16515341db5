import SealedContent.Bytes.Basic

/-!
Texts that write a byte string as one number in another base. Zero bytes at the front, which a
number does not show, are written as leading zero symbols.
-/

namespace SealedContent.Encoding

/-- The digits of a number, least significant first; zero has none. -/
def digitsLittle (base value : Nat) : List Nat :=
  if base < 2 ∨ value = 0 then []
  else value % base :: digitsLittle base (value / base)
termination_by value
decreasing_by exact Nat.div_lt_self (by omega) (by omega)

def natOfDigits (base : Nat) (digits : List Nat) : Nat :=
  digits.foldl (fun value digit => value * base + digit) 0

/-- Writes digits in another base, keeping the count of leading zeros. -/
def changeBase (fromBase toBase : Nat) (digits : List Nat) : List Nat :=
  let zeros := digits.takeWhile fun digit => digit = 0
  zeros ++ (digitsLittle toBase (natOfDigits fromBase digits)).reverse

structure Radix where
  symbols : List Char
  foldsCase : Bool

namespace Radix

def base (radix : Radix) : Nat := radix.symbols.length

def value? (radix : Radix) (char : Char) : Option Nat :=
  let char := if radix.foldsCase then char.toLower else char
  radix.symbols.findIdx? (fun symbol => symbol = char)

def encode (radix : Radix) (bytes : Bytes) : List Char :=
  (changeBase 256 radix.base (bytes.map UInt8.toNat)).map fun digit => radix.symbols.getD digit '0'

def decode? (radix : Radix) (symbols : List Char) : Option Bytes := do
  let digits ← symbols.mapM radix.value?
  return (changeBase radix.base 256 digits).map UInt8.ofNat

end Radix

end SealedContent.Encoding
