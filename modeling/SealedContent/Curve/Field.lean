import SealedContent.Bytes.Basic

/-!
Arithmetic modulo the prime 2^255 - 19, on numbers below it.
-/

namespace SealedContent.Curve

def prime : Nat := Nat.pow 2 255 - 19

namespace Field

def add (left right : Nat) : Nat := (left + right) % prime

def sub (left right : Nat) : Nat := (left + (prime - right)) % prime

def mul (left right : Nat) : Nat := left * right % prime

/-- The binary digits of a number below `2 ^ count`, most significant first. -/
def binary : Nat → Nat → List Bool
  | 0, _ => []
  | count + 1, value => value.testBit count :: binary count value

def power (base exponent : Nat) : Nat :=
  (binary 255 exponent).foldl (fun result bit =>
    let square := mul result result
    if bit then mul square base else square) 1

/-- The inverse of a number, and zero for zero. -/
def inverse (value : Nat) : Nat := power value (prime - 2)

def rootOfMinusOne : Nat := power 2 ((prime - 1) / 4)

def squareRoot? (value : Nat) : Option Nat :=
  let root := power value ((prime + 3) / 8)
  if mul root root = value then some root
  else
    let other := mul root rootOfMinusOne
    if mul other other = value then some other else none

end Field

end SealedContent.Curve
