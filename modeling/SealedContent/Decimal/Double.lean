/-!
Finite binary floating-point numbers of 64 bits, kept as their bits and computed with exact
fractions: every operation rounds the exact result to the nearest number, ties to even.
-/

namespace SealedContent

structure Double where
  bits : UInt64
deriving DecidableEq, Repr

namespace Double

/-- A magnitude as an integer times a power of two. -/
structure Magnitude where
  significand : Nat
  exponent : Int

def signBit : Nat := UInt64.size / 2

/-- The leading bit of a significand, which a number's bits leave out unless it is tiny. -/
def hiddenBit : Nat := Nat.pow 2 52

def negative (double : Double) : Bool :=
  signBit ≤ double.bits.toNat

def magnitude (double : Double) : Magnitude :=
  let unsigned : Nat := double.bits.toNat % signBit
  let field : Nat := unsigned / hiddenBit
  let fraction : Nat := unsigned % hiddenBit
  if field = 0 then ⟨fraction, -1074⟩ else ⟨hiddenBit + fraction, (field : Int) - 1075⟩

def zero : Double := ⟨0⟩

def isZero (double : Double) : Bool :=
  double.bits.toNat % signBit = 0

def negate (double : Double) : Double :=
  ⟨UInt64.ofNat ((double.bits.toNat + signBit) % UInt64.size)⟩

/-- The fraction `numerator / denominator` divided by a power of two, as a fraction again. -/
def scaled (numerator denominator : Nat) (exponent : Int) : Nat × Nat :=
  if 0 ≤ exponent then (numerator, denominator * Nat.pow 2 exponent.toNat)
  else (numerator * Nat.pow 2 (-exponent).toNat, denominator)

def roundHalfEven (numerator denominator : Nat) : Nat :=
  let quotient := numerator / denominator
  let twice := 2 * (numerator % denominator)
  if twice < denominator ∨ (twice = denominator ∧ quotient % 2 = 0) then quotient
  else quotient + 1

/-- The number nearest to a fraction, or nothing when the nearest is beyond the largest one. -/
def ofFraction? (numerator denominator : Nat) : Option Double :=
  if numerator = 0 then some zero
  else
    let estimate : Int := (numerator.log2 : Int) - denominator.log2 - 53
    let fits (exponent : Int) : Bool :=
      let (top, bottom) := scaled numerator denominator exponent
      top / bottom < 2 * hiddenBit
    let least := if fits estimate then estimate else estimate + 1
    let exponent := max least (-1074)
    let (top, bottom) := scaled numerator denominator exponent
    let significand := roundHalfEven top bottom
    let bits :=
      if significand < hiddenBit then significand
      else (exponent + 1075).toNat * hiddenBit + (significand - hiddenBit)
    if bits < 2047 * hiddenBit then some ⟨UInt64.ofNat bits⟩ else none

def Magnitude.fraction (magnitude : Magnitude) : Nat × Nat :=
  if 0 ≤ magnitude.exponent then (magnitude.significand * Nat.pow 2 magnitude.exponent.toNat, 1)
  else (magnitude.significand, Nat.pow 2 (-magnitude.exponent).toNat)

def multiply? (left right : Double) : Option Double :=
  let (leftTop, leftBottom) := left.magnitude.fraction
  let (rightTop, rightBottom) := right.magnitude.fraction
  ofFraction? (leftTop * rightTop) (leftBottom * rightBottom)

def divide? (left right : Double) : Option Double :=
  let (leftTop, leftBottom) := left.magnitude.fraction
  let (rightTop, rightBottom) := right.magnitude.fraction
  ofFraction? (leftTop * rightBottom) (leftBottom * rightTop)

def powerOfTen? (exponent : Nat) : Option Double :=
  ofFraction? (Nat.pow 10 exponent) 1

end Double

end SealedContent
