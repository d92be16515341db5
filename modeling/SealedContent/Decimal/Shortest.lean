import SealedContent.Decimal.Double

/-!
The shortest decimal that reads back as a given floating-point number, and of the shortest ones
the nearest.
-/

namespace SealedContent.Double

structure Decimal where
  digits : Nat
  exponent : Int
deriving DecidableEq, Repr

/-- The fractions between which everything rounds to the number, over one denominator, with the
number itself in the middle. -/
structure Interval where
  low : Nat
  middle : Nat
  high : Nat
  denominator : Nat
  closed : Bool

def interval (magnitude : Magnitude) : Interval :=
  let significand := magnitude.significand
  -- Below a power of two the neighbour is half as far away.
  let narrow := significand = hiddenBit ∧ -1074 < magnitude.exponent
  let below := if narrow then 4 * significand - 1 else 4 * significand - 2
  let scale (value : Nat) : Nat :=
    if 0 ≤ magnitude.exponent then value * Nat.pow 2 magnitude.exponent.toNat else value
  let denominator :=
    if 0 ≤ magnitude.exponent then 4 else 4 * Nat.pow 2 (-magnitude.exponent).toNat
  ⟨scale below, scale (4 * significand), scale (4 * significand + 2), denominator,
    significand % 2 = 0⟩

def Interval.contains (range : Interval) (digits top bottom : Nat) : Bool :=
  let value := digits * top * range.denominator
  let low := range.low * bottom
  let high := range.high * bottom
  if range.closed then decide (low ≤ value ∧ value ≤ high)
  else decide (low < value ∧ value < high)

/-- The neighbour of the middle on the grid of multiples of `10 ^ exponent` that lies in the
interval, the nearer of two. -/
def Interval.onGrid? (range : Interval) (exponent : Int) : Option Decimal :=
  let top := if 0 ≤ exponent then Nat.pow 10 exponent.toNat else 1
  let bottom := if 0 ≤ exponent then 1 else Nat.pow 10 (-exponent).toNat
  let unit := top * range.denominator
  let floor := range.middle * bottom / unit
  let rest := range.middle * bottom % unit
  let floorIn := range.contains floor top bottom
  let ceilIn := range.contains (floor + 1) top bottom
  let upper := 2 * rest > unit ∨ (2 * rest = unit ∧ floor % 2 = 1)
  if floorIn ∧ 0 < floor ∧ (¬ ceilIn ∨ ¬ upper) then some ⟨floor, exponent⟩
  else if ceilIn then some ⟨floor + 1, exponent⟩
  else none

/-- Tries coarser grids first. -/
def Interval.firstGrid (range : Interval) : Nat → Int → Decimal
  | 0, exponent => ⟨0, exponent⟩
  | fuel + 1, exponent =>
      match range.onGrid? exponent with
      | some decimal => decimal
      | none => range.firstGrid fuel (exponent - 1)

def leadingPosition (numerator denominator : Nat) : Int :=
  if denominator ≤ numerator then ((Nat.toDigits 10 (numerator / denominator)).length : Int) - 1
  else
    let inverse := (denominator + numerator - 1) / numerator
    Int.negOfNat (Nat.toDigits 10 (inverse - 1)).length

def shortest (double : Double) : Decimal :=
  let magnitude := double.magnitude
  let range := interval magnitude
  let (numerator, denominator) := magnitude.fraction
  range.firstGrid 20 (leadingPosition numerator denominator + 1)

/-- Positional below ten to the sixteenth and from a hundred-thousandth on, with at least one digit
after the point; otherwise one digit before the point and a signed exponent. -/
def render (double : Double) : String :=
  let sign := if double.negative then "-" else ""
  if double.isZero then sign ++ "0.0"
  else
    let decimal := double.shortest
    let digits := Nat.toDigits 10 decimal.digits
    let trimmed := (digits.reverse.dropWhile (fun digit => digit = '0')).reverse
    let point : Int := decimal.exponent + digits.length
    let leading := point - 1
    let body : List Char :=
      if leading < -5 ∨ 15 < leading then
        let mantissa := match trimmed with
          | [single] => [single]
          | first :: rest => first :: '.' :: rest
          | [] => []
        let exponentSign := if leading < 0 then "e-" else "e+"
        mantissa ++ exponentSign.toList ++ Nat.toDigits 10 leading.natAbs
      else if point ≤ 0 then
        "0.".toList ++ List.replicate (-point).toNat '0' ++ trimmed
      else
        let whole := trimmed.take point.toNat
        let zeros := List.replicate (point.toNat - trimmed.length) '0'
        let fraction := trimmed.drop point.toNat
        whole ++ zeros ++ '.' :: (if fraction.isEmpty then ['0'] else fraction)
    sign ++ String.ofList body

end SealedContent.Double
