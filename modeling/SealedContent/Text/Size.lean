/-!
Sizes of files for readers: whole bytes, or one decimal place of a larger unit.
-/

namespace SealedContent.Text

/-- A quotient rounded to the nearest whole number; a half goes to the even neighbour. -/
def roundQuotient (numerator denominator : Nat) : Nat :=
  let whole := numerator / denominator
  let twice := 2 * (numerator % denominator)
  if twice < denominator ∨ (twice = denominator ∧ whole % 2 = 0) then whole else whole + 1

def sizeUnit (size : Nat) : Option (Nat × String) :=
  if size < 1024 then none
  else if size < 1024 * 1024 then some (1024, "KiB")
  else if size < 1024 * 1024 * 1024 then some (1024 * 1024, "MiB")
  else some (1024 * 1024 * 1024, "GiB")

def fileSize (size : Nat) : String :=
  match sizeUnit size with
  | none => s!"{size} B"
  | some (unit, name) =>
      let tenths := roundQuotient (10 * size) unit
      s!"{tenths / 10}.{tenths % 10} {name}"

end SealedContent.Text
