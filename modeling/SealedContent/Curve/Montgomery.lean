import SealedContent.Curve.Field

/-!
Agreement on a shared secret over the Montgomery form of the curve: points are known by their first
coordinate alone.
-/

namespace SealedContent.Curve

/-- A ladder holds a multiple of a point and the next multiple, both as fractions. -/
structure Ladder where
  x : Nat
  z : Nat
  nextX : Nat
  nextZ : Nat

namespace Ladder

open SealedContent.Curve.Field

def swap (ladder : Ladder) : Ladder :=
  ⟨ladder.nextX, ladder.nextZ, ladder.x, ladder.z⟩

/-- From the multiples n and n + 1 of the point to 2n and 2n + 1. -/
def double (point : Nat) (ladder : Ladder) : Ladder :=
  let sum := Field.add ladder.x ladder.z
  let difference := sub ladder.x ladder.z
  let sumSquare := mul sum sum
  let differenceSquare := mul difference difference
  let gap := sub sumSquare differenceSquare
  let crossed := mul (sub ladder.nextX ladder.nextZ) sum
  let straight := mul (Field.add ladder.nextX ladder.nextZ) difference
  let total := Field.add crossed straight
  let rest := sub crossed straight
  ⟨mul sumSquare differenceSquare, mul gap (Field.add sumSquare (mul 121665 gap)),
    mul total total, mul point (mul rest rest)⟩

def step (point : Nat) (ladder : Ladder) (bit : Bool) : Ladder :=
  if bit then (double point ladder.swap).swap else double point ladder

end Ladder

namespace X25519

/-- The factor in a secret: a multiple of eight with its highest bit at a fixed place. -/
def factor (secret : Bytes) : Nat :=
  let value := Bytes.littleEndian secret % Nat.pow 2 254
  value - value % 8 + Nat.pow 2 254

def multiply (secret point : Bytes) : Bytes :=
  let x := Bytes.littleEndian point % Nat.pow 2 255 % prime
  let ladder := (Field.binary 255 (factor secret)).foldl (Ladder.step x) ⟨1, 0, x, 1⟩
  Bytes.ofNatLittle 32 (Field.mul ladder.x (Field.inverse ladder.z))

def publicKey (secret : Bytes) : Bytes :=
  multiply secret (Bytes.ofNatLittle 32 9)

end X25519

end SealedContent.Curve
