import SealedContent.Curve.Field
import SealedContent.Hash.Sha512

/-!
Signatures on the twisted Edwards curve over that field. Points are kept in extended coordinates.
-/

namespace SealedContent.Curve

structure EdwardsPoint where
  x : Nat
  y : Nat
  z : Nat
  t : Nat

namespace EdwardsPoint

open SealedContent.Curve.Field

/-- The constant of the curve, -121665/121666. -/
def curveConstant : Nat := mul (prime - 121665) (inverse 121666)

def neutral : EdwardsPoint := ⟨0, 1, 1, 0⟩

def add (constant : Nat) (left right : EdwardsPoint) : EdwardsPoint :=
  let a := mul (sub left.y left.x) (sub right.y right.x)
  let b := mul (Field.add left.y left.x) (Field.add right.y right.x)
  let c := mul (mul (mul left.t right.t) 2) constant
  let d := mul (mul left.z right.z) 2
  let e := sub b a
  let f := sub d c
  let g := Field.add d c
  let h := Field.add b a
  ⟨mul e f, mul g h, mul f g, mul e h⟩

def negate (point : EdwardsPoint) : EdwardsPoint :=
  ⟨sub 0 point.x, point.y, point.z, sub 0 point.t⟩

/-- Doubles and adds over the binary digits of the factor, which is below `2 ^ 256`. -/
def multiply (constant factor : Nat) (point : EdwardsPoint) : EdwardsPoint :=
  (binary 256 factor).foldl (fun result bit =>
    let twice := add constant result result
    if bit then add constant twice point else twice) neutral

/-- The y coordinate, with the sign of x in the highest bit. -/
def encode (point : EdwardsPoint) : Bytes :=
  let inverseZ := inverse point.z
  let x := mul point.x inverseZ
  let y := mul point.y inverseZ
  Bytes.ofNatLittle 32 (y + (x % 2) * Nat.pow 2 255)

def decode? (constant : Nat) (bytes : Bytes) : Option EdwardsPoint := do
  let value := Bytes.littleEndian bytes
  let y := value % Nat.pow 2 255 % prime
  let square := mul y y
  let x ← squareRoot? (mul (sub square 1) (inverse (Field.add (mul constant square) 1)))
  let signed := if x % 2 = value / Nat.pow 2 255 then x else sub 0 x
  return ⟨signed, y, 1, mul signed y⟩

/-- The base point: y is 4/5 and x is even. -/
def base : EdwardsPoint :=
  let y := mul 4 (inverse 5)
  ((decode? curveConstant (Bytes.ofNatLittle 32 y))).getD neutral

end EdwardsPoint

structure SignatureScheme where
  publicKey : Bytes → Bytes
  sign : Bytes → Bytes → Bytes
  verify : Bytes → Bytes → Bytes → Bool

namespace Ed25519

open EdwardsPoint

def order : Nat := Nat.pow 2 252 + 27742317777372353535851937790883648493

/-- The secret factor: the low half of the hash with its outer bits fixed. -/
def secretFactor (hash : Bytes) : Nat :=
  let value := Bytes.littleEndian (hash.take 32) % Nat.pow 2 254
  value - value % 8 + Nat.pow 2 254

def hashNumber (data : Bytes) : Nat :=
  Bytes.littleEndian (Hash.sha512 data) % order

def publicKey (secret : Bytes) : Bytes :=
  (base.multiply curveConstant (secretFactor (Hash.sha512 secret))).encode

def sign (secret message : Bytes) : Bytes :=
  let constant := curveConstant
  let hash := Hash.sha512 secret
  let factor := secretFactor hash
  let key := (base.multiply constant factor).encode
  let nonce := hashNumber (hash.drop 32 ++ message)
  let point := (base.multiply constant nonce).encode
  let challenge := hashNumber (point ++ key ++ message)
  point ++ Bytes.ofNatLittle 32 ((nonce + challenge * factor) % order)

/-- Recomputes the point of the signature; its factor must be below the order. -/
def verify (key message signature : Bytes) : Bool :=
  let constant := curveConstant
  let point := signature.take 32
  let factor := Bytes.littleEndian (signature.drop 32)
  match decode? constant key with
  | none => false
  | some keyPoint =>
      let challenge := hashNumber (point ++ key ++ message)
      let expected := (base.multiply constant factor).add constant
        (keyPoint.negate.multiply constant challenge)
      decide (signature.length = 64 ∧ factor < order ∧ expected.encode = point)

end Ed25519

def ed25519 : SignatureScheme :=
  ⟨Ed25519.publicKey, Ed25519.sign, Ed25519.verify⟩

end SealedContent.Curve
