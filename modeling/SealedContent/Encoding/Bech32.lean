import SealedContent.Encoding.BitGroups

/-!
Texts for keys: a name, a one, and the key in base 32 with a check of six symbols. Letters are all
of one case.
-/

namespace SealedContent.Encoding.Bech32

def symbols : List Char :=
  "qpzry9x8gf2tvdw0s3jn54khce6mua7l".toList

def alphabet : BitAlphabet := ⟨5, symbols, false, none⟩

def generator : List Nat :=
  [0x3b6a57b2, 0x26508e6d, 0x1ea119fa, 0x3d4233dd, 0x2a1462b3]

/-- One step of the division that the check is the remainder of. -/
def checkStep (check value : Nat) : Nat :=
  let top := check / Nat.pow 2 25
  (List.range 5).foldl (fun mixed index =>
    if top.testBit index then mixed ^^^ generator.getD index 0 else mixed)
    (check % Nat.pow 2 25 * 32 ^^^ value)

def remainder (values : List Nat) : Nat :=
  values.foldl checkStep 1

/-- What the check covers of the name: the high bits, a zero, and the low bits. -/
def expandName (name : List Char) : List Nat :=
  name.map (fun char => char.toNat / 32) ++ 0 :: name.map (fun char => char.toNat % 32)

/-- A text in one case, as small letters. -/
def uniform? (text : List Char) : Option (List Char) :=
  if text.any Char.isUpper ∧ text.any Char.isLower then none else some (text.map Char.toLower)

/-- The name before the last one, and the symbols after it. -/
def divide? (text : List Char) : Option (List Char × List Char) :=
  let after := (text.reverse.takeWhile fun char => char ≠ '1').reverse
  let before := text.take (text.length - after.length)
  if before.length < 2 ∨ after.length < 6 then none else some (before.dropLast, after)

/-- The name in small letters and the data of a text whose check is right. -/
def decode? (text : List Char) : Option (List Char × Bytes) := do
  let small ← uniform? text
  let (name, letters) ← divide? small
  if ¬ name.all fun char => 33 ≤ char.toNat ∧ char.toNat ≤ 126 then none
  let values ← letters.mapM fun letter => symbols.findIdx? (· = letter)
  if remainder (expandName name ++ values) ≠ 1 then none
  let data ← alphabet.decodeSymbols? (letters.take (letters.length - 6))
  return (name, data)

end SealedContent.Encoding.Bech32
