import SealedContent.Bytes.Basic

/-!
Hexadecimal text of byte strings. Writing uses lower-case digits; reading takes either case.
-/

namespace SealedContent.Bytes

def hexDigit (value : Nat) : Char :=
  if value < 10 then Char.ofNat (48 + value) else Char.ofNat (87 + value)

def hexValue? (digit : Char) : Option Nat :=
  if '0' ≤ digit ∧ digit ≤ '9' then some (digit.toNat - 48)
  else if 'a' ≤ digit ∧ digit ≤ 'f' then some (digit.toNat - 87)
  else if 'A' ≤ digit ∧ digit ≤ 'F' then some (digit.toNat - 55)
  else none

def hexDigits (bytes : Bytes) : List Char :=
  bytes.flatMap fun byte => [hexDigit (byte.toNat / 16), hexDigit (byte.toNat % 16)]

def toHex (bytes : Bytes) : String :=
  String.ofList (hexDigits bytes)

/-- Reads digit pairs onto the bytes read before, which are kept in reverse. -/
def ofHexDigits? (done : Bytes) : List Char → Option Bytes
  | [] => some done.reverse
  | [_] => none
  | high :: low :: rest =>
      match hexValue? high, hexValue? low with
      | some highValue, some lowValue =>
          ofHexDigits? (UInt8.ofNat (16 * highValue + lowValue) :: done) rest
      | _, _ => none

def ofHex? (text : String) : Option Bytes :=
  ofHexDigits? [] text.toList

end SealedContent.Bytes
