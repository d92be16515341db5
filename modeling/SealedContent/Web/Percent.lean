import SealedContent.Bytes.Hex

/-!
Percent encoding: the bytes of a character, each as a percent sign and two digits. Which characters
are encoded depends on the part of the address.
-/

namespace SealedContent.Web.Percent

def upperDigit (value : Nat) : Char :=
  if value < 10 then Char.ofNat (48 + value) else Char.ofNat (55 + value)

def encodeByte (byte : UInt8) : List Char :=
  ['%', upperDigit (byte.toNat / 16), upperDigit (byte.toNat % 16)]

def encodeChar (char : Char) : List Char :=
  (Bytes.ofText (String.singleton char)).flatMap encodeByte

def encode (isEncoded : Char → Bool) (text : List Char) : List Char :=
  text.flatMap fun char => if isEncoded char then encodeChar char else [char]

/-- Controls and everything beyond ASCII are encoded everywhere. -/
def inControls (char : Char) : Bool :=
  char.toNat < 0x20 ∨ 0x7E < char.toNat

def inFragment (char : Char) : Bool :=
  inControls char ∨ " \"<>`".toList.contains char

def inQuery (char : Char) : Bool :=
  inControls char ∨ " \"#<>".toList.contains char

/-- Queries of the schemes of the web also encode the single quote. -/
def inWebQuery (char : Char) : Bool :=
  inQuery char ∨ char = '\''

def inPath (char : Char) : Bool :=
  inFragment char ∨ "#?\x7b\x7d".toList.contains char

def inUser (char : Char) : Bool :=
  inPath char ∨ "/:;=@[\\]^|".toList.contains char

/-- The bytes that a text stands for; a percent sign without two digits stands for itself. -/
def decode : List Char → Bytes
  | [] => []
  | '%' :: high :: low :: rest =>
      match Bytes.hexValue? high, Bytes.hexValue? low with
      | some upper, some lower => UInt8.ofNat (upper * 16 + lower) :: decode rest
      | _, _ => 0x25 :: decode (high :: low :: rest)
  | char :: rest => Bytes.ofText (String.singleton char) ++ decode rest
termination_by text => text.length

end SealedContent.Web.Percent
