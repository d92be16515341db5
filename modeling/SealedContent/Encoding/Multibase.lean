import SealedContent.Encoding.Base64
import SealedContent.Encoding.Positional

/-!
Self-describing texts of byte strings: the first character names the encoding of the rest.
-/

namespace SealedContent.Encoding

/-- Two bytes are three symbols and a single byte is two, least significant first. -/
def base45Symbols : List Char :=
  figures ++ letters ++ " $%*+-./:".toList

def decodeBase45? : List Nat → Option Bytes
  | [] => some []
  | [low, high] =>
      let value := low + 45 * high
      if value < 256 then some [UInt8.ofNat value] else none
  | low :: middle :: high :: rest =>
      let value := low + 45 * middle + 2025 * high
      if value < 65536 then
        (decodeBase45? rest).map fun bytes =>
          UInt8.ofNat (value / 256) :: UInt8.ofNat (value % 256) :: bytes
      else none
  | [_] => none

/-- One symbol for each value of a byte. -/
def emojiSymbols : List Char :=
  ("🚀🪐☄🛰🌌🌑🌒🌓🌔🌕🌖🌗🌘🌍🌏🌎🐉☀💻🖥💾💿😂❤😍🤣😊🙏💕😭😘👍😅👏😁🔥🥰💔💖💙😢🤔😆🙄💪😉☺👌🤗💜😔😎😇🌹🤦🎉💞✌✨🤷😱😌🌸🙌😋💗💚😏💛🙂💓🤩😄😀🖤😃💯🙈👇🎶😒🤭❣" ++
    "😜💋👀😪😑💥🙋😞😩😡🤪👊🥳😥🤤👉💃😳✋😚😝😴🌟😬🙃🍀🌷😻😓⭐✅🥺🌈😈🤘💦✔😣🏃💐☹🎊💘😠☝😕🌺🎂🌻😐🖕💝🙊😹🗣💫💀👑🎵🤞😛🔴😤🌼😫⚽🤙☕🏆🤫👈😮🙆🍻🍃🐶💁😲🌿🧡🎁⚡🌞🎈❌✊👋😰🤨😶🤝🚶" ++
    "💰🍓💢🤟🙁🚨💨🤬✈🎀🍺🤓😙💟🌱😖👶🥴▶➡❓💎💸⬇😨🌚🦋😷🕺⚠🙅😟😵👎🤲🤠🤧📌🔵💅🧐🐾🍒😗🤑🌊🤯🐷☎💧😯💆👆🎤🙇🍑❄🌴💣🐸💌📍🥀🤢👅💡💩👐📸👻🤐🤮🎼🥵🚩🍎🍊👼💍📣🥂").toList

inductive Multibase where
  /-- The text's own UTF-8 form. -/
  | identity
  | bitGroups (alphabet : BitAlphabet)
  | positional (radix : Radix)
  | base45
  | emoji

namespace Multibase

def base32Symbols : List Char := lowerLetters ++ "234567".toList

def base32HexSymbols : List Char := figures ++ "abcdefghijklmnopqrstuv".toList

def base58Symbols : List Char :=
  "123456789ABCDEFGHJKLMNPQRSTUVWXYZabcdefghijkmnopqrstuvwxyz".toList

def base2 : BitAlphabet := ⟨1, ['0', '1'], false, none⟩

def base8 : BitAlphabet := ⟨3, "01234567".toList, false, none⟩

def base16 : BitAlphabet := ⟨4, figures ++ "abcdef".toList, true, none⟩

def base32 : BitAlphabet := ⟨5, base32Symbols, true, none⟩

def base32Padded : BitAlphabet := ⟨5, base32Symbols, true, some 8⟩

def base32Hex : BitAlphabet := ⟨5, base32HexSymbols, true, none⟩

def base32HexPadded : BitAlphabet := ⟨5, base32HexSymbols, true, some 8⟩

def base32z : BitAlphabet := ⟨5, "ybndrfg8ejkmcpqxot1uwisza345h769".toList, false, none⟩

def base10 : Radix := ⟨figures, false⟩

def base36 : Radix := ⟨figures ++ lowerLetters, true⟩

def base58 : Radix := ⟨base58Symbols, false⟩

/-- The same symbols with the lower-case letters first. -/
def base58Flickr : Radix :=
  ⟨"123456789abcdefghijkmnopqrstuvwxyzABCDEFGHJKLMNPQRSTUVWXYZ".toList, false⟩

def ofCode? : Char → Option Multibase
  | '\x00' => some .identity
  | '0' => some (.bitGroups base2)
  | '7' => some (.bitGroups base8)
  | '9' => some (.positional base10)
  | 'f' | 'F' => some (.bitGroups base16)
  | 'b' | 'B' => some (.bitGroups base32)
  | 'c' | 'C' => some (.bitGroups base32Padded)
  | 'v' | 'V' => some (.bitGroups base32Hex)
  | 't' | 'T' => some (.bitGroups base32HexPadded)
  | 'h' => some (.bitGroups base32z)
  | 'k' | 'K' => some (.positional base36)
  | 'R' => some .base45
  | 'Z' => some (.positional base58Flickr)
  | 'z' => some (.positional base58)
  | 'm' => some (.bitGroups base64Unpadded)
  | 'M' => some (.bitGroups base64)
  | 'u' => some (.bitGroups base64Url)
  | 'U' => some (.bitGroups base64UrlPadded)
  | '🚀' => some .emoji
  | _ => none

def decodeBody? (multibase : Multibase) (symbols : List Char) : Option Bytes :=
  match multibase with
  | .identity => some (Bytes.ofText (String.ofList symbols))
  | .bitGroups alphabet => alphabet.decode? symbols
  | .positional radix => radix.decode? symbols
  | .base45 =>
      (symbols.mapM fun char => base45Symbols.findIdx? fun symbol => symbol = char).bind
        decodeBase45?
  | .emoji =>
      symbols.mapM fun char =>
        (emojiSymbols.findIdx? fun symbol => symbol = char).map UInt8.ofNat

def decode? : List Char → Option Bytes
  | [] => none
  | code :: symbols => (ofCode? code).bind fun multibase => multibase.decodeBody? symbols

def encodeBase32 (bytes : Bytes) : List Char :=
  'b' :: base32.encode bytes

end Multibase

end SealedContent.Encoding
