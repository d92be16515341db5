import SealedContent.Encoding.BitGroups

/-!
The two base-64 texts in use: the standard one with filling, for keys and signatures, and the one
without filling that is safe in URLs, for key references.
-/

namespace SealedContent.Encoding

def letters : List Char :=
  "ABCDEFGHIJKLMNOPQRSTUVWXYZ".toList

def lowerLetters : List Char :=
  "abcdefghijklmnopqrstuvwxyz".toList

def figures : List Char :=
  "0123456789".toList

def base64Symbols : List Char :=
  letters ++ lowerLetters ++ figures ++ ['+', '/']

def base64UrlSymbols : List Char :=
  letters ++ lowerLetters ++ figures ++ ['-', '_']

def base64 : BitAlphabet := ⟨6, base64Symbols, false, some 4⟩

def base64Unpadded : BitAlphabet := ⟨6, base64Symbols, false, none⟩

def base64Url : BitAlphabet := ⟨6, base64UrlSymbols, false, none⟩

def base64UrlPadded : BitAlphabet := ⟨6, base64UrlSymbols, false, some 4⟩

namespace Base64

def encode (bytes : Bytes) : String :=
  String.ofList (base64.encode bytes)

/-- Filling may only end the text. -/
def decode? (text : String) : Option Bytes :=
  let symbols := text.toList
  let kept := (symbols.reverse.dropWhile fun char => char = '=').reverse
  if symbols.length % 4 = 0 ∧ symbols.length - kept.length < 3 then
    base64.decodeSymbols? kept
  else none

end Base64

end SealedContent.Encoding
