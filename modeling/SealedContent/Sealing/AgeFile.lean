import SealedContent.Curve.Montgomery
import SealedContent.Encoding.Base64
import SealedContent.Encoding.Bech32
import SealedContent.Hash.Hmac
import SealedContent.Sealing.Authenticated

/-!
Sealed files. A header holds the key of the file once for each recipient, and a keyed hash of
itself; after it comes the content in authenticated pieces.
-/

namespace SealedContent.Sealing

/-- How the key of a file is kept for one recipient. -/
structure Stanza where
  kind : List Char
  arguments : List (List Char)
  body : Bytes
deriving DecidableEq

structure AgeFile where
  stanzas : List Stanza
  mac : Bytes
  payload : Bytes
deriving DecidableEq

structure SealEntropy where
  fileKey : Bytes
  secret : Bytes
  nonce : Bytes

/-- The order in which a payload counts its pieces; the last piece is marked. -/
def pieceNonce (index : Nat) (isLast : Bool) : Bytes :=
  Bytes.ofNatBig 11 index ++ [if isLast then 1 else 0]

namespace AgeFile

def versionLine : List Char := "age-encryption.org/v1".toList

def wideLine : Nat := 64

def text64 (data : Bytes) : List Char := Encoding.base64Unpadded.encode data

/-- Lines of full width, and one shorter line at the end. -/
def bodyLines : Nat → List Char → List (List Char)
  | 0, text => [text]
  | count + 1, text =>
      if wideLine ≤ text.length then
        text.take wideLine :: bodyLines count (text.drop wideLine)
      else [text]

def stanzaLines (stanza : Stanza) : List (List Char) :=
  ("->".toList ++ (stanza.kind :: stanza.arguments).flatMap fun word => ' ' :: word) ::
    bodyLines (stanza.body.length + 1) (text64 stanza.body)

def closing : List Char := "---".toList

def coveredHeader (stanzas : List Stanza) : Bytes :=
  let lines := versionLine :: stanzas.flatMap stanzaLines
  Bytes.ofText (String.ofList (lines.flatMap (fun line => line ++ ['\n']) ++ closing))

def headerMac (fileKey : Bytes) (stanzas : List Stanza) : Bytes :=
  Hash.hmacSha256 (Hash.deriveKey [] fileKey (Bytes.ofText "header")) (coveredHeader stanzas)

def encode (file : AgeFile) : Bytes :=
  coveredHeader file.stanzas ++
    Bytes.ofText (String.ofList (' ' :: text64 file.mac ++ ['\n'])) ++ file.payload

def readLine? : Bytes → Option (List Char × Bytes)
  | [] => none
  | byte :: rest =>
      if byte = 0x0A then some ([], rest)
      else if byte < 0x20 ∨ 0x7E < byte then none
      else (readLine? rest).map fun (line, after) => (Char.ofNat byte.toNat :: line, after)

def words (line : List Char) : List (List Char) :=
  line.foldr (fun char pieces =>
    if char = ' ' then [] :: pieces
    else match pieces with
      | [] => [[char]]
      | piece :: more => (char :: piece) :: more) [[]]

def readBody? : Nat → Bytes → Option (List Char × Bytes)
  | 0, _ => none
  | fuel + 1, input => do
      let (line, rest) ← readLine? input
      if wideLine < line.length then none
      else if line.length = wideLine then do
        let (more, after) ← readBody? fuel rest
        return (line ++ more, after)
      else return (line, rest)

def readStanzas? : Nat → Bytes → Option (List Stanza × Bytes × Bytes)
  | 0, _ => none
  | fuel + 1, input => do
      let (line, rest) ← readLine? input
      match words line with
      | ['-', '-', '-'] :: [mac] => do
          let mac ← Encoding.base64Unpadded.decodeSymbols? mac
          return ([], mac, rest)
      | ['-', '>'] :: kind :: arguments => do
          if (kind :: arguments).any List.isEmpty then none
          let (text, after) ← readBody? fuel rest
          let body ← Encoding.base64Unpadded.decodeSymbols? text
          let (stanzas, mac, payload) ← readStanzas? fuel after
          return (⟨kind, arguments, body⟩ :: stanzas, mac, payload)
      | _ => none

def decode? (bytes : Bytes) : Option AgeFile := do
  let (line, rest) ← readLine? bytes
  if line ≠ versionLine then none
  let (stanzas, mac, payload) ← readStanzas? (bytes.length + 1) rest
  return ⟨stanzas, mac, payload⟩

def pieceSize : Nat := 65536

def payloadKey (fileKey nonce : Bytes) : Bytes :=
  Hash.deriveKey nonce fileKey (Bytes.ofText "payload")

/-- Encrypts pieces in order; content without pieces has one that is empty. -/
def encryptPieces (key : Bytes) (index : Nat) : List Bytes → Bytes
  | [] => Authenticated.encrypt key (pieceNonce index true) []
  | [piece] => Authenticated.encrypt key (pieceNonce index true) piece
  | piece :: rest =>
      Authenticated.encrypt key (pieceNonce index false) piece ++ encryptPieces key (index + 1) rest

/-- Only content without any bytes ends in an empty piece. -/
def decryptPieces? (key : Bytes) (index : Nat) : List Bytes → Option Bytes
  | [] => none
  | [piece] => do
      let plain ← Authenticated.decrypt? key (pieceNonce index true) piece
      if plain.isEmpty ∧ index ≠ 0 then none else some plain
  | piece :: rest => do
      let plain ← Authenticated.decrypt? key (pieceNonce index false) piece
      return plain ++ (← decryptPieces? key (index + 1) rest)

def kindX25519 : List Char := "X25519".toList

def nonceLength : Nat := 12

def wrapKey (share recipient secret : Bytes) : Bytes :=
  Hash.deriveKey (share ++ recipient) secret (Bytes.ofText "age-encryption.org/v1/X25519")

def zeroNonce : Bytes := List.replicate nonceLength 0

def wrapFor (recipient : Bytes) (entropy : SealEntropy) : Stanza :=
  let share := Curve.X25519.publicKey entropy.secret
  let secret := Curve.X25519.multiply entropy.secret recipient
  ⟨kindX25519, [text64 share],
    Authenticated.encrypt (wrapKey share recipient secret) zeroNonce entropy.fileKey⟩

def sealFor (recipient : Bytes) (entropy : SealEntropy) (content : Bytes) : AgeFile :=
  let stanzas := [wrapFor recipient entropy]
  ⟨stanzas, headerMac entropy.fileKey stanzas,
    entropy.nonce ++ encryptPieces (payloadKey entropy.fileKey entropy.nonce) 0
      (Bytes.pieces pieceSize content)⟩

/-- The key of the file in a stanza, if it was wrapped for this identity. -/
def unwrap? (identity : Bytes) (stanza : Stanza) : Option Bytes :=
  match stanza.arguments with
  | [argument] =>
      if stanza.kind ≠ kindX25519 then none
      else do
        let share ← Encoding.base64Unpadded.decodeSymbols? argument
        if share.length ≠ 32 ∨ stanza.body.length ≠ 32 then none
        let recipient := Curve.X25519.publicKey identity
        let secret := Curve.X25519.multiply identity share
        Authenticated.decrypt? (wrapKey share recipient secret) zeroNonce stanza.body
  | _ => none

/-- The content of a file, if one of its stanzas is for this identity and nothing was changed. -/
def openWith? (identity : Bytes) (file : AgeFile) : Option Bytes := do
  let fileKey ← file.stanzas.findSome? (unwrap? identity)
  if headerMac fileKey file.stanzas ≠ file.mac ∨ file.payload.length < 16 then none
  let key := payloadKey fileKey (file.payload.take 16)
  decryptPieces? key 0 (Bytes.pieces (pieceSize + Authenticated.tagLength) (file.payload.drop 16))

end AgeFile

structure SealingScheme where
  readRecipient? : String → Option Bytes
  readIdentity? : String → Option Bytes
  sealFor : Bytes → SealEntropy → Bytes → Bytes
  openWith? : Bytes → Bytes → Option Bytes

/-- A key of 32 bytes under a name. -/
def readKey? (name text : String) : Option Bytes :=
  match Encoding.Bech32.decode? text.toList with
  | some (found, key) =>
      if found = name.toList ∧ key.length = 32 then some key else none
  | none => none

def age : SealingScheme where
  readRecipient? := readKey? "age"
  readIdentity? := readKey? "age-secret-key-"
  sealFor recipient entropy content := (AgeFile.sealFor recipient entropy content).encode
  openWith? identity bytes := (AgeFile.decode? bytes).bind (AgeFile.openWith? identity)

end SealedContent.Sealing
