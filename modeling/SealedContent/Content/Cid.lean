import SealedContent.Content.Varint
import SealedContent.Encoding.Multibase
import SealedContent.Hash.Sha256
import SealedContent.Text.Blank

/-!
Content identifiers: a hash of some content with the codec that reads it, as a value, as bytes and
as text. Version 0 is a bare SHA-256 hash; version 1 names its codec and hash function.
-/

namespace SealedContent.Content

structure Multihash where
  code : UInt64
  digest : Bytes
  bounded : digest.length ≤ 64
deriving DecidableEq

inductive Cid where
  | v0 (digest : Vector UInt8 32)
  | v1 (codec : UInt64) (hash : Multihash)
deriving DecidableEq

namespace Codec

def dagCbor : UInt64 := 0x71

def raw : UInt64 := 0x55

/-- What a version 0 identifier stands for. -/
def dagProtobuf : UInt64 := 0x70

end Codec

def sha256Code : UInt64 := 0x12

def sha256Hash (data : Bytes) : Multihash :=
  ⟨sha256Code, Hash.sha256 data, by simp [Hash.length_sha256]⟩

namespace Multihash

def toBytes (hash : Multihash) : Bytes :=
  Varint.write hash.code.toNat ++ Varint.write hash.digest.length ++ hash.digest

def read? (input : Bytes) : Option (Multihash × Bytes) := do
  let (code, afterCode) ← Varint.readMinimal? input
  let (size, afterSize) ← Varint.readMinimal? afterCode
  let digest := afterSize.take size.toNat
  if bound : digest.length = size.toNat ∧ size.toNat ≤ 64 then
    some (⟨code, digest, by omega⟩, afterSize.drop size.toNat)
  else none

end Multihash

namespace Cid

def version : Cid → Nat
  | .v0 _ => 0
  | .v1 .. => 1

def codec : Cid → UInt64
  | .v0 _ => Codec.dagProtobuf
  | .v1 codec _ => codec

def hash : Cid → Multihash
  | .v0 digest => ⟨sha256Code, digest.toList, by simp⟩
  | .v1 _ hash => hash

def ofData (codec : UInt64) (data : Bytes) : Cid :=
  .v1 codec (sha256Hash data)

def toBytes : Cid → Bytes
  | .v0 digest => [0x12, 0x20] ++ digest.toList
  | .v1 codec hash => [0x01] ++ Varint.write codec.toNat ++ hash.toBytes

def readDigest? (input : Bytes) : Option (Vector UInt8 32 × Bytes) :=
  (Bytes.toVector? 32 (input.take 32)).map (·, input.drop 32)

/-- Reads an identifier from the front. Version 0 shows by how its hash starts; no other
identifier may claim that version. -/
def read? (input : Bytes) : Option (Cid × Bytes) := do
  let (version, afterVersion) ← Varint.readMinimal? input
  let (codec, afterCodec) ← Varint.readMinimal? afterVersion
  if version = 0x12 ∧ codec = 0x20 then
    let (digest, rest) ← readDigest? afterCodec
    return (.v0 digest, rest)
  else if version = 1 then
    let (hash, rest) ← Multihash.read? afterCodec
    return (.v1 codec hash, rest)
  else none

/-- Bytes after the identifier are ignored. -/
def ofBytes? (bytes : Bytes) : Option Cid :=
  (read? bytes).map Prod.fst

def toText (cid : Cid) : String :=
  match cid with
  | .v0 _ => String.ofList (Encoding.Multibase.base58.encode cid.toBytes)
  | .v1 .. => String.ofList (Encoding.Multibase.encodeBase32 cid.toBytes)

/-- What follows the first occurrence of a marker, or everything. -/
def afterFirst (marker input : List Char) : List Char :=
  let rec search : List Char → Option (List Char)
    | [] => none
    | char :: rest =>
        if (char :: rest).take marker.length = marker then some ((char :: rest).drop marker.length)
        else search rest
  (search input).getD input

/-- Reads the text of an identifier in any encoding. Surrounding white space, and everything up
to a path marker, is left out. -/
def ofText? (text : String) : Option Cid :=
  let symbols := afterFirst "/ipfs/".toList (Text.trimChars text.toList)
  let size := (String.ofList symbols).utf8ByteSize
  if size < 2 then none
  else if size = 46 ∧ symbols.take 2 = ['Q', 'm'] then
    (Encoding.Multibase.base58.decode? symbols).bind ofBytes?
  else (Encoding.Multibase.decode? symbols).bind ofBytes?

end Cid

structure CidHasher where
  codec : UInt64
  hasher : Hash.Sha256Hasher
  /-- The bytes taken in so far, counted in a word. -/
  count : UInt64

namespace CidHasher

def start (codec : UInt64) : CidHasher :=
  ⟨codec, Hash.Sha256Hasher.empty, 0⟩

def update (state : CidHasher) (chunk : Bytes) : CidHasher :=
  { state with
    hasher := state.hasher.update chunk
    count := state.count + UInt64.ofNat chunk.length }

def length (state : CidHasher) : Nat :=
  state.count.toNat

def isEmpty (state : CidHasher) : Bool :=
  state.length = 0

theorem length_digest (hasher : Hash.Sha256Hasher) : hasher.digest.length = 32 := by
  simp [Hash.Sha256Hasher.digest, Hash.Words256.toBytes]

def finish (state : CidHasher) : Cid :=
  .v1 state.codec ⟨sha256Code, state.hasher.digest, by simp [length_digest]⟩

end CidHasher

end SealedContent.Content
