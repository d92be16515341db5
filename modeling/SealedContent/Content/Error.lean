import SealedContent.Content.Cid

/-!
What can go wrong with content blocks, archives and records, and how it is worded. Where the reason
lies in the reading of a foreign format, the text has a star in its place.
-/

namespace SealedContent.Content

inductive ArchiveFault where
  | empty
  | header
  | version (number : Nat)
  | rootCount (found : Nat)
  | blockCid
  | varint (fault : Varint.Fault)
  | emptySection
  | sectionTooLong (length remaining : Nat)
  | rootAbsent (root : Cid)
deriving DecidableEq

def ArchiveFault.message : ArchiveFault → String
  | .empty => "empty archive"
  | .header => "header: *"
  | .version number => s!"unsupported CAR version {number}"
  | .rootCount found => s!"expected exactly one root, found {found}"
  | .blockCid => "block CID: *"
  | .varint .overflow => "varint overflows u64"
  | .varint .truncated => "truncated varint"
  | .emptySection => "zero-length section"
  | .sectionTooLong length remaining =>
      s!"section of {length} bytes exceeds remaining {remaining} bytes"
  | .rootAbsent root => s!"root block {root.toText} not present"

inductive BlockError where
  | invalidCid (input : String)
  | unsupportedHash (code : UInt64)
  | hashMismatch (expected actual : Cid)
  | archive (fault : ArchiveFault)
  | decode
  | missingField (variant field : String)
deriving DecidableEq

def hexNumber (value : Nat) : String :=
  String.ofList (Nat.toDigits 16 value)

def BlockError.message : BlockError → String
  | .invalidCid input => s!"invalid CID '{input}': *"
  | .unsupportedHash code =>
      "unsupported multihash code 0x" ++ hexNumber code.toNat ++ " (only sha2-256 is accepted)"
  | .hashMismatch expected actual =>
      s!"block hash mismatch: expected {expected.toText}, computed {actual.toText}"
  | .archive fault => s!"malformed CAR container: {fault.message}"
  | .decode => "DAG-CBOR decode failed: *"
  | .missingField variant field => s!"{variant} metadata is missing required field '{field}'"

def Cid.parse (text : String) : Except BlockError Cid :=
  match Cid.ofText? text with
  | some cid => .ok cid
  | none => .error (.invalidCid text)

/-- The identifier that data would have under the version and codec of another. -/
def Cid.recompute (cid : Cid) (data : Bytes) : Cid :=
  match cid with
  | .v0 _ => .v0 ⟨(Hash.sha256 data).toArray, by simp [Hash.length_sha256]⟩
  | .v1 codec _ => .ofData codec data

def verifyBlock (cid : Cid) (data : Bytes) : Except BlockError Unit :=
  if cid.hash.code ≠ sha256Code then .error (.unsupportedHash cid.hash.code)
  else if (cid.recompute data).toBytes ≠ cid.toBytes then
    .error (.hashMismatch cid (cid.recompute data))
  else .ok ()

end SealedContent.Content
