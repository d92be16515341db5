import SealedContent.Cbor.Shape
import SealedContent.Content.Error

/-!
Archives of content blocks with one root. Every section is preceded by its length: first a header
that names the root, then each block as its identifier and its data.
-/

namespace SealedContent.Content

structure Block where
  cid : Cid
  data : Bytes
deriving DecidableEq

structure Archive where
  root : Cid
  blocks : List Block
deriving DecidableEq

namespace Archive

def formatVersion : Nat := 1

def find? (archive : Archive) (cid : Cid) : Option Block :=
  archive.blocks.find? fun block => block.cid = cid

def rootBlock? (archive : Archive) : Option Block :=
  archive.find? archive.root

def verifiedRoot (archive : Archive) : Except BlockError Block :=
  match archive.rootBlock? with
  | none => .error (.archive (.rootAbsent archive.root))
  | some block =>
      match verifyBlock block.cid block.data with
      | .error fault => .error fault
      | .ok () => .ok block

def headerValue (root : Cid) : Cbor.Value :=
  .map [("roots", .list [.link root]), ("version", .unsigned formatVersion)]

def headerShape : Cbor.Shape :=
  .record [("roots", .list .link), ("version", .unsigned)]

def frame (content : Bytes) : Bytes :=
  Varint.write content.length ++ content

def encode (archive : Archive) : Bytes :=
  frame (headerValue archive.root).encode ++
    archive.blocks.flatMap fun block => frame (block.cid.toBytes ++ block.data)

/-- Reads one section; nothing is left at the end of the input. -/
def readSection (input : Bytes) : Except ArchiveFault (Option (Bytes × Bytes)) :=
  if input.isEmpty then .ok none
  else
    match Varint.read input with
    | .error fault => .error (.varint fault)
    | .ok (length, rest) =>
        if length = 0 then .error .emptySection
        else if rest.length < length then .error (.sectionTooLong length rest.length)
        else .ok (some (rest.take length, rest.drop length))

def linksOf : List Cbor.Value → List Cid
  | [] => []
  | .link cid :: rest => cid :: linksOf rest
  | _ :: rest => linksOf rest

def readHeader (header : Bytes) : Except ArchiveFault Cid :=
  match headerShape.read? header with
  | some (.map [(_, .list roots), (_, .unsigned version)]) =>
      if version ≠ formatVersion then .error (.version version)
      else
        match linksOf roots with
        | [root] => .ok root
        | roots => .error (.rootCount roots.length)
  | _ => .error .header

def readBlock (content : Bytes) : Except ArchiveFault Block :=
  match Cid.read? content with
  | none => .error .blockCid
  | some (cid, data) => .ok ⟨cid, data⟩

/-- Reads blocks to the end of the input; each takes at least one byte of the fuel. -/
def readBlocks : Nat → Bytes → Except ArchiveFault (List Block)
  | 0, _ => .ok []
  | fuel + 1, input =>
      match readSection input with
      | .error fault => .error fault
      | .ok none => .ok []
      | .ok (some (content, rest)) =>
          match readBlock content with
          | .error fault => .error fault
          | .ok block =>
              match readBlocks fuel rest with
              | .error fault => .error fault
              | .ok blocks => .ok (block :: blocks)

/-- Reads an archive. The data of its blocks is not hashed here. -/
def decodeFault (input : Bytes) : Except ArchiveFault Archive :=
  match readSection input with
  | .error fault => .error fault
  | .ok none => .error .empty
  | .ok (some (header, rest)) =>
      match readHeader header with
      | .error fault => .error fault
      | .ok root =>
          match readBlocks (rest.length + 1) rest with
          | .error fault => .error fault
          | .ok blocks => .ok ⟨root, blocks⟩

def decode (input : Bytes) : Except BlockError Archive :=
  (decodeFault input).mapError BlockError.archive

end Archive

end SealedContent.Content
