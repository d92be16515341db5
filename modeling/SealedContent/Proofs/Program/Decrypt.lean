import SealedContent.Program.Decrypt
import SealedContent.Proofs.Bytes.Pieces
import SealedContent.Proofs.Program.Encrypt

/-!
The course of a decryption. A record is loaded and compared with the ciphertext, its key is recovered, and
only then is a file made of what the ciphertext opens to.
-/

namespace SealedContent

namespace Cipher

theorem mapM_id_ok (chunks : List Bytes) :
    (chunks.map Except.ok : List StreamItem).mapM id = .ok chunks := by
  induction chunks with
  | nil => rfl
  | cons chunk chunks induction =>
      rw [List.map_cons, List.mapM_cons, induction]
      rfl

end Cipher

namespace Program.Action

open Cipher (KeyMaterial StreamItem)
open Config (Settings expandHome)
open Content (Cid)
open Custody (KeyService Requester)
open Record (Metadata)

variable {σ : Type} (surroundings : Surroundings σ) (settings : Settings)
  (ciphertext metadata : String) (space : Option String)

/-- The record of a ciphertext, which has to name it. -/
def matchingRecord : Action σ Metadata := do
  let record ← metadataAt surroundings settings metadata
  let actual ← cidOfFile settings.encryption.chunkSize ciphertext
  if actual ≠ record.dataCid then
    throw [s!"{ciphertext} does not match the metadata record: " ++
      s!"expected {record.dataCid.toText}, found {actual.toText}"]
  return record

/-- All that a decryption does before it makes a file. -/
def recoverKey : Action σ KeyMaterial := do
  let adapter ← adapter surroundings settings
  let record ← matchingRecord surroundings settings ciphertext metadata
  let space := space <|> settings.identity.spaceDid <|> spaceOfRecord record
  let requester ← requester surroundings settings.identity space
  openAt ciphertext
  during "recovering content key"
    (exchange Trouble.ofCustody (adapter.custodian.unwrap surroundings.suite
      surroundings.chance.moment record.encryptedKey record requester))

/-- What a ciphertext opens to that is read in some way. -/
def plaintextOf (material : KeyMaterial) (reading : FileSystem → List StreamItem)
    (files : FileSystem) : List StreamItem :=
  Cipher.decryptStream surroundings.cipher settings.encryption.cipher material (reading files)

/-- A decryption whose ciphertext is read in some way, and perhaps not to its end. -/
def decryptReading (reading : FileSystem → List StreamItem) (out : String) : Action σ String := do
  let material ← recoverKey surroundings settings ciphertext metadata space
  let _ ← during s!"decrypting {ciphertext}"
    (persist surroundings.room (plaintextOf surroundings settings material reading) out)
  return s!"Decrypted {ciphertext} → {out}\n"

theorem decrypt_eq (out : String) :
    decrypt surroundings settings ciphertext metadata out space =
      decryptReading surroundings settings ciphertext metadata space
        (fun files => files.chunks settings.encryption.chunkSize ciphertext) out := by
  funext world
  cases made : adapter surroundings settings world with
  | error trouble after =>
      rw [decrypt, decryptReading, recoverKey, bind_of_error made, bind_assoc, bind_of_error made]
  | ok adapter between =>
      rw [decrypt, decryptReading, recoverKey, bind_of_ok made, bind_assoc, bind_of_ok made,
        cipher_of_adapter made]
      simp only [matchingRecord, bind_assoc]
      refine congrFun (bind_congr fun record => bind_congr fun actual => ?_) between
      split
      · rfl
      · rw [pure_bind]
        rfl

section Steps

variable {surroundings settings ciphertext metadata space} {world : World σ} {record : Metadata}

theorem metadataAt_of_archive {archive : Bytes}
    (found : world.files.read? (expandHome surroundings.home metadata) = some archive)
    (extracted : Metadata.extract archive = .ok record) :
    metadataAt surroundings settings metadata world = .ok record world := by
  rw [metadataAt, bind_files, found]
  dsimp only
  rw [extracted]
  rfl

/-- The identifier of a file does not depend on the pieces in which it is read. -/
theorem cidOfFile_of_read? {path : String} {content : Bytes}
    (read : world.files.read? path = some content) (size : Nat) :
    cidOfFile size path world = .ok (Cid.ofData Content.Codec.raw content) world := by
  have cid := cidOfChunks_eq (content.pieces size)
  rw [Bytes.flatten_pieces] at cid
  rw [← cid, cidOfFile, bind_of_ok (openAt_of_found (FileSystem.found_of_read? read)), bind_files,
    FileSystem.chunks_of_read? read, Cipher.mapM_id_ok]
  rfl

/-- With a record that names the ciphertext, all that is left is to ask the custodian for its key. -/
theorem recoverKey_of_steps {service : KeyService} {requester : Requester} {content : Bytes}
    {chosen : Option String} (connects : Connects settings service)
    (found : metadataAt surroundings settings metadata world = .ok record world)
    (read : world.files.read? ciphertext = some content)
    (same : record.dataCid = Cid.ofData Content.Codec.raw content)
    (choice : (space <|> settings.identity.spaceDid <|> spaceOfRecord record) = chosen)
    (identified : Action.requester surroundings settings.identity chosen world =
      .ok requester world) :
    recoverKey surroundings settings ciphertext metadata space world =
      during "recovering content key" (exchange Trouble.ofCustody
        ((custodianOf surroundings service).unwrap surroundings.suite surroundings.chance.moment
          record.encryptedKey record requester)) world := by
  have matching : matchingRecord surroundings settings ciphertext metadata world =
      .ok record world := by
    rw [matchingRecord, bind_of_ok found, bind_of_ok (cidOfFile_of_read? read _),
      if_neg (not_not_intro same.symm)]
    rfl
  rw [recoverKey, bind_of_ok (adapter_of_connects connects), bind_of_ok matching]
  dsimp only
  rw [choice, bind_of_ok identified, bind_of_ok (openAt_of_found (FileSystem.found_of_read? read))]

end Steps

end Program.Action

end SealedContent
