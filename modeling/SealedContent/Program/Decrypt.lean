import SealedContent.Program.Encrypt
import SealedContent.Program.Fetch

/-!
Decryption of a file by its metadata record. The ciphertext must be the content that the record
names before the key is asked for.
-/

namespace SealedContent.Program

open Config (Settings)
open Content (Cid)
open Record (Metadata)

namespace Action

variable {σ : Type}

/-- The record in a local archive, or else the one that a gateway has under that name. -/
def metadataAt (surroundings : Surroundings σ) (settings : Settings) (name : String) :
    Action σ Metadata := do
  let path := Config.expandHome surroundings.home name
  match (← files).read? path with
  | some bytes =>
      during s!"decoding metadata archive {path}"
        (ofResult Trouble.ofBlock (Metadata.extract bytes))
  | none => fetchRecord surroundings settings name

def cidOfFile (size : Nat) (path : String) : Action σ Cid := do
  openAt path
  let chunks ← ofResult Trouble.ofCipher (((← files).chunks size path).mapM id)
  return cidOfChunks chunks

def spaceOfRecord : Metadata → Option String
  | .service fields => some fields.space
  | .threshold _ => none

def decrypt (surroundings : Surroundings σ) (settings : Settings)
    (ciphertext metadata out : String) (space : Option String) : Action σ String := do
  let adapter ← adapter surroundings settings
  let record ← metadataAt surroundings settings metadata
  let size := settings.encryption.chunkSize
  let actual ← cidOfFile size ciphertext
  if actual ≠ record.dataCid then
    throw [s!"{ciphertext} does not match the metadata record: " ++
      s!"expected {record.dataCid.toText}, found {actual.toText}"]
  let space := space <|> settings.identity.spaceDid <|> spaceOfRecord record
  let requester ← requester surroundings settings.identity space
  openAt ciphertext
  let material ← during "recovering content key"
    (exchange Trouble.ofCustody (adapter.custodian.unwrap surroundings.suite
      surroundings.chance.moment record.encryptedKey record requester))
  let plaintext (files : FileSystem) :=
    Cipher.decryptStream surroundings.cipher adapter.cipher material (files.chunks size ciphertext)
  let _ ← during s!"decrypting {ciphertext}" (persist surroundings.room plaintext out)
  return s!"Decrypted {ciphertext} → {out}\n"

end Action

end SealedContent.Program
