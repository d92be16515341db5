import SealedContent.Custody.Adapter
import SealedContent.Program.FileStream
import SealedContent.Program.Identity
import SealedContent.Record.Block
import SealedContent.Text.Size

/-!
Encryption of a file under a fresh key, which is wrapped before anything is written. Ciphertext and
metadata record are two files; the record names the content of the first.
-/

namespace SealedContent.Program

open Config (Settings)
open Content (Cid CidHasher)
open Custody (Adapter KeyService)
open Record (Metadata)

namespace Action

variable {σ : Type}

def adapter (surroundings : Surroundings σ) (settings : Settings) : Action σ (Adapter σ) := do
  let service ← during "configuring KMS key wrap"
    (ofResult Trouble.ofCustody (KeyService.connect settings.keyService.url
      settings.keyService.serviceDid settings.keyService.allowInsecureHttp))
  let peer := Custody.Endpoint.peer service.endpoint surroundings.transport
  return ⟨settings.encryption.cipher, .keyService service peer⟩

def cidOfChunks (chunks : List Bytes) : Cid :=
  (chunks.foldl CidHasher.update (CidHasher.start Content.Codec.raw)).finish

/-- Where the metadata record of a file goes unless another place is given. -/
def metadataPath (path : String) : String := path ++ ".metadata.car"

def encryptReport (input out metadata : String) (adapter : Adapter σ) (chunks : List Bytes)
    (dataCid recordCid : Cid) : String :=
  let size := Text.fileSize chunks.flatten.length
  s!"Encrypted {input} ({adapter.cipher.name})\n" ++ s!"  ciphertext: {out} ({size})\n" ++
    s!"  data CID:   {dataCid.toText}\n" ++ s!"  metadata:   {metadata} ({recordCid.toText})\n"

def encrypt (surroundings : Surroundings σ) (settings : Settings)
    (input out metadata : String) : Action σ String := do
  let adapter ← adapter surroundings settings
  let requester ← requester surroundings settings.identity settings.identity.spaceDid
  openAt input
  let wrapped ← during "wrapping content key"
    (exchange Trouble.ofCustody (adapter.custodian.wrap surroundings.suite surroundings.chance
      surroundings.material requester))
  let ciphertext (files : FileSystem) :=
    Cipher.encryptStream surroundings.cipher adapter.cipher surroundings.material
      (files.chunks settings.encryption.chunkSize input)
  let chunks ← during s!"encrypting {input}" (persist surroundings.room ciphertext out)
  let dataCid := cidOfChunks chunks
  let record ← during "building metadata record"
    (ofResult Trouble.ofCustody (wrapped.toMetadata dataCid))
  let archived ← during "archiving metadata record" (ofResult Trouble.ofBlock record.archive)
  during s!"writing {metadata}" (writeFile surroundings.room metadata archived.bytes)
  return encryptReport input out metadata adapter chunks dataCid archived.cid

end Action

end SealedContent.Program
