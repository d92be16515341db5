import SealedContent.Program.Encrypt
import SealedContent.Proofs.Content.CidHasher
import SealedContent.Proofs.Program.FileStream

/-!
The course of an encryption. A service is reached, the requester is known and the key is wrapped; then
the ciphertext is made, and only when it is complete does its record follow.
-/

namespace SealedContent.Program.Action

open Cipher (StreamItem)
open Config (Settings)
open Content (Cid)
open Custody (Adapter Custodian KeyService Requester WrappedKey)
open Record (Metadata)

variable {σ : Type} {surroundings : Surroundings σ} {settings : Settings} {world after : World σ}

theorem cidOfChunks_eq (chunks : List Bytes) :
    cidOfChunks chunks = Cid.ofData Content.Codec.raw chunks.flatten :=
  Content.CidHasher.finish_foldl Content.Codec.raw chunks

/-- The key service of the settings as it is reached from around a task. -/
def custodianOf (surroundings : Surroundings σ) (service : KeyService) : Custodian σ :=
  .keyService service (Custody.Endpoint.peer service.endpoint surroundings.transport)

/-- The ciphertext of what can be read at a path. -/
def ciphertextOf (surroundings : Surroundings σ) (settings : Settings) (input : String)
    (files : FileSystem) : List StreamItem :=
  Cipher.encryptStream surroundings.cipher settings.encryption.cipher surroundings.material
    (files.chunks settings.encryption.chunkSize input)

/-- What an encryption does once the ciphertext is in its place: the record is made and written. -/
def shipRecord (room : Room) (input out metadata : String) (adapter : Adapter σ)
    (wrapped : WrappedKey) (chunks : List Bytes) : Action σ String := do
  let dataCid := cidOfChunks chunks
  let record ← during "building metadata record"
    (ofResult Trouble.ofCustody (wrapped.toMetadata dataCid))
  let archived ← during "archiving metadata record" (ofResult Trouble.ofBlock record.archive)
  during s!"writing {metadata}" (writeFile room metadata archived.bytes)
  return encryptReport input out metadata adapter chunks dataCid archived.cid

/-- The settings connect to a service. -/
def Connects (settings : Settings) (service : KeyService) : Prop :=
  KeyService.connect settings.keyService.url settings.keyService.serviceDid
    settings.keyService.allowInsecureHttp = .ok service

theorem adapter_of_connects {service : KeyService} (connects : Connects settings service) :
    adapter surroundings settings world =
      .ok ⟨settings.encryption.cipher, custodianOf surroundings service⟩ world := by
  have reached : during "configuring KMS key wrap" (ofResult Trouble.ofCustody
      (KeyService.connect settings.keyService.url settings.keyService.serviceDid
        settings.keyService.allowInsecureHttp)) world = .ok service world := by
    rw [show KeyService.connect _ _ _ = .ok service from connects]
    rfl
  rw [adapter, bind_of_ok reached]
  rfl

theorem cipher_of_adapter {made : Adapter σ}
    (done : adapter surroundings settings world = .ok made after) :
    made.cipher = settings.encryption.cipher := by
  obtain ⟨service, between, -, later⟩ := bind_eq_ok done
  cases later
  rfl

variable {service : KeyService} {requester : Requester} {input out metadata : String}
  {part place : Place} {content : Bytes} {wrapped : WrappedKey} {network : σ} {chunks : List Bytes}

/-- The stream is what the input holds when the partial file is there, whichever file that is. -/
theorem encrypt_of_stream (connects : Connects settings service)
    (identified : Action.requester surroundings settings.identity settings.identity.spaceDid world =
      .ok requester world)
    (found : (world.files.lookup? input).isSome)
    (wraps : (custodianOf surroundings service).wrap surroundings.suite surroundings.chance
      surroundings.material requester world.network = (.ok wrapped, network))
    (partly : world.files.Leads (partialPath out) part) (roomy : surroundings.room part = none)
    (wholly : world.files.Leads out place)
    (streamed : (ciphertextOf surroundings settings input
      (world.files.set part (some (.file [])))).mapM id = .ok chunks) :
    encrypt surroundings settings input out metadata world =
      shipRecord surroundings.room input out metadata
        ⟨settings.encryption.cipher, custodianOf surroundings service⟩ wrapped chunks
        ⟨persisted world.files part place chunks, network⟩ := by
  let between : World σ := { world with network := network }
  have wrapped_eq : during "wrapping content key" (exchange Trouble.ofCustody
      ((custodianOf surroundings service).wrap surroundings.suite surroundings.chance
        surroundings.material requester)) world = .ok wrapped between :=
    during_of_ok _ (exchange_of_ok wraps)
  have made : persist surroundings.room (ciphertextOf surroundings settings input) out between =
      .ok chunks _ :=
    persist_of_ok partly wholly streamed (partly.fitting_eq roomy)
  rw [encrypt, bind_of_ok (adapter_of_connects connects), bind_of_ok identified,
    bind_of_ok (openAt_of_found found), bind_of_ok wrapped_eq]
  exact bind_of_ok (during_of_ok s!"encrypting {input}" made)

/-- Once all is there that the ciphertext needs, it comes into its place, and the record follows. -/
theorem encrypt_of_ciphertext (connects : Connects settings service)
    (identified : Action.requester surroundings settings.identity settings.identity.spaceDid world =
      .ok requester world)
    (read : world.files.read? input = some content)
    (wraps : (custodianOf surroundings service).wrap surroundings.suite surroundings.chance
      surroundings.material requester world.network = (.ok wrapped, network))
    (partly : world.files.Leads (partialPath out) part) (roomy : surroundings.room part = none)
    (wholly : world.files.Leads out place) (aside : world.files.Apart input (partialPath out))
    (streamed : (Cipher.encryptStream surroundings.cipher settings.encryption.cipher
      surroundings.material ((content.pieces settings.encryption.chunkSize).map .ok)).mapM id =
        .ok chunks) :
    encrypt surroundings settings input out metadata world =
      shipRecord surroundings.room input out metadata
        ⟨settings.encryption.cipher, custodianOf surroundings service⟩ wrapped chunks
        ⟨persisted world.files part place chunks, network⟩ := by
  have still : (world.files.set part (some (.file []))).read? input = some content := by
    rw [aside.read?_set_eq partly (by simp), read]
  apply encrypt_of_stream connects identified (FileSystem.found_of_read? read) wraps partly roomy
    wholly
  rw [ciphertextOf, FileSystem.chunks_of_read? still, streamed]

section Record

variable {room : Room} {input : String} {adapter : Adapter σ} {record : Metadata}
  {archived : Metadata.Archived} {files : FileSystem}

theorem shipRecord_of_archived
    (recorded : wrapped.toMetadata (Cid.ofData Content.Codec.raw chunks.flatten) = .ok record)
    (shipped : record.archive = .ok archived) :
    shipRecord room input out metadata adapter wrapped chunks world =
      (do
        during s!"writing {metadata}" (writeFile room metadata archived.bytes)
        return encryptReport input out metadata adapter chunks (cidOfChunks chunks) archived.cid :
          Action σ String) world := by
  have built : during "building metadata record" (ofResult Trouble.ofCustody
      (wrapped.toMetadata (cidOfChunks chunks))) world = .ok record world := by
    rw [cidOfChunks_eq, recorded]
    rfl
  have packed : during "archiving metadata record" (ofResult Trouble.ofBlock record.archive) world =
      .ok archived world := by
    rw [shipped]
    rfl
  rw [shipRecord, bind_of_ok built, bind_of_ok packed]

theorem shipRecord_of_ok
    (recorded : wrapped.toMetadata (Cid.ofData Content.Codec.raw chunks.flatten) = .ok record)
    (shipped : record.archive = .ok archived)
    (fits : world.files.fitting room metadata archived.bytes = archived.bytes)
    (written : world.files.write? metadata archived.bytes = some files) :
    ∃ report, shipRecord room input out metadata adapter wrapped chunks world =
      .ok report { world with files := files } := by
  rw [shipRecord_of_archived recorded shipped,
    bind_of_ok (during_of_ok s!"writing {metadata}" (writeFile_of_fitting fits written))]
  exact ⟨_, rfl⟩

theorem shipRecord_of_full
    (recorded : wrapped.toMetadata (Cid.ofData Content.Codec.raw chunks.flatten) = .ok record)
    (shipped : record.archive = .ok archived)
    (full : world.files.fitting room metadata archived.bytes ≠ archived.bytes)
    (written : world.files.write? metadata (world.files.fitting room metadata archived.bytes) =
      some files) :
    shipRecord room input out metadata adapter wrapped chunks world =
      .error (s!"writing {metadata}" :: Trouble.system) { world with files := files } := by
  rw [shipRecord_of_archived recorded shipped,
    bind_of_error (during_of_error s!"writing {metadata}" (writeFile_of_full full written))]

/-- A wrapped key that gives no valid record leaves everything as it is. -/
theorem shipRecord_of_error {error : Custody.CustodyError}
    (refused : wrapped.toMetadata (Cid.ofData Content.Codec.raw chunks.flatten) = .error error) :
    shipRecord room input out metadata adapter wrapped chunks world =
      .error ("building metadata record" :: Trouble.ofCustody error) world := by
  have unbuilt : during "building metadata record" (ofResult Trouble.ofCustody
      (wrapped.toMetadata (cidOfChunks chunks))) world =
        .error ("building metadata record" :: Trouble.ofCustody error) world := by
    rw [cidOfChunks_eq, refused]
    rfl
  rw [shipRecord, bind_of_error unbuilt]

end Record

end SealedContent.Program.Action
