import SealedContent.Proofs.Custody.RoundTrip
import SealedContent.Proofs.Custody.WebService
import SealedContent.Proofs.Program.Decrypt
import SealedContent.Proofs.Program.Identity

/-!
A file that was encrypted is restored by decryption, whatever the files are called and however they are
read. The two runs share nothing but the ciphertext, the metadata record and the key service.
-/

namespace SealedContent

namespace Cipher

theorem exists_chunks_of_collect {items : List StreamItem} {data : Bytes}
    (collected : collect items = .ok data) :
    ∃ chunks, items.mapM id = .ok chunks ∧ chunks.flatten = data := by
  rw [collect] at collected
  cases streamed : items.mapM id with
  | error failure =>
      rw [streamed] at collected
      cases collected
  | ok chunks =>
      rw [streamed] at collected
      exact ⟨chunks, rfl, Except.ok.inj collected⟩

/-- Only counter mode can refuse data, when it needs more blocks than there are. -/
theorem exists_ciphertext (cipher : BlockCipher) (algorithm : CipherAlgorithm)
    (material : KeyMaterial) (plain : List Bytes)
    (enough : algorithm = .aesCtr →
      plain.flatten.length ≤ 16 * Keystream.limit ⟨material.iv.bytes⟩) :
    ∃ ciphertext, collect (encryptStream cipher algorithm material (plain.map .ok)) =
      .ok ciphertext := by
  cases algorithm with
  | aesCtr =>
      have encrypted := Keystream.collect_start (cipher material.key).encrypt ⟨material.iv.bytes⟩ plain
      rw [if_pos (enough rfl)] at encrypted
      exact ⟨_, encrypted⟩
  | aesCbc =>
      exact ⟨_, ChainEncryptor.collect_run (cipher material.key).encrypt material.iv.bytes plain⟩

end Cipher

namespace Program

open Cipher (KeyMaterial StreamItem)
open Config (Settings expandHome)
open Content (Cid)
open Custody (Custodian Issuer KeyService Requester WrappedKey)
open Record (Metadata)

variable {σ : Type}

namespace Action

variable {surroundings : Surroundings σ} {settings : Settings} {service : KeyService}
  {world : World σ} {requester : Requester}

/-- The steps of a decryption, each with what it comes to. -/
theorem decrypt_of_steps {ciphertextPath metadata out : String} {requested space : Option String}
    {part place : Place} {ciphertext archive : Bytes} {record : Metadata} {material : KeyMaterial}
    {network : σ} {chunks : List Bytes}
    (connects : Connects settings service)
    (found : world.files.read? (expandHome surroundings.home metadata) = some archive)
    (extracted : Metadata.extract archive = .ok record)
    (read : world.files.read? ciphertextPath = some ciphertext)
    (same : record.dataCid = Cid.ofData Content.Codec.raw ciphertext)
    (chosen : (requested <|> settings.identity.spaceDid <|> spaceOfRecord record) = space)
    (identified : Action.requester surroundings settings.identity space world = .ok requester world)
    (unwraps : (custodianOf surroundings service).unwrap surroundings.suite
      surroundings.chance.moment record.encryptedKey record requester world.network =
        (.ok material, network))
    (partly : world.files.Leads (partialPath out) part) (roomy : surroundings.room part = none)
    (wholly : world.files.Leads out place)
    (aside : world.files.Apart ciphertextPath (partialPath out))
    (streamed : (Cipher.decryptStream surroundings.cipher settings.encryption.cipher material
      ((ciphertext.pieces settings.encryption.chunkSize).map .ok)).mapM id = .ok chunks) :
    ∃ report, decrypt surroundings settings ciphertextPath metadata out requested world =
      .ok report ⟨persisted world.files part place chunks, network⟩ := by
  let between : World σ := { world with network := network }
  have recovered : recoverKey surroundings settings ciphertextPath metadata requested world =
      .ok material between := by
    rw [recoverKey_of_steps connects (metadataAt_of_archive found extracted) read same chosen
      identified]
    exact during_of_ok _ (exchange_of_ok unwraps)
  have still : (world.files.set part (some (.file []))).read? ciphertextPath = some ciphertext := by
    rw [aside.read?_set_eq partly (by simp), read]
  have made : persist surroundings.room (plaintextOf surroundings settings material fun files =>
      files.chunks settings.encryption.chunkSize ciphertextPath) out between = .ok chunks _ :=
    persist_of_ok partly wholly (by rw [plaintextOf, FileSystem.chunks_of_read? still, streamed])
      (partly.fitting_eq roomy)
  rw [decrypt_eq, decryptReading, bind_of_ok recovered,
    bind_of_ok (during_of_ok s!"decrypting {ciphertextPath}" made)]
  exact ⟨_, rfl⟩

/-- A file can be read, and there is room for its ciphertext and for a record beside it. -/
structure CanEncrypt (room : Room) (files : FileSystem) (input out metadata : String)
    (content : Bytes) : Prop where
  read_input : files.read? input = some content
  out_writable : files.Writable room out
  partial_writable : files.Writable room (partialPath out)
  metadata_writable : files.Writable room metadata
  input_aside : files.Apart input (partialPath out)
  metadata_apart : files.Apart metadata out
  metadata_aside : files.Apart metadata (partialPath out)

/-- What an encryption leaves: the ciphertext at its path, a record of the service that names it in an
archive, and nothing at the partial path. Nothing else has changed. -/
structure Leaves (out metadata : String) (before after : FileSystem) (ciphertext archive : Bytes)
    (record : Record.ServiceRecord) : Prop where
  read_out : after.read? out = some ciphertext
  read_metadata : after.read? metadata = some archive
  extract_eq : Metadata.extract archive = .ok (.service record)
  dataCid_eq : record.dataCid = Cid.ofData Content.Codec.raw ciphertext
  partial_gone : after.lookup? (partialPath out) = none
  directories : after.SameDirectories before
  lookup?_eq : ∀ path, before.Apart path out → before.Apart path (partialPath out) →
    before.Apart path metadata → after.lookup? path = before.lookup? path

/-- A ciphertext and the archive of its record are found, and there is room for a file. -/
structure CanDecrypt (home : String) (room : Room) (files : FileSystem)
    (ciphertextPath recordName out : String) (ciphertext archive : Bytes) : Prop where
  read_ciphertext : files.read? ciphertextPath = some ciphertext
  read_record : files.read? (expandHome home recordName) = some archive
  out_writable : files.Writable room out
  partial_writable : files.Writable room (partialPath out)
  ciphertext_aside : files.Apart ciphertextPath (partialPath out)

theorem leaves_of_set {files : FileSystem} {out metadata : String} {part place recordPlace : Place}
    {chunks : List Bytes} {archive : Bytes} {record : Record.ServiceRecord}
    (partly : files.Leads (partialPath out) part) (wholly : files.Leads out place)
    (leads : files.Leads metadata recordPlace) (apart : files.Apart metadata out)
    (aside : files.Apart metadata (partialPath out))
    (extracted : Metadata.extract archive = .ok (.service record))
    (named : record.dataCid = Cid.ofData Content.Codec.raw chunks.flatten) :
    Leaves out metadata files ((persisted files part place chunks).set recordPlace
      (some (.file archive))) chunks.flatten archive record := by
  have same := sameDirectories_persisted chunks partly wholly
  have onto := same.leads_iff.mpr leads
  have plain : some (Entry.file archive) ≠ some .directory := by simp
  have kept {path : String} (other : files.Apart path metadata) :
      ((persisted files part place chunks).set recordPlace (some (.file archive))).lookup? path =
        (persisted files part place chunks).lookup? path :=
    (same.apart_iff.mpr other).lookup?_set_eq onto plain
  constructor
  case read_out =>
    rw [FileSystem.read?_eq_some_iff, kept apart.symm, lookup?_persisted_self chunks partly wholly]
  case read_metadata =>
    rw [FileSystem.read?_eq_some_iff, onto.lookup?_set_self plain]
  case extract_eq => exact extracted
  case dataCid_eq => exact named
  case partial_gone => rw [kept aside.symm, lookup?_persisted_partial chunks partly wholly]
  case directories => exact (FileSystem.sameDirectories_set onto.free plain).trans same
  case lookup?_eq =>
    intro path elsewhere beside other
    rw [kept other, lookup?_persisted_apart chunks partly wholly elsewhere beside]

section

variable {issuer : Issuer} {space : String} {proofs : List String}

/-- A key that can be recovered decrypts the file that was encrypted under it. -/
theorem decrypt_of_recovers {material : KeyMaterial} {between : σ} {record : Record.ServiceRecord}
    {plain : List Bytes} {ciphertext archive : Bytes} {ciphertextPath recordName out : String}
    {requested : Option String} (connects : Connects settings service)
    (holds : HoldsIdentity surroundings.home world.files settings.identity issuer proofs)
    (own : settings.identity.spaceDid = some space)
    (recovers : (custodianOf surroundings service).Recovers surroundings.suite material
      ⟨some space, some issuer, proofs⟩ space (Cid.ofData Content.Codec.raw ciphertext) between
        (.service record))
    (passed : (custodianOf surroundings service).Later between world.network)
    (encrypted : Cipher.collect (Cipher.encryptStream surroundings.cipher
      settings.encryption.cipher material (plain.map .ok)) = .ok ciphertext)
    (extracted : Metadata.extract archive = .ok (.service record))
    (ready : CanDecrypt surroundings.home surroundings.room world.files ciphertextPath recordName out
      ciphertext archive)
    (chosen : requested = none ∨ requested = some space) :
    ∃ report after,
      decrypt surroundings settings ciphertextPath recordName out requested world =
        .ok report after ∧
      after.files.read? out = some plain.flatten ∧
      after.files.lookup? (partialPath out) = none := by
  obtain ⟨part, partly, roomy⟩ := ready.partial_writable
  obtain ⟨place, wholly, -⟩ := ready.out_writable
  have unwrapped := recovers.unwrapped world.network surroundings.chance.moment passed
  have decrypted := Cipher.collect_decryptStream encrypted
    (Bytes.flatten_pieces settings.encryption.chunkSize ciphertext)
  obtain ⟨chunks, opened, joined⟩ := Cipher.exists_chunks_of_collect decrypted
  have space_eq : (requested <|> settings.identity.spaceDid <|> spaceOfRecord (.service record)) =
      some space := by
    rw [own]
    rcases chosen with rfl | rfl <;> rfl
  obtain ⟨report, restored⟩ := decrypt_of_steps connects ready.read_record extracted
    ready.read_ciphertext recovers.dataCid_eq space_eq (requester_of_holds holds _)
    (Prod.ext unwrapped rfl) partly roomy wholly ready.ciphertext_aside opened
  refine ⟨report, _, restored, ?_, lookup?_persisted_partial chunks partly wholly⟩
  rw [FileSystem.read?_eq_some_iff, lookup?_persisted_self chunks partly wholly, joined]

theorem exists_service_of_recovers {material : KeyMaterial} {requester : Requester} {dataCid : Cid}
    {between : σ} {record : Metadata}
    (recovers : (custodianOf surroundings service).Recovers surroundings.suite material requester
      space dataCid between record) : ∃ fields, record = .service fields := by
  have kind := recovers.kind_eq
  cases record with
  | service fields => exact ⟨fields, rfl⟩
  | threshold fields => cases kind

/-- A file of any content, read in pieces of any size, is encrypted under its key, and the record names
the ciphertext. At any later time, with the ciphertext and the record at whatever paths, with the same
cipher and identity, and with pieces of any other size, decryption writes the content again and leaves
nothing at the partial path. -/
theorem encrypted_file_restored {Keeps : σ → String → Bytes → Prop} {content : Bytes}
    {input out metadata : String} (connects : Connects settings service)
    (reliable : service.Reliable surroundings.suite surroundings.chance.sealing issuer space
      (Custody.Endpoint.peer service.endpoint surroundings.transport) Keeps)
    (holds : HoldsIdentity surroundings.home world.files settings.identity issuer proofs)
    (own : settings.identity.spaceDid = some space) (named : Text.onlyBlank space = false)
    (proven : proofs ≠ [])
    (small : ∀ wrapped network, (custodianOf surroundings service).wrap surroundings.suite
      surroundings.chance surroundings.material ⟨some space, some issuer, proofs⟩ world.network =
        (.ok wrapped, network) → ∀ data,
          (wrapped.record (Cid.ofData Content.Codec.raw data)).toBlock.data.length < 2 ^ 63)
    (ready : CanEncrypt surroundings.room world.files input out metadata content)
    (enough : settings.encryption.cipher = .aesCtr →
      content.length ≤ 16 * Cipher.Keystream.limit ⟨surroundings.material.iv.bytes⟩) :
    ∃ report after ciphertext archive record,
      encrypt surroundings settings input out metadata world = .ok report after ∧
      Leaves out metadata world.files after.files ciphertext archive record ∧
      ∀ (home : String) (room : Room) (chance : Custody.Chance) (size : Nat) (later : World σ)
        (ciphertextPath recordName plain : String) (requested : Option String),
        (custodianOf surroundings service).Later after.network later.network →
        HoldsIdentity home later.files settings.identity issuer proofs →
        CanDecrypt home room later.files ciphertextPath recordName plain ciphertext archive →
        requested = none ∨ requested = some space →
        ∃ report last,
          decrypt { surroundings with home := home, room := room, chance := chance }
            { settings with encryption := ⟨settings.encryption.cipher, size⟩ } ciphertextPath
            recordName plain requested later = .ok report last ∧
          last.files.read? plain = some content ∧
          last.files.lookup? (partialPath plain) = none := by
  obtain ⟨part, partly, roomy⟩ := ready.partial_writable
  obtain ⟨place, wholly, -⟩ := ready.out_writable
  obtain ⟨recordPlace, leads, recordRoomy⟩ := ready.metadata_writable
  have whole := Bytes.flatten_pieces settings.encryption.chunkSize content
  obtain ⟨ciphertext, encrypted⟩ := Cipher.exists_ciphertext surroundings.cipher
    settings.encryption.cipher surroundings.material
    (content.pieces settings.encryption.chunkSize) (by rwa [whole])
  obtain ⟨chunks, streamed, rfl⟩ := Cipher.exists_chunks_of_collect encrypted
  obtain ⟨answer, setup, wrapped, network, -, -, wraps, -, recovers⟩ :=
    reliable.exists_recovers named proven surroundings.material
      (Cid.ofData Content.Codec.raw chunks.flatten) world.network
  obtain ⟨recorded, archived, shipped, extracted⟩ :=
    WrappedKey.exists_archived recovers.valid (small _ _ wraps chunks.flatten)
  have same := sameDirectories_persisted chunks partly wholly
  let complete : World σ := ⟨persisted world.files part place chunks, network⟩
  have leadsStill : complete.files.Leads metadata recordPlace := same.leads_iff.mpr leads
  have written : complete.files.write? metadata archived.bytes = some _ :=
    leadsStill.write?_eq archived.bytes
  have identified := requester_of_holds holds settings.identity.spaceDid
  rw [← own] at wraps
  have encrypts : encrypt surroundings settings input out metadata world = _ :=
    encrypt_of_ciphertext connects identified ready.read_input wraps partly roomy wholly
      ready.input_aside streamed
  obtain ⟨report, ships⟩ := shipRecord_of_ok recorded shipped (leadsStill.fitting_eq recordRoomy)
    written
  rw [ships] at encrypts
  obtain ⟨record, record_eq⟩ := exists_service_of_recovers recovers
  rw [record_eq] at extracted recovers
  refine ⟨report, _, chunks.flatten, archived.bytes, record, encrypts, ?_, ?_⟩
  · exact leaves_of_set partly wholly leads ready.metadata_apart ready.metadata_aside extracted
      recovers.dataCid_eq
  · intro home room chance size later ciphertextPath recordName plain requested passed laterHolds
      laterReady chosen
    rw [← whole]
    exact decrypt_of_recovers connects laterHolds own recovers passed encrypted extracted laterReady
      chosen

end

end Action

/-! A file of four bytes, encrypted under a key that a service on the web keeps, and decrypted in pieces of
seven bytes from what was left. -/

namespace Sample

def settings : Settings :=
  { Settings.standard with
    keyService := ⟨"https://service.example/", "did:web:service.example", false, 30⟩
    identity := ⟨some Custody.Sample.issuer.did, some "issuer.key", some Custody.Sample.space,
      some "space.proof"⟩ }

def surroundings : Surroundings Unit where
  home := "."
  environment _ := none
  transport := KeyService.webHolder Custody.Suite.standard Custody.Sample.identity
    Custody.Sample.setup
  suite := Custody.Suite.standard
  cipher := Cipher.aes256
  chance := Custody.Sample.chance
  material := Custody.Sample.material
  issuerSecret := []

def content : Bytes := [1, 2, 3, 4]

def folder : FileSystem where
  entryAt
    | ["work", "in.bin"] => some (.file content)
    | ["work", "issuer.key"] => some (.file (Bytes.ofText (Bytes.toHex Custody.Sample.issuer.secret)))
    | ["work", "space.proof"] => some (.file (Bytes.ofText "proof\n"))
    | _ => none
  workingDirectory := ["work"]

def inFolder (name : String) : Place := ["work", name]

theorem exists_connects : ∃ service, Action.Connects settings service := by
  have connected : (Custody.Endpoint.ofText "https://service.example/" false).toOption.isSome = true := by
    decide +kernel
  cases read : Custody.Endpoint.ofText "https://service.example/" false with
  | error failure =>
      rw [read] at connected
      cases connected
  | ok endpoint =>
      refine ⟨⟨endpoint, "did:web:service.example"⟩, ?_⟩
      rw [Action.Connects, KeyService.connect]
      change (Custody.Endpoint.ofText "https://service.example/" false).map _ = _
      rw [read]
      rfl

theorem holds : HoldsIdentity surroundings.home folder settings.identity Custody.Sample.issuer
    Custody.Sample.proofs where
  issuerDid := rfl
  signingKey := ⟨"issuer.key", _, rfl, rfl, by decide +kernel⟩
  proofs := ⟨"space.proof", "proof\n", rfl, rfl, by decide +kernel⟩

open Program.Action in
theorem ready : CanEncrypt surroundings.room folder "in.bin" "out.enc" "out.enc.metadata.car" content where
  read_input := rfl
  out_writable := ⟨inFolder "out.enc", ⟨by decide, by decide⟩, rfl⟩
  partial_writable := ⟨inFolder "out.enc.part", ⟨by decide, by decide⟩, rfl⟩
  metadata_writable := ⟨inFolder "out.enc.metadata.car", ⟨by decide, by decide⟩, rfl⟩
  input_aside := FileSystem.apart_of_ne (by decide)
  metadata_apart := FileSystem.apart_of_ne (by decide)
  metadata_aside := FileSystem.apart_of_ne (by decide)

open Custody.Sample in
theorem small {service : KeyService} {wrapped : Custody.WrappedKey} {network : Unit}
    (made : (Action.custodianOf surroundings service).wrap Custody.Suite.standard chance material
      requester () = (.ok wrapped, network)) (dataCid : Content.Cid) :
    (wrapped.record dataCid).toBlock.data.length < 2 ^ 63 := by
  let call := service.setupCall Custody.Suite.standard issuer space proofs chance.moment
  have legible : call.Legible := KeyService.setupCall_legible service proofs chance.moment
  have answered : Custody.Endpoint.peer service.endpoint surroundings.transport call () =
      (.ok (KeyService.orderedOffer setup), ()) :=
    KeyService.peer_webHolder_setup legible rfl service.endpoint ()
  have wraps := KeyService.wrap_of_offer (by decide) (congrArg Prod.fst answered)
    (KeyService.orderedOffer_givenBy setup) rfl setup_read material
  cases wraps.symm.trans made
  exact keyUnder_fits dataCid

end Sample

namespace Action

open Sample

theorem sampleFile_restored :
    ∃ report after told last,
      encrypt surroundings settings "in.bin" "out.enc" "out.enc.metadata.car" ⟨folder, ()⟩ =
        .ok report after ∧
      decrypt surroundings { settings with encryption := ⟨settings.encryption.cipher, 7⟩ } "out.enc"
        "out.enc.metadata.car" "back.bin" none after = .ok told last ∧
      last.files.read? "back.bin" = some content ∧
      last.files.lookup? "back.bin.part" = none := by
  obtain ⟨service, connects⟩ := exists_connects
  have reliable := KeyService.webHolder_reliable (σ := Unit) Custody.Sample.setup_names
    Custody.Sample.issuer Custody.Sample.space service
  let start : World Unit := ⟨folder, ()⟩
  have startHolds : HoldsIdentity surroundings.home start.files settings.identity
    Custody.Sample.issuer Custody.Sample.proofs := holds
  obtain ⟨report, after, ciphertext, archive, record, encrypted, leaves, restores⟩ :=
    encrypted_file_restored connects reliable startHolds rfl (by decide) (by decide)
      (fun _ _ made _ => small made _) ready (fun _ => by decide)
  have kept {path : String} (apart : folder.Apart path "out.enc")
      (aside : folder.Apart path "out.enc.part") (other : folder.Apart path "out.enc.metadata.car") :
      after.files.read? path = folder.read? path := by
    rw [FileSystem.read?, FileSystem.read?, leaves.lookup?_eq path apart aside other]
  have stillHolds : HoldsIdentity "." after.files settings.identity Custody.Sample.issuer
      Custody.Sample.proofs := by
    apply holds.congr
    intro name named
    rcases named with key | proof
    · cases key
      exact kept (FileSystem.apart_of_ne (by decide)) (FileSystem.apart_of_ne (by decide))
        (FileSystem.apart_of_ne (by decide))
    · cases proof
      exact kept (FileSystem.apart_of_ne (by decide)) (FileSystem.apart_of_ne (by decide))
        (FileSystem.apart_of_ne (by decide))
  have nextReady : CanDecrypt "." surroundings.room after.files "out.enc" "out.enc.metadata.car"
      "back.bin" ciphertext archive := by
    constructor
    case read_ciphertext => exact leaves.read_out
    case read_record => exact leaves.read_metadata
    case out_writable =>
      exact ⟨inFolder "back.bin", leaves.directories.leads_iff.mpr ⟨by decide, by decide⟩, rfl⟩
    case partial_writable =>
      exact ⟨inFolder "back.bin.part", leaves.directories.leads_iff.mpr ⟨by decide, by decide⟩, rfl⟩
    case ciphertext_aside =>
      exact leaves.directories.apart_iff.mpr (FileSystem.apart_of_ne (by decide))
  obtain ⟨told, last, decrypted, read, gone⟩ := restores "." surroundings.room Custody.Sample.chance 7
    after "out.enc" "out.enc.metadata.car" "back.bin" none .refl stillHolds nextReady (.inl rfl)
  exact ⟨report, after, told, last, encrypted, decrypted, read, gone⟩

end Action

end Program

end SealedContent
