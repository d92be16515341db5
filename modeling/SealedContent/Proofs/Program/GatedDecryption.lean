import SealedContent.Proofs.Cipher.FailStop
import SealedContent.Proofs.Program.KeptInput
import SealedContent.Proofs.Retrieval.Observed

/-!
Decryptions that fail. A ciphertext that is not what the record names is found out before its key is asked
for. Until the first plaintext is there no file has changed, and plaintext that was written before a stream
broke off is removed again: what was at the output stays there, and nothing is left beside it.
-/

namespace SealedContent.Program

open Cipher (KeyMaterial StreamItem)
open Config (Settings)
open Content (Cid)
open Record (Metadata)
open Web (OnlyGets)

variable {σ : Type}

/-- The same surroundings on a network that keeps what was sent. -/
def Surroundings.observed (surroundings : Surroundings σ) : Surroundings (σ × List Web.Request) :=
  { surroundings with transport := surroundings.transport.observed }

/-- A request that carries an invocation to a key service. -/
def IsInvocation (request : Web.Request) : Prop :=
  ∃ endpoint signed, request = Custody.Endpoint.request endpoint signed

theorem not_isInvocation_of_get {request : Web.Request} (get : request.method = "GET") :
    ¬ IsInvocation request := by
  rintro ⟨endpoint, signed, rfl⟩
  have post : "POST" = "GET" := get
  exact absurd post (by decide)

namespace Action

section Record

variable {surroundings : Surroundings σ} {settings : Settings} {ciphertext metadata : String}
  {space : Option String} {record : Metadata}

theorem exchange_eq_ok {α ε : Type} {explain : ε → Trouble} {talk : σ → Except ε α × σ}
    {world after : World σ} {value : α} (done : exchange explain talk world = .ok value after) :
    after = { world with network := (talk world.network).2 } := by
  rw [exchange] at done
  split at done <;> cases done
  rename_i same
  rw [same]

/-- To find a record nothing is sent but requests for something. -/
theorem metadataAt_onlyGets {world loaded : World (σ × List Web.Request)}
    (found : metadataAt surroundings.observed settings metadata world = .ok record loaded) :
    OnlyGets world.network.2 loaded.network.2 := by
  rw [metadataAt, bind_files] at found
  cases read : world.files.read? (Config.expandHome surroundings.observed.home metadata) with
  | some archive =>
      rw [read] at found
      obtain ⟨-, rfl⟩ := ofResult_eq_ok (during_eq_ok found)
      exact .refl _
  | none =>
      rw [read] at found
      obtain ⟨gateway, between, named, fetched⟩ := bind_eq_ok found
      obtain ⟨-, rfl⟩ := ofResult_eq_ok (during_eq_ok named)
      have keeps : surroundings.observed.transport = surroundings.transport.observed := rfl
      rw [exchange_eq_ok (during_eq_ok fetched), keeps]
      dsimp only
      exact gateway.fetchRecord_onlyGets surroundings.transport metadata between.network

theorem adapter_stays (surroundings : Surroundings σ) (settings : Settings) (world : World σ) :
    (∃ made, adapter surroundings settings world = .ok made world) ∨
      ∃ trouble, adapter surroundings settings world = .error trouble world := by
  rw [adapter]
  cases connected : Custody.KeyService.connect settings.keyService.url settings.keyService.serviceDid
      settings.keyService.allowInsecureHttp with
  | error failure => exact .inr ⟨_, rfl⟩
  | ok service => exact .inl ⟨_, rfl⟩

/-- With another ciphertext than the record names, nothing happens after the record was loaded. -/
theorem recoverKey_of_mismatch {world loaded : World σ} {content : Bytes}
    (found : metadataAt surroundings settings metadata world = .ok record loaded)
    (read : world.files.read? ciphertext = some content)
    (other : Cid.ofData Content.Codec.raw content ≠ record.dataCid) :
    ∃ trouble after, recoverKey surroundings settings ciphertext metadata space world =
      .error trouble after ∧ (after = world ∨ after = loaded) := by
  rcases adapter_stays surroundings settings world with ⟨adapter, made⟩ | ⟨trouble, failed⟩
  · rw [← (metadataAt_looks surroundings settings).of_ok found] at read
    have refused : ∃ trouble, matchingRecord surroundings settings ciphertext metadata world =
        .error trouble loaded := by
      rw [matchingRecord, bind_of_ok found, bind_of_ok (cidOfFile_of_read? read _), if_pos other]
      exact ⟨_, rfl⟩
    obtain ⟨trouble, refused⟩ := refused
    refine ⟨trouble, loaded, ?_, .inr rfl⟩
    rw [recoverKey, bind_of_ok made, bind_of_error refused]
  · refine ⟨trouble, world, ?_, .inl rfl⟩
    rw [recoverKey, bind_of_error failed]

end Record

section Gate

variable (surroundings : Surroundings σ) (settings : Settings) (ciphertext metadata out : String)
  (space : Option String)

/-- The key was recovered and the partial file is there. From now on plaintext is written. -/
structure Begins (world : World σ) (material : KeyMaterial) (keyed : World σ) (begun : FileSystem) :
    Prop where
  recovered : recoverKey surroundings settings ciphertext metadata space world = .ok material keyed
  created : world.files.write? (partialPath out) [] = some begun

variable {surroundings settings ciphertext metadata out space} {world : World σ}
  {reading : FileSystem → List StreamItem}

theorem decryptReading_of_not_begins
    (never : ∀ material keyed begun,
      ¬ Begins surroundings settings ciphertext metadata out space world material keyed begun) :
    ∃ trouble after, decryptReading surroundings settings ciphertext metadata space reading out world =
      .error trouble after ∧ after.files = world.files := by
  have looks : (recoverKey surroundings settings ciphertext metadata space).Looks :=
    recoverKey_looks surroundings settings
  cases recovered : recoverKey surroundings settings ciphertext metadata space world with
  | error trouble after =>
      refine ⟨trouble, after, ?_, (looks.of_error recovered).1⟩
      rw [decryptReading, bind_of_error recovered]
  | ok material keyed =>
      have same := looks.of_ok recovered
      have uncreated : keyed.files.write? (partialPath out) [] = none := by
        rw [same]
        cases created : world.files.write? (partialPath out) [] with
        | none => rfl
        | some begun => exact absurd ⟨recovered, created⟩ (never material keyed begun)
      have refused : (during s!"decrypting {ciphertext}" (persist surroundings.room
          (plaintextOf surroundings settings material reading) out)) keyed = .error _ keyed :=
        during_of_error _ (persist_of_uncreated uncreated)
      exact ⟨_, keyed, (bind_of_ok recovered).trans (bind_of_error refused), same⟩

theorem decryptReading_of_failure {material : KeyMaterial} {keyed : World σ} {begun : FileSystem}
    {released : List Bytes} {failure : Cipher.CipherError} {later : List StreamItem}
    (begins : Begins surroundings settings ciphertext metadata out space world material keyed begun)
    (broken : plaintextOf surroundings settings material reading begun =
      released.map .ok ++ .error failure :: later) :
    ∃ trouble part, world.files.Leads (partialPath out) part ∧
      decryptReading surroundings settings ciphertext metadata space reading out world =
        .error (s!"decrypting {ciphertext}" :: trouble)
          { keyed with files := world.files.set part none } ∧
      (surroundings.room part = none → trouble = Trouble.ofCipher failure) := by
  have looks : (recoverKey surroundings settings ciphertext metadata space).Looks :=
    recoverKey_looks surroundings settings
  have same := looks.of_ok begins.recovered
  obtain ⟨part, partly, rfl⟩ := FileSystem.exists_leads_of_write? begins.created
  rw [← same] at broken
  have partlyStill : keyed.files.Leads (partialPath out) part := by rwa [same]
  obtain ⟨trouble, failed, told⟩ := persist_of_failure partlyStill broken
  refine ⟨trouble, part, partly, ?_, told⟩
  rw [decryptReading, bind_of_ok begins.recovered,
    bind_of_error (during_of_error s!"decrypting {ciphertext}" failed), same]

end Gate

/-- A decryption is gated by its record and leaves all or nothing. With another ciphertext than the record
names it fails before any invocation is sent, and leaves the files as they are. It fails and leaves them so
whenever the key is not recovered or the partial file cannot be begun. And when the plaintext breaks off,
wherever this is and in whatever way the ciphertext was read, the output and all other files are as
before, and nothing is left at the partial path of what was released. -/
theorem decryption_gated (surroundings : Surroundings σ) (settings : Settings)
    (ciphertext metadata out : String) (space : Option String) :
    decrypt surroundings settings ciphertext metadata out space =
      decryptReading surroundings settings ciphertext metadata space
        (fun files => files.chunks settings.encryption.chunkSize ciphertext) out ∧
    (∀ world record loaded content,
      metadataAt surroundings.observed settings metadata world = .ok record loaded →
      world.files.read? ciphertext = some content →
      Cid.ofData Content.Codec.raw content ≠ record.dataCid →
      ∃ trouble after asked,
        decrypt surroundings.observed settings ciphertext metadata out space world =
          .error trouble after ∧
        after.files = world.files ∧ after.network.2 = world.network.2 ++ asked ∧
        ∀ request ∈ asked, ¬ IsInvocation request) ∧
    ∀ (reading : FileSystem → List StreamItem) (world : World σ),
      ((∀ material keyed begun,
          ¬ Begins surroundings settings ciphertext metadata out space world material keyed begun) →
        ∃ trouble after,
          decryptReading surroundings settings ciphertext metadata space reading out world =
            .error trouble after ∧
          after.files = world.files) ∧
      ∀ material keyed begun (released : List Bytes) failure later,
        Begins surroundings settings ciphertext metadata out space world material keyed begun →
        plaintextOf surroundings settings material reading begun =
          released.map .ok ++ .error failure :: later →
        ∃ trouble after,
          decryptReading surroundings settings ciphertext metadata space reading out world =
            .error (s!"decrypting {ciphertext}" :: trouble) after ∧
          after.files.lookup? out = world.files.lookup? out ∧
          after.files.lookup? (partialPath out) = none ∧
          (∀ path, world.files.Apart path (partialPath out) →
            after.files.lookup? path = world.files.lookup? path) ∧
          (∀ part, world.files.place? (partialPath out) = some part → surroundings.room part = none →
            trouble = Trouble.ofCipher failure) := by
  refine ⟨decrypt_eq surroundings settings ciphertext metadata space out, ?_, fun reading world =>
    ⟨decryptReading_of_not_begins, ?_⟩⟩
  · intro world record loaded content found read other
    obtain ⟨trouble, after, refused, stops⟩ : ∃ trouble after,
        recoverKey surroundings.observed settings ciphertext metadata space world =
          .error trouble after ∧ (after = world ∨ after = loaded) :=
      recoverKey_of_mismatch found read other
    have looks : (recoverKey surroundings.observed settings ciphertext metadata space).Looks :=
      recoverKey_looks surroundings.observed settings
    have gets : OnlyGets world.network.2 after.network.2 := by
      rcases stops with rfl | rfl
      · exact .refl _
      · exact metadataAt_onlyGets found
    obtain ⟨asked, log, each⟩ := gets
    refine ⟨trouble, after, asked, ?_, (looks.of_error refused).1, log, fun request member =>
      not_isInvocation_of_get (each request member)⟩
    rw [decrypt_eq, decryptReading, bind_of_error refused]
  · intro material keyed begun released failure later begins broken
    obtain ⟨trouble, part, partly, failed, told⟩ := decryptReading_of_failure begins broken
    have kept (path : String) (aside : world.files.Apart path (partialPath out)) :
        (world.files.set part none).lookup? path = world.files.lookup? path :=
      aside.lookup?_set_eq partly (by simp)
    refine ⟨trouble, _, failed, kept out (FileSystem.apart_partialPath _ out), ?_, kept, ?_⟩
    · exact partly.lookup?_set_self (by simp)
    · intro other leads roomy
      cases partly.place?_eq.symm.trans leads
      exact told roomy

end Action

/-! Decryptions in a folder with a ciphertext, with a record of this or of another ciphertext, and with a
file at the output. -/

namespace Sample

def recordOf (named : Bytes) : Metadata :=
  (keyOf Custody.Sample.setup).record (.ofData Content.Codec.raw named)

theorem recordOf_extract (named : Bytes) :
    Metadata.extract (recordOf named).shipped.encode = .ok (recordOf named) := by
  have bounded : (recordOf named).toBlock.data.length < 2 ^ 63 := Custody.Sample.keyUnder_fits _
  have valid : (recordOf named).validate = .ok () := named_valid _
  rw [Metadata.extract_shipped bounded, Metadata.validated_eq, valid]
  rfl

theorem recordOf_dataCid (named : Bytes) :
    (recordOf named).dataCid = .ofData Content.Codec.raw named :=
  Custody.WrappedKey.dataCid_record _ _

def sealedFolder (named held : Bytes) : FileSystem :=
  ((folder.set (inFolder "out.enc") (some (.file held))).set (inFolder "out.enc.metadata.car")
    (some (.file (recordOf named).shipped.encode))).set (inFolder "back.bin") (some (.file [9]))

theorem sealedFolder_record (named held : Bytes) :
    (sealedFolder named held).read? "out.enc.metadata.car" = some (recordOf named).shipped.encode :=
  rfl

theorem sealedFolder_ciphertext (named held : Bytes) :
    (sealedFolder named held).read? "out.enc" = some held :=
  rfl

theorem sealedFolder_holds (named held : Bytes) : HoldsIdentity here.home (sealedFolder named held)
    settings.identity Custody.Sample.issuer Custody.Sample.proofs := by
  apply holds.congr
  rintro name (key | proof)
  · cases key
    rfl
  · cases proof
    rfl

theorem sealedFolder_metadataAt {σ : Type} {surroundings : Surroundings σ} (home : surroundings.home = ".")
    (settings : Settings) (named held : Bytes) (network : σ) :
    Action.metadataAt surroundings settings "out.enc.metadata.car" ⟨sealedFolder named held, network⟩ =
      .ok (recordOf named) ⟨sealedFolder named held, network⟩ := by
  have path : Config.expandHome surroundings.home "out.enc.metadata.car" = "out.enc.metadata.car" := by
    rw [home]
    decide
  apply Action.metadataAt_of_archive _ (recordOf_extract named)
  rw [path]
  exact sealedFolder_record named held

/-- Block chaining, in pieces of seven bytes. -/
def chained : Settings := { settings with encryption := ⟨.aesCbc, 7⟩ }

/-- What is asked for the key of a ciphertext, in the name of a space. -/
theorem recoverKey_eq {service : Custody.KeyService} (connects : Action.Connects settings service)
    (space : Option String) (held : Bytes) {chosen : String}
    (choice : (space <|> settings.identity.spaceDid) = some chosen) :
    Action.recoverKey here chained "out.enc" "out.enc.metadata.car" space ⟨sealedFolder held held, ()⟩ =
      Action.during "recovering content key" (Action.exchange Trouble.ofCustody
        ((Action.custodianOf here service).unwrap here.suite here.chance.moment
          (recordOf held).encryptedKey (recordOf held)
          ⟨some chosen, some Custody.Sample.issuer, Custody.Sample.proofs⟩))
        ⟨sealedFolder held held, ()⟩ := by
  have chosen_eq : (space <|> chained.identity.spaceDid <|> Action.spaceOfRecord (recordOf held)) =
      some chosen := by
    cases space with
    | none => exact choice
    | some name => exact choice
  exact Action.recoverKey_of_steps connects (sealedFolder_metadataAt rfl chained held held ())
    (sealedFolder_ciphertext held held) (recordOf_dataCid held) chosen_eq
    (Action.requester_of_holds (sealedFolder_holds held held) _)

open Custody.Sample in
theorem here_unwraps (service : Custody.KeyService) (held : Bytes) :
    (Action.custodianOf here service).unwrap here.suite here.chance.moment
      (recordOf held).encryptedKey (recordOf held) requester () = (.ok material, ()) := by
  have reliable := Custody.KeyService.webHolder_reliable (σ := Unit) setup_names issuer
    Custody.Sample.space service
  obtain ⟨recipient, read, opens⟩ := setup_names.recipient
  cases setup_read.symm.trans read
  let fields : Record.ServiceRecord := ⟨.ofData Content.Codec.raw held, (keyOf setup).encryptedKey,
    Custody.Sample.space, ⟨setup.provider, Custody.KeyReference.encode setup.keyReference,
      setup.algorithm⟩⟩
  have keyId : fields.keyInfo.keyId = Custody.KeyReference.encode setup.keyReference := rfl
  have unwrapped : (service.unwrap Custody.Suite.standard (Custody.Endpoint.peer service.endpoint
      (Custody.KeyService.webHolder Custody.Suite.standard identity setup)) chance.moment _
      (.service fields) requester ()).1 = .ok material :=
    reliable.unwrap_eq (by decide) (show proofs ≠ [] by decide) ⟨rfl, rfl⟩ (opens.opens material)
      chance.moment keyId
  exact Prod.ext unwrapped (Subsingleton.elim _ _)

open Custody.Sample in
theorem recoverKey_ok (held : Bytes) :
    Action.recoverKey here chained "out.enc" "out.enc.metadata.car" none ⟨sealedFolder held held, ()⟩ =
      .ok material ⟨sealedFolder held held, ()⟩ := by
  obtain ⟨service, connects⟩ := exists_connects
  rw [recoverKey_eq connects none held rfl]
  exact Action.during_of_ok _ (Action.exchange_of_ok (here_unwraps service held))

theorem blank_space_refused (held : Bytes) : ∃ trouble,
    Action.recoverKey here chained "out.enc" "out.enc.metadata.car" (some " ")
      ⟨sealedFolder held held, ()⟩ = .error trouble ⟨sealedFolder held held, ()⟩ := by
  obtain ⟨service, connects⟩ := exists_connects
  let requester : Custody.Requester :=
    ⟨some " ", some Custody.Sample.issuer, Custody.Sample.proofs⟩
  have incomplete : requester.missing ≠ [] := by decide
  have refused : (Action.custodianOf here service).unwrap here.suite here.chance.moment
      (recordOf held).encryptedKey (recordOf held) requester () = _ :=
    Custody.Custodian.unwrap_of_refused (Custody.Requester.authority_of_missing incomplete) _ ()
  have failed : Action.exchange Trouble.ofCustody ((Action.custodianOf here service).unwrap here.suite
      here.chance.moment (recordOf held).encryptedKey (recordOf held) requester)
      ⟨sealedFolder held held, ()⟩ = .error (Trouble.ofCustody (.missingParameters requester.missing))
        ⟨sealedFolder held held, ()⟩ := by
    rw [Action.exchange, refused]
  rw [recoverKey_eq connects (some " ") held rfl]
  exact ⟨_, Action.during_of_error _ failed⟩

/-- A ciphertext with an incomplete block at its end, of which two blocks were whole. -/
def uneven : Bytes := List.replicate 35 3

theorem uneven_breaks : ∃ (released : List Bytes) (failure : Cipher.CipherError),
    Action.plaintextOf here chained Custody.Sample.material
        (fun files => files.chunks chained.encryption.chunkSize "out.enc")
        ((sealedFolder uneven uneven).set (inFolder "back.bin.part") (some (.file []))) =
      released.map .ok ++ [.error failure] := by
  have read : ((sealedFolder uneven uneven).set (inFolder "back.bin.part")
      (some (.file []))).read? "out.enc" = some uneven := rfl
  have incomplete : (uneven.pieces 7).flatten = [] ∨ (uneven.pieces 7).flatten.length % 16 ≠ 0 := by
    rw [Bytes.flatten_pieces]
    exact .inr (by decide)
  have fails := Cipher.ChainDecryptor.collect_incomplete
    (here.cipher Custody.Sample.material.key).decrypt Custody.Sample.material.iv.bytes incomplete
  rw [Action.plaintextOf, FileSystem.chunks_of_read? read]
  obtain ⟨released, whole | ⟨failure, broken⟩⟩ :=
    Cipher.Stage.run_failStop Cipher.chainDecryptStage
      ⟨(here.cipher Custody.Sample.material.key).decrypt, Custody.Sample.material.iv.bytes, [], 0⟩
      ((uneven.pieces 7).map .ok)
  · rw [whole, Cipher.collect, Cipher.mapM_id_ok] at fails
    cases fails
  · exact ⟨released, failure, broken⟩

theorem failed_decryptions :
    (∃ trouble after asked, Action.decrypt here.observed settings "out.enc" "out.enc.metadata.car"
        "back.bin" none ⟨sealedFolder [1] [], ((), [])⟩ = .error trouble after ∧
      after.files = sealedFolder [1] [] ∧ after.network.2 = [] ++ asked ∧
      ∀ request ∈ asked, ¬ IsInvocation request) ∧
    (∃ trouble after, Action.decrypt here chained "out.enc" "out.enc.metadata.car" "back.bin"
        (some " ") ⟨sealedFolder [1] [1], ()⟩ = .error trouble after ∧
      after.files = sealedFolder [1] [1]) ∧
    ∃ trouble after, Action.decrypt here chained "out.enc" "out.enc.metadata.car" "back.bin" none
        ⟨sealedFolder uneven uneven, ()⟩ = .error ("decrypting out.enc" :: trouble) after ∧
      after.files.lookup? "back.bin" = some (.file [9]) ∧
      after.files.lookup? "back.bin.part" = none := by
  refine ⟨?_, ?_, ?_⟩
  · have other : Cid.ofData Content.Codec.raw [] ≠ (recordOf [1]).dataCid := by
      rw [recordOf_dataCid]
      decide +kernel
    exact (Action.decryption_gated here settings "out.enc" "out.enc.metadata.car" "back.bin" none).2.1 _
      _ _ _ (sealedFolder_metadataAt rfl settings [1] [] ((), [])) (sealedFolder_ciphertext [1] []) other
  · obtain ⟨trouble, refused⟩ := blank_space_refused [1]
    obtain ⟨equation, -, gated⟩ := Action.decryption_gated here chained "out.enc"
      "out.enc.metadata.car" "back.bin" (some " ")
    rw [equation]
    apply (gated _ ⟨sealedFolder [1] [1], ()⟩).1
    rintro material keyed begun ⟨recovered, -⟩
    cases refused.symm.trans recovered
  · obtain ⟨released, failure, broken⟩ := uneven_breaks
    have partly : (sealedFolder uneven uneven).Leads "back.bin.part" (inFolder "back.bin.part") :=
      ⟨by rfl, by rfl⟩
    obtain ⟨equation, -, gated⟩ := Action.decryption_gated here chained "out.enc"
      "out.enc.metadata.car" "back.bin" none
    rw [equation]
    obtain ⟨trouble, after, failed, kept, gone, -⟩ := (gated _ ⟨sealedFolder uneven uneven, ()⟩).2
      _ _ _ released failure [] ⟨recoverKey_ok uneven, partly.write?_eq []⟩ broken
    exact ⟨trouble, after, failed, kept, gone⟩

end Sample

end SealedContent.Program
