import SealedContent.Proofs.Program.RoundTrip

/-!
What a failed encryption leaves. Until the ciphertext is complete, a failure changes nothing but what is
at the partial path of the output. After that only the metadata record is missing: the ciphertext stands
in its place, and nothing else has changed, except that a record is cut off where the room for it ends.
-/

namespace SealedContent.Program

open Cipher (StreamItem)
open Config (Settings)
open Custody (EncryptionSetup KeyService)
open FileSystem (KeepsBut)

/-- What is attempted when the ciphertext is already in its place. -/
def attemptsInPlace (metadata : String) : List String :=
  ["building metadata record", "archiving metadata record", s!"writing {metadata}"]

namespace Trouble

/-- The failure of an encryption whose ciphertext was already in its place. -/
def CameLate (metadata : String) (trouble : Trouble) : Prop :=
  ∃ attempt ∈ attemptsInPlace metadata, trouble.head? = some attempt

/-- The failure of a write of the record, where the room for it has an end. -/
def BrokeOff (room : Room) (files : FileSystem) (metadata : String) (trouble : Trouble) : Prop :=
  trouble.head? = some s!"writing {metadata}" ∧
    ∃ size, (files.place? metadata).bind room = some size

theorem brokeOff_congr {files others : FileSystem} (same : files.SameDirectories others) (room : Room)
    (metadata : String) (trouble : Trouble) :
    trouble.BrokeOff room files metadata ↔ trouble.BrokeOff room others metadata := by
  rw [BrokeOff, BrokeOff, same.place?_eq]

theorem cameLate_cons {metadata attempt : String} (late : attempt ∈ attemptsInPlace metadata)
    (cause : Trouble) : CameLate metadata (attempt :: cause) :=
  ⟨attempt, late, rfl⟩

/-- Three letters tell whether something is attempted in place. -/
theorem not_cameLate_cons {attempt : String}
    (other : attempt.toList.take 3 ∉ ["bui".toList, "arc".toList, "wri".toList]) (metadata : String)
    (cause : Trouble) : ¬ CameLate metadata (attempt :: cause) := by
  rintro ⟨late, member, same⟩
  cases same
  have letters : attempt.toList.take 3 ∈ ["bui".toList, "arc".toList, "wri".toList] := by
    simp only [attemptsInPlace, List.mem_cons, List.not_mem_nil, or_false] at member
    rcases member with rfl | rfl | rfl
    · decide
    · decide
    · have start : (toString "writing " ++ toString metadata).toList.take 3 = "wri".toList := by
        rw [String.toList_append]
        exact List.take_append_of_le_length (by decide)
      rw [start]
      decide
  exact other letters

theorem not_cameLate_append {start : String} (long : 3 ≤ start.toList.length)
    (other : start.toList.take 3 ∉ ["bui".toList, "arc".toList, "wri".toList])
    (rest metadata : String) (cause : Trouble) : ¬ CameLate metadata ((start ++ rest) :: cause) := by
  apply not_cameLate_cons
  rw [String.toList_append, List.take_append_of_le_length long]
  exact other

end Trouble

namespace Action

variable {σ : Type} (surroundings : Surroundings σ) (settings : Settings)

section

variable (metadata : String)

/-- Leaves the files alone, and does not fail as something attempted in place does. -/
abbrev Prepares {α : Type} (action : Action σ α) : Prop :=
  action.LeavesFiles fun trouble => ¬ trouble.CameLate metadata

theorem adapter_prepares : (adapter surroundings settings).Prepares metadata := by
  have attempt (cause : Trouble) :
      ¬ Trouble.CameLate metadata ("configuring KMS key wrap" :: cause) :=
    Trouble.not_cameLate_cons (by decide) metadata cause
  exact ((ofResult_leavesFiles _ _).during attempt).bind fun _ => pure_leavesFiles _

theorem issuer_prepares (identity : Config.Identity) :
    (issuer surroundings identity).Prepares metadata := by
  rw [issuer]
  split
  · apply LeavesFiles.bind
    · apply (readText_leavesFiles _).during
      exact Trouble.not_cameLate_append (by decide) (by decide) _ metadata
    · intro text
      split
      · apply throw_leavesFiles
        exact Trouble.not_cameLate_append (by decide) (by decide) _ metadata _
      · apply LeavesFiles.bind
        · apply (ofResult_leavesFiles _ _).during
          exact Trouble.not_cameLate_append (by decide) (by decide) _ metadata
        · intro issuer
          exact pure_leavesFiles _
  · exact pure_leavesFiles _

theorem proofs_prepares (identity : Config.Identity) :
    (proofs surroundings identity).Prepares metadata := by
  rw [proofs]
  split
  · exact pure_leavesFiles _
  · apply LeavesFiles.bind
    · apply (readText_leavesFiles _).during
      exact Trouble.not_cameLate_append (by decide) (by decide) _ metadata
    · intro text
      exact pure_leavesFiles _

theorem requester_prepares (identity : Config.Identity) (space : Option String) :
    (requester surroundings identity space).Prepares metadata :=
  (issuer_prepares surroundings metadata identity).bind fun _ =>
    (proofs_prepares surroundings metadata identity).bind fun _ => pure_leavesFiles _

end

variable {surroundings settings} {world after : World σ} {input out metadata : String}
  {trouble : Trouble}

/-- The record fails late, and what was there stays, or a beginning of the record is written. -/
theorem shipRecord_eq_error {room : Room} {adapter : Custody.Adapter σ}
    {wrapped : Custody.WrappedKey} {chunks : List Bytes}
    (failed : shipRecord room input out metadata adapter wrapped chunks world =
      .error trouble after) :
    trouble.CameLate metadata ∧ (after.files = world.files ∨
      trouble.BrokeOff room world.files metadata ∧
        ∃ (record : Record.Metadata) (archived : Record.Metadata.Archived),
          record.dataCid = Content.Cid.ofData Content.Codec.raw chunks.flatten ∧
          record.archive = .ok archived ∧
          world.files.write? metadata (world.files.fitting room metadata archived.bytes) =
            some after.files) := by
  have making {α ε : Type} (explain : ε → Trouble) (result : Except ε α) {attempt : String}
      (late : attempt ∈ attemptsInPlace metadata) :
      (during attempt (ofResult explain result) : Action σ α).LeavesFiles
        (Trouble.CameLate metadata) :=
    (ofResult_leavesFiles explain result).during (Trouble.cameLate_cons late)
  rcases (making _ _ (by simp [attemptsInPlace])).bind_eq_error failed with
    unbuilt | ⟨record, between, built, -, unshipped⟩
  · exact ⟨unbuilt.2, .inl unbuilt.1⟩
  obtain ⟨recorded, same⟩ := ofResult_eq_ok (during_eq_ok built)
  rw [same] at unshipped
  rcases (making _ _ (by simp [attemptsInPlace])).bind_eq_error unshipped with
    unpacked | ⟨archived, between, packed, -, unwritten⟩
  · exact ⟨unpacked.2, .inl unpacked.1⟩
  obtain ⟨shipped, same⟩ := ofResult_eq_ok (during_eq_ok packed)
  rw [same] at unwritten
  rcases bind_eq_error unwritten with unwritten | ⟨_, written, -, impossible⟩
  · obtain ⟨cause, rfl, broken⟩ := during_eq_error unwritten
    refine ⟨Trouble.cameLate_cons (by simp [attemptsInPlace]) cause, ?_⟩
    rcases writeFile_eq_error broken with rfl | ⟨full, changed, written, rfl⟩
    · exact .inl rfl
    · refine .inr ⟨⟨rfl, FileSystem.exists_room_of_fitting_ne full⟩, record, archived, ?_, shipped,
        written⟩
      rw [Custody.WrappedKey.eq_record_of_toMetadata recorded, Custody.WrappedKey.dataCid_record,
        cidOfChunks_eq]
  · cases impossible

/-- Under a path is a beginning of the archive of a record that names the data. -/
def HoldsBeginning (files : FileSystem) (path : String) (data : Bytes) : Prop :=
  ∃ (record : Record.Metadata) (archived : Record.Metadata.Archived) (beginning : Bytes),
    record.dataCid = Content.Cid.ofData Content.Codec.raw data ∧ record.archive = .ok archived ∧
      beginning <+: archived.bytes ∧ files.lookup? path = some (.file beginning)

theorem record_of_shipRecord_error {room : Room} {adapter : Custody.Adapter σ}
    {wrapped : Custody.WrappedKey} {chunks : List Bytes}
    (failed : shipRecord room input out metadata adapter wrapped chunks world =
      .error trouble after) :
    after.files.lookup? metadata = world.files.lookup? metadata ∨
      HoldsBeginning after.files metadata chunks.flatten := by
  rcases (shipRecord_eq_error failed).2 with same | ⟨-, record, archived, named, shipped, written⟩
  · exact .inl (by rw [same])
  · obtain ⟨place, leads, changed⟩ := FileSystem.exists_leads_of_write? written
    have beginning := world.files.fitting_prefix room metadata archived.bytes
    refine .inr ⟨record, archived, _, named, shipped, beginning, ?_⟩
    rw [changed, leads.lookup?_set_self (by simp)]

/-- A path is spared by a failure, since it does not lead to the record or no record was cut off. -/
def Spared (room : Room) (files : FileSystem) (metadata : String) (trouble : Trouble)
    (path : String) : Prop :=
  files.Apart path metadata ∨ ¬ trouble.BrokeOff room files metadata

theorem lookup?_of_shipRecord_error {room : Room} {adapter : Custody.Adapter σ}
    {wrapped : Custody.WrappedKey} {chunks : List Bytes}
    (failed : shipRecord room input out metadata adapter wrapped chunks world = .error trouble after)
    {path : String} (spared : Spared room world.files metadata trouble path) :
    after.files.lookup? path = world.files.lookup? path := by
  rcases (shipRecord_eq_error failed).2 with same | ⟨broken, record, archived, -, -, written⟩
  · rw [same]
  · obtain ⟨place, leads, same⟩ := FileSystem.exists_leads_of_write? written
    have apart : world.files.Apart path metadata := spared.resolve_right (not_not_intro broken)
    rw [same, apart.lookup?_set_eq leads (by simp)]

/-- An encryption fails before its ciphertext is in place, having changed at most what is at the partial
path, or else it fails at the record, when the ciphertext is in place. -/
theorem encrypt_eq_error
    (failed : encrypt surroundings settings input out metadata world = .error trouble after) :
    (¬ trouble.CameLate metadata ∧
      KeepsBut (fun place => world.files.place? (partialPath out) = some place) world.files
        after.files) ∨
    ∃ (between complete : World σ) (adapter : Custody.Adapter σ) (wrapped : Custody.WrappedKey)
      (chunks : List Bytes), between.files = world.files ∧
      persist surroundings.room (ciphertextOf surroundings settings input) out between =
        .ok chunks complete ∧
      shipRecord surroundings.room input out metadata adapter wrapped chunks complete =
        .error trouble after := by
  have opening : (openAt input : Action σ Unit).Prepares metadata :=
    openAt_leavesFiles (Trouble.not_cameLate_append (by decide) (by decide) _ metadata _)
  have wrapping (adapter : Custody.Adapter σ) (requester : Custody.Requester) :
      (during "wrapping content key" (exchange Trouble.ofCustody (adapter.custodian.wrap
        surroundings.suite surroundings.chance surroundings.material requester))).Prepares metadata :=
    (exchange_leavesFiles _ _).during (Trouble.not_cameLate_cons (by decide) metadata)
  have early {between : World σ} (same : between.files = world.files)
      (kept : after.files = between.files ∧ ¬ trouble.CameLate metadata) :
      ¬ trouble.CameLate metadata ∧
        KeepsBut (fun place => world.files.place? (partialPath out) = some place) world.files
          after.files := by
    rw [kept.1, same]
    exact ⟨kept.2, .refl _ _⟩
  rw [encrypt] at failed
  rcases (adapter_prepares surroundings settings metadata).bind_eq_error failed with
    failed | ⟨adapter, connected, made, same, failed⟩
  · exact .inl (early rfl failed)
  rcases (requester_prepares surroundings metadata _ _).bind_eq_error failed with
    failed | ⟨requester, identified, -, kept, failed⟩
  · exact .inl (early same failed)
  replace same := kept.trans same
  rcases opening.bind_eq_error failed with failed | ⟨_, opened, -, kept, failed⟩
  · exact .inl (early same failed)
  replace same := kept.trans same
  rcases (wrapping adapter requester).bind_eq_error failed with
    failed | ⟨wrapped, shared, -, kept, failed⟩
  · exact .inl (early same failed)
  replace same := kept.trans same
  rw [cipher_of_adapter made] at failed
  rcases bind_eq_error failed with failed | ⟨chunks, complete, persisted, failed⟩
  · obtain ⟨cause, rfl, broken⟩ := during_eq_error failed
    have keeps := persist_eq_error broken
    rw [same] at keeps
    exact .inl ⟨Trouble.not_cameLate_append (by decide) (by decide) _ metadata _, keeps⟩
  exact .inr ⟨shared, complete, adapter, wrapped, chunks, same, during_eq_ok persisted, failed⟩

/-- A failed encryption leaves alone whatever is found under other paths than that of the output and the
partial one, the metadata record for one, unless the record is cut off where the room for it ends. The
output as well keeps what it had, unless the failure concerns the record, which is made when the
ciphertext is in its place: then the output holds the complete ciphertext, nothing is left at the partial
path, and under the path of the record is what was there or a beginning of the record that names the
ciphertext. -/
theorem failed_encryption
    (failed : encrypt surroundings settings input out metadata world = .error trouble after) :
    (∀ path, world.files.Apart path out → world.files.Apart path (partialPath out) →
      Spared surroundings.room world.files metadata trouble path →
        after.files.lookup? path = world.files.lookup? path) ∧
    (¬ trouble.CameLate metadata →
      after.files.lookup? out = world.files.lookup? out ∧
      ∀ path, world.files.Apart path (partialPath out) →
        after.files.lookup? path = world.files.lookup? path) ∧
    (trouble.CameLate metadata → ∃ begun ciphertext,
      world.files.write? (partialPath out) [] = some begun ∧
      Cipher.collect (ciphertextOf surroundings settings input begun) = .ok ciphertext ∧
      (Spared surroundings.room world.files metadata trouble out →
        after.files.lookup? out = some (.file ciphertext)) ∧
      (Spared surroundings.room world.files metadata trouble (partialPath out) →
        after.files.lookup? (partialPath out) = none) ∧
      (world.files.Apart metadata out → world.files.Apart metadata (partialPath out) →
        after.files.lookup? metadata = world.files.lookup? metadata ∨
          HoldsBeginning after.files metadata ciphertext)) := by
  rcases encrypt_eq_error failed with
    ⟨early, keeps⟩ | ⟨between, complete, adapter, wrapped, chunks, same, persisted, failed⟩
  · have kept (path : String) (aside : world.files.Apart path (partialPath out)) :
        after.files.lookup? path = world.files.lookup? path :=
      keeps.lookup?_eq aside
    exact ⟨fun path _ aside _ => kept path aside,
      fun _ => ⟨kept out (FileSystem.apart_partialPath _ out), kept⟩, fun late => absurd late early⟩
  · obtain ⟨part, place, partly, wholly, streamed, rfl⟩ := persist_eq_ok persisted
    rw [same] at partly wholly streamed failed
    have still := sameDirectories_persisted chunks partly wholly
    have spared_iff (path : String) :
        Spared surroundings.room (Action.persisted world.files part place chunks) metadata trouble
            path ↔ Spared surroundings.room world.files metadata trouble path := by
      rw [Spared, Spared, still.apart_iff, Trouble.brokeOff_congr still]
    have kept {path : String} (spared : Spared surroundings.room world.files metadata trouble path) :
        after.files.lookup? path =
          (Action.persisted world.files part place chunks).lookup? path :=
      lookup?_of_shipRecord_error failed ((spared_iff path).mpr spared)
    have late := (shipRecord_eq_error failed).1
    refine ⟨fun path elsewhere aside spared => ?_, fun early => absurd late early, fun _ =>
      ⟨_, chunks.flatten, partly.write?_eq [], ?_, fun spared => ?_, fun spared => ?_,
        fun elsewhere aside => ?_⟩⟩
    · rw [kept spared, lookup?_persisted_apart chunks partly wholly elsewhere aside]
    · rw [Cipher.collect, streamed]
      rfl
    · rw [kept spared, lookup?_persisted_self chunks partly wholly]
    · rw [kept spared, lookup?_persisted_partial chunks partly wholly]
    · have outcome := record_of_shipRecord_error failed
      rwa [lookup?_persisted_apart chunks partly wholly elsewhere aside] at outcome

end Action

/-! Runs in a folder with an older ciphertext and an older record. A setup that names no provider is found
out too late for the ciphertext, and the end of the room too late for the record. -/

namespace Sample

/-- A setup that cannot be recorded. -/
def unnamedSetup : EncryptionSetup := { Custody.Sample.setup with provider := "" }

def around (offered : EncryptionSetup) (room : Room) : Surroundings Unit :=
  { surroundings with
    room := room
    transport := KeyService.webHolder Custody.Suite.standard Custody.Sample.identity offered }

def keyOf (offered : EncryptionSetup) : Custody.WrappedKey :=
  KeyService.keyUnder Custody.Suite.standard Custody.Sample.chance.sealing Custody.Sample.material
    Custody.Sample.space offered Custody.Sample.recipient

def full : Room := fun place => if place = inFolder "out.enc.metadata.car" then some 0 else none

def usedFolder : FileSystem :=
  (folder.set (inFolder "out.enc") (some (.file [9]))).set
    (inFolder "out.enc.metadata.car") (some (.file [8]))

section

variable {offered : EncryptionSetup} (room : Room)

open Custody.Sample in
theorem around_wraps (algorithm : offered.algorithm = "age-x25519")
    (publicKey : offered.publicKey = setup.publicKey) (service : KeyService) :
    (Action.custodianOf (around offered room) service).wrap Custody.Suite.standard chance material
      requester () = (.ok (keyOf offered), ()) := by
  let call := service.setupCall Custody.Suite.standard issuer space proofs chance.moment
  have legible : call.Legible := KeyService.setupCall_legible service proofs chance.moment
  have answered : Custody.Endpoint.peer service.endpoint (around offered room).transport call () =
      (.ok (KeyService.orderedOffer offered), ()) :=
    KeyService.peer_webHolder_setup legible rfl service.endpoint ()
  have read := setup_read
  rw [← publicKey] at read
  have wraps := KeyService.wrap_of_offer (by decide) (congrArg Prod.fst answered)
    (KeyService.orderedOffer_givenBy offered) algorithm read material
  rw [answered] at wraps
  exact wraps

open Program.Action in
/-- The older ciphertext is already replaced when the record is attempted. -/
theorem around_encrypts (algorithm : offered.algorithm = "age-x25519")
    (publicKey : offered.publicKey = Custody.Sample.setup.publicKey)
    (roomy : room (inFolder "out.enc.part") = none) :
    ∃ adapter chunks, chunks.flatten.length = content.length ∧
      encrypt (around offered room) settings "in.bin" "out.enc" "out.enc.metadata.car"
          ⟨usedFolder, ()⟩ =
        shipRecord room "in.bin" "out.enc" "out.enc.metadata.car" adapter (keyOf offered) chunks
          ⟨persisted usedFolder (inFolder "out.enc.part") (inFolder "out.enc") chunks, ()⟩ := by
  obtain ⟨service, connects⟩ := exists_connects
  have whole := Bytes.flatten_pieces settings.encryption.chunkSize content
  have encrypted := Cipher.Keystream.collect_start
    (surroundings.cipher surroundings.material.key).encrypt ⟨surroundings.material.iv.bytes⟩
    (content.pieces settings.encryption.chunkSize)
  rw [whole, if_pos (by decide)] at encrypted
  obtain ⟨chunks, streamed, joined⟩ := Cipher.exists_chunks_of_collect encrypted
  have stillHolds : HoldsIdentity (around offered room).home usedFolder settings.identity
      Custody.Sample.issuer Custody.Sample.proofs := by
    apply holds.congr
    rintro name (key | proof)
    · cases key
      decide
    · cases proof
      decide
  let start : World Unit := ⟨usedFolder, ()⟩
  have read : start.files.read? "in.bin" = some content := rfl
  have partly : start.files.Leads "out.enc.part" (inFolder "out.enc.part") := ⟨by decide, by decide⟩
  have wholly : start.files.Leads "out.enc" (inFolder "out.enc") := ⟨by decide, by decide⟩
  have aside : start.files.Apart "in.bin" "out.enc.part" := FileSystem.apart_of_ne (by decide)
  refine ⟨_, chunks, ?_, encrypt_of_ciphertext connects (requester_of_holds stillHolds _) read
    (around_wraps room algorithm publicKey service) partly roomy wholly aside streamed⟩
  rw [joined, Cipher.Keystream.length_maskFrom]

end

theorem unnamed_refused (dataCid : Content.Cid) :
    ∃ error, (keyOf unnamedSetup).toMetadata dataCid = .error error := by
  have required : ("kms.provider", "") ∈ ((keyOf unnamedSetup).record dataCid).requiredTexts := by
    simp [keyOf, KeyService.keyUnder, Custody.WrappedKey.record, Record.Metadata.requiredTexts,
      unnamedSetup]
  obtain ⟨fault, invalid⟩ := Record.Metadata.exists_error_of_blank required (by decide)
  rw [Custody.WrappedKey.toMetadata_eq, invalid]
  exact ⟨_, rfl⟩

open Custody.Sample in
theorem named_valid (dataCid : Content.Cid) :
    ((keyOf setup).record dataCid).validate = .ok () := by
  have key : Text.onlyBlank (keyOf setup).encryptedKey = false :=
    Encoding.Base64.encode_not_blank (Sealing.AgeFile.age_ne_nil recipient rfl _)
  have named : Text.onlyBlank space = false := by decide
  have provider : Text.onlyBlank setup.provider = false := by decide
  have keyId : Text.onlyBlank (Custody.KeyReference.encode setup.keyReference) = false :=
    Custody.KeyReference.encode_not_blank (by decide)
  have algorithm : Text.onlyBlank setup.algorithm = false := by decide
  exact Record.Metadata.validate_service key named provider keyId algorithm

open Program.Action in
theorem unnamed_fails :
    ∃ error chunks, chunks.flatten.length = content.length ∧
      encrypt (around unnamedSetup fun _ => none) settings "in.bin" "out.enc" "out.enc.metadata.car"
          ⟨usedFolder, ()⟩ =
        .error ("building metadata record" :: Trouble.ofCustody error)
          ⟨persisted usedFolder (inFolder "out.enc.part") (inFolder "out.enc") chunks, ()⟩ := by
  obtain ⟨adapter, chunks, length, encrypts⟩ :=
    around_encrypts (fun _ => none) (show unnamedSetup.algorithm = "age-x25519" from rfl) rfl rfl
  obtain ⟨error, refused⟩ := unnamed_refused (.ofData Content.Codec.raw chunks.flatten)
  rw [shipRecord_of_error refused] at encrypts
  exact ⟨error, chunks, length, encrypts⟩

open Program.Action in
theorem full_fails :
    ∃ trouble after,
      encrypt (around Custody.Sample.setup full) settings "in.bin" "out.enc" "out.enc.metadata.car"
        ⟨usedFolder, ()⟩ = .error trouble after ∧
      after.files.lookup? "out.enc.metadata.car" = some (.file []) := by
  obtain ⟨adapter, chunks, -, encrypts⟩ :=
    around_encrypts full (show Custody.Sample.setup.algorithm = "age-x25519" from rfl) rfl rfl
  obtain ⟨recorded, archived, shipped, extracted⟩ := Custody.WrappedKey.exists_archived
    (named_valid (.ofData Content.Codec.raw chunks.flatten)) (Custody.Sample.keyUnder_fits _)
  have present : archived.bytes ≠ [] := by
    intro empty
    rw [empty] at extracted
    cases extracted
  have partly : usedFolder.Leads "out.enc.part" (inFolder "out.enc.part") := ⟨by decide, by decide⟩
  have wholly : usedFolder.Leads "out.enc" (inFolder "out.enc") := ⟨by decide, by decide⟩
  have record : usedFolder.Leads "out.enc.metadata.car" (inFolder "out.enc.metadata.car") :=
    ⟨by decide, by decide⟩
  let complete : World Unit :=
    ⟨persisted usedFolder (inFolder "out.enc.part") (inFolder "out.enc") chunks, ()⟩
  have leads : complete.files.Leads "out.enc.metadata.car" (inFolder "out.enc.metadata.car") :=
    (sameDirectories_persisted chunks partly wholly).leads_iff.mpr record
  have nothing : complete.files.fitting full "out.enc.metadata.car" archived.bytes = [] := by
    rw [FileSystem.fitting, leads.place?_eq]
    rfl
  have cut : complete.files.fitting full "out.enc.metadata.car" archived.bytes ≠ archived.bytes := by
    rw [nothing]
    exact present.symm
  rw [shipRecord_of_full recorded shipped cut (leads.write?_eq _)] at encrypts
  refine ⟨_, _, encrypts, ?_⟩
  rw [leads.lookup?_set_self (by simp), nothing]

end Sample

namespace Action

open Sample

theorem older_record_kept :
    ∃ trouble after,
      encrypt (around unnamedSetup fun _ => none) settings "in.bin" "out.enc" "out.enc.metadata.car"
        ⟨usedFolder, ()⟩ = .error trouble after ∧
      after.files.lookup? "out.enc.metadata.car" = some (.file [8]) ∧
      (∃ ciphertext, after.files.lookup? "out.enc" = some (.file ciphertext)) ∧
      after.files.lookup? "out.enc.part" = none := by
  obtain ⟨error, chunks, -, failed⟩ := unnamed_fails
  obtain ⟨others, -, late⟩ := failed_encryption failed
  have spared (path : String) : Spared (fun _ => none) usedFolder "out.enc.metadata.car"
      ("building metadata record" :: Trouble.ofCustody error) path := by
    refine .inr ?_
    rintro ⟨-, size, cut⟩
    simp at cut
  have kept := others "out.enc.metadata.car" (FileSystem.apart_of_ne (by decide))
    (FileSystem.apart_of_ne (by decide)) (spared _)
  obtain ⟨-, ciphertext, -, -, placed, gone, -⟩ :=
    late (Trouble.cameLate_cons (by simp [attemptsInPlace]) _)
  exact ⟨_, _, failed, kept, ⟨ciphertext, placed (spared _)⟩, gone (spared _)⟩

theorem older_files_replaced :
    (∃ trouble after,
      encrypt (around unnamedSetup fun _ => none) settings "in.bin" "out.enc" "out.enc.metadata.car"
        ⟨usedFolder, ()⟩ = .error trouble after ∧
      after.files.lookup? "out.enc" ≠ usedFolder.lookup? "out.enc") ∧
    ∃ trouble after,
      encrypt (around Custody.Sample.setup full) settings "in.bin" "out.enc" "out.enc.metadata.car"
        ⟨usedFolder, ()⟩ = .error trouble after ∧
      after.files.lookup? "out.enc.metadata.car" ≠ usedFolder.lookup? "out.enc.metadata.car" := by
  constructor
  · obtain ⟨error, chunks, length, failed⟩ := unnamed_fails
    have before : usedFolder.lookup? "out.enc" = some (.file [9]) := by decide
    refine ⟨_, _, failed, ?_⟩
    rw [before, lookup?_persisted_self chunks ⟨by decide, by decide⟩ ⟨by decide, by decide⟩]
    intro same
    have joined : chunks.flatten = [9] := by simpa using same
    rw [joined] at length
    cases length
  · obtain ⟨trouble, after, failed, cut⟩ := full_fails
    refine ⟨trouble, after, failed, ?_⟩
    rw [cut]
    decide

end Action

end SealedContent.Program
