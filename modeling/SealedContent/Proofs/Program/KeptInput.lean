import SealedContent.Program.Run
import SealedContent.Proofs.Program.FailedEncryption

/-!
What becomes of the file that a task reads. A task changes nothing but what is at its output, at the
partial path beside it and at its record, so its input is kept wherever it is apart from these. The
partial path is not named by whoever starts the task: an input that is there is overwritten before it is
read, and is gone when the task has succeeded.
-/

namespace SealedContent.Program

open Cipher (StreamItem)
open Config (Settings)
open FileSystem (KeepsBut)

variable {σ : Type}

/-- One of the paths leads to the place. -/
def FileSystem.Reaches (files : FileSystem) (paths : List String) (place : Place) : Prop :=
  ∃ path ∈ paths, files.place? path = some place

theorem FileSystem.SameDirectories.reaches_iff {files others : FileSystem} {paths : List String}
    {place : Place} (same : files.SameDirectories others) :
    files.Reaches paths place ↔ others.Reaches paths place := by
  simp only [Reaches, same.place?_eq]

theorem FileSystem.KeepsBut.trans {files between after : FileSystem} {changed : Place → Prop}
    (first : KeepsBut changed files between) (second : KeepsBut changed between after) :
    KeepsBut changed files after where
  sameDirectories := second.sameDirectories.trans first.sameDirectories
  entryAt_eq place kept := (second.entryAt_eq place kept).trans (first.entryAt_eq place kept)

theorem FileSystem.KeepsBut.mono {files after : FileSystem} {changed more : Place → Prop}
    (keeps : KeepsBut changed files after) (wider : ∀ place, changed place → more place) :
    KeepsBut more files after where
  sameDirectories := keeps.sameDirectories
  entryAt_eq place kept := keeps.entryAt_eq place fun change => kept (wider place change)

namespace Action

section Looks

variable (surroundings : Surroundings σ) (settings : Settings) {ciphertext metadata : String}
  {space : Option String}

theorem LeavesFiles.mono {α : Type} {tells others : Trouble → Prop} {action : Action σ α}
    (leaves : action.LeavesFiles tells) (weaker : ∀ trouble, tells trouble → others trouble) :
    action.LeavesFiles others where
  of_ok := leaves.of_ok
  of_error failed := ⟨(leaves.of_error failed).1, weaker _ (leaves.of_error failed).2⟩

/-- The files stay as they are, whatever else happens. -/
abbrev Looks {α : Type} (action : Action σ α) : Prop :=
  action.LeavesFiles fun _ => True

theorem LeavesFiles.looks {α : Type} {tells : Trouble → Prop} {action : Action σ α}
    (leaves : action.LeavesFiles tells) : action.Looks :=
  leaves.mono fun _ _ => trivial

theorem files_looks : (files : Action σ FileSystem).Looks where
  of_ok done := by
    cases done
    rfl
  of_error failed := by cases failed

theorem during_looks {α : Type} {action : Action σ α} (inside : action.Looks) (attempt : String) :
    (during attempt action).Looks :=
  LeavesFiles.during inside fun _ => trivial

theorem metadataAt_looks : (metadataAt surroundings settings metadata).Looks := by
  refine files_looks.bind fun files => ?_
  split
  · exact during_looks (ofResult_leavesFiles _ _) _
  · refine (during_looks (ofResult_leavesFiles _ _) _).bind fun gateway => ?_
    exact during_looks (exchange_leavesFiles _ _) _

theorem cidOfFile_looks (size : Nat) (path : String) :
    (cidOfFile size path : Action σ Content.Cid).Looks :=
  (openAt_leavesFiles trivial).bind fun _ => files_looks.bind fun _ =>
    (ofResult_leavesFiles _ _).bind fun _ => pure_leavesFiles _

theorem matchingRecord_looks :
    (matchingRecord surroundings settings ciphertext metadata).Looks := by
  refine (metadataAt_looks surroundings settings).bind fun record => ?_
  refine (cidOfFile_looks _ _).bind fun actual => ?_
  split
  · exact (throw_leavesFiles trivial).bind fun _ => pure_leavesFiles _
  · exact pure_leavesFiles _

theorem recoverKey_looks :
    (recoverKey surroundings settings ciphertext metadata space).Looks := by
  refine (adapter_prepares surroundings settings metadata).looks.bind fun adapter => ?_
  refine (matchingRecord_looks surroundings settings).bind fun record => ?_
  refine (requester_prepares surroundings metadata _ _).looks.bind fun requester => ?_
  refine (openAt_leavesFiles trivial).bind fun _ => ?_
  exact during_looks (exchange_leavesFiles _ _) _

end Looks

/-- However an action ends, it has changed at most what the paths lead to. -/
structure ConfinedTo {α : Type} (paths : List String) (action : Action σ α) : Prop where
  of_ok : ∀ {world value after}, action world = .ok value after →
    KeepsBut (world.files.Reaches paths) world.files after.files
  of_error : ∀ {world trouble after}, action world = .error trouble after →
    KeepsBut (world.files.Reaches paths) world.files after.files

section Confined

variable {α β : Type} {paths : List String} {room : Room} {path : String}

theorem LeavesFiles.confined {tells : Trouble → Prop} {action : Action σ α}
    (leaves : action.LeavesFiles tells) : action.ConfinedTo paths where
  of_ok done := by
    rw [leaves.of_ok done]
    exact .refl _ _
  of_error failed := by
    rw [(leaves.of_error failed).1]
    exact .refl _ _

theorem keepsBut_after {world between after : World σ}
    (first : KeepsBut (world.files.Reaches paths) world.files between.files)
    (second : KeepsBut (between.files.Reaches paths) between.files after.files) :
    KeepsBut (world.files.Reaches paths) world.files after.files :=
  first.trans (second.mono fun _ => first.sameDirectories.reaches_iff.mp)

theorem ConfinedTo.bind {action : Action σ α} {next : α → Action σ β}
    (first : action.ConfinedTo paths) (second : ∀ value, (next value).ConfinedTo paths) :
    (action >>= next).ConfinedTo paths where
  of_ok done := by
    obtain ⟨value, between, before, later⟩ := bind_eq_ok done
    exact keepsBut_after (first.of_ok before) ((second value).of_ok later)
  of_error failed := by
    rcases bind_eq_error failed with before | ⟨value, between, before, later⟩
    · exact first.of_error before
    · exact keepsBut_after (first.of_ok before) ((second value).of_error later)

theorem ConfinedTo.during {action : Action σ α} (inside : action.ConfinedTo paths)
    (attempt : String) : (during attempt action).ConfinedTo paths where
  of_ok done := inside.of_ok (during_eq_ok done)
  of_error failed := by
    obtain ⟨cause, -, before⟩ := during_eq_error failed
    exact inside.of_error before

theorem keepsBut_of_write? {files after : FileSystem} {content : Bytes} (named : path ∈ paths)
    (written : files.write? path content = some after) :
    KeepsBut (files.Reaches paths) files after :=
  (KeepsBut.refl _ files).write? (fun _ leads => ⟨path, named, leads⟩) written

theorem writeFile_confined (content : Bytes) (named : path ∈ paths) :
    (writeFile room path content : Action σ Unit).ConfinedTo paths where
  of_ok done := by
    obtain ⟨-, changed, written, rfl⟩ := writeFile_eq_ok done
    exact keepsBut_of_write? named written
  of_error failed := by
    rcases writeFile_eq_error failed with rfl | ⟨-, changed, written, rfl⟩
    · exact .refl _ _
    · exact keepsBut_of_write? named written

theorem persist_confined {stream : FileSystem → List StreamItem} (named : path ∈ paths)
    (aside : partialPath path ∈ paths) :
    (persist room stream path : Action σ (List Bytes)).ConfinedTo paths where
  of_ok {world _ _} done := by
    obtain ⟨part, place, partly, wholly, -, rfl⟩ := persist_eq_ok done
    refine .set (.set (.refl _ world.files) ?_ wholly.free (by simp)) ?_ partly.free (by simp)
    · exact ⟨path, named, wholly.place?_eq⟩
    · exact ⟨partialPath path, aside, partly.place?_eq⟩
  of_error failed :=
    (persist_eq_error failed).mono fun _ leads => ⟨partialPath path, aside, leads⟩

theorem ConfinedTo.lookup?_eq {action : Action σ α} (confined : action.ConfinedTo paths)
    {world after : World σ}
    (ended : (∃ value, action world = .ok value after) ∨
      ∃ trouble, action world = .error trouble after)
    (apart : ∀ other ∈ paths, world.files.Apart path other) :
    after.files.lookup? path = world.files.lookup? path := by
  have keeps : KeepsBut (world.files.Reaches paths) world.files after.files := by
    rcases ended with ⟨value, done⟩ | ⟨trouble, failed⟩
    · exact confined.of_ok done
    · exact confined.of_error failed
  apply keeps.lookup?_eq
  rintro place leads ⟨other, member, meets⟩
  exact apart other member place leads meets

end Confined

section Conversion

variable {α β : Type} {out : String} {others : List String}

/-- A file is made from a stream once everything for it has been prepared, and more follows when it is in
its place. -/
def convert (prepare : Action σ α) (attempt : String) (room : Room)
    (stream : α → FileSystem → List StreamItem) (out : String)
    (finish : α → List Bytes → Action σ β) : Action σ β := do
  let prepared ← prepare
  let chunks ← during attempt (persist room (stream prepared) out)
  finish prepared chunks

/-- An action makes a file, writes others after it, and touches nothing else. When it has succeeded
nothing is left at the partial path. -/
structure Converts (out : String) (others : List String) (action : Action σ β) : Prop where
  confined : action.ConfinedTo (partialPath out :: out :: others)
  partial_gone : ∀ {world value after}, action world = .ok value after →
    (∀ other ∈ others, world.files.Apart (partialPath out) other) →
      after.files.lookup? (partialPath out) = none
  partial_left : ∀ {world trouble after}, action world = .error trouble after →
    (∀ other ∈ others, world.files.Apart (partialPath out) other) →
      PartialLeft out trouble world.files after.files (partialPath out)

theorem ConfinedTo.mono {paths more : List String} {action : Action σ α}
    (confined : action.ConfinedTo paths) (wider : paths ⊆ more) : action.ConfinedTo more where
  of_ok done := (confined.of_ok done).mono fun _ ⟨path, member, leads⟩ => ⟨path, wider member, leads⟩
  of_error failed :=
    (confined.of_error failed).mono fun _ ⟨path, member, leads⟩ => ⟨path, wider member, leads⟩

theorem convert_converts {prepare : Action σ α} {attempt : String} {room : Room}
    {stream : α → FileSystem → List StreamItem} {finish : α → List Bytes → Action σ β}
    (prepares : prepare.Looks)
    (finishes : ∀ prepared chunks, (finish prepared chunks).ConfinedTo others) :
    (convert prepare attempt room stream out finish).Converts out others where
  confined := by
    have later (prepared : α) (chunks : List Bytes) :
        (finish prepared chunks).ConfinedTo (partialPath out :: out :: others) :=
      (finishes prepared chunks).mono fun _ member =>
        List.mem_cons_of_mem _ (List.mem_cons_of_mem _ member)
    refine prepares.confined.bind fun prepared => ?_
    refine ConfinedTo.bind (ConfinedTo.during (persist_confined ?_ ?_) _) (later prepared)
    · exact List.mem_cons_of_mem _ List.mem_cons_self
    · exact List.mem_cons_self
  partial_gone {world value after} done apart := by
    obtain ⟨prepared, ready, before, done⟩ := bind_eq_ok done
    obtain ⟨chunks, complete, made, done⟩ := bind_eq_ok done
    obtain ⟨part, place, partly, wholly, -, rfl⟩ := persist_eq_ok (during_eq_ok made)
    rw [prepares.of_ok before] at partly wholly done
    have same := sameDirectories_persisted chunks partly wholly
    rw [(finishes prepared chunks).lookup?_eq (.inl ⟨value, done⟩),
      lookup?_persisted_partial chunks partly wholly]
    exact fun other member => same.apart_iff.mpr (apart other member)
  partial_left {world trouble after} failed apart := by
    rcases bind_eq_error failed with failed | ⟨prepared, ready, before, failed⟩
    · rw [(prepares.of_error failed).1]
      exact .inl rfl
    rw [← prepares.of_ok before] at apart ⊢
    rcases bind_eq_error failed with failed | ⟨chunks, complete, made, failed⟩
    · obtain ⟨cause, rfl, broken⟩ := during_eq_error failed
      exact (partialLeft_of_persist_error broken).cons _
    · obtain ⟨part, place, partly, wholly, -, rfl⟩ := persist_eq_ok (during_eq_ok made)
      have same := sameDirectories_persisted chunks partly wholly
      refine .inr (.inl ?_)
      rw [(finishes prepared chunks).lookup?_eq (.inr ⟨trouble, failed⟩),
        lookup?_persisted_partial chunks partly wholly]
      exact fun other member => same.apart_iff.mpr (apart other member)

/-- What only looks at the files may come before. -/
theorem Converts.after {prepare : Action σ α} {next : α → Action σ β} (prepares : prepare.Looks)
    (converts : ∀ prepared, (next prepared).Converts out others) :
    (prepare >>= next).Converts out others where
  confined := prepares.confined.bind fun prepared => (converts prepared).confined
  partial_gone done apart := by
    obtain ⟨prepared, ready, before, done⟩ := bind_eq_ok done
    apply (converts prepared).partial_gone done
    rwa [prepares.of_ok before]
  partial_left failed apart := by
    rcases bind_eq_error failed with failed | ⟨prepared, ready, before, failed⟩
    · rw [(prepares.of_error failed).1]
      exact .inl rfl
    · rw [← prepares.of_ok before] at apart ⊢
      exact (converts prepared).partial_left failed apart

end Conversion

section Tasks

variable (surroundings : Surroundings σ) (settings : Settings) (input out metadata : String)

theorem encrypt_converts :
    (encrypt surroundings settings input out metadata).Converts out [metadata] := by
  refine .after (adapter_prepares surroundings settings metadata).looks fun adapter => ?_
  refine .after (requester_prepares surroundings metadata _ _).looks fun requester => ?_
  refine .after (openAt_leavesFiles trivial) fun _ => ?_
  refine convert_converts (during_looks (exchange_leavesFiles _ _) _) fun wrapped chunks => ?_
  refine (during_looks (ofResult_leavesFiles _ _) _).confined.bind fun record => ?_
  refine (during_looks (ofResult_leavesFiles _ _) _).confined.bind fun archived => ?_
  refine (ConfinedTo.during (writeFile_confined _ List.mem_cons_self) _).bind fun _ => ?_
  exact (pure_leavesFiles _ : LeavesFiles (fun _ => True) _).confined

theorem decrypt_converts (space : Option String) :
    (decrypt surroundings settings input metadata out space).Converts out [] := by
  rw [decrypt_eq]
  exact convert_converts (recoverKey_looks surroundings settings) fun material chunks =>
    (pure_leavesFiles _ : LeavesFiles (fun _ => True) _).confined

theorem loadSettings_looks (path : String) : (loadSettings path : Action σ Settings).Looks :=
  files_looks.bind fun _ => during_looks (ofResult_leavesFiles _ _) _

end Tasks

end Action

/-- A task that makes a file of another, with the paths of both and of what it writes beside. -/
inductive Task.Turns : Task → (input out : String) → (others : List String) → Prop
  | encrypt (input out : String) (metadata : Option String) :
      Turns (.encrypt input out metadata) input out [metadata.getD (Action.metadataPath out)]
  | decrypt (ciphertext metadata out : String) (space : Option String) :
      Turns (.decrypt ciphertext metadata out space) ciphertext out []

theorem run_of_performed {surroundings : Surroundings σ} {arguments : List String} {command : Command}
    {world after : World σ} {text : String}
    (read : Command.read surroundings.environment arguments = .ok command)
    (performed : Action.perform surroundings command world = .ok text after) :
    run surroundings arguments world = (.shown text, after) := by
  rw [run, read]
  dsimp only
  rw [performed]

open Program.Action (PartialLeft partialPath) in
/-- Whatever comes of an encryption or a decryption, its input is kept, unless it is at the output, at
the record or at the partial path of the output. From the partial path it is gone when the run has
succeeded. When the run has failed, what is there is the input as it was, or nothing, or what was made
and could not be moved into its place. -/
theorem input_kept {surroundings : Surroundings σ} {arguments : List String} {command : Command}
    {input out : String} {others : List String}
    {world after : World σ} {outcome : Outcome}
    (read : Command.read surroundings.environment arguments = .ok command)
    (turns : command.task.Turns input out others)
    (apart : ∀ path ∈ out :: others, world.files.Apart input path)
    (ran : run surroundings arguments world = (outcome, after)) :
    (world.files.Apart input (partialPath out) →
      after.files.lookup? input = world.files.lookup? input) ∧
    (¬ world.files.Apart input (partialPath out) →
      (∀ text, outcome = .shown text → after.files.lookup? input = none) ∧
      ∀ trouble, outcome = .failed trouble →
        PartialLeft out trouble world.files after.files input) := by
  have converts : (Action.perform surroundings command).Converts out others := by
    refine .after (Action.loadSettings_looks _) fun settings => ?_
    generalize command.task = task at turns
    cases turns with
    | encrypt input out metadata => exact Action.encrypt_converts surroundings settings _ _ _
    | decrypt ciphertext metadata out space =>
        exact Action.decrypt_converts surroundings settings _ _ _ space
  have kept {after : World σ}
      (ended : (∃ text, Action.perform surroundings command world = .ok text after) ∨
        ∃ trouble, Action.perform surroundings command world = .error trouble after)
      (aside : world.files.Apart input (partialPath out)) :
      after.files.lookup? input = world.files.lookup? input :=
    converts.confined.lookup?_eq ended (List.forall_mem_cons.mpr ⟨aside, apart⟩)
  have meeting (meets : ¬ world.files.Apart input (partialPath out)) :
      world.files.place? input = world.files.place? (partialPath out) ∧
        ∀ other ∈ others, world.files.Apart (partialPath out) other := by
    obtain ⟨place, leads, onto⟩ : ∃ place, world.files.place? input = some place ∧
        world.files.place? (partialPath out) = some place := by
      simpa [FileSystem.Apart] using meets
    refine ⟨leads.trans onto.symm, fun other member there reached => ?_⟩
    cases onto.symm.trans reached
    exact apart other (List.mem_cons_of_mem _ member) place leads
  rw [run, read] at ran
  dsimp only at ran
  cases performed : Action.perform surroundings command world with
  | error trouble last =>
      rw [performed] at ran
      cases ran
      refine ⟨kept (.inr ⟨trouble, performed⟩), fun meets =>
        ⟨fun text shown => ?_, fun told failed => ?_⟩⟩
      · cases shown
      · cases failed
        obtain ⟨same, others_apart⟩ := meeting meets
        have left := converts.partial_left performed others_apart
        have still := (converts.confined.of_error performed).sameDirectories
        rw [PartialLeft, FileSystem.lookup?_congr same, FileSystem.lookup?_congr]
        · exact left
        · rw [still.place?_eq, still.place?_eq, same]
  | ok text last =>
      rw [performed] at ran
      cases ran
      refine ⟨kept (.inl ⟨text, performed⟩), fun meets =>
        ⟨fun told shown => ?_, fun trouble failed => ?_⟩⟩
      · obtain ⟨same, others_apart⟩ := meeting meets
        have still := (converts.confined.of_ok performed).sameDirectories
        rw [FileSystem.lookup?_congr]
        · exact converts.partial_gone performed others_apart
        · rw [still.place?_eq, still.place?_eq, same]
      · cases failed

/-! Encryptions in a folder that holds a file under a partial path. -/

namespace Sample

open Program.Action (partialPath)

def settingsText : String :=
  "[kms]\nurl = \"https://service.example/\"\nservice_did = \"did:web:service.example\"\n[identity]\n" ++
    "issuer_did = \"did:key:z6MkIssuer\"\nsigning_key_file = \"issuer.key\"\n" ++
    "space_did = \"did:key:z6MkSpace\"\nproof_file = \"space.proof\"\n"

theorem settings_load : Settings.load (.file (Bytes.ofText settingsText)) = .ok settings := by
  decide +kernel

/-- The folder with its settings, and with a copy of the file under the partial path of an output. -/
def partialFolder : FileSystem :=
  (folder.set (inFolder "ecup.toml") (some (.file (Bytes.ofText settingsText)))).set
    (inFolder "out.enc.part") (some (.file content))

def encryptCommand (input : String) : Command :=
  ⟨"ecup.toml", .encrypt input "out.enc" none⟩

def encryptArguments (input : String) : List String :=
  ["-c", "ecup.toml", "encrypt", input, "-o", "out.enc"]

def here : Surroundings Unit := around Custody.Sample.setup fun _ => none

theorem here_loads : Action.loadSettings "ecup.toml" ⟨partialFolder, ()⟩ =
    .ok settings (⟨partialFolder, ()⟩ : World Unit) := by
  have source : partialFolder.settingsSource "ecup.toml" =
      .file (Bytes.ofText settingsText) := by
    have stands : partialFolder.lookup? "ecup.toml" = some (.file (Bytes.ofText settingsText)) := by
      rfl
    rw [FileSystem.settingsSource, stands]
  rw [Action.loadSettings, Action.bind_files]
  dsimp only
  apply Action.during_of_ok
  rw [source, settings_load]
  rfl

theorem perform_encrypt (input : String) :
    Action.perform here (encryptCommand input) ⟨partialFolder, ()⟩ =
      Action.encrypt here settings input "out.enc" "out.enc.metadata.car" ⟨partialFolder, ()⟩ := by
  have path : Config.expandHome here.home "ecup.toml" = "ecup.toml" := by decide
  have record : Action.metadataPath "out.enc" = "out.enc.metadata.car" := by decide
  rw [encryptCommand, Action.perform]
  dsimp only
  rw [path, Action.bind_of_ok here_loads, Option.getD_none, record]

theorem encryptArguments_read : ∀ input ∈ ["/work/in.bin", "out.enc.part"],
    Command.read here.environment (encryptArguments input) = .ok (encryptCommand input) := by
  decide +kernel

theorem encryptCommand_turns (input : String) :
    (encryptCommand input).task.Turns input "out.enc" ["out.enc.metadata.car"] := by
  have record : Action.metadataPath "out.enc" = "out.enc.metadata.car" := by decide
  rw [← record]
  exact .encrypt input "out.enc" none

theorem partialFolder_holds : HoldsIdentity here.home partialFolder settings.identity
    Custody.Sample.issuer Custody.Sample.proofs := by
  apply holds.congr
  rintro name (key | proof)
  · cases key
    decide
  · cases proof
    decide

/-- With any input an encryption succeeds. It makes a ciphertext of what can be read under the name of the
input once the partial file is there. -/
theorem encrypts {input : String} {plain : Bytes}
    (read : Command.read here.environment (encryptArguments input) = .ok (encryptCommand input))
    (found : (partialFolder.lookup? input).isSome)
    (holds : (partialFolder.set (inFolder "out.enc.part") (some (.file []))).read? input = some plain)
    (short : plain.length ≤ 4) :
    ∃ chunks text archive, run here (encryptArguments input) ⟨partialFolder, ()⟩ =
      (.shown text, ⟨(Action.persisted partialFolder (inFolder "out.enc.part") (inFolder "out.enc")
        chunks).set (inFolder "out.enc.metadata.car") (some (.file archive)), ()⟩) := by
  obtain ⟨service, connects⟩ := exists_connects
  let start : World Unit := ⟨partialFolder, ()⟩
  have encrypted := Cipher.Keystream.collect_start (here.cipher here.material.key).encrypt
    ⟨here.material.iv.bytes⟩ (plain.pieces settings.encryption.chunkSize)
  rw [Bytes.flatten_pieces, if_pos (short.trans (by decide))] at encrypted
  obtain ⟨chunks, streamed, -⟩ := Cipher.exists_chunks_of_collect encrypted
  have partly : start.files.Leads "out.enc.part" (inFolder "out.enc.part") := ⟨by decide, by decide⟩
  have wholly : start.files.Leads "out.enc" (inFolder "out.enc") := ⟨by decide, by decide⟩
  have leads : start.files.Leads "out.enc.metadata.car" (inFolder "out.enc.metadata.car") :=
    ⟨by decide, by decide⟩
  have ciphered : Action.encrypt here settings input "out.enc" "out.enc.metadata.car" start = _ :=
    Action.encrypt_of_stream connects (Action.requester_of_holds partialFolder_holds _) found
      (around_wraps (fun _ => none) (show Custody.Sample.setup.algorithm = "age-x25519" from rfl) rfl
        service) partly rfl wholly
      (by rw [Action.ciphertextOf, FileSystem.chunks_of_read? holds]; exact streamed)
  obtain ⟨recorded, archived, shipped, -⟩ := Custody.WrappedKey.exists_archived
    (named_valid (.ofData Content.Codec.raw chunks.flatten)) (Custody.Sample.keyUnder_fits _)
  let complete : World Unit :=
    ⟨Action.persisted partialFolder (inFolder "out.enc.part") (inFolder "out.enc") chunks, ()⟩
  have onto : complete.files.Leads "out.enc.metadata.car" (inFolder "out.enc.metadata.car") :=
    (Action.sameDirectories_persisted chunks partly wholly).leads_iff.mpr leads
  have written : complete.files.write? "out.enc.metadata.car" archived.bytes = some _ :=
    onto.write?_eq archived.bytes
  have roomy : here.room (inFolder "out.enc.metadata.car") = none := rfl
  obtain ⟨text, ships⟩ := Action.shipRecord_of_ok recorded shipped (onto.fitting_eq roomy) written
  rw [ships] at ciphered
  exact ⟨chunks, text, archived.bytes, run_of_performed read ((perform_encrypt input).trans ciphered)⟩

theorem inBin_kept : ∃ text after,
    run here (encryptArguments "/work/in.bin") ⟨partialFolder, ()⟩ = (.shown text, after) ∧
      after.files.lookup? "/work/in.bin" = some (.file content) := by
  have read := encryptArguments_read "/work/in.bin" (by simp)
  have apart : ∀ path ∈ ["out.enc", "out.enc.metadata.car"],
      partialFolder.Apart "/work/in.bin" path := by
    simp only [List.forall_mem_cons]
    exact ⟨FileSystem.apart_of_ne (by decide), FileSystem.apart_of_ne (by decide),
      List.forall_mem_nil _⟩
  have aside : partialFolder.Apart "/work/in.bin" (partialPath "out.enc") :=
    FileSystem.apart_of_ne (by decide)
  obtain ⟨chunks, text, archive, ran⟩ := encrypts read (by decide)
    (show _ = some content from rfl) (by decide)
  exact ⟨text, _, ran, (input_kept read (encryptCommand_turns _) apart ran).1 aside⟩

/-- The partial path is apart from all that the command names, and yet the file there is lost. -/
theorem partial_input_lost :
    (∀ path ∈ ["out.enc", "out.enc.metadata.car"], partialFolder.Apart "out.enc.part" path) ∧
    partialFolder.lookup? "out.enc.part" = some (.file content) ∧
    ∃ text after, run here (encryptArguments "out.enc.part") ⟨partialFolder, ()⟩ =
        (.shown text, after) ∧
      after.files.lookup? "out.enc.part" = none := by
  have emptied : (partialFolder.set (inFolder "out.enc.part") (some (.file []))).read? "out.enc.part" =
      some [] := rfl
  obtain ⟨chunks, text, archive, ran⟩ := encrypts
    (encryptArguments_read "out.enc.part" (by simp)) (by decide) emptied (by decide)
  refine ⟨?_, by decide, text, _, ran, rfl⟩
  simp only [List.forall_mem_cons]
  exact ⟨FileSystem.apart_of_ne (by decide), FileSystem.apart_of_ne (by decide),
    List.forall_mem_nil _⟩

end Sample

end SealedContent.Program
