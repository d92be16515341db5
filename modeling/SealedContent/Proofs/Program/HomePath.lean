import SealedContent.Proofs.Config.HomePath
import SealedContent.Proofs.Program.KeptInput

/-!
Tasks that are given paths with a tilde. Such a path is followed from where the home directory is, and a
task does with it what it does with the path written out.
-/

namespace SealedContent.Program

open Config (Component Identity IsAbsolute Settings components expandHome)

namespace FileSystem

variable {home : String}

theorem names_append_slash (first second : List Char) :
    names (first ++ '/' :: second) = names first ++ names second := by
  rw [names, Text.splitWhere_append_separator (by rfl), List.map_append, names, names]

theorem names_ne_nil (path : List Char) : names path ≠ [] := by
  rw [names, ne_eq, List.map_eq_nil_iff]
  exact Text.splitWhere_ne_nil path

/-- A slash to spare asks for a directory, as every further name does. -/
theorem walk_spare (files : FileSystem) (here : Place) {more : List String} (onward : more ≠ []) :
    files.walk here ("" :: more) = files.walk here more := by
  obtain ⟨name, rest, rfl⟩ := List.exists_cons_of_ne_nil onward
  rw [walk]
  by_cases directory : files.isDirectoryAt here = true
  · rw [if_neg (not_not_intro directory), if_pos (.inl rfl)]
  · rw [if_pos directory, walk, if_pos directory]

theorem place?_absolute (files : FileSystem) {path : String} (absolute : IsAbsolute path) :
    files.place? path = files.walk [] (names path.toList) := by
  obtain ⟨rest, spelled⟩ := List.head?_eq_some_iff.mp absolute
  have spare : names ('/' :: rest) = "" :: names rest := names_append_slash [] rest
  rw [place?, spelled, spare, walk_spare files [] (names_ne_nil rest)]
  rfl

/-- What is joined to a directory is followed from where the directory is. -/
theorem walk_joinPath (files : FileSystem) (here : Place) {directory path : List Char}
    (filled : directory ≠ []) (relative : path.head? ≠ some '/') :
    files.walk here (names (Config.joinPath directory path)) =
      (files.walk here (names directory)).bind fun there => files.walk there (names path) := by
  obtain ⟨front, joined, rfl | rfl⟩ := Config.exists_joined filled relative
  · rw [joined, names_append_slash, walk_append]
  · have last : names (front ++ ['/']) = names front ++ [""] := names_append_slash front []
    rw [joined, names_append_slash, walk_append, last, walk_append, Option.bind_assoc]
    apply congrArg (Option.bind (files.walk here (names front)))
    funext there
    rw [← walk_append, List.singleton_append, walk_spare files there (names_ne_nil path)]

theorem place?_expandHome (files : FileSystem) (absolute : IsAbsolute home) {rest : String}
    (relative : ¬ IsAbsolute rest) :
    files.place? (expandHome home ("~/" ++ rest)) =
      (files.place? home).bind fun there => files.walk there (names rest.toList) := by
  rw [place?_absolute files (Config.expandHome_absolute absolute rest), Config.expandHome_tilde,
    String.toList_ofList, walk_joinPath files [] (Config.ne_nil_of_absolute absolute) relative,
    place?_absolute files absolute]

/-- Names other than two dots lead nowhere but further down. -/
theorem prefix_of_walk {files : FileSystem} {here place : Place} {names : List String}
    (down : ".." ∉ names) (leads : files.walk here names = some place) : here <+: place := by
  induction names generalizing here with
  | nil =>
      cases leads
      exact List.prefix_refl _
  | cons name names induction =>
      rw [List.mem_cons, not_or] at down
      rw [walk] at leads
      split at leads
      · cases leads
      split at leads
      · exact induction down.2 leads
      rw [if_neg (Ne.symm down.1)] at leads
      exact (List.prefix_append here [name]).trans (induction down.2 leads)

end FileSystem

/-- What a path beneath home consists of and where it leads. It goes on from where home is, and as long
as it takes no step upwards it ends below. -/
structure FollowsHome (home rest path : String) : Prop where
  components_eq : components path = components home ++ (components rest).filter Component.isStep
  place?_eq : ∀ files : FileSystem, files.place? path =
    (files.place? home).bind fun there => files.walk there (FileSystem.names rest.toList)
  below : ∀ (files : FileSystem) (place : Place), ".." ∉ FileSystem.names rest.toList →
    files.place? path = some place → ∃ there, files.place? home = some there ∧ there <+: place

theorem followsHome_expandHome {home rest : String} (absolute : IsAbsolute home)
    (relative : ¬ IsAbsolute rest) : FollowsHome home rest (expandHome home ("~/" ++ rest)) where
  components_eq := (Config.components_expandHome_iff absolute rest).mpr (.inl relative)
  place?_eq files := files.place?_expandHome absolute relative
  below files place down leads := by
    rw [files.place?_expandHome absolute relative] at leads
    obtain ⟨there, found, onward⟩ := Option.bind_eq_some_iff.mp leads
    exact ⟨there, found, FileSystem.prefix_of_walk down onward⟩

def Task.writtenOut (home : String) : Task → Task
  | .decrypt ciphertext metadata out space =>
      .decrypt ciphertext (expandHome home metadata) out space
  | .generateKey out force => .generateKey (expandHome home out) force
  | task => task

def Command.writtenOut (home : String) (command : Command) : Command :=
  ⟨expandHome home command.settingsPath, command.task.writtenOut home⟩

/-- If the task is to decrypt, its record is in a file. Otherwise its name may be an identifier. -/
def Task.HasRecord (home : String) (files : FileSystem) : Task → Prop
  | .decrypt _ metadata _ _ => (files.read? (expandHome home metadata)).isSome
  | _ => True

namespace Action

variable {σ α β : Type} {surroundings : Surroundings σ} {world : World σ}

section Congruence

variable {first other : Action σ α} {next later : α → Action σ β}

theorem bind_eq_of_first (same : first world = other world) :
    (first >>= next) world = (other >>= next) world := by
  change EStateM.bind first next world = EStateM.bind other next world
  rw [EStateM.bind, EStateM.bind, same]

/-- After a step that only looks, what follows may be compared on the same files. -/
theorem Looks.bind_eq (looks : first.Looks)
    (same : ∀ value between, between.files = world.files → next value between = later value between) :
    (first >>= next) world = (first >>= later) world := by
  cases done : first world with
  | ok value between =>
      rw [bind_of_ok done, bind_of_ok done, same value between (looks.of_ok done)]
  | error trouble between => rw [bind_of_error done, bind_of_error done]

end Congruence

section WrittenOut

variable (absolute : IsAbsolute surroundings.home)
include absolute

theorem requester_writtenOut (identity : Identity) (space : Option String) :
    requester surroundings (identity.writtenOut surroundings.home) space =
      requester surroundings identity space := by
  have same_issuer : issuer surroundings (identity.writtenOut surroundings.home) =
      issuer surroundings identity := by
    unfold issuer Identity.writtenOut
    cases identity.issuerDid with
    | none => rfl
    | some did =>
        cases identity.signingKeyFile with
        | none => rfl
        | some path => simp only [Option.map_some, Config.expandHome_expandHome absolute]
  have same_proofs : proofs surroundings (identity.writtenOut surroundings.home) =
      proofs surroundings identity := by
    unfold proofs Identity.writtenOut
    cases identity.proofFile with
    | none => rfl
    | some path => simp only [Option.map_some, Config.expandHome_expandHome absolute]
  rw [requester, requester, same_issuer, same_proofs]

theorem metadataAt_writtenOut (settings : Settings) {metadata : String}
    (found : (world.files.read? (expandHome surroundings.home metadata)).isSome) :
    metadataAt surroundings settings (expandHome surroundings.home metadata) world =
      metadataAt surroundings settings metadata world := by
  obtain ⟨archive, read⟩ := Option.isSome_iff_exists.mp found
  rw [metadataAt, metadataAt, bind_files, bind_files, Config.expandHome_expandHome absolute, read]

theorem perform_writtenOut {command : Command}
    (found : command.task.HasRecord surroundings.home world.files) :
    perform surroundings (command.writtenOut surroundings.home) world =
      perform surroundings command world := by
  obtain ⟨settingsPath, task⟩ := command
  unfold perform Command.writtenOut
  rw [Config.expandHome_expandHome absolute]
  apply (loadSettings_looks _).bind_eq
  intro settings between same
  cases task with
  | decrypt ciphertext metadata out space =>
      apply (adapter_prepares surroundings settings metadata).looks.bind_eq
      intro adapter after unchanged
      apply bind_eq_of_first
      apply metadataAt_writtenOut absolute
      rwa [unchanged, same]
  | generateKey out force =>
      dsimp only [Task.writtenOut]
      rw [Config.expandHome_expandHome absolute]
  | encrypt => rfl
  | fetch => rfl
  | showSettings => rfl

end WrittenOut

/-- A path behind a tilde and a slash goes on from home, in what it consists of and in where it leads, and
a task does with it what it does with the path written out. Behind a second slash it is a path from the
root instead, which goes on from home only where that is the root. All other paths stay as they are. -/
theorem home_paths_exact (surroundings : Surroundings σ) :
    (∀ home rest, IsAbsolute home →
      (¬ IsAbsolute rest → FollowsHome home rest (expandHome home ("~/" ++ rest))) ∧
      (IsAbsolute rest → expandHome home ("~/" ++ rest) = rest ∧
        (components rest = components home ++ (components rest).filter Component.isStep ↔
          components home = [.root]))) ∧
    (∀ home path, (∀ rest, path ≠ "~/" ++ rest) → expandHome home path = path) ∧
    (IsAbsolute surroundings.home →
      (∀ (identity : Identity) (space : Option String),
        requester surroundings (identity.writtenOut surroundings.home) space =
          requester surroundings identity space) ∧
      ∀ (command : Command) (world : World σ),
        command.task.HasRecord surroundings.home world.files →
        perform surroundings (command.writtenOut surroundings.home) world =
          perform surroundings command world) := by
  refine ⟨fun home rest absolute => ⟨followsHome_expandHome absolute, fun rooted => ?_⟩,
    fun home path plain => Config.expandHome_of_plain plain, fun absolute =>
    ⟨requester_writtenOut absolute, fun command world found => perform_writtenOut absolute found⟩⟩
  have followed := Config.components_expandHome_iff absolute rest
  rw [Config.expandHome_of_slash rooted] at followed
  exact ⟨Config.expandHome_of_slash rooted, followed.trans (or_iff_right (not_not_intro rooted))⟩

end Action

/-! The home directory of a user. -/

namespace Sample

def atHome : Surroundings Unit :=
  { surroundings with home := "/home/u" }

def homeFiles : FileSystem where
  entryAt
    | ["home"] | ["home", "u"] => some .directory
    | ["home", "u", "in.car"] => some (.file content)
    | _ => none
  workingDirectory := ["work"]

def homeCommand : Command :=
  ⟨"~/ecup.toml", .decrypt "in.enc" "~/in.car" "out.bin" none⟩

theorem record_beneath_home :
    IsAbsolute atHome.home ∧ ¬ IsAbsolute "in.car" ∧
      components (expandHome atHome.home "~/in.car") =
        [.root, .name "home".toList, .name "u".toList, .name "in.car".toList] ∧
      homeFiles.place? (expandHome atHome.home "~/in.car") = some ["home", "u", "in.car"] ∧
      homeCommand.task.HasRecord atHome.home homeFiles ∧
      Action.perform atHome (homeCommand.writtenOut atHome.home) ⟨homeFiles, ()⟩ =
        Action.perform atHome homeCommand ⟨homeFiles, ()⟩ := by
  have absolute : IsAbsolute atHome.home := by decide
  have relative : ¬ IsAbsolute "in.car" := by decide
  have found : homeCommand.task.HasRecord atHome.home homeFiles := by
    change (homeFiles.read? (expandHome atHome.home "~/in.car")).isSome = true
    decide
  have follows := ((Action.home_paths_exact atHome).1 atHome.home "in.car" absolute).1 relative
  have performs := ((Action.home_paths_exact atHome).2.2 absolute).2 homeCommand ⟨homeFiles, ()⟩ found
  exact ⟨absolute, relative, follows.components_eq.trans (by decide),
    (follows.place?_eq homeFiles).trans (by decide), found, performs⟩

/-- With one slash more the path does not even start as home does. -/
theorem slash_leaves_home :
    ¬ components atHome.home <+: components (expandHome atHome.home "~//etc/x") ∧
    ¬ ∀ home rest, IsAbsolute home → components (expandHome home ("~/" ++ rest)) =
      components home ++ (components rest).filter Component.isStep := by
  refine ⟨by decide, fun always => ?_⟩
  have claimed := always atHome.home "/etc/x" (by decide)
  revert claimed
  decide

end Sample

end SealedContent.Program
