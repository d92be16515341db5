import SealedContent.Config.File
import SealedContent.Program.Command
import SealedContent.Program.Decrypt
import SealedContent.Program.Keygen

/-!
A whole run: the command line names a task, and the settings are loaded before any task starts.
-/

namespace SealedContent.Program

open Config (ConfigError Settings)

inductive Outcome where
  | shown (text : String)
  | failed (trouble : Trouble)
  | misused

def Outcome.status : Outcome → Nat
  | .shown _ => 0
  | .failed _ => 1
  | .misused => 2

def FileSystem.settingsSource (files : FileSystem) (path : String) : Settings.Source :=
  match files.lookup? path with
  | none => .missing
  | some .directory => .directory
  | some (.file content) => .file content

namespace Action

variable {σ : Type}

def loadSettings (path : String) : Action σ Settings := do
  let source := (← files).settingsSource path
  let explain (error : ConfigError) : Trouble :=
    match source with
    | .directory => Trouble.system
    | _ => [error.message]
  during s!"loading config: {path}" (ofResult explain (Settings.load source))

def showSettings (path : String) (settings : Settings) : Action σ String :=
  pure (s!"# config: {path}\n" ++ settings.toText)

def perform (surroundings : Surroundings σ) (command : Command) : Action σ String := do
  let path := Config.expandHome surroundings.home command.settingsPath
  let settings ← loadSettings path
  match command.task with
  | .encrypt input out metadata =>
      encrypt surroundings settings input out (metadata.getD (metadataPath out))
  | .decrypt ciphertext metadata out space =>
      decrypt surroundings settings ciphertext metadata out space
  | .fetch cid => fetch surroundings settings cid
  | .generateKey out force =>
      generateKey surroundings (Config.expandHome surroundings.home out) force
  | .showSettings => showSettings path settings

end Action

def run {σ : Type} (surroundings : Surroundings σ) (arguments : List String) (world : World σ) :
    Outcome × World σ :=
  match Command.read surroundings.environment arguments with
  | .error .misuse => (.misused, world)
  | .error .help => (.shown Command.usage, world)
  | .error .version => (.shown Command.versionText, world)
  | .ok command =>
      match Action.perform surroundings command world with
      | .ok text after => (.shown text, after)
      | .error trouble after => (.failed trouble, after)

end SealedContent.Program
