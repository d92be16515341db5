import SealedContent.Program.Arguments

/-!
The tasks of the program, and how a command line and the variables of its environment name one.
-/

namespace SealedContent.Program

inductive Task where
  | encrypt (input out : String) (metadata : Option String)
  | decrypt (ciphertext metadata out : String) (space : Option String)
  | fetch (cid : String)
  | generateKey (out : String) (force : Bool)
  | showSettings
deriving DecidableEq

structure Command where
  settingsPath : String
  task : Task
deriving DecidableEq

namespace Command

def standardSettingsPath : String := "~/.config/ecup/ecup.toml"

def helpRule : OptionRule := ⟨"help", some 'h', .interrupt .help⟩

def pathRule (name : String) (letter : Char) : OptionRule := ⟨name, some letter, .value .path⟩

def generalOptions : List (OptionRule × String) :=
  [(pathRule "config" 'c', "ECUP_CONFIG"),
    (⟨"log", none, .value .text⟩, "ECUP_LOG"),
    (⟨"log-format", none, .value (.oneOf ["json", "text"])⟩, "ECUP_LOG_FORMAT")]

def generalRules : List OptionRule :=
  generalOptions.map Prod.fst ++ [helpRule, ⟨"version", some 'V', .interrupt .version⟩]

def addVariable (environment : String → Option String) (given : Given)
    (option : OptionRule × String) : Except Interruption Given :=
  match given.options.lookup option.1.name, option.1.effect, environment option.2 with
  | none, .value rule, some value => given.addChecked option.1.name rule value
  | _, _, _ => .ok given

def readTask (rules : List OptionRule) (operands : List ValueRule) (arguments : List String) :
    Except Interruption Given := do
  let (given, _) ← scan (helpRule :: rules) true .empty arguments
  if given.operands.length = operands.length ∧
      (operands.zip given.operands).all fun (rule, operand) => rule.admits operand then
    return given
  else throw .misuse

def readEncrypt (arguments : List String) : Except Interruption Task := do
  let given ← readTask [pathRule "out" 'o', pathRule "metadata" 'm'] [.path] arguments
  let out ← given.required "out"
  return .encrypt (given.operands.headD "") out (given.options.lookup "metadata")

def readDecrypt (arguments : List String) : Except Interruption Task := do
  let given ← readTask [pathRule "out" 'o', ⟨"metadata", some 'm', .value .text⟩,
    ⟨"space", none, .value .text⟩] [.path] arguments
  let metadata ← given.required "metadata"
  let out ← given.required "out"
  return .decrypt (given.operands.headD "") metadata out (given.options.lookup "space")

def readFetch (arguments : List String) : Except Interruption Task := do
  let given ← readTask [] [.text] arguments
  return .fetch (given.operands.headD "")

def readGenerateKey (arguments : List String) : Except Interruption Task := do
  let given ← readTask [pathRule "out" 'o', ⟨"force", none, .flag⟩] [] arguments
  let out ← given.required "out"
  return .generateKey out (given.options.lookup "force").isSome

def readShowSettings (arguments : List String) : Except Interruption Task := do
  let _ ← readTask [] [] arguments
  return .showSettings

/-- A request for help is sound if it is about something that there is. -/
def readHelp : List String → Interruption
  | [] => .help
  | [topic] =>
      if ["encrypt", "decrypt", "fetch", "keygen", "config", "help"].contains topic then .help
      else .misuse
  | ["config", topic] => if ["show", "help"].contains topic then .help else .misuse
  | _ => .misuse

def readSettingsTask (arguments : List String) : Except Interruption Task := do
  match ← scan [helpRule] false .empty arguments with
  | (_, "show" :: rest) => readShowSettings rest
  | (_, "help" :: topics) => throw (readHelp ("config" :: topics))
  | _ => throw .misuse

def readNamedTask (name : String) (arguments : List String) : Except Interruption Task :=
  match name with
  | "encrypt" => readEncrypt arguments
  | "decrypt" => readDecrypt arguments
  | "fetch" => readFetch arguments
  | "keygen" => readGenerateKey arguments
  | "config" => readSettingsTask arguments
  | "help" => .error (readHelp arguments)
  | _ => .error .misuse

/-- Reads a command line. What it leaves open is taken from the environment. -/
def read (environment : String → Option String) (arguments : List String) :
    Except Interruption Command := do
  match ← scan generalRules false .empty arguments with
  | (_, []) => throw .misuse
  | (given, name :: rest) =>
      let task ← readNamedTask name rest
      let given ← generalOptions.foldlM (addVariable environment) given
      return ⟨(given.options.lookup "config").getD standardSettingsPath, task⟩

def usage : String :=
  "Usage: ecup [--config PATH] [--log LEVEL] [--log-format FORMAT] COMMAND\n" ++
    "\n" ++
    "  encrypt INPUT --out PATH [--metadata PATH]\n" ++
    "  decrypt CIPHERTEXT --metadata PATH-OR-CID --out PATH [--space DID]\n" ++
    "  fetch CID\n" ++
    "  keygen --out PATH [--force]\n" ++
    "  config show\n"

def versionText : String := "ecup 0.3.0\n"

end Command

end SealedContent.Program
