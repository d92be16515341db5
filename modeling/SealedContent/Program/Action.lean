import SealedContent.Cipher.Stream
import SealedContent.Config.Basic
import SealedContent.Custody.Error
import SealedContent.Custody.Suite
import SealedContent.Program.FileSystem
import SealedContent.Retrieval.Error
import SealedContent.Web.Exchange

/-!
Steps of a task. A step sees the files and the network and may change both, also when it fails. A
failure is told as a list of texts, from what was attempted down to the cause.
-/

namespace SealedContent.Program

structure World (σ : Type) where
  files : FileSystem
  network : σ

/-- What a task takes from around it and leaves as it is. -/
structure Surroundings (σ : Type) where
  home : String
  environment : String → Option String
  room : Room := fun _ => none
  transport : Web.Transport σ
  suite : Custody.Suite
  cipher : Cipher.BlockCipher
  chance : Custody.Chance
  material : Cipher.KeyMaterial
  issuerSecret : Bytes

abbrev Trouble := List String

abbrev Action (σ : Type) := EStateM Trouble (World σ)

namespace Trouble

/-- Stands for the words in which the system refuses an operation. -/
def system : Trouble := ["*"]

def ofCipher : Cipher.CipherError → Trouble
  | .input reason => [reason]
  | error => [error.message]

def ofBlock (error : Content.BlockError) : Trouble := [error.message]

def ofCustody (error : Custody.CustodyError) : Trouble := [error.message]

def ofGateway : Retrieval.GatewayError → Trouble
  | .invalidRecord error => [(Retrieval.GatewayError.invalidRecord error).message, error.message]
  | error => [error.message]

end Trouble

namespace Action

variable {σ α ε : Type}

/-- Tells what was attempted when a step fails. -/
def during (attempt : String) (action : Action σ α) : Action σ α := fun world =>
  match action world with
  | .ok value after => .ok value after
  | .error trouble after => .error (attempt :: trouble) after

def ofResult (explain : ε → Trouble) (result : Except ε α) : Action σ α := fun world =>
  match result with
  | .ok value => .ok value world
  | .error error => .error (explain error) world

def exchange (explain : ε → Trouble) (talk : σ → Except ε α × σ) : Action σ α := fun world =>
  match talk world.network with
  | (.ok value, network) => .ok value { world with network := network }
  | (.error error, network) => .error (explain error) { world with network := network }

def files : Action σ FileSystem := fun world => .ok world.files world

def changeFiles (change : FileSystem → Option FileSystem) : Action σ Unit := fun world =>
  match change world.files with
  | some files => .ok () { world with files := files }
  | none => .error Trouble.system world

/-- Writes a file. Without room for all of the content its beginning is written before this fails. -/
def writeFile (room : Room) (path : String) (content : Bytes) : Action σ Unit := do
  let written := (← files).fitting room path content
  changeFiles fun files => files.write? path written
  if written ≠ content then throw Trouble.system

def orRemove (path : String) (action : Action σ α) : Action σ α := fun world =>
  match action world with
  | .ok value after => .ok value after
  | .error trouble after => .error trouble { after with files := after.files.remove path }

/-- Opens a file or a directory; only what is read from it afterwards tells them apart. -/
def openAt (path : String) : Action σ Unit := fun world =>
  if (world.files.lookup? path).isSome then .ok () world
  else .error (s!"opening {path}" :: Trouble.system) world

def readText (path : String) : Action σ String := fun world =>
  match world.files.read? path with
  | none => .error Trouble.system world
  | some content =>
      match content.toText? with
      | some text => .ok text world
      | none => .error ["stream did not contain valid UTF-8"] world

end Action

end SealedContent.Program
