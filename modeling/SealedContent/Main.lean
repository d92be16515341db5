import Std.Async.DNS
import Std.Async.TCP
import Std.Time.DateTime.Timestamp
import SealedContent.Program.Reach
import SealedContent.Web.Dialogue
import SealedContent.Web.Message

/-!
The program. It looks at the places that its command can touch, performs the command on what it saw,
and carries the changes out. Requests are sent one by one, and after each reply the command starts
again from what was seen. Only the plain web is within reach; other requests go unanswered.
-/

namespace SealedContent.Program

open Config (Settings expandHome)
open Std.Async (Async)
open Std.Async.TCP (Socket.Client)
open Std.Net (SocketAddress)
open Web (Dialogue Host Reply Request)

def entryOnDisk (place : Place) : IO (Option Entry) := do
  try
    return some (.file (← IO.FS.readBinFile (pathOfPlace place)).toList)
  catch error =>
    match error with
    | .inappropriateType .. => return some .directory
    | _ => return none

def whereItRuns : IO Place :=
  return (placesOfPath [] (← IO.currentDir).toString).getLastD []

def look (here : Place) (paths : List String) : IO (List (Place × Option Entry)) := do
  (paths.flatMap (placesOfPath here)).eraseDups.mapM fun place =>
    return (place, ← entryOnDisk place)

def filesOf (here : Place) (seen : List (Place × Option Entry)) : FileSystem where
  entryAt place := (seen.lookup place).join
  workingDirectory := here

/-- Makes a place of the disk hold what it ought to hold. -/
def settle (place : Place) (before after : Option Entry) : IO Unit := do
  if before ≠ after then
    match after with
    | none => IO.FS.removeFile (pathOfPlace place)
    | some .directory => IO.FS.createDir (pathOfPlace place)
    | some (.file content) => IO.FS.writeBinFile (pathOfPlace place) ⟨content.toArray⟩

/-- Keeps a new key from everyone but its owner. -/
def protect (path : String) : IO Unit :=
  IO.setAccessRights path ⟨⟨true, true, false⟩, ⟨false, false, false⟩, ⟨false, false, false⟩⟩

/-- Everything that comes until the far side closes the connection. -/
partial def receive (client : Socket.Client) (received : ByteArray) : Async ByteArray := do
  match ← client.recv? 65536 with
  | some bytes => receive client (received ++ bytes)
  | none => return received

def converse (addresses : Array Std.Net.IPAddr) (port : UInt16) (message : Bytes) :
    Async (Option Reply) := do
  match addresses[0]? with
  | none => return none
  | some address =>
      let client ← Socket.Client.mk
      client.connect (match address with
        | .v4 address => .v4 ⟨address, port⟩
        | .v6 address => .v6 ⟨address, port⟩)
      client.send ⟨message.toArray⟩
      return Web.Message.toReply? (← receive client ByteArray.empty).toList

def exchangeOnWire (request : Request) : IO (Option Reply) := do
  let url := request.url
  let host := match url.host with
    | some (.sixteenByte groups) => Host.writeSixteenByte groups
    | some host => host.write
    | none => []
  if url.scheme ≠ "http".toList then return none
  try
    Async.block do
      let addresses ← Std.Async.DNS.getAddrInfo (String.ofList host) ""
      converse addresses (UInt16.ofNat (url.port.getD 80)) (Web.Message.ofRequest request)
  catch _ => return none

def randomBytes (size : Nat) : IO Bytes :=
  return (← IO.getRandomBytes size.toUSize).toList

def freshChance : IO Custody.Chance := do
  let now ← Std.Time.Timestamp.now
  return ⟨⟨now.toSecondsSinceUnixEpoch.val.toNat, ← randomBytes 12⟩,
    ⟨← randomBytes 16, ← randomBytes 32, ← randomBytes 16⟩⟩

def surroundingsOf (home : String) (values : List (String × String)) :
    IO (Surroundings Dialogue) := do
  return {
    home := home
    environment := fun name => values.lookup name
    transport := Dialogue.transport
    suite := Custody.Suite.standard
    cipher := Cipher.aes256
    chance := ← freshChance
    material := .ofRandom (← randomBytes Cipher.KeyMaterial.combinedSize)
    issuerSecret := ← randomBytes 32 }

def variablesSet : IO (List (String × String)) := do
  let values ← Command.generalOptions.mapM fun (_, name) => return (name, ← IO.getEnv name)
  return values.filterMap fun (name, value) => value.map (name, ·)

def pathsOf (here : Place) (home : String) (command : Command) : IO (List String) := do
  let path := expandHome home command.settingsPath
  let files := filesOf here (← look here [path])
  let settings := (Settings.load (files.settingsSource path)).toOption
  return command.paths home (settings.getD Settings.standard)

/-- Runs the program until no request waits for its reply. -/
partial def runOnWire (surroundings : Surroundings Dialogue) (arguments : List String)
    (files : FileSystem) (replies : List (Option Reply)) : IO (Outcome × FileSystem) := do
  let (outcome, after) := run surroundings arguments ⟨files, .start replies⟩
  match after.network.waiting with
  | none => return (outcome, after.files)
  | some request =>
      let reply ← exchangeOnWire request
      runOnWire surroundings arguments files (replies ++ [reply])

def performOnDisk (arguments : List String) : IO Outcome := do
  let home := (← IO.getEnv "HOME").getD ""
  let surroundings ← surroundingsOf home (← variablesSet)
  let command := (Command.read surroundings.environment arguments).toOption
  let here ← whereItRuns
  let paths ← command.elim (pure []) (pathsOf here home)
  let seen ← look here paths
  let (outcome, files) ← runOnWire surroundings arguments (filesOf here seen) []
  seen.forM fun (place, before) => settle place before (files.entryAt place)
  match command, outcome with
  | some ⟨_, .generateKey out _⟩, .shown _ => protect (expandHome home out)
  | _, _ => pure ()
  return outcome

def report (outcome : Outcome) : IO Unit := do
  match outcome with
  | .shown text => IO.print text
  | .misused => IO.eprint Command.usage
  | .failed [] => IO.eprintln "Error"
  | .failed (attempt :: causes) =>
      IO.eprintln s!"Error: {attempt}"
      causes.forM fun cause => IO.eprintln s!"  caused by: {cause}"

end SealedContent.Program

def main (arguments : List String) : IO UInt32 := do
  let outcome ← SealedContent.Program.performOnDisk arguments
  SealedContent.Program.report outcome
  return UInt32.ofNat outcome.status
