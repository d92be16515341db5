import SealedContent.Program.Run

/-!
What a command can touch: the places of all its files, and of the directories on the way to them.
-/

namespace SealedContent.Program

open Config (Settings expandHome)

def placesAlong (here : Place) : List String → List Place
  | [] => []
  | name :: rest =>
      if name = "" ∨ name = "." then placesAlong here rest
      else
        let next := if name = ".." then FileSystem.outer here else here ++ [name]
        next :: placesAlong next rest

def placesOfPath (workingDirectory : Place) (path : String) : List Place :=
  match path.toList with
  | '/' :: rest => placesAlong [] (FileSystem.names rest)
  | chars => placesAlong workingDirectory (FileSystem.names chars)

def pathOfPlace (place : Place) : String :=
  "/" ++ String.intercalate "/" place

namespace Command

def taskPaths (home : String) : Task → List String
  | .encrypt input out metadata =>
      [input, out, Action.partialPath out, metadata.getD (Action.metadataPath out)]
  | .decrypt ciphertext metadata out _ =>
      [ciphertext, expandHome home metadata, out, Action.partialPath out]
  | .generateKey out _ => [expandHome home out]
  | .fetch _ | .showSettings => []

/-- All paths that a command follows under some settings. -/
def paths (home : String) (settings : Settings) (command : Command) : List String :=
  taskPaths home command.task ++
    (settings.identity.signingKeyFile.toList ++ settings.identity.proofFile.toList ++
      [command.settingsPath]).map (expandHome home)

end Command

end SealedContent.Program
