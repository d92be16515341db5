import SealedContent.Program.Action

/-!
Files as streams of chunks. A file that is made from a stream stands under another name until it is
complete, and only then takes its place.
-/

namespace SealedContent.Program

open Cipher (StreamItem)

/-- The content of a file in chunks of at most `size` bytes. A directory cannot be read. -/
def FileSystem.chunks (size : Nat) (path : String) (files : FileSystem) : List StreamItem :=
  match files.read? path with
  | some content => (content.pieces size).map .ok
  | none => [.error (.input "*")]

namespace Action

variable {σ : Type}

/-- Where a file is written before it takes its place. -/
def partialPath (path : String) : String := path ++ ".part"

/-- Writes the chunks of a stream one after another, onto those written before, up to its end or to the
failure in it. -/
def pour (room : Room) (path : String) (written : Bytes) : List StreamItem → Action σ (List Bytes)
  | [] => return []
  | .error failure :: _ => throw (Trouble.ofCipher failure)
  | .ok chunk :: rest => do
      during s!"writing {path}" (writeFile room path (written ++ chunk))
      let chunks ← pour room path (written ++ chunk) rest
      return chunk :: chunks

/-- Creates a file and fills it with a stream, which is read only after the file is there. -/
def fill (room : Room) (path : String) (stream : FileSystem → List StreamItem) :
    Action σ (List Bytes) := do
  during s!"creating {path}" (changeFiles fun files => files.write? path [])
  pour room path [] (stream (← files))

/-- Makes a file from a stream, and tells the chunks it was made of. It stands at its partial path until
the whole stream has been written. -/
def persist (room : Room) (stream : FileSystem → List StreamItem) (path : String) :
    Action σ (List Bytes) := do
  let chunks ← orRemove (partialPath path) (fill room (partialPath path) stream)
  during s!"moving {path} into place"
    (changeFiles fun files => files.rename? (partialPath path) path)
  return chunks

end Action

end SealedContent.Program
