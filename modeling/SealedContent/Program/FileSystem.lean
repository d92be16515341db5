import SealedContent.Bytes.Basic
import SealedContent.Text.Split

/-!
Files and directories. A place is the list of names on the way to it from the root, so every file has one
place. Paths lead to places; those that do not start with a slash start where the program runs.
-/

namespace SealedContent.Program

abbrev Place := List String

inductive Entry where
  | file (content : Bytes)
  | directory
deriving DecidableEq

structure FileSystem where
  entryAt : Place → Option Entry
  workingDirectory : Place

/-- How many bytes can be written to the file at a place, where there is an end to it. -/
abbrev Room := Place → Option Nat

namespace FileSystem

/-- The program runs in a directory, and what that is in is a directory too. -/
def isDirectoryAt (files : FileSystem) (place : Place) : Bool :=
  place <+: files.workingDirectory ∨ files.entryAt place = some .directory

/-- The directory around a place. There is none around the root but itself. -/
def outer (place : Place) : Place :=
  place.dropLast

def set (files : FileSystem) (place : Place) (entry : Option Entry) : FileSystem :=
  { files with entryAt := fun other => if other = place then entry else files.entryAt other }

theorem entryAt_set (files : FileSystem) (place other : Place) (entry : Option Entry) :
    (files.set place entry).entryAt other = if other = place then entry else files.entryAt other :=
  rfl

/-- Follows the names of a path. Whatever is followed further has to be a directory. -/
def walk (files : FileSystem) : Place → List String → Option Place
  | here, [] => some here
  | here, name :: rest =>
      if ¬ files.isDirectoryAt here then none
      else if name = "" ∨ name = "." then files.walk here rest
      else if name = ".." then files.walk (outer here) rest
      else files.walk (here ++ [name]) rest

def names (path : List Char) : List String :=
  (Text.splitWhere (· = '/') path).map String.ofList

def place? (files : FileSystem) (path : String) : Option Place :=
  match path.toList with
  | [] => none
  | '/' :: rest => files.walk [] (names rest)
  | chars => files.walk files.workingDirectory (names chars)

def lookup? (files : FileSystem) (path : String) : Option Entry := do
  let place ← files.place? path
  if files.isDirectoryAt place then some .directory else files.entryAt place

def read? (files : FileSystem) (path : String) : Option Bytes :=
  match files.lookup? path with
  | some (.file content) => some content
  | _ => none

/-- Creates a file or replaces its content. A directory is not replaced. -/
def write? (files : FileSystem) (path : String) (content : Bytes) : Option FileSystem := do
  let place ← files.place? path
  if files.isDirectoryAt place then none else some (files.set place (some (.file content)))

/-- As much of a content, from its start, as there is room for under a path. -/
def fitting (files : FileSystem) (room : Room) (path : String) (content : Bytes) : Bytes :=
  match (files.place? path).bind room with
  | some size => content.take size
  | none => content

def create? (files : FileSystem) (path : String) (content : Bytes) : Option FileSystem :=
  if (files.lookup? path).isSome then none else files.write? path content

def remove (files : FileSystem) (path : String) : FileSystem :=
  match files.place? path, files.read? path with
  | some place, some _ => files.set place none
  | _, _ => files

def rename? (files : FileSystem) (source target : String) : Option FileSystem := do
  let content ← files.read? source
  let moved ← files.write? target content
  if files.place? source = files.place? target then some files else some (moved.remove source)

def makeAlong (files : FileSystem) : Place → List String → Option FileSystem
  | here, [] => if files.isDirectoryAt here then some files else none
  | here, name :: rest =>
      if ¬ files.isDirectoryAt here then none
      else if name = "" ∨ name = "." then files.makeAlong here rest
      else if name = ".." then files.makeAlong (outer here) rest
      else
        match files.entryAt (here ++ [name]) with
        | none => (files.set (here ++ [name]) (some .directory)).makeAlong (here ++ [name]) rest
        | some _ => files.makeAlong (here ++ [name]) rest

def makeDirectories? (files : FileSystem) (path : String) : Option FileSystem :=
  match path.toList with
  | '/' :: rest => files.makeAlong [] (names rest)
  | chars => files.makeAlong files.workingDirectory (names chars)

end FileSystem

/-- Drops slashes and single dots before the end of a path that is given from its end. -/
def trimReversed : List Char → List Char
  | ['/'] => ['/']
  | '/' :: rest => trimReversed rest
  | '.' :: '/' :: rest => trimReversed ('/' :: rest)
  | path => path
termination_by path => path.length

/-- The path of the directory that a path is in; empty for a single name. -/
def parentPath (path : String) : String :=
  let own := trimReversed path.toList.reverse
  String.ofList (trimReversed (own.dropWhile fun char => char ≠ '/')).reverse

end SealedContent.Program
