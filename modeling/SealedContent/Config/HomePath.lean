/-!
Paths under the home directory, written with a tilde.
-/

namespace SealedContent.Config

/-- A path followed from a directory: an absolute path replaces the directory. -/
def joinPath (directory path : List Char) : List Char :=
  if path.head? = some '/' then path
  else if directory.isEmpty ∨ directory.getLast? = some '/' then directory ++ path
  else directory ++ '/' :: path

/-- Replaces a leading `~/` by the home directory. -/
def expandHome (home path : String) : String :=
  match path.toList with
  | '~' :: '/' :: rest => String.ofList (joinPath home.toList rest)
  | _ => path

end SealedContent.Config
