import SealedContent.Json.Value

/-!
JSON for readers: one item or field a line, two more blanks for each level.
-/

namespace SealedContent.Json.Value

def newLine (level : Nat) : List Char :=
  '\n' :: List.replicate (2 * level) ' '

mutual

def writePretty (level : Nat) : Value → List Char
  | .array [] => "[]".toList
  | .array (item :: rest) =>
      '[' :: newLine (level + 1) ++ writePretty (level + 1) item ++
        prettyItems (level + 1) rest ++ newLine level ++ [']']
  | .object [] => ['\x7b', '\x7d']
  | .object ((key, value) :: rest) =>
      '\x7b' :: newLine (level + 1) ++ writeString key ++ ": ".toList ++
        writePretty (level + 1) value ++ prettyFields (level + 1) rest ++ newLine level ++ ['\x7d']
  | other => other.write

def prettyItems (level : Nat) : List Value → List Char
  | [] => []
  | item :: rest => ',' :: newLine level ++ writePretty level item ++ prettyItems level rest

def prettyFields (level : Nat) : List (String × Value) → List Char
  | [] => []
  | (key, value) :: rest =>
      ',' :: newLine level ++ writeString key ++ ": ".toList ++ writePretty level value ++
        prettyFields level rest

end

def renderPretty (value : Value) : String :=
  String.ofList (writePretty 0 value)

end SealedContent.Json.Value
