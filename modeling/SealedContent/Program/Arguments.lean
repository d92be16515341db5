/-!
Command lines. An option has a name and perhaps a letter; it stands alone or takes a value, which is
attached to it or follows it. All other arguments are operands.
-/

namespace SealedContent.Program

/-- Which values an option or an operand admits. -/
inductive ValueRule where
  | text
  | path
  | oneOf (names : List String)

def ValueRule.admits : ValueRule → String → Bool
  | .text, _ => true
  | .path, value => value ≠ ""
  | .oneOf names, value => names.contains value

inductive Interruption where
  | misuse
  | help
  | version
deriving DecidableEq

inductive OptionEffect where
  | flag
  | value (rule : ValueRule)
  | interrupt (interruption : Interruption)

structure OptionRule where
  name : String
  letter : Option Char
  effect : OptionEffect

structure Given where
  options : List (String × String)
  operands : List String

namespace Given

def empty : Given := ⟨[], []⟩

def add (given : Given) (name value : String) : Except Interruption Given :=
  if (given.options.lookup name).isSome then .error .misuse
  else .ok { given with options := (name, value) :: given.options }

def addChecked (given : Given) (name : String) (rule : ValueRule) (value : String) :
    Except Interruption Given :=
  if rule.admits value then given.add name value else .error .misuse

def required (given : Given) (name : String) : Except Interruption String :=
  match given.options.lookup name with
  | some value => .ok value
  | none => .error .misuse

end Given

structure Waiting where
  name : String
  rule : ValueRule

def readNamed (rules : List OptionRule) (given : Given) (name : String)
    (attached : Option String) : Except Interruption (Given × Option Waiting) :=
  match rules.find? fun rule => rule.name = name with
  | none => .error .misuse
  | some rule =>
      match rule.effect, attached with
      | .interrupt interruption, none => .error interruption
      | .flag, none => (given.add name "").map fun given => (given, none)
      | .value values, none => .ok (given, some ⟨name, values⟩)
      | .value values, some value =>
          (given.addChecked name values value).map fun given => (given, none)
      | _, some _ => .error .misuse

/-- Reads options that are called by their letters. What follows the letter of an option that takes
a value is that value. -/
def readLetters (rules : List OptionRule) (given : Given) :
    List Char → Except Interruption (Given × Option Waiting)
  | [] => .ok (given, none)
  | letter :: rest =>
      match rules.find? fun rule => rule.letter = some letter with
      | none => .error .misuse
      | some rule =>
          match rule.effect, rest with
          | .interrupt interruption, _ => .error interruption
          | .flag, _ =>
              match given.add rule.name "" with
              | .error interruption => .error interruption
              | .ok given => readLetters rules given rest
          | .value values, [] => .ok (given, some ⟨rule.name, values⟩)
          | .value values, '=' :: value =>
              (given.addChecked rule.name values (String.ofList value)).map (·, none)
          | .value values, value =>
              (given.addChecked rule.name values (String.ofList value)).map (·, none)

/-- How an argument reads on its own. -/
inductive Argument where
  | operand
  | named (name : String) (attached : Option String)
  | letters (letters : List Char)
  /-- Everything after it is an operand. -/
  | divider
deriving DecidableEq

def Argument.ofText (text : String) : Argument :=
  match text.toList with
  | ['-', '-'] => .divider
  | '-' :: '-' :: rest =>
      let name := rest.takeWhile (· ≠ '=')
      match rest.dropWhile (· ≠ '=') with
      | [] => .named (String.ofList name) none
      | _ :: value => .named (String.ofList name) (some (String.ofList value))
  | '-' :: letter :: rest => .letters (letter :: rest)
  | _ => .operand

/-- Reads options. Operands are collected among them, or else the first one ends the reading and is
given back with what follows it. -/
def scan (rules : List OptionRule) (collects : Bool) (given : Given) :
    List String → Except Interruption (Given × List String)
  | [] => .ok (given, [])
  | argument :: rest =>
      let continueWith (read : Except Interruption (Given × Option Waiting)) :
          Except Interruption (Given × List String) :=
        match read with
        | .error interruption => .error interruption
        | .ok (given, none) => scan rules collects given rest
        | .ok (given, some waiting) =>
            match rest with
            | [] => .error .misuse
            | value :: rest =>
                if Argument.ofText value ≠ .operand then .error .misuse
                else
                  match given.addChecked waiting.name waiting.rule value with
                  | .error interruption => .error interruption
                  | .ok given => scan rules collects given rest
      match Argument.ofText argument with
      | .named name attached => continueWith (readNamed rules given name attached)
      | .letters letters => continueWith (readLetters rules given letters)
      | .operand =>
          if collects then
            scan rules collects { given with operands := given.operands ++ [argument] } rest
          else .ok (given, argument :: rest)
      | .divider =>
          if collects then .ok ({ given with operands := given.operands ++ rest }, [])
          else .error .misuse

end SealedContent.Program
