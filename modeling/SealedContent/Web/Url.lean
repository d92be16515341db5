import SealedContent.Web.Host

/-!
Addresses of the web. Reading is lenient about slashes, case, blanks and dots; what is kept is in
one normal form, and writing it is plain concatenation.
-/

namespace SealedContent.Web

inductive SchemeClass where
  /-- There is a host, and backslashes are slashes. -/
  | web
  | file
  | other
deriving DecidableEq

inductive UrlPath where
  | segments (list : List (List Char))
  /-- A path that does not start with a slash and is not divided. -/
  | verbatim (text : List Char)
deriving DecidableEq

def UrlPath.write : UrlPath → List Char
  | .segments list => list.flatMap fun segment => '/' :: segment
  | .verbatim text => text

structure Url where
  scheme : List Char
  user : List Char
  password : List Char
  host : Option Host
  port : Option Nat
  path : UrlPath
  query : Option (List Char)
  fragment : Option (List Char)
deriving DecidableEq

namespace Url

def schemeClass (scheme : List Char) : SchemeClass :=
  if ["http".toList, "https".toList, "ws".toList, "wss".toList, "ftp".toList].contains scheme then
    .web
  else if scheme = "file".toList then .file
  else .other

def defaultPort? (scheme : List Char) : Option Nat :=
  [("http".toList, 80), ("ws".toList, 80), ("https".toList, 443), ("wss".toList, 443),
    ("ftp".toList, 21)].lookup scheme

def isSlash (schemeClass : SchemeClass) (char : Char) : Bool :=
  char = '/' ∨ (char = '\\' ∧ schemeClass ≠ .other)

def startsTail (char : Char) : Bool :=
  char = '?' ∨ char = '#'

/-- Controls and blanks round an address do not count, nor do tabs and line ends within it. -/
def clean (text : List Char) : List Char :=
  let outer (char : Char) : Bool := char.toNat ≤ 0x20
  let trimmed := ((text.dropWhile outer).reverse.dropWhile outer).reverse
  trimmed.filter fun char => ¬ (char = '\t' ∨ char = '\n' ∨ char = '\r')

def isSchemeChar (char : Char) : Bool :=
  char.isAlphanum ∨ char = '+' ∨ char = '-' ∨ char = '.'

/-- A letter, more letters, digits and a few marks, and a colon. -/
def readScheme? (text : List Char) : Option (List Char × List Char) :=
  let (name, rest) := Text.breakAt (fun char => ¬ isSchemeChar char) text
  match name, rest with
  | first :: _, ':' :: after => if first.isAlpha then some (name.map Char.toLower, after) else none
  | _, _ => none

def isSingleDot (segment : List Char) : Bool :=
  let lower := segment.map Char.toLower
  lower = ".".toList ∨ lower = "%2e".toList

def isDoubleDot (segment : List Char) : Bool :=
  let lower := segment.map Char.toLower
  ["..".toList, ".%2e".toList, "%2e.".toList, "%2e%2e".toList].contains lower

/-- Resolves dots; the segments before are given last first. -/
def resolve (done : List (List Char)) : List (List Char) → List (List Char)
  | [] => done.reverse
  | segment :: rest =>
      let closed (kept : List (List Char)) := if rest.isEmpty then [] :: kept else kept
      if isDoubleDot segment then resolve (closed done.tail) rest
      else if isSingleDot segment then resolve (closed done) rest
      else resolve (segment :: done) rest

def readSegments (schemeClass : SchemeClass) (text : List Char) : UrlPath :=
  .segments (resolve []
    ((Text.splitWhere (isSlash schemeClass) text).map (Percent.encode Percent.inPath)))

def readPath (schemeClass : SchemeClass) (text : List Char) : UrlPath :=
  match text with
  | [] => if schemeClass = .other then .segments [] else .segments [[]]
  | first :: rest => readSegments schemeClass (if isSlash schemeClass first then rest else text)

def readTail (schemeClass : SchemeClass) (text : List Char) :
    Option (List Char) × Option (List Char) :=
  let (before, after) := Text.breakAt (· = '#') text
  let encoded := if schemeClass = .other then Percent.inQuery else Percent.inWebQuery
  let query := match before with
    | '?' :: query => some (Percent.encode encoded query)
    | _ => none
  let fragment := match after with
    | '#' :: fragment => some (Percent.encode Percent.inFragment fragment)
    | _ => none
  (query, fragment)

/-- A port, unless it is the scheme's own; nothing after the colon is no port. -/
def readPort? (scheme digits : List Char) : Option (Option Nat) :=
  if digits.isEmpty then some none
  else
    match Host.decimalValue? digits with
    | some port =>
        if 65536 ≤ port then none
        else some (if defaultPort? scheme = some port then none else some port)
    | none => none

/-- What stands before the colon of a port; a colon in brackets is part of the host. -/
def splitPort (inBrackets : Bool) : List Char → List Char × Option (List Char)
  | [] => ([], none)
  | char :: rest =>
      if char = ':' ∧ ¬ inBrackets then ([], some rest)
      else
        let inside := if char = '[' then true else if char = ']' then false else inBrackets
        let (host, port) := splitPort inside rest
        (char :: host, port)

def splitUser (text : List Char) : Option (List Char) × List Char :=
  let after := (text.reverse.takeWhile fun char => char ≠ '@').reverse
  if after.length = text.length then (none, text)
  else (some (text.take (text.length - after.length - 1)), after)

def readUser (text : List Char) : List Char × List Char :=
  let (name, rest) := Text.breakAt (· = ':') text
  (Percent.encode Percent.inUser name, Percent.encode Percent.inUser (rest.drop 1))

def readHost? (schemeClass : SchemeClass) (text : List Char) : Option Host :=
  if schemeClass = .other then Host.verbatim? text else Host.ofText? text

/-- Reads what follows the slashes before a host. Without a host there is no user and no port. -/
def readAuthority? (scheme text : List Char) : Option Url :=
  let schemeClass := schemeClass scheme
  let (authority, after) :=
    Text.breakAt (fun char => isSlash schemeClass char ∨ startsTail char) text
  let (credentials, address) := splitUser authority
  let (user, password) := (credentials.map readUser).getD ([], [])
  let (hostText, portText) := splitPort false address
  let (portDigits, beyond) := Text.breakAt (· = '\\') (portText.getD [])
  let claimsHost := portText.isSome ∨ user ≠ [] ∨ password ≠ [] ∨
    (credentials = some [] ∧ after ≠ [])
  if hostText = [] ∧ claimsHost then none
  else do
    let host ← readHost? schemeClass hostText
    let port ← readPort? scheme portDigits
    let (path, tail) := Text.breakAt startsTail (beyond ++ after)
    let (query, fragment) := readTail schemeClass tail
    return ⟨scheme, user, password, some host, port, readPath schemeClass path, query, fragment⟩

def isDriveLetter (text : List Char) : Bool :=
  match text with
  | [letter, mark] => letter.isAlpha ∧ (mark = ':' ∨ mark = '|')
  | _ => false

/-- An address of a file: a host stands after two slashes only. -/
def readFile? (scheme text : List Char) : Option Url :=
  let (slashes, rest) := Text.breakAt (fun char => ¬ isSlash .file char) text
  let (name, after) := Text.breakAt (fun char => isSlash .file char ∨ startsTail char) rest
  let hasHost := slashes.length = 2 ∧ name ≠ [] ∧ ¬ isDriveLetter name
  let (path, tail) := Text.breakAt startsTail (if hasHost then after else rest)
  let (query, fragment) := readTail .file tail
  let build (host : Option Host) : Url :=
    ⟨scheme, [], [], host, none, readPath .file path, query, fragment⟩
  if hasHost then (Host.ofText? name).map fun host => build (some host) else some (build none)

/-- An address without a host: its path is divided if it starts with a slash. -/
def readPlain (scheme text : List Char) : Url :=
  let (path, tail) := Text.breakAt startsTail text
  let (query, fragment) := readTail .other tail
  let read := match path with
    | '/' :: rest => readSegments .other rest
    | _ => .verbatim (Percent.encode Percent.inControls path)
  ⟨scheme, [], [], none, none, read, query, fragment⟩

def ofText? (text : String) : Option Url := do
  let (scheme, rest) ← readScheme? (clean text.toList)
  match schemeClass scheme with
  | .web => readAuthority? scheme (rest.dropWhile (isSlash .web))
  | .file => readFile? scheme rest
  | .other =>
      match rest with
      | '/' :: '/' :: after => readAuthority? scheme after
      | _ => some (readPlain scheme rest)

/-- The segments of a base address that a relative one keeps. -/
def directory (base : Url) : List (List Char) :=
  match base.path with
  | .segments list => list.dropLast
  | .verbatim _ => []

/-- An address of the web as it is written in a document at the base address. -/
def join? (base : Url) (text : String) : Option Url :=
  let cleaned := clean text.toList
  let relative (rest : List Char) : Option Url :=
    let slashes := (rest.takeWhile (isSlash .web)).length
    if 2 ≤ slashes then readAuthority? base.scheme (rest.dropWhile (isSlash .web))
    else
      let (path, tail) := Text.breakAt startsTail rest
      let (query, fragment) := readTail .web tail
      let resolved : UrlPath :=
        if path = [] then base.path
        else if slashes = 1 then readPath .web path
        else .segments (resolve base.directory.reverse
          ((Text.splitWhere (isSlash .web) path).map (Percent.encode Percent.inPath)))
      let kept := if path = [] ∧ query.isNone then base.query else query
      some { base with path := resolved, query := kept, fragment := fragment }
  match readScheme? cleaned with
  | none => relative cleaned
  | some (scheme, rest) =>
      if scheme = base.scheme ∧ (rest.takeWhile (isSlash .web)).length < 2 then relative rest
      else ofText? text

def writeUser (url : Url) : List Char :=
  if url.user.isEmpty ∧ url.password.isEmpty then []
  else url.user ++ (if url.password.isEmpty then [] else ':' :: url.password) ++ ['@']

def writePort (url : Url) : List Char :=
  match url.port with
  | some port => ':' :: (toString port).toList
  | none => []

def writeAuthority (url : Url) : List Char :=
  match url.host with
  | some host => "//".toList ++ url.writeUser ++ host.write ++ url.writePort
  | none => if url.scheme = "file".toList then "//".toList else []

def writeQuery (url : Url) : List Char :=
  match url.query with
  | some query => '?' :: query
  | none => []

def writeFragment (url : Url) : List Char :=
  match url.fragment with
  | some fragment => '#' :: fragment
  | none => []

def write (url : Url) : List Char :=
  url.scheme ++ ':' :: url.writeAuthority ++ url.path.write ++ url.writeQuery ++
    url.writeFragment

def toText (url : Url) : String :=
  String.ofList url.write

def target (url : Url) : String :=
  String.ofList (url.path.write ++ url.writeQuery)

end Url

end SealedContent.Web
