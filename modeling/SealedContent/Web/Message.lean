import SealedContent.Bytes.Hex
import SealedContent.Text.Blank
import SealedContent.Web.Exchange

/-!
Requests and replies as they travel: a first line, named fields on lines of their own, an empty line
and a body. The fields tell how long the body is, or that it comes in chunks.
-/

namespace SealedContent.Web.Message

open Text (splitWhere)

def lineEnd : List Char := ['\r', '\n']

def requestFields (request : Request) : List (String × String) :=
  let host := (request.url.host.map Host.write).getD [] ++ request.url.writePort
  [("Host", String.ofList host), ("Accept", "*/*"), ("Connection", "close")] ++
    request.contentType.toList.map (fun name => ("Content-Type", name)) ++
      if request.body.isEmpty then [] else [("Content-Length", toString request.body.length)]

def ofRequest (request : Request) : Bytes :=
  let lines := s!"{request.line} HTTP/1.1" ::
    (requestFields request).map fun (name, value) => s!"{name}: {value}"
  Bytes.ofText (String.ofList ((lines.flatMap fun line => line.toList ++ lineEnd) ++ lineEnd)) ++
    request.body

def readLine? : Bytes → Option (List Char × Bytes)
  | [] => none
  | 0x0A :: rest => some ([], rest)
  | 0x0D :: 0x0A :: rest => some ([], rest)
  | byte :: rest => (readLine? rest).map fun (line, after) => (Char.ofNat byte.toNat :: line, after)

/-- The lines before the empty one. The count bounds how many there may be. -/
def readLines? : Nat → Bytes → Option (List (List Char) × Bytes)
  | 0, _ => none
  | count + 1, input => do
      let (line, rest) ← readLine? input
      if line.isEmpty then return ([], rest)
      let (lines, after) ← readLines? count rest
      return (line :: lines, after)

def readField (line : List Char) : String × String :=
  let (name, value) := Text.breakAt (· = ':') line
  (String.ofList (name.map Char.toLower), String.ofList (Text.trimChars (value.drop 1)))

def readStatus? (line : List Char) : Option Nat :=
  match splitWhere (· = ' ') line with
  | _ :: status :: _ => (String.ofList status).toNat?
  | _ => none

/-- The length at the start of a chunk; what follows a semicolon does not count. -/
def chunkLength? (line : List Char) : Option Nat :=
  let digits := Text.trimChars (line.takeWhile (· ≠ ';'))
  if digits.isEmpty then none
  else (digits.mapM Bytes.hexValue?).map fun values =>
    values.foldl (fun length value => length * 16 + value) 0

/-- The chunks of a body, and whether the last of them has come. The count bounds their number. -/
def readChunks : Nat → Bytes → List Bytes × Bool
  | 0, _ => ([], false)
  | count + 1, input =>
      match readLine? input with
      | none => ([], false)
      | some (line, rest) =>
          match chunkLength? line with
          | none => ([], false)
          | some 0 => ([], true)
          | some length =>
              if rest.length < length then ([rest], false)
              else
                match readLine? (rest.drop length) with
                | some ([], after) =>
                    let (chunks, isComplete) := readChunks count after
                    (rest.take length :: chunks, isComplete)
                | _ => ([rest.take length], false)

def toReply? (bytes : Bytes) : Option Reply := do
  let (lines, body) ← readLines? bytes.length bytes
  let status ← readStatus? (lines.headD [])
  let fields := lines.tail.map readField
  let location := fields.lookup "location"
  if (fields.lookup "transfer-encoding").any fun coding => coding.toLower = "chunked" then
    let (chunks, isComplete) := readChunks body.length body
    return ⟨status, location, none, chunks, isComplete⟩
  else
    match (fields.lookup "content-length").bind String.toNat? with
    | some length => return ⟨status, location, some length, [body.take length], length ≤ body.length⟩
    | none => return ⟨status, location, none, [body], true⟩

end SealedContent.Web.Message
