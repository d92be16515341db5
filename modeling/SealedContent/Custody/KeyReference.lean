import SealedContent.Custody.Error
import SealedContent.Encoding.Base64
import SealedContent.Text.Blank

/-!
How references to keys travel, and how a space names its key.
-/

namespace SealedContent.Custody.KeyReference

def encode (reference : String) : String :=
  String.ofList (Encoding.base64Url.encode (Bytes.ofText reference))

/-- White space round the text is ignored. -/
def decode (text : String) : Except CustodyError String :=
  match (Encoding.base64Url.decode? (Text.trimChars text.toList)).bind Bytes.toText? with
  | some reference => .ok reference
  | none => .error .invalidKeyReference

/-- The name of a space's key: its identity without the method before it. -/
def keyIdOfSpace (space : String) : String :=
  let method := "did:key:".toList
  let chars := space.toList
  if chars.take method.length = method then String.ofList (chars.drop method.length) else space

end SealedContent.Custody.KeyReference
