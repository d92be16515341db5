import SealedContent.Hash.Sha256

/-!
Keyed hashes, and keys derived from secrets with them.
-/

namespace SealedContent.Hash

def hmacBlock (key : Bytes) : Bytes :=
  let short := if 64 < key.length then sha256 key else key
  short ++ List.replicate (64 - short.length) 0

def hmacSha256 (key message : Bytes) : Bytes :=
  let block := hmacBlock key
  let inner := sha256 (block.map (fun byte => byte ^^^ 0x36) ++ message)
  sha256 (block.map (fun byte => byte ^^^ 0x5C) ++ inner)

/-- A key of 32 bytes from a secret, bound to a salt and to a purpose. -/
def deriveKey (salt secret purpose : Bytes) : Bytes :=
  hmacSha256 (hmacSha256 salt secret) (purpose ++ [1])

theorem length_hmacSha256 (key message : Bytes) : (hmacSha256 key message).length = 32 :=
  length_sha256 _

end SealedContent.Hash
