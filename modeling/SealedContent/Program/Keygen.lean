import SealedContent.Bytes.Hex
import SealedContent.Program.Action

/-!
A new signing key for an issuer, in a file of its own.
-/

namespace SealedContent.Program.Action

variable {σ : Type}

def keyReport (path : String) (publicKey : Bytes) : String :=
  s!"Wrote issuer key to {path}\n" ++ s!"  public key: {publicKey.toHex}\n" ++
    "Set [identity].signing_key_file and issuer_did to use it.\n"

/-- Writes a key, in a directory that is made for it, but not over another file unless that is
forced. -/
def generateKey (surroundings : Surroundings σ) (path : String) (force : Bool) :
    Action σ String := do
  let parent := parentPath path
  if parent ≠ "" then
    during s!"creating {parent}" (changeFiles fun files => files.makeDirectories? parent)
  let secret := surroundings.issuerSecret
  let content := Bytes.ofText (secret.toHex ++ "\n")
  during s!"creating key file {path} (use --force to replace)"
    (changeFiles fun files => if force then files.write? path [] else files.create? path [])
  writeFile surroundings.room path content
  return keyReport path (surroundings.suite.signing.publicKey secret)

end SealedContent.Program.Action
