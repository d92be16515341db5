import SealedContent.Bytes.Hex
import SealedContent.Config.HomePath
import SealedContent.Custody.Wrap
import SealedContent.Program.Action

/-!
On whose behalf a task runs: the issuer of invocations with its signing key, and the proofs that the
issuer holds. Both stand in files that the settings name.
-/

namespace SealedContent.Program

open Custody (Issuer Requester)

def proofsOfText (text : String) : List String :=
  let lines := (Text.splitWhere (· = '\n') text.toList).map Text.trimChars
  (lines.filter fun line => line ≠ [] ∧ line.head? ≠ some '#').map String.ofList

namespace Action

variable {σ : Type}

def issuer (surroundings : Surroundings σ) (identity : Config.Identity) :
    Action σ (Option Issuer) := do
  match identity.issuerDid, identity.signingKeyFile with
  | some did, some keyFile =>
      let path := Config.expandHome surroundings.home keyFile
      let text ← during s!"reading signing key: {path}" (readText path)
      match Bytes.ofHex? (Text.trim text) with
      | none => throw (s!"signing key is not hex: {path}" :: Trouble.system)
      | some secret =>
          return some (← during s!"loading signing key: {path}"
            (ofResult Trouble.ofCustody (Issuer.ofSecret did secret)))
  | _, _ => return none

def proofs (surroundings : Surroundings σ) (identity : Config.Identity) :
    Action σ (List String) := do
  match identity.proofFile with
  | none => return []
  | some proofFile =>
      let path := Config.expandHome surroundings.home proofFile
      return proofsOfText (← during s!"reading proofs: {path}" (readText path))

def requester (surroundings : Surroundings σ) (identity : Config.Identity)
    (space : Option String) : Action σ Requester := do
  let issuer ← issuer surroundings identity
  let proofs ← proofs surroundings identity
  return ⟨space, issuer, proofs⟩

end Action

end SealedContent.Program
