import SealedContent.Program.Identity
import SealedContent.Proofs.Program.Action

/-!
Identities that stand complete: the settings name an issuer and two files, one with its signing key in
hex and one with proofs.
-/

namespace SealedContent.Program

open Config (expandHome)
open Custody (Issuer Requester)

/-- What the settings name of an identity, and what the files hold of it. -/
structure HoldsIdentity (home : String) (files : FileSystem) (identity : Config.Identity)
    (issuer : Issuer) (proofs : List String) : Prop where
  issuerDid : identity.issuerDid = some issuer.did
  signingKey : ∃ name text, identity.signingKeyFile = some name ∧
    files.read? (expandHome home name) = some (Bytes.ofText text) ∧
    Bytes.ofHex? (Text.trim text) = some issuer.secret
  proofs : ∃ name text, identity.proofFile = some name ∧
    files.read? (expandHome home name) = some (Bytes.ofText text) ∧ proofsOfText text = proofs

/-- Only what is read under the two names matters. -/
theorem HoldsIdentity.congr {home : String} {files others : FileSystem} {identity : Config.Identity}
    {issuer : Issuer} {proofs : List String}
    (holds : HoldsIdentity home files identity issuer proofs)
    (same : ∀ name, some name = identity.signingKeyFile ∨ some name = identity.proofFile →
      others.read? (expandHome home name) = files.read? (expandHome home name)) :
    HoldsIdentity home others identity issuer proofs := by
  obtain ⟨keyName, keyText, key, readKey, spelled⟩ := holds.signingKey
  obtain ⟨proofName, proofText, proof, readProof, listed⟩ := holds.proofs
  exact ⟨holds.issuerDid,
    ⟨keyName, keyText, key, (same keyName (.inl key.symm)).trans readKey, spelled⟩,
    ⟨proofName, proofText, proof, (same proofName (.inr proof.symm)).trans readProof, listed⟩⟩

namespace Action

variable {σ : Type} {surroundings : Surroundings σ} {world : World σ} {identity : Config.Identity}
  {issuer : Issuer} {proofs : List String}

theorem issuer_of_holds
    (holds : HoldsIdentity surroundings.home world.files identity issuer proofs) :
    Action.issuer surroundings identity world = .ok (some issuer) world := by
  obtain ⟨name, text, named, read, spelled⟩ := holds.signingKey
  have loaded : Issuer.ofSecret issuer.did issuer.secret = .ok issuer := by
    rw [Issuer.ofSecret, dif_pos issuer.length_secret]
  have opened := during_of_ok s!"reading signing key: {expandHome surroundings.home name}"
    (readText_of_read? read (Bytes.toText?_ofText text))
  rw [Action.issuer, holds.issuerDid, named]
  dsimp only
  rw [bind_of_ok opened, spelled]
  dsimp only
  rw [loaded]
  rfl

theorem proofs_of_holds
    (holds : HoldsIdentity surroundings.home world.files identity issuer proofs) :
    Action.proofs surroundings identity world = .ok proofs world := by
  obtain ⟨name, text, named, read, rfl⟩ := holds.proofs
  have opened := during_of_ok s!"reading proofs: {expandHome surroundings.home name}"
    (readText_of_read? read (Bytes.toText?_ofText text))
  rw [Action.proofs, named]
  dsimp only
  rw [bind_of_ok opened]
  rfl

theorem requester_of_holds
    (holds : HoldsIdentity surroundings.home world.files identity issuer proofs)
    (space : Option String) :
    requester surroundings identity space world = .ok ⟨space, some issuer, proofs⟩ world := by
  rw [requester, bind_of_ok (issuer_of_holds holds), bind_of_ok (proofs_of_holds holds)]
  rfl

end Action

end SealedContent.Program
