import SealedContent.Custody.Adapter
import SealedContent.Proofs.Custody.Call

/-!
What custodians are asked. Under observation the far side of a custodian answers as before, and its
state keeps, beside its own, every call that was made. A wrap or an unwrap is refused before any call,
or it makes one call, and this decides on its outcome.
-/

namespace SealedContent.Custody

open Cipher (KeyMaterial)
open Record (AccessCondition Metadata)

variable {σ : Type}

inductive Call where
  | invoke (signed : SignedInvocation)
  | encrypt (plaintext : Bytes) (conditions : List AccessCondition)
  | release (request : ReleaseRequest)

/-- The invocation that goes along with a call; keys are given to a network to encrypt without one. -/
def Call.invocation? : Call → Option SignedInvocation
  | .invoke signed => some signed
  | .encrypt _ _ => none
  | .release request => some request.invocation

def Peer.observed (peer : Peer σ) : Peer (σ × List Call) := fun signed state =>
  let reply := peer signed state.1
  (reply.1, reply.2, state.2 ++ [.invoke signed])

def ThresholdNetwork.observed (network : ThresholdNetwork σ) :
    ThresholdNetwork (σ × List Call) where
  did := network.did
  encrypt plaintext conditions state :=
    let reply := network.encrypt plaintext conditions state.1
    (reply.1, reply.2, state.2 ++ [.encrypt plaintext conditions])
  release request state :=
    let reply := network.release request state.1
    (reply.1, reply.2, state.2 ++ [.release request])

namespace Custodian

def observed : Custodian σ → Custodian (σ × List Call)
  | .keyService service peer => .keyService service peer.observed
  | .threshold network => .threshold network.observed

def neededToWrap : Custodian σ → List String
  | .keyService _ _ => ["space", "issuer"]
  | .threshold _ => ["space"]

end Custodian

namespace Requester

/-- What a requester can fail to bring, by the name that errors give it. -/
def Lacks (requester : Requester) : String → Prop
  | "space" => ∀ space, requester.space = some space → Text.onlyBlank space = true
  | "delegation" => requester.proofs = []
  | "issuer" => requester.issuer = none
  | _ => False

/-- Exactly those of the needed things that the requester lacks, in the order in which they are
needed. -/
structure Misses (requester : Requester) (needed missing : List String) : Prop where
  ordered : missing.Sublist needed
  mem_iff : ∀ name ∈ needed, name ∈ missing ↔ requester.Lacks name

variable {requester : Requester}

theorem namedSpace?_eq_none_iff : requester.namedSpace? = none ↔
    ∀ space, requester.space = some space → Text.onlyBlank space = true := by
  rw [namedSpace?, Option.filter_eq_none_iff]
  simp

theorem lacks_space_iff : requester.Lacks "space" ↔ requester.namedSpace? = none :=
  namedSpace?_eq_none_iff.symm

theorem lacks_delegation_iff : requester.Lacks "delegation" ↔ requester.proofs = [] := Iff.rfl

theorem lacks_issuer_iff : requester.Lacks "issuer" ↔ requester.issuer = none := Iff.rfl

theorem misses_missing :
    requester.Misses ["space", "delegation", "issuer"] requester.missing := by
  have proofs : requester.proofs.isEmpty = true ↔ requester.proofs = [] := List.isEmpty_iff
  constructor
  · rw [missing]
    split <;> split <;> split <;> decide
  · simp only [List.forall_mem_cons, lacks_space_iff, lacks_delegation_iff, lacks_issuer_iff]
    rw [missing]
    split <;> split <;> split <;> simp_all

theorem authority_of_missing (incomplete : requester.missing ≠ []) :
    requester.authority = .error (.missingParameters requester.missing) := by
  rw [authority]
  split
  · contradiction
  · rfl

theorem exists_authority (complete : requester.missing = []) :
    ∃ space issuer, requester.issuer = some issuer ∧
      requester.authority = .ok (space, issuer) := by
  have named : requester.namedSpace? ≠ none := by
    intro absent
    simp [missing, absent] at complete
  have signed : requester.issuer ≠ none := by
    intro absent
    simp [missing, absent] at complete
  obtain ⟨space, named⟩ := Option.ne_none_iff_exists'.mp named
  obtain ⟨issuer, signed⟩ := Option.ne_none_iff_exists'.mp signed
  refine ⟨space, issuer, signed, ?_⟩
  rw [authority, complete, named, signed]

theorem exists_named (requester : Requester) :
    ∃ missing, requester.Misses ["space"] missing ∧
      (missing ≠ [] → missing = ["space"] ∧ requester.namedSpace? = none) ∧
      (missing = [] → ∃ space, requester.namedSpace? = some space) := by
  cases named : requester.namedSpace? with
  | none =>
      refine ⟨["space"], ⟨.refl _, ?_⟩, fun _ => ⟨rfl, rfl⟩, fun impossible => by simp at impossible⟩
      simp [lacks_space_iff, named]
  | some space =>
      refine ⟨[], ⟨by decide, ?_⟩, fun impossible => absurd rfl impossible, fun _ => ⟨space, rfl⟩⟩
      simp [lacks_space_iff, named]

/-- What the identity of a requester lacks is told; an identity that lacks nothing is given. -/
theorem exists_identity (requester : Requester) :
    ∃ missing, requester.Misses ["space", "issuer"] missing ∧
      (missing ≠ [] → requester.identity = .error (.missingParameters missing)) ∧
      (missing = [] → ∃ space issuer, requester.issuer = some issuer ∧
        requester.identity = .ok (space, issuer)) := by
  have misses (missing : List String) (ordered : missing.Sublist ["space", "issuer"])
      (space : "space" ∈ missing ↔ requester.namedSpace? = none)
      (issuer : "issuer" ∈ missing ↔ requester.issuer = none) :
      requester.Misses ["space", "issuer"] missing := by
    refine ⟨ordered, ?_⟩
    simp only [List.forall_mem_cons, lacks_space_iff, lacks_issuer_iff]
    exact ⟨space, issuer, fun _ impossible => absurd impossible List.not_mem_nil⟩
  rw [identity]
  cases named : requester.namedSpace? with
  | none =>
      cases signed : requester.issuer with
      | none =>
          exact ⟨["space", "issuer"], misses _ (.refl _) (by simp [named]) (by simp [signed]),
            fun _ => rfl, fun impossible => absurd impossible (by simp)⟩
      | some issuer =>
          exact ⟨["space"], misses _ (by decide) (by simp [named]) (by simp [signed]),
            fun _ => rfl, fun impossible => absurd impossible (by simp)⟩
  | some space =>
      cases signed : requester.issuer with
      | none =>
          exact ⟨["issuer"], misses _ (by decide) (by simp [named]) (by simp [signed]),
            fun _ => rfl, fun impossible => absurd impossible (by simp)⟩
      | some issuer =>
          exact ⟨[], misses _ (by decide) (by simp [named]) (by simp [signed]),
            fun impossible => absurd rfl impossible, fun _ => ⟨space, issuer, rfl, rfl⟩⟩

end Requester

namespace Custodian

variable {suite : Suite} {moment : Moment} {encryptedKey : String} {metadata : Metadata}
  {requester : Requester}

theorem unwrap_of_refused {error : CustodyError} (refused : requester.authority = .error error)
    (custodian : Custodian σ) (state : σ) :
    custodian.unwrap suite moment encryptedKey metadata requester state = (.error error, state) := by
  cases custodian with
  | keyService service peer => rw [unwrap, KeyService.unwrap, refused]
  | threshold network => rw [unwrap, ThresholdNetwork.unwrap, refused]

theorem unwrap_of_other_kind {granted : String × Issuer}
    (authorized : requester.authority = .ok granted) (custodian : Custodian σ)
    (other : metadata.kind ≠ custodian.kind) (state : σ) :
    custodian.unwrap suite moment encryptedKey metadata requester state =
      (.error (.strategyMismatch custodian.kind metadata.kind), state) := by
  cases custodian with
  | keyService service peer =>
      cases metadata with
      | service fields => exact absurd rfl other
      | threshold fields =>
          rw [unwrap, KeyService.unwrap, authorized]
          rfl
  | threshold network =>
      cases metadata with
      | service fields =>
          rw [unwrap, ThresholdNetwork.unwrap, authorized]
          rfl
      | threshold fields => exact absurd rfl other

end Custodian

end SealedContent.Custody
