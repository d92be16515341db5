import SealedContent.Proofs.Record.RoundTrip
import SealedContent.Proofs.Retrieval.Download

/-!
What a gateway can make a client accept: exactly the archive that was asked for, whole and within
the limit. A reply that keeps the limit but holds anything else fails verification, and one that
passes the limit is cut off at the first length beyond it. For a name that cannot be read nothing is
sent.
-/

namespace SealedContent.Retrieval

open Bytes (startOf)
open Content (Archive Cid sha256Code verifyBlock_eq_ok_iff)
open Record.Metadata (keyServiceRecord)
open Web (Reply Request Transport Url)

/-- The bytes are an archive with one root and one block, both the expected one, and the data of that
block has the hash that its identifier records. -/
def IsArchiveOf (cid : Cid) (bytes : Bytes) : Prop :=
  ∃ data, Archive.decode bytes = .ok ⟨cid, [⟨cid, data⟩]⟩ ∧
    cid.hash.code = sha256Code ∧ cid.hash.digest = Hash.sha256 data

theorem isArchiveOf_of_bounded {record : Record.Metadata}
    (bounded : record.toBlock.data.length < 2 ^ 63) :
    IsArchiveOf record.toBlock.cid record.shipped.encode :=
  ⟨_, Record.Metadata.decode_shipped bounded,
    verifyBlock_eq_ok_iff.mp (Content.verifyBlock_ofData _ _)⟩

theorem verifyArchive_of_isArchiveOf {cid : Cid} {bytes : Bytes} (asked : IsArchiveOf cid bytes) :
    verifyArchive cid bytes = .ok () := by
  obtain ⟨data, decoded, hashed⟩ := asked
  have verified := verifyBlock_eq_ok_iff.mpr hashed
  simp only [verifyArchive, decoded, ne_eq, not_true_eq_false, if_false, if_true, verified]

theorem verifyArchive_refused {cid : Cid} {bytes : Bytes} (other : ¬ IsArchiveOf cid bytes) :
    ∃ fault, verifyArchive cid bytes = .error (.unverified cid fault) := by
  rw [verifyArchive]
  cases decoded : Archive.decode bytes with
  | error fault => exact ⟨_, rfl⟩
  | ok archive =>
      obtain ⟨root, blocks⟩ := archive
      dsimp only
      by_cases rooted : root = cid
      · subst rooted
        rw [if_neg (not_not_intro rfl)]
        rcases blocks with _ | ⟨block, _ | ⟨second, rest⟩⟩
        · exact ⟨_, rfl⟩
        · obtain ⟨name, data⟩ := block
          dsimp only
          by_cases named : name = root
          · subst named
            rw [if_pos rfl]
            cases verified : Content.verifyBlock name data with
            | error fault => exact ⟨_, rfl⟩
            | ok => exact absurd ⟨data, decoded, verifyBlock_eq_ok_iff.mp verified⟩ other
          · rw [if_neg named]
            exact ⟨_, rfl⟩
        · exact ⟨_, rfl⟩
      · rw [if_pos rooted]
        exact ⟨_, rfl⟩

theorem verifyArchive_eq_ok_iff {cid : Cid} {bytes : Bytes} :
    verifyArchive cid bytes = .ok () ↔ IsArchiveOf cid bytes := by
  constructor
  · intro verified
    by_contra other
    obtain ⟨fault, refused⟩ := verifyArchive_refused other
    cases verified.symm.trans refused
  · exact verifyArchive_of_isArchiveOf

/-- A successful reply whose whole body arrived and kept the limit, as announced and as it came. -/
structure Delivers (limit : Nat) (reply : Reply) (bytes : Bytes) : Prop where
  success : 200 ≤ reply.status ∧ reply.status < 300
  declared : DeclaredWithin limit reply
  complete : reply.isComplete
  within : reply.chunks.flatten.length ≤ limit
  joined : bytes = reply.chunks.flatten

theorem delivers_iff {limit : Nat} {reply : Reply} {bytes : Bytes} :
    Delivers limit reply bytes ↔ reply.isSuccess ∧ download limit reply = .ok bytes := by
  rw [download_eq_ok_iff, Reply.isSuccess, decide_eq_true_eq]
  constructor
  · rintro ⟨success, declared, complete, within, joined⟩
    exact ⟨success, declared, complete, within, joined⟩
  · rintro ⟨success, declared, complete, within, joined⟩
    exact ⟨success, declared, complete, within, joined⟩

namespace Gateway

variable {gateway : Gateway} {cid : Cid} {reply : Reply}

theorem accept_of_success (success : reply.isSuccess) :
    gateway.accept cid reply =
      (download gateway.maxResponseBytes reply).bind fun bytes =>
        (verifyArchive cid bytes).map fun _ => bytes := by
  rw [accept, if_neg (not_not_intro success)]
  rfl

theorem accept_eq_ok_iff {bytes : Bytes} :
    gateway.accept cid reply = .ok bytes ↔
      Delivers gateway.maxResponseBytes reply bytes ∧ IsArchiveOf cid bytes := by
  rw [delivers_iff, ← verifyArchive_eq_ok_iff]
  constructor
  · intro accepted
    by_cases success : reply.isSuccess
    · rw [accept_of_success success] at accepted
      cases downloaded : download gateway.maxResponseBytes reply with
      | error fault =>
          rw [downloaded] at accepted
          cases accepted
      | ok body =>
          rw [downloaded, Except.bind] at accepted
          cases verified : verifyArchive cid body with
          | error fault =>
              rw [verified] at accepted
              cases accepted
          | ok =>
              rw [verified] at accepted
              cases accepted
              exact ⟨⟨success, rfl⟩, verified⟩
    · rw [accept, if_pos success] at accepted
      cases accepted
  · rintro ⟨⟨success, downloaded⟩, verified⟩
    rw [accept_of_success success, downloaded, Except.bind, verified]
    rfl

theorem accept_unverified {bytes : Bytes} (delivers : Delivers gateway.maxResponseBytes reply bytes)
    (other : ¬ IsArchiveOf cid bytes) :
    ∃ fault, gateway.accept cid reply = .error (.unverified cid fault) := by
  obtain ⟨success, downloaded⟩ := delivers_iff.mp delivers
  obtain ⟨fault, refused⟩ := verifyArchive_refused other
  refine ⟨fault, ?_⟩
  rw [accept_of_success success, downloaded, Except.bind, refused]
  rfl

theorem accept_tooLarge {size limit : Nat} (success : reply.isSuccess)
    (stopped : download gateway.maxResponseBytes reply = .error (.tooLarge size limit)) :
    gateway.accept cid reply = .error (.tooLarge size limit) := by
  rw [accept_of_success success, stopped]
  rfl

section Fetch

variable {σ : Type} {transport : Transport σ} {name : String} {state after : σ}

/-- The request for a block gets a reply, and leaves the far side in another state. -/
def Answers (gateway : Gateway) (transport : Transport σ) (cid : Cid) (state : σ) (reply : Reply)
    (after : σ) : Prop :=
  ∃ url, Url.ofText? (gateway.blockAddress cid) = some url ∧
    transport.send (Request.get url) state = (some reply, after)

theorem fetch_of_answers (parsed : Cid.parse name = .ok cid)
    (answers : gateway.Answers transport cid state reply after) :
    gateway.fetch transport name state = (gateway.accept cid reply, after) := by
  obtain ⟨url, addressed, sent⟩ := answers
  rw [fetch, parsed]
  dsimp only
  rw [addressed]
  dsimp only
  rw [sent]

theorem exists_answers_of_fetch {bytes : Bytes}
    (fetched : gateway.fetch transport name state = (.ok bytes, after)) :
    ∃ cid reply, Cid.parse name = .ok cid ∧ gateway.Answers transport cid state reply after ∧
      gateway.accept cid reply = .ok bytes := by
  rw [fetch] at fetched
  cases parsed : Cid.parse name with
  | error fault =>
      rw [parsed] at fetched
      cases fetched
  | ok cid =>
      rw [parsed] at fetched
      dsimp only at fetched
      cases addressed : Url.ofText? (gateway.blockAddress cid) with
      | none =>
          rw [addressed] at fetched
          cases fetched
      | some url =>
          rw [addressed] at fetched
          dsimp only at fetched
          rcases sent : transport.send (Request.get url) state with ⟨_ | reply, left⟩
          · rw [sent] at fetched
            cases fetched
          · rw [sent, Prod.mk.injEq] at fetched
            obtain ⟨accepted, rfl⟩ := fetched
            exact ⟨cid, reply, rfl, ⟨url, addressed, sent⟩, accepted⟩

end Fetch

/-- A fetch succeeds exactly when the name can be read and the reply delivers the archive of that
block within the limit. An unreadable name sends nothing. If only the archive is wrong, the error says
that the block of that name was not verified; if the limit is what goes wrong first, the error has the
announced length when that is too long, and else the length at the first chunk that passes it. -/
theorem fetch_accepts_verified {σ : Type} (gateway : Gateway) (transport : Transport σ)
    (name : String) (state : σ) :
    (∀ fault, Cid.parse name = .error fault →
      gateway.fetch transport name state = (.error (.invalidCid fault), state)) ∧
    (∀ bytes after, gateway.fetch transport name state = (.ok bytes, after) ↔
      ∃ cid reply, Cid.parse name = .ok cid ∧ gateway.Answers transport cid state reply after ∧
        Delivers gateway.maxResponseBytes reply bytes ∧ IsArchiveOf cid bytes) ∧
    ∀ cid reply after, Cid.parse name = .ok cid →
      gateway.Answers transport cid state reply after →
      (∀ bytes, Delivers gateway.maxResponseBytes reply bytes → ¬ IsArchiveOf cid bytes →
        ∃ fault, gateway.fetch transport name state = (.error (.unverified cid fault), after)) ∧
      (reply.isSuccess → ∀ declared, reply.declaredLength = some declared →
        gateway.maxResponseBytes < declared →
          gateway.fetch transport name state =
            (.error (.tooLarge declared gateway.maxResponseBytes), after)) ∧
      (reply.isSuccess → DeclaredWithin gateway.maxResponseBytes reply → ∀ index,
        IsLeast {index | gateway.maxResponseBytes < startOf reply.chunks (index + 1)} index →
          gateway.fetch transport name state =
            (.error (.tooLarge (startOf reply.chunks (index + 1)) gateway.maxResponseBytes),
              after)) := by
  refine ⟨?_, ?_, ?_⟩
  · intro fault refused
    rw [fetch, refused]
  · intro bytes after
    constructor
    · intro fetched
      obtain ⟨cid, reply, parsed, answers, accepted⟩ := exists_answers_of_fetch fetched
      exact ⟨cid, reply, parsed, answers, accept_eq_ok_iff.mp accepted⟩
    · rintro ⟨cid, reply, parsed, answers, asked⟩
      rw [fetch_of_answers parsed answers, accept_eq_ok_iff.mpr asked]
  · intro cid reply after parsed answers
    rw [fetch_of_answers parsed answers]
    refine ⟨?_, ?_, ?_⟩
    · intro bytes delivers other
      obtain ⟨fault, refused⟩ := accept_unverified delivers other
      exact ⟨fault, congrArg (·, after) refused⟩
    · intro success declared announced beyond
      rw [accept_tooLarge success (download_declared announced beyond)]
    · intro success within index first
      rw [accept_tooLarge success (download_beyond within first)]

section Served

/-- A far side that gives one reply to everything and counts what was sent. -/
def answering (reply : Reply) : Transport Nat := fun _ sent => (some reply, sent + 1)

/-- A gateway whose limit is the length of the archive that it is asked for. -/
def exactGateway : Gateway where
  base := ⟨"https".toList, [], [], some (.domain "gateway".toList), none, .segments [[]], none, none⟩
  maxResponseBytes := keyServiceRecord.shipped.encode.length

def served (chunks : List Bytes) : Reply := ⟨200, none, none, chunks, true⟩

theorem declaredWithin_served (limit : Nat) (chunks : List Bytes) :
    DeclaredWithin limit (served chunks) := by
  intro size announced
  cases announced

theorem delivers_served {chunks : List Bytes} {bytes : Bytes} {limit : Nat}
    (joined : bytes = chunks.flatten) (within : bytes.length ≤ limit) :
    Delivers limit (served chunks) bytes := by
  have success : 200 ≤ 200 ∧ 200 < 300 := by decide
  subst joined
  exact ⟨success, declaredWithin_served limit chunks, rfl, within, rfl⟩

theorem parse_keyServiceRecord :
    Cid.parse keyServiceRecord.toBlock.cid.toText = .ok keyServiceRecord.toBlock.cid := by
  have read : Cid.ofText? keyServiceRecord.toBlock.cid.toText = some keyServiceRecord.toBlock.cid := by
    decide +kernel
  rw [Cid.parse, read]

theorem answers_served (chunks : List Bytes) (sent : Nat) :
    exactGateway.Answers (answering (served chunks)) keyServiceRecord.toBlock.cid sent
      (served chunks) (sent + 1) := by
  have readable : (Url.ofText? (exactGateway.blockAddress keyServiceRecord.toBlock.cid)).isSome := by
    decide +kernel
  obtain ⟨url, addressed⟩ := Option.isSome_iff_exists.mp readable
  exact ⟨url, addressed, rfl⟩

theorem isArchiveOf_shipped :
    IsArchiveOf keyServiceRecord.toBlock.cid keyServiceRecord.shipped.encode := by
  have bounded : keyServiceRecord.toBlock.data.length < 2 ^ 63 := by decide +kernel
  exact isArchiveOf_of_bounded bounded

theorem not_isArchiveOf_nil (cid : Cid) : ¬ IsArchiveOf cid [] := by
  rintro ⟨data, decoded, -⟩
  cases decoded

/-- The archive is accepted in pieces, an empty body fails verification, one byte too many is cut off,
and a name that is none sends nothing. -/
theorem keyServiceRecord_fetched :
    let whole := keyServiceRecord.shipped.encode
    let cid := keyServiceRecord.toBlock.cid
    exactGateway.fetch (answering (served [whole.take 9, [], whole.drop 9])) cid.toText 0 =
      (.ok whole, 1) ∧
    (∃ fault, exactGateway.fetch (answering (served [])) cid.toText 0 =
      (.error (.unverified cid fault), 1)) ∧
    exactGateway.fetch (answering (served [whole, [0], [1]])) cid.toText 0 =
      (.error (.tooLarge (whole.length + 1) whole.length), 1) ∧
    exactGateway.fetch (answering (served [])) "?" 0 =
      (.error (.invalidCid (.invalidCid "?")), 0) := by
  intro whole cid
  have joined : whole = [whole.take 9, [], whole.drop 9].flatten := by simp
  refine ⟨?_, ?_, ?_, ?_⟩
  · obtain ⟨-, accepted, -⟩ := fetch_accepts_verified exactGateway
      (answering (served [whole.take 9, [], whole.drop 9])) cid.toText 0
    apply (accepted whole 1).mpr
    exact ⟨cid, _, parse_keyServiceRecord, answers_served _ 0,
      delivers_served joined (Nat.le_refl _), isArchiveOf_shipped⟩
  · obtain ⟨-, -, refused⟩ := fetch_accepts_verified exactGateway (answering (served []))
      cid.toText 0
    obtain ⟨unverified, -⟩ := refused _ _ _ parse_keyServiceRecord (answers_served [] 0)
    exact unverified [] (delivers_served rfl (Nat.zero_le _)) (not_isArchiveOf_nil cid)
  · obtain ⟨-, -, refused⟩ := fetch_accepts_verified exactGateway
      (answering (served [whole, [0], [1]])) cid.toText 0
    obtain ⟨-, -, tooLarge⟩ := refused _ _ _ parse_keyServiceRecord (answers_served _ 0)
    have first : IsLeast
        {index | whole.length < startOf [whole, [0], [1]] (index + 1)} 1 := by
      constructor
      · simp [startOf]
      · intro index beyond
        by_contra below
        have zero : index = 0 := by omega
        subst zero
        simp [startOf] at beyond
    have reached : startOf [whole, [0], [1]] (1 + 1) = whole.length + 1 := by simp [startOf]
    rw [← reached]
    exact tooLarge rfl (declaredWithin_served _ _) 1 first
  · obtain ⟨unreadable, -⟩ := fetch_accepts_verified exactGateway (answering (served [])) "?" 0
    exact unreadable _ rfl

end Served

end Gateway

end SealedContent.Retrieval
