import SealedContent.Proofs.Custody.Observed
import SealedContent.Proofs.Custody.RoundTrip
import SealedContent.Proofs.Json.Spelling

/-!
Calls are guarded. A custodian is asked for nothing until all that is needed is there and the record is
of its kind; then it is asked once, and a failure that its answer tells is passed on word by word.
-/

namespace SealedContent.Custody

open Cipher (KeyMaterial)
open Record (Metadata)
open Json.Written (Blank SpellsField SpellsText)

variable {σ : Type}

/-- The texts of a receipt that holds a failure and nothing else: its two fields in any order, strings
in any of their spellings, and white space wherever there may be some. -/
inductive Failure.SpelledBy (failure : Failure) : String → Prop
  | receipt {before after outer inner name message nameField messageField : List Char}
      (blankBefore : Blank before) (blankAfter : Blank after)
      (spellsName : SpellsText failure.name name)
      (spellsMessage : SpellsText failure.message message)
      (isName : SpellsField "name" name nameField)
      (isMessage : SpellsField "message" message messageField)
      (order : inner = nameField ++ ',' :: (messageField ++ ['\x7d']) ∨
        inner = messageField ++ ',' :: (nameField ++ ['\x7d']))
      (isError : SpellsField "error" ('\x7b' :: inner) outer) :
      SpelledBy failure (String.ofList (before ++ ('\x7b' :: (outer ++ ['\x7d']) ++ after)))

/-- A reply, of whatever status, whose body tells a failure. -/
structure Failure.ToldBy (failure : Failure) (reply : Web.Reply) : Prop where
  complete : reply.isComplete = true
  body : ∃ text, reply.chunks.flatten = Bytes.ofText text ∧ failure.SpelledBy text

namespace Failure

variable {failure : Failure}

theorem failure?_fields (failure : Failure) {fields : List (Option String × Json.Written)}
    (order : fields = [(some "name", .string (some failure.name)),
        (some "message", .string (some failure.message))] ∨
      fields = [(some "message", .string (some failure.message)),
        (some "name", .string (some failure.name))]) :
    Receipt.failure? (.object fields) = some failure := by
  rcases order with rfl | rfl <;>
    simp [Receipt.failure?, Json.Written.record?, Json.Written.fields?, Json.onlyField?]

/-- Whatever the spelling, the receipt that is read has the very name and message. -/
theorem SpelledBy.ofText? {text : String} (spelled : failure.SpelledBy text) :
    Receipt.ofText? text = some (.error failure) := by
  cases spelled with
  | @receipt before after outer inner name message nameField messageField blankBefore blankAfter
      spellsName spellsMessage isName isMessage order isError =>
  obtain ⟨fields, reads, fieldOrder⟩ : ∃ fields,
      Json.Written.ReadsAs 5 ('\x7b' :: inner) (.object fields) ∧
        (fields = [(some "name", .string (some failure.name)),
            (some "message", .string (some failure.message))] ∨
          fields = [(some "message", .string (some failure.message)),
            (some "name", .string (some failure.name))]) := by
    rcases order with rfl | rfl
    · exact ⟨_, .object_two isName spellsName.readsAs isMessage spellsMessage.readsAs, .inl rfl⟩
    · exact ⟨_, .object_two isMessage spellsMessage.readsAs isName spellsName.readsAs, .inr rfl⟩
  have few : 5 + 2 ≤ 2 * ('\x7b' :: (outer ++ ['\x7d'])).length := by
    have longer := isError.length_le
    simp only [List.length_append, List.length_cons, List.length_nil] at longer ⊢
    omega
  have read := (Json.Written.ReadsAs.object_one isError reads).read? few blankBefore blankAfter
  rw [Receipt.ofText?, read]
  simp [Json.Written.fields?, failure?_fields failure fieldOrder]

/-- The compact text of a receipt is one of its spellings. -/
theorem spelledBy_toText (failure : Failure) : failure.SpelledBy (Receipt.error failure).toText := by
  have nothing : Blank [] := fun char impossible => absurd impossible List.not_mem_nil
  have compact (key : String) (value : List Char) :
      SpellsField key value (Json.Value.writeString key ++ ':' :: value) := by
    have spells : SpellsField key value _ := SpellsField.field nothing nothing nothing nothing
      (Json.Written.spellsText_writeString key)
    simpa using spells
  have spelled := SpelledBy.receipt nothing nothing
    (Json.Written.spellsText_writeString failure.name)
    (Json.Written.spellsText_writeString failure.message) (compact _ _) (compact _ _) (.inl rfl)
    (compact _ _)
  have text : (Receipt.error failure).toText = String.ofList _ := rfl
  rw [text]
  simpa [Json.Value.write, Json.Value.writeFields] using spelled

theorem ToldBy.readReply {reply : Web.Reply} (told : failure.ToldBy reply) :
    Endpoint.readReply reply = .error (.remote failure.name failure.message) := by
  obtain ⟨text, joined, spelled⟩ := told.body
  have body : reply.body? = some (Bytes.ofText text) := by
    rw [Web.Reply.body?, if_pos told.complete, joined]
  rw [Endpoint.readReply, body]
  simp [Bytes.toText?_ofText, spelled.ofText?, Receipt.result]

end Failure

namespace Custodian

/-- A run that makes one call, and goes on from what is answered. -/
inductive AsksOnce {α : Type} : Custodian σ → σ → Except CustodyError α × σ × List Call → Prop
  | invoke (service : KeyService) (peer : Peer σ) (state : σ) (signed : SignedInvocation)
      (resume : Json.Value → Except CustodyError α) :
      AsksOnce (.keyService service peer) state
        ((peer signed state).1.bind resume, (peer signed state).2, [.invoke signed])
  | encrypt (network : ThresholdNetwork σ) (state : σ) (plaintext : Bytes)
      (conditions : List Record.AccessCondition) (resume : String → Except CustodyError α) :
      AsksOnce (.threshold network) state
        ((network.encrypt plaintext conditions state).1.bind resume,
          (network.encrypt plaintext conditions state).2, [.encrypt plaintext conditions])
  | release (network : ThresholdNetwork σ) (state : σ) (request : ReleaseRequest)
      (resume : Bytes → Except CustodyError α) :
      AsksOnce (.threshold network) state
        ((network.release request state).1.bind resume, (network.release request state).2,
          [.release request])

/-- When a service is reached over the web, and what it answers to the calls of a run tells a failure,
then the run ends with the name and the message of this failure. -/
def PassesOnFailures {α : Type} (custodian : Custodian σ) (state : σ)
    (run : Except CustodyError α × σ × List Call) : Prop :=
  ∀ (service : KeyService) (transport : Web.Transport σ) (failure : Failure) (reply : Web.Reply),
    custodian = .keyService service (Endpoint.peer service.endpoint transport) →
    failure.ToldBy reply →
    (∀ signed, .invoke signed ∈ run.2.2 →
      (transport.send (Endpoint.request service.endpoint signed) state).1 = some reply) →
    run.1 = .error (.remote failure.name failure.message)

variable {α : Type} {custodian : Custodian σ} {state : σ}
  {run : Except CustodyError α × σ × List Call}

theorem AsksOnce.exists_call (once : custodian.AsksOnce state run) : ∃ call, run.2.2 = [call] := by
  cases once <;> exact ⟨_, rfl⟩

theorem AsksOnce.passesOnFailures (once : custodian.AsksOnce state run) :
    custodian.PassesOnFailures state run := by
  intro service transport failure reply same told answers
  cases once with
  | invoke _ peer _ signed resume =>
      cases same
      have answered := answers signed List.mem_cons_self
      dsimp only
      rw [Endpoint.peer]
      rcases sent : transport.send (Endpoint.request service.endpoint signed) state
        with ⟨_ | received, after⟩
      · rw [sent] at answered
        cases answered
      · rw [sent] at answered
        cases answered
        dsimp only
        rw [told.readReply]
        rfl
  | encrypt | release => cases same

section Unwrap

variable {suite : Suite} {moment : Moment} {encryptedKey : String} {metadata : Metadata}
  {requester : Requester}

/-- Under observation an authorized unwrap of a record of the right kind ends as it does without, and
asks once. -/
theorem observed_unwrap_of_authority {space : String} {issuer : Issuer}
    (authorized : requester.authority = .ok (space, issuer)) (custodian : Custodian σ)
    (same : metadata.kind = custodian.kind) (state : σ) :
    let plain := custodian.unwrap suite moment encryptedKey metadata requester state
    let run := custodian.observed.unwrap suite moment encryptedKey metadata requester (state, [])
    (run.1, run.2.1) = plain ∧ custodian.AsksOnce state run := by
  intro plain run
  cases custodian with
  | keyService service peer =>
      cases metadata with
      | service fields =>
          have plain_eq : plain = _ := KeyService.unwrap_of_authority authorized state
          have run_eq : run = _ := KeyService.unwrap_of_authority authorized (state, [])
          rw [plain_eq, run_eq]
          exact ⟨rfl, .invoke service peer state _ KeyService.materialOf⟩
      | threshold fields => cases same
  | threshold network =>
      cases metadata with
      | service fields => cases same
      | threshold fields =>
          have plain_eq : plain = _ := ThresholdNetwork.unwrap_of_authority authorized state
          have run_eq : run = _ := ThresholdNetwork.unwrap_of_authority authorized (state, [])
          rw [plain_eq, run_eq]
          exact ⟨rfl, .release network state _ (ThresholdNetwork.materialOf fields)⟩

end Unwrap

section Wrap

variable {suite : Suite} {chance : Chance} {material : KeyMaterial} {requester : Requester}

/-- What a wrap needs is looked at first: either it is told what is missing, or there is one call. -/
theorem exists_missing_of_wrap (suite : Suite) (custodian : Custodian σ) (requester : Requester)
    (state : σ) : ∃ missing, requester.Misses custodian.neededToWrap missing ∧
      ∀ chance material,
        let plain := custodian.wrap suite chance material requester state
        let run := custodian.observed.wrap suite chance material requester (state, [])
        (run.1, run.2.1) = plain ∧
        (missing ≠ [] → run = (.error (.missingParameters missing), state, [])) ∧
        (missing = [] → custodian.AsksOnce state run) := by
  cases custodian with
  | keyService service peer =>
      obtain ⟨missing, misses, refused, granted⟩ := requester.exists_identity
      refine ⟨missing, misses, fun chance material => ?_⟩
      by_cases complete : missing = []
      · obtain ⟨space, issuer, -, identified⟩ := granted complete
        simp only [wrap, observed, KeyService.wrap_of_identity identified]
        exact ⟨rfl, absurd complete, fun _ => .invoke service peer state _ _⟩
      · simp only [wrap, observed, KeyService.wrap, refused complete]
        exact ⟨trivial, fun _ => trivial, fun none => absurd none complete⟩
  | threshold network =>
      obtain ⟨missing, misses, refused, granted⟩ := requester.exists_named
      refine ⟨missing, misses, fun chance material => ?_⟩
      by_cases complete : missing = []
      · obtain ⟨space, named⟩ := granted complete
        simp only [wrap, observed, ThresholdNetwork.wrap_of_named named]
        exact ⟨rfl, absurd complete, fun _ => .encrypt network state _ _ _⟩
      · obtain ⟨rfl, absent⟩ := refused complete
        simp only [wrap, observed, ThresholdNetwork.wrap, absent]
        exact ⟨trivial, fun _ => trivial, fun none => absurd none complete⟩

end Wrap

/-- A custodian is asked for nothing while something is missing, and the names of what is missing are
told in their order; nor is it asked for the key in a record of the other kind. Otherwise it is asked
once, and where a service answers over the web with a failure, of whatever status, the outcome has the
very name and message. Observing the calls changes neither outcome nor state. -/
theorem calls_guarded (suite : Suite) (custodian : Custodian σ) (requester : Requester) (state : σ) :
    (∃ missing, requester.Misses ["space", "delegation", "issuer"] missing ∧
      ∀ moment encryptedKey metadata,
        let run := custodian.observed.unwrap suite moment encryptedKey metadata requester (state, [])
        (run.1, run.2.1) = custodian.unwrap suite moment encryptedKey metadata requester state ∧
        (missing ≠ [] → run = (.error (.missingParameters missing), state, [])) ∧
        (missing = [] → metadata.kind ≠ custodian.kind →
          run = (.error (.strategyMismatch custodian.kind metadata.kind), state, [])) ∧
        (missing = [] → metadata.kind = custodian.kind →
          (∃ call, run.2.2 = [call]) ∧ custodian.PassesOnFailures state run)) ∧
    (∃ missing, requester.Misses custodian.neededToWrap missing ∧
      ∀ chance material,
        let run := custodian.observed.wrap suite chance material requester (state, [])
        (run.1, run.2.1) = custodian.wrap suite chance material requester state ∧
        (missing ≠ [] → run = (.error (.missingParameters missing), state, [])) ∧
        (missing = [] →
          (∃ call, run.2.2 = [call]) ∧ custodian.PassesOnFailures state run)) := by
  constructor
  · refine ⟨requester.missing, Requester.misses_missing, fun moment encryptedKey metadata => ?_⟩
    intro run
    have kinds : custodian.observed.kind = custodian.kind := by cases custodian <;> rfl
    by_cases complete : requester.missing = []
    · obtain ⟨space, issuer, -, authorized⟩ := Requester.exists_authority complete
      by_cases same : metadata.kind = custodian.kind
      · obtain ⟨plain, once⟩ := observed_unwrap_of_authority authorized custodian same state
        exact ⟨plain, absurd complete, fun _ => absurd same,
          fun _ _ => ⟨once.exists_call, once.passesOnFailures⟩⟩
      · have other : metadata.kind ≠ custodian.observed.kind := by rwa [kinds]
        have plain : custodian.unwrap suite moment encryptedKey metadata requester state = _ :=
          unwrap_of_other_kind authorized custodian same state
        have refused : run = _ := unwrap_of_other_kind authorized custodian.observed other (state, [])
        rw [kinds] at refused
        rw [plain, refused]
        exact ⟨rfl, absurd complete, fun _ _ => rfl, fun _ kind => absurd kind same⟩
    · have unauthorized := Requester.authority_of_missing complete
      have plain : custodian.unwrap suite moment encryptedKey metadata requester state = _ :=
        unwrap_of_refused unauthorized custodian state
      have refused : run = _ := unwrap_of_refused unauthorized custodian.observed (state, [])
      rw [plain, refused]
      exact ⟨rfl, fun _ => rfl, fun none => absurd none complete, fun none => absurd none complete⟩
  · obtain ⟨missing, misses, runs⟩ := exists_missing_of_wrap suite custodian requester state
    refine ⟨missing, misses, fun chance material => ?_⟩
    obtain ⟨plain, refused, asks⟩ := runs chance material
    exact ⟨plain, refused, fun complete =>
      ⟨(asks complete).exists_call, (asks complete).passesOnFailures⟩⟩

end Custodian

/-! A service that refuses every call, with a status that is no success. -/

namespace Sample

def refusal : Failure := ⟨"SpaceNotProvisioned", "no key for \"Räume\"\n"⟩

def refusingReply : Web.Reply :=
  ⟨403, none, none, [Bytes.ofText (Receipt.error refusal).toText], true⟩

def refusing : Custodian Unit :=
  .keyService service (Endpoint.peer service.endpoint fun _ _ => (some refusingReply, ()))

end Sample

open Sample in
theorem Custodian.refusal_passed_on :
    (refusing.wrap Suite.standard chance material requester ()).1 =
      .error (.remote refusal.name refusal.message) := by
  obtain ⟨-, missing, misses, runs⟩ := calls_guarded Suite.standard refusing requester ()
  have complete : missing = [] := by
    rw [List.eq_nil_iff_forall_not_mem]
    intro name absent
    have needed := misses.ordered.subset absent
    have lacks := (misses.mem_iff name needed).mp absent
    simp only [refusing, neededToWrap, List.mem_cons, List.not_mem_nil, or_false] at needed
    rcases needed with rfl | rfl
    · exact absurd (lacks space rfl) (by decide)
    · cases lacks
  obtain ⟨plain, -, asked⟩ := runs chance material
  have told : refusal.ToldBy refusingReply :=
    ⟨rfl, _, List.flatten_singleton .., refusal.spelledBy_toText⟩
  have answered (signed : SignedInvocation) :
      (Web.Transport.send (fun _ _ => (some refusingReply, ()))
        (Endpoint.request service.endpoint signed) ()).1 = some refusingReply := by
    simp [Web.Transport.send, Web.Transport.follow, Web.Transport.next?, Web.Transport.isRedirect,
      refusingReply]
  have passed := (asked complete).2 service (fun _ _ => (some refusingReply, ())) refusal
    refusingReply rfl told fun signed _ => answered signed
  have outcome := congrArg Prod.fst plain
  dsimp only at outcome
  rw [← outcome, passed]

end SealedContent.Custody
