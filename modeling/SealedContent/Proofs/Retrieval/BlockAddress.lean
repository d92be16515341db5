import Mathlib.Data.List.DropRight
import SealedContent.Proofs.Content.CidText
import SealedContent.Proofs.Web.Url
import SealedContent.Retrieval.Gateway

/-!
The address that a block is fetched from. It always leads to the host of the gateway, and it names the
block in its path exactly where the address of the gateway has neither a query nor a fragment; where it
has one, the name of the block ends up in the last of them and the path stays as it is.
-/

namespace SealedContent.Retrieval.Gateway

open Content (Cid)
open Web (Url UrlPath)
open Web.Percent (inPath inWebQuery inFragment)
open Web.Url (IsSegment Settled isSlash)

/-- An address asks the host of a base for a block: below the path of the base, whose slashes at the end
do not count, and as an archive. -/
structure AsksFor (base : Url) (cid : Cid) (address : Url) : Prop where
  scheme : address.scheme = base.scheme
  host : address.host = base.host
  port : address.port = base.port
  path : address.path.write =
    base.path.write.rdropWhile (· = '/') ++ "/ipfs/".toList ++ cid.toText.toList
  query : address.query = some "format=car".toList
  fragment : address.fragment = none

def request (cid : Cid) : List Char :=
  ("/ipfs/" ++ cid.toText ++ "?format=car").toList

theorem request_eq (cid : Cid) :
    request cid = "/ipfs/".toList ++ cid.toText.toList ++ "?format=car".toList := by
  rw [request, String.toList_append, String.toList_append]

theorem length_request (cid : Cid) : "format=car".toList.length < (request cid).length := by
  rw [request_eq, List.length_append]
  exact Nat.lt_of_lt_of_le (by decide) (Nat.le_add_left _ _)

section Texts

theorem rdropWhile_append_stop {stops : Char → Bool} {last : Char} (stop : stops last = false)
    (before after : List Char) :
    ((before ++ [last]) ++ after).rdropWhile stops = (before ++ [last]) ++ after.rdropWhile stops := by
  induction after using List.reverseRecOn with
  | nil =>
      rw [List.append_nil, List.rdropWhile_nil, List.append_nil]
      exact List.rdropWhile_concat_neg _ _ _ (by rw [stop]; exact Bool.false_ne_true)
  | append_singleton after char induction =>
      rw [← List.append_assoc, List.rdropWhile_concat, List.rdropWhile_concat, induction]
      split <;> simp

theorem rdropWhile_segments {segments : List (List Char)}
    (undivided : ∀ segment ∈ segments, ∀ char ∈ segment, isSlash .web char = false) :
    (UrlPath.segments segments).write.rdropWhile (· = '/') =
      (UrlPath.segments (segments.rdropWhile List.isEmpty)).write := by
  simp only [UrlPath.write]
  induction segments using List.reverseRecOn with
  | nil => rfl
  | append_singleton segments segment induction =>
      rw [List.forall_mem_append, List.forall_mem_singleton] at undivided
      rw [List.flatMap_append, List.flatMap_singleton]
      rcases List.eq_nil_or_concat' segment with rfl | ⟨front, last, rfl⟩
      · rw [List.rdropWhile_concat_pos _ _ _ rfl, List.rdropWhile_concat_pos _ _ _ rfl]
        exact induction undivided.1
      · have other : ¬ decide (last = '/') = true := by
          rw [decide_eq_true_eq]
          rintro rfl
          exact absurd (undivided.2 '/' (by simp)) (by decide)
        have filled : ¬ (front ++ [last]).isEmpty = true := by simp
        rw [List.rdropWhile_concat_neg _ _ _ filled, List.flatMap_append, List.flatMap_singleton,
          ← List.cons_append, ← List.append_assoc]
        exact List.rdropWhile_concat_neg _ _ _ other

theorem of_alphanumeric (property : Char → Prop)
    (each : ∀ code < 128, (Char.ofNat code).isAlphanum = true → property (Char.ofNat code))
    {char : Char} (alphanumeric : char.isAlphanum = true) : property char := by
  have bounded : char.toNat < 128 := by
    have kinds : ((char.isUpper || char.isLower) || char.isDigit) = true := alphanumeric
    rw [Bool.or_eq_true, Bool.or_eq_true] at kinds
    rcases kinds with (upper | lower) | digit
    · have range : char.val ≥ 65 ∧ char.val ≤ 90 := of_decide_eq_true upper
      have greatest : char.toNat ≤ 90 := UInt32.le_iff_toNat_le.mp range.2
      omega
    · have range := Bool.and_eq_true_iff.mp lower
      have greatest : char.toNat ≤ 122 := UInt32.le_iff_toNat_le.mp (of_decide_eq_true range.2)
      omega
    · have range := Bool.and_eq_true_iff.mp digit
      have greatest : char.toNat ≤ 57 := UInt32.le_iff_toNat_le.mp (of_decide_eq_true range.2)
      omega
  have found := each char.toNat bounded
  rw [Char.ofNat_toNat] at found
  exact found alphanumeric

/-- What an identifier consists of is encoded nowhere, divides nothing and is no dot. -/
theorem alphanumeric_clear {char : Char} (alphanumeric : char.isAlphanum = true) :
    inPath char = false ∧ isSlash .web char = false ∧ inWebQuery char = false ∧
      inFragment char = false ∧ char.toLower ≠ '.' ∧ char.toLower ≠ '%' :=
  of_alphanumeric (fun char => inPath char = false ∧ isSlash .web char = false ∧
    inWebQuery char = false ∧ inFragment char = false ∧ char.toLower ≠ '.' ∧ char.toLower ≠ '%')
    (by decide) alphanumeric

theorem isSegment_of_alphanumeric {segment : List Char}
    (alphanumeric : ∀ char ∈ segment, char.isAlphanum = true) : IsSegment segment := by
  have undotted : Url.isSingleDot segment = false ∧ Url.isDoubleDot segment = false := by
    cases segment with
    | nil => exact ⟨rfl, rfl⟩
    | cons first rest =>
        have lead := (alphanumeric_clear (alphanumeric first List.mem_cons_self)).2.2.2.2
        simp [Url.isSingleDot, Url.isDoubleDot, lead]
  exact {
    notSingleDot := undotted.1
    notDoubleDot := undotted.2
    encoded := fun char member => (alphanumeric_clear (alphanumeric char member)).1
    undivided := fun char member => (alphanumeric_clear (alphanumeric char member)).2.1 }

theorem request_clear (cid : Cid) :
    ∀ char ∈ request cid, inWebQuery char = false ∧ inFragment char = false := by
  intro char member
  rw [request_eq] at member
  rcases List.mem_append.mp member with early | mark
  · rcases List.mem_append.mp early with path | symbol
    · have plain : ∀ char ∈ "/ipfs/".toList, inWebQuery char = false ∧ inFragment char = false :=
        List.all_iff_forall_prop.mp (by decide)
      exact plain char path
    · have clear := alphanumeric_clear (cid.toText_alphanumeric char symbol)
      exact ⟨clear.2.2.1, clear.2.2.2.1⟩
  · have plain : ∀ char ∈ "?format=car".toList, inWebQuery char = false ∧ inFragment char = false :=
      List.all_iff_forall_prop.mp (by decide)
    exact plain char mark

end Texts

section Addresses

variable {gateway : Gateway} {settings : Config.Gateway}

theorem settled_of_accepted (accepted : ofSettings settings = .ok gateway) :
    gateway.base.Settled := by
  unfold ofSettings at accepted
  split at accepted
  case h_1 => cases accepted
  case h_2 base read =>
    split at accepted
    case isTrue secure =>
      cases accepted
      exact Url.ofText?_settled read (by rw [secure]; rfl)
    case isFalse =>
      split at accepted
      case isTrue plain =>
        split at accepted
        · cases accepted
        · cases accepted
          exact Url.ofText?_settled read (by rw [plain]; rfl)
      case isFalse => cases accepted

theorem blockAddress_eq (gateway : Gateway) (cid : Cid) :
    gateway.blockAddress cid =
      String.ofList (gateway.base.write.rdropWhile (· = '/') ++ request cid) := by
  apply String.toList_injective
  rw [blockAddress, String.toList_append, String.toList_ofList, String.toList_ofList]
  rfl

/-- The authority of an address does not end in a slash. -/
theorem exists_authority_end {base : Url} (settled : base.Settled) : ∃ front last,
    base.scheme ++ ':' :: base.writeAuthority = front ++ [last] ∧ last ≠ '/' := by
  obtain ⟨host, text, named, read⟩ := settled.host
  have clear := Url.authorityChar_write settled read
  have present : base.writeUser ++ (host.write ++ base.writePort) ≠ [] := by
    intro empty
    exact Web.Host.write_ne_nil read (List.append_eq_nil_iff.mp (List.append_eq_nil_iff.mp empty).2).1
  rcases List.eq_nil_or_concat' (base.writeUser ++ (host.write ++ base.writePort)) with
    empty | ⟨front, last, ends⟩
  · exact absurd empty present
  · refine ⟨base.scheme ++ ':' :: '/' :: '/' :: front, last, ?_, ?_⟩
    · rw [Url.writeAuthority, named]
      simp only [List.append_assoc, List.cons_append, ← ends]
      rfl
    · have char := clear last (by rw [ends]; exact List.mem_append_right _ (List.mem_singleton_self _))
      exact Url.ne_of_clear char.2.1 rfl

theorem read_extended {cid : Cid} {address : Url} (settled : address.Settled)
    (written : address.write = gateway.base.write.rdropWhile (· = '/') ++ request cid) :
    Url.ofText? (gateway.blockAddress cid) = some address := by
  rw [blockAddress_eq, ← written]
  exact Url.ofText?_toText settled

/-- Without a query and a fragment, the end of the base is its path. -/
theorem read_below {base : Url} (settled : base.Settled) (noQuery : base.query = none)
    (noFragment : base.fragment = none) (limit : Nat) (cid : Cid) :
    ∃ path, Url.ofText? (blockAddress ⟨base, limit⟩ cid) =
        some { base with path := path, query := some "format=car".toList } ∧
      path.write = base.path.write.rdropWhile (· = '/') ++ "/ipfs/".toList ++ cid.toText.toList := by
  obtain ⟨segments, path, present, each⟩ := settled.path
  have trimmed : base.path.write.rdropWhile (· = '/') =
      (UrlPath.segments (segments.rdropWhile List.isEmpty)).write := by
    rw [path]
    exact rdropWhile_segments fun segment one => (each segment one).undivided
  let below := segments.rdropWhile List.isEmpty ++ ["ipfs".toList, cid.toText.toList]
  have written : (UrlPath.segments below).write =
      base.path.write.rdropWhile (· = '/') ++ "/ipfs/".toList ++ cid.toText.toList := by
    rw [trimmed]
    simp [below, UrlPath.write]
  refine ⟨.segments below, ?_, written⟩
  apply read_extended
  · exact { settled with
      path := by
        refine ⟨below, rfl, by simp [below], ?_⟩
        intro segment one
        rcases List.mem_append.mp one with kept | added
        · exact each segment ((List.rdropWhile_prefix _ _).subset kept)
        · rcases List.mem_pair.mp added with rfl | rfl
          · exact isSegment_of_alphanumeric (List.all_eq_true.mp (by decide))
          · exact isSegment_of_alphanumeric cid.toText_alphanumeric
      query := by
        rintro query same
        cases same
        exact List.all_iff_forall_prop.mp (by decide) }
  · obtain ⟨front, last, ends, other⟩ := exists_authority_end settled
    have whole : base.write = (front ++ [last]) ++ base.path.write := by
      rw [← ends, Url.write, Url.writeQuery, Url.writeFragment, noQuery, noFragment]
      simp
    rw [whole, rdropWhile_append_stop (decide_eq_false other), ← ends, request_eq, Url.write]
    simp only [written, Url.writeFragment, noFragment]
    simp [Url.writeQuery, Url.writeAuthority, Url.writeUser, Url.writePort]

theorem read_in_query {base : Url} (settled : base.Settled) {query : List Char}
    (asked : base.query = some query) (noFragment : base.fragment = none) (limit : Nat) (cid : Cid) :
    Url.ofText? (blockAddress ⟨base, limit⟩ cid) =
      some { base with query := some (query.rdropWhile (· = '/') ++ request cid) } := by
  apply read_extended
  · exact { settled with
      query := by
        rintro whole same char member
        cases same
        rcases List.mem_append.mp member with kept | added
        · exact settled.query query asked char ((List.rdropWhile_prefix _ _).subset kept)
        · exact (request_clear cid char added).1 }
  · have whole : base.write =
        ((base.scheme ++ ':' :: base.writeAuthority ++ base.path.write) ++ ['?']) ++ query := by
      rw [Url.write, Url.writeQuery, Url.writeFragment, asked, noFragment]
      simp
    rw [whole, rdropWhile_append_stop (by decide), Url.write]
    simp [Url.writeQuery, Url.writeFragment, noFragment, Url.writeAuthority, Url.writeUser,
      Url.writePort]

theorem read_in_fragment {base : Url} (settled : base.Settled) {fragment : List Char}
    (marked : base.fragment = some fragment) (limit : Nat) (cid : Cid) :
    Url.ofText? (blockAddress ⟨base, limit⟩ cid) =
      some { base with fragment := some (fragment.rdropWhile (· = '/') ++ request cid) } := by
  apply read_extended
  · exact { settled with
      fragment := by
        rintro whole same char member
        cases same
        rcases List.mem_append.mp member with kept | added
        · exact settled.fragment fragment marked char ((List.rdropWhile_prefix _ _).subset kept)
        · exact (request_clear cid char added).2 }
  · have whole : base.write = ((base.scheme ++ ':' :: base.writeAuthority ++ base.path.write ++
        base.writeQuery) ++ ['#']) ++ fragment := by
      rw [Url.write, Url.writeFragment, marked]
      simp
    rw [whole, rdropWhile_append_stop (by decide), Url.write]
    simp [Url.writeQuery, Url.writeFragment, Url.writeAuthority, Url.writeUser, Url.writePort]

/-- A block is asked for with its name in the path exactly where the gateway has neither a query nor a
fragment. The address is always one of the same host and the same user; where there is a fragment, or
else a query, the name of the block is the end of that and of nothing else. -/
theorem block_address_asks_iff (accepted : ofSettings settings = .ok gateway) (cid : Cid) :
    ∃ address, Url.ofText? (gateway.blockAddress cid) = some address ∧
      (AsksFor gateway.base cid address ↔
        gateway.base.query = none ∧ gateway.base.fragment = none) ∧
      (address.user = gateway.base.user ∧ address.password = gateway.base.password) ∧
      (∀ query, gateway.base.query = some query → gateway.base.fragment = none →
        address = { gateway.base with query := some (query.rdropWhile (· = '/') ++ request cid) }) ∧
      ∀ fragment, gateway.base.fragment = some fragment →
        address =
          { gateway.base with fragment := some (fragment.rdropWhile (· = '/') ++ request cid) } := by
  have settled := settled_of_accepted accepted
  obtain ⟨base, limit⟩ := gateway
  cases marked : base.fragment with
  | some fragment =>
      refine ⟨_, read_in_fragment settled marked limit cid, ?_, ⟨rfl, rfl⟩, nofun, ?_⟩
      · exact ⟨fun asks => (nomatch asks.fragment), fun neither => (nomatch neither.2)⟩
      · rintro other same
        cases same
        rfl
  | none =>
      cases asked : base.query with
      | some query =>
          refine ⟨_, read_in_query settled asked marked limit cid, ?_, ⟨rfl, rfl⟩, ?_, nofun⟩
          · refine ⟨fun asks => ?_, fun neither => (nomatch neither.1)⟩
            have lengths := congrArg List.length (Option.some.inj asks.query)
            have longer := length_request cid
            rw [List.length_append] at lengths
            exact absurd longer (by omega)
          · rintro other same -
            cases same
            rfl
      | none =>
          obtain ⟨path, read, written⟩ := read_below settled asked marked limit cid
          refine ⟨_, read, ?_, ⟨rfl, rfl⟩, nofun, nofun⟩
          exact ⟨fun _ => ⟨rfl, rfl⟩, fun _ => ⟨rfl, rfl, rfl, written, rfl, marked⟩⟩

theorem example_host : Web.Host.ofText? "gw.example".toList =
    some (.domain "gw.example".toList) := by
  have canonical : Web.Domain.canonical? "gw.example".toList = some "gw.example".toList := by decide
  rw [Web.Host.ofText?_of_canonical canonical]
  decide

/-- A gateway in a folder, with slashes to spare and a port. -/
def folder : Url where
  scheme := "https".toList
  user := []
  password := []
  host := some (.domain "gw.example".toList)
  port := some 8443
  path := .segments ["cache".toList, [], []]
  query := none
  fragment := none

theorem folder_settled : folder.Settled where
  scheme := by decide
  user := nofun
  password := nofun
  host := ⟨_, _, rfl, example_host⟩
  port := by
    rintro port same
    cases same
    decide
  path := ⟨_, rfl, by decide, by
    have alphanumeric : ["cache".toList, [], []].all (fun segment => segment.all Char.isAlphanum) =
        true := by decide
    intro segment one
    exact isSegment_of_alphanumeric (List.all_eq_true.mp (List.all_eq_true.mp alphanumeric segment one))⟩
  query := nofun
  fragment := nofun

theorem folder_asked :
    ofSettings ⟨"https://gw.example:8443/cache//", true, 30, 4194304⟩ = .ok ⟨folder, 4194304⟩ ∧
    ∃ address, Url.ofText? (blockAddress ⟨folder, 4194304⟩ (.v0 (Vector.replicate 32 0))) =
      some address ∧ AsksFor folder (.v0 (Vector.replicate 32 0)) address := by
  have text : folder.toText = "https://gw.example:8443/cache//" := by decide
  have read := Url.ofText?_toText folder_settled
  rw [text] at read
  have accepted :
      ofSettings ⟨"https://gw.example:8443/cache//", true, 30, 4194304⟩ = .ok ⟨folder, 4194304⟩ := by
    rw [ofSettings, read]
    exact if_pos rfl
  obtain ⟨address, found, asks, -⟩ := block_address_asks_iff accepted (.v0 (Vector.replicate 32 0))
  exact ⟨accepted, address, found, asks.mpr ⟨rfl, rfl⟩⟩

/-- A gateway that is told in its query who asks. -/
def keyed : Url :=
  { folder with port := none, path := .segments [[]], query := some "key=1".toList }

/-- Behind a query, the name of a block does not come to stand in the path. -/
theorem keyed_not_asked : ¬ ∀ settings gateway, ofSettings settings = .ok gateway → ∀ cid : Cid,
    ∃ address, Url.ofText? (gateway.blockAddress cid) = some address ∧
      AsksFor gateway.base cid address := by
  intro always
  have settled : keyed.Settled :=
    { folder_settled with
      port := nofun
      path := ⟨_, rfl, by decide, List.forall_mem_singleton.mpr Url.isSegment_nil⟩
      query := by
        rintro query same
        cases same
        exact List.all_iff_forall_prop.mp (by decide) }
  have text : keyed.toText = "https://gw.example/?key=1" := by decide
  have read := Url.ofText?_toText settled
  rw [text] at read
  have accepted :
      ofSettings ⟨"https://gw.example/?key=1", false, 30, 4194304⟩ = .ok ⟨keyed, 4194304⟩ := by
    rw [ofSettings, read]
    exact if_pos rfl
  obtain ⟨address, found, asks⟩ := always _ _ accepted (.v0 (Vector.replicate 32 0))
  have extended := read_in_query settled rfl rfl 4194304 (.v0 (Vector.replicate 32 0))
  rw [← Option.some.inj (extended.symm.trans found)] at asks
  have lengths := congrArg List.length (Option.some.inj asks.query)
  have longer := length_request (.v0 (Vector.replicate 32 0))
  rw [List.length_append] at lengths
  exact absurd longer (by omega)

end Addresses

end SealedContent.Retrieval.Gateway
