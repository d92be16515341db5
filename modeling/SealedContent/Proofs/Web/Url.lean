import Mathlib.Data.Bool.AllAny
import SealedContent.Proofs.Web.Host
import SealedContent.Web.Url

/-!
Addresses of the web in their normal form. What reading leaves in the parts of an address needs no further
encoding, folding or resolving, and an address whose parts are like that is read back from its written
form.
-/

namespace SealedContent.Web.Url

open Text (breakAt)

/-- A piece of a path that is neither encoded nor resolved nor divided any further. -/
structure IsSegment (segment : List Char) : Prop where
  notSingleDot : isSingleDot segment = false
  notDoubleDot : isDoubleDot segment = false
  encoded : ∀ char ∈ segment, Percent.inPath char = false
  undivided : ∀ char ∈ segment, isSlash .web char = false

/-- The parts of an address of the web as reading leaves them. -/
structure Settled (url : Url) : Prop where
  scheme : schemeClass url.scheme = .web
  user : ∀ char ∈ url.user, Percent.inUser char = false
  password : ∀ char ∈ url.password, Percent.inUser char = false
  host : ∃ host text, url.host = some host ∧ Host.ofText? text = some host
  port : ∀ port, url.port = some port → port < 65536 ∧ defaultPort? url.scheme ≠ some port
  path : ∃ segments, url.path = .segments segments ∧ segments ≠ [] ∧
    ∀ segment ∈ segments, IsSegment segment
  query : ∀ query, url.query = some query → ∀ char ∈ query, Percent.inWebQuery char = false
  fragment : ∀ fragment, url.fragment = some fragment →
    ∀ char ∈ fragment, Percent.inFragment char = false

section Reading

variable {scheme text : List Char} {url : Url}

theorem clear_user (text : List Char) :
    (∀ char ∈ (readUser text).1, Percent.inUser char = false) ∧
      ∀ char ∈ (readUser text).2, Percent.inUser char = false :=
  ⟨Percent.clear_encode (by decide) (by decide), Percent.clear_encode (by decide) (by decide)⟩

theorem forall_mem_resolve {property : List Char → Prop} (empty : property [])
    {done pieces : List (List Char)} (kept : ∀ segment ∈ done, property segment)
    (each : ∀ piece ∈ pieces, isDoubleDot piece = false → isSingleDot piece = false →
      property piece) : ∀ segment ∈ resolve done pieces, property segment := by
  have closed : ∀ {before : List (List Char)} (rest : List (List Char)),
      (∀ segment ∈ before, property segment) →
        ∀ segment ∈ (if rest.isEmpty then [] :: before else before), property segment := by
    intro before rest all
    split
    · exact List.forall_mem_cons.mpr ⟨empty, all⟩
    · exact all
  induction pieces generalizing done with
  | nil => exact fun segment member => kept segment (List.mem_reverse.mp member)
  | cons piece rest induction =>
      rw [List.forall_mem_cons] at each
      rw [resolve]
      split
      case isTrue =>
        apply induction _ each.2
        exact closed rest fun segment member => kept segment (List.mem_of_mem_tail member)
      case isFalse double =>
        split
        case isTrue => exact induction (closed rest kept) each.2
        case isFalse single =>
          have here := each.1 (Bool.eq_false_iff.mpr double) (Bool.eq_false_iff.mpr single)
          exact induction (List.forall_mem_cons.mpr ⟨here, kept⟩) each.2

theorem resolve_ne_nil {done pieces : List (List Char)} (present : done ≠ [] ∨ pieces ≠ []) :
    resolve done pieces ≠ [] := by
  have closed : ∀ before rest : List (List Char),
      (if rest.isEmpty then [] :: before else before) ≠ [] ∨ rest ≠ [] := by
    intro before rest
    cases rest with
    | nil => exact .inl (List.cons_ne_nil _ _)
    | cons next others => exact .inr (List.cons_ne_nil _ _)
  induction pieces generalizing done with
  | nil =>
      rcases present with filled | impossible
      · exact mt List.reverse_eq_nil_iff.mp filled
      · exact absurd rfl impossible
  | cons piece rest induction =>
      rw [resolve]
      split
      · exact induction (closed _ rest)
      · split
        · exact induction (closed _ rest)
        · exact induction (.inl (List.cons_ne_nil _ _))

theorem isSegment_nil : IsSegment [] :=
  ⟨rfl, rfl, nofun, nofun⟩

theorem exists_readPath (text : List Char) : ∃ segments, readPath .web text = .segments segments ∧
    segments ≠ [] ∧ ∀ segment ∈ segments, IsSegment segment := by
  have read : ∀ text, ∃ segments, readSegments .web text = .segments segments ∧
      segments ≠ [] ∧ ∀ segment ∈ segments, IsSegment segment := by
    intro text
    refine ⟨_, rfl, ?_, ?_⟩
    · exact resolve_ne_nil (.inr (mt List.map_eq_nil_iff.mp (Text.splitWhere_ne_nil text)))
    · apply forall_mem_resolve isSegment_nil (List.forall_mem_nil _)
      intro piece one double single
      obtain ⟨source, cut, rfl⟩ := List.mem_map.mp one
      refine ⟨single, double, Percent.clear_encode (by decide) (by decide), ?_⟩
      intro char member
      rcases Percent.mem_encode member with mark | ⟨found, -⟩
      · exact mark.of_decide (by decide) (by decide)
      · exact (Text.mem_of_mem_splitWhere cut found).2
  unfold readPath
  split
  · exact ⟨[[]], rfl, List.cons_ne_nil _ _, List.forall_mem_singleton.mpr isSegment_nil⟩
  · exact read _

theorem clear_readTail (text : List Char) :
    (∀ query, (readTail .web text).1 = some query →
        ∀ char ∈ query, Percent.inWebQuery char = false) ∧
      ∀ fragment, (readTail .web text).2 = some fragment →
        ∀ char ∈ fragment, Percent.inFragment char = false := by
  unfold readTail
  simp only []
  constructor
  · intro query read
    split at read
    · cases read
      exact Percent.clear_encode (by decide) (by decide)
    · cases read
  · intro fragment read
    split at read
    · cases read
      exact Percent.clear_encode (by decide) (by decide)
    · cases read

theorem readPort?_settled {digits : List Char} {port : Option Nat}
    (read : readPort? scheme digits = some port) :
    ∀ number, port = some number → number < 65536 ∧ defaultPort? scheme ≠ some number := by
  unfold readPort? at read
  rintro number rfl
  split at read
  case isTrue => cases read
  case isFalse =>
    split at read
    case h_2 => cases read
    case h_1 =>
      split at read
      case isTrue => cases read
      case isFalse small =>
        have kept := Option.some.inj read
        split at kept
        case isTrue => cases kept
        case isFalse other =>
          rw [← Option.some.inj kept]
          exact ⟨by omega, other⟩

theorem readAuthority?_settled (web : schemeClass scheme = .web)
    (read : readAuthority? scheme text = some url) : url.Settled := by
  unfold readAuthority? at read
  simp only [web] at read
  split at read
  case isTrue => cases read
  case isFalse =>
    obtain ⟨host, named, read⟩ := Option.bind_eq_some_iff.mp read
    obtain ⟨port, numbered, read⟩ := Option.bind_eq_some_iff.mp read
    cases read
    have credentials : ∀ part : Option (List Char),
        (∀ char ∈ ((part.map readUser).getD ([], [])).1, Percent.inUser char = false) ∧
          ∀ char ∈ ((part.map readUser).getD ([], [])).2, Percent.inUser char = false := by
      intro part
      cases part with
      | none => exact ⟨nofun, nofun⟩
      | some part => exact clear_user part
    exact {
      scheme := web
      user := (credentials _).1
      password := (credentials _).2
      host := ⟨host, _, rfl, named⟩
      port := readPort?_settled numbered
      path := exists_readPath _
      query := (clear_readTail _).1
      fragment := (clear_readTail _).2 }

/-- Reading settles the parts of an address of the web. -/
theorem ofText?_settled {text : String} (read : ofText? text = some url)
    (web : schemeClass url.scheme = .web) : url.Settled := by
  unfold ofText? at read
  obtain ⟨⟨scheme, rest⟩, -, read⟩ := Option.bind_eq_some_iff.mp read
  simp only [] at read
  split at read
  case h_1 known => exact readAuthority?_settled known read
  case h_2 known =>
    have same : url.scheme = scheme := by
      unfold readFile? at read
      simp only [] at read
      split at read
      · obtain ⟨host, -, rfl⟩ := Option.map_eq_some_iff.mp read
        rfl
      · cases read
        rfl
    rw [same, known] at web
    cases web
  case h_3 known =>
    have same : url.scheme = scheme := by
      split at read
      · unfold readAuthority? at read
        simp only [] at read
        split at read
        · cases read
        · obtain ⟨host, -, read⟩ := Option.bind_eq_some_iff.mp read
          obtain ⟨port, -, read⟩ := Option.bind_eq_some_iff.mp read
          cases read
          rfl
      · cases read
        rfl
    rw [same, known] at web
    cases web

end Reading

section Writing

variable {scheme : List Char} {url : Url}

theorem mem_web_schemes (web : schemeClass scheme = .web) :
    scheme ∈ ["http".toList, "https".toList, "ws".toList, "wss".toList, "ftp".toList] := by
  unfold schemeClass at web
  split at web
  case isTrue known => simpa using known
  case isFalse => split at web <;> cases web

theorem readScheme?_web (web : schemeClass scheme = .web) (rest : List Char) :
    readScheme? (scheme ++ ':' :: rest) = some (scheme, rest) := by
  have known := mem_web_schemes web
  simp only [List.mem_cons, List.not_mem_nil, or_false] at known
  rcases known with rfl | rfl | rfl | rfl | rfl <;> rfl

/-- What stands in an address without being cut off at its ends or left out of it. -/
def IsInk (char : Char) : Prop :=
  0x20 < char.toNat

instance (char : Char) : Decidable (IsInk char) :=
  inferInstanceAs (Decidable (0x20 < char.toNat))

theorem ne_of_clear {test : Char → Bool} {char other : Char} (clear : test char = false)
    (tested : test other = true) : char ≠ other := by
  rintro rfl
  rw [clear] at tested
  cases tested

theorem ink_of_clear {test : Char → Bool}
    (controls : ∀ char, Percent.inControls char = true → test char = true)
    (space : test ' ' = true) {char : Char} (clear : test char = false) : IsInk char := by
  have visible : ¬ char.toNat < 0x20 := by
    intro low
    exact ne_of_clear clear (controls char (decide_eq_true (.inl low))) rfl
  have code : char.toNat ≠ 0x20 := by
    intro same
    apply ne_of_clear clear space
    rw [← Char.ofNat_toNat char, same]
  unfold IsInk
  omega

theorem clean_ink {text : List Char} (ink : ∀ char ∈ text, IsInk char) : clean text = text := by
  have outside : ∀ char ∈ text, decide (char.toNat ≤ 0x20) = false := fun char member =>
    decide_eq_false (Nat.not_le.mpr (ink char member))
  have front : ∀ {row : List Char}, (∀ char ∈ row, decide (char.toNat ≤ 0x20) = false) →
      row.dropWhile (fun char => decide (char.toNat ≤ 0x20)) = row := by
    intro row visible
    cases row with
    | nil => rfl
    | cons char rest =>
        rw [List.dropWhile_cons_of_neg]
        rw [visible char List.mem_cons_self]
        exact Bool.false_ne_true
  have back := front fun char member => outside char (List.mem_reverse.mp member)
  rw [clean, front outside, back, List.reverse_reverse]
  apply List.filter_eq_self.mpr
  intro char member
  have visible : 0x20 < char.toNat := ink char member
  rw [decide_eq_true_eq]
  rintro (rfl | rfl | rfl) <;> exact absurd visible (by decide)

theorem splitUser_plain {text : List Char} (plain : ∀ char ∈ text, char ≠ '@') :
    splitUser text = (none, text) := by
  have whole : text.reverse.takeWhile (fun char => char ≠ '@') = text.reverse := by
    apply List.takeWhile_eq_self_iff.mpr
    intro char member
    exact decide_eq_true (plain char (List.mem_reverse.mp member))
  rw [splitUser]
  simp only [whole, List.reverse_reverse, if_true]

theorem splitUser_cut {address : List Char} (plain : ∀ char ∈ address, char ≠ '@')
    (credentials : List Char) :
    splitUser (credentials ++ '@' :: address) = (some credentials, address) := by
  have after : (credentials ++ '@' :: address).reverse.takeWhile (fun char => char ≠ '@') =
      address.reverse := by
    have passed : ∀ char ∈ address.reverse, decide (char ≠ '@') = true := fun char member =>
      decide_eq_true (plain char (List.mem_reverse.mp member))
    rw [List.reverse_append, List.reverse_cons, List.append_assoc,
      List.takeWhile_append_of_pos passed, List.singleton_append, List.takeWhile_cons_of_neg]
    · exact List.append_nil _
    · decide
  rw [splitUser]
  simp only [after, List.reverse_reverse, List.length_append, List.length_cons]
  rw [if_neg (by omega)]
  have front : credentials.length + (address.length + 1) - address.length - 1 =
      credentials.length := by omega
  rw [front, List.take_left]

/-- Colons in brackets do not begin a port. -/
theorem splitPort_append {inBrackets : Bool} {text : List Char}
    (kept : ∀ char ∈ text, char ≠ '[' ∧ char ≠ ']' ∧ (char = ':' → inBrackets = true))
    (rest : List Char) : splitPort inBrackets (text ++ rest) =
      (text ++ (splitPort inBrackets rest).1, (splitPort inBrackets rest).2) := by
  induction text with
  | nil => rfl
  | cons char others induction =>
      rw [List.forall_mem_cons] at kept
      obtain ⟨⟨notOpening, notClosing, colon⟩, later⟩ := kept
      have inside : ¬ (char = ':' ∧ ¬ inBrackets = true) := fun both => both.2 (colon both.1)
      rw [List.cons_append, splitPort, if_neg inside]
      simp only [notOpening, notClosing, if_false, induction later]
      rfl

theorem splitPort_host {host : Host} {text : List Char} (read : Host.ofText? text = some host)
    (rest : List Char) : splitPort false (host.write ++ rest) =
      (host.write ++ (splitPort false rest).1, (splitPort false rest).2) := by
  rcases Host.write_cases read with ⟨-, clear⟩ | ⟨inner, written, clear⟩
  · apply splitPort_append
    intro char member
    have plain := clear char member
    exact ⟨ne_of_clear plain (by decide), ne_of_clear plain (by decide),
      fun colon => absurd colon (ne_of_clear plain (by decide))⟩
  · have grouped : ∀ char ∈ inner, char ≠ '[' ∧ char ≠ ']' ∧ (char = ':' → true = true) := by
      intro char member
      rcases clear char member with rfl | plain
      · decide
      · exact ⟨ne_of_clear plain (by decide), ne_of_clear plain (by decide), fun _ => rfl⟩
    have bracketed := splitPort_append grouped (']' :: rest)
    rw [written, List.append_assoc, List.cons_append, List.singleton_append, splitPort,
      if_neg (by decide)]
    simp only [if_true, bracketed]
    rw [splitPort, if_neg (by decide)]
    simp

theorem splitUser_writeUser (settled : url.Settled) {address : List Char}
    (plain : ∀ char ∈ address, char ≠ '@') :
    ∃ credentials, splitUser (url.writeUser ++ address) = (credentials, address) ∧
      (credentials.map readUser).getD ([], []) = (url.user, url.password) := by
  have user := Percent.encode_plain settled.user
  have password := Percent.encode_plain settled.password
  have uncut : ∀ char ∈ url.user, decide (char = ':') = false := fun char member =>
    decide_eq_false (ne_of_clear (settled.user char member) (by decide))
  unfold writeUser
  split
  case isTrue absent =>
    rw [List.isEmpty_iff, List.isEmpty_iff] at absent
    refine ⟨none, splitUser_plain plain, ?_⟩
    rw [absent.1, absent.2]
    rfl
  case isFalse =>
    rw [List.append_assoc, List.singleton_append]
    refine ⟨_, splitUser_cut plain _, ?_⟩
    rw [Option.map_some, Option.getD_some, readUser]
    by_cases empty : url.password.isEmpty = true
    · rw [if_pos empty, List.append_nil, Text.breakAt_plain uncut, List.isEmpty_iff.mp empty]
      exact congrArg (·, []) user
    · rw [if_neg empty, Text.breakAt_cut uncut (by decide)]
      simp only [user, List.drop_one, List.tail_cons, password]

theorem splitPort_writePort (url : Url) :
    splitPort false url.writePort = ([], url.port.map (Nat.toDigits 10)) := by
  unfold writePort
  split
  case h_1 port found =>
    rw [found, splitPort, if_pos (by decide), Text.toList_toString]
    rfl
  case h_2 found =>
    rw [found]
    rfl

theorem readPort?_written (settled : url.Settled) :
    readPort? url.scheme ((url.port.map (Nat.toDigits 10)).getD []) = some url.port := by
  cases found : url.port with
  | none => rfl
  | some port =>
      obtain ⟨small, other⟩ := settled.port port found
      rw [Option.map_some, Option.getD_some, readPort?,
        if_neg (mt List.isEmpty_iff.mp Nat.toDigits_ne_nil), Host.decimalValue?_decimal]
      simp only [if_neg (Nat.not_le.mpr small), if_neg other]

/-- What an authority consists of. -/
def IsAuthorityChar (char : Char) : Prop :=
  IsInk char ∧ isSlash .web char = false ∧ startsTail char = false

instance (char : Char) : Decidable (IsAuthorityChar char) :=
  inferInstanceAs (Decidable (_ ∧ _ ∧ _))

theorem isAuthorityChar_of_clear {test : Char → Bool} {char : Char} (ink : IsInk char)
    (clear : test char = false) (tested : ∀ stop ∈ ['/', '\\', '?', '#'], test stop = true) :
    IsAuthorityChar char := by
  simp only [List.forall_mem_cons] at tested
  refine ⟨ink, ?_, ?_⟩
  · rw [isSlash, decide_eq_false_iff_not]
    rintro (rfl | ⟨rfl, -⟩)
    · exact ne_of_clear clear tested.1 rfl
    · exact ne_of_clear clear tested.2.1 rfl
  · rw [startsTail, decide_eq_false_iff_not]
    rintro (rfl | rfl)
    · exact ne_of_clear clear tested.2.2.1 rfl
    · exact ne_of_clear clear tested.2.2.2.1 rfl

theorem authorityChar_writeUser (settled : url.Settled) :
    ∀ char ∈ url.writeUser, IsAuthorityChar char := by
  have credential : ∀ char, Percent.inUser char = false → IsAuthorityChar char := by
    intro char clear
    refine isAuthorityChar_of_clear (ink_of_clear ?_ (by decide) clear) clear
      (List.all_eq_true.mp (by decide))
    intro other control
    simp [Percent.inUser, Percent.inPath, Percent.inFragment, control]
  intro char member
  unfold writeUser at member
  split at member
  case isTrue => cases member
  case isFalse =>
    rcases List.mem_append.mp member with inside | last
    · rcases List.mem_append.mp inside with user | password
      · exact credential char (settled.user char user)
      · split at password
        · cases password
        · rcases List.mem_cons.mp password with rfl | password
          · decide
          · exact credential char (settled.password char password)
    · rw [List.mem_singleton.mp last]
      decide

theorem authorityChar_of_notForbidden {char : Char} (clear : Domain.isForbidden char = false) :
    IsAuthorityChar char ∧ char ≠ '@' := by
  have ink : IsInk char := by
    simp only [Domain.isForbidden, decide_eq_false_iff_not, not_or, Nat.not_le] at clear
    exact clear.1
  exact ⟨isAuthorityChar_of_clear ink clear (List.all_eq_true.mp (by decide)),
    ne_of_clear clear (by decide)⟩

theorem authorityChar_writePort (url : Url) :
    ∀ char ∈ url.writePort, IsAuthorityChar char ∧ char ≠ '@' := by
  intro char member
  unfold writePort at member
  split at member
  case h_2 => cases member
  case h_1 port found =>
    rw [Text.toList_toString] at member
    rcases List.mem_cons.mp member with rfl | digit
    · decide
    · have numeral : Domain.IsNumeral char := .inl (Text.isDigit_decimal port char digit)
      exact authorityChar_of_notForbidden numeral.not_forbidden

theorem authorityChar_host {host : Host} {text : List Char}
    (read : Host.ofText? text = some host) :
    ∀ char ∈ host.write, IsAuthorityChar char ∧ char ≠ '@' := by
  intro char member
  rcases Host.write_cases read with ⟨-, clear⟩ | ⟨inner, written, clear⟩
  · exact authorityChar_of_notForbidden (clear char member)
  · rw [written] at member
    rcases List.mem_append.mp member with inside | last
    · rcases List.mem_cons.mp inside with rfl | inside
      · decide
      · rcases clear char inside with rfl | plain
        · decide
        · exact authorityChar_of_notForbidden plain
    · rw [List.mem_singleton.mp last]
      decide

theorem authorityChar_write (settled : url.Settled) {host : Host} {text : List Char}
    (read : Host.ofText? text = some host) :
    ∀ char ∈ url.writeUser ++ (host.write ++ url.writePort), IsAuthorityChar char := by
  intro char member
  rcases List.mem_append.mp member with user | address
  · exact authorityChar_writeUser settled char user
  · rcases List.mem_append.mp address with inHost | inPort
    · exact (authorityChar_host read char inHost).1
    · exact (authorityChar_writePort url char inPort).1

theorem readPath_write {segments : List (List Char)} (present : segments ≠ [])
    (each : ∀ segment ∈ segments, IsSegment segment) :
    readPath .web (UrlPath.segments segments).write = .segments segments := by
  have joined : (UrlPath.segments segments).write = '/' :: Text.joinWith '/' segments :=
    Text.flatMap_cons_joinWith '/' present
  have split : Text.splitWhere (isSlash .web) (Text.joinWith '/' segments) = segments :=
    Text.splitWhere_joinWith (by decide) present fun segment one => (each segment one).undivided
  have encoded : segments.map (Percent.encode Percent.inPath) = segments := by
    have same : ∀ segment ∈ segments, Percent.encode Percent.inPath segment = id segment :=
      fun segment one => Percent.encode_plain (each segment one).encoded
    rw [List.map_congr_left same, List.map_id]
  have resolved : ∀ done pieces : List (List Char), (∀ piece ∈ pieces, IsSegment piece) →
      resolve done pieces = done.reverse ++ pieces := by
    intro done pieces kept
    induction pieces generalizing done with
    | nil => exact (List.append_nil _).symm
    | cons piece rest induction =>
        rw [List.forall_mem_cons] at kept
        rw [resolve, kept.1.notDoubleDot, kept.1.notSingleDot]
        simp only [Bool.false_eq_true, if_false]
        rw [induction (piece :: done) kept.2, List.reverse_cons, List.append_assoc,
          List.singleton_append]
  rw [joined, readPath]
  change readSegments .web (Text.joinWith '/' segments) = _
  rw [readSegments, split, encoded, resolved [] segments each]
  rfl

theorem readTail_write (settled : url.Settled) :
    readTail .web (url.writeQuery ++ url.writeFragment) = (url.query, url.fragment) := by
  have before : ∀ char ∈ url.writeQuery, decide (char = '#') = false := by
    intro char member
    unfold writeQuery at member
    split at member
    case h_2 => cases member
    case h_1 query found =>
      rcases List.mem_cons.mp member with rfl | member
      · decide
      · exact decide_eq_false (ne_of_clear (settled.query query found char member) (by decide))
  have cut : breakAt (· = '#') (url.writeQuery ++ url.writeFragment) =
      (url.writeQuery, url.writeFragment) := by
    unfold writeFragment
    split
    · exact Text.breakAt_cut before (by decide) _
    · rw [List.append_nil]
      exact Text.breakAt_plain before
  rw [readTail, cut]
  simp only []
  congr 1
  · unfold writeQuery
    cases found : url.query with
    | none => rfl
    | some query => exact congrArg some (Percent.encode_plain (settled.query query found))
  · unfold writeFragment
    cases found : url.fragment with
    | none => rfl
    | some fragment => exact congrArg some (Percent.encode_plain (settled.fragment fragment found))

def writeTail (url : Url) : List Char :=
  url.writeQuery ++ url.writeFragment

theorem writeTail_cases (url : Url) :
    url.writeTail = [] ∨ ∃ mark rest, url.writeTail = mark :: rest ∧ startsTail mark = true := by
  unfold writeTail writeQuery writeFragment
  cases url.query with
  | some query => exact .inr ⟨'?', _, rfl, rfl⟩
  | none =>
      cases url.fragment with
      | some fragment => exact .inr ⟨'#', fragment, rfl, rfl⟩
      | none => exact .inl rfl

theorem mem_path_write {segments : List (List Char)}
    (each : ∀ segment ∈ segments, IsSegment segment) {char : Char}
    (member : char ∈ (UrlPath.segments segments).write) :
    char = '/' ∨ Percent.inPath char = false := by
  obtain ⟨segment, one, found⟩ := List.mem_flatMap.mp member
  rcases List.mem_cons.mp found with slash | inside
  · exact .inl slash
  · exact .inr ((each segment one).encoded char inside)

theorem breakAt_path (settled : url.Settled) :
    breakAt startsTail (url.path.write ++ url.writeTail) = (url.path.write, url.writeTail) := by
  obtain ⟨segments, path, -, each⟩ := settled.path
  have plain : ∀ char ∈ url.path.write, startsTail char = false := by
    intro char member
    rw [path] at member
    rw [startsTail, decide_eq_false_iff_not]
    rcases mem_path_write each member with rfl | clear
    · decide
    · rintro (rfl | rfl) <;> cases clear
  rcases url.writeTail_cases with empty | ⟨mark, rest, tail, stop⟩
  · rw [empty, List.append_nil]
    exact Text.breakAt_plain plain
  · rw [tail]
    exact Text.breakAt_cut plain stop rest

theorem readAuthority?_write (settled : url.Settled) {host : Host} (named : url.host = some host) :
    readAuthority? url.scheme
      ((url.writeUser ++ (host.write ++ url.writePort)) ++ (url.path.write ++ url.writeTail)) =
        some url := by
  obtain ⟨_, text, same, read⟩ := settled.host
  cases named.symm.trans same
  obtain ⟨segments, path, present, each⟩ := settled.path
  have authority : ∀ char ∈ url.writeUser ++ (host.write ++ url.writePort),
      decide (isSlash .web char = true ∨ startsTail char = true) = false := by
    intro char member
    have clear := authorityChar_write settled read char member
    simp [clear.2.1, clear.2.2]
  have slash : url.path.write = '/' :: Text.joinWith '/' segments := by
    rw [path]
    exact Text.flatMap_cons_joinWith '/' present
  have cut : breakAt (fun char => isSlash .web char ∨ startsTail char)
      ((url.writeUser ++ (host.write ++ url.writePort)) ++ (url.path.write ++ url.writeTail)) =
        (url.writeUser ++ (host.write ++ url.writePort), url.path.write ++ url.writeTail) := by
    rw [slash]
    exact Text.breakAt_cut authority rfl _
  have noAt : ∀ char ∈ host.write ++ url.writePort, char ≠ '@' := fun char member =>
    (List.mem_append.mp member).elim (fun inHost => (authorityChar_host read char inHost).2)
      fun inPort => (authorityChar_writePort url char inPort).2
  obtain ⟨credentials, user, parts⟩ := splitUser_writeUser settled noAt
  have port := splitPort_host read url.writePort
  rw [splitPort_writePort] at port
  have digits : breakAt (· = '\\') ((url.port.map (Nat.toDigits 10)).getD []) =
      ((url.port.map (Nat.toDigits 10)).getD [], []) := by
    apply Text.breakAt_plain
    intro char member
    cases found : url.port with
    | none =>
        rw [found] at member
        cases member
    | some number =>
        rw [found] at member
        have digit := Text.isDigit_decimal number char member
        rw [decide_eq_false_iff_not]
        rintro rfl
        cases digit
  have hostText : host.write ≠ [] := Host.write_ne_nil read
  have tail := breakAt_path settled
  have found : readHost? .web host.write = some host := Host.ofText?_write read
  have walked : readPath .web url.path.write = url.path := by
    rw [path]
    exact readPath_write present each
  have ends : readTail .web url.writeTail = (url.query, url.fragment) := readTail_write settled
  unfold readAuthority?
  simp only [settled.scheme, cut, user, parts, port, List.append_nil, digits, hostText, false_and,
    if_false, found, readPort?_written settled, List.nil_append, tail, walked, ends]
  change some { url with host := some host } = some url
  rw [← same]

theorem ink_write (settled : url.Settled) : ∀ char ∈ url.write, IsInk char := by
  obtain ⟨host, text, named, read⟩ := settled.host
  obtain ⟨segments, path, -, each⟩ := settled.path
  have known := mem_web_schemes settled.scheme
  have inScheme : ∀ char ∈ url.scheme, IsInk char := by
    simp only [List.mem_cons, List.not_mem_nil, or_false] at known
    rcases known with same | same | same | same | same <;>
      · rw [same]
        exact List.all_iff_forall_prop.mp (by decide)
  have inAuthority : ∀ char ∈ url.writeAuthority, IsInk char := by
    intro char member
    rw [writeAuthority, named] at member
    rcases List.mem_append.mp member with early | inPort
    · rcases List.mem_append.mp early with start | inHost
      · rcases List.mem_append.mp start with slashes | inUser
        · have ink : ∀ char ∈ ['/', '/'], IsInk char := List.all_iff_forall_prop.mp (by decide)
          exact ink char slashes
        · exact (authorityChar_writeUser settled char inUser).1
      · exact (authorityChar_host read char inHost).1.1
    · exact (authorityChar_writePort url char inPort).1.1
  have inPath : ∀ char ∈ url.path.write, IsInk char := by
    intro char member
    rw [path] at member
    rcases mem_path_write each member with rfl | clear
    · decide
    · apply ink_of_clear _ (by decide) clear
      intro other control
      simp [Percent.inPath, Percent.inFragment, control]
  have inQuery : ∀ char ∈ url.writeQuery, IsInk char := by
    intro char member
    unfold writeQuery at member
    split at member
    case h_2 => cases member
    case h_1 query found =>
      rcases List.mem_cons.mp member with rfl | inside
      · decide
      · apply ink_of_clear _ (by decide) (settled.query query found char inside)
        intro other control
        simp [Percent.inWebQuery, Percent.inQuery, control]
  have inFragment : ∀ char ∈ url.writeFragment, IsInk char := by
    intro char member
    unfold writeFragment at member
    split at member
    case h_2 => cases member
    case h_1 fragment found =>
      rcases List.mem_cons.mp member with rfl | inside
      · decide
      · apply ink_of_clear _ (by decide) (settled.fragment fragment found char inside)
        intro other control
        simp [Percent.inFragment, control]
  simp only [write, List.forall_mem_append, List.forall_mem_cons]
  exact ⟨⟨⟨⟨inScheme, by decide, inAuthority⟩, inPath⟩, inQuery⟩, inFragment⟩

/-- An address whose parts are settled is read back from its written form. -/
theorem ofText?_toText (settled : url.Settled) : ofText? url.toText = some url := by
  obtain ⟨host, text, named, read⟩ := settled.host
  let authority := url.writeUser ++ (host.write ++ url.writePort)
  have written : url.write = url.scheme ++ ':' :: '/' :: '/' ::
      (authority ++ (url.path.write ++ url.writeTail)) := by
    rw [write, writeAuthority, named, writeTail]
    simp [authority]
  have slashes : ('/' :: '/' :: (authority ++ (url.path.write ++ url.writeTail))).dropWhile
      (isSlash .web) = authority ++ (url.path.write ++ url.writeTail) := by
    have present : authority ≠ [] := by
      intro empty
      exact Host.write_ne_nil read (List.append_eq_nil_iff.mp (List.append_eq_nil_iff.mp empty).2).1
    have clear := authorityChar_write settled read
    obtain ⟨first, rest, lead⟩ := List.exists_cons_of_ne_nil present
    change ∀ char ∈ authority, IsAuthorityChar char at clear
    rw [lead] at clear ⊢
    rw [List.dropWhile_cons_of_pos rfl, List.dropWhile_cons_of_pos rfl, List.cons_append,
      List.dropWhile_cons_of_neg]
    rw [(clear first List.mem_cons_self).2.1]
    exact Bool.false_ne_true
  rw [ofText?, toText, String.toList_ofList, clean_ink (ink_write settled), written,
    readScheme?_web settled.scheme]
  simp only [Option.bind_eq_bind, Option.bind_some, settled.scheme, slashes]
  exact readAuthority?_write settled named

end Writing

end SealedContent.Web.Url
