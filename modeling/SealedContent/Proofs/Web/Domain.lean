import Mathlib.Data.List.Basic
import SealedContent.Proofs.Text.Folding
import SealedContent.Proofs.Web.Punycode
import SealedContent.Web.Domain

/-!
The ASCII form of a name is its own ASCII form: every label of it is read back as the label that it was
made of. It holds nothing that ends a host, and a row of digits and full stops is its own form.
-/

namespace SealedContent

namespace Web.Domain

theorem fold_ascii {name : List Char}
    (each : ∀ char ∈ name, char.toNat < 0x80 ∧ ¬ Text.IsCapital char) : fold name = name := by
  have kept : ∀ char ∈ name, Text.foldChar char = [char] := fun char member =>
    Text.foldChar_ascii (each char member).1 (each char member).2
  rw [fold, List.flatMap_congr kept, List.flatMap_singleton', Text.compose_low]
  intro char member
  have ascii := (each char member).1
  omega

theorem not_isCapital_of_mem_fold {name : List Char} {char : Char} (member : char ∈ fold name) :
    ¬ Text.IsCapital char := by
  apply Text.not_isCapital_of_mem_compose _ member
  intro char member
  obtain ⟨source, -, folded⟩ := List.mem_flatMap.mp member
  exact Text.not_isCapital_of_mem_foldChar folded

/-- What a label in its ASCII form consists of. -/
def IsLabelChar (char : Char) : Prop :=
  char.toNat < 0x80 ∧ ¬ Text.IsCapital char ∧ isStop char = false

instance : DecidablePred IsLabelChar := fun char =>
  inferInstanceAs (Decidable (char.toNat < 0x80 ∧ ¬ Text.IsCapital char ∧ isStop char = false))

theorem isLabelChar_encode {label : List Char}
    (each : ∀ char ∈ label, ¬ Text.IsCapital char ∧ isStop char = false) {char : Char}
    (member : char ∈ Punycode.encode label) : IsLabelChar char := by
  have digits : ∀ digit < 36, IsLabelChar (Punycode.digitChar digit) := by decide
  rcases Punycode.mem_encode member with ⟨kept, ascii⟩ | rfl | ⟨digit, small, rfl⟩
  · exact ⟨ascii, each char kept⟩
  · decide
  · exact digits digit small

theorem clear_of_isPlain {label : List Char} (plain : isPlain label = true) :
    ∀ char ∈ label, ¬ Text.IsCapital char ∧ isStop char = false := by
  obtain ⟨folded, each, -⟩ := of_decide_eq_true plain
  intro char member
  have allowed := of_decide_eq_true (List.all_eq_true.mp each char member)
  rw [← folded] at member
  exact ⟨not_isCapital_of_mem_fold member, Bool.eq_false_iff.mpr allowed.2.2⟩

theorem plainLabel?_eq_some {piece label : List Char} (read : plainLabel? piece = some label) :
    (isAscii label = true → piece = label) ∧ (¬ isAscii label = true → isPlain label = true) := by
  unfold plainLabel? at read
  split at read
  case isTrue =>
    split at read
    case h_1 plain decoded =>
      split at read
      case isTrue => cases read
      case isFalse proper =>
        cases read
        obtain ⟨beyond, plain⟩ := not_or.mp proper
        exact ⟨fun ascii => absurd ascii beyond, fun _ => not_not.mp plain⟩
    case h_2 => cases read
  case isFalse =>
    split at read
    case isTrue fine =>
      cases read
      exact ⟨fun _ => rfl, fine.resolve_left⟩
    case isFalse => cases read

/-- A label is read back from its ASCII form, which is written in small letters without full stops. -/
theorem asciiForm_settled {piece label : List Char}
    (each : ∀ char ∈ piece, ¬ Text.IsCapital char ∧ isStop char = false)
    (read : plainLabel? piece = some label) :
    plainLabel? (asciiForm label) = some label ∧ ∀ char ∈ asciiForm label, IsLabelChar char := by
  obtain ⟨same, plain⟩ := plainLabel?_eq_some read
  by_cases ascii : isAscii label = true
  · rw [same ascii] at read each
    rw [asciiForm, if_pos ascii]
    exact ⟨read, fun char member =>
      ⟨of_decide_eq_true (List.all_eq_true.mp ascii char member), each char member⟩⟩
  · have clear := clear_of_isPlain (plain ascii)
    have marks : marker.all (IsLabelChar ·) = true := by decide
    rw [asciiForm, if_neg ascii]
    constructor
    · rw [plainLabel?, List.take_left, List.drop_left, if_pos rfl, Punycode.decode?_encode]
      exact if_neg (not_or.mpr ⟨ascii, not_not.mpr (plain ascii)⟩)
    · exact List.forall_mem_append.mpr
        ⟨fun char member => of_decide_eq_true (List.all_eq_true.mp marks char member),
          fun char => isLabelChar_encode clear⟩

theorem canonical?_eq_some {name joined : List Char} (canonical : canonical? name = some joined) :
    ∃ labels, (Text.splitWhere isStop (fold name)).mapM plainLabel? = some labels ∧
      joined = Text.joinWith '.' (labels.map asciiForm) ∧ joined.any isForbidden = false ∧
      directed labels = true := by
  unfold canonical? at canonical
  obtain ⟨labels, read, accepted⟩ := Option.bind_eq_some_iff.mp canonical
  dsimp only at accepted
  split at accepted
  case isTrue => cases accepted
  case isFalse fine =>
    cases accepted
    obtain ⟨clear, straight⟩ := not_or.mp fine
    exact ⟨labels, read, rfl, Bool.eq_false_iff.mpr clear, not_not.mp straight⟩

theorem canonical?_idempotent {name joined : List Char}
    (canonical : canonical? name = some joined) : canonical? joined = some joined := by
  obtain ⟨labels, read, written, clear, straight⟩ := canonical?_eq_some canonical
  obtain ⟨length, settled⟩ := Text.forall_of_mapM (fun piece one label read =>
    asciiForm_settled (fun char member =>
      ((Text.mem_of_mem_splitWhere one member).imp_left not_isCapital_of_mem_fold)) read) read
  have present : labels.map asciiForm ≠ [] := by
    rw [← List.length_pos_iff, List.length_map, length, List.length_pos_iff]
    exact Text.splitWhere_ne_nil _
  have pieces : Text.splitWhere isStop joined = labels.map asciiForm := by
    rw [written]
    apply Text.splitWhere_joinWith rfl present
    intro piece member char among
    obtain ⟨label, listed, rfl⟩ := List.mem_map.mp member
    exact ((settled label listed).2 char among).2.2
  have folded : fold joined = joined := by
    apply fold_ascii
    intro char member
    rw [written] at member
    rcases Text.mem_joinWith member with rfl | ⟨piece, among, inside⟩
    · decide
    · obtain ⟨label, listed, rfl⟩ := List.mem_map.mp among
      exact ((settled label listed).2 char inside).imp_right And.left
  have again : (labels.map asciiForm).mapM plainLabel? = some labels :=
    Text.mapM_written fun label listed => (settled label listed).1
  rw [canonical?, folded, pieces, again]
  change (if (Text.joinWith '.' (labels.map asciiForm)).any isForbidden ∨ ¬ directed labels then none
    else some (Text.joinWith '.' (labels.map asciiForm))) = some joined
  rw [← written, clear, straight]
  rfl

theorem not_forbidden {name joined : List Char} (canonical : canonical? name = some joined) :
    ∀ char ∈ joined, isForbidden char = false := by
  obtain ⟨-, -, -, clear, -⟩ := canonical?_eq_some canonical
  rw [List.any_eq_false] at clear
  exact fun char member => Bool.eq_false_iff.mpr (clear char member)

/-- What numbers with full stops between them are written with. -/
def IsNumeral (char : Char) : Prop :=
  char.isDigit = true ∨ char = '.'

theorem IsNumeral.bounds {char : Char} (numeral : IsNumeral char) :
    46 ≤ char.toNat ∧ char.toNat < 58 ∧ char.toNat ≠ 47 := by
  rcases numeral with digit | rfl
  · simp only [Char.isDigit, Bool.and_eq_true, decide_eq_true_eq, UInt32.le_iff_toNat_le] at digit
    have least : 48 ≤ char.toNat := digit.1
    have greatest : char.toNat ≤ 57 := digit.2
    omega
  · decide

/-- What holds of the eleven numerals is decided by looking at each. -/
theorem IsNumeral.of_codes (property : Char → Prop)
    (each : ∀ code < 58, 46 ≤ code → code ≠ 47 → property (Char.ofNat code)) {char : Char}
    (numeral : IsNumeral char) : property char := by
  obtain ⟨least, greatest, other⟩ := numeral.bounds
  have found := each char.toNat greatest least other
  rwa [Char.ofNat_toNat] at found

theorem IsNumeral.not_forbidden {char : Char} (numeral : IsNumeral char) :
    isForbidden char = false :=
  of_codes (fun char => isForbidden char = false) (by decide) numeral

theorem IsNumeral.direction {char : Char} (numeral : IsNumeral char) :
    [.leftward, .leftwardDigit].contains (Text.direction char) = false :=
  of_codes (fun char => [.leftward, .leftwardDigit].contains (Text.direction char) = false)
    (by decide) numeral

theorem plainLabel?_numerals {label : List Char} (numerals : ∀ char ∈ label, IsNumeral char) :
    plainLabel? label = some label ∧ asciiForm label = label := by
  have ascii : isAscii label = true := by
    apply List.all_eq_true.mpr
    intro char member
    have bounds := (numerals char member).bounds
    exact decide_eq_true (by omega)
  have unmarked : label.take marker.length ≠ marker := by
    intro marked
    have first : 'x' ∈ label := by
      apply List.mem_of_mem_take (i := marker.length)
      rw [marked]
      decide
    exact absurd (numerals 'x' first).bounds (by decide)
  constructor
  · rw [plainLabel?, if_neg unmarked, if_pos (.inl ascii)]
  · rw [asciiForm, if_pos ascii]

theorem canonical?_numerals {name : List Char} (numerals : ∀ char ∈ name, IsNumeral char) :
    canonical? name = some name := by
  have folded : fold name = name := by
    apply fold_ascii
    intro char member
    have bounds := (numerals char member).bounds
    rw [Text.IsCapital]
    omega
  let labels := Text.splitWhere isStop name
  have numeral : ∀ label ∈ labels, ∀ char ∈ label, IsNumeral char := fun label one char member =>
    numerals char (Text.mem_of_mem_splitWhere one member).1
  have plain : labels.mapM plainLabel? = some labels := by
    have read : (labels.map id).mapM plainLabel? = some labels :=
      Text.mapM_written fun label one => (plainLabel?_numerals (numeral label one)).1
    rwa [List.map_id] at read
  have written : Text.joinWith '.' (labels.map asciiForm) = name := by
    rw [List.map_congr_left fun label one => (plainLabel?_numerals (numeral label one)).2,
      List.map_id']
    apply Text.joinWith_splitWhere
    intro char member
    exact IsNumeral.of_codes (fun char => isStop char = true → char = '.') (by decide)
      (numerals char member)
  have clear : name.any isForbidden = false := by
    rw [List.any_eq_false]
    intro char member
    rw [(numerals char member).not_forbidden]
    exact Bool.false_ne_true
  have upright : labels.any Text.turnsLeft = false := by
    rw [List.any_eq_false]
    intro label one turned
    obtain ⟨char, member, leftward⟩ := List.any_eq_true.mp turned
    rw [(numeral label one char member).direction] at leftward
    cases leftward
  have steady : directed labels = true := by
    rw [directed, upright]
    rfl
  rw [canonical?, folded, plain]
  change (if (Text.joinWith '.' (labels.map asciiForm)).any isForbidden ∨ ¬ directed labels then none
    else some (Text.joinWith '.' (labels.map asciiForm))) = some name
  rw [written, clear, steady]
  rfl

end Web.Domain

end SealedContent
