import Mathlib.Data.List.Basic
import SealedContent.Text.Composition
import SealedContent.Text.Folding

/-!
Folding leaves no capital letter of ASCII, neither one that was there nor one that a character is folded
to, and composing adds none. A text without combining marks is composed already.
-/

namespace SealedContent.Text

/-- Nothing below the first combining mark is joined to what stands before it. -/
theorem composeFrom_low {rest : List Char} (low : ∀ char ∈ rest, char.toNat < 0x300) (base : Char) :
    composeFrom base rest = base :: rest := by
  induction rest generalizing base with
  | nil => rfl
  | cons next others induction =>
      rw [List.forall_mem_cons] at low
      have apart : composePair? base next = none := by rw [composePair?, if_pos low.1]
      rw [composeFrom, apart]
      dsimp only
      rw [induction low.2]

theorem compose_low {text : List Char} (low : ∀ char ∈ text, char.toNat < 0x300) :
    compose text = text := by
  cases text with
  | nil => rfl
  | cons first rest =>
      rw [List.forall_mem_cons] at low
      rw [compose, composeFrom_low low.2]

def IsCapital (char : Char) : Prop :=
  65 ≤ char.toNat ∧ char.toNat ≤ 90

instance : DecidablePred IsCapital := fun char =>
  inferInstanceAs (Decidable (65 ≤ char.toNat ∧ char.toNat ≤ 90))

theorem isCapital_iff {char : Char} : IsCapital char ↔ 'A' ≤ char ∧ char ≤ 'Z' := by
  rw [Char.le_def, Char.le_def, UInt32.le_iff_toNat_le, UInt32.le_iff_toNat_le]
  exact Iff.rfl

theorem not_isCapital_ofNat {code : Nat} (apart : code < 65 ∨ 90 < code) :
    ¬ IsCapital (Char.ofNat code) := by
  by_cases valid : code.isValidChar
  · have value : (Char.ofNat code).toNat = code := congrArg Char.toNat (dif_pos valid)
    rw [IsCapital, value]
    omega
  · have value : Char.ofNat code = '\x00' := dif_neg valid
    rw [value]
    decide

theorem foldChar_ascii {char : Char} (ascii : char.toNat < 0x80) (small : ¬ IsCapital char) :
    foldChar char = [char] := by
  rw [foldChar, if_neg (isCapital_iff.not.mp small), if_pos ascii]

/-- No run of the table and none of its words leads to a capital letter. -/
theorem foldCode_apart {code folded : Nat} (beyond : 0x80 ≤ code) (member : folded ∈ foldCode code) :
    folded < 65 ∨ 90 < folded := by
  have runs : foldRuns.all fun run =>
      90 < run.target ∨ run.target + (run.last - run.first) < 65 := by decide +kernel
  have words : foldWords.all fun entry => entry.2.all fun code => code < 65 ∨ 90 < code := by
    decide +kernel
  unfold foldCode at member
  split at member
  case h_1 run found =>
    have within := List.find?_some found
    have apart := List.all_eq_true.mp runs run (List.mem_of_find?_eq_some found)
    rw [decide_eq_true_eq] at within apart
    rw [List.mem_singleton] at member
    omega
  case h_2 =>
    split at member
    case h_1 codes found =>
      obtain ⟨before, after, whole, -⟩ := List.lookup_eq_some_iff.mp found
      have listed : (code, codes) ∈ foldWords := by
        rw [whole]
        exact List.mem_append_right _ List.mem_cons_self
      exact of_decide_eq_true
        (List.all_eq_true.mp (List.all_eq_true.mp words _ listed) folded member)
    case h_2 =>
      split at member
      · cases member
      · rw [List.mem_singleton] at member
        omega

theorem not_isCapital_of_mem_foldChar {char folded : Char} (member : folded ∈ foldChar char) :
    ¬ IsCapital folded := by
  unfold foldChar at member
  split at member
  case isTrue capital =>
    rw [List.mem_singleton] at member
    rw [member]
    have bounds := isCapital_iff.mpr capital
    exact not_isCapital_ofNat (.inr (by rw [IsCapital] at bounds; omega))
  case isFalse small =>
    split at member
    case isTrue =>
      rw [List.mem_singleton] at member
      rw [member]
      exact isCapital_iff.not.mpr small
    case isFalse beyond =>
      obtain ⟨code, listed, rfl⟩ := List.mem_map.mp member
      exact not_isCapital_ofNat (foldCode_apart (Nat.le_of_not_lt beyond) listed)

theorem composeSyllable?_beyond {base mark code : Nat}
    (syllable : composeSyllable? base mark = some code) : 90 < code := by
  unfold composeSyllable? at syllable
  split at syllable
  case isTrue =>
    rw [← Option.some.inj syllable]
    omega
  case isFalse =>
    split at syllable
    · rw [← Option.some.inj syllable]
      omega
    · cases syllable

theorem not_isCapital_of_composePair? {base mark both : Char}
    (composed : composePair? base mark = some both) : ¬ IsCapital both := by
  have table : compositions.all fun entry => entry.2.2 < 65 ∨ 90 < entry.2.2 := by decide +kernel
  unfold composePair? at composed
  split at composed
  case isTrue => cases composed
  case isFalse =>
    split at composed
    case h_1 code syllable =>
      rw [← Option.some.inj composed]
      exact not_isCapital_ofNat (.inr (composeSyllable?_beyond syllable))
    case h_2 =>
      obtain ⟨entry, found, rfl⟩ := Option.map_eq_some_iff.mp composed
      exact not_isCapital_ofNat (of_decide_eq_true
        (List.all_eq_true.mp table entry (List.mem_of_find?_eq_some found)))

theorem not_isCapital_of_mem_composeFrom {base char : Char} {rest : List Char}
    (small : ∀ char ∈ base :: rest, ¬ IsCapital char) (member : char ∈ composeFrom base rest) :
    ¬ IsCapital char := by
  induction rest generalizing base with
  | nil => exact small char member
  | cons next others induction =>
      rw [List.forall_mem_cons, List.forall_mem_cons] at small
      obtain ⟨first, second, later⟩ := small
      rw [composeFrom] at member
      split at member
      case h_1 both composed =>
        exact induction (List.forall_mem_cons.mpr ⟨not_isCapital_of_composePair? composed, later⟩) member
      case h_2 =>
        rcases List.mem_cons.mp member with rfl | member
        · exact first
        · exact induction (List.forall_mem_cons.mpr ⟨second, later⟩) member

theorem not_isCapital_of_mem_compose {char : Char} {text : List Char}
    (small : ∀ char ∈ text, ¬ IsCapital char) (member : char ∈ compose text) : ¬ IsCapital char := by
  cases text with
  | nil => cases member
  | cons base rest => exact not_isCapital_of_mem_composeFrom small member

end SealedContent.Text
