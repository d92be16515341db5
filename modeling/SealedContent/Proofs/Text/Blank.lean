import Mathlib.Data.List.TakeWhile
import SealedContent.Text.Blank

/-!
Texts without white space: trimming leaves them as they are, and they are not blank unless empty.
-/

namespace SealedContent.Text

theorem dropWhile_blank_cons {blank rest : List Char} {char : Char}
    (white : ∀ char ∈ blank, isBlank char = true) (visible : isBlank char = false) :
    (blank ++ char :: rest).dropWhile isBlank = char :: rest := by
  rw [List.dropWhile_append_of_pos white, List.dropWhile_cons_of_neg (by simp [visible])]

/-- Trimming takes away the white space around a row that has none. -/
theorem trimChars_surrounded {before chars after : List Char}
    (whiteBefore : ∀ char ∈ before, isBlank char = true)
    (visible : ∀ char ∈ chars, isBlank char = false)
    (whiteAfter : ∀ char ∈ after, isBlank char = true) :
    trimChars (before ++ (chars ++ after)) = chars := by
  by_cases empty : chars = []
  · have white : ∀ char ∈ before ++ after, isBlank char = true := fun char member =>
      (List.mem_append.mp member).elim (whiteBefore char) (whiteAfter char)
    rw [empty, trimChars, List.nil_append, List.dropWhile_eq_nil_iff.mpr white]
    rfl
  · obtain ⟨first, rest, chars_eq⟩ := List.exists_cons_of_ne_nil empty
    obtain ⟨last, others, reverse_eq⟩ :=
      List.exists_cons_of_ne_nil (mt List.reverse_eq_nil_iff.mp empty)
    have first_visible : isBlank first = false := visible first (by simp [chars_eq])
    have last_visible : isBlank last = false :=
      visible last (List.mem_reverse.mp (by simp [reverse_eq]))
    have front : (before ++ (chars ++ after)).dropWhile isBlank = chars ++ after := by
      rw [chars_eq, List.cons_append, dropWhile_blank_cons whiteBefore first_visible]
    have back : (chars ++ after).reverse.dropWhile isBlank = chars.reverse := by
      rw [List.reverse_append, reverse_eq, dropWhile_blank_cons _ last_visible]
      exact fun char member => whiteAfter char (List.mem_reverse.mp member)
    rw [trimChars, front, back, List.reverse_reverse]

theorem trimChars_of_visible {chars : List Char} (visible : ∀ char ∈ chars, isBlank char = false) :
    trimChars chars = chars := by
  have alone : trimChars ([] ++ (chars ++ [])) = chars := trimChars_surrounded nofun visible nofun
  rwa [List.nil_append, List.append_nil] at alone

theorem trim_of_visible {text : String}
    (visible : ∀ char ∈ text.toList, isBlank char = false) : trim text = text := by
  rw [trim, trimChars_of_visible visible, String.ofList_toList]

theorem onlyBlank_of_visible {text : String} (present : text ≠ "")
    (visible : ∀ char ∈ text.toList, isBlank char = false) : onlyBlank text = false := by
  have filled : text.toList ≠ [] := by
    intro empty
    exact present (String.toList_eq_nil_iff.mp empty)
  obtain ⟨char, more, chars⟩ := List.exists_cons_of_ne_nil filled
  rw [chars] at visible
  rw [onlyBlank, chars, List.all_cons, visible char List.mem_cons_self, Bool.false_and]

end SealedContent.Text
