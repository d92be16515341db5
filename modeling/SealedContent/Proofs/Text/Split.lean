import Mathlib.Data.List.TakeWhile
import SealedContent.Text.Split

/-!
Splitting and joining are inverse where separators are only between the pieces, and a text is cut at the
first character that meets a test.
-/

namespace SealedContent.Text

section Pieces

variable {isSeparator : Char → Bool}

theorem splitWhere_ne_nil (text : List Char) : splitWhere isSeparator text ≠ [] := by
  cases text with
  | nil => exact List.cons_ne_nil _ _
  | cons char rest =>
      rw [splitWhere]
      split
      · exact List.cons_ne_nil _ _
      · split <;> exact List.cons_ne_nil _ _

theorem splitWhere_plain {text : List Char} (plain : ∀ char ∈ text, isSeparator char = false) :
    splitWhere isSeparator text = [text] := by
  induction text with
  | nil => rfl
  | cons char rest induction =>
      rw [List.forall_mem_cons] at plain
      rw [splitWhere, plain.1, induction plain.2]
      rfl

/-- An end without separators belongs to the last piece. -/
theorem splitWhere_append {tail : List Char} (plain : ∀ char ∈ tail, isSeparator char = false)
    (text : List Char) :
    ∃ pieces last, splitWhere isSeparator text = pieces ++ [last] ∧
      splitWhere isSeparator (text ++ tail) = pieces ++ [last ++ tail] := by
  induction text with
  | nil => exact ⟨[], [], rfl, splitWhere_plain plain⟩
  | cons char rest induction =>
      obtain ⟨pieces, last, whole, extended⟩ := induction
      by_cases separator : isSeparator char = true
      · refine ⟨[] :: pieces, last, ?_, ?_⟩
        · rw [splitWhere, if_pos separator, whole, List.cons_append]
        · rw [List.cons_append, splitWhere, if_pos separator, extended, List.cons_append]
      · cases pieces with
        | nil =>
            refine ⟨[], char :: last, ?_, ?_⟩
            · rw [splitWhere, if_neg separator, whole]
              rfl
            · rw [List.cons_append, splitWhere, if_neg separator, extended]
              rfl
        | cons piece pieces =>
            refine ⟨(char :: piece) :: pieces, last, ?_, ?_⟩
            · rw [splitWhere, if_neg separator, whole]
              rfl
            · rw [List.cons_append, splitWhere, if_neg separator, extended]
              rfl

theorem joinWith_cons (separator : Char) (piece : List Char) {others : List (List Char)}
    (present : others ≠ []) :
    joinWith separator (piece :: others) = piece ++ separator :: joinWith separator others := by
  cases others with
  | nil => exact absurd rfl present
  | cons next more => rfl

/-- A separator ends one piece and starts the next. -/
theorem splitWhere_append_separator {separator : Char} (cut : isSeparator separator = true)
    (text rest : List Char) :
    splitWhere isSeparator (text ++ separator :: rest) =
      splitWhere isSeparator text ++ splitWhere isSeparator rest := by
  induction text with
  | nil => exact if_pos cut
  | cons char text induction =>
      obtain ⟨piece, pieces, split⟩ := List.exists_cons_of_ne_nil (splitWhere_ne_nil text)
      rw [split] at induction
      rw [List.cons_append, splitWhere, splitWhere, induction, split]
      by_cases separates : isSeparator char = true
      · rw [if_pos separates, if_pos separates]
        rfl
      · rw [if_neg separates, if_neg separates]
        rfl

/-- The first piece ends at the first separator. -/
theorem splitWhere_cut {piece : List Char} (plain : ∀ char ∈ piece, isSeparator char = false)
    {separator : Char} (cut : isSeparator separator = true) (rest : List Char) :
    splitWhere isSeparator (piece ++ separator :: rest) = piece :: splitWhere isSeparator rest := by
  rw [splitWhere_append_separator cut, splitWhere_plain plain, List.singleton_append]

theorem splitWhere_joinWith {separator : Char} (cut : isSeparator separator = true)
    {pieces : List (List Char)} (present : pieces ≠ [])
    (plain : ∀ piece ∈ pieces, ∀ char ∈ piece, isSeparator char = false) :
    splitWhere isSeparator (joinWith separator pieces) = pieces := by
  induction pieces with
  | nil => exact absurd rfl present
  | cons piece others induction =>
      rw [List.forall_mem_cons] at plain
      cases others with
      | nil => exact splitWhere_plain plain.1
      | cons next more =>
          have later := List.cons_ne_nil next more
          rw [joinWith_cons separator piece later, splitWhere_cut plain.1 cut,
            induction later plain.2]

theorem joinWith_splitWhere {separator : Char} {text : List Char}
    (only : ∀ char ∈ text, isSeparator char = true → char = separator) :
    joinWith separator (splitWhere isSeparator text) = text := by
  induction text with
  | nil => rfl
  | cons char rest induction =>
      rw [List.forall_mem_cons] at only
      have joined := induction only.2
      obtain ⟨piece, pieces, split⟩ := List.exists_cons_of_ne_nil (splitWhere_ne_nil rest)
      by_cases cut : isSeparator char = true
      · rw [splitWhere, if_pos cut, joinWith_cons separator [] (splitWhere_ne_nil rest), joined,
          only.1 cut, List.nil_append]
      · rw [split] at joined
        rw [splitWhere, if_neg cut, split, ← joined]
        cases pieces with
        | nil => rfl
        | cons next more => rfl

theorem mem_of_mem_splitWhere {text piece : List Char} (one : piece ∈ splitWhere isSeparator text)
    {char : Char} (member : char ∈ piece) : char ∈ text ∧ isSeparator char = false := by
  induction text generalizing piece with
  | nil =>
      rw [splitWhere, List.mem_singleton] at one
      rw [one] at member
      cases member
  | cons head rest induction =>
      obtain ⟨first, others, split⟩ :=
        List.exists_cons_of_ne_nil (@splitWhere_ne_nil isSeparator rest)
      have later : ∀ {piece}, piece ∈ first :: others → char ∈ piece →
          char ∈ head :: rest ∧ isSeparator char = false := by
        intro piece one member
        have found := induction (split ▸ one) member
        exact ⟨List.mem_cons_of_mem _ found.1, found.2⟩
      by_cases cut : isSeparator head = true
      · rw [splitWhere, if_pos cut, split] at one
        rcases List.mem_cons.mp one with rfl | one
        · cases member
        · exact later one member
      · rw [splitWhere, if_neg cut, split] at one
        rcases List.mem_cons.mp one with rfl | one
        · rcases List.mem_cons.mp member with rfl | member
          · exact ⟨List.mem_cons_self, Bool.eq_false_iff.mpr cut⟩
          · exact later List.mem_cons_self member
        · exact later (List.mem_cons_of_mem _ one) member

theorem mem_joinWith {separator : Char} {pieces : List (List Char)} {char : Char}
    (member : char ∈ joinWith separator pieces) :
    char = separator ∨ ∃ piece ∈ pieces, char ∈ piece := by
  induction pieces with
  | nil => cases member
  | cons piece others induction =>
      cases others with
      | nil => exact .inr ⟨piece, List.mem_singleton_self _, member⟩
      | cons next more =>
          rw [joinWith_cons separator piece (List.cons_ne_nil _ _)] at member
          rcases List.mem_append.mp member with here | later
          · exact .inr ⟨piece, List.mem_cons_self, here⟩
          · rcases List.mem_cons.mp later with same | beyond
            · exact .inl same
            · exact (induction beyond).imp_right fun ⟨other, one, found⟩ =>
                ⟨other, List.mem_cons_of_mem _ one, found⟩

/-- A separator before each piece is one before all, joined. -/
theorem flatMap_cons_joinWith (separator : Char) {pieces : List (List Char)}
    (present : pieces ≠ []) :
    pieces.flatMap (fun piece => separator :: piece) = separator :: joinWith separator pieces := by
  induction pieces with
  | nil => exact absurd rfl present
  | cons piece others induction =>
      cases others with
      | nil => rw [List.flatMap_singleton, joinWith]
      | cons next more =>
          have later := List.cons_ne_nil next more
          rw [List.flatMap_cons, induction later, joinWith_cons separator piece later,
            List.cons_append]

/-- Where every item has a result, the row has all of them. -/
theorem mapM_eq_map {α β : Type} {read : α → Option β} {result : α → β} {items : List α}
    (reads : ∀ item ∈ items, read item = some (result item)) :
    items.mapM read = some (items.map result) := by
  induction items with
  | nil => rfl
  | cons item rest induction =>
      rw [List.forall_mem_cons] at reads
      rw [List.mapM_cons, reads.1, induction reads.2]
      rfl

/-- What each item is written as reads back, so the row does. -/
theorem mapM_written {α β : Type} {read : β → Option α} {write : α → β} {items : List α}
    (reads : ∀ item ∈ items, read (write item) = some item) :
    (items.map write).mapM read = some items := by
  have each : items.mapM (fun item => read (write item)) = some (items.map fun item => item) :=
    mapM_eq_map reads
  rw [List.mapM_map]
  rw [List.map_id'] at each
  exact each

theorem forall_of_mapM {α β : Type} {read : α → Option β} {property : β → Prop} {sources : List α}
    {values : List β}
    (each : ∀ source ∈ sources, ∀ value, read source = some value → property value)
    (all : sources.mapM read = some values) :
    values.length = sources.length ∧ ∀ value ∈ values, property value := by
  induction sources generalizing values with
  | nil =>
      cases all
      exact ⟨rfl, fun value member => (List.not_mem_nil member).elim⟩
  | cons source rest induction =>
      rw [List.forall_mem_cons] at each
      rw [List.mapM_cons] at all
      obtain ⟨value, first, all⟩ := Option.bind_eq_some_iff.mp all
      obtain ⟨others, later, all⟩ := Option.bind_eq_some_iff.mp all
      cases all
      obtain ⟨length, kept⟩ := induction each.2 later
      exact ⟨congrArg Nat.succ length, List.forall_mem_cons.mpr ⟨each.1 value first, kept⟩⟩

end Pieces

section Break

variable {stops : Char → Bool} {before text : List Char}

theorem breakAt_append (plain : ∀ char ∈ before, stops char = false) (after : List Char) :
    breakAt stops (before ++ after) =
      (before ++ (breakAt stops after).1, (breakAt stops after).2) := by
  have passed : ∀ char ∈ before, decide ¬ stops char = true := by
    intro char member
    rw [plain char member]
    rfl
  rw [breakAt, List.takeWhile_append_of_pos passed, List.dropWhile_append_of_pos passed]
  rfl

theorem breakAt_stop {char : Char} (stop : stops char = true) (rest : List Char) :
    breakAt stops (char :: rest) = ([], char :: rest) := by
  simp [breakAt, stop]

theorem breakAt_plain (plain : ∀ char ∈ text, stops char = false) :
    breakAt stops text = (text, []) := by
  have whole := breakAt_append plain []
  rw [List.append_nil] at whole
  rw [whole]
  exact congrArg (·, []) (List.append_nil text)

/-- A text is cut before the character that it was put together at. -/
theorem breakAt_cut (plain : ∀ char ∈ before, stops char = false) {char : Char}
    (stop : stops char = true) (rest : List Char) :
    breakAt stops (before ++ char :: rest) = (before, char :: rest) := by
  rw [breakAt_append plain, breakAt_stop stop, List.append_nil]

end Break

end SealedContent.Text
