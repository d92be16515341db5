import SealedContent.Proofs.Text.Split
import SealedContent.Web.Punycode

/-!
A label reads back from its Punycode. The reader keeps pace with the writer: whatever code points the
writer has passed, the same ones are in place for the reader of what is written so far, and the distance
that is not yet written leads from the place of the reader to that of the writer.
-/

namespace SealedContent.Web.Punycode

theorem threshold_le (weight bias : Nat) : threshold weight bias ≤ 26 := by
  unfold threshold
  (repeat' split) <;> omega

theorem lt_of_mem_writeNumber {bias weight value digit : Nat}
    (member : digit ∈ writeNumber bias weight value) : digit < 36 := by
  have low := one_le_threshold weight bias
  have high := threshold_le weight bias
  induction weight, value using writeNumber.induct bias with
  | case1 weight value least small =>
      rw [writeNumber, if_pos small, List.mem_singleton] at member
      omega
  | case2 weight value least large induction =>
      rw [writeNumber, if_neg large] at member
      have some_left : 0 < 36 - least := Nat.sub_pos_of_lt (Nat.lt_of_le_of_lt high (by decide))
      rcases List.mem_cons.mp member with rfl | later
      · have rest := Nat.mod_lt (value - least) some_left
        exact Nat.add_lt_of_lt_sub' rest
      · exact induction later (one_le_threshold _ _) (threshold_le _ _)

theorem readNumber?_writeNumber (bias weight value factor sum : Nat) (rest : List Nat) :
    readNumber? bias (writeNumber bias weight value ++ rest) weight factor sum =
      some (sum + value * factor, rest) := by
  induction weight, value using writeNumber.induct bias generalizing factor sum with
  | case1 weight value least small =>
      rw [writeNumber, if_pos small, List.singleton_append, readNumber?]
      exact if_pos small
  | case2 weight value least large induction =>
      have parts : least + (value - least) % (36 - least) +
          (value - least) / (36 - least) * (36 - least) = value := by
        rw [Nat.add_assoc, Nat.mod_add_div', Nat.add_sub_cancel' (Nat.le_of_not_lt large)]
      have total : sum + (least + (value - least) % (36 - least)) * factor +
          (value - least) / (36 - least) * (factor * (36 - least)) = sum + value * factor := by
        rw [Nat.mul_comm factor, ← Nat.mul_assoc, Nat.add_assoc, ← Nat.add_mul, parts]
      rw [writeNumber, if_neg large, List.cons_append, readNumber?]
      refine (if_neg (Nat.not_lt.mpr (Nat.le_add_right _ _))).trans ?_
      rw [induction]
      exact congrArg (fun sum => some (sum, rest)) total

theorem insertAll?_nil (fuel point position bias : Nat) (isFirst : Bool) (label : List Nat) :
    insertAll? fuel point position bias isFirst label [] = some label := by
  cases fuel <;> rfl

theorem writeNumber_ne_nil (bias weight value : Nat) : writeNumber bias weight value ≠ [] := by
  rw [writeNumber]
  split <;> exact List.cons_ne_nil _ _

/-- A distance that is read puts a code point where it was written for. -/
theorem insertAll?_writeNumber {point position delta reached : Nat} {before after : List Nat}
    (distance : position + delta =
      (point - reached) * ((before ++ after).length + 1) + before.length)
    (onward : reached ≤ point) (valid : point < 0x110000) (fuel bias : Nat) (isFirst : Bool)
    (rest : List Nat) :
    insertAll? (fuel + 1) reached position bias isFirst (before ++ after)
        (writeNumber bias 36 delta ++ rest) =
      insertAll? fuel point (before.length + 1) (adapt delta ((before ++ after).length + 1) isFirst)
        false (before ++ point :: after) rest := by
  have within : before.length < (before ++ after).length + 1 := by
    rw [List.length_append]
    omega
  have quotient : (position + delta) / ((before ++ after).length + 1) = point - reached := by
    rw [distance, Nat.mul_comm, Nat.mul_add_div (Nat.succ_pos _), Nat.div_eq_of_lt within,
      Nat.add_zero]
  have remainder : (position + delta) % ((before ++ after).length + 1) = before.length := by
    rw [distance, Nat.mul_comm, Nat.mul_add_mod, Nat.mod_eq_of_lt within]
  have present : writeNumber bias 36 delta ++ rest ≠ [] :=
    List.append_ne_nil_of_left_ne_nil (writeNumber_ne_nil _ _ _) _
  rw [insertAll?, readNumber?_writeNumber]
  · dsimp only
    rw [Nat.zero_add, Nat.mul_one, quotient, remainder, Nat.add_sub_cancel' onward,
      if_neg (Nat.not_le.mpr valid), List.take_left, List.drop_left]
  · exact present

/-- The code points in place while `point` is inserted: those of `passed` are behind the writer, those
of `ahead` before it. -/
def inPlace (point : Nat) (passed ahead : List Nat) : List Nat :=
  passed.filter (· ≤ point) ++ ahead.filter (· < point)

/-- The reader of what is written so far has the code points of the writer in place. What is not yet
written of the distance leads from the place of the reader to that of the writer. -/
structure Follows (basic : List Nat) (point : Nat) (passed ahead : List Nat) (writer : Writer) :
    Prop where
  small : ∀ digit ∈ writer.digits, digit < 36
  placed_eq : writer.placed = (inPlace point passed ahead).length
  reads : ∃ reached position used, reached ≤ point ∧ used ≤ writer.digits.length ∧
    position + writer.delta =
      (point - reached) * (writer.placed + 1) + (passed.filter (· ≤ point)).length ∧
    ∀ fuel rest, insertAll? (fuel + used) 0x80 0 72 true basic (writer.digits ++ rest) =
      insertAll? fuel reached position writer.bias writer.isFirst (inPlace point passed ahead) rest

section Writing

variable {basic passed ahead codes : List Nat} {point code : Nat} {writer : Writer}

/-- The reader of the digits that are written for a code point puts it where the writer has met it. -/
theorem Follows.insert (follows : Follows basic point passed (point :: ahead) writer)
    (valid : point < 0x110000) :
    Follows basic point (passed ++ [point]) ahead (writer.pass point point) := by
  obtain ⟨small, placed_eq, reached, position, used, onward, few, distance, reads⟩ := follows
  let before := passed.filter (· ≤ point)
  let after := ahead.filter (· < point)
  have place : inPlace point passed (point :: ahead) = before ++ after := by
    simp [inPlace, before, after]
  have next_place : inPlace point (passed ++ [point]) ahead = before ++ point :: after := by
    simp [inPlace, before, after]
  have further : ((passed ++ [point]).filter (· ≤ point)).length = before.length + 1 := by
    simp [before]
  rw [place] at placed_eq reads
  rw [Writer.pass, if_neg (Nat.lt_irrefl _), if_pos rfl]
  refine ⟨?_, ?_, point, before.length + 1, used + 1, Nat.le_refl _, ?_, ?_, ?_⟩
  · intro digit member
    rcases List.mem_append.mp member with earlier | new
    · exact small digit earlier
    · exact lt_of_mem_writeNumber new
  · rw [next_place, placed_eq, List.length_append, List.length_append, List.length_cons]
    rfl
  · have one := List.length_pos_iff.mpr (writeNumber_ne_nil writer.bias 36 writer.delta)
    rw [List.length_append]
    omega
  · rw [further, Nat.sub_self, Nat.zero_mul, Nat.zero_add, Nat.add_zero]
  · intro fuel rest
    have earlier := reads (fuel + 1) (writeNumber writer.bias 36 writer.delta ++ rest)
    rw [placed_eq] at distance
    rw [insertAll?_writeNumber distance onward valid, Nat.add_right_comm] at earlier
    rw [List.append_assoc, next_place, placed_eq]
    exact earlier

theorem Follows.pass (follows : Follows basic point passed (code :: ahead) writer)
    (valid : point < 0x110000) :
    Follows basic point (passed ++ [code]) ahead (writer.pass point code) := by
  rcases Nat.lt_trichotomy code point with below | rfl | above
  case inr.inl => exact follows.insert valid
  case inl =>
    obtain ⟨small, placed_eq, reached, position, used, onward, few, distance, reads⟩ := follows
    have place : inPlace point (passed ++ [code]) ahead = inPlace point passed (code :: ahead) := by
      simp [inPlace, below, Nat.le_of_lt below]
    have further : ((passed ++ [code]).filter (· ≤ point)).length =
        (passed.filter (· ≤ point)).length + 1 := by
      simp [Nat.le_of_lt below]
    rw [Writer.pass, if_pos below]
    refine ⟨small, place ▸ placed_eq, reached, position, used, onward, few, ?_, place ▸ reads⟩
    rw [further, ← Nat.add_assoc, ← Nat.add_assoc, distance]
  case inr.inr =>
    obtain ⟨small, placed_eq, reached, position, used, onward, few, distance, reads⟩ := follows
    have place : inPlace point (passed ++ [code]) ahead = inPlace point passed (code :: ahead) := by
      simp [inPlace, Nat.not_le.mpr above, Nat.not_lt.mpr (Nat.le_of_lt above)]
    have same : (passed ++ [code]).filter (· ≤ point) = passed.filter (· ≤ point) := by
      simp [Nat.not_le.mpr above]
    rw [Writer.pass, if_neg (Nat.not_lt.mpr (Nat.le_of_lt above)), if_neg (Nat.ne_of_gt above)]
    exact ⟨small, place ▸ placed_eq, reached, position, used, onward, few, same ▸ distance,
      place ▸ reads⟩

theorem Follows.foldl (follows : Follows basic point passed ahead writer) (valid : point < 0x110000) :
    Follows basic point (passed ++ ahead) [] (ahead.foldl (Writer.pass point) writer) := by
  induction ahead generalizing passed writer with
  | nil =>
      rw [List.append_nil]
      exact follows
  | cons code rest induction =>
      have later := induction (follows.pass valid)
      rwa [List.append_assoc, List.singleton_append] at later

/-- Points between which the label has none are skipped without a digit. -/
theorem Follows.skip {next : Nat} (follows : Follows basic next [] codes writer) (onward : next ≤ point)
    (absent : ∀ code ∈ codes, next ≤ code → point ≤ code) :
    Follows basic point [] codes
      { writer with delta := writer.delta + (point - next) * (writer.placed + 1) } := by
  have place : inPlace point [] codes = inPlace next [] codes := by
    apply List.filter_congr
    intro code member
    have beyond := absent code member
    rw [decide_eq_decide]
    omega
  obtain ⟨small, placed_eq, reached, position, used, before, few, distance, reads⟩ := follows
  refine ⟨small, place ▸ placed_eq, reached, position, used, Nat.le_trans before onward, few, ?_,
    place ▸ reads⟩
  have gap : point - reached = (next - reached) + (point - next) := by omega
  rw [List.filter_nil] at distance ⊢
  dsimp only
  rw [gap, Nat.add_mul, Nat.add_right_comm, ← distance, ← Nat.add_assoc]

/-- At the end of the label the writer goes on to the next point. -/
theorem Follows.turn (follows : Follows basic point codes [] writer) :
    Follows basic (point + 1) [] codes { writer with delta := writer.delta + 1 } := by
  have place : inPlace (point + 1) [] codes = inPlace point codes [] := by
    rw [inPlace, inPlace, List.filter_nil, List.filter_nil, List.append_nil, List.nil_append]
    apply List.filter_congr
    intro code _
    rw [decide_eq_decide]
    exact Nat.lt_succ_iff
  obtain ⟨small, placed_eq, reached, position, used, before, few, distance, reads⟩ := follows
  refine ⟨small, place ▸ placed_eq, reached, position, used, Nat.le_succ_of_le before, few, ?_,
    place ▸ reads⟩
  have count : (codes.filter (· ≤ point)).length = writer.placed := by
    rw [placed_eq, inPlace, List.filter_nil, List.append_nil]
  have gap : point + 1 - reached = (point - reached) + 1 := by omega
  dsimp only
  rw [count] at distance
  rw [gap, Nat.add_mul, Nat.one_mul, ← Nat.add_assoc, distance, List.filter_nil, List.length_nil]
  rfl

theorem Follows.insertPoints {next : Nat} {points : List Nat}
    (follows : Follows basic next [] codes writer) (ascending : points.Pairwise (· < ·))
    (bounds : ∀ point ∈ points, next ≤ point ∧ point < 0x110000)
    (complete : ∀ code ∈ codes, next ≤ code → code ∈ points) :
    ∃ last, (∀ code ∈ codes, code < last) ∧
      Follows basic last [] codes (Punycode.insertPoints codes next writer points) := by
  induction points generalizing next writer with
  | nil =>
      refine ⟨next, fun code member => ?_, follows⟩
      by_contra beyond
      cases complete code member (Nat.le_of_not_lt beyond)
  | cons point rest induction =>
      obtain ⟨above, ascending⟩ := List.pairwise_cons.mp ascending
      rw [List.forall_mem_cons] at bounds
      obtain ⟨⟨onward, valid⟩, later⟩ := bounds
      have skipped := follows.skip onward fun code member beyond => by
        rcases List.mem_cons.mp (complete code member beyond) with same | among
        · exact Nat.le_of_eq same.symm
        · exact Nat.le_of_lt (above code among)
      have passed := skipped.foldl valid
      rw [List.nil_append] at passed
      refine induction passed.turn ascending
        (fun other member => ⟨above other member, (later other member).2⟩) ?_
      intro code member beyond
      rcases List.mem_cons.mp (complete code member (by omega)) with same | among
      · omega
      · exact among

end Writing

theorem eraseDups_ascending (codes : List Nat) (sorted : codes.Pairwise (· ≤ ·)) :
    codes.eraseDups.Pairwise (· < ·) := by
  match codes with
  | [] => exact List.Pairwise.nil
  | first :: rest =>
      obtain ⟨least, sorted⟩ := List.pairwise_cons.mp sorted
      rw [List.eraseDups_cons]
      apply List.Pairwise.cons
      · intro code member
        obtain ⟨member, other⟩ := List.mem_filter.mp (List.mem_eraseDups.mp member)
        have apart : code ≠ first := by simpa using other
        exact Nat.lt_of_le_of_ne (least code member) apart.symm
      · exact eraseDups_ascending _ (sorted.filter _)
termination_by codes.length
decreasing_by exact Nat.lt_succ_of_le (List.length_filter_le _ _)

theorem points_ascending (label : List Nat) : (points label).Pairwise (· < ·) := by
  let beyond := label.filter fun code => 0x80 ≤ code
  have sorted : (beyond.mergeSort (· ≤ ·)).Pairwise fun left right => decide (left ≤ right) = true := by
    apply List.pairwise_mergeSort
    · intro first second third
      simpa using Nat.le_trans
    · intro left right
      simpa using Nat.le_total left right
  exact eraseDups_ascending _ (sorted.imp of_decide_eq_true)

theorem mem_points {label : List Nat} {code : Nat} :
    code ∈ points label ↔ code ∈ label ∧ 0x80 ≤ code := by
  rw [points, List.mem_eraseDups, List.mem_mergeSort, List.mem_filter, decide_eq_true_eq]

theorem digitChar_reads {digit : Nat} (small : digit < 36) :
    digitOf? (digitChar digit) = some digit ∧ digitChar digit ≠ '-' := by
  have each : ∀ digit < 36, digitOf? (digitChar digit) = some digit ∧ digitChar digit ≠ '-' := by
    decide
  exact each digit small

theorem toNat_valid (char : Char) :
    char.toNat < 0xD800 ∨ 0xDFFF < char.toNat ∧ char.toNat < 0x110000 :=
  char.valid

theorem codePoint?_toNat (char : Char) : codePoint? char.toNat = some char := by
  have valid := toNat_valid char
  rw [codePoint?, if_pos (by omega), Char.ofNat_toNat]

/-- The last hyphen is the one behind the ASCII part. -/
theorem splitBasic_joined (basic : List Char) {tail : List Char} (plain : ∀ char ∈ tail, char ≠ '-') :
    splitBasic (basic ++ (if basic.isEmpty then [] else ['-']) ++ tail) = (basic, tail) := by
  have passed : ∀ char ∈ tail.reverse, decide (char ≠ '-') = true := fun char member =>
    decide_eq_true (plain char (List.mem_reverse.mp member))
  cases basic with
  | nil =>
      have whole : tail.reverse.takeWhile (fun char => char ≠ '-') = tail.reverse :=
        List.takeWhile_eq_self_iff.mpr passed
      rw [List.isEmpty_nil, if_pos rfl, List.nil_append, List.nil_append, splitBasic]
      simp only [whole, List.reverse_reverse, Nat.sub_self, List.take_zero]
      rfl
  | cons first rest =>
      have back : ((first :: rest) ++ ['-'] ++ tail).reverse.takeWhile (fun char => char ≠ '-') =
          tail.reverse := by
        rw [List.reverse_append, List.takeWhile_append_of_pos passed, List.reverse_append]
        simp
      have front : ((first :: rest) ++ ['-'] ++ tail).take
          (((first :: rest) ++ ['-'] ++ tail).length - tail.length) = (first :: rest) ++ ['-'] := by
        rw [List.length_append, Nat.add_sub_cancel, List.take_left]
      rw [List.isEmpty_cons, if_neg Bool.false_ne_true, splitBasic]
      simp only [back, List.reverse_reverse, front]
      rw [if_neg (by simp), List.dropLast_concat]

/-- The digits that a label is written with, behind its ASCII part, put all its other code points in. -/
theorem exists_digits (label : List Char) :
    let basic := label.filter fun char => char.toNat < 0x80
    ∃ digits, encode label =
        basic ++ (if basic.isEmpty then [] else ['-']) ++ digits.map digitChar ∧
      (∀ digit ∈ digits, digit < 36) ∧
      insertAll? (digits.length + 1) 0x80 0 72 true (basic.map Char.toNat) digits =
        some (label.map Char.toNat) := by
  intro basic
  let codes := label.map Char.toNat
  let start : Writer := ⟨0, 72, basic.length, true, []⟩
  have place : inPlace 0x80 [] codes = basic.map Char.toNat := List.filter_map
  have begins : Follows (basic.map Char.toNat) 0x80 [] codes start := by
    refine ⟨fun digit member => (List.not_mem_nil member).elim, ?_, 0x80, 0, 0, Nat.le_refl _,
      Nat.le_refl _, ?_, fun fuel rest => ?_⟩
    · rw [place, List.length_map]
    · rw [Nat.sub_self, Nat.zero_mul]
      rfl
    · rw [place]
      rfl
  have bounds : ∀ point ∈ points codes, 0x80 ≤ point ∧ point < 0x110000 := by
    intro point member
    obtain ⟨among, least⟩ := mem_points.mp member
    obtain ⟨char, -, rfl⟩ := List.mem_map.mp among
    have valid := toNat_valid char
    omega
  obtain ⟨last, beyond, follows⟩ := begins.insertPoints (points_ascending codes) bounds
    fun code member least => mem_points.mpr ⟨member, least⟩
  have complete : inPlace last [] codes = codes :=
    List.filter_eq_self.mpr fun code member => decide_eq_true (beyond code member)
  obtain ⟨small, -, reached, position, used, -, few, -, reads⟩ := follows
  let digits := (insertPoints codes 0x80 start (points codes)).digits
  refine ⟨digits, rfl, small, ?_⟩
  have read := reads (digits.length + 1 - used) []
  rwa [Nat.sub_add_cancel (Nat.le_succ_of_le few), List.append_nil, insertAll?_nil, complete] at read

theorem mem_encode {label : List Char} {char : Char} (member : char ∈ encode label) :
    (char ∈ label ∧ char.toNat < 0x80) ∨ char = '-' ∨ ∃ digit < 36, char = digitChar digit := by
  obtain ⟨digits, written, small, -⟩ := exists_digits label
  rw [written, List.mem_append, List.mem_append] at member
  rcases member with (basic | mark) | rest
  · obtain ⟨kept, ascii⟩ := List.mem_filter.mp basic
    exact .inl ⟨kept, of_decide_eq_true ascii⟩
  · split at mark
    · cases mark
    · exact .inr (.inl (List.mem_singleton.mp mark))
  · obtain ⟨digit, listed, rfl⟩ := List.mem_map.mp rest
    exact .inr (.inr ⟨digit, small digit listed, rfl⟩)

/-- A label of any characters is read back from its Punycode. -/
theorem decode?_encode (label : List Char) : decode? (encode label) = some label := by
  obtain ⟨digits, written, small, inserted⟩ := exists_digits label
  have plain : ∀ char ∈ digits.map digitChar, char ≠ '-' := by
    intro char member
    obtain ⟨digit, listed, rfl⟩ := List.mem_map.mp member
    exact (digitChar_reads (small digit listed)).2
  have read_digits : (digits.map digitChar).mapM digitOf? = some digits :=
    Text.mapM_written fun digit listed => (digitChar_reads (small digit listed)).1
  have read_codes : (label.map Char.toNat).mapM codePoint? = some label :=
    Text.mapM_written fun char _ => codePoint?_toNat char
  rw [written, decode?, splitBasic_joined _ plain]
  dsimp only
  rw [read_digits]
  refine (congrArg (Option.bind · _) inserted).trans ?_
  exact read_codes

end SealedContent.Web.Punycode
