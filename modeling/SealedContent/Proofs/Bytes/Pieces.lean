import SealedContent.Bytes.Basic

/-!
Data fed in pieces of one size. What is left over is carried into the data that follows, so it does not
matter how often the feeding is interrupted; and the pieces joined are the data again.
-/

namespace SealedContent.Bytes

variable {State : Type}

/-- The first piece is fed whatever data follows it. -/
theorem foldPieces_whole_append {size : Nat} {first : Bytes}
    (whole : 0 < size ∧ (first.take size).length = size) (step : State → Bytes → State)
    (state : State) (second : Bytes) :
    foldPieces size step state (first ++ second) =
      foldPieces size step (step state (first.take size)) (first.drop size ++ second) := by
  obtain ⟨positive, enough⟩ := whole
  have long : size ≤ first.length := by
    rw [List.length_take] at enough
    omega
  have head : (first ++ second).take size = first.take size := List.take_append_of_le_length long
  have rest : (first ++ second).drop size = first.drop size ++ second :=
    List.drop_append_of_le_length long
  rw [foldPieces, if_pos ⟨positive, by rw [head, enough]⟩, head, rest]

theorem foldPieces_append (size : Nat) (step : State → Bytes → State) (state : State)
    (first second : Bytes) :
    let fed := foldPieces size step state first
    foldPieces size step state (first ++ second) = foldPieces size step fed.1 (fed.2 ++ second) := by
  intro fed
  fun_induction foldPieces size step state first with
  | case1 state first whole induction =>
      exact (foldPieces_whole_append whole step state second).trans induction
  | case2 state first whole => rfl

theorem flatten_foldPieces (size : Nat) (done : List Bytes) (data : Bytes) :
    let fed := foldPieces size (fun done piece => piece :: done) done data
    fed.1.reverse.flatten ++ fed.2 = done.reverse.flatten ++ data := by
  fun_induction foldPieces size (fun done piece => piece :: done) done data with
  | case1 done data whole induction =>
      dsimp only at induction ⊢
      rw [induction, List.reverse_cons, List.flatten_append, List.flatten_singleton,
        List.append_assoc, List.take_append_drop]
  | case2 done data whole => rfl

theorem flatten_pieces (size : Nat) (data : Bytes) : (pieces size data).flatten = data := by
  have joined := flatten_foldPieces size [] data
  rw [pieces]
  split
  · rename_i reversed rest fed
    rw [fed] at joined
    split
    · rename_i empty
      simpa [List.isEmpty_iff.mp empty] using joined
    · simpa using joined

theorem foldPieces_whole {size : Nat} (positive : 0 < size)
    (step : State → Bytes → State) (state : State) {piece : Bytes} (whole : piece.length = size) :
    foldPieces size step state piece = (step state piece, []) := by
  rw [foldPieces, List.take_of_length_le (Nat.le_of_eq whole), if_pos ⟨positive, whole⟩,
    List.drop_of_length_le (Nat.le_of_eq whole), foldPieces, if_neg]
  simp
  omega

/-- Whole pieces are fed one after another and leave nothing over. -/
theorem foldPieces_flatten {size : Nat} (positive : 0 < size) (step : State → Bytes → State)
    (state : State) {blocks : List Bytes} (whole : ∀ block ∈ blocks, block.length = size) :
    foldPieces size step state blocks.flatten = (blocks.foldl step state, []) := by
  induction blocks generalizing state with
  | nil =>
      rw [List.flatten_nil, foldPieces, if_neg]
      · rfl
      · rintro ⟨-, enough⟩
        rw [List.take_nil, List.length_nil] at enough
        omega
  | cons block blocks induction =>
      rw [List.flatten_cons, foldPieces_append,
        foldPieces_whole positive step state (whole block List.mem_cons_self)]
      exact induction (step state block) fun other member => whole other (List.mem_cons_of_mem _ member)

theorem exists_whole_pieces {size : Nat} (data : Bytes) (multiple : size ∣ data.length) :
    ∃ blocks : List Bytes, (∀ block ∈ blocks, block.length = size) ∧ blocks.flatten = data := by
  obtain ⟨count, sized⟩ := multiple
  induction count generalizing data with
  | zero => exact ⟨[], nofun, (List.eq_nil_of_length_eq_zero sized).symm⟩
  | succ count induction =>
      rw [Nat.mul_succ] at sized
      have later : (data.drop size).length = size * count := by
        rw [List.length_drop]
        omega
      obtain ⟨blocks, whole, joined⟩ := induction (data.drop size) later
      refine ⟨data.take size :: blocks, ?_, ?_⟩
      · intro block member
        rcases List.mem_cons.mp member with rfl | other
        · rw [List.length_take]
          omega
        · exact whole block other
      · rw [List.flatten_cons, joined, List.take_append_drop]

theorem foldPieces_short {size : Nat} (step : State → Bytes → State) (state : State)
    {data : Bytes} (short : data.length < size) : foldPieces size step state data = (state, data) := by
  rw [foldPieces, if_neg]
  rintro ⟨-, whole⟩
  rw [List.take_of_length_le (Nat.le_of_lt short)] at whole
  omega

/-- Data of no more than one piece is that piece, if it is not empty. -/
theorem pieces_single {size : Nat} {data : Bytes} (present : data ≠ [])
    (fits : data.length ≤ size) : pieces size data = [data] := by
  have positive := List.length_pos_iff.mpr present
  rw [pieces]
  rcases Nat.lt_or_eq_of_le fits with short | whole
  · rw [foldPieces_short _ _ short]
    simp [present]
  · rw [foldPieces_whole (by omega) _ _ whole]
    rfl

end SealedContent.Bytes
