import Mathlib.Data.List.Basic
import SealedContent.Cipher.Stream

/-!
Stages of a stream seen through what they have yielded so far. Feeding chunks to a stage tells its
items and its state before the end of the stream is known; running it goes on from there.
-/

namespace SealedContent.Cipher

theorem collect_nil : collect [] = .ok [] := rfl

theorem collect_ok (chunk : Bytes) (rest : List StreamItem) :
    collect (.ok chunk :: rest) = (collect rest).map (chunk ++ ·) := by
  simp only [collect, List.mapM_cons, id, bind, Except.bind]
  cases List.mapM id rest with
  | error failure => rfl
  | ok chunks => rfl

theorem collect_append (chunks : List Bytes) (rest : List StreamItem) :
    collect (chunks.map .ok ++ rest) = (collect rest).map (chunks.flatten ++ ·) := by
  induction chunks with
  | nil =>
      rw [List.map_nil, List.nil_append]
      cases collect rest with
      | error failure => rfl
      | ok bytes => rfl
  | cons chunk chunks induction =>
      rw [List.map_cons, List.cons_append, collect_ok, induction]
      cases collect rest with
      | error failure => rfl
      | ok bytes => simp [Except.map]

theorem nonEmpty?_eq_some {chunk : Bytes} (filled : chunk ≠ []) : nonEmpty? chunk = some chunk := by
  rw [nonEmpty?, if_neg]
  intro empty
  exact filled (List.isEmpty_iff.mp empty)

theorem nonEmpty?_flatten (chunk : Bytes) : (nonEmpty? chunk).toList.flatten = chunk := by
  by_cases empty : chunk = []
  · subst empty
    rfl
  · rw [nonEmpty?_eq_some empty, Option.toList_some, List.flatten_singleton]

namespace Stage

variable {State : Type}

/-- What a stage makes of some chunks, and its state then. The end of the stream is not told. -/
def feed (stage : Stage State) (state : State) : List Bytes →
    Except CipherError (List Bytes × State)
  | [] => .ok ([], state)
  | chunk :: rest => do
      let (output, next) ← stage.step state chunk
      let (outputs, last) ← stage.feed next rest
      return (output.toList ++ outputs, last)

theorem feed_cons {stage : Stage State} {state next last : State} {chunk : Bytes}
    {rest outputs : List Bytes} {output : Option Bytes}
    (stepped : stage.step state chunk = .ok (output, next))
    (fed : stage.feed next rest = .ok (outputs, last)) :
    stage.feed state (chunk :: rest) = .ok (output.toList ++ outputs, last) := by
  rw [feed, stepped]
  simp only [bind, Except.bind, fed]
  rfl

theorem exists_of_feed_cons {stage : Stage State} {state last : State} {chunk : Bytes}
    {rest outputs : List Bytes} (fed : stage.feed state (chunk :: rest) = .ok (outputs, last)) :
    ∃ output next later, stage.step state chunk = .ok (output, next) ∧
      stage.feed next rest = .ok (later, last) ∧ outputs = output.toList ++ later := by
  rw [feed] at fed
  cases stepped : stage.step state chunk with
  | error failure =>
      rw [stepped] at fed
      cases fed
  | ok pair =>
      obtain ⟨output, next⟩ := pair
      rw [stepped] at fed
      simp only [bind, Except.bind] at fed
      cases onward : stage.feed next rest with
      | error failure =>
          rw [onward] at fed
          cases fed
      | ok fedPair =>
          obtain ⟨later, laterState⟩ := fedPair
          rw [onward] at fed
          cases fed
          exact ⟨output, next, later, rfl, onward, rfl⟩

/-- A run goes on from the state that the chunks fed so far have led to. -/
theorem run_append {stage : Stage State} {state last : State} {chunks outputs : List Bytes}
    (fed : stage.feed state chunks = .ok (outputs, last)) (rest : List StreamItem) :
    stage.run state (chunks.map .ok ++ rest) = outputs.map .ok ++ stage.run last rest := by
  induction chunks generalizing state outputs with
  | nil =>
      cases fed
      rfl
  | cons chunk chunks induction =>
      obtain ⟨output, next, laterOutputs, stepped, later, rfl⟩ := exists_of_feed_cons fed
      rw [List.map_cons, List.cons_append, run, stepped]
      cases output with
      | none => exact induction later
      | some bytes => exact congrArg (.ok bytes :: ·) (induction later)

/-- A last chunk is collected alike whether or not it is left out for being empty. -/
theorem collect_run_nil {stage : Stage State} {state : State} {last : Bytes}
    (finished : stage.finish state = .ok (nonEmpty? last)) :
    collect (stage.run state []) = .ok last := by
  rw [run, finished]
  by_cases empty : last = []
  · subst empty
    rfl
  · rw [nonEmpty?_eq_some empty]
    simp only [collect_ok, collect_nil, Except.map, List.append_nil]

end Stage

end SealedContent.Cipher
