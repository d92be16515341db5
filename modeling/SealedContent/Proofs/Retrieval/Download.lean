import Mathlib.Order.Bounds.Basic
import SealedContent.Proofs.Bytes.Chunks
import SealedContent.Retrieval.Gateway

/-!
Bodies that are downloaded under a limit. A body comes through whole or not at all, and the length
that is reported for a body too long is the first one that passed the limit.
-/

namespace SealedContent.Retrieval

open Bytes (startOf startOf_zero startOf_cons)
open Web (Reply)

variable {limit : Nat}

theorem collectLimited_eq_ok_iff {received : Bytes} (room : received.length ≤ limit)
    {chunks : List Bytes} {bytes : Bytes} :
    collectLimited limit received chunks = .ok bytes ↔
      received.length + chunks.flatten.length ≤ limit ∧ bytes = received ++ chunks.flatten := by
  induction chunks generalizing received with
  | nil =>
      simp only [collectLimited, List.flatten_nil, List.length_nil, Nat.add_zero, List.append_nil,
        Except.ok.injEq, room, true_and]
      exact eq_comm
  | cons chunk rest induction =>
      rw [collectLimited, List.flatten_cons, List.length_append]
      by_cases beyond : limit < received.length + chunk.length
      · rw [if_pos beyond]
        constructor
        · intro collected
          cases collected
        · rintro ⟨within, -⟩
          omega
      · have roomNext : (received ++ chunk).length ≤ limit := by
          rw [List.length_append]
          omega
        rw [if_neg beyond, induction roomNext, List.length_append, List.append_assoc,
          Nat.add_assoc]

/-- The length that is reported is the one after the first chunk that passes the limit. -/
theorem collectLimited_beyond {received : Bytes} (room : received.length ≤ limit)
    {chunks : List Bytes} {index : Nat}
    (first : IsLeast {index | limit < received.length + startOf chunks (index + 1)} index) :
    collectLimited limit received chunks =
      .error (.tooLarge (received.length + startOf chunks (index + 1)) limit) := by
  obtain ⟨beyond, least⟩ := first
  induction chunks generalizing received index with
  | nil =>
      have nothing : startOf [] (index + 1) = 0 := by simp [startOf]
      rw [Set.mem_ofPred_eq, nothing] at beyond
      omega
  | cons chunk rest induction =>
      rw [collectLimited]
      by_cases now : limit < received.length + chunk.length
      · have zero : index = 0 := by
          apply Nat.eq_zero_of_le_zero
          apply least
          rwa [Set.mem_ofPred_eq, startOf_cons, startOf_zero]
        rw [if_pos now, zero, startOf_cons, startOf_zero]
        rfl
      · obtain ⟨later, rfl⟩ : ∃ later, index = later + 1 := by
          apply Nat.exists_eq_succ_of_ne_zero
          rintro rfl
          rw [Set.mem_ofPred_eq, startOf_cons, startOf_zero] at beyond
          exact now beyond
        have lengths : ∀ place, (received ++ chunk).length + startOf rest (place + 1) =
            received.length + startOf (chunk :: rest) (place + 1 + 1) := by
          intro place
          rw [List.length_append, startOf_cons, Nat.add_assoc]
        have roomNext : (received ++ chunk).length ≤ limit := by
          rw [List.length_append]
          omega
        rw [if_neg now, induction roomNext, lengths]
        · rwa [Set.mem_ofPred_eq, lengths]
        · intro place passed
          rw [Set.mem_ofPred_eq, lengths] at passed
          exact Nat.le_of_succ_le_succ (least passed)

/-- The length that a reply announces, if it does, keeps the limit. -/
def DeclaredWithin (limit : Nat) (reply : Reply) : Prop :=
  ∀ size, reply.declaredLength = some size → size ≤ limit

theorem filter_declared_iff {reply : Reply} :
    (reply.declaredLength.filter fun size => limit < size) = none ↔ DeclaredWithin limit reply := by
  rw [DeclaredWithin, Option.filter_eq_none_iff]
  simp only [decide_eq_true_eq, not_lt]

theorem download_eq_ok_iff {reply : Reply} {bytes : Bytes} :
    download limit reply = .ok bytes ↔
      DeclaredWithin limit reply ∧ reply.isComplete ∧
        reply.chunks.flatten.length ≤ limit ∧ bytes = reply.chunks.flatten := by
  have collected_iff := @collectLimited_eq_ok_iff limit [] (Nat.zero_le limit) reply.chunks
  simp only [List.length_nil, Nat.zero_add, List.nil_append] at collected_iff
  constructor
  · intro downloaded
    rw [download] at downloaded
    split at downloaded
    · cases downloaded
    rename_i within
    split at downloaded
    · cases downloaded
    rename_i body collected
    split at downloaded
    · rename_i complete
      cases downloaded
      obtain ⟨fits, joined⟩ := collected_iff.mp collected
      exact ⟨filter_declared_iff.mp within, complete, fits, joined⟩
    · cases downloaded
  · rintro ⟨within, complete, fits, rfl⟩
    rw [download, filter_declared_iff.mpr within]
    dsimp only
    rw [collected_iff.mpr ⟨fits, rfl⟩]
    dsimp only
    rw [if_pos complete]

theorem download_declared {reply : Reply} {declared : Nat}
    (announced : reply.declaredLength = some declared) (beyond : limit < declared) :
    download limit reply = .error (.tooLarge declared limit) := by
  simp only [download, announced, Option.filter, beyond, decide_true, if_true]

theorem download_beyond {reply : Reply} (within : DeclaredWithin limit reply) {index : Nat}
    (first : IsLeast {index | limit < startOf reply.chunks (index + 1)} index) :
    download limit reply = .error (.tooLarge (startOf reply.chunks (index + 1)) limit) := by
  have beyond := @collectLimited_beyond limit [] (Nat.zero_le limit) reply.chunks index
  simp only [List.length_nil, Nat.zero_add] at beyond
  rw [download, filter_declared_iff.mpr within]
  dsimp only
  rw [beyond first]

end SealedContent.Retrieval
