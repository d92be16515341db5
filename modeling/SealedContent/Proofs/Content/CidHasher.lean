import SealedContent.Proofs.Content.Cid
import SealedContent.Proofs.Hash.Sha256

/-!
Identifiers of data that is hashed while it passes. However the data is cut, the identifier is that of
all of it; and copies of the hasher that are finished on the way name what has passed until then and leave
no trace.
-/

namespace SealedContent.Content.CidHasher

theorem update_append (state : CidHasher) (first second : Bytes) :
    (state.update first).update second = state.update (first ++ second) := by
  simp only [update, Hash.Sha256Hasher.update_append, UInt64.add_assoc, ← UInt64.ofNat_add,
    ← List.length_append]

theorem foldl_update (state : CidHasher) (first : Bytes) (chunks : List Bytes) :
    chunks.foldl update (state.update first) = state.update (first ++ chunks.flatten) := by
  induction chunks generalizing first with
  | nil => rw [List.foldl_nil, List.flatten_nil, List.append_nil]
  | cons chunk chunks induction =>
      rw [List.foldl_cons, update_append, induction, List.flatten_cons, List.append_assoc]

theorem start_update_nil (codec : UInt64) : (start codec).update [] = start codec := by
  simp [start, update, Hash.Sha256Hasher.update, Hash.Sha256Hasher.empty, Bytes.foldPieces]

theorem start_foldl (codec : UInt64) (chunks : List Bytes) :
    chunks.foldl update (start codec) = (start codec).update chunks.flatten := by
  conv_lhs => rw [← start_update_nil]
  exact foldl_update (start codec) [] chunks

theorem finish_foldl (codec : UInt64) (chunks : List Bytes) :
    (chunks.foldl update (start codec)).finish = Cid.ofData codec chunks.flatten := by
  rw [start_foldl]
  rfl

/-- The count is of so few bytes that the word holds it. -/
theorem length_start_update (codec : UInt64) {data : Bytes} (bounded : data.length < 2 ^ 61) :
    ((start codec).update data).length = data.length := by
  have count : ((start codec).update data).count = UInt64.ofNat data.length :=
    UInt64.zero_add _
  rw [length, count, UInt64.toNat_ofNat']
  exact Nat.mod_eq_of_lt (by omega)

/-- The identifier of what was taken in, made by a step that could refuse its hash. -/
def finish? (state : CidHasher) : Option Cid :=
  (Multihash.wrap? sha256Code state.hasher.digest).map (.v1 state.codec)

theorem finish?_eq (state : CidHasher) : state.finish? = some state.finish := by
  rw [finish?, Multihash.wrap?_digest _ (length_digest state.hasher)]
  rfl

/-- What is asked of a hasher: to take a chunk in, or that a copy of it be finished. -/
inductive Call where
  | update (chunk : Bytes)
  | finishCopy

def Call.chunk? : Call → Option Bytes
  | .update chunk => some chunk
  | .finishCopy => none

def perform (state : CidHasher) : Call → CidHasher × Option Cid
  | .update chunk => (state.update chunk, none)
  | .finishCopy => (state, some state.finish)

def after (state : CidHasher) (calls : List Call) : CidHasher :=
  calls.foldl (fun state call => (state.perform call).1) state

theorem after_eq (state : CidHasher) (calls : List Call) :
    state.after calls = (calls.filterMap Call.chunk?).foldl update state := by
  induction calls generalizing state with
  | nil => rfl
  | cons call calls induction =>
      cases call with
      | update chunk => exact induction (state.update chunk)
      | finishCopy => exact induction state

theorem length_given_le (calls : List Call) (count : Nat) :
    ((calls.take count).filterMap Call.chunk?).flatten.length ≤
      (calls.filterMap Call.chunk?).flatten.length := by
  conv_rhs => rw [← List.take_append_drop count calls]
  rw [List.filterMap_append, List.flatten_append, List.length_append]
  exact Nat.le_add_right _ _

/-- At every point of a history of calls the hasher names the data that it was given until then: a copy
that is finished there gives the identifier of this data as a whole, and the hasher goes on as if there had
been no copies. -/
theorem prefixes_identified (codec : UInt64) (calls : List Call)
    (bounded : (calls.filterMap Call.chunk?).flatten.length < 2 ^ 61) (count : Nat) :
    let chunks := (calls.take count).filterMap Call.chunk?
    let state := (start codec).after (calls.take count)
    state = chunks.foldl update (start codec) ∧
    state.perform .finishCopy = (state, some (Cid.ofData codec chunks.flatten)) ∧
    state.finish? = some (Cid.ofData codec chunks.flatten) ∧
    Cid.ofData? codec chunks.flatten = some (Cid.ofData codec chunks.flatten) ∧
    (∀ digest, Hash.IsSha256 chunks.flatten digest ↔
      digest = (Cid.ofData codec chunks.flatten).hash.digest) ∧
    state.length = chunks.flatten.length ∧
    (state.isEmpty = true ↔ chunks.flatten.length = 0) := by
  intro chunks state
  have short : chunks.flatten.length < 2 ^ 61 := lt_of_le_of_lt (length_given_le calls count) bounded
  have updates : state = chunks.foldl update (start codec) := after_eq (start codec) (calls.take count)
  have named : state.finish = Cid.ofData codec chunks.flatten := by rw [updates, finish_foldl]
  have length_eq : state.length = chunks.flatten.length := by
    rw [updates, start_foldl, length_start_update codec short]
  refine ⟨updates, ?_, ?_, Cid.ofData?_eq codec _, Hash.isSha256_iff short, length_eq, ?_⟩
  · rw [perform, named]
  · rw [finish?_eq, named]
  · rw [isEmpty, decide_eq_true_iff, length_eq]

/-- Three bytes in chunks of one, none and two, with a copy finished before the last. -/
theorem interrupted_identified :
    let calls : List Call := [.update [0x61], .update [], .finishCopy, .update [0x62, 0x63]]
    let state := (start Codec.raw).after calls
    (calls.filterMap Call.chunk?).flatten.length < 2 ^ 61 ∧
      state = (((start Codec.raw).update [0x61]).update []).update [0x62, 0x63] ∧
      state.perform .finishCopy = (state, some (Cid.ofData Codec.raw [0x61, 0x62, 0x63])) ∧
      state.finish? = some (Cid.ofData Codec.raw [0x61, 0x62, 0x63]) ∧
      Cid.ofData? Codec.raw [0x61, 0x62, 0x63] = some (Cid.ofData Codec.raw [0x61, 0x62, 0x63]) ∧
      (∀ digest, Hash.IsSha256 [0x61, 0x62, 0x63] digest ↔
        digest = (Cid.ofData Codec.raw [0x61, 0x62, 0x63]).hash.digest) ∧
      state.length = 3 ∧ (state.isEmpty = true ↔ 3 = 0) := by
  intro calls state
  have bounded : (calls.filterMap Call.chunk?).flatten.length < 2 ^ 61 := by decide
  exact ⟨bounded, prefixes_identified Codec.raw calls bounded 4⟩

end SealedContent.Content.CidHasher
