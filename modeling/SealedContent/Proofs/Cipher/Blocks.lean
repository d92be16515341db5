import Mathlib.Data.List.Basic
import SealedContent.Cipher.Block

/-!
Cutting data into blocks. The whole blocks and the short rest are determined by the data, so cutting
goes on where it stopped when more data arrives.
-/

namespace SealedContent.Cipher.Block

theorem xor_comm (left right : Block) : xor left right = xor right left := by
  ext index bound
  simp only [getElem_xor, UInt8.xor_comm]

@[simp] theorem join_nil : join [] = [] := rfl

theorem join_cons (block : Block) (blocks : List Block) :
    join (block :: blocks) = block.toList ++ join blocks := rfl

theorem join_append (left right : List Block) : join (left ++ right) = join left ++ join right :=
  List.flatMap_append

theorem join_singleton (block : Block) : join [block] = block.toList := by
  rw [join_cons, join_nil, List.append_nil]

theorem length_join (blocks : List Block) : (join blocks).length = 16 * blocks.length := by
  induction blocks with
  | nil => rfl
  | cons block blocks induction =>
      rw [join_cons, List.length_append, induction, Vector.length_toList, List.length_cons]
      omega

theorem exists_toList {bytes : Bytes} (size : bytes.length = 16) :
    ∃ block : Block, block.toList = bytes :=
  ⟨⟨bytes.toArray, by simpa using size⟩, rfl⟩

theorem ofBytes?_toList (block : Block) : ofBytes? block.toList = some block :=
  Bytes.toVector?_toList block

theorem nil_short : ([] : Bytes).length < 16 := by decide

theorem split_short {data : Bytes} (short : data.length < 16) : split data = ([], data) := by
  rw [split, dif_neg]
  rw [List.length_take]
  omega

theorem split_cons (block : Block) (data : Bytes) :
    split (block.toList ++ data) = (block :: (split data).1, (split data).2) := by
  have size : block.toList.length = 16 := Vector.length_toList
  have first : (block.toList ++ data).take 16 = block.toList := List.take_left' size
  have rest : (block.toList ++ data).drop 16 = data := List.drop_left' size
  have enough : ((block.toList ++ data).take 16).length = 16 := by rw [first, size]
  rw [split, dif_pos enough]
  simp only [first, rest]
  rfl

theorem split_join (blocks : List Block) {rest : Bytes} (short : rest.length < 16) :
    split (join blocks ++ rest) = (blocks, rest) := by
  induction blocks with
  | nil => exact split_short short
  | cons block blocks induction =>
      rw [join_cons, List.append_assoc, split_cons, induction]

theorem exists_blocks (data : Bytes) :
    ∃ blocks rest, data = join blocks ++ rest ∧ rest.length < 16 := by
  induction data using split.induct with
  | case1 data enough _ _ _ induction =>
      obtain ⟨blocks, rest, tail, short⟩ := induction
      refine ⟨⟨(data.take 16).toArray, by simpa using enough⟩ :: blocks, rest, ?_, short⟩
      rw [join_cons, List.append_assoc, ← tail]
      exact (List.take_append_drop 16 data).symm
  | case2 data less =>
      refine ⟨[], data, rfl, ?_⟩
      rw [List.length_take] at less
      omega

theorem split_rest_lt (data : Bytes) : (split data).2.length < 16 := by
  obtain ⟨blocks, rest, rfl, short⟩ := exists_blocks data
  rwa [split_join blocks short]

theorem split_append (data more : Bytes) :
    split (data ++ more) =
      ((split data).1 ++ (split ((split data).2 ++ more)).1, (split ((split data).2 ++ more)).2) := by
  obtain ⟨blocks, rest, rfl, short⟩ := exists_blocks data
  obtain ⟨laterBlocks, laterRest, later, laterShort⟩ := exists_blocks (rest ++ more)
  rw [split_join blocks short, List.append_assoc, later, ← List.append_assoc, ← join_append,
    split_join _ laterShort, split_join _ laterShort]

end SealedContent.Cipher.Block
