import SealedContent.Proofs.Bytes.Forms
import SealedContent.Proofs.Content.Archive

/-!
What the reading of arbitrary bytes says about them. Readers take a form off the front of their input,
numbers fit in eight bytes, and a root block that was found goes by the root.
-/

namespace SealedContent.Content

open Bytes (TakesForm)

namespace Varint

theorem readGroups_lt {left value : Nat} {input rest : Bytes}
    (read : readGroups (left + 1) input = .ok (value, rest)) : value < 2 * 128 ^ left := by
  induction left generalizing input value rest with
  | zero =>
      cases input with
      | nil => cases read
      | cons byte input =>
          rw [readGroups] at read
          split at read
          · cases read
          rename_i single
          split at read
          · cases read
            omega
          · cases read
  | succ left induction =>
      cases input with
      | nil => cases read
      | cons byte input =>
          have positive : 0 < 128 ^ left := Nat.pow_pos (by decide)
          rw [readGroups] at read
          rw [if_neg (by omega)] at read
          split at read
          · cases read
            rw [pow_succ]
            omega
          · cases more : readGroups (left + 1) input with
            | error fault =>
                rw [more] at read
                cases read
            | ok pair =>
                obtain ⟨higher, after⟩ := pair
                have below := induction more
                rw [more] at read
                cases read
                rw [pow_succ]
                omega

theorem read_lt {value : Nat} {input rest : Bytes} (read : read input = .ok (value, rest)) :
    value < bound := by
  have below := readGroups_lt read
  have size : 2 * 128 ^ 9 = bound := by decide
  rwa [size] at below

theorem readMinimalGroups?_takesForm (first : Bool) (left : Nat) :
    TakesForm (readMinimalGroups? first left) := by
  induction left generalizing first with
  | zero => exact TakesForm.refused
  | succ left induction =>
      refine ⟨fun {input value rest} read => ?_⟩
      cases input with
      | nil => cases read
      | cons byte input =>
          rw [readMinimalGroups?] at read
          split at read
          · rename_i small
            split at read
            · cases read
            · rename_i shortest
              cases read
              refine ⟨[byte], rfl, fun more => ?_⟩
              rw [List.singleton_append, readMinimalGroups?, if_pos small, if_neg shortest]
          · rename_i large
            simp only [Option.bind_eq_bind, Option.bind_eq_some_iff] at read
            obtain ⟨⟨higher, after⟩, more, read⟩ := read
            cases read
            obtain ⟨form, rfl, alike⟩ := (induction false).exists_form more
            refine ⟨byte :: form, rfl, fun others => ?_⟩
            rw [List.cons_append, readMinimalGroups?, if_neg large, alike others]
            rfl

theorem readMinimal?_takesForm : TakesForm readMinimal? :=
  (readMinimalGroups?_takesForm true maxLength).bind fun value => .given (UInt64.ofNat value)

end Varint

theorem Multihash.read?_takesForm : TakesForm read? := by
  have digest_taken : ∀ code size : UInt64, TakesForm fun input =>
      if bound : (input.take size.toNat).length = size.toNat ∧ size.toNat ≤ 64 then
        some ((⟨code, input.take size.toNat, by omega⟩ : Multihash), input.drop size.toNat)
      else none := by
    intro code size
    refine ⟨fun {input hash rest} read => ?_⟩
    split at read
    · rename_i bound
      cases read
      refine ⟨input.take size.toNat, (List.take_append_drop _ _).symm, fun more => ?_⟩
      simp only [List.take_left' bound.1, List.drop_left' bound.1]
      rw [dif_pos bound]
    · cases read
  exact Varint.readMinimal?_takesForm.bind fun code =>
    Varint.readMinimal?_takesForm.bind fun size => digest_taken code size

theorem Cid.readDigest?_takesForm : TakesForm readDigest? := by
  apply Bytes.takesForm_take
  intro bytes digest made
  rw [Bytes.toVector?] at made
  split at made
  · assumption
  · cases made

theorem Cid.read?_takesForm : TakesForm read? := by
  have body_taken : ∀ version codec : UInt64, TakesForm fun input =>
      if version = 0x12 ∧ codec = 0x20 then
        (readDigest? input).bind fun pair => some (v0 pair.1, pair.2)
      else if version = 1 then
        (Multihash.read? input).bind fun pair => some (v1 codec pair.1, pair.2)
      else none := by
    intro version codec
    split
    · exact readDigest?_takesForm.bind fun digest => .given (v0 digest)
    split
    · exact Multihash.read?_takesForm.bind fun hash => .given (v1 codec hash)
    · exact .refused
  exact Varint.readMinimal?_takesForm.bind fun version =>
    Varint.readMinimal?_takesForm.bind fun codec => body_taken version codec

namespace Archive

theorem rootBlock?_cid {archive : Archive} {block : Block}
    (found : archive.rootBlock? = some block) : block.cid = archive.root := by
  rw [rootBlock?, find?] at found
  simpa using List.find?_some found

theorem verifiedRoot_of_found {archive : Archive} {block : Block}
    (found : archive.rootBlock? = some block) :
    archive.verifiedRoot = (verifyBlock archive.root block.data).map fun _ => block := by
  rw [verifiedRoot, found, ← rootBlock?_cid found]
  dsimp only
  cases verifyBlock block.cid block.data <;> rfl

theorem found_of_verifiedRoot {archive : Archive} {block : Block}
    (verified : archive.verifiedRoot = .ok block) :
    archive.rootBlock? = some block ∧ verifyBlock archive.root block.data = .ok () := by
  cases found : archive.rootBlock? with
  | none =>
      rw [verifiedRoot, found] at verified
      cases verified
  | some first =>
      rw [verifiedRoot_of_found found] at verified
      cases checked : verifyBlock archive.root first.data with
      | error fault =>
          rw [checked] at verified
          cases verified
      | ok =>
          rw [checked] at verified
          cases verified
          exact ⟨rfl, checked⟩

end Archive

end SealedContent.Content
