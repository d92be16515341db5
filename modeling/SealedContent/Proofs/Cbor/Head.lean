import SealedContent.Cbor.Shape
import SealedContent.Proofs.Bytes.Positional
import SealedContent.Proofs.Content.Cid

/-!
Heads, strings and links of the canonical form read back in front of any other bytes, wherever
their major type is taken. The argument of a head has to fit in eight bytes.
-/

namespace SealedContent.Cbor

open Content (Cid)

theorem toNat_lead {major code : Nat} (kind : major < 8) (narrow : code < 32) :
    (UInt8.ofNat (major * 32 + code)).toNat = major * 32 + code := by
  rw [UInt8.toNat_ofNat']
  exact Nat.mod_eq_of_lt (by omega)

theorem head_eq_cons (major argument : Nat) :
    ∃ code ≤ 27, ∃ tail, head major argument = UInt8.ofNat (major * 32 + code) :: tail := by
  rw [head]
  split
  · exact ⟨argument, by omega, _, rfl⟩
  split
  · exact ⟨24, by omega, _, rfl⟩
  split
  · exact ⟨25, by omega, _, rfl⟩
  split
  · exact ⟨26, by omega, _, rfl⟩
  · exact ⟨27, by omega, _, rfl⟩

theorem head_ne_nil (major argument : Nat) : head major argument ≠ [] := by
  obtain ⟨code, -, tail, cut⟩ := head_eq_cons major argument
  rw [cut]
  exact List.cons_ne_nil _ _

theorem length_head (major argument : Nat) : (head major argument).length ≤ 9 := by
  rw [head]
  repeat' split
  all_goals simp

theorem length_encodeLink (cid : Cid) : (encodeLink cid).length ≤ 114 := by
  have tag := length_head 6 linkTag
  have lead := length_head 2 (0 :: cid.toBytes).length
  have content := cid.length_toBytes
  rw [encodeLink, List.length_append, List.length_append]
  rw [List.length_cons] at lead ⊢
  omega

section Read

variable {majors : List Nat} {major : Nat}

theorem readHead?_lead (taken : major ∈ majors) (kind : major < 8) {code : Nat}
    (narrow : code < 32) (rest : Bytes) :
    readHead? majors (UInt8.ofNat (major * 32 + code) :: rest) = readArgument? code rest := by
  have quotient : (major * 32 + code) / 32 = major := by omega
  have remainder : (major * 32 + code) % 32 = code := by omega
  rw [readHead?, toNat_lead kind narrow, quotient, remainder, if_pos taken]

theorem readArgument?_wide {code size argument : Nat}
    (width : (code = 24 ∧ size = 1) ∨ (code = 25 ∧ size = 2) ∨ (code = 26 ∧ size = 4) ∨
      (code = 27 ∧ size = 8))
    (bounded : argument < 256 ^ size) (rest : Bytes) :
    readArgument? code (Bytes.ofNatBig size argument ++ rest) = some (argument, rest) := by
  have length := Bytes.length_ofNatBig size argument
  rcases width with ⟨rfl, rfl⟩ | ⟨rfl, rfl⟩ | ⟨rfl, rfl⟩ | ⟨rfl, rfl⟩ <;>
    simp [readArgument?, List.take_left' length, List.drop_left' length,
      Bytes.bigEndian_ofNatBig bounded]

theorem readHead?_wide (taken : major ∈ majors) (kind : major < 8) {code size argument : Nat}
    (width : (code = 24 ∧ size = 1) ∨ (code = 25 ∧ size = 2) ∨ (code = 26 ∧ size = 4) ∨
      (code = 27 ∧ size = 8))
    (bounded : argument < 256 ^ size) (rest : Bytes) :
    readHead? majors
      (UInt8.ofNat (major * 32 + code) :: (Bytes.ofNatBig size argument ++ rest)) =
        some (argument, rest) := by
  rw [readHead?_lead taken kind (by omega)]
  exact readArgument?_wide width bounded rest

theorem readHead?_head (taken : major ∈ majors) (kind : major < 8) {argument : Nat}
    (bounded : argument < UInt64.size) (rest : Bytes) :
    readHead? majors (head major argument ++ rest) = some (argument, rest) := by
  rw [head]
  split
  case isTrue small =>
    rw [List.singleton_append, readHead?_lead taken kind (by omega), readArgument?, if_pos small]
  split
  case isTrue fits => exact readHead?_wide taken kind (by decide) fits rest
  split
  case isTrue fits => exact readHead?_wide taken kind (by decide) fits rest
  split
  case isTrue fits => exact readHead?_wide taken kind (by decide) fits rest
  · exact readHead?_wide taken kind (by decide) bounded rest

theorem takeExactly?_append (content rest : Bytes) :
    takeExactly? content.length (content ++ rest) = some (content, rest) := by
  rw [takeExactly?, List.take_left, List.drop_left, if_pos rfl]

theorem readString?_definite {indefinite : UInt8} {input : Bytes}
    (definite : input.head? ≠ some indefinite) (depth : Nat) :
    readString? indefinite majors depth input =
      (readHead? majors input).bind fun (length, rest) => takeExactly? length rest := by
  rw [readString?.eq_def]
  dsimp only
  rw [if_neg definite]
  rfl

/-- Only the code 31 starts a string of indefinite length, and no head has it. -/
theorem readString?_head {indefinite : UInt8} (indefinite_code : indefinite.toNat % 32 = 31)
    (taken : major ∈ majors) (kind : major < 8) {content : Bytes}
    (bounded : content.length < UInt64.size) (depth : Nat) (rest : Bytes) :
    readString? indefinite majors depth (head major content.length ++ (content ++ rest)) =
      some (content, rest) := by
  have definite : (head major content.length ++ (content ++ rest)).head? ≠ some indefinite := by
    obtain ⟨code, narrow, tail, cut⟩ := head_eq_cons major content.length
    rw [cut, List.cons_append, List.head?_cons]
    intro same
    rw [← Option.some.inj same, toNat_lead kind (by omega)] at indefinite_code
    omega
  rw [readString?_definite definite, readHead?_head taken kind bounded]
  exact takeExactly?_append content rest

end Read

theorem readText?_encodeText {text : String} (bounded : (Bytes.ofText text).length < UInt64.size)
    (depth : Nat) (rest : Bytes) :
    readText? depth (encodeText text ++ rest) = some (text, rest) := by
  rw [encodeText, List.append_assoc, readText?,
    readString?_head (by decide) (by decide) (by decide) bounded]
  simp [Bytes.toText?_ofText]

theorem readLink?_encodeLink (cid : Cid) (depth : Nat) (rest : Bytes) :
    readLink? depth (encodeLink cid ++ rest) = some (cid, rest) := by
  let content : Bytes := 0 :: cid.toBytes
  have cid_length := cid.length_toBytes
  have bounded : content.length < UInt64.size :=
    lt_of_le_of_lt (Nat.succ_le_succ cid_length) (by decide)
  obtain ⟨code, narrow, tail, cut⟩ := head_eq_cons 2 content.length
  have first : (head 2 content.length ++ (content ++ rest)).head? =
      some (UInt8.ofNat (2 * 32 + code)) := by
    rw [cut]
    rfl
  have major : (UInt8.ofNat (2 * 32 + code)).toNat / 32 = 2 := by
    rw [toNat_lead (by decide) (by omega)]
    omega
  rw [encodeLink, List.append_assoc, List.append_assoc, readLink?,
    readHead?_head (by decide) (by decide) (by decide)]
  simp only [Option.bind_eq_bind, Option.bind_some]
  rw [first]
  simp only [Option.bind_some, major, and_self, if_true]
  rw [readString?_head (by decide) (by decide) (by decide) bounded]
  simp only [Option.bind_some, content, Cid.ofBytes?_toBytes]
  rfl

end SealedContent.Cbor
