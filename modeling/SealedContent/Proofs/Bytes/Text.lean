import SealedContent.Bytes.Basic

/-!
Texts as byte strings. Different texts have different bytes, and a text of plain characters has one
byte for each.
-/

namespace SealedContent.Bytes

theorem ofText_injective {left right : String} (same : ofText left = ofText right) :
    left = right := by
  have read := toText?_ofText left
  rw [same, toText?_ofText] at read
  exact (Option.some.inj read).symm

theorem toText?_eq_some_iff {bytes : Bytes} {text : String} :
    toText? bytes = some text ↔ bytes = ofText text := by
  constructor
  · intro read
    unfold toText? String.fromUTF8? at read
    split at read
    case isTrue valid =>
      cases read
      rfl
    case isFalse => cases read
  · rintro rfl
    exact toText?_ofText text

/-- One byte for each character. -/
def ofChars (chars : List Char) : Bytes :=
  chars.map fun char => UInt8.ofNat char.toNat

theorem utf8EncodeChar_plain {char : Char} (plain : char.toNat < 128) :
    String.utf8EncodeChar char = [UInt8.ofNat char.toNat] := by
  have narrow : char.val.toNat ≤ 127 := Nat.le_of_lt_succ plain
  rw [String.utf8EncodeChar, if_pos narrow]
  rfl

theorem ofText_ofList {chars : List Char} (plain : ∀ char ∈ chars, char.toNat < 128) :
    ofText (String.ofList chars) = ofChars chars := by
  have encoded : ofText (String.ofList chars) = chars.flatMap String.utf8EncodeChar := by
    simp [ofText, List.utf8Encode]
  rw [encoded]
  clear encoded
  induction chars with
  | nil => rfl
  | cons char chars induction =>
      have rest := induction fun other member => plain other (List.mem_cons_of_mem _ member)
      rw [List.flatMap_cons, rest, utf8EncodeChar_plain (plain char List.mem_cons_self)]
      rfl

theorem utf8ByteSize_ofList {chars : List Char} (plain : ∀ char ∈ chars, char.toNat < 128) :
    (String.ofList chars).utf8ByteSize = chars.length := by
  have size := congrArg List.length (ofText_ofList plain)
  rw [ofChars, List.length_map] at size
  exact size

end SealedContent.Bytes
