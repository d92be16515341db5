import SealedContent.Custody.KeyReference
import SealedContent.Proofs.Bytes.Text
import SealedContent.Proofs.Encoding.Base64

/-!
References to keys arrive as they were sent, and every reference has one text, up to white space round
it. All other texts are refused, for one of four reasons.
-/

namespace SealedContent.Custody.KeyReference

open Encoding (BitAlphabet base64Url base64UrlSymbols bitsOf bitsToBytes)

theorem decode_encode (reference : String) : decode (encode reference) = .ok reference := by
  have visible := Encoding.base64Url_visible (Bytes.ofText reference)
  rw [decode, encode, String.toList_ofList, Text.trimChars_of_visible visible,
    Encoding.decode?_base64Url, Option.bind_some, Bytes.toText?_ofText]

theorem encode_not_blank {reference : String} (present : reference ≠ "") :
    Text.onlyBlank (encode reference) = false := by
  apply Text.onlyBlank_of_visible
  · intro empty
    have read := decode_encode reference
    have none : decode "" = .ok "" := rfl
    rw [empty, none] at read
    exact present (Except.ok.inj read).symm
  · intro char member
    rw [encode, String.toList_ofList] at member
    exact Encoding.base64Url_visible _ char member

/-- Why symbols stand for no reference. -/
inductive Malformed (symbols : List Char) : Prop
  /-- A character outside the alphabet, such as filling. -/
  | foreign (char : Char) (member : char ∈ symbols) (outside : char ∉ base64UrlSymbols)
  /-- A symbol that no byte needs. -/
  | uneven (single : symbols.length % 4 = 1)
  /-- The bits after the last byte are not all zero. -/
  | filled (values : List Nat) (read : symbols.mapM base64Url.value? = some values)
      (bit : true ∈ (bitsToBytes (values.flatMap (bitsOf 6))).2)
  /-- The bytes are not the form of a text. -/
  | binary (bytes : Bytes) (written : symbols = base64Url.encode bytes)
      (foreign : Bytes.toText? bytes = none)

theorem decode_eq_ok_iff {text reference : String} :
    decode text = .ok reference ↔ Text.trim text = encode reference := by
  have symbols : Text.trim text = encode reference ↔
      Text.trimChars text.toList = base64Url.encode (Bytes.ofText reference) :=
    String.ofList_inj
  rw [symbols, ← Encoding.decode?_base64Url_eq_some_iff]
  constructor
  · intro read
    unfold decode at read
    split at read
    case h_1 found given =>
      cases read
      obtain ⟨bytes, decoded, valid⟩ := Option.bind_eq_some_iff.mp given
      rw [decoded, Bytes.toText?_eq_some_iff.mp valid]
    case h_2 => cases read
  · intro decoded
    rw [decode, decoded, Option.bind_some, Bytes.toText?_ofText]

theorem decode_ok_or_error (text : String) :
    (∃ reference, decode text = .ok reference) ∨ decode text = .error .invalidKeyReference := by
  unfold decode
  split
  · exact .inl ⟨_, rfl⟩
  · exact .inr rfl

theorem not_malformed_encode (reference : String) :
    ¬ Malformed (base64Url.encode (Bytes.ofText reference)) := by
  have decoded := Encoding.decode?_base64Url (Bytes.ofText reference)
  rintro (⟨char, member, outside⟩ | single | ⟨values, read, bit⟩ | ⟨bytes, written, foreign⟩)
  · obtain ⟨value, grouped, rfl⟩ := List.mem_map.mp member
    have taken := Encoding.base64Url_faithful value (Encoding.lt_of_mem_bitGroups value grouped)
    rw [(BitAlphabet.value?_eq_none_iff rfl).mpr outside] at taken
    cases taken
  · obtain ⟨fill, few, count⟩ := Encoding.length_bitGroups (by decide : 0 < 6) (Bytes.ofText reference)
    have symbols : (base64Url.encode (Bytes.ofText reference)).length =
        (Encoding.bitGroups 6 (Encoding.bytesToBits (Bytes.ofText reference))).length :=
      List.length_map _
    omega
  · obtain ⟨others, numbers, fill, -, cut⟩ := BitAlphabet.decodeSymbols?_eq_some_iff.mp decoded
    rw [Option.some.inj (read.symm.trans numbers)] at bit
    change true ∈ (bitsToBytes (others.flatMap (bitsOf base64Url.width))).2 at bit
    rw [cut] at bit
    cases List.eq_of_mem_replicate bit
  · rw [written, Encoding.decode?_base64Url] at decoded
    rw [Option.some.inj decoded, Bytes.toText?_ofText] at foreign
    cases foreign

theorem malformed_of_unwritten {symbols : List Char}
    (unwritten : ∀ reference, symbols ≠ base64Url.encode (Bytes.ofText reference)) :
    Malformed symbols := by
  cases read : symbols.mapM base64Url.value? with
  | none =>
      obtain ⟨char, member, outside⟩ := BitAlphabet.exists_foreign_of_mapM rfl read
      exact .foreign char member outside
  | some values =>
      by_cases single : symbols.length % 4 = 1
      · exact .uneven single
      by_cases bit : true ∈ (bitsToBytes (values.flatMap (bitsOf 6))).2
      · exact .filled values read bit
      -- What is left over is neither a whole symbol nor a set bit, so the symbols stand for bytes.
      obtain ⟨whole, short⟩ := Encoding.bitsToBytes_append (values.flatMap (bitsOf 6))
      have symbols_length : values.length = symbols.length := by
        rw [← (BitAlphabet.map_symbol_of_mapM rfl read).1, List.length_map]
      have count := congrArg List.length whole
      rw [List.length_append, Encoding.length_bytesToBits, Encoding.length_flatMap_bitsOf] at count
      have zero : (bitsToBytes (values.flatMap (bitsOf 6))).2 =
          List.replicate (bitsToBytes (values.flatMap (bitsOf 6))).2.length false := by
        refine List.eq_replicate_iff.mpr ⟨rfl, fun left member => ?_⟩
        cases left with
        | false => rfl
        | true => exact absurd member bit
      have decoded : base64Url.decode? symbols = some (bitsToBytes (values.flatMap (bitsOf 6))).1 := by
        apply BitAlphabet.decodeSymbols?_eq_some_iff.mpr
        refine ⟨values, read, _, ?_, Prod.ext rfl zero⟩
        change _ < 6
        omega
      have written := Encoding.decode?_base64Url_eq_some_iff.mp decoded
      cases valid : Bytes.toText? (bitsToBytes (values.flatMap (bitsOf 6))).1 with
      | none => exact .binary _ written valid
      | some reference =>
          rw [Bytes.toText?_eq_some_iff.mp valid] at written
          exact absurd written (unwritten reference)

/-- A text stands for a reference exactly if it is the text that the reference is written as, apart
from white space round it. All other texts are refused in one way, and they are the malformed ones. -/
theorem references_read_exactly :
    (∀ text reference : String,
      decode text = .ok reference ↔ Text.trim text = encode reference) ∧
    (∀ text : String, decode text = .error .invalidKeyReference ↔
      ∀ reference, Text.trim text ≠ encode reference) ∧
    (∀ text : String, decode text = .error .invalidKeyReference ↔
      Malformed (Text.trimChars text.toList)) := by
  have refused (text : String) : decode text = .error .invalidKeyReference ↔
      ∀ reference, Text.trim text ≠ encode reference := by
    constructor
    · intro error reference same
      rw [decode_eq_ok_iff.mpr same] at error
      cases error
    · intro unwritten
      rcases decode_ok_or_error text with ⟨reference, read⟩ | error
      · exact absurd (decode_eq_ok_iff.mp read) (unwritten reference)
      · exact error
  refine ⟨fun text reference => decode_eq_ok_iff, refused, fun text => ?_⟩
  rw [refused text]
  constructor
  · intro unwritten
    apply malformed_of_unwritten
    intro reference same
    exact unwritten reference (congrArg String.ofList same)
  · rintro malformed reference same
    rw [show Text.trimChars text.toList = base64Url.encode (Bytes.ofText reference) from
      String.ofList_inj.mp same] at malformed
    exact not_malformed_encode reference malformed

end SealedContent.Custody.KeyReference
