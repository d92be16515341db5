import SealedContent.Content.Error
import SealedContent.Proofs.Bytes.Text
import SealedContent.Proofs.Content.Cid
import SealedContent.Proofs.Encoding.Multibase
import SealedContent.Proofs.Text.Blank

/-!
The text of an identifier names it alone. Version 1 is read by the code in front of its base-32 symbols;
version 0 has no code and is told by its size and its first two symbols, which are the same for every
digest, and no text of version 1 starts like that.
-/

namespace SealedContent.Content.Cid

open Encoding (Multibase natOfDigits)
open Encoding.Multibase (IsSolid base58)

section Marker

variable {marker : Char} {more input : List Char}

theorem search_of_absent (absent : ∀ char ∈ input, char ≠ marker) :
    afterFirst.search (marker :: more) input = none := by
  induction input with
  | nil => rfl
  | cons char rest induction =>
      have later : ∀ other ∈ rest, other ≠ marker := fun other member =>
        absent other (List.mem_cons_of_mem _ member)
      rw [afterFirst.search, if_neg]
      · exact induction later
      · intro same
        exact absent char List.mem_cons_self (List.cons.inj same).1

theorem afterFirst_of_absent (absent : ∀ char ∈ input, char ≠ marker) :
    afterFirst (marker :: more) input = input := by
  rw [afterFirst, search_of_absent absent]
  rfl

end Marker

/-- The number that a digest is, with the two bytes in front of it, holds `58 ^ 44` equally often for
every digest. -/
theorem exists_low_v0 (digest : Vector UInt8 32) : ∃ low < 58 ^ 44,
    natOfDigits 256 ((v0 digest).toBytes.map UInt8.toNat) = low + 58 ^ 44 * 1378 := by
  let rest := natOfDigits 256 (digest.toList.map UInt8.toNat)
  have bounded : rest < 256 ^ 32 := by
    have below := Encoding.natOfDigits_bytes_lt digest.toList
    rwa [Vector.length_toList] at below
  have value : natOfDigits 256 ((v0 digest).toBytes.map UInt8.toNat) =
      rest + 256 ^ 32 * 4640 := by
    rw [toBytes, List.map_append, Encoding.natOfDigits_append, List.length_map, Vector.length_toList]
    rfl
  rw [value]
  -- Neither the least nor the greatest digest moves the quotient.
  norm_num at bounded ⊢
  exact ⟨rest + 256 ^ 32 * 4640 - 58 ^ 44 * 1378, by omega, by omega⟩

theorem base58_v0 (digest : Vector UInt8 32) : ∃ symbols : List Char, symbols.length = 44 ∧
    base58.encode (v0 digest).toBytes = 'Q' :: 'm' :: symbols := by
  obtain ⟨low, below, value⟩ := exists_low_v0 digest
  obtain ⟨others, count, digits⟩ :=
    Encoding.digits_reverse_leading (by decide : 1 < 58) (by decide : 0 < 1378) below
  -- These are the places of the two symbols in the alphabet.
  have leading : (Nat.digits 58 1378).reverse = [23, 44] := by norm_num
  have radix : base58.base = 58 := by decide
  refine ⟨others.map fun digit => base58.symbols.getD digit '0', ?_, ?_⟩
  · rw [List.length_map, count]
  · rw [Encoding.Radix.encode, radix, Encoding.changeBase_of_leading (by decide) (by simp [toBytes]),
      value, digits, leading]
    rfl

example : (v0 (Vector.replicate 32 0)).toText = "QmNLei78zWmzUdbeRB3CiUfAizWUrbeeZh5K1rhAQKCh51" := by
  cbv

theorem toText_solid (cid : Cid) : ∀ char ∈ cid.toText.toList, IsSolid char := by
  cases cid with
  | v0 digest =>
      rw [toText, String.toList_ofList]
      exact Multibase.base58_solid _
  | v1 codec hash =>
      rw [toText, String.toList_ofList]
      exact Multibase.encodeBase32_solid _

theorem toText_alphanumeric (cid : Cid) :
    ∀ char ∈ cid.toText.toList, char.isAlphanum = true := by
  cases cid with
  | v0 digest =>
      rw [toText, String.toList_ofList]
      exact Multibase.base58_alphanumeric _
  | v1 codec hash =>
      rw [toText, String.toList_ofList]
      exact Multibase.encodeBase32_alphanumeric _

/-- Solid symbols with white space around them are read as they are. -/
theorem ofText?_of_trimmed {text : String} {symbols : List Char}
    (trimmed : Text.trimChars text.toList = symbols) (solid : ∀ char ∈ symbols, IsSolid char)
    (sized : 2 ≤ symbols.length) :
    ofText? text =
      if symbols.length = 46 ∧ symbols.take 2 = ['Q', 'm'] then
        (base58.decode? symbols).bind ofBytes?
      else (Multibase.decode? symbols).bind ofBytes? := by
  have whole : afterFirst "/ipfs/".toList symbols = symbols :=
    afterFirst_of_absent fun char member => (solid char member).2.1
  have size := Bytes.utf8ByteSize_ofList fun char member => (solid char member).2.2
  simp only [ofText?, trimmed, whole, size]
  rw [if_neg (by omega)]

theorem ofText?_surrounded (cid : Cid) {before after : String}
    (whiteBefore : Text.onlyBlank before = true) (whiteAfter : Text.onlyBlank after = true) :
    ofText? (before ++ cid.toText ++ after) = some cid := by
  have solid := cid.toText_solid
  have trimmed : Text.trimChars (before ++ cid.toText ++ after).toList = cid.toText.toList := by
    rw [String.toList_append, String.toList_append, List.append_assoc]
    exact Text.trimChars_surrounded (List.all_eq_true.mp whiteBefore)
      (fun char member => (solid char member).1) (List.all_eq_true.mp whiteAfter)
  cases cid with
  | v0 digest =>
      obtain ⟨others, count, symbols⟩ := base58_v0 digest
      have text : (v0 digest).toText.toList = base58.encode (v0 digest).toBytes :=
        String.toList_ofList
      have sized : (v0 digest).toText.toList.length = 46 := by rw [text, symbols]; simp [count]
      rw [ofText?_of_trimmed trimmed solid (by omega), if_pos ⟨sized, by rw [text, symbols]; rfl⟩,
        text, Multibase.decode?_base58, Option.bind_some, ofBytes?_toBytes]
  | v1 codec hash =>
      have text : (v1 codec hash).toText.toList = Multibase.encodeBase32 (v1 codec hash).toBytes :=
        String.toList_ofList
      have sized : 2 ≤ (v1 codec hash).toText.toList.length := by
        rw [text]
        exact Multibase.length_encodeBase32 (toBytes_ne_nil _)
      have marked : ¬ (v1 codec hash).toText.toList.take 2 = ['Q', 'm'] := by
        rw [text, Multibase.encodeBase32, List.take_succ_cons]
        exact fun same => absurd (List.cons.inj same).1 (by decide)
      rw [ofText?_of_trimmed trimmed solid sized, if_neg (fun both => marked both.2), text,
        Multibase.decode?_encodeBase32, Option.bind_some, ofBytes?_toBytes]

theorem toText_injective : Function.Injective toText := by
  intro left right same
  have read : ofText? ("" ++ left.toText ++ "") = some left := ofText?_surrounded left rfl rfl
  rw [same, ofText?_surrounded right rfl rfl] at read
  exact (Option.some.inj read).symm

/-- The text of an identifier is read as that identifier, whatever white space stands around it, and no
other identifier has it. -/
theorem text_identifies (cid : Cid) {before after : String}
    (whiteBefore : Text.onlyBlank before = true) (whiteAfter : Text.onlyBlank after = true) :
    Cid.parse (before ++ cid.toText ++ after) = .ok cid ∧
      ∀ other : Cid, other.toText = cid.toText ↔ other = cid := by
  refine ⟨?_, fun other => toText_injective.eq_iff⟩
  rw [parse, ofText?_surrounded cid whiteBefore whiteAfter]

/-- A version 0 identifier between an em space and the end of a line. -/
theorem zeroDigest_identified :
    Text.onlyBlank "\t\u2003" = true ∧ Text.onlyBlank "\r\n" = true ∧
      Cid.parse ("\t\u2003" ++ (v0 (Vector.replicate 32 0)).toText ++ "\r\n") =
        .ok (v0 (Vector.replicate 32 0)) ∧
      ∀ other : Cid, other.toText = (v0 (Vector.replicate 32 0)).toText ↔
        other = v0 (Vector.replicate 32 0) :=
  ⟨by decide, by decide, text_identifies (v0 (Vector.replicate 32 0)) (by decide) (by decide)⟩

end SealedContent.Content.Cid
