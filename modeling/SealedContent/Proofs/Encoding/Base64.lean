import SealedContent.Encoding.Base64
import SealedContent.Proofs.Bytes.Text
import SealedContent.Proofs.Encoding.BitGroups
import SealedContent.Proofs.Text.Blank

/-!
Base-64 texts read back, and have no white space. The texts without filling are the only ones that are
read as their bytes.
-/

namespace SealedContent.Encoding

theorem base64_faithful : base64.Faithful := by
  decide

theorem base64Url_faithful : base64Url.Faithful := by
  decide

theorem base64_symbol : ∀ value < 64, base64.symbol value ≠ '=' ∧
    Text.isBlank (base64.symbol value) = false ∧
      0x20 < (base64.symbol value).toNat ∧ (base64.symbol value).toNat < 0x7F := by
  decide

theorem base64Url_symbol : ∀ value < 64, Text.isBlank (base64Url.symbol value) = false := by
  decide

theorem decode?_base64Url (bytes : Bytes) :
    base64Url.decode? (base64Url.encode bytes) = some bytes :=
  base64Url_faithful.decodeSymbols?_symbols (by decide) (by decide) bytes

theorem base64Url_strict : base64Url.Strict :=
  ⟨rfl, rfl⟩

/-- Reading takes exactly what writing gives. -/
theorem decode?_base64Url_eq_some_iff {symbols : List Char} {bytes : Bytes} :
    base64Url.decode? symbols = some bytes ↔ symbols = base64Url.encode bytes := by
  constructor
  · intro read
    exact (base64Url_strict.symbols_of_decodeSymbols? read).symm
  · rintro rfl
    exact decode?_base64Url bytes

theorem base64Url_visible (bytes : Bytes) :
    ∀ char ∈ base64Url.encode bytes, Text.isBlank char = false := by
  intro char member
  obtain ⟨value, grouped, rfl⟩ := List.mem_map.mp member
  exact base64Url_symbol value (lt_of_mem_bitGroups value grouped)

namespace Base64

/-- The symbols that stand for bytes, before the filling. -/
def body (bytes : Bytes) : List Char :=
  (bitGroups 6 (bytesToBits bytes)).map base64.symbol

theorem toList_encode (bytes : Bytes) : (encode bytes).toList =
    body bytes ++ List.replicate ((4 - (body bytes).length % 4) % 4) '=' :=
  String.toList_ofList

theorem mem_body {bytes : Bytes} {char : Char} (member : char ∈ body bytes) :
    char ≠ '=' ∧ Text.isBlank char = false ∧ 0x20 < char.toNat ∧ char.toNat < 0x7F := by
  obtain ⟨value, grouped, rfl⟩ := List.mem_map.mp member
  exact base64_symbol value (lt_of_mem_bitGroups value grouped)

theorem encode_visible (bytes : Bytes) :
    ∀ char ∈ (encode bytes).toList, Text.isBlank char = false := by
  intro char member
  rw [toList_encode] at member
  rcases List.mem_append.mp member with symbol | filling
  · exact (mem_body symbol).2.1
  · rw [List.eq_of_mem_replicate filling]
    rfl

/-- As many symbols as hold the bits of the bytes. -/
theorem length_body (bytes : Bytes) : ∃ fill < 6, 6 * (body bytes).length = 8 * bytes.length + fill := by
  rw [body, List.length_map]
  exact length_bitGroups (by decide) bytes

theorem length_ofText_encode (bytes : Bytes) :
    (Bytes.ofText (encode bytes)).length ≤ 2 * bytes.length + 4 := by
  have plain : ∀ char ∈ (encode bytes).toList, char.toNat < 128 := by
    intro char member
    rw [toList_encode] at member
    rcases List.mem_append.mp member with symbol | filling
    · exact Nat.lt_trans (mem_body symbol).2.2.2 (by decide)
    · rw [List.eq_of_mem_replicate filling]
      decide
  obtain ⟨fill, few, count⟩ := length_body bytes
  have text := Bytes.ofText_ofList plain
  rw [String.ofList_toList] at text
  rw [text, Bytes.ofChars, List.length_map, toList_encode, List.length_append, List.length_replicate]
  omega

theorem decodeSymbols?_body (bytes : Bytes) : base64.decodeSymbols? (body bytes) = some bytes :=
  base64_faithful.decodeSymbols?_symbols (by decide) (by decide) bytes

theorem decode?_encode (bytes : Bytes) : decode? (encode bytes) = some bytes := by
  -- No number of bytes leaves a single symbol over, so there are at most two characters of filling.
  obtain ⟨fill, few, count⟩ := length_body bytes
  have kept : ((encode bytes).toList.reverse.dropWhile fun char => char = '=').reverse =
      body bytes := by
    rw [toList_encode, List.reverse_append, List.reverse_replicate,
      List.dropWhile_append_of_pos (by simp), List.dropWhile_eq_self_iff.mpr, List.reverse_reverse]
    intro present
    have symbol := (mem_body (List.mem_reverse.mp (List.getElem_mem present))).1
    simpa using symbol
  rw [decode?]
  simp only [kept]
  rw [if_pos, decodeSymbols?_body]
  · rw [toList_encode, List.length_append, List.length_replicate]
    omega

theorem encode_not_blank {bytes : Bytes} (present : bytes ≠ []) :
    Text.onlyBlank (encode bytes) = false := by
  apply Text.onlyBlank_of_visible
  · intro empty
    obtain ⟨fill, -, count⟩ := length_body bytes
    have written := toList_encode bytes
    rw [empty] at written
    have none : body bytes = [] := (List.append_eq_nil_iff.mp written.symm).1
    rw [none, List.length_nil] at count
    apply present
    apply List.eq_nil_of_length_eq_zero
    omega
  · exact encode_visible bytes

end Base64

end SealedContent.Encoding
