import Mathlib.Data.Bool.AllAny
import SealedContent.Proofs.Bytes.Chunks
import SealedContent.Proofs.Bytes.Pieces
import SealedContent.Proofs.Bytes.Text
import SealedContent.Proofs.Encoding.Base64
import SealedContent.Proofs.Sealing.Authenticated
import SealedContent.Sealing.AgeFile

/-!
A sealed file opens for the identity it was sealed for, as far as both sides agree on the secret
between them: its header reads back line by line, and so does its content.
-/

namespace SealedContent

namespace Sealing.AgeFile

/-- A character that a word of a header may have. -/
def IsWordChar (char : Char) : Prop :=
  0x20 < char.toNat ∧ char.toNat < 0x7F

instance (char : Char) : Decidable (IsWordChar char) :=
  inferInstanceAs (Decidable (_ ∧ _))

theorem IsWordChar.ne_blank {char : Char} (solid : IsWordChar char) : char ≠ ' ' := by
  rintro rfl
  exact absurd solid.1 (by decide)

/-- A character of a line: one of a word, or a blank between words. -/
def IsLineChar (char : Char) : Prop :=
  0x20 ≤ char.toNat ∧ char.toNat < 0x7F

instance (char : Char) : Decidable (IsLineChar char) :=
  inferInstanceAs (Decidable (_ ∧ _))

theorem IsWordChar.inLine {char : Char} (solid : IsWordChar char) : IsLineChar char :=
  ⟨Nat.le_of_lt solid.1, solid.2⟩

def lineBytes (line : List Char) : Bytes :=
  Bytes.ofChars line ++ [0x0A]

theorem length_lineBytes (line : List Char) : (lineBytes line).length = line.length + 1 := by
  simp [lineBytes, Bytes.ofChars]

theorem readLine?_lineBytes {line : List Char} (printable : ∀ char ∈ line, IsLineChar char)
    (rest : Bytes) : readLine? (lineBytes line ++ rest) = some (line, rest) := by
  induction line with
  | nil => rfl
  | cons char line induction =>
      obtain ⟨least, most⟩ := printable char List.mem_cons_self
      have later := induction fun other member => printable other (List.mem_cons_of_mem _ member)
      have code : (UInt8.ofNat char.toNat).toNat = char.toNat := by
        rw [UInt8.toNat_ofNat']
        omega
      have notEnd : UInt8.ofNat char.toNat ≠ 0x0A := by
        intro same
        have value := congrArg UInt8.toNat same
        rw [code] at value
        have ended : char.toNat = 10 := value
        omega
      have inRange : ¬ (UInt8.ofNat char.toNat < 0x20 ∨ 0x7E < UInt8.ofNat char.toNat) := by
        rw [UInt8.lt_iff_toNat_lt, UInt8.lt_iff_toNat_lt, code]
        change ¬ (char.toNat < 32 ∨ 126 < char.toNat)
        omega
      have tail : lineBytes (char :: line) ++ rest =
          UInt8.ofNat char.toNat :: (lineBytes line ++ rest) := rfl
      rw [tail, readLine?, if_neg notEnd, if_neg inRange, later, code, Char.ofNat_toNat]
      rfl

theorem words_word {word : List Char} (solid : ∀ char ∈ word, IsWordChar char) :
    words word = [word] := by
  induction word with
  | nil => rfl
  | cons char word induction =>
      have later := induction fun other member => solid other (List.mem_cons_of_mem _ member)
      have notBlank := (solid char List.mem_cons_self).ne_blank
      rw [words] at later
      rw [words, List.foldr_cons, later, if_neg notBlank]

theorem words_cons {word : List Char} (solid : ∀ char ∈ word, IsWordChar char) (rest : List Char) :
    words (word ++ ' ' :: rest) = word :: words rest := by
  induction word with
  | nil => rfl
  | cons char word induction =>
      have later := induction fun other member => solid other (List.mem_cons_of_mem _ member)
      have notBlank := (solid char List.mem_cons_self).ne_blank
      rw [words] at later
      rw [List.cons_append, words, List.foldr_cons, later, if_neg notBlank]

theorem words_joined {first : List Char} {others : List (List Char)}
    (solid : ∀ word ∈ first :: others, ∀ char ∈ word, IsWordChar char) :
    words (first ++ others.flatMap fun word => ' ' :: word) = first :: others := by
  induction others generalizing first with
  | nil =>
      rw [List.flatMap_nil, List.append_nil]
      exact words_word (solid first List.mem_cons_self)
  | cons next others induction =>
      rw [List.flatMap_cons, List.cons_append, words_cons (solid first List.mem_cons_self),
        induction fun word member => solid word (List.mem_cons_of_mem _ member)]

/-- A stanza of words that are written as they are, and a body that fits on one line. -/
structure Plain (stanza : Stanza) : Prop where
  present : ∀ word ∈ stanza.kind :: stanza.arguments, word ≠ []
  solid : ∀ word ∈ stanza.kind :: stanza.arguments, ∀ char ∈ word, IsWordChar char
  short : (text64 stanza.body).length < wideLine

theorem text64_solid (data : Bytes) : ∀ char ∈ text64 data, IsWordChar char := by
  intro char member
  exact (Encoding.Base64.mem_body member).2.2

theorem length_text64_le (data : Bytes) : (text64 data).length ≤ 2 * data.length := by
  obtain ⟨fill, few, count⟩ := Encoding.Base64.length_body data
  change (Encoding.Base64.body data).length ≤ _
  omega

theorem decodeSymbols?_text64 (data : Bytes) :
    Encoding.base64Unpadded.decodeSymbols? (text64 data) = some data :=
  Encoding.Base64.decodeSymbols?_body data

def argumentLine (stanza : Stanza) : List Char :=
  "->".toList ++ (stanza.kind :: stanza.arguments).flatMap fun word => ' ' :: word

def macLine (mac : Bytes) : List Char :=
  closing ++ [text64 mac].flatMap fun word => ' ' :: word

theorem joined_inLine {first : List Char} {others : List (List Char)}
    (solid : ∀ word ∈ first :: others, ∀ char ∈ word, IsWordChar char) :
    ∀ char ∈ first ++ others.flatMap fun word => ' ' :: word, IsLineChar char := by
  intro char member
  rcases List.mem_append.mp member with opening | later
  · exact (solid first List.mem_cons_self char opening).inLine
  · obtain ⟨word, listed, inWord⟩ := List.mem_flatMap.mp later
    rcases List.mem_cons.mp inWord with rfl | inner
    · exact ⟨by decide, by decide⟩
    · exact (solid word (List.mem_cons_of_mem _ listed) char inner).inLine

theorem Plain.argument_solid {stanza : Stanza} (plain : Plain stanza) :
    ∀ word ∈ "->".toList :: stanza.kind :: stanza.arguments, ∀ char ∈ word, IsWordChar char := by
  intro word member
  rcases List.mem_cons.mp member with rfl | listed
  · exact List.all_iff_forall_prop.mp (by decide)
  · exact plain.solid word listed

theorem mac_solid (mac : Bytes) :
    ∀ word ∈ closing :: [text64 mac], ∀ char ∈ word, IsWordChar char := by
  intro word member
  rcases List.mem_cons.mp member with rfl | listed
  · exact List.all_iff_forall_prop.mp (by decide)
  · rw [List.mem_singleton.mp listed]
    exact text64_solid mac

theorem Plain.stanzaLines_eq {stanza : Stanza} (plain : Plain stanza) :
    stanzaLines stanza = [argumentLine stanza, text64 stanza.body] := by
  rw [stanzaLines, bodyLines, if_neg (Nat.not_le.mpr plain.short)]
  rfl

def stanzaBytes (stanza : Stanza) : Bytes :=
  lineBytes (argumentLine stanza) ++ lineBytes (text64 stanza.body)

theorem stanzaBytes_ne_nil (stanza : Stanza) : stanzaBytes stanza ≠ [] := by
  simp [stanzaBytes, lineBytes]

theorem readBody?_text64 {data : Bytes} (short : (text64 data).length < wideLine) (fuel : Nat)
    (rest : Bytes) :
    readBody? (fuel + 1) (lineBytes (text64 data) ++ rest) = some (text64 data, rest) := by
  have inLine : ∀ char ∈ text64 data, IsLineChar char := fun char member =>
    (text64_solid data char member).inLine
  rw [readBody?, readLine?_lineBytes inLine]
  simp only [Option.bind_eq_bind, Option.bind_some]
  rw [if_neg (by omega), if_neg (by omega)]
  rfl

theorem readStanzas?_mac (mac payload : Bytes) (fuel : Nat) :
    readStanzas? (fuel + 1) (lineBytes (macLine mac) ++ payload) = some ([], mac, payload) := by
  have inLine : ∀ char ∈ macLine mac, IsLineChar char := joined_inLine (mac_solid mac)
  have split : words (macLine mac) = ['-', '-', '-'] :: [text64 mac] := words_joined (mac_solid mac)
  rw [readStanzas?, readLine?_lineBytes inLine]
  simp only [Option.bind_eq_bind, Option.bind_some, split, decodeSymbols?_text64]
  rfl

theorem readStanzas?_stanza {stanza : Stanza} (plain : Plain stanza) (fuel : Nat) (rest : Bytes) :
    readStanzas? (fuel + 2) (stanzaBytes stanza ++ rest) =
      (readStanzas? (fuel + 1) rest).map fun (stanzas, mac, payload) =>
        (stanza :: stanzas, mac, payload) := by
  have inLine : ∀ char ∈ argumentLine stanza, IsLineChar char := joined_inLine plain.argument_solid
  have split : words (argumentLine stanza) = ['-', '>'] :: stanza.kind :: stanza.arguments :=
    words_joined plain.argument_solid
  have filled : (stanza.kind :: stanza.arguments).any List.isEmpty = false := by
    rw [List.any_eq_false]
    intro word member
    simp [plain.present word member]
  rw [stanzaBytes, List.append_assoc, readStanzas?, readLine?_lineBytes inLine]
  simp only [Option.bind_eq_bind, Option.bind_some, split, filled, readBody?_text64 plain.short,
    decodeSymbols?_text64]
  cases readStanzas? (fuel + 1) rest <;> rfl

theorem readStanzas?_written {stanzas : List Stanza} (plain : ∀ stanza ∈ stanzas, Plain stanza)
    (mac payload : Bytes) {fuel : Nat} (enough : stanzas.length < fuel) :
    readStanzas? fuel (stanzas.flatMap stanzaBytes ++ (lineBytes (macLine mac) ++ payload)) =
      some (stanzas, mac, payload) := by
  induction stanzas generalizing fuel with
  | nil =>
      obtain ⟨fuel, rfl⟩ : ∃ fewer, fuel = fewer + 1 := ⟨fuel - 1, by omega⟩
      exact readStanzas?_mac mac payload fuel
  | cons stanza stanzas induction =>
      rw [List.length_cons] at enough
      obtain ⟨fuel, rfl⟩ : ∃ fewer, fuel = fewer + 2 := ⟨fuel - 2, by omega⟩
      have later := induction (fun other member => plain other (List.mem_cons_of_mem _ member))
        (Nat.lt_of_succ_lt_succ enough)
      rw [List.flatMap_cons, List.append_assoc, readStanzas?_stanza (plain stanza List.mem_cons_self),
        later]
      rfl

theorem ofChars_lines (lines : List (List Char)) :
    Bytes.ofChars (lines.flatMap fun line => line ++ ['\n']) = lines.flatMap lineBytes := by
  rw [Bytes.ofChars, List.map_flatMap]
  apply List.flatMap_congr
  intro line member
  rw [List.map_append]
  rfl

theorem header_inLine {stanzas : List Stanza} (plain : ∀ stanza ∈ stanzas, Plain stanza) :
    ∀ line ∈ versionLine :: stanzas.flatMap stanzaLines, ∀ char ∈ line, IsLineChar char := by
  intro line member
  rcases List.mem_cons.mp member with rfl | later
  · exact List.all_iff_forall_prop.mp (by decide)
  · obtain ⟨stanza, listed, written⟩ := List.mem_flatMap.mp later
    rw [(plain stanza listed).stanzaLines_eq, List.mem_pair] at written
    rcases written with rfl | rfl
    · exact joined_inLine (plain stanza listed).argument_solid
    · intro char symbol
      exact (text64_solid stanza.body char symbol).inLine

theorem coveredHeader_eq {stanzas : List Stanza} (plain : ∀ stanza ∈ stanzas, Plain stanza) :
    coveredHeader stanzas =
      lineBytes versionLine ++ (stanzas.flatMap stanzaBytes ++ Bytes.ofChars closing) := by
  have narrow : ∀ char ∈ (versionLine :: stanzas.flatMap stanzaLines).flatMap
      (fun line => line ++ ['\n']) ++ closing, char.toNat < 128 := by
    intro char member
    rcases List.mem_append.mp member with inLines | ending
    · obtain ⟨line, listed, inLine⟩ := List.mem_flatMap.mp inLines
      rcases List.mem_append.mp inLine with own | newLine
      · exact Nat.lt_trans (header_inLine plain line listed char own).2 (by decide)
      · rw [List.mem_singleton.mp newLine]
        decide
    · exact Nat.lt_trans (mac_solid [] closing List.mem_cons_self char ending).2 (by decide)
  have bodies : (stanzas.flatMap stanzaLines).flatMap lineBytes = stanzas.flatMap stanzaBytes := by
    rw [List.flatMap_assoc]
    apply List.flatMap_congr
    intro stanza member
    rw [(plain stanza member).stanzaLines_eq]
    simp [stanzaBytes]
  have split : ∀ left right, Bytes.ofChars (left ++ right) = Bytes.ofChars left ++ Bytes.ofChars right :=
    fun _ _ => List.map_append
  rw [coveredHeader, Bytes.ofText_ofList narrow, split, ofChars_lines, List.flatMap_cons, bodies,
    List.append_assoc]

theorem encode_eq {file : AgeFile} (plain : ∀ stanza ∈ file.stanzas, Plain stanza) :
    file.encode = lineBytes versionLine ++
      (file.stanzas.flatMap stanzaBytes ++ (lineBytes (macLine file.mac) ++ file.payload)) := by
  have narrow : ∀ char ∈ ' ' :: text64 file.mac ++ ['\n'], char.toNat < 128 := by
    intro char member
    rcases List.mem_append.mp member with opening | newLine
    · rcases List.mem_cons.mp opening with rfl | symbol
      · decide
      · exact Nat.lt_trans (text64_solid file.mac char symbol).2 (by decide)
    · rw [List.mem_singleton.mp newLine]
      decide
  rw [encode, coveredHeader_eq plain, Bytes.ofText_ofList narrow]
  simp [macLine, lineBytes, Bytes.ofChars]

theorem decode?_encode {file : AgeFile} (plain : ∀ stanza ∈ file.stanzas, Plain stanza) :
    decode? file.encode = some file := by
  have inLine : ∀ char ∈ versionLine, IsLineChar char :=
    List.all_iff_forall_prop.mp (by decide)
  have count := Bytes.length_le_flatMap stanzaBytes_ne_nil file.stanzas
  have enough : file.stanzas.length < file.encode.length + 1 := by
    rw [encode_eq plain, List.length_append, List.length_append]
    omega
  have read := readStanzas?_written plain file.mac file.payload enough
  rw [encode_eq plain] at read ⊢
  rw [decode?, readLine?_lineBytes inLine]
  simp only [Option.bind_eq_bind, Option.bind_some, read]
  rfl

/-- The recipient of an identity finds the secret that the identity finds. -/
def Agree (identity recipient secret : Bytes) : Prop :=
  recipient = Curve.X25519.publicKey identity ∧
    Curve.X25519.multiply identity (Curve.X25519.publicKey secret) =
      Curve.X25519.multiply secret recipient

theorem length_wrapFor (recipient : Bytes) {entropy : SealEntropy}
    (fileKey : entropy.fileKey.length = 16) : (wrapFor recipient entropy).body.length = 32 := by
  rw [wrapFor, Authenticated.length_encrypt, fileKey]
  rfl

theorem unwrap?_wrapFor {identity recipient : Bytes} {entropy : SealEntropy}
    (agree : Agree identity recipient entropy.secret) (fileKey : entropy.fileKey.length = 16) :
    unwrap? identity (wrapFor recipient entropy) = some entropy.fileKey := by
  obtain ⟨own, shared⟩ := agree
  have share : (Curve.X25519.publicKey entropy.secret).length = 32 := Bytes.length_ofNatLittle 32 _
  have body := length_wrapFor recipient fileKey
  rw [wrapFor] at body
  dsimp only at body
  rw [unwrap?, wrapFor]
  dsimp only
  rw [if_neg (not_not_intro rfl), decodeSymbols?_text64]
  simp only [Option.bind_eq_bind, Option.bind_some]
  rw [if_neg (by simp only [share, body]; decide), shared, ← own, Authenticated.decrypt?_encrypt]

theorem stanzas_sealFor (recipient : Bytes) (entropy : SealEntropy) (content : Bytes) :
    (sealFor recipient entropy content).stanzas = [wrapFor recipient entropy] := rfl

theorem findSome?_sealFor {identity recipient : Bytes} {entropy : SealEntropy}
    (agree : Agree identity recipient entropy.secret) (fileKey : entropy.fileKey.length = 16)
    (content : Bytes) :
    (sealFor recipient entropy content).stanzas.findSome? (unwrap? identity) =
      some entropy.fileKey := by
  rw [stanzas_sealFor, List.findSome?_cons, unwrap?_wrapFor agree fileKey]

theorem wrapFor_plain (recipient : Bytes) {entropy : SealEntropy}
    (fileKey : entropy.fileKey.length = 16) : Plain (wrapFor recipient entropy) := by
  obtain ⟨fill, few, symbols⟩ :=
    Encoding.Base64.length_body (Curve.X25519.publicKey entropy.secret)
  obtain ⟨bodyFill, bodyFew, bodySymbols⟩ :=
    Encoding.Base64.length_body (wrapFor recipient entropy).body
  have share : (Curve.X25519.publicKey entropy.secret).length = 32 := Bytes.length_ofNatLittle 32 _
  rw [length_wrapFor recipient fileKey] at bodySymbols
  refine ⟨?_, ?_, ?_⟩
  · intro word member
    simp only [wrapFor, List.mem_cons, List.not_mem_nil, or_false] at member
    rcases member with rfl | rfl
    · decide
    · intro empty
      have none : (Encoding.Base64.body (Curve.X25519.publicKey entropy.secret)).length = 0 :=
        congrArg List.length empty
      omega
  · intro word member
    simp only [wrapFor, List.mem_cons, List.not_mem_nil, or_false] at member
    rcases member with rfl | rfl
    · exact List.all_iff_forall_prop.mp (by decide)
    · exact text64_solid _
  · change (Encoding.Base64.body (wrapFor recipient entropy).body).length < 64
    omega

theorem encryptPieces_single (key content : Bytes) (fits : content.length ≤ pieceSize) :
    encryptPieces key 0 (Bytes.pieces pieceSize content) =
      Authenticated.encrypt key (pieceNonce 0 true) content := by
  by_cases empty : content = []
  · rw [empty, Bytes.pieces, Bytes.foldPieces_short _ _ (by decide)]
    rfl
  · rw [Bytes.pieces_single empty fits]
    rfl

/-- A file whose header has the right hash under the key that was found. -/
theorem openWith?_of_found {identity fileKey : Bytes} {file : AgeFile}
    (found : file.stanzas.findSome? (unwrap? identity) = some fileKey)
    (mac : headerMac fileKey file.stanzas = file.mac) (long : 16 ≤ file.payload.length) :
    openWith? identity file = decryptPieces? (payloadKey fileKey (file.payload.take 16)) 0
      (Bytes.pieces (pieceSize + Authenticated.tagLength) (file.payload.drop 16)) := by
  rw [openWith?, found]
  simp only [Option.bind_eq_bind, Option.bind_some]
  rw [if_neg]
  rintro (changed | short)
  · exact changed mac
  · omega

/-- A single piece is the last one, so it may be empty. -/
theorem decryptPieces?_single (key content : Bytes) :
    decryptPieces? key 0 [Authenticated.encrypt key (pieceNonce 0 true) content] = some content := by
  rw [decryptPieces?, Authenticated.decrypt?_encrypt]
  simp only [Option.bind_eq_bind, Option.bind_some]
  rw [if_neg (by simp)]

theorem openWith?_sealFor {identity recipient content : Bytes} {entropy : SealEntropy}
    (agree : Agree identity recipient entropy.secret) (fileKey : entropy.fileKey.length = 16)
    (nonce : entropy.nonce.length = 16) (fits : content.length ≤ pieceSize) :
    openWith? identity (sealFor recipient entropy content) = some content := by
  let key := payloadKey entropy.fileKey entropy.nonce
  let sealed := Authenticated.encrypt key (pieceNonce 0 true) content
  have sealed_length : sealed.length = content.length + Authenticated.tagLength :=
    Authenticated.length_encrypt _ _ _
  have positive : 0 < Authenticated.tagLength := by decide
  have present : sealed ≠ [] := by
    rw [← List.length_pos_iff]
    omega
  have single : Bytes.pieces (pieceSize + Authenticated.tagLength) sealed = [sealed] :=
    Bytes.pieces_single present (by omega)
  have payload : (sealFor recipient entropy content).payload = entropy.nonce ++ sealed := by
    rw [sealFor, encryptPieces_single _ _ fits]
  have first : (entropy.nonce ++ sealed).take 16 = entropy.nonce := by
    rw [← nonce, List.take_left]
  have others : (entropy.nonce ++ sealed).drop 16 = sealed := by
    rw [← nonce, List.drop_left]
  have long : 16 ≤ (sealFor recipient entropy content).payload.length := by
    rw [payload, List.length_append]
    omega
  rw [openWith?_of_found (findSome?_sealFor agree fileKey content) rfl long, payload, first, others,
    single]
  exact decryptPieces?_single key content

theorem sealFor_plain (recipient : Bytes) {entropy : SealEntropy}
    (fileKey : entropy.fileKey.length = 16) (content : Bytes) :
    ∀ stanza ∈ (sealFor recipient entropy content).stanzas, Plain stanza := by
  intro stanza member
  rw [stanzas_sealFor, List.mem_singleton] at member
  rw [member]
  exact wrapFor_plain recipient fileKey

/-- Content of one piece, sealed for the recipient of an identity, opens with the identity. -/
theorem age_opens {identity recipient content : Bytes} {entropy : SealEntropy}
    (agree : Agree identity recipient entropy.secret) (fileKey : entropy.fileKey.length = 16)
    (nonce : entropy.nonce.length = 16) (fits : content.length ≤ pieceSize) :
    age.openWith? identity (age.sealFor recipient entropy content) = some content := by
  unfold age
  dsimp only
  rw [decode?_encode (sealFor_plain recipient fileKey content), Option.bind_some,
    openWith?_sealFor agree fileKey nonce fits]

theorem age_ne_nil (recipient : Bytes) {entropy : SealEntropy}
    (fileKey : entropy.fileKey.length = 16) (content : Bytes) :
    age.sealFor recipient entropy content ≠ [] := by
  intro empty
  have read := decode?_encode (sealFor_plain recipient fileKey content)
  change (sealFor recipient entropy content).encode = [] at empty
  rw [empty] at read
  cases read

theorem length_age (recipient : Bytes) {entropy : SealEntropy}
    (fileKey : entropy.fileKey.length = 16) (nonce : entropy.nonce.length = 16) {content : Bytes}
    (fits : content.length ≤ pieceSize) :
    (age.sealFor recipient entropy content).length ≤ 300 + content.length := by
  have share : (Curve.X25519.publicKey entropy.secret).length = 32 := Bytes.length_ofNatLittle 32 _
  have shareText := length_text64_le (Curve.X25519.publicKey entropy.secret)
  have bodyText := length_text64_le (wrapFor recipient entropy).body
  rw [length_wrapFor recipient fileKey] at bodyText
  have mac : (sealFor recipient entropy content).mac.length = 32 := Hash.length_hmacSha256 _ _
  have macText := length_text64_le (sealFor recipient entropy content).mac
  have payload : (sealFor recipient entropy content).payload.length = 32 + content.length := by
    rw [sealFor, encryptPieces_single _ _ fits, List.length_append, Authenticated.length_encrypt,
      nonce]
    change 16 + (content.length + 16) = _
    omega
  have words : (argumentLine (wrapFor recipient entropy)).length =
      10 + (text64 (Curve.X25519.publicKey entropy.secret)).length := by
    have kind : kindX25519.length = 6 := rfl
    have arrow : "->".toList.length = 2 := rfl
    simp only [argumentLine, wrapFor, List.length_append, List.flatMap_cons,
      List.flatMap_nil, List.length_cons, List.length_nil, kind, arrow]
    omega
  change (sealFor recipient entropy content).encode.length ≤ _
  rw [encode_eq (sealFor_plain recipient fileKey content), stanzas_sealFor]
  simp only [List.flatMap_cons, List.flatMap_nil, stanzaBytes, List.length_append,
    length_lineBytes, List.length_nil, List.length_cons, words, payload, macLine]
  have version : versionLine.length ≤ 30 := by decide
  have ending : closing.length = 3 := rfl
  omega

end Sealing.AgeFile

end SealedContent
