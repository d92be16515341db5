import Mathlib.Algebra.Order.Ring.Nat
import Mathlib.Data.List.Induction
import SealedContent.Encoding.BitGroups
import SealedContent.Proofs.Text.Split

/-!
Bytes read back from the symbols that their bits are written in, whatever the number of bits in a
symbol: the bits that fill the last symbol are too few for one symbol more, and all of them zero. In
an alphabet that reads one case only, no other symbols are read as these bytes.
-/

namespace SealedContent.Encoding

theorem length_bitsOf (width value : Nat) : (bitsOf width value).length = width := by
  induction width with
  | zero => rfl
  | succ width induction => rw [bitsOf, List.length_cons, induction]

/-- The last bit is that of the remainder by two. -/
theorem bitsOf_succ (width value : Nat) :
    bitsOf (width + 1) value = bitsOf width (value / 2) ++ [value.testBit 0] := by
  induction width with
  | zero => rfl
  | succ width induction =>
      rw [bitsOf, induction, bitsOf, Nat.testBit_succ, List.cons_append]

theorem natOfBits_append (bits : List Bool) (bit : Bool) :
    natOfBits (bits ++ [bit]) = 2 * natOfBits bits + bit.toNat := by
  rw [natOfBits, List.foldl_append]
  rfl

theorem natOfBits_lt (bits : List Bool) : natOfBits bits < 2 ^ bits.length := by
  induction bits using List.reverseRecOn with
  | nil => simp [natOfBits]
  | append_singleton bits bit induction =>
      have least := bit.toNat_le
      rw [natOfBits_append, List.length_append, List.length_singleton, Nat.pow_succ]
      omega

theorem bitsOf_natOfBits (bits : List Bool) : bitsOf bits.length (natOfBits bits) = bits := by
  induction bits using List.reverseRecOn with
  | nil => rfl
  | append_singleton bits bit induction =>
      have half : (2 * natOfBits bits + bit.toNat) / 2 = natOfBits bits := by
        have least := bit.toNat_lt
        omega
      have last : (2 * natOfBits bits + bit.toNat).testBit 0 = bit := by
        cases bit <;> simp
      rw [List.length_append, List.length_singleton, bitsOf_succ, natOfBits_append, half, last,
        induction]

theorem natOfBits_bitsOf {width value : Nat} (bounded : value < 2 ^ width) :
    natOfBits (bitsOf width value) = value := by
  induction width generalizing value with
  | zero => simp at bounded; simp [bitsOf, natOfBits, bounded]
  | succ width induction =>
      have half : value / 2 < 2 ^ width := by
        rw [Nat.pow_succ] at bounded
        omega
      have last : (value.testBit 0).toNat = value % 2 := by
        rw [Nat.testBit_zero]
        rcases Nat.mod_two_eq_zero_or_one value with even | odd
        · rw [even]; rfl
        · rw [odd]; rfl
      rw [bitsOf_succ, natOfBits_append, induction half, last, Nat.div_add_mod]

theorem length_flatMap_bitsOf (width : Nat) (values : List Nat) :
    (values.flatMap (bitsOf width)).length = width * values.length := by
  induction values with
  | nil => rfl
  | cons value values induction =>
      rw [List.flatMap_cons, List.length_append, length_bitsOf, induction, List.length_cons,
        Nat.mul_succ, Nat.add_comm]

theorem length_bytesToBits (bytes : Bytes) : (bytesToBits bytes).length = 8 * bytes.length := by
  rw [bytesToBits, ← List.flatMap_map, length_flatMap_bitsOf, List.length_map]

theorem bitsToBytes_of_short {left : List Bool} (short : left.length < 8) :
    bitsToBytes left = ([], left) := by
  rw [bitsToBytes]
  rintro b7 b6 b5 b4 b3 b2 b1 b0 rest rfl
  simp only [List.length_cons] at short
  omega

theorem bitsToBytes_bytesToBits (bytes : Bytes) {left : List Bool} (short : left.length < 8) :
    bitsToBytes (bytesToBits bytes ++ left) = (bytes, left) := by
  induction bytes with
  | nil => exact bitsToBytes_of_short short
  | cons byte bytes induction =>
      have read : natOfBits (bitsOf 8 byte.toNat) = byte.toNat :=
        natOfBits_bitsOf byte.toNat_lt
      rw [bytesToBits, List.flatMap_cons, ← bytesToBits, List.append_assoc]
      simp only [bitsOf] at read
      simp only [bitsOf, List.cons_append, List.nil_append, bitsToBytes, induction, read,
        UInt8.ofNat_toNat]

theorem bytesToBits_cons (byte : UInt8) (bytes : Bytes) :
    bytesToBits (byte :: bytes) = bitsOf 8 byte.toNat ++ bytesToBits bytes :=
  List.flatMap_cons

theorem bitsToBytes_append (bits : List Bool) :
    bytesToBits (bitsToBytes bits).1 ++ (bitsToBytes bits).2 = bits ∧
      (bitsToBytes bits).2.length < 8 := by
  induction bits using bitsToBytes.induct with
  | case1 b7 b6 b5 b4 b3 b2 b1 b0 rest bytes left cut induction =>
      have octet := bitsOf_natOfBits [b7, b6, b5, b4, b3, b2, b1, b0]
      have bounded := natOfBits_lt [b7, b6, b5, b4, b3, b2, b1, b0]
      rw [cut] at induction
      have kept : (UInt8.ofNat (natOfBits [b7, b6, b5, b4, b3, b2, b1, b0])).toNat =
          natOfBits [b7, b6, b5, b4, b3, b2, b1, b0] :=
        Nat.mod_eq_of_lt bounded
      simp only [bitsToBytes, cut, bytesToBits_cons, kept]
      constructor
      · rw [List.append_assoc, induction.1]
        exact congrArg (· ++ rest) octet
      · exact induction.2
  | case2 left short =>
      have few : left.length < 8 := by
        match left, short with
        | [], _ | [_], _ | [_, _], _ | [_, _, _], _ | [_, _, _, _], _ | [_, _, _, _, _], _
        | [_, _, _, _, _, _], _ | [_, _, _, _, _, _, _], _ => simp
        | _ :: _ :: _ :: _ :: _ :: _ :: _ :: _ :: _, long => exact absurd rfl (long _ _ _ _ _ _ _ _ _)
      rw [bitsToBytes_of_short few]
      exact ⟨rfl, few⟩

theorem length_filled {width : Nat} (bits : List Bool) :
    (bits.take width ++ List.replicate (width - (bits.take width).length) false).length = width := by
  rw [List.length_append, List.length_replicate]
  have short := List.length_take_le width bits
  omega

/-- The groups hold the bits and, in the end, fewer zeros than a group has bits. -/
theorem flatMap_bitGroups {width : Nat} (positive : 0 < width) (bits : List Bool) :
    ∃ fill < width, (bitGroups width bits).flatMap (bitsOf width) =
      bits ++ List.replicate fill false := by
  induction bits using bitGroups.induct width with
  | case1 bits base =>
      obtain rfl : bits = [] := base.resolve_right (by omega)
      exact ⟨0, positive, by simp [bitGroups]⟩
  | case2 bits proper induction =>
      obtain ⟨present, -⟩ := not_or.mp proper
      have group := bitsOf_natOfBits
        (bits.take width ++ List.replicate (width - (bits.take width).length) false)
      rw [length_filled] at group
      rw [bitGroups, if_neg proper]
      dsimp only
      rw [List.flatMap_cons, group]
      by_cases whole : width ≤ bits.length
      · obtain ⟨fill, few, rest⟩ := induction
        refine ⟨fill, few, ?_⟩
        rw [rest, List.length_take_of_le whole, Nat.sub_self, List.replicate_zero, List.append_nil,
          ← List.append_assoc, List.take_append_drop]
      · have positive_length := List.length_pos_iff.mpr present
        refine ⟨width - bits.length, by omega, ?_⟩
        rw [List.take_of_length_le (by omega), List.drop_of_length_le (by omega), bitGroups]
        simp

theorem lt_of_mem_bitGroups {width : Nat} {bits : List Bool} :
    ∀ value ∈ bitGroups width bits, value < 2 ^ width := by
  induction bits using bitGroups.induct width with
  | case1 bits base =>
      intro value member
      rw [bitGroups, if_pos base] at member
      cases member
  | case2 bits proper induction =>
      intro value member
      rw [bitGroups, if_neg proper] at member
      rcases List.mem_cons.mp member with rfl | later
      · have bounded := natOfBits_lt
          (bits.take width ++ List.replicate (width - (bits.take width).length) false)
        rwa [length_filled] at bounded
      · exact induction value later

theorem length_bitGroups {width : Nat} (positive : 0 < width) (bytes : Bytes) :
    ∃ fill < width, width * (bitGroups width (bytesToBits bytes)).length = 8 * bytes.length + fill := by
  obtain ⟨fill, few, bits⟩ := flatMap_bitGroups positive (bytesToBits bytes)
  have count := congrArg List.length bits
  rw [length_flatMap_bitsOf, List.length_append, length_bytesToBits, List.length_replicate] at count
  exact ⟨fill, few, count⟩

/-- Numbers of one symbol each come back from their bits, if what fills the last symbol is zero. -/
theorem bitGroups_flatMap {width fill : Nat} {bits : List Bool} {values : List Nat}
    (fit : ∀ value ∈ values, value < 2 ^ width) (few : fill < width)
    (written : values.flatMap (bitsOf width) = bits ++ List.replicate fill false) :
    bitGroups width bits = values := by
  induction values generalizing bits with
  | nil =>
      have none : bits = [] := (List.append_eq_nil_iff.mp written.symm).1
      rw [none, bitGroups, if_pos (.inl rfl)]
  | cons value values induction =>
      obtain ⟨first_fits, rest_fit⟩ := List.forall_mem_cons.mp fit
      have first_length := length_bitsOf width value
      have rest_length := length_flatMap_bitsOf width values
      have total := congrArg List.length written
      rw [List.flatMap_cons, List.length_append, List.length_append, List.length_replicate,
        first_length, rest_length] at total
      have proper : ¬ (bits = [] ∨ width = 0) := by
        rintro (rfl | rfl)
        · rw [List.length_nil] at total
          omega
        · omega
      rw [List.flatMap_cons] at written
      rw [bitGroups, if_neg proper]
      dsimp only
      by_cases whole : width ≤ bits.length
      · have front := congrArg (List.take width) written
        have back := congrArg (List.drop width) written
        rw [List.take_left' first_length, List.take_append_of_le_length whole] at front
        rw [List.drop_left' first_length, List.drop_append_of_le_length whole] at back
        rw [List.length_take_of_le whole, Nat.sub_self, List.replicate_zero, List.append_nil,
          ← front, natOfBits_bitsOf first_fits, induction rest_fit back]
      · -- The bits end inside the symbol, so nothing but filling can follow it.
        obtain rfl : values = [] := by
          apply List.eq_nil_of_length_eq_zero
          by_contra more
          have room : width ≤ width * values.length :=
            Nat.le_mul_of_pos_right width (Nat.pos_of_ne_zero more)
          omega
        have filled : fill = width - bits.length := by
          rw [List.length_nil] at total
          omega
        rw [List.flatMap_nil, List.append_nil] at written
        rw [List.take_of_length_le (by omega), List.drop_of_length_le (by omega), ← filled, ← written,
          natOfBits_bitsOf first_fits, bitGroups, if_pos (.inl rfl)]

namespace BitAlphabet

/-- Every number that fits into a symbol is read from its symbol, which is not the filling. -/
def Faithful (alphabet : BitAlphabet) : Prop :=
  ∀ value < 2 ^ alphabet.width, alphabet.value? (alphabet.symbol value) = some value

instance (alphabet : BitAlphabet) : Decidable alphabet.Faithful :=
  inferInstanceAs (Decidable (∀ value < 2 ^ alphabet.width, _))

theorem Faithful.mapM {alphabet : BitAlphabet} (faithful : alphabet.Faithful) {values : List Nat}
    (fit : ∀ value ∈ values, value < 2 ^ alphabet.width) :
    (values.map alphabet.symbol).mapM alphabet.value? = some values :=
  Text.mapM_written fun value member => faithful value (fit value member)

theorem Faithful.decodeSymbols?_symbols {alphabet : BitAlphabet} (faithful : alphabet.Faithful)
    (positive : 0 < alphabet.width) (narrow : alphabet.width ≤ 8) (bytes : Bytes) :
    alphabet.decodeSymbols?
      ((bitGroups alphabet.width (bytesToBits bytes)).map alphabet.symbol) = some bytes := by
  obtain ⟨fill, few, bits⟩ := flatMap_bitGroups positive (bytesToBits bytes)
  have short : (List.replicate fill false).length < 8 := by
    rw [List.length_replicate]
    omega
  have whole := bitsToBytes_bytesToBits bytes short
  rw [decodeSymbols?, faithful.mapM lt_of_mem_bitGroups]
  simp only [Option.bind_eq_bind, Option.bind_some, bits, whole]
  rw [if_pos]
  simp [few]

/-- A character that is read, in the case it is written in, is the symbol of its number. -/
theorem symbol_of_value? {alphabet : BitAlphabet} (exact_case : alphabet.foldsCase = false)
    {char : Char} {value : Nat} (read : alphabet.value? char = some value) :
    value < alphabet.symbols.length ∧ alphabet.symbol value = char := by
  have found : alphabet.symbols.findIdx? (fun symbol => symbol = char) = some value := by
    unfold value? at read
    split at read
    case h_1 index found => rwa [← Option.some.inj read]
    case h_2 => simp [exact_case] at read
  obtain ⟨present, same, -⟩ := List.findIdx?_eq_some_iff_getElem.mp found
  rw [decide_eq_true_eq] at same
  exact ⟨present, by simp [symbol, present, same]⟩

theorem value?_eq_none_iff {alphabet : BitAlphabet} (exact_case : alphabet.foldsCase = false)
    {char : Char} : alphabet.value? char = none ↔ char ∉ alphabet.symbols := by
  unfold value?
  split
  case h_1 index found =>
    obtain ⟨present, same, -⟩ := List.findIdx?_eq_some_iff_getElem.mp found
    rw [decide_eq_true_eq] at same
    simp [← same]
  case h_2 absent =>
    simp only [List.findIdx?_eq_none_iff, decide_eq_false_iff_not] at absent
    simp only [exact_case, Bool.false_eq_true, if_false, true_iff]
    exact fun member => absent char member rfl

/-- Symbols that are read as numbers are the symbols of these numbers. -/
theorem map_symbol_of_mapM {alphabet : BitAlphabet} (exact_case : alphabet.foldsCase = false)
    {symbols : List Char} {values : List Nat} (read : symbols.mapM alphabet.value? = some values) :
    values.map alphabet.symbol = symbols ∧ ∀ value ∈ values, value < alphabet.symbols.length := by
  induction symbols generalizing values with
  | nil =>
      cases read
      simp
  | cons char symbols induction =>
      simp only [List.mapM_cons, Option.bind_eq_bind, Option.bind_eq_some_iff] at read
      obtain ⟨value, first, others, later, made⟩ := read
      cases made
      obtain ⟨present, same⟩ := symbol_of_value? exact_case first
      obtain ⟨written, fit⟩ := induction later
      exact ⟨by rw [List.map_cons, same, written], List.forall_mem_cons.mpr ⟨present, fit⟩⟩

theorem exists_foreign_of_mapM {alphabet : BitAlphabet} (exact_case : alphabet.foldsCase = false)
    {symbols : List Char} (refused : symbols.mapM alphabet.value? = none) :
    ∃ char ∈ symbols, char ∉ alphabet.symbols := by
  induction symbols with
  | nil => cases refused
  | cons char symbols induction =>
      cases first : alphabet.value? char with
      | none => exact ⟨char, List.mem_cons_self, (value?_eq_none_iff exact_case).mp first⟩
      | some value =>
          cases later : symbols.mapM alphabet.value? with
          | none =>
              obtain ⟨other, member, foreign⟩ := induction later
              exact ⟨other, List.mem_cons_of_mem _ member, foreign⟩
          | some values => simp [List.mapM_cons, first, later] at refused

/-- An alphabet that reads one case only and has a symbol for every number of its width. -/
structure Strict (alphabet : BitAlphabet) : Prop where
  exact_case : alphabet.foldsCase = false
  full : alphabet.symbols.length = 2 ^ alphabet.width

/-- The symbols stand for numbers whose bits are those of the bytes and less than a symbol of zeros. -/
theorem decodeSymbols?_eq_some_iff {alphabet : BitAlphabet} {symbols : List Char} {bytes : Bytes} :
    alphabet.decodeSymbols? symbols = some bytes ↔
      ∃ values, symbols.mapM alphabet.value? = some values ∧ ∃ fill < alphabet.width,
        bitsToBytes (values.flatMap (bitsOf alphabet.width)) =
          (bytes, List.replicate fill false) := by
  simp only [decodeSymbols?, Option.bind_eq_bind, Option.bind_eq_some_iff]
  refine exists_congr fun values => and_congr_right fun _ => ?_
  obtain ⟨found, left⟩ := bitsToBytes (values.flatMap (bitsOf alphabet.width))
  simp only [List.all_eq_true, Bool.not_eq_true', Prod.mk.injEq]
  constructor
  · intro read
    split at read
    case isTrue ended =>
      cases read
      exact ⟨left.length, ended.1, rfl, List.eq_replicate_iff.mpr ⟨rfl, ended.2⟩⟩
    case isFalse => cases read
  · rintro ⟨fill, few, rfl, rfl⟩
    rw [if_pos]
    exact ⟨by rwa [List.length_replicate], fun bit member => List.eq_of_mem_replicate member⟩

/-- The symbols that are read as some bytes are those that the bytes are written in. -/
theorem Strict.symbols_of_decodeSymbols? {alphabet : BitAlphabet} (strict : alphabet.Strict)
    {symbols : List Char} {bytes : Bytes} (read : alphabet.decodeSymbols? symbols = some bytes) :
    (bitGroups alphabet.width (bytesToBits bytes)).map alphabet.symbol = symbols := by
  obtain ⟨values, numbers, fill, few, cut⟩ := decodeSymbols?_eq_some_iff.mp read
  obtain ⟨written, fit⟩ := map_symbol_of_mapM strict.exact_case numbers
  obtain ⟨bits, -⟩ := bitsToBytes_append (values.flatMap (bitsOf alphabet.width))
  rw [cut] at bits
  rw [bitGroups_flatMap (strict.full ▸ fit) few bits.symm, written]

end BitAlphabet

end SealedContent.Encoding
