import SealedContent.Cipher.Block

/-!
AES with a 256-bit key, as a composition of block permutations. Each layer is given with its
inverse, so decryption inverts encryption by construction.
-/

namespace SealedContent.Cipher.Aes

def substitutes : Array UInt8 := #[
    0x63, 0x7c, 0x77, 0x7b, 0xf2, 0x6b, 0x6f, 0xc5, 0x30, 0x01, 0x67, 0x2b, 0xfe, 0xd7, 0xab, 0x76,
    0xca, 0x82, 0xc9, 0x7d, 0xfa, 0x59, 0x47, 0xf0, 0xad, 0xd4, 0xa2, 0xaf, 0x9c, 0xa4, 0x72, 0xc0,
    0xb7, 0xfd, 0x93, 0x26, 0x36, 0x3f, 0xf7, 0xcc, 0x34, 0xa5, 0xe5, 0xf1, 0x71, 0xd8, 0x31, 0x15,
    0x04, 0xc7, 0x23, 0xc3, 0x18, 0x96, 0x05, 0x9a, 0x07, 0x12, 0x80, 0xe2, 0xeb, 0x27, 0xb2, 0x75,
    0x09, 0x83, 0x2c, 0x1a, 0x1b, 0x6e, 0x5a, 0xa0, 0x52, 0x3b, 0xd6, 0xb3, 0x29, 0xe3, 0x2f, 0x84,
    0x53, 0xd1, 0x00, 0xed, 0x20, 0xfc, 0xb1, 0x5b, 0x6a, 0xcb, 0xbe, 0x39, 0x4a, 0x4c, 0x58, 0xcf,
    0xd0, 0xef, 0xaa, 0xfb, 0x43, 0x4d, 0x33, 0x85, 0x45, 0xf9, 0x02, 0x7f, 0x50, 0x3c, 0x9f, 0xa8,
    0x51, 0xa3, 0x40, 0x8f, 0x92, 0x9d, 0x38, 0xf5, 0xbc, 0xb6, 0xda, 0x21, 0x10, 0xff, 0xf3, 0xd2,
    0xcd, 0x0c, 0x13, 0xec, 0x5f, 0x97, 0x44, 0x17, 0xc4, 0xa7, 0x7e, 0x3d, 0x64, 0x5d, 0x19, 0x73,
    0x60, 0x81, 0x4f, 0xdc, 0x22, 0x2a, 0x90, 0x88, 0x46, 0xee, 0xb8, 0x14, 0xde, 0x5e, 0x0b, 0xdb,
    0xe0, 0x32, 0x3a, 0x0a, 0x49, 0x06, 0x24, 0x5c, 0xc2, 0xd3, 0xac, 0x62, 0x91, 0x95, 0xe4, 0x79,
    0xe7, 0xc8, 0x37, 0x6d, 0x8d, 0xd5, 0x4e, 0xa9, 0x6c, 0x56, 0xf4, 0xea, 0x65, 0x7a, 0xae, 0x08,
    0xba, 0x78, 0x25, 0x2e, 0x1c, 0xa6, 0xb4, 0xc6, 0xe8, 0xdd, 0x74, 0x1f, 0x4b, 0xbd, 0x8b, 0x8a,
    0x70, 0x3e, 0xb5, 0x66, 0x48, 0x03, 0xf6, 0x0e, 0x61, 0x35, 0x57, 0xb9, 0x86, 0xc1, 0x1d, 0x9e,
    0xe1, 0xf8, 0x98, 0x11, 0x69, 0xd9, 0x8e, 0x94, 0x9b, 0x1e, 0x87, 0xe9, 0xce, 0x55, 0x28, 0xdf,
    0x8c, 0xa1, 0x89, 0x0d, 0xbf, 0xe6, 0x42, 0x68, 0x41, 0x99, 0x2d, 0x0f, 0xb0, 0x54, 0xbb, 0x16]

def inverseSubstitutes : Array UInt8 := #[
    0x52, 0x09, 0x6a, 0xd5, 0x30, 0x36, 0xa5, 0x38, 0xbf, 0x40, 0xa3, 0x9e, 0x81, 0xf3, 0xd7, 0xfb,
    0x7c, 0xe3, 0x39, 0x82, 0x9b, 0x2f, 0xff, 0x87, 0x34, 0x8e, 0x43, 0x44, 0xc4, 0xde, 0xe9, 0xcb,
    0x54, 0x7b, 0x94, 0x32, 0xa6, 0xc2, 0x23, 0x3d, 0xee, 0x4c, 0x95, 0x0b, 0x42, 0xfa, 0xc3, 0x4e,
    0x08, 0x2e, 0xa1, 0x66, 0x28, 0xd9, 0x24, 0xb2, 0x76, 0x5b, 0xa2, 0x49, 0x6d, 0x8b, 0xd1, 0x25,
    0x72, 0xf8, 0xf6, 0x64, 0x86, 0x68, 0x98, 0x16, 0xd4, 0xa4, 0x5c, 0xcc, 0x5d, 0x65, 0xb6, 0x92,
    0x6c, 0x70, 0x48, 0x50, 0xfd, 0xed, 0xb9, 0xda, 0x5e, 0x15, 0x46, 0x57, 0xa7, 0x8d, 0x9d, 0x84,
    0x90, 0xd8, 0xab, 0x00, 0x8c, 0xbc, 0xd3, 0x0a, 0xf7, 0xe4, 0x58, 0x05, 0xb8, 0xb3, 0x45, 0x06,
    0xd0, 0x2c, 0x1e, 0x8f, 0xca, 0x3f, 0x0f, 0x02, 0xc1, 0xaf, 0xbd, 0x03, 0x01, 0x13, 0x8a, 0x6b,
    0x3a, 0x91, 0x11, 0x41, 0x4f, 0x67, 0xdc, 0xea, 0x97, 0xf2, 0xcf, 0xce, 0xf0, 0xb4, 0xe6, 0x73,
    0x96, 0xac, 0x74, 0x22, 0xe7, 0xad, 0x35, 0x85, 0xe2, 0xf9, 0x37, 0xe8, 0x1c, 0x75, 0xdf, 0x6e,
    0x47, 0xf1, 0x1a, 0x71, 0x1d, 0x29, 0xc5, 0x89, 0x6f, 0xb7, 0x62, 0x0e, 0xaa, 0x18, 0xbe, 0x1b,
    0xfc, 0x56, 0x3e, 0x4b, 0xc6, 0xd2, 0x79, 0x20, 0x9a, 0xdb, 0xc0, 0xfe, 0x78, 0xcd, 0x5a, 0xf4,
    0x1f, 0xdd, 0xa8, 0x33, 0x88, 0x07, 0xc7, 0x31, 0xb1, 0x12, 0x10, 0x59, 0x27, 0x80, 0xec, 0x5f,
    0x60, 0x51, 0x7f, 0xa9, 0x19, 0xb5, 0x4a, 0x0d, 0x2d, 0xe5, 0x7a, 0x9f, 0x93, 0xc9, 0x9c, 0xef,
    0xa0, 0xe0, 0x3b, 0x4d, 0xae, 0x2a, 0xf5, 0xb0, 0xc8, 0xeb, 0xbb, 0x3c, 0x83, 0x53, 0x99, 0x61,
    0x17, 0x2b, 0x04, 0x7e, 0xba, 0x77, 0xd6, 0x26, 0xe1, 0x69, 0x14, 0x63, 0x55, 0x21, 0x0c, 0x7d]

def substitute (byte : UInt8) : UInt8 :=
  substitutes.getD byte.toNat 0

def unsubstitute (byte : UInt8) : UInt8 :=
  inverseSubstitutes.getD byte.toNat 0

/-- A table undoes another one if it takes the entries of that one back to their places. -/
theorem getD_undone {table inverse : Array UInt8}
    (undone : table.toList.map (fun entry => (inverse.toList.getD entry.toNat 0).toNat) =
      List.range 256) (byte : UInt8) :
    inverse.getD (table.getD byte.toNat 0).toNat 0 = byte := by
  have place := congrArg (fun values : List Nat => values[byte.toNat]?) undone
  simp only [List.getElem?_map, List.getElem?_range byte.toNat_lt] at place
  obtain ⟨entry, found, back⟩ := Option.map_eq_some_iff.mp place
  have read : table.getD byte.toNat 0 = entry := by
    rw [Array.getD_eq_getD_getElem?, ← Array.getElem?_toList, found, Option.getD_some]
  apply UInt8.toNat_inj.mp
  rw [read, ← back, Array.getD_eq_getD_getElem?, ← Array.getElem?_toList,
    List.getD_eq_getElem?_getD]

theorem substitutes_undone : substitutes.toList.map
    (fun entry => (inverseSubstitutes.toList.getD entry.toNat 0).toNat) = List.range 256 := by
  decide +kernel

theorem inverseSubstitutes_undone : inverseSubstitutes.toList.map
    (fun entry => (substitutes.toList.getD entry.toNat 0).toNat) = List.range 256 := by
  decide +kernel

theorem unsubstitute_substitute (byte : UInt8) : unsubstitute (substitute byte) = byte :=
  getD_undone substitutes_undone byte

theorem substitute_unsubstitute (byte : UInt8) : substitute (unsubstitute byte) = byte :=
  getD_undone inverseSubstitutes_undone byte

def subBytes : BlockPermutation where
  encrypt block := block.map substitute
  decrypt block := block.map unsubstitute
  decrypt_encrypt block := by
    ext index bound
    simp [unsubstitute_substitute]
  encrypt_decrypt block := by
    ext index bound
    simp [substitute_unsubstitute]

/-- Bytes lie in columns of four, and row `r` moves `r` columns to the left. -/
def shiftRows : BlockPermutation where
  encrypt block := Vector.ofFn fun index : Fin 16 =>
    block[(index.val + 4 * (index.val % 4)) % 16]
  decrypt block := Vector.ofFn fun index : Fin 16 =>
    block[(index.val + 12 * (index.val % 4)) % 16]
  decrypt_encrypt block := by
    ext index bound
    have inside : ((index + 12 * (index % 4)) % 16 +
        4 * ((index + 12 * (index % 4)) % 16 % 4)) % 16 = index := by
      have : index < 16 := bound
      omega
    simp only [Vector.getElem_ofFn, inside]
  encrypt_decrypt block := by
    ext index bound
    have inside : ((index + 4 * (index % 4)) % 16 +
        12 * ((index + 4 * (index % 4)) % 16 % 4)) % 16 = index := by
      have : index < 16 := bound
      omega
    simp only [Vector.getElem_ofFn, inside]

/-- Doubling in the field of 256 elements with reduction polynomial 0x11b. -/
def double (byte : UInt8) : UInt8 :=
  (byte <<< 1) ^^^ (if byte.toBitVec.msb then 0x1b else 0)

private theorem xor_left_comm (first second third : UInt8) :
    first ^^^ (second ^^^ third) = second ^^^ (first ^^^ third) := by
  rw [← UInt8.xor_assoc, UInt8.xor_comm first second, UInt8.xor_assoc]

private theorem xor_cancel_left (left right : UInt8) : left ^^^ (left ^^^ right) = right := by
  rw [← UInt8.xor_assoc, UInt8.xor_self, UInt8.zero_xor]

theorem double_xor (left right : UInt8) :
    double (left ^^^ right) = double left ^^^ double right := by
  have shifted : (left ^^^ right) <<< 1 = (left <<< 1) ^^^ (right <<< 1) := by
    apply UInt8.toBitVec_inj.1
    simp [BitVec.shiftLeft_xor_distrib]
  unfold double
  rw [shifted, UInt8.toBitVec_xor, BitVec.msb_xor]
  cases left.toBitVec.msb <;> cases right.toBitVec.msb <;>
    simp [UInt8.xor_assoc, UInt8.xor_comm, xor_left_comm]

/-- One output byte of a column: twice the first, three times the second, and the others. -/
def mix (a b c d : UInt8) : UInt8 :=
  double a ^^^ (double b ^^^ b) ^^^ c ^^^ d

/-- Mixing twice adds four times the sum of a byte and its opposite in the column. -/
def adjust (a c : UInt8) : UInt8 :=
  a ^^^ double (double (a ^^^ c))

theorem mix_mix (a b c d : UInt8) :
    mix (mix a b c d) (mix b c d a) (mix c d a b) (mix d a b c) = adjust a c := by
  simp only [mix, adjust, double_xor, UInt8.xor_assoc, UInt8.xor_comm, xor_left_comm,
    xor_cancel_left]

theorem adjust_adjust (a c : UInt8) : adjust (adjust a c) (adjust c a) = a := by
  have sum : adjust a c ^^^ adjust c a = a ^^^ c := by
    simp [adjust, double_xor, UInt8.xor_comm, xor_left_comm]
  rw [adjust, sum, adjust, UInt8.xor_assoc, UInt8.xor_self, UInt8.xor_zero]

def mapColumns (combine : UInt8 → UInt8 → UInt8 → UInt8 → UInt8) (block : Block) : Block :=
  Vector.ofFn fun index : Fin 16 =>
    let nth (offset : Nat) : UInt8 :=
      block[(index.val / 4 * 4 + (index.val + offset) % 4) % 16]
    combine (nth 0) (nth 1) (nth 2) (nth 3)

theorem mapColumns_mapColumns (outer inner : UInt8 → UInt8 → UInt8 → UInt8 → UInt8)
    (block : Block) :
    mapColumns outer (mapColumns inner block) =
      mapColumns (fun a b c d =>
        outer (inner a b c d) (inner b c d a) (inner c d a b) (inner d a b c)) block := by
  ext index bound
  have step : ∀ offset next,
      ((index / 4 * 4 + (index + offset) % 4) % 16 / 4 * 4 +
        ((index / 4 * 4 + (index + offset) % 4) % 16 + next) % 4) % 16 =
      (index / 4 * 4 + (index + (offset + next) % 4) % 4) % 16 := by omega
  simp only [mapColumns, Vector.getElem_ofFn, step, Nat.reduceAdd, Nat.reduceMod]

theorem mapColumns_first (block : Block) : mapColumns (fun a _ _ _ => a) block = block := by
  ext index bound
  have small : index < 16 := bound
  have self : (index / 4 * 4 + (index + 0) % 4) % 16 = index := by omega
  simp only [mapColumns, Vector.getElem_ofFn, self]

theorem mix_twice (block : Block) :
    mapColumns mix (mapColumns mix block) = mapColumns (fun a _ c _ => adjust a c) block := by
  simp only [mapColumns_mapColumns, mix_mix]

theorem adjust_twice (block : Block) :
    mapColumns (fun a _ c _ => adjust a c) (mapColumns (fun a _ c _ => adjust a c) block) =
      block := by
  simp only [mapColumns_mapColumns, adjust_adjust, mapColumns_first]

/-- Mixing four times gives the block back, so three mixings undo one. -/
def mixColumns : BlockPermutation where
  encrypt := mapColumns mix
  decrypt block := mapColumns mix (mapColumns (fun a _ c _ => adjust a c) block)
  decrypt_encrypt block := by
    rw [← mix_twice (mapColumns mix block), mix_twice, mix_twice, adjust_twice]
  encrypt_decrypt block := by
    rw [mix_twice, adjust_twice]

abbrev Word := Vector UInt8 4

def Word.xor (left right : Word) : Word :=
  Vector.zipWith (fun byte other => byte ^^^ other) left right

/-- The key's own eight words, then each word from the one before and the one eight before. -/
def expand (key : Vector UInt8 32) : Array Word :=
  let own : Array Word := Array.ofFn fun index : Fin 8 =>
    Vector.ofFn fun offset : Fin 4 => key[4 * index.val + offset.val]
  let zero : Word := Vector.replicate 4 0
  ((List.range 52).foldl (fun (words, factor) step =>
    let last := words.getD (step + 7) zero
    let mixed : Word :=
      if step % 8 = 0 then
        #v[substitute last[1] ^^^ factor, substitute last[2], substitute last[3],
          substitute last[0]]
      else if step % 8 = 4 then last.map substitute
      else last
    (words.push ((words.getD step zero).xor mixed),
      if step % 8 = 0 then double factor else factor)) (own, (1 : UInt8))).1

def roundKey (words : Array Word) (round : Nat) : Block :=
  Vector.ofFn fun index : Fin 16 =>
    (words.getD (4 * round + index.val / 4) (Vector.replicate 4 0))[index.val % 4]

def permutation (key : Vector UInt8 32) : BlockPermutation :=
  let words := expand key
  let whitened := BlockPermutation.addKey (roundKey words 0)
  let inner := (List.range 13).foldl (fun done round =>
    (((done.andThen subBytes).andThen shiftRows).andThen mixColumns).andThen
      (BlockPermutation.addKey (roundKey words (round + 1)))) whitened
  ((inner.andThen subBytes).andThen shiftRows).andThen
    (BlockPermutation.addKey (roundKey words 14))

end SealedContent.Cipher.Aes
