import Mathlib.Data.List.Induction
import Mathlib.Tactic.Ring
import SealedContent.Bytes.Basic

/-!
Byte strings as numbers. A string of `n` bytes and a number below `256 ^ n` determine each other,
in either order of the bytes.
-/

namespace SealedContent.Bytes

theorem bigEndian_eq_littleEndian_reverse (bytes : Bytes) :
    bigEndian bytes = littleEndian bytes.reverse := by
  -- The fold is peeled from its last step, so the induction is on the reversed string.
  induction bytes using List.reverseRecOn with
  | nil => rfl
  | append_singleton bytes byte induction =>
      rw [bigEndian, List.foldl_append, ← bigEndian, induction]
      simp only [List.foldl_cons, List.foldl_nil, List.reverse_append, List.reverse_cons,
        List.reverse_nil, List.nil_append, List.singleton_append, littleEndian]
      ring

theorem littleEndian_lt (bytes : Bytes) : littleEndian bytes < 256 ^ bytes.length := by
  induction bytes with
  | nil => simp [littleEndian]
  | cons byte bytes induction =>
      have bounded := byte.toNat_lt
      simp only [littleEndian, List.length_cons, pow_succ]
      omega

theorem littleEndian_ofNatLittle (width value : Nat) :
    littleEndian (ofNatLittle width value) = value % 256 ^ width := by
  induction width generalizing value with
  | zero => simp [ofNatLittle, littleEndian, Nat.mod_one]
  | succ width induction =>
      have low : (UInt8.ofNat value).toNat = value % 256 := by simp
      rw [ofNatLittle, littleEndian, induction, low, pow_succ, mul_comm (256 ^ width),
        Nat.mod_mul]

theorem ofNatLittle_littleEndian (bytes : Bytes) :
    ofNatLittle bytes.length (littleEndian bytes) = bytes := by
  induction bytes with
  | nil => rfl
  | cons byte bytes induction =>
      have bounded := byte.toNat_lt
      have low : UInt8.ofNat (byte.toNat + 256 * littleEndian bytes) = byte := by
        apply UInt8.toNat.inj
        rw [UInt8.toNat_ofNat']
        omega
      have high : (byte.toNat + 256 * littleEndian bytes) / 256 = littleEndian bytes := by omega
      rw [List.length_cons, littleEndian, ofNatLittle, low, high, induction]

theorem bigEndian_lt (bytes : Bytes) : bigEndian bytes < 256 ^ bytes.length := by
  rw [bigEndian_eq_littleEndian_reverse]
  simpa using littleEndian_lt bytes.reverse

theorem bigEndian_ofNatBig {width value : Nat} (bounded : value < 256 ^ width) :
    bigEndian (ofNatBig width value) = value := by
  rw [bigEndian_eq_littleEndian_reverse, ofNatBig, List.reverse_reverse,
    littleEndian_ofNatLittle, Nat.mod_eq_of_lt bounded]

theorem ofNatBig_bigEndian (bytes : Bytes) : ofNatBig bytes.length (bigEndian bytes) = bytes := by
  have exact := ofNatLittle_littleEndian bytes.reverse
  rw [List.length_reverse] at exact
  rw [ofNatBig, bigEndian_eq_littleEndian_reverse, exact, List.reverse_reverse]

end SealedContent.Bytes
