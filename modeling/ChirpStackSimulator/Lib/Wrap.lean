/-
  Machine integers: where a difference or a sum that wraps around is right all the same.

  1. **Intervals** - two words of two's complement are as far apart as their difference without
     sign, even where the difference with sign overflows (`toNat_sub`).  So is a word that lies that
     far, or less, above the first one (`toInt_add`), even where the distance is no word with sign.
     Together they are what a draw from an interval needs: its width is computed first, then what is
     drawn below the width is added to its lower end.
  2. **Bytes** - the number of big-endian bytes.  It is below the bound of their count
     (`bigEndian_lt`), and they give every number below the bound (`exists_bigEndian`), by induction
     on the last byte.
-/
import Mathlib.Algebra.GroupWithZero.Nat
import Mathlib.Algebra.Ring.Int.Defs
import Mathlib.Data.List.Induction

namespace Wrap

/-! ## Intervals -/

section
variable {w : Nat} {x y r : BitVec w}

/-- A difference that is not negative does not wrap. -/
theorem toNat_sub (h : x.toInt ≤ y.toInt) : ((y - x).toNat : Int) = y.toInt - x.toInt := by
  have hx := x.le_two_mul_toInt
  have hy : 2 * y.toInt < 2 ^ w := y.two_mul_toInt_lt
  have hsub : y - x = BitVec.ofInt w (y.toInt - x.toInt) := by
    rw [← BitVec.toInt_inj, BitVec.toInt_sub, BitVec.toInt_ofInt]
  have hmod : (y.toInt - x.toInt) % (2 ^ w : Nat) = y.toInt - x.toInt :=
    Int.emod_eq_of_lt (by omega) (by push_cast; omega)
  rw [hsub, BitVec.toNat_ofInt, hmod]
  omega

/-- A sum that stays below the bound does not wrap. -/
theorem toInt_add (h : x.toInt + r.toNat ≤ y.toInt) : (x + r).toInt = x.toInt + r.toNat := by
  have hx := x.le_two_mul_toInt
  have hy : 2 * y.toInt < 2 ^ w := y.two_mul_toInt_lt
  have hadd : x + r = BitVec.ofInt w (x.toInt + r.toNat) := by
    rw [BitVec.ofInt_add, BitVec.ofInt_toInt, BitVec.ofInt_natCast, BitVec.ofNat_toNat,
      BitVec.setWidth_eq]
  rw [hadd, BitVec.toInt_ofInt]
  exact Int.bmod_eq_of_le_mul_two (by push_cast; omega) (by push_cast; omega)

end

/-! ## Bytes -/

/-- The number of bytes, the highest first. -/
def bigEndian (bytes : List UInt8) : Nat := bytes.foldl (fun acc byte => acc * 256 + byte.toNat) 0

theorem bigEndian_append (bytes : List UInt8) (byte : UInt8) :
    bigEndian (bytes ++ [byte]) = bigEndian bytes * 256 + byte.toNat := by
  rw [bigEndian, List.foldl_append]
  rfl

/-- So many bytes make a number below that power. -/
theorem bigEndian_lt (bytes : List UInt8) : bigEndian bytes < 256 ^ bytes.length := by
  induction bytes using List.reverseRecOn with
  | nil => exact Nat.one_pos
  | append_singleton bytes byte ih =>
    have hbyte := byte.toNat_lt
    rw [bigEndian_append, List.length_append, List.length_singleton, pow_succ]
    omega

/-- Every number below the bound is that of some bytes. -/
theorem exists_bigEndian (n : Nat) : ∀ v < 256 ^ n, ∃ bytes, bytes.length = n ∧ bigEndian bytes = v := by
  induction n with
  | zero =>
    intro v hv
    exact ⟨[], rfl, (Nat.lt_one_iff.mp hv).symm⟩
  | succ n ih =>
    intro v hv
    obtain ⟨bytes, hlength, hbytes⟩ := ih (v / 256) (by rw [pow_succ] at hv; omega)
    have hbyte : (UInt8.ofNat (v % 256)).toNat = v % 256 :=
      UInt8.toNat_ofNat_of_lt (Nat.mod_lt v (by decide))
    refine ⟨bytes ++ [UInt8.ofNat (v % 256)], by simp [hlength], ?_⟩
    rw [bigEndian_append, hbytes, hbyte]
    omega

end Wrap
