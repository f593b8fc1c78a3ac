/-
  Numbers of JavaScript, as far as whole numbers go.

  * A number is a double.  A whole number that is too long for 53 bits becomes the nearest double,
    of two equally near ones the even one (`nearest`).
  * A bit operator first reduces its operands to 32-bit integers (`toInt32`); its result is read
    with sign again.
  * `Math.round` rounds a half up (`mathRound`).

  The rounding is off by at most one part in `2 ^ 53` (`nearest_ge`), and what is left of a long
  number ends in zeros (`dvd_nearest`), which is all that a 32-bit mask sees of it
  (`band_mask_of_dvd`).  The bytes of a number are the quotients one expects, whatever its sign
  (`band_shr`), and bytes shifted into place and put together with `|` are their number (`join_two`,
  `join_four`).
-/
import Mathlib.Data.Nat.Bitwise
import Mathlib.Data.Rat.Floor
import Mathlib.Tactic.Linarith
import Mathlib.Tactic.NormNum

namespace JsNumber

/-! ## Doubles -/

/-- The double a whole number becomes. -/
def nearest (n : ℕ) : ℕ :=
  let k := n.log2 - 52
  let q := n / 2 ^ k
  let r := n % 2 ^ k
  if 2 ^ k < 2 * r ∨ 2 * r = 2 ^ k ∧ q % 2 = 1 then (q + 1) * 2 ^ k else q * 2 ^ k

example : nearest (2 ^ 53 + 1) = 2 ^ 53 := by decide
example : nearest (2 ^ 53 + 3) = 2 ^ 53 + 4 := by decide

/-- A number of 53 bits is a double. -/
theorem nearest_of_lt {n : ℕ} (h : n < 2 ^ 53) : nearest n = n := by
  have hk : n.log2 - 52 = 0 := by
    by_cases hn : n = 0
    · subst hn
      decide
    · have := (Nat.log2_lt hn).mpr h
      omega
  simp only [nearest, hk, pow_zero, Nat.mod_one, Nat.div_one, Nat.mul_one]
  rw [if_neg (by omega)]

/-- What a long number becomes ends in as many zeros as it is too long. -/
theorem dvd_nearest {n j : ℕ} (h : 2 ^ (52 + j) ≤ n) : 2 ^ j ∣ nearest n := by
  have hn : n ≠ 0 := by
    have := Nat.two_pow_pos (52 + j)
    omega
  have hk : j ≤ n.log2 - 52 := by
    have := (Nat.le_log2 hn).mpr h
    omega
  have hdvd : 2 ^ j ∣ 2 ^ (n.log2 - 52) := Nat.pow_dvd_pow 2 hk
  simp only [nearest]
  split
  · exact Dvd.dvd.mul_left hdvd _
  · exact Dvd.dvd.mul_left hdvd _

/-- Rounding does not go below a power of two. -/
theorem le_nearest {n j : ℕ} (h : 2 ^ j ≤ n) : 2 ^ j ≤ nearest n := by
  have hn : n ≠ 0 := by
    have := Nat.two_pow_pos j
    omega
  have hj : j ≤ n.log2 := (Nat.le_log2 hn).mpr h
  have hquotient : 2 ^ (n.log2 - (n.log2 - 52)) ≤ n / 2 ^ (n.log2 - 52) := by
    rw [Nat.le_div_iff_mul_le (Nat.two_pow_pos _), ← pow_add,
      show n.log2 - (n.log2 - 52) + (n.log2 - 52) = n.log2 by omega]
    exact Nat.log2_self_le hn
  have hfloor : 2 ^ j ≤ n / 2 ^ (n.log2 - 52) * 2 ^ (n.log2 - 52) := by
    calc 2 ^ j ≤ 2 ^ n.log2 := Nat.pow_le_pow_right (by omega) hj
      _ = 2 ^ (n.log2 - (n.log2 - 52)) * 2 ^ (n.log2 - 52) := by
        rw [← pow_add]
        congr 1
        omega
      _ ≤ n / 2 ^ (n.log2 - 52) * 2 ^ (n.log2 - 52) := Nat.mul_le_mul_right _ hquotient
  simp only [nearest]
  split
  · rw [Nat.add_one_mul]
    omega
  · exact hfloor

/-- Rounding takes away at most one part in `2 ^ 53`. -/
theorem nearest_ge (n : ℕ) : 2 ^ 53 * n ≤ 2 ^ 53 * nearest n + n := by
  by_cases hlt : n < 2 ^ 53
  · rw [nearest_of_lt hlt]
    omega
  · have hn : n ≠ 0 := by omega
    have hlog : 53 ≤ n.log2 := (Nat.le_log2 hn).mpr (by omega)
    -- the part that is cut off is below `2 ^ k`, and `n` has 53 bits in front of it
    have hsize : 2 ^ 52 * 2 ^ (n.log2 - 52) ≤ n := by
      rw [← pow_add, show 52 + (n.log2 - 52) = n.log2 by omega]
      exact Nat.log2_self_le hn
    have hsplit := Nat.div_add_mod n (2 ^ (n.log2 - 52))
    have hmod := Nat.mod_lt n (Nat.two_pow_pos (n.log2 - 52))
    simp only [nearest]
    generalize hp : 2 ^ (n.log2 - 52) = p at *
    generalize n / p = q at *
    generalize n % p = r at *
    rw [Nat.mul_comm] at hsplit
    split
    · rw [Nat.add_one_mul]
      omega
    · rename_i hdown
      have hr : 2 * r ≤ p := by omega
      omega

/-! ## 32-bit operators -/

/-- `ToInt32`. -/
def toInt32 (a : ℤ) : BitVec 32 := BitVec.ofInt 32 a

/-- `a & b`. -/
def band (a b : ℤ) : ℤ := (toInt32 a &&& toInt32 b).toInt

/-- `a | b`. -/
def bor (a b : ℤ) : ℤ := (toInt32 a ||| toInt32 b).toInt

/-- `a << s`. -/
def shl (a : ℤ) (s : ℕ) : ℤ := (toInt32 a <<< (s % 32)).toInt

/-- `a >> s`. -/
def shr (a : ℤ) (s : ℕ) : ℤ := ((toInt32 a).sshiftRight (s % 32)).toInt

theorem toNat_toInt32 (a : ℤ) : ((toInt32 a).toNat : ℤ) = a % 2 ^ 32 := by
  rw [toInt32, BitVec.toNat_ofInt]
  omega

theorem toInt_toInt32 (a : ℤ) : (toInt32 a).toInt = a.bmod (2 ^ 32) := BitVec.toInt_ofInt a

/-- The mask of 32 ones only reduces a number. -/
theorem band_mask (a : ℤ) : band a 0xFFFFFFFF = a.bmod (2 ^ 32) := by
  have hmask : toInt32 0xFFFFFFFF = BitVec.allOnes 32 := by decide
  rw [band, hmask, BitVec.and_allOnes, toInt_toInt32]

/-- Nothing is left under the mask of a number with 32 zeros at its end. -/
theorem band_mask_of_dvd {a : ℤ} (h : 2 ^ 32 ∣ a) : band a 0xFFFFFFFF = 0 := by
  rw [band_mask]
  obtain ⟨q, rfl⟩ := h
  exact Int.mul_bmod_right _ _

/-- The lowest byte. -/
theorem band_byte (a : ℤ) : band a 0xFF = a % 256 := by
  have hnat : (toInt32 a &&& toInt32 0xFF).toNat = (toInt32 a).toNat % 256 := by
    rw [BitVec.toNat_and]
    exact Nat.and_two_pow_sub_one_eq_mod _ 8
  have ha := toNat_toInt32 a
  rw [band, BitVec.toInt_eq_toNat_of_lt (by omega), hnat]
  omega

/-- The highest bit of two bytes. -/
theorem band_sign (a : ℤ) : band a 0x8000 = a / 2 ^ 15 % 2 * 2 ^ 15 := by
  have hnat : (toInt32 a &&& toInt32 0x8000).toNat = (toInt32 a).toNat / 2 ^ 15 % 2 * 2 ^ 15 := by
    have hbit : (toInt32 0x8000).toNat = 2 ^ 15 := by decide
    rw [BitVec.toNat_and, hbit, Nat.and_two_pow, Nat.testBit_eq_decide_div_mod_eq]
    rcases Nat.mod_two_eq_zero_or_one ((toInt32 a).toNat / 2 ^ 15) with h | h
    · rw [h]
      rfl
    · rw [h]
      rfl
  have ha := toNat_toInt32 a
  rw [band, BitVec.toInt_eq_toNat_of_lt (by omega), hnat]
  omega

/-- A byte further up. -/
theorem band_shr (a : ℤ) {s : ℕ} (hs : s ≤ 24) : band (shr a s) 0xFF = a / 2 ^ s % 256 := by
  have hshr : shr a s = a.bmod (2 ^ 32) / 2 ^ s := by
    rw [shr, Nat.mod_eq_of_lt (by omega), BitVec.toInt_sshiftRight, toInt_toInt32,
      Int.shiftRight_eq_div_pow]
    push_cast
    rfl
  -- what the reduction took away is a multiple of `2 ^ s * 256`
  have hpow : (2 : ℤ) ^ 32 = 2 ^ s * (256 * 2 ^ (24 - s)) := by
    rw [show (256 : ℤ) = 2 ^ 8 by norm_num, ← pow_add, ← pow_add]
    congr 1
    omega
  have hsplit : a = a.bmod (2 ^ 32) + 2 ^ s * (256 * 2 ^ (24 - s) * a.bdiv (2 ^ 32)) := by
    rw [← mul_assoc, ← hpow]
    exact (Int.bmod_add_bdiv a (2 ^ 32)).symm
  have hpos : (2 : ℤ) ^ s ≠ 0 := by positivity
  rw [band_byte, hshr]
  conv_rhs => rw [hsplit, Int.add_mul_ediv_left _ _ hpos, mul_assoc, Int.add_mul_emod_self_left]

/-- `a << s` is a multiplication. -/
theorem shl_eq (a : ℤ) {s : ℕ} (hs : s < 32) : shl a s = (a * 2 ^ s).bmod (2 ^ 32) := by
  rw [shl, Nat.mod_eq_of_lt hs, BitVec.toInt_shiftLeft, Nat.shiftLeft_eq, Int.natCast_mul,
    toNat_toInt32]
  push_cast
  exact Int.emod_mul_bmod a (2 ^ 32)

/-- Numbers that have no bit in common are put together by adding. -/
theorem bor_eq_add {a b : ℤ} {k : ℕ} (hk : k ≤ 32) (ha : 2 ^ k ∣ a) (hb : 0 ≤ b)
    (hlt : b < 2 ^ k) : bor a b = (a + b).bmod (2 ^ 32) := by
  have hA := toNat_toInt32 a
  have hB := toNat_toInt32 b
  have hlow : (toInt32 b).toNat < 2 ^ k := by
    have hle : b % 2 ^ 32 ≤ b := by omega
    zify
    omega
  have hhigh : 2 ^ k ∣ (toInt32 a).toNat := by
    zify
    rw [hA, Int.emod_def]
    exact dvd_sub ha (Dvd.dvd.mul_right (pow_dvd_pow 2 hk) _)
  have hor : (toInt32 a ||| toInt32 b).toNat = (toInt32 a).toNat + (toInt32 b).toNat := by
    obtain ⟨q, hq⟩ := hhigh
    rw [BitVec.toNat_or, hq, Nat.two_pow_add_eq_or_of_lt hlow]
  rw [bor, BitVec.toInt_eq_toNat_bmod, hor, Int.natCast_add, hA, hB]
  exact (Int.emod_add_bmod a (2 ^ 32)).trans (Int.add_emod_bmod b (2 ^ 32))

/-! ## Bytes -/

theorem bor_bmod (a b : ℤ) : bor (a.bmod (2 ^ 32)) b = bor a b := by
  have hred : toInt32 (a.bmod (2 ^ 32)) = toInt32 a := by
    rw [← toInt_toInt32]
    exact BitVec.ofInt_toInt
  rw [bor, hred, bor]

/-- A byte shifted below the sign bit stays what it is. -/
theorem shl_byte {b : ℤ} {s : ℕ} (hs : s ≤ 16) (hb : 0 ≤ b ∧ b < 256) : shl b s = b * 2 ^ s := by
  have hpow : (2 : ℤ) ^ s ≤ 2 ^ 16 := pow_le_pow_right₀ (by norm_num) hs
  have hpos : (0 : ℤ) ≤ 2 ^ s := by positivity
  have hlow : 0 ≤ b * 2 ^ s := mul_nonneg hb.1 hpos
  have hhigh : b * 2 ^ s ≤ 255 * 2 ^ 16 := mul_le_mul (by omega) hpow hpos (by omega)
  rw [shl_eq b (by omega)]
  exact Int.bmod_eq_of_le (by omega) (by omega)

/-- The number of two bytes, the high one first. -/
theorem join_two {b1 b2 : ℤ} (h1 : 0 ≤ b1 ∧ b1 < 256) (h2 : 0 ≤ b2 ∧ b2 < 256) :
    bor (shl b1 8) b2 = b1 * 2 ^ 8 + b2 := by
  rw [shl_byte (by omega) h1, bor_eq_add (k := 8) (by omega) (Dvd.intro_left _ rfl) h2.1 h2.2]
  exact Int.bmod_eq_of_le (by omega) (by omega)

/-- The number of four bytes, the highest first: its highest bit is the sign. -/
theorem join_four {b1 b2 b3 b4 : ℤ} (h2 : 0 ≤ b2 ∧ b2 < 256) (h3 : 0 ≤ b3 ∧ b3 < 256)
    (h4 : 0 ≤ b4 ∧ b4 < 256) :
    bor (bor (bor (shl b1 24) (shl b2 16)) (shl b3 8)) b4 =
      (b1 * 2 ^ 24 + b2 * 2 ^ 16 + b3 * 2 ^ 8 + b4).bmod (2 ^ 32) := by
  have hsecond : bor (b1 * 2 ^ 24) (b2 * 2 ^ 16) = (b1 * 2 ^ 24 + b2 * 2 ^ 16).bmod (2 ^ 32) :=
    bor_eq_add (k := 24) (by omega) (Dvd.intro_left _ rfl) (by omega) (by omega)
  have hthird : bor (b1 * 2 ^ 24 + b2 * 2 ^ 16) (b3 * 2 ^ 8) =
      (b1 * 2 ^ 24 + b2 * 2 ^ 16 + b3 * 2 ^ 8).bmod (2 ^ 32) :=
    bor_eq_add (k := 16) (by omega) (by omega) (by omega) (by omega)
  rw [shl_eq b1 (by omega), shl_byte (by omega) h2, shl_byte (by omega) h3, bor_bmod, hsecond,
    bor_bmod, hthird, bor_bmod]
  exact bor_eq_add (k := 8) (by omega) (by omega) h4.1 h4.2

/-- Two bytes of a number give back what fits into them. -/
theorem join_two_bytes (a : ℤ) :
    bor (shl (band (shr a 8) 0xFF) 8) (band a 0xFF) = a % 2 ^ 16 := by
  rw [band_shr a (by omega), band_byte, join_two (by omega) (by omega)]
  omega

/-- Four bytes of a number give back what 32 bits hold of it. -/
theorem join_four_bytes (a : ℤ) :
    bor (bor (bor (shl (band (shr a 24) 0xFF) 24) (shl (band (shr a 16) 0xFF) 16))
      (shl (band (shr a 8) 0xFF) 8)) (band a 0xFF) = a.bmod (2 ^ 32) := by
  rw [band_shr a (by omega), band_shr a (by omega), band_shr a (by omega), band_byte,
    join_four (by omega) (by omega) (by omega)]
  have hsum : a / 2 ^ 24 % 256 * 2 ^ 24 + a / 2 ^ 16 % 256 * 2 ^ 16 + a / 2 ^ 8 % 256 * 2 ^ 8 +
      a % 256 = a % (2 ^ 32 : ℕ) := by omega
  rw [hsum, Int.emod_bmod]

/-! ## Rounding -/

/-- `Math.round`. -/
def mathRound (x : ℚ) : ℤ := ⌊x + 1 / 2⌋

/-- A small surplus is rounded away. -/
theorem mathRound_add {n : ℤ} {e : ℚ} (h0 : 0 ≤ e) (h1 : e < 1 / 2) : mathRound (n + e) = n := by
  rw [mathRound, Int.floor_eq_iff]
  constructor <;> linarith

/-- Rounding does not leave an interval of whole numbers. -/
theorem mathRound_mem {x : ℚ} {a b : ℤ} (hlo : a ≤ x) (hhi : x ≤ b) :
    a ≤ mathRound x ∧ mathRound x ≤ b := by
  rw [mathRound, Int.le_floor, ← Int.lt_add_one_iff, Int.floor_lt]
  push_cast
  constructor <;> linarith

end JsNumber
