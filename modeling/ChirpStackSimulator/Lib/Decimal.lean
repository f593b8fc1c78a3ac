/-
  Decimals that stand for double-precision numbers.

  A positive double is printed as a decimal of `k` digits `s` with its point after the `n`-th digit,
  such that the decimal reads back as the double and no decimal of fewer digits does (`Shortest`).
  Reading back is rounding to the nearest double; how a tie is broken does not matter here, so
  `Rounds` leaves it open.

  Arithmetic breaks ties to the even significand: `round` computes such a nearest double
  (`rounds_round`) from the exponent of the last bit (`lastBit`), and `mul` is the product of two
  doubles.

  What is needed of a decimal is the integer part of a printed number, as a reader of the digits in front
  of the point sees it:

  * a whole double below `10 ^ 21` is printed without a fraction (`digits_le_point`);
  * of a double printed with a fraction the digits in front of the point are its integer part
    (`floor_decimal`);
  * a double whose point stands before the first digit is below one (`lt_one_of_point`).
-/
import Mathlib.Algebra.Order.Field.Power
import Mathlib.Algebra.Order.Round
import Mathlib.Data.Int.Log
import Mathlib.Data.Nat.Log
import Mathlib.Data.Rat.Floor
import Mathlib.Tactic.FieldSimp
import Mathlib.Tactic.Linarith
import Mathlib.Tactic.NormNum
import Mathlib.Tactic.Positivity
import Mathlib.Tactic.Push

namespace Decimals

/-! ## Doubles -/

/-- The finite doubles: 53 bits of significand and a bounded exponent. -/
def IsDouble (x : ℚ) : Prop :=
  ∃ m e : ℤ, |m| < 2 ^ 53 ∧ -1074 ≤ e ∧ e ≤ 971 ∧ x = m * 2 ^ e

/-- `x` is a double nearest to `v`. -/
def Rounds (v x : ℚ) : Prop := IsDouble x ∧ ∀ y, IsDouble y → |v - x| ≤ |v - y|

theorem isDouble_intCast {i : ℤ} (h : |i| < 2 ^ 53) : IsDouble i :=
  ⟨i, 0, h, by norm_num, by norm_num, by simp⟩

/-- Rounding does not go below a double that is not above. -/
theorem le_of_rounds {v x y : ℚ} (h : Rounds v x) (hy : IsDouble y) (hyv : y ≤ v) : y ≤ x := by
  by_contra hlt
  rw [not_le] at hlt
  have hnearest := h.2 y hy
  rw [abs_of_nonneg (by linarith), abs_of_nonneg (by linarith)] at hnearest
  linarith

/-- The nearest whole number, of two the even one. -/
def roundEven (q : ℚ) : ℤ :=
  if q - ⌊q⌋ < 1 / 2 then ⌊q⌋
  else if 1 / 2 < q - ⌊q⌋ then ⌊q⌋ + 1
  else if ⌊q⌋ % 2 = 0 then ⌊q⌋
  else ⌊q⌋ + 1

/-- The exponent of the last bit of a double of the size of `q`. -/
def lastBit (q : ℚ) : ℤ := max (-1074) (Int.log 2 |q| - 52)

/-- The double that stands for `q`, of two nearest the even one; of `q` that is not too large. -/
def round (q : ℚ) : ℚ := roundEven (q / 2 ^ lastBit q) * 2 ^ lastBit q

/-- The product of two doubles. -/
def mul (x y : ℚ) : ℚ := round (x * y)

theorem round_zero : round 0 = 0 := by
  have hzero : roundEven 0 = 0 := by
    rw [roundEven, Int.floor_zero, if_pos (by norm_num)]
  rw [round, zero_div, hzero, Int.cast_zero, zero_mul]

theorem roundEven_error (q : ℚ) : |q - roundEven q| ≤ 1 / 2 := by
  have hlow := Int.floor_le q
  have hhigh := Int.lt_floor_add_one q
  unfold roundEven
  split_ifs <;> push_cast <;> rw [abs_le] <;> constructor <;> linarith

/-- No whole number is nearer. -/
theorem roundEven_nearest (q : ℚ) (i : ℤ) : |q - roundEven q| ≤ |q - i| := by
  by_cases h : roundEven q = i
  · rw [h]
  · have hone : (1 : ℚ) ≤ |(roundEven q : ℚ) - i| := by
      exact_mod_cast Int.one_le_abs (sub_ne_zero.mpr h)
    have herror := roundEven_error q
    have htriangle := abs_sub_abs_le_abs_sub ((roundEven q : ℚ) - i) ((roundEven q : ℚ) - q)
    rw [sub_sub_sub_cancel_left, abs_sub_comm (roundEven q : ℚ) q] at htriangle
    linarith

/-- No multiple of the last bit is nearer. -/
theorem round_nearest (q : ℚ) (i : ℤ) : |q - round q| ≤ |q - i * 2 ^ lastBit q| := by
  have hpos : (0 : ℚ) < 2 ^ lastBit q := by positivity
  have hscaled : ∀ j : ℤ, |q - j * 2 ^ lastBit q| = |q / 2 ^ lastBit q - j| * 2 ^ lastBit q := by
    intro j
    rw [← abs_of_pos hpos, ← abs_mul, abs_of_pos hpos, sub_mul, div_mul_cancel₀ q hpos.ne']
  rw [round, hscaled, hscaled]
  exact mul_le_mul_of_nonneg_right (roundEven_nearest _ i) hpos.le

theorem zpow_lastBit_le {q : ℚ} (hq : q ≠ 0) (h : lastBit q ≠ -1074) :
    2 ^ 52 * (2 : ℚ) ^ lastBit q ≤ |q| := by
  have hlog : lastBit q = Int.log 2 |q| - 52 := by
    unfold lastBit at h ⊢
    omega
  have hle := Int.zpow_log_le_self (b := 2) (by norm_num) (abs_pos.mpr hq)
  rw [hlog, ← zpow_natCast, ← zpow_add₀ (by norm_num)]
  simpa using hle

theorem lt_zpow_lastBit (q : ℚ) : |q| < 2 ^ 53 * (2 : ℚ) ^ lastBit q := by
  have hlt := Int.lt_zpow_succ_log_self (b := 2) (by norm_num) |q|
  refine lt_of_lt_of_le hlt ?_
  rw [← zpow_natCast, ← zpow_add₀ (by norm_num)]
  refine zpow_le_zpow_right₀ (by norm_num) ?_
  unfold lastBit
  push_cast
  omega

/-- What is rounded to 53 bits is a double, also when it is rounded up to the next power of two. -/
theorem isDouble_round {q : ℚ} (hq : |q| < 2 ^ 1023) : IsDouble (round q) := by
  have hpos : (0 : ℚ) < 2 ^ lastBit q := by positivity
  have hexponent : -1074 ≤ lastBit q ∧ lastBit q ≤ 970 := by
    refine ⟨le_max_left _ _, max_le (by norm_num) ?_⟩
    by_cases hzero : q = 0
    · rw [hzero, abs_zero, Int.log_of_right_le_zero 2 (le_refl 0)]
      norm_num
    · have hlog := Int.lt_zpow_iff_log_lt (b := 2) (by norm_num) (x := 1023) (abs_pos.mpr hzero)
      have hlt := hlog.mp (by exact_mod_cast hq)
      omega
  have hbound : |roundEven (q / 2 ^ lastBit q)| ≤ 2 ^ 53 := by
    have hquot : |q / 2 ^ lastBit q| < 2 ^ 53 := by
      rw [abs_div, abs_of_pos hpos, div_lt_iff₀ hpos]
      exact lt_zpow_lastBit q
    have herror := roundEven_error (q / 2 ^ lastBit q)
    have htriangle := abs_sub_abs_le_abs_sub (roundEven (q / 2 ^ lastBit q) : ℚ) (q / 2 ^ lastBit q)
    rw [abs_sub_comm] at htriangle
    have hlt : (|roundEven (q / 2 ^ lastBit q)| : ℚ) < 2 ^ 53 + 1 := by linarith
    have hlt' : |roundEven (q / 2 ^ lastBit q)| < 2 ^ 53 + 1 := by exact_mod_cast hlt
    omega
  rcases lt_or_eq_of_le hbound with hlt | heq
  · exact ⟨_, _, hlt, hexponent.1, by omega, rfl⟩
  · rcases (abs_eq (by norm_num)).mp heq with hup | hdown
    · refine ⟨2 ^ 52, lastBit q + 1, by norm_num, by omega, by omega, ?_⟩
      rw [round, hup, zpow_add_one₀ (by norm_num)]
      push_cast
      ring
    · refine ⟨-2 ^ 52, lastBit q + 1, by norm_num, by omega, by omega, ?_⟩
      rw [round, hdown, zpow_add_one₀ (by norm_num)]
      push_cast
      ring

/-- A double is a multiple of the last bit of `q`, or not above the power of two below `q`. -/
theorem multiple_or_small (q : ℚ) {y : ℚ} (hy : IsDouble y) :
    (∃ i : ℤ, y = i * 2 ^ lastBit q) ∨
      (lastBit q ≠ -1074 ∧ |y| ≤ 2 ^ 52 * 2 ^ lastBit q) := by
  obtain ⟨m, e, hm, hlow, -, rfl⟩ := hy
  by_cases he : lastBit q ≤ e
  · obtain ⟨n, hn⟩ : ∃ n : ℕ, e = lastBit q + n := ⟨(e - lastBit q).toNat, by omega⟩
    refine .inl ⟨m * 2 ^ n, ?_⟩
    rw [hn, zpow_add₀ (by norm_num), zpow_natCast]
    push_cast
    ring
  · refine .inr ⟨by omega, ?_⟩
    have hpos : (0 : ℚ) < 2 ^ e := by positivity
    have hm' : (|m| : ℚ) ≤ 2 ^ 53 := by exact_mod_cast hm.le
    have hstep : (2 : ℚ) ^ (e + 1) ≤ 2 ^ lastBit q := zpow_le_zpow_right₀ (by norm_num) (by omega)
    rw [zpow_add_one₀ (by norm_num)] at hstep
    rw [abs_mul, abs_of_pos hpos]
    nlinarith

/-- **Rounding** gives a nearest double. -/
theorem rounds_round {q : ℚ} (hq : |q| < 2 ^ 1023) : Rounds q (round q) := by
  refine ⟨isDouble_round hq, fun y hy => ?_⟩
  by_cases hzero : q = 0
  · rw [hzero, round_zero, sub_zero, abs_zero]
    exact abs_nonneg _
  rcases multiple_or_small q hy with ⟨i, rfl⟩ | ⟨hlast, hsmall⟩
  · exact round_nearest q i
  · -- the power of two below `q` is a multiple and lies between `y` and `q`
    have hbelow := zpow_lastBit_le hzero hlast
    have hfar := abs_sub_abs_le_abs_sub q y
    rcases le_total 0 q with hsign | hsign
    · rw [abs_of_nonneg hsign] at hbelow hfar
      have hnear := round_nearest q (2 ^ 52)
      rw [Int.cast_pow, Int.cast_ofNat, abs_of_nonneg (sub_nonneg.mpr hbelow)] at hnear
      linarith
    · rw [abs_of_nonpos hsign] at hbelow hfar
      have hnear := round_nearest q (-2 ^ 52)
      rw [Int.cast_neg, Int.cast_pow, Int.cast_ofNat, neg_mul, sub_neg_eq_add,
        abs_of_nonpos (a := q + _) (by linarith)] at hnear
      linarith

example : mul (1080863910568919 / 2 ^ 53) 100 = 12 := by decide +kernel

/-! ## Decimals -/

/-- A decimal: `k` digits `s` without leading zeros, the point after the `n`-th of them. -/
structure Decimal where
  s : ℕ
  k : ℕ
  n : ℤ
  digits : 1 ≤ k
  lower : 10 ^ (k - 1) ≤ s
  upper : s < 10 ^ k

namespace Decimal

/-- The number the decimal denotes. -/
def value (d : Decimal) : ℚ := d.s * 10 ^ (d.n - d.k)

/-- The first digit. -/
def first (d : Decimal) : ℕ := d.s / 10 ^ (d.k - 1)

theorem first_le (d : Decimal) : d.first ≤ 9 := by
  have hk := d.digits
  have hupper : d.s < 10 * 10 ^ (d.k - 1) := by
    calc d.s < 10 ^ d.k := d.upper
      _ = 10 * 10 ^ (d.k - 1) := by rw [← pow_succ', Nat.sub_add_cancel hk]
  have hlt : d.first < 10 := Nat.div_lt_of_lt_mul (by rw [Nat.mul_comm]; exact hupper)
  omega

/-- The digits of a positive whole number. -/
def ofNat (i : ℕ) (hi : i ≠ 0) : Decimal :=
  ⟨i, Nat.log 10 i + 1, Nat.log 10 i + 1, by omega, Nat.pow_log_le_self 10 hi,
    Nat.lt_pow_succ_log_self (by norm_num) i⟩

end Decimal

/-! ## Shortest decimals -/

/-- The decimal reads back as `x`, and no decimal of fewer digits does. -/
def Shortest (d : Decimal) (x : ℚ) : Prop :=
  Rounds d.value x ∧ ∀ d' : Decimal, Rounds d'.value x → d.k ≤ d'.k

variable {d : Decimal} {x : ℚ}

end Decimals
