/-
  Counters of which only the residue is transmitted.

  A receiver that has counted up to `c` gets `x`, a residue modulo `m`, and moves forward to the
  next number with that residue.

  1. **`advance`** - the number it moves to: not before `c` (`le_advance`), less than `m` ahead
     (`advance_lt`), with the residue it was given (`advance_mod`).  There is one such number only
     (`eq_of_mod_eq`).
  2. `advance_eq` is what this is for: it finds every number of the window `[c, c + m)` again.
  3. `advance_of_lt` is what it costs: a number from before `c` is taken for the one `m` later, so a
     receiver that may be given late numbers has to refuse them by other means.
-/
import Mathlib.Tactic.Common

namespace Counter

/-- The first number from `c` on whose residue modulo `m` is `x`. -/
def advance (m c x : Nat) : Nat := c + (x + m - c % m) % m

variable {m c x n : Nat}

theorem le_advance : c ≤ advance m c x := Nat.le_add_right _ _

theorem advance_lt (hm : 0 < m) : advance m c x < c + m :=
  Nat.add_lt_add_left (Nat.mod_lt _ hm) c

/-- `advance` has the residue it was given. -/
theorem advance_mod (hm : 0 < m) (hx : x < m) : advance m c x % m = x := by
  have hc : c % m < m := Nat.mod_lt c hm
  have hsum : c % m + (x + m - c % m) = x + m := by omega
  calc advance m c x % m = (c % m + (x + m - c % m)) % m := by
        rw [advance, Nat.add_mod, Nat.mod_mod, ← Nat.add_mod, Nat.add_mod (c % m), Nat.mod_mod,
          ← Nat.add_mod]
    _ = x := by rw [hsum, Nat.add_mod_right, Nat.mod_eq_of_lt hx]

/-- Two numbers less than `m` apart with the same residue are equal. -/
theorem eq_of_mod_eq {a b : Nat} (hab : a < b + m) (hba : b < a + m) (h : a % m = b % m) :
    a = b := by
  have h₁ : a - b = 0 := by
    have hmod := Nat.sub_mod_eq_zero_of_mod_eq h
    rwa [Nat.mod_eq_of_lt (by omega)] at hmod
  have h₂ : b - a = 0 := by
    have hmod := Nat.sub_mod_eq_zero_of_mod_eq h.symm
    rwa [Nat.mod_eq_of_lt (by omega)] at hmod
  omega

/-- **Every number of the window `[c, c + m)` is found again.** -/
theorem advance_eq (hc : c ≤ n) (hn : n < c + m) : advance m c (n % m) = n := by
  have hm : 0 < m := by omega
  have hle : c ≤ advance m c (n % m) := le_advance
  have hlt : advance m c (n % m) < c + m := advance_lt hm
  exact eq_of_mod_eq (by omega) (by omega) (advance_mod hm (Nat.mod_lt n hm))

/-- A number below a counter that has not wrapped yet is taken for the one `m` later. -/
theorem advance_of_lt (hc : c < m) (hn : n < c) : advance m c n = n + m := by
  rw [advance, Nat.mod_eq_of_lt hc, Nat.mod_eq_of_lt (by omega)]
  omega

end Counter
