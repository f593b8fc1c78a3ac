/-
  The rises between the values of a sequence.

  A plot of a counter shows by how much each value is above the one before it, and nothing where it
  is below.  Natural numbers subtract that way, so `rises` needs no case for it.

  1. **Along the sequence** - a new value adds one rise at the end (`rises_concat`), and the rises
     of a later part are a later part of the rises (`rises_drop`).  So those of a window of values
     are a window of the rises, one shorter (`last_rises`).
  2. **Sums** - the rises add up to what the counter gained, or to more
     (`getLast_le_add_sum_rises`), and to exactly that where it never fell and nowhere else
     (`add_sum_rises_eq_iff`).  Both are inductions that carry the value before the rest.
-/
import ChirpStackSimulator.Lib.Buffers
import Mathlib.Algebra.BigOperators.Group.List.Basic
import Mathlib.Algebra.GroupWithZero.Nat
import Mathlib.Data.List.Chain

namespace Rises

open Buffers

/-- By how much each value is above the one before it. -/
def rises : List ℕ → List ℕ
  | x :: y :: xs => (y - x) :: rises (y :: xs)
  | _ => []

@[simp] theorem rises_nil : rises [] = [] := rfl
@[simp] theorem rises_singleton (x : ℕ) : rises [x] = [] := rfl
theorem rises_cons_cons (x y : ℕ) (xs : List ℕ) :
    rises (x :: y :: xs) = (y - x) :: rises (y :: xs) := rfl

/-- There is one rise less than there are values. -/
theorem length_rises (xs : List ℕ) : (rises xs).length = xs.length - 1 := by
  induction xs using rises.induct with
  | case1 x y xs ih =>
    rw [rises_cons_cons, List.length_cons, ih]
    simp only [List.length_cons]
    omega
  | case2 xs h =>
    match xs with
    | [] => rfl
    | [x] => rfl
    | x :: y :: xs => exact absurd rfl (h x y xs)

/-- A new value adds one rise. -/
theorem rises_concat (xs : List ℕ) (x y : ℕ) :
    rises (xs ++ [x] ++ [y]) = rises (xs ++ [x]) ++ [y - x] := by
  induction xs with
  | nil => rfl
  | cons z xs ih =>
    cases xs with
    | nil => rfl
    | cons w xs =>
      simp only [List.cons_append, rises_cons_cons] at ih ⊢
      rw [ih]

/-- The rises of a later part. -/
theorem rises_drop (k : ℕ) (xs : List ℕ) : rises (xs.drop k) = (rises xs).drop k := by
  induction k generalizing xs with
  | zero => rfl
  | succ k ih =>
    match xs with
    | [] => rfl
    | [x] => simp
    | x :: y :: xs =>
      rw [List.drop_succ_cons, rises_cons_cons, List.drop_succ_cons]
      exact ih (y :: xs)

/-- The newest rises are those of the newest values, one more of them. -/
theorem last_rises (n : ℕ) (xs : List ℕ) : last n (rises xs) = rises (last (n + 1) xs) := by
  rw [last, last, rises_drop, length_rises]
  congr 1
  omega

/-- **The rises add up to the gain, or to more.** -/
theorem getLast_le_add_sum_rises (x : ℕ) (xs : List ℕ) :
    (x :: xs).getLast (List.cons_ne_nil x xs) ≤ x + (rises (x :: xs)).sum := by
  induction xs generalizing x with
  | nil => exact Nat.le_refl x
  | cons y xs ih =>
    have hrest := ih y
    rw [List.getLast_cons (List.cons_ne_nil y xs), rises_cons_cons, List.sum_cons]
    omega

/-- They add up to the gain exactly if no value is below the one before it. -/
theorem add_sum_rises_eq_iff (x : ℕ) (xs : List ℕ) :
    x + (rises (x :: xs)).sum = (x :: xs).getLast (List.cons_ne_nil x xs) ↔
      (x :: xs).IsChain (· ≤ ·) := by
  induction xs generalizing x with
  | nil => simp
  | cons y xs ih =>
    have hle := getLast_le_add_sum_rises y xs
    have hrest := ih y
    rw [List.getLast_cons (List.cons_ne_nil y xs), rises_cons_cons, List.sum_cons,
      List.isChain_cons_cons, ← hrest]
    omega

/-- Zeros in front of a window do not count. -/
theorem sum_last_replicate_append (n m : ℕ) (xs : List ℕ) :
    (last n (List.replicate m 0 ++ xs)).sum = (last n xs).sum := by
  unfold last
  rw [List.length_append, List.length_replicate, List.drop_append, List.length_replicate,
    List.drop_replicate, List.sum_append, List.sum_replicate_nat, Nat.mul_zero, Nat.zero_add,
    show m + xs.length - n - m = xs.length - n by omega]

end Rises
