/-
  A span divided into equal shares, in whole numbers.

  The `i`-th of `n` marks over `total` stands at `⌊total * i / n⌋`.  A share that was rounded once
  and then multiplied would lose up to `n - 1` by the end; here every mark is rounded on its own.

  1. **Even** - as even as whole numbers allow: the first mark stands at the start, none stands
     before its predecessor, all stand before the end, and two neighbours are `⌊total / n⌋` apart or
     one more.
  2. **Marks** - the quotient of a sum is the sum of the quotients or one more (`add_ediv`), which
     is all that the distance of neighbours needs (`mark_succ`).
  3. **The marks are even** (`even_marks`), for every positive span and any number of marks.
-/
import Mathlib.Algebra.Group.Int.Defs

namespace Spacing

/-- Where the `i`-th of `n` marks stands. -/
def mark (total : Int) (i n : Nat) : Int := total * i / n

/-- The marks over `total` at these places. -/
structure Even (total : Int) (places : List Int) : Prop where
  floor : ∀ i (hi : i < places.length), places[i] = mark total i places.length
  first : ∀ place ∈ places.head?, place = 0
  sorted : places.Pairwise (· ≤ ·)
  within : ∀ place ∈ places, 0 ≤ place ∧ place < total
  neighbours : ∀ i (hi : i + 1 < places.length), places[i + 1] - places[i] = total / places.length ∨
    places[i + 1] - places[i] = total / places.length + 1

variable {total : Int} {i j n : Nat}

@[simp] theorem mark_zero : mark total 0 n = 0 := by simp [mark]

/-- No mark stands before its predecessor. -/
theorem mark_mono (htotal : 0 ≤ total) (hij : i ≤ j) : mark total i n ≤ mark total j n := by
  have hmul : total * i ≤ total * j := Int.mul_le_mul_of_nonneg_left (by omega) htotal
  rcases Nat.eq_zero_or_pos n with rfl | hn
  · simp [mark]
  · exact Int.ediv_le_ediv (by omega) hmul

theorem mark_nonneg (htotal : 0 ≤ total) : 0 ≤ mark total i n := by
  have h : mark total 0 n ≤ mark total i n := mark_mono htotal (Nat.zero_le i)
  rwa [mark_zero] at h

/-- All marks stand before the end. -/
theorem mark_lt (htotal : 0 < total) (hi : i < n) : mark total i n < total :=
  Int.ediv_lt_of_lt_mul (by omega) (Int.mul_lt_mul_of_pos_left (by omega) htotal)

/-- The quotient of a sum is the sum of the quotients, or one more. -/
theorem add_ediv (a b : Int) (hn : 0 < n) :
    (a + b) / n = a / n + b / n ∨ (a + b) / n = a / n + b / n + 1 := by
  have hpos : (0 : Int) < n := by omega
  have ha : (n : Int) * (a / n) + a % n = a := Int.mul_ediv_add_emod a n
  have hb : (n : Int) * (b / n) + b % n = b := Int.mul_ediv_add_emod b n
  have ha0 := Int.emod_nonneg a (Int.ne_of_gt hpos)
  have ha1 := Int.emod_lt_of_pos a hpos
  have hb0 := Int.emod_nonneg b (Int.ne_of_gt hpos)
  have hb1 := Int.emod_lt_of_pos b hpos
  rcases Int.lt_or_le (a % n + b % n) n with hlt | hge
  · left
    refine ((Int.ediv_emod_unique hpos).mpr ⟨?_, by omega, hlt⟩).1
    rw [Int.mul_add]
    omega
  · right
    refine ((Int.ediv_emod_unique (r := a % n + b % n - n) hpos).mpr ⟨?_, by omega, by omega⟩).1
    rw [Int.mul_add, Int.mul_add, Int.mul_one]
    omega

/-- Neighbours are one share apart, or one more. -/
theorem mark_succ (hn : 0 < n) : mark total (i + 1) n - mark total i n = total / n ∨
    mark total (i + 1) n - mark total i n = total / n + 1 := by
  have hsum : total * ((i + 1 : Nat) : Int) = total * i + total := by
    rw [Int.natCast_succ, Int.mul_add, Int.mul_one]
  unfold mark
  rw [hsum]
  rcases add_ediv (total * i) total hn with h | h
  · left
    omega
  · right
    omega

/-- **The marks are even.** -/
theorem even_marks (htotal : 0 < total) (n : Nat) :
    Even total ((List.range n).map fun i => mark total i n) where
  floor i hi := by simp
  first place hplace := by
    cases n with
    | zero => simp at hplace
    | succ n =>
      rw [List.range_succ_eq_map] at hplace
      simpa using hplace.symm
  sorted := List.pairwise_map.mpr (List.pairwise_lt_range.imp fun hij =>
    mark_mono (Int.le_of_lt htotal) (Nat.le_of_lt hij))
  within place hplace := by
    obtain ⟨i, hi, rfl⟩ := List.mem_map.mp hplace
    exact ⟨mark_nonneg (Int.le_of_lt htotal), mark_lt htotal (List.mem_range.mp hi)⟩
  neighbours i hi := by
    simp only [List.length_map, List.length_range] at hi
    simpa using mark_succ (i := i) (by omega)

end Spacing
