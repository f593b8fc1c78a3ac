/-
  Sums over a list of which one element changes.

  A total over many parts is kept along a run in which one part changes at a time.  In natural
  numbers the change is written without subtraction: the new sum and the old summand are the old sum
  and the new summand.

  1. **One element** is replaced (`sum_map_set`) or removed (`sum_map_eraseIdx`).  A count is a sum
     of ones, so counts change the same way (`countP_set_add`).
  2. **Some elements** - a sum over those with a property is one over all of them with zeros
     (`sum_map_filter`); adding one wherever it holds adds the count (`sum_map_add_ite`).
  3. **One summand** - a function that changes at one element of a list without repetitions
     (`sum_map_update`).
  4. A sum is one of its summands exactly if the others are zero (`sum_map_eq_iff`).
-/
import Mathlib.Algebra.GroupWithZero.Nat
import Mathlib.Algebra.Order.BigOperators.Group.List
import Mathlib.Algebra.Order.Group.Nat
import Mathlib.Data.List.Count

namespace Tally

variable {α : Type*}

/-- **One element changes.** -/
theorem sum_map_set (f : α → Nat) : ∀ {l : List α} {i : Nat} {x : α} (y : α), l[i]? = some x →
    ((l.set i y).map f).sum + f x = (l.map f).sum + f y
  | [], _, _, _, h => by simp at h
  | z :: l, 0, x, y, h => by
    obtain rfl : z = x := by simpa using h
    simp only [List.set_cons_zero, List.map_cons, List.sum_cons]
    omega
  | z :: l, i + 1, x, y, h => by
    have ih := sum_map_set f y (l := l) (i := i) (by simpa using h)
    simp only [List.set_cons_succ, List.map_cons, List.sum_cons]
    omega

/-- One element goes. -/
theorem sum_map_eraseIdx (f : α → Nat) {l : List α} {i : Nat} {x : α} (h : l[i]? = some x) :
    ((l.eraseIdx i).map f).sum + f x = (l.map f).sum := by
  obtain ⟨hi, rfl⟩ := List.getElem?_eq_some_iff.mp h
  have hsum := ((List.getElem_cons_eraseIdx_perm hi).map f).sum_eq
  rw [List.map_cons, List.sum_cons] at hsum
  omega

theorem countP_eq_sum (p : α → Bool) (l : List α) :
    l.countP p = (l.map fun x => if p x then 1 else 0).sum := by
  induction l with
  | nil => rfl
  | cons x l ih =>
    rw [List.countP_cons, ih, List.map_cons, List.sum_cons, Nat.add_comm]

/-- One element changes in a count. -/
theorem countP_set_add (p : α → Bool) {l : List α} {i : Nat} {x : α} (y : α)
    (h : l[i]? = some x) :
    (l.set i y).countP p + (if p x then 1 else 0) = l.countP p + (if p y then 1 else 0) := by
  rw [countP_eq_sum, countP_eq_sum]
  exact sum_map_set _ y h

/-- A sum over some of the elements. -/
theorem sum_map_filter (p : α → Bool) (f : α → Nat) (l : List α) :
    ((l.filter p).map f).sum = (l.map fun x => if p x then f x else 0).sum := by
  induction l with
  | nil => rfl
  | cons x l ih =>
    cases hp : p x <;> simp [hp, ih]

/-- The sum is one of its summands exactly if all others are zero. -/
theorem sum_map_eq_iff (f : α → Nat) : ∀ {l : List α} {i : Nat} {x : α}, l[i]? = some x →
    ((l.map f).sum = f x ↔ ∀ j y, j ≠ i → l[j]? = some y → f y = 0)
  | [], _, _, h => by simp at h
  | z :: l, 0, x, h => by
    obtain rfl : z = x := by simpa using h
    rw [List.map_cons, List.sum_cons, Nat.add_eq_left,
      List.sum_eq_zero_iff_forall_eq_nat]
    constructor
    · intro hzero j y hj hy
      match j with
      | 0 => exact absurd rfl hj
      | j + 1 => exact hzero _ (List.mem_map_of_mem (List.mem_of_getElem? hy))
    · intro hzero n hn
      obtain ⟨y, hy, rfl⟩ := List.mem_map.mp hn
      obtain ⟨j, hj⟩ := List.getElem?_of_mem hy
      exact hzero (j + 1) y (Nat.succ_ne_zero j) hj
  | z :: l, i + 1, x, h => by
    have ih := sum_map_eq_iff f (l := l) (i := i) h
    have hx : f x ≤ (l.map f).sum :=
      List.le_sum_of_mem (List.mem_map_of_mem (List.mem_of_getElem? h))
    rw [List.map_cons, List.sum_cons]
    constructor
    · intro hsum j y hj hy
      match j with
      | 0 =>
        obtain rfl : z = y := Option.some.inj hy
        omega
      | j + 1 => exact ih.mp (by omega) j y (fun e => hj (e ▸ rfl)) hy
    · intro hzero
      have hz : f z = 0 := hzero 0 z (Ne.symm (Nat.succ_ne_zero i)) rfl
      have hsum := ih.mpr fun j y hj hy => hzero (j + 1) y (fun e => hj (Nat.succ.inj e)) hy
      omega

/-- A function that changes at an element a list has once. -/
theorem sum_map_update [DecidableEq α] (f : α → Nat) {l : List α} (h : l.Nodup) {a : α}
    (ha : a ∈ l) (x : Nat) : (l.map (Function.update f a x)).sum + f a = (l.map f).sum + x := by
  induction l with
  | nil => cases ha
  | cons b l ih =>
    obtain ⟨hb, hl⟩ := List.nodup_cons.mp h
    rw [List.map_cons, List.map_cons, List.sum_cons, List.sum_cons]
    by_cases hab : a = b
    · subst hab
      have hrest : l.map (Function.update f a x) = l.map f := by
        refine List.map_congr_left fun c hc => ?_
        have hca : c ≠ a := fun e => hb (e ▸ hc)
        rw [Function.update_of_ne hca]
      rw [Function.update_self, hrest]
      omega
    · have hal : a ∈ l := (List.mem_cons.mp ha).resolve_left hab
      rw [Function.update_of_ne (Ne.symm hab)]
      have := ih hl hal
      omega

/-- Adding one wherever `p` holds adds the count. -/
theorem sum_map_add_ite (f : α → Nat) (p : α → Bool) (l : List α) :
    (l.map fun a => f a + if p a then 1 else 0).sum = (l.map f).sum + l.countP p := by
  induction l with
  | nil => rfl
  | cons a l ih =>
    rw [List.map_cons, List.sum_cons, ih, List.map_cons, List.sum_cons, List.countP_cons]
    omega

end Tally
