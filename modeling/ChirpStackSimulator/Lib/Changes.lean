/-
  Changes seen by a sequence of observations.

  Something is looked at again and again, and each look is compared with the one before: `pairs` are
  the comparisons.  The observations carry stamps, which may be times or positions in a history.

  1. **Comparisons** - a new observation is compared with the last one (`pairs_append_singleton`),
     and with increasing stamps the left side of a comparison is the earlier one (`mem_pairs`).
  2. **A change** (`SeesChange`) - the left side does not have the property, the right side has it,
     and the stamps are on either side of the change.
  3. **Counting** - a property that is false up to `m` and true from `m` on is seen to change in
     exactly one comparison (`countP_change`), provided there is an observation on either side;
     while it stays true, in none (`countP_eq_zero`).
-/
import Mathlib.Data.List.Count

namespace Changes

variable {α : Type*}

/-- Each element with the one after it. -/
def pairs : List α → List (α × α)
  | x :: y :: l => (x, y) :: pairs (y :: l)
  | _ => []

@[simp] theorem pairs_nil : pairs ([] : List α) = [] := rfl

@[simp] theorem pairs_singleton (x : α) : pairs [x] = [] := rfl

@[simp] theorem pairs_cons_cons (x y : α) (l : List α) :
    pairs (x :: y :: l) = (x, y) :: pairs (y :: l) := rfl

/-- A new element is compared with the last one. -/
theorem pairs_append_singleton (l : List α) (x : α) :
    pairs (l ++ [x]) = pairs l ++ l.getLast?.toList.map fun y => (y, x) := by
  match l with
  | [] => rfl
  | [y] => rfl
  | y :: z :: l =>
    rw [List.cons_append, List.cons_append, pairs_cons_cons, ← List.cons_append,
      pairs_append_singleton (z :: l) x, pairs_cons_cons, List.getLast?_cons_cons, List.cons_append]

/-- Both sides of a comparison are observations, and the earlier one has the earlier stamp. -/
theorem mem_pairs {stamp : α → Nat} : ∀ {l : List α} {p : α × α},
    (l.map stamp).Pairwise (· < ·) → p ∈ pairs l → p.1 ∈ l ∧ p.2 ∈ l ∧ stamp p.1 < stamp p.2
  | [], p, _, h => by simp at h
  | [x], p, _, h => by simp at h
  | x :: y :: l, p, hsorted, h => by
    obtain ⟨hx, hrest⟩ := List.pairwise_cons.mp hsorted
    rcases List.mem_cons.mp h with rfl | h
    · exact ⟨by simp, by simp, hx (stamp y) (by simp)⟩
    · obtain ⟨h₁, h₂, hlt⟩ := mem_pairs hrest h
      exact ⟨List.mem_cons_of_mem x h₁, List.mem_cons_of_mem x h₂, hlt⟩

/-- The comparison sees the property become true at a stamp of `[m, b)`. -/
def SeesChange (stamp : α → Nat) (p : α → Prop) (m b : Nat) (c : α × α) : Prop :=
  m ≤ stamp c.2 ∧ stamp c.2 < b ∧ ¬ p c.1 ∧ p c.2

instance (stamp : α → Nat) (p : α → Prop) [DecidablePred p] (m b : Nat) :
    DecidablePred (SeesChange stamp p m b) := fun _ => by unfold SeesChange; infer_instance

variable {stamp : α → Nat} {p : α → Prop} [DecidablePred p] {a m b : Nat}

/-- While the property stays true it is not seen to change. -/
theorem countP_eq_zero {l : List α} (hsorted : (l.map stamp).Pairwise (· < ·))
    (hge : ∀ x ∈ l, m ≤ stamp x) (htrue : ∀ x ∈ l, m ≤ stamp x → stamp x < b → p x) :
    (pairs l).countP (fun c => decide (SeesChange stamp p m b c)) = 0 := by
  rw [List.countP_eq_zero]
  intro c hc
  obtain ⟨h₁, h₂, hlt⟩ := mem_pairs hsorted hc
  rw [decide_eq_true_eq]
  rintro ⟨-, hb, hnot, -⟩
  exact hnot (htrue c.1 h₁ (hge c.1 h₁) (by omega))

/-- **A lasting change is seen exactly once.** -/
theorem countP_change : ∀ {l : List α}, (l.map stamp).Pairwise (· < ·) →
    (∀ x ∈ l, a ≤ stamp x → stamp x < m → ¬ p x) →
    (∀ x ∈ l, m ≤ stamp x → stamp x < b → p x) →
    (∃ x ∈ l, a ≤ stamp x ∧ stamp x < m) → (∃ x ∈ l, m ≤ stamp x ∧ stamp x < b) →
    (pairs l).countP (fun c => decide (SeesChange stamp p m b c)) = 1
  | [], _, _, _, ⟨x, hx, _⟩, _ => absurd hx List.not_mem_nil
  | [x], _, _, _, ⟨y, hy, hy'⟩, ⟨z, hz, hz'⟩ => by
    -- one observation cannot be on both sides
    obtain rfl := List.mem_singleton.mp hy
    obtain rfl := List.mem_singleton.mp hz
    omega
  | x :: y :: l, hsorted, hfalse, htrue, ⟨u, hu, hau, hum⟩, ⟨v, hv, hmv, hvb⟩ => by
    obtain ⟨hx, hrest⟩ := List.pairwise_cons.mp hsorted
    have hxlt : ∀ z ∈ y :: l, stamp x < stamp z := fun z hz => hx (stamp z) (List.mem_map_of_mem hz)
    have hylt : ∀ z ∈ l, stamp y < stamp z := fun z hz =>
      (List.pairwise_cons.mp hrest).1 (stamp z) (List.mem_map_of_mem hz)
    have hv' : v ∈ y :: l := by
      rcases List.mem_cons.mp hv with rfl | hv
      · -- `x` is the first one, so it is not on the later side
        rcases List.mem_cons.mp hu with rfl | hu
        · omega
        · have := hxlt u hu
          omega
      · exact hv
    have hfalse' : ∀ z ∈ y :: l, a ≤ stamp z → stamp z < m → ¬ p z :=
      fun z hz => hfalse z (List.mem_cons_of_mem x hz)
    have htrue' : ∀ z ∈ y :: l, m ≤ stamp z → stamp z < b → p z :=
      fun z hz => htrue z (List.mem_cons_of_mem x hz)
    rw [pairs_cons_cons, List.countP_cons]
    by_cases hym : stamp y < m
    · -- the change comes after `y`
      have hnot : ¬ SeesChange stamp p m b (x, y) := fun h => by
        have h₁ : m ≤ stamp y := h.1
        omega
      have hu' : ∃ z ∈ y :: l, a ≤ stamp z ∧ stamp z < m := by
        rcases List.mem_cons.mp hu with rfl | hu
        · have := hxlt y (by simp)
          exact ⟨y, by simp, by omega, hym⟩
        · exact ⟨u, hu, hau, hum⟩
      rw [countP_change hrest hfalse' htrue' hu' ⟨v, hv', hmv, hvb⟩]
      simp [hnot]
    · -- the change is between `x` and `y`
      have hge : ∀ z ∈ y :: l, m ≤ stamp z := by
        intro z hz
        rcases List.mem_cons.mp hz with rfl | hz
        · omega
        · have := hylt z hz
          omega
      have hux : u = x := by
        rcases List.mem_cons.mp hu with rfl | hu
        · rfl
        · have := hge u hu
          omega
      subst hux
      have hyb : stamp y < b := by
        rcases List.mem_cons.mp hv' with rfl | hv'
        · exact hvb
        · have := hylt v hv'
          omega
      have hmy : m ≤ stamp y := by omega
      have hsees : SeesChange stamp p m b (u, y) :=
        ⟨hmy, hyb, hfalse u (by simp) hau hum, htrue y (by simp) hmy hyb⟩
      rw [countP_eq_zero hrest hge htrue']
      simp [hsees]

end Changes
