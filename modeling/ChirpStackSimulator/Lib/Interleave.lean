/-
  Interleavings of finite programs.

  Each process `i` executes its program `progs i` in order; an interleaving is a list of tagged
  steps in which every process has executed exactly its program.  Nothing is said of how the
  processes take turns, so what is proved of every interleaving holds of every scheduler.

  Three facts about the state such a list of steps leads to:

  * a component only one process touches is what that process alone makes of it (`foldl_own`);
  * a component that all its writers set to the same value has this value once one of them has
    (`foldl_eq_of_writes`);
  * any process can be the last one (`exists_last`), so what it writes can be what remains.

  The first two are for the proof that all orders are fine, the last one for the order in which they
  are not.
-/
import Mathlib.Data.List.Nodup

namespace Interleave

variable {ι α σ β : Type*} [DecidableEq ι]

/-! ## Interleavings -/

/-- The steps of the process `i`. -/
def own (i : ι) (tr : List (ι × α)) : List α := (tr.filter fun x => x.1 = i).map Prod.snd

@[simp] theorem own_nil (i : ι) : own i ([] : List (ι × α)) = [] := rfl

theorem own_cons (i : ι) (x : ι × α) (tr : List (ι × α)) :
    own i (x :: tr) = if x.1 = i then x.2 :: own i tr else own i tr := by
  by_cases h : x.1 = i <;> simp [own, h]

/-- The steps of a process, in two parts of a trace. -/
@[simp] theorem own_append (i : ι) (tr tr' : List (ι × α)) :
    own i (tr ++ tr') = own i tr ++ own i tr' := by
  simp [own]

/-- What the process `i` does on its own. -/
def tagged (i : ι) (as : List α) : List (ι × α) := as.map fun a => (i, a)

@[simp] theorem own_tagged_self (i : ι) (as : List α) : own i (tagged i as) = as := by
  induction as with
  | nil => rfl
  | cons a as ih => rw [tagged, List.map_cons, own_cons, if_pos rfl]; exact congrArg (a :: ·) ih

theorem own_tagged_of_ne {i j : ι} (h : j ≠ i) (as : List α) : own i (tagged j as) = [] := by
  induction as with
  | nil => rfl
  | cons a as ih => rw [tagged, List.map_cons, own_cons, if_neg h]; exact ih

/-- Every process executes its program, in its order. -/
def IsInterleaving (progs : ι → List α) (tr : List (ι × α)) : Prop := ∀ i, own i tr = progs i

/-- A step of a process is one of the trace under its name. -/
theorem mem_own {i : ι} {a : α} {tr : List (ι × α)} : a ∈ own i tr ↔ (i, a) ∈ tr := by
  constructor
  · intro h
    obtain ⟨x, hx, rfl⟩ := List.mem_map.mp h
    obtain ⟨hmem, hi⟩ := List.mem_filter.mp hx
    have hi' : x.1 = i := by simpa using hi
    rw [← hi']
    exact hmem
  · intro h
    exact List.mem_map.mpr ⟨(i, a), List.mem_filter.mpr ⟨h, by simp⟩, rfl⟩

/-- The steps of an interleaving are the steps of the programs. -/
theorem IsInterleaving.mem_iff {progs : ι → List α} {tr : List (ι × α)}
    (h : IsInterleaving progs tr) {i : ι} {a : α} : (i, a) ∈ tr ↔ a ∈ progs i := by
  rw [← h i, mem_own]

/-! ## The state after an interleaving -/

/-- A component only the process `i` touches ends as `i` alone leaves it. -/
theorem foldl_own {step : σ → ι × α → σ} {π : σ → β} {f : β → α → β} {i : ι}
    (hother : ∀ s j a, j ≠ i → π (step s (j, a)) = π s)
    (hown : ∀ s a, π (step s (i, a)) = f (π s) a) (tr : List (ι × α)) (s : σ) :
    π (tr.foldl step s) = (own i tr).foldl f (π s) := by
  induction tr generalizing s with
  | nil => rfl
  | cons x tr ih =>
    obtain ⟨j, a⟩ := x
    rw [List.foldl_cons, ih, own_cons]
    by_cases h : j = i
    · subst h
      rw [if_pos rfl, List.foldl_cons, hown]
    · rw [if_neg h, hother s j a h]

/-- A component all writers set to `v` is `v` once one of them has set it. -/
theorem foldl_eq_of_writes {γ : Type*} {step : σ → γ → σ} {π : σ → β} {v : β} :
    ∀ (xs : List γ) (s : σ), (∀ x ∈ xs, ∀ s, π (step s x) = π s ∨ π (step s x) = v) →
      (π s = v ∨ ∃ x ∈ xs, ∀ s, π (step s x) = v) → π (xs.foldl step s) = v := by
  intro xs
  induction xs with
  | nil =>
    rintro s - (h | ⟨x, hx, -⟩)
    · exact h
    · exact absurd hx List.not_mem_nil
  | cons x xs ih =>
    intro s hwrites hset
    refine ih (step s x) (fun y hy => hwrites y (List.mem_cons_of_mem x hy)) ?_
    rcases hset with h | ⟨y, hy, hv⟩
    · rcases hwrites x List.mem_cons_self s with hx | hx
      · exact Or.inl (hx.trans h)
      · exact Or.inl hx
    · rcases List.mem_cons.mp hy with rfl | hy
      · exact Or.inl (hv s)
      · exact Or.inr ⟨y, hy, hv⟩

/-! ## Some interleavings -/

/-- One process after another. -/
def sequential (order : List ι) (progs : ι → List α) : List (ι × α) :=
  order.flatMap fun i => tagged i (progs i)

/-- One process after the other: each has all its steps. -/
theorem own_sequential {progs : ι → List α} {i : ι} :
    ∀ {order : List ι}, order.Nodup → own i (sequential order progs) =
      if i ∈ order then progs i else []
  | [], _ => by simp [sequential]
  | j :: order, h => by
    obtain ⟨hj, hnd⟩ := List.nodup_cons.mp h
    have ih : own i (sequential order progs) = if i ∈ order then progs i else [] :=
      own_sequential hnd
    have hcons : sequential (j :: order) progs = tagged j (progs j) ++ sequential order progs := rfl
    rw [hcons, own_append, ih]
    -- the steps of `i` come from its own block, and `order` has no second one
    by_cases hij : j = i
    · subst hij
      rw [own_tagged_self, if_neg hj, if_pos List.mem_cons_self, List.append_nil]
    · rw [own_tagged_of_ne hij, List.nil_append]
      by_cases hi : i ∈ order
      · rw [if_pos hi, if_pos (List.mem_cons_of_mem j hi)]
      · rw [if_neg hi, if_neg]
        intro hmem
        rcases List.mem_cons.mp hmem with h | h
        · exact hij h.symm
        · exact hi h

/-- **Any process can be the last one.** -/
theorem exists_last {order : List ι} {progs : ι → List α} (hnd : order.Nodup)
    (hall : ∀ i, progs i ≠ [] → i ∈ order) (i : ι) :
    ∃ front, IsInterleaving progs (front ++ tagged i (progs i)) := by
  refine ⟨sequential (order.filter (· ≠ i)) progs, fun j => ?_⟩
  rw [own_append, own_sequential (hnd.filter _)]
  by_cases hji : j = i
  · subst hji
    rw [own_tagged_self, if_neg (by simp), List.nil_append]
  · rw [own_tagged_of_ne fun h => hji h.symm, List.append_nil]
    by_cases hj : j ∈ order
    · rw [if_pos (by simp [hj, hji])]
    · rw [if_neg (by simp [hj])]
      by_contra hne
      exact hj (hall j fun h => hne h.symm)

end Interleave
