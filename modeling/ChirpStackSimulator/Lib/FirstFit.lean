/-
  First-fit choice of fresh names.

  A chooser keeps a finite set of the values in use.  It is given a list of candidates, takes the
  first one that is not in use and puts it in the set; when every candidate is in use it chooses
  nothing and leaves the set as it is.  What a chain of choices gives is then easy to say:

  * one choice is fresh (`choose_not_mem`), and it fails exactly when its candidates are exhausted
    (`choose_eq_none`);
  * a chain of choices, each from candidates of its own, never repeats a value and never gives one
    that was in use at its start (`choices_fresh`, `choices_nodup`).

  Nothing is asked of the candidates: they may repeat, overlap between choices, or be empty.  Random
  candidates are a list as any other, so the results hold for every draw.
-/
import Mathlib.Data.Finset.Insert
import Mathlib.Data.List.ReduceOption

namespace FirstFit

variable {α : Type*} [DecidableEq α]

/-! ## One choice -/

/-- The first candidate that is not in use. -/
def choose (used : Finset α) (candidates : List α) : Option α :=
  candidates.find? fun x => decide (x ∉ used)

theorem choose_cons (used : Finset α) (x : α) (candidates : List α) :
    choose used (x :: candidates) = if x ∈ used then choose used candidates else some x := by
  by_cases h : x ∈ used <;> simp [choose, h]

/-- Candidates tried after other candidates are reached when those are all in use. -/
theorem choose_append (used : Finset α) (xs ys : List α) :
    choose used (xs ++ ys) = (choose used xs).or (choose used ys) :=
  List.find?_append

theorem choose_not_mem {used : Finset α} {candidates : List α} {x : α}
    (h : choose used candidates = some x) : x ∉ used := by
  simpa using List.find?_some h

theorem mem_of_choose {used : Finset α} {candidates : List α} {x : α}
    (h : choose used candidates = some x) : x ∈ candidates :=
  List.mem_of_find?_eq_some h

/-- A choice fails exactly when every candidate is in use. -/
theorem choose_eq_none {used : Finset α} {candidates : List α} :
    choose used candidates = none ↔ ∀ x ∈ candidates, x ∈ used := by
  simp [choose, List.find?_eq_none]

/-- The set after a choice. -/
def commit (used : Finset α) : Option α → Finset α
  | some x => insert x used
  | none => used

theorem subset_commit (used : Finset α) (x : Option α) : used ⊆ commit used x := by
  cases x with
  | none => exact Finset.Subset.refl used
  | some x => exact Finset.subset_insert x used

/-! ## A chain of choices -/

/-- The choices made one after another, each from candidates of its own. -/
def choices : Finset α → List (List α) → List (Option α)
  | _, [] => []
  | used, candidates :: rest =>
    let x := choose used candidates
    x :: choices (commit used x) rest

theorem choices_cons (used : Finset α) (candidates : List α) (rest : List (List α)) :
    choices used (candidates :: rest)
      = choose used candidates :: choices (commit used (choose used candidates)) rest := rfl

/-- No choice of the chain gives a value that was in use at its start. -/
theorem choices_fresh {used : Finset α} {lists : List (List α)} {x : α}
    (h : some x ∈ choices used lists) : x ∉ used := by
  induction lists generalizing used with
  | nil => exact absurd h List.not_mem_nil
  | cons candidates rest ih =>
    rw [choices_cons, List.mem_cons] at h
    rcases h with hx | hx
    · exact choose_not_mem hx.symm
    · intro hused
      exact ih hx (subset_commit used _ hused)

/-- Every choice of the chain is one of its own candidates. -/
theorem mem_of_choices {used : Finset α} {lists : List (List α)} {x : α}
    (h : some x ∈ choices used lists) : ∃ candidates ∈ lists, x ∈ candidates := by
  induction lists generalizing used with
  | nil => exact absurd h List.not_mem_nil
  | cons candidates rest ih =>
    rw [choices_cons, List.mem_cons] at h
    rcases h with hx | hx
    · exact ⟨candidates, List.mem_cons_self, mem_of_choose hx.symm⟩
    · obtain ⟨later, hlater, hmem⟩ := ih hx
      exact ⟨later, List.mem_cons_of_mem candidates hlater, hmem⟩

/-- **Chains never repeat a value.**  A value chosen later is fresh for the set that already holds
    every earlier one. -/
theorem choices_nodup (used : Finset α) (lists : List (List α)) :
    (choices used lists).reduceOption.Nodup := by
  induction lists generalizing used with
  | nil => exact List.nodup_nil
  | cons candidates rest ih =>
    rw [choices_cons]
    cases hx : choose used candidates with
    | none =>
      rw [List.reduceOption_cons_of_none]
      exact ih used
    | some x =>
      rw [List.reduceOption_cons_of_some, List.nodup_cons]
      refine ⟨fun hmem => ?_, ih _⟩
      exact choices_fresh (List.reduceOption_mem_iff.mp hmem) (Finset.mem_insert_self x used)

end FirstFit
