/-
  Ranging over a map, which takes its keys in any order.

  A range is a value of its own, so that "in any order" is a quantifier: what is proved of every
  range holds of every run of the loop, and two loops over one map may have different ranges.

  1. **A range** - the keys in one order, each of them once (`MapRange`); both are fields, so there
     is no range that leaves out a key or comes to it twice.  A list without its repetitions is one
     (`MapRange.ofList`).
  2. **Collecting** - a loop over a range that appends the keys with a property.  What it collects
     has no repetitions (`nodup_collect`), and is as a set the same for every range (`mem_collect`,
     `toFinset_collect`); only its order is not.
-/
import Mathlib.Data.Finset.Dedup
import Mathlib.Data.Finset.Filter

variable {α : Type} [DecidableEq α]

theorem nodup_eraseDups (l : List α) : l.eraseDups.Nodup := by
  induction hn : l.length using Nat.strong_induction_on generalizing l with
  | _ n ih =>
    cases l with
    | nil => exact List.nodup_nil
    | cons a as =>
      rw [List.eraseDups_cons, List.nodup_cons]
      constructor
      · intro ha
        have hne := (List.mem_filter.mp (List.mem_eraseDups.mp ha)).2
        simp at hne
      · refine ih (as.filter fun b => !b == a).length ?_ _ rfl
        have hle := List.length_filter_le (fun b => !b == a) as
        rw [List.length_cons] at hn
        omega

/-- The keys `s` of a map, in the order of one range over it. -/
structure MapRange (s : Finset α) where
  keys : List α
  nodup : keys.Nodup
  toFinset_keys : keys.toFinset = s

namespace MapRange

variable {s : Finset α}

/-- The order in which the keys come first in the list. -/
def ofList (l : List α) : MapRange l.toFinset where
  keys := l.eraseDups
  nodup := nodup_eraseDups l
  toFinset_keys := by
    ext a
    rw [List.mem_toFinset, List.mem_toFinset, List.mem_eraseDups]

/-- A range comes to every key. -/
theorem mem_keys {r : MapRange s} {a : α} : a ∈ r.keys ↔ a ∈ s := by
  rw [← List.mem_toFinset, r.toFinset_keys]

/-- The keys with a property, as a range comes to them. -/
def collect (r : MapRange s) (p : α → Prop) [DecidablePred p] : List α := r.keys.filter fun a => p a

variable {p : α → Prop} [DecidablePred p]

/-- What is collected are the keys with the property. -/
theorem mem_collect {r : MapRange s} {a : α} : a ∈ r.collect p ↔ a ∈ s ∧ p a := by
  rw [collect, List.mem_filter, mem_keys, decide_eq_true_eq]

theorem nodup_collect (r : MapRange s) : (r.collect p).Nodup := r.nodup.filter _

/-- As a set, it does not depend on the order. -/
theorem toFinset_collect (r : MapRange s) : (r.collect p).toFinset = s.filter p := by
  ext a
  rw [List.mem_toFinset, mem_collect, Finset.mem_filter]

/-- Nothing is collected exactly if no key has the property. -/
theorem collect_eq_nil_iff {r : MapRange s} : r.collect p = [] ↔ ∀ a ∈ s, ¬ p a := by
  rw [List.eq_nil_iff_forall_not_mem]
  constructor
  · intro h a ha hp
    exact h a (mem_collect.mpr ⟨ha, hp⟩)
  · intro h a ha
    exact h a (mem_collect.mp ha).1 (mem_collect.mp ha).2

end MapRange
