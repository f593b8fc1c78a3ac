/-
  Objects in memory, kept in a list.

  An object is known by its place: a new one comes last, and one that changes is put back where it
  was, so a place never comes to mean another object.

  1. **A new object** - what is at a place was there before, or is the new object (`lookup_append`);
     an object that was there stays (`append_kept`).
  2. **An object that changes** - what is at a place is the object put back, or was there before
     (`lookup_set`, `of_lookup_set`); the others stay (`set_kept`), and only the one replaced goes
     (`eq_or_mem_set`).  So it is with a change in place (`mem_of_mem_modify`, `map_modify`).
  3. **Objects at several places** - those at increasing places are in the order of the list
     (`lookups_sublist`).
  4. **Objects under names** - a map instead of a list, with the same rule (`of_lookup_update`).
-/
import Mathlib.Data.List.Basic
import Mathlib.Logic.Function.Basic

namespace Objects

variable {α : Type*} {objects : List α} {x y z : α} {i k : Nat}

/-! ## A new object -/

theorem append_kept (h : objects[i]? = some x) (added : List α) :
    (objects ++ added)[i]? = some x := by
  rw [List.getElem?_append_left (List.getElem?_eq_some_iff.mp h).1]
  exact h

/-- What is at a place was there before, or is the new object. -/
theorem lookup_append :
    (objects ++ [y])[i]? = some x ↔ objects[i]? = some x ∨ (i = objects.length ∧ x = y) := by
  rcases Nat.lt_trichotomy i objects.length with hlt | rfl | hgt
  · rw [List.getElem?_append_left hlt]
    exact (or_iff_left fun h => absurd h.1 (Nat.ne_of_lt hlt)).symm
  · rw [List.getElem?_concat_length, List.getElem?_eq_none (Nat.le_refl _)]
    simp [eq_comm]
  · have hle : (objects ++ [y]).length ≤ i := by
      rw [List.length_append]
      exact hgt
    rw [List.getElem?_eq_none hle, List.getElem?_eq_none (Nat.le_of_lt hgt)]
    simp [Nat.ne_of_gt hgt]

/-! ## An object that changes -/

theorem set_self (h : objects[k]? = some y) : (objects.set k z)[k]? = some z :=
  List.getElem?_set_self (List.getElem?_eq_some_iff.mp h).1

theorem set_kept (hne : i ≠ k) (h : objects[i]? = some x) : (objects.set k z)[i]? = some x := by
  rw [List.getElem?_set_ne (Ne.symm hne)]
  exact h

/-- What is at a place is the object put back, or was there before. -/
theorem of_lookup_set (h : (objects.set k z)[i]? = some x) :
    (i = k ∧ x = z) ∨ (i ≠ k ∧ objects[i]? = some x) := by
  rw [List.getElem?_set] at h
  split at h
  · next heq =>
    split at h
    · exact Or.inl ⟨heq.symm, (Option.some.inj h).symm⟩
    · cases h
  · next hne => exact Or.inr ⟨Ne.symm hne, h⟩

theorem lookup_set (h : objects[k]? = some y) :
    (objects.set k z)[i]? = some x ↔ (i = k ∧ x = z) ∨ (i ≠ k ∧ objects[i]? = some x) := by
  refine ⟨of_lookup_set, ?_⟩
  rintro (⟨rfl, rfl⟩ | ⟨hne, hold⟩)
  · exact set_self h
  · exact set_kept hne hold

/-- Only the object that is replaced goes. -/
theorem eq_or_mem_set (h : objects[k]? = some y) (z : α) (hx : x ∈ objects) :
    x = y ∨ x ∈ objects.set k z := by
  obtain ⟨i, hi⟩ := List.mem_iff_getElem?.mp hx
  by_cases hik : i = k
  · subst hik
    exact Or.inl (Option.some.inj (hi.symm.trans h))
  · exact Or.inr (List.mem_of_getElem? (set_kept hik hi))

/-! ## Objects at several places -/

/-- What is in the list after a change in place was there before, or is what came of the change. -/
theorem mem_of_mem_modify {f : α → α} (h : x ∈ objects.modify k f) :
    x ∈ objects ∨ ∃ y ∈ objects, x = f y := by
  obtain ⟨i, hi⟩ := List.mem_iff_getElem?.mp h
  rw [List.getElem?_modify, Option.map_eq_map, Option.map_eq_some_iff] at hi
  obtain ⟨y, hy, hx⟩ := hi
  have hmem : y ∈ objects := List.mem_of_getElem? hy
  split at hx
  · exact .inr ⟨y, hmem, hx.symm⟩
  · exact .inl (hx ▸ hmem)

/-- What is seen of the objects changes in place as well. -/
theorem map_modify_comm {β : Type*} {f : α → α} {g : α → β} {h : β → β}
    (hfg : ∀ y, g (f y) = h (g y)) (k : Nat) (objects : List α) :
    (objects.modify k f).map g = (objects.map g).modify k h := by
  refine List.ext_getElem? fun i => ?_
  rw [List.getElem?_map, List.getElem?_modify, List.getElem?_modify, List.getElem?_map]
  cases objects[i]? with
  | none => rfl
  | some y =>
    by_cases hki : k = i
    · simp [hki, hfg]
    · simp [hki]

/-- What a change in place does not touch is as before. -/
theorem map_modify {β : Type*} {f : α → α} {g : α → β} (hfg : ∀ y, g (f y) = g y) (k : Nat)
    (objects : List α) : (objects.modify k f).map g = objects.map g := by
  rw [map_modify_comm (h := id) hfg, List.modify_id]

theorem lookups_sublist_drop {places : List Nat} (h : places.Pairwise (· < ·)) :
    ∀ j, (∀ i ∈ places, j ≤ i) →
      (places.filterMap fun i => objects[i]?).Sublist (objects.drop j) := by
  induction places with
  | nil => exact fun j _ => List.nil_sublist _
  | cons i places ih =>
    intro j hj
    obtain ⟨hlt, hrest⟩ := List.pairwise_cons.mp h
    have hji : j ≤ i := hj i List.mem_cons_self
    rw [List.filterMap_cons]
    by_cases hi : i < objects.length
    · have htail := ih hrest (i + 1) hlt
      rw [List.getElem?_eq_getElem hi]
      refine List.Sublist.trans ?_ (List.drop_sublist_drop_left objects hji)
      rw [List.drop_eq_getElem_cons hi]
      exact htail.cons_cons _
    · rw [List.getElem?_eq_none (Nat.le_of_not_lt hi)]
      exact ih hrest j fun i' hi' => hj i' (List.mem_cons_of_mem i hi')

/-- The objects at increasing places, in their order. -/
theorem lookups_sublist {places : List Nat} (h : places.Pairwise (· < ·)) :
    (places.filterMap fun i => objects[i]?).Sublist objects := by
  simpa using lookups_sublist_drop h 0 fun i _ => Nat.zero_le i

/-! ## Objects under names -/

/-- What is under a name is the object put there, or was there before. -/
theorem of_lookup_update {ν : Type*} [DecidableEq ν] {named : ν → Option α} {n m : ν}
    (h : Function.update named n (some y) m = some x) :
    (m = n ∧ x = y) ∨ (m ≠ n ∧ named m = some x) := by
  by_cases hmn : m = n
  · subst hmn
    rw [Function.update_self] at h
    exact Or.inl ⟨rfl, (Option.some.inj h).symm⟩
  · rw [Function.update_of_ne hmn] at h
    exact Or.inr ⟨hmn, h⟩

end Objects
