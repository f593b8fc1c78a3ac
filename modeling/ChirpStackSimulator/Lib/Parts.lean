/-
  The parts of a text between separators.

  Splitting at a separator is undone by putting the parts back together; here it is read the other
  way round, from the front: what the first part is, and what is left to be split.  This is how a
  parser uses it that looks at one part and leaves the rest to the next.

  1. No part has a separator in it (`not_mem_part`).
  2. **Several parts** (`splitOn_eq_cons`) - a text is split into a first part and others exactly if
     it is that part, a separator, and a text that is split into the others.
  3. **The first part** (`splitOn_head`) - a text has at least one part, and the first of them is
     all of it or is followed by a separator.
-/
import Mathlib.Data.List.Basic

namespace Parts

variable {α : Type*} [DecidableEq α] {x : α} {l a b : List α} {rest : List (List α)}

/-- No part has a separator in it. -/
theorem not_mem_part : ∀ {l : List α}, ∀ part ∈ l.splitOn x, x ∉ part
  | [], part, h => by
    obtain rfl := List.mem_singleton.mp h
    exact List.not_mem_nil
  | y :: l, part, h => by
    have ih : ∀ part ∈ l.splitOn x, x ∉ part := not_mem_part
    rw [List.splitOn_cons_eq_if_modifyHead] at h
    split at h
    · rcases List.mem_cons.mp h with rfl | h
      · exact List.not_mem_nil
      · exact ih part h
    · next hy =>
      cases hl : l.splitOn x with
      | nil => exact absurd hl (List.splitOn_ne_nil x l)
      | cons b rest =>
        rw [hl] at h ih
        rcases List.mem_cons.mp h with rfl | h
        · have hxy : x ≠ y := by
            rintro rfl
            simp at hy
          simpa [hxy] using ih b List.mem_cons_self
        · exact ih part (List.mem_cons_of_mem b h)

/-- **The first of several parts.** -/
theorem splitOn_eq_cons :
    l.splitOn x = a :: b :: rest ↔ x ∉ a ∧ ∃ l', l = a ++ x :: l' ∧ l'.splitOn x = b :: rest := by
  constructor
  · intro h
    have hparts : ∀ part ∈ l.splitOn x, x ∉ part := not_mem_part
    rw [h] at hparts
    refine ⟨hparts a List.mem_cons_self, [x].intercalate (b :: rest), ?_, ?_⟩
    · have hl : [x].intercalate (l.splitOn x) = l := List.intercalate_splitOn x
      rw [h] at hl
      exact hl.symm
    · exact List.splitOn_intercalate x (fun part hp => hparts part (List.mem_cons_of_mem a hp))
        (List.cons_ne_nil _ _)
  · rintro ⟨hx, l', rfl, h⟩
    rw [List.splitOn_append_cons_self_of_not_mem hx, h]

/-- The first part is all there is, or a separator follows it. -/
theorem splitOn_head :
    (∃ rest, l.splitOn x = a :: rest) ↔ x ∉ a ∧ (l = a ∨ ∃ l', l = a ++ x :: l') := by
  constructor
  · rintro ⟨rest, h⟩
    refine ⟨not_mem_part a (h ▸ List.mem_cons_self), ?_⟩
    cases rest with
    | nil =>
      have hl : [x].intercalate (l.splitOn x) = l := List.intercalate_splitOn x
      rw [h] at hl
      exact Or.inl (by simpa using hl.symm)
    | cons b rest =>
      obtain ⟨-, l', hl, -⟩ := splitOn_eq_cons.mp h
      exact Or.inr ⟨l', hl⟩
  · rintro ⟨hx, rfl | ⟨l', rfl⟩⟩
    · exact ⟨[], List.splitOn_eq_singleton hx⟩
    · exact ⟨_, List.splitOn_append_cons_self_of_not_mem hx l'⟩

end Parts
