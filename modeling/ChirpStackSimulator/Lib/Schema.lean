/-
  Tables whose columns grow.

  A relation is the columns it has and its rows, a row a function from columns to values; what a row
  has under a column that the relation lacks means nothing.  `ADD COLUMN` is rejected for a column
  that is there and otherwise gives the rows a default (`addColumn`).  A migration tries to add its
  columns one after another and goes on when one is rejected (`migrate`), which is how a program
  migrates that does not record the version of its schema.

  * What was there stays (`rows_migrate`): a column of the relation keeps its values, an added one
    has its first default.  `fill` is what becomes of one row.
  * Afterwards every column of the migration is there (`mem_columns_migrate`), so that it changes
    nothing when it is run again (`migrate_migrate`).
-/
import Mathlib.Logic.Function.Basic

namespace Schema

variable {C V : Type} [DecidableEq C]

structure Relation (C V : Type) where
  columns : List C
  rows : List (C → V)

/-- `ALTER TABLE … ADD COLUMN c DEFAULT v`; `none` if there is one of this name. -/
def addColumn (t : Relation C V) (c : C) (v : V) : Option (Relation C V) :=
  if c ∈ t.columns then none
  else some ⟨t.columns ++ [c], t.rows.map fun row => Function.update row c v⟩

/-- One column after another, whatever becomes of each. -/
def migrate (adds : List (C × V)) (t : Relation C V) : Relation C V :=
  adds.foldl (fun t add => (addColumn t add.1 add.2).getD t) t

variable {t : Relation C V} {adds : List (C × V)} {c : C} {v : V}

theorem migrate_cons :
    migrate ((c, v) :: adds) t = migrate adds ((addColumn t c v).getD t) := rfl

theorem addColumn_of_mem (h : c ∈ t.columns) : (addColumn t c v).getD t = t := by
  rw [addColumn, if_pos h, Option.getD_none]

theorem addColumn_of_not_mem (h : c ∉ t.columns) :
    (addColumn t c v).getD t =
      ⟨t.columns ++ [c], t.rows.map fun row => Function.update row c v⟩ := by
  rw [addColumn, if_neg h, Option.getD_some]

/-- A migration adds its columns and no others. -/
theorem mem_columns_migrate {d : C} :
    d ∈ (migrate adds t).columns ↔ d ∈ t.columns ∨ d ∈ adds.map Prod.fst := by
  induction adds generalizing t with
  | nil => simp [migrate]
  | cons add adds ih =>
    obtain ⟨c, v⟩ := add
    rw [migrate_cons, ih, List.map_cons, List.mem_cons]
    by_cases h : c ∈ t.columns
    · rw [addColumn_of_mem h]
      constructor
      · rintro (hd | hd)
        · exact .inl hd
        · exact .inr (.inr hd)
      · rintro (hd | rfl | hd)
        · exact .inl hd
        · exact .inl h
        · exact .inr hd
    · rw [addColumn_of_not_mem h]
      simp only [List.mem_append, List.mem_singleton]
      exact or_assoc

/-- A row after a migration. -/
def fill (columns : List C) (adds : List (C × V)) (row : C → V) : C → V := fun c =>
  if c ∈ columns then row c else (adds.lookup c).getD (row c)

/-- **What was there stays**, and what is added has its default. -/
theorem rows_migrate : (migrate adds t).rows = t.rows.map (fill t.columns adds) := by
  induction adds generalizing t with
  | nil =>
    have hfill : fill t.columns ([] : List (C × V)) = id := by
      funext row c
      simp [fill]
    rw [hfill, List.map_id]
    rfl
  | cons add adds ih =>
    obtain ⟨c, v⟩ := add
    rw [migrate_cons, ih]
    by_cases h : c ∈ t.columns
    · rw [addColumn_of_mem h]
      refine List.map_congr_left fun row _ => funext fun d => ?_
      simp only [fill]
      by_cases hd : d ∈ t.columns
      · rw [if_pos hd, if_pos hd]
      · have hne : (d == c) = false := beq_eq_false_iff_ne.mpr fun e => hd (e ▸ h)
        rw [if_neg hd, if_neg hd, List.lookup_cons, hne]
    · rw [addColumn_of_not_mem h, List.map_map]
      refine List.map_congr_left fun row _ => funext fun d => ?_
      simp only [Function.comp_apply, fill, List.mem_append, List.mem_singleton]
      by_cases hd : d = c
      · subst hd
        rw [if_pos (.inr rfl), if_neg h, Function.update_self, List.lookup_cons_self,
          Option.getD_some]
      · have hne : (d == c) = false := beq_eq_false_iff_ne.mpr hd
        rw [Function.update_of_ne hd, List.lookup_cons, hne]
        by_cases hmem : d ∈ t.columns
        · rw [if_pos (.inl hmem), if_pos hmem]
        · rw [if_neg (by simp [hmem, hd]), if_neg hmem]

/-- A migration all of whose columns are there is rejected as a whole. -/
theorem migrate_of_subset (h : ∀ add ∈ adds, add.1 ∈ t.columns) : migrate adds t = t := by
  induction adds with
  | nil => rfl
  | cons add adds ih =>
    obtain ⟨c, v⟩ := add
    rw [migrate_cons, addColumn_of_mem (h (c, v) List.mem_cons_self)]
    exact ih fun add hadd => h add (List.mem_cons_of_mem _ hadd)

/-- **A second run changes nothing.** -/
theorem migrate_migrate : migrate adds (migrate adds t) = migrate adds t :=
  migrate_of_subset fun _ hadd =>
    mem_columns_migrate.mpr (.inr (List.mem_map_of_mem hadd))

end Schema
