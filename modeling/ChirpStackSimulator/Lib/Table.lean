/-
  Tables with a key, as SQL keeps them.

  A table is the list of its rows, oldest first, and `key` reads the primary key of a row.  Two
  operations are needed:

  1. `find` — `SELECT … WHERE key = ?`;
  2. `upsert` — `INSERT … ON CONFLICT(key) DO UPDATE`: a row with the key of the new one is replaced
     by what `merge` makes of the two, and if there is none the new row goes to the end.

  An upsert is looked up as in a map (`find_upsert`; `map_find_upsert` for what is read of a row
  without mixing in the old one), and a listing of the whole table reads each key once
  (`map_eq_find`).

  What a table should hold after a history of writes is the `latest` one for each key.

  A row is a function from columns to values where the statements name columns: `proposed` is the row
  an `INSERT` proposes, `overwrite` what `SET c = excluded.c` makes of an old row.
-/
import Mathlib.Data.List.Nodup
import Mathlib.Logic.Function.Basic

namespace Table

/-! ## Keyed rows -/

section
variable {ρ κ α : Type*} [DecidableEq κ] (key : ρ → κ) (merge : ρ → ρ → ρ)

/-- The row with the key `k`. -/
def find (k : κ) (rows : List ρ) : Option ρ := rows.find? fun row => key row = k

/-- Insert the row, or update the one that has its key. -/
def upsert (new : ρ) : List ρ → List ρ
  | [] => [new]
  | row :: rows => if key row = key new then merge new row :: rows else row :: upsert new rows

@[simp] theorem find_nil (k : κ) : find key k [] = none := rfl

/-- The first row decides, or the rest. -/
theorem find_cons (k : κ) (row : ρ) (rows : List ρ) :
    find key k (row :: rows) = if key row = k then some row else find key k rows := by
  unfold find
  by_cases h : key row = k <;> simp [h]

theorem upsert_cons (new row : ρ) (rows : List ρ) :
    upsert key merge new (row :: rows) =
      if key row = key new then merge new row :: rows else row :: upsert key merge new rows := rfl

variable {key merge}

/-- What is found under a key has it. -/
theorem key_of_find {k : κ} {row : ρ} {rows : List ρ} (h : find key k rows = some row) :
    key row = k := by
  simpa using List.find?_some h

/-- The keys after an upsert. -/
theorem map_key_upsert (hmerge : ∀ new old, key new = key old → key (merge new old) = key old)
    (new : ρ) (rows : List ρ) :
    (upsert key merge new rows).map key =
      if key new ∈ rows.map key then rows.map key else rows.map key ++ [key new] := by
  induction rows with
  | nil => rfl
  | cons row rows ih =>
    by_cases h : key row = key new
    · have hmem : key new ∈ (row :: rows).map key := by
        rw [← h]
        exact List.mem_map_of_mem List.mem_cons_self
      rw [upsert_cons, if_pos h, if_pos hmem, List.map_cons, List.map_cons, hmerge new row h.symm]
    · have hiff : key new ∈ (row :: rows).map key ↔ key new ∈ rows.map key := by
        rw [List.map_cons, List.mem_cons]
        exact or_iff_right (Ne.symm h)
      rw [upsert_cons, if_neg h, List.map_cons, ih]
      by_cases hmem : key new ∈ rows.map key
      · rw [if_pos hmem, if_pos (hiff.mpr hmem), List.map_cons]
      · rw [if_neg hmem, if_neg (mt hiff.mp hmem), List.map_cons, List.cons_append]

/-- An upsert keeps the keys apart. -/
theorem nodup_upsert (hmerge : ∀ new old, key new = key old → key (merge new old) = key old)
    {new : ρ} {rows : List ρ} (h : (rows.map key).Nodup) :
    ((upsert key merge new rows).map key).Nodup := by
  rw [map_key_upsert hmerge]
  split
  · exact h
  · rename_i hnew
    have hone : ∀ k ∈ rows.map key, ∀ k' ∈ [key new], k ≠ k' := by
      intro k hk k' hk' heq
      rw [List.mem_singleton.mp hk'] at heq
      exact hnew (heq ▸ hk)
    exact List.nodup_append.mpr ⟨h, List.nodup_singleton _, hone⟩

/-- **Upserts look up like a map.** -/
theorem find_upsert (hmerge : ∀ new old, key new = key old → key (merge new old) = key old)
    (new : ρ) (rows : List ρ) (k : κ) :
    find key k (upsert key merge new rows) =
      if k = key new then some ((find key k rows).elim new (merge new)) else find key k rows := by
  induction rows with
  | nil =>
    show find key k [new] = _
    rw [find_cons]
    by_cases h : k = key new
    · rw [if_pos h, if_pos h.symm]
      rfl
    · rw [if_neg h, if_neg (Ne.symm h)]
  | cons row rows ih =>
    by_cases hrow : key row = key new
    · rw [upsert_cons, if_pos hrow, find_cons, find_cons, hmerge new row hrow.symm]
      by_cases h : k = key new
      · rw [if_pos h, if_pos (hrow.trans h.symm), if_pos (hrow.trans h.symm)]
        rfl
      · have hk : key row ≠ k := fun e => h (e.symm.trans hrow)
        rw [if_neg h, if_neg hk, if_neg hk]
    · rw [upsert_cons, if_neg hrow, find_cons, find_cons]
      by_cases h : key row = k
      · have hk : k ≠ key new := fun e => hrow (h.trans e)
        rw [if_pos h, if_pos h, if_neg hk]
      · rw [if_neg h, if_neg h, ih]

/-- What is read of a row without mixing in the old one is what was read of the last row put in. -/
theorem map_find_upsert (hmerge : ∀ new old, key new = key old → key (merge new old) = key old)
    {read : ρ → α} (hread : ∀ new old, key new = key old → read (merge new old) = read new)
    (new : ρ) (rows : List ρ) (k : κ) :
    (find key k (upsert key merge new rows)).map read =
      if k = key new then some (read new) else (find key k rows).map read := by
  rw [find_upsert hmerge]
  by_cases h : k = key new
  · rw [if_pos h, if_pos h]
    cases hrow : find key k rows with
    | none => rfl
    | some row => exact congrArg some (hread new row (h.symm.trans (key_of_find hrow).symm))
  · rw [if_neg h, if_neg h]

/-- A listing of the whole table reads every key once. -/
theorem map_eq_find {rows : List ρ} (h : (rows.map key).Nodup) (read : ρ → α) :
    rows.map (fun row => some (read row)) =
      (rows.map key).map fun k => (find key k rows).map read := by
  induction rows with
  | nil => rfl
  | cons row rows ih =>
    obtain ⟨hrow, hrows⟩ := List.nodup_cons.mp h
    rw [List.map_cons, List.map_cons, List.map_cons, find_cons, if_pos rfl, ih hrows,
      Option.map_some]
    congr 1
    refine List.map_congr_left fun k hk => ?_
    have hne : key row ≠ k := fun e => hrow (e ▸ hk)
    rw [find_cons, if_neg hne]

/-- Something is found exactly under the keys there are. -/
theorem find_isSome {rows : List ρ} {k : κ} : (find key k rows).isSome ↔ k ∈ rows.map key := by
  unfold find
  simp [List.find?_isSome]

/-- A row is the one found under its key. -/
theorem find_of_mem {rows : List ρ} (h : (rows.map key).Nodup) {row : ρ} (hrow : row ∈ rows) :
    find key (key row) rows = some row := by
  induction rows with
  | nil => cases hrow
  | cons first rows ih =>
    obtain ⟨hfirst, hrows⟩ := List.nodup_cons.mp h
    rw [find_cons]
    rcases List.mem_cons.mp hrow with rfl | hmem
    · rw [if_pos rfl]
    · have hne : key first ≠ key row := fun e => hfirst (e ▸ List.mem_map_of_mem hmem)
      rw [if_neg hne, ih hrows hmem]

/-- Rows that are changed without their keys are found as before. -/
theorem find_map {f : ρ → ρ} (hf : ∀ row, key (f row) = key row) (k : κ) (rows : List ρ) :
    find key k (rows.map f) = (find key k rows).map f := by
  unfold find
  rw [List.find?_map]
  congr 2
  funext row
  rw [Function.comp_apply, hf]

end

/-! ## Tables with unique keys -/

/-- A table no two rows of which have the same key. -/
structure Keyed {ρ κ : Type*} (key : ρ → κ) where
  rows : List ρ
  nodup : (rows.map key).Nodup

namespace Keyed

variable {ρ κ α : Type*} {key : ρ → κ}

def empty : Keyed key := ⟨[], List.nodup_nil⟩

variable [DecidableEq κ] {merge : ρ → ρ → ρ}
  (hmerge : ∀ new old, key new = key old → key (merge new old) = key old)

/-- `INSERT … ON CONFLICT` on a keyed table. -/
def upsert (table : Keyed key) (new : ρ) : Keyed key :=
  ⟨Table.upsert key merge new table.rows, nodup_upsert hmerge table.nodup⟩

/-- What is read of the row with the key `k`. -/
def read (table : Keyed key) (f : ρ → α) (k : κ) : Option α := (find key k table.rows).map f

/-- **What is read after a write.** -/
theorem read_upsert {f : ρ → α} (hread : ∀ new old, key new = key old → f (merge new old) = f new)
    (table : Keyed key) (new : ρ) (k : κ) :
    (table.upsert hmerge new).read f k = if k = key new then some (f new) else table.read f k :=
  map_find_upsert hmerge hread new table.rows k

end Keyed

/-! ## Histories -/

section
variable {α : Type*}

/-- The last entry of a history that meets `p`. -/
def latest (p : α → Bool) (history : List α) : Option α := (history.filter p).getLast?

@[simp] theorem latest_nil (p : α → Bool) : latest p [] = none := rfl

/-- The latest, one entry later. -/
theorem latest_append (p : α → Bool) (history : List α) (a : α) :
    latest p (history ++ [a]) = if p a then some a else latest p history := by
  unfold latest
  rw [List.filter_append]
  cases h : p a <;> simp [h]

/-- There is none exactly if no entry has the property. -/
theorem latest_eq_none {p : α → Bool} {history : List α} :
    latest p history = none ↔ ∀ a ∈ history, ¬ p a = true := by
  unfold latest
  rw [List.getLast?_eq_none_iff, List.filter_eq_nil_iff]

end

/-! ## Rows with columns -/

section
variable {C V : Type*} [DecidableEq C]

/-- The row an `INSERT` of `values` into `columns` proposes; a column it does not name has its
    default. -/
def proposed (default : C → V) : List C → List V → C → V
  | c :: columns, v :: values => Function.update (proposed default columns values) c v
  | _, _ => default

/-- An `INSERT` that leaves out some of its columns proposes their defaults for them. -/
theorem proposed_filter (default : C → V) (p : C → Bool) (assignments : List (C × V)) (c : C) :
    proposed default ((assignments.filter fun a => p a.1).map Prod.fst)
        ((assignments.filter fun a => p a.1).map Prod.snd) c =
      if p c then proposed default (assignments.map Prod.fst) (assignments.map Prod.snd) c
      else default c := by
  induction assignments with
  | nil => simp [proposed]
  | cons a assignments ih =>
    obtain ⟨d, v⟩ := a
    rw [List.map_cons, List.map_cons, proposed]
    by_cases hd : c = d
    · subst hd
      by_cases hp : p c = true
      · simp only [List.filter_cons, hp, if_true, List.map_cons, proposed, Function.update_self]
      · simp only [List.filter_cons, hp, if_false, ih, Bool.false_eq_true]
    · rw [Function.update_of_ne hd, ← ih]
      by_cases hp : p d = true
      · simp only [List.filter_cons, hp, if_true, List.map_cons, proposed, Function.update_of_ne hd]
      · simp only [List.filter_cons, hp, if_false, Bool.false_eq_true]

/-- `DO UPDATE SET c = excluded.c` for the columns `set`. -/
def overwrite (set : List C) (excluded old : C → V) : C → V :=
  fun c => if c ∈ set then excluded c else old c

/-- A `SELECT` of columns that are all overwritten sees nothing of the old row. -/
theorem map_overwrite {columns set : List C} (h : columns ⊆ set) (excluded old : C → V) :
    columns.map (overwrite set excluded old) = columns.map excluded :=
  List.map_congr_left fun _ hc => if_pos (h hc)

end

end Table
