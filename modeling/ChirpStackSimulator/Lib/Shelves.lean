/-
  Shelves of named entities.

  A store is a list of entities; each stands on a shelf and has an identifier and a name.  Nothing
  keeps two entities of a shelf from having one name.  Who looks for a name reads a page of the
  shelf, and creates an entity of the name when the page has none.  That is safe only as long as the
  page shows every wanted name that is there.

  1. **Shelves and pages** - a page is the begin of a shelf in some order (`Page`), and the whole of
     it if the shelf fits (`Page.perm`).
  2. **Fitting** - wanted names occur at most once, and the shelf has room on a page for those that
     are missing (`Fits`).  To create a missing name keeps that (`Fits.create`); so does whatever
     happens on other shelves (`shelf_append_ne`).
-/
import Mathlib.Data.List.Basic
import Mathlib.Data.List.Nodup

namespace Shelves

variable {κ ι ν : Type}

/-! ## Shelves and pages -/

/-- A named thing on a shelf, with its id. -/
structure Entity (κ ι ν : Type) where
  shelf : κ
  id : ι
  name : ν
  deriving DecidableEq, Repr

section
variable [DecidableEq κ]

/-- The entities of a shelf. -/
def shelf (s : List (Entity κ ι ν)) (k : κ) : List (Entity κ ι ν) := s.filter fun e => e.shelf = k

/-- What stands on a shelf. -/
theorem mem_shelf {s : List (Entity κ ι ν)} {k : κ} {e : Entity κ ι ν} :
    e ∈ shelf s k ↔ e ∈ s ∧ e.shelf = k := by
  simp [shelf]

/-- Another shelf is as before. -/
theorem shelf_append_ne (s : List (Entity κ ι ν)) {k : κ} {e : Entity κ ι ν} (h : e.shelf ≠ k) :
    shelf (s ++ [e]) k = shelf s k := by
  simp [shelf, List.filter_append, h]

/-- Its own shelf has one more. -/
theorem shelf_append_self (s : List (Entity κ ι ν)) (e : Entity κ ι ν) :
    shelf (s ++ [e]) e.shelf = shelf s e.shelf ++ [e] := by
  simp [shelf, List.filter_append]

end

/-- An entity of the shelf has the name. -/
def Has (s : List (Entity κ ι ν)) (k : κ) (n : ν) : Prop := ∃ e ∈ s, e.shelf = k ∧ e.name = n

/-- What was there stays. -/
theorem Has.append {s : List (Entity κ ι ν)} {k : κ} {n : ν} (h : Has s k n) (e : Entity κ ι ν) :
    Has (s ++ [e]) k n := by
  obtain ⟨d, hd, hk, hn⟩ := h
  exact ⟨d, List.mem_append_left _ hd, hk, hn⟩

theorem has_append_iff {s : List (Entity κ ι ν)} {k : κ} {n : ν} {e : Entity κ ι ν}
    (h : ¬ (e.shelf = k ∧ e.name = n)) : Has (s ++ [e]) k n ↔ Has s k n := by
  constructor
  · rintro ⟨d, hd, hk, hn⟩
    rcases List.mem_append.mp hd with hd | hd
    · exact ⟨d, hd, hk, hn⟩
    · rw [List.mem_singleton.mp hd] at hk hn
      exact absurd ⟨hk, hn⟩ h
  · exact fun h => h.append e

/-- The first entities of the list, in some order. -/
def Page {α : Type} (limit : Nat) (l page : List α) : Prop :=
  ∃ l' : List α, l'.Perm l ∧ page = l'.take limit

/-- A page of what fits on it is all. -/
theorem Page.perm {α : Type} {limit : Nat} {l page : List α} (h : Page limit l page)
    (hfits : l.length ≤ limit) : page.Perm l := by
  obtain ⟨l', hperm, rfl⟩ := h
  rw [List.take_of_length_le (hperm.length_eq ▸ hfits)]
  exact hperm

/-! ## Fitting -/

variable [DecidableEq ν]

/-- How many entities of the list have the name. -/
def count (l : List (Entity κ ι ν)) (n : ν) : Nat := l.countP fun e => e.name = n

/-- A name does not occur exactly if nothing has it. -/
theorem count_eq_zero {l : List (Entity κ ι ν)} {n : ν} : count l n = 0 ↔ ∀ e ∈ l, e.name ≠ n := by
  simp [count]

/-- How many of the names no entity of the list has. -/
def missing (ns : List ν) (l : List (Entity κ ι ν)) : Nat := ns.countP fun n => count l n = 0

/-- The names occur at most once, and with those that are missing the list is not longer than a page. -/
structure Fits (limit : Nat) (ns : List ν) (l : List (Entity κ ι ν)) : Prop where
  unique : ∀ n ∈ ns, count l n ≤ 1
  room : l.length + missing ns l ≤ limit

/-- What fits is no longer than the page. -/
theorem Fits.length_le {limit : Nat} {ns : List ν} {l : List (Entity κ ι ν)} (h : Fits limit ns l) :
    l.length ≤ limit :=
  Nat.le_trans (Nat.le_add_right _ _) h.room

/-- An empty shelf has room for the names if a page has. -/
theorem fits_nil {limit : Nat} {ns : List ν} (h : ns.length ≤ limit) :
    Fits limit ns ([] : List (Entity κ ι ν)) where
  unique := fun _ _ => Nat.zero_le _
  room := by
    show 0 + _ ≤ limit
    rw [Nat.zero_add]
    exact Nat.le_trans List.countP_le_length h

/-- A missing name is created: it is missing no longer. -/
theorem missing_create {ns : List ν} (hns : ns.Nodup) {l : List (Entity κ ι ν)} {e : Entity κ ι ν}
    (hn : e.name ∈ ns) (hnone : count l e.name = 0) :
    missing ns (l ++ [e]) + 1 = missing ns l := by
  have hcount : ∀ n, count (l ++ [e]) n = count l n + if e.name = n then 1 else 0 := by
    intro n
    unfold count
    rw [List.countP_append, List.countP_singleton]
    simp
  obtain ⟨as, bs, rfl⟩ := List.append_of_mem hn
  have hne : ∀ n ∈ as ++ bs, e.name ≠ n := by
    rintro n hmem rfl
    exact (List.nodup_middle.mp hns).notMem hmem
  have hsame : ∀ cs : List ν, (∀ n ∈ cs, n ∈ as ++ bs) →
      missing cs (l ++ [e]) = missing cs l := by
    intro cs hcs
    refine List.countP_congr fun n hmem => ?_
    rw [hcount, if_neg (hne n (hcs n hmem)), Nat.add_zero]
  have has : missing as (l ++ [e]) = missing as l :=
    hsame as fun n hmem => List.mem_append_left _ hmem
  have hbs : missing bs (l ++ [e]) = missing bs l :=
    hsame bs fun n hmem => List.mem_append_right _ hmem
  have hself : count (l ++ [e]) e.name ≠ 0 := by
    rw [hcount, if_pos rfl]
    omega
  unfold missing at has hbs ⊢
  rw [List.countP_append, List.countP_append, List.countP_cons, List.countP_cons, has, hbs,
    if_neg (by simpa using hself), if_pos (by simpa using hnone)]
  omega

/-- **Creating.**  A wanted name that is missing may be created. -/
theorem Fits.create {limit : Nat} {ns : List ν} (hns : ns.Nodup) {l : List (Entity κ ι ν)}
    {e : Entity κ ι ν} (h : Fits limit ns l) (hn : e.name ∈ ns) (hnone : count l e.name = 0) :
    Fits limit ns (l ++ [e]) where
  unique := by
    intro n hmem
    have hle := h.unique n hmem
    unfold count at hle hnone ⊢
    rw [List.countP_append, List.countP_singleton]
    by_cases heq : e.name = n
    · subst heq
      rw [hnone]
      simp
    · simpa [heq] using hle
  room := by
    have hroom := h.room
    have hmissing := missing_create hns hn hnone
    rw [List.length_append, List.length_singleton]
    omega

/-- Names that occur at most once name one entity. -/
theorem eq_of_count_le_one {l : List (Entity κ ι ν)} {n : ν} (h : count l n ≤ 1) {d e : Entity κ ι ν}
    (hd : d ∈ l) (he : e ∈ l) (hdn : d.name = n) (hen : e.name = n) : d = e := by
  have hfilter : (l.filter fun e => e.name = n).length ≤ 1 := by
    rw [← List.countP_eq_length_filter]
    exact h
  have hd' : d ∈ l.filter fun e => e.name = n := List.mem_filter.mpr ⟨hd, by simpa using hdn⟩
  have he' : e ∈ l.filter fun e => e.name = n := List.mem_filter.mpr ⟨he, by simpa using hen⟩
  obtain ⟨i, hi, hid⟩ := List.getElem_of_mem hd'
  obtain ⟨j, hj, hje⟩ := List.getElem_of_mem he'
  have hij : i = j := by omega
  subst hij
  exact hid.symm.trans hje

end Shelves
