/-
  Pages of a list: what a server returns for an offset and a limit.

  1. **A page** - its length, when it is empty, and two pages one behind the other (`page_add`).
  2. **All pages** - those at the multiples of the limit are the list (`flatten_pages`).
  3. **A pager** - the pages a table offers, of which there is at least one, and when a page is one of
     them (`le_totalPages_iff`); it then shows something, if there is anything (`page_ne_nil`).
  4. **A window of pages** - the pages near the current one, as many as fit: some before it, and those
     after it up to the width of the window, which is moved back from the last page (`window_spec`).
  5. **Two pages of a list without repetitions** (`page_eq_iff`) - they are the same exactly if both are
     empty, or they begin and end at the same places.
-/
import Mathlib.Data.List.Chain
import Mathlib.Data.List.Nodup

namespace Pages

variable {α : Type}

/-! ## A page -/

def page (xs : List α) (offset limit : Nat) : List α := (xs.drop offset).take limit

variable {xs : List α} {o o' n n' : Nat}

theorem length_page : (page xs o n).length = min n (xs.length - o) := by
  rw [page, List.length_take, List.length_drop]

theorem page_eq_nil_iff : page xs o n = [] ↔ n = 0 ∨ xs.length ≤ o := by
  rw [← List.length_eq_zero_iff, length_page]
  omega

/-- A page that is long enough shows everything. -/
theorem page_all (h : xs.length ≤ n) : page xs 0 n = xs := by
  rw [page, List.drop_zero, List.take_of_length_le h]

/-- A page may be cut in two. -/
theorem page_add : page xs o (n + n') = page xs o n ++ page xs (o + n) n' := by
  unfold page
  rw [List.take_add, List.drop_drop]

/-- A page of images. -/
theorem page_map {β : Type} (f : α → β) : (page xs o n).map f = page (xs.map f) o n := by
  unfold page
  rw [List.map_take, List.map_drop]

/-- Only what is there counts. -/
theorem page_min : page xs (min o xs.length) n = page xs o n := by
  unfold page
  rcases Nat.le_total o xs.length with h | h
  · rw [Nat.min_eq_left h]
  · rw [Nat.min_eq_right h, List.drop_length, List.drop_of_length_le h]

theorem page_limit_min (h : o ≤ xs.length) : page xs o (min (o + n) xs.length - o) = page xs o n := by
  unfold page
  rcases Nat.le_total (o + n) xs.length with hle | hle
  · rw [Nat.min_eq_left hle, Nat.add_sub_cancel_left]
  · have hlength : (xs.drop o).length = xs.length - o := List.length_drop
    rw [Nat.min_eq_right hle, ← hlength, List.take_length, List.take_of_length_le]
    omega

/-! ## All pages -/

/-- How many pages there are. -/
def pageCount (length limit : Nat) : Nat := (length + limit - 1) / limit

/-- So many pages show everything. -/
theorem le_pageCount_mul (hn : 0 < n) (length : Nat) : length ≤ pageCount length n * n := by
  have hdiv := Nat.div_add_mod (length + n - 1) n
  have hmod := Nat.mod_lt (length + n - 1) hn
  unfold pageCount
  rw [Nat.mul_comm]
  omega

/-- A page is needed exactly if something is left for it. -/
theorem lt_pageCount_iff (hn : 0 < n) {length k : Nat} : k < pageCount length n ↔ k * n < length := by
  unfold pageCount
  rw [← Nat.succ_le_iff, Nat.le_div_iff_mul_le hn, Nat.succ_mul]
  omega

/-- The pages one after the other are the list. -/
theorem flatMap_pages (m : Nat) :
    (List.range m).flatMap (fun k => page xs (k * n) n) = page xs 0 (m * n) := by
  induction m with
  | zero =>
    rw [Nat.zero_mul]
    rfl
  | succ m ih =>
    rw [List.range_succ, List.flatMap_append, ih, Nat.succ_mul, page_add, Nat.zero_add]
    simp

/-- The pages are the list, nothing lost or repeated. -/
theorem flatten_pages (hn : 0 < n) :
    (List.range (pageCount xs.length n)).flatMap (fun k => page xs (k * n) n) = xs := by
  rw [flatMap_pages]
  exact page_all (le_pageCount_mul hn _)

/-! ## A pager -/

/-- How many pages a table offers. -/
def totalPages (length limit : Nat) : Nat := max 1 (pageCount length limit)

theorem one_le_totalPages (length limit : Nat) : 1 ≤ totalPages length limit := Nat.le_max_left 1 _

/-- A page is there if it is the first, or something is left for it. -/
theorem le_totalPages_iff (hn : 0 < n) {p length : Nat} (hp : 1 ≤ p) :
    p ≤ totalPages length n ↔ p = 1 ∨ (p - 1) * n < length := by
  rw [← lt_pageCount_iff hn, totalPages]
  omega

/-- A page that is offered is not empty, unless there is nothing to show. -/
theorem page_ne_nil (hn : 0 < n) {p : Nat} (hp : 1 ≤ p) (hle : p ≤ totalPages xs.length n)
    (hxs : xs ≠ []) : page xs ((p - 1) * n) n ≠ [] := by
  have hlength : 0 < xs.length := List.length_pos_iff.mpr hxs
  rw [ne_eq, page_eq_nil_iff]
  rcases (le_totalPages_iff hn hp).mp hle with rfl | hlt
  · rw [Nat.sub_self, Nat.zero_mul]
    omega
  · omega

/-! ## A window of pages -/

/-- The numbers that a loop runs through. -/
def through (p last : Int) : List Int :=
  if p ≤ last then p :: through (p + 1) last else []
termination_by (last + 1 - p).toNat
decreasing_by omega

/-- The numbers from `p` to `last`. -/
theorem mem_through {p last q : Int} : q ∈ through p last ↔ p ≤ q ∧ q ≤ last := by
  fun_induction through p last with
  | case1 p hle ih =>
    rw [List.mem_cons, ih]
    omega
  | case2 p hgt =>
    rw [List.mem_nil_iff, false_iff]
    omega

theorem length_through (p last : Int) : (through p last).length = (last + 1 - p).toNat := by
  fun_induction through p last with
  | case1 p hle ih =>
    rw [List.length_cons, ih]
    omega
  | case2 p hgt =>
    rw [List.length_nil]
    omega

theorem isChain_through (p last : Int) : (through p last).IsChain fun p q => q = p + 1 := by
  fun_induction through p last with
  | case1 p hle ih =>
    refine List.IsChain.cons ih fun q hq => ?_
    unfold through at hq
    split at hq
    · exact (Option.some.inj hq).symm
    · cases hq
  | case2 p hgt => exact List.IsChain.nil

/-- The first and the last page of a window: `back` pages before the current one, and `reach` pages
    after the first. -/
def window (back reach total current : Int) : Int × Int :=
  let first := max 1 (current - back)
  let last := min total (first + reach)
  (if last - first < reach then max 1 (last - reach) else first, last)

/-- The window from `first` to `last` is right for the current page. -/
structure Window (reach total current first last : Int) : Prop where
  one_le_first : 1 ≤ first
  first_le : first ≤ current
  le_last : current ≤ last
  last_le : last ≤ total
  size : last + 1 - first = min (reach + 1) total

/-- Both ends together leave as many pages as fit. -/
theorem window_spec {back reach total current : Int} (hback : 0 ≤ back) (hreach : back ≤ reach)
    (hone : 1 ≤ current) (hle : current ≤ total) :
    Window reach total current (window back reach total current).1
      (window back reach total current).2 := by
  unfold window
  dsimp only
  constructor <;> omega

/-! ## Two pages -/

/-- Pages of distinct items are equal only at the same place. -/
theorem page_eq_iff (h : xs.Nodup) : page xs o n = page xs o' n' ↔
    (page xs o n = [] ∧ page xs o' n' = []) ∨
      (o = o' ∧ min (o + n) xs.length = min (o + n') xs.length) := by
  constructor
  · intro heq
    by_cases hnil : page xs o n = []
    · exact Or.inl ⟨hnil, heq ▸ hnil⟩
    · have hnil' : ¬ page xs o' n' = [] := heq ▸ hnil
      rw [page_eq_nil_iff] at hnil hnil'
      have hlength := congrArg List.length heq
      rw [length_page, length_page] at hlength
      -- the first elements are the same
      have hhead := congrArg (fun l => l[0]?) heq
      simp only [page, List.getElem?_take, List.getElem?_drop] at hhead
      rw [if_pos (by omega), if_pos (by omega), Nat.add_zero, Nat.add_zero,
        List.getElem?_eq_getElem (by omega), List.getElem?_eq_getElem (by omega)] at hhead
      have ho : o = o' := (h.getElem_inj_iff).mp (Option.some.inj hhead)
      refine Or.inr ⟨ho, ?_⟩
      omega
  · rintro (⟨hnil, hnil'⟩ | ⟨rfl, hend⟩)
    · rw [hnil, hnil']
    · rcases Nat.le_total o xs.length with hle | hle
      · rw [← page_limit_min hle, hend, page_limit_min hle]
      · rw [page_eq_nil_iff.mpr (Or.inr hle), page_eq_nil_iff.mpr (Or.inr hle)]

end Pages
