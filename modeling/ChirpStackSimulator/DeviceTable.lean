/-
  The device table of the browser (`tabs/device-list.js`).

  The page, the page size, the search text and the tenant filter are the query of the table.  Every
  operation changes a part of the query and, but for sorting, fetches the page again; a fetch asks
  for the page and, once that is answered, for all devices, and what an answer brings is shown
  whichever query it was for.

  1. **Steps** - an operation of the user, a fetch of another tab, or the next answer of an outstanding
     fetch, in any order.  The server is a function from queries to answers.
  2. **The invariant** - the table shows the answer for the current query, or an outstanding fetch
     will bring it (`Settled`).  Two kinds of steps break it: sorting on another page than the first,
     which goes back to page one without a fetch, and an answer for an old query after the one for
     the current query.
  3. **Coherence** - along a run without such steps the table is right whenever nothing is
     outstanding (`table_coherent`).
-/
import ChirpStackSimulator.Lib.Objects
import ChirpStackSimulator.Lib.Run

namespace ChirpStackSimulator.DeviceTable

open Transition

/-! ## Queries and answers -/

/-- The parameters of `GET /api/devices`; no tenant is the empty text. -/
structure Query where
  limit : Nat
  offset : Nat
  search : String
  tenantID : String
  deriving DecidableEq, Repr

/-- What the server answers, or that the request failed. -/
inductive Answer (δ : Type)
  | devices (rows : List δ) (count : Nat)
  | failed (error : String)
  deriving DecidableEq, Repr

variable {δ : Type}

/-- The rows and the count that the browser takes from an answer. -/
def Answer.shown : Answer δ → List δ × Nat
  | .devices rows count => (rows, count)
  | .failed _ => ([], 0)

/-! ## The state of the table -/

/-- Which of its two answers a fetch is waiting for. -/
inductive Stage
  | page
  | all
  deriving DecidableEq, Repr

/-- A call of `fetchDevices` that has not returned. -/
structure Fetch where
  query : Query
  stage : Stage
  deriving DecidableEq, Repr

inductive Direction
  | asc
  | desc
  deriving DecidableEq, Repr

/-- The part of `state` that the device table has, and the outstanding fetches. -/
structure State (δ : Type) where
  devPage : Nat
  devPageSize : Nat
  devSearchQuery : String
  devTenantFilter : String
  devSort : String × Direction
  devList : List δ
  devTotalCount : Nat
  allDevices : List δ
  outstanding : List Fetch
  deriving DecidableEq, Repr

namespace State

/-- `state.devPageSize || 5`. -/
def limit (s : State δ) : Nat := if s.devPageSize = 0 then 5 else s.devPageSize

/-- The query of `fetchDevices`, with its argument for the tenant. -/
def query (s : State δ) (tenantID : String) : Query :=
  ⟨s.limit, ((if s.devPage = 0 then 1 else s.devPage) - 1) * s.limit, s.devSearchQuery, tenantID⟩

/-- The current page, page size, search text and tenant filter. -/
def current (s : State δ) : Query := s.query s.devTenantFilter

/-- `fetchDevices` up to its first answer. -/
def fetchDevices (s : State δ) (tenantID : String) : State δ :=
  { s with outstanding := s.outstanding ++ [⟨s.query tenantID, .page⟩] }

/-- The number of pages that `goToDevPage` sees. -/
def totalPages (s : State δ) : Nat :=
  max 1 ((s.devTotalCount + s.devPageSize - 1) / s.devPageSize)

end State

/-! ## The operations -/

def goToDevPage (n : Int) (s : State δ) : State δ :=
  if n < 1 ∨ (s.totalPages : Int) < n then s
  else
    let s := { s with devPage := n.toNat }
    s.fetchDevices s.devTenantFilter

/-- Sorting shows the rows there are in another order; the page goes back to the first, and nothing
    is fetched. -/
def sortDevBy (key : String) (s : State δ) : State δ :=
  { s with
    devSort :=
      if s.devSort.1 = key then (key, if s.devSort.2 = .asc then .desc else .asc) else (key, .asc)
    devPage := 1 }

def searchDev (q : String) (s : State δ) : State δ :=
  let s := { s with devSearchQuery := q, devPage := 1 }
  s.fetchDevices s.devTenantFilter

def changeDevPageSize (n : Nat) (s : State δ) : State δ :=
  let s := { s with devPageSize := if n = 0 then 5 else n, devPage := 1 }
  s.fetchDevices s.devTenantFilter

/-- The listener of the tenant select. -/
def selectTenant (tenantID : String) (s : State δ) : State δ :=
  let s := { s with devTenantFilter := tenantID, devPage := 1 }
  s.fetchDevices tenantID

/-- The listener of the refresh button, and the tab of the table when it is shown. -/
def refresh (s : State δ) : State δ := s.fetchDevices s.devTenantFilter

/-- What the live map, the status tab, the settings and the bootstrap wizard fetch, whatever the
    tenant filter is. -/
def fetchEverywhere (s : State δ) : State δ := s.fetchDevices ""

/-- The next answer of the `i`-th outstanding fetch. -/
def answer (server : Query → Answer δ) (i : Nat) (s : State δ) : Option (State δ) :=
  match s.outstanding[i]? with
  | none => none
  | some fetch =>
    match fetch.stage with
    | .page =>
      let (rows, count) := (server fetch.query).shown
      some { s with
        devList := rows
        devTotalCount := count
        outstanding := s.outstanding.set i { fetch with stage := .all } }
    | .all =>
      some { s with
        allDevices := (server ⟨5000, 0, "", fetch.query.tenantID⟩).shown.1
        outstanding := s.outstanding.eraseIdx i }

inductive Label
  | goToDevPage (n : Int)
  | sortDevBy (key : String)
  | searchDev (q : String)
  | changeDevPageSize (n : Nat)
  | selectTenant (tenantID : String)
  | refresh
  | fetchEverywhere
  | answer (i : Nat)
  deriving DecidableEq, Repr

def step (server : Query → Answer δ) (s : State δ) : Label → Option (State δ)
  | .goToDevPage n => some (goToDevPage n s)
  | .sortDevBy key => some (sortDevBy key s)
  | .searchDev q => some (searchDev q s)
  | .changeDevPageSize n => some (changeDevPageSize n s)
  | .selectTenant tenantID => some (selectTenant tenantID s)
  | .refresh => some (refresh s)
  | .fetchEverywhere => some (fetchEverywhere s)
  | .answer i => answer server i s

/-- The page is loaded: `fetchDevices("")` is under way. -/
def init : State δ :=
  State.fetchDevices ⟨1, 5, "", "", ("name", .asc), [], 0, [], []⟩ ""

/-! ## Coherence -/

/-- When nothing is outstanding, the table is the server's answer for the current query. -/
def Coherent (server : Query → Answer δ) (s : State δ) : Prop :=
  s.outstanding = [] → (s.devList, s.devTotalCount) = (server s.current).shown

/-- An outstanding fetch will bring the page of the current query. -/
def Coming (s : State δ) : Prop :=
  ∃ fetch ∈ s.outstanding, fetch.stage = .page ∧ fetch.query = s.current

/-- The invariant: the table is right, or it will be. -/
def Settled (server : Query → Answer δ) (s : State δ) : Prop :=
  (s.devList, s.devTotalCount) = (server s.current).shown ∨ Coming s

/-- The steps that keep it: sorting on the first page; and an answer for the current query, or for
    another one while the fetch of the current query is still waiting for its page. -/
def Clean (s : State δ) : Label → Prop
  | .sortDevBy _ => s.devPage = 1
  | .answer i => ∀ fetch ∈ s.outstanding[i]?, fetch.stage = .page →
      fetch.query = s.current ∨
        ∃ other ∈ s.outstanding.eraseIdx i, other.stage = .page ∧ other.query = s.current
  | _ => True

instance (s : State δ) (a : Label) : Decidable (Clean s a) := by
  cases a <;> unfold Clean <;> infer_instance

/-- A fetch for the current tenant filter is one for the current query. -/
theorem coming_fetchDevices (s : State δ) : Coming (s.fetchDevices s.devTenantFilter) := by
  refine ⟨⟨s.current, .page⟩, ?_, rfl, rfl⟩
  show _ ∈ s.outstanding ++ [_]
  exact List.mem_append_right _ (List.mem_singleton.mpr rfl)

theorem Settled.coherent {server : Query → Answer δ} {s : State δ} (h : Settled server s) :
    Coherent server s := by
  intro hnone
  rcases h with hshown | ⟨fetch, hfetch, -, -⟩
  · exact hshown
  · rw [hnone] at hfetch
    exact absurd hfetch List.not_mem_nil

/-- A fetch that waits is not the one that is answered. -/
theorem settled_answer {server : Query → Answer δ} {s t : State δ} {i : Nat}
    (h : Settled server s) (hclean : Clean s (.answer i)) (hstep : answer server i s = some t) :
    Settled server t := by
  unfold answer at hstep
  split at hstep
  · cases hstep
  · next fetch hi =>
    split at hstep
    · next hstage =>
      cases hstep
      rcases hclean fetch hi hstage with hcurrent | ⟨other, hother, hpage, hquery⟩
      · left
        show (server fetch.query).shown = (server s.current).shown
        rw [hcurrent]
      · right
        obtain ⟨j, hji, hj⟩ := List.mem_eraseIdx_iff_getElem?.mp hother
        exact ⟨other, List.mem_of_getElem? (Objects.set_kept hji hj), hpage, hquery⟩
    · next hstage =>
      cases hstep
      rcases h with hshown | ⟨other, hother, hpage, hquery⟩
      · exact Or.inl hshown
      · right
        obtain ⟨j, hj⟩ := List.mem_iff_getElem?.mp hother
        have hji : j ≠ i := by
          rintro rfl
          rw [hi] at hj
          cases hj
          rw [hstage] at hpage
          cases hpage
        exact ⟨other, List.mem_eraseIdx_iff_getElem?.mpr ⟨j, hji, hj⟩, hpage, hquery⟩

/-- **One step.**  A clean step keeps the invariant. -/
theorem settled_step {server : Query → Answer δ} {s t : State δ} {a : Label}
    (h : Settled server s) (hclean : Clean s a) (hstep : step server s a = some t) :
    Settled server t := by
  cases a with
  | goToDevPage n =>
    cases hstep
    unfold goToDevPage
    split
    · exact h
    · exact Or.inr (coming_fetchDevices _)
  | sortDevBy key =>
    cases hstep
    have hpage : s.devPage = 1 := hclean
    have hcurrent : (sortDevBy key s).current = s.current := by
      show Query.mk _ _ _ _ = Query.mk _ _ _ _
      rw [hpage]
      rfl
    unfold Settled Coming
    rw [hcurrent]
    exact h
  | searchDev q =>
    cases hstep
    exact Or.inr (coming_fetchDevices _)
  | changeDevPageSize n =>
    cases hstep
    exact Or.inr (coming_fetchDevices _)
  | selectTenant tenantID =>
    cases hstep
    exact Or.inr (coming_fetchDevices { s with devTenantFilter := tenantID, devPage := 1 })
  | refresh =>
    cases hstep
    exact Or.inr (coming_fetchDevices s)
  | fetchEverywhere =>
    cases hstep
    rcases h with hshown | ⟨fetch, hfetch, hpage, hquery⟩
    · exact Or.inl hshown
    · exact Or.inr ⟨fetch, List.mem_append_left _ hfetch, hpage, hquery⟩
  | answer i => exact settled_answer h hclean hstep

theorem settled_init (server : Query → Answer δ) : Settled server init :=
  Or.inr (coming_fetchDevices _)

/-- **Device table coherence.**  Along a run in which the table is sorted on its first page only, and
    no answer for an old query comes after the one for the current query, the table is the server's
    answer for the current query whenever nothing is outstanding. -/
theorem table_coherent (server : Query → Answer δ) {labels : List Label}
    (hclean : Always (step server) Clean init labels) :
    Throughout (step server) (Coherent server) init labels := by
  have hrun : ∀ {labels : List Label} {s : State δ}, Settled server s →
      Always (step server) Clean s labels → Throughout (step server) (Coherent server) s labels := by
    intro labels
    induction labels with
    | nil => exact fun h _ => h.coherent
    | cons a labels ih =>
      intro s h hclean
      exact ⟨h.coherent, fun t ht => ih (settled_step h hclean.1 ht) (hclean.2 t ht)⟩
  exact hrun (settled_init server) hclean

/-- The page is loaded, and searched for "a" and then for "ab". -/
def searched : List Label :=
  [.answer 0, .answer 0, .searchDev "a", .searchDev "ab"]

/-- A server that answers a search with its text. -/
def echo (q : Query) : Answer String := .devices [q.search] 1

/-- The answers come in the order of the searches. -/
theorem table_coherent_inOrder :
    (exec (step echo) init (searched ++ [.answer 0, .answer 1, .answer 0, .answer 0])).isSome ∧
      Throughout (step echo) (Coherent echo) init
        (searched ++ [.answer 0, .answer 1, .answer 0, .answer 0]) :=
  ⟨by decide, table_coherent echo (by decide)⟩

/-- The page for "ab" comes before the page for "a", and the table stays with "a". -/
theorem late_answer_not_coherent :
    ¬ Throughout (step echo) (Coherent echo) init
      (searched ++ [.answer 1, .answer 0, .answer 0, .answer 0]) := by
  intro h
  have hrun : exec (step echo) init (searched ++ [.answer 1, .answer 0, .answer 0, .answer 0]) =
      some ⟨1, 5, "ab", "", ("name", .asc), ["a"], 1, [""], []⟩ := by decide
  have hlast := h.last hrun rfl
  exact absurd hlast (by decide)

end ChirpStackSimulator.DeviceTable
