/-
  The pages of the organisation, gateway and device tables (`orgs.js`, `gateways.js` and
  `device-list.js`).

  The first two tables are filtered, sorted and cut into pages in the browser, each by its own copy of
  the same code.  The third shows the page that the server cuts.  Searching, filtering, sorting and a
  new page size go back to the first page, and a page click looks at how many pages there are.  A
  fetch does neither, though what it brings may be shorter than what was there, as after a deletion.

  1. **Tables of the browser** - `Table` is the state, `Action` what can happen to it.  The step lemma
     (`inRange_run`) says that only a fetch leads out of range, and when.

  2. **Organisations and gateways** give the filter, the comparison and the events.

  3. **Devices** - the state and the steps of `DeviceTable`, with a server whose list may change.

  4. **The law** (`pages_inRange_iff`): the page shown is one of those offered, and shows a row if there
     is one, in every state of a run exactly if every list that is fetched reaches the page it is shown on.
-/
import ChirpStackSimulator.DeviceTable
import ChirpStackSimulator.Lib.Pages
import Mathlib.Data.List.Infix
import Mathlib.Data.List.Sort

namespace ChirpStackSimulator.TablePages

open Transition Pages
open DeviceTable (Direction)

/-! ## Tables of the browser -/

/-- The part of `state` that a table has, and what its comparison reads of the other tables. -/
structure Table (ρ φ γ : Type) where
  list : List ρ
  filter : φ
  sort : String × Direction
  page : Nat
  pageSize : Nat
  filtered : List ρ
  others : γ

/-- What is different from table to table. -/
structure Code (ρ φ γ : Type) where
  keeps : φ → ρ → Bool
  compare : γ → String × Direction → ρ → ρ → Int

/-- What happens to a table: an operation of the user, an answer with a list, or another reason to
    render it. -/
inductive Action (ρ φ γ : Type)
  | filter (f : φ)
  | changePageSize (n : Nat)
  | goToPage (n : Int)
  | sortBy (key : String)
  | load (list : List ρ)
  | render (others : γ)
  | nothing

variable {ρ φ γ : Type}

namespace Table

/-- The rows that are left to show. -/
def matching (code : Code ρ φ γ) (t : Table ρ φ γ) : List ρ := t.list.filter (code.keeps t.filter)

/-- `applyFiltersAndRender`; `sort` is stable. -/
def applyFiltersAndRender (code : Code ρ φ γ) (t : Table ρ φ γ) : Table ρ φ γ :=
  { t with
    filtered := (t.matching code).insertionSort fun a b => code.compare t.others t.sort a b ≤ 0 }

/-- `pageItems` of `renderTable`. -/
def pageItems (t : Table ρ φ γ) : List ρ :=
  let start := (t.page - 1) * t.pageSize
  let stop := min (start + t.pageSize) t.filtered.length
  (t.filtered.drop start).take (stop - start)

/-- What an action does to the table; each ends in a rendering, or changes nothing. -/
def run (code : Code ρ φ γ) (t : Table ρ φ γ) : Action ρ φ γ → Table ρ φ γ
  | .filter f => { t with filter := f, page := 1 }.applyFiltersAndRender code
  | .changePageSize n =>
    { t with pageSize := if n = 0 then 5 else n, page := 1 }.applyFiltersAndRender code
  | .goToPage n =>
    -- the number of pages is that of the last rendering
    if n < 1 ∨ (totalPages t.filtered.length t.pageSize : Int) < n then t
    else { t with page := n.toNat }.applyFiltersAndRender code
  | .sortBy key =>
    { t with
      sort :=
        if t.sort.1 = key then (key, if t.sort.2 = Direction.asc then Direction.desc else .asc)
        else (key, .asc)
      page := 1 }.applyFiltersAndRender code
  | .load list => { t with list := list }.applyFiltersAndRender code
  | .render others => { t with others := others }.applyFiltersAndRender code
  | .nothing => t

/-- The page is one of those offered, and shows a row if there is one to show. -/
def InRange (t : Table ρ φ γ) : Prop :=
  1 ≤ t.page ∧ t.page ≤ totalPages t.filtered.length t.pageSize ∧
    (t.filtered ≠ [] → t.pageItems ≠ [])

/-- What was rendered is what there is, as far as its length goes. -/
structure Synced (code : Code ρ φ γ) (t : Table ρ φ γ) : Prop where
  length_eq : t.filtered.length = (t.matching code).length
  page_pos : 1 ≤ t.page
  pageSize_pos : 0 < t.pageSize

/-- The list has a row for the page that is shown. -/
def Reaches (code : Code ρ φ γ) (t : Table ρ φ γ) (list : List ρ) : Prop :=
  t.page = 1 ∨ (t.page - 1) * t.pageSize < (list.filter (code.keeps t.filter)).length

instance (code : Code ρ φ γ) (t : Table ρ φ γ) (list : List ρ) : Decidable (t.Reaches code list) := by
  unfold Reaches
  infer_instance

variable {code : Code ρ φ γ} {t : Table ρ φ γ}

/-- Sorting loses no row. -/
theorem length_filtered (t : Table ρ φ γ) :
    (t.applyFiltersAndRender code).filtered.length = (t.matching code).length :=
  List.length_insertionSort _ _

/-- The rows of a page, as a page of the list. -/
theorem pageItems_eq (h : (t.page - 1) * t.pageSize ≤ t.filtered.length) :
    t.pageItems = Pages.page t.filtered ((t.page - 1) * t.pageSize) t.pageSize :=
  page_limit_min h

/-- Only the number of the page matters. -/
theorem Synced.inRange_iff (h : t.Synced code) :
    t.InRange ↔ t.page = 1 ∨ (t.page - 1) * t.pageSize < (t.matching code).length := by
  rw [← h.length_eq, ← le_totalPages_iff h.pageSize_pos h.page_pos]
  constructor
  · intro hrange
    exact hrange.2.1
  · intro hle
    refine ⟨h.page_pos, hle, fun hrows => ?_⟩
    have hpage := page_ne_nil h.pageSize_pos h.page_pos hle hrows
    rwa [pageItems_eq (by
      rw [ne_eq, page_eq_nil_iff] at hpage
      omega)]

/-- A rendering leaves the table as it is shown. -/
theorem synced_apply (hpage : 1 ≤ t.page) (hsize : 0 < t.pageSize) :
    (t.applyFiltersAndRender code).Synced code :=
  ⟨t.length_filtered, hpage, hsize⟩

/-- **One action** leaves the table as it is shown. -/
theorem Synced.run (h : t.Synced code) (a : Action ρ φ γ) : (t.run code a).Synced code := by
  cases a with
  | filter f => exact synced_apply (le_refl 1) h.pageSize_pos
  | changePageSize n =>
    refine synced_apply (le_refl 1) ?_
    show 0 < if n = 0 then 5 else n
    split <;> omega
  | goToPage n =>
    simp only [Table.run]
    split
    · exact h
    · refine synced_apply ?_ h.pageSize_pos
      show 1 ≤ n.toNat
      omega
  | sortBy key => exact synced_apply (le_refl 1) h.pageSize_pos
  | load list => exact synced_apply h.page_pos h.pageSize_pos
  | render others => exact synced_apply h.page_pos h.pageSize_pos
  | nothing => exact h

/-- **One step.**  Whatever happens leaves the page in range, but for a list that does not reach it. -/
theorem Synced.inRange_run (h : t.Synced code) (hrange : t.InRange) (a : Action ρ φ γ) :
    (t.run code a).InRange ↔ ∀ list, a = .load list → t.Reaches code list := by
  rw [(h.run a).inRange_iff]
  rw [h.inRange_iff] at hrange
  cases a with
  | filter f => exact iff_of_true (.inl rfl) (by simp)
  | changePageSize n => exact iff_of_true (.inl rfl) (by simp)
  | goToPage n =>
    refine iff_of_true ?_ (by simp)
    simp only [Table.run]
    split
    · exact hrange
    · rename_i hn
      have hle : n.toNat = 1 ∨ (n.toNat - 1) * t.pageSize < t.filtered.length :=
        (le_totalPages_iff h.pageSize_pos (by omega)).mp (by omega)
      rwa [h.length_eq] at hle
  | sortBy key => exact iff_of_true (.inl rfl) (by simp)
  | load list =>
    constructor
    · rintro hreaches list' ⟨⟩
      exact hreaches
    · intro hreaches
      exact hreaches list rfl
  | render others => exact iff_of_true hrange (by simp)
  | nothing => exact iff_of_true hrange (by simp)

end Table

/-! ## Runs of a table of the browser -/

section
variable {ε : Type} (code : Code ρ φ γ) (action : Table ρ φ γ → ε → Action ρ φ γ)

/-- An event acts on the table. -/
def step (t : Table ρ φ γ) (e : ε) : Option (Table ρ φ γ) := some (t.run code (action t e))

/-- A list that is fetched reaches the page. -/
def FetchReaches (t : Table ρ φ γ) (e : ε) : Prop :=
  ∀ list, action t e = .load list → t.Reaches code list

instance (t : Table ρ φ γ) (e : ε) : Decidable (FetchReaches code action t e) :=
  match h : action t e with
  | .load list => decidable_of_iff (t.Reaches code list) (by simp [FetchReaches, h])
  | .filter _ | .changePageSize _ | .goToPage _ | .sortBy _ | .render _ | .nothing =>
    isTrue (by simp [FetchReaches, h])

/-- **Runs.**  From a table in range, it is in range throughout exactly if every list reaches it. -/
theorem throughout_inRange_iff {t : Table ρ φ γ} (h : t.Synced code) (hrange : t.InRange)
    (events : List ε) :
    Throughout (step code action) Table.InRange t events ↔
      Always (step code action) (FetchReaches code action) t events := by
  refine throughout_iff_always_of_disabled (I := Table.Synced code) ?_ ?_ ?_ h hrange
  · rintro t e _ hsynced ⟨⟩
    exact hsynced.run _
  · rintro t e _ hsynced hrange ⟨⟩
    exact hsynced.inRange_run hrange _
  · rintro t e - ⟨⟩

end

/-! ## Organisations -/

/-- The texts of the browser: `toLowerCase` and `localeCompare`. -/
structure Locale where
  toLowerCase : String → String
  localeCompare : String → String → Int

/-- `hay.indexOf(needle) !== -1`. -/
def contains (hay needle : String) : Bool := decide (needle.toList <:+: hay.toList)

def Direction.sign (dir : Direction) : Int := if dir = .asc then 1 else -1

/-- What the table reads of an organisation; `created` is the time of its date, or 0. -/
structure Organization where
  id : String
  name : String
  created : Int
  deriving DecidableEq

/-- `a[key]`, empty for what an organisation has not. -/
def Organization.field (org : Organization) : String → String
  | "id" => org.id
  | "name" => org.name
  | _ => ""

/-- The tenants of the applications, device profiles and devices, one for each. -/
structure Tenants where
  applications : List String
  dpList : List String
  allDevices : List String

section
variable (locale : Locale)

/-- A search finds a tenant by its name or its id. -/
def keepsOrg (searchQuery : String) (org : Organization) : Bool :=
  let q := locale.toLowerCase searchQuery
  q = "" || contains (locale.toLowerCase org.name) q || contains (locale.toLowerCase org.id) q

def compareOrgs (tenants : Tenants) (sort : String × Direction) (a b : Organization) : Int :=
  let dir := Direction.sign sort.2
  let byCount (ids : List String) : Int := ((ids.count a.id : Int) - ids.count b.id) * dir
  if sort.1 = "app_count" then byCount tenants.applications
  else if sort.1 = "dp_count" then byCount tenants.dpList
  else if sort.1 = "dev_count" then byCount tenants.allDevices
  else if sort.1 = "date" then (a.created - b.created) * dir
  else
    locale.localeCompare (locale.toLowerCase (a.field sort.1)) (locale.toLowerCase (b.field sort.1)) *
      dir

def orgCode : Code Organization String Tenants := ⟨keepsOrg locale, compareOrgs locale⟩

abbrev OrgTable := Table Organization String Tenants

/-- What happens to the table of organisations; an answer without a list is `none`. -/
inductive OrgEvent
  | fetchOrganizations (answer : Option (List Organization))
  | deleteOrganization (id : String) (confirmed ok : Bool) (answer : Option (List Organization))
  | searchOrgs (q : String)
  | changePageSize (n : Nat)
  | goToPage (n : Int)
  | sortBy (key : String)
  | render (tenants : Tenants)

/-- A deletion that was not confirmed, or failed, changes nothing. -/
def OrgEvent.action (t : OrgTable) : OrgEvent → Action Organization String Tenants
  | .fetchOrganizations answer => .load (answer.getD [])
  | .deleteOrganization id confirmed ok answer =>
    if t.list.any (·.id = id) && confirmed && ok then .load (answer.getD []) else .nothing
  | .searchOrgs q => .filter q
  | .changePageSize n => .changePageSize n
  | .goToPage n => .goToPage n
  | .sortBy key => .sortBy key
  | .render tenants => .render tenants

def orgStep : OrgTable → OrgEvent → Option OrgTable := step (orgCode locale) OrgEvent.action

def orgInit : OrgTable := ⟨[], "", ("name", .asc), 1, 5, [], ⟨[], [], []⟩⟩

/-! ## Gateways -/

structure Gateway where
  id : String
  name : String
  tenantID : String
  description : String
  createdAt : String
  deriving DecidableEq

/-- `a[key]`, empty for what a gateway has not. -/
def Gateway.field (gw : Gateway) : String → String
  | "id" => gw.id
  | "name" => gw.name
  | "tenant_id" => gw.tenantID
  | "created_at" => gw.createdAt
  | _ => ""

/-- The two fields the table of the gateways is filtered by. -/
structure GwFilter where
  gwTenantFilter : String
  gwSearchQuery : String

def keepsGw (f : GwFilter) (gw : Gateway) : Bool :=
  let q := locale.toLowerCase f.gwSearchQuery
  (f.gwTenantFilter = "" || gw.tenantID = f.gwTenantFilter) &&
    (q = "" || contains (locale.toLowerCase gw.name) q || contains (locale.toLowerCase gw.id) q ||
      contains (locale.toLowerCase gw.description) q)

def compareGws (_ : Unit) (sort : String × Direction) (a b : Gateway) : Int :=
  locale.localeCompare (locale.toLowerCase (a.field sort.1)) (locale.toLowerCase (b.field sort.1)) *
    Direction.sign sort.2

def gwCode : Code Gateway GwFilter Unit := ⟨keepsGw locale, compareGws locale⟩

abbrev GwTable := Table Gateway GwFilter Unit

/-- What happens to the table of gateways; a fetch that fails is `none`. -/
inductive GwEvent
  | fetchGateways (answer : Option (List Gateway))
  | deleteGateway (id : String) (confirmed ok : Bool) (answer : Option (List Gateway))
  | searchGws (q : String)
  | selectTenant (tenantID : String)
  | changeGwPageSize (n : Nat)
  | goToGwPage (n : Int)
  | sortBy (key : String)
  | render

/-- Unlike that of organisations, a fetch of gateways that fails changes nothing. -/
def loadGateways : Option (List Gateway) → Action Gateway GwFilter Unit
  | some list => .load list
  | none => .nothing

def GwEvent.action (t : GwTable) : GwEvent → Action Gateway GwFilter Unit
  | .fetchGateways answer => loadGateways answer
  | .deleteGateway id confirmed ok answer =>
    if t.list.any (·.id = id) && confirmed && ok then loadGateways answer else .nothing
  | .searchGws q => .filter { t.filter with gwSearchQuery := q }
  | .selectTenant tenantID => .filter { t.filter with gwTenantFilter := tenantID }
  | .changeGwPageSize n => .changePageSize n
  | .goToGwPage n => .goToPage n
  | .sortBy key => .sortBy key
  | .render => .render ()

def gwStep : GwTable → GwEvent → Option GwTable := step (gwCode locale) GwEvent.action

def gwInit : GwTable := ⟨[], ⟨"", ""⟩, ("name", .asc), 1, 5, [], ()⟩

end

/-! ## Devices -/

open DeviceTable (State Query Answer Fetch Stage)

variable {δ : Type}

/-- A step of the device table, with the devices the server has for the query it answers in it. -/
structure DevEvent (δ : Type) where
  label : DeviceTable.Label
  matching : Except String (List δ)

/-- The server cuts the page. -/
def serve (matching : Except String (List δ)) (q : Query) : Answer δ :=
  match matching with
  | .ok devices => .devices (Pages.page devices q.offset q.limit) devices.length
  | .error e => .failed e

/-- How many devices an answer counts. -/
def served : Except String (List δ) → Nat
  | .ok devices => devices.length
  | .error _ => 0

/-- The device table, whose pages come from the server. -/
def devStep (s : State δ) (e : DevEvent δ) : Option (State δ) :=
  DeviceTable.step (serve e.matching) s e.label

/-- The page is one of those offered, and shows a row if there is a device. -/
def DevInRange (s : State δ) : Prop :=
  1 ≤ s.devPage ∧ s.devPage ≤ s.totalPages ∧ (0 < s.devTotalCount → s.devList ≠ [])

/-- The fetch whose page a step brings. -/
def bringsPage (s : State δ) (e : DevEvent δ) : Option Fetch :=
  match e.label with
  | .answer i => s.outstanding[i]?.filter fun fetch => fetch.stage = .page
  | _ => none

/-- What an answer counts reaches the page that is shown now, and the page that was asked for. -/
def AnswerReaches (s : State δ) (e : DevEvent δ) : Prop :=
  ∀ fetch ∈ bringsPage s e,
    (s.devPage = 1 ∨ (s.devPage - 1) * s.devPageSize < served e.matching) ∧
      (served e.matching = 0 ∨ fetch.query.offset < served e.matching)

instance (s : State δ) (e : DevEvent δ) : Decidable (AnswerReaches s e) := by
  unfold AnswerReaches
  infer_instance

/-- What every step keeps. -/
structure DevWellFormed (s : State δ) : Prop where
  page_pos : 1 ≤ s.devPage
  pageSize_pos : 0 < s.devPageSize
  limit_pos : ∀ fetch ∈ s.outstanding, 0 < fetch.query.limit

/-- A step that brings no page: the rows stay, and the page is the first, the same or one of those
    offered. -/
structure Moved (s t : State δ) : Prop where
  devList : t.devList = s.devList
  devTotalCount : t.devTotalCount = s.devTotalCount
  outstanding : ∀ fetch ∈ t.outstanding, fetch ∈ s.outstanding ∨ 0 < fetch.query.limit
  page : t.devPage = 1 ∧ (0 < s.devPageSize → 0 < t.devPageSize) ∨
    t.devPageSize = s.devPageSize ∧
      (t.devPage = s.devPage ∨ 1 ≤ t.devPage ∧ t.devPage ≤ s.totalPages)

theorem Moved.rfl {s : State δ} : Moved s s :=
  ⟨Eq.refl _, Eq.refl _, fun _ h => .inl h, .inr ⟨Eq.refl _, .inl (Eq.refl _)⟩⟩

/-- A fetch that starts adds a query, whose limit is not zero. -/
theorem Moved.fetchDevices {s t : State δ} (h : Moved s t) (tenantID : String) :
    Moved s (t.fetchDevices tenantID) := by
  refine ⟨h.devList, h.devTotalCount, fun fetch hfetch => ?_, h.page⟩
  rcases List.mem_append.mp hfetch with hold | hnew
  · exact h.outstanding fetch hold
  · right
    rw [List.mem_singleton.mp hnew]
    show 0 < t.limit
    unfold State.limit
    split <;> omega

/-- A step brings the page of an outstanding fetch, or no page. -/
theorem devStep_cases {s t : State δ} {e : DevEvent δ} (h : devStep s e = some t) :
    Moved s t ∧ bringsPage s e = none ∨
      ∃ i fetch, bringsPage s e = some fetch ∧ fetch ∈ s.outstanding ∧ t = { s with
        devList := (serve e.matching fetch.query).shown.1
        devTotalCount := (serve e.matching fetch.query).shown.2
        outstanding := s.outstanding.set i { fetch with stage := .all } } := by
  obtain ⟨label, matching⟩ := e
  cases label with
  | goToDevPage n =>
    cases h
    refine .inl ⟨?_, rfl⟩
    unfold DeviceTable.goToDevPage
    split
    · exact Moved.rfl
    · exact Moved.fetchDevices (s := s) (t := { s with devPage := n.toNat })
        ⟨rfl, rfl, fun _ h => .inl h, .inr ⟨rfl, .inr ⟨by show 1 ≤ n.toNat; omega,
          by show n.toNat ≤ s.totalPages; omega⟩⟩⟩ _
  | sortDevBy key =>
    cases h
    exact .inl ⟨⟨rfl, rfl, fun _ h => .inl h, .inl ⟨rfl, id⟩⟩, rfl⟩
  | searchDev q =>
    cases h
    exact .inl ⟨Moved.fetchDevices (s := s) (t := { s with devSearchQuery := q, devPage := 1 })
      ⟨rfl, rfl, fun _ h => .inl h, .inl ⟨rfl, id⟩⟩ _, rfl⟩
  | changeDevPageSize n =>
    cases h
    refine .inl ⟨Moved.fetchDevices (s := s)
      (t := { s with devPageSize := if n = 0 then 5 else n, devPage := 1 })
      ⟨rfl, rfl, fun _ h => .inl h, .inl ⟨rfl, fun _ => ?_⟩⟩ _, rfl⟩
    show 0 < if n = 0 then 5 else n
    split <;> omega
  | selectTenant tenantID =>
    cases h
    exact .inl ⟨Moved.fetchDevices (s := s) (t := { s with devTenantFilter := tenantID, devPage := 1 })
      ⟨rfl, rfl, fun _ h => .inl h, .inl ⟨rfl, id⟩⟩ _, rfl⟩
  | refresh =>
    cases h
    exact .inl ⟨Moved.rfl.fetchDevices _, rfl⟩
  | fetchEverywhere =>
    cases h
    exact .inl ⟨Moved.rfl.fetchDevices _, rfl⟩
  | answer i =>
    unfold devStep DeviceTable.step DeviceTable.answer at h
    dsimp only at h
    split at h
    · cases h
    · rename_i fetch hi
      have hbrings : bringsPage s ⟨.answer i, matching⟩ =
          if fetch.stage = .page then some fetch else none := by
        simp [bringsPage, hi, Option.filter]
      split at h
      · rename_i hstage
        rw [hstage, if_pos rfl] at hbrings
        exact .inr ⟨i, fetch, hbrings, List.mem_of_getElem? hi, (Option.some.inj h).symm⟩
      · rename_i hstage
        rw [hstage, if_neg (by decide)] at hbrings
        cases h
        exact .inl ⟨⟨rfl, rfl, fun _ hfetch => .inl (List.mem_of_mem_eraseIdx hfetch),
          .inr ⟨rfl, .inl rfl⟩⟩, hbrings⟩

/-- **One event** keeps the device table well-formed. -/
theorem DevWellFormed.step {s t : State δ} {e : DevEvent δ} (h : DevWellFormed s)
    (hstep : devStep s e = some t) : DevWellFormed t := by
  rcases devStep_cases hstep with ⟨hmoved, -⟩ | ⟨i, fetch, -, hfetch, rfl⟩
  · refine ⟨?_, ?_, fun fetch hfetch => ?_⟩
    · rcases hmoved.page with ⟨hpage, -⟩ | ⟨-, hpage | hpage⟩
      · omega
      · exact hpage ▸ h.page_pos
      · exact hpage.1
    · rcases hmoved.page with ⟨-, hsize⟩ | ⟨hsize, -⟩
      · exact hsize h.pageSize_pos
      · exact hsize ▸ h.pageSize_pos
    · rcases hmoved.outstanding fetch hfetch with hold | hnew
      · exact h.limit_pos fetch hold
      · exact hnew
  · refine ⟨h.page_pos, h.pageSize_pos, fun fetch' hfetch' => ?_⟩
    rcases List.mem_or_eq_of_mem_set hfetch' with hold | rfl
    · exact h.limit_pos fetch' hold
    · exact h.limit_pos fetch hfetch

/-- **One step.**  Only the page of a fetch leads out of range. -/
theorem devInRange_step {s t : State δ} {e : DevEvent δ} (h : DevWellFormed s)
    (hrange : DevInRange s) (hstep : devStep s e = some t) : DevInRange t ↔ AnswerReaches s e := by
  rcases devStep_cases hstep with ⟨hmoved, hnone⟩ | ⟨i, fetch, hsome, hfetch, rfl⟩
  · refine iff_of_true ?_ (by simp [AnswerReaches, hnone])
    obtain ⟨hone, hle, hrows⟩ := hrange
    have hpages : t.devPageSize = s.devPageSize → t.totalPages = s.totalPages := by
      intro hsize
      unfold State.totalPages
      rw [hmoved.devTotalCount, hsize]
    refine ⟨?_, ?_, by rwa [hmoved.devTotalCount, hmoved.devList]⟩
    · rcases hmoved.page with ⟨hpage, -⟩ | ⟨-, hpage | hpage⟩
      · omega
      · omega
      · exact hpage.1
    · rcases hmoved.page with ⟨hpage, -⟩ | ⟨hsize, hpage | hpage⟩
      · rw [hpage]
        exact one_le_totalPages _ _
      · rw [hpages hsize, hpage]
        exact hle
      · rw [hpages hsize]
        exact hpage.2
  · have hcount : (serve e.matching fetch.query).shown.2 = served e.matching := by
      cases e.matching <;> rfl
    have hrows : (serve e.matching fetch.query).shown.1 ≠ [] ↔
        fetch.query.offset < served e.matching := by
      have hlimit := h.limit_pos fetch hfetch
      cases e.matching with
      | ok devices =>
        show Pages.page devices fetch.query.offset fetch.query.limit ≠ [] ↔ _
        rw [ne_eq, page_eq_nil_iff]
        show _ ↔ fetch.query.offset < devices.length
        omega
      | error message => simp [serve, served, Answer.shown]
    have hpage : s.devPage ≤ totalPages (served e.matching) s.devPageSize ↔
        s.devPage = 1 ∨ (s.devPage - 1) * s.devPageSize < served e.matching :=
      le_totalPages_iff h.pageSize_pos h.page_pos
    have hpos := h.page_pos
    simp only [AnswerReaches, hsome, Option.mem_def, Option.some.injEq, forall_eq']
    show 1 ≤ s.devPage ∧ s.devPage ≤ totalPages (serve e.matching fetch.query).shown.2 s.devPageSize ∧
      (0 < (serve e.matching fetch.query).shown.2 → (serve e.matching fetch.query).shown.1 ≠ []) ↔ _
    rw [hcount, hpage, hrows]
    omega

/-! ## The law -/

theorem orgInit_synced (locale : Locale) : orgInit.Synced (orgCode locale) :=
  ⟨rfl, le_refl 1, by decide⟩

theorem gwInit_synced (locale : Locale) : gwInit.Synced (gwCode locale) :=
  ⟨rfl, le_refl 1, by decide⟩

theorem devInit_wellFormed : DevWellFormed (DeviceTable.init : State δ) := by
  refine ⟨le_refl 1, Nat.zero_lt_succ 4, fun fetch hfetch => ?_⟩
  rw [List.mem_singleton.mp hfetch]
  exact Nat.zero_lt_succ 4

theorem devInit_inRange : DevInRange (DeviceTable.init : State δ) :=
  ⟨le_refl 1, one_le_totalPages 0 5, fun h => absurd h (Nat.lt_irrefl 0)⟩

/-- An answer that does not come brings no page. -/
theorem bringsPage_of_disabled {s : State δ} {e : DevEvent δ} (h : devStep s e = none) :
    bringsPage s e = none := by
  obtain ⟨label, matching⟩ := e
  cases label with
  | answer i =>
    unfold devStep DeviceTable.step DeviceTable.answer at h
    dsimp only at h
    split at h
    · rename_i hi
      simp [bringsPage, hi]
    · split at h <;> cases h
  | _ => rfl

theorem orgs_inRange_iff (locale : Locale) (events : List OrgEvent) :
    Throughout (orgStep locale) Table.InRange orgInit events ↔
      Always (orgStep locale) (FetchReaches (orgCode locale) OrgEvent.action) orgInit events :=
  throughout_inRange_iff _ _ (orgInit_synced locale)
    ((orgInit_synced locale).inRange_iff.mpr (.inl rfl)) events

theorem gws_inRange_iff (locale : Locale) (events : List GwEvent) :
    Throughout (gwStep locale) Table.InRange gwInit events ↔
      Always (gwStep locale) (FetchReaches (gwCode locale) GwEvent.action) gwInit events :=
  throughout_inRange_iff _ _ (gwInit_synced locale)
    ((gwInit_synced locale).inRange_iff.mpr (.inl rfl)) events

theorem devs_inRange_iff (events : List (DevEvent δ)) :
    Throughout devStep DevInRange DeviceTable.init events ↔
      Always devStep AnswerReaches DeviceTable.init events := by
  refine throughout_iff_always_of_disabled (I := DevWellFormed) ?_ ?_ ?_ devInit_wellFormed
    devInit_inRange
  · exact fun s e t hs hstep => hs.step hstep
  · exact fun s e t hs hrange hstep => devInRange_step hs hrange hstep
  · intro s e _ hnone
    simp [AnswerReaches, bringsPage_of_disabled hnone]

/-- **Pages.**  Along a run of each of the three tables the page is in range in every state, and so
    after every rendering, exactly if every list that is fetched reaches the page it is shown on. -/
theorem pages_inRange_iff (locale : Locale) (orgEvents : List OrgEvent) (gwEvents : List GwEvent)
    (devEvents : List (DevEvent δ)) :
    (Throughout (orgStep locale) Table.InRange orgInit orgEvents ↔
      Always (orgStep locale) (FetchReaches (orgCode locale) OrgEvent.action) orgInit orgEvents) ∧
    (Throughout (gwStep locale) Table.InRange gwInit gwEvents ↔
      Always (gwStep locale) (FetchReaches (gwCode locale) GwEvent.action) gwInit gwEvents) ∧
    (Throughout devStep DevInRange DeviceTable.init devEvents ↔
      Always devStep AnswerReaches DeviceTable.init devEvents) :=
  ⟨orgs_inRange_iff locale orgEvents, gws_inRange_iff locale gwEvents, devs_inRange_iff devEvents⟩

/-! ## Deleting the last row of the last page -/

/-- A browser that compares texts by their lengths. -/
def Locale.plain : Locale := ⟨id, fun a b => a.length - b.length⟩

def sixOrganizations : List Organization :=
  ["1", "22", "333", "4444", "55555", "666666"].map fun id => ⟨id, id, 0⟩

/-- Six organisations are loaded, the second page is shown, and its only organisation is deleted. -/
def lastOrgDeleted : List OrgEvent :=
  [.fetchOrganizations (some sixOrganizations), .goToPage 2,
    .deleteOrganization "666666" true true (some (sixOrganizations.take 5))]

/-- The same with devices: the answers of the fetches come at once. -/
def lastDevDeleted : List (DevEvent Nat) :=
  [⟨.answer 0, .ok [1, 2, 3, 4, 5, 6]⟩, ⟨.answer 0, .ok []⟩, ⟨.goToDevPage 2, .ok []⟩,
    ⟨.answer 0, .ok [1, 2, 3, 4, 5, 6]⟩, ⟨.answer 0, .ok []⟩, ⟨.refresh, .ok []⟩,
    ⟨.answer 0, .ok [1, 2, 3, 4, 5]⟩]

/-- The second page of one is shown, and it is empty, though five organisations, or devices, are
    left. -/
theorem lastDeleted_not_inRange :
    ((exec (orgStep .plain) orgInit lastOrgDeleted).map
        fun t => (t.page, totalPages t.filtered.length t.pageSize, t.filtered.length, t.pageItems)) =
      some (2, 1, 5, []) ∧
    ¬ Throughout (orgStep .plain) Table.InRange orgInit lastOrgDeleted ∧
    ((exec devStep DeviceTable.init lastDevDeleted).map
        fun s => (s.devPage, s.totalPages, s.devTotalCount, s.devList)) = some (2, 1, 5, []) ∧
    ¬ Throughout devStep DevInRange DeviceTable.init lastDevDeleted := by
  have horgs : ¬ Always (orgStep .plain) (FetchReaches (orgCode .plain) OrgEvent.action) orgInit
      lastOrgDeleted := by decide
  have hdevs : ¬ Always devStep AnswerReaches DeviceTable.init lastDevDeleted := by decide
  exact ⟨by decide, fun h => horgs ((orgs_inRange_iff .plain lastOrgDeleted).mp h), by decide,
    fun h => hdevs ((devs_inRange_iff lastDevDeleted).mp h)⟩

end ChirpStackSimulator.TablePages
