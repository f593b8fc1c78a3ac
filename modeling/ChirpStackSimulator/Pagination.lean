/-
  The page buttons under the tables of the browser.

  Each of the eight tables has its own copy of the same code: a button for the previous page, up to five
  for pages near the current one, and a button for the next page.  The first page of the five is at
  first two before the current one; where fewer than five pages follow it is moved back.

  1. **The bar** - `renderBar` is the code, and the eight functions are its copies, with the state that
     each of them reads.

  2. **The window** (`renderBar_offers`) - the pages offered follow one another, are pages of the table,
     have the current one among them, and are five, or all pages if there are fewer.

  3. **The buttons** - exactly the current page is marked (`active_iff`), the other two lead to pages of
     the table unless they are disabled (`stepBtns_inRange`), and a click on a page of the device table
     goes to it (`goToDevPage_offered`).
-/
import ChirpStackSimulator.TablePages

namespace ChirpStackSimulator.Pagination

open Pages

/-! ## The bar -/

/-- The button for the previous or the next page. -/
structure StepBtn where
  disabled : Bool
  goTo : Int
  deriving DecidableEq, Repr

/-- The button of a page. -/
structure PageBtn where
  textContent : Int
  active : Bool
  goTo : Int
  deriving DecidableEq, Repr

structure Bar where
  prevBtn : StepBtn
  pageBtns : List PageBtn
  nextBtn : StepBtn
  deriving DecidableEq, Repr

/-- The pages that a bar offers. -/
def Bar.pages (bar : Bar) : List Int := bar.pageBtns.map PageBtn.textContent

/-- The code that the functions below have in common. -/
def renderBar (total pageSize : Nat) (current : Int) : Bar :=
  let totalPages : Int := totalPages total pageSize
  let startPage := max 1 (current - 2)
  let endPage := min totalPages (startPage + 4)
  let startPage := if endPage - startPage < 4 then max 1 (endPage - 4) else startPage
  { prevBtn := ⟨decide (current ≤ 1), current - 1⟩
    pageBtns := (through startPage endPage).map fun p => ⟨p, decide (p = current), p⟩
    nextBtn := ⟨decide (current ≥ totalPages), current + 1⟩ }

/-- A table that is filtered in the browser. -/
structure Listing (ρ : Type) where
  filtered : List ρ
  pageSize : Nat
  page : Nat

section
variable {δ ρ φ γ : Type}

def renderDevPagination (s : DeviceTable.State δ) : Bar :=
  renderBar s.devTotalCount s.devPageSize s.devPage

/-- Of `devIntFiltered`, `devIntPageSize` and `devIntPage`. -/
def renderDevIntPagination (t : Listing ρ) : Bar := renderBar t.filtered.length t.pageSize t.page

/-- Of `filteredOrgs`, `tablePageSize` and `tablePage`. -/
def renderPagination (t : TablePages.OrgTable) : Bar := renderBar t.filtered.length t.pageSize t.page

/-- Of `filteredGateways`, `gwTablePageSize` and `gwTablePage`. -/
def renderGwPagination (t : TablePages.GwTable) : Bar := renderBar t.filtered.length t.pageSize t.page

/-- Of `appFiltered`, `appPageSize` and `appPage`. -/
def renderAppPagination (t : Listing ρ) : Bar := renderBar t.filtered.length t.pageSize t.page

/-- Of `dpFiltered`, `dpPageSize` and `dpPage`. -/
def renderDpPagination (t : Listing ρ) : Bar := renderBar t.filtered.length t.pageSize t.page

/-- Of `devStatusFiltered`, `devStatusPageSize` and `devStatusPage`. -/
def renderDevStatusPagination (t : Listing ρ) : Bar := renderBar t.filtered.length t.pageSize t.page

/-- Of `gwStatusFiltered`, `gwStatusPageSize` and `gwStatusPage`. -/
def renderGwStatusPagination (t : Listing ρ) : Bar := renderBar t.filtered.length t.pageSize t.page

end

/-! ## The window -/

variable {total pageSize : Nat} {current : Int}

theorem pages_renderBar (total pageSize : Nat) (current : Int) :
    (renderBar total pageSize current).pages =
      through (window 2 4 (totalPages total pageSize) current).1
        (window 2 4 (totalPages total pageSize) current).2 := by
  unfold renderBar Bar.pages window
  rw [List.map_map]
  exact List.map_id _

/-- The pages that a table should offer, of `totalPages`. -/
structure Offers (pages : List Int) (totalPages : Nat) (current : Int) : Prop where
  consecutive : pages.IsChain fun p q => q = p + 1
  inRange : ∀ p ∈ pages, 1 ≤ p ∧ p ≤ totalPages
  current_mem : current ∈ pages
  length_eq : pages.length = min 5 totalPages

/-- **The window.** -/
theorem renderBar_offers (hone : 1 ≤ current) (hle : current ≤ totalPages total pageSize) :
    Offers (renderBar total pageSize current).pages (totalPages total pageSize) current := by
  have hwindow : Window 4 (totalPages total pageSize) current _ _ :=
    window_spec (by omega : (0 : Int) ≤ 2) (by omega) hone hle
  obtain ⟨hfirst, hbefore, hafter, hlast, hsize⟩ := hwindow
  rw [pages_renderBar]
  refine ⟨isChain_through _ _, fun p hp => ?_, mem_through.mpr ⟨hbefore, hafter⟩, ?_⟩
  · rw [mem_through] at hp
    omega
  · rw [length_through, hsize]
    omega

/-- **Pagination window.**  Whatever the totals and the page sizes are: on every page of the table, the
    page numbers that the two functions offer follow one another, are pages of the table, have the
    current one among them, and are `min 5 totalPages` many. -/
theorem pagination_window {δ ρ : Type} (s : DeviceTable.State δ) (t : Listing ρ) :
    (1 ≤ s.devPageSize → 1 ≤ s.devPage → s.devPage ≤ totalPages s.devTotalCount s.devPageSize →
      Offers (renderDevPagination s).pages (totalPages s.devTotalCount s.devPageSize) s.devPage) ∧
    (1 ≤ t.pageSize → 1 ≤ t.page → t.page ≤ totalPages t.filtered.length t.pageSize →
      Offers (renderDevIntPagination t).pages (totalPages t.filtered.length t.pageSize) t.page) :=
  ⟨fun _ hone hle => renderBar_offers (by omega) (by omega),
    fun _ hone hle => renderBar_offers (by omega) (by omega)⟩

/-- Twelve devices in pages of one, on the last page. -/
def twelveDevices : DeviceTable.State Nat :=
  { DeviceTable.init with devTotalCount := 12, devPageSize := 1, devPage := 12 }

/-- On the last of twelve pages, and on the first of two. -/
theorem pagination_window_ends :
    Offers (renderDevPagination twelveDevices).pages 12 12 ∧
    Offers (renderDevIntPagination ⟨[1, 2], 1, 1⟩).pages 2 1 := by
  have h := pagination_window twelveDevices ⟨[1, 2], 1, 1⟩
  exact ⟨h.1 (by decide) (by decide) (by decide), h.2 (by decide) (by decide) (by decide)⟩

/-! ## The buttons -/

/-- Exactly the button of the current page is marked. -/
theorem active_iff {btn : PageBtn} (h : btn ∈ (renderBar total pageSize current).pageBtns) :
    btn.active = true ↔ btn.textContent = current := by
  obtain ⟨p, _, rfl⟩ := List.mem_map.mp h
  exact decide_eq_true_iff

theorem goTo_eq {btn : PageBtn} (h : btn ∈ (renderBar total pageSize current).pageBtns) :
    btn.goTo = btn.textContent := by
  obtain ⟨p, _, rfl⟩ := List.mem_map.mp h
  rfl

/-- A button that is not disabled leads to a page of the table. -/
theorem stepBtns_inRange (hone : 1 ≤ current) (hle : current ≤ totalPages total pageSize) :
    ∀ btn ∈ [(renderBar total pageSize current).prevBtn, (renderBar total pageSize current).nextBtn],
      btn.disabled = false ↔ 1 ≤ btn.goTo ∧ btn.goTo ≤ totalPages total pageSize := by
  intro btn hbtn
  rcases List.mem_pair.mp hbtn with rfl | rfl
  · show decide (current ≤ 1) = false ↔ 1 ≤ current - 1 ∧ _
    rw [decide_eq_false_iff_not]
    show _ ↔ _ ∧ current - 1 ≤ _
    omega
  · show decide (current ≥ totalPages total pageSize) = false ↔ _ ∧ current + 1 ≤ _
    rw [decide_eq_false_iff_not]
    show _ ↔ 1 ≤ current + 1 ∧ _
    omega

/-- **Clicks.**  A click on a page of the device table goes to the page it is named after. -/
theorem goToDevPage_offered {δ : Type} {s : DeviceTable.State δ} (hone : 1 ≤ s.devPage)
    (hle : s.devPage ≤ s.totalPages) {btn : PageBtn} (h : btn ∈ (renderDevPagination s).pageBtns) :
    ((DeviceTable.goToDevPage btn.goTo s).devPage : Int) = btn.textContent := by
  have hpages : s.totalPages = totalPages s.devTotalCount s.devPageSize := rfl
  have hoffers : Offers (renderDevPagination s).pages s.totalPages s.devPage :=
    renderBar_offers (by omega) (by omega)
  have hrange := hoffers.inRange btn.textContent (List.mem_map_of_mem h)
  rw [goTo_eq h, DeviceTable.goToDevPage, if_neg (by omega)]
  exact Int.toNat_of_nonneg (by omega)

end ChirpStackSimulator.Pagination
