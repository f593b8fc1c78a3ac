/-
  The pages of `handleListDevices` (`internal/api/devices.go`).

  The devices of one application are listed by ChirpStack, which is given the limit and the offset
  as numbers of 32 bits; those of several are collected and sliced here, with ends of 64 bits.

  1. **The handler** from the choice of the applications on; slicing past the ends panics, which is
     `none` here.
  2. **The ends of a slice** (`bounds_ok_iff`) - they are right exactly if their sum fits; otherwise
     the end is negative and the request panics (`listDevices_panics_iff`).
  3. **The page of one application** (`narrowed_eq_iff`) - which pages survive the 32 bits.
  4. **Paging** (`paging_iff`) - all pages are right, for every limit and offset of a query, exactly
     under both conditions.  That pages put one after another are the list is the library's
     (`Pages`).
-/
import ChirpStackSimulator.Handlers
import ChirpStackSimulator.Lib.Pages
import Mathlib.Algebra.Group.Int.Defs

namespace ChirpStackSimulator.DevicePages

open Handlers Pages

/-! ## The handler -/

/-- An entry of a listing of devices. -/
structure Item where
  devEUI : String
  name : String
  deviceProfileID : String
  description : String
  deriving DecidableEq, Repr

structure Device where
  devEUI : String
  name : String
  applicationID : String
  deviceProfileID : String
  description : String
  isDisabled : Bool
  tenantID : String
  deriving DecidableEq, Repr

structure ListDevicesRequest where
  limit : UInt32
  offset : UInt32
  search : String
  applicationID : String
  deriving DecidableEq

structure ListDevicesResponse where
  totalCount : UInt32
  result : List Item
  deriving DecidableEq

/-- What the handler answers. -/
structure Listing where
  devices : List Device
  count : Int64
  limit : Int64
  offset : Int64
  deriving DecidableEq

def toDevice (appTenantMap : String → String) (appID : String) (d : Item) : Device :=
  ⟨d.devEUI, d.name, appID, d.deviceProfileID, d.description, false, appTenantMap appID⟩

/-- `start` and `end`. -/
def bounds (limit offset totalCount : Int64) : Int64 × Int64 :=
  let start := if offset > totalCount then totalCount else offset
  let end_ := start + limit
  (start, if end_ > totalCount then totalCount else end_)

/-- The slice is within the list. -/
def InBounds (b : Int64 × Int64) (totalCount : Int64) : Prop :=
  0 ≤ b.1 ∧ b.1 ≤ b.2 ∧ b.2 ≤ totalCount

instance (b : Int64 × Int64) (totalCount : Int64) : Decidable (InBounds b totalCount) := by
  unfold InBounds
  infer_instance

/-- `allDevices[start:end]`; `none` where it panics. -/
def slice (allDevices : List Device) (b : Int64 × Int64) : Option (List Device) :=
  if InBounds b (.ofNat allDevices.length) then
    some (page allDevices b.1.toNatClampNeg (b.2.toNatClampNeg - b.1.toNatClampNeg))
  else none

section
variable (list : ListDevicesRequest → Except String ListDevicesResponse)
  (appTenantMap : String → String) (search : String)

/-- One application; a listing that fails is logged. -/
def singleApplication (appID : String) (limit offset : Nat) : List Device × Int64 :=
  match list ⟨.ofNat limit, .ofNat offset, search, appID⟩ with
  | .ok resp => (resp.result.map (toDevice appTenantMap appID), .ofNat resp.totalCount.toNat)
  | .error _ => ([], 0)

/-- Of several applications; one whose listing fails is left out. -/
def collectDevices (apps : List String) : List Device :=
  apps.flatMap fun appID => match list ⟨5000, 0, search, appID⟩ with
    | .ok resp => resp.result.map (toDevice appTenantMap appID)
    | .error _ => []

/-- The local slice of all devices. -/
def localPage (allDevices : List Device) (limit offset : Nat) : Option (List Device) :=
  slice allDevices (bounds (.ofNat limit) (.ofNat offset) (.ofNat allDevices.length))

/-- `handleListDevices` once it has its applications; `none` where it panics. -/
def listDevices (apps : List String) (query : Query) : Option Listing :=
  let limit := pageLimit query
  let offset := pageOffset query
  match apps with
  | [appID] =>
    let (devices, totalCount) := singleApplication list appTenantMap search appID limit offset
    some ⟨devices, totalCount, .ofNat limit, .ofNat offset⟩
  | apps =>
    let allDevices := collectDevices list appTenantMap search apps
    (localPage allDevices limit offset).map fun devices =>
      ⟨devices, .ofNat allDevices.length, .ofNat limit, .ofNat offset⟩

end

theorem atoi_lt {text : String} {v : Int} (h : atoi text = some v) : v < 2 ^ 63 := by
  simp only [atoi, Option.ite_none_left_eq_some, Option.ite_none_right_eq_some,
    Option.some.injEq] at h
  obtain ⟨-, ⟨-, hle⟩, rfl⟩ := h
  exact Int.lt_of_le_of_lt hle (by omega)

/-- Both are numbers that an `int` has. -/
theorem page_query (query : Query) : 0 < pageLimit query ∧ pageLimit query < 2 ^ 63 ∧
    pageOffset query < 2 ^ 63 := by
  unfold pageLimit pageOffset
  refine ⟨?_, ?_, ?_⟩
  · split
    · omega
    · split
      · omega
      · omega
  · split
    · omega
    · next v hv =>
      have hlt := atoi_lt hv
      split
      · omega
      · omega
  · split
    · omega
    · next v hv =>
      have hlt := atoi_lt hv
      split
      · omega
      · omega

/-! ## The ends of a slice -/

section
variable {l o t : Nat}

theorem toInt_add_ofNat {a b : Nat} (ha : a < 2 ^ 63) (hb : b < 2 ^ 63) :
    (Int64.ofNat a + Int64.ofNat b).toInt =
      if a + b < 2 ^ 63 then (a + b : Int) else (a + b : Int) - 2 ^ 64 := by
  rw [Int64.toInt_add, Int64.toInt_ofNat_of_lt ha, Int64.toInt_ofNat_of_lt hb]
  split
  · exact Int.bmod_eq_of_le (by omega) (by omega)
  · rw [Int.bmod_def]
    omega

theorem ofNat_lt_iff {a b : Nat} (ha : a < 2 ^ 63) (hb : b < 2 ^ 63) :
    Int64.ofNat a < Int64.ofNat b ↔ a < b := by
  rw [Int64.lt_iff_toInt_lt, Int64.toInt_ofNat_of_lt ha, Int64.toInt_ofNat_of_lt hb]
  omega

/-- The start is the offset or the end of the list. -/
theorem bounds_start (ho : o < 2 ^ 63) (ht : t < 2 ^ 63) :
    (bounds (.ofNat l) (.ofNat o) (.ofNat t)).1 = Int64.ofNat (min o t) := by
  show (if Int64.ofNat t < Int64.ofNat o then Int64.ofNat t else Int64.ofNat o) = _
  split
  · next h =>
    rw [ofNat_lt_iff ht ho] at h
    rw [Nat.min_eq_right (by omega)]
  · next h =>
    rw [ofNat_lt_iff ht ho] at h
    rw [Nat.min_eq_left (by omega)]

/-- The end, where the sum fits. -/
theorem bounds_end (ho : o < 2 ^ 63) (ht : t < 2 ^ 63)
    (hsum : min o t + l < 2 ^ 63) :
    (bounds (.ofNat l) (.ofNat o) (.ofNat t)).2 = Int64.ofNat (min (min o t + l) t) := by
  have hstart := bounds_start (l := l) ho ht
  show (if Int64.ofNat t < (bounds (.ofNat l) (.ofNat o) (.ofNat t)).1 + Int64.ofNat l then
    Int64.ofNat t else (bounds (.ofNat l) (.ofNat o) (.ofNat t)).1 + Int64.ofNat l) = _
  rw [hstart, ← Int64.ofNat_add]
  split
  · next h =>
    rw [ofNat_lt_iff ht hsum] at h
    rw [Nat.min_eq_right (by omega)]
  · next h =>
    rw [ofNat_lt_iff ht hsum] at h
    rw [show min (min o t + l) t = min o t + l from Nat.min_eq_left (by omega)]

/-- Otherwise the end is negative. -/
theorem bounds_end_neg (hl : l < 2 ^ 63) (ho : o < 2 ^ 63) (ht : t < 2 ^ 63)
    (hsum : ¬ min o t + l < 2 ^ 63) :
    (bounds (.ofNat l) (.ofNat o) (.ofNat t)).2 < 0 := by
  have hstart := bounds_start (l := l) ho ht
  have hend : (Int64.ofNat (min o t) + Int64.ofNat l).toInt = (min o t + l : Int) - 2 ^ 64 := by
    rw [toInt_add_ofNat (by omega) hl, if_neg hsum]
  show (if Int64.ofNat t < (bounds (.ofNat l) (.ofNat o) (.ofNat t)).1 + Int64.ofNat l then
    Int64.ofNat t else (bounds (.ofNat l) (.ofNat o) (.ofNat t)).1 + Int64.ofNat l) < 0
  rw [hstart, if_neg, Int64.lt_iff_toInt_lt, hend]
  · show _ < (0 : Int)
    omega
  · rw [Int64.lt_iff_toInt_lt, hend, Int64.toInt_ofNat_of_lt ht]
    omega

/-- **The ends of a slice** are right exactly if the sum of start and limit fits. -/
theorem bounds_ok_iff (hl : l < 2 ^ 63) (ho : o < 2 ^ 63) (ht : t < 2 ^ 63) :
    InBounds (bounds (.ofNat l) (.ofNat o) (.ofNat t)) (.ofNat t) ↔ min o t + l < 2 ^ 63 := by
  have hzero : ∀ {x : Int64}, 0 ≤ x ↔ (0 : Int) ≤ x.toInt := Int64.le_iff_toInt_le
  constructor
  · rintro ⟨hstart, hend, -⟩
    by_contra hsum
    have hneg := bounds_end_neg hl ho ht hsum
    rw [Int64.lt_iff_toInt_lt] at hneg
    rw [Int64.le_iff_toInt_le] at hend hstart
    omega
  · intro hsum
    unfold InBounds
    rw [bounds_end ho ht hsum, bounds_start ho ht, hzero, Int64.le_iff_toInt_le,
      Int64.le_iff_toInt_le, Int64.toInt_ofNat_of_lt (by omega), Int64.toInt_ofNat_of_lt (by omega),
      Int64.toInt_ofNat_of_lt ht]
    omega

theorem localPage_eq {allDevices : List Device} (hl : l < 2 ^ 63) (ho : o < 2 ^ 63)
    (ht : allDevices.length < 2 ^ 63) : localPage allDevices l o =
      if min o allDevices.length + l < 2 ^ 63 then some (page allDevices o l) else none := by
  unfold localPage slice
  by_cases hsum : min o allDevices.length + l < 2 ^ 63
  · rw [if_pos hsum, if_pos ((bounds_ok_iff hl ho ht).mpr hsum), bounds_start ho ht,
      bounds_end ho ht hsum, Int64.toNatClampNeg_ofNat_of_lt (by omega),
      Int64.toNatClampNeg_ofNat_of_lt (by omega), page_limit_min (Nat.min_le_right _ _), page_min]
  · rw [if_neg hsum, if_neg (mt (bounds_ok_iff hl ho ht).mp hsum)]

/-- The local pages are there, and together they are the list, exactly if the end of the last one
    fits. -/
theorem localPages_iff {allDevices : List Device} (hpos : 0 < l) (hl : l < 2 ^ 63)
    (ht : allDevices.length < 2 ^ 63) :
    ((∀ k < pageCount allDevices.length l, (localPage allDevices l (k * l)).isSome) ∧
      (List.range (pageCount allDevices.length l)).flatMap
        (fun k => (localPage allDevices l (k * l)).getD []) = allDevices) ↔
      pageCount allDevices.length l * l < 2 ^ 63 := by
  have hpage : ∀ k < pageCount allDevices.length l, localPage allDevices l (k * l) =
      if k * l + l < 2 ^ 63 then some (page allDevices (k * l) l) else none := by
    intro k hk
    have hlt := (lt_pageCount_iff hpos).mp hk
    rw [localPage_eq hl (by omega) ht, Nat.min_eq_left (by omega)]
  constructor
  · rintro ⟨hsome, -⟩
    rcases hm : pageCount allDevices.length l with _ | m
    · omega
    · have hlast := hsome m (by omega)
      rw [hpage m (by omega)] at hlast
      rw [Nat.succ_mul]
      by_contra hge
      rw [if_neg hge] at hlast
      cases hlast
  · intro hfits
    have hend : ∀ k < pageCount allDevices.length l, k * l + l < 2 ^ 63 := by
      intro k hk
      have hle := Nat.mul_le_mul_right l hk
      rw [Nat.succ_mul] at hle
      omega
    constructor
    · intro k hk
      rw [hpage k hk, if_pos (hend k hk)]
      rfl
    · refine Eq.trans ?_ (flatten_pages hpos)
      rw [List.flatMap_congr]
      intro k hk
      have hk' := List.mem_range.mp hk
      rw [hpage k hk', if_pos (hend k hk')]
      rfl

end

/-- **The request panics** exactly if there is not just one application and the sum does not fit. -/
theorem listDevices_panics_iff {list : ListDevicesRequest → Except String ListDevicesResponse}
    {appTenantMap : String → String} {search : String} {apps : List String} {query : Query}
    (hfits : (collectDevices list appTenantMap search apps).length < 2 ^ 63) :
    listDevices list appTenantMap search apps query = none ↔
      apps.length ≠ 1 ∧ ¬ min (pageOffset query)
        (collectDevices list appTenantMap search apps).length + pageLimit query < 2 ^ 63 := by
  obtain ⟨-, hl, ho⟩ := page_query query
  unfold listDevices
  split
  · exact iff_of_false (Option.some_ne_none _) fun h => h.1 rfl
  · next happs =>
    have hlength : apps.length ≠ 1 := by
      intro hone
      obtain ⟨appID, rfl⟩ := List.length_eq_one_iff.mp hone
      exact happs appID rfl
    dsimp only
    rw [localPage_eq hl ho hfits, Option.map_eq_none_iff, and_iff_right hlength]
    split
    · next hsum => exact iff_of_false (Option.some_ne_none _) fun h => h hsum
    · next hsum => exact iff_of_true rfl hsum

/-! ## The page of one application -/

/-- Which pages of a list of `t` are the same when limit and offset are narrowed to 32 bits. -/
def Survives (t l o : Nat) : Prop :=
  (o < 2 ^ 32 ∧ (t ≤ o ∨ l < 2 ^ 32 ∨ t ≤ o + l % 2 ^ 32)) ∨
    (2 ^ 32 ≤ o ∧ (t ≤ o % 2 ^ 32 ∨ (l % 2 ^ 32 = 0 ∧ t ≤ o)))

instance (t l o : Nat) : Decidable (Survives t l o) := by
  unfold Survives
  infer_instance

theorem narrowed_eq_iff {xs : List Device} {l o : Nat} (h : xs.Nodup) (hpos : 0 < l) :
    page xs (o % 2 ^ 32) (l % 2 ^ 32) = page xs o l ↔ Survives xs.length l o := by
  rw [page_eq_iff h, page_eq_nil_iff, page_eq_nil_iff]
  unfold Survives
  omega

/-- The devices of an application, as many as a slice has, with different EUIs. -/
structure Population where
  devices : List Item
  nodup : (devices.map Item.devEUI).Nodup
  fits : devices.length < 2 ^ 63

/-- ChirpStack, with the devices of each application that a search finds. -/
def serve (population : String → String → Population) (req : ListDevicesRequest) :
    Except String ListDevicesResponse :=
  let found := (population req.applicationID req.search).devices
  .ok ⟨.ofNat found.length, page found req.offset.toNat req.limit.toNat⟩

theorem nodup_toDevice (appTenantMap : String → String) (appID : String) (p : Population) :
    (p.devices.map (toDevice appTenantMap appID)).Nodup := by
  apply List.Nodup.of_map Device.devEUI
  rw [List.map_map]
  exact p.nodup

theorem singleApplication_devices {population : String → String → Population}
    {appTenantMap : String → String} {search appID : String} {l o : Nat} :
    (singleApplication (serve population) appTenantMap search appID l o).1 =
      page ((population appID search).devices.map (toDevice appTenantMap appID))
        (o % 2 ^ 32) (l % 2 ^ 32) := by
  show (page (population appID search).devices (UInt32.ofNat o).toNat (UInt32.ofNat l).toNat).map
    (toDevice appTenantMap appID) = _
  rw [page_map, UInt32.toNat_ofNat', UInt32.toNat_ofNat']

/-! ## Paging -/

/-- The ends of the slice are right, the pages of all the devices are the list, and ChirpStack's page of
    one application is the local one. -/
structure Paging (population : String → String → Population) (appTenantMap : String → String)
    (apps : List String) (appID : String) (query : Query) : Prop where
  bounds :
    let allDevices := collectDevices (serve population) appTenantMap query.search apps
    InBounds (bounds (.ofNat (pageLimit query)) (.ofNat (pageOffset query))
      (.ofNat allDevices.length)) (.ofNat allDevices.length)
  pages :
    let allDevices := collectDevices (serve population) appTenantMap query.search apps
    let limit := pageLimit query
    (∀ k < pageCount allDevices.length limit, (localPage allDevices limit (k * limit)).isSome) ∧
      (List.range (pageCount allDevices.length limit)).flatMap
        (fun k => (localPage allDevices limit (k * limit)).getD []) = allDevices
  single :
    localPage ((population appID query.search).devices.map (toDevice appTenantMap appID))
        (pageLimit query) (pageOffset query) =
      some (singleApplication (serve population) appTenantMap query.search appID (pageLimit query)
        (pageOffset query)).1

/-- **Paging**, for every limit and every offset of a query and all devices: exactly if the sums of the
    slices fit 64 bits and the page of the application survives the 32 bits. -/
theorem paging_iff {population : String → String → Population} {appTenantMap : String → String}
    {apps : List String} {appID : String} {query : Query}
    (hfits : (collectDevices (serve population) appTenantMap query.search apps).length < 2 ^ 63) :
    Paging population appTenantMap apps appID query ↔
      (min (pageOffset query)
          (collectDevices (serve population) appTenantMap query.search apps).length +
            pageLimit query < 2 ^ 63 ∧
        pageCount (collectDevices (serve population) appTenantMap query.search apps).length
          (pageLimit query) * pageLimit query < 2 ^ 63) ∧
      min (pageOffset query) (population appID query.search).devices.length + pageLimit query <
        2 ^ 63 ∧
      Survives (population appID query.search).devices.length (pageLimit query)
        (pageOffset query) := by
  obtain ⟨hpos, hl, ho⟩ := page_query query
  have hlength : ((population appID query.search).devices.map (toDevice appTenantMap appID)).length =
      (population appID query.search).devices.length := List.length_map _
  have hsingle : localPage ((population appID query.search).devices.map (toDevice appTenantMap appID))
        (pageLimit query) (pageOffset query) =
      some (singleApplication (serve population) appTenantMap query.search appID (pageLimit query)
        (pageOffset query)).1 ↔
      min (pageOffset query) (population appID query.search).devices.length + pageLimit query <
        2 ^ 63 ∧
      Survives (population appID query.search).devices.length (pageLimit query)
        (pageOffset query) := by
    rw [localPage_eq hl ho (by rw [hlength]; exact (population appID query.search).fits), hlength,
      singleApplication_devices, Option.ite_none_right_eq_some, Option.some_inj, eq_comm,
      narrowed_eq_iff (nodup_toDevice _ _ _) hpos, hlength]
  constructor
  · intro h
    exact ⟨⟨(bounds_ok_iff hl ho hfits).mp h.bounds, (localPages_iff hpos hl hfits).mp h.pages⟩,
      hsingle.mp h.single⟩
  · rintro ⟨⟨hbounds, hpages⟩, hnarrow⟩
    exact ⟨(bounds_ok_iff hl ho hfits).mpr hbounds, (localPages_iff hpos hl hfits).mpr hpages,
      hsingle.mpr hnarrow⟩

/-- An application with one device. -/
def oneDevice (_ _ : String) : Population :=
  ⟨[⟨"0000000000000001", "device", "", ""⟩], by decide, by decide⟩

def offsetQuery (offset : String) : Query := ⟨"", "", "", offset, ""⟩

/-- Of two applications with a device each, the second device. -/
theorem paging_iff_second :
    Paging oneDevice (fun _ => "") ["a", "b"] "a" (offsetQuery "1") :=
  (paging_iff (by decide)).mpr (by decide)

/-- ChirpStack is asked for the offset 0 in place of `2 ^ 32`. -/
theorem narrowed_offset : ¬ Paging oneDevice (fun _ => "") ["a", "b"] "a" (offsetQuery "4294967296") := by
  intro h
  exact absurd h.single (by decide)

end ChirpStackSimulator.DevicePages
