/-
  Snapshots of the ChirpStack topology (`internal/api/passive_sync.go`).

  A snapshot is made by five nested listings.  The tenants are listed first, and without them there
  is no snapshot; every other listing that fails is logged and left out, and with an application
  listing all the devices below it.

  1. **Server** — `Topology` is what ChirpStack holds, `Failures` which of the calls fail.  Every
     call has a limit, 200 for the tenants and 1000 below them; there is no second page.
  2. **`takeSnapshot`**, and what it sees: `Topology.Seen` says of an id, kind by kind, when it
     comes into a snapshot, and `mem_takeSnapshot_iff` that nothing else does.
  3. **`compareSnapshots`**, along the lists; `SnapshotDiff.lean` has it in any order of the ranges.
     The five kinds differ in their lists and texts only.
-/
import Mathlib.Data.List.Sort

namespace ChirpStackSimulator.PassiveSync

/-! ## The server -/

inductive Kind where
  | tenant
  | gateway
  | deviceProfile
  | application
  | device
  deriving DecidableEq

/-- What ChirpStack holds: the ids of the tenants, those below each tenant, and the devices of each
    application, in the order it lists them. -/
structure Topology where
  tenants : List String
  gateways : String → List String
  deviceProfiles : String → List String
  applications : String → List String
  devices : String → List String

/-- The list calls of one snapshot that fail, with the server's error. -/
structure Failures where
  tenants : Option String
  gateways : String → Option String
  deviceProfiles : String → Option String
  applications : String → Option String
  devices : String → Option String

/-- All list calls succeed. -/
def Failures.none : Failures :=
  ⟨.none, fun _ => .none, fun _ => .none, fun _ => .none, fun _ => .none⟩

/-- A list call: the first `limit` ids, or an error. -/
def list (fails : Option String) (limit : Nat) (ids : List String) : Except String (List String) :=
  match fails with
  | some e => .error e
  | none => .ok (ids.take limit)

/-! ## `takeSnapshot` -/

structure TopologySnapshot where
  tenantIDs : List String
  gatewayEUIs : List String
  deviceProfileIDs : List String
  applicationIDs : List String
  deviceEUIs : List String
  takenAt : Nat
  deriving DecidableEq

def TopologySnapshot.ids (snap : TopologySnapshot) : Kind → List String
  | .tenant => snap.tenantIDs
  | .gateway => snap.gatewayEUIs
  | .deviceProfile => snap.deviceProfileIDs
  | .application => snap.applicationIDs
  | .device => snap.deviceEUIs

/-- `sort.Strings`. -/
def sortStrings (ids : List String) : List String := ids.insertionSort (· ≤ ·)

@[simp] theorem mem_sortStrings {x : String} {ids : List String} : x ∈ sortStrings ids ↔ x ∈ ids :=
  List.mem_insertionSort _

/-- The listings below each of the parents; one that fails is left out. -/
def listBelow (parents : List String) (fails : String → Option String)
    (below : String → List String) : List String :=
  parents.flatMap fun id =>
    match list (fails id) 1000 (below id) with
    | .error _ => []
    | .ok ids => ids

/-- `takeSnapshot`; `now` is `time.Now()`. -/
def takeSnapshot (t : Topology) (f : Failures) (now : Nat) : Except String TopologySnapshot :=
  match list f.tenants 200 t.tenants with
  | .error e => .error ("list tenants: " ++ e)
  | .ok tenants =>
    let tenantIDs := sortStrings tenants
    let gatewayEUIs := sortStrings (listBelow tenantIDs f.gateways t.gateways)
    let deviceProfileIDs := sortStrings (listBelow tenantIDs f.deviceProfiles t.deviceProfiles)
    let applicationIDs := sortStrings (listBelow tenantIDs f.applications t.applications)
    let deviceEUIs := sortStrings (listBelow applicationIDs f.devices t.devices)
    .ok ⟨tenantIDs, gatewayEUIs, deviceProfileIDs, applicationIDs, deviceEUIs, now⟩

/-! ## What a snapshot sees -/

/-- One of the first 1000 ids below a parent that is listed without an error. -/
def ListedBelow (fails : String → Option String) (below : String → List String)
    (parent id : String) : Prop :=
  fails parent = none ∧ id ∈ (below parent).take 1000

/-- What a snapshot sees of the topology if so many of its calls fail: the first 200 tenants, what
    their listings show, and the devices of the applications it sees. -/
def Topology.Seen (t : Topology) (f : Failures) : Kind → String → Prop
  | .tenant, id => id ∈ t.tenants.take 200
  | .gateway, id => ∃ tenant ∈ t.tenants.take 200, ListedBelow f.gateways t.gateways tenant id
  | .deviceProfile, id =>
    ∃ tenant ∈ t.tenants.take 200, ListedBelow f.deviceProfiles t.deviceProfiles tenant id
  | .application, id =>
    ∃ tenant ∈ t.tenants.take 200, ListedBelow f.applications t.applications tenant id
  | .device, id =>
    ∃ app, (∃ tenant ∈ t.tenants.take 200, ListedBelow f.applications t.applications tenant app) ∧
      ListedBelow f.devices t.devices app id

theorem mem_listBelow {parents : List String} {fails : String → Option String}
    {below : String → List String} {id : String} :
    id ∈ listBelow parents fails below ↔ ∃ parent ∈ parents, ListedBelow fails below parent id := by
  rw [listBelow, List.mem_flatMap]
  refine exists_congr fun parent => and_congr_right fun _ => ?_
  unfold ListedBelow list
  cases fails parent <;> simp

/-- A snapshot is made unless the tenants cannot be listed. -/
theorem takeSnapshot_ok_iff {t : Topology} {f : Failures} {now : Nat} :
    (∃ snap, takeSnapshot t f now = .ok snap) ↔ f.tenants = none := by
  unfold takeSnapshot list
  cases f.tenants <;> simp

theorem takenAt_takeSnapshot {t : Topology} {f : Failures} {now : Nat} {snap : TopologySnapshot}
    (h : takeSnapshot t f now = .ok snap) : snap.takenAt = now := by
  unfold takeSnapshot at h
  split at h
  · exact absurd h (by simp)
  · obtain rfl := Except.ok.inj h
    rfl

/-- **A snapshot holds exactly what it sees.** -/
theorem mem_takeSnapshot_iff {t : Topology} {f : Failures} {now : Nat} {snap : TopologySnapshot}
    (h : takeSnapshot t f now = .ok snap) (k : Kind) (id : String) :
    id ∈ snap.ids k ↔ t.Seen f k id := by
  unfold takeSnapshot at h
  split at h
  · exact absurd h (by simp)
  · rename_i tenants htenants
    obtain rfl := Except.ok.inj h
    have htenants' : tenants = t.tenants.take 200 := by
      unfold list at htenants
      cases hf : f.tenants <;> simp [hf] at htenants
      exact htenants.symm
    subst htenants'
    cases k <;> simp [TopologySnapshot.ids, Topology.Seen, mem_listBelow]

/-! ## `compareSnapshots` -/

/-- `diffSlices`: the ids added and the ids removed.  The code ranges over a map, so their order is
    any; here it is that of the slices. -/
def diffSlices (old new : List String) : List String × List String :=
  (new.eraseDups.filter fun v => v ∉ old, old.eraseDups.filter fun v => v ∉ new)

def Kind.addedText : Kind → List String → String
  | .tenant, added => "Yeni tenant eklendi: " ++ ", ".intercalate added
  | .gateway, added => "Yeni gateway eklendi: " ++ ", ".intercalate added
  | .deviceProfile, added => "Yeni device profile eklendi (" ++ toString added.length ++ " adet)"
  | .application, added => "Yeni uygulama eklendi (" ++ toString added.length ++ " adet)"
  | .device, added => "Yeni cihaz eklendi (" ++ toString added.length ++ " adet)"

def Kind.removedText : Kind → List String → String
  | .tenant, removed => "Tenant silindi: " ++ ", ".intercalate removed
  | .gateway, removed => "Gateway silindi: " ++ ", ".intercalate removed
  | .deviceProfile, removed => "Device profile silindi (" ++ toString removed.length ++ " adet)"
  | .application, removed => "Uygulama silindi (" ++ toString removed.length ++ " adet)"
  | .device, removed => "Cihaz silindi (" ++ toString removed.length ++ " adet)"

/-- The entries of one kind. -/
def compareIDs (k : Kind) (old new : List String) : List String :=
  let (added, removed) := diffSlices old new
  (if added.length > 0 then [k.addedText added] else []) ++
    (if removed.length > 0 then [k.removedText removed] else [])

/-- `compareSnapshots`. -/
def compareSnapshots (old new : TopologySnapshot) : List String :=
  compareIDs .tenant old.tenantIDs new.tenantIDs ++
  compareIDs .gateway old.gatewayEUIs new.gatewayEUIs ++
  compareIDs .deviceProfile old.deviceProfileIDs new.deviceProfileIDs ++
  compareIDs .application old.applicationIDs new.applicationIDs ++
  compareIDs .device old.deviceEUIs new.deviceEUIs

/-- The ids of `new` that are not in `old`, each once. -/
def fresh (old new : List String) : List String := (diffSlices old new).1

theorem mem_fresh {old new : List String} {id : String} :
    id ∈ fresh old new ↔ id ∈ new ∧ id ∉ old := by
  simp [fresh, diffSlices, List.mem_eraseDups]

/-- Two snapshots see the same entities. -/
def SameIDs (old new : TopologySnapshot) : Prop := ∀ k id, id ∈ old.ids k ↔ id ∈ new.ids k

end ChirpStackSimulator.PassiveSync
