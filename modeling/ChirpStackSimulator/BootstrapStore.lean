/-
  What a bootstrap request finds and creates in ChirpStack.

  ChirpStack is a store of tenants, device profiles, applications and devices, each on the shelf of its
  owner.  A request looks for names on the first hundred entities of a shelf, and creates those that it
  does not find.

  1. **The store** - `Serves` says how each call of the request may be answered, and what it leaves.  A
     call that creates may fail, with or without its effect; a listing is a page of a shelf.
  2. **The names** of a request, and the shelves they belong to (`Target`).
  3. **One page** - the condition of convergence (`OnePage`): wanted names occur at most once, and a page
     has room for what is there and what is missing.  To create a missing name keeps it
     (`OnePage.adds`), and where nothing is missing nothing is created (`Complete.grown`).
  4. **Finding** - on such a shelf a name is on the page exactly if it is there (`knows_findID`).
  5. **A ChirpStack to run the model with** - `chirpStack` answers by the law (`serves_chirpStack`).
-/
import Mathlib.Logic.Relation
import ChirpStackSimulator.Bootstrap
import ChirpStackSimulator.Lib.Shelves

namespace ChirpStackSimulator.BootstrapStore

open Bootstrap Shelves

/-! ## The store -/

/-- The kinds of entities a bootstrap looks for and creates. -/
inductive Kind
  | tenant
  | profile
  | application
  | device
  deriving DecidableEq, Repr

/-- Where an entity stands: tenants stand alone, the others below a tenant or an application. -/
inductive Shelf
  | tenants
  | profiles (tenantID : String)
  | applications (tenantID : String)
  | devices (applicationID : String)
  deriving DecidableEq, Repr

/-- What stands on the shelf. -/
def Shelf.kind : Shelf → Kind
  | .tenants => .tenant
  | .profiles _ => .profile
  | .applications _ => .application
  | .devices _ => .device

/-- Whose shelf it is. -/
def Shelf.owner : Shelf → Option (Kind × String)
  | .tenants => none
  | .profiles tenantID => some (.tenant, tenantID)
  | .applications tenantID => some (.tenant, tenantID)
  | .devices applicationID => some (.application, applicationID)

/-- The identifier of a device is its EUI. -/
abbrev Entities := List (Entity Shelf String String)

/-- What ChirpStack holds. -/
structure Store where
  entities : Entities
  /-- The devices that have keys. -/
  keys : List String
  deriving DecidableEq

/-- The identifier is new, and nothing belongs to it. -/
def Fresh (s : Entities) (k : Shelf) (id : String) : Prop :=
  id ≠ "" ∧ ∀ e ∈ s, (e.shelf.kind = k.kind → e.id ≠ id) ∧ e.shelf.owner ≠ some (k.kind, id)

/-- An entity is created. -/
def Creates (s : Store) (k : Shelf) (id name : String) (s' : Store) : Prop :=
  Fresh s.entities k id ∧ s' = { s with entities := s.entities ++ [⟨k, id, name⟩] }

/-- Nothing is taken away. -/
theorem Creates.subset {s s' : Store} {k : Shelf} {id name : String}
    (h : Creates s k id name s') : ∀ e ∈ s.entities, e ∈ s'.entities := by
  rw [h.2]
  exact fun e he => List.mem_append_left _ he

/-- An entity as the listings show it. -/
def toItem (e : Entity Shelf String String) : ListItem := ⟨e.id, e.name⟩

def toDevice (e : Entity Shelf String String) : DeviceListItem := ⟨e.id, e.name⟩

/-- A listing is answered, with a page or an error. -/
def Lists {α : Type} (s : Store) (k : Shelf) (limit : Nat) (item : Entity Shelf String String → α)
    (x : Except RPCError (List α)) (s' : Store) : Prop :=
  s' = s ∧ ∀ items, x = .ok items →
    ∃ page, Page limit (shelf s.entities k) page ∧ items = page.map item

/-- A call that creates an entity is answered, with the new identifier or an error. -/
def MayCreate (s : Store) (k : Shelf) (name : String) (x : Except RPCError String) (s' : Store) :
    Prop :=
  match x with
  | .ok id => Creates s k id name s'
  | .error _ => s' = s ∨ ∃ id, Creates s k id name s'

/-- A call about the keys of a device is answered. -/
def ChangesKeys (s : Store) (devEUI : String) (s' : Store) : Prop :=
  s'.entities = s.entities ∧ ∀ eui, eui ≠ devEUI → (eui ∈ s'.keys ↔ eui ∈ s.keys)

/-- How the calls of the request may be answered. -/
def Serves (s : Store) : (c : Call) → c.Answer → Store → Prop
  | .rpc (.listTenants limit), x, s' => Lists s .tenants limit toItem x s'
  | .rpc (.createTenant tenant), x, s' => MayCreate s .tenants tenant.name x s'
  | .rpc (.listDeviceProfiles tenantID limit), x, s' =>
    Lists s (.profiles tenantID) limit toItem x s'
  | .rpc (.createDeviceProfile profile), x, s' =>
    MayCreate s (.profiles profile.tenantID) profile.name x s'
  | .rpc (.listApplications tenantID limit), x, s' =>
    Lists s (.applications tenantID) limit toItem x s'
  | .rpc (.createApplication app), x, s' => MayCreate s (.applications app.tenantID) app.name x s'
  | .rpc (.listDevices applicationID search limit offset), x, s' =>
    search = "" → offset = 0 → Lists s (.devices applicationID) limit toDevice x s'
  | .rpc (.createDevice device), x, s' =>
    (x = none → Creates s (.devices device.applicationID) device.devEUI device.name s') ∧
      (s' = s ∨ Creates s (.devices device.applicationID) device.devEUI device.name s')
  | .rpc (.deleteKeys devEUI), _, s' => ChangesKeys s devEUI s'
  | .rpc (.createKeys keys), x, s' =>
    ChangesKeys s keys.devEUI s' ∧ (x = none → keys.devEUI ∈ s'.keys)
  -- the request makes no other of ChirpStack's calls
  | .rpc _, _, _ => True
  | _, _, s' => s' = s

/-- It is no error. -/
def isOk {ε α : Type} : Except ε α → Bool
  | .ok _ => true
  | .error _ => false

theorem exists_of_isOk {ε α : Type} {x : Except ε α} (h : isOk x = true) : ∃ a, x = .ok a := by
  cases x with
  | ok a => exact ⟨a, rfl⟩
  | error e => cases h

/-- The shelf that the call is a listing of. -/
def listing : Call → Option Shelf
  | .rpc (.listTenants _) => some .tenants
  | .rpc (.listDeviceProfiles tenantID _) => some (.profiles tenantID)
  | .rpc (.listApplications tenantID _) => some (.applications tenantID)
  | .rpc (.listDevices applicationID _ _ _) => some (.devices applicationID)
  | _ => none

/-- The answer is none of an error; there may be no keys to delete. -/
def Succeeds : (c : Call) → c.Answer → Bool
  | .rpc (.listTenants _), x => isOk (α := List ListItem) x
  | .rpc (.listDeviceProfiles _ _), x => isOk (α := List ListItem) x
  | .rpc (.listApplications _ _), x => isOk (α := List ListItem) x
  | .rpc (.listDevices _ _ _ _), x => isOk (α := List DeviceListItem) x
  | .rpc (.createTenant _), x => isOk (α := String) x
  | .rpc (.createDeviceProfile _), x => isOk (α := String) x
  | .rpc (.createApplication _), x => isOk (α := String) x
  | .rpc (.createDevice _), x => Option.isNone (α := RPCError) x
  | .rpc (.createKeys _), x => Option.isNone (α := RPCError) x
  | .randRead n, x => isOk (α := Vector UInt8 n) x
  | _, _ => true

/-! ## The names of a request -/

section
variable (req : BootstrapRequest)

/-- The names the request asks for. -/
def dpNames : List String := (List.range' 1 req.dpCount.toNat).map (dpName req)

def appNames : List String := (List.range' 1 req.appCount.toNat).map (appName req)

def devNames (app : String) : List String := (List.range' 1 req.devCount.toNat).map (devName req app)

/-- Numbers with one text are one number. -/
theorem toString_injective : Function.Injective (toString : Nat → String) := by
  intro m n h
  have hdigits : Nat.toDigits 10 m = Nat.toDigits 10 n := by
    have hrepr : m.repr = n.repr := h
    have hlist := congrArg String.toList hrepr
    rwa [Nat.toList_repr, Nat.toList_repr] at hlist
  rw [← Nat.ofDigitChars_ten_toDigits (n := m), hdigits, Nat.ofDigitChars_ten_toDigits]

/-- Names that end in their numbers are distinct. -/
theorem nodup_numbered {f : Nat → String} {start : String} (hf : ∀ i, f i = start ++ toString i)
    (n : Nat) : ((List.range' 1 n).map f).Nodup := by
  refine List.Nodup.map ?_ List.nodup_range'
  intro i j h
  rw [hf, hf] at h
  exact toString_injective ((String.append_right_inj _).mp h)

theorem nodup_dpNames : (dpNames req).Nodup := nodup_numbered (fun _ => rfl) _

theorem nodup_appNames : (appNames req).Nodup := nodup_numbered (fun _ => rfl) _

theorem nodup_devNames (app : String) : (devNames req app).Nodup := nodup_numbered (fun _ => rfl) _

/-- A name determines its number. -/
theorem appName_injective : Function.Injective (appName req) := fun _ _ h =>
  toString_injective ((String.append_right_inj _).mp h)

theorem dpName_injective : Function.Injective (dpName req) := fun _ _ h =>
  toString_injective ((String.append_right_inj _).mp h)

theorem devName_injective (app : String) : Function.Injective (devName req app) := fun _ _ h =>
  toString_injective ((String.append_right_inj _).mp h)

end

/-! ## One page -/

/-- The shelves of the request, and the names that it wants there. -/
inductive Target (req : BootstrapRequest) (s : Entities) : Shelf → List String → Prop
  | tenants : Target req s .tenants [req.orgName]
  | profiles {tenantID : String} (htenant : ⟨.tenants, tenantID, req.orgName⟩ ∈ s) :
    Target req s (.profiles tenantID) (dpNames req)
  | applications {tenantID : String} (htenant : ⟨.tenants, tenantID, req.orgName⟩ ∈ s) :
    Target req s (.applications tenantID) (appNames req)
  | devices {tenantID appID name : String} (htenant : ⟨.tenants, tenantID, req.orgName⟩ ∈ s)
    (happ : ⟨.applications tenantID, appID, name⟩ ∈ s) (hname : name ∈ appNames req) :
    Target req s (.devices appID) (devNames req name)

/-- Identifiers are not empty, and two entities of a kind have not the same one. -/
structure Wf (s : Entities) : Prop where
  nonempty : ∀ e ∈ s, e.id ≠ ""
  unique : (s.map fun e => (e.shelf.kind, e.id)).Nodup

/-- On each shelf of the request the wanted names occur at most once, and a page has room for what is
    there and what is missing. -/
structure OnePage (req : BootstrapRequest) (s : Entities) : Prop where
  wf : Wf s
  profiles : (dpNames req).length ≤ 100
  applications : (appNames req).length ≤ 100
  devices : ∀ app, (devNames req app).length ≤ 100
  fits : ∀ k ns, Target req s k ns → Fits 100 ns (shelf s k)

/-- All the wanted names are there. -/
def Complete (req : BootstrapRequest) (s : Entities) : Prop :=
  ∀ k ns, Target req s k ns → ∀ n ∈ ns, Has s k n

/-- A listing that fails is of a shelf where no wanted name is. -/
def Finds (req : BootstrapRequest) (s : Store) (c : Call) (x : c.Answer) : Prop :=
  Succeeds c x = false → ∀ k ∈ listing c, ∀ ns, Target req s.entities k ns →
    ∀ n ∈ ns, ¬ Has s.entities k n

/-- The law of an answer that misses nothing; in a clean run it is none of an error. -/
def Lawful (req : BootstrapRequest) (clean : Prop) (s : Store) (c : Call) (x : c.Answer)
    (s' : Store) : Prop :=
  Serves s c x s' ∧ Finds req s c x ∧ (clean → Succeeds c x)

/-- A missing name of the request is created. -/
inductive Adds (req : BootstrapRequest) (s : Entities) : Entities → Prop
  | intro {k : Shelf} {ns : List String} {id name : String} (htarget : Target req s k ns)
    (hname : name ∈ ns) (hnone : ¬ Has s k name) (hfresh : Fresh s k id) :
    Adds req s (s ++ [⟨k, id, name⟩])

/-- Missing names of the request are created, one after another. -/
abbrev Grown (req : BootstrapRequest) : Entities → Entities → Prop := Relation.ReflTransGen (Adds req)

section
variable {req : BootstrapRequest} {s t : Entities}

theorem Wf.eq (h : Wf s) {d e : Entity Shelf String String} (hd : d ∈ s) (he : e ∈ s)
    (hkind : d.shelf.kind = e.shelf.kind) (hid : d.id = e.id) : d = e :=
  List.inj_on_of_nodup_map h.unique hd he (Prod.ext hkind hid)

/-- A fresh id keeps the store well-formed. -/
theorem Wf.append (h : Wf s) {e : Entity Shelf String String} (hfresh : Fresh s e.shelf e.id) :
    Wf (s ++ [e]) where
  nonempty := by
    intro d hd
    rcases List.mem_append.mp hd with hd | hd
    · exact h.nonempty d hd
    · rw [List.mem_singleton.mp hd]
      exact hfresh.1
  unique := by
    rw [List.map_append, List.nodup_append]
    refine ⟨h.unique, List.nodup_singleton _, ?_⟩
    rintro _ hd _ he rfl
    obtain ⟨d, hd, hde⟩ := List.mem_map.mp hd
    rw [List.map_singleton, List.mem_singleton] at he
    obtain ⟨hkind, hid⟩ := Prod.mk.inj (hde.trans he)
    exact (hfresh.2 d hd).1 hkind hid

/-- The names that a shelf is wanted for are determined by the shelf. -/
theorem Target.names_eq (hwf : Wf s) {k : Shelf} {ns ns' : List String} (h : Target req s k ns)
    (h' : Target req s k ns') : ns = ns' := by
  cases h with
  | tenants =>
    cases h'
    rfl
  | profiles =>
    cases h'
    rfl
  | applications =>
    cases h'
    rfl
  | devices htenant happ hname =>
    cases h' with
    | devices htenant' happ' hname' =>
      have heq := hwf.eq happ happ' rfl rfl
      cases heq
      rfl

theorem Target.nodup {k : Shelf} {ns : List String} (h : Target req s k ns) : ns.Nodup := by
  cases h with
  | tenants => exact List.nodup_singleton _
  | profiles => exact nodup_dpNames req
  | applications => exact nodup_appNames req
  | devices => exact nodup_devNames req _

/-- What is a target stays one as the store grows. -/
theorem Target.append {k : Shelf} {ns : List String} (h : Target req s k ns)
    (e : Entity Shelf String String) : Target req (s ++ [e]) k ns := by
  cases h with
  | tenants => exact .tenants
  | profiles htenant => exact .profiles (List.mem_append_left _ htenant)
  | applications htenant => exact .applications (List.mem_append_left _ htenant)
  | devices htenant happ hname =>
    exact .devices (List.mem_append_left _ htenant) (List.mem_append_left _ happ) hname

/-- A new owner has an empty shelf. -/
theorem shelf_owned {e : Entity Shelf String String} (hfresh : Fresh s e.shelf e.id) {k : Shelf}
    (howner : k.owner = some (e.shelf.kind, e.id)) (hne : e.shelf ≠ k) : shelf (s ++ [e]) k = [] := by
  rw [shelf_append_ne s hne]
  refine List.filter_eq_nil_iff.mpr fun d hd hk => (hfresh.2 d hd).2 ?_
  rw [of_decide_eq_true hk, howner]

/-- A target after a creation was one before, or is the empty shelf of what was created. -/
theorem Target.of_append {k : Shelf} {ns : List String} {e : Entity Shelf String String}
    (hfresh : Fresh s e.shelf e.id) (h : Target req (s ++ [e]) k ns) :
    Target req s k ns ∨ shelf (s ++ [e]) k = [] := by
  cases h with
  | tenants => exact Or.inl .tenants
  | profiles htenant =>
    rcases List.mem_append.mp htenant with htenant | htenant
    · exact Or.inl (.profiles htenant)
    · cases List.mem_singleton.mp htenant
      exact Or.inr (shelf_owned hfresh rfl Shelf.noConfusion)
  | applications htenant =>
    rcases List.mem_append.mp htenant with htenant | htenant
    · exact Or.inl (.applications htenant)
    · cases List.mem_singleton.mp htenant
      exact Or.inr (shelf_owned hfresh rfl Shelf.noConfusion)
  | devices htenant happ hname =>
    rcases List.mem_append.mp happ with hold | hnew
    · rcases List.mem_append.mp htenant with htenant | htenant
      · exact Or.inl (.devices htenant hold hname)
      · -- nothing belongs to a new tenant
        have howner := (hfresh.2 _ hold).2
        cases List.mem_singleton.mp htenant
        exact absurd rfl howner
    · cases List.mem_singleton.mp hnew
      exact Or.inr (shelf_owned hfresh rfl Shelf.noConfusion)

/-- So many names fit on the page. -/
theorem OnePage.length_le (h : OnePage req s) {k : Shelf} {ns : List String}
    (htarget : Target req t k ns) : ns.length ≤ 100 := by
  cases htarget with
  | tenants => exact Nat.le_of_ble_eq_true rfl
  | profiles => exact h.profiles
  | applications => exact h.applications
  | devices => exact h.devices _

/-- A new ChirpStack has room for a page of each. -/
theorem onePage_nil (hdp : (dpNames req).length ≤ 100) (happ : (appNames req).length ≤ 100)
    (hdev : ∀ app, (devNames req app).length ≤ 100) : OnePage req [] where
  wf := ⟨fun _ he => absurd he List.not_mem_nil, List.nodup_nil⟩
  profiles := hdp
  applications := happ
  devices := hdev
  fits := by
    intro k ns htarget
    cases htarget with
    | tenants => exact fits_nil (Nat.le_of_ble_eq_true rfl)
    | profiles htenant => cases htenant
    | applications htenant => cases htenant
    | devices htenant => cases htenant

/-- **Creating a missing name** keeps the condition. -/
theorem OnePage.adds (h : OnePage req s) (hadds : Adds req s t) : OnePage req t := by
  obtain ⟨htarget, hname, hnone, hfresh⟩ := hadds
  next k ns id name =>
  refine ⟨h.wf.append hfresh, h.profiles, h.applications, h.devices, fun k' ns' htarget' => ?_⟩
  rcases htarget'.of_append hfresh with hold | hempty
  · by_cases hk : k = k'
    · subst hk
      rw [Target.names_eq h.wf hold htarget, shelf_append_self]
      refine (h.fits k ns htarget).create htarget.nodup hname ?_
      refine count_eq_zero.mpr fun e he hen => hnone ?_
      obtain ⟨he, hek⟩ := mem_shelf.mp he
      exact ⟨e, he, hek, hen⟩
    · rw [shelf_append_ne s hk]
      exact h.fits k' ns' hold
  · rw [hempty]
    exact fits_nil (h.length_le htarget')

/-- One missing name after the other, by induction. -/
theorem OnePage.grown (h : OnePage req s) (hgrown : Grown req s t) : OnePage req t := by
  induction hgrown with
  | refl => exact h
  | tail _ hadds ih => exact ih.adds hadds

/-- **Nothing is missing**, and nothing is created. -/
theorem Complete.grown (h : Complete req s) (hgrown : Grown req s t) : t = s := by
  rcases Relation.ReflTransGen.cases_head hgrown with heq | ⟨u, hadds, -⟩
  · exact heq.symm
  · obtain ⟨htarget, hname, hnone, -⟩ := hadds
    exact absurd (h _ _ htarget _ hname) hnone

/-- A wanted name is that of one entity. -/
theorem OnePage.eq (h : OnePage req s) {k : Shelf} {ns : List String} (htarget : Target req s k ns)
    {d e : Entity Shelf String String} (hd : d ∈ s) (he : e ∈ s) (hdk : d.shelf = k)
    (hek : e.shelf = k) (hname : d.name = e.name) (hmem : e.name ∈ ns) : d = e :=
  eq_of_count_le_one ((h.fits k ns htarget).unique _ hmem) (mem_shelf.mpr ⟨hd, hdk⟩)
    (mem_shelf.mpr ⟨he, hek⟩) hname rfl

end

/-! ## Finding -/

/-- `id` is what the request has found for the name: that of the entity, or empty. -/
structure Knows (s : Entities) (k : Shelf) (name id : String) : Prop where
  found : id ≠ "" → ⟨k, id, name⟩ ∈ s
  absent : id = "" → ¬ Has s k name

section
variable {s : Entities} {k : Shelf} {name id : String}

/-- What is created beside it does not matter. -/
theorem Knows.append (h : Knows s k name id) {e : Entity Shelf String String}
    (hne : ¬ (e.shelf = k ∧ e.name = name)) : Knows (s ++ [e]) k name id where
  found := fun hid => List.mem_append_left _ (h.found hid)
  absent := fun hid => by
    rw [has_append_iff hne]
    exact h.absent hid

theorem Knows.has (h : Knows s k name id) (hid : id ≠ "") : Has s k name :=
  ⟨_, h.found hid, rfl, rfl⟩

/-- The first entity of the page with the name. -/
theorem knows_find {page : List (Entity Shelf String String)} (hwf : Wf s)
    (hpage : page.Perm (shelf s k)) (name : String) :
    Knows s k name (((page.find? fun e => e.name = name).map (·.id)).getD "") ∧
      ((page.find? fun e => e.name = name).isSome ↔
        ((page.find? fun e => e.name = name).map (·.id)).getD "" ≠ "") := by
  cases hfind : page.find? fun e => e.name = name with
  | none =>
    refine ⟨⟨fun h => absurd rfl h, fun _ => ?_⟩, by simp⟩
    rintro ⟨e, he, hk, hn⟩
    have hmem : e ∈ page := hpage.mem_iff.mpr (mem_shelf.mpr ⟨he, hk⟩)
    have hnot := List.find?_eq_none.mp hfind e hmem
    simp only [decide_eq_true_eq] at hnot
    exact hnot hn
  | some e =>
    have hmem : e ∈ shelf s k := hpage.mem_iff.mp (List.mem_of_find?_eq_some hfind)
    obtain ⟨he, hk⟩ := mem_shelf.mp hmem
    have hn : e.name = name := by
      have := List.find?_some hfind
      simpa using this
    have hid : e.id ≠ "" := hwf.nonempty e he
    refine ⟨⟨fun _ => ?_, fun h => absurd h hid⟩, ⟨fun _ => hid, fun _ => rfl⟩⟩
    obtain ⟨shelf, id, name'⟩ := e
    cases hk
    cases hn
    exact he

/-- The search of the handler, as a search of the list. -/
theorem findID_eq (items : List ListItem) (name : String) :
    findID items name = ((items.find? fun item => item.name = name).map (·.id)).getD "" := by
  unfold findID
  cases items.find? fun item => item.name = name with
  | none => rfl
  | some item => rfl

theorem findEUI_eq (existing : List DeviceListItem) (name : String) :
    findEUI existing name =
      ((existing.find? fun dev => dev.name = name).map (·.devEUI)).getD "" := by
  unfold findEUI
  cases existing.find? fun dev => dev.name = name with
  | none => rfl
  | some dev => rfl

/-- A listing of tenants, profiles or applications that fits on a page. -/
theorem knows_findID {page : List (Entity Shelf String String)} (hwf : Wf s)
    (hpage : page.Perm (shelf s k)) (name : String) :
    Knows s k name (findID (page.map toItem) name) := by
  have heq : findID (page.map toItem) name =
      ((page.find? fun e => e.name = name).map (·.id)).getD "" := by
    rw [findID_eq, List.find?_map, Option.map_map]
    rfl
  rw [heq]
  exact (knows_find hwf hpage name).1

/-- A listing of devices, where the request looks twice. -/
theorem knows_findEUI {page : List (Entity Shelf String String)} (hwf : Wf s)
    (hpage : page.Perm (shelf s k)) (name : String) :
    Knows s k name (findEUI (page.map toDevice) name) ∧
      ((page.map toDevice).any (fun dev => dev.name = name) = true ↔
        findEUI (page.map toDevice) name ≠ "") := by
  have heq : findEUI (page.map toDevice) name =
      ((page.find? fun e => e.name = name).map (·.id)).getD "" := by
    rw [findEUI_eq, List.find?_map, Option.map_map]
    rfl
  obtain ⟨hknows, hsome⟩ := knows_find hwf hpage name
  rw [heq]
  refine ⟨hknows, ?_⟩
  rw [← hsome, List.find?_isSome, List.any_map, List.any_eq_true]
  rfl

end

/-! ## A ChirpStack to run the model with -/

instance (s : Entities) (k : Shelf) (id : String) : Decidable (Fresh s k id) :=
  inferInstanceAs (Decidable (id ≠ "" ∧
    ∀ e ∈ s, (e.shelf.kind = k.kind → e.id ≠ id) ∧ e.shelf.owner ≠ some (k.kind, id)))

/-- The store with the entity, if the identifier is free. -/
def add (s : Store) (k : Shelf) (id name : String) : Option Store :=
  if Fresh s.entities k id then some { s with entities := s.entities ++ [⟨k, id, name⟩] } else none

/-- It is created under the next number. -/
def create (s : Store) (k : Shelf) (name : String) : Except RPCError String × Store :=
  let id := "#" ++ toString s.entities.length
  match add s k id name with
  | none => (.error ⟨false, "already exists"⟩, s)
  | some s' => (.ok id, s')

/-- A device is created, if devices are. -/
def createDevice (devices : Bool) (s : Store) (device : DeviceRecord) : Option RPCError × Store :=
  match if devices then add s (.devices device.applicationID) device.devEUI device.name else none with
  | none => (some ⟨false, "unavailable"⟩, s)
  | some s' => (none, s')

/-- A ChirpStack that lists in the order of creation; it creates devices or refuses to. -/
def answerRPC (devices : Bool) (s : Store) : (r : RPC) → r.Answer × Store
  | .listTenants limit => (.ok (((shelf s.entities .tenants).take limit).map toItem), s)
  | .createTenant tenant => create s .tenants tenant.name
  | .listDeviceProfiles tenantID limit =>
    (.ok (((shelf s.entities (.profiles tenantID)).take limit).map toItem), s)
  | .createDeviceProfile profile => create s (.profiles profile.tenantID) profile.name
  | .listApplications tenantID limit =>
    (.ok (((shelf s.entities (.applications tenantID)).take limit).map toItem), s)
  | .createApplication app => create s (.applications app.tenantID) app.name
  | .listDevices applicationID _ limit _ =>
    (.ok (((shelf s.entities (.devices applicationID)).take limit).map toDevice), s)
  | .createDevice device => createDevice devices s device
  | .deleteKeys devEUI => (none, { s with keys := s.keys.filter (· ≠ devEUI) })
  | .createKeys keys => (none, { s with keys := s.keys ++ [keys.devEUI] })
  | r => (r.unavailable, s)

/-- With an empty database, and a random source that always returns zero. -/
def chirpStack (devices : Bool) (s : Store) : (c : Call) → c.Answer × Store
  | .rpc r => answerRPC devices s r
  | c => (Call.answer RPC.unavailable c, s)

/-- What is added is created on its shelf. -/
theorem creates_of_add {s s' : Store} {k : Shelf} {id name : String} (h : add s k id name = some s') :
    Creates s k id name s' := by
  unfold add at h
  split at h
  · next hfresh =>
    cases h
    exact ⟨hfresh, rfl⟩
  · cases h

/-- It creates what it is asked for, or leaves everything as it was. -/
theorem mayCreate_create (s : Store) (k : Shelf) (name : String) :
    MayCreate s k name (create s k name).1 (create s k name).2 := by
  simp only [create]
  split
  · exact Or.inl rfl
  · next s' h => exact creates_of_add h

/-- A listing shows the first entities of the shelf. -/
theorem lists_take {α : Type} (s : Store) (k : Shelf) (limit : Nat)
    (item : Entity Shelf String String → α) :
    Lists s k limit item (.ok (((shelf s.entities k).take limit).map item)) s := by
  refine ⟨rfl, fun items h => ⟨_, ⟨_, List.Perm.refl _, rfl⟩, ?_⟩⟩
  cases h
  rfl

theorem creates_createDevice (devices : Bool) (s : Store) (device : DeviceRecord) :
    ((createDevice devices s device).1 = none → Creates s (.devices device.applicationID)
        device.devEUI device.name (createDevice devices s device).2) ∧
      ((createDevice devices s device).2 = s ∨ Creates s (.devices device.applicationID)
        device.devEUI device.name (createDevice devices s device).2) := by
  unfold createDevice
  split
  · exact ⟨fun h => (by cases h), Or.inl rfl⟩
  · next s' h =>
    have hadd : add s (.devices device.applicationID) device.devEUI device.name = some s' := by
      cases devices with
      | true => exact h
      | false => cases h
    exact ⟨fun _ => creates_of_add hadd, Or.inr (creates_of_add hadd)⟩

/-- **It answers by the law**, call by call. -/
theorem serves_chirpStack (devices : Bool) (s : Store) (c : Call) :
    Serves s c (chirpStack devices s c).1 (chirpStack devices s c).2 := by
  cases c with
  | rpc r =>
    cases r with
    | listTenants limit => exact lists_take ..
    | createTenant tenant => exact mayCreate_create ..
    | listDeviceProfiles tenantID limit => exact lists_take ..
    | createDeviceProfile profile => exact mayCreate_create ..
    | listApplications tenantID limit => exact lists_take ..
    | createApplication app => exact mayCreate_create ..
    | listDevices applicationID search limit offset => exact fun _ _ => lists_take ..
    | createDevice device => exact creates_createDevice ..
    | deleteKeys devEUI =>
      refine ⟨rfl, fun eui hne => ?_⟩
      show eui ∈ s.keys.filter (· ≠ devEUI) ↔ _
      rw [List.mem_filter, and_iff_left (decide_eq_true hne)]
    | createKeys keys =>
      refine ⟨⟨rfl, fun eui hne => ?_⟩, fun _ => List.mem_append_right _ (List.mem_singleton.mpr rfl)⟩
      show eui ∈ s.keys ++ [keys.devEUI] ↔ _
      rw [List.mem_append, List.mem_singleton, or_iff_left hne]
    | _ => trivial
  | _ => rfl

/-- None of its listings fails. -/
theorem finds_chirpStack (req : BootstrapRequest) (devices : Bool) (s : Store) (c : Call) :
    Finds req s c (chirpStack devices s c).1 := by
  intro hfail k hk
  cases c with
  | rpc r =>
    cases r with
    | listTenants limit => cases hfail
    | listDeviceProfiles tenantID limit => cases hfail
    | listApplications tenantID limit => cases hfail
    | listDevices applicationID search limit offset => cases hfail
    | _ => cases hk
  | _ => cases hk

end ChirpStackSimulator.BootstrapStore
