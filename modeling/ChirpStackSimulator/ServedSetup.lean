/-
  What a passive simulation loads from a ChirpStack that answers truly (`simulation.init`).

  A `Server` is what ChirpStack holds, except for the applications, which come and go: they are a list
  for each tenant at the moment a simulation is set up.  `Served` says of a call and its answer that
  the answer is true; only the calls a set-up makes are constrained, and of them only those about
  things that are there.

  1. **Server** — with the invariants ChirpStack keeps, and `Served`.
  2. **Devices** — the pages of a listing make up the whole list (`served_listAllDevices`), and the
     devices loaded are those with a usable key and maybe some to which keys were given
     (`served_loadDevices`).
  3. **`resolve`** — the application a name is taken for.
  4. **`init`** — `served_init`.
  5. **`runSimulation`** — with a random source that comes to every gateway, each device loaded is made
     once (`run_newDevices`, `served_start`).
-/
import ChirpStackSimulator.FailedInit
import Mathlib.Data.List.Perm.Subperm

namespace ChirpStackSimulator.Setup

open LoRaWAN

/-- Identifiers are read back from the text ChirpStack writes them in, and the default topic templates
    parse. -/
structure Parsers.Lawful (lib : Parsers) : Prop where
  eui64 : ∀ id : EUI64, lib.eui64 (Hex.encode id.toList) = .ok id
  event : lib.template defaultEventTopicTemplate = .ok ()
  command : lib.template defaultCommandTopicTemplate = .ok ()

/-! ## Server -/

/-- A device as ChirpStack has it. -/
structure ServedDevice where
  devEUI : EUI64
  name : String
  isDisabled : Bool
  keys : Option DeviceKeys
  deriving DecidableEq

/-- Its EUI as ChirpStack writes it. -/
def ServedDevice.text (d : ServedDevice) : String := Hex.encode d.devEUI.toList

def ServedDevice.item (d : ServedDevice) : DeviceListItem := ⟨d.text, d.name⟩

/-- It is enabled and has a usable key. -/
def ServedDevice.Usable (lib : Parsers) (d : ServedDevice) : Prop :=
  d.isDisabled = false ∧ ∃ keys ∈ d.keys, ∃ appKey, lib.aes128Key (keyText keys) = .ok appKey

/-- What ChirpStack holds apart from applications: the gateways and profiles of each tenant, and the
    devices of each application.  An EUI is that of one device of one application; the number of
    devices in a listing is a 32-bit number. -/
structure Server (lib : Parsers) where
  tenants : List ListItem
  gateways : String → List EUI64
  profiles : String → List ListItem
  devices : String → List ServedDevice
  tenants_nodup : (tenants.map ListItem.id).Nodup
  profiles_parse : ∀ tenantID, ∀ profile ∈ profiles tenantID, ∃ id, lib.uuid profile.id = .ok id
  devices_nodup : ∀ appID, ((devices appID).map ServedDevice.devEUI).Nodup
  devices_apart : ∀ appID appID' d d', d ∈ devices appID → d' ∈ devices appID' →
    d.devEUI = d'.devEUI → appID = appID'
  devices_few : ∀ appID, (devices appID).length < 4294967296

/-- The applications of each tenant at one moment. -/
abbrev Applications := String → List ListItem

/-- The application is there. -/
def Applications.Has (apps : Applications) (appID : String) : Prop :=
  ∃ tenantID, ∃ app ∈ apps tenantID, app.id = appID

section
variable {lib : Parsers} (srv : Server lib) (apps : Applications)

/-- The answer is true. -/
def Served : (c : Call) → c.Answer → Prop
  | .rpc (.listTenants limit), x => x = .ok (srv.tenants.take limit)
  | .rpc (.getTenant id), x =>
    id ∈ srv.tenants.map ListItem.id → ∃ tenant, x = .ok tenant ∧ tenant.id = id
  | .rpc (.listGateways tenantID limit), x => ∃ items : List ListItem, x = .ok items ∧
    items.map ListItem.id = ((srv.gateways tenantID).take limit).map fun id => Hex.encode id.toList
  | .rpc (.listDeviceProfiles tenantID limit), x => x = .ok ((srv.profiles tenantID).take limit)
  | .rpc (.listApplications tenantID limit), x => x = .ok ((apps tenantID).take limit)
  | .rpc (.listDevices appID search limit offset), x => search = "" → apps.Has appID →
    x = .ok ((((srv.devices appID).drop offset.toNat).take limit).map ServedDevice.item)
  | .rpc (.getDevice devEUI), x => ∀ appID, ∀ d ∈ srv.devices appID, apps.Has appID →
    devEUI = d.text → ∃ device, x = .ok device ∧ device.isDisabled = d.isDisabled
  | .rpc (.getKeys devEUI), x => ∀ appID, ∀ d ∈ srv.devices appID, apps.Has appID →
    devEUI = d.text → ∀ keys ∈ d.keys, x = .ok keys
  | _, _ => True

variable {srv apps}

/-! ## Devices -/

theorem served_listAllDevices {appID : String} (happ : apps.Has appID) {fuel : Nat}
    {offset : UInt32} {allDevices : List DeviceListItem}
    (hoffset : offset.toNat ≤ (srv.devices appID).length)
    (hall : allDevices = ((srv.devices appID).take offset.toNat).map ServedDevice.item)
    (hfuel : (srv.devices appID).length < offset.toNat + 1000 * fuel) :
    (listAllDevices appID fuel offset allDevices).Keeps (Served srv apps) (fun _ => True)
      fun r => r = some (.ok ((srv.devices appID).map ServedDevice.item)) := by
  induction fuel generalizing offset allDevices with
  | zero => omega
  | succ fuel ih =>
    refine Prog.Keeps.ask_bind trivial fun x hx => ?_
    obtain rfl := hx rfl happ
    have hfew := srv.devices_few appID
    have hsplit : allDevices ++
        (((srv.devices appID).drop offset.toNat).take 1000).map ServedDevice.item =
          ((srv.devices appID).take (offset.toNat + 1000)).map ServedDevice.item := by
      rw [hall, ← List.map_append, List.take_add]
    have hlength : ((((srv.devices appID).drop offset.toNat).take 1000).map
        ServedDevice.item).length = min 1000 ((srv.devices appID).length - offset.toNat) := by
      simp
    dsimp only
    split
    · rename_i hempty
      rw [hempty] at hlength
      have hend : offset.toNat = (srv.devices appID).length := by
        simp only [List.length_nil] at hlength
        omega
      rw [hall, hend, List.take_length]
      exact rfl
    · split
      · -- a short page is the last one
        have hend : (srv.devices appID).length ≤ offset.toNat + 1000 := by omega
        rw [hsplit, List.take_of_length_le hend]
        exact rfl
      · have hnext : (offset + 1000).toNat = offset.toNat + 1000 := by
          rw [UInt32.toNat_add]
          show (offset.toNat + 1000) % 4294967296 = _
          omega
        refine ih (by omega) ?_ (by omega)
        rw [hnext, hsplit]

/-- The key of a device that is there is its own; one without keys is given some or left out. -/
theorem served_deviceKey {appID : String} (happ : apps.Has appID) {d : ServedDevice}
    (hd : d ∈ srv.devices appID) :
    (deviceKey lib d.item).Keeps (Served srv apps) (fun _ => True)
      fun appKey => ∀ keys ∈ d.keys, appKey = (lib.aes128Key (keyText keys)).toOption := by
  refine Prog.Keeps.ask_bind trivial fun x hx => ?_
  have hkeys := fun keys h => hx appID d hd happ rfl keys h
  cases x with
  | error e =>
    have hnone : ∀ keys ∈ d.keys, False := fun keys h => nomatch hkeys keys h
    refine Prog.Keeps.mono (fun appKey _ keys h => (hnone keys h).elim) (R := fun _ => True) ?_
    exact Prog.Keeps.mono_answers (fun _ _ _ => trivial) (Prog.keeps_true _)
  | ok keys' =>
    have hresult : ∀ keys ∈ d.keys, (lib.aes128Key (keyText keys')).toOption =
        (lib.aes128Key (keyText keys)).toOption := by
      intro keys h
      obtain rfl := Except.ok.inj (hkeys keys h)
      rfl
    dsimp only
    split
    · exact Prog.Keeps.ask_bind trivial fun _ _ => hresult
    · exact hresult

/-- The EUIs loaded of a listing: each device at most once, and those with a usable key. -/
structure LoadsFrom (lib : Parsers) (ds : List ServedDevice) (loaded : List EUI64) : Prop where
  sublist : loaded.Sublist (ds.map ServedDevice.devEUI)
  usable : ∀ d ∈ ds, d.Usable lib → d.devEUI ∈ loaded

theorem LoadsFrom.nil : LoadsFrom lib [] [] := ⟨List.Sublist.refl _, fun _ h => nomatch h⟩

/-- A device that is left out has no usable key. -/
theorem LoadsFrom.skip {d : ServedDevice} (h : ¬ d.Usable lib) : LoadsFrom lib [d] [] := by
  refine ⟨List.nil_sublist _, fun d' hd' husable => ?_⟩
  obtain rfl := List.mem_singleton.mp hd'
  exact absurd husable h

theorem LoadsFrom.single (d : ServedDevice) : LoadsFrom lib [d] [d.devEUI] := by
  refine ⟨List.Sublist.refl _, fun d' hd' _ => ?_⟩
  obtain rfl := List.mem_singleton.mp hd'
  exact List.mem_singleton_self _

theorem LoadsFrom.append {ds ds' : List ServedDevice} {loaded loaded' : List EUI64}
    (h : LoadsFrom lib ds loaded) (h' : LoadsFrom lib ds' loaded') :
    LoadsFrom lib (ds ++ ds') (loaded ++ loaded') := by
  refine ⟨?_, fun d hd husable => ?_⟩
  · rw [List.map_append]
    exact h.sublist.append h'.sublist
  · rcases List.mem_append.mp hd with hd | hd
    · exact List.mem_append_left _ (h.usable d hd husable)
    · exact List.mem_append_right _ (h'.usable d hd husable)

/-- The EUIs of the devices loaded. -/
def Loaded.euis (s : Loaded) : List EUI64 := s.deviceAppKeys.map Prod.fst

/-- A step of the device set-up: the devices of a listing are added, and nothing else changes. -/
structure Adds (lib : Parsers) (ds : List ServedDevice) (s : Loaded) (r : Loaded × Ending) :
    Prop where
  ending : r.2 = .ok
  gatewayIDs : r.1.gatewayIDs = s.gatewayIDs
  applicationID : r.1.applicationID = s.applicationID
  devices : ∃ loaded, r.1.euis = s.euis ++ loaded ∧ LoadsFrom lib ds loaded

theorem Adds.of_skip {d : ServedDevice} (h : ¬ d.Usable lib) (s : Loaded) :
    Adds lib [d] s (s, .ok) :=
  ⟨rfl, rfl, rfl, [], (List.append_nil _).symm, LoadsFrom.skip h⟩

theorem Adds.trans {ds ds' : List ServedDevice} {s t : Loaded} {r : Loaded × Ending}
    (h : Adds lib ds s (t, .ok)) (h' : Adds lib ds' t r) : Adds lib (ds ++ ds') s r := by
  obtain ⟨loaded, hloaded, hfrom⟩ := h.devices
  obtain ⟨loaded', hloaded', hfrom'⟩ := h'.devices
  refine ⟨h'.ending, h'.gatewayIDs.trans h.gatewayIDs, h'.applicationID.trans h.applicationID,
    loaded ++ loaded', ?_, hfrom.append hfrom'⟩
  rw [hloaded', hloaded, List.append_assoc]

/-- The keys, once there is a new one. -/
theorem map_fst_mapSet {κ ν : Type} [DecidableEq κ] {m : List (κ × ν)} {k : κ} (v : ν)
    (h : k ∉ m.map Prod.fst) : (mapSet m k v).map Prod.fst = m.map Prod.fst ++ [k] := by
  rw [mapSet_of_notMem h, List.map_append, List.map_singleton]

section
variable {appID : String} (hlib : Parsers.Lawful lib) (happ : apps.Has appID)
include hlib happ

/-- A device that is there is added, or it is left out and has no usable key. -/
theorem served_loadDevice {d : ServedDevice} (hd : d ∈ srv.devices appID) (s : Loaded)
    (hfresh : d.devEUI ∉ s.euis) :
    (loadDevice lib s d.item).Keeps (Served srv apps) (fun _ => True) (Adds lib [d] s) := by
  unfold loadDevice
  rw [show lib.eui64 d.item.devEUI = .ok d.devEUI from hlib.eui64 d.devEUI]
  refine Prog.Keeps.ask_bind trivial fun x hx => ?_
  obtain ⟨device, rfl, hdevice⟩ := hx appID d hd happ rfl
  dsimp only
  split
  · rename_i hdisabled
    refine Adds.of_skip (fun husable => ?_) s
    rw [hdevice, husable.1] at hdisabled
    exact absurd hdisabled (by simp)
  · refine (served_deviceKey happ hd).bind fun appKey hkey => ?_
    cases appKey with
    | none =>
      refine Adds.of_skip (fun husable => ?_) s
      obtain ⟨-, keys, hkeys, appKey, hparse⟩ := husable
      have := hkey keys hkeys
      rw [hparse] at this
      exact absurd this (by simp [Except.toOption])
    | some appKey =>
      exact ⟨rfl, rfl, rfl, [d.devEUI], map_fst_mapSet appKey hfresh, LoadsFrom.single d⟩

theorem served_loadDevices {ds : List ServedDevice} (hds : ∀ d ∈ ds, d ∈ srv.devices appID)
    (hnodup : (ds.map ServedDevice.devEUI).Nodup) (s : Loaded)
    (hfresh : ∀ d ∈ ds, d.devEUI ∉ s.euis) :
    (loadDevices lib (ds.map ServedDevice.item) s).Keeps (Served srv apps) (fun _ => True)
      (Adds lib ds s) := by
  induction ds generalizing s with
  | nil => exact ⟨rfl, rfl, rfl, [], (List.append_nil _).symm, LoadsFrom.nil⟩
  | cons d ds ih =>
    obtain ⟨hd, hds⟩ := List.forall_mem_cons.mp hds
    obtain ⟨hdfresh, hfresh⟩ := List.forall_mem_cons.mp hfresh
    obtain ⟨hhead, hnodup⟩ := List.nodup_cons.mp hnodup
    refine (served_loadDevice hlib happ hd s hdfresh).bind fun r hr => ?_
    obtain ⟨t, e⟩ := r
    obtain rfl : e = .ok := hr.ending
    refine (ih hds hnodup t fun d' hd' hloaded => ?_).mono fun r' hr' => hr.trans hr'
    -- what is loaded by now is what was loaded before, and maybe `d`
    obtain ⟨loaded, heuis, hfrom⟩ := hr.devices
    rw [heuis] at hloaded
    rcases List.mem_append.mp hloaded with hloaded | hloaded
    · exact hfresh d' hd' hloaded
    · have hsame : d'.devEUI = d.devEUI := List.mem_singleton.mp (hfrom.sublist.subset hloaded)
      exact hhead (hsame ▸ List.mem_map_of_mem hd')

/-- The device set-up of an application that is there loads its devices. -/
theorem served_setupDevices {fuel : Nat} (hfuel : (srv.devices appID).length < 1000 * fuel)
    (s : Loaded) (hs : s.applicationID = appID) :
    (setupDevices lib fuel s).Keeps (Served srv apps) (fun _ => True)
      fun r => r.2 = .ok ∧ r.1.gatewayIDs = s.gatewayIDs ∧ r.1.applicationID = appID ∧
        LoadsFrom lib (srv.devices appID) r.1.euis := by
  subst hs
  have hlist : (listAllDevices s.applicationID fuel 0 []).Keeps (Served srv apps) (fun _ => True)
      fun r => r = some (.ok ((srv.devices s.applicationID).map ServedDevice.item)) :=
    served_listAllDevices happ (Nat.zero_le _) rfl (by simpa using hfuel)
  refine hlist.bind fun x hx => ?_
  obtain rfl := hx
  refine (served_loadDevices hlib happ (fun d hd => hd) (srv.devices_nodup s.applicationID)
    { s with deviceAppKeys := [], deviceNames := [], deviceEUIs := [] }
    fun d _ h => nomatch h).mono fun r hr => ?_
  obtain ⟨loaded, heuis, hfrom⟩ := hr.devices
  exact ⟨hr.ending, hr.gatewayIDs, hr.applicationID, by rw [heuis]; exact hfrom⟩

end

/-! ## `resolve` -/

/-- The application a passive simulation takes for its own: the first one listed under its name, and
    if none has the name the first one listed at all. -/
def resolve (apps : List ListItem) (appName : String) : Option String :=
  match (apps.take 1000).find? fun item => item.name = appName with
  | some item => some item.id
  | none => apps.head?.map ListItem.id

theorem has_of_resolve {tenantID appName appID : String}
    (h : resolve (apps tenantID) appName = some appID) : apps.Has appID := by
  unfold resolve at h
  split at h
  · rename_i item hfind
    obtain rfl := Option.some.inj h
    exact ⟨tenantID, item, List.mem_of_mem_take (List.mem_of_find?_eq_some hfind), rfl⟩
  · obtain ⟨item, hitem, rfl⟩ := Option.map_eq_some_iff.mp h
    exact ⟨tenantID, item, List.mem_of_mem_head? hitem, rfl⟩

/-! ## `init` -/

section
variable {Q : (c : Call) → c.Answer → Prop} {P : Call → Prop} {I : Loaded → Prop}
  {R : Loaded × Ending → Prop} {p : SetupStep} {q : Loaded → SetupStep}

/-- A step that ends well, and one after it. -/
theorem keeps_andThen_ok (hp : p.Keeps Q P fun r => r.2 = .ok ∧ I r.1)
    (hq : ∀ s, I s → (q s).Keeps Q P R) : (andThen p q).Keeps Q P R :=
  keeps_andThen_ending hp (fun s hs => hq s hs.2) fun _ hne hr => absurd hr.1 hne

end

section
variable (sim : Simulation)

/-- What is loaded before the application: tenant and gateways. -/
structure Located (srv : Server lib) (s : Loaded) : Prop where
  tenant : s.tenant.id = sim.tenantID
  gatewayIDs : s.gatewayIDs = (srv.gateways sim.tenantID).take 1000
  applicationID : s.applicationID = ""

/-- What a passive simulation has loaded: nothing of an application if its name is taken for none, and
    else the devices of the one it is taken for. -/
def Initialised (srv : Server lib) (apps : Applications) (r : Loaded × Ending) : Prop :=
  match resolve (apps sim.tenantID) sim.appName with
  | none => r.1.applicationID = ""
  | some appID => r.1.applicationID = appID ∧
      r.1.gatewayIDs = (srv.gateways sim.tenantID).take 1000 ∧
      LoadsFrom lib (srv.devices appID) r.1.euis ∧ r.2 ≠ .running ∧ r.2 ≠ .panic

variable {sim}

theorem served_setupTenant (htenant : sim.tenantID ∈ srv.tenants.map ListItem.id) (s : Loaded) :
    (setupTenant sim s).Keeps (Served srv apps) (fun _ => True)
      fun r => r.2 = .ok ∧ r.1.tenant.id = sim.tenantID ∧ r.1.gatewayIDs = s.gatewayIDs ∧
        r.1.applicationID = s.applicationID := by
  refine Prog.Keeps.ask_bind trivial fun x hx => ?_
  obtain ⟨tenant, rfl, hid⟩ := hx htenant
  exact ⟨rfl, hid, rfl, rfl⟩

theorem parsedGateways_served (hlib : Parsers.Lawful lib) {items : List ListItem}
    {ids : List EUI64} (h : items.map ListItem.id = ids.map fun id => Hex.encode id.toList) :
    parsedGateways lib items = ids := by
  have hparse : ∀ texts : List String, texts = ids.map (fun id => Hex.encode id.toList) →
      texts.filterMap (fun text => (lib.eui64 text).toOption) = ids := by
    rintro _ rfl
    rw [List.filterMap_map]
    refine (List.filterMap_congr fun id _ => ?_).trans List.filterMap_some
    show (lib.eui64 (Hex.encode id.toList)).toOption = some id
    rw [hlib.eui64]
    rfl
  have hmap : parsedGateways lib items =
      (items.map ListItem.id).filterMap fun text => (lib.eui64 text).toOption := by
    rw [List.filterMap_map]
    rfl
  rw [hmap]
  exact hparse _ h

theorem served_setupGateways (hlib : Parsers.Lawful lib) (hpassive : sim.passiveMode = true)
    (hgateways : srv.gateways sim.tenantID ≠ []) {s : Loaded} (hs : s.tenant.id = sim.tenantID)
    (hempty : s.gatewayIDs = []) (happ : s.applicationID = "") :
    (setupGateways lib sim s).Keeps (Served srv apps) (fun _ => True)
      fun r => r.2 = .ok ∧ Located sim srv r.1 := by
  unfold setupGateways
  rw [if_pos hpassive]
  refine Prog.Keeps.ask_bind trivial fun x hx => ?_
  obtain ⟨items, rfl, hitems⟩ := hx
  have hparsed := parsedGateways_served hlib hitems
  rw [hs] at hparsed
  have hsome : (srv.gateways sim.tenantID).take 1000 ≠ [] := by
    simpa using hgateways
  dsimp only
  rw [hparsed, hempty, List.nil_append, if_neg hsome]
  exact ⟨rfl, hs, rfl, happ⟩

theorem served_setProfile {item : ListItem} (hitem : item ∈ srv.profiles sim.tenantID) {s : Loaded}
    (hs : Located sim srv s) :
    (setProfile lib s item.id).Keeps (Served srv apps) (fun _ => True)
      fun r => r.2 = .ok ∧ Located sim srv r.1 := by
  obtain ⟨id, hid⟩ := srv.profiles_parse sim.tenantID item hitem
  unfold setProfile
  rw [hid]
  exact ⟨rfl, hs.tenant, hs.gatewayIDs, hs.applicationID⟩

theorem served_setupDeviceProfile (hpassive : sim.passiveMode = true)
    (hprofiles : srv.profiles sim.tenantID ≠ []) {s : Loaded} (hs : Located sim srv s) :
    (setupDeviceProfile lib sim s).Keeps (Served srv apps) (fun _ => True)
      fun r => r.2 = .ok ∧ Located sim srv r.1 := by
  refine Prog.Keeps.ask_bind trivial fun x hx => ?_
  obtain rfl := hx
  dsimp only
  rw [if_pos hpassive, hs.tenant]
  have hmem : ∀ item ∈ (srv.profiles sim.tenantID).take 100, item ∈ srv.profiles sim.tenantID :=
    fun item hitem => List.mem_of_mem_take hitem
  split
  · rename_i hnone
    exact absurd hnone (by simpa using hprofiles)
  · rename_i first rest hcons
    split
    · rename_i item hfind
      exact served_setProfile (hmem item (List.mem_of_find?_eq_some hfind)) hs
    · exact served_setProfile (hmem first (hcons ▸ List.mem_cons_self)) hs

/-- The application is the one its name is taken for, or the set-up ends. -/
theorem served_setupApplication (hpassive : sim.passiveMode = true) {s : Loaded}
    (hs : Located sim srv s) :
    (setupApplication sim s).Keeps (Served srv apps) (fun _ => True) fun r =>
      match resolve (apps sim.tenantID) sim.appName with
      | none => r.1.applicationID = "" ∧ r.2 ≠ .ok
      | some appID => r.2 = .ok ∧ r.1.applicationID = appID ∧
          r.1.gatewayIDs = (srv.gateways sim.tenantID).take 1000 := by
  refine Prog.Keeps.ask_bind trivial fun x hx => ?_
  obtain rfl := hx
  dsimp only
  rw [if_pos hpassive, hs.tenant]
  unfold resolve
  cases (apps sim.tenantID |>.take 1000).find? fun item => item.name = sim.appName with
  | some item => exact ⟨rfl, rfl, hs.gatewayIDs⟩
  | none =>
    refine Prog.Keeps.ask_bind trivial fun x hx => ?_
    obtain rfl := hx
    cases apps sim.tenantID with
    | nil => exact ⟨hs.applicationID, by simp⟩
    | cons first rest => exact ⟨rfl, rfl, hs.gatewayIDs⟩

/-- The subscription changes nothing that is loaded. -/
theorem keeps_setupApplicationIntegration (s : Loaded) :
    (setupApplicationIntegration s).Keeps (Served srv apps) (fun _ => True)
      fun r => r.1 = s ∧ r.2 ≠ .running ∧ r.2 ≠ .panic := by
  refine Prog.Keeps.ask_bind trivial fun x _ => ?_
  cases x with
  | none => exact ⟨rfl, by simp, by simp⟩
  | some e => exact ⟨rfl, by simp, by simp⟩

/-- **What a passive simulation loads.** -/
theorem served_init (hlib : Parsers.Lawful lib) (hpassive : sim.passiveMode = true)
    (htenant : sim.tenantID ∈ srv.tenants.map ListItem.id)
    (hgateways : srv.gateways sim.tenantID ≠ []) (hprofiles : srv.profiles sim.tenantID ≠ [])
    {fuel : Nat} (hfuel : ∀ appID, apps.Has appID → (srv.devices appID).length < 1000 * fuel) :
    (init lib sim fuel .empty).Keeps (Served srv apps) (fun _ => True)
      (Initialised sim srv apps) := by
  have hgateway : (andThen (setupTenant sim .empty) (setupGateways lib sim)).Keeps
      (Served srv apps) (fun _ => True) fun r => r.2 = .ok ∧ Located sim srv r.1 :=
    keeps_andThen_ok (I := fun s => s.tenant.id = sim.tenantID ∧ s.gatewayIDs = [] ∧
      s.applicationID = "") (served_setupTenant htenant .empty) fun s hs =>
      served_setupGateways hlib hpassive hgateways hs.1 hs.2.1 hs.2.2
  have hprofile := keeps_andThen_ok (I := Located sim srv) hgateway fun s hs =>
    served_setupDeviceProfile hpassive hprofiles hs
  have happlication := keeps_andThen_ok (I := Located sim srv) hprofile fun s hs =>
    served_setupApplication hpassive hs
  unfold Initialised
  cases hresolve : resolve (apps sim.tenantID) sim.appName with
  | none =>
    simp only [hresolve] at happlication
    -- the set-up has ended, and the steps that follow are not taken
    have hended {p : SetupStep} {q : Loaded → SetupStep} (hp : p.Keeps (Served srv apps)
        (fun _ => True) fun r => r.1.applicationID = "" ∧ r.2 ≠ .ok) :
        (andThen p q).Keeps (Served srv apps) (fun _ => True)
          fun r => r.1.applicationID = "" ∧ r.2 ≠ .ok :=
      keeps_andThen_ending hp (fun _ hs => absurd rfl hs.2) fun _ _ hr => hr
    exact (hended (hended happlication)).mono fun r hr => hr.1
  | some appID =>
    simp only [hresolve] at happlication
    have happ := has_of_resolve hresolve
    have hdevices := keeps_andThen_ok (I := fun s => s.applicationID = appID ∧
      s.gatewayIDs = (srv.gateways sim.tenantID).take 1000) happlication fun s hs =>
      (served_setupDevices hlib happ (hfuel appID happ) s hs.1).mono fun r hr =>
        And.intro hr.1 (And.intro hr.2.2.1 (And.intro (hr.2.1.trans hs.2) hr.2.2.2))
    refine keeps_andThen_ok (I := fun s => s.applicationID = appID ∧
      s.gatewayIDs = (srv.gateways sim.tenantID).take 1000 ∧
      LoadsFrom lib (srv.devices appID) s.euis) hdevices fun s hs => ?_
    refine (keeps_setupApplicationIntegration s).mono fun r hr => ?_
    rw [hr.1]
    exact ⟨hs.1, hs.2.1, hs.2.2, hr.2⟩

end

/-! ## `runSimulation` -/

section
variable {σ : Type} (env : Prog.Env σ Call.Answer)

/-- The numbers the random source gives at so many draws in a row. -/
def draws (bound : Nat) : Nat → σ → List (Fin (bound + 1))
  | 0, _ => []
  | n + 1, w => (env w (.intn bound)).1 :: draws bound n (env w (.intn bound)).2

/-- In so many draws in a row every number comes up. -/
def Fair (bound n : Nat) : Prop := ∀ w, ∀ v, v ∈ draws env bound n w

variable {env}

/-- The gateways of a device are picked in the end: there are enough of them, and those that have not
    come up yet are still to come. -/
theorem pickGateways_ok {bound : Nat} {devNumGateways : Int} (hn : devNumGateways ≤ bound + 1)
    {fuel : Nat} {picked : List Nat} {w : σ}
    (h : ∀ v : Fin (bound + 1), v.val ∈ picked ∨ v ∈ draws env bound fuel w) :
    ((pickGateways (bound + 1) devNumGateways fuel picked).result env w).1 = .ok := by
  induction fuel generalizing picked w with
  | zero =>
    have hsubset : List.range (bound + 1) ⊆ picked := by
      intro v hv
      rcases h ⟨v, List.mem_range.mp hv⟩ with hpicked | hdraw
      · exact hpicked
      · exact absurd hdraw List.not_mem_nil
    have hlength := (List.subperm_of_subset List.nodup_range hsubset).length_le
    rw [List.length_range] at hlength
    have henough : ¬ (picked.length : Int) < devNumGateways := by omega
    unfold pickGateways
    rw [if_neg henough]
    rfl
  | succ fuel ih =>
    unfold pickGateways
    split
    · refine ih fun v => ?_
      have hmono : ∀ u ∈ picked, u ∈ (if (env w (.intn bound)).1.val ∈ picked then picked
          else picked ++ [(env w (.intn bound)).1.val]) := by
        intro u hu
        split
        · exact hu
        · exact List.mem_append_left _ hu
      rcases h v with hpicked | hdraw
      · exact Or.inl (hmono v hpicked)
      · rcases List.mem_cons.mp hdraw with heq | hlater
        · refine Or.inl ?_
          rw [heq]
          split
          · assumption
          · exact List.mem_append_right _ (List.mem_singleton_self _)
        · exact Or.inr hlater
    · rfl

/-- The call makes no device. -/
def MakesNone : Call → Prop
  | .newDevice _ => False
  | _ => True

theorem makesNone_of_quiet {c : Call} (h : Quiet c) : MakesNone c := by
  cases c with
  | newDevice opts => exact h.1 trivial
  | _ => trivial

theorem devicesMade_eq_nil {es : List (Prog.Event Call.Answer)} (h : ∀ e ∈ es, MakesNone e.call) :
    devicesMade es = [] := by
  refine List.filterMap_eq_nil_iff.mpr fun e he => ?_
  have hnone := h e he
  split
  · rename_i opts hcall
    rw [hcall] at hnone
    exact hnone.elim
  · rfl

theorem makesNone_pickGateways (gateways : Nat) (devNumGateways : Int) (fuel : Nat)
    (picked : List Nat) :
    (pickGateways gateways devNumGateways fuel picked).Keeps (fun _ _ => True) MakesNone
      fun _ => True := by
  induction fuel generalizing picked with
  | zero =>
    unfold pickGateways
    split <;> trivial
  | succ fuel ih =>
    unfold pickGateways
    split
    · cases gateways with
      | zero => trivial
      | succ bound => exact Prog.Keeps.ask_bind trivial fun x _ => ih _
    · trivial

/-- Gateways whose templates parse are all built. -/
theorem keeps_newGateways {sim : Simulation} (hparse : TemplatesParse lib sim) (ids : List EUI64) :
    (newGateways lib sim ids).Keeps (fun _ _ => True) MakesNone fun e => e = .ok := by
  induction ids with
  | nil => exact rfl
  | cons id ids ih =>
    unfold newGateways newGateway
    rw [hparse.1, hparse.2]
    exact Prog.Keeps.ask_bind trivial fun _ _ => ih

variable {sim : Simulation} {s : Loaded} {bound fuel : Nat}

/-- Each device that is loaded is made, once. -/
theorem run_newDevices (hgateways : s.gatewayIDs.length = bound + 1)
    (hmin : sim.gatewayMinCount = bound + 1) (hmax : sim.gatewayMaxCount = bound + 1)
    (hfair : Fair env bound fuel) (keys : List (EUI64 × AES128Key)) (deviceIdx : Nat) (w : σ) :
    (newDevices sim fuel s deviceIdx keys).result env w = .ok ∧
      devicesMade ((newDevices sim fuel s deviceIdx keys).events env w) =
        keys.map fun key => (key.1, s.applicationID) := by
  induction keys generalizing deviceIdx w with
  | nil => exact ⟨rfl, rfl⟩
  | cons key keys ih =>
    obtain ⟨devEUI, appKey⟩ := key
    have hpositive : ¬ sim.gatewayMaxCount - sim.gatewayMinCount + 1 ≤ 0 := by omega
    unfold newDevices
    rw [if_neg hpositive]
    simp only [Prog.result_bind, Prog.events_bind, result_callAsk, final_callAsk, events_callAsk,
      devicesMade_append]
    generalize (env w (.intn (sim.gatewayMaxCount - sim.gatewayMinCount).toNat)).2 = w'
    generalize (env w (.intn (sim.gatewayMaxCount - sim.gatewayMinCount).toNat)).1 = extra
    have hextra : extra.val < (sim.gatewayMaxCount - sim.gatewayMinCount).toNat + 1 := extra.isLt
    have hpick : ((pickGateways (bound + 1) (sim.gatewayMinCount + extra.val) fuel []).result
        env w').1 = .ok := pickGateways_ok (by omega) fun v => Or.inr (hfair w' v)
    have hnone : devicesMade ((pickGateways (bound + 1) (sim.gatewayMinCount + extra.val) fuel
        []).events env w') = [] :=
      devicesMade_eq_nil ((makesNone_pickGateways _ _ _ _).of_run fun _ _ => trivial).1
    rw [hgateways]
    generalize pickGateways (bound + 1) (sim.gatewayMinCount + extra.val) fuel [] = p at *
    generalize p.final env w' = w'' at *
    generalize p.result env w' = r at *
    obtain ⟨e, gateways⟩ := r
    obtain rfl : e = .ok := hpick
    obtain ⟨hok, hmade⟩ := ih (deviceIdx + 1) (env w'' (.newDevice
      (deviceOptions sim s deviceIdx devEUI appKey gateways))).2
    refine ⟨hok, ?_⟩
    rw [hnone]
    exact congrArg ((devEUI, s.applicationID) :: ·) hmade

theorem devicesMade_runSimulation (hparse : TemplatesParse lib sim)
    (hgateways : s.gatewayIDs.length = bound + 1) (hmin : sim.gatewayMinCount = bound + 1)
    (hmax : sim.gatewayMaxCount = bound + 1) (hfair : Fair env bound fuel) (w : σ) :
    (runSimulation lib sim fuel s).result env w = .ok ∧
      devicesMade ((runSimulation lib sim fuel s).events env w) =
        s.deviceAppKeys.map fun key => (key.1, s.applicationID) := by
  obtain ⟨hnone, hbuilt⟩ : (∀ e ∈ (newGateways lib sim s.gatewayIDs).events env w,
      MakesNone e.call) ∧ (newGateways lib sim s.gatewayIDs).result env w = .ok :=
    (keeps_newGateways hparse s.gatewayIDs).of_run fun _ _ => trivial
  simp only [runSimulation, Prog.result_bind, Prog.events_bind, hbuilt, devicesMade_append,
    devicesMade_eq_nil hnone, List.nil_append]
  generalize (newGateways lib sim s.gatewayIDs).final env w = w'
  obtain ⟨hok, hmade⟩ := run_newDevices hgateways hmin hmax hfair s.deviceAppKeys 0 w'
  simp only [hok, hmade, Prog.result_bind, Prog.result_pure, Prog.events_bind, Prog.events_pure,
    events_callAsk, List.append_nil]
  exact ⟨trivial, List.append_nil _⟩

/-- What is made after `init` are the devices it has loaded. -/
theorem devicesMade_afterInit (hparse : TemplatesParse lib sim)
    (hgateways : s.gatewayIDs.length = bound + 1) (hmin : sim.gatewayMinCount = bound + 1)
    (hmax : sim.gatewayMaxCount = bound + 1) (hfair : Fair env bound fuel) (w : σ) :
    devicesMade ((afterInit lib sim fuel s).events env w) =
      s.deviceAppKeys.map fun key => (key.1, s.applicationID) := by
  obtain ⟨hok, hmade⟩ := devicesMade_runSimulation hparse hgateways hmin hmax hfair w
  have htear (w' : σ) : devicesMade ((tearDown sim s).events env w') = [] :=
    devicesMade_eq_nil fun e he => makesNone_of_quiet (quiet_events (quiet_tearDown sim s) e he)
  simp only [afterInit, Prog.events_bind, devicesMade_append, hok, hmade, htear, List.nil_append]
  exact List.append_nil _

/-- **A simulation set up from true answers makes the devices of the application its name is taken
    for**: each at most once, and those with a usable key. -/
theorem served_start (hlib : Parsers.Lawful lib) (hpassive : sim.passiveMode = true)
    (htenant : sim.tenantID ∈ srv.tenants.map ListItem.id)
    (hprofiles : srv.profiles sim.tenantID ≠ []) (hparse : TemplatesParse lib sim)
    (hgateways : ((srv.gateways sim.tenantID).take 1000).length = bound + 1)
    (hmin : sim.gatewayMinCount = bound + 1) (hmax : sim.gatewayMaxCount = bound + 1)
    (hfuel : ∀ appID, apps.Has appID → (srv.devices appID).length < 1000 * fuel)
    (henv : ∀ w c, Served srv apps c (env w c).1) (hfair : Fair env bound fuel) (w : σ)
    {appID : String} (hresolve : resolve (apps sim.tenantID) sim.appName = some appID) :
    ∃ loaded, devicesMade ((start lib sim fuel).events env w) =
        loaded.map (fun devEUI => (devEUI, appID)) ∧
      LoadsFrom lib (srv.devices appID) loaded := by
  have hsome : srv.gateways sim.tenantID ≠ [] := by
    intro hnone
    simp [hnone] at hgateways
  have hinit := (served_init hlib hpassive htenant hsome hprofiles hfuel).of_env henv w
  have hquiet : devicesMade ((init lib sim fuel .empty).events env w) = [] :=
    devicesMade_eq_nil fun e he => makesNone_of_quiet (quiet_events (keeps_init sim fuel _) e he)
  simp only [start, Prog.events_bind, devicesMade_append, hquiet, List.nil_append]
  simp only [Initialised, hresolve] at hinit
  generalize (init lib sim fuel .empty).result env w = r at hinit ⊢
  generalize (init lib sim fuel .empty).final env w = w'
  obtain ⟨s, e⟩ := r
  obtain ⟨happ, hids, hloads, hrunning, hpanic⟩ := hinit
  have hmade := devicesMade_afterInit (s := s) hparse (by rw [hids]; exact hgateways) hmin hmax
    hfair w'
  have hloaded : devicesMade ((afterInit lib sim fuel s).events env w') =
      s.euis.map fun devEUI => (devEUI, appID) := by
    rw [hmade, Loaded.euis, List.map_map, ← happ]
    rfl
  refine ⟨s.euis, ?_, hloads⟩
  -- whether `init` returned an error or not
  cases e with
  | ok => exact hloaded
  | error text => exact hloaded
  | running => exact absurd rfl hrunning
  | panic => exact absurd rfl hpanic

end

end

end ChirpStackSimulator.Setup
