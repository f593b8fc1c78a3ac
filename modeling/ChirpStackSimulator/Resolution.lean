/-
  Which application an entry of a start turns out to be (`discoverAndBuildConfig`,
  `setupApplication`, `setupDevices`).

  The discovery goes through the applications by their ids, but an entry carries only a name, and the
  simulation looks its application up again under that name when it is set up.  Between the two the
  applications may change, and even if they do not, two of one name are taken for the first of them.

  1. **Entries** — what the simulation of an application found is started with (`StartedAs`), and which
     simulations `Start` launches (`length_launchedFrom_iff`).
  2. **`StartedRun`** — a start and the runs of its simulations, with true answers to all of them.  The
     applications are those of one moment for the discovery and of another one for each simulation.
  3. **The law** — `Exact`: each application found is simulated by its own entry, and each of its
     devices runs once.
  4. `exact_iff`: the law holds exactly if each entry's name leads to its application.
-/
import ChirpStackSimulator.ServedSetup
import ChirpStackSimulator.TenantIsolation
import Mathlib.Data.List.Nodup

namespace ChirpStackSimulator.Resolution

open LoRaWAN Setup Discovery
open Lifecycle (Status)

/-! ## Entries -/

/-- The name the simulation number `i` looks its application up under. -/
def simName (i : Nat) (appName : String) : String :=
  if appName = "" then "uygulama-" ++ toString (i + 1) else appName

/-- The simulation number `i`, as it is started for an application found. -/
structure StartedAs (i : Nat) (f : Found) (sim : Simulation) : Prop where
  tenantID : sim.tenantID = f.tenantID
  appName : sim.appName = simName i f.app.name
  passiveMode : sim.passiveMode = true
  gatewayMinCount : sim.gatewayMinCount = f.gateways
  gatewayMaxCount : sim.gatewayMaxCount = f.gateways
  eventTopicTemplate : sim.eventTopicTemplate = defaultEventTopicTemplate
  commandTopicTemplate : sim.commandTopicTemplate = defaultCommandTopicTemplate

/-- A simulation is started under the names of its entry. -/
theorem startedAs_of_newSimulation {other : (c : Call) → c.Answer} {rows : Rows}
    {parseDuration : String → Except String Int} {i : Nat} {f : Found} {sim : Simulation}
    (h : newSimulation i (f.entry other rows parseDuration) = .ok sim) : StartedAs i f sim := by
  unfold newSimulation at h
  split at h
  · exact absurd h (by simp)
  · obtain rfl := Except.ok.inj h
    exact ⟨rfl, rfl, rfl, rfl, rfl, rfl, rfl⟩

/-- The simulations are those of the entries of the same number. -/
theorem getElem?_launchedFrom {n i : Nat} {cfg : List SimulatorConfig} {sim : Simulation}
    (h : (launchedFrom n cfg)[i]? = some sim) :
    ∃ c, cfg[i]? = some c ∧ newSimulation (n + i) c = .ok sim := by
  induction cfg generalizing n i with
  | nil => exact absurd h (by simp [launchedFrom])
  | cons c cs ih =>
    unfold launchedFrom at h
    split at h
    · exact absurd h (by simp)
    · rename_i sim' hsim
      cases i with
      | zero =>
        obtain rfl : sim' = sim := by simpa using h
        exact ⟨c, rfl, hsim⟩
      | succ i =>
        obtain ⟨c', hc', hsim'⟩ := ih (n := n + 1) (by simpa using h)
        refine ⟨c', by simpa using hc', ?_⟩
        rwa [Nat.add_right_comm, Nat.add_assoc] at hsim'

/-- Every entry is launched exactly if every payload decodes. -/
theorem length_launchedFrom_iff (n : Nat) (cfg : List SimulatorConfig) :
    (launchedFrom n cfg).length = cfg.length ↔ ∀ c ∈ cfg, Launches c := by
  induction cfg generalizing n with
  | nil => simp [launchedFrom]
  | cons c cs ih =>
    rw [List.forall_mem_cons, launches_iff n]
    unfold launchedFrom
    cases newSimulation n c with
    | error e => simp
    | ok sim => simpa using ih (n + 1)

/-- What holds of an application a discovery with true answers has found. -/
structure TrulyFound {lib : Parsers} (srv : Server lib) (before : Applications) (f : Found) :
    Prop where
  tenant : f.tenantID ∈ srv.tenants.map ListItem.id
  app : f.app ∈ before f.tenantID
  gateways : f.gateways = ((srv.gateways f.tenantID).take 1000).length
  gateways_pos : 0 < f.gateways
  devices : srv.devices f.app.id ≠ []

/-- What is found of an application is what ChirpStack answered. -/
theorem foundApp_eq_some {other : (c : Call) → c.Answer} {tenantID : String} {gateways : Nat}
    {app : ListItem} {f : Found} (hf : foundApp other tenantID gateways app = some f) :
    f.tenantID = tenantID ∧ f.app = app ∧ f.gateways = gateways := by
  unfold foundApp at hf
  split at hf
  · exact absurd hf (by simp)
  · split at hf
    · exact absurd hf (by simp)
    · obtain rfl := Option.some.inj hf
      exact ⟨rfl, rfl, rfl⟩

/-- The applications found are some of those listed. -/
theorem sublist_foundApp (other : (c : Call) → c.Answer) (tenantID : String) (gateways : Nat)
    (apps : List ListItem) :
    ((apps.filterMap (foundApp other tenantID gateways)).map fun f => f.app.id).Sublist
      (apps.map ListItem.id) := by
  induction apps with
  | nil => exact List.Sublist.refl _
  | cons app apps ih =>
    rw [List.filterMap_cons, List.map_cons]
    split
    · exact ih.cons _
    · rename_i f hf
      rw [List.map_cons, (foundApp_eq_some hf).2.1]
      exact ih.cons_cons _

section
variable {lib : Parsers} {srv : Server lib} {before : Applications} {other : (c : Call) → c.Answer}
  (hserved : ∀ c, Served srv before c (other c))
include hserved

/-- An application that is listed and found has devices. -/
theorem devices_of_foundApp {tenantID : String} {gateways : Nat} {app : ListItem}
    (happ : app ∈ before tenantID) {f : Found}
    (hf : foundApp other tenantID gateways app = some f) : srv.devices app.id ≠ [] := by
  have hdevices : other (.rpc (.listDevices app.id "" 1000 0)) =
      .ok (((srv.devices app.id).drop 0 |>.take 1000).map ServedDevice.item) :=
    hserved (.rpc (.listDevices app.id "" 1000 0)) rfl ⟨tenantID, app, happ, rfl⟩
  intro hnone
  unfold foundApp at hf
  rw [hdevices, hnone] at hf
  exact absurd hf (by simp)

/-- What is found for a tenant, by what the server has. -/
theorem foundTenant_eq (tenant : ListItem) :
    foundTenant other tenant = [] ∨
      (srv.gateways tenant.id ≠ [] ∧ foundTenant other tenant = ((before tenant.id).take
        1000).filterMap (foundApp other tenant.id ((srv.gateways tenant.id).take 1000).length)) := by
  obtain ⟨items, hitems, hids⟩ := hserved (.rpc (.listGateways tenant.id 1000))
  have happs : other (.rpc (.listApplications tenant.id 1000)) =
      .ok ((before tenant.id).take 1000) := hserved (.rpc (.listApplications tenant.id 1000))
  have hlength := congrArg List.length hids
  rw [List.length_map, List.length_map] at hlength
  unfold foundTenant
  rw [hitems, happs]
  dsimp only
  split
  · exact Or.inl rfl
  · rename_i hsome
    refine Or.inr ⟨fun hnone => hsome ?_, ?_⟩
    · rw [hnone] at hlength
      exact List.eq_nil_of_length_eq_zero hlength
    · rw [hlength]

/-- What is found, over the first hundred tenants. -/
theorem found_eq :
    found other = [] ∨ found other = (srv.tenants.take 100).flatMap (foundTenant other) := by
  have htenants : other (.rpc (.listTenants 100)) = .ok (srv.tenants.take 100) :=
    hserved (.rpc (.listTenants 100))
  unfold found listedTenants
  rw [htenants]
  cases (other .isConnected : Bool) with
  | false => exact Or.inl rfl
  | true => exact Or.inr rfl

/-- What is found is there. -/
theorem trulyFound_of_foundTenant {tenant : ListItem} (htenant : tenant ∈ srv.tenants) {f : Found}
    (hf : f ∈ foundTenant other tenant) : TrulyFound srv before f ∧ f.tenantID = tenant.id := by
  rcases foundTenant_eq hserved tenant with hnone | ⟨hsome, heq⟩
  · exact absurd hf (by simp [hnone])
  · rw [heq] at hf
    obtain ⟨app, happ, hf⟩ := List.mem_filterMap.mp hf
    have happ := List.mem_of_mem_take happ
    have hdevices := devices_of_foundApp hserved happ hf
    obtain ⟨htenantID, rfl, hgateways⟩ := foundApp_eq_some hf
    refine ⟨⟨?_, ?_, ?_, ?_, hdevices⟩, htenantID⟩
    · rw [htenantID]
      exact List.mem_map_of_mem htenant
    · rw [htenantID]
      exact happ
    · rw [htenantID]
      exact hgateways
    · rw [hgateways, List.length_take]
      have := List.length_pos_iff.mpr hsome
      omega

theorem trulyFound {f : Found} (hf : f ∈ found other) : TrulyFound srv before f := by
  rcases found_eq hserved with hnone | heq
  · exact absurd hf (by simp [hnone])
  · rw [heq] at hf
    obtain ⟨tenant, htenant, hf⟩ := List.mem_flatMap.mp hf
    exact (trulyFound_of_foundTenant hserved (List.mem_of_mem_take htenant) hf).1

/-- No application is found twice. -/
theorem nodup_found (hnodup : ∀ tenantID, ((before tenantID).map ListItem.id).Nodup)
    (hapart : ∀ tenantID tenantID' app app', app ∈ before tenantID → app' ∈ before tenantID' →
      app.id = app'.id → tenantID = tenantID') :
    ((found other).map fun f => f.app.id).Nodup := by
  rcases found_eq hserved with hnone | heq
  · simp [hnone]
  rw [heq, List.map_flatMap, List.nodup_flatMap]
  constructor
  · intro tenant _
    rcases foundTenant_eq hserved tenant with hnone | ⟨-, heq⟩
    · simp [hnone]
    · rw [heq]
      generalize ((srv.gateways tenant.id).take 1000).length = gateways
      exact (hnodup tenant.id).sublist
        ((sublist_foundApp other tenant.id gateways _).trans ((List.take_sublist _ _).map _))
  · have htenants : (srv.tenants.take 100).Pairwise fun t t' => t.id ≠ t'.id :=
      (List.pairwise_map.mp srv.tenants_nodup).sublist (List.take_sublist _ _)
    refine htenants.imp_of_mem fun {tenant tenant'} htenant htenant' hne => ?_
    intro id hid hid'
    obtain ⟨f, hf, rfl⟩ := List.mem_map.mp hid
    obtain ⟨f', hf', heq⟩ := List.mem_map.mp hid'
    obtain ⟨hfound, htenantID⟩ :=
      trulyFound_of_foundTenant hserved (List.mem_of_mem_take htenant) hf
    obtain ⟨hfound', htenantID'⟩ :=
      trulyFound_of_foundTenant hserved (List.mem_of_mem_take htenant') hf'
    have := hapart _ _ _ _ hfound'.app hfound.app heq
    rw [htenantID, htenantID'] at this
    exact hne this.symm

end

/-! ## A start and its runs -/

/-- A start that is accepted, and the runs of the simulations it launches, by their numbers.  The
    applications are `before` for the discovery and `during i` for the simulation number `i`, and what
    ChirpStack answers is true; application ids are unique, and a tenant with devices has a device
    profile.  Each run has rounds enough for the pages of its devices and for a random source that comes
    to every gateway. -/
structure StartedRun (lib : Parsers) (σ : Type) where
  srv : Server lib
  before : Applications
  other : (c : Call) → c.Answer
  rows : Rows
  parseDuration : String → Except String Int
  req : StartRequest
  status : Status
  during : Nat → Applications
  env : Nat → Prog.Env σ Call.Answer
  state : Nat → σ
  fuel : Nat → Nat
  lawful : Parsers.Lawful lib
  accepted : validateStartRequest parseDuration req = .ok ()
  free : status = .idle ∨ status = .error
  discovers : ∀ c, Served srv before c (other c)
  answers : ∀ i w c, Served srv (during i) c (env i w c).1
  ids_nodup : ∀ tenantID, ((before tenantID).map ListItem.id).Nodup
  ids_apart : ∀ tenantID tenantID' app app', app ∈ before tenantID → app' ∈ before tenantID' →
    app.id = app'.id → tenantID = tenantID'
  ids_nonempty : ∀ tenantID, ∀ app ∈ before tenantID, app.id ≠ ""
  profiles : ∀ tenantID, ∀ app ∈ before tenantID, srv.devices app.id ≠ [] →
    srv.profiles tenantID ≠ []
  enough : ∀ i appID, (during i).Has appID → (srv.devices appID).length < 1000 * fuel i
  fair : ∀ i, ∀ tenant ∈ srv.tenants,
    Fair (env i) (((srv.gateways tenant.id).take 1000).length - 1) (fuel i)

namespace StartedRun

variable {lib : Parsers} {σ : Type} (run : StartedRun lib σ)

/-- The applications found, in the order of their entries. -/
def found : List Found := Discovery.found run.other

/-- The simulations launched. -/
def sims : List Simulation :=
  launched ((handleStart run.parseDuration true (.ok run.req) run.status).events
    (database run.other) run.rows)

/-- The application the simulation number `i` is set up with. -/
def applicationID (i : Nat) (sim : Simulation) : String :=
  ((init lib sim (run.fuel i) .empty).result (run.env i) (run.state i)).1.applicationID

/-- The devices it runs, each with its application. -/
def made (i : Nat) (sim : Simulation) : List (EUI64 × String) :=
  devicesMade ((start lib sim (run.fuel i)).events (run.env i) (run.state i))

/-- The devices of all simulations. -/
def allMade : List (EUI64 × String) := run.sims.zipIdx.flatMap fun e => run.made e.2 e.1

/-! ## The law -/

/-- **Each application found is simulated once**: the entries of a tenant are resolved to different
    applications, each to the one it was made of; of these each enabled device with a usable key is
    run by exactly one device, and none runs for another application. -/
structure Exact : Prop where
  resolves : ∀ i f, run.found[i]? = some f →
    ∃ sim, run.sims[i]? = some sim ∧ run.applicationID i sim = f.app.id
  distinct : ∀ i j sim sim', run.sims[i]? = some sim → run.sims[j]? = some sim' →
    sim.tenantID = sim'.tenantID → run.applicationID i sim = run.applicationID j sim' → i = j
  once : ∀ f ∈ run.found, ∀ d ∈ run.srv.devices f.app.id, d.Usable lib →
    (run.allMade.map Prod.fst).count d.devEUI = 1
  only : ∀ m ∈ run.allMade, ∃ f ∈ run.found, m.2 = f.app.id

end StartedRun

/-- The name leads to the application: it is the first one listed under the name, or none has the name
    and it is the first one listed at all. -/
def Leads (apps : List ListItem) (appName appID : String) : Prop :=
  (∃ front item back, apps.take 1000 = front ++ item :: back ∧
    (∀ x ∈ front, x.name ≠ appName) ∧ item.name = appName ∧ item.id = appID) ∨
  ((∀ x ∈ apps.take 1000, x.name ≠ appName) ∧ ∃ first rest, apps = first :: rest ∧ first.id = appID)

/-- A name leads to an application exactly if it resolves to it. -/
theorem leads_iff {apps : List ListItem} {appName appID : String} :
    Leads apps appName appID ↔ resolve apps appName = some appID := by
  unfold resolve
  constructor
  · rintro (⟨front, item, back, happs, hfront, hname, rfl⟩ | ⟨hnone, first, rest, rfl, rfl⟩)
    · have hfind : (apps.take 1000).find? (fun item => item.name = appName) = some item := by
        rw [List.find?_eq_some_iff_append]
        exact ⟨by simpa using hname, front, back, happs, fun x hx => by simpa using hfront x hx⟩
      rw [hfind]
    · have hfind : ((first :: rest).take 1000).find? (fun item => item.name = appName) = none :=
        List.find?_eq_none.mpr fun x hx => by simpa using hnone x hx
      rw [hfind]
      rfl
  · intro h
    split at h
    · rename_i item hfind
      obtain ⟨hname, front, back, happs, hfront⟩ := List.find?_eq_some_iff_append.mp hfind
      exact Or.inl ⟨front, item, back, happs, fun x hx => by simpa using hfront x hx,
        by simpa using hname, Option.some.inj h⟩
    · rename_i hfind
      refine Or.inr ⟨fun x hx => by simpa using List.find?_eq_none.mp hfind x hx, ?_⟩
      obtain ⟨first, hhead, hid⟩ := Option.map_eq_some_iff.mp h
      obtain ⟨rest, hrest⟩ := List.head?_eq_some_iff.mp hhead
      exact ⟨first, rest, hrest, hid⟩

namespace StartedRun

variable {lib : Parsers} {σ : Type} (run : StartedRun lib σ)

/-- The name of each entry leads to its application, at the time the simulation is set up. -/
def NamesLead : Prop := ∀ i f, run.found[i]? = some f →
  Leads (run.during i f.tenantID) (simName i f.app.name) f.app.id

theorem sims_eq : run.sims = launchedFrom 0
    (run.found.map (Found.entry run.other (synced run.other run.rows) run.parseDuration)) :=
  launched_handleStart run.parseDuration run.other run.rows run.accepted run.free

variable {run}

/-- A simulation launched is that of the application found under its number. -/
theorem startedAs {i : Nat} {sim : Simulation} (h : run.sims[i]? = some sim) :
    ∃ f, run.found[i]? = some f ∧ StartedAs i f sim := by
  rw [sims_eq] at h
  obtain ⟨c, hc, hsim⟩ := getElem?_launchedFrom h
  rw [List.getElem?_map] at hc
  obtain ⟨f, hf, rfl⟩ := Option.map_eq_some_iff.mp hc
  rw [Nat.zero_add] at hsim
  exact ⟨f, hf, startedAs_of_newSimulation hsim⟩

variable (run) in
/-- Every application found is launched exactly if every payload decodes. -/
theorem length_sims_iff :
    run.sims.length = run.found.length ↔ ∀ f ∈ run.found, Decodes (run.rows f.tenantID) := by
  have hlength := length_launchedFrom_iff 0
    (run.found.map (Found.entry run.other (synced run.other run.rows) run.parseDuration))
  rw [← sims_eq, List.length_map, List.forall_mem_map] at hlength
  simpa only [launches_entry_iff, decodes_synced] using hlength

theorem trulyFound {f : Found} (hf : f ∈ run.found) : TrulyFound run.srv run.before f :=
  Resolution.trulyFound run.discovers hf

variable (run) in
/-- No application is found twice. -/
theorem nodup_found : (run.found.map fun f => f.app.id).Nodup :=
  Resolution.nodup_found run.discovers run.ids_nodup run.ids_apart

/-! ### One simulation -/

section
variable {i : Nat} {f : Found} {sim : Simulation}

theorem profiles_ne_nil (hf : f ∈ run.found) : run.srv.profiles f.tenantID ≠ [] :=
  run.profiles f.tenantID f.app (trulyFound hf).app (trulyFound hf).devices

theorem gateways_ne_nil (hf : f ∈ run.found) : run.srv.gateways f.tenantID ≠ [] := by
  intro hnone
  have hpos := (trulyFound hf).gateways_pos
  rw [(trulyFound hf).gateways, hnone] at hpos
  exact absurd hpos (by simp)

/-- It is set up with the application its name leads to. -/
theorem applicationID_eq_iff (hf : f ∈ run.found) (hsim : StartedAs i f sim) {appID : String}
    (happID : appID ≠ "") :
    run.applicationID i sim = appID ↔
      resolve (run.during i f.tenantID) (simName i f.app.name) = some appID := by
  have hinit := (served_init run.lawful hsim.passiveMode
    (by rw [hsim.tenantID]; exact (trulyFound hf).tenant)
    (by rw [hsim.tenantID]; exact gateways_ne_nil hf)
    (by rw [hsim.tenantID]; exact profiles_ne_nil hf) (run.enough i)).of_env (run.answers i)
    (run.state i)
  unfold Initialised at hinit
  rw [hsim.tenantID, hsim.appName] at hinit
  unfold applicationID
  cases hresolve : resolve (run.during i f.tenantID) (simName i f.app.name) with
  | none =>
    rw [hresolve] at hinit
    exact iff_of_false (fun h => happID (h ▸ hinit)) (by simp)
  | some appID' =>
    rw [hresolve] at hinit
    rw [hinit.1]
    exact Option.some_inj.symm

/-- It makes the devices of the application its name leads to. -/
theorem made_eq (hf : f ∈ run.found) (hsim : StartedAs i f sim) {appID : String}
    (hresolve : resolve (run.during i f.tenantID) (simName i f.app.name) = some appID) :
    ∃ loaded, run.made i sim = loaded.map (fun devEUI => (devEUI, appID)) ∧
      LoadsFrom lib (run.srv.devices appID) loaded := by
  have htrue := trulyFound hf
  have hbound : f.gateways = f.gateways - 1 + 1 := by
    have := htrue.gateways_pos
    omega
  obtain ⟨tenant, htenant, hid⟩ := List.mem_map.mp htrue.tenant
  have hfair := run.fair i tenant htenant
  rw [hid, ← htrue.gateways] at hfair
  refine served_start run.lawful hsim.passiveMode (by rw [hsim.tenantID]; exact htrue.tenant)
    (by rw [hsim.tenantID]; exact profiles_ne_nil hf) ?_ ?_ ?_ ?_ (run.enough i) (run.answers i)
    hfair (run.state i) (by rw [hsim.tenantID, hsim.appName]; exact hresolve)
  · unfold TemplatesParse
    rw [hsim.eventTopicTemplate, hsim.commandTopicTemplate]
    exact ⟨run.lawful.event, run.lawful.command⟩
  · rw [hsim.tenantID, ← htrue.gateways]
    exact hbound
  · rw [hsim.gatewayMinCount]
    exact_mod_cast hbound
  · rw [hsim.gatewayMaxCount]
    exact_mod_cast hbound

end

/-! ### All of them -/

variable (run) in
/-- The simulation number `i` runs the devices of the `i`-th application found. -/
def RunsItsOwn : Prop := ∀ i sim, run.sims[i]? = some sim → ∃ f, run.found[i]? = some f ∧
  run.applicationID i sim = f.app.id ∧ ∃ loaded,
    run.made i sim = loaded.map (fun devEUI => (devEUI, f.app.id)) ∧
      LoadsFrom lib (run.srv.devices f.app.id) loaded

/-- **Where the names lead, every simulation runs its own application.** -/
theorem runsItsOwn (h : run.NamesLead) : run.RunsItsOwn := by
  intro i sim hi
  obtain ⟨f, hf, hsim⟩ := startedAs hi
  have hmem := List.mem_of_getElem? hf
  have hresolve := leads_iff.mp (h i f hf)
  have hid := run.ids_nonempty f.tenantID f.app (trulyFound hmem).app
  exact ⟨f, hf, (applicationID_eq_iff hmem hsim hid).mpr hresolve, made_eq hmem hsim hresolve⟩

/-- An application is that of one number only. -/
theorem found_inj {i j : Nat} {f g : Found} (hi : run.found[i]? = some f)
    (hj : run.found[j]? = some g) (h : f.app.id = g.app.id) : i = j := by
  have hi' : (run.found.map fun f => f.app.id)[i]? = some f.app.id := by simp [hi]
  have hj' : (run.found.map fun f => f.app.id)[j]? = some f.app.id := by simp [hj, h]
  have hlt : i < (run.found.map fun f => f.app.id).length := (List.getElem?_eq_some_iff.mp hi').1
  exact (List.getElem?_inj hlt (nodup_found run)).mp (hi'.trans hj'.symm)

section
variable (h : run.RunsItsOwn)
include h

/-- No device runs twice. -/
theorem nodup_allMade : (run.allMade.map Prod.fst).Nodup := by
  have heuis {loaded : List EUI64} {appID : String} :
      (loaded.map fun devEUI => (devEUI, appID)).map Prod.fst = loaded := by
    rw [List.map_map]
    exact List.map_id _
  unfold allMade
  rw [List.map_flatMap, List.nodup_flatMap]
  constructor
  · rintro ⟨sim, i⟩ hmem
    obtain ⟨f, -, -, loaded, hmade, hfrom⟩ := h i sim (List.mem_zipIdx_iff_getElem?.mp hmem)
    show ((run.made i sim).map Prod.fst).Nodup
    rw [hmade, heuis]
    exact (run.srv.devices_nodup f.app.id).sublist hfrom.sublist
  · have hnodup : run.sims.zipIdx.Nodup := by
      refine List.Nodup.of_map Prod.snd ?_
      rw [List.zipIdx_map_snd]
      exact List.nodup_range'
    refine hnodup.pairwise_of_forall_ne ?_
    rintro ⟨sim, i⟩ hi ⟨sim', j⟩ hj hne devEUI hmade hmade'
    have hi := List.mem_zipIdx_iff_getElem?.mp hi
    have hj := List.mem_zipIdx_iff_getElem?.mp hj
    obtain ⟨f, hf, -, loaded, heq, hfrom⟩ := h i sim hi
    obtain ⟨g, hg, -, loaded', heq', hfrom'⟩ := h j sim' hj
    dsimp only at hmade hmade'
    rw [heq, heuis] at hmade
    rw [heq', heuis] at hmade'
    -- a device of two applications makes them one, found under one number
    obtain ⟨d, hd, rfl⟩ := List.mem_map.mp (hfrom.sublist.subset hmade)
    obtain ⟨d', hd', hsame⟩ := List.mem_map.mp (hfrom'.sublist.subset hmade')
    have happ := run.srv.devices_apart _ _ _ _ hd hd' hsame.symm
    obtain rfl := found_inj hf hg happ
    obtain rfl := Option.some.inj (hi.symm.trans hj)
    exact hne rfl

/-- A device with a usable key is run by the simulation of its application. -/
theorem mem_allMade (hlaunched : run.sims.length = run.found.length) {f : Found}
    (hf : f ∈ run.found) {d : ServedDevice} (hd : d ∈ run.srv.devices f.app.id)
    (husable : d.Usable lib) : d.devEUI ∈ run.allMade.map Prod.fst := by
  obtain ⟨i, hi⟩ := List.getElem?_of_mem hf
  have hlt : i < run.sims.length := hlaunched ▸ (List.getElem?_eq_some_iff.mp hi).1
  obtain ⟨g, hg, -, loaded, hmade, hfrom⟩ := h i _ (List.getElem?_eq_getElem hlt)
  obtain rfl := Option.some.inj (hi.symm.trans hg)
  refine List.mem_map.mpr ⟨(d.devEUI, f.app.id), List.mem_flatMap.mpr ⟨(run.sims[i], i), ?_, ?_⟩, rfl⟩
  · exact List.mem_zipIdx_iff_getElem?.mpr (List.getElem?_eq_getElem hlt)
  · show _ ∈ run.made i run.sims[i]
    rw [hmade]
    exact List.mem_map_of_mem (hfrom.usable d hd husable)

/-- A device that was made belongs to an application that was found. -/
theorem app_of_mem_allMade {m : EUI64 × String} (hm : m ∈ run.allMade) :
    ∃ f ∈ run.found, m.2 = f.app.id := by
  obtain ⟨⟨sim, i⟩, hmem, hm⟩ := List.mem_flatMap.mp hm
  obtain ⟨f, hf, -, loaded, hmade, -⟩ := h i sim (List.mem_zipIdx_iff_getElem?.mp hmem)
  dsimp only at hm
  rw [hmade] at hm
  obtain ⟨devEUI, -, rfl⟩ := List.mem_map.mp hm
  exact ⟨f, List.mem_of_getElem? hf, rfl⟩

end

/-- Where every payload decodes and every name leads to its application, the law holds. -/
theorem exact_of_namesLead (hdecodes : ∀ f ∈ run.found, Decodes (run.rows f.tenantID))
    (hlead : run.NamesLead) : run.Exact := by
  have hlaunched := (length_sims_iff run).mpr hdecodes
  have hown := runsItsOwn hlead
  refine ⟨fun i f hf => ?_, fun i j sim sim' hi hj _ heq => ?_, fun f hf d hd husable => ?_,
    fun m hm => app_of_mem_allMade hown hm⟩
  · have hlt : i < run.sims.length := hlaunched ▸ (List.getElem?_eq_some_iff.mp hf).1
    obtain ⟨g, hg, happ, -⟩ := hown i _ (List.getElem?_eq_getElem hlt)
    obtain rfl := Option.some.inj (hf.symm.trans hg)
    exact ⟨_, List.getElem?_eq_getElem hlt, happ⟩
  · obtain ⟨f, hf, happ, -⟩ := hown i sim hi
    obtain ⟨g, hg, happ', -⟩ := hown j sim' hj
    exact found_inj hf hg (happ.symm.trans (heq.trans happ'))
  · exact List.count_eq_one_of_mem (nodup_allMade hown) (mem_allMade hown hlaunched hf hd husable)

/-- The law needs every application to be launched, and its name to lead to it. -/
theorem decodes_and_namesLead_of_exact (h : run.Exact) :
    (∀ f ∈ run.found, Decodes (run.rows f.tenantID)) ∧ run.NamesLead := by
  constructor
  · rw [← length_sims_iff]
    refine le_antisymm ?_ (not_lt.mp fun hlt => ?_)
    · rw [← not_lt]
      intro hlt
      obtain ⟨f, hf, -⟩ := startedAs (List.getElem?_eq_getElem hlt)
      exact absurd (List.getElem?_eq_some_iff.mp hf).1 (lt_irrefl _)
    · obtain ⟨sim, hsim, -⟩ := h.resolves _ _ (List.getElem?_eq_getElem hlt)
      exact absurd (List.getElem?_eq_some_iff.mp hsim).1 (lt_irrefl _)
  · intro i f hf
    obtain ⟨sim, hsim, happ⟩ := h.resolves i f hf
    obtain ⟨g, hg, hstarted⟩ := startedAs hsim
    obtain rfl := Option.some.inj (hf.symm.trans hg)
    have hmem := List.mem_of_getElem? hf
    have hid := run.ids_nonempty f.tenantID f.app (trulyFound hmem).app
    exact leads_iff.mpr ((applicationID_eq_iff hmem hstarted hid).mp happ)

end StartedRun

/-- **Each application found is simulated once exactly if** every payload decodes and the name of each
    entry leads to the application it was made of, when its simulation is set up. -/
theorem exact_iff {lib : Parsers} {σ : Type} (run : StartedRun lib σ) :
    run.Exact ↔ (∀ f ∈ run.found, Decodes (run.rows f.tenantID)) ∧
      ∀ i f, run.found[i]? = some f →
        Leads (run.during i f.tenantID) (simName i f.app.name) f.app.id :=
  ⟨StartedRun.decodes_and_namesLead_of_exact, fun h => StartedRun.exact_of_namesLead h.1 h.2⟩

/-! ## Two applications -/

/-- The key of every device. -/
def someKey : String := "00000000000000000000000000000011"

/-- An enabled device. -/
def numberedDevice (n : UInt8) : ServedDevice where
  devEUI := #v[0, 0, 0, 0, 0, 0, 0, n]
  name := "device"
  isDisabled := false
  keys := some ⟨Hex.encode [0, 0, 0, 0, 0, 0, 0, n], someKey, someKey⟩

/-- A device for each of two applications. -/
def numberedDevices (appID : String) : List ServedDevice :=
  if appID = "first" then [numberedDevice 1]
  else if appID = "second" then [numberedDevice 2] else []

theorem mem_numberedDevices {appID : String} {d : ServedDevice} (h : d ∈ numberedDevices appID) :
    (appID = "first" ∧ d = numberedDevice 1) ∨ (appID = "second" ∧ d = numberedDevice 2) := by
  unfold numberedDevices at h
  split at h
  · exact Or.inl ⟨‹_›, List.mem_singleton.mp h⟩
  · split at h
    · exact Or.inr ⟨‹_›, List.mem_singleton.mp h⟩
    · exact absurd h List.not_mem_nil

theorem nodup_numberedDevices (appID : String) :
    ((numberedDevices appID).map ServedDevice.devEUI).Nodup := by
  unfold numberedDevices
  split
  · simp
  · split <;> simp

theorem length_numberedDevices (appID : String) : (numberedDevices appID).length ≤ 1 := by
  unfold numberedDevices
  split
  · simp
  · split <;> simp

theorem numberedDevices_apart (appID appID' : String) (d d' : ServedDevice)
    (h : d ∈ numberedDevices appID) (h' : d' ∈ numberedDevices appID')
    (heq : d.devEUI = d'.devEUI) : appID = appID' := by
  rcases mem_numberedDevices h with ⟨rfl, rfl⟩ | ⟨rfl, rfl⟩ <;>
    rcases mem_numberedDevices h' with ⟨rfl, rfl⟩ | ⟨rfl, rfl⟩
  · rfl
  · exact absurd heq (by decide)
  · exact absurd heq (by decide)
  · rfl

/-- A tenant with a gateway. -/
def acme : Server .plain where
  tenants := [⟨"acme", "Acme"⟩]
  gateways _ := [Vector.replicate 8 1]
  profiles _ := [⟨"00000000000000000000000000000001", "profile"⟩]
  devices := numberedDevices
  tenants_nodup := List.nodup_singleton "acme"
  profiles_parse := by
    intro tenantID profile h
    obtain rfl := List.mem_singleton.mp h
    exact ⟨_, rfl⟩
  devices_nodup := nodup_numberedDevices
  devices_apart := numberedDevices_apart
  devices_few appID := Nat.lt_of_le_of_lt (length_numberedDevices appID) (by decide)

/-- Its two applications. -/
def named (first second : String) : Applications := fun tenantID =>
  if tenantID = "acme" then [⟨"first", first⟩, ⟨"second", second⟩] else []

/-- The answers of its ChirpStack. -/
def acmeAnswers (apps : Applications) : (r : RPC) → r.Answer
  | .listTenants limit => .ok (acme.tenants.take limit)
  | .getTenant id => .ok ⟨id, "Acme", "", true⟩
  | .listGateways tenantID limit =>
    .ok (((acme.gateways tenantID).take limit).map fun id => ⟨Hex.encode id.toList, "gateway"⟩)
  | .listDeviceProfiles tenantID limit => .ok ((acme.profiles tenantID).take limit)
  | .listApplications tenantID limit => .ok ((apps tenantID).take limit)
  | .listDevices appID _ limit offset =>
    .ok ((((acme.devices appID).drop offset.toNat).take limit).map ServedDevice.item)
  | .getDevice devEUI => .ok ⟨devEUI, "device", "", "", "", false⟩
  | .getKeys devEUI => .ok ⟨devEUI, someKey, someKey⟩
  | r => r.unavailable

theorem served_acmeAnswers (apps : Applications) (c : Call) :
    Served acme apps c (Call.answer (acmeAnswers apps) c) := by
  have hdevice {appID : String} {d : ServedDevice} (h : d ∈ acme.devices appID) :
      d.isDisabled = false ∧ d.keys = some ⟨d.text, someKey, someKey⟩ := by
    rcases mem_numberedDevices h with ⟨-, rfl⟩ | ⟨-, rfl⟩ <;> exact ⟨rfl, rfl⟩
  cases c with
  | rpc r =>
    cases r with
    | listTenants limit => exact rfl
    | getTenant id => exact fun _ => ⟨_, rfl, rfl⟩
    | listGateways tenantID limit =>
      refine ⟨_, rfl, ?_⟩
      rw [List.map_map]
      rfl
    | listDeviceProfiles tenantID limit => exact rfl
    | listApplications tenantID limit => exact rfl
    | listDevices appID search limit offset => exact fun _ _ => rfl
    | getDevice devEUI =>
      intro appID d hd _ _
      exact ⟨_, rfl, (hdevice hd).1.symm⟩
    | getKeys devEUI =>
      rintro appID d hd _ rfl keys hkeys
      rw [(hdevice hd).2] at hkeys
      obtain rfl := Option.some.inj hkeys
      rfl
    | _ => trivial
  | _ => trivial

theorem parseBytes_encode {n : Nat} (bytes : Vector UInt8 n) :
    parseBytes n (Hex.encode bytes.toList) = .ok bytes := by
  unfold parseBytes
  rw [Hex.decode_encode]
  have hbytes : bytes.toList.toArray = bytes.toArray := Array.toArray_toList
  simp [hbytes]

theorem lawful_plain : Parsers.Lawful .plain := ⟨parseBytes_encode, rfl, rfl⟩

/-- A start with two applications of these names, which they keep. -/
def acmeRun (first second : String) : StartedRun .plain Unit where
  srv := acme
  before := named first second
  other := Call.answer (acmeAnswers (named first second))
  rows _ := none
  parseDuration := someDurations
  req := .empty
  status := .idle
  during _ := named first second
  env _ := steady (Call.answer (acmeAnswers (named first second)))
  state _ := ()
  fuel _ := 1
  lawful := lawful_plain
  accepted := rfl
  free := Or.inl rfl
  discovers := served_acmeAnswers (named first second)
  answers _ _ := served_acmeAnswers (named first second)
  ids_nodup := by
    intro tenantID
    unfold named
    split <;> simp
  ids_apart := by
    intro tenantID tenantID' app app' h h' _
    unfold named at h h'
    split at h
    · split at h'
      · simp [*]
      · exact absurd h' List.not_mem_nil
    · exact absurd h List.not_mem_nil
  ids_nonempty := by
    intro tenantID app h
    unfold named at h
    split at h
    · rcases List.mem_pair.mp h with rfl | rfl <;> simp
    · exact absurd h List.not_mem_nil
  profiles := by simp [acme]
  enough _ appID _ := Nat.lt_of_le_of_lt (length_numberedDevices appID) (by decide)
  fair := by
    intro i tenant _ w v
    have hone : ∀ u u' : Fin 1, u = u' := fun u u' => Subsingleton.elim u u'
    exact List.mem_singleton.mpr (hone v _)

/-- Under different names both are simulated, once. -/
theorem exact_acmeRun : (acmeRun "indoor" "outdoor").Exact := by
  refine (exact_iff (acmeRun "indoor" "outdoor")).mpr ⟨fun f _ => decodes_none, fun i f hf => ?_⟩
  have hfound : (acmeRun "indoor" "outdoor").found =
      [⟨"acme", ⟨"first", "indoor"⟩, 1, 1⟩, ⟨"acme", ⟨"second", "outdoor"⟩, 1, 1⟩] := rfl
  rw [hfound] at hf
  match i with
  | 0 =>
    obtain rfl := Option.some.inj hf
    exact leads_iff.mpr rfl
  | 1 =>
    obtain rfl := Option.some.inj hf
    exact leads_iff.mpr rfl
  | i + 2 => exact absurd hf (by simp)

theorem loadsFrom_first {loaded : List EUI64}
    (h : LoadsFrom .plain (numberedDevices "first") loaded) :
    loaded = [(numberedDevice 1).devEUI] := by
  have husable : (numberedDevice 1).Usable .plain := ⟨rfl, _, rfl, _, rfl⟩
  have hmem := h.usable (numberedDevice 1) List.mem_cons_self husable
  rcases List.sublist_singleton.mp h.sublist with rfl | rfl
  · exact absurd hmem List.not_mem_nil
  · rfl

/-- Under one name the device of the first runs twice. -/
theorem allMade_acmeRun : (acmeRun "sensors" "sensors").allMade =
    [((numberedDevice 1).devEUI, "first"), ((numberedDevice 1).devEUI, "first")] := by
  have hlength : (acmeRun "sensors" "sensors").sims.length = 2 :=
    (StartedRun.length_sims_iff _).mpr fun f _ => decodes_none
  have hmade : ∀ i sim, (acmeRun "sensors" "sensors").sims[i]? = some sim →
      (acmeRun "sensors" "sensors").made i sim = [((numberedDevice 1).devEUI, "first")] := by
    intro i sim hi
    obtain ⟨f, hf, hsim⟩ := StartedRun.startedAs hi
    have hmem := List.mem_of_getElem? hf
    have hname : f.tenantID = "acme" ∧ f.app.name = "sensors" := by
      rcases List.mem_pair.mp hmem with rfl | rfl <;> exact ⟨rfl, rfl⟩
    have hresolve : resolve (named "sensors" "sensors" f.tenantID) (simName i f.app.name) =
        some "first" := by
      rw [hname.1, hname.2]
      rfl
    obtain ⟨loaded, heq, hfrom⟩ := StartedRun.made_eq hmem hsim hresolve
    rw [heq, loadsFrom_first hfrom]
    rfl
  obtain ⟨sim, sim', hsims⟩ := List.length_eq_two.mp hlength
  have hfirst := hmade 0 sim (by rw [hsims]; rfl)
  have hsecond := hmade 1 sim' (by rw [hsims]; rfl)
  unfold StartedRun.allMade
  rw [hsims]
  show (acmeRun "sensors" "sensors").made 0 sim ++
    ((acmeRun "sensors" "sensors").made 1 sim' ++ []) = _
  rw [hfirst, hsecond]
  rfl

/-- Two applications of one name are both found, and the device of the second does not run. -/
theorem acmeRun_not_exact :
    (acmeRun "sensors" "sensors").found =
        [⟨"acme", ⟨"first", "sensors"⟩, 1, 1⟩, ⟨"acme", ⟨"second", "sensors"⟩, 1, 1⟩] ∧
      (acmeRun "sensors" "sensors").allMade =
        [((numberedDevice 1).devEUI, "first"), ((numberedDevice 1).devEUI, "first")] ∧
      ¬ (acmeRun "sensors" "sensors").Exact := by
  refine ⟨rfl, allMade_acmeRun, fun h => ?_⟩
  have husable : (numberedDevice 2).Usable .plain := ⟨rfl, _, rfl, _, rfl⟩
  have hcount := h.once ⟨"acme", ⟨"second", "sensors"⟩, 1, 1⟩
    (List.mem_cons_of_mem _ List.mem_cons_self) (numberedDevice 2) List.mem_cons_self husable
  rw [allMade_acmeRun] at hcount
  exact absurd hcount (by decide)

end ChirpStackSimulator.Resolution
