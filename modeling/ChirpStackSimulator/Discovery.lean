/-
  From a start request to the simulations (`internal/api/simulation.go`, `simulator.Start`).

  `handleStart` first saves a configuration for every tenant that has none (`syncMissingOrgConfigs`),
  then lists tenants, gateways, applications and devices and makes one `[[simulator]]` entry of each
  application that has devices (`discoverAndBuildConfig`), and launches the entries in order (`Start`).
  An entry knows its tenant by its id and its application only by its name.

  1. **Programs** — the three of them, and `handleStart`.
  2. **What is asked for** — before the launches a start reads, and saves only configurations it has
     found missing (`asks_prepareStart`).
  3. **The database** — `database`: the saved configurations by organisation, everything else answered
     by a function of the call.  `synced` is what saving the missing ones makes of them.
  4. **What is found** — `found` lists the applications in the order they are found; a discovery makes
     the entry `Found.entry` of each (`run_discoverAndBuildConfig`).
  5. **What is launched** — nothing is written to ChirpStack before (`looks_prepareStart`), and the
     launches are those of `launchedFrom` (`launched_handleStart`).
-/
import ChirpStackSimulator.Calls
import ChirpStackSimulator.Lifecycle
import Mathlib.Data.List.TakeWhile

namespace ChirpStackSimulator.Discovery

open Lifecycle (Status)

/-! ## `syncMissingOrgConfigs` -/

/-- `SaveOrgConfig`: the network degradation values are clamped before they are saved. -/
def saveOrgConfig (orgID : String) (cfg : StartRequest) : Action (Option String) :=
  Call.ask (.saveOrgConfig orgID (sanitize cfg))

/-- A device name without its number: what stands before the last dash, if only digits follow. -/
def devicePrefix (firstName : String) : Option String :=
  let chars := firstName.toList
  let digits := (chars.reverse.takeWhile fun c => c ≠ '-').reverse
  if '-' ∈ chars ∧ digits ≠ [] ∧ digits.all Char.isDigit then
    some (String.ofList (chars.take (chars.length - digits.length - 1)))
  else none

/-- The devices of all applications, and the prefix of the last first device that has one. -/
def countDevices : List ListItem → Nat → String → Action (Nat × String)
  | [], total, pre => pure (total, pre)
  | app :: apps, total, pre => do
    match ← rpc (.listDevices app.id "" 100 0) with
    | .error _ => countDevices apps total pre
    | .ok [] => countDevices apps total pre
    | .ok (first :: rest) =>
      countDevices apps (total + (rest.length + 1)) ((devicePrefix first.name).getD pre)

/-- The configuration saved for a tenant that has none. -/
def missingConfig (tenantID : String) (deviceCount : Nat) (appName pre : String) : StartRequest where
  tenantID := tenantID
  deviceCount := deviceCount
  gatewayCount := 1
  duration := "0s"
  activationTime := "30s"
  uplinkInterval := "2m"
  appName := appName
  devicePrefix := pre
  fPort := 10
  payload := "001903F521"
  payloadScript := ""
  packetLoss := 0
  simulatePacketLoss := false
  latencyMs := 0
  frequency := 868100000
  bandwidth := 125000
  spreadingFactor := 7
  eventTopicTemplate := defaultEventTopicTemplate
  commandTopicTemplate := defaultCommandTopicTemplate
  anomalyProbability := 0
  anomalyTypes := ""
  anomalyDuration := 0
  passiveMode := false
  syncIntervalMinutes := 0

/-- What it is made of: the name of the first application and the devices of all. -/
def buildMissing (tenant : ListItem) : Action StartRequest := do
  match ← rpc (.listApplications tenant.id 100) with
  | .error _ => pure (missingConfig tenant.id 5 tenant.name "sim-dev")
  | .ok [] => pure (missingConfig tenant.id 5 tenant.name "sim-dev")
  | .ok (first :: rest) => do
    let (totalDevs, pre) ← countDevices (first :: rest) 0 "sim-dev"
    pure (missingConfig tenant.id (if 0 < totalDevs then totalDevs else 5) first.name pre)

/-- A tenant with a configuration, or whose configuration cannot be read, is left alone. -/
def syncTenant (tenant : ListItem) : Action Unit := do
  match ← Call.ask (.getOrgConfig tenant.id) with
  | .error _ => pure ()
  | .ok (some _) => pure ()
  | .ok none => do
    let cfg ← buildMissing tenant
    let _ ← saveOrgConfig tenant.id cfg
    pure ()

/-- The loop over the tenants. -/
def syncTenants : List ListItem → Action Unit
  | [] => pure ()
  | tenant :: tenants => do
    syncTenant tenant
    syncTenants tenants

/-- Nothing is reported if the tenants cannot be listed. -/
def syncMissingOrgConfigs : Action Unit := do
  match ← Call.ask .isConnected with
  | false => pure ()
  | true =>
    match ← rpc (.listTenants 100) with
    | .error _ => pure ()
    | .ok tenants => syncTenants tenants

/-! ## `discoverAndBuildConfig` -/

section
variable (parseDuration : String → Except String Int)

/-- The default payload. -/
def defaultPayload : String := "001903F521"

/-- The device part of an entry. -/
def deviceConfig (devices : Nat) (orgCfg : Option StartRequest) : SimulatorDeviceConfig :=
  match orgCfg with
  | none => ⟨devices, 120000000000, 10, defaultPayload, 868100000, 125000, 7⟩
  | some cfg =>
    { count := devices
      uplinkInterval := match parseDuration cfg.uplinkInterval with
        | .error _ => 120000000000
        | .ok d => if cfg.uplinkInterval = "" then 120000000000 else d
      fPort := orDefault cfg.fPort 0 10
      payload := orDefault cfg.payload "" defaultPayload
      frequency := orDefault cfg.frequency 0 868100000
      bandwidth := orDefault cfg.bandwidth 0 125000
      spreadingFactor := orDefault cfg.spreadingFactor 0 7 }

/-- The custom intervals that parse. -/
def parsedIntervals (devIntervals : List (String × String)) : List (String × Int) :=
  devIntervals.filterMap fun e => match parseDuration e.2 with
    | .error _ => none
    | .ok d => some (e.1, d)

/-- The entry of one application. -/
def simulatorConfig (tenantID appName : String) (gateways devices : Nat)
    (orgCfg : Option StartRequest) (devIntervals : List (String × String)) : SimulatorConfig where
  tenantID := tenantID
  duration := 0
  activationTime := 30000000000
  appName := appName
  deviceNamePrefix := ""
  payloadScript := (orgCfg.map StartRequest.payloadScript).getD ""
  packetLoss := (orgCfg.map StartRequest.packetLoss).getD 0
  simulatePacketLoss := (orgCfg.map StartRequest.simulatePacketLoss).getD false
  latencyMs := (orgCfg.map StartRequest.latencyMs).getD 0
  anomalyProbability := (orgCfg.map StartRequest.anomalyProbability).getD 0
  anomalyTypes := (orgCfg.map StartRequest.anomalyTypes).getD ""
  anomalyDuration := (orgCfg.map StartRequest.anomalyDuration).getD 5
  passiveMode := true
  syncIntervalMinutes := 0
  device := deviceConfig parseDuration devices orgCfg
  gateway := ⟨gateways, gateways, defaultEventTopicTemplate, defaultCommandTopicTemplate⟩
  deviceIntervals := parsedIntervals parseDuration devIntervals

/-- The loop over the applications; one without devices gives no entry. -/
def discoverApps (tenantID : String) (gateways : Nat) (orgCfg : Option StartRequest)
    (devIntervals : List (String × String)) : List ListItem → Action (List SimulatorConfig)
  | [] => pure []
  | app :: apps => do
    match ← rpc (.listDevices app.id "" 1000 0) with
    | .error _ => discoverApps tenantID gateways orgCfg devIntervals apps
    | .ok devices =>
      if devices = [] then discoverApps tenantID gateways orgCfg devIntervals apps
      else do
        let rest ← discoverApps tenantID gateways orgCfg devIntervals apps
        pure (simulatorConfig parseDuration tenantID app.name gateways devices.length orgCfg
          devIntervals :: rest)

/-- A tenant without gateways gives no entry. -/
def discoverTenant (devIntervals : List (String × String)) (tenant : ListItem) :
    Action (List SimulatorConfig) := do
  let saved ← Call.ask (.getOrgConfig tenant.id)
  let orgCfg := match saved with
    | .error _ => none
    | .ok orgCfg => orgCfg
  match ← rpc (.listGateways tenant.id 1000) with
  | .error _ => pure []
  | .ok gateways =>
    if gateways = [] then pure [] else
    match ← rpc (.listApplications tenant.id 1000) with
    | .error _ => pure []
    | .ok apps =>
      discoverApps parseDuration tenant.id gateways.length orgCfg devIntervals apps

/-- The loop over the tenants. -/
def discoverTenants (devIntervals : List (String × String)) :
    List ListItem → Action (List SimulatorConfig)
  | [] => pure []
  | tenant :: tenants => do
    let front ← discoverTenant parseDuration devIntervals tenant
    let rest ← discoverTenants devIntervals tenants
    pure (front ++ rest)

/-- **The entries of a start**, or why there are none. -/
def discoverAndBuildConfig : Action (Except String (List SimulatorConfig)) := do
  match ← Call.ask .isConnected with
  | false => pure (.error "ChirpStack API bağlantısı kurulmadı")
  | true => do
    let intervals ← Call.ask .getDeviceIntervals
    let devIntervals := match intervals with
      | .error _ => []
      | .ok devIntervals => devIntervals
    match ← rpc (.listTenants 100) with
    | .error e => pure (.error ("failed to list tenants: " ++ e.text))
    | .ok tenants => do
      let entries ← discoverTenants parseDuration devIntervals tenants
      pure (.ok entries)

/-! ## `Start` and `handleStart` -/

/-- The loop of `Start`, at the entry number `i`. -/
def startLoop : Nat → List SimulatorConfig → Action (Option String)
  | _, [] => pure none
  | i, c :: cs =>
    match newSimulation i c with
    | .error e => pure (some e)
    | .ok sim => do
      let _ ← Call.ask (.launch sim)
      startLoop (i + 1) cs

/-- `handleStart` up to the lock: the missing configurations, and the entries. -/
def prepareStart : Action (Except String (List SimulatorConfig)) := do
  syncMissingOrgConfigs
  discoverAndBuildConfig parseDuration

/-- `handleStart` in the state `status`, with the goroutine that calls `Start`. -/
def handleStart (post : Bool) (body : Except String StartRequest) (status : Status) :
    Action Response :=
  if post = false then pure .methodNotAllowed else
  match body with
  | .error e => pure (.badRequest ("invalid JSON: " ++ e))
  | .ok req =>
    match validateStartRequest parseDuration req with
    | .error e => pure (.badRequest e)
    | .ok _ => do
      match ← prepareStart parseDuration with
      | .error e =>
        pure (.internalServerError ("Simülasyon topolojisi keşfedilemedi: " ++ e))
      | .ok cfg =>
        if status ≠ .idle ∧ status ≠ .error then
          pure (.conflict "simulation already running" status.text)
        else do
          let _ ← startLoop 0 cfg
          pure (.ok "starting")

end

/-! ## What is asked for before anything is launched -/

/-- The tenant whose configuration was read last, if there was none. -/
def lastMissing (s : Option String) : (c : Call) → c.Answer → Option String
  | .getOrgConfig orgID, .ok none => some orgID
  | .getOrgConfig _, _ => none
  | _, _ => s

/-- What a start asks for before it launches anything: it reads, and saves the configuration of a
    tenant it has just found to have none. -/
def Asks (s : Option String) : Call → Prop
  | .isConnected | .getOrgConfig _ | .getDeviceIntervals => True
  | .rpc r => ¬ r.Writes
  | .saveOrgConfig orgID cfg =>
    s = some orgID ∧ ∃ deviceCount appName pre,
      cfg = sanitize (missingConfig orgID deviceCount appName pre)
  | _ => False

/-- A program that asks for no more. -/
abbrev OnlyAsks {α : Type} (R : Option String → α → Prop) (s : Option String) (p : Action α) : Prop :=
  p.Tracks lastMissing Asks R s

/-- The entries make passive simulations. -/
def AllPassive (cfg : List SimulatorConfig) : Prop := ∀ c ∈ cfg, c.passiveMode = true

/-- Building a configuration reads; the loop over the applications by induction. -/
theorem asks_buildMissing (s : Option String) (tenant : ListItem) :
    OnlyAsks (fun s' cfg => s' = s ∧ ∃ deviceCount appName pre,
      cfg = missingConfig tenant.id deviceCount appName pre) s (buildMissing tenant) := by
  have hcount : ∀ (apps : List ListItem) (total : Nat) (pre : String),
      OnlyAsks (fun s' _ => s' = s) s (countDevices apps total pre) := by
    intro apps
    induction apps with
    | nil => exact fun _ _ => rfl
    | cons app apps ih =>
      intro total pre
      refine Prog.Tracks.ask_bind not_false fun x => ?_
      match x with
      | .error e => exact ih _ _
      | .ok [] => exact ih _ _
      | .ok (first :: rest) => exact ih _ _
  refine Prog.Tracks.ask_bind not_false fun x => ?_
  match x with
  | .error e => exact ⟨rfl, _, _, _, rfl⟩
  | .ok [] => exact ⟨rfl, _, _, _, rfl⟩
  | .ok (first :: rest) =>
    exact (hcount _ _ _).bind fun s' a hs' => ⟨hs', _, _, _, rfl⟩

/-- By induction on the tenants: each saves for the tenant it has just read. -/
theorem asks_syncTenants (tenants : List ListItem) (s : Option String) :
    OnlyAsks (fun _ _ => True) s (syncTenants tenants) := by
  have htenant : ∀ tenant s, OnlyAsks (fun _ _ => True) s (syncTenant tenant) := by
    intro tenant s
    refine Prog.Tracks.ask_bind trivial fun x => ?_
    match x with
    | .error e => trivial
    | .ok (some cfg) => trivial
    | .ok none =>
      refine (asks_buildMissing (some tenant.id) tenant).bind fun s' cfg hcfg => ?_
      obtain ⟨rfl, n, appName, pre, rfl⟩ := hcfg
      exact Prog.Tracks.ask_bind ⟨rfl, n, appName, pre, rfl⟩ fun _ => trivial
  induction tenants generalizing s with
  | nil => trivial
  | cons tenant tenants ih => exact (htenant tenant s).bind fun s' _ _ => ih s'

theorem asks_syncMissingOrgConfigs (s : Option String) :
    OnlyAsks (fun _ _ => True) s syncMissingOrgConfigs := by
  refine Prog.Tracks.ask_bind trivial fun x => ?_
  match x with
  | false => trivial
  | true =>
    refine Prog.Tracks.ask_bind not_false fun x => ?_
    match x with
    | .error e => trivial
    | .ok tenants => exact asks_syncTenants tenants _

section
variable (parseDuration : String → Except String Int)

theorem asks_discoverTenant (devIntervals : List (String × String)) (tenant : ListItem)
    (s : Option String) :
    OnlyAsks (fun _ => AllPassive) s (discoverTenant parseDuration devIntervals tenant) := by
  have hnone : AllPassive [] := fun _ h => absurd h List.not_mem_nil
  have happs : ∀ (tenantID : String) (gateways : Nat) (orgCfg : Option StartRequest)
      (apps : List ListItem) (s : Option String), OnlyAsks (fun _ => AllPassive) s
        (discoverApps parseDuration tenantID gateways orgCfg devIntervals apps) := by
    intro tenantID gateways orgCfg apps
    induction apps with
    | nil => exact fun _ => hnone
    | cons app apps ih =>
      refine fun s => Prog.Tracks.ask_bind not_false fun x => ?_
      match x with
      | .error e => exact ih _
      | .ok devices =>
        dsimp only
        split
        · exact ih _
        · exact (ih _).bind fun s' rest hrest => List.forall_mem_cons.mpr ⟨rfl, hrest⟩
  refine Prog.Tracks.ask_bind trivial fun saved => Prog.Tracks.ask_bind not_false fun x => ?_
  match x with
  | .error e => exact hnone
  | .ok gateways =>
    dsimp only
    split
    · exact hnone
    · refine Prog.Tracks.ask_bind not_false fun x => ?_
      match x with
      | .error e => exact hnone
      | .ok apps => exact happs _ _ _ apps _

/-- Every entry found is one of a passive simulation. -/
theorem asks_discoverTenants (devIntervals : List (String × String)) (tenants : List ListItem)
    (s : Option String) :
    OnlyAsks (fun _ => AllPassive) s (discoverTenants parseDuration devIntervals tenants) := by
  induction tenants generalizing s with
  | nil => exact fun _ h => absurd h List.not_mem_nil
  | cons tenant tenants ih =>
    exact (asks_discoverTenant parseDuration devIntervals tenant s).bind fun s front hfront =>
      (ih s).bind fun s' rest hrest => List.forall_mem_append.mpr ⟨hfront, hrest⟩

/-- **What a start asks for** before it launches anything, and every entry it makes is passive. -/
theorem asks_prepareStart (s : Option String) :
    OnlyAsks (fun _ r => ∀ cfg, r = .ok cfg → AllPassive cfg) s (prepareStart parseDuration) := by
  refine (asks_syncMissingOrgConfigs s).bind fun s _ _ => Prog.Tracks.ask_bind trivial fun x => ?_
  match x with
  | false => exact fun _ h => nomatch h
  | true =>
    refine Prog.Tracks.ask_bind trivial fun intervals => Prog.Tracks.ask_bind not_false fun x => ?_
    match x with
    | .error e => exact fun _ h => nomatch h
    | .ok tenants =>
      refine (asks_discoverTenants parseDuration _ tenants _).bind fun s entries hentries => ?_
      exact fun cfg h => Except.ok.inj h ▸ hentries

end

/-- What a start does: it asks, and launches simulations. -/
def AsksOrLaunches (s : Option String) (c : Call) : Prop := Asks s c ∨ ∃ sim, c = .launch sim

/-- A start looks and launches, and saves only what is missing. -/
theorem asks_handleStart (parseDuration : String → Except String Int) (post : Bool)
    (body : Except String StartRequest) (status : Status) (s : Option String) :
    (handleStart parseDuration post body status).Tracks lastMissing AsksOrLaunches
      (fun _ _ => True) s := by
  have hloop : ∀ (cfg : List SimulatorConfig) (i : Nat) (s : Option String),
      (startLoop i cfg).Tracks lastMissing AsksOrLaunches (fun _ _ => True) s := by
    intro cfg
    induction cfg with
    | nil => exact fun _ _ => trivial
    | cons c cs ih =>
      intro i s
      unfold startLoop
      split
      · trivial
      · rename_i sim _
        exact Prog.Tracks.ask_bind (Or.inr ⟨sim, rfl⟩) fun _ => ih (i + 1) _
  unfold handleStart
  split
  · trivial
  · split
    · trivial
    · split
      · trivial
      · refine ((asks_prepareStart parseDuration s).mono_calls fun _ _ => Or.inl).bind
          fun s x _ => ?_
        cases x with
        | error e => trivial
        | ok cfg =>
          dsimp only
          split
          · trivial
          · exact (hloop cfg 0 s).bind fun _ _ _ => trivial

/-! ## The database -/

/-- The saved configurations. -/
abbrev Rows := String → Option StartRequest

/-- What is stored of a configuration: the last two fields have no columns. -/
def stored (cfg : StartRequest) : StartRequest :=
  { cfg with passiveMode := false, syncIntervalMinutes := 0 }

/-- The configurations are kept and found again; all other calls are answered by `other`. -/
def database (other : (c : Call) → c.Answer) : Prog.Env Rows Call.Answer := fun rows c =>
  match c with
  | .getOrgConfig orgID => (.ok (rows orgID), rows)
  | .saveOrgConfig orgID cfg => (none, Function.update rows orgID (some (stored cfg)))
  | c => (other c, rows)

section
variable (other : (c : Call) → c.Answer) (rows : Rows)

@[simp] theorem database_getOrgConfig (orgID : String) :
    database other rows (.getOrgConfig orgID) = (.ok (rows orgID), rows) := rfl

@[simp] theorem database_saveOrgConfig (orgID : String) (cfg : StartRequest) :
    database other rows (.saveOrgConfig orgID cfg) =
      (none, Function.update rows orgID (some (stored cfg))) := rfl

@[simp] theorem database_rpc (r : RPC) : database other rows (.rpc r) = (other (.rpc r), rows) := rfl

@[simp] theorem database_isConnected :
    database other rows .isConnected = (other .isConnected, rows) := rfl

@[simp] theorem database_getDeviceIntervals :
    database other rows .getDeviceIntervals = (other .getDeviceIntervals, rows) := rfl

@[simp] theorem database_launch (sim : Simulation) :
    database other rows (.launch sim) = (other (.launch sim), rows) := rfl

/-! ### The missing configurations -/

@[simp] theorem final_countDevices (apps : List ListItem) (total : Nat) (pre : String) :
    (countDevices apps total pre).final (database other) rows = rows := by
  induction apps generalizing total pre with
  | nil => rfl
  | cons app apps ih =>
    simp only [countDevices, Prog.final_bind, result_rpc, final_rpc, database_rpc]
    split <;> exact ih _ _

@[simp] theorem final_buildMissing (tenant : ListItem) :
    (buildMissing tenant).final (database other) rows = rows := by
  simp only [buildMissing, Prog.final_bind, result_rpc, final_rpc, database_rpc]
  split
  · rfl
  · rfl
  · simp

/-- What the tenant is given if it has no configuration does not depend on the others'. -/
theorem result_buildMissing (tenant : ListItem) (rows' : Rows) :
    (buildMissing tenant).result (database other) rows =
      (buildMissing tenant).result (database other) rows' := by
  have hcount : ∀ (apps : List ListItem) (total : Nat) (pre : String),
      (countDevices apps total pre).result (database other) rows =
        (countDevices apps total pre).result (database other) rows' := by
    intro apps
    induction apps with
    | nil => exact fun _ _ => rfl
    | cons app apps ih =>
      intro total pre
      simp only [countDevices, Prog.result_bind, result_rpc, final_rpc, database_rpc]
      split <;> exact ih _ _
  simp only [buildMissing, Prog.result_bind, result_rpc, final_rpc, database_rpc]
  split
  · rfl
  · rfl
  · simp [hcount _ _ _]

/-- The configuration a missing one is replaced by. -/
def missing (tenant : ListItem) : StartRequest :=
  stored (sanitize ((buildMissing tenant).result (database other) fun _ => none))

/-- A tenant with a configuration keeps it, one without gets one. -/
def fill (tenant : ListItem) : Rows :=
  if rows tenant.id = none then Function.update rows tenant.id (some (missing other tenant))
  else rows

/-- The row of a tenant after its turn is the one it had, or the missing one. -/
theorem fill_self (tenant : ListItem) :
    fill other rows tenant tenant.id = some ((rows tenant.id).getD (missing other tenant)) := by
  unfold fill
  cases h : rows tenant.id with
  | none => simp
  | some cfg => simp [h]

/-- The rows of the other tenants are as before. -/
theorem fill_of_ne {tenant : ListItem} {id : String} (h : id ≠ tenant.id) :
    fill other rows tenant id = rows id := by
  unfold fill
  split
  · exact Function.update_of_ne h _ _
  · rfl

theorem final_syncTenant (tenant : ListItem) :
    (syncTenant tenant).final (database other) rows = fill other rows tenant := by
  simp only [syncTenant, fill, Prog.final_bind, result_callAsk, final_callAsk,
    database_getOrgConfig]
  cases h : rows tenant.id with
  | none =>
    simp only [if_pos, Prog.final_bind, final_buildMissing, result_buildMissing other rows tenant
      fun _ => none]
    rfl
  | some cfg => rfl

/-- The rows after the loop, by induction on the tenants. -/
theorem final_syncTenants (tenants : List ListItem) :
    (syncTenants tenants).final (database other) rows = tenants.foldl (fill other) rows := by
  induction tenants generalizing rows with
  | nil => rfl
  | cons tenant tenants ih =>
    rw [syncTenants, Prog.final_bind, final_syncTenant, ih]
    rfl

/-- The list of tenants, or the error of a discovery that does not get it. -/
def listedTenants : Except String (List ListItem) :=
  match (other .isConnected : Bool) with
  | false => .error "ChirpStack API bağlantısı kurulmadı"
  | true =>
    match (other (.rpc (.listTenants 100)) : Except RPCError (List ListItem)) with
    | .error e => .error ("failed to list tenants: " ++ e.text)
    | .ok tenants => .ok tenants

/-- The saved configurations once the missing ones are there. -/
def synced : Rows := syncMissingOrgConfigs.final (database other) rows

theorem synced_eq_foldl :
    synced other rows = ((listedTenants other).toOption.getD []).foldl (fill other) rows := by
  simp only [synced, listedTenants, syncMissingOrgConfigs, Prog.final_bind, result_callAsk,
    final_callAsk, database_isConnected]
  cases (other .isConnected : Bool) with
  | false => rfl
  | true =>
    simp only [Prog.final_bind, result_rpc, final_rpc, database_rpc]
    cases (other (.rpc (.listTenants 100)) : Except RPCError (List ListItem)) with
    | error e => rfl
    | ok tenants => exact final_syncTenants other rows tenants

/-- What an organisation has afterwards depends only on what it has before. -/
theorem synced_congr {rows rows' : Rows} {id : String} (h : rows id = rows' id) :
    synced other rows id = synced other rows' id := by
  rw [synced_eq_foldl, synced_eq_foldl]
  generalize (listedTenants other).toOption.getD [] = tenants
  induction tenants generalizing rows rows' with
  | nil => exact h
  | cons tenant tenants ih =>
    refine ih ?_
    by_cases hid : id = tenant.id
    · subst hid
      rw [fill_self, fill_self, h]
    · rw [fill_of_ne other rows hid, fill_of_ne other rows' hid, h]

/-- A missing configuration is replaced by a generated one. -/
theorem missing_eq (tenant : ListItem) : ∃ deviceCount appName pre,
    missing other tenant = stored (sanitize (missingConfig tenant.id deviceCount appName pre)) := by
  have hbuilt : (buildMissing tenant).Keeps (fun _ _ => True) (fun _ => True) fun cfg =>
      ∃ deviceCount appName pre, cfg = missingConfig tenant.id deviceCount appName pre :=
    (asks_buildMissing none tenant).keeps (fun _ _ _ => trivial) fun _ _ h => h.2
  obtain ⟨deviceCount, appName, pre, h⟩ : ∃ deviceCount appName pre,
      (buildMissing tenant).result (database other) (fun _ => none) =
        missingConfig tenant.id deviceCount appName pre :=
    (hbuilt.of_run fun _ _ => trivial).2
  exact ⟨deviceCount, appName, pre, congrArg (fun cfg => stored (sanitize cfg)) h⟩

/-- What does not tell a generated configuration from a missing one is the same before and after the
    missing configurations are saved. -/
theorem synced_same {α : Type} (f : Option StartRequest → α)
    (hf : ∀ tenantID deviceCount appName pre,
      f (some (stored (sanitize (missingConfig tenantID deviceCount appName pre)))) = f none)
    (id : String) : f (synced other rows id) = f (rows id) := by
  have hfill : ∀ (rows : Rows) (tenant : ListItem), f (fill other rows tenant id) = f (rows id) := by
    intro rows tenant
    by_cases hid : id = tenant.id
    · subst hid
      rw [fill_self]
      cases rows tenant.id with
      | none =>
        obtain ⟨deviceCount, appName, pre, h⟩ := missing_eq other tenant
        rw [Option.getD_none, h]
        exact hf _ _ _ _
      | some cfg => rfl
    · rw [fill_of_ne other rows hid]
  rw [synced_eq_foldl]
  generalize (listedTenants other).toOption.getD [] = tenants
  induction tenants generalizing rows with
  | nil => rfl
  | cons tenant tenants ih => exact (ih (fill other rows tenant)).trans (hfill rows tenant)

/-! ### Payloads -/

/-- The payload of a tenant's simulations. -/
def savedPayload (orgCfg : Option StartRequest) : String :=
  match orgCfg with
  | none => defaultPayload
  | some cfg => orDefault cfg.payload "" defaultPayload

/-- It is hexadecimal text, as `Start` needs it to be. -/
def Decodes (orgCfg : Option StartRequest) : Prop := (Hex.decode (savedPayload orgCfg)).isSome

instance (orgCfg : Option StartRequest) : Decidable (Decodes orgCfg) := by
  unfold Decodes; infer_instance

/-- A tenant without a configuration has the default payload, which decodes. -/
theorem decodes_none : Decodes none := by decide

/-- Whether a tenant's payload decodes is the same before and after the missing configurations are
    saved: those saved have the payload a missing one stands for. -/
theorem decodes_synced (id : String) : Decodes (synced other rows id) ↔ Decodes (rows id) := by
  have hpayload : savedPayload (synced other rows id) = savedPayload (rows id) :=
    synced_same other rows savedPayload (fun _ _ _ _ => rfl) id
  unfold Decodes
  rw [hpayload]

/-! ### The applications a discovery finds -/

/-- An application an entry is made of. -/
structure Found where
  tenantID : String
  app : ListItem
  gateways : Nat
  devices : Nat
  deriving DecidableEq

/-- The application, if it has devices. -/
def foundApp (tenantID : String) (gateways : Nat) (app : ListItem) : Option Found :=
  match (other (.rpc (.listDevices app.id "" 1000 0)) : Except RPCError (List DeviceListItem)) with
  | .error _ => none
  | .ok devices => if devices = [] then none else some ⟨tenantID, app, gateways, devices.length⟩

/-- What there is to simulate for a tenant. -/
def foundTenant (tenant : ListItem) : List Found :=
  match (other (.rpc (.listGateways tenant.id 1000)) : Except RPCError (List ListItem)) with
  | .error _ => []
  | .ok gateways =>
    if gateways = [] then [] else
    match (other (.rpc (.listApplications tenant.id 1000)) : Except RPCError (List ListItem)) with
    | .error _ => []
    | .ok apps => apps.filterMap (foundApp other tenant.id gateways.length)

/-- The applications in the order of their entries. -/
def found : List Found :=
  match listedTenants other with
  | .error _ => []
  | .ok tenants => tenants.flatMap (foundTenant other)

/-- The custom intervals; if they cannot be read there are none. -/
def customIntervals : List (String × String) :=
  match (other .getDeviceIntervals : Except String (List (String × String))) with
  | .error _ => []
  | .ok devIntervals => devIntervals

variable (parseDuration : String → Except String Int)

/-- The entry of an application. -/
def Found.entry (f : Found) : SimulatorConfig :=
  simulatorConfig parseDuration f.tenantID f.app.name f.gateways f.devices (rows f.tenantID)
    (customIntervals other)

/-- The loops, as functions of what ChirpStack answers. -/
theorem run_discoverApps (tenantID : String) (gateways : Nat) (apps : List ListItem) :
    (discoverApps parseDuration tenantID gateways (rows tenantID) (customIntervals other)
        apps).result (database other) rows =
      (apps.filterMap (foundApp other tenantID gateways)).map (Found.entry other rows parseDuration) ∧
    (discoverApps parseDuration tenantID gateways (rows tenantID) (customIntervals other)
        apps).final (database other) rows = rows := by
  induction apps with
  | nil => exact ⟨rfl, rfl⟩
  | cons app apps ih =>
    simp only [discoverApps, Prog.result_bind, Prog.final_bind, result_rpc, final_rpc, database_rpc,
      List.filterMap_cons, foundApp]
    cases (other (.rpc (.listDevices app.id "" 1000 0)) : Except RPCError (List DeviceListItem)) with
    | error e => exact ih
    | ok devices =>
      by_cases hempty : devices = []
      · simpa only [if_pos hempty] using ih
      · simp only [if_neg hempty, Prog.result_bind, Prog.final_bind, Prog.result_pure,
          Prog.final_pure, ih.1, ih.2, List.map_cons, and_true]
        rfl

theorem run_discoverTenant (tenant : ListItem) :
    (discoverTenant parseDuration (customIntervals other) tenant).result (database other) rows =
      (foundTenant other tenant).map (Found.entry other rows parseDuration) ∧
    (discoverTenant parseDuration (customIntervals other) tenant).final (database other) rows =
      rows := by
  simp only [discoverTenant, Prog.result_bind, Prog.final_bind, result_callAsk, final_callAsk,
    database_getOrgConfig, result_rpc, final_rpc, database_rpc, foundTenant]
  cases (other (.rpc (.listGateways tenant.id 1000)) : Except RPCError (List ListItem)) with
  | error e => exact ⟨rfl, rfl⟩
  | ok gateways =>
    by_cases hempty : gateways = []
    · simp only [if_pos hempty]
      exact ⟨rfl, rfl⟩
    · simp only [if_neg hempty, Prog.result_bind, Prog.final_bind, result_rpc, final_rpc,
        database_rpc]
      cases (other (.rpc (.listApplications tenant.id 1000)) :
          Except RPCError (List ListItem)) with
      | error e => exact ⟨rfl, rfl⟩
      | ok apps => exact run_discoverApps other rows parseDuration tenant.id gateways.length apps

theorem run_discoverTenants (tenants : List ListItem) :
    (discoverTenants parseDuration (customIntervals other) tenants).result (database other) rows =
      (tenants.flatMap (foundTenant other)).map (Found.entry other rows parseDuration) ∧
    (discoverTenants parseDuration (customIntervals other) tenants).final (database other) rows =
      rows := by
  induction tenants with
  | nil => exact ⟨rfl, rfl⟩
  | cons tenant tenants ih =>
    obtain ⟨hresult, hfinal⟩ := run_discoverTenant other rows parseDuration tenant
    simp only [discoverTenants, Prog.result_bind, Prog.final_bind, Prog.result_pure,
      Prog.final_pure, hresult, hfinal, ih.1, ih.2, List.flatMap_cons, List.map_append, and_self]

/-- A discovery makes an entry of every application found, and changes nothing. -/
theorem run_discoverAndBuildConfig :
    (discoverAndBuildConfig parseDuration).result (database other) rows =
      (listedTenants other).map
        (fun _ => (found other).map (Found.entry other rows parseDuration)) ∧
    (discoverAndBuildConfig parseDuration).final (database other) rows = rows := by
  simp only [discoverAndBuildConfig, Prog.result_bind, Prog.final_bind, result_callAsk,
    final_callAsk, database_isConnected, found, listedTenants]
  cases (other .isConnected : Bool) with
  | false => exact ⟨rfl, rfl⟩
  | true =>
    simp only [Prog.result_bind, Prog.final_bind, result_callAsk, final_callAsk,
      database_getDeviceIntervals, result_rpc, final_rpc, database_rpc]
    cases (other (.rpc (.listTenants 100)) : Except RPCError (List ListItem)) with
    | error e => exact ⟨rfl, rfl⟩
    | ok tenants =>
      obtain ⟨hresult, hfinal⟩ := run_discoverTenants other rows parseDuration tenants
      simp only [Prog.result_bind, Prog.final_bind, Prog.result_pure, Prog.final_pure, Except.map]
      exact ⟨congrArg Except.ok hresult, hfinal⟩

/-- The entries of a start: those of the applications found, with the configurations as they are
    once the missing ones are saved. -/
theorem result_prepareStart :
    (prepareStart parseDuration).result (database other) rows =
      (listedTenants other).map
        (fun _ => (found other).map (Found.entry other (synced other rows) parseDuration)) := by
  rw [prepareStart, Prog.result_bind]
  exact (run_discoverAndBuildConfig other (synced other rows) parseDuration).1

end

/-! ## What a start launches -/

/-- The call neither writes to ChirpStack nor launches anything. -/
def Looks : Call → Prop
  | .rpc r => ¬ r.Writes
  | .launch _ => False
  | _ => True

/-- What is asked for before the launches changes nothing in ChirpStack. -/
theorem Asks.looks {s : Option String} {c : Call} (h : Asks s c) : Looks c := by
  cases c <;> first | exact h | trivial

theorem looks_syncMissingOrgConfigs :
    syncMissingOrgConfigs.Keeps (fun _ _ => True) Looks fun _ => True :=
  (asks_syncMissingOrgConfigs none).keeps (fun _ _ => Asks.looks) fun _ _ _ => trivial

/-- Before a start launches anything it only looks, and every entry it makes is passive. -/
theorem looks_prepareStart (parseDuration : String → Except String Int) :
    (prepareStart parseDuration).Keeps (fun _ _ => True) Looks
      fun r => ∀ cfg, r = .ok cfg → AllPassive cfg :=
  (asks_prepareStart parseDuration none).keeps (fun _ _ => Asks.looks) fun _ _ h => h

/-- The simulations launched. -/
def launched (es : List (Prog.Event Call.Answer)) : List Simulation :=
  es.filterMap fun e => match e.call with
    | .launch sim => some sim
    | _ => none

@[simp] theorem launched_nil : launched [] = [] := rfl

@[simp] theorem launched_append (es es' : List (Prog.Event Call.Answer)) :
    launched (es ++ es') = launched es ++ launched es' := List.filterMap_append

/-- Looking launches nothing. -/
theorem launched_looks {es : List (Prog.Event Call.Answer)} (h : ∀ e ∈ es, Looks e.call) :
    launched es = [] := by
  refine List.filterMap_eq_nil_iff.mpr fun e he => ?_
  split
  · rename_i sim hcall
    exact absurd (h e he) (by rw [hcall]; exact not_false)
  · rfl

/-- The simulations `Start` launches for entries from the number `i` on: it returns at the first
    payload it cannot decode. -/
def launchedFrom : Nat → List SimulatorConfig → List Simulation
  | _, [] => []
  | i, c :: cs =>
    match newSimulation i c with
    | .error _ => []
    | .ok sim => sim :: launchedFrom (i + 1) cs

/-- The loop launches the entries in order, up to the first that is refused. -/
theorem launched_startLoop {σ : Type} (env : Prog.Env σ Call.Answer) (s : σ) (i : Nat)
    (cfg : List SimulatorConfig) :
    launched ((startLoop i cfg).events env s) = launchedFrom i cfg := by
  induction cfg generalizing i s with
  | nil => rfl
  | cons c cs ih =>
    unfold startLoop launchedFrom
    cases newSimulation i c with
    | error e => rfl
    | ok sim => exact congrArg (sim :: ·) (ih _ (i + 1))

/-- **What an accepted start launches.** -/
theorem launched_handleStart (parseDuration : String → Except String Int)
    (other : (c : Call) → c.Answer) (rows : Rows) {req : StartRequest} {status : Status}
    (hvalid : validateStartRequest parseDuration req = .ok ())
    (hstatus : status = .idle ∨ status = .error) :
    launched ((handleStart parseDuration true (.ok req) status).events (database other) rows) =
      launchedFrom 0
        ((found other).map (Found.entry other (synced other rows) parseDuration)) := by
  have hprepare : launched ((prepareStart parseDuration).events (database other) rows) = [] :=
    launched_looks ((looks_prepareStart parseDuration).of_run fun _ _ => trivial).1
  have hfree : ¬ (status ≠ .idle ∧ status ≠ .error) := by
    rcases hstatus with rfl | rfl <;> simp
  simp only [handleStart, Bool.true_eq_false, if_false, hvalid, Prog.events_bind, launched_append,
    hprepare, List.nil_append, result_prepareStart, found]
  cases listedTenants other with
  | error e => rfl
  | ok tenants =>
    simp only [Except.map, if_neg hfree, Prog.events_bind, Prog.events_pure, List.append_nil,
      launched_startLoop]

end ChirpStackSimulator.Discovery
