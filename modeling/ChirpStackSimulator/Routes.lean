/-
  The routes of the HTTP API and the programs behind them (`internal/api/server.go`,
  `internal/api/passive_mode.go`, `internal/api/org_configs.go`, `doSync` of
  `internal/api/passive_sync.go`).

  A request goes through the mux to its route, through `requireAuth`, on some routes through
  `requireWriteMode`, and to its handler.  Requests, simulations and topology syncs run side by side.

  1. **Requests and routes** — `route` is the mux; paths it would first clean and redirect are left
     out.
  2. **Handlers** — those that only know the database; those that neither call ChirpStack nor the
     database answer `none`, they are modelled elsewhere or left out.
  3. **`serve`** — the table of `New` with its guards.
  4. **Tasks** — `Task.program`, and the world they run in.

  When a sync is begun, by `handleTriggerSync` or by the poller, is left open.
-/
import ChirpStackSimulator.Bootstrap
import ChirpStackSimulator.Setup
import ChirpStackSimulator.Topology

namespace ChirpStackSimulator.Routes

open Handlers Bootstrap
open Lifecycle (Status)

/-! ## Requests and routes -/

/-- What the body decodes to, as each type a handler decodes it to. -/
structure Body where
  start : Except String StartRequest
  bootstrap : Except String BootstrapRequest
  organization : Except String OrganizationRequest
  createApplication : Except String CreateApplicationRequest
  updateApplication : Except String UpdateApplicationRequest
  gateway : Except String CreateGatewayRequest
  deviceProfile : Except String CreateDeviceProfileRequest
  device : Except String CreateDeviceRequest
  /-- The fields `dev_eui` and `interval`. -/
  deviceInterval : Except String (String × String)
  /-- The fields `enabled` and `sync_interval_minutes`. -/
  passiveMode : Except String (Bool × Int)

structure HTTPRequest where
  method : Method
  path : String
  /-- The cookie `sim_session`. -/
  cookie : Option String
  query : Query
  body : Body

inductive Route where
  | login | logout | authStatus | logStream | bootstrap | config | status | start | stop
  | metrics | activeDevices | activeGateways | health | smtpConfig | testEmail
  | organizations | organization (id : String)
  | orgConfig (orgID : String)
  | deviceProfiles | deviceProfile (id : String)
  | applications | application (id : String)
  | gateways | gateway (id : String)
  | devices | device (path : String)
  | deviceIntervals | passiveMode | syncTrigger | syncStatus | syncEvents | syncDismiss
  | ui
  deriving DecidableEq

/-- The patterns that stand for one path. -/
def paths : List (String × Route) :=
  [("/api/auth/login", .login), ("/api/auth/logout", .logout), ("/api/auth/status", .authStatus),
    ("/api/logs/stream", .logStream), ("/api/bootstrap", .bootstrap), ("/api/config", .config),
    ("/api/status", .status), ("/api/start", .start), ("/api/stop", .stop),
    ("/api/simulation/metrics", .metrics), ("/api/simulation/devices", .activeDevices),
    ("/api/simulation/gateways", .activeGateways), ("/api/health", .health),
    ("/api/system/smtp-config", .smtpConfig), ("/api/system/test-email", .testEmail),
    ("/api/organizations", .organizations), ("/api/device-profiles", .deviceProfiles),
    ("/api/applications", .applications), ("/api/gateways", .gateways), ("/api/devices", .devices),
    ("/api/device-intervals", .deviceIntervals), ("/api/passive-mode", .passiveMode),
    ("/api/passive-sync/trigger", .syncTrigger), ("/api/passive-sync/status", .syncStatus),
    ("/api/passive-sync/events", .syncEvents), ("/api/passive-sync/dismiss", .syncDismiss)]

/-- The patterns that stand for everything below them. -/
def subtrees : List (String × (String → Route)) :=
  [("/api/organizations/", .organization), ("/api/org-configs/", .orgConfig),
    ("/api/device-profiles/", .deviceProfile), ("/api/applications/", .application),
    ("/api/gateways/", .gateway), ("/api/devices/", .device)]

/-- What follows the pattern in the path. -/
def below (pattern path : String) : Option String :=
  if pattern.toList.isPrefixOf path.toList then
    some (String.ofList (path.toList.drop pattern.length))
  else none

/-- The mux. -/
def route (path : String) : Route :=
  match paths.lookup path with
  | some r => r
  | none => (subtrees.findSome? fun e => (below e.1 path).map e.2).getD .ui

/-! ## Handlers -/

/-- `IsPassiveModeEnabled`. -/
def isPassiveModeEnabled : Action Bool := do
  match ← Call.ask (.getSystemState "passive_mode") with
  | .error _ => pure false
  | .ok val => pure (val = "true")

def handleGetOrgConfig (orgID : String) : Action Response := do
  match ← Call.ask (.getOrgConfig orgID) with
  | .error e => pure (.internalServerError ("Database error: " ++ e))
  | .ok _ => pure .json

def handleSaveOrgConfig (parseDuration : String → Except String Int) (orgID : String)
    (body : Except String StartRequest) : Action Response :=
  decoded "invalid JSON: " body fun req =>
    match validateStartRequest parseDuration req with
    | .error e => pure (.badRequest e)
    | .ok _ => do
      match ← Discovery.saveOrgConfig orgID req with
      | some e =>
        pure (.internalServerError ("Failed to save configuration to database: " ++ e))
      | none => pure (.ok "ok")

def handleGetDeviceIntervals : Action Response := do
  match ← Call.ask .getDeviceIntervals with
  | .error e => pure (.internalServerError e)
  | .ok _ => pure .json

def handleSaveDeviceInterval (body : Except String (String × String)) : Action Response :=
  decoded "geçersiz JSON: " body fun req =>
    if req.1 = "" ∨ req.2 = "" then pure (.badRequest "dev_eui ve interval zorunludur") else do
    match ← Call.ask (.saveDeviceInterval req.1 req.2) with
    | some e => pure (.internalServerError e)
    | none => pure (.ok "success")

def handleGetPassiveMode : Action Response := do
  let _ ← isPassiveModeEnabled
  let _ ← Call.ask (.getSystemState "sync_interval_minutes")
  pure .json

/-- The poller it starts or stops is left out. -/
def handleSavePassiveMode (m : Method) (body : Except String (Bool × Int)) : Action Response :=
  only .post m <| decoded "invalid JSON: " body fun req => do
    match ← Call.ask (.saveSystemState "passive_mode" (if req.1 then "true" else "false")) with
    | some e => pure (.internalServerError e)
    | none => do
      let interval := if req.2 < 1 then 5 else req.2
      match ← Call.ask (.saveSystemState "sync_interval_minutes" (toString interval)) with
      | some e => pure (.internalServerError e)
      | none => pure .json

def handleTriggerSync (m : Method) : Action Response :=
  only .post m do
    let passive ← isPassiveModeEnabled
    if passive then pure (.ok "sync_triggered")
    else pure (.badRequest "passive mode is not enabled")

/-! ## `serve` -/

/-- The handlers of a route by method. -/
def byMethod (m : Method) (handlers : List (Method × Action Response)) : Action Response :=
  match handlers.lookup m with
  | some k => k
  | none => pure .methodNotAllowed

/-- The part of the path that names the entity must not be empty. -/
def withID (id error : String) (k : Action Response) : Action Response :=
  if id = "" then pure (.badRequest error) else k

/-- The device the path of an anomaly request is about. -/
def anomalyOf (path : String) : Option String :=
  let suffix := "/anomaly"
  if suffix.toList.isSuffixOf path.toList then
    some (String.ofList (path.toList.take (path.length - suffix.length)))
  else none

section
variable (secretToken : String) (enums : Enums) (parseDuration : String → Except String Int)

/-- `requireAuth`. -/
def requireAuth (r : HTTPRequest) (next : Action (Option Response)) : Action (Option Response) :=
  if r.cookie = some secretToken then next else pure (some .unauthorized)

/-- `requireWriteMode`: passive mode is only asked for if the method is not GET. -/
def requireWriteMode (r : HTTPRequest) (next : Action (Option Response)) :
    Action (Option Response) :=
  if r.method = .get then next else do
    let passive ← isPassiveModeEnabled
    if passive then pure (some .locked) else next

/-- The handler of a route; `status` is the run status `handleStart` finds. -/
def handler (r : HTTPRequest) (status : Status) : Route → Action (Option Response)
  | .login | .logout | .authStatus | .health | .ui => pure none
  | .logStream | .config | .status | .stop | .metrics | .activeDevices | .activeGateways
  | .smtpConfig | .testEmail | .syncStatus | .syncEvents | .syncDismiss =>
    requireAuth secretToken r (pure none)
  | .bootstrap => requireAuth secretToken r (some <$> handleBootstrap r.method r.body.bootstrap)
  | .start => requireAuth secretToken r (some <$>
      Discovery.handleStart parseDuration (r.method = .post) r.body.start status)
  | .organizations => requireAuth secretToken r <| requireWriteMode r <| some <$> byMethod r.method
      [(.get, handleListOrganizations r.method),
        (.post, handleCreateOrganization r.method r.body.organization)]
  | .organization id => requireAuth secretToken r <| requireWriteMode r <| some <$>
      (withID id "organization id is required" <| byMethod r.method
        [(.delete, handleDeleteOrganization r.method id),
          (.put, handleUpdateOrganization r.method id r.body.organization)])
  | .orgConfig orgID => requireAuth secretToken r <| some <$>
      (withID orgID "organization id is required" <| byMethod r.method
        [(.get, handleGetOrgConfig orgID),
          (.post, handleSaveOrgConfig parseDuration orgID r.body.start)])
  | .deviceProfiles => requireAuth secretToken r <| requireWriteMode r <| some <$> byMethod r.method
      [(.get, handleListDeviceProfiles r.method r.query),
        (.post, handleCreateDeviceProfile r.method enums r.body.deviceProfile)]
  | .deviceProfile id => requireAuth secretToken r <| requireWriteMode r <| some <$>
      (withID id "device profile id is required" <| byMethod r.method
        [(.get, handleGetDeviceProfile r.method id),
          (.put, handleUpdateDeviceProfile r.method enums id r.body.deviceProfile),
          (.delete, handleDeleteDeviceProfile r.method id)])
  | .applications => requireAuth secretToken r <| requireWriteMode r <| some <$> byMethod r.method
      [(.get, handleListApplications r.method r.query),
        (.post, handleCreateApplication r.method r.body.createApplication)]
  | .application id => requireAuth secretToken r <| requireWriteMode r <| some <$>
      (withID id "application id is required" <| byMethod r.method
        [(.delete, handleDeleteApplication r.method id),
          (.put, handleUpdateApplication r.method id r.body.updateApplication)])
  | .gateways => requireAuth secretToken r <| requireWriteMode r <| some <$> byMethod r.method
      [(.get, handleListGateways r.method r.query),
        (.post, handleCreateGateway r.method r.body.gateway)]
  | .gateway id => requireAuth secretToken r <| requireWriteMode r <| some <$>
      (withID id "gateway id is required" <| byMethod r.method
        [(.delete, handleDeleteGateway r.method id)])
  | .devices => requireAuth secretToken r <| requireWriteMode r <| some <$> byMethod r.method
      [(.get, handleListDevices r.method r.query),
        (.post, handleCreateDevice r.method r.body.device)]
  | .device path => requireAuth secretToken r <| requireWriteMode r <|
      if path = "" then pure (some (.badRequest "dev_eui is required")) else
      match anomalyOf path with
      | some _ => if r.method = .post then pure none else pure (some .methodNotAllowed)
      | none => some <$> handleDeviceByID r.method path r.body.device
  | .deviceIntervals => requireAuth secretToken r <| some <$> byMethod r.method
      [(.get, handleGetDeviceIntervals), (.post, handleSaveDeviceInterval r.body.deviceInterval)]
  | .passiveMode => requireAuth secretToken r <| some <$> byMethod r.method
      [(.get, handleGetPassiveMode), (.post, handleSavePassiveMode r.method r.body.passiveMode)]
  | .syncTrigger => requireAuth secretToken r (some <$> handleTriggerSync r.method)

/-- What a request is answered. -/
def serve (r : HTTPRequest) (status : Status) : Action (Option Response) :=
  handler secretToken enums parseDuration r status (route r.path)

end

/-! ## Tasks -/

/-- The ids of the entities below each of the parents; a listing that fails is skipped. -/
def idsBelow (list : String → Action (Except RPCError (List String))) :
    List String → Action (List String)
  | [] => pure []
  | parent :: parents => do
    let listing ← list parent
    let rest ← idsBelow list parents
    match listing with
    | .error _ => pure rest
    | .ok ids => pure (ids ++ rest)

def listIDs (list : Action (Except RPCError (List ListItem))) :
    Action (Except RPCError (List String)) := do
  let listing ← list
  pure (listing.map (List.map ListItem.id))

/-- The calls of `takeSnapshot`. -/
def snapshotCalls : Action Unit := do
  match ← rpc (.listTenants 200) with
  | .error _ => pure ()
  | .ok tenants => do
    let tenantIDs := PassiveSync.sortStrings (tenants.map ListItem.id)
    let _ ← idsBelow (fun id => listIDs (rpc (.listGateways id 1000))) tenantIDs
    let _ ← idsBelow (fun id => listIDs (rpc (.listDeviceProfiles id 1000))) tenantIDs
    let applicationIDs ← idsBelow (fun id => listIDs (rpc (.listApplications id 1000))) tenantIDs
    forEach (fun id => do let _ ← rpc (.listDevices id "" 1000 0); pure ())
      (PassiveSync.sortStrings applicationIDs)

/-- The calls of `doSync`. -/
def syncCalls : Action Unit := do
  match ← Call.ask .isConnected with
  | false => pure ()
  | true => snapshotCalls

inductive Task where
  | request (r : HTTPRequest) (status : Status)
  | simulation (sim : Simulation)
  | sync

section
variable (lib : Parsers) (secretToken : String) (enums : Enums)
  (parseDuration : String → Except String Int) (fuel : Nat)

def Task.program : Task → Action Unit
  | .request r status => do
    let _ ← serve secretToken enums parseDuration r status
    pure ()
  | .simulation sim => do
    let _ ← Setup.start lib sim fuel
    pure ()
  | .sync => syncCalls

/-- `go sim.start()`. -/
def spawned : Call → Option Task
  | .launch sim => some (.simulation sim)
  | _ => none

/-- Requests, simulations and syncs side by side. -/
abbrev World := Prog.Pool Task Call Call.Answer Unit

def step : World → Prog.PoolLabel Task Call Call.Answer → Option World :=
  Prog.poolStep (Task.program lib secretToken enums parseDuration fuel) spawned

end

end ChirpStackSimulator.Routes
