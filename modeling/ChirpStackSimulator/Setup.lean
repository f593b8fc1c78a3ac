/-
  One simulation from `start` to its end (`internal/simulator/simulator.go`).

  `init` fills in the fields of the `simulation` step by step and returns at the first error;
  `runSimulation` makes the gateways and devices of whatever is there; `tearDown` takes the MQTT
  subscription and, in active mode, the gateways away again.

  1. **State** — `Loaded` is what `init` fills in, `Ending` how a function ends.
  2. **`init`** — tenant, gateways, device profile, application, devices, integration.
  3. **`runSimulation`**, **`tearDown`**, **`start`**.

  A loop without a bound takes its number of rounds from `fuel`, and a program that has used it up is
  `running`.  A Go map is the list of its entries in the order they came in; ranging over a map, which
  Go does in any order, goes along the list.
-/
import ChirpStackSimulator.Calls
import Mathlib.Data.List.Basic

namespace ChirpStackSimulator.Setup

open LoRaWAN

/-! ## State -/

/-- `m[k] = v`. -/
def mapSet {κ ν : Type} [DecidableEq κ] (m : List (κ × ν)) (k : κ) (v : ν) : List (κ × ν) :=
  m.filter (fun e => e.1 ≠ k) ++ [(k, v)]

/-- A new key comes at the end. -/
theorem mapSet_of_notMem {κ ν : Type} [DecidableEq κ] {m : List (κ × ν)} {k : κ} {v : ν}
    (h : k ∉ m.map Prod.fst) : mapSet m k v = m ++ [(k, v)] := by
  have hfilter : m.filter (fun e => e.1 ≠ k) = m := by
    refine List.filter_eq_self.mpr fun e he => ?_
    have hne : e.1 ≠ k := fun heq => h (heq ▸ List.mem_map_of_mem he)
    simpa using hne
  rw [mapSet, hfilter]

/-- The fields of a `simulation` that `init` fills in. -/
structure Loaded where
  tenant : TenantRecord
  deviceProfileID : UUID
  applicationID : String
  gatewayIDs : List EUI64
  deviceEUIs : List EUI64
  deviceAppKeys : List (EUI64 × AES128Key)
  deviceNames : List (EUI64 × String)
  deriving DecidableEq

/-- As `Start` makes it. -/
def Loaded.empty : Loaded := ⟨⟨"", "", "", false⟩, Vector.replicate 16 0, "", [], [], [], []⟩

inductive Ending where
  | ok
  | error (text : String)
  /-- Not at its end: a loop has used up its rounds. -/
  | running
  | panic
  deriving DecidableEq

/-- A step of `init`: what is loaded after it, and how it ends. -/
abbrev SetupStep := Action (Loaded × Ending)

/-- The step `q` after `p`, if `p` returns no error. -/
def andThen (p : SetupStep) (q : Loaded → SetupStep) : SetupStep :=
  p >>= fun r => match r.2 with
    | .ok => q r.1
    | e => pure (r.1, e)

section
variable (lib : Parsers) (sim : Simulation)

/-! ## `init` -/

def setupTenant (s : Loaded) : SetupStep := do
  match ← rpc (.getTenant sim.tenantID) with
  | .error e => pure (s, .error ("get tenant error: " ++ e.text))
  | .ok tenant => pure ({ s with tenant }, .ok)

/-- The gateway ids of a listing that parse; the others are logged and left out. -/
def parsedGateways (gateways : List ListItem) : List EUI64 :=
  gateways.filterMap fun g => (lib.eui64 g.id).toOption

/-- The loop of active mode, with so many gateways to create. -/
def createGateways : Nat → Loaded → SetupStep
  | 0, s => pure (s, .ok)
  | n + 1, s => do
    match ← Call.ask (.randRead 8) with
    | .error e => pure (s, .error ("read random bytes error: " ++ e))
    | .ok gatewayID =>
      let id := Hex.encode gatewayID.toList
      match ← rpc (.createGateway ⟨id, id, id, s.tenant.id⟩) with
      | .error e => pure (s, .error ("create gateway error: " ++ e.text))
      | .ok _ => createGateways n { s with gatewayIDs := s.gatewayIDs ++ [gatewayID] }

def setupGateways (s : Loaded) : SetupStep :=
  if sim.passiveMode then do
    match ← rpc (.listGateways s.tenant.id 1000) with
    | .error e => pure (s, .error ("passive: list gateways error: " ++ e.text))
    | .ok gateways =>
      let s := { s with gatewayIDs := s.gatewayIDs ++ parsedGateways lib gateways }
      if s.gatewayIDs = [] then
        pure (s, .error "passive mode: no gateways found in ChirpStack for this tenant")
      else pure (s, .ok)
  else createGateways sim.gatewayMaxCount.toNat s

/-- `uuid.FromString` on the id of the profile. -/
def setProfile (s : Loaded) (id : String) : SetupStep :=
  match lib.uuid id with
  | .error e => pure (s, .error e)
  | .ok deviceProfileID => pure ({ s with deviceProfileID }, .ok)

def setupDeviceProfile (s : Loaded) : SetupStep := do
  let dpName := sim.appName ++ "-profile"
  match ← rpc (.listDeviceProfiles s.tenant.id 100) with
  | .error e => pure (s, .error ("list device-profiles error: " ++ e.text))
  | .ok profiles =>
    if sim.passiveMode then
      match profiles with
      | [] => pure (s, .error "passive mode: no device profiles found in ChirpStack for this tenant")
      | first :: _ =>
        match profiles.find? fun item => item.name = dpName with
        | some item => setProfile lib s item.id
        | none => setProfile lib s first.id
    else
      match profiles.find? fun item => item.name = dpName with
      | some item => setProfile lib s item.id
      | none =>
        match ← rpc (.createDeviceProfile ⟨"", dpName, s.tenant.id, "", "LORAWAN_1_0_3", "B", "EU868",
            true, false, false, "default"⟩) with
        | .error e => pure (s, .error ("create device-profile error: " ++ e.text))
        | .ok id => setProfile lib s id

def setupApplication (s : Loaded) : SetupStep := do
  match ← rpc (.listApplications s.tenant.id 1000) with
  | .error e => pure (s, .error ("list applications error: " ++ e.text))
  | .ok apps =>
    if sim.passiveMode then
      match apps.find? fun item => item.name = sim.appName with
      | some item => pure ({ s with applicationID := item.id }, .ok)
      | none =>
        match ← rpc (.listApplications s.tenant.id 100) with
        | .error e => pure (s, .error ("passive: list all applications error: " ++ e.text))
        | .ok [] =>
          pure (s, .error "passive mode: no applications found in ChirpStack for this tenant")
        | .ok (first :: _) => pure ({ s with applicationID := first.id }, .ok)
    else
      match apps.find? fun item => item.name = sim.appName with
      | some item => pure ({ s with applicationID := item.id }, .ok)
      | none =>
        match ← rpc (.createApplication ⟨"", sim.appName, sim.appName, s.tenant.id⟩) with
        | .error e => pure (s, .error ("create application error: " ++ e.text))
        | .ok id => pure ({ s with applicationID := id }, .ok)

/-- The paging loop of `setupDevices`; `none` while it is running. -/
def listAllDevices (applicationID : String) : Nat → UInt32 → List DeviceListItem →
    Action (Option (Except String (List DeviceListItem)))
  | 0, _, _ => pure none
  | fuel + 1, offset, allDevices => do
    match ← rpc (.listDevices applicationID "" 1000 offset) with
    | .error e => pure (some (.error ("list devices error: " ++ e.text)))
    | .ok results =>
      if results = [] then pure (some (.ok allDevices))
      else if results.length < 1000 then pure (some (.ok (allDevices ++ results)))
      else listAllDevices applicationID fuel (offset + 1000) (allDevices ++ results)

/-- The key text is empty or all zero. -/
def BlankKey (key : String) : Prop := key = "" ∨ key = "00000000000000000000000000000000"

instance (key : String) : Decidable (BlankKey key) := by unfold BlankKey; infer_instance

/-- The key of a device with keys: its NwkKey, or its AppKey if that is blank. -/
def keyText (keys : DeviceKeys) : String :=
  if BlankKey keys.nwkKey then keys.appKey else keys.nwkKey

/-- The key of an enabled device; without one the device is left out. -/
def deviceKey (item : DeviceListItem) : Action (Option AES128Key) := do
  match ← rpc (.getKeys item.devEUI) with
  | .error e =>
    if e.notFound then
      match ← Call.ask (.randRead 16) with
      | .error _ => pure none
      | .ok bytes =>
        let appKeyStr := Hex.encode bytes.toList
        match ← rpc (.createKeys ⟨item.devEUI, appKeyStr, appKeyStr⟩) with
        | some _ => pure none
        | none => pure (lib.aes128Key appKeyStr).toOption
    else pure none
  | .ok keys =>
    let keyStr := keyText keys
    if BlankKey keys.appKey then do
      -- whether it fails is not looked at
      let _ ← rpc (.updateKeys ⟨item.devEUI, keyStr, keyStr⟩)
      pure (lib.aes128Key keyStr).toOption
    else pure (lib.aes128Key keyStr).toOption

/-- One round of the loop over the listed devices. -/
def loadDevice (s : Loaded) (item : DeviceListItem) : SetupStep :=
  match lib.eui64 item.devEUI with
  | .error e => pure (s, .error ("parse dev EUI for " ++ item.name ++ ": " ++ e))
  | .ok devEUI => do
    match ← rpc (.getDevice item.devEUI) with
    | .error _ => pure (s, .ok)
    | .ok device =>
      if device.isDisabled then pure (s, .ok) else
      match ← deviceKey lib item with
      | none => pure (s, .ok)
      | some appKey => pure ({ s with
          deviceAppKeys := mapSet s.deviceAppKeys devEUI appKey
          deviceNames := mapSet s.deviceNames devEUI item.name
          deviceEUIs := s.deviceEUIs ++ [devEUI] }, .ok)

def loadDevices : List DeviceListItem → Loaded → SetupStep
  | [], s => pure (s, .ok)
  | item :: items, s => andThen (loadDevice lib s item) (loadDevices items)

def setupDevices (fuel : Nat) (s : Loaded) : SetupStep := do
  match ← listAllDevices s.applicationID fuel 0 [] with
  | none => pure (s, .running)
  | some (.error e) => pure (s, .error e)
  | some (.ok allDevices) =>
    loadDevices lib allDevices { s with deviceAppKeys := [], deviceNames := [], deviceEUIs := [] }

/-- The uplink events of the application's devices. -/
def integrationTopic (applicationID : String) : String :=
  "application/" ++ applicationID ++ "/device/+/event/up"

def setupApplicationIntegration (s : Loaded) : SetupStep := do
  match ← Call.ask (.subscribe (integrationTopic s.applicationID)) with
  | some e => pure (s, .error ("subscribe application integration error: " ++ e))
  | none => pure (s, .ok)

def init (fuel : Nat) (s : Loaded) : SetupStep :=
  andThen (andThen (andThen (andThen (andThen (setupTenant sim s)
    (setupGateways lib sim)) (setupDeviceProfile lib sim)) (setupApplication sim))
    (setupDevices lib fuel)) setupApplicationIntegration

/-! ## `runSimulation` -/

/-- `NewGateway`: the object is there once both topic templates are parsed. -/
def newGateway (opts : GatewayOptions) : Action (Except String Unit) :=
  match lib.template opts.eventTopicTemplate with
  | .error e => pure (.error ("parse event topic template error: " ++ e))
  | .ok _ =>
    match lib.template opts.commandTopicTemplate with
    | .error e => pure (.error ("parse command topic template error: " ++ e))
    | .ok _ => do
      let _ ← Call.ask (.newGateway opts)
      pure (.ok ())

def newGateways : List EUI64 → Action Ending
  | [] => pure .ok
  | gatewayID :: rest => do
    match ← newGateway lib ⟨gatewayID, sim.eventTopicTemplate, sim.commandTopicTemplate,
        sim.tenantID⟩ with
    | .error e => pure (.error ("new gateway error: " ++ e))
    | .ok _ => newGateways rest

/-- `for len(devGateways) < devNumGateways`: pick gateways until there are so many different ones. -/
def pickGateways (gateways : Nat) (devNumGateways : Int) :
    Nat → List Nat → Action (Ending × List Nat)
  | fuel, picked =>
    if (picked.length : Int) < devNumGateways then
      match fuel, gateways with
      | 0, _ => pure (.running, picked)
      -- `mrand.Intn(0)`
      | _ + 1, 0 => pure (.panic, picked)
      | fuel + 1, bound + 1 => do
        let n ← Call.ask (.intn bound)
        pickGateways gateways devNumGateways fuel
          (if n.val ∈ picked then picked else picked ++ [n.val])
    else pure (.ok, picked)

/-- `unicode.IsSpace`. -/
def isSpace (c : Char) : Bool :=
  [0x9, 0xA, 0xB, 0xC, 0xD, 0x20, 0x85, 0xA0, 0x1680, 0x2028, 0x2029, 0x202F, 0x205F,
    0x3000].contains c.toNat || (0x2000 ≤ c.toNat && c.toNat ≤ 0x200A)

/-- `strings.TrimSpace`. -/
def trimSpace (text : String) : String :=
  String.ofList ((text.toList.dropWhile isSpace).reverse.dropWhile isSpace).reverse

/-- The anomaly types, which come separated by commas. -/
def splitAnomalyTypes (types : String) : List String :=
  ((types.splitOn ",").map trimSpace).filter fun t => t ≠ ""

/-- The interval of a device: its own one, or that of the simulation. -/
def devInterval (devEUI : EUI64) : Int :=
  ((sim.deviceIntervals.lookup (Hex.encode devEUI.toList)).getD sim.uplinkInterval)

/-- The share of the interval the device waits before it joins, in 64-bit arithmetic. -/
def staggerDelay (interval : Int) (deviceIdx numDevices : Nat) : Int :=
  if 1 < numDevices then
    (Int64.ofInt interval * Int64.ofNat deviceIdx / Int64.ofNat numDevices).toInt
  else 0

/-- `uint32(x)`. -/
def toUInt32 (x : Int) : UInt32 := UInt32.ofNat (x % 4294967296).toNat

/-- What `runSimulation` gives the device at `deviceIdx`. -/
def deviceOptions (s : Loaded) (deviceIdx : Nat) (devEUI : EUI64) (appKey : AES128Key)
    (gateways : List Nat) : DeviceOptions where
  devEUI := devEUI
  appName := sim.appName
  deviceName := (s.deviceNames.lookup devEUI).getD ""
  appKey := appKey
  uplinkInterval := devInterval sim devEUI
  otaaDelay := staggerDelay (devInterval sim devEUI) deviceIdx s.deviceAppKeys.length
  fPort := sim.fPort
  payload := sim.payload
  payloadScript := sim.payloadScript
  packetLoss := sim.packetLoss
  latencyMs := sim.latencyMs
  anomalyProbability := sim.anomalyProbability
  anomalyTypes := splitAnomalyTypes sim.anomalyTypes
  anomalyDuration := sim.anomalyDuration
  gateways := gateways
  tenantID := sim.tenantID
  applicationID := s.applicationID
  frequency := toUInt32 sim.frequency
  bandwidth := toUInt32 sim.bandwidth
  spreadingFactor := toUInt32 sim.spreadingFactor

/-- The loop over `deviceAppKeys`. -/
def newDevices (fuel : Nat) (s : Loaded) : Nat → List (EUI64 × AES128Key) → Action Ending
  | _, [] => pure .ok
  | deviceIdx, (devEUI, appKey) :: rest =>
    -- `mrand.Intn` panics on a bound that is not positive
    if sim.gatewayMaxCount - sim.gatewayMinCount + 1 ≤ 0 then pure .panic else do
    let extra ← Call.ask (.intn (sim.gatewayMaxCount - sim.gatewayMinCount).toNat)
    match ← pickGateways s.gatewayIDs.length (sim.gatewayMinCount + extra.val) fuel [] with
    | (.ok, gateways) => do
      let _ ← Call.ask (.newDevice (deviceOptions sim s deviceIdx devEUI appKey gateways))
      newDevices fuel s (deviceIdx + 1) rest
    | (e, _) => pure e

def runSimulation (fuel : Nat) (s : Loaded) : Action Ending := do
  match ← newGateways lib sim s.gatewayIDs with
  | .ok =>
    match ← newDevices sim fuel s 0 s.deviceAppKeys with
    | .ok => do
      let _ ← Call.ask .wait
      pure .ok
    | e => pure e
  | e => pure e

/-! ## `tearDown` and `start` -/

def tearDownGateways : List EUI64 → Action (Option String)
  | [] => pure none
  | gatewayID :: rest => do
    match ← rpc (.deleteGateway (Hex.encode gatewayID.toList)) with
    | some e => pure (some ("delete gateway error: " ++ e.text))
    | none => tearDownGateways rest

/-- Devices, application and device profile are kept, the gateways only in passive mode. -/
def tearDown (s : Loaded) : Action (Option String) := do
  match ← Call.ask (.unsubscribe (integrationTopic s.applicationID)) with
  | some e => pure (some ("unsubscribe application integration error: " ++ e))
  | none => if sim.passiveMode then pure none else tearDownGateways s.gatewayIDs

/-- `start` after `init`: the simulation is run and torn down whether `init` returned an error or
    not, and so is the run signalled. -/
def afterInit (fuel : Nat) (s : Loaded) : Action Ending := do
  match ← runSimulation lib sim fuel s with
  | .running => pure .running
  | .panic => pure .panic
  | .ok | .error _ => do
    let _ ← tearDown sim s
    let _ ← Call.ask .wgDone
    pure .ok

def start (fuel : Nat) : Action Ending := do
  match ← init lib sim fuel .empty with
  | (_, .running) => pure .running
  | (_, .panic) => pure .panic
  | (s, .ok) | (s, .error _) => afterInit lib sim fuel s

end

/-- The devices a run has made, each with its application. -/
def devicesMade (es : List (Prog.Event Call.Answer)) : List (EUI64 × String) :=
  es.filterMap fun e => match e.call with
    | .newDevice opts => some (opts.devEUI, opts.applicationID)
    | _ => none

@[simp] theorem devicesMade_nil : devicesMade [] = [] := rfl

@[simp] theorem devicesMade_append (es es' : List (Prog.Event Call.Answer)) :
    devicesMade (es ++ es') = devicesMade es ++ devicesMade es' := List.filterMap_append

end ChirpStackSimulator.Setup
