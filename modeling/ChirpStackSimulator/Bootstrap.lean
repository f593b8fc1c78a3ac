/-
  Batch creation of an organisation with its profiles, applications and devices
  (`internal/api/bootstrap.go`).

  What has the right name is used as it is, everything else is created; the keys of the devices are
  replaced in either case.  A listing that fails is taken for an empty one (`listed`), so that what
  is there may be created a second time.

  1. **Requests** — their fields and their checks, and the names the handler composes.
  2. **Find or create** — tenant, profiles, application: each looks its name up in a listing made
     before, and creates what it does not find.
  3. **Devices** — `bootstrapDevice` is the goroutine of one device, with the error it ends in.
  4. **`handleBootstrap`** — the checks, and the whole of it.

  The devices of an application are handled by goroutines, up to ten at a time, that stop at the
  first error; here they stand one after another, which is one of their orders.
  `BootstrapWorkers.lean` has them side by side.
-/
import ChirpStackSimulator.Handlers

namespace ChirpStackSimulator.Bootstrap

open Handlers

/-! ## Requests -/

structure BootstrapDeviceConfig where
  deviceIndex : Int
  interval : String
  profileIndex : Int
  deriving DecidableEq

structure BootstrapRequest where
  orgName : String
  appPrefix : String
  appCount : Int
  dpPrefix : String
  dpCount : Int
  devPrefix : String
  devCount : Int
  devicesConfig : List BootstrapDeviceConfig
  scenario : String
  deriving DecidableEq

/-- The error of a request that is refused. -/
def refusal (req : BootstrapRequest) : Option String :=
  if req.orgName = "" then some "organizasyon adı zorunludur"
  else if req.appCount < 1 ∨ req.appPrefix = "" then
    some "en az 1 ağ uygulaması ve geçerli bir prefix olmalıdır"
  else if req.dpCount < 1 ∨ req.dpPrefix = "" then
    some "en az 1 cihaz profili ve geçerli bir prefix olmalıdır"
  else if req.devCount < 1 ∨ req.devPrefix = "" then
    some "en az 1 cihaz ve geçerli bir prefix olmalıdır"
  else none

/-- The payload script of the scenario `batman_oil`. -/
def batmanOilScript : String :=
"// Batman Raman Petrol Sahasi - Kuyu Telemetri Sensor Simulasyonu
// 5 Sensor: Pompa Durumu, Kuyu Basi Basinci, Anlik Akis Hizi, Depolama Tank Seviyesi, Motor Sicakligi

// 1. Pompa Durumu (Pump Status): %95 oraninda Aktif (1), %5 ariza/bakim (0)
var pumpActive = (fCnt % 40 === 0) ? 0 : 1; 

// 2. Kuyu Basi Basinci (Pressure): Pompa aktifse 45-65 psi arasi, kapaliysa 10 psi'a duser
var pressure = pumpActive ? (55 + Math.sin(fCnt * 0.1) * 8 + (Math.random() - 0.5) * 2) : 10.0;

// 3. Anlik Akis Hizi (Flow Rate): Pompa aktifse basinca bagli olarak 120-180 varil/gun arasi, kapaliysa 0
var flowRate = pumpActive ? (pressure * 2.8 + (Math.random() - 0.5) * 5) : 0.0;

// 4. Depolama Tank Seviyesi (Tank Level): Her aktif adimda tank dolulugu %0.4 artar. %100'e ulastiginda tankerle tahliye edilip %0'a duser.
var tankFillRate = 0.4;
var currentTankVal = (fCnt * tankFillRate) % 100.0;

// 5. Motor Sicakligi (Motor Temp): Pompa aktifken 60-80 C arasi dalgalanir, kapaliysa 25 C (ortam sicakligi)
var motorTemp = pumpActive ? (70 + Math.cos(fCnt * 0.08) * 8 + (Math.random() - 0.5) * 1) : 25.0;

// Byte Donusumleri (Big Endian)
// - Pompa Durumu: 1 byte (0 veya 1)
var bStatus = pumpActive;

// - Basinc: 10 ile carpilarak 16-bit integer (2 byte)
var bPress = Math.round(pressure * 10);
var bPress1 = (bPress >> 8) & 0xFF;
var bPress0 = bPress & 0xFF;

// - Akis Hizi: 10 ile carpilarak 16-bit integer (2 byte)
var bFlow = Math.round(flowRate * 10);
var bFlow1 = (bFlow >> 8) & 0xFF;
var bFlow0 = bFlow & 0xFF;

// - Tank Seviyesi: 10 ile carpilarak 16-bit integer (2 byte)
var bTank = Math.round(currentTankVal * 10);
var bTank1 = (bTank >> 8) & 0xFF;
var bTank0 = bTank & 0xFF;

// - Motor Sicakligi: 10 ile carpilarak 16-bit integer (2 byte)
var bTemp = Math.round(motorTemp * 10);
var bTemp1 = (bTemp >> 8) & 0xFF;
var bTemp0 = bTemp & 0xFF;

// Toplam 9 byte veri dizisi dondurur
return [bStatus, bPress1, bPress0, bFlow1, bFlow0, bTank1, bTank0, bTemp1, bTemp0];"

section
variable (req : BootstrapRequest)

/-- The name of the `i`-th profile. -/
def dpName (i : Nat) : String := req.orgName ++ "-" ++ req.dpPrefix ++ "-" ++ toString i

/-- The name of the `i`-th application. -/
def appName (i : Nat) : String := req.orgName ++ "-" ++ req.appPrefix ++ "-" ++ toString i

/-- The name of the `j`-th device of an application. -/
def devName (app : String) (j : Nat) : String := app ++ "-" ++ req.devPrefix ++ "-" ++ toString j

/-- The configuration saved for the organisation. -/
def defaultCfg (tenantID : String) : StartRequest where
  tenantID := tenantID
  deviceCount := req.devCount
  gatewayCount := 1
  duration := "0s"
  activationTime := "30s"
  uplinkInterval := "2m"
  appName := appName req 1
  devicePrefix := req.devPrefix
  fPort := 10
  payload := if req.scenario = "batman_oil" then "" else "001903F521"
  payloadScript := if req.scenario = "batman_oil" then batmanOilScript else ""
  packetLoss := 0
  simulatePacketLoss := false
  latencyMs := 0
  frequency := 868100000
  bandwidth := 125000
  spreadingFactor := 7
  eventTopicTemplate := defaultEventTopicTemplate
  commandTopicTemplate := defaultCommandTopicTemplate
  anomalyProbability := 0
  anomalyTypes := ""
  anomalyDuration := 0
  passiveMode := false
  syncIntervalMinutes := 5

/-! ## Find or create -/

/-- The id of the first entity with the name; the empty text if there is none. -/
def findID (items : List ListItem) (name : String) : String :=
  match items.find? fun item => item.name = name with
  | none => ""
  | some item => item.id

/-- A listing; one that fails is taken for an empty one. -/
def listed (listing : Except RPCError (List ListItem)) : List ListItem :=
  match listing with
  | .error _ => []
  | .ok items => items

/-- `id`, or what `create` returns if that is empty. -/
def orCreate (id : String) (create : Action (Except RPCError String)) :
    Action (Except RPCError String) :=
  if id ≠ "" then pure (.ok id) else create

def findOrCreateTenant : Action (Except RPCError String) := do
  let tenants ← rpc (.listTenants 100)
  orCreate (findID (listed tenants) req.orgName)
    (rpc (.createTenant ⟨"", req.orgName, "Hızlı Kurulum Sihirbazı ile oluşturuldu", true⟩))

/-- The profiles with the numbers of the list, or the error and the name of the one it is about. -/
def findOrCreateProfiles (tenantID : String) (existing : List ListItem) :
    List Nat → Action (Except (String × RPCError) (List String))
  | [] => pure (.ok [])
  | i :: is => do
    match ← orCreate (findID existing (dpName req i)) (rpc (.createDeviceProfile ⟨"", dpName req i,
        tenantID, "", "LORAWAN_1_0_3", "B", "EU868", true, false, false, "default"⟩)) with
    | .error e => pure (.error (dpName req i, e))
    | .ok id => do
      match ← findOrCreateProfiles tenantID existing is with
      | .error e => pure (.error e)
      | .ok ids => pure (.ok (id :: ids))

/-! ## Devices -/

/-- The profile of the `j`-th device and its interval. -/
def devSettings (dpIDs : List String) (j : Nat) : String × String :=
  let dpID := dpIDs.getD ((j - 1) % dpIDs.length) ""
  match req.devicesConfig.find? fun dCfg => dCfg.deviceIndex = (j : Int) with
  | none => (dpID, "2m")
  | some dCfg =>
    (if 1 ≤ dCfg.profileIndex ∧ dCfg.profileIndex ≤ dpIDs.length then
        dpIDs.getD (dCfg.profileIndex - 1).toNat "" else dpID,
      if dCfg.interval ≠ "" then dCfg.interval else "2m")

/-- The EUI of the first device with the name; the empty text if there is none. -/
def findEUI (existing : List DeviceListItem) (name : String) : String :=
  match existing.find? fun dev => dev.name = name with
  | none => ""
  | some dev => dev.devEUI

/-- The EUI of a device that is there, or a new one. -/
def devEUIOf (existing : List DeviceListItem) (name : String) : Action (Except String String) :=
  if findEUI existing name ≠ "" then pure (.ok (findEUI existing name)) else do
    match ← Call.ask (.randRead 8) with
    | .error e => pure (.error ("rastgele DevEUI üretilemedi: " ++ e))
    | .ok bytes => pure (.ok (Hex.encode bytes.toList))

/-- New keys for the device. -/
def replaceKeys (name devEUI appKey interval : String) : Action (Option String) := do
  -- whether there were any is not looked at
  let _ ← rpc (.deleteKeys devEUI)
  match ← rpc (.createKeys ⟨devEUI, appKey, ""⟩) with
  | some e => pure (some ("cihaz anahtarları " ++ name ++ " oluşturulamadı: " ++ e.text))
  | none => do
    let _ ← Call.ask (.saveDeviceInterval devEUI interval)
    pure none

/-- The goroutine of the `j`-th device, with the error it ends in. -/
def bootstrapDevice (app appID : String) (dpIDs : List String) (existing : List DeviceListItem)
    (j : Nat) : Action (Option String) := do
  let name := devName req app j
  match ← devEUIOf existing name with
  | .error e => pure (some e)
  | .ok devEUI => do
    match ← Call.ask (.randRead 16) with
    | .error e => pure (some ("rastgele AppKey üretilemedi: " ++ e))
    | .ok bytes =>
      let (dpID, interval) := devSettings req dpIDs j
      if existing.any fun dev => dev.name = name then
        replaceKeys name devEUI (Hex.encode bytes.toList) interval
      else do
        match ← rpc (.createDevice ⟨devEUI, name, name ++ " cihazı", appID, dpID, false⟩) with
        | some e => pure (some ("cihaz " ++ name ++ " oluşturulamadı: " ++ e.text))
        | none => replaceKeys name devEUI (Hex.encode bytes.toList) interval

def bootstrapDevices (app appID : String) (dpIDs : List String) (existing : List DeviceListItem) :
    List Nat → Action (Option String)
  | [] => pure none
  | j :: js => do
    match ← bootstrapDevice req app appID dpIDs existing j with
    | some e => pure (some e)
    | none => bootstrapDevices app appID dpIDs existing js

/-- The application with its devices. -/
def bootstrapApp (tenantID : String) (dpIDs : List String) (existing : List ListItem) (i : Nat) :
    Action (Option String) := do
  let app := appName req i
  match ← orCreate (findID existing app)
      (rpc (.createApplication ⟨"", app, app ++ " uygulaması", tenantID⟩)) with
  | .error e => pure (some ("uygulama " ++ app ++ " oluşturulamadı: " ++ e.text))
  | .ok appID => do
    let devices ← rpc (.listDevices appID "" 100 0)
    let existingDevices := match devices with
      | .error _ => []
      | .ok devices => devices
    bootstrapDevices req app appID dpIDs existingDevices (List.range' 1 req.devCount.toNat)

def bootstrapApps (tenantID : String) (dpIDs : List String) (existing : List ListItem) :
    List Nat → Action Response
  | [] => pure .created
  | i :: is => do
    match ← bootstrapApp req tenantID dpIDs existing i with
    | some e => pure (.badGateway e)
    | none => bootstrapApps tenantID dpIDs existing is

/-- An accepted request. -/
def bootstrap : Action Response := do
  match ← findOrCreateTenant req with
  | .error e => pure (.badGateway ("organizasyon oluşturulamadı: " ++ e.text))
  | .ok tenantID => do
    -- whether it fails is not looked at
    let _ ← Discovery.saveOrgConfig tenantID (defaultCfg req tenantID)
    let profiles ← rpc (.listDeviceProfiles tenantID 100)
    match ← findOrCreateProfiles req tenantID (listed profiles)
        (List.range' 1 req.dpCount.toNat) with
    | .error (name, e) =>
      pure (.badGateway ("cihaz profili " ++ name ++ " oluşturulamadı: " ++ e.text))
    | .ok dpIDs => do
      let apps ← rpc (.listApplications tenantID 100)
      bootstrapApps req tenantID dpIDs (listed apps) (List.range' 1 req.appCount.toNat)

end

def handleBootstrap (m : Method) (body : Except String BootstrapRequest) : Action Response :=
  only .post m <| connected notConnectedTurkish <| decoded "geçersiz JSON: " body fun req =>
    match refusal req with
    | some e => pure (.badRequest e)
    | none => bootstrap req

end ChirpStackSimulator.Bootstrap
