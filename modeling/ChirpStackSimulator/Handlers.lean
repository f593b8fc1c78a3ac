/-
  The handlers of ChirpStack's entities (`internal/api/organizations.go`, `applications.go`,
  `gateways.go`, `device_profiles.go`, `devices.go`).

  Each handler looks at the method, asks whether ChirpStack is connected, decodes the body, checks
  the fields and makes its calls.  The handlers of one kind differ in their texts and calls only,
  and are instances of one definition: `deleteEntity`, `listForTenants`.  One does less than its
  kind: `handleDeleteDeviceProfile` does not ask for the connection.

  1. **Requests** — the request types, and the steps handlers are made of (`only`, `connected`,
     `decoded`, `required`), each of which takes what comes after it, so that the order of the
     checks is the order of the source.
  2. **The five entities**, in the order of their files.

  Whether a text names a value of one of ChirpStack's enumerations is the parameter `enums`.
-/
import ChirpStackSimulator.Discovery

namespace ChirpStackSimulator.Handlers

/-! ## Requests -/

/-- The query parameters the handlers read; one that is missing is the empty text. -/
structure Query where
  tenantID : String
  applicationID : String
  limit : String
  offset : String
  search : String
  deriving DecidableEq

/-- The body that creates or updates an organization. -/
structure OrganizationRequest where
  name : String
  description : String
  deriving DecidableEq

/-- The body that creates an application. -/
structure CreateApplicationRequest where
  name : String
  tenantID : String
  description : String
  deriving DecidableEq

/-- The body that updates one; its tenant cannot be changed. -/
structure UpdateApplicationRequest where
  name : String
  description : String
  deriving DecidableEq

/-- The body that creates a gateway. -/
structure CreateGatewayRequest where
  id : String
  name : String
  tenantID : String
  description : String
  deriving DecidableEq

/-- The body that creates or updates a device profile. -/
structure CreateDeviceProfileRequest where
  name : String
  tenantID : String
  description : String
  macVersion : String
  regParamsRevision : String
  supportsOTAA : Bool
  supportsClassB : Bool
  supportsClassC : Bool
  region : String
  adrAlgorithmID : String
  deriving DecidableEq

/-- The body that creates or updates a device. -/
structure CreateDeviceRequest where
  devEUI : String
  name : String
  applicationID : String
  deviceProfileID : String
  description : String
  isDisabled : Bool
  deriving DecidableEq

/-- Which texts name a value of `common.MacVersion`, `common.RegParamsRevision`, `common.Region`. -/
structure Enums where
  macVersion : String → Bool
  regParamsRevision : String → Bool
  region : String → Bool

/-! ### The steps of a handler -/

/-- `if r.Method != expected`. -/
def only (expected m : Method) (k : Action Response) : Action Response :=
  if m ≠ expected then pure .methodNotAllowed else k

/-- `if !as.IsConnected()`. -/
def connected (error : String) (k : Action Response) : Action Response := do
  match ← Call.ask .isConnected with
  | false => pure (.serviceUnavailable error)
  | true => k

/-- The decoding of the body. -/
def decoded {α : Type} (error : String) (body : Except String α) (k : α → Action Response) :
    Action Response :=
  match body with
  | .error e => pure (.badRequest (error ++ e))
  | .ok req => k req

/-- The fields that must not be empty, each with the error for one that is. -/
def required (fields : List (String × String)) (k : Action Response) : Action Response :=
  match fields.find? fun f => f.1 = "" with
  | some f => pure (.badRequest f.2)
  | none => k

/-- A loop whose rounds return nothing. -/
def forEach {α : Type} (f : α → Action Unit) : List α → Action Unit
  | [] => pure ()
  | a :: as => do
    f a
    forEach f as

/-- The texts of two errors, in the two languages the handlers use. -/
def notConnected : String := "ChirpStack API connection not established"
def notConnectedTurkish : String := "ChirpStack API bağlantısı kurulmadı"
def failedToConnect : String := "Failed to connect to ChirpStack API: "
def failedToConnectTurkish : String := "ChirpStack API'ye bağlanılamadı: "

/-- The handlers that delete an entity. -/
def deleteEntity (m : Method) (unconnected failed : String) (delete : Action (Option RPCError)) :
    Action Response :=
  only .delete m <| connected unconnected do
    match ← delete with
    | some e => pure (.badGateway (failed ++ e.text))
    | none => pure (.ok "deleted")

/-- The handlers that list entities by tenant: those of one tenant, or of all. -/
def listForTenants (m : Method) (query : Query) (unconnected failed : String)
    (list : String → Action Unit) : Action Response :=
  only .get m <| connected unconnected <|
    if query.tenantID ≠ "" then do
      forEach list [query.tenantID]
      pure .json
    else do
      match ← rpc (.listTenants 100) with
      | .error e => pure (.badGateway (failed ++ e.text))
      | .ok tenants => do
        forEach list (tenants.map ListItem.id)
        pure .json

/-! ## Organizations -/

section
variable (m : Method)

/-- Before they are listed, the missing configurations are saved. -/
def handleListOrganizations : Action Response :=
  only .get m <| connected notConnected do
    Discovery.syncMissingOrgConfigs
    match ← rpc (.listTenants 100) with
    | .error e => pure (.badGateway (failedToConnect ++ e.text))
    | .ok _ => pure .json

/-- ChirpStack chooses the id. -/
def handleCreateOrganization (body : Except String OrganizationRequest) : Action Response :=
  only .post m <| connected notConnected <| decoded "invalid JSON: " body fun req =>
    required [(req.name, "organization name is required")] do
      match ← rpc (.createTenant ⟨"", req.name, req.description, true⟩) with
      | .error e => pure (.badGateway (failedToConnect ++ e.text))
      | .ok _ => pure .created

def handleDeleteOrganization (id : String) : Action Response :=
  deleteEntity m notConnected failedToConnect (rpc (.deleteTenant id))

/-- What the request does not name stays as ChirpStack has it. -/
def handleUpdateOrganization (id : String) (body : Except String OrganizationRequest) :
    Action Response :=
  only .put m <| connected notConnected <| decoded "invalid JSON: " body fun req =>
    required [(req.name, "organization name is required")] do
      match ← rpc (.getTenant id) with
      | .error e => pure (.badGateway ("Failed to retrieve tenant from ChirpStack: " ++ e.text))
      | .ok tenant => do
        match ← rpc (.updateTenant { tenant with name := req.name, description := req.description })
          with
        | some e => pure (.badGateway ("Failed to update tenant in ChirpStack: " ++ e.text))
        | none => pure .json

/-! ## Applications -/

/-- A listing that fails is skipped, as for gateways and profiles. -/
def handleListApplications (query : Query) : Action Response :=
  listForTenants m query notConnectedTurkish failedToConnectTurkish fun tenantID => do
    let _ ← rpc (.listApplications tenantID 100)
    pure ()

def handleCreateApplication (body : Except String CreateApplicationRequest) : Action Response :=
  only .post m <| connected notConnectedTurkish <| decoded "geçersiz JSON: " body fun req =>
    required [(req.name, "uygulama adı zorunludur"), (req.tenantID, "tenant_id zorunludur")] do
      match ← rpc (.createApplication ⟨"", req.name, req.description, req.tenantID⟩) with
      | .error e => pure (.badGateway (failedToConnectTurkish ++ e.text))
      | .ok _ => pure .created

def handleDeleteApplication (id : String) : Action Response :=
  deleteEntity m notConnectedTurkish failedToConnectTurkish (rpc (.deleteApplication id))

/-- What the request does not name stays as ChirpStack has it. -/
def handleUpdateApplication (id : String) (body : Except String UpdateApplicationRequest) :
    Action Response :=
  only .put m <| connected notConnectedTurkish <| decoded "geçersiz JSON: " body fun req =>
    required [(req.name, "uygulama adı zorunludur")] do
      match ← rpc (.getApplication id) with
      | .error e =>
        pure (.badGateway ("ChirpStack API'den uygulama bilgisi alınamadı: " ++ e.text))
      | .ok app => do
        match ← rpc (.updateApplication { app with name := req.name, description := req.description })
          with
        | some e => pure (.badGateway (failedToConnectTurkish ++ e.text))
        | none => pure .json

/-! ## Gateways -/

def handleListGateways (query : Query) : Action Response :=
  listForTenants m query notConnectedTurkish failedToConnectTurkish fun tenantID => do
    let _ ← rpc (.listGateways tenantID 100)
    pure ()

/-- The id is the EUI of the gateway. -/
def handleCreateGateway (body : Except String CreateGatewayRequest) : Action Response :=
  only .post m <| connected notConnectedTurkish <| decoded "geçersiz JSON: " body fun req =>
    required [(req.id, "geçit ID'si (EUI64) zorunludur"), (req.name, "geçit adı zorunludur"),
        (req.tenantID, "tenant_id zorunludur")] do
      match ← rpc (.createGateway ⟨req.id, req.name, req.description, req.tenantID⟩) with
      | .error e => pure (.badGateway (failedToConnectTurkish ++ e.text))
      | .ok _ => pure .created

def handleDeleteGateway (id : String) : Action Response :=
  deleteEntity m notConnectedTurkish failedToConnectTurkish (rpc (.deleteGateway id))

/-! ## Device profiles -/

/-- The profiles of a tenant are read one by one. -/
def listProfiles (tenantID : String) : Action Unit := do
  match ← rpc (.listDeviceProfiles tenantID 100) with
  | .error _ => pure ()
  | .ok profiles => forEach (fun dp => do let _ ← rpc (.getDeviceProfile dp.id); pure ()) profiles

def handleListDeviceProfiles (query : Query) : Action Response :=
  listForTenants m query notConnected failedToConnect listProfiles

def handleGetDeviceProfile (id : String) : Action Response :=
  only .get m <| connected notConnected do
    match ← rpc (.getDeviceProfile id) with
    | .error e => pure (.badGateway (failedToConnect ++ e.text))
    | .ok _ => pure .json

/-- The record of a request; a value that no enumeration has is replaced by the default. -/
def profileRecord (enums : Enums) (id : String) (req : CreateDeviceProfileRequest) :
    DeviceProfileRecord where
  id := id
  name := req.name
  tenantID := req.tenantID
  description := req.description
  macVersion := if enums.macVersion req.macVersion then req.macVersion else "LORAWAN_1_0_3"
  regParamsRevision :=
    if enums.regParamsRevision req.regParamsRevision then req.regParamsRevision else "B"
  region := if enums.region req.region then req.region else "EU868"
  supportsOTAA := req.supportsOTAA
  supportsClassB := req.supportsClassB
  supportsClassC := req.supportsClassC
  adrAlgorithmID := if req.adrAlgorithmID = "" then "default" else req.adrAlgorithmID

def handleCreateDeviceProfile (enums : Enums) (body : Except String CreateDeviceProfileRequest) :
    Action Response :=
  only .post m <| connected notConnected <| decoded "invalid JSON: " body fun req =>
    required [(req.name, "profile name is required"), (req.tenantID, "tenant_id is required")] do
      match ← rpc (.createDeviceProfile (profileRecord enums "" req)) with
      | .error e => pure (.badGateway (failedToConnect ++ e.text))
      | .ok _ => pure .created

/-- The one deletion that does not ask for the connection first. -/
def handleDeleteDeviceProfile (id : String) : Action Response :=
  only .delete m do
    match ← rpc (.deleteDeviceProfile id) with
    | some e => pure (.badGateway (failedToConnect ++ e.text))
    | none => pure (.ok "deleted")

/-- The whole record is replaced, the tenant included. -/
def handleUpdateDeviceProfile (enums : Enums) (id : String)
    (body : Except String CreateDeviceProfileRequest) : Action Response :=
  only .put m <| connected notConnected <| decoded "invalid JSON: " body fun req =>
    required [(req.name, "profile name is required")] do
      match ← rpc (.updateDeviceProfile (profileRecord enums id req)) with
      | some e => pure (.badGateway (failedToConnect ++ e.text))
      | none => pure .json

/-! ## Devices -/

/-- `strconv.Atoi`: an optional sign and decimal digits, within 64 bits. -/
def atoi (text : String) : Option Int :=
  let (negative, digits) := match text.toList with
    | '-' :: digits => (true, digits)
    | '+' :: digits => (false, digits)
    | digits => (false, digits)
  if digits = [] ∨ ¬ digits.all Char.isDigit then none else
  let n : Int := digits.foldl (fun n c => 10 * n + (c.toNat - '0'.toNat)) 0
  let v := if negative then -n else n
  if -9223372036854775808 ≤ v ∧ v ≤ 9223372036854775807 then some v else none

/-- The limit of a page: a positive number, or 10. -/
def pageLimit (query : Query) : Nat :=
  match atoi query.limit with
  | none => 10
  | some v => if 0 < v then v.toNat else 10

/-- The offset of a page: a number that is not negative, or 0. -/
def pageOffset (query : Query) : Nat :=
  match atoi query.offset with
  | none => 0
  | some v => if 0 ≤ v then v.toNat else 0

/-- The applications of a tenant; a listing that fails is skipped. -/
def applicationsOf (tenantID : String) : Action (List String) := do
  match ← rpc (.listApplications tenantID 100) with
  | .error _ => pure []
  | .ok apps => pure (apps.map ListItem.id)

/-- The applications of some tenants, in order. -/
def applicationsOfAll : List ListItem → Action (List String)
  | [] => pure []
  | tenant :: tenants => do
    let front ← applicationsOf tenant.id
    let rest ← applicationsOfAll tenants
    pure (front ++ rest)

/-- The applications whose devices are asked for. -/
def askedApplications (query : Query) : Action (Except String (List String)) :=
  if query.applicationID ≠ "" then do
    -- only for the tenant of the devices
    let _ ← rpc (.getApplication query.applicationID)
    pure (.ok [query.applicationID])
  else if query.tenantID ≠ "" then do
    let apps ← applicationsOf query.tenantID
    pure (.ok apps)
  else do
    match ← rpc (.listTenants 100) with
    | .error e => pure (.error (failedToConnectTurkish ++ e.text))
    | .ok tenants => do
      let apps ← applicationsOfAll tenants
      pure (.ok apps)

/-- One application is listed page by page by ChirpStack, of several all devices are listed; which of
    them the answer contains is left out. -/
def handleListDevices (query : Query) : Action Response :=
  only .get m <| connected notConnectedTurkish do
    match ← askedApplications query with
    | .error e => pure (.badGateway e)
    | .ok [appID] => do
      let _ ← rpc (.listDevices appID query.search (pageLimit query % 4294967296)
        (UInt32.ofNat (pageOffset query)))
      pure .json
    | .ok apps => do
      forEach (fun appID => do let _ ← rpc (.listDevices appID query.search 5000 0); pure ()) apps
      pure .json

def handleCreateDevice (body : Except String CreateDeviceRequest) : Action Response :=
  only .post m <| connected notConnected <| decoded "invalid JSON: " body fun req =>
    required [(req.devEUI, "dev_eui is required")] <|
    if req.devEUI.utf8ByteSize ≠ 16 then
      pure (.badRequest "dev_eui must be 16 hex characters (8 bytes)")
    else required [(req.name, "device name is required"),
        (req.applicationID, "application_id is required"),
        (req.deviceProfileID, "device_profile_id is required")] do
      match ← rpc (.createDevice ⟨req.devEUI, req.name, req.description, req.applicationID,
          req.deviceProfileID, req.isDisabled⟩) with
      | some e => pure (.badGateway (failedToConnect ++ e.text))
      | none => do
        match ← Call.ask (.randRead 16) with
        | .error e => pure (.internalServerError ("Failed to generate random AppKey: " ++ e))
        | .ok appKey => do
          match ← rpc (.createKeys ⟨req.devEUI, Hex.encode appKey.toList, ""⟩) with
          | some e => do
            let _ ← rpc (.deleteDevice req.devEUI)
            pure (.badGateway ("Failed to create device keys in ChirpStack: " ++ e.text))
          | none => pure .created

def handleDeleteDevice (devEUI : String) : Action Response :=
  deleteEntity m notConnected failedToConnect (rpc (.deleteDevice devEUI))

def handleDeviceByID (devEUI : String) (body : Except String CreateDeviceRequest) :
    Action Response :=
  connected notConnected <|
    match m with
    | .get => do
      match ← rpc (.getDevice devEUI) with
      | .error e => pure (.badGateway (failedToConnect ++ e.text))
      | .ok _ => pure .json
    | .put => decoded "invalid JSON: " body fun req =>
      required [(req.name, "device name is required"),
          (req.applicationID, "application_id is required"),
          (req.deviceProfileID, "device_profile_id is required")] do
        match ← rpc (.updateDevice ⟨devEUI, req.name, req.description, req.applicationID,
            req.deviceProfileID, req.isDisabled⟩) with
        | some e => pure (.badGateway (failedToConnect ++ e.text))
        | none => pure .json
    | .delete => handleDeleteDevice m devEUI
    | .post | .other => pure .methodNotAllowed

end

end ChirpStackSimulator.Handlers
