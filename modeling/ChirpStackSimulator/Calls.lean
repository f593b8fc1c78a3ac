/-
  What the simulator asks of its surroundings.

  The functions that set up and start simulations, and the handlers of the HTTP API, are programs
  over these calls.  What is answered is up to ChirpStack, the database, the MQTT broker and the
  random source; a `Prog.Env` of these calls is one behaviour of all of them, and a result that
  holds for every environment holds whatever they do.

  1. **ChirpStack** (`internal/as/api.go`) — the gRPC calls the repository makes, with the fields it
     sets and reads.  `RPC.Writes` are those that change something.
  2. **The rest** — database, MQTT, random numbers, and the objects and goroutines of a run.  The
     answer of a call has the type that Go returns; an `Option String` is an error, if there is one.
  3. **Texts** — the parsers of third-party packages, as the parameter `lib : Parsers`.
-/
import ChirpStackSimulator.Lib.Prog
import ChirpStackSimulator.LoRaWAN
import ChirpStackSimulator.Simulation
import ChirpStackSimulator.StartRequest

namespace ChirpStackSimulator

open LoRaWAN

/-! ## ChirpStack -/

/-- A gRPC error: whether its status code is `codes.NotFound`, and its text. -/
structure RPCError where
  notFound : Bool
  text : String
  deriving DecidableEq

/-- An entry of a listing of tenants, gateways, device profiles or applications. -/
structure ListItem where
  id : String
  name : String
  deriving DecidableEq

/-- An entry of a listing of devices. -/
structure DeviceListItem where
  devEUI : String
  name : String
  deriving DecidableEq

/-- The records of ChirpStack have the fields the repository sets or reads. -/
structure TenantRecord where
  id : String
  name : String
  description : String
  canHaveGateways : Bool
  deriving DecidableEq

structure GatewayRecord where
  gatewayID : String
  name : String
  description : String
  tenantID : String
  deriving DecidableEq

structure DeviceProfileRecord where
  id : String
  name : String
  tenantID : String
  description : String
  macVersion : String
  regParamsRevision : String
  region : String
  supportsOTAA : Bool
  supportsClassB : Bool
  supportsClassC : Bool
  adrAlgorithmID : String
  deriving DecidableEq

structure ApplicationRecord where
  id : String
  name : String
  description : String
  tenantID : String
  deriving DecidableEq

structure DeviceRecord where
  devEUI : String
  name : String
  description : String
  applicationID : String
  deviceProfileID : String
  isDisabled : Bool
  deriving DecidableEq

structure DeviceKeys where
  devEUI : String
  nwkKey : String
  appKey : String
  deriving DecidableEq

/-- The gRPC calls, with their arguments. -/
inductive RPC where
  | listTenants (limit : Nat)
  | getTenant (id : String)
  | createTenant (tenant : TenantRecord)
  | updateTenant (tenant : TenantRecord)
  | deleteTenant (id : String)
  | listGateways (tenantID : String) (limit : Nat)
  | createGateway (gateway : GatewayRecord)
  | deleteGateway (gatewayID : String)
  | listDeviceProfiles (tenantID : String) (limit : Nat)
  | getDeviceProfile (id : String)
  | createDeviceProfile (profile : DeviceProfileRecord)
  | updateDeviceProfile (profile : DeviceProfileRecord)
  | deleteDeviceProfile (id : String)
  | listApplications (tenantID : String) (limit : Nat)
  | getApplication (id : String)
  | createApplication (app : ApplicationRecord)
  | updateApplication (app : ApplicationRecord)
  | deleteApplication (id : String)
  | listDevices (applicationID search : String) (limit : Nat) (offset : UInt32)
  | getDevice (devEUI : String)
  | createDevice (device : DeviceRecord)
  | updateDevice (device : DeviceRecord)
  | deleteDevice (devEUI : String)
  | getKeys (devEUI : String)
  | createKeys (keys : DeviceKeys)
  | updateKeys (keys : DeviceKeys)
  | deleteKeys (devEUI : String)

/-- What a call returns: creating returns the new id, updating and deleting return nothing. -/
def RPC.Answer : RPC → Type
  | .listTenants _ | .listGateways _ _ | .listDeviceProfiles _ _ | .listApplications _ _ =>
    Except RPCError (List ListItem)
  | .listDevices _ _ _ _ => Except RPCError (List DeviceListItem)
  | .getTenant _ => Except RPCError TenantRecord
  | .getDeviceProfile _ => Except RPCError DeviceProfileRecord
  | .getApplication _ => Except RPCError ApplicationRecord
  | .getDevice _ => Except RPCError DeviceRecord
  | .getKeys _ => Except RPCError DeviceKeys
  | .createTenant _ | .createGateway _ | .createDeviceProfile _ | .createApplication _ =>
    Except RPCError String
  | .updateTenant _ | .deleteTenant _ | .deleteGateway _ | .updateDeviceProfile _
  | .deleteDeviceProfile _ | .updateApplication _ | .deleteApplication _ | .createDevice _
  | .updateDevice _ | .deleteDevice _ | .createKeys _ | .updateKeys _ | .deleteKeys _ =>
    Option RPCError

/-- The call creates, updates or deletes something. -/
def RPC.Writes : RPC → Prop
  | .createTenant _ | .updateTenant _ | .deleteTenant _ | .createGateway _ | .deleteGateway _
  | .createDeviceProfile _ | .updateDeviceProfile _ | .deleteDeviceProfile _ | .createApplication _
  | .updateApplication _ | .deleteApplication _ | .createDevice _ | .updateDevice _
  | .deleteDevice _ | .createKeys _ | .updateKeys _ | .deleteKeys _ => True
  | .listTenants _ | .getTenant _ | .listGateways _ _ | .listDeviceProfiles _ _
  | .getDeviceProfile _ | .listApplications _ _ | .getApplication _ | .listDevices _ _ _ _
  | .getDevice _ | .getKeys _ => False

/-! ## The rest -/

/-- What `NewGateway` is given. -/
structure GatewayOptions where
  gatewayID : EUI64
  eventTopicTemplate : String
  commandTopicTemplate : String
  tenantID : String
  deriving DecidableEq

/-- What `NewDevice` is given; its gateways are named by their positions in the run. -/
structure DeviceOptions where
  devEUI : EUI64
  appName : String
  deviceName : String
  appKey : AES128Key
  uplinkInterval : Int
  otaaDelay : Int
  fPort : UInt8
  payload : List UInt8
  payloadScript : String
  packetLoss : ℚ
  latencyMs : Int
  anomalyProbability : ℚ
  anomalyTypes : List String
  anomalyDuration : Int
  gateways : List Nat
  tenantID : String
  applicationID : String
  frequency : UInt32
  bandwidth : UInt32
  spreadingFactor : UInt32
  deriving DecidableEq

/-- Everything a program asks for. -/
inductive Call where
  | rpc (r : RPC)
  /-- `as.IsConnected()`. -/
  | isConnected
  | getOrgConfig (orgID : String)
  | saveOrgConfig (orgID : String) (cfg : StartRequest)
  | getDeviceIntervals
  | saveDeviceInterval (devEUI interval : String)
  | getSystemState (key : String)
  | saveSystemState (key value : String)
  | subscribe (topic : String)
  | unsubscribe (topic : String)
  /-- `rand.Read` of so many bytes. -/
  | randRead (n : Nat)
  /-- `mrand.Intn(bound + 1)`. -/
  | intn (bound : Nat)
  /-- A gateway object comes into being. -/
  | newGateway (opts : GatewayOptions)
  /-- A device object comes into being, with its two loops. -/
  | newDevice (opts : DeviceOptions)
  /-- `wg.Wait()` for the loops of the devices. -/
  | wait
  /-- `s.wg.Done()`, on the wait group of the run. -/
  | wgDone
  /-- `go sim.start()`. -/
  | launch (sim : Simulation)

/-- What it is answered; `Option String` is an error, if there is one. -/
def Call.Answer : Call → Type
  | .rpc r => r.Answer
  | .isConnected => Bool
  | .getOrgConfig _ => Except String (Option StartRequest)
  | .getDeviceIntervals => Except String (List (String × String))
  | .getSystemState _ => Except String String
  | .saveOrgConfig _ _ | .saveDeviceInterval _ _ | .saveSystemState _ _ | .subscribe _
  | .unsubscribe _ => Option String
  | .randRead n => Except String (Vector UInt8 n)
  | .intn bound => Fin (bound + 1)
  | .newGateway _ | .newDevice _ | .wait | .wgDone | .launch _ => Unit

/-- A program of the simulator. -/
abbrev Action (α : Type) := Prog Call Call.Answer α

/-- The program of one call. -/
def Call.ask (c : Call) : Action c.Answer := Prog.ask c

/-- The program of one gRPC call. -/
def rpc (r : RPC) : Action r.Answer := (Call.rpc r).ask

section
variable {σ : Type} (env : Prog.Env σ Call.Answer) (s : σ)

@[simp] theorem result_callAsk (c : Call) : c.ask.result env s = (env s c).1 := rfl
@[simp] theorem final_callAsk (c : Call) : c.ask.final env s = (env s c).2 := rfl
@[simp] theorem events_callAsk (c : Call) : c.ask.events env s = [⟨c, (env s c).1⟩] := rfl

@[simp] theorem result_rpc (r : RPC) : (rpc r).result env s = (env s (.rpc r)).1 := rfl
@[simp] theorem final_rpc (r : RPC) : (rpc r).final env s = (env s (.rpc r)).2 := rfl
@[simp] theorem events_rpc (r : RPC) : (rpc r).events env s = [⟨.rpc r, (env s (.rpc r)).1⟩] := rfl

end

/-! ### Answers to run the model with -/

/-- The answers of a ChirpStack that cannot be reached. -/
def RPC.unavailable : (r : RPC) → r.Answer
  | .listTenants _ | .listGateways _ _ | .listDeviceProfiles _ _ | .listApplications _ _
  | .listDevices _ _ _ _ | .getTenant _ | .getDeviceProfile _ | .getApplication _ | .getDevice _
  | .getKeys _ | .createTenant _ | .createGateway _ | .createDeviceProfile _
  | .createApplication _ => .error ⟨false, "unavailable"⟩
  | .updateTenant _ | .deleteTenant _ | .deleteGateway _ | .updateDeviceProfile _
  | .deleteDeviceProfile _ | .updateApplication _ | .deleteApplication _ | .createDevice _
  | .updateDevice _ | .deleteDevice _ | .createKeys _ | .updateKeys _ | .deleteKeys _ =>
    some ⟨false, "unavailable"⟩

/-- The answers of the rest where `chirpStack` answers for ChirpStack: an empty database, a broker
    that takes everything, and a random source that always returns zero. -/
def Call.answer (chirpStack : (r : RPC) → r.Answer) : (c : Call) → c.Answer
  | .rpc r => chirpStack r
  | .isConnected => true
  | .getOrgConfig _ => .ok none
  | .getDeviceIntervals => .ok []
  | .getSystemState _ => .ok ""
  | .saveOrgConfig _ _ | .saveDeviceInterval _ _ | .saveSystemState _ _ | .subscribe _
  | .unsubscribe _ => none
  | .randRead n => .ok (Vector.replicate n 0)
  | .intn bound => (0 : Fin (bound + 1))
  | .newGateway _ | .newDevice _ | .wait | .wgDone | .launch _ => ()

/-- An environment that always answers the same. -/
def steady (answer : (c : Call) → c.Answer) : Prog.Env Unit Call.Answer := fun _ c => (answer c, ())

/-! ## Texts -/

abbrev UUID := Vector UInt8 16

/-- Parsers of third-party packages: `UnmarshalText` of `lorawan.EUI64` and `lorawan.AES128Key`,
    `uuid.FromString`, and `Parse` of `text/template`. -/
structure Parsers where
  eui64 : String → Except String EUI64
  aes128Key : String → Except String AES128Key
  uuid : String → Except String UUID
  template : String → Except String Unit

/-- So many bytes of hexadecimal text. -/
def parseBytes (n : Nat) (text : String) : Except String (Vector UInt8 n) :=
  match Hex.decode text with
  | none => .error "encoding/hex: invalid byte"
  | some bytes =>
    if h : bytes.toArray.size = n then .ok ⟨bytes.toArray, h⟩
    else .error ("lorawan: exactly " ++ toString n ++ " bytes are expected")

/-- Parsers to run the model with: identifiers and keys are hexadecimal text, templates are any. -/
def Parsers.plain : Parsers where
  eui64 := parseBytes 8
  aes128Key := parseBytes 16
  uuid := parseBytes 16
  template _ := .ok ()

end ChirpStackSimulator
