/-
  The configuration of the simulator (`internal/config/config.go`).

  Field by field the Go structs that `viper` fills and `toml.Marshal` writes back.  A
  `time.Duration` is its number of nanoseconds, a `float64` the rational it stands for (a
  configuration is copied and compared, never computed with), a Go map the list of its entries.
  `DeviceConfig` is left out: nothing in the repository reads it.

  1. **Connections** - ChirpStack's API and the two brokers.
  2. **Simulations** - one entry of `[[simulator]]` is all that `simulator.Start` needs for one
     simulation; a start request of the HTTP API is turned into such entries as well.
  3. **Services** - metrics, web interface and daily report.

  The structures are nested as the tables of the file are.  What is written to a file and read back
  is in `ConfigFile.lean`, what the web interface changes of it in `SystemConfig.lean`.
-/
import Mathlib.Data.Rat.Init

namespace ChirpStackSimulator

/-! ## Connections -/

structure GeneralConfig where
  logLevel : Int
  deriving DecidableEq

/-- The gRPC API of ChirpStack. -/
structure APIConfig where
  apiKey : String
  server : String
  insecure : Bool
  deriving DecidableEq

/-- A broker, and the account on it. -/
structure MQTTConfig where
  server : String
  username : String
  password : String
  deriving DecidableEq

/-- Where the events of the applications come in. -/
structure IntegrationConfig where
  mqtt : MQTTConfig
  deriving DecidableEq

/-- Where the simulated gateways publish and listen. -/
structure GatewayBackendConfig where
  mqtt : MQTTConfig
  deriving DecidableEq

structure GatewayConfig where
  backend : GatewayBackendConfig
  deriving DecidableEq

/-- `[chirpstack]`. -/
structure ChirpStackConfig where
  api : APIConfig
  integration : IntegrationConfig
  gateway : GatewayConfig
  deriving DecidableEq

/-! ## Simulations -/

/-- `[simulator.device]`: how many devices, and what each of them sends. -/
structure SimulatorDeviceConfig where
  count : Int
  uplinkInterval : Int
  fPort : UInt8
  payload : String
  frequency : Int
  bandwidth : Int
  spreadingFactor : Int
  deriving DecidableEq

/-- `[simulator.gateway]`: how many gateways hear a device, and their topics. -/
structure SimulatorGatewayConfig where
  minCount : Int
  maxCount : Int
  eventTopicTemplate : String
  commandTopicTemplate : String
  deriving DecidableEq

/-- One `[[simulator]]` entry: everything `simulator.Start` needs to launch one simulation. -/
structure SimulatorConfig where
  tenantID : String
  duration : Int
  activationTime : Int
  appName : String
  deviceNamePrefix : String
  payloadScript : String
  packetLoss : ℚ
  simulatePacketLoss : Bool
  latencyMs : Int
  anomalyProbability : ℚ
  anomalyTypes : String
  anomalyDuration : Int
  passiveMode : Bool
  syncIntervalMinutes : Int
  device : SimulatorDeviceConfig
  gateway : SimulatorGatewayConfig
  deviceIntervals : List (String × Int)
  deriving DecidableEq

/-! ## Services -/

/-- `[prometheus]`: the address the metrics are served at. -/
structure PrometheusConfig where
  bind : String
  deriving DecidableEq

/-- `[http]`: the address of the web interface and its one account. -/
structure HTTPConfig where
  bind : String
  username : String
  password : String
  jwtSecret : String
  deriving DecidableEq

/-- `[smtp]`: where the daily report is sent, and how. -/
structure SMTPConfig where
  enabled : Bool
  host : String
  port : Int
  username : String
  password : String
  encryption : String
  fromEmail : String
  reportEmail : String
  deriving DecidableEq

/-- The whole configuration; `config.C` is the one global value of this type. -/
structure Config where
  general : GeneralConfig
  chirpStack : ChirpStackConfig
  simulator : List SimulatorConfig
  prometheus : PrometheusConfig
  http : HTTPConfig
  smtp : SMTPConfig
  deriving DecidableEq

end ChirpStackSimulator
