/-
  The simulations `simulator.Start` builds (`internal/simulator/simulator.go`).

  `Start` walks the `[[simulator]]` entries of a configuration in order.  For each it adds one to
  the run's wait group, decodes the payload and launches a goroutine; the first payload that is not
  hexadecimal text ends the walk with an error, after the entries before it were launched.

  1. **`Simulation`** - the parameters of one simulation, as the body of the loop copies them from
     its entry.  The fields that it creates itself (contexts, the wait group, its maps) are left
     out.
  2. **`newSimulation`** - that body.  It replaces an empty application name by one with the number
     of the entry, and an empty prefix by `device`.
  3. **`Launches`** - an entry launches a simulation exactly if its payload decodes (`launches_iff`,
     `not_launches_iff`).  Nothing else about an entry is looked at.

  The walk itself, with the wait group and the status of the API around it, is in `Lifecycle.lean`.
-/
import ChirpStackSimulator.Config
import ChirpStackSimulator.Lib.Hex

namespace ChirpStackSimulator

/-- The parameters a `simulation` is started with. -/
structure Simulation where
  tenantID : String
  deviceCount : Int
  activationTime : Int
  uplinkInterval : Int
  fPort : UInt8
  payload : List UInt8
  frequency : Int
  bandwidth : Int
  spreadingFactor : Int
  duration : Int
  gatewayMinCount : Int
  gatewayMaxCount : Int
  appName : String
  deviceNamePrefix : String
  deviceIntervals : List (String × Int)
  payloadScript : String
  packetLoss : ℚ
  latencyMs : Int
  anomalyProbability : ℚ
  anomalyTypes : String
  anomalyDuration : Int
  passiveMode : Bool
  eventTopicTemplate : String
  commandTopicTemplate : String
  deriving DecidableEq

/-- The body of `Start`'s loop: the simulation of the `i`-th entry, or the error `Start` returns
    at it. -/
def newSimulation (i : Nat) (c : SimulatorConfig) : Except String Simulation :=
  match Hex.decode c.device.payload with
  | none => .error "decode payload error"
  | some pl => .ok
    { tenantID := c.tenantID
      deviceCount := c.device.count
      activationTime := c.activationTime
      uplinkInterval := c.device.uplinkInterval
      fPort := c.device.fPort
      payload := pl
      frequency := c.device.frequency
      bandwidth := c.device.bandwidth
      spreadingFactor := c.device.spreadingFactor
      duration := c.duration
      gatewayMinCount := c.gateway.minCount
      gatewayMaxCount := c.gateway.maxCount
      appName := if c.appName = "" then "uygulama-" ++ toString (i + 1) else c.appName
      deviceNamePrefix := if c.deviceNamePrefix = "" then "device" else c.deviceNamePrefix
      deviceIntervals := c.deviceIntervals
      payloadScript := c.payloadScript
      packetLoss := c.packetLoss
      latencyMs := c.latencyMs
      anomalyProbability := c.anomalyProbability
      anomalyTypes := c.anomalyTypes
      anomalyDuration := c.anomalyDuration
      passiveMode := c.passiveMode
      eventTopicTemplate := c.gateway.eventTopicTemplate
      commandTopicTemplate := c.gateway.commandTopicTemplate }

/-- The entry's payload is hexadecimal text, the only thing `Start` checks. -/
def Launches (c : SimulatorConfig) : Prop := (Hex.decode c.device.payload).isSome

instance (c : SimulatorConfig) : Decidable (Launches c) := by unfold Launches; infer_instance

theorem launches_iff (i : Nat) (c : SimulatorConfig) :
    Launches c ↔ ∃ sim, newSimulation i c = .ok sim := by
  unfold Launches newSimulation
  cases Hex.decode c.device.payload <;> simp

theorem not_launches_iff (i : Nat) (c : SimulatorConfig) :
    ¬ Launches c ↔ newSimulation i c = .error "decode payload error" := by
  unfold Launches newSimulation
  cases Hex.decode c.device.payload <;> simp

end ChirpStackSimulator
