/-
  A simulated OTAA device (`simulator/device.go`): the fields its two loops share.

  The uplink loop, the downlink loop and the commands of the HTTP API work on one `Device` at the
  same time.  Which of the fields each of them may touch is said where it is modelled.

  1. **Fields** - left out are those no modelled function reads: contexts, the app name and the
     tenant, the uplink interval, the transmission parameters.  The queue of downlink frames and the
     gateways are in `ChirpStackSimulator.Gateway`.  `driftAccumulated` only ever changes by 0.5, so
     it is counted in half units.
  2. **New devices** - `Device.zero` is what `NewDevice` makes of no options.  `Device.Fresh` is
     what no option can set: results about whole runs start from a device that is fresh, whatever
     its options.
-/
import ChirpStackSimulator.LoRaWAN
import Mathlib.Data.Rat.Init

namespace ChirpStackSimulator

open LoRaWAN

inductive DeviceState where
  | otaa
  | activated
  deriving DecidableEq

structure Device where
  devEUI : EUI64
  deviceName : String
  joinEUI : EUI64
  appKey : AES128Key
  uplinkCount : UInt32
  confirmed : Bool
  payload : List UInt8
  fPort : UInt8
  devAddr : DevAddr
  devNonce : DevNonce
  fCntUp : UInt32
  fCntDown : UInt32
  appSKey : AES128Key
  nwkSKey : AES128Key
  state : DeviceState
  randomDevNonce : Bool
  /-- Whether `downlinkHandlerFunc` is set. -/
  downlinkHandlerFunc : Bool
  payloadScript : String
  anomalyProbability : ℚ
  anomalyTypes : List String
  anomalyDuration : Int
  activeAnomalyType : String
  activeAnomalyRemaining : Int
  /-- In half units. -/
  driftAccumulated : Nat
  lastPayload : List UInt8
  manualAnomalyType : String
  manualAnomalyActive : Bool
  deriving DecidableEq

/-- The device `NewDevice` makes of no options: every field is Go's zero value. -/
def Device.zero : Device where
  devEUI := Vector.replicate 8 0
  deviceName := ""
  joinEUI := Vector.replicate 8 0
  appKey := Vector.replicate 16 0
  uplinkCount := 0
  confirmed := false
  payload := []
  fPort := 0
  devAddr := Vector.replicate 4 0
  devNonce := 0
  fCntUp := 0
  fCntDown := 0
  appSKey := Vector.replicate 16 0
  nwkSKey := Vector.replicate 16 0
  state := .otaa
  randomDevNonce := false
  downlinkHandlerFunc := false
  payloadScript := ""
  anomalyProbability := 0
  anomalyTypes := []
  anomalyDuration := 0
  activeAnomalyType := ""
  activeAnomalyRemaining := 0
  driftAccumulated := 0
  lastPayload := []
  manualAnomalyType := ""
  manualAnomalyActive := false

/-- What no option of `NewDevice` sets: the device has done nothing yet. -/
structure Device.Fresh (d : Device) : Prop where
  state : d.state = .otaa
  devNonce : d.devNonce = 0
  fCntUp : d.fCntUp = 0
  fCntDown : d.fCntDown = 0
  activeAnomalyType : d.activeAnomalyType = ""
  driftAccumulated : d.driftAccumulated = 0
  lastPayload : d.lastPayload = []
  manualAnomalyActive : d.manualAnomalyActive = false
  manualAnomalyType : d.manualAnomalyType = ""

/-- `setState`. -/
def Device.setState (d : Device) (s : DeviceState) : Device := { d with state := s }

end ChirpStackSimulator
