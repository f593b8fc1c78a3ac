/-
  Data uplinks (`Device.dataUp`).

  One call chooses the anomaly it is governed by, builds the payload, seals the frame and cleans up.
  It holds the device's lock in pieces, so commands of the HTTP API can come in between.

  1. **Choosing** — a manual anomaly first, then an active one, then the dice.
  2. **Building** — a flatline, the user's script, or five bytes of telemetry.  The script runs in
     `goja`, which is not part of the repository: it is the parameter `runScript`.
  3. **Cleaning up** — after a dropped uplink (`dropoutSection`) and after a sent one
     (`finishSection`).
  4. `dataUp` is the whole call, `goOn` one critical section of it; `goOn_iterate` says that the
     sections one after another are the call, so that what each of them keeps the call keeps
     (`dataUp_invariant`).
  5. **Commands** — `SetManualAnomaly` and its HTTP handler.
-/
import ChirpStackSimulator.Device
import ChirpStackSimulator.Http
import ChirpStackSimulator.Lib.Hex
import Mathlib.Logic.Function.Iterate

namespace ChirpStackSimulator

open LoRaWAN

/-! ## Commands -/

/-- `SetManualAnomaly`. -/
def Device.setManualAnomaly (d : Device) (anomalyType : String) (active : Bool) : Device :=
  { d with
    manualAnomalyType := anomalyType
    manualAnomalyActive := active
    driftAccumulated := if active then d.driftAccumulated else 0 }

/-- The body of an anomaly request. -/
structure AnomalyRequest where
  type : String
  action : String
  deriving DecidableEq

/-- What `handleDeviceAnomaly` does to the device under its lock; `none` for an invalid action. -/
def AnomalyRequest.apply (req : AnomalyRequest) (d : Device) : Option Device :=
  if req.action = "stop" then some (d.setManualAnomaly "" false)
  else if req.action = "start" ∨ req.action = "trigger" then some (d.setManualAnomaly req.type true)
  else none

/-- An accepted command is a call of `SetManualAnomaly`. -/
theorem apply_setManual {req : AnomalyRequest} {d d' : Device} (h : req.apply d = some d') :
    ∃ anomalyType active, d' = d.setManualAnomaly anomalyType active := by
  unfold AnomalyRequest.apply at h
  split at h
  · exact ⟨"", false, (Option.some.inj h).symm⟩
  · split at h
    · exact ⟨req.type, true, (Option.some.inj h).symm⟩
    · exact absurd h (by simp)

/-- `handleDeviceAnomaly`, with the decoded body, the parsed EUI and `ActiveDevices.GetDevice`; the
    first component is the device the command was applied to. -/
def handleDeviceAnomaly (post : Bool) (body : Except String AnomalyRequest)
    (devEUI : Except String EUI64) (getDevice : EUI64 → Option Device) :
    Option Device × Response :=
  if post = false then (none, .methodNotAllowed) else
  match body with
  | .error e => (none, .badRequest ("invalid JSON: " ++ e))
  | .ok req =>
    match devEUI with
    | .error _ => (none, .badRequest "invalid dev_eui")
    | .ok eui =>
      match getDevice eui with
      | none => (none, .notFound "device not actively simulated")
      | some d =>
        match req.apply d with
        | none => (none, .badRequest "invalid action")
        | some d => (some d, .ok "applied")

/-- A command is answered `applied` exactly when some device changed hands. -/
theorem handleDeviceAnomaly_applied_iff (post : Bool) (body : Except String AnomalyRequest)
    (devEUI : Except String EUI64) (getDevice : EUI64 → Option Device) :
    (handleDeviceAnomaly post body devEUI getDevice).2.code = 200 ↔
      ∃ req eui d d', post = true ∧ body = .ok req ∧ devEUI = .ok eui ∧ getDevice eui = some d ∧
        req.apply d = some d' ∧
        handleDeviceAnomaly post body devEUI getDevice = (some d', .ok "applied") := by
  constructor
  · intro h
    unfold handleDeviceAnomaly at h ⊢
    split at h
    · exact absurd h (by simp)
    · rename_i hpost
      split at h
      · exact absurd h (by simp)
      · rename_i req
        split at h
        · exact absurd h (by simp)
        · rename_i eui
          split at h
          · exact absurd h (by simp)
          · rename_i d hd
            split at h
            · exact absurd h (by simp)
            · rename_i d' hd'
              exact ⟨req, eui, d, d', by simpa using hpost, rfl, rfl, hd, hd', if_neg hpost⟩
  · rintro ⟨req, eui, d, d', -, -, -, -, -, h⟩
    rw [h]
    rfl

namespace DataUp

/-! ## Choosing the anomaly -/

/-- What one call takes from outside: the dice and the clock. -/
structure Draws where
  /-- `mrand.Float64()`. -/
  float : ℚ
  /-- The draw behind `mrand.Intn`. -/
  index : Nat
  /-- `time.Now().UnixNano()`. -/
  nowNs : Nat

/-- `currentAnomalyType` and `isManual`. -/
structure Choice where
  anomaly : String
  isManual : Bool
  deriving DecidableEq

/-- The dice are rolled and hit. -/
def Hits (d : Device) (r : Draws) : Prop :=
  0 < d.anomalyProbability ∧ d.anomalyTypes ≠ [] ∧ r.float < d.anomalyProbability

instance (d : Device) (r : Draws) : Decidable (Hits d r) := by unfold Hits; infer_instance

/-- `d.anomalyTypes[n]`. -/
def drawnType (d : Device) (r : Draws) : String :=
  d.anomalyTypes.getD (r.index % d.anomalyTypes.length) ""

/-- The number of uplinks a drawn anomaly lasts. -/
def duration (d : Device) : Int := if d.anomalyDuration ≤ 0 then 5 else d.anomalyDuration

/-- The first critical section of `dataUp`. -/
def chooseAnomaly (d : Device) (r : Draws) : Device × Choice :=
  if d.manualAnomalyActive then (d, ⟨d.manualAnomalyType, true⟩)
  -- a drawn anomaly goes on without new dice
  else if d.activeAnomalyType ≠ "" then (d, ⟨d.activeAnomalyType, false⟩)
  else if Hits d r then
    ({ d with
        activeAnomalyType := drawnType d r
        activeAnomalyRemaining := duration d
        driftAccumulated := 0 },
      ⟨drawnType d r, false⟩)
  else (d, ⟨"", false⟩)

/-! ## Building the payload -/

/-- An element of the array a script returns, as `Export` gives it. -/
inductive ScriptValue where
  | int (n : Int)
  | float (q : ℚ)
  | other (goType : String)

/-- The outcome of `RunString` and `Export`. -/
inductive ScriptResult where
  | error (e : String)
  | nil
  | array (vs : List ScriptValue)
  | text (s : String)
  | other (goType : String)

/-- The object `anomaly` of the script; the drift in half units. -/
structure ScriptAnomaly where
  active : Bool
  type : String
  driftValue : Nat
  deriving DecidableEq

/-- What the script is given. -/
structure ScriptEnv where
  fPort : UInt8
  fCnt : UInt32
  devEUI : EUI64
  deviceName : String
  anomaly : ScriptAnomaly
  deriving DecidableEq

/-- `byte(f)`: it truncates to 32 bits, as on `amd64`, and takes the lowest byte.  What 32 bits do not
    hold becomes `-2147483648`, whose lowest byte is zero. -/
def byteOfFloat (q : ℚ) : UInt8 :=
  if -2147483648 ≤ q.num.tdiv q.den ∧ q.num.tdiv q.den < 2147483648 then UInt8.ofInt (q.num.tdiv q.den)
  else 0

/-- The bytes of a script's array: Go truncates numbers, and an element of another type is an
    error. -/
def scriptBytes : Nat → List ScriptValue → Except String (List UInt8)
  | _, [] => .ok []
  | i, .int n :: vs => (scriptBytes (i + 1) vs).map (UInt8.ofInt n :: ·)
  | i, .float q :: vs => (scriptBytes (i + 1) vs).map (byteOfFloat q :: ·)
  | i, .other goType :: _ =>
    .error ("invalid byte type at index " ++ toString i ++ ": " ++ goType)

theorem toNat_ofInt (i : Int) : (UInt8.ofInt i).toNat = (i % 256).toNat := by
  unfold UInt8.ofInt
  rw [UInt8.toNat_ofNat']
  omega

/-- The payload a script's result stands for; `none` leaves the payload alone. -/
def scriptPayload : ScriptResult → Except String (Option (List UInt8))
  | .error e => .error e
  | .nil => .ok none
  | .array vs => (scriptBytes 0 vs).map some
  | .text s =>
    match Hex.decode s with
    | none => .error "encoding/hex: invalid text"
    | some bytes => .ok (some bytes)
  | .other goType => .error ("unexpected script return type: " ++ goType)

/-- The anomaly as the script sees it. -/
def scriptAnomaly (c : Choice) (drift : Nat) : ScriptAnomaly :=
  if c.anomaly = "spike" ∨ c.anomaly = "drift" then ⟨true, c.anomaly, drift⟩ else ⟨false, "", 0⟩

/-- The default five bytes: temperature, pressure, voltage. -/
def defaultPayload (c : Choice) (drift nowNs : Nat) : List UInt8 :=
  let tempVal : Int16 := Int16.ofNat (15 + nowNs % 21)
  let pressVal : UInt16 := UInt16.ofNat (980 + nowNs / 2 ^ 4 % 46)
  let voltVal : UInt8 := UInt8.ofNat (28 + nowNs / 2 ^ 8 % 9)
  let tempVal :=
    if c.anomaly = "spike" then tempVal + 15
    else if c.anomaly = "drift" then tempVal + Int16.ofNat (drift / 2)
    else tempVal
  [(tempVal >>> 8).toInt8.toUInt8, tempVal.toInt8.toUInt8, (pressVal >>> 8).toUInt8,
    pressVal.toUInt8, voltVal]

/-- A flatline repeats the last payload, once there is one. -/
def FlatlineApplies (d : Device) (c : Choice) : Prop :=
  c.anomaly = "flatline" ∧ 0 < d.lastPayload.length

instance (d : Device) (c : Choice) : Decidable (FlatlineApplies d c) := by
  unfold FlatlineApplies; infer_instance

section
variable (lib : Library) (runScript : String → ScriptEnv → ScriptResult)

/-- The payload of an uplink that is no flatline, built with the drift read before; a script that
    fails leaves the payload as it was. -/
def newPayload (d : Device) (c : Choice) (drift nowNs : Nat) : List UInt8 :=
  if d.payloadScript ≠ "" then
    match scriptPayload (runScript d.payloadScript
        ⟨d.fPort, d.fCntUp, d.devEUI, d.deviceName, scriptAnomaly c drift⟩) with
    | .ok (some bytes) => bytes
    -- the error is only logged, and the payload of the uplink before is sent again
    | _ => d.payload
  else if d.payload.length = 5 then defaultPayload c drift nowNs
  else d.payload

/-- The payload of the uplink. -/
def buildPayload (d : Device) (c : Choice) (nowNs : Nat) : List UInt8 :=
  if FlatlineApplies d c then d.lastPayload
  else newPayload runScript d c d.driftAccumulated nowNs

/-- The frame before it is sealed. -/
def dataFrame (d : Device) : PHYPayload where
  mType := if d.confirmed then .confirmedDataUp else .unconfirmedDataUp
  body := .mac
    ⟨⟨d.devAddr, ⟨false, false, false, false⟩, d.fCntUp, []⟩, some d.fPort,
      [.dataPayload d.payload]⟩
  mic := Vector.replicate 4 0

/-- `EncryptFRMPayload` and `SetUplinkDataMIC`. -/
def sealFrame (d : Device) : Except String PHYPayload :=
  match lib.encryptFRMPayload d.appSKey (dataFrame d) with
  | .error e => .error e
  | .ok phy => lib.setUplinkDataMIC d.nwkSKey phy

end

/-! ## Cleaning up -/

/-- Clear a one-shot manual anomaly. -/
def clearManual (d : Device) : Device := { d with manualAnomalyActive := false, manualAnomalyType := "" }

/-- The critical section of a dropped uplink. -/
def dropoutSection (d : Device) (isManual : Bool) : Device :=
  let d := { d with fCntUp := d.fCntUp + 1 }
  if isManual then clearManual d
  -- unlike the last section of a sent uplink, this one leaves the drift alone
  else
    { d with
      activeAnomalyRemaining := d.activeAnomalyRemaining - 1
      activeAnomalyType :=
        if d.activeAnomalyRemaining - 1 ≤ 0 then "" else d.activeAnomalyType }

/-- A probabilistic anomaly has been served once more. -/
def countDown (d : Device) : Device :=
  if d.activeAnomalyRemaining - 1 ≤ 0 then
    { d with
      activeAnomalyRemaining := d.activeAnomalyRemaining - 1
      activeAnomalyType := ""
      driftAccumulated := 0 }
  else { d with activeAnomalyRemaining := d.activeAnomalyRemaining - 1 }

/-- The last critical section of `dataUp`. -/
def finishSection (d : Device) (c : Choice) : Device :=
  let d := { d with fCntUp := d.fCntUp + 1, lastPayload := d.payload }
  if c.anomaly = "" then d
  else if c.isManual then
    -- whatever command stands there now is cleared
    if c.anomaly = "spike" ∨ c.anomaly = "dropout" then clearManual d
    else if c.anomaly = "drift" then { d with driftAccumulated := d.driftAccumulated + 1 }
    else d
  else
    countDown
      (if c.anomaly = "drift" then { d with driftAccumulated := d.driftAccumulated + 1 } else d)

/-! ### The two sections, field by field -/

@[simp] theorem dropoutSection_fCntUp (d : Device) (isManual : Bool) :
    (dropoutSection d isManual).fCntUp = d.fCntUp + 1 := by
  cases isManual <;> rfl

@[simp] theorem dropoutSection_uplinkCount (d : Device) (isManual : Bool) :
    (dropoutSection d isManual).uplinkCount = d.uplinkCount := by
  cases isManual <;> rfl

@[simp] theorem dropoutSection_lastPayload (d : Device) (isManual : Bool) :
    (dropoutSection d isManual).lastPayload = d.lastPayload := by
  cases isManual <;> rfl

@[simp] theorem finishSection_fCntUp (d : Device) (c : Choice) :
    (finishSection d c).fCntUp = d.fCntUp + 1 := by
  unfold finishSection clearManual countDown
  dsimp only
  repeat' split
  all_goals rfl

@[simp] theorem finishSection_uplinkCount (d : Device) (c : Choice) :
    (finishSection d c).uplinkCount = d.uplinkCount := by
  unfold finishSection clearManual countDown
  dsimp only
  repeat' split
  all_goals rfl

@[simp] theorem finishSection_lastPayload (d : Device) (c : Choice) :
    (finishSection d c).lastPayload = d.payload := by
  unfold finishSection clearManual countDown
  dsimp only
  repeat' split
  all_goals rfl

/-! ## The whole call -/

/-- What one call of `dataUp` leaves behind: the device, the anomaly it was governed by and the frame
    it sent. -/
structure Outcome where
  device : Device
  choice : Choice
  sent : Option PHYPayload

section
variable (lib : Library) (runScript : String → ScriptEnv → ScriptResult)

/-- `dataUp`, uninterrupted. -/
def dataUp (d : Device) (r : Draws) : Outcome :=
  let (d, c) := chooseAnomaly d r
  if c.anomaly = "dropout" then ⟨dropoutSection d c.isManual, c, none⟩
  else
    let d := { d with payload := buildPayload runScript d c r.nowNs }
    match sealFrame lib d with
    | .error _ => ⟨d, c, none⟩
    | .ok phy => ⟨finishSection d c, c, some phy⟩

/-! ## One critical section at a time -/

/-- Where a call of `dataUp` stands, between two critical sections. -/
inductive Pc where
  | idle
  | chosen (c : Choice)
  /-- No flatline was applied. -/
  | flatlined (c : Choice)
  /-- `driftAccumulated` was read for the payload. -/
  | driftRead (c : Choice) (drift : Nat)
  /-- The payload stands in `d.payload`. -/
  | built (c : Choice)
  | sealed (c : Choice) (phy : PHYPayload)
  deriving DecidableEq

/-- The next critical section of a call. -/
def goOn (nowNs : Nat) : Device × Pc → Device × Pc
  | (d, .idle) => (d, .idle)
  | (d, .chosen c) =>
    if c.anomaly = "dropout" then (dropoutSection d c.isManual, .idle)
    else if FlatlineApplies d c then ({ d with payload := d.lastPayload }, .built c)
    else (d, .flatlined c)
  | (d, .flatlined c) => (d, .driftRead c d.driftAccumulated)
  | (d, .driftRead c drift) => ({ d with payload := newPayload runScript d c drift nowNs }, .built c)
  | (d, .built c) =>
    match sealFrame lib d with
    | .error _ => (d, .idle)
    | .ok phy => (d, .sealed c phy)
  | (d, .sealed c _) => (finishSection d c, .idle)

variable {lib : Library} {runScript : String → ScriptEnv → ScriptResult}

/-- **The sections of a call, one after another, are the call.** -/
theorem goOn_iterate (d : Device) (r : Draws) :
    (goOn lib runScript r.nowNs)^[5] ((chooseAnomaly d r).1, .chosen (chooseAnomaly d r).2)
      = ((dataUp lib runScript d r).device, .idle) := by
  rcases hc : chooseAnomaly d r with ⟨d₁, c⟩
  simp only [Function.iterate_succ, Function.iterate_zero, Function.comp, id]
  -- a dropped uplink needs one section, a flatline three, any other uplink five
  by_cases hdrop : c.anomaly = "dropout"
  · simp [goOn, dataUp, hc, hdrop]
  · by_cases hflat : FlatlineApplies d₁ c
    · cases hseal : sealFrame lib { d₁ with payload := d₁.lastPayload } <;>
        simp [goOn, dataUp, hc, hdrop, hflat, buildPayload, hseal]
    · cases hseal : sealFrame lib
          { d₁ with payload := newPayload runScript d₁ c d₁.driftAccumulated r.nowNs } <;>
        simp [goOn, dataUp, hc, hdrop, hflat, buildPayload, hseal]

/-- **The invariant rule of a call**: what choosing establishes and every section keeps holds when the
    call is over. -/
theorem dataUp_invariant {P : Device × Pc → Prop} {d : Device} {r : Draws}
    (hchosen : P ((chooseAnomaly d r).1, .chosen (chooseAnomaly d r).2))
    (hgoOn : ∀ s, P s → P (goOn lib runScript r.nowNs s)) :
    P ((dataUp lib runScript d r).device, .idle) := by
  rw [← goOn_iterate]
  exact Function.Iterate.rec P hchosen (fun s => hgoOn s) 5

/-! ## What a call can do -/

/-- What choosing can do: take the manual anomaly, the active one, a new one or none. -/
theorem chooseAnomaly_cases (d : Device) (r : Draws) :
    (d.manualAnomalyActive = true ∧ chooseAnomaly d r = (d, ⟨d.manualAnomalyType, true⟩)) ∨
    (d.manualAnomalyActive = false ∧ d.activeAnomalyType ≠ "" ∧
      chooseAnomaly d r = (d, ⟨d.activeAnomalyType, false⟩)) ∨
    (d.manualAnomalyActive = false ∧ d.activeAnomalyType = "" ∧ Hits d r ∧
      chooseAnomaly d r =
        ({ d with
            activeAnomalyType := drawnType d r
            activeAnomalyRemaining := duration d
            driftAccumulated := 0 }, ⟨drawnType d r, false⟩)) ∨
    (d.manualAnomalyActive = false ∧ d.activeAnomalyType = "" ∧ ¬ Hits d r ∧
      chooseAnomaly d r = (d, ⟨"", false⟩)) := by
  unfold chooseAnomaly
  by_cases hm : d.manualAnomalyActive = true
  · exact Or.inl ⟨hm, if_pos hm⟩
  · rw [if_neg hm]
    have hm' : d.manualAnomalyActive = false := by simpa using hm
    by_cases ha : d.activeAnomalyType ≠ ""
    · exact Or.inr (Or.inl ⟨hm', ha, if_pos ha⟩)
    · rw [if_neg ha]
      have ha' : d.activeAnomalyType = "" := by simpa using ha
      by_cases hh : Hits d r
      · exact Or.inr (Or.inr (Or.inl ⟨hm', ha', hh, if_pos hh⟩))
      · exact Or.inr (Or.inr (Or.inr ⟨hm', ha', hh, if_neg hh⟩))

variable (lib runScript) in
/-- **What one call can do** after choosing: drop the uplink, fail to seal the frame, or send it. -/
theorem dataUp_cases (d : Device) (r : Draws) :
    let d₁ := (chooseAnomaly d r).1
    let c := (chooseAnomaly d r).2
    (c.anomaly = "dropout" ∧ dataUp lib runScript d r = ⟨dropoutSection d₁ c.isManual, c, none⟩) ∨
    (c.anomaly ≠ "dropout" ∧ ∃ payload,
      (∃ e, sealFrame lib { d₁ with payload } = .error e) ∧
        dataUp lib runScript d r = ⟨{ d₁ with payload }, c, none⟩) ∨
    (c.anomaly ≠ "dropout" ∧ ∃ payload phy,
      sealFrame lib { d₁ with payload } = .ok phy ∧
        dataUp lib runScript d r = ⟨finishSection { d₁ with payload } c, c, some phy⟩) := by
  rcases hc : chooseAnomaly d r with ⟨d₁, c⟩
  by_cases hdrop : c.anomaly = "dropout"
  · exact Or.inl ⟨hdrop, by simp [dataUp, hc, hdrop]⟩
  · cases hseal : sealFrame lib { d₁ with payload := buildPayload runScript d₁ c r.nowNs } with
    | error e =>
      exact Or.inr (Or.inl ⟨hdrop, buildPayload runScript d₁ c r.nowNs, ⟨e, hseal⟩, by
        simp [dataUp, hc, hdrop, hseal]⟩)
    | ok phy =>
      exact Or.inr (Or.inr ⟨hdrop, buildPayload runScript d₁ c r.nowNs, phy, hseal, by
        simp [dataUp, hc, hdrop, hseal]⟩)

end

/-! ## Calls one after another -/

/-- The two calls that touch the anomaly of a device. -/
inductive Call where
  | dataUp (r : Draws)
  | setManual (anomalyType : String) (active : Bool)

section
variable (lib : Library) (runScript : String → ScriptEnv → ScriptResult)

def call (d : Device) : Call → Device
  | .dataUp r => (dataUp lib runScript d r).device
  | .setManual anomalyType active => d.setManualAnomaly anomalyType active

/-- The device after all the calls. -/
def calls (d : Device) (cs : List Call) : Device := cs.foldl (call lib runScript) d

@[simp] theorem calls_nil (d : Device) : calls lib runScript d [] = d := rfl

@[simp] theorem calls_cons (d : Device) (c : Call) (cs : List Call) :
    calls lib runScript d (c :: cs) = calls lib runScript (call lib runScript d c) cs := rfl

end

/-- `EncryptFRMPayload` and `SetUplinkDataMIC` do not fail. -/
def Infallible (lib : Library) : Prop := ∀ d, ∃ phy, sealFrame lib d = .ok phy

theorem infallible_plain : Infallible .plain := fun _ => ⟨_, rfl⟩

end DataUp

end ChirpStackSimulator
