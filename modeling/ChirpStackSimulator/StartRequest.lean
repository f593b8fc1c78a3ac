/-
  Start requests (`internal/api/store.go`, `internal/api/simulation.go`): their fields, their
  validation, the defaults and the clamping `handleStart` applies.

  1. **Validation** - `validateStartRequest` goes from field to field and returns the first error,
     with the texts of the source.  `StartRequest.Valid` is what it lets pass, as a condition on
     each field (`validateStartRequest_iff`).
  2. **Defaults** - a field that is not given has Go's zero value, so the zero value cannot be asked
     for.  All defaults are of one shape, `orDefault`.
  3. **Clamping** - packet loss and latency are brought into their ranges, without an error
     (`sanitize_range`).

  A request the server has completed is complete (`completed_idem`) and passes the validation it has
  passed before (`StartRequest.Valid.completed`), so the stored one can be sent again.

  `time.ParseDuration` belongs to Go's standard library; it is the parameter `parseDuration`, from
  the text of a duration to its nanoseconds.
-/
import Mathlib.Data.Rat.Init

namespace ChirpStackSimulator

/-- The HTTP API simulation start parameters; the same record is stored per organisation. -/
structure StartRequest where
  tenantID : String
  deviceCount : Int
  gatewayCount : Int
  duration : String
  activationTime : String
  uplinkInterval : String
  appName : String
  devicePrefix : String
  fPort : UInt8
  payload : String
  payloadScript : String
  packetLoss : ℚ
  simulatePacketLoss : Bool
  latencyMs : Int
  frequency : Int
  bandwidth : Int
  spreadingFactor : Int
  eventTopicTemplate : String
  commandTopicTemplate : String
  anomalyProbability : ℚ
  anomalyTypes : String
  anomalyDuration : Int
  passiveMode : Bool
  syncIntervalMinutes : Int
  deriving DecidableEq

/-- The request the JSON body `{}` decodes to. -/
def StartRequest.empty : StartRequest :=
  ⟨"", 0, 0, "", "", "", "", "", 0, "", "", 0, false, 0, 0, 0, 0, "", "", 0, "", 0, false, 0⟩

/-- `time.Second` in nanoseconds. -/
def second : Int := 1000000000

/-- `validateStartRequest`: the three durations parse and the uplink interval is at least one
    second; an empty field is left to its default. -/
def validateStartRequest (parseDuration : String → Except String Int) (req : StartRequest) :
    Except String Unit := do
  if req.uplinkInterval ≠ "" then
    match parseDuration req.uplinkInterval with
    | .error e => throw ("geçersiz uplink sıklığı formatı (örn: 5m, 30s): " ++ e)
    | .ok d => if d < second then throw "uplink sıklığı en az 1 saniye olmalıdır"
  if req.duration ≠ "" ∧ req.duration ≠ "0s" then
    match parseDuration req.duration with
    | .error e => throw ("geçersiz süre formatı (örn: 5m, 1h): " ++ e)
    | .ok _ => pure ()
  if req.activationTime ≠ "" then
    match parseDuration req.activationTime with
    | .error e => throw ("geçersiz aktivasyon süresi formatı (örn: 30s, 1m): " ++ e)
    | .ok _ => pure ()

/-- What the validation lets pass: the durations that are given parse, and an uplink interval that is
    given is at least one second. -/
structure StartRequest.Valid (parseDuration : String → Except String Int) (req : StartRequest) :
    Prop where
  uplinkInterval : req.uplinkInterval ≠ "" →
    ∃ d, parseDuration req.uplinkInterval = .ok d ∧ second ≤ d
  duration : req.duration ≠ "" → req.duration ≠ "0s" → ∃ d, parseDuration req.duration = .ok d
  activationTime : req.activationTime ≠ "" → ∃ d, parseDuration req.activationTime = .ok d

theorem validateStartRequest_iff {parseDuration : String → Except String Int} {req : StartRequest} :
    validateStartRequest parseDuration req = .ok () ↔ req.Valid parseDuration := by
  unfold validateStartRequest
  simp only [bind, Except.bind, throw, throwThe, MonadExceptOf.throw, pure, Except.pure]
  constructor
  · intro h
    refine ⟨fun hne => ?_, fun hne h0 => ?_, fun hne => ?_⟩
    · grind
    · grind
    · grind
  · rintro ⟨hinterval, hduration, hactivation⟩
    grind

/-- `eu868/gateway/<GatewayID>/event/<Event>` in Go's template notation. -/
def defaultEventTopicTemplate : String :=
  "eu868/gateway/\x7b\x7b .GatewayID \x7d\x7d/event/\x7b\x7b .Event \x7d\x7d"

/-- `eu868/gateway/<GatewayID>/command/<Command>` in Go's template notation. -/
def defaultCommandTopicTemplate : String :=
  "eu868/gateway/\x7b\x7b .GatewayID \x7d\x7d/command/\x7b\x7b .Command \x7d\x7d"

/-- `if req.X == zero { req.X = d }`, the shape of every default. -/
def orDefault {α : Type} [DecidableEq α] (x zero d : α) : α := if x = zero then d else x

/-- The defaults of `handleStart`. -/
def applyDefaults (req : StartRequest) : StartRequest :=
  { req with
    deviceCount := orDefault req.deviceCount 0 10
    gatewayCount := orDefault req.gatewayCount 0 3
    duration := orDefault req.duration "" "0s"
    activationTime := orDefault req.activationTime "" "1m"
    uplinkInterval := orDefault req.uplinkInterval "" "2m"
    appName := orDefault req.appName "" "simulasyon"
    devicePrefix := orDefault req.devicePrefix "" "sim-dev"
    fPort := orDefault req.fPort 0 10
    payload := orDefault req.payload "" "0102030405"
    frequency := orDefault req.frequency 0 868100000
    bandwidth := orDefault req.bandwidth 0 125000
    spreadingFactor := orDefault req.spreadingFactor 0 7
    eventTopicTemplate := orDefault req.eventTopicTemplate "" defaultEventTopicTemplate
    commandTopicTemplate := orDefault req.commandTopicTemplate "" defaultCommandTopicTemplate }

/-- The clamping of the network degradation values. -/
def sanitize (req : StartRequest) : StartRequest :=
  { req with
    packetLoss :=
      if req.packetLoss < 0 then 0 else if 100 < req.packetLoss then 100 else req.packetLoss
    latencyMs :=
      if req.latencyMs < 0 then 0 else if 5000 < req.latencyMs then 5000 else req.latencyMs }

@[simp] theorem orDefault_idem {α : Type} [DecidableEq α] (x zero d : α) :
    orDefault (orDefault x zero d) zero d = orDefault x zero d := by
  unfold orDefault
  by_cases hx : x = zero
  · rw [if_pos hx, ite_self]
  · rw [if_neg hx, if_neg hx]

/-- A request with its defaults filled in has nothing left to fill in. -/
theorem applyDefaults_idem (req : StartRequest) :
    applyDefaults (applyDefaults req) = applyDefaults req := by
  simp [applyDefaults]

/-- The clamping is done once. -/
theorem sanitize_idem (req : StartRequest) : sanitize (sanitize req) = sanitize req := by
  unfold sanitize
  congr 1
  · dsimp only
    split
    · rfl
    · split <;> grind
  · dsimp only
    split
    · rfl
    · split <;> grind

/-- The clamping of the packet loss. -/
def clampLoss (x : ℚ) : ℚ := if x < 0 then 0 else if 100 < x then 100 else x

/-- The clamping of the latency. -/
def clampLatency (n : Int) : Int := if n < 0 then 0 else if 5000 < n then 5000 else n

theorem clampLoss_idem (x : ℚ) : clampLoss (clampLoss x) = clampLoss x := by
  unfold clampLoss
  grind

theorem clampLoss_eq_self {x : ℚ} : clampLoss x = x ↔ 0 ≤ x ∧ x ≤ 100 := by
  unfold clampLoss
  grind

theorem clampLatency_idem (n : Int) : clampLatency (clampLatency n) = clampLatency n := by
  unfold clampLatency
  grind

theorem clampLatency_eq_self {n : Int} : clampLatency n = n ↔ 0 ≤ n ∧ n ≤ 5000 := by
  unfold clampLatency
  grind

/-- A request the server has completed is complete: completing it again changes nothing. -/
theorem completed_idem (req : StartRequest) :
    sanitize (applyDefaults (sanitize (applyDefaults req))) = sanitize (applyDefaults req) := by
  have hcomm : applyDefaults (sanitize (applyDefaults req)) =
      sanitize (applyDefaults (applyDefaults req)) := rfl
  rw [hcomm, applyDefaults_idem, sanitize_idem]

/-- And it is valid: the defaults are durations, the default interval is above one second. -/
theorem StartRequest.Valid.completed {parseDuration : String → Except String Int}
    (h1m : parseDuration "1m" = .ok 60000000000) (h2m : parseDuration "2m" = .ok 120000000000)
    {req : StartRequest} (h : req.Valid parseDuration) :
    (sanitize (applyDefaults req)).Valid parseDuration where
  uplinkInterval _ := by
    show ∃ d, parseDuration (orDefault req.uplinkInterval "" "2m") = .ok d ∧ second ≤ d
    unfold orDefault
    split
    · exact ⟨_, h2m, by decide⟩
    · rename_i hne
      exact h.uplinkInterval hne
  duration := by
    show orDefault req.duration "" "0s" ≠ "" → orDefault req.duration "" "0s" ≠ "0s" →
      ∃ d, parseDuration (orDefault req.duration "" "0s") = .ok d
    unfold orDefault
    split
    · intro _ h0s
      exact absurd rfl h0s
    · exact h.duration
  activationTime _ := by
    show ∃ d, parseDuration (orDefault req.activationTime "" "1m") = .ok d
    unfold orDefault
    split
    · exact ⟨_, h1m⟩
    · rename_i hne
      exact h.activationTime hne

/-- After the clamping both degradation values are in range. -/
theorem sanitize_range (req : StartRequest) :
    0 ≤ (sanitize req).packetLoss ∧ (sanitize req).packetLoss ≤ 100 ∧
      0 ≤ (sanitize req).latencyMs ∧ (sanitize req).latencyMs ≤ 5000 := by
  have hp : 0 ≤ (sanitize req).packetLoss ∧ (sanitize req).packetLoss ≤ 100 := by
    show 0 ≤ ite _ _ _ ∧ ite _ _ _ ≤ _
    split
    · exact ⟨by decide, by decide⟩
    · split <;> grind
  have hl : 0 ≤ (sanitize req).latencyMs ∧ (sanitize req).latencyMs ≤ 5000 := by
    show 0 ≤ ite _ _ _ ∧ ite _ _ _ ≤ _
    split
    · omega
    · split <;> omega
  exact ⟨hp.1, hp.2, hl.1, hl.2⟩

end ChirpStackSimulator
