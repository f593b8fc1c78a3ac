/-
  Packet loss and drawn anomalies, from the saved configuration to the device (`database.go`,
  `discoverAndBuildConfig`, `Start`, `runSimulation`, `sendUplink` and `dataUp`).

  An organisation saves a packet loss in percent with a switch beside it, and an anomaly probability
  in percent.  A start reads the saved configuration and hands both numbers through four structures
  to `NewDevice`; the switch gets as far as the `[[simulator]]` entry and no further.  At the end
  `sendUplink` compares a hundred times its draw with the one number, `dataUp` its bare draw with the
  other.

  1. **The chain** - what a device that a start makes is given of the saved configuration
     (`packetLoss_made`, `anomalyProbability_made`).
  2. **`sendUplink`** - the loop over the gateways, and which draws drop a frame (`fate_dropped_iff`).
     A device keeps the rule of the switch exactly if the switch is on or there is nothing to drop
     (`switch_rules_iff`).
  3. **The dice of `dataUp`** - they keep the rule of the percentage exactly if the percentage is
     nothing or everything (`percentage_rules_iff`).
-/
import ChirpStackSimulator.DataUp
import ChirpStackSimulator.Intervals
import ChirpStackSimulator.Lib.Decimal
import ChirpStackSimulator.OrgConfigs
import Mathlib.Tactic.Linarith

namespace ChirpStackSimulator.Degradation

open LoRaWAN Discovery Setup Routes Bootstrap Intervals
open Decimals (mul round_zero IsDouble isDouble_intCast le_of_rounds rounds_round)
open Lifecycle (Status)

/-! ## The chain -/

section
variable {lib : Parsers} {parseDuration : String → Except String Int}
  {other : (c : Call) → c.Answer} {s : Store} {req : StartRequest} {status : Status}
  {sim : Simulation} {opts : DeviceOptions}

/-- A simulation of a start is made of an entry that was built from its tenant's configuration. -/
theorem entry_of_launched (hvalid : validateStartRequest parseDuration req = .ok ())
    (hstatus : status = .idle ∨ status = .error)
    (hsim : sim ∈ launched ((handleStart parseDuration true (.ok req) status).events (store other) s)) :
    ∃ i appName gateways devices, newSimulation i (simulatorConfig parseDuration sim.tenantID appName
        gateways devices (synced (readIntervals s.intervals other) s.rows sim.tenantID)
        s.intervals.rows) = .ok sim := by
  rw [launched_store, launched_handleStart parseDuration _ _ hvalid hstatus] at hsim
  obtain ⟨i, hi⟩ := List.mem_iff_getElem?.mp hsim
  obtain ⟨c, hc, hnew⟩ := Resolution.getElem?_launchedFrom hi
  obtain ⟨f, -, rfl⟩ := List.mem_map.mp (List.mem_of_getElem? hc)
  have htenant : sim.tenantID = f.tenantID := (Resolution.startedAs_of_newSimulation hnew).tenantID
  rw [htenant]
  exact ⟨0 + i, f.app.name, f.gateways, f.devices, hnew⟩

/-- The options of a device that a run of a simulation makes. -/
theorem options_of_made (hmade : Made lib parseDuration other s req status sim opts) :
    ∃ loaded deviceIdx appKey gateways,
      opts = deviceOptions sim loaded deviceIdx opts.devEUI appKey gateways := by
  obtain ⟨-, σ, env, w, fuel, e, he, hcall⟩ := hmade
  have hgiven : MakesAsGiven sim e.call :=
    ((asGiven_start lib sim fuel).of_run fun _ _ => trivial).1 e he
  rw [hcall] at hgiven
  exact hgiven

/-- What a device is given of its tenant's configuration: a field that an entry copies, that `Start`
    copies and that a generated configuration has at its zero value. -/
theorem copied_made {α : Type} (ofRow : Option StartRequest → α) (ofEntry : SimulatorConfig → α)
    (ofSim : Simulation → α)
    (hentry : ∀ tenantID appName gateways devices orgCfg devIntervals,
      ofEntry (simulatorConfig parseDuration tenantID appName gateways devices orgCfg devIntervals)
        = ofRow orgCfg)
    (hstart : ∀ i c sim, newSimulation i c = .ok sim → ofSim sim = ofEntry c)
    (hgenerated : ∀ tenantID deviceCount appName pre,
      ofRow (some (stored (sanitize (missingConfig tenantID deviceCount appName pre)))) = ofRow none)
    (hvalid : validateStartRequest parseDuration req = .ok ())
    (hstatus : status = .idle ∨ status = .error)
    (hmade : Made lib parseDuration other s req status sim opts) :
    ofSim sim = ofRow (s.rows sim.tenantID) := by
  obtain ⟨i, appName, gateways, devices, hnew⟩ := entry_of_launched hvalid hstatus hmade.1
  rw [hstart _ _ _ hnew, hentry]
  exact synced_same _ s.rows ofRow hgenerated sim.tenantID

theorem packetLoss_made (hvalid : validateStartRequest parseDuration req = .ok ())
    (hstatus : status = .idle ∨ status = .error)
    (hmade : Made lib parseDuration other s req status sim opts) :
    opts.packetLoss = ((s.rows sim.tenantID).map StartRequest.packetLoss).getD 0 := by
  obtain ⟨loaded, deviceIdx, appKey, gateways, hopts⟩ := options_of_made hmade
  rw [hopts]
  refine copied_made (fun orgCfg => (orgCfg.map StartRequest.packetLoss).getD 0)
    SimulatorConfig.packetLoss Simulation.packetLoss (fun _ _ _ _ _ _ => rfl) ?_
    (fun _ _ _ _ => rfl) hvalid hstatus hmade
  intro i c sim hnew
  unfold newSimulation at hnew
  split at hnew
  · cases hnew
  · cases hnew
    rfl

theorem anomalyProbability_made (hvalid : validateStartRequest parseDuration req = .ok ())
    (hstatus : status = .idle ∨ status = .error)
    (hmade : Made lib parseDuration other s req status sim opts) :
    opts.anomalyProbability
      = ((s.rows sim.tenantID).map StartRequest.anomalyProbability).getD 0 := by
  obtain ⟨loaded, deviceIdx, appKey, gateways, hopts⟩ := options_of_made hmade
  rw [hopts]
  refine copied_made (fun orgCfg => (orgCfg.map StartRequest.anomalyProbability).getD 0)
    SimulatorConfig.anomalyProbability Simulation.anomalyProbability (fun _ _ _ _ _ _ => rfl) ?_
    (fun _ _ _ _ => rfl) hvalid hstatus hmade
  intro i c sim hnew
  unfold newSimulation at hnew
  split at hnew
  · cases hnew
  · cases hnew
    rfl

/-- The names of the anomalies are the trimmed parts of the saved text, none of them empty. -/
theorem anomalyTypes_made (hmade : Made lib parseDuration other s req status sim opts) :
    ∀ t ∈ opts.anomalyTypes, t ≠ "" := by
  obtain ⟨loaded, deviceIdx, appKey, gateways, hopts⟩ := options_of_made hmade
  rw [hopts]
  intro t ht
  have ht' : t ∈ splitAnomalyTypes sim.anomalyTypes := ht
  simpa using (List.mem_filter.mp ht').2

end

/-! ## `sendUplink` -/

/-- What becomes of a frame at one gateway: the packet-loss simulation drops it, or it is handed over,
    after so many milliseconds. -/
inductive Fate
  | dropped
  | sent (latencyMs : Int)
  deriving DecidableEq, Repr

/-- The frame is handed over, at once or by `time.AfterFunc`. -/
def handedOver (opts : DeviceOptions) : Fate :=
  .sent (if 0 < opts.latencyMs then opts.latencyMs else 0)

/-- The loop over the gateways; `mrand.Float64` is called only for a device that loses packets. -/
def gatewayLoop (opts : DeviceOptions) : List Nat → (Nat → ℚ) → List (Nat × Fate)
  | [], _ => []
  | gateway :: gateways, draws =>
    if 0 < opts.packetLoss then
      (gateway, if mul (draws 0) 100 < opts.packetLoss then .dropped else handedOver opts)
        :: gatewayLoop opts gateways fun n => draws (n + 1)
    else (gateway, handedOver opts) :: gatewayLoop opts gateways draws

/-- `sendUplink`, with the marshalled frame. -/
def sendUplink (opts : DeviceOptions) (b : Except String (List UInt8)) (draws : Nat → ℚ) :
    Except String (List (Nat × Fate)) :=
  match b with
  | .error e => .error ("marshal phypayload error: " ++ e)
  | .ok _ => .ok (gatewayLoop opts opts.gateways draws)

/-- A frame meets one fate at every gateway of the device, in their order. -/
theorem map_fst_gatewayLoop (opts : DeviceOptions) (gateways : List Nat) (draws : Nat → ℚ) :
    (gatewayLoop opts gateways draws).map Prod.fst = gateways := by
  induction gateways generalizing draws with
  | nil => rfl
  | cons gateway gateways ih =>
    unfold gatewayLoop
    split <;> rw [List.map_cons, ih]

/-- The `i`-th draw is for the `i`-th gateway, and it drops the frame when a hundred times it is
    below the packet loss, in double precision. -/
theorem fate_dropped_iff (opts : DeviceOptions) {gateways : List Nat} {draws : Nat → ℚ} {i : Nat}
    {gateway : Nat} {fate : Fate} (h : (gatewayLoop opts gateways draws)[i]? = some (gateway, fate)) :
    fate = .dropped ↔ 0 < opts.packetLoss ∧ mul (draws i) 100 < opts.packetLoss := by
  induction gateways generalizing draws i with
  | nil => exact absurd h (by simp [gatewayLoop])
  | cons g gateways ih =>
    unfold gatewayLoop at h
    by_cases hloss : 0 < opts.packetLoss
    · rw [if_pos hloss] at h
      cases i with
      | zero =>
        obtain ⟨-, rfl⟩ := Prod.mk.inj (Option.some.inj h)
        by_cases hdraw : mul (draws 0) 100 < opts.packetLoss
        · rw [if_pos hdraw]
          exact iff_of_true rfl ⟨hloss, hdraw⟩
        · rw [if_neg hdraw]
          exact iff_of_false Fate.noConfusion fun hboth => hdraw hboth.2
      | succ i =>
        have hrest := ih h
        exact hrest
    · rw [if_neg hloss] at h
      refine iff_of_false ?_ fun hboth => hloss hboth.1
      cases i with
      | zero =>
        obtain ⟨-, rfl⟩ := Prod.mk.inj (Option.some.inj h)
        exact Fate.noConfusion
      | succ i => exact fun hdropped => hloss ((ih h).mp hdropped).1

/-- A draw of zero drops the frame at the first gateway of a device that loses packets. -/
theorem dropped_at_zero {opts : DeviceOptions} (hloss : 0 < opts.packetLoss)
    (hgateways : opts.gateways ≠ []) :
    ∃ gateway, (gatewayLoop opts opts.gateways fun _ => 0)[0]? = some (gateway, .dropped) := by
  obtain ⟨gateway, gateways, hcons⟩ := List.exists_cons_of_ne_nil hgateways
  refine ⟨gateway, ?_⟩
  rw [hcons, gatewayLoop, if_pos hloss, mul, zero_mul, round_zero, if_pos hloss]
  rfl

/-- What `mrand.Float64` gives. -/
def InRange (draws : Nat → ℚ) : Prop := ∀ n, 0 ≤ draws n ∧ draws n < 1

/-- A hundred times a draw is not negative in double precision either. -/
theorem mul_draw_nonneg {draw : ℚ} (hdraw : 0 ≤ draw ∧ draw < 1) : 0 ≤ mul draw 100 := by
  have hzero : IsDouble 0 := by exact_mod_cast isDouble_intCast (show |(0 : ℤ)| < 2 ^ 53 by norm_num)
  have hsmall : |draw * 100| < 2 ^ 1023 := by
    rw [abs_of_nonneg (by linarith [hdraw.1])]
    calc draw * 100 < 2 ^ 7 := by linarith [hdraw.2]
      _ < 2 ^ 1023 := pow_lt_pow_right₀ (by norm_num) (by norm_num)
  exact le_of_rounds (rounds_round hsmall) hzero (by linarith [hdraw.1])

/-- The rule of the switch, for a device of an organisation with the configuration `cfg`: a frame is
    dropped at a gateway exactly when the switch is on and a hundred times the draw for it, as `times`
    multiplies, is below the packet loss. -/
def SwitchRules (times : ℚ → ℚ → ℚ) (cfg : StartRequest) (opts : DeviceOptions)
    (draws : Nat → ℚ) : Prop :=
  ∀ b fates, sendUplink opts b draws = .ok fates →
    ∀ i gateway fate, fates[i]? = some (gateway, fate) →
      (fate = .dropped ↔ cfg.simulatePacketLoss = true ∧ times (draws i) 100 < cfg.packetLoss)

/-- It is a rule of the loop over the gateways: a frame that cannot be marshalled comes to none. -/
theorem switch_rules_loop_iff {times : ℚ → ℚ → ℚ} {cfg : StartRequest} {opts : DeviceOptions}
    {draws : Nat → ℚ} : SwitchRules times cfg opts draws ↔ ∀ i gateway fate,
      (gatewayLoop opts opts.gateways draws)[i]? = some (gateway, fate) →
        (fate = .dropped ↔
          cfg.simulatePacketLoss = true ∧ times (draws i) 100 < cfg.packetLoss) := by
  constructor
  · intro hrules
    exact hrules (.ok []) _ rfl
  · intro hloop b fates hsend
    cases b with
    | error e => cases hsend
    | ok bytes =>
      cases hsend
      exact hloop

/-- With the switch on, multiplying in another way makes a difference only where it falls on the other
    side of the packet loss. -/
theorem switch_rules_times_iff {times : ℚ → ℚ → ℚ} {cfg : StartRequest} {opts : DeviceOptions}
    {draws : Nat → ℚ} (hloss : opts.packetLoss = cfg.packetLoss)
    (hon : cfg.simulatePacketLoss = true) (hdraws : InRange draws) :
    SwitchRules times cfg opts draws ↔ ∀ i < opts.gateways.length,
      (mul (draws i) 100 < cfg.packetLoss ↔ times (draws i) 100 < cfg.packetLoss) := by
  -- a draw below the packet loss drops the frame: then the packet loss is positive
  have hfate : ∀ {i gateway fate},
      (gatewayLoop opts opts.gateways draws)[i]? = some (gateway, fate) →
        (fate = .dropped ↔ mul (draws i) 100 < cfg.packetLoss) := by
    intro i gateway fate h
    rw [fate_dropped_iff opts h, hloss]
    exact and_iff_right_of_imp fun hbelow => lt_of_le_of_lt (mul_draw_nonneg (hdraws i)) hbelow
  rw [switch_rules_loop_iff]
  constructor
  · intro hrules i hi
    have hlength : (gatewayLoop opts opts.gateways draws).length = opts.gateways.length := by
      rw [← List.length_map (f := Prod.fst), map_fst_gatewayLoop]
    have hget := List.getElem?_eq_getElem (hlength.symm ▸ hi)
    rw [← hfate hget, hrules i _ _ hget]
    exact and_iff_right hon
  · intro hsame i gateway fate hget
    have hi : i < opts.gateways.length := by
      have hlt := (List.getElem?_eq_some_iff.mp hget).1
      rwa [← List.length_map (f := Prod.fst), map_fst_gatewayLoop] at hlt
    rw [hfate hget, hsame i hi]
    exact (and_iff_right hon).symm

/-- The store after a history of saved configurations. -/
def savedStore (saves : List OrgConfigs.Save) (intervals : IntervalTable) : Store :=
  ⟨OrgConfigs.held saves, intervals⟩

theorem rows_savedStore {saves : List OrgConfigs.Save} (intervals : IntervalTable) {orgID : String}
    {cfg : StartRequest} (hsaved : OrgConfigs.lastSaved saves orgID = some cfg) :
    (savedStore saves intervals).rows orgID = some (stored cfg) := by
  show (OrgConfigs.lastSaved saves orgID).map stored = _
  rw [hsaved]
  rfl

/-- **When the switch rules.**  A device that a start makes for an organisation with a saved
    configuration keeps the rule of the switch, whatever is drawn, exactly if the switch is on, or the
    packet loss is zero, or the device has no gateway: the switch itself never reaches it.

    With the switch on, the rule holds also of the exact product but for draws whose product is
    rounded across the packet loss. -/
theorem switch_rules_iff {lib : Parsers} {parseDuration : String → Except String Int}
    {other : (c : Call) → c.Answer} {saves : List OrgConfigs.Save} {intervals : IntervalTable}
    {req : StartRequest} {status : Status} {sim : Simulation} {opts : DeviceOptions}
    {cfg : StartRequest} (hvalid : validateStartRequest parseDuration req = .ok ())
    (hstatus : status = .idle ∨ status = .error)
    (hmade : Made lib parseDuration other (savedStore saves intervals) req status sim opts)
    (hsaved : OrgConfigs.lastSaved saves sim.tenantID = some cfg) :
    ((∀ draws, InRange draws → SwitchRules mul cfg opts draws) ↔
      cfg.simulatePacketLoss = true ∨ cfg.packetLoss ≤ 0 ∨ opts.gateways = []) ∧
    (cfg.simulatePacketLoss = true → ∀ draws, InRange draws →
      (SwitchRules (· * ·) cfg opts draws ↔ ∀ i < opts.gateways.length,
        (mul (draws i) 100 < cfg.packetLoss ↔ draws i * 100 < cfg.packetLoss))) := by
  have hloss : opts.packetLoss = cfg.packetLoss := by
    rw [packetLoss_made hvalid hstatus hmade, rows_savedStore intervals hsaved]
    rfl
  refine ⟨⟨?_, ?_⟩, fun hon draws hdraws => switch_rules_times_iff hloss hon hdraws⟩
  · intro hrules
    by_contra hnone
    rw [not_or, not_or, Bool.not_eq_true, not_le] at hnone
    obtain ⟨hoff, hpos, hgateways⟩ := hnone
    obtain ⟨gateway, hfate⟩ := dropped_at_zero (by rw [hloss]; exact hpos) hgateways
    have hzero := hrules (fun _ => 0) fun _ => ⟨le_refl 0, one_pos⟩
    have hdropped := (switch_rules_loop_iff.mp hzero 0 gateway .dropped hfate).mp rfl
    rw [hoff] at hdropped
    exact Bool.noConfusion hdropped.1
  · intro hcases draws hdraws
    rcases hcases with hon | hzero | hgateways
    · exact (switch_rules_times_iff hloss hon hdraws).mpr fun _ _ => Iff.rfl
    · refine switch_rules_loop_iff.mpr fun i gateway fate hfate => ?_
      rw [fate_dropped_iff opts hfate, hloss]
      have hnonneg := mul_draw_nonneg (hdraws i)
      refine iff_of_false (fun hboth => absurd hboth.1 (not_lt.mpr hzero)) fun hboth => ?_
      linarith [hboth.2]
    · refine switch_rules_loop_iff.mpr fun i gateway fate hfate => ?_
      rw [hgateways] at hfate
      exact absurd hfate (by simp [gatewayLoop])

/-! ## The dice of `dataUp` -/

/-- `NewDevice` with the options of `runSimulation`. -/
def newDevice (opts : DeviceOptions) : Device :=
  { Device.zero with
    devEUI := opts.devEUI
    deviceName := opts.deviceName
    appKey := opts.appKey
    confirmed := false
    fPort := opts.fPort
    payload := opts.payload
    payloadScript := opts.payloadScript
    anomalyProbability := opts.anomalyProbability
    anomalyTypes := opts.anomalyTypes
    anomalyDuration := opts.anomalyDuration
    randomDevNonce := true }

/-- The device still has the two settings of its options that the dice read. -/
def Configured (opts : DeviceOptions) (d : Device) : Prop :=
  d.anomalyProbability = opts.anomalyProbability ∧ d.anomalyTypes = opts.anomalyTypes

theorem configured_newDevice (opts : DeviceOptions) : Configured opts (newDevice opts) := ⟨rfl, rfl⟩

/-- The rule of the percentage `p`, for the device in every state: where no anomaly is active and there
    are types to choose from, a draw starts an anomaly exactly when a hundred times it is below
    `p`. -/
def PercentageRules (p : ℚ) (opts : DeviceOptions) : Prop :=
  ∀ (d : Device) (r : DataUp.Draws), Configured opts d → d.manualAnomalyActive = false →
    d.activeAnomalyType = "" → d.anomalyTypes ≠ [] → 0 ≤ r.float → r.float < 1 →
      ((DataUp.chooseAnomaly d r).1.activeAnomalyType ≠ "" ↔ r.float * 100 < p)

/-- The dice of a device that has no anomaly: one starts exactly if they hit. -/
theorem anomaly_starts_iff {d : Device} {r : DataUp.Draws} (htypes : ∀ t ∈ d.anomalyTypes, t ≠ "")
    (hmanual : d.manualAnomalyActive = false) (hactive : d.activeAnomalyType = "") :
    (DataUp.chooseAnomaly d r).1.activeAnomalyType ≠ "" ↔ DataUp.Hits d r := by
  obtain ⟨h, -⟩ | ⟨-, h, -⟩ | ⟨-, -, hhits, hc⟩ | ⟨-, -, hhits, hc⟩ := DataUp.chooseAnomaly_cases d r
  · rw [hmanual] at h
    cases h
  · exact absurd hactive h
  · rw [hc]
    have hpos : 0 < d.anomalyTypes.length := List.length_pos_iff.mpr hhits.2.1
    have hlt := Nat.mod_lt r.index hpos
    refine iff_of_true (htypes _ ?_) hhits
    show d.anomalyTypes.getD (r.index % d.anomalyTypes.length) "" ∈ d.anomalyTypes
    rw [List.getD_eq_getElem?_getD, List.getElem?_eq_getElem hlt]
    exact List.getElem_mem hlt
  · rw [hc]
    exact iff_of_false (fun h => h hactive) hhits

/-- **When the percentage rules.**  A device that a start makes for an organisation with a saved
    configuration keeps the rule of its anomaly probability exactly if that is zero or a hundred
    percent, or there is no type of anomaly: the dice compare the bare draw with it. -/
theorem percentage_rules_iff {lib : Parsers} {parseDuration : String → Except String Int}
    {other : (c : Call) → c.Answer} {saves : List OrgConfigs.Save} {intervals : IntervalTable}
    {req : StartRequest} {status : Status} {sim : Simulation} {opts : DeviceOptions}
    {cfg : StartRequest} (hvalid : validateStartRequest parseDuration req = .ok ())
    (hstatus : status = .idle ∨ status = .error)
    (hmade : Made lib parseDuration other (savedStore saves intervals) req status sim opts)
    (hsaved : OrgConfigs.lastSaved saves sim.tenantID = some cfg) :
    PercentageRules cfg.anomalyProbability opts ↔
      cfg.anomalyProbability ≤ 0 ∨ 100 ≤ cfg.anomalyProbability ∨ opts.anomalyTypes = [] := by
  have hprobability : opts.anomalyProbability = cfg.anomalyProbability := by
    rw [anomalyProbability_made hvalid hstatus hmade, rows_savedStore intervals hsaved]
    rfl
  have htypes := anomalyTypes_made hmade
  constructor
  · intro hrules
    by_contra hnone
    rw [not_or, not_or, not_le, not_le] at hnone
    obtain ⟨hpos, hlt, hsome⟩ := hnone
    -- the draw `p / 100` hits, although a hundred times it is not below `p`
    have hdraw : ∀ r : DataUp.Draws, r.float = cfg.anomalyProbability / 100 → False := by
      intro r hr
      have hnonneg : 0 ≤ r.float := by
        rw [hr]
        linarith
      have hone : r.float < 1 := by
        rw [hr]
        linarith
      have hbelow : r.float < cfg.anomalyProbability := by
        rw [hr]
        linarith
      have hrule := hrules (newDevice opts) r (configured_newDevice opts) rfl rfl hsome hnonneg hone
      rw [anomaly_starts_iff htypes rfl rfl] at hrule
      have hhits : DataUp.Hits (newDevice opts) r := by
        refine ⟨?_, hsome, ?_⟩
        · show 0 < opts.anomalyProbability
          rw [hprobability]
          exact hpos
        · show r.float < opts.anomalyProbability
          rw [hprobability]
          exact hbelow
      have hscaled := hrule.mp hhits
      rw [hr] at hscaled
      linarith
    exact hdraw ⟨cfg.anomalyProbability / 100, 0, 0⟩ rfl
  · intro hcases d r hconfigured hmanual hactive hsome hnonneg hone
    obtain ⟨hp, ht⟩ := hconfigured
    rw [anomaly_starts_iff (by rw [ht]; exact htypes) hmanual hactive]
    unfold DataUp.Hits
    rw [hp, hprobability]
    rcases hcases with hzero | hall | hnone
    · refine iff_of_false (fun h => absurd h.1 (not_lt.mpr hzero)) ?_
      linarith
    · refine iff_of_true ⟨by linarith, hsome, by linarith⟩ ?_
      linarith
    · rw [ht] at hsome
      exact absurd hnone hsome

/-! ## An organisation with a rate and the switch off -/

/-- Ten percent of packet loss behind a switch that is off, one percent of anomalies. -/
def ratedConfig : StartRequest :=
  { missingConfig "acme" 1 "sensors" "sim-dev" with
    packetLoss := 10
    anomalyProbability := 1
    anomalyTypes := "spike" }

def ratedSaves : List OrgConfigs.Save := [⟨"acme", ratedConfig, 0⟩]

/-- The simulation a start launches with it. -/
def ratedSimulation : Simulation :=
  { letterSimulation [] with
    packetLoss := 10
    anomalyProbability := 1
    anomalyTypes := "spike"
    anomalyDuration := 0 }

theorem lastSaved_ratedSaves : OrgConfigs.lastSaved ratedSaves "acme" = some ratedConfig := by
  decide +kernel

theorem splitAnomalyTypes_spike : splitAnomalyTypes "spike" = ["spike"] := by
  have hsplit : "spike".splitOn "," = ["spike"] := by
    unfold String.splitOn
    rw [if_neg (by decide)]
    iterate 5 rw [String.splitOnAux, if_neg (by decide), if_neg (by decide)]
    rw [String.splitOnAux, if_pos (by decide)]
    decide
  rw [splitAnomalyTypes, hsplit]
  decide

/-- Its device comes into being, with one gateway and one type of anomaly. -/
theorem made_rated : ∃ opts, opts.gateways ≠ [] ∧ opts.anomalyTypes ≠ [] ∧
    Made .plain someDurations (Call.answer letterDevice) (savedStore ratedSaves .empty) .empty .idle
      ratedSimulation opts := by
  have hinit : (init .plain ratedSimulation 1 .empty).result (steady (Call.answer letterDevice)) ()
      = (letterLoaded, .ok) := rfl
  have hafter : ∃ opts, opts.gateways ≠ [] ∧ opts.anomalyTypes = splitAnomalyTypes "spike" ∧
      ∃ e ∈ (afterInit .plain ratedSimulation 1 letterLoaded).events
        (steady (Call.answer letterDevice)) (), e.call = .newDevice opts :=
    ⟨_, List.cons_ne_nil _ _, rfl, _, List.mem_cons_of_mem _ (List.mem_cons_of_mem _
      (List.mem_cons_of_mem _ List.mem_cons_self)), rfl⟩
  obtain ⟨opts, hgateways, htypes, e, he, hcall⟩ := hafter
  refine ⟨opts, hgateways, ?_, ?_, Unit, steady (Call.answer letterDevice), (), 1, e, ?_, hcall⟩
  · rw [htypes, splitAnomalyTypes_spike]
    exact List.cons_ne_nil _ _
  · have hpayload : Hex.decode "001903F521" = some [0, 25, 3, 245, 33] := by decide
    have hlaunched : launchedFrom 0 [simulatorConfig someDurations "acme" "sensors" 1 1
        (some (stored ratedConfig)) []] = [ratedSimulation] := by
      unfold launchedFrom newSimulation
      have hdefault : (simulatorConfig someDurations "acme" "sensors" 1 1
          (some (stored ratedConfig)) []).device.payload = "001903F521" := rfl
      rw [hdefault, hpayload]
      rfl
    rw [launched_store, launched_handleStart someDurations _ _ rfl (Or.inl rfl)]
    show _ ∈ launchedFrom 0 [simulatorConfig someDurations "acme" "sensors" 1 1
      (some (stored ratedConfig)) []]
    rw [hlaunched]
    exact List.mem_singleton.mpr rfl
  · unfold start
    rw [Prog.events_bind, hinit]
    exact List.mem_append_right _ he

/-- The rule of the switch at that device. -/
theorem switch_rules_rated : ∃ sim opts, Made .plain someDurations (Call.answer letterDevice)
    (savedStore ratedSaves .empty) .empty .idle sim opts ∧
      ((∀ draws, InRange draws → SwitchRules mul ratedConfig opts draws) ↔
        ratedConfig.simulatePacketLoss = true ∨ ratedConfig.packetLoss ≤ 0 ∨ opts.gateways = []) := by
  obtain ⟨opts, -, -, hmade⟩ := made_rated
  exact ⟨ratedSimulation, opts, hmade,
    (switch_rules_iff rfl (Or.inl rfl) hmade lastSaved_ratedSaves).1⟩

/-- The switch is off, and a draw of zero drops the frame all the same. -/
theorem switch_ignored : ∃ sim opts, Made .plain someDurations (Call.answer letterDevice)
    (savedStore ratedSaves .empty) .empty .idle sim opts ∧
      OrgConfigs.lastSaved ratedSaves sim.tenantID = some ratedConfig ∧
      ratedConfig.simulatePacketLoss = false ∧
      (∃ gateway, (gatewayLoop opts opts.gateways fun _ => 0)[0]? = some (gateway, .dropped)) ∧
      ¬ ∀ draws, InRange draws → SwitchRules mul ratedConfig opts draws := by
  obtain ⟨opts, hgateways, -, hmade⟩ := made_rated
  have hloss : opts.packetLoss = 10 := packetLoss_made rfl (Or.inl rfl) hmade
  obtain ⟨gateway, hfate⟩ := dropped_at_zero (by rw [hloss]; decide) hgateways
  refine ⟨ratedSimulation, opts, hmade, lastSaved_ratedSaves, rfl, ⟨gateway, hfate⟩, fun hrules => ?_⟩
  have hdropped := (hrules (fun _ => 0) (fun _ => ⟨le_refl 0, one_pos⟩) (.ok []) _ rfl 0 gateway
    .dropped hfate).mp rfl
  exact absurd hdropped.1 (by decide)

/-- The rule of the percentage at that device. -/
theorem percentage_rules_rated : ∃ sim opts, Made .plain someDurations (Call.answer letterDevice)
    (savedStore ratedSaves .empty) .empty .idle sim opts ∧
      (PercentageRules ratedConfig.anomalyProbability opts ↔ ratedConfig.anomalyProbability ≤ 0 ∨
        100 ≤ ratedConfig.anomalyProbability ∨ opts.anomalyTypes = []) := by
  obtain ⟨opts, -, -, hmade⟩ := made_rated
  exact ⟨ratedSimulation, opts, hmade,
    percentage_rules_iff rfl (Or.inl rfl) hmade lastSaved_ratedSaves⟩

/-- One percent is saved, and a draw of one half starts an anomaly. -/
theorem one_percent_is_always : ∃ sim opts, Made .plain someDurations (Call.answer letterDevice)
    (savedStore ratedSaves .empty) .empty .idle sim opts ∧
      OrgConfigs.lastSaved ratedSaves sim.tenantID = some ratedConfig ∧
      ratedConfig.anomalyProbability = 1 ∧
      (DataUp.chooseAnomaly (newDevice opts) ⟨1 / 2, 0, 0⟩).1.activeAnomalyType ≠ "" ∧
      ¬ PercentageRules ratedConfig.anomalyProbability opts := by
  obtain ⟨opts, -, htypes, hmade⟩ := made_rated
  have hprobability : opts.anomalyProbability = 1 := anomalyProbability_made rfl (Or.inl rfl) hmade
  have hhits : DataUp.Hits (newDevice opts) ⟨1 / 2, 0, 0⟩ := by
    refine ⟨?_, htypes, ?_⟩
    · show 0 < opts.anomalyProbability
      rw [hprobability]
      exact one_pos
    · show (1 / 2 : ℚ) < opts.anomalyProbability
      rw [hprobability]
      norm_num
  have hstarts := (anomaly_starts_iff (d := newDevice opts) (anomalyTypes_made hmade) rfl rfl).mpr hhits
  refine ⟨ratedSimulation, opts, hmade, lastSaved_ratedSaves, rfl, hstarts, fun hrules => ?_⟩
  have hscaled := (hrules (newDevice opts) ⟨1 / 2, 0, 0⟩ (configured_newDevice opts) rfl rfl htypes
    (by norm_num) (by norm_num)).mp hstarts
  have hbelow : (1 / 2 : ℚ) * 100 < 1 := hscaled
  norm_num at hbelow

end ChirpStackSimulator.Degradation
