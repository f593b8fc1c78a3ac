/-
  The settings form of an organisation (`orgs.js`) at the saved configurations.

  `loadOrgConfig` writes a configuration into the fields of the drawer, `saveOrgConfig` reads the
  fields and posts them, and the server stores what it is sent.  On the way an empty or zero value
  becomes a default, texts lose the blanks at their ends and their line breaks, and the anomaly types
  are those that have a check box.

  1. **Fields** — `loadOrgConfig` and `saveOrgConfig`, with the checks of the latter.
  2. **Saving what was loaded** (`resave`) — field by field.
  3. **The law** (`resave_stable`) — a configuration that is opened and saved unchanged is stored as it
     was exactly if it is `Normal`, and it is normal after two such saves at the latest.

  Configurations have a tenant id; without one the drawer shows the defaults of the browser instead.
  The organisation's name, which is saved by a request of its own, is left out.
-/
import ChirpStackSimulator.StartRequest
import ChirpStackSimulator.Lib.JsNumber
import ChirpStackSimulator.Lib.JsText

namespace ChirpStackSimulator.OrgForm

open JsText

/-! ## Fields -/

/-- The values of the fields; `chosenTypes` are those of the boxes that are checked. -/
structure Form where
  tenantID : String
  appName : String
  devicePrefix : String
  duration : String
  activationTime : String
  uplinkInterval : String
  fPort : String
  payload : String
  frequency : String
  bandwidth : String
  spreadingFactor : String
  eventTopicTemplate : String
  commandTopicTemplate : String
  packetLoss : String
  simulatePacketLoss : Bool
  latencyMs : String
  payloadScript : String
  anomalyProbability : String
  anomalyDuration : String
  chosenTypes : List String
  deriving DecidableEq

/-- What the browser makes of a number with a fraction and of a text that should be one. -/
structure Numerals where
  toText : ℚ → String
  parseFloat : String → Option ℚ

/-- A number that is shown is read back. -/
def Numerals.Reads (num : Numerals) (x : ℚ) : Prop := num.parseFloat (num.toText x) = some x

/-- A whole number in the browser. -/
def asDouble (n : Int) : Int := n.sign * JsNumber.nearest n.natAbs

/-- A whole number in a number field; one of 16 digits or more may be shown with other digits. -/
def shownInt (n : Int) : String := toString (asDouble n)

/-- A number field as it is sent: `NaN` becomes `null`, which leaves the field at zero. -/
def sentInt (value : String) : Int := asDouble ((parseInt value).getD 0)

/-- The values of the check boxes. -/
def anomalyTypeCheckboxes : List String := ["spike", "flatline", "dropout", "drift"]

/-- `types.includes(cb.value)` for each box, where `types` are the parts between commas. -/
def checkedTypes (anomalyTypes : String) : List String :=
  anomalyTypeCheckboxes.filter fun value => value.toList ∈ anomalyTypes.toList.splitOn ','

/-- `chosenTypes.join(",")`. -/
def joinTypes (chosenTypes : List String) : String :=
  String.ofList ([','].intercalate (chosenTypes.map String.toList))

/-- The units of a duration. -/
def durationUnits : List String := ["ns", "us", "µs", "ms", "s", "m", "h"]

/-- `str.match(/^(\d+)(ns|us|µs|ms|s|m|h)$/)`. -/
def matchDuration (str : String) : Option (Nat × String) :=
  let digits := str.toList.takeWhile Char.isDigit
  let unit := String.ofList (str.toList.dropWhile Char.isDigit)
  if digits ≠ [] ∧ unit ∈ durationUnits then some (Nat.ofDigitChars 10 digits 0, unit) else none

/-- `validateDuration` of the form. -/
def validateDuration (str : String) : Bool := (matchDuration str).isSome

/-- Refuses zero, milliseconds below a second, and all smaller units. -/
def validateUplinkInterval (str : String) : Bool :=
  match matchDuration str with
  | none => false
  | some (val, unit) =>
    !(unit = "ms" && val < 1000) && !(unit = "ns" || unit = "us" || unit = "µs") && val ≠ 0

section
variable (num : Numerals)

/-- `loadOrgConfig` for a configuration with a tenant id. -/
def loadOrgConfig (orgName : String) (data : StartRequest) : Form where
  tenantID := fieldValue data.tenantID
  appName := fieldValue (orDefault data.appName "" orgName)
  devicePrefix := fieldValue (orDefault data.devicePrefix "" "sim-dev")
  duration := fieldValue (orDefault data.duration "" "5m")
  activationTime := fieldValue (orDefault data.activationTime "" "1m")
  uplinkInterval := fieldValue (orDefault data.uplinkInterval "" "5m")
  fPort := shownInt (orDefault data.fPort 0 10).toNat
  payload := fieldValue (orDefault data.payload "" "010203")
  frequency := shownInt (orDefault data.frequency 0 868100000)
  bandwidth := shownInt (orDefault data.bandwidth 0 125000)
  spreadingFactor := shownInt (orDefault data.spreadingFactor 0 7)
  eventTopicTemplate := fieldValue (orDefault data.eventTopicTemplate "" defaultEventTopicTemplate)
  commandTopicTemplate :=
    fieldValue (orDefault data.commandTopicTemplate "" defaultCommandTopicTemplate)
  packetLoss := num.toText data.packetLoss
  simulatePacketLoss := data.simulatePacketLoss
  latencyMs := shownInt data.latencyMs
  payloadScript := areaValue data.payloadScript
  anomalyProbability := num.toText data.anomalyProbability
  anomalyDuration := shownInt data.anomalyDuration
  chosenTypes := checkedTypes data.anomalyTypes

/-- What `saveOrgConfig` lets pass. -/
def Form.Accepted (f : Form) : Prop :=
  validateUplinkInterval (trim f.uplinkInterval) = true ∧
    (trim f.duration = "" ∨ trim f.duration = "0s" ∨ validateDuration (trim f.duration) = true) ∧
    (trim f.activationTime = "" ∨ validateDuration (trim f.activationTime) = true)

instance (f : Form) : Decidable f.Accepted := by
  unfold Form.Accepted
  infer_instance

/-- The body that `saveOrgConfig` posts, as the server decodes it: a port that is no byte is refused.
    There are no fields for the two counts, which come from `state.activeOrgConfig`. -/
def saveOrgConfig (active : StartRequest) (f : Form) : Option StartRequest :=
  if f.Accepted ∧ 0 ≤ sentInt f.fPort ∧ sentInt f.fPort < 256 then
    some {
      tenantID := trim f.tenantID
      appName := trim f.appName
      devicePrefix := trim f.devicePrefix
      deviceCount := orDefault (asDouble active.deviceCount) 0 5
      gatewayCount := orDefault (asDouble active.gatewayCount) 0 2
      duration := trim f.duration
      activationTime := trim f.activationTime
      uplinkInterval := trim f.uplinkInterval
      fPort := UInt8.ofInt (sentInt f.fPort)
      payload := trim f.payload
      frequency := sentInt f.frequency
      bandwidth := sentInt f.bandwidth
      spreadingFactor := sentInt f.spreadingFactor
      eventTopicTemplate := trim f.eventTopicTemplate
      commandTopicTemplate := trim f.commandTopicTemplate
      packetLoss := (num.parseFloat f.packetLoss).getD 0
      simulatePacketLoss := f.simulatePacketLoss
      latencyMs := sentInt f.latencyMs
      payloadScript := f.payloadScript
      anomalyProbability := (num.parseFloat f.anomalyProbability).getD 0
      anomalyDuration := orDefault (sentInt f.anomalyDuration) 0 5
      anomalyTypes := joinTypes f.chosenTypes
      passiveMode := false
      syncIntervalMinutes := 0 }
  else none

variable (parseDuration : String → Except String Int)

/-- `handleSaveOrgConfig`: what is stored of the body, if it is accepted. -/
def storeOrgConfig (req : StartRequest) : Option StartRequest :=
  match validateStartRequest parseDuration req with
  | .error _ => none
  | .ok () => some (sanitize req)

/-- A configuration that is opened in the drawer and saved: what is stored, if it is accepted.  One
    without a tenant id is not shown. -/
def resave (orgName : String) (data : StartRequest) : Option StartRequest :=
  if data.tenantID = "" then none
  else (saveOrgConfig num data (loadOrgConfig num orgName data)).bind (storeOrgConfig parseDuration)

end

/-! ## Values -/

/-- A text that is shown, with its default, and sent. -/
def sentText (d v : String) : String := trim (fieldValue (orDefault v "" d))

/-- A value that replaces `zero` by what becomes of `d`, and is cleaned by `f`, settles in two
    rounds. -/
theorem replaced_settles {α : Type} [DecidableEq α] {f : α → α} (hf : ∀ v, f (f v) = f v)
    (zero d v : α) : f (orDefault (f (orDefault (f (orDefault v zero d)) zero d)) zero d) =
      f (orDefault (f (orDefault v zero d)) zero d) := by
  have hclean : ∃ w, f (orDefault v zero d) = f w := ⟨_, rfl⟩
  obtain ⟨w, hw⟩ := hclean
  rw [hw]
  by_cases hzero : f w = zero
  · have hsecond : f (orDefault (f w) zero d) = f d := by rw [orDefault, if_pos hzero]
    rw [hsecond]
    by_cases hd : f d = zero
    · rw [orDefault, if_pos hd]
    · rw [orDefault, if_neg hd, hf]
  · have hsecond : f (orDefault (f w) zero d) = f w := by rw [orDefault, if_neg hzero, hf]
    rw [hsecond, hsecond]

/-- A text that was sent twice stays as it is. -/
theorem sentText_settles (d v : String) :
    sentText d (sentText d (sentText d v)) = sentText d (sentText d v) :=
  replaced_settles (f := fun v => trim (fieldValue v)) (fun v => by simp) "" d v

/-- A text that is sent as it is. -/
def Clean (v : String) : Prop := v ≠ "" ∧ trim (fieldValue v) = v

/-- A text stays as it is exactly if it is clean, where the default is not blank. -/
theorem sentText_eq_self {d v : String} (hd : trim (fieldValue d) ≠ "") :
    sentText d v = v ↔ Clean v := by
  unfold sentText Clean
  by_cases hv : v = ""
  · rw [hv, orDefault, if_pos rfl]
    exact ⟨fun h => absurd h hd, fun h => absurd rfl h.1⟩
  · rw [orDefault, if_neg hv]
    exact ⟨fun h => ⟨hv, h⟩, fun h => h.2⟩

/-- Only the zero value is replaced. -/
theorem orDefault_eq_self {α : Type} [DecidableEq α] {zero d v : α} (hd : d ≠ zero) :
    orDefault v zero d = v ↔ v ≠ zero := by
  unfold orDefault
  by_cases hv : v = zero
  · rw [if_pos hv, hv]
    exact ⟨fun h => absurd h hd, fun h => absurd rfl h⟩
  · rw [if_neg hv]
    exact ⟨fun _ => hv, fun _ => rfl⟩

/-- A whole number of 53 bits. -/
def Short (n : Int) : Prop := n.natAbs < 2 ^ 53

/-- Such a number is a double. -/
theorem asDouble_of_short {n : Int} (h : Short n) : asDouble n = n := by
  rw [asDouble, JsNumber.nearest_of_lt h]
  exact Int.sign_mul_natAbs n

/-- Such a number is sent as it was shown. -/
theorem sentInt_shownInt {n : Int} (h : Short n) : sentInt (shownInt n) = n := by
  rw [sentInt, shownInt, asDouble_of_short h, parseInt_toString, Option.getD_some,
    asDouble_of_short h]

theorem Short.orDefault {n d : Int} (h : Short n) (hd : Short d) : Short (orDefault n 0 d) := by
  unfold ChirpStackSimulator.orDefault
  split
  · exact hd
  · exact h

/-! ## Anomaly types -/

/-- The names of the checkboxes have no comma, so they can be joined by one. -/
theorem comma_not_mem {value : String} (h : value ∈ anomalyTypeCheckboxes) : ',' ∉ value.toList := by
  revert value
  decide

/-- **What was chosen is checked again.** -/
theorem checkedTypes_joinTypes (text : String) :
    checkedTypes (joinTypes (checkedTypes text)) = checkedTypes text := by
  have hparts : ∀ value ∈ anomalyTypeCheckboxes,
      (value.toList ∈ (joinTypes (checkedTypes text)).toList.splitOn ',' ↔
        value ∈ checkedTypes text) := by
    intro value hvalue
    rw [joinTypes, String.toList_ofList]
    by_cases hnone : checkedTypes text = []
    · rw [hnone]
      revert value
      decide
    · rw [List.splitOn_intercalate ',' ?_ (by simpa using hnone)]
      · rw [List.mem_map]
        constructor
        · rintro ⟨other, hother, heq⟩
          rwa [← String.toList_inj.mp heq]
        · exact fun hmem => ⟨value, hmem, rfl⟩
      · intro part hpart
        obtain ⟨other, hother, rfl⟩ := List.mem_map.mp hpart
        exact comma_not_mem (List.mem_filter.mp hother).1
  have hfilter : checkedTypes (joinTypes (checkedTypes text)) =
      anomalyTypeCheckboxes.filter fun value => decide (value ∈ checkedTypes text) :=
    List.filter_congr fun value hvalue => decide_eq_decide.mpr (hparts value hvalue)
  rw [hfilter]
  refine List.filter_congr fun value hvalue => decide_eq_decide.mpr ?_
  rw [checkedTypes, List.mem_filter, decide_eq_true_eq]
  exact and_iff_right hvalue

/-! ## Saving what was loaded -/

section
variable (num : Numerals) (parseDuration : String → Except String Int) (orgName : String)

/-- The numbers of a configuration survive the browser: the whole ones have 53 bits, the others, and the
    bounds of the packet loss, are read back from their texts. -/
structure Exact (data : StartRequest) : Prop where
  deviceCount : Short data.deviceCount
  gatewayCount : Short data.gatewayCount
  frequency : Short data.frequency
  bandwidth : Short data.bandwidth
  spreadingFactor : Short data.spreadingFactor
  latencyMs : Short data.latencyMs
  anomalyDuration : Short data.anomalyDuration
  packetLoss : num.Reads data.packetLoss
  anomalyProbability : num.Reads data.anomalyProbability
  none : num.Reads 0
  all : num.Reads 100

/-- What is posted of a configuration that was loaded, field by field. -/
def reposted (data : StartRequest) : StartRequest where
  tenantID := trim (fieldValue data.tenantID)
  appName := sentText orgName data.appName
  devicePrefix := sentText "sim-dev" data.devicePrefix
  deviceCount := orDefault data.deviceCount 0 5
  gatewayCount := orDefault data.gatewayCount 0 2
  duration := sentText "5m" data.duration
  activationTime := sentText "1m" data.activationTime
  uplinkInterval := sentText "5m" data.uplinkInterval
  fPort := orDefault data.fPort 0 10
  payload := sentText "010203" data.payload
  frequency := orDefault data.frequency 0 868100000
  bandwidth := orDefault data.bandwidth 0 125000
  spreadingFactor := orDefault data.spreadingFactor 0 7
  eventTopicTemplate := sentText defaultEventTopicTemplate data.eventTopicTemplate
  commandTopicTemplate := sentText defaultCommandTopicTemplate data.commandTopicTemplate
  packetLoss := data.packetLoss
  simulatePacketLoss := data.simulatePacketLoss
  latencyMs := data.latencyMs
  payloadScript := areaValue data.payloadScript
  anomalyProbability := data.anomalyProbability
  anomalyDuration := orDefault data.anomalyDuration 0 5
  anomalyTypes := joinTypes (checkedTypes data.anomalyTypes)
  passiveMode := false
  syncIntervalMinutes := 0

/-- What is stored of it. -/
def resaved (data : StartRequest) : StartRequest := sanitize (reposted orgName data)

/-- The durations pass the checks of the form and of the server. -/
structure Passes (cfg : StartRequest) : Prop where
  uplinkInterval : validateUplinkInterval cfg.uplinkInterval = true
  duration : cfg.duration = "" ∨ cfg.duration = "0s" ∨ validateDuration cfg.duration = true
  activationTime : cfg.activationTime = "" ∨ validateDuration cfg.activationTime = true
  server : validateStartRequest parseDuration cfg = .ok ()

variable {num parseDuration orgName}

theorem uint8_toNat_short (n : UInt8) : Short n.toNat := by
  have hlt := n.toNat_lt
  show (n.toNat : Int).natAbs < 2 ^ 53
  omega

theorem ofInt_toNat_uint8 (n : UInt8) : UInt8.ofInt n.toNat = n := by
  have hmod : ((n.toNat : Int) % 256).toNat = n.toNat := by
    have hlt := n.toNat_lt
    omega
  show UInt8.ofNat ((n.toNat : Int) % 256).toNat = n
  rw [hmod, UInt8.ofNat_toNat]

/-- What is posted of the fields as they were loaded. -/
theorem saveOrgConfig_loadOrgConfig {data : StartRequest} (h : Exact num data) :
    saveOrgConfig num data (loadOrgConfig num orgName data) =
      if (loadOrgConfig num orgName data).Accepted then some (reposted orgName data) else none := by
  have hport : sentInt (loadOrgConfig num orgName data).fPort = (orDefault data.fPort 0 10).toNat :=
    sentInt_shownInt (uint8_toNat_short _)
  have hportLt := (orDefault data.fPort 0 10).toNat_lt
  have hfrequency : sentInt (loadOrgConfig num orgName data).frequency =
      orDefault data.frequency 0 868100000 :=
    sentInt_shownInt (h.frequency.orDefault (by unfold Short; omega))
  have hbandwidth : sentInt (loadOrgConfig num orgName data).bandwidth =
      orDefault data.bandwidth 0 125000 :=
    sentInt_shownInt (h.bandwidth.orDefault (by unfold Short; omega))
  have hspreadingFactor : sentInt (loadOrgConfig num orgName data).spreadingFactor =
      orDefault data.spreadingFactor 0 7 :=
    sentInt_shownInt (h.spreadingFactor.orDefault (by unfold Short; omega))
  have hlatencyMs : sentInt (loadOrgConfig num orgName data).latencyMs = data.latencyMs :=
    sentInt_shownInt h.latencyMs
  have hanomalyDuration :
      sentInt (loadOrgConfig num orgName data).anomalyDuration = data.anomalyDuration :=
    sentInt_shownInt h.anomalyDuration
  have hpacketLoss :
      num.parseFloat (loadOrgConfig num orgName data).packetLoss = some data.packetLoss :=
    h.packetLoss
  have hanomalyProbability : num.parseFloat (loadOrgConfig num orgName data).anomalyProbability =
      some data.anomalyProbability := h.anomalyProbability
  unfold saveOrgConfig
  rw [hport, hfrequency, hbandwidth, hspreadingFactor, hlatencyMs, hanomalyDuration, hpacketLoss,
    hanomalyProbability, asDouble_of_short h.deviceCount, asDouble_of_short h.gatewayCount,
    ofInt_toNat_uint8]
  by_cases haccepted : (loadOrgConfig num orgName data).Accepted
  · rw [if_pos haccepted, if_pos ⟨haccepted, by omega, by omega⟩]
    rfl
  · rw [if_neg haccepted, if_neg fun hboth => haccepted hboth.1]

/-- **What is stored, and when.** -/
theorem resave_eq_some_iff {data cfg : StartRequest} (h : Exact num data) :
    resave num parseDuration orgName data = some cfg ↔
      data.tenantID ≠ "" ∧ Passes parseDuration (resaved orgName data) ∧ cfg = resaved orgName data := by
  have hserver : validateStartRequest parseDuration (resaved orgName data) =
      validateStartRequest parseDuration (reposted orgName data) := rfl
  unfold resave
  by_cases htenant : data.tenantID = ""
  · rw [if_pos htenant]
    exact ⟨fun heq => (nomatch heq), fun hall => absurd htenant hall.1⟩
  · rw [if_neg htenant, saveOrgConfig_loadOrgConfig h]
    by_cases haccepted : (loadOrgConfig num orgName data).Accepted
    · rw [if_pos haccepted, Option.bind_some]
      obtain ⟨huplink, hduration, hactivation⟩ := haccepted
      unfold storeOrgConfig
      split
      · rename_i e hvalid
        refine ⟨fun heq => (nomatch heq), fun hall => ?_⟩
        have hok := hall.2.1.server
        rw [hserver, hvalid] at hok
        cases hok
      · rename_i hvalid
        rw [Option.some_inj]
        constructor
        · intro heq
          exact ⟨htenant, ⟨huplink, hduration, hactivation, hserver.trans hvalid⟩, heq.symm⟩
        · intro hall
          exact hall.2.2.symm
    · rw [if_neg haccepted, Option.bind_none]
      refine ⟨fun heq => (nomatch heq), fun hall => ?_⟩
      obtain ⟨huplink, hduration, hactivation, -⟩ := hall.2.1
      exact absurd ⟨huplink, hduration, hactivation⟩ haccepted

/-! ## The law -/

section
variable (data : StartRequest)

-- the fields that are posted as they were loaded
/-- The two degradation values are sent as they were. -/
@[simp] theorem reposted_packetLoss : (reposted orgName data).packetLoss = data.packetLoss := by
  simp only [reposted]

@[simp] theorem reposted_latencyMs : (reposted orgName data).latencyMs = data.latencyMs := by
  simp only [reposted]

/-- The store clamps the two degradation values. -/
@[simp] theorem resaved_packetLoss :
    (resaved orgName data).packetLoss = clampLoss data.packetLoss :=
  congrArg clampLoss (reposted_packetLoss data)

@[simp] theorem resaved_latencyMs :
    (resaved orgName data).latencyMs = clampLatency data.latencyMs :=
  congrArg clampLatency (reposted_latencyMs data)

/-- The form has no field for the next two. -/
@[simp] theorem resaved_passiveMode : (resaved orgName data).passiveMode = false := by
  simp only [resaved, sanitize, reposted]

@[simp] theorem resaved_syncIntervalMinutes : (resaved orgName data).syncIntervalMinutes = 0 := by
  simp only [resaved, sanitize, reposted]

@[simp] theorem resaved_simulatePacketLoss :
    (resaved orgName data).simulatePacketLoss = data.simulatePacketLoss := by
  simp only [resaved, sanitize, reposted]

@[simp] theorem resaved_anomalyProbability :
    (resaved orgName data).anomalyProbability = data.anomalyProbability := by
  simp only [resaved, sanitize, reposted]

end

/-- What is stored has its numbers from the configuration or from the bounds. -/
theorem Exact.resaved {data : StartRequest} (h : Exact num data) : Exact num (resaved orgName data) where
  deviceCount := h.deviceCount.orDefault (d := 5) (by unfold Short; omega)
  gatewayCount := h.gatewayCount.orDefault (d := 2) (by unfold Short; omega)
  frequency := h.frequency.orDefault (d := 868100000) (by unfold Short; omega)
  bandwidth := h.bandwidth.orDefault (d := 125000) (by unfold Short; omega)
  spreadingFactor := h.spreadingFactor.orDefault (d := 7) (by unfold Short; omega)
  anomalyDuration := h.anomalyDuration.orDefault (d := 5) (by unfold Short; omega)
  latencyMs := by
    have hshort := h.latencyMs
    rw [resaved_latencyMs]
    unfold Short clampLatency at *
    split
    · omega
    · split
      · omega
      · exact hshort
  packetLoss := by
    rw [resaved_packetLoss]
    unfold clampLoss
    split
    · exact h.none
    · split
      · exact h.all
      · exact h.packetLoss
  anomalyProbability := by
    rw [resaved_anomalyProbability]
    exact h.anomalyProbability
  none := h.none
  all := h.all

attribute [ext] StartRequest

/-- The third round stores what the second did. -/
theorem resaved_settles (data : StartRequest) :
    resaved orgName (resaved orgName (resaved orgName data)) =
      resaved orgName (resaved orgName data) := by
  have htypes : ∀ text, joinTypes (checkedTypes (joinTypes (checkedTypes text))) =
      joinTypes (checkedTypes text) := fun text => by rw [checkedTypes_joinTypes]
  apply StartRequest.ext
  case tenantID => exact congrArg trim (fieldValue_trim_fieldValue _) |>.trans (trim_trim _)
  case appName => exact sentText_settles orgName data.appName
  case devicePrefix => exact sentText_settles "sim-dev" data.devicePrefix
  case duration => exact sentText_settles "5m" data.duration
  case activationTime => exact sentText_settles "1m" data.activationTime
  case uplinkInterval => exact sentText_settles "5m" data.uplinkInterval
  case payload => exact sentText_settles "010203" data.payload
  case eventTopicTemplate =>
    exact sentText_settles defaultEventTopicTemplate data.eventTopicTemplate
  case commandTopicTemplate =>
    exact sentText_settles defaultCommandTopicTemplate data.commandTopicTemplate
  case deviceCount => exact orDefault_idem (orDefault data.deviceCount 0 5) 0 5
  case gatewayCount => exact orDefault_idem (orDefault data.gatewayCount 0 2) 0 2
  case fPort => exact orDefault_idem (orDefault data.fPort 0 10) 0 10
  case frequency => exact orDefault_idem (orDefault data.frequency 0 868100000) 0 868100000
  case bandwidth => exact orDefault_idem (orDefault data.bandwidth 0 125000) 0 125000
  case spreadingFactor => exact orDefault_idem (orDefault data.spreadingFactor 0 7) 0 7
  case anomalyDuration => exact orDefault_idem (orDefault data.anomalyDuration 0 5) 0 5
  case payloadScript => exact areaValue_areaValue (areaValue data.payloadScript)
  case packetLoss => simp only [resaved_packetLoss, clampLoss_idem]
  case latencyMs => simp only [resaved_latencyMs, clampLatency_idem]
  case anomalyTypes => exact htypes (joinTypes (checkedTypes data.anomalyTypes))
  case simulatePacketLoss => simp only [resaved_simulatePacketLoss]
  case anomalyProbability => simp only [resaved_anomalyProbability]
  case passiveMode => simp only [resaved_passiveMode]
  case syncIntervalMinutes => simp only [resaved_syncIntervalMinutes]

/-- A configuration that the form and the server leave as it is. -/
structure Normal (orgName : String) (parseDuration : String → Except String Int)
    (data : StartRequest) : Prop where
  tenantID : Clean data.tenantID
  appName : sentText orgName data.appName = data.appName
  texts : ∀ v ∈ [data.devicePrefix, data.duration, data.activationTime, data.uplinkInterval,
    data.payload, data.eventTopicTemplate, data.commandTopicTemplate], Clean v
  counts : data.deviceCount ≠ 0 ∧ data.gatewayCount ≠ 0
  radio : data.fPort ≠ 0 ∧ data.frequency ≠ 0 ∧ data.bandwidth ≠ 0 ∧ data.spreadingFactor ≠ 0
  packetLoss : 0 ≤ data.packetLoss ∧ data.packetLoss ≤ 100
  latencyMs : 0 ≤ data.latencyMs ∧ data.latencyMs ≤ 5000
  payloadScript : areaValue data.payloadScript = data.payloadScript
  anomalyDuration : data.anomalyDuration ≠ 0
  anomalyTypes : joinTypes (checkedTypes data.anomalyTypes) = data.anomalyTypes
  noFields : data.passiveMode = false ∧ data.syncIntervalMinutes = 0
  passes : Passes parseDuration data

/-- The default of every text field is sent as it is. -/
theorem defaults_kept : ∀ d ∈ ["sim-dev", "5m", "1m", "010203", defaultEventTopicTemplate,
    defaultCommandTopicTemplate], trim (fieldValue d) = d ∧ d ≠ "" := by
  decide +kernel

theorem sentText_eq_self_iff {d v : String} (hd : d ∈ ["sim-dev", "5m", "1m", "010203",
    defaultEventTopicTemplate, defaultCommandTopicTemplate]) : sentText d v = v ↔ Clean v := by
  obtain ⟨hkept, hne⟩ := defaults_kept d hd
  exact sentText_eq_self (by rwa [hkept])

/-- **A configuration comes back as it was exactly if it is normal.** -/
theorem resaved_eq_self {data : StartRequest} (htenant : data.tenantID ≠ "")
    (hpasses : Passes parseDuration data) :
    resaved orgName data = data ↔ Normal orgName parseDuration data := by
  constructor
  · intro h
    have hfield : ∀ {β : Type} (field : StartRequest → β), field (resaved orgName data) = field data :=
      fun field => congrArg field h
    have hloss := hfield StartRequest.packetLoss
    have hlatency := hfield StartRequest.latencyMs
    have hpassive := hfield StartRequest.passiveMode
    have hsync := hfield StartRequest.syncIntervalMinutes
    rw [resaved_packetLoss] at hloss
    rw [resaved_latencyMs] at hlatency
    rw [resaved_passiveMode] at hpassive
    rw [resaved_syncIntervalMinutes] at hsync
    exact {
      tenantID := ⟨htenant, hfield StartRequest.tenantID⟩
      appName := hfield StartRequest.appName
      texts := by
        simp only [List.forall_mem_cons, List.not_mem_nil, false_imp_iff, implies_true, and_true]
        exact ⟨(sentText_eq_self_iff (d := "sim-dev") (by simp)).mp (hfield StartRequest.devicePrefix),
          (sentText_eq_self_iff (d := "5m") (by simp)).mp (hfield StartRequest.duration),
          (sentText_eq_self_iff (d := "1m") (by simp)).mp (hfield StartRequest.activationTime),
          (sentText_eq_self_iff (d := "5m") (by simp)).mp (hfield StartRequest.uplinkInterval),
          (sentText_eq_self_iff (d := "010203") (by simp)).mp (hfield StartRequest.payload),
          (sentText_eq_self_iff (d := defaultEventTopicTemplate) (by simp)).mp
            (hfield StartRequest.eventTopicTemplate),
          (sentText_eq_self_iff (d := defaultCommandTopicTemplate) (by simp)).mp
            (hfield StartRequest.commandTopicTemplate)⟩
      counts := ⟨(orDefault_eq_self (d := 5) (by decide)).mp (hfield StartRequest.deviceCount),
        (orDefault_eq_self (d := 2) (by decide)).mp (hfield StartRequest.gatewayCount)⟩
      radio := ⟨(orDefault_eq_self (d := 10) (by decide)).mp (hfield StartRequest.fPort),
        (orDefault_eq_self (d := 868100000) (by decide)).mp (hfield StartRequest.frequency),
        (orDefault_eq_self (d := 125000) (by decide)).mp (hfield StartRequest.bandwidth),
        (orDefault_eq_self (d := 7) (by decide)).mp (hfield StartRequest.spreadingFactor)⟩
      packetLoss := clampLoss_eq_self.mp hloss
      latencyMs := clampLatency_eq_self.mp hlatency
      payloadScript := hfield StartRequest.payloadScript
      anomalyDuration :=
        (orDefault_eq_self (d := 5) (by decide)).mp (hfield StartRequest.anomalyDuration)
      anomalyTypes := hfield StartRequest.anomalyTypes
      noFields := ⟨hpassive.symm, hsync.symm⟩
      passes := hpasses }
  · intro h
    have htexts := h.texts
    simp only [List.forall_mem_cons, List.not_mem_nil, false_imp_iff, implies_true, and_true]
      at htexts
    obtain ⟨hname, hduration, hactivation, huplink, hpayload, hevent, hcommand⟩ := htexts
    apply StartRequest.ext
    case tenantID => exact h.tenantID.2
    case appName => exact h.appName
    case devicePrefix => exact (sentText_eq_self_iff (d := "sim-dev") (by simp)).mpr hname
    case duration => exact (sentText_eq_self_iff (d := "5m") (by simp)).mpr hduration
    case activationTime => exact (sentText_eq_self_iff (d := "1m") (by simp)).mpr hactivation
    case uplinkInterval => exact (sentText_eq_self_iff (d := "5m") (by simp)).mpr huplink
    case payload => exact (sentText_eq_self_iff (d := "010203") (by simp)).mpr hpayload
    case eventTopicTemplate =>
      exact (sentText_eq_self_iff (d := defaultEventTopicTemplate) (by simp)).mpr hevent
    case commandTopicTemplate =>
      exact (sentText_eq_self_iff (d := defaultCommandTopicTemplate) (by simp)).mpr hcommand
    case deviceCount => exact (orDefault_eq_self (d := 5) (by decide)).mpr h.counts.1
    case gatewayCount => exact (orDefault_eq_self (d := 2) (by decide)).mpr h.counts.2
    case fPort => exact (orDefault_eq_self (d := 10) (by decide)).mpr h.radio.1
    case frequency => exact (orDefault_eq_self (d := 868100000) (by decide)).mpr h.radio.2.1
    case bandwidth => exact (orDefault_eq_self (d := 125000) (by decide)).mpr h.radio.2.2.1
    case spreadingFactor => exact (orDefault_eq_self (d := 7) (by decide)).mpr h.radio.2.2.2
    case anomalyDuration => exact (orDefault_eq_self (d := 5) (by decide)).mpr h.anomalyDuration
    case payloadScript => exact h.payloadScript
    case packetLoss => exact (resaved_packetLoss data).trans (clampLoss_eq_self.mpr h.packetLoss)
    case latencyMs => exact (resaved_latencyMs data).trans (clampLatency_eq_self.mpr h.latencyMs)
    case anomalyTypes => exact h.anomalyTypes
    case simulatePacketLoss => exact resaved_simulatePacketLoss data
    case anomalyProbability => exact resaved_anomalyProbability data
    case passiveMode => exact (resaved_passiveMode data).trans h.noFields.1.symm
    case syncIntervalMinutes => exact (resaved_syncIntervalMinutes data).trans h.noFields.2.symm

/-- A text that was sent is sent again, or replaced by the default if it is empty. -/
theorem sentText_sentText (d v : String) : sentText d (sentText d v) = sentText d v ∨
    sentText d v = "" ∧ sentText d (sentText d v) = trim (fieldValue d) := by
  by_cases hempty : sentText d v = ""
  · rw [hempty]
    exact .inr ⟨rfl, by rw [sentText, orDefault, if_pos rfl]⟩
  · left
    rw [sentText, orDefault, if_neg hempty]
    exact (congrArg trim (fieldValue_trim_fieldValue _)).trans (trim_trim _)

/-- The second round passes the checks if the first did. -/
theorem Passes.resaved {data : StartRequest} (h5m : parseDuration "5m" = .ok 300000000000)
    (h1m : parseDuration "1m" = .ok 60000000000)
    (h : Passes parseDuration (resaved orgName data)) :
    Passes parseDuration (resaved orgName (resaved orgName data)) := by
  obtain ⟨huplink, hduration, hactivation, hserver⟩ := h
  have hvalid := validateStartRequest_iff.mp hserver
  have hdefault : ∀ d, d = "5m" ∨ d = "1m" → trim (fieldValue d) = d ∧ validateDuration d = true := by
    rintro d (rfl | rfl) <;> decide +kernel
  have huplink2 : sentText "5m" (sentText "5m" data.uplinkInterval) =
      sentText "5m" data.uplinkInterval := by
    rcases sentText_sentText "5m" data.uplinkInterval with hsame | ⟨hempty, -⟩
    · exact hsame
    · have hnot : validateUplinkInterval (sentText "5m" data.uplinkInterval) = true := huplink
      rw [hempty] at hnot
      exact absurd hnot (by decide +kernel)
  -- the durations of the second round are those of the first, or the defaults
  have hduration2 := sentText_sentText "5m" data.duration
  have hactivation2 := sentText_sentText "1m" data.activationTime
  rw [(hdefault "5m" (.inl rfl)).1] at hduration2
  rw [(hdefault "1m" (.inr rfl)).1] at hactivation2
  refine ⟨?_, ?_, ?_, validateStartRequest_iff.mpr ⟨?_, ?_, ?_⟩⟩
  · show validateUplinkInterval (sentText "5m" (sentText "5m" data.uplinkInterval)) = true
    rw [huplink2]
    exact huplink
  · show sentText "5m" (sentText "5m" data.duration) = "" ∨
      sentText "5m" (sentText "5m" data.duration) = "0s" ∨
        validateDuration (sentText "5m" (sentText "5m" data.duration)) = true
    rcases hduration2 with hsame | ⟨-, hdef⟩
    · rw [hsame]
      exact hduration
    · rw [hdef]
      exact .inr (.inr (hdefault "5m" (.inl rfl)).2)
  · show sentText "1m" (sentText "1m" data.activationTime) = "" ∨
      validateDuration (sentText "1m" (sentText "1m" data.activationTime)) = true
    rcases hactivation2 with hsame | ⟨-, hdef⟩
    · rw [hsame]
      exact hactivation
    · rw [hdef]
      exact .inr (hdefault "1m" (.inr rfl)).2
  · show sentText "5m" (sentText "5m" data.uplinkInterval) ≠ "" →
      ∃ d, parseDuration (sentText "5m" (sentText "5m" data.uplinkInterval)) = .ok d ∧ second ≤ d
    rw [huplink2]
    exact hvalid.uplinkInterval
  · show sentText "5m" (sentText "5m" data.duration) ≠ "" →
      sentText "5m" (sentText "5m" data.duration) ≠ "0s" →
        ∃ d, parseDuration (sentText "5m" (sentText "5m" data.duration)) = .ok d
    rcases hduration2 with hsame | ⟨-, hdef⟩
    · rw [hsame]
      exact hvalid.duration
    · rw [hdef]
      exact fun _ _ => ⟨_, h5m⟩
  · show sentText "1m" (sentText "1m" data.activationTime) ≠ "" →
      ∃ d, parseDuration (sentText "1m" (sentText "1m" data.activationTime)) = .ok d
    rcases hactivation2 with hsame | ⟨-, hdef⟩
    · rw [hsame]
      exact hvalid.activationTime
    · rw [hdef]
      exact fun _ => ⟨_, h1m⟩

/-- **Opening and saving**: a configuration is stored as it was exactly if it is normal; and what one
    such save stores is made normal by the next one, whatever it was, as long as it has a tenant id. -/
theorem resave_stable {data : StartRequest} (h : Exact num data)
    (h5m : parseDuration "5m" = .ok 300000000000) (h1m : parseDuration "1m" = .ok 60000000000) :
    (resave num parseDuration orgName data = some data ↔ Normal orgName parseDuration data) ∧
      ∀ cfg, resave num parseDuration orgName data = some cfg → cfg.tenantID ≠ "" →
        ∃ cfg', resave num parseDuration orgName cfg = some cfg' ∧
          Normal orgName parseDuration cfg' := by
  constructor
  · rw [resave_eq_some_iff h]
    constructor
    · rintro ⟨htenant, hpasses, heq⟩
      rw [← heq] at hpasses
      exact (resaved_eq_self htenant hpasses).mp heq.symm
    · intro hnormal
      have heq := (resaved_eq_self hnormal.tenantID.1 hnormal.passes).mpr hnormal
      exact ⟨hnormal.tenantID.1, heq.symm ▸ hnormal.passes, heq.symm⟩
  · intro cfg hcfg htenant
    obtain ⟨-, hpasses, rfl⟩ := (resave_eq_some_iff h).mp hcfg
    have hpasses2 := hpasses.resaved h5m h1m
    have htenant2 : (resaved orgName (resaved orgName data)).tenantID ≠ "" := by
      have hsame : (resaved orgName (resaved orgName data)).tenantID = (resaved orgName data).tenantID :=
        (congrArg trim (fieldValue_trim_fieldValue data.tenantID)).trans (trim_trim _)
      rwa [hsame]
    exact ⟨_, (resave_eq_some_iff h.resaved).mpr ⟨htenant, hpasses2, rfl⟩,
      (resaved_eq_self htenant2 hpasses2).mp (resaved_settles data)⟩

end

/-- Whole numbers. -/
def wholeNumerals : Numerals where
  toText x := toString x.num
  parseFloat text := (parseInt text).map fun n : Int => (n : ℚ)

def exampleDuration (text : String) : Except String Int :=
  if text = "5m" then .ok 300000000000 else if text = "1m" then .ok 60000000000
  else .error "time: invalid duration"

/-- A configuration whose payload is a blank: the first save empties it, the second fills it in. -/
def blankPayload : StartRequest := { StartRequest.empty with tenantID := "t", payload := " " }

theorem resave_stable_blankPayload :
    ∃ cfg cfg', resave wholeNumerals exampleDuration "Org" blankPayload = some cfg ∧
      cfg.payload = "" ∧ resave wholeNumerals exampleDuration "Org" cfg = some cfg' ∧
        cfg'.payload = "010203" ∧ Normal "Org" exampleDuration cfg' := by
  have hreads : ∀ n : Int, wholeNumerals.Reads n := by
    intro n
    show (parseInt (toString (n : ℚ).num)).map (fun n : Int => (n : ℚ)) = some (n : ℚ)
    rw [Rat.num_intCast, parseInt_toString]
    rfl
  have h : Exact wholeNumerals blankPayload :=
    ⟨by unfold Short; decide, by unfold Short; decide, by unfold Short; decide,
      by unfold Short; decide, by unfold Short; decide, by unfold Short; decide,
      by unfold Short; decide, hreads 0, hreads 0, hreads 0, hreads 100⟩
  have htexts : (resaved "Org" blankPayload).payload = "" ∧
      (resaved "Org" blankPayload).tenantID = "t" ∧
        (resaved "Org" (resaved "Org" blankPayload)).payload = "010203" := by
    decide +kernel
  have hpasses : Passes exampleDuration (resaved "Org" blankPayload) :=
    ⟨by decide +kernel, by decide +kernel, by decide +kernel, by decide +kernel⟩
  have hfirst : resave wholeNumerals exampleDuration "Org" blankPayload =
      some (resaved "Org" blankPayload) :=
    (resave_eq_some_iff h).mpr ⟨by decide, hpasses, rfl⟩
  obtain ⟨cfg', hcfg', hnormal⟩ := (resave_stable h rfl rfl).2 _ hfirst (by rw [htexts.2.1]; decide)
  obtain ⟨-, -, rfl⟩ := (resave_eq_some_iff h.resaved).mp hcfg'
  exact ⟨_, _, hfirst, htexts.1, hcfg', htexts.2.2, hnormal⟩

end ChirpStackSimulator.OrgForm
