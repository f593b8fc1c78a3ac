/-
  The floor of the uplink intervals: one second (`validateStartRequest`, `SaveOrgConfig`,
  `SaveDeviceInterval`, `handleBootstrap`).

  An interval comes to a device from its organisation's configuration or from the table of device
  intervals.  Configurations are saved by `handleSaveOrgConfig`, which checks them, and with a fixed
  interval by `handleBootstrap` and by every listing and start that finds one missing.  Device
  intervals are saved by `POST /api/device-intervals` and by `handleBootstrap`, and nobody checks
  them.

  1. **Writes** — the requests that save something, as programs over `Intervals.store`.
  2. **Configurations** — every write saves only configurations at or above the floor
     (`respects_program`), so the table keeps them there over any history (`floor_afterWrites`).
  3. **Devices** — a device of a start runs below the floor exactly if what is stored for it parses
     to less (`atLeastSecond_iff`).
-/
import ChirpStackSimulator.Intervals

namespace ChirpStackSimulator.Intervals

open LoRaWAN Discovery Setup Routes Bootstrap Handlers
open Lifecycle (Status)

/-! ## Writes -/

/-- A request that saves a configuration or an interval. -/
inductive Write where
  | saveOrgConfig (orgID : String) (body : Except String StartRequest)
  | saveDeviceInterval (body : Except String (String × String))
  | bootstrap (m : Method) (body : Except String BootstrapRequest)
  /-- Saves the missing configurations first. -/
  | listOrganizations (m : Method)
  /-- Saves them as well. -/
  | start (post : Bool) (body : Except String StartRequest) (status : Status)

section
variable (parseDuration : String → Except String Int)

/-- The handler of a write. -/
def Write.program : Write → Action Response
  | .saveOrgConfig orgID body => handleSaveOrgConfig parseDuration orgID body
  | .saveDeviceInterval body => handleSaveDeviceInterval body
  | .bootstrap m body => handleBootstrap m body
  | .listOrganizations m => handleListOrganizations m
  | .start post body status => handleStart parseDuration post body status

/-- The store after these writes, each with the answers it gets to all other calls. -/
def afterWrites (writes : List (Write × ((c : Call) → c.Answer))) : Store :=
  writes.foldl (fun s w => (w.1.program parseDuration).final (store w.2) s) .empty

/-! ## Configurations -/

/-- A configuration that is saved has an interval of at least one second. -/
def RespectsFloor : Call → Prop
  | .saveOrgConfig _ cfg => second ≤ orgInterval parseDuration (some cfg)
  | _ => True

/-- The contract of the programs. -/
abbrev Respects {α : Type} (p : Action α) : Prop :=
  p.Keeps (fun _ _ => True) (RespectsFloor parseDuration) fun _ => True

/-- An organisation's interval is its text, if that says at least one second, or two minutes. -/
theorem second_le_orgInterval {req : StartRequest} (h : req.uplinkInterval ≠ "" →
    ∀ d, parseDuration req.uplinkInterval = .ok d → second ≤ d) :
    second ≤ orgInterval parseDuration (some req) := by
  have hdefault : second ≤ 120000000000 := by decide
  unfold orgInterval deviceConfig
  dsimp only
  split
  · exact hdefault
  · rename_i d hparse
    split
    · exact hdefault
    · rename_i hempty
      exact h hempty d hparse

/-- The texts that are saved without a check say two minutes. -/
theorem second_le_of_2m (h2m : parseDuration "2m" = .ok 120000000000) {req : StartRequest}
    (htext : req.uplinkInterval = "2m") : second ≤ orgInterval parseDuration (some req) := by
  refine second_le_orgInterval parseDuration fun _ d hd => ?_
  rw [htext, h2m] at hd
  obtain rfl := Except.ok.inj hd
  decide

/-- What is valid respects the floor: an interval left out is two minutes. -/
theorem floor_of_valid {req : StartRequest}
    (h : validateStartRequest parseDuration req = .ok ()) :
    second ≤ orgInterval parseDuration (some req) := by
  refine second_le_orgInterval parseDuration fun hempty d hd => ?_
  obtain ⟨d', hd', hfloor⟩ := (validateStartRequest_iff.mp h).uplinkInterval hempty
  obtain rfl : d = d' := Except.ok.inj (hd.symm.trans hd')
  exact hfloor

variable {parseDuration}

/-- The checks save nothing. -/
theorem respects_only {m m' : Method} {k : Action Response} (h : Respects parseDuration k) :
    Respects parseDuration (only m m' k) := by
  unfold only
  split
  · trivial
  · exact h

theorem respects_connected (error : String) {k : Action Response} (h : Respects parseDuration k) :
    Respects parseDuration (connected error k) := by
  refine Prog.Keeps.ask_bind trivial fun x _ => ?_
  cases x with
  | false => trivial
  | true => exact h

/-- Listing and starting: what is missing is saved with two minutes. -/
theorem respects_of_asks (h2m : parseDuration "2m" = .ok 120000000000) {s : Option String}
    {c : Call} (h : Asks s c) : RespectsFloor parseDuration c := by
  cases c with
  | saveOrgConfig orgID cfg =>
    obtain ⟨-, deviceCount, appName, pre, rfl⟩ := h
    exact second_le_of_2m parseDuration h2m rfl
  | _ => trivial

/-- The listing saves only configurations that were missing. -/
theorem respects_handleListOrganizations (h2m : parseDuration "2m" = .ok 120000000000)
    (m : Method) : Respects parseDuration (handleListOrganizations m) := by
  refine respects_only (respects_connected _ ?_)
  refine ((asks_syncMissingOrgConfigs none).keeps (fun _ _ => respects_of_asks h2m)
    fun _ _ _ => trivial).bind fun _ _ => Prog.Keeps.ask_bind trivial fun x _ => ?_
  cases x with
  | error e => trivial
  | ok tenants => trivial

/-- A start saves the same ones, and launches. -/
theorem respects_handleStart (h2m : parseDuration "2m" = .ok 120000000000) (post : Bool)
    (body : Except String StartRequest) (status : Status) :
    Respects parseDuration (handleStart parseDuration post body status) := by
  refine (asks_handleStart parseDuration post body status none).keeps (fun s c hc => ?_)
    fun _ _ _ => trivial
  rcases hc with hc | ⟨sim, rfl⟩
  · exact respects_of_asks h2m hc
  · trivial

/-- A configuration is saved only if it is valid. -/
theorem respects_handleSaveOrgConfig (orgID : String) (body : Except String StartRequest) :
    Respects parseDuration (handleSaveOrgConfig parseDuration orgID body) := by
  cases body with
  | error e => trivial
  | ok req =>
    unfold handleSaveOrgConfig decoded
    dsimp only
    cases hvalid : validateStartRequest parseDuration req with
    | error e => trivial
    | ok _ =>
      refine Prog.Keeps.ask_bind (floor_of_valid parseDuration hvalid) fun x _ => ?_
      cases x <;> trivial

/-- The interval of a device is no configuration. -/
theorem respects_handleSaveDeviceInterval (body : Except String (String × String)) :
    Respects parseDuration (handleSaveDeviceInterval body) := by
  cases body with
  | error e => trivial
  | ok req =>
    show Respects parseDuration (if req.1 = "" ∨ req.2 = "" then _ else _)
    split
    · trivial
    · refine Prog.Keeps.ask_bind trivial fun x _ => ?_
      cases x <;> trivial

/-! ### Bootstrap -/

section
variable (req : BootstrapRequest)

/-- A call of ChirpStack is none either. -/
theorem respects_rpc (r : RPC) : Respects parseDuration (rpc r) := ⟨trivial, fun _ _ => trivial⟩

theorem respects_orCreate (id : String) {create : Action (Except RPCError String)}
    (h : Respects parseDuration create) : Respects parseDuration (orCreate id create) := by
  unfold orCreate
  split
  · trivial
  · exact h

/-- The loops of the bootstrap, each by induction on its numbers. -/
theorem respects_findOrCreateProfiles (tenantID : String) (existing : List ListItem)
    (numbers : List Nat) : Respects parseDuration (findOrCreateProfiles req tenantID existing numbers) := by
  induction numbers with
  | nil => trivial
  | cons i is ih =>
    refine (respects_orCreate _ (respects_rpc _)).bind fun x _ => ?_
    cases x with
    | error e => trivial
    | ok id =>
      refine ih.bind fun x _ => ?_
      cases x <;> trivial

theorem respects_replaceKeys (name devEUI appKey interval : String) :
    Respects parseDuration (replaceKeys name devEUI appKey interval) := by
  refine Prog.Keeps.ask_bind trivial fun _ _ => Prog.Keeps.ask_bind trivial fun x _ => ?_
  cases x with
  | some e => trivial
  | none => exact Prog.Keeps.ask_bind trivial fun _ _ => trivial

theorem respects_bootstrapDevices (app appID : String) (dpIDs : List String)
    (existing : List DeviceListItem) (numbers : List Nat) :
    Respects parseDuration (bootstrapDevices req app appID dpIDs existing numbers) := by
  have hEUI : ∀ name, Respects parseDuration (devEUIOf existing name) := by
    intro name
    unfold devEUIOf
    split
    · trivial
    · refine Prog.Keeps.ask_bind trivial fun x _ => ?_
      cases x <;> trivial
  have hdevice : ∀ j, Respects parseDuration (bootstrapDevice req app appID dpIDs existing j) := by
    intro j
    refine (hEUI _).bind fun x _ => ?_
    cases x with
    | error e => trivial
    | ok devEUI =>
      refine Prog.Keeps.ask_bind trivial fun x _ => ?_
      cases x with
      | error e => trivial
      | ok bytes =>
        dsimp only
        split
        · exact respects_replaceKeys _ _ _ _
        · refine Prog.Keeps.ask_bind trivial fun x _ => ?_
          cases x with
          | some e => trivial
          | none => exact respects_replaceKeys _ _ _ _
  induction numbers with
  | nil => trivial
  | cons j js ih =>
    refine (hdevice j).bind fun x _ => ?_
    cases x with
    | some e => trivial
    | none => exact ih

theorem respects_bootstrapApps (tenantID : String) (dpIDs : List String) (existing : List ListItem)
    (numbers : List Nat) :
    Respects parseDuration (bootstrapApps req tenantID dpIDs existing numbers) := by
  have happ : ∀ i, Respects parseDuration (bootstrapApp req tenantID dpIDs existing i) := by
    intro i
    refine (respects_orCreate _ (respects_rpc _)).bind fun x _ => ?_
    cases x with
    | error e => trivial
    | ok appID =>
      exact Prog.Keeps.ask_bind trivial fun devices _ => respects_bootstrapDevices req _ _ _ _ _
  induction numbers with
  | nil => trivial
  | cons i is ih =>
    refine (happ i).bind fun x _ => ?_
    cases x with
    | some e => trivial
    | none => exact ih

/-- Bootstrap saves a configuration with two minutes. -/
theorem respects_handleBootstrap (h2m : parseDuration "2m" = .ok 120000000000) (m : Method)
    (body : Except String BootstrapRequest) :
    Respects parseDuration (handleBootstrap m body) := by
  have hcfg : ∀ (req : BootstrapRequest) (tenantID : String),
      second ≤ orgInterval parseDuration (some (sanitize (defaultCfg req tenantID))) := by
    intro req tenantID
    exact second_le_of_2m parseDuration h2m rfl
  refine respects_only (respects_connected _ ?_)
  cases body with
  | error e => trivial
  | ok req =>
    unfold decoded
    dsimp only
    split
    · trivial
    · have htenant : Respects parseDuration (findOrCreateTenant req) :=
        Prog.Keeps.ask_bind trivial fun _ _ => respects_orCreate _ (respects_rpc _)
      refine htenant.bind fun x _ => ?_
      cases x with
      | error e => trivial
      | ok tenantID =>
        refine Prog.Keeps.ask_bind (hcfg req tenantID) fun _ _ =>
          Prog.Keeps.ask_bind trivial fun profiles _ =>
            (respects_findOrCreateProfiles req _ _ _).bind fun x _ => ?_
        cases x with
        | error e => trivial
        | ok dpIDs =>
          exact Prog.Keeps.ask_bind trivial fun apps _ => respects_bootstrapApps req _ _ _ _

end

/-! ### All of them -/

/-- **Every write saves only configurations at or above the floor.** -/
theorem respects_program (h2m : parseDuration "2m" = .ok 120000000000) (w : Write) :
    Respects parseDuration (w.program parseDuration) := by
  cases w with
  | saveOrgConfig orgID body => exact respects_handleSaveOrgConfig orgID body
  | saveDeviceInterval body => exact respects_handleSaveDeviceInterval body
  | bootstrap m body => exact respects_handleBootstrap h2m m body
  | listOrganizations m => exact respects_handleListOrganizations h2m m
  | start post body status => exact respects_handleStart h2m post body status

/-- Every organisation's interval is at least one second. -/
def Floor (parseDuration : String → Except String Int) (s : Store) : Prop :=
  ∀ orgID, second ≤ orgInterval parseDuration (s.rows orgID)

/-- Without a row the interval is two minutes. -/
theorem floor_empty : Floor parseDuration .empty := fun _ => by
  show second ≤ 120000000000
  decide

/-- A call that respects the floor keeps the store above it. -/
theorem floor_store (other : (c : Call) → c.Answer) {s : Store} {c : Call}
    (hc : RespectsFloor parseDuration c) (hs : Floor parseDuration s) :
    Floor parseDuration (store other s c).2 := by
  cases c with
  | saveOrgConfig orgID cfg =>
    intro orgID'
    show second ≤ orgInterval parseDuration (Function.update s.rows orgID (some (stored cfg)) orgID')
    by_cases h : orgID' = orgID
    · rw [h, Function.update_self]
      exact hc
    · rw [Function.update_of_ne h]
      exact hs orgID'
  | _ => exact hs

/-- **The configurations stay at or above the floor** over every history of writes. -/
theorem floor_afterWrites (h2m : parseDuration "2m" = .ok 120000000000)
    (writes : List (Write × ((c : Call) → c.Answer))) :
    Floor parseDuration (afterWrites parseDuration writes) := by
  have hfold : ∀ (writes : List (Write × ((c : Call) → c.Answer))) (s : Store),
      Floor parseDuration s → Floor parseDuration
        (writes.foldl (fun s w => (w.1.program parseDuration).final (store w.2) s) s) := by
    intro writes
    induction writes with
    | nil => exact fun _ hs => hs
    | cons w writes ih =>
      intro s hs
      exact ih _ ((respects_program h2m w.1).final (fun _ _ => floor_store w.2) hs)
  exact hfold writes .empty floor_empty

/-! ## Devices -/

/-- **A device is below the floor** after a history of writes exactly if what is stored for it parses
    to less than a second. -/
theorem atLeastSecond_iff {lib : Parsers} (h2m : parseDuration "2m" = .ok 120000000000)
    {writes : List (Write × ((c : Call) → c.Answer))} {other : (c : Call) → c.Answer}
    {req : StartRequest} {status : Status}
    (hvalid : validateStartRequest parseDuration req = .ok ())
    (hstatus : status = .idle ∨ status = .error) {sim : Simulation} {opts : DeviceOptions}
    (hmade : Made lib parseDuration other (afterWrites parseDuration writes) req status sim opts) :
    second ≤ opts.uplinkInterval ↔
      ∀ text d, intervalUnder (afterWrites parseDuration writes).intervals (canonical opts.devEUI) =
        some text → parseDuration text = .ok d → second ≤ d := by
  rw [uplinkInterval_made h2m hvalid hstatus hmade]
  have horg := floor_afterWrites h2m writes sim.tenantID
  unfold effective
  cases intervalUnder (afterWrites parseDuration writes).intervals (canonical opts.devEUI) with
  | none => exact iff_of_true horg fun text d h _ => by cases h
  | some text =>
    dsimp only
    cases hparse : parseDuration text with
    | error e =>
      refine iff_of_true horg fun text' d h hd => ?_
      obtain rfl := Option.some.inj h
      rw [hparse] at hd
      cases hd
    | ok d =>
      constructor
      · rintro h _ d' htext hd
        obtain rfl := Option.some.inj htext
        rw [hparse] at hd
        obtain rfl := Except.ok.inj hd
        exact h
      · exact fun h => h text d rfl hparse

end

/-- With thirty seconds saved for it, a device runs above the floor. -/
theorem atLeastSecond_thirty : ∃ sim opts, Made .plain someDurations (Call.answer letterDevice)
    (afterWrites someDurations
      [(.saveDeviceInterval (.ok ("00000000000000ab", "30s")), Call.answer letterDevice)])
    .empty .idle sim opts ∧ second ≤ opts.uplinkInterval := by
  obtain ⟨opts, heui, hmade⟩ := made_letterDevice (afterWrites someDurations
    [(.saveDeviceInterval (.ok ("00000000000000ab", "30s")), Call.answer letterDevice)]) rfl
  refine ⟨_, opts, hmade, (atLeastSecond_iff rfl rfl (Or.inl rfl) hmade).mpr ?_⟩
  rw [heui]
  intro text d hstored hparse
  obtain rfl : "30s" = text := Option.some.inj hstored
  obtain rfl : 30000000000 = d := Except.ok.inj hparse
  decide

/-- Zero seconds are saved as well, and the device runs with them. -/
theorem zero_below_floor : ∃ sim opts, Made .plain someDurations (Call.answer letterDevice)
    (afterWrites someDurations
      [(.saveDeviceInterval (.ok ("00000000000000ab", "0s")), Call.answer letterDevice)])
    .empty .idle sim opts ∧ opts.uplinkInterval = 0 ∧ ¬ second ≤ opts.uplinkInterval := by
  obtain ⟨opts, heui, hmade⟩ := made_letterDevice (afterWrites someDurations
    [(.saveDeviceInterval (.ok ("00000000000000ab", "0s")), Call.answer letterDevice)]) rfl
  have hzero : opts.uplinkInterval = 0 := by
    rw [uplinkInterval_made rfl rfl (Or.inl rfl) hmade, heui]
    rfl
  refine ⟨_, opts, hmade, hzero, ?_⟩
  rw [hzero]
  decide

end ChirpStackSimulator.Intervals
