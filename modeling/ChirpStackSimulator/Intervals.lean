/-
  The uplink intervals of the devices, from the API to the running device (`internal/api/server.go`,
  `internal/api/database.go`, `discoverAndBuildConfig`, `runSimulation`).

  An interval that is saved for a device is kept in `device_intervals` under the text it was saved
  with.  A start reads the table, drops what does not parse as a duration and hands the rest to every
  simulation; `runSimulation` looks the device up under the canonical text of its EUI, in lower case,
  and takes the interval of the organisation if there is nothing.  Nobody brings the two texts
  together, and nobody looks at the interval.

  1. **`Store`** — both tables, as the environment of the programs.
  2. **From the table to the device** — what a device made by a simulation of a start runs with
     (`uplinkInterval_made`).
  3. **Which save counts** — after any history of saves a device runs with the last one for its EUI
     exactly if the last one under the canonical text comes to the same (`asSaved_iff`).

  What becomes of the floor of one second on these ways is in `IntervalFloor.lean`.
-/
import ChirpStackSimulator.Lib.Table
import ChirpStackSimulator.Resolution
import ChirpStackSimulator.Routes
import Mathlib.Data.List.Induction

namespace ChirpStackSimulator.Intervals

open LoRaWAN Discovery Setup Routes Bootstrap
open Lifecycle (Status)

/-! ## The store -/

/-- `device_intervals`: the text of an EUI with that of its interval. -/
abbrev IntervalTable := Table.Keyed (Prod.fst : String × String → String)

/-- A second save for one EUI replaces the text. -/
def replaceInterval (new old : String × String) : String × String := (old.1, new.2)

theorem fst_replaceInterval (new old : String × String) (_ : new.1 = old.1) :
    (replaceInterval new old).1 = old.1 := rfl

theorem snd_replaceInterval (new old : String × String) (_ : new.1 = old.1) :
    (replaceInterval new old).2 = new.2 := rfl

/-- `SaveDeviceInterval`. -/
def saveDeviceInterval (table : IntervalTable) (devEUI interval : String) : IntervalTable :=
  table.upsert fst_replaceInterval (devEUI, interval)

/-- The interval stored under a text. -/
def intervalUnder (table : IntervalTable) (text : String) : Option String :=
  table.read Prod.snd text

/-- What is stored under a text after a save. -/
theorem intervalUnder_save (table : IntervalTable) (devEUI interval text : String) :
    intervalUnder (saveDeviceInterval table devEUI interval) text =
      if text = devEUI then some interval else intervalUnder table text :=
  Table.Keyed.read_upsert fst_replaceInterval snd_replaceInterval table (devEUI, interval) text

/-- The stored configurations and intervals. -/
structure Store where
  rows : Rows
  intervals : IntervalTable

def Store.empty : Store := ⟨fun _ => none, .empty⟩

/-- Both tables are kept; all other calls are answered by `other`. -/
def store (other : (c : Call) → c.Answer) : Prog.Env Store Call.Answer := fun s c =>
  match c with
  | .getOrgConfig orgID => (.ok (s.rows orgID), s)
  | .saveOrgConfig orgID cfg =>
    (none, { s with rows := Function.update s.rows orgID (some (stored cfg)) })
  | .getDeviceIntervals => (.ok s.intervals.rows, s)
  | .saveDeviceInterval devEUI interval =>
    (none, { s with intervals := saveDeviceInterval s.intervals devEUI interval })
  | c => (other c, s)

/-! ### A start sees the intervals as they are -/

/-- The answers with these intervals. -/
def readIntervals (table : IntervalTable) (other : (c : Call) → c.Answer) : (c : Call) → c.Answer
  | .getDeviceIntervals => .ok table.rows
  | c => other c

/-- The call does not save an interval. -/
def LeavesIntervals : Call → Prop
  | .saveDeviceInterval _ _ => False
  | _ => True

theorem leavesIntervals_handleStart (parseDuration : String → Except String Int) (post : Bool)
    (body : Except String StartRequest) (status : Status) :
    (handleStart parseDuration post body status).Keeps (fun _ _ => True) LeavesIntervals
      fun _ => True := by
  refine (asks_handleStart parseDuration post body status none).keeps (fun s c hc => ?_)
    fun _ _ _ => trivial
  rcases hc with hc | ⟨sim, rfl⟩
  · cases c <;> first | exact hc | trivial
  · trivial

/-- What a start launches in a store is what it launches over the configurations alone, with the
    intervals answered. -/
theorem launched_store (parseDuration : String → Except String Int)
    (other : (c : Call) → c.Answer) (s : Store) (post : Bool) (body : Except String StartRequest)
    (status : Status) :
    launched ((handleStart parseDuration post body status).events (store other) s) =
      launched ((handleStart parseDuration post body status).events
        (database (readIntervals s.intervals other)) s.rows) := by
  have hagree : ∀ (t : Store) (rows : Rows) (c : Call), LeavesIntervals c →
      t.rows = rows ∧ t.intervals = s.intervals →
      (store other t c).1 = (database (readIntervals s.intervals other) rows c).1 ∧
        (store other t c).2.rows = (database (readIntervals s.intervals other) rows c).2 ∧
        (store other t c).2.intervals = s.intervals := by
    rintro t rows c hc ⟨rfl, hintervals⟩
    cases c with
    | saveDeviceInterval devEUI interval => exact absurd hc not_false
    | getDeviceIntervals =>
      refine ⟨?_, rfl, hintervals⟩
      show Except.ok t.intervals.rows = Except.ok s.intervals.rows
      rw [hintervals]
    | _ => exact ⟨rfl, rfl, hintervals⟩
  rw [((leavesIntervals_handleStart parseDuration post body status).agree hagree ⟨rfl, rfl⟩).2.1]

/-! ## From the table to the device -/

section
variable (parseDuration : String → Except String Int)

/-- The interval of an organisation's devices. -/
def orgInterval (orgCfg : Option StartRequest) : Int :=
  (deviceConfig parseDuration 0 orgCfg).uplinkInterval

/-- The entry of an application has the interval of its organisation. -/
theorem uplinkInterval_deviceConfig (devices : Nat) (orgCfg : Option StartRequest) :
    (deviceConfig parseDuration devices orgCfg).uplinkInterval = orgInterval parseDuration orgCfg := by
  cases orgCfg <;> rfl

/-- What a stored text makes of it: the duration it says, if it says one. -/
def effective (text : Option String) (org : Int) : Int :=
  match text with
  | none => org
  | some text =>
    match parseDuration text with
    | .error _ => org
    | .ok d => d

/-- The text `runSimulation` looks a device up under. -/
def canonical (devEUI : EUI64) : String := Hex.encode devEUI.toList

/-- An entry has the intervals that parse. -/
theorem lookup_parsedIntervals (table : IntervalTable) (text : String) :
    (parsedIntervals parseDuration table.rows).lookup text =
      (intervalUnder table text).bind fun interval => (parseDuration interval).toOption := by
  obtain ⟨rows, hnodup⟩ := table
  show (parsedIntervals parseDuration rows).lookup text =
    ((Table.find Prod.fst text rows).map Prod.snd).bind _
  induction rows with
  | nil => rfl
  | cons row rows ih =>
    obtain ⟨hfresh, hrows⟩ := List.nodup_cons.mp hnodup
    have hrest := ih hrows
    rw [Table.find_cons]
    by_cases htext : row.1 = text
    · have hnone : Table.find Prod.fst text rows = none := by
        rw [← Option.not_isSome_iff_eq_none, Table.find_isSome, ← htext]
        exact hfresh
      rw [hnone] at hrest
      rw [if_pos htext]
      cases hparse : parseDuration row.2 with
      | error e =>
        have hdropped : parsedIntervals parseDuration (row :: rows) =
            parsedIntervals parseDuration rows := by
          simp [parsedIntervals, hparse]
        rw [hdropped, hrest]
        simp [hparse, Except.toOption]
      | ok d =>
        simp [parsedIntervals, hparse, htext, Except.toOption]
    · have hsame : (parsedIntervals parseDuration (row :: rows)).lookup text =
          (parsedIntervals parseDuration rows).lookup text := by
        cases hparse : parseDuration row.2 with
        | error e => simp [parsedIntervals, hparse]
        | ok d =>
          have hcons : parsedIntervals parseDuration (row :: rows) =
              (row.1, d) :: parsedIntervals parseDuration rows := by
            simp [parsedIntervals, hparse]
          rw [hcons, List.lookup_cons, beq_false_of_ne (Ne.symm htext)]
      rw [if_neg htext, hsame, hrest]

/-- What a simulation of a start is given of the intervals. -/
theorem intervals_of_launched (other : (c : Call) → c.Answer) (s : Store) {req : StartRequest}
    {status : Status} (hvalid : validateStartRequest parseDuration req = .ok ())
    (hstatus : status = .idle ∨ status = .error) {sim : Simulation}
    (hsim : sim ∈ launched ((handleStart parseDuration true (.ok req) status).events (store other) s)) :
    sim.deviceIntervals = parsedIntervals parseDuration s.intervals.rows ∧
      sim.uplinkInterval = orgInterval parseDuration
        (synced (readIntervals s.intervals other) s.rows sim.tenantID) := by
  rw [launched_store, launched_handleStart parseDuration _ _ hvalid hstatus] at hsim
  obtain ⟨i, hi⟩ := List.mem_iff_getElem?.mp hsim
  obtain ⟨c, hc, hnew⟩ := Resolution.getElem?_launchedFrom hi
  obtain ⟨f, -, rfl⟩ := List.mem_map.mp (List.mem_of_getElem? hc)
  unfold newSimulation at hnew
  split at hnew
  · exact absurd hnew (by simp)
  · obtain rfl := Except.ok.inj hnew
    exact ⟨rfl, uplinkInterval_deviceConfig parseDuration _ _⟩

/-- A generated configuration has the interval that stands for a missing one. -/
theorem orgInterval_synced (h2m : parseDuration "2m" = .ok 120000000000)
    (other : (c : Call) → c.Answer) (rows : Rows) (tenantID : String) :
    orgInterval parseDuration (synced other rows tenantID) =
      orgInterval parseDuration (rows tenantID) := by
  refine synced_same other rows (orgInterval parseDuration) (fun _ _ _ _ => ?_) tenantID
  have hinterval : orgInterval parseDuration none = 120000000000 := rfl
  rw [hinterval]
  show (match parseDuration "2m" with
    | .error _ => 120000000000
    | .ok d => if "2m" = "" then 120000000000 else d) = _
  rw [h2m]
  rfl

end

/-! ### What the devices of a simulation are made with -/

section
variable (lib : Parsers) (sim : Simulation)

/-- A device that the call makes is made with the options `runSimulation` has for it. -/
def MakesAsGiven : Call → Prop
  | .newDevice opts => ∃ s deviceIdx appKey gateways,
      opts = deviceOptions sim s deviceIdx opts.devEUI appKey gateways
  | _ => True

/-- The contract of the programs of a simulation. -/
abbrev AsGiven {α : Type} (p : Action α) : Prop :=
  p.Keeps (fun _ _ => True) (MakesAsGiven sim) fun _ => True

/-- A quiet call makes no device. -/
theorem makesAsGiven_of_quiet {c : Call} (h : Quiet c) : MakesAsGiven sim c := by
  cases c with
  | newDevice opts => exact absurd trivial h.1
  | _ => trivial

theorem asGiven_pickGateways (gateways : Nat) (devNumGateways : Int) (fuel : Nat)
    (picked : List Nat) : AsGiven sim (pickGateways gateways devNumGateways fuel picked) := by
  induction fuel generalizing picked with
  | zero =>
    unfold pickGateways
    split <;> trivial
  | succ fuel ih =>
    unfold pickGateways
    split
    · cases gateways with
      | zero => trivial
      | succ bound => exact Prog.Keeps.ask_bind trivial fun _ _ => ih _
    · trivial

/-- By induction on the devices: each gets its own interval or the common one. -/
theorem asGiven_newDevices (fuel : Nat) (s : Loaded) (keys : List (EUI64 × AES128Key))
    (deviceIdx : Nat) : AsGiven sim (newDevices sim fuel s deviceIdx keys) := by
  induction keys generalizing deviceIdx with
  | nil => trivial
  | cons key keys ih =>
    unfold newDevices
    split
    · trivial
    · refine Prog.Keeps.ask_bind trivial fun extra _ =>
        (asGiven_pickGateways sim _ _ _ _).bind fun r _ => ?_
      split
      · exact Prog.Keeps.ask_bind ⟨s, deviceIdx, key.2, _, rfl⟩ fun _ _ => ih _
      · trivial

theorem asGiven_newGateways (ids : List EUI64) : AsGiven sim (newGateways lib sim ids) := by
  have hnew : ∀ opts, AsGiven sim (newGateway lib opts) := by
    intro opts
    unfold newGateway
    split
    · trivial
    · split
      · trivial
      · exact Prog.Keeps.ask_bind trivial fun _ _ => trivial
  induction ids with
  | nil => trivial
  | cons id ids ih =>
    refine (hnew _).bind fun r _ => ?_
    cases r with
    | error e => trivial
    | ok _ => exact ih

theorem asGiven_runSimulation (fuel : Nat) (s : Loaded) :
    AsGiven sim (runSimulation lib sim fuel s) := by
  refine (asGiven_newGateways lib sim _).bind fun r _ => ?_
  cases r with
  | ok =>
    refine (asGiven_newDevices sim _ _ _ _).bind fun r _ => ?_
    cases r with
    | ok => exact Prog.Keeps.ask_bind trivial fun _ _ => trivial
    | _ => trivial
  | _ => trivial

/-- **Every device of a simulation is made with the interval it was given.** -/
theorem asGiven_start (fuel : Nat) : AsGiven sim (start lib sim fuel) := by
  have hend : ∀ s : Loaded, AsGiven sim (tearDown sim s >>= fun _ => Call.ask .wgDone >>= fun _ =>
      (pure .ok : Action Ending)) := fun s =>
    ((quiet_tearDown sim s).mono_calls fun _ => makesAsGiven_of_quiet sim).bind fun _ _ =>
      Prog.Keeps.ask_bind trivial fun _ _ => trivial
  have hafter : ∀ s : Loaded, AsGiven sim (afterInit lib sim fuel s) := by
    intro s
    refine (asGiven_runSimulation lib sim fuel s).bind fun r _ => ?_
    cases r with
    | ok => exact hend s
    | error e => exact hend s
    | _ => trivial
  refine ((keeps_init sim fuel .empty).mono_calls fun _ => makesAsGiven_of_quiet sim).bind
    fun r _ => ?_
  obtain ⟨s, ending⟩ := r
  cases ending with
  | ok => exact hafter s
  | error e => exact hafter s
  | _ => trivial

end

/-- The device comes into being in some run of a simulation that is launched by a start. -/
def Made (lib : Parsers) (parseDuration : String → Except String Int)
    (other : (c : Call) → c.Answer) (s : Store) (req : StartRequest) (status : Status)
    (sim : Simulation) (opts : DeviceOptions) : Prop :=
  sim ∈ launched ((handleStart parseDuration true (.ok req) status).events (store other) s) ∧
    ∃ (σ : Type) (env : Prog.Env σ Call.Answer) (w : σ) (fuel : Nat),
      ∃ e ∈ (start lib sim fuel).events env w, e.call = .newDevice opts

section
variable {lib : Parsers} {parseDuration : String → Except String Int}
  {other : (c : Call) → c.Answer} {s : Store} {req : StartRequest} {status : Status}
  {sim : Simulation} {opts : DeviceOptions}

/-- **What a device runs with**: what is stored under the canonical text of its EUI, if it parses, and
    else the interval of its organisation. -/
theorem uplinkInterval_made (h2m : parseDuration "2m" = .ok 120000000000)
    (hvalid : validateStartRequest parseDuration req = .ok ())
    (hstatus : status = .idle ∨ status = .error)
    (hmade : Made lib parseDuration other s req status sim opts) :
    opts.uplinkInterval = effective parseDuration (intervalUnder s.intervals (canonical opts.devEUI))
      (orgInterval parseDuration (s.rows sim.tenantID)) := by
  obtain ⟨hsim, σ, env, w, fuel, e, he, hcall⟩ := hmade
  obtain ⟨hintervals, horg⟩ := intervals_of_launched parseDuration other s hvalid hstatus hsim
  rw [orgInterval_synced parseDuration h2m] at horg
  have hgiven : MakesAsGiven sim e.call :=
    ((asGiven_start lib sim fuel).of_run fun _ _ => trivial).1 e he
  rw [hcall] at hgiven
  obtain ⟨loaded, deviceIdx, appKey, gateways, hopts⟩ := hgiven
  have hinterval : opts.uplinkInterval = devInterval sim opts.devEUI := by
    rw [hopts]
    rfl
  rw [hinterval]
  unfold devInterval
  rw [hintervals, lookup_parsedIntervals, horg]
  show ((intervalUnder s.intervals (canonical opts.devEUI)).bind _).getD _ = _
  unfold effective
  cases intervalUnder s.intervals (canonical opts.devEUI) with
  | none => rfl
  | some text =>
    dsimp only [Option.bind_some]
    cases parseDuration text <;> rfl

end

/-! ## Which save counts -/

/-- What a request to `POST /api/device-intervals` saves. -/
def accepted : Except String (String × String) → Option (String × String)
  | .error _ => none
  | .ok req => if req.1 = "" ∨ req.2 = "" then none else some req

/-- The store after these requests. -/
def afterPosts (other : (c : Call) → c.Answer) (s : Store)
    (posts : List (Except String (String × String))) : Store :=
  posts.foldl (fun s body => (handleSaveDeviceInterval body).final (store other) s) s

/-- The last interval saved by these requests for a text that meets `p`. -/
def lastSaved (p : String → Bool) (posts : List (Except String (String × String))) :
    Option String :=
  (Table.latest (fun save : String × String => p save.1) (posts.filterMap accepted)).map Prod.snd

/-- The last interval saved under exactly this text. -/
def lastUnder (text : String) (posts : List (Except String (String × String))) : Option String :=
  lastSaved (fun t => t = text) posts

/-- The last interval saved for a device, in whatever spelling of its EUI. -/
def lastFor (lib : Parsers) (devEUI : EUI64) (posts : List (Except String (String × String))) :
    Option String :=
  lastSaved (fun t => (lib.eui64 t).toOption = some devEUI) posts

/-- What a request leaves in the store. -/
theorem final_handleSaveDeviceInterval (other : (c : Call) → c.Answer) (s : Store)
    (body : Except String (String × String)) :
    (handleSaveDeviceInterval body).final (store other) s =
      match accepted body with
      | none => s
      | some save => { s with intervals := saveDeviceInterval s.intervals save.1 save.2 } := by
  cases body with
  | error e => rfl
  | ok req =>
    show (if req.1 = "" ∨ req.2 = "" then _ else _ : Action Response).final _ _ = _
    unfold accepted
    dsimp only
    split <;> rfl

/-- The last save, one request later. -/
theorem lastSaved_append (p : String → Bool) (posts : List (Except String (String × String)))
    (body : Except String (String × String)) :
    lastSaved p (posts ++ [body]) =
      match accepted body with
      | none => lastSaved p posts
      | some save => if p save.1 then some save.2 else lastSaved p posts := by
  unfold lastSaved
  rw [List.filterMap_append]
  cases haccepted : accepted body with
  | none => simp [haccepted]
  | some save =>
    rw [List.filterMap_cons_some haccepted, List.filterMap_nil, Table.latest_append]
    dsimp only
    split <;> rfl

theorem lastSaved_eq_none {p : String → Bool} {posts : List (Except String (String × String))} :
    lastSaved p posts = none ↔ ∀ save ∈ posts.filterMap accepted, ¬ p save.1 = true := by
  unfold lastSaved
  rw [Option.map_eq_none_iff, Table.latest_eq_none]

/-- These requests change no configuration. -/
theorem rows_afterPosts (other : (c : Call) → c.Answer) (s : Store)
    (posts : List (Except String (String × String))) : (afterPosts other s posts).rows = s.rows := by
  induction posts generalizing s with
  | nil => rfl
  | cons body posts ih =>
    refine (ih _).trans ?_
    show ((handleSaveDeviceInterval body).final (store other) s).rows = s.rows
    rw [final_handleSaveDeviceInterval]
    split <;> rfl

/-- The table keeps the last save of every text. -/
theorem intervalUnder_afterPosts (other : (c : Call) → c.Answer) (rows : Rows)
    (posts : List (Except String (String × String))) (text : String) :
    intervalUnder (afterPosts other ⟨rows, .empty⟩ posts).intervals text = lastUnder text posts := by
  induction posts using List.reverseRecOn with
  | nil => rfl
  | append_singleton posts body ih =>
    have hstep : afterPosts other ⟨rows, .empty⟩ (posts ++ [body]) =
        (handleSaveDeviceInterval body).final (store other)
          (afterPosts other ⟨rows, .empty⟩ posts) := by
      unfold afterPosts
      rw [List.foldl_append]
      rfl
    rw [hstep, final_handleSaveDeviceInterval]
    unfold lastUnder at ih ⊢
    rw [lastSaved_append]
    cases accepted body with
    | none => exact ih
    | some save =>
      dsimp only
      rw [intervalUnder_save, ih]
      by_cases htext : text = save.1
      · rw [if_pos htext, if_pos (decide_eq_true htext.symm)]
      · have hne : ¬ decide (save.1 = text) = true := by
          rw [decide_eq_true_eq]
          exact Ne.symm htext
        rw [if_neg htext, if_neg hne]

/-- A device runs with the last interval saved for it, if that parses, and if none was saved with that
    of its organisation. -/
def AsSaved (lib : Parsers) (parseDuration : String → Except String Int)
    (posts : List (Except String (String × String))) (org : Int) (opts : DeviceOptions) : Prop :=
  match lastFor lib opts.devEUI posts with
  | none => opts.uplinkInterval = org
  | some text => ∀ d, parseDuration text = .ok d → opts.uplinkInterval = d

/-- **A saved interval is the one used** exactly if what is saved last under the canonical text comes
    to the same. -/
theorem asSaved_iff {lib : Parsers}
    (hcanonical : ∀ id : EUI64, lib.eui64 (Hex.encode id.toList) = .ok id)
    {parseDuration : String → Except String Int} (h2m : parseDuration "2m" = .ok 120000000000)
    {other other' : (c : Call) → c.Answer} {rows : Rows}
    {posts : List (Except String (String × String))} {req : StartRequest} {status : Status}
    (hvalid : validateStartRequest parseDuration req = .ok ())
    (hstatus : status = .idle ∨ status = .error) {sim : Simulation} {opts : DeviceOptions}
    (hmade : Made lib parseDuration other' (afterPosts other ⟨rows, .empty⟩ posts) req status sim opts) :
    AsSaved lib parseDuration posts (orgInterval parseDuration (rows sim.tenantID)) opts ↔
      ∀ text d, lastFor lib opts.devEUI posts = some text → parseDuration text = .ok d →
        effective parseDuration (lastUnder (canonical opts.devEUI) posts)
          (orgInterval parseDuration (rows sim.tenantID)) = d := by
  have hruns := uplinkInterval_made h2m hvalid hstatus hmade
  rw [intervalUnder_afterPosts, rows_afterPosts] at hruns
  unfold AsSaved
  cases hlast : lastFor lib opts.devEUI posts with
  | some text =>
    dsimp only
    rw [hruns]
    constructor
    · rintro h _ d hsome hparse
      obtain rfl := Option.some.inj hsome
      exact h d hparse
    · exact fun h d hparse => h text d rfl hparse
  | none =>
    -- nothing saved for the device, so nothing under its canonical text
    have hnone : lastUnder (canonical opts.devEUI) posts = none := by
      refine lastSaved_eq_none.mpr fun save hsave htext => lastSaved_eq_none.mp hlast save hsave ?_
      rw [decide_eq_true_eq] at htext ⊢
      rw [htext]
      exact congrArg Except.toOption (hcanonical opts.devEUI)
    refine iff_of_true ?_ fun text d h _ => by cases h
    rw [hruns, hnone]
    rfl

/-! ### A device with a letter in its EUI -/

/-- A tenant with a gateway and an application of one device. -/
def letterDevice : (r : RPC) → r.Answer
  | .listTenants _ => .ok [⟨"acme", "Acme"⟩]
  | .getTenant id => .ok ⟨id, "Acme", "", true⟩
  | .listGateways _ _ => .ok [⟨"0102030405060708", "gateway"⟩]
  | .listDeviceProfiles _ _ => .ok [⟨"00000000000000000000000000000001", "sensors-profile"⟩]
  | .listApplications _ _ => .ok [⟨"application", "sensors"⟩]
  | .listDevices _ _ _ _ => .ok [⟨"00000000000000ab", "device"⟩]
  | .getDevice devEUI => .ok ⟨devEUI, "device", "", "application", "profile", false⟩
  | .getKeys devEUI =>
    .ok ⟨devEUI, "00000000000000000000000000000011", "00000000000000000000000000000011"⟩
  | r => r.unavailable

def letterEUI : EUI64 := #v[0, 0, 0, 0, 0, 0, 0, 0xab]

/-- The simulation a start launches with these intervals. -/
def letterSimulation (deviceIntervals : List (String × Int)) : Simulation :=
  { sensors with tenantID := "acme", deviceCount := 1, anomalyDuration := 0, deviceIntervals }

/-- What is loaded for it: but for the tenant and the device's EUI, what `firstLoaded` has. -/
def letterLoaded : Loaded :=
  { firstLoaded with
    tenant := ⟨"acme", "Acme", "", true⟩
    deviceEUIs := [letterEUI]
    deviceAppKeys := firstLoaded.deviceAppKeys.map fun entry => (letterEUI, entry.2)
    deviceNames := [(letterEUI, "device")] }

/-- Its device comes into being, whatever the intervals are. -/
theorem made_letterDevice (s : Store) (hrows : s.rows = fun _ => none) :
    ∃ opts, opts.devEUI = letterEUI ∧
      Made .plain someDurations (Call.answer letterDevice) s .empty .idle
        (letterSimulation (parsedIntervals someDurations s.intervals.rows)) opts := by
  have hinit : ∀ iv, (init .plain (letterSimulation iv) 1 .empty).result
      (steady (Call.answer letterDevice)) () = (letterLoaded, .ok) := fun _ => rfl
  have hmade : ∀ iv, ∃ opts, opts.devEUI = letterEUI ∧
      ∃ e ∈ (start .plain (letterSimulation iv) 1).events (steady (Call.answer letterDevice)) (),
        e.call = .newDevice opts := by
    intro iv
    have hafter : ∃ opts, opts.devEUI = letterEUI ∧
        ∃ e ∈ (afterInit .plain (letterSimulation iv) 1 letterLoaded).events
          (steady (Call.answer letterDevice)) (), e.call = .newDevice opts :=
      ⟨_, rfl, _, List.mem_cons_of_mem _ (List.mem_cons_of_mem _
        (List.mem_cons_of_mem _ List.mem_cons_self)), rfl⟩
    obtain ⟨opts, heui, e, he, hcall⟩ := hafter
    refine ⟨opts, heui, e, ?_, hcall⟩
    unfold start
    rw [Prog.events_bind, hinit]
    exact List.mem_append_right _ he
  obtain ⟨opts, heui, hevents⟩ := hmade (parsedIntervals someDurations s.intervals.rows)
  refine ⟨opts, heui, ?_, Unit, steady (Call.answer letterDevice), (), 1, hevents⟩
  have hpayload : Hex.decode "001903F521" = some [0, 25, 3, 245, 33] := by decide
  have hlaunched : launchedFrom 0 [simulatorConfig someDurations "acme" "sensors" 1 1
      (some (missingConfig "acme" 1 "sensors" "sim-dev")) s.intervals.rows] =
      [letterSimulation (parsedIntervals someDurations s.intervals.rows)] := by
    unfold launchedFrom newSimulation
    have hdefault : (simulatorConfig someDurations "acme" "sensors" 1 1
        (some (missingConfig "acme" 1 "sensors" "sim-dev")) s.intervals.rows).device.payload =
          "001903F521" := rfl
    rw [hdefault, hpayload]
    rfl
  rw [launched_store, launched_handleStart someDurations _ _ rfl (Or.inl rfl), hrows]
  show _ ∈ launchedFrom 0 [simulatorConfig someDurations "acme" "sensors" 1 1
    (some (missingConfig "acme" 1 "sensors" "sim-dev")) s.intervals.rows]
  rw [hlaunched]
  exact List.mem_singleton.mpr rfl

/-- Saved under the canonical text, the interval is used. -/
theorem asSaved_letterDevice : ∃ sim opts, Made .plain someDurations (Call.answer letterDevice)
    (afterPosts (Call.answer letterDevice) ⟨fun _ => none, .empty⟩ [.ok ("00000000000000ab", "30s")])
    .empty .idle sim opts ∧
      AsSaved .plain someDurations [.ok ("00000000000000ab", "30s")]
        (orgInterval someDurations none) opts := by
  obtain ⟨opts, heui, hmade⟩ := made_letterDevice (afterPosts (Call.answer letterDevice)
    ⟨fun _ => none, .empty⟩ [.ok ("00000000000000ab", "30s")]) rfl
  refine ⟨_, opts, hmade, ?_⟩
  refine (asSaved_iff Resolution.parseBytes_encode rfl rfl (Or.inl rfl) hmade).mpr ?_
  rw [heui]
  intro text d hlast hparse
  obtain rfl : "30s" = text := Option.some.inj hlast
  exact Except.ok.inj hparse

/-- Saved in upper case it is not: the device runs with the two minutes of its organisation. -/
theorem upperCase_not_asSaved : ∃ sim opts, Made .plain someDurations (Call.answer letterDevice)
    (afterPosts (Call.answer letterDevice) ⟨fun _ => none, .empty⟩ [.ok ("00000000000000AB", "30s")])
    .empty .idle sim opts ∧
      lastFor .plain opts.devEUI [.ok ("00000000000000AB", "30s")] = some "30s" ∧
      opts.uplinkInterval = 120000000000 ∧
      ¬ AsSaved .plain someDurations [.ok ("00000000000000AB", "30s")]
        (orgInterval someDurations none) opts := by
  obtain ⟨opts, heui, hmade⟩ := made_letterDevice (afterPosts (Call.answer letterDevice)
    ⟨fun _ => none, .empty⟩ [.ok ("00000000000000AB", "30s")]) rfl
  have hlast : lastFor .plain opts.devEUI [.ok ("00000000000000AB", "30s")] = some "30s" := by
    rw [heui]
    rfl
  have hruns : opts.uplinkInterval = 120000000000 := by
    rw [uplinkInterval_made rfl rfl (Or.inl rfl) hmade, heui]
    rfl
  refine ⟨_, opts, hmade, hlast, hruns, fun h => ?_⟩
  unfold AsSaved at h
  rw [hlast] at h
  have hsaved : opts.uplinkInterval = 30000000000 := h _ rfl
  rw [hruns] at hsaved
  exact absurd hsaved (by decide)

end ChirpStackSimulator.Intervals
