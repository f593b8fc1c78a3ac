/-
  Restarting after a topology change (`showTopologyChangeModal` in
  `internal/api/frontend/js/passive-sync.js`).

  The restart button of the dialog stops the simulation, waits 1500 ms, asks for the status and starts
  with the configuration it is told.  The server forgets the configuration when the run becomes idle,
  and accepts a start only from then on.

  1. **The flow** — the dialog's program point beside the server's world.  The labels are the steps of
     the dialog and those of the server's goroutines; no other client acts.
  2. **What the server remembers** — `Remembers`: in `idle` there is no configuration, otherwise there
     is one that a start would accept unchanged.  It holds in every reachable world.
  3. **The flow's invariant** — `Flowing`: until the flow is over the server holds the stopped run's
     configuration or none.
  4. `restarted_iff`: the flow ends with an accepted start exactly if the run becomes idle between the
     status request and the start request, or had failed before.
-/
import ChirpStackSimulator.Metrics
import ChirpStackSimulator.OneRun

namespace ChirpStackSimulator.RestartFlow

open Lifecycle Transition

/-! ## The flow -/

/-- The start request the dialog has sent. -/
structure Restart where
  /-- What the server decodes its body to. -/
  body : Except String StartRequest
  answer : Response
  /-- `SimState.Config` afterwards. -/
  config : Option StartRequest

/-- Where the handler of the restart button stands. -/
inductive Dialog where
  /-- The stop request was answered; the 1500 ms are running. -/
  | waiting
  /-- The time is up, the status request is under way. -/
  | asking
  /-- It was told a configuration, the start request is under way. -/
  | starting (cfg : StartRequest)
  /-- It has returned. -/
  | over (sent : Option Restart)

structure Flow where
  server : World
  dialog : Dialog

/-- What the server decodes from a configuration that went through the browser: its integers are
    JavaScript numbers there, `number` is what becomes of one on the way back. -/
def passedOn (number : Int → Except String Int) (cfg : StartRequest) : Except String StartRequest := do
  let deviceCount ← number cfg.deviceCount
  let gatewayCount ← number cfg.gatewayCount
  let latencyMs ← number cfg.latencyMs
  let frequency ← number cfg.frequency
  let bandwidth ← number cfg.bandwidth
  let spreadingFactor ← number cfg.spreadingFactor
  let anomalyDuration ← number cfg.anomalyDuration
  let syncIntervalMinutes ← number cfg.syncIntervalMinutes
  return { cfg with
    deviceCount := deviceCount
    gatewayCount := gatewayCount
    latencyMs := latencyMs
    frequency := frequency
    bandwidth := bandwidth
    spreadingFactor := spreadingFactor
    anomalyDuration := anomalyDuration
    syncIntervalMinutes := syncIntervalMinutes }

inductive Label where
  /-- The 1500 ms are over. -/
  | timeout
  /-- `GET /api/status` is served. -/
  | status (db : OrgConfigs.DB) (now : Int) (counters : Metrics.Counters)
  /-- `POST /api/start` is served; the discovery has ended in `discovered`. -/
  | start (discovered : Except String (List SimulatorConfig)) (now : Int)
  /-- The goroutine of a run goes on. -/
  | run (r : Nat)
  /-- A simulation of a run, or one of its device loops, goes on. -/
  | sim (r : Nat) (i : Nat) (e : SimEvent)

section
variable (parseDuration : String → Except String Int) (number : Int → Except String Int)

/-- The start request the dialog sends. -/
def startCall (cfg : StartRequest) (discovered : Except String (List SimulatorConfig)) (now : Int) :
    StartCall :=
  ⟨true, passedOn number cfg, discovered, now⟩

def step (s : Flow) : Label → Option Flow
  | .timeout =>
    match s.dialog with
    | .waiting => some { s with dialog := .asking }
    | _ => none
  | .status db now counters =>
    match s.dialog with
    | .asking =>
      match (Metrics.handleStatus s.server.state db now "" counters).1.config with
      | some cfg => some { s with dialog := .starting cfg }
      | none => some { s with dialog := .over none }
    | _ => none
  | .start discovered now =>
    match s.dialog with
    | .starting cfg =>
      let (server, answer) :=
        handleStart parseDuration s.server (startCall number cfg discovered now)
      some ⟨server, .over (some ⟨passedOn number cfg, answer, server.state.config⟩)⟩
    | _ => none
  | .run r => (Lifecycle.step parseDuration s.server (.run r)).map fun w => { s with server := w }
  | .sim r i e =>
    (Lifecycle.step parseDuration s.server (.sim r i e)).map fun w => { s with server := w }

/-- The flow after the stop request: the world it has left, and the timer that was set. -/
def stopped (w : World) : Flow := ⟨(handleStop w true).1, .waiting⟩

/-! ## The law -/

/-- The flow of the run that was stopped in `w` is over and has ended with a start request that was
    accepted, with the configuration of that run. -/
def Restarted (w : World) (s : Flow) : Prop :=
  ∃ sent cfg, s.dialog = .over (some sent) ∧ sent.answer = .ok "starting" ∧
    w.state.config = some cfg ∧ sent.body = .ok cfg ∧ sent.config = some cfg

/-- The run has not become idle when the status is asked for, and it is over when the start is served;
    the discovery succeeds, and the numbers of the configuration come back as they were. -/
def InTime (s : Flow) : Label → Prop
  | .status _ _ _ => s.server.state.status ≠ .idle
  | .start discovered _ => (∀ run ∈ s.server.runs, run.phase = .finished) ∧
      (∃ cfg, discovered = .ok cfg) ∧ ∀ cfg, s.dialog = .starting cfg → passedOn number cfg = .ok cfg
  | _ => True

end

/-! ## What the server remembers -/

variable {parseDuration : String → Except String Int} {number : Int → Except String Int}

/-- A configuration a start would accept and store as it is. -/
structure Complete (parseDuration : String → Except String Int) (cfg : StartRequest) : Prop where
  valid : cfg.Valid parseDuration
  completed : sanitize (applyDefaults cfg) = cfg

/-- The configuration of a run is kept until the run is idle, and the status is busy only while the
    goroutine of some run is not over. -/
structure Remembers (parseDuration : String → Except String Int) (w : World) : Prop where
  orderly : Orderly w
  idle : w.state.status = .idle → w.state.config = none
  kept : w.state.status ≠ .idle → ∃ cfg, w.state.config = some cfg ∧ Complete parseDuration cfg
  occupied : Busy w.state.status → ∃ run ∈ w.runs, run.phase ≠ .finished

/-- A server that holds a configuration is not idle. -/
theorem Remembers.ne_idle {w : World} (hw : Remembers parseDuration w) {cfg : StartRequest}
    (hcfg : w.state.config = some cfg) : w.state.status ≠ .idle := by
  intro hidle
  rw [hw.idle hidle] at hcfg
  cases hcfg

/-- A start that is accepted is of a valid request, which is completed; one that is not leaves
    everything as it is. -/
theorem handleStart_completes (parseDuration : String → Except String Int) (w : World) (q : StartCall) :
    ((handleStart parseDuration w q).1 = w ∧ (handleStart parseDuration w q).2 ≠ .ok "starting") ∨
    ∃ req cfg, q.body = .ok req ∧ req.Valid parseDuration ∧ q.discovered = .ok cfg ∧
      (w.state.status = .idle ∨ w.state.status = .error) ∧
      handleStart parseDuration w q =
        (acceptStart w (sanitize (applyDefaults req)) cfg q.now, .ok "starting") := by
  unfold handleStart
  split
  · exact Or.inl ⟨rfl, fun h => absurd (congrArg Response.code h) (by simp)⟩
  · split
    · exact Or.inl ⟨rfl, fun h => absurd (congrArg Response.code h) (by simp)⟩
    · rename_i req hbody
      split
      · exact Or.inl ⟨rfl, fun h => absurd (congrArg Response.code h) (by simp)⟩
      · rename_i hvalid
        split
        · exact Or.inl ⟨rfl, fun h => absurd (congrArg Response.code h) (by simp)⟩
        · rename_i cfg hd
          split
          · exact Or.inl ⟨rfl, fun h => absurd (congrArg Response.code h) (by simp)⟩
          · rename_i hst
            refine Or.inr ⟨req, cfg, hbody, validateStartRequest_iff.mp hvalid, hd, ?_, rfl⟩
            cases hs : w.state.status <;> simp_all

/-- A start is accepted if nothing speaks against it. -/
theorem handleStart_accepts (parseDuration : String → Except String Int) {w : World} {q : StartCall}
    {req : StartRequest} {cfg : List SimulatorConfig} (hpost : q.post = true) (hbody : q.body = .ok req)
    (hvalid : req.Valid parseDuration) (hd : q.discovered = .ok cfg)
    (hst : w.state.status = .idle ∨ w.state.status = .error) :
    handleStart parseDuration w q =
      (acceptStart w (sanitize (applyDefaults req)) cfg q.now, .ok "starting") := by
  unfold handleStart
  rw [if_neg (by rw [hpost]; decide), hbody]
  dsimp only
  rw [validateStartRequest_iff.mpr hvalid, hd]
  dsimp only
  rw [if_neg]
  rintro ⟨hidle, herror⟩
  rcases hst with hst | hst
  · exact hidle hst
  · exact herror hst

theorem remembers_init : Remembers parseDuration Lifecycle.init where
  orderly := orderly_init
  idle _ := rfl
  kept h := absurd rfl h
  occupied h := absurd rfl h.ne_idle

/-- Which goroutines are over is a matter of the phases alone. -/
theorem unfinished_of_phases {runs runs' : List Run}
    (h : runs'.map Run.phase = runs.map Run.phase) (hf : ∃ run ∈ runs, run.phase ≠ .finished) :
    ∃ run ∈ runs', run.phase ≠ .finished := by
  obtain ⟨run, hmem, hne⟩ := hf
  have hphase : run.phase ∈ runs'.map Run.phase := by
    rw [h]
    exact List.mem_map_of_mem hmem
  obtain ⟨run', hmem', heq⟩ := List.mem_map.mp hphase
  exact ⟨run', hmem', heq ▸ hne⟩

theorem phases_acceptStop (w : World) : (acceptStop w).runs.map Run.phase = w.runs.map Run.phase := by
  unfold acceptStop cancelRun
  split
  · rfl
  · rename_i r hc
    refine List.ext_getElem? fun i => ?_
    rw [List.getElem?_map, List.getElem?_map, List.getElem?_modify]
    cases w.runs[i]? with
    | none => rfl
    | some run => by_cases hri : r = i <;> simp [hri]

theorem phases_simMove {runs : List Run} {r i : Nat} {run run' : Run} {e : SimEvent}
    (hr : runs[r]? = some run) (hmove : simMove run i e = some run') :
    (runs.set r run').map Run.phase = runs.map Run.phase := by
  obtain ⟨hlt, rfl⟩ := List.getElem?_eq_some_iff.mp hr
  have hlt' : r < (runs.map Run.phase).length := by simpa using hlt
  rw [List.map_set, (simMove_run hmove).1, ← List.getElem_map Run.phase (h := hlt'),
    List.set_getElem_self]

/-- A goroutine step keeps the configuration until it makes the status idle. -/
theorem remembers_advance {w : World} (hw : Remembers parseDuration w) {r : Nat} {run run' : Run}
    {st : SimState} (hr : w.runs[r]? = some run) (hadv : advance w.state run = some (st, run'))
    (horderly : Orderly ⟨st, w.runs.set r run'⟩) :
    Remembers parseDuration ⟨st, w.runs.set r run'⟩ := by
  have hbusy : Busy w.state.status := (hw.orderly r run hr (advance_state hadv).1).2.1
  have hnotIdle : w.state.status ≠ .idle := hbusy.ne_idle
  have hmem : run' ∈ w.runs.set r run' :=
    List.mem_set (List.getElem?_eq_some_iff.mp hr).1 run'
  -- as long as the goroutine is not over it is the unfinished run
  have hgoes : ∀ st', st' = st → st'.config = w.state.config → (st'.status ≠ .idle) →
      (run'.phase ≠ .finished ∨ ¬ Busy st'.status) → Remembers parseDuration ⟨st, w.runs.set r run'⟩ := by
    rintro st' rfl hcfg hne hocc
    refine ⟨horderly, fun h => absurd h hne, fun _ => ?_, fun hb => ?_⟩
    · show ∃ cfg, st'.config = some cfg ∧ _
      rw [hcfg]
      exact hw.kept hnotIdle
    · rcases hocc with hf | hnb
      · exact ⟨run', hmem, hf⟩
      · exact absurd hb hnb
  cases advance_cases hadv with
  | begins cfg hp => exact hgoes _ rfl rfl (by simp) (Or.inl (by simp))
  | launches i c rest sim hp _ => exact hgoes _ rfl rfl hnotIdle (Or.inl (by simp))
  | rejects i c rest hp _ => exact hgoes _ rfl rfl hnotIdle (Or.inl (by simp))
  | waits i hp => exact hgoes _ rfl rfl hnotIdle (Or.inl (by simp))
  | drains hp _ => exact hgoes _ rfl rfl hnotIdle (Or.inl (by simp))
  | fails hp => exact hgoes _ rfl rfl (by simp) (Or.inr (by simp [Busy]))
  | ends hp =>
    exact ⟨horderly, fun _ => rfl, fun h => absurd rfl h, fun h => absurd rfl h.ne_idle⟩

theorem remembers_step {parseDuration : String → Except String Int}
    (h1m : parseDuration "1m" = .ok 60000000000) (h2m : parseDuration "2m" = .ok 120000000000)
    {w w' : World} {a : Lifecycle.Label} (hw : Remembers parseDuration w)
    (h : Lifecycle.step parseDuration w a = some w') : Remembers parseDuration w' := by
  have horderly : Orderly w' := orderly_step hw.orderly h
  cases a with
  | start q =>
    simp only [Lifecycle.step, Option.some.injEq] at h
    rcases handleStart_completes parseDuration w q with
      ⟨hsame, -⟩ | ⟨req, cfg, -, hvalid, -, -, heq⟩
    · rw [← h, hsame]
      exact hw
    · rw [heq] at h
      subst h
      refine ⟨horderly, fun h => absurd h (by simp [acceptStart]), fun _ => ?_, fun _ => ?_⟩
      · exact ⟨_, rfl, hvalid.completed h1m h2m, completed_idem req⟩
      · exact ⟨_, List.mem_append_right _ (List.mem_singleton_self _), by simp⟩
  | stop post =>
    simp only [Lifecycle.step, Option.some.injEq] at h
    rcases handleStop_cases w post with ⟨hsame, -⟩ | ⟨hst, heq⟩
    · rw [← h, hsame]
      exact hw
    · rw [heq] at h
      subst h
      have hbusy : Busy w.state.status := by
        rcases hst with hst | hst
        · exact Or.inr (Or.inl hst)
        · exact Or.inl hst
      refine ⟨horderly, fun h => absurd h (by simp [acceptStop]), fun _ => hw.kept hbusy.ne_idle,
        fun _ => ?_⟩
      -- cancelling a context leaves every goroutine where it is
      exact unfinished_of_phases (phases_acceptStop w) (hw.occupied hbusy)
  | run r =>
    rcases step_cases h with rfl | ⟨_, _, _, ha, -⟩ | ⟨_, ha, -⟩ | ⟨r', run, st, run', ha, hr, hadv, rfl⟩ |
      ⟨_, _, _, _, _, ha, -⟩
    · exact hw
    · cases ha
    · cases ha
    · exact remembers_advance hw hr hadv horderly
    · cases ha
  | sim r i e =>
    rcases step_cases h with rfl | ⟨_, _, _, ha, -⟩ | ⟨_, ha, -⟩ | ⟨_, _, _, _, ha, -⟩ |
      ⟨r', run, i', e', run', ha, hr, hmove, rfl⟩
    · exact hw
    · cases ha
    · cases ha
    · cases ha
    · exact ⟨horderly, hw.idle, hw.kept, fun hb =>
        unfinished_of_phases (phases_simMove hr hmove) (hw.occupied hb)⟩

/-! ## The flow's invariant -/

/-- Until the flow is over the server holds the configuration of the stopped run or none, and what the
    dialog was told is that configuration. -/
structure Flowing (parseDuration : String → Except String Int) (cfg : StartRequest) (s : Flow) :
    Prop where
  remembers : Remembers parseDuration s.server
  config : (∀ sent, s.dialog ≠ .over sent) →
    s.server.state.status ≠ .idle → s.server.state.config = some cfg
  told : ∀ cfg', s.dialog = .starting cfg' → cfg' = cfg

/-- The flow has not gone wrong yet. -/
def OnTrack (cfg : StartRequest) (s : Flow) : Prop :=
  match s.dialog with
  | .waiting | .asking | .starting _ => True
  | .over none => False
  | .over (some sent) =>
    sent.answer = .ok "starting" ∧ sent.body = .ok cfg ∧ sent.config = some cfg

/-- A goroutine step takes the configuration away only by making the status idle. -/
theorem config_goroutine {w w' : World} {a : Lifecycle.Label} {cfg : StartRequest}
    (hw : Remembers parseDuration w)
    (ha : (∃ r, a = .run r) ∨ ∃ r i e, a = .sim r i e)
    (h : Lifecycle.step parseDuration w a = some w')
    (hcfg : w.state.status ≠ .idle → w.state.config = some cfg) :
    w'.state.status ≠ .idle → w'.state.config = some cfg := by
  rcases step_cases h with rfl | ⟨_, _, _, rfl, -⟩ | ⟨_, rfl, -⟩ | ⟨r, run, st, run', rfl, hr, hadv, rfl⟩ |
    ⟨r, run, i, e, run', rfl, hr, hmove, rfl⟩
  · exact hcfg
  · rcases ha with ⟨r, ha⟩ | ⟨r, i, e, ha⟩ <;> cases ha
  · rcases ha with ⟨r, ha⟩ | ⟨r, i, e, ha⟩ <;> cases ha
  · have hbusy : Busy w.state.status := (hw.orderly r run hr (advance_state hadv).1).2.1
    have hne : w.state.status ≠ .idle := hbusy.ne_idle
    intro hne'
    cases advance_cases hadv with
    | begins cfg hp => exact hcfg hne
    | launches i c rest sim hp _ => exact hcfg hne
    | rejects i c rest hp _ => exact hcfg hne
    | waits i hp => exact hcfg hne
    | drains hp _ => exact hcfg hne
    | fails hp => exact hcfg hne
    | ends hp => exact absurd rfl hne'
  · exact hcfg

/-- The server is at rest exactly if every goroutine is over. -/
theorem resting_iff {w : World} (hw : Remembers parseDuration w) :
    (w.state.status = .idle ∨ w.state.status = .error) ↔ ∀ run ∈ w.runs, run.phase = .finished := by
  constructor
  · intro hst run hmem
    by_contra hf
    obtain ⟨r, hr⟩ := List.getElem?_of_mem hmem
    exact busy_iff.mp (hw.orderly r run hr hf).2.1 hst
  · intro hall
    by_contra hst
    obtain ⟨run, hmem, hf⟩ := hw.occupied (busy_iff.mpr hst)
    exact hf (hall run hmem)

/-- What a step of the flow does, with its guard. -/
inductive Goes (parseDuration : String → Except String Int) (number : Int → Except String Int)
    (s : Flow) : Label → Flow → Prop where
  | asks (hd : s.dialog = .waiting) : Goes parseDuration number s .timeout { s with dialog := .asking }
  | told (db : OrgConfigs.DB) (now : Int) (counters : Metrics.Counters) (cfg : StartRequest)
    (hd : s.dialog = .asking) (hcfg : s.server.state.config = some cfg) :
    Goes parseDuration number s (.status db now counters) { s with dialog := .starting cfg }
  | notTold (db : OrgConfigs.DB) (now : Int) (counters : Metrics.Counters)
    (hd : s.dialog = .asking) (hnone : s.server.state.config = none) :
    Goes parseDuration number s (.status db now counters) { s with dialog := .over none }
  | starts (discovered : Except String (List SimulatorConfig)) (now : Int) (cfg : StartRequest)
    (hd : s.dialog = .starting cfg) (w : World) (answer : Response)
    (hserved : handleStart parseDuration s.server (startCall number cfg discovered now) =
      (w, answer)) :
    Goes parseDuration number s (.start discovered now)
      ⟨w, .over (some ⟨passedOn number cfg, answer, w.state.config⟩)⟩
  | run (r : Nat) (w : World) (hw : Lifecycle.step parseDuration s.server (.run r) = some w) :
    Goes parseDuration number s (.run r) { s with server := w }
  | sim (r i : Nat) (e : SimEvent) (w : World)
    (hw : Lifecycle.step parseDuration s.server (.sim r i e) = some w) :
    Goes parseDuration number s (.sim r i e) { s with server := w }

theorem flow_cases {s s' : Flow} {a : Label} (h : step parseDuration number s a = some s') :
    Goes parseDuration number s a s' := by
  cases a with
  | timeout =>
    simp only [step] at h
    split at h
    · rename_i hd
      cases h
      exact .asks hd
    · cases h
  | status db now counters =>
    simp only [step] at h
    split at h
    · rename_i hd
      split at h
      · rename_i cfg htold
        cases h
        exact .told db now counters cfg hd htold
      · rename_i hnone
        cases h
        exact .notTold db now counters hd hnone
    · cases h
  | start discovered now =>
    simp only [step] at h
    split at h
    · rename_i cfg hd
      cases h
      exact .starts discovered now cfg hd _ _ rfl
    · cases h
  | run r =>
    obtain ⟨w, hw, rfl⟩ := Option.map_eq_some_iff.mp h
    exact .run r w hw
  | sim r i e =>
    obtain ⟨w, hw, rfl⟩ := Option.map_eq_some_iff.mp h
    exact .sim r i e w hw

section
variable (h1m : parseDuration "1m" = .ok 60000000000) (h2m : parseDuration "2m" = .ok 120000000000)
  {cfg : StartRequest}
include h1m h2m

theorem flowing_step {s s' : Flow} {a : Label} (hs : Flowing parseDuration cfg s)
    (h : step parseDuration number s a = some s') : Flowing parseDuration cfg s' := by
  cases flow_cases h with
  | asks hd => exact ⟨hs.remembers, fun _ => hs.config (by simp [hd]), fun cfg' h => by cases h⟩
  | told db now counters cfg' hd hcfg =>
    refine ⟨hs.remembers, fun _ => hs.config (by simp [hd]), fun cfg'' h => ?_⟩
    -- what the server holds is not the configuration of an idle server
    obtain rfl : cfg' = cfg'' := by simpa using h
    have hne := hs.remembers.ne_idle hcfg
    exact Option.some.inj (hcfg.symm.trans (hs.config (by simp [hd]) hne))
  | notTold db now counters hd hnone =>
    exact ⟨hs.remembers, fun h => absurd rfl (h none), fun cfg' h => by cases h⟩
  | starts discovered now cfg' hd w answer hserved =>
    refine ⟨?_, fun h => absurd rfl (h _), fun cfg'' h => by cases h⟩
    have hstep : Lifecycle.step parseDuration s.server (.start (startCall number cfg' discovered now))
        = some w := congrArg some (congrArg Prod.fst hserved)
    exact remembers_step h1m h2m hs.remembers hstep
  | run r w hw =>
    exact ⟨remembers_step h1m h2m hs.remembers hw,
      fun hd => config_goroutine hs.remembers (Or.inl ⟨r, rfl⟩) hw (hs.config hd), hs.told⟩
  | sim r i e w hw =>
    exact ⟨remembers_step h1m h2m hs.remembers hw,
      fun hd => config_goroutine hs.remembers (Or.inr ⟨r, i, e, rfl⟩) hw (hs.config hd), hs.told⟩

end

/-- The flow stays on track exactly as long as its requests are in time. -/
theorem onTrack_step {cfg : StartRequest} (hc : Complete parseDuration cfg) {s s' : Flow} {a : Label}
    (hs : Flowing parseDuration cfg s) (h : step parseDuration number s a = some s') :
    OnTrack cfg s' ↔ OnTrack cfg s ∧ InTime number s a := by
  cases flow_cases h with
  | asks hd => simp [OnTrack, InTime, hd]
  | told db now counters cfg' hd hcfg =>
    have hne := hs.remembers.ne_idle hcfg
    simp [OnTrack, InTime, hd, hne]
  | notTold db now counters hd hnone =>
    have hidle : s.server.state.status = .idle := by
      by_contra hne
      rw [hs.config (by simp [hd]) hne] at hnone
      cases hnone
    simp [OnTrack, InTime, hidle]
  | starts discovered now cfg' hd w answer hserved =>
    obtain rfl : cfg' = cfg := hs.told cfg' hd
    have htrack : OnTrack cfg' s := by simp [OnTrack, hd]
    constructor
    · rintro ⟨hanswer, hbody, -⟩
      refine ⟨htrack, ?_⟩
      rcases handleStart_completes parseDuration s.server
        (startCall number cfg' discovered now) with ⟨-, hne⟩ | ⟨req, dcfg, -, -, hdisc, hst, -⟩
      · rw [hserved] at hne
        exact absurd hanswer hne
      · refine ⟨(resting_iff hs.remembers).mp hst, ⟨dcfg, hdisc⟩, fun cfg'' h => ?_⟩
        obtain rfl : cfg' = cfg'' := by simpa [hd] using h
        exact hbody
    · rintro ⟨-, hover, ⟨dcfg, hdisc⟩, hpass⟩
      have hbody := hpass cfg' hd
      have haccept := handleStart_accepts parseDuration (w := s.server)
        (q := startCall number cfg' discovered now) rfl hbody hc.valid hdisc
        ((resting_iff hs.remembers).mpr hover)
      rw [hc.completed, hserved] at haccept
      obtain ⟨rfl, rfl⟩ := Prod.mk.inj haccept
      exact ⟨rfl, hbody, rfl⟩
  | run r w hw => simp [OnTrack, InTime]
  | sim r i e w hw => simp [OnTrack, InTime]

/-- **The restart flow**: for every world the server can be in when it accepts the dialog's stop
    request, and every order in which the flow and the goroutines go on, the flow ends with an accepted
    start of the stopped run's configuration exactly if its requests are in time. -/
theorem restarted_iff (h1m : parseDuration "1m" = .ok 60000000000)
    (h2m : parseDuration "2m" = .ok 120000000000) {history : List Lifecycle.Label} {w : World}
    (hw : exec (Lifecycle.step parseDuration) Lifecycle.init history = some w)
    (hstop : (handleStop w true).2 = .ok "stopping") {ls : List Label} {s : Flow}
    (hrun : exec (step parseDuration number) (stopped w) ls = some s)
    (hover : ∃ sent, s.dialog = .over sent) :
    Restarted w s ↔ Always (step parseDuration number) (InTime number) (stopped w) ls := by
  have hremembers : Remembers parseDuration w :=
    exec_invariant (fun _ _ _ hw h => remembers_step h1m h2m hw h) remembers_init hw
  rcases handleStop_cases w true with ⟨-, hcode⟩ | ⟨hst, hacc⟩
  · rw [hstop] at hcode
    exact absurd rfl hcode
  · have hne : w.state.status ≠ .idle := by
      rcases hst with hst | hst <;> simp [hst]
    obtain ⟨cfg, hcfg, hc⟩ := hremembers.kept hne
    have hstart : Flowing parseDuration cfg (stopped w) := by
      refine ⟨remembers_step h1m h2m hremembers (a := .stop true) rfl, fun _ _ => ?_,
        fun cfg' h => by cases h⟩
      show (handleStop w true).1.state.config = some cfg
      rw [hacc]
      exact hcfg
    have honTrack := exec_iff_always (fun _ _ _ hs h => flowing_step h1m h2m hs h)
      (fun _ _ _ hs h => onTrack_step hc hs h) hstart hrun
    have htrue : OnTrack cfg (stopped w) := trivial
    have hend : Restarted w s ↔ OnTrack cfg s := by
      obtain ⟨sent, hsent⟩ := hover
      unfold Restarted OnTrack
      rw [hsent, hcfg]
      cases sent with
      | none => simp
      | some sent =>
        constructor
        · rintro ⟨sent', cfg', heq, hanswer, hcfg', hbody, hconfig⟩
          obtain rfl : sent = sent' := by simpa using heq
          obtain rfl : cfg = cfg' := Option.some.inj hcfg'
          exact ⟨hanswer, hbody, hconfig⟩
        · rintro ⟨hanswer, hbody, hconfig⟩
          exact ⟨sent, cfg, rfl, hanswer, rfl, hbody, hconfig⟩
    rw [hend, honTrack, and_iff_right htrue]

/-! ## One simulation, stopped and started again -/

/-- The durations a start request is completed with. -/
def defaultDurations : String → Except String Int
  | "1m" => .ok 60000000000
  | "2m" => .ok 120000000000
  | _ => .error "time: invalid duration"

/-- What a user starts. -/
def started : Lifecycle.Label :=
  .start ⟨true, .ok StartRequest.empty, .ok [discoveredEntry "acme" "sensors" "0a"], 0⟩

/-- The simulation is launched and comes up. -/
def comesUp : List Lifecycle.Label :=
  [started, .run 0, .run 0, .run 0, .sim 0 0 .initDone]

/-- The server then, as far as it has got. -/
def serverUp : World :=
  match exec (Lifecycle.step defaultDurations) Lifecycle.init comesUp with
  | some w => w
  | none => Lifecycle.init

/-- After the stop request the simulation returns and its run becomes idle. -/
def becomesIdle : List Label :=
  [.sim 0 0 .returnDone, .sim 0 0 .wgDone, .run 0, .run 0]

def asksStatus : Label := .status (some []) 0 fun _ => []

def startsAgain : Label := .start (.ok [discoveredEntry "acme" "sensors" "0a"]) 1500

/-- A run that becomes idle between the two requests is restarted. -/
theorem restarted_between : ∃ s, exec (step defaultDurations .ok) (stopped serverUp)
    ([.timeout, asksStatus] ++ becomesIdle ++ [startsAgain]) = some s ∧ Restarted serverUp s := by
  have hup : exec (Lifecycle.step defaultDurations) Lifecycle.init comesUp = some serverUp := rfl
  have hrun : exec (step defaultDurations .ok) (stopped serverUp)
      ([.timeout, asksStatus] ++ becomesIdle ++ [startsAgain]) = some _ := rfl
  refine ⟨_, hrun, (restarted_iff rfl rfl hup rfl hrun ⟨_, rfl⟩).mpr ?_⟩
  -- the run is `stopping` at the status request, and over at the start
  refine ⟨trivial, fun s hs => ?_⟩
  obtain rfl := Option.some.inj hs
  refine ⟨fun h => ?_, fun s hs => ?_⟩
  · cases h
  obtain rfl := Option.some.inj hs
  iterate 4
    refine ⟨trivial, fun s hs => ?_⟩
    obtain rfl := Option.some.inj hs
  refine ⟨⟨fun run hrun => ?_, ⟨_, rfl⟩, fun cfg h => ?_⟩, fun _ _ => trivial⟩
  · obtain rfl := List.mem_singleton.mp hrun
    rfl
  · cases h
    rfl

/-- One that has become idle before the status is asked for is not started again, and one that becomes
    idle only after the start request is refused. -/
theorem not_restarted : (∃ s, exec (step defaultDurations .ok) (stopped serverUp)
      (becomesIdle ++ [.timeout, asksStatus]) = some s ∧ s.dialog = .over none ∧
      ¬ Restarted serverUp s) ∧
    ∃ s sent, exec (step defaultDurations .ok) (stopped serverUp)
      ([.timeout, asksStatus, startsAgain] ++ becomesIdle) = some s ∧ s.dialog = .over (some sent) ∧
      sent.answer = .conflict "simulation already running" "stopping" ∧ ¬ Restarted serverUp s := by
  refine ⟨⟨_, rfl, rfl, ?_⟩, ⟨_, _, rfl, rfl, rfl, ?_⟩⟩
  · rintro ⟨sent, cfg, hsent, -⟩
    cases hsent
  · rintro ⟨sent, cfg, hsent, hanswer, -⟩
    cases hsent
    cases hanswer

end ChirpStackSimulator.RestartFlow
