/-
  The life of simulation runs (`internal/api/simulation.go`, `internal/api/store.go`,
  `internal/simulator/simulator.go`): start and stop requests, the goroutine each accepted start
  launches, the simulations `simulator.Start` launches below it and their device loops.

  1. **State** — the shared `SimState`, and every run ever accepted.  A run is its goroutine's
     program point, whether its context was cancelled, its wait group and its simulations.
  2. **Steps** — `step` takes one label: a request reaching a handler, or one goroutine going one
     step further.  Everything between two acquisitions of `SimState.mu` or two launches is one
     step, so a run of `exec step` is one interleaving of the requests and all goroutines.
  3. `step_cases` says once what a step can do to the runs; the invariants of
     `ChirpStackSimulator.OneRun` and `ChirpStackSimulator.StopSticky` are read off it.

  What `simulation.init` and the device loops do inside is irrelevant here: an initialisation that
  fails and one that succeeds are the same step (`start` only logs the error), and a loop may return
  at any time.
-/
import ChirpStackSimulator.Http
import ChirpStackSimulator.Lib.Objects
import ChirpStackSimulator.Lib.Run
import ChirpStackSimulator.Simulation
import ChirpStackSimulator.StartRequest

namespace ChirpStackSimulator.Lifecycle

/-! ## State -/

inductive Status where
  | idle
  | starting
  | running
  | stopping
  | error
  deriving DecidableEq

def Status.text : Status → String
  | idle => "idle"
  | starting => "starting"
  | running => "running"
  | stopping => "stopping"
  | error => "error"

/-- `SimState`, behind `mu`.  `Wg` and `Cancel` point to the wait group and the context of a run,
    named by its position among the accepted starts. -/
structure SimState where
  status : Status
  startedAt : Int
  config : Option StartRequest
  wg : Option Nat
  cancel : Option Nat

/-- Where `simulation.start` stands. -/
inductive SimPhase where
  /-- In `init`. -/
  | initialising
  /-- In `runSimulation`: creating gateways and devices, then waiting for the device loops. -/
  | running
  /-- `runSimulation` has returned; tearing down. -/
  | returned
  /-- `s.wg.Done()` was called. -/
  | done
  deriving DecidableEq

/-- One launched `simulation`. -/
structure SimRun where
  sim : Simulation
  phase : SimPhase
  /-- The context `runSimulation` derives for its devices, cancelled when it returns. -/
  cancelled : Bool
  /-- Device loops that have not returned, two for each device. -/
  loops : Nat

def SimRun.new (sim : Simulation) : SimRun := ⟨sim, .initialising, false, 0⟩

/-- Where the goroutine of an accepted start stands. -/
inductive RunPhase where
  /-- Launched, nothing executed. -/
  | spawned (cfg : List SimulatorConfig)
  /-- In `simulator.Start`, before the `i`-th entry; `rest` are the entries still to launch. -/
  | launching (i : Nat) (rest : List SimulatorConfig)
  /-- `simulator.Start` has returned an error. -/
  | failed
  /-- In `wg.Wait()`. -/
  | waiting
  /-- `wg.Wait()` has returned. -/
  | drained
  | finished
  deriving DecidableEq

structure Run where
  phase : RunPhase
  /-- The run's context. -/
  cancelled : Bool
  wg : Nat
  sims : List SimRun

structure World where
  state : SimState
  runs : List Run

/-- `GetState()` before the first request. -/
def init : World := ⟨⟨.idle, 0, none, none, none⟩, []⟩

/-! ## The handlers -/

/-- What a start request brings to `handleStart`: the method, the decoded body, what
    `discoverAndBuildConfig` answers and the clock. -/
structure StartCall where
  post : Bool
  body : Except String StartRequest
  discovered : Except String (List SimulatorConfig)
  now : Int

/-- The critical section of an accepted start, with the goroutine it launches. -/
def acceptStart (w : World) (req : StartRequest) (cfg : List SimulatorConfig) (now : Int) : World where
  state := ⟨.starting, now, some req, some w.runs.length, some w.runs.length⟩
  runs := w.runs ++ [⟨.spawned cfg, false, 0, []⟩]

section
variable (parseDuration : String → Except String Int)

/-- `handleStart`. -/
def handleStart (w : World) (q : StartCall) : World × Response :=
  if q.post = false then (w, .methodNotAllowed) else
  match q.body with
  | .error e => (w, .badRequest ("invalid JSON: " ++ e))
  | .ok req =>
    match validateStartRequest parseDuration req with
    | .error e => (w, .badRequest e)
    | .ok _ =>
      -- the discovery is done before the lock is taken
      match q.discovered with
      | .error e => (w, .internalServerError ("Simülasyon topolojisi keşfedilemedi: " ++ e))
      | .ok cfg =>
        if w.state.status ≠ .idle ∧ w.state.status ≠ .error then
          (w, .conflict "simulation already running" w.state.status.text)
        else (acceptStart w (sanitize (applyDefaults req)) cfg q.now, .ok "starting")

/-- `state.Cancel()`: the context of the run the pointer names is cancelled. -/
def cancelRun (runs : List Run) : Option Nat → List Run
  | none => runs
  | some r => runs.modify r fun run => { run with cancelled := true }

/-- The critical section of an accepted stop. -/
def acceptStop (w : World) : World where
  state := { w.state with status := .stopping }
  runs := cancelRun w.runs w.state.cancel

/-- `handleStop`. -/
def handleStop (w : World) (post : Bool) : World × Response :=
  if post = false then (w, .methodNotAllowed) else
  if w.state.status ≠ .running ∧ w.state.status ≠ .starting then
    (w, .conflict "simulation already stopped" w.state.status.text)
  else (acceptStop w, .ok "stopping")

/-! ## The goroutines -/

/-- The goroutine of a run goes one step further, reading and writing the shared state; `none` while
    it is blocked or when it is over. -/
def advance (st : SimState) (run : Run) : Option (SimState × Run) :=
  match run.phase with
  -- the status is written whatever it has become since the start was accepted
  | .spawned cfg => some ({ st with status := .running }, { run with phase := .launching 0 cfg })
  | .launching _ [] => some (st, { run with phase := .waiting })
  | .launching i (c :: rest) =>
    match newSimulation i c with
    -- the wait group was raised before the payload is decoded, and nobody lowers it again
    | .error _ => some (st, { run with wg := run.wg + 1, phase := .failed })
    | .ok sim => some (st, { run with
        wg := run.wg + 1, sims := run.sims ++ [.new sim], phase := .launching (i + 1) rest })
  -- what was launched before keeps its context
  | .failed => some ({ st with status := .error }, { run with phase := .finished })
  | .waiting => if run.wg = 0 then some (st, { run with phase := .drained }) else none
  | .drained =>
    some ({ st with status := .idle, config := none }, { run with phase := .finished })
  | .finished => none

/-- What a simulation below a run, or one of its device loops, can do next. -/
inductive SimEvent where
  /-- `init` returns, with an error or without. -/
  | initDone
  /-- `NewDevice`: both loops of one device are launched. -/
  | newDevice
  | loopExit
  /-- An interrupt or terminate signal cancels the devices' context. -/
  | interrupt
  /-- `runSimulation` returns early because a gateway or a device could not be created. -/
  | returnError
  /-- `runSimulation` returns after its own `wg.Wait()`. -/
  | returnDone
  | wgDone
  deriving DecidableEq

/-- One step of the simulation `s`; the second component tells whether it called `s.wg.Done()`. -/
def simStep (s : SimRun) (e : SimEvent) : Option (SimRun × Bool) :=
  match e, s.phase with
  | .initDone, .initialising => some ({ s with phase := .running }, false)
  | .newDevice, .running => some ({ s with loops := s.loops + 2 }, false)
  | .loopExit, _ => if s.loops = 0 then none else some ({ s with loops := s.loops - 1 }, false)
  | .interrupt, .running => some ({ s with cancelled := true }, false)
  -- `defer cancel()`
  | .returnError, .running => some ({ s with phase := .returned, cancelled := true }, false)
  | .returnDone, .running =>
    if s.loops = 0 then some ({ s with phase := .returned, cancelled := true }, false) else none
  | .wgDone, .returned => some ({ s with phase := .done }, true)
  | _, _ => none

/-- One step of the `i`-th simulation of a run. -/
def simMove (run : Run) (i : Nat) (e : SimEvent) : Option Run :=
  match run.sims[i]? with
  | none => none
  | some s =>
    match simStep s e with
    | none => none
    | some (s', signalled) => some { run with
        sims := run.sims.set i s', wg := if signalled then run.wg - 1 else run.wg }

inductive Label where
  | start (q : StartCall)
  | stop (post : Bool)
  | run (r : Nat)
  | sim (r : Nat) (i : Nat) (e : SimEvent)

/-- One step of the whole system. -/
def step (w : World) : Label → Option World
  | .start q => some (handleStart parseDuration w q).1
  | .stop post => some (handleStop w post).1
  | .run r =>
    match w.runs[r]? with
    | none => none
    | some run =>
      match advance w.state run with
      | none => none
      | some (st, run') => some ⟨st, w.runs.set r run'⟩
  | .sim r i e =>
    match w.runs[r]? with
    | none => none
    | some run =>
      match simMove run i e with
      | none => none
      | some run' => some ⟨w.state, w.runs.set r run'⟩

/-! ## What a step can do -/

/-- A start is accepted in the two resting states, and then nothing was wrong with the request; one
    that is not accepted is answered with an error and changes nothing. -/
theorem handleStart_cases (w : World) (q : StartCall) :
    ((handleStart parseDuration w q).1 = w ∧ (handleStart parseDuration w q).2.code ≠ 200) ∨
    ∃ req cfg, q.discovered = .ok cfg ∧ (w.state.status = .idle ∨ w.state.status = .error) ∧
      handleStart parseDuration w q = (acceptStart w req cfg q.now, .ok "starting") := by
  unfold handleStart
  split
  · exact Or.inl ⟨rfl, by simp⟩
  · split
    · exact Or.inl ⟨rfl, by simp⟩
    · split
      · exact Or.inl ⟨rfl, by simp⟩
      · split
        · exact Or.inl ⟨rfl, by simp⟩
        · rename_i cfg hd
          split
          · exact Or.inl ⟨rfl, by simp⟩
          · rename_i hst
            refine Or.inr ⟨_, cfg, hd, ?_, rfl⟩
            cases hs : w.state.status <;> simp_all

end

/-- A stop is accepted in `running` and `starting`. -/
theorem handleStop_cases (w : World) (post : Bool) :
    ((handleStop w post).1 = w ∧ (handleStop w post).2.code ≠ 200) ∨
    ((w.state.status = .running ∨ w.state.status = .starting) ∧
      handleStop w post = (acceptStop w, .ok "stopping")) := by
  unfold handleStop
  split
  · exact Or.inl ⟨rfl, by simp⟩
  · split
    · exact Or.inl ⟨rfl, by simp⟩
    · rename_i hst
      refine Or.inr ⟨?_, rfl⟩
      cases hs : w.state.status <;> simp_all

/-- **What one step can do**: nothing, accept a start, accept a stop, move one run's goroutine or
    move one of its simulations. -/
theorem step_cases {parseDuration : String → Except String Int} {w w' : World} {a : Label}
    (h : step parseDuration w a = some w') :
    w' = w ∨
    (∃ q req cfg, a = .start q ∧ q.discovered = .ok cfg ∧
      (w.state.status = .idle ∨ w.state.status = .error) ∧ w' = acceptStart w req cfg q.now) ∨
    (∃ post, a = .stop post ∧ (w.state.status = .running ∨ w.state.status = .starting) ∧
      w' = acceptStop w) ∨
    (∃ r run st run', a = .run r ∧ w.runs[r]? = some run ∧ advance w.state run = some (st, run') ∧
      w' = ⟨st, w.runs.set r run'⟩) ∨
    (∃ r run i e run', a = .sim r i e ∧ w.runs[r]? = some run ∧ simMove run i e = some run' ∧
      w' = ⟨w.state, w.runs.set r run'⟩) := by
  cases a with
  | start q =>
    simp only [step, Option.some.injEq] at h
    rcases handleStart_cases parseDuration w q with ⟨hw, -⟩ | ⟨req, cfg, hd, hst, hw⟩
    · exact Or.inl (by rw [← h, hw])
    · exact Or.inr (Or.inl ⟨q, req, cfg, rfl, hd, hst, by rw [← h, hw]⟩)
  | stop post =>
    simp only [step, Option.some.injEq] at h
    rcases handleStop_cases w post with ⟨hw, -⟩ | ⟨hst, hw⟩
    · exact Or.inl (by rw [← h, hw])
    · exact Or.inr (Or.inr (Or.inl ⟨post, rfl, hst, by rw [← h, hw]⟩))
  | run r =>
    simp only [step] at h
    split at h
    · exact absurd h (by simp)
    · rename_i run hr
      split at h
      · exact absurd h (by simp)
      · rename_i st run' hadv
        exact Or.inr (Or.inr (Or.inr (Or.inl ⟨r, run, st, run', rfl, hr, hadv, by
          simpa using h.symm⟩)))
  | sim r i e =>
    simp only [step] at h
    split at h
    · exact absurd h (by simp)
    · rename_i run hr
      split at h
      · exact absurd h (by simp)
      · rename_i run' hmove
        exact Or.inr (Or.inr (Or.inr (Or.inr ⟨r, run, i, e, run', rfl, hr, hmove, by
          simpa using h.symm⟩)))

/-- What the goroutine of a run does in one step, by where it stands. -/
inductive Advances (st : SimState) (run : Run) : SimState → Run → Prop where
  | begins (cfg : List SimulatorConfig) (hp : run.phase = .spawned cfg) :
      Advances st run { st with status := .running } { run with phase := .launching 0 cfg }
  | launches (i : Nat) (c : SimulatorConfig) (rest : List SimulatorConfig) (sim : Simulation)
      (hp : run.phase = .launching i (c :: rest)) (hsim : newSimulation i c = .ok sim) :
      Advances st run st { run with
        wg := run.wg + 1, sims := run.sims ++ [.new sim], phase := .launching (i + 1) rest }
  | rejects (i : Nat) (c : SimulatorConfig) (rest : List SimulatorConfig)
      (hp : run.phase = .launching i (c :: rest)) (hc : ¬ Launches c) :
      Advances st run st { run with wg := run.wg + 1, phase := .failed }
  | waits (i : Nat) (hp : run.phase = .launching i []) :
      Advances st run st { run with phase := .waiting }
  | drains (hp : run.phase = .waiting) (hwg : run.wg = 0) :
      Advances st run st { run with phase := .drained }
  | fails (hp : run.phase = .failed) :
      Advances st run { st with status := .error } { run with phase := .finished }
  | ends (hp : run.phase = .drained) :
      Advances st run { st with status := .idle, config := none } { run with phase := .finished }

theorem advance_cases {st st' : SimState} {run run' : Run}
    (h : advance st run = some (st', run')) : Advances st run st' run' := by
  unfold advance at h
  split at h
  · rename_i cfg hp
    obtain ⟨rfl, rfl⟩ : _ ∧ _ := by simpa using h
    exact .begins cfg hp
  · rename_i i hp
    obtain ⟨rfl, rfl⟩ : _ ∧ _ := by simpa using h
    exact .waits i hp
  · rename_i i c rest hp
    split at h
    · rename_i e hnew
      obtain ⟨rfl, rfl⟩ : _ ∧ _ := by simpa using h
      refine .rejects i c rest hp fun hc => ?_
      obtain ⟨sim, hsim⟩ := (launches_iff i c).mp hc
      rw [hsim] at hnew
      exact absurd hnew (by simp)
    · rename_i sim hsim
      obtain ⟨rfl, rfl⟩ : _ ∧ _ := by simpa using h
      exact .launches i c rest sim hp hsim
  · rename_i hp
    obtain ⟨rfl, rfl⟩ : _ ∧ _ := by simpa using h
    exact .fails hp
  · rename_i hp
    split at h
    · rename_i hwg
      obtain ⟨rfl, rfl⟩ : _ ∧ _ := by simpa using h
      exact .drains hp hwg
    · exact absurd h (by simp)
  · rename_i hp
    obtain ⟨rfl, rfl⟩ : _ ∧ _ := by simpa using h
    exact .ends hp
  · exact absurd h (by simp)

/-- A goroutine that can go on does, and only its own run is written back. -/
theorem step_run (parseDuration : String → Except String Int) {w : World} {r : Nat}
    {run run' : Run} {st : SimState} (hr : w.runs[r]? = some run) (hadv : advance w.state run = some (st, run')) :
    step parseDuration w (.run r) = some ⟨st, w.runs.set r run'⟩ := by
  simp only [step, hr, hadv]

/-- What a moved simulation is: the same simulation, in a phase that can only go forward. -/
theorem simMove_cases {run run' : Run} {i : Nat} {e : SimEvent} (h : simMove run i e = some run') :
    ∃ s s' signalled, run.sims[i]? = some s ∧ simStep s e = some (s', signalled) ∧
      run' = { run with
        sims := run.sims.set i s', wg := if signalled then run.wg - 1 else run.wg } := by
  unfold simMove at h
  split at h
  · exact absurd h (by simp)
  · rename_i s hs
    split at h
    · exact absurd h (by simp)
    · rename_i s' signalled hstep
      exact ⟨s, s', signalled, hs, hstep, by simpa using h.symm⟩

/-- What a simulation does in one step, and whether it signals the wait group. -/
inductive SimSteps (s : SimRun) : SimEvent → SimRun → Bool → Prop where
  | initDone (hp : s.phase = .initialising) :
      SimSteps s .initDone { s with phase := .running } false
  | newDevice (hp : s.phase = .running) :
      SimSteps s .newDevice { s with loops := s.loops + 2 } false
  | loopExit (hloops : s.loops ≠ 0) :
      SimSteps s .loopExit { s with loops := s.loops - 1 } false
  | interrupt (hp : s.phase = .running) :
      SimSteps s .interrupt { s with cancelled := true } false
  | returnError (hp : s.phase = .running) :
      SimSteps s .returnError { s with phase := .returned, cancelled := true } false
  | returnDone (hp : s.phase = .running) (hloops : s.loops = 0) :
      SimSteps s .returnDone { s with phase := .returned, cancelled := true } false
  | wgDone (hp : s.phase = .returned) :
      SimSteps s .wgDone { s with phase := .done } true

theorem simStep_cases {s s' : SimRun} {e : SimEvent} {signalled : Bool}
    (h : simStep s e = some (s', signalled)) : SimSteps s e s' signalled := by
  unfold simStep at h
  split at h
  · rename_i hp
    obtain ⟨rfl, rfl⟩ : _ ∧ _ := by simpa using h
    exact .initDone hp
  · rename_i hp
    obtain ⟨rfl, rfl⟩ : _ ∧ _ := by simpa using h
    exact .newDevice hp
  · split at h
    · exact absurd h (by simp)
    · rename_i hloops
      obtain ⟨rfl, rfl⟩ : _ ∧ _ := by simpa using h
      exact .loopExit hloops
  · rename_i hp
    obtain ⟨rfl, rfl⟩ : _ ∧ _ := by simpa using h
    exact .interrupt hp
  · rename_i hp
    obtain ⟨rfl, rfl⟩ : _ ∧ _ := by simpa using h
    exact .returnError hp
  · rename_i hp
    split at h
    · rename_i hloops
      obtain ⟨rfl, rfl⟩ : _ ∧ _ := by simpa using h
      exact .returnDone hp hloops
    · exact absurd h (by simp)
  · rename_i hp
    obtain ⟨rfl, rfl⟩ : _ ∧ _ := by simpa using h
    exact .wgDone hp
  · exact absurd h (by simp)

/-! ## The runs after a step -/

/-- Accepting a start appends one fresh run. -/
theorem getElem?_acceptStart {w : World} {req : StartRequest} {cfg : List SimulatorConfig}
    {now : Int} {r : Nat} {run : Run} (h : (acceptStart w req cfg now).runs[r]? = some run) :
    w.runs[r]? = some run ∨ (r = w.runs.length ∧ run = ⟨.spawned cfg, false, 0, []⟩) :=
  Objects.lookup_append.mp h

/-- Accepting a stop cancels the run the pointer names and leaves every other run alone. -/
theorem getElem?_acceptStop {w : World} {r : Nat} {run : Run}
    (h : (acceptStop w).runs[r]? = some run) :
    ∃ run₀, w.runs[r]? = some run₀ ∧
      run = if w.state.cancel = some r then { run₀ with cancelled := true } else run₀ := by
  unfold acceptStop cancelRun at h
  split at h
  · rename_i hc
    exact ⟨run, h, by simp [hc]⟩
  · rename_i r₁ hc
    rw [List.getElem?_modify] at h
    cases hr : w.runs[r]? with
    | none => simp [hr] at h
    | some run₀ =>
      refine ⟨run₀, rfl, ?_⟩
      by_cases heq : r₁ = r
      · simpa [hr, hc, heq] using h.symm
      · simpa [hr, hc, heq] using h.symm

@[simp] theorem length_acceptStop (w : World) : (acceptStop w).runs.length = w.runs.length := by
  unfold acceptStop cancelRun
  split <;> simp

end ChirpStackSimulator.Lifecycle
