/-
  One run at a time.

  The plan of the HTTP API admits a single active simulation.  `handleStart` enforces it with the
  status alone: a start is accepted in `idle` and in `error`.  `simulator.Start` breaks it, because
  it launches the simulations one by one and returns an error at the first payload that is not
  hexadecimal text: the run's goroutine then writes `error` and returns, while the simulations
  launched before that entry keep running with a context nobody cancels.

  1. `Orderly` holds in every reachable state, whatever the configurations are: a run whose
     goroutine is not over is the last one, the status is one of the three busy ones, and the cancel
     pointer is its own.
  2. `Counted` holds of every run: its wait group counts its simulations.
  3. `Settled` is the invariant of a single run whose configuration is `Launchable` — the failing
     entry, if there is one, is the first.  It ends in "a finished run has no live simulation".
  4. `oneRun_iff` puts both together: runs over the configurations in `D` keep `OneRun` exactly
     when every configuration in `D` is launchable.
-/
import ChirpStackSimulator.Lifecycle

namespace ChirpStackSimulator.Lifecycle

open Transition

/-! ## The property -/

/-- Of the simulation `s` of a run, some goroutine is live with a context nobody has cancelled:
    `simulation.start` itself, or a device loop below it. -/
def Live (run : Run) (s : SimRun) : Prop :=
  run.cancelled = false ∧ (s.phase ≠ .done ∨ (0 < s.loops ∧ s.cancelled = false))

instance (run : Run) (s : SimRun) : Decidable (Live run s) := by unfold Live; infer_instance

/-- In the two resting states nothing of any run is live. -/
def Quiet (w : World) : Prop :=
  w.state.status = .idle ∨ w.state.status = .error → ∀ run ∈ w.runs, ∀ s ∈ run.sims, ¬ Live run s

instance (w : World) : Decidable (Quiet w) := by unfold Quiet; infer_instance

/-- Whatever is live, a stop request is accepted and cancels it. -/
def Stoppable (w : World) : Prop :=
  ∀ (r : Nat) (run : Run), w.runs[r]? = some run → (∃ s ∈ run.sims, Live run s) →
    (handleStop w true).2 = .ok "stopping" ∧
      ∃ run' : Run, (handleStop w true).1.runs[r]? = some run' ∧ run'.cancelled = true

/-- One run at a time. -/
def OneRun (w : World) : Prop := Quiet w ∧ Stoppable w

/-- No entry fails after another one was launched: all launch, or the first one fails. -/
def Launchable : List SimulatorConfig → Prop
  | [] => True
  | c :: cs => Launches c → ∀ c' ∈ cs, Launches c'

/-! ## Whatever the configurations: the unfinished run is the current one -/

/-- A run is under way, as far as the status says. -/
def Busy (st : Status) : Prop := st = .starting ∨ st = .running ∨ st = .stopping

/-- The status is busy exactly if a start would be refused. -/
theorem busy_iff {st : Status} : Busy st ↔ ¬ (st = .idle ∨ st = .error) := by
  cases st <;> simp [Busy]

theorem Busy.ne_idle {st : Status} (h : Busy st) : st ≠ .idle := fun hidle =>
  busy_iff.mp h (Or.inl hidle)

/-- A run whose goroutine is not over is the last one accepted, `Cancel` points to it, the status is
    busy, and once it is `stopping` the run's context is cancelled. -/
def Orderly (w : World) : Prop :=
  ∀ (r : Nat) (run : Run), w.runs[r]? = some run → run.phase ≠ .finished →
    r + 1 = w.runs.length ∧ Busy w.state.status ∧ w.state.cancel = some r ∧
      (w.state.status = .stopping → run.cancelled = true)

/-- No run has begun. -/
theorem orderly_init : Orderly init := by
  intro r run hr
  exact absurd hr (by simp [init])

/-- What a goroutine step does to the shared state: it may write the status; the two resting
    statuses are written only by a goroutine that ends with that step. -/
theorem advance_state {st st' : SimState} {run run' : Run} (h : advance st run = some (st', run')) :
    run.phase ≠ .finished ∧ run'.cancelled = run.cancelled ∧ st'.cancel = st.cancel ∧
      (run'.phase ≠ .finished → st'.status = st.status ∨ st'.status = .running) := by
  cases advance_cases h with
  | begins cfg hp => exact ⟨by simp [hp], rfl, rfl, fun _ => Or.inr rfl⟩
  | launches i c rest sim hp _ => exact ⟨by simp [hp], rfl, rfl, fun _ => Or.inl rfl⟩
  | rejects i c rest hp _ => exact ⟨by simp [hp], rfl, rfl, fun _ => Or.inl rfl⟩
  | waits i hp => exact ⟨by simp [hp], rfl, rfl, fun _ => Or.inl rfl⟩
  | drains hp _ => exact ⟨by simp [hp], rfl, rfl, fun _ => Or.inl rfl⟩
  | fails hp => exact ⟨by simp [hp], rfl, rfl, fun hf => absurd rfl hf⟩
  | ends hp => exact ⟨by simp [hp], rfl, rfl, fun hf => absurd rfl hf⟩

/-- A run moved by its simulations keeps its goroutine and its context. -/
theorem simMove_run {run run' : Run} {i : Nat} {e : SimEvent} (h : simMove run i e = some run') :
    run'.phase = run.phase ∧ run'.cancelled = run.cancelled := by
  obtain ⟨s, s', signalled, -, -, rfl⟩ := simMove_cases h
  exact ⟨rfl, rfl⟩

/-- **One step** leaves only the last run under way. -/
theorem orderly_step {parseDuration : String → Except String Int} {w w' : World} {a : Label}
    (hw : Orderly w) (h : step parseDuration w a = some w') : Orderly w' := by
  rcases step_cases h with rfl | ⟨q, req, cfg, -, -, hst, rfl⟩ | ⟨post, -, hst, rfl⟩ |
    ⟨r₀, run₀, st, run', -, hr₀, hadv, rfl⟩ | ⟨r₀, run₀, i, e, run', -, hr₀, hmove, rfl⟩
  · exact hw
  · -- a start is accepted: the earlier runs are all over
    intro r run hr hf
    rcases getElem?_acceptStart hr with hr | ⟨rfl, rfl⟩
    · obtain ⟨-, hbusy, -, -⟩ := hw r run hr hf
      exact absurd hst (busy_iff.mp hbusy)
    · exact ⟨by simp [acceptStart], Or.inl rfl, rfl, fun hs => absurd hs (by simp [acceptStart])⟩
  · -- a stop is accepted: it reaches the unfinished run
    intro r run hr hf
    obtain ⟨run₀, hr₀, hrun⟩ := getElem?_acceptStop hr
    have hf₀ : run₀.phase ≠ .finished := by
      rw [hrun] at hf
      split at hf <;> exact hf
    obtain ⟨hlast, -, hcancel, -⟩ := hw r run₀ hr₀ hf₀
    rw [if_pos hcancel] at hrun
    exact ⟨by simpa using hlast, Or.inr (Or.inr rfl), hcancel, fun _ => by rw [hrun]⟩
  · -- the goroutine of a run moves
    obtain ⟨hf₀, hcanc, hcp, hst⟩ := advance_state hadv
    obtain ⟨hlast₀, hbusy₀, hcr₀, hstop₀⟩ := hw r₀ run₀ hr₀ hf₀
    intro r run hr hf
    rcases Objects.of_lookup_set hr with ⟨rfl, rfl⟩ | ⟨hne, hr⟩
    · refine ⟨by simpa using hlast₀, ?_, by rw [hcp]; exact hcr₀, fun hs => ?_⟩
      · rcases hst hf with h' | h'
        · rw [h']; exact hbusy₀
        · exact Or.inr (Or.inl h')
      · rcases hst hf with h' | h'
        · rw [hcanc]; exact hstop₀ (h' ▸ hs)
        · rw [h'] at hs; exact absurd hs (by decide)
    · obtain ⟨hlast, -, -, -⟩ := hw r run hr hf
      exact absurd (by omega : r = r₀) hne
  · -- a simulation of a run moves
    obtain ⟨hphase, hcanc⟩ := simMove_run hmove
    intro r run hr hf
    rcases Objects.of_lookup_set hr with ⟨rfl, rfl⟩ | ⟨-, hr⟩
    · rw [hphase] at hf
      obtain ⟨hlast, hbusy, hcr, hstop⟩ := hw r run₀ hr₀ hf
      exact ⟨by simpa using hlast, hbusy, hcr, fun hs => by rw [hcanc]; exact hstop hs⟩
    · obtain ⟨hlast, hbusy, hcr, hstop⟩ := hw r run hr hf
      exact ⟨by simpa using hlast, hbusy, hcr, hstop⟩

/-! ## Whatever the configurations: the wait group -/

/-- Simulations whose `s.wg.Done()` is still to come. -/
def pending (sims : List SimRun) : Nat := sims.countP fun s => s.phase ≠ .done

/-- The context of the devices is cancelled once `runSimulation` has returned. -/
def SimRun.Closed (s : SimRun) : Prop :=
  s.phase = .returned ∨ s.phase = .done → s.cancelled = true

/-- The wait group is at zero exactly if every simulation is done. -/
theorem pending_eq_zero_iff {sims : List SimRun} :
    pending sims = 0 ↔ ∀ s ∈ sims, s.phase = .done := by
  simp [pending, List.countP_eq_zero]

/-- A simulation's step closes what it must, and it signals exactly when it becomes `done`. -/
theorem simStep_closed {s s' : SimRun} {e : SimEvent} {signalled : Bool}
    (hs : s.Closed) (h : simStep s e = some (s', signalled)) :
    s'.Closed ∧ (signalled = true → s.phase ≠ .done ∧ s'.phase = .done) ∧
      (signalled = false → (s'.phase = .done ↔ s.phase = .done)) := by
  cases simStep_cases h with
  | initDone hp => exact ⟨by simp [SimRun.Closed], by simp, by simp [hp]⟩
  | newDevice hp => exact ⟨hs, by simp, by simp⟩
  | loopExit hloops => exact ⟨hs, by simp, by simp⟩
  | interrupt hp => exact ⟨fun _ => rfl, by simp, by simp⟩
  | returnError hp => exact ⟨fun _ => rfl, by simp, by simp [hp]⟩
  | returnDone hp hloops => exact ⟨fun _ => rfl, by simp, by simp [hp]⟩
  | wgDone hp => exact ⟨fun _ => hs (Or.inl hp), by simp [hp], by simp⟩

/-- Of a moved simulation: one less is pending if it signalled, else as many as before. -/
theorem pending_set {sims : List SimRun} {i : Nat} {s s' : SimRun} {e : SimEvent} {signalled : Bool}
    (hs : sims[i]? = some s) (hclosed : s.Closed) (hstep : simStep s e = some (s', signalled)) :
    pending (sims.set i s') + (if signalled then 1 else 0) = pending sims := by
  obtain ⟨hi, rfl⟩ := List.getElem?_eq_some_iff.mp hs
  obtain ⟨-, hsig, hnosig⟩ := simStep_closed hclosed hstep
  have hcount : pending (sims.set i s') =
      pending sims - (if sims[i].phase ≠ .done then 1 else 0)
        + (if s'.phase ≠ .done then 1 else 0) := by
    simp [pending, List.countP_set hi]
  have hone : sims[i].phase ≠ .done → 0 < pending sims := by
    intro hne
    exact List.countP_pos_iff.mpr ⟨sims[i], List.getElem_mem hi, by simpa using hne⟩
  cases signalled with
  | true =>
    obtain ⟨hne, hdone⟩ := hsig rfl
    have hpos := hone hne
    rw [hcount, if_pos hne, if_neg (by simpa using hdone), if_pos rfl]
    omega
  | false =>
    rw [if_neg (by decide), hcount]
    by_cases hd : sims[i].phase = .done
    · simp [hd, (hnosig rfl).mpr hd]
    · have hd' : s'.phase ≠ .done := fun hx => hd ((hnosig rfl).mp hx)
      have hpos := hone hd
      rw [if_pos hd, if_pos hd']
      omega

/-- What holds of every run, whatever its configuration: the wait group counts the simulations still
    to come, and none are to come once `wg.Wait()` has returned. -/
structure Counted (run : Run) : Prop where
  closed : ∀ s ∈ run.sims, s.Closed
  wg : pending run.sims ≤ run.wg
  drained : run.phase = .drained → pending run.sims = 0

/-- A step of the run's goroutine keeps the count. -/
theorem counted_advance {st st' : SimState} {run run' : Run}
    (hrun : Counted run) (h : advance st run = some (st', run')) : Counted run' := by
  obtain ⟨hclosed, hwg, hdrained⟩ := hrun
  cases advance_cases h with
  | begins cfg hp => exact ⟨hclosed, hwg, fun h => by cases h⟩
  | launches i c rest sim hp hsim =>
    refine ⟨?_, ?_, fun h => by cases h⟩
    · intro s hs
      rcases List.mem_append.mp hs with hs | hs
      · exact hclosed s hs
      · rw [List.mem_singleton.mp hs]
        intro hph
        rcases hph with hph | hph <;> exact absurd hph (by simp [SimRun.new])
    · show pending (run.sims ++ [SimRun.new sim]) ≤ run.wg + 1
      rw [pending, List.countP_append]
      exact Nat.add_le_add hwg (by simp [SimRun.new])
  | rejects i c rest hp hc => exact ⟨hclosed, Nat.le_succ_of_le hwg, fun h => by cases h⟩
  | waits i hp => exact ⟨hclosed, hwg, fun h => by cases h⟩
  | drains hp hzero =>
    have hnone : pending run.sims = 0 := by omega
    exact ⟨hclosed, hwg, fun _ => hnone⟩
  | fails hp => exact ⟨hclosed, hwg, fun h => by cases h⟩
  | ends hp => exact ⟨hclosed, hwg, fun h => by cases h⟩

/-- So does a step of a simulation. -/
theorem counted_simMove {run run' : Run} {i : Nat} {e : SimEvent}
    (hrun : Counted run) (h : simMove run i e = some run') : Counted run' := by
  obtain ⟨s, s', signalled, hs, hstep, rfl⟩ := simMove_cases h
  obtain ⟨hclosed, hwg, hdrained⟩ := hrun
  have hcl : s.Closed := hclosed s (List.mem_of_getElem? hs)
  have hcount := pending_set hs hcl hstep
  refine ⟨?_, ?_, fun hp => ?_⟩
  · intro x hx
    rcases List.mem_or_eq_of_mem_set hx with hx | rfl
    · exact hclosed x hx
    · exact (simStep_closed hcl hstep).1
  · -- the wait group goes down with the simulations it waits for
    show pending (run.sims.set i s') ≤ if signalled = true then run.wg - 1 else run.wg
    split at hcount <;> rename_i hsig
    · rw [if_pos hsig]
      omega
    · rw [if_neg hsig]
      omega
  · have hzero := hdrained hp
    show pending (run.sims.set i s') = 0
    omega

/-- **Invariants of single runs**: what a fresh run has, and a stop, the goroutine and the simulations
    keep, every run keeps. -/
theorem forall_runs_step {P : Run → Prop} {parseDuration : String → Except String Int} {w w' : World}
    {a : Label}
    (hfresh : ∀ q cfg, a = .start q → q.discovered = .ok cfg → P ⟨.spawned cfg, false, 0, []⟩)
    (hcancel : ∀ run, P run → P { run with cancelled := true })
    (hadvance : ∀ st st' run run', P run → advance st run = some (st', run') → P run')
    (hmove : ∀ run run' i e, P run → simMove run i e = some run' → P run')
    (hw : ∀ run ∈ w.runs, P run) (h : step parseDuration w a = some w') : ∀ run ∈ w'.runs, P run := by
  rcases step_cases h with rfl | ⟨q, req, cfg, hq, hcfg, -, rfl⟩ | ⟨post, -, -, rfl⟩ |
    ⟨r₀, run₀, st, run', -, hr₀, hadv, rfl⟩ | ⟨r₀, run₀, i, e, run', -, hr₀, hsim, rfl⟩
  · exact hw
  · intro run hrun
    rcases List.mem_append.mp hrun with hrun | hrun
    · exact hw run hrun
    · rw [List.mem_singleton.mp hrun]
      exact hfresh q cfg hq hcfg
  · intro run hrun
    obtain ⟨r, hr⟩ := List.getElem?_of_mem hrun
    obtain ⟨run₀, hr₀, rfl⟩ := getElem?_acceptStop hr
    have hrun₀ := hw run₀ (List.mem_of_getElem? hr₀)
    split
    · exact hcancel run₀ hrun₀
    · exact hrun₀
  · intro run hrun
    rcases List.mem_or_eq_of_mem_set hrun with hrun | rfl
    · exact hw run hrun
    · exact hadvance _ _ _ _ (hw run₀ (List.mem_of_getElem? hr₀)) hadv
  · intro run hrun
    rcases List.mem_or_eq_of_mem_set hrun with hrun | rfl
    · exact hw run hrun
    · exact hmove _ _ _ _ (hw run₀ (List.mem_of_getElem? hr₀)) hsim

/-- **One step** keeps the count of every run. -/
theorem counted_step {parseDuration : String → Except String Int} {w w' : World} {a : Label}
    (hw : ∀ run ∈ w.runs, Counted run) (h : step parseDuration w a = some w') :
    ∀ run ∈ w'.runs, Counted run :=
  forall_runs_step (fun _ _ _ _ => ⟨by simp, by simp [pending], fun h => by cases h⟩)
    (fun _ hrun => ⟨hrun.closed, hrun.wg, hrun.drained⟩) (fun _ _ _ _ hrun h => counted_advance hrun h)
    (fun _ _ _ _ hrun h => counted_simMove hrun h) hw h

/-! ## Launchable configurations: a finished run has no live simulation -/

/-- The invariant of a run with a launchable configuration: its wait group counts the simulations
    still to come, and where the goroutine stands says how many those can be. -/
structure Settled (run : Run) : Prop where
  closed : ∀ s ∈ run.sims, s.Closed
  wg : pending run.sims ≤ run.wg
  phase : match run.phase with
    | .spawned cfg => run.sims = [] ∧ Launchable cfg
    | .launching _ rest => (run.sims = [] ∧ Launchable rest) ∨ ∀ c ∈ rest, Launches c
    | .failed => run.sims = []
    | .waiting => True
    | .drained => pending run.sims = 0
    | .finished => pending run.sims = 0

theorem Settled.counted {run : Run} (h : Settled run) : Counted run where
  closed := h.closed
  wg := h.wg
  drained hp := by
    have hphase := h.phase
    rw [hp] at hphase
    exact hphase

/-- A finished run with a launchable configuration has nothing live. -/
theorem Settled.not_live {run : Run} (h : Settled run) (hf : run.phase = .finished) :
    ∀ s ∈ run.sims, ¬ Live run s := by
  intro s hs hlive
  have hdone : ∀ s ∈ run.sims, s.phase = .done := by
    have hphase := h.phase
    rw [hf] at hphase
    exact pending_eq_zero_iff.mp hphase
  rcases hlive.2 with hne | ⟨-, hopen⟩
  · exact hne (hdone s hs)
  · rw [h.closed s hs (Or.inr (hdone s hs))] at hopen
    exact absurd hopen (by decide)

/-- The goroutine goes on from one phase to the next. -/
theorem settled_advance {st st' : SimState} {run run' : Run}
    (hrun : Settled run) (h : advance st run = some (st', run')) : Settled run' := by
  have hcounted := counted_advance hrun.counted h
  refine ⟨hcounted.closed, hcounted.wg, ?_⟩
  have hphase := hrun.phase
  cases advance_cases h with
  | begins cfg hp =>
    rw [hp] at hphase
    exact Or.inl hphase
  | launches i c rest sim hp hsim =>
    -- the entry is launched: then no later one fails
    rw [hp] at hphase
    have hc : Launches c := (launches_iff i c).mpr ⟨sim, hsim⟩
    refine Or.inr ?_
    rcases hphase with ⟨-, hlaunch⟩ | hall
    · exact hlaunch hc
    · exact fun c' hc' => hall c' (List.mem_cons_of_mem c hc')
  | rejects i c rest hp hc =>
    -- the entry fails: then nothing was launched before it
    rw [hp] at hphase
    rcases hphase with ⟨hnil, -⟩ | hall
    · exact hnil
    · exact absurd (hall c List.mem_cons_self) hc
  | waits i hp => trivial
  | drains hp hzero => exact hcounted.drained rfl
  | fails hp =>
    rw [hp] at hphase
    have hnil : run.sims = [] := hphase
    show pending run.sims = 0
    rw [hnil]
    rfl
  | ends hp =>
    rw [hp] at hphase
    exact hphase

theorem settled_simMove {run run' : Run} {i : Nat} {e : SimEvent}
    (hrun : Settled run) (h : simMove run i e = some run') : Settled run' := by
  have hcounted := counted_simMove hrun.counted h
  refine ⟨hcounted.closed, hcounted.wg, ?_⟩
  obtain ⟨s, s', signalled, hs, hstep, rfl⟩ := simMove_cases h
  have hphase := hrun.phase
  have hcount := pending_set hs (hrun.closed s (List.mem_of_getElem? hs)) hstep
  -- the goroutine has not moved, and `set` keeps an empty list empty
  show match run.phase with
    | .spawned cfg => run.sims.set i s' = [] ∧ Launchable cfg
    | .launching _ rest => (run.sims.set i s' = [] ∧ Launchable rest) ∨ ∀ c ∈ rest, Launches c
    | .failed => run.sims.set i s' = []
    | .waiting => True
    | .drained => pending (run.sims.set i s') = 0
    | .finished => pending (run.sims.set i s') = 0
  have hnil : run.sims = [] → run.sims.set i s' = [] := by
    intro h
    rw [h]
    rfl
  have hzero : pending run.sims = 0 → pending (run.sims.set i s') = 0 := by
    intro h
    omega
  revert hphase
  cases run.phase with
  | spawned cfg => exact fun h => ⟨hnil h.1, h.2⟩
  | launching j rest => exact fun h => h.imp (fun h => ⟨hnil h.1, h.2⟩) id
  | failed => exact hnil
  | waiting => exact id
  | drained => exact hzero
  | finished => exact hzero

/-- A request for a configuration in `D`, or no start request at all. -/
def StartsFrom (D : List SimulatorConfig → Prop) (a : Label) : Prop :=
  ∀ q cfg, a = .start q → q.discovered = .ok cfg → D cfg

/-- **One step**, with entries that can be launched. -/
theorem settled_step {parseDuration : String → Except String Int} {w w' : World} {a : Label}
    (hw : ∀ run ∈ w.runs, Settled run) (ha : StartsFrom Launchable a)
    (h : step parseDuration w a = some w') : ∀ run ∈ w'.runs, Settled run :=
  forall_runs_step (fun q cfg hq hcfg => ⟨by simp, by simp [pending], rfl, ha q cfg hq hcfg⟩)
    (fun _ hrun => ⟨hrun.closed, hrun.wg, hrun.phase⟩) (fun _ _ _ _ hrun h => settled_advance hrun h)
    (fun _ _ _ _ hrun h => settled_simMove hrun h) hw h

/-- The two invariants give the property. -/
theorem oneRun_of_orderly {w : World} (ho : Orderly w) (hs : ∀ run ∈ w.runs, Settled run) :
    OneRun w := by
  have hlive : ∀ (r : Nat) (run : Run), w.runs[r]? = some run → (∃ s ∈ run.sims, Live run s) →
      run.phase ≠ .finished := by
    rintro r run hr ⟨s, hmem, hl⟩ hf
    exact (hs run (List.mem_of_getElem? hr)).not_live hf s hmem hl
  constructor
  · intro hrest run hrun s hmem hl
    obtain ⟨r, hr⟩ := List.getElem?_of_mem hrun
    obtain ⟨-, hbusy, -, -⟩ := ho r run hr (hlive r run hr ⟨s, hmem, hl⟩)
    exact busy_iff.mp hbusy hrest
  · intro r run hr hl
    obtain ⟨-, hbusy, hcancel, hstop⟩ := ho r run hr (hlive r run hr hl)
    have hopen : w.state.status = .running ∨ w.state.status = .starting := by
      rcases hbusy with h | h | h
      · exact Or.inr h
      · exact Or.inl h
      · obtain ⟨s, -, hc, -⟩ := hl
        rw [hstop h] at hc
        exact absurd hc (by decide)
    have haccept : handleStop w true = (acceptStop w, .ok "stopping") := by
      rw [handleStop, if_neg (by decide), if_neg]
      rcases hopen with h | h <;> simp [h]
    refine ⟨by rw [haccept], { run with cancelled := true }, ?_, rfl⟩
    rw [haccept]
    simp [acceptStop, cancelRun, hcancel, hr]

/-! ## Other configurations: a failing entry strands what was launched before it -/

/-- From inside `simulator.Start`, with a failing entry still to come, the goroutine alone reaches
    `error` and leaves the simulations launched so far behind. -/
theorem strands (parseDuration : String → Except String Int) (r : Nat) :
    ∀ (rest : List SimulatorConfig) (i : Nat) (w : World) (run : Run),
      w.runs[r]? = some run → run.phase = .launching i rest → (∃ c ∈ rest, ¬ Launches c) →
      ∃ n w', ∃ run' : Run, exec (step parseDuration) w (List.replicate n (.run r)) = some w' ∧
        w'.state.status = .error ∧ w'.runs[r]? = some run' ∧ run'.cancelled = run.cancelled ∧
        ∀ s ∈ run.sims, s ∈ run'.sims := by
  intro rest
  induction rest with
  | nil =>
    rintro i w run - - ⟨c, hc, -⟩
    exact absurd hc List.not_mem_nil
  | cons c rest ih =>
    intro i w run hr hp hbad
    have hlt : r < w.runs.length := (List.getElem?_eq_some_iff.mp hr).1
    by_cases hc : Launches c
    · -- this entry is launched; the failing one is further on
      obtain ⟨sim, hsim⟩ := (launches_iff i c).mp hc
      have hbad' : ∃ c ∈ rest, ¬ Launches c := by
        obtain ⟨c', hmem, hn⟩ := hbad
        rcases List.mem_cons.mp hmem with rfl | hmem
        · exact absurd hc hn
        · exact ⟨c', hmem, hn⟩
      let next : Run := { run with
        wg := run.wg + 1, sims := run.sims ++ [.new sim], phase := .launching (i + 1) rest }
      have hadv : advance w.state run = some (w.state, next) := by simp [advance, hp, hsim, next]
      obtain ⟨n, w', run', hexec, hst, hr', hcanc, hsims⟩ :=
        ih (i + 1) ⟨w.state, w.runs.set r next⟩ next (by simp [hlt]) rfl hbad'
      refine ⟨n + 1, w', run', ?_, hst, hr', hcanc, fun s hs => hsims s ?_⟩
      · rw [List.replicate_succ, exec_cons_eq_some]
        exact ⟨_, step_run parseDuration hr hadv, hexec⟩
      · exact List.mem_append_left _ hs
    · -- this entry fails: one step to return the error, one to write the status
      have hsim := (not_launches_iff i c).mp hc
      let failed : Run := { run with wg := run.wg + 1, phase := .failed }
      have hadv : advance w.state run = some (w.state, failed) := by simp [advance, hp, hsim, failed]
      have hfail := step_run parseDuration hr hadv
      have hr' : (w.runs.set r failed)[r]? = some failed := by simp [hlt]
      have hadv' : advance w.state failed
          = some ({ w.state with status := .error }, { failed with phase := .finished }) := by
        simp [advance, failed]
      have herr := step_run parseDuration (w := ⟨w.state, w.runs.set r failed⟩)
        hr' hadv'
      exact ⟨2, _, { failed with phase := .finished },
        exec_cons_eq_some.mpr ⟨_, hfail, exec_cons_eq_some.mpr ⟨_, herr, rfl⟩⟩,
        rfl, by simp [hlt], rfl, fun s hs => hs⟩

/-- **Exactly the launchable configurations keep one run at a time**: over all interleavings of
    start requests for configurations in `D`, stop requests and the goroutines they launch. -/
theorem oneRun_iff (parseDuration : String → Except String Int)
    (D : List SimulatorConfig → Prop) :
    (∀ labels w, (∀ a ∈ labels, StartsFrom D a) →
        exec (step parseDuration) init labels = some w → OneRun w)
      ↔ ∀ cfg, D cfg → Launchable cfg := by
  constructor
  · intro h cfg hD
    by_contra hbad
    -- a configuration that is not launchable has a first entry that launches and a later one that
    -- does not
    obtain ⟨c, cs, rfl, hc, hcs⟩ : ∃ c cs, cfg = c :: cs ∧ Launches c ∧ ∃ c' ∈ cs, ¬ Launches c' := by
      cases cfg with
      | nil => exact absurd trivial hbad
      | cons c cs =>
        simp only [Launchable] at hbad
        push Not at hbad
        exact ⟨c, cs, rfl, hbad.1, hbad.2⟩
    obtain ⟨sim, hsim⟩ := (launches_iff 0 c).mp hc
    let q : StartCall := ⟨true, .ok .empty, .ok (c :: cs), 0⟩
    obtain ⟨n, w', run', hexec, hst, hr', hcanc, hsims⟩ :=
      strands parseDuration 0 cs 1
        ⟨{ (acceptStart init (sanitize (applyDefaults .empty)) (c :: cs) 0).state with
            status := .running }, [⟨.launching 1 cs, false, 1, [.new sim]⟩]⟩
        ⟨.launching 1 cs, false, 1, [.new sim]⟩ rfl rfl hcs
    have hrun : exec (step parseDuration) init
        (.start q :: .run 0 :: .run 0 :: List.replicate n (.run 0)) = some w' := by
      have hq : handleStart parseDuration init q =
          (acceptStart init (sanitize (applyDefaults .empty)) (c :: cs) 0, .ok "starting") := rfl
      rw [exec_cons_eq_some]
      refine ⟨_, by rw [step, hq], ?_⟩
      rw [exec_cons_eq_some]
      refine ⟨_, rfl, ?_⟩
      rw [exec_cons_eq_some]
      exact ⟨_, by simp [step, advance, acceptStart, init, hsim], hexec⟩
    have hall : ∀ a ∈ (.start q :: .run 0 :: .run 0 :: List.replicate n (.run 0) : List Label),
        StartsFrom D a := by
      intro a ha q' cfg' hq' hcfg'
      subst hq'
      have hq'' : q' = q := by simpa using ha
      subst hq''
      have : c :: cs = cfg' := by simpa [q] using hcfg'
      exact this ▸ hD
    obtain ⟨hquiet, -⟩ := h _ w' hall hrun
    refine hquiet (Or.inr hst) run' (List.mem_of_getElem? hr') (.new sim) ?_ ?_
    · exact hsims _ (by simp)
    · exact ⟨hcanc, Or.inl (by simp [SimRun.new])⟩
  · intro hD labels w hlabels hexec
    have hinv : Orderly w ∧ ∀ run ∈ w.runs, Settled run :=
      exec_invariant_of_always (G := fun _ a => StartsFrom Launchable a)
        (I := fun w => Orderly w ∧ ∀ run ∈ w.runs, Settled run)
        (fun w a w' hw ha hstep => ⟨orderly_step hw.1 hstep, settled_step hw.2 ha hstep⟩)
        ⟨orderly_init, by simp [init]⟩
        (always_of_forall_mem fun a ha q cfg hq hcfg => hD cfg (hlabels a ha q cfg hq hcfg)) hexec
    exact oneRun_of_orderly hinv.1 hinv.2

/-- What the discovery makes of a tenant with one application, one device and one gateway: the
    defaults, but for the payload of the tenant's saved configuration. -/
def discoveredEntry (tenantID appName payload : String) : SimulatorConfig where
  tenantID := tenantID
  duration := 0
  activationTime := 30 * second
  appName := appName
  deviceNamePrefix := ""
  payloadScript := ""
  packetLoss := 0
  simulatePacketLoss := false
  latencyMs := 0
  anomalyProbability := 0
  anomalyTypes := ""
  anomalyDuration := 5
  passiveMode := true
  syncIntervalMinutes := 0
  device := ⟨1, 120 * second, 10, payload, 868100000, 125000, 7⟩
  gateway := ⟨1, 1, defaultEventTopicTemplate, defaultCommandTopicTemplate⟩
  deviceIntervals := []

/-- Two tenants, the second one with a saved payload that is not hexadecimal: the status ends at
    `error` while the first tenant's simulation runs on. -/
theorem oneRun_stranded :
    ∃ w, exec (step fun _ => .ok second) init
        [.start ⟨true, .ok .empty,
          .ok [discoveredEntry "52f14cd4-c6f1-4fbd-8f87-4025e1d49242" "kuyu" "001903F521",
            discoveredEntry "9d1c5d4e-2a7b-4b0e-9a55-6f0a3c1be8d7" "tank" "sicaklik"], 0⟩,
         .run 0, .run 0, .run 0, .run 0] = some w ∧ ¬ OneRun w :=
  ⟨_, rfl, fun h => absurd h.1 (by decide)⟩

end ChirpStackSimulator.Lifecycle
