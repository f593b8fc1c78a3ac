/-
  A stop is sticky.

  The status diagram of the HTTP API has one way out of `stopping`, to `idle`.  The code takes
  another one: between `handleStart` releasing the lock and the first step of the goroutine it
  launched, the status is `starting`, a stop is accepted there, and the goroutine's first write then
  sets the status to `running` without looking at it.

  1. `Sticky` is the property of one state after an accepted stop, over everything that can follow.
  2. `Phased` holds in every reachable state: a goroutine still before its first step is seen as
     `starting`, or as `stopping` when a stop has come in between.
  3. `Stopped` is what a sticky stop leaves behind, and every step but an accepted start keeps it
     (`stopped_step`).
  4. `stop_sticky_iff`: in every run, all accepted stops are sticky exactly when none of them is
     accepted in `starting`.
-/
import ChirpStackSimulator.OneRun

namespace ChirpStackSimulator.Lifecycle

open Transition

/-! ## The property -/

section
variable (parseDuration : String → Except String Int)

/-- The label is a start request that `w` answers with `starting`. -/
def AcceptsStart (w : World) (a : Label) : Prop :=
  ∃ q, a = .start q ∧ (handleStart parseDuration w q).2 = .ok "starting"

/-- The label is a stop request that `w` answers with `stopping`. -/
def AcceptsStop (w : World) (a : Label) : Prop :=
  ∃ post, a = .stop post ∧ (handleStop w post).2 = .ok "stopping"

/-- Not running, and not about to be. -/
def Resting (w : World) : Prop :=
  w.state.status = .stopping ∨ w.state.status = .idle ∨ w.state.status = .error

/-- Until a start is accepted, the status only rests. -/
def Sticky (w : World) : Prop :=
  ∀ later w', Always (step parseDuration) (fun w a => ¬ AcceptsStart parseDuration w a) w later →
    exec (step parseDuration) w later = some w' → Resting w'

/-- Every stop the run along `labels` accepts is sticky in the state it leads to. -/
def StopsSticky (labels : List Label) : Prop :=
  Always (step parseDuration)
    (fun w a => AcceptsStop w a → ∀ w', step parseDuration w a = some w' → Sticky parseDuration w')
    init labels

end

/-! ## Goroutines before their first step -/

def Run.Spawned (run : Run) : Prop := ∃ cfg, run.phase = .spawned cfg

/-- Only the goroutine's first step writes `running`, and it is no longer at its start after it. -/
theorem advance_spawned {st st' : SimState} {run run' : Run}
    (h : advance st run = some (st', run')) :
    ¬ run'.Spawned ∧
      (run.Spawned ∧ st'.status = .running ∨
        ¬ run.Spawned ∧ (st'.status = st.status ∨ st'.status = .error ∨ st'.status = .idle)) := by
  unfold Run.Spawned
  cases advance_cases h with
  | begins cfg hp => exact ⟨by simp, Or.inl ⟨⟨cfg, hp⟩, rfl⟩⟩
  | launches i c rest sim hp _ => exact ⟨by simp, Or.inr ⟨by simp [hp], Or.inl rfl⟩⟩
  | rejects i c rest hp _ => exact ⟨by simp, Or.inr ⟨by simp [hp], Or.inl rfl⟩⟩
  | waits i hp => exact ⟨by simp, Or.inr ⟨by simp [hp], Or.inl rfl⟩⟩
  | drains hp _ => exact ⟨by simp, Or.inr ⟨by simp [hp], Or.inl rfl⟩⟩
  | fails hp => exact ⟨by simp, Or.inr ⟨by simp [hp], Or.inr (Or.inl rfl)⟩⟩
  | ends hp => exact ⟨by simp, Or.inr ⟨by simp [hp], Or.inr (Or.inr rfl)⟩⟩

/-- A spawned goroutine shows as `starting` or `stopping`, and `starting` shows a spawned one. -/
structure Phased (w : World) : Prop where
  orderly : Orderly w
  shows : ∀ run ∈ w.runs, run.Spawned → w.state.status = .starting ∨ w.state.status = .stopping
  shown : w.state.status = .starting → ∃ (r : Nat) (run : Run), w.runs[r]? = some run ∧ run.Spawned

theorem phased_init : Phased init :=
  ⟨orderly_init, by simp [init], fun h => absurd h (by decide)⟩

/-- A spawned goroutine is not over. -/
theorem Run.Spawned.not_finished {run : Run} (h : run.Spawned) : run.phase ≠ .finished := by
  obtain ⟨cfg, hp⟩ := h
  simp [hp]

theorem phased_step {parseDuration : String → Except String Int} {w w' : World} {a : Label}
    (hw : Phased w) (h : step parseDuration w a = some w') : Phased w' := by
  refine ⟨orderly_step hw.orderly h, ?_, ?_⟩
  · rcases step_cases h with rfl | ⟨q, req, cfg, -, -, hst, rfl⟩ | ⟨post, -, hst, rfl⟩ |
      ⟨r₀, run₀, st, run', -, hr₀, hadv, rfl⟩ | ⟨r₀, run₀, i, e, run', -, hr₀, hmove, rfl⟩
    · exact hw.shows
    · exact fun _ _ _ => Or.inl rfl
    · exact fun _ _ _ => Or.inr rfl
    · -- another spawned goroutine cannot be there: both would be the last one
      intro run hrun hsp
      obtain ⟨r, hr⟩ := List.getElem?_of_mem hrun
      rcases Objects.of_lookup_set hr with ⟨-, rfl⟩ | ⟨hne, hr⟩
      · exact absurd hsp (advance_spawned hadv).1
      · obtain ⟨hlast, -⟩ := hw.orderly r run hr hsp.not_finished
        obtain ⟨hlast₀, -⟩ := hw.orderly r₀ run₀ hr₀ (advance_state hadv).1
        exact absurd (by omega : r = r₀) hne
    · intro run hrun hsp
      rcases List.mem_or_eq_of_mem_set hrun with hrun | rfl
      · exact hw.shows run hrun hsp
      · obtain ⟨cfg, hp⟩ := hsp
        exact hw.shows run₀ (List.mem_of_getElem? hr₀) ⟨cfg, (simMove_run hmove).1 ▸ hp⟩
  · rcases step_cases h with rfl | ⟨q, req, cfg, -, -, hst, rfl⟩ | ⟨post, -, hst, rfl⟩ |
      ⟨r₀, run₀, st, run', -, hr₀, hadv, rfl⟩ | ⟨r₀, run₀, i, e, run', -, hr₀, hmove, rfl⟩
    · exact hw.shown
    · exact fun _ => ⟨w.runs.length, ⟨.spawned cfg, false, 0, []⟩, by simp [acceptStart], cfg, rfl⟩
    · exact fun hs => absurd hs (by simp [acceptStop])
    · -- the status is still `starting`, so the goroutine that moved was not spawned; but then it
      -- is over, since the spawned one is the only one that is not
      intro hs
      rcases (advance_spawned hadv).2 with ⟨-, hrunning⟩ | ⟨hn₀, hsame | herr | hidle⟩
      · rw [hrunning] at hs; exact absurd hs (by decide)
      · obtain ⟨r, run, hr, hsp⟩ := hw.shown (hsame ▸ hs)
        obtain ⟨hlast, -⟩ := hw.orderly r run hr hsp.not_finished
        obtain ⟨hlast₀, -⟩ := hw.orderly r₀ run₀ hr₀ (advance_state hadv).1
        have heq : r = r₀ := by omega
        subst heq
        rw [hr] at hr₀
        exact absurd (Option.some.inj hr₀ ▸ hsp) hn₀
      · rw [herr] at hs; exact absurd hs (by decide)
      · rw [hidle] at hs; exact absurd hs (by decide)
    · intro hs
      obtain ⟨r, run, hr, cfg, hp⟩ := hw.shown hs
      by_cases heq : r₀ = r
      · subst heq
        rw [hr] at hr₀
        refine ⟨r₀, run', Objects.set_self hr, cfg, ?_⟩
        rw [(simMove_run hmove).1, ← Option.some.inj hr₀, hp]
      · exact ⟨r, run, Objects.set_kept (Ne.symm heq) hr, cfg, hp⟩

/-! ## With no spawned goroutine nothing starts again -/

/-- No goroutine has its first step still to come, and the status rests. -/
structure Stopped (w : World) : Prop where
  resting : Resting w
  none_spawned : ∀ run ∈ w.runs, ¬ run.Spawned

/-- Short of an accepted start, every step keeps `Stopped`. -/
theorem stopped_step {parseDuration : String → Except String Int} {w w' : World} {a : Label}
    (hw : Stopped w) (ha : ¬ AcceptsStart parseDuration w a)
    (h : step parseDuration w a = some w') : Stopped w' := by
  cases a with
  | start q =>
    have h' : (handleStart parseDuration w q).1 = w' := by simpa [step] using h
    rcases handleStart_cases parseDuration w q with ⟨hsame, -⟩ | ⟨req, cfg, -, -, hacc⟩
    · rw [← h', hsame]; exact hw
    · exact absurd ⟨q, rfl, by rw [hacc]⟩ ha
  | stop post =>
    -- a second stop is refused
    have h' : (handleStop w post).1 = w' := by simpa [step] using h
    rcases handleStop_cases w post with ⟨hsame, -⟩ | ⟨hst, -⟩
    · rw [← h', hsame]; exact hw
    · rcases hw.resting with h | h | h <;> simp [h] at hst
  | run r =>
    rcases step_cases h with rfl | ⟨_, _, _, hq, _⟩ | ⟨_, hq, _⟩ |
      ⟨r₀, run₀, st, run', -, hr₀, hadv, rfl⟩ | ⟨_, _, _, _, _, hq, _⟩
    · exact hw
    · exact absurd hq (by simp)
    · exact absurd hq (by simp)
    · have hn₀ := hw.none_spawned run₀ (List.mem_of_getElem? hr₀)
      obtain ⟨hn', hcase⟩ := advance_spawned hadv
      refine ⟨?_, fun run hrun => ?_⟩
      · rcases hcase with ⟨hsp, -⟩ | ⟨-, hsame | herr | hidle⟩
        · exact absurd hsp hn₀
        · show st.status = _ ∨ _
          rw [hsame]
          exact hw.resting
        · exact Or.inr (Or.inr herr)
        · exact Or.inr (Or.inl hidle)
      · rcases List.mem_or_eq_of_mem_set hrun with hrun | rfl
        · exact hw.none_spawned run hrun
        · exact hn'
    · exact absurd hq (by simp)
  | sim r i e =>
    rcases step_cases h with rfl | ⟨_, _, _, hq, _⟩ | ⟨_, hq, _⟩ | ⟨_, _, _, _, hq, _⟩ |
      ⟨r₀, run₀, i₀, e₀, run', -, hr₀, hmove, rfl⟩
    · exact hw
    · exact absurd hq (by simp)
    · exact absurd hq (by simp)
    · exact absurd hq (by simp)
    · refine ⟨hw.resting, fun run hrun => ?_⟩
      rcases List.mem_or_eq_of_mem_set hrun with hrun | rfl
      · exact hw.none_spawned run hrun
      · rintro ⟨cfg, hp⟩
        exact hw.none_spawned run₀ (List.mem_of_getElem? hr₀) ⟨cfg, (simMove_run hmove).1 ▸ hp⟩

theorem Stopped.sticky {parseDuration : String → Except String Int} {w : World} (hw : Stopped w) :
    Sticky parseDuration w := by
  intro later w' hlater hexec
  have hinv : Stopped w' :=
    exec_invariant_of_always (fun w a w' hw ha h => stopped_step hw ha h) hw hlater hexec
  exact hinv.resting

/-! ## The exact condition -/

/-- In a reachable state, an accepted stop is sticky exactly when it does not fall into
    `starting`. -/
theorem sticky_acceptStop_iff (parseDuration : String → Except String Int) {w : World}
    (hw : Phased w) (hacc : w.state.status = .running ∨ w.state.status = .starting) :
    Sticky parseDuration (acceptStop w) ↔ w.state.status ≠ .starting := by
  constructor
  · -- the spawned goroutine takes its first step
    intro hsticky hstarting
    obtain ⟨r, run, hr, cfg, hp⟩ := hw.shown hstarting
    obtain ⟨-, -, hcancel, -⟩ := hw.orderly r run hr (by simp [hp])
    have hr' : (acceptStop w).runs[r]? = some { run with cancelled := true } := by
      simp [acceptStop, cancelRun, hcancel, hr]
    have hadv : advance (acceptStop w).state { run with cancelled := true } =
        some ({ (acceptStop w).state with status := .running },
          { run with cancelled := true, phase := .launching 0 cfg }) := by
      simp [advance, hp]
    have hstep := step_run parseDuration hr' hadv
    have hlabel : ¬ AcceptsStart parseDuration (acceptStop w) (.run r) := by
      rintro ⟨q, hq, -⟩
      exact absurd hq (by simp)
    have hrest := hsticky [.run r] _ ⟨hlabel, fun _ _ => trivial⟩
      (exec_cons_eq_some.mpr ⟨_, hstep, rfl⟩)
    rcases hrest with h | h | h <;> exact absurd h (by simp)
  · intro hne
    have hrunning : w.state.status = .running := hacc.resolve_right hne
    refine Stopped.sticky ⟨Or.inl rfl, fun run hrun hsp => ?_⟩
    obtain ⟨r, hr⟩ := List.getElem?_of_mem hrun
    obtain ⟨run₀, hr₀, rfl⟩ := getElem?_acceptStop hr
    have hsp₀ : run₀.Spawned := by
      obtain ⟨cfg, hp⟩ := hsp
      refine ⟨cfg, ?_⟩
      rw [← hp]
      split <;> rfl
    rcases hw.shows run₀ (List.mem_of_getElem? hr₀) hsp₀ with h | h <;>
      rw [hrunning] at h <;> exact absurd h (by decide)

/-- **The stops of a run are sticky exactly when none is accepted in `starting`**, that is before
    the goroutine of the start it follows has taken its first step. -/
theorem stop_sticky_iff (parseDuration : String → Except String Int) (labels : List Label) :
    StopsSticky parseDuration labels ↔
      Always (step parseDuration) (fun w a => AcceptsStop w a → w.state.status ≠ .starting)
        init labels := by
  refine always_congr (I := Phased) (fun w a hw => ?_) (fun w a w' hw _ h => phased_step hw h)
    labels phased_init
  refine forall_congr' fun hstop => ?_
  obtain ⟨post, rfl, hresp⟩ := hstop
  rcases handleStop_cases w post with ⟨-, hcode⟩ | ⟨hst, hacc⟩
  · exact absurd (by rw [hresp]; rfl) hcode
  · have hstep : step parseDuration w (.stop post) = some (acceptStop w) := by
      simp only [step, hacc]
    rw [← sticky_acceptStop_iff parseDuration hw hst]
    constructor
    · exact fun h => h _ hstep
    · intro h w' hw'
      rw [hstep] at hw'
      exact Option.some.inj hw' ▸ h

/-- Start, stop, and only then the first step of the goroutine: `running` again. -/
theorem stop_not_sticky :
    ¬ StopsSticky (fun _ => .ok second) [.start ⟨true, .ok .empty, .ok [], 0⟩, .stop true] := by
  intro h
  obtain ⟨-, hrest⟩ := h
  obtain ⟨hstop, -⟩ := hrest _ rfl
  have hsticky := hstop ⟨true, rfl, rfl⟩ _ rfl
  have hresting := hsticky [.run 0] _
    ⟨fun ⟨q, hq, _⟩ => absurd hq (by simp), fun _ _ => trivial⟩ rfl
  rcases hresting with h | h | h <;> exact absurd h (by decide)

end ChirpStackSimulator.Lifecycle
