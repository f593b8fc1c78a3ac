/-
  The status diagram of the HTTP API.

  The plan draws the status of the simulator as a machine of its own: a start leads from `idle` over
  `starting` to `running`, a stop from `running` over `stopping` back to `idle`.  The code adds the
  status `error`, which a start leaves like `idle`.

  1. **Diagram** — `Edge` is the abstract machine; it knows nothing of goroutines.
  2. **Every run** (`edge_or_early`) — a step keeps the status, follows an edge or makes one of two
     further moves (`Early`): the stop in `starting` and the one from `stopping` back to `running`
     it causes.  The invariant is `Phased`, which ties the status to the goroutine that will write
     it.
  3. **Refinement** (`follows_diagram`) — along a run in which no stop is accepted in `starting`
     every step of the system is an edge or keeps the status.  There no goroutine before its first
     step has been overtaken by a stop (`Sequenced`).
-/
import ChirpStackSimulator.StopSticky

namespace ChirpStackSimulator.Lifecycle

open Transition

/-! ## The diagram -/

inductive Edge : Status → Status → Prop where
  | start : Edge .idle .starting
  | restart : Edge .error .starting
  | launched : Edge .starting .running
  | stop : Edge .running .stopping
  | stopped : Edge .stopping .idle
  /-- Every simulation has ended on its own. -/
  | completed : Edge .running .idle
  | failed : Edge .running .error
  | failedStopping : Edge .stopping .error

/-- The two moves the diagram does not have. -/
inductive Early : Status → Status → Prop where
  | stop : Early .starting .stopping
  | revived : Early .stopping .running

/-! ## What the goroutines write -/

/-- A goroutine past its first step and not over shows as `running` or `stopping`. -/
theorem Phased.under_way {w : World} (hw : Phased w) {r : Nat} {run : Run}
    (hr : w.runs[r]? = some run) (hf : run.phase ≠ .finished) (hn : ¬ run.Spawned) :
    w.state.status = .running ∨ w.state.status = .stopping := by
  obtain ⟨hlast, hbusy, -, -⟩ := hw.orderly r run hr hf
  rcases hbusy with hstarting | hrunning | hstopping
  · -- `starting` shows a spawned goroutine, and that would be the last one as well
    obtain ⟨r', run', hr', hsp⟩ := hw.shown hstarting
    obtain ⟨hlast', -⟩ := hw.orderly r' run' hr' hsp.not_finished
    have heq : r = r' := by omega
    subst heq
    rw [hr] at hr'
    obtain rfl := Option.some.inj hr'
    exact absurd hsp hn
  · exact Or.inl hrunning
  · exact Or.inr hstopping

/-- A goroutine's step follows an edge; only its first one can take `stopping` back to `running`. -/
theorem Phased.advance_edge {w : World} (hw : Phased w) {r : Nat} {run run' : Run} {st : SimState}
    (hr : w.runs[r]? = some run) (h : advance w.state run = some (st, run')) :
    st.status = w.state.status ∨ Edge w.state.status st.status ∨
      (run.Spawned ∧ Early w.state.status st.status) := by
  have hunspawned : (∀ cfg, run.phase ≠ .spawned cfg) → ¬ run.Spawned := by
    rintro hne ⟨cfg, hsp⟩
    exact hne cfg hsp
  cases advance_cases h with
  | begins cfg hp =>
    have hsp : run.Spawned := ⟨cfg, hp⟩
    rcases hw.shows run (List.mem_of_getElem? hr) hsp with hst | hst
    · rw [hst]
      exact Or.inr (Or.inl .launched)
    · rw [hst]
      exact Or.inr (Or.inr ⟨hsp, .revived⟩)
  | launches i c rest sim hp _ => exact Or.inl rfl
  | rejects i c rest hp _ => exact Or.inl rfl
  | waits i hp => exact Or.inl rfl
  | drains hp _ => exact Or.inl rfl
  | fails hp =>
    have hn := hunspawned (by simp [hp])
    rcases hw.under_way hr (by simp [hp]) hn with hst | hst
    · rw [hst]
      exact Or.inr (Or.inl .failed)
    · rw [hst]
      exact Or.inr (Or.inl .failedStopping)
  | ends hp =>
    have hn := hunspawned (by simp [hp])
    rcases hw.under_way hr (by simp [hp]) hn with hst | hst
    · rw [hst]
      exact Or.inr (Or.inl .completed)
    · rw [hst]
      exact Or.inr (Or.inl .stopped)

/-! ## Every run -/

/-- **Every step of every run** keeps the status, follows an edge or makes one of the two further
    moves. -/
theorem edge_or_early {parseDuration : String → Except String Int} {labels : List Label}
    {w w' : World} {a : Label} (hexec : exec (step parseDuration) init labels = some w)
    (h : step parseDuration w a = some w') :
    w'.state.status = w.state.status ∨ Edge w.state.status w'.state.status ∨
      Early w.state.status w'.state.status := by
  have hw : Phased w := exec_invariant (fun _ _ _ hs ht => phased_step hs ht) phased_init hexec
  rcases step_cases h with rfl | ⟨q, req, cfg, -, -, hst, rfl⟩ | ⟨post, -, hst, rfl⟩ |
    ⟨r, run, st, run', -, hr, hadv, rfl⟩ | ⟨r, run, i, e, run', -, hr, hmove, rfl⟩
  · exact Or.inl rfl
  · rcases hst with hst | hst
    · rw [hst]
      exact Or.inr (Or.inl .start)
    · rw [hst]
      exact Or.inr (Or.inl .restart)
  · rcases hst with hst | hst
    · rw [hst]
      exact Or.inr (Or.inl .stop)
    · rw [hst]
      exact Or.inr (Or.inr .stop)
  · rcases hw.advance_edge hr hadv with hsame | hedge | ⟨-, hearly⟩
    · exact Or.inl hsame
    · exact Or.inr (Or.inl hedge)
    · exact Or.inr (Or.inr hearly)
  · exact Or.inl rfl

/-! ## Runs without a stop in `starting` -/

/-- No goroutine before its first step has been overtaken by a stop. -/
structure Sequenced (w : World) : Prop where
  phased : Phased w
  starting : ∀ run ∈ w.runs, run.Spawned → w.state.status = .starting

/-- The stops that are accepted are not accepted in `starting`. -/
def Patient (w : World) (a : Label) : Prop := AcceptsStop w a → w.state.status ≠ .starting

/-- What is true of a patient accepted stop. -/
theorem running_of_patient {w w' : World} {post : Bool} (hp : Patient w (.stop post))
    (h : (handleStop w post).1 = w') :
    w' = w ∨ (w.state.status = .running ∧ w' = acceptStop w) := by
  rcases handleStop_cases w post with ⟨hsame, -⟩ | ⟨hst, hacc⟩
  · exact Or.inl (h.symm.trans hsame)
  · have hne : w.state.status ≠ .starting := hp ⟨post, rfl, by rw [hacc]⟩
    refine Or.inr ⟨hst.resolve_right hne, ?_⟩
    rw [← h, hacc]

theorem sequenced_step {parseDuration : String → Except String Int} {w w' : World} {a : Label}
    (hw : Sequenced w) (hp : Patient w a) (h : step parseDuration w a = some w') :
    Sequenced w' := by
  refine ⟨phased_step hw.phased h, fun run hrun hsp => ?_⟩
  -- a goroutine still spawned shows as `starting` or `stopping`, and no stop has come
  rcases (phased_step hw.phased h).shows run hrun hsp with hst | hst
  · exact hst
  · exfalso
    obtain ⟨r, hr⟩ := List.getElem?_of_mem hrun
    rcases step_cases h with rfl | ⟨q, req, cfg, -, -, -, rfl⟩ | ⟨post, rfl, -, -⟩ |
      ⟨r₀, run₀, st, run', -, hr₀, hadv, rfl⟩ | ⟨r₀, run₀, i, e, run', -, hr₀, hmove, rfl⟩
    · rw [hw.starting run hrun hsp] at hst
      exact absurd hst (by decide)
    · exact absurd hst (by simp [acceptStart])
    · have h' : (handleStop w post).1 = w' := by simpa [step] using h
      rcases running_of_patient hp h' with rfl | ⟨hrunning, rfl⟩
      · rw [hw.starting run hrun hsp] at hst
        exact absurd hst (by decide)
      · -- in `running` there is no spawned goroutine to overtake
        obtain ⟨run₀, hr₀, rfl⟩ := getElem?_acceptStop hr
        have hsp₀ : run₀.Spawned := by
          obtain ⟨cfg, hphase⟩ := hsp
          refine ⟨cfg, ?_⟩
          rw [← hphase]
          split <;> rfl
        rw [hw.starting run₀ (List.mem_of_getElem? hr₀) hsp₀] at hrunning
        exact absurd hrunning (by decide)
    · rcases Objects.of_lookup_set hr with ⟨-, rfl⟩ | ⟨hne, hr⟩
      · exact absurd hsp (advance_spawned hadv).1
      · -- two unfinished goroutines would both be the last one
        obtain ⟨hlast, -⟩ := hw.phased.orderly r run hr hsp.not_finished
        obtain ⟨hlast₀, -⟩ := hw.phased.orderly r₀ run₀ hr₀ (advance_state hadv).1
        omega
    · rcases List.mem_or_eq_of_mem_set hrun with hrun | rfl
      · have hstarting := hw.starting run hrun hsp
        exact absurd (hstarting.symm.trans hst) (by decide)
      · obtain ⟨cfg, hphase⟩ := hsp
        have hsp₀ : run₀.Spawned := ⟨cfg, (simMove_run hmove).1 ▸ hphase⟩
        have hstarting := hw.starting run₀ (List.mem_of_getElem? hr₀) hsp₀
        exact absurd (hstarting.symm.trans hst) (by decide)

/-- The step keeps the status or follows an edge of the diagram. -/
def Follows (parseDuration : String → Except String Int) (w : World) (a : Label) : Prop :=
  ∀ w', step parseDuration w a = some w' →
    w'.state.status = w.state.status ∨ Edge w.state.status w'.state.status

theorem follows_of_patient {parseDuration : String → Except String Int} {w : World} {a : Label}
    (hw : Sequenced w) (hp : Patient w a) : Follows parseDuration w a := by
  intro w' h
  rcases step_cases h with rfl | ⟨q, req, cfg, -, -, hst, rfl⟩ | ⟨post, rfl, -, -⟩ |
    ⟨r, run, st, run', -, hr, hadv, rfl⟩ | ⟨r, run, i, e, run', -, hr, hmove, rfl⟩
  · exact Or.inl rfl
  · rcases hst with hst | hst
    · rw [hst]
      exact Or.inr .start
    · rw [hst]
      exact Or.inr .restart
  · have h' : (handleStop w post).1 = w' := by simpa [step] using h
    rcases running_of_patient hp h' with rfl | ⟨hrunning, rfl⟩
    · exact Or.inl rfl
    · rw [hrunning]
      exact Or.inr .stop
  · rcases hw.phased.advance_edge hr hadv with hsame | hedge | ⟨hsp, hearly⟩
    · exact Or.inl hsame
    · exact Or.inr hedge
    · -- the first step is taken in `starting`, where nothing is revived
      have hstarting := hw.starting run (List.mem_of_getElem? hr) hsp
      rcases (advance_spawned hadv).2 with ⟨-, hrunning⟩ | ⟨hn, -⟩
      · show _ ∨ Edge w.state.status st.status
        rw [hstarting, hrunning]
        exact Or.inr .launched
      · exact absurd hsp hn
  · exact Or.inl rfl

theorem sequenced_init : Sequenced init := ⟨phased_init, by simp [init]⟩

/-- **The system refines the diagram** along every run in which no stop is accepted in `starting`. -/
theorem follows_diagram (parseDuration : String → Except String Int) {labels : List Label}
    (hp : Always (step parseDuration) Patient init labels) :
    Always (step parseDuration) (Follows parseDuration) init labels := by
  have hboth : Always (step parseDuration) (fun w a => Patient w a ∧ Follows parseDuration w a)
      init labels := by
    refine (always_congr (I := Sequenced) (fun w a hw => ?_)
      (fun w a w' hw hpa h => sequenced_step hw hpa h) labels sequenced_init).mp hp
    exact ⟨fun hpa => ⟨hpa, follows_of_patient hw hpa⟩, fun h => h.1⟩
  exact hboth.mono fun w a h => h.2

end ChirpStackSimulator.Lifecycle
