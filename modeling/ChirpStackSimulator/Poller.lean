/-
  The topology poller (`StartPassiveSync`, `StopPassiveSync`).

  Starting makes a new stop channel and a goroutine, stopping closes the channel.  The goroutine does
  not keep the channel it was started with: each time it comes to its `select` it reads the shared
  field again.  An old poller that is in a sync while the service is stopped and started comes out of
  it to wait on the new channel; so does one that takes a tick of its ticker although its channel is
  closed.

  1. **Model** — the stop channels, the pollers and `handleSavePassiveMode`.
  2. **The law** (`AtMostOne`) — once every poller has come to its next `select` at most one is live,
     and none after the service was stopped.
  3. `atMostOne_iff`: the law holds after every step of a run exactly when the service is started only
     while no poller is in a sync, and no poller with a closed channel takes a tick while it runs.
-/
import ChirpStackSimulator.Http
import ChirpStackSimulator.Lib.Run
import ChirpStackSimulator.Lib.Tally

namespace ChirpStackSimulator.PassivePoller

open Transition

/-! ## The model -/

/-- Where the goroutine stands. -/
inductive Pc where
  /-- In `doSync`, or on its way there or back. -/
  | syncing
  /-- At its `select`, with the stop channel it has read. -/
  | selecting (ch : Option Nat)
  | stopped
  deriving DecidableEq

/-- The goroutine of one start. -/
structure Poller where
  intervalMinutes : Int
  pc : Pc
  deriving DecidableEq

/-- The stop channels are numbered. -/
structure Service where
  running : Bool
  /-- `nil` before the first start. -/
  stopCh : Option Nat
  /-- Channels made so far. -/
  made : Nat
  closed : List Nat
  pollers : List Poller
  deriving DecidableEq

/-- No poller runs. -/
def init : Service := ⟨false, none, 0, [], []⟩

/-- `StartPassiveSync`. -/
def startPassiveSync (s : Service) (intervalMinutes : Int) : Service :=
  if s.running then s
  else
    { s with
      stopCh := some s.made
      made := s.made + 1
      running := true
      -- the goroutine begins with a sync
      pollers := s.pollers ++ [⟨intervalMinutes, .syncing⟩] }

/-- `StopPassiveSync`. -/
def stopPassiveSync (s : Service) : Service :=
  if s.running then { s with closed := s.closed ++ s.stopCh.toList, running := false } else s

/-- What may happen next. -/
inductive Label where
  | start (intervalMinutes : Int)
  | stop
  /-- The sync of the `i`-th poller is over, and it comes to its `select`. -/
  | select (i : Nat)
  /-- Its ticker has fired, and it takes that. -/
  | tick (i : Nat)
  /-- Its stop channel is closed, and it takes that. -/
  | quit (i : Nat)
  deriving DecidableEq

/-- The `i`-th poller goes on to `pc`. -/
def Service.move (s : Service) (i : Nat) (p : Poller) (pc : Pc) : Service :=
  { s with pollers := s.pollers.set i { p with pc := pc } }

/-- One step. -/
def step (s : Service) : Label → Option Service
  | .start intervalMinutes => some (startPassiveSync s intervalMinutes)
  | .stop => some (stopPassiveSync s)
  | .select i =>
    match s.pollers[i]? with
    | some p => if p.pc = .syncing then some (s.move i p (.selecting s.stopCh)) else none
    | none => none
  | .tick i =>
    match s.pollers[i]? with
    | some p =>
      match p.pc with
      -- also when the channel is closed: of two ready cases `select` takes either
      | .selecting _ => some (s.move i p .syncing)
      | _ => none
    | none => none
  | .quit i =>
    match s.pollers[i]? with
    | some p =>
      match p.pc with
      | .selecting (some ch) => if ch ∈ s.closed then some (s.move i p .stopped) else none
      | _ => none
    | none => none

/-! ## `handleSavePassiveMode` -/

/-- The body of the request. -/
structure PassiveModeRequest where
  enabled : Bool
  syncIntervalMinutes : Int

def defaultSyncInterval : Int := 5

/-- The interval the request asks for. -/
def PassiveModeRequest.interval (req : PassiveModeRequest) : Int :=
  if req.syncIntervalMinutes < 1 then defaultSyncInterval else req.syncIntervalMinutes

/-- `handleSavePassiveMode`, with the decoded body and `SaveSystemState`: the critical sections it
    executes, and an error or the settings it answers with. -/
def handleSavePassiveMode (post : Bool) (body : Except String PassiveModeRequest)
    (saveSystemState : String → String → Except String Unit) :
    List Label × Except Response PassiveModeRequest :=
  if post = false then ([], .error .methodNotAllowed) else
  match body with
  | .error e => ([], .error (.badRequest ("invalid JSON: " ++ e)))
  | .ok req =>
    match saveSystemState "passive_mode" (if req.enabled then "true" else "false") with
    | .error e => ([], .error (.internalServerError e))
    | .ok _ =>
      match saveSystemState "sync_interval_minutes" (toString req.interval) with
      | .error e => ([], .error (.internalServerError e))
      | .ok _ =>
        (if req.enabled then [.stop, .start req.interval] else [.stop],
          .ok ⟨req.enabled, req.interval⟩)

/-- Starting and stopping set the flag. -/
@[simp] theorem running_startPassiveSync (s : Service) (n : Int) :
    (startPassiveSync s n).running = true := by
  unfold startPassiveSync
  split
  · assumption
  · rfl

@[simp] theorem running_stopPassiveSync (s : Service) : (stopPassiveSync s).running = false := by
  unfold stopPassiveSync
  split
  · rfl
  · rename_i h
    simpa using h

/-- After a change that was saved the service runs exactly if the change enabled it. -/
theorem running_of_saved {post : Bool} {body : Except String PassiveModeRequest}
    {saveSystemState : String → String → Except String Unit} {sections : List Label}
    {req : PassiveModeRequest} {s s' : Service}
    (h : handleSavePassiveMode post body saveSystemState = (sections, .ok req))
    (hrun : exec step s sections = some s') : s'.running = req.enabled := by
  unfold handleSavePassiveMode at h
  split at h
  · exact absurd h (by simp)
  · split at h
    · exact absurd h (by simp)
    · rename_i req'
      split at h
      · exact absurd h (by simp)
      · split at h
        · exact absurd h (by simp)
        · simp only [Prod.mk.injEq, Except.ok.injEq] at h
          obtain ⟨rfl, rfl⟩ := h
          cases hreq : req'.enabled with
          | true =>
            simp only [hreq, if_true, exec, step, Option.bind_some, Option.some.injEq] at hrun
            rw [← hrun, running_startPassiveSync]
          | false =>
            simp only [hreq, Bool.false_eq_true, if_false, exec, step, Option.bind_some,
              Option.some.injEq] at hrun
            rw [← hrun, running_stopPassiveSync]

/-- Only starting and stopping change whether the service runs. -/
theorem running_poller {s s' : Service} {a : Label} (h : step s a = some s')
    (hstart : ∀ n, a ≠ .start n) (hstop : a ≠ .stop) : s'.running = s.running := by
  cases a with
  | start n => exact absurd rfl (hstart n)
  | stop => exact absurd rfl hstop
  | select i | tick i | quit i =>
    simp only [step] at h
    repeat' split at h
    all_goals first | (obtain rfl := Option.some.inj h; rfl) | exact absurd h (by simp)

/-! ## The law -/

/-- Every poller that is in a sync comes to its next `select`. -/
def Service.settled (s : Service) : Service :=
  { s with
    pollers := s.pollers.map fun p =>
      if p.pc = .syncing then { p with pc := .selecting s.stopCh } else p }

/-- The poller waits for its ticker or a stop: its channel is open. -/
def Live (s : Service) (p : Poller) : Prop :=
  match p.pc with
  | .syncing => True
  | .selecting ch => ∀ c ∈ ch, c ∉ s.closed
  | .stopped => False

instance (s : Service) : DecidablePred (Live s) := fun p => by
  unfold Live
  split <;> infer_instance

theorem live_syncing (s : Service) (n : Int) : Live s ⟨n, .syncing⟩ := trivial

/-- The live pollers. -/
def Service.live (s : Service) : Nat := s.pollers.countP fun p => Live s p

/-- **At most one poller**: once every poller has come to its next `select` at most one is live, and
    none if the service was stopped last. -/
def AtMostOne (s : Service) : Prop :=
  s.settled.live ≤ 1 ∧ (s.running = false → s.settled.live = 0)

instance (s : Service) : Decidable (AtMostOne s) := by unfold AtMostOne; infer_instance

/-- The law holds after the step. -/
def Lawful (s : Service) (a : Label) : Prop := ∀ s', step s a = some s' → AtMostOne s'

/-- The stop channel the poller waits on is closed. -/
def Stopping (s : Service) (p : Poller) : Prop :=
  match p.pc with
  | .selecting (some c) => c ∈ s.closed
  | _ => False

instance (s : Service) : DecidablePred (Stopping s) := fun p => by
  unfold Stopping
  split <;> infer_instance

/-- The service is started only while no poller is in a sync, and while it runs no poller with a
    closed channel takes a tick. -/
def Undisturbed (s : Service) : Label → Prop
  | .start _ => s.running = false → ∀ p ∈ s.pollers, p.pc ≠ .syncing
  | .tick i => s.running = true → ∀ p ∈ s.pollers[i]?, ¬ Stopping s p
  | _ => True

instance (s : Service) : DecidablePred (Undisturbed s)
  | .start _ => inferInstanceAs (Decidable (s.running = false → ∀ p ∈ s.pollers, p.pc ≠ .syncing))
  | .stop => instDecidableTrue
  | .select _ => instDecidableTrue
  | .tick i =>
    inferInstanceAs (Decidable (s.running = true → ∀ p ∈ s.pollers[i]?, ¬ Stopping s p))
  | .quit _ => instDecidableTrue

/-! ## The invariant -/

/-- While the service runs its channel is open and a poller is live; every other channel is closed. -/
structure Sound (s : Service) : Prop where
  running : s.running = true → ∃ c, s.stopCh = some c ∧ c ∉ s.closed
  stopped : s.running = false → ∀ c ∈ s.stopCh, c ∈ s.closed
  started : s.pollers ≠ [] → s.stopCh ≠ none
  fresh : s.made ∉ s.closed
  bound : ∀ c, c ∈ s.closed ∨ s.stopCh = some c → c < s.made
  waiting : ∀ p ∈ s.pollers, ∀ ch, p.pc = .selecting ch →
    ∃ c, ch = some c ∧ (c ∈ s.closed ∨ s.stopCh = some c)
  one : s.running = true → 1 ≤ s.live

theorem sound_init : Sound init :=
  ⟨by simp [init], by simp [init], by simp [init], by simp [init], by simp [init], by simp [init],
    by simp [init]⟩

/-- A live poller that waits does so on the channel of the running service. -/
theorem Sound.live_iff {s : Service} (hs : Sound s) {p : Poller} (hp : p ∈ s.pollers) :
    Live s.settled (if p.pc = .syncing then { p with pc := .selecting s.stopCh } else p) ↔
      s.running = true ∧ Live s p := by
  cases hpc : p.pc with
  | syncing =>
    simp only [if_true, Live, hpc, and_true]
    cases hrun : s.running with
    | true =>
      obtain ⟨c, hc, hopen⟩ := hs.running hrun
      simp [Service.settled, hc, hopen]
    | false =>
      obtain ⟨c, hc⟩ := Option.ne_none_iff_exists'.mp (hs.started (List.ne_nil_of_mem hp))
      have hclosed := hs.stopped hrun c hc
      simp [Service.settled, hc, hclosed]
  | selecting ch =>
    obtain ⟨c, rfl, hc⟩ := hs.waiting p hp ch hpc
    simp only [reduceCtorEq, if_false, Live, hpc]
    cases hrun : s.running with
    | true => simp [Service.settled]
    | false =>
      have hclosed : c ∈ s.closed := hc.elim id fun h => hs.stopped hrun c h
      simp [Service.settled, hclosed]
  | stopped => simp [Live, hpc]

/-- Once all have come to their `select`, the live pollers are those that are live now if the service
    runs, and none if it does not. -/
theorem Sound.settled_live {s : Service} (hs : Sound s) :
    s.settled.live = if s.running then s.live else 0 := by
  show (s.pollers.map _).countP _ = _
  rw [List.countP_map]
  have hcongr : ∀ p ∈ s.pollers, ((fun p => decide (Live s.settled p)) ∘ fun p =>
      if p.pc = .syncing then { p with pc := .selecting s.stopCh } else p) p = true ↔
      decide (s.running = true ∧ Live s p) = true := by
    intro p hp
    simp only [Function.comp, decide_eq_true_eq]
    exact hs.live_iff hp
  rw [List.countP_congr hcongr]
  cases hrun : s.running with
  | true => simp [Service.live]
  | false => simp

theorem Sound.atMostOne_iff_live_le {s : Service} (hs : Sound s) :
    AtMostOne s ↔ (s.running = true → s.live ≤ 1) := by
  unfold AtMostOne
  rw [hs.settled_live]
  cases s.running <;> simp

/-- The live pollers after one has moved. -/
theorem live_move {s : Service} {i : Nat} {p : Poller} (h : s.pollers[i]? = some p) (pc : Pc) :
    (s.move i p pc).live + (if Live s p then 1 else 0) =
      s.live + (if Live s { p with pc := pc } then 1 else 0) := by
  have hcount := Tally.countP_set_add (fun q => decide (Live s q)) { p with pc := pc } h
  simp only [decide_eq_true_eq] at hcount
  exact hcount

/-- Whatever a poller does, the channels stay as they are. -/
theorem sound_move {s : Service} (hs : Sound s) {i : Nat} {p : Poller}
    (h : s.pollers[i]? = some p) {pc : Pc}
    (hpc : ∀ ch, pc = .selecting ch → ∃ c, ch = some c ∧ (c ∈ s.closed ∨ s.stopCh = some c))
    (hlive : s.running = true → Live s p → Live s { p with pc := pc }) : Sound (s.move i p pc) := by
  have hmem : p ∈ s.pollers := List.mem_of_getElem? h
  refine ⟨hs.running, hs.stopped, fun _ => hs.started (List.ne_nil_of_mem hmem), hs.fresh, hs.bound,
    fun q hq ch hch => ?_, fun hrun => ?_⟩
  · rcases List.mem_or_eq_of_mem_set hq with hq | rfl
    · exact hs.waiting q hq ch hch
    · exact hpc ch hch
  · have hone := hs.one hrun
    have hcount := live_move h pc
    have hkeeps := hlive hrun
    split at hcount <;> split at hcount
    · omega
    · rename_i hp hp'
      exact absurd (hkeeps hp) hp'
    · omega
    · omega

/-! ## One step -/

theorem sound_start {s : Service} (hs : Sound s) (n : Int) : Sound (startPassiveSync s n) := by
  unfold startPassiveSync
  split
  · exact hs
  · rename_i hrun
    have hstopped : s.running = false := by simpa using hrun
    refine ⟨fun _ => ⟨s.made, rfl, hs.fresh⟩, by simp, by simp, ?_, ?_, ?_, ?_⟩
    · intro hmem
      have := hs.bound (s.made + 1) (Or.inl hmem)
      omega
    · rintro c (hc | hc)
      · have := hs.bound c (Or.inl hc)
        show c < s.made + 1
        omega
      · obtain rfl : s.made = c := by simpa using hc
        exact Nat.lt_succ_self _
    · intro p hp ch hch
      rcases List.mem_append.mp hp with hp | hp
      · -- while the service did not run all channels were closed
        obtain ⟨c, rfl, hc⟩ := hs.waiting p hp ch hch
        exact ⟨c, rfl, Or.inl (hc.elim id fun h => hs.stopped hstopped c h)⟩
      · obtain rfl := List.mem_singleton.mp hp
        exact absurd hch (by simp)
    · intro _
      refine List.one_le_countP_iff.mpr ⟨⟨n, .syncing⟩, ?_, ?_⟩
      · exact List.mem_append_right _ List.mem_cons_self
      · exact decide_eq_true trivial

theorem sound_stop {s : Service} (hs : Sound s) : Sound (stopPassiveSync s) := by
  unfold stopPassiveSync
  split
  · rename_i hrun
    obtain ⟨c, hc, -⟩ := hs.running hrun
    have hlt := hs.bound c (Or.inr hc)
    refine ⟨by simp, ?_, hs.started, ?_, ?_, ?_, by simp⟩
    · intro _ c' hc'
      exact List.mem_append_right _ (by simpa using hc')
    · intro hmem
      rcases List.mem_append.mp hmem with hmem | hmem
      · exact hs.fresh hmem
      · obtain rfl : s.made = c := by simpa [hc] using hmem
        omega
    · rintro c' (hc' | hc')
      · rcases List.mem_append.mp hc' with hc' | hc'
        · exact hs.bound c' (Or.inl hc')
        · exact hs.bound c' (Or.inr (by simpa using hc'))
      · exact hs.bound c' (Or.inr hc')
    · intro p hp ch hch
      obtain ⟨c', rfl, hc'⟩ := hs.waiting p hp ch hch
      exact ⟨c', rfl, hc'.imp_left fun h => List.mem_append_left _ h⟩
  · exact hs

/-- What a poller's step can do: come to its `select`, take a tick, or quit. -/
theorem step_poller {s s' : Service} {a : Label} (h : step s a = some s')
    (hstart : ∀ n, a ≠ .start n) (hstop : a ≠ .stop) :
    ∃ i p, s.pollers[i]? = some p ∧
      ((a = .select i ∧ p.pc = .syncing ∧ s' = s.move i p (.selecting s.stopCh)) ∨
        (a = .tick i ∧ (∃ ch, p.pc = .selecting ch) ∧ s' = s.move i p .syncing) ∨
        (a = .quit i ∧ Stopping s p ∧ s' = s.move i p .stopped)) := by
  cases a with
  | start n => exact absurd rfl (hstart n)
  | stop => exact absurd rfl hstop
  | select i =>
    simp only [step] at h
    split at h
    · rename_i p hp
      split at h
      · rename_i hpc
        exact ⟨i, p, hp, Or.inl ⟨rfl, hpc, (Option.some.inj h).symm⟩⟩
      · exact absurd h (by simp)
    · exact absurd h (by simp)
  | tick i =>
    simp only [step] at h
    split at h
    · rename_i p hp
      split at h
      · rename_i ch hpc
        exact ⟨i, p, hp, Or.inr (Or.inl ⟨rfl, ⟨ch, hpc⟩, (Option.some.inj h).symm⟩)⟩
      · exact absurd h (by simp)
    · exact absurd h (by simp)
  | quit i =>
    simp only [step] at h
    split at h
    · rename_i p hp
      split at h
      · rename_i ch hpc
        split at h
        · rename_i hclosed
          have hstopping : Stopping s p := by
            unfold Stopping
            rw [hpc]
            exact hclosed
          exact ⟨i, p, hp, Or.inr (Or.inr ⟨rfl, hstopping, (Option.some.inj h).symm⟩)⟩
        · exact absurd h (by simp)
      · exact absurd h (by simp)
    · exact absurd h (by simp)

/-- A poller with a closed channel is not live. -/
theorem Stopping.not_live {s : Service} {p : Poller} (h : Stopping s p) : ¬ Live s p := by
  unfold Stopping at h
  unfold Live
  split at h
  · rename_i c hpc
    rw [hpc]
    simpa using h
  · exact h.elim

/-- A poller at its `select` whose channel is not closed is live. -/
theorem live_of_not_stopping {s : Service} (hs : Sound s) {p : Poller} (hp : p ∈ s.pollers)
    {ch : Option Nat} (hpc : p.pc = .selecting ch) (h : ¬ Stopping s p) : Live s p := by
  obtain ⟨c, rfl, -⟩ := hs.waiting p hp ch hpc
  unfold Stopping at h
  unfold Live
  rw [hpc] at h ⊢
  simpa using h

theorem sound_step {s s' : Service} {a : Label} (hs : Sound s) (h : step s a = some s') :
    Sound s' := by
  by_cases hstart : ∃ n, a = .start n
  · obtain ⟨n, rfl⟩ := hstart
    obtain rfl := Option.some.inj h
    exact sound_start hs n
  · by_cases hstop : a = .stop
    · subst hstop
      obtain rfl := Option.some.inj h
      exact sound_stop hs
    · obtain ⟨i, p, hp, ⟨-, hpc, rfl⟩ | ⟨-, -, rfl⟩ | ⟨-, hstopping, rfl⟩⟩ :=
        step_poller h (fun n hn => hstart ⟨n, hn⟩) hstop
      · obtain ⟨c, hc⟩ := Option.ne_none_iff_exists'.mp
          (hs.started (List.ne_nil_of_mem (List.mem_of_getElem? hp)))
        refine sound_move hs hp (fun ch hch => ⟨c, ?_, Or.inr hc⟩) fun hrun _ => ?_
        · exact (Pc.selecting.inj hch).symm.trans hc
        · obtain ⟨c', hc', hopen⟩ := hs.running hrun
          simp [Live, hc', hopen]
      · exact sound_move hs hp (by simp) fun _ _ => trivial
      · exact sound_move hs hp (by simp) fun _ hlive => absurd hlive hstopping.not_live

/-- After a start the pollers in a sync will wait on the new channel, next to the new one. -/
theorem live_startPassiveSync {s : Service} (hs : Sound s) (hrun : s.running = false) (n : Int) :
    (startPassiveSync s n).live = (s.pollers.countP fun p => p.pc = .syncing) + 1 := by
  have hcongr : ∀ p ∈ s.pollers, decide (Live (startPassiveSync s n) p) = true ↔
      decide (p.pc = .syncing) = true := by
    intro p hp
    rw [decide_eq_true_iff, decide_eq_true_iff]
    cases hpc : p.pc with
    | syncing => simp [Live, hpc]
    | selecting ch =>
      obtain ⟨c, rfl, hc⟩ := hs.waiting p hp ch hpc
      have hclosed : c ∈ s.closed := hc.elim id fun h => hs.stopped hrun c h
      simp [Live, hpc, startPassiveSync, hrun, hclosed]
    | stopped => simp [Live, hpc]
  have hpollers : (startPassiveSync s n).pollers = s.pollers ++ [⟨n, .syncing⟩] := by
    simp [startPassiveSync, hrun]
  rw [Service.live, hpollers, List.countP_append, List.countP_congr hcongr,
    List.countP_singleton, if_pos (decide_eq_true (live_syncing _ n))]

/-- **After a step at most one poller is live exactly if** the step was undisturbed. -/
theorem lawful_iff_undisturbed {s : Service} (hs : Sound s) (hone : AtMostOne s) (a : Label) :
    Lawful s a ↔ Undisturbed s a := by
  have hle := hs.atMostOne_iff_live_le.mp hone
  have hlaw : ∀ {s'}, step s a = some s' → (Lawful s a ↔ (s'.running = true → s'.live ≤ 1)) := by
    intro s' h
    rw [← (sound_step hs h).atMostOne_iff_live_le]
    refine ⟨fun hl => hl s' h, fun hl t ht => ?_⟩
    obtain rfl := Option.some.inj (h.symm.trans ht)
    exact hl
  -- what a poller does after one has moved
  have hmove : ∀ {i p pc}, s.pollers[i]? = some p →
      (s.running = true → Live s { p with pc := pc } → Live s p) →
      (s.move i p pc).running = true → (s.move i p pc).live ≤ 1 := by
    intro i p pc hp hlive hrun
    have hcount := live_move hp pc
    have hle := hle hrun
    have hback := hlive hrun
    split at hcount <;> split at hcount
    · omega
    · omega
    · rename_i hp' hpc
      exact absurd (hback hpc) hp'
    · omega
  cases a with
  | start n =>
    rw [hlaw rfl]
    show ((startPassiveSync s n).running = true → _) ↔ (s.running = false → _)
    cases hrun : s.running with
    | true =>
      have hsame : startPassiveSync s n = s := by simp [startPassiveSync, hrun]
      simp [hsame, hle hrun]
    | false =>
      rw [live_startPassiveSync hs hrun]
      simp [List.countP_eq_zero]
  | stop =>
    rw [hlaw rfl]
    show ((stopPassiveSync s).running = true → _) ↔ True
    simp
  | select i =>
    refine ⟨fun _ => trivial, fun _ s' h => ?_⟩
    obtain ⟨j, p, hp, ⟨-, hpc, rfl⟩ | ⟨h', -⟩ | ⟨h', -⟩⟩ := step_poller h (by simp) (by simp)
    · exact (sound_step hs h).atMostOne_iff_live_le.mpr
        (hmove hp fun _ _ => by simp [Live, hpc])
    · exact absurd h' (by simp)
    · exact absurd h' (by simp)
  | tick i =>
    constructor
    · intro hl hrun p hp hstopping
      -- the tick makes a second poller live
      have hp' : s.pollers[i]? = some p := hp
      have hstep : step s (.tick i) = some (s.move i p .syncing) := by
        unfold Stopping at hstopping
        split at hstopping
        · rename_i c hpc
          simp [step, hp', hpc]
        · exact hstopping.elim
      have hle' := (sound_step hs hstep).atMostOne_iff_live_le.mp (hl _ hstep) hrun
      have hcount := live_move hp' .syncing
      have hone' := hs.one hrun
      rw [if_neg hstopping.not_live, if_pos (live_syncing s p.intervalMinutes)] at hcount
      omega
    · intro hund s' h
      obtain ⟨j, p, hp, ⟨h', -⟩ | ⟨h', ⟨ch, hpc⟩, rfl⟩ | ⟨h', -⟩⟩ :=
        step_poller h (by simp) (by simp)
      · exact absurd h' (by simp)
      · obtain rfl := Label.tick.inj h'
        exact (sound_step hs h).atMostOne_iff_live_le.mpr (hmove hp fun hrun _ =>
          live_of_not_stopping hs (List.mem_of_getElem? hp) hpc (hund hrun p hp))
      · exact absurd h' (by simp)
  | quit i =>
    refine ⟨fun _ => trivial, fun _ s' h => ?_⟩
    obtain ⟨j, p, hp, ⟨h', -⟩ | ⟨h', -⟩ | ⟨-, hstopping, rfl⟩⟩ := step_poller h (by simp) (by simp)
    · exact absurd h' (by simp)
    · exact absurd h' (by simp)
    · exact (sound_step hs h).atMostOne_iff_live_le.mpr (hmove hp fun _ hlive => hlive.elim)

/-- **At most one poller is live along a run exactly if** the service is started only while no poller
    is in a sync, and no poller with a closed channel takes a tick while the service runs. -/
theorem atMostOne_iff (as : List Label) :
    Always step Lawful init as ↔ Always step Undisturbed init as := by
  have hinit : Sound init ∧ AtMostOne init := ⟨sound_init, by decide⟩
  exact always_congr (I := fun s => Sound s ∧ AtMostOne s)
    (fun s a hs => lawful_iff_undisturbed hs.1 hs.2 a)
    (fun s a s' hs hl h => ⟨sound_step hs.1 h, hl s' h⟩) as hinit

/-- Passive mode is enabled, and enabled again while the poller is in its first sync. -/
theorem restart_in_sync_not_lawful :
    ¬ Always step Lawful init [.start 5, .stop, .start 1, .select 0, .select 1] := by
  rintro ⟨-, h⟩
  obtain ⟨-, h⟩ := h _ rfl
  obtain ⟨-, h⟩ := h _ rfl
  obtain ⟨-, h⟩ := h _ rfl
  obtain ⟨hlaw, -⟩ := h _ rfl
  exact absurd (hlaw _ rfl) (by decide)

end ChirpStackSimulator.PassivePoller
