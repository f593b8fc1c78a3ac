/-
  Quiescence after idle (`sendUplink` in `simulator/device.go`, `downlinkEventHandler` in
  `simulator/gateway.go`, `simulation.start`, `handleStart`).

  The goroutine of a run waits for its simulations, each of which waits for the loops of its devices,
  and then makes the status idle.  What it does not wait for are the sends a device has delayed
  (`time.AfterFunc`) and the downlink commands that come in on the gateways' subscriptions.

  1. **The plant** — the world of `ChirpStackSimulator.Lifecycle`, and below its simulations the
     gateways, the devices with their loops, the delayed sends and the downlink handlers under way.
     Counting a frame and publishing it are two steps.
  2. **Steps** — any order of the requests, the goroutines, the loops, the timers and the commands.
     A device's loops are the loops its simulation counts.
  3. **The law** — `Quiet`: a step changes no gateway of a run that has become idle, neither its counts
     nor what it has published.
  4. **The wait groups** — `Sound`: the loops a simulation counts are those of its devices, a simulation
     that has returned has none, and a run that has become idle has only such simulations; so the
     loops of its devices have returned (`Sound.left_of_ended`).
  5. **What is left behind** — `Waited`: what a run leaves behind is never on a gateway of an idle run,
     if every run becomes idle with nothing pending and no command comes in later (`Settled`).
  6. `quiet_iff`: then every step is quiet; and no weaker condition makes every step quiet, however what
     was left behind is served.
-/
import ChirpStackSimulator.Lib.Tally
import ChirpStackSimulator.OneRun

namespace ChirpStackSimulator.Quiescence

open Lifecycle Transition

/-! ## The plant -/

/-- A gateway object, and how much it has published. -/
structure Gateway where
  run : Nat
  sim : Nat
  uplinkCount : UInt32
  downlinkCount : UInt32
  downlinkTxCounter : Int
  /-- Uplink frames it has published. -/
  uplinks : Nat
  /-- Acknowledgements it has published. -/
  acks : Nat
  deriving DecidableEq

namespace Gateway

/-- A gateway of a simulation that is being set up. -/
def new (run sim : Nat) : Gateway := ⟨run, sim, 0, 0, 0, 0, 0⟩

/-- The first statement of `SendUplinkFrame`. -/
def countUplink (g : Gateway) : Gateway := { g with uplinkCount := g.uplinkCount + 1 }

/-- `SendUplinkFrame` publishes, or fails to. -/
def publishUplink (sent : Bool) (g : Gateway) : Gateway :=
  { g with uplinks := if sent then g.uplinks + 1 else g.uplinks }

/-- `downlinkEventHandler` up to its delay. -/
def countDownlink (g : Gateway) : Gateway := { g with downlinkCount := g.downlinkCount + 1 }

/-- And from there on; the nack rate is zero, so the counter never starts again. -/
def sendDownlinkTxAck (sent : Bool) (g : Gateway) : Gateway :=
  { g with
    downlinkTxCounter := g.downlinkTxCounter + 1
    acks := if sent then g.acks + 1 else g.acks }

end Gateway

/-- Where an uplink loop stands. -/
inductive UplinkLoop where
  /-- Not in `sendUplink`. -/
  | between
  /-- In `sendUplink`: the gateways still to come, and the one that has counted the frame and publishes
      it. -/
  | sending (rest : List Nat) (current : Option Nat)
  | left
  deriving DecidableEq

/-- A device with its loops; gateways are named by their position. -/
structure Device where
  run : Nat
  sim : Nat
  gateways : List Nat
  latencyMs : Int
  uplinkLoop : UplinkLoop
  /-- `downlinkLoop` has not returned. -/
  downlinkLoop : Bool

/-- Its loops that have not returned. -/
def Device.loops (d : Device) : Nat :=
  (if d.uplinkLoop = .left then 0 else 1) + if d.downlinkLoop then 1 else 0

/-- The server with the gateways and devices of all runs, and what is under way beside their loops.
    -/
structure Plant where
  world : World
  gateways : List Gateway
  devices : List Device
  /-- Delayed sends whose timer is running, by their gateway. -/
  timers : List Nat
  /-- Delayed sends that have counted and publish. -/
  delayed : List Nat
  /-- Downlink handlers in their delay. -/
  handlers : List Nat
  /-- The runs that have become idle. -/
  ended : List Nat

def init : Plant := ⟨Lifecycle.init, [], [], [], [], [], []⟩

/-! ## Steps -/

/-- What may happen next, in the server or beside it. -/
inductive Label where
  /-- A request, or a step of a run's goroutine or of a simulation. -/
  | server (a : Lifecycle.Label)
  | newGateway (r i : Nat)
  | newDevice (r i : Nat) (gateways : List Nat) (latencyMs : Int)
  /-- The uplink loop of the `k`-th device enters `sendUplink`. -/
  | sendUplink (k : Nat)
  /-- It turns to the next gateway; the frame may be lost. -/
  | toGateway (k : Nat) (lost : Bool)
  | published (k : Nat) (sent : Bool)
  /-- It returns from `sendUplink`. -/
  | sentAll (k : Nat)
  | uplinkLoopExit (k : Nat)
  | downlinkLoopExit (k : Nat)
  /-- The timer of the `j`-th delayed send is over. -/
  | fire (j : Nat)
  | delayedPublished (j : Nat) (sent : Bool)
  /-- A downlink command comes in on a gateway. -/
  | downlink (g : Nat)
  | ack (j : Nat) (sent : Bool)

namespace Plant

/-- The `k`-th device is at another place. -/
def setDevice (p : Plant) (k : Nat) (d : Device) : Plant := { p with devices := p.devices.set k d }

/-- One gateway changes. -/
def onGateway (p : Plant) (g : Nat) (f : Gateway → Gateway) : Plant :=
  { p with gateways := p.gateways.modify g f }

/-- The steps of a simulation's devices are steps of the plant; a gateway that cannot be built ends the
    simulation before there are devices. -/
def Admits (p : Plant) : Lifecycle.Label → Prop
  | .sim _ _ .newDevice | .sim _ _ .loopExit => False
  | .sim r i .returnError => ∀ d ∈ p.devices, ¬ (d.run = r ∧ d.sim = i)
  | _ => True

instance (p : Plant) : DecidablePred p.Admits
  | .start _ | .stop _ | .run _ => instDecidableTrue
  | .sim _ _ .newDevice | .sim _ _ .loopExit => instDecidableFalse
  | .sim r i .returnError => inferInstanceAs (Decidable (∀ d ∈ p.devices, ¬ (d.run = r ∧ d.sim = i)))
  | .sim _ _ .initDone | .sim _ _ .interrupt | .sim _ _ .returnDone | .sim _ _ .wgDone =>
    instDecidableTrue

/-- The runs that have become idle after the step. -/
def endedBy (p : Plant) : Lifecycle.Label → List Nat
  | .run r =>
    match p.world.runs[r]? with
    | none => p.ended
    | some run => if run.phase = .drained then p.ended ++ [r] else p.ended
  | _ => p.ended

/-- The simulation is in `runSimulation`. -/
def Runs (p : Plant) (r i : Nat) : Prop :=
  match p.world.runs[r]? with
  | none => False
  | some run =>
    match run.sims[i]? with
    | none => False
    | some s => s.phase = .running

instance (p : Plant) (r i : Nat) : Decidable (p.Runs r i) := by
  unfold Runs
  split
  · exact instDecidableFalse
  · split
    · exact instDecidableFalse
    · exact inferInstance

/-- The gateways are gateways of the simulation. -/
def Owns (p : Plant) (r i : Nat) (gateways : List Nat) : Prop :=
  ∀ g ∈ gateways, ∃ gw ∈ p.gateways[g]?, gw.run = r ∧ gw.sim = i

instance (p : Plant) (r i : Nat) (gateways : List Nat) : Decidable (p.Owns r i gateways) := by
  unfold Owns
  infer_instance

end Plant

section
variable (parseDuration : String → Except String Int)

/-- A loop of the device returns. -/
def loopExit (p : Plant) (k : Nat) (d d' : Device) : Option Plant :=
  (Lifecycle.step parseDuration p.world (.sim d.run d.sim .loopExit)).map fun w =>
    { p.setDevice k d' with world := w }

/-- One step. -/
def step (p : Plant) : Label → Option Plant
  | .server a =>
    if p.Admits a then
      (Lifecycle.step parseDuration p.world a).map fun w =>
        { p with world := w, ended := p.endedBy a }
    else none
  | .newGateway r i =>
    if p.Runs r i then some { p with gateways := p.gateways ++ [.new r i] } else none
  | .newDevice r i gateways latencyMs =>
    if p.Owns r i gateways then
      (Lifecycle.step parseDuration p.world (.sim r i .newDevice)).map fun w =>
        { p with
          world := w
          devices := p.devices ++ [⟨r, i, gateways, latencyMs, .between, true⟩] }
    else none
  | .sendUplink k =>
    match p.devices[k]? with
    | none => none
    | some d =>
      if d.uplinkLoop = .between then
        some (p.setDevice k { d with uplinkLoop := .sending d.gateways none })
      else none
  | .toGateway k lost =>
    match p.devices[k]? with
    | none => none
    | some d =>
      match d.uplinkLoop with
      | .sending (g :: rest) none =>
        if lost then some (p.setDevice k { d with uplinkLoop := .sending rest none })
        else if 0 < d.latencyMs then
          some { p.setDevice k { d with uplinkLoop := .sending rest none } with
            timers := p.timers ++ [g] }
        else
          some ((p.setDevice k { d with uplinkLoop := .sending rest (some g) }).onGateway g
            Gateway.countUplink)
      | _ => none
  | .published k sent =>
    match p.devices[k]? with
    | none => none
    | some d =>
      match d.uplinkLoop with
      | .sending rest (some g) =>
        some ((p.setDevice k { d with uplinkLoop := .sending rest none }).onGateway g
          (Gateway.publishUplink sent))
      | _ => none
  | .sentAll k =>
    match p.devices[k]? with
    | none => none
    | some d =>
      if d.uplinkLoop = .sending [] none then some (p.setDevice k { d with uplinkLoop := .between })
      else none
  | .uplinkLoopExit k =>
    match p.devices[k]? with
    | none => none
    | some d =>
      if d.uplinkLoop = .between then loopExit parseDuration p k d { d with uplinkLoop := .left }
      else none
  | .downlinkLoopExit k =>
    match p.devices[k]? with
    | none => none
    | some d =>
      if d.downlinkLoop then loopExit parseDuration p k d { d with downlinkLoop := false } else none
  | .fire j =>
    match p.timers[j]? with
    | none => none
    | some g =>
      some ({ p with timers := p.timers.eraseIdx j, delayed := p.delayed ++ [g] }.onGateway g
        Gateway.countUplink)
  | .delayedPublished j sent =>
    match p.delayed[j]? with
    | none => none
    | some g =>
      some ({ p with delayed := p.delayed.eraseIdx j }.onGateway g (Gateway.publishUplink sent))
  | .downlink g =>
    match p.gateways[g]? with
    | none => none
    | some _ => some ({ p with handlers := p.handlers ++ [g] }.onGateway g Gateway.countDownlink)
  | .ack j sent =>
    match p.handlers[j]? with
    | none => none
    | some g =>
      some ({ p with handlers := p.handlers.eraseIdx j }.onGateway g
        (Gateway.sendDownlinkTxAck sent))

/-! ## The law -/

/-- The gateway belongs to a run that has become idle. -/
def Idle (p : Plant) (g : Nat) : Prop := ∃ gw, p.gateways[g]? = some gw ∧ gw.run ∈ p.ended

/-- **Quiescence**: the step changes no gateway of an idle run. -/
def Quiet (p : Plant) (a : Label) : Prop :=
  ∀ p', step parseDuration p a = some p' → ∀ g, Idle p g → p'.gateways[g]? = p.gateways[g]?

end

/-- The gateways of the delayed sends and of the downlink handlers that are under way. -/
def Plant.pending (p : Plant) : List Nat := p.timers ++ p.delayed ++ p.handlers

/-- The next step of the run's goroutine makes the run idle. -/
def Plant.Ends (p : Plant) (r : Nat) : Prop :=
  ∃ run, p.world.runs[r]? = some run ∧ run.phase = .drained

/-- A run becomes idle only when no delayed send and no downlink handler is under way on its gateways,
    and no downlink command comes in on a gateway of an idle run. -/
def Settled (p : Plant) : Label → Prop
  | .server (.run r) =>
    p.Ends r → ∀ g ∈ p.pending, ∀ gw, p.gateways[g]? = some gw → gw.run ≠ r
  | .downlink g => ¬ Idle p g
  | _ => True

/-- The step serves what was under way before. -/
def Label.Late : Label → Prop
  | .fire _ | .delayedPublished _ _ | .ack _ _ => True
  | _ => False

/-! ## What a step of the world does to one simulation -/

variable {parseDuration : String → Except String Int}

/-- The `i`-th simulation of the `r`-th run. -/
def simOf (w : World) (r i : Nat) : Option SimRun := (w.runs[r]?).bind fun run => run.sims[i]?

/-- The simulations after one run has changed. -/
theorem simOf_set {w : World} {r : Nat} {run run' : Run} {st : SimState} (hr : w.runs[r]? = some run)
    (q i : Nat) : simOf ⟨st, w.runs.set r run'⟩ q i =
      if q = r then run'.sims[i]? else simOf w q i := by
  unfold simOf
  by_cases hq : q = r
  · subst hq
    show ((w.runs.set q run')[q]?).bind _ = _
    rw [Objects.set_self hr, if_pos rfl]
    rfl
  · show ((w.runs.set r run')[q]?).bind _ = _
    rw [List.getElem?_set_ne (Ne.symm hq), if_neg hq]

/-- A step of a simulation moves that one and no other. -/
theorem simOf_sim {w w' : World} {r i : Nat} {e : SimEvent}
    (h : Lifecycle.step parseDuration w (.sim r i e) = some w') :
    ∃ s s' signalled, simOf w r i = some s ∧ simStep s e = some (s', signalled) ∧
      ∀ q j, simOf w' q j = if q = r ∧ j = i then some s' else simOf w q j := by
  simp only [Lifecycle.step] at h
  split at h
  · cases h
  · rename_i run hr
    split at h
    · cases h
    · rename_i run' hmove
      obtain rfl := Option.some.inj h
      obtain ⟨s, s', signalled, hs, hstep, rfl⟩ := simMove_cases hmove
      have hold : ∀ j, simOf w r j = run.sims[j]? := by
        intro j
        unfold simOf
        rw [hr]
        rfl
      refine ⟨s, s', signalled, (hold i).trans hs, hstep, fun q j => ?_⟩
      rw [simOf_set hr]
      by_cases hq : q = r
      · subst hq
        rw [if_pos rfl, hold]
        show (run.sims.set i s')[j]? = _
        by_cases hj : j = i
        · subst hj
          rw [if_pos ⟨rfl, rfl⟩]
          exact Objects.set_self hs
        · rw [if_neg fun h => hj h.2]
          exact List.getElem?_set_ne (Ne.symm hj)
      · rw [if_neg hq, if_neg fun h => hq h.1]

/-- Every other step leaves the simulations as they are, but for one that it may launch. -/
theorem simOf_other {w w' : World} {a : Lifecycle.Label} (ha : ∀ r i e, a ≠ .sim r i e)
    (h : Lifecycle.step parseDuration w a = some w') (q i : Nat) :
    simOf w' q i = simOf w q i ∨ (simOf w q i = none ∧ ∃ sim, simOf w' q i = some (.new sim)) := by
  rcases step_cases h with rfl | ⟨_, req, cfg, -, -, -, rfl⟩ | ⟨post, -, -, rfl⟩ |
    ⟨r, run, st, run', -, hr, hadv, rfl⟩ | ⟨r, run, i', e, run', rfl, -, -, -⟩
  · exact Or.inl rfl
  · -- a fresh run has no simulations
    refine Or.inl ?_
    unfold simOf
    show ((w.runs ++ [_])[q]?).bind _ = _
    rcases Nat.lt_or_ge q w.runs.length with hlt | hge
    · rw [List.getElem?_append_left hlt]
    · rw [List.getElem?_append_right hge, List.getElem?_eq_none hge]
      cases q - w.runs.length <;> rfl
  · refine Or.inl ?_
    unfold simOf acceptStop cancelRun
    dsimp only
    split
    · rfl
    · rename_i r hc
      rw [List.getElem?_modify]
      cases w.runs[q]? with
      | none => rfl
      | some run => by_cases hrq : r = q <;> simp [hrq]
  · by_cases hq : q = r
    · subst hq
      have hold : simOf w q i = run.sims[i]? := by
        unfold simOf
        rw [hr]
        rfl
      have hnew : simOf ⟨st, w.runs.set q run'⟩ q i = run'.sims[i]? := by
        rw [simOf_set hr, if_pos rfl]
      rw [hnew, hold]
      cases advance_cases hadv with
      | begins _ _ => exact Or.inl rfl
      | rejects _ _ _ _ _ => exact Or.inl rfl
      | waits _ _ => exact Or.inl rfl
      | drains _ _ => exact Or.inl rfl
      | fails _ => exact Or.inl rfl
      | ends _ => exact Or.inl rfl
      | launches _ _ _ sim _ _ =>
        rcases Nat.lt_trichotomy i run.sims.length with hlt | rfl | hgt
        · exact Or.inl (List.getElem?_append_left hlt)
        · exact Or.inr ⟨List.getElem?_eq_none (Nat.le_refl _), sim, List.getElem?_concat_length ..⟩
        · refine Or.inl ?_
          rw [List.getElem?_eq_none (Nat.le_of_lt hgt)]
          refine List.getElem?_eq_none ?_
          rw [List.length_append]
          exact hgt
    · rw [simOf_set hr, if_neg hq]
      exact Or.inl rfl
  · exact absurd rfl (ha r i' e)

/-! ## The wait groups -/

/-- The loops a simulation counts. -/
def loopsOf (w : World) (r i : Nat) : Nat :=
  match simOf w r i with
  | none => 0
  | some s => s.loops

/-- The loops of the devices of a simulation. -/
def running (devices : List Device) (r i : Nat) : Nat :=
  (devices.map fun d => if d.run = r ∧ d.sim = i then d.loops else 0).sum

/-- A simulation whose `runSimulation` has returned counts no loops. -/
def Returned (s : SimRun) : Prop := s.phase = .returned ∨ s.phase = .done → s.loops = 0

/-- The goroutine of the run is over, and all its simulations are done. -/
def Over (run : Run) : Prop := run.phase = .finished ∧ ∀ s ∈ run.sims, s.phase = .done

/-- The loops after a simulation's step. -/
theorem simStep_loops {s s' : SimRun} {e : SimEvent} {signalled : Bool}
    (h : simStep s e = some (s', signalled)) :
    s'.loops + (if e = .loopExit then 1 else 0) = s.loops + if e = .newDevice then 2 else 0 := by
  cases simStep_cases h with
  | loopExit hloops =>
    show s.loops - 1 + 1 = s.loops + 0
    omega
  | initDone hp => rfl
  | newDevice hp => rfl
  | interrupt hp => rfl
  | returnError hp => rfl
  | returnDone hp hloops => rfl
  | wgDone hp => rfl

/-- `runSimulation` returns only when no loop is left. -/
theorem simStep_returned {s s' : SimRun} {e : SimEvent} {signalled : Bool} (hs : Returned s)
    (herror : e = .returnError → s.loops = 0) (h : simStep s e = some (s', signalled)) :
    Returned s' := by
  cases simStep_cases h with
  | initDone hp => rintro (h | h) <;> cases h
  | newDevice hp =>
    intro h
    have hphase : s.phase = .returned ∨ s.phase = .done := h
    rw [hp] at hphase
    rcases hphase with h | h <;> cases h
  | loopExit hloops =>
    intro hp
    have hzero := hs hp
    omega
  | interrupt hp => exact hs
  | returnError hp => exact fun _ => herror rfl
  | returnDone hp hloops => exact fun _ => hloops
  | wgDone hp => exact fun _ => hs (Or.inl hp)

/-- What is done stays done. -/
theorem simStep_done {s s' : SimRun} {e : SimEvent} {signalled : Bool} (hs : s.phase = .done)
    (h : simStep s e = some (s', signalled)) : s'.phase = .done := by
  cases simStep_cases h with
  | initDone hp => rw [hs] at hp; cases hp
  | newDevice hp => exact hs
  | loopExit hloops => exact hs
  | interrupt hp => exact hs
  | returnError hp => rw [hs] at hp; cases hp
  | returnDone hp hloops => rw [hs] at hp; cases hp
  | wgDone hp => rfl

/-- The loops after a step of a simulation. -/
theorem loopsOf_sim {w w' : World} {r i : Nat} {e : SimEvent}
    (h : Lifecycle.step parseDuration w (.sim r i e) = some w') (q j : Nat) :
    loopsOf w' q j + (if q = r ∧ j = i ∧ e = .loopExit then 1 else 0) =
      loopsOf w q j + if q = r ∧ j = i ∧ e = .newDevice then 2 else 0 := by
  obtain ⟨s, s', signalled, hs, hstep, hall⟩ := simOf_sim h
  unfold loopsOf
  rw [hall q j]
  by_cases hqj : q = r ∧ j = i
  · obtain ⟨rfl, rfl⟩ := hqj
    have hloops := simStep_loops hstep
    simpa [hs] using hloops
  · rw [if_neg hqj, if_neg fun h => hqj ⟨h.1, h.2.1⟩, if_neg fun h => hqj ⟨h.1, h.2.1⟩]

/-- Only the steps of simulations change how many loops they count. -/
theorem loopsOf_other {w w' : World} {a : Lifecycle.Label} (ha : ∀ r i e, a ≠ .sim r i e)
    (h : Lifecycle.step parseDuration w a = some w') (q j : Nat) : loopsOf w' q j = loopsOf w q j := by
  unfold loopsOf
  rcases simOf_other ha h q j with hsame | ⟨hnone, sim, hnew⟩
  · rw [hsame]
  · rw [hnone, hnew]
    rfl

/-- `simulation.start`s that have returned stay without loops, if one ends early only before it has
    devices. -/
theorem returned_step {w w' : World} {a : Lifecycle.Label}
    (hw : ∀ r i s, simOf w r i = some s → Returned s)
    (herror : ∀ r i, a = .sim r i .returnError → loopsOf w r i = 0)
    (h : Lifecycle.step parseDuration w a = some w') (q j : Nat) (t : SimRun)
    (ht : simOf w' q j = some t) : Returned t := by
  by_cases ha : ∃ r i e, a = .sim r i e
  · obtain ⟨r, i, e, rfl⟩ := ha
    obtain ⟨s, s', signalled, hs, hstep, hall⟩ := simOf_sim h
    rw [hall q j] at ht
    split at ht
    · obtain rfl := Option.some.inj ht
      refine simStep_returned (hw r i s hs) (fun he => ?_) hstep
      have hzero := herror r i (by rw [he])
      unfold loopsOf at hzero
      rw [hs] at hzero
      exact hzero
    · exact hw q j t ht
  · rcases simOf_other (fun r i e he => ha ⟨r, i, e, he⟩) h q j with hsame | ⟨-, sim, hnew⟩
    · exact hw q j t (hsame ▸ ht)
    · rw [hnew] at ht
      obtain rfl := Option.some.inj ht
      rintro (hp | hp) <;> cases hp

/-- A run that is over stays over. -/
theorem over_step {w w' : World} {a : Lifecycle.Label}
    (h : Lifecycle.step parseDuration w a = some w') {r : Nat} {run : Run}
    (hr : w.runs[r]? = some run) (hover : Over run) : ∃ run', w'.runs[r]? = some run' ∧ Over run' := by
  rcases step_cases h with rfl | ⟨_, req, cfg, -, -, -, rfl⟩ | ⟨post, -, -, rfl⟩ |
    ⟨q, run₀, st, run₁, -, hq, hadv, rfl⟩ | ⟨q, run₀, i, e, run₁, -, hq, hmove, rfl⟩
  · exact ⟨run, hr, hover⟩
  · exact ⟨run, Objects.append_kept hr _, hover⟩
  · have hlt : r < (acceptStop w).runs.length := by
      rw [length_acceptStop]
      exact (List.getElem?_eq_some_iff.mp hr).1
    obtain ⟨run₀, hr₀, hrun⟩ := getElem?_acceptStop (List.getElem?_eq_getElem hlt)
    obtain rfl : run = run₀ := Option.some.inj (hr.symm.trans hr₀)
    refine ⟨_, List.getElem?_eq_getElem hlt, ?_⟩
    rw [hrun]
    split
    · exact hover
    · exact hover
  · by_cases hrq : r = q
    · subst hrq
      obtain rfl : run = run₀ := Option.some.inj (hr.symm.trans hq)
      exact absurd hover.1 (advance_state hadv).1
    · exact ⟨run, Objects.set_kept hrq hr, hover⟩
  · by_cases hrq : r = q
    · subst hrq
      obtain rfl : run = run₀ := Option.some.inj (hr.symm.trans hq)
      refine ⟨run₁, Objects.set_self hr, ?_⟩
      obtain ⟨s, s', signalled, hs, hstep, rfl⟩ := simMove_cases hmove
      refine ⟨hover.1, fun t ht => ?_⟩
      rcases List.mem_or_eq_of_mem_set ht with ht | rfl
      · exact hover.2 t ht
      · exact simStep_done (hover.2 s (List.mem_of_getElem? hs)) hstep
    · exact ⟨run, Objects.set_kept hrq hr, hover⟩

/-- The goroutine of a run whose `wg.Wait()` has returned ends it. -/
theorem over_drained {w w' : World} {r : Nat} {run : Run} (hr : w.runs[r]? = some run)
    (hcounted : Counted run) (hp : run.phase = .drained)
    (h : Lifecycle.step parseDuration w (.run r) = some w') :
    ∃ run', w'.runs[r]? = some run' ∧ Over run' := by
  have hdone : ∀ s ∈ run.sims, s.phase = .done := pending_eq_zero_iff.mp (hcounted.drained hp)
  have hadv : advance w.state run = some
      ({ w.state with status := .idle, config := none }, { run with phase := .finished }) := by
    unfold advance
    rw [hp]
  rw [step_run parseDuration hr hadv] at h
  obtain rfl := Option.some.inj h
  exact ⟨_, Objects.set_self hr, rfl, hdone⟩

/-! ## The loops of the devices -/

/-- A new device brings the loops it has. -/
theorem running_append (devices : List Device) (d : Device) (r i : Nat) :
    running (devices ++ [d]) r i = running devices r i +
      if d.run = r ∧ d.sim = i then d.loops else 0 := by
  unfold running
  rw [List.map_append, List.sum_append]
  simp

/-- A device that changes in its place changes the count by the difference. -/
theorem running_set {devices : List Device} {k : Nat} {d d' : Device} (hd : devices[k]? = some d)
    (hrun : d'.run = d.run) (hsim : d'.sim = d.sim) (r i : Nat) :
    running (devices.set k d') r i + (if d.run = r ∧ d.sim = i then d.loops else 0) =
      running devices r i + if d.run = r ∧ d.sim = i then d'.loops else 0 := by
  have hset := Tally.sum_map_set (fun d => if d.run = r ∧ d.sim = i then d.loops else 0) d' hd
  simp only [hrun, hsim] at hset
  exact hset

/-- The loops of a device are among those of its simulation. -/
theorem loops_le_running {devices : List Device} {d : Device} (hd : d ∈ devices) :
    d.loops ≤ running devices d.run d.sim := by
  have hmem := List.mem_map_of_mem
    (f := fun e : Device => if e.run = d.run ∧ e.sim = d.sim then e.loops else 0) hd
  have hle : (if d.run = d.run ∧ d.sim = d.sim then d.loops else 0) ≤ running devices d.run d.sim :=
    List.le_sum_of_mem hmem
  rw [if_pos ⟨rfl, rfl⟩] at hle
  exact hle

/-- The gateways a loop still has to serve in `sendUplink`. -/
def Device.Sending (d : Device) : Prop :=
  ∀ rest current, d.uplinkLoop = .sending rest current →
    (∀ g ∈ rest, g ∈ d.gateways) ∧ ∀ g, current = some g → g ∈ d.gateways

/-- The wait groups count what runs: a run that has ended is over, a simulation that has returned
    has no loops, and every simulation counts the loops of its devices. -/
structure Sound (p : Plant) : Prop where
  counted : ∀ run ∈ p.world.runs, Counted run
  ended : ∀ r ∈ p.ended, ∃ run, p.world.runs[r]? = some run ∧ Over run
  returned : ∀ r i s, simOf p.world r i = some s → Returned s
  loops : ∀ r i, loopsOf p.world r i = running p.devices r i
  gateways : ∀ d ∈ p.devices, ∀ g ∈ d.gateways, ∃ gw, p.gateways[g]? = some gw ∧ gw.run = d.run
  sending : ∀ d ∈ p.devices, d.Sending

/-- **The loops of an idle run have returned**: its wait group has waited for its simulations, and theirs
    for the loops. -/
theorem Sound.left_of_ended {p : Plant} (hp : Sound p) {d : Device} (hd : d ∈ p.devices)
    (hended : d.run ∈ p.ended) : d.loops = 0 := by
  obtain ⟨run, hrun, -, hdone⟩ := hp.ended d.run hended
  have hle := loops_le_running hd
  rw [← hp.loops] at hle
  have hzero : loopsOf p.world d.run d.sim = 0 := by
    unfold loopsOf
    cases hs : simOf p.world d.run d.sim with
    | none => rfl
    | some s =>
      have hmem : s ∈ run.sims := by
        unfold simOf at hs
        rw [hrun] at hs
        exact List.mem_of_getElem? hs
      exact hp.returned _ _ s hs (Or.inr (hdone s hmem))
  omega

/-- Nothing runs at the start. -/
theorem sound_init : Sound init where
  counted run hrun := absurd hrun List.not_mem_nil
  ended r hr := absurd hr List.not_mem_nil
  returned r i s hs := by cases hs
  loops r i := rfl
  gateways d hd := absurd hd List.not_mem_nil
  sending d hd := absurd hd List.not_mem_nil

/-- A gateway counts or publishes. -/
theorem Sound.onGateway {p : Plant} (hp : Sound p) (g : Nat) {f : Gateway → Gateway}
    (hf : ∀ gw, (f gw).run = gw.run) : Sound (p.onGateway g f) where
  counted := hp.counted
  ended := hp.ended
  returned := hp.returned
  loops := hp.loops
  gateways d hd h hh := by
    obtain ⟨gw, hgw, hrun⟩ := hp.gateways d hd h hh
    by_cases hg : g = h
    · refine ⟨f gw, ?_, (hf gw).trans hrun⟩
      show (p.gateways.modify g f)[h]? = _
      rw [List.getElem?_modify, hgw, hg]
      simp
    · refine ⟨gw, ?_, hrun⟩
      show (p.gateways.modify g f)[h]? = _
      rw [List.getElem?_modify, hgw]
      simp [hg]
  sending := hp.sending

/-- A loop goes on inside `sendUplink`, or into it or out of it. -/
theorem Sound.setDevice {p : Plant} (hp : Sound p) {k : Nat} {d : Device} {loop : UplinkLoop}
    (hd : p.devices[k]? = some d) (hleft : loop = .left ↔ d.uplinkLoop = .left)
    (hsending : ({ d with uplinkLoop := loop } : Device).Sending) :
    Sound (p.setDevice k { d with uplinkLoop := loop }) where
  counted := hp.counted
  ended := hp.ended
  returned := hp.returned
  loops r i := by
    have hset := running_set hd (rfl : ({ d with uplinkLoop := loop } : Device).run = d.run) rfl r i
    have hloops : ({ d with uplinkLoop := loop } : Device).loops = d.loops := by
      unfold Device.loops
      simp only [hleft]
    rw [hloops] at hset
    show loopsOf p.world r i = running (p.devices.set k _) r i
    rw [hp.loops]
    omega
  gateways e he := by
    rcases List.mem_or_eq_of_mem_set he with he | rfl
    · exact hp.gateways e he
    · exact hp.gateways d (List.mem_of_getElem? hd)
  sending e he := by
    rcases List.mem_or_eq_of_mem_set he with he | rfl
    · exact hp.sending e he
    · exact hsending

/-- The world takes a step, and the devices with it. -/
theorem Sound.world {p : Plant} (hp : Sound p) {a : Lifecycle.Label} {w : World}
    (h : Lifecycle.step parseDuration p.world a = some w) {devices : List Device} {ended : List Nat}
    (herror : ∀ r i, a = .sim r i .returnError → loopsOf p.world r i = 0)
    (hended : ∀ r ∈ ended, r ∈ p.ended ∨ ∃ run, w.runs[r]? = some run ∧ Over run)
    (hloops : ∀ r i, loopsOf w r i = running devices r i)
    (hgateways : ∀ d ∈ devices, ∀ g ∈ d.gateways, ∃ gw, p.gateways[g]? = some gw ∧ gw.run = d.run)
    (hsending : ∀ d ∈ devices, d.Sending) :
    Sound { p with world := w, devices := devices, ended := ended } where
  counted := counted_step hp.counted h
  ended r hr := by
    rcases hended r hr with hr | hr
    · obtain ⟨run, hrun, hover⟩ := hp.ended r hr
      exact over_step h hrun hover
    · exact hr
  returned := returned_step hp.returned herror h
  loops := hloops
  gateways := hgateways
  sending := hsending

/-! What the steps do that are neither inside `sendUplink` nor late. -/

/-- A step of the server is admitted, and the run it ends is noted. -/
theorem server_cases {p p' : Plant} {a : Lifecycle.Label}
    (h : step parseDuration p (.server a) = some p') : p.Admits a ∧
      ∃ w, Lifecycle.step parseDuration p.world a = some w ∧
        p' = { p with world := w, ended := p.endedBy a } := by
  simp only [step] at h
  split at h
  · rename_i hadmits
    obtain ⟨w, hw, hp'⟩ := Option.map_eq_some_iff.mp h
    exact ⟨hadmits, w, hw, hp'.symm⟩
  · cases h

theorem newGateway_cases {p p' : Plant} {r i : Nat}
    (h : step parseDuration p (.newGateway r i) = some p') :
    p' = { p with gateways := p.gateways ++ [.new r i] } := by
  simp only [step] at h
  split at h
  · exact (Option.some.inj h).symm
  · cases h

/-- A device is made with gateways of its own simulation. -/
theorem newDevice_cases {p p' : Plant} {r i : Nat} {gateways : List Nat} {latencyMs : Int}
    (h : step parseDuration p (.newDevice r i gateways latencyMs) = some p') :
    p.Owns r i gateways ∧ ∃ w, Lifecycle.step parseDuration p.world (.sim r i .newDevice) = some w ∧
      p' = { p with
        world := w
        devices := p.devices ++ [⟨r, i, gateways, latencyMs, .between, true⟩] } := by
  simp only [step] at h
  split at h
  · rename_i howns
    obtain ⟨w, hw, hp'⟩ := Option.map_eq_some_iff.mp h
    exact ⟨howns, w, hw, hp'.symm⟩
  · cases h

/-- An uplink loop leaves between two uplinks. -/
theorem uplinkLoopExit_cases {p p' : Plant} {k : Nat}
    (h : step parseDuration p (.uplinkLoopExit k) = some p') :
    ∃ d, p.devices[k]? = some d ∧ d.uplinkLoop = .between ∧
      loopExit parseDuration p k d { d with uplinkLoop := .left } = some p' := by
  simp only [step] at h
  split at h
  · cases h
  · rename_i d hd
    split at h
    · rename_i hloop
      exact ⟨d, hd, hloop, h⟩
    · cases h

/-- A downlink loop leaves once. -/
theorem downlinkLoopExit_cases {p p' : Plant} {k : Nat}
    (h : step parseDuration p (.downlinkLoopExit k) = some p') :
    ∃ d, p.devices[k]? = some d ∧ d.downlinkLoop = true ∧
      loopExit parseDuration p k d { d with downlinkLoop := false } = some p' := by
  simp only [step] at h
  split at h
  · cases h
  · rename_i d hd
    split at h
    · rename_i hloop
      exact ⟨d, hd, hloop, h⟩
    · cases h

/-- A run is idle after a step of the server if it was, or if the step makes it idle. -/
theorem mem_endedBy {p : Plant} {a : Lifecycle.Label} {r : Nat} (h : r ∈ p.endedBy a) :
    r ∈ p.ended ∨ a = .run r ∧ p.Ends r := by
  cases a with
  | start q => exact .inl h
  | stop post => exact .inl h
  | sim q j e => exact .inl h
  | run q =>
    have h' : r ∈ match p.world.runs[q]? with
      | none => p.ended
      | some run => if run.phase = RunPhase.drained then p.ended ++ [q] else p.ended := h
    cases hq : p.world.runs[q]? with
    | none =>
      rw [hq] at h'
      exact .inl h'
    | some run =>
      rw [hq] at h'
      dsimp only at h'
      split at h'
      · rename_i hdrained
        rcases List.mem_append.mp h' with hold | hnew
        · exact .inl hold
        · obtain rfl := List.mem_singleton.mp hnew
          exact .inr ⟨rfl, run, hq, hdrained⟩
      · exact .inl h'

/-- The server makes and ends no loop, and ends a run only after its wait group. -/
theorem sound_server {p p' : Plant} {a : Lifecycle.Label} (hp : Sound p)
    (h : step parseDuration p (.server a) = some p') : Sound p' := by
  obtain ⟨hadmits, w, hw, rfl⟩ := server_cases h
  refine hp.world hw (fun r i ha => ?_) (fun r hr => ?_) (fun r i => ?_) hp.gateways hp.sending
  · -- a simulation ends early only without devices
    subst ha
    have hnone : ∀ d ∈ p.devices, ¬ (d.run = r ∧ d.sim = i) := hadmits
    rw [hp.loops]
    refine List.sum_eq_zero_iff_forall_eq_nat.mpr fun n hn => ?_
    obtain ⟨d, hd, rfl⟩ := List.mem_map.mp hn
    exact if_neg (hnone d hd)
  · refine (mem_endedBy hr).imp_right ?_
    rintro ⟨rfl, run, hrun, hdrained⟩
    exact over_drained hrun (hp.counted run (List.mem_of_getElem? hrun)) hdrained hw
  · rw [← hp.loops]
    by_cases ha : ∃ q j e, a = .sim q j e
    · obtain ⟨q, j, e, rfl⟩ := ha
      have hloops := loopsOf_sim hw r i
      -- making a device and a loop's return are no steps of the server
      have hne : e ≠ .newDevice ∧ e ≠ .loopExit := by
        constructor <;> rintro rfl <;> exact hadmits
      simpa [hne.1, hne.2] using hloops
    · exact loopsOf_other (fun q j e he => ha ⟨q, j, e, he⟩) hw r i

/-- A new device has two loops, and its simulation counts two more. -/
theorem sound_newDevice {p p' : Plant} {r i : Nat} {gateways : List Nat} {latencyMs : Int}
    (hp : Sound p) (h : step parseDuration p (.newDevice r i gateways latencyMs) = some p') :
    Sound p' := by
  obtain ⟨howns, w, hw, rfl⟩ := newDevice_cases h
  refine hp.world hw (fun q j ha => by cases ha) (fun q hq => Or.inl hq) (fun q j => ?_)
    (fun d hd => ?_) (fun d hd => ?_)
  · have hloops := loopsOf_sim hw q j
    rw [running_append, ← hp.loops]
    by_cases hqj : q = r ∧ j = i
    · obtain ⟨rfl, rfl⟩ := hqj
      simpa [Device.loops] using hloops
    · have hqj' : ¬ (r = q ∧ i = j) := fun h => hqj ⟨h.1.symm, h.2.symm⟩
      rw [if_neg fun h => hqj ⟨h.1, h.2.1⟩, if_neg fun h => hqj ⟨h.1, h.2.1⟩] at hloops
      rw [if_neg hqj']
      exact hloops
  · rcases List.mem_append.mp hd with hd | hd
    · exact hp.gateways d hd
    · obtain rfl := List.mem_singleton.mp hd
      intro g hg
      obtain ⟨gw, hgw, hrun, -⟩ := howns g hg
      exact ⟨gw, hgw, hrun⟩
  · rcases List.mem_append.mp hd with hd | hd
    · exact hp.sending d hd
    · obtain rfl := List.mem_singleton.mp hd
      intro rest current hloop
      cases hloop

/-- A loop returns, and its simulation counts one less. -/
theorem sound_loopExit {p p' : Plant} {k : Nat} {d d' : Device} (hp : Sound p)
    (hd : p.devices[k]? = some d) (h : loopExit parseDuration p k d d' = some p')
    (hrun : d'.run = d.run) (hsim : d'.sim = d.sim) (hgateways : d'.gateways = d.gateways)
    (hloops : d'.loops + 1 = d.loops) (hsending : d'.Sending) : Sound p' := by
  obtain ⟨w, hw, rfl⟩ := Option.map_eq_some_iff.mp h
  refine hp.world hw (fun q j ha => by cases ha) (fun q hq => Or.inl hq) (fun q j => ?_)
    (fun e he => ?_) (fun e he => ?_)
  · show loopsOf w q j = running (p.devices.set k d') q j
    have hworld := loopsOf_sim hw q j
    have hset := running_set hd hrun hsim q j
    have hbefore := hp.loops q j
    by_cases hqj : d.run = q ∧ d.sim = j
    · obtain ⟨rfl, rfl⟩ := hqj
      simp at hworld hset
      omega
    · have hqj' : ¬ (q = d.run ∧ j = d.sim) := fun h => hqj ⟨h.1.symm, h.2.symm⟩
      rw [if_neg fun h => hqj' ⟨h.1, h.2.1⟩, if_neg fun h => hqj' ⟨h.1, h.2.1⟩] at hworld
      rw [if_neg hqj, if_neg hqj] at hset
      omega
  · rcases List.mem_or_eq_of_mem_set he with he | rfl
    · exact hp.gateways e he
    · rw [hgateways, hrun]
      exact hp.gateways d (List.mem_of_getElem? hd)
  · rcases List.mem_or_eq_of_mem_set he with he | rfl
    · exact hp.sending e he
    · exact hsending

/-- The two differ in their timers and handlers only. -/
structure Aside (p q : Plant) : Prop where
  world : q.world = p.world
  gateways : q.gateways = p.gateways
  devices : q.devices = p.devices
  ended : q.ended = p.ended

/-- The invariant says nothing about timers and handlers. -/
theorem Sound.aside {p q : Plant} (hp : Sound p) (h : Aside p q) : Sound q := by
  obtain ⟨world, gateways, devices, timers, delayed, handlers, ended⟩ := q
  obtain rfl : world = p.world := h.world
  obtain rfl : gateways = p.gateways := h.gateways
  obtain rfl : devices = p.devices := h.devices
  obtain rfl : ended = p.ended := h.ended
  exact ⟨hp.counted, hp.ended, hp.returned, hp.loops, hp.gateways, hp.sending⟩

/-- What a step of an uplink loop inside `sendUplink` does: it moves the loop, and at most one
    gateway. -/
inductive Serves (p p' : Plant) : Label → Prop where
  | sendUplink (k : Nat) (d : Device) (hd : p.devices[k]? = some d) (hloop : d.uplinkLoop = .between)
      (h : p' = p.setDevice k { d with uplinkLoop := .sending d.gateways none }) :
      Serves p p' (.sendUplink k)
  | skips (k : Nat) (lost : Bool) (d : Device) (g : Nat) (rest : List Nat)
      (hd : p.devices[k]? = some d) (hloop : d.uplinkLoop = .sending (g :: rest) none)
      (timers : List Nat) (htimers : timers = p.timers ∨ timers = p.timers ++ [g])
      (h : p' = { p.setDevice k { d with uplinkLoop := .sending rest none } with timers := timers }) :
      Serves p p' (.toGateway k lost)
  | counts (k : Nat) (lost : Bool) (d : Device) (g : Nat) (rest : List Nat)
      (hd : p.devices[k]? = some d) (hloop : d.uplinkLoop = .sending (g :: rest) none)
      (h : p' = (p.setDevice k { d with uplinkLoop := .sending rest (some g) }).onGateway g
        Gateway.countUplink) : Serves p p' (.toGateway k lost)
  | published (k : Nat) (sent : Bool) (d : Device) (g : Nat) (rest : List Nat)
      (hd : p.devices[k]? = some d) (hloop : d.uplinkLoop = .sending rest (some g))
      (h : p' = (p.setDevice k { d with uplinkLoop := .sending rest none }).onGateway g
        (Gateway.publishUplink sent)) : Serves p p' (.published k sent)
  | sentAll (k : Nat) (d : Device) (hd : p.devices[k]? = some d)
      (hloop : d.uplinkLoop = .sending [] none)
      (h : p' = p.setDevice k { d with uplinkLoop := .between }) : Serves p p' (.sentAll k)

theorem sendUplink_cases {p p' : Plant} {k : Nat}
    (h : step parseDuration p (.sendUplink k) = some p') : Serves p p' (.sendUplink k) := by
  simp only [step] at h
  split at h
  · cases h
  · rename_i d hd
    split at h
    · rename_i hloop
      exact .sendUplink k d hd hloop (Option.some.inj h).symm
    · cases h

theorem toGateway_cases {p p' : Plant} {k : Nat} {lost : Bool}
    (h : step parseDuration p (.toGateway k lost) = some p') : Serves p p' (.toGateway k lost) := by
  simp only [step] at h
  split at h
  · cases h
  · rename_i d hd
    split at h
    · rename_i g rest hloop
      split at h
      · exact .skips k lost d g rest hd hloop p.timers (.inl rfl) (Option.some.inj h).symm
      · split at h
        · exact .skips k lost d g rest hd hloop _ (.inr rfl) (Option.some.inj h).symm
        · exact .counts k lost d g rest hd hloop (Option.some.inj h).symm
    · cases h

theorem published_cases {p p' : Plant} {k : Nat} {sent : Bool}
    (h : step parseDuration p (.published k sent) = some p') : Serves p p' (.published k sent) := by
  simp only [step] at h
  split at h
  · cases h
  · rename_i d hd
    split at h
    · rename_i rest g hloop
      exact .published k sent d g rest hd hloop (Option.some.inj h).symm
    · cases h

theorem sentAll_cases {p p' : Plant} {k : Nat}
    (h : step parseDuration p (.sentAll k) = some p') : Serves p p' (.sentAll k) := by
  simp only [step] at h
  split at h
  · cases h
  · rename_i d hd
    split at h
    · rename_i hloop
      exact .sentAll k d hd hloop (Option.some.inj h).symm
    · cases h

/-- A loop inside `sendUplink` goes on, and is the same loop. -/
theorem sound_serves {p p' : Plant} {a : Label} (hp : Sound p) (h : Serves p p' a) : Sound p' := by
  cases h with
  | sendUplink k d hd hloop h =>
    subst h
    refine hp.setDevice hd (by simp [hloop]) fun rest current hsending => ?_
    cases hsending
    exact ⟨fun g hg => hg, fun g hg => by cases hg⟩
  | skips k lost d g rest hd hloop timers htimers h =>
    subst h
    have hset : Sound (p.setDevice k { d with uplinkLoop := .sending rest none }) := by
      refine hp.setDevice hd (by simp [hloop]) fun rest' current hsending => ?_
      cases hsending
      have hrest := (hp.sending d (List.mem_of_getElem? hd) _ _ hloop).1
      exact ⟨fun g' hg' => hrest g' (List.mem_cons_of_mem g hg'), fun g' hg' => by cases hg'⟩
    exact hset.aside ⟨rfl, rfl, rfl, rfl⟩
  | counts k lost d g rest hd hloop h =>
    subst h
    refine Sound.onGateway (hp.setDevice hd (by simp [hloop]) fun rest' current hsending => ?_) g
      fun gw => rfl
    cases hsending
    have hrest := (hp.sending d (List.mem_of_getElem? hd) _ _ hloop).1
    refine ⟨fun g' hg' => hrest g' (List.mem_cons_of_mem g hg'), fun g' hg' => ?_⟩
    obtain rfl := Option.some.inj hg'
    exact hrest g List.mem_cons_self
  | published k sent d g rest hd hloop h =>
    subst h
    refine Sound.onGateway (hp.setDevice hd (by simp [hloop]) fun rest' current hsending => ?_) g
      fun gw => rfl
    cases hsending
    exact ⟨(hp.sending d (List.mem_of_getElem? hd) _ _ hloop).1, fun g' hg' => by cases hg'⟩
  | sentAll k d hd hloop h =>
    subst h
    refine hp.setDevice hd (by simp [hloop]) fun rest current hsending => ?_
    cases hsending

/-- A step of what is left behind: it serves one entry, if there is one, and does `f` to its
    gateway. -/
def Late (parseDuration : String → Except String Int) (p : Plant) (a : Label) (entry : Option Nat)
    (f : Gateway → Gateway) : Prop :=
  ∃ next : Nat → Plant, (∀ g, Aside p (next g)) ∧
    step parseDuration p a = entry.map fun g => (next g).onGateway g f

/-- A timer that is over passes its gateway on to the publication, and the send is counted. -/
theorem step_fire (p : Plant) (j : Nat) : step parseDuration p (.fire j) = p.timers[j]?.map fun g =>
    { p with timers := p.timers.eraseIdx j, delayed := p.delayed ++ [g] }.onGateway g
      Gateway.countUplink := by
  simp only [step]
  cases p.timers[j]? <;> rfl

/-- A delayed send is published by its gateway, or fails. -/
theorem step_delayedPublished (p : Plant) (j : Nat) (sent : Bool) :
    step parseDuration p (.delayedPublished j sent) = p.delayed[j]?.map fun g =>
      { p with delayed := p.delayed.eraseIdx j }.onGateway g (Gateway.publishUplink sent) := by
  simp only [step]
  cases p.delayed[j]? <;> rfl

/-- A command is counted at its gateway, and a handler is started for it. -/
theorem step_downlink (p : Plant) (g : Nat) :
    step parseDuration p (.downlink g) = (p.gateways[g]?.map fun _ => g).map fun g =>
      { p with handlers := p.handlers ++ [g] }.onGateway g Gateway.countDownlink := by
  simp only [step]
  cases p.gateways[g]? <;> rfl

/-- A handler acknowledges through its gateway, and is over. -/
theorem step_ack (p : Plant) (j : Nat) (sent : Bool) :
    step parseDuration p (.ack j sent) = p.handlers[j]?.map fun g =>
      { p with handlers := p.handlers.eraseIdx j }.onGateway g (Gateway.sendDownlinkTxAck sent) := by
  simp only [step]
  cases p.handlers[j]? <;> rfl

theorem late_fire (p : Plant) (j : Nat) :
    Late parseDuration p (.fire j) p.timers[j]? Gateway.countUplink := by
  refine ⟨_, ?_, step_fire p j⟩
  exact fun g => ⟨rfl, rfl, rfl, rfl⟩

theorem late_delayedPublished (p : Plant) (j : Nat) (sent : Bool) :
    Late parseDuration p (.delayedPublished j sent) p.delayed[j]? (Gateway.publishUplink sent) := by
  refine ⟨_, ?_, step_delayedPublished p j sent⟩
  exact fun g => ⟨rfl, rfl, rfl, rfl⟩

theorem late_downlink (p : Plant) (g : Nat) :
    Late parseDuration p (.downlink g) (p.gateways[g]?.map fun _ => g) Gateway.countDownlink := by
  refine ⟨_, ?_, step_downlink p g⟩
  exact fun g => ⟨rfl, rfl, rfl, rfl⟩

theorem late_ack (p : Plant) (j : Nat) (sent : Bool) :
    Late parseDuration p (.ack j sent) p.handlers[j]? (Gateway.sendDownlinkTxAck sent) := by
  refine ⟨_, ?_, step_ack p j sent⟩
  exact fun g => ⟨rfl, rfl, rfl, rfl⟩

/-- Late steps leave a gateway with its run. -/
theorem Late.sound {p p' : Plant} {a : Label} {entry : Option Nat} {f : Gateway → Gateway}
    (hlate : Late parseDuration p a entry f) (hf : ∀ gw, (f gw).run = gw.run) (hp : Sound p)
    (h : step parseDuration p a = some p') : Sound p' := by
  obtain ⟨next, haside, hstep⟩ := hlate
  rw [hstep] at h
  obtain ⟨g, -, rfl⟩ := Option.map_eq_some_iff.mp h
  exact (hp.aside (haside g)).onGateway g hf

theorem sound_newGateway {p p' : Plant} {r i : Nat} (hp : Sound p)
    (h : step parseDuration p (.newGateway r i) = some p') : Sound p' := by
  obtain rfl := newGateway_cases h
  refine ⟨hp.counted, hp.ended, hp.returned, hp.loops, fun d hd g hg => ?_, hp.sending⟩
  obtain ⟨gw, hgw, hrun⟩ := hp.gateways d hd g hg
  exact ⟨gw, Objects.append_kept hgw _, hrun⟩

/-- **One step** keeps the invariant. -/
theorem sound_step {p p' : Plant} {a : Label} (hp : Sound p)
    (h : step parseDuration p a = some p') : Sound p' := by
  cases a with
  | server a => exact sound_server hp h
  | newGateway r i => exact sound_newGateway hp h
  | newDevice r i gateways latencyMs => exact sound_newDevice hp h
  | sendUplink k => exact sound_serves hp (sendUplink_cases h)
  | toGateway k lost => exact sound_serves hp (toGateway_cases h)
  | published k sent => exact sound_serves hp (published_cases h)
  | sentAll k => exact sound_serves hp (sentAll_cases h)
  | uplinkLoopExit k =>
    obtain ⟨d, hd, hloop, hexit⟩ := uplinkLoopExit_cases h
    refine sound_loopExit hp hd hexit rfl rfl rfl ?_ fun rest current hsending => ?_
    · simp [Device.loops, hloop]
      omega
    · cases hsending
  | downlinkLoopExit k =>
    obtain ⟨d, hd, hloop, hexit⟩ := downlinkLoopExit_cases h
    refine sound_loopExit hp hd hexit rfl rfl rfl ?_ (hp.sending d (List.mem_of_getElem? hd))
    simp [Device.loops, hloop]
  | fire j => exact (late_fire p j).sound (fun _ => rfl) hp h
  | delayedPublished j sent => exact (late_delayedPublished p j sent).sound (fun _ => rfl) hp h
  | downlink g => exact (late_downlink p g).sound (fun _ => rfl) hp h
  | ack j sent => exact (late_ack p j sent).sound (fun _ => rfl) hp h

/-! ## Which steps are quiet -/

/-- The step serves nothing on a gateway of an idle run. -/
def NoneLate (p : Plant) : Label → Prop
  | .fire j => ∀ g, p.timers[j]? = some g → ¬ Idle p g
  | .delayedPublished j sent => sent = true → ∀ g, p.delayed[j]? = some g → ¬ Idle p g
  | .downlink g => ¬ Idle p g
  | .ack j _ => ∀ g, p.handlers[j]? = some g → ¬ Idle p g
  | _ => True

/-- A change of one gateway, seen from any of them. -/
theorem getElem?_onGateway (p : Plant) (g : Nat) (f : Gateway → Gateway) (h : Nat) :
    (p.onGateway g f).gateways[h]? = if g = h then (p.gateways[h]?).map f else p.gateways[h]? := by
  show (p.gateways.modify g f)[h]? = _
  rw [List.getElem?_modify]
  split <;> simp

/-- A step on one gateway is quiet exactly if it does nothing to it, or the gateway's run is not idle. -/
theorem onGateway_quiet {p q : Plant} {g : Nat} {f : Gateway → Gateway}
    (hq : q.gateways = p.gateways) :
    (∀ h, Idle p h → (q.onGateway g f).gateways[h]? = p.gateways[h]?) ↔
      (Idle p g → ∀ gw, p.gateways[g]? = some gw → f gw = gw) := by
  have hlookup : ∀ h, (q.onGateway g f).gateways[h]? =
      if g = h then (p.gateways[h]?).map f else p.gateways[h]? := by
    intro h
    rw [getElem?_onGateway, hq]
  constructor
  · intro hsame hidle gw hgw
    have hg := hsame g hidle
    rw [hlookup, if_pos rfl, hgw] at hg
    exact Option.some.inj hg
  · intro hf h hidle
    rw [hlookup]
    split
    · rename_i hgh
      subst hgh
      cases hgw : p.gateways[g]? with
      | none => rfl
      | some gw =>
        show some (f gw) = some gw
        rw [hf hidle gw hgw]
    · rfl

/-- A late step is quiet exactly if what it does to a gateway of an idle run is nothing. -/
theorem Late.unchanged_iff {p : Plant} {a : Label} {entry : Option Nat} {f : Gateway → Gateway}
    (hlate : Late parseDuration p a entry f) :
    Quiet parseDuration p a ↔
      ∀ g, entry = some g → Idle p g → ∀ gw, p.gateways[g]? = some gw → f gw = gw := by
  obtain ⟨next, haside, hstep⟩ := hlate
  constructor
  · rintro hquiet g rfl
    exact (onGateway_quiet (haside g).gateways).mp (hquiet _ hstep)
  · intro hf p' h
    rw [hstep] at h
    obtain ⟨g, hg, rfl⟩ := Option.map_eq_some_iff.mp h
    exact (onGateway_quiet (haside g).gateways).mpr (hf g hg)

/-- One that does something is quiet exactly if the gateway's run is not idle. -/
theorem Late.unchanged_iff_of_ne {p : Plant} {a : Label} {entry : Option Nat} {f : Gateway → Gateway}
    (hlate : Late parseDuration p a entry f) (hf : ∀ gw, f gw ≠ gw) :
    Quiet parseDuration p a ↔ ∀ g, entry = some g → ¬ Idle p g := by
  rw [hlate.unchanged_iff]
  constructor
  · rintro hsame g hg ⟨gw, hgw, hended⟩
    exact hf gw (hsame g hg ⟨gw, hgw, hended⟩ gw hgw)
  · intro hnot g hg hidle
    exact absurd hidle (hnot g hg)

/-- A count shows at the gateway, and so do the next two; a publication does unless it fails. -/
theorem countUplink_ne (gw : Gateway) : gw.countUplink ≠ gw := by
  intro h
  have hcount : gw.uplinkCount + 1 = gw.uplinkCount := congrArg Gateway.uplinkCount h
  simp at hcount

theorem countDownlink_ne (gw : Gateway) : gw.countDownlink ≠ gw := by
  intro h
  have hcount : gw.downlinkCount + 1 = gw.downlinkCount := congrArg Gateway.downlinkCount h
  simp at hcount

theorem sendDownlinkTxAck_ne (sent : Bool) (gw : Gateway) : gw.sendDownlinkTxAck sent ≠ gw := by
  intro h
  have hcounter : gw.downlinkTxCounter + 1 = gw.downlinkTxCounter :=
    congrArg Gateway.downlinkTxCounter h
  omega

theorem publishUplink_eq_iff (sent : Bool) (gw : Gateway) :
    gw.publishUplink sent = gw ↔ sent = false := by
  constructor
  · intro h
    cases sent with
    | false => rfl
    | true =>
      have huplinks : gw.uplinks + 1 = gw.uplinks := congrArg Gateway.uplinks h
      omega
  · rintro rfl
    rfl

/-- A gateway a device is sending through is not one of an idle run. -/
theorem Sound.not_idle {p : Plant} (hp : Sound p) {d : Device} (hd : d ∈ p.devices)
    (hloop : d.uplinkLoop ≠ .left) {g : Nat} (hg : g ∈ d.gateways) : ¬ Idle p g := by
  rintro ⟨gw, hgw, hended⟩
  obtain ⟨gw', hgw', hrun⟩ := hp.gateways d hd g hg
  obtain rfl : gw = gw' := Option.some.inj (hgw.symm.trans hgw')
  have hzero := hp.left_of_ended hd (hrun ▸ hended)
  unfold Device.loops at hzero
  rw [if_neg hloop] at hzero
  omega

/-- The loops of devices are quiet. -/
theorem serves_quiet {p p' : Plant} {a : Label} (hp : Sound p) (h : Serves p p' a) :
    ∀ g, Idle p g → p'.gateways[g]? = p.gateways[g]? := by
  cases h with
  | sendUplink k d hd hloop h =>
    subst h
    exact fun _ _ => rfl
  | skips k lost d g rest hd hloop timers htimers h =>
    subst h
    exact fun _ _ => rfl
  | counts k lost d g rest hd hloop h =>
    subst h
    have hmem : d ∈ p.devices := List.mem_of_getElem? hd
    have hg : g ∈ d.gateways := (hp.sending d hmem _ _ hloop).1 g List.mem_cons_self
    have hnot := hp.not_idle hmem (by simp [hloop]) hg
    exact (onGateway_quiet rfl).mpr fun hidle => absurd hidle hnot
  | published k sent d g rest hd hloop h =>
    subst h
    have hmem : d ∈ p.devices := List.mem_of_getElem? hd
    have hg : g ∈ d.gateways := (hp.sending d hmem _ _ hloop).2 g rfl
    have hnot := hp.not_idle hmem (by simp [hloop]) hg
    exact (onGateway_quiet rfl).mpr fun hidle => absurd hidle hnot
  | sentAll k d hd hloop h =>
    subst h
    exact fun _ _ => rfl

/-- A step that leaves the gateways as they are is quiet. -/
theorem quiet_of_kept {p : Plant} {a : Label}
    (h : ∀ p', step parseDuration p a = some p' → p'.gateways = p.gateways) :
    Quiet parseDuration p a := by
  intro p' hp' g _
  rw [h p' hp']

/-- A loop that returns changes no gateway. -/
theorem loopExit_gateways {p p' : Plant} {k : Nat} {d d' : Device}
    (h : loopExit parseDuration p k d d' = some p') : p'.gateways = p.gateways := by
  obtain ⟨w, -, rfl⟩ := Option.map_eq_some_iff.mp h
  rfl

/-- **One step** is quiet exactly if nothing late happens in it. -/
theorem quiet_step_iff {p : Plant} (hp : Sound p) (a : Label) :
    Quiet parseDuration p a ↔ NoneLate p a := by
  cases a with
  | server a =>
    refine iff_of_true (quiet_of_kept fun p' h => ?_) trivial
    obtain ⟨-, w, -, rfl⟩ := server_cases h
    rfl
  | newGateway r i =>
    refine iff_of_true (fun p' h => ?_) trivial
    obtain rfl := newGateway_cases h
    rintro g ⟨gw, hgw, -⟩
    exact List.getElem?_append_left (List.getElem?_eq_some_iff.mp hgw).1
  | newDevice r i gateways latencyMs =>
    refine iff_of_true (quiet_of_kept fun p' h => ?_) trivial
    obtain ⟨-, w, -, rfl⟩ := newDevice_cases h
    rfl
  | sendUplink k => exact iff_of_true (fun p' h => serves_quiet hp (sendUplink_cases h)) trivial
  | toGateway k lost => exact iff_of_true (fun p' h => serves_quiet hp (toGateway_cases h)) trivial
  | published k sent => exact iff_of_true (fun p' h => serves_quiet hp (published_cases h)) trivial
  | sentAll k => exact iff_of_true (fun p' h => serves_quiet hp (sentAll_cases h)) trivial
  | uplinkLoopExit k =>
    refine iff_of_true (quiet_of_kept fun p' h => ?_) trivial
    obtain ⟨d, -, -, hexit⟩ := uplinkLoopExit_cases h
    exact loopExit_gateways hexit
  | downlinkLoopExit k =>
    refine iff_of_true (quiet_of_kept fun p' h => ?_) trivial
    obtain ⟨d, -, -, hexit⟩ := downlinkLoopExit_cases h
    exact loopExit_gateways hexit
  | fire j => exact (late_fire p j).unchanged_iff_of_ne countUplink_ne
  | delayedPublished j sent =>
    rw [(late_delayedPublished p j sent).unchanged_iff]
    simp only [publishUplink_eq_iff]
    constructor
    · rintro hunsent rfl g hg ⟨gw, hgw, hended⟩
      exact absurd (hunsent g hg ⟨gw, hgw, hended⟩ gw hgw) (by decide)
    · intro hnot g hg hidle gw _
      -- a frame that is not sent may be late
      cases sent with
      | false => rfl
      | true => exact absurd hidle (hnot rfl g hg)
  | downlink g =>
    rw [(late_downlink p g).unchanged_iff_of_ne countDownlink_ne]
    constructor
    · rintro hnot ⟨gw, hgw, hended⟩
      exact hnot g (by rw [hgw]; rfl) ⟨gw, hgw, hended⟩
    · intro hnot g' hg'
      obtain ⟨gw, -, rfl⟩ := Option.map_eq_some_iff.mp hg'
      exact hnot
  | ack j sent => exact (late_ack p j sent).unchanged_iff_of_ne (sendDownlinkTxAck_ne sent)

/-! ## What is left behind -/

/-- The gateway is there, and its run is not idle. -/
def Open (p : Plant) (g : Nat) : Prop := ∃ gw, p.gateways[g]? = some gw ∧ gw.run ∉ p.ended

/-- An open gateway is not one of an idle run, and the other way round. -/
theorem Open.not_idle {p : Plant} {g : Nat} (h : Open p g) : ¬ Idle p g := by
  obtain ⟨gw, hgw, hrun⟩ := h
  rintro ⟨gw', hgw', hended⟩
  obtain rfl := Option.some.inj (hgw.symm.trans hgw')
  exact hrun hended

theorem open_of_not_idle {p : Plant} {g : Nat} {gw : Gateway} (hgw : p.gateways[g]? = some gw)
    (h : ¬ Idle p g) : Open p g :=
  ⟨gw, hgw, fun hended => h ⟨gw, hgw, hended⟩⟩

/-- A gateway a device is sending through is open. -/
theorem Sound.open_of_sending {p : Plant} (hp : Sound p) {d : Device} (hd : d ∈ p.devices)
    (hloop : d.uplinkLoop ≠ .left) {g : Nat} (hg : g ∈ d.gateways) : Open p g := by
  obtain ⟨gw, hgw, -⟩ := hp.gateways d hd g hg
  exact open_of_not_idle hgw (hp.not_idle hd hloop hg)

/-- A gateway that counts or publishes stays open, and so does every other one. -/
theorem Open.onGateway {p : Plant} {g : Nat} (h : Open p g) (g' : Nat) {f : Gateway → Gateway}
    (hf : ∀ gw, (f gw).run = gw.run) : Open (p.onGateway g' f) g := by
  obtain ⟨gw, hgw, hrun⟩ := h
  by_cases hg : g' = g
  · refine ⟨f gw, ?_, by rw [hf]; exact hrun⟩
    rw [getElem?_onGateway, if_pos hg, hgw]
    rfl
  · refine ⟨gw, ?_, hrun⟩
    rw [getElem?_onGateway, if_neg hg, hgw]

/-- **What is under way is on open gateways.** -/
def Waited (p : Plant) : Prop := ∀ g ∈ p.pending, Open p g

/-- Nothing is under way at the start. -/
theorem waited_init : Waited init := fun _ hg => absurd hg List.not_mem_nil

/-- If nothing is late, nothing late happens in the next step. -/
theorem Waited.noneLate {p : Plant} (hw : Waited p) {a : Label} (ha : Settled p a) : NoneLate p a := by
  cases a with
  | fire j =>
    intro g hg
    exact (hw g (List.mem_append_left _ (List.mem_append_left _ (List.mem_of_getElem? hg)))).not_idle
  | delayedPublished j sent =>
    intro _ g hg
    exact (hw g (List.mem_append_left _ (List.mem_append_right _ (List.mem_of_getElem? hg)))).not_idle
  | ack j sent =>
    intro g hg
    exact (hw g (List.mem_append_right _ (List.mem_of_getElem? hg))).not_idle
  | downlink g => exact ha
  | server a => trivial
  | newGateway r i => trivial
  | newDevice r i gateways latencyMs => trivial
  | sendUplink k => trivial
  | toGateway k lost => trivial
  | published k sent => trivial
  | sentAll k => trivial
  | uplinkLoopExit k => trivial
  | downlinkLoopExit k => trivial

/-- Nothing new is under way, but for what starts on an open gateway. -/
theorem Waited.of_same {p p' : Plant} (hw : Waited p) (hgateways : p'.gateways = p.gateways)
    (hended : p'.ended = p.ended) (hpending : ∀ g ∈ p'.pending, g ∈ p.pending ∨ Open p g) :
    Waited p' := by
  intro g hg
  have hopen : Open p g := (hpending g hg).elim (hw g) id
  rwa [Open, hgateways, hended]

/-- Counting and publishing leave the gateways open. -/
theorem Waited.onGateway {p : Plant} (hw : Waited p) (g : Nat) {f : Gateway → Gateway}
    (hf : ∀ gw, (f gw).run = gw.run) : Waited (p.onGateway g f) :=
  fun h hh => (hw h hh).onGateway g hf

/-- A step of the server: a run becomes idle with nothing under way on its gateways. -/
theorem waited_server {p p' : Plant} {a : Lifecycle.Label} (hw : Waited p)
    (ha : Settled p (.server a)) (h : step parseDuration p (.server a) = some p') : Waited p' := by
  obtain ⟨-, w, -, rfl⟩ := server_cases h
  intro g hg
  obtain ⟨gw, hgw, hrun⟩ := hw g hg
  refine ⟨gw, hgw, fun hended => ?_⟩
  rcases mem_endedBy hended with hold | ⟨rfl, hends⟩
  · exact hrun hold
  · exact ha hends g hg gw hgw rfl

/-- A delayed send starts on a gateway of a device that is sending, which is open. -/
theorem waited_serves {p p' : Plant} {a : Label} (hp : Sound p) (hw : Waited p)
    (h : Serves p p' a) : Waited p' := by
  cases h with
  | sendUplink k d hd hloop h =>
    subst h
    exact hw.of_same rfl rfl fun g hg => .inl hg
  | skips k lost d g rest hd hloop timers htimers h =>
    subst h
    have hmem : d ∈ p.devices := List.mem_of_getElem? hd
    have hg : g ∈ d.gateways := (hp.sending d hmem _ _ hloop).1 g List.mem_cons_self
    have hopen := hp.open_of_sending hmem (by simp [hloop]) hg
    refine hw.of_same rfl rfl fun g' hg' => ?_
    have hg'' : g' ∈ timers ++ p.delayed ++ p.handlers := hg'
    rcases htimers with rfl | rfl
    · exact .inl hg''
    · simp only [List.mem_append, List.mem_singleton] at hg''
      unfold Plant.pending
      simp only [List.mem_append]
      rcases hg'' with ((hold | rfl) | hold) | hold
      · exact .inl (.inl (.inl hold))
      · exact .inr hopen
      · exact .inl (.inl (.inr hold))
      · exact .inl (.inr hold)
  | counts k lost d g rest hd hloop h =>
    subst h
    exact Waited.onGateway (hw.of_same rfl rfl fun g hg => .inl hg) g fun gw => rfl
  | published k sent d g rest hd hloop h =>
    subst h
    exact Waited.onGateway (hw.of_same rfl rfl fun g hg => .inl hg) g fun gw => rfl
  | sentAll k d hd hloop h =>
    subst h
    exact hw.of_same rfl rfl fun g hg => .inl hg

theorem waited_newGateway {p p' : Plant} {r i : Nat} (hw : Waited p)
    (h : step parseDuration p (.newGateway r i) = some p') : Waited p' := by
  obtain rfl := newGateway_cases h
  intro g hg
  obtain ⟨gw, hgw, hrun⟩ := hw g hg
  exact ⟨gw, Objects.append_kept hgw _, hrun⟩

/-- **Late steps**: what they leave under way was so before, or starts on an open gateway. -/
theorem Waited.late {p p' : Plant} {a : Label} {entry : Option Nat} {next : Nat → Plant}
    {f : Gateway → Gateway} (hw : Waited p)
    (hstep : step parseDuration p a = entry.map fun g => (next g).onGateway g f)
    (hgateways : ∀ g, (next g).gateways = p.gateways) (hended : ∀ g, (next g).ended = p.ended)
    (hpending : ∀ g, entry = some g → ∀ g' ∈ (next g).pending, g' ∈ p.pending ∨ Open p g')
    (hf : ∀ gw, (f gw).run = gw.run) (h : step parseDuration p a = some p') : Waited p' := by
  rw [hstep] at h
  obtain ⟨g, hg, rfl⟩ := Option.map_eq_some_iff.mp h
  exact (hw.of_same (hgateways g) (hended g) (hpending g hg)).onGateway g hf

theorem waited_fire {p p' : Plant} {j : Nat} (hw : Waited p)
    (h : step parseDuration p (.fire j) = some p') : Waited p' := by
  refine hw.late (step_fire p j) (fun g => rfl) (fun g => rfl) ?_ (fun gw => rfl) h
  intro g hg g' hg'
  have hg'' : g' ∈ p.timers.eraseIdx j ++ (p.delayed ++ [g]) ++ p.handlers := hg'
  refine .inl ?_
  unfold Plant.pending
  simp only [List.mem_append, List.mem_singleton] at hg'' ⊢
  rcases hg'' with (hold | hold | rfl) | hold
  · exact .inl (.inl (List.mem_of_mem_eraseIdx hold))
  · exact .inl (.inr hold)
  · exact .inl (.inl (List.mem_of_getElem? hg))
  · exact .inr hold

theorem waited_delayedPublished {p p' : Plant} {j : Nat} {sent : Bool} (hw : Waited p)
    (h : step parseDuration p (.delayedPublished j sent) = some p') : Waited p' := by
  refine hw.late (step_delayedPublished p j sent) (fun g => rfl) (fun g => rfl) ?_ (fun gw => rfl) h
  intro g _ g' hg'
  have hg'' : g' ∈ p.timers ++ p.delayed.eraseIdx j ++ p.handlers := hg'
  refine .inl ?_
  unfold Plant.pending
  simp only [List.mem_append] at hg'' ⊢
  exact hg''.imp_left (Or.imp_right List.mem_of_mem_eraseIdx)

theorem waited_ack {p p' : Plant} {j : Nat} {sent : Bool} (hw : Waited p)
    (h : step parseDuration p (.ack j sent) = some p') : Waited p' := by
  refine hw.late (step_ack p j sent) (fun g => rfl) (fun g => rfl) ?_ (fun gw => rfl) h
  intro g _ g' hg'
  have hg'' : g' ∈ p.timers ++ p.delayed ++ p.handlers.eraseIdx j := hg'
  refine .inl ?_
  unfold Plant.pending
  simp only [List.mem_append] at hg'' ⊢
  exact hg''.imp_right List.mem_of_mem_eraseIdx

/-- A command comes in on an open gateway. -/
theorem waited_downlink {p p' : Plant} {g : Nat} (hw : Waited p) (ha : ¬ Idle p g)
    (h : step parseDuration p (.downlink g) = some p') : Waited p' := by
  refine hw.late (step_downlink p g) (fun g => rfl) (fun g => rfl) ?_ (fun gw => rfl) h
  intro g₁ hg₁ g' hg'
  obtain ⟨gw, hgw, rfl⟩ := Option.map_eq_some_iff.mp hg₁
  have hg'' : g' ∈ p.timers ++ p.delayed ++ (p.handlers ++ [g]) := hg'
  unfold Plant.pending
  simp only [List.mem_append, List.mem_singleton] at hg'' ⊢
  rcases hg'' with hold | hold | rfl
  · exact .inl (.inl hold)
  · exact .inl (.inr hold)
  · exact .inr (open_of_not_idle hgw ha)

/-- A loop that returns ends no run by itself. -/
theorem waited_loopExit {p p' : Plant} {k : Nat} {d d' : Device} (hw : Waited p)
    (h : loopExit parseDuration p k d d' = some p') : Waited p' := by
  obtain ⟨w, -, rfl⟩ := Option.map_eq_some_iff.mp h
  exact hw.of_same rfl rfl fun g hg => .inl hg

/-- A settled step leaves nothing behind. -/
theorem waited_step {p p' : Plant} {a : Label} (hp : Sound p) (hw : Waited p) (ha : Settled p a)
    (h : step parseDuration p a = some p') : Waited p' := by
  cases a with
  | server a => exact waited_server hw ha h
  | newGateway r i => exact waited_newGateway hw h
  | newDevice r i gateways latencyMs =>
    obtain ⟨-, w, -, rfl⟩ := newDevice_cases h
    exact hw.of_same rfl rfl fun g hg => .inl hg
  | sendUplink k => exact waited_serves hp hw (sendUplink_cases h)
  | toGateway k lost => exact waited_serves hp hw (toGateway_cases h)
  | published k sent => exact waited_serves hp hw (published_cases h)
  | sentAll k => exact waited_serves hp hw (sentAll_cases h)
  | uplinkLoopExit k =>
    obtain ⟨d, -, -, hexit⟩ := uplinkLoopExit_cases h
    exact waited_loopExit hw hexit
  | downlinkLoopExit k =>
    obtain ⟨d, -, -, hexit⟩ := downlinkLoopExit_cases h
    exact waited_loopExit hw hexit
  | fire j => exact waited_fire hw h
  | delayedPublished j sent => exact waited_delayedPublished hw h
  | downlink g => exact waited_downlink hw ha h
  | ack j sent => exact waited_ack hw h

/-! ## The run law -/

/-- Steps that are settled are quiet. -/
theorem quiet_of_settled {p : Plant} (hp : Sound p) (hw : Waited p) {ls : List Label}
    (h : Always (step parseDuration) Settled p ls) :
    Always (step parseDuration) (Quiet parseDuration) p ls := by
  have hboth := (always_congr (I := fun p => Sound p ∧ Waited p)
    (H := fun p a => Settled p a ∧ Quiet parseDuration p a)
    (fun p a hI => ⟨fun ha => ⟨ha, (quiet_step_iff hI.1 a).mpr (hI.2.noneLate ha)⟩, And.left⟩)
    (fun p a p' hI ha hstep => ⟨sound_step hI.1 hstep, waited_step hI.1 hI.2 ha hstep⟩)
    ls ⟨hp, hw⟩).mp h
  exact hboth.mono fun _ _ => And.right

/-- What is under way on a gateway can be served in the next step, and not on one of an idle run. -/
theorem late_of_pending {p : Plant} {g : Nat} (hg : g ∈ p.pending) :
    ∃ a : Label, a.Late ∧ (NoneLate p a → ¬ Idle p g) := by
  unfold Plant.pending at hg
  simp only [List.mem_append] at hg
  rcases hg with (htimer | hdelayed) | hhandler
  · obtain ⟨j, hj⟩ := List.mem_iff_getElem?.mp htimer
    exact ⟨.fire j, trivial, fun h => h g hj⟩
  · obtain ⟨j, hj⟩ := List.mem_iff_getElem?.mp hdelayed
    exact ⟨.delayedPublished j true, trivial, fun h => h rfl g hj⟩
  · obtain ⟨j, hj⟩ := List.mem_iff_getElem?.mp hhandler
    exact ⟨.ack j true, trivial, fun h => h g hj⟩

/-- The step that makes a run idle can always be taken. -/
theorem ends_enabled {p : Plant} {r : Nat} (h : p.Ends r) :
    ∃ p', step parseDuration p (.server (.run r)) = some p' ∧ p'.pending = p.pending ∧
      p'.gateways = p.gateways ∧ r ∈ p'.ended := by
  obtain ⟨run, hrun, hdrained⟩ := h
  have hworld : ∃ w, Lifecycle.step parseDuration p.world (.run r) = some w := by
    simp only [Lifecycle.step, hrun, advance, hdrained]
    exact ⟨_, rfl⟩
  obtain ⟨w, hw⟩ := hworld
  refine ⟨{ p with world := w, ended := p.endedBy (.run r) }, ?_, rfl, rfl, ?_⟩
  · simp only [step]
    rw [if_pos (show p.Admits (.run r) from trivial), hw]
    rfl
  · show r ∈ p.endedBy (.run r)
    simp only [Plant.endedBy, hrun, hdrained, if_true]
    exact List.mem_append_right _ (List.mem_singleton_self r)

/-- A step whose run stays quiet, whatever is served after it, is settled. -/
theorem settled_of_quiet {p : Plant} {a : Label} (hp : Sound p)
    (h : ∀ late : List Label, (∀ b ∈ late, b.Late) →
      Always (step parseDuration) (Quiet parseDuration) p (a :: late)) : Settled p a := by
  cases a with
  | server a =>
    cases a with
    | run r =>
      rintro hends g hg gw hgw rfl
      obtain ⟨p', hstep, hpending, hgateways, hended⟩ := @ends_enabled parseDuration _ _ hends
      obtain ⟨b, hlate, hserves⟩ := late_of_pending (hpending.symm ▸ hg)
      have hquiet := ((h [b] fun c hc => List.mem_singleton.mp hc ▸ hlate).2 p' hstep).1
      exact hserves ((quiet_step_iff (sound_step hp hstep) b).mp hquiet)
        ⟨gw, by rw [hgateways]; exact hgw, hended⟩
    | start q => trivial
    | stop post => trivial
    | sim q j e => trivial
  | downlink g =>
    exact (quiet_step_iff hp (.downlink g)).mp (h [] fun b hb => absurd hb List.not_mem_nil).1
  | newGateway r i => trivial
  | newDevice r i gateways latencyMs => trivial
  | sendUplink k => trivial
  | toGateway k lost => trivial
  | published k sent => trivial
  | sentAll k => trivial
  | uplinkLoopExit k => trivial
  | downlinkLoopExit k => trivial
  | fire j => trivial
  | delayedPublished j sent => trivial
  | ack j sent => trivial

/-- Serving what was under way is settled. -/
theorem Label.Late.settled {a : Label} (h : a.Late) (p : Plant) : Settled p a := by
  cases a <;> trivial

/-- A run that stays quiet, whatever is served after any part of it, is settled. -/
theorem always_settled_of_quiet {p : Plant} (hp : Sound p) {ls : List Label}
    (h : ∀ k late, (∀ b ∈ late, Label.Late b) →
      Always (step parseDuration) (Quiet parseDuration) p (ls.take k ++ late)) :
    Always (step parseDuration) Settled p ls := by
  induction ls generalizing p with
  | nil => trivial
  | cons a ls ih =>
    refine ⟨settled_of_quiet hp fun late hlate => h 1 late hlate, fun p' hstep => ?_⟩
    exact ih (sound_step hp hstep) fun k late hlate => (h (k + 1) late hlate).2 p' hstep

/-- Serving what was under way after a part of a settled run is settled too. -/
theorem always_settled_late {p : Plant} {ls : List Label}
    (h : Always (step parseDuration) Settled p ls) (k : Nat) {late : List Label}
    (hlate : ∀ b ∈ late, Label.Late b) :
    Always (step parseDuration) Settled p (ls.take k ++ late) := by
  induction ls generalizing p k with
  | nil =>
    rw [List.take_nil, List.nil_append]
    exact (always_of_forall_mem hlate).mono fun p b hb => hb.settled p
  | cons a ls ih =>
    cases k with
    | zero => exact (always_of_forall_mem hlate).mono fun p b hb => hb.settled p
    | succ k => exact ⟨h.1, fun p' hstep => ih (h.2 p' hstep) k⟩

/-- **Quiescence after idle**: along every run of the plant, whatever the requests, the configurations,
    the latencies and the order of the steps, no gateway of a run that has become idle changes, if every
    run becomes idle with nothing pending on its gateways and no command comes in on them afterwards.

    Nothing less is enough: the runs that stay quiet however what they have left behind is served, after
    any part of the run, are the settled ones. -/
theorem quiet_iff (parseDuration : String → Except String Int) (ls : List Label) :
    (Always (step parseDuration) Settled init ls →
      Always (step parseDuration) (Quiet parseDuration) init ls) ∧
    ((∀ k late, (∀ b ∈ late, Label.Late b) →
        Always (step parseDuration) (Quiet parseDuration) init (ls.take k ++ late)) ↔
      Always (step parseDuration) Settled init ls) := by
  refine ⟨quiet_of_settled sound_init waited_init, always_settled_of_quiet sound_init, ?_⟩
  intro hsettled k late hlate
  exact quiet_of_settled sound_init waited_init (always_settled_late hsettled k hlate)

/-! ## One device with a latency -/

/-- One gateway and one device, which delays a frame; then the run is stopped and becomes idle. -/
def becomesIdle : List Label :=
  [.server (.start ⟨true, .ok .empty, .ok [discoveredEntry "acme" "sensors" "0a"], 0⟩),
    .server (.run 0), .server (.run 0), .server (.run 0), .server (.sim 0 0 .initDone),
    .newGateway 0 0, .newDevice 0 0 [0] 200, .sendUplink 0, .toGateway 0 false, .sentAll 0,
    .server (.stop true), .uplinkLoopExit 0, .downlinkLoopExit 0, .server (.sim 0 0 .returnDone),
    .server (.sim 0 0 .wgDone), .server (.run 0), .server (.run 0)]

/-- The run is idle; then the delayed send is counted and published, or a command is counted and
    acknowledged. -/
theorem not_quiet : ∃ p, exec (step fun _ => .ok second) init becomesIdle = some p ∧
    p.ended = [0] ∧ p.gateways = [Gateway.new 0 0] ∧
    (∃ q, exec (step fun _ => .ok second) p [.fire 0, .delayedPublished 0 true] = some q ∧
      q.gateways.map Gateway.uplinks = [1]) ∧
    (∃ q, exec (step fun _ => .ok second) p [.downlink 0, .ack 0 true] = some q ∧
      q.gateways.map Gateway.acks = [1]) ∧
    ¬ Always (step fun _ => .ok second) (Quiet fun _ => .ok second) init (becomesIdle ++ [.fire 0]) ∧
    ¬ Always (step fun _ => .ok second) (Quiet fun _ => .ok second) init
      (becomesIdle ++ [.downlink 0]) := by
  have hrun : exec (step fun _ => .ok second) init becomesIdle = some _ := rfl
  refine ⟨_, hrun, rfl, rfl, ⟨_, rfl, rfl⟩, ⟨_, rfl, rfl⟩, fun h => ?_, fun h => ?_⟩
  · have hsame := (h.drop hrun).1 _ rfl 0 ⟨_, rfl, List.mem_singleton_self _⟩
    cases hsame
  · have hsame := (h.drop hrun).1 _ rfl 0 ⟨_, rfl, List.mem_singleton_self _⟩
    cases hsame

end ChirpStackSimulator.Quiescence
