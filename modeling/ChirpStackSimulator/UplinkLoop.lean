/-
  The uplink loop of a device (`Device.uplinkLoop`).

  The loop joins until the device is activated and then calls `dataUp` once per interval.  With an
  `uplinkCount` it leaves once the frame counter has reached it.  Commands, downlinks and the
  cancellation of the device's context come in between any two of its steps.

  1. **`Slot`** — a device with its loop and the log of its uplinks: the frames it built and the
     uplinks it dropped, oldest first.
  2. **`step`** — one step of the loop, or of what goes on beside it.  A call of `dataUp` is as many
     steps as it has critical sections.
  3. **Inversion** — `step_cases` says once what a step can do to the device, the loop and the log,
     with its guards; it is assembled from `go_cases` for the loop outside `dataUp` and `next_cases`
     for the sections.  Every invariant of a device in a run is derived from it, and none unfolds
     `step` again.
-/
import ChirpStackSimulator.DownlinkLoop
import ChirpStackSimulator.ManualAnomaly

namespace ChirpStackSimulator.UplinkLoop

open LoRaWAN DataUp Transition
open DownlinkLoop (SessionFields withSession)

/-! ## The loop -/

instance : DecidablePred Pc.Last
  | .idle => instDecidableFalse
  | .chosen c => inferInstanceAs (Decidable (c.anomaly = "dropout"))
  | .flatlined _ => instDecidableFalse
  | .driftRead _ _ => instDecidableFalse
  | .built _ => instDecidableFalse
  | .sealed _ _ => instDecidableTrue

/-- Where the loop stands. -/
inductive LoopPc where
  /-- Before `otaaDelay` is over. -/
  | delayed
  /-- At the head of the loop. -/
  | head
  /-- It has seen `deviceStateOTAA`. -/
  | joining
  /-- In the six seconds after a join-request. -/
  | joined
  /-- It has seen `deviceStateActivated`. -/
  | calling
  /-- In `dataUp`, between two critical sections. -/
  | inDataUp (pc : Pc)
  /-- At the end of `dataUp`, before the metric is incremented. -/
  | counting
  /-- `dataUp` has returned. -/
  | returned
  /-- In the second before it leaves. -/
  | lingering
  /-- In the interval between two uplinks. -/
  | waiting
  | left
  deriving DecidableEq

/-- An uplink: a frame that was built, as it was before it was sealed, with the anomaly it was built
    under; or a dropped one. -/
inductive Entry where
  | frame (phy : PHYPayload) (c : Choice)
  | dropout
  deriving DecidableEq

/-- A `Device` object with its loop. -/
structure Slot where
  device : Device
  tenantID : String
  loop : LoopPc
  /-- Its context was cancelled before the loop had left. -/
  cancelled : Bool
  /-- Its uplinks, oldest first. -/
  log : List Entry
  deriving DecidableEq

/-- `NewDevice`: the loop is started with the device. -/
def newSlot (d : { d : Device // d.Fresh }) (tenantID : String) (otaaDelay : Bool) : Slot where
  device := d
  tenantID := tenantID
  loop := if otaaDelay then .delayed else .head
  cancelled := false
  log := []

inductive LoopStep where
  /-- The loop goes on: a wait is over, or the next statement is executed. -/
  | go
  /-- A `select` takes `ctx.Done()`. -/
  | done
  /-- `joinRequest`; `rand` are the two bytes `getDevNonce` reads. -/
  | joinRequest (rand : UInt16)
  /-- The first critical section of `dataUp`. -/
  | choose (r : Draws)
  /-- The next one; the script may return anything. -/
  | next (runScript : String → ScriptEnv → ScriptResult) (nowNs : Nat)
  /-- An anomaly request for the device. -/
  | command (req : AnomalyRequest)
  /-- The downlink loop changes the session. -/
  | session (f : SessionFields)
  /-- The simulation cancels its context. -/
  | cancel

namespace Slot

/-- The loop goes on. -/
def go (s : Slot) : Option Slot :=
  match s.loop with
  | .delayed => some { s with loop := .head }
  -- `ctx.Done()` is looked at before the state, and taken if it can be
  | .head =>
    if s.cancelled then none
    else some { s with loop := if s.device.state = .otaa then .joining else .calling }
  | .joined => some { s with loop := .head }
  | .counting => some { s with loop := .returned }
  | .returned =>
    some { s with
      loop :=
        if s.device.uplinkCount ≠ 0 ∧ s.device.uplinkCount ≤ s.device.fCntUp then .lingering
        else .waiting }
  | .lingering => some { s with loop := .left }
  | .waiting => some { s with loop := .head }
  | _ => none

/-- Whether the loop stands at a `select` with `ctx.Done()`. -/
def Selects (s : Slot) : Prop :=
  s.loop = .delayed ∨ s.loop = .head ∨ s.loop = .joined ∨ s.loop = .lingering ∨ s.loop = .waiting

instance (s : Slot) : Decidable s.Selects := by unfold Selects; infer_instance

section
variable (lib : Library)

/-- What the next critical section of `dataUp` adds to the log. -/
def entry (d : Device) : Pc → List Entry
  | .chosen c => if c.anomaly = "dropout" then [.dropout] else []
  | .built c =>
    match sealFrame lib d with
    | .error _ => []
    | .ok _ => [.frame (dataFrame d) c]
  | _ => []

/-- The next critical section of `dataUp`.  After the last one of a dropped or a sent uplink the
    metric is incremented; a frame that cannot be sealed is not counted. -/
def next (s : Slot) (runScript : String → ScriptEnv → ScriptResult) (nowNs : Nat) (pc : Pc) :
    Slot :=
  let o := goOn lib runScript nowNs (s.device, pc)
  { s with
    device := o.1
    loop := if o.2 ≠ .idle then .inDataUp o.2 else if pc.Last then .counting else .returned
    log := s.log ++ entry lib s.device pc }

/-- One step of the loop, or of what goes on beside it. -/
def step (s : Slot) : LoopStep → Option Slot
  | .go => s.go
  | .done => if s.cancelled ∧ s.Selects then some { s with loop := .left } else none
  | .joinRequest rand =>
    if s.loop = .joining then
      some { s with device := Join.getDevNonce s.device rand, loop := .joined }
    else none
  | .choose r =>
    if s.loop = .calling then
      some { s with
        device := (chooseAnomaly s.device r).1
        loop := .inDataUp (.chosen (chooseAnomaly s.device r).2) }
    else none
  | .next runScript nowNs =>
    match s.loop with
    | .inDataUp pc => some (s.next lib runScript nowNs pc)
    | _ => none
  | .command req =>
    match req.apply s.device with
    | none => some s
    | some d => some { s with device := d }
  | .session f => some { s with device := withSession s.device f }
  | .cancel => if s.loop = .left then some s else some { s with cancelled := true }

end

/-! ## What the loop can do outside `dataUp` -/

/-- Where the loop can go on to. -/
inductive Moves (s : Slot) : LoopPc → Prop where
  | delayOver (h : s.loop = .delayed) : Moves s .head
  | otaa (h : s.loop = .head) (hstate : s.device.state = .otaa) : Moves s .joining
  | activated (h : s.loop = .head) (hstate : s.device.state = .activated) : Moves s .calling
  | joinOver (h : s.loop = .joined) : Moves s .head
  | counted (h : s.loop = .counting) : Moves s .returned
  | reached (h : s.loop = .returned) (hcount : s.device.uplinkCount ≠ 0)
      (hle : s.device.uplinkCount ≤ s.device.fCntUp) : Moves s .lingering
  | goesOn (h : s.loop = .returned)
      (hlt : s.device.uplinkCount ≠ 0 → s.device.fCntUp < s.device.uplinkCount) : Moves s .waiting
  | leaves (h : s.loop = .lingering) : Moves s .left
  | intervalOver (h : s.loop = .waiting) : Moves s .head

/-- **What the loop can do outside `dataUp`**: only its own place changes. -/
theorem go_cases {s s' : Slot} (h : s.go = some s') :
    ∃ loop, s' = { s with loop := loop } ∧ Moves s loop := by
  unfold go at h
  split at h
  · rename_i hloop
    exact ⟨_, (Option.some.inj h).symm, .delayOver hloop⟩
  · rename_i hloop
    split at h
    · exact absurd h (by simp)
    · refine ⟨_, (Option.some.inj h).symm, ?_⟩
      cases hstate : s.device.state with
      | otaa => exact .otaa hloop hstate
      | activated => exact .activated hloop hstate
  · rename_i hloop
    exact ⟨_, (Option.some.inj h).symm, .joinOver hloop⟩
  · rename_i hloop
    exact ⟨_, (Option.some.inj h).symm, .counted hloop⟩
  · rename_i hloop
    refine ⟨_, (Option.some.inj h).symm, ?_⟩
    by_cases hreached : s.device.uplinkCount ≠ 0 ∧ s.device.uplinkCount ≤ s.device.fCntUp
    · rw [if_pos hreached]
      exact .reached hloop hreached.1 hreached.2
    · rw [if_neg hreached]
      exact .goesOn hloop fun hcount => UInt32.not_le.mp fun hle => hreached ⟨hcount, hle⟩
  · rename_i hloop
    exact ⟨_, (Option.some.inj h).symm, .leaves hloop⟩
  · rename_i hloop
    exact ⟨_, (Option.some.inj h).symm, .intervalOver hloop⟩
  · exact absurd h (by simp)

theorem Moves.outside {s : Slot} {loop : LoopPc} (h : Moves s loop) :
    (∀ pc, s.loop ≠ .inDataUp pc) ∧ ∀ pc, loop ≠ .inDataUp pc := by
  cases h <;> simp [*]

theorem Selects.outside {s : Slot} (h : s.Selects) : ∀ pc, s.loop ≠ .inDataUp pc := by
  rcases h with h | h | h | h | h <;> simp [h]

/-! ## What a critical section can do -/

/-- What the next critical section of `dataUp` can do to the slot. -/
inductive Goes (lib : Library) (runScript : String → ScriptEnv → ScriptResult) (nowNs : Nat)
    (s : Slot) : Pc → Slot → Prop where
  | idle : Goes lib runScript nowNs s .idle { s with loop := .returned }
  | dropped (c : Choice) (hdrop : c.anomaly = "dropout") :
    Goes lib runScript nowNs s (.chosen c)
      { s with
        device := dropoutSection s.device c.isManual
        loop := .counting
        log := s.log ++ [.dropout] }
  | repeated (c : Choice) (hdrop : c.anomaly ≠ "dropout") (hflat : FlatlineApplies s.device c) :
    Goes lib runScript nowNs s (.chosen c)
      { s with
        device := { s.device with payload := s.device.lastPayload }
        loop := .inDataUp (.built c) }
  | notRepeated (c : Choice) (hdrop : c.anomaly ≠ "dropout")
      (hflat : ¬ FlatlineApplies s.device c) :
    Goes lib runScript nowNs s (.chosen c) { s with loop := .inDataUp (.flatlined c) }
  | readDrift (c : Choice) :
    Goes lib runScript nowNs s (.flatlined c)
      { s with loop := .inDataUp (.driftRead c s.device.driftAccumulated) }
  | made (c : Choice) (drift : Nat) :
    Goes lib runScript nowNs s (.driftRead c drift)
      { s with
        device := { s.device with payload := newPayload runScript s.device c drift nowNs }
        loop := .inDataUp (.built c) }
  | notSealed (c : Choice) (e : String) (hseal : sealFrame lib s.device = .error e) :
    Goes lib runScript nowNs s (.built c) { s with loop := .returned }
  | sealed (c : Choice) (phy : PHYPayload) (hseal : sealFrame lib s.device = .ok phy) :
    Goes lib runScript nowNs s (.built c)
      { s with
        loop := .inDataUp (.sealed c phy)
        log := s.log ++ [.frame (dataFrame s.device) c] }
  | finished (c : Choice) (phy : PHYPayload) :
    Goes lib runScript nowNs s (.sealed c phy)
      { s with device := finishSection s.device c, loop := .counting }

/-- **What a critical section can do.** -/
theorem next_cases (lib : Library) (s : Slot) (runScript : String → ScriptEnv → ScriptResult)
    (nowNs : Nat) (pc : Pc) : Goes lib runScript nowNs s pc (s.next lib runScript nowNs pc) := by
  cases pc with
  | idle =>
    have h : s.next lib runScript nowNs .idle = { s with loop := .returned } := by
      simp [next, goOn, Pc.Last, entry]
    exact h ▸ .idle
  | chosen c =>
    by_cases hdrop : c.anomaly = "dropout"
    · have h : s.next lib runScript nowNs (.chosen c) =
          { s with
            device := dropoutSection s.device c.isManual
            loop := .counting
            log := s.log ++ [.dropout] } := by
        simp [next, goOn, Pc.Last, entry, hdrop]
      exact h ▸ .dropped c hdrop
    · by_cases hflat : FlatlineApplies s.device c
      · have h : s.next lib runScript nowNs (.chosen c) =
            { s with
              device := { s.device with payload := s.device.lastPayload }
              loop := .inDataUp (.built c) } := by
          simp [next, goOn, entry, hdrop, hflat]
        exact h ▸ .repeated c hdrop hflat
      · have h : s.next lib runScript nowNs (.chosen c) =
            { s with loop := .inDataUp (.flatlined c) } := by
          simp [next, goOn, entry, hdrop, hflat]
        exact h ▸ .notRepeated c hdrop hflat
  | flatlined c =>
    have h : s.next lib runScript nowNs (.flatlined c) =
        { s with loop := .inDataUp (.driftRead c s.device.driftAccumulated) } := by
      simp [next, goOn, entry]
    exact h ▸ .readDrift c
  | driftRead c drift =>
    have h : s.next lib runScript nowNs (.driftRead c drift) =
        { s with
          device := { s.device with payload := newPayload runScript s.device c drift nowNs }
          loop := .inDataUp (.built c) } := by
      simp [next, goOn, entry]
    exact h ▸ .made c drift
  | built c =>
    cases hseal : sealFrame lib s.device with
    | error e =>
      have h : s.next lib runScript nowNs (.built c) = { s with loop := .returned } := by
        simp [next, goOn, Pc.Last, entry, hseal]
      exact h ▸ .notSealed c e hseal
    | ok phy =>
      have h : s.next lib runScript nowNs (.built c) =
          { s with
            loop := .inDataUp (.sealed c phy)
            log := s.log ++ [.frame (dataFrame s.device) c] } := by
        simp [next, goOn, entry, hseal]
      exact h ▸ .sealed c phy hseal
  | sealed c phy =>
    have h : s.next lib runScript nowNs (.sealed c phy) =
        { s with device := finishSection s.device c, loop := .counting } := by
      simp [next, goOn, Pc.Last, entry]
    exact h ▸ .finished c phy

/-! ## What a step can do -/

/-- What a step of the loop, or of what goes on beside it, can do to the slot, with its guards. -/
inductive Steps (lib : Library) (s : Slot) : LoopStep → Slot → Prop where
  | go (loop : LoopPc) (hmoves : s.Moves loop) : Steps lib s .go { s with loop := loop }
  | done (hcancelled : s.cancelled = true) (hselects : s.Selects) :
    Steps lib s .done { s with loop := .left }
  | joinRequest (rand : UInt16) (hloop : s.loop = .joining) :
    Steps lib s (.joinRequest rand)
      { s with device := Join.getDevNonce s.device rand, loop := .joined }
  | choose (r : Draws) (hloop : s.loop = .calling) :
    Steps lib s (.choose r)
      { s with
        device := (chooseAnomaly s.device r).1
        loop := .inDataUp (.chosen (chooseAnomaly s.device r).2) }
  | next (runScript : String → ScriptEnv → ScriptResult) (nowNs : Nat) (pc : Pc)
      (hloop : s.loop = .inDataUp pc) :
    Steps lib s (.next runScript nowNs) (s.next lib runScript nowNs pc)
  | refused (req : AnomalyRequest) : Steps lib s (.command req) s
  | command (req : AnomalyRequest) (anomalyType : String) (active : Bool) :
    Steps lib s (.command req) { s with device := s.device.setManualAnomaly anomalyType active }
  | session (f : SessionFields) :
    Steps lib s (.session f) { s with device := withSession s.device f }
  | cancelledLate (hloop : s.loop = .left) : Steps lib s .cancel s
  | cancel (hloop : s.loop ≠ .left) : Steps lib s .cancel { s with cancelled := true }

/-- **What a step can do.** -/
theorem step_cases {lib : Library} {s s' : Slot} {a : LoopStep} (h : s.step lib a = some s') :
    Steps lib s a s' := by
  cases a with
  | go =>
    obtain ⟨loop, rfl, hmoves⟩ := go_cases h
    exact .go loop hmoves
  | done =>
    simp only [step] at h
    split at h
    · rename_i hselects
      obtain rfl := Option.some.inj h
      exact .done hselects.1 hselects.2
    · exact absurd h (by simp)
  | joinRequest rand =>
    simp only [step] at h
    split at h
    · rename_i hloop
      obtain rfl := Option.some.inj h
      exact .joinRequest rand hloop
    · exact absurd h (by simp)
  | choose r =>
    simp only [step] at h
    split at h
    · rename_i hloop
      obtain rfl := Option.some.inj h
      exact .choose r hloop
    · exact absurd h (by simp)
  | next runScript nowNs =>
    simp only [step] at h
    split at h
    · rename_i pc hloop
      obtain rfl := Option.some.inj h
      exact .next runScript nowNs pc hloop
    · exact absurd h (by simp)
  | command req =>
    simp only [step] at h
    split at h
    · obtain rfl := Option.some.inj h
      exact .refused req
    · rename_i d hd
      obtain ⟨anomalyType, active, rfl⟩ := apply_setManual hd
      obtain rfl := Option.some.inj h
      exact .command req anomalyType active
  | session f =>
    obtain rfl := Option.some.inj h
    exact .session f
  | cancel =>
    simp only [step] at h
    split at h
    · rename_i hloop
      obtain rfl := Option.some.inj h
      exact .cancelledLate hloop
    · rename_i hloop
      obtain rfl := Option.some.inj h
      exact .cancel hloop

end Slot

end ChirpStackSimulator.UplinkLoop
