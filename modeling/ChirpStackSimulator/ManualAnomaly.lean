/-
  Manual anomaly commands against running uplinks.

  A call of `dataUp` reads the command in its first critical section and clears a one-shot in its
  last, and in between it runs the user's script.  The last section does not look at what it clears:
  a command accepted in the meantime is cleared unserved.

  1. **System** — one device, at most one call of `dataUp` under way, commands at any time; every
     critical section and every command is one step.  The history keeps the accepted commands and,
     for each call, how many there were when it chose and whether the last one governed it.
  2. **Service** (`Served`) — a one-shot governs exactly one call, if one begins before the next
     command; a flatline or drift command stays in force; no clean-up touches a command accepted
     after its call chose.
  3. `served_iff`: commands are served along a run exactly when no one-shot is cleaned up after a
     later start was accepted that still stands.
-/
import ChirpStackSimulator.AnomalyDuration
import ChirpStackSimulator.Lib.Objects
import ChirpStackSimulator.Lib.Run

namespace ChirpStackSimulator.DataUp

open LoRaWAN Transition

/-! ## The system -/

/-- A call of `dataUp`, seen from its first critical section. -/
structure Attempt where
  /-- Commands accepted before. -/
  commands : Nat
  /-- It is governed by the last of them. -/
  manual : Bool
  deriving DecidableEq

structure System where
  device : Device
  pc : Pc
  /-- The accepted commands, oldest first. -/
  commands : List AnomalyRequest
  /-- Commands accepted before the call under way chose. -/
  seen : Nat
  attempts : List Attempt

inductive Step where
  /-- The first critical section of a call. -/
  | choose (r : Draws)
  /-- The next critical section of the call under way. -/
  | next (nowNs : Nat)
  /-- `handleDeviceAnomaly`, from the look-up of the device on. -/
  | command (req : AnomalyRequest)

/-- A call begins. -/
def System.choose (s : System) (r : Draws) : System :=
  { s with
    device := (chooseAnomaly s.device r).1
    pc := .chosen (chooseAnomaly s.device r).2
    seen := s.commands.length
    attempts := s.attempts ++ [⟨s.commands.length, (chooseAnomaly s.device r).2.isManual⟩] }

section
variable (lib : Library) (runScript : String → ScriptEnv → ScriptResult)

/-- One step of the system. -/
def step (s : System) : Step → Option System
  | .choose r => if s.pc = .idle then some (s.choose r) else none
  | .next nowNs =>
    -- without a call under way there is nothing to go on with
    if s.pc = .idle then none
    else
      let next := goOn lib runScript nowNs (s.device, s.pc)
      some { s with device := next.1, pc := next.2 }
  | .command req =>
    match req.apply s.device with
    | none => some s
    | some d => some { s with device := d, commands := s.commands ++ [req] }

end

/-! ## Service -/

/-- The command starts an anomaly. -/
def Starts (req : AnomalyRequest) : Prop := req.action ≠ "stop"

instance (req : AnomalyRequest) : Decidable (Starts req) := by unfold Starts; infer_instance

/-- It is for one uplink. -/
def OneShot (anomalyType : String) : Prop := anomalyType = "spike" ∨ anomalyType = "dropout"

instance (t : String) : Decidable (OneShot t) := by unfold OneShot; infer_instance

/-- It stays until a stop. -/
def Lasting (anomalyType : String) : Prop := anomalyType = "flatline" ∨ anomalyType = "drift"

/-- Calls that began when `n` commands had been accepted. -/
def System.begun (s : System) (n : Nat) : Nat := s.attempts.countP fun a => a.commands = n

/-- Those of them the last of the `n` commands governs. -/
def System.governed (s : System) (n : Nat) : Nat :=
  s.attempts.countP fun a => a.commands = n ∧ a.manual = true

/-- The one-shots govern one call each, the first that begins before the next command. -/
def OneShotsServed (s : System) : Prop :=
  ∀ (k : Nat) (req : AnomalyRequest), s.commands[k]? = some req → Starts req → OneShot req.type →
    s.governed (k + 1) = min 1 (s.begun (k + 1))

/-- A flatline or drift command that is the last one is in force. -/
def LastingInForce (s : System) : Prop :=
  ∀ req, s.commands.getLast? = some req → Starts req → Lasting req.type →
    s.device.manualAnomalyActive = true ∧ s.device.manualAnomalyType = req.type

section
variable (lib : Library) (runScript : String → ScriptEnv → ScriptResult)

/-- The step does not clear a command accepted after the call under way chose. -/
def KeepsLater (s : System) (a : Step) : Prop :=
  ∀ nowNs s', a = .next nowNs → step lib runScript s a = some s' → s.seen < s.commands.length →
    s'.device.manualAnomalyActive = s.device.manualAnomalyActive ∧
      s'.device.manualAnomalyType = s.device.manualAnomalyType

/-- **Commands are served** by the step. -/
def Served (s : System) (a : Step) : Prop :=
  KeepsLater lib runScript s a ∧
    ∀ s', step lib runScript s a = some s' → OneShotsServed s' ∧ LastingInForce s'

end

/-- The next critical section clears a manual one-shot. -/
def Pc.Clears : Pc → Prop
  | .chosen c => c.isManual = true ∧ c.anomaly = "dropout"
  | .sealed c _ => c.isManual = true ∧ OneShot c.anomaly
  | _ => False

instance : DecidablePred Pc.Clears
  | .idle => instDecidableFalse
  | .chosen c => inferInstanceAs (Decidable (c.isManual = true ∧ c.anomaly = "dropout"))
  | .flatlined _ => instDecidableFalse
  | .driftRead _ _ => instDecidableFalse
  | .built _ => instDecidableFalse
  | .sealed c _ => inferInstanceAs (Decidable (c.isManual = true ∧ OneShot c.anomaly))

/-- A one-shot is cleaned up with no start accepted since its call chose, or a stop after it. -/
def Punctual (s : System) : Step → Prop
  | .next _ => s.pc.Clears → s.seen < s.commands.length →
      ∀ req ∈ s.commands.getLast?, ¬ Starts req
  | _ => True

instance (s : System) : DecidablePred (Punctual s)
  | .choose _ => instDecidableTrue
  | .next _ => inferInstanceAs (Decidable (s.pc.Clears → s.seen < s.commands.length →
      ∀ req ∈ s.commands.getLast?, ¬ Starts req))
  | .command _ => instDecidableTrue

/-! ## What a step does to the manual fields -/

/-- The choice of the call under way. -/
def Pc.choice : Pc → Option Choice
  | .idle => none
  | .chosen c | .flatlined c | .driftRead c _ | .built c | .sealed c _ => some c

/-- The next critical section is the last one of the call. -/
def Pc.Last : Pc → Prop
  | .chosen c => c.anomaly = "dropout"
  | .sealed _ _ => True
  | _ => False

section
variable {lib : Library} {runScript : String → ScriptEnv → ScriptResult}

variable (lib runScript) in
/-- Only a clearing section touches the manual fields. -/
theorem goOn_manual (nowNs : Nat) (d : Device) (pc : Pc) :
    (pc.Clears → (goOn lib runScript nowNs (d, pc)).1.manualAnomalyActive = false ∧
      (goOn lib runScript nowNs (d, pc)).1.manualAnomalyType = "") ∧
    (¬ pc.Clears →
      (goOn lib runScript nowNs (d, pc)).1.manualAnomalyActive = d.manualAnomalyActive ∧
      (goOn lib runScript nowNs (d, pc)).1.manualAnomalyType = d.manualAnomalyType) := by
  cases pc with
  | idle => exact ⟨fun h => h.elim, fun _ => ⟨rfl, rfl⟩⟩
  | chosen c =>
    simp only [Pc.Clears, goOn]
    by_cases hdrop : c.anomaly = "dropout"
    · cases hman : c.isManual <;> simp [hdrop, dropoutSection, clearManual]
    · simp only [hdrop, and_false, false_implies, not_false_eq_true, true_implies, true_and,
        if_false]
      split <;> exact ⟨rfl, rfl⟩
  | flatlined c => exact ⟨fun h => h.elim, fun _ => ⟨rfl, rfl⟩⟩
  | driftRead c drift => exact ⟨fun h => h.elim, fun _ => ⟨rfl, rfl⟩⟩
  | built c =>
    refine ⟨fun h => h.elim, fun _ => ?_⟩
    simp only [goOn]
    split <;> exact ⟨rfl, rfl⟩
  | sealed c phy =>
    simp only [Pc.Clears, goOn, finishSection, OneShot]
    by_cases hnone : c.anomaly = ""
    · simp [hnone]
    · cases hman : c.isManual with
      | true =>
        by_cases hone : c.anomaly = "spike" ∨ c.anomaly = "dropout"
        · simp [hnone, hone, clearManual]
        · by_cases hdrift : c.anomaly = "drift" <;> simp [hnone, hone, hdrift]
      | false =>
        simp only [hnone, Bool.false_eq_true, false_and, false_implies, not_false_eq_true,
          true_implies, true_and, if_false, countDown]
        split <;> split <;> exact ⟨rfl, rfl⟩

variable (runScript) in
/-- If the library does not fail, a call goes on with its choice up to its last section. -/
theorem goOn_choice (hlib : Infallible lib) (nowNs : Nat) (d : Device) (pc : Pc) :
    (pc.Last → (goOn lib runScript nowNs (d, pc)).2 = .idle) ∧
    (¬ pc.Last → (goOn lib runScript nowNs (d, pc)).2.choice = pc.choice) := by
  cases pc with
  | idle => exact ⟨fun h => h.elim, fun _ => rfl⟩
  | chosen c =>
    simp only [Pc.Last, goOn]
    by_cases hdrop : c.anomaly = "dropout"
    · simp [hdrop]
    · simp only [hdrop, false_implies, not_false_eq_true, true_implies, true_and, if_false]
      split <;> rfl
  | flatlined c => exact ⟨fun h => h.elim, fun _ => rfl⟩
  | driftRead c drift => exact ⟨fun h => h.elim, fun _ => rfl⟩
  | built c =>
    obtain ⟨phy, hphy⟩ := hlib d
    exact ⟨fun h => h.elim, fun _ => by simp only [goOn, hphy]; rfl⟩
  | sealed c phy => exact ⟨fun _ => rfl, fun h => absurd trivial h⟩

/-! ## The invariant -/

/-- The manual fields, as `SetManualAnomaly` left them. -/
def Device.Manual (d : Device) (active : Bool) (anomalyType : String) : Prop :=
  d.manualAnomalyActive = active ∧ d.manualAnomalyType = anomalyType

/-- What stands in the manual fields after the last command: what it set, or nothing once a one-shot
    was served; in between, the call it governs is under way. -/
inductive Standing (s : System) (req : AnomalyRequest) : Prop where
  | stopped (hstop : ¬ Starts req) (hd : Device.Manual s.device false "")
  | lasting (hstart : Starts req) (hone : ¬ OneShot req.type)
      (hd : Device.Manual s.device true req.type)
  | unserved (hstart : Starts req) (hone : OneShot req.type)
      (hd : Device.Manual s.device true req.type) (hbegun : s.begun s.commands.length = 0)
  | serving (hstart : Starts req) (hone : OneShot req.type)
      (hd : Device.Manual s.device true req.type) (hbegun : s.begun s.commands.length = 1)
      (hpc : s.pc.choice = some ⟨req.type, true⟩)
  | served (hstart : Starts req) (hone : OneShot req.type)
      (hd : Device.Manual s.device false "") (hbegun : 0 < s.begun s.commands.length)

/-- The invariant of punctual runs. -/
structure Tracked (s : System) : Prop where
  oneShots : OneShotsServed s
  standing : ∀ req, s.commands.getLast? = some req → Standing s req
  untouched : s.commands = [] → s.device.manualAnomalyActive = false
  seen_le : s.seen ≤ s.commands.length
  attempts_le : ∀ a ∈ s.attempts, a.commands ≤ s.commands.length
  /-- The call under way is the last one that began. -/
  underWay : ∀ c, s.pc.choice = some c →
    (∀ a ∈ s.attempts, a.commands ≤ s.seen) ∧ 0 < s.begun s.seen
  /-- As long as no command follows, what the call chose still stands. -/
  chosen : ∀ c, s.pc.choice = some c → s.seen = s.commands.length → c.isManual = true →
    Device.Manual s.device true c.anomaly

/-- Calls that began with a command are none before the command is there. -/
theorem begun_eq_zero {s : System} {n m : Nat} (h : ∀ a ∈ s.attempts, a.commands ≤ m)
    (hn : m < n) : s.begun n = 0 := by
  refine List.countP_eq_zero.mpr fun a ha => ?_
  have := h a ha
  simp only [decide_eq_true_eq]
  omega

theorem governed_le_begun (s : System) (n : Nat) : s.governed n ≤ s.begun n :=
  List.countP_mono_left fun a _ h => by
    simp only [decide_eq_true_eq] at h ⊢
    exact h.1

/-- While a call is under way and a start was accepted since it chose, that start is active. -/
theorem Tracked.active {s : System} (hs : Tracked s) {c : Choice} (hc : s.pc.choice = some c)
    (hlater : s.seen < s.commands.length) {req : AnomalyRequest}
    (hreq : s.commands.getLast? = some req) (hstart : Starts req) :
    Device.Manual s.device true req.type := by
  have hnone : s.begun s.commands.length = 0 := begun_eq_zero (hs.underWay c hc).1 hlater
  cases hs.standing req hreq with
  | stopped hstop _ => exact absurd hstart hstop
  | lasting _ _ hd => exact hd
  | unserved _ _ hd _ => exact hd
  | serving _ _ hd _ _ => exact hd
  | served _ _ _ hbegun => omega

/-- A section that clears belongs to a call under way, governed by a one-shot. -/
theorem Pc.Clears.choice {pc : Pc} (h : pc.Clears) :
    ∃ c, pc.choice = some c ∧ c.isManual = true ∧ OneShot c.anomaly ∧ pc.Last := by
  cases pc with
  | idle => exact h.elim
  | chosen c => exact ⟨c, rfl, h.1, Or.inr h.2, h.2⟩
  | flatlined c => exact h.elim
  | driftRead c drift => exact h.elim
  | built c => exact h.elim
  | sealed c phy => exact ⟨c, rfl, h.1, h.2, trivial⟩

/-- The last section of a call governed by a manual one-shot clears it. -/
theorem Pc.Last.clears {pc : Pc} {anomalyType : String} (h : pc.Last)
    (hc : pc.choice = some ⟨anomalyType, true⟩) (hone : OneShot anomalyType) : pc.Clears := by
  cases pc with
  | idle => exact h.elim
  | chosen c =>
    obtain rfl := Option.some.inj hc
    exact ⟨rfl, h⟩
  | flatlined c => exact h.elim
  | driftRead c drift => exact h.elim
  | built c => exact h.elim
  | sealed c phy =>
    obtain rfl := Option.some.inj hc
    exact ⟨rfl, hone⟩

/-- A tracked state serves its commands. -/
theorem Tracked.lastingInForce {s : System} (hs : Tracked s) : LastingInForce s := by
  intro req hreq hstart hlast
  have hone : ¬ OneShot req.type := by
    rcases hlast with h | h <;> rw [h] <;> decide
  cases hs.standing req hreq with
  | stopped hstop _ => exact absurd hstart hstop
  | lasting _ _ hd => exact hd
  | unserved _ h _ _ => exact absurd h hone
  | serving _ h _ _ _ => exact absurd h hone
  | served _ h _ _ => exact absurd h hone

/-! ## The steps keep it -/

/-- A call is governed by the manual anomaly exactly when there is one. -/
theorem isManual_chooseAnomaly (d : Device) (r : Draws) :
    (chooseAnomaly d r).2.isManual = d.manualAnomalyActive := by
  rcases chooseAnomaly_cases d r with ⟨hm, hc⟩ | ⟨hm, -, hc⟩ | ⟨hm, -, -, hc⟩ | ⟨hm, -, -, hc⟩ <;>
    rw [hc, hm]

/-- Choosing leaves the manual fields alone. -/
theorem manual_chooseAnomaly {d : Device} {active : Bool} {anomalyType : String} (r : Draws)
    (h : Device.Manual d active anomalyType) :
    Device.Manual (chooseAnomaly d r).1 active anomalyType := by
  rcases chooseAnomaly_cases d r with ⟨-, hc⟩ | ⟨-, -, hc⟩ | ⟨-, -, -, hc⟩ | ⟨-, -, -, hc⟩ <;>
  · rw [hc]
    exact h

/-- What a manual anomaly makes a call choose. -/
theorem chooseAnomaly_of_manual {d : Device} {anomalyType : String} (r : Draws)
    (h : Device.Manual d true anomalyType) : chooseAnomaly d r = (d, ⟨anomalyType, true⟩) := by
  rw [← h.2]
  exact if_pos h.1

theorem begun_choose (s : System) (r : Draws) (n : Nat) :
    (s.choose r).begun n = s.begun n + if s.commands.length = n then 1 else 0 := by
  simp [System.begun, System.choose, List.countP_append, List.countP_singleton]

theorem governed_choose (s : System) (r : Draws) (n : Nat) :
    (s.choose r).governed n = s.governed n +
      if s.commands.length = n ∧ s.device.manualAnomalyActive = true then 1 else 0 := by
  simp [System.governed, System.choose, List.countP_append, List.countP_singleton,
    isManual_chooseAnomaly]

/-- The new call is the first one after the last command and governed by it, or neither. -/
theorem oneShotsServed_choose {s : System} (hs : Tracked s) (hidle : s.pc = .idle) (r : Draws) :
    OneShotsServed (s.choose r) := by
  intro k req hk hstart hone
  have hserved := hs.oneShots k req hk hstart hone
  rw [begun_choose, governed_choose]
  by_cases hlast : s.commands.length = k + 1
  · have hreq : s.commands.getLast? = some req := by
      rw [List.getLast?_eq_getElem?, hlast]
      exact hk
    have hle := governed_le_begun s (k + 1)
    cases hs.standing req hreq with
    | stopped hstop _ => exact absurd hstart hstop
    | lasting _ h _ => exact absurd hone h
    | unserved _ _ hd hzero =>
      rw [hlast] at hzero
      simp only [hlast, hd.1, and_self, if_true]
      omega
    | serving _ _ _ _ hpc =>
      rw [hidle] at hpc
      exact absurd hpc (by simp [Pc.choice])
    | served _ _ hd hpos =>
      rw [hlast] at hpos
      simp only [hlast, hd.1, Bool.false_eq_true, and_false, if_true, if_false]
      omega
  · simp only [hlast, false_and, if_false, Nat.add_zero]
    exact hserved

/-- An unserved one-shot is being served from now on; everything else stands as it did. -/
theorem standing_choose {s : System} {req : AnomalyRequest} (h : Standing s req)
    (hidle : s.pc = .idle) (r : Draws) : Standing (s.choose r) req := by
  cases h with
  | stopped hstop hd => exact .stopped hstop (manual_chooseAnomaly r hd)
  | lasting hstart hone hd => exact .lasting hstart hone (manual_chooseAnomaly r hd)
  | unserved hstart hone hd hzero =>
    refine .serving hstart hone (manual_chooseAnomaly r hd) ?_ ?_
    · show (s.choose r).begun s.commands.length = 1
      rw [begun_choose, hzero, if_pos rfl]
    · show some (chooseAnomaly s.device r).2 = _
      rw [chooseAnomaly_of_manual r hd]
  | serving _ _ _ _ hpc =>
    rw [hidle] at hpc
    exact absurd hpc (by simp [Pc.choice])
  | served hstart hone hd hpos =>
    refine .served hstart hone (manual_chooseAnomaly r hd) ?_
    show 0 < (s.choose r).begun s.commands.length
    rw [begun_choose]
    omega

theorem tracked_choose {s : System} (hs : Tracked s) (hidle : s.pc = .idle) (r : Draws) :
    Tracked (s.choose r) := by
  have hattempts : ∀ a ∈ (s.choose r).attempts, a.commands ≤ s.commands.length := by
    intro a ha
    rcases List.mem_append.mp ha with ha | ha
    · exact hs.attempts_le a ha
    · obtain rfl := List.mem_singleton.mp ha
      exact Nat.le_refl s.commands.length
  refine ⟨oneShotsServed_choose hs hidle r, ?_, ?_, Nat.le_refl _, hattempts, ?_, ?_⟩
  · intro req hreq
    exact standing_choose (hs.standing req hreq) hidle r
  · intro hnil
    exact (manual_chooseAnomaly r ⟨hs.untouched hnil, rfl⟩).1
  · intro c _
    refine ⟨hattempts, ?_⟩
    show 0 < (s.choose r).begun s.commands.length
    rw [begun_choose, if_pos rfl]
    omega
  · intro c hc _ hcm
    obtain rfl : (chooseAnomaly s.device r).2 = c := Option.some.inj hc
    rw [isManual_chooseAnomaly] at hcm
    have hman : Device.Manual s.device true s.device.manualAnomalyType := ⟨hcm, rfl⟩
    rw [chooseAnomaly_of_manual r hman]
    exact manual_chooseAnomaly r hman

/-- A call that goes on does so with the choice it had. -/
theorem choice_of_goOn (hlib : Infallible lib) {nowNs : Nat} {d : Device} {pc : Pc} {c : Choice}
    (h : (goOn lib runScript nowNs (d, pc)).2.choice = some c) : pc.choice = some c ∧ ¬ pc.Last := by
  obtain ⟨hlast, hon⟩ := goOn_choice runScript hlib nowNs d pc
  by_cases hl : pc.Last
  · rw [hlast hl] at h
    exact absurd h (by simp [Pc.choice])
  · exact ⟨(hon hl).symm.trans h, hl⟩

/-- A punctual section clears nothing but the one-shot its call served, or what a stop has cleared
    already. -/
theorem standing_next (hlib : Infallible lib) {s : System} (hs : Tracked s) {nowNs : Nat}
    (hp : Punctual s (.next nowNs)) {req : AnomalyRequest}
    (hreq : s.commands.getLast? = some req) :
    Standing { s with
      device := (goOn lib runScript nowNs (s.device, s.pc)).1
      pc := (goOn lib runScript nowNs (s.device, s.pc)).2 } req := by
  obtain ⟨hclear, hkeep⟩ := goOn_manual lib runScript nowNs s.device s.pc
  by_cases hcl : s.pc.Clears
  · obtain ⟨c, hc, hman, hone, -⟩ := hcl.choice
    have hd := hclear hcl
    rcases Nat.lt_or_eq_of_le hs.seen_le with hlater | hseen
    · -- a command came in between: it is a stop
      exact .stopped (hp hcl hlater req hreq) hd
    · -- the command the call was governed by is the last one still
      obtain ⟨hactive, htype⟩ := hs.chosen c hc hseen hman
      have hpos := (hs.underWay c hc).2
      rw [hseen] at hpos
      cases hs.standing req hreq with
      | stopped _ h => exact absurd (hactive.symm.trans h.1) (by decide)
      | lasting _ hnot h => exact absurd ((htype.symm.trans h.2) ▸ hone) hnot
      | unserved _ _ _ hzero => omega
      | serving hstart hone' _ _ _ => exact .served hstart hone' hd hpos
      | served _ _ h _ => exact absurd (hactive.symm.trans h.1) (by decide)
  · have hman : ∀ active t, Device.Manual s.device active t →
        Device.Manual (goOn lib runScript nowNs (s.device, s.pc)).1 active t :=
      fun active t h => ⟨(hkeep hcl).1.trans h.1, (hkeep hcl).2.trans h.2⟩
    cases hs.standing req hreq with
    | stopped hstop hd => exact .stopped hstop (hman _ _ hd)
    | lasting hstart hone hd => exact .lasting hstart hone (hman _ _ hd)
    | unserved hstart hone hd hzero => exact .unserved hstart hone (hman _ _ hd) hzero
    | serving hstart hone hd hbegun hpc =>
      -- the call is not at its end, which would clear what governs it
      have hl : ¬ s.pc.Last := fun hl => hcl (hl.clears hpc hone)
      have hon := (goOn_choice runScript hlib nowNs s.device s.pc).2 hl
      exact .serving hstart hone (hman _ _ hd) hbegun (hon.trans hpc)
    | served hstart hone hd hpos => exact .served hstart hone (hman _ _ hd) hpos

theorem tracked_next (hlib : Infallible lib) {s : System} (hs : Tracked s) {nowNs : Nat}
    (hp : Punctual s (.next nowNs)) :
    Tracked { s with
      device := (goOn lib runScript nowNs (s.device, s.pc)).1
      pc := (goOn lib runScript nowNs (s.device, s.pc)).2 } := by
  obtain ⟨hclear, hkeep⟩ := goOn_manual lib runScript nowNs s.device s.pc
  refine ⟨hs.oneShots, fun req hreq => standing_next hlib hs hp hreq, ?_, hs.seen_le,
    hs.attempts_le, ?_, ?_⟩
  · intro hnil
    by_cases hcl : s.pc.Clears
    · exact (hclear hcl).1
    · exact (hkeep hcl).1.trans (hs.untouched hnil)
  · intro c hc
    exact hs.underWay c (choice_of_goOn hlib hc).1
  · intro c hc hseen hman
    obtain ⟨hc', hl⟩ := choice_of_goOn hlib hc
    have hcl : ¬ s.pc.Clears := by
      intro h
      obtain ⟨-, -, -, -, hlast⟩ := h.choice
      exact hl hlast
    obtain ⟨ha, ht⟩ := hs.chosen c hc' hseen hman
    exact ⟨(hkeep hcl).1.trans ha, (hkeep hcl).2.trans ht⟩

/-- What an accepted command sets. -/
theorem apply_cases {req : AnomalyRequest} {d d' : Device} (h : req.apply d = some d') :
    (¬ Starts req ∧ Device.Manual d' false "") ∨ (Starts req ∧ Device.Manual d' true req.type) := by
  unfold AnomalyRequest.apply at h
  split at h
  · rename_i hstop
    obtain rfl := Option.some.inj h
    exact Or.inl ⟨fun hs => hs hstop, rfl, rfl⟩
  · rename_i hstop
    split at h
    · obtain rfl := Option.some.inj h
      exact Or.inr ⟨hstop, rfl, rfl⟩
    · exact absurd h (by simp)

theorem tracked_command {s : System} (hs : Tracked s) {req : AnomalyRequest} {d : Device}
    (h : req.apply s.device = some d) :
    Tracked { s with device := d, commands := s.commands ++ [req] } := by
  have hnone : s.begun (s.commands.length + 1) = 0 :=
    begun_eq_zero hs.attempts_le (Nat.lt_succ_self _)
  refine ⟨?_, ?_, ?_, ?_, ?_, hs.underWay, ?_⟩
  · intro k req' hk hstart hone
    rcases Objects.lookup_append.mp hk with hk | ⟨hk', -⟩
    · exact hs.oneShots k req' hk hstart hone
    · -- the new command governs nothing yet
      have hle := governed_le_begun s (k + 1)
      show s.governed (k + 1) = min 1 (s.begun (k + 1))
      rw [hk'] at hle ⊢
      omega
  · intro req' hreq'
    obtain rfl : req = req' := by simpa using hreq'
    rcases apply_cases h with ⟨hstop, hd⟩ | ⟨hstart, hd⟩
    · exact .stopped hstop hd
    · by_cases hone : OneShot req.type
      · refine .unserved hstart hone hd ?_
        show s.begun (s.commands ++ [req]).length = 0
        rw [List.length_append]
        exact hnone
      · exact .lasting hstart hone hd
  · exact fun hnil => absurd hnil (by simp)
  · have := hs.seen_le
    show s.seen ≤ (s.commands ++ [req]).length
    rw [List.length_append]
    omega
  · intro a ha
    have := hs.attempts_le a ha
    show a.commands ≤ (s.commands ++ [req]).length
    rw [List.length_append]
    omega
  · intro c _ hseen
    have := hs.seen_le
    have hseen' : s.seen = (s.commands ++ [req]).length := hseen
    rw [List.length_append, List.length_singleton] at hseen'
    omega

theorem tracked_step (hlib : Infallible lib) {s s' : System} {a : Step} (hs : Tracked s)
    (hp : Punctual s a) (h : step lib runScript s a = some s') : Tracked s' := by
  cases a with
  | choose r =>
    simp only [step] at h
    split at h
    · rename_i hidle
      obtain rfl := Option.some.inj h
      exact tracked_choose hs hidle r
    · exact absurd h (by simp)
  | next nowNs =>
    simp only [step] at h
    split at h
    · exact absurd h (by simp)
    · obtain rfl := Option.some.inj h
      exact tracked_next hlib hs hp
  | command req =>
    simp only [step] at h
    split at h
    · obtain rfl := Option.some.inj h
      exact hs
    · rename_i d hd
      obtain rfl := Option.some.inj h
      exact tracked_command hs hd

/-! ## The exact condition -/

/-- A step keeps what came later exactly when it is punctual. -/
theorem keepsLater_iff {s : System} (hs : Tracked s) (a : Step) :
    KeepsLater lib runScript s a ↔ Punctual s a := by
  cases a with
  | choose r => exact ⟨fun _ => trivial, fun _ _ _ ha => absurd ha (by simp)⟩
  | command req => exact ⟨fun _ => trivial, fun _ _ _ ha => absurd ha (by simp)⟩
  | next nowNs =>
    obtain ⟨hclear, hkeep⟩ := goOn_manual lib runScript nowNs s.device s.pc
    constructor
    · -- a start that came later is active, and the section clears it
      intro hk hcl hlater req hreq hstart
      obtain ⟨c, hc, -⟩ := hcl.choice
      have hne : s.pc ≠ .idle := fun h => by rw [h] at hcl; exact hcl
      have hstep : step lib runScript s (.next nowNs) = some { s with
          device := (goOn lib runScript nowNs (s.device, s.pc)).1
          pc := (goOn lib runScript nowNs (s.device, s.pc)).2 } := if_neg hne
      have hsame := (hk nowNs _ rfl hstep hlater).1
      have hactive := (hs.active hc hlater hreq hstart).1
      have hcleared := (hclear hcl).1
      exact absurd (hcleared.symm.trans (hsame.trans hactive)) (by decide)
    · intro hp nowNs' s' ha hstep hlater
      obtain rfl : nowNs = nowNs' := by simpa using ha
      simp only [step] at hstep
      split at hstep
      · exact absurd hstep (by simp)
      · obtain rfl := Option.some.inj hstep
        by_cases hcl : s.pc.Clears
        · -- what came last is a stop, and the fields are clear already
          obtain ⟨req, hreq⟩ : ∃ req, s.commands.getLast? = some req := by
            cases hl : s.commands.getLast? with
            | none =>
              rw [List.getLast?_eq_none_iff] at hl
              rw [hl] at hlater
              exact absurd hlater (Nat.not_lt_zero _)
            | some req => exact ⟨req, rfl⟩
          have hd : Device.Manual s.device false "" := by
            cases hs.standing req hreq with
            | stopped _ hd => exact hd
            | lasting h _ _ => exact absurd h (hp hcl hlater req hreq)
            | unserved h _ _ _ => exact absurd h (hp hcl hlater req hreq)
            | serving h _ _ _ _ => exact absurd h (hp hcl hlater req hreq)
            | served h _ _ _ => exact absurd h (hp hcl hlater req hreq)
          exact ⟨(hclear hcl).1.trans hd.1.symm, (hclear hcl).2.trans hd.2.symm⟩
        · exact hkeep hcl

/-- No command yet, and no call under way. -/
def freshSystem (d : Device) : System := ⟨d, .idle, [], 0, []⟩

theorem tracked_freshSystem (d : Device) (hd : d.manualAnomalyActive = false) :
    Tracked (freshSystem d) := by
  refine ⟨?_, ?_, fun _ => hd, Nat.le_refl _, ?_, ?_, ?_⟩
  · exact fun k req hk => absurd hk (by simp [freshSystem])
  · exact fun req hreq => absurd hreq (by simp [freshSystem])
  · exact fun a ha => absurd ha (by simp [freshSystem])
  · exact fun c hc => absurd hc (by simp [freshSystem, Pc.choice])
  · exact fun c hc => absurd hc (by simp [freshSystem, Pc.choice])

/-- **Commands are served exactly along the punctual runs**: those in which no one-shot is cleaned up
    after a start was accepted since its call chose that no stop has followed. -/
theorem served_iff (hlib : Infallible lib) (d : Device) (hd : d.manualAnomalyActive = false)
    (as : List Step) :
    Always (step lib runScript) (Served lib runScript) (freshSystem d) as ↔
      Always (step lib runScript) Punctual (freshSystem d) as := by
  refine always_congr (I := Tracked) (fun s a hs => ?_) (fun s a s' hs hserved h => ?_) as
    (tracked_freshSystem d hd)
  · constructor
    · exact fun h => (keepsLater_iff hs a).mp h.1
    · intro hp
      refine ⟨(keepsLater_iff hs a).mpr hp, fun s' h => ?_⟩
      have hs' := tracked_step hlib hs hp h
      exact ⟨hs'.oneShots, hs'.lastingInForce⟩
  · exact tracked_step hlib hs ((keepsLater_iff hs a).mp hserved.1) h

end

theorem served_iff_spike :
    Always (step .plain noScript) (Served .plain noScript) (freshSystem unsteadyDevice)
      [.command ⟨"spike", "trigger"⟩, .choose ⟨0, 0, 0⟩, .next 0, .next 0, .next 0, .next 0, .next 0,
        .command ⟨"flatline", "start"⟩, .choose ⟨0, 0, 0⟩] :=
  (served_iff infallible_plain unsteadyDevice rfl _).mpr (by decide)

/-- A flatline command that arrives while a spike is being sent is cleared with the spike. -/
theorem late_flatline_not_served :
    ¬ Always (step .plain noScript) (Served .plain noScript) (freshSystem unsteadyDevice)
      [.command ⟨"spike", "trigger"⟩, .choose ⟨0, 0, 0⟩, .next 0, .next 0, .next 0,
        .command ⟨"flatline", "start"⟩, .next 0, .next 0] := by
  rintro ⟨-, h⟩
  obtain ⟨-, h⟩ := h _ rfl
  obtain ⟨-, h⟩ := h _ rfl
  obtain ⟨-, h⟩ := h _ rfl
  obtain ⟨-, h⟩ := h _ rfl
  obtain ⟨-, h⟩ := h _ rfl
  obtain ⟨-, h⟩ := h _ rfl
  obtain ⟨⟨hkeeps, -⟩, -⟩ := h _ rfl
  have hsame := (hkeeps 0 _ rfl rfl (by decide)).1
  exact absurd hsame (by decide)

end ChirpStackSimulator.DataUp
