/-
  Frame counters and the uplink metric.

  `dataUp` advances `fCntUp` and the tenant's `device_uplink_count` on two of its exits, a dropped
  uplink and a sent one, and neither on the two others, where the frame cannot be encrypted or signed.
  The uplink loop reads the counter to find out when it is done.

  1. **One device** (`Counted`) — the `i`-th uplink of its log, counted from 0, has the counter `i`; the
     counter is the number of uplinks done; the loop is where the counter allows it to be.
  2. **The fleet** — all `Device` objects ever created, with the metric of every tenant.  A step of one
     device changes what the metric owes it by what it adds to the metric (`balanced_step`).
  3. `conserved`: along every run with counters below 2^32 the counters of the frames of a device have
     no gaps but its dropped uplinks, the metric is the sum of the counters whenever no `dataUp` is in
     progress, and a device leaves its loop with the number of uplinks it was given.
-/
import ChirpStackSimulator.Flatline
import ChirpStackSimulator.Lib.Objects
import ChirpStackSimulator.Lib.Tally

namespace ChirpStackSimulator.UplinkLoop

open LoRaWAN DataUp Transition
open DownlinkLoop (withSession)

/-! ## The log and the counter -/

/-- The counter of a data frame. -/
def fCntOf (phy : PHYPayload) : UInt32 :=
  match phy.body with
  | .mac pl => pl.fhdr.fCnt
  | _ => 0

@[simp] theorem fCntOf_dataFrame (d : Device) : fCntOf (dataFrame d) = d.fCntUp := rfl

/-- The counters of the frames of a log, in the order they were built. -/
def fCnts (log : List Entry) : List UInt32 :=
  log.filterMap fun
    | .frame phy _ => some (fCntOf phy)
    | .dropout => none

namespace Slot

/-- The frame built last still waits for its clean-up. -/
def unfinished (s : Slot) : Nat :=
  match s.loop with
  | .inDataUp (.sealed _ _) => 1
  | _ => 0

/-- How often the frame counter was incremented. -/
def increments (s : Slot) : Nat := s.log.length - s.unfinished

/-- What is still to be added to the metric for the increments made. -/
def owed (s : Slot) : Nat := if s.loop = .counting then 1 else 0

/-- A call of `dataUp` is in progress. -/
def InProgress (s : Slot) : Prop := (∃ pc, s.loop = .inDataUp pc) ∨ s.loop = .counting

/-- Where the loop can be, by the counter, if it has a number of uplinks to send. -/
def Within (s : Slot) : Prop :=
  match s.loop with
  | .counting | .returned => s.device.fCntUp ≤ s.device.uplinkCount
  | .lingering => s.device.fCntUp = s.device.uplinkCount
  | .left => s.device.fCntUp ≤ s.device.uplinkCount ∧
      (s.cancelled = false → s.device.fCntUp = s.device.uplinkCount)
  | _ => s.device.fCntUp < s.device.uplinkCount

end Slot

/-- The log, the counter and the place of the loop agree. -/
structure Counted (s : Slot) : Prop where
  place : ∀ i phy c, s.log[i]? = some (.frame phy c) → fCntOf phy = UInt32.ofNat i
  counter : s.device.fCntUp = UInt32.ofNat s.increments
  unfinished : s.unfinished ≤ s.log.length
  within : s.device.uplinkCount ≠ 0 → s.Within

theorem counted_newSlot (d : { d : Device // d.Fresh }) (tenantID : String) (otaaDelay : Bool) :
    Counted (newSlot d tenantID otaaDelay) where
  place i phy c h := by simp [newSlot] at h
  counter := by
    have hzero : d.1.fCntUp = 0 := d.2.fCntUp
    cases otaaDelay <;> exact hzero
  unfinished := by cases otaaDelay <;> simp [newSlot, Slot.unfinished]
  within hcount := by
    have hzero : d.1.fCntUp = 0 := d.2.fCntUp
    have hpos : (0 : UInt32) < d.1.uplinkCount := UInt32.pos_iff_ne_zero.mpr hcount
    cases otaaDelay <;> simpa [newSlot, Slot.Within, hzero] using hpos

/-! ## One step of one device -/

/-- What the step adds to the metric of the device's tenant. -/
def Slot.inc (s : Slot) : LoopStep → Nat
  | .go => if s.loop = .counting then 1 else 0
  | _ => 0

/-- What a step does to the counting of a device: log, counter and loop still agree, and what the
    metric is owed changes by what the step counts and adds. -/
structure StepCounts (s : Slot) (a : LoopStep) (s' : Slot) : Prop where
  counted : Counted s'
  tenantID : s'.tenantID = s.tenantID
  balance : s'.increments + s.owed = s.increments + s'.owed + s.inc a

/-- A step that makes no uplink. -/
theorem stepCounts_of_same {s s' : Slot} {a : LoopStep} (hs : Counted s)
    (hlog : s'.log = s.log) (htenant : s'.tenantID = s.tenantID)
    (hcnt : s'.device.fCntUp = s.device.fCntUp) (hopen : s'.unfinished = s.unfinished)
    (howed : s.owed = s'.owed + s.inc a)
    (hwithin : s'.device.uplinkCount ≠ 0 → s'.Within) : StepCounts s a s' := by
  have hinc : s'.increments = s.increments := by
    rw [Slot.increments, Slot.increments, hlog, hopen]
  refine ⟨⟨?_, ?_, ?_, hwithin⟩, htenant, by omega⟩
  · rw [hlog]
    exact hs.place
  · rw [hcnt, hinc]
    exact hs.counter
  · rw [hlog, hopen]
    exact hs.unfinished

/-- A step that only moves the loop, outside `dataUp`. -/
theorem stepCounts_of_loop {s : Slot} {a : LoopStep} {loop : LoopPc} (hs : Counted s)
    (hfrom : ∀ pc, s.loop ≠ .inDataUp pc) (hto : ∀ pc, loop ≠ .inDataUp pc)
    (howed : s.owed = ({ s with loop := loop } : Slot).owed + s.inc a)
    (hwithin : s.device.uplinkCount ≠ 0 → ({ s with loop := loop } : Slot).Within) :
    StepCounts s a { s with loop := loop } := by
  have hzero : ∀ {t : Slot}, (∀ pc, t.loop ≠ .inDataUp pc) → t.unfinished = 0 := by
    intro t ht
    unfold Slot.unfinished
    split
    · rename_i hl
      exact absurd hl (ht _)
    · rfl
  exact stepCounts_of_same hs rfl rfl rfl ((hzero hto).trans (hzero hfrom).symm) howed hwithin

/-- A step beside the loop. -/
theorem stepCounts_of_device {s : Slot} {a : LoopStep} (hs : Counted s) (d : Device)
    (hcnt : d.fCntUp = s.device.fCntUp) (hcount : d.uplinkCount = s.device.uplinkCount)
    (hinc : s.inc a = 0) : StepCounts s a { s with device := d } := by
  refine stepCounts_of_same hs rfl rfl hcnt rfl (by rw [hinc]; rfl) ?_
  show d.uplinkCount ≠ 0 → _
  rw [hcount]
  intro hne
  have hw := hs.within hne
  unfold Slot.Within at hw ⊢
  rw [hcnt, hcount]
  exact hw

section
variable {lib : Library}

/-- The loop goes on outside `dataUp`. -/
theorem stepCounts_go {s : Slot} {loop : LoopPc} (hs : Counted s) (h : s.Moves loop) :
    StepCounts s .go { s with loop := loop } := by
  refine stepCounts_of_loop hs h.outside.1 h.outside.2 ?_ ?_
  · cases h <;> simp [Slot.owed, Slot.inc, *]
  · intro hne
    have hw := hs.within hne
    cases h with
    | reached hl hcount hle =>
      -- the counter has not run past the number it was given
      simp only [Slot.Within, hl] at hw ⊢
      exact UInt32.le_antisymm hw hle
    | goesOn hl hlt => exact hlt hne
    | leaves hl =>
      simp only [Slot.Within, hl] at hw ⊢
      exact ⟨UInt32.le_of_eq hw, fun _ => hw⟩
    | delayOver hl | joinOver hl | intervalOver hl | counted hl | otaa hl | activated hl =>
      simpa only [Slot.Within, hl] using hw

/-- The frame counter after an uplink. -/
theorem ofNat_succ (n : Nat) : UInt32.ofNat (n + 1) = UInt32.ofNat n + 1 := by
  rw [UInt32.ofNat_add]
  rfl

/-- A counter below its limit is at most there after one more uplink. -/
theorem succ_le_of_lt {a b : UInt32} (h : a < b) : a + 1 ≤ b := by
  have hlt : a.toNat < b.toNat := UInt32.lt_iff_toNat_lt.mp h
  have hb : b.toNat < 2 ^ 32 := b.toNat_lt
  rw [UInt32.le_iff_toNat_le, UInt32.toNat_add]
  show (a.toNat + 1) % 2 ^ 32 ≤ b.toNat
  omega

/-- A section of `dataUp` that neither builds a frame nor ends an uplink. -/
theorem stepCounts_of_section {s : Slot} {pc : Pc}
    {runScript : String → ScriptEnv → ScriptResult} {nowNs : Nat} (hs : Counted s)
    (hloop : s.loop = .inDataUp pc) (hpc : ∀ c phy, pc ≠ .sealed c phy) (payload : List UInt8)
    {loop : LoopPc}
    (hto : loop = .returned ∨ ∃ pc', loop = .inDataUp pc' ∧ ∀ c phy, pc' ≠ .sealed c phy) :
    StepCounts s (.next runScript nowNs)
      { s with device := { s.device with payload := payload }, loop := loop } := by
  have hopen : s.unfinished = 0 := by
    unfold Slot.unfinished
    rw [hloop]
    split
    · rename_i c phy h
      exact absurd (LoopPc.inDataUp.inj h) (hpc c phy)
    · rfl
  have howed : s.owed = 0 := by simp [Slot.owed, hloop]
  have hlt : s.device.uplinkCount ≠ 0 → s.device.fCntUp < s.device.uplinkCount := by
    intro hne
    have hw := hs.within hne
    simpa only [Slot.Within, hloop] using hw
  rcases hto with rfl | ⟨pc', rfl, hpc'⟩
  · exact stepCounts_of_same hs rfl rfl rfl hopen.symm howed fun hne => UInt32.le_of_lt (hlt hne)
  · refine stepCounts_of_same hs rfl rfl rfl ?_ howed fun hne => hlt hne
    rw [hopen]
    unfold Slot.unfinished
    split
    · rename_i c phy h
      exact absurd (LoopPc.inDataUp.inj h) (hpc' c phy)
    · rfl

/-- A section of `dataUp` that ends an uplink: the counter moves on. -/
theorem stepCounts_of_done {s s' : Slot} {a : LoopStep} {pc : Pc} (hs : Counted s)
    (hloop : s.loop = .inDataUp pc) (hloop' : s'.loop = .counting)
    (htenant : s'.tenantID = s.tenantID) (hcnt : s'.device.fCntUp = s.device.fCntUp + 1)
    (hcount : s'.device.uplinkCount = s.device.uplinkCount)
    (hinc : s'.log.length = s.increments + 1)
    (hplace : ∀ (i : Nat) phy c, s'.log[i]? = some (Entry.frame phy c) →
      s.log[i]? = some (Entry.frame phy c))
    (ha : s.inc a = 0) : StepCounts s a s' := by
  have howed : s.owed = 0 := by simp [Slot.owed, hloop]
  have howed' : s'.owed = 1 := by simp [Slot.owed, hloop']
  have hopen : s'.unfinished = 0 := by simp [Slot.unfinished, hloop']
  have hinc' : s'.increments = s.increments + 1 := by rw [Slot.increments, hopen, hinc]; rfl
  refine ⟨⟨fun i phy c h => hs.place i phy c (hplace i phy c h), ?_, by omega, ?_⟩, htenant,
    by omega⟩
  · rw [hcnt, hinc', hs.counter, ofNat_succ]
  · intro hne
    rw [hcount] at hne
    have hw := hs.within hne
    simp only [Slot.Within, hloop, hloop'] at hw ⊢
    rw [hcnt, hcount]
    exact succ_le_of_lt hw

/-- The next critical section of `dataUp`. -/
theorem stepCounts_next {s : Slot} {pc : Pc} {runScript : String → ScriptEnv → ScriptResult}
    {nowNs : Nat} (hs : Counted s) (hloop : s.loop = .inDataUp pc) :
    StepCounts s (.next runScript nowNs) (s.next lib runScript nowNs pc) := by
  have hgoes := Slot.next_cases lib s runScript nowNs pc
  generalize s.next lib runScript nowNs pc = t at hgoes ⊢
  cases hgoes with
  | idle => exact stepCounts_of_section hs hloop (by simp) s.device.payload (Or.inl rfl)
  | dropped c hdrop =>
    have hopen : s.unfinished = 0 := by simp [Slot.unfinished, hloop]
    refine stepCounts_of_done hs hloop rfl rfl (dropoutSection_fCntUp _ _)
      (dropoutSection_uplinkCount _ _) ?_ ?_ rfl
    · show (s.log ++ [Entry.dropout]).length = _
      rw [Slot.increments, hopen, List.length_append]
      rfl
    · intro i phy c' h
      rcases Objects.lookup_append.mp h with h | ⟨-, h⟩
      · exact h
      · exact absurd h (by simp)
  | repeated c hdrop hflat =>
    exact stepCounts_of_section hs hloop (by simp) s.device.lastPayload (Or.inr ⟨_, rfl, by simp⟩)
  | notRepeated c hdrop hflat =>
    exact stepCounts_of_section hs hloop (by simp) s.device.payload (Or.inr ⟨_, rfl, by simp⟩)
  | readDrift c =>
    exact stepCounts_of_section hs hloop (by simp) s.device.payload (Or.inr ⟨_, rfl, by simp⟩)
  | made c drift =>
    exact stepCounts_of_section hs hloop (by simp) _ (Or.inr ⟨_, rfl, by simp⟩)
  | notSealed c e hseal =>
    exact stepCounts_of_section hs hloop (by simp) s.device.payload (Or.inl rfl)
  | sealed c phy hseal =>
    have hopen : s.unfinished = 0 := by simp [Slot.unfinished, hloop]
    have hinc : s.increments = s.log.length := by rw [Slot.increments, hopen]; rfl
    have hopen' : Slot.unfinished { s with
        loop := .inDataUp (.sealed c phy)
        log := s.log ++ [.frame (dataFrame s.device) c] } = 1 := rfl
    have hinc' : Slot.increments { s with
        loop := .inDataUp (.sealed c phy)
        log := s.log ++ [.frame (dataFrame s.device) c] } = s.increments := by
      rw [Slot.increments, hopen', hinc]
      show (s.log ++ [Entry.frame (dataFrame s.device) c]).length - 1 = _
      simp
    refine ⟨⟨?_, ?_, ?_, ?_⟩, rfl, ?_⟩
    · intro i phy' c' h
      rcases Objects.lookup_append.mp h with hold | ⟨hi, hnew⟩
      · exact hs.place i phy' c' hold
      · -- the frame just built has the number of the uplinks before it
        obtain ⟨rfl, -⟩ := Entry.frame.inj hnew
        rw [fCntOf_dataFrame, hs.counter, hinc, hi]
    · rw [hinc']
      exact hs.counter
    · rw [hopen']
      show 1 ≤ (s.log ++ [Entry.frame (dataFrame s.device) c]).length
      simp
    · intro hne
      have hw := hs.within hne
      simpa only [Slot.Within, hloop] using hw
    · rw [hinc']
      simp [Slot.owed, Slot.inc, hloop]
  | finished c phy =>
    have hopen : s.unfinished = 1 := by simp [Slot.unfinished, hloop]
    have hlen := hs.unfinished
    refine stepCounts_of_done hs hloop rfl rfl (finishSection_fCntUp _ _)
      (finishSection_uplinkCount _ _) ?_ (fun _ _ _ h => h) rfl
    show s.log.length = _
    rw [Slot.increments]
    omega

/-- A device whose context is cancelled leaves wherever it waits; it need not have reached its
    number. -/
theorem stepCounts_done {s : Slot} (hs : Counted s) (hcancelled : s.cancelled = true)
    (hselects : s.Selects) : StepCounts s .done { s with loop := .left } := by
  refine stepCounts_of_loop hs hselects.outside (by simp) ?_ ?_
  · rcases hselects with h | h | h | h | h <;> simp [Slot.owed, Slot.inc, h]
  · intro hne
    have hw := hs.within hne
    refine ⟨?_, fun hc => absurd (hcancelled.symm.trans hc) (by simp)⟩
    rcases hselects with h | h | h | h | h <;> simp only [Slot.Within, h] at hw
    · exact UInt32.le_of_lt hw
    · exact UInt32.le_of_lt hw
    · exact UInt32.le_of_lt hw
    · exact UInt32.le_of_eq hw
    · exact UInt32.le_of_lt hw

/-- Choosing an anomaly counts nothing. -/
theorem chooseAnomaly_counters (d : Device) (r : Draws) :
    (chooseAnomaly d r).1.fCntUp = d.fCntUp ∧ (chooseAnomaly d r).1.uplinkCount = d.uplinkCount := by
  rcases chooseAnomaly_cases d r with ⟨-, hc⟩ | ⟨-, -, hc⟩ | ⟨-, -, -, hc⟩ | ⟨-, -, -, hc⟩ <;>
    rw [hc] <;> exact ⟨rfl, rfl⟩

/-- **Every step keeps log, counter and loop in agreement.** -/
theorem stepCounts_step {s s' : Slot} {a : LoopStep} (hs : Counted s)
    (hstep : s.step lib a = some s') : StepCounts s a s' := by
  cases Slot.step_cases hstep with
  | go loop hmoves => exact stepCounts_go hs hmoves
  | done hcancelled hselects => exact stepCounts_done hs hcancelled hselects
  | joinRequest rand hloop =>
    refine stepCounts_of_same hs rfl rfl rfl ?_ ?_ fun hne => ?_
    · simp [Slot.unfinished, hloop]
    · simp [Slot.owed, Slot.inc, hloop]
    · have hw := hs.within hne
      simp only [Slot.Within, hloop] at hw
      exact hw
  | choose r hloop =>
    obtain ⟨hcnt, hcount⟩ := chooseAnomaly_counters s.device r
    refine stepCounts_of_same hs rfl rfl hcnt ?_ ?_ fun hne => ?_
    · simp [Slot.unfinished, hloop]
    · simp [Slot.owed, Slot.inc, hloop]
    · have hne' : s.device.uplinkCount ≠ 0 := hcount ▸ hne
      have hw := hs.within hne'
      simp only [Slot.Within, hloop] at hw ⊢
      rw [hcnt, hcount]
      exact hw
  | next runScript nowNs pc hloop => exact stepCounts_next hs hloop
  | refused req => exact stepCounts_of_device hs s.device rfl rfl rfl
  | command req anomalyType active => exact stepCounts_of_device hs _ rfl rfl rfl
  | session f => exact stepCounts_of_device hs (withSession s.device f) rfl rfl rfl
  | cancelledLate hloop => exact stepCounts_of_device hs s.device rfl rfl rfl
  | cancel hloop =>
    refine stepCounts_of_same hs rfl rfl rfl rfl rfl fun hne => ?_
    have hw := hs.within hne
    unfold Slot.Within at hw ⊢
    split <;> simp_all

end

/-! ## What follows for one device -/

/-- Every frame of the log has the number of the uplinks before it, counted from `k`. -/
def NumberedFrom (k : Nat) (log : List Entry) : Prop :=
  ∀ (i : Nat) phy c, log[i]? = some (Entry.frame phy c) → (fCntOf phy).toNat = k + i

theorem Counted.numbered {s : Slot} (hs : Counted s) (hbound : s.log.length < 2 ^ 32) :
    NumberedFrom 0 s.log := by
  intro i phy c h
  have hi : i < s.log.length := (List.getElem?_eq_some_iff.mp h).1
  rw [hs.place i phy c h, UInt32.toNat_ofNat_of_lt' (by rw [UInt32.size]; omega), Nat.zero_add]

/-- The counters of a numbered log are strictly increasing. -/
theorem fCnts_increasing : ∀ (log : List Entry) (k : Nat), NumberedFrom k log →
    (∀ x ∈ fCnts log, k ≤ x.toNat) ∧ (fCnts log).Pairwise (· < ·)
  | [], _, _ => ⟨by simp [fCnts], List.Pairwise.nil⟩
  | e :: log, k, hnum => by
    have hrest : NumberedFrom (k + 1) log := by
      intro i phy c h
      rw [hnum (i + 1) phy c (by simpa using h)]
      omega
    obtain ⟨hge, hpair⟩ := fCnts_increasing log (k + 1) hrest
    cases e with
    | dropout =>
      have hcons : fCnts (.dropout :: log) = fCnts log := rfl
      rw [hcons]
      exact ⟨fun x hx => by have := hge x hx; omega, hpair⟩
    | frame phy c =>
      have hcons : fCnts (.frame phy c :: log) = fCntOf phy :: fCnts log := rfl
      have hfirst : (fCntOf phy).toNat = k := hnum 0 phy c rfl
      rw [hcons]
      constructor
      · intro x hx
        rcases List.mem_cons.mp hx with rfl | hx
        · omega
        · have := hge x hx
          omega
      · refine List.pairwise_cons.mpr ⟨fun x hx => ?_, hpair⟩
        have := hge x hx
        exact UInt32.lt_iff_toNat_lt.mpr (by omega)

/-- Two frames with nothing but dropped uplinks between them. -/
def Consecutive (log : List Entry) (p q : PHYPayload) (dropped : Nat) : Prop :=
  ∃ before c c' after,
    log = before ++ .frame p c :: (List.replicate dropped .dropout ++ .frame q c' :: after)

/-- Consecutive frames of a numbered log differ by 1 and the uplinks dropped between them. -/
theorem fCnt_consecutive {log : List Entry} {p q : PHYPayload} {dropped : Nat}
    (hnum : NumberedFrom 0 log) (h : Consecutive log p q dropped) :
    (fCntOf q).toNat = (fCntOf p).toNat + 1 + dropped := by
  obtain ⟨before, c, c', after, rfl⟩ := h
  have hp := hnum before.length p c (by simp)
  have hq := hnum (before.length + (1 + dropped)) q c' (by
    rw [List.getElem?_append_right (by omega), Nat.add_sub_cancel_left, Nat.add_comm 1,
      List.getElem?_cons_succ, List.getElem?_append_right (by simp)]
    simp)
  omega

/-- **A device with `n` uplinks to send leaves its loop after exactly `n` increments** of its frame
    counter, unless its context is cancelled before: it never makes more, it has made `n` when it has
    left, and when it has made `n` it leaves without another one. -/
structure LeavesOnTime (lib : Library) (s : Slot) (n : Nat) : Prop where
  atMost : s.increments ≤ n
  exactly : s.loop = .left → s.cancelled = false → s.increments = n
  leaves : s.increments = n → ∃ k s', exec (Slot.step lib) s (List.replicate k .go) = some s' ∧
    s'.loop = .left ∧ s'.increments = n

theorem Counted.fCntUp_toNat {s : Slot} (hs : Counted s) (hbound : s.log.length < 2 ^ 32) :
    s.device.fCntUp.toNat = s.increments := by
  have hle : s.increments ≤ s.log.length := Nat.sub_le _ _
  rw [hs.counter, UInt32.toNat_ofNat_of_lt' (by rw [UInt32.size]; omega)]

theorem Counted.leavesOnTime (lib : Library) {s : Slot} (hs : Counted s)
    (hbound : s.log.length < 2 ^ 32) (hcount : s.device.uplinkCount ≠ 0) :
    LeavesOnTime lib s s.device.uplinkCount.toNat := by
  have hcnt := hs.fCntUp_toNat hbound
  have hw := hs.within hcount
  have hle : s.increments ≤ s.device.uplinkCount.toNat := by
    rw [← hcnt]
    refine UInt32.le_iff_toNat_le.mp ?_
    unfold Slot.Within at hw
    split at hw
    · exact hw
    · exact hw
    · exact UInt32.le_of_eq hw
    · exact hw.1
    · exact UInt32.le_of_lt hw
  refine ⟨hle, ?_, ?_⟩
  · intro hloop hcancelled
    simp only [Slot.Within, hloop] at hw
    rw [← hcnt, hw.2 hcancelled]
  · intro hn
    have heq : s.device.fCntUp = s.device.uplinkCount :=
      UInt32.toNat_inj.mp (hcnt.trans hn)
    -- only after its last uplink has the loop reached the number
    have hafter : s.loop = .counting ∨ s.loop = .returned ∨ s.loop = .lingering ∨
        s.loop = .left := by
      unfold Slot.Within at hw
      split at hw
      · exact Or.inl ‹_›
      · exact Or.inr (Or.inl ‹_›)
      · exact Or.inr (Or.inr (Or.inl ‹_›))
      · exact Or.inr (Or.inr (Or.inr ‹_›))
      · exact absurd heq (UInt32.ne_of_lt hw)
    have hopen : s.increments = s.log.length := by
      rcases hafter with h | h | h | h <;> simp [Slot.increments, Slot.unfinished, h]
    have hleft : ({ s with loop := .left } : Slot).increments = s.device.uplinkCount.toNat := by
      rw [← hn, hopen]
      rfl
    have hreached : s.device.uplinkCount ≠ 0 ∧ s.device.uplinkCount ≤ s.device.fCntUp :=
      ⟨hcount, UInt32.le_of_eq heq.symm⟩
    rcases hafter with h | h | h | h
    · refine ⟨3, { s with loop := .left }, ?_, rfl, hleft⟩
      simp [exec, List.replicate, Slot.step, Slot.go, h, hreached]
    · refine ⟨2, { s with loop := .left }, ?_, rfl, hleft⟩
      simp [exec, List.replicate, Slot.step, Slot.go, h, hreached]
    · refine ⟨1, { s with loop := .left }, ?_, rfl, hleft⟩
      simp [exec, List.replicate, Slot.step, Slot.go, h]
    · exact ⟨0, s, rfl, h, hn⟩

/-! ## The fleet -/

/-- All `Device` objects ever created, with `device_uplink_count` by tenant. -/
structure Fleet where
  slots : List Slot
  metric : String → Nat

def Fleet.empty : Fleet := ⟨[], fun _ => 0⟩

inductive FleetStep where
  | newDevice (d : { d : Device // d.Fresh }) (tenantID : String) (otaaDelay : Bool)
  /-- A step of the `i`-th device. -/
  | slot (i : Nat) (a : LoopStep)

/-- One step of the fleet. -/
def Fleet.step (lib : Library) (f : Fleet) : FleetStep → Option Fleet
  | .newDevice d tenantID otaaDelay =>
    some { f with slots := f.slots ++ [newSlot d tenantID otaaDelay] }
  | .slot i a =>
    match f.slots[i]? with
    | none => none
    | some s =>
      (s.step lib a).map fun s' =>
        { slots := f.slots.set i s'
          metric := fun t => f.metric t + if t = s.tenantID then s.inc a else 0 }

/-- The sum of `n` over all devices of the tenant. -/
def Fleet.total (f : Fleet) (n : Slot → Nat) (tenantID : String) : Nat :=
  ((f.slots.filter fun s => s.tenantID = tenantID).map n).sum

/-- **The counters are conserved.** -/
structure Conserved (lib : Library) (f : Fleet) : Prop where
  increasing : ∀ s ∈ f.slots, (fCnts s.log).Pairwise (· < ·)
  consecutive : ∀ s ∈ f.slots, ∀ p q dropped, Consecutive s.log p q dropped →
    (fCntOf q).toNat = (fCntOf p).toNat + 1 + dropped
  metric : ∀ tenantID, (∀ s ∈ f.slots, s.tenantID = tenantID → ¬ s.InProgress) →
    f.metric tenantID = f.total (fun s => s.device.fCntUp.toNat) tenantID
  leaves : ∀ s ∈ f.slots, s.device.uplinkCount ≠ 0 →
    LeavesOnTime lib s s.device.uplinkCount.toNat

/-- Every device counts, and the metric is behind the increments by what it is owed. -/
structure Balanced (f : Fleet) : Prop where
  counted : ∀ s ∈ f.slots, Counted s
  balance : ∀ tenantID,
    f.metric tenantID + f.total Slot.owed tenantID = f.total Slot.increments tenantID

/-- The sum after one device of the list has changed. -/
theorem total_set (n : Slot → Nat) (tenantID : String) {slots : List Slot} {i : Nat} {s s' : Slot}
    (h : slots[i]? = some s) (htenant : s'.tenantID = s.tenantID) :
    (((slots.set i s').filter fun t => t.tenantID = tenantID).map n).sum
        + (if s.tenantID = tenantID then n s else 0)
      = ((slots.filter fun t => t.tenantID = tenantID).map n).sum
        + (if s.tenantID = tenantID then n s' else 0) := by
  have hsum := Tally.sum_map_set (fun t => if t.tenantID = tenantID then n t else 0) s' h
  rw [Tally.sum_map_filter, Tally.sum_map_filter]
  simpa [htenant] using hsum

theorem balanced_step {lib : Library} (f : Fleet) (a : FleetStep) (f' : Fleet) (hf : Balanced f)
    (h : f.step lib a = some f') : Balanced f' := by
  cases a with
  | newDevice d tenantID otaaDelay =>
    obtain rfl := Option.some.inj h
    constructor
    · intro s hs
      rcases List.mem_append.mp hs with hs | hs
      · exact hf.counted s hs
      · obtain rfl := List.mem_singleton.mp hs
        exact counted_newSlot d tenantID otaaDelay
    · intro t
      -- a new device owes nothing and has counted nothing
      have hold := hf.balance t
      have howed : (newSlot d tenantID otaaDelay).owed = 0 := by
        cases otaaDelay <;> rfl
      have hinc : (newSlot d tenantID otaaDelay).increments = 0 := by
        cases otaaDelay <;> rfl
      simp only [Fleet.total, List.filter_append, List.map_append, List.sum_append] at hold ⊢
      by_cases ht : (newSlot d tenantID otaaDelay).tenantID = t
      · simpa [ht, howed, hinc] using hold
      · simpa [ht] using hold
  | slot i a =>
    simp only [Fleet.step] at h
    split at h
    · exact absurd h (by simp)
    · rename_i s hs
      obtain ⟨s', hstep, rfl⟩ := Option.map_eq_some_iff.mp h
      have hcounts := stepCounts_step (hf.counted s (List.mem_of_getElem? hs)) hstep
      constructor
      · intro t ht
        rcases List.mem_or_eq_of_mem_set ht with ht | rfl
        · exact hf.counted t ht
        · exact hcounts.counted
      · intro t
        have hold := hf.balance t
        have howed := total_set Slot.owed t hs hcounts.tenantID
        have hinc := total_set Slot.increments t hs hcounts.tenantID
        have hbal := hcounts.balance
        simp only [Fleet.total] at hold ⊢
        by_cases ht : s.tenantID = t
        · simp only [ht, if_true] at howed hinc ⊢
          omega
        · have ht' : ¬ t = s.tenantID := fun h => ht h.symm
          simp only [ht, ht', if_false] at howed hinc ⊢
          omega

/-- Sums over the same devices agree if what is summed agrees. -/
theorem total_congr {f : Fleet} {n m : Slot → Nat} {tenantID : String}
    (h : ∀ s ∈ f.slots, s.tenantID = tenantID → n s = m s) :
    f.total n tenantID = f.total m tenantID := by
  unfold Fleet.total
  congr 1
  refine List.map_congr_left fun s hs => ?_
  obtain ⟨hmem, ht⟩ := List.mem_filter.mp hs
  exact h s hmem (by simpa using ht)

/-- **Frame counters and the uplink metric are conserved** along every run of any number of devices,
    with any anomalies, commands and scripts, as long as no device has made 2^32 uplinks. -/
theorem conserved (lib : Library) (as : List FleetStep) (f : Fleet)
    (hrun : exec (Fleet.step lib) Fleet.empty as = some f)
    (hbound : ∀ s ∈ f.slots, s.log.length < 2 ^ 32) : Conserved lib f := by
  have hempty : Balanced Fleet.empty := ⟨by simp [Fleet.empty], fun _ => rfl⟩
  have hf : Balanced f := exec_invariant balanced_step hempty hrun
  refine ⟨fun s hs => ?_, fun s hs p q dropped h => ?_, fun t hquiet => ?_, fun s hs hcount => ?_⟩
  · exact (fCnts_increasing s.log 0 ((hf.counted s hs).numbered (hbound s hs))).2
  · exact fCnt_consecutive ((hf.counted s hs).numbered (hbound s hs)) h
  · have howed : f.total Slot.owed t = f.total (fun _ => 0) t := by
      refine total_congr fun s hs ht => ?_
      exact if_neg fun hloop => hquiet s hs ht (Or.inr hloop)
    have hzero : f.total (fun _ => 0) t = 0 := by
      simp [Fleet.total, List.map_const']
    have hcnt : f.total (fun s => s.device.fCntUp.toNat) t = f.total Slot.increments t :=
      total_congr fun s hs _ => (hf.counted s hs).fCntUp_toNat (hbound s hs)
    have hbal := hf.balance t
    omega
  · exact (hf.counted s hs).leavesOnTime lib (hbound s hs) hcount

/-- A device with two uplinks to send, the first of which is dropped, next to another one. -/
def twoDevices : List FleetStep :=
  [.newDevice ⟨{ scriptedDevice.1 with uplinkCount := 2 }, ⟨rfl, rfl, rfl, rfl, rfl, rfl, rfl, rfl,
      rfl⟩⟩ "tenant" false,
    .newDevice scriptedDevice "tenant" true,
    .slot 0 (.session activated), .slot 1 .go, .slot 0 (.command ⟨"dropout", "trigger"⟩),
    .slot 0 .go, .slot 0 (.choose ⟨0, 0, 0⟩), .slot 0 (.next (fun _ _ => .nil) 0)] ++
  ([LoopStep.go, .go, .go] ++ uplinkWith 5 .nil).map (FleetStep.slot 0)

theorem conserved_twoDevices :
    ∃ f, exec (Fleet.step .plain) Fleet.empty twoDevices = some f ∧ Conserved .plain f :=
  ⟨_, rfl, conserved .plain twoDevices _ rfl (by decide)⟩

end ChirpStackSimulator.UplinkLoop
