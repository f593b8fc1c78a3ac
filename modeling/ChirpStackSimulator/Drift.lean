/-
  The drift law.

  While a sensor drifts, each uplink sent carries half a unit more than the one before, from 0 on.
  One accumulator serves the manual drift and the drawn one.  It is reset by a stop, by a draw and by
  the last uplink of a drawn anomaly — but not by a manual start, and a stop resets it also when the
  drift in force is a drawn one.

  1. **Episodes** — `History` counts the uplinks sent in the episode in force, and remembers whether a
     drift uplink was sent since the last reset.
  2. **The law** (`Lawful`) — the uplink carries what the episode's count says, and so would the next.
  3. `lawful_iff`: the law holds along a run exactly when no drift episode begins, and no stop falls
     into a drawn one, while a drift uplink since the last reset is on record.
-/
import ChirpStackSimulator.AnomalyDuration
import ChirpStackSimulator.Lib.Run

namespace ChirpStackSimulator.DataUp

open LoRaWAN Transition

/-! ## Episodes -/

/-- A drift is in force: the manual command's, or the drawn one when no manual anomaly is active. -/
def Drifting (d : Device) : Prop :=
  if d.manualAnomalyActive then d.manualAnomalyType = "drift" else d.activeAnomalyType = "drift"

instance (d : Device) : Decidable (Drifting d) := by unfold Drifting; infer_instance

/-- A device with the part of its past the law speaks of. -/
structure History where
  device : Device
  /-- Uplinks sent in the drift episode in force; 0 when there is none. -/
  sent : Nat
  /-- A drift uplink was sent since the last stop, draw or end of a drawn anomaly. -/
  onRecord : Bool

section
variable (lib : Library) (runScript : String → ScriptEnv → ScriptResult)

/-- The call sends an uplink under a drift. -/
def SendsDrift (d : Device) (r : Draws) : Prop :=
  (chooseAnomaly d r).2.anomaly = "drift" ∧ (dataUp lib runScript d r).sent.isSome

instance (d : Device) (r : Draws) : Decidable (SendsDrift lib runScript d r) := by
  unfold SendsDrift; infer_instance

/-- The call sends the last uplink of a drawn anomaly. -/
def SendsLast (d : Device) (r : Draws) : Prop :=
  (chooseAnomaly d r).2.isManual = false ∧ (chooseAnomaly d r).2.anomaly ≠ "" ∧
    (chooseAnomaly d r).1.activeAnomalyRemaining ≤ 1 ∧ (dataUp lib runScript d r).sent.isSome

instance (d : Device) (r : Draws) : Decidable (SendsLast lib runScript d r) := by
  unfold SendsLast; infer_instance

/-- The next call, with what it adds to the past.  A command begins a new episode or none, and a
    stop ends a manual episode; a stop without a manual anomaly leaves a drawn episode in force. -/
def record (s : History) (c : Call) : Option History :=
  let d := call lib runScript s.device c
  match c with
  | .setManual _ true => some ⟨d, 0, s.onRecord⟩
  | .setManual _ false => some ⟨d, if s.device.manualAnomalyActive then 0 else s.sent, false⟩
  | .dataUp r => some
      ⟨d,
        if Drifting d then s.sent + (if SendsDrift lib runScript s.device r then 1 else 0) else 0,
        if SendsLast lib runScript s.device r then false
        else if SendsDrift lib runScript s.device r then true
        else if r.DrawIn s.device then false
        else s.onRecord⟩

/-! ## The law -/

/-- The drift offset a call builds its uplink with, in half units. -/
def carried (d : Device) (r : Draws) : Nat := (chooseAnomaly d r).1.driftAccumulated

/-- In an episode, the next uplink would carry what the uplinks sent so far add up to. -/
def InStep (s : History) : Prop := Drifting s.device → s.device.driftAccumulated = s.sent

instance (s : History) : Decidable (InStep s) := by unfold InStep; infer_instance

/-- **The drift law at one call**: an uplink sent under a drift is the `k`-th of its episode and
    carries `k - 1` half units, and the call leaves the accumulator in step — at 0 when an episode
    begins with it. -/
def Lawful (s : History) (c : Call) : Prop :=
  (∀ r, c = .dataUp r → SendsDrift lib runScript s.device r →
    carried s.device r = if r.DrawIn s.device then 0 else s.sent) ∧
  ∀ s', record lib runScript s c = some s' → InStep s'

/-- The call clears a manual one-shot. -/
def ClearsOneShot (d : Device) (r : Draws) : Prop :=
  d.manualAnomalyActive = true ∧
    (d.manualAnomalyType = "dropout" ∨
      d.manualAnomalyType = "spike" ∧ (dataUp lib runScript d r).sent.isSome)

instance (d : Device) (r : Draws) : Decidable (ClearsOneShot lib runScript d r) := by
  unfold ClearsOneShot; infer_instance

/-- The calls after which the accumulator must be 0 find no drift uplink on record: a drift command,
    a stop in a drawn episode, and a one-shot that gives way to a drawn drift. -/
def Clean (s : History) : Call → Prop
  | .setManual anomalyType true => anomalyType = "drift" → s.onRecord = false
  | .setManual _ false =>
    s.device.manualAnomalyActive = false → s.device.activeAnomalyType = "drift" →
      s.onRecord = false
  | .dataUp r =>
    ClearsOneShot lib runScript s.device r → s.device.activeAnomalyType = "drift" →
      s.onRecord = false

instance (s : History) : DecidablePred (Clean lib runScript s)
  | .setManual anomalyType true =>
    inferInstanceAs (Decidable (anomalyType = "drift" → s.onRecord = false))
  | .setManual _ false =>
    inferInstanceAs (Decidable (s.device.manualAnomalyActive = false →
      s.device.activeAnomalyType = "drift" → s.onRecord = false))
  | .dataUp r =>
    inferInstanceAs (Decidable (ClearsOneShot lib runScript s.device r →
      s.device.activeAnomalyType = "drift" → s.onRecord = false))

end

/-! ## What a call does to the accumulator -/

section
variable {lib : Library} {runScript : String → ScriptEnv → ScriptResult}

/-- Without a manual anomaly, the call is governed by what is then the active one. -/
theorem chooseAnomaly_automatic {d : Device} {r : Draws} (hm : d.manualAnomalyActive = false) :
    (chooseAnomaly d r).2.isManual = false ∧
      (chooseAnomaly d r).1.manualAnomalyActive = false ∧
      (chooseAnomaly d r).1.activeAnomalyType = (chooseAnomaly d r).2.anomaly := by
  rcases chooseAnomaly_cases d r with ⟨h, -⟩ | ⟨-, -, hc⟩ | ⟨-, -, -, hc⟩ | ⟨-, hnone, -, hc⟩
  · rw [hm] at h
    exact absurd h (by decide)
  · rw [hc]
    exact ⟨rfl, hm, rfl⟩
  · rw [hc]
    exact ⟨rfl, hm, rfl⟩
  · rw [hc]
    exact ⟨rfl, hm, hnone⟩

/-- Only a draw resets the accumulator before the payload is built. -/
theorem carried_eq (d : Device) (r : Draws) :
    carried d r = if r.DrawIn d then 0 else d.driftAccumulated := by
  unfold carried
  rcases chooseAnomaly_cases d r with ⟨hm, hc⟩ | ⟨-, ha, hc⟩ | ⟨hm, ha, hh, hc⟩ | ⟨-, -, hh, hc⟩
  · rw [hc, if_neg fun h => absurd (hm.symm.trans h.1) (by decide)]
  · rw [hc, if_neg fun h => ha h.2.1]
  · rw [hc, if_pos ⟨hm, ha, hh⟩]
  · rw [hc, if_neg fun h => hh h.2.2]

variable (lib runScript) in
/-- **The accumulator after a call**: nothing after the last uplink of a drawn anomaly, else what the
    uplink carried, and one more if it was sent under a drift. -/
theorem driftAccumulated_dataUp (d : Device) (r : Draws) :
    (dataUp lib runScript d r).device.driftAccumulated =
      if SendsLast lib runScript d r then 0
      else carried d r + (if SendsDrift lib runScript d r then 1 else 0) := by
  rcases dataUp_cases lib runScript d r with
    ⟨-, hd⟩ | ⟨-, payload, -, hd⟩ | ⟨hdrop, payload, phy, -, hd⟩
  · -- a dropped uplink was not sent
    cases hman : (chooseAnomaly d r).2.isManual <;>
      simp [SendsLast, SendsDrift, carried, hd, dropoutSection, clearManual, hman]
  · simp [SendsLast, SendsDrift, carried, hd]
  · simp only [SendsLast, SendsDrift, carried, hd]
    generalize (chooseAnomaly d r).1 = d₁ at *
    generalize (chooseAnomaly d r).2 = c at *
    simp only [finishSection, Option.isSome_some, and_true]
    by_cases hnone : c.anomaly = ""
    · simp [hnone]
    · by_cases hman : c.isManual = true
      · -- a manual anomaly has no last uplink
        by_cases hspike : c.anomaly = "spike"
        · simp [hspike, hman, clearManual]
        · by_cases hdrift : c.anomaly = "drift" <;> simp [hnone, hman, hspike, hdrop, hdrift]
      · have hlast : d₁.activeAnomalyRemaining ≤ 1 ↔ d₁.activeAnomalyRemaining - 1 ≤ 0 := by omega
        by_cases hdrift : c.anomaly = "drift" <;>
          by_cases hrem : d₁.activeAnomalyRemaining - 1 ≤ 0 <;>
          simp [hnone, hman, hdrift, hlast, hrem, countDown]

variable (lib runScript) in
/-- What a call under a manual anomaly does to the manual fields. -/
theorem manual_dataUp {d : Device} {r : Draws} (hm : d.manualAnomalyActive = true) :
    (ClearsOneShot lib runScript d r →
      (dataUp lib runScript d r).device.manualAnomalyActive = false) ∧
    (¬ ClearsOneShot lib runScript d r →
      (dataUp lib runScript d r).device.manualAnomalyActive = true ∧
        (dataUp lib runScript d r).device.manualAnomalyType = d.manualAnomalyType) := by
  have hc : chooseAnomaly d r = (d, ⟨d.manualAnomalyType, true⟩) := if_pos hm
  unfold ClearsOneShot
  rcases dataUp_cases lib runScript d r with
    ⟨hdrop, hd⟩ | ⟨hdrop, payload, -, hd⟩ | ⟨hdrop, payload, phy, -, hd⟩
  · rw [hc] at hdrop
    rw [hd, hc]
    exact ⟨fun _ => rfl, fun h => absurd ⟨hm, Or.inl hdrop⟩ h⟩
  · rw [hc] at hdrop
    rw [hd, hc]
    refine ⟨fun h => ?_, fun _ => ⟨hm, rfl⟩⟩
    rcases h.2 with h | ⟨-, h⟩
    · exact absurd h hdrop
    · exact absurd h (by simp)
  · rw [hc] at hdrop
    rw [hd, hc]
    have hdrop' : d.manualAnomalyType ≠ "dropout" := hdrop
    by_cases hspike : d.manualAnomalyType = "spike"
    · exact ⟨fun _ => by simp [finishSection, hspike, clearManual],
        fun h => absurd ⟨hm, Or.inr ⟨hspike, rfl⟩⟩ h⟩
    · refine ⟨fun h => ?_, fun _ => ?_⟩
      · rcases h.2 with h | ⟨h, -⟩
        · exact absurd h hdrop'
        · exact absurd h hspike
      · simp only [finishSection, hspike, hdrop', or_self, if_false, if_true]
        split
        · exact ⟨hm, rfl⟩
        · split <;> exact ⟨hm, rfl⟩

/-- A drift that is in force after a call without a manual anomaly governed the call, and the call
    did not end it. -/
theorem drifting_dataUp {d : Device} {r : Draws} (hm : d.manualAnomalyActive = false)
    (h : Drifting (dataUp lib runScript d r).device) :
    (chooseAnomaly d r).2.anomaly = "drift" ∧ ¬ SendsLast lib runScript d r := by
  obtain ⟨hman, hoff, hact⟩ := chooseAnomaly_automatic (r := r) hm
  unfold SendsLast
  rcases dataUp_cases lib runScript d r with
    ⟨hdrop, hd⟩ | ⟨hdrop, payload, -, hd⟩ | ⟨hdrop, payload, phy, -, hd⟩
  · -- a dropped uplink keeps the active type "dropout" or clears it
    rw [hd] at h
    simp only [Drifting, dropoutSection, hman, Bool.false_eq_true, if_false, hoff, hact, hdrop] at h
    split at h <;> exact absurd h (by decide)
  · rw [hd] at h
    simp only [Drifting, hoff, Bool.false_eq_true, if_false, hact] at h
    rw [hd]
    exact ⟨h, by simp⟩
  · rw [hd] at h ⊢
    generalize (chooseAnomaly d r).1 = d₁ at *
    generalize (chooseAnomaly d r).2 = c at *
    simp only [Drifting, finishSection, hman, Bool.false_eq_true, if_false] at h
    by_cases hnone : c.anomaly = ""
    · simp [hnone, hoff, hact] at h
    · have hlast : d₁.activeAnomalyRemaining ≤ 1 ↔ d₁.activeAnomalyRemaining - 1 ≤ 0 := by omega
      by_cases hdrift : c.anomaly = "drift" <;>
        by_cases hrem : d₁.activeAnomalyRemaining - 1 ≤ 0 <;>
        simp [hnone, hdrift, hrem, countDown, hoff, hact] at h
      exact ⟨hdrift, by simp [hlast, hrem]⟩

/-! ## The law along a run -/

/-- The count of the episode, and the record of the accumulator. -/
structure Accounted (s : History) : Prop where
  inStep : InStep s
  off : ¬ Drifting s.device → s.sent = 0
  onRecord : s.onRecord = false ↔ s.device.driftAccumulated = 0

/-- An uplink sent under a drift carries what the episode's count says. -/
theorem carried_of_accounted {s : History} (hs : Accounted s) {r : Draws}
    (hdrift : (chooseAnomaly s.device r).2.anomaly = "drift") :
    carried s.device r = if r.DrawIn s.device then 0 else s.sent := by
  rw [carried_eq]
  by_cases hdraw : r.DrawIn s.device
  · rw [if_pos hdraw, if_pos hdraw]
  · rw [if_neg hdraw, if_neg hdraw]
    refine hs.inStep ?_
    unfold Drifting
    rcases chooseAnomaly_cases s.device r with
      ⟨hm, hc⟩ | ⟨hm, -, hc⟩ | ⟨hm, ha, hh, -⟩ | ⟨-, -, -, hc⟩
    · rw [hc] at hdrift
      rw [if_pos hm]
      exact hdrift
    · rw [hc] at hdrift
      rw [if_neg (by simp [hm])]
      exact hdrift
    · exact absurd ⟨hm, ha, hh⟩ hdraw
    · rw [hc] at hdrift
      exact absurd hdrift (by simp)

/-- Under a manual anomaly the accumulator stays in step, unless a one-shot gives way to a drawn
    drift with a drift uplink on record. -/
theorem inStep_dataUp_iff_of_manual {s s' : History} (hs : Accounted s) {r : Draws}
    (hm : s.device.manualAnomalyActive = true)
    (h : record lib runScript s (.dataUp r) = some s') :
    InStep s' ↔ Clean lib runScript s (.dataUp r) := by
  obtain rfl := Option.some.inj h
  have hacc := driftAccumulated_dataUp lib runScript s.device r
  have hc : chooseAnomaly s.device r = (s.device, ⟨s.device.manualAnomalyType, true⟩) := if_pos hm
  have hnolast : ¬ SendsLast lib runScript s.device r := by
    rintro ⟨hman, -⟩
    rw [hc] at hman
    exact absurd hman (by simp)
  have hnodraw : ¬ r.DrawIn s.device := fun hd => absurd (hm.symm.trans hd.1) (by decide)
  rw [if_neg hnolast, carried_eq, if_neg hnodraw] at hacc
  obtain ⟨hclears, hkeeps⟩ := manual_dataUp lib runScript (r := r) hm
  have hactive := (dataUp_manual lib runScript (d := s.device) (r := r) (by rw [hc])).1
  by_cases hclear : ClearsOneShot lib runScript s.device r
  · -- the one-shot gives way to the drawn anomaly, whatever that is
    have hnodrift : s.device.manualAnomalyType ≠ "drift" := by
      rcases hclear.2 with ht | ⟨ht, -⟩ <;> rw [ht] <;> decide
    have hsend : ¬ SendsDrift lib runScript s.device r := by
      rintro ⟨hd, -⟩
      rw [hc] at hd
      exact hnodrift hd
    have hsent : s.sent = 0 := hs.off (by unfold Drifting; rw [if_pos hm]; exact hnodrift)
    have hdrifting : Drifting (dataUp lib runScript s.device r).device ↔
        s.device.activeAnomalyType = "drift" := by
      unfold Drifting
      rw [if_neg (by simp [hclears hclear]), hactive]
    show (Drifting (dataUp lib runScript s.device r).device → _ = _) ↔
      (ClearsOneShot lib runScript s.device r → s.device.activeAnomalyType = "drift" →
        s.onRecord = false)
    rw [hdrifting, hs.onRecord]
    constructor
    · intro hlaw _ hd
      have hzero := hlaw hd
      simpa [call, hacc, hsend, hsent] using hzero
    · intro hclean hd
      have hzero := hclean hclear hd
      simp [call, hacc, hsend, hsent, hzero]
  · -- the manual anomaly stays, and a drift goes on as it was
    obtain ⟨hm', ht'⟩ := hkeeps hclear
    refine ⟨fun _ h => absurd h hclear, fun _ hdrifting => ?_⟩
    have hdrift : Drifting s.device := by
      have hd : Drifting (dataUp lib runScript s.device r).device := hdrifting
      unfold Drifting at hd ⊢
      rw [if_pos hm', ht'] at hd
      rw [if_pos hm]
      exact hd
    show (dataUp lib runScript s.device r).device.driftAccumulated = if _ then _ else _
    rw [if_pos hdrifting, hacc, hs.inStep hdrift]

/-- Without a manual anomaly the accumulator stays in step. -/
theorem inStep_dataUp {s s' : History} (hs : Accounted s) {r : Draws}
    (hm : s.device.manualAnomalyActive = false)
    (h : record lib runScript s (.dataUp r) = some s') : InStep s' := by
  obtain rfl := Option.some.inj h
  intro hdrifting
  have hacc := driftAccumulated_dataUp lib runScript s.device r
  obtain ⟨hdrift, hnolast⟩ := drifting_dataUp hm hdrifting
  show (dataUp lib runScript s.device r).device.driftAccumulated = if _ then _ else _
  rw [if_pos hdrifting, hacc, if_neg hnolast, carried_of_accounted hs hdrift]
  by_cases hdraw : r.DrawIn s.device
  · -- a draw begins an episode
    have hsent : s.sent = 0 := by
      refine hs.off ?_
      unfold Drifting
      rw [if_neg (by simp [hm]), hdraw.2.1]
      decide
    rw [if_pos hdraw, hsent]
  · rw [if_neg hdraw]

/-- A call of `dataUp` leaves the accumulator in step exactly when it is clean. -/
theorem inStep_dataUp_iff {s s' : History} (hs : Accounted s) {r : Draws}
    (h : record lib runScript s (.dataUp r) = some s') :
    InStep s' ↔ Clean lib runScript s (.dataUp r) := by
  by_cases hm : s.device.manualAnomalyActive = true
  · exact inStep_dataUp_iff_of_manual hs hm h
  · have hm' : s.device.manualAnomalyActive = false := by simpa using hm
    exact ⟨fun _ hclear => absurd hclear.1 hm, fun _ => inStep_dataUp hs hm' h⟩

/-- A command leaves the accumulator in step exactly when it is clean. -/
theorem inStep_setManual_iff {s s' : History} (hs : Accounted s) {anomalyType : String}
    {active : Bool} (h : record lib runScript s (.setManual anomalyType active) = some s') :
    InStep s' ↔ Clean lib runScript s (.setManual anomalyType active) := by
  cases active with
  | true =>
    obtain rfl := Option.some.inj h
    show ((if true = true then anomalyType = "drift" else _) → s.device.driftAccumulated = 0) ↔
      (anomalyType = "drift" → s.onRecord = false)
    rw [if_pos rfl, hs.onRecord]
  | false =>
    obtain rfl := Option.some.inj h
    show ((if false = true then anomalyType = "drift" else s.device.activeAnomalyType = "drift") →
        0 = if s.device.manualAnomalyActive = true then 0 else s.sent) ↔
      (s.device.manualAnomalyActive = false → s.device.activeAnomalyType = "drift" →
        s.onRecord = false)
    rw [if_neg (by decide), hs.onRecord]
    by_cases hm : s.device.manualAnomalyActive = true
    · simp [hm]
    · have hm' : s.device.manualAnomalyActive = false := by simpa using hm
      have hinStep : s.device.activeAnomalyType = "drift" → s.device.driftAccumulated = s.sent := by
        intro ha
        refine hs.inStep ?_
        unfold Drifting
        rw [if_neg hm]
        exact ha
      rw [if_neg hm]
      constructor
      · intro hlaw _ ha
        rw [hinStep ha, ← hlaw ha]
      · intro hclean ha
        rw [← hinStep ha, hclean hm' ha]

theorem lawful_iff_clean {s : History} (hs : Accounted s) (c : Call) :
    Lawful lib runScript s c ↔ Clean lib runScript s c := by
  cases c with
  | dataUp r =>
    obtain ⟨s', hs'⟩ : ∃ s', record lib runScript s (.dataUp r) = some s' := ⟨_, rfl⟩
    rw [← inStep_dataUp_iff hs hs']
    constructor
    · exact fun h => h.2 s' hs'
    · refine fun h => ⟨fun r' hr' hsend => ?_, fun t ht => ?_⟩
      · obtain rfl : r = r' := by simpa using hr'
        exact carried_of_accounted hs hsend.1
      · rw [hs'] at ht
        exact Option.some.inj ht ▸ h
  | setManual anomalyType active =>
    obtain ⟨s', hs'⟩ : ∃ s', record lib runScript s (.setManual anomalyType active) = some s' := by
      cases active <;> exact ⟨_, rfl⟩
    rw [← inStep_setManual_iff hs hs']
    constructor
    · exact fun h => h.2 s' hs'
    · refine fun h => ⟨fun r' hr' => absurd hr' (by simp), fun t ht => ?_⟩
      rw [hs'] at ht
      exact Option.some.inj ht ▸ h

/-- The count is 0 whenever no drift is in force. -/
theorem off_record {s s' : History} {c : Call} (hs : Accounted s)
    (h : record lib runScript s c = some s') (hoff : ¬ Drifting s'.device) : s'.sent = 0 := by
  cases c with
  | dataUp r =>
    obtain rfl := Option.some.inj h
    exact if_neg hoff
  | setManual anomalyType active =>
    cases active with
    | true =>
      obtain rfl := Option.some.inj h
      rfl
    | false =>
      obtain rfl := Option.some.inj h
      show (if s.device.manualAnomalyActive = true then 0 else s.sent) = 0
      by_cases hm : s.device.manualAnomalyActive = true
      · rw [if_pos hm]
      · -- the stop changes nothing but the accumulator
        rw [if_neg hm]
        refine hs.off fun hd => hoff ?_
        unfold Drifting at hd
        rw [if_neg hm] at hd
        exact hd

/-- The record says whether the accumulator is 0. -/
theorem onRecord_record {s s' : History} {c : Call} (hs : Accounted s)
    (h : record lib runScript s c = some s') :
    s'.onRecord = false ↔ s'.device.driftAccumulated = 0 := by
  cases c with
  | dataUp r =>
    obtain rfl := Option.some.inj h
    show ((if SendsLast lib runScript s.device r then false
        else if SendsDrift lib runScript s.device r then true
        else if r.DrawIn s.device then false else s.onRecord) = false) ↔
      (dataUp lib runScript s.device r).device.driftAccumulated = 0
    rw [driftAccumulated_dataUp, carried_eq]
    by_cases hlast : SendsLast lib runScript s.device r
    · simp [hlast]
    · by_cases hsend : SendsDrift lib runScript s.device r
      · simp [hlast, hsend]
      · by_cases hdraw : r.DrawIn s.device
        · simp [hlast, hsend, hdraw]
        · simp [hlast, hsend, hdraw, hs.onRecord]
  | setManual anomalyType active =>
    cases active with
    | true =>
      obtain rfl := Option.some.inj h
      exact hs.onRecord
    | false =>
      obtain rfl := Option.some.inj h
      exact ⟨fun _ => rfl, fun _ => rfl⟩

theorem accounted_record {s s' : History} {c : Call} (hs : Accounted s)
    (hlaw : Lawful lib runScript s c) (h : record lib runScript s c = some s') : Accounted s' :=
  ⟨hlaw.2 s' h, off_record hs h, onRecord_record hs h⟩

/-- **The drift law holds exactly along the clean runs**: those in which no drift episode begins,
    and no stop falls into a drawn one, with a drift uplink since the last reset on record. -/
theorem lawful_iff (d : Device) (hd : d.Fresh) (cs : List Call) :
    Always (record lib runScript) (Lawful lib runScript) ⟨d, 0, false⟩ cs ↔
      Always (record lib runScript) (Clean lib runScript) ⟨d, 0, false⟩ cs := by
  have hinit : Accounted ⟨d, 0, false⟩ :=
    ⟨fun _ => hd.driftAccumulated, fun _ => rfl, fun _ => hd.driftAccumulated, fun _ => rfl⟩
  exact always_congr (I := Accounted) (fun s c hs => lawful_iff_clean hs c)
    (fun s c s' hs hlaw h => accounted_record hs hlaw h) cs hinit

end

/-- A device with the default payload, and no anomalies of its own. -/
def steadyDevice : Device := { Device.zero with payload := [1, 2, 3, 4, 5], fPort := 10 }

theorem fresh_steadyDevice : steadyDevice.Fresh := ⟨rfl, rfl, rfl, rfl, rfl, rfl, rfl, rfl, rfl⟩

theorem lawful_iff_stopped :
    Always (record .plain noScript) (Lawful .plain noScript) ⟨steadyDevice, 0, false⟩
      [.setManual "drift" true, .dataUp ⟨0, 0, 0⟩, .dataUp ⟨0, 0, 0⟩, .setManual "" false,
        .setManual "drift" true, .dataUp ⟨0, 0, 0⟩] :=
  (lawful_iff steadyDevice fresh_steadyDevice _).mpr (by decide)

/-- A drift command repeated after two uplinks: the first uplink of the new episode carries 1.0. -/
theorem restarted_drift_not_lawful :
    ¬ Always (record .plain noScript) (Lawful .plain noScript) ⟨steadyDevice, 0, false⟩
      [.setManual "drift" true, .dataUp ⟨0, 0, 0⟩, .dataUp ⟨0, 0, 0⟩, .setManual "drift" true,
        .dataUp ⟨0, 0, 0⟩] := by
  rintro ⟨-, h⟩
  obtain ⟨-, h⟩ := h _ rfl
  obtain ⟨-, h⟩ := h _ rfl
  obtain ⟨-, h⟩ := h _ rfl
  obtain ⟨⟨hcarried, -⟩, -⟩ := h _ rfl
  exact absurd (hcarried ⟨0, 0, 0⟩ rfl (by decide)) (by decide)

end ChirpStackSimulator.DataUp
