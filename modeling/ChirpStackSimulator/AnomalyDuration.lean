/-
  How long a drawn anomaly lasts.

  A draw sets `activeAnomalyRemaining` to the configured duration, or to 5.  Every call of `dataUp`
  that is governed by the drawn anomaly takes one off, whether the uplink is dropped or sent; a call
  under a manual anomaly leaves both fields alone.  So the anomaly governs exactly that many
  non-manual calls, the drawing one included, and then there is none (`drawn_lasts`).

  1. **The law** (`Governs`) - over the choices of the non-manual calls, in their order; it also
     says what is the case when there are fewer of them than the duration.
  2. **One call** - a manual one leaves the two fields alone because each of its sections does
     (`goOn_isManual`, `dataUp_manual`), a governed one counts down (`dataUp_governed`).
  3. **Runs** (`governs_of_remaining`) - an induction on the calls that carries the number of calls
     that remain, which is the number the device has.
-/
import ChirpStackSimulator.DataUp

namespace ChirpStackSimulator.DataUp

open LoRaWAN

/-- The call draws a probabilistic anomaly. -/
def Draws.DrawIn (r : Draws) (d : Device) : Prop :=
  d.manualAnomalyActive = false ∧ d.activeAnomalyType = "" ∧ Hits d r

instance (r : Draws) (d : Device) : Decidable (r.DrawIn d) := by unfold Draws.DrawIn; infer_instance

section
variable (lib : Library) (runScript : String → ScriptEnv → ScriptResult)

/-- The choices of the calls of `dataUp` that are not under a manual anomaly, in order. -/
def automatic : Device → List Call → List Choice
  | _, [] => []
  | d, .setManual anomalyType active :: cs => automatic (d.setManualAnomaly anomalyType active) cs
  | d, .dataUp r :: cs =>
    let rest := automatic (dataUp lib runScript d r).device cs
    if (chooseAnomaly d r).2.isManual then rest else (chooseAnomaly d r).2 :: rest

/-- From the device `d` on, an anomaly of type `t` governs the next `n` non-manual calls, and after
    them there is none. -/
structure Governs (d : Device) (t : String) (n : Nat) (cs : List Call) : Prop where
  governed : ∀ c ∈ (automatic lib runScript d cs).take n, c = ⟨t, false⟩
  active : (automatic lib runScript d cs).length < n →
    (calls lib runScript d cs).activeAnomalyType = t
  ended : (automatic lib runScript d cs).length = n →
    (calls lib runScript d cs).activeAnomalyType = ""

end

section
variable {lib : Library} {runScript : String → ScriptEnv → ScriptResult}

/-! ## What one call does to the two fields -/

/-- The call, if one is under way, is under a manual anomaly. -/
def Pc.IsManual : Pc → Prop
  | .idle => True
  | .chosen c | .flatlined c | .driftRead c _ | .built c | .sealed c _ => c.isManual = true

variable (lib runScript) in
/-- A section of a call under a manual anomaly leaves the drawn one alone. -/
theorem goOn_isManual (nowNs : Nat) (d : Device) {pc : Pc} (h : pc.IsManual) :
    (goOn lib runScript nowNs (d, pc)).2.IsManual ∧
      (goOn lib runScript nowNs (d, pc)).1.activeAnomalyType = d.activeAnomalyType ∧
      (goOn lib runScript nowNs (d, pc)).1.activeAnomalyRemaining = d.activeAnomalyRemaining := by
  cases pc with
  | idle => exact ⟨trivial, rfl, rfl⟩
  | chosen c =>
    have hc : c.isManual = true := h
    simp only [goOn]
    split
    · rw [hc]
      exact ⟨trivial, rfl, rfl⟩
    · split <;> exact ⟨hc, rfl, rfl⟩
  | flatlined c => exact ⟨h, rfl, rfl⟩
  | driftRead c drift => exact ⟨h, rfl, rfl⟩
  | built c =>
    simp only [goOn]
    split
    · exact ⟨trivial, rfl, rfl⟩
    · exact ⟨h, rfl, rfl⟩
  | sealed c phy =>
    have hc : c.isManual = true := h
    refine ⟨trivial, ?_⟩
    simp only [goOn, finishSection, clearManual, hc, if_true]
    repeat' split
    all_goals exact ⟨rfl, rfl⟩

variable (lib runScript) in
/-- A call under a manual anomaly leaves the drawn one alone. -/
theorem dataUp_manual {d : Device} {r : Draws} (h : (chooseAnomaly d r).2.isManual = true) :
    (dataUp lib runScript d r).device.activeAnomalyType = d.activeAnomalyType ∧
      (dataUp lib runScript d r).device.activeAnomalyRemaining = d.activeAnomalyRemaining := by
  have hchoose : (chooseAnomaly d r).1 = d := by
    rcases chooseAnomaly_cases d r with ⟨-, hc⟩ | ⟨-, -, hc⟩ | ⟨-, -, -, hc⟩ | ⟨-, -, -, hc⟩
    · rw [hc]
    all_goals
      rw [hc] at h
      exact absurd h (by simp)
  -- the invariant: the call is under a manual anomaly, and the two fields are those of `d`
  refine (dataUp_invariant (P := fun s => s.2.IsManual ∧
    s.1.activeAnomalyType = d.activeAnomalyType ∧
    s.1.activeAnomalyRemaining = d.activeAnomalyRemaining) ⟨h, ?_, ?_⟩ ?_).2
  · rw [hchoose]
  · rw [hchoose]
  · rintro ⟨d', pc⟩ ⟨hpc, htype, hremaining⟩
    obtain ⟨hpc', htype', hremaining'⟩ := goOn_isManual lib runScript r.nowNs d' hpc
    exact ⟨hpc', htype'.trans htype, hremaining'.trans hremaining⟩

variable (runScript) in
/-- A call governed by a drawn anomaly takes one off, and ends the anomaly with the last one. -/
theorem dataUp_governed (hlib : Infallible lib) {d d₁ : Device} {r : Draws} {t : String}
    (ht : t ≠ "") (hc : chooseAnomaly d r = (d₁, ⟨t, false⟩)) :
    (dataUp lib runScript d r).device.activeAnomalyRemaining = d₁.activeAnomalyRemaining - 1 ∧
      (dataUp lib runScript d r).device.activeAnomalyType =
        if d₁.activeAnomalyRemaining - 1 ≤ 0 then "" else d₁.activeAnomalyType := by
  rcases dataUp_cases lib runScript d r with
    ⟨-, hd⟩ | ⟨-, payload, ⟨e, he⟩, -⟩ | ⟨-, payload, phy, -, hd⟩
  · rw [hd, hc]
    exact ⟨rfl, rfl⟩
  · obtain ⟨phy, hphy⟩ := hlib { (chooseAnomaly d r).1 with payload }
    rw [hphy] at he
    exact absurd he (by simp)
  · rw [hd, hc]
    simp only [finishSection, if_neg ht, Bool.false_eq_true, if_false, countDown]
    by_cases hdrift : t = "drift" <;>
      by_cases hlast : d₁.activeAnomalyRemaining - 1 ≤ 0 <;> simp [hdrift, hlast]

/-! ## Runs -/

/-- Without non-manual calls, no anomaly begins. -/
theorem calls_of_automatic_nil : ∀ (cs : List Call) (d : Device),
    automatic lib runScript d cs = [] →
      (calls lib runScript d cs).activeAnomalyType = d.activeAnomalyType := by
  intro cs
  induction cs with
  | nil => intro d _; rfl
  | cons c cs ih =>
    intro d hnil
    cases c with
    | setManual anomalyType active => exact ih _ hnil
    | dataUp r =>
      simp only [automatic] at hnil
      split at hnil
      · rename_i hmanual
        exact (ih _ hnil).trans (dataUp_manual lib runScript hmanual).1
      · exact absurd hnil (by simp)

variable (runScript) in
/-- While `n` calls remain, the active anomaly governs the next `n` non-manual calls. -/
theorem governs_of_remaining (hlib : Infallible lib) {t : String} (ht : t ≠ "") :
    ∀ (cs : List Call) (d : Device) (n : Nat), 0 < n → d.activeAnomalyType = t →
      d.activeAnomalyRemaining = n → Governs lib runScript d t n cs := by
  intro cs
  -- with each non-manual call `n` and the device's own count go down together
  induction cs with
  | nil =>
    intro d n hn hd _
    exact ⟨by simp [automatic], fun _ => hd, fun hlen => absurd hlen (by simp [automatic]; omega)⟩
  | cons c cs ih =>
    intro d n hn hd hrem
    cases c with
    | setManual anomalyType active =>
      obtain ⟨hgov, hact, hended⟩ := ih (d.setManualAnomaly anomalyType active) n hn hd hrem
      exact ⟨hgov, hact, hended⟩
    | dataUp r =>
      rcases chooseAnomaly_cases d r with ⟨-, hc⟩ | ⟨-, -, hc⟩ | ⟨-, hnone, -⟩ | ⟨-, hnone, -⟩
      · -- under a manual anomaly nothing is taken off
        have hmanual : (chooseAnomaly d r).2.isManual = true := by rw [hc]
        obtain ⟨htype, hrem'⟩ := dataUp_manual lib runScript hmanual
        obtain ⟨hgov, hact, hended⟩ :=
          ih (dataUp lib runScript d r).device n hn (htype.trans hd) (hrem'.trans hrem)
        have hauto : automatic lib runScript d (.dataUp r :: cs) =
            automatic lib runScript (dataUp lib runScript d r).device cs := by
          rw [automatic, if_pos hmanual]
        exact ⟨hauto ▸ hgov, hauto ▸ hact, hauto ▸ hended⟩
      · -- one of the `n` calls
        rw [hd] at hc
        obtain ⟨hrem', htype⟩ := dataUp_governed runScript hlib ht hc
        have hauto : automatic lib runScript d (.dataUp r :: cs) =
            ⟨t, false⟩ :: automatic lib runScript (dataUp lib runScript d r).device cs := by
          simp [automatic, hc]
        rw [hrem] at hrem' htype
        by_cases hlast : n = 1
        · subst hlast
          rw [if_pos (by decide)] at htype
          refine ⟨by simp [hauto], fun hlen => absurd hlen (by simp [hauto]), fun hlen => ?_⟩
          have hnil : automatic lib runScript (dataUp lib runScript d r).device cs = [] := by
            rw [hauto, List.length_cons] at hlen
            exact List.eq_nil_of_length_eq_zero (by omega)
          rw [calls_cons]
          exact (calls_of_automatic_nil cs _ hnil).trans htype
        · rw [if_neg (by omega), hd] at htype
          obtain ⟨hgov, hact, hended⟩ :=
            ih (dataUp lib runScript d r).device (n - 1) (by omega) htype (by omega)
          obtain ⟨m, rfl⟩ : ∃ m, n = m + 1 := ⟨n - 1, by omega⟩
          refine ⟨?_, fun hlen => ?_, fun hlen => ?_⟩
          · rw [hauto, List.take_succ_cons]
            intro c hmem
            rcases List.mem_cons.mp hmem with rfl | hmem
            · rfl
            · exact hgov c hmem
          · rw [hauto, List.length_cons] at hlen
            exact hact (by omega)
          · rw [hauto, List.length_cons] at hlen
            exact hended (by omega)
      · exact absurd (hd.symm.trans hnone) ht
      · exact absurd (hd.symm.trans hnone) ht

/-- **A drawn anomaly lasts**: it governs the drawing call and the non-manual calls after it, as
    many in all as the configuration says, whatever commands come in between. -/
theorem drawn_lasts (hlib : Infallible lib) (d : Device) (htypes : ∀ t ∈ d.anomalyTypes, t ≠ "")
    (r : Draws) (hdraw : r.DrawIn d) (later : List Call) :
    Governs lib runScript d (drawnType d r) (duration d).toNat (.dataUp r :: later) := by
  obtain ⟨hmanual, hnone, hhits⟩ := hdraw
  have ht : drawnType d r ≠ "" := by
    have hpos : 0 < d.anomalyTypes.length := List.length_pos_iff.mpr hhits.2.1
    have hidx := Nat.mod_lt r.index hpos
    have hget : drawnType d r = d.anomalyTypes[r.index % d.anomalyTypes.length] := by
      simp [drawnType, List.getD, hidx]
    rw [hget]
    exact htypes _ (List.getElem_mem hidx)
  have hdur : 0 < duration d := by
    unfold duration
    split <;> omega
  -- the call is the one of a device on which the anomaly was already active
  let drawn : Device :=
    { d with
      activeAnomalyType := drawnType d r
      activeAnomalyRemaining := duration d
      driftAccumulated := 0 }
  have hchoose : chooseAnomaly d r = (drawn, ⟨drawnType d r, false⟩) := by
    rcases chooseAnomaly_cases d r with ⟨h, -⟩ | ⟨-, h, -⟩ | ⟨-, -, -, hc⟩ | ⟨-, -, h, -⟩
    · exact absurd (hmanual.symm.trans h) (by decide)
    · exact absurd hnone h
    · exact hc
    · exact absurd hhits h
  have hchoose' : chooseAnomaly drawn r = (drawn, ⟨drawnType d r, false⟩) := by
    rcases chooseAnomaly_cases drawn r with ⟨h, -⟩ | ⟨-, -, hc⟩ | ⟨-, h, -⟩ | ⟨-, h, -⟩
    · exact absurd (hmanual.symm.trans h) (by decide)
    · exact hc
    · exact absurd h ht
    · exact absurd h ht
  have hsame : dataUp lib runScript d r = dataUp lib runScript drawn r := by
    simp only [dataUp, hchoose, hchoose']
  obtain ⟨hgov, hact, hended⟩ := governs_of_remaining runScript hlib ht
    (.dataUp r :: later) drawn (duration d).toNat (by omega) rfl
    (by show duration d = _; omega)
  have hauto : automatic lib runScript d (.dataUp r :: later) =
      automatic lib runScript drawn (.dataUp r :: later) := by
    simp only [automatic, hsame, hchoose, hchoose']
  have hcalls : calls lib runScript d (.dataUp r :: later) =
      calls lib runScript drawn (.dataUp r :: later) := by
    simp only [calls_cons, call, hsame]
  exact ⟨hauto ▸ hgov, hauto ▸ hcalls ▸ hact, hauto ▸ hcalls ▸ hended⟩

end

/-- Always one of two anomalies, for two uplinks. -/
def unsteadyDevice : Device :=
  { Device.zero with
    payload := [1, 2, 3, 4, 5]
    fPort := 10
    anomalyProbability := 1
    anomalyTypes := ["dropout", "drift"]
    anomalyDuration := 2 }

/-- A device without a script never asks for its result. -/
def noScript (_ : String) (_ : ScriptEnv) : ScriptResult := .nil

theorem drawn_lasts_drift :
    Governs .plain noScript unsteadyDevice "drift" 2
      [.dataUp ⟨0, 1, 0⟩, .setManual "spike" true, .dataUp ⟨0, 0, 0⟩, .dataUp ⟨0, 0, 0⟩] :=
  drawn_lasts infallible_plain unsteadyDevice (by decide) ⟨0, 1, 0⟩ (by decide)
    [.setManual "spike" true, .dataUp ⟨0, 0, 0⟩, .dataUp ⟨0, 0, 0⟩]

end ChirpStackSimulator.DataUp
