/-
  The random walk of the humidity template (`templates.humidity` of `dynamic-telemetry.js`).

  A call of the script walks from the start again, one step for every frame counter.  The generator is
  `state = (a * state + c) % m` with the `%` of JavaScript, which keeps the sign of its left side, so a
  generator that starts below zero stays there.

  1. **The walk** — `Walk` is the state of the generator and the humidity, `step` one round of the loop.

  2. **Bounds** (`Walk.Bounded`) hold after every number of steps from a seed of the generator's range,
     and from no other (`bounded_walkTo_iff`).

  3. **The law** (`humidity_walk_bounded`): the seed of every device EUI is zero under the mask, so the
     walk of every device keeps within its bounds.

  4. **Payloads** (`humidity_payload`): the byte a device sends is a percentage, whatever the anomaly.
-/
import ChirpStackSimulator.Telemetry
import Mathlib.Algebra.Order.Floor.Ring

namespace ChirpStackSimulator.Telemetry

open LoRaWAN JsNumber
open DataUp (ScriptAnomaly ScriptEnv ScriptResult)

/-! ## The walk -/

/-- The modulus of the generator. -/
def m : ℤ := 0x80000000

/-- The variables of the script: the generator's `state` and the humidity. -/
structure Walk where
  state : ℤ
  humidity : ℚ

namespace Walk

/-- `state = (a * state + c) % m`. -/
def nextState (w : Walk) : ℤ :=
  let a := 1103515245
  let c := 12345
  (a * w.state + c).tmod m

/-- What `rand()` returns next. -/
def rand (w : Walk) : ℚ := w.nextState / (m - 1)

/-- The change of the next step. -/
def change (w : Walk) : ℚ := (w.rand - 0.5) * 4

/-- One round of the loop. -/
def step (w : Walk) : Walk :=
  let humidity := w.humidity + w.change
  let humidity := if humidity < 30 then 30 else humidity
  let humidity := if humidity > 90 then 90 else humidity
  ⟨w.nextState, humidity⟩

/-- `lcg(seed)` and the humidity to begin with. -/
def start (seed : ℤ) : Walk := ⟨if seed ≠ 0 then seed else 0, 60⟩

end Walk

/-- The walk after so many rounds. -/
def walkTo (seed : ℤ) (fCnt : ℕ) : Walk := Walk.step^[fCnt] (.start seed)

/-! ## Bounds -/

namespace Walk

/-- The invariant of the loop. -/
structure Bounded (w : Walk) : Prop where
  state_nonneg : 0 ≤ w.state
  state_lt : w.state < 2 ^ 31
  humidity_ge : 30 ≤ w.humidity
  humidity_le : w.humidity ≤ 90

/-- A generator that is not negative gives a remainder that is not. -/
theorem nextState_mem {w : Walk} (h : 0 ≤ w.state) : 0 ≤ w.nextState ∧ w.nextState < 2 ^ 31 :=
  ⟨Int.tmod_nonneg m (by omega), Int.tmod_lt_of_pos _ (by decide)⟩

theorem Bounded.rand_mem {w : Walk} (h : w.Bounded) : 0 ≤ w.rand ∧ w.rand ≤ 1 := by
  obtain ⟨hnonneg, hlt⟩ := nextState_mem h.state_nonneg
  have hm : ((m : ℚ) - 1) = 2147483647 := by norm_num [m]
  have hge : (0 : ℚ) ≤ w.nextState := by exact_mod_cast hnonneg
  have hle : (w.nextState : ℚ) ≤ 2147483647 := by exact_mod_cast Int.le_sub_one_of_lt hlt
  rw [rand, hm]
  exact ⟨by positivity, (div_le_one (by norm_num)).mpr hle⟩

theorem Bounded.change_le {w : Walk} (h : w.Bounded) : |w.change| ≤ 2 := by
  obtain ⟨hge, hle⟩ := h.rand_mem
  rw [change, abs_le]
  constructor <;> linarith

/-- Whatever it is changed by, the humidity is put back between its limits. -/
theorem step_humidity_mem (w : Walk) : 30 ≤ w.step.humidity ∧ w.step.humidity ≤ 90 := by
  simp only [step]
  split
  · norm_num
  · rename_i hge
    split
    · norm_num
    · rename_i hle
      exact ⟨not_lt.mp hge, not_lt.mp hle⟩

theorem Bounded.step {w : Walk} (h : w.Bounded) : w.step.Bounded :=
  ⟨(nextState_mem h.state_nonneg).1, (nextState_mem h.state_nonneg).2, w.step_humidity_mem.1,
    w.step_humidity_mem.2⟩

theorem bounded_start_iff {seed : ℤ} : (start seed).Bounded ↔ 0 ≤ seed ∧ seed < 2 ^ 31 := by
  have hstate : (start seed).state = seed := by
    show (if seed ≠ 0 then seed else 0) = seed
    split
    · rfl
    · omega
  constructor
  · intro h
    have hnonneg := h.state_nonneg
    have hlt := h.state_lt
    rw [hstate] at hnonneg hlt
    exact ⟨hnonneg, hlt⟩
  · rintro ⟨hnonneg, hlt⟩
    exact ⟨by rw [hstate]; exact hnonneg, by rw [hstate]; exact hlt, by norm_num [start],
      by norm_num [start]⟩

end Walk

/-- The walk keeps its bounds from a seed that is within them, and from no other. -/
theorem bounded_walkTo_iff {seed : ℤ} :
    (∀ fCnt, (walkTo seed fCnt).Bounded) ↔ 0 ≤ seed ∧ seed < 2 ^ 31 := by
  rw [← Walk.bounded_start_iff]
  constructor
  · intro h
    exact h 0
  · intro h fCnt
    induction fCnt with
    | zero => exact h
    | succ fCnt ih =>
      rw [walkTo, Function.iterate_succ_apply']
      exact ih.step

/-! ## The law -/

/-- The seed of a device is zero under the mask. -/
theorem bounded_walk (devEUI : EuiText) (fCnt : ℕ) :
    (walkTo (band (seed devEUI) 0xFFFFFFFF) fCnt).Bounded :=
  bounded_walkTo_iff.mpr (by rw [mask_seed]; norm_num) fCnt

/-- The walk of every device: the generator's state, the next `rand()` and change, and the humidity
    are within their bounds at every frame counter. -/
theorem humidity_walk_bounded (devEUI : EuiText) (fCnt : ℕ) :
    let w := walkTo (band (seed devEUI) 0xFFFFFFFF) fCnt
    (0 ≤ w.state ∧ w.state < 2 ^ 31) ∧ (0 ≤ w.rand ∧ w.rand ≤ 1) ∧ |w.change| ≤ 2 ∧
      30 ≤ w.humidity ∧ w.humidity ≤ 90 := by
  have h := bounded_walk devEUI fCnt
  exact ⟨⟨h.state_nonneg, h.state_lt⟩, h.rand_mem, h.change_le, h.humidity_ge, h.humidity_le⟩

/-! ## Payloads -/

/-- The anomaly acts on the humidity at the end of the walk. -/
def withAnomaly (humidity : ℚ) (anomaly : Option ScriptAnomaly) : ℚ :=
  match anomaly with
  | none => humidity
  | some a =>
    if a.active then
      if a.type = "spike" then 95
      else if a.type = "drift" then
        let humidity := humidity + a.driftValue / 2
        let humidity := if humidity > 100 then 100 else humidity
        if humidity < 0 then 0 else humidity
      else humidity
    else humidity

/-- The humidity template. -/
def humidity (devEUI : EuiText) (fCnt : UInt32) (anomaly : Option ScriptAnomaly) : List ℤ :=
  let w := walkTo (band (seed devEUI) 0xFFFFFFFF) fCnt.toNat
  [mathRound (withAnomaly w.humidity anomaly)]

/-- The template as the script of a device. -/
def humidityScript (env : ScriptEnv) : ScriptResult :=
  .array ((humidity (.ofEUI64 env.devEUI) env.fCnt (some env.anomaly)).map .int)

/-- A drift only adds, and stops at 100. -/
theorem withAnomaly_mem {humidity : ℚ} (hge : 30 ≤ humidity) (hle : humidity ≤ 90)
    (anomaly : Option ScriptAnomaly) :
    30 ≤ withAnomaly humidity anomaly ∧ withAnomaly humidity anomaly ≤ 100 := by
  have hself : 30 ≤ humidity ∧ humidity ≤ 100 := ⟨hge, by linarith⟩
  unfold withAnomaly
  split
  · exact hself
  · rename_i a
    split
    · split
      · norm_num
      · split
        · have hdrift : (0 : ℚ) ≤ (a.driftValue : ℚ) / 2 := by positivity
          by_cases hfull : humidity + a.driftValue / 2 > 100
          · simp only [if_pos hfull]
            norm_num
          · simp only [if_neg hfull]
            rw [if_neg (by linarith)]
            exact ⟨by linarith, by linarith⟩
        · exact hself
    · exact hself

/-- A device with this script sends a percentage. -/
theorem humidity_payload {d : Device} (h : d.payloadScript ≠ "") (c : DataUp.Choice)
    (drift nowNs : ℕ) :
    ∃ b : UInt8, DataUp.newPayload (fun _ => humidityScript) d c drift nowNs = [b] ∧
      30 ≤ b.toNat ∧ b.toNat ≤ 100 := by
  have hwalk := bounded_walk (.ofEUI64 d.devEUI) d.fCntUp.toNat
  obtain ⟨hge, hle⟩ := withAnomaly_mem hwalk.humidity_ge hwalk.humidity_le
    (some (DataUp.scriptAnomaly c drift))
  have hround := mathRound_mem (a := 30) (b := 100) hge hle
  have hpayload : DataUp.newPayload (fun _ => humidityScript) d c drift nowNs =
      (humidity (.ofEUI64 d.devEUI) d.fCntUp (some (DataUp.scriptAnomaly c drift))).map UInt8.ofInt := by
    rw [DataUp.newPayload, if_pos h]
    rfl
  refine ⟨_, hpayload, ?_⟩
  rw [DataUp.toNat_ofInt]
  omega

end ChirpStackSimulator.Telemetry
