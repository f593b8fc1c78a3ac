/-
  Telemetry templates and their decoders (`templates` and `simulateTelemetry` of
  `dynamic-telemetry.js`).

  A template is a script that turns the frame counter, the device EUI and the anomaly of an uplink
  into bytes.  The preview has a decoder for each template.  Readings are exact numbers until
  `Math.round`.

  1. **The seed** of the generators is read off the device EUI in doubles.  Sixteen digits are too
     many for them: what is left of the seed ends in 32 zeros (`dvd_seed`), and a 32-bit mask takes
     all of it.

  2. **Temperature** — two bytes with a sign of their own.  They decode to the reading exactly if the
     reading is below `2 ^ 15`, which only a drift can exceed (`temperature_decodes_iff`).

  3. **Meter** — four bytes without a sign.  They decode to the reading exactly if it is below
     `2 ^ 32`, which the frame counter alone can exceed (`meter_decodes_iff`).

  4. **The law** (`templates_decode_iff`) puts the two together.
-/
import ChirpStackSimulator.DataUp
import ChirpStackSimulator.Lib.JsNumber
import Mathlib.Data.Rat.Cast.Order
import Mathlib.Tactic.FieldSimp

namespace ChirpStackSimulator.Telemetry

open LoRaWAN JsNumber
open DataUp (ScriptAnomaly)

/-! ## The seed -/

/-- A device EUI as a script is given it: sixteen hexadecimal digits, of either case. -/
structure EuiText where
  chars : List Char
  digits : ∀ c ∈ chars, (Hex.digit? c).isSome
  length_eq : chars.length = 16

theorem isSome_digit_encodeChars (bs : List UInt8) :
    ∀ c ∈ Hex.encodeChars bs, (Hex.digit? c).isSome := by
  induction bs with
  | nil => simp [Hex.encodeChars]
  | cons b bs ih =>
    have hb : b.toNat < 256 := b.toNat_lt
    intro c hc
    rcases List.mem_append.mp hc with hc | hc
    · have hcase : c = Nat.digitChar (b.toNat / 16) ∨ c = Nat.digitChar (b.toNat % 16) := by
        simpa [Hex.ofByte] using hc
      rcases hcase with rfl | rfl
      · rw [Hex.digit?_digitChar _ (by omega), Option.isSome_some]
      · rw [Hex.digit?_digitChar _ (by omega), Option.isSome_some]
    · exact ih c hc

theorem length_encodeChars (bs : List UInt8) : (Hex.encodeChars bs).length = 2 * bs.length := by
  induction bs with
  | nil => rfl
  | cons b bs ih =>
    rw [Hex.encodeChars, List.length_append, ih, List.length_cons]
    show 2 + 2 * bs.length = 2 * (bs.length + 1)
    omega

/-- `d.devEUI.String()`. -/
def EuiText.ofEUI64 (devEUI : EUI64) : EuiText :=
  ⟨Hex.encodeChars devEUI.toList, isSome_digit_encodeChars _, by rw [length_encodeChars]; simp⟩

/-- The EUI the preview makes up. -/
def EuiText.preview : EuiText := ⟨"1234567890ABCDEF".toList, List.all_eq_true.mp (by decide), by decide⟩

/-- `seed = (seed + devEUI.charCodeAt(i)) * 31`. -/
def seedStep (seed : ℕ) (c : Char) : ℕ := nearest (nearest (seed + c.toNat) * 31)

/-- The seed of a device. -/
def seed (devEUI : EuiText) : ℕ := devEUI.chars.foldl seedStep 0

/-- No digit comes before `0`. -/
theorem digit_ge {c : Char} (h : (Hex.digit? c).isSome) : 48 ≤ c.toNat := by
  unfold Hex.digit? at h
  split at h
  · rename_i hdec
    exact hdec.1
  · split at h
    · rename_i hlower
      have hge : 97 ≤ c.toNat := hlower.1
      omega
    · split at h
      · rename_i hupper
        have hge : 65 ≤ c.toNat := hupper.1
        omega
      · exact absurd h (by simp)

/-- One digit more multiplies the seed by thirty or more, and so it does before it is rounded. -/
theorem seedStep_ge (seed : ℕ) {c : Char} (h : 48 ≤ c.toNat) :
    30 * (seed + 48) ≤ nearest (seed + c.toNat) * 31 ∧ 30 * (seed + 48) ≤ seedStep seed c := by
  have hsum := nearest_ge (seed + c.toNat)
  have hproduct := nearest_ge (nearest (seed + c.toNat) * 31)
  unfold seedStep
  omega

/-- So many digits make the seed grow like a power of thirty. -/
theorem le_foldl_seedStep (seed : ℕ) {cs : List Char} (h : ∀ c ∈ cs, 48 ≤ c.toNat) :
    30 ^ cs.length * seed ≤ cs.foldl seedStep seed := by
  induction cs generalizing seed with
  | nil => simp
  | cons c cs ih =>
    have hstep := (seedStep_ge seed (h c List.mem_cons_self)).2
    calc 30 ^ (c :: cs).length * seed = 30 ^ cs.length * (30 * seed) := by
          rw [List.length_cons, pow_succ, mul_assoc]
      _ ≤ 30 ^ cs.length * seedStep seed c := Nat.mul_le_mul_left _ (by omega)
      _ ≤ (c :: cs).foldl seedStep seed := ih _ fun c' hc' => h c' (List.mem_cons_of_mem _ hc')

/-- The seed has 84 bits before it is rounded for the last time. -/
theorem exists_seed_eq (devEUI : EuiText) : ∃ n, 2 ^ 84 ≤ n ∧ seed devEUI = nearest n := by
  have hdigits : ∀ c ∈ devEUI.chars, 48 ≤ c.toNat := fun c hc => digit_ge (devEUI.digits c hc)
  have hlength := devEUI.length_eq
  unfold seed
  -- the first digit starts the seed, the last one is still to come
  obtain ⟨c₀, rest, hrest⟩ := List.exists_cons_of_length_eq_add_one hlength
  rw [hrest] at hdigits hlength ⊢
  rcases List.eq_nil_or_concat rest with rfl | ⟨middle, c, rfl⟩
  · exact absurd hlength (by simp)
  rw [List.concat_eq_append] at hdigits hlength ⊢
  have hmiddle : middle.length = 14 := by simpa using hlength
  refine ⟨_, ?_, by rw [List.foldl_cons, List.foldl_append]; rfl⟩
  have hfirst := (seedStep_ge 0 (hdigits c₀ (by simp))).2
  have hgrown : 30 ^ middle.length * seedStep 0 c₀ ≤ middle.foldl seedStep (seedStep 0 c₀) :=
    le_foldl_seedStep _ fun c' hc' => hdigits c' (by simp [hc'])
  have hlast := (seedStep_ge (middle.foldl seedStep (seedStep 0 c₀)) (hdigits c (by simp))).1
  rw [hmiddle] at hgrown
  omega

theorem dvd_seed (devEUI : EuiText) : 2 ^ 32 ∣ seed devEUI := by
  obtain ⟨n, hn, hseed⟩ := exists_seed_eq devEUI
  rw [hseed]
  exact dvd_nearest (j := 32) hn

example : seed .preview = 36856913083103498192551936 := by decide +kernel

/-- `seed & 0xFFFFFFFF`. -/
theorem mask_seed (devEUI : EuiText) : band (seed devEUI) 0xFFFFFFFF = 0 :=
  band_mask_of_dvd (Int.natCast_dvd_natCast.mpr (dvd_seed devEUI))

/-- A frame counter added to the seed leaves no trace in it. -/
theorem mask_seed_add (devEUI : EuiText) (fCnt : UInt32) :
    band (nearest (seed devEUI + fCnt.toNat)) 0xFFFFFFFF = 0 := by
  obtain ⟨n, hn, hseed⟩ := exists_seed_eq devEUI
  have hge := nearest_ge n
  have hlong := le_nearest (j := 84) hn
  have hdvd : 2 ^ 32 ∣ nearest (seed devEUI + fCnt.toNat) := dvd_nearest (j := 32) (by omega)
  exact band_mask_of_dvd (Int.natCast_dvd_natCast.mpr hdvd)

/-! ## Temperature -/

/-- What `Math.sin` and `Math.random` return in one run of a script. -/
structure MathCalls where
  /-- `Math.sin((fCnt * 2 * Math.PI) / period)`. -/
  sine : UInt32 → ℚ
  random : ℚ
  sine_le (fCnt : UInt32) : |sine fCnt| ≤ 1
  random_nonneg : 0 ≤ random
  random_lt : random < 1

/-- The anomaly acts on the reading; the preview has none. -/
def offset (anomaly : Option ScriptAnomaly) (spike perUnit : ℚ) : ℚ :=
  match anomaly with
  | none => 0
  | some a =>
    if a.active then
      if a.type = "spike" then spike
      else if a.type = "drift" then perUnit * (a.driftValue / 2)
      else 0
    else 0

/-- Only a drift has no bound. -/
theorem offset_cases (anomaly : Option ScriptAnomaly) (spike perUnit : ℚ) :
    (∃ drift : ℕ, anomaly = some ⟨true, "drift", drift⟩ ∧
        offset anomaly spike perUnit = perUnit * (drift / 2)) ∨
      (∀ drift : ℕ, anomaly ≠ some ⟨true, "drift", drift⟩) ∧
        (offset anomaly spike perUnit = spike ∨ offset anomaly spike perUnit = 0) := by
  rcases anomaly with _ | ⟨active, type, drift⟩
  · exact .inr ⟨fun _ => by simp, .inr rfl⟩
  · cases active with
    | false => exact .inr ⟨fun _ => by simp, .inr rfl⟩
    | true =>
      by_cases hspike : type = "spike"
      · subst hspike
        exact .inr ⟨fun _ => by simp, .inl (by simp [offset])⟩
      · by_cases hdrift : type = "drift"
        · subst hdrift
          exact .inl ⟨drift, rfl, by simp [offset]⟩
        · exact .inr ⟨fun _ => by simp [hdrift], .inr (by simp [offset, hspike, hdrift])⟩

/-- `Math.round(temp * 100)` of the temperature template. -/
def temperatureReading (math : MathCalls) (fCnt : UInt32) (anomaly : Option ScriptAnomaly) : ℤ :=
  let baseTemp := 25
  let amplitude := 5
  let noise := math.random - 1 / 2
  let temp := baseTemp + amplitude * math.sine fCnt + noise
  mathRound ((temp + offset anomaly 15 1) * 100)

/-- The two bytes of a reading. -/
def temperatureBytes (reading : ℤ) : List ℤ :=
  let tempInt := if reading < 0 then 0xFFFF + reading + 1 else reading
  [band (shr tempInt 8) 0xFF, band tempInt 0xFF]

/-- The temperature template. -/
def temperature (math : MathCalls) (fCnt : UInt32) (anomaly : Option ScriptAnomaly) : List ℤ :=
  temperatureBytes (temperatureReading math fCnt anomaly)

/-- The preview's decoder: `val`, before it is divided by a hundred. -/
def decodeTemperature : List ℤ → Option ℤ
  | b1 :: b2 :: _ =>
    let val := bor (shl b1 8) b2
    some (if band val 0x8000 ≠ 0 then val - 0x10000 else val)
  | _ => none

/-- The decoder reads sixteen bits with a sign. -/
theorem decode_temperatureBytes (reading : ℤ) :
    decodeTemperature (temperatureBytes reading) = some (reading.bmod (2 ^ 16)) := by
  have hbmod : reading.bmod (2 ^ 16) =
      if reading % 65536 < 32768 then reading % 65536 else reading % 65536 - 65536 := rfl
  simp only [temperatureBytes, decodeTemperature, join_two_bytes, band_sign]
  rw [hbmod]
  congr 1
  omega

/-- No reading is below zero. -/
theorem temperatureReading_nonneg (math : MathCalls) (fCnt : UInt32)
    (anomaly : Option ScriptAnomaly) : 0 ≤ temperatureReading math fCnt anomaly := by
  have hoffset : 0 ≤ offset anomaly 15 1 := by
    rcases offset_cases anomaly 15 1 with ⟨drift, -, h⟩ | ⟨-, h | h⟩
    · rw [h]
      positivity
    · rw [h]
      norm_num
    · exact le_of_eq h.symm
  have hsine := (abs_le.mp (math.sine_le fCnt)).1
  have hrandom := math.random_nonneg
  rw [temperatureReading, mathRound, Int.le_floor]
  push_cast
  linarith

/-- A drift, if there is one, leaves the temperature below 327.675 degrees. -/
def TemperatureFits (math : MathCalls) (fCnt : UInt32) (anomaly : Option ScriptAnomaly) : Prop :=
  ∀ drift : ℕ, anomaly = some ⟨true, "drift", drift⟩ →
    (drift : ℚ) / 2 + 5 * math.sine fCnt + math.random < 303.175

theorem temperatureReading_lt_iff (math : MathCalls) (fCnt : UInt32)
    (anomaly : Option ScriptAnomaly) :
    temperatureReading math fCnt anomaly < 2 ^ 15 ↔ TemperatureFits math fCnt anomaly := by
  have hsine := (abs_le.mp (math.sine_le fCnt)).2
  have hrandom := math.random_lt
  rw [temperatureReading, mathRound, Int.floor_lt, TemperatureFits]
  push_cast
  rcases offset_cases anomaly 15 1 with ⟨drift, rfl, h⟩ | ⟨hno, hoffset⟩
  · rw [h]
    constructor
    · intro hlt drift' hdrift
      injection (Option.some.inj hdrift) with _ _ hdrift
      rw [← hdrift]
      linarith
    · intro hfits
      have := hfits drift rfl
      linarith
  · have hle : offset anomaly 15 1 ≤ 15 := by
      rcases hoffset with h | h
      · exact le_of_eq h
      · rw [h]
        norm_num
    exact iff_of_true (by linarith) fun drift hdrift => absurd hdrift (hno drift)

theorem temperature_decodes_iff (math : MathCalls) (fCnt : UInt32)
    (anomaly : Option ScriptAnomaly) :
    decodeTemperature (temperature math fCnt anomaly) =
        some (temperatureReading math fCnt anomaly) ↔
      TemperatureFits math fCnt anomaly := by
  have hnonneg := temperatureReading_nonneg math fCnt anomaly
  rw [← temperatureReading_lt_iff, temperature, decode_temperatureBytes, Option.some.injEq]
  constructor
  · intro h
    have hlt := Int.bmod_lt (x := temperatureReading math fCnt anomaly) (show 0 < 2 ^ 16 by norm_num)
    omega
  · intro hlt
    exact Int.bmod_eq_of_le (by omega) (by omega)

/-! ## Meter -/

/-- `Math.round(totalConsumption)` of the meter template. -/
def meterReading (devEUI : EuiText) (fCnt : UInt32) (anomaly : Option ScriptAnomaly) : ℤ :=
  let baseMeter := 10000
  let averageConsumptionPerStep := 15
  let m : ℤ := 0x80000000
  let state := band (nearest (seed devEUI + fCnt.toNat)) 0xFFFFFFFF
  let randVal : ℚ := ((1103515245 * state + 12345).tmod m : ℤ) / (m - 1)
  let consumption := fCnt.toNat * averageConsumptionPerStep + randVal * 10
  let totalConsumption := baseMeter + consumption
  mathRound (totalConsumption + offset anomaly 500 10)

/-- The four bytes of a reading. -/
def meterBytes (reading : ℤ) : List ℤ :=
  [band (shr reading 24) 0xFF, band (shr reading 16) 0xFF, band (shr reading 8) 0xFF,
    band reading 0xFF]

/-- The meter template. -/
def meter (devEUI : EuiText) (fCnt : UInt32) (anomaly : Option ScriptAnomaly) : List ℤ :=
  meterBytes (meterReading devEUI fCnt anomaly)

/-- The preview's decoder of the meter template. -/
def decodeMeter : List ℤ → Option ℤ
  | b1 :: b2 :: b3 :: b4 :: _ =>
    let val := bor (bor (bor (shl b1 24) (shl b2 16)) (shl b3 8)) b4
    some (if val < 0 then 0xFFFFFFFF + val + 1 else val)
  | _ => none

/-- The decoder reads 32 bits without a sign. -/
theorem decode_meterBytes (reading : ℤ) :
    decodeMeter (meterBytes reading) = some (reading % 2 ^ 32) := by
  have hbmod : reading.bmod (2 ^ 32) =
      if reading % 2 ^ 32 < 2 ^ 31 then reading % 2 ^ 32 else reading % 2 ^ 32 - 2 ^ 32 := rfl
  simp only [meterBytes, decodeMeter, join_four_bytes]
  rw [hbmod]
  congr 1
  omega

/-- The reading is below `2 ^ 32`. -/
def MeterFits (fCnt : UInt32) (anomaly : Option ScriptAnomaly) : Prop :=
  10000 + 15 * (fCnt.toNat : ℚ) + offset anomaly 500 10 < 2 ^ 32

/-- An anomaly adds whole litres. -/
theorem exists_litres (anomaly : Option ScriptAnomaly) :
    ∃ litres : ℕ, offset anomaly 500 10 = litres := by
  rcases offset_cases anomaly 500 10 with ⟨drift, -, h⟩ | ⟨-, h | h⟩
  · exact ⟨5 * drift, by rw [h]; push_cast; ring⟩
  · exact ⟨500, h⟩
  · exact ⟨0, by rw [h, Nat.cast_zero]⟩

/-- The generator, whose state is zero, adds less than half a litre. -/
theorem meterReading_eq (devEUI : EuiText) (fCnt : UInt32) {anomaly : Option ScriptAnomaly}
    {litres : ℕ} (h : offset anomaly 500 10 = litres) :
    meterReading devEUI fCnt anomaly = ((10000 + 15 * fCnt.toNat + litres : ℕ) : ℤ) := by
  have hround := mathRound_add (n := ((10000 + 15 * fCnt.toNat + litres : ℕ) : ℤ))
    (e := 123450 / 2147483647) (by norm_num) (by norm_num)
  rw [← hround, meterReading, mask_seed_add, h]
  congr 1
  push_cast
  norm_num
  ring

theorem meter_decodes_iff (devEUI : EuiText) (fCnt : UInt32) (anomaly : Option ScriptAnomaly) :
    decodeMeter (meter devEUI fCnt anomaly) = some (meterReading devEUI fCnt anomaly) ↔
      MeterFits fCnt anomaly := by
  obtain ⟨litres, hlitres⟩ := exists_litres anomaly
  have hfits : MeterFits fCnt anomaly ↔ 10000 + 15 * fCnt.toNat + litres < 2 ^ 32 := by
    rw [MeterFits, hlitres]
    norm_cast
  rw [hfits, meter, decode_meterBytes, meterReading_eq devEUI fCnt hlitres, Option.some.injEq]
  omega

/-! ## The law -/

/-- Both templates decode to what they encode exactly if a drift leaves the temperature, and the
    total leaves the meter, within what the bytes can say. -/
theorem templates_decode_iff (math : MathCalls) (devEUI : EuiText) (fCnt : UInt32)
    (anomaly : Option ScriptAnomaly) :
    (decodeTemperature (temperature math fCnt anomaly) =
        some (temperatureReading math fCnt anomaly) ↔
      TemperatureFits math fCnt anomaly) ∧
    (decodeMeter (meter devEUI fCnt anomaly) = some (meterReading devEUI fCnt anomaly) ↔
      MeterFits fCnt anomaly) :=
  ⟨temperature_decodes_iff math fCnt anomaly, meter_decodes_iff devEUI fCnt anomaly⟩

/-- The preview, which has no anomaly and 24 frame counters, is right about both. -/
theorem preview_decodes (math : MathCalls) {fCnt : UInt32} (h : fCnt < 24) :
    decodeTemperature (temperature math fCnt none) = some (temperatureReading math fCnt none) ∧
      decodeMeter (meter .preview fCnt none) = some (meterReading .preview fCnt none) := by
  have hlt : fCnt.toNat < 24 := UInt32.lt_iff_toNat_lt.mp h
  refine ⟨(temperature_decodes_iff math fCnt none).mpr fun _ hdrift => absurd hdrift (by simp),
    (meter_decodes_iff .preview fCnt none).mpr ?_⟩
  have hcast : (fCnt.toNat : ℚ) < 24 := by exact_mod_cast hlt
  have hoffset : offset none 500 10 = 0 := rfl
  rw [MeterFits, hoffset]
  linarith

/-- A sine that is zero, as at frame counter 0, and no noise. -/
def MathCalls.still : MathCalls :=
  ⟨fun _ => 0, 1 / 2, fun _ => by norm_num, by norm_num, by norm_num⟩

/-- 303 degrees of drift read back as -327.36 degrees, and the total of the last frame counter as
    what fifteen times `2 ^ 32` leave of it. -/
theorem longRun_not_decodes :
    (temperatureReading .still 0 (some ⟨true, "drift", 606⟩) = 32800 ∧
      decodeTemperature (temperature .still 0 (some ⟨true, "drift", 606⟩)) = some (-32736)) ∧
    meterReading .preview 4294967295 none = 64424519425 ∧
      decodeMeter (meter .preview 4294967295 none) = some 9985 := by
  decide +kernel

end ChirpStackSimulator.Telemetry
