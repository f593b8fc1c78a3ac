/-
  What the default payload says.

  A device without a script whose payload has five bytes sends a made-up reading: the temperature as a
  signed and the pressure as an unsigned 16-bit number, the high byte first, and the voltage as one
  byte.  A spike adds 15 degrees, a drift what it has accumulated.  The sum is formed in 16 bits, and
  the accumulator has no bound.

  1. **Bytes** (`decode_defaultPayload`): the five bytes read back as the 16-bit temperature, the
     pressure and the voltage they were made from.

  2. **One payload** (`decodes_iff_fits`): it says the temperature with its offset exactly if a drift
     leaves it within 16 bits.

  3. **Runs** (`decodes_iff`): a device that begins with five bytes and no script keeps to five bytes,
     so the rule holds of every uplink that is neither dropped nor a flatline's.
-/
import ChirpStackSimulator.Drift
import ChirpStackSimulator.Flatline

namespace ChirpStackSimulator.DataUp

open LoRaWAN

/-! ## Bytes -/

/-- A reading of the default sensor. -/
structure Reading where
  temperature : Int
  pressure : Nat
  voltage : Nat
  deriving DecidableEq

/-- Two bytes as a number, the high one first. -/
def bigEndian (hi lo : UInt8) : Nat := hi.toNat * 256 + lo.toNat

/-- Two bytes as a number with a sign. -/
def bigEndianSigned (hi lo : UInt8) : Int :=
  if bigEndian hi lo < 32768 then bigEndian hi lo else (bigEndian hi lo : Int) - 65536

/-- The reading in five bytes. -/
def decode : List UInt8 → Option Reading
  | [t₁, t₀, p₁, p₀, v] => some ⟨bigEndianSigned t₁ t₀, bigEndian p₁ p₀, v.toNat⟩
  | _ => none

theorem toNat_lowByte (t : Int16) : (t.toInt8.toUInt8.toNat : Int) = t.toInt % 256 := by
  have hlow : t.toInt8.toUInt8.toNat = t.toBitVec.toNat % 256 := by
    show (t.toBitVec.signExtend 8).toNat = _
    rw [BitVec.signExtend_eq_setWidth_of_le _ (by omega), BitVec.toNat_setWidth]
  have hsigned : t.toInt = t.toBitVec.toInt := rfl
  rw [hlow, hsigned, BitVec.toInt_eq_toNat_cond]
  omega

theorem toNat_highByte (t : Int16) : ((t >>> 8).toInt8.toUInt8.toNat : Int) = t.toInt / 256 % 256 := by
  have hshift : (t >>> 8).toInt = t.toInt / 256 := by
    show (t.toBitVec.sshiftRight 8).toInt = t.toBitVec.toInt / 256
    rw [BitVec.toInt_sshiftRight, Int.shiftRight_eq_div_pow]
    rfl
  rw [toNat_lowByte, hshift]

/-- A signed number is read back from its two bytes. -/
theorem bigEndianSigned_bytes (t : Int16) :
    bigEndianSigned (t >>> 8).toInt8.toUInt8 t.toInt8.toUInt8 = t.toInt := by
  have hlow := toNat_lowByte t
  have hhigh := toNat_highByte t
  have hge : -32768 ≤ t.toInt := t.le_toInt
  have hlt : t.toInt < 32768 := t.toInt_lt
  unfold bigEndianSigned bigEndian
  split <;> omega

theorem bigEndian_bytes (p : UInt16) : bigEndian (p >>> 8).toUInt8 p.toUInt8 = p.toNat := by
  have hshift : (8 : UInt16).toNat % 16 = 8 := rfl
  have hlt : p.toNat < 2 ^ 16 := p.toNat_lt
  simp only [bigEndian, UInt16.toNat_toUInt8, UInt16.toNat_shiftRight, hshift,
    Nat.shiftRight_eq_div_pow]
  omega

/-! ## One payload -/

/-- The degrees the clock gives. -/
def base (nowNs : Nat) : Nat := 15 + nowNs % 21

/-- The degrees the anomaly adds; the drift is in half degrees. -/
def offset (c : Choice) (drift : Nat) : Nat :=
  if c.anomaly = "spike" then 15 else if c.anomaly = "drift" then drift / 2 else 0

/-- **What the default payload reads as**: the sum of degrees and offset wrapped to 16 bits. -/
theorem decode_defaultPayload (c : Choice) (drift nowNs : Nat) :
    decode (defaultPayload c drift nowNs) =
      some ⟨((base nowNs + offset c drift : Nat) : Int).bmod 65536, 980 + nowNs / 2 ^ 4 % 46,
        28 + nowNs / 2 ^ 8 % 9⟩ := by
  have htemp : (if c.anomaly = "spike" then Int16.ofNat (15 + nowNs % 21) + 15
      else if c.anomaly = "drift" then Int16.ofNat (15 + nowNs % 21) + Int16.ofNat (drift / 2)
      else Int16.ofNat (15 + nowNs % 21)) = Int16.ofNat (base nowNs + offset c drift) := by
    unfold base offset
    split
    · exact (Int16.ofNat_add _ _).symm
    · split
      · exact (Int16.ofNat_add _ _).symm
      · rfl
  have hpress : (UInt16.ofNat (980 + nowNs / 2 ^ 4 % 46)).toNat = 980 + nowNs / 2 ^ 4 % 46 :=
    UInt16.toNat_ofNat_of_lt (by show _ < 65536; omega)
  have hvolt : (UInt8.ofNat (28 + nowNs / 2 ^ 8 % 9)).toNat = 28 + nowNs / 2 ^ 8 % 9 :=
    UInt8.toNat_ofNat_of_lt (by show _ < 256; omega)
  unfold defaultPayload decode
  simp only [htemp, bigEndianSigned_bytes, bigEndian_bytes, hpress, hvolt, Int16.toInt_ofNat']

/-- The payload reads as a temperature of 15 to 35 degrees with the anomaly's offset, a pressure and a
    voltage of the sensor's ranges. -/
def Decodes (payload : List UInt8) (c : Choice) (drift : Nat) : Prop :=
  ∃ (b : Nat) (reading : Reading), decode payload = some reading ∧ 15 ≤ b ∧ b ≤ 35 ∧
    reading.temperature = b + offset c drift ∧
    980 ≤ reading.pressure ∧ reading.pressure ≤ 1025 ∧ 28 ≤ reading.voltage ∧ reading.voltage ≤ 36

/-- A drift leaves the temperature within 16 bits. -/
def Fits (c : Choice) (drift nowNs : Nat) : Prop :=
  c.anomaly = "drift" → base nowNs + drift / 2 < 32768

instance (c : Choice) (drift nowNs : Nat) : Decidable (Fits c drift nowNs) := by
  unfold Fits; infer_instance

theorem fits_iff {c : Choice} {drift nowNs : Nat} :
    Fits c drift nowNs ↔ base nowNs + offset c drift < 32768 := by
  have hbase : base nowNs ≤ 35 := by
    unfold base
    omega
  unfold Fits offset
  by_cases hspike : c.anomaly = "spike"
  · rw [if_pos hspike, hspike]
    exact iff_of_true (fun h => absurd h (by decide)) (by omega)
  · rw [if_neg hspike]
    by_cases hdrift : c.anomaly = "drift"
    · rw [if_pos hdrift]
      exact ⟨fun h => h hdrift, fun h _ => h⟩
    · rw [if_neg hdrift]
      exact iff_of_true (fun h => absurd h hdrift) (by omega)

/-- **A default payload says what it should exactly if the drift fits.**  What does not fit is off by
    `2 ^ 16`, which no choice of the clock makes up for. -/
theorem decodes_iff_fits (c : Choice) (drift nowNs : Nat) :
    Decodes (defaultPayload c drift nowNs) c drift ↔ Fits c drift nowNs := by
  have hbase : 15 ≤ base nowNs ∧ base nowNs ≤ 35 := by
    unfold base
    omega
  have hread := decode_defaultPayload c drift nowNs
  have hmod : ((base nowNs + offset c drift : Nat) : Int).bmod 65536 % 65536 =
      ((base nowNs + offset c drift : Nat) : Int) % 65536 := Int.bmod_emod
  have hlt : ((base nowNs + offset c drift : Nat) : Int).bmod 65536 < 32768 := Int.bmod_lt (by omega)
  rw [fits_iff]
  constructor
  · rintro ⟨b, reading, hreading, hlow, hhigh, htemp, -⟩
    obtain rfl := Option.some.inj (hread.symm.trans hreading)
    dsimp only at htemp
    omega
  · intro hfits
    have hexact : ((base nowNs + offset c drift : Nat) : Int).bmod 65536 =
        (base nowNs + offset c drift : Nat) := Int.bmod_eq_of_le (by omega) (by omega)
    refine ⟨base nowNs, _, hread, hbase.1, hbase.2, ?_, ?_, ?_, ?_, ?_⟩
    · rw [hexact]
      exact Int.natCast_add _ _
    all_goals
      dsimp only
      omega

/-! ## Runs -/

/-- The device sends the default payload: it has no script, and what it holds has five bytes. -/
structure FiveBytes (d : Device) : Prop where
  noScript : d.payloadScript = ""
  payload : d.payload.length = 5
  lastPayload : d.lastPayload.length = 0 ∨ d.lastPayload.length = 5

section
variable {lib : Library} {runScript : String → ScriptEnv → ScriptResult} {d : Device}

theorem newPayload_of_fiveBytes (h : FiveBytes d) (c : Choice) (drift nowNs : Nat) :
    newPayload runScript d c drift nowNs = defaultPayload c drift nowNs := by
  unfold newPayload
  rw [if_neg (not_not_intro h.noScript), if_pos h.payload]

theorem FiveBytes.choose (h : FiveBytes d) (r : Draws) : FiveBytes (chooseAnomaly d r).1 := by
  obtain ⟨hpayload, hlast⟩ := UplinkLoop.chooseAnomaly_payloads d r
  have hscript : (chooseAnomaly d r).1.payloadScript = d.payloadScript := by
    rcases chooseAnomaly_cases d r with ⟨-, hc⟩ | ⟨-, -, hc⟩ | ⟨-, -, -, hc⟩ | ⟨-, -, -, hc⟩ <;> rw [hc]
  exact ⟨hscript.trans h.noScript, by rw [hpayload]; exact h.payload,
    by rw [hlast]; exact h.lastPayload⟩

theorem FiveBytes.build (h : FiveBytes d) (c : Choice) (nowNs : Nat) :
    (buildPayload runScript d c nowNs).length = 5 := by
  unfold buildPayload
  split
  · rename_i hflat
    rcases h.lastPayload with hempty | hfive
    · exact absurd hflat.2 (by omega)
    · exact hfive
  · rw [newPayload_of_fiveBytes h]
    rfl

/-- The last section of a call leaves the script and the payload alone. -/
theorem finishSection_kept (d : Device) (c : Choice) :
    (finishSection d c).payloadScript = d.payloadScript ∧ (finishSection d c).payload = d.payload := by
  unfold finishSection clearManual countDown
  dsimp only
  repeat' split
  all_goals exact ⟨rfl, rfl⟩

theorem FiveBytes.finish (h : FiveBytes d) (c : Choice) : FiveBytes (finishSection d c) := by
  obtain ⟨hscript, hpayload⟩ := finishSection_kept d c
  exact ⟨hscript.trans h.noScript, by rw [hpayload]; exact h.payload,
    by rw [finishSection_lastPayload]; exact Or.inr h.payload⟩

/-- **Step**: whatever a call does, five bytes stay five bytes. -/
theorem FiveBytes.call (h : FiveBytes d) (c : Call) : FiveBytes (call lib runScript d c) := by
  cases c with
  | setManual anomalyType active => exact ⟨h.noScript, h.payload, h.lastPayload⟩
  | dataUp r =>
    show FiveBytes (dataUp lib runScript d r).device
    have hchosen := h.choose r
    unfold dataUp
    generalize chooseAnomaly d r = p at hchosen
    obtain ⟨d₁, c⟩ := p
    dsimp only at hchosen ⊢
    split
    · cases c.isManual <;> exact ⟨hchosen.noScript, hchosen.payload, hchosen.lastPayload⟩
    · have hbuilt : FiveBytes { d₁ with payload := buildPayload runScript d₁ c r.nowNs } :=
        ⟨hchosen.noScript, hchosen.build c r.nowNs, hchosen.lastPayload⟩
      split
      · exact hbuilt
      · exact hbuilt.finish c

/-- **Run**: so it is after any calls. -/
theorem FiveBytes.calls (h : FiveBytes d) (cs : List Call) : FiveBytes (calls lib runScript d cs) := by
  induction cs generalizing d with
  | nil => exact h
  | cons c cs ih => exact ih (h.call c)

/-- The payload of an uplink that is neither dropped nor a flatline's. -/
theorem payload_dataUp (h : FiveBytes d) (r : Draws) (hdrop : (chooseAnomaly d r).2.anomaly ≠ "dropout")
    (hflat : ¬ FlatlineApplies (chooseAnomaly d r).1 (chooseAnomaly d r).2) :
    (dataUp lib runScript d r).device.payload =
      defaultPayload (chooseAnomaly d r).2 (carried d r) r.nowNs := by
  have hbuild : buildPayload runScript (chooseAnomaly d r).1 (chooseAnomaly d r).2 r.nowNs =
      defaultPayload (chooseAnomaly d r).2 (carried d r) r.nowNs := by
    unfold buildPayload
    rw [if_neg hflat, newPayload_of_fiveBytes (h.choose r)]
    rfl
  unfold dataUp
  generalize chooseAnomaly d r = p at hdrop hbuild
  obtain ⟨d₁, c⟩ := p
  dsimp only at hdrop hbuild ⊢
  rw [if_neg hdrop]
  split
  · exact hbuild
  · exact (finishSection_kept _ c).2.trans hbuild

end

/-- **Default payloads decode exactly if the drift fits.**  The device begins with five bytes and
    without a script; whatever calls come first, the next uplink that is neither dropped nor a
    flatline's says its temperature, pressure and voltage just if degrees and drift together stay
    within 16 bits. -/
theorem decodes_iff (lib : Library) (runScript : String → ScriptEnv → ScriptResult) {d : Device}
    (hfive : FiveBytes d) (cs : List Call) (r : Draws)
    (hdrop : (chooseAnomaly (calls lib runScript d cs) r).2.anomaly ≠ "dropout")
    (hflat : ¬ FlatlineApplies (chooseAnomaly (calls lib runScript d cs) r).1
      (chooseAnomaly (calls lib runScript d cs) r).2) :
    Decodes (dataUp lib runScript (calls lib runScript d cs) r).device.payload
        (chooseAnomaly (calls lib runScript d cs) r).2 (carried (calls lib runScript d cs) r) ↔
      Fits (chooseAnomaly (calls lib runScript d cs) r).2 (carried (calls lib runScript d cs) r)
        r.nowNs := by
  rw [payload_dataUp (hfive.calls cs) r hdrop hflat]
  exact decodes_iff_fits _ _ _

/-! ### A drift without end -/

/-- The device is under a manual drift, which has added this up. -/
structure ManualDrift (d : Device) (drift : Nat) : Prop where
  active : d.manualAnomalyActive = true
  type : d.manualAnomalyType = "drift"
  accumulated : d.driftAccumulated = drift

/-- A call under a manual drift reads the accumulator as it is. -/
theorem ManualDrift.choose {d : Device} {drift : Nat} (h : ManualDrift d drift) (r : Draws) :
    chooseAnomaly d r = (d, ⟨"drift", true⟩) := by
  have hchosen : chooseAnomaly d r = (d, ⟨d.manualAnomalyType, true⟩) := if_pos h.active
  rw [hchosen, h.type]

theorem ManualDrift.call {lib : Library} {runScript : String → ScriptEnv → ScriptResult}
    (hlib : Infallible lib) {d : Device} {drift : Nat} (h : ManualDrift d drift) (r : Draws) :
    ManualDrift (call lib runScript d (.dataUp r)) (drift + 1) := by
  obtain ⟨phy, hseal⟩ := hlib { d with payload := buildPayload runScript d ⟨"drift", true⟩ r.nowNs }
  have hrun : dataUp lib runScript d r = ⟨finishSection
      { d with payload := buildPayload runScript d ⟨"drift", true⟩ r.nowNs } ⟨"drift", true⟩,
      ⟨"drift", true⟩, some phy⟩ := by
    unfold dataUp
    rw [h.choose]
    simp [hseal]
  show ManualDrift (dataUp lib runScript d r).device (drift + 1)
  rw [hrun]
  exact ⟨h.active, h.type, congrArg (· + 1) h.accumulated⟩

/-- **A drift that is not stopped goes on adding.** -/
theorem ManualDrift.calls {lib : Library} {runScript : String → ScriptEnv → ScriptResult}
    (hlib : Infallible lib) {d : Device} {drift : Nat} (h : ManualDrift d drift) (r : Draws)
    (k : Nat) :
    ManualDrift (calls lib runScript d (List.replicate k (.dataUp r))) (drift + k) := by
  induction k generalizing d drift with
  | zero => exact h
  | succ k ih =>
    rw [show drift + (k + 1) = drift + 1 + k by omega]
    exact ih (h.call hlib r)

/-- The calls of a drift after `k` uplinks at 35 degrees. -/
def driftCalls (k : Nat) : List Call := .setManual "drift" true :: List.replicate k (.dataUp ⟨0, 0, 20⟩)

theorem manualDrift_driftCalls (k : Nat) :
    ManualDrift (calls .plain noScript steadyDevice (driftCalls k)) k := by
  have hstart : ManualDrift (steadyDevice.setManualAnomaly "drift" true) 0 := ⟨rfl, rfl, rfl⟩
  have hrun : ManualDrift (calls .plain noScript steadyDevice (driftCalls k)) (0 + k) :=
    hstart.calls infallible_plain ⟨0, 0, 20⟩ k
  rwa [Nat.zero_add] at hrun

theorem fiveBytes_steadyDevice : FiveBytes steadyDevice := ⟨rfl, rfl, Or.inl rfl⟩

/-- After two uplinks the drift is one degree, and the payload says 36 degrees. -/
theorem decodes_afterTwo :
    Decodes (dataUp .plain noScript (calls .plain noScript steadyDevice (driftCalls 2))
        ⟨0, 0, 20⟩).device.payload
      (chooseAnomaly (calls .plain noScript steadyDevice (driftCalls 2)) ⟨0, 0, 20⟩).2
      (carried (calls .plain noScript steadyDevice (driftCalls 2)) ⟨0, 0, 20⟩) := by
  have hchosen := (manualDrift_driftCalls 2).choose ⟨0, 0, 20⟩
  refine (decodes_iff .plain noScript fiveBytes_steadyDevice (driftCalls 2) ⟨0, 0, 20⟩ ?_ ?_).mpr ?_
  · rw [hchosen]
    decide
  · rw [hchosen]
    exact fun h => absurd h.1 (by decide)
  · unfold carried
    rw [hchosen, (manualDrift_driftCalls 2).accumulated]
    decide

/-- 35 degrees and a drift of 32733 make 32768, and the payload says the lowest temperature there
    is. -/
theorem payload_of_longDrift {d : Device} (hdrift : ManualDrift d 65466) (hfive : FiveBytes d) :
    decode (dataUp .plain noScript d ⟨0, 0, 20⟩).device.payload = some ⟨-32768, 981, 28⟩ ∧
    ¬ Decodes (dataUp .plain noScript d ⟨0, 0, 20⟩).device.payload
      (chooseAnomaly d ⟨0, 0, 20⟩).2 (carried d ⟨0, 0, 20⟩) := by
  have hchosen := hdrift.choose ⟨0, 0, 20⟩
  have hcarried : carried d ⟨0, 0, 20⟩ = 65466 := by
    unfold carried
    rw [hchosen]
    exact hdrift.accumulated
  have hdrop : (chooseAnomaly d ⟨0, 0, 20⟩).2.anomaly ≠ "dropout" := by
    rw [hchosen]
    simp
  have hflat : ¬ FlatlineApplies (chooseAnomaly d ⟨0, 0, 20⟩).1 (chooseAnomaly d ⟨0, 0, 20⟩).2 := by
    rw [hchosen]
    exact fun h => absurd h.1 (by simp)
  rw [payload_dataUp hfive ⟨0, 0, 20⟩ hdrop hflat, hcarried, hchosen]
  have hread : decode (defaultPayload ⟨"drift", true⟩ 65466 20) = some ⟨-32768, 981, 28⟩ := by decide
  have hunfit : ¬ Fits ⟨"drift", true⟩ 65466 20 := by decide
  exact ⟨hread, fun h => hunfit ((decodes_iff_fits _ _ _).mp h)⟩

/-- So it is after 65466 uplinks. -/
theorem longDrift_not_decodes :
    decode (dataUp .plain noScript (calls .plain noScript steadyDevice (driftCalls 65466))
      ⟨0, 0, 20⟩).device.payload = some ⟨-32768, 981, 28⟩ ∧
    ¬ Decodes (dataUp .plain noScript (calls .plain noScript steadyDevice (driftCalls 65466))
        ⟨0, 0, 20⟩).device.payload
      (chooseAnomaly (calls .plain noScript steadyDevice (driftCalls 65466)) ⟨0, 0, 20⟩).2
      (carried (calls .plain noScript steadyDevice (driftCalls 65466)) ⟨0, 0, 20⟩) :=
  payload_of_longDrift (manualDrift_driftCalls _) (fiveBytes_steadyDevice.calls _)

end ChirpStackSimulator.DataUp
