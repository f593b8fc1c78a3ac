/-
  The flatline law.

  An uplink built under a flatline repeats the payload of the uplink built before it.  The code asks
  for more than an uplink before: it asks for one with a payload (`len(d.lastPayload) > 0`).  After
  an uplink without payload bytes a flatline is built as any other uplink, from the script or from
  the payload the device holds.

  1. **The law** (`Repeats`) — over the log of a device, whatever lies between two frames.
  2. **`History`** — a device with what the payload under way was made from (`Source`); a payload is
     empty exactly if nothing is in its source (`newPayload_eq_nil_iff`).
  3. **The invariant** (`Kept`) — the device's `lastPayload` are the bytes of its last frame, but
     for the time between the sealing of a frame and the end of its call.
  4. `repeats_iff`: the law holds of the log of a run exactly when every flatline that followed an
     empty payload was made from something empty.
-/
import ChirpStackSimulator.UplinkLoop

namespace ChirpStackSimulator.UplinkLoop

open LoRaWAN DataUp Transition
open DownlinkLoop (SessionFields)

/-! ## The law -/

/-- The payload bytes of a data frame. -/
def frmBytes (phy : PHYPayload) : List UInt8 :=
  match phy.body with
  | .mac ⟨_, _, [.dataPayload bytes]⟩ => bytes
  | _ => []

@[simp] theorem frmBytes_dataFrame (d : Device) : frmBytes (dataFrame d) = d.payload := rfl

/-- The last frame after an uplink, if `last` was the last one before it. -/
def Entry.lastFrame (last : Option PHYPayload) : Entry → Option PHYPayload
  | .frame phy _ => some phy
  | .dropout => last

/-- The last frame of a log. -/
def lastFrame (log : List Entry) : Option PHYPayload := log.foldl Entry.lastFrame none

/-- The uplink, if it is a frame built under a flatline, carries the bytes of `last`. -/
def Entry.Repeats (last : Option PHYPayload) : Entry → Prop
  | .frame phy c => c.anomaly = "flatline" → ∀ prev ∈ last, frmBytes phy = frmBytes prev
  | .dropout => True

/-- **The flatline law** over the uplinks that follow the frame `last`: every flatline carries exactly
    the bytes of the frame built before it. -/
def Repeats : Option PHYPayload → List Entry → Prop
  | _, [] => True
  | last, e :: log => e.Repeats last ∧ Repeats (e.lastFrame last) log

theorem repeats_append_singleton (log : List Entry) (e : Entry) (last : Option PHYPayload) :
    Repeats last (log ++ [e]) ↔
      Repeats last log ∧ e.Repeats (log.foldl Entry.lastFrame last) := by
  induction log generalizing last with
  | nil => simp [Repeats]
  | cons e' log ih =>
    rw [List.cons_append, Repeats, ih, Repeats, and_assoc, List.foldl_cons]

/-- The bytes of the last frame; none if there is none. -/
def lastBytes (log : List Entry) : List UInt8 := (lastFrame log).elim [] frmBytes

@[simp] theorem lastFrame_append_frame (log : List Entry) (phy : PHYPayload) (c : Choice) :
    lastFrame (log ++ [.frame phy c]) = some phy := by
  simp [lastFrame, Entry.lastFrame]

@[simp] theorem lastFrame_append_dropout (log : List Entry) :
    lastFrame (log ++ [.dropout]) = lastFrame log := by
  simp [lastFrame, Entry.lastFrame]

/-! ## What a payload is made from -/

/-- An element of a script's array that can be a byte. -/
def ScriptValue.IsNumber : ScriptValue → Prop
  | .int _ | .float _ => True
  | .other _ => False

/-- What a payload that is no flatline is made from: the result of the script, if the device has one,
    and the payload the device holds. -/
structure Source where
  script : Option ScriptResult
  payload : List UInt8

/-- The script's result is a payload: an array of numbers, or hexadecimal digits. -/
def Usable : ScriptResult → Prop
  | .array vs => ∀ v ∈ vs, ScriptValue.IsNumber v
  | .text s => (Hex.decode s).isSome
  | _ => False

/-- Nothing is in it: the script returns an empty array or text, or there is no payload in the
    device and none from a script. -/
def Source.Empty : Source → Prop
  | ⟨some (.array []), _⟩ => True
  | ⟨some (.text ""), _⟩ => True
  | ⟨some r, payload⟩ => ¬ Usable r ∧ payload = []
  | ⟨none, payload⟩ => payload = []

/-- What `dataUp` makes the next payload of the device from. -/
def source (runScript : String → ScriptEnv → ScriptResult) (d : Device) (c : Choice) (drift : Nat) :
    Source where
  script :=
    if d.payloadScript ≠ "" then
      some (runScript d.payloadScript
        ⟨d.fPort, d.fCntUp, d.devEUI, d.deviceName, scriptAnomaly c drift⟩)
    else none
  payload := d.payload

/-- A script's array is bytes exactly when it is numbers; it is no bytes when it is empty. -/
theorem scriptBytes_cases (vs : List ScriptValue) (i : Nat) :
    ((∀ v ∈ vs, ScriptValue.IsNumber v) ∧
      ∃ bytes, scriptBytes i vs = .ok bytes ∧ bytes.length = vs.length) ∨
    ((¬ ∀ v ∈ vs, ScriptValue.IsNumber v) ∧ ∃ e, scriptBytes i vs = .error e) := by
  induction vs generalizing i with
  | nil => exact Or.inl ⟨by simp, [], rfl, rfl⟩
  | cons v vs ih =>
    cases v with
    | int n =>
      rcases ih (i + 1) with ⟨hall, bytes, hok, hlen⟩ | ⟨hall, e, he⟩
      · exact Or.inl ⟨by simpa [ScriptValue.IsNumber] using hall,
          _, by rw [scriptBytes, hok]; rfl, by simp [hlen]⟩
      · exact Or.inr ⟨by simpa [ScriptValue.IsNumber] using hall, e, by rw [scriptBytes, he]; rfl⟩
    | float q =>
      rcases ih (i + 1) with ⟨hall, bytes, hok, hlen⟩ | ⟨hall, e, he⟩
      · exact Or.inl ⟨by simpa [ScriptValue.IsNumber] using hall,
          _, by rw [scriptBytes, hok]; rfl, by simp [hlen]⟩
      · exact Or.inr ⟨by simpa [ScriptValue.IsNumber] using hall, e, by rw [scriptBytes, he]; rfl⟩
    | other goType => exact Or.inr ⟨by simp [ScriptValue.IsNumber], _, rfl⟩

/-- The payload a script's result leaves in the device is empty exactly when nothing is in its
    source. -/
theorem scriptPayload_empty_iff (r : ScriptResult) (payload : List UInt8) :
    (match scriptPayload r with
      | .ok (some bytes) => bytes
      | _ => payload) = [] ↔ (Source.mk (some r) payload).Empty := by
  cases r with
  | error e => simp [scriptPayload, Source.Empty, Usable]
  | nil => simp [scriptPayload, Source.Empty, Usable]
  | other goType => simp [scriptPayload, Source.Empty, Usable]
  | array vs =>
    rcases scriptBytes_cases vs 0 with ⟨hall, bytes, hok, hlen⟩ | ⟨hall, e, he⟩
    · cases vs with
      | nil =>
        have hnil : bytes = [] := List.length_eq_zero_iff.mp hlen
        simp [scriptPayload, hok, hnil, Except.map, Source.Empty]
      | cons v vs =>
        have hne : bytes ≠ [] := by
          rintro rfl
          simp at hlen
        have husable : Usable (.array (v :: vs)) := hall
        simp [scriptPayload, hok, hne, Except.map, Source.Empty, husable]
    · cases vs with
      | nil => exact absurd (by simp) hall
      | cons v vs =>
        have husable : ¬ Usable (.array (v :: vs)) := hall
        simp [scriptPayload, he, Except.map, Source.Empty, husable]
  | text s =>
    by_cases hs : s = ""
    · have hdec : Hex.decode s = some [] := Hex.decode_eq_some_nil.mpr hs
      subst hs
      simp [scriptPayload, hdec, Source.Empty]
    · have hEmpty : (Source.mk (some (.text s)) payload).Empty ↔
          ¬ (Hex.decode s).isSome ∧ payload = [] := by
        unfold Source.Empty
        split
        · rename_i heq
          exact absurd heq (by simp)
        · rename_i heq
          simp only [Source.mk.injEq, Option.some.injEq, ScriptResult.text.injEq] at heq
          exact absurd heq.1 hs
        · rename_i r pl _ _ heq
          simp only [Source.mk.injEq, Option.some.injEq] at heq
          obtain ⟨rfl, rfl⟩ := heq
          exact Iff.rfl
        · rename_i heq
          exact absurd heq (by simp)
      rw [hEmpty]
      cases hdec : Hex.decode s with
      | none => simp [scriptPayload, hdec]
      | some bytes =>
        have hne : bytes ≠ [] := by
          rintro rfl
          exact hs (Hex.decode_eq_some_nil.mp hdec)
        simp [scriptPayload, hdec, hne]

/-- **A new payload is empty exactly when there is nothing in its source.** -/
theorem newPayload_eq_nil_iff (runScript : String → ScriptEnv → ScriptResult) (d : Device)
    (c : Choice) (drift nowNs : Nat) :
    newPayload runScript d c drift nowNs = [] ↔ (source runScript d c drift).Empty := by
  by_cases hscript : d.payloadScript = ""
  · have hsource : source runScript d c drift = ⟨none, d.payload⟩ := by simp [source, hscript]
    rw [hsource, newPayload, if_neg (by simpa using hscript)]
    by_cases hlen : d.payload.length = 5
    · have hne : d.payload ≠ [] := by
        intro h
        simp [h] at hlen
      simp [hlen, defaultPayload, Source.Empty, hne]
    · simp [hlen, Source.Empty]
  · have hsource : source runScript d c drift =
        ⟨some (runScript d.payloadScript
          ⟨d.fPort, d.fCntUp, d.devEUI, d.deviceName, scriptAnomaly c drift⟩), d.payload⟩ := by
      simp [source, hscript]
    rw [hsource, newPayload, if_pos hscript]
    exact scriptPayload_empty_iff _ _

/-! ## Runs -/

/-- A device with what its payload under way was made from, if it was no repetition. -/
structure History where
  slot : Slot
  source : Source

section
variable (lib : Library)

/-- What the payload is made from is read in the critical section that makes it. -/
def History.sourceAfter (h : History) : LoopStep → Source
  | .next runScript _ =>
    match h.slot.loop with
    | .inDataUp (.driftRead c drift) => UplinkLoop.source runScript h.slot.device c drift
    | _ => h.source
  | _ => h.source

/-- One step, with what it adds to the past. -/
def record (h : History) (a : LoopStep) : Option History :=
  (h.slot.step lib a).map fun s => ⟨s, h.sourceAfter a⟩

/-- A flatline that is sealed after a frame without payload bytes was made from something empty. -/
def EmptyAgain (h : History) : LoopStep → Prop
  | .next _ _ => ∀ c, h.slot.loop = .inDataUp (.built c) → c.anomaly = "flatline" →
      (∃ phy, sealFrame lib h.slot.device = .ok phy) →
      (∃ prev, lastFrame h.slot.log = some prev ∧ frmBytes prev = []) → h.source.Empty
  | _ => True

end

/-! ## What the device keeps of its last frame -/

/-- What stands in the device's payload, by where the loop is.  Its `lastPayload` are the bytes of
    its last frame, but for the time between the sealing of a frame and its clean-up. -/
structure Kept (h : History) : Prop where
  lastPayload : (∀ c phy, h.slot.loop ≠ .inDataUp (.sealed c phy)) →
    h.slot.device.lastPayload = lastBytes h.slot.log
  sealed : ∀ c phy, h.slot.loop = .inDataUp (.sealed c phy) →
    h.slot.device.payload = lastBytes h.slot.log
  notRepeated : ∀ c, (h.slot.loop = .inDataUp (.flatlined c) ∨
      ∃ drift, h.slot.loop = .inDataUp (.driftRead c drift)) →
    c.anomaly = "flatline" → lastBytes h.slot.log = []
  built : ∀ c, h.slot.loop = .inDataUp (.built c) → c.anomaly = "flatline" →
    (h.slot.device.payload = lastBytes h.slot.log ∧ lastBytes h.slot.log ≠ []) ∨
    (lastBytes h.slot.log = [] ∧ (h.slot.device.payload = [] ↔ h.source.Empty))

/-- Outside `dataUp` only the last payload matters. -/
theorem kept_of_lastPayload {h : History} (hloop : ∀ pc, h.slot.loop ≠ .inDataUp pc)
    (hlast : h.slot.device.lastPayload = lastBytes h.slot.log) : Kept h where
  lastPayload _ := hlast
  sealed c phy hl := absurd hl (hloop _)
  notRepeated c hl := by
    rcases hl with hl | ⟨drift, hl⟩
    · exact absurd hl (hloop _)
    · exact absurd hl (hloop _)
  built c hl := absurd hl (hloop _)

/-- What does not touch the two payloads keeps what is kept. -/
theorem Kept.of_device {h : History} (hk : Kept h) {d : Device} {cancelled : Bool}
    (hpay : d.payload = h.slot.device.payload) (hlast : d.lastPayload = h.slot.device.lastPayload) :
    Kept ⟨{ h.slot with device := d, cancelled := cancelled }, h.source⟩ where
  lastPayload hl := hlast.trans (hk.lastPayload hl)
  sealed c phy hl := hpay.trans (hk.sealed c phy hl)
  notRepeated := hk.notRepeated
  built c hl hflat := by
    have hb := hk.built c hl hflat
    show (d.payload = _ ∧ _) ∨ (_ ∧ (d.payload = [] ↔ _))
    rw [hpay]
    exact hb

/-- **A step keeps what the device keeps of its last frame**, and keeps the law exactly when a
    flatline after an empty payload is empty again. -/
def StepsAs (lib : Library) (h : History) (a : LoopStep) (h' : History) : Prop :=
  Kept h' ∧ (Repeats none h'.slot.log ↔ Repeats none h.slot.log ∧ EmptyAgain lib h a)

section
variable {lib : Library}

/-- The frame that is sealed keeps the law exactly if a flatline after an empty payload is empty
    again. -/
theorem Kept.sealed_iff {h : History} (hk : Kept h) {c : Choice} {phy : PHYPayload}
    {runScript : String → ScriptEnv → ScriptResult} {nowNs : Nat}
    (hloop : h.slot.loop = .inDataUp (.built c)) (hseal : sealFrame lib h.slot.device = .ok phy) :
    (c.anomaly = "flatline" →
        ∀ prev ∈ lastFrame h.slot.log, frmBytes (dataFrame h.slot.device) = frmBytes prev) ↔
      EmptyAgain lib h (.next runScript nowNs) := by
  have hcc : ∀ c', h.slot.loop = .inDataUp (.built c') → c = c' := by
    intro c' hl
    rw [hloop] at hl
    simpa using hl
  constructor
  · -- the law says that the payload is the empty one before
    rintro hlaw c' hl hc' - ⟨prev, hprev, hnil⟩
    have hbytes : lastBytes h.slot.log = [] := by simp [lastBytes, hprev, hnil]
    have hpay : h.slot.device.payload = [] := by
      have heq := hlaw (hcc c' hl ▸ hc') prev hprev
      rwa [frmBytes_dataFrame, hnil] at heq
    rcases hk.built c' hl hc' with ⟨-, hne⟩ | ⟨-, hiff⟩
    · exact absurd hbytes hne
    · exact hiff.mp hpay
  · intro hempty hc prev hprev
    have hprevBytes : lastBytes h.slot.log = frmBytes prev := by
      have hprev' : lastFrame h.slot.log = some prev := hprev
      simp [lastBytes, hprev']
    rw [frmBytes_dataFrame]
    rcases hk.built c hloop hc with ⟨hpay, -⟩ | ⟨hnil, hiff⟩
    · exact hpay.trans hprevBytes
    · -- the last payload is empty, so it was not repeated
      have hprevNil : frmBytes prev = [] := hprevBytes.symm.trans hnil
      have hpay := hiff.mpr (hempty c hloop hc ⟨phy, hseal⟩ ⟨prev, hprev, hprevNil⟩)
      rw [hpay, hprevNil]

/-- The next critical section of `dataUp`. -/
theorem stepsAs_next {h : History} (hk : Kept h) {runScript : String → ScriptEnv → ScriptResult}
    {nowNs : Nat} {pc : Pc} (hloop : h.slot.loop = .inDataUp pc) :
    StepsAs lib h (.next runScript nowNs)
      ⟨h.slot.next lib runScript nowNs pc, h.sourceAfter (.next runScript nowNs)⟩ := by
  have hgoes := Slot.next_cases lib h.slot runScript nowNs pc
  -- sections other than the sealing of a frame have no say in the law
  have hquiet : (∀ c, pc ≠ .built c) → EmptyAgain lib h (.next runScript nowNs) := by
    intro hpc c hb
    rw [hloop] at hb
    exact absurd (LoopPc.inDataUp.inj hb) (hpc c)
  have hlast : (∀ c phy, pc ≠ .sealed c phy) →
      h.slot.device.lastPayload = lastBytes h.slot.log := by
    intro hpc
    refine hk.lastPayload fun c phy hl => ?_
    rw [hloop] at hl
    exact absurd (LoopPc.inDataUp.inj hl) (hpc c phy)
  generalize h.slot.next lib runScript nowNs pc = t at hgoes ⊢
  cases hgoes with
  | idle =>
    exact ⟨kept_of_lastPayload (by simp) (hlast (by simp)), by simp [hquiet (by simp)]⟩
  | dropped c hdrop =>
    refine ⟨kept_of_lastPayload (by simp) ?_, ?_⟩
    · show (dropoutSection h.slot.device c.isManual).lastPayload = _
      rw [dropoutSection_lastPayload, hlast (by simp)]
      simp [lastBytes]
    · show Repeats none (h.slot.log ++ [.dropout]) ↔ _
      rw [repeats_append_singleton]
      simp [Entry.Repeats, hquiet (by simp)]
  | repeated c hdrop hflat =>
    refine ⟨⟨fun _ => hlast (by simp), by simp, by simp, ?_⟩, by simp [hquiet (by simp)]⟩
    intro c' hl _
    have hlen : h.slot.device.lastPayload ≠ [] := List.length_pos_iff.mp hflat.2
    have hbytes := hlast (by simp)
    exact Or.inl ⟨hbytes, hbytes ▸ hlen⟩
  | notRepeated c hdrop hflat =>
    refine ⟨⟨fun _ => hlast (by simp), by simp, ?_, by simp⟩, by simp [hquiet (by simp)]⟩
    intro c' hl hc'
    have hcc : c = c' := by simpa using hl
    -- the payload before was empty, else it would have been repeated
    have hlen : ¬ 0 < h.slot.device.lastPayload.length := fun hpos => hflat ⟨hcc ▸ hc', hpos⟩
    show lastBytes h.slot.log = []
    rw [← hlast (by simp)]
    exact List.length_eq_zero_iff.mp (by omega)
  | readDrift c =>
    refine ⟨⟨fun _ => hlast (by simp), by simp, ?_, by simp⟩, by simp [hquiet (by simp)]⟩
    intro c' hl hc'
    have hcc : c = c' := by simpa using hl
    exact hk.notRepeated c (Or.inl hloop) (hcc ▸ hc')
  | made c drift =>
    refine ⟨⟨fun _ => hlast (by simp), by simp, by simp, ?_⟩, by simp [hquiet (by simp)]⟩
    intro c' hl hc'
    have hcc : c = c' := by simpa using hl
    have hsource : h.sourceAfter (.next runScript nowNs)
        = UplinkLoop.source runScript h.slot.device c drift := by
      simp [History.sourceAfter, hloop]
    refine Or.inr ⟨hk.notRepeated c (Or.inr ⟨drift, hloop⟩) (hcc ▸ hc'), ?_⟩
    rw [hsource]
    exact newPayload_eq_nil_iff runScript h.slot.device c drift nowNs
  | notSealed c e hseal =>
    refine ⟨kept_of_lastPayload (by simp) (hlast (by simp)), ?_⟩
    have hvoid : EmptyAgain lib h (.next runScript nowNs) := by
      rintro c' - - ⟨phy, hphy⟩
      rw [hseal] at hphy
      exact absurd hphy (by simp)
    simp [hvoid]
  | sealed c phy hseal =>
    have hbytes : lastBytes (h.slot.log ++ [.frame (dataFrame h.slot.device) c])
        = h.slot.device.payload := by
      simp [lastBytes]
    refine ⟨⟨?_, ?_, by simp, by simp⟩, ?_⟩
    · intro hl
      exact absurd rfl (hl c phy)
    · intro c' phy' _
      exact hbytes.symm
    · show Repeats none (h.slot.log ++ [.frame (dataFrame h.slot.device) c]) ↔ _
      rw [repeats_append_singleton]
      exact and_congr_right fun _ => hk.sealed_iff hloop hseal
  | finished c phy =>
    refine ⟨kept_of_lastPayload (by simp) ?_, by simp [hquiet (by simp)]⟩
    show (finishSection h.slot.device c).lastPayload = _
    rw [finishSection_lastPayload]
    exact hk.sealed c phy hloop

/-- Choosing touches neither payload. -/
theorem chooseAnomaly_payloads (d : Device) (r : Draws) :
    (chooseAnomaly d r).1.payload = d.payload ∧
      (chooseAnomaly d r).1.lastPayload = d.lastPayload := by
  rcases chooseAnomaly_cases d r with ⟨-, hc⟩ | ⟨-, -, hc⟩ | ⟨-, -, -, hc⟩ | ⟨-, -, -, hc⟩ <;>
    rw [hc] <;> exact ⟨rfl, rfl⟩

/-- A step keeps what the device keeps, and the law as far as its flatlines keep it. -/
theorem stepsAs_record {h h' : History} {a : LoopStep} (hk : Kept h)
    (hrec : record lib h a = some h') : StepsAs lib h a h' := by
  obtain ⟨s', hstep, rfl⟩ := Option.map_eq_some_iff.mp hrec
  have hquiet : (∀ runScript nowNs, a ≠ .next runScript nowNs) → EmptyAgain lib h a := by
    intro ha
    cases a <;> first | trivial | exact absurd rfl (ha _ _)
  have houtside : (∀ pc, h.slot.loop ≠ .inDataUp pc) →
      h.slot.device.lastPayload = lastBytes h.slot.log :=
    fun hloop => hk.lastPayload fun c phy => hloop _
  cases Slot.step_cases hstep with
  | go loop hmoves =>
    exact ⟨kept_of_lastPayload hmoves.outside.2 (houtside hmoves.outside.1),
      by simp [hquiet (by simp)]⟩
  | done hcancelled hselects =>
    exact ⟨kept_of_lastPayload (by simp) (houtside hselects.outside), by simp [hquiet (by simp)]⟩
  | joinRequest rand hloop =>
    exact ⟨kept_of_lastPayload (by simp) (houtside (by simp [hloop])), by simp [hquiet (by simp)]⟩
  | choose r hloop =>
    refine ⟨⟨fun _ => ?_, by simp, by simp, by simp⟩, by simp [hquiet (by simp)]⟩
    exact (chooseAnomaly_payloads h.slot.device r).2.trans (houtside (by simp [hloop]))
  | next runScript nowNs pc hloop => exact stepsAs_next hk hloop
  | refused req => exact ⟨hk, by simp [hquiet (by simp)]⟩
  | command req anomalyType active =>
    exact ⟨hk.of_device rfl rfl, by simp [hquiet (by simp)]⟩
  | session f => exact ⟨hk.of_device rfl rfl, by simp [hquiet (by simp)]⟩
  | cancelledLate hloop => exact ⟨hk, by simp [hquiet (by simp)]⟩
  | cancel hloop => exact ⟨hk.of_device rfl rfl, by simp [hquiet (by simp)]⟩

variable (lib) in
/-- **The flatline law holds of a run exactly when** every flatline sealed after a frame without
    payload bytes was made from something empty: a script that returns an empty array or text, or no
    payload in the device and none from a script. -/
theorem repeats_iff (d : { d : Device // d.Fresh }) (tenantID : String) (otaaDelay : Bool)
    (made : Source) (as : List LoopStep) (h : History)
    (hrun : exec (record lib) ⟨newSlot d tenantID otaaDelay, made⟩ as = some h) :
    Repeats none h.slot.log ↔
      Always (record lib) (EmptyAgain lib) ⟨newSlot d tenantID otaaDelay, made⟩ as := by
  have hkept : Kept ⟨newSlot d tenantID otaaDelay, made⟩ := by
    refine kept_of_lastPayload (fun pc => ?_) d.2.lastPayload
    cases otaaDelay <;> simp [newSlot]
  have hnone : Repeats none (newSlot d tenantID otaaDelay).log := trivial
  rw [exec_iff_always (I := Kept) (P := fun h => Repeats none h.slot.log)
    (fun _ _ _ hk hrec => (stepsAs_record hk hrec).1)
    (fun _ _ _ hk hrec => (stepsAs_record hk hrec).2) hkept hrun]
  simp [hnone]

end

/-- The session of an activated device. -/
def activated : SessionFields :=
  ⟨Vector.replicate 4 1, Vector.replicate 16 2, Vector.replicate 16 3, .activated, 0⟩

/-- One uplink of an activated device in so many critical sections after the first, with a script that
    returns `r`. -/
def uplinkWith (sections : Nat) (r : ScriptResult) : List LoopStep :=
  [.go, .choose ⟨0, 0, 0⟩] ++ List.replicate sections (.next (fun _ _ => r) 0) ++ [.go, .go, .go]

/-- A device with a script, and no payload of its own. -/
def scriptedDevice : { d : Device // d.Fresh } :=
  ⟨{ Device.zero with payloadScript := "return reading()", fPort := 10 },
    ⟨rfl, rfl, rfl, rfl, rfl, rfl, rfl, rfl, rfl⟩⟩

/-- An uplink with one byte, then a flatline that repeats it, whatever the script returns. -/
def flatlineAfterOne : List LoopStep :=
  [.session activated] ++ uplinkWith 5 (.array [.int 7]) ++ [.command ⟨"flatline", "start"⟩] ++
    uplinkWith 3 (.array [])

theorem repeats_iff_flatlineAfterOne :
    ∃ h, exec (record .plain) ⟨newSlot scriptedDevice "tenant" false, ⟨none, []⟩⟩
        flatlineAfterOne = some h ∧
      (Repeats none h.slot.log ↔ Always (record .plain) (EmptyAgain .plain)
        ⟨newSlot scriptedDevice "tenant" false, ⟨none, []⟩⟩ flatlineAfterOne) :=
  ⟨_, rfl, repeats_iff .plain scriptedDevice "tenant" false ⟨none, []⟩ _ _ rfl⟩

/-- An uplink for which the script returns no bytes, then a flatline for which it returns one. -/
def flatlineAfterNone : List LoopStep :=
  [.session activated] ++ uplinkWith 5 (.array []) ++ [.command ⟨"flatline", "start"⟩] ++
    uplinkWith 5 (.array [.int 1])

/-- The flatline does not carry the empty payload again. -/
theorem flatline_after_empty_not_repeats :
    ∃ h, exec (record .plain) ⟨newSlot scriptedDevice "tenant" false, ⟨none, []⟩⟩
        flatlineAfterNone = some h ∧ ¬ Repeats none h.slot.log := by
  refine ⟨_, rfl, fun h => ?_⟩
  obtain ⟨-, hlaw, -⟩ := h
  exact absurd (hlaw rfl _ rfl) (by decide)

end ChirpStackSimulator.UplinkLoop
