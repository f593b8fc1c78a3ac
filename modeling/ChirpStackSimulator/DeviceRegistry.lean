/-
  The registry of running devices (`simulator/registry.go`, `NewDevice` and `uplinkLoop` in
  `simulator/device.go`, `handleDeviceAnomaly` in `internal/api/simulation.go`).

  `ActiveDevices` maps an EUI to a device object.  `NewDevice` puts its object there, whoever was there
  before; when an uplink loop returns, whatever object stands under its EUI is taken out; an accepted
  start empties the map.

  1. **Objects and the map** — a device object is named by its position among all that were ever
     made, of any run and any simulation.
  2. **Steps** — devices are made, loops return, starts are accepted, anomaly commands look their
     device up and are applied later, in any order.  What the loops change of a device besides is left
     out: it keeps its EUI.
  3. **The law** — `Tracks`: the map holds a device for an EUI exactly if one with that EUI still
     sends, and then such a one; `Reaches`: a command answered `applied` went to a device that sent.
  4. `lawful_throughout_iff`: the law holds in every state of a run exactly if no loop returns while
     another device with its EUI sends, no start is accepted while a device sends, and commands are
     applied before their device's loop returns.
-/
import ChirpStackSimulator.DataUp
import ChirpStackSimulator.Lib.Objects
import ChirpStackSimulator.Lib.Run

namespace ChirpStackSimulator.ActiveDevices

open LoRaWAN Transition

/-! ## Objects and the map -/

/-- A `*Device`. -/
structure DeviceObject where
  device : Device
  /-- `uplinkLoop` has not returned. -/
  sends : Bool

structure World where
  objects : List DeviceObject
  /-- `ActiveDevices.devices`. -/
  active : EUI64 → Option Nat
  /-- Anomaly commands that have looked up their device. -/
  pending : List (Nat × AnomalyRequest)
  /-- Commands answered `applied`: the device, and whether it still sent. -/
  applied : List (Nat × Bool)

def init : World := ⟨[], fun _ => none, [], []⟩

namespace World

/-- `Register`. -/
def register (w : World) (devEUI : EUI64) (k : Nat) : World :=
  { w with active := Function.update w.active devEUI (some k) }

/-- `Unregister`. -/
def unregister (w : World) (devEUI : EUI64) : World :=
  { w with active := Function.update w.active devEUI none }

/-- `Clear`. -/
def clear (w : World) : World := { w with active := fun _ => none }

/-- `GetDevice`. -/
def getDevice (w : World) (devEUI : EUI64) : Option Device :=
  match w.active devEUI with
  | none => none
  | some k => (w.objects[k]?).map DeviceObject.device

end World

/-- `NewDevice`. -/
def newDevice (w : World) (d : Device) : World :=
  World.register { w with objects := w.objects ++ [⟨d, true⟩] } d.devEUI w.objects.length

/-- The deferred calls of `uplinkLoop`: the map is the first thing they touch. -/
def exit (w : World) (k : Nat) : Option World :=
  match w.objects[k]? with
  | none => none
  | some o =>
    if o.sends then
      some ({ w with objects := w.objects.set k { o with sends := false } }.unregister
        o.device.devEUI)
    else none

/-- `handleDeviceAnomaly` up to the look-up of the device. -/
def lookUp (w : World) (post : Bool) (body : Except String AnomalyRequest)
    (devEUI : Except String EUI64) : Except Response (Nat × AnomalyRequest) :=
  if post = false then .error .methodNotAllowed else
  match body with
  | .error e => .error (.badRequest ("invalid JSON: " ++ e))
  | .ok req =>
    match devEUI with
    | .error _ => .error (.badRequest "invalid dev_eui")
    | .ok eui =>
      match w.active eui with
      | none => .error (.notFound "device not actively simulated")
      | some k => .ok (k, req)

/-- The rest of it, under the lock of the device. -/
def answer (req : AnomalyRequest) (d : Device) : Option Device × Response :=
  match req.apply d with
  | none => (none, .badRequest "invalid action")
  | some d' => (some d', .ok "applied")

/-- The `i`-th of the commands goes on. -/
def apply (w : World) (i : Nat) : Option World :=
  match w.pending[i]? with
  | none => none
  | some (k, req) =>
    match w.objects[k]? with
    | none => none
    | some o =>
      match (answer req o.device).1 with
      | none => some { w with pending := w.pending.eraseIdx i }
      | some d' => some { w with
          objects := w.objects.set k { o with device := d' }
          pending := w.pending.eraseIdx i
          applied := w.applied ++ [(k, o.sends)] }

inductive Label where
  | newDevice (d : Device)
  /-- An uplink loop returns. -/
  | exit (k : Nat)
  /-- `handleStart` accepts a start. -/
  | start
  | command (post : Bool) (body : Except String AnomalyRequest) (devEUI : Except String EUI64)
  | apply (i : Nat)

def step (w : World) : Label → Option World
  | .newDevice d => some (newDevice w d)
  | .exit k => exit w k
  | .start => some w.clear
  | .command post body devEUI =>
    match lookUp w post body devEUI with
    | .error _ => some w
    | .ok c => some { w with pending := w.pending ++ [c] }
  | .apply i => apply w i

/-! ## The law -/

/-- The object `k` has the EUI, and its uplink loop is running. -/
def Sends (w : World) (k : Nat) (devEUI : EUI64) : Prop :=
  ∃ o, w.objects[k]? = some o ∧ o.sends = true ∧ o.device.devEUI = devEUI

/-- `GetDevice` answers with a device exactly if one with that EUI still sends, and then with such a
    one. -/
def Tracks (w : World) : Prop :=
  ∀ e, (w.getDevice e ≠ none ↔ ∃ k, Sends w k e) ∧ ∀ k, w.active e = some k → Sends w k e

/-- Every command answered `applied` reached a device that still sent. -/
def Reaches (w : World) : Prop := ∀ c ∈ w.applied, c.2 = true

def Lawful (w : World) : Prop := Tracks w ∧ Reaches w

/-- No loop returns beside another device with its EUI, no start is accepted while a device sends,
    and no valid command is applied to a device that has stopped. -/
def Clean (w : World) : Label → Prop
  | .newDevice _ => True
  | .exit k => ∀ o, w.objects[k]? = some o → ∀ j, j ≠ k → ¬ Sends w j o.device.devEUI
  | .start => ∀ e k, ¬ Sends w k e
  | .command _ _ _ => True
  | .apply i => ∀ k req o, w.pending[i]? = some (k, req) → w.objects[k]? = some o →
      (answer req o.device).2 = .ok "applied" → o.sends = true

/-! ## The handler in two halves -/

/-- Nothing in between, the two halves are `handleDeviceAnomaly`. -/
theorem handleDeviceAnomaly_eq (w : World) (hw : ∀ e k, w.active e = some k → k < w.objects.length)
    (post : Bool) (body : Except String AnomalyRequest) (devEUI : Except String EUI64) :
    handleDeviceAnomaly post body devEUI w.getDevice =
      match lookUp w post body devEUI with
      | .error r => (none, r)
      | .ok (k, req) =>
        match w.objects[k]? with
        | none => (none, .notFound "device not actively simulated")
        | some o => answer req o.device := by
  unfold handleDeviceAnomaly lookUp
  split
  · rfl
  · split
    · rfl
    · split
      · rfl
      · rename_i req eui
        rcases Option.eq_none_or_eq_some (w.active eui) with hk | ⟨k, hk⟩
        · have hd : w.getDevice eui = none := by
            unfold World.getDevice
            rw [hk]
          simp only [hd, hk]
        · have hlt := hw eui k hk
          have hd : w.getDevice eui = some (w.objects[k]).device := by
            unfold World.getDevice
            rw [hk]
            simp [hlt]
          simp only [hd, hk, List.getElem?_eq_getElem hlt]
          rfl

/-! ## Who sends after a step -/

/-- Every object in the map has the EUI it stands under. -/
structure Sound (w : World) : Prop where
  active : ∀ e k, w.active e = some k → ∃ o, w.objects[k]? = some o ∧ o.device.devEUI = e
  pending : ∀ c ∈ w.pending, c.1 < w.objects.length

/-- `GetDevice` answers exactly if there is an entry. -/
theorem Sound.getDevice_ne_none {w : World} (hw : Sound w) (e : EUI64) :
    w.getDevice e ≠ none ↔ w.active e ≠ none := by
  unfold World.getDevice
  cases hk : w.active e with
  | none => simp
  | some k =>
    obtain ⟨o, ho, -⟩ := hw.active e k hk
    simp [ho]

/-- The law, said of the map. -/
theorem Sound.lists_iff {w : World} (hw : Sound w) :
    Tracks w ↔ (∀ e, w.active e = none → ∀ k, ¬ Sends w k e) ∧
      ∀ e k, w.active e = some k → Sends w k e := by
  constructor
  · intro h
    refine ⟨fun e hnone k hk => ?_, fun e k hk => (h e).2 k hk⟩
    exact (hw.getDevice_ne_none e).mp ((h e).1.mpr ⟨k, hk⟩) hnone
  · rintro ⟨hnone, hsome⟩ e
    refine ⟨?_, fun k hk => hsome e k hk⟩
    rw [hw.getDevice_ne_none e]
    constructor
    · intro hne
      obtain ⟨k, hk⟩ := Option.ne_none_iff_exists'.mp hne
      exact ⟨k, hsome e k hk⟩
    · rintro ⟨k, hk⟩ hn
      exact hnone e hn k hk

theorem sends_newDevice {w : World} {d : Device} {k : Nat} {e : EUI64} :
    Sends (newDevice w d) k e ↔ Sends w k e ∨ (k = w.objects.length ∧ e = d.devEUI) := by
  unfold Sends
  show (∃ o, (w.objects ++ [⟨d, true⟩])[k]? = some o ∧ _) ↔ _
  simp only [Objects.lookup_append]
  constructor
  · rintro ⟨o, ho | ⟨rfl, rfl⟩, hs, he⟩
    · exact Or.inl ⟨o, ho, hs, he⟩
    · exact Or.inr ⟨rfl, he.symm⟩
  · rintro (⟨o, ho, hs, he⟩ | ⟨rfl, rfl⟩)
    · exact ⟨o, Or.inl ho, hs, he⟩
    · exact ⟨_, Or.inr ⟨rfl, rfl⟩, rfl, rfl⟩

/-- One object is replaced by another one with its EUI. -/
theorem sends_set {w : World} {active : EUI64 → Option Nat} {pending : List (Nat × AnomalyRequest)}
    {applied : List (Nat × Bool)} {k : Nat} {o o' : DeviceObject} (ho : w.objects[k]? = some o)
    {j : Nat} {e : EUI64} :
    Sends ⟨w.objects.set k o', active, pending, applied⟩ j e ↔
      (j ≠ k ∧ Sends w j e) ∨ (j = k ∧ o'.sends = true ∧ o'.device.devEUI = e) := by
  unfold Sends
  show (∃ p, (w.objects.set k o')[j]? = some p ∧ _) ↔ _
  simp only [Objects.lookup_set ho]
  constructor
  · rintro ⟨p, ⟨rfl, rfl⟩ | ⟨hne, hp⟩, hs, he⟩
    · exact Or.inr ⟨rfl, hs, he⟩
    · exact Or.inl ⟨hne, p, hp, hs, he⟩
  · rintro (⟨hne, p, hp, hs, he⟩ | ⟨rfl, hs, he⟩)
    · exact ⟨p, Or.inr ⟨hne, hp⟩, hs, he⟩
    · exact ⟨o', Or.inl ⟨rfl, rfl⟩, hs, he⟩

/-- An anomaly command keeps the EUI. -/
theorem devEUI_answer {req : AnomalyRequest} {d d' : Device} (h : (answer req d).1 = some d') :
    d'.devEUI = d.devEUI ∧ (answer req d).2 = .ok "applied" := by
  unfold answer at h ⊢
  cases happly : req.apply d with
  | none =>
    rw [happly] at h
    cases h
  | some d₁ =>
    rw [happly] at h
    obtain rfl := Option.some.inj h
    obtain ⟨t, active, rfl⟩ := apply_setManual happly
    exact ⟨rfl, rfl⟩

/-- One with an invalid action is not answered `applied`. -/
theorem answer_invalid {req : AnomalyRequest} {d : Device} (h : (answer req d).1 = none) :
    (answer req d).2 ≠ .ok "applied" := by
  unfold answer at h ⊢
  cases happly : req.apply d with
  | none => exact fun h => by cases h
  | some d' =>
    rw [happly] at h
    cases h

theorem exit_cases {w w' : World} {k : Nat} (h : exit w k = some w') :
    ∃ o, w.objects[k]? = some o ∧ o.sends = true ∧
      w' = World.unregister { w with objects := w.objects.set k { o with sends := false } }
        o.device.devEUI := by
  unfold exit at h
  split at h
  · cases h
  · rename_i o ho
    split at h
    · rename_i hsends
      exact ⟨o, ho, hsends, (Option.some.inj h).symm⟩
    · cases h

theorem apply_cases {w w' : World} {i : Nat} (h : apply w i = some w') :
    ∃ k req o, w.pending[i]? = some (k, req) ∧ w.objects[k]? = some o ∧
      (((answer req o.device).1 = none ∧ w' = { w with pending := w.pending.eraseIdx i }) ∨
        ∃ d', (answer req o.device).1 = some d' ∧ w' = { w with
          objects := w.objects.set k { o with device := d' }
          pending := w.pending.eraseIdx i
          applied := w.applied ++ [(k, o.sends)] }) := by
  unfold apply at h
  split at h
  · cases h
  · rename_i k req hreq
    split at h
    · cases h
    · rename_i o ho
      refine ⟨k, req, o, hreq, ho, ?_⟩
      split at h
      · rename_i hnone
        exact Or.inl ⟨hnone, (Option.some.inj h).symm⟩
      · rename_i d' hsome
        exact Or.inr ⟨d', hsome, (Option.some.inj h).symm⟩

/-! ## The map after a step -/

theorem lookUp_active {w : World} {post : Bool} {body : Except String AnomalyRequest}
    {devEUI : Except String EUI64} {k : Nat} {req : AnomalyRequest}
    (h : lookUp w post body devEUI = .ok (k, req)) : ∃ e, w.active e = some k := by
  unfold lookUp at h
  split at h
  · cases h
  · split at h
    · cases h
    · split at h
      · cases h
      · rename_i eui
        split at h
        · cases h
        · rename_i k' hk
          cases h
          exact ⟨eui, hk⟩

/-- Objects keep their EUI, whatever else happens to them. -/
theorem sound_of_objects {w w' : World} (hw : Sound w)
    (hobjects : ∀ (k : Nat) (o : DeviceObject), w.objects[k]? = some o →
      ∃ o', w'.objects[k]? = some o' ∧ o'.device.devEUI = o.device.devEUI)
    (hactive : ∀ e k, w'.active e = some k →
      w.active e = some k ∨ ∃ o, w'.objects[k]? = some o ∧ o.device.devEUI = e)
    (hpending : ∀ c ∈ w'.pending, c ∈ w.pending ∨ ∃ e, w.active e = some c.1) : Sound w' where
  active e k hk := by
    rcases hactive e k hk with hold | hnew
    · obtain ⟨o, ho, he⟩ := hw.active e k hold
      obtain ⟨o', ho', he'⟩ := hobjects k o ho
      exact ⟨o', ho', he'.trans he⟩
    · exact hnew
  pending c hc := by
    have hlt : c.1 < w.objects.length := by
      rcases hpending c hc with hold | ⟨e, he⟩
      · exact hw.pending c hold
      · obtain ⟨o, ho, -⟩ := hw.active e c.1 he
        exact (List.getElem?_eq_some_iff.mp ho).1
    obtain ⟨o', ho', -⟩ := hobjects c.1 _ (List.getElem?_eq_getElem hlt)
    exact (List.getElem?_eq_some_iff.mp ho').1

/-- Replacing an object by one with its EUI. -/
theorem objects_set {objects : List DeviceObject} {k : Nat} {o o' : DeviceObject}
    (ho : objects[k]? = some o) (he : o'.device.devEUI = o.device.devEUI) (j : Nat)
    (p : DeviceObject) (hp : objects[j]? = some p) :
    ∃ p', (objects.set k o')[j]? = some p' ∧ p'.device.devEUI = p.device.devEUI := by
  by_cases hj : j = k
  · subst hj
    obtain rfl : o = p := Option.some.inj (ho.symm.trans hp)
    exact ⟨o', Objects.set_self ho, he⟩
  · exact ⟨p, Objects.set_kept hj hp, rfl⟩

theorem sound_step {w w' : World} {a : Label} (hw : Sound w) (h : step w a = some w') :
    Sound w' := by
  cases a with
  | newDevice d =>
    cases h
    refine sound_of_objects hw (fun k o ho => ⟨o, Objects.append_kept ho _, rfl⟩)
      (fun e k hk => ?_) fun c hc => Or.inl hc
    · have hk' : Function.update w.active d.devEUI (some w.objects.length) e = some k := hk
      by_cases he : e = d.devEUI
      · subst he
        rw [Function.update_self] at hk'
        obtain rfl := Option.some.inj hk'
        exact Or.inr ⟨⟨d, true⟩, List.getElem?_concat_length .., rfl⟩
      · rw [Function.update_of_ne he] at hk'
        exact Or.inl hk'
  | exit k =>
    obtain ⟨o, ho, -, rfl⟩ := exit_cases h
    refine sound_of_objects hw (objects_set ho rfl) (fun e j hj => Or.inl ?_) fun c hc => Or.inl hc
    have hj' : Function.update w.active o.device.devEUI none e = some j := hj
    by_cases he : e = o.device.devEUI
    · rw [he, Function.update_self] at hj'
      cases hj'
    · rw [Function.update_of_ne he] at hj'
      exact hj'
  | start =>
    cases h
    exact sound_of_objects hw (fun k o ho => ⟨o, ho, rfl⟩) (fun e k hk => by cases hk)
      fun c hc => Or.inl hc
  | command post body devEUI =>
    simp only [step] at h
    split at h
    · obtain rfl := Option.some.inj h
      exact hw
    · rename_i c hc
      obtain rfl := Option.some.inj h
      refine sound_of_objects hw (fun k o ho => ⟨o, ho, rfl⟩) (fun e k hk => Or.inl hk)
        fun c' hc' => ?_
      rcases List.mem_append.mp hc' with hold | hnew
      · exact Or.inl hold
      · obtain rfl := List.mem_singleton.mp hnew
        exact Or.inr (lookUp_active hc)
  | apply i =>
    obtain ⟨k, req, o, -, ho, ⟨-, rfl⟩ | ⟨d', hd', rfl⟩⟩ := apply_cases h
    · exact sound_of_objects hw (fun k o ho => ⟨o, ho, rfl⟩) (fun e k hk => Or.inl hk)
        fun c hc => Or.inl (List.mem_of_mem_eraseIdx hc)
    · exact sound_of_objects hw (objects_set ho (devEUI_answer hd').1) (fun e k hk => Or.inl hk)
        fun c hc => Or.inl (List.mem_of_mem_eraseIdx hc)

/-! ## What a step does to the law -/

theorem tracks_newDevice {w : World} {d : Device} (hw : Sound w) (hw' : Sound (newDevice w d))
    (h : Tracks w) : Tracks (newDevice w d) := by
  obtain ⟨hnone, hsome⟩ := hw.lists_iff.mp h
  refine hw'.lists_iff.mpr ⟨fun e he k hk => ?_, fun e k hk => ?_⟩
  · have he' : Function.update w.active d.devEUI (some w.objects.length) e = none := he
    by_cases heq : e = d.devEUI
    · rw [heq, Function.update_self] at he'
      cases he'
    · rw [Function.update_of_ne heq] at he'
      rcases sends_newDevice.mp hk with hold | ⟨-, hnew⟩
      · exact hnone e he' k hold
      · exact heq hnew
  · have hk' : Function.update w.active d.devEUI (some w.objects.length) e = some k := hk
    by_cases heq : e = d.devEUI
    · rw [heq, Function.update_self] at hk'
      exact sends_newDevice.mpr (Or.inr ⟨(Option.some.inj hk').symm, heq⟩)
    · rw [Function.update_of_ne heq] at hk'
      exact sends_newDevice.mpr (Or.inl (hsome e k hk'))

/-- A loop returns: its EUI is taken out of the map, whoever stood there. -/
theorem tracks_exit {w : World} {k : Nat} {o : DeviceObject} (hw : Sound w)
    (ho : w.objects[k]? = some o)
    (hw' : Sound (World.unregister { w with objects := w.objects.set k { o with sends := false } }
      o.device.devEUI)) (h : Tracks w) :
    Tracks (World.unregister { w with objects := w.objects.set k { o with sends := false } }
        o.device.devEUI) ↔ ∀ j, j ≠ k → ¬ Sends w j o.device.devEUI := by
  obtain ⟨hnone, hsome⟩ := hw.lists_iff.mp h
  have hsends : ∀ j e, Sends (World.unregister
      { w with objects := w.objects.set k { o with sends := false } } o.device.devEUI) j e ↔
      j ≠ k ∧ Sends w j e := by
    intro j e
    refine (sends_set ho).trans ?_
    simp
  have hactive : ∀ e, e ≠ o.device.devEUI → (World.unregister
      { w with objects := w.objects.set k { o with sends := false } } o.device.devEUI).active e =
      w.active e := fun e he => Function.update_of_ne he _ _
  constructor
  · intro h' j hj hs
    exact (hw'.lists_iff.mp h').1 _ (Function.update_self _ _ _) j ((hsends j _).mpr ⟨hj, hs⟩)
  · intro halone
    refine hw'.lists_iff.mpr ⟨fun e he j hj => ?_, fun e j hj => ?_⟩
    · obtain ⟨hne, hs⟩ := (hsends j e).mp hj
      by_cases heq : e = o.device.devEUI
      · exact halone j hne (heq ▸ hs)
      · exact hnone e ((hactive e heq).symm.trans he) j hs
    · have heq : e ≠ o.device.devEUI := by
        rintro rfl
        have hj' : Function.update w.active o.device.devEUI none o.device.devEUI = some j := hj
        rw [Function.update_self] at hj'
        cases hj'
      have hs := hsome e j ((hactive e heq).symm.trans hj)
      refine (hsends j e).mpr ⟨?_, hs⟩
      -- the object that stops has another EUI
      rintro rfl
      obtain ⟨p, hp, -, rfl⟩ := hs
      obtain rfl : o = p := Option.some.inj (ho.symm.trans hp)
      exact heq rfl

/-- Nothing that the law of the map is about changes. -/
theorem tracks_congr {w w' : World} (hw : Sound w) (hw' : Sound w')
    (hactive : w'.active = w.active) (hsends : ∀ j e, Sends w' j e ↔ Sends w j e) (h : Tracks w) :
    Tracks w' := by
  obtain ⟨hnone, hsome⟩ := hw.lists_iff.mp h
  refine hw'.lists_iff.mpr ⟨fun e he j hj => ?_, fun e j hj => ?_⟩
  · rw [hactive] at he
    exact hnone e he j ((hsends j e).mp hj)
  · rw [hactive] at hj
    exact (hsends j e).mpr (hsome e j hj)

theorem lawful_step {w w' : World} {a : Label} (hw : Sound w) (hlaw : Lawful w)
    (h : step w a = some w') : Lawful w' ↔ Clean w a := by
  have hw' : Sound w' := sound_step hw h
  obtain ⟨htracks, hreaches⟩ := hlaw
  cases a with
  | newDevice d =>
    cases h
    exact iff_of_true ⟨tracks_newDevice hw hw' htracks, hreaches⟩ trivial
  | exit k =>
    obtain ⟨o, ho, -, rfl⟩ := exit_cases h
    constructor
    · rintro ⟨htracks', -⟩ p hp
      obtain rfl : o = p := Option.some.inj (ho.symm.trans hp)
      exact (tracks_exit hw ho hw' htracks).mp htracks'
    · intro hclean
      exact ⟨(tracks_exit hw ho hw' htracks).mpr (hclean o ho), hreaches⟩
  | start =>
    cases h
    constructor
    · rintro ⟨htracks', -⟩ e k hk
      exact (hw'.lists_iff.mp htracks').1 e rfl k hk
    · intro hclean
      exact ⟨hw'.lists_iff.mpr ⟨fun e _ k hk => hclean e k hk, fun e k hk => by cases hk⟩, hreaches⟩
  | command post body devEUI =>
    refine iff_of_true ?_ trivial
    simp only [step] at h
    split at h
    · obtain rfl := Option.some.inj h
      exact ⟨htracks, hreaches⟩
    · obtain rfl := Option.some.inj h
      exact ⟨tracks_congr hw hw' rfl (fun j e => Iff.rfl) htracks, hreaches⟩
  | apply i =>
    obtain ⟨k, req, o, hreq, ho, ⟨hnone, rfl⟩ | ⟨d', hd', rfl⟩⟩ := apply_cases h
    · refine iff_of_true ⟨tracks_congr hw hw' rfl (fun j e => Iff.rfl) htracks, hreaches⟩ ?_
      intro k' req' o' hreq' ho' happlied
      have hk : (k, req) = (k', req') := Option.some.inj (hreq.symm.trans hreq')
      cases hk
      obtain rfl : o = o' := Option.some.inj (ho.symm.trans ho')
      exact absurd happlied (answer_invalid hnone)
    · obtain ⟨heui, happlied⟩ := devEUI_answer hd'
      have htracks' : Tracks _ := tracks_congr hw hw' rfl (fun j e => ?_) htracks
      · constructor
        · rintro ⟨-, hreaches'⟩ k' req' o' hreq' ho' -
          have hk : (k, req) = (k', req') := Option.some.inj (hreq.symm.trans hreq')
          cases hk
          obtain rfl : o = o' := Option.some.inj (ho.symm.trans ho')
          exact hreaches' (k, o.sends) (List.mem_append_right _ (List.mem_singleton_self _))
        · intro hclean
          refine ⟨htracks', fun c hc => ?_⟩
          rcases List.mem_append.mp hc with hold | hnew
          · exact hreaches c hold
          · obtain rfl := List.mem_singleton.mp hnew
            exact hclean k req o hreq ho happlied
      · refine (sends_set ho).trans ?_
        by_cases hj : j = k
        · subst hj
          constructor
          · rintro (⟨hne, -⟩ | ⟨-, hs, he⟩)
            · exact absurd rfl hne
            · exact ⟨o, ho, hs, heui.symm.trans he⟩
          · rintro ⟨p, hp, hs, he⟩
            obtain rfl : o = p := Option.some.inj (ho.symm.trans hp)
            exact Or.inr ⟨rfl, hs, heui.trans he⟩
        · simp [hj]

theorem sound_init : Sound init where
  active e k hk := by cases hk
  pending c hc := absurd hc List.not_mem_nil

theorem lawful_init : Lawful init := by
  refine ⟨sound_init.lists_iff.mpr ⟨fun e _ k hk => ?_, fun e k hk => by cases hk⟩, fun c hc => ?_⟩
  · obtain ⟨o, ho, -⟩ := hk
    cases ho
  · cases hc

/-- **The registry of devices**: in every run of devices being made and stopping, starts and anomaly
    commands, the law holds in all states exactly if every step is clean. -/
theorem lawful_throughout_iff {ls : List Label} {w : World} (hrun : exec step init ls = some w) :
    Throughout step Lawful init ls ↔ Always step Clean init ls :=
  throughout_iff_always (fun _ _ _ hw h => sound_step hw h)
    (fun _ _ _ hw hlaw h => lawful_step hw hlaw h) sound_init lawful_init hrun

/-! ## Two simulations with one device -/

/-- The command "spike" for the device with the EUI `0000000000000000`. -/
def spike : Label := .command true (.ok ⟨"spike", "trigger"⟩) (.ok (Vector.replicate 8 0))

/-- One device at a time, and the command is applied before it stops. -/
theorem lawful_oneDevice : Throughout step Lawful init
    [.newDevice Device.zero, spike, .apply 0, .exit 0, .start, .newDevice Device.zero] := by
  refine (lawful_throughout_iff rfl).mpr ?_
  refine ⟨trivial, fun w hw => ?_⟩
  obtain rfl := Option.some.inj hw
  refine ⟨trivial, fun w hw => ?_⟩
  obtain rfl := Option.some.inj hw
  refine ⟨fun k req o hreq ho _ => ?_, fun w hw => ?_⟩
  · cases hreq
    cases ho
    rfl
  obtain rfl := Option.some.inj hw
  refine ⟨?_, fun w hw => ?_⟩
  · -- there is no other device
    rintro o - j hj ⟨p, hp, -⟩
    match j with
    | 0 => exact hj rfl
    | j + 1 => cases hp
  obtain rfl := Option.some.inj hw
  refine ⟨?_, fun w hw => ?_⟩
  · -- the only device has stopped
    rintro e k ⟨o, ho, hs, -⟩
    match k with
    | 0 =>
      obtain rfl := Option.some.inj ho
      cases hs
    | k + 1 => cases ho
  exact ⟨trivial, fun _ _ => trivial⟩

/-- The first of the two stops: the second one sends on, and is not found any more. -/
theorem not_lawful_sameEUI : (∃ w, exec step init
      [.newDevice Device.zero, .newDevice Device.zero, .exit 0] = some w ∧
      Sends w 1 (Vector.replicate 8 0) ∧ w.getDevice (Vector.replicate 8 0) = none) ∧
    ¬ Throughout step Lawful init [.newDevice Device.zero, .newDevice Device.zero, .exit 0] := by
  have hrun : exec step init [.newDevice Device.zero, .newDevice Device.zero, .exit 0] = some _ := rfl
  refine ⟨⟨_, hrun, ⟨⟨Device.zero, true⟩, rfl, rfl, rfl⟩, rfl⟩, fun h => ?_⟩
  obtain ⟨htracks, -⟩ := h.last hrun
  exact (htracks (Vector.replicate 8 0)).1.mpr ⟨1, ⟨Device.zero, true⟩, rfl, rfl, rfl⟩ rfl

end ChirpStackSimulator.ActiveDevices
