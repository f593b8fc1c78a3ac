/-
  From a command topic to the devices of a gateway (`downlinkEventHandler` and `addDevice` in
  `simulator/gateway.go`, `downlinkLoop` in `simulator/device.go`).

  A gateway does not know whom a downlink is for: it offers every command to the queue of each of its
  devices, and never waits for one.  Handlers of several commands may run side by side, the range over
  the devices takes them in any order, and the loops of the devices go on meanwhile.

  1. **Objects** — the devices with their queues (`Listener`), the gateways, and the calls of the
     handler (`Handling`), each with the devices it has still to come to.
  2. **Steps** — `step`, in any order.  `step_cases` says once what a step can do, `listener_step` what
     it can do to one device.
  3. **Coverage** (`Covered`) — a gateway holds a device once, under its own EUI.
  4. **Offers** — every command is offered once to each device the gateway had when it came
     (`offered_once`), in the order of the commands if the handlers do not overlap
     (`inOrder_run`).
-/
import ChirpStackSimulator.UplinkLoop
import ChirpStackSimulator.Lib.Buffers
import ChirpStackSimulator.Lib.Objects
import ChirpStackSimulator.Lib.Tally
import Mathlib.Data.List.Perm.Basic

namespace ChirpStackSimulator.Coverage

open LoRaWAN Downlink Transition Buffers
open UplinkLoop (Slot LoopStep newSlot)
open DownlinkLoop (handleFrame)
open Downstream (DownlinkFrame Gateway Ref)

/-! ## Objects -/

/-- A device with its two loops, its queue, and the calls of its downlink handler, oldest first. -/
structure Listener where
  slot : Slot
  queue : Queue DownlinkFrame
  calls : List HandlerCall
  /-- The downlink loop has not left. -/
  listening : Bool

/-- A call of `downlinkEventHandler`. -/
structure Handling where
  gateway : Ref
  frame : DownlinkFrame
  /-- The devices of the gateway, in the order of the range. -/
  targets : List Ref
  /-- Those the range has still to come to. -/
  rest : List Ref
  returned : Bool
  deriving DecidableEq

/-- Gateways and devices are named by their simulation and their position in it; the calls of the
    handlers stand in the order they came. -/
structure State where
  gateways : Ref → Option Gateway
  listeners : Ref → Option Listener
  handlings : List Handling

/-- Nothing is there yet. -/
def init : State := ⟨fun _ => none, fun _ => none, []⟩

/-! ## Steps -/

/-- What may happen next. -/
inductive Label where
  | newGateway (ref : Ref) (gatewayID : EUI64)
  | newDevice (c : Ref) (d : { d : Device // d.Fresh }) (tenantID : String) (otaaDelay : Bool)
  /-- `addDevice` of the device `c` on the gateway `ref`. -/
  | addDevice (ref c : Ref)
  /-- A command comes to the gateway, which will range over its devices in this order. -/
  | command (ref : Ref) (payload : List UInt8) (order : List Ref)
  /-- The `i`-th call offers its frame to the next device. -/
  | forward (i : Nat)
  /-- The `i`-th call has acknowledged its frame and returns. -/
  | returns (i : Nat)
  /-- The downlink loop takes a frame. -/
  | receive (c : Ref)
  /-- The downlink loop leaves. -/
  | done (c : Ref)
  /-- A step of the uplink loop, or of what goes on beside both loops. -/
  | uplink (c : Ref) (a : LoopStep)

/-- The step is one of the downlink loop. -/
def Sessional : LoopStep → Prop
  | .session _ => True
  | .go | .done | .joinRequest _ | .choose _ | .next _ _ | .command _ | .cancel => False

instance : DecidablePred Sessional
  | .session _ => instDecidableTrue
  | .go | .done | .joinRequest _ | .choose _ | .next _ _ | .command _ | .cancel =>
    instDecidableFalse

/-- A call holds the read lock of its gateway. -/
def State.Locked (s : State) (ref : Ref) : Prop :=
  ∃ h ∈ s.handlings, h.gateway = ref ∧ h.returned = false

instance (s : State) (ref : Ref) : Decidable (s.Locked ref) := by
  unfold State.Locked
  infer_instance

section
variable (lib : Library) (newCipher : AES128Key → Except String CipherBlock)
  (unmarshal : List UInt8 → DownlinkFrame × Option String)

/-- The frame is offered to the queue of 100 slots. -/
def Listener.offer (l : Listener) (pl : DownlinkFrame) : Listener :=
  { l with queue := l.queue.offer 100 pl }

/-- The downlink loop handles a frame it has taken. -/
def Listener.handle (l : Listener) (pl : DownlinkFrame) (queue : Queue DownlinkFrame) : Listener :=
  let o := handleFrame lib newCipher l.slot.device pl
  { l with
    slot := { l.slot with device := o.device }
    queue
    calls := l.calls ++ o.handled.toList }

/-- One device changes. -/
def State.setListener (s : State) (c : Ref) (l : Listener) : State :=
  { s with listeners := Function.update s.listeners c (some l) }

/-- One call of the handler goes on. -/
def State.setHandling (s : State) (i : Nat) (h : Handling) : State :=
  { s with handlings := s.handlings.set i h }

/-- One step. -/
def step (s : State) : Label → Option State
  | .newGateway ref gatewayID =>
    if (s.gateways ref).isNone then
      some { s with gateways := Function.update s.gateways ref (some ⟨gatewayID, [], 0, 0, 0⟩) }
    else none
  | .newDevice c d tenantID otaaDelay =>
    if (s.listeners c).isNone then
      some (s.setListener c ⟨newSlot d tenantID otaaDelay, Queue.empty, [], true⟩)
    else none
  | .addDevice ref c =>
    match s.gateways ref, s.listeners c with
    | some g, some l =>
      -- `addDevice` takes the write lock
      if s.Locked ref then none
      else some { s with
        gateways := Function.update s.gateways ref (some (g.addDevice l.slot.device.devEUI c)) }
    | _, _ => none
  | .command ref payload order =>
    match s.gateways ref with
    | none => none
    | some g =>
      if order.Perm (g.devices.map Prod.snd) then
        some { s with
          gateways := Function.update s.gateways ref
            (some { g with downlinkCount := g.downlinkCount + 1 })
          -- a payload that does not decode is only logged
          handlings := s.handlings ++ [⟨ref, (unmarshal payload).1, order, order, false⟩] }
      else none
  | .forward i =>
    match s.handlings[i]? with
    | none => none
    | some h =>
      match h.rest with
      | [] => none
      | c :: rest =>
        (s.listeners c).map fun l =>
          (s.setListener c (l.offer h.frame)).setHandling i { h with rest }
  | .returns i =>
    match s.handlings[i]? with
    | none => none
    | some h =>
      if h.rest = [] then some (s.setHandling i { h with returned := true }) else none
  | .receive c =>
    match s.listeners c with
    | none => none
    | some l =>
      if l.listening then
        l.queue.take.map fun (pl, queue) => s.setListener c (l.handle lib newCipher pl queue)
      else none
  | .done c => (s.listeners c).map fun l => s.setListener c { l with listening := false }
  | .uplink c a =>
    match s.listeners c with
    | none => none
    | some l =>
      if Sessional a then none
      else (l.slot.step lib a).map fun slot => s.setListener c { l with slot }

/-! ## What a step can do -/

/-- What a step can do, with its guards. -/
inductive Steps (s : State) : Label → State → Prop where
  | newGateway (ref : Ref) (gatewayID : EUI64) (hnone : s.gateways ref = none) :
    Steps s (.newGateway ref gatewayID)
      { s with gateways := Function.update s.gateways ref (some ⟨gatewayID, [], 0, 0, 0⟩) }
  | newDevice (c : Ref) (d : { d : Device // d.Fresh }) (tenantID : String) (otaaDelay : Bool)
      (hnone : s.listeners c = none) :
    Steps s (.newDevice c d tenantID otaaDelay)
      (s.setListener c ⟨newSlot d tenantID otaaDelay, Queue.empty, [], true⟩)
  | addDevice (ref c : Ref) (g : Gateway) (l : Listener) (hg : s.gateways ref = some g)
      (hl : s.listeners c = some l) (hfree : ¬ s.Locked ref) :
    Steps s (.addDevice ref c)
      { s with
        gateways := Function.update s.gateways ref (some (g.addDevice l.slot.device.devEUI c)) }
  | command (ref : Ref) (payload : List UInt8) (order : List Ref) (g : Gateway)
      (hg : s.gateways ref = some g) (horder : order.Perm (g.devices.map Prod.snd)) :
    Steps s (.command ref payload order)
      { s with
        gateways := Function.update s.gateways ref
          (some { g with downlinkCount := g.downlinkCount + 1 })
        handlings := s.handlings ++ [⟨ref, (unmarshal payload).1, order, order, false⟩] }
  | forward (i : Nat) (h : Handling) (c : Ref) (rest : List Ref) (l : Listener)
      (hh : s.handlings[i]? = some h) (hrest : h.rest = c :: rest) (hl : s.listeners c = some l) :
    Steps s (.forward i)
      ((s.setListener c (l.offer h.frame)).setHandling i { h with rest })
  | returns (i : Nat) (h : Handling) (hh : s.handlings[i]? = some h) (hrest : h.rest = []) :
    Steps s (.returns i) (s.setHandling i { h with returned := true })
  | receive (c : Ref) (l : Listener) (pl : DownlinkFrame) (queue : Queue DownlinkFrame)
      (hl : s.listeners c = some l) (hlistening : l.listening = true)
      (htake : l.queue.take = some (pl, queue)) :
    Steps s (.receive c) (s.setListener c (l.handle lib newCipher pl queue))
  | done (c : Ref) (l : Listener) (hl : s.listeners c = some l) :
    Steps s (.done c) (s.setListener c { l with listening := false })
  | uplink (c : Ref) (a : LoopStep) (l : Listener) (slot : Slot) (hl : s.listeners c = some l)
      (ha : ¬ Sessional a) (hslot : l.slot.step lib a = some slot) :
    Steps s (.uplink c a) (s.setListener c { l with slot })

/-- **What a step can do.** -/
theorem step_cases {s t : State} {a : Label} (h : step lib newCipher unmarshal s a = some t) :
    Steps lib newCipher unmarshal s a t := by
  cases a with
  | newGateway ref gatewayID =>
    simp only [step] at h
    split at h
    · rename_i hnone
      obtain rfl := Option.some.inj h
      exact .newGateway ref gatewayID (Option.isNone_iff_eq_none.mp hnone)
    · cases h
  | newDevice c d tenantID otaaDelay =>
    simp only [step] at h
    split at h
    · rename_i hnone
      obtain rfl := Option.some.inj h
      exact .newDevice c d tenantID otaaDelay (Option.isNone_iff_eq_none.mp hnone)
    · cases h
  | addDevice ref c =>
    simp only [step] at h
    split at h
    · rename_i g l hg hl
      split at h
      · cases h
      · rename_i hfree
        obtain rfl := Option.some.inj h
        exact .addDevice ref c g l hg hl hfree
    · cases h
  | command ref payload order =>
    simp only [step] at h
    split at h
    · cases h
    · rename_i g hg
      split at h
      · rename_i horder
        obtain rfl := Option.some.inj h
        exact .command ref payload order g hg horder
      · cases h
  | forward i =>
    simp only [step] at h
    split at h
    · cases h
    · rename_i hd hh
      split at h
      · cases h
      · rename_i c rest hrest
        obtain ⟨l, hl, rfl⟩ := Option.map_eq_some_iff.mp h
        exact .forward i hd c rest l hh hrest hl
  | returns i =>
    simp only [step] at h
    split at h
    · cases h
    · rename_i hd hh
      split at h
      · rename_i hrest
        obtain rfl := Option.some.inj h
        exact .returns i hd hh hrest
      · cases h
  | receive c =>
    simp only [step] at h
    split at h
    · cases h
    · rename_i l hl
      split at h
      · rename_i hlistening
        obtain ⟨⟨pl, queue⟩, htake, rfl⟩ := Option.map_eq_some_iff.mp h
        exact .receive c l pl queue hl hlistening htake
      · cases h
  | done c =>
    obtain ⟨l, hl, rfl⟩ := Option.map_eq_some_iff.mp h
    exact .done c l hl
  | uplink c a =>
    simp only [step] at h
    split at h
    · cases h
    · rename_i l hl
      split at h
      · cases h
      · rename_i ha
        obtain ⟨slot, hslot, rfl⟩ := Option.map_eq_some_iff.mp h
        exact .uplink c a l slot hl ha hslot

end

section
variable {lib : Library} {newCipher : AES128Key → Except String CipherBlock}
  {unmarshal : List UInt8 → DownlinkFrame × Option String}

/-- What a step can do to a device. -/
inductive Moves (lib : Library) (newCipher : AES128Key → Except String CipherBlock) (l : Listener) :
    Listener → Prop where
  | same : Moves lib newCipher l l
  | offered (pl : DownlinkFrame) : Moves lib newCipher l (l.offer pl)
  | handled (pl : DownlinkFrame) (queue : Queue DownlinkFrame)
      (htake : l.queue.take = some (pl, queue)) :
    Moves lib newCipher l (l.handle lib newCipher pl queue)
  | left : Moves lib newCipher l { l with listening := false }
  | uplink (a : LoopStep) (slot : Slot) (ha : ¬ Sessional a)
      (hslot : l.slot.step lib a = some slot) : Moves lib newCipher l { l with slot }

@[simp] theorem setListener_self (s : State) (c : Ref) (l : Listener) :
    (s.setListener c l).listeners c = some l := Function.update_self ..

theorem setListener_of_ne {s : State} {c c' : Ref} {l : Listener} (hne : c' ≠ c) :
    (s.setListener c l).listeners c' = s.listeners c' := Function.update_of_ne hne ..

/-- A device that one step changes, seen from any of them. -/
theorem moves_of_setListener {s : State} {c c' : Ref} {l l' m : Listener}
    (hl : s.listeners c = some l) (hmoves : Moves lib newCipher l l')
    (hm : s.listeners c' = some m) :
    ∃ m', (s.setListener c l').listeners c' = some m' ∧ Moves lib newCipher m m' := by
  by_cases hc : c' = c
  · subst hc
    obtain rfl := Option.some.inj (hl.symm.trans hm)
    exact ⟨l', setListener_self s c' l', hmoves⟩
  · exact ⟨m, by rw [setListener_of_ne hc, hm], .same⟩

/-- **What a step can do to one device.** -/
theorem listener_step {s t : State} {a : Label} {c : Ref} {l : Listener}
    (h : step lib newCipher unmarshal s a = some t) (hl : s.listeners c = some l) :
    ∃ l', t.listeners c = some l' ∧ Moves lib newCipher l l' := by
  cases step_cases lib newCipher unmarshal h with
  | newGateway ref gatewayID hnone => exact ⟨l, hl, .same⟩
  | newDevice c' d tenantID otaaDelay hnone =>
    have hne : c ≠ c' := by
      rintro rfl
      rw [hnone] at hl
      cases hl
    exact ⟨l, by rw [setListener_of_ne hne, hl], .same⟩
  | addDevice ref c' g l' hg hl' hfree => exact ⟨l, hl, .same⟩
  | command ref payload order g hg horder => exact ⟨l, hl, .same⟩
  | forward i hd c' rest l' hh hrest hl' => exact moves_of_setListener hl' (.offered hd.frame) hl
  | returns i hd hh hrest => exact ⟨l, hl, .same⟩
  | receive c' l' pl queue hl' hlistening htake =>
    exact moves_of_setListener hl' (.handled pl queue htake) hl
  | done c' l' hl' => exact moves_of_setListener hl' .left hl
  | uplink c' a l' slot hl' ha hslot => exact moves_of_setListener hl' (.uplink a slot ha hslot) hl

/-- A run in terms of one device. -/
theorem listener_run {I : Listener → Prop} {c : Ref}
    (hstep : ∀ l l', I l → Moves lib newCipher l l' → I l') {s t : State} {as : List Label}
    (h : exec (step lib newCipher unmarshal) s as = some t)
    (hs : ∃ l, s.listeners c = some l ∧ I l) : ∃ l, t.listeners c = some l ∧ I l :=
  exec_invariant (I := fun s => ∃ l, s.listeners c = some l ∧ I l)
    (fun _ _ _ ⟨l, hl, hI⟩ h =>
      have ⟨l', hl', hmoves⟩ := listener_step h hl
      ⟨l', hl', hstep l l' hI hmoves⟩) hs h

/-! ## What the loops leave alone -/

/-- What the downlink loop reads of a device and never sets on a data downlink, with the EUI. -/
structure Link where
  devEUI : EUI64
  joinEUI : EUI64
  appKey : AES128Key
  appSKey : AES128Key
  nwkSKey : AES128Key
  downlinkHandlerFunc : Bool

/-- The link of a device. -/
def linkOf (d : Device) : Link :=
  ⟨d.devEUI, d.joinEUI, d.appKey, d.appSKey, d.nwkSKey, d.downlinkHandlerFunc⟩

/-- The uplink side changes neither the link nor the counter. -/
def KeepsLink (d d' : Device) : Prop := linkOf d' = linkOf d ∧ d'.fCntDown = d.fCntDown

/-- The sections of an uplink keep the link, one by one. -/
theorem keepsLink_chooseAnomaly (d : Device) (r : DataUp.Draws) :
    KeepsLink d (DataUp.chooseAnomaly d r).1 := by
  unfold DataUp.chooseAnomaly
  split
  · exact ⟨rfl, rfl⟩
  · split
    · exact ⟨rfl, rfl⟩
    · split
      · exact ⟨rfl, rfl⟩
      · exact ⟨rfl, rfl⟩

theorem keepsLink_dropoutSection (d : Device) (isManual : Bool) :
    KeepsLink d (DataUp.dropoutSection d isManual) := by
  cases isManual <;> exact ⟨rfl, rfl⟩

theorem keepsLink_countDown (d : Device) : KeepsLink d (DataUp.countDown d) := by
  unfold DataUp.countDown
  split
  · exact ⟨rfl, rfl⟩
  · exact ⟨rfl, rfl⟩

theorem keepsLink_finishSection (d : Device) (c : DataUp.Choice) :
    KeepsLink d (DataUp.finishSection d c) := by
  unfold DataUp.finishSection
  dsimp only
  split
  · exact ⟨rfl, rfl⟩
  · split
    · split
      · exact ⟨rfl, rfl⟩
      · split
        · exact ⟨rfl, rfl⟩
        · exact ⟨rfl, rfl⟩
    · split
      · exact keepsLink_countDown _
      · exact keepsLink_countDown _

/-- So every section of `dataUp` keeps the link, whatever it comes to. -/
theorem keepsLink_next (s : Slot) (runScript : String → DataUp.ScriptEnv → DataUp.ScriptResult)
    (nowNs : Nat) (pc : DataUp.Pc) :
    KeepsLink s.device (s.next lib runScript nowNs pc).device := by
  have hgoes := Slot.next_cases lib s runScript nowNs pc
  generalize s.next lib runScript nowNs pc = t at hgoes ⊢
  cases hgoes with
  | idle => exact ⟨rfl, rfl⟩
  | dropped c hdrop => exact keepsLink_dropoutSection s.device c.isManual
  | repeated c hdrop hflat => exact ⟨rfl, rfl⟩
  | notRepeated c hdrop hflat => exact ⟨rfl, rfl⟩
  | readDrift c => exact ⟨rfl, rfl⟩
  | made c drift => exact ⟨rfl, rfl⟩
  | notSealed c e hseal => exact ⟨rfl, rfl⟩
  | sealed c phy hseal => exact ⟨rfl, rfl⟩
  | finished c phy => exact keepsLink_finishSection s.device c

/-- **The uplink loop and the commands keep the link.** -/
theorem keepsLink_uplink {s s' : Slot} {a : LoopStep} (ha : ¬ Sessional a)
    (h : s.step lib a = some s') : KeepsLink s.device s'.device := by
  cases Slot.step_cases h with
  | go loop hmoves => exact ⟨rfl, rfl⟩
  | done hcancelled hselects => exact ⟨rfl, rfl⟩
  | joinRequest rand hloop => exact ⟨rfl, rfl⟩
  | choose r hloop => exact keepsLink_chooseAnomaly s.device r
  | next runScript nowNs pc hloop => exact keepsLink_next s runScript nowNs pc
  | refused req => exact ⟨rfl, rfl⟩
  | command req anomalyType active => exact ⟨rfl, rfl⟩
  | session f => exact absurd trivial ha
  | cancelledLate hloop => exact ⟨rfl, rfl⟩
  | cancel hloop => exact ⟨rfl, rfl⟩

/-- No step changes the EUI of a device. -/
theorem devEUI_moves {l l' : Listener} (h : Moves lib newCipher l l') :
    l'.slot.device.devEUI = l.slot.device.devEUI := by
  cases h with
  | same => rfl
  | offered pl => rfl
  | handled pl queue htake =>
    obtain ⟨f, hf⟩ := DownlinkLoop.handleFrame_session lib newCipher l.slot.device pl
    show (handleFrame lib newCipher l.slot.device pl).device.devEUI = l.slot.device.devEUI
    rw [hf]
    rfl
  | left => rfl
  | uplink a slot ha hslot => exact congrArg Link.devEUI (keepsLink_uplink ha hslot).1

/-! ## Coverage -/

/-- A gateway holds a device once, under its own EUI; a call of the handler stands somewhere in its
    range over such devices. -/
structure Covered (s : State) : Prop where
  keys : ∀ ref g, s.gateways ref = some g → (g.devices.map Prod.fst).Nodup
  devices : ∀ ref g, s.gateways ref = some g → ∀ e ∈ g.devices,
    ∃ l, s.listeners e.2 = some l ∧ l.slot.device.devEUI = e.1
  nodup : ∀ h ∈ s.handlings, h.targets.Nodup
  targets : ∀ h ∈ s.handlings, ∀ c ∈ h.targets, ∃ l, s.listeners c = some l
  rest : ∀ h ∈ s.handlings, h.rest.Sublist h.targets

/-- With no gateway there is nothing to hold. -/
theorem covered_init : Covered init where
  keys ref g hg := by cases hg
  devices ref g hg := by cases hg
  nodup h hh := by cases hh
  targets h hh := by cases hh
  rest h hh := by cases hh

/-- Devices with distinct EUIs are distinct. -/
theorem Covered.nodup_devices {s : State} (hs : Covered s) {ref : Ref} {g : Gateway}
    (hg : s.gateways ref = some g) : (g.devices.map Prod.snd).Nodup := by
  have hkeys := List.pairwise_map.mp (hs.keys ref g hg)
  refine List.pairwise_map.mpr (hkeys.imp_of_mem fun he he' hne heq => hne ?_)
  obtain ⟨l, hl, heui⟩ := hs.devices ref g hg _ he
  obtain ⟨l', hl', heui'⟩ := hs.devices ref g hg _ he'
  rw [heq, hl'] at hl
  cases hl
  rw [← heui, ← heui']

/-- The listeners there are stay, with their EUIs. -/
theorem listener_kept {s t : State} {a : Label} (h : step lib newCipher unmarshal s a = some t)
    {c : Ref} {l : Listener} (hl : s.listeners c = some l) :
    ∃ l', t.listeners c = some l' ∧ l'.slot.device.devEUI = l.slot.device.devEUI := by
  obtain ⟨l', hl', hmoves⟩ := listener_step h hl
  exact ⟨l', hl', devEUI_moves hmoves⟩

/-- Where no gateway and no call changes, a step keeps the coverage. -/
theorem Covered.of_step {s t : State} {a : Label} (hs : Covered s)
    (h : step lib newCipher unmarshal s a = some t) (hgateways : t.gateways = s.gateways)
    (hhandlings : ∀ h ∈ t.handlings, ∃ h₀ ∈ s.handlings,
      h.targets = h₀.targets ∧ h.rest.Sublist h₀.rest) : Covered t where
  keys ref g hg := hs.keys ref g (hgateways ▸ hg)
  devices ref g hg e he := by
    obtain ⟨l, hl, heui⟩ := hs.devices ref g (hgateways ▸ hg) e he
    obtain ⟨l', hl', heui'⟩ := listener_kept h hl
    exact ⟨l', hl', heui'.trans heui⟩
  nodup hd hh := by
    obtain ⟨h₀, hh₀, htargets, -⟩ := hhandlings hd hh
    exact htargets ▸ hs.nodup h₀ hh₀
  targets hd hh c hc := by
    obtain ⟨h₀, hh₀, htargets, -⟩ := hhandlings hd hh
    obtain ⟨l, hl⟩ := hs.targets h₀ hh₀ c (htargets ▸ hc)
    obtain ⟨l', hl', -⟩ := listener_kept h hl
    exact ⟨l', hl'⟩
  rest hd hh := by
    obtain ⟨h₀, hh₀, htargets, hrest⟩ := hhandlings hd hh
    rw [htargets]
    exact hrest.trans (hs.rest h₀ hh₀)

/-- A call that goes on in its place. -/
theorem handlings_set {handlings : List Handling} {i : Nat} {h h' : Handling}
    (hh : handlings[i]? = some h) (htargets : h'.targets = h.targets)
    (hrest : h'.rest.Sublist h.rest) : ∀ k ∈ handlings.set i h', ∃ k₀ ∈ handlings,
      k.targets = k₀.targets ∧ k.rest.Sublist k₀.rest := by
  intro k hk
  rcases List.mem_or_eq_of_mem_set hk with hold | rfl
  · exact ⟨k, hold, rfl, List.Sublist.refl _⟩
  · exact ⟨h, List.mem_of_getElem? hh, htargets, hrest⟩

/-- **One step** keeps the coverage: a device is added under its EUI, and a call that begins takes
    the devices of the moment. -/
theorem covered_step {s t : State} {a : Label} (hs : Covered s)
    (h : step lib newCipher unmarshal s a = some t) : Covered t := by
  have hsame : ∀ k ∈ s.handlings, ∃ k₀ ∈ s.handlings,
      k.targets = k₀.targets ∧ k.rest.Sublist k₀.rest :=
    fun k hk => ⟨k, hk, rfl, List.Sublist.refl _⟩
  cases step_cases lib newCipher unmarshal h with
  | newGateway ref gatewayID hnone =>
    refine ⟨fun ref' g hg => ?_, fun ref' g hg => ?_, hs.nodup, hs.targets, hs.rest⟩
    · rcases Objects.of_lookup_update hg with ⟨-, rfl⟩ | ⟨-, hg⟩
      · exact List.nodup_nil
      · exact hs.keys ref' g hg
    · rcases Objects.of_lookup_update hg with ⟨-, rfl⟩ | ⟨-, hg⟩
      · exact fun e he => absurd he List.not_mem_nil
      · exact hs.devices ref' g hg
  | newDevice c d tenantID otaaDelay hnone => exact hs.of_step h rfl hsame
  | addDevice ref c g l hg hl hfree =>
    refine ⟨fun ref' g' hg' => ?_, fun ref' g' hg' => ?_, hs.nodup, hs.targets, hs.rest⟩
    · rcases Objects.of_lookup_update hg' with ⟨-, rfl⟩ | ⟨-, hg'⟩
      · refine List.nodup_cons.mpr ⟨fun hmem => ?_, (hs.keys ref g hg).sublist ?_⟩
        · obtain ⟨e, he, heui⟩ := List.mem_map.mp hmem
          exact absurd heui (of_decide_eq_true (List.mem_filter.mp he).2)
        · exact List.filter_sublist.map Prod.fst
      · exact hs.keys ref' g' hg'
    · rcases Objects.of_lookup_update hg' with ⟨-, rfl⟩ | ⟨-, hg'⟩
      · intro e he
        rcases List.mem_cons.mp he with rfl | he
        · exact ⟨l, hl, rfl⟩
        · exact hs.devices ref g hg e (List.mem_filter.mp he).1
      · exact hs.devices ref' g' hg'
  | command ref payload order g hg horder =>
    refine ⟨fun ref' g' hg' => ?_, fun ref' g' hg' => ?_, fun hd hh => ?_, fun hd hh => ?_,
      fun hd hh => ?_⟩
    · rcases Objects.of_lookup_update hg' with ⟨-, rfl⟩ | ⟨-, hg'⟩
      · exact hs.keys ref g hg
      · exact hs.keys ref' g' hg'
    · rcases Objects.of_lookup_update hg' with ⟨-, rfl⟩ | ⟨-, hg'⟩
      · exact hs.devices ref g hg
      · exact hs.devices ref' g' hg'
    · rcases List.mem_append.mp hh with hh | hh
      · exact hs.nodup hd hh
      · obtain rfl := List.mem_singleton.mp hh
        exact horder.nodup_iff.mpr (hs.nodup_devices hg)
    · rcases List.mem_append.mp hh with hh | hh
      · exact hs.targets hd hh
      · obtain rfl := List.mem_singleton.mp hh
        intro c hc
        obtain ⟨e, he, rfl⟩ := List.mem_map.mp (horder.mem_iff.mp hc)
        obtain ⟨l, hl, -⟩ := hs.devices ref g hg e he
        exact ⟨l, hl⟩
    · rcases List.mem_append.mp hh with hh | hh
      · exact hs.rest hd hh
      · obtain rfl := List.mem_singleton.mp hh
        exact List.Sublist.refl _
  | forward i hd c rest l hh hrest hl =>
    refine hs.of_step h rfl (handlings_set hh rfl ?_)
    rw [hrest]
    exact List.sublist_cons_self c rest
  | returns i hd hh hrest => exact hs.of_step h rfl (handlings_set hh rfl (List.Sublist.refl _))
  | receive c l pl queue hl hlistening htake => exact hs.of_step h rfl hsame
  | done c l hl => exact hs.of_step h rfl hsame
  | uplink c a l slot hl ha hslot => exact hs.of_step h rfl hsame

/-! ## Offers -/

/-- The frames of the commands that came while the gateway had the device, in their order. -/
def State.commanded (s : State) (c : Ref) : List DownlinkFrame :=
  (s.handlings.filter fun h => decide (c ∈ h.targets)).map Handling.frame

/-- Those of them that are still to be offered to it. -/
def State.pending (s : State) (c : Ref) : List DownlinkFrame :=
  (s.handlings.filter fun h => decide (c ∈ h.rest)).map Handling.frame

/-- How often a frame is among those of some calls. -/
theorem count_frames (p : Handling → Bool) (handlings : List Handling) (x : DownlinkFrame) :
    ((handlings.filter p).map Handling.frame).count x
      = handlings.countP fun h => h.frame == x && p h := by
  rw [List.count, List.countP_map, List.countP_filter]
  rfl

/-- The frames offered to a device. -/
def Listener.offers (l : Listener) : List DownlinkFrame := l.queue.offered.map Prod.fst

/-- Every frame is offered as often as it came, but for the calls that have still to come to it. -/
def Offered (s : State) : Prop :=
  ∀ (c : Ref) (l : Listener), s.listeners c = some l → ∀ x,
    l.offers.count x + (s.pending c).count x = (s.commanded c).count x

theorem offered_init : Offered init := fun c l hl => by cases hl

/-- A step that changes neither the calls nor what was offered. -/
theorem Offered.of_moves {s t : State} (hs : Offered s) (hhandlings : t.handlings = s.handlings)
    (hlisteners : ∀ c l, t.listeners c = some l →
      ∃ l₀, s.listeners c = some l₀ ∧ l.queue.offered = l₀.queue.offered) : Offered t := by
  intro c l hl x
  obtain ⟨l₀, hl₀, hoffered⟩ := hlisteners c l hl
  rw [Listener.offers, State.pending, State.commanded, hoffered, hhandlings]
  exact hs c l₀ hl₀ x

/-- One device changes, and what was offered to it stays. -/
theorem offered_of_setListener {s : State} {c : Ref} {l l' : Listener}
    (hl : s.listeners c = some l) (h : l'.queue.offered = l.queue.offered) :
    ∀ c' m, (s.setListener c l').listeners c' = some m →
      ∃ m₀, s.listeners c' = some m₀ ∧ m.queue.offered = m₀.queue.offered := by
  intro c' m hm
  rcases Objects.of_lookup_update hm with ⟨rfl, rfl⟩ | ⟨-, hm⟩
  · exact ⟨l, hl, h⟩
  · exact ⟨m, hm, rfl⟩

/-- One call goes on, with its frame. -/
theorem count_frames_set (p : Handling → Bool) {handlings : List Handling} {i : Nat}
    {h : Handling} (h' : Handling) (hh : handlings[i]? = some h) (hframe : h'.frame = h.frame)
    (x : DownlinkFrame) :
    (((handlings.set i h').filter p).map Handling.frame).count x
        + (if h.frame = x ∧ p h = true then 1 else 0)
      = ((handlings.filter p).map Handling.frame).count x
        + (if h.frame = x ∧ p h' = true then 1 else 0) := by
  have hset := Tally.countP_set_add (fun h => h.frame == x && p h) h' hh
  rw [count_frames, count_frames]
  simpa only [Bool.and_eq_true, beq_iff_eq, hframe] using hset

/-- A call that goes on where nothing looks at it. -/
theorem frames_set (p : Handling → Bool) (h' : Handling) : ∀ {handlings : List Handling} {i : Nat}
    {h : Handling}, handlings[i]? = some h → h'.frame = h.frame → p h' = p h →
      ((handlings.set i h').filter p).map Handling.frame
        = (handlings.filter p).map Handling.frame := by
  intro handlings
  induction handlings with
  | nil => exact fun hh => by cases hh
  | cons k handlings ih =>
    intro i h hh hframe hp
    cases i with
    | zero =>
      obtain rfl := Option.some.inj hh
      rw [List.set_cons_zero, List.filter_cons, List.filter_cons, hp]
      split
      · rw [List.map_cons, List.map_cons, hframe]
      · rfl
    | succ i =>
      have hrest := ih (i := i) hh hframe hp
      rw [List.set_cons_succ, List.filter_cons, List.filter_cons]
      split
      · rw [List.map_cons, List.map_cons, hrest]
      · exact hrest

/-- A call that goes on with its frame and its devices leaves what was commanded. -/
theorem commanded_setHandling {s : State} {i : Nat} {h : Handling} (h' : Handling)
    (hh : s.handlings[i]? = some h) (hframe : h'.frame = h.frame)
    (htargets : h'.targets = h.targets) (c : Ref) :
    (s.setHandling i h').commanded c = s.commanded c :=
  frames_set _ h' hh hframe (by rw [htargets])

/-- So does one that leaves the range where it is, for what is pending. -/
theorem pending_setHandling {s : State} {i : Nat} {h : Handling} (h' : Handling)
    (hh : s.handlings[i]? = some h) (hframe : h'.frame = h.frame) {c : Ref}
    (hrest : c ∈ h'.rest ↔ c ∈ h.rest) : (s.setHandling i h').pending c = s.pending c :=
  frames_set _ h' hh hframe (by rw [decide_eq_decide.mpr hrest])

/-- Nothing was commanded for a device that is not there. -/
theorem Covered.commanded_eq_nil {s : State} (hs : Covered s) {c : Ref}
    (hnone : s.listeners c = none) : s.commanded c = [] ∧ s.pending c = [] := by
  have htargets : ∀ h ∈ s.handlings, c ∉ h.targets := by
    intro h hh hc
    obtain ⟨l, hl⟩ := hs.targets h hh c hc
    rw [hnone] at hl
    cases hl
  constructor
  · rw [State.commanded, List.filter_eq_nil_iff.mpr, List.map_nil]
    exact fun h hh hc => htargets h hh (of_decide_eq_true hc)
  · rw [State.pending, List.filter_eq_nil_iff.mpr, List.map_nil]
    exact fun h hh hc => htargets h hh ((hs.rest h hh).subset (of_decide_eq_true hc))

/-- **One step** keeps the account: an offer made is one less to come. -/
theorem offered_step {s t : State} {a : Label} (hs : Covered s) (ho : Offered s)
    (h : step lib newCipher unmarshal s a = some t) : Offered t := by
  have hsame : ∀ c l, s.listeners c = some l →
      ∃ l₀, s.listeners c = some l₀ ∧ l.queue.offered = l₀.queue.offered :=
    fun c l hl => ⟨l, hl, rfl⟩
  cases step_cases lib newCipher unmarshal h with
  | newGateway ref gatewayID hnone => exact ho.of_moves rfl hsame
  | newDevice c d tenantID otaaDelay hnone =>
    intro c' l hl x
    rcases Objects.of_lookup_update hl with ⟨rfl, rfl⟩ | ⟨-, hl⟩
    · obtain ⟨hcommanded, hpending⟩ := hs.commanded_eq_nil hnone
      show _ + (s.pending c').count x = (s.commanded c').count x
      rw [hcommanded, hpending]
      rfl
    · exact ho c' l hl x
  | addDevice ref c g l hg hl hfree => exact ho.of_moves rfl hsame
  | command ref payload order g hg horder =>
    -- the new call is still to come to every device it was made for
    intro c l hl x
    have hold := ho c l hl x
    rw [State.pending, State.commanded] at hold ⊢
    dsimp only
    rw [List.filter_append, List.filter_append, List.map_append, List.map_append,
      List.count_append, List.count_append, ← Nat.add_assoc, hold]
    rfl
  | forward i hd c rest l hh hrest hl =>
    have hnodup : (c :: rest).Nodup := by
      rw [← hrest]
      exact (hs.nodup hd (List.mem_of_getElem? hh)).sublist
        (hs.rest hd (List.mem_of_getElem? hh))
    have hgone : c ∉ rest := (List.nodup_cons.mp hnodup).1
    intro c' m hm x
    show m.offers.count x + ((s.setHandling i { hd with rest }).pending c').count x
      = ((s.setHandling i { hd with rest }).commanded c').count x
    rw [commanded_setHandling { hd with rest } hh rfl rfl]
    rcases Objects.of_lookup_update hm with ⟨rfl, rfl⟩ | ⟨hne, hm⟩
    · have hold := ho c' l hl x
      have hset := count_frames_set (fun k => decide (c' ∈ k.rest)) { hd with rest } hh rfl x
      have hbefore : c' ∈ hd.rest := by
        rw [hrest]
        exact List.mem_cons_self
      simp only [decide_eq_true_eq, hbefore, hgone, and_true, and_false, if_false] at hset
      have hoffers : (l.offer hd.frame).offers = l.offers ++ [hd.frame] :=
        List.map_append
      rw [hoffers, List.count_append, List.count_singleton]
      rw [State.pending] at hold
      rw [State.pending, State.setHandling]
      simp only [beq_iff_eq]
      omega
    · rw [pending_setHandling { hd with rest } hh rfl]
      · exact ho c' m hm x
      · rw [hrest, List.mem_cons, or_iff_right hne]
  | returns i hd hh hrest =>
    intro c l hl x
    show l.offers.count x + ((s.setHandling i { hd with returned := true }).pending c).count x
      = ((s.setHandling i { hd with returned := true }).commanded c).count x
    rw [commanded_setHandling { hd with returned := true } hh rfl rfl,
      pending_setHandling { hd with returned := true } hh rfl Iff.rfl]
    exact ho c l hl x
  | receive c l pl queue hl hlistening htake =>
    exact ho.of_moves rfl (offered_of_setListener hl (Queue.take_eq_some htake).2.2)
  | done c l hl => exact ho.of_moves rfl (offered_of_setListener hl rfl)
  | uplink c a l slot hl ha hslot => exact ho.of_moves rfl (offered_of_setListener hl rfl)

/-- **Every command is offered once to each device its gateway had when it came**, but for the calls
    that have still to come to the device, in any interleaving. -/
theorem offered_once {s : State} {as : List Label}
    (h : exec (step lib newCipher unmarshal) init as = some s) {c : Ref} {l : Listener}
    (hl : s.listeners c = some l) : (l.offers ++ s.pending c).Perm (s.commanded c) := by
  have hboth : Covered s ∧ Offered s :=
    exec_invariant (I := fun s => Covered s ∧ Offered s)
      (fun _ _ _ hs h => ⟨covered_step hs.1 h, offered_step hs.1 hs.2 h⟩)
      ⟨covered_init, offered_init⟩ h
  refine List.perm_iff_count.mpr fun x => ?_
  rw [List.count_append]
  exact hboth.2 c l hl x

/-! ## Handlers that do not overlap -/

/-- A command comes only when the ranges of all earlier ones are over. -/
def Serial (s : State) : Label → Prop
  | .command _ _ _ => ∀ h ∈ s.handlings, h.rest = []
  | _ => True

instance (s : State) (a : Label) : Decidable (Serial s a) := by
  unfold Serial
  split <;> infer_instance

/-- Only the last call can be in its range, and the offers are in the order of the commands. -/
structure InOrder (s : State) : Prop where
  last : ∀ i h, s.handlings[i]? = some h → i + 1 < s.handlings.length → h.rest = []
  offers : ∀ (c : Ref) (l : Listener), s.listeners c = some l →
    l.offers ++ s.pending c = s.commanded c

theorem inOrder_init : InOrder init where
  last i h hh := by cases hh
  offers c l hl := by cases hl

/-- The order depends on the calls and on what was offered. -/
theorem InOrder.of_moves {s t : State} (hs : InOrder s) (hhandlings : t.handlings = s.handlings)
    (hlisteners : ∀ c l, t.listeners c = some l →
      ∃ l₀, s.listeners c = some l₀ ∧ l.queue.offered = l₀.queue.offered) : InOrder t where
  last i h hh hi := hs.last i h (hhandlings ▸ hh) (hhandlings ▸ hi)
  offers c l hl := by
    obtain ⟨l₀, hl₀, hoffered⟩ := hlisteners c l hl
    rw [Listener.offers, State.pending, State.commanded, hoffered, hhandlings]
    exact hs.offers c l₀ hl₀

/-- Where no range is under way nothing is pending. -/
theorem frames_nil {handlings : List Handling} (h : ∀ k ∈ handlings, k.rest = []) (c : Ref) :
    (handlings.filter fun k => decide (c ∈ k.rest)).map Handling.frame = [] := by
  rw [List.filter_eq_nil_iff.mpr, List.map_nil]
  intro k hk hc
  rw [h k hk] at hc
  exact absurd (of_decide_eq_true hc) List.not_mem_nil

/-- A call in its range is the last one, and all others are over. -/
theorem InOrder.eq_last {s : State} (hs : InOrder s) {i : Nat} {h : Handling} {c : Ref}
    {rest : List Ref} (hh : s.handlings[i]? = some h) (hrest : h.rest = c :: rest) :
    ∃ earlier, s.handlings = earlier ++ [h] ∧ i = earlier.length ∧ ∀ k ∈ earlier, k.rest = [] := by
  have hne : s.handlings ≠ [] := List.ne_nil_of_mem (List.mem_of_getElem? hh)
  obtain ⟨earlier, k, heq⟩ : ∃ earlier k, s.handlings = earlier ++ [k] :=
    ⟨_, _, (List.dropLast_append_getLast hne).symm⟩
  have hidle : ∀ (j : Nat) (k : Handling), earlier[j]? = some k → k.rest = [] := by
    intro j k hk
    have hlt := (List.getElem?_eq_some_iff.mp hk).1
    refine hs.last j k (heq ▸ Objects.append_kept hk [_]) ?_
    rw [heq, List.length_append, List.length_singleton]
    omega
  rw [heq] at hh
  rcases Objects.lookup_append.mp hh with hold | ⟨hi, rfl⟩
  · have hnil := hidle i h hold
    rw [hrest] at hnil
    cases hnil
  · refine ⟨earlier, heq, hi, fun k hk => ?_⟩
    obtain ⟨j, hj⟩ := List.mem_iff_getElem?.mp hk
    exact hidle j k hj

/-- **One step** keeps the order, if no call of a gateway begins before the last one has returned.
    -/
theorem inOrder_step {s t : State} {a : Label} (hs : Covered s) (ho : InOrder s)
    (hserial : Serial s a) (h : step lib newCipher unmarshal s a = some t) : InOrder t := by
  have hsame : ∀ c l, s.listeners c = some l →
      ∃ l₀, s.listeners c = some l₀ ∧ l.queue.offered = l₀.queue.offered :=
    fun c l hl => ⟨l, hl, rfl⟩
  cases step_cases lib newCipher unmarshal h with
  | newGateway ref gatewayID hnone => exact ho.of_moves rfl hsame
  | newDevice c d tenantID otaaDelay hnone =>
    refine ⟨ho.last, fun c' l hl => ?_⟩
    rcases Objects.of_lookup_update hl with ⟨rfl, rfl⟩ | ⟨-, hl⟩
    · obtain ⟨hcommanded, hpending⟩ := hs.commanded_eq_nil hnone
      show _ ++ s.pending c' = s.commanded c'
      rw [hcommanded, hpending]
      rfl
    · exact ho.offers c' l hl
  | addDevice ref c g l hg hl hfree => exact ho.of_moves rfl hsame
  | command ref payload order g hg horder =>
    have hidle : ∀ h ∈ s.handlings, h.rest = [] := hserial
    refine ⟨fun i h hh hi => ?_, fun c l hl => ?_⟩
    · rcases Objects.lookup_append.mp hh with hold | ⟨hlast, rfl⟩
      · exact hidle h (List.mem_of_getElem? hold)
      · rw [List.length_append, List.length_singleton] at hi
        omega
    · have hold := ho.offers c l hl
      rw [State.pending, frames_nil hidle, List.append_nil] at hold
      rw [State.pending, State.commanded, List.filter_append, List.filter_append, List.map_append,
        List.map_append, frames_nil hidle, hold]
      rfl
  | forward i hd c rest l hh hrest hl =>
    obtain ⟨earlier, heq, hi, hidle⟩ := ho.eq_last hh hrest
    have hset : s.handlings.set i { hd with rest } = earlier ++ [{ hd with rest }] := by
      rw [heq, hi, List.set_append_right _ _ (Nat.le_refl _), Nat.sub_self, List.set_cons_zero]
    have hnodup : (c :: rest).Nodup := by
      rw [← hrest]
      exact (hs.nodup hd (List.mem_of_getElem? hh)).sublist
        (hs.rest hd (List.mem_of_getElem? hh))
    refine ⟨fun j k hk hj => ?_, fun c' m hm => ?_⟩
    · rcases Objects.of_lookup_set hk with ⟨rfl, rfl⟩ | ⟨-, hk⟩
      · have hlength : s.handlings.length = earlier.length + 1 := by
          rw [heq, List.length_append, List.length_singleton]
        simp only [State.setHandling, List.length_set, State.setListener] at hj
        omega
      · exact ho.last j k hk
          (by simpa only [State.setHandling, List.length_set, State.setListener] using hj)
    · show m.offers ++ (s.setHandling i { hd with rest }).pending c'
        = (s.setHandling i { hd with rest }).commanded c'
      rw [commanded_setHandling { hd with rest } hh rfl rfl]
      rcases Objects.of_lookup_update hm with ⟨rfl, rfl⟩ | ⟨hne, hm⟩
      · -- the frame is no longer pending, and stands behind the earlier offers
        have hbefore : s.pending c' = [hd.frame] := by
          rw [State.pending, heq, List.filter_append, List.map_append, frames_nil hidle,
            List.filter_singleton, hrest, decide_eq_true List.mem_cons_self]
          rfl
        have hafter : (s.setHandling i { hd with rest }).pending c' = [] := by
          rw [State.pending, State.setHandling, hset, List.filter_append, List.map_append,
            frames_nil hidle, List.filter_singleton,
            decide_eq_false (List.nodup_cons.mp hnodup).1]
          rfl
        have hoffers : (l.offer hd.frame).offers = l.offers ++ [hd.frame] := List.map_append
        rw [hafter, hoffers, List.append_nil, ← hbefore]
        exact ho.offers c' l hl
      · rw [pending_setHandling { hd with rest } hh rfl]
        · exact ho.offers c' m hm
        · rw [hrest, List.mem_cons, or_iff_right hne]
  | returns i hd hh hrest =>
    refine ⟨fun j k hk hj => ?_, fun c l hl => ?_⟩
    · rcases Objects.of_lookup_set hk with ⟨rfl, rfl⟩ | ⟨-, hk⟩
      · exact hrest
      · exact ho.last j k hk (by simpa only [State.setHandling, List.length_set] using hj)
    · show l.offers ++ (s.setHandling i { hd with returned := true }).pending c
        = (s.setHandling i { hd with returned := true }).commanded c
      rw [commanded_setHandling { hd with returned := true } hh rfl rfl,
        pending_setHandling { hd with returned := true } hh rfl Iff.rfl]
      exact ho.offers c l hl
  | receive c l pl queue hl hlistening htake =>
    exact ho.of_moves rfl (offered_of_setListener hl (Queue.take_eq_some htake).2.2)
  | done c l hl => exact ho.of_moves rfl (offered_of_setListener hl rfl)
  | uplink c a l slot hl ha hslot => exact ho.of_moves rfl (offered_of_setListener hl rfl)

/-- **Handlers that do not overlap keep the order**: a device is offered the commands as they came. -/
theorem inOrder_run {s t : State} {as : List Label} (hs : Covered s) (ho : InOrder s)
    (hserial : Always (step lib newCipher unmarshal) Serial s as)
    (h : exec (step lib newCipher unmarshal) s as = some t) : Covered t ∧ InOrder t :=
  exec_invariant_of_always (I := fun s => Covered s ∧ InOrder s)
    (fun _ _ _ hs hserial h => ⟨covered_step hs.1 h, inOrder_step hs.1 hs.2 hserial h⟩)
    ⟨hs, ho⟩ hserial h

/-- No command for a device is forgotten. -/
theorem commanded_step {s t : State} {a : Label} (h : step lib newCipher unmarshal s a = some t)
    (c : Ref) : ∃ since, t.commanded c = s.commanded c ++ since := by
  have hsame : s.commanded c = s.commanded c ++ [] := (List.append_nil _).symm
  cases step_cases lib newCipher unmarshal h with
  | newGateway ref gatewayID hnone => exact ⟨[], hsame⟩
  | newDevice c' d tenantID otaaDelay hnone => exact ⟨[], hsame⟩
  | addDevice ref c' g l hg hl hfree => exact ⟨[], hsame⟩
  | command ref payload order g hg horder =>
    exact ⟨_, by rw [State.commanded, List.filter_append, List.map_append]; rfl⟩
  | forward i hd c' rest l hh hrest hl =>
    refine ⟨[], ?_⟩
    rw [List.append_nil]
    exact commanded_setHandling { hd with rest } hh rfl rfl c
  | returns i hd hh hrest =>
    refine ⟨[], ?_⟩
    rw [List.append_nil]
    exact commanded_setHandling { hd with returned := true } hh rfl rfl c
  | receive c' l pl queue hl hlistening htake => exact ⟨[], hsame⟩
  | done c' l hl => exact ⟨[], hsame⟩
  | uplink c' a l slot hl ha hslot => exact ⟨[], hsame⟩

/-- Commands are never taken back. -/
theorem commanded_run {s t : State} {as : List Label}
    (h : exec (step lib newCipher unmarshal) s as = some t) (c : Ref) :
    ∃ since, t.commanded c = s.commanded c ++ since :=
  exec_invariant (I := fun t => ∃ since, t.commanded c = s.commanded c ++ since)
    (fun _ _ _ ⟨since, hs⟩ h => by
      obtain ⟨since', ht⟩ := commanded_step h c
      exact ⟨since ++ since', by rw [ht, hs, List.append_assoc]⟩) ⟨[], (List.append_nil _).symm⟩ h

/-! ## Queues -/

/-- A device that was not there before is new. -/
theorem queue_of_new {s t : State} {a : Label} {c : Ref} {l : Listener}
    (h : step lib newCipher unmarshal s a = some t) (hnone : s.listeners c = none)
    (hl : t.listeners c = some l) : l.queue = Queue.empty := by
  have hold : ∀ c' l' m, s.listeners c' = some l' →
      (s.setListener c' m).listeners c = some l → l.queue = Queue.empty := by
    intro c' l' m hl' hm
    rcases Objects.of_lookup_update hm with ⟨rfl, -⟩ | ⟨-, hm⟩
    · rw [hnone] at hl'
      cases hl'
    · rw [hnone] at hm
      cases hm
  have hgone : s.listeners c = some l → l.queue = Queue.empty := by
    intro hl
    rw [hnone] at hl
    cases hl
  cases step_cases lib newCipher unmarshal h with
  | newGateway ref gatewayID _ => exact hgone hl
  | newDevice c' d tenantID otaaDelay _ =>
    rcases Objects.of_lookup_update hl with ⟨-, rfl⟩ | ⟨-, hl⟩
    · rfl
    · exact hgone hl
  | addDevice ref c' g l' hg hl' hfree => exact hgone hl
  | command ref payload order g hg horder => exact hgone hl
  | forward i hd c' rest l' hh hrest hl' => exact hold c' l' _ hl' hl
  | returns i hd hh hrest => exact hgone hl
  | receive c' l' pl queue hl' hlistening htake => exact hold c' l' _ hl' hl
  | done c' l' hl' => exact hold c' l' _ hl' hl
  | uplink c' a l' slot hl' ha hslot => exact hold c' l' _ hl' hl

/-- The queues hold what they were offered while there was room. -/
def LawfulQueues (s : State) : Prop := ∀ c l, s.listeners c = some l → l.queue.Lawful 100

theorem lawfulQueues_init : LawfulQueues init := fun c l hl => by cases hl

/-- Along every run the queues take what is offered while there is room, and give it back in that
    order. -/
theorem lawfulQueues_run {s t : State} {as : List Label} (hs : LawfulQueues s)
    (h : exec (step lib newCipher unmarshal) s as = some t) : LawfulQueues t := by
  refine exec_invariant (fun s a t hs h c l hl => ?_) hs h
  cases hold : s.listeners c with
  | none =>
    rw [queue_of_new h hold hl]
    exact Queue.lawful_empty 100
  | some l₀ =>
    obtain ⟨l', hl', hmoves⟩ := listener_step h hold
    obtain rfl := Option.some.inj (hl'.symm.trans hl)
    have hlawful := hs c l₀ hold
    cases hmoves with
    | same => exact hlawful
    | offered pl => exact hlawful.offer pl
    | handled pl queue htake => exact hlawful.take htake
    | left => exact hlawful
    | uplink a slot ha hslot => exact hlawful

end

end ChirpStackSimulator.Coverage
