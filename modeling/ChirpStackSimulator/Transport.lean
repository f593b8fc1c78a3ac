/-
  From a device to the broker (`sendUplink` in `simulator/device.go`, `SendUplinkFrame` in
  `simulator/gateway.go`).

  The uplink loop hands a frame to its gateways one after another.  At each of them the packet-loss
  simulation may drop it; without a latency the loop itself calls `SendUplinkFrame` and goes on when
  the frame is published, with one it leaves the call to a timer and goes on at once.

  1. **Parcels** — one frame on its way to one gateway, with the stage it has come to.
  2. **Steps** — any order of the uplink loops, the commands beside them, the timers and the calls that
     timers have started.  `step_cases` says once what a step can do.
  3. **Parcels and senders** (`Addressed`) — the parcels there are, each once, are those of the frames
     handed over and the gateways the loop has turned to.
  4. **Calls of the loop** (`Loops`) — a parcel is in a call of its device's loop exactly if the loop is
     in that call.
-/
import ChirpStackSimulator.UplinkLoop
import ChirpStackSimulator.Join
import ChirpStackSimulator.Lib.Decimal
import ChirpStackSimulator.Lib.Objects
import Mathlib.Data.List.Nodup

namespace ChirpStackSimulator.Transport

open LoRaWAN DataUp UplinkLoop Transition

/-! ## Parcels -/

/-- The frame with a number, counted by the device, on its way to a gateway. -/
structure Parcel where
  device : Nat
  number : Nat
  gateway : Nat
  deriving DecidableEq

/-- Where a parcel is. -/
inductive Stage where
  /-- The packet-loss simulation has dropped it. -/
  | lost
  /-- Its timer is running. -/
  | waiting
  /-- In `SendUplinkFrame`, called by its timer. -/
  | delayed
  /-- In `SendUplinkFrame`, called by the uplink loop. -/
  | inLine
  | published
  /-- It could not be marshalled or published. -/
  | failed
  deriving DecidableEq

/-- `SendUplinkFrame` was called with it. -/
def Stage.Called : Stage → Prop
  | .lost | .waiting => False
  | .delayed | .inLine | .published | .failed => True

instance : DecidablePred Stage.Called
  | .lost | .waiting => instDecidableFalse
  | .delayed | .inLine | .published | .failed => instDecidableTrue

/-- Where the uplink loop stands in `sendUplink`. -/
inductive Sending where
  /-- It is not there. -/
  | no
  /-- Between two rounds of the loop over the gateways, with those still to come. -/
  | turning (rest : List Nat)
  /-- In `SendUplinkFrame`, with the `i`-th parcel. -/
  | calling (rest : List Nat) (i : Nat)
  deriving DecidableEq

/-- The gateways the loop has still to turn to. -/
def Sending.rest : Sending → List Nat
  | .no => []
  | .turning rest | .calling rest _ => rest

/-- A device with what `sendUplink` reads of it; its gateways are named by their positions, and a run
    picks each of them once. -/
structure Sender where
  slot : Slot
  gateways : { gateways : List Nat // gateways.Nodup }
  packetLoss : ℚ
  latencyMs : Int
  /-- The frames `sendUplink` could marshal, oldest first. -/
  handed : List PHYPayload
  sending : Sending

/-- The senders, their parcels, and what gateways and broker have of them. -/
structure State where
  senders : List Sender
  parcels : List (Parcel × Stage)
  /-- `uplinkCount` of the gateways. -/
  uplinkCount : Nat → UInt32
  /-- What the broker was given, in this order. -/
  broker : List Parcel

def init : State := ⟨[], [], fun _ => 0, []⟩

/-! ## Steps -/

/-- The join-request before its MIC is set. -/
def joinFrame (d : Device) : PHYPayload :=
  ⟨.joinRequest, .joinRequest ⟨d.joinEUI, d.devEUI, d.devNonce⟩, Vector.replicate 4 0⟩

/-- What may happen next. -/
inductive Label where
  | newDevice (d : { d : Device // d.Fresh }) (tenantID : String) (otaaDelay : Bool)
    (gateways : { gateways : List Nat // gateways.Nodup }) (packetLoss : ℚ) (latencyMs : Int)
  /-- A step of the `k`-th device's loop, or of what goes on beside it. -/
  | slot (k : Nat) (a : LoopStep)
  /-- The loop turns to the next gateway; `draw` is what `mrand.Float64` would return. -/
  | toGateway (k : Nat) (draw : ℚ)
  /-- `SendUplinkFrame` returns to the loop. -/
  | published (k : Nat) (sent : Bool)
  /-- `sendUplink` returns. -/
  | sentAll (k : Nat)
  /-- The timer of the `i`-th parcel is over. -/
  | fire (i : Nat)
  /-- `SendUplinkFrame` returns to the timer. -/
  | delayedPublished (i : Nat) (sent : Bool)

/-- The step belongs to what goes on beside the loop. -/
def Beside : LoopStep → Prop
  | .command _ | .session _ | .cancel => True
  | .go | .done | .joinRequest _ | .choose _ | .next _ _ => False

instance : DecidablePred Beside
  | .command _ | .session _ | .cancel => instDecidableTrue
  | .go | .done | .joinRequest _ | .choose _ | .next _ _ => instDecidableFalse

/-- The stage of a parcel that `SendUplinkFrame` has returned for. -/
def outcome (sent : Bool) : Stage := if sent then .published else .failed

namespace State

/-- One device changes. -/
def setSender (s : State) (k : Nat) (d : Sender) : State := { s with senders := s.senders.set k d }

/-- The parcel has come to a stage. -/
def setStage (s : State) (i : Nat) (p : Parcel) (stage : Stage) : State :=
  { s with parcels := s.parcels.set i (p, stage) }

/-- The first statement of `SendUplinkFrame`. -/
def count (s : State) (g : Nat) : State :=
  { s with uplinkCount := Function.update s.uplinkCount g (s.uplinkCount g + 1) }

/-- The broker is given the parcel, if it is sent. -/
def deliver (s : State) (p : Parcel) (sent : Bool) : State :=
  if sent then { s with broker := s.broker ++ [p] } else s

end State

section
variable (lib : Library) (marshal : PHYPayload → Except String (List UInt8))

/-- The frame a step of the loop calls `sendUplink` with. -/
def transmitted (s : Slot) : LoopStep → Option PHYPayload
  | .joinRequest rand =>
    let d := Join.getDevNonce s.device rand
    match lib.setUplinkJoinMIC d.appKey (joinFrame d) with
    | .error _ => none
    | .ok phy => some phy
  | .next _ _ =>
    match s.loop with
    | .inDataUp (.sealed _ phy) => some phy
    | _ => none
  | _ => none

/-- `sendUplink` up to its loop: a frame that cannot be marshalled goes nowhere. -/
def Sender.sendUplink (d : Sender) : Option PHYPayload → Sender
  | none => d
  | some phy =>
    match marshal phy with
    | .error _ => d
    | .ok _ => { d with handed := d.handed ++ [phy], sending := .turning d.gateways.1 }

/-- One step. -/
def step (s : State) : Label → Option State
  | .newDevice d tenantID otaaDelay gateways packetLoss latencyMs =>
    some { s with senders := s.senders ++
      [⟨newSlot d tenantID otaaDelay, gateways, packetLoss, latencyMs, [], .no⟩] }
  | .slot k a =>
    match s.senders[k]? with
    | none => none
    | some d =>
      -- the loop is in `sendUplink` until that returns
      if d.sending = .no ∨ Beside a then
        (d.slot.step lib a).map fun slot =>
          s.setSender k ({ d with slot := slot }.sendUplink marshal (transmitted lib d.slot a))
      else none
  | .toGateway k draw =>
    match s.senders[k]? with
    | none => none
    | some d =>
      match d.sending with
      | .turning (g :: rest) =>
        let p : Parcel := ⟨k, d.handed.length - 1, g⟩
        if 0 < d.packetLoss ∧ Decimals.mul draw 100 < d.packetLoss then
          some { s.setSender k { d with sending := .turning rest } with
            parcels := s.parcels ++ [(p, .lost)] }
        else if 0 < d.latencyMs then
          some { s.setSender k { d with sending := .turning rest } with
            parcels := s.parcels ++ [(p, .waiting)] }
        else
          some { (s.setSender k { d with sending := .calling rest s.parcels.length }).count g with
            parcels := s.parcels ++ [(p, .inLine)] }
      | _ => none
  | .published k sent =>
    match s.senders[k]? with
    | none => none
    | some d =>
      match d.sending with
      | .calling rest i =>
        match s.parcels[i]? with
        | none => none
        | some (p, _) =>
          some (((s.setSender k { d with sending := .turning rest }).setStage i p
            (outcome sent)).deliver p sent)
      | _ => none
  | .sentAll k =>
    match s.senders[k]? with
    | none => none
    | some d =>
      if d.sending = .turning [] then some (s.setSender k { d with sending := .no }) else none
  | .fire i =>
    match s.parcels[i]? with
    | some (p, .waiting) => some ((s.setStage i p .delayed).count p.gateway)
    | _ => none
  | .delayedPublished i sent =>
    match s.parcels[i]? with
    | some (p, .delayed) => some ((s.setStage i p (outcome sent)).deliver p sent)
    | _ => none

/-! ## What a step can do -/

/-- What a step can do, with its guards. -/
inductive Steps (s : State) : Label → State → Prop where
  | newDevice (d : { d : Device // d.Fresh }) (tenantID : String) (otaaDelay : Bool)
      (gateways : { gateways : List Nat // gateways.Nodup }) (packetLoss : ℚ) (latencyMs : Int) :
    Steps s (.newDevice d tenantID otaaDelay gateways packetLoss latencyMs)
      { s with senders := s.senders ++
        [⟨newSlot d tenantID otaaDelay, gateways, packetLoss, latencyMs, [], .no⟩] }
  | slot (k : Nat) (a : LoopStep) (d : Sender) (slot : Slot) (hd : s.senders[k]? = some d)
      (hfree : d.sending = .no ∨ Beside a) (hslot : d.slot.step lib a = some slot) :
    Steps s (.slot k a)
      (s.setSender k ({ d with slot := slot }.sendUplink marshal (transmitted lib d.slot a)))
  | lost (k : Nat) (draw : ℚ) (d : Sender) (g : Nat) (rest : List Nat)
      (hd : s.senders[k]? = some d) (hsending : d.sending = .turning (g :: rest))
      (hloss : 0 < d.packetLoss) :
    Steps s (.toGateway k draw)
      { s.setSender k { d with sending := .turning rest } with
        parcels := s.parcels ++ [(⟨k, d.handed.length - 1, g⟩, .lost)] }
  | waits (k : Nat) (draw : ℚ) (d : Sender) (g : Nat) (rest : List Nat)
      (hd : s.senders[k]? = some d) (hsending : d.sending = .turning (g :: rest))
      (hlatency : 0 < d.latencyMs) :
    Steps s (.toGateway k draw)
      { s.setSender k { d with sending := .turning rest } with
        parcels := s.parcels ++ [(⟨k, d.handed.length - 1, g⟩, .waiting)] }
  | calls (k : Nat) (draw : ℚ) (d : Sender) (g : Nat) (rest : List Nat)
      (hd : s.senders[k]? = some d) (hsending : d.sending = .turning (g :: rest))
      (hlatency : ¬ 0 < d.latencyMs) :
    Steps s (.toGateway k draw)
      { (s.setSender k { d with sending := .calling rest s.parcels.length }).count g with
        parcels := s.parcels ++ [(⟨k, d.handed.length - 1, g⟩, .inLine)] }
  | published (k : Nat) (sent : Bool) (d : Sender) (rest : List Nat) (i : Nat) (p : Parcel)
      (stage : Stage) (hd : s.senders[k]? = some d) (hsending : d.sending = .calling rest i)
      (hp : s.parcels[i]? = some (p, stage)) :
    Steps s (.published k sent)
      (((s.setSender k { d with sending := .turning rest }).setStage i p (outcome sent)).deliver p
        sent)
  | sentAll (k : Nat) (d : Sender) (hd : s.senders[k]? = some d)
      (hsending : d.sending = .turning []) :
    Steps s (.sentAll k) (s.setSender k { d with sending := .no })
  | fire (i : Nat) (p : Parcel) (hp : s.parcels[i]? = some (p, .waiting)) :
    Steps s (.fire i) ((s.setStage i p .delayed).count p.gateway)
  | delayedPublished (i : Nat) (sent : Bool) (p : Parcel)
      (hp : s.parcels[i]? = some (p, .delayed)) :
    Steps s (.delayedPublished i sent) ((s.setStage i p (outcome sent)).deliver p sent)

/-- **What a step can do.** -/
theorem step_cases {s t : State} {a : Label} (h : step lib marshal s a = some t) :
    Steps lib marshal s a t := by
  cases a with
  | newDevice d tenantID otaaDelay gateways packetLoss latencyMs =>
    obtain rfl := Option.some.inj h
    exact .newDevice d tenantID otaaDelay gateways packetLoss latencyMs
  | slot k a =>
    simp only [step] at h
    split at h
    · cases h
    · rename_i d hd
      split at h
      · rename_i hfree
        obtain ⟨slot, hslot, rfl⟩ := Option.map_eq_some_iff.mp h
        exact .slot k a d slot hd hfree hslot
      · cases h
  | toGateway k draw =>
    simp only [step] at h
    split at h
    · cases h
    · rename_i d hd
      split at h
      · rename_i g rest hsending
        split at h
        · rename_i hloss
          obtain rfl := Option.some.inj h
          exact .lost k draw d g rest hd hsending hloss.1
        · split at h
          · rename_i hlatency
            obtain rfl := Option.some.inj h
            exact .waits k draw d g rest hd hsending hlatency
          · rename_i hlatency
            obtain rfl := Option.some.inj h
            exact .calls k draw d g rest hd hsending hlatency
      · cases h
  | published k sent =>
    simp only [step] at h
    split at h
    · cases h
    · rename_i d hd
      split at h
      · rename_i rest i hsending
        split at h
        · cases h
        · rename_i p stage hp
          obtain rfl := Option.some.inj h
          exact .published k sent d rest i p stage hd hsending hp
      · cases h
  | sentAll k =>
    simp only [step] at h
    split at h
    · cases h
    · rename_i d hd
      split at h
      · rename_i hsending
        obtain rfl := Option.some.inj h
        exact .sentAll k d hd hsending
      · cases h
  | fire i =>
    simp only [step] at h
    split at h
    · rename_i p hp
      obtain rfl := Option.some.inj h
      exact .fire i p hp
    · cases h
  | delayedPublished i sent =>
    simp only [step] at h
    split at h
    · rename_i p hp
      obtain rfl := Option.some.inj h
      exact .delayedPublished i sent p hp
    · cases h

end

section
variable {lib : Library} {marshal : PHYPayload → Except String (List UInt8)}

/-- What goes on beside the loop sends nothing. -/
theorem transmitted_beside {s : Slot} {a : LoopStep} (h : Beside a) : transmitted lib s a = none := by
  cases a with
  | command req => rfl
  | session f => rfl
  | cancel => rfl
  | go => exact absurd h id
  | done => exact absurd h id
  | joinRequest rand => exact absurd h id
  | choose r => exact absurd h id
  | next runScript nowNs => exact absurd h id

/-- `sendUplink` leaves the sender alone, or hands one frame over and begins its loop. -/
theorem sendUplink_cases (marshal : PHYPayload → Except String (List UInt8)) (d : Sender)
    (frame : Option PHYPayload) :
    d.sendUplink marshal frame = d ∨ ∃ phy, frame = some phy ∧ d.sendUplink marshal frame =
      { d with handed := d.handed ++ [phy], sending := .turning d.gateways.1 } := by
  unfold Sender.sendUplink
  split
  · exact Or.inl rfl
  · next phy =>
    split
    · exact Or.inl rfl
    · exact Or.inr ⟨phy, rfl, rfl⟩

/-! ## Parcels and senders -/

/-- The frame with this number was handed over, and the loop has turned to the gateway with it. -/
def Sender.Reached (d : Sender) (n g : Nat) : Prop :=
  n < d.handed.length ∧ g ∈ d.gateways.1 ∧ ¬ (n + 1 = d.handed.length ∧ g ∈ d.sending.rest)

instance (d : Sender) (n g : Nat) : Decidable (d.Reached n g) := by
  unfold Sender.Reached
  infer_instance

/-- The loop over the gateways stands where it can. -/
structure Sender.Turns (d : Sender) : Prop where
  rest : d.sending.rest.Sublist d.gateways.1
  handed : d.sending ≠ .no → d.handed ≠ []

/-- The parcels are those that the devices have come to, each once. -/
structure Addressed (s : State) : Prop where
  nodup : (s.parcels.map Prod.fst).Nodup
  mem : ∀ p : Parcel, p ∈ s.parcels.map Prod.fst ↔
    ∃ d : Sender, s.senders[p.device]? = some d ∧ d.Reached p.number p.gateway
  turns : ∀ (k : Nat) (d : Sender), s.senders[k]? = some d → d.Turns

/-- No device has come to a gateway yet. -/
theorem addressed_init : Addressed init where
  nodup := List.nodup_nil
  mem p := by simp [init]
  turns k d hd := by simp [init] at hd

/-- One sender goes on, and new parcels are those that it reaches by that. -/
theorem Addressed.advance {s t : State} {k : Nat} {d d' : Sender} (added : List Parcel)
    (hs : Addressed s) (hd : s.senders[k]? = some d) (hsenders : t.senders = s.senders.set k d')
    (hparcels : t.parcels.map Prod.fst = s.parcels.map Prod.fst ++ added) (hnodup : added.Nodup)
    (hdevice : ∀ p ∈ added, p.device = k ∧ ¬ d.Reached p.number p.gateway)
    (hreached : ∀ n g, d'.Reached n g ↔ d.Reached n g ∨ (⟨k, n, g⟩ : Parcel) ∈ added)
    (hturns : d'.Turns) : Addressed t := by
  refine ⟨?_, fun p => ?_, fun j e he => ?_⟩
  · rw [hparcels]
    refine List.Nodup.append hs.nodup hnodup fun p hold hnew => ?_
    obtain ⟨e, he, hreached'⟩ := (hs.mem p).mp hold
    obtain ⟨hk, hnot⟩ := hdevice p hnew
    rw [hk, hd] at he
    cases he
    exact hnot hreached'
  · rw [hparcels, List.mem_append, hs.mem p, hsenders]
    obtain ⟨j, n, g⟩ := p
    by_cases hj : j = k
    · subst hj
      have hself : (s.senders.set j d')[j]? = some d' := Objects.set_self hd
      show (∃ e : Sender, s.senders[j]? = some e ∧ e.Reached n g) ∨ _ ↔
        ∃ e : Sender, (s.senders.set j d')[j]? = some e ∧ e.Reached n g
      rw [hself, hd]
      simp [hreached]
    · have hother : (s.senders.set k d')[j]? = s.senders[j]? := List.getElem?_set_ne (Ne.symm hj)
      have hnot : (⟨j, n, g⟩ : Parcel) ∉ added := fun hnew => hj (hdevice _ hnew).1
      show (∃ e : Sender, s.senders[j]? = some e ∧ e.Reached n g) ∨ _ ↔
        ∃ e : Sender, (s.senders.set k d')[j]? = some e ∧ e.Reached n g
      rw [hother]
      exact or_iff_left hnot
  · rw [hsenders] at he
    rcases Objects.of_lookup_set he with ⟨-, rfl⟩ | ⟨-, hold⟩
    · exact hturns
    · exact hs.turns j e hold

/-- A step that changes neither the senders nor which parcels there are. -/
theorem Addressed.of_same {s t : State} (hs : Addressed s) (hsenders : t.senders = s.senders)
    (hparcels : t.parcels.map Prod.fst = s.parcels.map Prod.fst) : Addressed t := by
  refine ⟨?_, ?_, ?_⟩
  · rw [hparcels]
    exact hs.nodup
  · rw [hparcels, hsenders]
    exact hs.mem
  · rw [hsenders]
    exact hs.turns

/-- A parcel keeps its address. -/
theorem map_fst_set {parcels : List (Parcel × Stage)} {i : Nat} {p : Parcel} {stage : Stage}
    (h : parcels[i]? = some (p, stage)) (stage' : Stage) :
    (parcels.set i (p, stage')).map Prod.fst = parcels.map Prod.fst := by
  rw [List.map_set]
  refine List.ext_getElem? fun j => ?_
  by_cases hj : j = i
  · subst hj
    rw [Objects.set_self (y := p) (by rw [List.getElem?_map, h]; rfl), List.getElem?_map, h]
    rfl
  · rw [List.getElem?_set_ne (Ne.symm hj)]

/-- A delivery changes the broker and no device. -/
@[simp] theorem senders_deliver (s : State) (p : Parcel) (sent : Bool) :
    (s.deliver p sent).senders = s.senders := by
  cases sent <;> rfl

@[simp] theorem parcels_deliver (s : State) (p : Parcel) (sent : Bool) :
    (s.deliver p sent).parcels = s.parcels := by
  cases sent <;> rfl

@[simp] theorem uplinkCount_deliver (s : State) (p : Parcel) (sent : Bool) :
    (s.deliver p sent).uplinkCount = s.uplinkCount := by
  cases sent <;> rfl

/-- The loop turns to its next gateway: the frame has reached one gateway more. -/
theorem reached_next {d : Sender} {g : Nat} {rest : List Nat} {sending : Sending}
    (hturns : d.Turns) (hsending : d.sending = .turning (g :: rest)) (hrest : sending.rest = rest)
    (k n h : Nat) : ({ d with sending := sending } : Sender).Reached n h ↔
      d.Reached n h ∨ (⟨k, n, h⟩ : Parcel) ∈ [(⟨k, d.handed.length - 1, g⟩ : Parcel)] := by
  have hlength : 0 < d.handed.length :=
    List.length_pos_iff.mpr (hturns.handed (by rw [hsending]; exact Sending.noConfusion))
  have hsub : (g :: rest).Sublist d.gateways.1 := by
    have h := hturns.rest
    rwa [hsending] at h
  have hmem : g ∈ d.gateways.1 := hsub.subset List.mem_cons_self
  have hnot : g ∉ rest := (List.nodup_cons.mp (hsub.nodup d.gateways.2)).1
  unfold Sender.Reached
  rw [hrest, hsending]
  simp only [Sending.rest, List.mem_cons, List.not_mem_nil, or_false, Parcel.mk.injEq, true_and]
  by_cases hh : h = g
  · subst hh
    simp only [hmem, hnot, true_and, and_false, not_false_eq_true, and_true, true_or]
    omega
  · simp [hh]

/-- So it goes on from there. -/
theorem turns_next {d : Sender} {g : Nat} {rest : List Nat} {sending : Sending}
    (hturns : d.Turns) (hsending : d.sending = .turning (g :: rest)) (hrest : sending.rest = rest) :
    ({ d with sending := sending } : Sender).Turns := by
  have hsub := hturns.rest
  rw [hsending] at hsub
  refine ⟨?_, fun _ => hturns.handed (by rw [hsending]; exact Sending.noConfusion)⟩
  show sending.rest.Sublist d.gateways.1
  rw [hrest]
  exact (List.sublist_cons_self g rest).trans hsub

/-- The frame has not reached the gateway the loop turns to next. -/
theorem not_reached_next {d : Sender} {g : Nat} {rest : List Nat} (hturns : d.Turns)
    (hsending : d.sending = .turning (g :: rest)) : ¬ d.Reached (d.handed.length - 1) g := by
  have hlength : 0 < d.handed.length :=
    List.length_pos_iff.mpr (hturns.handed (by rw [hsending]; exact Sending.noConfusion))
  intro h
  refine h.2.2 ⟨by omega, ?_⟩
  rw [hsending]
  exact List.mem_cons_self

/-- The loop turns to its next gateway with a new parcel. -/
theorem Addressed.toGateway {s t : State} {k : Nat} {d : Sender} {g : Nat} {rest : List Nat}
    {sending : Sending} {stage : Stage} (hs : Addressed s) (hd : s.senders[k]? = some d)
    (hsending : d.sending = .turning (g :: rest)) (hrest : sending.rest = rest)
    (hsenders : t.senders = s.senders.set k { d with sending := sending })
    (hparcels : t.parcels = s.parcels ++ [(⟨k, d.handed.length - 1, g⟩, stage)]) : Addressed t := by
  have hturns := hs.turns k d hd
  refine hs.advance [⟨k, d.handed.length - 1, g⟩] hd hsenders ?_
    (List.nodup_singleton _) ?_ (reached_next hturns hsending hrest k)
    (turns_next hturns hsending hrest)
  · rw [hparcels, List.map_append]
    rfl
  · intro p hp
    obtain rfl := List.mem_singleton.mp hp
    exact ⟨rfl, not_reached_next hturns hsending⟩

/-- A sender goes on without a new parcel. -/
theorem Addressed.sender {s t : State} {k : Nat} {d d' : Sender} (hs : Addressed s)
    (hd : s.senders[k]? = some d) (hsenders : t.senders = s.senders.set k d')
    (hparcels : t.parcels.map Prod.fst = s.parcels.map Prod.fst)
    (hreached : ∀ n g, d'.Reached n g ↔ d.Reached n g) (hturns : d'.Turns) : Addressed t :=
  hs.advance [] hd hsenders (by rw [hparcels, List.append_nil]) List.nodup_nil (by simp)
    (by simpa using hreached) hturns

/-- **One step** keeps the parcels apart. -/
theorem addressed_step (s : State) (a : Label) (t : State) (hs : Addressed s)
    (h : step lib marshal s a = some t) : Addressed t := by
  cases step_cases lib marshal h with
  | newDevice d tenantID otaaDelay gateways packetLoss latencyMs =>
    refine ⟨hs.nodup, fun p => (hs.mem p).trans ⟨?_, ?_⟩, fun k e he => ?_⟩
    · rintro ⟨e, he, hreached⟩
      exact ⟨e, Objects.append_kept he _, hreached⟩
    · rintro ⟨e, he, hreached⟩
      rcases Objects.lookup_append.mp he with hold | ⟨-, rfl⟩
      · exact ⟨e, hold, hreached⟩
      · exact absurd hreached.1 (Nat.not_lt_zero _)
    · rcases Objects.lookup_append.mp he with hold | ⟨-, rfl⟩
      · exact hs.turns k e hold
      · exact ⟨List.nil_sublist _, fun hno => absurd rfl hno⟩
  | slot k a d slot hd hfree hslot =>
    have hturns := hs.turns k d hd
    rcases sendUplink_cases marshal { d with slot := slot } (transmitted lib d.slot a) with hnone | ⟨phy, hphy, hsome⟩
    · rw [hnone]
      exact hs.sender hd rfl rfl (fun _ _ => Iff.rfl) ⟨hturns.rest, hturns.handed⟩
    · rw [hsome]
      have hno : d.sending = .no := by
        rcases hfree with hno | hbeside
        · exact hno
        · rw [transmitted_beside hbeside] at hphy
          cases hphy
      refine hs.sender hd rfl rfl (fun n g => ?_) ⟨List.Sublist.refl _, fun _ => by simp⟩
      -- the new frame has reached no gateway yet, the one before all of them
      simp only [Sender.Reached, Sending.rest, hno, List.length_append, List.length_singleton,
        List.not_mem_nil, and_false, not_false_eq_true, and_true]
      by_cases hg : g ∈ d.gateways.1
      · simp only [hg, true_and, and_true]
        omega
      · simp [hg]
  | lost k draw d g rest hd hsending hloss => exact hs.toGateway hd hsending rfl rfl rfl
  | waits k draw d g rest hd hsending hlatency => exact hs.toGateway hd hsending rfl rfl rfl
  | calls k draw d g rest hd hsending hlatency => exact hs.toGateway hd hsending rfl rfl rfl
  | published k sent d rest i p stage hd hsending hp =>
    have hturns := hs.turns k d hd
    have hhanded := hturns.handed (by rw [hsending]; exact Sending.noConfusion)
    have hrest := hturns.rest
    rw [hsending] at hrest
    have hsenders : ((s.setSender k { d with sending := .turning rest }).setStage i p
        (outcome sent)).senders = s.senders.set k { d with sending := .turning rest } := rfl
    refine hs.sender hd ((senders_deliver _ _ _).trans hsenders)
      (by rw [parcels_deliver]; exact map_fst_set hp _) (fun n g => ?_)
      ⟨hrest, fun _ => hhanded⟩
    simp only [Sender.Reached, hsending, Sending.rest]
  | sentAll k d hd hsending =>
    have hturns := hs.turns k d hd
    refine hs.sender hd rfl rfl (fun n g => ?_) ⟨List.nil_sublist _, fun hno => absurd rfl hno⟩
    simp only [Sender.Reached, hsending, Sending.rest]
  | fire i p hp => exact hs.of_same rfl (map_fst_set hp _)
  | delayedPublished i sent p hp =>
    refine hs.of_same ((senders_deliver _ _ _).trans rfl) ?_
    rw [parcels_deliver]
    exact map_fst_set hp _

/-! ## Calls of the loop -/

/-- A parcel is in `SendUplinkFrame`, called by its device's loop, exactly if the loop says so. -/
structure Loops (s : State) : Prop where
  calling : ∀ (k : Nat) (d : Sender) (rest : List Nat) (i : Nat), s.senders[k]? = some d →
    d.sending = .calling rest i →
      ∃ p : Parcel, s.parcels[i]? = some (p, .inLine) ∧ p.device = k ∧ p.number + 1 = d.handed.length
  inLine : ∀ (i : Nat) (p : Parcel), s.parcels[i]? = some (p, .inLine) →
    ∃ (d : Sender) (rest : List Nat), s.senders[p.device]? = some d ∧ d.sending = .calling rest i

/-- No call has begun yet. -/
theorem loops_init : Loops init where
  calling k d rest i hd := by simp [init] at hd
  inLine i p hp := by simp [init] at hp

/-- A sender goes on that neither was nor is in `SendUplinkFrame`, and no parcel comes there. -/
theorem Loops.outside {s t : State} {k : Nat} {d d' : Sender} (hs : Loops s)
    (hd : s.senders[k]? = some d) (hsenders : t.senders = s.senders.set k d')
    (hbefore : ∀ rest i, d.sending ≠ .calling rest i)
    (hafter : ∀ rest i, d'.sending ≠ .calling rest i)
    (hparcels : ∀ (i : Nat) (p : Parcel),
      t.parcels[i]? = some (p, .inLine) ↔ s.parcels[i]? = some (p, .inLine)) :
    Loops t := by
  constructor
  · intro j e rest i he hcalling
    rw [hsenders] at he
    rcases Objects.of_lookup_set he with ⟨-, rfl⟩ | ⟨-, hold⟩
    · exact absurd hcalling (hafter rest i)
    · obtain ⟨p, hp, hdevice, hnumber⟩ := hs.calling j e rest i hold hcalling
      exact ⟨p, (hparcels i p).mpr hp, hdevice, hnumber⟩
  · intro i p hp
    obtain ⟨e, rest, he, hcalling⟩ := hs.inLine i p ((hparcels i p).mp hp)
    refine ⟨e, rest, ?_, hcalling⟩
    have hne : p.device ≠ k := by
      rintro rfl
      rw [hd] at he
      cases he
      exact hbefore rest i hcalling
    rw [hsenders]
    exact Objects.set_kept hne he

/-- A parcel that neither was nor is in line is added. -/
theorem inLine_append {parcels : List (Parcel × Stage)} {stage : Stage} (h : stage ≠ .inLine)
    (q : Parcel) (i : Nat) (p : Parcel) :
    (parcels ++ [(q, stage)])[i]? = some (p, .inLine) ↔ parcels[i]? = some (p, .inLine) := by
  rw [Objects.lookup_append]
  refine or_iff_left ?_
  rintro ⟨-, heq⟩
  exact h (congrArg Prod.snd heq).symm

/-- A parcel goes on that neither was nor is in line. -/
theorem inLine_set {parcels : List (Parcel × Stage)} {q : Parcel} {j : Nat} {stage stage' : Stage}
    (hq : parcels[j]? = some (q, stage)) (h : stage ≠ .inLine) (h' : stage' ≠ .inLine) (i : Nat)
    (p : Parcel) :
    (parcels.set j (q, stage'))[i]? = some (p, .inLine) ↔ parcels[i]? = some (p, .inLine) := by
  rw [Objects.lookup_set hq]
  constructor
  · rintro (⟨-, heq⟩ | ⟨-, hold⟩)
    · exact absurd (congrArg Prod.snd heq).symm h'
    · exact hold
  · intro hold
    refine Or.inr ⟨?_, hold⟩
    rintro rfl
    rw [hq] at hold
    exact h (congrArg Prod.snd (Option.some.inj hold))

/-- A call that has returned is over. -/
theorem outcome_ne_inLine (sent : Bool) : outcome sent ≠ .inLine := by
  cases sent <;> exact Stage.noConfusion

/-- The invariant depends on the senders and on the parcels in their calls. -/
theorem Loops.of_same {s t : State} (hs : Loops s) (hsenders : t.senders = s.senders)
    (hparcels : ∀ (i : Nat) (p : Parcel),
      t.parcels[i]? = some (p, .inLine) ↔ s.parcels[i]? = some (p, .inLine)) :
    Loops t := by
  constructor
  · intro j e rest i he hcalling
    rw [hsenders] at he
    obtain ⟨p, hp, hrest⟩ := hs.calling j e rest i he hcalling
    exact ⟨p, (hparcels i p).mpr hp, hrest⟩
  · intro i p hp
    rw [hsenders]
    exact hs.inLine i p ((hparcels i p).mp hp)

/-- **One step**: a loop begins a call only when it is in none. -/
theorem loops_step (s : State) (a : Label) (t : State) (hs : Addressed s ∧ Loops s)
    (h : step lib marshal s a = some t) : Loops t := by
  obtain ⟨haddressed, hs⟩ := hs
  cases step_cases lib marshal h with
  | newDevice d tenantID otaaDelay gateways packetLoss latencyMs =>
    constructor
    · intro j e rest i he hcalling
      rcases Objects.lookup_append.mp he with hold | ⟨-, rfl⟩
      · exact hs.calling j e rest i hold hcalling
      · cases hcalling
    · intro i p hp
      obtain ⟨e, rest, he, hcalling⟩ := hs.inLine i p hp
      exact ⟨e, rest, Objects.append_kept he _, hcalling⟩
  | slot k a d slot hd hfree hslot =>
    rcases sendUplink_cases marshal { d with slot := slot } (transmitted lib d.slot a) with
      hnone | ⟨phy, hphy, hsome⟩
    · -- the loop over the gateways stays where it is
      rw [hnone]
      constructor
      · intro j e rest i he hcalling
        rcases Objects.of_lookup_set he with ⟨rfl, rfl⟩ | ⟨-, hold⟩
        · exact hs.calling j d rest i hd hcalling
        · exact hs.calling j e rest i hold hcalling
      · intro i p hp
        obtain ⟨e, rest, he, hcalling⟩ := hs.inLine i p hp
        by_cases hk : p.device = k
        · rw [hk, hd] at he
          cases he
          exact ⟨{ d with slot := slot }, rest, by rw [hk]; exact Objects.set_self hd, hcalling⟩
        · exact ⟨e, rest, Objects.set_kept hk he, hcalling⟩
    · rw [hsome]
      have hno : d.sending = .no := by
        rcases hfree with hno | hbeside
        · exact hno
        · rw [transmitted_beside hbeside] at hphy
          cases hphy
      exact hs.outside hd rfl (fun _ _ hcalling => nomatch hno.symm.trans hcalling)
        (fun _ _ => Sending.noConfusion) fun _ _ => Iff.rfl
  | lost k draw d g rest hd hsending hloss =>
    exact hs.outside hd rfl (fun _ _ hcalling => nomatch hsending.symm.trans hcalling)
      (fun _ _ => Sending.noConfusion) (inLine_append Stage.noConfusion _)
  | waits k draw d g rest hd hsending hlatency =>
    exact hs.outside hd rfl (fun _ _ hcalling => nomatch hsending.symm.trans hcalling)
      (fun _ _ => Sending.noConfusion) (inLine_append Stage.noConfusion _)
  | calls k draw d g rest hd hsending hlatency =>
    have hlength : 0 < d.handed.length :=
      List.length_pos_iff.mpr ((haddressed.turns k d hd).handed (by rw [hsending]; exact Sending.noConfusion))
    constructor
    · intro j e rest' i he hcalling
      rcases Objects.of_lookup_set he with ⟨rfl, rfl⟩ | ⟨-, hold⟩
      · cases hcalling
        exact ⟨_, List.getElem?_concat_length, rfl, by
          show d.handed.length - 1 + 1 = d.handed.length
          omega⟩
      · obtain ⟨p, hp, hrest⟩ := hs.calling j e rest' i hold hcalling
        exact ⟨p, Objects.append_kept hp _, hrest⟩
    · intro i p hp
      rcases Objects.lookup_append.mp hp with hold | ⟨rfl, heq⟩
      · obtain ⟨e, rest', he, hcalling⟩ := hs.inLine i p hold
        refine ⟨e, rest', Objects.set_kept ?_ he, hcalling⟩
        intro hk
        rw [hk, hd] at he
        cases he
        exact nomatch hsending.symm.trans hcalling
      · obtain rfl : p = ⟨k, d.handed.length - 1, g⟩ := congrArg Prod.fst heq
        exact ⟨_, rest, Objects.set_self hd, rfl⟩
  | published k sent d rest i p stage hd hsending hp =>
    have hother : ∀ (j : Nat) (e : Sender) (rest' : List Nat) (i' : Nat), s.senders[j]? = some e →
        e.sending = .calling rest' i' → j ≠ k → i' ≠ i := by
      rintro j e rest' i' he hcalling hjk rfl
      obtain ⟨q, hq, hqj, -⟩ := hs.calling j e rest' i' he hcalling
      obtain ⟨q', hq', hqk, -⟩ := hs.calling k d rest i' hd hsending
      rw [hq] at hq'
      cases hq'
      exact hjk (hqj.symm.trans hqk)
    constructor
    · intro j e rest' i' he hcalling
      rw [senders_deliver] at he
      rcases Objects.of_lookup_set he with ⟨-, rfl⟩ | ⟨hjk, hold⟩
      · cases hcalling
      · obtain ⟨q, hq, hrest⟩ := hs.calling j e rest' i' hold hcalling
        refine ⟨q, ?_, hrest⟩
        rw [parcels_deliver]
        exact Objects.set_kept (hother j e rest' i' hold hcalling hjk) hq
    · intro i' q hq
      rw [parcels_deliver] at hq
      rw [senders_deliver]
      rcases Objects.of_lookup_set hq with ⟨-, heq⟩ | ⟨hne, hold⟩
      · exact absurd (congrArg Prod.snd heq).symm (outcome_ne_inLine sent)
      · obtain ⟨e, rest', he, hcalling⟩ := hs.inLine i' q hold
        refine ⟨e, rest', Objects.set_kept ?_ he, hcalling⟩
        intro hk
        rw [hk, hd] at he
        cases he
        rw [hsending] at hcalling
        cases hcalling
        exact hne rfl
  | sentAll k d hd hsending =>
    exact hs.outside hd rfl (fun _ _ hcalling => nomatch hsending.symm.trans hcalling)
      (fun _ _ => Sending.noConfusion) fun _ _ => Iff.rfl
  | fire i p hp => exact hs.of_same rfl (inLine_set hp Stage.noConfusion Stage.noConfusion)
  | delayedPublished i sent p hp =>
    refine hs.of_same ((senders_deliver _ _ _).trans rfl) fun j q => ?_
    rw [parcels_deliver]
    exact inLine_set hp Stage.noConfusion (outcome_ne_inLine sent) j q

end

end ChirpStackSimulator.Transport
