/-
  Where a downlink command arrives.

  A run starts one simulation for each application, and each of them builds its own object for every
  gateway of the tenant, on the one shared client.  The devices of a simulation are added to the
  simulation's own objects.  The client keeps the callback of the object built last, so a command
  reaches the devices of that simulation and no others.

  1. **Programs** — what one simulation sets up, and the interleavings of all of them
     (`Interleave`).
  2. **What remains** — a gateway object ends with the devices of its simulation (`gateway_after`),
     since nobody else touches it; a topic ends with the callback of its last writer
     (`callbacks_after`).
  3. `reached_iff`: in every interleaving all live devices are reached exactly when no gateway of a
     live device is built by another simulation.  For the one direction the other simulation is put
     last.
-/
import ChirpStackSimulator.Gateway
import ChirpStackSimulator.Lib.Interleave

namespace ChirpStackSimulator.Downstream

open LoRaWAN Interleave

/-! ## What the simulations set up -/

/-- A device, with the positions of its gateways among those of the simulation. -/
structure DeviceSetup where
  devEUI : EUI64
  gateways : List Nat

/-- The gateways and devices `runSimulation` creates for one simulation: the ids come from a list of
    distinct gateways, the devices from a map over their EUIs. -/
structure Setup where
  gatewayIDs : List EUI64
  devices : List DeviceSetup
  nodup_gatewayIDs : gatewayIDs.Nodup
  nodup_devEUIs : (devices.map DeviceSetup.devEUI).Nodup

/-- A step of `runSimulation`: `NewGateway` for the `j`-th gateway, or `addDevice` of the `k`-th
    device on it. -/
inductive SetupOp where
  | newGateway (j : Nat) (gatewayID : EUI64)
  | addDevice (j : Nat) (devEUI : EUI64) (k : Nat)
  deriving DecidableEq

namespace Setup

def newGateways (s : Setup) : List SetupOp :=
  s.gatewayIDs.mapIdx fun j gatewayID => .newGateway j gatewayID

/-- `WithGateways`, device by device. -/
def addDevices (s : Setup) : List SetupOp :=
  (s.devices.mapIdx fun k d => d.gateways.map fun j => SetupOp.addDevice j d.devEUI k).flatten

def program (s : Setup) : List SetupOp := s.newGateways ++ s.addDevices

theorem mem_newGateways {s : Setup} {op : SetupOp} :
    op ∈ s.newGateways ↔ ∃ j id, s.gatewayIDs[j]? = some id ∧ op = .newGateway j id := by
  simp only [newGateways, List.mem_mapIdx]
  constructor
  · rintro ⟨j, hj, rfl⟩
    exact ⟨j, s.gatewayIDs[j], List.getElem?_eq_getElem hj, rfl⟩
  · rintro ⟨j, id, hid, rfl⟩
    obtain ⟨hj, rfl⟩ := List.getElem?_eq_some_iff.mp hid
    exact ⟨j, hj, rfl⟩

theorem mem_addDevices {s : Setup} {op : SetupOp} :
    op ∈ s.addDevices ↔
      ∃ j k d, s.devices[k]? = some d ∧ j ∈ d.gateways ∧ op = .addDevice j d.devEUI k := by
  simp only [addDevices, List.mem_flatten, List.mem_mapIdx]
  constructor
  · rintro ⟨-, ⟨k, hk, rfl⟩, hop⟩
    obtain ⟨j, hj, rfl⟩ := List.mem_map.mp hop
    exact ⟨j, k, s.devices[k], List.getElem?_eq_getElem hk, hj, rfl⟩
  · rintro ⟨j, k, d, hd, hj, rfl⟩
    obtain ⟨hk, rfl⟩ := List.getElem?_eq_some_iff.mp hd
    exact ⟨_, ⟨k, hk, rfl⟩, List.mem_map.mpr ⟨j, hj, rfl⟩⟩

/-- In a list without repetition a member stands in one place. -/
theorem eq_of_getElem? {α : Type} {l : List α} (hnd : l.Nodup) {i j : Nat} {a : α}
    (hi : l[i]? = some a) (hj : l[j]? = some a) : i = j := by
  obtain ⟨hlt, h⟩ := List.getElem?_eq_some_iff.mp hi
  obtain ⟨hlt', h'⟩ := List.getElem?_eq_some_iff.mp hj
  exact (List.Nodup.getElem_inj_iff hnd).mp (h.trans h'.symm)

/-- An EUI stands for one device of the simulation. -/
theorem eq_of_devEUI {s : Setup} {k k' : Nat} {d d' : DeviceSetup} (hk : s.devices[k]? = some d)
    (hk' : s.devices[k']? = some d') (h : d.devEUI = d'.devEUI) : k = k' :=
  eq_of_getElem? s.nodup_devEUIs (a := d.devEUI) (by simp [hk]) (by simp [hk', h])

/-- A gateway id stands for one gateway of the simulation. -/
theorem eq_of_gatewayID {s : Setup} {j j' : Nat} {id : EUI64} (hj : s.gatewayIDs[j]? = some id)
    (hj' : s.gatewayIDs[j']? = some id) : j = j' :=
  eq_of_getElem? s.nodup_gatewayIDs hj hj'

end Setup

/-- A step of the simulation `i`. -/
def execute (n : Network) : Nat × SetupOp → Network
  | (i, .newGateway j gatewayID) => n.newGateway (i, j) gatewayID
  | (i, .addDevice j devEUI k) => n.addDevice (i, j) devEUI (i, k)

/-- The programs of the simulations of a run. -/
def programs (sims : List Setup) (i : Nat) : List SetupOp := (sims[i]?).elim [] Setup.program

/-- The network after all the steps of an interleaving. -/
def setUp (tr : List (Nat × SetupOp)) : Network := tr.foldl execute .empty

/-! ## The property -/

/-- The `k`-th device of the simulation `i` has `g` among its gateways. -/
def Uses (sims : List Setup) (c : Ref) (g : EUI64) : Prop :=
  ∃ s d j, sims[c.1]? = some s ∧ s.devices[c.2]? = some d ∧ j ∈ d.gateways ∧
    s.gatewayIDs[j]? = some g

/-- The simulation `i` builds an object for the gateway `g`. -/
def Builds (sims : List Setup) (i : Nat) (g : EUI64) : Prop :=
  ∃ s, sims[i]? = some s ∧ g ∈ s.gatewayIDs

/-- **Downlink reach**: a decodable command on the topic of `g` is offered to the queue of every live
    device that has `g` among its gateways, whatever the queues hold. -/
def Reached (unmarshal : List UInt8 → DownlinkFrame × Option String) (live : Ref → Prop)
    (sims : List Setup) (n : Network) : Prop :=
  ∀ g payload, (unmarshal payload).2 = none → ∀ queues c, live c → Uses sims c g →
    ({ n with queues }.publish unmarshal (commandTopic g) payload).queues c
      = offer (queues c) (unmarshal payload).1

/-- In every order of the set-up steps all live devices are reached. -/
def ReachedAlways (unmarshal : List UInt8 → DownlinkFrame × Option String) (live : Ref → Prop)
    (sims : List Setup) : Prop :=
  ∀ tr, IsInterleaving (programs sims) tr → Reached unmarshal live sims (setUp tr)

/-- No gateway of a live device is built by another simulation. -/
def Unshared (live : Ref → Prop) (sims : List Setup) : Prop :=
  ∀ c g, live c → Uses sims c g → ∀ i, Builds sims i g → i = c.1

/-! ## What remains of a gateway object -/

/-- What a step of its simulation does to the `j`-th gateway object of the simulation `i`. -/
def objectStep (i j : Nat) (o : Option Gateway) : SetupOp → Option Gateway
  | .newGateway j' gatewayID => if j' = j then some ⟨gatewayID, [], 0, 0, 0⟩ else o
  | .addDevice j' devEUI k => if j' = j then o.map (·.addDevice devEUI (i, k)) else o

theorem gateways_execute_self (n : Network) (i j : Nat) (op : SetupOp) :
    (execute n (i, op)).gateways (i, j) = objectStep i j (n.gateways (i, j)) op := by
  cases op with
  | newGateway j' gatewayID =>
    by_cases h : j' = j
    · simp [execute, Network.newGateway, objectStep, h]
    · simp [execute, Network.newGateway, objectStep, h, Ne.symm h]
  | addDevice j' devEUI k =>
    by_cases h : j' = j
    · simp [execute, Network.addDevice, objectStep, h]
    · simp [execute, Network.addDevice, objectStep, h, Ne.symm h]

theorem gateways_execute_of_ne (n : Network) {i i' j : Nat} (op : SetupOp) (h : i' ≠ i) :
    (execute n (i', op)).gateways (i, j) = n.gateways (i, j) := by
  cases op <;> simp [execute, Network.newGateway, Network.addDevice, Ne.symm h]

/-- A gateway object of the simulation `i` holds queues of its own devices, each under its EUI. -/
structure Owned (s : Setup) (i : Nat) (g : Gateway) : Prop where
  nodup : (g.devices.map Prod.fst).Nodup
  device : ∀ e ∈ g.devices, ∃ k d, e.2 = (i, k) ∧ s.devices[k]? = some d ∧ e.1 = d.devEUI

/-- The queues of an owned gateway are pairwise different. -/
theorem Owned.nodup_queues {s : Setup} {i : Nat} {g : Gateway} (h : Owned s i g) :
    (g.devices.map Prod.snd).Nodup := by
  have hfst := List.pairwise_map.mp h.nodup
  refine List.pairwise_map.mpr (hfst.imp_of_mem fun {a b} ha hb hne heq => hne ?_)
  obtain ⟨k, d, hak, hd, ha'⟩ := h.device a ha
  obtain ⟨k', d', hbk, hd', hb'⟩ := h.device b hb
  have hk : k = k' := by
    rw [hak, hbk] at heq
    simpa using heq
  subst hk
  rw [hd] at hd'
  rw [ha', hb', Option.some.inj hd']

theorem owned_addDevice {s : Setup} {i k : Nat} {g : Gateway} {d : DeviceSetup}
    (h : Owned s i g) (hk : s.devices[k]? = some d) : Owned s i (g.addDevice d.devEUI (i, k)) := by
  refine ⟨?_, fun e he => ?_⟩
  · rw [Gateway.addDevice, List.map_cons, List.nodup_cons]
    refine ⟨fun hmem => ?_, ?_⟩
    · obtain ⟨e, he, heq⟩ := List.mem_map.mp hmem
      have hne := (List.mem_filter.mp he).2
      simp [heq] at hne
    · exact h.nodup.sublist (List.filter_sublist.map _)
  · rcases List.mem_cons.mp he with rfl | he
    · exact ⟨k, d, rfl, hk, rfl⟩
    · exact h.device e (List.mem_filter.mp he).1

/-- After some of the simulation's `addDevice` steps, an object holds what it held and what was
    added to it. -/
theorem foldl_addDevices {s : Setup} {i j : Nat} :
    ∀ (ops : List SetupOp) (g : Gateway), (∀ op ∈ ops, op ∈ s.addDevices) → Owned s i g →
      ∃ g', ops.foldl (objectStep i j) (some g) = some g' ∧ Owned s i g' ∧
        ∀ k d, s.devices[k]? = some d →
          (d.devEUI, (i, k)) ∈ g.devices ∨ .addDevice j d.devEUI k ∈ ops →
            (d.devEUI, (i, k)) ∈ g'.devices := by
  intro ops
  -- each step adds its device under its own EUI, which evicts no other device
  induction ops with
  | nil =>
    intro g _ hg
    exact ⟨g, rfl, hg, fun k d _ h => h.resolve_right List.not_mem_nil⟩
  | cons op ops ih =>
    intro g hops hg
    have hops' : ∀ op ∈ ops, op ∈ s.addDevices := fun o ho => hops o (List.mem_cons_of_mem op ho)
    obtain ⟨j', k', d', hk', -, rfl⟩ := Setup.mem_addDevices.mp (hops op List.mem_cons_self)
    by_cases hj : j' = j
    · subst hj
      have hstep : objectStep i j' (some g) (.addDevice j' d'.devEUI k')
          = some (g.addDevice d'.devEUI (i, k')) := by simp [objectStep]
      obtain ⟨g', hfold, hown, hmem⟩ := ih _ hops' (owned_addDevice hg hk')
      refine ⟨g', by rw [List.foldl_cons, hstep, hfold], hown, fun k d hk h => ?_⟩
      by_cases heui : d.devEUI = d'.devEUI
      · -- the step was for this very device
        obtain rfl := Setup.eq_of_devEUI hk hk' heui
        refine hmem k d hk (Or.inl ?_)
        rw [heui]
        exact List.mem_cons_self
      · refine hmem k d hk ?_
        rcases h with h | h
        · exact Or.inl (List.mem_cons_of_mem _ (List.mem_filter.mpr ⟨h, by simpa using heui⟩))
        · rcases List.mem_cons.mp h with h | h
          · exact absurd (SetupOp.addDevice.inj h).2.1 heui
          · exact Or.inr h
    · have hstep : objectStep i j (some g) (.addDevice j' d'.devEUI k') = some g := by
        simp [objectStep, hj]
      obtain ⟨g', hfold, hown, hmem⟩ := ih g hops' hg
      refine ⟨g', by rw [List.foldl_cons, hstep, hfold], hown, fun k d hk h => hmem k d hk ?_⟩
      rcases h with h | h
      · exact Or.inl h
      · rcases List.mem_cons.mp h with h | h
        · exact absurd (SetupOp.addDevice.inj h).1.symm hj
        · exact Or.inr h

/-- **A gateway object ends with the devices of its own simulation**, whatever the others did. -/
theorem gateway_after {sims : List Setup} {tr : List (Nat × SetupOp)}
    (htr : IsInterleaving (programs sims) tr) {i j : Nat} {s : Setup} {id : EUI64}
    (hs : sims[i]? = some s) (hid : s.gatewayIDs[j]? = some id) :
    ∃ g, (setUp tr).gateways (i, j) = some g ∧ Owned s i g ∧
      ∀ k d, s.devices[k]? = some d → j ∈ d.gateways → (d.devEUI, (i, k)) ∈ g.devices := by
  have hown : own i tr = s.program := by rw [htr i, programs, hs]; rfl
  have hfold : (setUp tr).gateways (i, j) = s.program.foldl (objectStep i j) none := by
    rw [← hown]
    exact foldl_own (π := fun n : Network => n.gateways (i, j))
      (fun n i' op h => gateways_execute_of_ne n op h)
      (fun n op => gateways_execute_self n i j op) tr .empty
  -- its own `NewGateway` leaves it without devices, and only then devices are added
  have hnew : s.newGateways.foldl (objectStep i j) none = some ⟨id, [], 0, 0, 0⟩ := by
    refine foldl_eq_of_writes (π := fun o => o) s.newGateways none (fun op hop o => ?_)
      (Or.inr ⟨.newGateway j id, Setup.mem_newGateways.mpr ⟨j, id, hid, rfl⟩, fun o => ?_⟩)
    · obtain ⟨j', id', hid', rfl⟩ := Setup.mem_newGateways.mp hop
      by_cases hj : j' = j
      · subst hj
        rw [hid] at hid'
        exact Or.inr (by simp [objectStep, Option.some.inj hid'])
      · exact Or.inl (if_neg hj)
    · exact if_pos rfl
  obtain ⟨g, hg, howned, hmem⟩ := foldl_addDevices (s := s) (i := i) (j := j) s.addDevices
    ⟨id, [], 0, 0, 0⟩ (fun _ h => h) ⟨List.nodup_nil, fun e he => absurd he List.not_mem_nil⟩
  refine ⟨g, ?_, howned, fun k d hk hj => hmem k d hk (Or.inr ?_)⟩
  · rw [hfold, Setup.program, List.foldl_append, hnew, hg]
  · exact Setup.mem_addDevices.mpr ⟨j, k, d, hk, hj, rfl⟩

/-! ## What remains of a topic -/

/-- A step that is not the `NewGateway` of `g` leaves the callback of its topic alone. -/
theorem callbacks_execute (n : Network) (i : Nat) (op : SetupOp) (g : EUI64) :
    (∃ j, op = .newGateway j g ∧ (execute n (i, op)).callbacks (commandTopic g) = some (i, j)) ∨
      (execute n (i, op)).callbacks (commandTopic g) = n.callbacks (commandTopic g) := by
  cases op with
  | newGateway j id =>
    by_cases h : id = g
    · subst h
      exact Or.inl ⟨j, rfl, by simp [execute, Network.newGateway]⟩
    · have hne : commandTopic g ≠ commandTopic id := fun ht => h (commandTopic_injective ht).symm
      exact Or.inr (by simp [execute, Network.newGateway, Function.update_of_ne hne])
  | addDevice j devEUI k => exact Or.inr rfl

/-- When all the steps that build `g` are the one of `(i, j)`, its topic ends with this object. -/
theorem callbacks_after {steps : List (Nat × SetupOp)} {g : EUI64} {i j : Nat}
    (honly : ∀ i' j', (i', .newGateway j' g) ∈ steps → i' = i ∧ j' = j)
    (hmem : (i, .newGateway j g) ∈ steps) (n : Network) :
    (steps.foldl execute n).callbacks (commandTopic g) = some (i, j) := by
  refine foldl_eq_of_writes (π := fun n : Network => n.callbacks (commandTopic g)) steps n
    (fun x hx n => ?_) (Or.inr ⟨(i, .newGateway j g), hmem, fun n => ?_⟩)
  · obtain ⟨i', op⟩ := x
    rcases callbacks_execute n i' op g with ⟨j', rfl, h⟩ | h
    · obtain ⟨rfl, rfl⟩ := honly i' j' hx
      exact Or.inr h
    · exact Or.inl h
  · simp [execute, Network.newGateway]

theorem mem_programs {sims : List Setup} {i : Nat} {op : SetupOp} :
    op ∈ programs sims i ↔ ∃ s, sims[i]? = some s ∧ op ∈ s.program := by
  unfold programs
  cases sims[i]? <;> simp

theorem newGateway_mem_programs {sims : List Setup} {i j : Nat} {g : EUI64} :
    .newGateway j g ∈ programs sims i ↔ ∃ s, sims[i]? = some s ∧ s.gatewayIDs[j]? = some g := by
  rw [mem_programs]
  refine exists_congr fun s => and_congr_right fun _ => ?_
  rw [Setup.program, List.mem_append, Setup.mem_newGateways, Setup.mem_addDevices]
  constructor
  · rintro (⟨j', id, hid, heq⟩ | ⟨_, _, _, _, _, heq⟩)
    · obtain ⟨rfl, rfl⟩ := SetupOp.newGateway.inj heq
      exact hid
    · exact absurd heq (by simp)
  · exact fun h => Or.inl ⟨j, g, h, rfl⟩

/-! ## Reach -/

section
variable {unmarshal : List UInt8 → DownlinkFrame × Option String}

/-- A command on a topic is offered to the queues of the object that holds its callback. -/
theorem queues_publish {n : Network} {t : String} {payload : List UInt8} {ref : Ref} {g : Gateway}
    (hcb : n.callbacks t = some ref) (hg : n.gateways ref = some g) :
    (n.publish unmarshal t payload).queues
      = forward g.devices (unmarshal payload).1 n.queues := by
  simp only [Network.publish, hcb, Network.downlinkEventHandler, hg]

/-- A device whose gateways are built by its own simulation alone is reached. -/
theorem reached_of_alone {sims : List Setup} {live : Ref → Prop} {tr : List (Nat × SetupOp)}
    (htr : IsInterleaving (programs sims) tr) (halone : Unshared live sims) :
    Reached unmarshal live sims (setUp tr) := by
  intro g payload _ queues c hlive huses
  have hbuilders := halone c g hlive huses
  obtain ⟨i, k⟩ := c
  obtain ⟨s, d, j, hs, hd, hj, hid⟩ := huses
  obtain ⟨gw, hgw, howned, hdevices⟩ := gateway_after htr hs hid
  -- every subscription of the topic is the one of this object
  have hcb : (setUp tr).callbacks (commandTopic g) = some (i, j) := by
    refine callbacks_after (fun i' j' hmem => ?_) ?_ .empty
    · obtain ⟨s', hs', hid'⟩ := newGateway_mem_programs.mp (htr.mem_iff.mp hmem)
      obtain rfl := hbuilders i' ⟨s', hs', List.mem_of_getElem? hid'⟩
      rw [hs] at hs'
      obtain rfl := Option.some.inj hs'
      exact ⟨rfl, Setup.eq_of_gatewayID hid' hid⟩
    · exact htr.mem_iff.mpr (newGateway_mem_programs.mpr ⟨s, hs, hid⟩)
  rw [queues_publish (n := { setUp tr with queues }) hcb hgw]
  exact forward_of_mem howned.nodup_queues
    (List.mem_map.mpr ⟨(d.devEUI, (i, k)), hdevices k d hd hj, rfl⟩)

/-- **Downlinks reach their devices exactly when gateways are not shared**: in every interleaving all
    live devices are reached iff no other simulation builds a gateway of a live device. -/
theorem reached_iff (hdecodes : ∃ payload, (unmarshal payload).2 = none) (sims : List Setup)
    (live : Ref → Prop) : ReachedAlways unmarshal live sims ↔ Unshared live sims := by
  constructor
  · intro hreached c g hlive huses i ⟨s, hs, hbuilds⟩
    by_contra hne
    -- the other simulation comes last, and its object keeps the topic
    obtain ⟨j, hid⟩ := List.getElem?_of_mem hbuilds
    have hall : ∀ i, programs sims i ≠ [] → i ∈ List.range sims.length := by
      intro i hi
      rw [List.mem_range]
      by_contra hlt
      exact hi (by rw [programs, List.getElem?_eq_none (Nat.le_of_not_lt hlt)]; rfl)
    obtain ⟨front, htr⟩ := exists_last (List.nodup_range) hall i
    obtain ⟨gw, hgw, howned, -⟩ := gateway_after htr hs hid
    have hcb : (setUp (front ++ tagged i (programs sims i))).callbacks (commandTopic g)
        = some (i, j) := by
      rw [setUp, List.foldl_append]
      refine callbacks_after (fun i' j' hmem => ?_) ?_ _
      · obtain ⟨op, hop, heq⟩ := List.mem_map.mp hmem
        obtain ⟨rfl, rfl⟩ := Prod.mk.inj heq
        obtain ⟨s', hs', hid'⟩ := newGateway_mem_programs.mp hop
        rw [hs] at hs'
        obtain rfl := Option.some.inj hs'
        exact ⟨rfl, Setup.eq_of_gatewayID hid' hid⟩
      · exact List.mem_map.mpr ⟨.newGateway j g, newGateway_mem_programs.mpr ⟨s, hs, hid⟩, rfl⟩
    obtain ⟨payload, hpayload⟩ := hdecodes
    have hqueue := hreached _ htr g payload hpayload (fun _ => []) c hlive huses
    rw [queues_publish (n := { setUp _ with queues := fun _ => [] }) hcb hgw,
      forward_of_not_mem] at hqueue
    · exact absurd hqueue (by simp [offer])
    · rintro e he rfl
      obtain ⟨k, -, hk, -⟩ := howned.device e he
      exact hne (by rw [hk])
  · exact fun halone tr htr => reached_of_alone htr halone

end

/-! ## Two applications of one tenant -/

/-- An application with one device on the tenant's one gateway. -/
def oneDevice (devEUI : EUI64) : Setup where
  gatewayIDs := [Vector.replicate 8 1]
  devices := [⟨devEUI, [0]⟩]
  nodup_gatewayIDs := List.nodup_singleton _
  nodup_devEUIs := List.nodup_singleton _

/-- A decoder that gives one frame with one item for every payload. -/
def oneFrame : List UInt8 → DownlinkFrame × Option String := fun _ => (⟨7, [[1]]⟩, none)

/-- The only simulation of a run reaches its device. -/
theorem reached_iff_oneDevice :
    ReachedAlways oneFrame (fun _ => True) [oneDevice (Vector.replicate 8 2)] := by
  refine (reached_iff ⟨[], rfl⟩ _ _).mpr ?_
  rintro ⟨i, k⟩ g - ⟨s, d, j, hs, -⟩ i' ⟨s', hs', -⟩
  have hi : i < 1 := (List.getElem?_eq_some_iff.mp hs).1
  have hi' : i' < 1 := (List.getElem?_eq_some_iff.mp hs').1
  show i' = i
  omega

/-- Two applications share the gateway, and the second one subscribes after the first is set up:
    the device of the first is never reached again. -/
theorem not_reached_twoApplications :
    ¬ ReachedAlways oneFrame (fun _ => True)
      [oneDevice (Vector.replicate 8 2), oneDevice (Vector.replicate 8 3)] := by
  intro hreached
  have h := hreached
    [(0, .newGateway 0 (Vector.replicate 8 1)), (0, .addDevice 0 (Vector.replicate 8 2) 0),
      (1, .newGateway 0 (Vector.replicate 8 1)), (1, .addDevice 0 (Vector.replicate 8 3) 0)]
    fun i => ?_
  · have hqueue := h (Vector.replicate 8 1) [] rfl (fun _ => []) (0, 0) trivial
      ⟨_, _, 0, rfl, rfl, List.mem_singleton_self 0, rfl⟩
    -- the callback is that of the second object, which holds the other device's queue
    simp [setUp, execute, Network.newGateway, Network.addDevice, Network.empty, Network.publish,
      Network.downlinkEventHandler, Gateway.addDevice, forward, offer, oneFrame] at hqueue
  · match i with
    | 0 => rfl
    | 1 => rfl
    | i + 2 => simp [own, programs]

end ChirpStackSimulator.Downstream
