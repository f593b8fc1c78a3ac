/-
  The registry of gateways (`simulator/registry.go`, `NewGateway` and `SendUplinkFrame` in
  `simulator/gateway.go`, `runSimulation` in `internal/simulator/simulator.go`).

  `ActiveGateways` maps a gateway id to a gateway object, and the status page shows the counts of that
  object.  The last thing `NewGateway` does is to put its object there, whoever was there before; an
  accepted start empties the map.  Nothing takes a gateway out when its simulation ends.

  1. **Objects and the map** — a gateway object is named by its position among all that were ever
     made; it is created when its `NewGateway` returns.
  2. **Steps** — starts, simulations, gateways and frames in any order; the counts of an object wrap
     around at 2³².
  3. **The law** — `Agrees`: an id is listed exactly if a live simulation uses it, and its counts are
     the totals over all objects with that id created since the last accepted start.
  4. `agrees_throughout_iff`: the law holds in every state of a run exactly if every step keeps to
     one counting object for an id, and a simulation ends only if others use its gateways.
-/
import ChirpStackSimulator.Lib.Hex
import ChirpStackSimulator.Lib.Objects
import ChirpStackSimulator.Lib.Run
import ChirpStackSimulator.Lib.Tally
import ChirpStackSimulator.LoRaWAN
import Mathlib.Logic.Function.Basic

namespace ChirpStackSimulator.ActiveGateways

open LoRaWAN Transition

/-! ## Objects and the map -/

/-- A `*Gateway`. -/
structure GatewayObject where
  gatewayID : EUI64
  tenantID : String
  /-- The simulation that has made it. -/
  sim : Nat
  /-- How many starts had been accepted when `NewGateway` returned it, if it has. -/
  created : Option Nat
  uplinkCount : UInt32
  downlinkCount : UInt32

/-- The gateways ever made, the map of the registry, and the simulations. -/
structure World where
  objects : List GatewayObject
  /-- `ActiveGateways.gateways`. -/
  active : EUI64 → Option Nat
  /-- Accepted starts. -/
  starts : Nat
  /-- The simulations, and whether they are live. -/
  sims : List Bool

/-- No gateway is built yet. -/
def init : World := ⟨[], fun _ => none, 0, []⟩

/-- What the registry reports of a gateway. -/
structure GatewayStatus where
  gatewayID : String
  tenantID : String
  uplinkCount : UInt32
  downlinkCount : UInt32

namespace World

/-- `Register`. -/
def register (w : World) (gatewayID : EUI64) (k : Nat) : World :=
  { w with active := Function.update w.active gatewayID (some k) }

/-- `Clear`. -/
def clear (w : World) : World := { w with active := fun _ => none }

/-- `GetStatuses`: the status of each gateway in the map. -/
def getStatuses (w : World) (gatewayID : EUI64) : Option GatewayStatus :=
  match w.active gatewayID with
  | none => none
  | some k => (w.objects[k]?).map fun g =>
    ⟨Hex.encode g.gatewayID.toList, g.tenantID, g.uplinkCount, g.downlinkCount⟩

end World

/-- What may happen next. -/
inductive Label where
  /-- `handleStart` accepts a start. -/
  | start
  | newSimulation
  /-- `runSimulation` returns and the simulation is torn down. -/
  | endSimulation (sim : Nat)
  /-- `NewGateway` makes its object and subscribes. -/
  | newGateway (sim : Nat) (gatewayID : EUI64) (tenantID : String)
  /-- It registers the object and returns. -/
  | register (k : Nat)
  /-- `SendUplinkFrame` counts. -/
  | sendUplinkFrame (k : Nat)
  /-- `downlinkEventHandler` counts. -/
  | downlinkEvent (k : Nat)

/-- One step. -/
def step (w : World) : Label → Option World
  | .start => some { w.clear with starts := w.starts + 1 }
  | .newSimulation => some { w with sims := w.sims ++ [true] }
  | .endSimulation sim =>
    if w.sims[sim]? = some true ∧ ∀ g ∈ w.objects, g.sim = sim → g.created.isSome then
      some { w with sims := w.sims.set sim false }
    else none
  | .newGateway sim gatewayID tenantID =>
    if w.sims[sim]? = some true then
      some { w with objects := w.objects ++ [⟨gatewayID, tenantID, sim, none, 0, 0⟩] }
    else none
  | .register k =>
    match w.objects[k]? with
    | none => none
    | some g =>
      if g.created = none then
        some (World.register
          { w with objects := w.objects.set k { g with created := some w.starts } } g.gatewayID k)
      else none
  | .sendUplinkFrame k =>
    match w.objects[k]? with
    | none => none
    | some g =>
      -- nobody has the object before `NewGateway` returns it
      if g.created = none then none
      else some { w with objects := w.objects.set k { g with uplinkCount := g.uplinkCount + 1 } }
  | .downlinkEvent k =>
    match w.objects[k]? with
    | none => none
    | some g =>
      some { w with objects := w.objects.set k { g with downlinkCount := g.downlinkCount + 1 } }

/-! ## The law -/

/-- Some live simulation uses the gateway: it has created an object with that id. -/
def Uses (w : World) (gatewayID : EUI64) : Prop :=
  ∃ g ∈ w.objects, g.gatewayID = gatewayID ∧ g.created ≠ none ∧ w.sims[g.sim]? = some true

/-- The object counts for the id: it was created since the last accepted start. -/
def Counts (w : World) (gatewayID : EUI64) (g : GatewayObject) : Prop :=
  g.gatewayID = gatewayID ∧ g.created = some w.starts

instance (w : World) (gatewayID : EUI64) (g : GatewayObject) : Decidable (Counts w gatewayID g) := by
  unfold Counts
  infer_instance

/-- The total of a count over the objects with the id created since the last accepted start. -/
def total (w : World) (count : GatewayObject → UInt32) (gatewayID : EUI64) : Nat :=
  ((w.objects.filter fun g => Counts w gatewayID g).map fun g => (count g).toNat).sum

/-- A gateway is listed exactly if a live simulation uses it, and the reported counts are the
    totals. -/
def Agrees (w : World) : Prop :=
  ∀ e, (w.getStatuses e ≠ none ↔ Uses w e) ∧
    ∀ s, w.getStatuses e = some s → s.uplinkCount.toNat = total w GatewayObject.uplinkCount e ∧
      s.downlinkCount.toNat = total w GatewayObject.downlinkCount e

/-- Both counts of the object are zero. -/
def Unused (g : GatewayObject) : Prop := g.uplinkCount = 0 ∧ g.downlinkCount = 0

/-- A start is accepted while no gateway is used, a simulation ends only if others use its gateways;
    an object is registered while the others that count for its id are unused, and of those that count
    for an id only the registered one goes on counting. -/
def Single (w : World) : Label → Prop
  | .start => ∀ e, ¬ Uses w e
  | .newSimulation => True
  | .endSimulation sim => ∀ g ∈ w.objects, g.created ≠ none → g.sim = sim →
      ∃ g' ∈ w.objects, g'.gatewayID = g.gatewayID ∧ g'.created ≠ none ∧ g'.sim ≠ sim ∧
        w.sims[g'.sim]? = some true
  | .newGateway _ _ _ => True
  | .register k => ∀ g, w.objects[k]? = some g → ∀ g' ∈ w.objects, Counts w g.gatewayID g' → Unused g'
  | .sendUplinkFrame k | .downlinkEvent k => ∀ g, w.objects[k]? = some g →
      g.created = some w.starts → w.active g.gatewayID = some k

/-! ## What holds of the map -/

/-- The map has a gateway of the last start under each id that has one; gateways are made in live
    simulations. -/
structure Sound (w : World) : Prop where
  /-- What is in the map stands under its id and was created since the last accepted start. -/
  active : ∀ e k, w.active e = some k → ∃ g, w.objects[k]? = some g ∧ Counts w e g
  /-- What was created since then has its id in the map. -/
  listed : ∀ g ∈ w.objects, g.created = some w.starts → w.active g.gatewayID ≠ none
  started : ∀ g ∈ w.objects, ∀ n, g.created = some n → n ≤ w.starts
  /-- `NewGateway` runs in a live simulation. -/
  building : ∀ g ∈ w.objects, g.created = none → w.sims[g.sim]? = some true
  ofSim : ∀ g ∈ w.objects, g.sim < w.sims.length

/-- The object in the map is the only one that counts. -/
def Alone (w : World) (e : EUI64) (k : Nat) : Prop :=
  ∀ j g, j ≠ k → w.objects[j]? = some g → Counts w e g → Unused g

/-- What is in the map is reported. -/
theorem Sound.getStatuses_ne_none {w : World} (hw : Sound w) (e : EUI64) :
    w.getStatuses e ≠ none ↔ w.active e ≠ none := by
  unfold World.getStatuses
  cases hk : w.active e with
  | none => simp
  | some k =>
    obtain ⟨g, hg, -⟩ := hw.active e k hk
    simp [hg]

/-- The total as a sum over all gateways. -/
theorem total_eq (w : World) (count : GatewayObject → UInt32) (e : EUI64) :
    total w count e = (w.objects.map fun g => if Counts w e g then (count g).toNat else 0).sum := by
  unfold total
  rw [Tally.sum_map_filter]
  simp

/-- The count of the object in the map is the total exactly if no other object has counted. -/
theorem eq_total_iff {w : World} (count : GatewayObject → UInt32) {e : EUI64} {k : Nat}
    {g : GatewayObject} (hg : w.objects[k]? = some g) (hcounts : Counts w e g) :
    (count g).toNat = total w count e ↔
      ∀ j g', j ≠ k → w.objects[j]? = some g' → Counts w e g' → count g' = 0 := by
  have hvalue : (count g).toNat = if Counts w e g then (count g).toNat else 0 :=
    (if_pos hcounts).symm
  rw [total_eq, eq_comm]
  conv_lhs => rw [hvalue]
  rw [Tally.sum_map_eq_iff _ hg]
  refine forall_congr' fun j => forall_congr' fun g' => forall_congr' fun _ => forall_congr' fun _ => ?_
  constructor
  · intro hzero hc
    rw [if_pos hc] at hzero
    exact UInt32.toNat_inj.mp hzero
  · intro hzero
    split
    · rename_i hc
      rw [hzero hc]
      rfl
    · rfl

/-- The law, said of the map and of the other objects. -/
theorem Sound.agrees_iff {w : World} (hw : Sound w) :
    Agrees w ↔ (∀ e, w.active e ≠ none ↔ Uses w e) ∧ ∀ e k, w.active e = some k → Alone w e k := by
  unfold Agrees
  constructor
  · intro h
    refine ⟨fun e => (hw.getStatuses_ne_none e).symm.trans (h e).1, fun e k hk j g' hj hg' hc => ?_⟩
    obtain ⟨g, hg, hcounts⟩ := hw.active e k hk
    have hstatus : w.getStatuses e =
        some ⟨Hex.encode g.gatewayID.toList, g.tenantID, g.uplinkCount, g.downlinkCount⟩ := by
      unfold World.getStatuses
      simp [hk, hg]
    obtain ⟨hup, hdown⟩ := (h e).2 _ hstatus
    exact ⟨(eq_total_iff GatewayObject.uplinkCount hg hcounts).mp hup j g' hj hg' hc,
      (eq_total_iff GatewayObject.downlinkCount hg hcounts).mp hdown j g' hj hg' hc⟩
  · rintro ⟨huses, halone⟩ e
    refine ⟨(hw.getStatuses_ne_none e).trans (huses e), fun s hs => ?_⟩
    have hne : w.active e ≠ none := (hw.getStatuses_ne_none e).mp (by rw [hs]; exact Option.some_ne_none s)
    obtain ⟨k, hk⟩ := Option.ne_none_iff_exists'.mp hne
    obtain ⟨g, hg, hcounts⟩ := hw.active e k hk
    have hstatus : s = ⟨Hex.encode g.gatewayID.toList, g.tenantID, g.uplinkCount, g.downlinkCount⟩ := by
      unfold World.getStatuses at hs
      simpa [hk, hg] using hs.symm
    rw [hstatus]
    exact ⟨(eq_total_iff GatewayObject.uplinkCount hg hcounts).mpr
        fun j g' hj hg' hc => (halone e k hk j g' hj hg' hc).1,
      (eq_total_iff GatewayObject.downlinkCount hg hcounts).mpr
        fun j g' hj hg' hc => (halone e k hk j g' hj hg' hc).2⟩

/-! ## Objects that count on -/

/-- The object after it has counted something. -/
structure Same (g g' : GatewayObject) : Prop where
  gatewayID : g'.gatewayID = g.gatewayID
  sim : g'.sim = g.sim
  created : g'.created = g.created

section
variable {w : World} {k : Nat} {g g' : GatewayObject} (hg : w.objects[k]? = some g) (hsame : Same g g')
include hg hsame

/-- Counting changes nothing about what is used. -/
theorem uses_count (e : EUI64) : Uses { w with objects := w.objects.set k g' } e ↔ Uses w e := by
  have hmem : g ∈ w.objects := List.mem_of_getElem? hg
  have hmem' : g' ∈ w.objects.set k g' := List.mem_set (List.getElem?_eq_some_iff.mp hg).1 g'
  constructor
  · rintro ⟨p, hp, he, hc, hlive⟩
    rcases List.mem_or_eq_of_mem_set hp with hp | rfl
    · exact ⟨p, hp, he, hc, hlive⟩
    · exact ⟨g, hmem, hsame.gatewayID.symm.trans he, hsame.created ▸ hc, hsame.sim ▸ hlive⟩
  · rintro ⟨p, hp, he, hc, hlive⟩
    rcases Objects.eq_or_mem_set hg g' hp with rfl | hp
    · refine ⟨g', hmem', hsame.gatewayID.trans he, ?_, ?_⟩
      · rw [hsame.created]
        exact hc
      · show w.sims[g'.sim]? = some true
        rw [hsame.sim]
        exact hlive
    · exact ⟨p, hp, he, hc, hlive⟩

/-- Nor does it change the map. -/
theorem sound_count (hw : Sound w) : Sound { w with objects := w.objects.set k g' } := by
  have hmem : g ∈ w.objects := List.mem_of_getElem? hg
  refine ⟨fun e j hj => ?_, fun p hp hc => ?_, fun p hp n hn => ?_, fun p hp hc => ?_, fun p hp => ?_⟩
  · obtain ⟨p, hp, hcounts⟩ := hw.active e j hj
    by_cases hjk : j = k
    · subst hjk
      obtain rfl : g = p := Option.some.inj (hg.symm.trans hp)
      exact ⟨g', Objects.set_self hg, hsame.gatewayID.trans hcounts.1,
        hsame.created.trans hcounts.2⟩
    · exact ⟨p, Objects.set_kept hjk hp, hcounts⟩
  · rcases List.mem_or_eq_of_mem_set hp with hp | rfl
    · exact hw.listed p hp hc
    · rw [hsame.gatewayID]
      exact hw.listed g hmem (hsame.created.symm.trans hc)
  · rcases List.mem_or_eq_of_mem_set hp with hp | rfl
    · exact hw.started p hp n hn
    · exact hw.started g hmem n (hsame.created.symm.trans hn)
  · rcases List.mem_or_eq_of_mem_set hp with hp | rfl
    · exact hw.building p hp hc
    · show w.sims[p.sim]? = some true
      rw [hsame.sim]
      exact hw.building g hmem (hsame.created.symm.trans hc)
  · rcases List.mem_or_eq_of_mem_set hp with hp | rfl
    · exact hw.ofSim p hp
    · show p.sim < w.sims.length
      rw [hsame.sim]
      exact hw.ofSim g hmem

/-- An object counts: the law is kept exactly if it is the one in the map, or does not count for its
    id any more. -/
theorem agrees_count (hw : Sound w) (hlaw : Agrees w) (hused : Unused g → ¬ Unused g') :
    Agrees { w with objects := w.objects.set k g' } ↔
      (g.created = some w.starts → w.active g.gatewayID = some k) := by
  obtain ⟨huses, halone⟩ := hw.agrees_iff.mp hlaw
  have hset : (w.objects.set k g')[k]? = some g' := Objects.set_self hg
  rw [(sound_count hg hsame hw).agrees_iff]
  constructor
  · rintro ⟨-, halone'⟩ hcur
    obtain ⟨j, hj⟩ := Option.ne_none_iff_exists'.mp (hw.listed g (List.mem_of_getElem? hg) hcur)
    by_contra hne
    have hjk : k ≠ j := fun e => hne (e ▸ hj)
    have hunused : Unused g := halone g.gatewayID j hj k g hjk hg ⟨rfl, hcur⟩
    exact hused hunused (halone' g.gatewayID j hj k g' hjk hset
      ⟨hsame.gatewayID, hsame.created.trans hcur⟩)
  · intro honly
    refine ⟨fun e => (huses e).trans (uses_count hg hsame e).symm, fun e j hj i p hij hp hcounts => ?_⟩
    rcases Objects.of_lookup_set hp with ⟨rfl, rfl⟩ | ⟨-, hp⟩
    · -- the object in the map is this one
      have hcur : g.created = some w.starts := hsame.created.symm.trans hcounts.2
      have he : g.gatewayID = e := hsame.gatewayID.symm.trans hcounts.1
      have hactive := honly hcur
      rw [he] at hactive
      exact absurd (Option.some.inj (hactive.symm.trans hj)) hij
    · exact halone e j hj i p hij hp hcounts

end

/-! ## Gateways that are created -/

/-- `NewGateway` returns the object. -/
def afterRegister (w : World) (k : Nat) (g : GatewayObject) : World :=
  World.register { w with objects := w.objects.set k { g with created := some w.starts } } g.gatewayID k

section
variable {w : World} {k : Nat} {g : GatewayObject} (hg : w.objects[k]? = some g)
  (hnew : g.created = none)
include hg

/-- The gateways after one was registered. -/
theorem lookup_afterRegister {j : Nat} {p : GatewayObject} :
    (afterRegister w k g).objects[j]? = some p ↔
      (j = k ∧ p = { g with created := some w.starts }) ∨ (j ≠ k ∧ w.objects[j]? = some p) :=
  Objects.lookup_set hg

include hnew

/-- Nothing that counts has become another object. -/
theorem ne_of_created {j : Nat} {p : GatewayObject} (hp : w.objects[j]? = some p)
    (hc : p.created ≠ none) : j ≠ k := by
  rintro rfl
  obtain rfl : g = p := Option.some.inj (hg.symm.trans hp)
  exact hc hnew

/-- A registered gateway takes the place under its id. -/
theorem sound_register (hw : Sound w) : Sound (afterRegister w k g) := by
  refine ⟨fun e j hj => ?_, fun p hp hc => ?_, fun p hp n hn => ?_, fun p hp hc => ?_, fun p hp => ?_⟩
  · have hj' : Function.update w.active g.gatewayID (some k) e = some j := hj
    by_cases he : e = g.gatewayID
    · rw [he, Function.update_self] at hj'
      exact ⟨_, (lookup_afterRegister hg).mpr (Or.inl ⟨(Option.some.inj hj').symm, rfl⟩), he.symm, rfl⟩
    · rw [Function.update_of_ne he] at hj'
      obtain ⟨p, hp, hcounts⟩ := hw.active e j hj'
      have hjk : j ≠ k := ne_of_created hg hnew hp (by rw [hcounts.2]; exact Option.some_ne_none _)
      exact ⟨p, (lookup_afterRegister hg).mpr (Or.inr ⟨hjk, hp⟩), hcounts⟩
  · show Function.update w.active g.gatewayID (some k) p.gatewayID ≠ none
    by_cases he : p.gatewayID = g.gatewayID
    · rw [he, Function.update_self]
      exact Option.some_ne_none k
    · rw [Function.update_of_ne he]
      rcases List.mem_or_eq_of_mem_set hp with hp | rfl
      · exact hw.listed p hp hc
      · exact absurd rfl he
  · rcases List.mem_or_eq_of_mem_set hp with hp | rfl
    · exact hw.started p hp n hn
    · obtain rfl := Option.some.inj hn
      exact Nat.le_refl _
  · rcases List.mem_or_eq_of_mem_set hp with hp | rfl
    · exact hw.building p hp hc
    · cases hc
  · rcases List.mem_or_eq_of_mem_set hp with hp | rfl
    · exact hw.ofSim p hp
    · exact hw.ofSim g (List.mem_of_getElem? hg)

/-- From then on its id is used. -/
theorem uses_register (hw : Sound w) (e : EUI64) :
    Uses (afterRegister w k g) e ↔ Uses w e ∨ e = g.gatewayID := by
  constructor
  · rintro ⟨p, hp, he, hc, hlive⟩
    rcases List.mem_or_eq_of_mem_set hp with hp | rfl
    · exact Or.inl ⟨p, hp, he, hc, hlive⟩
    · exact Or.inr he.symm
  · rintro (⟨p, hp, he, hc, hlive⟩ | rfl)
    · obtain ⟨j, hj⟩ := List.getElem?_of_mem hp
      have hjk : j ≠ k := ne_of_created hg hnew hj hc
      exact ⟨p, List.mem_of_getElem? ((lookup_afterRegister hg).mpr (Or.inr ⟨hjk, hj⟩)), he, hc, hlive⟩
    · exact ⟨_, List.mem_of_getElem? ((lookup_afterRegister hg).mpr (Or.inl ⟨rfl, rfl⟩)), rfl,
        Option.some_ne_none _, hw.building g (List.mem_of_getElem? hg) hnew⟩

/-- The new object takes the place of the others, whose counts are not reported any more. -/
theorem agrees_register (hw : Sound w) (hlaw : Agrees w) : Agrees (afterRegister w k g) ↔
    ∀ p ∈ w.objects, Counts w g.gatewayID p → Unused p := by
  obtain ⟨huses, halone⟩ := hw.agrees_iff.mp hlaw
  have hself : (afterRegister w k g).active g.gatewayID = some k := Function.update_self ..
  have hother : ∀ e, e ≠ g.gatewayID → (afterRegister w k g).active e = w.active e :=
    fun e he => Function.update_of_ne he ..
  rw [(sound_register hg hnew hw).agrees_iff]
  constructor
  · rintro ⟨-, halone'⟩ p hp hcounts
    obtain ⟨j, hj⟩ := List.getElem?_of_mem hp
    have hjk : j ≠ k := ne_of_created hg hnew hj (by rw [hcounts.2]; exact Option.some_ne_none _)
    exact halone' _ k hself j p hjk ((lookup_afterRegister hg).mpr (Or.inr ⟨hjk, hj⟩)) hcounts
  · intro hunused
    refine ⟨fun e => ?_, fun e j hj i p hij hp hcounts => ?_⟩
    · rw [uses_register hg hnew hw]
      by_cases he : e = g.gatewayID
      · rw [he, hself]
        exact iff_of_true (Option.some_ne_none k) (Or.inr rfl)
      · rw [hother e he, huses e]
        exact (or_iff_left he).symm
    · rcases (lookup_afterRegister hg).mp hp with ⟨rfl, rfl⟩ | ⟨hik, hp⟩
      · -- the new object stands in the map
        obtain rfl : g.gatewayID = e := hcounts.1
        exact absurd (Option.some.inj (hself.symm.trans hj)) hij
      · by_cases he : e = g.gatewayID
        · exact hunused p (List.mem_of_getElem? hp) (he ▸ hcounts)
        · rw [hother e he] at hj
          exact halone e j hj i p hij hp hcounts

end

/-! ## All steps -/

/-- Counting changes neither the id, nor the simulation, nor the start. -/
theorem Same.uplink (g : GatewayObject) : Same g { g with uplinkCount := g.uplinkCount + 1 } :=
  ⟨rfl, rfl, rfl⟩

theorem Same.downlink (g : GatewayObject) : Same g { g with downlinkCount := g.downlinkCount + 1 } :=
  ⟨rfl, rfl, rfl⟩

/-- What a step makes of the world, by its label. -/
inductive Steps (w : World) : Label → World → Prop where
  | start : Steps w .start { w.clear with starts := w.starts + 1 }
  | newSimulation : Steps w .newSimulation { w with sims := w.sims ++ [true] }
  | endSimulation (sim : Nat) (hlive : w.sims[sim]? = some true)
      (hbuilt : ∀ g ∈ w.objects, g.sim = sim → g.created.isSome) :
      Steps w (.endSimulation sim) { w with sims := w.sims.set sim false }
  | newGateway (sim : Nat) (e : EUI64) (t : String) (hlive : w.sims[sim]? = some true) :
      Steps w (.newGateway sim e t) { w with objects := w.objects ++ [⟨e, t, sim, none, 0, 0⟩] }
  | register (k : Nat) (g : GatewayObject) (hg : w.objects[k]? = some g) (hnew : g.created = none) :
      Steps w (.register k) (afterRegister w k g)
  | sendUplinkFrame (k : Nat) (g : GatewayObject) (hg : w.objects[k]? = some g)
      (hc : g.created ≠ none) : Steps w (.sendUplinkFrame k)
        { w with objects := w.objects.set k { g with uplinkCount := g.uplinkCount + 1 } }
  | downlinkEvent (k : Nat) (g : GatewayObject) (hg : w.objects[k]? = some g) :
      Steps w (.downlinkEvent k)
        { w with objects := w.objects.set k { g with downlinkCount := g.downlinkCount + 1 } }

theorem step_cases {w w' : World} {a : Label} (h : step w a = some w') : Steps w a w' := by
  cases a with
  | start =>
    cases h
    exact .start
  | newSimulation =>
    cases h
    exact .newSimulation
  | endSimulation sim =>
    simp only [step] at h
    split at h
    · rename_i hcond
      cases h
      exact .endSimulation sim hcond.1 hcond.2
    · cases h
  | newGateway sim e t =>
    simp only [step] at h
    split at h
    · rename_i hlive
      cases h
      exact .newGateway sim e t hlive
    · cases h
  | register k =>
    simp only [step] at h
    split at h
    · cases h
    · rename_i g hg
      split at h
      · rename_i hnew
        cases h
        exact .register k g hg hnew
      · cases h
  | sendUplinkFrame k =>
    simp only [step] at h
    split at h
    · cases h
    · rename_i g hg
      split at h
      · cases h
      · rename_i hc
        cases h
        exact .sendUplinkFrame k g hg hc
  | downlinkEvent k =>
    simp only [step] at h
    split at h
    · cases h
    · rename_i g hg
      cases h
      exact .downlinkEvent k g hg

/-- A live simulation stays live when another one goes. -/
theorem live_end {sims : List Bool} {i sim : Nat} :
    (sims.set sim false)[i]? = some true ↔ i ≠ sim ∧ sims[i]? = some true := by
  constructor
  · intro h
    rcases Objects.of_lookup_set h with ⟨-, hfalse⟩ | hold
    · cases hfalse
    · exact hold
  · rintro ⟨hne, h⟩
    exact Objects.set_kept hne h

/-- **One step** keeps the registry sound. -/
theorem sound_step {w w' : World} {a : Label} (hw : Sound w) (h : step w a = some w') : Sound w' := by
  cases step_cases h with
  | start =>
    refine ⟨fun e k hk => ?_, fun g hg hc => ?_, fun g hg n hn => ?_, hw.building, hw.ofSim⟩
    · cases hk
    · exact absurd (hw.started g hg _ hc) (Nat.not_succ_le_self _)
    · exact Nat.le_succ_of_le (hw.started g hg n hn)
  | newSimulation =>
    refine ⟨hw.active, hw.listed, hw.started,
      fun g hg hc => Objects.append_kept (hw.building g hg hc) _, fun g hg => ?_⟩
    have := hw.ofSim g hg
    show g.sim < (w.sims ++ [true]).length
    rw [List.length_append]
    omega
  | endSimulation sim hlive hbuilt =>
    refine ⟨hw.active, hw.listed, hw.started, fun g hg hc => live_end.mpr ⟨?_, hw.building g hg hc⟩,
      fun g hg => ?_⟩
    · intro hsim
      have := hbuilt g hg hsim
      rw [hc] at this
      cases this
    · show g.sim < (w.sims.set sim false).length
      rw [List.length_set]
      exact hw.ofSim g hg
  | newGateway sim e t hlive =>
    refine ⟨fun e' k hk => ?_, fun g hg hc => ?_, fun g hg n hn => ?_, fun g hg hc => ?_, fun g hg => ?_⟩
    · obtain ⟨g, hg, hcounts⟩ := hw.active e' k hk
      exact ⟨g, Objects.append_kept hg _, hcounts⟩
    all_goals rcases List.mem_append.mp hg with hg | hg
    · exact hw.listed g hg hc
    · obtain rfl := List.mem_singleton.mp hg
      cases hc
    · exact hw.started g hg n hn
    · obtain rfl := List.mem_singleton.mp hg
      cases hn
    · exact hw.building g hg hc
    · obtain rfl := List.mem_singleton.mp hg
      exact hlive
    · exact hw.ofSim g hg
    · obtain rfl := List.mem_singleton.mp hg
      exact (List.getElem?_eq_some_iff.mp hlive).1
  | register k g hg hnew => exact sound_register hg hnew hw
  | sendUplinkFrame k g hg hc => exact sound_count hg (.uplink g) hw
  | downlinkEvent k g hg => exact sound_count hg (.downlink g) hw

/-- What a step asks of the object it names. -/
theorem forall_object {w : World} {k : Nat} {g : GatewayObject} (hg : w.objects[k]? = some g)
    (P : GatewayObject → Prop) : P g ↔ ∀ g', w.objects[k]? = some g' → P g' := by
  constructor
  · intro hP g' hg'
    obtain rfl : g = g' := Option.some.inj (hg.symm.trans hg')
    exact hP
  · intro hall
    exact hall g hg

/-- A simulation that ends takes its gateways out of use. -/
theorem uses_endSimulation {w : World} {sim : Nat} {e : EUI64} :
    Uses { w with sims := w.sims.set sim false } e ↔
      ∃ g ∈ w.objects, g.gatewayID = e ∧ g.created ≠ none ∧ g.sim ≠ sim ∧ w.sims[g.sim]? = some true := by
  constructor
  · rintro ⟨g, hg, he, hc, hlive⟩
    exact ⟨g, hg, he, hc, live_end.mp hlive⟩
  · rintro ⟨g, hg, he, hc, hlive⟩
    exact ⟨g, hg, he, hc, live_end.mpr hlive⟩

/-- **One step** keeps the agreement exactly if it is single. -/
theorem agrees_step {w w' : World} {a : Label} (hw : Sound w) (hlaw : Agrees w)
    (h : step w a = some w') : Agrees w' ↔ Single w a := by
  have hw' : Sound w' := sound_step hw h
  obtain ⟨huses, halone⟩ := hw.agrees_iff.mp hlaw
  cases step_cases h with
  | start =>
    rw [hw'.agrees_iff]
    constructor
    · rintro ⟨huses', -⟩ e he
      exact (huses' e).mpr he rfl
    · intro hnone
      refine ⟨fun e => iff_of_false (fun h => h rfl) (hnone e), fun e k hk => ?_⟩
      cases hk
  | newSimulation =>
    refine iff_of_true (hw'.agrees_iff.mpr ⟨fun e => (huses e).trans ?_, halone⟩) trivial
    constructor
    · rintro ⟨g, hg, he, hc, hlive⟩
      exact ⟨g, hg, he, hc, Objects.append_kept hlive _⟩
    · rintro ⟨g, hg, he, hc, hlive⟩
      have hlive' : (w.sims ++ [true])[g.sim]? = some true := hlive
      rw [List.getElem?_append_left (hw.ofSim g hg)] at hlive'
      exact ⟨g, hg, he, hc, hlive'⟩
  | endSimulation sim hlive hbuilt =>
    rw [hw'.agrees_iff]
    simp only [uses_endSimulation]
    constructor
    · rintro ⟨huses', -⟩ g hg hc hsim
      have hused : Uses w g.gatewayID := ⟨g, hg, rfl, hc, by rw [hsim]; exact hlive⟩
      exact (huses' _).mp ((huses _).mpr hused)
    · intro hothers
      refine ⟨fun e => (huses e).trans ?_, halone⟩
      constructor
      · rintro ⟨g, hg, rfl, hc, hlive⟩
        by_cases hsim : g.sim = sim
        · exact hothers g hg hc hsim
        · exact ⟨g, hg, rfl, hc, hsim, hlive⟩
      · rintro ⟨g, hg, he, hc, -, hlive⟩
        exact ⟨g, hg, he, hc, hlive⟩
  | newGateway sim e t hlive =>
    refine iff_of_true (hw'.agrees_iff.mpr ⟨fun e' => (huses e').trans ?_, ?_⟩) trivial
    · constructor
      · rintro ⟨g, hg, he, hc, hlive⟩
        exact ⟨g, List.mem_append_left _ hg, he, hc, hlive⟩
      · rintro ⟨g, hg, he, hc, hlive⟩
        rcases List.mem_append.mp hg with hg | hg
        · exact ⟨g, hg, he, hc, hlive⟩
        · -- its `NewGateway` has not returned
          obtain rfl := List.mem_singleton.mp hg
          exact absurd rfl hc
    · intro e' k hk j g hjk hj hcounts
      rcases Objects.lookup_append.mp hj with hj | ⟨-, rfl⟩
      · exact halone e' k hk j g hjk hj hcounts
      · cases hcounts.2
  | register k g hg hnew =>
    exact (agrees_register hg hnew hw hlaw).trans
      (forall_object hg fun g => ∀ g' ∈ w.objects, Counts w g.gatewayID g' → Unused g')
  | sendUplinkFrame k g hg hc =>
    have hused : Unused g → ¬ Unused { g with uplinkCount := g.uplinkCount + 1 } := by
      rintro ⟨hup, -⟩ ⟨hup', -⟩
      have hone : g.uplinkCount + 1 = 0 := hup'
      rw [hup] at hone
      exact absurd hone (by decide)
    exact (agrees_count hg (.uplink g) hw hlaw hused).trans
      (forall_object hg fun g => g.created = some w.starts → w.active g.gatewayID = some k)
  | downlinkEvent k g hg =>
    have hused : Unused g → ¬ Unused { g with downlinkCount := g.downlinkCount + 1 } := by
      rintro ⟨-, hdown⟩ ⟨-, hdown'⟩
      have hone : g.downlinkCount + 1 = 0 := hdown'
      rw [hdown] at hone
      exact absurd hone (by decide)
    exact (agrees_count hg (.downlink g) hw hlaw hused).trans
      (forall_object hg fun g => g.created = some w.starts → w.active g.gatewayID = some k)

theorem sound_init : Sound init where
  active e k hk := by cases hk
  listed g hg := absurd hg List.not_mem_nil
  started g hg := absurd hg List.not_mem_nil
  building g hg := absurd hg List.not_mem_nil
  ofSim g hg := absurd hg List.not_mem_nil

theorem agrees_init : Agrees init := by
  refine sound_init.agrees_iff.mpr ⟨fun e => iff_of_false (fun h => h rfl) ?_, fun e k hk => ?_⟩
  · rintro ⟨g, hg, -⟩
    exact absurd hg List.not_mem_nil
  · cases hk

/-- **The registry of gateways**: in every run of starts, simulations, gateways and frames the law
    holds in all states exactly if every step keeps to `Single`. -/
theorem agrees_throughout_iff {ls : List Label} {w : World} (hrun : exec step init ls = some w) :
    Throughout step Agrees init ls ↔ Always step Single init ls :=
  throughout_iff_always (fun _ _ _ hw h => sound_step hw h)
    (fun _ _ _ hw hlaw h => agrees_step hw hlaw h) sound_init agrees_init hrun

/-! ## One gateway, two simulations -/

/-- The `k`-th gateway object is created, with the id `0000000000000000`, by the `sim`-th simulation. -/
def creates (sim k : Nat) : List Label :=
  [.newGateway sim (Vector.replicate 8 0) "acme", .register k]

/-- Two simulations of one start build the same gateway, and only the later object counts. -/
theorem agrees_later : Throughout step Agrees init
    ([.start, .newSimulation, .newSimulation] ++ creates 0 0 ++ creates 1 1 ++
      [.sendUplinkFrame 1, .endSimulation 0]) := by
  refine (agrees_throughout_iff rfl).mpr ?_
  refine ⟨?_, fun w hw => ?_⟩
  · rintro e ⟨g, hg, -⟩
    exact absurd hg List.not_mem_nil
  obtain rfl := Option.some.inj hw
  iterate 3
    refine ⟨trivial, fun w hw => ?_⟩
    obtain rfl := Option.some.inj hw
  refine ⟨fun g _ g' hg' _ => ?_, fun w hw => ?_⟩
  · obtain rfl := List.mem_singleton.mp hg'
    exact ⟨rfl, rfl⟩
  obtain rfl := Option.some.inj hw
  refine ⟨trivial, fun w hw => ?_⟩
  obtain rfl := Option.some.inj hw
  refine ⟨fun g _ g' hg' _ => ?_, fun w hw => ?_⟩
  · -- nothing was sent yet
    rcases List.mem_cons.mp hg' with rfl | hg'
    · exact ⟨rfl, rfl⟩
    · obtain rfl := List.mem_singleton.mp hg'
      exact ⟨rfl, rfl⟩
  obtain rfl := Option.some.inj hw
  refine ⟨fun g hg _ => ?_, fun w hw => ?_⟩
  · obtain rfl := Option.some.inj hg
    rfl
  obtain rfl := Option.some.inj hw
  refine ⟨fun g hg _ hsim => ?_, fun _ _ => trivial⟩
  rcases List.mem_cons.mp hg with rfl | hg
  · -- the other simulation uses it as well
    exact ⟨_, List.mem_cons_of_mem _ (List.mem_singleton_self _), rfl, Option.some_ne_none _,
      Nat.one_ne_zero, rfl⟩
  · obtain rfl := List.mem_singleton.mp hg
    cases hsim

/-- The gateway of a simulation that has ended is still listed; and the uplink an object has counted
    when another one takes its place is not reported. -/
theorem not_agrees : (∃ w, exec step init
      ([.start, .newSimulation] ++ creates 0 0 ++ [.endSimulation 0]) = some w ∧
      w.getStatuses (Vector.replicate 8 0) ≠ none ∧ ¬ Agrees w) ∧
    ∃ w s, exec step init ([.start, .newSimulation, .newSimulation] ++ creates 0 0 ++
        [.sendUplinkFrame 0] ++ creates 1 1) = some w ∧
      w.getStatuses (Vector.replicate 8 0) = some s ∧ s.uplinkCount = 0 ∧
      total w GatewayObject.uplinkCount (Vector.replicate 8 0) = 1 ∧ ¬ Agrees w := by
  refine ⟨⟨_, rfl, Option.some_ne_none _, fun h => ?_⟩, ⟨_, _, rfl, rfl, rfl, rfl, fun h => ?_⟩⟩
  · obtain ⟨g, hg, -, -, hlive⟩ := (h (Vector.replicate 8 0)).1.mp (Option.some_ne_none _)
    obtain rfl := List.mem_singleton.mp hg
    cases hlive
  · obtain ⟨hup, -⟩ := (h (Vector.replicate 8 0)).2 _ rfl
    cases hup

end ChirpStackSimulator.ActiveGateways
