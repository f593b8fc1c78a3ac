/-
  The counters of the simulations, and the two sums over them (`simulator/metrics.go`,
  `internal/api/simulation.go`).

  Each of the five counters has one value for every tenant it was asked for.  `/api/status` goes over
  the saved configurations and adds up the values of the tenants they name; `/api/simulation/metrics`
  lets the counter list its own values, through a channel with room for a thousand.

  1. **Counters** — `CounterVec`, where looking a tenant up creates its label; the two functions
     called `getCounterVecSum`, and the handlers.
  2. **The sums** — over the organisations saved (`sum_api`) and over the labels.
  3. **Runs** — saves, counts and status requests in any order.  The sums agree in every state of a
     run exactly if a count is for a tenant that one row names, and a save moves its row between
     tenants whose counters stand alike (`agree_throughout_iff`).
-/
import ChirpStackSimulator.Lib.Run
import ChirpStackSimulator.Lib.Tally
import ChirpStackSimulator.OrgConfigs

namespace ChirpStackSimulator.Metrics

open OrgConfigs (DB getActiveOrgConfigs getOrgConfig after lastSaved savedOrgs Save)
open Transition

/-! ## Counters -/

/-- The five counters. -/
inductive Metric where
  /-- `device_uplink_count`. -/
  | deviceUplink
  /-- `device_join_request_count`. -/
  | deviceJoinRequest
  /-- `device_join_accept_count`. -/
  | deviceJoinAccept
  /-- `gateway_uplink_count`. -/
  | gatewayUplink
  /-- `gateway_downlink_count`. -/
  | gatewayDownlink
  deriving DecidableEq

/-- A `prometheus.CounterVec` with the label `tenant_id`. -/
abbrev CounterVec := List (String × Nat)

namespace CounterVec

/-- `WithLabelValues` and `GetMetricWithLabelValues`: a label that is missing is created. -/
def withLabelValues (cv : CounterVec) (tenantID : String) : CounterVec :=
  Table.upsert Prod.fst (fun _ old => old) (tenantID, 0) cv

/-- A value goes up by what is added. -/
def add (new old : String × Nat) : String × Nat := (old.1, old.2 + new.2)

/-- `Inc` of the counter of a tenant. -/
def inc (cv : CounterVec) (tenantID : String) : CounterVec :=
  Table.upsert Prod.fst add (tenantID, 1) cv

/-- The value of a tenant's counter. -/
def value (cv : CounterVec) (tenantID : String) : Nat :=
  ((Table.find Prod.fst tenantID cv).map Prod.snd).getD 0

/-- Everything counted. -/
def total (cv : CounterVec) : Nat := (cv.map Prod.snd).sum

variable (cv : CounterVec) (t t' : String)

/-- Naming a label adds no value. -/
@[simp] theorem value_withLabelValues : (cv.withLabelValues t).value t' = cv.value t' := by
  unfold value withLabelValues
  rw [Table.find_upsert fun _ _ _ => rfl]
  by_cases h : t' = t
  · rw [if_pos h]
    cases Table.find Prod.fst t' cv <;> rfl
  · rw [if_neg h]

/-- An increment adds one under its tenant. -/
theorem value_inc : (cv.inc t).value t' = cv.value t' + if t' = t then 1 else 0 := by
  have hadd : ∀ new old : String × Nat, new.1 = old.1 → (add new old).1 = old.1 := fun _ _ _ => rfl
  unfold value inc
  rw [Table.find_upsert hadd]
  by_cases h : t' = t
  · rw [if_pos h, if_pos h]
    cases Table.find Prod.fst t' cv <;> rfl
  · rw [if_neg h, if_neg h]
    rfl

@[simp] theorem total_withLabelValues : (cv.withLabelValues t).total = cv.total := by
  unfold total withLabelValues
  induction cv with
  | nil => rfl
  | cons row cv ih =>
    rw [Table.upsert_cons]
    split
    · rfl
    · rw [List.map_cons, List.map_cons, List.sum_cons, List.sum_cons, ih]

/-- An increment adds one to the sum. -/
theorem total_inc : (cv.inc t).total = cv.total + 1 := by
  unfold total inc
  induction cv with
  | nil => rfl
  | cons row cv ih =>
    rw [Table.upsert_cons]
    split
    · simp only [List.map_cons, List.sum_cons, add]
      omega
    · rw [List.map_cons, List.map_cons, List.sum_cons, List.sum_cons, ih]
      omega

end CounterVec

/-- The state of the five counters. -/
abbrev Counters := Metric → CounterVec

/-! ### `simulator/metrics.go` -/

namespace Simulator

/-- The room in the channel of `getCounterVecSum`. -/
def channelSize : Nat := 1000

/-- `getCounterVecSum` of the simulator package.  `Collect` sends every value before the first is
    received: with more values than the channel has room for it never returns. -/
def getCounterVecSum (cv : CounterVec) : Option Nat :=
  if cv.length ≤ channelSize then some cv.total else none

/-- `GetMetrics`; `none` where a collection would block. -/
def getMetrics (counters : Counters) : Option (Metric → Nat) := do
  let duc ← getCounterVecSum (counters .deviceUplink)
  let djrc ← getCounterVecSum (counters .deviceJoinRequest)
  let djac ← getCounterVecSum (counters .deviceJoinAccept)
  let guc ← getCounterVecSum (counters .gatewayUplink)
  let gdc ← getCounterVecSum (counters .gatewayDownlink)
  some fun
    | .deviceUplink => duc
    | .deviceJoinRequest => djrc
    | .deviceJoinAccept => djac
    | .gatewayUplink => guc
    | .gatewayDownlink => gdc

/-- It returns exactly if all five collections do. -/
theorem getMetrics_eq_some {counters : Counters} {vals : Metric → Nat} :
    getMetrics counters = some vals ↔ ∀ m, getCounterVecSum (counters m) = some (vals m) := by
  unfold getMetrics
  constructor
  · intro h
    simp only [Option.bind_eq_bind, Option.bind_eq_some_iff, Option.some.injEq] at h
    obtain ⟨duc, h₁, djrc, h₂, djac, h₃, guc, h₄, gdc, h₅, rfl⟩ := h
    intro m
    cases m <;> assumption
  · intro h
    simp only [h, Option.bind_eq_bind, Option.bind_some, Option.some.injEq]
    funext m
    cases m <;> rfl

end Simulator

/-! ### `internal/api/simulation.go` -/

/-- The value, and the counter after the look-up. -/
def getCounterVecValue (cv : CounterVec) (tenantID : String) : Nat × CounterVec :=
  let cv := cv.withLabelValues tenantID
  (cv.value tenantID, cv)

/-- The loop of `getCounterVecSum`. -/
def sumConfigs : List StartRequest → Nat → CounterVec → Nat × CounterVec
  | [], sum, cv => (sum, cv)
  | req :: reqs, sum, cv =>
    let (v, cv) := getCounterVecValue cv req.tenantID
    sumConfigs reqs (sum + v) cv

/-- `getCounterVecSum` of the api package. -/
def getCounterVecSum (db : DB) (cv : CounterVec) : Nat × CounterVec :=
  match getActiveOrgConfigs db with
  | .error _ => (0, cv)
  | .ok reqs => sumConfigs reqs 0 cv

/-- The metrics of `handleStatus`, for the query parameter `tenant_id`. -/
def statusMetrics (db : DB) (tenantID : String) (counters : Counters) : (Metric → Nat) × Counters :=
  if tenantID ≠ "" ∧ tenantID ≠ "all" then
    (fun m => (getCounterVecValue (counters m) tenantID).1,
      fun m => (getCounterVecValue (counters m) tenantID).2)
  else
    (fun m => (getCounterVecSum db (counters m)).1, fun m => (getCounterVecSum db (counters m)).2)

/-- The answer of `GET /api/status`. -/
structure StatusReport where
  status : String
  startedAtMs : Option Int
  uptimeSeconds : Option Int
  config : Option StartRequest
  metrics : Metric → Nat

/-- The report, and the counters with the labels it has named. -/
def handleStatus (state : Lifecycle.SimState) (db : DB) (now : Int) (tenantID : String)
    (counters : Counters) : StatusReport × Counters :=
  let underWay : Bool := state.status = .running ∨ state.status = .stopping
  ({ status := state.status.text
     startedAtMs := if underWay then some state.startedAt else none
     uptimeSeconds := if underWay then some ((now - state.startedAt).tdiv 1000) else none
     config := state.config
     metrics := (statusMetrics db tenantID counters).1 },
    (statusMetrics db tenantID counters).2)

/-! ## The sums -/

/-- The records of `GetActiveOrgConfigs`, as far as there are any. -/
def activeConfigs (db : DB) : List StartRequest :=
  match getActiveOrgConfigs db with
  | .error _ => []
  | .ok reqs => reqs

/-- How many rows name a tenant. -/
def rowsNaming (db : DB) (tenantID : String) : Nat :=
  (activeConfigs db).countP fun req => req.tenantID = tenantID

/-- The tenant the row of an organisation names. -/
def rowTenant (db : DB) (orgID : String) : Option String :=
  match getOrgConfig db orgID with
  | .error _ => none
  | .ok cfg => cfg.map StartRequest.tenantID

/-- The sum over the configurations, by induction on them. -/
theorem sumConfigs_fst (reqs : List StartRequest) (sum : Nat) (cv : CounterVec) :
    (sumConfigs reqs sum cv).1 = sum + (reqs.map fun req => cv.value req.tenantID).sum := by
  induction reqs generalizing sum cv with
  | nil => rfl
  | cons req reqs ih =>
    show (sumConfigs reqs (sum + (cv.withLabelValues req.tenantID).value req.tenantID)
      (cv.withLabelValues req.tenantID)).1 = _
    rw [ih]
    simp only [CounterVec.value_withLabelValues, List.map_cons, List.sum_cons]
    omega

/-- Summing adds labels, and no value. -/
theorem sumConfigs_total (reqs : List StartRequest) (sum : Nat) (cv : CounterVec) :
    (sumConfigs reqs sum cv).2.total = cv.total := by
  induction reqs generalizing sum cv with
  | nil => rfl
  | cons req reqs ih =>
    refine (ih _ _).trans ?_
    exact CounterVec.total_withLabelValues cv req.tenantID

theorem sumConfigs_value (reqs : List StartRequest) (sum : Nat) (cv : CounterVec) (t : String) :
    (sumConfigs reqs sum cv).2.value t = cv.value t := by
  induction reqs generalizing sum cv with
  | nil => rfl
  | cons req reqs ih =>
    refine (ih _ _).trans ?_
    exact CounterVec.value_withLabelValues cv req.tenantID t

/-- The sum of `/api/status` adds up the values of the tenants the rows name. -/
theorem getCounterVecSum_fst (db : DB) (cv : CounterVec) :
    (getCounterVecSum db cv).1 = ((activeConfigs db).map fun req => cv.value req.tenantID).sum := by
  unfold getCounterVecSum activeConfigs
  cases getActiveOrgConfigs db with
  | error e => rfl
  | ok reqs => exact (sumConfigs_fst reqs 0 cv).trans (Nat.zero_add _)

/-! ## Runs -/

/-- The table of configurations and the counters. -/
structure Server where
  db : DB
  counters : Counters

/-- `SetupDB`, and nothing counted. -/
def init : Server := ⟨some [], fun _ => []⟩

/-- What changes or reads the counters. -/
inductive Label where
  /-- A handler calls `SaveOrgConfig`. -/
  | save (s : Save)
  /-- A device or a gateway of a simulation counts. -/
  | count (m : Metric) (tenantID : String)
  /-- `GET /api/status`. -/
  | status (tenantID : String)

/-- One step. -/
def step (s : Server) : Label → Option Server
  | .save call => some { s with db := call.apply s.db }
  | .count m tenantID =>
    some { s with counters := Function.update s.counters m ((s.counters m).inc tenantID) }
  | .status tenantID => some { s with counters := (statusMetrics s.db tenantID s.counters).2 }

/-- **The two sums agree**: `/api/simulation/metrics` answers, and with the values `/api/status` has
    for all tenants. -/
def Agree (s : Server) : Prop :=
  Simulator.getMetrics s.counters = some (statusMetrics s.db "all" s.counters).1

/-- Every counter can be listed. -/
def Listed (counters : Counters) : Prop := ∀ m, (counters m).length ≤ Simulator.channelSize

/-- When a step leaves the sums in agreement. -/
def Balanced (s : Server) : Label → Prop
  | .save call => ∀ m, (s.counters m).value call.cfg.tenantID =
      ((rowTenant s.db call.orgID).map (s.counters m).value).getD 0
  | .count m tenantID => rowsNaming s.db tenantID = 1 ∧
      ((s.counters m).inc tenantID).length ≤ Simulator.channelSize
  | .status tenantID => Listed (statusMetrics s.db tenantID s.counters).2

/-- The table is what some history of saves leaves. -/
def Saved (s : Server) : Prop := ∃ saves, s.db = after saves

/-- **One step** keeps the table one that saves have left. -/
theorem saved_step {s s' : Server} {a : Label} (hs : Saved s) (h : step s a = some s') :
    Saved s' := by
  obtain ⟨saves, hdb⟩ := hs
  cases a with
  | save call =>
    obtain rfl : _ = s' := Option.some.inj h
    refine ⟨saves ++ [call], ?_⟩
    show call.apply s.db = _
    rw [hdb]
    unfold after
    rw [List.foldl_append]
    rfl
  | count m tenantID =>
    obtain rfl : _ = s' := Option.some.inj h
    exact ⟨saves, hdb⟩
  | status tenantID =>
    obtain rfl : _ = s' := Option.some.inj h
    exact ⟨saves, hdb⟩

/-- What it is for the two sums to agree, counter by counter. -/
theorem agree_iff {db : DB} {counters : Counters} :
    Agree ⟨db, counters⟩ ↔ Listed counters ∧
      ∀ m, (getCounterVecSum db (counters m)).1 = (counters m).total := by
  have hall : (statusMetrics db "all" counters).1 =
      fun m => (getCounterVecSum db (counters m)).1 := rfl
  unfold Agree Listed
  dsimp only
  rw [Simulator.getMetrics_eq_some, hall, ← forall_and]
  refine forall_congr' fun m => ?_
  unfold Simulator.getCounterVecSum
  split
  · rename_i h
    rw [Option.some.injEq]
    exact ⟨fun e => ⟨h, e.symm⟩, fun e => e.2.symm⟩
  · rename_i h
    constructor
    · intro e
      cases e
    · intro e
      exact absurd e.1 h

/-! ### Saves -/

/-- The tenant of a row is that of the last save. -/
theorem rowTenant_after (saves : List Save) (orgID : String) :
    rowTenant (after saves) orgID = (lastSaved saves orgID).map StartRequest.tenantID := by
  unfold rowTenant
  rw [OrgConfigs.getOrgConfig_after]
  dsimp only
  rw [Option.map_map]
  rfl

/-- The tenant of a row after a save. -/
theorem rowTenant_append (saves : List Save) (call : Save) (orgID : String) :
    rowTenant (after (saves ++ [call])) orgID =
      if orgID = call.orgID then some call.cfg.tenantID else rowTenant (after saves) orgID := by
  unfold rowTenant
  rw [OrgConfigs.getOrgConfig_after, OrgConfigs.getOrgConfig_after, OrgConfigs.lastSaved_append]
  by_cases h : orgID = call.orgID
  · rw [if_pos h, if_pos h]
    rfl
  · rw [if_neg h, if_neg h]

/-- The sum of `/api/status`, organisation by organisation. -/
theorem sum_api (saves : List Save) (cv : CounterVec) :
    (getCounterVecSum (after saves) cv).1 =
      ((savedOrgs saves).map fun orgID =>
        ((rowTenant (after saves) orgID).map cv.value).getD 0).sum := by
  obtain ⟨configs, hread, hconfigs⟩ := OrgConfigs.getActiveOrgConfigs_after saves
  have hactive : activeConfigs (after saves) = configs := by
    unfold activeConfigs
    rw [hread]
  have hsummands : configs.map (fun req => cv.value req.tenantID) =
      (savedOrgs saves).map fun orgID => ((rowTenant (after saves) orgID).map cv.value).getD 0 := by
    have hmap := congrArg
      (List.map fun cfg => (Option.map (fun req => cv.value req.tenantID) cfg).getD 0) hconfigs
    rw [List.map_map, List.map_map] at hmap
    refine hmap.trans (List.map_congr_left fun orgID _ => ?_)
    rw [rowTenant_after, Function.comp_apply]
    cases lastSaved saves orgID <;> rfl
  rw [getCounterVecSum_fst, hactive, hsummands]

/-- **What a save does to the sum**: the value of the row's tenant is replaced by the new one's. -/
theorem sum_save (saves : List Save) (call : Save) (cv : CounterVec) :
    (getCounterVecSum (after (saves ++ [call])) cv).1 +
        ((rowTenant (after saves) call.orgID).map cv.value).getD 0 =
      (getCounterVecSum (after saves) cv).1 + cv.value call.cfg.tenantID := by
  have hupdate : (fun orgID => ((rowTenant (after (saves ++ [call])) orgID).map cv.value).getD 0) =
      Function.update (fun orgID => ((rowTenant (after saves) orgID).map cv.value).getD 0) call.orgID
        (cv.value call.cfg.tenantID) := by
    funext orgID
    rw [rowTenant_append]
    by_cases h : orgID = call.orgID
    · rw [if_pos h, h, Function.update_self]
      rfl
    · rw [if_neg h, Function.update_of_ne h]
  obtain ⟨rows, -, -, hnodup, -⟩ := OrgConfigs.rows_after saves
  rw [sum_api, sum_api, hupdate, OrgConfigs.savedOrgs_append]
  by_cases hmem : call.orgID ∈ savedOrgs saves
  · -- the row is there already
    rw [if_pos hmem]
    exact Tally.sum_map_update _ hnodup hmem _
  · -- a row is added
    have hnone : rowTenant (after saves) call.orgID = none := by
      rw [rowTenant_after]
      cases hlast : lastSaved saves call.orgID with
      | none => rfl
      | some cfg =>
        have hsome : (lastSaved saves call.orgID).isSome := by rw [hlast]; rfl
        exact absurd (OrgConfigs.lastSaved_isSome.mp hsome) hmem
    have hsame : (savedOrgs saves).map (Function.update
        (fun orgID => ((rowTenant (after saves) orgID).map cv.value).getD 0) call.orgID
          (cv.value call.cfg.tenantID)) =
        (savedOrgs saves).map fun orgID => ((rowTenant (after saves) orgID).map cv.value).getD 0 := by
      refine List.map_congr_left fun orgID horg => ?_
      have hne : orgID ≠ call.orgID := fun e => hmem (e ▸ horg)
      rw [Function.update_of_ne hne]
    rw [if_neg hmem, List.map_append, List.sum_append, hsame, hnone]
    simp

/-! ### Counts -/

/-- **What a count does to the sum**: one for every row that names the tenant. -/
theorem sum_count (db : DB) (cv : CounterVec) (tenantID : String) :
    (getCounterVecSum db (cv.inc tenantID)).1 =
      (getCounterVecSum db cv).1 + rowsNaming db tenantID := by
  unfold rowsNaming
  rw [getCounterVecSum_fst, getCounterVecSum_fst, ← Tally.sum_map_add_ite]
  simp only [CounterVec.value_inc, decide_eq_true_eq]

/-! ### Status requests -/

/-- A status request may add labels; it changes no value. -/
theorem statusMetrics_value (db : DB) (tenantID : String) (counters : Counters) (m : Metric)
    (t : String) :
    ((statusMetrics db tenantID counters).2 m).value t = (counters m).value t := by
  unfold statusMetrics
  split
  · exact CounterVec.value_withLabelValues ..
  · show (getCounterVecSum db (counters m)).2.value t = _
    unfold getCounterVecSum
    split
    · rfl
    · exact sumConfigs_value ..

theorem statusMetrics_total (db : DB) (tenantID : String) (counters : Counters) (m : Metric) :
    ((statusMetrics db tenantID counters).2 m).total = (counters m).total := by
  unfold statusMetrics
  split
  · exact CounterVec.total_withLabelValues ..
  · show (getCounterVecSum db (counters m)).2.total = _
    unfold getCounterVecSum
    split
    · rfl
    · exact sumConfigs_total ..

/-! ### All steps -/

/-- A step leaves the sums in agreement exactly if it is balanced. -/
theorem agree_step {s s' : Server} {a : Label} (hs : Saved s) (hagree : Agree s)
    (h : step s a = some s') : Agree s' ↔ Balanced s a := by
  obtain ⟨db, counters⟩ := s
  obtain ⟨saves, rfl⟩ : ∃ saves, db = after saves := hs
  obtain ⟨hlisted, hsum⟩ := agree_iff.mp hagree
  cases a with
  | save call =>
    obtain rfl : _ = s' := Option.some.inj h
    have hdb : call.apply (after saves) = after (saves ++ [call]) := by
      unfold after
      rw [List.foldl_append]
      rfl
    show Agree ⟨call.apply (after saves), counters⟩ ↔ ∀ m, _
    rw [hdb, agree_iff, and_iff_right hlisted]
    refine forall_congr' fun m => ?_
    have hsave := sum_save saves call (counters m)
    rw [hsum m] at hsave
    show _ ↔ (counters m).value call.cfg.tenantID =
      ((rowTenant (after saves) call.orgID).map (counters m).value).getD 0
    omega
  | count m tenantID =>
    obtain rfl : _ = s' := Option.some.inj h
    show Agree ⟨after saves, Function.update counters m ((counters m).inc tenantID)⟩ ↔
      rowsNaming (after saves) tenantID = 1 ∧
        ((counters m).inc tenantID).length ≤ Simulator.channelSize
    rw [agree_iff]
    constructor
    · rintro ⟨hlisted', hsum'⟩
      have hlm := hlisted' m
      have hsm := hsum' m
      rw [Function.update_self] at hlm hsm
      rw [sum_count, CounterVec.total_inc, hsum m] at hsm
      exact ⟨Nat.add_left_cancel hsm, hlm⟩
    · rintro ⟨hone, hlm⟩
      refine ⟨fun m' => ?_, fun m' => ?_⟩
      · by_cases hm : m' = m
        · rw [hm, Function.update_self]
          exact hlm
        · rw [Function.update_of_ne hm]
          exact hlisted m'
      · by_cases hm : m' = m
        · rw [hm, Function.update_self, sum_count, CounterVec.total_inc, hsum m, hone]
        · rw [Function.update_of_ne hm]
          exact hsum m'
  | status tenantID =>
    obtain rfl : _ = s' := Option.some.inj h
    show Agree ⟨after saves, (statusMetrics (after saves) tenantID counters).2⟩ ↔ Listed _
    rw [agree_iff]
    refine and_iff_left fun m => ?_
    rw [statusMetrics_total, ← hsum m, getCounterVecSum_fst, getCounterVecSum_fst]
    simp only [statusMetrics_value]

/-- Nothing is counted at the start. -/
theorem agree_init : Agree init := agree_iff.mpr ⟨fun _ => Nat.zero_le _, fun _ => rfl⟩

/-- **The two sums agree in every state of a run exactly if every step is balanced.** -/
theorem agree_throughout_iff (as : List Label) :
    Throughout step Agree init as ↔ Always step Balanced init as := by
  have hrun : ∀ (as : List Label) (s : Server), ∃ s', exec step s as = some s' := by
    intro as
    induction as with
    | nil => exact fun s => ⟨s, rfl⟩
    | cons a as ih =>
      intro s
      cases a <;> exact ih _
  obtain ⟨s', hs'⟩ := hrun as init
  exact throughout_iff_always (fun s a t hs => saved_step hs)
    (fun s a t hs hP ht => agree_step hs hP ht) ⟨[], rfl⟩ agree_init hs'

/-- Two organisations are saved with one tenant, which then sends an uplink. -/
theorem not_agree_doubled :
    ¬ Throughout step Agree init
      [.save ⟨"a", { StartRequest.empty with tenantID := "t" }, 0⟩,
       .save ⟨"b", { StartRequest.empty with tenantID := "t" }, 1⟩, .count .deviceUplink "t"] := by
  intro h
  have hsum := (agree_iff.mp (h.last rfl)).2 .deviceUplink
  exact absurd hsum (by decide)

end ChirpStackSimulator.Metrics
