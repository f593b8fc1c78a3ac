/-
  The sums of `/api/simulation/metrics`, step by step (`simulator/metrics.go`).

  `GetMetrics` takes its five counters one after another.  Of each, `Collect` sends the metric of every
  tenant into a channel with room for a thousand; the channel is closed, and only then the sum is
  formed of what it holds.  Go lists the tenants of a counter in no particular order.

  1. **Steps** — the goroutine of `GetMetrics` is an instance of the one that fills a channel before
     emptying it; `getMetrics_iff_returns` says that the function used so far is what it comes to.

  2. **Labels** — `GET /api/status?tenant_id=x` creates the label `x` in every counter, so requests
     alone make as many labels as one likes (`exec_queries`).

  3. **The law** (`completes_iff`): in every state that saves, counts and requests lead to,
     `GetMetrics` returns the sums over all labels exactly if no counter has more than a thousand.
-/
import ChirpStackSimulator.Lib.Channel
import ChirpStackSimulator.Metrics
import Mathlib.Data.List.Dedup

namespace ChirpStackSimulator.Metrics

open OrgConfigs (DB)
open Transition

/-! ## Steps -/

/-- The counters in the order of `GetMetrics`, after the first. -/
def laterMetrics : List Metric := [.deviceJoinRequest, .deviceJoinAccept, .gatewayUplink, .gatewayDownlink]

/-- Some order in which `Collect` may go over the labels of each counter. -/
def Collects (counters orders : Counters) : Prop := ∀ m, (orders m).Perm (counters m)

/-- `GetMetrics` returns these values, counter by counter, when it goes over the labels in this order. -/
def Returns (orders : Counters) (vals : Metric → Nat) : Prop :=
  Channel.Returns Simulator.channelSize (fun sum row => sum + row.2) 0
    (Channel.begin (orders .deviceUplink) (laterMetrics.map orders))
    (vals .deviceUplink :: laterMetrics.map vals)

/-- **The summation completes**: whatever the order, `GetMetrics` returns, and with the sums over all
    labels. -/
def Completes (counters : Counters) : Prop :=
  ∀ orders, Collects counters orders → Returns orders fun m => (counters m).total

theorem foldl_eq_total (cv : CounterVec) : cv.foldl (fun sum row => sum + row.2) 0 = cv.total := by
  have hfold : ∀ (cv : CounterVec) (sum : Nat),
      cv.foldl (fun sum row => sum + row.2) sum = sum + cv.total := by
    intro cv
    induction cv with
    | nil => exact fun _ => rfl
    | cons row cv ih =>
      intro sum
      rw [List.foldl_cons, ih, Nat.add_assoc]
      rfl
  rw [hfold, Nat.zero_add]

/-- What the goroutine returns, and when. -/
theorem returns_iff {orders : Counters} {vals : Metric → Nat} :
    Returns orders vals ↔ Listed orders ∧ ∀ m, vals m = (orders m).total := by
  unfold Returns
  rw [Channel.returns_iff]
  refine and_congr ?_ ?_
  · constructor
    · intro h m
      cases m <;> exact h _ (by simp [laterMetrics])
    · intro h cv hcv
      rw [← List.map_cons] at hcv
      obtain ⟨m, -, rfl⟩ := List.mem_map.mp hcv
      exact h m
  · simp only [laterMetrics, List.map_cons, List.map_nil, foldl_eq_total, List.cons.injEq, and_true]
    constructor
    · rintro ⟨h₁, h₂, h₃, h₄, h₅⟩ m
      cases m <;> assumption
    · intro h
      exact ⟨h _, h _, h _, h _, h _⟩

/-- `getMetrics` is what the goroutine comes to. -/
theorem getMetrics_iff_returns {counters : Counters} {vals : Metric → Nat} :
    Simulator.getMetrics counters = some vals ↔ Returns counters vals := by
  rw [Simulator.getMetrics_eq_some, returns_iff]
  unfold Listed
  rw [← forall_and]
  refine forall_congr' fun m => ?_
  unfold Simulator.getCounterVecSum
  split
  · rename_i hroom
    rw [and_iff_right hroom, Option.some.injEq]
    exact eq_comm
  · rename_i hfull
    exact iff_of_false (by simp) fun h => hfull h.1

theorem completes_iff_listed {counters : Counters} : Completes counters ↔ Listed counters := by
  constructor
  · intro h
    exact (returns_iff.mp (h counters fun _ => List.Perm.refl _)).1
  · intro hlisted orders horders
    refine returns_iff.mpr ⟨fun m => ?_, fun m => ?_⟩
    · rw [(horders m).length_eq]
      exact hlisted m
    · unfold CounterVec.total
      exact ((horders m).map Prod.snd).sum_eq.symm

/-! ## Labels -/

/-- The labels of a counter. -/
def labels (cv : CounterVec) : List String := cv.map Prod.fst

/-- The tenants a step asks a counter for. -/
def asked (m : Metric) (s : Server) : Label → List String
  | .save _ => []
  | .count m' tenantID => if m' = m then [tenantID] else []
  | .status tenantID =>
    if tenantID ≠ "" ∧ tenantID ≠ "all" then [tenantID]
    else (activeConfigs s.db).map StartRequest.tenantID

/-- The tenants a run asks a counter for. -/
def askedBy (m : Metric) : Server → List Label → List String
  | _, [] => []
  | s, a :: run => asked m s a ++ ((step s a).map fun t => askedBy m t run).getD []

/-- Asking for a tenant adds the label if it is missing. -/
theorem labels_upsert {merge : String × Nat → String × Nat → String × Nat}
    (hmerge : ∀ new old : String × Nat, new.1 = old.1 → (merge new old).1 = old.1)
    (row : String × Nat) {cv : CounterVec} (hnodup : (labels cv).Nodup) :
    (labels (Table.upsert Prod.fst merge row cv)).Nodup ∧
      ∀ t, t ∈ labels (Table.upsert Prod.fst merge row cv) ↔ t ∈ labels cv ∨ t = row.1 := by
  refine ⟨Table.nodup_upsert hmerge hnodup, fun t => ?_⟩
  unfold labels
  rw [Table.map_key_upsert hmerge]
  split
  · rename_i hmem
    refine ⟨Or.inl, fun h => ?_⟩
    rcases h with h | rfl
    · exact h
    · exact hmem
  · rw [List.mem_append, List.mem_singleton]

theorem labels_withLabelValues (tenantID : String) {cv : CounterVec} (hnodup : (labels cv).Nodup) :
    (labels (cv.withLabelValues tenantID)).Nodup ∧
      ∀ t, t ∈ labels (cv.withLabelValues tenantID) ↔ t ∈ labels cv ∨ t = tenantID :=
  labels_upsert (fun _ _ _ => rfl) (tenantID, 0) hnodup

theorem labels_inc (tenantID : String) {cv : CounterVec} (hnodup : (labels cv).Nodup) :
    (labels (cv.inc tenantID)).Nodup ∧
      ∀ t, t ∈ labels (cv.inc tenantID) ↔ t ∈ labels cv ∨ t = tenantID := by
  have hadd : ∀ new old : String × Nat, new.1 = old.1 → (CounterVec.add new old).1 = old.1 :=
    fun _ _ _ => rfl
  exact labels_upsert hadd (tenantID, 1) hnodup

theorem labels_sumConfigs (reqs : List StartRequest) (sum : Nat) {cv : CounterVec}
    (hnodup : (labels cv).Nodup) :
    (labels (sumConfigs reqs sum cv).2).Nodup ∧ ∀ t, t ∈ labels (sumConfigs reqs sum cv).2 ↔
      t ∈ labels cv ∨ t ∈ reqs.map StartRequest.tenantID := by
  induction reqs generalizing sum cv with
  | nil => exact ⟨hnodup, fun t => by simp [sumConfigs]⟩
  | cons req reqs ih =>
    obtain ⟨hnodup', hmem⟩ := labels_withLabelValues req.tenantID hnodup
    obtain ⟨hnodup'', hmem'⟩ := ih (sum + (cv.withLabelValues req.tenantID).value req.tenantID) hnodup'
    refine ⟨hnodup'', fun t => (hmem' t).trans ?_⟩
    rw [hmem, List.map_cons, List.mem_cons, or_assoc]

/-- **Step**: the labels of a counter are those it had and those it is asked for. -/
theorem labels_step (m : Metric) {s t : Server} {a : Label} (h : step s a = some t)
    (hnodup : (labels (s.counters m)).Nodup) :
    (labels (t.counters m)).Nodup ∧
      ∀ x, x ∈ labels (t.counters m) ↔ x ∈ labels (s.counters m) ∨ x ∈ asked m s a := by
  cases a with
  | save call =>
    obtain rfl := Option.some.inj h
    exact ⟨hnodup, fun x => by simp [asked]⟩
  | count m' tenantID =>
    obtain rfl := Option.some.inj h
    dsimp only [asked]
    by_cases hm : m' = m
    · rw [hm, Function.update_self, if_pos rfl]
      simpa using labels_inc tenantID hnodup
    · rw [Function.update_of_ne (Ne.symm hm), if_neg hm]
      exact ⟨hnodup, fun x => by simp⟩
  | status tenantID =>
    obtain rfl := Option.some.inj h
    dsimp only [asked]
    unfold statusMetrics
    split
    · simpa [getCounterVecValue] using labels_withLabelValues tenantID hnodup
    · show (labels (getCounterVecSum s.db (s.counters m)).2).Nodup ∧ _
      unfold getCounterVecSum activeConfigs
      cases OrgConfigs.getActiveOrgConfigs s.db with
      | error e => exact ⟨hnodup, fun x => by simp⟩
      | ok reqs => exact labels_sumConfigs reqs 0 hnodup

/-- **Run**: and so it is after any steps. -/
theorem labels_exec (m : Metric) {s t : Server} {run : List Label} (h : exec step s run = some t)
    (hnodup : (labels (s.counters m)).Nodup) :
    (labels (t.counters m)).Nodup ∧
      ∀ x, x ∈ labels (t.counters m) ↔ x ∈ labels (s.counters m) ∨ x ∈ askedBy m s run := by
  induction run generalizing s with
  | nil =>
    obtain rfl := Option.some.inj h
    exact ⟨hnodup, fun x => by simp [askedBy]⟩
  | cons a run ih =>
    obtain ⟨s', hstep, hrest⟩ := exec_cons_eq_some.mp h
    obtain ⟨hnodup', hmem⟩ := labels_step m hstep hnodup
    obtain ⟨hnodup'', hmem'⟩ := ih hrest hnodup'
    refine ⟨hnodup'', fun x => ?_⟩
    rw [hmem', hmem, askedBy, hstep, List.mem_append, or_assoc]
    rfl

/-- There are as many labels as different tenants the run has asked for. -/
theorem length_counters (m : Metric) {run : List Label} {s : Server}
    (h : exec step init run = some s) :
    (s.counters m).length = (askedBy m init run).dedup.length := by
  obtain ⟨hnodup, hmem⟩ := labels_exec m h List.nodup_nil
  have hperm : (labels (s.counters m)).Perm (askedBy m init run).dedup := by
    refine (List.perm_ext_iff_of_nodup hnodup (List.nodup_dedup _)).mpr fun x => ?_
    rw [hmem, List.mem_dedup]
    exact or_iff_right List.not_mem_nil
  have hlength := hperm.length_eq
  rwa [labels, List.length_map] at hlength

/-! ## The law -/

theorem exec_total (run : List Label) (s : Server) : ∃ t, exec step s run = some t := by
  induction run generalizing s with
  | nil => exact ⟨s, rfl⟩
  | cons a run ih => cases a <;> exact ih _

/-- **`GetMetrics` completes exactly if no counter was asked for more than a thousand tenants**: after
    any saves, counts and requests. -/
theorem completes_iff (run : List Label) : ∃ s, exec step init run = some s ∧
    (∀ m, (s.counters m).length = (askedBy m init run).dedup.length) ∧
    (Completes s.counters ↔ ∀ m, (askedBy m init run).dedup.length ≤ 1000) := by
  obtain ⟨s, hs⟩ := exec_total run init
  refine ⟨s, hs, fun m => length_counters m hs, completes_iff_listed.trans ?_⟩
  refine forall_congr' fun m => ?_
  rw [length_counters m hs]
  rfl

/-! ## Requests -/

/-- The requests of a client that asks for these tenants. -/
def queries (tenantIDs : List String) : List Label := tenantIDs.map .status

theorem withLabelValues_of_not_mem {cv : CounterVec} {tenantID : String}
    (h : tenantID ∉ cv.map Prod.fst) : cv.withLabelValues tenantID = cv ++ [(tenantID, 0)] := by
  unfold CounterVec.withLabelValues
  induction cv with
  | nil => rfl
  | cons row cv ih =>
    rw [List.map_cons, List.mem_cons, not_or] at h
    rw [Table.upsert_cons, if_neg fun heq => h.1 heq.symm, ih h.2]
    rfl

/-- **Every request creates a label in every counter.** -/
theorem exec_queries {db : DB} {counters : Counters} {tenantIDs : List String}
    (hnodup : tenantIDs.Nodup) (hone : ∀ t ∈ tenantIDs, t ≠ "" ∧ t ≠ "all")
    (hnew : ∀ t ∈ tenantIDs, ∀ m, t ∉ (counters m).map Prod.fst) :
    exec step ⟨db, counters⟩ (queries tenantIDs) =
      some ⟨db, fun m => counters m ++ tenantIDs.map fun t => (t, 0)⟩ := by
  induction tenantIDs generalizing counters with
  | nil => simp [queries]
  | cons t tenantIDs ih =>
    obtain ⟨hfirst, hrest⟩ := List.nodup_cons.mp hnodup
    have hstep : step ⟨db, counters⟩ (.status t) =
        some ⟨db, fun m => counters m ++ [(t, 0)]⟩ := by
      have hlabels : (statusMetrics db t counters).2 = fun m => counters m ++ [(t, 0)] := by
        unfold statusMetrics
        rw [if_pos (hone t List.mem_cons_self)]
        funext m
        exact withLabelValues_of_not_mem (hnew t List.mem_cons_self m)
      rw [← hlabels]
      rfl
    refine exec_cons_eq_some.mpr ⟨_, hstep, ?_⟩
    have hlater : exec step ⟨db, fun m => counters m ++ [(t, 0)]⟩ (queries tenantIDs) =
        some ⟨db, fun m => counters m ++ [(t, 0)] ++ tenantIDs.map fun t => (t, 0)⟩ := ih hrest
      (fun t' ht' => hone t' (List.mem_cons_of_mem _ ht')) fun t' ht' m hmem => by
        rw [List.map_append, List.mem_append] at hmem
        rcases hmem with hold | hlast
        · exact hnew t' (List.mem_cons_of_mem _ ht') m hold
        · obtain rfl := List.mem_singleton.mp hlast
          exact hfirst ht'
    rw [show tenantIDs.map Label.status = queries tenantIDs from rfl, hlater]
    simp

/-! ### A thousand and one requests -/

/-- The tenant IDs `a`, `aa`, `aaa` and so on. -/
def names (n : Nat) : List String := (List.range n).map fun i => String.ofList (List.replicate (i + 1) 'a')

theorem nodup_names (n : Nat) : (names n).Nodup := by
  refine List.Nodup.map (fun i j h => ?_) List.nodup_range
  have hlists := congrArg String.toList h
  simp only [String.toList_ofList] at hlists
  have hlengths := congrArg List.length hlists
  simpa using hlengths

theorem names_ordinary {n : Nat} : ∀ t ∈ names n, t ≠ "" ∧ t ≠ "all" := by
  intro t ht
  obtain ⟨i, -, rfl⟩ := List.mem_map.mp ht
  constructor
  · intro h
    have hlists := congrArg String.toList h
    simp at hlists
  · intro h
    have hlists := congrArg String.toList h
    rw [String.toList_ofList] at hlists
    have hmem : 'l' ∈ List.replicate (i + 1) 'a' := by
      rw [hlists]
      decide
    exact absurd (List.eq_of_mem_replicate hmem) (by decide)

/-- The counters after requests for so many tenants. -/
def queried (n : Nat) : Counters := fun _ => (names n).map fun t => (t, 0)

theorem exec_names (n : Nat) : exec step init (queries (names n)) = some ⟨some [], queried n⟩ := by
  have hrun : exec step ⟨some [], fun _ => []⟩ (queries (names n)) = some ⟨some [], queried n⟩ :=
    exec_queries (nodup_names n) names_ordinary fun _ _ _ => List.not_mem_nil
  exact hrun

theorem length_queried (n : Nat) (m : Metric) : (queried n m).length = n := by simp [queried, names]

/-- A thousand and one requests lead to a state in which `GetMetrics` does not complete: in no order of
    the labels it returns anything. -/
theorem thousandAndOne_not_completes :
    exec step init (queries (names 1001)) = some ⟨some [], queried 1001⟩ ∧
      ¬ Completes (queried 1001) ∧
      ∀ orders, Collects (queried 1001) orders → ∀ vals, ¬ Returns orders vals := by
  refine ⟨exec_names 1001, fun h => ?_, fun orders horders vals h => ?_⟩
  · have hroom : (queried 1001 .deviceUplink).length ≤ 1000 := completes_iff_listed.mp h _
    rw [length_queried] at hroom
    omega
  · have hroom : (orders .deviceUplink).length ≤ 1000 := (returns_iff.mp h).1 _
    rw [(horders .deviceUplink).length_eq, length_queried] at hroom
    omega

end ChirpStackSimulator.Metrics
