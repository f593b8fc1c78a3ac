/-
  The performance chart of the dashboard (`dashboard.js`) at the counters of the server.

  Every two seconds, and whenever another organisation is chosen, the page asks for the status; it does
  not wait for the answer before it asks again.  Each answer adds a point to each of three lines, by how
  much the counter is above the one in the answer before, and drops the oldest point beyond twenty.  A
  start empties the lines.

  1. **Model** — requests under way, answered in any order; what they read of the counters is kept.
  2. **The lines** (`chart_history`) — in every state of every run they are the rises between the last
     answers, so they add up to at least what the counter gained between them.
  3. **Exactness** — to just that, if the organisation stays the same, its counters do not fall and no
     answer is overtaken.

  The labels are counted; what else the answer says is left out.  An answer without metrics is one that
  fails.
-/
import ChirpStackSimulator.Lib.Objects
import ChirpStackSimulator.Lib.Rises
import ChirpStackSimulator.Lib.Run

namespace ChirpStackSimulator.ChartHistory

open Transition Buffers Rises

/-! ## The chart -/

/-- The three lines. -/
inductive Kind where
  | uplinks
  | joinRequests
  | joinAccepts
  deriving DecidableEq

/-- The counters of an answer that the chart shows. -/
structure Metrics where
  deviceUplinkCount : ℕ
  deviceJoinRequestCount : ℕ
  deviceJoinAcceptCount : ℕ
  deriving DecidableEq

def Metrics.count (m : Metrics) : Kind → ℕ
  | .uplinks => m.deviceUplinkCount
  | .joinRequests => m.deviceJoinRequestCount
  | .joinAccepts => m.deviceJoinAcceptCount

/-- `chartDataHistory`, with the number of its labels. -/
structure Chart where
  labels : ℕ
  uplinks : List ℕ
  joinRequests : List ℕ
  joinAccepts : List ℕ
  deriving DecidableEq

def Chart.points (c : Chart) : Kind → List ℕ
  | .uplinks => c.uplinks
  | .joinRequests => c.joinRequests
  | .joinAccepts => c.joinAccepts

def maxHistoryPoints : ℕ := 20

/-- `initChart`. -/
def initChart : Chart :=
  let zeros := List.replicate maxHistoryPoints 0
  ⟨maxHistoryPoints, zeros, zeros, zeros⟩

/-- The new points are put at the end, and the oldest are dropped. -/
def Chart.push (c : Chart) (uplinkDelta joinReqDelta joinAccDelta : ℕ) : Chart :=
  let c : Chart :=
    ⟨c.labels + 1, c.uplinks ++ [uplinkDelta], c.joinRequests ++ [joinReqDelta],
      c.joinAccepts ++ [joinAccDelta]⟩
  if c.labels > maxHistoryPoints then
    ⟨c.labels - 1, c.uplinks.drop 1, c.joinRequests.drop 1, c.joinAccepts.drop 1⟩
  else c

/-- `fill(0)`. -/
def Chart.fill (c : Chart) : Chart :=
  { c with
    uplinks := c.uplinks.map fun _ => 0
    joinRequests := c.joinRequests.map fun _ => 0
    joinAccepts := c.joinAccepts.map fun _ => 0 }

/-- `Math.max(0, current - prev)`; nothing before the first answer. -/
def delta (prevMetrics : Option Metrics) (currentMetrics : Metrics) (kind : Kind) : ℕ :=
  match prevMetrics with
  | none => 0
  | some prev => currentMetrics.count kind - prev.count kind

/-! ## The model -/

/-- What the server read for a request: of which organisation, `none` for all of them, and what. -/
structure Reading where
  tenant : Option String
  metrics : Metrics
  deriving DecidableEq

/-- A request under way, with the place of its reading once it has been served. -/
structure Request where
  tenant : Option String
  reading : Option ℕ
  deriving DecidableEq

/-- The counters on the server, the page and its requests; for the history, what was read so far, and
    the readings the page took since the last start, with their places. -/
structure State where
  metrics : Option String → Metrics
  chartOrgSelect : Option String
  metricsChart : Option Chart
  prevMetrics : Option Metrics
  requests : List Request
  readings : List Reading
  taken : List (ℕ × Reading)

/-- The page when it has been loaded. -/
def init (metrics : Option String → Metrics) : State := ⟨metrics, none, none, none, [], [], []⟩

inductive Label where
  /-- The counters change. -/
  | metrics (metrics : Option String → Metrics)
  /-- The tab of the chart comes up. -/
  | initChart
  /-- The timer. -/
  | pollStatus
  /-- The change handler of the select. -/
  | chartOrgSelect (tenant : Option String)
  /-- The server reads the counters for the `i`-th request. -/
  | served (i : ℕ)
  | answered (i : ℕ)
  | failed (i : ℕ)
  /-- The start request has been accepted. -/
  | started

namespace State

/-- A request with the organisation of the select. -/
def pollStatus (s : State) : State :=
  { s with requests := s.requests ++ [⟨s.chartOrgSelect, none⟩] }

/-- What `pollStatus` does with the metrics of its answer. -/
def update (s : State) (currentMetrics : Metrics) : State :=
  { s with
    metricsChart := some ((s.metricsChart.getD initChart).push
      (delta s.prevMetrics currentMetrics .uplinks)
      (delta s.prevMetrics currentMetrics .joinRequests)
      (delta s.prevMetrics currentMetrics .joinAccepts))
    prevMetrics := some currentMetrics }

end State

def step (s : State) : Label → Option State
  | .metrics metrics => some { s with metrics }
  | .initChart => some { s with metricsChart := some (s.metricsChart.getD initChart) }
  | .pollStatus => some s.pollStatus
  | .chartOrgSelect tenant => some { s with chartOrgSelect := tenant }.pollStatus
  | .served i =>
    match s.requests[i]? with
    | some ⟨tenant, none⟩ =>
      some { s with
        requests := s.requests.set i ⟨tenant, some s.readings.length⟩
        readings := s.readings ++ [⟨tenant, s.metrics tenant⟩] }
    | _ => none
  | .answered i =>
    match s.requests[i]? with
    | some ⟨_, some k⟩ =>
      s.readings[k]?.map fun r =>
        { s with
          requests := s.requests.eraseIdx i
          taken := s.taken ++ [(k, r)] }.update r.metrics
    | _ => none
  | .failed i =>
    if i < s.requests.length then some { s with requests := s.requests.eraseIdx i } else none
  | .started =>
    some { s with
      prevMetrics := none
      metricsChart := s.metricsChart.map Chart.fill
      taken := [] }

/-- What a step can do, with its guards. -/
inductive Steps (s : State) : Label → State → Prop where
  | metrics (metrics : Option String → Metrics) : Steps s (.metrics metrics) { s with metrics }
  | initChart : Steps s .initChart { s with metricsChart := some (s.metricsChart.getD initChart) }
  | pollStatus : Steps s .pollStatus s.pollStatus
  | chartOrgSelect (tenant : Option String) :
    Steps s (.chartOrgSelect tenant) { s with chartOrgSelect := tenant }.pollStatus
  | served (i : ℕ) (tenant : Option String) (hrequest : s.requests[i]? = some ⟨tenant, none⟩) :
    Steps s (.served i)
      { s with
        requests := s.requests.set i ⟨tenant, some s.readings.length⟩
        readings := s.readings ++ [⟨tenant, s.metrics tenant⟩] }
  | answered (i k : ℕ) (tenant : Option String) (r : Reading)
      (hrequest : s.requests[i]? = some ⟨tenant, some k⟩) (hreading : s.readings[k]? = some r) :
    Steps s (.answered i)
      ({ s with
        requests := s.requests.eraseIdx i
        taken := s.taken ++ [(k, r)] }.update r.metrics)
  | failed (i : ℕ) : Steps s (.failed i) { s with requests := s.requests.eraseIdx i }
  | started :
    Steps s .started
      { s with
        prevMetrics := none
        metricsChart := s.metricsChart.map Chart.fill
        taken := [] }

/-- **What a step can do.** -/
theorem step_cases {s t : State} {a : Label} (h : step s a = some t) : Steps s a t := by
  cases a with
  | metrics metrics =>
    obtain rfl := Option.some.inj h
    exact .metrics metrics
  | initChart =>
    obtain rfl := Option.some.inj h
    exact .initChart
  | pollStatus =>
    obtain rfl := Option.some.inj h
    exact .pollStatus
  | chartOrgSelect tenant =>
    obtain rfl := Option.some.inj h
    exact .chartOrgSelect tenant
  | served i =>
    simp only [step] at h
    split at h
    · rename_i tenant hrequest
      obtain rfl := Option.some.inj h
      exact .served i tenant hrequest
    · cases h
  | answered i =>
    simp only [step] at h
    split at h
    · rename_i tenant k hrequest
      obtain ⟨r, hreading, rfl⟩ := Option.map_eq_some_iff.mp h
      exact .answered i k tenant r hrequest hreading
    · cases h
  | failed i =>
    rw [step, Option.ite_none_right_eq_some] at h
    obtain rfl := Option.some.inj h.2
    exact .failed i
  | started =>
    obtain rfl := Option.some.inj h
    exact .started

/-! ## The lines -/

/-- The values of a counter in the answers since the last start. -/
def State.samples (s : State) (kind : Kind) : List ℕ := s.taken.map fun p => p.2.metrics.count kind

/-- A line with these values. -/
def line (samples : List ℕ) : List ℕ :=
  last maxHistoryPoints (List.replicate maxHistoryPoints 0 ++ rises samples)

theorem length_line (samples : List ℕ) : (line samples).length = maxHistoryPoints := by
  rw [line, length_last, List.length_append, List.length_replicate]
  omega

/-- The point of a further value. -/
theorem line_concat (samples : List ℕ) (x : ℕ) :
    (line samples ++ [match samples.getLast? with
      | none => 0
      | some prev => x - prev]).drop 1 = line (samples ++ [x]) := by
  have hfull := length_line samples
  have hpos : 0 < maxHistoryPoints := by decide
  have hdrop : ∀ d : ℕ, (line samples ++ [d]).drop 1 =
      last maxHistoryPoints (List.replicate maxHistoryPoints 0 ++ rises samples ++ [d]) := by
    intro d
    rw [last_concat hpos, ← line, if_pos (by omega), List.drop_append_of_le_length (by omega),
      List.drop_one]
  rw [hdrop]
  cases hlast : samples.getLast? with
  | none =>
    rw [List.getLast?_eq_none_iff] at hlast
    rw [hlast]
    rfl
  | some prev =>
    obtain ⟨front, rfl⟩ := List.getLast?_eq_some_iff.mp hlast
    rw [line, rises_concat, List.append_assoc]

/-- The chart shows the answers since the last start. -/
structure Lines (s : State) : Prop where
  prevMetrics : s.prevMetrics = (s.taken.map fun p => p.2.metrics).getLast?
  labels : ∀ c, s.metricsChart = some c → c.labels = maxHistoryPoints
  points : ∀ c, s.metricsChart = some c → ∀ kind, c.points kind = line (s.samples kind)
  started : s.metricsChart = none → s.taken = []

theorem lines_init (metrics : Option String → Metrics) : Lines (init metrics) where
  prevMetrics := rfl
  labels c hc := by cases hc
  points c hc := by cases hc
  started _ := rfl

theorem initChart_points (kind : Kind) : initChart.points kind = line [] := by
  cases kind <;> rfl

/-- The chart of a state, or the new one, shows its answers. -/
theorem Lines.chart {s : State} (h : Lines s) :
    (s.metricsChart.getD initChart).labels = maxHistoryPoints ∧
      ∀ kind, (s.metricsChart.getD initChart).points kind = line (s.samples kind) := by
  cases hchart : s.metricsChart with
  | none =>
    refine ⟨rfl, fun kind => ?_⟩
    rw [State.samples, h.started hchart]
    exact initChart_points kind
  | some c => exact ⟨h.labels c hchart, h.points c hchart⟩

theorem push_points {c : Chart} (h : c.labels = maxHistoryPoints) (d : Kind → ℕ) :
    (c.push (d .uplinks) (d .joinRequests) (d .joinAccepts)).labels = maxHistoryPoints ∧
      ∀ kind, (c.push (d .uplinks) (d .joinRequests) (d .joinAccepts)).points kind =
        (c.points kind ++ [d kind]).drop 1 := by
  have hmore : c.labels + 1 > maxHistoryPoints := by omega
  unfold Chart.push
  dsimp only
  rw [if_pos hmore]
  refine ⟨h, fun kind => ?_⟩
  cases kind <;> rfl

/-- An answer. -/
theorem Lines.update {s : State} (h : Lines s) (k : ℕ) (r : Reading) (requests : List Request) :
    Lines ({ s with requests := requests, taken := s.taken ++ [(k, r)] }.update r.metrics) := by
  obtain ⟨hlabels, hpoints⟩ := h.chart
  have hpush := push_points hlabels (delta s.prevMetrics r.metrics)
  refine ⟨?_, fun c hc => ?_, fun c hc kind => ?_, fun hnone => nomatch hnone⟩
  · show some r.metrics = ((s.taken ++ [(k, r)]).map fun p => p.2.metrics).getLast?
    simp
  · obtain rfl := Option.some.inj hc
    exact hpush.1
  · obtain rfl := Option.some.inj hc
    have hsamples : (s.taken ++ [(k, r)]).map (fun p => p.2.metrics.count kind) =
        s.samples kind ++ [r.metrics.count kind] := by simp [State.samples]
    show _ = line ((s.taken ++ [(k, r)]).map fun p => p.2.metrics.count kind)
    rw [hsamples, ← line_concat, ← hpoints kind]
    have hdelta : delta s.prevMetrics r.metrics kind = match (s.samples kind).getLast? with
        | none => 0
        | some prev => r.metrics.count kind - prev := by
      rw [h.prevMetrics, State.samples, List.getLast?_map, List.getLast?_map]
      cases s.taken.getLast? <;> rfl
    rw [← hdelta]
    exact hpush.2 kind

theorem Lines.step {s t : State} {a : Label} (h : Lines s) (hs : step s a = some t) : Lines t := by
  cases step_cases hs with
  | metrics metrics => exact ⟨h.prevMetrics, h.labels, h.points, h.started⟩
  | initChart =>
    obtain ⟨hlabels, hpoints⟩ := h.chart
    refine ⟨h.prevMetrics, fun c hc => ?_, fun c hc => ?_, fun hnone => nomatch hnone⟩
    · obtain rfl := Option.some.inj hc
      exact hlabels
    · obtain rfl := Option.some.inj hc
      exact hpoints
  | pollStatus => exact ⟨h.prevMetrics, h.labels, h.points, h.started⟩
  | chartOrgSelect tenant => exact ⟨h.prevMetrics, h.labels, h.points, h.started⟩
  | served i tenant hrequest => exact ⟨h.prevMetrics, h.labels, h.points, h.started⟩
  | answered i k tenant r hrequest hreading => exact h.update k r (s.requests.eraseIdx i)
  | failed i => exact ⟨h.prevMetrics, h.labels, h.points, h.started⟩
  | started =>
    refine ⟨rfl, fun c hc => ?_, fun c hc kind => ?_, fun _ => rfl⟩
    · obtain ⟨old, hold, rfl⟩ := Option.map_eq_some_iff.mp hc
      exact h.labels old hold
    · obtain ⟨old, hold, rfl⟩ := Option.map_eq_some_iff.mp hc
      have hlength : (old.points kind).length = maxHistoryPoints := by
        rw [h.points old hold kind, length_line]
      have hfill : old.fill.points kind = (old.points kind).map fun _ => 0 := by cases kind <;> rfl
      rw [hfill, List.map_const', hlength]
      rfl

/-! ## Exactness -/

/-- A step after which the lines are still exact: the organisation stays the same, its counters do not
    fall, and no answer comes that was read before one that has been taken. -/
def Steady (s : State) : Label → Prop
  | .metrics metrics =>
    ∀ kind, (s.metrics s.chartOrgSelect).count kind ≤ (metrics s.chartOrgSelect).count kind
  | .chartOrgSelect tenant => tenant = s.chartOrgSelect
  | .answered i => ∀ tenant k, s.requests[i]? = some ⟨tenant, some k⟩ → ∀ p ∈ s.taken, p.1 ≤ k
  | _ => True

/-- What holds if every step was such a step. -/
structure InOrder (s : State) : Prop where
  requests : ∀ r ∈ s.requests, r.tenant = s.chartOrgSelect
  rising : s.readings.Pairwise fun x y => ∀ kind, x.metrics.count kind ≤ y.metrics.count kind
  below : ∀ x ∈ s.readings, ∀ kind, x.metrics.count kind ≤ (s.metrics s.chartOrgSelect).count kind
  places : ∀ p ∈ s.taken, s.readings[p.1]? = some p.2
  order : s.taken.Pairwise fun p q => p.1 ≤ q.1

theorem inOrder_init (metrics : Option String → Metrics) : InOrder (init metrics) where
  requests r hr := by cases hr
  rising := List.Pairwise.nil
  below x hx := by cases hx
  places p hp := by cases hp
  order := List.Pairwise.nil

theorem InOrder.pollStatus {s : State} (h : InOrder s) : InOrder s.pollStatus := by
  refine ⟨fun r hr => ?_, h.rising, h.below, h.places, h.order⟩
  rcases List.mem_append.mp hr with hold | hnew
  · exact h.requests r hold
  · rw [List.mem_singleton.mp hnew]
    rfl

theorem InOrder.step {s t : State} {a : Label} (h : InOrder s) (ha : Steady s a)
    (hs : step s a = some t) : InOrder t := by
  cases step_cases hs with
  | metrics metrics =>
    exact ⟨h.requests, h.rising, fun x hx kind => Nat.le_trans (h.below x hx kind) (ha kind),
      h.places, h.order⟩
  | initChart => exact ⟨h.requests, h.rising, h.below, h.places, h.order⟩
  | pollStatus => exact h.pollStatus
  | chartOrgSelect tenant =>
    obtain rfl : tenant = s.chartOrgSelect := ha
    exact h.pollStatus
  | served i tenant hrequest =>
    have htenant : tenant = s.chartOrgSelect := h.requests _ (List.mem_of_getElem? hrequest)
    refine ⟨fun r hr => ?_, ?_, fun x hx kind => ?_, fun p hp => ?_, h.order⟩
    · rcases List.mem_or_eq_of_mem_set hr with hold | rfl
      · exact h.requests r hold
      · exact htenant
    · refine List.pairwise_append.mpr ⟨h.rising, List.pairwise_singleton _ _, fun x hx y hy => ?_⟩
      rw [List.mem_singleton.mp hy, htenant]
      exact h.below x hx
    · rcases List.mem_append.mp hx with hold | hnew
      · exact h.below x hold kind
      · rw [List.mem_singleton.mp hnew, htenant]
    · exact Objects.append_kept (h.places p hp) _
  | answered i k tenant r hrequest hreading =>
    refine ⟨fun x hx => h.requests x (List.mem_of_mem_eraseIdx hx), h.rising, h.below,
      fun p hp => ?_, ?_⟩
    · rcases List.mem_append.mp hp with hold | hnew
      · exact h.places p hold
      · rw [List.mem_singleton.mp hnew]
        exact hreading
    · refine List.pairwise_append.mpr ⟨h.order, List.pairwise_singleton _ _, fun p hp q hq => ?_⟩
      rw [List.mem_singleton.mp hq]
      exact ha tenant k hrequest p hp
  | failed i =>
    exact ⟨fun x hx => h.requests x (List.mem_of_mem_eraseIdx hx), h.rising, h.below, h.places,
      h.order⟩
  | started =>
    exact ⟨h.requests, h.rising, h.below, fun p hp => (nomatch hp), List.Pairwise.nil⟩

/-- Readings in the order of their places are in the order of their counters. -/
theorem InOrder.samples {s : State} (h : InOrder s) (kind : Kind) :
    (s.samples kind).Pairwise (· ≤ ·) := by
  refine List.pairwise_map.mpr (h.order.imp_of_mem fun {p q} hp hq hpq => ?_)
  have hpPlace := h.places p hp
  have hqPlace := h.places q hq
  rcases Nat.eq_or_lt_of_le hpq with heq | hlt
  · rw [heq, hqPlace] at hpPlace
    rw [Option.some.inj hpPlace]
  · obtain ⟨hplt, hpget⟩ := List.getElem?_eq_some_iff.mp hpPlace
    obtain ⟨hqlt, hqget⟩ := List.getElem?_eq_some_iff.mp hqPlace
    have hle := List.pairwise_iff_getElem.mp h.rising p.1 q.1 hplt hqlt hlt kind
    rwa [hpget, hqget] at hle

/-! ## The law -/

/-- The points of a line add up to the rises of its newest values. -/
theorem sum_line (samples : List ℕ) :
    (line samples).sum = (rises (last (maxHistoryPoints + 1) samples)).sum := by
  rw [line, sum_last_replicate_append, last_rises]

/-- **The chart**: whatever is asked, answered and restarted in whatever order, each line has twenty
    points, which are the rises between the last twenty-one answers since the start.  Added to the oldest
    of these answers they reach the newest, or more; and exactly the newest if the organisation stayed
    the same, its counters did not fall and no answer was overtaken. -/
theorem chart_history {metrics : Option String → Metrics} {as : List Label} {s : State} {c : Chart}
    (h : exec step (init metrics) as = some s) (hc : s.metricsChart = some c) :
    c.labels = maxHistoryPoints ∧
      ∀ kind, (c.points kind).length = maxHistoryPoints ∧
        c.points kind = line (s.samples kind) ∧
          ∀ x xs, last (maxHistoryPoints + 1) (s.samples kind) = x :: xs →
            (x :: xs).getLast (List.cons_ne_nil x xs) ≤ x + (c.points kind).sum ∧
              (Always step Steady (init metrics) as →
                x + (c.points kind).sum = (x :: xs).getLast (List.cons_ne_nil x xs)) := by
  have hlines : Lines s := exec_invariant (fun _ _ _ hinv hs => hinv.step hs) (lines_init metrics) h
  refine ⟨hlines.labels c hc, fun kind => ?_⟩
  have hpoints := hlines.points c hc kind
  refine ⟨by rw [hpoints, length_line], hpoints, fun x xs hlast => ?_⟩
  rw [hpoints, sum_line, hlast]
  refine ⟨getLast_le_add_sum_rises x xs, fun hsteady => (add_sum_rises_eq_iff x xs).mpr ?_⟩
  have horder : InOrder s :=
    exec_invariant_of_always (fun _ _ _ hinv ha hs => hinv.step ha hs) (inOrder_init metrics) hsteady h
  rw [← hlast]
  have hdrop : (last (maxHistoryPoints + 1) (s.samples kind)).Pairwise (· ≤ ·) :=
    (horder.samples kind).sublist (List.drop_sublist _ _)
  exact hdrop.isChain

/-- Two answers, between which five uplinks were counted. -/
def exampleRun : List Label :=
  [.pollStatus, .served 0, .answered 0, .metrics fun _ => ⟨5, 1, 1⟩, .pollStatus, .served 0,
    .answered 0]

theorem chart_history_fiveUplinks :
    ∃ s c, exec step (init fun _ => ⟨0, 0, 0⟩) exampleRun = some s ∧ s.metricsChart = some c ∧
      last (maxHistoryPoints + 1) (s.samples .uplinks) = [0, 5] ∧
        0 + (c.points .uplinks).sum = 5 := by
  have hsteady : Always step Steady (init fun _ => ⟨0, 0, 0⟩) exampleRun := by
    refine ⟨trivial, fun t ht => ?_⟩
    obtain rfl := Option.some.inj ht
    refine ⟨trivial, fun t ht => ?_⟩
    obtain rfl := Option.some.inj ht
    refine ⟨fun _ _ _ p hp => (nomatch hp), fun t ht => ?_⟩
    obtain rfl := Option.some.inj ht
    refine ⟨fun kind => by cases kind <;> decide, fun t ht => ?_⟩
    obtain rfl := Option.some.inj ht
    refine ⟨trivial, fun t ht => ?_⟩
    obtain rfl := Option.some.inj ht
    refine ⟨trivial, fun t ht => ?_⟩
    obtain rfl := Option.some.inj ht
    refine ⟨fun tenant k hrequest p hp => ?_, fun t ht => trivial⟩
    rw [List.mem_singleton.mp hp]
    exact Nat.zero_le k
  exact ⟨_, _, rfl, rfl, rfl,
    ((@chart_history (fun _ => ⟨0, 0, 0⟩) exampleRun _ _ rfl rfl).2 .uplinks).2.2 0 [5] rfl |>.2
      hsteady⟩

end ChirpStackSimulator.ChartHistory
