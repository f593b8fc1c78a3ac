/-
  Topology syncs (`doSync`, `handleDismissChanges`).

  A sync takes its snapshot without the lock and compares it with the last one under the lock.  Any
  number of syncs can be between the two: the ticker's, a manual one, one of a poller that was stopped
  meanwhile.

  1. **System** — the sync state, the snapshots taken and not yet compared, and the past: what every
     snapshot was taken of, what was installed, broadcast and detected.
  2. **Order** (`serialisable_of_orderly`) — if snapshots are compared in the order they were taken in
     and no listing is cut off, a change that lasts is broadcast exactly once.
  3. **Memory** (`remembered_iff`) — the summary holds every change since the last dismissal exactly if
     no sync finds a change while earlier ones are not dismissed.
  4. **Failures** (`silent_iff`) — an unchanged topology is never reported as changed exactly if
     snapshots compared with one another see the same of it.
-/
import ChirpStackSimulator.Lib.Changes
import ChirpStackSimulator.Lib.Objects
import ChirpStackSimulator.Lib.Run
import ChirpStackSimulator.SnapshotDiff

namespace ChirpStackSimulator.PassiveSync

open Transition Changes

/-! ## The system -/

/-- `PassiveSyncState`, as far as the syncs use it. -/
structure SyncState where
  lastSnapshot : Option TopologySnapshot
  lastSyncAt : Option Nat
  pendingChanges : Bool
  changesSummary : List String

structure System where
  state : SyncState
  /-- Taken and not yet compared. -/
  inFlight : List TopologySnapshot
  /-- What the snapshots were taken of, and which calls failed; `takenAt` is the index. -/
  taken : List (Topology × Failures)
  /-- The values of `lastSnapshot`, oldest first. -/
  installed : List TopologySnapshot
  /-- The comparisons that were broadcast. -/
  broadcasts : List (TopologySnapshot × TopologySnapshot)
  /-- The entries detected since the last dismissal. -/
  detected : List String

def start : System := ⟨⟨none, none, false, []⟩, [], [], [], [], []⟩

inductive Label where
  /-- The unlocked half of a `doSync`. -/
  | take (connected : Bool) (t : Topology) (f : Failures)
  /-- The locked half, for the `i`-th snapshot in flight. -/
  | compare (i : Nat) (now : Nat)
  /-- `handleDismissChanges`. -/
  | dismiss (post : Bool)

/-- The locked half of `doSync`: the state and the changes it detects. -/
def SyncState.compare (s : SyncState) (snap : TopologySnapshot) (now : Nat) :
    SyncState × List String :=
  match s.lastSnapshot with
  -- the first snapshot is compared with nothing
  | none => ({ s with lastSyncAt := some now, lastSnapshot := some snap }, [])
  | some last =>
    let changes := compareSnapshots last snap
    let s := { s with lastSyncAt := some now, lastSnapshot := some snap }
    if changes.length > 0 then
      ({ s with pendingChanges := true, changesSummary := changes }, changes)
    else (s, [])

/-- The locked half of `doSync` for the snapshot `snap`. -/
def System.compare (s : System) (snap : TopologySnapshot) (now : Nat) : System :=
  let o := s.state.compare snap now
  { s with
    state := o.1
    installed := s.installed ++ [snap]
    broadcasts := s.broadcasts ++
      if o.2 = [] then [] else s.state.lastSnapshot.toList.map fun last => (last, snap)
    detected := s.detected ++ o.2 }

def step (s : System) : Label → Option System
  | .take connected t f =>
    -- without a connection or without the tenants the sync ends with an error
    if connected = false then some s else
    match takeSnapshot t f s.taken.length with
    | .error _ => some s
    | .ok snap => some { s with inFlight := s.inFlight ++ [snap], taken := s.taken ++ [(t, f)] }
  | .compare i now =>
    match s.inFlight[i]? with
    | none => none
    | some snap => some ({ s with inFlight := s.inFlight.eraseIdx i }.compare snap now)
  | .dismiss post =>
    if post then
      some { s with
        state := { s.state with pendingChanges := false, changesSummary := [] }
        detected := [] }
    else some s

/-! ## What a step can do -/

/-- What a step can do: nothing, take a snapshot, compare one, or dismiss the changes. -/
theorem step_cases {s s' : System} {a : Label} (h : step s a = some s') :
    s' = s ∧ (∀ i now, a ≠ .compare i now) ∨
    (∃ connected t f snap, a = .take connected t f ∧ takeSnapshot t f s.taken.length = .ok snap ∧
      s' = { s with inFlight := s.inFlight ++ [snap], taken := s.taken ++ [(t, f)] }) ∨
    (∃ i now snap, a = .compare i now ∧ s.inFlight[i]? = some snap ∧
      s' = { s with inFlight := s.inFlight.eraseIdx i }.compare snap now) ∨
    (a = .dismiss true ∧
      s' = { s with
        state := { s.state with pendingChanges := false, changesSummary := [] }
        detected := [] }) := by
  cases a with
  | take connected t f =>
    simp only [step] at h
    split at h
    · exact Or.inl ⟨(Option.some.inj h).symm, by simp⟩
    · split at h
      · exact Or.inl ⟨(Option.some.inj h).symm, by simp⟩
      · rename_i snap hsnap
        exact Or.inr (Or.inl ⟨connected, t, f, snap, rfl, hsnap, (Option.some.inj h).symm⟩)
  | compare i now =>
    simp only [step] at h
    split at h
    · exact absurd h (by simp)
    · rename_i snap hsnap
      exact Or.inr (Or.inr (Or.inl ⟨i, now, snap, rfl, hsnap, (Option.some.inj h).symm⟩))
  | dismiss post =>
    simp only [step] at h
    split at h
    · rename_i hpost
      subst hpost
      exact Or.inr (Or.inr (Or.inr ⟨rfl, (Option.some.inj h).symm⟩))
    · exact Or.inl ⟨(Option.some.inj h).symm, by simp⟩

/-- What a comparison detects: nothing the first time, then what the two snapshots tell. -/
theorem compare_detects (s : SyncState) (snap : TopologySnapshot) (now : Nat) :
    (s.compare snap now).2 = s.lastSnapshot.toList.flatMap fun last => compareSnapshots last snap := by
  unfold SyncState.compare
  cases s.lastSnapshot with
  | none => rfl
  | some last =>
    by_cases h : compareSnapshots last snap = []
    · simp [h]
    · simp [List.length_pos_iff.mpr h]

/-- What a comparison leaves in the state. -/
theorem compare_state (s : SyncState) (snap : TopologySnapshot) (now : Nat) :
    (s.compare snap now).1 =
      { lastSnapshot := some snap
        lastSyncAt := some now
        pendingChanges := s.pendingChanges || !(s.compare snap now).2.isEmpty
        changesSummary :=
          if (s.compare snap now).2 = [] then s.changesSummary else (s.compare snap now).2 } := by
  unfold SyncState.compare
  cases s.lastSnapshot with
  | none => simp
  | some last =>
    by_cases h : compareSnapshots last snap = []
    · simp [h]
    · simp [List.length_pos_iff.mpr h, h]

/-- The state and the past agree. -/
structure Consistent (s : System) : Prop where
  lastSnapshot : s.state.lastSnapshot = s.installed.getLast?
  broadcasts : s.broadcasts = (pairs s.installed).filter fun c => compareSnapshots c.1 c.2 ≠ []
  known : ∀ snap, snap ∈ s.inFlight ∨ snap ∈ s.installed →
    ∃ t f, s.taken[snap.takenAt]? = some (t, f) ∧ takeSnapshot t f snap.takenAt = .ok snap

theorem consistent_start : Consistent start := ⟨rfl, rfl, by simp [start]⟩

/-- What a comparison broadcasts. -/
theorem broadcasts_compare {s : System} (hs : Consistent s) (snap : TopologySnapshot) (now : Nat) :
    (s.compare snap now).broadcasts = s.broadcasts ++
      (s.installed.getLast?.toList.map fun last => (last, snap)).filter
        fun c => compareSnapshots c.1 c.2 ≠ [] := by
  have hdetects := compare_detects s.state snap now
  rw [hs.lastSnapshot] at hdetects
  simp only [System.compare]
  rw [hdetects, hs.lastSnapshot]
  congr 1
  cases s.installed.getLast? with
  | none => rfl
  | some last =>
    by_cases h : compareSnapshots last snap = [] <;> simp [h]

theorem consistent_step (s : System) (a : Label) (s' : System) (hs : Consistent s)
    (h : step s a = some s') : Consistent s' := by
  rcases step_cases h with ⟨rfl, -⟩ | ⟨connected, t, f, snap, -, hsnap, rfl⟩ |
    ⟨i, now, snap, -, hi, rfl⟩ | ⟨-, rfl⟩
  · exact hs
  · refine ⟨hs.lastSnapshot, hs.broadcasts, fun snap' hmem => ?_⟩
    have hold : snap' ∈ s.inFlight ∨ snap' ∈ s.installed →
        ∃ t' f', (s.taken ++ [(t, f)])[snap'.takenAt]? = some (t', f') ∧
          takeSnapshot t' f' snap'.takenAt = .ok snap' := by
      intro hold
      obtain ⟨t', f', hget, htake⟩ := hs.known snap' hold
      exact ⟨t', f', Objects.append_kept hget _, htake⟩
    rcases hmem with hmem | hmem
    · rcases List.mem_append.mp hmem with hmem | hmem
      · exact hold (Or.inl hmem)
      · -- the new snapshot is stamped with its index
        obtain rfl := List.mem_singleton.mp hmem
        have hstamp := takenAt_takeSnapshot hsnap
        exact ⟨t, f, by rw [hstamp]; simp, by rw [hstamp]; exact hsnap⟩
    · exact hold (Or.inr hmem)
  · have hmemi : snap ∈ s.inFlight := List.mem_of_getElem? hi
    have hs' : Consistent { s with inFlight := s.inFlight.eraseIdx i } :=
      ⟨hs.lastSnapshot, hs.broadcasts, fun snap' hmem =>
        hs.known snap' (hmem.imp_left fun h => List.mem_of_mem_eraseIdx h)⟩
    refine ⟨?_, ?_, fun snap' hmem => ?_⟩
    · show ((s.state.compare snap now).1).lastSnapshot = (s.installed ++ [snap]).getLast?
      rw [compare_state]
      simp
    · rw [broadcasts_compare hs']
      show _ = (pairs (s.installed ++ [snap])).filter _
      rw [pairs_append_singleton, List.filter_append, hs'.broadcasts]
    · rcases hmem with hmem | hmem
      · exact hs.known snap' (Or.inl (List.mem_of_mem_eraseIdx hmem))
      · have hmem' : snap' ∈ s.installed ++ [snap] := hmem
        rcases List.mem_append.mp hmem' with hmem | hmem
        · exact hs.known snap' (Or.inr hmem)
        · obtain rfl := List.mem_singleton.mp hmem
          exact hs.known snap' (Or.inl hmemi)
  · exact ⟨hs.lastSnapshot, hs.broadcasts, hs.known⟩

/-! ## Order -/

/-- The entity exists. -/
def Topology.Has (t : Topology) : Kind → String → Prop
  | .tenant, id => id ∈ t.tenants
  | .gateway, id => ∃ tenant ∈ t.tenants, id ∈ t.gateways tenant
  | .deviceProfile, id => ∃ tenant ∈ t.tenants, id ∈ t.deviceProfiles tenant
  | .application, id => ∃ tenant ∈ t.tenants, id ∈ t.applications tenant
  | .device, id => ∃ tenant ∈ t.tenants, ∃ app ∈ t.applications tenant, id ∈ t.devices app

/-- No listing is cut off: there are at most 200 tenants, and at most 1000 entities of a kind below
    each tenant and application. -/
structure Topology.Fits (t : Topology) : Prop where
  tenants : t.tenants.length ≤ 200
  gateways : ∀ tenant ∈ t.tenants, (t.gateways tenant).length ≤ 1000
  deviceProfiles : ∀ tenant ∈ t.tenants, (t.deviceProfiles tenant).length ≤ 1000
  applications : ∀ tenant ∈ t.tenants, (t.applications tenant).length ≤ 1000
  devices : ∀ tenant ∈ t.tenants, ∀ app ∈ t.applications tenant, (t.devices app).length ≤ 1000

/-- Of a topology that fits a snapshot without failures sees everything. -/
theorem Topology.Fits.seen_iff {t : Topology} (ht : t.Fits) (k : Kind) (id : String) :
    t.Seen .none k id ↔ t.Has k id := by
  have htenants : t.tenants.take 200 = t.tenants := List.take_of_length_le ht.tenants
  have hbelow : ∀ {below : String → List String} {parent : String}, (below parent).length ≤ 1000 →
      (ListedBelow (fun _ => .none) below parent id ↔ id ∈ below parent) := by
    intro below parent hlen
    rw [ListedBelow, List.take_of_length_le hlen]
    simp
  cases k with
  | tenant => simp only [Topology.Seen, Topology.Has, htenants]
  | gateway =>
    simp only [Topology.Seen, Topology.Has, htenants, Failures.none]
    exact exists_congr fun tenant => and_congr_right fun h => hbelow (ht.gateways tenant h)
  | deviceProfile =>
    simp only [Topology.Seen, Topology.Has, htenants, Failures.none]
    exact exists_congr fun tenant => and_congr_right fun h => hbelow (ht.deviceProfiles tenant h)
  | application =>
    simp only [Topology.Seen, Topology.Has, htenants, Failures.none]
    exact exists_congr fun tenant => and_congr_right fun h => hbelow (ht.applications tenant h)
  | device =>
    simp only [Topology.Seen, Topology.Has, htenants, Failures.none]
    constructor
    · rintro ⟨app, ⟨tenant, htenant, -, happ⟩, hid⟩
      have happ' : app ∈ t.applications tenant := List.mem_of_mem_take happ
      exact ⟨tenant, htenant, app, happ', (hbelow (ht.devices tenant htenant app happ')).mp hid⟩
    · rintro ⟨tenant, htenant, app, happ, hid⟩
      refine ⟨app, ⟨tenant, htenant, rfl, ?_⟩, (hbelow (ht.devices tenant htenant app happ)).mpr hid⟩
      rwa [List.take_of_length_le (ht.applications tenant htenant)]

/-- A change of `p` lasts: `p` is false of the topology at every snapshot from the `a`-th up to the
    `m`-th and true from then up to the `b`-th, and a sync of either stretch has been completed. -/
structure System.Lasts (s : System) (p : Topology → Prop) (a m b : Nat) : Prop where
  before : ∀ i t f, s.taken[i]? = some (t, f) → a ≤ i → i < m → ¬ p t
  after : ∀ i t f, s.taken[i]? = some (t, f) → m ≤ i → i < b → p t
  seenBefore : ∃ snap ∈ s.installed, a ≤ snap.takenAt ∧ snap.takenAt < m
  seenAfter : ∃ snap ∈ s.installed, m ≤ snap.takenAt ∧ snap.takenAt < b

/-- How many broadcasts of syncs taken from the `m`-th snapshot up to the `b`-th report that the
    entity came. -/
def System.reportsAdded (s : System) (k : Kind) (id : String) (m b : Nat) : Nat :=
  s.broadcasts.countP fun c => decide (m ≤ c.2.takenAt ∧ c.2.takenAt < b ∧
    id ∈ fresh (c.1.ids k) (c.2.ids k))

/-- How many of them report that it went. -/
def System.reportsRemoved (s : System) (k : Kind) (id : String) (m b : Nat) : Nat :=
  s.broadcasts.countP fun c => decide (m ≤ c.2.takenAt ∧ c.2.takenAt < b ∧
    id ∈ fresh (c.2.ids k) (c.1.ids k))

/-- **The syncs are serialisable**: the last snapshot is never replaced by one taken earlier, and
    each addition and each removal that lasts is reported in exactly one broadcast. -/
structure Serialisable (s : System) : Prop where
  inOrder : (s.installed.map (·.takenAt)).Pairwise (· < ·)
  added : ∀ k id a m b, s.Lasts (fun t => t.Has k id) a m b → s.reportsAdded k id m b = 1
  removed : ∀ k id a m b, s.Lasts (fun t => ¬ t.Has k id) a m b → s.reportsRemoved k id m b = 1

/-- Snapshots are taken of topologies that fit, and a snapshot is compared before any that was taken
    later. -/
def Orderly (s : System) : Label → Prop
  | .take _ t _ => t.Fits
  | .compare i _ => ∀ snap ∈ s.inFlight[i]?, ∀ t ∈ s.installed, t.takenAt < snap.takenAt
  | .dismiss _ => True

/-- The sync has no failing list call. -/
def Label.Succeeds : Label → Prop
  | .take _ _ f => f = .none
  | _ => True

/-- The snapshots were taken in order, of topologies that fit, without failures. -/
structure InOrder (s : System) : Prop where
  sorted : (s.installed.map (·.takenAt)).Pairwise (· < ·)
  complete : ∀ (i : Nat) t f, s.taken[i]? = some (t, f) → t.Fits ∧ f = .none

theorem inOrder_step (s : System) (a : Label) (s' : System) (hs : InOrder s)
    (ha : Orderly s a ∧ a.Succeeds) (h : step s a = some s') : InOrder s' := by
  rcases step_cases h with ⟨rfl, -⟩ | ⟨connected, t, f, snap, rfl, hsnap, rfl⟩ |
    ⟨i, now, snap, rfl, hi, rfl⟩ | ⟨-, rfl⟩
  · exact hs
  · refine ⟨hs.sorted, fun i t' f' hget => ?_⟩
    rcases Objects.lookup_append.mp hget with hget | ⟨-, hnew⟩
    · exact hs.complete i t' f' hget
    · cases hnew
      exact ha
  · refine ⟨?_, hs.complete⟩
    show ((s.installed ++ [snap]).map (·.takenAt)).Pairwise (· < ·)
    rw [List.map_append, List.pairwise_append]
    refine ⟨hs.sorted, by simp, fun x hx y hy => ?_⟩
    obtain ⟨last, hlast, rfl⟩ := List.mem_map.mp hx
    obtain rfl : y = snap.takenAt := by simpa using hy
    exact ha.1 snap hi last hlast
  · exact ⟨hs.sorted, hs.complete⟩

/-- What is in a snapshot that was taken of a topology that fits, without failures. -/
theorem mem_ids_iff {s : System} (hs : Consistent s) (ho : InOrder s) {snap : TopologySnapshot}
    (hmem : snap ∈ s.installed) : ∃ t, s.taken[snap.takenAt]? = some (t, .none) ∧
      ∀ k id, id ∈ snap.ids k ↔ t.Has k id := by
  obtain ⟨t, f, hget, htake⟩ := hs.known snap (Or.inr hmem)
  obtain ⟨hfits, rfl⟩ := ho.complete _ t f hget
  exact ⟨t, hget, fun k id => (mem_takeSnapshot_iff htake k id).trans (hfits.seen_iff k id)⟩

/-- A lasting change is broadcast exactly once, if the snapshots know it. -/
theorem countP_broadcasts {s : System} (hs : Consistent s) (ho : InOrder s)
    {p : Topology → Prop} {q : TopologySnapshot → Prop} [DecidablePred q]
    (hq : ∀ snap ∈ s.installed, ∀ t f, s.taken[snap.takenAt]? = some (t, f) → (q snap ↔ p t))
    (hdiff : ∀ old new, ¬ q old → q new → compareSnapshots old new ≠ [])
    {a m b : Nat} (h : s.Lasts p a m b) :
    s.broadcasts.countP (fun c => decide (SeesChange (·.takenAt) q m b c)) = 1 := by
  have hone : (pairs s.installed).countP (fun c => decide (SeesChange (·.takenAt) q m b c)) = 1 := by
    refine countP_change ho.sorted (fun snap hmem ha hm hp => ?_) (fun snap hmem hm hb => ?_)
      h.seenBefore h.seenAfter
    · obtain ⟨t, hget, -⟩ := mem_ids_iff hs ho hmem
      exact h.before _ t _ hget ha hm ((hq snap hmem t _ hget).mp hp)
    · obtain ⟨t, hget, -⟩ := mem_ids_iff hs ho hmem
      exact (hq snap hmem t _ hget).mpr (h.after _ t _ hget hm hb)
  rw [hs.broadcasts, List.countP_filter, ← hone]
  refine List.countP_congr fun c _ => ?_
  -- a comparison that sees the change has something to tell
  constructor
  · intro hc
    simp only [Bool.and_eq_true, decide_eq_true_eq] at hc ⊢
    exact hc.1
  · intro hc
    simp only [Bool.and_eq_true, decide_eq_true_eq] at hc ⊢
    exact ⟨hc, hdiff c.1 c.2 hc.2.2.1 hc.2.2.2⟩

/-- **Topology syncs that are compared in the order they were taken are serialisable.** -/
theorem serialisable_of_orderly (as : List Label) (s : System) (hrun : exec step start as = some s)
    (hsucceed : ∀ a ∈ as, a.Succeeds) (horderly : Always step Orderly start as) :
    Serialisable s := by
  have hs : Consistent s := exec_invariant consistent_step consistent_start hrun
  have ho : InOrder s := by
    have hstart : InOrder start := ⟨List.Pairwise.nil, by simp [start]⟩
    have hsucceed' : Always step (fun _ a => a.Succeeds) start as := always_of_forall_mem hsucceed
    exact exec_invariant_of_always inOrder_step hstart (horderly.and hsucceed') hrun
  have hknown : ∀ k id, ∀ snap ∈ s.installed, ∀ t f, s.taken[snap.takenAt]? = some (t, f) →
      (id ∈ snap.ids k ↔ t.Has k id) := by
    intro k id snap hmem t f hget
    obtain ⟨t', hget', hids⟩ := mem_ids_iff hs ho hmem
    obtain rfl : t = t' := by
      rw [hget] at hget'
      simpa using congrArg Prod.fst (Option.some.inj hget')
    exact hids k id
  refine ⟨ho.sorted, fun k id a m b h => ?_, fun k id a m b h => ?_⟩
  · have hone := countP_broadcasts hs ho (q := fun snap => id ∈ snap.ids k) (hknown k id)
      (fun old new hold hnew heq => hold ((compareSnapshots_eq_nil_iff.mp heq k id).mpr hnew)) h
    rw [← hone, System.reportsAdded]
    refine List.countP_congr fun c _ => ?_
    rw [decide_eq_true_iff, decide_eq_true_iff, mem_fresh]
    constructor
    · rintro ⟨hm, hb, hnew, hold⟩
      exact ⟨hm, hb, hold, hnew⟩
    · rintro ⟨hm, hb, hold, hnew⟩
      exact ⟨hm, hb, hnew, hold⟩
  · have hone := countP_broadcasts hs ho (q := fun snap => id ∉ snap.ids k)
      (fun snap hmem t f hget => not_congr (hknown k id snap hmem t f hget))
      (fun old new hold hnew heq => hold fun hmem =>
        hnew ((compareSnapshots_eq_nil_iff.mp heq k id).mp hmem)) h
    rw [← hone, System.reportsRemoved]
    refine List.countP_congr fun c _ => ?_
    rw [decide_eq_true_iff, decide_eq_true_iff, mem_fresh]
    constructor
    · rintro ⟨hm, hb, hold, hnew⟩
      exact ⟨hm, hb, fun h => h hold, hnew⟩
    · rintro ⟨hm, hb, hold, hnew⟩
      exact ⟨hm, hb, Decidable.not_not.mp hold, hnew⟩

instance (t : Topology) : Decidable t.Fits :=
  decidable_of_iff (t.tenants.length ≤ 200 ∧
      ∀ tenant ∈ t.tenants, (t.gateways tenant).length ≤ 1000 ∧
        (t.deviceProfiles tenant).length ≤ 1000 ∧ (t.applications tenant).length ≤ 1000 ∧
        ∀ app ∈ t.applications tenant, (t.devices app).length ≤ 1000)
    ⟨fun h => ⟨h.1, fun x hx => (h.2 x hx).1, fun x hx => (h.2 x hx).2.1,
        fun x hx => (h.2 x hx).2.2.1, fun x hx => (h.2 x hx).2.2.2⟩,
      fun h => ⟨h.tenants, fun x hx => ⟨h.gateways x hx, h.deviceProfiles x hx,
        h.applications x hx, h.devices x hx⟩⟩⟩

instance (s : System) : DecidablePred (Orderly s)
  | .take _ t _ => inferInstanceAs (Decidable t.Fits)
  | .compare i _ => inferInstanceAs
      (Decidable (∀ snap ∈ s.inFlight[i]?, ∀ t ∈ s.installed, t.takenAt < snap.takenAt))
  | .dismiss _ => instDecidableTrue

/-- One tenant with these gateways. -/
def withGateways (gateways : List String) : Topology :=
  ⟨["tenant"], fun _ => gateways, fun _ => [], fun _ => [], fun _ => []⟩

/-- A sync before a gateway comes and one after. -/
def promptSync : List Label :=
  [.take true (withGateways []) .none, .compare 0 0,
    .take true (withGateways ["0102030405060708"]) .none, .compare 0 1]

theorem serialisable_of_orderly_promptSync :
    ∃ s, exec step start promptSync = some s ∧ Serialisable s :=
  ⟨_, rfl, serialisable_of_orderly promptSync _ rfl
    (by simp [promptSync, Label.Succeeds]) (by decide)⟩

/-- A slow sync that takes its snapshot before a gateway comes and compares it after another sync has
    reported it. -/
def slowSync : List Label :=
  [.take true (withGateways []) .none, .compare 0 0, .take true (withGateways []) .none,
    .take true (withGateways ["0102030405060708"]) .none, .compare 1 1, .compare 0 2,
    .take true (withGateways ["0102030405060708"]) .none, .compare 0 3]

/-- The gateway is reported as new twice. -/
theorem slowSync_not_serialisable :
    (∀ a ∈ slowSync, a.Succeeds) ∧ ∃ s, exec step start slowSync = some s ∧
      s.reportsAdded .gateway "0102030405060708" 2 4 = 2 ∧ ¬ Serialisable s := by
  exact ⟨by simp [slowSync, Label.Succeeds], _, rfl, by decide,
    fun h => absurd h.inOrder (by decide)⟩

/-! ## Memory -/

/-- **No detected change is lost before it is dismissed**: changes are pending exactly if one was
    detected since the last dismissal, and the summary holds every entry detected since, as often as it
    was detected: two syncs can report different changes in the same words. -/
def Remembers (s : System) : Prop :=
  (s.state.pendingChanges = true ↔ s.detected ≠ []) ∧
    ∀ entry, s.detected.count entry ≤ s.state.changesSummary.count entry

/-- The step leaves nothing forgotten. -/
def Remembered (s : System) (a : Label) : Prop := ∀ s', step s a = some s' → Remembers s'

/-- A snapshot that differs from the last one is compared only when every change found before has been
    dismissed. -/
def DismissedFirst (s : System) : Label → Prop
  | .compare i _ => ∀ snap ∈ s.inFlight[i]?, ∀ last ∈ s.state.lastSnapshot, ¬ SameIDs last snap →
      s.detected = []
  | _ => True

/-- After a comparison nothing is forgotten exactly if it finds no change or nothing was left to
    dismiss. -/
theorem remembers_compare_iff {s : System} (hs : Remembers s) (snap : TopologySnapshot) (now : Nat) :
    Remembers (s.compare snap now) ↔ ∀ last ∈ s.state.lastSnapshot, ¬ SameIDs last snap →
      s.detected = [] := by
  have hdetects := compare_detects s.state snap now
  have hstate := compare_state s.state snap now
  unfold Remembers
  simp only [System.compare]
  rw [hstate]
  generalize (s.state.compare snap now).2 = changes at hdetects ⊢
  by_cases hnone : changes = []
  · -- nothing is detected, and nothing is forgotten
    subst hnone
    have hsame : ∀ last ∈ s.state.lastSnapshot, SameIDs last snap := by
      intro last hlast
      have hlast' : s.state.lastSnapshot = some last := hlast
      rw [hlast'] at hdetects
      exact compareSnapshots_eq_nil_iff.mp (by simpa using hdetects.symm)
    constructor
    · intro _ last hlast hne
      exact absurd (hsame last hlast) hne
    · intro _
      simpa [Remembers] using hs
  · obtain ⟨last, hlast⟩ : ∃ last, s.state.lastSnapshot = some last := by
      cases h : s.state.lastSnapshot with
      | none =>
        rw [h] at hdetects
        exact absurd hdetects hnone
      | some last => exact ⟨last, rfl⟩
    rw [hlast] at hdetects ⊢
    obtain rfl : changes = compareSnapshots last snap := by simpa using hdetects
    have hdiff : ¬ SameIDs last snap := fun h => hnone (compareSnapshots_eq_nil_iff.mpr h)
    constructor
    · rintro ⟨-, hkeeps⟩ last' - -
      -- the summary is the new changes alone: there is no room for an earlier entry
      refine List.eq_nil_iff_forall_not_mem.mpr fun entry hentry => ?_
      have hcount := hkeeps entry
      rw [if_neg hnone, List.count_append] at hcount
      dsimp only at hcount
      have hpos := List.count_pos_iff.mpr hentry
      omega
    · intro hdismissed
      have hnil := hdismissed last rfl hdiff
      rw [hnil, if_neg hnone]
      exact ⟨by simp [hnone], fun entry => le_refl _⟩

theorem remembered_iff_dismissedFirst {s : System} (hs : Remembers s) (a : Label) :
    Remembered s a ↔ DismissedFirst s a := by
  cases a with
  | take connected t f =>
    refine ⟨fun _ => trivial, fun _ s' h => ?_⟩
    rcases step_cases h with ⟨rfl, -⟩ | ⟨_, _, _, _, -, -, rfl⟩ | ⟨_, _, _, h, -⟩ | ⟨h, -⟩
    · exact hs
    · exact hs
    · exact absurd h (by simp)
    · exact absurd h (by simp)
  | compare i now =>
    constructor
    · intro hlaw snap hsnap last hlast
      have hi : s.inFlight[i]? = some snap := hsnap
      have hstep : step s (.compare i now) =
          some ({ s with inFlight := s.inFlight.eraseIdx i }.compare snap now) := by
        simp [step, hi]
      exact (remembers_compare_iff (s := { s with inFlight := s.inFlight.eraseIdx i }) hs snap
        now).mp (hlaw _ hstep) last hlast
    · intro hdismissed s' h
      rcases step_cases h with ⟨-, hne⟩ | ⟨_, _, _, _, h, -, -⟩ | ⟨j, now', snap, heq, hj, rfl⟩ | ⟨h, -⟩
      · exact absurd rfl (hne i now)
      · exact absurd h (by simp)
      · obtain ⟨rfl, rfl⟩ := Label.compare.inj heq
        exact (remembers_compare_iff (s := { s with inFlight := s.inFlight.eraseIdx i }) hs snap
          now).mpr (hdismissed snap hj)
      · exact absurd h (by simp)
  | dismiss post =>
    refine ⟨fun _ => trivial, fun _ s' h => ?_⟩
    rcases step_cases h with ⟨rfl, -⟩ | ⟨_, _, _, _, h, -, -⟩ | ⟨_, _, _, h, -⟩ | ⟨-, rfl⟩
    · exact hs
    · exact absurd h (by simp)
    · exact absurd h (by simp)
    · exact ⟨by simp, by simp⟩

/-- **Changes are remembered along a run exactly if** no sync finds a change while changes found before
    are not dismissed. -/
theorem remembered_iff (as : List Label) :
    Always step Remembered start as ↔ Always step DismissedFirst start as := by
  have hstart : Remembers start := ⟨by simp [start], by simp [start]⟩
  exact always_congr (I := Remembers) (fun s a hs => remembered_iff_dismissedFirst hs a)
    (fun s a s' _ hlaw h => hlaw s' h) as hstart

/-- A gateway comes, and then the tenant goes with it; nothing is dismissed. -/
def twoChanges : List Label :=
  [.take true (withGateways []) .none, .compare 0 0,
    .take true (withGateways ["0102030405060708"]) .none, .compare 0 1,
    .take true { withGateways [] with tenants := [] } .none, .compare 0 2]

/-- The second sync forgets the change of the first. -/
theorem twoChanges_not_remembered : ¬ Always step Remembered start twoChanges := by
  rintro ⟨-, h⟩
  obtain ⟨-, h⟩ := h _ rfl
  obtain ⟨-, h⟩ := h _ rfl
  obtain ⟨-, h⟩ := h _ rfl
  obtain ⟨-, h⟩ := h _ rfl
  obtain ⟨hlaw, -⟩ := h _ rfl
  exact absurd ((hlaw _ rfl).2 "Yeni gateway eklendi: 0102030405060708") (by decide)

/-! ## Failures -/

/-- The snapshot is taken of the topology `t`. -/
def Label.Of (t : Topology) : Label → Prop
  | .take _ t' _ => t' = t
  | _ => True

/-- With the one calls failing or the others, a snapshot sees the same of the topology. -/
def SameView (t : Topology) (f f' : Failures) : Prop := ∀ k id, t.Seen f k id ↔ t.Seen f' k id

/-- The snapshot to be compared and the last one were taken with failures that hide the same. -/
def SameViews (t : Topology) (s : System) : Label → Prop
  | .compare i _ => ∀ snap ∈ s.inFlight[i]?, ∀ last ∈ s.state.lastSnapshot, ∀ f f',
      s.taken[last.takenAt]? = some (t, f) → s.taken[snap.takenAt]? = some (t, f') →
      SameView t f f'
  | _ => True

/-- All snapshots were taken of the topology. -/
structure Unchanged (t : Topology) (s : System) : Prop where
  consistent : Consistent s
  taken : ∀ (i : Nat) t' f, s.taken[i]? = some (t', f) → t' = t

theorem unchanged_step {t : Topology} (s : System) (a : Label) (s' : System) (hs : Unchanged t s)
    (ha : a.Of t) (h : step s a = some s') : Unchanged t s' := by
  refine ⟨consistent_step s a s' hs.consistent h, ?_⟩
  rcases step_cases h with ⟨rfl, -⟩ | ⟨connected, t', f, snap, rfl, -, rfl⟩ | ⟨_, _, _, -, -, rfl⟩ |
    ⟨-, rfl⟩
  · exact hs.taken
  · intro i t'' f'' hget
    rcases Objects.lookup_append.mp hget with hget | ⟨-, hnew⟩
    · exact hs.taken i t'' f'' hget
    · cases hnew
      exact ha
  · exact hs.taken
  · exact hs.taken

/-- A comparison is not broadcast exactly if both snapshots have the same view. -/
theorem broadcasts_compare_iff {t : Topology} {s : System} (hs : Unchanged t s) {i : Nat}
    {snap : TopologySnapshot} (hi : s.inFlight[i]? = some snap) (now : Nat) :
    ({ s with inFlight := s.inFlight.eraseIdx i }.compare snap now).broadcasts = [] ↔
      s.broadcasts = [] ∧ SameViews t s (.compare i now) := by
  have hs' : Consistent { s with inFlight := s.inFlight.eraseIdx i } :=
    ⟨hs.consistent.lastSnapshot, hs.consistent.broadcasts, fun snap' hmem =>
      hs.consistent.known snap' (hmem.imp_left fun h => List.mem_of_mem_eraseIdx h)⟩
  rw [broadcasts_compare hs', List.append_eq_nil_iff, ← hs'.lastSnapshot]
  refine and_congr_right fun _ => ?_
  have hview : ∀ last, s.state.lastSnapshot = some last →
      (SameIDs last snap ↔ ∀ f f', s.taken[last.takenAt]? = some (t, f) →
        s.taken[snap.takenAt]? = some (t, f') → SameView t f f') := by
    intro last hlast
    have hmem : last ∈ s.installed :=
      List.mem_of_getLast? (hs.consistent.lastSnapshot.symm.trans hlast)
    obtain ⟨t₁, f₁, hget₁, htake₁⟩ := hs.consistent.known last (Or.inr hmem)
    obtain ⟨t₂, f₂, hget₂, htake₂⟩ := hs.consistent.known snap (Or.inl (List.mem_of_getElem? hi))
    obtain rfl := hs.taken _ t₁ f₁ hget₁
    obtain rfl := hs.taken _ t₂ f₂ hget₂
    constructor
    · intro hsame f f' hf hf' k id
      obtain rfl : f₁ = f := by simpa [hget₁] using hf
      obtain rfl : f₂ = f' := by simpa [hget₂] using hf'
      rw [← mem_takeSnapshot_iff htake₁, ← mem_takeSnapshot_iff htake₂]
      exact hsame k id
    · intro hsame k id
      rw [mem_takeSnapshot_iff htake₁, mem_takeSnapshot_iff htake₂]
      exact hsame f₁ f₂ hget₁ hget₂ k id
  show (s.state.lastSnapshot.toList.map fun last => (last, snap)).filter _ = [] ↔ _
  cases hlast : s.state.lastSnapshot with
  | none => simp [SameViews, hlast]
  | some last =>
    have hnil : ([(last, snap)].filter fun c => compareSnapshots c.1 c.2 ≠ []) = [] ↔
        SameIDs last snap := by
      rw [← compareSnapshots_eq_nil_iff]
      by_cases h : compareSnapshots last snap = [] <;> simp [h]
    show ([(last, snap)].filter _) = [] ↔ _
    rw [hnil, hview last hlast]
    simp [SameViews, hlast, hi]

/-- **An unchanged topology is never reported as changed exactly if** the snapshots compared with one
    another were taken with failures that hide the same of it. -/
theorem silent_iff (t : Topology) (as : List Label) (s : System) (hof : ∀ a ∈ as, a.Of t)
    (hrun : exec step start as = some s) :
    s.broadcasts = [] ↔ Always step (SameViews t) start as := by
  have hstart : Unchanged t start := ⟨consistent_start, by simp [start]⟩
  rw [exec_iff_always_of_mem (I := Unchanged t) (P := fun s => s.broadcasts = [])
    (G := SameViews t) unchanged_step (fun s a s' hs _ h => ?_) hstart hof hrun]
  · exact and_iff_right rfl
  · rcases step_cases h with ⟨rfl, hne⟩ | ⟨_, _, _, _, rfl, -, rfl⟩ | ⟨i, now, snap, rfl, hi, rfl⟩ |
      ⟨rfl, rfl⟩
    · have htrue : SameViews t s' a := by
        cases a <;> first | trivial | exact absurd rfl (hne _ _)
      simp [htrue]
    · simp [SameViews]
    · exact broadcasts_compare_iff hs hi now
    · simp [SameViews]

/-- The listing of gateways fails for the tenant. -/
def gatewaysFail : Failures := { Failures.none with gateways := fun _ => some "unavailable" }

/-- The gateways cannot be listed, twice. -/
def listingsFail : List Label :=
  [.take true (withGateways ["0102030405060708"]) gatewaysFail, .compare 0 0,
    .take true (withGateways ["0102030405060708"]) gatewaysFail, .compare 0 1]

theorem silent_iff_listingsFail :
    ∃ s, exec step start listingsFail = some s ∧
      (s.broadcasts = [] ↔
        Always step (SameViews (withGateways ["0102030405060708"])) start listingsFail) :=
  ⟨_, rfl, silent_iff _ listingsFail _ (by simp [listingsFail, Label.Of]) rfl⟩

/-- The gateways can be listed for the first snapshot and not for the second. -/
def listingFails : List Label :=
  [.take true (withGateways ["0102030405060708"]) .none, .compare 0 0,
    .take true (withGateways ["0102030405060708"]) gatewaysFail, .compare 0 1]

/-- The gateway is reported as removed. -/
theorem listingFails_not_silent :
    (∀ a ∈ listingFails, a.Of (withGateways ["0102030405060708"])) ∧
      ∃ s, exec step start listingFails = some s ∧ s.broadcasts ≠ [] :=
  ⟨by simp [listingFails, Label.Of], _, rfl, by decide⟩

end ChirpStackSimulator.PassiveSync
