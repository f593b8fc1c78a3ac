/-
  The system logs of the browser (`tabs/system-logs.js`), which are kept for a week.

  The logs are in a store of IndexedDB.  Every page load calls `purgeOldIndexedDBLogs`: unless a purge
  is on record since the last Monday midnight, a cursor scans the store and deletes the logs that are
  older.  The midnight is computed when the call begins, and the time put on record is that at which
  the cursor has come to the end.

  1. **Steps** - a call, the beginning of the transaction of a scan, an event of its cursor, a new log,
     the button that clears the logs, and the clock, in any order; several pages may be open.  While a
     scan has its transaction no other one on the store begins.

  2. **A scan** is to leave the logs from a midnight on (`since`).

  3. **The invariant** (`Inv`) - nothing of this week is lost, and if a purge is on record since the last
     Monday midnight, all that is older is gone.  The one step that can break it is the end of a scan
     during which a week has ended: it leaves the logs of that week, and puts on record that the next
     one needs no purge.

  4. **The law** (`purged_iff_endsInTime`) - every call that returns or ends leaves exactly the logs of
     the week, and a scan is spared only if it would delete nothing, exactly if no scan ends with a log
     in the store from a week that ended after the call.
-/
import ChirpStackSimulator.Lib.LocalTime
import ChirpStackSimulator.Lib.Run
import Mathlib.Data.List.InsertIdx

namespace ChirpStackSimulator.LogPurge

open LocalTime Transition

/-! ## The last Monday midnight -/

section
variable (zone : Zone)

/-- `getLastMondayMidnight`, at the time `now`. -/
def getLastMondayMidnight (now : Int) : Int :=
  let day := zone.getDay now
  let diff := if day = 0 then 6 else day - 1
  let lastMonday := zone.setDate now (zone.getDate now - diff)
  zone.setHours lastMonday 0 0 0 0

/-- The wrap of the Sunday is a remainder. -/
theorem getLastMondayMidnight_eq : getLastMondayMidnight zone = zone.weekBegin := by
  funext now
  have hdiff : (if zone.getDay now = 0 then 6 else zone.getDay now - 1) =
      (zone.getDay now + 6) % 7 := by
    unfold Zone.getDay weekDay
    split <;> omega
  unfold getLastMondayMidnight
  dsimp only
  rw [hdiff, zone.setHours_setDate]

theorem getLastMondayMidnight_floor : Floor (getLastMondayMidnight zone) := by
  rw [getLastMondayMidnight_eq]
  exact zone.weekBegin_floor

end

/-! ## The state -/

/-- An entry of the store, with the time its timestamp denotes. -/
structure Log where
  timestamp : Int
  message : String
  level : String
  details : Option String
  deriving DecidableEq, Repr

/-- The transaction of a scan: how many logs its cursor has left behind in the store, and how many it
    has deleted. -/
structure Scan where
  lastMonday : Int
  position : Nat
  count : Nat
  deriving DecidableEq, Repr

structure State where
  now : Int
  /-- `sim_logs_last_purge` in the local storage -/
  lastPurge : Option Int
  systemLogs : List Log
  /-- the calls that wait for their transaction, each with its midnight -/
  waiting : List Int
  scan : Option Scan
  /-- history: all logs since the logs were cleared; no step reads it -/
  logged : List Log
  deriving DecidableEq, Repr

inductive Label
  | tick (ms : Nat)
  | purgeOldIndexedDBLogs
  | openCursor (i : Nat)
  | onsuccess
  | addIndexedDBLog (msg level : String) (details : Option String)
  | clearIndexedDBLogs
  deriving DecidableEq, Repr

section
variable (zone : Zone)

namespace State

/-- `parseInt(localStorage.getItem("sim_logs_last_purge") || "0", 10)`. -/
def purgedAt (s : State) : Int := s.lastPurge.getD 0

/-- The midnight that a call computes. -/
def lastMonday (s : State) : Int := getLastMondayMidnight zone s.now

/-- `purgeOldIndexedDBLogs` up to the transaction. -/
def purgeOldIndexedDBLogs (s : State) : State :=
  if s.purgedAt ≥ s.lastMonday zone then s
  else { s with waiting := s.waiting ++ [s.lastMonday zone] }

/-- The transaction of the `i`-th call that waits begins. -/
def openCursor (s : State) (i : Nat) : Option State :=
  if s.scan.isSome then none
  else s.waiting[i]?.map fun lastMonday =>
    { s with waiting := s.waiting.eraseIdx i, scan := some ⟨lastMonday, 0, 0⟩ }

/-- An event of the cursor. -/
def onsuccess (s : State) : Option State :=
  match s.scan with
  | none => none
  | some scan =>
    match s.systemLogs[scan.position]? with
    | some log =>
      if log.timestamp < scan.lastMonday then
        some { s with
          systemLogs := s.systemLogs.eraseIdx scan.position
          scan := some { scan with count := scan.count + 1 } }
      else some { s with scan := some { scan with position := scan.position + 1 } }
    | none => some { s with lastPurge := some s.now, scan := none }

/-- `addIndexedDBLog`. -/
def addIndexedDBLog (s : State) (msg level : String) (details : Option String) : Option State :=
  if s.scan.isSome then none
  else
    let item : Log := ⟨s.now, msg, level, details⟩
    some { s with systemLogs := s.systemLogs ++ [item], logged := s.logged ++ [item] }

/-- `clearIndexedDBLogs`. -/
def clearIndexedDBLogs (s : State) : Option State :=
  if s.scan.isSome then none else some { s with systemLogs := [], logged := [] }

end State

def step (s : State) : Label → Option State
  | .tick ms => some { s with now := s.now + ms }
  | .purgeOldIndexedDBLogs => some (s.purgeOldIndexedDBLogs zone)
  | .openCursor i => s.openCursor i
  | .onsuccess => s.onsuccess
  | .addIndexedDBLog msg level details => s.addIndexedDBLog msg level details
  | .clearIndexedDBLogs => s.clearIndexedDBLogs

/-- A new browser, some time after the epoch. -/
def init (start : Nat) : State := ⟨start, none, [], [], none, []⟩

/-- What a step does, with its guards. -/
inductive Goes (s : State) : Label → State → Prop
  | tick (ms : Nat) : Goes s (.tick ms) { s with now := s.now + ms }
  | spared : s.lastMonday zone ≤ s.purgedAt → Goes s .purgeOldIndexedDBLogs s
  | called : s.purgedAt < s.lastMonday zone →
      Goes s .purgeOldIndexedDBLogs { s with waiting := s.waiting ++ [s.lastMonday zone] }
  | opened (i : Nat) (lastMonday : Int) : s.scan = none → s.waiting[i]? = some lastMonday →
      Goes s (.openCursor i)
        { s with waiting := s.waiting.eraseIdx i, scan := some ⟨lastMonday, 0, 0⟩ }
  | deleted (scan : Scan) (log : Log) : s.scan = some scan →
      s.systemLogs[scan.position]? = some log → log.timestamp < scan.lastMonday →
      Goes s .onsuccess { s with
        systemLogs := s.systemLogs.eraseIdx scan.position
        scan := some { scan with count := scan.count + 1 } }
  | passed (scan : Scan) (log : Log) : s.scan = some scan →
      s.systemLogs[scan.position]? = some log → scan.lastMonday ≤ log.timestamp →
      Goes s .onsuccess { s with scan := some { scan with position := scan.position + 1 } }
  | ended (scan : Scan) : s.scan = some scan → s.systemLogs.length ≤ scan.position →
      Goes s .onsuccess { s with lastPurge := some s.now, scan := none }
  | added (msg level : String) (details : Option String) : s.scan = none →
      Goes s (.addIndexedDBLog msg level details) { s with
        systemLogs := s.systemLogs ++ [⟨s.now, msg, level, details⟩]
        logged := s.logged ++ [⟨s.now, msg, level, details⟩] }
  | cleared : s.scan = none → Goes s .clearIndexedDBLogs { s with systemLogs := [], logged := [] }

theorem step_goes {s t : State} {a : Label} (h : step zone s a = some t) : Goes zone s a t := by
  cases a with
  | tick ms =>
    cases h
    exact .tick ms
  | purgeOldIndexedDBLogs =>
    cases h
    unfold State.purgeOldIndexedDBLogs
    split
    · exact .spared ‹_›
    · exact .called (by omega)
  | openCursor i =>
    simp only [step, State.openCursor] at h
    split at h
    · cases h
    · obtain ⟨lastMonday, hi, rfl⟩ := Option.map_eq_some_iff.mp h
      exact .opened i lastMonday (Option.not_isSome_iff_eq_none.mp ‹_›) hi
  | onsuccess =>
    simp only [step, State.onsuccess] at h
    split at h
    · cases h
    · next scan hscan =>
      split at h
      · next log hlog =>
        split at h
        · cases h
          exact .deleted scan log hscan hlog ‹_›
        · cases h
          exact .passed scan log hscan hlog (by omega)
      · next hend =>
        cases h
        exact .ended scan hscan (List.getElem?_eq_none_iff.mp hend)
  | addIndexedDBLog msg level details =>
    simp only [step, State.addIndexedDBLog] at h
    split at h
    · cases h
    · cases h
      exact .added msg level details (Option.not_isSome_iff_eq_none.mp ‹_›)
  | clearIndexedDBLogs =>
    simp only [step, State.clearIndexedDBLogs] at h
    split at h
    · cases h
    · cases h
      exact .cleared (Option.not_isSome_iff_eq_none.mp ‹_›)

/-! ## A scan -/

/-- The logs from a midnight on. -/
def since (lastMonday : Int) (logs : List Log) : List Log :=
  logs.filter fun log => lastMonday ≤ log.timestamp

variable {lastMonday : Int} {logs : List Log}

theorem since_eq_self : since lastMonday logs = logs ↔ ∀ log ∈ logs, lastMonday ≤ log.timestamp := by
  rw [since, List.filter_eq_self]
  simp only [decide_eq_true_eq]

theorem since_append (logs logs' : List Log) :
    since lastMonday (logs ++ logs') = since lastMonday logs ++ since lastMonday logs' :=
  List.filter_append ..

/-- Of the logs from a midnight on, those from a later one on. -/
theorem since_since {later : Int} (h : lastMonday ≤ later) :
    since later (since lastMonday logs) = since later logs := by
  unfold since
  rw [List.filter_filter]
  refine List.filter_congr fun log _ => ?_
  rw [← Bool.decide_and, decide_eq_decide]
  omega

/-! ## The invariant -/

structure Inv (s : State) : Prop where
  purgedAt_le : s.purgedAt ≤ s.now
  waiting_le : ∀ lastMonday ∈ s.waiting, lastMonday ≤ s.lastMonday zone
  scan_le : ∀ scan ∈ s.scan, scan.lastMonday ≤ s.lastMonday zone
  /-- what the cursor has left behind is not older than its midnight -/
  behind : ∀ scan ∈ s.scan, ∀ log ∈ s.systemLogs.take scan.position,
    scan.lastMonday ≤ log.timestamp
  /-- nothing of this week is lost -/
  kept : since (s.lastMonday zone) s.systemLogs = since (s.lastMonday zone) s.logged
  /-- a purge since the last Monday midnight has left nothing that is older -/
  purged : s.lastMonday zone ≤ s.purgedAt →
    ∀ log ∈ s.systemLogs, s.lastMonday zone ≤ log.timestamp

variable {zone} {s t : State} {a : Label}

theorem inv_init (start : Nat) : Inv zone (init start) where
  purgedAt_le := Int.natCast_nonneg start
  waiting_le := List.forall_mem_nil _
  scan_le _ hscan := by cases hscan
  behind _ hscan := by cases hscan
  kept := rfl
  purged _ := List.forall_mem_nil _

/-- The store is the logs of the week exactly if it has no older ones. -/
theorem Inv.eq_since_iff (h : Inv zone s) : s.systemLogs = since (s.lastMonday zone) s.logged ↔
    ∀ log ∈ s.systemLogs, s.lastMonday zone ≤ log.timestamp := by
  rw [← h.kept, eq_comm, since_eq_self]

/-- As the clock goes on, the midnight stays or passes the time of the last purge. -/
theorem Inv.tick (h : Inv zone s) (ms : Nat) : Inv zone { s with now := s.now + ms } := by
  have hfloor := getLastMondayMidnight_floor zone
  have hpurged := h.purgedAt_le
  have hlater : s.lastMonday zone ≤ getLastMondayMidnight zone (s.now + ms) :=
    hfloor.mono (by omega)
  refine ⟨?_, ?_, ?_, h.behind, ?_, fun hle => ?_⟩
  · show s.purgedAt ≤ s.now + ms
    omega
  · intro lastMonday hmem
    exact Int.le_trans (h.waiting_le lastMonday hmem) hlater
  · intro scan hscan
    exact Int.le_trans (h.scan_le scan hscan) hlater
  · show since (getLastMondayMidnight zone (s.now + ms)) s.systemLogs =
      since (getLastMondayMidnight zone (s.now + ms)) s.logged
    rw [← since_since hlater, h.kept, since_since hlater]
  · -- a midnight before the purge is before now: it is the same
    have hle' : getLastMondayMidnight zone (s.now + ms) ≤ s.purgedAt := hle
    have hsame : getLastMondayMidnight zone (s.now + ms) ≤ s.lastMonday zone :=
      hfloor.le_of_le (Int.le_trans hle' hpurged)
    intro log hlog
    exact Int.le_trans hsame (h.purged (by omega) log hlog)

/-- A log that is deleted is not of this week. -/
theorem since_eraseIdx {i : Nat} {log : Log} (hlog : logs[i]? = some log)
    (hold : log.timestamp < lastMonday) :
    since lastMonday (logs.eraseIdx i) = since lastMonday logs := by
  obtain ⟨hi, rfl⟩ := List.getElem?_eq_some_iff.mp hlog
  have hsplit : logs = logs.take i ++ logs[i] :: logs.drop (i + 1) := by
    rw [List.getElem_cons_drop, List.take_append_drop]
  have hnone : since lastMonday [logs[i]] = [] :=
    List.filter_cons_of_neg (by simpa using hold)
  calc since lastMonday (logs.eraseIdx i)
      = since lastMonday (logs.take i) ++ since lastMonday (logs.drop (i + 1)) := by
        rw [List.eraseIdx_eq_take_drop_succ, since_append]
    _ = since lastMonday (logs.take i) ++ since lastMonday ([logs[i]] ++ logs.drop (i + 1)) := by
        rw [since_append [logs[i]], hnone, List.nil_append]
    _ = since lastMonday logs := by
        rw [← since_append, List.singleton_append, ← hsplit]

theorem Inv.deleted (h : Inv zone s) {scan : Scan} {log : Log} (hscan : s.scan = some scan)
    (hlog : s.systemLogs[scan.position]? = some log) (hold : log.timestamp < scan.lastMonday) :
    Inv zone { s with
      systemLogs := s.systemLogs.eraseIdx scan.position
      scan := some { scan with count := scan.count + 1 } } := by
  have hle := h.scan_le scan hscan
  refine ⟨h.purgedAt_le, h.waiting_le, ?_, ?_, ?_, ?_⟩
  · rintro scan' ⟨⟩
    exact hle
  · rintro scan' ⟨⟩ log' hlog'
    refine h.behind scan hscan log' ?_
    rwa [List.take_eraseIdx_eq_take_of_le _ _ _ (Nat.le_refl _)] at hlog'
  · exact (since_eraseIdx hlog (Int.lt_of_lt_of_le hold hle)).trans h.kept
  · intro hpurged log' hlog'
    exact h.purged hpurged log' (List.mem_of_mem_eraseIdx hlog')

theorem Inv.passed (h : Inv zone s) {scan : Scan} {log : Log} (hscan : s.scan = some scan)
    (hlog : s.systemLogs[scan.position]? = some log) (hnew : scan.lastMonday ≤ log.timestamp) :
    Inv zone { s with scan := some { scan with position := scan.position + 1 } } := by
  refine ⟨h.purgedAt_le, h.waiting_le, ?_, ?_, h.kept, h.purged⟩
  · rintro scan' ⟨⟩
    exact h.scan_le scan hscan
  · rintro scan' ⟨⟩ log' hlog'
    have hlog'' : log' ∈ s.systemLogs.take (scan.position + 1) := hlog'
    rw [List.take_add_one, hlog, List.mem_append] at hlog''
    rcases hlog'' with hbehind | hlast
    · exact h.behind scan hscan log' hbehind
    · rw [List.mem_singleton.mp hlast]
      exact hnew

/-- **The end of a scan** is the one step that needs more: that no older log is left. -/
theorem Inv.ended (h : Inv zone s) (hnew : ∀ log ∈ s.systemLogs, s.lastMonday zone ≤ log.timestamp) :
    Inv zone { s with lastPurge := some s.now, scan := none } := by
  refine ⟨Int.le_refl s.now, h.waiting_le, ?_, ?_, h.kept, fun _ => hnew⟩
  · rintro scan ⟨⟩
  · rintro scan ⟨⟩

theorem Inv.added (h : Inv zone s) (hscan : s.scan = none) (msg level : String)
    (details : Option String) : Inv zone { s with
      systemLogs := s.systemLogs ++ [⟨s.now, msg, level, details⟩]
      logged := s.logged ++ [⟨s.now, msg, level, details⟩] } := by
  refine ⟨h.purgedAt_le, h.waiting_le, ?_, ?_, ?_, fun hpurged log hlog => ?_⟩
  · intro scan hscan'
    exact h.scan_le scan hscan'
  · intro scan hscan'
    rw [hscan] at hscan'
    cases hscan'
  · show since (s.lastMonday zone) (_ ++ _) = since (s.lastMonday zone) (_ ++ _)
    rw [since_append, since_append, h.kept]
  · rcases List.mem_append.mp hlog with hlog | hlog
    · exact h.purged hpurged log hlog
    · rw [List.mem_singleton.mp hlog]
      exact (getLastMondayMidnight_floor zone).le s.now

variable (zone) in
/-- A scan that ends finds no log in the store from a week that was over by then, but not when it was
    called. -/
def EndsInTime (s : State) : Label → Prop
  | .onsuccess => ∀ scan ∈ s.scan, s.systemLogs.length ≤ scan.position →
      ∀ log ∈ s.systemLogs, log.timestamp < s.lastMonday zone → log.timestamp < scan.lastMonday
  | _ => True

/-- At its end a scan has left all logs behind. -/
theorem Inv.endsInTime_iff (h : Inv zone s) {scan : Scan} (hscan : s.scan = some scan)
    (hend : s.systemLogs.length ≤ scan.position) : EndsInTime zone s .onsuccess ↔
      ∀ log ∈ s.systemLogs, s.lastMonday zone ≤ log.timestamp := by
  have hbehind := h.behind scan hscan
  rw [List.take_of_length_le hend] at hbehind
  constructor
  · intro hintime log hlog
    by_contra hold
    have hold' := hintime scan hscan hend log hlog (by omega)
    have hnew := hbehind log hlog
    omega
  · rintro hnew scan' hscan' - log hlog hold
    have hnew' := hnew log hlog
    omega

/-- **One step.**  A step keeps the invariant, the end of a scan if it is in time. -/
theorem Inv.preserved (h : Inv zone s) (hintime : EndsInTime zone s a) (hstep : step zone s a = some t) :
    Inv zone t := by
  cases step_goes zone hstep with
  | tick ms => exact h.tick ms
  | spared => exact h
  | called =>
    refine ⟨h.purgedAt_le, fun lastMonday hmem => ?_, h.scan_le, h.behind, h.kept, h.purged⟩
    rcases List.mem_append.mp hmem with hmem | hmem
    · exact h.waiting_le lastMonday hmem
    · rw [List.mem_singleton.mp hmem]
      exact Int.le_refl _
  | opened i lastMonday hnone hi =>
    refine ⟨h.purgedAt_le, fun m hmem => ?_, ?_, ?_, h.kept, h.purged⟩
    · exact h.waiting_le m (List.mem_of_mem_eraseIdx hmem)
    · rintro scan ⟨⟩
      exact h.waiting_le lastMonday (List.mem_of_getElem? hi)
    · rintro scan ⟨⟩
      exact List.forall_mem_nil _
  | deleted scan log hscan hlog hold => exact h.deleted hscan hlog hold
  | passed scan log hscan hlog hnew => exact h.passed hscan hlog hnew
  | ended scan hscan hend => exact h.ended ((h.endsInTime_iff hscan hend).mp hintime)
  | added msg level details hnone => exact h.added hnone msg level details
  | cleared hnone =>
    refine ⟨h.purgedAt_le, h.waiting_le, h.scan_le, ?_, rfl, fun _ => List.forall_mem_nil _⟩
    intro scan hscan
    rw [hnone] at hscan
    cases hscan

/-! ## The law -/

variable (zone)

/-- The step completes a call: it returns at once, or its scan has come to the end. -/
def Completes (s : State) : Label → Prop
  | .purgeOldIndexedDBLogs => s.lastMonday zone ≤ s.purgedAt
  | .onsuccess => ∃ scan ∈ s.scan, s.systemLogs.length ≤ scan.position
  | _ => False

/-- When the step completes a call, the store is the logs of the week; a call that returns at once
    spares a scan that would delete nothing. -/
structure Purged (s : State) (a : Label) : Prop where
  exact : Completes zone s a → ∀ t ∈ step zone s a, t.systemLogs = since (t.lastMonday zone) t.logged
  spared : a = .purgeOldIndexedDBLogs → s.lastMonday zone ≤ s.purgedAt →
    since (s.lastMonday zone) s.systemLogs = s.systemLogs

variable {zone}

theorem Inv.purged_iff (h : Inv zone s) : Purged zone s a ↔ EndsInTime zone s a := by
  cases a with
  | purgeOldIndexedDBLogs =>
    refine iff_of_true ⟨?_, fun _ hpurged => since_eq_self.mpr (h.purged hpurged)⟩ trivial
    rintro hpurged t ⟨⟩
    have hspared : s.purgeOldIndexedDBLogs zone = s := if_pos hpurged
    rw [hspared]
    exact h.eq_since_iff.mpr (h.purged hpurged)
  | onsuccess =>
    constructor
    · intro hpurged scan hscan hend
      have hstep : step zone s .onsuccess = some { s with lastPurge := some s.now, scan := none } := by
        rw [Option.mem_def] at hscan
        simp [step, State.onsuccess, hscan, hend]
      have hexact := hpurged.exact ⟨scan, hscan, hend⟩ _ hstep
      exact (h.endsInTime_iff hscan hend).mpr (h.eq_since_iff.mp hexact) scan hscan hend
    · refine fun hintime => ⟨?_, by rintro ⟨⟩⟩
      rintro ⟨scan, hscan, hend⟩ t hstep
      have hnew := (h.endsInTime_iff hscan hend).mp hintime
      cases step_goes zone hstep with
      | deleted scan' log hscan' hlog =>
        obtain rfl : scan = scan' := Option.some.inj (hscan.symm.trans hscan')
        rw [List.getElem?_eq_none hend] at hlog
        cases hlog
      | passed scan' log hscan' hlog =>
        obtain rfl : scan = scan' := Option.some.inj (hscan.symm.trans hscan')
        rw [List.getElem?_eq_none hend] at hlog
        cases hlog
      | ended => exact h.eq_since_iff.mpr hnew
  | tick | openCursor | addIndexedDBLog | clearIndexedDBLogs =>
    exact iff_of_true ⟨fun hnone => hnone.elim, by rintro ⟨⟩⟩ trivial

/-- A scan that ends in the week of its call ends in time. -/
theorem endsInTime_of_same_week
    (h : ∀ scan ∈ s.scan, s.systemLogs.length ≤ scan.position → scan.lastMonday = s.lastMonday zone) :
    EndsInTime zone s .onsuccess := by
  intro scan hscan hend log _ hold
  rw [h scan hscan hend]
  exact hold

/-- **The weekly purge.**  Along a run in any time zone, every call that is completed leaves exactly
    the logs of the week, and the scans that are spared would delete nothing, exactly if no scan ends
    with a log in the store from a week that ended after its call. -/
theorem purged_iff_endsInTime (zone : Zone) (start : Nat) (labels : List Label) :
    Always (step zone) (Purged zone) (init start) labels ↔
      Always (step zone) (EndsInTime zone) (init start) labels :=
  always_congr (I := Inv zone) (fun _ _ h => h.purged_iff)
    (fun _ _ _ h hpurged => h.preserved (h.purged_iff.mp hpurged)) labels (inv_init start)

/-! ## A scan over a Monday midnight -/

/-- A scan is called ten milliseconds before the second Monday of 1970 and ends as many after it; the
    page is loaded again two days later. -/
def overMidnight : List Label :=
  [.addIndexedDBLog "API connection established." "success" none, .purgeOldIndexedDBLogs,
    .openCursor 0, .onsuccess, .tick 20, .onsuccess, .tick 172800000, .purgeOldIndexedDBLogs]

/-- The browser on Wednesday. -/
def onWednesday : State :=
  let log : Log := ⟨950399990, "API connection established.", "success", none⟩
  ⟨1123200010, some 950400010, [log], [], none, [log]⟩

/-- The log of Sunday is still there on Wednesday, and the scan that would delete it is spared. -/
theorem overMidnight_not_purged :
    ((exec (step (.fixed 0)) (init 950399990) overMidnight).map fun s =>
        (s.systemLogs.map Log.timestamp, s.lastPurge, s.waiting, s.lastMonday (.fixed 0))) =
      some ([950399990], some 950400010, [], 950400000) ∧
    ¬ Always (step (.fixed 0)) (Purged (.fixed 0)) (init 950399990) overMidnight := by
  refine ⟨by decide +kernel, fun h => ?_⟩
  have hrun : exec (step (.fixed 0)) (init 950399990) (overMidnight.take 7) = some onWednesday := by
    decide +kernel
  have hload : Always (step (.fixed 0)) (Purged (.fixed 0)) (init 950399990)
      (overMidnight.take 7 ++ [.purgeOldIndexedDBLogs]) := h
  have hspared := (hload.drop hrun).1.spared rfl (by decide +kernel)
  exact absurd hspared (by decide +kernel)

end

end ChirpStackSimulator.LogPurge
