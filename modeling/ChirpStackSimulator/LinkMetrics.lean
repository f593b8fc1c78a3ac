/-
  The poller of the link metrics (`internal/as/poller.go`).

  A first round over all tenants, applications and devices takes, for each device, what ChirpStack has
  counted for it today; each later round emits one event for each uplink by which the count has grown
  above the largest value the poller has seen.  ChirpStack counts by the day, so the count starts again
  from 0 at midnight (UTC), and the value the poller keeps does not.

  1. **The poll** - `pollDeviceLinkMetrics` as a function of the answer and of the map it keeps.
     Counts stay below 2^24, where sums and differences of `float32` are exact: they are natural numbers.
  2. **Rounds** - the calls a round still has to make, in order; any of them may fail, and uplinks are
     counted and days end between any two.
  3. **The law** - the events of a device are the uplinks counted for it between its baseline and its
     last successful poll (`Law`).  It fails at the first poll that finds uplinks of an earlier day, or
     whose last value is not what the poll before saw of today (`events_exact_iff`).
-/
import Mathlib.Data.List.Basic
import Mathlib.Logic.Function.Basic
import ChirpStackSimulator.Lib.Run

namespace ChirpStackSimulator.LinkMetrics

open Transition

/-! ## One poll -/

/-- A line "Uplink received from …" of the log. -/
structure Event where
  app_name : String
  dev_eui : String
  device_name : String
  tenantName : String
  deriving DecidableEq, Repr

/-- The map from `devEUI:rx` to the last count; what is not there reads 0. -/
abbrev Counts := String → Nat

/-- The key of a device's uplink count. -/
def key (devEUI : String) : String := devEUI ++ ":rx"

/-- The values of all data sets of `RxPackets`, which may be missing. -/
def rxTotal (m : Option (List (List Nat))) : Nat :=
  (m.getD []).foldl (fun rxTotal ds => ds.foldl (fun rxTotal v => rxTotal + v) rxTotal) 0

/-- What `pollDeviceLinkMetrics` does with an answer: the map after it, and the events. -/
def pollDeviceLinkMetrics (devEUI devName appName tenantName : String)
    (m : Option (List (List Nat))) (lastUplinkCount : Counts) (baselineOnly : Bool) :
    Counts × List Event :=
  let prev := lastUplinkCount (key devEUI)
  if baselineOnly then (Function.update lastUplinkCount (key devEUI) (rxTotal m), [])
  else if prev < rxTotal m then
    (Function.update lastUplinkCount (key devEUI) (rxTotal m),
      List.replicate (rxTotal m - prev) ⟨appName, devEUI, devName, tenantName⟩)
  else (lastUplinkCount, [])

/-- The events of device `e` among these. -/
def eventsOf (e : String) (events : List Event) : Nat :=
  events.countP fun event => event.dev_eui = e

@[simp] theorem eventsOf_nil (e : String) : eventsOf e [] = 0 := rfl

/-- Events of two stretches are added up. -/
theorem eventsOf_append (e : String) (l l' : List Event) :
    eventsOf e (l ++ l') = eventsOf e l + eventsOf e l' :=
  List.countP_append

theorem eventsOf_replicate (e : String) (n : Nat) (event : Event) :
    eventsOf e (List.replicate n event) = if event.dev_eui = e then n else 0 := by
  unfold eventsOf
  rw [List.countP_replicate]
  simp

section Poll

variable {devEUI devName appName tenantName e : String} {m : Option (List (List Nat))}
  {lastUplinkCount : Counts}

/-- A poll of another device emits nothing for this one. -/
theorem eventsOf_poll_of_ne (baselineOnly : Bool) (hne : devEUI ≠ e) :
    eventsOf e (pollDeviceLinkMetrics devEUI devName appName tenantName m lastUplinkCount
      baselineOnly).2 = 0 := by
  simp only [pollDeviceLinkMetrics]
  split
  · rfl
  · split
    · rw [eventsOf_replicate, if_neg hne]
    · rfl

/-- A poll of the device after the baseline emits by how much the count is above the last value. -/
theorem eventsOf_poll_watching :
    eventsOf e (pollDeviceLinkMetrics e devName appName tenantName m lastUplinkCount false).2 =
      rxTotal m - lastUplinkCount (key e) := by
  simp only [pollDeviceLinkMetrics]
  rw [if_neg Bool.false_ne_true]
  split
  · rw [eventsOf_replicate, if_pos rfl]
  · next hle => exact (Nat.sub_eq_zero_of_le (Nat.le_of_not_lt hle)).symm

end Poll

/-! ## Rounds -/

/-- An entry of a listing. -/
structure Item where
  id : String
  name : String
  deriving DecidableEq, Repr

/-- The calls of a round; the names are for the log. -/
inductive Call
  | listTenants
  | listApplications (tenant : Item)
  | listDevices (app : Item) (tenantName : String)
  | getLinkMetrics (devEUI devName appName tenantName : String)
  deriving DecidableEq, Repr

/-- The calls that come of a listing, at most a hundred. -/
def Call.next : Call → List Item → List Call
  | .listTenants, result => result.map .listApplications
  | .listApplications tenant, result => result.map fun app => .listDevices app tenant.name
  | .listDevices app tenantName, result =>
    result.map fun dev => .getLinkMetrics dev.id dev.name app.name tenantName
  | .getLinkMetrics .., _ => []

/-- Where the goroutine of the poller stands. -/
inductive Phase
  /-- The five seconds before the first round. -/
  | waiting
  | baseline
  | watching
  deriving DecidableEq, Repr

/-- After the first round it goes on watching. -/
def Phase.next : Phase → Phase
  | .waiting => .baseline
  | _ => .watching

/-- What ChirpStack counts, how far the poller is, and what the law is about. -/
structure State where
  /-- The uplinks that ChirpStack has counted for a device, and those of today among them. -/
  counted : Counts
  today : Counts
  phase : Phase
  /-- The calls that the round still has to make. -/
  pending : List Call
  lastUplinkCount : Counts
  events : List Event
  /-- What was counted at the baseline, and at the last successful poll, of a device. -/
  base : Counts
  polled : Counts
  /-- Of `today`, what the last successful poll saw; and what it missed of earlier days. -/
  seen : Counts
  missed : Counts

/-- The poller is started; `earlier` has been counted on the days before. -/
def init (earlier today : Counts) : State where
  counted := fun e => earlier e + today e
  today := today
  phase := .waiting
  pending := []
  lastUplinkCount := fun _ => 0
  events := []
  base := fun e => earlier e + today e
  polled := fun e => earlier e + today e
  seen := today
  missed := fun _ => 0

/-- What may happen next. -/
inductive Label
  /-- ChirpStack counts an uplink. -/
  | uplink (devEUI : String)
  | midnight
  /-- The wait is over, or the ticker fires; without a connection there is nothing to do. -/
  | round (connected : Bool)
  /-- The next call fails. -/
  | fail
  /-- The next call is answered: a listing, or the metrics of a device. -/
  | listed (result : List Item)
  | metrics (m : Option (List (List Nat)))
  deriving DecidableEq, Repr

/-- A round begins.  The baseline of a device that the first round does not reach is its begin. -/
def State.begin (s : State) (connected : Bool) : State :=
  let s := { s with
    phase := s.phase.next
    pending := if connected then [.listTenants] else [] }
  if s.phase = .baseline then
    { s with base := s.counted, polled := s.counted, seen := s.today, missed := fun _ => 0 }
  else s

/-- The metrics of a device are answered. -/
def State.poll (s : State) (devEUI devName appName tenantName : String)
    (m : Option (List (List Nat))) : State :=
  let baselineOnly := decide (s.phase ≠ .watching)
  let result :=
    pollDeviceLinkMetrics devEUI devName appName tenantName m s.lastUplinkCount baselineOnly
  { s with
    lastUplinkCount := result.1
    events := s.events ++ result.2
    base := if baselineOnly then Function.update s.base devEUI (s.counted devEUI) else s.base
    polled := Function.update s.polled devEUI (s.counted devEUI)
    seen := Function.update s.seen devEUI (s.today devEUI)
    missed := Function.update s.missed devEUI 0 }

/-- One step. -/
def step (s : State) : Label → Option State
  | .uplink devEUI => some { s with
      counted := Function.update s.counted devEUI (s.counted devEUI + 1)
      today := Function.update s.today devEUI (s.today devEUI + 1) }
  | .midnight => some { s with
      today := fun _ => 0
      seen := fun _ => 0
      missed := fun e => s.missed e + (s.today e - s.seen e) }
  | .round connected => if s.pending = [] then some (s.begin connected) else none
  | .fail =>
    match s.pending with
    | [] => none
    | _ :: pending => some { s with pending }
  | .listed result =>
    match s.pending with
    | [] | .getLinkMetrics .. :: _ => none
    | call :: pending =>
      if result.length ≤ 100 then some { s with pending := call.next result ++ pending } else none
  | .metrics m =>
    match s.pending with
    | .getLinkMetrics devEUI devName appName tenantName :: pending =>
      -- the aggregate of the day is what was counted today
      if rxTotal m = s.today devEUI then
        some { s.poll devEUI devName appName tenantName m with pending }
      else none
    | _ => none

/-! ## The law -/

/-- The events of a device. -/
def State.emitted (s : State) (e : String) : Nat := eventsOf e s.events

/-- The events of the device are the uplinks counted for it between its baseline and its last
    successful poll. -/
def Law (e : String) (s : State) : Prop := s.emitted e + s.base e = s.polled e

/-- The steps that keep it.  A successful poll of the device after the baseline must not find that
    uplinks were counted for it on an earlier day since the poll before; and the last value must be what
    that poll saw of today, unless nothing has come since and the last value is not below. -/
def Clean (e : String) (s : State) : Label → Prop
  | .metrics _ =>
    match s.pending with
    | .getLinkMetrics devEUI _ _ _ :: _ => devEUI = e → s.phase = .watching →
        s.missed e = 0 ∧ (s.lastUplinkCount (key e) = s.seen e ∨
          s.today e = s.seen e ∧ s.today e ≤ s.lastUplinkCount (key e))
    | _ => True
  | _ => True

instance (e : String) (s : State) (a : Label) : Decidable (Clean e s a) := by
  unfold Clean
  split
  · split <;> infer_instance
  · infer_instance

/-- What is true of a device in every run. -/
structure Sound (e : String) (s : State) : Prop where
  seen_le : s.seen e ≤ s.today e
  counted_eq : s.counted e = s.polled e + s.missed e + (s.today e - s.seen e)
  /-- Uplinks of earlier days are missed only until the next poll. -/
  missed_or_seen : s.missed e = 0 ∨ s.seen e = 0
  quiet : s.phase ≠ .watching → s.emitted e = 0 ∧ s.base e = s.polled e

/-- The poller has seen nothing yet. -/
theorem sound_init (earlier today : Counts) (e : String) : Sound e (init earlier today) where
  seen_le := Nat.le_refl _
  counted_eq := by simp [init]
  missed_or_seen := Or.inl rfl
  quiet := fun _ => ⟨rfl, rfl⟩

theorem law_init (earlier today : Counts) (e : String) : Law e (init earlier today) := by
  show 0 + _ = _
  exact Nat.zero_add _

/-! ### Soundness and the law, step by step -/

section Step

variable {s : State} {devEUI devName appName tenantName e : String} {m : Option (List (List Nat))}

/-- The fields of device `e` that count. -/
structure SameFor (e : String) (s t : State) : Prop where
  counted : t.counted e = s.counted e
  today : t.today e = s.today e
  emitted : t.emitted e = s.emitted e
  base : t.base e = s.base e
  polled : t.polled e = s.polled e
  seen : t.seen e = s.seen e
  missed : t.missed e = s.missed e

/-- The invariant depends on what concerns the device. -/
theorem SameFor.sound {t : State} (h : SameFor e s t) (hphase : t.phase = .watching ∨ t.phase = s.phase)
    (hs : Sound e s) : Sound e t where
  seen_le := by rw [h.seen, h.today]; exact hs.seen_le
  counted_eq := by rw [h.counted, h.polled, h.missed, h.today, h.seen]; exact hs.counted_eq
  missed_or_seen := by rw [h.missed, h.seen]; exact hs.missed_or_seen
  quiet := by
    intro hnot
    rw [h.emitted, h.base, h.polled]
    exact hs.quiet (hphase.resolve_left hnot ▸ hnot)

/-- So does the law. -/
theorem SameFor.law_iff {t : State} (h : SameFor e s t) : Law e t ↔ Law e s := by
  unfold Law
  rw [h.emitted, h.base, h.polled]

/-- A poll of another device. -/
theorem sameFor_poll (hne : devEUI ≠ e) :
    SameFor e s (s.poll devEUI devName appName tenantName m) where
  counted := rfl
  today := rfl
  emitted := by
    show eventsOf e (s.events ++ _) = eventsOf e s.events
    rw [eventsOf_append, eventsOf_poll_of_ne _ hne, Nat.add_zero]
  base := by
    show (if _ then Function.update s.base devEUI _ else s.base) e = s.base e
    split
    · exact Function.update_of_ne (Ne.symm hne) _ _
    · rfl
  polled := Function.update_of_ne (Ne.symm hne) _ _
  seen := Function.update_of_ne (Ne.symm hne) _ _
  missed := Function.update_of_ne (Ne.symm hne) _ _

theorem polled_poll : (s.poll e devName appName tenantName m).polled e = s.counted e :=
  Function.update_self _ _ _

theorem seen_poll : (s.poll e devName appName tenantName m).seen e = s.today e :=
  Function.update_self _ _ _

theorem missed_poll : (s.poll e devName appName tenantName m).missed e = 0 :=
  Function.update_self _ _ _

/-- Watching, a poll emits the difference to the last value. -/
theorem emitted_poll_watching (hphase : s.phase = .watching) :
    (s.poll e devName appName tenantName m).emitted e =
      s.emitted e + (rxTotal m - s.lastUplinkCount (key e)) := by
  show eventsOf e (s.events ++ (pollDeviceLinkMetrics _ _ _ _ _ _ (decide _)).2) = _
  rw [decide_eq_false (not_not.mpr hphase), eventsOf_append, eventsOf_poll_watching]
  rfl

theorem base_poll_watching (hphase : s.phase = .watching) :
    (s.poll e devName appName tenantName m).base e = s.base e := by
  show (if decide _ = true then _ else s.base) e = s.base e
  rw [decide_eq_false (not_not.mpr hphase), if_neg Bool.false_ne_true]

/-- Before the end of the baseline a poll is the baseline. -/
theorem emitted_poll_baseline (hphase : s.phase ≠ .watching) :
    (s.poll devEUI devName appName tenantName m).emitted e = s.emitted e := by
  show eventsOf e (s.events ++ (pollDeviceLinkMetrics _ _ _ _ _ _ (decide _)).2) = _
  rw [decide_eq_true hphase]
  show eventsOf e (s.events ++ []) = _
  rw [List.append_nil]
  rfl

/-- The first poll takes what was counted as its base. -/
theorem base_poll_baseline (hphase : s.phase ≠ .watching) :
    (s.poll e devName appName tenantName m).base e = s.counted e := by
  show (if decide _ = true then Function.update s.base e _ else _) e = s.counted e
  rw [decide_eq_true hphase, if_pos rfl, Function.update_self]

/-- A successful poll of the device itself. -/
theorem sound_poll (hs : Sound e s) : Sound e (s.poll e devName appName tenantName m) where
  seen_le := by rw [seen_poll]; exact Nat.le_refl _
  counted_eq := by
    rw [polled_poll, missed_poll, seen_poll]
    show s.counted e = s.counted e + 0 + (s.today e - s.today e)
    rw [Nat.sub_self, Nat.add_zero]
  missed_or_seen := Or.inl missed_poll
  quiet := by
    intro (hphase : s.phase ≠ .watching)
    rw [emitted_poll_baseline hphase, base_poll_baseline hphase, polled_poll]
    exact ⟨(hs.quiet hphase).1, rfl⟩

/-- **One poll.**  The law is kept by a poll of the device exactly when the poll is clean. -/
theorem law_poll_iff (hs : Sound e s) (hlaw : Law e s) (hm : rxTotal m = s.today e)
    (hphase : s.phase = .watching) :
    Law e (s.poll e devName appName tenantName m) ↔
      s.missed e = 0 ∧ (s.lastUplinkCount (key e) = s.seen e ∨
        s.today e = s.seen e ∧ s.today e ≤ s.lastUplinkCount (key e)) := by
  have hcount := hs.counted_eq
  have hseen := hs.seen_le
  have hmissed := hs.missed_or_seen
  unfold Law at *
  rw [emitted_poll_watching hphase, base_poll_watching hphase, polled_poll, hm]
  omega

end Step

/-! ## Runs -/

/-- After the first round it is watching for good. -/
theorem Phase.next_ne_baseline {p : Phase} (h : p ≠ .waiting) : p.next = .watching := by
  cases p with
  | waiting => exact absurd rfl h
  | baseline => rfl
  | watching => rfl

/-- The begin of a round is the begin of the baseline or changes no count. -/
theorem sound_begin {s : State} {e : String} (connected : Bool) (hs : Sound e s) :
    Sound e (s.begin connected) ∧ (Law e (s.begin connected) ↔ Law e s) := by
  by_cases hphase : s.phase = .waiting
  · have hquiet := hs.quiet (by rw [hphase]; exact Phase.noConfusion)
    have hbegin : s.begin connected = { s with
        phase := .baseline
        pending := if connected then [.listTenants] else []
        base := s.counted, polled := s.counted, seen := s.today, missed := fun _ => 0 } := by
      unfold State.begin
      rw [hphase]
      rfl
    rw [hbegin]
    refine ⟨⟨Nat.le_refl _, by simp, Or.inl rfl, fun _ => ⟨hquiet.1, rfl⟩⟩, ?_⟩
    show s.emitted e + s.counted e = s.counted e ↔ s.emitted e + s.base e = s.polled e
    rw [hquiet.1, hquiet.2]
    simp
  · have hbegin : s.begin connected = { s with
        phase := .watching, pending := if connected then [.listTenants] else [] } := by
      unfold State.begin
      rw [Phase.next_ne_baseline hphase]
      rfl
    rw [hbegin]
    have hsame : SameFor e s { s with
        phase := .watching, pending := if connected then [.listTenants] else [] } :=
      ⟨rfl, rfl, rfl, rfl, rfl, rfl, rfl⟩
    exact ⟨hsame.sound (Or.inl rfl) hs, hsame.law_iff⟩

/-- An uplink is counted, of this day and in all. -/
theorem sound_uplink {s : State} {devEUI e : String} (hs : Sound e s) :
    Sound e { s with
      counted := Function.update s.counted devEUI (s.counted devEUI + 1)
      today := Function.update s.today devEUI (s.today devEUI + 1) } := by
  have hcount := hs.counted_eq
  have hseen := hs.seen_le
  by_cases heq : e = devEUI
  · subst heq
    refine ⟨?_, ?_, hs.missed_or_seen, hs.quiet⟩
    · show s.seen e ≤ Function.update s.today e _ e
      rw [Function.update_self]
      omega
    · show Function.update s.counted e _ e = s.polled e + s.missed e + (Function.update s.today e _ e - s.seen e)
      rw [Function.update_self, Function.update_self]
      omega
  · have hsame : SameFor e s { s with
        counted := Function.update s.counted devEUI (s.counted devEUI + 1)
        today := Function.update s.today devEUI (s.today devEUI + 1) } :=
      ⟨Function.update_of_ne heq _ _, Function.update_of_ne heq _ _, rfl, rfl, rfl, rfl, rfl⟩
    exact hsame.sound (Or.inr rfl) hs

/-- The metrics of a device are answered with what was counted today. -/
theorem sound_metrics {s : State} {devEUI devName appName tenantName e : String}
    {m : Option (List (List Nat))} {pending : List Call} (hs : Sound e s)
    (hpending : s.pending = .getLinkMetrics devEUI devName appName tenantName :: pending)
    (hm : rxTotal m = s.today devEUI) :
    Sound e { s.poll devEUI devName appName tenantName m with pending } ∧
      (Law e s → (Law e { s.poll devEUI devName appName tenantName m with pending } ↔
        Clean e s (.metrics m))) := by
  have hclean : Clean e s (.metrics m) ↔ (devEUI = e → s.phase = .watching →
      s.missed e = 0 ∧ (s.lastUplinkCount (key e) = s.seen e ∨
        s.today e = s.seen e ∧ s.today e ≤ s.lastUplinkCount (key e))) := by
    simp only [Clean, hpending]
  have hpoll : SameFor e (s.poll devEUI devName appName tenantName m)
      { s.poll devEUI devName appName tenantName m with pending } :=
    ⟨rfl, rfl, rfl, rfl, rfl, rfl, rfl⟩
  rw [hclean, hpoll.law_iff]
  by_cases heq : devEUI = e
  · subst heq
    refine ⟨hpoll.sound (Or.inr rfl) (sound_poll hs), fun hlaw => ?_⟩
    by_cases hphase : s.phase = .watching
    · rw [law_poll_iff hs hlaw hm hphase]
      exact ⟨fun h _ _ => h, fun h => h rfl hphase⟩
    · refine iff_of_true ?_ (fun _ h => absurd h hphase)
      unfold Law
      rw [emitted_poll_baseline hphase, base_poll_baseline hphase, polled_poll,
        (hs.quiet hphase).1, Nat.zero_add]
  · have hsame : SameFor e s (s.poll devEUI devName appName tenantName m) := sameFor_poll heq
    refine ⟨hpoll.sound (Or.inr rfl) (hsame.sound (Or.inr rfl) hs), fun hlaw => ?_⟩
    exact iff_of_true (hsame.law_iff.mpr hlaw) (fun h => absurd h heq)

/-- **One step.**  It keeps the invariant, and the law exactly when it is clean. -/
theorem sound_step {s t : State} {a : Label} {e : String} (hs : Sound e s)
    (hstep : step s a = some t) : Sound e t ∧ (Law e s → (Law e t ↔ Clean e s a)) := by
  cases a with
  | uplink devEUI =>
    cases hstep
    exact ⟨sound_uplink hs, fun h => iff_of_true h trivial⟩
  | midnight =>
    cases hstep
    refine ⟨⟨Nat.le_refl _, ?_, Or.inr rfl, hs.quiet⟩, fun h => iff_of_true h trivial⟩
    have hcount := hs.counted_eq
    show s.counted e = s.polled e + (s.missed e + (s.today e - s.seen e)) + (0 - 0)
    omega
  | round connected =>
    simp only [step] at hstep
    split at hstep
    · cases hstep
      obtain ⟨hsound, hlaw⟩ := sound_begin (e := e) connected hs
      exact ⟨hsound, fun h => iff_of_true (hlaw.mpr h) trivial⟩
    · cases hstep
  | fail =>
    simp only [step] at hstep
    split at hstep
    · cases hstep
    · cases hstep
      exact ⟨⟨hs.seen_le, hs.counted_eq, hs.missed_or_seen, hs.quiet⟩, fun h => iff_of_true h trivial⟩
  | listed result =>
    simp only [step] at hstep
    split at hstep
    · cases hstep
    · cases hstep
    · split at hstep
      · cases hstep
        exact ⟨⟨hs.seen_le, hs.counted_eq, hs.missed_or_seen, hs.quiet⟩, fun h => iff_of_true h trivial⟩
      · cases hstep
  | metrics m =>
    simp only [step] at hstep
    split at hstep
    · next devEUI devName appName tenantName pending hpending =>
      split at hstep
      · next hm =>
        cases hstep
        exact sound_metrics hs hpending hm
      · cases hstep
    · cases hstep

/-- **The uplink events are exact.**  In every state of a run the events of a device are the uplinks
    counted for it between its baseline and its last successful poll, exactly when every poll of the
    device after the baseline found nothing of an earlier day that it had missed, and either had for
    last value what the poll before saw of today or found nothing new at or below it. -/
theorem events_exact_iff (e : String) (earlier today : Counts) {labels : List Label} {t : State}
    (ht : exec step (init earlier today) labels = some t) :
    Throughout step (Law e) (init earlier today) labels ↔
      Always step (Clean e) (init earlier today) labels :=
  throughout_iff_always (I := Sound e) (fun _ _ _ hs h => (sound_step hs h).1)
    (fun _ _ _ hs hlaw h => (sound_step hs h).2 hlaw) (sound_init earlier today e)
    (law_init earlier today e) ht

/-- A round over one tenant with one application and one device, whose count is `n`. -/
def oneRound (n : Nat) : List Label :=
  [.round true, .listed [⟨"t", "Tenant"⟩], .listed [⟨"a", "App"⟩], .listed [⟨"d", "Device"⟩],
    .metrics (some [[n]])]

/-- On the day of the baseline the events are exact: two uplinks, two events. -/
theorem events_exact_iff_sameDay :
    ∃ t, exec step (init (fun _ => 3) fun _ => 1) (oneRound 1 ++ [.uplink "d", .uplink "d"] ++
        oneRound 3) = some t ∧ (t.emitted "d" = 2) ∧
      Throughout step (Law "d") (init (fun _ => 3) fun _ => 1)
        (oneRound 1 ++ [.uplink "d", .uplink "d"] ++ oneRound 3) := by
  exact ⟨_, rfl, by decide +kernel, (events_exact_iff "d" _ _ rfl).mpr (by decide +kernel)⟩

/-- One uplink before midnight and one after it: the second count is not above the first. -/
theorem midnight_not_law :
    ∃ t, exec step (init (fun _ => 0) fun _ => 1) (oneRound 1 ++ [.midnight, .uplink "d"] ++
        oneRound 1) = some t ∧ ¬ Law "d" t := by
  refine ⟨_, rfl, ?_⟩
  unfold Law
  decide +kernel

end ChirpStackSimulator.LinkMetrics
