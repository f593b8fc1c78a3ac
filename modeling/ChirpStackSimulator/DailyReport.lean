/-
  The daily report (`internal/api/report.go`).

  A check every ten minutes starts an attempt when the stored date is not today's; the attempt is a
  goroutine of its own, sends the report, tries three times more half an hour apart, and stores its own
  date once a send has succeeded.  Until then each check starts another attempt, and an attempt that
  sleeps past midnight, or past the success of another one, sends all the same.

  1. **Steps** - the clock, the checks, and what each attempt does next, in any order that the ten
     minutes and the half hours allow.  The process may be started again; the stored date stays.
  2. **The law** - at most one report is delivered on a date, and for a date; the stored date never
     goes back (`Law`).
  3. **Clean runs** - a send succeeds only while the check that started the attempt would start it
     still, and no other success waits to be stored or was lost (`Clean`).  Every date of a delivery is
     then the stored one, or an older one, or that of an attempt whose success is not stored
     (`Sound.known`), and the law holds in every state (`report_once_a_day`).
-/
import Mathlib.Data.List.Nodup
import Mathlib.Data.Nat.Basic
import Mathlib.Order.Monotone.Defs
import ChirpStackSimulator.Lib.Objects
import ChirpStackSimulator.Lib.Run

namespace ChirpStackSimulator.DailyReport

open Transition

/-! ## Attempts -/

/-- Where `sendEmailWithRetry` stands. -/
inductive Pc
  | sending
  /-- In the sleep before the next retry. -/
  | sleeping (until_ : Nat)
  /-- The send has succeeded, and its date is being saved. -/
  | saving
  /-- It has succeeded, and its date was not saved. -/
  | unsaved
  | returned
  deriving DecidableEq, Repr

/-- A call of `sendEmailWithRetry`, with the number of its retries so far. -/
structure Attempt where
  today : Nat
  i : Nat
  pc : Pc
  deriving DecidableEq, Repr

/-- A report that was delivered, and when. -/
structure Delivery where
  today : Nat
  on : Nat
  deriving DecidableEq, Repr

/-- Times are in minutes; dates are numbered. -/
structure State where
  now : Nat
  /-- When the ticker fires next. -/
  nextTick : Nat
  /-- `last_report_sent_date`; nothing at first. -/
  lastSent : Option Nat
  attempts : List Attempt
  delivered : List Delivery
  /-- The dates stored so far, the first one first. -/
  saved : List Nat
  deriving DecidableEq, Repr

def init (start : Nat) : State := ⟨start, start, none, [], [], []⟩

inductive Label
  /-- The clock goes on. -/
  | pass (minutes : Nat)
  /-- The first check or that of a tick; the mails may be off, the stored date unreadable. -/
  | check (enabled readable : Bool)
  /-- The send of the `k`-th attempt succeeds or fails. -/
  | sent (k : Nat)
  | failed (k : Nat)
  /-- Its sleep is over. -/
  | wake (k : Nat)
  /-- Its date is saved or not. -/
  | saved (k : Nat)
  | saveFailed (k : Nat)
  /-- The process is started again. -/
  | restart
  deriving DecidableEq, Repr

/-- The next tick after `now`; the ticker drops those that nobody has taken. -/
def State.tickAfter (s : State) : Nat := s.nextTick + 10 * ((s.now - s.nextTick) / 10 + 1)

/-- `checkAndSendReport`, at the date `today`. -/
def checkAndSendReport (today : Nat) (enabled readable : Bool) (s : State) : State :=
  if !enabled then s
  else if !readable then s
  else if s.lastSent = some today then s
  else { s with attempts := s.attempts ++ [⟨today, 0, .sending⟩] }

/-- The `k`-th attempt, which is `c`, goes on to `pc`. -/
def State.move (s : State) (k : Nat) (c : Attempt) (pc : Pc) : State :=
  { s with attempts := s.attempts.set k { c with pc } }

/-- After a send that failed: the next retry, or the end. -/
def State.retry (s : State) (k : Nat) (c : Attempt) : State :=
  if c.i < 3 then
    { s with attempts := s.attempts.set k { c with i := c.i + 1, pc := .sleeping (s.now + 30) } }
  else s.move k c .returned

/-- What is left of an attempt when the process ends. -/
def Attempt.ended (c : Attempt) : Attempt :=
  { c with pc := if c.pc = .saving ∨ c.pc = .unsaved then .unsaved else .returned }

/-- One step; `date` is the calendar. -/
def step (date : Nat → Nat) (s : State) : Label → Option State
  | .pass minutes => some { s with now := s.now + minutes }
  | .check enabled readable =>
    if s.nextTick ≤ s.now then
      some (checkAndSendReport (date s.now) enabled readable { s with nextTick := s.tickAfter })
    else none
  | .sent k =>
    match s.attempts[k]? with
    | some c =>
      if c.pc = .sending then
        some { s.move k c .saving with delivered := s.delivered ++ [⟨c.today, date s.now⟩] }
      else none
    | none => none
  | .failed k =>
    match s.attempts[k]? with
    | some c => if c.pc = .sending then some (s.retry k c) else none
    | none => none
  | .wake k =>
    match s.attempts[k]? with
    | some c =>
      match c.pc with
      | .sleeping until_ => if until_ ≤ s.now then some (s.move k c .sending) else none
      | _ => none
    | none => none
  | .saved k =>
    match s.attempts[k]? with
    | some c =>
      if c.pc = .saving then
        some { s.move k c .returned with lastSent := some c.today, saved := s.saved ++ [c.today] }
      else none
    | none => none
  | .saveFailed k =>
    match s.attempts[k]? with
    | some c => if c.pc = .saving then some (s.move k c .unsaved) else none
    | none => none
  | .restart => some { s with attempts := s.attempts.map .ended, nextTick := s.now }

/-! ## The law -/

/-- At most one report is delivered on a date, and at most one for a date; and the stored date never
    goes back. -/
structure Law (s : State) : Prop where
  on : (s.delivered.map (·.on)).Nodup
  today : (s.delivered.map (·.today)).Nodup
  saved : s.saved.Pairwise (· ≤ ·)

/-- The steps that keep it.  A send succeeds only on the date of its attempt and while another date is
    stored, so that the check would still start the attempt; and no success of another attempt is being
    saved, or was not saved for the same date. -/
def Clean (date : Nat → Nat) (s : State) : Label → Prop
  | .sent k => ∀ c ∈ s.attempts[k]?, c.today = date s.now ∧ s.lastSent ≠ some c.today ∧
      ∀ other ∈ s.attempts, other.pc ≠ .saving ∧ (other.pc = .unsaved → other.today ≠ c.today)
  | _ => True

instance (date : Nat → Nat) (s : State) (a : Label) : Decidable (Clean date s a) := by
  cases a <;> unfold Clean <;> infer_instance

/-! ## The invariant of clean runs -/

/-- Its send has succeeded, and its date is not stored. -/
def Attempt.Open (c : Attempt) : Prop := c.pc = .saving ∨ c.pc = .unsaved

structure Sound (date : Nat → Nat) (s : State) : Prop where
  stored_le : ∀ d ∈ s.lastSent, d ≤ date s.now
  attempt_le : ∀ c ∈ s.attempts, c.today ≤ date s.now
  /-- At most one date is being saved, and it is none that goes back. -/
  one_saving : ∀ (i j : Nat) (c d : Attempt), s.attempts[i]? = some c → s.attempts[j]? = some d →
    c.pc = .saving → d.pc = .saving → i = j
  saving_ge : ∀ c ∈ s.attempts, c.pc = .saving → ∀ d ∈ s.lastSent, d ≤ c.today
  saved_le : ∀ d ∈ s.saved, ∃ d' ∈ s.lastSent, d ≤ d'
  /-- A report is delivered on its own date. -/
  own : ∀ x ∈ s.delivered, x.on = x.today
  /-- The date of a delivery is the stored one, an older one, or still open. -/
  known : ∀ x ∈ s.delivered, (∃ d ∈ s.lastSent, x.today ≤ d) ∨
    ∃ c ∈ s.attempts, c.Open ∧ c.today = x.today
  law : Law s

theorem sound_init (date : Nat → Nat) (start : Nat) : Sound date (init start) where
  stored_le := by intro d hd; cases hd
  attempt_le := by intro c hc; cases hc
  one_saving := by intro i j c d hc; cases hc
  saving_ge := by intro c hc; cases hc
  saved_le := by intro d hd; cases hd
  own := by intro x hx; cases hx
  known := by intro x hx; cases hx
  law := ⟨List.nodup_nil, List.nodup_nil, List.Pairwise.nil⟩

section Steps

variable {date : Nat → Nat} {s t : State}

/-- **Attempts that go on.**  A step that changes the attempts only, makes none of them saving, and
    keeps the open dates. -/
theorem Sound.attempts (hs : Sound date s) (hnow : t.now = s.now) (hlast : t.lastSent = s.lastSent)
    (hdelivered : t.delivered = s.delivered) (hsaved : t.saved = s.saved)
    (hle : ∀ c ∈ t.attempts, c.today ≤ date s.now)
    (hsaving : ∀ (i : Nat) (c : Attempt), t.attempts[i]? = some c → c.pc = .saving →
      s.attempts[i]? = some c)
    (hopen : ∀ c ∈ s.attempts, c.Open → ∃ d ∈ t.attempts, d.Open ∧ d.today = c.today) :
    Sound date t where
  stored_le := by rw [hlast, hnow]; exact hs.stored_le
  attempt_le := by rw [hnow]; exact hle
  one_saving := by
    intro i j c d hi hj hc hd
    exact hs.one_saving i j c d (hsaving i c hi hc) (hsaving j d hj hd) hc hd
  saving_ge := by
    intro c hc hpc
    obtain ⟨i, hi⟩ := List.mem_iff_getElem?.mp hc
    rw [hlast]
    exact hs.saving_ge c (List.mem_of_getElem? (hsaving i c hi hpc)) hpc
  saved_le := by rw [hsaved, hlast]; exact hs.saved_le
  own := by rw [hdelivered]; exact hs.own
  known := by
    intro x hx
    rw [hdelivered] at hx
    rw [hlast]
    rcases hs.known x hx with hstored | ⟨c, hc, hpc, htoday⟩
    · exact Or.inl hstored
    · obtain ⟨d, hd, hd_open, hd_today⟩ := hopen c hc hpc
      exact Or.inr ⟨d, hd, hd_open, hd_today.trans htoday⟩
  law := by
    obtain ⟨hon, htoday, hsorted⟩ := hs.law
    exact ⟨by rw [hdelivered]; exact hon, by rw [hdelivered]; exact htoday,
      by rw [hsaved]; exact hsorted⟩

/-- One attempt of the same date, that does not save, in the place of another. -/
theorem Sound.set (hs : Sound date s) {k : Nat} {c : Attempt} (hk : s.attempts[k]? = some c)
    (d : Attempt) (htoday : d.today = c.today) (hsaving : d.pc ≠ .saving)
    (hopen : c.Open → d.Open) : Sound date { s with attempts := s.attempts.set k d } := by
  refine hs.attempts rfl rfl rfl rfl ?_ ?_ ?_
  · intro x hx
    rcases List.mem_or_eq_of_mem_set hx with hx | rfl
    · exact hs.attempt_le x hx
    · rw [htoday]
      exact hs.attempt_le c (List.mem_of_getElem? hk)
  · intro i x hi hpc
    rcases Objects.of_lookup_set hi with ⟨-, rfl⟩ | ⟨-, hi⟩
    · exact absurd hpc hsaving
    · exact hi
  · intro x hx hx_open
    rcases Objects.eq_or_mem_set hk d hx with rfl | hx
    · have hlt : k < s.attempts.length := (List.getElem?_eq_some_iff.mp hk).1
      exact ⟨d, List.mem_set hlt d, hopen hx_open, htoday⟩
    · exact ⟨x, hx, hx_open, rfl⟩

theorem sound_pass (hdate : Monotone date) (hs : Sound date s) (minutes : Nat) :
    Sound date { s with now := s.now + minutes } := by
  have hle : date s.now ≤ date (s.now + minutes) := hdate (Nat.le_add_right _ _)
  exact ⟨fun d hd => (hs.stored_le d hd).trans hle, fun c hc => (hs.attempt_le c hc).trans hle,
    hs.one_saving, hs.saving_ge, hs.saved_le, hs.own, hs.known,
    ⟨hs.law.on, hs.law.today, hs.law.saved⟩⟩

theorem sound_check (hs : Sound date s) (enabled readable : Bool) :
    Sound date (checkAndSendReport (date s.now) enabled readable s) := by
  unfold checkAndSendReport
  split
  · exact hs
  · split
    · exact hs
    · split
      · exact hs
      · refine hs.attempts rfl rfl rfl rfl ?_ ?_ ?_
        · intro c hc
          rcases List.mem_append.mp hc with hc | hc
          · exact hs.attempt_le c hc
          · rw [List.mem_singleton.mp hc]
        · intro i c hi hpc
          rcases Objects.lookup_append.mp hi with hi | ⟨-, rfl⟩
          · exact hi
          · -- the new attempt is sending
            cases hpc
        · exact fun c hc hopen => ⟨c, List.mem_append_left _ hc, hopen, rfl⟩

/-- The end of the process. -/
theorem sound_restart (hs : Sound date s) :
    Sound date { s with attempts := s.attempts.map .ended, nextTick := s.now } := by
  refine hs.attempts rfl rfl rfl rfl ?_ ?_ ?_
  · intro c hc
    obtain ⟨d, hd, rfl⟩ := List.mem_map.mp hc
    exact hs.attempt_le d hd
  · intro i c hi hpc
    have hmem : c ∈ s.attempts.map .ended := List.mem_of_getElem? hi
    obtain ⟨d, -, rfl⟩ := List.mem_map.mp hmem
    simp only [Attempt.ended] at hpc
    split at hpc <;> cases hpc
  · intro c hc hopen
    refine ⟨c.ended, List.mem_map_of_mem hc, Or.inr ?_, rfl⟩
    show (if c.pc = .saving ∨ c.pc = .unsaved then Pc.unsaved else .returned) = .unsaved
    exact if_pos hopen

/-- **A success.**  No report was delivered on this date, for the date would be stored or open. -/
theorem sound_sent (hs : Sound date s) {k : Nat} {c : Attempt} (hk : s.attempts[k]? = some c)
    (hclean : Clean date s (.sent k)) :
    Sound date { s.move k c .saving with delivered := s.delivered ++ [⟨c.today, date s.now⟩] } := by
  obtain ⟨htoday, hnot, hother⟩ := hclean c hk
  have hnew : ∀ x ∈ s.delivered, x.today ≠ c.today := by
    intro x hx heq
    rcases hs.known x hx with ⟨d, hd, hle⟩ | ⟨d, hd, hopen, hd_today⟩
    · have hdle := hs.stored_le d hd
      have hdc : d = c.today := by omega
      rw [hdc] at hd
      exact hnot hd
    · obtain ⟨hsaving, hunsaved⟩ := hother d hd
      rcases hopen with hpc | hpc
      · exact hsaving hpc
      · exact hunsaved hpc (hd_today.trans heq)
  have hself : (s.attempts.set k { c with pc := .saving })[k]? = some { c with pc := .saving } :=
    Objects.set_self hk
  refine ⟨hs.stored_le, ?_, ?_, ?_, hs.saved_le, ?_, ?_, ?_, ?_, hs.law.saved⟩
  · intro x hx
    rcases List.mem_or_eq_of_mem_set hx with hx | rfl
    · exact hs.attempt_le x hx
    · exact hs.attempt_le c (List.mem_of_getElem? hk)
  · -- no other attempt is saving
    have honly : ∀ (i : Nat) (x : Attempt),
        (s.attempts.set k { c with pc := .saving })[i]? = some x → x.pc = .saving → i = k := by
      intro i x hi hpc
      rcases Objects.of_lookup_set hi with ⟨hik, -⟩ | ⟨-, hi⟩
      · exact hik
      · exact absurd hpc (hother x (List.mem_of_getElem? hi)).1
    intro i j x y hi hj hx hy
    exact (honly i x hi hx).trans (honly j y hj hy).symm
  · intro x hx hpc d hd
    rcases List.mem_or_eq_of_mem_set hx with hx | rfl
    · exact absurd hpc (hother x hx).1
    · show d ≤ c.today
      rw [htoday]
      exact hs.stored_le d hd
  · intro x hx
    rcases List.mem_append.mp hx with hx | hx
    · exact hs.own x hx
    · rw [List.mem_singleton.mp hx]
      exact htoday.symm
  · intro x hx
    rcases List.mem_append.mp hx with hx | hx
    · have hx_new : x.today ≠ c.today := hnew x hx
      rcases hs.known x hx with hstored | ⟨d, hd, hopen, hd_today⟩
      · exact Or.inl hstored
      · rcases Objects.eq_or_mem_set hk { c with pc := .saving } hd with rfl | hd
        · exact absurd hd_today.symm hx_new
        · exact Or.inr ⟨d, hd, hopen, hd_today⟩
    · rw [List.mem_singleton.mp hx]
      exact Or.inr ⟨_, List.mem_of_getElem? hself, Or.inl rfl, rfl⟩
  · rw [List.map_append, List.nodup_append]
    refine ⟨hs.law.on, List.nodup_singleton _, ?_⟩
    rintro _ hx _ hy rfl
    obtain ⟨x, hx, hxy⟩ := List.mem_map.mp hx
    rw [List.map_singleton, List.mem_singleton] at hy
    refine hnew x hx ?_
    rw [← hs.own x hx, hxy, hy]
    exact htoday.symm
  · rw [List.map_append, List.nodup_append]
    refine ⟨hs.law.today, List.nodup_singleton _, ?_⟩
    rintro _ hx _ hy rfl
    obtain ⟨x, hx, hxy⟩ := List.mem_map.mp hx
    rw [List.map_singleton, List.mem_singleton] at hy
    exact hnew x hx (hxy.trans hy)

/-- **A date is stored.**  It is not below the one stored before. -/
theorem sound_saved (hs : Sound date s) {k : Nat} {c : Attempt} (hk : s.attempts[k]? = some c)
    (hpc : c.pc = .saving) :
    Sound date { s.move k c .returned with
      lastSent := some c.today, saved := s.saved ++ [c.today] } := by
  have hc : c ∈ s.attempts := List.mem_of_getElem? hk
  have hge := hs.saving_ge c hc hpc
  have hnone : ∀ (i : Nat) (x : Attempt),
      (s.attempts.set k { c with pc := .returned })[i]? = some x → x.pc ≠ .saving := by
    intro i x hi hx
    rcases Objects.of_lookup_set hi with ⟨-, rfl⟩ | ⟨hik, hi⟩
    · cases hx
    · exact hik (hs.one_saving i k x c hi hk hx hpc)
  have hsaved : ∀ d ∈ s.saved, d ≤ c.today := by
    intro d hd
    obtain ⟨d', hd', hle⟩ := hs.saved_le d hd
    exact hle.trans (hge d' hd')
  refine ⟨?_, ?_, ?_, ?_, ?_, hs.own, ?_, hs.law.on, hs.law.today, ?_⟩
  · intro d hd
    cases hd
    exact hs.attempt_le c hc
  · intro x hx
    rcases List.mem_or_eq_of_mem_set hx with hx | rfl
    · exact hs.attempt_le x hx
    · exact hs.attempt_le c hc
  · intro i j x y hi hj hx hy
    exact absurd hx (hnone i x hi)
  · intro x hx hx_pc
    obtain ⟨i, hi⟩ := List.mem_iff_getElem?.mp hx
    exact absurd hx_pc (hnone i x hi)
  · intro d hd
    refine ⟨c.today, rfl, ?_⟩
    rcases List.mem_append.mp hd with hd | hd
    · exact hsaved d hd
    · rw [List.mem_singleton.mp hd]
  · intro x hx
    rcases hs.known x hx with ⟨d, hd, hle⟩ | ⟨d, hd, hopen, hd_today⟩
    · exact Or.inl ⟨c.today, rfl, hle.trans (hge d hd)⟩
    · rcases Objects.eq_or_mem_set hk { c with pc := .returned } hd with rfl | hd
      · exact Or.inl ⟨_, rfl, hd_today.symm.le⟩
      · exact Or.inr ⟨d, hd, hopen, hd_today⟩
  · rw [List.pairwise_append]
    refine ⟨hs.law.saved, List.pairwise_singleton _ _, ?_⟩
    intro d hd d' hd'
    rw [List.mem_singleton.mp hd']
    exact hsaved d hd

/-- **One step.**  A clean step keeps the invariant. -/
theorem sound_step (hdate : Monotone date) {a : Label} (hs : Sound date s)
    (hclean : Clean date s a) (hstep : step date s a = some t) : Sound date t := by
  cases a with
  | pass minutes =>
    cases hstep
    exact sound_pass hdate hs minutes
  | check enabled readable =>
    simp only [step] at hstep
    split at hstep
    · cases hstep
      have htick : Sound date { s with nextTick := s.tickAfter } :=
        hs.attempts rfl rfl rfl rfl hs.attempt_le (fun i c hi _ => hi)
          (fun c hc hopen => ⟨c, hc, hopen, rfl⟩)
      exact sound_check htick enabled readable
    · cases hstep
  | sent k =>
    simp only [step] at hstep
    split at hstep
    · next c hk =>
      split at hstep
      · cases hstep
        exact sound_sent hs hk hclean
      · cases hstep
    · cases hstep
  | failed k =>
    simp only [step] at hstep
    split at hstep
    · next c hk =>
      split at hstep
      · next hpc =>
        cases hstep
        have hnot : ¬ c.Open := by rintro (h | h) <;> rw [hpc] at h <;> cases h
        unfold State.retry
        split
        · exact hs.set hk { c with i := c.i + 1, pc := .sleeping (s.now + 30) } rfl Pc.noConfusion
            (fun h => absurd h hnot)
        · exact hs.set hk { c with pc := .returned } rfl Pc.noConfusion (fun h => absurd h hnot)
      · cases hstep
    · cases hstep
  | wake k =>
    simp only [step] at hstep
    split at hstep
    · next c hk =>
      split at hstep
      · next hpc =>
        split at hstep
        · cases hstep
          have hnot : ¬ c.Open := by rintro (h | h) <;> rw [hpc] at h <;> cases h
          exact hs.set hk { c with pc := .sending } rfl Pc.noConfusion (fun h => absurd h hnot)
        · cases hstep
      · cases hstep
    · cases hstep
  | saved k =>
    simp only [step] at hstep
    split at hstep
    · next c hk =>
      split at hstep
      · next hpc =>
        cases hstep
        exact sound_saved hs hk hpc
      · cases hstep
    · cases hstep
  | saveFailed k =>
    simp only [step] at hstep
    split at hstep
    · next c hk =>
      split at hstep
      · cases hstep
        exact hs.set hk { c with pc := .unsaved } rfl Pc.noConfusion (fun _ => Or.inr rfl)
      · cases hstep
    · cases hstep
  | restart =>
    cases hstep
    exact sound_restart hs

end Steps

/-- **The daily report.**  Along a run in which a send succeeds only while the check that started the
    attempt would still start it, and no other success of that date is unsaved, at most one report is
    delivered on each date, and the stored date never goes back. -/
theorem report_once_a_day {date : Nat → Nat} (hdate : Monotone date) (start : Nat)
    {labels : List Label} (hclean : Always (step date) (Clean date) (init start) labels) :
    Throughout (step date) Law (init start) labels := by
  have hrun : ∀ {labels : List Label} {s : State}, Sound date s →
      Always (step date) (Clean date) s labels → Throughout (step date) Law s labels := by
    intro labels
    induction labels with
    | nil => exact fun hs _ => hs.law
    | cons a labels ih =>
      intro s hs hclean
      exact ⟨hs.law, fun t ht => ih (sound_step hdate hs hclean.1 ht) (hclean.2 t ht)⟩
  exact hrun (sound_init date start) hclean

/-- The report of the first day is sent at once, that of the second day on the first retry. -/
def secondDay : List Label :=
  [.check true true, .sent 0, .saved 0, .pass 1440, .check true true, .failed 1, .pass 30, .wake 1,
    .sent 1, .saved 1, .pass 10, .check true true]

theorem report_once_a_day_secondDay :
    (exec (step (· / 1440)) (init 480) secondDay).isSome ∧
      Throughout (step (· / 1440)) Law (init 480) secondDay :=
  ⟨by decide, report_once_a_day (fun _ _ h => Nat.div_le_div_right h) 480 (by decide)⟩

/-- The first send of a day fails, the check ten minutes later starts another attempt, whose send
    succeeds; and half an hour after the failure the retry succeeds too. -/
theorem retry_after_success_not_law :
    ¬ Throughout (step (· / 1440)) Law (init 480)
      [.check true true, .failed 0, .pass 10, .check true true, .sent 1, .saved 1, .pass 20, .wake 0,
        .sent 0] := by
  intro h
  have hlast := h.last (t := ⟨510, 500, some 0, [⟨0, 1, .saving⟩, ⟨0, 0, .returned⟩],
    [⟨0, 0⟩, ⟨0, 0⟩], [0]⟩) (by decide)
  exact absurd hlast.on (by decide)

end ChirpStackSimulator.DailyReport
