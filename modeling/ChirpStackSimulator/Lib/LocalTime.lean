/-
  Local time as the dates of a browser read it.  A time is a number of milliseconds since the epoch,
  and a local time is one that is shifted so that its days begin at the local midnights.

  1. **Days** - the day, the day of the week and the day of the month.  The last Monday midnight is a
     floor: a Monday midnight is before a time exactly if it is before that one (`le_lastMonday_iff`).

  2. **Zones** - from times to local times and back.  All that is asked of a zone is that its Mondays
     are whole: the clock stands past a Monday midnight from the time on that this midnight is read
     as, and a time of a Monday is read as one of the same day.  The begin of the week
     (`Zone.weekBegin`) is then a floor of the times too (`Zone.weekBegin_floor`).

  3. **Clocks that are changed** - the offset to the local time is another after each change.  A local
     time that comes twice is read as the first, and one that is skipped with the offset before the
     change.  If no change passes a time of a Monday, the Mondays are whole (`Zone.ofChanges`).
-/
import Mathlib.Data.Int.Order.Basic

namespace LocalTime

/-! ## Days -/

/-- `Day`: the number of the day, where 0 is the first of January 1970. -/
def day (t : Int) : Int := t / 86400000

/-- `TimeWithinDay`. -/
def timeWithinDay (t : Int) : Int := t % 86400000

/-- `WeekDay`: 0 is Sunday, and the first day was a Thursday. -/
def weekDay (t : Int) : Int := (day t + 4) % 7

/-- `MakeTime`. -/
def makeTime (hour min sec ms : Int) : Int := hour * 3600000 + min * 60000 + sec * 1000 + ms

/-- `MakeDate`. -/
def makeDate (day time : Int) : Int := day * 86400000 + time

/-- The day of the month.  The years are counted from March on, so that a leap day is the last of its
    year, in eras of 400 years. -/
def dateFromDay (day : Int) : Int :=
  let dayOfEra := (day + 719468) % 146097
  let yearOfEra := (dayOfEra - dayOfEra / 1460 + dayOfEra / 36524 - dayOfEra / 146096) / 365
  let dayOfYear := dayOfEra - (365 * yearOfEra + yearOfEra / 4 - yearOfEra / 100)
  let month := (5 * dayOfYear + 2) / 153
  dayOfYear - (153 * month + 2) / 5 + 1

example : dateFromDay 0 = 1 ∧ dateFromDay 58 = 28 ∧ dateFromDay 59 = 1 ∧ dateFromDay 11016 = 29 := by
  decide

/-- A midnight with which a Monday begins. -/
def MondayMidnight (l : Int) : Prop := weekDay l = 1 ∧ timeWithinDay l = 0

/-- The Monday midnight with which the week of a local time began. -/
def lastMonday (l : Int) : Int := makeDate (day l - (weekDay l + 6) % 7) 0

theorem mondayMidnight_lastMonday (l : Int) : MondayMidnight (lastMonday l) := by
  unfold MondayMidnight lastMonday makeDate weekDay timeWithinDay day
  omega

/-- **The last Monday midnight is a floor.** -/
theorem le_lastMonday_iff {m : Int} (hm : MondayMidnight m) (l : Int) : m ≤ lastMonday l ↔ m ≤ l := by
  unfold MondayMidnight weekDay timeWithinDay day at hm
  unfold lastMonday makeDate weekDay day
  omega

theorem lastMonday_le (l : Int) : lastMonday l ≤ l :=
  (le_lastMonday_iff (mondayMidnight_lastMonday l) l).mp (Int.le_refl _)

/-! ## Floors -/

/-- Each time belongs to the period that began with its floor. -/
structure Floor {τ : Type*} [LE τ] (f : τ → τ) : Prop where
  le (t : τ) : f t ≤ t
  /-- A period that has begun is that of the time, or one before. -/
  le_of_le {s t : τ} : f s ≤ t → f s ≤ f t

theorem Floor.mono {τ : Type*} [Preorder τ] {f : τ → τ} (h : Floor f) {s t : τ} (hst : s ≤ t) :
    f s ≤ f t :=
  h.le_of_le (le_trans (h.le s) hst)

/-! ## Zones -/

/-- A time zone: the local time, and the time a local time is read as. -/
structure Zone where
  localTime : Int → Int
  utc : Int → Int
  utc_monday_le_iff {l : Int} : MondayMidnight l → ∀ t, utc l ≤ t ↔ l ≤ localTime t
  day_utc_monday {l : Int} : weekDay l = 1 → day (localTime (utc l)) = day l

namespace Zone

variable (zone : Zone)

/-- `getDay`. -/
def getDay (t : Int) : Int := weekDay (zone.localTime t)

/-- `getDate`. -/
def getDate (t : Int) : Int := dateFromDay (day (zone.localTime t))

/-- `setDate`: the days are counted from the first of the month, beyond its ends as well. -/
def setDate (t date : Int) : Int :=
  let l := zone.localTime t
  let firstOfMonth := day l - dateFromDay (day l) + 1
  zone.utc (makeDate (firstOfMonth + date - 1) (timeWithinDay l))

/-- `setHours`. -/
def setHours (t hour min sec ms : Int) : Int :=
  zone.utc (makeDate (day (zone.localTime t)) (makeTime hour min sec ms))

/-- The time at which the week of a time began. -/
def weekBegin (t : Int) : Int := zone.utc (lastMonday (zone.localTime t))

/-- **The begin of the week is a floor.** -/
theorem weekBegin_floor : Floor zone.weekBegin := by
  have hmonday (t : Int) := mondayMidnight_lastMonday (zone.localTime t)
  refine ⟨fun t => ?_, fun {s t} hle => ?_⟩
  · exact (zone.utc_monday_le_iff (hmonday t) t).mpr (lastMonday_le _)
  · have hbegun : lastMonday (zone.localTime s) ≤ lastMonday (zone.localTime t) :=
      (le_lastMonday_iff (hmonday s) _).mpr ((zone.utc_monday_le_iff (hmonday s) t).mp hle)
    have hself : lastMonday (zone.localTime t) ≤ zone.localTime (zone.weekBegin t) :=
      (zone.utc_monday_le_iff (hmonday t) _).mp (Int.le_refl _)
    exact (zone.utc_monday_le_iff (hmonday s) _).mpr (Int.le_trans hbegun hself)

/-- The Monday of the week, found by its date, and its midnight. -/
theorem setHours_setDate (t : Int) :
    zone.setHours (zone.setDate t (zone.getDate t - (zone.getDay t + 6) % 7)) 0 0 0 0 =
      zone.weekBegin t := by
  -- the time of that Monday at which it is as late as now
  have hdate : zone.setDate t (zone.getDate t - (zone.getDay t + 6) % 7) =
      zone.utc (makeDate (day (zone.localTime t) - (zone.getDay t + 6) % 7)
        (timeWithinDay (zone.localTime t))) := by
    unfold setDate getDate
    dsimp only
    congr 2
    omega
  have hmonday : weekDay (makeDate (day (zone.localTime t) - (zone.getDay t + 6) % 7)
      (timeWithinDay (zone.localTime t))) = 1 := by
    unfold getDay makeDate timeWithinDay weekDay day
    omega
  have hday : day (makeDate (day (zone.localTime t) - (zone.getDay t + 6) % 7)
      (timeWithinDay (zone.localTime t))) = day (zone.localTime t) - (zone.getDay t + 6) % 7 := by
    unfold makeDate timeWithinDay day
    omega
  rw [hdate, setHours, zone.day_utc_monday hmonday, hday]
  rfl

end Zone

/-! ## Clocks that are changed -/

/-- A change of the clock, and the offset after it. -/
structure Change where
  instant : Int
  offset : Int
  deriving DecidableEq, Repr

/-- The change passes no time of a Monday, neither forwards nor back. -/
def Change.LeavesMondays (c : Change) (offset : Int) : Prop :=
  ∀ l, weekDay l = 1 → (c.instant + offset ≤ l ↔ c.instant + c.offset ≤ l)

/-- Changes one after another, from an offset on, that leave the Mondays alone. -/
def Changes (offset : Int) : List Change → Prop
  | [] => True
  | c :: cs => c.LeavesMondays offset ∧ (∀ d ∈ cs, c.instant ≤ d.instant) ∧ Changes c.offset cs

/-- The local time, where the clock has the offset up to the first change. -/
def localTime (offset : Int) : List Change → Int → Int
  | [], t => t + offset
  | c :: cs, t => if t < c.instant then t + offset else localTime c.offset cs t

/-- The time that a local time is read as. -/
def utc (offset : Int) : List Change → Int → Int
  | [], l => l - offset
  | c :: cs, l =>
    if l - offset < c.instant then l - offset
    else if l - c.offset < c.instant then l - offset -- skipped by the change
    else utc c.offset cs l

/-- A local time that comes after a time with the first offset is not read as one before. -/
theorem le_utc {b l offset : Int} {cs : List Change} (hl : b ≤ l - offset)
    (hcs : ∀ c ∈ cs, b ≤ c.instant) : b ≤ utc offset cs l := by
  induction cs generalizing offset with
  | nil => exact hl
  | cons c cs ih =>
    rw [List.forall_mem_cons] at hcs
    unfold utc
    split
    · exact hl
    · split
      · exact hl
      · exact ih (by omega) hcs.2

section
variable {offset l : Int} {cs : List Change}

/-- A time of a Monday that the clock has passed stays passed. -/
theorem le_localTime (h : Changes offset cs) (hl : weekDay l = 1) {b : Int} (hlt : l < b + offset)
    (hcs : ∀ c ∈ cs, b ≤ c.instant) {t : Int} (ht : b ≤ t) : l ≤ localTime offset cs t := by
  induction cs generalizing offset b with
  | nil =>
    unfold localTime
    omega
  | cons c cs ih =>
    obtain ⟨hmondays, hordered, hrest⟩ := h
    have hb : b ≤ c.instant := hcs c List.mem_cons_self
    have hpassed := hmondays l hl
    unfold localTime
    split
    · omega
    · exact ih hrest (by omega) hordered (by omega)

/-- The clock has passed a time of a Monday from the time on that it is read as. -/
theorem utc_le_iff (h : Changes offset cs) (hl : weekDay l = 1) (t : Int) :
    utc offset cs l ≤ t ↔ l ≤ localTime offset cs t := by
  induction cs generalizing offset with
  | nil =>
    unfold utc localTime
    omega
  | cons c cs ih =>
    obtain ⟨hmondays, hordered, hrest⟩ := h
    have hpassed := hmondays l hl
    unfold utc localTime
    by_cases hbefore : l - offset < c.instant
    · rw [if_pos hbefore]
      split
      · omega
      · have hle : l ≤ localTime c.offset cs t :=
          le_localTime hrest hl (by omega) hordered (by omega)
        omega
    · rw [if_neg hbefore, if_neg (by omega)]
      split
      · have hge : c.instant ≤ utc c.offset cs l := le_utc (by omega) hordered
        omega
      · exact ih hrest

/-- A time of a Monday is neither skipped nor repeated. -/
theorem localTime_utc (h : Changes offset cs) (hl : weekDay l = 1) :
    localTime offset cs (utc offset cs l) = l := by
  induction cs generalizing offset with
  | nil =>
    unfold utc localTime
    omega
  | cons c cs ih =>
    obtain ⟨hmondays, hordered, hrest⟩ := h
    have hpassed := hmondays l hl
    unfold utc localTime
    by_cases hbefore : l - offset < c.instant
    · rw [if_pos hbefore, if_pos hbefore]
      omega
    · have hge : c.instant ≤ utc c.offset cs l := le_utc (by omega) hordered
      rw [if_neg hbefore, if_neg (by omega), if_neg (by omega)]
      exact ih hrest

end

namespace Zone

/-- The zone of a clock that is changed. -/
def ofChanges (offset : Int) (changes : List Change) (h : Changes offset changes) : Zone where
  localTime := LocalTime.localTime offset changes
  utc := LocalTime.utc offset changes
  utc_monday_le_iff hl t := utc_le_iff h hl.1 t
  day_utc_monday hl := congrArg day (localTime_utc h hl)

/-- The zone of a clock that is not. -/
def fixed (offset : Int) : Zone := ofChanges offset [] trivial

end Zone

/-- Clocks may be changed on a Sunday: one hour forwards in the night to the 31st of March 2024, and
    back in that to the 27th of October. -/
example : Changes 3600000 [⟨1711846800000, 7200000⟩, ⟨1729990800000, 3600000⟩] := by
  simp only [Changes, Change.LeavesMondays, weekDay, day, List.mem_singleton, forall_eq]
  exact ⟨fun l hl => by omega, by decide, fun l hl => by omega, by simp, trivial⟩

end LocalTime
