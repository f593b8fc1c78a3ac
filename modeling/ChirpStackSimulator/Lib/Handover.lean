/-
  A slot that is replaced without a lock.

  A slot holds a resource that is alive for a while: a connection, a process.  A call replaces it: it
  looks at the slot and ends what is there (`release`), makes a new resource, and puts it into the
  slot (`put`).  Calls may overlap, and then a call can put its resource over one that another has
  just put there, or empty the slot over it (`clear`): what was there stays alive, and nothing will
  ever end it.

  1. `Slot` is what has been in the slot, what is in it, and where each call stands; `Step` is what a
     call can do.
  2. `Balanced` is the invariant.  As long as no running call has put anything, what a call finds in
     the slot when it puts its own there is dead; from then on every call that has yet to put something
     was counted as one that overlaps.
  3. `Balanced.surplus`: what is alive outside of the slot is at most one for each call that began
     while another was running.
-/
import Mathlib.Data.List.Count
import Mathlib.Data.List.Induction
import Mathlib.Tactic.Common
import ChirpStackSimulator.Lib.Tally

namespace Handover

/-! ## The slot -/

/-- Where a call stands. -/
inductive Stage where
  /-- It has not released the slot yet. -/
  | entered
  /-- It has, and is to put something new into it. -/
  | released
  /-- It has put a resource, which may still turn out not to work. -/
  | opening (resource : Nat)
  | over
  deriving DecidableEq

/-- It has yet to put something. -/
def Stage.waiting : Stage → Bool
  | .entered => true
  | .released => true
  | .opening _ => false
  | .over => false

/-- A slot with its history, and the calls at work on it. -/
structure Slot where
  /-- What has been in the slot, and whether it is alive. -/
  resources : List Bool
  /-- What is in it. -/
  slot : Option Nat
  calls : List Stage
  /-- The calls that began while another one was running. -/
  overlapped : Nat

namespace Slot

/-- How many resources are alive. -/
def alive (s : Slot) : Nat := s.resources.countP id

/-- What is in the slot is alive. -/
def held (s : Slot) : Bool :=
  match s.slot with
  | none => false
  | some i => s.resources[i]? == some true

/-- How many resources are alive and not in the slot. -/
def spare (s : Slot) : Nat :=
  (List.range s.resources.length).countP fun i => s.resources[i]? == some true && s.slot != some i

/-- How many calls have yet to put something. -/
def waiting (s : Slot) : Nat := s.calls.countP Stage.waiting

/-- Call `k` goes on to another stage. -/
def goto (s : Slot) (k : Nat) (st : Stage) : Slot := { s with calls := s.calls.set k st }

/-- A resource comes to its end. -/
def kill (s : Slot) (i : Nat) : Slot := { s with resources := s.resources.set i false }

/-- What a call finds in the slot is ended. -/
def release (s : Slot) : Slot :=
  match s.slot with
  | none => s
  | some i => s.kill i

/-- A new resource, in the slot. -/
def put (s : Slot) : Slot :=
  { s with resources := s.resources ++ [true], slot := some s.resources.length }

end Slot

/-- What a call can do. -/
inductive Step (s : Slot) : Slot → Prop where
  /-- It begins while no other is running. -/
  | enterAlone : (∀ st ∈ s.calls, st = .over) → Step s { s with calls := s.calls ++ [.entered] }
  /-- It begins while another is running. -/
  | enterOver : Step s { s with calls := s.calls ++ [.entered], overlapped := s.overlapped + 1 }
  /-- It ends what is in the slot. -/
  | release {k : Nat} : s.calls[k]? = some .entered → Step s (s.release.goto k .released)
  /-- It takes what is in the slot for dead, which it is, or is only just being opened. -/
  | pass {k : Nat} : s.calls[k]? = some .entered → (s.held = true → ∃ i, .opening i ∈ s.calls) →
      Step s (s.goto k .released)
  /-- It empties the slot, where resources are never in the slot before they work. -/
  | clear {k : Nat} : s.calls[k]? = some .released → (∀ i, .opening i ∉ s.calls) →
      Step s { s with slot := none }
  /-- It puts something that works into the slot. -/
  | put {k : Nat} : s.calls[k]? = some .released → Step s (s.put.goto k .over)
  /-- It puts something into the slot that may still turn out not to work. -/
  | putOpening {k : Nat} : s.calls[k]? = some .released →
      Step s (s.put.goto k (.opening s.resources.length))
  /-- What it has put works. -/
  | opened {k i : Nat} : s.calls[k]? = some (.opening i) → Step s (s.goto k .over)
  /-- What it has put does not work. -/
  | failed {k i : Nat} : s.calls[k]? = some (.opening i) → Step s ((s.kill i).goto k .over)
  /-- It gives up before it has put something. -/
  | quit {k : Nat} {st : Stage} : s.calls[k]? = some st → st.waiting = true →
      Step s (s.goto k .over)

/-! ## Counting -/

variable {s t : Slot} {k i : Nat} {st st' : Stage}

/-- One call goes on. -/
theorem waiting_set (h : s.calls[k]? = some st) (st' : Stage) :
    (s.calls.set k st').countP Stage.waiting + st.waiting.toNat = s.waiting + st'.waiting.toNat := by
  have hcount := Tally.countP_set_add Stage.waiting st' h
  unfold Slot.waiting
  cases hst : st.waiting <;> cases hst' : st'.waiting <;> simp [hst, hst'] at hcount ⊢ <;> omega

/-- A call that has something to put is counted. -/
theorem waiting_pos (h : s.calls[k]? = some st) (hst : st.waiting = true) : 0 < s.waiting :=
  List.countP_pos_iff.mpr ⟨st, List.mem_of_getElem? h, hst⟩

/-- Ending a resource takes away one if it was alive. -/
theorem alive_kill : (s.kill i).alive + (s.resources[i]? == some true).toNat = s.alive := by
  unfold Slot.alive Slot.kill
  cases h : s.resources[i]? with
  | none =>
    rw [List.set_eq_of_length_le (List.getElem?_eq_none_iff.mp h)]
    rfl
  | some b =>
    have hcount := Tally.countP_set_add id false h
    cases b <;> simpa using hcount

/-- A slot whose resource is ended holds nothing alive. -/
theorem held_kill_self (h : s.slot = some i) : (s.kill i).held = false := by
  unfold Slot.held Slot.kill
  rw [h]
  dsimp only
  rw [List.getElem?_set]
  split
  · split <;> rfl
  · next hne => exact absurd rfl hne

/-- Ending another resource is nothing to the slot. -/
theorem held_kill_of_ne (h : s.slot ≠ some i) : (s.kill i).held = s.held := by
  unfold Slot.held Slot.kill
  cases hs : s.slot with
  | none => rfl
  | some j =>
    have hne : i ≠ j := fun e => h (by rw [hs, e])
    dsimp only
    rw [List.getElem?_set_ne hne]

/-- A release ends what the slot holds. -/
theorem alive_release : s.release.alive + s.held.toNat = s.alive := by
  unfold Slot.release Slot.held
  cases s.slot with
  | none => rfl
  | some i => exact alive_kill

@[simp] theorem held_release : s.release.held = false := by
  unfold Slot.release
  cases h : s.slot with
  | none =>
    dsimp only
    unfold Slot.held
    rw [h]
  | some i => exact held_kill_self h

@[simp] theorem alive_put : s.put.alive = s.alive + 1 := by
  unfold Slot.alive Slot.put
  rw [List.countP_append]
  rfl

@[simp] theorem held_put : s.put.held = true := by
  unfold Slot.held Slot.put
  dsimp only
  rw [List.getElem?_concat_length]
  rfl

/-! ## The invariant -/

/-- No call has put anything since calls began to run, and what a call that has released the slot
    finds in it is dead. -/
structure Fresh (s : Slot) : Prop where
  running : 0 < s.waiting
  opening : ∀ i, .opening i ∉ s.calls
  dead : .released ∈ s.calls → s.held = false

/-- Each call still to put something is one that overlaps, but for the first of them as long as none
    has put anything. -/
def Balanced (s : Slot) : Prop :=
  s.alive + s.waiting ≤ s.overlapped + s.held.toNat ∨
    (Fresh s ∧ s.alive + s.waiting ≤ s.overlapped + s.held.toNat + 1)

/-- An empty slot, and no calls. -/
theorem Balanced.empty : Balanced ⟨[], none, [], 0⟩ := Or.inl (Nat.le_refl _)

/-- What a call that has released the slot puts into it takes the place of something dead, or there is
    one call fewer to account for. -/
theorem Balanced.put (hs : Balanced s) (h : s.calls[k]? = some .released) {st : Stage}
    (hst : st.waiting = false) : Balanced (s.put.goto k st) := by
  have hheld : s.held.toNat ≤ 1 := Bool.toNat_le s.held
  have hw := waiting_set h st
  rw [hst] at hw
  refine Or.inl ?_
  show s.put.alive + (s.calls.set k st).countP Stage.waiting ≤ s.overlapped + s.put.held.toNat
  rw [alive_put, held_put, Bool.toNat_true]
  simp only [Stage.waiting, Bool.toNat_true, Bool.toNat_false] at hw
  rcases hs with hle | ⟨hfresh, hle⟩
  · omega
  · rw [hfresh.dead (List.mem_of_getElem? h), Bool.toNat_false] at hle
    omega

/-- A call that gives up, or learns what became of what it has put, leaves nothing more to put. -/
theorem Balanced.quit (hs : Balanced s) (h : s.calls[k]? = some st) (hst : st.waiting = true) :
    Balanced (s.goto k .over) := by
  have hw := waiting_set h .over
  rw [hst] at hw
  simp only [Stage.waiting, Bool.toNat_true, Bool.toNat_false] at hw
  refine Or.inl ?_
  show s.alive + (s.calls.set k .over).countP Stage.waiting ≤ s.overlapped + s.held.toNat
  rcases hs with hle | ⟨-, hle⟩ <;> omega

/-- A call that has released still has something to put. -/
theorem waiting_released (h : s.calls[k]? = some .entered) :
    (s.calls.set k .released).countP Stage.waiting = s.waiting := by
  have hw := waiting_set h .released
  simpa [Stage.waiting] using hw

/-- A call that begins. -/
theorem waiting_enter : (s.calls ++ [Stage.entered]).countP Stage.waiting = s.waiting + 1 := by
  rw [List.countP_append]
  rfl

theorem mem_enter (h : st ∈ s.calls ++ [.entered]) : st ∈ s.calls ∨ st = .entered := by
  simpa using h

/-- A call that begins alone: nothing was running. -/
theorem Balanced.enterAlone (hs : Balanced s) (hover : ∀ st ∈ s.calls, st = .over) :
    Balanced { s with calls := s.calls ++ [.entered] } := by
  have hnone : s.waiting = 0 := by
    refine List.countP_eq_zero.mpr fun st hst => ?_
    rw [hover st hst]
    exact Bool.false_ne_true
  have hle : s.alive ≤ s.overlapped + s.held.toNat := by
    rcases hs with hle | ⟨hfresh, -⟩
    · omega
    · exact absurd hnone (Nat.ne_of_gt hfresh.running)
  refine Or.inr ⟨⟨?_, fun i hi => ?_, fun hr => ?_⟩, ?_⟩
  · show 0 < (s.calls ++ [Stage.entered]).countP Stage.waiting
    rw [waiting_enter]
    exact Nat.succ_pos _
  · rcases mem_enter hi with hold | hnew
    · cases hover _ hold
    · cases hnew
  · rcases mem_enter hr with hold | hnew
    · cases hover _ hold
    · cases hnew
  · show s.alive + (s.calls ++ [Stage.entered]).countP Stage.waiting ≤ s.overlapped + s.held.toNat + 1
    rw [waiting_enter]
    omega

/-- A call that overlaps is counted. -/
theorem Balanced.enterOver (hs : Balanced s) :
    Balanced { s with calls := s.calls ++ [.entered], overlapped := s.overlapped + 1 } := by
  refine hs.imp (fun hle => ?_) fun ⟨hfresh, hle⟩ => ⟨⟨?_, fun i hi => ?_, fun hr => ?_⟩, ?_⟩
  · show s.alive + (s.calls ++ [Stage.entered]).countP Stage.waiting ≤ s.overlapped + 1 + s.held.toNat
    rw [waiting_enter]
    omega
  · show 0 < (s.calls ++ [Stage.entered]).countP Stage.waiting
    rw [waiting_enter]
    exact Nat.succ_pos _
  · exact hfresh.opening i ((mem_enter hi).resolve_right (by simp))
  · exact hfresh.dead ((mem_enter hr).resolve_right (by simp))
  · show s.alive + (s.calls ++ [Stage.entered]).countP Stage.waiting
      ≤ s.overlapped + 1 + s.held.toNat + 1
    rw [waiting_enter]
    omega

/-- A call that has seen to it that the slot holds nothing alive. -/
theorem Fresh.goto_released (hf : Fresh s) (h : s.calls[k]? = some .entered) (hdead : t.held = false)
    (hcalls : t.calls = s.calls.set k .released) : Fresh t := by
  refine ⟨?_, fun i hi => ?_, fun _ => hdead⟩
  · unfold Slot.waiting
    rw [hcalls, waiting_released h]
    exact hf.running
  · rw [hcalls] at hi
    rcases List.mem_or_eq_of_mem_set hi with hold | hnew
    · exact hf.opening i hold
    · cases hnew

/-- A release takes off what the slot holds, if it is alive. -/
theorem Balanced.release (hs : Balanced s) (h : s.calls[k]? = some .entered) :
    Balanced (s.release.goto k .released) := by
  have hw := waiting_released h
  have halive : s.release.alive + s.held.toNat = s.alive := alive_release
  have hcalls : s.release.calls = s.calls := by
    unfold Slot.release
    cases s.slot <;> rfl
  have hover : s.release.overlapped = s.overlapped := by
    unfold Slot.release
    cases s.slot <;> rfl
  have hwait : (s.release.goto k .released).waiting = s.waiting := by
    show (s.release.calls.set k .released).countP Stage.waiting = s.waiting
    rw [hcalls]
    exact hw
  have hheld : (s.release.goto k .released).held = false := held_release
  refine hs.imp (fun hle => ?_) fun ⟨hfresh, hle⟩ =>
    ⟨hfresh.goto_released h hheld (congrArg (List.set · k _) hcalls), ?_⟩
  · rw [hwait, hheld]
    show s.release.alive + s.waiting ≤ s.release.overlapped + 0
    omega
  · rw [hwait, hheld]
    show s.release.alive + s.waiting ≤ s.release.overlapped + 0 + 1
    omega

/-- A call that passes found nothing alive, or something that is only being opened. -/
theorem Balanced.pass (hs : Balanced s) (h : s.calls[k]? = some .entered)
    (hdead : s.held = true → ∃ i, .opening i ∈ s.calls) : Balanced (s.goto k .released) := by
  have hw : (s.goto k .released).waiting = s.waiting := waiting_released h
  refine hs.imp (fun hle => ?_) fun ⟨hfresh, hle⟩ => ⟨hfresh.goto_released h ?_ rfl, ?_⟩
  · rw [hw]
    exact hle
  · -- nothing is being opened, so what the slot holds is dead
    refine Bool.eq_false_iff.mpr fun hheld => ?_
    obtain ⟨i, hi⟩ := hdead hheld
    exact hfresh.opening i hi
  · rw [hw]
    exact hle

/-- An emptied slot may leave one resource behind, which the call that has emptied it accounts for.
    -/
theorem Balanced.clear (hs : Balanced s) (h : s.calls[k]? = some .released)
    (hopen : ∀ i, .opening i ∉ s.calls) : Balanced { s with slot := none } := by
  have hheld : s.held.toNat ≤ 1 := Bool.toNat_le s.held
  refine Or.inr ⟨⟨waiting_pos h rfl, hopen, fun _ => rfl⟩, ?_⟩
  show s.alive + s.waiting ≤ s.overlapped + 0 + 1
  rcases hs with hle | ⟨hfresh, hle⟩
  · omega
  · rw [hfresh.dead (List.mem_of_getElem? h)] at hle
    exact hle

/-- A call that learns what became of what it has put; by then none is fresh. -/
theorem Balanced.over (hs : Balanced s) (h : s.calls[k]? = some (.opening i)) :
    (s.calls.set k .over).countP Stage.waiting = s.waiting ∧
      s.alive + s.waiting ≤ s.overlapped + s.held.toNat := by
  have hw := waiting_set h .over
  refine ⟨by simpa [Stage.waiting] using hw, ?_⟩
  rcases hs with hle | ⟨hfresh, -⟩
  · exact hle
  · exact absurd (List.mem_of_getElem? h) (hfresh.opening i)

/-- What was opened stays alive. -/
theorem Balanced.opened (hs : Balanced s) (h : s.calls[k]? = some (.opening i)) :
    Balanced (s.goto k .over) := by
  obtain ⟨hw, hle⟩ := hs.over h
  refine Or.inl ?_
  show s.alive + (s.calls.set k .over).countP Stage.waiting ≤ s.overlapped + s.held.toNat
  rw [hw]
  exact hle

/-- What could not be opened is ended. -/
theorem Balanced.failed (hs : Balanced s) (h : s.calls[k]? = some (.opening i)) :
    Balanced ((s.kill i).goto k .over) := by
  obtain ⟨hw, hle⟩ := hs.over h
  have halive : (s.kill i).alive + _ = s.alive := alive_kill
  refine Or.inl ?_
  show (s.kill i).alive + (s.calls.set k .over).countP Stage.waiting
    ≤ s.overlapped + (s.kill i).held.toNat
  rw [hw]
  by_cases hslot : s.slot = some i
  · have hheld : s.held = (s.resources[i]? == some true) := by
      unfold Slot.held
      rw [hslot]
    rw [held_kill_self hslot, Bool.toNat_false]
    rw [hheld] at hle
    omega
  · rw [held_kill_of_ne hslot]
    omega

/-- **Every step keeps the balance.** -/
theorem Balanced.step (hs : Balanced s) (h : Step s t) : Balanced t := by
  cases h with
  | enterAlone hover => exact hs.enterAlone hover
  | enterOver => exact hs.enterOver
  | release hk => exact hs.release hk
  | pass hk hdead => exact hs.pass hk hdead
  | clear hk hopen => exact hs.clear hk hopen
  | put hk => exact hs.put hk rfl
  | putOpening hk => exact hs.put hk rfl
  | opened hk => exact hs.opened hk
  | failed hk => exact hs.failed hk
  | quit hk hst => exact hs.quit hk hst

/-! ## What is outside of the slot -/

/-- Counting by positions. -/
theorem countP_range (l : List Bool) :
    (List.range l.length).countP (fun i => l[i]? == some true) = l.countP id := by
  induction l using List.reverseRecOn with
  | nil => rfl
  | append_singleton l b ih =>
    have hold : (List.range l.length).countP (fun i => (l ++ [b])[i]? == some true)
        = (List.range l.length).countP (fun i => l[i]? == some true) := by
      refine List.countP_congr fun i hi => ?_
      rw [List.getElem?_append_left (List.mem_range.mp hi)]
    rw [List.length_append, List.length_singleton, List.range_succ, List.countP_append,
      List.countP_append, hold, ih, List.countP_singleton, List.getElem?_concat_length]
    cases b <;> rfl

/-- One position left out. -/
theorem countP_ne (p : Nat → Bool) (i : Nat) : ∀ {l : List Nat}, l.Nodup →
    l.countP (fun j => p j && some i != some j) + (decide (i ∈ l) && p i).toNat = l.countP p
  | [], _ => rfl
  | j :: l, h => by
    obtain ⟨hj, hl⟩ := List.nodup_cons.mp h
    have ih := countP_ne p i hl
    rw [List.countP_cons, List.countP_cons]
    by_cases hij : i = j
    · subst hij
      cases hp : p i <;> simp [hj, hp] at ih ⊢ <;> exact ih
    · simp [hij] at ih ⊢
      omega

/-- What is alive is in the slot or spare. -/
theorem spare_add_held (s : Slot) : s.spare + s.held.toNat = s.alive := by
  unfold Slot.spare Slot.held Slot.alive
  rw [← countP_range]
  cases s.slot with
  | none =>
    refine congrArg (List.countP · _) (funext fun i => ?_)
    simp
  | some i =>
    rw [← countP_ne (fun i => s.resources[i]? == some true) i List.nodup_range]
    dsimp only
    by_cases hi : i < s.resources.length
    · simp [hi]
    · simp [hi]

/-- **What is alive outside of the slot** is no more than the calls that overlapped. -/
theorem Balanced.surplus (hs : Balanced s) : s.spare ≤ s.overlapped := by
  have hspare := spare_add_held s
  rcases hs with hle | ⟨hfresh, hle⟩
  · omega
  · have := hfresh.running
    omega

end Handover
