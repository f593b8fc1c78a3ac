/-
  Bounded buffers over an unbounded history.

  * The WINDOW `last n l`: the newest `n` entries of `l`.  A buffer that drops its oldest entry when
    it is full and then appends is the window of everything appended (`last_concat`).
  * The LOSSY QUEUE: a first-in first-out queue of a fixed capacity whose sender never waits, so that
    an entry offered to a full queue is lost.  Beside the queue it keeps its history: every entry
    offered, with the number of entries the queue held then, and every entry taken.  What was taken,
    followed by what waits, is what was offered while there was room (`Lawful`), and each operation
    keeps that.
  * STRETCHES of a history, read one after another: together they hold a stretch without a gap if
    each begins no later than the furthest one before it ended (`stretch_sublist_of_bridged`).
-/
import Mathlib.Data.List.Basic

namespace Buffers

variable {α : Type*}

/-! ## The window -/

/-- The newest `n` entries of `l`, in order. -/
def last (n : ℕ) (l : List α) : List α := l.drop (l.length - n)

/-- The last `n` are at most `n`. -/
theorem length_last (n : ℕ) (l : List α) : (last n l).length = min n l.length := by
  rw [last, List.length_drop]
  omega

/-- A buffer that makes room for the new entry by dropping its oldest one stays a window. -/
theorem last_concat {n : ℕ} (hn : 0 < n) (l : List α) (x : α) :
    last n (l ++ [x])
      = (if n ≤ (last n l).length then (last n l).tail else last n l) ++ [x] := by
  rw [length_last]
  unfold last
  rw [List.length_append, List.length_singleton]
  by_cases hfull : n ≤ l.length
  · rw [if_pos (by omega), List.drop_append_of_le_length (by omega), List.tail_drop,
      show l.length + 1 - n = l.length - n + 1 by omega]
  · rw [if_neg (by omega), show l.length + 1 - n = 0 by omega, show l.length - n = 0 by omega]
    rfl

/-- Appending to a window is appending to what it is a window of. -/
theorem last_last_append (n : ℕ) (l more : List α) :
    last n (last n l ++ more) = last n (l ++ more) := by
  unfold last
  rw [List.length_append, List.length_append, List.length_drop]
  by_cases hshort : l.length ≤ n
  · rw [show l.length - n = 0 by omega, List.drop_zero, Nat.sub_zero]
  · rw [← List.drop_append_of_le_length (by omega : l.length - n ≤ l.length), List.drop_drop]
    congr 1
    omega

theorem last_map {β : Type*} (f : α → β) (n : ℕ) (l : List α) :
    last n (l.map f) = (last n l).map f := by
  rw [last, last, List.length_map, List.map_drop]

/-! ## The lossy queue -/

/-- A queue with its history. -/
structure Queue (α : Type*) where
  /-- What waits in the queue. -/
  waiting : List α
  /-- Every entry offered, with how many entries were waiting then. -/
  offered : List (α × ℕ)
  /-- Every entry taken. -/
  taken : List α
  deriving DecidableEq, Repr

namespace Queue

/-- A queue that was never used. -/
def empty : Queue α := ⟨[], [], []⟩

/-- Offer an entry without waiting: it is lost when the queue is full. -/
def offer (capacity : ℕ) (x : α) (q : Queue α) : Queue α :=
  { q with
    waiting := if q.waiting.length < capacity then q.waiting ++ [x] else q.waiting
    offered := q.offered ++ [(x, q.waiting.length)] }

/-- Take the oldest entry, if one waits. -/
def take (q : Queue α) : Option (α × Queue α) :=
  match q.waiting with
  | [] => none
  | x :: rest => some (x, { q with waiting := rest, taken := q.taken ++ [x] })

/-- The entries that were offered while there was room. -/
def kept (capacity : ℕ) (offered : List (α × ℕ)) : List α :=
  (offered.filter fun entry => entry.2 < capacity).map Prod.fst

/-- Nothing that was kept is lost, doubled or reordered. -/
structure Lawful (capacity : ℕ) (q : Queue α) : Prop where
  bound : q.waiting.length ≤ capacity
  fifo : q.taken ++ q.waiting = kept capacity q.offered

@[simp] theorem offer_taken (capacity : ℕ) (x : α) (q : Queue α) :
    (q.offer capacity x).taken = q.taken := rfl

@[simp] theorem offer_offered (capacity : ℕ) (x : α) (q : Queue α) :
    (q.offer capacity x).offered = q.offered ++ [(x, q.waiting.length)] := rfl

/-- Nothing was offered yet. -/
theorem lawful_empty (capacity : ℕ) : Lawful capacity (empty : Queue α) :=
  ⟨Nat.zero_le capacity, rfl⟩

/-- An offer is kept if there is room. -/
theorem kept_concat (capacity : ℕ) (offered : List (α × ℕ)) (x : α) (n : ℕ) :
    kept capacity (offered ++ [(x, n)])
      = kept capacity offered ++ if n < capacity then [x] else [] := by
  unfold kept
  rw [List.filter_append, List.map_append]
  by_cases h : n < capacity <;> simp [h]

/-- What was kept is a subsequence of what was offered. -/
theorem kept_sublist (capacity : ℕ) (offered : List (α × ℕ)) :
    (kept capacity offered).Sublist (offered.map Prod.fst) :=
  List.filter_sublist.map Prod.fst

/-- An offer keeps the law. -/
theorem Lawful.offer {capacity : ℕ} {q : Queue α} (h : q.Lawful capacity) (x : α) :
    (q.offer capacity x).Lawful capacity := by
  by_cases hroom : q.waiting.length < capacity
  · have hwaiting : (q.offer capacity x).waiting = q.waiting ++ [x] := if_pos hroom
    refine ⟨?_, ?_⟩
    · rw [hwaiting, List.length_append, List.length_singleton]
      omega
    · rw [hwaiting, offer_taken, offer_offered, kept_concat, if_pos hroom, ← h.fifo,
        List.append_assoc]
  · have hwaiting : (q.offer capacity x).waiting = q.waiting := if_neg hroom
    refine ⟨?_, ?_⟩
    · rw [hwaiting]
      exact h.bound
    · rw [hwaiting, offer_taken, offer_offered, kept_concat, if_neg hroom, ← h.fifo,
        List.append_nil]

/-- What taking does: the oldest entry moves from the waiting ones to the taken ones. -/
theorem take_eq_some {q r : Queue α} {x : α} (h : q.take = some (x, r)) :
    q.waiting = x :: r.waiting ∧ r.taken = q.taken ++ [x] ∧ r.offered = q.offered := by
  unfold take at h
  split at h
  · cases h
  · next rest hwaiting =>
    cases h
    exact ⟨hwaiting, rfl, rfl⟩

/-- Taking keeps the law. -/
theorem Lawful.take {capacity : ℕ} {q r : Queue α} {x : α} (h : q.Lawful capacity)
    (htake : q.take = some (x, r)) : r.Lawful capacity := by
  obtain ⟨hwaiting, htaken, hoffered⟩ := take_eq_some htake
  have hbound := h.bound
  have hfifo := h.fifo
  rw [hwaiting] at hbound hfifo
  refine ⟨?_, ?_⟩
  · rw [List.length_cons] at hbound
    omega
  · rw [htaken, hoffered, ← hfifo, List.append_assoc]
    rfl

end Queue

/-! ## Stretches -/

/-- The entries from the place `lo` up to the place `hi`. -/
def stretch (lo hi : ℕ) (l : List α) : List α := (l.take hi).drop lo

/-- Stretches that meet are one. -/
theorem stretch_append {lo mid hi : ℕ} (l : List α) (hlo : lo ≤ mid) (hmid : mid ≤ hi) :
    stretch lo mid l ++ stretch mid hi l = stretch lo hi l := by
  unfold stretch
  have htake : l.take mid = (l.take hi).take mid := by
    rw [List.take_take, Nat.min_eq_left hmid]
  rw [htake]
  conv_rhs => rw [← List.take_append_drop mid (l.take hi), List.drop_append]
  congr 1
  by_cases hshort : mid ≤ (l.take hi).length
  · rw [List.length_take, Nat.min_eq_left hshort, Nat.sub_eq_zero_of_le hlo, List.drop_zero]
  · rw [List.drop_eq_nil_of_le (by omega : (l.take hi).length ≤ mid), List.drop_nil]

/-- A stretch that begins later is shorter. -/
theorem stretch_sublist {lo lo' hi : ℕ} (l : List α) (h : lo' ≤ lo) :
    (stretch lo hi l).Sublist (stretch lo' hi l) := List.drop_sublist_drop_left _ h

/-- Each stretch begins where one before it, or the place `m`, had been reached. -/
def Bridged : ℕ → List (ℕ × ℕ) → Prop
  | _, [] => True
  | m, (lo, hi) :: spans => lo ≤ m ∧ Bridged (max m hi) spans

instance decidableBridged : ∀ m spans, Decidable (Bridged m spans)
  | _, [] => isTrue trivial
  | m, (lo, hi) :: spans =>
    have := decidableBridged (max m hi) spans
    inferInstanceAs (Decidable (lo ≤ m ∧ Bridged (max m hi) spans))

/-- The furthest place that the stretches, or `m`, reach. -/
def furthest : ℕ → List (ℕ × ℕ) → ℕ
  | m, [] => m
  | m, (_, hi) :: spans => furthest (max m hi) spans

/-- The entries of the stretches, one stretch after another. -/
def readAll (l : List α) (spans : List (ℕ × ℕ)) : List α :=
  spans.flatMap fun span => stretch span.1 span.2 l

/-- By induction on the spans: each begins where the last one ended, or later. -/
theorem stretch_sublist_append (l : List α) : ∀ {spans : List (ℕ × ℕ)} {lo m : ℕ} {before : List α},
    lo ≤ m → (stretch lo m l).Sublist before → Bridged m spans →
      (stretch lo (furthest m spans) l).Sublist (before ++ readAll l spans)
  | [], lo, m, before, _, hbefore, _ => by
    rw [readAll, List.flatMap_nil, List.append_nil]
    exact hbefore
  | (lo', hi) :: spans, lo, m, before, hlo, hbefore, hbridged => by
    obtain ⟨hbridge, hrest⟩ := hbridged
    have hnext : (stretch lo (max m hi) l).Sublist (before ++ stretch lo' hi l) := by
      rcases Nat.le_total hi m with hle | hle
      · rw [Nat.max_eq_left hle]
        exact hbefore.trans (List.sublist_append_left _ _)
      · rw [Nat.max_eq_right hle, ← stretch_append l hlo hle]
        exact hbefore.append (stretch_sublist l hbridge)
    have hall := stretch_sublist_append l (Nat.le_trans hlo (Nat.le_max_left m hi)) hnext hrest
    rwa [List.append_assoc] at hall

/-- **Bridged stretches leave no gap**: they hold the whole stretch from where the first began to where
    the furthest ended, in order. -/
theorem stretch_sublist_of_bridged (l : List α) {lo hi : ℕ} {spans : List (ℕ × ℕ)}
    (h : Bridged (max lo hi) spans) :
    (stretch lo (furthest (max lo hi) spans) l).Sublist (readAll l ((lo, hi) :: spans)) := by
  have hfirst : (stretch lo (max lo hi) l).Sublist (stretch lo hi l) := by
    rcases Nat.le_total hi lo with hle | hle
    · rw [Nat.max_eq_left hle, stretch, List.drop_eq_nil_of_le (by rw [List.length_take]; omega)]
      exact List.nil_sublist _
    · rw [Nat.max_eq_right hle]
  exact stretch_sublist_append l (Nat.le_max_left lo hi) hfirst h

end Buffers
