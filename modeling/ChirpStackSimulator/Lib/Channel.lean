/-
  Filling a channel before emptying it.

  A goroutine makes a channel with room for so many values, sends a list into it, closes it and
  folds what it receives; it does so with one list after another.  Nobody else receives, so a send
  into a full channel waits for ever.

  1. **Steps** — `Progress` is where the goroutine stands, `step` its next step, and `none` both
     where it waits for ever and where it has returned; `returned` tells the two apart.

  2. **What it would return** (`promise`) never changes (`promise_step`), and is what it returns
     (`promise_returned`), so a result needs no other invariant.

  3. **Whether it returns** (`returns_iff`): exactly if every list has room in a channel.  A list
     that has not stays in the way (`doomed_step`).
-/
import ChirpStackSimulator.Lib.Run
import Mathlib.Data.List.Basic

namespace Channel

open Transition

variable {α β : Type*}

/-! ## Steps -/

/-- Where the goroutine stands with one list. -/
inductive Phase (α β : Type*) where
  | sending (rest sent : List α)
  | receiving (waiting : List α) (acc : β)
  | done (acc : β)

/-- Where it stands with all lists. -/
structure Progress (α β : Type*) where
  results : List β
  current : Phase α β
  next : List (List α)

/-- It begins with this list, and others to follow. -/
def begin (xs : List α) (next : List (List α)) : Progress α β := ⟨[], .sending xs [], next⟩

/-- The next step within one list. -/
def Phase.step (capacity : ℕ) (f : β → α → β) (b : β) : Phase α β → Option (Phase α β)
  | .sending [] sent => some (.receiving sent b)
  | .sending (x :: rest) sent =>
    if sent.length < capacity then some (.sending rest (sent ++ [x])) else none
  | .receiving [] acc => some (.done acc)
  | .receiving (x :: waiting) acc => some (.receiving waiting (f acc x))
  | .done _ => none

/-- A value is sent only while there is room. -/
theorem Phase.step_send {capacity : ℕ} {f : β → α → β} {b : β} {x : α} {rest sent : List α}
    {p : Phase α β} : (Phase.sending (x :: rest) sent).step capacity f b = some p ↔
      sent.length < capacity ∧ .sending rest (sent ++ [x]) = p := by
  show (if sent.length < capacity then some (Phase.sending rest (sent ++ [x])) else none) = some p ↔ _
  split
  · rename_i hroom
    rw [Option.some.injEq, and_iff_right hroom]
  · rename_i hfull
    exact iff_of_false (by simp) fun h => hfull h.1

/-- The next step. -/
def step (capacity : ℕ) (f : β → α → β) (b : β) (s : Progress α β) (_ : Unit) :
    Option (Progress α β) :=
  match s.current, s.next with
  | .done acc, xs :: next => some ⟨s.results ++ [acc], .sending xs [], next⟩
  | p, _ => (p.step capacity f b).map fun p => { s with current := p }

/-- What it has returned, if it has. -/
def returned (s : Progress α β) : Option (List β) :=
  match s.current, s.next with
  | .done acc, [] => some (s.results ++ [acc])
  | _, _ => none

/-- It returns these results in the end. -/
def Returns (capacity : ℕ) (f : β → α → β) (b : β) (s : Progress α β) (results : List β) : Prop :=
  ∃ steps t, exec (step capacity f b) s steps = some t ∧ returned t = some results

variable {capacity : ℕ} {f : β → α → β} {b : β} {s t : Progress α β}

/-- What a step can do: a step within the list, or the first one with the next list. -/
theorem step_cases {u : Unit} (h : step capacity f b s u = some t) :
    (∃ p, s.current.step capacity f b = some p ∧ t = { s with current := p }) ∨
      ∃ acc xs next, s.current = .done acc ∧ s.next = xs :: next ∧
        t = ⟨s.results ++ [acc], .sending xs [], next⟩ := by
  obtain ⟨results, current, next⟩ := s
  cases current with
  | done acc =>
    cases next with
    | nil => cases h
    | cons xs next => exact Or.inr ⟨acc, xs, next, rfl, rfl, (Option.some.inj h).symm⟩
  | sending rest sent =>
    obtain ⟨p, hp, ht⟩ := Option.map_eq_some_iff.mp h
    exact Or.inl ⟨p, hp, ht.symm⟩
  | receiving waiting acc =>
    obtain ⟨p, hp, ht⟩ := Option.map_eq_some_iff.mp h
    exact Or.inl ⟨p, hp, ht.symm⟩

/-! ## What it would return -/

/-- What the list at hand comes to. -/
def Phase.promise (f : β → α → β) (b : β) : Phase α β → β
  | .sending rest sent => (sent ++ rest).foldl f b
  | .receiving waiting acc => waiting.foldl f acc
  | .done acc => acc

/-- What all lists come to. -/
def promise (f : β → α → β) (b : β) (s : Progress α β) : List β :=
  s.results ++ s.current.promise f b :: s.next.map (List.foldl f b)

theorem Phase.promise_step {p q : Phase α β} (h : p.step capacity f b = some q) :
    q.promise f b = p.promise f b := by
  cases p with
  | sending rest sent =>
    cases rest with
    | nil =>
      obtain rfl := Option.some.inj h
      simp [Phase.promise]
    | cons x rest =>
      obtain ⟨-, rfl⟩ := Phase.step_send.mp h
      simp [Phase.promise]
  | receiving waiting acc =>
    cases waiting with
    | nil =>
      obtain rfl := Option.some.inj h
      rfl
    | cons x waiting =>
      obtain rfl := Option.some.inj h
      rfl
  | done acc => cases h

theorem promise_step {u : Unit} (h : step capacity f b s u = some t) :
    promise f b t = promise f b s := by
  rcases step_cases h with ⟨p, hp, rfl⟩ | ⟨acc, xs, next, hcurrent, hnext, rfl⟩
  · unfold promise
    rw [Phase.promise_step hp]
  · simp [promise, hcurrent, hnext, Phase.promise]

theorem promise_returned {results : List β} (h : returned s = some results) :
    results = promise f b s := by
  obtain ⟨rs, current, next⟩ := s
  cases current with
  | done acc =>
    cases next with
    | nil => exact (Option.some.inj h).symm
    | cons xs next => cases h
  | sending rest sent => cases h
  | receiving waiting acc => cases h

/-! ## Whether it returns -/

/-- A list to come, or the one at hand, has no room in its channel. -/
def Doomed (capacity : ℕ) (s : Progress α β) : Prop :=
  (∃ xs ∈ s.next, capacity < xs.length) ∨
    ∃ rest sent, s.current = .sending rest sent ∧ sent.length ≤ capacity ∧
      capacity < sent.length + rest.length

theorem doomed_step {u : Unit} (hs : Doomed capacity s) (h : step capacity f b s u = some t) :
    Doomed capacity t := by
  rcases step_cases h with ⟨p, hp, rfl⟩ | ⟨acc, xs, next, hcurrent, hnext, rfl⟩
  · rcases hs with hnext | ⟨rest, sent, hcurrent, hsent, hlong⟩
    · exact Or.inl hnext
    · rw [hcurrent] at hp
      cases rest with
      | nil =>
        rw [List.length_nil] at hlong
        omega
      | cons x rest =>
        obtain ⟨hroom, rfl⟩ := Phase.step_send.mp hp
        rw [List.length_cons] at hlong
        refine Or.inr ⟨rest, sent ++ [x], rfl, ?_, ?_⟩
        · rw [List.length_append, List.length_singleton]
          omega
        · rw [List.length_append, List.length_singleton]
          omega
  · rcases hs with ⟨ys, hys, hlong⟩ | ⟨rest, sent, hsending, -, -⟩
    · rw [hnext] at hys
      rcases List.mem_cons.mp hys with rfl | hys
      · exact Or.inr ⟨ys, [], rfl, Nat.zero_le _, by simpa using hlong⟩
      · exact Or.inl ⟨ys, hys, hlong⟩
    · rw [hcurrent] at hsending
      cases hsending

theorem not_returned_of_doomed (h : Doomed capacity s) (results : List β) :
    returned s ≠ some results := by
  obtain ⟨rs, current, next⟩ := s
  intro hret
  cases current with
  | done acc =>
    cases next with
    | nil =>
      rcases h with ⟨xs, hxs, -⟩ | ⟨rest, sent, hcurrent, -⟩
      · exact absurd hxs List.not_mem_nil
      · cases hcurrent
    | cons xs next => cases hret
  | sending rest sent => cases hret
  | receiving waiting acc => cases hret

/-- A run from a place where the run from the next is known. -/
theorem Returns.of_step {u : Unit} {results : List β} (h : step capacity f b s u = some t)
    (ht : Returns capacity f b t results) : Returns capacity f b s results := by
  obtain ⟨steps, t', hexec, hret⟩ := ht
  exact ⟨u :: steps, t', exec_cons_eq_some.mpr ⟨t, h, hexec⟩, hret⟩

/-- Values in the channel are all received. -/
theorem returns_of_receiving {results rs : List β} {next : List (List α)} (waiting : List α) (acc : β)
    (h : Returns capacity f b ⟨rs, .done (waiting.foldl f acc), next⟩ results) :
    Returns capacity f b ⟨rs, .receiving waiting acc, next⟩ results := by
  induction waiting generalizing acc with
  | nil => exact Returns.of_step (u := ()) rfl h
  | cons x waiting ih => exact Returns.of_step (u := ()) rfl (ih _ h)

/-- A list that fits into the channel is sent, and then received. -/
theorem returns_of_sending {results rs : List β} {next : List (List α)} (rest sent : List α)
    (hroom : sent.length + rest.length ≤ capacity)
    (h : Returns capacity f b ⟨rs, .done ((sent ++ rest).foldl f b), next⟩ results) :
    Returns capacity f b ⟨rs, .sending rest sent, next⟩ results := by
  induction rest generalizing sent with
  | nil =>
    rw [List.append_nil] at h
    exact Returns.of_step (u := ()) rfl (returns_of_receiving sent b h)
  | cons x rest ih =>
    rw [List.length_cons] at hroom
    have hsend : step capacity f b ⟨rs, .sending (x :: rest) sent, next⟩ () =
        some ⟨rs, .sending rest (sent ++ [x]), next⟩ :=
      Option.map_eq_some_iff.mpr ⟨_, Phase.step_send.mpr ⟨by omega, rfl⟩, rfl⟩
    refine Returns.of_step hsend (ih (sent ++ [x]) ?_ ?_)
    · rw [List.length_append, List.length_singleton]
      omega
    · rw [List.append_assoc]
      exact h

theorem returns_of_room {rs : List β} {xs : List α} {next : List (List α)}
    (hroom : ∀ ys ∈ xs :: next, ys.length ≤ capacity) :
    Returns capacity f b ⟨rs, .sending xs [], next⟩ (rs ++ (xs :: next).map (List.foldl f b)) := by
  induction next generalizing rs xs with
  | nil =>
    refine returns_of_sending xs [] (by simpa using hroom xs List.mem_cons_self) ?_
    exact ⟨[], _, rfl, rfl⟩
  | cons ys next ih =>
    obtain ⟨hxs, hrest⟩ := List.forall_mem_cons.mp hroom
    refine returns_of_sending xs [] (by simpa using hxs) ?_
    refine Returns.of_step (u := ()) rfl ?_
    have hlater : Returns capacity f b ⟨rs ++ [xs.foldl f b], .sending ys [], next⟩
        (rs ++ [xs.foldl f b] ++ (ys :: next).map (List.foldl f b)) := ih hrest
    rw [List.append_assoc] at hlater
    exact hlater

/-- **The goroutine returns exactly if every list has room in a channel**, and then with what the
    lists come to. -/
theorem returns_iff {xs : List α} {next : List (List α)} {results : List β} :
    Returns capacity f b (begin xs next) results ↔
      (∀ ys ∈ xs :: next, ys.length ≤ capacity) ∧ results = (xs :: next).map (List.foldl f b) := by
  constructor
  · rintro ⟨steps, t, hexec, hret⟩
    constructor
    · intro ys hys
      by_contra hlong
      have hdoomed : Doomed capacity (begin (β := β) xs next) := by
        rcases List.mem_cons.mp hys with rfl | hys
        · exact Or.inr ⟨ys, [], rfl, Nat.zero_le _, by simpa using hlong⟩
        · exact Or.inl ⟨ys, hys, by omega⟩
      exact not_returned_of_doomed (exec_invariant (fun _ _ _ hs h => doomed_step hs h) hdoomed hexec)
        results hret
    · have hsame : promise f b t = promise f b (begin xs next) :=
        exec_invariant (I := fun t => promise f b t = promise f b (begin xs next))
          (fun _ _ _ hs h => (promise_step h).trans hs) rfl hexec
      rw [promise_returned hret, hsame]
      rfl
  · rintro ⟨hroom, rfl⟩
    exact returns_of_room hroom

end Channel
