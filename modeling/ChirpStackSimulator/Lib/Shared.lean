/-
  Programs side by side over one store.

  Each program stands at its next call.  A step enters a program or answers the call of one of them:
  the surroundings offer an answer, and the store makes of it the answer that is given, and changes.
  So a call to a database is answered by what the database holds at that moment, and what happens
  between two calls of one program is what the others do.

  Every running program has a note, which starts as `enter` says and changes with each answer; it
  says whose program it is, and what an invariant needs to remember of its past calls.

  `step_cases` says what a step can do.  `Each I` is the invariant "`I` holds of every running program,
  with the store and its note", and `Each.step` what has to be shown for it.
-/
import ChirpStackSimulator.Lib.Prog

namespace Shared

variable {σ β τ C α : Type} {A : C → Type}

/-- The store, and the running programs with their notes. -/
structure State (σ τ C : Type) (A : C → Type) (α : Type) where
  store : σ
  running : List (τ × Prog C A α)

/-- A program is entered, or the call the `i`-th program stands at is answered. -/
inductive Label (β C : Type) (A : C → Type) where
  | enter (b : β)
  | answer (i : Nat) (x : (c : C) → A c)

section
variable (enter : β → τ × Prog C A α) (respond : τ → σ → (c : C) → A c → A c × σ)
  (note : τ → σ → (c : C) → A c → τ)

def step (s : State σ τ C A α) : Label β C A → Option (State σ τ C A α)
  | .enter b => some { s with running := s.running ++ [enter b] }
  | .answer i x =>
    match s.running[i]? with
    | some (t, .call c k) =>
      let (y, store) := respond t s.store c (x c)
      some ⟨store, s.running.set i (note t s.store c y, k y)⟩
    | _ => none

end

variable {enter : β → τ × Prog C A α} {respond : τ → σ → (c : C) → A c → A c × σ}
  {note : τ → σ → (c : C) → A c → τ} {s s' : State σ τ C A α} {l : Label β C A}

/-- **What a step can do.** -/
theorem step_cases (h : step enter respond note s l = some s') :
    (∃ b, l = .enter b ∧ s' = { s with running := s.running ++ [enter b] }) ∨
    ∃ i x t c k, l = .answer i x ∧ s.running[i]? = some (t, .call c k) ∧
      s' = ⟨(respond t s.store c (x c)).2, s.running.set i
        (note t s.store c (respond t s.store c (x c)).1, k (respond t s.store c (x c)).1)⟩ := by
  cases l with
  | enter b => exact Or.inl ⟨b, rfl, (Option.some.inj h).symm⟩
  | answer i x =>
    simp only [step] at h
    split at h
    · rename_i t c k hi
      exact Or.inr ⟨i, x, t, c, k, rfl, hi, (Option.some.inj h).symm⟩
    · exact absurd h (by simp)

/-- `I` holds of every running program. -/
def Each (I : σ → τ → Prog C A α → Prop) (s : State σ τ C A α) : Prop :=
  ∀ t p, (t, p) ∈ s.running → I s.store t p

/-- **Invariants of the running programs**: a program is entered with `I`, keeps it through its own
    answers, and through those of the others. -/
theorem Each.step {I : σ → τ → Prog C A α → Prop} (hs : Each I s)
    (h : step enter respond note s l = some s')
    (henter : ∀ b, I s.store (enter b).1 (enter b).2)
    (hown : ∀ t c k x, I s.store t (.call c k) →
      I (respond t s.store c x).2 (note t s.store c (respond t s.store c x).1)
        (k (respond t s.store c x).1))
    (hother : ∀ t c k x t' p', I s.store t (.call c k) → I s.store t' p' →
      I (respond t s.store c x).2 t' p') : Each I s' := by
  rcases step_cases h with ⟨b, rfl, rfl⟩ | ⟨i, x, t, c, k, rfl, hi, rfl⟩
  · intro t' p' hmem
    rcases List.mem_append.mp hmem with hmem | hmem
    · exact hs t' p' hmem
    · have hentered : (t', p') = enter b := List.mem_singleton.mp hmem
      have hI := henter b
      rw [← hentered] at hI
      exact hI
  · intro t' p' hmem
    have hI := hs t _ (List.mem_of_getElem? hi)
    rcases List.mem_or_eq_of_mem_set hmem with hmem | heq
    · exact hother t c k (x c) t' p' hI (hs t' p' hmem)
    · obtain ⟨rfl, rfl⟩ := Prod.mk.inj heq
      exact hown t c k (x c) hI

end Shared
