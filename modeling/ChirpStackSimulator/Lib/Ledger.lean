/-
  Programs side by side, each with the log of its calls.

  A task is started at any time, and any of the calls that wait is answered next, in any way.  What
  is left of a program and what it has logged meet its specification all along (`ledger_meets`), so
  a program that is done has kept to it, whatever ran beside it (`ledger_done`).

  1. **Logs** - the specifications are those of `Prog.Spec` with the log for the state: `Meets Post
     log` says that what is left ends in a result and a log that meet `Post`, if `log` is what there
     is so far.  One rule for each way to build a program, and one for a part that only makes calls
     in `P` (`Meets.of_keeps`).
  2. **Ledgers** - an entry is a task, what is left of its program, and its calls so far;
     `ledgerStep` starts a task or answers a call.
-/
import ChirpStackSimulator.Lib.Objects
import ChirpStackSimulator.Lib.Prog

namespace Prog

variable {τ C : Type} {A : C → Type} {α β : Type}

/-! ## Logs -/

/-- A call is logged with its answer. -/
def Logs (log : List (Event A)) (c : C) (x : A c) (log' : List (Event A)) : Prop :=
  log' = log ++ [⟨c, x⟩]

/-- However its calls are answered, the program ends in a result and a log that meet `Post`. -/
abbrev Meets (Post : α → List (Event A) → Prop) (p : Prog C A α) (log : List (Event A)) : Prop :=
  p.Spec Logs (fun _ => True) Post log

variable {Post : α → List (Event A) → Prop} {p : Prog C A α} {log : List (Event A)}

/-- A program that is over meets what holds now. -/
theorem meets_pure {a : α} (h : Post a log) : Meets Post (pure a) log := spec_pure trivial h

/-- A call is logged with its answer. -/
theorem Meets.ask_bind {c : C} {f : A c → Prog C A α}
    (h : ∀ x, Meets Post (f x) (log ++ [⟨c, x⟩])) : Meets Post (Prog.ask c >>= f) log :=
  Spec.ask_bind trivial fun x _ hlog => hlog ▸ h x

theorem Meets.map {Post : β → List (Event A) → Prop} {f : α → β}
    (h : Meets (fun a => Post (f a)) p log) : Meets Post (f <$> p) log :=
  Spec.bind h fun _ _ _ ha => meets_pure ha

/-- A program that only makes calls in `P`. -/
theorem Meets.of_keeps {P : C → Prop} (h : p.Keeps (fun _ _ => True) P fun _ => True)
    (hPost : ∀ a more, (∀ e ∈ more, P e.call) → Post a (log ++ more)) : Meets Post p log := by
  induction p generalizing log with
  | done a =>
    have := hPost a [] (by simp)
    rw [List.append_nil] at this
    exact ⟨trivial, this⟩
  | call c k ih =>
    refine ⟨trivial, fun x log' hlog => ih x (h.2 x trivial) fun a more hmore => ?_⟩
    subst hlog
    rw [List.append_assoc]
    refine hPost a _ fun e he => ?_
    rcases List.mem_cons.mp he with rfl | he
    · exact h.1
    · exact hmore e he

/-- What a program only makes calls in `P` for, before it goes on. -/
theorem Meets.bind_of_keeps {P : C → Prop} {f : α → Prog C A β} {Post : β → List (Event A) → Prop}
    (h : p.Keeps (fun _ _ => True) P fun _ => True)
    (hf : ∀ a more, (∀ e ∈ more, P e.call) → Meets Post (f a) (log ++ more)) :
    Meets Post (p >>= f) log := by
  have hfirst : Meets (fun _ log' => ∃ more, (∀ e ∈ more, P e.call) ∧ log' = log ++ more) p log :=
    Meets.of_keeps h fun _ more hmore => ⟨more, hmore, rfl⟩
  exact Spec.bind hfirst fun a _ _ ⟨more, hmore, hlog⟩ => hlog ▸ hf a more hmore

/-! ## Ledgers -/

/-- A task, what is left of its program, and its calls so far. -/
structure Entry (τ C : Type) (A : C → Type) (α : Type) where
  task : τ
  rest : Prog C A α
  log : List (Event A)

/-- A task starts, or a call that waits is answered. -/
inductive LedgerLabel (τ C : Type) (A : C → Type) where
  | start (t : τ)
  /-- The call that entry `i` waits with is answered. -/
  | answer (i : Nat) (x : (c : C) → A c)

/-- Tasks side by side, each with its own log. -/
def ledgerStep (program : τ → Prog C A α) (entries : List (Entry τ C A α)) :
    LedgerLabel τ C A → Option (List (Entry τ C A α))
  | .start t => some (entries ++ [⟨t, program t, []⟩])
  | .answer i x =>
    match entries[i]? with
    | none => none
    | some e =>
      match e.rest.next with
      | none => none
      | some c => some (entries.set i ⟨e.task, e.rest.resume x, e.log ++ [⟨c, x c⟩]⟩)

variable {program : τ → Prog C A α} {Law : τ → α → List (Event A) → Prop}

/-- **What is left of a program meets its specification with what it has logged.** -/
theorem ledger_meets {labels : List (LedgerLabel τ C A)} {entries : List (Entry τ C A α)}
    (hprogram : ∀ t, Meets (Law t) (program t) [])
    (hrun : Transition.exec (ledgerStep program) [] labels = some entries) :
    ∀ e ∈ entries, Meets (Law e.task) e.rest e.log := by
  refine Transition.exec_invariant
    (I := fun entries : List (Entry τ C A α) => ∀ e ∈ entries, Meets (Law e.task) e.rest e.log)
    (fun entries l entries' hall hstep e he => ?_) (fun e he => absurd he List.not_mem_nil) hrun
  cases l with
  | start t =>
    obtain rfl := Option.some.inj hstep
    rcases List.mem_append.mp he with hold | hnew
    · exact hall e hold
    · obtain rfl := List.mem_singleton.mp hnew
      exact hprogram t
  | answer i x =>
    dsimp only [ledgerStep] at hstep
    split at hstep
    · cases hstep
    · next e₀ hi =>
      split at hstep
      · cases hstep
      · next c hc =>
        obtain rfl := Option.some.inj hstep
        obtain ⟨j, hj⟩ := List.getElem?_of_mem he
        rcases Objects.of_lookup_set hj with ⟨-, rfl⟩ | ⟨-, hold⟩
        · exact (hall e₀ (List.mem_of_getElem? hi)).resume hc rfl
        · exact hall e (List.mem_of_getElem? hold)

/-- **A program that is done has kept to its specification**, whatever ran beside it. -/
theorem ledger_done {labels : List (LedgerLabel τ C A)} {entries : List (Entry τ C A α)}
    (hprogram : ∀ t, Meets (Law t) (program t) [])
    (hrun : Transition.exec (ledgerStep program) [] labels = some entries)
    {e : Entry τ C A α} (he : e ∈ entries) {a : α} (hdone : e.rest = .done a) :
    Law e.task a e.log := by
  have h := ledger_meets hprogram hrun e he
  rw [hdone] at h
  exact h.2

end Prog
