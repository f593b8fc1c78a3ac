/-
  Programs that call their environment.

  A program is done, or it makes a call and goes on with what is answered.  Nothing is said about the
  environment in a program; it appears in three ways:

  1. **Runs** — an environment is a state that answers calls.  `result`, `final` and `events` are
     what a run returns, where it leaves the environment, and the calls it made with their answers;
     each of the three goes through `>>=` (`result_bind`, `final_bind`, `events_bind`).
  2. **Contracts** — `Keeps Q P R`: as long as every call is answered within `Q`, the program makes
     only calls in `P` and returns only results in `R`.  The rule for `>>=` is `Keeps.bind`, and
     `Keeps.of_run` reads a contract off a run.  An environment keeps what its answers to the calls in
     `P` keep (`Keeps.final`), and two that answer them alike are interchangeable (`Keeps.agree`).
  3. **Tracks** — `Tracks δ P R s`: a contract whose calls depend on a state that starts as `s` and
     that `δ` changes with every answer.
  4. **Records** — `Records G π b`: the result meets `π` exactly if `b` holds and no call was answered
     within `G`.  `Records.bind` composes, `Records.of_run` reads it off a run.
  5. **Sharp contracts** — `Sharp B Q P W R`: a contract on the answers in `B` that is kept up to the
     first answer outside `Q`, and broken by a call in `W` straight after it.
  6. **Pools** — programs side by side, each at its next call, in any order; a call may begin another
     task.  In a run of a pool whose tasks have sharp contracts no call is in `W` exactly if all
     answers are within `Q` (`pool_without_iff`).
  7. **Specifications** — `Spec E I Post p s`: whatever the calls are answered within `E`, a relation of
     states, calls and answers, all states meet `I` and the result and the last state meet `Post`.
     The rule for `>>=` is `Spec.bind`, and `Spec.resume` follows a program one call at a time.
-/
import ChirpStackSimulator.Lib.Run

/-- A program that returns an `α`; `A c` is the type of the answers to the call `c`. -/
inductive Prog (C : Type) (A : C → Type) (α : Type) where
  | done (a : α)
  | call (c : C) (k : A c → Prog C A α)

namespace Prog

variable {C : Type} {A : C → Type} {α β σ : Type}

/-! ## Programs -/

/-- First `p`, and then what `f` makes of its result. -/
def bind : Prog C A α → (α → Prog C A β) → Prog C A β
  | .done a, f => f a
  | .call c k, f => .call c fun x => (k x).bind f

instance : Monad (Prog C A) where
  pure := .done
  bind := Prog.bind

/-- Make the call and return its answer. -/
def ask (c : C) : Prog C A (A c) := .call c .done

@[simp] theorem done_bind (a : α) (f : α → Prog C A β) : Prog.done a >>= f = f a := rfl

@[simp] theorem call_bind (c : C) (k : A c → Prog C A α) (f : α → Prog C A β) :
    Prog.call c k >>= f = .call c fun x => k x >>= f := rfl

/-- A call, and what is done with its answer. -/
theorem ask_bind (c : C) (f : A c → Prog C A β) : ask c >>= f = .call c f := rfl

/-- By induction on the program. -/
theorem bind_assoc {γ : Type} (p : Prog C A α) (f : α → Prog C A β) (g : β → Prog C A γ) :
    (p >>= f) >>= g = p >>= fun a => f a >>= g := by
  induction p with
  | done a => rfl
  | call c k ih =>
    show Prog.call c _ = Prog.call c _
    congr 1
    funext x
    exact ih x

/-! ## Runs -/

/-- A call and its answer. -/
structure Event (A : C → Type) where
  call : C
  answer : A call

/-- A state that answers calls. -/
abbrev Env (σ : Type) (A : C → Type) := σ → (c : C) → A c × σ

/-- What the program returns. -/
def result (env : Env σ A) : Prog C A α → σ → α
  | .done a, _ => a
  | .call c k, s => (k (env s c).1).result env (env s c).2

/-- Where it leaves the environment. -/
def final (env : Env σ A) : Prog C A α → σ → σ
  | .done _, s => s
  | .call c k, s => (k (env s c).1).final env (env s c).2

/-- The calls it makes. -/
def events (env : Env σ A) : Prog C A α → σ → List (Event A)
  | .done _, _ => []
  | .call c k, s => ⟨c, (env s c).1⟩ :: (k (env s c).1).events env (env s c).2

section
variable (env : Env σ A) (s : σ)

@[simp] theorem result_done (a : α) : (Prog.done a).result env s = a := rfl
@[simp] theorem result_pure (a : α) : (pure a : Prog C A α).result env s = a := rfl
@[simp] theorem final_done (a : α) : (Prog.done a).final env s = s := rfl
@[simp] theorem final_pure (a : α) : (pure a : Prog C A α).final env s = s := rfl
@[simp] theorem events_done (a : α) : (Prog.done a).events env s = [] := rfl
@[simp] theorem events_pure (a : α) : (pure a : Prog C A α).events env s = [] := rfl

@[simp] theorem result_ask (c : C) : (ask c).result env s = (env s c).1 := rfl
@[simp] theorem final_ask (c : C) : (ask c).final env s = (env s c).2 := rfl
@[simp] theorem events_ask (c : C) : (ask c).events env s = [⟨c, (env s c).1⟩] := rfl

/-- A run of a program is one of its first part and one of the second, from where the first has left
    the surroundings. -/
@[simp] theorem result_bind (p : Prog C A α) (f : α → Prog C A β) :
    (p >>= f).result env s = (f (p.result env s)).result env (p.final env s) := by
  induction p generalizing s with
  | done a => rfl
  | call c k ih => exact ih _ _

@[simp] theorem final_bind (p : Prog C A α) (f : α → Prog C A β) :
    (p >>= f).final env s = (f (p.result env s)).final env (p.final env s) := by
  induction p generalizing s with
  | done a => rfl
  | call c k ih => exact ih _ _

@[simp] theorem events_bind (p : Prog C A α) (f : α → Prog C A β) :
    (p >>= f).events env s =
      p.events env s ++ (f (p.result env s)).events env (p.final env s) := by
  induction p generalizing s with
  | done a => rfl
  | call c k ih => exact congrArg _ (ih _ _)

end

/-! ## Contracts -/

/-- As long as its calls are answered within `Q`, the program makes only calls in `P` and returns
    only results in `R`. -/
def Keeps (Q : (c : C) → A c → Prop) (P : C → Prop) (R : α → Prop) : Prog C A α → Prop
  | .done a => R a
  | .call c k => P c ∧ ∀ x, Q c x → (k x).Keeps Q P R

variable {Q : (c : C) → A c → Prop} {P : C → Prop}

/-- A program that is over keeps every contract whose result it meets. -/
@[simp] theorem keeps_done {R : α → Prop} {a : α} : (Prog.done a : Prog C A α).Keeps Q P R ↔ R a :=
  Iff.rfl

@[simp] theorem keeps_pure {R : α → Prop} {a : α} : (pure a : Prog C A α).Keeps Q P R ↔ R a :=
  Iff.rfl

/-- A single call keeps what its answers keep. -/
theorem Keeps.ask {c : C} (h : P c) : (Prog.ask c : Prog C A (A c)).Keeps Q P (Q c) :=
  ⟨h, fun _ hx => hx⟩

/-- The rule of consequence, for results. -/
theorem Keeps.mono {R S : α → Prop} {p : Prog C A α} (hRS : ∀ a, R a → S a)
    (h : p.Keeps Q P R) : p.Keeps Q P S := by
  induction p with
  | done a => exact hRS a h
  | call c k ih => exact ⟨h.1, fun x hx => ih x (h.2 x hx)⟩

/-- The rule of consequence, for calls. -/
theorem Keeps.mono_calls {P' : C → Prop} {R : α → Prop} {p : Prog C A α} (hPP' : ∀ c, P c → P' c)
    (h : p.Keeps Q P R) : p.Keeps Q P' R := by
  induction p with
  | done a => exact h
  | call c k ih => exact ⟨hPP' c h.1, fun x hx => ih x (h.2 x hx)⟩

/-- The rule of consequence, for answers. -/
theorem Keeps.mono_answers {Q' : (c : C) → A c → Prop} {R : α → Prop} {p : Prog C A α}
    (hQQ' : ∀ c x, Q' c x → Q c x) (h : p.Keeps Q P R) : p.Keeps Q' P R := by
  induction p with
  | done a => exact h
  | call c k ih => exact ⟨h.1, fun x hx => ih x (h.2 x (hQQ' c x hx))⟩

/-- The rule of composition. -/
theorem Keeps.bind {R : α → Prop} {S : β → Prop} {p : Prog C A α} {f : α → Prog C A β}
    (hp : p.Keeps Q P R) (hf : ∀ a, R a → (f a).Keeps Q P S) : (p >>= f).Keeps Q P S := by
  induction p with
  | done a => exact hf a hp
  | call c k ih => exact ⟨hp.1, fun x hx => ih x (hp.2 x hx)⟩

/-- Composition after a single call. -/
theorem Keeps.ask_bind {S : β → Prop} {c : C} {f : A c → Prog C A β} (h : P c)
    (hf : ∀ x, Q c x → (f x).Keeps Q P S) : (Prog.ask c >>= f).Keeps Q P S :=
  ⟨h, hf⟩

/-- A run whose calls are answered within `Q` makes only calls in `P` and returns a result in `R`. -/
theorem Keeps.of_run {R : α → Prop} {env : Env σ A} {p : Prog C A α} {s : σ} (h : p.Keeps Q P R)
    (hQ : ∀ e ∈ p.events env s, Q e.call e.answer) :
    (∀ e ∈ p.events env s, P e.call) ∧ R (p.result env s) := by
  induction p generalizing s with
  | done a => exact ⟨fun e he => absurd he List.not_mem_nil, h⟩
  | call c k ih =>
    have hhead : Q c (env s c).1 := hQ ⟨c, (env s c).1⟩ List.mem_cons_self
    obtain ⟨hcalls, hres⟩ :=
      ih _ (h.2 _ hhead) fun e he => hQ e (List.mem_cons_of_mem _ he)
    refine ⟨fun e he => ?_, hres⟩
    rcases List.mem_cons.mp he with rfl | he
    · exact h.1
    · exact hcalls e he

/-- An environment that always answers within `Q` gets a result in `R`. -/
theorem Keeps.of_env {R : α → Prop} {env : Env σ A} {p : Prog C A α} (h : p.Keeps Q P R)
    (henv : ∀ s c, Q c (env s c).1) (s : σ) : R (p.result env s) := by
  induction p generalizing s with
  | done a => exact h
  | call c k ih => exact ih _ (h.2 _ (henv s c)) _

/-- An environment keeps what its answers to the calls in `P` keep. -/
theorem Keeps.final {R : α → Prop} {env : Env σ A} {p : Prog C A α} {I : σ → Prop}
    (h : p.Keeps (fun _ _ => True) P R) (hI : ∀ s c, P c → I s → I (env s c).2) {s : σ} (hs : I s) :
    I (p.final env s) := by
  induction p generalizing s with
  | done a => exact hs
  | call c k ih => exact ih _ (h.2 _ trivial) (hI s c h.1 hs)

/-- Two environments that answer the calls in `P` alike, and stay related by `S` while they do, give
    the same run. -/
theorem Keeps.agree {R : α → Prop} {τ : Type} {env : Env σ A} {env' : Env τ A} {p : Prog C A α}
    {S : σ → τ → Prop} (h : p.Keeps (fun _ _ => True) P R)
    (hS : ∀ s t c, P c → S s t → (env s c).1 = (env' t c).1 ∧ S (env s c).2 (env' t c).2)
    {s : σ} {t : τ} (hst : S s t) :
    p.result env s = p.result env' t ∧ p.events env s = p.events env' t ∧
      S (p.final env s) (p.final env' t) := by
  induction p generalizing s t with
  | done a => exact ⟨rfl, rfl, hst⟩
  | call c k ih =>
    obtain ⟨hanswer, hnext⟩ := hS s t c h.1 hst
    obtain ⟨hresult, hevents, hfinal⟩ := ih (env s c).1 (h.2 _ trivial) hnext
    simp only [result, events, Prog.final]
    rw [hresult, hevents, ← hanswer]
    exact ⟨rfl, rfl, hfinal⟩

/-! ## Tracks -/

section
variable {S : Type} {δ : S → (c : C) → A c → S} {T : S → C → Prop}

/-- In the state `s` the program makes only calls in `T s`, each answer changes the state by `δ`, and
    results are in `R` of the last state. -/
def Tracks (δ : S → (c : C) → A c → S) (T : S → C → Prop) (R : S → α → Prop) :
    S → Prog C A α → Prop
  | s, .done a => R s a
  | s, .call c k => T s c ∧ ∀ x, (k x).Tracks δ T R (δ s c x)

@[simp] theorem tracks_done {R : S → α → Prop} {s : S} {a : α} :
    (Prog.done a : Prog C A α).Tracks δ T R s ↔ R s a := Iff.rfl

@[simp] theorem tracks_pure {R : S → α → Prop} {s : S} {a : α} :
    (pure a : Prog C A α).Tracks δ T R s ↔ R s a := Iff.rfl

/-- The rule of composition. -/
theorem Tracks.bind {R : S → α → Prop} {R' : S → β → Prop} {s : S} {p : Prog C A α}
    {f : α → Prog C A β} (hp : p.Tracks δ T R s) (hf : ∀ s a, R s a → (f a).Tracks δ T R' s) :
    (p >>= f).Tracks δ T R' s := by
  induction p generalizing s with
  | done a => exact hf s a hp
  | call c k ih => exact ⟨hp.1, fun x => ih x (hp.2 x)⟩

/-- Composition after a single call. -/
theorem Tracks.ask_bind {R' : S → β → Prop} {s : S} {c : C} {f : A c → Prog C A β} (h : T s c)
    (hf : ∀ x, (f x).Tracks δ T R' (δ s c x)) : (Prog.ask c >>= f).Tracks δ T R' s :=
  ⟨h, hf⟩

/-- The rule of consequence, for calls. -/
theorem Tracks.mono_calls {T' : S → C → Prop} {R : S → α → Prop} {s : S} {p : Prog C A α}
    (hTT' : ∀ s c, T s c → T' s c) (h : p.Tracks δ T R s) : p.Tracks δ T' R s := by
  induction p generalizing s with
  | done a => exact h
  | call c k ih => exact ⟨hTT' s c h.1, fun x => ih x (h.2 x)⟩

/-- What holds of the calls in every state is a contract. -/
theorem Tracks.keeps {R : S → α → Prop} {R' : α → Prop} {s : S} {p : Prog C A α}
    (h : p.Tracks δ T R s) (hT : ∀ s c, T s c → P c) (hR : ∀ s a, R s a → R' a) :
    p.Keeps (fun _ _ => True) P R' := by
  induction p generalizing s with
  | done a => exact hR s a h
  | call c k ih => exact ⟨hT s c h.1, fun x _ => ih x (h.2 x)⟩

end

/-! ## Records -/

/-- The result meets `π` exactly if `b` holds and no call was answered within `G`. -/
def Records (G : (c : C) → A c → Prop) (π : α → Prop) : Prop → Prog C A α → Prop
  | b, .done a => π a ↔ b
  | b, .call c k => ∀ x, (k x).Records G π (b ∧ ¬ G c x)

variable {G : (c : C) → A c → Prop} {π : α → Prop} {b : Prop}

@[simp] theorem records_done {a : α} : (Prog.done a : Prog C A α).Records G π b ↔ (π a ↔ b) :=
  Iff.rfl

@[simp] theorem records_pure {a : α} : (pure a : Prog C A α).Records G π b ↔ (π a ↔ b) := Iff.rfl

/-- The account may be stated in other words. -/
theorem Records.congr {b' : Prop} {p : Prog C A α} (h : p.Records G π b) (hb : b ↔ b') :
    p.Records G π b' := propext hb ▸ h

/-- The rule of composition; of the first program's result more may be known. -/
theorem Records.bind_of_keeps {I : α → Prop} {ρ : β → Prop} {p : Prog C A α} {f : α → Prog C A β}
    (hI : p.Keeps (fun _ _ => True) (fun _ => True) I) (hp : p.Records G π b)
    (hf : ∀ a, I a → (f a).Records G ρ (π a)) : (p >>= f).Records G ρ b := by
  induction p generalizing b with
  | done a => exact (hf a hI).congr hp
  | call c k ih => exact fun x => ih x (hI.2 x trivial) (hp x)

/-- The contract that asks nothing. -/
theorem keeps_true (p : Prog C A α) : p.Keeps (fun _ _ => True) (fun _ => True) fun _ => True := by
  induction p with
  | done a => trivial
  | call c k ih => exact ⟨trivial, fun x _ => ih x⟩

/-- The account of the first part is handed to the second. -/
theorem Records.bind {ρ : β → Prop} {p : Prog C A α} {f : α → Prog C A β} (hp : p.Records G π b)
    (hf : ∀ a, (f a).Records G ρ (π a)) : (p >>= f).Records G ρ b :=
  Records.bind_of_keeps (keeps_true p) hp fun a _ => hf a

/-- Composition after a single call. -/
theorem Records.ask_bind {ρ : β → Prop} {c : C} {f : A c → Prog C A β}
    (hf : ∀ x, (f x).Records G ρ (b ∧ ¬ G c x)) : (Prog.ask c >>= f).Records G ρ b :=
  hf

/-- What is known beside the record stays known. -/
theorem Records.and_const {p : Prog C A α} (h : p.Records G π b) (q : Prop) :
    p.Records G (fun a => π a ∧ q) (b ∧ q) := by
  induction p generalizing b with
  | done a => exact and_congr_left' h
  | call c k ih =>
    intro x
    exact (ih x (h x)).congr (by rw [and_right_comm])

/-- A program none of whose calls can be answered within `G` records what its result keeps. -/
theorem Records.of_keeps {p : Prog C A α}
    (h : p.Keeps (fun _ _ => True) (fun c => ∀ x, ¬ G c x) fun a => π a ↔ b) : p.Records G π b := by
  induction p with
  | done a => exact h
  | call c k ih =>
    intro x
    exact (ih x (h.2 x trivial)).congr (by simp [h.1 x])

/-- After a run the result meets `π` exactly if `b` holds and no call was answered within `G`. -/
theorem Records.of_run {p : Prog C A α} (h : p.Records G π b) (env : Env σ A) (s : σ) :
    π (p.result env s) ↔ b ∧ ∀ e ∈ p.events env s, ¬ G e.call e.answer := by
  induction p generalizing s b with
  | done a => simpa using h
  | call c k ih =>
    have hk := ih _ (h (env s c).1) (env s c).2
    simp only [result, events, List.forall_mem_cons]
    rw [hk, and_assoc]

/-! ## Sharp contracts -/

/-- The call a program stands at. -/
def next : Prog C A α → Option C
  | .done _ => none
  | .call c _ => some c

/-- What the program is once its call is answered. -/
def resume (answer : (c : C) → A c) : Prog C A α → Prog C A α
  | .done a => .done a
  | .call c k => k (answer c)

/-- As long as its calls are answered within `B` and `Q`, the program makes only calls in `P` and
    returns only results in `R`; the first answer in `B` outside `Q` leads it straight to a call in
    `W`. -/
def Sharp (B Q : (c : C) → A c → Prop) (P W : C → Prop) (R : α → Prop) : Prog C A α → Prop
  | .done a => R a
  | .call c k => P c ∧ ∀ x, B c x →
      (Q c x → (k x).Sharp B Q P W R) ∧ (¬ Q c x → ∃ d, (k x).next = some d ∧ W d)

section
variable {B : (c : C) → A c → Prop} {W : C → Prop} {R : α → Prop}

@[simp] theorem sharp_done {a : α} : (Prog.done a : Prog C A α).Sharp B Q P W R ↔ R a := Iff.rfl

@[simp] theorem sharp_pure {a : α} : (pure a : Prog C A α).Sharp B Q P W R ↔ R a := Iff.rfl

/-- Where no answer is outside `Q`, a contract is sharp. -/
theorem Sharp.of_keeps {p : Prog C A α}
    (h : p.Keeps B (fun c => P c ∧ ∀ x, B c x → Q c x) R) : p.Sharp B Q P W R := by
  induction p with
  | done a => exact h
  | call c k ih =>
    exact ⟨h.1.1, fun x hB => ⟨fun _ => ih x (h.2 x hB), fun hQ => absurd (h.1.2 x hB) hQ⟩⟩

/-- The rule of consequence, for results. -/
theorem Sharp.mono {S : α → Prop} {p : Prog C A α} (hRS : ∀ a, R a → S a)
    (h : p.Sharp B Q P W R) : p.Sharp B Q P W S := by
  induction p with
  | done a => exact hRS a h
  | call c k ih =>
    exact ⟨h.1, fun x hB => ⟨fun hQ => ih x ((h.2 x hB).1 hQ), (h.2 x hB).2⟩⟩

/-- The next call of the first part is the next of the whole. -/
theorem next_bind {p : Prog C A α} {f : α → Prog C A β} {d : C} (h : p.next = some d) :
    (p >>= f).next = some d := by
  cases p with
  | done a => exact absurd h (by simp [next])
  | call c k => exact h

/-- The rule of composition. -/
theorem Sharp.bind {S : β → Prop} {p : Prog C A α} {f : α → Prog C A β}
    (hp : p.Sharp B Q P W R) (hf : ∀ a, R a → (f a).Sharp B Q P W S) :
    (p >>= f).Sharp B Q P W S := by
  induction p with
  | done a => exact hf a hp
  | call c k ih =>
    refine ⟨hp.1, fun x hB => ⟨fun hQ => ih x ((hp.2 x hB).1 hQ), fun hQ => ?_⟩⟩
    obtain ⟨d, hd, hW⟩ := (hp.2 x hB).2 hQ
    exact ⟨d, next_bind hd, hW⟩

/-- Composition after a single call. -/
theorem Sharp.ask_bind {S : β → Prop} {c : C} {f : A c → Prog C A β} (h : P c)
    (hin : ∀ x, B c x → Q c x → (f x).Sharp B Q P W S)
    (hout : ∀ x, B c x → ¬ Q c x → ∃ d, (f x).next = some d ∧ W d) :
    (Prog.ask c >>= f).Sharp B Q P W S :=
  ⟨h, fun x hB => ⟨hin x hB, hout x hB⟩⟩

/-- What is called next is allowed. -/
theorem Sharp.next {p : Prog C A α} (h : p.Sharp B Q P W R) : ∀ c ∈ p.next, P c := by
  intro c hc
  cases p with
  | done a => exact absurd hc (by simp [Prog.next])
  | call d k =>
    obtain rfl : d = c := by simpa [Prog.next] using hc
    exact h.1

end

/-! ## Pools -/

section
variable {τ : Type}

/-- The programs that are running, each with the task it carries out, and the calls they have come
    to. -/
structure Pool (τ C : Type) (A : C → Type) (α : Type) where
  running : List (τ × Prog C A α)
  issued : List C

def Pool.empty : Pool τ C A α := ⟨[], []⟩

/-- A program comes into the pool. -/
def Pool.add (pool : Pool τ C A α) (t : τ) (p : Prog C A α) : Pool τ C A α :=
  ⟨pool.running ++ [(t, p)], pool.issued ++ p.next.toList⟩

/-- A program of the pool goes on. -/
def Pool.set (pool : Pool τ C A α) (i : Nat) (t : τ) (p : Prog C A α) : Pool τ C A α :=
  ⟨pool.running.set i (t, p), pool.issued ++ p.next.toList⟩

/-- A task is begun, or the call the `i`-th program stands at is answered. -/
inductive PoolLabel (τ C : Type) (A : C → Type) where
  | start (t : τ)
  | answer (i : Nat) (x : (c : C) → A c)

variable (program : τ → Prog C A α) (spawns : C → Option τ)

/-- One step of a pool: `program` says how a task is carried out, and `spawns` which task is begun by
    a call once it is answered. -/
def poolStep (pool : Pool τ C A α) : PoolLabel τ C A → Option (Pool τ C A α)
  | .start t => some (pool.add t (program t))
  | .answer i x =>
    match pool.running[i]? with
    | none => none
    | some (t, p) =>
      match p.next with
      | none => none
      | some c =>
        let pool := pool.set i t (p.resume x)
        match spawns c with
        | none => some pool
        | some t' => some (pool.add t' (program t'))

/-- A condition on the answers a step gives, by the task it gives them to. -/
def AnswersMeet (Q : τ → (c : C) → A c → Prop) (pool : Pool τ C A α) : PoolLabel τ C A → Prop
  | .start _ => True
  | .answer i x => ∀ t p, pool.running[i]? = some (t, p) → ∀ c, p.next = some c → Q t c (x c)

/-- A condition on the tasks that are begun from outside. -/
def StartsMeet (T : τ → Prop) : PoolLabel τ C A → Prop
  | .start t => T t
  | .answer _ _ => True

variable {program spawns} {B Q : τ → (c : C) → A c → Prop} {W : C → Prop} {R : τ → α → Prop}
  {T : τ → Prop}

/-- Every program that is running has the contract of its task. -/
def Pool.AllSharp (B Q : τ → (c : C) → A c → Prop) (P W : C → Prop) (R : τ → α → Prop)
    (pool : Pool τ C A α) : Prop :=
  ∀ t p, (t, p) ∈ pool.running → p.Sharp (B t) (Q t) P W (R t)

/-- No call of the pool was in `W`. -/
def Pool.Without (W : C → Prop) (pool : Pool τ C A α) : Prop := ∀ c ∈ pool.issued, ¬ W c

/-- A program that joins a pool of sharp ones must be sharp. -/
theorem Pool.AllSharp.add {pool : Pool τ C A α} (h : pool.AllSharp B Q P W R) {t : τ}
    {p : Prog C A α} (hp : p.Sharp (B t) (Q t) P W (R t)) : (pool.add t p).AllSharp B Q P W R := by
  intro t' p' hmem
  rcases List.mem_append.mp hmem with hmem | hmem
  · exact h t' p' hmem
  · obtain ⟨rfl, rfl⟩ : t' = t ∧ p' = p := by simpa using hmem
    exact hp

/-- So must one that goes on in its place. -/
theorem Pool.AllSharp.set {pool : Pool τ C A α} (h : pool.AllSharp B Q P W R) {i : Nat} {t : τ}
    {p : Prog C A α} (hp : p.Sharp (B t) (Q t) P W (R t)) : (pool.set i t p).AllSharp B Q P W R := by
  intro t' p' hmem
  rcases List.mem_or_eq_of_mem_set hmem with hmem | heq
  · exact h t' p' hmem
  · obtain ⟨rfl, rfl⟩ := Prod.mk.inj heq
    exact hp

/-- A pool has nothing forbidden ahead exactly if none of its programs has. -/
theorem Pool.without_add {pool : Pool τ C A α} {t : τ} {p : Prog C A α} :
    (pool.add t p).Without W ↔ pool.Without W ∧ ∀ c ∈ p.next, ¬ W c := by
  simp [Pool.Without, Pool.add, or_imp, forall_and]

theorem Pool.without_set {pool : Pool τ C A α} {i : Nat} {t : τ} {p : Prog C A α} :
    (pool.set i t p).Without W ↔ pool.Without W ∧ ∀ c ∈ p.next, ¬ W c := by
  simp [Pool.Without, Pool.set, or_imp, forall_and]

/-- A step forgets no call. -/
theorem Pool.Without.of_step {pool pool' : Pool τ C A α} {l : PoolLabel τ C A}
    (h : poolStep program spawns pool l = some pool') (hpool' : pool'.Without W) :
    pool.Without W := by
  unfold poolStep at h
  split at h
  · obtain rfl := Option.some.inj h
    exact (without_add.mp hpool').1
  · split at h
    · exact absurd h (by simp)
    · split at h
      · exact absurd h (by simp)
      · dsimp only at h
        split at h
        · obtain rfl := Option.some.inj h
          exact (without_set.mp hpool').1
        · obtain rfl := Option.some.inj h
          exact (without_set.mp (without_add.mp hpool').1).1

section
variable (hPW : ∀ c, P c → ¬ W c) (hprogram : ∀ t, T t → (program t).Sharp (B t) (Q t) P W (R t))
  (hspawns : ∀ c, P c → ∀ t ∈ spawns c, T t)
include hPW hprogram hspawns

/-- An answer within `Q` keeps the contracts and leads to no call in `W`, one outside leads to one. -/
theorem poolStep_sharp {pool pool' : Pool τ C A α} {l : PoolLabel τ C A}
    (h : poolStep program spawns pool l = some pool') (hpool : pool.AllSharp B Q P W R)
    (hT : StartsMeet T l) (hB : AnswersMeet B pool l) :
    (AnswersMeet Q pool l → pool'.AllSharp B Q P W R ∧ (pool'.Without W ↔ pool.Without W)) ∧
      (¬ AnswersMeet Q pool l → ¬ pool'.Without W) := by
  have hnext : ∀ {t : τ} {p : Prog C A α}, p.Sharp (B t) (Q t) P W (R t) → ∀ c ∈ p.next, ¬ W c :=
    fun hp c hc => hPW c (hp.next c hc)
  unfold poolStep at h
  split at h
  · rename_i t
    obtain rfl := Option.some.inj h
    have hp := hprogram t hT
    exact ⟨fun _ => ⟨hpool.add hp, by rw [Pool.without_add, and_iff_left (hnext hp)]⟩,
      fun hQ => absurd trivial hQ⟩
  · rename_i i x
    split at h
    · exact absurd h (by simp)
    · rename_i t p hi
      split at h
      · exact absurd h (by simp)
      · rename_i c hc
        obtain ⟨k, rfl⟩ : ∃ k, p = .call c k := by
          cases p with
          | done a => exact absurd hc (by simp [next])
          | call d k =>
            obtain rfl : d = c := by simpa [next] using hc
            exact ⟨k, rfl⟩
        have hsharp := hpool t _ (List.mem_of_getElem? hi)
        have hin : AnswersMeet Q pool (.answer i x) ↔ Q t c (x c) := by
          constructor
          · exact fun hQ => hQ t _ hi c rfl
          · intro hQ t' p' hi' c' hc'
            obtain ⟨rfl, rfl⟩ := Prod.mk.inj (Option.some.inj (hi.symm.trans hi'))
            obtain rfl := Option.some.inj hc'
            exact hQ
        obtain ⟨hkeeps, hleaves⟩ := hsharp.2 (x c) (hB t _ hi c rfl)
        dsimp only [resume] at h
        rw [hin]
        have hset : Q t c (x c) → (pool.set i t (k (x c))).AllSharp B Q P W R ∧
            ((pool.set i t (k (x c))).Without W ↔ pool.Without W) := fun hQ =>
          ⟨hpool.set (hkeeps hQ), by rw [Pool.without_set, and_iff_left (hnext (hkeeps hQ))]⟩
        have hout : ¬ Q t c (x c) → ¬ (pool.set i t (k (x c))).Without W := by
          intro hQ hwithout
          obtain ⟨d, hd, hW⟩ := hleaves hQ
          exact (Pool.without_set.mp hwithout).2 d hd hW
        split at h
        · obtain rfl := Option.some.inj h
          exact ⟨hset, hout⟩
        · rename_i t' hspawn
          obtain rfl := Option.some.inj h
          have hp := hprogram t' (hspawns c hsharp.1 t' hspawn)
          refine ⟨fun hQ => ⟨(hset hQ).1.add hp, ?_⟩, fun hQ hwithout =>
            hout hQ (Pool.without_add.mp hwithout).1⟩
          rw [Pool.without_add, and_iff_left (hnext hp), (hset hQ).2]

theorem exec_without_iff {labels : List (PoolLabel τ C A)} {pool pool' : Pool τ C A α}
    (hpool : pool.AllSharp B Q P W R)
    (hrun : Transition.exec (poolStep program spawns) pool labels = some pool')
    (hT : ∀ l ∈ labels, StartsMeet T l)
    (hB : Transition.Always (poolStep program spawns) (AnswersMeet B) pool labels) :
    pool'.Without W ↔ pool.Without W ∧
      Transition.Always (poolStep program spawns) (AnswersMeet Q) pool labels := by
  induction labels generalizing pool with
  | nil =>
    obtain rfl := Option.some.inj hrun
    simp
  | cons l labels ih =>
    obtain ⟨mid, hmid, hrest⟩ := Transition.exec_cons_eq_some.mp hrun
    obtain ⟨hin, hout⟩ := poolStep_sharp hPW hprogram hspawns hmid hpool
      (hT l List.mem_cons_self) hB.1
    by_cases hQ : AnswersMeet Q pool l
    · obtain ⟨hsharp, hwithout⟩ := hin hQ
      rw [ih hsharp hrest (fun l hl => hT l (List.mem_cons_of_mem _ hl)) (hB.2 mid hmid), hwithout,
        Transition.always_cons]
      refine and_congr_right fun _ => ⟨fun h => ⟨hQ, fun t ht => ?_⟩, fun h => h.2 mid hmid⟩
      obtain rfl := Option.some.inj (hmid.symm.trans ht)
      exact h
    · refine iff_of_false ?_ fun h => hQ h.2.1
      exact Transition.exec_invariant (I := fun pool : Pool τ C A α => ¬ pool.Without W)
        (fun s a t hs hstep ht => hs (ht.of_step hstep)) (hout hQ) hrest

/-- **A pool of sharp contracts makes no call in `W` exactly if all its answers are within `Q`**, in
    every run that begins only tasks in `T` and whose answers are within `B`. -/
theorem pool_without_iff {labels : List (PoolLabel τ C A)} {pool : Pool τ C A α}
    (hrun : Transition.exec (poolStep program spawns) Pool.empty labels = some pool)
    (hT : ∀ l ∈ labels, StartsMeet T l)
    (hB : Transition.Always (poolStep program spawns) (AnswersMeet B) Pool.empty labels) :
    pool.Without W ↔
      Transition.Always (poolStep program spawns) (AnswersMeet Q) Pool.empty labels := by
  have hempty : (Pool.empty : Pool τ C A α).AllSharp B Q P W R :=
    fun _ _ h => absurd h List.not_mem_nil
  rw [exec_without_iff hPW hprogram hspawns hempty hrun hT hB]
  exact and_iff_right fun c hc => absurd hc List.not_mem_nil

end

end

/-! ## Specifications -/

section
variable {E : σ → (c : C) → A c → σ → Prop} {I : σ → Prop}

/-- In every run from `s` whose calls are answered within `E`, all states meet `I`, and the result and
    the last state meet `Post`. -/
def Spec (E : σ → (c : C) → A c → σ → Prop) (I : σ → Prop) (Post : α → σ → Prop) :
    Prog C A α → σ → Prop
  | .done a, s => I s ∧ Post a s
  | .call c k, s => I s ∧ ∀ x s', E s c x s' → (k x).Spec E I Post s'

theorem spec_pure {Post : α → σ → Prop} {a : α} {s : σ} (hI : I s) (h : Post a s) :
    (pure a : Prog C A α).Spec E I Post s := ⟨hI, h⟩

/-- A triple holds of states that satisfy the invariant only. -/
theorem Spec.start {Post : α → σ → Prop} {p : Prog C A α} {s : σ} (h : p.Spec E I Post s) : I s := by
  cases p with
  | done a => exact h.1
  | call c k => exact h.1

/-- The rule of consequence. -/
theorem Spec.mono {Post Post' : α → σ → Prop} {p : Prog C A α} {s : σ}
    (hPost : ∀ a s, I s → Post a s → Post' a s) (h : p.Spec E I Post s) : p.Spec E I Post' s := by
  induction p generalizing s with
  | done a => exact ⟨h.1, hPost a s h.1 h.2⟩
  | call c k ih => exact ⟨h.1, fun x s' hE => ih x (h.2 x s' hE)⟩

/-- The rule of composition. -/
theorem Spec.bind {Post : α → σ → Prop} {Post' : β → σ → Prop} {p : Prog C A α} {f : α → Prog C A β}
    {s : σ} (hp : p.Spec E I Post s)
    (hf : ∀ a s, I s → Post a s → (f a).Spec E I Post' s) : (p >>= f).Spec E I Post' s := by
  induction p generalizing s with
  | done a => exact hf a s hp.1 hp.2
  | call c k ih => exact ⟨hp.1, fun x s' hE => ih x (hp.2 x s' hE)⟩

/-- Composition after a single call. -/
theorem Spec.ask_bind {Post : β → σ → Prop} {c : C} {f : A c → Prog C A β} {s : σ} (hI : I s)
    (hf : ∀ x s', E s c x s' → (f x).Spec E I Post s') :
    (Prog.ask c >>= f).Spec E I Post s :=
  ⟨hI, hf⟩

/-- A single call. -/
theorem Spec.ask {c : C} {Post : A c → σ → Prop} {s : σ} (hI : I s)
    (h : ∀ x s', E s c x s' → I s' ∧ Post x s') : (Prog.ask c : Prog C A (A c)).Spec E I Post s :=
  ⟨hI, h⟩

/-- A program that has been answered is still in its specification. -/
theorem Spec.resume {Post : α → σ → Prop} {p : Prog C A α} {s s' : σ} {c : C}
    {x : (c : C) → A c} (h : p.Spec E I Post s) (hc : p.next = some c) (hE : E s c (x c) s') :
    (p.resume x).Spec E I Post s' := by
  cases p with
  | done a => cases hc
  | call d k =>
    cases hc
    exact h.2 _ _ hE

end

end Prog
