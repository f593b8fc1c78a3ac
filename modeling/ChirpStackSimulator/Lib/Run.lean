/-
  Finite runs of a partial, labelled transition system `step : σ → α → Option σ`.

  A label carries every choice the system makes, so a run is nothing but its list of labels and
  `exec` is a fold.  A few things are needed about such runs again and again, and each is packaged
  once here:

  * an INVARIANT of the single step is an invariant of the run (`exec_invariant`), also when the
    step keeps it only under a condition `G` on the state it is taken in, provided every step of the
    run meets `G` (`Always`, `exec_invariant_of_always`);
  * what the steps cost is bounded by what it is paid out of (`exec_budget`);
  * a property that a step keeps exactly when it meets `G` holds after a run exactly when every step
    of it met `G` (`exec_iff_always`);
  * a property of states holds in every state of a run (`Throughout`) exactly when every step met
    `G`, if a step leaves a state with the property for one with it exactly when it meets `G`
    (`throughout_iff_always`);
  * two step conditions that agree wherever an invariant holds agree on whole runs
    (`always_congr`), which is how a property of a run is matched with the exact condition on its
    steps.
-/
import Mathlib.Algebra.GroupWithZero.Nat
import Mathlib.Data.Option.Basic

namespace Transition

variable {σ α : Type*} {step : σ → α → Option σ} {s t u : σ} {a : α} {as : List α}

/-! ## Runs -/

/-- Take the labels one after another; `none` as soon as one of them is not enabled. -/
def exec (step : σ → α → Option σ) : σ → List α → Option σ
  | s, [] => some s
  | s, a :: as => (step s a).bind fun t => exec step t as

@[simp] theorem exec_nil : exec step s [] = some s := rfl

theorem exec_cons : exec step s (a :: as) = (step s a).bind fun t => exec step t as := rfl

theorem exec_cons_eq_some :
    exec step s (a :: as) = some u ↔ ∃ t, step s a = some t ∧ exec step t as = some u := by
  rw [exec_cons, Option.bind_eq_some_iff]

/-! ## Conditions on the steps of a run -/

/-- Every step of the run from `s` along `as` meets `G` in the state it is taken in. -/
def Always (step : σ → α → Option σ) (G : σ → α → Prop) : σ → List α → Prop
  | _, [] => True
  | s, a :: as => G s a ∧ ∀ t, step s a = some t → Always step G t as

@[simp] theorem always_nil {G : σ → α → Prop} : Always step G s [] := trivial

theorem always_cons {G : σ → α → Prop} :
    Always step G s (a :: as) ↔ G s a ∧ ∀ t, step s a = some t → Always step G t as :=
  Iff.rfl

/-- A decidable condition can be checked along the run. -/
instance decidableAlways {G : σ → α → Prop} [∀ s a, Decidable (G s a)] :
    ∀ s as, Decidable (Always step G s as)
  | _, [] => isTrue trivial
  | s, a :: as =>
    match h : step s a with
    | none => decidable_of_iff (G s a) (by simp [always_cons, h])
    | some t =>
      have := decidableAlways (G := G) t as
      decidable_of_iff (G s a ∧ Always step G t as) (by simp [always_cons, h])

/-- A weaker condition holds along the run as well. -/
theorem Always.mono {G H : σ → α → Prop} (hGH : ∀ s a, G s a → H s a) :
    ∀ {s : σ} {as : List α}, Always step G s as → Always step H s as
  | _, [], _ => trivial
  | _, _ :: _, h => ⟨hGH _ _ h.1, fun t ht => Always.mono hGH (h.2 t ht)⟩

/-- Two conditions that hold along the run hold together. -/
theorem Always.and {G H : σ → α → Prop} :
    ∀ {s : σ} {as : List α}, Always step G s as → Always step H s as →
      Always step (fun s a => G s a ∧ H s a) s as
  | _, [], _, _ => trivial
  | _, _ :: _, hG, hH => ⟨⟨hG.1, hH.1⟩, fun t ht => Always.and (hG.2 t ht) (hH.2 t ht)⟩

/-- A condition along a run holds along what is left of it in any of its states. -/
theorem Always.drop {G : σ → α → Prop} {bs : List α} :
    ∀ {s : σ} {as : List α}, Always step G s (as ++ bs) → ∀ {t : σ}, exec step s as = some t →
      Always step G t bs
  | s, [], h, t, ht => by
    rw [exec_nil, Option.some.injEq] at ht
    exact ht ▸ h
  | s, a :: as, h, t, ht => by
    obtain ⟨v, hv, hvt⟩ := exec_cons_eq_some.mp ht
    exact Always.drop (h.2 v hv) hvt

/-- A condition on the labels alone is a condition on the list. -/
theorem always_of_forall_mem {P : α → Prop} :
    ∀ {s : σ} {as : List α}, (∀ a ∈ as, P a) → Always step (fun _ a => P a) s as
  | _, [], _ => trivial
  | _, a :: _, h =>
    ⟨h a List.mem_cons_self, fun _ _ =>
      always_of_forall_mem fun b hb => h b (List.mem_cons_of_mem a hb)⟩

/-! ## The invariant rules -/

/-- **Invariants of conditional steps.**  What every step that meets `G` keeps, every run all of
    whose steps meet `G` keeps. -/
theorem exec_invariant_of_always {G : σ → α → Prop} {I : σ → Prop}
    (hstep : ∀ s a t, I s → G s a → step s a = some t → I t) :
    ∀ {s : σ} {as : List α}, I s → Always step G s as → ∀ {t : σ}, exec step s as = some t → I t
  | s, [], hI, _, t, ht => by
    rw [exec_nil, Option.some.injEq] at ht
    exact ht ▸ hI
  | s, a :: as, hI, hG, t, ht => by
    obtain ⟨v, hv, hvt⟩ := exec_cons_eq_some.mp ht
    exact exec_invariant_of_always hstep (hstep s a v hI hG.1 hv) (hG.2 v hv) hvt

/-- **Invariants.**  What every step keeps, every run keeps. -/
theorem exec_invariant {I : σ → Prop} (hstep : ∀ s a t, I s → step s a = some t → I t)
    (hI : I s) (ht : exec step s as = some t) : I t := by
  induction as generalizing s with
  | nil =>
    rw [exec_nil, Option.some.injEq] at ht
    exact ht ▸ hI
  | cons a as ih =>
    obtain ⟨v, hv, hvt⟩ := exec_cons_eq_some.mp ht
    exact ih (hstep s a v hI hv) hvt

/-- **Budgets.**  If every step is paid for out of `f`, which nothing but `g` fills up, then so is the
    run. -/
theorem exec_budget {G : σ → α → Prop} {cost : α → Nat} {f g : σ → Nat}
    (hstep : ∀ s a t, G s a → step s a = some t → cost a + f t + g s ≤ f s + g t) :
    ∀ {s : σ} {as : List α}, Always step G s as → ∀ {t : σ}, exec step s as = some t →
      (as.map cost).sum + f t + g s ≤ f s + g t
  | s, [], _, t, ht => by
    rw [exec_nil, Option.some.injEq] at ht
    subst ht
    simp only [List.map_nil, List.sum_nil]
    omega
  | s, a :: as, hG, t, ht => by
    obtain ⟨v, hv, hvt⟩ := exec_cons_eq_some.mp ht
    have hfirst := hstep s a v hG.1 hv
    have hrest := exec_budget hstep (hG.2 v hv) hvt
    rw [List.map_cons, List.sum_cons]
    omega

/-- **Accumulated properties.**  What holds after a step exactly when it held before and the step met
    `G` holds after a run exactly when it held before and every step met `G`; the labels of the run
    may be known to be of a kind `L`. -/
theorem exec_iff_always_of_mem {G : σ → α → Prop} {I P : σ → Prop} {L : α → Prop}
    (hstep : ∀ s a t, I s → L a → step s a = some t → I t)
    (hacc : ∀ s a t, I s → L a → step s a = some t → (P t ↔ P s ∧ G s a)) (hI : I s)
    (hL : ∀ a ∈ as, L a) (ht : exec step s as = some t) : P t ↔ P s ∧ Always step G s as := by
  induction as generalizing s with
  | nil =>
    rw [exec_nil, Option.some.injEq] at ht
    simp [ht]
  | cons a as ih =>
    obtain ⟨v, hv, hvt⟩ := exec_cons_eq_some.mp ht
    have hLa : L a := hL a List.mem_cons_self
    rw [ih (hstep s a v hI hLa hv) (fun b hb => hL b (List.mem_cons_of_mem a hb)) hvt,
      hacc s a v hI hLa hv, always_cons, and_assoc]
    constructor
    · rintro ⟨hP, hG, hrest⟩
      refine ⟨hP, hG, fun w hw => ?_⟩
      obtain rfl : v = w := Option.some.inj (hv.symm.trans hw)
      exact hrest
    · rintro ⟨hP, hG, hrest⟩
      exact ⟨hP, hG, hrest v hv⟩

theorem exec_iff_always {G : σ → α → Prop} {I P : σ → Prop}
    (hstep : ∀ s a t, I s → step s a = some t → I t)
    (hacc : ∀ s a t, I s → step s a = some t → (P t ↔ P s ∧ G s a)) (hI : I s)
    (ht : exec step s as = some t) : P t ↔ P s ∧ Always step G s as :=
  exec_iff_always_of_mem (L := fun _ => True) (fun s a t hI _ => hstep s a t hI)
    (fun s a t hI _ => hacc s a t hI) hI (fun _ _ => trivial) ht

/-- Two conditions that agree wherever `I` holds agree on runs from `I`, where `I` needs to be kept
    only by steps that meet them. -/
theorem always_congr {G H : σ → α → Prop} {I : σ → Prop}
    (hGH : ∀ s a, I s → (G s a ↔ H s a))
    (hstep : ∀ s a t, I s → G s a → step s a = some t → I t) :
    ∀ {s : σ} (as : List α), I s → (Always step G s as ↔ Always step H s as)
  | _, [], _ => Iff.rfl
  | s, a :: as, hI => by
    rw [always_cons, always_cons]
    constructor
    · rintro ⟨hG, hrest⟩
      exact ⟨(hGH s a hI).mp hG, fun t ht =>
        (always_congr hGH hstep as (hstep s a t hI hG ht)).mp (hrest t ht)⟩
    · rintro ⟨hH, hrest⟩
      have hG := (hGH s a hI).mpr hH
      exact ⟨hG, fun t ht =>
        (always_congr hGH hstep as (hstep s a t hI hG ht)).mpr (hrest t ht)⟩

/-! ## Properties of every state of a run -/

/-- `P` holds in every state of the run from `s` along `as`. -/
def Throughout (step : σ → α → Option σ) (P : σ → Prop) : σ → List α → Prop
  | s, [] => P s
  | s, a :: as => P s ∧ ∀ t, step s a = some t → Throughout step P t as

theorem Throughout.start {P : σ → Prop} : ∀ {as : List α}, Throughout step P s as → P s
  | [], h => h
  | _ :: _, h => h.1

/-- It holds in the last one. -/
theorem Throughout.last {P : σ → Prop} :
    ∀ {s : σ} {as : List α}, Throughout step P s as → ∀ {t : σ}, exec step s as = some t → P t
  | s, [], h, t, ht => by
    rw [exec_nil, Option.some.injEq] at ht
    exact ht ▸ h
  | s, a :: as, h, t, ht => by
    obtain ⟨v, hv, hvt⟩ := exec_cons_eq_some.mp ht
    exact Throughout.last (h.2 v hv) hvt

/-- **Properties of every state.**  If a step from a state with `P` leads to one with `P` exactly when
    it meets `G`, all states of a run that starts with `P` have it exactly when every step met `G`. -/
theorem throughout_iff_always {G : σ → α → Prop} {I P : σ → Prop}
    (hstep : ∀ s a t, I s → step s a = some t → I t)
    (hacc : ∀ s a t, I s → P s → step s a = some t → (P t ↔ G s a))
    (hI : I s) (hP : P s) (ht : exec step s as = some u) :
    Throughout step P s as ↔ Always step G s as := by
  induction as generalizing s with
  | nil => exact ⟨fun _ => trivial, fun _ => hP⟩
  | cons a as ih =>
    obtain ⟨v, hv, hvt⟩ := exec_cons_eq_some.mp ht
    have hIv : I v := hstep s a v hI hv
    have hiff := hacc s a v hI hP hv
    constructor
    · rintro ⟨-, hrest⟩
      have hPv : P v := (hrest v hv).start
      refine ⟨hiff.mp hPv, fun w hw => ?_⟩
      obtain rfl : v = w := Option.some.inj (hv.symm.trans hw)
      exact (ih hIv hPv hvt).mp (hrest v hv)
    · rintro ⟨hG, hrest⟩
      have hPv : P v := hiff.mpr hG
      refine ⟨hP, fun w hw => ?_⟩
      obtain rfl : v = w := Option.some.inj (hv.symm.trans hw)
      exact (ih hIv hPv hvt).mpr (hrest v hv)

/-- The same of a run that may stop, if a step that is not enabled meets `G`. -/
theorem throughout_iff_always_of_disabled {G : σ → α → Prop} {I P : σ → Prop}
    (hstep : ∀ s a t, I s → step s a = some t → I t)
    (hacc : ∀ s a t, I s → P s → step s a = some t → (P t ↔ G s a))
    (hdisabled : ∀ s a, I s → step s a = none → G s a) (hI : I s) (hP : P s) :
    Throughout step P s as ↔ Always step G s as := by
  induction as generalizing s with
  | nil => exact ⟨fun _ => trivial, fun _ => hP⟩
  | cons a as ih =>
    constructor
    · rintro ⟨-, hrest⟩
      refine ⟨?_, fun t ht => ?_⟩
      · cases ht : step s a with
        | none => exact hdisabled s a hI ht
        | some t => exact (hacc s a t hI hP ht).mp (hrest t ht).start
      · exact (ih (hstep s a t hI ht) (hrest t ht).start).mp (hrest t ht)
    · rintro ⟨hG, hrest⟩
      refine ⟨hP, fun t ht => ?_⟩
      exact (ih (hstep s a t hI ht) ((hacc s a t hI hP ht).mpr hG)).mpr (hrest t ht)

end Transition
