/-
  Forms in panes that are passed one after another.

  A wizard shows one pane at a time.  The fields of the pane can be edited; the next pane comes when
  the one shown is complete.  What is behind the current pane is then complete at all times
  (`Passed`), although nothing looks at it again: the fields of a pane that is not shown keep their
  values.

  `ok p s` says that the pane `p` is complete in the state `s`; panes are numbered from 1.  The
  three moves of a wizard are three rules: on to the next pane (`Passed.next`), back to an earlier
  one (`Passed.prev`), and an edit, which must leave the panes in front of the one shown as they are
  (`Passed.keep`).
-/
import Mathlib.Order.Basic

namespace Panes

variable {σ : Type*} {ok : Nat → σ → Prop} {s t : σ} {k : Nat}

/-- The panes in front of the `k`-th are complete. -/
def Passed (ok : Nat → σ → Prop) (k : Nat) (s : σ) : Prop := ∀ p, 1 ≤ p → p < k → ok p s

theorem passed_first : Passed ok 1 s := by
  intro p hp hlt
  omega

/-- The next pane, when the one shown is complete. -/
theorem Passed.next (h : Passed ok k s) (hk : ok k s) : Passed ok (k + 1) s := by
  intro p hp hlt
  by_cases hpk : p = k
  · rw [hpk]
    exact hk
  · exact h p hp (by omega)

/-- An earlier pane. -/
theorem Passed.prev {j : Nat} (h : Passed ok k s) (hj : j ≤ k) : Passed ok j s :=
  fun p hp hlt => h p hp (by omega)

/-- What keeps the panes in front of the one shown complete. -/
theorem Passed.keep (h : Passed ok k s) (hkeep : ∀ p, p < k → ok p s → ok p t) : Passed ok k t :=
  fun p hp hlt => hkeep p hlt (h p hp hlt)

end Panes
