import Mathlib

/-!
# Interleavings of atomic steps

The concurrent parts of liblog are modelled as a shared state and a list of threads, each
at some point of its code. A step function takes one atomic action of one thread and
returns `none` when that thread is not at that action. `Reach` is every state some order of
actions leads to, and `Reach.inv` is the one induction over runs: an invariant that holds
initially and survives every step holds everywhere.
-/

namespace SystemLogging

/-- The states a step function reaches from `init`, in any order of actions. -/
inductive Reach {S A : Type} (init : S) (step : S → A → Option S) : S → Prop
  | init : Reach init step init
  | step {s s' : S} (a : A) : Reach init step s → step s a = some s' → Reach init step s'

/-- An invariant that holds initially and is kept by every step holds in every reachable
state. -/
theorem Reach.inv {S A : Type} {init : S} {step : S → A → Option S} {P : S → Prop}
    (h0 : P init) (hstep : ∀ s a s', P s → step s a = some s' → P s') {s : S}
    (h : Reach init step s) : P s := by
  induction h with
  | init => exact h0
  | step a _ hst ih => exact hstep _ a _ ih hst

/-- Run a list of actions in order; `none` as soon as one is not enabled. -/
def runSteps {S A : Type} (step : S → A → Option S) : S → List A → Option S
  | s, [] => some s
  | s, a :: as => (step s a).bind fun s' => runSteps step s' as

/-- Running enabled actions from a reachable state reaches the end state. -/
theorem Reach.runSteps {S A : Type} {init : S} {step : S → A → Option S} {s s' : S}
    (h : Reach init step s) (as : List A) (hr : runSteps step s as = some s') :
    Reach init step s' := by
  induction as generalizing s with
  | nil => cases hr; exact h
  | cons a as ih =>
    obtain ⟨s₁, h₁, hr⟩ := Option.bind_eq_some.mp hr
    exact ih (.step a h h₁) hr

/-- Replacing thread `i`'s entry changes a per-thread total by exactly that entry. -/
theorem sum_map_set {α : Type} (f : α → ℕ) :
    ∀ (l : List α) (i : ℕ) (x y : α), l[i]? = some y →
      ((l.set i x).map f).sum + f y = (l.map f).sum + f x
  | [], _, _, _, h => by simp at h
  | a :: l, 0, x, y, h => by
    simp only [List.getElem?_cons_zero, Option.some.injEq] at h
    subst h
    simp only [List.set_cons_zero, List.map_cons, List.sum_cons]
    omega
  | a :: l, i + 1, x, y, h => by
    simp only [List.getElem?_cons_succ] at h
    have := sum_map_set f l i x y h
    simp only [List.set_cons_succ, List.map_cons, List.sum_cons]
    omega

end SystemLogging
