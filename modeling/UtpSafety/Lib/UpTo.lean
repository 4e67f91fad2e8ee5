import UtpSafety.Lib.Loop
import UtpSafety.Lib.Run

/-!
# Loops and runs up to a map

A map says what is to be seen of a state. Two loops whose passes look the same from states that look the
same have values that look the same, and so it is with two runs whose steps do.
-/

namespace Loop

variable {σ τ β γ : Type}

def Pass.map (f : σ → τ) (g : β → γ) : Pass σ β → Pass τ γ
  | .next state => .next (f state)
  | .done value => .done (g value)

theorem Measured.run_upTo {loop loop' : Measured σ β} {f : σ → τ} {g : β → γ}
    (hbody : ∀ state state', f state = f state' →
      (loop.body state).map f g = (loop'.body state').map f g)
    {state state' : σ} (hsame : f state = f state') : g (loop.run state) = g (loop'.run state') := by
  refine loop.run_induction
    (motive := fun state value => ∀ state', f state = f state' → g value = g (loop'.run state')) ?_ ?_
    state state' hsame
  · intro state value hdone state' hsame
    have hpass := hbody state state' hsame
    rw [hdone] at hpass
    cases hdone' : loop'.body state' with
    | next state'' =>
        rw [hdone'] at hpass
        cases hpass
    | done value' =>
        rw [hdone'] at hpass
        rw [loop'.run_done hdone']
        exact Pass.done.inj hpass
  · intro state following hnext hrest state' hsame
    have hpass := hbody state state' hsame
    rw [hnext] at hpass
    cases hnext' : loop'.body state' with
    | next following' =>
        rw [hnext'] at hpass
        rw [loop'.run_next hnext']
        exact hrest following' (Pass.next.inj hpass)
    | done value' =>
        rw [hnext'] at hpass
        cases hpass

end Loop

namespace Run

variable {σ τ α β : Type} {step : σ → α → Option σ} {f : σ → τ} {g : α → β}

/-- The steps need only look the same where an invariant holds. -/
theorem exec_upTo {motive : σ → Prop}
    (hinvariant : ∀ state action state', motive state → step state action = some state' →
      motive state')
    (hstep : ∀ state state' action action', motive state → motive state' → f state = f state' →
      g action = g action' → (step state action).map f = (step state' action').map f)
    {state state' : σ} {actions actions' : List α} (hstate : motive state) (hstate' : motive state')
    (hsame : f state = f state') (hactions : actions.map g = actions'.map g) :
    (exec step state actions).map f = (exec step state' actions').map f := by
  induction actions generalizing state state' actions' with
  | nil =>
      obtain rfl : actions' = [] := List.map_eq_nil_iff.mp hactions.symm
      exact congrArg some hsame
  | cons action actions ih =>
      cases actions' with
      | nil => cases hactions
      | cons action' actions' =>
          rw [List.map_cons, List.map_cons, List.cons.injEq] at hactions
          have hfirst := hstep state state' action action' hstate hstate' hsame hactions.1
          rw [exec, exec]
          cases htaken : step state action with
          | none =>
              rw [htaken, Option.map_none, eq_comm, Option.map_eq_none_iff] at hfirst
              rw [hfirst]
          | some next =>
              rw [htaken, Option.map_some, eq_comm, Option.map_eq_some_iff] at hfirst
              obtain ⟨next', htaken', hsame'⟩ := hfirst
              rw [htaken']
              exact ih (hinvariant state action next hstate htaken)
                (hinvariant state' action' next' hstate' htaken') hsame'.symm hactions.2

end Run
