import Mathlib.Tactic.Common

/-!
# Loops that end

A loop body looks at the loop state and either goes round again with a new state or leaves the loop
with a value. `runFor` counts passes, so it makes sense for any body; a `Measured` loop carries a
measure that every further pass lowers, so it has a value outright and no statement about it mentions
fuel. Unfolding one pass and the invariant rule are all that a proof about such a loop needs.
-/

namespace Loop

inductive Pass (σ β : Type) where
  | next (state : σ)
  | done (value : β)

variable {σ β : Type}

/-- At most `fuel` passes; `none` while the loop is still running after them. -/
def runFor (body : σ → Pass σ β) : Nat → σ → Option β
  | 0, _ => none
  | fuel + 1, state =>
      match body state with
      | .next state' => runFor body fuel state'
      | .done value => some value

theorem runFor_next {body : σ → Pass σ β} {state state' : σ} (hbody : body state = .next state')
    (fuel : Nat) : runFor body (fuel + 1) state = runFor body fuel state' := by
  simp [runFor, hbody]

theorem runFor_done {body : σ → Pass σ β} {state : σ} {value : β} (hbody : body state = .done value)
    (fuel : Nat) : runFor body (fuel + 1) state = some value := by
  simp [runFor, hbody]

/-- **The invariant rule for a loop that may not end.** -/
theorem runFor_invariant {body : σ → Pass σ β} {motive : σ → Prop} (post : β → Prop)
    (hnext : ∀ state state', motive state → body state = .next state' → motive state')
    (hdone : ∀ state value, motive state → body state = .done value → post value)
    {fuel : Nat} {state : σ} {value : β} (hstate : motive state)
    (hrun : runFor body fuel state = some value) : post value := by
  induction fuel generalizing state with
  | zero => cases hrun
  | succ fuel ih =>
      cases hbody : body state with
      | next state' =>
          rw [runFor_next hbody] at hrun
          exact ih (hnext state state' hstate hbody) hrun
      | done result =>
          rw [runFor_done hbody, Option.some.injEq] at hrun
          exact hrun ▸ hdone state result hstate hbody

/-- A loop together with a measure that every further pass lowers. -/
structure Measured (σ β : Type) where
  body : σ → Pass σ β
  measure : σ → Nat
  decreases : ∀ {state state' : σ}, body state = .next state' → measure state' < measure state

namespace Measured

variable (loop : Measured σ β)

/-- More passes than the measure are enough, and it does not matter how many more. -/
theorem runFor_eq_of_measure_lt :
    ∀ (fuel : Nat) (state : σ), loop.measure state < fuel →
      ∃ value, ∀ fuel', loop.measure state < fuel' → runFor loop.body fuel' state = some value := by
  intro fuel
  induction fuel with
  | zero => intro state hfuel; omega
  | succ fuel ih =>
      intro state hfuel
      cases hbody : loop.body state with
      | done value =>
          refine ⟨value, fun fuel' hfuel' => ?_⟩
          obtain ⟨passes, rfl⟩ : ∃ passes, fuel' = passes + 1 := ⟨fuel' - 1, by omega⟩
          exact runFor_done hbody passes
      | next state' =>
          have hless := loop.decreases hbody
          obtain ⟨value, hvalue⟩ := ih state' (by omega)
          refine ⟨value, fun fuel' hfuel' => ?_⟩
          obtain ⟨passes, rfl⟩ : ∃ passes, fuel' = passes + 1 := ⟨fuel' - 1, by omega⟩
          rw [runFor_next hbody]
          exact hvalue passes (by omega)

theorem runFor_isSome (state : σ) :
    (runFor loop.body (loop.measure state + 1) state).isSome := by
  obtain ⟨value, hvalue⟩ := loop.runFor_eq_of_measure_lt _ state (Nat.lt_succ_self _)
  rw [hvalue _ (Nat.lt_succ_self _)]
  rfl

def run (state : σ) : β :=
  (runFor loop.body (loop.measure state + 1) state).get (loop.runFor_isSome state)

theorem runFor_eq_run {state : σ} {fuel : Nat} (hfuel : loop.measure state < fuel) :
    runFor loop.body fuel state = some (loop.run state) := by
  obtain ⟨value, hvalue⟩ := loop.runFor_eq_of_measure_lt _ state (Nat.lt_succ_self _)
  rw [hvalue fuel hfuel, run]
  simp [hvalue _ (Nat.lt_succ_self (loop.measure state))]

theorem run_done {state : σ} {value : β} (hbody : loop.body state = .done value) :
    loop.run state = value := by
  have hrun := loop.runFor_eq_run (Nat.lt_succ_self (loop.measure state))
  rw [runFor_done hbody] at hrun
  exact (Option.some.inj hrun).symm

theorem run_next {state state' : σ} (hbody : loop.body state = .next state') :
    loop.run state = loop.run state' := by
  have hless := loop.decreases hbody
  have hrun := loop.runFor_eq_run (Nat.lt_succ_self (loop.measure state))
  rw [runFor_next hbody, loop.runFor_eq_run (by omega)] at hrun
  exact (Option.some.inj hrun).symm

theorem run_congr {state state' : σ} (hbody : loop.body state = loop.body state') :
    loop.run state = loop.run state' := by
  cases hpass : loop.body state' with
  | done value => rw [loop.run_done hpass, loop.run_done (hbody.trans hpass)]
  | next following => rw [loop.run_next hpass, loop.run_next (hbody.trans hpass)]

/-- **Induction along the passes.** What holds of the last state and its value, and is carried back
over one pass, holds of every state and the value the loop reaches from it. -/
theorem run_induction {motive : σ → β → Prop}
    (hdone : ∀ state value, loop.body state = .done value → motive state value)
    (hnext : ∀ state state', loop.body state = .next state' → motive state' (loop.run state') →
      motive state (loop.run state'))
    (state : σ) : motive state (loop.run state) := by
  induction hmeasure : loop.measure state using Nat.strongRecOn generalizing state with
  | ind measure ih =>
      cases hbody : loop.body state with
      | done value =>
          rw [loop.run_done hbody]
          exact hdone state value hbody
      | next state' =>
          rw [loop.run_next hbody]
          have hless := loop.decreases hbody
          exact hnext state state' hbody (ih _ (by omega) state' rfl)

/-- **The invariant rule.** -/
theorem run_invariant {motive : σ → Prop} (post : β → Prop)
    (hnext : ∀ state state', motive state → loop.body state = .next state' → motive state')
    (hdone : ∀ state value, motive state → loop.body state = .done value → post value)
    {state : σ} (hstate : motive state) : post (loop.run state) := by
  refine loop.run_induction (motive := fun state value => motive state → post value) ?_ ?_ state
    hstate
  · intro state value hbody hinvariant
    exact hdone state value hinvariant hbody
  · intro state state' hbody hrest hinvariant
    exact hrest (hnext state state' hinvariant hbody)

end Measured

end Loop
