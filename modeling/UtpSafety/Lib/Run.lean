import Mathlib.Tactic.Common

/-!
# Runs of a partial step function

A system is a step function that may refuse an action. A run is a list of actions none of which is
refused. The rules below carry a property of one step over a whole run, plainly and under a condition
that every step of the run meets, and put together what the steps of a run append to a log.
-/

namespace Run

variable {σ α : Type}

/-- The state after the actions, or `none` when one of them was refused. -/
def exec (step : σ → α → Option σ) : σ → List α → Option σ
  | state, [] => some state
  | state, action :: actions =>
      match step state action with
      | none => none
      | some state' => exec step state' actions

variable {step : σ → α → Option σ}

theorem exec_cons {state final : σ} {action : α} {actions : List α} :
    exec step state (action :: actions) = some final ↔
      ∃ state', step state action = some state' ∧ exec step state' actions = some final := by
  simp only [exec]
  cases step state action <;> simp

theorem exec_append {state final : σ} {actions actions' : List α} :
    exec step state (actions ++ actions') = some final ↔
      ∃ middle, exec step state actions = some middle ∧ exec step middle actions' = some final := by
  induction actions generalizing state with
  | nil => simp [exec]
  | cons action actions ih =>
      simp only [List.cons_append, exec_cons, ih]
      constructor
      · rintro ⟨state', hstep, middle, hfirst, hsecond⟩
        exact ⟨middle, ⟨state', hstep, hfirst⟩, hsecond⟩
      · rintro ⟨middle, ⟨state', hstep, hfirst⟩, hsecond⟩
        exact ⟨state', hstep, middle, hfirst, hsecond⟩

/-- Every action of the run is taken in a state where `allowed` admits it. -/
def All (step : σ → α → Option σ) (allowed : σ → α → Prop) : σ → List α → Prop
  | _, [] => True
  | state, action :: actions =>
      allowed state action ∧ ∀ state', step state action = some state' → All step allowed state' actions

instance decidableAll {allowed : σ → α → Prop} [∀ state action, Decidable (allowed state action)] :
    ∀ state actions, Decidable (All step allowed state actions)
  | _, [] => isTrue trivial
  | state, action :: actions =>
      match hstep : step state action with
      | none => decidable_of_iff (allowed state action) (by simp [All, hstep])
      | some state' =>
          have : Decidable (All step allowed state' actions) := decidableAll state' actions
          decidable_of_iff (allowed state action ∧ All step allowed state' actions)
            (by simp [All, hstep])

theorem all_append {allowed : σ → α → Prop} {state middle : σ} {actions actions' : List α}
    (hfirst : All step allowed state actions) (hexec : exec step state actions = some middle)
    (hsecond : All step allowed middle actions') : All step allowed state (actions ++ actions') := by
  induction actions generalizing state with
  | nil =>
      simp only [exec, Option.some.injEq] at hexec
      subst hexec
      exact hsecond
  | cons action actions ih =>
      obtain ⟨state', hstep, hrest⟩ := exec_cons.mp hexec
      refine ⟨hfirst.1, fun state'' hstep' => ?_⟩
      obtain rfl : state' = state'' := Option.some.inj (hstep.symm.trans hstep')
      exact ih (hfirst.2 state' hstep) hrest

/-- **The invariant rule, under a condition on every step.** -/
theorem exec_invariant_of_all {allowed : σ → α → Prop} {motive : σ → Prop}
    (hstep : ∀ state action state', motive state → allowed state action →
      step state action = some state' → motive state')
    {state final : σ} {actions : List α} (hstate : motive state)
    (hall : All step allowed state actions) (hexec : exec step state actions = some final) :
    motive final := by
  induction actions generalizing state with
  | nil =>
      simp only [exec, Option.some.injEq] at hexec
      exact hexec ▸ hstate
  | cons action actions ih =>
      obtain ⟨state', hfirst, hrest⟩ := exec_cons.mp hexec
      exact ih (hstep state action state' hstate hall.1 hfirst) (hall.2 state' hfirst) hrest

theorem all_of_forall {allowed : α → Prop} {state : σ} {actions : List α}
    (hallowed : ∀ action ∈ actions, allowed action) :
    All step (fun _ action => allowed action) state actions := by
  induction actions generalizing state with
  | nil => trivial
  | cons action actions ih =>
      exact ⟨hallowed action (by simp),
        fun _ _ => ih fun action hmem => hallowed action (List.mem_cons_of_mem _ hmem)⟩

/-- **The invariant rule.** -/
theorem exec_invariant {motive : σ → Prop}
    (hstep : ∀ state action state', motive state → step state action = some state' →
      motive state')
    {state final : σ} {actions : List α} (hstate : motive state)
    (hexec : exec step state actions = some final) : motive final :=
  exec_invariant_of_all (fun state action state' hmotive _ => hstep state action state' hmotive) hstate
    (all_of_forall fun _ _ => trivial) hexec

/-- **The log rule.** A log that every step only extends, by entries that fit the action, has at the end
of a run the entries of its actions, one action after the other. -/
theorem exec_log {β : Type} {log : σ → List β} {records : α → List β → Prop}
    (hstep : ∀ state action state', step state action = some state' →
      ∃ entries, records action entries ∧ log state' = log state ++ entries)
    {state final : σ} {actions : List α} (hexec : exec step state actions = some final) :
    ∃ entries, List.Forall₂ records actions entries ∧ log final = log state ++ entries.flatten := by
  induction actions generalizing state with
  | nil =>
      simp only [exec, Option.some.injEq] at hexec
      exact ⟨[], .nil, by rw [hexec, List.flatten_nil, List.append_nil]⟩
  | cons action actions ih =>
      obtain ⟨state', hfirst, hrest⟩ := exec_cons.mp hexec
      obtain ⟨appended, hrecords, hlog⟩ := hstep state action state' hfirst
      obtain ⟨entries, hentries, hfinal⟩ := ih hrest
      refine ⟨appended :: entries, .cons hrecords hentries, ?_⟩
      rw [hfinal, hlog, List.flatten_cons, List.append_assoc]

/-- Each entry of the log comes from one of the actions. -/
theorem exists_of_mem_flatten {β : Type} {records : α → List β → Prop} {actions : List α}
    {entries : List (List β)} (hentries : List.Forall₂ records actions entries) {entry : β}
    (hentry : entry ∈ entries.flatten) :
    ∃ action ∈ actions, ∃ appended, records action appended ∧ entry ∈ appended := by
  induction hentries with
  | nil => cases hentry
  | cons hfirst _ ih =>
      rw [List.flatten_cons, List.mem_append] at hentry
      rcases hentry with hnow | hlater
      · exact ⟨_, List.mem_cons_self, _, hfirst, hnow⟩
      · obtain ⟨action, haction, hrest⟩ := ih hlater
        exact ⟨action, List.mem_cons_of_mem _ haction, hrest⟩

end Run
