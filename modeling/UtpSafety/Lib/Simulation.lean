import UtpSafety.Lib.Run

/-!
# Runs that are matched by runs of another system

One system simulates another when every step of the second is matched by a run of the first, whatever
number of steps that takes, from a related state to a related state. Then every run is matched. The
steps may have to meet a condition, and then the steps that match them meet one too.
-/

namespace Run

variable {σ τ α β : Type} {step : σ → α → Option σ} {twin : τ → β → Option τ}
  {allowed : σ → α → Prop} {permitted : τ → β → Prop} {related : σ → τ → Prop}

theorem all_mono {permitted' : τ → β → Prop}
    (himp : ∀ state action, permitted state action → permitted' state action) {state : τ}
    {actions : List β} (hall : All twin permitted state actions) :
    All twin permitted' state actions := by
  induction actions generalizing state with
  | nil => trivial
  | cons action actions ih =>
      exact ⟨himp state action hall.1, fun state' hstep => ih (hall.2 state' hstep)⟩

theorem all_and {permitted' : τ → β → Prop} {state : τ} {actions : List β}
    (hall : All twin permitted state actions) (hall' : All twin permitted' state actions) :
    All twin (fun state action => permitted state action ∧ permitted' state action) state actions := by
  induction actions generalizing state with
  | nil => trivial
  | cons action actions ih =>
      exact ⟨⟨hall.1, hall'.1⟩, fun state' hstep => ih (hall.2 state' hstep) (hall'.2 state' hstep)⟩

theorem all_of_always (halways : ∀ state action, permitted state action) {state : τ}
    {actions : List β} : All twin permitted state actions :=
  all_mono (fun state action _ => halways state action) (all_of_forall fun _ _ => trivial)

/-- Some run from `state` meets `permitted` and ends in a state that is related to `goal`. -/
def Matched (twin : τ → β → Option τ) (permitted : τ → β → Prop) (related : σ → τ → Prop) (goal : σ)
    (state : τ) : Prop :=
  ∃ actions final, exec twin state actions = some final ∧ All twin permitted state actions
    ∧ related goal final

theorem matched_of_related {goal : σ} {state : τ} (hrelated : related goal state) :
    Matched twin permitted related goal state := ⟨[], state, rfl, trivial, hrelated⟩

theorem matched_of_exec {goal : σ} {state middle : τ} {actions : List β}
    (hexec : exec twin state actions = some middle) (hall : All twin permitted state actions)
    (hmatched : Matched twin permitted related goal middle) :
    Matched twin permitted related goal state := by
  obtain ⟨rest, final, hrest, hpermitted, hrelated⟩ := hmatched
  exact ⟨actions ++ rest, final, exec_append.mpr ⟨middle, hexec, hrest⟩,
    all_append hall hexec hpermitted, hrelated⟩

theorem matched_of_step {goal : σ} {state middle : τ} {action : β}
    (hstep : twin state action = some middle) (hpermitted : permitted state action)
    (hmatched : Matched twin permitted related goal middle) :
    Matched twin permitted related goal state := by
  have hexec : exec twin state [action] = some middle := by simp only [exec, hstep]
  exact matched_of_exec hexec ⟨hpermitted, fun _ _ => trivial⟩ hmatched

/-- **The simulation rule.** -/
theorem matched_of_all
    (hstep : ∀ state action state' other, related state other → allowed state action →
      step state action = some state' → Matched twin permitted related state' other)
    {state final : σ} {actions : List α} {other : τ} (hrelated : related state other)
    (hall : All step allowed state actions) (hexec : exec step state actions = some final) :
    Matched twin permitted related final other := by
  induction actions generalizing state other with
  | nil =>
      simp only [exec, Option.some.injEq] at hexec
      subst hexec
      exact matched_of_related hrelated
  | cons action actions ih =>
      obtain ⟨state', hfirst, hrest⟩ := exec_cons.mp hexec
      obtain ⟨actions', other', hexec', hall', hrelated'⟩ :=
        hstep state action state' other hrelated hall.1 hfirst
      exact matched_of_exec hexec' hall' (ih hrelated' (hall.2 state' hfirst) hrest)

/-- Of a run to `final` every step leads there. -/
theorem all_leads {state final : σ} {actions : List α} (hexec : exec step state actions = some final) :
    All step (fun state action => ∃ rest, exec step state (action :: rest) = some final) state
      actions := by
  induction actions generalizing state with
  | nil => trivial
  | cons action actions ih =>
      refine ⟨⟨actions, hexec⟩, fun state' hstep => ?_⟩
      obtain ⟨state'', hstep', hrest⟩ := exec_cons.mp hexec
      obtain rfl : state'' = state' := Option.some.inj (hstep'.symm.trans hstep)
      exact ih hrest

/-! ### What runs show -/

variable {ω : Type}

/-- What the steps of a run show, one after the other. -/
def shown (step : σ → α → Option σ) (shows : σ → α → List ω) : σ → List α → List ω
  | _, [] => []
  | state, action :: actions => shows state action ++
      match step state action with
      | none => []
      | some state' => shown step shows state' actions

/-- **The simulation rule for what runs show.** When every step is matched by a run that shows the
same, every run is. -/
theorem exists_shown_of_all {shows : σ → α → List ω} {tells : β → List ω}
    (hstep : ∀ state action state' other, related state other → allowed state action →
      step state action = some state' → ∃ actions' other', exec twin other actions' = some other'
        ∧ actions'.flatMap tells = shows state action ∧ related state' other')
    {state final : σ} {actions : List α} {other : τ} (hrelated : related state other)
    (hall : All step allowed state actions) (hexec : exec step state actions = some final) :
    ∃ actions' other', exec twin other actions' = some other'
      ∧ actions'.flatMap tells = shown step shows state actions ∧ related final other' := by
  induction actions generalizing state other with
  | nil =>
      simp only [exec, Option.some.injEq] at hexec
      subst hexec
      exact ⟨[], other, rfl, rfl, hrelated⟩
  | cons action actions ih =>
      obtain ⟨state', hfirst, hrest⟩ := exec_cons.mp hexec
      obtain ⟨first, middle, hmiddle, hshown, hrelated'⟩ :=
        hstep state action state' other hrelated hall.1 hfirst
      obtain ⟨second, other', hother', hshown', hfinal⟩ :=
        ih hrelated' (hall.2 state' hfirst) hrest
      refine ⟨first ++ second, other', exec_append.mpr ⟨middle, hmiddle, hother'⟩, ?_, hfinal⟩
      rw [List.flatMap_append, hshown, hshown', shown, hfirst]

end Run
