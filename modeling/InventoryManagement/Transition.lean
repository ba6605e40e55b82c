import Mathlib.Order.RelClasses

/-! State machines given by a step function: runs, invariants of runs, and what
every way of finishing the work at hand ends with. -/

set_option autoImplicit false

namespace InventoryManagement.Transition

variable {State Action : Type} {step : State → Action → Option State}
variable {allowed : Action → Prop} {goal other : State → Prop} {state final : State}

/-- Take the actions one after another; a run with an impossible action is no run. -/
def run (step : State → Action → Option State) (state : State) : List Action → Option State
  | [] => some state
  | action :: rest =>
      match step state action with
      | none => none
      | some next => run step next rest

theorem run_cons {action : Action} {rest : List Action} :
    run step state (action :: rest) = some final ↔
      ∃ next, step state action = some next ∧ run step next rest = some final := by
  cases stepped : step state action <;> simp [run, stepped]

theorem run_append {earlier later : List Action} :
    run step state (earlier ++ later) = some final ↔
      ∃ middle, run step state earlier = some middle ∧ run step middle later = some final := by
  induction earlier generalizing state with
  | nil => simp [run]
  | cons action rest ih =>
      rw [List.cons_append, run_cons]
      constructor
      · intro holds
        obtain ⟨next, stepped, ran⟩ := holds
        obtain ⟨middle, before, after⟩ := ih.mp ran
        exact ⟨middle, run_cons.mpr ⟨next, stepped, before⟩, after⟩
      · intro holds
        obtain ⟨middle, before, after⟩ := holds
        obtain ⟨next, stepped, ran⟩ := run_cons.mp before
        exact ⟨next, stepped, ih.mpr ⟨middle, ran, after⟩⟩

theorem run_invariant (property : State → Prop) {actions : List Action}
    (preserved : ∀ state next action, action ∈ actions → property state →
      step state action = some next → property next)
    (holds : property state) (ran : run step state actions = some final) : property final := by
  induction actions generalizing state with
  | nil =>
      cases ran
      exact holds
  | cons action rest ih =>
      obtain ⟨next, stepped, ran⟩ := run_cons.mp ran
      apply ih _ (preserved _ _ _ List.mem_cons_self holds stepped) ran
      intro state next action member
      exact preserved state next action (List.mem_cons_of_mem _ member)

/-- Where the steps of a second machine are the images of those of the first, so are its runs. -/
theorem run_image {Image : Type} {imageStep : Image → Action → Option Image} (image : State → Image)
    (property : State → Prop)
    (preserved : ∀ state next action, property state → step state action = some next →
      property next)
    (steps : ∀ state action, property state →
      imageStep (image state) action = (step state action).map image)
    (actions : List Action) (holds : property state) :
    run imageStep (image state) actions = (run step state actions).map image := by
  induction actions generalizing state with
  | nil => rfl
  | cons action rest ih =>
      rw [run, run, steps state action holds]
      cases stepped : step state action with
      | none => rfl
      | some next => exact ih (preserved _ _ _ holds stepped)

/-- Every maximal run of allowed steps is finite and ends in the goal. -/
inductive Settles (step : State → Action → Option State) (allowed : Action → Prop)
    (goal : State → Prop) : State → Prop where
  | rests {state : State} (idle : ∀ action, allowed action → step state action = none)
      (holds : goal state) : Settles step allowed goal state
  | proceeds {state next : State} {action : Action} (permitted : allowed action)
      (stepped : step state action = some next)
      (remaining : ∀ action next, allowed action → step state action = some next →
        Settles step allowed goal next) : Settles step allowed goal state

/-- An invariant of allowed steps that, with nothing left to do, is the goal. -/
theorem settles_of_invariant
    (ends : WellFounded (fun next state => ∃ action, allowed action ∧ step state action = some next))
    (property : State → Prop)
    (preserved : ∀ state next action, allowed action → property state →
      step state action = some next → property next)
    (reached : ∀ state, property state → (∀ action, allowed action → step state action = none) →
      goal state)
    (holds : property state) : Settles step allowed goal state := by
  induction state using ends.induction with
  | _ state ih =>
      by_cases idle : ∀ action, allowed action → step state action = none
      · exact .rests idle (reached state holds idle)
      · obtain ⟨action, busy⟩ := not_forall.mp idle
        obtain ⟨permitted, busy⟩ := Classical.not_imp.mp busy
        obtain ⟨next, stepped⟩ := Option.ne_none_iff_exists'.mp busy
        apply Settles.proceeds permitted stepped
        intro action next permitted stepped
        exact ih next ⟨action, permitted, stepped⟩ (preserved _ _ _ permitted holds stepped)

/-- Two goals are reached in one and the same final state. -/
theorem Settles.meet (first : Settles step allowed goal state)
    (second : Settles step allowed other state) : ∃ final, goal final ∧ other final := by
  induction first with
  | rests idle holds =>
      cases second with
      | rests _ holdsToo => exact ⟨_, holds, holdsToo⟩
      | proceeds permitted stepped _ =>
          rw [idle _ permitted] at stepped
          cases stepped
  | proceeds permitted stepped _ ih =>
      cases second with
      | rests idle _ =>
          rw [idle _ permitted] at stepped
          cases stepped
      | proceeds _ _ remaining =>
          exact ih _ _ permitted stepped (remaining _ _ permitted stepped)

end InventoryManagement.Transition
