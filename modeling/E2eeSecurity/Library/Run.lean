/-
This file gives runs of a deterministic machine and the rule for their invariants.
-/
import Mathlib.Data.List.Basic

namespace Machine

variable {State Action : Type*}

/-- A run applies the actions from left to right. -/
def run (step : State → Action → State) (state : State) (actions : List Action) : State :=
  actions.foldl step state

@[simp] theorem run_nil (step : State → Action → State) (state : State) :
    run step state [] = state := rfl

@[simp] theorem run_cons (step : State → Action → State) (state : State)
    (action : Action) (rest : List Action) :
    run step state (action :: rest) = run step (step state action) rest := rfl

theorem run_append (step : State → Action → State) (state : State)
    (first second : List Action) :
    run step state (first ++ second) = run step (run step state first) second := by
  simp [run]

/-- Every action of the run meets the guard in the state where it is taken. -/
def Along (step : State → Action → State) (guard : State → Action → Prop) :
    State → List Action → Prop
  | _, [] => True
  | state, action :: rest => guard state action ∧ Along step guard (step state action) rest

@[simp] theorem along_nil (step : State → Action → State) (guard : State → Action → Prop)
    (state : State) : Along step guard state [] := trivial

@[simp] theorem along_cons (step : State → Action → State) (guard : State → Action → Prop)
    (state : State) (action : Action) (rest : List Action) :
    Along step guard state (action :: rest) ↔
      guard state action ∧ Along step guard (step state action) rest := Iff.rfl

instance decidableAlong {step : State → Action → State} {guard : State → Action → Prop}
    [∀ state action, Decidable (guard state action)] :
    (state : State) → (actions : List Action) → Decidable (Along step guard state actions)
  | _, [] => isTrue trivial
  | state, action :: rest =>
      have : Decidable (Along step guard (step state action) rest) := decidableAlong _ rest
      inferInstanceAs (Decidable (guard state action ∧ Along step guard (step state action) rest))

theorem along_append (step : State → Action → State) (guard : State → Action → Prop)
    (state : State) (first second : List Action) :
    Along step guard state (first ++ second) ↔
      Along step guard state first ∧ Along step guard (run step state first) second := by
  induction first generalizing state with
  | nil => simp
  | cons action rest ih => simp [ih, and_assoc]

/-- A guard that does not look at the state holds along a run when every action meets it. -/
theorem along_of_forall {step : State → Action → State} {guard : Action → Prop}
    {actions : List Action} (all : ∀ action ∈ actions, guard action) (state : State) :
    Along step (fun _ action => guard action) state actions := by
  induction actions generalizing state with
  | nil => trivial
  | cons action rest ih =>
      exact ⟨all action List.mem_cons_self,
        ih (fun other member => all other (List.mem_cons_of_mem _ member)) _⟩

/-- A guard may be weakened for the actions of a run. -/
theorem along_weaken {step : State → Action → State} {guard weaker : State → Action → Prop}
    {actions : List Action}
    (weaken : ∀ action ∈ actions, ∀ state, guard state action → weaker state action)
    {state : State} (guarded : Along step guard state actions) :
    Along step weaker state actions := by
  induction actions generalizing state with
  | nil => trivial
  | cons action rest ih =>
      exact ⟨weaken action List.mem_cons_self state guarded.1,
        ih (fun other later => weaken other (List.mem_cons_of_mem _ later)) guarded.2⟩

/-- Two guards along one run hold together. -/
theorem along_and {step : State → Action → State} {first second : State → Action → Prop}
    {state : State} {actions : List Action} (one : Along step first state actions)
    (other : Along step second state actions) :
    Along step (fun state action => first state action ∧ second state action) state actions := by
  induction actions generalizing state with
  | nil => trivial
  | cons action rest ih => exact ⟨⟨one.1, other.1⟩, ih one.2 other.2⟩

/-- A guard along a run may be weakened. -/
theorem along_mono {step : State → Action → State} {guard weaker : State → Action → Prop}
    (weaken : ∀ state action, guard state action → weaker state action)
    {state : State} {actions : List Action} (guarded : Along step guard state actions) :
    Along step weaker state actions :=
  along_weaken (fun action _ state => weaken state action) guarded

/-- A property that every guarded step keeps holds at the end of a guarded run. -/
theorem run_invariant_along {step : State → Action → State} {guard : State → Action → Prop}
    {invariant : State → Prop}
    (kept : ∀ state action, invariant state → guard state action → invariant (step state action))
    {state : State} (actions : List Action) (start : invariant state)
    (guarded : Along step guard state actions) : invariant (run step state actions) := by
  induction actions generalizing state with
  | nil => exact start
  | cons action rest ih =>
      obtain ⟨now, later⟩ := guarded
      exact ih (kept state action start now) later

/-- An invariant that every guarded step keeps holds before every step of a guarded run. -/
theorem along_invariant {step : State → Action → State} {guard : State → Action → Prop}
    {invariant : State → Prop}
    (kept : ∀ state action, invariant state → guard state action → invariant (step state action))
    {state : State} (actions : List Action) (start : invariant state)
    (guarded : Along step guard state actions) :
    Along step (fun state _ => invariant state) state actions := by
  induction actions generalizing state with
  | nil => trivial
  | cons action rest ih =>
      obtain ⟨now, later⟩ := guarded
      exact ⟨start, ih (kept state action start now) later⟩

/-- When each step keeps an invariant exactly under its guard, the invariant holds in every state of
a run exactly when the guard holds along it. -/
theorem prefixes_iff_along {step : State → Action → State} {guard : State → Action → Prop}
    {invariant : State → Prop}
    (exact : ∀ state action, invariant state → (invariant (step state action) ↔ guard state action))
    {state : State} (start : invariant state) (actions : List Action) :
    (∀ reached, reached <+: actions → invariant (run step state reached)) ↔
      Along step guard state actions := by
  constructor
  · intro holds
    induction actions generalizing state with
    | nil => trivial
    | cons action rest ih =>
        have next : invariant (step state action) :=
          holds [action] (List.cons_prefix_cons.mpr ⟨rfl, List.nil_prefix⟩)
        refine ⟨(exact state action start).mp next, ih next ?_⟩
        intro reached early
        exact holds (action :: reached) (List.cons_prefix_cons.mpr ⟨rfl, early⟩)
  · intro guarded reached early
    obtain ⟨later, rfl⟩ := early
    exact run_invariant_along (fun before action kept met => (exact before action kept).mpr met)
      reached start ((along_append step guard state reached later).mp guarded).1

/-- What every action of a guarded run meets in any state. -/
theorem forall_of_along {step : State → Action → State} {guard : State → Action → Prop}
    {property : Action → Prop} (met : ∀ state action, guard state action → property action)
    {state : State} {actions : List Action} (guarded : Along step guard state actions) :
    ∀ action ∈ actions, property action := by
  induction actions generalizing state with
  | nil => simp
  | cons action rest ih =>
      intro other member
      obtain rfl | later := List.mem_cons.mp member
      · exact met _ _ guarded.1
      · exact ih guarded.2 other later

section Commuting

variable {step : State → Action → State} {actions : List Action}

/-- A change that commutes with every action commutes with the run. -/
theorem run_comm {change : State → State}
    (commutes : ∀ action ∈ actions, ∀ state, step (change state) action =
      change (step state action)) (state : State) :
    run step (change state) actions = change (run step state actions) := by
  induction actions generalizing state with
  | nil => rfl
  | cons action rest ih =>
      rw [run_cons, run_cons, commutes action List.mem_cons_self]
      exact ih (fun other later => commutes other (List.mem_cons_of_mem _ later)) _

/-- What no action changes is the same after the run. -/
theorem run_keeps {View : Type*} {view : State → View}
    (keeps : ∀ action ∈ actions, ∀ state, view (step state action) = view state)
    (state : State) : view (run step state actions) = view state := by
  induction actions generalizing state with
  | nil => rfl
  | cons action rest ih =>
      rw [run_cons, ih fun other later => keeps other (List.mem_cons_of_mem _ later)]
      exact keeps action List.mem_cons_self state

/-- A guard carries over to the changed run. -/
theorem along_comm {change : State → State} {guard other : State → Action → Prop}
    (commutes : ∀ action ∈ actions, ∀ state, step (change state) action =
      change (step state action))
    (kept : ∀ action ∈ actions, ∀ state, guard state action → other (change state) action)
    {state : State} (guarded : Along step guard state actions) :
    Along step other (change state) actions := by
  induction actions generalizing state with
  | nil => trivial
  | cons action rest ih =>
      refine ⟨kept action List.mem_cons_self state guarded.1, ?_⟩
      rw [commutes action List.mem_cons_self]
      exact ih (fun later member => commutes later (List.mem_cons_of_mem _ member))
        (fun later member => kept later (List.mem_cons_of_mem _ member)) guarded.2

end Commuting

/-- A property that every step keeps holds at the end of a run. -/
theorem run_invariant {step : State → Action → State} {invariant : State → Prop}
    (kept : ∀ state action, invariant state → invariant (step state action))
    {state : State} (actions : List Action) (start : invariant state) :
    invariant (run step state actions) := by
  induction actions generalizing state with
  | nil => exact start
  | cons action rest ih => exact ih (kept state action start)

/-- Two machines that stay related step by step stay related along a run. -/
theorem run_simulation {Abstract : Type*} {step : State → Action → State}
    {related : State → Abstract → Prop} {grows : Abstract → Abstract → Prop}
    (reflexive : ∀ abstract, grows abstract abstract)
    (transitive : ∀ first second third, grows first second → grows second third →
      grows first third)
    (simulated : ∀ state action abstract, related state abstract →
      ∃ next, related (step state action) next ∧ grows abstract next)
    {state : State} {abstract : Abstract} (actions : List Action)
    (start : related state abstract) :
    ∃ last, related (run step state actions) last ∧ grows abstract last := by
  induction actions generalizing state abstract with
  | nil => exact ⟨abstract, start, reflexive abstract⟩
  | cons action rest ih =>
      obtain ⟨next, relatedNext, growsNext⟩ := simulated state action abstract start
      obtain ⟨last, relatedLast, growsLast⟩ := ih relatedNext
      exact ⟨last, relatedLast, transitive _ _ _ growsNext growsLast⟩

end Machine
