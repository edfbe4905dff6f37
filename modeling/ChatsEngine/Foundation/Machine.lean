import Mathlib.Data.Option.Basic

/-! # Machines

A machine is a partial step function driven by events. Every choice that a step
leaves open (a process, an outcome, an amount of time) is part of the event, so
a run is a list of events and can be computed. -/

namespace ChatsEngine

structure Machine (State : Type u) (Event : Type v) where
  step : State → Event → Option State

namespace Machine

variable {State : Type u} {Event : Type v}

/-- Execute a list of events. The result is `none` as soon as one event is not
possible in the state it meets. -/
def run (machine : Machine State Event) : State → List Event → Option State
  | state, [] => some state
  | state, event :: events =>
      match machine.step state event with
      | none => none
      | some next => machine.run next events

theorem run_cons {machine : Machine State Event} {state next : State} {event : Event}
    (stepped : machine.step state event = some next) (events : List Event) :
    machine.run state (event :: events) = machine.run next events := by
  rw [run, stepped]

theorem run_append (machine : Machine State Event) (state : State)
    (events others : List Event) :
    machine.run state (events ++ others) =
      (machine.run state events).bind fun next => machine.run next others := by
  induction events generalizing state with
  | nil => rfl
  | cons event events induction =>
      rw [List.cons_append, run, run]
      cases machine.step state event with
      | none => rfl
      | some next => exact induction next

theorem run_cons_eq_some {machine : Machine State Event} {state final : State} {event : Event}
    {events : List Event} (ran : machine.run state (event :: events) = some final) :
    ∃ next, machine.step state event = some next ∧ machine.run next events = some final := by
  rw [run] at ran
  split at ran
  · cases ran
  · next next stepped => exact ⟨next, stepped, ran⟩

theorem run_append_eq_some {machine : Machine State Event} {state final : State}
    {events others : List Event} (ran : machine.run state (events ++ others) = some final) :
    ∃ next, machine.run state events = some next ∧ machine.run next others = some final := by
  rw [run_append] at ran
  exact Option.bind_eq_some_iff.mp ran

/-- `run`, stopping at the first step that does not meet `condition`. -/
def runMeeting (machine : Machine State Event)
    (condition : State → Event → Prop)
    [∀ state event, Decidable (condition state event)] :
    State → List Event → Option State
  | state, [] => some state
  | state, event :: events =>
      if condition state event then
        match machine.step state event with
        | none => none
        | some next => machine.runMeeting condition next events
      else
        none

/-- The states reached by runs all of whose steps meet `condition`, which may
look at the state before the step and at the event. -/
inductive Reaches (machine : Machine State Event)
    (condition : State → Event → Prop) (initial : State) : State → Prop
  | start : Reaches machine condition initial initial
  | step {current next : State} {event : Event} :
      Reaches machine condition initial current →
      condition current event →
      machine.step current event = some next →
      Reaches machine condition initial next

/-- Every state of a run satisfies `Holds`, the first one included. A run ends
early at an event that is not possible. -/
def Throughout (machine : Machine State Event) (Holds : State → Prop) :
    State → List Event → Prop
  | state, [] => Holds state
  | state, event :: events =>
      Holds state ∧
        match machine.step state event with
        | none => True
        | some next => machine.Throughout Holds next events

/-- Every step of a run meets `condition`. -/
def AllSteps (machine : Machine State Event) (condition : State → Event → Prop) :
    State → List Event → Prop
  | _, [] => True
  | state, event :: events =>
      match machine.step state event with
      | none => True
      | some next => condition state event ∧ machine.AllSteps condition next events

instance decidableThroughout (machine : Machine State Event) (Holds : State → Prop)
    [DecidablePred Holds] :
    (state : State) → (events : List Event) → Decidable (machine.Throughout Holds state events)
  | state, [] => inferInstanceAs (Decidable (Holds state))
  | state, event :: events =>
      match stepped : machine.step state event with
      | none => decidable_of_iff (Holds state) (by simp [Throughout, stepped])
      | some next =>
          have := decidableThroughout machine Holds next events
          decidable_of_iff (Holds state ∧ machine.Throughout Holds next events)
            (by simp [Throughout, stepped])

instance decidableAllSteps (machine : Machine State Event)
    (condition : State → Event → Prop)
    [∀ state event, Decidable (condition state event)] :
    (state : State) → (events : List Event) → Decidable (machine.AllSteps condition state events)
  | _, [] => inferInstanceAs (Decidable True)
  | state, event :: events =>
      match stepped : machine.step state event with
      | none => decidable_of_iff True (by simp [AllSteps, stepped])
      | some next =>
          have := decidableAllSteps machine condition next events
          decidable_of_iff (condition state event ∧ machine.AllSteps condition next events)
            (by simp [AllSteps, stepped])

theorem Throughout.head {machine : Machine State Event} {Holds : State → Prop}
    {state : State} {events : List Event}
    (throughout : machine.Throughout Holds state events) : Holds state := by
  cases events with
  | nil => exact throughout
  | cons _ _ => exact throughout.1

theorem Throughout.of_run {machine : Machine State Event} {Holds : State → Prop}
    {state final : State} {events : List Event}
    (throughout : machine.Throughout Holds state events)
    (ran : machine.run state events = some final) : Holds final := by
  induction events generalizing state with
  | nil =>
      cases ran
      exact throughout
  | cons event events induction =>
      rcases run_cons_eq_some ran with ⟨next, stepped, rest⟩
      rw [Throughout, stepped] at throughout
      exact induction throughout.2 rest

/-- If a step from a state that satisfies `Holds` leads to another such state exactly
when it meets the condition, then a run stays within `Holds` exactly when all of its
steps meet the condition. The run may be one all of whose steps are in a domain. -/
theorem throughout_iff_allSteps_within {machine : Machine State Event}
    {Always Holds : State → Prop} {domain condition : State → Event → Prop}
    (preserved : ∀ state event next, Always state → domain state event →
      machine.step state event = some next → Always next)
    (exact_step : ∀ state event next, Always state → Holds state → domain state event →
      machine.step state event = some next → (Holds next ↔ condition state event))
    {state : State} (always : Always state) (holds : Holds state) (events : List Event)
    (within : machine.AllSteps domain state events) :
    machine.Throughout Holds state events ↔ machine.AllSteps condition state events := by
  induction events generalizing state with
  | nil => exact ⟨fun _ => trivial, fun _ => holds⟩
  | cons event events induction =>
      rw [AllSteps] at within
      rw [Throughout, AllSteps]
      cases stepped : machine.step state event with
      | none => exact ⟨fun _ => trivial, fun _ => ⟨holds, trivial⟩⟩
      | some next =>
          rw [stepped] at within
          have nextAlways := preserved state event next always within.1 stepped
          have exact_here := exact_step state event next always holds within.1 stepped
          constructor
          · intro throughout
            have nextHolds := throughout.2.head
            exact ⟨exact_here.mp nextHolds,
              (induction nextAlways nextHolds within.2).mp throughout.2⟩
          · intro meets
            have nextHolds := exact_here.mpr meets.1
            exact ⟨holds, (induction nextAlways nextHolds within.2).mpr meets.2⟩

theorem allSteps_of_forall {machine : Machine State Event} {condition : State → Event → Prop}
    (all : ∀ state event, condition state event) (state : State) (events : List Event) :
    machine.AllSteps condition state events := by
  induction events generalizing state with
  | nil => trivial
  | cons event events induction =>
      rw [AllSteps]
      cases machine.step state event with
      | none => trivial
      | some next => exact ⟨all state event, induction next⟩

/-- What every step preserves, and what follows from it, holds throughout every run. -/
theorem throughout_of_invariant {machine : Machine State Event} {Always Holds : State → Prop}
    (preserved : ∀ state event next, Always state →
      machine.step state event = some next → Always next)
    (follows : ∀ state, Always state → Holds state)
    {state : State} (always : Always state) (events : List Event) :
    machine.Throughout Holds state events := by
  induction events generalizing state with
  | nil => exact follows state always
  | cons event events induction =>
      rw [Throughout]
      refine ⟨follows state always, ?_⟩
      cases stepped : machine.step state event with
      | none => trivial
      | some next => exact induction (preserved state event next always stepped)

/-- What a condition guarantees as long as all steps meet it. -/
theorem AllSteps.of_invariant {machine : Machine State Event} {Holds : State → Prop}
    {condition conclusion : State → Event → Prop}
    (preserved : ∀ state event next, Holds state → condition state event →
      machine.step state event = some next → Holds next)
    (concludes : ∀ state event, Holds state → condition state event → conclusion state event)
    {state : State} (holds : Holds state) {events : List Event}
    (meets : machine.AllSteps condition state events) :
    machine.AllSteps conclusion state events := by
  induction events generalizing state with
  | nil => trivial
  | cons event events induction =>
      rw [AllSteps] at meets ⊢
      cases stepped : machine.step state event with
      | none => trivial
      | some next =>
          rw [stepped] at meets
          exact ⟨concludes state event holds meets.1,
            induction (preserved state event next holds meets.1 stepped) meets.2⟩

theorem throughout_iff_allSteps {machine : Machine State Event}
    {Always Holds : State → Prop} {condition : State → Event → Prop}
    (preserved : ∀ state event next, Always state →
      machine.step state event = some next → Always next)
    (exact_step : ∀ state event next, Always state → Holds state →
      machine.step state event = some next → (Holds next ↔ condition state event))
    {state : State} (always : Always state) (holds : Holds state) (events : List Event) :
    machine.Throughout Holds state events ↔ machine.AllSteps condition state events :=
  throughout_iff_allSteps_within
    (fun state event next always _ => preserved state event next always)
    (fun state event next always holds _ => exact_step state event next always holds)
    always holds events (allSteps_of_forall (fun _ _ => trivial) state events)

@[reducible] def anyStep : State → Event → Prop := fun _ _ => True

namespace Reaches

variable {machine : Machine State Event}
  {condition : State → Event → Prop} {initial middle final : State}

/-- What holds initially and is preserved by every step that meets the
condition holds of every state reached. -/
theorem invariant {Holds : State → Prop}
    (reaches : Reaches machine condition initial final)
    (initially : Holds initial)
    (preserved : ∀ current event next, Holds current →
      condition current event → machine.step current event = some next →
      Holds next) :
    Holds final := by
  induction reaches with
  | start => exact initially
  | step _ meets stepped induction =>
      exact preserved _ _ _ induction meets stepped

theorem mono {weaker : State → Event → Prop}
    (reaches : Reaches machine condition initial final)
    (weaken : ∀ state event, condition state event → weaker state event) :
    Reaches machine weaker initial final := by
  induction reaches with
  | start => exact .start
  | step _ meets stepped induction =>
      exact .step induction (weaken _ _ meets) stepped

theorem trans (first : Reaches machine condition initial middle)
    (second : Reaches machine condition middle final) :
    Reaches machine condition initial final := by
  induction second with
  | start => exact first
  | step _ meets stepped induction => exact .step induction meets stepped

theorem of_step {event : Event} (meets : condition initial event)
    (stepped : machine.step initial event = some final) :
    Reaches machine condition initial final :=
  .step .start meets stepped

theorem of_run {events : List Event}
    (ran : machine.run initial events = some final) :
    Reaches machine anyStep initial final := by
  induction events generalizing initial with
  | nil =>
      cases ran
      exact .start
  | cons event events induction =>
      rcases run_cons_eq_some ran with ⟨next, stepped, rest⟩
      exact (of_step trivial stepped).trans (induction rest)

theorem of_runMeeting [∀ state event, Decidable (condition state event)]
    {events : List Event}
    (ran : machine.runMeeting condition initial events = some final) :
    Reaches machine condition initial final := by
  induction events generalizing initial with
  | nil =>
      cases ran
      exact .start
  | cons event events induction =>
      rw [runMeeting] at ran
      split at ran
      · next meets =>
          split at ran
          · cases ran
          · next stepped =>
              exact (of_step meets stepped).trans (induction ran)
      · cases ran

end Reaches

end Machine

end ChatsEngine
