import Mathlib.Logic.Relation

/-!
# Labelled transition systems

Runs of a nondeterministic system, the induction rule for invariants, and the
restriction of a system to the steps that meet a condition.
-/

universe u v

/-- Where a run may start, and what each label may do to a state. -/
structure TransitionSystem (State : Type u) (Label : Type v) where
  Initial : State → Prop
  Step : State → Label → State → Prop

namespace TransitionSystem

variable {State : Type u} {Label : Type v} {system : TransitionSystem State Label}

/-- The states that finitely many steps reach from an initial state. -/
inductive Reachable (system : TransitionSystem State Label) : State → Prop where
  | initial {state : State} (start : system.Initial state) : Reachable system state
  | step {state next : State} {label : Label} (reached : Reachable system state)
      (move : system.Step state label next) : Reachable system next

/-- One state leads to another by finitely many steps. -/
def Leads (system : TransitionSystem State Label) : State → State → Prop :=
  Relation.ReflTransGen fun state next => ∃ label, system.Step state label next

/-- The system whose steps all meet a condition on the state before the step and the label. -/
def restrict (system : TransitionSystem State Label) (allowed : State → Label → Prop) :
    TransitionSystem State Label where
  Initial := system.Initial
  Step state label next := allowed state label ∧ system.Step state label next

/-- An invariant holds initially and is kept by every step out of a reachable state. -/
theorem Reachable.invariant {state : State} (reached : system.Reachable state)
    (Inv : State → Prop) (initial : ∀ start, system.Initial start → Inv start)
    (step : ∀ before label after, system.Reachable before → Inv before →
      system.Step before label after → Inv after) : Inv state := by
  induction reached with
  | initial start => exact initial _ start
  | step reached move ih => exact step _ _ _ reached ih move

theorem Reachable.leads {state next : State} (reached : system.Reachable state)
    (leads : system.Leads state next) : system.Reachable next := by
  induction leads with
  | refl => exact reached
  | tail _ move ih =>
      rcases move with ⟨label, move⟩
      exact ih.step move

theorem Reachable.of_restrict {allowed : State → Label → Prop} {state : State}
    (reached : (system.restrict allowed).Reachable state) : system.Reachable state := by
  induction reached with
  | initial start => exact .initial start
  | step _ move ih => exact ih.step move.2

theorem Leads.of_restrict {allowed : State → Label → Prop} {state next : State}
    (leads : (system.restrict allowed).Leads state next) : system.Leads state next := by
  induction leads with
  | refl => exact .refl
  | tail _ move ih =>
      rcases move with ⟨label, -, move⟩
      exact ih.tail ⟨label, move⟩

/-- A map to the states of another system that takes each step to steps of that system. -/
theorem Reachable.simulate {State' : Type*} {Label' : Type*}
    {other : TransitionSystem State' Label'} (abstraction : State → State')
    (initial : ∀ start, system.Initial start → other.Initial (abstraction start))
    (step : ∀ before label after, other.Reachable (abstraction before) →
      system.Step before label after → other.Leads (abstraction before) (abstraction after))
    {state : State} (reached : system.Reachable state) : other.Reachable (abstraction state) := by
  induction reached with
  | initial start => exact .initial (initial _ start)
  | step _ move ih => exact ih.leads (step _ _ _ ih move)

end TransitionSystem
