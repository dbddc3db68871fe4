import Mathlib.Logic.Function.Basic
import CoreApi.Foundation.TransitionSystem

/-!
# Looking at a system while it runs

Observers look at a running system, each once and at a moment of its own. What
they have seen together need not be there at any one moment.
-/

universe u v w x

/-- A state, and what each observer has seen if it has looked. -/
structure Observation (State : Type u) (Observer : Type w) (View : Type x) where
  state : State
  seen : Observer → Option View

/-- The system takes a step, or an observer looks. -/
inductive Moment (Label : Type v) (Observer : Type w) where
  | step (label : Label)
  | look (observer : Observer)

namespace TransitionSystem

variable {State : Type u} {Label : Type v} {Observer : Type w} {View : Type x}
  [DecidableEq Observer] (system : TransitionSystem State Label) (view : State → View)

/-- The system moves, or an observer who has not looked yet looks. -/
inductive ObservedStep : Observation State Observer View → Moment Label Observer →
    Observation State Observer View → Prop where
  | step {observation : Observation State Observer View} {label : Label} {next : State}
      (move : system.Step observation.state label next) :
      ObservedStep observation (.step label) { observation with state := next }
  | look {observation : Observation State Observer View} {observer : Observer}
      (waiting : observation.seen observer = none) :
      ObservedStep observation (.look observer) { observation with
        seen := Function.update observation.seen observer (some (view observation.state)) }

/-- The system with observers at work. -/
def observed (Observer : Type w) [DecidableEq Observer] :
    TransitionSystem (Observation State Observer View) (Moment Label Observer) where
  Initial observation :=
    system.Initial observation.state ∧ ∀ observer, observation.seen observer = none
  Step := system.ObservedStep view

variable {system view} {observation : Observation State Observer View}

theorem Reachable.of_observed (reached : (system.observed view Observer).Reachable observation) :
    system.Reachable observation.state := by
  induction reached with
  | initial start => exact .initial start.1
  | step _ moment ih =>
      cases moment with
      | step move => exact ih.step move
      | look waiting => exact ih

/-- What has been seen was there once. -/
theorem Reachable.seen (reached : (system.observed view Observer).Reachable observation)
    {observer : Observer} {shown : View} (looked : observation.seen observer = some shown) :
    ∃ past, system.Reachable past ∧ view past = shown := by
  induction reached with
  | initial start =>
      rw [start.2 observer] at looked
      cases looked
  | step reached moment ih =>
      cases moment with
      | step move => exact ih looked
      | @look current waiting =>
          by_cases same : observer = current
          · subst same
            simp only [Function.update_self, Option.some.injEq] at looked
            exact ⟨_, reached.of_observed, looked⟩
          · simp only [Function.update_of_ne same] at looked
            exact ih looked

/-- The system runs on while nobody looks. -/
theorem Reachable.observed_leads
    (reached : (system.observed view Observer).Reachable observation) {next : State}
    (leads : system.Leads observation.state next) :
    (system.observed view Observer).Reachable { observation with state := next } := by
  induction leads with
  | refl => exact reached
  | tail _ move ih =>
      rcases move with ⟨label, move⟩
      exact ih.step (ObservedStep.step move)

theorem Reachable.observed_look
    (reached : (system.observed view Observer).Reachable observation) (observer : Observer)
    (waiting : observation.seen observer = none) :
    (system.observed view Observer).Reachable { observation with
      seen := Function.update observation.seen observer (some (view observation.state)) } :=
  reached.step (ObservedStep.look waiting)

end TransitionSystem
