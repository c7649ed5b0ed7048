/-
**Runs of a machine, and what every step preserves.**

A machine takes events one at a time; an event it cannot take ends the run. `allowed` names the
steps a result is about: it sees the state before the step and the event.

* `Reachable.invariant` — what holds at the start and is preserved holds in every reachable state.
* `exec_runs`, `execPermitted_runs` — a list of events executes to a run.
-/

import Mathlib.Tactic
import Mathlib.Logic.Relation

namespace Bluestation.Machines

open Option

variable {State Event : Type}

/-- A machine: where it may start, and what an event does, if it can be taken. -/
structure Machine (State Event : Type) where
  start : State → Prop
  step : State → Event → Option State

/-- One allowed step. -/
def Next (machine : Machine State Event) (allowed : State → Event → Prop)
    (before after : State) : Prop :=
  ∃ event, allowed before event ∧ machine.step before event = some after

/-- Any number of allowed steps. -/
def Runs (machine : Machine State Event) (allowed : State → Event → Prop) : State → State → Prop :=
  Relation.ReflTransGen (Next machine allowed)

/-- The states that allowed runs from a start reach. -/
def Reachable (machine : Machine State Event) (allowed : State → Event → Prop) (state : State) :
    Prop :=
  ∃ first, machine.start first ∧ Runs machine allowed first state

/-- Every step is allowed. -/
def always (_ : State) (_ : Event) : Prop := True

variable {machine : Machine State Event} {allowed : State → Event → Prop}

variable {holds : State → Prop} {before after : State}

/-- **What every allowed step preserves holds after every allowed run.** -/
theorem Runs.invariant (run : Runs machine allowed before after)
    (preserved : ∀ state event next, holds state → allowed state event →
      machine.step state event = some next → holds next)
    (first : holds before) : holds after := by
  induction run with
  | refl => exact first
  | tail _ last ih =>
    obtain ⟨event, permitted, stepped⟩ := last
    exact preserved _ event _ ih permitted stepped

theorem Runs.weaken {weaker : State → Event → Prop} (run : Runs machine allowed before after)
    (implies : ∀ state event, allowed state event → weaker state event) :
    Runs machine weaker before after := by
  induction run with
  | refl => exact .refl
  | tail _ last ih =>
    obtain ⟨event, permitted, stepped⟩ := last
    exact ih.tail ⟨event, implies _ event permitted, stepped⟩

/-- **What holds at the start and is preserved holds in every reachable state.** -/
theorem Reachable.invariant {state : State} (reachable : Reachable machine allowed state)
    (starts : ∀ first, machine.start first → holds first)
    (preserved : ∀ state event next, holds state → allowed state event →
      machine.step state event = some next → holds next) : holds state := by
  obtain ⟨first, started, run⟩ := reachable
  exact run.invariant preserved (starts first started)

/-- A run after a reachable state is reachable. -/
theorem Reachable.runs {state next : State} (reachable : Reachable machine allowed state)
    (run : Runs machine allowed state next) : Reachable machine allowed next := by
  obtain ⟨first, started, before⟩ := reachable
  exact ⟨first, started, before.trans run⟩

/-! ### Executing a list of events -/

/-- Take the events in order. -/
def exec (machine : Machine State Event) : State → List Event → Option State
  | state, [] => some state
  | state, event :: events => (machine.step state event).bind (exec machine · events)

variable {events : List Event}

/-- **A list of events that executes is a run**, of allowed steps if each event is allowed. -/
theorem exec_runs (permitted : ∀ event ∈ events, ∀ state, allowed state event)
    (executed : exec machine before events = some after) : Runs machine allowed before after := by
  induction events generalizing before with
  | nil =>
    cases executed
    exact .refl
  | cons event events ih =>
    obtain ⟨next, stepped, rest⟩ := bind_eq_some_iff.mp executed
    refine .head ⟨event, permitted event List.mem_cons_self before, stepped⟩ (ih ?_ rest)
    exact fun other member => permitted other (List.mem_cons_of_mem event member)

theorem exec_any {before : State} {holds : State → Bool}
    (permitted : ∀ event ∈ events, ∀ state, allowed state event)
    (leads : (exec machine before events).any holds = true) :
    ∃ after, Runs machine allowed before after ∧ holds after = true := by
  obtain ⟨after, executed, result⟩ := (any_eq_true _ _).mp leads
  exact ⟨after, exec_runs permitted executed, result⟩

/-- **A list of events that executes leads to a reachable state.** -/
theorem reachable_exec {first : State} (property : State → Prop) [DecidablePred property]
    (events : List Event) (start : machine.start first)
    (leads : (exec machine first events).any (fun state => decide (property state)) = true) :
    ∃ state, Reachable machine always state ∧ property state := by
  obtain ⟨after, run, holds⟩ := exec_any (fun _ _ _ => trivial) leads
  exact ⟨after, ⟨first, start, run⟩, of_decide_eq_true holds⟩

/-- Take the events in order, each only if it is permitted. -/
def execPermitted (machine : Machine State Event) (permits : State → Event → Bool) :
    State → List Event → Option State
  | state, [] => some state
  | state, event :: events =>
    if permits state event then
      (machine.step state event).bind (execPermitted machine permits · events)
    else none

/-- **Permitted events that execute are an allowed run.** -/
theorem execPermitted_runs {permits : State → Event → Bool}
    (permitted : ∀ state event, permits state event = true → allowed state event)
    (executed : execPermitted machine permits before events = some after) :
    Runs machine allowed before after := by
  induction events generalizing before with
  | nil =>
    cases executed
    exact .refl
  | cons event events ih =>
    obtain ⟨permit, executed⟩ := ite_none_right_eq_some.mp executed
    obtain ⟨next, stepped, rest⟩ := bind_eq_some_iff.mp executed
    exact .head ⟨event, permitted before event permit, stepped⟩ (ih rest)

end Bluestation.Machines
