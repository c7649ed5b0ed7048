/-
**Machines with a history, and loops whose items are allowed in their turn.**

* `Machine.withHistory` — a machine that notes what happens; the history changes no step.
* `everyTurn` — every item of a loop is allowed in the state in which its turn comes.
-/

import Bluestation.Lib.Run

namespace Bluestation.Machines

variable {State Event History Item : Type}

/-- The same machine, with a history of its steps beside the state. -/
def Machine.withHistory (machine : Machine State Event) (first : History)
    (note : State → Event → State → History → History) : Machine (State × History) Event where
  start state := machine.start state.1 ∧ state.2 = first
  step state event :=
    (machine.step state.1 event).map fun next => (next, note state.1 event next state.2)

theorem Machine.withHistory_step {machine : Machine State Event} {first : History}
    {note : State → Event → State → History → History} {state next : State × History}
    {event : Event} :
    (machine.withHistory first note).step state event = some next ↔
      machine.step state.1 event = some next.1 ∧ next.2 = note state.1 event next.1 state.2 := by
  unfold Machine.withHistory
  rw [Option.map_eq_some_iff]
  constructor
  · rintro ⟨after, stepped, rfl⟩
    exact ⟨stepped, rfl⟩
  · rintro ⟨stepped, noted⟩
    exact ⟨next.1, stepped, Prod.ext rfl noted.symm⟩

/-- Each item is allowed in the state in which its turn comes. -/
def everyTurn (allows : State → Item → Bool) (act : State → Item → State) :
    State → List Item → Bool
  | _, [] => true
  | state, item :: items => allows state item && everyTurn allows act (act state item) items

/-- **What every allowed item of the list preserves holds after the loop.** -/
theorem everyTurn_foldl_mem {allows : State → Item → Bool} {act : State → Item → State}
    {holds : State → Prop} {items : List Item} {state : State}
    (preserved : ∀ state, ∀ item ∈ items, holds state → allows state item = true →
      holds (act state item))
    (first : holds state) (allowed : everyTurn allows act state items = true) :
    holds (items.foldl act state) := by
  induction items generalizing state with
  | nil => exact first
  | cons item rest ih =>
    obtain ⟨now, later⟩ := Bool.and_eq_true_iff.mp allowed
    refine ih (fun state other member => preserved state other (List.mem_cons_of_mem item member))
      (preserved state item List.mem_cons_self first now) later

/-- **What every allowed item preserves holds after the loop.** -/
theorem everyTurn_foldl {allows : State → Item → Bool} {act : State → Item → State}
    {holds : State → Prop} (preserved : ∀ state item, holds state → allows state item = true →
      holds (act state item))
    {items : List Item} {state : State} (first : holds state)
    (allowed : everyTurn allows act state items = true) : holds (items.foldl act state) :=
  everyTurn_foldl_mem (fun state item _ => preserved state item) first allowed

theorem foldl_preserves {act : State → Item → State} {holds : State → Prop}
    (preserved : ∀ state item, holds state → holds (act state item)) (items : List Item)
    {state : State} (first : holds state) : holds (items.foldl act state) :=
  items.foldlRecOn act first fun state held item _ => preserved state item held

end Bluestation.Machines
