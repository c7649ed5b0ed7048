/-
**Least-cost paths through a trellis in which every state is entered from two.**

A path is read backwards from its last state: one bit for each stage says which of the two
predecessors it came from, and the newest stage stands first in every list.

* `metricsAfter` — for each state the least cost so far, one add-compare-select for each stage.
* `metricsAfter_le`, `walkCost_survivor` — the metric is the least cost of a walk, and the survivor
  attains it.
-/

import Mathlib.Tactic

namespace Bluestation.Trellis

variable {State Cost : Type*} [LinearOrder Cost] [Add Cost]

/-- What it costs to enter a state from the predecessor that a bit picks. -/
abbrev Stage (State Cost : Type*) := Bool → State → Cost

section Definitions

variable (pred : Bool → State → State)

/-- Add-compare-select: the second predecessor is picked if it is strictly cheaper. -/
def select (metrics : State → Cost) (stage : Stage State Cost) (state : State) : Bool :=
  decide (metrics (pred true state) + stage true state
    < metrics (pred false state) + stage false state)

/-- The metrics after one more stage. -/
def advance (metrics : State → Cost) (stage : Stage State Cost) (state : State) : Cost :=
  metrics (pred (select pred metrics stage state) state)
    + stage (select pred metrics stage state) state

/-- The metrics after all stages. -/
def metricsAfter (init : State → Cost) : (stages : List (Stage State Cost)) → State → Cost
  | [] => init
  | stage :: past => advance pred (metricsAfter init past) stage

/-- The choices traced back from a state. -/
def survivor (init : State → Cost) : (stages : List (Stage State Cost)) → State → List Bool
  | [], _ => []
  | stage :: past, state =>
    let choice := select pred (metricsAfter pred init past) stage state
    choice :: survivor init past (pred choice state)

/-- The cost of the walk that ends in a state and makes the given choices. -/
def walkCost (init : State → Cost) :
    (stages : List (Stage State Cost)) → (choices : List Bool) → State → Cost
  | stage :: past, choice :: older, state =>
    walkCost init past older (pred choice state) + stage choice state
  | _, _, state => init state

end Definitions

variable {pred : Bool → State → State} {init : State → Cost}

@[simp] theorem length_survivor (stages : List (Stage State Cost)) (state : State) :
    (survivor pred init stages state).length = stages.length := by
  induction stages generalizing state with
  | nil => rfl
  | cons stage past ih => simp [survivor, ih]

/-- **The survivor costs what the metric says.** -/
theorem walkCost_survivor (stages : List (Stage State Cost)) (state : State) :
    walkCost pred init stages (survivor pred init stages state) state
      = metricsAfter pred init stages state := by
  induction stages generalizing state with
  | nil => rfl
  | cons stage past ih =>
    rw [survivor, walkCost, ih]
    rfl

theorem advance_le (metrics : State → Cost) (stage : Stage State Cost) (choice : Bool)
    (state : State) :
    advance pred metrics stage state ≤ metrics (pred choice state) + stage choice state := by
  unfold advance select
  by_cases cheaper : metrics (pred true state) + stage true state
      < metrics (pred false state) + stage false state
  · rw [decide_eq_true cheaper]
    cases choice with
    | false => exact cheaper.le
    | true => exact le_rfl
  · rw [decide_eq_false cheaper]
    cases choice with
    | false => exact le_rfl
    | true => exact not_lt.mp cheaper

/-- **No walk is cheaper than the metric.** -/
theorem metricsAfter_le [AddRightMono Cost] (stages : List (Stage State Cost))
    (choices : List Bool) (sameLength : choices.length = stages.length) (state : State) :
    metricsAfter pred init stages state ≤ walkCost pred init stages choices state := by
  induction stages generalizing choices state with
  | nil =>
    cases choices with
    | nil => exact le_rfl
    | cons choice older => simp at sameLength
  | cons stage past ih =>
    cases choices with
    | nil => simp at sameLength
    | cons choice older =>
      have older_le := ih older (by simpa using sameLength) (pred choice state)
      calc metricsAfter pred init (stage :: past) state
          ≤ metricsAfter pred init past (pred choice state) + stage choice state :=
            advance_le _ _ _ _
        _ ≤ walkCost pred init past older (pred choice state) + stage choice state :=
            add_le_add_left older_le _

end Bluestation.Trellis
