/-
**A value that changes at known times.**

A timeline has a first value and the changes after it, each with the time from which it is in force.

* `valueAt_change` — a change is in force from its time on, and nothing is different before.
* `valueAt_of_past` — after all changes the last value is in force.
-/

import Mathlib.Tactic

namespace Bluestation

open List

structure Timeline (Value : Type) where
  first : Value
  changes : List (Int × Value)

namespace Timeline

variable {Value : Type}

/-- The value in force at a time. -/
def valueAt (timeline : Timeline Value) (time : Int) : Value :=
  timeline.changes.foldl (fun value change => if change.1 ≤ time then change.2 else value)
    timeline.first

/-- The value after all changes. -/
def last (timeline : Timeline Value) : Value :=
  timeline.changes.foldl (fun _ change => change.2) timeline.first

def change (timeline : Timeline Value) (time : Int) (value : Value) : Timeline Value :=
  { timeline with changes := timeline.changes ++ [(time, value)] }

@[simp] theorem last_change (timeline : Timeline Value) (time : Int) (value : Value) :
    (timeline.change time value).last = value := by
  simp [last, change]

/-- **A change is in force from its time on.** -/
theorem valueAt_change (timeline : Timeline Value) (since time : Int) (value : Value) :
    (timeline.change since value).valueAt time =
      if since ≤ time then value else timeline.valueAt time := by
  simp [valueAt, change]

/-- **After all changes the last value is in force.** By induction on the changes, whatever the
first value is. -/
theorem valueAt_of_past {timeline : Timeline Value} {time : Int}
    (past : ∀ change ∈ timeline.changes, change.1 ≤ time) :
    timeline.valueAt time = timeline.last := by
  obtain ⟨first, changes⟩ := timeline
  unfold valueAt last
  induction changes generalizing first with
  | nil => rfl
  | cons change changes ih =>
    rw [foldl_cons, if_pos (past change mem_cons_self)]
    exact ih _ fun other member => past other (mem_cons_of_mem _ member)

end Timeline

end Bluestation
