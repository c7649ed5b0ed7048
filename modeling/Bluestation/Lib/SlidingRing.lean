/-
**A ring of cells read through a sliding window.**

Positions are integers and a position's cell is its residue modulo the period. As long as only
positions of one window of `period` positions are written, the ring is as good as an unbounded
store. When the window slides by one, the position that enters it takes over the cell of the one
that leaves, so that cell is emptied — together with anything written there too early.

* `Represents.slide` — emptying the cell of the position that leaves.
* `key_add_period` — the cell that leaves is the cell that enters: what was written one period
  ahead is emptied with it.
-/

import Mathlib.Tactic

namespace Bluestation.SlidingRing

open Function

/-- Cells keyed so that two positions share one exactly when they are a multiple of the period
apart. -/
structure RingKey (Key : Type) (period : Int) where
  key : Int → Key
  key_eq_iff : ∀ first second, key first = key second ↔ first % period = second % period

variable {Key α : Type} {period : Int} (ring : RingKey Key period)

/-- The cells hold the store's values at the positions of the window that starts at `low`. -/
def Represents (cells : Key → α) (low : Int) (store : Int → α) : Prop :=
  ∀ position, low ≤ position → position < low + period →
    cells (ring.key position) = store position

theorem eq_of_key_eq (low : Int) {first second : Int} (firstLow : low ≤ first)
    (firstHigh : first < low + period) (secondLow : low ≤ second)
    (secondHigh : second < low + period) (same : ring.key first = ring.key second) :
    first = second := by
  have residues := (ring.key_eq_iff first second).mp same
  have divides : period ∣ second - first := (Int.emod_eq_emod_iff_emod_sub_eq_zero.mp
    residues.symm |> Int.dvd_of_emod_eq_zero)
  have small : |second - first| < period := abs_lt.mpr ⟨by omega, by omega⟩
  have zero := Int.eq_zero_of_abs_lt_dvd divides small
  omega

theorem key_add_period (position : Int) : ring.key (position + period) = ring.key position :=
  (ring.key_eq_iff _ _).mpr (Int.add_emod_right position period)

variable {ring} {cells : Key → α} {low : Int} {store : Int → α} [DecidableEq Key]

/-- **Writing inside the window.** -/
theorem Represents.update (represents : Represents ring cells low store) {position : Int}
    (above : low ≤ position) (below : position < low + period) (value : α) :
    Represents ring (Function.update cells (ring.key position) value) low
      (Function.update store position value) := by
  intro other otherAbove otherBelow
  by_cases same : other = position
  · rw [same, update_self, update_self]
  · have different : ring.key other ≠ ring.key position := fun key =>
      same (eq_of_key_eq ring low otherAbove otherBelow above below key)
    rw [update_of_ne different, update_of_ne same]
    exact represents other otherAbove otherBelow

/-- **Sliding the window by one**: the emptied cell belongs to the position that enters. -/
theorem Represents.slide (represents : Represents ring cells low store) (empty : α) :
    Represents ring (Function.update cells (ring.key low) empty) (low + 1)
      (Function.update store (low + period) empty) := by
  intro other above below
  by_cases entered : other = low + period
  · rw [entered, key_add_period, update_self, update_self]
  · have inside : other < low + period := by omega
    have different : ring.key other ≠ ring.key low := by
      intro key
      have same := eq_of_key_eq ring low (by omega) inside le_rfl (by omega) key
      omega
    rw [update_of_ne different, update_of_ne entered]
    exact represents other (by omega) inside

end Bluestation.SlidingRing
