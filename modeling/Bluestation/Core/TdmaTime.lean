/-
**TDMA time.**

A time names a timeslot (1 to 4), a frame (1 to 18), a multiframe (1 to 60) and a hyperframe, and
wraps around after 65536 hyperframes. The timeslots are numbered consecutively by integers; a time
is the number of its timeslot, up to a whole number of wraps.

* `addTimeslots_fromInt`, `forwardToTimeslot_fromInt` — arithmetic on times is arithmetic on slots.
* `diff_fromInt` — the difference of two near times is the difference of their slots, across a wrap.
-/

import Mathlib.Tactic

namespace Bluestation

@[ext] structure TdmaTime where
  t : Nat
  f : Nat
  m : Nat
  h : Nat
deriving DecidableEq

def timeIntWrap : Int := 4 * 18 * 60 * 65536

/-- Difference between two slot numbers, brought into one half wrap to either side of zero. -/
def timeIntDiff (a b : Int) : Int :=
  (a - b + timeIntWrap / 2) % timeIntWrap - timeIntWrap / 2

namespace TdmaTime

variable (time : TdmaTime)

def toInt : Int :=
  ((time.t : Int) - 1) + ((time.f : Int) - 1) * 4 + ((time.m : Int) - 1) * 4 * 18 +
    (time.h : Int) * 4 * 18 * 60

def fromInt (time : Int) : TdmaTime where
  t := (time % 4 + 1).toNat
  f := (time / 4 % 18 + 1).toNat
  m := (time / (4 * 18) % 60 + 1).toNat
  h := (time / (4 * 18 * 60) % 65536).toNat

def addTimeslots (numSlots : Int) : TdmaTime := fromInt (time.toInt + numSlots)

def diff (time other : TdmaTime) : Int := timeIntDiff time.toInt other.toInt

def age (time now : TdmaTime) : Int := now.diff time

/-- Round up to the next occurrence of the timeslot; a time of that timeslot stays. -/
def forwardToTimeslot (ts : Nat) : TdmaTime :=
  time.addTimeslots (((ts + 4 - time.t) % 4 : Nat) : Int)

/-- Whether the uplink timeslot holds a predefined common linearization opportunity. -/
def isMandatoryClch : Bool :=
  time.f = 18 && time.t = 4 - ((time.m + 1) % 4)

/-! ### Times as slot numbers -/

variable (slot : Int)

theorem t_fromInt : (((fromInt slot).t : Nat) : Int) = slot % 4 + 1 := by
  simp only [fromInt]
  omega

theorem f_fromInt : (((fromInt slot).f : Nat) : Int) = slot / 4 % 18 + 1 := by
  simp only [fromInt]
  omega

theorem m_fromInt : (((fromInt slot).m : Nat) : Int) = slot / 72 % 60 + 1 := by
  simp only [fromInt]
  omega

theorem h_fromInt : (((fromInt slot).h : Nat) : Int) = slot / 4320 % 65536 := by
  simp only [fromInt]
  omega

theorem toInt_fromInt : (fromInt slot).toInt = slot % timeIntWrap := by
  rw [toInt, t_fromInt, f_fromInt, m_fromInt, h_fromInt, timeIntWrap]
  omega

theorem fromInt_emod : fromInt (slot % timeIntWrap) = fromInt slot := by
  ext <;> simp only [fromInt, timeIntWrap]
  · congr 2
    omega
  · congr 2
    omega
  · congr 2
    omega
  · omega

/-- **Adding timeslots is adding to the slot number.** -/
@[simp] theorem addTimeslots_fromInt (slot count : Int) :
    (fromInt slot).addTimeslots count = fromInt (slot + count) := by
  rw [addTimeslots, toInt_fromInt, ← fromInt_emod (slot % timeIntWrap + count),
    Int.emod_add_emod, fromInt_emod]

/-- **Near slots have different times.** -/
theorem fromInt_inj {first second : Int} (near : |first - second| < timeIntWrap)
    (same : fromInt first = fromInt second) : first = second := by
  have residues : first % timeIntWrap = second % timeIntWrap := by
    rw [← toInt_fromInt, ← toInt_fromInt, same]
  have divides : timeIntWrap ∣ first - second :=
    Int.dvd_of_emod_eq_zero (Int.emod_eq_emod_iff_emod_sub_eq_zero.mp residues)
  have zero := Int.eq_zero_of_abs_lt_dvd divides near
  omega

/-- **The difference of two near times is the difference of their slots.** -/
theorem diff_fromInt {first second : Int} (near : |first - second| < timeIntWrap / 2) :
    (fromInt first).diff (fromInt second) = first - second := by
  obtain ⟨low, high⟩ := abs_lt.mp near
  rw [diff, toInt_fromInt, toInt_fromInt, timeIntDiff]
  simp only [timeIntWrap] at low high ⊢
  omega

theorem age_addTimeslots {count : Int} (near : |count| < timeIntWrap / 2) :
    (time.addTimeslots count).age time = -count := by
  obtain ⟨low, high⟩ := abs_lt.mp near
  rw [age, diff, addTimeslots, toInt_fromInt, timeIntDiff]
  simp only [timeIntWrap] at low high ⊢
  omega

theorem forwardToTimeslot_fromInt {ts : Nat} (low : 1 ≤ ts) (high : ts ≤ 4) :
    ∃ ahead : Int, 0 ≤ ahead ∧ ahead ≤ 3 ∧ (slot + ahead) % 4 = ts - 1 ∧
      (fromInt slot).forwardToTimeslot ts = fromInt (slot + ahead) := by
  have slotT := t_fromInt slot
  refine ⟨((ts + 4 - (fromInt slot).t) % 4 : Nat), by omega, by omega, ?_, ?_⟩
  · omega
  · rw [forwardToTimeslot, addTimeslots_fromInt]

end TdmaTime

end Bluestation
