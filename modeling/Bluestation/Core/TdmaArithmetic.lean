/-
**Arithmetic on TDMA times in machine integers.**

The code computes with signed 32-bit integers and brings a difference into half a wrap to either
side of zero with two loops. Here every operation is checked, so that an overflow gives `none`.

* `addTimeslotsI32_eq`, `diffI32_eq` — nothing overflows, and the loops compute `timeIntDiff`.
* `diff_comm_iff` — swapping two times negates their difference unless they are half a wrap apart.
-/

import Bluestation.Core.TdmaTime

namespace Bluestation.TdmaTime

open Option

variable (time : TdmaTime)

def isValid : Bool :=
  1 ≤ time.t && time.t ≤ 4 && 1 ≤ time.f && time.f ≤ 18 && 1 ≤ time.m && time.m ≤ 60

/-- A valid time; the hyperframe is a `u16`. -/
def Valid : Prop := time.isValid = true ∧ time.h < 65536

instance : Decidable time.Valid := inferInstanceAs (Decidable (_ ∧ _))

/-! ### The computation in 32 bits -/

/-- The value, if it fits. -/
def i32 (value : Int) : Option Int :=
  if -2147483648 ≤ value ∧ value ≤ 2147483647 then some value else none

def toI32 : Option Int := do
  let t ← i32 (time.t - 1)
  let f ← i32 ((← i32 (time.f - 1)) * 4)
  let m ← i32 ((← i32 ((← i32 (time.m - 1)) * 4)) * 18)
  let h ← i32 ((← i32 ((← i32 (time.h * 4)) * 18)) * 60)
  i32 ((← i32 ((← i32 (t + f)) + m)) + h)

def fromI32 (slot : Int) : Option TdmaTime := do
  let _ ← i32 (slot % 4 + 1)
  let _ ← i32 (slot / 4 % 18 + 1)
  let _ ← i32 (slot / (4 * 18) % 60 + 1)
  return fromInt slot

def addTimeslotsI32 (numSlots : Int) : Option TdmaTime := do
  fromI32 (← i32 ((← time.toI32) + numSlots))

/-- The loop `while diff < -TIME_INT_WRAP / 2`. -/
def raise (diff : Int) : Option Int :=
  if diff < -timeIntWrap / 2 then (i32 (diff + timeIntWrap)).bind fun _ => raise (diff + timeIntWrap)
  else some diff
termination_by (-timeIntWrap / 2 - diff).toNat
decreasing_by
  simp only [timeIntWrap] at *
  omega

/-- The loop `while diff >= TIME_INT_WRAP / 2`. -/
def lower (diff : Int) : Option Int :=
  if timeIntWrap / 2 ≤ diff then (i32 (diff - timeIntWrap)).bind fun _ => lower (diff - timeIntWrap)
  else some diff
termination_by diff.toNat
decreasing_by
  simp only [timeIntWrap] at *
  omega

def diffI32 (other : TdmaTime) : Option Int := do
  lower (← raise (← i32 ((← time.toI32) - (← other.toI32))))

/-! ### What it computes -/

theorem i32_eq {value : Int} (low : -2147483648 ≤ value) (high : value ≤ 2147483647) :
    i32 value = some value :=
  if_pos ⟨low, high⟩

theorem timeIntWrap_eq : timeIntWrap = 283115520 := rfl

theorem raise_eq {diff : Int} (low : -timeIntWrap < diff) :
    raise diff = some (if diff < -timeIntWrap / 2 then diff + timeIntWrap else diff) := by
  rw [timeIntWrap_eq] at *
  rw [raise, timeIntWrap_eq]
  split
  · rw [i32_eq (by omega) (by omega), bind_some, raise, timeIntWrap_eq, if_neg (by omega)]
  · rfl

theorem lower_eq {diff : Int} (high : diff < timeIntWrap) :
    lower diff = some (if timeIntWrap / 2 ≤ diff then diff - timeIntWrap else diff) := by
  rw [timeIntWrap_eq] at *
  rw [lower, timeIntWrap_eq]
  split
  · rw [i32_eq (by omega) (by omega), bind_some, lower, timeIntWrap_eq, if_neg (by omega)]
  · rfl

variable {time} {other : TdmaTime}

theorem valid_iff : time.Valid ↔ (1 ≤ time.t ∧ time.t ≤ 4) ∧ (1 ≤ time.f ∧ time.f ≤ 18) ∧
    (1 ≤ time.m ∧ time.m ≤ 60) ∧ time.h < 65536 := by
  simp [Valid, isValid, and_assoc]

theorem valid_fromInt (slot : Int) : (fromInt slot).Valid := by
  have := t_fromInt slot
  have := f_fromInt slot
  have := m_fromInt slot
  have := h_fromInt slot
  rw [valid_iff]
  omega

section

variable (valid : time.Valid)

include valid

theorem Valid.toInt_range : 0 ≤ time.toInt ∧ time.toInt < timeIntWrap := by
  rw [valid_iff] at valid
  rw [toInt, timeIntWrap_eq]
  omega

theorem Valid.fromInt_toInt : fromInt time.toInt = time := by
  rw [valid_iff] at valid
  ext <;> simp only [fromInt, toInt] <;> omega

theorem Valid.toI32_eq : time.toI32 = some time.toInt := by
  rw [valid_iff] at valid
  simp (disch := omega) only [toI32, i32_eq, bind_eq_bind, bind_some, toInt]

/-- **Adding less than a wrap overflows nowhere.** -/
theorem Valid.addTimeslotsI32_eq {count : Int} (near : |count| < timeIntWrap) :
    time.addTimeslotsI32 count = some (time.addTimeslots count) := by
  obtain ⟨low, high⟩ := abs_lt.mp near
  have range := valid.toInt_range
  simp only [timeIntWrap_eq] at low high range
  rw [addTimeslotsI32, valid.toI32_eq, bind_eq_bind, bind_some,
    i32_eq (by omega) (by omega), bind_some, fromI32]
  simp (disch := omega) only [i32_eq, bind_eq_bind, bind_some]
  rfl

/-- **The loops of a difference run at most once**, and compute the closed form. -/
theorem Valid.diffI32_eq (validOther : other.Valid) :
    time.diffI32 other = some (time.diff other) := by
  have range := valid.toInt_range
  have rangeOther := validOther.toInt_range
  simp only [timeIntWrap_eq] at range rangeOther
  simp only [diffI32, valid.toI32_eq, validOther.toI32_eq, bind_eq_bind, bind_some]
  rw [i32_eq (by omega) (by omega), bind_some, raise_eq (by rw [timeIntWrap_eq]; omega),
    bind_some, lower_eq (by rw [timeIntWrap_eq]; split <;> omega), diff, timeIntDiff,
    timeIntWrap_eq]
  congr 1
  split_ifs <;> omega

/-- **Swapping two times negates their difference**, unless they are half a wrap apart. -/
theorem Valid.diff_comm_iff (validOther : other.Valid) :
    time.diff other = -other.diff time ↔ |time.toInt - other.toInt| ≠ timeIntWrap / 2 := by
  have range := valid.toInt_range
  have rangeOther := validOther.toInt_range
  rw [ne_eq, abs_eq (by decide)]
  simp only [diff, timeIntDiff, timeIntWrap_eq] at *
  omega

/-- Rounding up gives the first occurrence of the timeslot that is not earlier. -/
def RoundsUp (time : TdmaTime) (ts : Nat) : Prop :=
  ∃ ahead : Int, 0 ≤ ahead ∧ time.forwardToTimeslot ts = time.addTimeslots ahead ∧
    (time.addTimeslots ahead).t = ts ∧
    ∀ later : Int, 0 ≤ later → (time.addTimeslots later).t = ts → ahead ≤ later

theorem Valid.roundsUp {ts : Nat} (low : 1 ≤ ts) (high : ts ≤ 4) : time.RoundsUp ts := by
  obtain ⟨ahead, positive, short, onSlot, forward⟩ := forwardToTimeslot_fromInt time.toInt low high
  rw [valid.fromInt_toInt] at forward
  have slotOf (count : Int) := t_fromInt (time.toInt + count)
  refine ⟨ahead, positive, forward, ?_, fun later notBefore there => ?_⟩
  · have := slotOf ahead
    rw [addTimeslots]
    omega
  · have := slotOf later
    rw [addTimeslots] at there
    omega

end

/-- **The laws of the arithmetic**; exactly half a wrap apart, each time is before the other. -/
theorem tdma_arithmetic (valid : time.Valid) (validOther : other.Valid) {count : Int}
    (near : |count| < timeIntWrap / 2) :
    (time.addTimeslots count).diff time = count ∧
      (time.diff other = -other.diff time ↔ |time.toInt - other.toInt| ≠ timeIntWrap / 2) ∧
      (time.age other = -other.age time ↔ |time.toInt - other.toInt| ≠ timeIntWrap / 2) ∧
      (∀ offset more,
        (time.addTimeslots offset).addTimeslots more = time.addTimeslots (offset + more)) ∧
      fromInt time.toInt = time ∧
      (∀ slot, 0 ≤ slot → slot < timeIntWrap → (fromInt slot).toInt = slot) ∧
      (∀ ts, 1 ≤ ts → ts ≤ 4 → time.RoundsUp ts) ∧
      (∀ offset, (time.addTimeslots offset).Valid) ∧ (∀ ts, (time.forwardToTimeslot ts).Valid) ∧
      time.toI32 = some time.toInt ∧ time.diffI32 other = some (time.diff other) ∧
      (∀ offset, |offset| < timeIntWrap →
        time.addTimeslotsI32 offset = some (time.addTimeslots offset)) := by
  have swapped := validOther.diff_comm_iff valid
  rw [abs_sub_comm] at swapped
  refine ⟨?_, valid.diff_comm_iff validOther, swapped, fun offset more => ?_, valid.fromInt_toInt, ?_,
    fun ts => valid.roundsUp, fun offset => valid_fromInt _,
    fun ts => valid_fromInt _, valid.toI32_eq, valid.diffI32_eq validOther,
    fun offset => valid.addTimeslotsI32_eq⟩
  · obtain ⟨low, high⟩ := abs_lt.mp near
    simp only [diff, addTimeslots, toInt_fromInt, timeIntDiff, timeIntWrap_eq] at *
    omega
  · show (fromInt _).addTimeslots more = fromInt _
    rw [addTimeslots_fromInt, add_assoc]
  · intro slot low high
    rw [toInt_fromInt, Int.emod_eq_of_lt low high]

/-- The first and the last slot of two different hyperframes. -/
theorem tdma_arithmetic_wrapped :
    ((fromInt 3).addTimeslots (-5)).diff (fromInt 3) = -5 ∧ (fromInt (-2)).Valid :=
  ⟨(tdma_arithmetic (valid_fromInt 3) (valid_fromInt 0) (by decide)).1, by decide⟩

/-- Half a wrap apart: both differences are negative. -/
theorem half_wrap_both_before : ∃ time other : TdmaTime, time.Valid ∧ other.Valid ∧
    time.diff other ≠ -other.diff time ∧ time.age other ≠ -other.age time :=
  ⟨⟨1, 1, 1, 0⟩, ⟨1, 1, 1, 32768⟩, by decide, by decide, by decide, by decide⟩

end Bluestation.TdmaTime
