/-
**The frame check sequence.**

The last 32 bits of a protected message are the complement of a cyclic redundancy check over the
bits before them.

* `checkFcs_iff` — a message passes the check exactly with its check sequence behind it.
* `checkFcs_burst` — **no burst of up to 32 wrong bits passes.**
-/

import Bluestation.Core.Fields
import Bluestation.Lib.CyclicCheck

namespace Bluestation

open Bits List

namespace Fcs

def feed (crc : BitVec 32) (bit : Bool) : BitVec 32 :=
  if bit ^^ crc.msb then (crc <<< 1) ^^^ 0x04C11DB7#32 else crc <<< 1

/-- What the check starts from: messages shorter than the check use its low bits. -/
def initial (len : Nat) : BitVec 32 :=
  if len < 32 then 0xFFFFFFFF#32 <<< (32 - len) else 0xFFFFFFFF#32

variable (bits : List Bool)

/-- The check sequence of some bits. For no bits at all the initial shift is by the whole width,
which overflows. -/
def computeFcs : Except Fault (BitVec 32) := do
  assertThat (bits.length ≠ 0)
  .ok (~~~ (bits.foldl feed (initial bits.length)))

/-- Whether the last 32 bits are the check sequence of the bits before them. -/
def checkFcs : Except Fault Bool := do
  if bits.length < 32 then .ok false
  else
    let fcsComputed ← computeFcs (bits.take (bits.length - 32))
    let fcsExtracted := valueOf (bits.drop (bits.length - 32))
    .ok (fcsComputed.toNat = fcsExtracted)

def sequence : List Bool :=
  bitsOf 32 (~~~ (bits.foldl feed (initial bits.length))).toNat

@[simp] theorem length_sequence : (sequence bits).length = 32 := by
  rw [sequence, length_bitsOf]

theorem bitsOf_not {width : Nat} (crc : BitVec width) :
    bitsOf width (~~~ crc).toNat = CyclicCheck.complement crc := by
  have bits : ∀ narrow value, bitsOf narrow value
      = ofFn fun place : Fin narrow => value.testBit (narrow - 1 - place) := by
    intro narrow value
    induction narrow with
    | zero => rfl
    | succ narrow ih => simp [bitsOf, ih, ofFn_succ, Nat.sub_sub, Nat.add_comm]
  rw [bits, CyclicCheck.complement]
  refine congrArg ofFn (funext fun place => ?_)
  rw [BitVec.testBit_toNat, BitVec.getLsbD_not, BitVec.getMsbD]
  simp [show width - 1 - place.val < width by omega]

/-- **A message passes the check if and only if its check sequence is behind it.** -/
theorem checkFcs_iff {bits behind : List Bool} (some' : bits ≠ []) (full : behind.length = 32) :
    checkFcs (bits ++ behind) = .ok (decide (behind = sequence bits)) := by
  have front : (bits ++ behind).length - 32 = bits.length := by
    rw [length_append, full, Nat.add_sub_cancel]
  have long : ¬ (bits ++ behind).length < 32 := by
    rw [length_append, full]
    omega
  unfold checkFcs
  rw [front, take_left' rfl, drop_left' rfl]
  unfold computeFcs
  rw [assertThat_of (by rwa [ne_eq, length_eq_zero_iff]), if_neg long]
  refine congrArg Except.ok (decide_eq_decide.mpr ⟨fun same => ?_, ?_⟩)
  · rw [sequence, same, ← full, bitsOf_valueOf]
  · rintro rfl
    exact (valueOf_bitsOf_of_lt (BitVec.isLt _)).symm

/-- **A message followed by its check sequence passes the check.** -/
theorem checkFcs_protect {bits : List Bool} (some' : bits ≠ []) :
    checkFcs (bits ++ sequence bits) = .ok true := by
  rw [checkFcs_iff some' (length_sequence bits), decide_eq_true rfl]

/-- **No burst of up to 32 wrong bits passes the check**, wherever it hits a protected message. -/
theorem checkFcs_burst {bits before sent received after : List Bool} (some' : bits ≠ [])
    (block : bits ++ sequence bits = before ++ sent ++ after)
    (sameLength : sent.length = received.length) (short : sent.length ≤ 32)
    (wrong : sent ≠ received) : checkFcs (before ++ received ++ after) = .ok false := by
  obtain ⟨front, behind, split, length, full⟩ : ∃ front behind,
      before ++ received ++ after = front ++ behind ∧ front.length = bits.length
        ∧ behind.length = 32 := by
    refine ⟨_, _, (take_append_drop bits.length _).symm, ?_⟩
    have whole := congrArg length block
    simp only [length_append, length_sequence] at whole
    simp only [length_take, length_drop, length_append]
    omega
  rw [sequence, bitsOf_not] at block
  have passes := CyclicCheck.residue_burst (by decide) block sameLength short wrong
  rw [split, checkFcs_iff (by rwa [← length_pos_iff, length, length_pos_iff]) full,
    decide_eq_false]
  rw [split, ← length, ne_eq, CyclicCheck.residue_iff (by decide) full, ← bitsOf_not] at passes
  exact passes

end Fcs

end Bluestation
