/-
**The scrambler between type-4 and type-5 bits.**

A 32-bit feedback register makes a bit sequence from the scrambling code, which is added to the
block from its position to its end.

* `tetraScrambBits_ofBits` — the whole block is added to the sequence, and the position is back.
* `scrambled_scrambled` — scrambling twice with one code gives the block back.
-/

import Bluestation.Lib.BitBuffer
import Bluestation.Lib.Moves

namespace Bluestation.Scrambler

open Bits List Option BitBuffer

def SCRAMB_INIT : BitVec 32 := 3#32

/-- One bit of the feedback register, with its taps, and the register after it. -/
def nextLfsrBit (lfsr : BitVec 32) : Bool × BitVec 32 :=
  let bit := (lfsr
    ^^^ (lfsr >>> (32 - 26))
    ^^^ (lfsr >>> (32 - 23))
    ^^^ (lfsr >>> (32 - 22))
    ^^^ (lfsr >>> (32 - 16))
    ^^^ (lfsr >>> (32 - 12))
    ^^^ (lfsr >>> (32 - 11))
    ^^^ (lfsr >>> (32 - 10))
    ^^^ (lfsr >>> (32 - 8))
    ^^^ (lfsr >>> (32 - 7))
    ^^^ (lfsr >>> (32 - 5))
    ^^^ (lfsr >>> (32 - 4))
    ^^^ (lfsr >>> (32 - 2))
    ^^^ (lfsr >>> (32 - 1))) &&& 1#32
  (bit.getLsbD 0, (lfsr >>> 1) ||| (bit <<< 31))

/-- The first `count` scrambling bits. -/
def tetraScrambGetBits (lfsrInit : BitVec 32) : (count : Nat) → List Bool
  | 0 => []
  | count + 1 => (nextLfsrBit lfsrInit).1 :: tetraScrambGetBits (nextLfsrBit lfsrInit).2 count

/-- Add scrambling bits to the next `count` bits of a buffer. -/
def scrambLoop : (count : Nat) → (lfsr : BitVec 32) → (buf : BitBuffer) → Option BitBuffer
  | 0, _, buf => some buf
  | count + 1, lfsr, buf => do
    let buf ← buf.xorBit (nextLfsrBit lfsr).1
    scrambLoop count (nextLfsrBit lfsr).2 buf

/-- Scramble or unscramble a buffer from its position to its end; the position comes back. -/
def tetraScrambBits (lfsrInit : BitVec 32) (buf : BitBuffer) : Option BitBuffer := do
  let numBits := buf.getLenRemaining
  let buf ← scrambLoop numBits lfsrInit buf
  some (buf.seekBack numBits)

@[simp] theorem length_tetraScrambGetBits (lfsrInit : BitVec 32) (count : Nat) :
    (tetraScrambGetBits lfsrInit count).length = count := by
  induction count generalizing lfsrInit with
  | zero => rfl
  | succ count ih => simp [tetraScrambGetBits, ih]

def scrambled (code : BitVec 32) (block : List Bool) : List Bool :=
  List.zipWith xor block (tetraScrambGetBits code block.length)

@[simp] theorem length_scrambled (code : BitVec 32) (block : List Bool) :
    (scrambled code block).length = block.length := by
  simp [scrambled]

theorem getElem?_scrambled (code : BitVec 32) (block : List Bool) (place : Nat) :
    (scrambled code block)[place]?
      = (block[place]?).map (xor · ((tetraScrambGetBits code block.length)[place]?.getD false)) := by
  rw [scrambled, getElem?_zipWith]
  by_cases inside : place < block.length
  · rw [getElem?_eq_getElem inside, getElem?_eq_getElem (by rwa [length_tetraScrambGetBits])]
    rfl
  · rw [getElem?_eq_none (not_lt.mp inside)]
    rfl

/-- **Scrambling twice with one code gives the block back.** -/
theorem scrambled_scrambled (code : BitVec 32) (block : List Bool) :
    scrambled code (scrambled code block) = block := by
  apply List.ext_getElem?
  intro place
  rw [getElem?_scrambled, getElem?_scrambled]
  cases block[place]? with
  | none => rfl
  | some bit => simp

theorem AgreeOff.scrambled {place : Nat} {first second : List Bool}
    (agree : Moves.AgreeOff place first second) (code : BitVec 32) :
    Moves.AgreeOff place (scrambled code first) (scrambled code second) := by
  refine ⟨by rw [length_scrambled, length_scrambled, agree.1], fun other differs => ?_⟩
  rw [getElem?_scrambled, getElem?_scrambled, agree.1, agree.2 other differs]

theorem scrambLoop_eq (front bits : List Bool) (code : BitVec 32) :
    scrambLoop bits.length code ⟨front ++ bits, 0, front.length, front.length + bits.length⟩
      = some ⟨front ++ scrambled code bits, 0, front.length + bits.length,
          front.length + bits.length⟩ := by
  induction bits generalizing front code with
  | nil => simp [scrambLoop, scrambled]
  | cons bit bits ih =>
    have step : (⟨front ++ bit :: bits, 0, front.length, front.length + (bits.length + 1)⟩ :
        BitBuffer).xorBit (nextLfsrBit code).1
        = some ⟨(front ++ [bit ^^ (nextLfsrBit code).1]) ++ bits, 0,
            (front ++ [bit ^^ (nextLfsrBit code).1]).length,
            (front ++ [bit ^^ (nextLfsrBit code).1]).length + bits.length⟩ := by
      simp [xorBit, unread, put, drop_append]
      omega
    rw [length_cons, scrambLoop, step]
    have rest := ih (front ++ [bit ^^ (nextLfsrBit code).1]) (nextLfsrBit code).2
    simp only [bind_eq_bind, bind_some]
    rw [rest]
    simp [scrambled, tetraScrambGetBits]
    omega

/-- **A block is added to the scrambling sequence from end to end.** -/
theorem tetraScrambBits_ofBits (code : BitVec 32) (block : List Bool) :
    tetraScrambBits code (.ofBits block) = some (.ofBits (scrambled code block)) := by
  have loop := scrambLoop_eq [] block code
  simp only [nil_append, length_nil, Nat.zero_add] at loop
  unfold tetraScrambBits
  simp only [getLenRemaining, ofBits, Nat.sub_zero, bind_eq_bind]
  rw [loop, bind_some, seekBack]
  simp

end Bluestation.Scrambler
