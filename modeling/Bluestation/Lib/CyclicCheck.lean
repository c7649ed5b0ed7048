/-
**Cyclic checks over single bits.**

A register is shifted by each bit, and the generator added where the bit differs from the one shifted
out. A generator that ends in a one makes this a division that forgets nothing.

* `foldl_feed_eq_iff` — up to the register's width, what was fed is added to what was held.
* `residue_burst` — **no error as short as the register passes, wherever it hits.**
-/

import Mathlib.Data.BitVec
import Mathlib.Data.List.GetD

namespace Bluestation.CyclicCheck

variable {width : Nat} {generator : BitVec width}

def feed (generator register : BitVec width) (bit : Bool) : BitVec width :=
  if bit ^^ register.msb then (register <<< 1) ^^^ generator else register <<< 1

theorem getMsbD_feed (register : BitVec width) (bit : Bool) (place : Nat) :
    (feed generator register bit).getMsbD place
      = (register.getMsbD (place + 1) ^^ ((bit ^^ register.msb) && generator.getMsbD place)) := by
  unfold feed
  cases bit ^^ register.msb <;> simp [BitVec.getMsbD_shiftLeft]

theorem foldl_feed_eq_iff (ends : generator.getMsbD (width - 1) = true) {fed fed' : List Bool}
    (sameLength : fed.length = fed'.length) (short : fed.length ≤ width)
    (register register' : BitVec width) :
    fed.foldl (feed generator) register = fed'.foldl (feed generator) register'
      ↔ ∀ place < width, (fed.getD place false ^^ register.getMsbD place)
          = (fed'.getD place false ^^ register'.getMsbD place) := by
  induction fed generalizing fed' register register' with
  | nil =>
    rw [List.length_eq_zero_iff.mp sameLength.symm]
    refine ⟨fun same place inside => by rw [show register = register' from same], fun same =>
      BitVec.eq_of_getMsbD_eq fun place inside => by simpa using same place inside⟩
  | cons bit fed ih =>
    obtain ⟨bit', fed', rfl⟩ := List.exists_cons_of_length_eq_add_one sameLength.symm
    have lengths : fed.length = fed'.length := Nat.succ.inj sameLength
    have roomy : fed.length < width := short
    have beyond {bits : List Bool} (is : bits.length < width) :
        bits.getD (width - 1) false = false :=
      List.getD_eq_default _ _ (Nat.le_sub_one_of_lt is)
    have out (register : BitVec width) : register.getMsbD (width - 1 + 1) = false := by
      simp [show width - 1 + 1 = width by omega]
    rw [List.foldl_cons, List.foldl_cons, ih lengths roomy.le]
    constructor
    · intro same place inside
      -- the last place has only what the generator adds to it
      have first := same (width - 1) (by omega)
      rw [beyond roomy, beyond (lengths ▸ roomy), getMsbD_feed, getMsbD_feed, out, out, ends] at first
      simp only [Bool.false_xor, Bool.and_true] at first
      cases place with
      | zero => simpa [BitVec.msb] using first
      | succ place =>
        have shifted := same place (by omega)
        rw [getMsbD_feed, getMsbD_feed, first, ← Bool.xor_assoc, ← Bool.xor_assoc, Bool.xor_left_inj] at shifted
        simpa using shifted
    · intro same place inside
      have first : (bit ^^ register.msb) = (bit' ^^ register'.msb) := by
        simpa [BitVec.msb] using same 0 (by omega)
      rw [getMsbD_feed, getMsbD_feed, first, ← Bool.xor_assoc, ← Bool.xor_assoc, Bool.xor_left_inj]
      rcases Nat.lt_or_ge (place + 1) width with more | last
      · simpa using same (place + 1) more
      · obtain rfl : place = width - 1 := by omega
        rw [beyond roomy, beyond (lengths ▸ roomy), out, out]

/-- What is fed afterwards never brings two registers together. -/
theorem foldl_feed_injective (ends : generator.getMsbD (width - 1) = true) (fed : List Bool) :
    Function.Injective fun register => fed.foldl (feed generator) register := by
  induction fed with
  | nil => exact fun _ _ same => same
  | cons bit fed ih =>
    intro register register' same
    have wide : 0 < width := by
      by_contra none
      simp [show width = 0 by omega] at ends
    have now :=
      (foldl_feed_eq_iff ends (rfl : [bit].length = [bit].length) wide register register').mp (ih same)
    exact BitVec.eq_of_getMsbD_eq fun place inside => by simpa using now place inside

/-- The bits of a register, complemented. -/
def complement (register : BitVec width) : List Bool :=
  List.ofFn fun place : Fin width => !register.getMsbD place

/-- Where as many ones as the register is wide take an empty one. -/
def residue (generator : BitVec width) : BitVec width :=
  (List.replicate width true).foldl (feed generator) 0

@[simp] theorem length_complement (register : BitVec width) :
    (complement register).length = width := List.length_ofFn

variable {register : BitVec width} {bits : List Bool}

/-- **What passes the check is a message with the complement of its register behind it.** -/
theorem residue_iff (ends : generator.getMsbD (width - 1) = true) {behind : List Bool}
    (full : behind.length = width) :
    (bits ++ behind).foldl (feed generator) register = residue generator
      ↔ behind = complement (bits.foldl (feed generator) register) := by
  rw [List.foldl_append, residue,
    foldl_feed_eq_iff ends (full.trans (List.length_replicate ..).symm) full.le]
  have one {place : Nat} (inside : place < width) :
      (List.replicate width true).getD place false = true := by simp [List.getD, inside]
  constructor
  · refine fun same => List.ext_getElem (by simp [full]) fun place inside inside' => ?_
    have now := same place (by omega)
    rw [one (by omega), List.getD_eq_getElem _ _ inside] at now
    simpa [complement, Bool.eq_not] using now
  · rintro rfl place inside
    rw [one inside, List.getD_eq_getElem _ _ (by simpa using inside)]
    simp [complement]

/-- **No error as short as the register passes the check, wherever it hits.** -/
theorem residue_burst (ends : generator.getMsbD (width - 1) = true)
    {before sent received after : List Bool}
    (block : bits ++ complement (bits.foldl (feed generator) register) = before ++ sent ++ after)
    (sameLength : sent.length = received.length) (short : sent.length ≤ width)
    (wrong : sent ≠ received) :
    (before ++ received ++ after).foldl (feed generator) register ≠ residue generator := by
  rw [← (residue_iff ends (length_complement _)).mpr rfl, block]
  simp only [List.foldl_append]
  intro same
  have fed := (foldl_feed_eq_iff ends sameLength short _ _).mp
    (foldl_feed_injective ends after same.symm)
  refine wrong (List.ext_getElem sameLength fun place inside inside' => ?_)
  have now := fed place (by omega)
  rwa [Bool.xor_left_inj, List.getD_eq_getElem _ _ inside, List.getD_eq_getElem _ _ inside'] at now

end Bluestation.CyclicCheck
