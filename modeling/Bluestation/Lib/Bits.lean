/-
**Most-significant-first bit fields.**

A field of `width` bits is the list of its bits, most significant first. This file is about that
list alone: it names no buffer and no protocol.

* `bitsOf width value` — the field that carries `value`; a value too large for the field loses its
  upper bits.
* `valueOf bits` — the number a field reads as.
* `valueOf_bitsOf`, `valueOf_bitsOf_of_lt` — reading back what was written.
* `bitsOf_valueOf` — writing back what was read.
-/

import Mathlib.Tactic

namespace Bluestation.Bits

open Nat

/-- The low `width` bits of a value, most significant first. -/
def bitsOf : Nat → Nat → List Bool
  | 0, _ => []
  | width + 1, value => value.testBit width :: bitsOf width value

/-- The number a bit list reads as, most significant bit first. -/
def valueOf : List Bool → Nat
  | [] => 0
  | bit :: rest => bit.toNat * 2 ^ rest.length + valueOf rest

@[simp] theorem length_bitsOf (width value : Nat) : (bitsOf width value).length = width := by
  induction width with
  | zero => rfl
  | succ width ih => simp [bitsOf, ih]

theorem valueOf_lt (bits : List Bool) : valueOf bits < 2 ^ bits.length := by
  induction bits with
  | nil => simp [valueOf]
  | cons bit rest ih =>
    have top : bit.toNat * 2 ^ rest.length ≤ 2 ^ rest.length := by
      cases bit <;> simp
    simp only [valueOf, List.length_cons]
    omega

/-- **A field reads as the value it was written with, modulo its width.** -/
theorem valueOf_bitsOf (width value : Nat) : valueOf (bitsOf width value) = value % 2 ^ width := by
  induction width with
  | zero => simp [bitsOf, valueOf, mod_one]
  | succ width ih =>
    rw [bitsOf, valueOf, ih, length_bitsOf, mod_pow_succ, toNat_testBit]
    ring

theorem valueOf_bitsOf_of_lt {width value : Nat} (fits : value < 2 ^ width) :
    valueOf (bitsOf width value) = value := by
  rw [valueOf_bitsOf, mod_eq_of_lt fits]

theorem bitsOf_mod (width value : Nat) : bitsOf width (value % 2 ^ width) = bitsOf width value := by
  have each : ∀ narrow ≤ width, bitsOf narrow (value % 2 ^ width) = bitsOf narrow value := by
    intro narrow
    induction narrow with
    | zero => exact fun _ => rfl
    | succ narrow ih =>
      intro below
      rw [bitsOf, bitsOf, ih (by omega)]
      simp [show narrow < width by omega]
  exact each width le_rfl

theorem bitsOf_add_high (width value high : Nat) :
    bitsOf width (high * 2 ^ width + value) = bitsOf width value := by
  rw [← bitsOf_mod, mul_add_mod', bitsOf_mod]

/-- **A field written from the value it reads as is the same field.** -/
theorem bitsOf_valueOf (bits : List Bool) : bitsOf bits.length (valueOf bits) = bits := by
  induction bits with
  | nil => rfl
  | cons bit rest ih =>
    have below := valueOf_lt rest
    rw [List.length_cons, bitsOf, valueOf, bitsOf_add_high, ih]
    rw [testBit_eq_decide_div_mod_eq, mul_comm, mul_add_div (by positivity), div_eq_of_lt below]
    cases bit <;> rfl

end Bluestation.Bits
