/-
**Block and matrix interleaving.**

Both interleavers copy every element of a block to a place of its own, so copying backwards restores
the block.

* `Spread.oneToOne` — for a multiplier coprime to the length, no two elements meet.
* `block_restored`, `matrix_restored` — deinterleaving restores what was interleaved.
-/

import Bluestation.Lib.Moves

namespace Bluestation.Interleaver

open Moves List Nat

variable {α : Type}

/-! ### Block interleaving -/

/-- The place, counted from one, that element `i` of a block of `k` goes to. -/
def blockInterlFunc (k a i : Nat) : Nat := 1 + (a * i % 2 ^ 32) % k

/-- The copies of the block interleaver: element `i - 1` to place `block_interl_func(k, a, i) - 1`. -/
def blockMoves (k a : Nat) : List (Nat × Nat) :=
  (List.range k).map fun i => (i, blockInterlFunc k a (i + 1) - 1)

def blockInterleave (k a : Nat) (input output : List α) : Option (List α) :=
  if k ≤ input.length ∧ k ≤ output.length then move input (blockMoves k a) output else none

def blockDeinterleave (k a : Nat) (input output : List α) : Option (List α) :=
  if k ≤ input.length ∧ k ≤ output.length then
    move input ((blockMoves k a).map Prod.swap) output
  else none

/-- The multiplier and the length are such that no two elements meet. -/
structure Spread (k a : Nat) : Prop where
  coprime : a.Coprime k
  small : a * k < 2 ^ 32

namespace Spread

variable {k a : Nat}

variable (spread : Spread k a)

include spread

theorem blockInterlFunc_eq {i : Nat} (inside : i < k) :
    blockInterlFunc k a (i + 1) - 1 = a * (i + 1) % k := by
  have small : a * (i + 1) < 2 ^ 32 := (mul_le_mul_left a inside).trans_lt spread.small
  rw [blockInterlFunc, Nat.mod_eq_of_lt small, Nat.add_sub_cancel_left]

theorem blockMoves_eq : blockMoves k a = (List.range k).map fun i => (i, a * (i + 1) % k) :=
  map_congr_left fun i member => by
    rw [spread.blockInterlFunc_eq (mem_range.mp member)]

/-- **A multiplier coprime to the length sends no two elements to one place.** -/
theorem oneToOne : OneToOne (blockMoves k a) := by
  rw [spread.blockMoves_eq]
  constructor
  · simpa [Function.comp_def] using nodup_range
  · rw [map_map]
    refine .map_on ?_ nodup_range
    intro first firstIn second secondIn same
    rw [mem_range] at firstIn secondIn
    have shifted : first + 1 ≡ second + 1 [MOD k] :=
      Nat.ModEq.cancel_left_of_coprime spread.coprime.symm same
    have equal : first ≡ second [MOD k] := Nat.ModEq.add_right_cancel' 1 shifted
    rwa [Nat.ModEq, mod_eq_of_lt firstIn, mod_eq_of_lt secondIn] at equal

theorem inside {inputLength outputLength : Nat} (inputRoom : k ≤ inputLength)
    (outputRoom : k ≤ outputLength) : Inside inputLength outputLength (blockMoves k a) := by
  rw [spread.blockMoves_eq]
  intro step member
  obtain ⟨i, inRange, rfl⟩ := mem_map.mp member
  rw [mem_range] at inRange
  exact ⟨by omega, lt_of_lt_of_le (mod_lt _ (by omega)) outputRoom⟩

end Spread

variable {input between output result back : List α}

/-- **Block deinterleaving restores what was interleaved.** -/
theorem block_restored {k a : Nat}
    (spread : Spread k a) (there : blockInterleave k a input between = some result)
    (again : blockDeinterleave k a result output = some back) {place : Nat} (inside : place < k) :
    back[place]? = input[place]? := by
  unfold blockInterleave at there
  unfold blockDeinterleave at again
  split at there
  · split at again
    · have member : (place, blockInterlFunc k a (place + 1) - 1) ∈ blockMoves k a :=
        mem_map_of_mem (mem_range.mpr inside)
      exact move_back spread.oneToOne there again member
    · cases again
  · cases there

/-! ### Matrix interleaving -/

/-- The copies of the matrix interleaver: written by lines, read by columns. -/
def matrixMoves (lines columns : Nat) : List (Nat × Nat) :=
  ((List.range columns).product (List.range lines)).map fun (i, j) =>
    (j * columns + i, i * lines + j)

def matrixInterleave (lines columns : Nat) (input output : List α) : Option (List α) :=
  if lines * columns ≤ input.length ∧ lines * columns ≤ output.length then
    move input (matrixMoves lines columns) output
  else none

def matrixDeinterleave (lines columns : Nat) (input output : List α) : Option (List α) :=
  if lines * columns ≤ input.length ∧ lines * columns ≤ output.length then
    move input ((matrixMoves lines columns).map Prod.swap) output
  else none

theorem cell_unique {width row column row' column' : Nat} (inside : column < width)
    (inside' : column' < width) (same : row * width + column = row' * width + column') :
    row = row' ∧ column = column' := by
  have rows := congrArg (· / width) same
  have columns := congrArg (· % width) same
  simp only [mul_comm _ width, mul_add_div (by omega : 0 < width), mul_add_mod,
    div_eq_of_lt inside, div_eq_of_lt inside', mod_eq_of_lt inside,
    mod_eq_of_lt inside'] at rows columns
  exact ⟨rows, columns⟩

theorem matrixMoves_oneToOne (lines columns : Nat) : OneToOne (matrixMoves lines columns) := by
  have cells : ((List.range columns).product (List.range lines)).Nodup :=
    nodup_range.product nodup_range
  constructor
  · unfold matrixMoves
    rw [map_map]
    refine .map_on ?_ cells
    rintro ⟨i, j⟩ member ⟨i', j'⟩ member' same
    obtain ⟨inside, -⟩ := pair_mem_product.mp member
    obtain ⟨inside', -⟩ := pair_mem_product.mp member'
    obtain ⟨rfl, rfl⟩ := cell_unique (mem_range.mp inside) (mem_range.mp inside') same
    rfl
  · unfold matrixMoves
    rw [map_map]
    refine .map_on ?_ cells
    rintro ⟨i, j⟩ member ⟨i', j'⟩ member' same
    obtain ⟨-, inside⟩ := pair_mem_product.mp member
    obtain ⟨-, inside'⟩ := pair_mem_product.mp member'
    obtain ⟨rfl, rfl⟩ := cell_unique (mem_range.mp inside) (mem_range.mp inside') same
    rfl

theorem cell_lt {rows width row column : Nat} (rowIn : row < rows) (columnIn : column < width) :
    row * width + column < rows * width :=
  calc row * width + column < row * width + width := Nat.add_lt_add_left columnIn _
    _ = (row + 1) * width := (succ_mul row width).symm
    _ ≤ rows * width := mul_le_mul_right width rowIn

theorem matrixMoves_inside {lines columns inputLength outputLength : Nat}
    (inputRoom : lines * columns ≤ inputLength) (outputRoom : lines * columns ≤ outputLength) :
    Inside inputLength outputLength (matrixMoves lines columns) := by
  intro step member
  obtain ⟨⟨i, j⟩, there, rfl⟩ := mem_map.mp member
  obtain ⟨columnIn, lineIn⟩ := pair_mem_product.mp there
  rw [mem_range] at columnIn lineIn
  have target := cell_lt columnIn lineIn
  rw [mul_comm columns lines] at target
  exact ⟨(cell_lt lineIn columnIn).trans_le inputRoom, target.trans_le outputRoom⟩

/-- **Matrix deinterleaving restores what was interleaved.** -/
theorem matrix_restored {lines columns : Nat}
    (there : matrixInterleave lines columns input between = some result)
    (again : matrixDeinterleave lines columns result output = some back) {place : Nat}
    (inside : place < lines * columns) : back[place]? = input[place]? := by
  have positive : 0 < columns := pos_of_ne_zero fun none => by simp [none] at inside
  have cell : place / columns * columns + place % columns = place := div_add_mod' place columns
  have member : (place, place % columns * lines + place / columns) ∈ matrixMoves lines columns := by
    refine mem_map.mpr ⟨(place % columns, place / columns), ?_, by simp [cell]⟩
    refine pair_mem_product.mpr ⟨mem_range.mpr (mod_lt _ positive), ?_⟩
    exact mem_range.mpr ((div_lt_iff_lt_mul positive).mpr inside)
  unfold matrixInterleave at there
  unfold matrixDeinterleave at again
  split at there
  · split at again
    · exact move_back (matrixMoves_oneToOne lines columns) there again member
    · cases again
  · cases there

end Bluestation.Interleaver
