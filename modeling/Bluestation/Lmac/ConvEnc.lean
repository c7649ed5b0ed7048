/-
**Convolutional encoders and puncturing.**

Two encoders of one register length, for control channels and for speech, and the puncturing that
keeps some places of every period of their output.

* `Puncturer.Regular` — the tables in which no place of a period is kept twice.
* `depunct_present`, `depunct_punctured` — depuncturing gives the kept bits back in their places, and
  nothing elsewhere.
-/

import Bluestation.Lmac.Interleaver

namespace Bluestation.ConvEnc

open Moves List Function Nat

/-! ### Encoders -/

/-- The last four bits that went in, newest first. -/
structure Delayed where
  d0 : Bool
  d1 : Bool
  d2 : Bool
  d3 : Bool
deriving DecidableEq, Fintype

def Delayed.new : Delayed := ⟨false, false, false, false⟩

/-- What an encoder makes of one bit. -/
abbrev EncodeBit := Delayed → Bool → List Bool × Delayed

def ConvEncState.encodeBit : EncodeBit := fun ⟨d0, d1, d2, d3⟩ bit =>
  let g1 := bit ^^ d0 ^^ d3
  let g2 := bit ^^ d1 ^^ d2 ^^ d3
  let g3 := bit ^^ d0 ^^ d1 ^^ d3
  let g4 := bit ^^ d0 ^^ d2 ^^ d3
  ([g1, g2, g3, g4], ⟨bit, d0, d1, d2⟩)

def SpeechConvEncState.encodeBit : EncodeBit := fun ⟨d0, d1, d2, d3⟩ bit =>
  let g1 := bit ^^ d0 ^^ d1 ^^ d2 ^^ d3
  let g2 := bit ^^ d0 ^^ d2 ^^ d3
  let g3 := bit ^^ d1 ^^ d3
  ([g1, g2, g3], ⟨bit, d0, d1, d2⟩)

/-- The output for a run of bits, and the encoder after it. -/
def encodeBits (encodeBit : EncodeBit) : Delayed → (input : List Bool) → List Bool × Delayed
  | state, [] => ([], state)
  | state, bit :: input =>
    let (out, later) := encodeBit state bit
    let (more, last) := encodeBits encodeBit later input
    (out ++ more, last)

/-- Write the output for a run of bits to the front of an array that has room for it. -/
def encode (encodeBit : EncodeBit) (rate : Nat) (state : Delayed) (input output : List Bool) :
    Option (List Bool × Delayed) :=
  if input.length * rate ≤ output.length then
    let (out, later) := encodeBits encodeBit state input
    some (out ++ output.drop (input.length * rate), later)
  else none

def ConvEncState.encode := ConvEnc.encode ConvEncState.encodeBit 4

def SpeechConvEncState.encode := ConvEnc.encode SpeechConvEncState.encodeBit 3

/-- **The encoder goes on where it stopped.** -/
theorem encodeBits_append (encodeBit : EncodeBit) (state : Delayed) (first second : List Bool) :
    encodeBits encodeBit state (first ++ second) = ((encodeBits encodeBit state first).1
          ++ (encodeBits encodeBit (encodeBits encodeBit state first).2 second).1,
        (encodeBits encodeBit (encodeBits encodeBit state first).2 second).2) := by
  induction first generalizing state with
  | nil => rfl
  | cons bit first ih => simp [encodeBits, ih]

theorem length_encodeBits {encodeBit : EncodeBit} {rate : Nat}
    (width : ∀ state bit, (encodeBit state bit).1.length = rate) (state : Delayed)
    (input : List Bool) : (encodeBits encodeBit state input).1.length = input.length * rate := by
  induction input generalizing state with
  | nil => simp [encodeBits]
  | cons bit input ih =>
    simp only [encodeBits, length_append, width, ih, length_cons]
    ring

/-! ### Puncturing -/

/-- Puncturing rates. -/
inductive RcpcPunctMode where
  | rate2_3
  | rate1_3
  | rate292_432
  | rate148_432
  | rate112_168
  | rate72_162
  | rate38_81

def i292 (j : Nat) : Nat := j + (j - 1) / 65

def i148 (j : Nat) : Nat := j + (j - 1) / 35

/-- Of every `period` bits of the mother code, `t` are kept: those that `p` lists, counted from one
in both directions. -/
structure Puncturer where
  p : List Nat
  t : Nat
  period : Nat
  iFunc : Nat → Nat

def P_RATE2_3 : List Nat := [0, 1, 2, 5]

def P_RATE1_3 : List Nat := [0, 1, 2, 3, 5, 6, 7]

def P_RATE8_12 : List Nat := [0, 1, 2, 4]

def P_RATE8_18 : List Nat := [0, 1, 2, 3, 4, 5, 7, 8, 10, 11]

def P_RATE8_17 : List Nat := [0, 1, 2, 3, 4, 5, 7, 8, 10, 11, 13, 14, 16, 17, 19, 20, 22, 23]

def getPuncturer : RcpcPunctMode → Puncturer
  | .rate2_3 => ⟨P_RATE2_3, 3, 8, id⟩
  | .rate1_3 => ⟨P_RATE1_3, 6, 8, id⟩
  | .rate292_432 => ⟨P_RATE2_3, 3, 8, i292⟩
  | .rate148_432 => ⟨P_RATE1_3, 6, 8, i148⟩
  | .rate112_168 => ⟨P_RATE8_12, 3, 6, id⟩
  | .rate72_162 => ⟨P_RATE8_18, 9, 12, id⟩
  | .rate38_81 => ⟨P_RATE8_17, 17, 24, id⟩

namespace Puncturer

/-- The place in the mother code, counted from one, of the `j`-th punctured bit. -/
def place (puncturer : Puncturer) (j : Nat) : Nat :=
  let i := puncturer.iFunc j
  let blk := (i - 1) / puncturer.t
  let idx := i - puncturer.t * blk
  puncturer.period * blk + puncturer.p.getD idx 0

/-- The copies from the mother code to the first `len` punctured bits. -/
def moves (puncturer : Puncturer) (len : Nat) : List (Nat × Nat) :=
  (List.range len).map fun j => (puncturer.place (j + 1) - 1, j)

end Puncturer

def getPuncturedRate {α : Type} (pu : RcpcPunctMode) (input output : List α) : Option (List α) :=
  move input ((getPuncturer pu).moves output.length) output

/-- Copy the first `len` punctured bits to their places in the mother code. -/
def tetraRcpcDepunct {α : Type} (pu : RcpcPunctMode) (input : List α) (len : Nat)
    (output : List α) : Option (List α) :=
  move input (((getPuncturer pu).moves len).map Prod.swap) output

namespace Puncturer

/-- **The table keeps no place of a period twice**, and is not stretched. -/
structure Regular (puncturer : Puncturer) : Prop where
  straight : puncturer.iFunc = id
  positive : 0 < puncturer.t
  full : puncturer.p.length = puncturer.t + 1
  inPeriod : ∀ place ∈ puncturer.p.tail, 0 < place ∧ place ≤ puncturer.period
  once : puncturer.p.tail.Nodup

/-- Whether a place of the mother code, counted from zero, is kept. -/
def keeps (puncturer : Puncturer) (place : Nat) : Bool :=
  puncturer.p.tail.contains (place % puncturer.period + 1)

namespace Regular

variable {puncturer : Puncturer} (regular : puncturer.Regular)
include regular

theorem getElem_tail_lt (j : Nat) : j % puncturer.t < puncturer.p.tail.length := by
  rw [length_tail, regular.full]
  exact mod_lt _ regular.positive

theorem place_eq (j : Nat) (inTable : j % puncturer.t < puncturer.p.tail.length) :
    puncturer.place (j + 1) - 1 = j / puncturer.t * puncturer.period
        + (puncturer.p.tail[j % puncturer.t] - 1) := by
  have entry : puncturer.p.getD (j + 1 - puncturer.t * (j / puncturer.t)) 0
      = puncturer.p.tail[j % puncturer.t] := by
    have index : j + 1 - puncturer.t * (j / puncturer.t) = j % puncturer.t + 1 := by
      have := mod_add_div j puncturer.t
      omega
    rw [index, getElem_tail, getD_eq_getElem?_getD, getElem?_eq_getElem]
    rfl
  have listed := regular.inPeriod _ (getElem_mem inTable)
  unfold place
  simp only [regular.straight, id_eq, Nat.add_sub_cancel, entry]
  rw [Nat.add_sub_assoc listed.1, Nat.mul_comm]

theorem exists_place {count place : Nat} (inside : place < count * puncturer.period)
    (kept : puncturer.keeps place = true) :
    ∃ j < count * puncturer.t, puncturer.place (j + 1) - 1 = place := by
  obtain ⟨index, indexLt, entry⟩ := getElem_of_mem (contains_iff_mem.mp kept)
  have indexIn : index < puncturer.t := by
    rwa [length_tail, regular.full, Nat.add_sub_cancel] at indexLt
  have block : place / puncturer.period < count :=
    (div_lt_iff_lt_mul (pos_of_ne_zero fun none => by simp [none] at inside)).mpr inside
  refine ⟨place / puncturer.period * puncturer.t + index, Interleaver.cell_lt block indexIn, ?_⟩
  have row : (place / puncturer.period * puncturer.t + index) / puncturer.t
      = place / puncturer.period := by
    rw [mul_comm, mul_add_div regular.positive, div_eq_of_lt indexIn, add_zero]
  have column : (place / puncturer.period * puncturer.t + index) % puncturer.t = index := by
    rw [mul_comm, mul_add_mod, mod_eq_of_lt indexIn]
  rw [regular.place_eq _ (regular.getElem_tail_lt _), row]
  simp only [column, entry]
  exact div_add_mod' place puncturer.period

theorem keeps_place (j : Nat) : puncturer.keeps (puncturer.place (j + 1) - 1) = true := by
  have listed := regular.inPeriod _ (getElem_mem (regular.getElem_tail_lt j))
  rw [keeps, regular.place_eq j (regular.getElem_tail_lt j), mul_comm, mul_add_mod, mod_eq_of_lt (by omega),
    Nat.sub_add_cancel listed.1]
  exact contains_iff_mem.mpr (getElem_mem _)

theorem place_lt {count j : Nat} (inside : j < count * puncturer.t) :
    puncturer.place (j + 1) - 1 < count * puncturer.period := by
  have listed := regular.inPeriod _ (getElem_mem (regular.getElem_tail_lt j))
  rw [regular.place_eq j (regular.getElem_tail_lt j)]
  exact Interleaver.cell_lt ((div_lt_iff_lt_mul regular.positive).mpr inside) (by omega)

/-- **No two punctured bits come from one place.** -/
theorem oneToOne (len : Nat) : OneToOne (puncturer.moves len) := by
  constructor
  · unfold moves
    rw [map_map]
    refine .map_on ?_ nodup_range
    intro first _ second _ same
    have firstIn := regular.getElem_tail_lt first
    have secondIn := regular.getElem_tail_lt second
    rw [comp_apply, comp_apply, regular.place_eq first firstIn,
      regular.place_eq second secondIn] at same
    have listed := regular.inPeriod _ (getElem_mem (regular.getElem_tail_lt first))
    have listed' := regular.inPeriod _ (getElem_mem (regular.getElem_tail_lt second))
    obtain ⟨rows, columns⟩ := Interleaver.cell_unique (by omega) (by omega) same
    have entries := (List.Nodup.getElem_inj_iff regular.once).mp
      (show puncturer.p.tail[first % puncturer.t] = puncturer.p.tail[second % puncturer.t] by omega)
    rw [← div_add_mod first puncturer.t, rows, entries, div_add_mod]
  · unfold moves
    simpa [comp_def] using nodup_range

theorem inside {count inputLength outputLength : Nat}
    (inputRoom : count * puncturer.period ≤ inputLength)
    (outputRoom : count * puncturer.t ≤ outputLength) :
    Inside inputLength outputLength (puncturer.moves (count * puncturer.t)) := by
  intro step member
  obtain ⟨j, inRange, rfl⟩ := mem_map.mp member
  rw [mem_range] at inRange
  exact ⟨(regular.place_lt inRange).trans_le inputRoom, inRange.trans_le outputRoom⟩

end Regular

end Puncturer

theorem depunct_other {α : Type} {pu : RcpcPunctMode} (regular : (getPuncturer pu).Regular)
    {len : Nat} {input output result : List α}
    (ran : tetraRcpcDepunct pu input len output = some result) {place : Nat}
    (left : (getPuncturer pu).keeps place = false) : result[place]? = output[place]? := by
  refine getElem?_move_other ran fun step member is => ?_
  obtain ⟨other, there, rfl⟩ := mem_map.mp member
  obtain ⟨j, -, rfl⟩ := mem_map.mp there
  have kept := regular.keeps_place j
  rw [show (getPuncturer pu).place (j + 1) - 1 = place from is, left] at kept
  exact Bool.false_ne_true kept

theorem depunct_place {α : Type} {pu : RcpcPunctMode} (regular : (getPuncturer pu).Regular)
    {len : Nat} {input output result : List α}
    (ran : tetraRcpcDepunct pu input len output = some result) {j : Nat} (inside : j < len) :
    result[(getPuncturer pu).place (j + 1) - 1]? = input[j]? := by
  have member : (j, (getPuncturer pu).place (j + 1) - 1)
      ∈ ((getPuncturer pu).moves len).map Prod.swap :=
    mem_map.mpr ⟨_, mem_map_of_mem (mem_range.mpr inside), rfl⟩
  exact getElem?_move ran (regular.oneToOne _).swap.onceTo member

section Depunct

variable {pu : RcpcPunctMode} {count size : Nat} {punctured : List Bool}
  {result : List (Option Bool)}

/-- **After depuncturing there is a bit in each place that is kept, and nothing elsewhere.** -/
theorem depunct_present (regular : (getPuncturer pu).Regular)
    (room : count * (getPuncturer pu).period ≤ size)
    (enough : count * (getPuncturer pu).t ≤ punctured.length)
    (ran : tetraRcpcDepunct pu (punctured.map some) (count * (getPuncturer pu).t)
      (List.replicate size none) = some result)
    {place : Nat} (inside : place < count * (getPuncturer pu).period) :
    result[place]?.map Option.isSome = some ((getPuncturer pu).keeps place) := by
  cases kept : (getPuncturer pu).keeps place with
  | true =>
    obtain ⟨j, jLt, rfl⟩ := regular.exists_place inside kept
    rw [depunct_place regular ran jLt, getElem?_map, getElem?_eq_getElem (jLt.trans_le enough)]
    rfl
  | false =>
    rw [depunct_other regular ran kept, getElem?_replicate_of_lt (inside.trans_le room)]
    rfl

/-- **Depuncturing gives the kept bits of the mother code back.** -/
theorem depunct_punctured (regular : (getPuncturer pu).Regular) {mother : List Bool}
    (room : count * (getPuncturer pu).period ≤ size)
    (same : ∀ j < count * (getPuncturer pu).t,
      punctured[j]? = mother[(getPuncturer pu).place (j + 1) - 1]?)
    (ran : tetraRcpcDepunct pu (punctured.map some) (count * (getPuncturer pu).t)
      (List.replicate size none) = some result)
    {place : Nat} (inside : place < count * (getPuncturer pu).period) {bit : Bool}
    (found : result[place]? = some (some bit)) : mother[place]? = some bit := by
  cases kept : (getPuncturer pu).keeps place with
  | true =>
    obtain ⟨j, jLt, rfl⟩ := regular.exists_place inside kept
    rw [depunct_place regular ran jLt, getElem?_map, same j jLt] at found
    simpa using found
  | false =>
    rw [depunct_other regular ran kept, getElem?_replicate_of_lt (inside.trans_le room)] at found
    simp at found

end Depunct

theorem rate2_3_regular : (getPuncturer .rate2_3).Regular := by
  refine ⟨rfl, ?_, ?_, ?_, ?_⟩ <;> decide

theorem rate112_168_regular : (getPuncturer .rate112_168).Regular := by
  refine ⟨rfl, ?_, ?_, ?_, ?_⟩ <;> decide

theorem rate72_162_regular : (getPuncturer .rate72_162).Regular := by
  refine ⟨rfl, ?_, ?_, ?_, ?_⟩ <;> decide

end Bluestation.ConvEnc
