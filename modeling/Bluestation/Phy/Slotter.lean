/-
**Phase adjustment of the downlink bursts.**

Two symbols of a burst are there to bring the phase back: each is looked up from the sum of the phase
steps of a window of the burst. The table that is searched has the bits of two steps exchanged.

* `buildNdb`, `buildSdb` — a normal and a synchronization burst, from their blocks.
* `phase_closed_iff` — **a window is closed exactly if the parity of its ones is right.**
-/

import Bluestation.Lmac.DownlinkSlot

namespace Bluestation.Slotter

open Bits DownlinkSlot

/-- `buffer[start..start + bits.len()].copy_from_slice(bits)`. -/
def copyFromSlice (buffer : List Bool) (slice : Nat × List Bool) : List Bool :=
  buffer.take slice.1 ++ slice.2 ++ buffer.drop (slice.1 + slice.2.length)

/-! ### Phases -/

inductive PhaseAdjustBits where
  | HA | HB | HC | HD

/-- The first and the last symbol of each window, counted from 1. -/
def PHASE_ADJ : PhaseAdjustBits → Nat × Nat
  | .HA => (8, 122)
  | .HB => (123, 249)
  | .HC => (8, 108)
  | .HD => (109, 249)

def window (bits : List Bool) (pan : PhaseAdjustBits) : List Bool :=
  let (n1, n2) := PHASE_ADJ pan
  (bits.drop ((n1 - 1) * 2)).take ((n2 - n1 + 1) * 2)

def calcPhaseAdj (phase : Int) : Int :=
  let adjPhase := -phase.tmod 8
  if adjPhase > 3 then adjPhase - 8 else if adjPhase < -3 then adjPhase + 8 else adjPhase

def BITS2PHASE : List Int := [1, -1, 3, -3]

def PHASE2BITS : List (Int × List Bool) :=
  [(-3, [true, true]), (0, [false, false]), (-1, [false, true]), (0, [false, false]),
    (1, [false, false]), (3, [true, false])]

/-- The sum of the steps of the symbols, two bits each. -/
def sumUpPhase (step : Bool → Bool → Int) : List Bool → Int
  | bit0 :: bit1 :: bits => step bit0 bit1 + sumUpPhase step bits
  | _ => 0

def computePhaseAdjBits (bits : List Bool) (pan : PhaseAdjustBits) : Option (List Bool) :=
  let adj := calcPhaseAdj (sumUpPhase (fun bit0 bit1 =>
    BITS2PHASE.getD (bit0.toNat + 2 * bit1.toNat) 0) (window bits pan))
  (PHASE2BITS.find? (·.1 = adj)).map (·.2)

/-! ### Bursts -/

def n := bitsOf 22 0b1101000011101001110100
def p := bitsOf 22 0b0111101001000011011110
def q := bitsOf 22 0b1011011100000110101101
def y := bitsOf 38 0b11000001100111001110100111000001100111
def f := bitsOf 80 0xFF0000000000000000FF

@[simp] theorem length_q : q.length = 22 := length_bitsOf _ _
@[simp] theorem length_y : y.length = 38 := length_bitsOf _ _
@[simp] theorem length_f : f.length = 80 := length_bitsOf _ _

/-- Both builders end so: the adjustment symbols are computed, and placed. -/
def adjusted (type5 : List Bool) (first second : PhaseAdjustBits) : Option (List Bool) := do
  let fc1 ← computePhaseAdjBits type5 first
  let fc2 ← computePhaseAdjBits type5 second
  some (copyFromSlice (copyFromSlice type5 (12, fc1)) (498, fc2))

variable (trainSeq : TrainingSequence) (training : List Bool) (blk1 : Vector Bool 216)
  (sb1 : Vector Bool 120) (bbk : Vector Bool 30) (blk2 : Vector Bool 216)

def sdbBits : List Bool :=
  [(0, q.drop 10), (14, f), (94, sb1.toList), (214, y), (252, bbk.toList), (282, blk2.toList),
    (500, q.take 10)].foldl copyFromSlice (List.replicate 510 false)

def buildSdb : Option (List Bool) :=
  adjusted (sdbBits sb1 bbk blk2) .HC .HD

def trainingBits : TrainingSequence → Option (List Bool)
  | .normalTrainSeq1 => some n
  | .normalTrainSeq2 => some p
  | _ => none

def ndbBits : List Bool :=
  [(0, q.drop 10), (14, blk1.toList), (230, bbk.toList.take 14), (244, training),
    (266, bbk.toList.drop 14), (282, blk2.toList), (500, q.take 10)].foldl copyFromSlice
      (List.replicate 510 false)

def buildNdb : Option (List Bool) :=
  (trainingBits trainSeq).bind fun training => adjusted (ndbBits training blk1 bbk blk2) .HA .HB

/-! ### The modulator -/

/-- What the mapper of the modulator adds to its phase for a symbol. -/
def mapperStep : Bool → Bool → Int
  | true, true => -3
  | true, false => -1
  | false, false => 1
  | false, true => 3

/-- The symbols of a window and the symbol at `place` bring the phase back. -/
def Closes (burst : List Bool) (pan : PhaseAdjustBits) (place : Nat) : Prop :=
  8 ∣ sumUpPhase mapperStep (window burst pan) + sumUpPhase mapperStep ((burst.drop place).take 2)

theorem sumUpPhase_emod : ∀ bits : List Bool, bits.length % 2 = 0 →
    sumUpPhase mapperStep bits % 4 = (bits.length / 2 + 2 * bits.count true : Nat) % 4
  | [], _ => rfl
  | [_], odd => nomatch odd
  | bit0 :: bit1 :: bits, even => by
    have step : ∀ a b, mapperStep a b % 4 = (1 + 2 * [a, b].count true : Nat) % 4 := by decide
    have rest := sumUpPhase_emod bits (by simp only [List.length_cons] at even; omega)
    have here := step bit0 bit1
    rw [sumUpPhase, show bit0 :: bit1 :: bits = [bit0, bit1] ++ bits from rfl, List.count_append,
      List.length_append, List.length_cons, List.length_singleton]
    omega

/-- **The symbol that is found closes the window when the phase is 3 modulo 4**, and only then. -/
theorem computePhaseAdjBits_closes {bits : List Bool} {pan : PhaseAdjustBits}
    (odd : sumUpPhase mapperStep (window bits pan) % 2 = 1) :
    ∃ fc, computePhaseAdjBits bits pan = some fc ∧ fc.length = 2 ∧
      (8 ∣ sumUpPhase mapperStep (window bits pan) + sumUpPhase mapperStep fc ↔
        sumUpPhase mapperStep (window bits pan) % 4 = 3) := by
  have same : (fun a b : Bool => BITS2PHASE.getD (a.toNat + 2 * b.toNat) 0) = mapperStep := by
    funext a b
    cases a <;> cases b <;> rfl
  rw [computePhaseAdjBits, same]
  generalize sumUpPhase mapperStep (window bits pan) = phase at odd ⊢
  have adj : (calcPhaseAdj phase = -3 ∧ phase % 8 = 3) ∨ (calcPhaseAdj phase = -1 ∧ phase % 8 = 1) ∨
      (calcPhaseAdj phase = 1 ∧ phase % 8 = 7) ∨ (calcPhaseAdj phase = 3 ∧ phase % 8 = 5) := by
    have whole := Int.tmod_add_mul_tdiv phase 8
    have below := Int.tmod_lt_of_pos phase (show 0 < 8 by decide)
    have above := Int.lt_tmod_of_pos phase (show 0 < 8 by decide)
    rw [calcPhaseAdj]
    split_ifs <;> omega
  rcases adj with ⟨adj, eighth⟩ | ⟨adj, eighth⟩ | ⟨adj, eighth⟩ | ⟨adj, eighth⟩ <;> rw [adj]
  all_goals refine ⟨_, rfl, rfl, ?_⟩; simp only [sumUpPhase, mapperStep]; omega

attribute [local simp] List.drop_append List.take_append List.drop_of_length_le
  List.take_of_length_le

def blank : List Bool := List.replicate 2 false

def framed (fc1 bits fc2 : List Bool) : List Bool := q.drop 10 ++ fc1 ++ bits ++ fc2 ++ q.take 10

/-- A window within the bits between the adjustment symbols. -/
def inner (bits : List Bool) (pan : PhaseAdjustBits) : List Bool :=
  (bits.drop (((PHASE_ADJ pan).1 - 1) * 2 - 14)).take (((PHASE_ADJ pan).2 - (PHASE_ADJ pan).1 + 1) * 2)

theorem window_framed {fc1 fc2 bits : List Bool} (two : fc1.length = 2) (length : bits.length = 484)
    (pan : PhaseAdjustBits) : window (framed fc1 bits fc2) pan = inner bits pan := by
  cases pan <;> simp [window, inner, framed, PHASE_ADJ, two, length]

/-- The windows lie between the adjustment symbols, so that placing these changes neither. -/
theorem adjusted_framed {bits : List Bool} (length : bits.length = 484)
    (first second : PhaseAdjustBits) :
    ∃ fc1 fc2, adjusted (framed blank bits blank) first second =
        some (framed fc1 bits fc2) ∧ fc1.length = 2 ∧ fc2.length = 2 ∧
      (Closes (framed fc1 bits fc2) first 12 ↔
        ((inner bits first).length / 2 + 2 * (inner bits first).count true) % 4 = 3) ∧
      (Closes (framed fc1 bits fc2) second 498 ↔
        ((inner bits second).length / 2 + 2 * (inner bits second).count true) % 4 = 3) := by
  have known : ∀ pan, ∃ fc, computePhaseAdjBits (framed blank bits blank) pan = some fc ∧
      fc.length = 2 ∧ (8 ∣ sumUpPhase mapperStep (inner bits pan) + sumUpPhase mapperStep fc ↔
        ((inner bits pan).length / 2 + 2 * (inner bits pan).count true) % 4 = 3) := by
    intro pan
    have symbols : (inner bits pan).length % 4 = 2 := by
      cases pan <;> simp [inner, PHASE_ADJ, length]
    have parity := sumUpPhase_emod (inner bits pan) (by omega)
    rw [← @window_framed blank blank bits rfl length] at parity symbols ⊢
    obtain ⟨fc, found, two, closes⟩ := @computePhaseAdjBits_closes
      (framed blank bits blank) pan (by omega)
    exact ⟨fc, found, two, closes.trans (by omega)⟩
  obtain ⟨fc1, found1, two1, closes1⟩ := known first
  obtain ⟨fc2, found2, two2, closes2⟩ := known second
  have place1 : ((framed fc1 bits fc2).drop 12).take 2 = fc1 := by simp [framed, two1]
  have place2 : ((framed fc1 bits fc2).drop 498).take 2 = fc2 := by
    simp [framed, two1, two2, length]
  refine ⟨fc1, fc2, ?_, two1, two2, ?_, ?_⟩
  · rw [adjusted, found1, found2]
    simp [copyFromSlice, framed, blank, two1, two2, length]
  · rw [Closes, window_framed two1 length, place1, closes1]
  · rw [Closes, window_framed two1 length, place2, closes2]

/-! ### The bursts -/

def ndbData : List Bool :=
  blk1.toList ++ bbk.toList.take 14 ++ training ++ bbk.toList.drop 14 ++ blk2.toList

def sdbData : List Bool :=
  f ++ sb1.toList ++ y ++ bbk.toList ++ blk2.toList

/-- **A window is closed exactly if the parity of its ones is right.** Every burst is built, and every
given bit is in its place. -/
theorem phase_closed_iff :
    (∀ training ∈ trainingBits trainSeq, ∃ fc1 fc2, fc1.length = 2 ∧ fc2.length = 2 ∧
      let burst := framed fc1 (ndbData training blk1 bbk blk2) fc2
      buildNdb trainSeq blk1 bbk blk2 = some burst ∧
      (Closes burst .HA 12 ↔ Even ((blk1.toList ++ bbk.toList.take 14).count true)) ∧
      (Closes burst .HB 498 ↔ Even ((training ++ bbk.toList.drop 14 ++ blk2.toList).count true))) ∧
    ∃ fc1 fc2, fc1.length = 2 ∧ fc2.length = 2 ∧
      let burst := framed fc1 (sdbData sb1 bbk blk2) fc2
      buildSdb sb1 bbk blk2 = some burst ∧
      (Closes burst .HC 12 ↔ Odd (sb1.toList.count true)) ∧
      (Closes burst .HD 498 ↔ Even ((bbk.toList ++ blk2.toList).count true)) := by
  constructor
  · intro training is
    have length : training.length = 22 := by
      cases trainSeq <;> cases is <;> rfl
    have placed : ndbBits training blk1 bbk blk2 =
        framed blank (ndbData training blk1 bbk blk2) blank := by
      simp [ndbBits, ndbData, copyFromSlice, framed, blank, length, -List.reduceReplicate]
    obtain ⟨fc1, fc2, built, two1, two2, first, second⟩ :=
      @adjusted_framed (ndbData training blk1 bbk blk2) (by simp [ndbData, length]) .HA .HB
    refine ⟨fc1, fc2, two1, two2, ?_, first.trans ?_, second.trans ?_⟩
    · rw [buildNdb, is, Option.bind_some, placed, built]
    · simp [inner, ndbData, PHASE_ADJ, Nat.even_iff]
      omega
    · simp [inner, ndbData, PHASE_ADJ, length, Nat.even_iff]
      omega
  · have placed : sdbBits sb1 bbk blk2 = framed blank (sdbData sb1 bbk blk2) blank := by
      simp [sdbBits, sdbData, copyFromSlice, framed, blank, -List.reduceReplicate]
    obtain ⟨fc1, fc2, built, two1, two2, first, second⟩ :=
      @adjusted_framed (sdbData sb1 bbk blk2) (by simp [sdbData]) .HC .HD
    have ones : f.count true = 16 ∧ (y.take 2).count true = 2 ∧ (y.drop 2).count true = 17 := by decide
    refine ⟨fc1, fc2, two1, two2, by rw [buildSdb, placed, built], first.trans ?_, second.trans ?_⟩
    · simp [inner, sdbData, PHASE_ADJ, ones, Nat.odd_iff]
      omega
    · simp [inner, sdbData, PHASE_ADJ, ones, Nat.even_iff]
      omega

/-- **With zeros in all blocks the first window of a synchronization burst is not closed.** -/
theorem zeros_not_closed : ¬ ∀ burst ∈ buildSdb (.replicate 120 false) (.replicate 30 false)
    (.replicate 216 false), Closes burst .HC 12 ∧ Closes burst .HD 498 := by
  unfold Closes
  decide +kernel

end Bluestation.Slotter
