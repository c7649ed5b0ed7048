/-
**Channel coding of the half slot beside a stolen one, and of the access assignment.**

When signalling steals the first half of a traffic slot, the second speech frame goes into the other
half with a code of its own. The block that assigns access is coded without one.

* `encodeTchSHalf_ok` — the half slot is encoded from every speech frame.
* `encodeAach_ok` — the access assignment is encoded from every 14 bits.
-/

import Bluestation.Lmac.SpeechChannel

namespace Bluestation.StolenSpeech

open Bits Moves ConvEnc ErrorControl SpeechChannel List

/-! ### The access assignment -/

def RM_30_14_ROWS_PRECOMPUTED : List (BitVec 30) :=
  [0x20009b60, 0x10002de0, 0x0800fc20, 0x0400e03c, 0x0200983a, 0x01005436, 0x00802c2e, 0x0040ffdf,
   0x00208339, 0x001042b5, 0x000821ad, 0x00041273, 0x0002096b, 0x000104e7]

def tetraRm3014Compute (input : List Bool) : BitVec 30 :=
  (input.zip RM_30_14_ROWS_PRECOMPUTED).foldl (fun val (bit, row) => if bit then val ^^^ row else val) 0

/-- Encode the access assignment from type-1 to type-5 bits. -/
def encodeAach (type1 : BitBuffer) (scramblingCode : BitVec 32) : Option BitBuffer := do
  guard (type1.getLenRemaining = 14)
  let type1Bits ← type1.toBitarr 14
  let type2 := tetraRm3014Compute type1Bits
  Scrambler.tetraScrambBits scramblingCode (.ofBits ((List.range 30).map type2.getMsbD))

theorem encodeAach_ok {type1 : BitBuffer} (scramblingCode : BitVec 32)
    (size : type1.getLenRemaining = 14) : ∃ type5, encodeAach type1 scramblingCode = some type5 := by
  unfold encodeAach
  have read : type1.toBitarr 14 = some (type1.unread.take 14) := by
    rw [BitBuffer.toBitarr, if_pos size.ge]
  simp only [size, read, Scrambler.tetraScrambBits_ofBits]
  exact ⟨_, rfl⟩

/-! ### One speech frame -/

def MAX_TYPE345_HALFSLOT_BITS : Nat := 216

/-- Select speech frame B; frame A is discarded. -/
def takeTchSFrameB (fullSpeech : BitBuffer) : Option BitBuffer := do
  guard (fullSpeech.getLen = 274)
  let frameB ← (fullSpeech.seek 137).toBitarr NUM_ACELP_BITS
  some (.ofBits frameB)

def frameMoves : List (Nat × Nat) :=
  CLASS_POS.zipIdx.map fun (position, index) => (position - 1, index)

def codecFrameToChannel (codecBits : List Bool) : Option (List Bool) :=
  move codecBits frameMoves (List.replicate NUM_ACELP_BITS false)

/-- One step of the division: a term of the dividend is taken away with the generator below it. -/
def stolenDivideStep (remainder : List Bool) (degree : Nat) : List Bool :=
  if remainder.getD degree false then
    ((remainder.modify degree (!·)).modify (degree - 3) (!·)).modify (degree - 4) (!·)
  else remainder

def stolenSpeechCrc (class2Bits : List Bool) : List Bool :=
  (((List.range 30).map fun i => 33 - i).foldl stolenDivideStep
    (List.replicate 4 false ++ class2Bits)).take 4

def STOLEN_CLASS0_BITS : Nat := 51

def STOLEN_CLASS1_BITS : Nat := 56

def STOLEN_CLASS2_BITS : Nat := 30

def STOLEN_CLASS2_TYPE2_BITS : Nat := 38

def STOLEN_CLASS1_TYPE3 : Nat := 84

def STOLEN_CLASS2_TYPE3 : Nat := 81

/-- Encode one speech frame from type-1 to type-5 bits. The register of the mother code goes on from
class 1 to class 2. -/
def encodeTchSHalf (speechFrameB : BitBuffer) (scramblingCode : BitVec 32) : Option BitBuffer := do
  guard (speechFrameB.getLen = NUM_ACELP_BITS)
  let codecBits ← (speechFrameB.seek 0).toBitarr NUM_ACELP_BITS
  let channelBits ← codecFrameToChannel codecBits
  let type3 ← copyFromSlice 0 (channelBits.take STOLEN_CLASS0_BITS)
    (List.replicate MAX_TYPE345_HALFSLOT_BITS false)
  let class1 := (channelBits.drop STOLEN_CLASS0_BITS).take STOLEN_CLASS1_BITS
  let (class1Mother, encoder) ← SpeechConvEncState.encode .new class1
    (List.replicate (STOLEN_CLASS1_BITS * 3) false)
  let class1Punctured ← getPuncturedRate .rate112_168 class1Mother
    (List.replicate STOLEN_CLASS1_TYPE3 false)
  let type3 ← copyFromSlice STOLEN_CLASS0_BITS class1Punctured type3
  let class2 := (channelBits.drop (STOLEN_CLASS0_BITS + STOLEN_CLASS1_BITS)).take STOLEN_CLASS2_BITS
  let class2Type2 ← copyFromSlice 0 class2 (List.replicate STOLEN_CLASS2_TYPE2_BITS false)
  let class2Type2 ← copyFromSlice STOLEN_CLASS2_BITS (stolenSpeechCrc class2) class2Type2
  let (class2Mother, _) ← SpeechConvEncState.encode encoder class2Type2
    (List.replicate (STOLEN_CLASS2_TYPE2_BITS * 3) false)
  let class2Punctured ← getPuncturedRate .rate38_81 class2Mother
    (List.replicate STOLEN_CLASS2_TYPE3 false)
  let type3 ← copyFromSlice (STOLEN_CLASS0_BITS + STOLEN_CLASS1_TYPE3) class2Punctured type3
  let type4 ← Interleaver.blockInterleave MAX_TYPE345_HALFSLOT_BITS 101 type3
    (List.replicate MAX_TYPE345_HALFSLOT_BITS false)
  Scrambler.tetraScrambBits scramblingCode (.ofBits type4)

/-! ### Every frame is encoded -/

theorem copyFromSlice_ok {α : Type} {offset : Nat} {slice array : List α}
    (fits : offset + slice.length ≤ array.length) :
    ∃ result, copyFromSlice offset slice array = some result ∧ result.length = array.length := by
  refine ⟨_, if_pos fits, ?_⟩
  simp only [length_append, length_take, length_drop]
  omega

theorem length_stolenDivide (degrees : List Nat) (remainder : List Bool) :
    (degrees.foldl stolenDivideStep remainder).length = remainder.length := by
  induction degrees generalizing remainder with
  | nil => rfl
  | cons degree degrees ih =>
    rw [foldl_cons, ih]
    unfold stolenDivideStep
    split <;> simp

theorem length_stolenSpeechCrc (class2Bits : List Bool) : (stolenSpeechCrc class2Bits).length = 4 := by
  unfold stolenSpeechCrc
  rw [length_take, length_stolenDivide, length_append, length_replicate]
  omega

theorem frameMoves_inside : Inside NUM_ACELP_BITS NUM_ACELP_BITS frameMoves := by
  unfold Inside
  decide +kernel

theorem stolen_moves_inside : Inside (STOLEN_CLASS1_BITS * 3) STOLEN_CLASS1_TYPE3
        ((getPuncturer .rate112_168).moves STOLEN_CLASS1_TYPE3) ∧
      Inside (STOLEN_CLASS2_TYPE2_BITS * 3) STOLEN_CLASS2_TYPE3
        ((getPuncturer .rate38_81).moves STOLEN_CLASS2_TYPE3) := by
  unfold Inside
  decide +kernel

theorem getPuncturedRate_ok {pu : RcpcPunctMode} {mother : List Bool} {len : Nat}
    (inside : Inside mother.length len ((getPuncturer pu).moves len)) :
    ∃ punctured, getPuncturedRate pu mother (List.replicate len false) = some punctured ∧
      punctured.length = len := by
  unfold getPuncturedRate
  rw [length_replicate]
  obtain ⟨punctured, ran, length⟩ := move_ok (show Inside mother.length
    (List.replicate len false).length _ by rwa [length_replicate])
  exact ⟨punctured, ran, by rw [length, length_replicate]⟩

theorem speechEncode_ok (state : Delayed) {input : List Bool} {room : Nat}
    (fills : input.length * 3 = room) :
    ∃ mother later, SpeechConvEncState.encode state input (List.replicate room false)
      = some (mother, later) ∧ mother.length = room := by
  rw [speech_encode state fills]
  refine ⟨_, _, rfl, ?_⟩
  rw [length_encodeBits three, fills]

/-- **Every speech frame is encoded into a half slot.** -/
theorem encodeTchSHalf_ok {speechFrameB : BitBuffer} (window : speechFrameB.Window)
    (scramblingCode : BitVec 32) (size : speechFrameB.getLen = NUM_ACELP_BITS) :
    ∃ type5, encodeTchSHalf speechFrameB scramblingCode = some type5 := by
  have codec := toBitarr_window window
  rw [size] at codec
  have codecLength := (length_windowBits window).trans size
  generalize windowBits speechFrameB = codecBits at codec codecLength
  obtain ⟨channelBits, reordered, channelLength⟩ := move_ok (show Inside codecBits.length
    (List.replicate NUM_ACELP_BITS false).length frameMoves by
      rw [codecLength]
      exact frameMoves_inside)
  rw [List.length_replicate] at channelLength
  -- the classes of the frame
  have class0 : (channelBits.take STOLEN_CLASS0_BITS).length = STOLEN_CLASS0_BITS := by
    rw [List.length_take, channelLength]
    rfl
  have class1 : ((channelBits.drop STOLEN_CLASS0_BITS).take STOLEN_CLASS1_BITS).length
      = STOLEN_CLASS1_BITS := by
    rw [List.length_take, List.length_drop, channelLength]
    rfl
  have class2 : ((channelBits.drop (STOLEN_CLASS0_BITS + STOLEN_CLASS1_BITS)).take
      STOLEN_CLASS2_BITS).length = STOLEN_CLASS2_BITS := by
    rw [List.length_take, List.length_drop, channelLength]
    rfl
  -- the array of type-3 bits, filled class by class, and the type-2 bits of class 2
  obtain ⟨filled0, fill0, length0⟩ := copyFromSlice_ok
    (show 0 + (channelBits.take STOLEN_CLASS0_BITS).length
      ≤ (List.replicate MAX_TYPE345_HALFSLOT_BITS false).length by
        rw [class0, List.length_replicate]; decide)
  obtain ⟨mother1, encoder, encode1, mother1Length⟩ := speechEncode_ok .new (congrArg (· * 3) class1)
  obtain ⟨punctured1, puncture1, punctured1Length⟩ :=
    getPuncturedRate_ok (show Inside mother1.length _ _ by
      rw [mother1Length]; exact stolen_moves_inside.1)
  rw [List.length_replicate] at length0
  obtain ⟨filled1, fill1, length1⟩ := copyFromSlice_ok
    (show STOLEN_CLASS0_BITS + punctured1.length ≤ filled0.length by
      rw [punctured1Length, length0]; decide)
  obtain ⟨data, store, dataLength⟩ := copyFromSlice_ok
    (show 0 + ((channelBits.drop (STOLEN_CLASS0_BITS + STOLEN_CLASS1_BITS)).take
        STOLEN_CLASS2_BITS).length ≤ (List.replicate STOLEN_CLASS2_TYPE2_BITS false).length by
      rw [class2]; decide)
  rw [List.length_replicate] at dataLength
  obtain ⟨checked, check, checkedLength⟩ := copyFromSlice_ok
    (show STOLEN_CLASS2_BITS + (stolenSpeechCrc ((channelBits.drop
        (STOLEN_CLASS0_BITS + STOLEN_CLASS1_BITS)).take STOLEN_CLASS2_BITS)).length ≤ data.length by
      rw [length_stolenSpeechCrc, dataLength]; decide)
  obtain ⟨mother2, _, encode2, mother2Length⟩ :=
    speechEncode_ok encoder (congrArg (· * 3) (checkedLength.trans dataLength))
  obtain ⟨punctured2, puncture2, punctured2Length⟩ :=
    getPuncturedRate_ok (show Inside mother2.length _ _ by
      rw [mother2Length]; exact stolen_moves_inside.2)
  obtain ⟨filled2, fill2, length2⟩ := copyFromSlice_ok
    (show STOLEN_CLASS0_BITS + STOLEN_CLASS1_TYPE3 + punctured2.length ≤ filled1.length by
      rw [punctured2Length, length1, length0]; decide)
  have room : MAX_TYPE345_HALFSLOT_BITS ≤ filled2.length ∧
      MAX_TYPE345_HALFSLOT_BITS ≤ (List.replicate MAX_TYPE345_HALFSLOT_BITS false).length := by
    rw [length2, length1, length0]
    exact ⟨le_rfl, le_rfl⟩
  have spread : Interleaver.Spread MAX_TYPE345_HALFSLOT_BITS 101 := ⟨by decide, by decide⟩
  obtain ⟨type4, ran, -⟩ := move_ok (spread.inside room.1 room.2)
  have interleaved : Interleaver.blockInterleave MAX_TYPE345_HALFSLOT_BITS 101 filled2
      (List.replicate MAX_TYPE345_HALFSLOT_BITS false) = some type4 := by
    rw [Interleaver.blockInterleave, if_pos room, ran]
  refine ⟨.ofBits (Scrambler.scrambled scramblingCode type4), ?_⟩
  unfold encodeTchSHalf codecFrameToChannel
  simp only [Option.bind_eq_bind, guard, size, if_true, Option.pure_def, Option.bind_some, codec,
    reordered, fill0, encode1, puncture1, fill1, store, check, encode2, puncture2, fill2,
    interleaved, Scrambler.tetraScrambBits_ofBits]

end Bluestation.StolenSpeech
