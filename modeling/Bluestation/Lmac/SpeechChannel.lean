/-
**Channel coding of speech.**

Two 137-bit speech frames are reordered into three classes of sensitivity, protected class by class,
interleaved as a matrix and scrambled.

* `reorder_restored` — the reordering and its reverse.
* `decodeTp_encodeTp` — **what was encoded is decoded, with its check right.**
-/

import Bluestation.Lmac.ErrorControl

namespace Bluestation.SpeechChannel

open Bits Moves ConvEnc Viterbi ConvolutionalCode ErrorControl List Interleaver TetraCodecViterbiDecoder SpeechConvEncState Scrambler

/-! ### Reordering -/

def NUM_ACELP_BITS : Nat := 137

def CLASS0_POS : List Nat :=
  [35, 36, 37, 38, 39, 40, 41, 42, 43, 47, 48, 56, 61, 62, 63, 64, 65, 66, 67, 68, 69, 70, 74, 75, 83,
   88, 89, 90, 91, 92, 93, 94, 95, 96, 97, 101, 102, 110, 115, 116, 117, 118, 119, 120, 121, 122, 123,
   124, 128, 129, 137]

/-- Positions of class 1. -/
def CLASS1_POS : List Nat :=
  [58, 85, 112, 54, 81, 108, 135, 50, 77, 104, 131, 45, 72, 99, 126, 55, 82, 109, 136, 5, 13, 34, 8,
   16, 17, 22, 23, 24, 25, 26, 6, 14, 7, 15, 60, 87, 114, 46, 73, 100, 127, 44, 71, 98, 125, 33, 49, 76,
   103, 130, 59, 86, 113, 57, 84, 111]

def CLASS2_POS : List Nat :=
  [18, 19, 20, 21, 31, 32, 53, 80, 107, 134, 1, 2, 3, 4, 9, 10, 11, 12, 27, 28, 29, 30, 52, 79, 106,
   133, 51, 78, 105, 132]

/-- The positions in the order in which the channel takes them: class by class. -/
def CLASS_POS : List Nat := CLASS0_POS ++ CLASS1_POS ++ CLASS2_POS

/-- The copies of the reordering: for each position, the bits of both frames in turn. -/
def reorderMoves : List (Nat × Nat) :=
  (CLASS_POS.zipIdx.product [0, 1]).map fun ((position, index), frame) =>
    (frame * NUM_ACELP_BITS + (position - 1), index * 2 + frame)

def codecToChannel (codecBits : List Bool) : Option (List Bool) :=
  move codecBits reorderMoves (List.replicate 274 false)

variable (channelBits : List Bool)

def channelToCodec : Option (List Bool) :=
  move channelBits (reorderMoves.map Prod.swap) (List.replicate 274 false)

/-! ### The check of class 2 -/

/-- One step of the division: a term of the dividend is taken away with the generator below it. -/
def divideStep (w : List Bool) (d : Nat) : List Bool :=
  if w.getD d false then ((w.modify d (!·)).modify (d - 4) (!·)).modify (d - 7) (!·) else w

/-- Seven check bits of 60 bits, and the parity of all of them. -/
def speechCrc (class2Bits : List Bool) : List Bool :=
  let dividend := List.replicate 7 false ++ class2Bits
  let w := ((List.range 60).map fun i => 66 - i).foldl divideStep dividend
  let result := w.take 7
  let parity := (class2Bits ++ result).foldl xor false
  result ++ [parity]

/-! ### Encoding and decoding -/

def CLASS0_BITS : Nat := 102

def CLASS1_BITS : Nat := 112

def CLASS2_BITS : Nat := 60

def CLASS2_TYPE2 : Nat := 72

def CLASS1_TYPE3 : Nat := 168

def CLASS2_TYPE3 : Nat := 162

/-- Encode a traffic block from type-1 to type-5 bits. The register of the mother code goes on from
class 1 to class 2. -/
def encodeTp (prim : TmvUnitdataReq) (blkNum : Nat) : Option BitBuffer := do
  guard (blkNum = 1)
  let lchan := prim.logicalChannel
  let params ← getParams lchan
  let type1Len := min prim.macBlock.getLen params.type1Bits
  let type1Bits ← (prim.macBlock.seek 0).toBitarr type1Len
  let type1Arr ← copyFromSlice 0 type1Bits (List.replicate MAX_TYPE1_BITS false)
  let type1Arr ← if lchan = .tchS ∧ type1Len = 274 then codecToChannel type1Arr else some type1Arr
  let type3Arr ← copyFromSlice 0 (type1Arr.take CLASS0_BITS) (List.replicate MAX_TYPE345_BITS false)
  let class1Input := (type1Arr.drop CLASS0_BITS).take CLASS1_BITS
  let (motherBuf, ces) ← SpeechConvEncState.encode .new class1Input
    (List.replicate (CLASS1_BITS * 3) false)
  let punctBuf ← getPuncturedRate .rate112_168 motherBuf (List.replicate CLASS1_TYPE3 false)
  let type3Arr ← copyFromSlice CLASS0_BITS punctBuf type3Arr
  let class2Data := (type1Arr.drop (CLASS0_BITS + CLASS1_BITS)).take CLASS2_BITS
  let class2Type2 ← copyFromSlice 0 class2Data (List.replicate CLASS2_TYPE2 false)
  let class2Type2 ← copyFromSlice CLASS2_BITS (speechCrc class2Data) class2Type2
  let (motherBuf, _) ← SpeechConvEncState.encode ces class2Type2
    (List.replicate (CLASS2_TYPE2 * 3) false)
  let punctBuf ← getPuncturedRate .rate72_162 motherBuf (List.replicate CLASS2_TYPE3 false)
  let type3Arr ← copyFromSlice (CLASS0_BITS + CLASS1_TYPE3) punctBuf type3Arr
  let type4Arr ← Interleaver.matrixInterleave 24 18 type3Arr (List.replicate MAX_TYPE345_BITS false)
  Scrambler.tetraScrambBits prim.scramblingCode (.ofBits (type4Arr.take params.type345Bits))

/-- The soft bits of both protected classes, depunctured and put behind one another. -/
def combineSoft (softType3 : List SoftBit) : Option (List SoftBit) := do
  let class1 ← tetraRcpcDepunct .rate112_168 ((softType3.drop CLASS0_BITS).take CLASS1_TYPE3)
    CLASS1_TYPE3 (List.replicate (CLASS1_BITS * 3) 0)
  let class2 ← tetraRcpcDepunct .rate72_162
    ((softType3.drop (CLASS0_BITS + CLASS1_TYPE3)).take CLASS2_TYPE3)
    CLASS2_TYPE3 (List.replicate (CLASS2_TYPE2 * 3) 0)
  some (class1 ++ class2)

/-- The bits of both protected classes, depunctured, put behind one another and read as soft bits. -/
def combineHard (type3Arr : List Bool) : Option (List SoftBit) := do
  let class1 ← tetraRcpcDepunct .rate112_168
    (((type3Arr.drop CLASS0_BITS).take CLASS1_TYPE3).map some)
    CLASS1_TYPE3 (List.replicate (CLASS1_BITS * 3) none)
  let class2 ← tetraRcpcDepunct .rate72_162
    (((type3Arr.drop (CLASS0_BITS + CLASS1_TYPE3)).take CLASS2_TYPE3).map some)
    CLASS2_TYPE3 (List.replicate (CLASS2_TYPE2 * 3) none)
  some ((class1 ++ class2).map (softBit 1))

/-- Decode a traffic block from type-5 to type-1 bits, and say whether the check of class 2 is
right. Soft bits are used if there is one for each bit of the block. -/
def decodeTpWithSoft (lchan : LogicalChannel) (type5Block : BitBuffer)
    (softType5 : Option (List SoftBit)) (scramblingCode : BitVec 32) :
    Option (Option BitBuffer × Bool) := do
  guard (lchan = .tchS)
  let params ← getParams lchan
  let type4 ← Scrambler.tetraScrambBits scramblingCode type5Block
  let softType4 ← match softType5.filter fun bits => bits.length == params.type345Bits with
    | some softType5 => (descrambleSoftBits scramblingCode softType5).map some
    | none => some none
  let type4Arr ← (type4.seek 0).toBitarr params.type345Bits
  let type3Arr ← Interleaver.matrixDeinterleave 24 18 type4Arr (List.replicate MAX_TYPE345_BITS false)
  let soft ← match softType4 with
    | some softType4 => do
      let softType3 ← Interleaver.matrixDeinterleave 24 18 softType4
        (List.replicate MAX_TYPE345_BITS 0)
      combineSoft softType3
    | none => combineHard type3Arr
  let decoded := TetraCodecViterbiDecoder.new.decode soft
  let class2Decoded := decoded.drop CLASS1_BITS
  let data := class2Decoded.take CLASS2_BITS
  let receivedCrc := (class2Decoded.drop CLASS2_BITS).take 8
  let crcOk := speechCrc data == receivedCrc
  let channelBits := type3Arr.take CLASS0_BITS ++ decoded.take CLASS1_BITS ++ data
  let codecBits ← channelToCodec channelBits
  some (some (.ofBits codecBits), crcOk)

def decodeTp (lchan : LogicalChannel) (type5Block : BitBuffer) (scramblingCode : BitVec 32) :
    Option (Option BitBuffer × Bool) :=
  decodeTpWithSoft lchan type5Block none scramblingCode

/-! ### The reordering and its reverse -/

theorem class_pos_once : CLASS_POS.Nodup := by
  decide +kernel

theorem class_pos_range : ∀ position ∈ CLASS_POS, 0 < position ∧ position ≤ NUM_ACELP_BITS := by
  decide +kernel

theorem class_pos_covers : ∀ place < NUM_ACELP_BITS, place + 1 ∈ CLASS_POS := by
  decide +kernel

theorem reorder_cell {position index frame : Nat}
    (member : ((position, index), frame) ∈ CLASS_POS.zipIdx.product [0, 1]) :
    CLASS_POS[index]? = some position ∧ frame < 2 ∧ 0 < position ∧ position ≤ NUM_ACELP_BITS := by
  obtain ⟨here, frames⟩ := pair_mem_product.mp member
  have found := mem_zipIdx_iff_getElem?.mp here
  obtain ⟨positive, small⟩ := class_pos_range position (mem_of_getElem? found)
  refine ⟨found, ?_, positive, small⟩
  rcases mem_pair.mp frames with rfl | rfl <;> decide

theorem reorder_oneToOne : OneToOne reorderMoves := by
  have cells : (CLASS_POS.zipIdx.product [0, 1]).Nodup := by
    refine List.Nodup.product ?_ (by decide)
    refine List.Nodup.of_map Prod.fst ?_
    rw [zipIdx_map_fst]
    exact class_pos_once
  refine ⟨?_, ?_⟩
  · unfold reorderMoves
    rw [List.map_map]
    refine .map_on ?_ cells
    rintro ⟨⟨position, index⟩, frame⟩ member ⟨⟨position', index'⟩, frame'⟩ member' same
    obtain ⟨found, -, positive, small⟩ := reorder_cell member
    obtain ⟨found', -, positive', small'⟩ := reorder_cell member'
    obtain ⟨rfl, columns⟩ := cell_unique (by omega) (by omega) same
    obtain rfl : position = position' := by omega
    obtain rfl : index = index' :=
      (List.getElem?_inj (List.getElem?_eq_some_iff.mp found).1 class_pos_once).mp
        (found.trans found'.symm)
    rfl
  · unfold reorderMoves
    rw [List.map_map]
    refine .map_on ?_ cells
    rintro ⟨⟨position, index⟩, frame⟩ member ⟨⟨position', index'⟩, frame'⟩ member' same
    obtain ⟨found, few, -, -⟩ := reorder_cell member
    obtain ⟨found', few', -, -⟩ := reorder_cell member'
    obtain ⟨rfl, rfl⟩ := cell_unique few few' same
    obtain rfl : position = position' := Option.some.inj (found.symm.trans found')
    rfl

theorem reorder_inside : Inside 274 274 reorderMoves := by
  intro step member
  obtain ⟨⟨⟨position, index⟩, frame⟩, there, rfl⟩ := mem_map.mp member
  obtain ⟨found, few, positive, small⟩ := reorder_cell there
  have indexLt : index < NUM_ACELP_BITS := by
    exact (List.getElem?_eq_some_iff.mp found).1
  have source := cell_lt few (show position - 1 < NUM_ACELP_BITS by omega)
  exact ⟨source, cell_lt indexLt few⟩

theorem reorder_covers (place : Nat) (inside : place < 274) : place ∈ reorderMoves.map Prod.fst := by
  have column : place % NUM_ACELP_BITS < NUM_ACELP_BITS := Nat.mod_lt _ (by decide)
  obtain ⟨index, found⟩ := mem_iff_getElem?.mp (class_pos_covers _ column)
  have frame : place / NUM_ACELP_BITS = 0 ∨ place / NUM_ACELP_BITS = 1 := by
    unfold NUM_ACELP_BITS
    omega
  have cell : ((place % NUM_ACELP_BITS + 1, index), place / NUM_ACELP_BITS)
      ∈ CLASS_POS.zipIdx.product [0, 1] :=
    pair_mem_product.mpr ⟨mem_zipIdx_iff_getElem?.mpr found, mem_pair.mpr frame⟩
  refine mem_map.mpr ⟨_, mem_map_of_mem cell, ?_⟩
  exact Nat.div_add_mod' place NUM_ACELP_BITS

/-- **Reordering to codec order undoes reordering to channel order.** -/
theorem reorder_restored {codecBits : List Bool} (length : codecBits.length = 274) :
    ∃ channelBits, codecToChannel codecBits = some channelBits ∧ channelBits.length = 274
      ∧ channelToCodec channelBits = some codecBits := by
  have blank : (List.replicate 274 false).length = 274 := length_replicate
  obtain ⟨channelBits, there, channelLength⟩ := move_ok (show Inside codecBits.length
    (List.replicate 274 false).length reorderMoves by rw [length, blank]; exact reorder_inside)
  rw [blank] at channelLength
  obtain ⟨back, again, backLength⟩ := move_ok (show Inside channelBits.length
    (List.replicate 274 false).length (reorderMoves.map Prod.swap) by
      rw [channelLength, blank]; exact reorder_inside.swap)
  refine ⟨channelBits, there, channelLength, ?_⟩
  have same : back = codecBits := by
    apply ext_getElem?
    intro place
    by_cases inside : place < 274
    · obtain ⟨step, member, rfl⟩ := mem_map.mp (reorder_covers place inside)
      exact move_back reorder_oneToOne there again member
    · rw [getElem?_eq_none (by rw [backLength]; omega), getElem?_eq_none (by rw [length]; omega)]
  rw [channelToCodec, again, same]

/-! ### The distance of the punctured code -/

def speechKeeps (place : Nat) : Bool :=
  if place < CLASS1_BITS * 3 then (getPuncturer .rate112_168).keeps place
  else (getPuncturer .rate72_162).keeps (place - CLASS1_BITS * 3)

theorem speechKeeps_first (time : Nat) : speechKeeps (time * 3) = true := by
  unfold speechKeeps
  split
  · have phase : time * 3 % 6 = 0 ∨ time * 3 % 6 = 3 := by omega
    change P_RATE8_12.tail.contains (time * 3 % 6 + 1) = true
    rcases phase with zero | three
    · rw [zero]; decide
    · rw [three]; decide
  · have phase : (time * 3 - CLASS1_BITS * 3) % 12 = 0 ∨ (time * 3 - CLASS1_BITS * 3) % 12 = 3
        ∨ (time * 3 - CLASS1_BITS * 3) % 12 = 6 ∨ (time * 3 - CLASS1_BITS * 3) % 12 = 9 := by
      omega
    change P_RATE8_18.tail.contains ((time * 3 - CLASS1_BITS * 3) % 12 + 1) = true
    rcases phase with zero | three | six | nine
    · rw [zero]; decide
    · rw [three]; decide
    · rw [six]; decide
    · rw [nine]; decide

theorem speech_part : ∀ (state : Fin NUM_STATES) (a b second third : Bool), a ≠ b →
    1 ≤ disagreements [true, second, third] ((code polynomials).emit a state)
      ((code polynomials).emit b state) := by
  decide +kernel

/-- **Two different messages differ in a kept bit.** -/
theorem speech_farApart : FarApart polynomials speechKeeps 1 := by
  intro first second sameLength differ _
  have kept : ∀ time, keptWord polynomials.length speechKeeps time
      = [true, speechKeeps (time * 3 + 1), speechKeeps (time * 3 + 2)] := by
    intro time
    rw [← speechKeeps_first time]
    rfl
  refine Code.distance_ge (fun _ _ _ => 1) ?_ ?_ first second sameLength differ
  · intro time state a b parted
    rw [kept]
    exact speech_part state a b _ _ parted
  · intro time state other a b
    exact Nat.le_add_right 1 _

/-! ### The three classes -/

def class1Of : List Bool :=
  (channelBits.drop CLASS0_BITS).take CLASS1_BITS

def class2Of : List Bool :=
  (channelBits.drop (CLASS0_BITS + CLASS1_BITS)).take CLASS2_BITS

/-- What is protected by the mother code: class 1, class 2 and its check. -/
def protectedOf : List Bool :=
  class1Of channelBits ++ (class2Of channelBits ++ speechCrc (class2Of channelBits))

theorem length_divide (w : List Bool) (terms : List Nat) :
    (terms.foldl divideStep w).length = w.length := by
  induction terms generalizing w with
  | nil => rfl
  | cons d terms ih =>
    rw [foldl_cons, ih, divideStep]
    split <;> simp

theorem length_speechCrc {class2Bits : List Bool} : (speechCrc class2Bits).length = 8 := by
  simp [speechCrc, length_divide]

section Classes

variable {channelBits : List Bool} (length : channelBits.length = 274)
include length

theorem length_class1Of : (class1Of channelBits).length = CLASS1_BITS := by
  rw [class1Of, length_take, length_drop, length]
  rfl

theorem length_class2Of : (class2Of channelBits).length = CLASS2_BITS := by
  rw [class2Of, length_take, length_drop, length]
  rfl

theorem classes_append :
    channelBits.take CLASS0_BITS ++ class1Of channelBits ++ class2Of channelBits = channelBits := by
  have front := take_append_drop CLASS0_BITS channelBits
  have middle := take_append_drop CLASS1_BITS (channelBits.drop CLASS0_BITS)
  have last : class2Of channelBits = (channelBits.drop CLASS0_BITS).drop CLASS1_BITS := by
    rw [class2Of, drop_drop, take_of_length_le]
    rw [length_drop, length]
    decide
  rw [append_assoc, last, class1Of, middle, front]

end Classes

theorem puncture_spec {pu : RcpcPunctMode} (regular : (getPuncturer pu).Regular) {count len : Nat}
    {mother : List Bool} (whole : count * (getPuncturer pu).t = len)
    (long : mother.length = count * (getPuncturer pu).period) :
    ∃ punctured, getPuncturedRate pu mother (List.replicate len false) = some punctured
      ∧ punctured.length = len
      ∧ ∀ j < len, punctured[j]? = mother[(getPuncturer pu).place (j + 1) - 1]? := by
  have inside : Inside mother.length (List.replicate len false).length
      ((getPuncturer pu).moves len) := by
    rw [length_replicate, long, ← whole]
    exact regular.inside le_rfl le_rfl
  obtain ⟨punctured, ran, length⟩ := move_ok inside
  rw [length_replicate] at length
  refine ⟨punctured, ?_, length, fun j jLt => ?_⟩
  · rw [getPuncturedRate, length_replicate, ran]
  · have member : ((getPuncturer pu).place (j + 1) - 1, j) ∈ (getPuncturer pu).moves len :=
      mem_map_of_mem (mem_range.mpr jLt)
    exact getElem?_move ran (regular.oneToOne _).onceTo member

/-- A depunctured class: its kept bits, in their places. -/
theorem depuncture_spec {pu : RcpcPunctMode} (regular : (getPuncturer pu).Regular) {count len : Nat}
    {mother punctured : List Bool} (whole : count * (getPuncturer pu).t = len)
    (long : mother.length = count * (getPuncturer pu).period) (length : punctured.length = len)
    (same : ∀ j < len, punctured[j]? = mother[(getPuncturer pu).place (j + 1) - 1]?) :
    ∃ stream, tetraRcpcDepunct pu (punctured.map some) len (List.replicate mother.length none)
        = some stream
      ∧ stream.length = mother.length
      ∧ (∀ place < mother.length,
        stream[place]?.map Option.isSome = some ((getPuncturer pu).keeps place))
      ∧ ∀ (place : Nat) (bit : Bool), stream[place]? = some (some bit) → mother[place]? = some bit := by
  have inside : Inside (punctured.map some).length
      (List.replicate mother.length (none : Option Bool)).length
      (((getPuncturer pu).moves len).map Prod.swap) := by
    rw [length_map, length, length_replicate, long, ← whole]
    exact (regular.inside le_rfl le_rfl).swap
  obtain ⟨stream, ran, streamLength⟩ := move_ok inside
  rw [length_replicate] at streamLength
  subst whole
  refine ⟨stream, ran, streamLength, fun place placeLt => ?_, fun place bit found => ?_⟩
  · exact depunct_present regular long.ge length.ge ran (long ▸ placeLt)
  · have placeLt : place < mother.length := by
      rw [← streamLength]
      exact (List.getElem?_eq_some_iff.mp found).1
    exact depunct_punctured regular long.ge same ran (long ▸ placeLt) found

/-! ### Encoding -/

theorem speech_encode (state : Delayed) {input : List Bool} {room : Nat}
    (fills : input.length * 3 = room) :
    encode state input (List.replicate room false) = some (encodeBits encodeBit state input) := by
  unfold SpeechConvEncState.encode ConvEnc.encode
  rw [length_replicate, if_pos fills.le, fills, drop_replicate, Nat.sub_self]
  simp only [replicate_zero, append_nil]

def mother1Of : List Bool :=
  (encodeBits SpeechConvEncState.encodeBit .new (class1Of channelBits)).1

def class2Type2Of : List Bool :=
  class2Of channelBits ++ speechCrc (class2Of channelBits) ++ List.replicate 4 false

/-- The mother code of class 2, which goes on where class 1 stopped. -/
def mother2Of : List Bool :=
  (encodeBits SpeechConvEncState.encodeBit
    (encodeBits SpeechConvEncState.encodeBit .new (class1Of channelBits)).2
    (class2Type2Of channelBits)).1

theorem mothers_append : mother1Of channelBits ++ mother2Of channelBits = (encodeBits encodeBit .new
          (protectedOf channelBits ++ List.replicate 4 false)).1 := by
  have whole : protectedOf channelBits ++ List.replicate 4 false
      = class1Of channelBits ++ class2Type2Of channelBits := by
    simp [protectedOf, class2Type2Of, append_assoc]
  rw [whole, encodeBits_append]
  rfl

theorem three (state : Delayed) (bit : Bool) : (encodeBit state bit).1.length = 3 := rfl

/-- The type-3 bits of a frame: class 0 as it is, and two punctured classes. -/
structure Encoded (channelBits type3 : List Bool) : Prop where
  length : type3.length = MAX_TYPE345_BITS
  class0 : type3.take CLASS0_BITS = channelBits.take CLASS0_BITS
  class1 : ∀ j < CLASS1_TYPE3, ((type3.drop CLASS0_BITS).take CLASS1_TYPE3)[j]?
    = (mother1Of channelBits)[(getPuncturer .rate112_168).place (j + 1) - 1]?
  class2 : ∀ j < CLASS2_TYPE3, ((type3.drop (CLASS0_BITS + CLASS1_TYPE3)).take CLASS2_TYPE3)[j]?
    = (mother2Of channelBits)[(getPuncturer .rate72_162).place (j + 1) - 1]?

section Stages

variable {channelBits : List Bool} (length : channelBits.length = 274)
include length

theorem length_class2Type2Of : (class2Type2Of channelBits).length = CLASS2_TYPE2 := by
  rw [class2Type2Of, length_append, length_append, length_class2Of length, length_speechCrc]
  rfl

theorem length_mother1Of : (mother1Of channelBits).length = CLASS1_BITS * 3 := by
  rw [mother1Of, length_encodeBits three, length_class1Of length]

theorem length_mother2Of : (mother2Of channelBits).length = CLASS2_TYPE2 * 3 := by
  rw [mother2Of, length_encodeBits three, length_class2Type2Of length]

/-- **The encoder goes through its stages for every frame.** -/
theorem encodeTp_spec {codecBits : List Bool} (prim : TmvUnitdataReq)
    (lchan : prim.logicalChannel = .tchS) (frame : prim.macBlock.getLen = 274)
    (contents : (prim.macBlock.seek 0).toBitarr 274 = some codecBits)
    (codecLength : codecBits.length = 274)
    (reordered : codecToChannel codecBits = some channelBits) :
    ∃ type3 type4, Encoded channelBits type3
      ∧ matrixInterleave 24 18 type3 (List.replicate MAX_TYPE345_BITS false) = some type4
      ∧ type4.length = MAX_TYPE345_BITS
      ∧ encodeTp prim 1 = some (.ofBits (scrambled prim.scramblingCode type4)) := by
  obtain ⟨punct1, ran1, length1, same1⟩ := puncture_spec rate112_168_regular
    (show 56 * 3 = CLASS1_TYPE3 from rfl) (length_mother1Of length)
  obtain ⟨punct2, ran2, length2, same2⟩ := puncture_spec rate72_162_regular
    (show 18 * 9 = CLASS2_TYPE3 from rfl) (length_mother2Of length)
  have class0Length : (channelBits.take CLASS0_BITS).length = CLASS0_BITS := by
    rw [List.length_take, length]
    rfl
  -- the array of type-3 bits, filled class by class
  have fill0 := copyFromSlice_next [] (channelBits.take CLASS0_BITS) false
    (show _ ≤ MAX_TYPE345_BITS by rw [class0Length]; decide)
  have fill1 := copyFromSlice_next (channelBits.take CLASS0_BITS) punct1 false
    (show _ ≤ MAX_TYPE345_BITS - CLASS0_BITS by rw [length1]; decide)
  have fill2 := copyFromSlice_next (channelBits.take CLASS0_BITS ++ punct1) punct2 false
    (show _ ≤ MAX_TYPE345_BITS - CLASS0_BITS - CLASS1_TYPE3 by rw [length2]; decide)
  rw [List.nil_append, List.nil_append, List.length_nil, class0Length] at fill0
  rw [class0Length, length1] at fill1
  rw [List.length_append, class0Length, length1, length2] at fill2
  -- the type-2 bits of class 2
  have data := copyFromSlice_next [] (class2Of channelBits) false
    (show _ ≤ CLASS2_TYPE2 by rw [length_class2Of length]; decide)
  have check := copyFromSlice_next (class2Of channelBits) (speechCrc (class2Of channelBits)) false
    (show _ ≤ CLASS2_TYPE2 - CLASS2_BITS by rw [length_speechCrc]; decide)
  rw [List.nil_append, List.nil_append, List.length_nil, length_class2Of length] at data
  rw [length_class2Of length, length_speechCrc] at check
  -- the frame, reordered
  have whole := copyFromSlice_next [] codecBits false
    (show _ ≤ MAX_TYPE1_BITS by rw [codecLength]; decide)
  rw [List.nil_append, List.nil_append, List.length_nil, codecLength] at whole
  have type3Length : (channelBits.take CLASS0_BITS ++ punct1 ++ punct2).length = MAX_TYPE345_BITS := by
    rw [List.length_append, List.length_append, class0Length, length1, length2]
    rfl
  have mother1 := speech_encode .new
    (show (class1Of channelBits).length * 3 = CLASS1_BITS * 3 by rw [length_class1Of length])
  have mother2 := speech_encode (encodeBits encodeBit .new (class1Of channelBits)).2
    (show (class2Type2Of channelBits).length * 3 = CLASS2_TYPE2 * 3 by
      rw [length_class2Type2Of length])
  obtain ⟨type4, ran4, length4⟩ := move_ok (show Inside
    (channelBits.take CLASS0_BITS ++ punct1 ++ punct2).length
    (List.replicate MAX_TYPE345_BITS false).length (matrixMoves 24 18) by
      rw [type3Length, List.length_replicate]
      exact matrixMoves_inside (by decide) (by decide))
  have interleaved : matrixInterleave 24 18
      (channelBits.take CLASS0_BITS ++ punct1 ++ punct2) (List.replicate MAX_TYPE345_BITS false)
      = some type4 := by
    rw [matrixInterleave, if_pos, ran4]
    rw [type3Length, List.length_replicate]
    decide
  rw [List.length_replicate] at length4
  refine ⟨_, type4, ⟨type3Length, ?_, ?_, ?_⟩, interleaved, length4, ?_⟩
  · rw [List.append_assoc, List.take_left' class0Length]
  · intro j jLt
    rw [List.append_assoc, List.drop_left' class0Length, List.take_left' length1]
    exact same1 j jLt
  · intro j jLt
    rw [List.drop_left' (by rw [List.length_append, class0Length, length1]),
      List.take_of_length_le length2.le]
    exact same2 j jLt
  · have codecWhole : codecBits ++ List.replicate (MAX_TYPE1_BITS - 274) false = codecBits := by
      simp [MAX_TYPE1_BITS]
    have type3Whole : channelBits.take CLASS0_BITS ++ punct1 ++ punct2
        ++ List.replicate (MAX_TYPE345_BITS - CLASS0_BITS - CLASS1_TYPE3 - CLASS2_TYPE3) false
        = channelBits.take CLASS0_BITS ++ punct1 ++ punct2 := by
      simp [MAX_TYPE345_BITS, CLASS0_BITS, CLASS1_TYPE3, CLASS2_TYPE3]
    have type4Whole : type4.take 432 = type4 := List.take_of_length_le length4.le
    rw [codecWhole] at whole
    rw [type3Whole] at fill2
    unfold encodeTp
    simp only [guard, if_true, Option.pure_def, Option.bind_eq_bind, Option.bind_some, lchan,
      getParams, frame, TCH_S_PARAMS, min_self, contents, whole, and_self, reordered, fill0]
    rw [show (channelBits.drop CLASS0_BITS).take CLASS1_BITS = class1Of channelBits from rfl,
      show (channelBits.drop (CLASS0_BITS + CLASS1_BITS)).take CLASS2_BITS = class2Of channelBits
        from rfl, mother1]
    unfold mother1Of at ran1
    unfold mother2Of at ran2
    simp only [ran1, Option.bind_some, fill1, data, check]
    rw [show class2Of channelBits ++ speechCrc (class2Of channelBits)
      ++ List.replicate (CLASS2_TYPE2 - CLASS2_BITS - 8) false = class2Type2Of channelBits from rfl,
      mother2]
    simp only [ran2, Option.bind_some, fill2, interleaved]
    rw [type4Whole, tetraScrambBits_ofBits]

/-- **The decoder finds the protected bits and the tail.** -/
theorem combineHard_spec {type3 : List Bool} (encoded : Encoded channelBits type3) :
    ∃ soft, combineHard type3 = some soft ∧ TetraCodecViterbiDecoder.new.decode soft
        = protectedOf channelBits ++ List.replicate 4 false := by
  have mother1Length := length_mother1Of length
  have mother2Length := length_mother2Of length
  have slice1 : ((type3.drop CLASS0_BITS).take CLASS1_TYPE3).length = CLASS1_TYPE3 := by
    rw [length_take, length_drop, encoded.length]
    decide
  have slice2 : ((type3.drop (CLASS0_BITS + CLASS1_TYPE3)).take CLASS2_TYPE3).length
      = CLASS2_TYPE3 := by
    rw [length_take, length_drop, encoded.length]
    decide
  obtain ⟨stream1, ran1, length1, present1, right1⟩ := depuncture_spec rate112_168_regular
    (show 56 * 3 = CLASS1_TYPE3 from rfl) mother1Length slice1 encoded.class1
  obtain ⟨stream2, ran2, length2, present2, right2⟩ := depuncture_spec rate72_162_regular
    (show 18 * 9 = CLASS2_TYPE3 from rfl) mother2Length slice2 encoded.class2
  rw [mother1Length] at ran1 length1 present1
  rw [mother2Length] at ran2 length2 present2
  have streamLength : (stream1 ++ stream2).length = 552 := by
    rw [length_append, length1, length2]
    rfl
  refine ⟨(stream1 ++ stream2).map (softBit 1), ?_, ?_⟩
  · rw [combineHard, ran1, Option.bind_eq_bind, Option.bind_some, ran2, Option.bind_some]
  · refine decode_encoded speech_encodes speech_farApart (by decide) ?_ ?_ one_pos ?_ ?_
    · rw [streamLength, protectedOf, length_append, length_append, length_append,
        length_class1Of length, length_class2Of length, length_speechCrc]
      rfl
    · intro place placeLt
      unfold speechKeeps
      by_cases first : place < CLASS1_BITS * 3
      · rw [if_pos first, getElem?_append_left (by rwa [length1]), present1 place first]
      · rw [if_neg first, getElem?_append_right (by rw [length1]; omega), length1,
          present2 _ (by unfold CLASS1_BITS CLASS2_TYPE2 at *; omega)]
    · rw [streamLength]
      decide
    · have none : mismatches (stream1 ++ stream2) (encodeBits encodeBit .new
            (protectedOf channelBits ++ List.replicate 4 false)).1 = 0 := by
        rw [← mothers_append, mismatches_append (length1.trans mother1Length.symm),
          mismatches_eq_zero right1, mismatches_eq_zero right2]
      rw [none]
      decide

end Stages

/-- **What was encoded is decoded, with its check right**: for every pair of speech frames and every
scrambling code. -/
theorem decodeTp_encodeTp {macBlock : BitBuffer} (window : macBlock.Window)
    (frames : macBlock.getLen = 274) (scramblingCode : BitVec 32) :
    ∃ type5, encodeTp ⟨macBlock, .tchS, scramblingCode⟩ 1 = some (.ofBits type5)
      ∧ decodeTp .tchS (.ofBits type5) scramblingCode
        = some (some (.ofBits (windowBits macBlock)), true) := by
  have codecLength : (windowBits macBlock).length = 274 := (length_windowBits window).trans frames
  have contents : (macBlock.seek 0).toBitarr 274 = some (windowBits macBlock) := by
    rw [← frames, toBitarr_window window]
  obtain ⟨channelBits, reordered, length, restored⟩ := reorder_restored codecLength
  obtain ⟨type3, type4, encoded, interleaved, length4, sent⟩ := encodeTp_spec length
    ⟨macBlock, .tchS, scramblingCode⟩ rfl frames contents codecLength reordered
  refine ⟨_, sent, ?_⟩
  -- descrambled and deinterleaved, the type-3 bits are back
  have descrambled : tetraScrambBits scramblingCode
      (.ofBits (scrambled scramblingCode type4)) = some (.ofBits type4) := by
    rw [tetraScrambBits_ofBits, scrambled_scrambled]
  have read := toBitarr_ofBits type4
  rw [length4] at read
  obtain ⟨back, ran, backLength⟩ := move_ok (show Inside type4.length
    (List.replicate MAX_TYPE345_BITS false).length
    ((matrixMoves 24 18).map Prod.swap) by
      rw [length4, List.length_replicate]
      exact (matrixMoves_inside (by decide) (by decide)).swap)
  rw [List.length_replicate] at backLength
  have again : matrixDeinterleave 24 18 type4 (List.replicate MAX_TYPE345_BITS false)
      = some back := by
    rw [matrixDeinterleave, if_pos, ran]
    rw [length4, List.length_replicate]
    decide
  obtain rfl : back = type3 := by
    apply List.ext_getElem?
    intro place
    by_cases inside : place < 24 * 18
    · exact matrix_restored interleaved again inside
    · rw [List.getElem?_eq_none (by rw [backLength]; exact not_lt.mp inside),
        List.getElem?_eq_none (by rw [encoded.length]; exact not_lt.mp inside)]
  obtain ⟨soft, combined, decoded⟩ := combineHard_spec length encoded
  have class1 : (protectedOf channelBits ++ List.replicate 4 false).take CLASS1_BITS
      = class1Of channelBits := by
    rw [protectedOf, List.append_assoc, List.take_left' (length_class1Of length)]
  have behind : (protectedOf channelBits ++ List.replicate 4 false).drop CLASS1_BITS
      = class2Of channelBits ++ (speechCrc (class2Of channelBits) ++ List.replicate 4 false) := by
    rw [protectedOf, List.append_assoc, List.drop_left' (length_class1Of length), List.append_assoc]
  have data : (class2Of channelBits ++ (speechCrc (class2Of channelBits)
      ++ List.replicate 4 false)).take CLASS2_BITS = class2Of channelBits :=
    List.take_left' (length_class2Of length)
  have check : ((class2Of channelBits ++ (speechCrc (class2Of channelBits)
      ++ List.replicate 4 false)).drop CLASS2_BITS).take 8 = speechCrc (class2Of channelBits) := by
    rw [List.drop_left' (length_class2Of length), List.take_left' length_speechCrc]
  unfold decodeTp decodeTpWithSoft
  simp only [Option.bind_eq_bind, Option.bind_some, descrambled, Option.filter_none]
  change ((BitBuffer.ofBits type4).toBitarr MAX_TYPE345_BITS).bind _ = _
  rw [read]
  simp only [again, Option.bind_some, combined, decoded, class1, behind, data, check,
    encoded.class0, classes_append length, restored, beq_self_eq_true]

/-- Two frames of zeroes and ones, scrambled with the code of an unknown cell. -/
theorem decodeTp_encodeTp_frames :
    ∃ type5, encodeTp ⟨.ofBits (List.replicate 137 false ++ List.replicate 137 true), .tchS, 3#32⟩ 1
        = some (.ofBits type5)
      ∧ decodeTp .tchS (.ofBits type5) 3#32
        = some (some (.ofBits (List.replicate 137 false ++ List.replicate 137 true)), true) := by
  have frames : (BitBuffer.ofBits (List.replicate 137 false ++ List.replicate 137 true)).getLen
      = 274 := by
    rw [getLen_ofBits, length_append, length_replicate, length_replicate]
  have restored := decodeTp_encodeTp (BitBuffer.ofBits_window _) frames 3#32
  rwa [windowBits_ofBits] at restored

end Bluestation.SpeechChannel
