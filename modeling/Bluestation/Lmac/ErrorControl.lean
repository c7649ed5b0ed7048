/-
**Channel coding of the control channels.**

From a block of type-1 bits to the type-5 bits of a burst and back: check and tail, mother code,
puncturing, block interleaving, scrambling.

* `encodeCp_spec`, `decodeCp_spec` — each direction, stage by stage.
* `decodeCp_encodeCp` — **what was encoded is decoded, also with any one bit wrong.**
-/

import Bluestation.Lmac.Crc16
import Bluestation.Lmac.Scrambler
import Bluestation.Lmac.Viterbi

namespace Bluestation.ErrorControl

open Bits Moves ConvEnc Viterbi ConvolutionalCode List Nat TetraViterbiDecoder ConvEncState Scrambler Crc16 Interleaver BitBuffer

/-! ### Channels and their parameters -/

/-- Logical channels. -/
inductive LogicalChannel where
  | aach
  | schHd
  | schF
  | stch
  | schHu
  | tchS
  | tch24
  | tch48
  | tch72
  | bsch
  | bnch
  | blch
  | clch
deriving DecidableEq

def LogicalChannel.isControlChannel : LogicalChannel → Bool
  | .aach | .bsch | .bnch | .schHd | .schF | .stch | .schHu => true
  | _ => false

structure ErrorControlParams where
  type345Bits : Nat
  type2Bits : Nat
  type1Bits : Nat
  interleaveA : Nat
  haveCrc16 : Bool

def BSCH_PARAMS : ErrorControlParams := ⟨120, 80, 60, 11, true⟩

def SCH_HD_PARAMS : ErrorControlParams := ⟨216, 144, 124, 101, true⟩

def AACH_PARAMS : ErrorControlParams := ⟨30, 30, 14, 0, false⟩

def SCH_F_PARAMS : ErrorControlParams := ⟨432, 288, 268, 103, true⟩

def SCH_HU_PARAMS : ErrorControlParams := ⟨168, 112, 92, 13, true⟩

def TCH_S_PARAMS : ErrorControlParams := ⟨432, 288, 274, 103, false⟩

/-- The parameters of a logical channel; for some of them the step is not implemented and panics. -/
def getParams : LogicalChannel → Option ErrorControlParams
  | .bsch => some BSCH_PARAMS
  | .schHd | .stch | .bnch => some SCH_HD_PARAMS
  | .aach => some AACH_PARAMS
  | .schF => some SCH_F_PARAMS
  | .schHu => some SCH_HU_PARAMS
  | .tchS => some TCH_S_PARAMS
  | .tch24 | .tch48 | .tch72 | .blch | .clch => none

def MAX_TYPE1_BITS : Nat := 274

def MAX_TYPE2_BITS : Nat := 288

def MAX_TYPE345_BITS : Nat := 432

/-! ### Requests and indications -/

/-- What the lower MAC is asked to send. -/
structure TmvUnitdataReq where
  macBlock : BitBuffer
  logicalChannel : LogicalChannel
  scramblingCode : BitVec 32

inductive PhyBlockType where
  | bbk
  | sb1
  | sb2
  | ndb
  | nub
  | ssn1
  | ssn2
deriving DecidableEq

/-- A received block, with a signed reliability for each of its bits if the receiver has them. -/
structure TpUnitdataInd where
  blockType : PhyBlockType
  softBits : Option (List SoftBit)
  block : BitBuffer

def copyFromSlice {α : Type} (offset : Nat) (slice array : List α) : Option (List α) :=
  if offset + slice.length ≤ array.length then
    some (array.take offset ++ slice ++ array.drop (offset + slice.length))
  else none

/-! ### Encoding and decoding -/

/-- Encode a control block from type-1 to type-5 bits. -/
def encodeCp (prim : TmvUnitdataReq) : Option BitBuffer := do
  let lchan := prim.logicalChannel
  guard (lchan.isControlChannel ∧ lchan ≠ .aach)
  let params ← getParams lchan
  guard (prim.macBlock.getLen = params.type1Bits)
  let type1 ← (prim.macBlock.seek 0).toBitarr params.type1Bits
  let type2Arr ← copyFromSlice 0 type1 (List.replicate MAX_TYPE2_BITS false)
  guard (params.haveCrc16 = true)
  let crc := ~~~ Crc16.crc16CcittBits (type2Arr.take params.type1Bits) params.type1Bits
  let type2Arr ← copyFromSlice params.type1Bits (Crc16.crcBits crc) type2Arr
  let (type3dpArr, _) ← ConvEncState.encode .new (type2Arr.take params.type2Bits)
    (List.replicate (MAX_TYPE345_BITS * 4) false)
  let type3Arr ← getPuncturedRate .rate2_3 type3dpArr (List.replicate MAX_TYPE345_BITS false)
  let type4Arr ← Interleaver.blockInterleave params.type345Bits params.interleaveA type3Arr
    (List.replicate MAX_TYPE345_BITS false)
  Scrambler.tetraScrambBits prim.scramblingCode (.ofBits (type4Arr.take params.type345Bits))

/-- The negative of a soft bit; the lowest value has none and gives the highest. -/
def saturatingNeg (soft : SoftBit) : SoftBit := if soft = -128 then 127 else -soft

def descrambleSoftBits (scramblingCode : BitVec 32) (softBits : List SoftBit) :
    Option (List SoftBit) :=
  if softBits.length ≤ MAX_TYPE345_BITS then
    some (List.zipWith (fun soft bit => if bit then saturatingNeg soft else soft) softBits
      (Scrambler.tetraScrambGetBits scramblingCode softBits.length))
  else none

/-- The scrambling code of a received block: fixed for a synchronisation block. -/
def scramblingCodeFor (blockType : PhyBlockType) (defaultScrambCode : Option (BitVec 32)) :
    Option (BitVec 32) :=
  if blockType = .sb1 then some Scrambler.SCRAMB_INIT else defaultScrambCode

/-- Undo interleaving and puncturing of descrambled soft bits, and decode them. -/
def decodeSoft (params : ErrorControlParams) (softType4 : List SoftBit) : Option (List Bool) := do
  let softType3 ← Interleaver.blockDeinterleave params.type345Bits params.interleaveA softType4
    (List.replicate MAX_TYPE345_BITS 0)
  let softType3dp ← tetraRcpcDepunct .rate2_3 softType3 params.type345Bits
    (List.replicate (MAX_TYPE345_BITS * 4) 0)
  decSb1Soft softType3dp (List.replicate MAX_TYPE2_BITS false) params.type2Bits

/-- Undo the puncturing of type-3 bits, and decode them. -/
def decodeHard (params : ErrorControlParams) (type3Arr : List Bool) : Option (List Bool) := do
  let type3dpArr ← tetraRcpcDepunct .rate2_3 (type3Arr.map some) params.type345Bits
    (List.replicate (MAX_TYPE345_BITS * 4) none)
  decSb1 type3dpArr (List.replicate MAX_TYPE2_BITS false) params.type2Bits

/-- Decode a control block from type-5 to type-1 bits, and say whether its check is right. Soft bits
are used if there is one for each bit of the block. -/
def decodeCp (lchan : LogicalChannel) (prim : TpUnitdataInd)
    (defaultScrambCode : Option (BitVec 32)) : Option (Option BitBuffer × Bool) := do
  guard (lchan.isControlChannel ∧ lchan ≠ .aach)
  let params ← getParams lchan
  let softType5 := prim.softBits.filter fun bits => bits.length == params.type345Bits
  match scramblingCodeFor prim.blockType defaultScrambCode with
  | none => some (none, false)
  | some scramblingCode => do
    let type4 ← Scrambler.tetraScrambBits scramblingCode prim.block
    let softType4 ← match softType5 with
      | some softType5 => (descrambleSoftBits scramblingCode softType5).map some
      | none => some none
    let type4Bits ← type4.toBitarr params.type345Bits
    let type4Arr ← copyFromSlice 0 type4Bits (List.replicate MAX_TYPE345_BITS false)
    let type3Arr ← Interleaver.blockDeinterleave params.type345Bits params.interleaveA type4Arr
      (List.replicate MAX_TYPE345_BITS false)
    let type2Arr ← match softType4 with
      | some softType4 => decodeSoft params softType4
      | none => decodeHard params type3Arr
    guard (params.haveCrc16 = true)
    let crcOk := Crc16.crc16CcittBits type2Arr (params.type1Bits + 16) == Crc16.TETRA_CRC_OK
    some (some (.ofBits (type2Arr.take params.type1Bits)), crcOk)

/-! ### The distance of the punctured code -/

/-- The fewest kept bits in which two messages that have parted differ, by the parity of the time and
the difference of their states; four stands for four or more. -/
def apart (time : Nat) (state other : Fin NUM_STATES) : Nat :=
  let table := if time % 2 = 0 then [4, 4, 2, 4, 3, 3, 3, 3, 1, 3, 3, 3, 2, 4, 2, 2]
    else [4, 3, 4, 3, 2, 3, 4, 3, 2, 3, 4, 3, 2, 3, 2, 3]
  table.getD (state.val ^^^ other.val) 0

/-- What is kept of the four bits for one bit, in even and in odd places. -/
def keptBits (time : Nat) : List Bool :=
  if time % 2 = 0 then [true, true, false, false] else [true, false, false, false]

theorem keptWord_rate2_3 (time : Nat) :
    keptWord 4 (getPuncturer .rate2_3).keeps time = keptBits time := by
  have place : ∀ offset, (getPuncturer .rate2_3).keeps (time * 4 + offset)
      = (getPuncturer .rate2_3).keeps (time % 2 * 4 + offset) := by
    intro offset
    have same : (time * 4 + offset) % 8 = (time % 2 * 4 + offset) % 8 := by omega
    change P_RATE2_3.tail.contains ((time * 4 + offset) % 8 + 1) = _
    rw [same]
    rfl
  simp only [keptWord, place, keptBits]
  rcases mod_two_eq_zero_or_one time with even | odd
  · rw [even]
    decide
  · rw [odd]
    decide

theorem apart_step : ∀ (phase : Fin 2) (state other : Fin NUM_STATES) (a b : Bool),
    apart (phase.val + 1) (shiftRegister.next a state) (shiftRegister.next b other)
      ≤ apart phase.val state other + disagreements (keptBits phase.val)
          ((code polynomials).emit a state)
          ((code polynomials).emit b other) := by
  decide +kernel

theorem apart_part : ∀ (phase : Fin 2) (state : Fin NUM_STATES) (a b : Bool), a ≠ b →
    apart (phase.val + 1) (shiftRegister.next a state) (shiftRegister.next b state)
      ≤ disagreements (keptBits phase.val) ((code polynomials).emit a state)
          ((code polynomials).emit b state) := by
  decide +kernel

theorem apart_congr {time time' : Nat} (same : time % 2 = time' % 2) : apart time = apart time' := by
  unfold apart
  rw [same]

/-- **Two messages that end in one state differ in at least four kept bits.** -/
theorem rate2_3_farApart : FarApart polynomials (getPuncturer .rate2_3).keeps 4 := by
  intro first second sameLength differ same
  have kept : ∀ time, keptWord polynomials.length
      (getPuncturer .rate2_3).keeps time = keptBits (time % 2) := by
    intro time
    rw [show polynomials.length = 4 from rfl, keptWord_rate2_3]
    unfold keptBits
    rw [mod_mod]
  have phase : ∀ time : Nat, time % 2 < 2 := fun time => mod_lt _ (by decide)
  have later : ∀ time : Nat, apart (time + 1) = apart (time % 2 + 1) :=
    fun time => apart_congr (by omega)
  have now : ∀ time : Nat, apart time = apart (time % 2) := fun time => apart_congr (by omega)
  have ends : (code polynomials).run 0 first = (code polynomials).run 0 second := same
  have four : 4 ≤ apart first.length ((code polynomials).run 0 first)
      ((code polynomials).run 0 second) := by
    rw [ends]
    unfold apart
    rw [Nat.xor_self]
    split <;> decide
  refine four.trans (Code.distance_ge apart ?_ ?_ first second sameLength differ)
  · intro time state a b parted
    rw [kept, later]
    exact apart_part ⟨time % 2, phase time⟩ state a b parted
  · intro time state other a b
    rw [kept, later, now time]
    exact apart_step ⟨time % 2, phase time⟩ state other a b

/-! ### Encoding, stage by stage -/

/-- The sizes of a control channel fit together: `count` periods of the punctured code. -/
structure Sound (params : ErrorControlParams) (count : Nat) : Prop where
  crc : params.haveCrc16 = true
  tail : params.type2Bits = params.type1Bits + 16 + 4
  periods : params.type2Bits = count * 2
  punctured : params.type345Bits = count * 3
  fits : params.type2Bits ≤ MAX_TYPE2_BITS
  spread : Interleaver.Spread params.type345Bits params.interleaveA

/-- **Every control channel but the AACH has sizes that fit together.** -/
theorem getParams_sound {lchan : LogicalChannel} (control : lchan.isControlChannel = true)
    (handled : lchan ≠ .aach) :
    ∃ params count, getParams lchan = some params ∧ Sound params count := by
  have spread : ∀ {k a : Nat}, a.Coprime k → a * k < 2 ^ 32 → Interleaver.Spread k a :=
    fun coprime small => ⟨coprime, small⟩
  cases lchan with
  | aach => exact absurd rfl handled
  | bsch =>
    exact ⟨BSCH_PARAMS, 40, rfl, rfl, rfl, rfl, rfl, by decide, spread (by decide) (by decide)⟩
  | schHd | stch | bnch =>
    exact ⟨SCH_HD_PARAMS, 72, rfl, rfl, rfl, rfl, rfl, by decide, spread (by decide) (by decide)⟩
  | schF =>
    exact ⟨SCH_F_PARAMS, 144, rfl, rfl, rfl, rfl, rfl, by decide, spread (by decide) (by decide)⟩
  | schHu =>
    exact ⟨SCH_HU_PARAMS, 56, rfl, rfl, rfl, rfl, rfl, by decide, spread (by decide) (by decide)⟩
  | tchS | tch24 | tch48 | tch72 | blch | clch => exact absurd control Bool.false_ne_true

variable (type1 : List Bool)

def protectedBits : List Bool :=
  type1 ++ Crc16.crcBits (~~~ Crc16.crc16CcittBits type1 type1.length)

/-- The type-2 bits of a block: its bits, their check and the tail. -/
def type2Of : List Bool := protectedBits type1 ++ List.replicate 4 false

def motherOf (type1 : List Bool) : List Bool :=
  (encodeBits ConvEncState.encodeBit .new (type2Of type1)).1

/-- The type-4 bits come from the type-1 bits by mother code, puncturing and interleaving. -/
structure Encoded (params : ErrorControlParams) (count : Nat) (type1 type3 type4 : List Bool) :
    Prop where
  punctured : ∀ j < count * 3, type3[j]? = (motherOf type1)[(getPuncturer .rate2_3).place (j + 1) - 1]?
  interleaved : Interleaver.blockInterleave params.type345Bits params.interleaveA type3
    (List.replicate MAX_TYPE345_BITS false) = some type4

theorem length_protectedBits : (protectedBits type1).length = type1.length + 16 := by
  simp [protectedBits]

theorem length_type2Of : (type2Of type1).length = type1.length + 16 + 4 := by
  simp [type2Of, length_protectedBits]

theorem length_motherOf : (motherOf type1).length = (type1.length + 16 + 4) * 4 := by
  have four : ∀ state bit, (encodeBit state bit).1.length = 4 := fun _ _ => rfl
  rw [motherOf, length_encodeBits four, length_type2Of]

theorem copyFromSlice_next {α : Type} (front slice : List α) (element : α) {room : Nat}
    (fits : slice.length ≤ room) :
    copyFromSlice front.length slice (front ++ List.replicate room element)
      = some (front ++ slice ++ List.replicate (room - slice.length) element) := by
  have inside : front.length + slice.length ≤ (front ++ List.replicate room element).length := by
    rw [length_append, length_replicate]
    omega
  rw [copyFromSlice, if_pos inside, take_left' rfl, ← drop_drop, drop_left' rfl, drop_replicate]

theorem control_encode {input : List Bool} {room : Nat} (fits : input.length * 4 ≤ room) :
    encode .new input (List.replicate room false) = some ((encodeBits encodeBit .new input).1
          ++ List.replicate (room - input.length * 4) false,
        (encodeBits encodeBit .new input).2) := by
  unfold ConvEncState.encode ConvEnc.encode
  rw [length_replicate, if_pos fits, drop_replicate]

/-- **The encoder goes through its stages for every block of the channel's length.** -/
theorem encodeCp_spec (prim : TmvUnitdataReq) {params : ErrorControlParams} {count : Nat}
    {type1 : List Bool} (control : prim.logicalChannel.isControlChannel = true)
    (handled : prim.logicalChannel ≠ .aach) (found : getParams prim.logicalChannel = some params)
    (sound : Sound params count) (length : prim.macBlock.getLen = params.type1Bits)
    (type1Length : type1.length = params.type1Bits)
    (contents : (prim.macBlock.seek 0).toBitarr params.type1Bits = some type1) :
    ∃ type3 type4, Encoded params count type1 type3 type4 ∧ type4.length = MAX_TYPE345_BITS
      ∧ encodeCp prim = some (.ofBits (scrambled prim.scramblingCode
          (type4.take params.type345Bits))) := by
  have tail := sound.tail
  have fits := sound.fits
  have periods := sound.periods
  have punctured := sound.punctured
  unfold MAX_TYPE2_BITS at fits
  -- type-1 to type-2: the check behind the bits, and zeroes left for the tail
  have written := copyFromSlice_next [] type1 false
    (show type1.length ≤ MAX_TYPE2_BITS by unfold MAX_TYPE2_BITS; omega)
  rw [List.nil_append, List.nil_append, List.length_nil] at written
  have checked := copyFromSlice_next type1 (crcBits (~~~ crc16CcittBits type1 type1.length)) false
    (show _ ≤ MAX_TYPE2_BITS - type1.length by
      rw [length_crcBits]; unfold MAX_TYPE2_BITS; omega)
  have type2 : (type1 ++ crcBits (~~~ crc16CcittBits type1 type1.length)
      ++ List.replicate (MAX_TYPE2_BITS - type1.length
        - (crcBits (~~~ crc16CcittBits type1 type1.length)).length) false).take
        params.type2Bits = type2Of type1 := by
    rw [List.take_append, List.take_of_length_le (by simp; omega), List.take_replicate]
    congr 2
    simp only [List.length_append, length_crcBits]
    unfold MAX_TYPE2_BITS
    omega
  -- type-2 to type-3: mother code and puncturing
  have roomy : (type2Of type1).length * 4 ≤ MAX_TYPE345_BITS * 4 := by
    rw [length_type2Of]
    unfold MAX_TYPE345_BITS
    omega
  have inside3 : Inside (motherOf type1
      ++ List.replicate (MAX_TYPE345_BITS * 4 - (type2Of type1).length * 4) false).length
      (List.replicate MAX_TYPE345_BITS false).length
      ((getPuncturer .rate2_3).moves (144 * (getPuncturer .rate2_3).t)) := by
    refine rate2_3_regular.inside ?_ (by rw [List.length_replicate]; decide)
    rw [List.length_append, length_motherOf, List.length_replicate, length_type2Of]
    unfold MAX_TYPE345_BITS
    change 144 * 8 ≤ _
    omega
  obtain ⟨type3, ran3, length3⟩ := move_ok inside3
  have punct : getPuncturedRate .rate2_3 (motherOf type1
      ++ List.replicate (MAX_TYPE345_BITS * 4 - (type2Of type1).length * 4) false)
      (List.replicate MAX_TYPE345_BITS false) = some type3 := by
    rw [getPuncturedRate, List.length_replicate]
    exact ran3
  -- type-3 to type-4
  have room : params.type345Bits ≤ type3.length
      ∧ params.type345Bits ≤ (List.replicate MAX_TYPE345_BITS false).length := by
    rw [length3, List.length_replicate]
    unfold MAX_TYPE345_BITS
    omega
  obtain ⟨type4, ran4, length4⟩ := move_ok (sound.spread.inside room.1 room.2)
  have interleaved : blockInterleave params.type345Bits params.interleaveA type3
      (List.replicate MAX_TYPE345_BITS false) = some type4 := by
    rw [blockInterleave, if_pos room, ran4]
  refine ⟨type3, type4, ⟨fun j inside => ?_, interleaved⟩, by rw [length4, List.length_replicate], ?_⟩
  · have member : ((getPuncturer .rate2_3).place (j + 1) - 1, j)
        ∈ (getPuncturer .rate2_3).moves (144 * (getPuncturer .rate2_3).t) :=
      List.mem_map_of_mem (List.mem_range.mpr (by change j < 144 * 3; omega))
    have place : (getPuncturer .rate2_3).place (j + 1) - 1 < count * 8 :=
      rate2_3_regular.place_lt inside
    rw [getElem?_move ran3 (rate2_3_regular.oneToOne _).onceTo member, List.getElem?_append_left]
    rw [length_motherOf]
    omega
  · rw [← type1Length] at length contents
    unfold encodeCp
    simp only [control, handled, found, length, contents, sound.crc, guard, ne_eq, not_false_eq_true,
      and_self, if_true, Option.pure_def, Option.bind_eq_bind, Option.bind_some, written,
      ← type1Length, List.take_left' rfl, checked, type2, control_encode roomy]
    change (getPuncturedRate .rate2_3 (motherOf type1
      ++ List.replicate (MAX_TYPE345_BITS * 4 - (type2Of type1).length * 4) false) _).bind _ = _
    rw [punct, Option.bind_some, interleaved, Option.bind_some, tetraScrambBits_ofBits]

/-! ### Decoding, stage by stage -/

section Decoding

variable {params : ErrorControlParams} {count : Nat} {type1 type3 type4 heard4 heard3 : List Bool}
  {place : Nat}

def padded (params : ErrorControlParams) (bits : List Bool) : List Bool :=
  bits ++ List.replicate (MAX_TYPE345_BITS - params.type345Bits) false

theorem AgreeOff.padded (agree : AgreeOff place heard4 (type4.take params.type345Bits)) :
    AgreeOff place (padded params heard4) (padded params (type4.take params.type345Bits)) := by
  refine ⟨by simp [ErrorControl.padded, agree.1], fun other differs => ?_⟩
  unfold ErrorControl.padded
  rw [getElem?_append, getElem?_append, agree.1, agree.2 other differs]

theorem length_padded (sound : Sound params count) {bits : List Bool}
    (length : bits.length = params.type345Bits) : (padded params bits).length = MAX_TYPE345_BITS := by
  have fits := sound.fits
  have periods := sound.periods
  have punctured := sound.punctured
  unfold MAX_TYPE2_BITS at fits
  rw [padded, length_append, length_replicate]
  unfold MAX_TYPE345_BITS
  omega

/-- **Deinterleaving gives the type-3 bits back, but for at most one.** -/
theorem deinterleave_spec (sound : Sound params count)
    (encoded : Encoded params count type1 type3 type4) (long : type4.length = MAX_TYPE345_BITS)
    (agree : AgreeOff place heard4 (type4.take params.type345Bits)) :
    ∃ heard3 clean3 place', blockDeinterleave params.type345Bits params.interleaveA
        (padded params heard4) (List.replicate MAX_TYPE345_BITS false) = some heard3
      ∧ heard3.length = MAX_TYPE345_BITS ∧ AgreeOff place' heard3 clean3
      ∧ ∀ j < params.type345Bits, clean3[j]? = type3[j]? := by
  have room : params.type345Bits ≤ MAX_TYPE345_BITS := by
    have fits := sound.fits
    have periods := sound.periods
    have punctured := sound.punctured
    unfold MAX_TYPE2_BITS at fits
    unfold MAX_TYPE345_BITS
    omega
  have takeLength : (type4.take params.type345Bits).length = params.type345Bits := by
    rw [length_take]
    omega
  have cleanLength := length_padded sound takeLength
  have heardLength := length_padded sound (agree.1.trans takeLength)
  have blank : (List.replicate MAX_TYPE345_BITS false).length = MAX_TYPE345_BITS := length_replicate
  have inside : Inside MAX_TYPE345_BITS MAX_TYPE345_BITS
      ((blockMoves params.type345Bits params.interleaveA).map Prod.swap) :=
    (sound.spread.inside room room).swap
  obtain ⟨clean3, ranClean, -⟩ := move_ok (show Inside
    (padded params (type4.take params.type345Bits)).length
    (List.replicate MAX_TYPE345_BITS false).length _ by rw [cleanLength, blank]; exact inside)
  obtain ⟨heard3, ranHeard, heard3Length⟩ := move_ok (show Inside (padded params heard4).length
    (List.replicate MAX_TYPE345_BITS false).length _ by rw [heardLength, blank]; exact inside)
  obtain ⟨place', agree3⟩ := (AgreeOff.padded agree).move sound.spread.oneToOne.swap ranHeard ranClean
  -- the places the deinterleaver reads are those of the untouched type-4 bits
  have reads : ∀ step ∈ (blockMoves params.type345Bits params.interleaveA).map Prod.swap,
      (padded params (type4.take params.type345Bits))[step.1]? = type4[step.1]? := by
    intro step member
    have stepIn : step.1 < params.type345Bits :=
      ((sound.spread.inside le_rfl le_rfl).swap step member).1
    rw [padded, getElem?_append_left (by rwa [takeLength]), getElem?_take, if_pos stepIn]
  rw [move_congr reads] at ranClean
  have again : blockDeinterleave params.type345Bits params.interleaveA type4
      (List.replicate MAX_TYPE345_BITS false) = some clean3 := by
    rw [blockDeinterleave, if_pos ⟨by rw [long]; exact room, by rw [blank]; exact room⟩, ranClean]
  refine ⟨heard3, clean3, place', ?_, heard3Length.trans blank, agree3, fun j jLt => ?_⟩
  · rw [blockDeinterleave,
      if_pos ⟨by rw [heardLength]; exact room, by rw [blank]; exact room⟩, ranHeard]
  · exact block_restored sound.spread encoded.interleaved again jLt

variable {clean3 : List Bool}

variable (sound : Sound params count)

include sound

/-- **Depuncturing gives a stream with bits in the kept places, of which at most one is wrong.** -/
theorem depunct_spec (type1Length : type1.length = params.type1Bits)
    (long : heard3.length = MAX_TYPE345_BITS) (agree : AgreeOff place heard3 clean3)
    (punctured : ∀ j < count * 3,
      clean3[j]? = (motherOf type1)[(getPuncturer .rate2_3).place (j + 1) - 1]?) :
    ∃ stream, tetraRcpcDepunct .rate2_3 (heard3.map some) params.type345Bits
        (List.replicate (MAX_TYPE345_BITS * 4) none) = some stream
      ∧ stream.length = MAX_TYPE345_BITS * 4
      ∧ (∀ spot < params.type2Bits * 4,
        stream[spot]?.map Option.isSome = some ((getPuncturer .rate2_3).keeps spot))
      ∧ mismatches (stream.take (params.type2Bits * 4)) (motherOf type1) ≤ 1 := by
  have fits := sound.fits
  have periods := sound.periods
  have lengths := sound.punctured
  unfold MAX_TYPE2_BITS at fits
  have size : MAX_TYPE345_BITS * 4 = 1728 := rfl
  have blank : (List.replicate (MAX_TYPE345_BITS * 4) (none : Option Bool)).length
      = MAX_TYPE345_BITS * 4 := length_replicate
  have inside : Inside MAX_TYPE345_BITS (MAX_TYPE345_BITS * 4)
      (((getPuncturer .rate2_3).moves (count * (getPuncturer .rate2_3).t)).map Prod.swap) := by
    refine (rate2_3_regular.inside ?_ ?_).swap
    · change count * 8 ≤ _
      omega
    · change count * 3 ≤ _
      omega
  have cleanLength : clean3.length = MAX_TYPE345_BITS := agree.1.symm.trans long
  obtain ⟨stream, ranHeard, streamLength⟩ := move_ok (show Inside (heard3.map some).length
    (List.replicate (MAX_TYPE345_BITS * 4) (none : Option Bool)).length _ by
      rw [length_map, long, blank]; exact inside)
  obtain ⟨clean, ranClean, -⟩ := move_ok (show Inside (clean3.map some).length
    (List.replicate (MAX_TYPE345_BITS * 4) (none : Option Bool)).length _ by
      rw [length_map, cleanLength, blank]; exact inside)
  obtain ⟨place', agree'⟩ := (agree.map some).move (rate2_3_regular.oneToOne _).swap ranHeard ranClean
  have periodRoom : count * (getPuncturer .rate2_3).period ≤ MAX_TYPE345_BITS * 4 := by
    change count * 8 ≤ _
    omega
  have enough : count * (getPuncturer .rate2_3).t ≤ heard3.length := by
    change count * 3 ≤ _
    omega
  have period : params.type2Bits * 4 = count * (getPuncturer .rate2_3).period := by
    change _ = count * 8
    omega
  refine ⟨stream, ?_, streamLength.trans blank, fun spot spotLt => ?_, ?_⟩
  · rw [lengths]
    exact ranHeard
  · exact depunct_present rate2_3_regular periodRoom enough ranHeard (period ▸ spotLt)
  · have right : mismatches (clean.take (params.type2Bits * 4)) (motherOf type1) = 0 := by
      refine mismatches_eq_zero fun spot symbol found => ?_
      rw [getElem?_take] at found
      split at found
      · exact depunct_punctured rate2_3_regular periodRoom punctured ranClean
          (period ▸ ‹spot < params.type2Bits * 4›) found
      · cases found
    have near := mismatches_agreeOff (agree'.take (params.type2Bits * 4)) (motherOf type1)
    omega

/-- **The decoder finds the type-2 bits in a stream with at most one wrong bit.** -/
theorem decode_stream (type1Length : type1.length = params.type1Bits) {stream : List (Option Bool)}
    (long : stream.length = MAX_TYPE345_BITS * 4) (present : ∀ spot < params.type2Bits * 4,
      stream[spot]?.map Option.isSome = some ((getPuncturer .rate2_3).keeps spot))
    (close : mismatches (stream.take (params.type2Bits * 4)) (motherOf type1) ≤ 1)
    {strength : SoftBit} (strong : 0 < strength) (bounded : strength ≤ 127) :
    TetraViterbiDecoder.new.decode ((stream.take (params.type2Bits * 4)).map (softBit strength))
      = type2Of type1 := by
  have fits := sound.fits
  have tail := sound.tail
  unfold MAX_TYPE2_BITS at fits
  have streamLength : (stream.take (params.type2Bits * 4)).length = params.type2Bits * 4 := by
    rw [length_take, long]
    unfold MAX_TYPE345_BITS
    omega
  refine decode_encoded control_encodes rate2_3_farApart (by decide) ?_ ?_ strong ?_ ?_
  · change _ = (type2Of type1).length * 4
    rw [length_type2Of]
    omega
  · intro spot spotLt
    rw [streamLength] at spotLt
    rw [getElem?_take, if_pos spotLt]
    exact present spot spotLt
  · rw [streamLength]
    have few : ((params.type2Bits * 4 : ℕ) : ℤ) ≤ 1152 := by omega
    have scaled : 2 * strength * ((params.type2Bits * 4 : ℕ) : ℤ) ≤ 2 * 127 * 1152 := by
      refine mul_le_mul ?_ few (by positivity) (by norm_num)
      linarith
    exact scaled.trans_lt (by decide)
  · exact (mul_le_mul_left 2 close).trans_lt (by decide)

theorem decSb1Soft_spec (type1Length : type1.length = params.type1Bits) {soft : List SoftBit}
    (long : params.type2Bits * 4 ≤ soft.length)
    (decoded : TetraViterbiDecoder.new.decode (soft.take (params.type2Bits * 4)) = type2Of type1) :
    decSb1Soft soft (List.replicate MAX_TYPE2_BITS false) params.type2Bits
      = some (type2Of type1 ++ List.replicate (MAX_TYPE2_BITS - params.type2Bits) false) := by
  have fits := sound.fits
  have tail := sound.tail
  have room : params.type2Bits * 4 ≤ soft.length
      ∧ params.type2Bits ≤ (List.replicate MAX_TYPE2_BITS false).length := by
    rw [length_replicate]
    exact ⟨long, fits⟩
  have whole : (type2Of type1).take params.type2Bits = type2Of type1 :=
    take_of_length_le (by rw [length_type2Of]; omega)
  rw [decSb1Soft, if_pos room]
  simp only [decoded, whole, drop_replicate]

/-- **Hard bits of which at most one is wrong decode to the type-2 bits.** -/
theorem decodeHard_spec (type1Length : type1.length = params.type1Bits)
    (long : heard3.length = MAX_TYPE345_BITS) (agree : AgreeOff place heard3 clean3)
    (punctured : ∀ j < count * 3,
      clean3[j]? = (motherOf type1)[(getPuncturer .rate2_3).place (j + 1) - 1]?) :
    decodeHard params heard3
      = some (type2Of type1 ++ List.replicate (MAX_TYPE2_BITS - params.type2Bits) false) := by
  have fits := sound.fits
  unfold MAX_TYPE2_BITS at fits
  obtain ⟨stream, ran, streamLength, present, close⟩ :=
    depunct_spec sound type1Length long agree punctured
  have decoded := decode_stream sound type1Length streamLength present close one_pos (by norm_num)
  have room : params.type2Bits ≤ 864 ∧ params.type2Bits * 4 ≤ stream.length
      ∧ params.type2Bits ≤ (List.replicate MAX_TYPE2_BITS false).length := by
    rw [streamLength, length_replicate]
    unfold MAX_TYPE345_BITS MAX_TYPE2_BITS
    omega
  have cut : ((stream.take (params.type2Bits * 4)).map (softBit 1)).length = params.type2Bits * 4 := by
    rw [length_map, length_take]
    omega
  rw [decodeHard, ran, Option.bind_eq_bind, Option.bind_some, decSb1, if_pos room]
  exact decSb1Soft_spec sound type1Length cut.ge (by rw [take_of_length_le cut.le, decoded])

def softened (strength : SoftBit) (bits : List Bool) : List SoftBit :=
  bits.map fun bit => softBit strength (some bit)

/-- **Soft bits of one strength decode as the hard bits do.** -/
theorem decodeSoft_spec (type1Length : type1.length = params.type1Bits)
    (heard4Length : heard4.length = params.type345Bits)
    (ran3 : blockDeinterleave params.type345Bits params.interleaveA
      (padded params heard4) (List.replicate MAX_TYPE345_BITS false) = some heard3)
    (agree : AgreeOff place heard3 clean3) (punctured : ∀ j < count * 3,
      clean3[j]? = (motherOf type1)[(getPuncturer .rate2_3).place (j + 1) - 1]?) {strength : SoftBit}
    (strong : 0 < strength) (bounded : strength ≤ 127) :
    decodeSoft params (softened strength heard4)
      = some (type2Of type1 ++ List.replicate (MAX_TYPE2_BITS - params.type2Bits) false) := by
  have fits := sound.fits
  have periods := sound.periods
  have lengths := sound.punctured
  unfold MAX_TYPE2_BITS at fits
  have room : params.type345Bits ≤ MAX_TYPE345_BITS := by
    unfold MAX_TYPE345_BITS
    omega
  have softLength : (softened strength heard4).length = params.type345Bits := by
    rw [softened, length_map, heard4Length]
  have paddedLength := length_padded sound heard4Length
  unfold blockDeinterleave at ran3
  rw [if_pos ⟨by rw [paddedLength]; exact room, by rw [length_replicate]; exact room⟩] at ran3
  have long3 : heard3.length = MAX_TYPE345_BITS := by
    rw [length_move ran3, length_replicate]
  obtain ⟨stream, ran, streamLength, present, close⟩ :=
    depunct_spec sound type1Length long3 agree punctured
  -- the soft type-3 bits are those of the hard ones, as far as the channel uses them
  obtain ⟨soft3, ranSoft, -⟩ := move_ok (show Inside (softened strength heard4).length
    (List.replicate MAX_TYPE345_BITS (0 : SoftBit)).length
    ((blockMoves params.type345Bits params.interleaveA).map Prod.swap) by
      rw [softLength, length_replicate]; exact (sound.spread.inside room le_rfl).swap)
  have same : ∀ j < params.type345Bits,
      soft3[j]? = ((heard3.map some).map (softBit strength))[j]? := by
    intro j jLt
    have member : (blockInterlFunc params.type345Bits params.interleaveA (j + 1) - 1, j)
        ∈ (blockMoves params.type345Bits params.interleaveA).map Prod.swap :=
      mem_map.mpr ⟨(j, _), mem_map_of_mem (mem_range.mpr jLt), rfl⟩
    have source := ((sound.spread.inside le_rfl le_rfl).swap _ member).1
    have soft := getElem?_move ranSoft sound.spread.oneToOne.swap.onceTo member
    have hard := getElem?_move ran3 sound.spread.oneToOne.swap.onceTo member
    rw [soft, getElem?_map, getElem?_map, hard, softened, padded,
      getElem?_append_left (by rwa [heard4Length])]
    simp [Function.comp_def]
  have depunct : tetraRcpcDepunct .rate2_3 soft3 params.type345Bits
      (List.replicate (MAX_TYPE345_BITS * 4) 0) = some (stream.map (softBit strength)) := by
    have reads : ∀ step ∈ ((getPuncturer .rate2_3).moves params.type345Bits).map Prod.swap,
        soft3[step.1]? = ((heard3.map some).map (softBit strength))[step.1]? := by
      intro step member
      obtain ⟨other, there, rfl⟩ := mem_map.mp member
      obtain ⟨j, inRange, rfl⟩ := mem_map.mp there
      exact same j (mem_range.mp inRange)
    have zeroes : List.replicate (MAX_TYPE345_BITS * 4) (0 : SoftBit)
        = (List.replicate (MAX_TYPE345_BITS * 4) none).map (softBit strength) := by
      rw [map_replicate]
      rfl
    unfold tetraRcpcDepunct at ran ⊢
    rw [move_congr reads, zeroes, move_map, ran]
    rfl
  have decoded := decode_stream sound type1Length streamLength present close strong bounded
  have deinterleave : blockDeinterleave params.type345Bits params.interleaveA
      (softened strength heard4) (List.replicate MAX_TYPE345_BITS 0) = some soft3 := by
    rw [blockDeinterleave,
      if_pos ⟨by rw [softLength], by rw [length_replicate]; exact room⟩, ranSoft]
  rw [decodeSoft, deinterleave, Option.bind_eq_bind, Option.bind_some, depunct]
  refine decSb1Soft_spec sound type1Length ?_ (by rw [← map_take, decoded])
  rw [length_map]
  omega

end Decoding

/-! ### A block, encoded and decoded -/

def windowBits (buffer : BitBuffer) : List Bool :=
  (buffer.bits.drop buffer.start).take (buffer.stop - buffer.start)

theorem length_windowBits {buffer : BitBuffer} (window : buffer.Window) :
    (windowBits buffer).length = buffer.getLen := by
  have stopLe := window.stop_le
  rw [windowBits, length_take, length_drop, getLen]
  omega

theorem getLen_ofBits (bits : List Bool) : (ofBits bits).getLen = bits.length := Nat.sub_zero _

theorem windowBits_ofBits (bits : List Bool) : windowBits (.ofBits bits) = bits := by
  simp [windowBits, BitBuffer.ofBits]

theorem toBitarr_window {buffer : BitBuffer} (window : buffer.Window) :
    (buffer.seek 0).toBitarr buffer.getLen = some (windowBits buffer) := by
  have room : buffer.getLen ≤ (buffer.seek 0).getLenRemaining := le_rfl
  rw [toBitarr, if_pos room]
  exact congrArg some (take_of_length_le (length_windowBits window).le)

/-- The receiver has no soft bits for the block (or not one for each bit), or they are the block's
own bits at one strength. -/
def SoftReading (block : List Bool) (softBits : Option (List SoftBit)) : Prop :=
  ∀ soft, softBits = some soft → soft.length = block.length →
    ∃ strength, 0 < strength ∧ strength ≤ 127 ∧ soft = softened strength block

theorem descramble_softened {strength : SoftBit} (bounded : strength ≤ 127) (strong : 0 < strength)
    (code : BitVec 32) {block : List Bool} (short : block.length ≤ MAX_TYPE345_BITS) :
    descrambleSoftBits code (softened strength block)
      = some (softened strength (scrambled code block)) := by
  have length : (softened strength block).length = block.length := by simp [softened]
  rw [descrambleSoftBits, if_pos (by rwa [length]), length]
  congr 1
  unfold softened scrambled
  rw [zipWith_map_left, map_zipWith]
  congr 1
  funext bit key
  have notLowest : ∀ value : Bool, softBit strength (some value) ≠ -128 := by
    intro value lowest
    cases value <;> simp only [softBit] at lowest <;> linarith
  cases key with
  | false => simp
  | true =>
    rw [saturatingNeg, if_neg (notLowest bit)]
    cases bit <;> simp [softBit]

theorem toBitarr_ofBits (bits : List Bool) : (BitBuffer.ofBits bits).toBitarr bits.length = some bits := by
  rw [BitBuffer.toBitarr, if_pos (by simp [BitBuffer.getLenRemaining, BitBuffer.ofBits]),
    unread_ofBits, take_length]

theorem typeTwo_checked (zeroes : Nat) :
    (type2Of type1 ++ List.replicate zeroes false).take type1.length = type1
      ∧ crc16CcittBits (type2Of type1 ++ List.replicate zeroes false) (type1.length + 16)
        = Crc16.TETRA_CRC_OK := by
  unfold type2Of protectedBits
  constructor
  · rw [append_assoc, append_assoc, take_left' rfl]
  · rw [append_assoc]
    exact crc16CcittBits_protected type1 _

/-- **The decoder finds the type-1 bits of an encoded block, of which at most one bit is wrong.** -/
theorem decodeCp_spec {lchan : LogicalChannel} {params : ErrorControlParams} {count : Nat}
    {type1 type3 type4 heard : List Bool} {place : Nat} {code : BitVec 32} {prim : TpUnitdataInd}
    {defaultScrambCode : Option (BitVec 32)} (control : lchan.isControlChannel = true)
    (handled : lchan ≠ .aach) (found : getParams lchan = some params) (sound : Sound params count)
    (type1Length : type1.length = params.type1Bits)
    (encoded : Encoded params count type1 type3 type4) (long : type4.length = MAX_TYPE345_BITS)
    (agree : AgreeOff place heard (scrambled code (type4.take params.type345Bits)))
    (block : prim.block = .ofBits heard) (soft : SoftReading heard prim.softBits)
    (sameCode : scramblingCodeFor prim.blockType defaultScrambCode = some code) :
    decodeCp lchan prim defaultScrambCode = some (some (.ofBits type1), true) := by
  have fits := sound.fits
  have periods := sound.periods
  have lengths := sound.punctured
  unfold MAX_TYPE2_BITS at fits
  have room : params.type345Bits ≤ MAX_TYPE345_BITS := by
    unfold MAX_TYPE345_BITS
    omega
  -- descrambling undoes scrambling, place by place
  have agree4 : AgreeOff place (scrambled code heard) (type4.take params.type345Bits) := by
    have descrambled := Scrambler.AgreeOff.scrambled agree code
    rwa [scrambled_scrambled] at descrambled
  have heardLength : heard.length = params.type345Bits := by
    rw [agree.1, length_scrambled, List.length_take]
    omega
  have heard4Length : (scrambled code heard).length = params.type345Bits := by
    rw [length_scrambled, heardLength]
  obtain ⟨heard3, clean3, place', ran3, long3, agree3, same⟩ :=
    deinterleave_spec sound encoded long agree4
  have punctured : ∀ j < count * 3,
      clean3[j]? = (motherOf type1)[(getPuncturer .rate2_3).place (j + 1) - 1]? := by
    intro j jLt
    rw [same j (by omega), encoded.punctured j jLt]
  have hard := decodeHard_spec sound type1Length long3 agree3 punctured
  have descrambled : tetraScrambBits code prim.block = some (.ofBits (scrambled code heard)) := by
    rw [block, tetraScrambBits_ofBits]
  have read := toBitarr_ofBits (scrambled code heard)
  have array := copyFromSlice_next [] (scrambled code heard) false
    (show _ ≤ MAX_TYPE345_BITS by rw [heard4Length]; exact room)
  rw [heard4Length] at read array
  rw [List.nil_append, List.nil_append, List.length_nil] at array
  have checked := typeTwo_checked type1 (MAX_TYPE2_BITS - params.type2Bits)
  rw [type1Length] at checked
  have deinterleaved : blockDeinterleave params.type345Bits params.interleaveA
      (scrambled code heard ++ List.replicate (MAX_TYPE345_BITS - params.type345Bits) false)
      (List.replicate MAX_TYPE345_BITS false) = some heard3 := ran3
  unfold decodeCp
  cases softType5 : prim.softBits.filter fun bits => bits.length == params.type345Bits with
  | none =>
    simp only [control, handled, found, sameCode, guard, ne_eq, not_false_eq_true, and_self,
      if_true, Option.pure_def, Option.bind_eq_bind, Option.bind_some, descrambled, read, array,
      sound.crc, softType5, deinterleaved, hard, checked, beq_self_eq_true]
  | some softBits =>
    obtain ⟨there, sameLength⟩ := Option.filter_eq_some_iff.mp softType5
    obtain ⟨strength, strong, bounded, uniform⟩ :=
      soft softBits there (by rw [heardLength]; simpa using sameLength)
    have quiet := descramble_softened bounded strong code (heardLength.le.trans room)
    have decoded := decodeSoft_spec sound type1Length heard4Length ran3 agree3 punctured strong bounded
    simp only [control, handled, found, sameCode, guard, ne_eq, not_false_eq_true, and_self,
      if_true, Option.pure_def, Option.bind_eq_bind, Option.bind_some, descrambled, read, array,
      sound.crc, softType5, deinterleaved, uniform, quiet, Option.map_some, decoded, checked,
      beq_self_eq_true]

/-- **What was encoded is decoded, also with any one bit wrong.** For every control channel that is
handled, every block of its length and every scrambling code, as long as the receiver uses that code
(a synchronisation block is received with the fixed one). -/
theorem decodeCp_encodeCp {lchan : LogicalChannel} (control : lchan.isControlChannel = true)
    (handled : lchan ≠ .aach) {macBlock : BitBuffer} (window : macBlock.Window)
    (length : (getParams lchan).map ErrorControlParams.type1Bits = some macBlock.getLen)
    (code : BitVec 32) :
    ∃ type5, encodeCp ⟨macBlock, lchan, code⟩ = some (.ofBits type5)
      ∧ ∀ heard, heard = type5 ∨ (∃ place, heard = type5.modify place (!·)) →
        ∀ (prim : TpUnitdataInd) (defaultScrambCode : Option (BitVec 32)),
          prim.block = .ofBits heard → SoftReading heard prim.softBits →
          scramblingCodeFor prim.blockType defaultScrambCode = some code →
          decodeCp lchan prim defaultScrambCode
            = some (some (.ofBits (windowBits macBlock)), true) := by
  obtain ⟨params, count, found, sound⟩ := getParams_sound control handled
  have lengths : macBlock.getLen = params.type1Bits := by
    rw [found] at length
    exact (Option.some.inj length).symm
  have contentsLength : (windowBits macBlock).length = params.type1Bits :=
    (length_windowBits window).trans lengths
  have contents : (macBlock.seek 0).toBitarr params.type1Bits = some (windowBits macBlock) := by
    rw [← lengths, toBitarr_window window]
  obtain ⟨type3, type4, encoded, long, sent⟩ :=
    encodeCp_spec ⟨macBlock, lchan, code⟩ control handled found sound lengths contentsLength contents
  refine ⟨_, sent, fun heard wrong prim defaultScrambCode block soft sameCode => ?_⟩
  obtain ⟨place, agree⟩ : ∃ place, AgreeOff place heard
      (scrambled code (type4.take params.type345Bits)) := by
    rcases wrong with rfl | ⟨place, rfl⟩
    · exact ⟨0, .refl 0 _⟩
    · exact ⟨place, .modify place _ _⟩
  exact decodeCp_spec control handled found sound contentsLength encoded long agree block soft sameCode

/-- A synchronisation block of 60 ones, received without soft bits and with its 18th bit wrong. -/
theorem decodeCp_encodeCp_bsch :
    ∃ type5, encodeCp ⟨.ofBits (List.replicate 60 true), .bsch, Scrambler.SCRAMB_INIT⟩
        = some (.ofBits type5)
      ∧ decodeCp .bsch ⟨.sb1, none, .ofBits (type5.modify 17 (!·))⟩ none
        = some (some (.ofBits (List.replicate 60 true)), true) := by
  obtain ⟨type5, sent, received⟩ := decodeCp_encodeCp
    (show LogicalChannel.bsch.isControlChannel = true from rfl) (by decide) (ofBits_window (List.replicate 60 true)) rfl Scrambler.SCRAMB_INIT
  exact ⟨type5, sent, received _ (.inr ⟨17, rfl⟩) ⟨.sb1, none, _⟩ none rfl nofun rfl⟩

end Bluestation.ErrorControl
