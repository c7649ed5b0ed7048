/-
**The channel allocation element.**

Extended carrier numbering and augmented allocations are not implemented: the encoder, the decoder
and the length computation all stop there. `Encodable` names the elements that can be written.

* `writes_toBitbuf`, `reads_fromBitbuf` — an encodable element is written and read back.
* `computeLen_ok` — its computed length is the length of what is written.
-/

import Bluestation.Core.Fields

namespace Bluestation

open Bits Option

inductive ChanAllocType where
  | replace | additional | quitAndGo | replaceWithCarrierSignalling
deriving DecidableEq

namespace ChanAllocType

def tryFrom : Nat → Option ChanAllocType
  | 0 => some replace
  | 1 => some additional
  | 2 => some quitAndGo
  | 3 => some replaceWithCarrierSignalling
  | _ => none

def intoRaw : ChanAllocType → Nat
  | replace => 0
  | additional => 1
  | quitAndGo => 2
  | replaceWithCarrierSignalling => 3

end ChanAllocType

inductive UlDlAssignment where
  | augmented | dl | ul | both
deriving DecidableEq

namespace UlDlAssignment

def tryFrom : Nat → Option UlDlAssignment
  | 0 => some augmented
  | 1 => some dl
  | 2 => some ul
  | 3 => some both
  | _ => none

def intoRaw : UlDlAssignment → Nat
  | augmented => 0
  | dl => 1
  | ul => 2
  | both => 3

end UlDlAssignment

/-- A value the program does not carry yet. -/
abbrev Todo := Int

structure ChanAllocElement where
  allocType : ChanAllocType
  /-- One flag for each timeslot, TS1 to TS4. -/
  tsAssigned : Vector Bool 4
  ulDlAssigned : UlDlAssignment
  clchPermission : Bool
  cellChangeFlag : Bool
  carrierNum : Nat
  ext : Option Todo
  monPattern : Nat
  frame18MonPattern : Option Nat
deriving DecidableEq

namespace ChanAllocElement

def readFrame18MonPattern (monPattern : Nat) : BufM (Option Nat) :=
  match monPattern with
  | 0 => do
    let pattern ← readField 2 "frame18_mon_pattern"
    pure (some pattern)
  | _ => pure none

def fromBitbuf : BufM ChanAllocElement := do
  let allocTypeVal ← readField 2 "alloc_type"
  let some allocType := ChanAllocType.tryFrom allocTypeVal | throw .panic
  let bitmap ← readField 4 "ts_assigned"
  let ulDlVal ← readField 2 "ul_dl_assigned"
  let some ulDlAssigned := UlDlAssignment.tryFrom ulDlVal | throw .panic
  let clchPermission ← readField 1 "clch_permission"
  let cellChangeFlag ← readField 1 "cell_change_flag"
  let carrierNum ← readField 12 "carrier_num"
  let extCarrierNumFlag ← readField 1 "ext_carrier_num_flag"
  -- extended channel allocation is unimplemented
  assertThat (extCarrierNumFlag ≠ 1)
  let monPattern ← readField 2 "mon_pattern"
  let frame18MonPattern ← readFrame18MonPattern monPattern
  -- so are augmented channel allocations
  assertThat (ulDlAssigned ≠ .augmented)
  pure {
    allocType
    tsAssigned := #v[bitmap.testBit 3, bitmap.testBit 2, bitmap.testBit 1, bitmap.testBit 0]
    ulDlAssigned
    clchPermission := clchPermission != 0
    cellChangeFlag := cellChangeFlag != 0
    carrierNum
    ext := none
    monPattern
    frame18MonPattern }

/-- The optional field that follows a zero monitoring pattern; it must be there then. -/
def writeFrame18MonPattern (element : ChanAllocElement) : BufM Unit :=
  if element.monPattern = 0 then
    match element.frame18MonPattern with
    | some pattern => writeBits pattern 2
    | none => throw .panic
  else pure ()

def toBitbuf (element : ChanAllocElement) : BufM Unit := do
  writeBits element.allocType.intoRaw 2
  writeBit element.tsAssigned[0]
  writeBit element.tsAssigned[1]
  writeBit element.tsAssigned[2]
  writeBit element.tsAssigned[3]
  writeBits element.ulDlAssigned.intoRaw 2
  writeBits element.clchPermission.toNat 1
  writeBits element.cellChangeFlag.toNat 1
  writeBits element.carrierNum 12
  assertThat (element.ext = none)
  writeBits 0 1
  writeBits element.monPattern 2
  element.writeFrame18MonPattern
  assertThat (element.ulDlAssigned ≠ .augmented)

def computeLen (element : ChanAllocElement) : Except Fault Nat := do
  assertThat (element.ext = none)
  assertThat (element.ulDlAssigned ≠ .augmented)
  pure (2 + 4 + 2 + 1 + 1 + 12 + 1 + 2 + if element.monPattern = 0 then 2 else 0)

/-- An element whose every field has a wire form, of the field's width. -/
structure Encodable (element : ChanAllocElement) : Prop where
  notExtended : element.ext = none
  notAugmented : element.ulDlAssigned ≠ .augmented
  carrierNum_lt : element.carrierNum < 2 ^ 12
  monPattern_lt : element.monPattern < 2 ^ 2
  /-- The frame 18 pattern is there exactly when the monitoring pattern is zero. -/
  frame18_isSome : element.frame18MonPattern.isSome = decide (element.monPattern = 0)
  frame18_lt : ∀ pattern ∈ element.frame18MonPattern, pattern < 2 ^ 2

def frame18Wire (element : ChanAllocElement) : List Bool :=
  match element.frame18MonPattern with
  | some pattern => bitsOf 2 pattern
  | none => []

/-- The bits of an element on the wire. -/
def wire (element : ChanAllocElement) : List Bool :=
  bitsOf 2 element.allocType.intoRaw ++ (element.tsAssigned.toList ++
    (bitsOf 2 element.ulDlAssigned.intoRaw ++ (bitsOf 1 element.clchPermission.toNat ++
      (bitsOf 1 element.cellChangeFlag.toNat ++ (bitsOf 12 element.carrierNum ++
        (bitsOf 1 0 ++ (bitsOf 2 element.monPattern ++ element.frame18Wire)))))))

/-! ### Round trip -/

theorem allocType_tryFrom_intoRaw (kind : ChanAllocType) :
    ChanAllocType.tryFrom kind.intoRaw = some kind := by
  cases kind <;> rfl

theorem allocType_intoRaw_lt (kind : ChanAllocType) : kind.intoRaw < 2 ^ 2 := by
  cases kind <;> decide

theorem ulDl_tryFrom_intoRaw (assignment : UlDlAssignment) :
    UlDlAssignment.tryFrom assignment.intoRaw = some assignment := by
  cases assignment <;> rfl

theorem ulDl_intoRaw_lt (assignment : UlDlAssignment) : assignment.intoRaw < 2 ^ 2 := by
  cases assignment <;> decide

theorem tsAssigned_bitmap (flags : Vector Bool 4) :
    #v[(valueOf flags.toList).testBit 3, (valueOf flags.toList).testBit 2,
      (valueOf flags.toList).testBit 1, (valueOf flags.toList).testBit 0] = flags := by
  have each : ∀ a b c d : Bool, #v[(valueOf [a, b, c, d]).testBit 3,
      (valueOf [a, b, c, d]).testBit 2, (valueOf [a, b, c, d]).testBit 1,
      (valueOf [a, b, c, d]).testBit 0] = #v[a, b, c, d] := by decide
  have shape : flags = #v[flags[0], flags[1], flags[2], flags[3]] := by
    ext position below
    match position, below with
    | 0, _ | 1, _ | 2, _ | 3, _ => rfl
  rw [shape]
  exact each _ _ _ _

theorem tsAssigned_toList (flags : Vector Bool 4) :
    flags.toList = [flags[0]] ++ ([flags[1]] ++ ([flags[2]] ++ [flags[3]])) := by
  have shape : flags = #v[flags[0], flags[1], flags[2], flags[3]] := by
    ext position below
    match position, below with
    | 0, _ | 1, _ | 2, _ | 3, _ => rfl
  rw [shape]
  rfl

theorem reads_tsAssigned (flags : Vector Bool 4) :
    Reads (readField 4 "ts_assigned") flags.toList (valueOf flags.toList) := by
  have read := Reads.take (Fault.parse (.bufferEnded "ts_assigned")) flags.toList
  rwa [Vector.length_toList] at read

variable {element : ChanAllocElement}

section

variable (encodable : element.Encodable)

include encodable

theorem writes_frame18 : Writes element.writeFrame18MonPattern element.frame18Wire := by
  have isSome := encodable.frame18_isSome
  by_cases zero : element.monPattern = 0
  · simp only [zero] at isSome
    obtain ⟨pattern, same⟩ := isSome_iff_exists.mp isSome
    simp only [writeFrame18MonPattern, if_pos zero, frame18Wire, same]
    exact writes_writeBits _ _
  · simp only [zero, decide_false, isSome_eq_false_iff, isNone_iff_eq_none] at isSome
    simp only [writeFrame18MonPattern, if_neg zero, frame18Wire, isSome]
    exact .pure

theorem reads_frame18 : Reads (readFrame18MonPattern element.monPattern) element.frame18Wire
      element.frame18MonPattern := by
  have isSome := encodable.frame18_isSome
  by_cases zero : element.monPattern = 0
  · simp only [zero] at isSome
    obtain ⟨pattern, same⟩ := isSome_iff_exists.mp isSome
    have below : pattern < 2 ^ 2 := encodable.frame18_lt pattern same
    simp only [zero, frame18Wire, same]
    exact (reads_readField _ below).finish (.pure _)
  · simp only [zero, decide_false, isSome_eq_false_iff, isNone_iff_eq_none] at isSome
    simp only [frame18Wire, isSome]
    obtain ⟨before, same⟩ := Nat.exists_eq_succ_of_ne_zero zero
    rw [same]
    exact .pure none

/-- **An encodable element is written as its wire bits.** -/
theorem writes_toBitbuf : Writes element.toBitbuf element.wire := by
  have written : Writes element.toBitbuf _ := .bits <| .flag <| .flag <| .flag <| .flag <| .bits <|
      .bits <| .bits <|
      .bits <| (writes_lift (assertThat_of encodable.notExtended)).bind <|
      .bits <| .bits <|
      (writes_frame18 encodable).bind <| writes_lift (assertThat_of encodable.notAugmented)
  simpa only [wire, tsAssigned_toList, List.append_assoc, List.nil_append, List.append_nil]
    using written

/-- **What was written is read back.** -/
theorem reads_fromBitbuf : Reads fromBitbuf element.wire element := by
  refine .field (allocType_intoRaw_lt _) ?_
  rw [allocType_tryFrom_intoRaw]
  refine .bind (reads_tsAssigned _) ?_
  refine .field (ulDl_intoRaw_lt _) ?_
  rw [ulDl_tryFrom_intoRaw]
  refine .field (Bool.toNat_lt _) ?_
  refine .field (Bool.toNat_lt _) ?_
  refine .field encodable.carrierNum_lt ?_
  refine .field (by decide) ?_
  refine .asserted (by decide) ?_
  refine .field encodable.monPattern_lt ?_
  refine .finish (reads_frame18 encodable) ?_
  refine .asserted encodable.notAugmented ?_
  rw [tsAssigned_bitmap, toNat_ne_zero, toNat_ne_zero, ← encodable.notExtended]
  exact .pure _

end

theorem length_wire_le (element : ChanAllocElement) : element.wire.length ≤ 27 := by
  have last : element.frame18Wire.length ≤ 2 := by
    rw [frame18Wire]
    cases element.frame18MonPattern <;> simp
  simp only [wire, List.length_append, length_bitsOf, Vector.length_toList]
  omega

/-- **The computed length is the length of what is written.** -/
theorem computeLen_ok (encodable : element.Encodable) :
    element.computeLen = .ok element.wire.length := by
  have isSome := encodable.frame18_isSome
  have length : element.frame18Wire.length = if element.monPattern = 0 then 2 else 0 := by
    rw [frame18Wire]
    cases pattern : element.frame18MonPattern <;> simp_all
  rw [computeLen, assertThat_of encodable.notExtended, assertThat_of encodable.notAugmented]
  have total : element.wire.length =
      2 + 4 + 2 + 1 + 1 + 12 + 1 + 2 + if element.monPattern = 0 then 2 else 0 := by
    simp only [wire, List.length_append, length_bitsOf, Vector.length_toList]
    omega
  rw [total]
  rfl

end ChanAllocElement

end Bluestation
