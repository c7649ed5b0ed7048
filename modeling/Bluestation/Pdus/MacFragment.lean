/-
**MAC-FRAG and MAC-END on the downlink.**

* `MacFragDl.reads_fromBitbuf`, `MacFragDl.writes_toBitbuf` — four bits.
* `MacEndDl.reads_fromBitbuf`, `MacEndDl.writes_toBitbuf` — the header of the last fragment.
-/

import Bluestation.Pdus.Slotgrant
import Bluestation.Pdus.ChanAlloc

namespace Bluestation

open Bits

/-! ### MAC-FRAG -/

structure MacFragDl where
  fillBits : Bool

namespace MacFragDl

def fromBitbuf : BufM MacFragDl := do
  let macPduType ← readField 2 "mac_pdu_type"
  assertThat (macPduType = 1)
  let pduSubtype ← readField 1 "pdu_subtype"
  assertThat (pduSubtype = 0)
  let fillBits ← readField 1 "fill_bits"
  pure { fillBits := fillBits != 0 }

variable (pdu : MacFragDl)

def toBitbuf : BufM Unit := do
  writeBits 1 2
  writeBits 0 1
  writeBits pdu.fillBits.toNat 1

def wire : List Bool :=
  bitsOf 2 1 ++ (bitsOf 1 0 ++ bitsOf 1 pdu.fillBits.toNat)

@[simp] theorem length_wire : pdu.wire.length = 4 := by
  simp [wire]

theorem writes_toBitbuf : Writes pdu.toBitbuf pdu.wire := .bits <| .bits (writes_writeBits _ _)

theorem reads_fromBitbuf : Reads fromBitbuf pdu.wire pdu := by
  refine .field (by decide) ?_
  refine .asserted rfl ?_
  refine .field (by decide) ?_
  refine .asserted rfl ?_
  refine .finish (reads_readField _ (Bool.toNat_lt _)) ?_
  rw [toNat_ne_zero]
  exact .pure _

end MacFragDl

/-! ### MAC-END -/

structure MacEndDl where
  fillBits : Bool
  posOfGrant : Nat
  lengthInd : Nat
  slotGrantingElement : Option BasicSlotgrant
  chanAllocElement : Option ChanAllocElement

namespace MacEndDl

def fromBitbuf : BufM MacEndDl := do
  let macPduType ← readField 2 "mac_pdu_type"
  assertThat (macPduType = 1)
  let pduSubtype ← readField 1 "pdu_subtype"
  assertThat (pduSubtype = 1)
  let fillBits ← readField 1 "fill_bits"
  let posOfGrant ← readField 1 "pos_of_grant"
  let lengthInd ← readField 6 "length_ind"
  let slotGrantingElement ← readFlagged "slot_granting_flag" BasicSlotgrant.fromBitbuf
  let chanAllocElement ← readFlagged "chan_alloc_flag" ChanAllocElement.fromBitbuf
  pure { fillBits := fillBits != 0, posOfGrant, lengthInd, slotGrantingElement, chanAllocElement }

def computeHdrLen (slotGrant : Option BasicSlotgrant) (chanAlloc : Option ChanAllocElement) :
    Except Fault Nat := do
  let chanAllocLen ← match chanAlloc with
    | some element => element.computeLen
    | none => pure 0
  pure (2 + 1 + 1 + 1 + 6 + 1 + (if slotGrant.isSome then 8 else 0) + 1 + chanAllocLen)

def toBitbuf (pdu : MacEndDl) : BufM Unit := do
  writeBits 1 2
  writeBits 1 1
  writeBits pdu.fillBits.toNat 1
  writeBits pdu.posOfGrant 1
  writeBits pdu.lengthInd 6
  writeFlagged pdu.slotGrantingElement BasicSlotgrant.toBitbuf
  writeFlagged pdu.chanAllocElement ChanAllocElement.toBitbuf

/-- A header whose every field has a wire form, of the field's width. -/
structure Encodable (pdu : MacEndDl) : Prop where
  posOfGrant_lt : pdu.posOfGrant < 2 ^ 1
  lengthInd_lt : pdu.lengthInd < 2 ^ 6
  slotGrant : ∀ grant ∈ pdu.slotGrantingElement, grant.grantingDelay.InRange
  chanAlloc : ∀ element ∈ pdu.chanAllocElement, element.Encodable

/-- The bits of the header on the wire. -/
def wire (pdu : MacEndDl) : List Bool :=
  bitsOf 2 1 ++ (bitsOf 1 1 ++ (bitsOf 1 pdu.fillBits.toNat ++ (bitsOf 1 pdu.posOfGrant ++
    (bitsOf 6 pdu.lengthInd ++ (wireFlagged pdu.slotGrantingElement BasicSlotgrant.wire ++
      wireFlagged pdu.chanAllocElement ChanAllocElement.wire)))))

variable {pdu : MacEndDl}

variable (encodable : pdu.Encodable)

include encodable

theorem writes_toBitbuf : Writes pdu.toBitbuf pdu.wire := .bits <| .bits <| .bits <|
    .bits <| .bits <|
    (writes_flagged fun _ _ => BasicSlotgrant.writes_toBitbuf _).bind <|
    writes_flagged fun element member =>
      ChanAllocElement.writes_toBitbuf (encodable.chanAlloc element member)

/-- **A written MAC-END header is read back.** -/
theorem reads_fromBitbuf : Reads fromBitbuf pdu.wire pdu := by
  refine .field (by decide) ?_
  refine .asserted rfl ?_
  refine .field (by decide) ?_
  refine .asserted rfl ?_
  refine .field (Bool.toNat_lt _) ?_
  refine .field encodable.posOfGrant_lt ?_
  refine .field encodable.lengthInd_lt ?_
  refine .bind (reads_flagged _ fun grant member =>
    BasicSlotgrant.reads_fromBitbuf (encodable.slotGrant grant member)) ?_
  refine .finish (reads_flagged _ fun element member =>
    ChanAllocElement.reads_fromBitbuf (encodable.chanAlloc element member)) ?_
  rw [toNat_ne_zero]
  exact .pure _

/-- **The computed header length is the length of what is written.** -/
theorem computeHdrLen_ok :
    computeHdrLen pdu.slotGrantingElement pdu.chanAllocElement = .ok pdu.wire.length := by
  obtain ⟨fillBits, posOfGrant, lengthInd, slotGrant, chanAlloc⟩ := pdu
  cases chanAlloc with
  | none => cases slotGrant <;> rfl
  | some element =>
    have length := ChanAllocElement.computeLen_ok (encodable.chanAlloc element rfl)
    have total : (MacEndDl.mk fillBits posOfGrant lengthInd slotGrant (some element)).wire.length =
        2 + 1 + 1 + 1 + 6 + 1 + (if slotGrant.isSome then 8 else 0) + 1 + element.wire.length := by
      cases slotGrant <;>
        simp only [wire, wireFlagged] <;>
        simp <;> omega
    rw [total, computeHdrLen]
    simp only [length]
    rfl

end MacEndDl

end Bluestation
