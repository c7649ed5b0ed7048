/-
**The downlink fragmenter.**

A fragmenter holds a MAC-RESOURCE header and its SDU and is offered one MAC block after another
until it has sent everything: the whole message in one MAC-RESOURCE when it fits, and otherwise a
MAC-RESOURCE that starts a chain, MAC-FRAGs, and a MAC-END that also carries the channel allocation.

* `getResourceChunk`, `getFragOrEndChunk`, `getNextChunk` — one offered block.
* `setCompletionSlotGrant`, `requireFinalSlotGrant`, `allowUngrantedFinalResponse` — what the
  scheduler asks of the last fragment.
-/

import Bluestation.Pdus.MacResource
import Bluestation.Pdus.MacFragment
import Bluestation.Umac.FillBits

namespace Bluestation

open Bits List MacResource FillBits BitBuffer MacEndDl MacFragDl

/-- The region of the last chunk that is ciphered; headers and fill bits remain outside it. -/
structure MacCipherRegion (Key : Type) where
  request : AieRequest Key
  start : Nat
  len : Nat

/-- Fragmentation does not start with fewer bits than this free in the slot. -/
def minSlotCapForResFragStart : Nat := 32

/-- No fragment is inserted with fewer bits than this free in the slot. -/
def minSlotCapForFrag : Nat := 16

structure BsFragger (Key : Type) where
  resource : MacResource
  chanAlloc : Option ChanAllocElement
  /-- A slot grant selected at the actual transmission time of the final fragment. -/
  finalSlotGrant : Option BasicSlotgrant
  finalSlotGrantRequired : Bool
  macHdrIsWritten : Bool
  isFullyTransmitted : Bool
  sdu : BitBuffer
  txReporter : Option TxReporter
  aieRequest : AieRequest Key
  lastCipherRegion : Option (MacCipherRegion Key)

namespace BsFragger

variable {Key : Type}

def newWithAie (resource : MacResource) (sdu : BitBuffer) (txReporter : Option TxReporter)
    (aieRequest : AieRequest Key) : Except Fault (BsFragger Key) := do
  assertThat (sdu.getPos = 0)
  pure {
    resource
    chanAlloc := none
    finalSlotGrant := none
    finalSlotGrantRequired := false
    macHdrIsWritten := false
    isFullyTransmitted := false
    sdu
    txReporter
    aieRequest
    lastCipherRegion := none }

/-! ### The final slot grant -/

variable (fragger : BsFragger Key)

/-- Whether the message can finish in one PDU that also carries a slot grant. -/
def canFinishWithSlotGrant (slotCapBits : Nat) : Except Fault Bool := do
  if fragger.isFullyTransmitted then
    pure false
  else if !fragger.macHdrIsWritten then
    let headerLen ← fragger.resource.computeHeaderLen
    let resourceLenBits := headerLen +
      (if fragger.resource.slotGrantingElement.isNone then 1 else 0) * 8 +
      fragger.sdu.getLenRemaining
    let fillBits := FillBits.addition.computeRequired resourceLenBits slotCapBits
    pure (resourceLenBits + fillBits ≤ slotCapBits)
  else
    let hdrLen ← MacEndDl.computeHdrLen none fragger.chanAlloc
    pure (hdrLen + 8 + fragger.sdu.getLenRemaining ≤ slotCapBits)

def setCompletionSlotGrant (grant : BasicSlotgrant) :
    Except Fault (BsFragger Key) := do
  assertThat (fragger.isFullyTransmitted = false)
  if fragger.macHdrIsWritten then
    pure { fragger with finalSlotGrant := some grant }
  else
    assertThat (fragger.resource.slotGrantingElement = none)
    pure { fragger with
      resource := { fragger.resource with slotGrantingElement := some grant } }

def requireFinalSlotGrant : Except Fault (BsFragger Key) := do
  assertThat (fragger.macHdrIsWritten = true)
  pure { fragger with finalSlotGrantRequired := true }

def allowUngrantedFinalResponse : BsFragger Key :=
  { fragger with finalSlotGrant := none, finalSlotGrantRequired := false }

/-! ### One block -/

def chanAllocLen (chanAlloc : Option ChanAllocElement) : Except Fault Nat :=
  match chanAlloc with
  | some element => element.computeLen
  | none => .ok 0

/-- The ciphered region of a chunk with a MAC-RESOURCE header. -/
def resourceCipherRegion (chunkStart sduBits : Nat) :
    Except Fault (MacCipherRegion Key) := do
  let headerLen ← fragger.resource.computeHeaderLen
  let elementLen ← chanAllocLen fragger.resource.chanAllocElement
  assertThat (elementLen ≤ headerLen)
  let clearHeader := headerLen - elementLen
  pure {
    request := fragger.aieRequest.withScope .macResource
    start := chunkStart + clearHeader
    len := headerLen + sduBits - clearHeader }

/-- The whole message in one MAC-RESOURCE. -/
def writeWholeResource (sduLenBits numFillBits totalLenBits : Nat) :
    BufM (BsFragger Key) := do
  let macBlock ← get
  assertThat (totalLenBits % 8 = 0 ∨ totalLenBits = macBlock.getLenRemaining)
  let fragger := { fragger with resource := { fragger.resource with
    lengthInd := (totalLenBits + 7) / 8 % 256
    fillBits := decide (0 < numFillBits) } }
  fragger.resource.toBitbuf
  let sdu ← copyBits fragger.sdu sduLenBits
  FillBits.addition.write (some numFillBits)
  let region ← fragger.resourceCipherRegion macBlock.getPos sduLenBits
  pure { fragger with sdu, lastCipherRegion := some region, macHdrIsWritten := true }

/-- A MAC-RESOURCE that starts a chain of fragments. No fill bits are allowed. -/
def writeFirstFragment (sduSpaceBits : Nat) : BufM (BsFragger Key) := do
  let macBlock ← get
  let fragger := { fragger with resource := { fragger.resource with
    lengthInd := macResourceLengthFragStart
    fillBits := false } }
  fragger.resource.toBitbuf
  let sdu ← copyBits fragger.sdu sduSpaceBits
  FillBits.addition.write none
  let region ← fragger.resourceCipherRegion macBlock.getPos sduSpaceBits
  pure { fragger with sdu, lastCipherRegion := some region, macHdrIsWritten := true }

/-- Start a chain with the channel allocation delayed until the last fragment; if the message fits
without it, the message is deferred instead, with the allocation put back. -/
def startWithoutChanAlloc (sduLenBits : Nat) :
    BufM (Bool × BsFragger Key) := do
  let macBlock ← get
  let slotCapBits := macBlock.getLenRemaining
  let moved := { fragger with
    chanAlloc := fragger.resource.chanAllocElement
    resource := { fragger.resource with chanAllocElement := none } }
  let hdrLenBits ← moved.resource.computeHeaderLen
  assertThat (hdrLenBits ≤ slotCapBits)
  let sduSpaceBits := slotCapBits - hdrLenBits
  if sduLenBits ≤ sduSpaceBits then
    pure (false, { moved with
      chanAlloc := none
      resource := { moved.resource with chanAllocElement := moved.chanAlloc } })
  else
    let fragger ← moved.writeFirstFragment sduSpaceBits
    pure (false, fragger)

/-- Write a MAC-RESOURCE and as many SDU bits as possible; whether the message is complete. -/
def getResourceChunk : BufM (Bool × BsFragger Key) := do
  assertThat (fragger.sdu.getPos = 0)
  assertThat (fragger.macHdrIsWritten = false)
  assertThat (¬ (fragger.resource.isNullPdu = true ∧ 0 < fragger.sdu.getLenRemaining))
  let macBlock ← get
  let hdrLenBits ← fragger.resource.computeHeaderLen
  let sduLenBits := fragger.sdu.getLenRemaining
  let slotCapBits := macBlock.getLenRemaining
  let numFillBits := FillBits.addition.computeRequired (hdrLenBits + sduLenBits) slotCapBits
  let totalLenBits := hdrLenBits + sduLenBits + numFillBits
  if totalLenBits ≤ slotCapBits then
    let fragger ← fragger.writeWholeResource sduLenBits numFillBits totalLenBits
    pure (true, fragger)
  else if slotCapBits < minSlotCapForResFragStart ∨ slotCapBits < hdrLenBits then
    -- not enough room to start fragmentation: the whole PDU waits for the next frame
    pure (false, fragger)
  else if fragger.resource.chanAllocElement.isSome then
    fragger.startWithoutChanAlloc sduLenBits
  else
    let fragger ← fragger.writeFirstFragment (slotCapBits - hdrLenBits)
    pure (false, fragger)

def writeFill (numFillBits : Nat) : BufM Unit :=
  if 0 < numFillBits then do
    writeBit true
    writeZeroes (numFillBits - 1)
  else pure ()

/-- The rest of the message in a MAC-END, with the delayed channel allocation. -/
def writeEnd (macendLenBits sduBits : Nat) : BufM (BsFragger Key) := do
  let macBlock ← get
  let numFillBits := FillBits.addition.computeRequired macendLenBits macBlock.getLenRemaining
  let pdu : MacEndDl := {
    fillBits := decide (0 < numFillBits)
    posOfGrant := 0
    lengthInd := (macendLenBits + numFillBits + 7) / 8 % 256
    slotGrantingElement := fragger.finalSlotGrant
    chanAllocElement := fragger.chanAlloc }
  pdu.toBitbuf
  let sdu ← copyBits fragger.sdu sduBits
  writeFill numFillBits
  let fullHeader ← MacEndDl.computeHdrLen pdu.slotGrantingElement pdu.chanAllocElement
  let elementLen ← chanAllocLen pdu.chanAllocElement
  assertThat (elementLen ≤ fullHeader)
  let clearHeader := fullHeader - elementLen
  pure { fragger with
    finalSlotGrant := none
    chanAlloc := none
    sdu
    lastCipherRegion := some {
      request := fragger.aieRequest.withScope .macFragment
      start := macBlock.getPos + clearHeader
      len := fullHeader + sduBits - clearHeader } }

/-- A middle fragment that fills its slot, with SDU bits or with fill bits. -/
def writeFrag (sduBits : Nat) : BufM (BsFragger Key) := do
  let macBlock ← get
  let slotCapBits := macBlock.getLenRemaining
  let macfragHdrLen := 4
  let sduBitsInFrag := min (slotCapBits - macfragHdrLen) sduBits
  let numFillBits := slotCapBits - macfragHdrLen - sduBitsInFrag
  let pdu : MacFragDl := { fillBits := decide (0 < numFillBits) }
  pdu.toBitbuf
  let sdu ← copyBits fragger.sdu sduBitsInFrag
  writeFill numFillBits
  pure { fragger with
    sdu
    lastCipherRegion := some {
      request := fragger.aieRequest.withScope .macFragment
      start := macBlock.getPos + macfragHdrLen
      len := sduBitsInFrag } }

/-- Write the next fragment; whether it was the last. -/
def getFragOrEndChunk : BufM (Bool × BsFragger Key) := do
  assertThat (fragger.macHdrIsWritten = true)
  let macBlock ← get
  let sduBits := fragger.sdu.getLenRemaining
  let awaitsGrant := fragger.finalSlotGrantRequired && fragger.finalSlotGrant.isNone
  let reservedSlotGrantBits := (if awaitsGrant then 1 else 0) * 8
  let hdrLenBits ← MacEndDl.computeHdrLen fragger.finalSlotGrant fragger.chanAlloc
  let macendLenBits := hdrLenBits + reservedSlotGrantBits + sduBits
  let slotCapBits := macBlock.getLenRemaining
  if macendLenBits ≤ slotCapBits then
    if awaitsGrant then
      -- the last fragment waits for a grant made at its actual time
      pure (false, fragger)
    else
      let fragger ← fragger.writeEnd macendLenBits sduBits
      pure (true, fragger)
  else if slotCapBits < minSlotCapForFrag then
    pure (false, fragger)
  else
    let fragger ← fragger.writeFrag sduBits
    pure (false, fragger)

/-- A finished message is reported as transmitted, once. -/
def reportTransmitted : Except Fault (BsFragger Key) :=
  match fragger.txReporter with
  | some reporter =>
    if fragger.isFullyTransmitted ∧ reporter.state = .pending then do
      let reporter ← reporter.markTransmitted
      pure { fragger with txReporter := some reporter }
    else .ok fragger
  | none => .ok fragger

def getChunk : BufM (Bool × BsFragger Key) :=
  if !fragger.macHdrIsWritten then fragger.getResourceChunk else fragger.getFragOrEndChunk

/-- **Write the next chunk to the block, if there is space**; whether everything is transmitted. -/
def getNextChunk : BufM (Bool × BsFragger Key) := do
  assertThat (fragger.isFullyTransmitted = false)
  let macBlock ← get
  assertThat (macBlock.getLenWritten % 8 = 0 ∨ macBlock.getLenRemaining = 0)
  let fragger := { fragger with lastCipherRegion := none }
  let (complete, fragger) ← fragger.getChunk
  let fragger := { fragger with isFullyTransmitted := complete }
  let fragger ← fragger.reportTransmitted
  pure (complete, fragger)

/-! ### What the writing steps put in the block -/

section Writing

variable {fragger : BsFragger Key} {block : BitBuffer}

theorem get_ok (block : BitBuffer) : (get : BufM BitBuffer) block = .ok (block, block) := rfl

theorem chanAllocLen_resource {pdu : MacResource} (encodable : pdu.Encodable) :
    ∃ len, chanAllocLen pdu.chanAllocElement = .ok len ∧ len ≤ pdu.wire.length := by
  cases alloc : pdu.chanAllocElement with
  | none => exact ⟨0, rfl, Nat.zero_le _⟩
  | some element =>
    refine ⟨_, ChanAllocElement.computeLen_ok (encodable.chanAlloc element alloc), ?_⟩
    have notNull : ¬ pdu.isNullPdu = true := by
      intro isNull
      have unset := (encodable.nullPdu_unset isNull).2.2.2
      cases alloc.symm.trans unset
    simp only [MacResource.wire, MacResource.wireElements, if_neg notNull, alloc, wireFlagged,
      length_append]
    omega

theorem resourceCipherRegion_ok (fragger : BsFragger Key)
    (encodable : fragger.resource.Encodable) (chunkStart sduBits : Nat) :
    ∃ region, fragger.resourceCipherRegion chunkStart sduBits = .ok region := by
  obtain ⟨len, found, within⟩ := chanAllocLen_resource encodable
  rw [resourceCipherRegion, computeHeaderLen_ok encodable, found]
  simp only [ok_bind, assertThat_of within]
  exact ⟨_, rfl⟩

theorem writeFill_eq (count : Nat) : writeFill count = addition.write (some count) := rfl

def indicated (pdu : MacResource) (lengthInd : Nat) (fillBits : Bool) : MacResource :=
  { pdu with lengthInd, fillBits }

theorem indicated_encodable {pdu : MacResource} (encodable : pdu.Encodable) (lengthInd : Nat)
    (fillBits : Bool) : (indicated pdu lengthInd fillBits).Encodable :=
  ⟨encodable.posOfGrant_lt, encodable.encryptionMode_lt, encodable.nullPdu_unset,
    encodable.addressed, encodable.esi_iff, encodable.ssi_lt, encodable.eventLabel_lt,
    encodable.usageMarker_lt, encodable.powerControl_lt, encodable.slotGrant, encodable.chanAlloc⟩

@[simp] theorem length_wire_indicated (pdu : MacResource) (lengthInd : Nat) (fillBits : Bool) :
    (indicated pdu lengthInd fillBits).wire.length = pdu.wire.length := by
  have address : (indicated pdu lengthInd fillBits).wireAddress = pdu.wireAddress := rfl
  have elements : (indicated pdu lengthInd fillBits).wireElements = pdu.wireElements := rfl
  simp only [MacResource.wire, length_append, length_bitsOf, address, elements]

theorem write_data {header data : List Bool} {writeHeader : BufM Unit} {source : BitBuffer}
    (count : Nat) (window : block.Window) (sourceWindow : source.Window)
    (enough : count ≤ source.getLenRemaining) (taken : source.unread.take count = data)
    (first : Writes writeHeader header) (room : header.length + count ≤ block.getLenRemaining) :
    ∃ mid, writeHeader block = .ok ((), mid) ∧
      copyBits source count mid = .ok (source.skip count, block.put (header ++ data)) := by
  have inHeader : header.length ≤ block.getLenRemaining := by omega
  refine ⟨block.put header, first block window inHeader, ?_⟩
  have copied := copyBits_ok (b := block.put header) sourceWindow enough (by
    rw [put_getLenRemaining]
    omega)
  rwa [taken, put_put window] at copied

theorem write_fill (front : List Bool) {filled : List Bool} {writeRest : BufM Unit} (window : block.Window)
    (last : Writes writeRest filled) (room : (front ++ filled).length ≤ block.getLenRemaining) :
    writeRest (block.put front) = .ok ((), block.put (front ++ filled)) := by
  rw [length_append] at room
  rw [last _ (put_window window (by omega)) (by
    rw [put_getLenRemaining]
    omega), put_put window]

/-- **The whole message is put in the block behind its header, and filled.** -/
theorem writeWholeResource_ok (filled total : Nat) (window : block.Window)
    (sduWindow : fragger.sdu.Window)
    (sendable : (indicated fragger.resource ((total + 7) / 8) (decide (0 < filled))).Sendable)
    (octets : (total + 7) / 8 < 256)
    (length : total = fragger.resource.wire.length + fragger.sdu.getLenRemaining + filled)
    (room : total ≤ block.getLenRemaining)
    (aligned : total % 8 = 0 ∨ total = block.getLenRemaining) :
    ∃ region, fragger.writeWholeResource fragger.sdu.getLenRemaining filled total block =
      .ok ({ fragger with
          resource := indicated fragger.resource ((total + 7) / 8) (decide (0 < filled))
          sdu := fragger.sdu.skip fragger.sdu.getLenRemaining
          lastCipherRegion := some region
          macHdrIsWritten := true },
        block.put ((indicated fragger.resource ((total + 7) / 8) (decide (0 < filled))).wire ++
          (fragger.sdu.unread ++ fill filled))) := by
  have all : fragger.sdu.unread.take fragger.sdu.getLenRemaining = fragger.sdu.unread :=
    take_of_length_le (le_of_eq (length_unread sduWindow))
  obtain ⟨mid, wroteHeader, copied⟩ := write_data _ window sduWindow le_rfl all
    (writes_toBitbuf sendable) (by
      rw [length_wire_indicated]
      omega)
  have wroteFill := write_fill ((indicated fragger.resource ((total + 7) / 8)
      (decide (0 < filled))).wire ++ fragger.sdu.unread) window
    (addition.writes_write filled) (by
      simp only [length_append, length_wire_indicated, length_fill, length_unread sduWindow]
      omega)
  rw [append_assoc] at wroteFill
  let sent := { fragger with
    resource := indicated fragger.resource ((total + 7) / 8) (decide (0 < filled)) }
  obtain ⟨region, found⟩ := resourceCipherRegion_ok sent
    sendable.toEncodable block.getPos fragger.sdu.getLenRemaining
  refine ⟨region, ?_⟩
  rw [writeWholeResource, bind_ok (get_ok block), lift_bind (assertThat_of aligned),
    Nat.mod_eq_of_lt octets]
  change (toBitbuf sent.resource >>= _) block = _
  rw [bind_ok wroteHeader]
  rw [bind_ok copied, bind_ok wroteFill]
  exact bind_ok (liftM_ok found _)

/-- **A first fragment fills the block behind its header with data.** -/
theorem writeFirstFragment_ok {space : Nat} (window : block.Window) (sduWindow : fragger.sdu.Window)
    (sendable : (indicated fragger.resource macResourceLengthFragStart false).Sendable)
    (fits : fragger.resource.wire.length + space = block.getLenRemaining)
    (enough : space ≤ fragger.sdu.getLenRemaining) :
    ∃ region, fragger.writeFirstFragment space block = .ok ({ fragger with
          resource := indicated fragger.resource macResourceLengthFragStart false
          sdu := fragger.sdu.skip space
          lastCipherRegion := some region
          macHdrIsWritten := true },
        block.put ((indicated fragger.resource macResourceLengthFragStart false).wire ++
          fragger.sdu.unread.take space)) := by
  obtain ⟨mid, wroteHeader, copied⟩ := write_data _ window sduWindow enough rfl
    (writes_toBitbuf sendable) (by
      rw [length_wire_indicated]
      omega)
  have full : (block.put ((indicated fragger.resource macResourceLengthFragStart false).wire ++
      fragger.sdu.unread.take space)).getLenRemaining = 0 := by
    rw [put_getLenRemaining, length_append, length_wire_indicated,
      length_take, length_unread sduWindow]
    omega
  let sent := { fragger with
    resource := indicated fragger.resource macResourceLengthFragStart false }
  obtain ⟨region, found⟩ := resourceCipherRegion_ok sent sendable.toEncodable block.getPos space
  refine ⟨region, ?_⟩
  rw [writeFirstFragment, bind_ok (get_ok block)]
  change (toBitbuf sent.resource >>= _) block = _
  rw [bind_ok wroteHeader]
  rw [bind_ok copied, bind_ok (addition.write_none_full full)]
  exact bind_ok (liftM_ok found _)

def endHeader (fragger : BsFragger Key) (total filled : Nat) : MacEndDl where
  fillBits := decide (0 < filled)
  posOfGrant := 0
  lengthInd := (total + filled + 7) / 8
  slotGrantingElement := fragger.finalSlotGrant
  chanAllocElement := fragger.chanAlloc

theorem chanAllocLen_end {pdu : MacEndDl} (encodable : pdu.Encodable) :
    ∃ len, chanAllocLen pdu.chanAllocElement = .ok len ∧ len ≤ pdu.wire.length := by
  cases alloc : pdu.chanAllocElement with
  | none => exact ⟨0, rfl, Nat.zero_le _⟩
  | some element =>
    refine ⟨_, ChanAllocElement.computeLen_ok (encodable.chanAlloc element alloc), ?_⟩
    simp only [MacEndDl.wire, alloc, wireFlagged, length_append]
    omega

/-- **The rest of the message is put in the block behind a MAC-END header, and filled.** -/
theorem writeEnd_ok {total filled : Nat} (window : block.Window) (sduWindow : fragger.sdu.Window)
    (encodable : (fragger.endHeader total filled).Encodable)
    (fill_eq : addition.computeRequired total block.getLenRemaining = filled)
    (octets : (total + filled + 7) / 8 < 256)
    (length : total = (fragger.endHeader total filled).wire.length + fragger.sdu.getLenRemaining)
    (room : total + filled ≤ block.getLenRemaining) :
    ∃ region, fragger.writeEnd total fragger.sdu.getLenRemaining block = .ok ({ fragger with
          finalSlotGrant := none
          chanAlloc := none
          sdu := fragger.sdu.skip fragger.sdu.getLenRemaining
          lastCipherRegion := some region },
        block.put ((fragger.endHeader total filled).wire ++
          (fragger.sdu.unread ++ fill filled))) := by
  have all : fragger.sdu.unread.take fragger.sdu.getLenRemaining = fragger.sdu.unread :=
    take_of_length_le (le_of_eq (length_unread sduWindow))
  obtain ⟨mid, wroteHeader, copied⟩ := write_data _ window sduWindow le_rfl all
    (writes_toBitbuf encodable) (by omega)
  have wroteFill := write_fill ((fragger.endHeader total filled).wire ++
      fragger.sdu.unread) window (addition.writes_write filled) (by
      simp only [length_append, length_fill, length_unread sduWindow]
      omega)
  rw [append_assoc] at wroteFill
  have headerLen : computeHdrLen fragger.finalSlotGrant fragger.chanAlloc =
      .ok (fragger.endHeader total filled).wire.length := computeHdrLen_ok encodable
  obtain ⟨elementLen, found, within⟩ := chanAllocLen_end encodable
  change chanAllocLen fragger.chanAlloc = .ok elementLen at found
  refine ⟨{
    request := fragger.aieRequest.withScope .macFragment
    start := block.getPos + ((fragger.endHeader total filled).wire.length - elementLen)
    len := (fragger.endHeader total filled).wire.length + fragger.sdu.getLenRemaining -
      ((fragger.endHeader total filled).wire.length - elementLen) }, ?_⟩
  rw [writeEnd, bind_ok (get_ok block)]
  simp only [fill_eq, Nat.mod_eq_of_lt octets]
  change (toBitbuf (fragger.endHeader total filled) >>= _) block = _
  rw [bind_ok wroteHeader]
  rw [bind_ok copied, writeFill_eq, bind_ok wroteFill, bind_ok (liftM_ok headerLen _),
    bind_ok (liftM_ok found _), bind_ok (liftM_ok (assertThat_of within) _)]
  rfl

/-- **A middle fragment fills the block, with data and then with fill bits.** -/
theorem writeFrag_ok (count filled : Nat) (window : block.Window) (sduWindow : fragger.sdu.Window)
    (room : minSlotCapForFrag ≤ block.getLenRemaining)
    (count_eq : min (block.getLenRemaining - 4) fragger.sdu.getLenRemaining = count)
    (filled_eq : block.getLenRemaining - 4 - count = filled) :
    ∃ region, fragger.writeFrag fragger.sdu.getLenRemaining block = .ok ({ fragger with
          sdu := fragger.sdu.skip count
          lastCipherRegion := some region },
        block.put ((MacFragDl.mk (decide (0 < filled))).wire ++
          (fragger.sdu.unread.take count ++ fill filled))) := by
  simp only [minSlotCapForFrag] at room
  obtain ⟨mid, wroteHeader, copied⟩ := write_data count window sduWindow (by omega) rfl
    (writes_toBitbuf ⟨decide (0 < filled)⟩) (by
      rw [length_wire]
      omega)
  have wroteFill := write_fill ((MacFragDl.mk (decide (0 < filled))).wire ++
      fragger.sdu.unread.take count) window (addition.writes_write filled) (by
      simp only [length_append, length_fill, length_wire, length_take]
      omega)
  refine ⟨{
    request := fragger.aieRequest.withScope .macFragment
    start := block.getPos + 4
    len := count }, ?_⟩
  rw [writeFrag, bind_ok (get_ok block)]
  simp only [count_eq, filled_eq]
  rw [bind_ok wroteHeader, bind_ok copied, writeFill_eq, bind_ok wroteFill]
  rfl

end Writing

end BsFragger

end Bluestation
