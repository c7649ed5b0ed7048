/-
**What a receiver takes out of a downlink MAC block.**

The mobile's MAC reads the type of the PDU at the start of the block, parses its header, crops the
PDU to its length indication or to the block, and drops the fill bits.

* `receive_resource`, `receive_frag`, `receive_end` — a PDU laid out by the transmitter is taken
  apart into its header and exactly its data.
-/

import Bluestation.Pdus.MacResource
import Bluestation.Pdus.MacFragment
import Bluestation.Umac.FillBits

namespace Bluestation

open Bits List BitBuffer MacResource

/-- A MAC PDU with the SDU bits it carries. -/
inductive DownlinkPdu where
  | resource (pdu : MacResource) (sdu : List Bool)
  | frag (pdu : MacFragDl) (sdu : List Bool)
  | macEnd (pdu : MacEndDl) (sdu : List Bool)

namespace DownlinkPdu

def sdu : DownlinkPdu → List Bool
  | resource _ sdu | frag _ sdu | macEnd _ sdu => sdu

def chanAlloc : DownlinkPdu → Option ChanAllocElement
  | resource pdu _ => pdu.chanAllocElement
  | frag _ _ => none
  | macEnd pdu _ => pdu.chanAllocElement

end DownlinkPdu

namespace Receiver

/-- The fill bits to drop: none unless the header announces them. -/
def numFillBits (fillBits : Bool) (block : BitBuffer) (pduLenBits : Nat) : Except Fault Nat :=
  if fillBits then FillBits.removal.getNumFillBits block pduLenBits else .ok 0

/-- The SDU bits after a header: crop to the block, drop the fill, and take what is left. -/
def takeSdu (fillBits : Bool) (pduLenBits : Nat) : BufM (List Bool) := do
  let block ← get
  let cropped := min pduLenBits block.getLen
  let dropped ← numFillBits fillBits block cropped
  let pduEnd := cropped - dropped
  -- the window is made to end here; its end may not lie before the position
  assertThat (block.getPos ≤ pduEnd)
  pure (block.unread.take (pduEnd - block.getPos))

/-- The length of a MAC-RESOURCE from its length indication. -/
def resourceLenBits (lengthInd blockLen : Nat) : Except Fault Nat :=
  if 0b000001 ≤ lengthInd ∧ lengthInd < 0b111010 then .ok (lengthInd * 8)
  else if lengthInd = macResourceLength2ndSlotStolen then .ok blockLen
  else if lengthInd = macResourceLengthFragStart then .ok blockLen
  else .error .panic

def rxMacResource : BufM DownlinkPdu := do
  let pdu ← MacResource.fromBitbuf
  let block ← get
  let pduLenBits ← resourceLenBits pdu.lengthInd block.getLen
  let sdu ← takeSdu pdu.fillBits pduLenBits
  pure (.resource pdu sdu)

def rxMacFrag : BufM DownlinkPdu := do
  let pdu ← MacFragDl.fromBitbuf
  let block ← get
  let sdu ← takeSdu pdu.fillBits block.getLen
  pure (.frag pdu sdu)

def rxMacEnd : BufM DownlinkPdu := do
  let pdu ← MacEndDl.fromBitbuf
  assertThat (pdu.lengthInd ≠ 0)
  let sdu ← takeSdu pdu.fillBits (pdu.lengthInd * 8)
  pure (.macEnd pdu sdu)

/-- The PDU at the start of a block, by its type and, for fragments, its subtype. The block is one
of the three a fragmented message is made of. -/
def rxTmvSch : BufM DownlinkPdu := do
  let block ← get
  let bits := valueOf (block.unread.take 3)
  if bits / 2 = 0 then rxMacResource
  else if bits / 2 = 1 then (if bits % 2 = 0 then rxMacFrag else rxMacEnd)
  else throw .panic

def receive (block : List Bool) : Except Fault DownlinkPdu :=
  (rxTmvSch (BitBuffer.ofBits block)).map Prod.fst

/-! ### Taking the SDU out -/

theorem behind_window (header rest : List Bool) :
    ((ofBits (header ++ rest)).skip header.length).Window := by
  refine ⟨?_, ?_, ?_⟩ <;> simp [ofBits, skip]

theorem behind_unread (header rest : List Bool) :
    ((ofBits (header ++ rest)).skip header.length).unread = rest := by
  rw [unread_skip, unread_ofBits, drop_left']
  rfl

/-- **The data between a header and its fill is taken out exactly.** -/
theorem takeSdu_ok (header data tail : List Bool) (filled pduLenBits : Nat)
    (length : min pduLenBits (header ++ (data ++ (fill filled ++ tail))).length =
      header.length + data.length + filled) :
    (takeSdu (decide (0 < filled)) pduLenBits)
        ((ofBits (header ++ (data ++ (fill filled ++ tail)))).skip header.length) =
      .ok (data, (ofBits (header ++ (data ++ (fill filled ++ tail)))).skip header.length) := by
  have window := behind_window header (data ++ (fill filled ++ tail))
  have content := behind_unread header (data ++ (fill filled ++ tail))
  have size : ((ofBits (header ++ (data ++ (fill filled ++ tail)))).skip
      header.length).getLen = (header ++ (data ++ (fill filled ++ tail))).length := rfl
  have reached : ((ofBits (header ++ (data ++ (fill filled ++ tail)))).skip
      header.length).getPos = header.length := by
    simp [ofBits, skip, getPos]
  generalize (ofBits (header ++ (data ++ (fill filled ++ tail)))).skip
    header.length = block at window content size reached ⊢
  have ran : (get : BufM BitBuffer) block = .ok (block, block) := rfl
  have found : numFillBits (decide (0 < filled)) block (header.length + data.length + filled) =
      .ok filled := by
    cases filled with
    | zero => rfl
    | succ zeroes =>
      rw [← reached]
      exact FillBits.removal.getNumFillBits_fill window content
  rw [takeSdu, bind_ok ran]
  simp only [size, length]
  rw [lift_bind found, lift_bind (assertThat_of (by rw [reached]; omega)), reached, content,
    show header.length + data.length + filled - filled - header.length = data.length by omega,
    take_left' rfl]
  rfl

theorem header_ok {α : Type} {reader : BufM α} {header rest : List Bool} {value : α}
    (read : Reads reader header value) :
    reader (ofBits (header ++ rest)) = .ok (value, (ofBits (header ++ rest)).skip header.length) :=
  read _ rest (unread_ofBits _)

/-! ### The type of a PDU -/

theorem rxTmvSch_of (first second third : Bool) (rest : List Bool) :
    rxTmvSch (ofBits (first :: second :: third :: rest)) =
      (if valueOf [first, second, third] / 2 = 0 then rxMacResource
        else if valueOf [first, second, third] / 2 = 1 then
          (if valueOf [first, second, third] % 2 = 0 then rxMacFrag else rxMacEnd)
        else throw .panic) (ofBits (first :: second :: third :: rest)) := by
  rfl

theorem rxTmvSch_resource (pdu : MacResource) (rest : List Bool) :
    rxTmvSch (ofBits (pdu.wire ++ rest)) = rxMacResource (ofBits (pdu.wire ++ rest)) := by
  have shape : pdu.wire ++ rest = false :: false :: pdu.fillBits :: (pdu.wire.drop 3 ++ rest) := by
    simp only [wire]
    cases pdu.fillBits <;> rfl
  rw [shape, rxTmvSch_of]
  cases pdu.fillBits <;> rfl

theorem rxTmvSch_frag (pdu : MacFragDl) (rest : List Bool) : rxTmvSch (ofBits (pdu.wire ++ rest)) =
      rxMacFrag (ofBits (pdu.wire ++ rest)) :=
  rxTmvSch_of false true false _

theorem rxTmvSch_end (pdu : MacEndDl) (rest : List Bool) : rxTmvSch (ofBits (pdu.wire ++ rest)) =
      rxMacEnd (ofBits (pdu.wire ++ rest)) :=
  rxTmvSch_of false true true _

/-! ### Receiving what was sent -/

theorem crop_octets {total tail : Nat} (aligned : total % 8 = 0 ∨ tail = 0) :
    min ((total + 7) / 8 * 8) (total + tail) = total := by
  omega

/-- **An unfragmented MAC-RESOURCE is taken apart into its header and its data.** -/
theorem receive_resource {pdu : MacResource} {data tail : List Bool} {filled : Nat}
    (sendable : pdu.Sendable) (flag : pdu.fillBits = decide (0 < filled))
    (plain : pdu.lengthInd < 0b111010)
    (octets : pdu.lengthInd = (pdu.wire.length + data.length + filled + 7) / 8)
    (aligned : (pdu.wire.length + data.length + filled) % 8 = 0 ∨ tail.length = 0) :
    receive (pdu.wire ++ (data ++ (fill filled ++ tail))) = .ok (.resource pdu.heard data) := by
  have ran (block : BitBuffer) : (get : BufM BitBuffer) block = .ok (block, block) := rfl
  have fillFlag : pdu.heard.fillBits = decide (0 < filled) := by
    rw [heard, ← flag]
    cases isNull : pdu.isNullPdu with
    | true => exact (sendable.nullPdu_fill isNull).symm
    | false => rfl
  have octetLen : ∀ blockLen, resourceLenBits pdu.heard.lengthInd blockLen =
      .ok (pdu.lengthInd * 8) := by
    intro blockLen
    rw [heard_lengthInd, resourceLenBits, if_pos ⟨sendable.lengthInd_pos, plain⟩]
  have taken := takeSdu_ok pdu.wire data tail filled (pdu.lengthInd * 8) (by
      have crop := crop_octets aligned
      simp only [length_append, length_fill] at crop ⊢
      omega)
  rw [receive, rxTmvSch_resource, rxMacResource,
    bind_ok (header_ok (reads_fromBitbuf sendable)), bind_ok (ran _),
    lift_bind (octetLen _), fillFlag, bind_ok taken]
  rfl

/-- **The first fragment of a message fills its block with data.** -/
theorem receive_fragStart {pdu : MacResource} {data : List Bool} (sendable : pdu.Sendable)
    (unfilled : pdu.fillBits = false) (start : pdu.lengthInd = macResourceLengthFragStart) :
    receive (pdu.wire ++ data) = .ok (.resource pdu.heard data) := by
  have ran (block : BitBuffer) : (get : BufM BitBuffer) block = .ok (block, block) := rfl
  have fillFlag : pdu.heard.fillBits = decide (0 < 0) := by
    rw [heard]
    split
    · rfl
    · exact unfilled
  have blockLength : ∀ blockLen, resourceLenBits pdu.heard.lengthInd blockLen = .ok blockLen := by
    intro blockLen
    rw [heard_lengthInd, start]
    rfl
  have taken := takeSdu_ok pdu.wire data [] 0 (pdu.wire ++ data).length (by simp)
  simp only [fill, append_nil] at taken
  rw [receive, rxTmvSch_resource, rxMacResource,
    bind_ok (header_ok (reads_fromBitbuf sendable)), bind_ok (ran _),
    lift_bind (blockLength _), fillFlag]
  erw [bind_ok taken]
  rfl

/-- **A middle fragment is taken apart into its header and its data.** -/
theorem receive_frag (data : List Bool) (filled : Nat) :
    receive ((MacFragDl.mk (decide (0 < filled))).wire ++ (data ++ fill filled)) =
      .ok (.frag ⟨decide (0 < filled)⟩ data) := by
  have ran (block : BitBuffer) : (get : BufM BitBuffer) block = .ok (block, block) := rfl
  have taken := takeSdu_ok (MacFragDl.mk (decide (0 < filled))).wire data [] filled
    ((MacFragDl.mk (decide (0 < filled))).wire ++ (data ++ fill filled)).length
    (by simp; omega)
  simp only [append_nil] at taken
  rw [receive, rxTmvSch_frag, rxMacFrag, bind_ok (header_ok (MacFragDl.reads_fromBitbuf _)),
    bind_ok (ran _)]
  erw [bind_ok taken]
  rfl

/-- **The last fragment is taken apart into its header and its data.** -/
theorem receive_end {pdu : MacEndDl} {data tail : List Bool} {filled : Nat}
    (encodable : pdu.Encodable) (flag : pdu.fillBits = decide (0 < filled))
    (octets : pdu.lengthInd = (pdu.wire.length + data.length + filled + 7) / 8)
    (aligned : (pdu.wire.length + data.length + filled) % 8 = 0 ∨ tail.length = 0) :
    receive (pdu.wire ++ (data ++ (fill filled ++ tail))) = .ok (.macEnd pdu data) := by
  have some : 0 < pdu.wire.length := by
    simp only [MacEndDl.wire, length_append, length_bitsOf]
    omega
  have taken := takeSdu_ok pdu.wire data tail filled (pdu.lengthInd * 8) (by
      have crop := crop_octets aligned
      simp only [length_append, length_fill] at crop ⊢
      omega)
  rw [receive, rxTmvSch_end, rxMacEnd, bind_ok (header_ok (MacEndDl.reads_fromBitbuf encodable)),
    lift_bind (assertThat_of (by rw [octets]; omega)), flag, bind_ok taken]
  rfl

end Receiver

end Bluestation
