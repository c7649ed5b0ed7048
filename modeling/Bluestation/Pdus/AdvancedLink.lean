/-
**The data and acknowledgement PDUs of the advanced link.**

* `AlDataHeader.reads_fromBitbuf` — the header of a segment is read back.
* `AlSetup.encodable`, `AlAck.encodable` — which PDUs have an encoding.
-/

import Bluestation.Core.Fields

namespace Bluestation

open Bits

def alDataAlFinal : Nat := 9

def expectType (expected : Nat) : BufM Unit := do
  let found ← readField 4 "llc_pdu_type"
  if found ≠ expected then throw (.parse (.invalidPduType expected found)) else pure ()

/-! ### AL-DATA and AL-FINAL -/

structure AlDataHeader where
  finalSegment : Bool
  acknowledgementRequested : Bool
  ns : Nat
  segment : Nat
deriving DecidableEq

namespace AlDataHeader

def fromBitbuf : BufM AlDataHeader := do
  expectType alDataAlFinal
  let finalSegment ← readField 1 "final"
  let acknowledgementRequested ← readField 1 "acknowledgement_request"
  let ns ← readField 3 "ns"
  let segment ← readField 8 "segment_sequence"
  pure ⟨finalSegment != 0, acknowledgementRequested != 0, ns, segment⟩

def wire (header : AlDataHeader) : List Bool :=
  bitsOf 4 alDataAlFinal ++ (bitsOf 1 header.finalSegment.toNat ++
    (bitsOf 1 header.acknowledgementRequested.toNat ++ (bitsOf 3 header.ns ++
      bitsOf 8 header.segment)))

/-- **A header whose numbers fit is read back.** -/
theorem reads_fromBitbuf (header : AlDataHeader) (sequence : header.ns < 8)
    (position : header.segment < 256) : Reads fromBitbuf header.wire header := by
  refine .bind (.finish (reads_readField _ (by decide)) (.pure _)) ?_
  refine .field (Bool.toNat_lt _) ?_
  refine .field (Bool.toNat_lt _) ?_
  refine .field sequence ?_
  refine .finish (reads_readField _ position) ?_
  rw [toNat_ne_zero, toNat_ne_zero]
  exact .pure _

end AlDataHeader

/-! ### AL-SETUP, AL-RECONNECT and AL-DISC -/

structure AlSetup where
  acknowledged : Bool
  linkNumber : Nat
  maximumSdu : Nat
  connectionWidth : Bool
  asymmetric : Bool
  uplinkSlots : Option Nat
  downlinkSlots : Option Nat
  throughput : Nat
  windowSize : Nat
  sduRetransmissions : Nat
  segmentRetransmissions : Nat
  report : Nat
deriving DecidableEq

/-- The conditions under which a setup is written. -/
def AlSetup.encodable (setup : AlSetup) : Bool :=
  setup.acknowledged && setup.linkNumber ≤ 3 && setup.maximumSdu ≤ 7 && setup.throughput ≤ 7 &&
    1 ≤ setup.windowSize && setup.windowSize ≤ 3 && setup.sduRetransmissions ≤ 7 &&
    setup.segmentRetransmissions ≤ 15 && setup.report ≤ 7 &&
    setup.connectionWidth = setup.uplinkSlots.isSome &&
    setup.asymmetric = setup.downlinkSlots.isSome &&
    setup.uplinkSlots.all (fun slots => 1 ≤ slots && slots ≤ 4) &&
    setup.downlinkSlots.all fun slots => 1 ≤ slots && slots ≤ 4

structure AlReconnect where
  acknowledged : Bool
  linkNumber : Nat
  report : Nat
deriving DecidableEq

def AlReconnect.encodable (request : AlReconnect) : Bool :=
  request.acknowledged && request.linkNumber ≤ 3 && request.report ≤ 2

structure AlDisconnect where
  acknowledged : Bool
  linkNumber : Nat
  report : Nat
deriving DecidableEq

/-! ### AL-ACK and AL-RNR -/

/-- What is known of one message: length 0 acknowledges all of it, 63 asks for all of it again. -/
structure AlAckBlock where
  nr : Nat
  acknowledgementLength : Nat
  firstMissingSegment : Option Nat
  acknowledgementBitmap : List Bool
deriving DecidableEq

def AlAckBlock.positive (nr : Nat) : AlAckBlock := ⟨nr, 0, none, []⟩

/-- One to three blocks, oldest message first. -/
structure AlAck where
  receiverReady : Bool
  blocks : List AlAckBlock
deriving DecidableEq

/-- The conditions under which a block is written. -/
def AlAckBlock.encodable (block : AlAckBlock) : Bool :=
  let partial' := decide (1 ≤ block.acknowledgementLength ∧ block.acknowledgementLength ≤ 62)
  block.nr ≤ 7 && block.acknowledgementLength ≤ 63 &&
    partial' = block.firstMissingSegment.isSome &&
    block.acknowledgementBitmap.length = if partial' then block.acknowledgementLength - 1 else 0

def AlAck.encodable (ack : AlAck) : Bool :=
  1 ≤ ack.blocks.length && ack.blocks.length ≤ 3 && ack.blocks.all AlAckBlock.encodable

end Bluestation
