/-
**The receiver of an advanced link.**

Messages are numbered modulo eight and arrive in segments, in any order. The receiver collects the
segments of the messages in its window, checks each message that is complete, answers with one
acknowledgement block for each message of the window, and passes complete messages up in order.

* `handleAlData` — one segment arrives.
* `acknowledgementBlock` — what the receiver says of one message.
-/

import Bluestation.Core.Primitives
import Bluestation.Core.TdmaTime
import Bluestation.Llc.Fcs
import Bluestation.Pdus.AdvancedLink

namespace Bluestation

open Bits Fcs

/-- A message of which segments have arrived. -/
structure AdvancedRxSdu where
  ns : Nat
  segments : Nat → Option (List Bool)
  finalSegment : Option Nat
  /-- The checked message waits here until all older messages are complete. -/
  complete : Option (List Bool)

/-- A reset of the link that the other side has not confirmed. -/
structure AdvancedLinkReset where
  setup : AlSetup
  attemptReporter : TxState
  sentAt : Option TdmaTime
  retries : Nat

/-- The receiving side of a link. -/
structure AdvancedReceiver where
  windowSize : Nat
  /-- The number at the lower edge of the window. -/
  nextRxNs : Nat
  rxSdus : Nat → Option AdvancedRxSdu
  reset : Option AdvancedLinkReset

/-- What an arriving segment causes. -/
inductive AlOutput where
  | ack (ack : AlAck)
  | sdu (bits : List Bool)
deriving DecidableEq

def sequenceDistance (ns lower : Nat) : Nat := (ns + 256 - lower) % 8

namespace AdvancedRxSdu

def fresh (ns : Nat) : AdvancedRxSdu := ⟨ns, fun _ => none, none, none⟩

/-- A complete message is acknowledged; of another the first missing segment is named, and which of
the segments behind it have arrived. Segment numbers saturate at 255. -/
def acknowledgementBlock (rx : AdvancedRxSdu) : AlAckBlock :=
  if rx.complete.isSome then .positive rx.ns
  else
    let lastKey := (List.range 256).reverse.find? fun segment => (rx.segments segment).isSome
    let highest := (rx.finalSegment.or lastKey).getD 0
    let firstMissing :=
      ((List.range (highest + 1)).find? fun segment => (rx.segments segment).isNone).getD
        (min (highest + 1) 255)
    let lastDescribed := min (min (firstMissing + 61) 255) highest
    let described := min (firstMissing + 1) 255
    { nr := rx.ns
      acknowledgementLength := max (lastDescribed - firstMissing + 1) 1
      firstMissingSegment := some firstMissing
      acknowledgementBitmap :=
        (List.range' described (lastDescribed + 1 - described)).map fun segment =>
          (rx.segments segment).isSome }

/-- Keep a segment; the first copy of a segment stays. -/
def accept (rx : AdvancedRxSdu) (header : AlDataHeader) (payload : List Bool) : AdvancedRxSdu :=
  { rx with
    segments :=
      if (rx.segments header.segment).isSome then rx.segments
      else Function.update rx.segments header.segment (some payload)
    finalSegment := if header.finalSegment then some header.segment else rx.finalSegment }

/-- All segments, one after the other, once none is missing. -/
def assembled (rx : AdvancedRxSdu) : Option (List Bool) := do
  let last ← rx.finalSegment
  if (List.range (last + 1)).all fun segment => (rx.segments segment).isSome then
    some ((List.range (last + 1)).flatMap fun segment => (rx.segments segment).getD [])
  else none

end AdvancedRxSdu

namespace AdvancedReceiver

variable (link : AdvancedReceiver)

/-- One block for each message of the window, one of them given. -/
def acknowledgementBlocks (overrideBlock : Option AlAckBlock) : List AlAckBlock :=
  (List.range link.windowSize).map fun offset =>
    let nr := (link.nextRxNs + offset) % 8
    match overrideBlock.filter (·.nr = nr) with
    | some block => block
    | none => ((link.rxSdus nr).map AdvancedRxSdu.acknowledgementBlock).getD ⟨nr, 1, some 0, []⟩

def sendAlAck (blocks : List AlAckBlock) : List AlOutput :=
  if (⟨true, blocks⟩ : AlAck).encodable then [.ack ⟨true, blocks⟩] else []

/-- Pass up the complete messages at the lower edge of the window. -/
def deliverReady : (rounds : Nat) → AdvancedReceiver → AdvancedReceiver × List (List Bool)
  | 0, link => (link, [])
  | rounds + 1, link =>
    match (link.rxSdus link.nextRxNs).bind (·.complete) with
    | none => (link, [])
    | some sdu =>
      let (after, later) := deliverReady rounds
        { link with
          rxSdus := Function.update link.rxSdus link.nextRxNs none
          nextRxNs := (link.nextRxNs + 1) % 8 }
      (after, sdu :: later)

def store (ns : Nat) (rx : Option AdvancedRxSdu) : AdvancedReceiver :=
  { link with rxSdus := Function.update link.rxSdus ns rx }

/-- A segment of a message in the window: what is then known of the message, and the
acknowledgement sent for it. -/
def collect (header : AlDataHeader) (rx : AdvancedRxSdu) :
    Except Fault (AdvancedReceiver × List AlOutput) := do
  match rx.assembled with
  | none =>
    let link := link.store header.ns (some rx)
    .ok (link, if header.acknowledgementRequested then sendAlAck (link.acknowledgementBlocks none)
      else [])
  | some bits =>
    if ← checkFcs bits then
      let link := link.store header.ns
        (some { rx with complete := some (bits.take (bits.length - 32)) })
      .ok (link, sendAlAck (link.acknowledgementBlocks none))
    else
      -- the sender must send the same message again from its first segment
      let link := link.store header.ns none
      .ok (link, sendAlAck (link.acknowledgementBlocks (some ⟨header.ns, 63, none, []⟩)))

/-- A segment arrives. -/
def handleAlData (pdu : BitBuffer) : Except Fault (AdvancedReceiver × List AlOutput) :=
  match AlDataHeader.fromBitbuf pdu with
  | .error .panic => .error .panic
  | .error (.parse _) => .ok (link, [])
  | .ok (header, pdu) =>
    if link.reset.isSome then .ok (link, [])
    else if link.windowSize ≤ sequenceDistance header.ns link.nextRxNs then
      let behind := sequenceDistance link.nextRxNs header.ns
      if 1 ≤ behind ∧ behind ≤ link.windowSize then
        .ok (link, sendAlAck ((List.range behind).map fun offset =>
          .positive ((header.ns + offset) % 8)))
      else .ok (link, [])
    else
      let rx := (link.rxSdus header.ns).getD (.fresh header.ns)
      if rx.complete.isSome then .ok (link, sendAlAck (link.acknowledgementBlocks none))
      else do
        let (link, acks) ← link.collect header (rx.accept header pdu.unread)
        let (link, delivered) := deliverReady 8 link
        .ok (link, acks ++ delivered.map .sdu)

end AdvancedReceiver

end Bluestation
