/-
**The sender of an advanced link.**

What the link layer keeps of one terminal: the link, if it is set up, the requests that wait for
one, what was queued for the layers around it, and how requests ended. Channel allocations and
encryption requests travel with a message unchanged and are left out; so is the channel a setup is
sent on.

* `advancedSegments` — a message is cut into segments.
* `handleAlSetup`, `handleAlAck`, `handleAlReconnect`, `handleAlDisconnect` — what a terminal sends.
* `beginAdvancedLinkReset` — the link is set up anew in place.
-/

import Bluestation.Llc.AdvancedReceiver

namespace Bluestation

open Bits Fcs

/-! ### Timers and limits -/

def t252AckWaitingTimer : Int := 9 * 4
def t261SetupWaitingTimer : Int := 4 * 4
def t271ReceiverNotReadyForTxTimer : Int := 36 * 4
def n262AlMaxConnectionSetupRetries : Nat := 3
def maxAlAckRequestRepeats : Nat := 5
def alSetupNegotiationTimeout : Int := t261SetupWaitingTimer * (n262AlMaxConnectionSetupRetries + 1)
def maxPendingAdvancedTlsdusPerLink : Nat := 64
def alDownlinkSegmentBits : Nat := 214
def alFinalFcsBits : Nat := 32

def timerExpired (now started : TdmaTime) (timer : Int) : Bool := timer ≤ now.diff started

def markReporterLost : TxState → TxState
  | .acknowledged => .acknowledged
  | _ => .lost

/-! ### Segments -/

def cutEvenly (length : Nat) : (count : Nat) → List Bool → List (List Bool)
  | 0, bits => [bits]
  | count + 1, bits => bits.take length :: cutEvenly length count (bits.drop length)

/-- A message with its check sequence in segments; the last one has at least the check sequence. -/
def advancedSegments (tlSdu : List Bool) : Except Fault (List (List Bool)) := do
  let checksum ← computeFcs tlSdu
  let protectedBits := tlSdu ++ bitsOf 32 checksum.toNat
  let totalBits := protectedBits.length
  if totalBits ≤ alDownlinkSegmentBits then .ok [protectedBits]
  else
    let segmentCount := (totalBits + alDownlinkSegmentBits - 1) / alDownlinkSegmentBits
    let nonFinalLength :=
      min alDownlinkSegmentBits ((totalBits - alFinalFcsBits) / (segmentCount - 1))
    .ok (cutEvenly nonFinalLength (segmentCount - 1) protectedBits)

/-! ### A message that is being sent -/

/-- `message` says which request it is of, and so whose receipt `reporter` is the state of. -/
structure AdvancedTxSdu where
  message : Nat
  ns : Nat
  segments : List (List Bool)
  endpointId : Nat
  reporter : TxState
  attemptReporter : Option TxState
  /-- The segment that was last handed to the MAC asks for an acknowledgement of the window. -/
  acknowledgementRequested : Bool
  sentAt : Option TdmaTime
  ackRequestRepetitions : Nat
  retransmissions : Nat
  segmentRetransmissions : List Nat
  pendingSegments : Option (List Nat)
deriving DecidableEq

namespace AdvancedTxSdu

/-- A message of which nothing was handed to the MAC. -/
def fresh (message ns : Nat) (segments : List (List Bool)) (endpointId : Nat) : AdvancedTxSdu where
  message := message
  ns := ns
  segments := segments
  endpointId := endpointId
  reporter := .pending
  attemptReporter := none
  acknowledgementRequested := false
  sentAt := none
  ackRequestRepetitions := 0
  retransmissions := 0
  segmentRetransmissions := List.replicate segments.length 0
  pendingSegments := none

variable (sdu : AdvancedTxSdu)

def inFlight : Bool := sdu.attemptReporter.isSome || sdu.sentAt.isSome

def wasSent : Bool :=
  sdu.attemptReporter.isSome || sdu.sentAt.isSome || decide (sdu.reporter ≠ .pending)

/-- No trace of an attempt. -/
def neverOffered : Bool :=
  sdu.attemptReporter.isNone && sdu.sentAt.isNone && decide (sdu.reporter = .pending) &&
    !sdu.acknowledgementRequested && decide (sdu.ackRequestRepetitions = 0) &&
    decide (sdu.retransmissions = 0) && sdu.segmentRetransmissions.all (· = 0) &&
    sdu.pendingSegments.isNone

def markAcknowledged : AdvancedTxSdu :=
  { sdu with
    reporter :=
      if sdu.reporter = .pending ∨ sdu.reporter = .transmitted then .acknowledged
      else sdu.reporter }

def markLost : AdvancedTxSdu :=
  { sdu with reporter := markReporterLost sdu.reporter }

/-- The attempt is over; a receipt that said transmitted waits for the next one. -/
def withdraw : AdvancedTxSdu :=
  { sdu with
    reporter := if sdu.reporter = .transmitted then .pending else sdu.reporter
    attemptReporter := none
    acknowledgementRequested := false
    sentAt := none }

def again : AdvancedTxSdu :=
  { sdu with
    retransmissions := min (sdu.retransmissions + 1) 255
    pendingSegments := none }

/-- The segments that a block says are missing. -/
def missingSegments (block : AlAckBlock) (first : Nat) : List Nat :=
  (first :: block.acknowledgementBitmap.zipIdx.filterMap fun (received, offset) =>
    if received then none else some (first + offset + 1)).filter (· < sdu.segments.length)

/-- Count one more transmission of each segment, up to the first that exceeds the limit. -/
def countMissing (limit : Nat) : List Nat → List Nat → List Nat × Bool
  | [], counts => (counts, false)
  | segment :: rest, counts =>
    let counts := counts.modify segment fun count => min (count + 1) 255
    if limit < counts.getD segment 0 then (counts, true) else countMissing limit rest counts

/-- What is to be sent after a block that does not acknowledge all of it. -/
def recover (block : AlAckBlock) (limit : Nat) : AdvancedTxSdu :=
  if block.acknowledgementLength = 63 then sdu.again
  else
    match block.firstMissingSegment with
    | none => sdu
    | some first =>
      let missing := sdu.missingSegments block first
      let (counts, exceeded) := countMissing limit missing sdu.segmentRetransmissions
      let sdu := { sdu with segmentRetransmissions := counts }
      if exceeded then sdu.again
      else if missing.isEmpty then sdu
      else { sdu with pendingSegments := some missing }

/-- A block that does not acknowledge all of it proves that the request for it was heard. -/
def askedAgain (block : AlAckBlock) (limit : Nat) : AdvancedTxSdu :=
  ({ sdu with ackRequestRepetitions := 0 }.recover block limit).withdraw

/-- Look at the receipt of the attempt. -/
def observeAttempt (now : TdmaTime) : AdvancedTxSdu :=
  match sdu.attemptReporter with
  | some .transmitted | some .acknowledged =>
    { sdu with
      reporter := if sdu.reporter = .pending then .transmitted else sdu.reporter
      sentAt := if sdu.acknowledgementRequested then sdu.sentAt.or (some now) else sdu.sentAt }
  | some .discarded | some .lost =>
    { sdu with attemptReporter := none, acknowledgementRequested := false, sentAt := none }
  | _ => sdu

/-- No acknowledgement in time: ask for it again with the last segment, then send all of it again,
then give up. -/
def timeOut (maxSduRetransmissions : Nat) : Option AdvancedTxSdu :=
  if sdu.ackRequestRepetitions < maxAlAckRequestRepeats then
    some { sdu.withdraw with
      ackRequestRepetitions := sdu.ackRequestRepetitions + 1
      pendingSegments := some [sdu.segments.length - 1] }
  else if maxSduRetransmissions ≤ sdu.retransmissions then none
  else
    some { sdu.withdraw with
      retransmissions := sdu.retransmissions + 1
      ackRequestRepetitions := 0
      pendingSegments := none }

end AdvancedTxSdu

/-! ### The link -/

/-- The receiver of a link and its sender. -/
structure AdvancedLink extends AdvancedReceiver where
  linkNumber : Nat
  maximumSdu : Nat
  slots : Nat
  throughput : Nat
  maxSduRetransmissions : Nat
  maxSegmentRetransmissions : Nat
  endpointId : Nat
  nextTxNs : Nat
  receiverReady : Bool
  receiverNotReadySince : Option TdmaTime
  /-- The setup was confirmed. -/
  ready : Bool
  setupStartedAt : Option TdmaTime
  tx : List AdvancedTxSdu

/-- A request to send a message on an advanced link. -/
structure TlaTlDataReqAl where
  message : Nat
  tlSdu : List Bool
  endpointId : Nat

structure PendingAdvancedData where
  prim : TlaTlDataReqAl
  queuedAt : TdmaTime

/-- What is queued for the other layers. A segment is queued for a timeslot. -/
inductive AlPdu where
  | data (message : Nat) (header : AlDataHeader) (payload : List Bool) (endpointId : Nat)
      (route : Option Nat)
  | received (output : AlOutput)
  | setup (pdu : AlSetup)
  | reconnect (pdu : AlReconnect)
  | disconnect (pdu : AlDisconnect)
deriving DecidableEq

/-- How the receipt of a request ended. -/
structure Report where
  message : Nat
  state : TxState
deriving DecidableEq

/-- What is kept of one terminal. -/
structure Terminal where
  link : Option AdvancedLink
  pending : List PendingAdvancedData
  queue : List AlPdu
  reported : List Report

namespace AdvancedLink

variable (link : AdvancedLink)

/-- Take a request into the queue of the link, if it has room. -/
def rxTlaTldataReqAl (prim : TlaTlDataReqAl) :
    Except Fault (Option AdvancedLink) := do
  if link.linkNumber ≠ 0 ∨ maxPendingAdvancedTlsdusPerLink ≤ link.tx.length then .ok none
  else
    let segments ← advancedSegments prim.tlSdu
    .ok (some { link with
      nextTxNs := (link.nextTxNs + 1) % 8
      endpointId := prim.endpointId
      tx := link.tx ++ [.fresh prim.message link.nextTxNs segments prim.endpointId] })

/-- The blocks are of the whole receive window of the other side. -/
def completeWindowReport (blocks : List AlAckBlock) : Bool :=
  blocks.length = link.windowSize &&
    (blocks.zip (blocks.drop 1)).all fun (block, next) => next.nr = (block.nr + 1) % 8

/-- The messages at the front that a receive window has passed, and the rest. -/
def retirePassed (windowSize receiverBase : Nat) :
    List AdvancedTxSdu → List AdvancedTxSdu × List AdvancedTxSdu
  | [] => ([], [])
  | front :: rest =>
    let advance := sequenceDistance receiverBase front.ns
    if front.ns = receiverBase ∨ advance = 0 ∨ windowSize < advance ∨ !front.wasSent then
      ([], front :: rest)
    else
      let (retired, kept) := retirePassed windowSize receiverBase rest
      (front.markAcknowledged :: retired, kept)

/-- The queue after a report of the whole receive window: sent messages before it are retired, as
the window has passed them. -/
def retireReported (blocks : List AlAckBlock) : List AdvancedTxSdu × List AdvancedTxSdu :=
  match blocks.head? with
  | some base =>
    if link.completeWindowReport blocks then retirePassed link.windowSize base.nr link.tx
    else ([], link.tx)
  | none => ([], link.tx)

/-- What blocks did to the queue. -/
structure AckProgress where
  tx : List AdvancedTxSdu
  acknowledged : List AdvancedTxSdu
  failedNs : Option Nat

/-- One block, for the first message with its number. -/
def handleBlock (block : AlAckBlock) (tx : List AdvancedTxSdu) : AckProgress :=
  match tx.findIdx? (·.ns = block.nr) with
  | none => ⟨tx, [], none⟩
  | some position =>
    match tx[position]? with
    | none => ⟨tx, [], none⟩
    | some sdu =>
      -- a block may be of a message that is queued but was not handed on
      if !sdu.wasSent then ⟨tx, [], none⟩
      else if block.acknowledgementLength = 0 then
        ⟨tx.eraseIdx position, [sdu.markAcknowledged], none⟩
      else
        let sdu := sdu.askedAgain block link.maxSegmentRetransmissions
        ⟨tx.set position sdu, [],
          if link.maxSduRetransmissions < sdu.retransmissions then some sdu.ns else none⟩

/-- The blocks in order, until a message has failed. -/
def handleBlocks (link : AdvancedLink) : List AlAckBlock → List AdvancedTxSdu → AckProgress
  | [], tx => ⟨tx, [], none⟩
  | block :: rest, tx =>
    let progress := link.handleBlock block tx
    if progress.failedNs.isSome then progress
    else
      let later := link.handleBlocks rest progress.tx
      ⟨later.tx, progress.acknowledged ++ later.acknowledged, later.failedNs⟩

/-- The setup that asks for a reset with the parameters of the link. -/
def resetSetup : AlSetup where
  acknowledged := true
  linkNumber := link.linkNumber
  maximumSdu := link.maximumSdu
  connectionWidth := decide (1 < link.slots)
  asymmetric := false
  uplinkSlots := if 1 < link.slots then some link.slots else none
  downlinkSlots := none
  throughput := link.throughput
  windowSize := link.windowSize
  sduRetransmissions := link.maxSduRetransmissions
  segmentRetransmissions := link.maxSegmentRetransmissions
  report := 3

/-- The messages a reset keeps, and those it gives up. -/
def splitForReset (failedNs : Nat) (tx : List AdvancedTxSdu) :
    List AdvancedTxSdu × List AdvancedTxSdu :=
  let failedPosition := tx.findIdx? (·.ns = failedNs)
  let (kept, abandoned) := tx.zipIdx.partition fun (sdu, position) =>
    decide (some position ≠ failedPosition) && sdu.neverOffered
  (kept.map Prod.fst, abandoned.map Prod.fst)

/-- The link while a reset of it is under way. -/
def resetting (retained : List AdvancedTxSdu) (attempt : TxState) : AdvancedLink :=
  { link with
    tx := retained.mapIdx fun position sdu => { sdu with ns := position % 8 }
    nextTxNs := retained.length % 8
    nextRxNs := 0
    rxSdus := fun _ => none
    receiverReady := false
    receiverNotReadySince := none
    ready := false
    setupStartedAt := none
    reset := some ⟨link.resetSetup, attempt, none, 0⟩ }

/-- Look at the messages in order: their attempts and their timers. A message that has failed ends
it. -/
def observe (link : AdvancedLink) (now : TdmaTime) :
    List AdvancedTxSdu → List AdvancedTxSdu × Option Nat
  | [] => ([], none)
  | sdu :: rest =>
    let sdu := sdu.observeAttempt now
    if sdu.sentAt.any (timerExpired now · t252AckWaitingTimer) then
      match sdu.timeOut link.maxSduRetransmissions with
      | none => (sdu :: rest, some sdu.ns)
      | some sdu =>
        let (rest, failedNs) := link.observe now rest
        (sdu :: rest, failedNs)
    else
      let (rest, failedNs) := link.observe now rest
      (sdu :: rest, failedNs)

/-- A receiver that was not ready for too long is taken to be ready again. -/
def resume (now : TdmaTime) : AdvancedLink :=
  let expired :=
    link.receiverNotReadySince.any (timerExpired now · t271ReceiverNotReadyForTxTimer)
  let resumed := !link.receiverReady && expired
  { link with
    receiverReady := link.receiverReady || resumed
    receiverNotReadySince := if resumed then none else link.receiverNotReadySince }

def generationEnd (tx : List AdvancedTxSdu) (sendBase : Nat) : Nat :=
  (((tx.drop 1).findIdx? (·.ns = sendBase)).map (· + 1)).getD tx.length

/-- A message an attempt may be started of. -/
def selectable (receiverNotReady : Bool) (sendBase : Nat) (sdu : AdvancedTxSdu) : Bool :=
  decide (sequenceDistance sdu.ns sendBase < max 1 (min 3 link.windowSize)) &&
    sdu.attemptReporter.isNone && sdu.sentAt.isNone && !sdu.acknowledgementRequested &&
    decide (sdu.retransmissions ≤ link.maxSduRetransmissions) &&
    (!receiverNotReady || sdu.pendingSegments.any (!·.isEmpty))

/-- The positions of the messages attempts are started of now. -/
def selectedSdus (receiverNotReady : Bool) : List Nat :=
  match link.tx.head? with
  | none => []
  | some front =>
    let windowCapacity := max 1 (min 3 link.windowSize)
    let inFlight := link.tx.countP (·.inFlight)
    let available := windowCapacity - min inFlight windowCapacity
    ((List.range link.tx.length).filter fun index =>
      decide (index < generationEnd link.tx front.ns) &&
        (link.tx[index]?).any (link.selectable receiverNotReady front.ns)).take available

end AdvancedLink

namespace AdvancedTxSdu

def selectedSegments (sdu : AdvancedTxSdu) : List Nat :=
  (sdu.pendingSegments.filter (!·.isEmpty)).getD (List.range sdu.segments.length)

/-- The segments of an attempt as they are handed to the MAC, spread over the timeslots. -/
def segmentPdus (sdu : AdvancedTxSdu) (routes : List Nat) (requestAcknowledgement : Bool) :
    List AlPdu :=
  sdu.selectedSegments.mapIdx fun selectedIndex segmentIndex =>
    let lastSelected := decide (selectedIndex + 1 = sdu.selectedSegments.length)
    .data sdu.message
      { finalSegment := decide (segmentIndex + 1 = sdu.segments.length)
        acknowledgementRequested := requestAcknowledgement && lastSelected
        ns := sdu.ns
        segment := segmentIndex % 256 }
      (sdu.segments.getD segmentIndex []) sdu.endpointId
      routes[segmentIndex % routes.length]?

def offered (sdu : AdvancedTxSdu) (requestAcknowledgement : Bool) : AdvancedTxSdu :=
  { sdu with
    attemptReporter := some .pending
    acknowledgementRequested := requestAcknowledgement
    pendingSegments := none }

end AdvancedTxSdu

namespace Terminal

def unknown : Terminal := ⟨none, [], [], []⟩

variable (terminal : Terminal)

def report (sdus : List AdvancedTxSdu) : Terminal :=
  { terminal with
    reported := terminal.reported ++ sdus.map fun sdu => ⟨sdu.message, sdu.reporter⟩ }

/-- Remove the link; what it had not sent is lost. -/
def dropLink : Terminal :=
  let lost := (terminal.link.map (·.tx)).getD []
  { terminal with link := none }.report (lost.map AdvancedTxSdu.markLost)

/-! ### Requests -/

/-- Keep a request until a link is set up, if there is room. -/
def queuePendingAdvancedData (now : TdmaTime) (prim : TlaTlDataReqAl) : Terminal :=
  let linked := (terminal.link.map (·.tx.length)).getD 0
  if maxPendingAdvancedTlsdusPerLink ≤ linked + terminal.pending.length then
    { terminal with reported := terminal.reported ++ [⟨prim.message, .lost⟩] }
  else { terminal with pending := terminal.pending ++ [⟨prim, now⟩] }

/-- Give a request to the link, if it takes it. -/
def offerToLink (prim : TlaTlDataReqAl) :
    Except Fault (Option Terminal) := do
  match terminal.link with
  | none => .ok none
  | some link =>
    let taken ← link.rxTlaTldataReqAl prim
    .ok (taken.map fun link => { terminal with link := some link })

/-- A request arrives. -/
def rxTlaTldataReqAlMessage (now : TdmaTime) (prim : TlaTlDataReqAl) :
    Except Fault Terminal := do
  match ← terminal.offerToLink prim with
  | some terminal => .ok terminal
  | none => .ok (terminal.queuePendingAdvancedData now prim)

/-- Move waiting requests to the link in the order they came; too old ones are lost. -/
def drainPending (now : TdmaTime) : List PendingAdvancedData → Terminal → Except Fault Terminal
  | [], terminal => .ok { terminal with pending := [] }
  | entry :: rest, terminal =>
    if timerExpired now entry.queuedAt alSetupNegotiationTimeout then
      drainPending now rest
        { terminal with reported := terminal.reported ++ [⟨entry.prim.message, .lost⟩] }
    else do
      match ← terminal.offerToLink entry.prim with
      | some terminal => drainPending now rest terminal
      | none => .ok { terminal with pending := entry :: rest }

def processPendingAdvancedData (now : TdmaTime) : Except Fault Terminal :=
  drainPending now terminal.pending terminal

/-! ### PDUs of the terminal -/

def negotiatedWindow (request : AlSetup) : Nat := max 1 (min 3 request.windowSize)

/-- The link a setup agrees on. -/
def negotiatedLink (now : TdmaTime) (endpointId : Nat) (request : AlSetup)
    (awaitingPeerSuccess : Bool) : AdvancedLink where
  windowSize := negotiatedWindow request
  nextRxNs := 0
  rxSdus := fun _ => none
  reset := none
  linkNumber := 0
  maximumSdu := min request.maximumSdu 6
  slots := max 1 (min 3 (request.uplinkSlots.getD 1))
  throughput := request.throughput
  maxSduRetransmissions := request.sduRetransmissions
  maxSegmentRetransmissions := request.segmentRetransmissions
  endpointId := endpointId
  nextTxNs := 0
  receiverReady := true
  receiverNotReadySince := none
  ready := !awaitingPeerSuccess
  setupStartedAt := if awaitingPeerSuccess then some now else none
  tx := []

/-- The link after the terminal confirmed a setup: numbers and queue stay. -/
def confirmedLink (link negotiated : AdvancedLink) : AdvancedLink :=
  { link with
    maximumSdu := negotiated.maximumSdu
    slots := negotiated.slots
    throughput := negotiated.throughput
    windowSize := negotiated.windowSize
    maxSduRetransmissions := negotiated.maxSduRetransmissions
    maxSegmentRetransmissions := negotiated.maxSegmentRetransmissions
    endpointId := negotiated.endpointId
    ready := true
    setupStartedAt := none
    receiverNotReadySince := none
    receiverReady := link.receiverReady || link.reset.isSome
    reset := none }

/-- The answer to a setup, if it has an encoding. -/
def setupResponse (negotiated : AdvancedLink) (report : Nat) : List AlPdu :=
  let response : AlSetup :=
    { acknowledged := true
      linkNumber := 0
      maximumSdu := negotiated.maximumSdu
      connectionWidth := decide (1 < negotiated.slots)
      asymmetric := false
      uplinkSlots := if 1 < negotiated.slots then some negotiated.slots else none
      downlinkSlots := none
      throughput := negotiated.throughput
      windowSize := negotiated.windowSize
      sduRetransmissions := negotiated.maxSduRetransmissions
      segmentRetransmissions := negotiated.maxSegmentRetransmissions
      report := report }
  if response.encodable then [.setup response] else []

/-- A setup arrives: a success completes one, everything else starts the link anew. -/
def handleAlSetup (now : TdmaTime) (endpointId : Nat) (request : AlSetup) : Except Fault Terminal :=
  if request.linkNumber ≠ 0 ∨ request.asymmetric then .ok terminal
  else if 4 < request.report then .ok terminal
  else
    let requestedSlots := request.uplinkSlots.getD 1
    let changed := decide (max 1 (min 3 requestedSlots) ≠ requestedSlots) ||
      decide (min request.maximumSdu 6 ≠ request.maximumSdu) ||
      decide (negotiatedWindow request ≠ request.windowSize)
    let awaitingPeerSuccess := decide (request.report = 1) && changed
    let negotiated := negotiatedLink now endpointId request awaitingPeerSuccess
    if request.report = 0 ∨ request.report = 4 then
      let link := (terminal.link.map (confirmedLink · negotiated)).getD negotiated
      processPendingAdvancedData { terminal with link := some link } now
    else
      let terminal := { terminal.dropLink with link := some negotiated }
      let response := setupResponse negotiated (if awaitingPeerSuccess then 2 else 0)
      processPendingAdvancedData { terminal with queue := terminal.queue ++ response } now

/-- A segment arrives. -/
def handleAlData (terminal : Terminal) (pdu : BitBuffer) : Except Fault Terminal :=
  match terminal.link with
  | none => .ok terminal
  | some link => do
    let (receiver, outputs) ← link.toAdvancedReceiver.handleAlData pdu
    .ok { terminal with
      link := some { link with toAdvancedReceiver := receiver }
      queue := terminal.queue ++ outputs.map .received }

/-- Reset the link in place: both directions start at zero, and what was offered before is lost. -/
def beginAdvancedLinkReset (failedNs : Nat) : Terminal :=
  match terminal.link with
  | none => terminal
  | some link =>
    if link.reset.isSome then terminal
    else
      let (retained, abandoned) := AdvancedLink.splitForReset failedNs link.tx
      let encodable := link.resetSetup.encodable
      let link' := link.resetting retained (if encodable then .pending else .lost)
      let terminal : Terminal :=
        { terminal with
          link := some link'
          queue := terminal.queue ++ if encodable then [.setup link.resetSetup] else [] }
      terminal.report (abandoned.map AdvancedTxSdu.markLost)

/-- An acknowledgement arrives. -/
def handleAlAck (now : TdmaTime) (ack : AlAck) : Terminal :=
  match terminal.link with
  | none => terminal
  | some link =>
    if link.reset.isSome then terminal
    else
      let (retired, tx) := link.retireReported ack.blocks
      let progress := link.handleBlocks ack.blocks tx
      let link :=
        { link with
          receiverReady := ack.receiverReady
          receiverNotReadySince := if ack.receiverReady then none else some now
          tx := progress.tx }
      let terminal :=
        { terminal with link := some link }.report (retired ++ progress.acknowledged)
      match progress.failedNs with
      | some failedNs => terminal.beginAdvancedLinkReset failedNs
      | none => terminal

/-- A terminal moves to another cell or resource and keeps its link. -/
def handleAlReconnect (endpointId : Nat) (request : AlReconnect) : Terminal :=
  if request.report ≠ 0 then terminal
  else
    let accepted := decide (request.linkNumber = 0) && terminal.link.isSome
    let response : AlReconnect := ⟨true, request.linkNumber, if accepted then 2 else 1⟩
    { terminal with
      link :=
        if request.linkNumber = 0 then
          terminal.link.map fun link => { link with endpointId := endpointId }
        else terminal.link
      queue := terminal.queue ++ if response.encodable then [.reconnect response] else [] }

/-- A terminal releases its link. -/
def handleAlDisconnect (request : AlDisconnect) : Terminal :=
  if request.linkNumber ≠ 0 then terminal
  else
    let dropped := terminal.dropLink
    { dropped with
      pending := []
      reported := dropped.reported ++ terminal.pending.map fun entry => ⟨entry.prim.message, .lost⟩
      queue := dropped.queue ++ if request.report = 1 then [.disconnect ⟨true, 0, 0⟩] else [] }

/-! ### The end of a tick -/

/-- A reset waits for its confirmation, is repeated, or is given up. -/
def superviseReset (now : TdmaTime) (link : AdvancedLink) (reset : AdvancedLinkReset) : Terminal :=
  let (reset, retry) :=
    match reset.attemptReporter with
    | .transmitted | .acknowledged =>
      let sentAt := reset.sentAt.getD now
      ({ reset with sentAt := some sentAt }, timerExpired now sentAt t261SetupWaitingTimer)
    | .discarded | .lost => (reset, true)
    | .pending => (reset, false)
  if retry then
    if reset.retries < n262AlMaxConnectionSetupRetries then
      let encodable := reset.setup.encodable
      let attempt := if encodable then .pending else .lost
      { terminal with
        link := some { link with reset := some ⟨reset.setup, attempt, none, reset.retries + 1⟩ }
        queue := terminal.queue ++ if encodable then [.setup reset.setup] else [] }
    else terminal.dropLink
  else { terminal with link := some { link with reset := some reset } }

/-- Start attempts of the selected messages; the last one asks for the acknowledgement. -/
def offerSelected (link : AdvancedLink) (routes : List Nat) (selected : List Nat) : Terminal :=
  let acknowledgementSdu := selected.getLast?
  { terminal with
    link := some { link with
      tx := link.tx.mapIdx fun index sdu =>
        if index ∈ selected then sdu.offered (decide (some index = acknowledgementSdu)) else sdu }
    queue := terminal.queue ++ selected.flatMap fun index =>
      ((link.tx[index]?).map fun sdu =>
        sdu.segmentPdus routes (decide (some index = acknowledgementSdu))).getD [] }

/-- Hand over what the window and the receiver allow. -/
def submitReady (now : TdmaTime) (routes : List Nat) (link : AdvancedLink) : Terminal :=
  let link := link.resume now
  let terminal := { terminal with link := some link }
  -- a receiver that is not ready without a time is a reset, not a busy receiver
  if !link.receiverReady && link.receiverNotReadySince.isNone then terminal
  else if routes.isEmpty then terminal
  else if link.tx.any (·.acknowledgementRequested) then terminal
  else terminal.offerSelected link routes (link.selectedSdus (!link.receiverReady))

/-- The timeslots of a terminal's packet channel that a link uses. -/
def activeRoutes (packetRoutes : List Nat) (slots : Nat) : List Nat :=
  (packetRoutes.filter fun timeslot => 2 ≤ timeslot && timeslot ≤ 4).take slots

/-- Receipts and timers are looked at, and segments are handed to the MAC. -/
def submitAdvancedLinkMessages (now : TdmaTime) (packetRoutes : List Nat) : Terminal :=
  match terminal.link with
  | none => terminal
  | some link =>
    match link.reset with
    | some reset => terminal.superviseReset now link reset
    | none =>
      if !link.ready then
        if link.setupStartedAt.any (timerExpired now · alSetupNegotiationTimeout) then
          terminal.dropLink
        else terminal
      else
        let (tx, failedNs) := link.observe now link.tx
        let link := { link with tx := tx }
        match failedNs with
        | some failedNs =>
          { terminal with link := some link }.beginAdvancedLinkReset failedNs
        | none => terminal.submitReady now (activeRoutes packetRoutes link.slots) link

def tickEnd (now : TdmaTime) (packetRoutes : List Nat) :
    Except Fault Terminal := do
  let terminal ← terminal.processPendingAdvancedData now
  .ok (terminal.submitAdvancedLinkMessages now packetRoutes)

/-! ### Receipts from the MAC -/

/-- The MAC transmitted or discarded what an attempt handed to it. -/
def macReport (position : Nat) (transmitted : Bool) : Terminal :=
  { terminal with
    link := terminal.link.map fun link =>
      { link with
        tx := link.tx.modify position fun sdu =>
          if sdu.attemptReporter = some .pending then
            { sdu with attemptReporter := some (if transmitted then .transmitted else .discarded) }
          else sdu } }

/-- The MAC transmitted or discarded a reset's setup. -/
def macReportReset (transmitted : Bool) : Terminal :=
  { terminal with
    link := terminal.link.map fun link =>
      { link with
        reset := link.reset.map fun reset =>
          if reset.attemptReporter = .pending then
            { reset with attemptReporter := if transmitted then .transmitted else .discarded }
          else reset } }

end Terminal

end Bluestation
