/-
**The basic link of the base station.**

A message of the basic link is acknowledged before the next one to the same terminal is handed to
the MAC. It goes out in one or several copies, one for each channel on which the terminal may be
listening; every copy has its own receipt.

* `submitForAcknowledgedTransmission` — a radio attempt of a message, in copies.
* `processIncomingAck` — an acknowledgement is matched with the message it may complete.
* `rxTlaTldataReqBl`, `rxTmaUnitdataInd` — a request from above, a PDU from below.
* `tickEnd` — retries, messages whose link is free, acknowledgements nothing could carry.

Messages are numbered in the order of their requests, received PDUs that ask for an acknowledgement
in the order of their arrival. `BasicLlc` keeps a record of what became of both.
-/

import Bluestation.Core.Primitives
import Bluestation.Core.TdmaTime
import Bluestation.Lib.Run
import Bluestation.Llc.Fcs
import Bluestation.Pdus.BasicLink
import Bluestation.Pdus.ChanAlloc

namespace Bluestation

open Bits Machines

variable {Key : Type}

/-! ### Numbers -/

def t251SenderRetryTimer : Nat := 16

def n252BlMaxTlsduRetransmitsAcked : Nat := 3

def assignedChannelAckRetryTimerMultiplier : Nat := 18

def assignedChannelAckExtraRetransmits : Nat := 2

def conservativeSchFPayloadBits : Nat := 200

def commonChannelFinalAckGraceTimeslots : Nat := 4

def assignedChannelFinalAckGraceTimeslots : Nat := 5 * 18 * 4

def i32Max : Int := 2 ^ 31 - 1

def asU32 (number : Int) : Nat := (number % 2 ^ 32).toNat

def saturatingAdd (first second : Nat) : Nat := min (first + second) (2 ^ 32 - 1)

/-! ### What the layer reads of the shared state -/

structure AssociatedChannel where
  callId : Nat
  timeslot : Nat
  usage : Nat
  bestEffortKey : Option Nat
deriving DecidableEq

structure CommonControlAssignment where
  msScch : Option Nat
  registrationSlot : Option Nat
  lastUplinkSlot : Option Nat

/-- Subscribers, their routes and the common control channels, as other parts of the station have
left them. -/
structure SharedConfig where
  aieEnabled : Bool
  isRegistered : Nat → Bool
  terminalAllowsClear : Nat → Bool
  isRegistrationPending : Nat → Bool
  directResponseWindowActive : Nat → TdmaTime → Bool
  subscriberDeliveryRoutes : Nat → List AssociatedChannel
  subscriberPacketDeliveryRoutes : Nat → List AssociatedChannel
  energyEconomyMode : Nat → Option Nat
  commonControl : Nat → CommonControlAssignment
  advertisedCount : Nat
  physicalCount : Nat

namespace SharedConfig

def isCommon (config : SharedConfig) (slot : Nat) : Bool :=
  1 ≤ slot && slot ≤ config.physicalCount + 1

def advertisedSlots (config : SharedConfig) : List Nat := List.range' 1 (config.advertisedCount + 1)

end SharedConfig

def commonControlSlot (msScch : Option Nat) (count : Nat) : Nat :=
  1 + (msScch.filter (· < 12)).getD 0 % (min count 3 + 1)

def eePeriodFrames : Nat → Nat
  | 1 => 2
  | 2 => 3
  | 3 => 6
  | 4 => 9
  | 5 => 18
  | 6 => 72
  | 7 => 360
  | _ => 1

def AssociatedChannel.inTraffic (route : AssociatedChannel) : Bool :=
  2 ≤ route.timeslot && route.timeslot ≤ 4

def distinctTimeslots : List AssociatedChannel → List AssociatedChannel
  | [] => []
  | route :: routes =>
    route :: (distinctTimeslots routes).filter fun other => other.timeslot ≠ route.timeslot

/-- The channels on which the terminal may be listening now, besides the main control channel. -/
def deliveryRoutes (config : SharedConfig) (issi : Nat) (dltime : TdmaTime) :
    List AssociatedChannel :=
  if config.isRegistrationPending issi then []
  else
    let routes := if config.directResponseWindowActive issi dltime then []
      else ((config.subscriberDeliveryRoutes issi).filter AssociatedChannel.inTraffic).map
        ({ · with bestEffortKey := none })
    let packetRoute := ((config.subscriberPacketDeliveryRoutes issi).find?
      AssociatedChannel.inTraffic).map ({ · with bestEffortKey := none })
    distinctTimeslots (match packetRoute with
      | some route => route :: routes.filter fun other => other.timeslot ≠ route.timeslot
      | none => routes)

def packetRoute (config : SharedConfig) (issi timeslot : Nat) : Option AssociatedChannel :=
  ((config.subscriberPacketDeliveryRoutes issi).filter AssociatedChannel.inTraffic).map
    ({ · with bestEffortKey := none }) |>.find? fun route => route.timeslot = timeslot

/-! ### Messages -/

structure CmceChanAllocReq where
  usage : Option Nat
  timeslots : Vector Bool 4
  allocType : ChanAllocType
deriving DecidableEq

/-- A request to the MAC; the receipt that travels with it is kept beside it. -/
structure TmaUnitdataReq (Key : Type) where
  pdu : List Bool
  mainAddress : TetraAddress
  endpointId : Nat
  stealingPermission : Bool
  airInterfaceEncryption : Option (AieRequest Key)
  chanAlloc : Option CmceChanAllocReq
  associatedChannel : Option AssociatedChannel
deriving DecidableEq

/-- One copy of a radio attempt: where it is sent, and its receipt. -/
structure AttemptCopy where
  timeslot : Nat
  reporter : TxReporter
deriving DecidableEq

/-- A message that waits to be handed to the MAC, or for its acknowledgement. -/
structure ExpectedInAck (Key : Type) where
  /-- Which request it is. -/
  message : Nat
  ts : Nat
  addr : TetraAddress
  ns : Nat
  forceCommonChannel : Bool
  packetData : Bool
  tFirst : TdmaTime
  tSubmittedToUmac : Option TdmaTime
  /-- When a copy was seen transmitted, or all were seen discarded. -/
  tUmacDone : Option TdmaTime
  hasTransmittedAttempt : Bool
  txReporter : TxReporter
  attempt : List AttemptCopy
  attemptAssigned : Bool
  observedTransmittedCopies : Nat
  retransmissionBuf : TmaUnitdataReq Key
  retransmitCount : Nat
deriving DecidableEq

/-- An acknowledgement that is still to be sent. -/
structure ScheduledOutAck (Key : Type) where
  /-- Which received PDU it acknowledges. -/
  cause : Nat
  addr : TetraAddress
  nr : Nat
  ts : Nat
  aieRequest : AieRequest Key

namespace TxReporter

/-- Transmitted, if it was pending or discarded: it is reset and marked. -/
def settleTransmitted (reporter : TxReporter) : TxReporter :=
  if reporter.isTransmitted then reporter else { reporter with state := .transmitted }

end TxReporter

/-! ### One radio attempt -/

namespace ExpectedInAck

variable (ack : ExpectedInAck Key)

def aieRequest : AieRequest Key :=
  ack.retransmissionBuf.airInterfaceEncryption.getD
    (.clear (.individual ack.addr.ssi) .macResource)

def cancelPendingAttemptCopies : ExpectedInAck Key :=
  { ack with
    attempt := ack.attempt.map fun copy =>
      if copy.reporter.state = .pending then
        { copy with reporter := { copy.reporter with state := .discarded } }
      else copy }

def preferredRoute : Option AssociatedChannel :=
  ack.retransmissionBuf.associatedChannel.filter AssociatedChannel.inTraffic

def packetAssociatedRoute : Bool := ack.packetData && ack.preferredRoute.isSome

variable (config : SharedConfig)

/-- The channels of an attempt, besides the common control channels. -/
def attemptRoutes (dltime : TdmaTime) : List AssociatedChannel :=
  let routes := if ack.forceCommonChannel || ack.packetData then []
    else deliveryRoutes config ack.addr.ssi dltime
  match ack.preferredRoute with
  | some route => route :: routes.filter fun candidate => candidate.timeslot ≠ route.timeslot
  | none => routes

/-- With several common control channels there is one copy at a time; retries go through these
places in turn. -/
def candidates (routes : List AssociatedChannel) : List (Nat × Option AssociatedChannel) :=
  let assignment := config.commonControl ack.addr.ssi
  let associated := routes.map fun route => (route.timeslot, some route)
  let ingress := assignment.registrationSlot.or
    (if ack.forceCommonChannel then assignment.lastUplinkSlot else none)
  let explicitCommon := (some ack.retransmissionBuf.endpointId).filter fun slot =>
    slot < 256 && config.isCommon slot
  if ack.packetAssociatedRoute then associated
  else match ingress.or explicitCommon with
    | some slot => [(slot, none)]
    | none =>
      config.advertisedSlots.foldl
        (fun found slot => if found.any (·.1 = slot) then found else found ++ [(slot, none)])
        ((commonControlSlot assignment.msScch config.advertisedCount, none) :: associated)

/-- A fresh attempt: its copies, and what is handed to the MAC for them. The copies of the attempt
before that have not reached the air are cancelled. -/
def submitForAcknowledgedTransmission (dltime : TdmaTime) :
    Except Fault (ExpectedInAck Key × List (TmaUnitdataReq Key)) :=
  let routes := ack.attemptRoutes config dltime
  let attempted := { ack with
    tSubmittedToUmac := some dltime
    tUmacDone := none
    observedTransmittedCopies := 0 }
  if 0 < config.physicalCount then
    let places := ack.candidates config routes
    match places[ack.retransmitCount % places.length]? with
    | none => .error .panic
    | some (slot, route) => .ok (
        { attempted with
          ts := slot
          attempt := [⟨slot, .new⟩]
          attemptAssigned := route.isSome },
        [{ ack.retransmissionBuf with
          associatedChannel := route
          endpointId := if route.isNone then slot else 0 }])
  else
    let main := if ack.packetAssociatedRoute then [] else [none]
    let places := routes.map some ++ main
    .ok (
      { attempted with
        ts := ((routes.getLast?).map (·.timeslot)).getD 1
        attempt := places.map fun place => ⟨(place.map (·.timeslot)).getD 1, .new⟩
        attemptAssigned := !routes.isEmpty },
      places.map fun place => { ack.retransmissionBuf with associatedChannel := place })

/-! ### Timers -/

def hasAssignedChannelContext : Bool :=
  ack.attemptAssigned || ack.retransmissionBuf.associatedChannel.isSome ||
    ack.retransmissionBuf.chanAlloc.any fun alloc =>
      alloc.usage.isSome || alloc.timeslots.toList.tail.any id

def basicLinkRetryTimer : Nat :=
  if ack.hasAssignedChannelContext then
    t251SenderRetryTimer * assignedChannelAckRetryTimerMultiplier
  else t251SenderRetryTimer

def estimatedMacFrames : Nat :=
  (ack.retransmissionBuf.pdu.length + conservativeSchFPayloadBits - 1) /
    conservativeSchFPayloadBits + 1

/-- How long the copies that are not on the air yet may take to get there. -/
def pendingRouteCompletionWindow : Nat :=
  let macFrames := ack.estimatedMacFrames
  let eePeriodMultiframes := ((config.energyEconomyMode ack.addr.ssi).map fun mode =>
    if mode = 0 then 0 else (eePeriodFrames (min mode 7) + 17) / 18).getD 0
  ((ack.attempt.filter (·.reporter.state = .pending)).map fun copy =>
    if config.isCommon copy.timeslot then
      saturatingAdd (eePeriodMultiframes * (18 * 4)) (macFrames * 4)
    else saturatingAdd ack.basicLinkRetryTimer (macFrames * (18 * 4))).foldl max 0

def maxOverAirRetransmits : Nat :=
  if ack.hasAssignedChannelContext then
    n252BlMaxTlsduRetransmitsAcked + assignedChannelAckExtraRetransmits
  else n252BlMaxTlsduRetransmitsAcked

end ExpectedInAck

def finalAckGraceElapsed (age : Int) (retryTimer : Nat) (assignedChannel : Bool) : Bool :=
  let grace := if assignedChannel then assignedChannelFinalAckGraceTimeslots
    else commonChannelFinalAckGraceTimeslots
  0 ≤ age && saturatingAdd retryTimer grace ≤ age.toNat

def TxReporter.giveUp (reporter : TxReporter) : Except Fault TxReporter :=
  match reporter.state with
  | .acknowledged | .lost => .ok reporter
  | .pending | .discarded | .transmitted => reporter.settleTransmitted.markLost

/-! ### What becomes of a message at the end of a timeslot -/

/-- A message after its retry was considered, what is handed to the MAC, and whether it is given
up. -/
structure Retried (Key : Type) where
  ack : ExpectedInAck Key
  sent : List (TmaUnitdataReq Key)
  exhausted : Bool

namespace ExpectedInAck

variable (ack : ExpectedInAck Key)

/-- Note the receipts of the copies. -/
def observe (now : TdmaTime) : ExpectedInAck Key :=
  let transmitted := ack.attempt.countP (·.reporter.isTransmitted)
  let allRoutesDone := !ack.attempt.isEmpty &&
    ack.attempt.all fun copy => copy.reporter.isTransmitted || copy.reporter.isDiscarded
  if ack.observedTransmittedCopies < transmitted then
    { ack with
      hasTransmittedAttempt := true
      observedTransmittedCopies := transmitted
      txReporter := ack.txReporter.settleTransmitted
      tUmacDone := some now }
  else if ack.tUmacDone.isNone && allRoutesDone then { ack with tUmacDone := some now }
  else ack

/-- The receipts may say transmitted before that was noted. -/
def noteReport : ExpectedInAck Key :=
  if ack.tUmacDone.isNone && (ack.txReporter.isTransmitted ||
      ack.attempt.any (·.reporter.isTransmitted)) then
    { ack with
      hasTransmittedAttempt := true
      txReporter := ack.txReporter.settleTransmitted }
  else ack

/-- Send the message again, wait, or give up. -/
def retry (config : SharedConfig) (now : TdmaTime) : Except Fault (Retried Key) := do
  let ack := ack.observe now
  match ack.tUmacDone with
  | none => .ok ⟨ack, [], false⟩
  | some done =>
    let age := now.diff done
    let retryTimer := ack.basicLinkRetryTimer
    if asU32 age < retryTimer then .ok ⟨ack, [], false⟩
    else
      let pendingWindow := ack.pendingRouteCompletionWindow config
      let attemptAge := (ack.tSubmittedToUmac.map now.diff).getD i32Max
      if 0 < pendingWindow ∧ 0 ≤ attemptAge ∧ attemptAge.toNat < pendingWindow then
        .ok ⟨ack, [], false⟩
      else if ack.retransmitCount < ack.maxOverAirRetransmits then
        let (again, sent) ← { ack with retransmitCount := ack.retransmitCount + 1
          }.submitForAcknowledgedTransmission config (now.forwardToTimeslot ack.tFirst.t)
        .ok ⟨again, sent, false⟩
      else .ok ⟨ack, [], finalAckGraceElapsed age retryTimer ack.hasAssignedChannelContext⟩

end ExpectedInAck

/-- Consider the retry of every message. -/
def retryMessages (config : SharedConfig) (now : TdmaTime) :
    List (ExpectedInAck Key) → Except Fault (List (Retried Key))
  | [] => .ok []
  | ack :: rest => do
    let one ← ack.retry config now
    let others ← retryMessages config now rest
    .ok (one :: others)

/-- Take the first message of a terminal that was handed to the MAC. -/
def takeExpectedAckForSsi (ssi : Nat) :
    List (ExpectedInAck Key) → Option (ExpectedInAck Key × List (ExpectedInAck Key))
  | [] => none
  | ack :: rest =>
    if ack.addr.ssi = ssi ∧ ack.tSubmittedToUmac.isSome then some (ack, rest)
    else (takeExpectedAckForSsi ssi rest).map fun (found, others) => (found, ack :: others)

/-- Hand to the MAC what no earlier message of the same terminal holds back. -/
def submitFreeMessages (config : SharedConfig) (now : TdmaTime) (blocked : List Nat) :
    List (ExpectedInAck Key) →
      Except Fault (List (ExpectedInAck Key) × List (Nat × TmaUnitdataReq Key))
  | [] => .ok ([], [])
  | ack :: rest => do
    if ack.tSubmittedToUmac.isSome then
      let (others, sent) ← submitFreeMessages config now (ack.addr.ssi :: blocked) rest
      .ok (ack :: others, sent)
    else if ack.addr.ssi ∈ blocked then
      let (others, sent) ← submitFreeMessages config now blocked rest
      .ok (ack :: others, sent)
    else
      let (submitted, copies) ← ack.submitForAcknowledgedTransmission config
        (now.forwardToTimeslot ack.tFirst.t)
      let (others, sent) ← submitFreeMessages config now (ack.addr.ssi :: blocked) rest
      .ok (submitted :: others, copies.map (ack.message, ·) ++ sent)

/-- The bare acknowledgement of a received PDU. On a traffic channel it is stolen from the speech,
unless the channel carries packets or is a common control channel. -/
def ScheduledOutAck.request (ack : ScheduledOutAck Key) (config : SharedConfig) :
    TmaUnitdataReq Key :=
  let route := packetRoute config ack.addr.ssi ack.ts
  let steal := 2 ≤ ack.ts && ack.ts ≤ 4 && route.isNone && !config.isCommon ack.ts
  { pdu := (BlAck.mk false ack.nr).wire
    mainAddress := ack.addr
    endpointId := ack.ts
    stealingPermission := steal
    airInterfaceEncryption := some (ack.aieRequest.withScope .macResource)
    chanAlloc := if steal then
        some ⟨none, Vector.ofFn fun index => decide (index.val + 1 = ack.ts), .replace⟩
      else none
    associatedChannel := route }

def AttemptCopy.report (copy : AttemptCopy) (transmitted : Bool) :
    Except Fault AttemptCopy := do
  let reporter ← if transmitted then copy.reporter.markTransmitted else copy.reporter.markDiscarded
  .ok { copy with reporter }

/-! ### The layer -/

/-- A request that was taken: its terminal, its sequence number, its PDU, and which received PDU it
acknowledges on the way. -/
structure Requested (Key : Type) where
  addr : TetraAddress
  ns : Nat
  carries : Option Nat
  req : TmaUnitdataReq Key

/-- A received PDU that asks for an acknowledgement. -/
structure Received (Key : Type) where
  addr : TetraAddress
  ns : Nat
  ts : Nat
  aieRequest : AieRequest Key

/-- What the MAC was handed: a copy of a message, or a bare acknowledgement of a received PDU. -/
inductive Submission (Key : Type) where
  | copy (message : Nat) (req : TmaUnitdataReq Key)
  | reply (cause : Nat) (req : TmaUnitdataReq Key)

/-- A TL-SDU passed up. -/
structure TlDataInd (Key : Type) where
  acknowledged : Bool
  mainAddress : TetraAddress
  tlSdu : Option (List Bool)
  fcsFlag : Bool
  airInterfaceEncryption : Option (AieRequest Key)

structure BasicLlc (Key : Type) where
  dltime : TdmaTime
  scheduledOutAcks : List (ScheduledOutAck Key)
  outboundMessages : List (ExpectedInAck Key)
  linkSendSeq : Nat → Nat
  /-- Everything handed to the MAC so far. -/
  toUmac : List (Submission Key)
  toMle : List (TlDataInd Key)
  /-- Copies of messages that were given up while the MAC still held them. -/
  stray : List (Nat × AttemptCopy)
  requested : List (Requested Key)
  received : List (Received Key)
  /-- The messages that reached the air, in the order of their first copy there. -/
  aired : List Nat
  /-- The messages that are over, with their receipts. -/
  ended : List (Nat × TxState)

namespace BasicLlc

def new (now : TdmaTime) : BasicLlc Key := ⟨now, [], [], fun _ => 0, [], [], [], [], [], [], []⟩

variable (llc : BasicLlc Key)

/-! ### Requests -/

structure TlDataReqBl (Key : Type) where
  mainAddress : TetraAddress
  endpointId : Nat
  tlSdu : List Bool
  stealingPermission : Bool
  fcsFlag : Bool
  airInterfaceEncryption : Option (AieRequest Key)
  chanAlloc : Option CmceChanAllocReq
  associatedChannel : Option AssociatedChannel
  packetDataFlag : Bool
  /-- The receipt of the caller, which nobody has marked yet. -/
  txReporter : Option { reporter : TxReporter // reporter.state = .pending }

/-- The acknowledgement that can travel with a message, and the ones that stay scheduled. -/
def getOutAckSeqIfAny [DecidableEq Key] (addr : TetraAddress) (timeslot : Nat)
    (aieRequest : AieRequest Key) :
    List (ScheduledOutAck Key) → Option (ScheduledOutAck Key) × List (ScheduledOutAck Key)
  | [] => (none, [])
  | ack :: rest =>
    if ack.addr.ssi = addr.ssi ∧ ack.ts = timeslot ∧ ack.aieRequest.sameProtectionAs aieRequest then
      (some ack, rest)
    else
      let (found, others) := getOutAckSeqIfAny addr timeslot aieRequest rest
      (found, ack :: others)

variable (config : SharedConfig)

/-- Where the terminal will be listening for the message. -/
def deliveryTimeslot (prim : TlDataReqBl Key) : Nat :=
  if 0 < config.physicalCount ∧ prim.associatedChannel.isNone then
    let assignment := config.commonControl prim.mainAddress.ssi
    (((some prim.endpointId).filter fun slot => slot < 256 && config.isCommon slot).or
      assignment.registrationSlot).getD
        (commonControlSlot assignment.msScch config.advertisedCount)
  else
    ((prim.associatedChannel.map (·.timeslot)).or
      ((deliveryRoutes config prim.mainAddress.ssi llc.dltime).head?.map (·.timeslot))).getD 1

def checkSequence (prim : TlDataReqBl Key) : Except Fault (List Bool) := do
  if prim.fcsFlag then
    let checksum ← Fcs.computeFcs prim.tlSdu
    .ok (bitsOf 32 checksum.toNat)
  else .ok []

/-- A request from above: it is numbered, takes a waiting acknowledgement along, and queues. -/
def rxTlaTldataReqBl [DecidableEq Key] (config : SharedConfig) (prim : TlDataReqBl Key) :
    Except Fault (BasicLlc Key) := do
  assertThat (prim.stealingPermission = false)
  assertThat (prim.mainAddress.ssiType ≠ .gssi)
  let outgoing := prim.airInterfaceEncryption.getD
    (.clear (.individual prim.mainAddress.ssi) .macResource)
  let (outAck, scheduled) := getOutAckSeqIfAny prim.mainAddress (llc.deliveryTimeslot config prim)
    outgoing llc.scheduledOutAcks
  let ns := llc.linkSendSeq prim.mainAddress.ssi
  let checksum ← checkSequence prim
  let header := match outAck with
    | some ack => (BlAdata.mk prim.fcsFlag ack.nr ns).wire
    | none => (BlData.mk prim.fcsFlag ns).wire
  let req : TmaUnitdataReq Key := {
    pdu := header ++ prim.tlSdu ++ checksum
    mainAddress := prim.mainAddress
    endpointId := prim.endpointId
    stealingPermission := prim.stealingPermission
    airInterfaceEncryption := prim.airInterfaceEncryption
    chanAlloc := prim.chanAlloc
    associatedChannel := prim.associatedChannel }
  let ack : ExpectedInAck Key := {
    message := llc.requested.length
    ts := (prim.associatedChannel.map (·.timeslot)).getD 1
    addr := prim.mainAddress
    ns
    forceCommonChannel := prim.packetDataFlag &&
      prim.chanAlloc.any fun allocation => allocation.allocType = .replace
    packetData := prim.packetDataFlag
    tFirst := llc.dltime
    tSubmittedToUmac := none
    tUmacDone := none
    hasTransmittedAttempt := false
    txReporter := (prim.txReporter.map Subtype.val).getD .new
    attempt := []
    attemptAssigned := false
    observedTransmittedCopies := 0
    retransmissionBuf := req
    retransmitCount := 0 }
  .ok { llc with
    scheduledOutAcks := scheduled
    outboundMessages := llc.outboundMessages ++ [ack]
    linkSendSeq := Function.update llc.linkSendSeq prim.mainAddress.ssi (ns ^^^ 1)
    requested := llc.requested ++ [⟨prim.mainAddress, ns, outAck.map (·.cause), req⟩] }

/-! ### Received PDUs -/

structure TmaUnitdataInd (Key : Type) where
  pdu : Option BitBuffer
  mainAddress : TetraAddress
  airInterfaceEncryption : Option (AieRequest Key)

def TmaUnitdataInd.aieRequest (prim : TmaUnitdataInd Key) : AieRequest Key :=
  prim.airInterfaceEncryption.getD (.clear (.individual prim.mainAddress.ssi) .macData)

def isClear (request : Option (AieRequest Key)) : Bool :=
  match request with
  | none => true
  | some (.clear _ _) => true
  | some _ => false

/-- Keep an acknowledgement for later. -/
def scheduleOutgoingAck (dltime : TdmaTime) (addr : TetraAddress) (ns : Nat)
    (aieRequest : AieRequest Key) : BasicLlc Key :=
  { llc with
    scheduledOutAcks := llc.scheduledOutAcks ++ [⟨llc.received.length, addr, ns, dltime.t, aieRequest⟩]
    received := llc.received ++ [⟨addr, ns, dltime.t, aieRequest⟩] }

/-- An acknowledgement in clear answers a message that went out in clear. -/
def clearTransitionAckExpected (addr : TetraAddress) (nr : Nat) : Bool :=
  if !config.aieEnabled || !config.isRegistered addr.ssi || config.terminalAllowsClear addr.ssi then
    false
  else
    llc.outboundMessages.any fun expected =>
      expected.addr.ssi = addr.ssi && expected.ns = nr && expected.tSubmittedToUmac.isSome &&
        (expected.hasTransmittedAttempt || expected.tUmacDone.isSome ||
          expected.txReporter.isTransmitted || expected.attempt.any (·.reporter.isTransmitted)) &&
        isClear expected.retransmissionBuf.airInterfaceEncryption

/-- An acknowledgement: it completes the message that is out for the terminal, if that was
transmitted, has the same protection and the same sequence number. Otherwise the message goes back,
to the head of the queue. -/
def processIncomingAck [DecidableEq Key] (addr : TetraAddress) (nr : Nat)
    (aieRequest : AieRequest Key) : Except Fault (BasicLlc Key) :=
  match takeExpectedAckForSsi addr.ssi llc.outboundMessages with
  | none => .ok llc
  | some (taken, rest) => do
    let expectedAck := taken.noteReport
    let putBack := { llc with outboundMessages := expectedAck :: rest }
    if expectedAck.tUmacDone.isNone ∧ ¬ expectedAck.hasTransmittedAttempt then .ok putBack
    else if ¬ expectedAck.aieRequest.sameProtectionAs aieRequest then .ok putBack
    else if expectedAck.ns = nr then
      let reporter ← expectedAck.txReporter.settleTransmitted.markAcknowledged
      .ok { llc with
        outboundMessages := rest
        ended := llc.ended ++ [(expectedAck.message, reporter.state)] }
    else .ok putBack

/-- A PDU in clear from a terminal that is bound to encryption: only a bare acknowledgement that is
expected in clear and mobility management pass. -/
def rejectsClear (prim : TmaUnitdataInd Key) (pduType : LlcPduType) (header : BlHeader)
    (pdu : BitBuffer) : Bool :=
  isClear prim.airInterfaceEncryption && config.aieEnabled &&
    config.isRegistered prim.mainAddress.ssi && !config.terminalAllowsClear prim.mainAddress.ssi &&
    let bareAckBits := if header.hasFcs then 36 else 4
    let transitionAck := (pduType = .blAck || pduType = .blAckFcs) &&
      pdu.getLenRemaining ≤ bareAckBits &&
      header.nr.any (llc.clearTransitionAckExpected config prim.mainAddress)
    let mmBootstrap := pdu.peekBits 3 = some 1
    !transitionAck && !mmBootstrap

/-- What is passed up of a PDU: not a bare acknowledgement. -/
def deliver (prim : TmaUnitdataInd Key) (pduType : LlcPduType) (header : BlHeader)
    (pdu : BitBuffer) : BasicLlc Key :=
  if (pduType = .blAck ∨ pduType = .blAckFcs) ∧ pdu.getLenRemaining ≤ 4 then llc
  else { llc with
    toMle := llc.toMle ++ [{
      acknowledged := !(pduType = .blUdata || pduType = .blUdataFcs)
      mainAddress := prim.mainAddress
      tlSdu := if 0 < pdu.getLenRemaining then some pdu.unread else none
      fcsFlag := header.hasFcs
      airInterfaceEncryption := prim.airInterfaceEncryption }] }

/-- A PDU that is numbered asks for an acknowledgement. The uplink is two timeslots behind. -/
def scheduleFor (prim : TmaUnitdataInd Key) : Option Nat → BasicLlc Key
  | some ns =>
    llc.scheduleOutgoingAck (llc.dltime.addTimeslots (-2)) prim.mainAddress ns prim.aieRequest
  | none => llc

/-- What a PDU that passed all checks does. -/
def accept [DecidableEq Key] (prim : TmaUnitdataInd Key) (header : BlHeader) :
    Except Fault (BasicLlc Key) :=
  match header.nr with
  | some nr => (llc.scheduleFor prim header.ns).processIncomingAck prim.mainAddress nr prim.aieRequest
  | none => .ok (llc.scheduleFor prim header.ns)

/-- The header of a basic-link PDU that parses, passes its check sequence and is not rejected, and
what stands behind it. -/
def screen (prim : TmaUnitdataInd Key) (pduType : LlcPduType) (pdu : BitBuffer) :
    Except Fault (Option (BlHeader × BitBuffer)) :=
  match BlHeader.fromBitbuf pduType pdu with
  | .error (.parse _) => .ok none
  | .error .panic => .error .panic
  | .ok (header, pdu) => do
    let valid ← if header.hasFcs then Fcs.checkFcs pdu.unread else .ok true
    if !valid then .ok none
    else if llc.rejectsClear config prim pduType header pdu then .ok none
    else .ok (some (header, pdu))

def rxTmaUnitdataIndBl [DecidableEq Key] (prim : TmaUnitdataInd Key) (pduType : LlcPduType)
    (header : BlHeader) (pdu : BitBuffer) : Except Fault (BasicLlc Key) := do
  let accepted ← llc.accept prim header
  .ok (accepted.deliver prim pduType header pdu)

/-- The PDU of the basic link that is taken up, if it is one; those of the advanced link change
nothing here. -/
def takeUp (prim : TmaUnitdataInd Key) : Except Fault (Option (LlcPduType × BlHeader × BitBuffer)) :=
  match prim.pdu with
  | none => .error .panic
  | some pdu =>
    match (pdu.peekBits 4).bind LlcPduType.tryFrom with
    | none => .ok none
    | some pduType =>
      if pduType.isBasic then do
        let passed ← llc.screen config prim pduType pdu
        .ok (passed.map (pduType, ·))
      else .ok none

/-- A received PDU. -/
def rxTmaUnitdataInd [DecidableEq Key] (config : SharedConfig) (prim : TmaUnitdataInd Key) :
    Except Fault (BasicLlc Key) := do
  match ← llc.takeUp config prim with
  | none => .ok llc
  | some (pduType, header, pdu) => llc.rxTmaUnitdataIndBl prim pduType header pdu

/-! ### The end of a timeslot -/

/-- A message that is given up. Copies that the MAC still holds stay there. -/
def expire (ssi : Nat) : Except Fault (BasicLlc Key) :=
  match takeExpectedAckForSsi ssi llc.outboundMessages with
  | none => .error .panic
  | some (ack, rest) => do
    let reporter ← ack.txReporter.giveUp
    .ok { llc with
      outboundMessages := rest
      stray := llc.stray ++ ack.attempt.map (ack.message, ·)
      ended := llc.ended ++ [(ack.message, reporter.state)] }

/-- The queue after retries were considered, and what they hand to the MAC. -/
def noteRetried (retried : List (Retried Key)) : BasicLlc Key :=
  { llc with
    outboundMessages := retried.map (·.ack)
    toUmac := llc.toUmac ++ retried.flatMap fun one => one.sent.map (.copy one.ack.message ·) }

def submitRetransmissionsToUmac : Except Fault (BasicLlc Key) := do
  let retried ← retryMessages config llc.dltime llc.outboundMessages
  let exhausted := (retried.filter (·.exhausted)).map (·.ack.addr.ssi)
  exhausted.foldlM expire (llc.noteRetried retried)

def submitFreeMessagesToUmac : Except Fault (BasicLlc Key) := do
  let (messages, sent) ← submitFreeMessages config llc.dltime [] llc.outboundMessages
  .ok { llc with
    outboundMessages := messages
    toUmac := llc.toUmac ++ sent.map fun (message, req) => .copy message req }

def submitAckRepliesToUmac : BasicLlc Key :=
  { llc with
    scheduledOutAcks := []
    toUmac := llc.toUmac ++ llc.scheduledOutAcks.map fun ack =>
      .reply ack.cause (ack.request config) }

def tickEnd : Except Fault (BasicLlc Key) := do
  let llc ← llc.submitRetransmissionsToUmac config
  let llc ← llc.submitFreeMessagesToUmac config
  .ok (llc.submitAckRepliesToUmac config)

/-! ### Reports of the MAC -/

def air (message : Nat) : BasicLlc Key :=
  if message ∈ llc.aired then llc else { llc with aired := llc.aired ++ [message] }

/-- A report on a copy of a queued message. -/
def macReport (message position : Nat) (transmitted : Bool) : Except Fault (BasicLlc Key) := do
  match (llc.outboundMessages.find? (·.message = message)).bind (·.attempt[position]?) with
  | none => .error .panic
  | some copy =>
    let reported ← copy.report transmitted
    let llc := { llc with
      outboundMessages := llc.outboundMessages.map fun ack =>
        if ack.message = message then { ack with attempt := ack.attempt.set position reported }
        else ack }
    .ok (if transmitted then llc.air message else llc)

/-- A report on a copy of a message that was given up. -/
def macReportStray (index : Nat) (transmitted : Bool) : Except Fault (BasicLlc Key) := do
  match llc.stray[index]? with
  | none => .error .panic
  | some (message, copy) =>
    let reported ← copy.report transmitted
    let llc := { llc with stray := llc.stray.set index (message, reported) }
    .ok (if transmitted then llc.air message else llc)

end BasicLlc

/-! ### The machine -/

inductive BasicEvent (Key : Type) where
  | tickStart (time : TdmaTime)
  | request (config : SharedConfig) (prim : BasicLlc.TlDataReqBl Key)
  | unitdataInd (config : SharedConfig) (prim : BasicLlc.TmaUnitdataInd Key)
  | macReport (message position : Nat) (transmitted : Bool)
  | macReportStray (index : Nat) (transmitted : Bool)
  | tickEnd (config : SharedConfig)

/-- One event. -/
def BasicLlc.handle [DecidableEq Key] (llc : BasicLlc Key) :
    BasicEvent Key → Except Fault (BasicLlc Key)
  | .tickStart time => .ok { llc with dltime := time }
  | .request config prim => llc.rxTlaTldataReqBl config prim
  | .unitdataInd config prim => llc.rxTmaUnitdataInd config prim
  | .macReport message position transmitted => llc.macReport message position transmitted
  | .macReportStray index transmitted => llc.macReportStray index transmitted
  | .tickEnd config => llc.tickEnd config

/-- The layer as a machine; a fault ends the run. -/
def BasicLlc.machine [DecidableEq Key] : Machine (BasicLlc Key) (BasicEvent Key) where
  start llc := ∃ now, llc = .new now
  step llc event := (llc.handle event).toOption

end Bluestation
