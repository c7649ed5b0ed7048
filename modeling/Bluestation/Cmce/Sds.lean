/-
**Short data service: what it relays, what it reports, and its runs.**

With the network there, the network owns every route, and the service reports the result of each
delivery to one terminal. Without it the service relays between the terminals of the cell, and sends
the originator a failure message.

* `SdsBs.deliverFromSwmi`, `SdsBs.routeLstrSds` — a delivery, refused or tracked.
* `SdsBs.trackDelivery` — the delivery waits under the network's transaction, or a number of its own.
* `SdsBs.tickStart` — deliveries whose transmission has ended are settled.

History beside the state numbers the deliveries, and marks each result with the number it is for.
-/

import Bluestation.Lib.Table
import Bluestation.Cmce.ShortData

namespace Bluestation

open Machines

def swmiIssi : Nat := 0x00fffffd
def statusGeneralNegativeAck : Nat := 0xfe01
def statusNotAuthorised : Nat := 0xfe02
def statusDestinationDoesNotExist : Nat := 0xfe04
def statusDestinationNotReachable : Nat := 0xfe05
def statusDestinationNotAuthorised : Nat := 0xfe06
def sdsFailureSourceNotAuthorised : Nat := 0x2b
def sdsFailureDestinationNotAuthorised : Nat := 0x2c
def sdsFailureUnknownDestination : Nat := 0x2d
def sdsFailureDeliveryFailed : Nat := 0x32
def sdsFailureDestinationNotRegistered : Nat := 0x33
def sdsFailureDestinationNotReachable : Nat := 0x3d
def ruaSdsTlPid : Nat := 0xc1

/-! ### The state -/

/-- History: what a delivery was asked for. The network's deliveries have a transaction; `reporter`
is the receipt of the transmission, if there was one. -/
structure SdsRequest where
  transactionId : Option Nat
  originatorIssi : Nat
  destinationIssi : Nat
  reporter : Option Nat
deriving DecidableEq

structure PendingSdsDelivery where
  transactionId : Option Nat
  originatorIssi : Nat
  destinationIssi : Nat
  sdsTlProtocolId : Option Nat
  messageReference : Option Nat
  reporter : Nat
  /-- History: the number of the delivery. -/
  number : Nat

/-- A message to the network; a result names, as history, the number of its delivery. -/
inductive SdsSubmission where
  | sdsSubmit (commandId sourceIssi destinationSsi : Nat) (destinationIsGroup : Bool)
      (dataType lengthBits : Nat) (data : List Nat)
  | statusSubmit (commandId sourceIssi destinationSsi status : Nat)
  | sdsDeliveryResult (number : Option Nat) (transactionId destinationIssi : Nat) (delivered : Bool)
      (cause : Nat)
deriving DecidableEq

/-- A downlink request; a failure message names, as history, the number of its delivery. -/
structure SdsDownlink where
  request : LcmcMleUnitdataReq
  failureOf : Option Nat

structure SdsBs where
  swmi : Option (SwmiEndpoint SdsSubmission)
  nextCommandId : Nat
  nextLocalDeliveryId : Nat
  pendingDeliveries : Dictionary (Bool × Nat) PendingSdsDelivery
  reporters : List TxReporter
  queue : List SdsDownlink
  /-- The states of terminals' unit assignments that were seen on the air. -/
  ruaStates : List (Nat × Bool)
  /-- History: the deliveries to one terminal, by number. -/
  requests : List SdsRequest

/-- What the service reads of the cell. -/
structure SdsCell where
  isRegistered : Nat → Bool
  hasGroupMembers : Nat → Bool
  dmGateways : Table (List DmMsRouteAddress)

def SdsCell.gatewayForSsi (cell : SdsCell) (ssi : Nat) : Option (Nat × DmMsRouteAddress) :=
  List.argmin Prod.fst (cell.dmGateways.entries.flatMap fun entry =>
    (entry.2.filter (·.ssi = ssi)).map (entry.1, ·))

/-- Where a message goes: through a gateway, to a terminal or group of the cell, or nowhere. -/
inductive SdsRoute where
  | gateway (gatewayIssi : Nat) (address : DmMsRouteAddress)
  | direct
  | unreachable
deriving DecidableEq

def SdsCell.route (cell : SdsCell) (destinationSsi : Nat) (destinationIsGroup : Bool) : SdsRoute :=
  if destinationIsGroup then
    if cell.hasGroupMembers destinationSsi then .direct else .unreachable
  else match cell.gatewayForSsi destinationSsi with
    | some (gatewayIssi, address) => .gateway gatewayIssi address
    | none => if cell.isRegistered destinationSsi then .direct else .unreachable

/-- A terminal that is not registered and is the number of a group with members. -/
def SdsCell.takenForGroup (cell : SdsCell) (destinationSsi : Nat) : Bool :=
  !cell.isRegistered destinationSsi && cell.hasGroupMembers destinationSsi

namespace SdsBs

def new (swmi : Option (SwmiEndpoint SdsSubmission)) : SdsBs :=
  ⟨swmi, 1, 1, ∅, [], [], [], []⟩

variable (writeType3Generic : WriteType3) (cell : SdsCell) (s : SdsBs)

def swmiOnline : Bool := s.swmi.any (·.online)

def accepts : Bool := s.swmi.any (·.accepts)

def reporter (index : Nat) : TxReporter := s.reporters.getD index .new

def submit (message : SdsSubmission) : SdsBs := { s with swmi := s.swmi.map (·.submit message) }

def push (request : LcmcMleUnitdataReq) (failureOf : Option Nat) : SdsBs :=
  { s with queue := s.queue ++ [⟨request, failureOf⟩] }

def newReporter : SdsBs × Nat := ({ s with reporters := s.reporters ++ [.new] }, s.reporters.length)

def note (request : SdsRequest) : SdsBs := { s with requests := s.requests ++ [request] }

/-- The state of a terminal's unit assignment, if the message tells one. -/
def observeRua (issi dataType : Nat) (data : List Nat) : SdsBs :=
  if dataType ≠ 3 ∨ data.length < 4 ∨ data.getD 0 0 ≠ ruaSdsTlPid then s
  else match data.getD 3 0 with
    | 2 => { s with ruaStates := s.ruaStates ++ [(issi, true)] }
    | 3 | 4 => { s with ruaStates := s.ruaStates ++ [(issi, false)] }
    | _ => s

/-! ### Sending -/

def dSdsData (sourceIssi : Nat) (dmMsAddress : Option DmMsRouteAddress) (data : SdsUserData) :
    DSdsData :=
  ⟨1, some sourceIssi, none, data, none, dmMsAddress.bind dmMsType3⟩

/-- Queue the PDU, unless it cannot be encoded. -/
def sendDSdsDataTo (sourceIssi destinationSsi : Nat) (destinationType : SsiType)
    (dmMsAddress : Option DmMsRouteAddress) (data : SdsUserData) (txReporter : Option Nat)
    (aieOverride : Option (AieRequest Unit)) (failureOf : Option Nat) : SdsBs × Bool :=
  match (dSdsData sourceIssi dmMsAddress data).toBitbuf writeType3Generic with
  | .error _ => (s, false)
  | .ok sdu =>
    (s.push ⟨sdu, layer2serviceFor destinationType, ⟨destinationSsi, destinationType⟩, none,
      aieOverride, txReporter⟩ failureOf, true)

/-- Queue a status, unless it cannot be encoded. -/
def sendDStatusTo (sourceIssi destinationSsi : Nat) (destinationType : SsiType)
    (dmMsAddress : Option DmMsRouteAddress) (status : PreCodedStatus) (failureOf : Option Nat) :
    SdsBs :=
  match (DStatus.mk 1 (some sourceIssi) none status none
      (dmMsAddress.bind dmMsType3)).toBitbuf writeType3Generic with
  | .error _ => s
  | .ok sdu =>
    s.push ⟨sdu, layer2serviceFor destinationType, ⟨destinationSsi, destinationType⟩, none, none,
      none⟩ failureOf

def failureStatus (cause : Nat) : Nat :=
  if cause = sdsFailureSourceNotAuthorised then statusNotAuthorised
  else if cause = sdsFailureDestinationNotAuthorised then statusDestinationNotAuthorised
  else if cause = sdsFailureUnknownDestination then statusDestinationDoesNotExist
  else if cause = sdsFailureDestinationNotRegistered ∨ cause = sdsFailureDestinationNotReachable then
    statusDestinationNotReachable
  else statusGeneralNegativeAck

/-- Tell the originator: with a report of its own protocol if it used one, else with a status. -/
def sendSwmiFailure (originatorIssi cause : Nat) (context : Option Nat × Option Nat)
    (failureOf : Option Nat) : SdsBs :=
  match context with
  | (some protocolId, some messageReference) =>
    (s.sendDSdsDataTo writeType3Generic swmiIssi originatorIssi .issi none
      (.type4 32 [protocolId, 0x10, cause, messageReference]) none none failureOf).1
  | _ =>
    s.sendDStatusTo writeType3Generic swmiIssi originatorIssi .issi none
      (.networkUserSpecific (failureStatus cause)) failureOf

/-! ### Deliveries -/

/-- The result of a transaction of the network; zero is none. -/
def reportDelivery (number : Option Nat) (transactionId destinationIssi : Nat) (delivered : Bool)
    (cause : Nat) : SdsBs :=
  if transactionId = 0 then s
  else s.submit (.sdsDeliveryResult number transactionId destinationIssi delivered cause)

/-- Wait for the end of a transmission. A delivery that waits under the same key is pushed out. -/
def trackDelivery (transactionId : Option Nat) (originatorIssi destinationIssi : Nat)
    (context : Option Nat × Option Nat) (reporter number : Nat) : SdsBs :=
  let pending : PendingSdsDelivery :=
    ⟨transactionId, originatorIssi, destinationIssi, context.1, context.2, reporter, number⟩
  match transactionId with
  | some transactionId =>
    { s with pendingDeliveries := s.pendingDeliveries.insert (true, transactionId) pending }
  | none =>
    { s with
      pendingDeliveries := s.pendingDeliveries.insert (false, s.nextLocalDeliveryId) pending
      nextLocalDeliveryId := wrappingSuccessor s.nextLocalDeliveryId }

/-- Send along a route. -/
def sendAlong (route : SdsRoute) (sourceIssi destinationSsi : Nat) (destinationIsGroup : Bool)
    (data : SdsUserData) (txReporter : Option Nat) (aieOverride : Option (AieRequest Unit)) :
    SdsBs × Bool :=
  match route with
  | .gateway gatewayIssi address =>
    s.sendDSdsDataTo writeType3Generic sourceIssi gatewayIssi .issi (some address) data txReporter
      none none
  | _ =>
    s.sendDSdsDataTo writeType3Generic sourceIssi destinationSsi
      (if destinationIsGroup then .gssi else .issi) none data txReporter aieOverride none

/-- The network's delivery. One to a single terminal that has a transaction is noted and tracked. -/
def deliverFromSwmi (transactionId sourceIssi destinationSsi : Nat) (destinationIsGroup : Bool)
    (dataType lengthBits : Nat) (data : List Nat) (aieOverride : Option (AieRequest Unit)) : SdsBs :=
  let tracked : Bool := !destinationIsGroup && transactionId ≠ 0
  let number := if tracked then some s.requests.length else none
  let request : SdsRequest := ⟨some transactionId, sourceIssi, destinationSsi, none⟩
  let noted := if tracked then s.note request else s
  match SdsUserData.ofWire dataType lengthBits data with
  | none =>
    noted.reportDelivery number transactionId destinationSsi false sdsFailureDeliveryFailed
  | some userData =>
    let route := cell.route destinationSsi destinationIsGroup
    if route = .unreachable then
      noted.reportDelivery number transactionId destinationSsi false
        sdsFailureDestinationNotReachable
    else
      let (issued, reporter) := s.newReporter
      let (sent, delivered) := (if tracked then issued else s).sendAlong writeType3Generic route
        sourceIssi destinationSsi destinationIsGroup userData
        (if tracked then some reporter else none) aieOverride
      if !delivered then
        (if tracked then sent.note request else sent).reportDelivery number transactionId
          destinationSsi false sdsFailureDeliveryFailed
      else if tracked then
        (sent.note { request with reporter := some reporter }).trackDelivery (some transactionId)
          sourceIssi destinationSsi (none, none) reporter s.requests.length
      else sent

/-- A message between terminals of the cell. One to a single terminal is noted and tracked. -/
def routeLstrSds (sourceIssi destinationSsi : Nat) (destinationIsGroup : Bool) (data : SdsUserData) :
    SdsBs :=
  let route := cell.route destinationSsi destinationIsGroup
  if route = .unreachable then
    s.sendSwmiFailure writeType3Generic sourceIssi sdsFailureDestinationNotReachable (none, none) none
  else
    let request : SdsRequest := ⟨none, sourceIssi, destinationSsi, none⟩
    let context := data.sdsTlContext
    let (issued, reporter) := s.newReporter
    let (sent, delivered) := (if destinationIsGroup then s else issued).sendAlong writeType3Generic
      route sourceIssi destinationSsi destinationIsGroup data
      (if destinationIsGroup then none else some reporter) none
    if !delivered then
      (if destinationIsGroup then sent else sent.note request).sendSwmiFailure writeType3Generic
        sourceIssi sdsFailureDeliveryFailed context
        (if destinationIsGroup then none else some s.requests.length)
    else if destinationIsGroup then sent
    else
      (sent.note { request with reporter := some reporter }).trackDelivery none sourceIssi
        destinationSsi context reporter s.requests.length

/-! ### Settling -/

/-- The deliveries whose transmission has ended, with how it ended. -/
def done (order : List (Bool × Nat)) : List ((Bool × Nat) × TxState) :=
  (s.pendingDeliveries.rearrange order).entries.filterMap fun entry =>
    if (s.reporter entry.2.reporter).isInFinalState then
      some (entry.1, (s.reporter entry.2.reporter).state)
    else none

def forget (key : Bool × Nat) : SdsBs :=
  { s with pendingDeliveries := s.pendingDeliveries.erase key }

/-- A transmission has ended: the network gets the result, an originator of the cell a failure. -/
def settle (item : (Bool × Nat) × TxState) : SdsBs :=
  match s.pendingDeliveries.lookup item.1 with
  | none => s
  | some pending =>
    let delivered : Bool := item.2 = .acknowledged
    match pending.transactionId with
    | some transactionId =>
      (s.forget item.1).reportDelivery (some pending.number) transactionId
        pending.destinationIssi delivered (if delivered then 0 else sdsFailureDeliveryFailed)
    | none =>
      if delivered then s.forget item.1
      else (s.forget item.1).sendSwmiFailure writeType3Generic pending.originatorIssi
        sdsFailureDeliveryFailed (pending.sdsTlProtocolId, pending.messageReference)
        (some pending.number)

def tickStart (order : List (Bool × Nat)) : SdsBs :=
  (s.done order).foldl (settle writeType3Generic) s

end SdsBs

/-! ### What comes in -/

/-- The network's messages to the service. -/
inductive SdsAction where
  | sdsDeliver (transactionId sourceIssi destinationSsi : Nat) (destinationIsGroup : Bool)
      (dataType lengthBits : Nat) (data : List Nat) (protection : GroupProtection)
  | sdsFailure (originatorIssi destinationSsi cause : Nat)
      (sdsTlProtocolId messageReference : Option Nat)
  | statusDeliver (sourceIssi destinationSsi status : Nat)

/-- What the service reads of a U-SDS-DATA PDU. -/
structure USdsData where
  calledPartySsi : Option Nat
  calledPartyExtension : Option Nat
  userDefinedData : SdsUserData
  externalSubscriberNumber : Option Type3FieldGeneric
  dmMsAddress : Option Type3FieldGeneric

/-- What the service reads of a U-STATUS PDU. -/
structure UStatus where
  calledPartySsi : Option Nat
  calledPartyExtension : Option Nat
  preCodedStatus : PreCodedStatus
  externalSubscriberNumber : Option Type3FieldGeneric
  dmMsAddress : Option Type3FieldGeneric

/-- The called party, unless the PDU uses addresses that are not supported. -/
def supportedParty (ssi extension : Option Nat)
    (externalSubscriberNumber dmMsAddress : Option Type3FieldGeneric) : Option Nat :=
  if extension.isSome || externalSubscriberNumber.isSome || dmMsAddress.isSome then none else ssi

namespace SdsBs

variable (writeType3Generic : WriteType3) (cell : SdsCell) (s : SdsBs)

/-- Source addresses of the network are cut to 32 bits. -/
def handleSwmiAction : SdsAction → Option SdsBs
  | .sdsDeliver transactionId sourceIssi destinationSsi destinationIsGroup dataType lengthBits data
      protection =>
      let observed :=
        if destinationIsGroup then s else s.observeRua destinationSsi dataType data
      some (observed.deliverFromSwmi writeType3Generic cell transactionId (sourceIssi % 2 ^ 32)
        destinationSsi destinationIsGroup dataType lengthBits data
        (if destinationIsGroup ∧ protection = .clear then
          some (.clear (.group destinationSsi) .macResource) else none))
  | .sdsFailure originatorIssi _ cause sdsTlProtocolId messageReference =>
    some (s.sendSwmiFailure writeType3Generic (originatorIssi % 2 ^ 32) cause
      (sdsTlProtocolId, messageReference) none)
  | .statusDeliver sourceIssi destinationSsi status =>
    if cell.isRegistered destinationSsi then
      match PreCodedStatus.ofRaw status with
      | .error _ => none
      | .ok preCodedStatus =>
        some (s.sendDStatusTo writeType3Generic (sourceIssi % 2 ^ 32) destinationSsi .issi none
          preCodedStatus none)
    else match cell.gatewayForSsi destinationSsi with
      | none => some s
      | some (gatewayIssi, address) =>
        match PreCodedStatus.ofRaw status with
        | .error _ => none
        | .ok preCodedStatus =>
          some (s.sendDStatusTo writeType3Generic (sourceIssi % 2 ^ 32) gatewayIssi .issi
            (some address) preCodedStatus none)

def takeCommandId : SdsBs := { s with nextCommandId := wrappingSuccessor s.nextCommandId }

/-- Hand a terminal's message to the network, or tell the originator that it was not taken. -/
def sdsSubmit (sourceIssi destinationSsi : Nat) (destinationIsGroup : Bool) (data : SdsUserData)
    (context : Option Nat × Option Nat) : SdsBs :=
  let submitted := s.takeCommandId.submit (.sdsSubmit s.nextCommandId sourceIssi destinationSsi
    destinationIsGroup data.typeIdentifier data.lengthBits data.toArr)
  if s.accepts then submitted
  else submitted.sendSwmiFailure writeType3Generic sourceIssi sdsFailureDeliveryFailed context none

/-- A U-SDS-DATA PDU; one that cannot be read is dropped. -/
def routeRfDeliver (sourceIssi : Nat) (pdu : Option USdsData) : Option SdsBs :=
  match pdu.bind fun pdu => (supportedParty pdu.calledPartySsi pdu.calledPartyExtension
      pdu.externalSubscriberNumber pdu.dmMsAddress).map (·, pdu.userDefinedData) with
  | none => some s
  | some (destinationSsi, data) =>
    if s.swmiOnline then
      some ((s.observeRua sourceIssi data.typeIdentifier data.toArr).sdsSubmit writeType3Generic
        sourceIssi destinationSsi (cell.takenForGroup destinationSsi) data (none, none))
    else if data.whole then
      some (s.routeLstrSds writeType3Generic cell sourceIssi destinationSsi
        (cell.takenForGroup destinationSsi) data)
    else none

/-- A U-STATUS PDU; one that cannot be read is dropped. -/
def routeStatusDeliver (sourceIssi : Nat) (pdu : Option UStatus) : SdsBs :=
  match pdu.bind fun pdu => (supportedParty pdu.calledPartySsi pdu.calledPartyExtension
      pdu.externalSubscriberNumber pdu.dmMsAddress).map (·, pdu.preCodedStatus) with
  | none => s
  | some (destinationSsi, status) =>
    if s.swmiOnline then
      let submitted := s.takeCommandId.submit
        (.statusSubmit s.nextCommandId sourceIssi destinationSsi status.intoRaw)
      if s.accepts then submitted
      else submitted.sendDStatusTo writeType3Generic swmiIssi sourceIssi .issi none
        (.networkUserSpecific statusGeneralNegativeAck) none
    else if cell.isRegistered destinationSsi then
      s.sendDStatusTo writeType3Generic sourceIssi destinationSsi .issi none status none
    else
      s.sendDStatusTo writeType3Generic swmiIssi sourceIssi .issi none
        (.networkUserSpecific statusDestinationNotReachable) none

/-- A message from the other network. -/
def rxSdsFromBrew (sourceIssi destIssi : Nat) (data : SdsUserData) : Option SdsBs :=
  if s.swmiOnline then
    some (s.sdsSubmit writeType3Generic sourceIssi destIssi (cell.takenForGroup destIssi) data
      data.sdsTlContext)
  else if !cell.isRegistered destIssi then some s
  else if data.whole then
    some (s.sendDSdsDataTo writeType3Generic sourceIssi destIssi .issi none data none none none).1
  else none

/-- A message from the operator. -/
def rxSdsFromControl (sourceSsi destSsi : Nat) (destIsGroup : Bool) (lenBits : Nat)
    (payload : List Nat) : Option SdsBs :=
  if s.swmiOnline then
    some (s.takeCommandId.submit
      (.sdsSubmit s.nextCommandId sourceSsi destSsi destIsGroup 3 lenBits payload))
  else if !(if destIsGroup then cell.hasGroupMembers destSsi else cell.isRegistered destSsi) then
    some s
  else if (SdsUserData.type4 lenBits payload).whole then
    some (s.sendDSdsDataTo writeType3Generic sourceSsi destSsi (if destIsGroup then .gssi else .issi)
      none (.type4 lenBits payload) none none none).1
  else none

def markReceipt (index : Nat) (mark : TxMark) : Option SdsBs :=
  match (s.reporter index).apply mark with
  | .error _ => none
  | .ok reporter => some { s with reporters := s.reporters.set index reporter }

end SdsBs

/-! ### Runs -/

inductive SdsEvent where
  | swmiAction (cell : SdsCell) (action : SdsAction)
  | rfDeliver (cell : SdsCell) (sourceIssi : Nat) (pdu : Option USdsData)
  | statusDeliver (cell : SdsCell) (sourceIssi : Nat) (pdu : Option UStatus)
  | fromBrew (cell : SdsCell) (sourceIssi destIssi : Nat) (data : SdsUserData)
  | fromControl (cell : SdsCell) (sourceSsi destSsi : Nat) (destIsGroup : Bool) (lenBits : Nat)
      (payload : List Nat)
  | tickStart (order : List (Bool × Nat))
  | receipt (index : Nat) (mark : TxMark)
  /-- The state of the channel to the network changes. -/
  | link (online : Bool) (room : Nat)

namespace SdsBs

variable (writeType3Generic : WriteType3)

/-- One step; none if the code panics. -/
def step (s : SdsBs) : SdsEvent → Option SdsBs
  | .swmiAction cell action => s.handleSwmiAction writeType3Generic cell action
  | .rfDeliver cell sourceIssi pdu => s.routeRfDeliver writeType3Generic cell sourceIssi pdu
  | .statusDeliver cell sourceIssi pdu =>
    some (s.routeStatusDeliver writeType3Generic cell sourceIssi pdu)
  | .fromBrew cell sourceIssi destIssi data =>
    s.rxSdsFromBrew writeType3Generic cell sourceIssi destIssi data
  | .fromControl cell sourceSsi destSsi destIsGroup lenBits payload =>
    s.rxSdsFromControl writeType3Generic cell sourceSsi destSsi destIsGroup lenBits payload
  | .tickStart order => some (s.tickStart writeType3Generic order)
  | .receipt index mark => s.markReceipt index mark
  | .link online room =>
    some { s with swmi := s.swmi.map fun endpoint => { endpoint with online, room } }

def machine : Machine SdsBs SdsEvent where
  start s := ∃ swmi : Option (SwmiEndpoint SdsSubmission),
    (∀ endpoint ∈ swmi, endpoint.handed = []) ∧ s = new swmi
  step := step writeType3Generic

end SdsBs

end Bluestation
