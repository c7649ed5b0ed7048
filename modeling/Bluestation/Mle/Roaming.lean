/-
**Cell reselection: requests that other layers answer.**

A U-PREPARE is forwarded to mobility management, a U-RESTORE to call control. Their answers come as
ordinary downlink messages for the terminal, and are put into a message of this layer.

* `MleBs.rxUPrepare`, `MleBs.rxURestore` — a request is answered at once, or forwarded.
* `MleBs.rxLmmMleUnitdataReq`, `MleBs.rxLcmcMleUnitdataReq` — a downlink message is taken as the answer
  to a pending request, or sent as what it is.
* `MleBs.tickStart` — a preparation that was not answered in time fails.

History beside the state numbers the requests, and notes which request a message answers.
-/

import Bluestation.Cmce.Lcmc
import Bluestation.Mle.RoamingPdus

namespace Bluestation

open Machines Bits

/-! ### What is read of the cell -/

/-- What this layer reads of the cell; `demandType` reads a demand for a location update. -/
structure MleCell where
  neighbourStationId : Nat → Option String
  demandType : List Bool → Option LocationUpdateType
  aieEnabled : Bool
  hasSc3 : Bool
  hasDck : Nat → Bool
  gcknForGssi : Nat → Option Nat
  terminalClass : Nat → TerminalSecurityClass
  terminalBound : Nat → Bool
  groupProtection : Nat → GroupProtection
  isRegistered : Nat → Bool

namespace MleCell

variable (cell : MleCell)

def terminalAllowsClear (issi : Nat) : Bool := cell.terminalClass issi = .sc1

/-- The protection of call control's downlink messages. -/
def cmceDownlinkAie (address : TetraAddress) : Option (AieRequest Unit) :=
  if !cell.aieEnabled then none
  else match address.ssiType with
    | .issi =>
      if cell.terminalAllowsClear address.ssi then none
      else if cell.terminalClass address.ssi = .sc3 ||
          cell.terminalClass address.ssi = .unknown && cell.hasSc3 then
        some (.sc3 (.individual address.ssi) .macResource none)
      else if cell.terminalBound address.ssi || cell.isRegistered address.ssi then
        some (.sc2 (.individual address.ssi) .macResource)
      else none
    | .gssi =>
      if cell.groupProtection address.ssi = .clear &&
          !(cell.hasSc3 && (cell.gcknForGssi address.ssi).isSome) then none
      else if cell.hasSc3 then some (.sc3 (.group address.ssi) .macResource none)
      else some (.sc2 (.group address.ssi) .macResource)
    | _ => none

/-- The protection of this layer's answers: that of the request, as far as the terminal's key is
there. -/
def mleReplyAie (issi : Nat) (incomingAie : Option (AieRequest Unit)) : Option (AieRequest Unit) :=
  match incomingAie with
  | some (.sc3 _ _ _) =>
    if cell.aieEnabled && cell.hasSc3 && cell.hasDck issi then
      some (.sc3 (.individual issi) .macResource none)
    else none
  | some (.sc2 _ _) =>
    if cell.aieEnabled && cell.terminalBound issi then some (.sc2 (.individual issi) .macResource)
    else none
  | _ => none

end MleCell

/-! ### Messages -/

structure LmmMleSeamlessHandover where
  carrier : Nat
  timeslots : Vector Bool 4
  usage : Nat

/-- A channel allocation with its carrier. -/
structure MleChanAlloc where
  usage : Option Nat
  allocType : ChanAllocType
  carrier : Option Nat
  timeslots : Vector Bool 4
  cellChangeFlag : Bool
  ulDlAssigned : UlDlAssignment
deriving DecidableEq

def seamlessHandoverAllocation (handover : LmmMleSeamlessHandover) : MleChanAlloc where
  usage := some handover.usage
  allocType := .replace
  carrier := some handover.carrier
  timeslots := handover.timeslots
  cellChangeFlag := true
  ulDlAssigned := .both

/-- A downlink message of mobility management; `txReporter` is the receipt that travels with it. -/
structure LmmDownlink where
  sdu : List Bool
  address : TetraAddress
  layer2service : Layer2Service
  stealingPermission : Bool
  aieRequest : AieRequest Unit
  frame18RolloverActivation : Option TdmaTime
  assignedChannelFrame18Broadcast : Bool
  txReporter : Option Nat
  seamlessHandover : Option LmmMleSeamlessHandover

/-- A downlink message of call control. -/
structure LcmcDownlink extends LcmcMleUnitdataReq where
  chanAlloc : Option MleChanAlloc
  stealingPermission : Bool

/-- A request to the link layer, for the acknowledged or the unacknowledged service. -/
structure TlRequest where
  unacknowledged : Bool
  mainAddress : TetraAddress
  tlSdu : List Bool
  stealingPermission : Bool
  airInterfaceEncryption : Option (AieRequest Unit)
  chanAlloc : Option MleChanAlloc
  associatedChannel : Option AssociatedChannel
  assignedChannelFrame18Broadcast : Bool
  frame18RolloverActivation : Option TdmaTime
  txReporter : Option Nat
deriving DecidableEq

/-- What leaves this layer: a forwarded request with its number, or a request to the link layer. That
names, as history, the roaming request which it answers, and the one which the message of the other
layer was meant for. -/
inductive MleMessage where
  | lmmUnitdataInd (sdu : List Bool) (receivedAddress : TetraAddress)
      (airInterfaceEncryption : Option (AieRequest Unit)) (targetStationId : String) (number : Nat)
  | lcmcUnitdataInd (sdu : List Bool) (receivedAddress : TetraAddress) (endpointId linkId : Nat)
      (number : Nat)
  | tl (request : TlRequest) (answers meant : Option Nat)
deriving DecidableEq

/-! ### The state -/

inductive RoamingProcedure where
  | prepare | restore
deriving DecidableEq

/-- History: a request of a terminal. -/
structure RoamingRequest where
  procedure : RoamingProcedure
  address : TetraAddress
  incomingAie : Option (AieRequest Unit)
deriving DecidableEq

/-- A forwarded request that waits for its answer. Its number and the tick since which it waits are
history. -/
structure PendingRoaming where
  incomingAie : Option (AieRequest Unit)
  number : Nat
  since : Nat

structure MleBs where
  forwardRegistrations : Table PendingRoaming
  forwardRegistrationDeadlines : Table TdmaTime
  pendingRestores : Table PendingRoaming
  currentTime : TdmaTime
  queue : List MleMessage
  /-- History: the requests by number, the receipts of downlink messages, and the ticks. -/
  requests : List RoamingRequest
  receipts : List Nat
  ticks : Nat

def t370Timeslots : Int := 5 * 18 * 4

namespace MleBs

def new (currentTime : TdmaTime) : MleBs := ⟨∅, ∅, ∅, currentTime, [], [], [], 0⟩

variable (cell : MleCell) (s : MleBs)

def push (message : MleMessage) : MleBs := { s with queue := s.queue ++ [message] }

variable (address : TetraAddress)

/-- A message of this layer that answers a request. -/
def sendMleDownlink (pdu : List Bool) (chanAlloc : Option MleChanAlloc)
    (airInterfaceEncryption : Option (AieRequest Unit)) (unacknowledged : Bool) (answers : Nat)
    (meant : Option Nat) : MleBs :=
  s.push (.tl ⟨unacknowledged, address, mleDiscriminator ++ pdu, false, airInterfaceEncryption,
    chanAlloc, none, false, none, none⟩ (some answers) meant)

def sendNewCell (channelCommandValid : Nat) (sdu : Option (List Bool))
    (chanAlloc : Option MleChanAlloc) (airInterfaceEncryption : Option (AieRequest Unit))
    (answers : Nat) (meant : Option Nat) : MleBs :=
  match dNewCell channelCommandValid sdu with
  | none => s
  | some pdu => s.sendMleDownlink address pdu chanAlloc airInterfaceEncryption false answers meant

def sendPrepareFail (failCause : Nat) (sdu : Option (List Bool))
    (airInterfaceEncryption : Option (AieRequest Unit)) (answers : Nat) (meant : Option Nat) :
    MleBs :=
  s.sendMleDownlink address (dPrepareFail failCause sdu) none airInterfaceEncryption false answers
    meant

def sendRestoreFail (failCause : Nat) (airInterfaceEncryption : Option (AieRequest Unit))
    (answers : Nat) (meant : Option Nat) : MleBs :=
  s.sendMleDownlink address (dRestoreFail failCause) none airInterfaceEncryption false answers meant

/-! ### Requests of terminals -/

def note (request : RoamingRequest) : MleBs := { s with requests := s.requests ++ [request] }

variable (issi : Nat)

/-- Wait for mobility management, until T370. -/
def awaitRegistration (incomingAie : Option (AieRequest Unit)) (number : Nat) : MleBs :=
  { s with
    forwardRegistrations := s.forwardRegistrations.insert issi ⟨incomingAie, number, s.ticks⟩
    forwardRegistrationDeadlines :=
      s.forwardRegistrationDeadlines.insert issi (s.currentTime.addTimeslots t370Timeslots) }

def awaitRestore (incomingAie : Option (AieRequest Unit)) (number : Nat) : MleBs :=
  { s with pendingRestores := s.pendingRestores.insert issi ⟨incomingAie, number, s.ticks⟩ }

variable (sdu : List Bool)

def rxUPrepare (address : TetraAddress) (incomingAie : Option (AieRequest Unit)) : MleBs :=
  let number := s.requests.length
  let reply := cell.mleReplyAie address.ssi incomingAie
  let noted := s.note ⟨.prepare, address, incomingAie⟩
  match prepareOutcome cell.neighbourStationId cell.demandType sdu with
  | .fail => noted.sendPrepareFail address 1 none reply number none
  | .newCell => noted.sendNewCell address 1 none none reply number none
  | .forward targetStationId embeddedMm =>
    (noted.awaitRegistration address.ssi incomingAie number).push
      (.lmmUnitdataInd embeddedMm address incomingAie targetStationId number)

def restoreSdu : Option (List Bool) :=
  (URestore.fromBitbuf (BitBuffer.ofBits sdu)).toOption.bind (·.1.sdu)

def rxURestore (address : TetraAddress) (endpointId linkId : Nat)
    (incomingAie : Option (AieRequest Unit)) : MleBs :=
  let number := s.requests.length
  let noted := s.note ⟨.restore, address, incomingAie⟩
  match restoreSdu sdu with
  | none =>
    noted.sendRestoreFail address 1 (cell.mleReplyAie address.ssi incomingAie) number none
  | some embeddedCmce =>
    (noted.awaitRestore address.ssi incomingAie number).push
      (.lcmcUnitdataInd embeddedCmce address endpointId linkId number)

/-- A message of a terminal for this layer. -/
def rxTlaMlePdu (address : TetraAddress) (endpointId linkId : Nat)
    (incomingAie : Option (AieRequest Unit)) : MleBs :=
  match peekBits sdu 3 with
  | some 0 => s.rxUPrepare cell sdu address incomingAie
  | some 4 => s.rxURestore cell sdu address endpointId linkId incomingAie
  | _ => s

/-! ### Downlink messages -/

def receive (txReporter : Option Nat) : MleBs :=
  { s with receipts := s.receipts ++ txReporter.toList }

def forgetRegistration : MleBs :=
  { s with
    forwardRegistrations := s.forwardRegistrations.erase issi
    forwardRegistrationDeadlines := s.forwardRegistrationDeadlines.erase issi }

def forgetRestore : MleBs :=
  { s with pendingRestores := s.pendingRestores.erase issi }

/-- Mobility management's message as it is. -/
def lmmAsIs (request : LmmDownlink) : TlRequest :=
  let unacknowledged : Bool := request.layer2service = .unacknowledged
  { unacknowledged
    mainAddress := request.address
    tlSdu := mmDiscriminator ++ request.sdu
    stealingPermission := request.stealingPermission
    airInterfaceEncryption := some request.aieRequest
    chanAlloc := none
    associatedChannel := none
    assignedChannelFrame18Broadcast := unacknowledged && request.assignedChannelFrame18Broadcast
    frame18RolloverActivation :=
      if unacknowledged then request.frame18RolloverActivation else none
    txReporter := request.txReporter }

/-- Call control's message as it is. -/
def lcmcAsIs (request : LcmcDownlink) : TlRequest where
  unacknowledged := request.layer2service = .unacknowledged
  mainAddress := request.mainAddress
  tlSdu := cmceDiscriminator ++ request.sdu
  stealingPermission := request.stealingPermission
  airInterfaceEncryption := request.aieOverride.or (cell.cmceDownlinkAie request.mainAddress)
  chanAlloc := request.chanAlloc
  associatedChannel := request.associatedChannel
  assignedChannelFrame18Broadcast := false
  frame18RolloverActivation := none
  txReporter := request.txReporter

/-- A message of mobility management. The next acceptance or rejection for the terminal is taken as the
answer to its U-PREPARE; `meant` is history. -/
def rxLmmMleUnitdataReq (request : LmmDownlink) (meant : Option Nat) : MleBs :=
  let received := s.receive request.txReporter
  match s.forwardRegistrations.lookup request.address.ssi with
  | none => received.push (.tl (lmmAsIs request) none meant)
  | some pending =>
    let reply := cell.mleReplyAie request.address.ssi pending.incomingAie
    if peekBits request.sdu 4 = some dLocationUpdateAcceptType then
      let chanAlloc := request.seamlessHandover.map seamlessHandoverAllocation
      (received.forgetRegistration request.address.ssi).sendNewCell request.address
        (if chanAlloc.isSome then 0 else 1) (some request.sdu) chanAlloc reply pending.number meant
    else if peekBits request.sdu 4 = some dLocationUpdateRejectType then
      (received.forgetRegistration request.address.ssi).sendPrepareFail request.address 1
        (some request.sdu) reply pending.number meant
    else received.push (.tl (lmmAsIs request) none meant)

/-- A message of call control. The next message for the terminal is taken as the answer to its
U-RESTORE; `meant` is history. -/
def rxLcmcMleUnitdataReq (request : LcmcDownlink) (meant : Option Nat) : MleBs :=
  let received := s.receive request.txReporter
  match s.pendingRestores.lookup request.mainAddress.ssi with
  | none => received.push (.tl (lcmcAsIs cell request) none meant)
  | some pending =>
    let reply := cell.mleReplyAie request.mainAddress.ssi pending.incomingAie
    let forgotten := received.forgetRestore request.mainAddress.ssi
    if request.sdu.length = 0 then
      forgotten.sendRestoreFail request.mainAddress 1 reply pending.number meant
    else
      forgotten.sendMleDownlink request.mainAddress (dRestoreAck request.sdu) request.chanAlloc reply
        true pending.number meant

/-! ### Time -/

def timedOut (order : List Nat) (ts : TdmaTime) : List Nat :=
  (s.forwardRegistrationDeadlines.rearrange order).entries.filterMap fun entry =>
    if 0 ≤ entry.2.age ts then some entry.1 else none

def timeOut : MleBs :=
  match s.forwardRegistrations.lookup issi with
  | none => s.forgetRegistration issi
  | some pending =>
    (s.forgetRegistration issi).sendPrepareFail ⟨issi, .issi⟩ 1 none
      (cell.mleReplyAie issi pending.incomingAie) pending.number none

def tickStart (order : List Nat) (ts : TdmaTime) : MleBs :=
  (s.timedOut order ts).foldl (timeOut cell) { s with currentTime := ts, ticks := s.ticks + 1 }

end MleBs

/-! ### Runs -/

inductive MleEvent where
  | tlaMlePdu (cell : MleCell) (sdu : List Bool) (address : TetraAddress) (endpointId linkId : Nat)
      (incomingAie : Option (AieRequest Unit))
  /-- A message of mobility management, and the request whose decision it is. -/
  | lmmMleUnitdataReq (cell : MleCell) (request : LmmDownlink) (meant : Option Nat)
  /-- A message of call control, and the request whose answer it is. -/
  | lcmcMleUnitdataReq (cell : MleCell) (request : LcmcDownlink) (meant : Option Nat)
  | tickStart (cell : MleCell) (order : List Nat) (ts : TdmaTime)

namespace MleBs

def step (s : MleBs) : MleEvent → Option MleBs
  | .tlaMlePdu cell sdu address endpointId linkId incomingAie =>
    some (s.rxTlaMlePdu cell sdu address endpointId linkId incomingAie)
  | .lmmMleUnitdataReq cell request meant => some (s.rxLmmMleUnitdataReq cell request meant)
  | .lcmcMleUnitdataReq cell request meant => some (s.rxLcmcMleUnitdataReq cell request meant)
  | .tickStart cell order ts => some (s.tickStart cell order ts)

def machine : Machine MleBs MleEvent where
  start s := ∃ currentTime, s = new currentTime
  step := step

end MleBs

end Bluestation
