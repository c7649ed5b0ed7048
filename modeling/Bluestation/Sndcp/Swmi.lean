/-
**What the network decides, and the passes of a tick.**

The network answers activations, deactivations and accesses, pages terminals, sends datagrams and
commands bearers. A tick takes what the network has sent, then polls what is in flight.

* `Sndcp.handleSwmi` — one message of the network.
* `Sndcp.processDeliveryReports`, `Sndcp.processStandbyReports` — the polled receipts.
* `Sndcp.handle`, `sndcpMachine` — every event, and the entity as a machine.
-/

import Bluestation.Sndcp.Uplink

namespace Bluestation

open Machines

namespace Sndcp

/-! ### Activation and deactivation -/

def activationRejectCause (cause : Option PacketRejectCause) : Nat :=
  match cause.getD .protocolError with
  | .authenticationFailed => 20
  | .contextUnsupported => 22
  | .serviceTemporarilyUnavailable => 34
  | .systemResourcesUnavailable => 7
  | .invalidAddress => 8
  | .protocolError => 0

def transmitRejectCause (cause : Option PacketRejectCause) : Nat :=
  match cause.getD .protocolError with
  | .systemResourcesUnavailable => 1
  | .contextUnsupported => 2
  | .serviceTemporarilyUnavailable => 34
  | .authenticationFailed | .invalidAddress | .protocolError => 0

/-- How the terminal is answered. -/
def activationAnswer (context : RadioContext) (result : ActivateResult) : SndcpDownlink :=
  if result.accepted then
    .activateAccept context.nsapi (result.ipv4.getD 0) context.dynamicAddress
      ((readyTimerCode result.timers.readyMs).getD 11)
      ((standbyTimerCode result.timers.standbySeconds).getD 6)
      ((responseWaitTimerCode result.timers.responseWaitMs).getD 7) result.snei
  else
    .activateReject context.nsapi (activationRejectCause result.cause)
      (if result.cause = some .authenticationFailed then
        context.chapIdentifier.map fun identifier => (identifier, "authentication failed")
      else none)

def issiOf (itsi : Nat) : Nat := itsi % 2 ^ 32

variable (s : Sndcp)

def takeCommand (commandId : Nat) : Sndcp :=
  { s with pendingCommands := s.pendingCommands.erase commandId }

def activateResult (result : ActivateResult) : Sndcp :=
  let issi := issiOf result.itsi
  let pending := s.pendingCommands.lookup result.commandId
  let s := s.takeCommand result.commandId
  if pending ≠ some issi then s
  else
    match s.contexts.lookup issi with
    | none => s
    | some found =>
      if found.endpointId ≠ result.airHandle then s
      else
        let context := if result.accepted then
          { found with
            sessionId := some result.sessionId
            sessionGeneration := some result.sessionGeneration
            snei := result.snei } else found
        let s := { s with contexts := s.contexts.insert issi context }
        let s := s.queueDownlink context (activationAnswer context result) .acknowledged none none
        if result.accepted then s else s.removeContext issi

def deactivateResult (commandId itsi : Nat) : Sndcp :=
  let issi := issiOf itsi
  match s.pendingMsDeactivations.lookup commandId with
  | none => s
  | some pending =>
    let s := { s with pendingMsDeactivations := s.pendingMsDeactivations.erase commandId }
    if pending.issi ≠ issi then s
    else
      match s.contexts.lookup issi with
      | none => s
      | some context =>
        (s.queueDownlink context (.deactivateAccept pending.deactivationType pending.nsapi
          pending.snei) .acknowledged none none).removeContext issi

def deactivate (commandId itsi sessionId sessionGeneration : Nat) : Sndcp :=
  let issi := issiOf itsi
  let refuse (s : Sndcp) : Sndcp :=
    s.submit (.deactivateResult commandId itsi sessionId sessionGeneration false)
  match (s.contexts.lookup issi).filter (·.session = some (sessionId, sessionGeneration)) with
  | none => refuse s
  | some context =>
    let s :=
      { s with
        pendingNetworkDeactivations := s.pendingNetworkDeactivations.insert issi
          ⟨commandId, sessionId, sessionGeneration⟩ }
    let demand := SndcpDownlink.deactivateDemand 1 (some context.nsapi) context.snei
    let s := s.queueDownlink context demand .acknowledged none none
    if demand.encodes then s
    else
      refuse
        { s with
          pendingNetworkDeactivations := s.pendingNetworkDeactivations.erase issi }

/-- A context is gone, with everything that waited for its session. -/
def forgetContext (issi sessionId sessionGeneration : Nat) : Sndcp :=
  { s.removeContext issi with
    pendingCommands := s.pendingCommands.retain fun _ pending => pending ≠ issi
    pendingMsDeactivations := s.pendingMsDeactivations.retain fun _ pending => pending.issi ≠ issi
    pendingNetworkDeactivations := s.pendingNetworkDeactivations.erase issi
    pendingDeliveries := s.pendingDeliveries.filter fun pending =>
      pending.sessionId ≠ sessionId || pending.sessionGeneration ≠ sessionGeneration }

def contextRelease (itsi sessionId sessionGeneration : Nat) : Sndcp :=
  let issi := issiOf itsi
  match (s.contexts.lookup issi).filter (·.session = some (sessionId, sessionGeneration)) with
  | none => s
  | some context =>
    let s := s.forgetContext issi sessionId sessionGeneration
    match context.association with
    | none => s
    | some (id, generation, eventLabel) => s.leaveBearer issi id generation eventLabel

/-! ### Access -/

/-- The terminal is on this bearer already, with these slots and this label. -/
def bearerUnchanged (context : RadioContext) (result : AccessResult) : Bool :=
  result.accepted && result.response ≠ .none && context.bearerId = some result.bearerId &&
    context.timeslotBitmap = result.timeslotBitmap && context.eventLabel = some result.eventLabel

/-- What an accepted access writes into the context. -/
def grantedContext (context : RadioContext) (result : AccessResult) : RadioContext :=
  let context :=
    { context with
      sessionId := some result.sessionId
      sessionGeneration := some result.sessionGeneration }
  if result.response ≠ .none then
    { context with
      bearerId := some result.bearerId
      bearerGeneration := (s.bearers.lookup result.bearerId).map Bearer.generation
      timeslotBitmap := result.timeslotBitmap
      eventLabel := some result.eventLabel }
  else context

/-- An accepted access: the terminal joins the bearer, and its label is bound. -/
def grantAccess (issi : Nat) (context : RadioContext) (result : AccessResult) : Sndcp :=
  let unchanged := bearerUnchanged context result
  let granted := s.grantedContext context result
  let s :=
    { s with
      pendingStandby := s.pendingStandby.filter (·.issi ≠ issi)
      contexts := s.contexts.insert issi granted }
  if result.response ≠ .none then
    let s := { s with bearers := s.bearers.modify result.bearerId (·.insertMember issi) }
    match granted.bearerGeneration with
    | some generation =>
      if unchanged then s
      else s.control (.attach result.bearerId generation issi result.eventLabel)
    | none => s
  else s

/-- The deactivation that waited for a recovered session is passed on, or done here. -/
def finishRecovery (issi : Nat) (context : RadioContext) (result : AccessResult)
    (pending : PendingMsDeactivation) : Sndcp :=
  let complete (s : Sndcp) : Sndcp :=
    (s.queueDownlink context (.deactivateAccept pending.deactivationType pending.nsapi pending.snei)
      .acknowledged none none).removeContext issi
  if result.accepted then
    let commandId := s.nextCommandId
    let s := s.nextCommand
    let s :=
      { s with pendingMsDeactivations := s.pendingMsDeactivations.insert commandId pending }
    let sent := s.accepts
    let s := s.submit (.deactivate commandId issi result.sessionId result.sessionGeneration false)
    if sent then s
    else
      complete
        { s with pendingMsDeactivations := s.pendingMsDeactivations.erase commandId }
  else complete s

/-- The answer to the terminal; a change of channel goes with it. -/
def answerAccess (context : RadioContext) (unchanged : Bool) (result : AccessResult) : Sndcp :=
  let chanAlloc :=
    if result.accepted && result.response ≠ .none && !unchanged then
      some (channelAllocation result.timeslotBitmap (RadioContext.usageOf result.eventLabel)
        .replace)
    else none
  match result.response with
  | .transmitResponse =>
    s.queueDownlink context (.transmitResponse context.nsapi result.accepted
      (if result.accepted then none else some (transmitRejectCause result.cause)) context.snei)
      .acknowledged chanAlloc none
  | .transmitRequest =>
    if result.accepted then
      s.queueDownlink context (.transmitRequest context.nsapi context.snei) .acknowledged
        chanAlloc none
    else s
  | .none => s

/-- No session yet: the context was made up from what the terminal said. -/
def recovering (context : RadioContext) : Bool :=
  context.sessionId.isNone && context.sessionGeneration.isNone

/-- The answer; a terminal that is back on the common channel gives up its stale association. -/
def concludeAccess (issi : Nat) (found context : RadioContext) (result : AccessResult) : Sndcp :=
  let standby := result.accepted && result.response = .none && context.bearerId.isSome
  let s := if standby then s.detachPacketBearer issi else s
  let context := if standby then (s.contexts.lookup issi).getD context else context
  let s := s.answerAccess context (bearerUnchanged found result) result
  if !result.accepted && recovering found then s.removeContext issi else s

/-- The decision on the access of a context. -/
def decideAccess (issi : Nat) (found : RadioContext) (recovery : Option PendingMsDeactivation)
    (result : AccessResult) : Sndcp :=
  let context := if result.accepted then s.grantedContext found result else found
  let s := if result.accepted then s.grantAccess issi found result else s
  match recovery with
  | some pending => s.finishRecovery issi context result pending
  | none => s.concludeAccess issi found context result

def takeRecovery (commandId : Nat) : Sndcp :=
  { s with pendingRecoveryDeactivations := s.pendingRecoveryDeactivations.erase commandId }

def accessResult (result : AccessResult) : Sndcp :=
  let issi := issiOf result.itsi
  let pending := s.pendingCommands.lookup result.commandId
  let s := s.takeCommand result.commandId
  if pending ≠ some issi then s
  else
    let recovery := s.pendingRecoveryDeactivations.lookup result.commandId
    let s := s.takeRecovery result.commandId
    match s.contexts.lookup issi with
    | none => s
    | some found =>
      if !recovering found && found.sessionGeneration ≠ some result.sessionGeneration then s
      else s.decideAccess issi found recovery result

def page (itsi sessionId sessionGeneration nsapi : Nat) (snei : Option Nat) : Sndcp :=
  let issi := issiOf itsi
  let context :=
    ((s.contexts.lookup issi).filter (·.session = some (sessionId, sessionGeneration))).getD
      { RadioContext.new issi 0 0 nsapi snei with
        sessionId := some sessionId
        sessionGeneration := some sessionGeneration }
  (s.insertContext context).queueDownlink context (.pageRequest context.nsapi true context.snei)
    .acknowledged none none

/-! ### Datagrams and the end of data -/

/-- A datagram goes out with a receipt, or is refused at once. -/
def ipv4 (sessionId sessionGeneration packetId : Nat) (payload : List Nat) : Sndcp :=
  match s.contexts.values.find? (·.session = some (sessionId, sessionGeneration)) with
  | none => s.submit (.delivery sessionId sessionGeneration packetId .staleGeneration)
  | some context =>
    let reporter := s.reporters.length
    let s := s.newReporter .new
    let pdu := SndcpDownlink.data context.nsapi payload
    let s := s.queueDownlink context pdu .advancedAcknowledged none (some reporter)
    if pdu.encodes then
      { s with
        pendingDeliveries :=
          s.pendingDeliveries ++ [⟨sessionId, sessionGeneration, packetId, reporter⟩] }
    else s.submit (.delivery sessionId sessionGeneration packetId .linkFailed)

def endOfData (itsi sessionId sessionGeneration : Nat) (immediateServiceChange : Bool) : Sndcp :=
  let issi := issiOf itsi
  match (s.contexts.lookup issi).filter (·.session = some (sessionId, sessionGeneration)) with
  | none => s
  | some context =>
    if immediateServiceChange then
      { s with
        pendingStandby := s.pendingStandby.filter (·.issi ≠ issi) ++
          [⟨issi, sessionId, sessionGeneration, none,
            some (s.dltime.addTimeslots pdchReleaseRfGuardTimeslots)⟩] }
    else if s.pendingStandby.any fun pending => pending.issi = issi &&
        pending.sessionId = sessionId && pending.sessionGeneration = sessionGeneration then s
    else
      -- The end of data can always be encoded.
      let reporter := s.reporters.length
      let s := s.queueEndsOfData [context] false
      { s with
        pendingStandby := s.pendingStandby ++
          [⟨issi, sessionId, sessionGeneration, some reporter, none⟩] }

/-! ### One message of the network -/

def bearerControl (commandId bearerId bearerGeneration : Nat) (action : PacketBearerAction)
    (timeslotBitmap : SlotBitmap) (forceAfterMs : Nat) : Sndcp :=
  match action with
  | .reserve => s.reserveBearer commandId bearerId bearerGeneration timeslotBitmap
  | .resize | .drain => s.beginDrain commandId bearerId bearerGeneration forceAfterMs
  | .release => s.releaseBearer bearerId bearerGeneration false
  | .forceRelease => s.releaseBearer bearerId bearerGeneration true

def handleSwmi : PacketDataMessage → Sndcp
  | .activateResult result => s.activateResult result
  | .deactivateResult commandId itsi _ _ _ => s.deactivateResult commandId itsi
  | .accessResult result => s.accessResult result
  | .page _ itsi sessionId sessionGeneration nsapi snei =>
    s.page itsi sessionId sessionGeneration nsapi snei
  | .ipv4 sessionId sessionGeneration packetId payload =>
    s.ipv4 sessionId sessionGeneration packetId payload
  | .endOfData _ itsi sessionId sessionGeneration immediateServiceChange =>
    s.endOfData itsi sessionId sessionGeneration immediateServiceChange
  | .deactivate commandId itsi sessionId sessionGeneration _ =>
    s.deactivate commandId itsi sessionId sessionGeneration
  | .contextRelease itsi sessionId sessionGeneration =>
    s.contextRelease itsi sessionId sessionGeneration
  | .bearerControl commandId bearerId bearerGeneration action timeslotBitmap forceAfterMs =>
    s.bearerControl commandId bearerId bearerGeneration action timeslotBitmap forceAfterMs
  | .delivery .. | .capability | .activate .. | .access .. | .pageResponse .. | .bearerReport .. =>
    s

/-! ### The passes of a tick -/

def deliveryStatus (pending : PendingDelivery) : PacketDeliveryStatus :=
  if (s.reporter pending.reporter).state = .acknowledged then .delivered else .linkFailed

def isComplete (pending : PendingDelivery) : Bool :=
  (s.reporter pending.reporter).isInFinalState

def reportDelivery (pending : PendingDelivery) : Sndcp :=
  s.submit (.delivery pending.sessionId pending.sessionGeneration pending.packetId
    (s.deliveryStatus pending))

def processDeliveryReports : Sndcp :=
  let completed := s.pendingDeliveries.filter s.isComplete
  let s :=
    { s with pendingDeliveries := s.pendingDeliveries.filter fun pending => !s.isComplete pending }
  completed.foldl reportDelivery s

/-- A terminal that goes to standby: an end of data that was discarded is sent again, one that is on
the air starts the guard time, and when that is over the terminal leaves its bearer. -/
def pollStandby (pending : PendingStandby) : Sndcp × PendingStandby × Bool :=
  let retry := pending.reporter.any fun index => (s.reporter index).isDiscarded
  let context := (s.contexts.lookup pending.issi).filter
    (·.session = some (pending.sessionId, pending.sessionGeneration))
  match if retry then context else none with
  | some context =>
    (s.queueEndsOfData [context] false,
      { pending with reporter := some s.reporters.length, releaseAt := none }, false)
  | none =>
    let pending :=
      if pending.releaseAt.isNone &&
          pending.reporter.any fun index => (s.reporter index).isTransmitted then
        { pending with
          releaseAt := some (s.dltime.addTimeslots pdchReleaseRfGuardTimeslots) }
      else pending
    let due := pending.releaseAt.any fun releaseAt => 0 ≤ releaseAt.age s.dltime
    (s, pending, due || retry)

/-- Poll the terminals in order; those that are through are returned. -/
def pollStandbys (s : Sndcp) : List PendingStandby → Sndcp × List PendingStandby × List PendingStandby
  | [] => (s, [], [])
  | first :: rest =>
    let (s, polled, through) := s.pollStandby first
    let (s, waiting, completed) := s.pollStandbys rest
    if through then (s, waiting, polled :: completed) else (s, polled :: waiting, completed)

def finishStandby (pending : PendingStandby) : Sndcp :=
  if (s.contexts.lookup pending.issi).any
      (·.session = some (pending.sessionId, pending.sessionGeneration)) then
    s.detachPacketBearer pending.issi
  else s

def processStandbyReports : Sndcp :=
  let (s, waiting, completed) := s.pollStandbys s.pendingStandby
  completed.foldl finishStandby { s with pendingStandby := waiting }

end Sndcp

/-! ### The machine -/

/-- A call of another entity at the allocator. -/
inductive AllocatorCall where
  | allocateAny (owner : TimeslotOwner)
  | reserve (owner : TimeslotOwner) (ts : Nat)
  | release (owner : TimeslotOwner) (ts : Nat)
  | setCommonControlTarget (count : Nat)
  | requestPacketPreemption

def AllocatorCall.isForeign : AllocatorCall → Bool
  | allocateAny owner | reserve owner _ | release owner _ => owner ≠ .packetData
  | setCommonControlTarget _ | requestPacketPreemption => true

def AllocatorCall.run (alloc : TimeslotAllocator) : AllocatorCall → TimeslotAllocator
  | allocateAny owner => (alloc.allocateAny owner).2
  | reserve owner ts => (alloc.reserve owner ts).toOption.getD alloc
  | release owner ts => (alloc.release owner ts).toOption.getD alloc
  | setCommonControlTarget count => alloc.setCommonControlTarget count
  | requestPacketPreemption => alloc.requestPacketPreemption

inductive SndcpEvent where
  /-- A PDU of a terminal. -/
  | uplink (endpointId linkId : Nat) (address : TetraAddress) (pdu : SndcpUplink)
  /-- A tick begins; what the network has sent is taken one by one, then the passes run. -/
  | tick (ts : TdmaTime)
  | swmi (message : PacketDataMessage)
  | preemption
  | deliveryReports
  | standbyReports
  | bearerResizes
  | drains
  | bearerExpansions
  /-- The layers below drive a receipt. -/
  | receipt (index : Nat) (state : TxState)
  /-- The network's worker takes messages, or is gone. -/
  | worker (online : Bool) (room : Nat)
  | configure (config : SndcpConfig)
  | allocator (call : AllocatorCall)
  /-- The tables are iterated in another order. -/
  | rehash (contexts bearers : List Nat)
  | rehashMembers (bearer : Nat) (order : List Nat)

namespace Sndcp

variable (s : Sndcp)

/-- The members of a bearer in another order. -/
def rehashMembers (id : Nat) (order : List Nat) : Sndcp :=
  { s with
    bearers := s.bearers.modify id fun bearer =>
      { bearer with
        members := bearer.members.insertionSort fun left right =>
          order.idxOf left ≤ order.idxOf right } }

def setReceipt (index : Nat) (state : TxState) : Sndcp :=
  { s with reporters := s.reporters.modify index fun reporter => { reporter with state } }

def handle : SndcpEvent → Sndcp
  | .uplink endpointId linkId address pdu => s.handleUplink endpointId linkId address pdu
  | .tick ts => { s with dltime := ts }
  | .swmi message => s.handleSwmi message
  | .preemption => s.processPreemption
  | .deliveryReports => s.processDeliveryReports
  | .standbyReports => s.processStandbyReports
  | .bearerResizes => s.processBearerResizes
  | .drains => s.processDrains
  | .bearerExpansions => s.processBearerExpansions
  | .receipt index state => s.setReceipt index state
  | .worker online room => { s with swmi := s.swmi.map ({ · with online, room }) }
  | .configure config => { s with config }
  | .allocator call => { s with timeslotAlloc := call.run s.timeslotAlloc }
  | .rehash contexts bearers =>
    { s with
      contexts := s.contexts.rearrange contexts
      bearers := s.bearers.rearrange bearers }
  | .rehashMembers bearer order => s.rehashMembers bearer order

def tickStart (ts : TdmaTime) (messages : List PacketDataMessage) : List SndcpEvent :=
  .tick ts :: messages.map .swmi ++
    [.preemption, .deliveryReports, .standbyReports, .bearerResizes, .drains, .bearerExpansions]

def canTake : SndcpEvent → Bool
  | .swmi _ => s.swmi.isSome
  | .allocator call => call.isForeign
  | _ => true

def step (event : SndcpEvent) : Option Sndcp :=
  if s.canTake event then some (s.handle event) else none

end Sndcp

/-- The entity from its start; the passes of a tick are steps of their own. -/
def sndcpMachine : Machine Sndcp SndcpEvent where
  start s := ∃ config swmi, (∀ endpoint ∈ swmi, endpoint.handed = []) ∧ s = .new config swmi
  step := Sndcp.step

end Bluestation
