/-
**The packet-data entity: its contexts and bearers, and its small operations.**

A radio context belongs to a terminal; it may name a session of the network and a packet bearer. A
bearer has timeslots and members. Messages to the other entities are kept in the order in which they
are put on the queue; the channel to the network takes a message if it has room.

* `Sndcp.submit`, `Sndcp.push`, `Sndcp.queueDownlink` — what leaves the entity.
* `Sndcp.reserveSlots`, `Sndcp.releaseSlots` — its slots at the allocator.
-/

import Bluestation.Lib.Table
import Bluestation.Sndcp.Messages

namespace Bluestation

/-! ### Contexts and bearers -/

def packetUsageBase : Nat := 48
def pdchReleaseRfGuardTimeslots : Int := 8
def drainGraceTimeslots : Int := pdchReleaseRfGuardTimeslots
def pdchResizeRfGuardTimeslots : Int := 8
def pdchResizeTimeoutTimeslots : Int := 2 * 18 * 4
def defaultNsapi : Nat := 1

structure RadioContext where
  issi : Nat
  endpointId : Nat
  linkId : Nat
  nsapi : Nat
  snei : Option Nat
  sessionId : Option Nat
  sessionGeneration : Option Nat
  bearerId : Option Nat
  bearerGeneration : Option Nat
  timeslotBitmap : SlotBitmap
  eventLabel : Option Nat
  chapIdentifier : Option Nat
  dynamicAddress : Bool

namespace RadioContext

/-- A context without a session and without a bearer. -/
def new (issi endpointId linkId nsapi : Nat) (snei : Option Nat) : RadioContext where
  issi
  endpointId
  linkId
  nsapi
  snei
  sessionId := none
  sessionGeneration := none
  bearerId := none
  bearerGeneration := none
  timeslotBitmap := 0
  eventLabel := none
  chapIdentifier := none
  dynamicAddress := true

variable (context : RadioContext)

def session : Option (Nat × Nat) :=
  match context.sessionId, context.sessionGeneration with
  | some id, some generation => some (id, generation)
  | _, _ => none

def primaryTimeslot : Option Nat :=
  SlotBitmap.timeslots.find? context.timeslotBitmap.has

/-- The bearer that the context names, with its generation, and the label there. -/
def association : Option (Nat × Nat × Nat) :=
  match context.bearerId, context.bearerGeneration, context.eventLabel with
  | some id, some generation, some label => some (id, generation, label)
  | _, _, _ => none

def detached : RadioContext :=
  { context with
    bearerId := none
    bearerGeneration := none
    timeslotBitmap := 0
    eventLabel := none }

def usageOf (label : Nat) : Nat := packetUsageBase + label % 16

def usage : Nat :=
  (context.eventLabel.map usageOf).getD packetUsageBase

def names (id generation : Nat) : Bool :=
  context.bearerId = some id && context.bearerGeneration = some generation

end RadioContext

structure PendingBearerResize where
  fromBitmap : SlotBitmap
  toBitmap : SlotBitmap
  /-- Slots reserved in advance for an expansion. -/
  expansionBitmap : SlotBitmap
  reporters : List Nat
  deadline : TdmaTime
  commitAt : Option TdmaTime

structure Bearer where
  id : Nat
  generation : Nat
  timeslotBitmap : SlotBitmap
  desiredTimeslotBitmap : SlotBitmap
  members : List Nat
  draining : Bool
  releaseAt : Option TdmaTime
  forceAt : Option TdmaTime
  commandId : Nat
  drainReporters : List Nat
  resize : Option PendingBearerResize
  expandNotBefore : Option TdmaTime

namespace Bearer

variable (bearer : Bearer)

def memberCount : Nat := min bearer.members.length 65535

def insertMember (issi : Nat) : Bearer :=
  if issi ∈ bearer.members then bearer else { bearer with members := bearer.members ++ [issi] }

def removeMember (issi : Nat) : Bearer :=
  { bearer with members := bearer.members.filter (· ≠ issi) }

def expansion : SlotBitmap :=
  (bearer.resize.map PendingBearerResize.expansionBitmap).getD 0

def reservedBitmap : SlotBitmap := bearer.timeslotBitmap ||| bearer.expansion

def reportState : PacketBearerState := if bearer.draining then .draining else .ready

end Bearer

/-! ### What waits for an outcome -/

/-- A datagram in flight, with its receipt. -/
structure PendingDelivery where
  sessionId : Nat
  sessionGeneration : Nat
  packetId : Nat
  reporter : Nat

structure PendingStandby where
  issi : Nat
  sessionId : Nat
  sessionGeneration : Nat
  reporter : Option Nat
  releaseAt : Option TdmaTime

structure PendingMsDeactivation where
  issi : Nat
  deactivationType : Nat
  nsapi : Option Nat
  snei : Option Nat

structure PendingNetworkDeactivation where
  commandId : Nat
  sessionId : Nat
  sessionGeneration : Nat

/-! ### The entity -/

/-- What the entity reads of the shared configuration. -/
structure SndcpConfig where
  isRegistered : Nat → Bool
  registrationGeneration : Nat → Option Nat
  aieEnabled : Bool
  aieSc3 : Bool
  terminalAllowsClear : Nat → Bool
  terminalClass : Nat → TerminalSecurityClass

/-- The bounded channel to the network: its free places, and every message that was handed to it, with
whether there was room. -/
structure SwmiPacketEndpoint where
  online : Bool
  room : Nat
  handed : List (PacketDataMessage × Bool)

/-- A message for which there is no room is given back, and is gone. -/
def SwmiPacketEndpoint.submit (endpoint : SwmiPacketEndpoint) (message : PacketDataMessage) :
    SwmiPacketEndpoint :=
  { endpoint with
    room := endpoint.room - 1
    handed := endpoint.handed ++ [(message, decide (0 < endpoint.room))] }

structure Sndcp where
  config : SndcpConfig
  swmi : Option SwmiPacketEndpoint
  dltime : TdmaTime
  nextCommandId : Nat
  nextPacketId : Nat
  contexts : Table RadioContext
  pendingCommands : Table Nat
  pendingMsDeactivations : Table PendingMsDeactivation
  pendingRecoveryDeactivations : Table PendingMsDeactivation
  pendingNetworkDeactivations : Table PendingNetworkDeactivation
  bearers : Table Bearer
  pendingDeliveries : List PendingDelivery
  pendingStandby : List PendingStandby
  timeslotAlloc : TimeslotAllocator
  /-- Every receipt that was handed out; the layers below drive its state. -/
  reporters : List TxReporter
  queue : List SndcpOutput

namespace Sndcp

def new (config : SndcpConfig) (swmi : Option SwmiPacketEndpoint) : Sndcp where
  config
  swmi
  dltime := ⟨1, 1, 1, 0⟩
  nextCommandId := 1
  nextPacketId := 1
  contexts := ∅
  pendingCommands := ∅
  pendingMsDeactivations := ∅
  pendingRecoveryDeactivations := ∅
  pendingNetworkDeactivations := ∅
  bearers := ∅
  pendingDeliveries := []
  pendingStandby := []
  timeslotAlloc := .default
  reporters := []
  queue := []

/-- The identifier after this one; it saturates. -/
def nextId (value : Nat) : Nat := max (min (value + 1) (2 ^ 64 - 1)) 1

variable (s : Sndcp)

def nextCommand : Sndcp := { s with nextCommandId := nextId s.nextCommandId }

def nextPacket : Sndcp := { s with nextPacketId := nextId s.nextPacketId }

def accepts : Bool := s.swmi.any fun endpoint => 0 < endpoint.room

def submit (s : Sndcp) (message : PacketDataMessage) : Sndcp :=
  { s with swmi := s.swmi.map (·.submit message) }

def isOnline : Bool := s.swmi.any SwmiPacketEndpoint.online

/-- Every message for the network, with whether its channel has taken it. -/
def handed (s : Sndcp) : List (PacketDataMessage × Bool) := (s.swmi.map (·.handed)).getD []

def registrationGeneration (s : Sndcp) (issi : Nat) : Nat :=
  (s.config.registrationGeneration issi).getD 0

def push (output : SndcpOutput) : Sndcp := { s with queue := s.queue ++ [output] }

def control (s : Sndcp) (control : PacketBearerControl) : Sndcp :=
  s.push (.packetBearerControl control)

def reporter (index : Nat) : TxReporter := s.reporters.getD index .newUnacked

def newReporter (reporter : TxReporter) : Sndcp :=
  { s with reporters := s.reporters ++ [reporter] }

def routeFor (context : RadioContext) : Option AssociatedChannel :=
  context.primaryTimeslot.map fun timeslot =>
    { callId := context.bearerId.getD 0 % 65536
      timeslot
      usage := context.usage
      bestEffortKey := none }

def insertContext (context : RadioContext) : Sndcp :=
  { s with contexts := s.contexts.insert context.issi context }

def removeContext (issi : Nat) : Sndcp :=
  { s with contexts := s.contexts.erase issi }

def queueRegistrationRecovery (issi handle : Nat) : Sndcp :=
  s.push (.locationUpdateCommand issi handle)

/-- On which channel a PDU goes: an assignment on the common channel, all else on the bearer. -/
def associatedChannel (context : RadioContext) :
    Option CmceChanAllocReq → Option AssociatedChannel
  | none => routeFor context
  | some allocation => if allocation.allocType = .quitAndGo then routeFor context else none

/-- Put a PDU on the queue; one that cannot be encoded is not sent. -/
def queueDownlink (context : RadioContext) (pdu : SndcpDownlink) (service : Layer2Service)
    (chanAlloc : Option CmceChanAllocReq) (reporter : Option Nat) : Sndcp :=
  { s with
    queue := s.queue ++ if pdu.encodes then
      [.unitdataReq context.issi context.endpointId context.linkId pdu service chanAlloc
        (associatedChannel context chanAlloc) reporter] else [] }

def individualDownlinkAie (issi : Nat) : AieRequest Unit :=
  let subject : AieSubject := .individual issi
  if !s.config.aieEnabled || s.config.terminalAllowsClear issi then .clear subject .macResource
  else
    match s.config.terminalClass issi with
    | .sc1 => .clear subject .macResource
    | .sc2 => .sc2 subject .macResource
    | .sc3 => .sc3 subject .macResource none
    | .unknown =>
      if s.config.aieSc3 then .sc3 subject .macResource none else .sc2 subject .macResource

def channelAllocation (bitmap : SlotBitmap) (usage : Nat) (allocType : ChanAllocType) :
    CmceChanAllocReq where
  usage := some (usage % 64)
  timeslots := #v[bitmap.has 1, bitmap.has 2, bitmap.has 3, bitmap.has 4]
  allocType

def quitToCommonChannel : CmceChanAllocReq where
  usage := none
  timeslots := #v[false, false, false, false]
  allocType := .quitAndGo

/-- Tell terminals their new slots on the channel they are on, each with a receipt. -/
def queueStandaloneChannelAllocations (contexts : List RadioContext) (bitmap : SlotBitmap) : Sndcp :=
  { s with
    queue := s.queue ++ contexts.zipIdx.map fun (context, index) =>
      .channelAllocation context.issi context.endpointId (s.individualDownlinkAie context.issi)
        (channelAllocation bitmap context.usage .replace) (routeFor context)
        (s.reporters.length + index)
    reporters := s.reporters ++ contexts.map fun _ => .newUnacked }

/-- Order terminals off their channel, each with a receipt. -/
def queueEndsOfData (contexts : List RadioContext) (immediateServiceChange : Bool) : Sndcp :=
  { s with
    queue := s.queue ++ contexts.zipIdx.map fun (context, index) =>
      .unitdataReq context.issi context.endpointId context.linkId
        (.endOfData immediateServiceChange) .unacknowledged (some quitToCommonChannel)
        (associatedChannel context (some quitToCommonChannel)) (some (s.reporters.length + index))
    reporters := s.reporters ++ contexts.map fun _ => .newUnacked }

def nextReporters (contexts : List RadioContext) : List Nat :=
  List.range' s.reporters.length contexts.length

def releaseSlots (bitmap : SlotBitmap) : Sndcp :=
  { s with timeslotAlloc := s.timeslotAlloc.releaseEach .packetData bitmap }

def reserveSlots (requested : SlotBitmap) : Sndcp :=
  { s with timeslotAlloc := (s.timeslotAlloc.reserveEach .packetData requested).1 }

/-- The slots that `reserveSlots` gets. -/
def obtainable (requested : SlotBitmap) : SlotBitmap :=
  (s.timeslotAlloc.reserveEach .packetData requested).2

end Sndcp

end Bluestation
