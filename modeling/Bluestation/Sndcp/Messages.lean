/-
**Packet data: the messages on the air, to the network and to the MAC.**

The network's message type is known from its uses. An SNDCP PDU stands for its bits; encoding one
fails exactly if one of its field checks does.

* `SndcpDownlink.encodes` — the checks of the encoders.
-/

import Bluestation.Llc.BasicLink
import Bluestation.Core.TimeslotAlloc

namespace Bluestation

/-! ### SNDCP PDUs -/

inductive SndcpAddressRequest where
  | dynamic
  | static (ipv4 : Nat)
  | unsupported (addressType : Nat)
deriving DecidableEq

structure SndcpResourceRequest where
  symmetric : Bool
  throughput : Nat
  uplinkSlots : Nat
  downlinkSlots : Nat
  fullPhaseSlots : Nat

structure SndcpChapProof where
  identifier : Nat
  challenge : List Nat
  response : List Nat
  username : String

inductive SndcpUplink where
  | activateDemand (version nsapi : Nat) (address : SndcpAddressRequest) (msType : Nat)
      (apnIndex : Option Nat) (chap : Option SndcpChapProof)
  | deactivateDemand (deactivationType : Nat) (nsapi snei : Option Nat)
  | deactivateAccept (deactivationType : Nat) (nsapi snei : Option Nat)
  | data (nsapi : Nat) (payload : List Nat)
  | transmitRequest (nsapi : Nat) (logicalLinkConnected : Bool) (snei : Option Nat)
      (resource : Option SndcpResourceRequest)
  | reconnect (dataToSend : Bool) (nsapi snei : Option Nat)
      (resource : Option SndcpResourceRequest)
  | endOfData (immediateServiceChange : Bool)
  | pageResponse (nsapi : Nat) (available logicalLinkStatus : Bool) (snei : Option Nat)
      (resource : Option SndcpResourceRequest)

inductive SndcpDownlink where
  | activateAccept (nsapi ipv4 : Nat) (dynamicAddress : Bool)
      (readyTimer standbyTimer responseWaitTimer : Nat) (snei : Option Nat)
  | activateReject (nsapi cause : Nat) (chapFailure : Option (Nat × String))
  | deactivateDemand (deactivationType : Nat) (nsapi snei : Option Nat)
  | deactivateAccept (deactivationType : Nat) (nsapi snei : Option Nat)
  | data (nsapi : Nat) (payload : List Nat)
  | transmitResponse (nsapi : Nat) (accepted : Bool) (cause snei : Option Nat)
  | transmitRequest (nsapi : Nat) (snei : Option Nat)
  | endOfData (immediateServiceChange : Bool)
  | pageRequest (nsapi : Nat) (replyRequested : Bool) (snei : Option Nat)

def validateNsapi (nsapi : Nat) : Bool := 1 ≤ nsapi && nsapi ≤ 14

def validateDeactivationType (deactivationType : Nat) : Option Nat → Bool
  | none => deactivationType = 0
  | some nsapi => deactivationType ≠ 0 && validateNsapi nsapi

/-- Whether the PDU can be encoded. A message of at most 120 octets fits the options of a
rejection. -/
def SndcpDownlink.encodes : SndcpDownlink → Bool
  | activateAccept nsapi _ _ readyTimer standbyTimer responseWaitTimer _ =>
    validateNsapi nsapi && readyTimer ≤ 15 && standbyTimer ≤ 15 && responseWaitTimer ≤ 15
  | activateReject nsapi _ chapFailure =>
    validateNsapi nsapi && chapFailure.all fun failure => failure.2.utf8ByteSize ≤ 120
  | deactivateDemand deactivationType nsapi _ | deactivateAccept deactivationType nsapi _ =>
    validateDeactivationType deactivationType nsapi
  | data nsapi _ | transmitRequest nsapi _ | pageRequest nsapi _ _ => validateNsapi nsapi
  | transmitResponse nsapi accepted cause _ => validateNsapi nsapi && accepted == cause.isNone
  | endOfData _ => true

def timerCode (durations : List Nat) (duration : Nat) : Option Nat :=
  durations.findIdx? (· = duration)

def readyTimerCode (milliseconds : Nat) : Option Nat :=
  (timerCode [0, 200, 500, 700, 1000, 2000, 3000, 5000, 10000, 20000, 30000, 60000, 120000, 180000,
    300000] milliseconds).filter (· ≠ 0)

def standbyTimerCode (seconds : Nat) : Option Nat :=
  (timerCode [0, 10, 30, 60, 300, 600, 1800, 3600, 7200, 10800, 21600, 43200, 86400, 172800,
    259200] seconds).filter (· ≠ 0)

def responseWaitTimerCode (milliseconds : Nat) : Option Nat :=
  timerCode [400, 600, 800, 1000, 2000, 3000, 4000, 5000, 10000, 15000, 20000, 30000, 40000, 50000,
    60000] milliseconds

/-! ### The network's messages -/

inductive PacketAddressRequest where
  | dynamic
  | static (ipv4 : Nat)

inductive PacketRejectCause where
  | authenticationFailed | contextUnsupported | serviceTemporarilyUnavailable
  | systemResourcesUnavailable | invalidAddress | protocolError
deriving DecidableEq

inductive PacketDeliveryStatus where
  | delivered | linkFailed | staleGeneration

inductive PacketBearerState where
  | ready | draining | released | forcedReuse | failed

inductive PacketBearerAction where
  | reserve | resize | drain | release | forceRelease

inductive PacketAccessResponse where
  | transmitResponse | transmitRequest | none
deriving DecidableEq

structure PacketTimers where
  readyMs : Nat
  standbySeconds : Nat
  responseWaitMs : Nat

/-- The outcome of an activation. -/
structure ActivateResult where
  commandId : Nat
  itsi : Nat
  airHandle : Nat
  accepted : Bool
  cause : Option PacketRejectCause
  sessionId : Nat
  sessionGeneration : Nat
  ipv4 : Option Nat
  snei : Option Nat
  timers : PacketTimers

/-- The network's decision on an access: which bearer, which slots, which label. -/
structure AccessResult where
  commandId : Nat
  itsi : Nat
  sessionId : Nat
  accepted : Bool
  cause : Option PacketRejectCause
  response : PacketAccessResponse
  bearerId : Nat
  timeslotBitmap : SlotBitmap
  eventLabel : Nat
  sessionGeneration : Nat

inductive PacketDataMessage where
  | activate (commandId itsi airHandle registrationGeneration nsapi msType : Nat)
      (apnIndex : Option Nat) (address : PacketAddressRequest) (chap : Option SndcpChapProof)
  | activateResult (result : ActivateResult)
  | deactivate (commandId itsi sessionId sessionGeneration : Nat) (networkInitiated : Bool)
  | deactivateResult (commandId itsi sessionId sessionGeneration : Nat) (accepted : Bool)
  | access (commandId itsi airHandle registrationGeneration sessionId sessionGeneration : Nat)
      (dataToSend reconnect : Bool) (snei : Option Nat) (resource : Option SndcpResourceRequest)
  | accessResult (result : AccessResult)
  | page (commandId itsi sessionId sessionGeneration nsapi : Nat) (snei : Option Nat)
  | pageResponse (commandId itsi airHandle registrationGeneration sessionId sessionGeneration : Nat)
      (available : Bool) (resource : Option SndcpResourceRequest)
  | ipv4 (sessionId sessionGeneration packetId : Nat) (payload : List Nat)
  | delivery (sessionId sessionGeneration packetId : Nat) (status : PacketDeliveryStatus)
  | endOfData (commandId itsi sessionId sessionGeneration : Nat) (immediateServiceChange : Bool)
  | contextRelease (itsi sessionId sessionGeneration : Nat)
  | bearerControl (commandId bearerId bearerGeneration : Nat) (action : PacketBearerAction)
      (timeslotBitmap : SlotBitmap) (forceAfterMs : Nat)
  | bearerReport (commandId bearerId bearerGeneration : Nat) (state : PacketBearerState)
      (timeslotBitmap : SlotBitmap) (memberCount : Nat)
  | capability

/-! ### What is put on the queue of the stack -/

inductive PacketBearerControl where
  | opened (bearerId generation : Nat) (timeslotBitmap : SlotBitmap)
  | resize (bearerId generation : Nat) (timeslotBitmap : SlotBitmap)
  | drain (bearerId generation : Nat)
  | attach (bearerId generation issi eventLabel : Nat)
  | detach (bearerId generation eventLabel : Nat)
  | close (bearerId generation : Nat) (forced : Bool)

inductive Layer2Service where
  | acknowledged | unacknowledged | advancedAcknowledged
deriving DecidableEq

/-- A message to another entity; `reporter` is the receipt that travels with it. -/
inductive SndcpOutput where
  | packetBearerControl (control : PacketBearerControl)
  /-- An SNDCP PDU for a terminal. -/
  | unitdataReq (issi endpointId linkId : Nat) (pdu : SndcpDownlink) (service : Layer2Service)
      (chanAlloc : Option CmceChanAllocReq) (associatedChannel : Option AssociatedChannel)
      (reporter : Option Nat)
  /-- A channel allocation without a PDU. -/
  | channelAllocation (issi endpointId : Nat) (airInterfaceEncryption : AieRequest Unit)
      (chanAlloc : CmceChanAllocReq) (associatedChannel : Option AssociatedChannel) (reporter : Nat)
  /-- The order to register again. -/
  | locationUpdateCommand (issi handle : Nat)

end Bluestation
