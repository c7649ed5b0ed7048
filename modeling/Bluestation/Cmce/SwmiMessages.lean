/-
**Messages of the network about calls.**

Call identifiers are the numbers that the network sends; identities are as call control reads them, with
32 bits.

* `Cc.CapacityMessage` — offers of calls that wait for a circuit, and what is to become of them.
* `Cc.SwmiMessage` — decisions about calls, floors and endpoints.
* `Cc.CapacityContext.observe` — a call that waits follows the decisions about it.
-/

import Bluestation.Cmce.CallState

namespace Bluestation.Cc

inductive CapacityAction where
  | prepare | commit | cancel | suspend | forget

/-- Without a context an offer cannot be decoded, or it is about something else than a call. -/
inductive CapacityMessage where
  | policy (policy : CapacityPolicy)
  | offer (token callId priority : Nat) (existing : Bool) (timeoutMs : Nat)
      (context : Option CapacityContext)
  | control (token : Nat) (action : CapacityAction)
  | report
  | endpointMoved (token itsi : Nat)
  | coverage (token : Nat) (limited : Bool)

inductive SwmiMessage where
  | capacity (message : CapacityMessage)
  | handoverReserveGroupCall (itsi callId ownerItsi gssi priority floorItsi : Nat) (acknowledged : Bool)
  | groupCallStart (callId ownerItsi gssi priority floorItsi : Nat) (acknowledged : Bool)
      (restoringItsi : Option Nat)
  | groupCallPriorityChanged (callId priority : Nat)
  | floorPreempted (callId previousItsi nextItsi : Nat)
  | floorGranted (callId itsi : Nat)
  | floorReleased (callId : Nat)
  | callRelease (callId : Nat)
  | callDisconnect (callId : Nat)
  | privateCallProceeding (callId callerItsi calleeItsi : Nat) (hook duplex requestToTransmit : Bool)
      (priority : Nat)
  | privateCallOffer (callId callerItsi calleeItsi : Nat) (hook duplex requestToTransmit : Bool)
      (priority : Nat)
  | externalCallOffer (callId callerItsi gatewayItsi : Nat) (numberEncodes : Bool)
      (hook duplex requestToTransmit : Bool) (priority : Nat)
  | privateCallWaitingOffer (callId callerItsi calleeItsi : Nat) (hook duplex requestToTransmit : Bool)
      (priority : Nat)
  | privateCallReserve (callId callerItsi calleeItsi : Nat) (endpointMask : EndpointMask) (duplex : Bool)
      (initialFloorItsi : Nat)
  | privateCallConnected (callId callerItsi calleeItsi : Nat) (duplex : Bool) (initialFloorItsi : Nat)
  | privateCallRestore (callId callerItsi calleeItsi : Nat) (hook duplex requestToTransmit : Bool)
      (priority initialFloorItsi : Nat) (endpointMask : EndpointMask)
  | privateCallWaitingSync (callId callerItsi calleeItsi : Nat) (hook duplex requestToTransmit : Bool)
      (priority : Nat) (endpointMask : EndpointMask)
  | privateCallEndpointMoved (callId itsi : Nat)
  | privateCallRelease (callId itsi : Nat)
  | privateFloorGranted (callId itsi : Nat)
  | privateFloorReleased (callId : Nat)
  | callReject (callId itsi : Nat)
  | callWaitingResponse (callId itsi operation : Nat)

/-- `call_id as u16`. -/
def callIdBits (callId : Nat) : Nat := callId % 2 ^ 16

/-- `u16::try_from(call_id)`. -/
def callIdOf (callId : Nat) : Option Nat := if callId < 2 ^ 16 then some callId else none

namespace CapacityContext

def callId : CapacityContext → Nat
  | .groupCallStart callId .. => callId
  | .privateCallReserve callId .. => callId
  | .privateCallRestore callId .. => callId

def gssi : CapacityContext → Option Nat
  | .groupCallStart _ _ gssi .. => some gssi
  | _ => none

def withFloor (floorItsi : Nat) : CapacityContext → CapacityContext
  | .groupCallStart callId ownerItsi gssi priority _ acknowledged restoringItsi =>
    .groupCallStart callId ownerItsi gssi priority floorItsi acknowledged restoringItsi
  | .privateCallReserve callId callerItsi calleeItsi endpointMask duplex _ =>
    .privateCallReserve callId callerItsi calleeItsi endpointMask duplex floorItsi
  | .privateCallRestore callId callerItsi calleeItsi hook duplex requestToTransmit priority _ mask =>
    .privateCallRestore callId callerItsi calleeItsi hook duplex requestToTransmit priority floorItsi mask

def withPriority (priority : Nat) : CapacityContext → CapacityContext
  | .groupCallStart callId ownerItsi gssi _ floorItsi acknowledged restoringItsi =>
    .groupCallStart callId ownerItsi gssi priority floorItsi acknowledged restoringItsi
  | context => context

def isGroup (context : CapacityContext) : Bool := context.gssi.isSome

def isOf (context : CapacityContext) (group : Bool) (callId : Nat) : Bool :=
  context.isGroup = group && context.callId = callId

/-- A floor or a priority that the network has decided. -/
def observe (message : SwmiMessage) (context : CapacityContext) : CapacityContext :=
  match message with
  | .floorGranted callId itsi => if context.isOf true callId then context.withFloor itsi else context
  | .floorReleased callId => if context.isOf true callId then context.withFloor 0 else context
  | .groupCallPriorityChanged callId priority =>
    if context.isOf true callId then context.withPriority priority else context
  | .privateFloorReleased callId => if context.isOf false callId then context.withFloor 0 else context
  | .privateFloorGranted callId itsi =>
    if context.isOf false callId then context.withFloor itsi else context
  | _ => context

/-- What the context says once it is the call's turn. -/
def message : CapacityContext → SwmiMessage
  | .groupCallStart callId ownerItsi gssi priority floorItsi acknowledged restoringItsi =>
    .groupCallStart callId ownerItsi gssi priority floorItsi acknowledged restoringItsi
  | .privateCallReserve callId callerItsi calleeItsi endpointMask duplex initialFloorItsi =>
    .privateCallReserve callId callerItsi calleeItsi endpointMask duplex initialFloorItsi
  | .privateCallRestore callId callerItsi calleeItsi hook duplex requestToTransmit priority
      initialFloorItsi endpointMask =>
      .privateCallRestore callId callerItsi calleeItsi hook duplex requestToTransmit priority
        initialFloorItsi endpointMask

end CapacityContext

end Bluestation.Cc
