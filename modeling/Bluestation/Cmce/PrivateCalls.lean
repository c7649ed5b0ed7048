/-
**Private calls at a cell.**

A private call has a circuit for each of its endpoints that is at the cell; two endpoints of a simplex call
at one cell share a circuit.

* `Cc.CcBs.allocatePrivateCallResources` — circuits for the endpoints, all or none.
* `Cc.CcBs.connectPrivateCall`, `Cc.CcBs.restorePrivateCall` — the call is connected, or taken up again.
-/

import Bluestation.Cmce.SubscriberUpdates

namespace Bluestation.Cc

namespace CcBs

variable (s : CcBs)

/-! ### Media -/

def startPrivateMedia (callId sourceIssi destinationIssi ts : Nat) : CcBs :=
  s.tellEach [.swmi, .umac] (.privateMediaStart callId sourceIssi destinationIssi ts)

def stopPrivateMedia (callId ts : Nat) : CcBs := s.tellEach [.swmi, .umac] (.privateMediaStop callId ts)

/-! ### Circuits -/

variable (callId : Nat)

def setPrivateCall (call : PrivateCallLocal) : CcBs :=
  { s with privateCalls := s.privateCalls.insert callId call }

def amendPrivateCall (change : PrivateCallLocal → PrivateCallLocal) : CcBs :=
  { s with privateCalls := s.privateCalls.modify callId change }

def setPrivateCircuit (callId itsi : Nat) (circuit : CmceCircuit) : CcBs :=
  { s with privateCircuits := s.privateCircuits.insert (callId, itsi) circuit }

/-- Both endpoints are at the cell, and only one of them speaks at a time. -/
def sharesCircuit (duplex : Bool) (localMask : EndpointMask) : Bool := !duplex && localMask &&& 3 = 3

def sharedCircuit (callId callerItsi calleeItsi : Nat) : Option CmceCircuit :=
  (s.privateCircuits.lookup (callId, callerItsi)).or (s.privateCircuits.lookup (callId, calleeItsi))

/-- How far the endpoints of a call have their circuits: the circuit to share, the circuits that are new,
and whether one was refused. -/
structure EndpointProgress where
  state : CcBs
  shared : Option CmceCircuit
  allocated : List (Nat × CmceCircuit)
  refused : Bool

def undoEndpoint (s : CcBs) (endpoint : Nat × CmceCircuit) : CcBs :=
  { s with
    privateCircuits := s.privateCircuits.erase (callId, endpoint.1) }.closeCircuit endpoint.2.ts
      endpoint.2

/-- A circuit for one endpoint. -/
def allocateEndpoint (endpointMask : EndpointMask) (duplex shares : Bool)
    (progress : EndpointProgress) (endpoint : EndpointMask × Nat) : EndpointProgress :=
  if progress.refused || endpointMask &&& endpoint.1 = 0 ||
      (progress.state.privateCircuits.lookup (callId, endpoint.2)).isSome then progress
  else match progress.shared with
    | some circuit =>
      { progress with state := progress.state.setPrivateCircuit callId endpoint.2 circuit }
    | none =>
      match progress.state.circuits.allocateCircuitWithAllocatorAndCallId .p2p
          progress.state.timeslotAlloc callId duplex with
      | (some circuit, radio) =>
        { state := ((progress.state.setRadio radio).signalUmacCircuitOpen circuit).setPrivateCircuit
            callId endpoint.2 circuit
          shared := if shares then some circuit else progress.shared
          allocated := progress.allocated ++ [(endpoint.2, circuit)]
          refused := false }
      | (none, radio) =>
        { progress with
          state := progress.allocated.foldl (undoEndpoint callId) (progress.state.setRadio radio)
          refused := true }

/-- Circuits for the endpoints of a call at the cell. If one is refused, the call has those that it had. -/
def allocatePrivateCallResources (callId callerItsi calleeItsi : Nat) (endpointMask : EndpointMask)
    (duplex : Bool) : Bool × CcBs :=
  match s.privateCalls.lookup callId with
  | none => (false, s)
  | some call =>
    let localMask := call.localMask ||| endpointMask
    let masked := s.amendPrivateCall callId fun call => { call with localMask }
    let shares := sharesCircuit duplex localMask
    let progress := (endpointsOf callerItsi calleeItsi).foldl
      (allocateEndpoint callId endpointMask duplex shares)
      ⟨masked, if shares then masked.sharedCircuit callId callerItsi calleeItsi else none, [], false⟩
    if progress.refused then
      (false, progress.state.amendPrivateCall callId fun now => { now with localMask := call.localMask })
    else (true, progress.state)

def deferReservation (reservation : PendingPrivateReservation) : CcBs :=
  { s with
    pendingPrivateReservations := s.pendingPrivateReservations.insert callId reservation }

/-- Circuits for a call of the network. While circuits are being closed the request waits. -/
def reservePrivateCallResources (reservation : PendingPrivateReservation) : CcBs :=
  let allocated := s.allocatePrivateCallResources callId reservation.callerItsi reservation.calleeItsi
    reservation.endpointMask reservation.duplex
  if allocated.1 then allocated.2
  else if (allocated.2.privateCalls.lookup callId).isSome &&
      (!allocated.2.releasingCalls.isEmpty || !allocated.2.releasingPrivateCircuits.isEmpty) then
    allocated.2.deferReservation callId reservation
  else allocated.2

def takeReservations : CcBs := { s with pendingPrivateReservations := ∅ }

variable (order : List Nat)

def retryPendingPrivateReservations : CcBs :=
  (s.pendingPrivateReservations.rearrange order).entries.foldl
    (fun s entry => s.reservePrivateCallResources entry.1 entry.2) s.takeReservations

def retryPendingRemoteSwmiCalls : CcBs :=
  s.activatePendingRemoteSwmiCalls order (s.pendingRemoteSwmiCalls.values.map (·.gssi))

def retryCallsWaitingForCircuits : CcBs :=
  (s.retryPendingPrivateReservations order).retryPendingRemoteSwmiCalls order

/-! ### Calls that are connected, taken up again, or left by an endpoint -/

def endpointsIn (mask : EndpointMask) (call : PrivateCallLocal) : List Nat :=
  ((endpointsOf call.callerItsi call.calleeItsi).filter fun endpoint => mask &&& endpoint.1 ≠ 0).map (·.2)

/-- The timeslot that both endpoints of a simplex call share. -/
def sharedSimplexTs (call : PrivateCallLocal) : Option Nat :=
  if sharesCircuit call.duplex call.localMask then
    match s.privateCircuits.lookup (callId, call.callerItsi),
        s.privateCircuits.lookup (callId, call.calleeItsi) with
    | some caller, some callee => if caller.ts = callee.ts then some caller.ts else none
    | _, _ => none
  else none

/-- The other party of a call, if the terminal is a party at all. -/
def PrivateCallLocal.peer (call : PrivateCallLocal) (itsi : Nat) : Option Nat :=
  if itsi = call.callerItsi then some call.calleeItsi
  else if itsi = call.calleeItsi then some call.callerItsi
  else none

def timeslotsOf (call : PrivateCallLocal) : List Nat :=
  ([call.callerItsi, call.calleeItsi].filterMap fun itsi =>
    (s.privateCircuits.lookup (callId, itsi)).map (·.ts)).dedup

/-- The media of one endpoint, if it has a circuit. -/
def startEndpointMedia (call : PrivateCallLocal) (s : CcBs) (itsi : Nat) : CcBs :=
  match s.privateCircuits.lookup (callId, itsi) with
  | none => s
  | some circuit =>
    s.startPrivateMedia callId itsi
      (if itsi = call.callerItsi then call.calleeItsi else call.callerItsi) circuit.ts

/-- The first speaker of a call whose endpoints share a circuit. -/
def grantSharedFloor (call : PrivateCallLocal) (floorItsi : Nat) : CcBs :=
  match s.privateCircuits.lookup (callId, floorItsi), PrivateCallLocal.peer call floorItsi with
  | some circuit, some peer =>
    s.tell .umac (.privateFloorGranted callId floorItsi (some peer) circuit.ts)
  | _, _ => s

def startMedia (call : PrivateCallLocal) (endpoints : List Nat) : CcBs :=
  if (s.sharedSimplexTs callId call).isSome then s
  else endpoints.foldl (startEndpointMedia callId call) s

def activateTraffic (call : PrivateCallLocal) : CcBs :=
  if call.duplex then
    (s.timeslotsOf callId call).foldl (fun s ts => s.tell .umac (.privateCallTrafficActive callId ts)) s
  else s

def grantFirstFloor (call : PrivateCallLocal) (floorItsi : Nat) : CcBs :=
  if (s.sharedSimplexTs callId call).isSome && floorItsi ≠ 0 then s.grantSharedFloor callId call floorItsi
  else s

def recordEndpoints (endpoints : List Nat) : CcBs :=
  endpoints.foldl (fun s itsi => s.recordUplinkCallLocation itsi callId) s

/-- A private call is connected. -/
def connectPrivateCall (callId initialFloorItsi : Nat) : CcBs :=
  match s.privateCalls.lookup callId with
  | none => s
  | some before =>
    let call := { before with connected := true, floorItsi := initialFloorItsi }
    let endpoints := [call.callerItsi, call.calleeItsi]
    ((((s.setPrivateCall callId call).startMedia callId call endpoints).activateTraffic callId
      call).grantFirstFloor callId call initialFloorItsi).recordEndpoints callId endpoints

/-- What UMAC is told of the floor of a call that is taken up again. -/
def restoredFloor (call : PrivateCallLocal) (shared : Option Nat) (ts : Nat) : CallControl :=
  if call.duplex then .privateCallTrafficActive callId ts
  else if call.floorItsi = 0 then .floorReleased callId ts
  else .privateFloorGranted callId call.floorItsi
    (shared.bind fun _ => PrivateCallLocal.peer call call.floorItsi) ts

/-- The media of a call that is taken up again. -/
def restoreMedia (call : PrivateCallLocal) (shared : Option Nat) (endpointMask : EndpointMask) :
    CcBs :=
  match shared with
  | some ts => s.stopPrivateMedia callId ts
  | none => (endpointsIn endpointMask call).foldl (startEndpointMedia callId call) s

def tellRestoredFloor (call : PrivateCallLocal) (shared : Option Nat) : CcBs :=
  (s.timeslotsOf callId call).foldl
    (fun s ts => s.tell .umac (restoredFloor callId call shared ts)) s

/-- A private call is known, with the endpoints of the mask among others. -/
def knowPrivateCall (call : PrivateCallLocal) (change : PrivateCallLocal → PrivateCallLocal) : CcBs :=
  s.setPrivateCall callId <|
    match s.privateCalls.lookup callId with
    | some existing => change existing
    | none => call

/-- A private call is taken up again at the cell. -/
def restorePrivateCall (callId callerItsi calleeItsi : Nat) (hook duplex requestToTransmit : Bool)
    (priority initialFloorItsi : Nat) (endpointMask : EndpointMask) : CcBs :=
  let known := s.knowPrivateCall callId ⟨callerItsi, calleeItsi, hook, duplex, requestToTransmit, priority,
    initialFloorItsi, true, endpointMask⟩ fun existing =>
      { existing with
        localMask := existing.localMask ||| endpointMask
        connected := true
        floorItsi := initialFloorItsi }
  let allocated := known.allocatePrivateCallResources callId callerItsi calleeItsi endpointMask duplex
  if !allocated.1 then allocated.2
  else match allocated.2.privateCalls.lookup callId with
    | none => allocated.2
    | some call =>
      let shared := allocated.2.sharedSimplexTs callId call
      (((allocated.2.restoreMedia callId call shared endpointMask).tellRestoredFloor callId call
        shared).recordEndpoints callId (endpointsIn call.localMask call))

/-- The circuit of an endpoint that has gone is closed, unless the other endpoint shares it. -/
def closeDeparted (departed : Option CmceCircuit) : Bool × CcBs :=
  match departed with
  | none => (false, s)
  | some circuit =>
    if s.privateCircuits.entries.any fun entry =>
        entry.2.callId = callId && entry.2.ts = circuit.ts then (false, s)
    else (true, (s.closeCircuit circuit.ts circuit).stopPrivateMedia callId circuit.ts)

/-- An endpoint has no circuit and is not one of the cell's; a call without endpoints is forgotten. -/
def dropEndpoint (callId itsi : Nat) (call : PrivateCallLocal) (bit : EndpointMask) : CcBs :=
  { s with
    privateCircuits := s.privateCircuits.erase (callId, itsi)
    privateCalls :=
      if call.localMask &&& ~~~bit = 0 then s.privateCalls.erase callId
      else s.privateCalls.insert callId { call with localMask := call.localMask &&& ~~~bit } }

def refreshMedia : CcBs :=
  match s.privateCalls.lookup callId with
  | none => s
  | some remaining =>
    (endpointsIn remaining.localMask remaining).foldl (startEndpointMedia callId remaining) s

/-- An endpoint that has registered at another cell leaves; the call goes on for its peer. -/
def detachRoamedPrivateEndpoint (callId departedItsi : Nat) : CcBs :=
  match s.privateCalls.lookup callId with
  | none => s
  | some call =>
    let bit : EndpointMask :=
      if departedItsi = call.callerItsi then 1 else if departedItsi = call.calleeItsi then 2 else 0
    if call.localMask &&& bit = 0 then s
    else
      let departed := s.privateCircuits.lookup (callId, departedItsi)
      let closed := (s.dropEndpoint callId departedItsi call bit).closeDeparted callId departed
      let refreshed := closed.2.refreshMedia callId
      if closed.1 then refreshed.retryCallsWaitingForCircuits order else refreshed

end CcBs

end Bluestation.Cc
