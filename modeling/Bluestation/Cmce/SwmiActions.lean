/-
**Decisions of the network.**

The network decides about calls, floors and endpoints; call control carries its decisions out. Offers of
calls that wait for a circuit are not among the decisions here.

* `Cc.CcBs.applyCentralFloorGrant`, `Cc.CcBs.applyFloorPreemption` — who may speak in a group call.
* `Cc.CcBs.swmiAction` — one decision.
-/

import Bluestation.Cmce.GroupSetup

namespace Bluestation.Cc

namespace CcBs

variable (s : CcBs)

/-! ### Floors of group calls -/

variable (callId : Nat)

def amendActiveCall (change : ActiveCall → ActiveCall) : CcBs :=
  { s with activeCalls := s.activeCalls.modify callId change }

def amendPendingCall (change : PendingRemoteSwmiCall → PendingRemoteSwmiCall) : CcBs :=
  { s with pendingRemoteSwmiCalls := s.pendingRemoteSwmiCalls.modify callId change }

def dropGrant : CcBs :=
  { s with pendingPreemptiveFloorGrants := s.pendingPreemptiveFloorGrants.erase callId }

def holdGrant (grant : PendingPreemptiveFloorGrant) : CcBs :=
  { s with pendingPreemptiveFloorGrants := s.pendingPreemptiveFloorGrants.insert callId grant }

/-- The floor of a call, as it was granted. -/
def applyCentralFloorGrant (callId itsi : Nat) : CcBs :=
  match s.activeCalls.lookup callId with
  | none => s
  | some call =>
    (s.amendActiveCall callId fun call =>
        { call with
          sourceIssi := itsi
          txActive := true
          hangtimeStart := none }).tellEach [.umac, .swmi]
      (.floorGranted callId itsi call.destGssi call.ts)

/-- The speaker of a call is interrupted, if it is still the one that the network means. -/
def applyFloorPreemption (callId previousItsi : Nat) : Bool × CcBs :=
  match s.activeCalls.lookup callId with
  | none => (false, s)
  | some call =>
    if call.sourceIssi ≠ previousItsi || !call.txActive then (false, s)
    else
      (true, (s.amendActiveCall callId fun call =>
          { call with
            txActive := false
            hangtimeStart := some s.dltime }).tellEach [.umac, .swmi, .brew]
        (.floorReleased callId call.ts))

/-- `PREEMPTION_GUARD_TIMESLOTS` -/
def preemptionGuardTimeslots : Int := 24

def floorPreempted (callId previousItsi nextItsi : Nat) : CcBs :=
  let pending := s.amendPendingCall callId fun call => { call with floorItsi := nextItsi }
  let applied := pending.applyFloorPreemption callId previousItsi
  if applied.1 then
    applied.2.holdGrant callId
      ⟨nextItsi, applied.2.dltime.addTimeslots preemptionGuardTimeslots, none⟩
  else applied.2

def floorGranted (callId itsi : Nat) : CcBs :=
  let pending := s.amendPendingCall callId fun call => { call with floorItsi := itsi }
  if (pending.pendingPreemptiveFloorGrants.lookup callId).any (·.itsi = itsi) then pending
  else pending.applyCentralFloorGrant callId itsi

def floorReleased (callId : Nat) : CcBs :=
  let pending := (s.dropGrant callId).amendPendingCall callId fun call => { call with floorItsi := 0 }
  match pending.activeCalls.lookup callId with
  | none => pending
  | some call =>
    (pending.amendActiveCall callId fun call =>
        { call with
          txActive := false
          hangtimeStart := some pending.dltime }).tellEach [.umac, .swmi]
      (.floorReleased callId call.ts)

def groupCallPriorityChanged (callId priority : Nat) : CcBs :=
  (s.amendActiveCall callId fun call => { call with priority }).amendPendingCall callId fun call =>
    { call with priority }

def dropPendingCall : CcBs :=
  { s with pendingRemoteSwmiCalls := s.pendingRemoteSwmiCalls.erase callId }

def callRelease (setting : CcSetting) (order : List Nat) (callId : Nat) : CcBs :=
  let dropped := s.dropPendingCall (callIdBits callId)
  match callIdOf callId with
  | none => dropped
  | some callId => releaseCall setting order dropped callId

/-! ### Private calls -/

def privateCallProceeding (call : PrivateCallLocal) : CcBs :=
  if call.callerItsi ∈ s.pendingPrivateSetups then
    { s with
      pendingPrivateSetups := s.pendingPrivateSetups.erase call.callerItsi }.setPrivateCall callId call
  else s

def offerPrivateCall (call : PrivateCallLocal) : CcBs :=
  s.knowPrivateCall callId call fun existing =>
    { existing with localMask := existing.localMask ||| call.localMask }

/-- The floor of a private call, for both endpoints. -/
def privateFloorGranted (callId itsi : Nat) : CcBs :=
  match s.privateCalls.lookup callId with
  | none => s
  | some before =>
    let call := { before with floorItsi := itsi }
    let granted := s.setPrivateCall callId call
    let shared := granted.sharedSimplexTs callId call
    (granted.timeslotsOf callId call).foldl
      (fun s ts => s.tell .umac (.privateFloorGranted callId itsi
        (if shared = some ts then PrivateCallLocal.peer call itsi else none) ts)) granted

def privateFloorReleased : CcBs :=
  match s.privateCalls.lookup callId with
  | none => s
  | some before =>
    let call := { before with floorItsi := 0 }
    let released := s.setPrivateCall callId call
    (released.timeslotsOf callId call).foldl
      (fun s ts => s.tell .umac (.floorReleased callId ts)) released

/-- The called party of a private call is released. -/
def releasePrivateEndpoint (callId itsi : Nat) : CcBs :=
  match s.privateCalls.lookup callId with
  | none => s
  | some call =>
    if itsi ≠ call.calleeItsi || call.localMask &&& 2 = 0 then s
    else
      let removed :=
        { s with
          privateCalls :=
            if call.localMask &&& ~~~2 = 0 then s.privateCalls.erase callId
            else s.privateCalls.insert callId { call with localMask := call.localMask &&& ~~~2 } }
      match removed.privateCircuits.lookup (callId, itsi) with
      | none => removed
      | some circuit =>
        { removed with
          privateCircuits := removed.privateCircuits.erase (callId, itsi)
          releasingPrivateCircuits :=
            removed.releasingPrivateCircuits ++ [⟨callId, itsi, circuit, removed.dltime⟩] }

/-- A request for a call is rejected. -/
def callReject (setupOrder : List (Nat × Nat)) (callId itsi : Nat) : CcBs :=
  if callId ≠ 0 then s
  else if itsi ∈ s.pendingPrivateSetups then
    { s with pendingPrivateSetups := s.pendingPrivateSetups.erase itsi }
  else match (s.pendingSwmiSetups.rearrange setupOrder).keys.find? fun key => key.1 = itsi with
    | some key => { s with pendingSwmiSetups := s.pendingSwmiSetups.erase key }
    | none => s

/-! ### Decisions -/

/-- A decision about a call whose identifier the air interface can carry. -/
def withCallId (act : Nat → CcBs) : CcBs :=
  match callIdOf callId with
  | some callId => act callId
  | none => s

/-- What is done for a decision; the admission has taken what concerns it already. -/
def carryOut (setting : CcSetting) (around : Surroundings) : SwmiMessage → CcBs
  | .capacity _ => s
  | .handoverReserveGroupCall itsi callId ownerItsi gssi priority floorItsi acknowledged =>
    (s.reserveSeamlessHandoverGroupCall setting itsi callId ownerItsi gssi priority floorItsi
      acknowledged).2
  | .groupCallStart callId ownerItsi gssi priority floorItsi acknowledged restoringItsi =>
    s.groupCallStart setting around callId ownerItsi gssi priority floorItsi acknowledged restoringItsi
  | .groupCallPriorityChanged callId priority =>
    s.withCallId callId fun callId => s.groupCallPriorityChanged callId priority
  | .floorPreempted callId previousItsi nextItsi =>
    s.withCallId callId fun callId => s.floorPreempted callId previousItsi nextItsi
  | .floorGranted callId itsi => s.withCallId callId fun callId => s.floorGranted callId itsi
  | .floorReleased callId => s.withCallId callId fun callId => s.floorReleased callId
  | .callRelease callId => s.callRelease setting around.order callId
  | .callDisconnect callId => s.callRelease setting around.order callId
  | .privateCallProceeding callId callerItsi calleeItsi hook duplex requestToTransmit priority =>
    s.withCallId callId fun callId => s.privateCallProceeding callId
      ⟨callerItsi, calleeItsi, hook, duplex, requestToTransmit, priority, 0, false, 1⟩
  | .privateCallOffer callId callerItsi calleeItsi hook duplex requestToTransmit priority =>
    s.withCallId callId fun callId => s.offerPrivateCall callId
      ⟨callerItsi, calleeItsi, hook, duplex, requestToTransmit, priority, 0, false, 2⟩
  | .externalCallOffer callId callerItsi gatewayItsi numberEncodes hook duplex requestToTransmit priority =>
    if numberEncodes then
      s.withCallId callId fun callId => s.offerPrivateCall callId
        ⟨callerItsi, gatewayItsi, hook, duplex, requestToTransmit, priority, 0, false, 2⟩
    else s
  | .privateCallWaitingOffer callId callerItsi calleeItsi hook duplex requestToTransmit priority =>
    s.withCallId callId fun callId => s.offerPrivateCall callId
      ⟨callerItsi, calleeItsi, hook, duplex, requestToTransmit, priority, 0, false, 2⟩
  | .privateCallReserve callId callerItsi calleeItsi endpointMask duplex _ =>
    s.withCallId callId fun callId => s.reservePrivateCallResources callId
      ⟨callerItsi, calleeItsi, endpointMask, duplex⟩
  | .privateCallConnected callId _ _ _ initialFloorItsi =>
    s.withCallId callId fun callId => s.connectPrivateCall callId initialFloorItsi
  | .privateCallRestore callId callerItsi calleeItsi hook duplex requestToTransmit priority
      initialFloorItsi endpointMask =>
      s.withCallId callId fun callId => s.restorePrivateCall callId callerItsi calleeItsi hook duplex
        requestToTransmit priority initialFloorItsi endpointMask
  | .privateCallWaitingSync callId callerItsi calleeItsi hook duplex requestToTransmit priority
      endpointMask =>
      s.withCallId callId fun callId => s.offerPrivateCall callId
        ⟨callerItsi, calleeItsi, hook, duplex, requestToTransmit, priority, 0, false, endpointMask⟩
  | .privateCallEndpointMoved callId itsi =>
    s.withCallId callId fun callId => s.detachRoamedPrivateEndpoint around.order callId itsi
  | .privateCallRelease callId _ => s.withCallId callId fun callId => s.releasePrivateCallLocal callId
  | .privateFloorGranted callId itsi =>
    s.withCallId callId fun callId => s.privateFloorGranted callId itsi
  | .privateFloorReleased callId => s.withCallId callId fun callId => s.privateFloorReleased callId
  | .callReject callId itsi => s.callReject around.setupOrder callId itsi
  | .callWaitingResponse callId itsi operation =>
    if operation = 9 then s.withCallId callId fun callId => s.releasePrivateEndpoint callId itsi else s

def swmiAction (setting : CcSetting) (around : Surroundings) (message : SwmiMessage) : CcBs :=
  (s.capacityObserve around.order message).carryOut setting around message

end CcBs

end Bluestation.Cc
