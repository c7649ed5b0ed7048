/-
**Calls end.**

A call that has ended keeps its circuit until its D-RELEASE was sent. A call that waits for a circuit is
forgotten, and a circuit that waits for its call is closed.

* `Cc.CcBs.capacityForget` — a token and everything under it.
* `Cc.CcBs.capacityObserve` — what the admission takes from a decision of the network.
* `Cc.CcBs.releaseCall`, `Cc.CcBs.finalizeRelease` — a group call ends, and its circuit is closed.
* `Cc.CcBs.releasePrivateCallLocal` — the endpoints of a private call are released.
-/

import Bluestation.Cmce.GroupStart
import Bluestation.Cmce.SwmiMessages

namespace Bluestation.Cc

/-- What a handler finds around it: the orders in which tables are gone through, the clock, the state of the
link to the network, and which receipts say that their message was transmitted. -/
structure Surroundings where
  order : List Nat
  setupOrder : List (Nat × Nat)
  now : Nat
  online : Bool
  connected : Bool
  submits : Bool
  transmitted : Nat → Bool

namespace CcBs

variable (s : CcBs)

/-! ### Circuits that wait for their call -/

def closeTimeslot (ts : Nat) : CcBs := { s with circuits := (s.circuits.closeCircuit ts).2 }

def closeCircuit (ts : Nat) (circuit : CmceCircuit) : CcBs :=
  ((s.closeTimeslot ts).signalUmacCircuitClose circuit).releaseTimeslot ts

variable (callId : Nat)

def closeOwnCircuit (s : CcBs) (circuit : CmceCircuit) : CcBs :=
  if s.circuits.callIdAt circuit.ts = some callId then s.closeCircuit circuit.ts circuit else s

def capacityActive : Bool :=
  s.capacity.entries.values.any fun entry => entry.callId = callId && entry.status = .active

/-- The circuits of a call that does not run. A circuit that stands twice here is closed once: its
timeslot is not the call's any more afterwards. -/
def capacityHeldCircuits : List CmceCircuit :=
  (s.capacity.reservedGroups.lookup callId).toList ++
    if s.capacityActive callId then []
    else (s.privateCircuits.entries.filter fun entry => entry.1.1 = callId).map (·.2)

def capacityReleaseReserved : CcBs :=
  let kept :=
    if s.capacityActive callId then s.privateCircuits
    else s.privateCircuits.retain fun key _ => key.1 ≠ callId
  (s.capacityHeldCircuits callId).foldl (closeOwnCircuit callId)
    { s.takeReservedGroup callId with privateCircuits := kept }

variable (token : Nat)

def dropEntry : CcBs :=
  { s with
    capacity :=
      { s.capacity with entries := s.capacity.entries.erase token } }

/-- Nothing is kept under a token. -/
def dropToken : CcBs :=
  { s with
    capacity :=
      { s.capacity with
        contexts := s.capacity.contexts.erase token
        refresh := s.capacity.refresh.erase token
        suspending := s.capacity.suspending.erase token
        suspendGuard := s.capacity.suspendGuard.erase token } }

/-- The token is forgotten; circuits are not closed. -/
def forgetToken : CcBs := (s.dropEntry token).dropToken token

def capacityForget : CcBs :=
  (match s.capacity.entries.lookup token with
  | none => s
  | some entry =>
    if entry.status = CapacityStatus.active then s.dropEntry token
    else (s.dropEntry token).capacityReleaseReserved (callIdBits entry.callId)).dropToken token

/-! ### What the admission takes from a decision -/

def tokensOf (order : List Nat) (callId : Nat) : List Nat :=
  ((s.capacity.entries.rearrange order).values.filter (·.callId = callId)).map (·.token)

def dropSetups (gssi : Nat) : CcBs :=
  { s with pendingSwmiSetups := s.pendingSwmiSetups.retain fun key _ => key.2 ≠ gssi }

def forgetReleased (s : CcBs) (token : Nat) : CcBs :=
  (match (s.capacity.contexts.lookup token).bind (·.gssi) with
  | some gssi => s.dropSetups gssi
  | none => s).capacityForget token

/-- A call that is suspended is not taken up again. -/
def dropSuspended : CcBs :=
  { s with
    capacity :=
      { s.capacity with
        limitedGroups := s.capacity.limitedGroups.erase callId
        suspendedGroups := s.capacity.suspendedGroups.erase callId
        suspendedSetups := s.capacity.suspendedSetups.erase callId
        resuming := s.capacity.resuming.erase callId } }

def releasedBy : SwmiMessage → Option Nat
  | .callRelease callId => some callId
  | .privateCallRelease callId itsi => if itsi = 0 then some callId else none
  | _ => none

/-- The priority of an admission follows that of its call. -/
def observePriority (message : SwmiMessage) (contexts : Table CapacityContext)
    (entries : Table CapacityEntry) : Table CapacityEntry :=
  match message with
  | .groupCallPriorityChanged callId priority =>
    (contexts.entries.filter fun entry => entry.2.isOf true callId).foldl
      (fun entries entry => entries.modify entry.1 fun held => { held with priority }) entries
  | _ => entries

/-- The calls that wait follow a decision about them. -/
def observeContexts (message : SwmiMessage) : CcBs :=
  { s with
    capacity :=
      { s.capacity with
        entries := observePriority message s.capacity.contexts s.capacity.entries
        contexts := s.capacity.contexts.mapValues (·.observe message) } }

def capacityObserve (order : List Nat) (message : SwmiMessage) : CcBs :=
  (match releasedBy message with
  | some callId =>
    ((s.tokensOf order callId).foldl forgetReleased s).dropSuspended (callIdBits callId)
  | none => s).observeContexts message

/-! ### Group calls -/

def CallOrigin.brewUuid : CallOrigin → Option Nat
  | .network brewUuid => some brewUuid
  | _ => none

def CallOrigin.isLocal : CallOrigin → Bool
  | .cell _ => true
  | _ => false

/-- A call that has ended has its circuit still: it is closed, and the other entities are told. -/
def finalizeRelease (setting : CcSetting) (callId ts destGssi : Nat) (isLocal : Bool)
    (brewUuid : Option Nat) : CcBs :=
  let closed :=
    match s.circuits.dl.lookup ts with
    | some circuit => if circuit.callId = callId then s.closeCircuit ts circuit else s
    | none => s.releaseTimeslot ts
  let ended := closed.tell .umac (.callEnded callId ts)
  let central := if setting.hasSwmi then ended.tell .swmi (.callEnded callId ts) else ended
  if setting.isBrewGssiRoutable destGssi then
    let told := if isLocal then central.tell .brew (.callEnded callId ts) else central
    match brewUuid with
    | some brewUuid => told.tell .brew (.networkCallEnd brewUuid)
    | none => told
  else central

def endCall : CcBs :=
  { s with
    activeCalls := s.activeCalls.erase callId }

/-- The D-RELEASE of a call is on its way. -/
def awaitRelease (call : ActiveCall) : CcBs :=
  { s with
    cachedSetups := s.cachedSetups.erase callId
    releasingCalls := s.releasingCalls ++ [⟨callId, call.ts, call.destGssi, call.sourceIssi,
      CallOrigin.isLocal call.origin, call.brewUuid.or (CallOrigin.brewUuid call.origin), s.dltime, none,
      s.receipts⟩]
    receipts := s.receipts + 1 }

def releaseCall (setting : CcSetting) (order : List Nat) (s : CcBs) (callId : Nat) : CcBs :=
  let observed := s.capacityObserve order (.callRelease callId)
  let settled :=
    { observed with
      pendingPreemptiveFloorGrants := observed.pendingPreemptiveFloorGrants.erase callId }
  match settled.activeCalls.lookup callId with
  | none => settled
  | some call =>
    let reconciled := (settled.endCall callId).reconcileAllSubscriberGroupListeners order
    match reconciled.cachedSetups.lookup callId with
    | some _ => reconciled.awaitRelease callId call
    | none =>
      reconciled.finalizeRelease setting callId call.ts call.destGssi
        (CallOrigin.isLocal call.origin) (call.brewUuid.or (CallOrigin.brewUuid call.origin))

/-! ### Private calls -/

def endpointsOf (callerItsi calleeItsi : Nat) : List (EndpointMask × Nat) :=
  [(1, callerItsi), (2, calleeItsi)]

/-- One endpoint of a private call is released. A timeslot that both endpoints share is closed once. -/
def releaseEndpoint (state : CcBs × List Nat) (itsi : Nat) : CcBs × List Nat :=
  match state.1.privateCircuits.lookup (callId, itsi) with
  | none => state
  | some circuit =>
    let removed :=
      { state.1 with
        privateCircuits := state.1.privateCircuits.erase (callId, itsi) }
    if circuit.ts ∈ state.2 then (removed, state.2)
    else
      ({ removed with
          releasingPrivateCircuits :=
            removed.releasingPrivateCircuits ++ [⟨callId, itsi, circuit, removed.dltime⟩] },
        circuit.ts :: state.2)

def releasePrivateCallLocal : CcBs :=
  let settled :=
    { s with
      pendingPrivateReservations := s.pendingPrivateReservations.erase callId }
  match settled.privateCalls.lookup callId with
  | none => settled
  | some call =>
    let removed :=
      { settled with
        privateCalls := settled.privateCalls.erase callId }
    (((endpointsOf call.callerItsi call.calleeItsi).filter fun endpoint =>
        call.localMask &&& endpoint.1 ≠ 0).foldl
      (fun state endpoint => releaseEndpoint callId state endpoint.2) (removed, [])).1

end CcBs

end Bluestation.Cc
