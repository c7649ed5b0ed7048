/-
**The state of call control.**

Group calls and private calls with their circuits, the subscribers and the groups they listen to, and the
admission of calls that wait for a circuit. Messages to the other entities are kept; messages to the
terminals are not.

* `Cc.CcBs` — the state.
* `Cc.CallControl` — the messages to the other entities.
* `Cc.CcBs.tell` and the operations after it — single changes, from which the procedures are made.
-/

import Bluestation.Cmce.Circuits
import Bluestation.Lib.Dictionary

namespace Bluestation.Cc

/-! ### Group calls -/

/-- Who has started a group call: a terminal of the cell, the Brew network, or the central network. -/
inductive CallOrigin where
  | cell (callerSsi : Nat)
  | network (brewUuid : Nat)
  | swmi

structure ActiveCall where
  origin : CallOrigin
  destGssi : Nat
  sourceIssi : Nat
  ts : Nat
  usage : Nat
  priority : Nat
  acknowledged : Bool
  txActive : Bool
  hangtimeStart : Option TdmaTime
  brewUuid : Option Nat

/-- A call whose circuit is closed once its D-RELEASE was sent; `txReporter` is the receipt for it. -/
structure ReleasingCall where
  callId : Nat
  ts : Nat
  destGssi : Nat
  sourceIssi : Nat
  isLocal : Bool
  brewUuid : Option Nat
  queuedAt : TdmaTime
  transmittedAt : Option TdmaTime
  txReporter : Nat

/-- A call of the network that waits for a listener or a circuit. -/
structure PendingRemoteSwmiCall where
  ownerItsi : Nat
  gssi : Nat
  priority : Nat
  floorItsi : Nat
  acknowledged : Bool
  announceSetup : Bool

/-- A floor that is granted once the old speaker was interrupted. -/
structure PendingPreemptiveFloorGrant where
  itsi : Nat
  readyAt : TdmaTime
  brewUuid : Option Nat

/-- A U-SETUP, as far as call control reads it. -/
structure USetup where
  commType : CommunicationType
  calledPartySsi : Option Nat
  supported : Bool
  callPriority : Nat

/-- What the network has said of a call for which a U-SETUP waits. -/
structure CentralSetup where
  callId : Nat
  floorItsi : Nat
  priority : Nat

/-! ### Private calls -/

/-- The endpoints of a private call, as bits: the caller's is 0, the callee's is 1. -/
abbrev EndpointMask := BitVec 8

structure PrivateCallLocal where
  callerItsi : Nat
  calleeItsi : Nat
  hook : Bool
  duplex : Bool
  requestToTransmit : Bool
  priority : Nat
  floorItsi : Nat
  connected : Bool
  localMask : EndpointMask

structure PendingPrivateReservation where
  callerItsi : Nat
  calleeItsi : Nat
  endpointMask : EndpointMask
  duplex : Bool

structure ReleasingPrivateCircuit where
  callId : Nat
  itsi : Nat
  circuit : CmceCircuit
  sentAt : TdmaTime

/-! ### Listeners -/

inductive ListeningService where
  | group (gssi : Nat)
  | individual (peerIssi : Nat)
deriving DecidableEq

/-- A channel where a terminal is likely to listen. -/
structure ListeningCandidate where
  callId : Nat
  timeslot : Nat
  usage : Nat
  service : ListeningService
  lastSeen : TdmaTime
  confirmed : Bool
deriving DecidableEq

/-- The subscribers with their groups, how many listeners a group has, and how the groups are used. -/
structure Subscribers where
  subscriberGroups : Table (Table Unit)
  groupListeners : Table Nat
  subscriberGroupCou : Dictionary (Nat × Nat) Nat
  subscriberScanningEnabled : Table Bool

/-! ### Admission -/

inductive CapacityStatus where
  | queued | ready | reserved | active | suspended | expired | rejected | needsPause | suspendFailed
deriving DecidableEq

/-- A call that waits for a circuit or has one, under its token. -/
structure CapacityEntry where
  token : Nat
  callId : Nat
  priority : Nat
  existing : Bool
  entered : Nat
  deadline : Option Nat
  reservedUntil : Option Nat
  status : CapacityStatus

/-- What is done once the call has a circuit. -/
inductive CapacityContext where
  | groupCallStart (callId ownerItsi gssi priority floorItsi : Nat) (acknowledged : Bool)
      (restoringItsi : Option Nat)
  | privateCallReserve (callId callerItsi calleeItsi : Nat) (endpointMask : EndpointMask)
      (duplex : Bool) (initialFloorItsi : Nat)
  | privateCallRestore (callId callerItsi calleeItsi : Nat) (hook duplex requestToTransmit : Bool)
      (priority initialFloorItsi : Nat) (endpointMask : EndpointMask)

structure CapacityPolicy where
  reservationMs : Nat
  retryMs : Nat
  setupWaitMs : Nat
  suspendSendMs : Nat
  setupRefreshMs : Nat

structure RadioCapacity where
  policy : CapacityPolicy
  entries : Table CapacityEntry
  contexts : Table CapacityContext
  refresh : Table Nat
  reservedGroups : Table CmceCircuit
  suspending : Table (Nat × List Nat)
  suspendGuard : Table TdmaTime
  suspendedGroups : Table ActiveCall
  suspendedSetups : Table Nat
  resuming : Table Unit
  committing : Bool
  limitedGroups : Table Unit
  nextLocal : Nat
  networkWasConnected : Bool
  nextRetry : Nat

/-! ### Messages -/

inductive CallControl where
  | openCircuit (callId ts usage : Nat)
  | closeCircuit (callId ts : Nat)
  | configureGroupTrafficAie (callId gssi ts : Nat)
  | floorGranted (callId sourceIssi destGssi ts : Nat)
  | floorReleased (callId ts : Nat)
  | callEnded (callId ts : Nat)
  | privateCallTrafficActive (callId ts : Nat)
  | privateFloorGranted (callId sourceIssi : Nat) (destinationIssi : Option Nat) (ts : Nat)
  | privateMediaStart (callId sourceIssi destinationIssi ts : Nat)
  | privateMediaStop (callId ts : Nat)
  | networkCallReady (brewUuid callId ts usage : Nat)
  | networkCallEnd (brewUuid : Nat)

inductive TetraEntity where
  | umac | swmi | brew

/-! ### The state -/

/-- `cachedSetups` has the group of every D-SETUP that is kept; `receipts` counts the receipts that were
made. -/
structure CcBs where
  dltime : TdmaTime
  subscribers : Subscribers
  listeningCandidates : Table (List ListeningCandidate)
  activeCalls : Table ActiveCall
  cachedSetups : Table Nat
  releasingCalls : List ReleasingCall
  pendingRemoteSwmiCalls : Table PendingRemoteSwmiCall
  pendingPreemptiveFloorGrants : Table PendingPreemptiveFloorGrant
  pendingSwmiSetups : Dictionary (Nat × Nat) USetup
  centralSetups : Dictionary (Nat × Nat) CentralSetup
  privateCalls : Table PrivateCallLocal
  pendingPrivateSetups : Table Unit
  pendingPrivateReservations : Table PendingPrivateReservation
  privateCircuits : Dictionary (Nat × Nat) CmceCircuit
  releasingPrivateCircuits : List ReleasingPrivateCircuit
  circuits : CircuitMgr
  timeslotAlloc : TimeslotAllocator
  capacity : RadioCapacity
  receipts : Nat
  queue : List (TetraEntity × CallControl)

/-- What the cell's configuration says: the groups of the Brew network, whether the central network is
configured, and the allocations of a handover that are valid, by timeslot and usage marker. -/
structure CcSetting where
  isBrewGssiRoutable : Nat → Bool
  hasSwmi : Bool
  validAllocation : Nat → Nat → Bool

/-- Nothing waits for a circuit. -/
def RadioCapacity.new (policy : CapacityPolicy) : RadioCapacity where
  policy
  entries := ∅
  contexts := ∅
  refresh := ∅
  reservedGroups := ∅
  suspending := ∅
  suspendGuard := ∅
  suspendedGroups := ∅
  suspendedSetups := ∅
  resuming := ∅
  committing := false
  limitedGroups := ∅
  nextLocal := 1
  networkWasConnected := false
  nextRetry := 0

namespace Subscribers

def new : Subscribers := ⟨∅, ∅, ∅, ∅⟩

variable (subscribers : Subscribers)

def attached (issi gssi : Nat) : Bool :=
  (subscribers.subscriberGroups.lookup issi).any (gssi ∈ ·)

def hasListener (gssi : Nat) : Bool := 0 < (subscribers.groupListeners.lookup gssi).getD 0

def incGroupListener (gssi : Nat) : Subscribers :=
  { subscribers with
    groupListeners := subscribers.groupListeners.insert gssi
      ((subscribers.groupListeners.lookup gssi).getD 0 + 1) }

def decGroupListener (gssi : Nat) : Subscribers :=
  match subscribers.groupListeners.lookup gssi with
  | none => subscribers
  | some count =>
    if count ≤ 1 then
      { subscribers with groupListeners := subscribers.groupListeners.erase gssi }
    else { subscribers with groupListeners := subscribers.groupListeners.insert gssi (count - 1) }

/-- The class of usage of an attachment lets the subscriber receive the group. -/
def groupIsReceivable (issi gssi : Nat) : Bool :=
  match subscribers.subscriberGroupCou.lookup (issi, gssi) with
  | none => false
  | some cou =>
    if cou = 6 then true
    else if subscribers.subscriberGroupCou.entries.any fun entry => entry.1.1 = issi && entry.2 = 6 then
      false
    else if cou = 0 || cou = 1 then false
    else if cou = 4 || cou = 7 then true
    else (subscribers.subscriberScanningEnabled.lookup issi).getD true

end Subscribers

namespace CcBs

/-- A cell that has just started. -/
def new (dltime : TdmaTime) (policy : CapacityPolicy) : CcBs where
  dltime
  subscribers := .new
  listeningCandidates := ∅
  activeCalls := ∅
  cachedSetups := ∅
  releasingCalls := []
  pendingRemoteSwmiCalls := ∅
  pendingPreemptiveFloorGrants := ∅
  pendingSwmiSetups := ∅
  centralSetups := ∅
  privateCalls := ∅
  pendingPrivateSetups := ∅
  pendingPrivateReservations := ∅
  privateCircuits := ∅
  releasingPrivateCircuits := []
  circuits := .new dltime
  timeslotAlloc := .default
  capacity := .new policy
  receipts := 0
  queue := []

variable (s : CcBs)

def tell (dest : TetraEntity) (message : CallControl) : CcBs :=
  { s with queue := s.queue ++ [(dest, message)] }

def tellEach (dests : List TetraEntity) (message : CallControl) : CcBs :=
  { s with queue := s.queue ++ dests.map (·, message) }

def hasListener (gssi : Nat) : Bool := s.subscribers.hasListener gssi

def setSubscribers (subscribers : Subscribers) : CcBs := { s with subscribers }

def setRadio (radio : CircuitMgr × TimeslotAllocator) : CcBs :=
  { s with circuits := radio.1, timeslotAlloc := radio.2 }

def signalUmacCircuitOpen (circuit : CmceCircuit) : CcBs :=
  s.tell .umac (.openCircuit circuit.callId circuit.ts circuit.usage)

def signalUmacCircuitClose (circuit : CmceCircuit) : CcBs :=
  s.tell .umac (.closeCircuit circuit.callId circuit.ts)

def signalUmacGroupTrafficAie (callId gssi ts : Nat) : CcBs :=
  s.tell .umac (.configureGroupTrafficAie callId gssi ts)

def releaseTimeslot (ts : Nat) : CcBs :=
  { s with
    timeslotAlloc :=
      match s.timeslotAlloc.release .cmce ts with
      | .ok released => released
      | .error _ => s.timeslotAlloc }

def setActiveCall (callId : Nat) (call : ActiveCall) : CcBs :=
  { s with activeCalls := s.activeCalls.insert callId call }

def deferRemoteCall (callId : Nat) (call : PendingRemoteSwmiCall) : CcBs :=
  { s with pendingRemoteSwmiCalls := s.pendingRemoteSwmiCalls.insert callId call }

def setCandidates (issi : Nat) (candidates : List ListeningCandidate) : CcBs :=
  { s with listeningCandidates := s.listeningCandidates.insert issi candidates }

end CcBs

end Bluestation.Cc
