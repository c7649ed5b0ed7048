/-
**Who is registered at the cell, and in which groups.**

Mobility management keeps the groups of every terminal with their class of usage; the registry that
all layers share keeps the groups again, and the set of all groups that somebody is in. Call control
keeps a third copy, from the messages that mobility management sends it.

* `SubscriberRegistry` — the shared registry.
* `Affiliations` — the first two copies, and the messages for the third.
* `Affiliations.tryAttachDetachGroups`, `Affiliations.applySwmiAttachmentState`,
  `Affiliations.reconcile`, `Affiliations.amendTalkgroups`, `Affiliations.updateClasses` — what changes
  the groups of a terminal.
* `CmceSubscribers.handleSubscriberUpdate` — the third copy.

Energy economy, common control channels and telemetry are left out.
-/

import Bluestation.Lib.Table
import Bluestation.Lib.Amending

namespace Bluestation

/-! ### Operations on groups -/

structure AttachmentOperation where
  gssi : Nat
  detach : Bool
  classOfUsage : Nat

structure AttachmentResult where
  operation : AttachmentOperation
  accepted : Bool
  cause : Nat

/-- A group in a message of a terminal. -/
structure GroupIdentityUplink where
  classOfUsage : Option Nat
  groupIdentityDetachmentUplink : Option Nat
  gssi : Option Nat
  addressExtension : Option Nat
  vgssi : Option Nat

structure GroupIdentityAttachment where
  groupIdentityAttachmentLifetime : Nat
  classOfUsage : Nat

/-- A group in a message to a terminal. -/
structure GroupIdentityDownlink where
  groupIdentityAttachment : Option GroupIdentityAttachment
  groupIdentityDetachmentUplink : Option Nat
  gssi : Option Nat

namespace GroupIdentityDownlink

/-- The group is attached; it is to be attached again after the next ITSI attach. -/
def attached (gssi classOfUsage : Nat) : GroupIdentityDownlink := ⟨some ⟨1, classOfUsage⟩, none, some gssi⟩

def detached (gssi reason : Nat) : GroupIdentityDownlink := ⟨none, some reason, some gssi⟩

end GroupIdentityDownlink

/-! ### The client manager -/

inductive MmClientState where
  | unknown | attached | detached

structure MmClientProperties where
  state : MmClientState
  /-- The attached groups and their class of usage. -/
  groups : Table Nat
  scanningEnabled : Bool

abbrev MmClientMgr := Table MmClientProperties

/-- Every number may be that of a terminal: a stub of the program. -/
def isIndividual (_issi : Nat) : Bool := true

namespace MmClientMgr

variable (clients : MmClientMgr) (issi : Nat)

def clientIsKnown : Bool := (clients.lookup issi).isSome

/-- The groups of a client; no client has none. -/
def clientGroups : Table Nat := ((clients.lookup issi).map (·.groups)).getD ∅

def clientGroupClassOfUsage (gssi : Nat) : Option Nat := (clients.clientGroups issi).lookup gssi

def tryRegisterClient (attached : Bool) : Option MmClientMgr :=
  if isIndividual issi then
    some (clients.insert issi ⟨if attached then .attached else .unknown, ∅, true⟩)
  else none

def setClientState (state : MmClientState) : Option MmClientMgr :=
  (clients.lookup issi).map fun client => clients.insert issi { client with state }

def setClientScanningEnabled (scanningEnabled : Bool) : Option MmClientMgr :=
  (clients.lookup issi).map fun client => clients.insert issi { client with scanningEnabled }

def clientDetachAllGroups : Option MmClientMgr :=
  (clients.lookup issi).map fun client => clients.insert issi { client with groups := ∅ }

/-- Attach or detach a group; the flag says whether something changed. -/
def clientGroupAttachWithClassOfUsage (gssi : Nat) (doAttach : Bool) (classOfUsage : Nat) :
    Option (MmClientMgr × Bool) :=
  (clients.lookup issi).map fun client =>
    if doAttach then
      (clients.insert issi { client with groups := client.groups.insert gssi classOfUsage },
        client.groups.lookup gssi ≠ some classOfUsage)
    else
      (clients.insert issi { client with groups := client.groups.erase gssi },
        (client.groups.lookup gssi).isSome)

end MmClientMgr

/-! ### The shared registry -/

structure Subscriber where
  registrationGeneration : Option Nat
  attachedGroups : Finset Nat
  scanningEnabled : Bool
  ruaAssigned : Option Bool

def Subscriber.fresh : Subscriber := ⟨none, ∅, true, none⟩

structure SubscriberRegistry where
  subscribers : Table Subscriber
  activeSubscribers : Finset Nat
  /-- Registrations whose acceptance has not been delivered. -/
  pendingRegistrationDeliveries : Finset Nat
  registrationDeliveryFailures : Nat
  /-- All groups that somebody is in. -/
  allAttachedGroups : Finset Nat

namespace SubscriberRegistry

def new : SubscriberRegistry := ⟨∅, ∅, ∅, 0, ∅⟩

variable (r : SubscriberRegistry) (issi : Nat)

def isRegistered : Bool := (r.subscribers.lookup issi).isSome

def isActive : Bool := issi ∈ r.activeSubscribers

def isRegistrationPending : Bool := issi ∈ r.pendingRegistrationDeliveries

def markActive : SubscriberRegistry :=
  { r with
    activeSubscribers := insert issi r.activeSubscribers
    pendingRegistrationDeliveries := r.pendingRegistrationDeliveries.erase issi }

def markInactive : SubscriberRegistry :=
  { r with
    activeSubscribers := r.activeSubscribers.erase issi
    pendingRegistrationDeliveries := r.pendingRegistrationDeliveries.erase issi }

def setRegistrationDeliveryPending (pending : Bool) : SubscriberRegistry :=
  if pending then
    { r with
      pendingRegistrationDeliveries := insert issi r.pendingRegistrationDeliveries
      activeSubscribers := r.activeSubscribers.erase issi }
  else { r with pendingRegistrationDeliveries := r.pendingRegistrationDeliveries.erase issi }

def noteRegistrationDeliveryFailure : SubscriberRegistry :=
  { r with registrationDeliveryFailures := min (r.registrationDeliveryFailures + 1) (2 ^ 16 - 1) }

def hasMembers (subscribers : Table Subscriber) (gssi : Nat) : Bool :=
  subscribers.values.any fun subscriber => gssi ∈ subscriber.attachedGroups

/-- The subscriber is gone, and with it the groups that nobody else is in. -/
def deregister : SubscriberRegistry :=
  let r := r.markInactive issi
  match r.subscribers.lookup issi with
  | none => r
  | some subscriber =>
    let subscribers := r.subscribers.erase issi
    { r with
      subscribers
      allAttachedGroups := r.allAttachedGroups.filter fun gssi =>
        gssi ∈ subscriber.attachedGroups → hasMembers subscribers gssi = true }

def register : SubscriberRegistry :=
  let r := r.deregister issi
  { r with subscribers := r.subscribers.insert issi .fresh }

/-- The subscriber; a fresh one if there is none. -/
def getSubscriber : Subscriber := (r.subscribers.lookup issi).getD .fresh

def setSubscriber (subscriber : Subscriber) : SubscriberRegistry :=
  { r with subscribers := r.subscribers.insert issi subscriber }

def setRegistrationGeneration (generation : Nat) : SubscriberRegistry :=
  r.setSubscriber issi { r.getSubscriber issi with registrationGeneration := some generation }

def affiliate (gssi : Nat) : SubscriberRegistry :=
  let subscriber := r.getSubscriber issi
  { r.setSubscriber issi { subscriber with attachedGroups := insert gssi subscriber.attachedGroups }
    with allAttachedGroups := insert gssi r.allAttachedGroups }

def deaffiliate (gssi : Nat) : SubscriberRegistry :=
  let subscriber := r.getSubscriber issi
  let r := r.setSubscriber issi
    { subscriber with attachedGroups := subscriber.attachedGroups.erase gssi }
  if gssi ∈ subscriber.attachedGroups ∧ hasMembers r.subscribers gssi = false then
    { r with allAttachedGroups := r.allAttachedGroups.erase gssi }
  else r

def setScanningEnabled (scanningEnabled : Bool) : SubscriberRegistry :=
  { r with subscribers := r.subscribers.modify issi ({ · with scanningEnabled }) }

def setRuaAssignmentState (ruaAssigned : Option Bool) : SubscriberRegistry :=
  { r with subscribers := r.subscribers.modify issi ({ · with ruaAssigned }) }

def ruaAssignmentState : Option Bool := (r.subscribers.lookup issi).bind (·.ruaAssigned)

/-- The groups of a subscriber; no subscriber has none. -/
def attachedGroups : Finset Nat := (r.getSubscriber issi).attachedGroups

end SubscriberRegistry

/-! ### Messages to call control -/

inductive BrewSubscriberAction where
  | register | deregister | affiliate | deaffiliate | scanningState

structure MmSubscriberUpdate where
  issi : Nat
  groups : List Nat
  action : BrewSubscriberAction
  /-- Parallel to the groups. -/
  classOfUsage : List Nat
  scanningEnabled : Option Bool

/-- Two copies of the memberships, and all messages about them that went to call control. -/
structure Affiliations where
  clientMgr : MmClientMgr
  subscribers : SubscriberRegistry
  updates : List MmSubscriberUpdate

namespace Affiliations

def new : Affiliations := ⟨∅, .new, []⟩

variable (m : Affiliations) (issi : Nat)

def push (update : MmSubscriberUpdate) : Affiliations := { m with updates := m.updates ++ [update] }

/-- Classes are those of the moment at which the message is sent. -/
def emitSubscriberUpdate (groups : List Nat) (action : BrewSubscriberAction) : Affiliations :=
  m.push ⟨issi, groups, action,
    groups.map fun gssi => (m.clientMgr.clientGroupClassOfUsage issi gssi).getD 0, none⟩

def emitGroups (groups : List Nat) (action : BrewSubscriberAction) : Affiliations :=
  if groups.isEmpty then m else m.emitSubscriberUpdate issi groups action

def tryRegister : Option Affiliations :=
  (m.clientMgr.tryRegisterClient issi true).map fun clientMgr =>
    ({ m with clientMgr, subscribers := m.subscribers.register issi }
      : Affiliations).emitSubscriberUpdate issi [] .register

def setClientState (state : MmClientState) : Option Affiliations :=
  (m.clientMgr.setClientState issi state).map fun clientMgr => { m with clientMgr }

/-- A client that is not known is registered, one that is known is attached. -/
def registerOrAttach : Option Affiliations :=
  if m.clientMgr.clientIsKnown issi then m.setClientState issi .attached else m.tryRegister issi

def deaffiliateAll (groups : List Nat) : Affiliations :=
  { m with subscribers := groups.foldl (fun r gssi => r.deaffiliate issi gssi) m.subscribers }

/-- The first half of a replacement: a known client leaves all its groups. -/
def detachAllGroups : Option Affiliations :=
  let priorGroups := (m.clientMgr.clientGroups issi).keys
  (m.clientMgr.clientDetachAllGroups issi).map fun clientMgr =>
    (({ m with clientMgr } : Affiliations).deaffiliateAll issi priorGroups).emitGroups issi priorGroups
      .deaffiliate

end Affiliations

/-! ### Lists of operations -/

/-- What a list of operations has done so far. -/
structure Amended where
  members : Affiliations
  affiliated : List Nat
  deaffiliated : List Nat

namespace Amended

variable (a : Amended) (issi : Nat)

/-- One operation. The registry follows what changed in the client manager, or everything. -/
def attachDetach (everything : Bool) (operation : AttachmentOperation) : Option Amended :=
  (a.members.clientMgr.clientGroupAttachWithClassOfUsage issi operation.gssi (!operation.detach)
      operation.classOfUsage).map fun (clientMgr, changed) =>
    let members := { a.members with clientMgr }
    if everything || changed then
      if operation.detach then
        { a with
          members :=
            { members with subscribers := members.subscribers.deaffiliate issi operation.gssi }
          deaffiliated := a.deaffiliated ++ [operation.gssi] }
      else
        { a with
          members :=
            { members with subscribers := members.subscribers.affiliate issi operation.gssi }
          affiliated := a.affiliated ++ [operation.gssi] }
    else { a with members }

def emit : Affiliations :=
  (a.members.emitGroups issi a.affiliated .affiliate).emitGroups issi a.deaffiliated .deaffiliate

end Amended

namespace GroupIdentityUplink

/-- The operation that an element with a plain group number asks for. -/
def operation (giu : GroupIdentityUplink) : Option AttachmentOperation :=
  match giu.gssi, giu.vgssi, giu.addressExtension with
  | some gssi, none, none =>
    some ⟨gssi, giu.groupIdentityDetachmentUplink.isSome, giu.classOfUsage.getD 0⟩
  | _, _, _ => none

def requested (giu : GroupIdentityUplink) : Option AttachmentOperation :=
  giu.gssi.map fun gssi =>
    ⟨gssi, giu.groupIdentityDetachmentUplink.isSome, giu.classOfUsage.getD 0⟩

end GroupIdentityUplink

/-- A request of a terminal about its groups, as the network decides on it. -/
structure PendingAttachment where
  itsi : Nat
  airHandle : Nat
  replaceAll : Bool
  operations : List GroupIdentityUplink

namespace Affiliations

variable (m : Affiliations) (issi : Nat)

/-- One element of a request that the cell decides on by itself. -/
def tryAttachDetachGroup (state : Amended × List GroupIdentityDownlink) (giu : GroupIdentityUplink) :
    Amended × List GroupIdentityDownlink :=
  match giu.operation with
  | none => state
  | some operation =>
    match state.1.attachDetach issi false operation with
    | none => state
    | some amended =>
      (amended, state.2 ++ [if operation.detach then
        ⟨none, giu.groupIdentityDetachmentUplink, some operation.gssi⟩
        else .attached operation.gssi operation.classOfUsage])

def tryAttachDetachGroups (giuVec : List GroupIdentityUplink) :
    Affiliations × List GroupIdentityDownlink :=
  let done := giuVec.foldl (tryAttachDetachGroup issi) (⟨m, [], []⟩, [])
  (done.1.emit issi, done.2)

/-- A decision of the network on a request, so far. -/
structure Deciding where
  amended : Amended
  hadRejection : Bool
  responseGroups : List GroupIdentityDownlink
  securityGroups : List Nat

/-- One result. A rejected attachment is answered as a detachment, and a rejected detachment as an
attachment; an accepted operation is repeated only if the network changed the class. -/
def Deciding.result (d : Deciding) (decided : AttachmentResult × GroupIdentityUplink) : Deciding :=
  let operation := decided.1.operation
  if !decided.1.accepted then
    if operation.detach then
      { d with
        hadRejection := true
        responseGroups := d.responseGroups ++ [.attached operation.gssi
          ((d.amended.members.clientMgr.clientGroupClassOfUsage issi operation.gssi).getD 0)]
        securityGroups := d.securityGroups ++ [operation.gssi] }
    else
      { d with
        hadRejection := true
        responseGroups := d.responseGroups ++ [.detached operation.gssi 0] }
  else
    let changed := (d.amended.members.clientMgr.clientGroupAttachWithClassOfUsage issi
      operation.gssi (!operation.detach) operation.classOfUsage).any (·.2)
    match d.amended.attachDetach issi false operation with
    | none => { d with hadRejection := true }
    | some amended =>
      if operation.detach then { d with amended }
      else
        { d with
          amended
          securityGroups := d.securityGroups ++ [operation.gssi]
          responseGroups :=
            if changed ∧ decided.2.classOfUsage ≠ some operation.classOfUsage then
              d.responseGroups ++ [.attached operation.gssi operation.classOfUsage]
            else d.responseGroups }

/-- A replacement begins with leaving all groups; a client that is not known leaves none. -/
def replaceAll (replaces : Bool) : Affiliations :=
  if replaces then (m.detachAllGroups issi).getD m else m

/-- **A decision of the network on a request.** -/
def applySwmiAttachmentState (hasRejection : Bool) (pending : PendingAttachment)
    (results : List AttachmentResult) :
    Affiliations × Bool × List GroupIdentityDownlink × List Nat :=
  let m := m.replaceAll pending.itsi pending.replaceAll
  let done := (results.zip pending.operations).foldl (Deciding.result pending.itsi)
    ⟨⟨m, [], []⟩, hasRejection, [], []⟩
  (done.amended.emit pending.itsi, done.hadRejection, done.responseGroups, done.securityGroups)

/-! ### The memberships that the network knows -/

/-- The groups that the network wants; the last entry of a group counts. -/
def desiredGroups (groups : List AttachmentOperation) : Table Nat :=
  (groups.filter fun group => !group.detach).foldl
    (fun desired group => desired.insert group.gssi group.classOfUsage) ∅

def detachStale (gssi : Nat) : Affiliations :=
  match m.clientMgr.clientGroupAttachWithClassOfUsage issi gssi false 0 with
  | none => m
  | some (clientMgr, _) =>
    { m with clientMgr, subscribers := m.subscribers.deaffiliate issi gssi }

/-- A group that the network knows is joined, or its class is set. -/
def restore (oldGroups : Table Nat) (state : Affiliations × List Nat × List Nat)
    (desired : Nat × Nat) : Affiliations × List Nat × List Nat :=
  if oldGroups.lookup desired.1 = some desired.2 then state
  else
    match state.1.clientMgr.clientGroupAttachWithClassOfUsage issi desired.1 true desired.2 with
    | none => state
    | some (clientMgr, _) =>
      if (oldGroups.lookup desired.1).isSome then
        ({ state.1 with clientMgr }, state.2.1, state.2.2 ++ [desired.1])
      else
        ({ state.1 with
            clientMgr, subscribers := state.1.subscribers.affiliate issi desired.1 },
          state.2.1 ++ [desired.1], state.2.2)

/-- Scanning of a client that is known. -/
def syncScanning (scanningEnabled : Bool) : Affiliations :=
  if (m.clientMgr.lookup issi).map (·.scanningEnabled) = some scanningEnabled then m
  else
    match m.clientMgr.setClientScanningEnabled issi scanningEnabled with
    | none => m
    | some clientMgr =>
      ({ m with clientMgr, subscribers := m.subscribers.setScanningEnabled issi scanningEnabled }
        : Affiliations).push ⟨issi, [], .scanningState, [], some scanningEnabled⟩

/-- The groups of a known client become those that the network wants. -/
def reconcileGroups (groups : List AttachmentOperation) : Affiliations :=
  let oldGroups := m.clientMgr.clientGroups issi
  let desired := desiredGroups groups
  let detached := (oldGroups.keys.filter fun gssi => (desired.lookup gssi).isNone).mergeSort
  let m := (detached.foldl (fun m gssi => m.detachStale issi gssi) m).emitGroups issi detached
    .deaffiliate
  let wanted := (desired.entries.map fun entry => (entry.1, entry.2)).mergeSort
    fun first second => first.1 ≤ second.1
  let done := wanted.foldl (restore issi oldGroups) (m, [], [])
  (done.1.emitGroups issi done.2.1 .affiliate).emitGroups issi done.2.2 .affiliate

/-- **The memberships of a terminal become those that the network knows.** -/
def reconcile (groups : List AttachmentOperation) (scanningEnabled : Bool) : Affiliations :=
  (m.reconcileGroups issi groups).syncScanning issi scanningEnabled

/-! ### What a terminal acknowledges -/

/-- The answer of a terminal to a change of its groups by the network. -/
structure Acknowledgement where
  /-- Set if something was rejected. -/
  groupIdentityAcknowledgementType : Bool
  groupIdentityUplink : List GroupIdentityUplink

namespace Acknowledgement

def last (pairs : List (Nat × Nat)) (key : Nat) : Option Nat :=
  (pairs.reverse.find? fun pair => pair.1 = key).map (·.2)

variable (pdu : Acknowledgement)

def rejected (gssi : Nat) : Option Nat :=
  if pdu.groupIdentityAcknowledgementType then
    last (pdu.groupIdentityUplink.filterMap fun group =>
      group.gssi.bind fun gssi => group.groupIdentityDetachmentUplink.map (gssi, ·)) gssi
  else none

def returnedClass (gssi : Nat) : Option Nat :=
  last (pdu.groupIdentityUplink.filterMap fun group =>
    group.gssi.bind fun gssi => group.classOfUsage.map (gssi, ·)) gssi

def carriedOut (operation : AttachmentOperation) : AttachmentOperation :=
  if operation.detach then operation
  else { operation with classOfUsage := (pdu.returnedClass operation.gssi).getD operation.classOfUsage }

end Acknowledgement

/-- One operation of an amendment. -/
def amendTalkgroup (pdu : Acknowledgement) (state : Amended × List AttachmentResult)
    (operation : AttachmentOperation) : Amended × List AttachmentResult :=
  match pdu.rejected operation.gssi with
  | some cause => (state.1, state.2 ++ [⟨operation, false, cause⟩])
  | none =>
    let operation := pdu.carriedOut operation
    match state.1.attachDetach issi true operation with
    | none => (state.1, state.2 ++ [⟨operation, false, 3⟩])
    | some amended => (amended, state.2 ++ [⟨operation, true, 0⟩])

/-- **A terminal acknowledges an amendment of its groups.** -/
def amendTalkgroups (pdu : Acknowledgement) (operations : List AttachmentOperation) :
    Affiliations × List AttachmentResult :=
  let done := operations.foldl (amendTalkgroup issi pdu) (⟨m, [], []⟩, [])
  (done.1.emit issi, done.2)

/-- One returned group; only the client manager follows. -/
def updateClass (offered : List Nat) (state : MmClientMgr × List (Nat × Nat))
    (returned : GroupIdentityUplink) : MmClientMgr × List (Nat × Nat) :=
  match returned.gssi, returned.groupIdentityDetachmentUplink, returned.classOfUsage with
  | some gssi, none, some classOfUsage =>
    if offered.contains gssi then
      match state.1.clientGroupAttachWithClassOfUsage issi gssi true classOfUsage with
      | some (clientMgr, true) => (clientMgr, state.2 ++ [(gssi, classOfUsage)])
      | some (clientMgr, false) => (clientMgr, state.2)
      | none => state
    else state
  | _, _, _ => state

/-- **A terminal acknowledges key associations**, and names the classes that it uses. -/
def updateClasses (offered : List Nat) (pdu : Acknowledgement) : Affiliations :=
  let done := pdu.groupIdentityUplink.foldl (updateClass issi offered) (m.clientMgr, [])
  let m := { m with clientMgr := done.1 }
  if done.2.isEmpty then m
  else m.push ⟨issi, done.2.map (·.1), .affiliate, done.2.map (·.2), none⟩

/-! ### Removal -/

/-- A terminal is gone from both copies. -/
def removeSubscriber : Affiliations :=
  let removed := { m with
    clientMgr := m.clientMgr.erase issi
    subscribers := m.subscribers.deregister issi }
  match m.clientMgr.lookup issi with
  | none => removed
  | some client =>
    (removed.emitGroups issi client.groups.keys .deaffiliate).emitSubscriberUpdate issi []
      .deregister

end Affiliations

/-! ### The copy of call control -/

structure CmceSubscribers where
  subscriberGroups : Nat → Option (Finset Nat)
  subscriberGroupCou : Nat → Nat → Option Nat
  subscriberScanningEnabled : Nat → Option Bool

namespace CmceSubscribers

def new : CmceSubscribers := ⟨fun _ => none, fun _ _ => none, fun _ => none⟩

variable (c : CmceSubscribers) (issi : Nat)

def groups : Finset Nat := (c.subscriberGroups issi).getD ∅

/-- Groups and their classes; a class that is missing is 0. -/
def affiliate (c : CmceSubscribers) (issi : Nat) : List Nat → List Nat → CmceSubscribers
  | [], _ => { c with
      subscriberGroups := Function.update c.subscriberGroups issi (some (c.groups issi)) }
  | gssi :: groups, classes =>
    affiliate
      { c with
        subscriberGroups :=
          Function.update c.subscriberGroups issi (some (insert gssi (c.groups issi)))
        subscriberGroupCou := Function.update c.subscriberGroupCou issi
          (Function.update (c.subscriberGroupCou issi) gssi (some (classes.headD 0))) }
      issi groups classes.tail

/-- Nothing is taken from a terminal that is not known. -/
def deaffiliate (removed : List Nat) : CmceSubscribers :=
  match c.subscriberGroups issi with
  | none => c
  | some groups =>
    { c with
      subscriberGroups :=
        Function.update c.subscriberGroups issi (some (groups.filter (· ∉ removed)))
      subscriberGroupCou := Function.update c.subscriberGroupCou issi fun gssi =>
        if gssi ∈ removed then none else c.subscriberGroupCou issi gssi }

/-- **One message of mobility management**; the calls that it ends or begins are left out. -/
def handleSubscriberUpdate (update : MmSubscriberUpdate) : CmceSubscribers :=
  match update.action with
  | .register =>
    { c with
      subscriberGroups :=
        Function.update c.subscriberGroups update.issi (some (c.groups update.issi))
      subscriberScanningEnabled := Function.update c.subscriberScanningEnabled update.issi
        (some ((c.subscriberScanningEnabled update.issi).getD true)) }
  | .deregister =>
    { subscriberGroups := Function.update c.subscriberGroups update.issi none
      subscriberGroupCou := Function.update c.subscriberGroupCou update.issi fun _ => none
      subscriberScanningEnabled := Function.update c.subscriberScanningEnabled update.issi none }
  | .affiliate => c.affiliate update.issi update.groups update.classOfUsage
  | .deaffiliate => c.deaffiliate update.issi update.groups
  | .scanningState =>
    match update.scanningEnabled with
    | none => c
    | some enabled =>
      { c with subscriberScanningEnabled :=
          Function.update c.subscriberScanningEnabled update.issi (some enabled) }

end CmceSubscribers

def Affiliations.cmce (m : Affiliations) : CmceSubscribers :=
  m.updates.foldl .handleSubscriberUpdate .new

end Bluestation
