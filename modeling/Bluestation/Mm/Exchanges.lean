/-
**Exchanges about groups that the cell begins.**

A message that attaches groups and asks for an acknowledgement carries no number. So there is at most
one key association of a terminal at a time; what cannot start yet waits in a queue that every tick
looks through. An amendment of the talkgroups by an operator is an exchange of the same kind.

* `MmBs.groupSecurityExchangeBlocked`, `MmBs.groupSecurityGuardActive` — when an association waits.
* `MmBs.startGroupSecurityAssociationTransaction`, `MmBs.retryGroupSecurityAssociation` — one
  transmission, and what follows a failure.
* `MmBs.completeGroupSecurityAssociationAck`, `MmBs.completeTerminalGroupControl` — acknowledgements.
* `MmBs.updateGroupSecurityAssociationStatuses`, `MmBs.updateTerminalControlStatuses` — every tick.
-/

import Bluestation.Mm.State

namespace Bluestation

namespace MmBs

variable (s : MmBs) (air : MmSurroundings) (issi : Nat)

/-! ### When an association waits -/

def groupSecurityExchangeBlocked : Bool :=
  s.members.subscribers.isRegistrationPending issi ||
    (s.exchanges.pendingGroupSecurityAssociations.lookup issi).isSome ||
    (s.requests.pendingAttachments.values.any fun pending => pending.itsi = issi) ||
    s.requests.pendingLocationAttachments.values.any fun pending => pending.registration.itsi = issi

def groupSecurityGuardActive : Bool :=
  (s.exchanges.groupSecurityNotBefore.lookup issi).any fun notBefore =>
    notBefore.age s.currentTime < 0

def guardGroupSecurity : MmBs :=
  { s with exchanges := { s.exchanges with
      groupSecurityNotBefore := s.exchanges.groupSecurityNotBefore.insert issi
        (s.currentTime.addTimeslots groupSecurityRegistrationGuardTimeslots) } }

def dropGuard : MmBs :=
  { s with exchanges := { s.exchanges with
      groupSecurityNotBefore := s.exchanges.groupSecurityNotBefore.erase issi } }

variable (handle : Nat)

/-- New associations join those that wait already. -/
def enqueueGroupSecurityAssociations (groups : List Nat) (retries : Nat) (exchanges : List Nat) :
    MmBs :=
  if groups.isEmpty then s
  else
    let queued := (s.exchanges.queuedGroupSecurityAssociations.lookup issi).getD ⟨0, [], 0, []⟩
    { s with exchanges := { s.exchanges with
        queuedGroupSecurityAssociations := s.exchanges.queuedGroupSecurityAssociations.insert issi
          { airHandle := if handle ≠ 0 ∨ queued.airHandle = 0 then handle else queued.airHandle
            groups := queued.groups ++ groups
            retries := max queued.retries retries
            exchanges := queued.exchanges ++ exchanges } } }

/-! ### One transmission -/

def associatedGroups (security : GroupSecurityInformation) : List GroupIdentityDownlink :=
  (security.flatMap (·.2)).map fun gssi =>
    .attached gssi ((s.members.clientMgr.clientGroupClassOfUsage issi gssi).getD 0)

/-- Nothing is sent about groups without a key. -/
def startGroupSecurityAssociationTransaction (groups : List Nat) (retries : Nat)
    (exchanges : List Nat) : MmBs :=
  let groups := air.aie.normalizedGroupSecurityGssis groups
  match air.aie.groupSecurityInformation groups with
  | none => s
  | some security =>
    let (sent, receipt) := s.sendWithReceipt issi handle
      (.attachDetachGroupIdentity ⟨s.associatedGroups issi security, some security⟩ exchanges)
    { sent with exchanges := { sent.exchanges with
        pendingGroupSecurityAssociations := sent.exchanges.pendingGroupSecurityAssociations.insert
          issi ⟨handle, groups, receipt, .linkDelivery, none, retries, exchanges⟩ } }

def newExchange : MmBs × Nat :=
  ({ s with exchanges := { s.exchanges with nextExchange := s.exchanges.nextExchange + 1 } },
    s.exchanges.nextExchange)

def sendGroupSecurityAssociationAmendments (groups : List Nat) : MmBs :=
  let groups := air.aie.normalizedGroupSecurityGssis groups
  if groups.isEmpty then s
  else
    let (s, exchange) := s.newExchange
    if s.groupSecurityExchangeBlocked issi || s.groupSecurityGuardActive issi then
      s.enqueueGroupSecurityAssociations issi handle groups 0 [exchange]
    else
      (s.dropGuard issi).startGroupSecurityAssociationTransaction air issi handle groups 0 [exchange]

/-- The queue of a terminal that need not wait any longer. -/
def flushQueued : MmBs :=
  let s := s.dropGuard issi
  match s.exchanges.queuedGroupSecurityAssociations.lookup issi with
  | none => s
  | some queued =>
    { s with exchanges := { s.exchanges with
        queuedGroupSecurityAssociations :=
          s.exchanges.queuedGroupSecurityAssociations.erase issi } }
      |>.startGroupSecurityAssociationTransaction air issi queued.airHandle queued.groups
        queued.retries queued.exchanges

variable (order : List Nat)

/-- Who is ready is decided before anything starts. -/
def flushQueuedGroupSecurityAssociations : MmBs :=
  let ready := (s.exchanges.queuedGroupSecurityAssociations.rearrange order).keys.filter fun issi =>
    !s.groupSecurityExchangeBlocked issi && !s.groupSecurityGuardActive issi
  ready.foldl (fun s issi => s.flushQueued air issi) s

/-- After the third transmission nothing more is tried. -/
def retryGroupSecurityAssociation (pending : PendingGroupSecurityAssociation) (groups : List Nat) :
    MmBs :=
  let retries := min (pending.retries + 1) (2 ^ 8 - 1)
  if pending.retries ≥ maxGroupSecurityRetries then s
  else if s.groupSecurityExchangeBlocked issi || s.groupSecurityGuardActive issi then
    s.enqueueGroupSecurityAssociations issi pending.airHandle groups retries pending.exchanges
  else
    s.startGroupSecurityAssociationTransaction air issi pending.airHandle groups retries
      pending.exchanges

/-! ### Every tick -/

def removePendingGroupSecurityAssociation : MmBs :=
  { s with exchanges := { s.exchanges with
      pendingGroupSecurityAssociations := s.exchanges.pendingGroupSecurityAssociations.erase issi } }

/-- Whether a transmission has failed, by its receipt or because its time has passed. -/
def groupSecurityFailed (pending : PendingGroupSecurityAssociation) : Bool :=
  match pending.phase with
  | .linkDelivery => s.receiptState pending.receipt = .discarded ∨ s.receiptState pending.receipt = .lost
  | .awaitingMmAcknowledgement =>
    pending.acknowledgementDeadline.any fun deadline => 0 ≤ deadline.age s.currentTime

/-- A message that has arrived waits for its acknowledgement. -/
def groupSecurityDelivered (pending : PendingGroupSecurityAssociation) :
    PendingGroupSecurityAssociation :=
  if pending.phase = .linkDelivery ∧ s.receiptState pending.receipt = .acknowledged then
    { pending with
      phase := .awaitingMmAcknowledgement
      acknowledgementDeadline := some (s.currentTime.addTimeslots groupSecurityAckTimeoutTimeslots) }
  else pending

def retryFailed : MmBs :=
  match s.exchanges.pendingGroupSecurityAssociations.lookup issi with
  | none => s
  | some pending =>
    (s.removePendingGroupSecurityAssociation issi).retryGroupSecurityAssociation air issi pending
      pending.groups

def updateGroupSecurityAssociationStatuses (failedOrder flushOrder : List Nat) : MmBs :=
  let failures :=
    ((s.exchanges.pendingGroupSecurityAssociations.rearrange failedOrder).entries.filter
      fun entry => s.groupSecurityFailed entry.2).map (·.1)
  let s := { s with exchanges := { s.exchanges with
    pendingGroupSecurityAssociations :=
      s.exchanges.pendingGroupSecurityAssociations.mapValues s.groupSecurityDelivered } }
  (failures.foldl (fun s issi => s.retryFailed air issi) s).flushQueuedGroupSecurityAssociations air
    flushOrder

/-! ### Acknowledgements of key associations -/

def strayReturn (offered : List Nat) (returned : GroupIdentityUplink) : Bool :=
  !returned.gssi.any offered.contains

/-- The offered groups that an acknowledgement rejects. -/
def rejectedGroups (offered : List Nat) (pdu : Affiliations.Acknowledgement) : List Nat :=
  sortedDistinct (pdu.groupIdentityUplink.filterMap fun returned =>
    returned.gssi.filter fun gssi =>
      offered.contains gssi && returned.groupIdentityDetachmentUplink.isSome)

/-- Whether it cannot be told what the terminal kept. -/
def ambiguousAck (offered : List Nat) (pdu : Affiliations.Acknowledgement) : Bool :=
  pdu.groupIdentityUplink.any (strayReturn offered) ||
    (!pdu.groupIdentityAcknowledgementType && !(rejectedGroups offered pdu).isEmpty) ||
    (pdu.groupIdentityAcknowledgementType && (rejectedGroups offered pdu).isEmpty)

def completeGroupSecurityAssociationAck (pdu : Affiliations.Acknowledgement) : MmBs :=
  match s.exchanges.pendingGroupSecurityAssociations.lookup issi with
  | none => s
  | some pending =>
    let s := s.removePendingGroupSecurityAssociation issi
    let s := { s with members := s.members.updateClasses issi pending.groups pdu }
    let rejected := rejectedGroups pending.groups pdu
    let s :=
      if ambiguousAck pending.groups pdu then
        s.retryGroupSecurityAssociation air issi pending pending.groups
      else if !rejected.isEmpty then s.retryGroupSecurityAssociation air issi pending rejected
      else s
    s.flushQueuedGroupSecurityAssociations air order

/-- A registration takes over the groups of the exchanges that it interrupts. -/
def cancelGroupSecurityAssociationForRegistration : MmBs × List Nat :=
  let pending := (s.exchanges.pendingGroupSecurityAssociations.lookup issi).elim [] (·.groups)
  let queued := (s.exchanges.queuedGroupSecurityAssociations.lookup issi).elim [] (·.groups)
  ({ s with exchanges := { s.exchanges with
      pendingGroupSecurityAssociations := s.exchanges.pendingGroupSecurityAssociations.erase issi
      queuedGroupSecurityAssociations := s.exchanges.queuedGroupSecurityAssociations.erase issi
      groupSecurityNotBefore := s.exchanges.groupSecurityNotBefore.erase issi } },
    sortedDistinct (pending ++ queued))

/-- Associations of the groups of a terminal whose keys it has just accepted. -/
def sendGroupSecurityAssociationRefresh (acceptedGckns : List (BitVec 16)) : MmBs :=
  let groups := (s.members.clientMgr.clientGroups issi).keys.filter fun gssi =>
    ((air.aie.sc3.bind fun sc3 => sc3.groupAssociations.lookup gssi).any acceptedGckns.contains)
  s.sendGroupSecurityAssociationAmendments air issi handle groups

/-! ### Controls of a terminal -/

def submitTerminalControlResult (commandId : Nat) (action : TerminalControlAction) (success : Bool)
    (cause : Nat) (results : List AttachmentResult) : MmBs :=
  s.submit (.terminalControlResult commandId issi action success cause results)

def removePendingTerminalControl : MmBs :=
  { s with exchanges := { s.exchanges with
      pendingTerminalControls := s.exchanges.pendingTerminalControls.erase issi } }

def insertPendingTerminalControl (pending : PendingTerminalControl) : MmBs :=
  { s with exchanges := { s.exchanges with
      pendingTerminalControls := s.exchanges.pendingTerminalControls.insert issi pending } }

def finishTerminalControl (success : Bool) (cause : Nat) : MmBs :=
  match s.exchanges.pendingTerminalControls.lookup issi with
  | none => s
  | some pending =>
    (s.removePendingTerminalControl issi).submitTerminalControlResult issi pending.commandId
      pending.action success cause []

def controlIs (actions : TerminalControlAction → Bool) : Bool :=
  (s.exchanges.pendingTerminalControls.lookup issi).any fun pending => actions pending.action

/-- A replacement becomes the difference to what the terminal has; attachments stand first. -/
def terminalGroupDiff (action : TerminalControlAction) (requested : List AttachmentOperation) :
    List AttachmentOperation :=
  if action = .amendTalkgroups then requested
  else
    let current := s.members.clientMgr.clientGroups issi
    let desired := Affiliations.desiredGroups requested
    let stale := current.keys.filter fun gssi => (desired.lookup gssi).isNone
    let changed := desired.entries.filter fun entry => current.lookup entry.1 ≠ some entry.2
    (changed.map fun entry => (⟨entry.1, false, entry.2⟩ : AttachmentOperation)).insertionSort
        (fun first second => first.gssi ≤ second.gssi) ++
      (stale.insertionSort (· ≤ ·)).map fun gssi => ⟨gssi, true, 0⟩

/-- The groups of an amendment; a detachment is a temporary one. -/
def amendedGroups (operations : List AttachmentOperation) : List GroupIdentityDownlink :=
  operations.map fun operation =>
    if operation.detach then .detached operation.gssi 1
    else .attached operation.gssi operation.classOfUsage

def startTerminalGroupControl (commandId : Nat) (action : TerminalControlAction)
    (requested : List AttachmentOperation) : MmBs :=
  let operations := s.terminalGroupDiff issi action requested
  if operations.isEmpty then s.submitTerminalControlResult issi commandId action true 0 []
  else
    let (s, exchange) := s.newExchange
    let security := air.aie.groupSecurityInformation
      ((operations.filter fun operation => !operation.detach).map (·.gssi))
    let (s, receipt) := s.sendWithReceipt issi 0
      (.attachDetachGroupIdentity ⟨amendedGroups operations, security⟩ [exchange])
    s.insertPendingTerminalControl issi
      ⟨commandId, action, operations, some receipt, none, some exchange⟩

/-- Only registered terminals are controlled, each by one command at a time. -/
def handleTerminalControl (commandId itsi : Nat) (action : TerminalControlAction)
    (operations : List AttachmentOperation) : MmBs :=
  if 2 ^ 32 ≤ itsi then s
  else
    let s := if action = .disconnect then s.finishTerminalControl itsi false 6 else s
    if !s.members.subscribers.isRegistered itsi then
      s.submitTerminalControlResult itsi commandId action false 2 []
    else if (s.exchanges.pendingTerminalControls.lookup itsi).isSome then
      s.submitTerminalControlResult itsi commandId action false 5 []
    else if action.isGroupControl then
      s.startTerminalGroupControl air itsi commandId action operations
    else
      let deadline := s.currentTime.addTimeslots terminalControlTimeoutTimeslots
      (s.insertPendingTerminalControl itsi
        ⟨commandId, action, operations, none, some deadline, none⟩).sendDLocationUpdateCommand
          itsi 0 false

def completeTerminalGroupControl (pdu : Affiliations.Acknowledgement) : MmBs :=
  match s.exchanges.pendingTerminalControls.lookup issi with
  | none => s
  | some pending =>
    let s := s.removePendingTerminalControl issi
    let (members, results) := s.members.amendTalkgroups issi pdu pending.operations
    let success := results.all (·.accepted)
    ({ s with members } : MmBs).submitTerminalControlResult issi pending.commandId pending.action
      success (!success).toNat results

/-- An acknowledgement goes to an amendment of the talkgroups first. -/
def rxUAttachDetachGroupIdentityAcknowledgement (pdu : Affiliations.Acknowledgement) : MmBs :=
  if s.controlIs issi (·.isGroupControl) then s.completeTerminalGroupControl issi pdu
  else s.completeGroupSecurityAssociationAck air issi order pdu

/-- Why a control has failed: its message was not delivered, or its time has passed. -/
def terminalControlFailure (pending : PendingTerminalControl) : Option Nat :=
  if pending.receipt.any fun receipt =>
      s.receiptState receipt = .discarded ∨ s.receiptState receipt = .lost then
    some terminalControlCauseRadioLinkFailed
  else if pending.responseDeadline.any fun deadline => 0 ≤ deadline.age s.currentTime then
    some terminalControlCauseResponseTimeout
  else none

/-- The time for an answer begins when the message has arrived. -/
def terminalControlDelivered (pending : PendingTerminalControl) : PendingTerminalControl :=
  if (pending.receipt.any fun receipt => s.receiptState receipt = .acknowledged) ∧
      pending.responseDeadline = none then
    { pending with
      responseDeadline := some (s.currentTime.addTimeslots terminalControlTimeoutTimeslots) }
  else pending

def updateTerminalControlStatuses : MmBs :=
  let s := { s with exchanges := { s.exchanges with
    pendingTerminalControls := s.exchanges.pendingTerminalControls.mapValues
      s.terminalControlDelivered } }
  let failed := (s.exchanges.pendingTerminalControls.rearrange order).entries.filterMap fun entry =>
    (s.terminalControlFailure entry.2).map (entry.1, ·)
  failed.foldl (fun s failure => s.finishTerminalControl failure.1 false failure.2) s

end MmBs

end Bluestation
