/-
**Location updates, attachments and removal.**

The network decides on registrations while it is there; otherwise the cell decides by itself. A
registration that carries groups is decided in two steps, and is answered after the second.

* `MmBs.rxULocationUpdateDemand`, `MmBs.rxUAttachDetachGroupIdentity`, `MmBs.rxUItsiDetach` — what
  terminals ask for.
* `MmBs.applySwmiRegistrationDecision`, `MmBs.applySwmiLocationAttachmentDecision`,
  `MmBs.applySwmiAttachmentDecision` — decisions of the network.
* `MmBs.removeLocalSubscriber`, `MmBs.applyOldServingCleanup` — removal.
* `MmBs.updateRegistrationDeliveryStatuses`, `MmBs.updateSecurityActivations`,
  `MmBs.expireRegistrations` — every tick.
* `MmBs.recoverPending` — what is pending when the network is gone.
-/

import Bluestation.Mm.Exchanges

namespace Bluestation

namespace MmBs

variable (s : MmBs) (air : MmSurroundings) (issi : Nat)

/-! ### Removal -/

/-- A terminal leaves the memberships, its session and its generation; what is under way stays. -/
def removeLocalSubscriber : MmBs :=
  { s with
    members := s.members.removeSubscriber issi
    aieSessions := s.aieSessions.deactivateTerminal issi
    requests := { s.requests with
      registrationGenerations := s.requests.registrationGenerations.erase issi }
    presence := ⟨insert issi s.presence.removed, s.presence.accepted.erase issi⟩ }

/-- The cell that a terminal has left is told which registration is superseded. -/
def applyOldServingCleanup (expectedGeneration : Nat) : MmBs :=
  match s.requests.registrationGenerations.lookup issi with
  | none => s.removeLocalSubscriber issi
  | some currentGeneration =>
    if currentGeneration = expectedGeneration then s.removeLocalSubscriber issi else s

/-- The network is told if it is there; the terminal is gone in any case. -/
def rxUItsiDetach : MmBs :=
  let s :=
    if air.online then
      let (s, commandId) := s.nextSwmiCommandId
      if air.taken commandId then s.submit (.deregistrationNotice commandId issi) else s
    else s
  s.removeLocalSubscriber issi

/-! ### Acceptances under way -/

def trackRegistrationDelivery (commandId : Option Nat) (authenticationDownlink : Bool)
    (securityGroups : List Nat) (receipt : Nat) : MmBs :=
  let s := s.registry (·.setRegistrationDeliveryPending issi true)
  { s with requests := { s.requests with
      pendingRegistrationDeliveries := s.requests.pendingRegistrationDeliveries.insert issi
        ⟨commandId, authenticationDownlink, securityGroups, receipt⟩ } }

/-- The class that the network chose begins when the acceptance has been sent. -/
def deferSecurityActivation (aie : AieLocationUpdateDecision) (receipt : Nat) : MmBs :=
  if aie.selectedClass ≠ .unknown then
    { s with requests := { s.requests with
        pendingSecurityActivations :=
          s.requests.pendingSecurityActivations.insert issi (aie.selectedClass, receipt) } }
  else s

variable (commandId : Nat)

/-- Accept a registration of the network, and follow the delivery. -/
def acceptRegistration (pending : PendingRegistration) (gila : Option GroupIdentityLocationAccept)
    (groups : List Nat) (ruaRequested : Bool) : MmBs :=
  let securityGroups := air.aie.normalizedGroupSecurityGssis groups
  let (s, receipt) := s.sendWithReceipt pending.itsi pending.airHandle (.locationUpdateAccept
    ⟨pending.locationUpdateType, pending.authenticationSuccessful, gila,
      air.aie.groupSecurityInformation securityGroups, none, ruaRequested⟩ (some pending.demand))
  let s := s.trackRegistrationDelivery pending.itsi (some commandId)
    pending.authenticationSuccessful securityGroups receipt
  s.deferSecurityActivation pending.itsi pending.aie receipt

def deliveryOutcome (pending : PendingRegistrationDelivery) : Option Bool :=
  match s.receiptState pending.receipt with
  | .acknowledged => some true
  | .discarded | .lost => some false
  | .pending | .transmitted => none

def removeRegistrationDelivery : MmBs :=
  { s with requests := { s.requests with
      pendingRegistrationDeliveries := s.requests.pendingRegistrationDeliveries.erase issi } }

def settleDelivery (delivered : Bool) : MmBs :=
  if delivered then (s.registry (·.markActive issi)).guardGroupSecurity issi
  else s.registry fun r =>
    (r.setRegistrationDeliveryPending issi false).noteRegistrationDeliveryFailure

/-- A command to register is carried out when the registration is. -/
def finishRegistrationControl (delivered : Bool) : MmBs :=
  if s.controlIs issi fun action => action = .reregister ∨ action = .reauthenticate then
    s.finishTerminalControl issi delivered (!delivered).toNat
  else s

def updateRegistrationDelivery (outcome : Nat × Bool) : MmBs :=
  let (issi, delivered) := outcome
  if (s.requests.pendingRegistrationDeliveries.lookup issi).isNone then s
  else
    ((s.removeRegistrationDelivery issi).settleDelivery issi delivered).finishRegistrationControl
      issi delivered

def updateRegistrationDeliveryStatuses (order : List Nat) : MmBs :=
  let outcomes :=
    (s.requests.pendingRegistrationDeliveries.rearrange order).entries.filterMap fun entry =>
      (s.deliveryOutcome entry.2).map (entry.1, ·)
  outcomes.foldl updateRegistrationDelivery s

def activationOutcome (pending : TerminalSecurityClass × Nat) : Option Bool :=
  match s.receiptState pending.2 with
  | .transmitted | .acknowledged => some true
  | .discarded | .lost => some false
  | .pending => none

def removeSecurityActivation : MmBs :=
  { s with requests := { s.requests with
      pendingSecurityActivations := s.requests.pendingSecurityActivations.erase issi } }

def updateSecurityActivation (outcome : Nat × TerminalSecurityClass × Bool) : MmBs :=
  let (issi, securityClass, activate) := outcome
  let s := s.removeSecurityActivation issi
  if activate then s.activateTerminalSecurityClass air issi securityClass else s

def updateSecurityActivations (order : List Nat) : MmBs :=
  let outcomes :=
    (s.requests.pendingSecurityActivations.rearrange order).entries.filterMap fun entry =>
      (s.activationOutcome entry.2).map fun activate => (entry.1, entry.2.1, activate)
  outcomes.foldl (fun s outcome => s.updateSecurityActivation air outcome) s

/-! ### Location updates -/

structure GroupIdentityLocationDemand where
  /-- All other groups are to be left. -/
  groupIdentityAttachDetachMode : Bool
  groupIdentityUplink : Option (List GroupIdentityUplink)

structure ULocationUpdateDemand where
  locationUpdateType : LocationUpdateType
  requestToAppendLa : Bool
  addressExtension : Option Nat
  groupIdentityLocationDemand : Option GroupIdentityLocationDemand

namespace ULocationUpdateDemand

variable (pdu : ULocationUpdateDemand)

def isMigration : Bool :=
  pdu.locationUpdateType = .migratingLocationUpdating ∨
    pdu.locationUpdateType = .serviceRestorationMigratingLocationUpdating

def featureCheck : Bool :=
  !(pdu.locationUpdateType = .migratingLocationUpdating ∨
    pdu.locationUpdateType = .disabledMsUpdating) && !pdu.requestToAppendLa

/-- The groups that the network is asked about: all of them, if each has a plain number. -/
def locationAttachment (issi handle : Nat) : Option PendingAttachment := do
  let demand ← pdu.groupIdentityLocationDemand
  let operations ← demand.groupIdentityUplink
  if operations.all (·.gssi.isSome) then
    some ⟨issi, handle, demand.groupIdentityAttachDetachMode, operations⟩
  else none

end ULocationUpdateDemand

variable (handle : Nat)

/-- The request goes to the network, which has until T351 for its decision. -/
def forwardLocationUpdate (target : Option String) (pdu : ULocationUpdateDemand)
    (interrupted : List Nat) (commandId : Nat) : MmBs :=
  let s := s.submit (.registrationAttempt commandId issi handle pdu.locationUpdateType
    pdu.addressExtension target)
  let s := s.registry (·.setRegistrationDeliveryPending issi true)
  { s with requests := { s.requests with
      pendingRegistrations := s.requests.pendingRegistrations.insert commandId
        { itsi := issi
          airHandle := handle
          locationUpdateType := pdu.locationUpdateType
          addressExtension := pdu.addressExtension
          hasGroupIdentityLocationDemand := pdu.groupIdentityLocationDemand.isSome
          locationAttachment := pdu.locationAttachment issi handle
          interruptedGroupSecurityGssis := interrupted
          authenticationSuccessful := false
          aie := .default
          forwardRegistrationTargetStationId := target
          demand := commandId }
      registrationDeadlines := s.requests.registrationDeadlines.insert commandId
        (s.currentTime.addTimeslots t351Timeslots) } }

/-- The groups of a registration that the cell decides on by itself. -/
def locallyAttach : Option GroupIdentityLocationDemand → MmBs × Option GroupIdentityLocationAccept
  | none => (s, none)
  | some demand =>
    let members := s.members.replaceAll issi demand.groupIdentityAttachDetachMode
    match demand.groupIdentityUplink with
    | none => ({ s with members }, some ⟨false, none⟩)
    | some giuVec =>
      let (members, accepted) := members.tryAttachDetachGroups issi giuVec
      ({ s with members }, some ⟨false, some accepted⟩)

/-- Accept a registration that the network does not know of. -/
def acceptLocally (locationUpdateType : LocationUpdateType)
    (gila : Option GroupIdentityLocationAccept) (interrupted : List Nat) : MmBs :=
  let securityGroups := air.aie.normalizedGroupSecurityGssis interrupted
  let (s, receipt) := s.sendWithReceipt issi handle (.locationUpdateAccept
    ⟨locationUpdateType, false, gila, air.aie.groupSecurityInformation securityGroups, none, false⟩
    none)
  s.trackRegistrationDelivery issi none false securityGroups receipt

/-- The cell registers a terminal by itself. -/
def locallyRegister (pdu : ULocationUpdateDemand) (interrupted : List Nat) : MmBs :=
  let isNew := !s.members.clientMgr.clientIsKnown issi
  match s.members.registerOrAttach issi with
  | none => s
  | some members =>
    let s := ({ s with members } : MmBs).noteAccepted issi none
    let s := s.registry (·.setRegistrationDeliveryPending issi true)
    let (s, gila) := s.locallyAttach issi pdu.groupIdentityLocationDemand
    let s := s.acceptLocally air issi handle pdu.locationUpdateType gila interrupted
    if isNew ∧ pdu.locationUpdateType ≠ .itsiAttach ∧ pdu.groupIdentityLocationDemand = none then
      s.sendDLocationUpdateCommand issi handle true
    else s

/-- **A location update.** The refusal is what the cell has against its encryption parameters, of
which it only asks when the network is not there. -/
def rxULocationUpdateDemand (target : Option String) (refusal : Option (Nat × Nat))
    (pdu : ULocationUpdateDemand) : MmBs :=
  if pdu.isMigration then
    s.sendDLocationUpdateReject issi handle pdu.locationUpdateType pdu.addressExtension
      RejectCause.migrationNotSupported none none
  else if !pdu.featureCheck then s
  else
    match if air.online then none else refusal with
    | some (cause, parameters) =>
      s.sendDLocationUpdateReject issi handle pdu.locationUpdateType pdu.addressExtension cause
        (some parameters) none
    | none =>
      let (s, interrupted) := (s.returned issi).cancelGroupSecurityAssociationForRegistration issi
      if air.online then
        let (s, commandId) := s.nextSwmiCommandId
        if air.taken commandId then
          s.forwardLocationUpdate issi handle target pdu interrupted commandId
        else s.locallyRegister air issi handle pdu interrupted
      else s.locallyRegister air issi handle pdu interrupted

/-! ### Attachments -/

def localAttachmentResults (pending : PendingAttachment) : List AttachmentResult :=
  (pending.operations.filterMap (·.requested)).map fun operation => ⟨operation, true, 0⟩

/-- A terminal that replaces its groups leaves them, and is registered if it was not. -/
def locallyReplaced (replaceAll : Bool) : Option Affiliations :=
  if !replaceAll then some s.members
  else if !s.members.clientMgr.clientIsKnown issi then s.members.tryRegister issi
  else s.members.detachAllGroups issi

/-- An attachment that the cell decides on by itself. -/
def locallyAttachGroups (replaceAll : Bool) (giuVec : List GroupIdentityUplink) : MmBs :=
  match s.locallyReplaced issi replaceAll with
  | none => s
  | some members =>
    let (members, accepted) := members.tryAttachDetachGroups issi giuVec
    let s := if replaceAll then s.returned issi else s
    ({ s with members } : MmBs).send issi handle
      (.attachDetachAcknowledgement ⟨false, some accepted, none⟩)

/-- **A request about groups.** The network is asked if all groups have a plain number. -/
def rxUAttachDetachGroupIdentity (replaceAll : Bool) (giuVec : List GroupIdentityUplink) : MmBs :=
  if giuVec.all (·.gssi.isSome) ∧ air.online then
    let (s, commandId) := s.nextSwmiCommandId
    if air.taken commandId then
      let s := s.submit (.attachmentAttempt commandId issi handle replaceAll
        (giuVec.filterMap (·.requested)))
      { s with requests := { s.requests with
          pendingAttachments := s.requests.pendingAttachments.insert commandId
            ⟨issi, handle, replaceAll, giuVec⟩ } }
    else s.locallyAttachGroups issi handle replaceAll giuVec
  else s.locallyAttachGroups issi handle replaceAll giuVec

/-- The answer to an attachment; associations wait until the terminal is done with it. -/
def sendDAttachmentAcknowledgement (hasRejection : Bool) (groups : List GroupIdentityDownlink)
    (securityGroups : List Nat) : MmBs :=
  (s.send issi handle (.attachDetachAcknowledgement
    ⟨hasRejection, if groups.isEmpty then none else some groups,
      air.aie.groupSecurityInformation securityGroups⟩)).guardGroupSecurity issi

structure AttachmentDecision where
  commandId : Nat
  itsi : Nat
  airHandle : Nat
  hasRejection : Bool
  results : List AttachmentResult

def AttachmentDecision.correlates (decision : AttachmentDecision) (itsi airHandle operations : Nat) :
    Bool :=
  itsi = decision.itsi ∧ airHandle = decision.airHandle ∧ operations = decision.results.length

/-- One group is associated with its key in the answer, more of them in an exchange of their own. -/
def answerAttachment (hasRejection : Bool) (groups : List GroupIdentityDownlink)
    (securityGroups : List Nat) : MmBs :=
  if securityGroups.length = 1 then
    s.sendDAttachmentAcknowledgement air issi handle hasRejection groups securityGroups
  else
    (s.sendDAttachmentAcknowledgement air issi handle hasRejection groups
      []).sendGroupSecurityAssociationAmendments air issi handle securityGroups

/-- The decision on an attachment that matches it. A terminal that the network does not know is to
register again. -/
def completeAttachment (pending : PendingAttachment) (hasRejection : Bool)
    (results : List AttachmentResult) : MmBs :=
  let registrationRecoveryRequired := results.any fun result => !result.accepted && result.cause = 2
  let (members, hadRejection, responseGroups, securityGroups) :=
    s.members.applySwmiAttachmentState hasRejection pending results
  let s := ({ s with members } : MmBs).answerAttachment air pending.itsi pending.airHandle
    hadRejection responseGroups securityGroups
  if registrationRecoveryRequired then
    s.sendDLocationUpdateCommand pending.itsi pending.airHandle true
  else s

def removeAttachment : MmBs :=
  { s with requests := { s.requests with
      pendingAttachments := s.requests.pendingAttachments.erase commandId } }

/-- **A decision on an attachment.** -/
def applySwmiAttachmentDecision (decision : AttachmentDecision) : MmBs :=
  match s.requests.pendingAttachments.lookup decision.commandId with
  | none => s
  | some pending =>
    let s := s.removeAttachment decision.commandId
    if decision.correlates pending.itsi pending.airHandle pending.operations.length then
      s.completeAttachment air pending decision.hasRejection decision.results
    else s

/-- The groups of a registration are decided, and the registration is answered. -/
def completeLocationAttachment (registration : PendingRegistration) (attachment : PendingAttachment)
    (ruaRequested : Bool) (hasRejection : Bool) (results : List AttachmentResult) : MmBs :=
  let (members, hadRejection, responseGroups, securityGroups) :=
    s.members.applySwmiAttachmentState hasRejection attachment results
  ({ s with members } : MmBs).acceptRegistration air commandId registration
    (some ⟨hadRejection, if responseGroups.isEmpty then none else some responseGroups⟩)
    (securityGroups ++ registration.interruptedGroupSecurityGssis) ruaRequested

def removeLocationAttachment : MmBs :=
  { s with requests := { s.requests with
      pendingLocationAttachments := s.requests.pendingLocationAttachments.erase commandId } }

/-- **A decision on the groups of a registration.** -/
def applySwmiLocationAttachmentDecision (decision : AttachmentDecision) : MmBs :=
  match s.requests.pendingLocationAttachments.lookup decision.commandId with
  | none => s
  | some pending =>
    let s := s.removeLocationAttachment decision.commandId
    if decision.correlates pending.registration.itsi pending.registration.airHandle
        pending.attachment.operations.length then
      s.completeLocationAttachment air decision.commandId pending.registration pending.attachment
        pending.ruaRequested decision.hasRejection decision.results
    else s

/-! ### Decisions on registrations -/

structure RegistrationDecision where
  commandId : Nat
  itsi : Nat
  airHandle : Nat
  accepted : Bool
  cause : Nat
  ruaRequested : Bool
  handoverAllocation : Option HandoverChannelAllocation
  aie : AieLocationUpdateDecision

/-- The network rejects a registration; a terminal that was to be disconnected is removed. -/
def rejectRegistration (pending : PendingRegistration) (cause : Nat) : MmBs :=
  let s := s.registry (·.setRegistrationDeliveryPending pending.itsi false)
  let s := s.sendDLocationUpdateReject pending.itsi pending.airHandle pending.locationUpdateType
    pending.addressExtension (cause % 2 ^ 8) pending.aie.cipheringParameters (some pending.demand)
  if s.controlIs pending.itsi (· = .disconnect) then
    (s.removeLocalSubscriber pending.itsi).finishTerminalControl pending.itsi true 0
  else s.finishTerminalControl pending.itsi false (cause % 2 ^ 8)

/-- An accepted registration that belongs to another cell is only passed on. -/
def forwardAcceptance (pending : PendingRegistration)
    (handoverAllocation : Option HandoverChannelAllocation) (ruaRequested : Bool) : MmBs :=
  let s := s.registry (·.setRegistrationDeliveryPending pending.itsi false)
  (s.sendWithReceipt pending.itsi pending.airHandle (.locationUpdateAccept
    ⟨pending.locationUpdateType, pending.authenticationSuccessful,
      if pending.hasGroupIdentityLocationDemand then some ⟨false, none⟩ else none,
      air.aie.groupSecurityInformation pending.interruptedGroupSecurityGssis, handoverAllocation,
      ruaRequested⟩ (some pending.demand))).1

/-- The generation of a registration is the command that the network accepted. -/
def installGeneration (generation : Nat) : MmBs :=
  let s := { s with requests := { s.requests with
    registrationGenerations := s.requests.registrationGenerations.insert issi generation } }
  (s.noteAccepted issi (some generation)).registry fun r =>
    (r.setRegistrationGeneration issi generation).setRegistrationDeliveryPending issi true

/-- The groups of an accepted registration: the network decides on them, or the cell does. -/
def attachAccepted (pending : PendingRegistration) (attachment : PendingAttachment)
    (ruaRequested : Bool) : MmBs :=
  let registration := { pending with locationAttachment := none }
  let local' (s : MmBs) := s.completeLocationAttachment air commandId registration attachment
    ruaRequested false (localAttachmentResults attachment)
  if air.online then
    let (s, attachmentCommandId) := s.nextSwmiCommandId
    if air.taken attachmentCommandId then
      let s := s.submit (.attachmentAttempt attachmentCommandId pending.itsi pending.airHandle
        attachment.replaceAll (attachment.operations.filterMap (·.requested)))
      { s with requests := { s.requests with
          pendingLocationAttachments := s.requests.pendingLocationAttachments.insert
            attachmentCommandId ⟨registration, attachment, ruaRequested, s.currentTime⟩ } }
    else local' s
  else local' s

/-- A registration that the network accepted, at this cell. -/
def registerAccepted (pending : PendingRegistration) (ruaRequested : Bool) : MmBs :=
  match s.members.registerOrAttach pending.itsi with
  | none =>
    s.sendDLocationUpdateReject pending.itsi pending.airHandle pending.locationUpdateType
      pending.addressExtension RejectCause.networkFailure none (some pending.demand)
  | some members =>
    let s := ({ s with members } : MmBs).installGeneration pending.itsi commandId
    match pending.locationAttachment with
    | some attachment => s.attachAccepted air commandId pending attachment ruaRequested
    | none =>
      s.acceptRegistration air commandId pending
        (if pending.hasGroupIdentityLocationDemand then some ⟨false, none⟩ else none)
        pending.interruptedGroupSecurityGssis ruaRequested

def dropDeadline : MmBs :=
  { s with requests := { s.requests with
      registrationDeadlines := s.requests.registrationDeadlines.erase commandId } }

def removeRegistration : MmBs :=
  { s with requests := { s.requests with
      pendingRegistrations := s.requests.pendingRegistrations.erase commandId } }

def forgetAuthentication : MmBs :=
  { s with requests := { s.requests with
      authenticatedRegistrations := s.requests.authenticatedRegistrations.erase commandId } }

/-- **A decision on a registration.** -/
def applySwmiRegistrationDecision (decision : RegistrationDecision) : MmBs :=
  match s.requests.pendingRegistrations.lookup decision.commandId with
  | none => s
  | some pending =>
    let s := s.dropDeadline decision.commandId
    if pending.itsi ≠ decision.itsi ∨ pending.airHandle ≠ decision.airHandle then s
    else
      let authenticated : Bool := decision.commandId ∈ s.requests.authenticatedRegistrations
      let pending :=
        { pending with aie := decision.aie, authenticationSuccessful := authenticated }
      let s := (s.removeRegistration decision.commandId).forgetAuthentication decision.commandId
      if !decision.accepted then s.rejectRegistration pending decision.cause
      else if pending.forwardRegistrationTargetStationId.isSome then
        s.forwardAcceptance air pending decision.handoverAllocation decision.ruaRequested
      else s.registerAccepted air decision.commandId pending decision.ruaRequested

/-- A registration that has waited until T351 is rejected. -/
def expireRegistration : MmBs :=
  let s := s.dropDeadline commandId
  match s.requests.pendingRegistrations.lookup commandId with
  | none => s
  | some pending =>
    let s := s.removeRegistration commandId
    let s := s.registry (·.setRegistrationDeliveryPending pending.itsi false)
    s.sendDLocationUpdateReject pending.itsi pending.airHandle pending.locationUpdateType
      pending.addressExtension RejectCause.networkFailure none (some pending.demand)

def expireRegistrations (order : List Nat) : MmBs :=
  let timedOut := ((s.requests.registrationDeadlines.rearrange order).entries.filter fun entry =>
    0 ≤ entry.2.age s.currentTime).map (·.1)
  timedOut.foldl expireRegistration s

/-! ### The network restores, and is lost -/

/-- **The state of a subscriber as the network knows it.** -/
def applySwmiSubscriberStateSync (itsi : Nat) (groups : List AttachmentOperation)
    (scanningEnabled : Bool) (securityClass : TerminalSecurityClass) : MmBs :=
  if 2 ^ 32 ≤ itsi then s
  else
    match if s.members.clientMgr.clientIsKnown itsi then some s.members
      else s.members.tryRegister itsi with
    | none => s
    | some members =>
      let s := (({ s with members } : MmBs).returned itsi).activateTerminalSecurityClass air itsi
        securityClass
      { s with members := s.members.reconcile itsi groups scanningEnabled }

/-- A subscriber of a recovery after local service. -/
structure LstSubscriber where
  itsi : Nat
  groups : List AttachmentOperation
  scanningEnabled : Bool
  securityClass : TerminalSecurityClass
  ruaAssigned : Option Bool

/-- A terminal that the network has no assignment for registers again. -/
def acceptRecovered (subscriber : LstSubscriber) : MmBs :=
  let requestedRuaReassignment : Bool := subscriber.ruaAssigned = some false ∧
    subscriber.itsi < 2 ^ 32 ∧
    s.members.subscribers.ruaAssignmentState subscriber.itsi = some true
  let s := s.applySwmiSubscriberStateSync air subscriber.itsi subscriber.groups
    subscriber.scanningEnabled subscriber.securityClass
  let s := if subscriber.itsi < 2 ^ 32 ∧ subscriber.ruaAssigned.isSome then
    s.registry (·.setRuaAssignmentState subscriber.itsi subscriber.ruaAssigned) else s
  if requestedRuaReassignment then
    (s.registry (·.setRuaAssignmentState subscriber.itsi none)).sendDLocationUpdateCommand
      subscriber.itsi 0 true
  else s

def lstRecoveryRequest : MmBs :=
  if commandId ∈ s.requests.pendingLstRecoveries then s
  else if air.taken commandId then
    { s with requests := { s.requests with
        pendingLstRecoveries := insert commandId s.requests.pendingLstRecoveries } }
      |>.submit (.lstRecoverySnapshot commandId)
  else s

/-- The outcome of a recovery: restored subscribers, and those that are removed. -/
def lstRecoveryResult (accepted : List LstSubscriber) (rejected : List Nat) : MmBs :=
  if commandId ∈ s.requests.pendingLstRecoveries then
    let s := { s with requests := { s.requests with
      pendingLstRecoveries := s.requests.pendingLstRecoveries.erase commandId } }
    let s := accepted.foldl (fun s subscriber => s.acceptRecovered air subscriber) s
    rejected.foldl (fun s itsi => if 2 ^ 32 ≤ itsi then s else s.removeLocalSubscriber itsi) s
  else s

/-- The acceptance of a registration that was pending when the network was lost. -/
def recoveredRegistration (entry : Nat × Nat × Nat) : RegistrationDecision :=
  ⟨entry.1, entry.2.1, entry.2.2, true, 0, false, none, .default⟩

/-- What is pending when the network is gone is decided as the cell would decide it. -/
def recoverRegistration (entry : Nat × Nat × Nat) : MmBs :=
  s.applySwmiRegistrationDecision air (recoveredRegistration entry)

/-- The tables in the order in which they are gone through. -/
structure RecoveryOrder where
  registrations : List Nat
  attachments : List Nat
  locationAttachments : List Nat

variable (order : RecoveryOrder)

def recoverableRegistrations : List (Nat × Nat × Nat) :=
  (s.requests.pendingRegistrations.rearrange order.registrations).entries.map fun entry =>
    (entry.1, entry.2.itsi, entry.2.airHandle)

def recoverRegistrations : MmBs :=
  (s.recoverableRegistrations order).foldl (fun s entry => s.recoverRegistration air entry) s

def recoverableAttachments : List AttachmentDecision :=
  (s.requests.pendingAttachments.rearrange order.attachments).entries.map fun entry =>
    ⟨entry.1, entry.2.itsi, entry.2.airHandle, false, localAttachmentResults entry.2⟩

def recoverAttachments : MmBs :=
  (s.recoverableAttachments order).foldl
    (fun s decision => s.applySwmiAttachmentDecision air decision) s

def recoverableLocationAttachments : List AttachmentDecision :=
  (s.requests.pendingLocationAttachments.rearrange order.locationAttachments).entries.map
    fun entry => ⟨entry.1, entry.2.registration.itsi, entry.2.registration.airHandle, false,
      localAttachmentResults entry.2.attachment⟩

def recoverLocationAttachments : MmBs :=
  (s.recoverableLocationAttachments order).foldl
    (fun s decision => s.applySwmiLocationAttachmentDecision air decision) s

def recoverPending : MmBs :=
  ((s.recoverRegistrations air order).recoverAttachments air order).recoverLocationAttachments air
    order

end MmBs

end Bluestation
