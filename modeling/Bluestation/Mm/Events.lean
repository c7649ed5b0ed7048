/-
**What happens to mobility management.**

Messages of terminals and of the network, marks on receipts, and the ticks of the clock come in any
order. The order in which a table is gone through is part of the event, because the program leaves it
open.

* `MmEvent` — everything that happens.
* `MmBs.step` — what it does.
* `MmBs.machine` — the runs.

A tick of the program is a `tick`, then the messages of the network that have come, then, if the
network is gone, `linkLoss`. An acknowledgement names the exchange that it answers, which the
terminal knows and the cell does not: this is history.
-/

import Bluestation.Mm.Registration
import Bluestation.Mm.OtarOutcomes

namespace Bluestation

open Machines

/-- A key that a terminal reports about, with its version. -/
structure GckProvisionResult where
  gckNumber : BitVec 16
  versionNumber : BitVec 16
  provisionResult : Nat

/-- The orders in which a tick goes through the tables. -/
structure TickOrder where
  deliveries : List Nat
  failedAssociations : List Nat
  queuedAssociations : List Nat
  controls : List Nat
  activations : List Nat
  registrations : List Nat

inductive MmEvent where
  | locationUpdateDemand (air : MmSurroundings) (issi handle : Nat) (target : Option String)
      (refusal : Option (Nat × Nat)) (pdu : MmBs.ULocationUpdateDemand)
  | attachDetachGroupIdentity (air : MmSurroundings) (issi handle : Nat) (replaceAll : Bool)
      (giuVec : List GroupIdentityUplink)
  | attachDetachAcknowledgement (air : MmSurroundings) (issi : Nat) (order : List Nat)
      (pdu : Affiliations.Acknowledgement) (answers : Nat)
  | itsiDetach (air : MmSurroundings) (issi : Nat)
  | authentication (issi commandId : Nat) (authenticationResult : Bool)
  | informationProvide (issi : Nat)
  | gckResult (air : MmSurroundings) (issi handle : Nat) (results : List GckProvisionResult)
  | registrationDecision (air : MmSurroundings) (decision : MmBs.RegistrationDecision)
  | attachmentDecision (air : MmSurroundings) (decision : MmBs.AttachmentDecision)
  | authenticationResult (commandId itsi airHandle : Nat) (success : Bool)
  | subscriberStateSync (air : MmSurroundings) (itsi : Nat) (groups : List AttachmentOperation)
      (scanningEnabled : Bool) (securityClass : TerminalSecurityClass)
  | lstRecoveryRequest (air : MmSurroundings) (commandId : Nat)
  | lstRecoveryResult (air : MmSurroundings) (commandId : Nat) (accepted : List MmBs.LstSubscriber)
      (rejected : List Nat)
  | deregistrationNotice (commandId itsi : Nat)
  | terminalControl (air : MmSurroundings) (commandId itsi : Nat) (action : TerminalControlAction)
      (operations : List AttachmentOperation)
  | otherCommand
  | receipt (receipt : Nat) (mark : TxMark)
  | tick (air : MmSurroundings) (order : TickOrder)
  | linkLoss (air : MmSurroundings) (order : MmBs.RecoveryOrder)

namespace MmBs

variable (s : MmBs) (air : MmSurroundings) (issi : Nat)

def noteAuthentication (commandId : Nat) (success : Bool) : MmBs :=
  let authenticated := s.requests.authenticatedRegistrations
  { s with requests := { s.requests with
      authenticatedRegistrations :=
        if success then insert commandId authenticated else authenticated.erase commandId } }

def endReauthentication : MmBs :=
  if s.controlIs issi (· = .reauthenticate) then s.finishTerminalControl issi false 1 else s

def rxUAuthentication (commandId : Nat) (authenticationResult : Bool) : MmBs :=
  let s := s.noteAuthentication commandId authenticationResult
  if authenticationResult then s else s.endReauthentication issi

def pendingDemand (commandId : Nat) : Option Nat :=
  ((s.requests.pendingRegistrations.lookup commandId).filter (·.itsi = issi)).map (·.demand)

/-- The network reports the outcome; a terminal that failed is rejected at once. -/
def applyAuthenticationResult (commandId itsi airHandle : Nat) (success : Bool) : MmBs :=
  let issi := itsi % 2 ^ 32
  let s := s.noteAuthentication commandId success
  if success then s
  else
    (s.sendDLocationUpdateReject issi airHandle .itsiAttach none RejectCause.authenticationFailure
      none (s.pendingDemand issi commandId)).endReauthentication issi

/-- A terminal has stored keys; those in use now are associated with its groups again. -/
def refreshGroupSecurityAfterGckResult (handle : Nat) (results : List GckProvisionResult) : MmBs :=
  match air.aie.sc3 with
  | none => s
  | some sc3 =>
    let accepted := (results.filter fun entry =>
      entry.provisionResult = 0 && entry.versionNumber = sc3.gckVn).map (·.gckNumber)
    if accepted.isEmpty then s
    else s.sendGroupSecurityAssociationRefresh air issi handle accepted

/-- A decision on groups belongs to a registration or stands alone. -/
def applyAttachmentDecision (decision : AttachmentDecision) : MmBs :=
  if (s.requests.pendingLocationAttachments.lookup decision.commandId).isSome then
    s.applySwmiLocationAttachmentDecision air decision
  else s.applySwmiAttachmentDecision air decision

/-- **One slot later**: everything that is under way is looked at. -/
def tickStart (order : TickOrder) : MmBs :=
  let s := { s with currentTime := s.currentTime.addTimeslots 1 }
  let s := s.updateRegistrationDeliveryStatuses order.deliveries
  let s := s.updateGroupSecurityAssociationStatuses air order.failedAssociations
    order.queuedAssociations
  let s := s.updateTerminalControlStatuses order.controls
  let s := s.updateSecurityActivations air order.activations
  s.expireRegistrations order.registrations

/-- A mark on a receipt that was given out; a mark that does not fit the state cannot be made. -/
def markReceipt (receipt : Nat) (mark : TxMark) : Option MmBs :=
  if receipt < s.radio.issued then
    match (s.radio.receipts receipt).apply mark with
    | .error _ => none
    | .ok reporter => some
        { s with radio := { s.radio with
            receipts := Function.update s.radio.receipts receipt reporter } }
  else none

/-- **One event.** -/
def step (s : MmBs) : MmEvent → Option MmBs
  | .locationUpdateDemand air issi handle target refusal pdu =>
    some (s.rxULocationUpdateDemand air issi handle target refusal pdu)
  | .attachDetachGroupIdentity air issi handle replaceAll giuVec =>
    some (s.rxUAttachDetachGroupIdentity air issi handle replaceAll giuVec)
  | .attachDetachAcknowledgement air issi order pdu _ =>
    some (s.rxUAttachDetachGroupIdentityAcknowledgement air issi order pdu)
  | .itsiDetach air issi => some (s.rxUItsiDetach air issi)
  | .authentication issi commandId authenticationResult =>
    some (s.rxUAuthentication issi commandId authenticationResult)
  | .informationProvide issi =>
    some (if s.controlIs issi (· = .requestInformation) then s.finishTerminalControl issi true 0
      else s)
  | .gckResult air issi handle results =>
    some (s.refreshGroupSecurityAfterGckResult air issi handle results)
  | .registrationDecision air decision => some (s.applySwmiRegistrationDecision air decision)
  | .attachmentDecision air decision => some (s.applyAttachmentDecision air decision)
  | .authenticationResult commandId itsi airHandle success =>
    some (s.applyAuthenticationResult commandId itsi airHandle success)
  | .subscriberStateSync air itsi groups scanningEnabled securityClass =>
    some (s.applySwmiSubscriberStateSync air itsi groups scanningEnabled securityClass)
  | .lstRecoveryRequest air commandId => some (s.lstRecoveryRequest air commandId)
  | .lstRecoveryResult air commandId accepted rejected =>
    some (s.lstRecoveryResult air commandId accepted rejected)
  | .deregistrationNotice commandId itsi =>
    some (if 2 ^ 32 ≤ itsi then s else s.applyOldServingCleanup itsi commandId)
  | .terminalControl air commandId itsi action operations =>
    some (s.handleTerminalControl air commandId itsi action operations)
  | .otherCommand => some s.nextSwmiCommandId.1
  | .receipt receipt mark => s.markReceipt receipt mark
  | .tick air order => some (s.tickStart air order)
  | .linkLoss air order => some (if air.online then s else s.recoverPending air order)

/-- **The runs of mobility management**, from any time on. -/
def machine : Machine MmBs MmEvent where
  start s := ∃ time, s = init time
  step := step

end MmBs

/-! ### Small surroundings -/

/-- Settings of a cell of class 3 in which some groups have a key. -/
def keyedAie (gssis : List Nat) : AieSettings where
  enabled := true
  sc2 := none
  rollover := none
  sc1Allowed := true
  sc3 := some { RuntimeSc3Aie.new .tea1 1 0 false false with
    linkedGckCryptoPeriods := true
    gckVn := 1
    groupAssociations := gssis.foldl (fun associations gssi => associations.insert gssi 1) ∅ }

/-- Such a cell, with or without the network; all requests are taken. -/
def keyedAir (online : Bool) (gssis : List Nat) : MmSurroundings :=
  ⟨keyedAie gssis, online, fun _ => true⟩

end Bluestation
