/-
**The state of mobility management at the base station.**

A registration passes through several tables: the requests that the network decides on, the group
attachments that belong to them, the acceptances that are under way, and the security classes that
begin with them. Key associations and changes of talkgroups are exchanges of their own, for which the
terminal sends an acknowledgement.

* `MmRequests` — the tables of registrations and attachments.
* `MmExchanges` — exchanges about groups that the cell began.
* `MmRadio` — what was handed to the link layer, and its receipts.
* `MmBs` — all of it, with the memberships and the sessions of air interface encryption.

Energy economy, common control channels, telemetry, presence probes, key management over the air and
the protection of messages are left out. So is the correlation of authentication exchanges: their
outcomes name the request.
-/

import Bluestation.Mm.Affiliations
import Bluestation.Config.KeyProvider

namespace Bluestation

/-! ### Constants -/

def t351Timeslots : Int := 10 * 18 * 4

def groupSecurityAckTimeoutTimeslots : Int := 10 * 18 * 4

def groupSecurityRegistrationGuardTimeslots : Int := 18 * 4

def maxGroupSecurityRetries : Nat := 2

def terminalControlTimeoutTimeslots : Int := 10 * 18 * 4

def terminalControlCauseRadioLinkFailed : Nat := 240

def terminalControlCauseResponseTimeout : Nat := 241

namespace RejectCause

def networkFailure : Nat := 5

def migrationNotSupported : Nat := 12

def authenticationFailure : Nat := 19

end RejectCause

/-! ### Requests of terminals -/

inductive LocationUpdateType where
  | roamingLocationUpdating | migratingLocationUpdating | periodicLocationUpdating | itsiAttach
  | serviceRestorationRoamingLocationUpdating | serviceRestorationMigratingLocationUpdating
  | demandLocationUpdating | disabledMsUpdating
deriving DecidableEq

/-- What the network decides about encryption; keys are opaque to the cell. -/
structure AieLocationUpdateDecision where
  selectedClass : TerminalSecurityClass
  cipheringParameters : Option Nat

def AieLocationUpdateDecision.default : AieLocationUpdateDecision := ⟨.unknown, none⟩

/-- The resources of a seamless handover. -/
structure HandoverChannelAllocation where
  carrier : Nat
  timeslotBitmap : Nat
  usage : Nat

/-- A location update that the network decides on. -/
structure PendingRegistration where
  itsi : Nat
  airHandle : Nat
  locationUpdateType : LocationUpdateType
  addressExtension : Option Nat
  hasGroupIdentityLocationDemand : Bool
  locationAttachment : Option PendingAttachment
  /-- Groups of a key association that this registration interrupted. -/
  interruptedGroupSecurityGssis : List Nat
  authenticationSuccessful : Bool
  aie : AieLocationUpdateDecision
  forwardRegistrationTargetStationId : Option String
  /-- History: the number under which the demand was forwarded. -/
  demand : Nat

/-- Groups of a location update that the network decides on after the registration. -/
structure PendingLocationAttachment where
  registration : PendingRegistration
  attachment : PendingAttachment
  ruaRequested : Bool
  /-- History: when the network was asked. -/
  since : TdmaTime

/-- An acceptance that the link layer delivers. -/
structure PendingRegistrationDelivery where
  commandId : Option Nat
  authenticationDownlink : Bool
  securityGroups : List Nat
  receipt : Nat

structure MmRequests where
  nextSwmiCommandId : Nat
  pendingRegistrations : Table PendingRegistration
  registrationDeadlines : Table TdmaTime
  pendingAttachments : Table PendingAttachment
  pendingLocationAttachments : Table PendingLocationAttachment
  authenticatedRegistrations : Finset Nat
  pendingLstRecoveries : Finset Nat
  pendingRegistrationDeliveries : Table PendingRegistrationDelivery
  /-- The command of the newest registration that the network accepted. -/
  registrationGenerations : Table Nat
  /-- Security classes that begin when an acceptance has been sent. -/
  pendingSecurityActivations : Table (TerminalSecurityClass × Nat)

/-! ### Exchanges that the cell begins -/

inductive GroupSecurityAssociationPhase where
  | linkDelivery | awaitingMmAcknowledgement
deriving DecidableEq

/-- The one key association of a terminal that waits for an acknowledgement. -/
structure PendingGroupSecurityAssociation where
  airHandle : Nat
  groups : List Nat
  receipt : Nat
  phase : GroupSecurityAssociationPhase
  acknowledgementDeadline : Option TdmaTime
  retries : Nat
  /-- History: the exchanges that this transmission is part of. -/
  exchanges : List Nat

/-- Associations that cannot start yet; the groups are a set. -/
structure QueuedGroupSecurityAssociation where
  airHandle : Nat
  groups : List Nat
  retries : Nat
  /-- History: the exchanges that are to be transmitted. -/
  exchanges : List Nat

inductive TerminalControlAction where
  | disconnect | amendTalkgroups | replaceTalkgroups | reregister | reauthenticate
  | requestInformation
deriving DecidableEq

def TerminalControlAction.isGroupControl : TerminalControlAction → Bool
  | amendTalkgroups | replaceTalkgroups => true
  | _ => false

/-- A command of an operator that the terminal has not answered. -/
structure PendingTerminalControl where
  commandId : Nat
  action : TerminalControlAction
  operations : List AttachmentOperation
  receipt : Option Nat
  responseDeadline : Option TdmaTime
  /-- History: the exchange, if it is one about groups. -/
  exchange : Option Nat

structure MmExchanges where
  pendingGroupSecurityAssociations : Table PendingGroupSecurityAssociation
  queuedGroupSecurityAssociations : Table QueuedGroupSecurityAssociation
  groupSecurityNotBefore : Table TdmaTime
  pendingTerminalControls : Table PendingTerminalControl
  /-- History: the number of the next exchange. -/
  nextExchange : Nat

/-! ### Messages -/

/-- Key associations: a key, and the groups that use it. -/
abbrev GroupSecurityInformation := List (BitVec 16 × List Nat)

structure GroupIdentityLocationAccept where
  groupIdentityAcceptReject : Bool
  groupIdentityDownlink : Option (List GroupIdentityDownlink)

structure DLocationUpdateAccept where
  locationUpdateAcceptType : LocationUpdateType
  authenticationSuccessful : Bool
  groupIdentityLocationAccept : Option GroupIdentityLocationAccept
  groupIdentitySecurityRelatedInformation : Option GroupSecurityInformation
  seamlessHandover : Option HandoverChannelAllocation
  ruaRequested : Bool

structure DLocationUpdateReject where
  locationUpdateType : LocationUpdateType
  rejectCause : Nat
  cipheringParameters : Option Nat
  addressExtension : Option Nat

structure DAttachDetachGroupIdentityAcknowledgement where
  groupIdentityAcceptReject : Bool
  groupIdentityDownlink : Option (List GroupIdentityDownlink)
  groupIdentitySecurityRelatedInformation : Option GroupSecurityInformation

structure DAttachDetachGroupIdentity where
  groupIdentityDownlink : List GroupIdentityDownlink
  groupIdentitySecurityRelatedInformation : Option GroupSecurityInformation

/-- A message to a terminal. The last argument of an answer to a location update is history: the
demand that it answers, if that was forwarded; that of a change of groups is the exchanges. -/
inductive MmDownlink where
  | locationUpdateAccept (pdu : DLocationUpdateAccept) (demand : Option Nat)
  | locationUpdateReject (pdu : DLocationUpdateReject) (demand : Option Nat)
  | locationUpdateCommand (groupIdentityReport : Bool)
  | attachDetachAcknowledgement (pdu : DAttachDetachGroupIdentityAcknowledgement)
  | attachDetachGroupIdentity (pdu : DAttachDetachGroupIdentity) (exchanges : List Nat)

/-- A message with its terminal and the handle of the exchange. -/
structure LmmMleUnitdataReq where
  address : Nat
  handle : Nat
  message : MmDownlink

/-- What the link layer was given. A receipt that was not yet given out is a new one. -/
structure MmRadio where
  receipts : Nat → TxReporter
  issued : Nat
  sent : List LmmMleUnitdataReq

/-- A message to the network. -/
inductive SwmiSubmission where
  | registrationAttempt (commandId itsi airHandle : Nat) (locationUpdateType : LocationUpdateType)
      (addressExtension : Option Nat) (forwardRegistrationTargetStationId : Option String)
  | attachmentAttempt (commandId itsi airHandle : Nat) (replaceAll : Bool)
      (operations : List AttachmentOperation)
  | deregistrationNotice (commandId itsi : Nat)
  | terminalControlResult (commandId itsi : Nat) (action : TerminalControlAction) (success : Bool)
      (cause : Nat) (results : List AttachmentResult)
  | lstRecoverySnapshot (commandId : Nat)

/-! ### The state -/

/-- History: where terminals have been. -/
structure MmPresence where
  /-- Terminals that were removed and have not come back since. -/
  removed : Finset Nat
  /-- The acceptance that a registration goes back to: a command of the network, or none if the cell
  accepted by itself. -/
  accepted : Table (Option Nat)

structure MmBs where
  currentTime : TdmaTime
  members : Affiliations
  aieSessions : AieSessions
  requests : MmRequests
  exchanges : MmExchanges
  radio : MmRadio
  submitted : List SwmiSubmission
  presence : MmPresence

/-- What mobility management sees around it: the settings of encryption, whether the network is
there, and which of the numbered requests its queue takes. -/
structure MmSurroundings where
  aie : AieSettings
  online : Bool
  taken : Nat → Bool

/-! ### Sessions of air interface encryption -/

namespace AieSessions

variable (sessions : AieSessions) (issi : Nat)

def removeTerminal : AieSessions :=
  { sessions with terminals := sessions.terminals.filter fun entry => entry.1 ≠ issi }

def setTerminalClass (securityClass : TerminalSecurityClass) (sc2 : Option RuntimeSc2Aie) :
    AieSessions :=
  let removed := sessions.removeTerminal issi
  let bound := match securityClass, sc2 with
    | .sc2, some sc2 =>
      { removed with terminals := (issi, .fromSc2 sc2) :: removed.terminals }
    | _, _ => removed
  { bound with terminalClasses := bound.terminalClasses.insert issi securityClass }

/-- A terminal leaves its own binding, its class, and the bindings of its calls. -/
def deactivateTerminal : AieSessions :=
  let removed := sessions.removeTerminal issi
  { removed with
    terminalClasses := removed.terminalClasses.erase issi
    calls := (removed.calls.map fun call => (call.1, call.2.filter fun bound =>
      match bound.1 with
      | .call _ (some value) _ => value ≠ issi
      | _ => true)).filter fun call => !call.2.isEmpty }

end AieSessions

/-! ### Key associations -/

def sortedDistinct (numbers : List Nat) : List Nat := (numbers.insertionSort (· ≤ ·)).dedup

namespace AieSettings

variable (aie : AieSettings)

def gcknForGssi (gssi : Nat) : Option (BitVec 16) :=
  (aie.sc3.filter (·.linkedGckCryptoPeriods)).bind fun sc3 => sc3.groupAssociations.lookup gssi

/-- The groups that a message can name: those with a key, at most thirty of them. -/
def normalizedGroupSecurityGssis (gssis : List Nat) : List Nat :=
  (sortedDistinct (gssis.filter fun gssi => (aie.gcknForGssi gssi).isSome)).take 30

/-- A group joins the first element with its key that has room. -/
def joinAssociation : GroupSecurityInformation → Nat → BitVec 16 → GroupSecurityInformation
  | [], gssi, gckn => [(gckn, [gssi])]
  | element :: elements, gssi, gckn =>
    if element.1 = gckn ∧ element.2.length < 30 then (element.1, element.2 ++ [gssi]) :: elements
    else element :: joinAssociation elements gssi gckn

def groupSecurityInformation (gssis : List Nat) : Option GroupSecurityInformation :=
  let elements := (aie.normalizedGroupSecurityGssis gssis).foldl
    (fun elements gssi => (aie.gcknForGssi gssi).elim elements (joinAssociation elements gssi)) []
  if elements.isEmpty then none else some elements

end AieSettings

namespace MmBs

def init (time : TdmaTime) : MmBs where
  currentTime := time
  members := .new
  aieSessions := ⟨⟨[], []⟩, ∅, ∅⟩
  requests := ⟨1, ∅, ∅, ∅, ∅, ∅, ∅, ∅, ∅, ∅⟩
  exchanges := ⟨∅, ∅, ∅, ∅, 0⟩
  radio := ⟨fun _ => .new, 0, []⟩
  submitted := []
  presence := ⟨∅, ∅⟩

variable (s : MmBs)

def receiptState (receipt : Nat) : TxState := (s.radio.receipts receipt).state

def submit (message : SwmiSubmission) : MmBs := { s with submitted := s.submitted ++ [message] }

def send (issi handle : Nat) (message : MmDownlink) : MmBs :=
  { s with radio := { s.radio with sent := s.radio.sent ++ [⟨issi, handle, message⟩] } }

def sendWithReceipt (issi handle : Nat) (message : MmDownlink) : MmBs × Nat :=
  ({ s with radio :=
      { s.radio with
        issued := s.radio.issued + 1
        sent := s.radio.sent ++ [⟨issi, handle, message⟩] } }, s.radio.issued)

/-- Take the number of the next command; numbers wrap around, past zero. -/
def nextSwmiCommandId : MmBs × Nat :=
  ({ s with requests :=
      { s.requests with nextSwmiCommandId := max ((s.requests.nextSwmiCommandId + 1) % 2 ^ 64) 1 } },
    s.requests.nextSwmiCommandId)

def returned (issi : Nat) : MmBs :=
  { s with presence := { s.presence with removed := s.presence.removed.erase issi } }

def noteAccepted (issi : Nat) (command : Option Nat) : MmBs :=
  { s with presence := { s.presence with accepted := s.presence.accepted.insert issi command } }

def registry (change : SubscriberRegistry → SubscriberRegistry) : MmBs :=
  { s with members := { s.members with subscribers := change s.members.subscribers } }

def activateTerminalSecurityClass (air : MmSurroundings) (issi : Nat)
    (securityClass : TerminalSecurityClass) : MmBs :=
  if air.aie.enabled then
    { s with aieSessions := s.aieSessions.setTerminalClass issi securityClass air.aie.sc2 }
  else s

def sendDLocationUpdateCommand (issi handle : Nat) (groupIdentityReport : Bool) : MmBs :=
  s.send issi handle (.locationUpdateCommand groupIdentityReport)

def sendDLocationUpdateReject (issi handle : Nat) (locationUpdateType : LocationUpdateType)
    (addressExtension : Option Nat) (rejectCause : Nat) (cipheringParameters : Option Nat)
    (demand : Option Nat) : MmBs :=
  s.send issi handle (.locationUpdateReject
    ⟨locationUpdateType, rejectCause, cipheringParameters, addressExtension⟩ demand)

end MmBs

end Bluestation
