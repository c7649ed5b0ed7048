/-
**Key management over the air.**

The network sends commands that provide, delete or ask for keys. A command to one terminal is tracked
from its admission until its link receipt fails, its terminal answers, or its deadline passes. The
answer carries no number of a command.

* `otarDownlink` — which commands are admitted, and under which protection they are sent.
* `updateOtarDeliveryStatuses` — what the cell learns from the link receipts, and the deadlines.
* `rxUOtar` — which command an answer completes.
-/

import Bluestation.Config.KeyProvider

namespace Bluestation

/-! ### Commands and answers -/

/-- The number and the version by which a PDU names a key. -/
abbrev OtarKeyId := Nat × Nat

inductive OtarTerminalResponse where
  | cckResult | sckResult | gckResult | gskoResult | keyDeleteResult | keyStatusResponse
  | cmgGtsiResult
deriving DecidableEq

inductive OtarDownlinkKind where
  | cckProvide | cckReject | sckProvide | sckReject | gckProvide | gckReject | gskoProvide
  | gskoReject | keyDeleteDemand | keyStatusDemand | cmgGtsiProvide
deriving DecidableEq

namespace OtarDownlinkKind

def expectedResponse : OtarDownlinkKind → Option OtarTerminalResponse
  | cckProvide => some .cckResult
  | sckProvide => some .sckResult
  | gckProvide => some .gckResult
  | gskoProvide => some .gskoResult
  | keyDeleteDemand => some .keyDeleteResult
  | keyStatusDemand => some .keyStatusResponse
  | cmgGtsiProvide => some .cmgGtsiResult
  | cckReject | sckReject | gckReject | gskoReject => none

def isClearGskoBootstrap (kind : OtarDownlinkKind) : Bool :=
  kind = gskoProvide || kind = gskoReject

end OtarDownlinkKind

/-- A command with the keys that it names. -/
inductive DOtar where
  | cckProvide (keys : List OtarKeyId)
  | cckReject
  | sckProvide (keys : List OtarKeyId)
  | sckReject
  | gckProvide (keys : List OtarKeyId) (groupSessionKey : Bool)
  | gckReject
  | gskoProvide (versionNumber cmgGssi : Nat)
  | gskoReject (cmgGssi rejectReason : Nat)
  | keyDeleteDemand (keys : List OtarKeyId)
  | keyStatusDemand (keys : List OtarKeyId)
  | cmgGtsiProvide (keys : List OtarKeyId)
deriving DecidableEq

namespace DOtar

def kind : DOtar → OtarDownlinkKind
  | cckProvide _ => .cckProvide
  | cckReject => .cckReject
  | sckProvide _ => .sckProvide
  | sckReject => .sckReject
  | gckProvide _ _ => .gckProvide
  | gckReject => .gckReject
  | gskoProvide _ _ => .gskoProvide
  | gskoReject _ _ => .gskoReject
  | keyDeleteDemand _ => .keyDeleteDemand
  | keyStatusDemand _ => .keyStatusDemand
  | cmgGtsiProvide _ => .cmgGtsiProvide

/-- The keys that a command names; the cell looks only at those of a group key provision. -/
def keys : DOtar → List OtarKeyId
  | cckProvide keys | sckProvide keys | gckProvide keys _ | keyDeleteDemand keys
  | keyStatusDemand keys | cmgGtsiProvide keys => keys
  | gskoProvide versionNumber cmgGssi => [(cmgGssi, versionNumber)]
  | cckReject | sckReject | gckReject | gskoReject _ _ => []

end DOtar

/-- An answer with the keys that it names; code 0 is success. -/
inductive UOtar where
  | cckDemand | sckDemand | gckDemand | gskoDemand
  | cckResult (keys : List OtarKeyId) (provisionResult : Nat) (futureProvisionResult : Option Nat)
  | sckResult (results : List (OtarKeyId × Nat))
  | gckResult (results : List (OtarKeyId × Nat))
  | gskoResult (versionNumber cmgGssi provisionResult : Nat)
  | keyDeleteResult (keys : List OtarKeyId) (isSuccess : Bool)
  | keyStatusResponse (keys : List OtarKeyId)
  | cmgGtsiResult (keys : List OtarKeyId)

namespace UOtar

/-- What an answer answers, and whether it reports success. -/
def response : UOtar → Option (OtarTerminalResponse × Bool)
  | cckDemand | sckDemand | gckDemand | gskoDemand => none
  | cckResult _ provisionResult future =>
    some (.cckResult, provisionResult = 0 && future.all fun code => code = 0)
  | sckResult results => some (.sckResult, results.all fun entry => entry.2 = 0)
  | gckResult results => some (.gckResult, results.all fun entry => entry.2 = 0)
  | gskoResult _ _ provisionResult => some (.gskoResult, provisionResult = 0)
  | keyDeleteResult _ isSuccess => some (.keyDeleteResult, isSuccess)
  | keyStatusResponse _ => some (.keyStatusResponse, true)
  | cmgGtsiResult _ => some (.cmgGtsiResult, true)

/-- The keys that an answer names; the cell looks only at those of a group key result. -/
def keys : UOtar → List OtarKeyId
  | cckDemand | sckDemand | gckDemand | gskoDemand => []
  | cckResult keys _ _ | keyDeleteResult keys _ | keyStatusResponse keys | cmgGtsiResult keys => keys
  | sckResult results | gckResult results => results.map (·.1)
  | gskoResult versionNumber cmgGssi _ => [(cmgGssi, versionNumber)]

/-- The answers that a terminal may send in clear although it has a key. -/
def isAllowedClear : UOtar → Bool
  | cckResult _ _ _ | sckResult _ | gskoDemand | gskoResult _ _ _ | keyDeleteResult _ _ => true
  | _ => false

end UOtar

/-! ### The state of the deliveries -/

inductive OtarDeliveryStatus where
  | queued | airTransmitted | linkAcknowledged | awaitingTerminalResult
  | terminalResult (success : Bool)
  | linkFailed (state : TxState)
  | timedOut
deriving DecidableEq

structure CompletedOtarDelivery where
  commandId : Nat
  issi : Nat
  kind : OtarDownlinkKind
  status : OtarDeliveryStatus
deriving DecidableEq

structure PendingOtarDelivery where
  issi : Nat
  airHandle : Nat
  kind : OtarDownlinkKind
  expectedResponse : Option OtarTerminalResponse
  gckKeys : Option (List OtarKeyId)
  txReporter : TxReporter
  status : OtarDeliveryStatus
  resultDeadline : TdmaTime

inductive GskoBootstrapStatus where
  | requested
  | providing (commandId versionNumber cmgGssi : Nat)
  | provisioned (versionNumber cmgGssi : Nat)
  | rejected (commandId cmgGssi reason : Nat)
  | failed (commandId : Nat)

/-- A report to the network about a key provision that belongs to a rollover. -/
structure RolloverOtarStatus where
  rolloverId : Nat
  issi : Nat
  airHandle : Nat
  state : String
  success : Option Bool

structure OtarTracker where
  currentTime : TdmaTime
  pendingOtarDeliveries : Table PendingOtarDelivery
  /-- The last outcomes, at most 64 of them. -/
  recentOtarDeliveries : List CompletedOtarDelivery
  gskoBootstraps : Table GskoBootstrapStatus
  /-- The reports that were made. -/
  reports : List RolloverOtarStatus
  /-- All outcomes that were ever remembered. -/
  outcomes : List CompletedOtarDelivery

def maxRecentOtarDeliveries : Nat := 64

def rolloverOtarResultTimeoutTimeslots : Int := 128 * 18 * 4

def rolloverOtarId (commandId issi : Nat) (kind : OtarDownlinkKind) : Option Nat :=
  if kind = .sckProvide ∧ commandId % 2 ^ 24 = issi ∧ commandId / 2 ^ 24 ≠ 0 then
    some (commandId / 2 ^ 24)
  else none

def otarKeyBefore (first second : OtarKeyId) : Prop :=
  first.1 < second.1 ∨ first.1 = second.1 ∧ first.2 ≤ second.2

instance : DecidableRel otarKeyBefore := fun first second =>
  inferInstanceAs (Decidable (first.1 < second.1 ∨ first.1 = second.1 ∧ first.2 ≤ second.2))

def sortedKeys (keys : List OtarKeyId) : List OtarKeyId := keys.insertionSort otarKeyBefore

namespace OtarTracker

variable (s : OtarTracker)

def reportRolloverOtarStatus (commandId issi airHandle : Nat) (kind : OtarDownlinkKind)
    (state : String) (success : Option Bool) : OtarTracker :=
  match rolloverOtarId commandId issi kind with
  | none => s
  | some rolloverId =>
    { s with reports := s.reports ++ [⟨rolloverId, issi, airHandle, state, success⟩] }

def rememberOtarOutcome (delivery : CompletedOtarDelivery) : OtarTracker :=
  let recent := if s.recentOtarDeliveries.length = maxRecentOtarDeliveries then
    s.recentOtarDeliveries.tail else s.recentOtarDeliveries
  { s with recentOtarDeliveries := recent ++ [delivery], outcomes := s.outcomes ++ [delivery] }

def setGsko (issi : Nat) (status : GskoBootstrapStatus) : OtarTracker :=
  { s with gskoBootstraps := s.gskoBootstraps.insert issi status }

def lostGsko (kind : OtarDownlinkKind) : OtarDeliveryStatus → Bool
  | .linkFailed _ => kind = .gskoProvide
  | _ => false

def completeOtarDelivery (commandId : Nat) (status : OtarDeliveryStatus) : OtarTracker :=
  match s.pendingOtarDeliveries.lookup commandId with
  | none => s
  | some pending =>
    let s := { s with pendingOtarDeliveries := s.pendingOtarDeliveries.erase commandId }
    let s := if lostGsko pending.kind status then s.setGsko pending.issi (.failed commandId) else s
    s.rememberOtarOutcome ⟨commandId, pending.issi, pending.kind, status⟩

/-! ### Link receipts and deadlines -/

end OtarTracker

/-- What is done about a delivery: its new status, its outcome, and the report. -/
structure OtarPoll where
  status : OtarDeliveryStatus
  complete : Option OtarDeliveryStatus
  event : Option (String × Option Bool)

namespace PendingOtarDelivery

variable (pending : PendingOtarDelivery)

/-- What the link receipt says. -/
def readReceipt : OtarPoll :=
  match pending.txReporter.state with
  | .pending => ⟨pending.status, none, none⟩
  | .discarded => ⟨.linkFailed .discarded, some (.linkFailed .discarded), some ("link-failed", some false)⟩
  | .lost => ⟨.linkFailed .lost, some (.linkFailed .lost), some ("link-failed", some false)⟩
  | .transmitted =>
    if pending.status = .queued then
      if pending.txReporter.expectsAck then ⟨.airTransmitted, none, none⟩
      else if pending.expectedResponse.isSome then ⟨.awaitingTerminalResult, none, none⟩
      else ⟨.airTransmitted, some .airTransmitted, none⟩
    else ⟨pending.status, none, none⟩
  | .acknowledged =>
    if pending.status = .linkAcknowledged ∨ pending.status = .awaitingTerminalResult then
      ⟨pending.status, none, none⟩
    else if pending.expectedResponse.isSome then
      ⟨.awaitingTerminalResult, none, some ("link-ack", some true)⟩
    else ⟨.linkAcknowledged, some .linkAcknowledged, none⟩

def poll (currentTime : TdmaTime) : OtarPoll :=
  let read := pending.readReceipt
  if read.status = .awaitingTerminalResult ∧ 0 ≤ pending.resultDeadline.age currentTime then
    ⟨.timedOut, some .timedOut, some ("timeout", some false)⟩
  else read

end PendingOtarDelivery

namespace OtarTracker

variable (s : OtarTracker)

def updateOtarDeliveryStatus (commandId : Nat) : OtarTracker :=
  match s.pendingOtarDeliveries.lookup commandId with
  | none => s
  | some pending =>
    let poll := pending.poll s.currentTime
    let s := { s with
      pendingOtarDeliveries :=
        s.pendingOtarDeliveries.insert commandId { pending with status := poll.status } }
    let s := match poll.complete with
      | none => s
      | some status => s.completeOtarDelivery commandId status
    match poll.event with
    | none => s
    | some (event, success) =>
      s.reportRolloverOtarStatus commandId pending.issi pending.airHandle pending.kind event success

variable (order : List Nat)

def commandIds : List Nat := (s.pendingOtarDeliveries.rearrange order).keys

def updateOtarDeliveryStatuses : OtarTracker :=
  (s.commandIds order).foldl updateOtarDeliveryStatus s

/-! ### Answers of terminals -/

/-- The commands that an answer may answer. -/
def matchingDeliveries (issi airHandle : Nat) (response : OtarTerminalResponse) : List Nat :=
  (s.commandIds []).filter fun commandId =>
    (s.pendingOtarDeliveries.lookup commandId).any fun pending =>
      pending.issi = issi && pending.airHandle = airHandle &&
        pending.expectedResponse = some response

def completeOtarTerminalResponse (issi airHandle : Nat) (response : OtarTerminalResponse)
    (success : Bool) : OtarTracker :=
  match s.matchingDeliveries issi airHandle response with
  | [commandId] =>
    match s.pendingOtarDeliveries.lookup commandId with
    | none => s
    | some pending =>
      let s := if response = .gskoResult ∧ success = false then
        s.setGsko issi (.failed commandId) else s
      (s.completeOtarDelivery commandId (.terminalResult success)).reportRolloverOtarStatus
        commandId issi airHandle pending.kind "key-result" (some success)
  | _ => s

/-- The transmitted provisions of the same group keys. -/
def matchingGckDeliveries (issi airHandle : Nat) (resultKeys : List OtarKeyId) : List Nat :=
  (s.commandIds order).filter fun commandId =>
    (s.pendingOtarDeliveries.lookup commandId).any fun pending =>
      pending.issi = issi && pending.airHandle = airHandle &&
        pending.expectedResponse = some .gckResult &&
        (pending.status = .airTransmitted || pending.status = .linkAcknowledged ||
          pending.status = .awaitingTerminalResult) &&
        pending.gckKeys = some resultKeys

/-- Provisions of the same keys cannot be told apart; an answer completes all of them. -/
def completeGckTerminalResponse (issi airHandle : Nat) (results : List (OtarKeyId × Nat)) :
    OtarTracker :=
  if results.isEmpty then s
  else
    (s.matchingGckDeliveries order issi airHandle (sortedKeys (results.map (·.1)))).foldl
      (fun s commandId => s.completeOtarDelivery commandId
        (.terminalResult (results.all fun entry => entry.2 = 0))) s

/-- The settings and sessions when a message comes. -/
structure Surroundings where
  aie : AieSettings
  sessions : AieSessions
  isRegistered : Nat → Bool
  unixNow : Nat

def isClearFromBoundSc2Terminal (air : Surroundings) (issi : Nat) (encrypted : Bool) : Bool :=
  !encrypted && air.aie.enabled && air.isRegistered issi && air.sessions.terminalClass issi ≠ .sc1

/-- **An answer is credited** to a command, if there is one. -/
def rxUOtar (air : Surroundings) (order : List Nat) (issi airHandle : Nat) (encrypted : Bool)
    (pdu : UOtar) : OtarTracker :=
  if isClearFromBoundSc2Terminal air issi encrypted && !pdu.isAllowedClear then s
  else
    match pdu with
    | .gckResult results => s.completeGckTerminalResponse order issi airHandle results
    | .gskoDemand => s.setGsko issi .requested
    | .gskoResult versionNumber cmgGssi provisionResult =>
      let success := decide (provisionResult = 0)
      let s := s.completeOtarTerminalResponse issi airHandle .gskoResult success
      if success then s.setGsko issi (.provisioned versionNumber cmgGssi) else s
    | pdu =>
      match pdu.response with
      | none => s
      | some (response, success) => s.completeOtarTerminalResponse issi airHandle response success

end OtarTracker

/-! ### Commands of the network -/

def RuntimeSc3Aie.hasDck (sc3 : RuntimeSc3Aie) (unixNow issi : Nat) : Bool :=
  (sc3.dcks.lookup issi).any (runtimeDckIsUsable unixNow)

structure OtarDownlink where
  commandId : Nat
  itsi : Nat
  airHandle : Nat
  addressSsi : Nat
  acknowledged : Bool
  payloadBitLen : Nat
  payload : List (BitVec 8)
  /-- What the payload is decoded to, if it is well formed. -/
  pdu : Option DOtar

/-- What is handed to the link layer. -/
structure OtarRequest where
  handle : Nat
  address : TetraAddress
  acknowledged : Bool
  aieRequest : AieRequest Sc3KeyIdentifier
  pdu : DOtar

namespace OtarTracker

def otarDownlinkIsGroupAddressed (pdu : DOtar) (addressSsi issi : Nat) : Bool :=
  match pdu with
  | .gckProvide _ groupSessionKey => groupSessionKey && addressSsi ≠ issi
  | _ => false

variable (air : Surroundings)

def otarDownlinkAieRequest (issi : Nat) (kind : OtarDownlinkKind) :
    Except String (AieRequest Sc3KeyIdentifier) :=
  if !air.aie.enabled || kind.isClearGskoBootstrap then
    .ok (.clear (.individual issi) .macResource)
  else if air.aie.sc3.any fun sc3 => sc3.hasDck air.unixNow issi then
    .ok (.sc3 (.individual issi) .macResource none)
  else if (air.sessions.terminal issi).isSome then .ok (.sc2 (.individual issi) .macResource)
  else .error "SC2-only OTAR downlink has no active terminal cipher context"

def cmgOtarDownlinkAieRequest (cmgGssi : Nat) : Except String (AieRequest Sc3KeyIdentifier) :=
  if !air.aie.enabled then .ok (.clear (.group cmgGssi) .macResource)
  else if air.aie.sc3.isSome then .ok (.sc3 (.group cmgGssi) .macResource none)
  else .error "CMG-addressed GCK OTAR requires class-3 air-interface security"

variable (s : OtarTracker)

/-- The terminal's group security bootstrap, as far as a command tells. -/
def bootstrapOf (issi commandId : Nat) : DOtar → OtarTracker
  | .gskoProvide versionNumber cmgGssi =>
    s.setGsko issi (.providing commandId versionNumber cmgGssi)
  | .gskoReject cmgGssi rejectReason => s.setGsko issi (.rejected commandId cmgGssi rejectReason)
  | _ => s

/-- A delivery that begins. -/
def delivery (message : OtarDownlink) (pdu : DOtar) : PendingOtarDelivery where
  issi := message.itsi
  airHandle := message.airHandle
  kind := pdu.kind
  expectedResponse := pdu.kind.expectedResponse
  gckKeys := if pdu.kind = .gckProvide then some (sortedKeys pdu.keys) else none
  txReporter := .new
  status := .queued
  resultDeadline := s.currentTime.addTimeslots rolloverOtarResultTimeoutTimeslots

/-- A command to one terminal is tracked. -/
def track (message : OtarDownlink) (pdu : DOtar) : OtarTracker :=
  let s := { s with
    pendingOtarDeliveries :=
      s.pendingOtarDeliveries.insert message.commandId (s.delivery message pdu) }
  s.reportRolloverOtarStatus message.commandId message.itsi message.airHandle pdu.kind "announced" none

/-- The command that is admitted, if the message is one, with the protection it is sent under. -/
def admits (message : OtarDownlink) :
    Option (DOtar × Bool × Except String (AieRequest Sc3KeyIdentifier)) :=
  if 2 ^ 32 ≤ message.itsi ∨ 8 * message.payload.length < message.payloadBitLen then none
  else
    match message.pdu with
    | none => none
    | some pdu =>
      let groupAddressed := otarDownlinkIsGroupAddressed pdu message.addressSsi message.itsi
      if message.addressSsi ≠ message.itsi ∧ !groupAddressed then none
      else if groupAddressed ∧ message.acknowledged then none
      else if !groupAddressed ∧ !message.acknowledged then none
      else some (pdu, groupAddressed,
        if groupAddressed then cmgOtarDownlinkAieRequest air message.addressSsi
        else otarDownlinkAieRequest air message.itsi pdu.kind)

/-- **A command of the network**: what is sent, if it is admitted. -/
def otarDownlink (message : OtarDownlink) : OtarTracker × Option OtarRequest :=
  match admits air message with
  | none => (s, none)
  | some (pdu, _, .error _) =>
    (s.reportRolloverOtarStatus message.commandId message.itsi message.airHandle pdu.kind
      "link-failed" (some false), none)
  | some (pdu, groupAddressed, .ok aieRequest) =>
    let s := if groupAddressed then s else s.bootstrapOf message.itsi message.commandId pdu
    let s := if message.acknowledged then s.track message pdu else s
    (s, some ⟨message.airHandle,
      ⟨message.addressSsi, if groupAddressed then .gssi else .issi⟩,
      message.acknowledged, aieRequest, pdu⟩)

end OtarTracker

end Bluestation
