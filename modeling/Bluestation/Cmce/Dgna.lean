/-
**Supplementary services: the commands of dynamic group number assignment, and their answers.**

A command waits until its terminal is registered; then it is put on the air, and waits for an answer
that names the same action and the same group. An interrogation may be answered in parts.

* `SsBs.handleDgnaCommand` — a command is held back, refused, or queued.
* `SsBs.takeAnswer` — an answer completes a command, adds a part, or is out of sequence.
* `DgnaRun` — the service, and what the terminals have sent and the cell has not yet received.

History beside the state numbers the commands, and notes where each was queued and when each answer
was sent, counted in downlink messages.
-/

import Bluestation.Lib.Dictionary
import Bluestation.Lib.Table
import Bluestation.Cmce.SsPdus

namespace Bluestation

open Machines Bits

/-! ### The state -/

structure DgnaCommand where
  jobId : Nat
  itsi : Nat
  action : Nat
  gssi : Option Nat
  name : Option String
deriving DecidableEq

/-- History: an answer of a terminal, and how many downlink messages were queued when it was sent. -/
structure DgnaAnswer where
  issi : Nat
  decoded : Option DecodedDgna
  sentAfter : Nat

structure PendingDgna where
  jobId : Nat
  groups : List DgnaObservedGroup
  nextSequence : Option Nat
  /-- History: the number of the command, its place among the downlink messages, and its answers. -/
  number : Nat
  queuedAt : Nat
  answers : List DgnaAnswer

def PendingDgna.hears (pending : PendingDgna) (answer : DgnaAnswer) : PendingDgna :=
  { pending with answers := pending.answers ++ [answer] }

/-- A command that is held back, with its number as history. -/
structure DeferredDgna where
  command : DgnaCommand
  number : Nat

/-- A message to the network; a result names, as history, its command, where that was queued, and the
answers it is taken from. -/
inductive SsSubmission where
  | dgnaResult (number : Nat) (queuedAt : Option Nat) (answers : List DgnaAnswer)
      (jobId itsi action : Nat) (success : Bool) (cause : Nat) (groups : List DgnaObservedGroup)
  | callWaitingRequest (commandId itsi operation waitingCalls : Nat)

/-- A downlink request; a command names, as history, its number. -/
structure SsDownlink where
  request : LcmcMleUnitdataReq
  commandOf : Option Nat

/-- What an answer has to name: the terminal, the action and the group. -/
abbrev DgnaKey := Nat × Nat × Option Nat

structure SsBs where
  swmi : Option (SwmiEndpoint SsSubmission)
  pending : Dictionary DgnaKey PendingDgna
  deferredUntilRegistered : Table DeferredDgna
  nextCommandId : Nat
  queue : List SsDownlink
  /-- History: the commands for valid terminals, by number. -/
  commands : List DgnaCommand

/-- What the service reads of the cell. -/
structure SsCell where
  isActive : Nat → Bool
  isRegistrationPending : Nat → Bool
  /-- The group's key, if the cell links group keys to groups. -/
  gckSelectNumber : Nat → Option Nat
  packetDeliveryRoute : Nat → Option AssociatedChannel

def SsCell.terminalReadyForDgna (cell : SsCell) (issi : Nat) : Bool :=
  cell.isActive issi && !cell.isRegistrationPending issi

namespace SsBs

def new (swmi : Option (SwmiEndpoint SsSubmission)) : SsBs := ⟨swmi, ∅, ∅, 1, [], []⟩

variable (cell : SsCell) (s : SsBs)

def submit (message : SsSubmission) : SsBs := { s with swmi := s.swmi.map (·.submit message) }

def sendFacility (issi : Nat) (sdu : List Bool) (associatedChannel : Option AssociatedChannel)
    (commandOf : Option Nat) : SsBs :=
  { s with queue := s.queue ++
      [⟨⟨sdu, .acknowledged, ⟨issi, .issi⟩, associatedChannel, none, none⟩, commandOf⟩] }

def queueFacility (issi : Nat) (ssPdu : List Bool) : SsBs :=
  match dFacility ssPdu with
  | none => s
  | some sdu => s.sendFacility issi sdu
      ((cell.packetDeliveryRoute issi).map ({ · with bestEffortKey := none })) none

/-! ### Commands -/

def commandSdu (command : DgnaCommand) : Option (List Bool) :=
  (encodeDgna command.action command.gssi command.name (command.gssi.bind cell.gckSelectNumber)).bind
    dFacility

/-- Wait for an answer; a command that waits for the same one is pushed out. -/
def await (key : DgnaKey) (pending : PendingDgna) : SsBs :=
  { s with pending := s.pending.insert key pending }

/-- A command that cannot be encoded fails at once; another one is queued and waits for its answer. -/
def startDgna (number : Nat) (command : DgnaCommand) : SsBs :=
  match commandSdu cell command with
  | none =>
    s.submit (.dgnaResult number none [] command.jobId command.itsi command.action false 0 [])
  | some sdu =>
    (s.await (command.itsi, command.action, command.gssi)
      ⟨command.jobId, [], none, number, s.queue.length, []⟩).sendFacility command.itsi sdu none
      (some number)

def defer (number : Nat) (command : DgnaCommand) : SsBs :=
  { s with deferredUntilRegistered :=
      s.deferredUntilRegistered.insert command.jobId ⟨command, number⟩ }

def handleDgnaCommand (number : Nat) (command : DgnaCommand) : SsBs :=
  if cell.terminalReadyForDgna command.itsi then s.startDgna cell number command
  else s.defer number command

def note (command : DgnaCommand) : SsBs := { s with commands := s.commands ++ [command] }

/-- A command of the network; one for a terminal that cannot be is dropped. -/
def dgnaCommand (command : DgnaCommand) : SsBs :=
  if 0x00ffffff < command.itsi then s
  else (s.note command).handleDgnaCommand cell s.commands.length command

def readyJobs (order : List Nat) : List Nat :=
  (s.deferredUntilRegistered.rearrange order).entries.filterMap fun entry =>
    if cell.terminalReadyForDgna entry.2.command.itsi then some entry.1 else none

def undefer (jobId : Nat) : SsBs :=
  { s with deferredUntilRegistered := s.deferredUntilRegistered.erase jobId }

def release (jobId : Nat) : SsBs :=
  match s.deferredUntilRegistered.lookup jobId with
  | none => s
  | some deferred => (s.undefer jobId).handleDgnaCommand cell deferred.number deferred.command

def tickStart (order : List Nat) : SsBs := (s.readyJobs cell order).foldl (release cell) s

/-- The answer to a terminal's request for call waiting. -/
def callWaitingResponse (itsi operation : Nat) (accepted active : Bool) (cause : Nat) : SsBs :=
  if 2 ^ 32 ≤ itsi then s
  else match encodeCallWaitingResponse operation accepted active cause with
    | none => s
    | some ssPdu => s.queueFacility cell itsi ssPdu

/-! ### Answers -/

/-- The result of a command that was queued. -/
def sendResult (pending : PendingDgna) (itsi action : Nat) (success : Bool) (cause : Nat)
    (groups : List DgnaObservedGroup) : SsBs :=
  s.submit (.dgnaResult pending.number (some pending.queuedAt) pending.answers pending.jobId itsi
    action success cause groups)

def forget (key : DgnaKey) : SsBs := { s with pending := s.pending.erase key }

/-- One more part of an interrogation, unless it is out of sequence. -/
def collect (pending : PendingDgna) (decoded : DecodedDgna) : Option PendingDgna :=
  match decoded.sequence with
  | some sequence =>
    let expected := pending.nextSequence.getD 1
    if sequence ≠ expected then none
    else some { pending with
      nextSequence := some (min (expected + 1) 255)
      groups := pending.groups ++ decoded.groups }
  | none =>
    if pending.nextSequence.isSome then none
    else some { pending with groups := pending.groups ++ decoded.groups }

/-- What a decoded answer does to the command that waits for it. -/
def completeDgna (key : DgnaKey) (waiting : PendingDgna) (decoded : DecodedDgna) (sentAfter : Nat) :
    SsBs :=
  let pending := waiting.hears ⟨key.1, some decoded, sentAfter⟩
  if decoded.action = actionInterrogate then
    match collect pending decoded with
    | none => (s.forget key).sendResult pending key.1 decoded.action false 0 []
    | some collected =>
      if !decoded.complete then s.await key collected
      else (s.forget key).sendResult collected key.1 decoded.action decoded.success decoded.cause
        collected.groups
  else
    (s.forget key).sendResult pending key.1 decoded.action decoded.success decoded.cause
      decoded.groups

def takeAnswer (issi : Nat) (decoded : DecodedDgna) (sentAfter : Nat) : SsBs :=
  match s.pending.lookup (issi, decoded.action, decoded.gssi) with
  | none => s
  | some pending => s.completeDgna (issi, decoded.action, decoded.gssi) pending decoded sentAfter

/-- The terminal does not support interrogations. -/
def rejectPendingInterrogation (issi sentAfter : Nat) : SsBs :=
  match s.pending.lookup (issi, actionInterrogate, none) with
  | none => s
  | some pending =>
    (s.forget (issi, actionInterrogate, none)).sendResult
      (pending.hears ⟨issi, none, sentAfter⟩) issi actionInterrogate false
      interrogationTypeNotSupported []

def takeCommandId : SsBs := { s with nextCommandId := wrappingSuccessor s.nextCommandId }

/-- Hand a terminal's request for call waiting to the network, if its routing fits. -/
def requestCallWaiting (issi routing : Nat) (decoded : DecodedCallWaiting) : SsBs :=
  let expectedRouting :=
    if decoded.operation = cwActivate ∨ decoded.operation = cwDeactivate then some 1
    else if decoded.operation = cwLocationChange then some 0
    else none
  if expectedRouting ≠ some routing then s
  else
    s.takeCommandId.submit
      (.callWaitingRequest s.nextCommandId issi decoded.operation decoded.waitingCalls)

/-- An uplink FACILITY message; one that cannot be read is dropped. -/
def routeReDeliver (issi : Nat) (facility : Option UFacility) (sentAfter : Nat) : SsBs :=
  match facility with
  | none => s
  | some facility =>
    match FacilityContent.ofFacility facility with
    | .callWaiting decoded => s.requestCallWaiting issi facility.routing decoded
    | .otherService ssType operation =>
      if ssLastGenericPduType < operation then
        s.queueFacility cell issi (encodeSsNotSupported ssType)
      else s
    | .unsupported => s.rejectPendingInterrogation issi sentAfter
    | .dgna decoded => s.takeAnswer issi decoded sentAfter

end SsBs

/-! ### Runs -/

/-- A message on its way from a terminal to the cell. -/
structure OnAir where
  issi : Nat
  facility : Option UFacility
  sentAfter : Nat

structure DgnaRun where
  ss : SsBs
  air : List OnAir

inductive DgnaEvent where
  | dgnaCommand (cell : SsCell) (command : DgnaCommand)
  | callWaitingResponse (cell : SsCell) (itsi operation : Nat) (accepted active : Bool) (cause : Nat)
  | tickStart (cell : SsCell) (order : List Nat)
  /-- A terminal sends a message. -/
  | sends (issi : Nat) (sdu : List Bool)
  /-- One of the messages on the way is received. -/
  | receives (cell : SsCell) (index : Nat)
  /-- The state of the channel to the network changes. -/
  | link (online : Bool) (room : Nat)

namespace DgnaRun

def step (run : DgnaRun) : DgnaEvent → Option DgnaRun
  | .dgnaCommand cell command => some { run with ss := run.ss.dgnaCommand cell command }
  | .callWaitingResponse cell itsi operation accepted active cause =>
    some { run with ss := run.ss.callWaitingResponse cell itsi operation accepted active cause }
  | .tickStart cell order => some { run with ss := run.ss.tickStart cell order }
  | .sends issi sdu =>
    let facility := (UFacility.fromBitbuf (BitBuffer.ofBits sdu)).toOption.map (·.1)
    some { run with air := run.air ++ [⟨issi, facility, run.ss.queue.length⟩] }
  | .receives cell index =>
    match run.air[index]? with
    | none => none
    | some message =>
      some ⟨run.ss.routeReDeliver cell message.issi message.facility message.sentAfter,
        run.air.eraseIdx index⟩
  | .link online room =>
    some { run with ss :=
      { run.ss with swmi := run.ss.swmi.map fun endpoint => { endpoint with online, room } } }

/-- The service has a channel to the network; without one no command comes. -/
def machine : Machine DgnaRun DgnaEvent where
  start run := ∃ endpoint : SwmiEndpoint SsSubmission, endpoint.handed = [] ∧
    run = ⟨SsBs.new (some endpoint), []⟩
  step := step

end DgnaRun

end Bluestation
