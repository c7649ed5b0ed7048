/-
**What the terminals ask for.**

A terminal activates a context, deactivates it, asks for the channel, or sends data. Most requests
go on to the network under a command identifier; what the entity can decide itself it answers.

* `Sndcp.handleUplink` — one PDU of a terminal.
* `Sndcp.requestAccess` — a request for a bearer.
-/

import Bluestation.Sndcp.Bearers

namespace Bluestation

namespace Sndcp

variable (s : Sndcp)

/-- Why an activation is refused without asking the network. -/
def localReject (issi version nsapi msType : Nat) : Option Nat :=
  if version ≠ 1 then some 16
  else if nsapi ≠ defaultNsapi then some 19
  else if msType ≠ 1 ∧ msType ≠ 2 then some 15
  else if !s.config.isRegistered issi then some 1
  else if !s.isOnline then some 34
  else none

def unsupportedAddressRejectCause : Nat → Nat
  | 2 => 3
  | 3 => 17
  | 4 => 18
  | 5 => 27
  | _ => 0

def rejectActivation (context : RadioContext) (nsapi cause : Nat) : Sndcp :=
  (s.queueDownlink context (.activateReject nsapi cause none) .acknowledged none none)

/-- A new activation replaces any retained context, which is detached first. -/
def activateDemand (endpointId linkId issi version nsapi : Nat) (address : SndcpAddressRequest)
    (msType : Nat) (apnIndex : Option Nat) (chap : Option SndcpChapProof) : Sndcp :=
  let reject := s.localReject issi version nsapi msType
  let s := s.detachPacketBearer issi
  let context :=
    { RadioContext.new issi endpointId linkId nsapi none with
      chapIdentifier := chap.map (·.identifier)
      dynamicAddress := address = .dynamic }
  let s := s.insertContext context
  match reject with
  | some cause =>
    let s := s.rejectActivation context nsapi cause
    let s := if cause = 1 then s.queueRegistrationRecovery issi endpointId else s
    s.removeContext issi
  | none =>
    let commandId := s.nextCommandId
    let s := s.nextCommand
    let s := { s with pendingCommands := s.pendingCommands.insert commandId issi }
    let activate (s : Sndcp) (address : PacketAddressRequest) : Sndcp :=
      let sent := s.accepts
      let s := s.submit (.activate commandId issi endpointId (s.registrationGeneration issi) nsapi
        msType apnIndex address chap)
      if sent then s
      else
        let s := { s with pendingCommands := s.pendingCommands.erase commandId }
        (s.rejectActivation context nsapi 34).removeContext issi
    match address with
    | .dynamic => activate s .dynamic
    | .static ipv4 => activate s (.static ipv4)
    | .unsupported addressType =>
      let s := { s with pendingCommands := s.pendingCommands.erase commandId }
      (s.rejectActivation context nsapi
        (unsupportedAddressRejectCause addressType)).removeContext issi

def requestAccess (issi endpointId linkId : Nat) (resource : Option SndcpResourceRequest)
    (reconnect dataToSend : Bool) : Option Nat × Sndcp :=
  match s.contexts.lookup issi with
  | none => (none, s)
  | some found =>
    let context := { found with endpointId, linkId }
    let s := { s with contexts := s.contexts.insert issi context }
    let session := context.session.getD (0, 0)
    if session.1 = 0 && (!reconnect || context.snei.isNone) then (none, s)
    else
      let commandId := s.nextCommandId
      let s := s.nextCommand
      let s := { s with pendingCommands := s.pendingCommands.insert commandId issi }
      let sent := s.accepts
      (if sent then some commandId else none,
        s.submit (.access commandId issi endpointId (s.registrationGeneration issi) session.1
          session.2 dataToSend reconnect context.snei resource))

def identifiesContext (context : RadioContext) (deactivationType : Nat) (nsapi snei : Option Nat) :
    Bool :=
  deactivationType = 0 || (nsapi = some context.nsapi &&
    snei.all fun value => context.snei = some value)

/-- The demand is answered here, and the context it means is gone. -/
def deactivateLocally (context : RadioContext) (issi deactivationType : Nat) (nsapi snei : Option Nat)
    : Sndcp :=
  let s := s.queueDownlink context (.deactivateAccept deactivationType nsapi snei) .acknowledged
    none none
  if identifiesContext context deactivationType nsapi snei then s.removeContext issi else s

/-- The demand for a context that this station has lost: recover its session first. -/
def recoverOrDeactivate (context : RadioContext) (missing : Bool)
    (endpointId linkId issi deactivationType : Nat) (nsapi snei : Option Nat) : Sndcp :=
  if missing && deactivationType = 1 && snei.isSome then
    let s := s.insertContext context
    match s.requestAccess issi endpointId linkId none true false with
    | (some commandId, s) =>
      { s with
        pendingRecoveryDeactivations := s.pendingRecoveryDeactivations.insert commandId
          ⟨issi, deactivationType, nsapi, snei⟩ }
    | (none, s) => (s.removeContext issi).deactivateLocally context issi deactivationType nsapi snei
  else s.deactivateLocally context issi deactivationType nsapi snei

def deactivateDemand (endpointId linkId issi deactivationType : Nat) (nsapi snei : Option Nat) :
    Sndcp :=
  let found := s.contexts.lookup issi
  let context := found.getD (.new issi endpointId linkId (nsapi.getD defaultNsapi) snei)
  match context.session.filter fun _ => identifiesContext context deactivationType nsapi snei with
  | some (sessionId, sessionGeneration) =>
    let commandId := s.nextCommandId
    let s := s.nextCommand
    let s :=
      { s with
        pendingMsDeactivations := s.pendingMsDeactivations.insert commandId
          ⟨issi, deactivationType, nsapi, snei⟩ }
    let sent := s.accepts
    let s := s.submit (.deactivate commandId issi sessionId sessionGeneration false)
    if sent then s
    else
      let s := { s with pendingMsDeactivations := s.pendingMsDeactivations.erase commandId }
      s.recoverOrDeactivate context found.isNone endpointId linkId issi deactivationType nsapi snei
  | none =>
    s.recoverOrDeactivate context found.isNone endpointId linkId issi deactivationType nsapi snei

/-- The terminal has accepted the network's deactivation of this context. -/
def deactivationMatches (issi deactivationType : Nat) (nsapi snei : Option Nat)
    (pending : PendingNetworkDeactivation) : Bool :=
  (s.contexts.lookup issi).any fun context =>
    deactivationType = 1 && nsapi = some context.nsapi &&
      snei.all (fun value => context.snei = some value) &&
      context.session = some (pending.sessionId, pending.sessionGeneration)

def deactivateAccept (issi deactivationType : Nat) (nsapi snei : Option Nat) : Sndcp :=
  match s.pendingNetworkDeactivations.lookup issi with
  | none => s
  | some pending =>
    let s :=
      { s with pendingNetworkDeactivations := s.pendingNetworkDeactivations.erase issi }
    let found := s.deactivationMatches issi deactivationType nsapi snei pending
    let s := s.submit (.deactivateResult pending.commandId issi pending.sessionId
      pending.sessionGeneration found)
    if found then s.removeContext issi else s

def uplinkData (issi nsapi : Nat) (payload : List Nat) : Sndcp :=
  match s.contexts.lookup issi with
  | none => s
  | some context =>
    match context.session with
    | none => s
    | some (sessionId, sessionGeneration) =>
      if nsapi ≠ context.nsapi ∨ payload.length < 20 ∨
          payload.head?.map (· / 16) ≠ some 4 then s
      else
        let packetId := s.nextPacketId
        s.nextPacket.submit (.ipv4 sessionId sessionGeneration packetId payload)

/-- A context that was lost is made up from what the terminal says of it. -/
def transmitRequest (endpointId linkId issi nsapi : Nat) (snei : Option Nat)
    (resource : Option SndcpResourceRequest) : Sndcp :=
  match s.contexts.lookup issi with
  | none =>
    match snei with
    | none => s
    | some snei =>
      ((s.insertContext (.new issi endpointId linkId nsapi (some snei))).requestAccess issi
        endpointId linkId resource true true).2
  | some context =>
    if context.nsapi = nsapi ∧ snei.all (fun value => context.snei = some value) then
      (s.requestAccess issi endpointId linkId resource false true).2
    else s

def reconnect (endpointId linkId issi : Nat) (dataToSend : Bool) (nsapi snei : Option Nat)
    (resource : Option SndcpResourceRequest) : Sndcp :=
  match s.contexts.lookup issi with
  | some _ => (s.requestAccess issi endpointId linkId resource true dataToSend).2
  | none =>
    match snei with
    | none => s
    | some snei =>
      ((s.insertContext (.new issi endpointId linkId (nsapi.getD defaultNsapi)
        (some snei))).requestAccess issi endpointId linkId resource true dataToSend).2

def uplinkEndOfData (issi : Nat) (immediateServiceChange : Bool) : Sndcp :=
  match (s.contexts.lookup issi).bind RadioContext.session with
  | none => s
  | some (sessionId, sessionGeneration) =>
    let commandId := s.nextCommandId
    s.nextCommand.submit (.endOfData commandId issi sessionId sessionGeneration
      immediateServiceChange)

def uplinkPageResponse (endpointId linkId issi nsapi : Nat) (available : Bool) (snei : Option Nat)
    (resource : Option SndcpResourceRequest) : Sndcp :=
  match s.contexts.lookup issi with
  | none => s
  | some found =>
    if nsapi ≠ found.nsapi ∨ snei.any (fun value => found.snei ≠ some value) then s
    else
      let context := { found with endpointId, linkId }
      let s := { s with contexts := s.contexts.insert issi context }
      match context.session with
      | none => s
      | some (sessionId, sessionGeneration) =>
        let commandId := s.nextCommandId
        let s := s.nextCommand
        let s := { s with pendingCommands := s.pendingCommands.insert commandId issi }
        s.submit (.pageResponse commandId issi endpointId (s.registrationGeneration issi)
          sessionId sessionGeneration available resource)

/-- A PDU of a terminal; one that cannot be decoded does not come here. -/
def handleUplink (endpointId linkId : Nat) (address : TetraAddress) (pdu : SndcpUplink) : Sndcp :=
  if address.ssiType ≠ .issi ∧ address.ssiType ≠ .ssi then s
  else
    let issi := address.ssi
    match pdu with
    | .activateDemand version nsapi requested msType apnIndex chap =>
      s.activateDemand endpointId linkId issi version nsapi requested msType apnIndex chap
    | .deactivateDemand deactivationType nsapi snei =>
      s.deactivateDemand endpointId linkId issi deactivationType nsapi snei
    | .deactivateAccept deactivationType nsapi snei =>
      s.deactivateAccept issi deactivationType nsapi snei
    | .data nsapi payload => s.uplinkData issi nsapi payload
    | .transmitRequest nsapi _ snei resource =>
      s.transmitRequest endpointId linkId issi nsapi snei resource
    | .reconnect dataToSend nsapi snei resource =>
      s.reconnect endpointId linkId issi dataToSend nsapi snei resource
    | .endOfData immediateServiceChange => s.uplinkEndOfData issi immediateServiceChange
    | .pageResponse nsapi available _ snei resource =>
      s.uplinkPageResponse endpointId linkId issi nsapi available snei resource

end Sndcp

end Bluestation
