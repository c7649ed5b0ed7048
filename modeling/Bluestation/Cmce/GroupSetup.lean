/-
**Group calls are set up.**

A terminal asks for a group call with a U-SETUP. With a network the request waits until the network has
given the call an identifier; without one the cell admits the call itself.

* `Cc.CcBs.openGroupCall` — the call gets its circuit, and runs.
* `Cc.CcBs.rxUSetupWith` — a U-SETUP, new or taken up again.
-/

import Bluestation.Cmce.PrivateCalls

namespace Bluestation.Cc

namespace CcBs

variable (s : CcBs)

/-! ### The call runs -/

/-- The caller may speak: it asked the cell, or the network gave it the floor. -/
def callerHasFloor (caller : Nat) : Option CentralSetup → Bool
  | none => true
  | some central => central.floorItsi = caller

def anotherSpeaks (caller : Nat) : Option CentralSetup → Bool
  | none => false
  | some central => central.floorItsi ≠ 0 && central.floorItsi ≠ caller

/-- The call that a U-SETUP starts. -/
def setupCall (caller gssi : Nat) (pdu : USetup) (central : Option CentralSetup) (circuit : CmceCircuit) :
    ActiveCall where
  origin :=
    match central with
    | some _ => .swmi
    | none => .cell caller
  destGssi := gssi
  sourceIssi := (central.map (·.floorItsi)).getD caller
  ts := circuit.ts
  usage := circuit.usage
  priority := (central.map (·.priority)).getD pdu.callPriority
  acknowledged := pdu.commType = .p2mpAcked
  txActive := callerHasFloor caller central || anotherSpeaks caller central
  hangtimeStart := none
  brewUuid := none

variable (setting : CcSetting)

/-- The other entities hear of the floor of a new call. -/
def announceSetup (caller gssi : Nat) (central : Option CentralSetup) (circuit : CmceCircuit)
    (call : ActiveCall) : CcBs :=
  let traffic :=
    if call.txActive then s.tell .umac (.floorGranted circuit.callId call.sourceIssi gssi circuit.ts)
    else s
  let brew :=
    if setting.isBrewGssiRoutable gssi then
      traffic.tell .brew (.floorGranted circuit.callId caller gssi circuit.ts)
    else traffic
  if central.isSome && callerHasFloor caller central then
    brew.tell .swmi (.floorGranted circuit.callId caller gssi circuit.ts)
  else brew

/-- The call runs on its circuit. -/
def runGroupCall (caller gssi : Nat) (pdu : USetup) (central : Option CentralSetup)
    (circuit : CmceCircuit) : CcBs :=
  let call := setupCall caller gssi pdu central circuit
  let opened :=
    (s.signalUmacCircuitOpen circuit).signalUmacGroupTrafficAie circuit.callId gssi circuit.ts
  let active := { opened with
    cachedSetups := opened.cachedSetups.insert circuit.callId gssi }.setActiveCall circuit.callId call
  (active.trackGroupCallListeners circuit.callId).announceSetup setting caller gssi central circuit call

/-- The circuit that a new call would get. -/
def allocateForSetup (pdu : USetup) : Option CentralSetup →
    Option CmceCircuit × CircuitMgr × TimeslotAllocator
  | some central =>
    s.circuits.allocateCircuitWithAllocatorAndCallId pdu.commType s.timeslotAlloc central.callId false
  | none => s.circuits.allocateCircuitWithAllocator pdu.commType s.timeslotAlloc

/-- The call gets the circuit that waits for it, or a new one. -/
def openGroupCall (caller gssi : Nat) (pdu : USetup) (central : Option CentralSetup) : CcBs :=
  match central.bind fun central => s.capacity.reservedGroups.lookup central.callId with
  | some circuit =>
    (s.takeReservedGroup ((central.map (·.callId)).getD 0)).runGroupCall setting caller gssi pdu central
      circuit
  | none =>
    match s.allocateForSetup pdu central with
    | (some circuit, radio) => (s.setRadio radio).runGroupCall setting caller gssi pdu central circuit
    | (none, radio) => s.setRadio radio

/-! ### Requests -/

def callTo (order : List Nat) (gssi : Nat) : Option ((_ : Nat) × ActiveCall) :=
  (s.activeCalls.rearrange order).entries.find? fun entry => entry.2.destGssi = gssi

def takeCentralSetup (key : Nat × Nat) : CcBs :=
  { s with centralSetups := s.centralSetups.erase key }

def awaitCentralSetup (key : Nat × Nat) (pdu : USetup) : CcBs :=
  { s with pendingSwmiSetups := s.pendingSwmiSetups.insert key pdu }

/-- The caller joins the call that runs. -/
def joinsRunning (around : Surroundings) (gssi : Nat) (central : Option CentralSetup) : Bool :=
  match s.callTo around.order gssi with
  | none => false
  | some entry =>
    match central with
    | some central => central.callId = entry.1
    | none => !around.online

/-- A U-SETUP for a private call is for the network to decide. -/
def rxPrivateUSetup (around : Surroundings) (caller : Nat) (pdu : USetup) : CcBs :=
  if pdu.calledPartySsi.isNone || !pdu.supported || !around.online then s
  else
    { s with
      pendingPrivateSetups :=
        if around.submits then s.pendingPrivateSetups.insert caller ()
        else s.pendingPrivateSetups.erase caller }

/-- A U-SETUP. Where the network does not decide, `localSetup` admits the call, or leaves it to the
procedure. -/
def rxUSetupWith (localSetup : CcBs → Nat → Nat → USetup → Option CcBs) (setting : CcSetting)
    (around : Surroundings) (caller : Nat) (pdu : USetup) : CcBs :=
  if pdu.commType = .p2p then s.rxPrivateUSetup around caller pdu
  else if !pdu.supported then s
  else match pdu.calledPartySsi with
    | none => s
    | some gssi =>
      if !s.hasListener gssi then s
      else
        let central := s.centralSetups.lookup (caller, gssi)
        let taken := s.takeCentralSetup (caller, gssi)
        if taken.joinsRunning around gssi central then taken
        else if around.online && central.isNone && around.submits then
          taken.awaitCentralSetup (caller, gssi) pdu
        else match if !around.online && central.isNone then localSetup taken caller gssi pdu
            else none with
          | some admitted => admitted
          | none => taken.openGroupCall setting caller gssi pdu central

/-- The request to the group that waits for the network; preferably that of the owner. -/
def pendingSetupFor (setupOrder : List (Nat × Nat)) (ownerItsi gssi : Nat) : Option (Nat × Nat) :=
  if (s.pendingSwmiSetups.lookup (ownerItsi, gssi)).isSome then some (ownerItsi, gssi)
  else (s.pendingSwmiSetups.rearrange setupOrder).keys.find? fun key => key.2 = gssi

/-- The request of the key is taken up again with what the network has said. -/
def resumeSetup (around : Surroundings) (key : Nat × Nat) (central : CentralSetup) : CcBs :=
  match s.pendingSwmiSetups.lookup key with
  | none => s
  | some request =>
    -- the identifier is the network's, so that the cell does not admit the call itself
    { s with
      pendingSwmiSetups := s.pendingSwmiSetups.erase key
      centralSetups := s.centralSetups.insert key central }.rxUSetupWith (fun _ _ _ _ => none) setting
        around key.1 request

def activeFloorHolderIsLocalMember (gssi floorItsi : Nat) : Bool :=
  floorItsi ≠ 0 && s.subscribers.attached floorItsi gssi

/-- The network starts a group call. -/
def groupCallStart (around : Surroundings) (callId ownerItsi gssi priority floorItsi : Nat)
    (acknowledged : Bool) (restoringItsi : Option Nat) : CcBs :=
  match callIdOf callId with
  | none => s
  | some callId =>
    match s.pendingSetupFor around.setupOrder ownerItsi gssi with
    | some key => s.resumeSetup setting around key ⟨callId, floorItsi, priority⟩
    | none =>
      let announceSetup := !(restoringItsi.any fun itsi => s.subscribers.attached itsi gssi) &&
        !s.activeFloorHolderIsLocalMember gssi floorItsi
      let call : PendingRemoteSwmiCall :=
        ⟨ownerItsi, gssi, priority, floorItsi, acknowledged, announceSetup⟩
      if !s.hasListener gssi then s.deferRemoteCall callId call
      else s.startRemoteSwmiCall callId call

end CcBs

end Bluestation.Cc
