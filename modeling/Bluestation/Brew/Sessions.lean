/-
**The bridge to the Brew network: its sessions.**

A speaker of the network opens a downlink session, for which call control sets up a call of the group.
A speaker of the cell opens an uplink session, which is kept by the timeslot of the call.

* `BrewEntity.handleGroupCallStart`, `BrewEntity.handleGroupCallEnd` — downlink sessions.
* `BrewEntity.handleLocalCallStart`, `BrewEntity.handleLocalCallTxStopped`,
  `BrewEntity.handleLocalCallEnd` — uplink sessions.

History beside the state numbers the sessions of both kinds, and notes how downlink sessions ended and
who holds the floor on every timeslot, as call control has told it.
-/

import Bluestation.Core.Fields
import Bluestation.Core.TdmaTime
import Bluestation.Lib.Table
import Bluestation.Lib.Run

namespace Bluestation

open Machines Bits

/-! ### The playout buffer -/

def brewJitterBaseFrames : Nat := 4
def brewJitterTargetMaxFrames : Nat := 12
def brewJitterMinFrames : Nat := 2
def brewJitterMaxFrames : Nat := 24

/-- The frames of a session that wait for their playout. How deep the buffer has to be depends on the
clock, and is an argument of every operation. -/
structure VoiceJitterBuffer where
  frames : List (List Nat)
  started : Bool
  targetFrames : Nat

namespace VoiceJitterBuffer

def withInitialLatency (initialLatencyFrames : Nat) : VoiceJitterBuffer :=
  ⟨[], false, brewJitterBaseFrames +
    min initialLatencyFrames (brewJitterTargetMaxFrames - brewJitterMinFrames)⟩

variable (buffer : VoiceJitterBuffer)

def push (frame : List Nat) (target : Nat) : VoiceJitterBuffer :=
  let frames := buffer.frames ++ [frame]
  { buffer with frames := frames.drop (frames.length - brewJitterMaxFrames), targetFrames := target }

/-- The next frame, once the buffer has been deep enough. -/
def popReady (target : Nat) : Option (List Nat) × VoiceJitterBuffer :=
  if !buffer.started && buffer.frames.length < buffer.targetFrames then (none, buffer)
  else match buffer.frames with
    | frame :: frames => (some frame, ⟨frames, true, target⟩)
    | [] => (none, ⟨[], false, target⟩)

end VoiceJitterBuffer

/-! ### Sessions -/

abbrev Uuid := Nat

/-- A downlink session; `session` is its number, as history. -/
structure ActiveCall where
  callId : Option Nat
  ts : Option Nat
  usage : Option Nat
  sourceIssi : Nat
  destGssi : Nat
  frameCount : Nat
  session : Nat

/-- A call whose session is over, and whose circuit may be used again. -/
structure HangingCall where
  uuid : Uuid
  callId : Nat
  ts : Nat
  usage : Nat
  sourceIssi : Nat
  destGssi : Nat
  frameCount : Nat
  since : Nat

/-- An uplink session; `session` is its number, as history. -/
structure UlForwardedCall where
  uuid : Uuid
  callId : Nat
  sourceIssi : Nat
  destGssi : Nat
  frameCount : Nat
  session : Nat

/-- A message to call control or to the MAC; a frame names its session as history. -/
inductive BrewMessage where
  | networkCallStart (uuid : Uuid) (sourceIssi destGssi priority : Nat) (session : Nat)
  | networkCallEnd (uuid : Uuid) (session : Nat)
  | tmdCircuitDataReq (ts : Nat) (data : List Nat) (session : Nat)

/-- A command for the network. -/
inductive BrewCommand where
  | sendGroupTx (uuid : Uuid) (sourceIssi destGssi priority service : Nat)
  | sendVoiceFrame (uuid : Uuid) (lengthBits : Nat) (data : List Nat)
  | sendGroupIdle (uuid : Uuid) (cause : Nat)
deriving DecidableEq

/-- History: a downlink session. -/
structure DownlinkSession where
  uuid : Uuid
  destGssi : Nat
deriving DecidableEq

/-- History: why a session ended without a message to call control. -/
inductive BrewExcuse where
  /-- Call control has ended it. -/
  | callControl
  /-- A later session of its group has taken its place. -/
  | replacedBy (session : Nat)

/-- History: who holds the floor on a timeslot, and the uplink session for it, if one was opened. -/
structure HeldFloor where
  callId : Nat
  sourceIssi : Nat
  destGssi : Nat
  session : Option Nat
deriving DecidableEq

structure BrewEntity where
  dltime : TdmaTime
  activeCalls : Table ActiveCall
  dlJitter : Table VoiceJitterBuffer
  hangingCalls : Table HangingCall
  ulForwarded : Table UlForwardedCall
  connected : Bool
  queue : List BrewMessage
  commands : List BrewCommand
  /-- History: the downlink sessions by number, how they ended, the uplink sessions, and the floors. -/
  sessions : List DownlinkSession
  excused : List (Nat × BrewExcuse)
  generated : Nat
  floors : Table HeldFloor

/-- The network's session identifiers, one after the other; the latency to start with, and the speakers
that the network takes. -/
structure BrewSetting where
  newV4 : Nat → Uuid
  jitterInitialLatencyFrames : Nat
  isBrewIssiRoutable : Nat → Bool

def groupCallHangtime : Nat := 5000

namespace BrewEntity

def new (dltime : TdmaTime) : BrewEntity := ⟨dltime, ∅, ∅, ∅, ∅, false, [], [], [], [], 0, ∅⟩

variable (setting : BrewSetting) (s : BrewEntity)

def push (message : BrewMessage) : BrewEntity := { s with queue := s.queue ++ [message] }

def send (command : BrewCommand) : BrewEntity := { s with commands := s.commands ++ [command] }

/-! ### Downlink sessions -/

variable (uuid : Uuid)

/-- The session is over; call control is not told. -/
def forget : BrewEntity :=
  { s with activeCalls := s.activeCalls.erase uuid, dlJitter := s.dlJitter.erase uuid }

def excuse (session : Nat) (why : BrewExcuse) : BrewEntity :=
  { s with excused := s.excused ++ [(session, why)] }

def update (call : ActiveCall) : BrewEntity :=
  { s with activeCalls := s.activeCalls.insert uuid call }

def staleCall (destGssi : Nat) : Option ((_ : Uuid) × ActiveCall) :=
  s.activeCalls.entries.find? fun entry => entry.2.destGssi = destGssi && entry.1 ≠ uuid

def evictStale (destGssi : Nat) : BrewEntity :=
  match s.staleCall uuid destGssi with
  | none => s
  | some stale => (s.forget stale.1).excuse stale.2.session (.replacedBy s.sessions.length)

/-- A new session, for which call control is asked for a circuit. -/
def openSession (sourceIssi destGssi priority frameCount : Nat) : BrewEntity :=
  { s with
    activeCalls := s.activeCalls.insert uuid
      ⟨none, none, none, sourceIssi, destGssi, frameCount, s.sessions.length⟩
    dlJitter :=
      if (s.dlJitter.lookup uuid).isSome then s.dlJitter
      else s.dlJitter.insert uuid (.withInitialLatency setting.jitterInitialLatencyFrames)
    hangingCalls := s.hangingCalls.erase destGssi
    sessions := s.sessions ++ [⟨uuid, destGssi⟩]
    queue := s.queue ++ [.networkCallStart uuid sourceIssi destGssi priority s.sessions.length] }

/-- The network starts a session, or changes its speaker. -/
def handleGroupCallStart (sourceIssi destGssi priority : Nat) : BrewEntity :=
  match s.activeCalls.lookup uuid with
  | some call =>
    if call.sourceIssi ≠ sourceIssi then
      (s.update uuid { call with sourceIssi }).push
        (.networkCallStart uuid sourceIssi destGssi priority call.session)
    else s
  | none =>
    (s.evictStale uuid destGssi).openSession setting uuid sourceIssi destGssi priority
      ((s.hangingCalls.lookup destGssi).elim 0 (·.frameCount))

def hang (call : ActiveCall) (now : Nat) : BrewEntity :=
  match call.callId, call.ts, call.usage with
  | some callId, some ts, some usage =>
    { s with
      hangingCalls := s.hangingCalls.insert call.destGssi
        ⟨uuid, callId, ts, usage, call.sourceIssi, call.destGssi, call.frameCount, now⟩ }
  | _, _, _ => s

def handleGroupCallEnd (now : Nat) : BrewEntity :=
  match s.activeCalls.lookup uuid with
  | none => s
  | some call => ((s.forget uuid).push (.networkCallEnd uuid call.session)).hang uuid call now

def expireHangingCalls (now : Nat) : BrewEntity :=
  { s with hangingCalls :=
      s.hangingCalls.retain fun _ hanging => now - hanging.since < groupCallHangtime }

/-- A frame of the network; it is kept once the session has a circuit. -/
def handleVoiceFrame (data : List Nat) (target : Nat) : BrewEntity :=
  match s.activeCalls.lookup uuid with
  | none => s
  | some call =>
    let counted := s.update uuid { call with frameCount := call.frameCount + 1 }
    if call.ts.isNone || data.length < 36 then counted
    else
      let jitter := (s.dlJitter.lookup uuid).getD
        (.withInitialLatency setting.jitterInitialLatencyFrames)
      { counted with dlJitter := s.dlJitter.insert uuid (jitter.push data.tail target) }

/-- The next frame of a session whose timeslot is on. -/
def playOut (targets : Uuid → Nat) (s : BrewEntity) (uuid : Uuid) : BrewEntity :=
  match s.activeCalls.lookup uuid, s.dlJitter.lookup uuid with
  | some call, some jitter =>
    if call.ts = some s.dltime.t then
      let popped := jitter.popReady (targets uuid)
      let next := { s with dlJitter := s.dlJitter.insert uuid popped.2 }
      match popped.1 with
      | none => next
      | some frame => next.push (.tmdCircuitDataReq s.dltime.t frame call.session)
    else s
  | _, _ => s

def drainJitterPlayout (order : List Uuid) (targets : Uuid → Nat) : BrewEntity :=
  if s.dltime.f = 18 then s
  else (s.activeCalls.rearrange order).keys.foldl (playOut targets) s

def tick (ts : TdmaTime) (order : List Uuid) (targets : Uuid → Nat) (now : Nat) : BrewEntity :=
  (({ s with dltime := ts } : BrewEntity).drainJitterPlayout order targets).expireHangingCalls now

def endings (order : List Uuid) : List BrewMessage :=
  (s.activeCalls.rearrange order).entries.map fun entry =>
    .networkCallEnd entry.1 entry.2.session

def releaseAllCalls (order : List Uuid) : BrewEntity :=
  { s with
    queue := s.queue ++ s.endings order
    activeCalls := ∅
    hangingCalls := ∅
    dlJitter := ∅ }

def setNetworkConnected (connected : Bool) : BrewEntity := { s with connected }

def rxNetworkCallReady (callId ts usage : Nat) : BrewEntity :=
  { s with activeCalls := s.activeCalls.modify uuid fun call =>
      { call with callId := some callId, ts := some ts, usage := some usage } }

/-- Call control has ended the call of a session. -/
def dropNetworkCall : BrewEntity :=
  match s.activeCalls.lookup uuid with
  | some call =>
    ({ s.forget uuid with hangingCalls := s.hangingCalls.erase call.destGssi } : BrewEntity).excuse
      call.session .callControl
  | none =>
    match s.hangingCalls.entries.find? fun entry => entry.2.uuid = uuid with
    | some entry => { s with hangingCalls := s.hangingCalls.erase entry.1 }
    | none => s

/-! ### Uplink sessions -/

def holdFloor (ts : Nat) (floor : HeldFloor) : BrewEntity :=
  { s with floors := s.floors.insert ts floor }

/-- History: the floor on the timeslot is released, if it is that of the call. -/
def loseFloor (callId ts : Nat) : BrewEntity :=
  if (s.floors.lookup ts).any (·.callId = callId) then { s with floors := s.floors.erase ts } else s

def generate : BrewEntity := { s with generated := s.generated + 1 }

def forward (ts : Nat) (fwd : UlForwardedCall) : BrewEntity :=
  { s with ulForwarded := s.ulForwarded.insert ts fwd }

/-- A speaker of the cell has the floor. -/
def handleLocalCallStart (callId sourceIssi destGssi ts : Nat) : BrewEntity :=
  if !s.connected || !setting.isBrewIssiRoutable sourceIssi then
    s.holdFloor ts ⟨callId, sourceIssi, destGssi, none⟩
  else match s.ulForwarded.lookup ts with
    | some fwd =>
      ((s.forward ts ⟨fwd.uuid, callId, sourceIssi, destGssi, 0, fwd.session⟩).send
        (.sendGroupTx fwd.uuid sourceIssi destGssi 0 0)).holdFloor ts
        ⟨callId, sourceIssi, destGssi, some fwd.session⟩
    | none =>
      let uuid := setting.newV4 s.generated
      ((s.generate.forward ts ⟨uuid, callId, sourceIssi, destGssi, 0, s.generated⟩).send
        (.sendGroupTx uuid sourceIssi destGssi 0 0)).holdFloor ts
        ⟨callId, sourceIssi, destGssi, some s.generated⟩

def closeUplink (ts : Nat) : BrewEntity := { s with ulForwarded := s.ulForwarded.erase ts }

/-- The floor is released; the call that the message names is not looked at. -/
def handleLocalCallTxStopped (callId ts : Nat) : BrewEntity :=
  let released := s.loseFloor callId ts
  match s.ulForwarded.lookup ts with
  | none => released
  | some fwd => (released.closeUplink ts).send (.sendGroupIdle fwd.uuid 0)

/-- The call is over; its session is taken to have been ended already. -/
def handleLocalCallEnd (callId ts : Nat) : BrewEntity := (s.loseFloor callId ts).closeUplink ts

def packAcelp (acelpBits : List Nat) : List Nat :=
  (List.range 35).map fun chunk =>
    valueOf ((List.range 8).map fun bit => (acelpBits.take 274).getD (chunk * 8 + bit) 0 % 2 = 1)

def steData (acelpBits : List Nat) : Option (List Nat) :=
  if acelpBits.length = 36 then some acelpBits
  else if acelpBits.length = 35 then some (0 :: acelpBits)
  else if acelpBits.length < 274 then none
  else some (0 :: packAcelp acelpBits)

/-- A frame of the timeslot. -/
def handleUlVoice (ts : Nat) (acelpBits : List Nat) : BrewEntity :=
  match s.ulForwarded.lookup ts with
  | none => s
  | some fwd =>
    let counted := s.forward ts { fwd with frameCount := fwd.frameCount + 1 }
    match steData acelpBits with
    | none => counted
    | some data => counted.send (.sendVoiceFrame fwd.uuid (data.length * 8 % 2 ^ 16) data)

end BrewEntity

/-! ### Runs -/

inductive BrewEntityEvent where
  | connected
  | disconnected (order : List Uuid)
  | groupCallStart (uuid : Uuid) (sourceIssi destGssi priority : Nat)
  | groupCallEnd (uuid : Uuid) (now : Nat)
  | voiceFrame (uuid : Uuid) (data : List Nat) (target : Nat)
  | tick (ts : TdmaTime) (order : List Uuid) (targets : Uuid → Nat) (now : Nat)
  | ulVoice (ts : Nat) (acelpBits : List Nat)
  | floorGranted (callId sourceIssi destGssi ts : Nat)
  | floorReleased (callId ts : Nat)
  | callEnded (callId ts : Nat)
  | networkCallEnd (uuid : Uuid)
  | networkCallReady (uuid : Uuid) (callId ts usage : Nat)

namespace BrewEntity

def step (setting : BrewSetting) (s : BrewEntity) : BrewEntityEvent → Option BrewEntity
  | .connected => some (s.setNetworkConnected true)
  | .disconnected order => some ((s.setNetworkConnected false).releaseAllCalls order)
  | .groupCallStart uuid sourceIssi destGssi priority =>
    some (s.handleGroupCallStart setting uuid sourceIssi destGssi priority)
  | .groupCallEnd uuid now => some (s.handleGroupCallEnd uuid now)
  | .voiceFrame uuid data target => some (s.handleVoiceFrame setting uuid data target)
  | .tick ts order targets now => some (s.tick ts order targets now)
  | .ulVoice ts acelpBits => some (s.handleUlVoice ts acelpBits)
  | .floorGranted callId sourceIssi destGssi ts =>
    some (s.handleLocalCallStart setting callId sourceIssi destGssi ts)
  | .floorReleased callId ts => some (s.handleLocalCallTxStopped callId ts)
  | .callEnded callId ts => some (s.handleLocalCallEnd callId ts)
  | .networkCallEnd uuid => some (s.dropNetworkCall uuid)
  | .networkCallReady uuid callId ts usage => some (s.rxNetworkCallReady uuid callId ts usage)

def machine (setting : BrewSetting) : Machine BrewEntity BrewEntityEvent where
  start s := ∃ dltime, s = new dltime
  step := step setting

end BrewEntity

end Bluestation
