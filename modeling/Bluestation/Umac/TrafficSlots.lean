/-
**Traffic on the timeslots of the carrier.**

A timeslot may carry a circuit in each direction. Speech that comes in for the downlink waits in the
queue of the slot until a slot is built in traffic mode; the floor of the call switches between
traffic mode and hangtime. What protects the speech is a policy of its own for each slot, which the
messages of call control install and withdraw. Everything a timeslot has is in one record here; the
source keeps an array of four for each field.

* `TrafficSlot.putBlock`, `TrafficSlot.takeBlock` — the queue of speech.
* `TrafficSlot.rxControl` — the messages of call control.
* `TrafficSlot.rxTmdPrim` — speech from the network, and from the uplink of the same slot.
-/

import Bluestation.Lib.Run
import Bluestation.Umac.UplinkRequests

namespace Bluestation

def TCH_S_CAP : Nat := 274

/-! ### The state of a timeslot -/

/-- What decides whether a subject is protected: the settings, and the classes of groups and
terminals. -/
structure TrafficAieConfig where
  enabled : Bool
  sc3 : Option (Nat → Option Nat)
  groupProtection : Nat → GroupProtection
  terminalClass : Nat → TerminalSecurityClass

structure Circuit where
  callId : Nat
  usage : Nat
deriving DecidableEq

/-- A signalling block that steals the first half of a slot. -/
structure Stealing where
  block : List Bool
  aieRequest : AieRequest Unit
  cipherRegion : Option (Nat × Nat)
deriving DecidableEq

/-- A timeslot: its circuits, the speech that waits, the stealing blocks that wait, the policies,
the call that owns it, and who may speak. -/
structure TrafficSlot where
  dl : Option Circuit
  ul : Option Circuit
  txData : List (List UInt8)
  hangtime : Bool
  stealing : List Stealing
  trafficAie : Option (AieRequest Unit)
  uplinkTrafficAie : Option (AieRequest Unit)
  trafficCallOwner : Option Nat
  trafficFloorHolder : Option Nat
  privateMedia : Bool
  duplexPrivateMedia : Bool

def TrafficSlot.idle : TrafficSlot :=
  ⟨none, none, [], false, [], none, none, none, none, false, false⟩

/-! ### Policies -/

namespace TrafficAieConfig

def groupOf : AieSubject → Option Nat
  | .group gssi => some gssi
  | .call _ _ gssi => gssi
  | _ => none

def terminalOf : AieSubject → Option Nat
  | .individual issi => some issi
  | .call _ issi _ => issi
  | _ => none

/-- How a subject is protected; nothing if it is not. -/
def activeAieRequest (aie : TrafficAieConfig) (subject : AieSubject) (scope : AieScope) :
    Option (AieRequest Unit) :=
  if !aie.enabled then none
  else if (groupOf subject).any fun gssi =>
      !aie.sc3.any (fun gckn => (gckn gssi).isSome) && aie.groupProtection gssi = .clear then none
  else
    let cell := if aie.sc3.isSome then .sc3 subject scope none else .sc2 subject scope
    match terminalOf subject with
    | some issi =>
      match aie.terminalClass issi with
      | .sc1 => none
      | .sc2 => some (.sc2 subject scope)
      | .sc3 => some (.sc3 subject scope none)
      | .unknown => some cell
    | none => some cell

end TrafficAieConfig

namespace TrafficSlot

open TrafficAieConfig

/-! ### Circuits and their speech -/

variable (slot : TrafficSlot)

def takeCircuit : Direction → Except Fault TrafficSlot
  | .dl => .ok { slot with txData := [], dl := none }
  | .ul => .ok { slot with ul := none }
  | .none | .both => .error .panic

def closeCircuit (dir : Direction) : Except Fault TrafficSlot :=
  { slot with hangtime := false }.takeCircuit dir

def isActive : Direction → Except Fault Bool
  | .dl => .ok slot.dl.isSome
  | .ul => .ok slot.ul.isSome
  | .none | .both => .error .panic

/-- A new circuit replaces the one that is still there. -/
def createCircuit (dir : Direction) (circuit : Circuit) :
    Except Fault TrafficSlot := do
  let slot := { slot with hangtime := false }
  let slot ← if ← slot.isActive dir then slot.takeCircuit dir else .ok slot
  match dir with
  | .dl => .ok { slot with txData := [], dl := some circuit }
  | .ul => .ok { slot with ul := some circuit }
  | .none | .both => .error .panic

def putBlock (block : List UInt8) : TrafficSlot :=
  if slot.dl.isNone then slot else { slot with txData := slot.txData ++ [block] }

def takeBlock : Option (List UInt8) × TrafficSlot :=
  match slot.dl, slot.txData with
  | some _, block :: waiting => (some block, { slot with txData := waiting })
  | _, _ => (none, slot)

/-! ### Messages of call control -/

inductive CallControl where
  | opened (callId ts usage : Nat) (direction : Direction)
  | close (callId ts : Nat) (direction : Direction)
  | configureGroupTrafficAie (callId gssi ts : Nat)
  | floorReleased (callId ts : Nat)
  | floorGranted (callId sourceIssi destGssi ts : Nat)
  | callEnded (callId ts : Nat)
  | privateCallTrafficActive (callId ts : Nat)
  | privateFloorGranted (callId sourceIssi : Nat) (destinationIssi : Option Nat) (ts : Nat)
  | privateMediaStart (callId sourceIssi destinationIssi ts : Nat)
  | privateMediaStop (callId ts : Nat)

/-- The timeslot a message is about. -/
def CallControl.ts : CallControl → Nat
  | opened _ ts _ _ | close _ ts _ | configureGroupTrafficAie _ _ ts | floorReleased _ ts
  | floorGranted _ _ _ ts | callEnded _ ts | privateCallTrafficActive _ ts
  | privateFloorGranted _ _ _ ts | privateMediaStart _ _ _ ts | privateMediaStop _ ts => ts

/-- The call a message is from. -/
def CallControl.callId : CallControl → Nat
  | opened callId _ _ _ | close callId _ _ | configureGroupTrafficAie callId _ _
  | floorReleased callId _ | floorGranted callId _ _ _ | callEnded callId _
  | privateCallTrafficActive callId _ | privateFloorGranted callId _ _ _
  | privateMediaStart callId _ _ _ | privateMediaStop callId _ => callId

/-- The directions a circuit is opened or closed in, one after the other. -/
def directions : Direction → List Direction
  | .both => [.dl, .ul]
  | .dl => [.dl]
  | .ul => [.ul]
  | .none => []

/-- The policies of a slot, at the upper and the lower MAC at once. -/
def setTrafficAie (downlink uplink : Option (AieRequest Unit)) : TrafficSlot :=
  { slot with trafficAie := downlink, uplinkTrafficAie := uplink }

def setHangtime (active : Bool) : TrafficSlot :=
  { slot with hangtime := active }

def ownsTrafficSlot (callId : Nat) : Bool :=
  slot.trafficCallOwner = some callId

def recycle : TrafficSlot :=
  { (slot.setTrafficAie none none).setHangtime false with
    trafficFloorHolder := none
    privateMedia := false
    duplexPrivateMedia := false }

/-- One direction of a new circuit; a circuit that is still there is closed first. -/
def openDirection (callId usage : Nat) (slot : TrafficSlot) (dir : Direction) :
    Except Fault TrafficSlot := do
  let slot ← if ← slot.isActive dir then slot.closeCircuit dir else .ok slot
  slot.createCircuit dir ⟨callId, usage⟩

def rxControlCircuitOpen (callId usage : Nat) (dir : Direction) :
    Except Fault TrafficSlot := do
  let slot := if slot.trafficCallOwner ≠ some callId then slot.recycle else slot
  if dir = .none then .ok slot
  else
    let slot ← (directions dir).foldlM (openDirection callId usage) slot
    .ok { slot with trafficCallOwner := some callId }

def rxControlCircuitClose (callId : Nat) (dir : Direction) :
    Except Fault TrafficSlot := do
  if !slot.ownsTrafficSlot callId || dir = .none then .ok slot
  else
    let slot ← (directions dir).foldlM (fun slot dir => slot.closeCircuit dir) slot
    .ok { slot.recycle with trafficCallOwner := none }

/-- The floor is granted: the slot goes back to traffic mode. Slot 1 never carries traffic. -/
def beginFloorGrantTransition (ts : Nat) : TrafficSlot :=
  if 2 ≤ ts ∧ ts ≤ 4 then slot.setHangtime false else slot

/-- What a message of the call that owns the slot does to the policies and the floor. -/
def obey (aie : TrafficAieConfig) (slot : TrafficSlot) : CallControl → TrafficSlot
  | .opened _ _ _ _ | .close _ _ _ => slot
  | .configureGroupTrafficAie _ gssi _ =>
    slot.setTrafficAie (aie.activeAieRequest (.group gssi) .traffic) none
  | .floorReleased _ _ => slot.setHangtime true
  | .floorGranted callId sourceIssi destGssi ts =>
    let subject := AieSubject.call callId (some sourceIssi) (some destGssi)
    let slot := { slot with trafficFloorHolder := some sourceIssi }
    (slot.setTrafficAie (aie.activeAieRequest (.group destGssi) .traffic)
      (aie.activeAieRequest subject .traffic)).beginFloorGrantTransition ts
  | .callEnded _ _ =>
    { (slot.setTrafficAie none none).setHangtime false with
      trafficCallOwner := none
      trafficFloorHolder := none
      duplexPrivateMedia := false }
  | .privateCallTrafficActive _ _ => { slot.setHangtime false with duplexPrivateMedia := true }
  | .privateFloorGranted callId sourceIssi destinationIssi ts =>
    let slot := { slot with trafficFloorHolder := some sourceIssi }
    let slot := match destinationIssi with
      | some destinationIssi => slot.setTrafficAie
          (aie.activeAieRequest (.call callId (some destinationIssi) none) .traffic)
          (aie.activeAieRequest (.call callId (some sourceIssi) none) .traffic)
      | none => slot
    slot.beginFloorGrantTransition ts
  | .privateMediaStart callId sourceIssi _ _ =>
    -- the terminal at this circuit, not the one at its other end
    let endpoint := aie.activeAieRequest (.call callId (some sourceIssi) none) .traffic
    { slot.setTrafficAie endpoint endpoint with privateMedia := true }
  | .privateMediaStop _ _ =>
    { slot.setTrafficAie none none with
      trafficCallOwner := none
      privateMedia := false
      duplexPrivateMedia := false
      trafficFloorHolder := none }

/-- What a message does to its timeslot. Every message but an opening is stale if its call does not
own the slot. -/
def rxControl (aie : TrafficAieConfig) (slot : TrafficSlot) :
    CallControl → Except Fault TrafficSlot
  | .opened callId _ usage dir => slot.rxControlCircuitOpen callId usage dir
  | .close callId _ dir => slot.rxControlCircuitClose callId dir
  | message => .ok (if slot.ownsTrafficSlot message.callId then slot.obey aie message else slot)

/-! ### Speech -/

/-- Speech from the network, or from the uplink of the slot itself. -/
inductive TmdPrim where
  | circuitDataReq (data : List UInt8)
  | circuitDataInd (data : List UInt8)

/-- One bit of each octet, eight to an octet. -/
def packUlAcelpBits (bits : List UInt8) : Option (List UInt8) :=
  let PACKED_TCH_S_BYTES := (TCH_S_CAP + 7) / 8
  if bits.length = PACKED_TCH_S_BYTES then some bits
  else if bits.length < TCH_S_CAP then none
  else
    some <| (List.range PACKED_TCH_S_BYTES).map fun chunk =>
      (List.range 8).foldl (fun byte bit =>
        let index := chunk * 8 + bit
        if index < TCH_S_CAP then
          byte ||| ((bits.getD index 0 &&& 1) <<< UInt8.ofNat (7 - bit))
        else byte) 0

/-- The speech that is admitted to the queue of the slot. Speech from the uplink is looped back
unless the call is private: then the network routes it to the other endpoint. -/
def admitted : TmdPrim → Option (List UInt8)
  | .circuitDataReq data => if slot.dl.isSome then some data else none
  | .circuitDataInd data =>
    if data.isEmpty then none
    else if slot.dl.isSome && !slot.privateMedia then packUlAcelpBits data
    else none

def rxTmdPrim (prim : TmdPrim) : TrafficSlot :=
  match slot.admitted prim with
  | some block => slot.putBlock block
  | none => slot

/-! ### Building a slot -/

/-- A hangtime takes effect once no stealing block waits for the traffic channel. -/
def isHangtimeEffective : Bool := slot.hangtime && slot.stealing.isEmpty

/-- The slot at `ts` is built in traffic mode. -/
def dlIsTraffic (ts : TdmaTime) : Bool :=
  slot.dl.isSome && ts.f ≠ 18 &&
    !(decide (2 ≤ ts.t ∧ ts.t ≤ 4) && slot.isHangtimeEffective)

/-- A frame that is too short for a traffic block is replaced by silence. -/
def isFrame (block : List UInt8) : Bool := TCH_S_CAP ≤ block.length * 8

def tchBits : Option (List UInt8) → List Bool
  | some block => (block.flatMap fun byte => Bits.bitsOf 8 byte.toNat).take TCH_S_CAP
  | none => List.replicate TCH_S_CAP false

/-- A traffic block: the frame it carries or silence, how it is protected, and the block that has
stolen its first half. -/
structure TrafficBlock where
  frame : Option (List UInt8)
  airInterfaceEncryption : Option (AieRequest Unit)
  stch : Option Stealing
deriving DecidableEq

/-- The traffic block of a slot, and what is left. -/
def dlBuildTrafficBlock : TrafficBlock × TrafficSlot :=
  let (block, slot) := slot.takeBlock
  (⟨block.filter isFrame, slot.trafficAie.map (·.withScope .traffic),
      slot.stealing.head?.map fun stolen =>
        { stolen with aieRequest := stolen.aieRequest.withScope .facch }⟩,
    { slot with stealing := slot.stealing.tail })

/-! ### Events -/

/-- What can happen to the traffic of a carrier. The signalling of a slot is queued, moved and
dropped by other parts of the scheduler: any stealing blocks may wait after that. -/
inductive TrafficEvent where
  | control (message : CallControl)
  | speech (ts : Nat) (prim : TmdPrim)
  | signalling (ts : Nat) (stealing : List Stealing)
  | buildSlot (ts : TdmaTime)

def TrafficEvent.ts : TrafficEvent → Nat
  | control message => message.ts
  | speech ts _ => ts
  | signalling ts _ => ts
  | buildSlot ts => ts.t

def TrafficEvent.IsOnCarrier (event : TrafficEvent) : Prop := 1 ≤ event.ts ∧ event.ts ≤ 4

instance (event : TrafficEvent) : Decidable event.IsOnCarrier :=
  inferInstanceAs (Decidable (_ ∧ _))

/-- What an event does to its timeslot. -/
def handle (aie : TrafficAieConfig) (slot : TrafficSlot) : TrafficEvent → Except Fault TrafficSlot
  | .control message => slot.rxControl aie message
  | .speech _ prim => .ok (slot.rxTmdPrim prim)
  | .signalling _ stealing => .ok { slot with stealing := stealing }
  | .buildSlot ts => .ok (if slot.dlIsTraffic ts then slot.dlBuildTrafficBlock.2 else slot)

end TrafficSlot

/-- The timeslots of the carrier. -/
abbrev TrafficPlane : Type := Nat → TrafficSlot

open TrafficSlot in
/-- One event. A message of call control for a timeslot that does not exist is ignored; anything
else there is a panic, which ends the run. -/
def TrafficPlane.step (aie : TrafficAieConfig) (plane : TrafficPlane) (event : TrafficEvent) :
    Option TrafficPlane :=
  if event.IsOnCarrier then
    match (plane event.ts).handle aie event with
    | .ok slot => some (Function.update plane event.ts slot)
    | .error _ => none
  else
    match event with
    | .control _ => some plane
    | _ => none

/-! ### What the messages of call control do to circuits and speech -/

namespace TrafficSlot

variable {slot after : TrafficSlot} {aie : TrafficAieConfig} {callId usage : Nat}

theorem openDirection_dl : openDirection callId usage slot .dl =
    .ok { slot with hangtime := false, txData := [], dl := some ⟨callId, usage⟩ } := by
  cases slot with
  | mk dl => cases dl <;> rfl

theorem openDirection_ul : openDirection callId usage slot .ul =
    .ok { slot with hangtime := false, ul := some ⟨callId, usage⟩ } := by
  cases slot with
  | mk dl ul => cases ul <;> rfl

def kept (slot : TrafficSlot) (callId : Nat) : TrafficSlot :=
  if slot.trafficCallOwner ≠ some callId then slot.recycle else slot

theorem rxControlCircuitOpen_eq (dir : Direction) : slot.rxControlCircuitOpen callId usage dir =
      .ok (match dir with
        | .none => slot.kept callId
        | .dl => { slot.kept callId with
            hangtime := false, txData := [], dl := some ⟨callId, usage⟩
            trafficCallOwner := some callId }
        | .ul => { slot.kept callId with
            hangtime := false, ul := some ⟨callId, usage⟩, trafficCallOwner := some callId }
        | .both => { slot.kept callId with
            hangtime := false, txData := [], dl := some ⟨callId, usage⟩, ul := some ⟨callId, usage⟩
            trafficCallOwner := some callId }) := by
  unfold rxControlCircuitOpen
  cases dir with
  | none => rfl
  | dl => rw [if_neg nofun, directions, List.foldlM_cons, openDirection_dl]; rfl
  | ul => rw [if_neg nofun, directions, List.foldlM_cons, openDirection_ul]; rfl
  | both =>
    rw [if_neg nofun, directions, List.foldlM_cons, openDirection_dl]
    change (openDirection _ _ _ .ul >>= _) >>= _ = _
    rw [openDirection_ul]
    rfl

theorem rxControlCircuitClose_eq (dir : Direction) : slot.rxControlCircuitClose callId dir =
      .ok (if slot.trafficCallOwner = some callId then
        match dir with
        | .none => slot
        | .dl => { slot.recycle with txData := [], dl := none, trafficCallOwner := none }
        | .ul => { slot.recycle with ul := none, trafficCallOwner := none }
        | .both => { slot.recycle with
            txData := [], dl := none, ul := none, trafficCallOwner := none }
        else slot) := by
  unfold rxControlCircuitClose ownsTrafficSlot
  by_cases owns : slot.trafficCallOwner = some callId
  · rw [if_pos owns, decide_eq_true owns]
    cases dir <;> rfl
  · rw [if_neg owns, decide_eq_false owns]
    rfl

def renews (slot : TrafficSlot) : CallControl → Bool
  | .opened _ _ _ dir => dir = .dl ∨ dir = .both
  | .close callId _ dir => slot.trafficCallOwner = some callId ∧ (dir = .dl ∨ dir = .both)
  | _ => false

theorem beginFloorGrantTransition_eq (ts : Nat) : slot.beginFloorGrantTransition ts =
    { slot with hangtime := if 2 ≤ ts ∧ ts ≤ 4 then false else slot.hangtime } := by
  unfold beginFloorGrantTransition setHangtime
  split <;> rfl

theorem obey_speech (message : CallControl) :
    (slot.obey aie message).stealing = slot.stealing ∧ (slot.obey aie message).dl = slot.dl ∧
      (slot.obey aie message).txData = slot.txData := by
  have granted {before : TrafficSlot} {ts : Nat} :
      (before.beginFloorGrantTransition ts).stealing = before.stealing ∧
        (before.beginFloorGrantTransition ts).dl = before.dl ∧
        (before.beginFloorGrantTransition ts).txData = before.txData := by
    rw [beginFloorGrantTransition_eq]
    exact ⟨rfl, rfl, rfl⟩
  cases message with
  | floorGranted => exact granted
  | privateFloorGranted _ _ destination => cases destination <;> exact granted
  | _ => exact ⟨rfl, rfl, rfl⟩

theorem kept_speech : (slot.kept callId).stealing = slot.stealing ∧
    (slot.kept callId).dl = slot.dl ∧ (slot.kept callId).txData = slot.txData := by
  unfold kept
  split <;> exact ⟨rfl, rfl, rfl⟩

/-- **A message leaves the downlink circuit and its speech alone, or drops the speech.** -/
theorem rxControl_speech {message : CallControl}
    (received : slot.rxControl aie message = .ok after) :
    after.stealing = slot.stealing ∧
      if slot.renews message then after.txData = []
      else after.dl = slot.dl ∧ after.txData = slot.txData := by
  have obeyed (isFixed : slot.renews message = false)
      (here : after = if slot.ownsTrafficSlot message.callId then slot.obey aie message else slot) :
      after.stealing = slot.stealing ∧
        if slot.renews message then after.txData = []
        else after.dl = slot.dl ∧ after.txData = slot.txData := by
    rw [isFixed, here]
    split
    · exact obey_speech message
    · exact ⟨rfl, rfl, rfl⟩
  cases message with
  | opened callId ts usage dir =>
    obtain rfl := Except.ok.inj ((rxControlCircuitOpen_eq dir).symm.trans received)
    have ⟨stealing, dl, txData⟩ : (slot.kept callId).stealing = slot.stealing ∧
        (slot.kept callId).dl = slot.dl ∧ (slot.kept callId).txData = slot.txData := kept_speech
    cases dir with
    | none | ul => exact ⟨stealing, dl, txData⟩
    | dl | both => exact ⟨stealing, rfl⟩
  | close callId ts dir =>
    obtain rfl := Except.ok.inj ((rxControlCircuitClose_eq dir).symm.trans received)
    unfold renews
    by_cases owns : slot.trafficCallOwner = some callId
    · cases dir <;> simp [owns, recycle, setTrafficAie, setHangtime]
    · simp [owns]
  | _ => exact obeyed rfl (Except.ok.inj received).symm

end TrafficSlot

/-! ### Runs with a log -/

open Machines TrafficSlot

/-- The timeslots, and a log beside each of them. -/
structure TrafficRun (Log : Type) where
  plane : TrafficPlane
  logs : Nat → Log

section Logged

variable {Log : Type} {aie : TrafficAieConfig} {note : Log → TrafficSlot → TrafficEvent → Log}
  {start : Log} {run next : TrafficRun Log} {event : TrafficEvent}

/-- One event, and what it adds to the log of its slot. -/
def TrafficRun.step (aie : TrafficAieConfig) (note : Log → TrafficSlot → TrafficEvent → Log)
    (run : TrafficRun Log) (event : TrafficEvent) : Option (TrafficRun Log) :=
  (run.plane.step aie event).map fun plane =>
    let log := note (run.logs event.ts) (run.plane event.ts) event
    ⟨plane, if event.IsOnCarrier then Function.update run.logs event.ts log else run.logs⟩

def quietCarrier (start : Log) : TrafficRun Log := ⟨fun _ => .idle, fun _ => start⟩

def trafficMachine (aie : TrafficAieConfig) (note : Log → TrafficSlot → TrafficEvent → Log)
    (start : Log) : Machine (TrafficRun Log) TrafficEvent where
  start run := run = quietCarrier start
  step := TrafficRun.step aie note

namespace TrafficRun

theorem step_cases (stepped : run.step aie note event = some next) :
    next = run ∨ ∃ after, (run.plane event.ts).handle aie event = .ok after ∧
      next = ⟨Function.update run.plane event.ts after,
        Function.update run.logs event.ts (note (run.logs event.ts) (run.plane event.ts) event)⟩ := by
  obtain ⟨plane, moved, rfl⟩ := Option.map_eq_some_iff.mp stepped
  unfold TrafficPlane.step at moved
  by_cases valid : event.IsOnCarrier
  · rw [if_pos valid] at moved
    cases handled : (run.plane event.ts).handle aie event with
    | error fault =>
      rw [handled] at moved
      cases moved
    | ok after =>
      rw [handled] at moved
      cases moved
      exact .inr ⟨after, rfl, congrArg (TrafficRun.mk _) (if_pos valid)⟩
  · rw [if_neg valid] at moved
    cases event with
    | control message =>
      cases moved
      exact .inl (congrArg (TrafficRun.mk _) (if_neg valid))
    | _ => cases moved

/-- **What every event keeps of its timeslot holds of all timeslots, in every run.** -/
theorem each_slot (allowed : Nat → Log → TrafficSlot → TrafficEvent → Prop)
    (holds : Nat → Log → TrafficSlot → Prop) (starts : ∀ ts, holds ts start .idle)
    (kept : ∀ log slot event after, holds event.ts log slot → allowed event.ts log slot event →
      slot.handle aie event = .ok after → holds event.ts (note log slot event) after)
    (reachable : Reachable (trafficMachine aie note start)
      (fun run event => allowed event.ts (run.logs event.ts) (run.plane event.ts) event) run) :
    ∀ ts, holds ts (run.logs ts) (run.plane ts) := by
  apply reachable.invariant
  · rintro first rfl
    exact starts
  · intro run event next held fits stepped
    rcases step_cases stepped with rfl | ⟨after, handled, rfl⟩
    · exact held
    · intro ts
      by_cases here : ts = event.ts
      · subst here
        simp only [Function.update_self]
        exact kept _ _ _ _ (held _) fits handled
      · simp only [Function.update_of_ne here]
        exact held ts

end TrafficRun

end Logged

end Bluestation
