/-
**Speech is protected as its subject requires.**

Beside every timeslot stands what the messages of call control have said about it: the subject that
listens on its downlink, and the one that speaks on its uplink. Between an opening and the first
message that names a listener, and after the end of a call or of its media while the circuit is still
open, there is none, and the slot has no policy.

* `careful_speech_protected` — speech is protected as its listener requires, in every run in which
  no speech goes out while there is none.
* `speech_in_clear` — otherwise it goes out in clear.
-/

import Bluestation.Umac.SpeechQueue

namespace Bluestation

open Machines TrafficSlot Option Except

/-! ### Listeners and speakers -/

/-- Who listens on the downlink of a slot, and who speaks on its uplink. -/
structure PolicyLog where
  listener : Option AieSubject
  speaker : Option AieSubject
deriving DecidableEq

namespace PolicyLog

def unknown : PolicyLog := ⟨none, none⟩

/-- What a message of the call that owns the slot says. -/
def heed (log : PolicyLog) (slot : TrafficSlot) : CallControl → PolicyLog
  | .opened _ _ _ _ | .close _ _ _ | .privateCallTrafficActive _ _ => log
  | .configureGroupTrafficAie _ gssi _ => { log with listener := some (.group gssi) }
  | .floorReleased _ _ => { log with speaker := none }
  | .floorGranted callId sourceIssi destGssi _ =>
    ⟨some (.group destGssi), some (.call callId (some sourceIssi) (some destGssi))⟩
  | .callEnded _ _ | .privateMediaStop _ _ => unknown
  | .privateFloorGranted callId sourceIssi (some destinationIssi) _ =>
    ⟨some (.call callId (some destinationIssi) none), some (.call callId (some sourceIssi) none)⟩
  | .privateFloorGranted callId sourceIssi none _ =>
    -- at a circuit of its own an endpoint stays the speaker
    if slot.privateMedia then log
    else { log with speaker := some (.call callId (some sourceIssi) none) }
  | .privateMediaStart callId sourceIssi _ _ =>
    ⟨some (.call callId (some sourceIssi) none), some (.call callId (some sourceIssi) none)⟩

/-- What an event says about its slot. -/
def note (log : PolicyLog) (slot : TrafficSlot) : TrafficEvent → PolicyLog
  | .control (.opened callId _ _ _) =>
    if slot.trafficCallOwner ≠ some callId then unknown else log
  | .control (.close callId _ dir) =>
    if !slot.ownsTrafficSlot callId || dir = .none then log else unknown
  | .control message => if slot.ownsTrafficSlot message.callId then log.heed slot message else log
  | _ => log

end PolicyLog

/-- The carrier with what has been said about each timeslot. -/
abbrev policyMachine (aie : TrafficAieConfig) : Machine (TrafficRun PolicyLog) TrafficEvent :=
  trafficMachine aie PolicyLog.note .unknown

/-! ### Policies follow the listeners -/

/-- The subjects that a call serves on the downlink of a timeslot: its group, or the terminals
there. -/
abbrev Serves : Type := Nat → Nat → AieSubject → Prop

/-- The call of a slot: its owner, or the one whose circuit is still open. -/
def TrafficSlot.call (slot : TrafficSlot) : Option Nat :=
  slot.trafficCallOwner.or (slot.dl.map Circuit.callId)

/-- What the messages of the owner of a slot keep to. -/
def TrafficSlot.Heeds (serves : Serves) (log : PolicyLog) (slot : TrafficSlot) :
    CallControl → Prop
  | .configureGroupTrafficAie callId gssi ts =>
    serves callId ts (.group gssi) ∧ log.speaker = none
  | .floorGranted callId _ destGssi ts => serves callId ts (.group destGssi)
  | .privateFloorGranted callId _ (some destinationIssi) ts =>
    serves callId ts (.call callId (some destinationIssi) none)
  | .privateFloorGranted _ _ none _ => slot.privateMedia = true
  | .privateMediaStart callId sourceIssi _ ts =>
    serves callId ts (.call callId (some sourceIssi) none)
  | _ => True

namespace PolicyLog

/-- The policies of a slot are those of the listener, whom its call serves, and of the speaker. -/
structure Follows (aie : TrafficAieConfig) (serves : Serves) (ts : Nat) (log : PolicyLog)
    (slot : TrafficSlot) : Prop where
  policy : slot.trafficAie = log.listener.bind (aie.activeAieRequest · .traffic)
  served : ∀ subject, log.listener = some subject →
    ∃ callId, slot.trafficCallOwner = some callId ∧ serves callId ts subject
  uplink : ∀ subject, log.speaker = some subject →
    slot.uplinkTrafficAie = aie.activeAieRequest subject .traffic

variable {aie : TrafficAieConfig} {serves : Serves} {ts : Nat} {log : PolicyLog}
  {slot after : TrafficSlot} {event : TrafficEvent}

theorem follows_unknown (policy : slot.trafficAie = none) :
    unknown.Follows aie serves ts slot := ⟨policy, nofun, nofun⟩

theorem Follows.congr (follows : log.Follows aie serves ts slot)
    (policy : after.trafficAie = slot.trafficAie)
    (owner : after.trafficCallOwner = slot.trafficCallOwner)
    (uplink : after.uplinkTrafficAie = slot.uplinkTrafficAie) :
    log.Follows aie serves ts after :=
  ⟨policy.trans follows.policy, fun subject here => owner ▸ follows.served subject here,
    fun subject here => uplink.trans (follows.uplink subject here)⟩

/-- **A message of the owner names whom it serves, and installs that policy.** -/
theorem Follows.obey {message : CallControl} (follows : log.Follows aie serves message.ts slot)
    (heeds : slot.Heeds serves log message)
    (owner : slot.trafficCallOwner = some message.callId) :
    (log.heed slot message).Follows aie serves message.ts (slot.obey aie message) := by
  have granted {before : TrafficSlot} {ts : Nat} {log : PolicyLog}
      (here : log.Follows aie serves ts before) {at' : Nat} :
      log.Follows aie serves ts (before.beginFloorGrantTransition at') := by
    rw [beginFloorGrantTransition_eq]
    exact here.congr rfl rfl rfl
  cases message with
  | opened callId ts usage dir => exact follows
  | close callId ts dir => exact follows
  | configureGroupTrafficAie callId gssi ts =>
    obtain ⟨serve, silent⟩ := heeds
    refine ⟨rfl, fun subject here => ⟨callId, owner, some.inj here ▸ serve⟩, ?_⟩
    intro subject here
    rw [show (log.heed slot (.configureGroupTrafficAie callId gssi ts)).speaker = none from
      silent] at here
    cases here
  | floorReleased callId ts => exact ⟨follows.policy, follows.served, nofun⟩
  | floorGranted callId sourceIssi destGssi ts =>
    refine granted ?_
    exact ⟨rfl, fun subject here => ⟨callId, owner, some.inj here ▸ heeds⟩,
      fun subject here => some.inj here ▸ rfl⟩
  | callEnded callId ts => exact follows_unknown rfl
  | privateCallTrafficActive callId ts => exact follows.congr rfl rfl rfl
  | privateFloorGranted callId sourceIssi destinationIssi ts =>
    cases destinationIssi with
    | some destinationIssi =>
      refine granted ?_
      exact ⟨rfl, fun subject here => ⟨callId, owner, some.inj here ▸ heeds⟩,
        fun subject here => some.inj here ▸ rfl⟩
    | none =>
      have same : log.heed slot (.privateFloorGranted callId sourceIssi none ts) = log :=
        if_pos heeds
      rw [same]
      refine granted ?_
      exact follows.congr rfl rfl rfl
  | privateMediaStart callId sourceIssi destinationIssi ts =>
    exact ⟨rfl, fun subject here => ⟨callId, owner, some.inj here ▸ heeds⟩,
      fun subject here => some.inj here ▸ rfl⟩
  | privateMediaStop callId ts => exact follows_unknown rfl

/-- A circuit of the owner leaves the policies alone; one of another call withdraws them. -/
theorem Follows.opened {callId usage : Nat} {dir : Direction}
    (follows : log.Follows aie serves ts slot)
    (received : slot.rxControlCircuitOpen callId usage dir = .ok after) :
    (log.note slot (.control (.opened callId ts usage dir))).Follows aie serves ts after := by
  obtain rfl := ok.inj ((rxControlCircuitOpen_eq dir).symm.trans received)
  dsimp only [note, kept]
  by_cases owner : slot.trafficCallOwner = some callId
  · rw [if_neg (not_not.mpr owner), if_neg (not_not.mpr owner)]
    cases dir with
    | none => exact follows
    | dl | ul | both => exact follows.congr rfl owner.symm rfl
  · rw [if_pos owner, if_pos owner]
    cases dir <;> exact follows_unknown rfl

/-- A circuit that the owner closes takes the policies with it. -/
theorem Follows.closed {callId : Nat} {dir : Direction} (follows : log.Follows aie serves ts slot)
    (received : slot.rxControlCircuitClose callId dir = .ok after) :
    (log.note slot (.control (.close callId ts dir))).Follows aie serves ts after := by
  obtain rfl := ok.inj ((rxControlCircuitClose_eq dir).symm.trans received)
  by_cases owner : slot.trafficCallOwner = some callId
  · have owns : slot.ownsTrafficSlot callId = true := decide_eq_true owner
    simp only [note, owns]
    rw [if_pos owner]
    cases dir with
    | none => exact follows
    | dl | ul | both => exact follows_unknown rfl
  · have owns : slot.ownsTrafficSlot callId = false := decide_eq_false owner
    simp only [note, owns]
    rw [if_neg owner]
    exact follows

/-- **Every message, of the owner or not.** -/
theorem Follows.rxControl {message : CallControl} (follows : log.Follows aie serves message.ts slot)
    (heeds : slot.ownsTrafficSlot message.callId = true → slot.Heeds serves log message)
    (received : slot.rxControl aie message = .ok after) :
    (log.note slot (.control message)).Follows aie serves message.ts after := by
  have obeyed (here : after = if slot.ownsTrafficSlot message.callId then slot.obey aie message
        else slot) :
      (if slot.ownsTrafficSlot message.callId then log.heed slot message else log).Follows aie
        serves message.ts after := by
    by_cases owner : slot.ownsTrafficSlot message.callId = true
    · rw [here, if_pos owner, if_pos owner]
      exact follows.obey (heeds owner) (of_decide_eq_true owner)
    · rw [here, if_neg owner, if_neg owner]
      exact follows
  cases message with
  | opened callId ts usage dir => exact follows.opened received
  | close callId ts dir => exact follows.closed received
  | _ => exact obeyed (ok.inj received).symm

/-- **Every event.** -/
theorem Follows.handle (follows : log.Follows aie serves event.ts slot)
    (heeds : ∀ message, event = .control message →
      slot.ownsTrafficSlot message.callId = true → slot.Heeds serves log message)
    (handled : slot.handle aie event = .ok after) :
    (log.note slot event).Follows aie serves event.ts after := by
  cases event with
  | control message => exact follows.rxControl (heeds message rfl) handled
  | speech ts prim =>
    cases handled
    cases admits : slot.admitted prim with
    | none =>
      rw [SpeechLog.rxTmdPrim_refused admits]
      exact follows
    | some block =>
      rw [SpeechLog.rxTmdPrim_admitted admits]
      exact follows.congr rfl rfl rfl
  | signalling ts stealing =>
    cases handled
    exact follows.congr rfl rfl rfl
  | buildSlot ts =>
    cases handled
    by_cases traffic : slot.dlIsTraffic ts = true
    · rw [if_pos traffic]
      unfold dlBuildTrafficBlock
      rw [SpeechLog.takeBlock_traffic traffic]
      exact follows.congr rfl rfl rfl
    · rw [if_neg traffic]
      exact follows

end PolicyLog

/-! ### Every run -/

/-- An event of a careful run: the messages of call control name those whom their calls serve, and
no frame goes out while a slot has no listener, unless its call serves no one who is protected. -/
def PolicyLog.Careful (aie : TrafficAieConfig) (serves : Serves) (log : PolicyLog)
    (slot : TrafficSlot) : TrafficEvent → Prop
  | .control message =>
    slot.ownsTrafficSlot message.callId = true → slot.Heeds serves log message
  | .buildSlot ts =>
    slot.dlIsTraffic ts = true → slot.dlBuildTrafficBlock.1.frame.isSome = true →
    log.listener = none → ∀ callId, slot.call = some callId → ∀ subject,
      serves callId ts.t subject → aie.activeAieRequest subject .traffic = none
  | _ => True

def CarefulPolicy (aie : TrafficAieConfig) (serves : Serves) (run : TrafficRun PolicyLog)
    (event : TrafficEvent) : Prop :=
  (run.logs event.ts).Careful aie serves (run.plane event.ts) event

variable {aie : TrafficAieConfig} {serves : Serves} {run : TrafficRun PolicyLog}

theorem PolicyLog.follows_of_reachable
    (reachable : Reachable (policyMachine aie) (CarefulPolicy aie serves) run) (ts : Nat) :
    (run.logs ts).Follows aie serves ts (run.plane ts) := by
  refine TrafficRun.each_slot (fun _ => PolicyLog.Careful aie serves)
    (PolicyLog.Follows aie serves) (fun _ => follows_unknown rfl)
    (fun log slot event after follows careful handled => ?_) reachable ts
  refine follows.handle (fun message is owner => ?_) handled
  subst is
  exact careful owner

theorem TrafficAieConfig.activeAieRequest_withScope (subject : AieSubject) :
    (aie.activeAieRequest subject .traffic).map (·.withScope .traffic) =
      aie.activeAieRequest subject .traffic := by
  unfold activeAieRequest
  split
  · rfl
  · split
    · rfl
    · cases terminalOf subject with
      | none => cases aie.sc3 <;> rfl
      | some issi =>
        dsimp only
        cases aie.terminalClass issi <;> cases aie.sc3 <;> rfl

/-- **Speech is protected as its listener requires**, in every run in which messages name those whom
their calls serve and no frame goes out while its slot has no listener. Whenever a frame goes out,
its block has the policy of the listener, whom the owner of the slot serves; or there is none, and
the call of the slot serves no one who is protected. The uplink has the policy of its speaker. -/
theorem careful_speech_protected
    (reachable : Reachable (policyMachine aie) (CarefulPolicy aie serves) run) {ts : TdmaTime}
    (careful : CarefulPolicy aie serves run (.buildSlot ts))
    (traffic : (run.plane ts.t).dlIsTraffic ts = true)
    (frame : (run.plane ts.t).dlBuildTrafficBlock.1.frame.isSome = true) :
    ((∃ callId subject, (run.plane ts.t).trafficCallOwner = some callId ∧
        (run.logs ts.t).listener = some subject ∧ serves callId ts.t subject ∧
        (run.plane ts.t).dlBuildTrafficBlock.1.airInterfaceEncryption =
          aie.activeAieRequest subject .traffic) ∨
      (run.logs ts.t).listener = none ∧
        (run.plane ts.t).dlBuildTrafficBlock.1.airInterfaceEncryption = none ∧
        ∀ callId, (run.plane ts.t).call = some callId → ∀ subject,
          serves callId ts.t subject → aie.activeAieRequest subject .traffic = none) ∧
    ∀ subject, (run.logs ts.t).speaker = some subject →
      (run.plane ts.t).uplinkTrafficAie = aie.activeAieRequest subject .traffic := by
  have follows := PolicyLog.follows_of_reachable reachable ts.t
  have policy : (run.plane ts.t).dlBuildTrafficBlock.1.airInterfaceEncryption =
      (run.plane ts.t).trafficAie.map (·.withScope .traffic) := by
    unfold dlBuildTrafficBlock
    rw [SpeechLog.takeBlock_traffic traffic]
  refine ⟨?_, follows.uplink⟩
  rw [policy, follows.policy]
  cases here : (run.logs ts.t).listener with
  | none => exact .inr ⟨rfl, rfl, careful traffic frame here⟩
  | some subject =>
    obtain ⟨callId, owner, serve⟩ := follows.served subject here
    exact .inl ⟨callId, subject, owner, rfl, serve,
      TrafficAieConfig.activeAieRequest_withScope subject⟩

def protectedAie : TrafficAieConfig := ⟨true, none, fun _ => .networkEncrypted, fun _ => .sc2⟩

def servesGroup : Serves := fun callId ts subject => callId = 7 ∧ ts = 2 ∧ subject = .group 91

theorem careful_speech_protected_talking : ∃ run : TrafficRun PolicyLog,
      (∃ subject, servesGroup 7 2 subject ∧
        (run.plane 2).dlBuildTrafficBlock.1.airInterfaceEncryption =
          protectedAie.activeAieRequest subject .traffic) ∧
      (run.plane 2).uplinkTrafficAie =
        protectedAie.activeAieRequest (.call 7 (some 1001) (some 91)) .traffic := by
  have permitted : ∀ event ∈ talking ++ [.speech 2 (.circuitDataReq speechFrame)],
      ∀ run, CarefulPolicy protectedAie servesGroup run event := by
    intro event member run
    fin_cases member
    · exact fun _ => trivial
    · exact fun _ => ⟨rfl, rfl, rfl⟩
    · trivial
  have leads : (exec (policyMachine protectedAie) (quietCarrier .unknown)
      (talking ++ [.speech 2 (.circuitDataReq speechFrame)])).any (fun run =>
        (run.plane 2).dlIsTraffic (.fromInt 1) = true ∧
        (run.plane 2).dlBuildTrafficBlock.1.frame.isSome = true ∧
        run.logs 2 = ⟨some (.group 91), some (.call 7 (some 1001) (some 91))⟩) = true := by
    decide +kernel
  obtain ⟨run, reached, result⟩ := exec_any permitted leads
  obtain ⟨traffic, frame, log⟩ := of_decide_eq_true result
  have listener : (run.logs 2).listener = some (.group 91) := congrArg PolicyLog.listener log
  have careful : CarefulPolicy protectedAie servesGroup run (.buildSlot (.fromInt 1)) :=
    fun _ _ none' => nomatch listener.symm.trans none'
  obtain ⟨downlink, uplink⟩ := careful_speech_protected ⟨_, rfl, reached⟩ careful traffic frame
  refine ⟨run, ?_, uplink _ (congrArg PolicyLog.speaker log)⟩
  rcases downlink with ⟨callId, subject, -, -, serves, policy⟩ | ⟨none', -⟩
  · obtain ⟨rfl, -, rfl⟩ := id serves
    exact ⟨_, serves, policy⟩
  · cases listener.symm.trans none'

/-- Two terminals share timeslot 2; one leaves for another cell and comes back. Then the floor goes
to it. -/
def roamedBack : List TrafficEvent :=
  [.control (.opened 7 2 4 .both), .control (.privateFloorGranted 7 1001 (some 1002) 2),
    .control (.privateMediaStart 7 1001 1002 2), .control (.privateMediaStop 7 2),
    .control (.privateFloorGranted 7 1002 (some 1001) 2), .speech 2 (.circuitDataReq speechFrame)]

/-- **Speech goes out in clear.** The circuit of a call is open and all its terminals are protected;
the message that stops its private media has withdrawn the policy and the owner, so that the floor
that is granted next is taken for stale. -/
theorem speech_in_clear : ∃ run ts, Reachable (policyMachine protectedAie) always run ∧
      (run.plane 2).dlIsTraffic ts = true ∧ ts.t = 2 ∧
      (run.plane 2).dlBuildTrafficBlock.1.frame = some speechFrame ∧
      (run.plane 2).dlBuildTrafficBlock.1.airInterfaceEncryption = none ∧
      (run.plane 2).dl = some ⟨7, 4⟩ ∧
      ∀ issi, protectedAie.activeAieRequest (.call 7 (some issi) none) .traffic =
        some (.sc2 (.call 7 (some issi) none) .traffic) := by
  have leads : (exec (policyMachine protectedAie) (quietCarrier .unknown) roamedBack).any
      (fun run => (run.plane 2).dlIsTraffic (.fromInt 1) = true ∧
        (run.plane 2).dlBuildTrafficBlock.1 = ⟨some speechFrame, none, none⟩ ∧
        (run.plane 2).dl = some ⟨7, 4⟩) = true := by decide +kernel
  obtain ⟨run, reached, result⟩ := exec_any (fun _ _ _ => trivial) leads
  obtain ⟨traffic, block, circuit⟩ := of_decide_eq_true result
  exact ⟨run, .fromInt 1, ⟨_, rfl, reached⟩, traffic, rfl, congrArg TrafficBlock.frame block,
    congrArg TrafficBlock.airInterfaceEncryption block, circuit, fun _ => rfl⟩

end Bluestation
