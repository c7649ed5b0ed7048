/-
**Speech goes out in order, and its floor.**

A log stands beside every timeslot: the frames that were accepted since the downlink circuit was
opened, those that wait, those that were taken, and those that were sent. Each frame is logged with
the talk spurt in which it was accepted, and in which it was taken: a new spurt begins when the floor
is released or granted to another speaker.

* `SpeechLog.Tracks` — the log and the slot agree; every event keeps it.
* `careful_speech_in_order` — speech is sent in order and once, and if no speech waits when the floor
  changes, in the spurt in which it was accepted.
-/

import Bluestation.Umac.TrafficSlots

namespace Bluestation

open Machines TrafficSlot List Option Nat Except

/-! ### The log -/

/-- What has become of the speech of a timeslot; the numbers are talk spurts. -/
structure SpeechLog where
  accepted : List (List UInt8)
  waiting : List (List UInt8 × Nat)
  taken : List ((List UInt8 × Nat) × Nat)
  sent : List (List UInt8)
  spurt : Nat

/-- The message releases the floor of its call, or grants it to another speaker. -/
def TrafficSlot.turnsFloor (slot : TrafficSlot) (message : CallControl) : Bool :=
  slot.ownsTrafficSlot message.callId && match message with
    | .floorReleased _ _ => true
    | .floorGranted _ sourceIssi _ _ | .privateFloorGranted _ sourceIssi _ _ =>
      slot.trafficFloorHolder ≠ some sourceIssi
    | _ => false

namespace SpeechLog

def empty (spurt : Nat) : SpeechLog := ⟨[], [], [], [], spurt⟩

/-- What an event adds to the log of its slot, from the state of the slot before the event. -/
def note (log : SpeechLog) (slot : TrafficSlot) : TrafficEvent → SpeechLog
  | .control message =>
    let log := if slot.renews message then empty log.spurt else log
    { log with spurt := if slot.turnsFloor message then log.spurt + 1 else log.spurt }
  | .speech _ prim =>
    match slot.admitted prim with
    | some block =>
      { log with
        accepted := log.accepted ++ [block]
        waiting := log.waiting ++ [(block, log.spurt)] }
    | none => log
  | .signalling _ _ => log
  | .buildSlot ts =>
    if slot.dlIsTraffic ts then
      match slot.takeBlock.1, log.waiting with
      | some block, (_, heard) :: waiting =>
        { log with
          waiting := waiting
          taken := log.taken ++ [((block, heard), log.spurt)]
          sent := log.sent ++ slot.dlBuildTrafficBlock.1.frame.toList }
      | _, _ => log
    else log

end SpeechLog

/-- The carrier with a log of the speech of each timeslot. -/
abbrev speechMachine (aie : TrafficAieConfig) : Machine (TrafficRun SpeechLog) TrafficEvent :=
  trafficMachine aie SpeechLog.note (.empty 0)

/-- At most `limit` frames wait after one is accepted, and none waits when the floor changes. -/
def TrafficSlot.Allows (limit : Nat) (slot : TrafficSlot) : TrafficEvent → Prop
  | .control message => slot.turnsFloor message = true → slot.txData = []
  | .speech _ prim => (slot.admitted prim).isSome = true → slot.txData.length < limit
  | _ => True

instance (limit : Nat) (slot : TrafficSlot) :
    ∀ event : TrafficEvent, Decidable (slot.Allows limit event)
  | .control message =>
    inferInstanceAs (Decidable (slot.turnsFloor message = true → slot.txData = []))
  | .speech _ prim => inferInstanceAs
      (Decidable ((slot.admitted prim).isSome = true → slot.txData.length < limit))
  | .signalling _ _ | .buildSlot _ => inferInstanceAs (Decidable True)

def CarefulSpeech (limit : Nat) (run : TrafficRun SpeechLog) (event : TrafficEvent) : Prop :=
  (run.plane event.ts).Allows limit event

instance (limit : Nat) (run : TrafficRun SpeechLog) (event : TrafficEvent) :
    Decidable (CarefulSpeech limit run event) :=
  inferInstanceAs (Decidable (TrafficSlot.Allows _ _ _))

/-! ### Every event -/

namespace SpeechLog

variable {log : SpeechLog} {slot after : TrafficSlot} {aie : TrafficAieConfig}
  {event : TrafficEvent} {limit : Nat}

/-- **The log and the slot agree**: what was accepted was taken or waits, in order, and what was
sent are the frames of proper length that were taken. -/
structure Tracks (log : SpeechLog) (slot : TrafficSlot) : Prop where
  waiting : log.waiting.map Prod.fst = slot.txData
  accepted : log.accepted = log.taken.map (·.1.1) ++ slot.txData
  sent : log.sent = (log.taken.map (·.1.1)).filter isFrame

/-- All speech is of its spurt, and the queue is bounded. -/
structure Fresh (limit : Nat) (log : SpeechLog) (slot : TrafficSlot) : Prop where
  waiting : ∀ frame ∈ log.waiting, frame.2 = log.spurt
  taken : ∀ frame ∈ log.taken, frame.1.2 = frame.2
  bounded : slot.txData.length ≤ limit

theorem tracks_empty (spurt : Nat) (nothing : slot.txData = []) : (empty spurt).Tracks slot :=
  ⟨nothing.symm, nothing.symm, rfl⟩

theorem rxTmdPrim_refused {prim : TmdPrim} (refused : slot.admitted prim = none) :
    slot.rxTmdPrim prim = slot := by
  unfold rxTmdPrim
  rw [refused]

theorem rxTmdPrim_admitted {prim : TmdPrim} {block : List UInt8}
    (admits : slot.admitted prim = some block) :
    slot.rxTmdPrim prim = { slot with txData := slot.txData ++ [block] } := by
  have open' : slot.dl.isSome = true := by
    unfold admitted at admits
    cases prim <;> grind
  unfold rxTmdPrim putBlock
  rw [admits]
  obtain ⟨circuit, there⟩ := isSome_iff_exists.mp open'
  simp [there]

variable {ts : TdmaTime}

theorem takeBlock_traffic (traffic : slot.dlIsTraffic ts = true) :
    slot.takeBlock = (slot.txData.head?, { slot with txData := slot.txData.tail }) := by
  unfold dlIsTraffic at traffic
  simp only [Bool.and_eq_true] at traffic
  obtain ⟨circuit, there⟩ := isSome_iff_exists.mp traffic.1.1
  obtain ⟨dl, ul, txData⟩ := slot
  obtain rfl : dl = some circuit := there
  cases txData <;> rfl

theorem dlBuildTrafficBlock_traffic (traffic : slot.dlIsTraffic ts = true) :
    slot.dlBuildTrafficBlock.1.frame = slot.txData.head?.filter isFrame ∧
      slot.dlBuildTrafficBlock.2.txData = slot.txData.tail := by
  unfold dlBuildTrafficBlock
  rw [takeBlock_traffic traffic]
  exact ⟨rfl, rfl⟩

theorem note_buildSlot_nil (nothing : log.waiting = []) : log.note slot (.buildSlot ts) = log := by
  dsimp only [note]
  rw [nothing]
  split
  · cases slot.takeBlock.1 <;> rfl
  · rfl

variable (tracks : log.Tracks slot)

include tracks

theorem note_buildSlot_cons {block : List UInt8} {heard : Nat} {rest : List (List UInt8 × Nat)}
    (traffic : slot.dlIsTraffic ts = true) (queue : log.waiting = (block, heard) :: rest) :
    log.note slot (.buildSlot ts) =
      { log with
        waiting := rest
        taken := log.taken ++ [((block, heard), log.spurt)]
        sent := log.sent ++ [block].filter isFrame } := by
  have txData : slot.txData = block :: rest.map Prod.fst := by
    rw [← tracks.waiting, queue]
    rfl
  have sent : slot.dlBuildTrafficBlock.1.frame.toList = [block].filter isFrame := by
    rw [(dlBuildTrafficBlock_traffic traffic).1, txData]
    by_cases fits : isFrame block = true <;> simp [fits, Option.filter]
  dsimp only [note]
  rw [if_pos traffic, takeBlock_traffic traffic, queue, txData, sent]
  rfl

/-- **Every event keeps the log right.** -/
theorem Tracks.handle (handled : slot.handle aie event = .ok after) :
    (log.note slot event).Tracks after := by
  cases event with
  | control message =>
    obtain ⟨-, speech⟩ := rxControl_speech handled
    dsimp only [note]
    split at speech
    next renewed =>
      rw [if_pos renewed]
      exact ⟨speech.symm, speech.symm, rfl⟩
    next fixed =>
      rw [if_neg fixed]
      obtain ⟨-, same⟩ := speech
      exact ⟨tracks.waiting.trans same.symm, same ▸ tracks.accepted, tracks.sent⟩
  | speech ts prim =>
    cases handled
    dsimp only [note]
    cases admits : slot.admitted prim with
    | none =>
      rw [rxTmdPrim_refused admits]
      exact tracks
    | some block =>
      have joined := rxTmdPrim_admitted admits
      refine ⟨?_, ?_, tracks.sent⟩
      · rw [joined, ← tracks.waiting]
        exact map_append
      · rw [joined, ← append_assoc, ← tracks.accepted]
  | signalling ts stealing =>
    cases handled
    exact ⟨tracks.waiting, tracks.accepted, tracks.sent⟩
  | buildSlot ts =>
    cases handled
    by_cases traffic : slot.dlIsTraffic ts = true
    · rw [if_pos traffic]
      obtain ⟨-, left⟩ := dlBuildTrafficBlock_traffic traffic
      rw [← tracks.waiting] at left
      have accepted := tracks.accepted
      rw [← tracks.waiting] at accepted
      cases queue : log.waiting with
      | nil =>
        rw [note_buildSlot_nil queue]
        rw [queue] at left accepted
        exact ⟨queue ▸ left.symm, left ▸ accepted, tracks.sent⟩
      | cons first rest =>
        rw [note_buildSlot_cons tracks traffic queue]
        rw [queue] at left accepted
        refine ⟨left.symm, ?_, ?_⟩
        · rw [left, accepted, map_append, append_assoc]
          rfl
        · rw [map_append, filter_append, ← tracks.sent]
          rfl
    · have same : log.note slot (.buildSlot ts) = log := if_neg traffic
      rw [if_neg traffic, same]
      exact tracks

/-- **A careful event keeps speech in its spurt, and the queue within its bound.** -/
theorem Fresh.handle (fresh : log.Fresh limit slot) (careful : slot.Allows limit event)
    (handled : slot.handle aie event = .ok after) : (log.note slot event).Fresh limit after := by
  cases event with
  | control message =>
    obtain ⟨-, speech⟩ := rxControl_speech handled
    dsimp only [note]
    split at speech
    next renewed =>
      rw [if_pos renewed]
      exact ⟨nofun, nofun, speech ▸ zero_le _⟩
    next fixed =>
      rw [if_neg fixed]
      refine ⟨fun frame member => ?_, fresh.taken, speech.2 ▸ fresh.bounded⟩
      by_cases turns : slot.turnsFloor message = true
      · have nothing : log.waiting.map Prod.fst = [] := tracks.waiting.trans (careful turns)
        rw [map_eq_nil_iff.mp nothing] at member
        cases member
      · rw [if_neg turns]
        exact fresh.waiting frame member
  | speech ts prim =>
    cases handled
    dsimp only [note]
    cases admits : slot.admitted prim with
    | none =>
      rw [rxTmdPrim_refused admits]
      exact fresh
    | some block =>
      refine ⟨fun frame member => ?_, fresh.taken, ?_⟩
      · rcases mem_append.mp member with before | last
        · exact fresh.waiting frame before
        · rw [mem_singleton.mp last]
      · rw [rxTmdPrim_admitted admits, length_append]
        exact careful (admits ▸ rfl)
  | signalling ts stealing =>
    cases handled
    exact ⟨fresh.waiting, fresh.taken, fresh.bounded⟩
  | buildSlot ts =>
    cases handled
    by_cases traffic : slot.dlIsTraffic ts = true
    · rw [if_pos traffic]
      obtain ⟨-, left⟩ := dlBuildTrafficBlock_traffic traffic
      have bounded : slot.dlBuildTrafficBlock.2.txData.length ≤ limit := by
        rw [left, length_tail]
        exact (sub_le _ _).trans fresh.bounded
      cases queue : log.waiting with
      | nil =>
        rw [note_buildSlot_nil queue]
        exact ⟨fresh.waiting, fresh.taken, bounded⟩
      | cons first rest =>
        obtain ⟨block, heard⟩ := first
        rw [note_buildSlot_cons tracks traffic queue]
        have here : heard = log.spurt := fresh.waiting (block, heard) (queue ▸ mem_cons_self)
        refine ⟨fun frame member => ?_, fun frame member => ?_, bounded⟩
        · exact fresh.waiting frame (queue ▸ mem_cons_of_mem _ member)
        · rcases mem_append.mp member with before | last
          · exact fresh.taken frame before
          · rw [mem_singleton.mp last]
            exact here
    · have same : log.note slot (.buildSlot ts) = log := if_neg traffic
      rw [if_neg traffic, same]
      exact fresh

end SpeechLog

/-! ### Every run -/

namespace SpeechLog

variable {aie : TrafficAieConfig} {run : TrafficRun SpeechLog} {limit : Nat}

theorem fresh_of_reachable
    (reachable : Reachable (speechMachine aie) (CarefulSpeech limit) run) (ts : Nat) :
    (run.logs ts).Tracks (run.plane ts) ∧ (run.logs ts).Fresh limit (run.plane ts) :=
  TrafficRun.each_slot (fun _ _ => Allows limit)
    (fun _ log slot => log.Tracks slot ∧ log.Fresh limit slot)
    (fun _ => ⟨tracks_empty 0 rfl, nofun, nofun, zero_le _⟩)
    (fun _ _ _ _ held careful handled =>
      ⟨held.1.handle handled, held.2.handle held.1 careful handled⟩) reachable ts

end SpeechLog

/-- **Speech goes out in order, once, and with its floor**, in every run in which no speech waits
when the floor of its slot changes and at most `limit` frames wait: what was sent on a slot is part,
in order, of what was accepted since its circuit was opened; every frame was taken in the talk spurt
in which it was accepted; and the queue is bounded. -/
theorem careful_speech_in_order {aie : TrafficAieConfig} {limit : Nat} {run : TrafficRun SpeechLog}
    (reachable : Reachable (speechMachine aie) (CarefulSpeech limit) run) (ts : Nat) :
    (run.logs ts).sent.Sublist (run.logs ts).accepted ∧
      (run.logs ts).sent = ((run.logs ts).taken.map (·.1.1)).filter isFrame ∧
      (run.logs ts).accepted = (run.logs ts).taken.map (·.1.1) ++ (run.plane ts).txData ∧
      (∀ frame ∈ (run.logs ts).taken, frame.1.2 = frame.2) ∧
      (run.plane ts).txData.length ≤ limit := by
  obtain ⟨tracks, fresh⟩ := SpeechLog.fresh_of_reachable reachable ts
  refine ⟨?_, tracks.sent, tracks.accepted, fresh.taken, fresh.bounded⟩
  rw [tracks.sent, tracks.accepted]
  exact filter_sublist.trans (sublist_append_left _ _)

def clearAie : TrafficAieConfig := ⟨false, none, fun _ => .clear, fun _ => .sc1⟩

def speechFrame : List UInt8 := List.replicate 35 1

def talking : List TrafficEvent :=
  [.control (.opened 7 2 4 .both), .control (.floorGranted 7 1001 91 2)]

def spokenOnce : List TrafficEvent :=
  talking ++ [.speech 2 (.circuitDataReq speechFrame), .buildSlot (TdmaTime.fromInt 1),
    .control (.floorReleased 7 2)]

/-- Two frames are accepted and one is sent; the floor goes to terminal 1002 before the other. -/
def interrupted : List TrafficEvent :=
  talking ++ [.speech 2 (.circuitDataReq speechFrame), .speech 2 (.circuitDataReq speechFrame),
    .buildSlot (TdmaTime.fromInt 1), .control (.floorReleased 7 2),
    .control (.floorGranted 7 1002 91 2), .buildSlot (TdmaTime.fromInt 5)]

theorem careful_speech_in_order_spokenOnce :
    ∃ run : TrafficRun SpeechLog, (run.logs 2).sent = [speechFrame] ∧
      (∀ frame ∈ (run.logs 2).taken, frame.1.2 = frame.2) ∧ (run.plane 2).txData.length ≤ 1 := by
  have leads : (execPermitted (speechMachine clearAie)
      (fun run event => decide (CarefulSpeech 1 run event)) (quietCarrier (.empty 0)) spokenOnce).any
      (fun run => (run.logs 2).sent = [speechFrame]) = true := by decide +kernel
  obtain ⟨run, executed, result⟩ := (any_eq_true _ _).mp leads
  have reachable : Reachable (speechMachine clearAie) (CarefulSpeech 1) run :=
    ⟨_, rfl, execPermitted_runs (fun _ _ => of_decide_eq_true) executed⟩
  obtain ⟨-, -, -, spurts, bounded⟩ := careful_speech_in_order reachable 2
  exact ⟨run, of_decide_eq_true result, spurts, bounded⟩

theorem queue_grows (count : Nat) :
    ∃ run, Reachable (speechMachine clearAie) always run ∧ (run.plane 2).dl.isSome = true ∧
      count ≤ (run.plane 2).txData.length := by
  induction count with
  | zero =>
    have leads : (exec (speechMachine clearAie) (quietCarrier (.empty 0)) talking).any
        (fun run => (run.plane 2).dl.isSome) = true := by decide +kernel
    obtain ⟨run, reached, circuit⟩ := exec_any (fun _ _ _ => trivial) leads
    exact ⟨run, ⟨_, rfl, reached⟩, circuit, zero_le _⟩
  | succ count ih =>
    obtain ⟨run, reachable, circuit, long⟩ := ih
    let event : TrafficEvent := .speech 2 (.circuitDataReq speechFrame)
    have admits : (run.plane 2).admitted (.circuitDataReq speechFrame) = some speechFrame :=
      if_pos circuit
    obtain ⟨next, stepped, there⟩ : ∃ next, run.step clearAie SpeechLog.note event = some next ∧
        next.plane 2 = (run.plane 2).rxTmdPrim (.circuitDataReq speechFrame) := ⟨_, rfl, rfl⟩
    rw [SpeechLog.rxTmdPrim_admitted admits] at there
    refine ⟨next, reachable.runs (.single ⟨event, trivial, stepped⟩), ?_, ?_⟩
    · rw [there]
      exact circuit
    · rw [there, length_append]
      exact succ_le_succ long

/-- **Speech outlives its floor, and the queue has no bound.** -/
theorem speech_outlives_floor : (∃ run, Reachable (speechMachine clearAie) always run ∧
      ((speechFrame, 1), 3) ∈ (run.logs 2).taken) ∧
    ∀ count, ∃ run, Reachable (speechMachine clearAie) always run ∧
      count ≤ (run.plane 2).txData.length := by
  refine ⟨?_, fun count => ?_⟩
  · have leads : (exec (speechMachine clearAie) (quietCarrier (.empty 0)) interrupted).any
        (fun run => ((speechFrame, 1), 3) ∈ (run.logs 2).taken) = true := by decide +kernel
    obtain ⟨run, reached, result⟩ := exec_any (fun _ _ _ => trivial) leads
    exact ⟨run, ⟨_, rfl, reached⟩, of_decide_eq_true result⟩
  · obtain ⟨run, reachable, -, long⟩ := queue_grows count
    exact ⟨run, reachable, long⟩

end Bluestation
