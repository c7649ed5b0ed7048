/-
**The playout buffer in full: how deep it is kept.**

Jitter of the arrivals and underruns make the buffer deeper, steady playout takes a boost back. The
average of the jitter rests on the clock; what it adds comes with every frame.

* `played_in_order` — **every frame is played at most once, in order**; the rest is queued or counted.
* `underruns_le` — **every underrun is paid for with a whole buffer of played frames.**
-/

import Bluestation.Brew.Sessions

namespace Bluestation

/-- The buffer with what its depth follows. -/
structure AdaptiveBuffer extends VoiceJitterBuffer where
  initialLatencyFrames : Nat
  jitterComponent : Nat := 0
  underrunBoost : Nat := 0
  stablePops : Nat := 0
  droppedOverflow : Nat := 0
  underruns : Nat := 0

namespace AdaptiveBuffer

def withInitialLatency (initialLatencyFrames : Nat) : AdaptiveBuffer where
  toVoiceJitterBuffer := .withInitialLatency initialLatencyFrames
  initialLatencyFrames :=
    min initialLatencyFrames (brewJitterTargetMaxFrames - brewJitterMinFrames)

variable (buffer : AdaptiveBuffer)

def baseFrames : Nat := brewJitterBaseFrames + buffer.initialLatencyFrames

/-- A buffer without a target has its base depth. -/
def primed : AdaptiveBuffer :=
  if buffer.targetFrames = 0 then { buffer with targetFrames := buffer.baseFrames } else buffer

def recomputeTarget : AdaptiveBuffer :=
  let target := buffer.baseFrames + buffer.jitterComponent + buffer.underrunBoost
  { buffer with targetFrames := max brewJitterMinFrames (min target brewJitterTargetMaxFrames) }

def push (frame : List Nat) (jitterComponent : Nat) : AdaptiveBuffer :=
  let frames := buffer.frames ++ [frame]
  let overflow := frames.length - brewJitterMaxFrames
  recomputeTarget { buffer.primed with
    jitterComponent
    frames := frames.drop overflow
    droppedOverflow := buffer.droppedOverflow + overflow }

/-- Count a frame that left a deep enough buffer; after eighty of them a boost is taken back. -/
def settle : AdaptiveBuffer :=
  if buffer.targetFrames ≤ buffer.frames.length then
    if 80 ≤ buffer.stablePops + 1 then
      if 0 < buffer.underrunBoost then
        recomputeTarget { buffer with stablePops := 0, underrunBoost := buffer.underrunBoost - 1 }
      else { buffer with stablePops := 0 }
    else { buffer with stablePops := buffer.stablePops + 1 }
  else { buffer with stablePops := 0 }

def popReady : Option (List Nat) × AdaptiveBuffer :=
  let buffer := buffer.primed
  if !buffer.started && buffer.frames.length < buffer.targetFrames then (none, buffer)
  else match buffer.frames with
    | frame :: frames => (some frame, settle { buffer with started := true, frames })
    | [] => (none, recomputeTarget { buffer with
        started := false
        underruns := buffer.underruns + 1
        underrunBoost := min (buffer.underrunBoost + 1) 4
        stablePops := 0 })

end AdaptiveBuffer

/-! ### Runs -/

inductive PlayoutEvent where
  | push (frame : List Nat) (jitterComponent : Nat)
  | pop

/-- The buffer of a session, with every frame it was given and every frame it gave. -/
structure Playout where
  buffer : AdaptiveBuffer
  pushed : List (List Nat) := []
  played : List (List Nat) := []

namespace Playout

def step (playout : Playout) : PlayoutEvent → Playout
  | .push frame jitterComponent =>
    { playout with
      buffer := playout.buffer.push frame jitterComponent
      pushed := playout.pushed ++ [frame] }
  | .pop =>
    { playout with
      buffer := playout.buffer.popReady.2
      played := playout.played ++ playout.buffer.popReady.1.toList }

/-- A session's playout after some events. -/
def after (latency : Nat) (events : List PlayoutEvent) : Playout :=
  events.foldl step { buffer := .withInitialLatency latency }

/-- The depth a buffer never starts below. -/
def floor (latency : Nat) : Nat := min (brewJitterBaseFrames + latency) brewJitterTargetMaxFrames

/-- What every run keeps. -/
structure Sound (latency : Nat) (playout : Playout) : Prop where
  order : ∃ gone, playout.pushed = gone ++ playout.buffer.frames ∧ playout.played.Sublist gone
    ∧ gone.length = playout.played.length + playout.buffer.droppedOverflow
  few : playout.buffer.frames.length ≤ brewJitterMaxFrames
  base : floor latency ≤ playout.buffer.baseFrames
  deep : floor latency ≤ playout.buffer.targetFrames
  paid : floor latency * playout.buffer.underruns ≤ playout.played.length
  underway : playout.buffer.started = true → floor latency * (playout.buffer.underruns + 1)
    ≤ playout.played.length + playout.buffer.frames.length

variable {latency : Nat} {buffer : AdaptiveBuffer} {playout : Playout}

theorem deep_recomputeTarget (base : floor latency ≤ buffer.baseFrames) :
    floor latency ≤ buffer.recomputeTarget.targetFrames := by
  have top : floor latency ≤ brewJitterTargetMaxFrames := Nat.min_le_right _ _
  unfold AdaptiveBuffer.recomputeTarget
  dsimp only
  omega

theorem Sound.primed (sound : Sound latency playout) : playout.buffer.primed = playout.buffer := by
  have deep := sound.deep
  refine if_neg fun none => ?_
  simp [none, floor, brewJitterBaseFrames, brewJitterTargetMaxFrames] at deep

variable {pushed played : List (List Nat)}

theorem Sound.recompute (sound : Sound latency ⟨buffer, pushed, played⟩) :
    Sound latency ⟨buffer.recomputeTarget, pushed, played⟩ :=
  { sound with deep := deep_recomputeTarget sound.base }

theorem Sound.settle (sound : Sound latency ⟨buffer, pushed, played⟩) :
    Sound latency ⟨buffer.settle, pushed, played⟩ := by
  unfold AdaptiveBuffer.settle
  split_ifs
  · exact Sound.recompute { sound with }
  all_goals exact { sound with }

theorem Sound.push (sound : Sound latency playout) (frame : List Nat) (jitterComponent : Nat) :
    Sound latency (playout.step (.push frame jitterComponent)) := by
  obtain ⟨gone, pushed, played, length⟩ := sound.order
  have few := sound.few
  rw [step, AdaptiveBuffer.push, sound.primed]
  refine Sound.recompute { sound with
    order := ⟨gone ++ (playout.buffer.frames ++ [frame]).take
      ((playout.buffer.frames ++ [frame]).length - brewJitterMaxFrames), ?_,
      played.trans (List.sublist_append_left _ _), ?_⟩
    few := ?_
    underway := fun started => (sound.underway started).trans ?_ }
  · rw [pushed, List.append_assoc, List.append_assoc, List.take_append_drop]
  all_goals
    simp
    omega

theorem Sound.pop (sound : Sound latency playout) : Sound latency (playout.step .pop) := by
  obtain ⟨gone, pushed, played, length⟩ := sound.order
  have few := sound.few
  have paid := sound.paid
  unfold step AdaptiveBuffer.popReady
  dsimp only
  rw [sound.primed]
  split
  · simpa using sound
  next ready =>
    simp only [Bool.and_eq_true, Bool.not_eq_true', decide_eq_true_eq, not_and, not_lt] at ready
    have underway : floor latency * (playout.buffer.underruns + 1)
        ≤ playout.played.length + playout.buffer.frames.length := by
      cases started : playout.buffer.started with
      | true => exact sound.underway started
      | false => exact Nat.add_le_add paid (sound.deep.trans (ready started))
    cases queued : playout.buffer.frames with
    | nil =>
      rw [queued] at pushed underway
      exact Sound.recompute { sound with
        order := ⟨gone, pushed, by simpa using played, by simpa using length⟩
        few := Nat.zero_le _
        paid := by simpa using underway
        underway := nofun }
    | cons frame frames =>
      rw [queued] at pushed underway few
      exact Sound.settle { sound with
        order := ⟨gone ++ [frame], by simp [pushed], by simpa using played.append_right [frame],
          by simp [length]; omega⟩
        few := (Nat.le_succ _).trans few
        paid := paid.trans (by simp)
        underway := fun _ => by simpa [Nat.add_assoc, Nat.add_comm 1] using underway }

theorem sound_after (latency : Nat) (events : List PlayoutEvent) :
    Sound latency (after latency events) := by
  refine List.foldlRecOn events step ?_ fun playout sound event _ => ?_
  · have deep : floor latency ≤ (AdaptiveBuffer.withInitialLatency latency).baseFrames := by
      change min (4 + latency) 12 ≤ 4 + min latency 10
      omega
    exact ⟨⟨[], rfl, .slnil, rfl⟩, Nat.zero_le _, deep, deep, Nat.zero_le _, nofun⟩
  · cases event with
    | push frame jitterComponent => exact sound.push frame jitterComponent
    | pop => exact sound.pop

/-- **Every frame is played at most once and in order.** What was pushed is what has gone, played or
counted as lost, and then the queue, which is bounded. -/
theorem played_in_order (latency : Nat) (events : List PlayoutEvent) :
    let playout := after latency events
    (∃ gone, playout.pushed = gone ++ playout.buffer.frames ∧ playout.played.Sublist gone
      ∧ gone.length = playout.played.length + playout.buffer.droppedOverflow)
      ∧ playout.buffer.frames.length ≤ brewJitterMaxFrames :=
  ⟨(sound_after latency events).order, (sound_after latency events).few⟩

/-- **Every underrun is paid for with a whole buffer of played frames.** -/
theorem underruns_le (latency : Nat) (events : List PlayoutEvent) :
    min (brewJitterBaseFrames + latency) brewJitterTargetMaxFrames
      * (after latency events).buffer.underruns ≤ (after latency events).played.length :=
  (sound_after latency events).paid

theorem settle_eq (buffer : AdaptiveBuffer) : buffer.settle.toVoiceJitterBuffer =
    { buffer.toVoiceJitterBuffer with targetFrames := buffer.settle.targetFrames } := by
  unfold AdaptiveBuffer.settle
  split_ifs <;> rfl

/-- **In every run the buffer is the playout buffer of a session**, with the targets it computes. -/
theorem refines (latency : Nat) (events : List PlayoutEvent) (frame : List Nat)
    (jitterComponent : Nat) :
    let buffer := (after latency events).buffer
    let pushed := buffer.push frame jitterComponent
    pushed.toVoiceJitterBuffer = buffer.toVoiceJitterBuffer.push frame pushed.targetFrames ∧
      buffer.popReady.map id (·.toVoiceJitterBuffer) =
        buffer.toVoiceJitterBuffer.popReady buffer.popReady.2.targetFrames := by
  intro buffer
  have primed : buffer.primed = buffer := (sound_after latency events).primed
  unfold AdaptiveBuffer.push AdaptiveBuffer.popReady VoiceJitterBuffer.popReady
  rw [primed]
  refine ⟨rfl, ?_⟩
  dsimp only
  split
  · rfl
  · cases buffer.frames with
    | nil => rfl
    | cons head frames => exact congrArg (Prod.mk (some head)) (settle_eq _)

end Playout

end Bluestation
