/-
**Signalling for terminals that sleep.**

A terminal in energy economy hears one frame in each period, counted from its start point. What is to
be sent to it on a common control channel is held back until the slot that it hears, and handed to the
scheduler one timeslot before, when the block of that slot is built.

* `nextEnergyEconomyCommonForAssignment` — the slot to wait for; `next_spec` — **it is the earliest one
  at least two timeslots ahead.**
* `deferrals` — what is held back; `releaseDeferred` — what becomes of it at each timeslot.
* `dlTakePrioritizedSchedItem` — what the scheduler sends next in a slot.
-/

import Bluestation.Llc.FcsRange
import Bluestation.Umac.CommonControl

namespace Bluestation

open Bits TdmaTime List Nat

/-! ### The slot to wait for -/

def hyperframeFrame (frame multiframe : Nat) : Nat := (multiframe - 1) * 18 + (frame - 1)

def energyEconomyPeriodFrames : Nat → Option Nat
  | 1 => some 2
  | 2 => some 3
  | 3 => some 6
  | 4 => some 9
  | 5 => some 18
  | 6 => some 72
  | 7 => some 360
  | _ => none

/-- The first slot of the timeslot in the terminal's reception frames; two timeslots ahead at least,
because the scheduler finishes the slot that is one ahead. -/
def nextEnergyEconomyCommonForAssignment (dltime : TdmaTime) (mode : Nat)
    (frame multiframe : Option Nat) (slot : Nat) : Option TdmaTime :=
  match energyEconomyPeriodFrames mode, frame, multiframe with
  | some period, some frame, some multiframe =>
    if ¬ (1 ≤ frame ∧ frame ≤ 18) ∨ ¬ (1 ≤ multiframe ∧ multiframe ≤ 60) then none
    else
      let anchor := hyperframeFrame frame multiframe % period
      let offsets := List.range' (MACSCHED_TX_AHEAD + 1) (360 * 4 + 4 - MACSCHED_TX_AHEAD)
      (offsets.find? fun offset : Nat =>
        let candidate := dltime.addTimeslots offset
        candidate.t = slot ∧ hyperframeFrame candidate.f candidate.m % period = anchor).map
        fun offset : Nat => dltime.addTimeslots offset
  | _, _, _ => none

/-- The time lies in the timeslot and in the terminal's reception frames: a whole number of periods
from the start point. -/
def Listens (period frame multiframe slot : Nat) (time : TdmaTime) : Prop :=
  time.t = slot ∧ hyperframeFrame time.f time.m ≡ hyperframeFrame frame multiframe [MOD period]

/-- **The earliest slot that the terminal hears**, at least two timeslots from now. -/
structure EarliestReception (now period frame multiframe slot offset : Nat) : Prop where
  ahead : 2 ≤ offset
  listens : Listens period frame multiframe slot (fromInt (now + offset : Nat))
  first : ∀ earlier, 2 ≤ earlier → earlier < offset →
    ¬ Listens period frame multiframe slot (fromInt (now + earlier : Nat))

section Search

variable {mode period frame multiframe slot : Nat}

theorem EarliestReception.unique {now offset other : Nat}
    (earliest : EarliestReception now period frame multiframe slot offset)
    (also : EarliestReception now period frame multiframe slot other) : offset = other := by
  rcases lt_trichotomy offset other with before | same | after
  · exact absurd earliest.listens (also.first offset earliest.ahead before)
  · exact same
  · exact absurd also.listens (earliest.first other also.ahead after)

theorem hyperframeFrame_fromInt (time : Nat) :
    hyperframeFrame (fromInt time).f (fromInt time).m = time / 4 % 1080 := by
  have f := f_fromInt time
  have m := m_fromInt time
  unfold hyperframeFrame
  omega

theorem period_spec (is : energyEconomyPeriodFrames mode = some period) :
    0 < period ∧ period ≤ 360 ∧ period ∣ 1080 := by
  unfold energyEconomyPeriodFrames at is
  split at is <;> cases is <;> decide

theorem period_of_valid (low : 1 ≤ mode) (high : mode ≤ 7) :
    ∃ period, energyEconomyPeriodFrames mode = some period := by
  interval_cases mode <;> exact ⟨_, rfl⟩

theorem listens_iff {time : Nat} (divides : period ∣ 1080) :
    Listens period frame multiframe slot (fromInt time) ↔
      time % 4 + 1 = slot ∧ time / 4 ≡ hyperframeFrame frame multiframe [MOD period] := by
  have t := t_fromInt time
  unfold Listens
  rw [hyperframeFrame_fromInt]
  refine and_congr (by omega) ?_
  unfold Nat.ModEq
  rw [mod_mod_of_dvd _ divides]

/-- **A terminal with start frame 18 that sleeps for whole multiframes listens in frames 18 alone.** -/
theorem Listens.in_last {time : Int} (divides : 18 ∣ period)
    (listens : Listens period 18 multiframe slot (fromInt time)) : (fromInt time).f = 18 := by
  have frame := f_fromInt time
  have congruent := (listens.2.of_dvd divides).symm
  unfold hyperframeFrame Nat.ModEq at congruent
  omega

theorem residue_ahead {size residue : Nat} (small : residue < size) (start : Nat) :
    ∃ steps < size, (start + steps) % size = residue := by
  have positive := zero_lt_of_lt small
  refine ⟨(residue + size - start % size) % size, mod_lt _ positive, ?_⟩
  have low := mod_lt start positive
  have whole : start + (residue + size - start % size) = residue + size * (start / size + 1) := by
    have split := div_add_mod start size
    rw [mul_succ]
    omega
  rw [add_mod_mod, whole, add_mul_mod_self_left, mod_eq_of_lt small]

/-- **Within one period the terminal listens.** -/
theorem listens_within (now : Nat) (positive : 0 < period) (divides : period ∣ 1080)
    (low : 1 ≤ slot) (high : slot ≤ 4) :
    ∃ offset, 2 ≤ offset ∧ offset < 2 + 4 * period ∧
      Listens period frame multiframe slot (fromInt (now + offset : Nat)) := by
  have anchor := mod_lt (hyperframeFrame frame multiframe) positive
  -- a slot is known by its timeslot and its frame modulo the period
  obtain ⟨steps, near, reached⟩ := residue_ahead
    (show 4 * (hyperframeFrame frame multiframe % period) + (slot - 1) < 4 * period by omega) (now + 2)
  refine ⟨2 + steps, le_add_right 2 steps, by omega, (listens_iff divides).mpr ⟨?_, ?_⟩⟩
  · have four : (now + 2 + steps) % 4 = slot - 1 := by
      rw [← mod_mod_of_dvd _ (dvd_mul_right 4 period)]
      omega
    omega
  · unfold Nat.ModEq
    have frames : (now + 2 + steps) / 4 % period = hyperframeFrame frame multiframe % period := by
      rw [← mod_mul_right_div_self]
      omega
    rw [← frames]
    congr 2
    omega

/-- **The search finds the earliest slot** that the terminal hears. -/
theorem next_spec {now : Nat} (is : energyEconomyPeriodFrames mode = some period)
    (frameValid : 1 ≤ frame ∧ frame ≤ 18) (multiframeValid : 1 ≤ multiframe ∧ multiframe ≤ 60)
    (low : 1 ≤ slot) (high : slot ≤ 4) :
    ∃ offset, offset ≤ 1441 ∧ EarliestReception now period frame multiframe slot offset ∧
      nextEnergyEconomyCommonForAssignment (fromInt now) mode (some frame) (some multiframe) slot =
        some (fromInt (now + offset : Nat)) := by
  obtain ⟨positive, small, divides⟩ := period_spec is
  have valid : ¬ (¬ (1 ≤ frame ∧ frame ≤ 18) ∨ ¬ (1 ≤ multiframe ∧ multiframe ≤ 60)) := by
    rw [not_or, not_not, not_not]
    exact ⟨frameValid, multiframeValid⟩
  have listens (offset : Nat) : (decide (((fromInt now).addTimeslots offset).t = slot ∧
      hyperframeFrame ((fromInt now).addTimeslots offset).f ((fromInt now).addTimeslots offset).m %
        period = hyperframeFrame frame multiframe % period)) = true ↔
      Listens period frame multiframe slot (fromInt (now + offset : Nat)) := by
    rw [decide_eq_true_eq, addTimeslots_fromInt]
    exact Iff.rfl
  unfold nextEnergyEconomyCommonForAssignment
  simp only [is, if_neg valid]
  cases found : (List.range' (MACSCHED_TX_AHEAD + 1) (360 * 4 + 4 - MACSCHED_TX_AHEAD)).find?
      fun offset : Nat => decide (((fromInt now).addTimeslots offset).t = slot ∧
        hyperframeFrame ((fromInt now).addTimeslots offset).f
          ((fromInt now).addTimeslots offset).m % period =
            hyperframeFrame frame multiframe % period) with
  | none =>
    obtain ⟨offset, ahead, within, heard⟩ :=
      @listens_within period frame multiframe slot now positive divides low high
    have member : offset ∈ List.range' (MACSCHED_TX_AHEAD + 1) (360 * 4 + 4 - MACSCHED_TX_AHEAD) := by
      rw [mem_range'_1]
      unfold MACSCHED_TX_AHEAD
      omega
    exact absurd ((listens offset).mpr heard) (find?_eq_none.mp found offset member)
  | some offset =>
    obtain ⟨heard, member, first⟩ := find?_range'_eq_some.mp found
    have earliest : EarliestReception now period frame multiframe slot offset := by
      refine ⟨(mem_range'_1.mp member).1, (listens offset).mp heard, ?_⟩
      intro earlier ahead before heardEarlier
      have missed := first earlier ahead before
      rw [(listens earlier).mpr heardEarlier] at missed
      cases missed
    refine ⟨offset, ?_, earliest, ?_⟩
    · by_contra late
      obtain ⟨sooner, ahead, within, heardSooner⟩ :=
        @listens_within period frame multiframe slot now positive divides low high
      exact earliest.first sooner ahead (by omega) heardSooner
    · rw [Option.map_some, addTimeslots_fromInt, cast_add]

end Search

/-! ### What the scheduler sends next -/

namespace DlSchedElem

variable {Key : Type}

def isCancelled (txStates : ReporterName → TxState) : DlSchedElem Key → Bool
  | resource _ _ (some txReporter) _ _ | stealing _ (some txReporter) _ =>
    txStates txReporter = .discarded
  | fragBuf _ (some txReporter) _ => txStates txReporter = .discarded
  | _ => false

def isOriginalAdvancedData : DlSchedElem Key → Bool
  | resource _ sdu _ _ _ => sdu.peekBits 4 = some alDataAlFinal
  | _ => false

def isGrant : DlSchedElem Key → Bool
  | grant _ _ => true
  | _ => false

def isResource : DlSchedElem Key → Bool
  | resource _ _ _ _ _ => true
  | _ => false

def announcesGrant : DlSchedElem Key → Bool
  | resource pdu _ _ _ _ => pdu.slotGrantingElement.isSome
  | _ => false

def isFragBuf : DlSchedElem Key → Bool
  | fragBuf _ _ _ => true
  | _ => false

end DlSchedElem

/-- The acknowledgement bits, number and segment of an advanced-link segment. -/
def advancedLinkSegmentIdentity (sdu : BitBuffer) : Option (Bool × Bool × Nat × Nat) :=
  if sdu.getLenRemaining < 17 ∨ sdu.peekBitsStartoffset 0 4 ≠ some alDataAlFinal then none
  else do
    let final ← sdu.peekBitsStartoffset 4 1
    let ar ← sdu.peekBitsStartoffset 5 1
    let ns ← sdu.peekBitsStartoffset 6 3
    let ss ← sdu.peekBitsStartoffset 9 8
    some (final ≠ 0, ar ≠ 0, ns, ss)

def aieIndividualIssi {Key : Type} : AieRequest Key → Option Nat
  | .clear (.individual issi) _ | .sc2 (.individual issi) _ | .sc3 (.individual issi) _ _ => some issi
  | _ => none

/-- The terminal and the numbers of a packet-data segment. -/
def schedElemAdvancedLinkSequence {Key : Type} : DlSchedElem Key → Option (Nat × Nat × Nat)
  | .resource _ sdu _ aieRequest (some _) => do
    let (_, _, ns, ss) ← advancedLinkSegmentIdentity sdu
    let issi ← aieIndividualIssi aieRequest
    some (issi, ns, ss)
  | _ => none

namespace DownlinkScheduler

variable {Key : Type} (scheduler : DownlinkScheduler Key)

/-- An earlier segment for the terminal waits in any queue. -/
def hasEarlierPendingAdvancedLinkSegment (issi ns ss : Nat) : Bool :=
  let queues := [0, 1, 2, 3].flatMap scheduler.dltxQueues ++
    [0, 1, 2, 3].flatMap scheduler.dltxHalfDuplexQueues ++ scheduler.dltxNextSlotQueue
  (queues.filterMap schedElemAdvancedLinkSequence).any fun (pendingIssi, pendingNs, pendingSs) =>
    if pendingIssi ≠ issi then false
    else if pendingNs = ns then pendingSs < ss
    else
      -- a window has at most three segments
      let ahead := (ns + 256 - pendingNs) % 256 % 8
      1 ≤ ahead ∧ ahead ≤ 3

/-- Advanced-link data whose turn it is. -/
def isEligible (elem : DlSchedElem Key) : Bool :=
  elem.isOriginalAdvancedData &&
    match schedElemAdvancedLinkSequence elem with
    | some (issi, ns, ss) => !scheduler.hasEarlierPendingAdvancedLinkSegment issi ns ss
    | none => true

/-- Grants first, then resources with a grant, fragments, signalling, and data last; nothing in a
frame 18. -/
def dlTakePrioritizedSchedItem (ts : TdmaTime) : Option (DlSchedElem Key) × DownlinkScheduler Key :=
  if ts.f = 18 then (none, scheduler)
  else
    let q := (scheduler.dltxQueues (ts.t - 1)).filter fun elem => !elem.isCancelled scheduler.txStates
    let scheduler := { scheduler with dltxQueues := Function.update scheduler.dltxQueues (ts.t - 1) q }
    let found := (q.findIdx? DlSchedElem.isGrant).or <| (q.findIdx? DlSchedElem.announcesGrant).or <|
      (q.findIdx? DlSchedElem.isFragBuf).or <|
      (q.findIdx? fun elem => elem.isResource && !elem.isOriginalAdvancedData).or <|
      q.findIdx? scheduler.isEligible
    match found with
    | some index => (q[index]?, { scheduler with
        dltxQueues := Function.update scheduler.dltxQueues (ts.t - 1) (q.eraseIdx index) })
    | none => (none, scheduler)

def isCommonControl (slot : Nat) : Bool :=
  1 ≤ slot ∧ slot ≤ scheduler.commonScchCount + 1

def dlEnqueueCommonTma (ts : Nat) (pdu : MacResource) (sdu : BitBuffer)
    (reporter : Option ReporterName) (aie : AieRequest Key) : DownlinkScheduler Key :=
  let ts := if scheduler.isCommonControl ts then ts else 1
  { scheduler with
    dltxQueues := Function.update scheduler.dltxQueues (ts - 1)
      (scheduler.dltxQueues (ts - 1) ++ [.resource pdu sdu reporter aie none]) }

/-- Ahead of what is queued. -/
def dlEnqueueEeCommonTma (slot : Nat) (pdu : MacResource) (sdu : BitBuffer) (reporter : ReporterName)
    (aieRequest : AieRequest Key) : DownlinkScheduler Key :=
  let slot := if scheduler.isCommonControl slot then slot else 1
  { scheduler with
    dltxQueues := Function.update scheduler.dltxQueues (slot - 1)
      (.resource pdu sdu (some reporter) aieRequest none :: scheduler.dltxQueues (slot - 1)) }

def hasPendingRandomAccessAck (ssi : Nat) : Bool :=
  [0, 1, 2, 3].any fun slot => (scheduler.pendingRaAcks slot).contains ssi ||
    (scheduler.dltxQueues slot).any fun elem =>
      match elem with
      | .randomAccessAck address _ => address.ssi = ssi
      | _ => false

end DownlinkScheduler

/-! ### What is held back -/

/-- A replay of a message to all terminals, which is tried again in the next period. -/
structure EeReplayRetry where
  periodSlots : Nat
  attemptsLeft : Nat
  cutoff : Option TdmaTime
  inFlight : Option Nat

structure DeferredMcch (Key : Type) where
  due : TdmaTime
  pdu : MacResource
  sdu : BitBuffer
  txReporter : Option Nat
  aieRequest : AieRequest Key
  eeRetry : Option EeReplayRetry

def DeferredMcch.isCancelled {Key : Type} (resource : DeferredMcch Key)
    (txStates : ReporterName → TxState) : Bool :=
  resource.txReporter.any fun reporter => txStates (.ofLink reporter) = .discarded

/-- A request of the link layer, with the resource built for it. -/
structure McchRequest (Key : Type) where
  mainAddress : TetraAddress
  endpointId : Nat
  hasAssociatedChannel : Bool
  allMsTrafficBroadcast : Bool
  pdu : MacResource
  sdu : BitBuffer
  txReporter : Option Nat
  aieRequest : AieRequest Key

/-- A mode with its start point. -/
structure EconomyAssignment where
  mode : Nat
  frame : Option Nat
  multiframe : Option Nat

/-- The base station and the shared state, as far as terminals in energy economy are concerned. -/
structure EconomyBs (Key : Type) where
  channelScheduler : DownlinkScheduler Key
  deferredMcch : List (DeferredMcch Key)
  advertisedCount : Nat
  physicalCount : Nat
  msScch : Nat → Option Nat
  registrationSlot : Nat → Option Nat
  energyEconomy : Nat → Option EconomyAssignment
  groupEnergyEconomies : Nat → List (Nat × EconomyAssignment)
  activeEnergyEconomies : List (Nat × EconomyAssignment)
  energyEconomyActivationPending : Nat → Bool
  directResponseWindowActive : Nat → TdmaTime → Bool
  /-- A key rollover that is announced, with its time if it has one. -/
  rolloverNotification : Option (Option TdmaTime)

namespace EconomyBs

variable {Key : Type} (bs : EconomyBs Key) (dltime : TdmaTime) (request : McchRequest Key)

def isCommon (slot : Nat) : Bool := 1 ≤ slot ∧ slot ≤ bs.physicalCount + 1

def commonDownlinkSlot : Nat :=
  if bs.isCommon request.endpointId then request.endpointId
  else ((bs.registrationSlot request.mainAddress.ssi).filter fun slot => bs.isCommon slot).getD
    (commonControlSlot (bs.msScch request.mainAddress.ssi) bs.advertisedCount)

def eeReplayIsUsable (due now : TdmaTime) (rolloverActivation : Option TdmaTime) : Bool :=
  due.age now < 0 ∧ ∀ activation ∈ rolloverActivation, 0 < activation.diff due

def allMs : Bool := request.mainAddress.ssi = 0x00ffffff ∧ request.mainAddress.ssiType = .gssi

/-- The activation of the rollover that a message to all terminals is about. -/
def rolloverActivation : Option TdmaTime :=
  if allMs request then bs.rolloverNotification.join else none

def allMsRollover : Bool := allMs request ∧ bs.rolloverNotification.isSome

def assignments : List (Nat × EconomyAssignment) :=
  if request.allMsTrafficBroadcast then []
  else if allMs request then bs.activeEnergyEconomies
  else bs.groupEnergyEconomies request.mainAddress.ssi

def replay (due : TdmaTime) (eeRetry : Option EeReplayRetry) : DeferredMcch Key :=
  ⟨due, request.pdu, request.sdu, none, request.aieRequest, eeRetry⟩

/-- The slots of a terminal in which a group message is replayed. -/
def opportunities (issi : Nat) (assignment : EconomyAssignment) : List (TdmaTime × Nat) :=
  let commonSlot := commonControlSlot (bs.msScch issi) bs.advertisedCount
  match nextEnergyEconomyCommonForAssignment dltime assignment.mode assignment.frame
    assignment.multiframe commonSlot, energyEconomyPeriodFrames assignment.mode with
  | some due, some periodFrames =>
    if eeReplayIsUsable due dltime (bs.rolloverActivation request) then
      let later := due.addTimeslots (periodFrames * 4 : Nat)
      let second := if ∀ activation ∈ bs.rolloverActivation request, 0 < activation.diff later
        then later else due
      if bs.allMsRollover request then [(due, 0), (second, 1)] else [(due, 0)]
    else []
  | _, _ => []

/-- The replays of a group message, one for each slot and copy. -/
def groupReplays : List (TdmaTime × Nat) → List (Nat × EconomyAssignment) → List (DeferredMcch Key)
  | _, [] => []
  | scheduled, (issi, assignment) :: rest =>
    let fresh := (bs.opportunities dltime request issi assignment).filter (· ∉ scheduled)
    let eeRetry := if allMs request then
        (energyEconomyPeriodFrames assignment.mode).map fun periodFrames =>
          ⟨periodFrames * 4, 4, bs.rolloverActivation request, none⟩
      else none
    fresh.map (fun opportunity => replay request opportunity.1 eeRetry) ++
      groupReplays (scheduled ++ fresh) rest

/-- What is held back of an individual message, if the terminal does not wait for it. -/
def individualDeferral : List (DeferredMcch Key) :=
  if bs.energyEconomyActivationPending request.mainAddress.ssi ||
      bs.channelScheduler.hasPendingRandomAccessAck request.mainAddress.ssi ||
      bs.directResponseWindowActive request.mainAddress.ssi dltime then []
  else
    match bs.energyEconomy request.mainAddress.ssi with
    | some assignment =>
      match nextEnergyEconomyCommonForAssignment dltime assignment.mode assignment.frame
        assignment.multiframe (bs.commonDownlinkSlot request) with
      | some due =>
        [⟨due, request.pdu, request.sdu, request.txReporter, request.aieRequest, none⟩]
      | none => []
    | none => []

/-- What is held back of a message. -/
def deferrals : List (DeferredMcch Key) :=
  if request.hasAssociatedChannel then []
  else
    match request.mainAddress.ssiType with
    | .gssi => bs.groupReplays dltime request [] (bs.assignments request)
    | .issi => bs.individualDeferral dltime request
    | _ => []

def rxUlTmaUnitdataReq : EconomyBs Key :=
  { bs with deferredMcch := bs.deferredMcch ++ bs.deferrals dltime request }

end EconomyBs

end Bluestation
