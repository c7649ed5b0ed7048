/-
**The common control channels of the cell, which come and go with the operator's settings.**

Next to the main control channel on timeslot 1 there are secondary ones on the timeslots behind it. Two
numbers are kept: how many there are, and how many are announced. They are added one at a time, when
the next timeslot is free; fewer are announced at once, and the timeslots are given back when every
sleeping terminal had its chance to hear of it.

* `refreshCommonControlChannels` — what happens at the start of each timeslot.
* `refresh_cases` — **what one refresh can do**: wait, begin a decrease, end one, or add a channel.
-/

import Bluestation.Core.TimeslotAlloc
import Bluestation.Llc.BasicLink
import Bluestation.Umac.UplinkSchedule
import Bluestation.Umac.BsFrag

namespace Bluestation

open Bits SlotBitmap UplinkSchedule List TimeslotAllocator

/-! ### The downlink queues -/

/-- A reporter is shared, so it goes by a name: those of the link layer, and those that the MAC makes
for its own replays. -/
inductive ReporterName where
  | ofLink (index : Nat)
  | ofReplay (index : Nat)
deriving DecidableEq

/-- What waits to be sent in a timeslot. -/
inductive DlSchedElem (Key : Type) where
  | broadcast
  | randomAccessAck (addr : TetraAddress) (aieRequest : AieRequest Key)
  | grant (addr : TetraAddress) (grant : BasicSlotgrant)
  | resource (pdu : MacResource) (sdu : BitBuffer) (txReporter : Option ReporterName)
      (aieRequest : AieRequest Key) (packetDataSlots : Option (BitVec 4))
  | associatedGrantRequest (addr : TetraAddress) (resReq : ReservationRequirement)
      (requestedSlots : Nat)
  | fragBuf (fragger : BsFragger Key) (txReporter : Option ReporterName)
      (packetDataSlots : Option (BitVec 4))
  | stealing (block : BitBuffer) (txReporter : Option ReporterName) (aieRequest : AieRequest Key)

/-- The uplink schedule with the downlink queues, by timeslot less one. Repeats of associated control
are only counted; random access to be acknowledged is known by its terminal. -/
structure DownlinkScheduler (Key : Type) extends BsChannelScheduler where
  /-- Whether a traffic circuit is open in the downlink of a timeslot. -/
  dlCircuits : Nat → Bool
  dltxQueues : Nat → List (DlSchedElem Key)
  dltxHalfDuplexQueues : Nat → List (DlSchedElem Key)
  dltxNextSlotQueue : List (DlSchedElem Key)
  assocDltxQueues : Nat → List (DlSchedElem Key)
  assocBestEffortQueues : Nat → Nat
  pendingRaAcks : Nat → List Nat
  commonScchCount : Nat
  forceCommonSysinfo : Bool
  /-- The number of channels that both SYSINFO blocks announce. -/
  numOfCsch : Nat
  configuredNoMinimumMode : Bool
  noMinimumMode : Bool
  /-- What has been reported, and the name of the next replay's reporter. -/
  txStates : ReporterName → TxState
  nextReplay : Nat

/-- Length and fill bit indication for an SDU of that many bits. -/
def MacResource.updateLenAndFillInd (pdu : MacResource) (sduLen : Nat) :
    Except Fault MacResource := do
  let hdrLen ← pdu.computeHeaderLen
  let totalLen := hdrLen + sduLen
  .ok { pdu with
    lengthInd := (totalLen + 7) / 8 % 256
    fillBits := (8 - totalLen % 8) % 8 ≠ 0 }

namespace DlSchedElem

variable {Key : Type}

/-- The reporter of a fragmented message that is told when it is dropped. -/
def droppedFragger (fragger : BsFragger Key) (txReporter : Option ReporterName) : List ReporterName :=
  if fragger.isFullyTransmitted then [] else txReporter.toList

/-- The reporter of an associated control message that is told when it is dropped. -/
def droppedAssociated : DlSchedElem Key → List ReporterName
  | resource _ _ (some txReporter) _ _ => [txReporter]
  | fragBuf fragger txReporter _ => droppedFragger fragger txReporter
  | _ => []

/-- What is moved to the main control channel, and the reporter told if there is nothing to move. -/
def recover : DlSchedElem Key → Except Fault (List (DlSchedElem Key) × List ReporterName)
  | resource pdu sdu txReporter aieRequest none =>
    if txReporter.isNone ∧ sdu.getLen = 0 then .ok ([], [])
    else do
      -- a grant is relative to the channel that it is sent on
      let pdu ← { pdu with slotGrantingElement := none }.updateLenAndFillInd sdu.getLen
      .ok ([resource pdu sdu txReporter aieRequest none], [])
  | resource _ _ (some txReporter) _ (some _) => .ok ([], [txReporter])
  | stealing _ (some txReporter) _ => .ok ([], [txReporter])
  | fragBuf fragger txReporter _ => .ok ([], droppedFragger fragger txReporter)
  | _ => .ok ([], [])

/-- One element after the other. -/
def recoverAll : List (DlSchedElem Key) → Except Fault (List (DlSchedElem Key) × List ReporterName)
  | [] => .ok ([], [])
  | elem :: rest => do
    let (moved, told) ← elem.recover
    let (laterMoved, laterTold) ← recoverAll rest
    .ok (moved ++ laterMoved, told ++ laterTold)

end DlSchedElem

namespace DownlinkScheduler

variable {Key : Type} (scheduler : DownlinkScheduler Key)

def packetBearerIsActive (timeslot : Nat) : Bool :=
  timeslot ∈ timeslots ∧ (scheduler.packetBearers (timeslot - 1)).isSome

def assignedChannelIsActive (timeslot : Nat) : Bool :=
  scheduler.packetBearerIsActive timeslot || scheduler.dlCircuits (timeslot - 1) ||
    scheduler.ulCircuits (timeslot - 1)

def ringIsFree (slot : Nat) : Bool :=
  (List.range MACSCHED_NUM_FRAMES).all fun index =>
    (scheduler.ulsched (slot - 1, index)).ul1.isNone &&
      (scheduler.ulsched (slot - 1, index)).ul2.isNone

def commonSlotIsDrained (slot : Nat) : Bool :=
  (scheduler.dltxQueues (slot - 1)).isEmpty && (scheduler.dltxHalfDuplexQueues (slot - 1)).isEmpty &&
    (scheduler.assocDltxQueues (slot - 1)).isEmpty &&
    scheduler.assocBestEffortQueues (slot - 1) = 0 && (scheduler.pendingRaAcks (slot - 1)).isEmpty &&
    !scheduler.dlCircuits (slot - 1) && !scheduler.ulCircuits (slot - 1) &&
    !scheduler.packetBearerIsActive slot && scheduler.ringIsFree slot

/-- Reporters that nothing has been reported to are told that their messages are dropped. -/
def discardPending (told : List ReporterName) : DownlinkScheduler Key :=
  { scheduler with
    txStates := fun reporter =>
      if reporter ∈ told ∧ scheduler.txStates reporter = .pending then .discarded
      else scheduler.txStates reporter }

def dlDropAssociatedControl (timeslot : Nat) : DownlinkScheduler Key :=
  { scheduler.discardPending
      ((scheduler.assocDltxQueues (timeslot - 1)).flatMap DlSchedElem.droppedAssociated) with
    assocDltxQueues := Function.update scheduler.assocDltxQueues (timeslot - 1) []
    assocBestEffortQueues := Function.update scheduler.assocBestEffortQueues (timeslot - 1) 0 }

/-- The slot has an uplink reservation that was announced, or carries an assigned channel. -/
def isPromised (slot : Nat) : Bool :=
  scheduler.assignedChannelIsActive slot || !scheduler.ringIsFree slot ||
    scheduler.associatedUlsched.any fun entry =>
      entry.1.t = slot ∧ entry.1.age scheduler.curDltime ≤ 16

/-- Recover what is queued for a timeslot that nobody owns; not if the timeslot is still needed. -/
def prepareFreeCommonControlSlot (slot : Nat) : Except Fault (Bool × DownlinkScheduler Key) :=
  if scheduler.isPromised slot then .ok (false, scheduler)
  else do
    let scheduler := scheduler.dlDropAssociatedControl slot
    let (moved, told) ← DlSchedElem.recoverAll
      (scheduler.dltxQueues (slot - 1) ++ scheduler.dltxHalfDuplexQueues (slot - 1))
    let emptied := Function.update scheduler.dltxQueues (slot - 1) []
    let scheduler := { scheduler.discardPending told with
      dltxQueues := Function.update emptied 0 (emptied 0 ++ moved)
      dltxHalfDuplexQueues := Function.update scheduler.dltxHalfDuplexQueues (slot - 1) []
      pendingRaAcks := Function.update scheduler.pendingRaAcks (slot - 1) [] }
    .ok (scheduler.commonSlotIsDrained slot, scheduler)

def retireCommonControlSlot (slot target : Nat) : DownlinkScheduler Key :=
  let emptied := Function.update scheduler.dltxQueues (slot - 1) []
  { scheduler with
    dltxQueues := Function.update emptied (target - 1)
      (emptied (target - 1) ++ scheduler.dltxQueues (slot - 1)) }

def setCommonControlChannels (physical advertised : Nat) (transition : Bool) :
    DownlinkScheduler Key :=
  { scheduler with
    commonScchCount := physical
    forceCommonSysinfo := transition
    numOfCsch := advertised
    noMinimumMode := scheduler.configuredNoMinimumMode || 0 < physical }

end DownlinkScheduler

/-! ### The channels -/

/-- How many channels are announced, how many there are, and until when fewer than there are have been
announced, with the slots of a frame 18 in which they were. -/
structure CommonControlChannels where
  advertisedCount : Nat
  physicalCount : Nat
  drainUntil : Option TdmaTime
  advertisedFrame18Slots : SlotBitmap

/-- The base station and the shared state, as far as the common control channels are concerned. -/
structure CommonControlBs (Key : Type) where
  commonControl : CommonControlChannels
  timeslotAlloc : TimeslotAllocator
  /-- The operator's setting. -/
  commonScchCount : Nat
  /-- The energy economy modes of the active terminals. -/
  activeEnergyEconomies : List Nat
  activeIssis : List Nat
  msScch : Nat → Option Nat
  hasDeliveryRoutes : Nat → Bool
  /-- Event labels, each with its terminal. -/
  eventLabels : List (Nat × Nat)
  channelScheduler : DownlinkScheduler Key

namespace CommonControlBs

variable {Key : Type}

def longestEconomy (bs : CommonControlBs Key) : Nat :=
  ((bs.activeEnergyEconomies.map eePeriodFrames).max?).getD 1

/-- How many timeslots fewer channels are announced before the first is given back. -/
def drainTime (bs : CommonControlBs Key) : Nat := max bs.longestEconomy 72 * 4 + 16

def getLabelBySsi (bs : CommonControlBs Key) (ssi : Nat) : Option Nat :=
  (bs.eventLabels.find? fun mapping => mapping.2 = ssi).map (·.1)

/-- A terminal that moves to another common control channel loses its label. -/
def dropLabel (previousCount nextCount : Nat) (bs : CommonControlBs Key) (issi : Nat) :
    CommonControlBs Key :=
  if commonControlSlot (bs.msScch issi) previousCount ≠ commonControlSlot (bs.msScch issi) nextCount ∧
      bs.hasDeliveryRoutes issi = false then
    match bs.getLabelBySsi issi with
    | some label =>
      { bs with eventLabels := bs.eventLabels.filter fun mapping => mapping.1 ≠ label }
    | none => bs
  else bs

def retiring (bs : CommonControlBs Key) : List Nat :=
  List.range' (bs.commonControl.advertisedCount + 2)
    (bs.commonControl.physicalCount - bs.commonControl.advertisedCount)

/-- Give one timeslot of a decrease back. -/
def retire (bs : CommonControlBs Key) (slot : Nat) : CommonControlBs Key :=
  { bs with
    channelScheduler := bs.channelScheduler.retireCommonControlSlot slot 1
    timeslotAlloc := match bs.timeslotAlloc.release .commonControl slot with
      | .ok released => released
      | .error _ => bs.timeslotAlloc }

/-- The end of a decrease, if its time is over, it has been announced and the timeslots are drained. -/
def refreshDrain (bs : CommonControlBs Key) (deadline now : TdmaTime) : CommonControlBs Key :=
  if 0 ≤ deadline.age now ∧ bs.commonControl.advertisedFrame18Slots = 15 then
    if bs.retiring.all bs.channelScheduler.commonSlotIsDrained then
      let retired := bs.retiring.foldl retire bs
      { retired with
        commonControl := { retired.commonControl with
          physicalCount := bs.commonControl.advertisedCount
          drainUntil := none } }
    else bs
  else bs

/-- The beginning of a decrease. -/
def beginDecrease (bs : CommonControlBs Key) (desired : Nat) (now : TdmaTime) :
    CommonControlBs Key :=
  { bs with
    commonControl := { bs.commonControl with
      advertisedCount := desired
      advertisedFrame18Slots := 0
      drainUntil := some (now.addTimeslots bs.drainTime) } }

/-- One more channel, if the next timeslot can be had. -/
def expand (bs : CommonControlBs Key) : Except Fault (CommonControlBs Key) :=
  let slot := bs.commonControl.physicalCount + 2
  if slot ∉ timeslots then .error .panic
  else if bs.timeslotAlloc.owners slot = none then do
    let (free, scheduler) ← bs.channelScheduler.prepareFreeCommonControlSlot slot
    let bs := { bs with channelScheduler := scheduler }
    if free then
      match bs.timeslotAlloc.reserve .commonControl slot with
      | .ok reserved =>
        .ok { bs with
          timeslotAlloc := reserved
          commonControl := { bs.commonControl with
            physicalCount := bs.commonControl.physicalCount + 1
            advertisedCount := bs.commonControl.physicalCount + 1 } }
      | .error _ => .ok bs
    else .ok bs
  else .ok bs

/-- The counts for this timeslot. -/
def refreshCounts (bs : CommonControlBs Key) (now : TdmaTime) : Except Fault (CommonControlBs Key) :=
  match bs.commonControl.drainUntil with
  | some deadline => .ok (bs.refreshDrain deadline now)
  | none =>
    if bs.commonScchCount < bs.commonControl.advertisedCount then
      .ok (bs.beginDecrease bs.commonScchCount now)
    else if bs.commonControl.advertisedCount < bs.commonScchCount then bs.expand
    else .ok bs

/-- The channels of this timeslot, as the scheduler and the event labels see them. -/
def publish (bs : CommonControlBs Key) (previousCount : Nat) : CommonControlBs Key :=
  let bs := if previousCount ≠ bs.commonControl.advertisedCount then
      bs.activeIssis.foldl (dropLabel previousCount bs.commonControl.advertisedCount) bs
    else bs
  { bs with
    channelScheduler := bs.channelScheduler.setCommonControlChannels bs.commonControl.physicalCount
      bs.commonControl.advertisedCount bs.commonControl.drainUntil.isSome }

def refreshCommonControlChannels (bs : CommonControlBs Key) (now : TdmaTime) :
    Except Fault (CommonControlBs Key) := do
  let fenced := { bs with
    timeslotAlloc := bs.timeslotAlloc.setCommonControlTarget bs.commonScchCount }
  let refreshed ← fenced.refreshCounts now
  .ok (refreshed.publish bs.commonControl.advertisedCount)

/-- The end of a timeslot: in a frame 18, that the channels were announced in it. -/
def noteAdvertised (bs : CommonControlBs Key) (ts : TdmaTime) (hasBnch : Bool) :
    CommonControlBs Key :=
  if ts.f = 18 ∧ hasBnch = true then
    { bs with
      commonControl := { bs.commonControl with
        advertisedFrame18Slots := bs.commonControl.advertisedFrame18Slots ||| bit ts.t } }
  else bs

/-! ### What one refresh can do -/

/-- **What a refresh has done**: nothing to the channels, or it began a decrease, or it ended one, or
it added a channel. -/
inductive Refreshed (bs : CommonControlBs Key) (now : TdmaTime) (next : CommonControlBs Key) : Prop
  | waits (channels : next.commonControl = bs.commonControl)
      (owners : next.timeslotAlloc.owners = bs.timeslotAlloc.owners)
  | begins (steady : bs.commonControl.drainUntil = none)
      (fewer : bs.commonScchCount < bs.commonControl.advertisedCount)
      (channels : next.commonControl = ⟨bs.commonScchCount, bs.commonControl.physicalCount,
        some (now.addTimeslots bs.drainTime), 0⟩)
      (owners : next.timeslotAlloc.owners = bs.timeslotAlloc.owners)
  | ends (deadline : TdmaTime) (draining : bs.commonControl.drainUntil = some deadline)
      (expired : 0 ≤ deadline.age now) (announced : bs.commonControl.advertisedFrame18Slots = 15)
      (drained : ∀ slot ∈ bs.retiring, bs.channelScheduler.commonSlotIsDrained slot = true)
      (channels : next.commonControl = ⟨bs.commonControl.advertisedCount,
        bs.commonControl.advertisedCount, none, bs.commonControl.advertisedFrame18Slots⟩)
      (owners : ∀ slot, next.timeslotAlloc.owners slot =
        if slot ∈ bs.retiring ∧ slot ∈ timeslots ∧
            bs.timeslotAlloc.owners slot = some .commonControl then none
        else bs.timeslotAlloc.owners slot)
  | adds (steady : bs.commonControl.drainUntil = none)
      (more : bs.commonControl.advertisedCount < bs.commonScchCount)
      (traffic : bs.commonControl.physicalCount + 2 ∈ timeslots)
      (free : bs.timeslotAlloc.owners (bs.commonControl.physicalCount + 2) = none)
      (notPromised : bs.channelScheduler.isPromised (bs.commonControl.physicalCount + 2) = false)
      (drained : next.channelScheduler.commonSlotIsDrained (bs.commonControl.physicalCount + 2) =
        true)
      (channels : next.commonControl = ⟨bs.commonControl.physicalCount + 1,
        bs.commonControl.physicalCount + 1, none, bs.commonControl.advertisedFrame18Slots⟩)
      (owners : ∀ slot, next.timeslotAlloc.owners slot =
        if slot = bs.commonControl.physicalCount + 2 then some .commonControl
        else bs.timeslotAlloc.owners slot)

variable {bs next : CommonControlBs Key} {now : TdmaTime}

theorem foldl_dropLabel (previousCount nextCount : Nat) (issis : List Nat)
    (bs : CommonControlBs Key) :
    ∃ labels, issis.foldl (dropLabel previousCount nextCount) bs =
      { bs with eventLabels := labels } := by
  induction issis generalizing bs with
  | nil => exact ⟨_, rfl⟩
  | cons issi rest ih =>
    obtain ⟨labels, dropped⟩ : ∃ labels,
        dropLabel previousCount nextCount bs issi = { bs with eventLabels := labels } := by
      unfold dropLabel
      split
      · cases bs.getLabelBySsi issi with
        | some label => exact ⟨_, rfl⟩
        | none => exact ⟨_, rfl⟩
      · exact ⟨_, rfl⟩
    rw [foldl_cons, dropped]
    exact ih _

theorem publish_eq (bs : CommonControlBs Key) (previousCount : Nat) :
    ∃ labels, bs.publish previousCount = { bs with
      eventLabels := labels
      channelScheduler := bs.channelScheduler.setCommonControlChannels
        bs.commonControl.physicalCount bs.commonControl.advertisedCount
        bs.commonControl.drainUntil.isSome } := by
  unfold publish
  split
  · obtain ⟨labels, dropped⟩ := foldl_dropLabel previousCount bs.commonControl.advertisedCount
      bs.activeIssis bs
    rw [dropped]
    exact ⟨labels, rfl⟩
  · exact ⟨_, rfl⟩

theorem retire_owners (bs : CommonControlBs Key) (slot other : Nat) :
    (bs.retire slot).timeslotAlloc.owners other =
      if other = slot ∧ slot ∈ timeslots ∧
          bs.timeslotAlloc.owners other = some .commonControl then none
      else bs.timeslotAlloc.owners other := by
  by_cases traffic : slot ∈ timeslots
  · refine (release_owner bs.timeslotAlloc .commonControl traffic other).trans ?_
    by_cases same : other = slot
    · rw [same]
      simp [traffic]
    · simp [same]
  · have refused : bs.timeslotAlloc.release .commonControl slot = .error (.invalidTimeslot slot) :=
      if_neg traffic
    rw [if_neg fun all => traffic all.2.1]
    unfold retire
    rw [refused]

theorem foldl_retire (slots : List Nat) (bs : CommonControlBs Key) :
    (slots.foldl retire bs).commonControl = bs.commonControl ∧
      (slots.foldl retire bs).commonScchCount = bs.commonScchCount ∧
      ∀ other, (slots.foldl retire bs).timeslotAlloc.owners other =
        if other ∈ slots ∧ other ∈ timeslots ∧
            bs.timeslotAlloc.owners other = some .commonControl then none
        else bs.timeslotAlloc.owners other := by
  induction slots generalizing bs with
  | nil => simp
  | cons slot rest ih =>
    obtain ⟨channels, target, owners⟩ := ih (bs.retire slot)
    refine ⟨channels, target, fun other => ?_⟩
    rw [foldl_cons, owners, retire_owners]
    by_cases same : other = slot
    · subst same
      by_cases held : other ∈ timeslots ∧ bs.timeslotAlloc.owners other = some .commonControl
      · simp [held]
      · simp [held]
    · simp [same]

theorem publish_channels (bs : CommonControlBs Key) (previousCount : Nat) :
    (bs.publish previousCount).commonControl = bs.commonControl ∧
      (bs.publish previousCount).timeslotAlloc = bs.timeslotAlloc ∧
      (bs.publish previousCount).commonScchCount = bs.commonScchCount ∧
      (bs.publish previousCount).channelScheduler.numOfCsch = bs.commonControl.advertisedCount ∧
      (bs.publish previousCount).channelScheduler.commonSlotIsDrained =
        bs.channelScheduler.commonSlotIsDrained := by
  obtain ⟨labels, published⟩ := publish_eq bs previousCount
  rw [published]
  exact ⟨rfl, rfl, rfl, rfl, rfl⟩

theorem prepare_spec {scheduler after : DownlinkScheduler Key} {slot : Nat} {free : Bool}
    (prepared : scheduler.prepareFreeCommonControlSlot slot = .ok (free, after)) (is : free = true) :
    scheduler.isPromised slot = false ∧ after.commonSlotIsDrained slot = true := by
  unfold DownlinkScheduler.prepareFreeCommonControlSlot at prepared
  split at prepared
  · cases prepared
    cases is
  · next notPromised =>
    obtain ⟨recovered, _, done⟩ := bind_eq_ok.mp prepared
    cases done
    exact ⟨Bool.eq_false_iff.mpr notPromised, is⟩

/-- What adding a channel has done, if it has. -/
theorem expand_cases (expanded : bs.expand = .ok next) :
    (next.commonControl = bs.commonControl ∧ next.timeslotAlloc = bs.timeslotAlloc ∧
      next.commonScchCount = bs.commonScchCount) ∨
    (bs.commonControl.physicalCount + 2 ∈ timeslots ∧
      bs.timeslotAlloc.owners (bs.commonControl.physicalCount + 2) = none ∧
      bs.channelScheduler.isPromised (bs.commonControl.physicalCount + 2) = false ∧
      next.channelScheduler.commonSlotIsDrained (bs.commonControl.physicalCount + 2) = true ∧
      next.commonControl = { bs.commonControl with
        advertisedCount := bs.commonControl.physicalCount + 1
        physicalCount := bs.commonControl.physicalCount + 1 } ∧
      next.timeslotAlloc =
        bs.timeslotAlloc.give (some .commonControl) (bs.commonControl.physicalCount + 2) ∧
      next.commonScchCount = bs.commonScchCount) := by
  unfold expand at expanded
  dsimp only at expanded
  split at expanded
  · cases expanded
  · next traffic =>
    rw [not_not] at traffic
    split at expanded
    · next owner =>
      obtain ⟨⟨free, scheduler⟩, prepared, rest⟩ := bind_eq_ok.mp expanded
      split at rest
      · next isFree =>
        obtain ⟨notPromised, drained⟩ := prepare_spec prepared isFree
        rcases reserve_cases bs.timeslotAlloc .commonControl
          (bs.commonControl.physicalCount + 2) with ⟨error, refused⟩ | ⟨_, _, taken⟩
        · rw [refused] at rest
          cases rest
          exact .inl ⟨rfl, rfl, rfl⟩
        · rw [taken] at rest
          cases rest
          exact .inr ⟨traffic, owner, notPromised, drained, rfl, rfl, rfl⟩
      · cases rest
        exact .inl ⟨rfl, rfl, rfl⟩
    · cases expanded
      exact .inl ⟨rfl, rfl, rfl⟩

theorem refreshDrain_cases (deadline : TdmaTime) : bs.refreshDrain deadline now = bs ∨
    ((bs.refreshDrain deadline now).commonScchCount = bs.commonScchCount ∧
      0 ≤ deadline.age now ∧ bs.commonControl.advertisedFrame18Slots = 15 ∧
      (∀ slot ∈ bs.retiring, bs.channelScheduler.commonSlotIsDrained slot = true) ∧
      (bs.refreshDrain deadline now).commonControl = { bs.commonControl with
        physicalCount := bs.commonControl.advertisedCount
        drainUntil := none } ∧
      ∀ slot, (bs.refreshDrain deadline now).timeslotAlloc.owners slot =
        if slot ∈ bs.retiring ∧ slot ∈ timeslots ∧
            bs.timeslotAlloc.owners slot = some .commonControl then none
        else bs.timeslotAlloc.owners slot) := by
  unfold refreshDrain
  split
  · next ready =>
    split
    · next drained =>
      obtain ⟨channels, target, owners⟩ := foldl_retire bs.retiring bs
      refine .inr ⟨target, ready.1, ready.2, all_eq_true.mp drained, ?_, owners⟩
      dsimp only
      rw [channels]
    · exact .inl rfl
  · exact .inl rfl

variable (refreshed : bs.refreshCommonControlChannels now = .ok next)

include refreshed

/-- **What one refresh can do.** -/
theorem refresh_cases : Refreshed bs now next := by
  obtain ⟨counted, counts, published⟩ := bind_eq_ok.mp refreshed
  cases published
  obtain ⟨channels, alloc, -, -, drains⟩ := publish_channels counted bs.commonControl.advertisedCount
  unfold refreshCounts at counts
  cases drain : bs.commonControl.drainUntil with
  | some deadline =>
    rw [drain] at counts
    cases counts
    rcases @refreshDrain_cases _ { bs with
      timeslotAlloc := bs.timeslotAlloc.setCommonControlTarget bs.commonScchCount } now deadline
      with same | ⟨-, expired, announced, drained, after, owners⟩
    · refine .waits (by rw [channels, same]) (by rw [alloc, same]; rfl)
    · refine .ends deadline drain expired announced drained (by rw [channels, after]) ?_
      intro slot
      rw [alloc]
      exact owners slot
  | none =>
    rw [drain] at counts
    dsimp only at counts
    split at counts
    · next fewer =>
      cases counts
      exact .begins drain fewer channels (by rw [alloc]; rfl)
    · split at counts
      · next more =>
        rcases expand_cases counts with ⟨same, sameAlloc, -⟩ |
          ⟨traffic, free, notPromised, drained, after, owners, -⟩
        · exact .waits (by rw [channels, same]) (by rw [alloc, sameAlloc]; rfl)
        · refine .adds drain more traffic free notPromised (by rw [drains]; exact drained) ?_ ?_
          · rw [channels, after]
            simp [drain]
          · intro slot
            rw [alloc, owners]
            exact give_owners _ _ _ _
      · cases counts
        exact .waits channels (by rw [alloc]; rfl)

theorem refresh_announces :
    next.channelScheduler.numOfCsch = next.commonControl.advertisedCount ∧
      next.commonScchCount = bs.commonScchCount := by
  obtain ⟨counted, counts, published⟩ := bind_eq_ok.mp refreshed
  cases published
  obtain ⟨channels, -, target, announced, -⟩ :=
    publish_channels counted bs.commonControl.advertisedCount
  refine ⟨announced.trans (congrArg (·.advertisedCount) channels).symm, target.trans ?_⟩
  unfold refreshCounts at counts
  split at counts
  · next deadline draining =>
    cases counts
    rcases @refreshDrain_cases _ { bs with
      timeslotAlloc := bs.timeslotAlloc.setCommonControlTarget bs.commonScchCount } now deadline
      with same | ⟨same, -⟩
    · rw [same]
    · exact same
  · split at counts
    · cases counts
      rfl
    · split at counts
      · rcases expand_cases counts with ⟨-, -, same⟩ | ⟨-, -, -, -, -, -, same⟩
        · exact same
        · exact same
      · cases counts
        rfl

end CommonControlBs

end Bluestation
