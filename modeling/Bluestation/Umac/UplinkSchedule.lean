/-
**The uplink schedule of the base station.**

Two stores say who may send in an uplink slot. Ordinary grants are kept in a ring of eighteen frames
per timeslot; grants of a frame 18 on a channel that carries a call are kept in a list of their own,
which is asked first. A slot has two halves, and a terminal is given one of them or both.

* `ulFindGrantOpportunityFrom` — the search for free slots of a channel.
* `ulReserveGrant`, `ulProcessAssociatedFn18CapReq` — the two ways to reserve.
* `ulGetSlotOwner` — who may send.
* `finalizeTsForTick` — the end of a slot, which empties one cell of the ring.

`granted` is a history: it lists the grants whose slots are not over and is never read.
-/

import Bluestation.Core.TdmaTime
import Bluestation.Core.Primitives
import Bluestation.Pdus.ReservationRequirement
import Bluestation.Pdus.Slotgrant

namespace Bluestation

def MACSCHED_NUM_FRAMES : Nat := 18
def MACSCHED_TX_AHEAD : Nat := 1

inductive PhyBlockNum where
  | both | block1 | block2 | undefined
deriving DecidableEq

structure TimeslotSchedule where
  ul1 : Option Nat
  ul2 : Option Nat
deriving DecidableEq

def EMPTY_SCHED_ELEM : TimeslotSchedule := ⟨none, none⟩

/-- A grant as it was given: to whom, and which part of which slot. -/
structure UplinkGrant where
  ssi : Nat
  time : TdmaTime
  block : PhyBlockNum
deriving DecidableEq

/-- An unsatisfied capacity report of a packet-data terminal. -/
structure PendingPacketDataGrant where
  addr : TetraAddress
  bearer : Nat × Nat
  requestTime : TdmaTime
  remainingSlots : Nat
  isHalfslot : Bool
  continuesFragment : Bool
deriving DecidableEq

/-- The interval of a packet-data terminal's last grant. -/
structure PacketDataGrantWindow where
  bearer : Nat × Nat
  firstUplink : TdmaTime
  lastUplink : TdmaTime
  nextGrantDownlink : TdmaTime

/-- The two stores of reservations and the time they are kept for. -/
structure UplinkSchedule where
  curDltime : TdmaTime
  ulsched : Nat × Nat → TimeslotSchedule
  associatedUlsched : List (TdmaTime × TimeslotSchedule)
  granted : List UplinkGrant

/-- The channel scheduler, as far as uplink grants depend on it. Timeslots 1 to 4 have index 0
to 3; a bearer is named by its id and generation. -/
structure BsChannelScheduler extends UplinkSchedule where
  /-- Whether a traffic circuit is open in the uplink of a timeslot. -/
  ulCircuits : Nat → Bool
  hangtime : Nat → Bool
  packetBearers : Nat → Option (Nat × Nat)
  packetBearerGenerations : Nat → Option Nat
  pendingPacketDataGrants : List (Nat × PendingPacketDataGrant)
  packetDataGrantWindows : Nat → Option PacketDataGrantWindow
  drainingPacketBearers : List (Nat × Nat)
  packetGrantRoundRobinAfter : Option Nat

/-- The slots of a request; half a slot counts as one. -/
def requestedCapacity (resReq : ReservationRequirement) : Except Fault Nat :=
  if resReq = .req1Subslot then .ok 1 else resReq.toReqSlotcount

def ulTsToSchedIndex (ts : TdmaTime) : Nat :=
  ((ts.f - 1) + (ts.m - 1) * 18 + ts.h * 18 * 60) % MACSCHED_NUM_FRAMES

namespace UplinkSchedule

def cell (ts : TdmaTime) : Nat × Nat := (ts.t - 1, ulTsToSchedIndex ts)

variable (schedule : UplinkSchedule)

def associatedEntry (ts : TdmaTime) : Option TimeslotSchedule :=
  (schedule.associatedUlsched.find? fun entry => entry.1 = ts).map (·.2)

/-- The owner of a half slot, or of the whole slot if both halves have the same one. -/
def ulGetSlotOwner (ts : TdmaTime) (slot : PhyBlockNum) : Except Fault (Option Nat) :=
  let sched := (schedule.associatedEntry ts).getD (schedule.ulsched (cell ts))
  match slot with
  | .block1 => .ok sched.ul1
  | .block2 => .ok sched.ul2
  | .both => if sched.ul1 ≠ sched.ul2 then .ok none else .ok sched.ul1
  | .undefined => .error .panic

/-! ### Reserving in the ring -/

def book (elem : TimeslotSchedule) (grant : UplinkGrant) : UplinkSchedule :=
  { schedule with
    ulsched := Function.update schedule.ulsched (cell grant.time) elem
    granted := schedule.granted ++ [grant] }

/-- Reserve one slot, or its first free half; a half names itself by its number. -/
def reserveSlot (ssi : Nat) (isHalfslot : Bool) (subslot : Nat) (ts : TdmaTime) :
    Except Fault (UplinkSchedule × Nat) :=
  let elem := schedule.ulsched (cell ts)
  if isHalfslot then
    if elem.ul1.isNone then
      .ok (schedule.book { elem with ul1 := some ssi } ⟨ssi, ts, .block1⟩, 1)
    else do
      assertThat (elem.ul2 = none)
      .ok (schedule.book { elem with ul2 := some ssi } ⟨ssi, ts, .block2⟩, 2)
  else do
    assertThat (elem.ul1 = none)
    assertThat (elem.ul2 = none)
    .ok (schedule.book ⟨some ssi, some ssi⟩ ⟨ssi, ts, .both⟩, subslot)

/-- Reserve the slots one after the other. -/
def reserveSlots (schedule : UplinkSchedule) (ssi : Nat) (isHalfslot : Bool) (subslot : Nat) :
    List TdmaTime → Except Fault (UplinkSchedule × Nat)
  | [] => .ok (schedule, subslot)
  | ts :: rest => do
    let (schedule, subslot) ← reserveSlot schedule ssi isHalfslot subslot ts
    reserveSlots schedule ssi isHalfslot subslot rest

/-! ### Reserving in the list of associated grants -/

def setEntry (ts : TdmaTime) (elem : TimeslotSchedule) :
    List (TdmaTime × TimeslotSchedule) → List (TdmaTime × TimeslotSchedule)
  | [] => [(ts, elem)]
  | entry :: rest => if entry.1 = ts then (ts, elem) :: rest else entry :: setEntry ts elem rest

/-- Write the entry of a slot and note the grant, if there is one. -/
def bookAssociated (ts : TdmaTime) (elem : TimeslotSchedule) (grants : List UplinkGrant) :
    UplinkSchedule :=
  { schedule with
    associatedUlsched := setEntry ts elem schedule.associatedUlsched
    granted := schedule.granted ++ grants }

/-- Reserve in the frame-18 slot `grantFrame`; an entry is made even if the request is rejected. A
predefined linearization opportunity takes the first half of its slot. -/
def ulProcessAssociatedFn18CapReq (scheduler : UplinkSchedule) (grantFrame : TdmaTime)
    (addr : TetraAddress) (resReq : ReservationRequirement) :
    Except Fault (UplinkSchedule × Option BasicSlotgrant) := do
  let isHalfslot := resReq = .req1Subslot
  let _requestedCap ← requestedCapacity resReq
  let schedule := (scheduler.associatedEntry grantFrame).getD EMPTY_SCHED_ELEM
  let grant (elem : TimeslotSchedule) (block : PhyBlockNum) (alloc : BasicSlotgrantCapAlloc) :=
    .ok (scheduler.bookAssociated grantFrame elem [⟨addr.ssi, grantFrame, block⟩],
      some ⟨alloc, .capAllocAtNextOpportunity⟩)
  let reject := .ok (scheduler.bookAssociated grantFrame schedule [], none)
  let second := { schedule with ul2 := some addr.ssi }
  if isHalfslot then
    if grantFrame.isMandatoryClch then
      if schedule.ul2.isNone then grant second .block2 .secondSubslotGranted else reject
    else if schedule.ul1.isNone then
      grant { schedule with ul1 := some addr.ssi } .block1 .firstSubslotGranted
    else if schedule.ul2.isNone then grant second .block2 .secondSubslotGranted
    else reject
  else if grantFrame.isMandatoryClch then reject
  else if schedule.ul1.isNone ∧ schedule.ul2.isNone then
    grant ⟨some addr.ssi, some addr.ssi⟩ .both .grant1Slot
  else reject

/-! ### The end of a slot -/

/-- Finish the next downlink slot: the cell of the uplink slot four timeslots before it is emptied
and old associated grants are dropped. -/
def finalizeTsForTick : UplinkSchedule :=
  let ts := schedule.curDltime.addTimeslots MACSCHED_TX_AHEAD
  { schedule with
    ulsched := Function.update schedule.ulsched
      (ts.t - 1, ulTsToSchedIndex (ts.addTimeslots (-4))) EMPTY_SCHED_ELEM
    associatedUlsched := schedule.associatedUlsched.filter fun entry => entry.1.age ts ≤ 16
    granted := schedule.granted.filter fun grant => grant.time.age ts ≤ 3 }

end UplinkSchedule

/-! ### Searching for free slots -/

namespace BsChannelScheduler

open UplinkSchedule List

def isHangtime (scheduler : BsChannelScheduler) (ts : Nat) : Bool :=
  if 1 ≤ ts ∧ ts ≤ 4 then scheduler.hangtime (ts - 1) else false

def packetBearerForTimeslot (scheduler : BsChannelScheduler) (timeslot : Nat) :
    Option (Nat × Nat) :=
  scheduler.packetBearers (timeslot - 1)

/-- The timeslots that count as consecutive opportunities for a grant received on `timeslot`. -/
def basicGrantTimeslots (scheduler : BsChannelScheduler) (timeslot : Nat) : List Nat :=
  match scheduler.packetBearers (timeslot - 1) with
  | none => [timeslot]
  | some bearer => [2, 3, 4].filter fun candidate =>
    scheduler.packetBearers (candidate - 1) = some bearer

/-- The uplink of the slot belongs to the transmitting member of a call. -/
def speakerOwns (scheduler : BsChannelScheduler) (ts : TdmaTime) : Bool :=
  scheduler.ulCircuits (ts.t - 1) && !scheduler.isHangtime ts.t && ts.f ≠ 18

def hasRoom (elem : TimeslotSchedule) (isHalfslot : Bool) : Bool :=
  (elem.ul1.isNone && elem.ul2.isNone) || (isHalfslot && (elem.ul1.isNone || elem.ul2.isNone))

/-- Walk over the next `left` slots after the first `dist`. -/
def searchFrom (scheduler : BsChannelScheduler) (firstOpportunity : TdmaTime)
    (channelTimeslots : List Nat) (numSlots : Nat) (isHalfslot : Bool) (minimumDelay : Nat) :
    (left dist opportunitiesSkipped : Nat) → (grantTimeslots : List TdmaTime) →
      Option (Nat × List TdmaTime)
  | 0, _, _, _ => none
  | left + 1, dist, opportunitiesSkipped, grantTimeslots =>
    let candidateT := firstOpportunity.addTimeslots dist
    let next := searchFrom scheduler firstOpportunity channelTimeslots numSlots isHalfslot
      minimumDelay left (dist + 1)
    if candidateT.t ∉ channelTimeslots then next opportunitiesSkipped grantTimeslots
    else if opportunitiesSkipped < minimumDelay then next (opportunitiesSkipped + 1) grantTimeslots
    else if candidateT.isMandatoryClch then
      -- inside a grant the linearization opportunity is a hole that does not end it
      next (if grantTimeslots.isEmpty then opportunitiesSkipped + 1 else opportunitiesSkipped)
        grantTimeslots
    else if scheduler.speakerOwns candidateT then next opportunitiesSkipped grantTimeslots
    else
      let found := if hasRoom (scheduler.ulsched (cell candidateT)) isHalfslot then
          (opportunitiesSkipped, grantTimeslots ++ [candidateT])
        else (opportunitiesSkipped + grantTimeslots.length + 1, [])
      if found.2.length = numSlots then some found else next found.1 found.2

/-- How many opportunities to wait and the slots granted, if there are any. -/
def ulFindGrantOpportunityFrom (scheduler : BsChannelScheduler) (firstOpportunity : TdmaTime)
    (t numSlots : Nat) (isHalfslot : Bool) (minimumDelay : Nat) :
    Except Fault (Option (Nat × List TdmaTime)) := do
  assertThat (!isHalfslot || numSlots = 1)
  .ok (scheduler.searchFrom firstOpportunity (scheduler.basicGrantTimeslots t) numSlots isHalfslot
    minimumDelay (MACSCHED_NUM_FRAMES * 4) 0 0 [])

def ulFindGrantOpportunityAfter (scheduler : BsChannelScheduler) (t numSlots : Nat)
    (isHalfslot : Bool) (minimumDelay : Nat) : Except Fault (Option (Nat × List TdmaTime)) :=
  scheduler.ulFindGrantOpportunityFrom (scheduler.curDltime.forwardToTimeslot t) t numSlots
    isHalfslot minimumDelay

/-! ### What the search finds -/

/-- Slots in ascending order, fewer than `bound` slots ahead, none of them a linearization
opportunity and each with room for the request. -/
def Offered (scheduler : BsChannelScheduler) (first : TdmaTime) (isHalfslot : Bool) (bound : Nat)
    (slots : List TdmaTime) : Prop :=
  ∃ dists : List Nat, slots = dists.map (fun dist : Nat => first.addTimeslots dist) ∧
    dists.Pairwise (· < ·) ∧ ∀ dist ∈ dists, dist < bound ∧
      (first.addTimeslots dist).isMandatoryClch = false ∧
      hasRoom (scheduler.ulsched (cell (first.addTimeslots dist))) isHalfslot = true

variable {scheduler : BsChannelScheduler} {first : TdmaTime} {isHalfslot : Bool} {bound : Nat}
  {slots : List TdmaTime}

theorem offered_nil : scheduler.Offered first isHalfslot bound [] := ⟨[], rfl, .nil, nofun⟩

theorem Offered.succ (offered : scheduler.Offered first isHalfslot bound slots) :
    scheduler.Offered first isHalfslot (bound + 1) slots := by
  obtain ⟨dists, same, ascending, each⟩ := offered
  refine ⟨dists, same, ascending, fun dist member => ?_⟩
  obtain ⟨near, fits⟩ := each dist member
  exact ⟨near.trans (Nat.lt_succ_self bound), fits⟩

theorem Offered.append (offered : scheduler.Offered first isHalfslot bound slots)
    (usable : (first.addTimeslots bound).isMandatoryClch = false)
    (room : hasRoom (scheduler.ulsched (cell (first.addTimeslots bound))) isHalfslot = true) :
    scheduler.Offered first isHalfslot (bound + 1) (slots ++ [first.addTimeslots bound]) := by
  obtain ⟨dists, rfl, ascending, each⟩ := offered
  refine ⟨dists ++ [bound], by rw [map_append, map_singleton], ?_, ?_⟩
  · refine pairwise_append.mpr ⟨ascending, pairwise_singleton _ _, ?_⟩
    intro dist member last isLast
    rw [mem_singleton.mp isLast]
    exact (each dist member).1
  · intro dist member
    rcases mem_append.mp member with before | last
    · exact ⟨(each dist before).1.trans (Nat.lt_succ_self bound), (each dist before).2⟩
    · rw [mem_singleton.mp last]
      exact ⟨Nat.lt_succ_self bound, usable, room⟩

/-- **The search finds as many slots as asked, all of them free.** -/
theorem searchFrom_spec {channel : List Nat} {numSlots minimumDelay left dist skipped skips : Nat}
    {collected : List TdmaTime}
    (found : scheduler.searchFrom first channel numSlots isHalfslot minimumDelay left dist skipped
      collected = some (skips, slots))
    (offered : scheduler.Offered first isHalfslot dist collected) :
    scheduler.Offered first isHalfslot (dist + left) slots ∧ slots.length = numSlots := by
  induction left generalizing dist skipped collected with
  | zero => exact absurd found (by rw [searchFrom]; exact nofun)
  | succ left ih =>
    rw [searchFrom] at found
    rw [show dist + (left + 1) = dist + 1 + left by omega]
    split at found
    · exact ih found offered.succ
    split at found
    · exact ih found offered.succ
    split at found
    · exact ih found offered.succ
    next notClch =>
    split at found
    · exact ih found offered.succ
    · split at found
      · next room =>
        have usable := Bool.eq_false_iff.mpr notClch
        dsimp only at found
        split at found
        · next full =>
          obtain ⟨rfl, rfl⟩ := found
          refine ⟨?_, full⟩
          obtain ⟨dists, same, ascending, each⟩ := offered.append usable room
          refine ⟨dists, same, ascending, fun dist' member => ?_⟩
          exact ⟨(each dist' member).1.trans_le (Nat.le_add_right _ left), (each dist' member).2⟩
        · exact ih found (offered.append usable room)
      · dsimp only at found
        split at found
        · next full =>
          obtain ⟨rfl, rfl⟩ := found
          exact ⟨offered_nil, full⟩
        · exact ih found offered_nil

theorem ulFindGrantOpportunityFrom_spec {t numSlots minimumDelay skips : Nat}
    (found : scheduler.ulFindGrantOpportunityFrom first t numSlots isHalfslot minimumDelay =
      .ok (some (skips, slots))) :
    scheduler.Offered first isHalfslot 72 slots ∧ slots.length = numSlots ∧
      (isHalfslot = true → numSlots = 1) := by
  obtain ⟨_, single, searched⟩ := bind_eq_ok.mp found
  rw [assertThat_eq_ok] at single
  obtain ⟨offered, length⟩ := searchFrom_spec (Except.ok.inj searched) offered_nil
  refine ⟨offered, length, fun half => ?_⟩
  rw [half] at single
  exact of_decide_eq_true single

end BsChannelScheduler

end Bluestation
