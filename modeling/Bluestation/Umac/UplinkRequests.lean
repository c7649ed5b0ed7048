/-
**Requests for uplink capacity.**

A request is served in two halves: it searches the schedule for slots it may announce in a basic
slot grant, and reserves them. Three kinds differ in where they search: an ordinary request from the
next opportunity of its channel; a request on a packet-data channel for the largest turn that fits;
a request on a channel that carries a call only in the next frame 18.

* `ulProcessCapReqAfter`, `ulProcessPacketDataCapReqAt` — ordinary and packet-data requests.
* `scheduleReadyPacketDataGrant` — a queued packet-data request gets its turn.
-/

import Bluestation.Umac.UplinkSchedule

namespace Bluestation

def MAX_BASIC_SLOT_GRANT_DELAY : Nat := 13
def EXACT_BASIC_SLOT_GRANT_CAPACITIES : List Nat := [1, 2, 3, 4, 5, 6, 8, 10, 13, 17, 24, 34, 51, 68]
def PACKET_DATA_UPLINK_TURN_TIMESLOTS : Int := 6 * 4
def PACKET_DATA_BIDIRECTIONAL_MAX_GRANT_SLOTS : Nat := 1
def PACKET_DATA_RECEIVE_TURN_TIMESLOTS : Int := 4

inductive Direction where
  | none | ul | dl | both
deriving DecidableEq

/-- What the downlink queues hold for packet-data terminals. -/
structure PacketDataDownlink where
  randomAccessAckAllowsSlot : (issi timeslot : Nat) → Bool
  hasPendingAdvancedLinkAckRequest : (issi : Nat) → Bool
  hasPendingDownlink : (issi : Nat) → Bool

namespace BsChannelScheduler

open UplinkSchedule Except

/-- A scheduler with an empty schedule. -/
def new (curDltime : TdmaTime) : BsChannelScheduler where
  curDltime := curDltime
  ulsched := fun _ => EMPTY_SCHED_ELEM
  associatedUlsched := []
  granted := []
  ulCircuits := fun _ => false
  hangtime := fun _ => false
  packetBearers := fun _ => none
  packetBearerGenerations := fun _ => none
  pendingPacketDataGrants := []
  packetDataGrantWindows := fun _ => none
  drainingPacketBearers := []
  packetGrantRoundRobinAfter := none

/-! ### Circuits and packet-data bearers -/

def packetBearerIsActive (scheduler : BsChannelScheduler) (timeslot : Nat) : Bool :=
  decide (2 ≤ timeslot ∧ timeslot ≤ 4) && (scheduler.packetBearers (timeslot - 1)).isSome

def packetBearersMatch (scheduler : BsChannelScheduler) (bearerId generation : Nat) : Bool :=
  [0, 1, 2, 3].any fun slot => scheduler.packetBearers slot = some (bearerId, generation)

/-- Keep the pending requests of which `keep` holds. -/
def retainPending (scheduler : BsChannelScheduler)
    (keep : PendingPacketDataGrant → Bool) : BsChannelScheduler :=
  { scheduler with
    pendingPacketDataGrants :=
      scheduler.pendingPacketDataGrants.filter fun request => keep request.2 }

/-- Whether there is a circuit in the uplink of a timeslot after a change of one direction. -/
def setCircuit (scheduler : BsChannelScheduler) (dir : Direction) (ts : Nat) (circuit : Bool) :
    Except Fault BsChannelScheduler :=
  let scheduler := { scheduler with hangtime := Function.update scheduler.hangtime (ts - 1) false }
  match dir with
  | .dl => .ok scheduler
  | .ul =>
    .ok { scheduler with ulCircuits := Function.update scheduler.ulCircuits (ts - 1) circuit }
  | .none | .both => .error .panic

def createCircuit (scheduler : BsChannelScheduler) (dir : Direction) (ts : Nat) :
    Except Fault BsChannelScheduler :=
  scheduler.setCircuit dir ts true

def closeCircuit (scheduler : BsChannelScheduler) (dir : Direction) (ts : Nat) :
    Except Fault BsChannelScheduler :=
  scheduler.setCircuit dir ts false

def setHangtime (scheduler : BsChannelScheduler) (ts : Nat) (active : Bool) :
    BsChannelScheduler :=
  if 1 ≤ ts ∧ ts ≤ 4 then
    { scheduler with hangtime := Function.update scheduler.hangtime (ts - 1) active }
  else scheduler

/-- Open a bearer on the timeslots of the bitmap, or move it there; an older generation is
ignored. -/
def openPacketBearer (scheduler : BsChannelScheduler) (bearerId generation bitmap : Nat) :
    BsChannelScheduler × Bool :=
  if (scheduler.packetBearerGenerations bearerId).any (generation < ·) then (scheduler, false)
  else
    let opened : Nat → Option (Nat × Nat) := fun slot =>
      if slot ∈ [1, 2, 3] ∧ bitmap.testBit slot then some (bearerId, generation)
      else if (scheduler.packetBearers slot).any (·.1 = bearerId) then none
      else scheduler.packetBearers slot
    ({ scheduler.retainPending fun request =>
        request.bearer.1 ≠ bearerId || request.bearer.2 = generation with
      packetBearerGenerations :=
        Function.update scheduler.packetBearerGenerations bearerId (some generation)
      drainingPacketBearers := scheduler.drainingPacketBearers.filter (·.1 ≠ bearerId)
      packetBearers := opened }, true)

def closePacketBearer (scheduler : BsChannelScheduler) (bearerId generation : Nat) :
    BsChannelScheduler × Bool :=
  if scheduler.packetBearerGenerations bearerId ≠ some generation then (scheduler, false)
  else
    ({ scheduler.retainPending fun request => request.bearer ≠ (bearerId, generation) with
      packetBearers := fun slot =>
        if scheduler.packetBearers slot = some (bearerId, generation) then none
        else scheduler.packetBearers slot
      drainingPacketBearers :=
        scheduler.drainingPacketBearers.filter (· ≠ (bearerId, generation)) }, true)

def setPacketBearerDraining (scheduler : BsChannelScheduler) (bearerId generation : Nat) :
    BsChannelScheduler :=
  if scheduler.packetBearersMatch bearerId generation then
    { scheduler.retainPending fun request => request.bearer ≠ (bearerId, generation) with
      drainingPacketBearers := (bearerId, generation) :: scheduler.drainingPacketBearers }
  else scheduler

def removePending (scheduler : BsChannelScheduler) (issi : Nat) : BsChannelScheduler :=
  { scheduler with
    pendingPacketDataGrants := scheduler.pendingPacketDataGrants.filter (·.1 ≠ issi) }

def detachPacketDataTerminal (scheduler : BsChannelScheduler) (issi : Nat) : BsChannelScheduler :=
  scheduler.removePending issi

def clearPendingPacketDataCapacity (scheduler : BsChannelScheduler) (issi : Nat) :
    BsChannelScheduler :=
  scheduler.removePending issi

/-! ### Reserving what a search found -/

/-- The next ordinary grant of the terminal waits for the switching guard and a whole frame. -/
def recordPacketDataGrantWindow (scheduler : BsChannelScheduler) (ssi : Nat)
    (bearer : Nat × Nat) (firstUplink lastUplink : TdmaTime) : BsChannelScheduler :=
  { scheduler with
    packetDataGrantWindows := Function.update scheduler.packetDataGrantWindows ssi
      (some ⟨bearer, firstUplink, lastUplink,
        lastUplink.addTimeslots (4 + PACKET_DATA_RECEIVE_TURN_TIMESLOTS)⟩) }

/-- Reserve all slots of a grant; a half slot answers which half it is. -/
def ulReserveGrant (scheduler : BsChannelScheduler) (ssi : Nat) (grantTimestamps : List TdmaTime)
    (isHalfslot : Bool) : Except Fault (BsChannelScheduler × Nat) := do
  match grantTimestamps with
  | [] => .error .panic
  | firstUplink :: rest =>
    assertThat (!isHalfslot || rest.isEmpty)
    let lastUplink := (firstUplink :: rest).getLast (List.cons_ne_nil _ _)
    let (schedule, subslot) ←
      scheduler.toUplinkSchedule.reserveSlots ssi isHalfslot 0 grantTimestamps
    let scheduler := { scheduler with toUplinkSchedule := schedule }
    .ok (match scheduler.packetBearerForTimeslot firstUplink.t with
      | some bearer =>
        scheduler.recordPacketDataGrantWindow ssi bearer firstUplink lastUplink
      | none => scheduler, subslot)

/-- What a search settled on: how many slots, how many opportunities to wait, and which slots. -/
structure Turn where
  capacity : Nat
  skips : Nat
  slots : List TdmaTime
deriving DecidableEq

/-- The capacity that is announced: which half it is, or the number of slots. -/
def announcedCapacity (isHalfslot : Bool) (subslot capacity : Nat) :
    Except Fault BasicSlotgrantCapAlloc :=
  if isHalfslot then
    match subslot with
    | 1 => .ok .firstSubslotGranted
    | 2 => .ok .secondSubslotGranted
    | _ => .error .panic
  else BasicSlotgrantCapAlloc.fromReqSlotcount capacity

/-- Reserve a turn and announce it. -/
def grantTurn (scheduler : BsChannelScheduler) (ssi : Nat) (isHalfslot : Bool) (turn : Turn) :
    Except Fault (BsChannelScheduler × BasicSlotgrant) := do
  let (scheduler, subslot) ← scheduler.ulReserveGrant ssi turn.slots isHalfslot
  let capacityAllocation ← announcedCapacity isHalfslot subslot turn.capacity
  .ok (scheduler, ⟨capacityAllocation,
    if turn.skips = 0 then .capAllocAtNextOpportunity else .delayNOpportunities turn.skips⟩)

/-! ### Ordinary requests -/

/-- The next frame 18 of a timeslot, at most eighteen frames ahead. -/
def nextAssociatedFn18 (scheduler : BsChannelScheduler) (timeslot : Nat) : TdmaTime :=
  (walk 18 (scheduler.curDltime.forwardToTimeslot timeslot)).getD
    (scheduler.curDltime.forwardToTimeslot timeslot)
where
  walk : Nat → TdmaTime → Option TdmaTime
    | 0, _ => none
    | frames + 1, frame => if frame.f ≠ 18 then walk frames (frame.addTimeslots 4) else some frame

def carriesCall (scheduler : BsChannelScheduler) (timeslot : Nat) : Bool :=
  scheduler.ulCircuits (timeslot - 1) && !scheduler.isHangtime timeslot

/-- The search half of an ordinary request: a delay beyond the encodable one finds nothing. -/
def capReqTurn (scheduler : BsChannelScheduler) (timeslot : Nat) (resReq : ReservationRequirement)
    (minimumDelay : Nat) : Except Fault (Option Turn) := do
  let isHalfslot : Bool := resReq = .req1Subslot
  let requestedCap ← requestedCapacity resReq
  match ← scheduler.ulFindGrantOpportunityAfter timeslot requestedCap isHalfslot minimumDelay with
  | none => .ok none
  | some (skips, slots) =>
    if skips ≤ MAX_BASIC_SLOT_GRANT_DELAY then .ok (some ⟨requestedCap, skips, slots⟩)
    else .ok none

/-- Reserve and announce a turn, if there is one. -/
def grantIfAny (scheduler : BsChannelScheduler) (ssi : Nat) (isHalfslot : Bool) :
    Option Turn → Except Fault (BsChannelScheduler × Option BasicSlotgrant)
  | none => .ok (scheduler, none)
  | some turn => do
    let (scheduler, grant) ← scheduler.grantTurn ssi isHalfslot turn
    .ok (scheduler, some grant)

/-- Reserve in a frame 18. -/
def associatedFn18CapReq (scheduler : BsChannelScheduler) (grantFrame : TdmaTime)
    (addr : TetraAddress) (resReq : ReservationRequirement) :
    Except Fault (BsChannelScheduler × Option BasicSlotgrant) := do
  let (schedule, grant) ←
    scheduler.toUplinkSchedule.ulProcessAssociatedFn18CapReq grantFrame addr resReq
  .ok ({ scheduler with toUplinkSchedule := schedule }, grant)

def ulProcessCapReqAfter (scheduler : BsChannelScheduler) (timeslot : Nat) (addr : TetraAddress)
    (resReq : ReservationRequirement) (minimumDelay : Nat) :
    Except Fault (BsChannelScheduler × Option BasicSlotgrant) := do
  if scheduler.carriesCall timeslot then
    scheduler.associatedFn18CapReq (scheduler.nextAssociatedFn18 timeslot) addr resReq
  else
    let turn ← scheduler.capReqTurn timeslot resReq minimumDelay
    scheduler.grantIfAny addr.ssi (resReq = .req1Subslot) turn

def ulPrepareAssociatedBasicLinkAckGrant (scheduler : BsChannelScheduler) (timeslot : Nat)
    (addr : TetraAddress) : Except Fault (BsChannelScheduler × Option BasicSlotgrant) :=
  if !decide (2 ≤ timeslot ∧ timeslot ≤ 4) || !scheduler.carriesCall timeslot then
    .ok (scheduler, none)
  else
    scheduler.associatedFn18CapReq (scheduler.nextAssociatedFn18 timeslot) addr .req1Slot

def ulPrepareAssociatedBasicLinkAckGrantAt (scheduler : BsChannelScheduler) (txTime : TdmaTime)
    (addr : TetraAddress) : Except Fault (BsChannelScheduler × Option BasicSlotgrant) :=
  if txTime.f ≠ 18 || !decide (2 ≤ txTime.t ∧ txTime.t ≤ 4) || !scheduler.carriesCall txTime.t then
    .ok (scheduler, none)
  else
    scheduler.associatedFn18CapReq txTime addr .req1Slot

/-! ### Packet-data requests -/

/-- The slots asked for, and whether that is half a slot. -/
def packetDataRequestSlots : ReservationRequirement → Nat × Bool
  | .req1Subslot => (1, true)
  | .req1Slot => (1, false)
  | .req2Slots => (2, false)
  | .req3Slots => (3, false)
  | .req4Slots => (4, false)
  | .req5Slots => (5, false)
  | .req6Slots => (6, false)
  | .req8Slots => (8, false)
  | .req10Slots => (10, false)
  | .req13Slots => (13, false)
  | .req17Slots => (17, false)
  | .req24Slots => (24, false)
  | .req34Slots => (34, false)
  | .req51Slots => (51, false)
  | .req68Slots => (68, false)
  | .reqOver68 => (69, false)

/-- The full slots of the channel already reserved for a terminal in the next eighteen frames. -/
def pendingPacketDataFullSlotGrantsAfter (scheduler : BsChannelScheduler) (after : TdmaTime)
    (pdchSlots : List Nat) (ssi : Nat) : Nat :=
  (List.range' 1 (MACSCHED_NUM_FRAMES * 4 - 1)).countP fun (distance : Nat) =>
    let candidate := after.addTimeslots distance
    let elem := scheduler.ulsched (cell candidate)
    decide (candidate.t ∈ pdchSlots) && !candidate.isMandatoryClch &&
      decide (elem.ul1 = some ssi ∧ elem.ul2 = some ssi)

/-- Slots reserved for the terminal count against what it asks for; half a slot is always new. -/
def shortfall (scheduler : BsChannelScheduler) (requestTime : TdmaTime) (ssi : Nat)
    (resReq : ReservationRequirement) : Nat :=
  let (requested, isHalfslot) := packetDataRequestSlots resReq
  requested - if isHalfslot then 0 else
    scheduler.pendingPacketDataFullSlotGrantsAfter requestTime
      (scheduler.basicGrantTimeslots requestTime.t) ssi

/-- Keep the latest report of what a terminal still needs. -/
def queuePacketDataCapacityRequest (scheduler : BsChannelScheduler) (requestTime : TdmaTime)
    (addr : TetraAddress) (resReq : ReservationRequirement) (continuesFragment : Bool) :
    BsChannelScheduler × Bool :=
  match scheduler.packetBearerForTimeslot requestTime.t with
  | none => (scheduler, false)
  | some bearer =>
    if bearer ∈ scheduler.drainingPacketBearers then (scheduler, true)
    else
      let isHalfslot := (packetDataRequestSlots resReq).2
      let missing := scheduler.shortfall requestTime addr.ssi resReq
      if missing = 0 then (scheduler.removePending addr.ssi, true)
      else
        ({ scheduler.removePending addr.ssi with
          pendingPacketDataGrants := (addr.ssi, ⟨addr, bearer, requestTime, missing, isHalfslot,
            continuesFragment⟩) :: (scheduler.removePending addr.ssi).pendingPacketDataGrants },
          true)

def turnCapacity (pdchSlots : List Nat) : Option Nat :=
  match pdchSlots.length with
  | 0 => none
  | 1 => some 6
  | 2 => some 10
  | _ => some 17

def candidateCapacities (isHalfslot : Bool) (maximum : Nat) : List Nat :=
  if isHalfslot then [1] else EXACT_BASIC_SLOT_GRANT_CAPACITIES.reverse.filter (· ≤ maximum)

/-- The first capacity for which the search finds an encodable grant that ends within one turn. -/
def largestTurn (scheduler : BsChannelScheduler) (reference : TdmaTime) (t : Nat)
    (isHalfslot : Bool) : List Nat → Except Fault (Option Turn)
  | [] => .ok none
  | capacity :: smaller => do
    match ← scheduler.ulFindGrantOpportunityFrom reference t capacity isHalfslot 0 with
    | none => largestTurn scheduler reference t isHalfslot smaller
    | some (skips, slots) =>
      if MAX_BASIC_SLOT_GRANT_DELAY < skips ∨
          slots.getLast?.any fun last =>
            PACKET_DATA_UPLINK_TURN_TIMESLOTS ≤ last.diff reference then
        largestTurn scheduler reference t isHalfslot smaller
      else .ok (some ⟨capacity, skips, slots⟩)

/-- The search half of a packet-data request. -/
def packetDataCapReqTurn (scheduler : BsChannelScheduler) (requestTime : TdmaTime) (ssi : Nat)
    (resReq : ReservationRequirement) : Except Fault (Option Turn) :=
  let pdchSlots := scheduler.basicGrantTimeslots requestTime.t
  let isHalfslot := (packetDataRequestSlots resReq).2
  let additionalCap := scheduler.shortfall requestTime ssi resReq
  if !isHalfslot ∧ additionalCap = 0 then .ok none
  else
    match turnCapacity pdchSlots with
    | none => .ok none
    | some capacity =>
      scheduler.largestTurn (scheduler.curDltime.forwardToTimeslot requestTime.t) requestTime.t
        isHalfslot (candidateCapacities isHalfslot (min additionalCap capacity))

/-- A fragment continuation is served like any other request. -/
def ulProcessPacketDataCapReqAt (scheduler : BsChannelScheduler) (requestTime : TdmaTime)
    (addr : TetraAddress) (resReq : ReservationRequirement) (_continuesFragment : Bool) :
    Except Fault (BsChannelScheduler × Option BasicSlotgrant) := do
  let turn ← scheduler.packetDataCapReqTurn requestTime addr.ssi resReq
  scheduler.grantIfAny addr.ssi (packetDataRequestSlots resReq).2 turn

def requestTime (scheduler : BsChannelScheduler) (timeslot : Nat) : TdmaTime :=
  (scheduler.curDltime.forwardToTimeslot timeslot).addTimeslots (-4)

def ulProcessCapReq (scheduler : BsChannelScheduler) (timeslot : Nat) (addr : TetraAddress)
    (resReq : ReservationRequirement) : Except Fault (BsChannelScheduler × Option BasicSlotgrant) :=
  if scheduler.packetBearerIsActive timeslot then
    scheduler.ulProcessPacketDataCapReqAt (scheduler.requestTime timeslot) addr resReq false
  else scheduler.ulProcessCapReqAfter timeslot addr resReq 0

def ulProcessFragmentCapReq (scheduler : BsChannelScheduler) (timeslot : Nat)
    (addr : TetraAddress) (resReq : ReservationRequirement) :
    Except Fault (BsChannelScheduler × Option BasicSlotgrant) :=
  if scheduler.packetBearerIsActive timeslot then
    scheduler.ulProcessPacketDataCapReqAt (scheduler.requestTime timeslot) addr resReq true
  else scheduler.ulProcessCapReqAfter timeslot addr resReq 0

/-! ### The next packet-data turn -/

def packetDataGrantReadyAt (scheduler : BsChannelScheduler) (request : PendingPacketDataGrant)
    (downlink : TdmaTime) : Bool :=
  (scheduler.packetDataGrantWindows request.addr.ssi).all fun window =>
    window.bearer ≠ request.bearer || 0 ≤ downlink.diff window.nextGrantDownlink

def expirePacketDataGrantWindows (scheduler : BsChannelScheduler) (now : TdmaTime) :
    BsChannelScheduler :=
  { scheduler with
    packetDataGrantWindows := fun issi =>
      (scheduler.packetDataGrantWindows issi).filter fun window =>
        scheduler.pendingPacketDataGrants.any (·.1 = issi) || 0 ≤ window.nextGrantDownlink.diff now }

def comesBefore (first second : PendingPacketDataGrant) : Bool :=
  if first.continuesFragment = second.continuesFragment then first.addr.ssi ≤ second.addr.ssi
  else first.continuesFragment

/-- The request whose turn is next: the highest priority, rotating over the terminals. -/
def nextPacketDataRequest (scheduler : BsChannelScheduler) (queues : PacketDataDownlink)
    (downlink : TdmaTime) : Option PendingPacketDataGrant := do
  if downlink.f = 18 then none else
  let bearer ← scheduler.packetBearerForTimeslot downlink.t
  if bearer ∈ scheduler.drainingPacketBearers then none else
  let candidates := ((scheduler.pendingPacketDataGrants.map (·.2)).filter fun request =>
    request.bearer = bearer && scheduler.packetDataGrantReadyAt request downlink &&
      queues.randomAccessAckAllowsSlot request.addr.ssi downlink.t &&
      (request.continuesFragment || !queues.hasPendingAdvancedLinkAckRequest request.addr.ssi)
    ).mergeSort comesBefore
  let best ← candidates.head?
  let samePriority := candidates.filter (·.continuesFragment = best.continuesFragment)
  let rotated := scheduler.packetGrantRoundRobinAfter.bind fun after =>
    samePriority.find? (after < ·.addr.ssi)
  some (rotated.getD best)

/-- The search half of a packet-data turn. -/
def packetDataTurn (scheduler : BsChannelScheduler) (queues : PacketDataDownlink)
    (grantDownlink : TdmaTime) (request : PendingPacketDataGrant) : Except Fault (Option Turn) :=
  match turnCapacity (scheduler.basicGrantTimeslots grantDownlink.t) with
  | none => .ok none
  | some capacity =>
    let downlinkWaiting := !request.continuesFragment && queues.hasPendingDownlink request.addr.ssi
    let maximum := min (min request.remainingSlots capacity)
      (if downlinkWaiting then PACKET_DATA_BIDIRECTIONAL_MAX_GRANT_SLOTS else capacity)
    scheduler.largestTurn grantDownlink grantDownlink.t request.isHalfslot
      (candidateCapacities request.isHalfslot maximum)

/-- What is left of a request after its turn. -/
def settlePending (scheduler : BsChannelScheduler) (request : PendingPacketDataGrant)
    (grantedSlots : Nat) : BsChannelScheduler :=
  let scheduler := { scheduler with packetGrantRoundRobinAfter := some request.addr.ssi }
  if request.isHalfslot || request.remainingSlots ≤ grantedSlots then
    scheduler.removePending request.addr.ssi
  else
    { scheduler with
      pendingPacketDataGrants := scheduler.pendingPacketDataGrants.map fun pending =>
        if pending.1 = request.addr.ssi then
          (pending.1, { pending.2 with
            remainingSlots := pending.2.remainingSlots - grantedSlots })
        else pending }

/-- Give the next packet-data turn; the grant is queued for the terminal. -/
def scheduleReadyPacketDataGrant (scheduler : BsChannelScheduler) (queues : PacketDataDownlink)
    (downlink : TdmaTime) :
    Except Fault (BsChannelScheduler × Option (TetraAddress × BasicSlotgrant)) := do
  match scheduler.nextPacketDataRequest queues downlink with
  | none => .ok (scheduler, none)
  | some request =>
    match ← scheduler.packetDataTurn queues downlink request with
    | none => .ok (scheduler, none)
    | some turn =>
      let (scheduler, grant) ← scheduler.grantTurn request.addr.ssi request.isHalfslot turn
      .ok (scheduler.settlePending request turn.capacity, some (request.addr, grant))

/-! ### What leaves the schedule alone -/

section Around

variable {scheduler after : BsChannelScheduler}

theorem setCircuit_schedule {dir : Direction} {ts : Nat} {circuit : Bool}
    (changed : scheduler.setCircuit dir ts circuit = .ok after) :
    after.toUplinkSchedule = scheduler.toUplinkSchedule := by
  cases dir with
  | dl | ul => rw [← ok.inj changed]
  | none | both => cases changed

theorem setHangtime_schedule {ts : Nat} {active : Bool} :
    (scheduler.setHangtime ts active).toUplinkSchedule = scheduler.toUplinkSchedule := by
  unfold setHangtime
  split <;> rfl

variable {bearerId generation : Nat}

theorem openPacketBearer_schedule {bitmap : Nat} :
    (scheduler.openPacketBearer bearerId generation bitmap).1.toUplinkSchedule =
      scheduler.toUplinkSchedule := by
  unfold openPacketBearer
  split <;> rfl

theorem closePacketBearer_schedule :
    (scheduler.closePacketBearer bearerId generation).1.toUplinkSchedule =
      scheduler.toUplinkSchedule := by
  unfold closePacketBearer
  split <;> rfl

theorem setPacketBearerDraining_schedule :
    (scheduler.setPacketBearerDraining bearerId generation).toUplinkSchedule =
      scheduler.toUplinkSchedule := by
  unfold setPacketBearerDraining
  split <;> rfl

theorem queuePacketDataCapacityRequest_schedule {requestTime : TdmaTime} {addr : TetraAddress}
    {resReq : ReservationRequirement} {continuesFragment : Bool} :
    (scheduler.queuePacketDataCapacityRequest requestTime addr resReq
      continuesFragment).1.toUplinkSchedule = scheduler.toUplinkSchedule := by
  unfold queuePacketDataCapacityRequest
  split
  · rfl
  split
  · rfl
  dsimp only
  split <;> rfl

theorem settlePending_schedule {request : PendingPacketDataGrant} {grantedSlots : Nat} :
    (scheduler.settlePending request grantedSlots).toUplinkSchedule =
      scheduler.toUplinkSchedule := by
  unfold settlePending
  split <;> rfl

end Around

/-! ### What a request does to the schedule -/

def SoonAfter (now first : TdmaTime) : Prop :=
  ∀ slot, now = .fromInt slot → ∃ ahead : Int, 0 ≤ ahead ∧ ahead ≤ 3 ∧
    first = .fromInt (slot + ahead)

def Turn.Free (scheduler : BsChannelScheduler) (isHalfslot : Bool) (turn : Turn) : Prop :=
  ∃ first, SoonAfter scheduler.curDltime first ∧
    scheduler.Offered first isHalfslot 72 turn.slots ∧ (isHalfslot = true → turn.slots.length = 1)

/-- A request leaves the schedule, reserves the slots its search found, or reserves in its
frame 18. -/
inductive Books (scheduler : BsChannelScheduler) (searched : Option Turn)
    (frame : Option TdmaTime) : UplinkSchedule → Prop
  | nothing : Books scheduler searched frame scheduler.toUplinkSchedule
  | ring {turn : Turn} {ssi subslot : Nat} {isHalfslot : Bool} {after : UplinkSchedule}
      (found : searched = some turn) (free : turn.Free scheduler isHalfslot)
      (reserved : scheduler.toUplinkSchedule.reserveSlots ssi isHalfslot 0 turn.slots =
        .ok (after, subslot)) : Books scheduler searched frame after
  | associated {target : TdmaTime} {addr : TetraAddress} {resReq : ReservationRequirement}
      {grant : Option BasicSlotgrant} {after : UplinkSchedule} (aimed : frame = some target)
      (reserved : scheduler.toUplinkSchedule.ulProcessAssociatedFn18CapReq target addr resReq =
        .ok (after, grant)) : Books scheduler searched frame after

variable {scheduler after : BsChannelScheduler} {turn : Turn} {searched : Option Turn}
  {frame : Option TdmaTime} {isHalfslot : Bool} {ssi timeslot : Nat}

theorem soonAfter_forwardToTimeslot {now : TdmaTime} (low : 1 ≤ timeslot) (high : timeslot ≤ 4) :
    SoonAfter now (now.forwardToTimeslot timeslot) := by
  rintro slot rfl
  obtain ⟨ahead, positive, small, _, same⟩ := TdmaTime.forwardToTimeslot_fromInt slot low high
  exact ⟨ahead, positive, small, same⟩

theorem soonAfter_next {now : TdmaTime} : SoonAfter now (now.addTimeslots 1) := by
  rintro slot rfl
  exact ⟨1, by norm_num, by norm_num, TdmaTime.addTimeslots_fromInt slot 1⟩

theorem ulReserveGrant_schedule {slots : List TdmaTime} {subslot : Nat}
    (reserved : scheduler.ulReserveGrant ssi slots isHalfslot = .ok (after, subslot)) :
    scheduler.toUplinkSchedule.reserveSlots ssi isHalfslot 0 slots =
      .ok (after.toUplinkSchedule, subslot) := by
  unfold ulReserveGrant at reserved
  split at reserved
  · cases reserved
  · obtain ⟨_, _, reserved⟩ := bind_eq_ok.mp reserved
    obtain ⟨⟨schedule, number⟩, written, result⟩ := bind_eq_ok.mp reserved
    cases result
    rw [written]
    split <;> rfl

theorem grantTurn_books {grant : BasicSlotgrant} (free : turn.Free scheduler isHalfslot)
    (granted : scheduler.grantTurn ssi isHalfslot turn = .ok (after, grant)) :
    Books scheduler (some turn) frame after.toUplinkSchedule := by
  obtain ⟨⟨next, subslot⟩, reserved, rest⟩ := bind_eq_ok.mp granted
  obtain ⟨_, _, result⟩ := bind_eq_ok.mp rest
  cases result
  exact .ring rfl free (ulReserveGrant_schedule reserved)

theorem grantIfAny_books {grant : Option BasicSlotgrant}
    (free : ∀ turn, searched = some turn → turn.Free scheduler isHalfslot)
    (granted : scheduler.grantIfAny ssi isHalfslot searched = .ok (after, grant)) :
    Books scheduler searched frame after.toUplinkSchedule := by
  cases searched with
  | none =>
    cases granted
    exact .nothing
  | some turn =>
    obtain ⟨⟨next, _⟩, announced, result⟩ := bind_eq_ok.mp granted
    cases result
    exact grantTurn_books (free turn rfl) announced

variable {resReq : ReservationRequirement}

theorem associatedFn18CapReq_books {target : TdmaTime} {addr : TetraAddress}
    {grant : Option BasicSlotgrant}
    (granted : scheduler.associatedFn18CapReq target addr resReq = .ok (after, grant)) :
    Books scheduler searched (some target) after.toUplinkSchedule := by
  obtain ⟨⟨schedule, _⟩, reserved, result⟩ := bind_eq_ok.mp granted
  cases result
  exact .associated rfl reserved

/-- **An ordinary search finds free slots.** -/
theorem capReqTurn_free {minimumDelay : Nat} (low : 1 ≤ timeslot) (high : timeslot ≤ 4)
    (found : scheduler.capReqTurn timeslot resReq minimumDelay = .ok (some turn)) :
    turn.Free scheduler (resReq = .req1Subslot) := by
  obtain ⟨requested, _, rest⟩ := bind_eq_ok.mp found
  obtain ⟨offer, searched, result⟩ := bind_eq_ok.mp rest
  cases offer with
  | none => cases result
  | some offer =>
    obtain ⟨offered, length, single⟩ := ulFindGrantOpportunityFrom_spec searched
    dsimp only at result
    split at result
    · cases ok.inj result
      exact ⟨_, soonAfter_forwardToTimeslot low high, offered, fun half =>
        length.trans (single half)⟩
    · cases ok.inj result

/-- **A packet-data search finds free slots.** -/
theorem largestTurn_free {reference : TdmaTime} {capacities : List Nat}
    (soon : SoonAfter scheduler.curDltime reference)
    (found : scheduler.largestTurn reference timeslot isHalfslot capacities = .ok (some turn)) :
    turn.Free scheduler isHalfslot := by
  induction capacities with
  | nil => cases found
  | cons capacity smaller ih =>
    obtain ⟨offer, searched, result⟩ := bind_eq_ok.mp found
    cases offer with
    | none => exact ih result
    | some offer =>
      obtain ⟨offered, length, single⟩ := ulFindGrantOpportunityFrom_spec searched
      dsimp only at result
      split at result
      · exact ih result
      · cases ok.inj result
        exact ⟨reference, soon, offered, fun half => length.trans (single half)⟩

theorem packetDataCapReqTurn_free {requestTime : TdmaTime} (low : 1 ≤ requestTime.t)
    (high : requestTime.t ≤ 4)
    (found : scheduler.packetDataCapReqTurn requestTime ssi resReq = .ok (some turn)) :
    turn.Free scheduler (packetDataRequestSlots resReq).2 := by
  unfold packetDataCapReqTurn at found
  dsimp only at found
  split at found
  · cases found
  split at found
  · cases found
  · exact largestTurn_free (soonAfter_forwardToTimeslot low high) found

theorem packetDataTurn_free {queues : PacketDataDownlink} {downlink : TdmaTime}
    {request : PendingPacketDataGrant} (soon : SoonAfter scheduler.curDltime downlink)
    (found : scheduler.packetDataTurn queues downlink request = .ok (some turn)) :
    turn.Free scheduler request.isHalfslot := by
  unfold packetDataTurn at found
  split at found
  · cases found
  · exact largestTurn_free soon found

end BsChannelScheduler

end Bluestation
