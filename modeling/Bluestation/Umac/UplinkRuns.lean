/-
**Uplink grants over whole runs.**

The scheduler takes capacity requests, changes of circuits, bearers and hangtime in any order, and
slot after slot ends and begins. In a run of careful steps every grant is kept until its slot is
over:

* `careful_grants_exclusive` — no two terminals share a slot, and the owner of a slot is the
  terminal it was granted to.
* `careful_grant_survives` — a grant is still found at the end of its slot.

Careless steps exist: `sharedSlot_reachable` is a slot with two terminals, `erased_reachable` a
grant that is lost before its slot.
-/

import Bluestation.Lib.Run
import Bluestation.Umac.UplinkRecord
import Bluestation.Umac.UplinkRequests

namespace Bluestation

open Machines TdmaTime UplinkSchedule List Option Nat BsChannelScheduler

/-! ### The machine -/

/-- What other parts of the base station ask of the scheduler. -/
inductive UplinkRequest where
  | capReq (timeslot : Nat) (addr : TetraAddress) (resReq : ReservationRequirement)
  | fragmentCapReq (timeslot : Nat) (addr : TetraAddress) (resReq : ReservationRequirement)
  | capReqAfter (timeslot : Nat) (addr : TetraAddress) (resReq : ReservationRequirement)
      (minimumDelay : Nat)
  | prepareAck (timeslot : Nat) (addr : TetraAddress)
  | prepareAckAt (addr : TetraAddress)
  | associatedCapReq (addr : TetraAddress) (resReq : ReservationRequirement)
  | queueCapacityRequest (requestTime : TdmaTime) (addr : TetraAddress)
      (resReq : ReservationRequirement) (continuesFragment : Bool)
  | clearPendingCapacity (issi : Nat)
  | scheduleReadyGrant (queues : PacketDataDownlink)
  | createCircuit (dir : Direction) (ts : Nat)
  | closeCircuit (dir : Direction) (ts : Nat)
  | setHangtime (ts : Nat) (active : Bool)
  | openPacketBearer (bearerId generation bitmap : Nat)
  | closePacketBearer (bearerId generation : Nat)
  | setPacketBearerDraining (bearerId generation : Nat)
  | detachPacketDataTerminal (issi : Nat)

namespace UplinkRequest

/-- The timeslot that a request names; others do not exist. -/
def timeslot : UplinkRequest → Option Nat
  | capReq timeslot .. | fragmentCapReq timeslot .. | capReqAfter timeslot .. => some timeslot
  | prepareAck timeslot _ | createCircuit _ timeslot | closeCircuit _ timeslot => some timeslot
  | _ => none

end UplinkRequest

namespace BsChannelScheduler

variable (scheduler : BsChannelScheduler)

/-- Serve a request. The frame-18 requests come while the next downlink slot is built. -/
def perform :
    UplinkRequest → Except Fault BsChannelScheduler
  | .capReq timeslot addr resReq =>
    Prod.fst <$> scheduler.ulProcessCapReq timeslot addr resReq
  | .fragmentCapReq timeslot addr resReq =>
    Prod.fst <$> scheduler.ulProcessFragmentCapReq timeslot addr resReq
  | .capReqAfter timeslot addr resReq minimumDelay =>
    Prod.fst <$> scheduler.ulProcessCapReqAfter timeslot addr resReq minimumDelay
  | .prepareAck timeslot addr =>
    Prod.fst <$> scheduler.ulPrepareAssociatedBasicLinkAckGrant timeslot addr
  | .prepareAckAt addr =>
    Prod.fst <$> scheduler.ulPrepareAssociatedBasicLinkAckGrantAt
      (scheduler.curDltime.addTimeslots 1) addr
  | .associatedCapReq addr resReq =>
    Prod.fst <$> scheduler.associatedFn18CapReq (scheduler.curDltime.addTimeslots 1) addr resReq
  | .queueCapacityRequest requestTime addr resReq continuesFragment =>
    .ok (scheduler.queuePacketDataCapacityRequest requestTime addr resReq continuesFragment).1
  | .clearPendingCapacity issi => .ok (scheduler.clearPendingPacketDataCapacity issi)
  | .scheduleReadyGrant queues =>
    Prod.fst <$> scheduler.scheduleReadyPacketDataGrant queues
      (scheduler.curDltime.addTimeslots 1)
  | .createCircuit dir ts => scheduler.createCircuit dir ts
  | .closeCircuit dir ts => scheduler.closeCircuit dir ts
  | .setHangtime ts active => .ok (scheduler.setHangtime ts active)
  | .openPacketBearer bearerId generation bitmap =>
    .ok (scheduler.openPacketBearer bearerId generation bitmap).1
  | .closePacketBearer bearerId generation =>
    .ok (scheduler.closePacketBearer bearerId generation).1
  | .setPacketBearerDraining bearerId generation =>
    .ok (scheduler.setPacketBearerDraining bearerId generation)
  | .detachPacketDataTerminal issi => .ok (scheduler.detachPacketDataTerminal issi)

/-- The turn a search found; a search that panics ends the run. -/
def found : Except Fault (Option Turn) → Option Turn
  | .ok turn => turn
  | .error _ => none

def capReqFinds (timeslot : Nat) (resReq : ReservationRequirement) (minimumDelay : Nat) :
    Option Turn :=
  if scheduler.carriesCall timeslot then none
  else found (scheduler.capReqTurn timeslot resReq minimumDelay)

/-- What a request of a terminal finds in the ring. -/
def requestFinds (timeslot ssi : Nat) (resReq : ReservationRequirement) : Option Turn :=
  if scheduler.packetBearerIsActive timeslot then
    found (scheduler.packetDataCapReqTurn (scheduler.requestTime timeslot) ssi resReq)
  else scheduler.capReqFinds timeslot resReq 0

/-- The slots of the ring that a request would reserve. -/
def searched : UplinkRequest → Option Turn
  | .capReq timeslot addr resReq => scheduler.requestFinds timeslot addr.ssi resReq
  | .fragmentCapReq timeslot addr resReq => scheduler.requestFinds timeslot addr.ssi resReq
  | .capReqAfter timeslot _ resReq minimumDelay =>
    scheduler.capReqFinds timeslot resReq minimumDelay
  | .scheduleReadyGrant queues =>
    let downlink := scheduler.curDltime.addTimeslots 1
    (scheduler.nextPacketDataRequest queues downlink).bind fun request =>
      found (scheduler.packetDataTurn queues downlink request)
  | _ => none

/-- The frame 18 in which a request would reserve. -/
def aimed : UplinkRequest → Option TdmaTime
  | .capReq timeslot _ _ | .fragmentCapReq timeslot _ _ =>
    if !scheduler.packetBearerIsActive timeslot ∧ scheduler.carriesCall timeslot then
      some (scheduler.nextAssociatedFn18 timeslot)
    else none
  | .capReqAfter timeslot _ _ _ =>
    if scheduler.carriesCall timeslot then some (scheduler.nextAssociatedFn18 timeslot) else none
  | .prepareAck timeslot _ =>
    if 2 ≤ timeslot ∧ timeslot ≤ 4 ∧ scheduler.carriesCall timeslot then
      some (scheduler.nextAssociatedFn18 timeslot)
    else none
  | .prepareAckAt _ =>
    let next := scheduler.curDltime.addTimeslots 1
    if next.f = 18 ∧ 2 ≤ next.t ∧ next.t ≤ 4 ∧ scheduler.carriesCall next.t then some next
    else none
  | .associatedCapReq _ _ => some (scheduler.curDltime.addTimeslots 1)
  | _ => none

end BsChannelScheduler

/-! ### What a request books -/

namespace BsChannelScheduler

variable {scheduler after : BsChannelScheduler} {timeslot : Nat} {addr : TetraAddress}
  {resReq : ReservationRequirement} {grant : Option BasicSlotgrant} {frame : Option TdmaTime}

theorem books_of_eq {searched : Option Turn}
    (same : after.toUplinkSchedule = scheduler.toUplinkSchedule) :
    Books scheduler searched frame after.toUplinkSchedule :=
  same ▸ .nothing

theorem ulProcessCapReqAfter_books {minimumDelay : Nat} (low : 1 ≤ timeslot) (high : timeslot ≤ 4)
    (aimed : scheduler.carriesCall timeslot = true →
      frame = some (scheduler.nextAssociatedFn18 timeslot))
    (performed : scheduler.ulProcessCapReqAfter timeslot addr resReq minimumDelay =
      .ok (after, grant)) :
    Books scheduler (scheduler.capReqFinds timeslot resReq minimumDelay) frame
      after.toUplinkSchedule := by
  unfold ulProcessCapReqAfter at performed
  unfold capReqFinds
  split at performed
  · next call =>
    rw [aimed call]
    exact associatedFn18CapReq_books performed
  · next noCall =>
    rw [if_neg noCall]
    obtain ⟨turn, search, granted⟩ := bind_eq_ok.mp performed
    rw [search]
    refine grantIfAny_books (fun turn same => ?_) granted
    obtain rfl : _ = some turn := same
    exact capReqTurn_free low high search

theorem ulProcessPacketDataCapReqAt_books {continuesFragment : Bool} (low : 1 ≤ timeslot)
    (high : timeslot ≤ 4) {slot : Int} (now : scheduler.curDltime = fromInt slot)
    (performed : scheduler.ulProcessPacketDataCapReqAt (scheduler.requestTime timeslot) addr resReq
      continuesFragment = .ok (after, grant)) :
    Books scheduler
      (found (scheduler.packetDataCapReqTurn (scheduler.requestTime timeslot) addr.ssi resReq))
      frame after.toUplinkSchedule := by
  obtain ⟨turn, search, granted⟩ := bind_eq_ok.mp performed
  rw [search]
  obtain ⟨ahead, _, _, _, first⟩ := forwardToTimeslot_fromInt slot low high
  have requested : scheduler.requestTime timeslot = fromInt (slot + ahead + -4) := by
    rw [requestTime, now, first, addTimeslots_fromInt]
  have named := t_fromInt (slot + ahead + -4)
  rw [← requested] at named
  refine grantIfAny_books (fun turn same => ?_) granted
  obtain rfl : _ = some turn := same
  exact packetDataCapReqTurn_free (by omega) (by omega) search

/-- **Every request books at most the turn its search finds, or its frame 18.** -/
theorem perform_books {request : UplinkRequest} {slot : Int}
    (now : scheduler.curDltime = fromInt slot)
    (exists' : ∀ timeslot, request.timeslot = some timeslot → 1 ≤ timeslot ∧ timeslot ≤ 4)
    (performed : scheduler.perform request = .ok after) :
    Books scheduler (scheduler.searched request) (scheduler.aimed request)
      after.toUplinkSchedule := by
  have capReq {timeslot : Nat} {addr : TetraAddress} {resReq : ReservationRequirement}
      {grant : Option BasicSlotgrant} {continuesFragment : Bool} (low : 1 ≤ timeslot) (high : timeslot ≤ 4)
      (served : (if scheduler.packetBearerIsActive timeslot then
          scheduler.ulProcessPacketDataCapReqAt (scheduler.requestTime timeslot) addr resReq
            continuesFragment
        else scheduler.ulProcessCapReqAfter timeslot addr resReq 0) = .ok (after, grant)) :
      Books scheduler (scheduler.requestFinds timeslot addr.ssi resReq)
        (scheduler.aimed (.capReq timeslot addr resReq)) after.toUplinkSchedule := by
    unfold requestFinds
    split at served
    · next active =>
      rw [if_pos active]
      exact ulProcessPacketDataCapReqAt_books low high now served
    · next inactive =>
      rw [if_neg inactive]
      refine ulProcessCapReqAfter_books low high (fun call => ?_) served
      exact if_pos ⟨by simpa using inactive, call⟩
  cases request with
  | capReq timeslot addr resReq =>
    obtain ⟨grant, served⟩ := map_fst_eq_ok.mp performed
    obtain ⟨low, high⟩ := exists' timeslot rfl
    exact capReq low high served
  | fragmentCapReq timeslot addr resReq =>
    obtain ⟨grant, served⟩ := map_fst_eq_ok.mp performed
    obtain ⟨low, high⟩ := exists' timeslot rfl
    exact capReq low high served
  | capReqAfter timeslot addr resReq minimumDelay =>
    obtain ⟨grant, served⟩ := map_fst_eq_ok.mp performed
    obtain ⟨low, high⟩ := exists' timeslot rfl
    exact ulProcessCapReqAfter_books low high (fun call => if_pos call) served
  | prepareAck timeslot addr =>
    obtain ⟨grant, served⟩ := map_fst_eq_ok.mp performed
    unfold ulPrepareAssociatedBasicLinkAckGrant at served
    split at served
    · cases served
      exact .nothing
    · next suitable =>
      have aim : scheduler.aimed (.prepareAck timeslot addr) =
          some (scheduler.nextAssociatedFn18 timeslot) := if_pos (by
        simpa [and_assoc, Nat.succ_le_iff] using suitable)
      rw [aim]
      exact associatedFn18CapReq_books served
  | prepareAckAt addr =>
    obtain ⟨grant, served⟩ := map_fst_eq_ok.mp performed
    unfold ulPrepareAssociatedBasicLinkAckGrantAt at served
    split at served
    · cases served
      exact .nothing
    · next suitable =>
      have aim : scheduler.aimed (.prepareAckAt addr) =
          some (scheduler.curDltime.addTimeslots 1) := if_pos (by
        simpa [and_assoc, Nat.succ_le_iff] using suitable)
      rw [aim]
      exact associatedFn18CapReq_books served
  | associatedCapReq addr resReq =>
    obtain ⟨grant, served⟩ := map_fst_eq_ok.mp performed
    exact associatedFn18CapReq_books served
  | scheduleReadyGrant queues =>
    obtain ⟨grant, served⟩ := map_fst_eq_ok.mp performed
    unfold scheduleReadyPacketDataGrant at served
    unfold searched
    dsimp only
    cases next : scheduler.nextPacketDataRequest queues (scheduler.curDltime.addTimeslots 1) with
    | none =>
      rw [next] at served
      cases served
      exact .nothing
    | some request =>
      rw [next] at served
      obtain ⟨turn, search, rest⟩ := bind_eq_ok.mp served
      rw [bind_some, search]
      cases turn with
      | none =>
        cases rest
        exact .nothing
      | some turn =>
        obtain ⟨⟨granted, _⟩, announced, result⟩ := bind_eq_ok.mp rest
        cases result
        rw [settlePending_schedule]
        exact grantTurn_books (packetDataTurn_free soonAfter_next search) announced
  | queueCapacityRequest requestTime addr resReq continuesFragment =>
    cases performed
    exact books_of_eq queuePacketDataCapacityRequest_schedule
  | clearPendingCapacity issi => exact Except.ok.inj performed ▸ .nothing
  | createCircuit dir ts => exact books_of_eq (setCircuit_schedule performed)
  | closeCircuit dir ts => exact books_of_eq (setCircuit_schedule performed)
  | setHangtime ts active =>
    cases performed
    exact books_of_eq setHangtime_schedule
  | openPacketBearer bearerId generation bitmap =>
    cases performed
    exact books_of_eq openPacketBearer_schedule
  | closePacketBearer bearerId generation =>
    cases performed
    exact books_of_eq closePacketBearer_schedule
  | setPacketBearerDraining bearerId generation =>
    cases performed
    exact books_of_eq setPacketBearerDraining_schedule
  | detachPacketDataTerminal issi => exact Except.ok.inj performed ▸ .nothing

end BsChannelScheduler

/-- A slot is finished, the next one begins, or a request is served. -/
inductive UplinkEvent where
  | finalize
  | tickStart
  | request (request : UplinkRequest)

/-- The scheduler, whether the next downlink slot is finished, and the slots begun so far. -/
structure UplinkState where
  scheduler : BsChannelScheduler
  finalized : Bool
  ticks : Nat

/-- One event; a panic ends the run. -/
def UplinkState.step (state : UplinkState) : UplinkEvent → Option UplinkState
  | .finalize =>
    if state.finalized then none else
    let scheduler :=
      { state.scheduler with toUplinkSchedule := state.scheduler.finalizeTsForTick }
    some { state with
      scheduler := scheduler.expirePacketDataGrantWindows (scheduler.curDltime.addTimeslots 1)
      finalized := true }
  | .tickStart =>
    if state.finalized then
      some {
        scheduler := { state.scheduler with
          curDltime := state.scheduler.curDltime.addTimeslots 1 }
        finalized := false
        ticks := state.ticks + 1 }
    else none
  | .request request =>
    if request.timeslot.all fun timeslot => decide (1 ≤ timeslot ∧ timeslot ≤ 4) then
      match state.scheduler.perform request with
      | .ok scheduler => some { state with scheduler := scheduler }
      | .error _ => none
    else none

def uplinkMachine : Machine UplinkState UplinkEvent where
  start state := ∃ slot : Int, state = ⟨.new (fromInt slot), false, 0⟩
  step := UplinkState.step

/-! ### Careful steps -/

namespace UplinkState

variable (state : UplinkState)

/-- How far ahead of the current slot the ring reaches: the cell of a slot farther ahead still
belongs to a slot that is not over. -/
def reach : Int := if state.finalized then 69 else 68

def Usable (slot : TdmaTime) : Prop :=
  slot.diff state.scheduler.curDltime ≤ state.reach ∧
    state.scheduler.associatedEntry slot = none

def Clear (frame : TdmaTime) : Prop :=
  state.scheduler.associatedEntry frame = none →
    frame.diff state.scheduler.curDltime ≤ state.reach →
      state.scheduler.ulsched (cell frame) = EMPTY_SCHED_ELEM

/-- What a request reserves in the ring is usable, and the frame 18 it reserves in is clear. -/
def Careful : UplinkEvent → Prop
  | .request request =>
    (∀ turn, state.scheduler.searched request = some turn → ∀ slot ∈ turn.slots,
      state.Usable slot) ∧
    ∀ frame, state.scheduler.aimed request = some frame → state.Clear frame
  | _ => True

/-- The schedule of a run that began at slot `origin` is faithful to its grants. -/
def SafeAt (origin : Int) (state : UplinkState) : Prop :=
  ∃ store, Faithful state.scheduler.toUplinkSchedule (origin + state.ticks)
    (origin + state.ticks + state.reach - 71) store

theorem reach_eq : state.reach = if state.finalized then 69 else 68 := rfl

end UplinkState

/-! ### One step -/

namespace BsChannelScheduler

variable {scheduler : BsChannelScheduler}

theorem walk_fromInt (frames count : Nat) (slot : Int) (enough : count < frames)
    (reached : (slot / 4 + count) % 18 = 17)
    (before : ∀ earlier : Nat, earlier < count → (slot / 4 + earlier) % 18 ≠ 17) :
    nextAssociatedFn18.walk frames (fromInt slot) = some (fromInt (slot + 4 * count)) := by
  induction count generalizing frames slot with
  | zero =>
    obtain ⟨frames, rfl⟩ := Nat.exists_eq_succ_of_ne_zero enough.ne'
    have frame := f_fromInt slot
    rw [nextAssociatedFn18.walk, if_neg (by omega)]
    rw [Nat.cast_zero, mul_zero, add_zero]
  | succ count ih =>
    obtain ⟨frames, rfl⟩ := Nat.exists_eq_succ_of_ne_zero (Nat.ne_zero_of_lt enough)
    have frame := f_fromInt slot
    have notYet := before 0 (Nat.succ_pos count)
    rw [nextAssociatedFn18.walk, if_pos (by omega), addTimeslots_fromInt,
      ih _ _ (by omega) (by omega) fun earlier small => ?_]
    · rw [show slot + 4 + 4 * (count : Int) = slot + 4 * ((count + 1 : Nat) : Int) by omega]
    · have later := before (earlier + 1) (by omega)
      omega

/-- **The next frame 18 of a timeslot is less than eighteen frames ahead.** -/
theorem nextAssociatedFn18_fromInt {timeslot : Nat} {slot : Int}
    (now : scheduler.curDltime = fromInt slot) (low : 1 ≤ timeslot) (high : timeslot ≤ 4) :
    ∃ ahead : Int, 0 ≤ ahead ∧ ahead ≤ 71 ∧
      scheduler.nextAssociatedFn18 timeslot = fromInt (slot + ahead) ∧
      (scheduler.nextAssociatedFn18 timeslot).f = 18 := by
  obtain ⟨ahead, positive, small, _, first⟩ := forwardToTimeslot_fromInt slot low high
  have walked := walk_fromInt 18 (17 - (slot + ahead) / 4 % 18).toNat (slot + ahead) (by omega)
    (by omega) fun earlier early => by omega
  have next : scheduler.nextAssociatedFn18 timeslot =
      fromInt (slot + ahead + 4 * ((17 - (slot + ahead) / 4 % 18).toNat : Int)) := by
    rw [nextAssociatedFn18, now, first, walked, getD_some]
  have frame := f_fromInt (slot + ahead + 4 * ((17 - (slot + ahead) / 4 % 18).toNat : Int))
  refine ⟨ahead + 4 * ((17 - (slot + ahead) / 4 % 18).toNat : Int), by omega, by omega, ?_, ?_⟩
  · rw [next, add_assoc]
  · rw [next]
    omega

theorem aimed_near {request : UplinkRequest} {frame : TdmaTime} {slot : Int}
    (now : scheduler.curDltime = fromInt slot)
    (exists' : ∀ timeslot, request.timeslot = some timeslot → 1 ≤ timeslot ∧ timeslot ≤ 4)
    (aims : scheduler.aimed request = some frame) :
    ∃ ahead : Int, 0 ≤ ahead ∧ ahead ≤ 71 ∧ frame = fromInt (slot + ahead) := by
  have next {timeslot : Nat} (named : request.timeslot = some timeslot)
      (same : scheduler.nextAssociatedFn18 timeslot = frame) :
      ∃ ahead : Int, 0 ≤ ahead ∧ ahead ≤ 71 ∧ frame = fromInt (slot + ahead) := by
    obtain ⟨low, high⟩ := exists' timeslot named
    obtain ⟨ahead, positive, small, is, _⟩ := nextAssociatedFn18_fromInt now low high
    exact ⟨ahead, positive, small, same ▸ is⟩
  have following (same : scheduler.curDltime.addTimeslots 1 = frame) :
      ∃ ahead : Int, 0 ≤ ahead ∧ ahead ≤ 71 ∧ frame = fromInt (slot + ahead) :=
    ⟨1, by norm_num, by norm_num, by rw [← same, now, addTimeslots_fromInt]⟩
  cases request with
  | capReq timeslot | fragmentCapReq timeslot | capReqAfter timeslot | prepareAck timeslot =>
    dsimp only [aimed] at aims
    split at aims
    · exact next rfl (some_inj.mp aims)
    · cases aims
  | prepareAckAt =>
    dsimp only [aimed] at aims
    split at aims
    · exact following (some_inj.mp aims)
    · cases aims
  | associatedCapReq => exact following (some_inj.mp aims)
  | _ => cases aims

end BsChannelScheduler

namespace UplinkState

variable {state next : UplinkState} {origin : Int}

/-- What a careful request books keeps the schedule faithful and forgets no grant. -/
theorem safeAt_books {searched : Option BsChannelScheduler.Turn} {frame : Option TdmaTime}
    {schedule : UplinkSchedule} {slot : Int} {store : Int → TimeslotSchedule}
    (faithful : Faithful state.scheduler.toUplinkSchedule slot (slot + state.reach - 71) store)
    (books : BsChannelScheduler.Books state.scheduler searched frame schedule)
    (usable : ∀ turn, searched = some turn → ∀ slot ∈ turn.slots, state.Usable slot)
    (clear : ∀ target, frame = some target → state.Clear target)
    (near : ∀ target, frame = some target →
      ∃ ahead : Int, 0 ≤ ahead ∧ ahead ≤ 71 ∧ target = fromInt (slot + ahead)) :
    (∃ store, Faithful schedule slot (slot + state.reach - 71) store) ∧
      state.scheduler.granted ⊆ schedule.granted := by
  have reach : state.reach = 68 ∨ state.reach = 69 := by
    unfold reach
    split
    · exact .inr rfl
    · exact .inl rfl
  have distance {ahead : Int} (positive : 0 ≤ ahead) (small : ahead ≤ 80) :
      (fromInt (slot + ahead)).diff state.scheduler.curDltime = ahead := by
    rw [faithful.time, diff_fromInt (abs_lt.mpr ⟨by rw [timeIntWrap]; omega, by
      rw [timeIntWrap]; omega⟩), add_sub_cancel_left]
  cases books with
  | nothing => exact ⟨⟨store, faithful⟩, .refl _⟩
  | ring found free reserved =>
    next turn ssi subslot isHalfslot =>
    obtain ⟨first, soon, offered, single⟩ := free
    obtain ⟨ahead, positive, small, rfl⟩ := soon slot faithful.time
    obtain ⟨dists, slots, ascending, each⟩ := offered
    have positions : turn.slots = (dists.map fun dist : Nat => slot + ahead + dist).map fromInt := by
      rw [slots, List.map_map]
      exact map_congr_left fun dist _ => addTimeslots_fromInt _ _
    have distinct : (dists.map fun dist : Nat => slot + ahead + dist).Nodup :=
      List.Nodup.map (fun first second same => by simpa using same)
        (ascending.imp fun below => below.ne)
    obtain ⟨after, number, store', done, faithful', more⟩ := faithful.reserveSlots ssi 0 distinct
        fun position member => by
          obtain ⟨dist, distMember, rfl⟩ := mem_map.mp member
          obtain ⟨inside, _, room⟩ := each dist distMember
          have listed : fromInt (slot + ahead + dist) ∈ turn.slots := by
            rw [positions]
            exact mem_map_of_mem member
          obtain ⟨reachable, unassociated⟩ := usable turn found _ listed
          rw [show slot + ahead + (dist : Int) = slot + (ahead + dist) by omega,
            distance (by omega) (by omega)] at reachable
          rw [addTimeslots_fromInt] at room
          have above : slot + state.reach - 71 ≤ slot + ahead + dist := by omega
          have below : slot + ahead + dist < slot + state.reach - 71 + 72 := by omega
          refine ⟨above, below, unassociated, ?_⟩
          rw [← faithful.represents _ above below]
          exact room
    rw [positions, done] at reserved
    cases reserved
    exact ⟨⟨store', faithful'⟩, more⟩
  | associated aims reserved =>
    next target addr resReq answer =>
    obtain ⟨ahead, positive, small, rfl⟩ := near target aims
    obtain ⟨faithful', more⟩ := faithful.associated (by omega) (by omega)
      (fun unassociated inside => by
        rw [← faithful.represents _ (by omega) inside]
        exact clear _ aims unassociated (by rw [distance positive (by omega)]; omega)) reserved
    exact ⟨⟨store, faithful'⟩, more⟩

variable {event : UplinkEvent} {later : UplinkState}

/-- **A careful step keeps the schedule faithful to its grants.** -/
theorem safeAt_step (safe : state.SafeAt origin) (careful : state.Careful event)
    (stepped : state.step event = some next) : next.SafeAt origin := by
  obtain ⟨store, faithful⟩ := safe
  cases event with
  | finalize =>
    dsimp only [step] at stepped
    split at stepped
    · cases stepped
    · next notYet =>
      cases stepped
      rw [reach_eq, if_neg notYet, show origin + state.ticks + 68 - 71 =
        origin + state.ticks - 3 by omega] at faithful
      have finished := faithful.finalize
      refine ⟨Function.update store (origin + state.ticks - 3 + 72) EMPTY_SCHED_ELEM, ?_⟩
      rw [reach_eq, if_pos rfl, show origin + state.ticks + 69 - 71 =
        origin + state.ticks - 2 by omega]
      exact finished
  | tickStart =>
    dsimp only [step] at stepped
    split at stepped
    · next done =>
      cases stepped
      refine ⟨store, ?_⟩
      have ticked := faithful.tick
      rw [reach_eq, if_pos done] at ticked
      rw [reach_eq, if_neg Bool.false_ne_true, cast_succ,
        show origin + (state.ticks + 1 : Int) + 68 - 71 = origin + state.ticks + 69 - 71 by omega,
        ← add_assoc]
      exact ticked
    · cases stepped
  | request request =>
    dsimp only [step] at stepped
    split at stepped
    · next named =>
      have exists' : ∀ timeslot, request.timeslot = some timeslot →
          1 ≤ timeslot ∧ timeslot ≤ 4 := fun timeslot is => by
        rw [is] at named
        exact of_decide_eq_true named
      cases performed : state.scheduler.perform request with
      | error fault => rw [performed] at stepped; cases stepped
      | ok scheduler =>
        rw [performed] at stepped
        cases stepped
        exact (safeAt_books faithful
          (perform_books faithful.time exists' performed) careful.1 careful.2
          fun target => aimed_near faithful.time exists').1
    · cases stepped

/-- A grant whose slot is not over when the next slot is finished stays noted. -/
theorem granted_step {grant : UplinkGrant} {position : Int} (safe : state.SafeAt origin)
    (careful : state.Careful event) (stepped : state.step event = some next)
    (noted : grant ∈ state.scheduler.granted) (time : grant.time = fromInt position)
    (near : position < origin + state.ticks + 80) (ahead : origin + state.ticks - 2 ≤ position) :
    grant ∈ next.scheduler.granted := by
  obtain ⟨store, faithful⟩ := safe
  cases event with
  | finalize =>
    dsimp only [step] at stepped
    split at stepped
    · cases stepped
    · cases stepped
      exact granted_finalize faithful.time noted time ahead near
  | tickStart =>
    dsimp only [step] at stepped
    split at stepped
    · cases stepped
      exact noted
    · cases stepped
  | request request =>
    dsimp only [step] at stepped
    split at stepped
    · next named =>
      have exists' : ∀ timeslot, request.timeslot = some timeslot →
          1 ≤ timeslot ∧ timeslot ≤ 4 := fun timeslot is => by
        rw [is] at named
        exact of_decide_eq_true named
      cases performed : state.scheduler.perform request with
      | error fault => rw [performed] at stepped; cases stepped
      | ok scheduler =>
        rw [performed] at stepped
        cases stepped
        exact (safeAt_books faithful
          (BsChannelScheduler.perform_books faithful.time exists' performed) careful.1 careful.2
          fun target => BsChannelScheduler.aimed_near faithful.time exists').2 noted
    · exact absurd stepped nofun

theorem ticks_step (stepped : state.step event = some next) : state.ticks ≤ next.ticks := by
  cases event with
  | finalize =>
    dsimp only [step] at stepped
    split at stepped
    · cases stepped
    · rw [← some_inj.mp stepped]
  | tickStart =>
    dsimp only [step] at stepped
    split at stepped
    · rw [← some_inj.mp stepped]
      exact Nat.le_succ _
    · cases stepped
  | request request =>
    dsimp only [step] at stepped
    split at stepped
    · split at stepped
      · rw [← some_inj.mp stepped]
      · cases stepped
    · cases stepped

theorem ticks_runs {allowed : UplinkState → UplinkEvent → Prop}
    (run : Runs uplinkMachine allowed state later) : state.ticks ≤ later.ticks := by
  induction run with
  | refl => exact le_rfl
  | tail _ last ih =>
    obtain ⟨_, _, stepped⟩ := last
    exact ih.trans (ticks_step stepped)

/-! ### Careful runs -/

/-- **In a careful run the schedule stays faithful to its grants.** -/
theorem safeAt_runs (safe : state.SafeAt origin) (run : Runs uplinkMachine Careful state later) :
    later.SafeAt origin :=
  run.invariant (fun _ _ _ safe careful stepped => safeAt_step safe careful stepped) safe

theorem safeAt_of_reachable (reachable : Reachable uplinkMachine Careful state) :
    ∃ origin, state.SafeAt origin := by
  obtain ⟨first, ⟨slot, rfl⟩, run⟩ := reachable
  refine ⟨slot, safeAt_runs ⟨fun _ => EMPTY_SCHED_ELEM, ?_⟩ run⟩
  refine ⟨?_, fun _ _ _ => rfl, nofun⟩
  rw [Nat.cast_zero, add_zero]
  rfl

theorem granted_runs {grant : UplinkGrant} {position : Int} (safe : state.SafeAt origin)
    (run : Runs uplinkMachine Careful state later) (noted : grant ∈ state.scheduler.granted)
    (time : grant.time = fromInt position) (near : position < origin + state.ticks + 80)
    (notOver : origin + later.ticks - 2 ≤ position) : grant ∈ later.scheduler.granted := by
  induction run with
  | refl => exact noted
  | tail before last ih =>
    next middle final =>
    obtain ⟨event, careful, stepped⟩ := last
    have forward := ticks_step stepped
    have safeMiddle := safeAt_runs safe before
    have later : state.ticks ≤ middle.ticks := ticks_runs before
    exact granted_step safeMiddle careful stepped (ih (by omega)) time (by omega) (by omega)

end UplinkState

/-! ### No two terminals share a slot -/

/-- The owner of a granted slot, or half slot, is the terminal it was granted to, and grants of
overlapping parts of one slot are to the same terminal. -/
def UplinkState.Exclusive (state : UplinkState) : Prop :=
  (∀ grant ∈ state.scheduler.granted, ∀ block ≠ PhyBlockNum.undefined,
    (grant.block = .both ∨ block = grant.block) →
      state.scheduler.ulGetSlotOwner grant.time block = .ok (some grant.ssi)) ∧
  (∀ grant ∈ state.scheduler.granted, ∀ other ∈ state.scheduler.granted,
    grant.time = other.time →
    (grant.block ≠ .block2 ∧ other.block ≠ .block2) ∨
      (grant.block ≠ .block1 ∧ other.block ≠ .block1) → grant.ssi = other.ssi)

/-- **In every state of a careful run, no two terminals share an uplink slot.** -/
theorem careful_grants_exclusive {state : UplinkState}
    (reachable : Reachable uplinkMachine UplinkState.Careful state) : state.Exclusive := by
  obtain ⟨origin, store, faithful⟩ := UplinkState.safeAt_of_reachable reachable
  refine ⟨fun grant member block determined part => ?_, ?_⟩
  · exact faithful.owner member determined part
  · intro grant member other otherMember sameSlot overlap
    exact faithful.exclusive member otherMember sameSlot overlap

def startAt (slot : Int) : UplinkState := ⟨.new (fromInt slot), false, 0⟩

def oneSlot : UplinkEvent := .request (.capReq 2 ⟨1001, .issi⟩ .req1Slot)

theorem oneSlot_careful : (startAt 141).Careful oneSlot := by
  have searched : (startAt 141).scheduler.searched (.capReq 2 ⟨1001, .issi⟩ .req1Slot) =
      some ⟨1, 0, [fromInt 141]⟩ := by decide +kernel
  have aimed : (startAt 141).scheduler.aimed (.capReq 2 ⟨1001, .issi⟩ .req1Slot) = none := by
    decide +kernel
  refine ⟨fun turn found slot member => ?_, fun frame aims => ?_⟩
  · cases searched.symm.trans found
    obtain rfl := mem_singleton.mp member
    exact ⟨by decide +kernel, rfl⟩
  · cases aimed.symm.trans aims

theorem oneSlot_granted : ∃ state, Runs uplinkMachine UplinkState.Careful (startAt 141) state ∧
    state.scheduler.granted = [⟨1001, fromInt 141, .both⟩] := by
  have granted : ((startAt 141).step oneSlot).any (fun state =>
      state.scheduler.granted = [⟨1001, fromInt 141, .both⟩]) = true := by decide +kernel
  obtain ⟨state, stepped, noted⟩ := (any_eq_true _ _).mp granted
  exact ⟨state, .single ⟨oneSlot, oneSlot_careful, stepped⟩, of_decide_eq_true noted⟩

theorem careful_grants_exclusive_oneSlot :
    ∃ state : UplinkState, state.scheduler.granted = [⟨1001, fromInt 141, .both⟩] ∧
      state.Exclusive := by
  obtain ⟨state, run, granted⟩ := oneSlot_granted
  exact ⟨state, granted, careful_grants_exclusive ⟨startAt 141, ⟨141, rfl⟩, run⟩⟩

/-- In frame 18 of timeslot 2 a terminal is granted the slot; then a call starts there, and another
terminal is granted the same slot for its acknowledgement. -/
def sharedSlotEvents : List UplinkEvent :=
  [oneSlot, .request (.createCircuit .ul 2), .request (.prepareAck 2 ⟨1002, .issi⟩)]

/-- **A slot of frame 18 that is granted in the ring is granted again in the list of associated
grants**, to another terminal and before it has passed. -/
theorem sharedSlot_reachable : ∃ state, Reachable uplinkMachine always state ∧
      state.scheduler.granted = [⟨1001, fromInt 141, .both⟩, ⟨1002, fromInt 141, .both⟩] ∧
      state.scheduler.curDltime = fromInt 141 ∧ ¬ state.Exclusive := by
  obtain ⟨state, reached, granted, now⟩ := reachable_exec (fun state =>
      state.scheduler.granted = [⟨1001, fromInt 141, .both⟩, ⟨1002, fromInt 141, .both⟩] ∧
      state.scheduler.curDltime = fromInt 141) sharedSlotEvents
    (show uplinkMachine.start (startAt 141) from ⟨141, rfl⟩) (by decide +kernel)
  refine ⟨state, reached, granted, now, fun exclusive => ?_⟩
  have same := exclusive.2 ⟨1001, fromInt 141, .both⟩ (by rw [granted]; exact mem_cons_self)
    ⟨1002, fromInt 141, .both⟩ (by rw [granted]; exact mem_cons_of_mem _ mem_cons_self)
    rfl (.inl ⟨nofun, nofun⟩)
  exact absurd same (by norm_num)

/-! ### A grant survives until its slot is over -/

/-- **A grant survives until its slot is over.** The uplink of a slot is heard two slots later; in a
careful run, until then, the owner of a granted slot is still the terminal it was granted to. -/
theorem careful_grant_survives {state later : UplinkState}
    (reachable : Reachable uplinkMachine UplinkState.Careful state)
    (run : Runs uplinkMachine UplinkState.Careful state later) {grant : UplinkGrant}
    (noted : grant ∈ state.scheduler.granted)
    (notOver : (later.ticks : Int) - state.ticks ≤ grant.time.diff state.scheduler.curDltime + 2) :
    later.scheduler.ulGetSlotOwner grant.time grant.block = .ok (some grant.ssi) := by
  obtain ⟨origin, safe⟩ := UplinkState.safeAt_of_reachable reachable
  obtain ⟨store, faithful⟩ := id safe
  obtain ⟨position, elem, time, above, below, kept, owns⟩ := faithful.recorded grant noted
  obtain ⟨_, laterFaithful⟩ := UplinkState.safeAt_runs safe run
  have reach := state.reach_eq
  have distance : grant.time.diff state.scheduler.curDltime = position - (origin + state.ticks) := by
    rw [time, faithful.time]
    refine diff_fromInt (abs_lt.mpr ⟨?_, ?_⟩) <;> rw [timeIntWrap] <;> split at reach <;> omega
  have still := UplinkState.granted_runs safe run noted time (by split at reach <;> omega)
    (by omega)
  exact laterFaithful.owner still owns.determined (.inr rfl)

def quietSlots (count : Nat) : List UplinkEvent :=
  (List.replicate count [UplinkEvent.finalize, .tickStart]).flatten

theorem quietSlots_careful (count : Nat) :
    ∀ event ∈ quietSlots count, ∀ state : UplinkState, state.Careful event := by
  intro event member state
  obtain ⟨slot, isSlot, inSlot⟩ := mem_flatten.mp member
  rw [eq_of_mem_replicate isSlot] at inSlot
  rcases mem_cons.mp inSlot with rfl | last
  · trivial
  · rw [mem_singleton.mp last]
    trivial

theorem careful_grant_survives_oneSlot : ∃ later : UplinkState, later.ticks = 2 ∧
      later.scheduler.ulGetSlotOwner (fromInt 141) .both = .ok (some 1001) := by
  have passed : ((startAt 141).step oneSlot).any (fun state =>
      (state.scheduler.granted = [⟨1001, fromInt 141, .both⟩] ∧
        state.scheduler.curDltime = fromInt 141 ∧ state.ticks = 0) ∧
      (exec uplinkMachine state (quietSlots 2)).any (fun later => later.ticks = 2) = true) =
      true := by decide +kernel
  obtain ⟨state, stepped, result⟩ := (any_eq_true _ _).mp passed
  obtain ⟨⟨granted, now, began⟩, leads⟩ := of_decide_eq_true result
  obtain ⟨later, run, ticked⟩ := exec_any (quietSlots_careful 2) leads
  have ticks := of_decide_eq_true ticked
  have noted : (⟨1001, fromInt 141, .both⟩ : UplinkGrant) ∈ state.scheduler.granted := by
    rw [granted]
    exact mem_cons_self
  refine ⟨later, ticks, careful_grant_survives ⟨startAt 141, ⟨141, rfl⟩, .single
    ⟨oneSlot, oneSlot_careful, stepped⟩⟩ run noted ?_⟩
  rw [now, ticks, began]
  decide +kernel

/-- A terminal asks for seventeen slots of timeslot 2, whose next frame is the second. -/
def seventeenSlots : UplinkEvent := .request (.capReq 2 ⟨1001, .issi⟩ .req17Slots)

/-- **The last slot of a long grant is erased before it begins.** The slots of the grant step over
the linearization opportunity of frame 18, so the last one is a whole turn of the ring ahead of a
slot that is not over; when that slot ends, the reservation is gone. The slot is looked up when its
uplink is heard, 73 slots later, and has no owner. -/
theorem erased_reachable :
    ∃ state later, Reachable uplinkMachine always state ∧ Runs uplinkMachine always state later ∧
      (⟨1001, fromInt 73, .both⟩ : UplinkGrant) ∈ state.scheduler.granted ∧
      (later.ticks : Int) - state.ticks ≤ (fromInt 73).diff state.scheduler.curDltime + 2 ∧
      later.scheduler.curDltime = (fromInt 73).addTimeslots 2 ∧
      later.scheduler.ulGetSlotOwner (fromInt 73) .both = .ok none := by
  have erased : ((startAt 2).step seventeenSlots).any (fun state =>
      ((⟨1001, fromInt 73, .both⟩ : UplinkGrant) ∈ state.scheduler.granted ∧
        state.scheduler.curDltime = fromInt 2 ∧ state.ticks = 0) ∧
      (exec uplinkMachine state (quietSlots 73)).any (fun later =>
        (later.ticks = 73 ∧ later.scheduler.curDltime = (fromInt 73).addTimeslots 2) ∧
        (later.scheduler.associatedUlsched = [] ∧
          later.scheduler.ulsched (cell (fromInt 73)) = EMPTY_SCHED_ELEM)) = true) =
      true := by decide +kernel
  obtain ⟨state, stepped, result⟩ := (any_eq_true _ _).mp erased
  obtain ⟨⟨noted, now, began⟩, leads⟩ := of_decide_eq_true result
  obtain ⟨later, run, checked⟩ := exec_any (fun _ _ _ => trivial) leads
  obtain ⟨⟨ticks, heard⟩, unassociated, empty⟩ := of_decide_eq_true checked
  refine ⟨state, later, ⟨startAt 2, ⟨2, rfl⟩, .single ⟨seventeenSlots, trivial, stepped⟩⟩, run,
    noted, ?_, heard, ?_⟩
  · rw [now, ticks, began]
    decide +kernel
  · unfold ulGetSlotOwner associatedEntry
    rw [unassociated, find?_nil, map_none, getD_none, empty]
    rfl

end Bluestation
