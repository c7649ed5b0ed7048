/-
**What a packet-data terminal is granted from its reports.**

A terminal reports what it still needs; what is reserved for it already counts, and the rest waits
until the terminal has its turn. Reserving a turn moves slots from what waits to what is reserved.
Slots that are reserved cannot be withdrawn.

* `BsChannelScheduler.scheduleReady_cases` — a turn is given to the request that is next.
* `packet_data_capacity_accounting` — the account of every run.
-/

import Bluestation.Umac.UplinkRuns

namespace Bluestation

open Machines TdmaTime UplinkSchedule List Option Nat Except BsChannelScheduler UplinkState PendingPacketDataGrant

namespace BsChannelScheduler

/-! ### What waits and what is reserved -/

def pendingOf (scheduler : BsChannelScheduler) (issi : Nat) : Option PendingPacketDataGrant :=
  (scheduler.pendingPacketDataGrants.find? (·.1 = issi)).map (·.2)

def remaining (scheduler : BsChannelScheduler) (issi : Nat) : Nat :=
  (scheduler.pendingOf issi).elim 0 PendingPacketDataGrant.remainingSlots

def reserved (scheduler : BsChannelScheduler) (issi : Nat) : Nat :=
  scheduler.granted.countP (·.ssi = issi)

/-- A request is kept under its terminal, one for each terminal, and it asks for something. -/
structure Keyed (scheduler : BsChannelScheduler) : Prop where
  distinct : (scheduler.pendingPacketDataGrants.map (·.1)).Nodup
  named : ∀ entry ∈ scheduler.pendingPacketDataGrants, entry.2.addr.ssi = entry.1
  asks : ∀ entry ∈ scheduler.pendingPacketDataGrants, 0 < entry.2.remainingSlots
  half : ∀ entry ∈ scheduler.pendingPacketDataGrants, entry.2.isHalfslot = true →
    entry.2.remainingSlots = 1

variable {scheduler after : BsChannelScheduler} {issi : Nat} {request : PendingPacketDataGrant}

section

variable (keyed : scheduler.Keyed)

include keyed

theorem Keyed.pendingOf_eq_some : scheduler.pendingOf issi = some request ↔
      (issi, request) ∈ scheduler.pendingPacketDataGrants := by
  unfold pendingOf
  constructor
  · intro found
    obtain ⟨⟨key, value⟩, there, rfl⟩ := map_eq_some_iff.mp found
    obtain rfl : key = issi := by simpa using find?_some there
    exact mem_of_find?_eq_some there
  · intro member
    cases found : scheduler.pendingPacketDataGrants.find? (·.1 = issi) with
    | none =>
      exact absurd (decide_eq_true rfl) (find?_eq_none.mp found _ member)
    | some entry =>
      have here : entry.1 = issi := by simpa using find?_some found
      have same := inj_on_of_nodup_map keyed.distinct (mem_of_find?_eq_some found) member here
      rw [same]
      rfl

theorem Keyed.pendingOf_congr (keyed' : after.Keyed)
    (same : ∀ request, (issi, request) ∈ after.pendingPacketDataGrants ↔
      (issi, request) ∈ scheduler.pendingPacketDataGrants) :
    after.pendingOf issi = scheduler.pendingOf issi :=
  Option.ext fun request => by
    rw [keyed.pendingOf_eq_some, keyed'.pendingOf_eq_some, same]

theorem Keyed.sublist
    (fewer : after.pendingPacketDataGrants.Sublist scheduler.pendingPacketDataGrants) : after.Keyed :=
  ⟨keyed.distinct.sublist (fewer.map _), fun entry member => keyed.named entry (fewer.subset member),
    fun entry member => keyed.asks entry (fewer.subset member),
    fun entry member => keyed.half entry (fewer.subset member)⟩

theorem Keyed.of_eq (same : after.pendingPacketDataGrants = scheduler.pendingPacketDataGrants) :
    after.Keyed :=
  keyed.sublist (same ▸ .refl _)

end

theorem pendingOf_of_eq (same : after.pendingPacketDataGrants = scheduler.pendingPacketDataGrants)
    (issi : Nat) : after.pendingOf issi = scheduler.pendingOf issi := by
  unfold pendingOf
  rw [same]

theorem reserved_of_eq (same : after.granted = scheduler.granted) (issi : Nat) :
    after.reserved issi = scheduler.reserved issi := by
  unfold reserved
  rw [same]

/-! ### Requests are taken back -/

section

variable (keyed : scheduler.Keyed)

include keyed

theorem removePending_keyed (issi : Nat) : (scheduler.removePending issi).Keyed :=
  keyed.sublist filter_sublist

theorem removePending_pendingOf (issi other : Nat) : (scheduler.removePending issi).pendingOf other =
      if other = issi then none else scheduler.pendingOf other := by
  have keyed' := removePending_keyed keyed issi
  split
  next here =>
    rw [eq_none_iff_forall_ne_some]
    intro request found
    have member := (mem_filter.mp (keyed'.pendingOf_eq_some.mp found)).2
    exact of_decide_eq_true member here
  next elsewhere =>
    refine keyed.pendingOf_congr keyed' fun request => ?_
    refine mem_filter.trans (and_iff_left ?_)
    exact decide_eq_true elsewhere

theorem retainPending_keyed (keep : PendingPacketDataGrant → Bool) :
    (scheduler.retainPending keep).Keyed :=
  keyed.sublist filter_sublist

theorem retainPending_pendingOf (keep : PendingPacketDataGrant → Bool) (issi : Nat) :
    (scheduler.retainPending keep).pendingOf issi = (scheduler.pendingOf issi).filter keep := by
  refine Option.ext fun request => ?_
  rw [(retainPending_keyed keyed keep).pendingOf_eq_some,
    filter_eq_some_iff, keyed.pendingOf_eq_some]
  exact mem_filter

end

/-- A request is kept in place of the terminal's old one. -/
theorem replacePending_pendingOf (next : BsChannelScheduler)
    (keyed : scheduler.Keyed) (asks : 0 < request.remainingSlots)
    (half : request.isHalfslot = true → request.remainingSlots = 1)
    (pending : next.pendingPacketDataGrants = (request.addr.ssi, request) ::
      (scheduler.removePending request.addr.ssi).pendingPacketDataGrants) :
    next.Keyed ∧ ∀ issi, next.pendingOf issi =
      if issi = request.addr.ssi then some request else scheduler.pendingOf issi := by
  have removed := removePending_keyed keyed request.addr.ssi
  have keyed' : next.Keyed := by
    refine ⟨?_, fun entry listed => ?_, fun entry listed => ?_, fun entry listed => ?_⟩
    · rw [pending, map_cons, nodup_cons]
      refine ⟨fun listed => ?_, removed.distinct⟩
      obtain ⟨entry, there, here⟩ := mem_map.mp listed
      exact of_decide_eq_true (mem_filter.mp there).2 here
    · rw [pending] at listed
      rcases mem_cons.mp listed with rfl | there
      · rfl
      · exact removed.named entry there
    · rw [pending] at listed
      rcases mem_cons.mp listed with rfl | there
      · exact asks
      · exact removed.asks entry there
    · rw [pending] at listed
      rcases mem_cons.mp listed with rfl | there
      · exact half
      · exact removed.half entry there
  refine ⟨keyed', fun issi => ?_⟩
  split
  next here =>
    rw [keyed'.pendingOf_eq_some, pending, here]
    exact mem_cons_self
  next elsewhere =>
    refine keyed.pendingOf_congr keyed' fun other => ?_
    rw [pending, mem_cons]
    constructor
    · rintro (same | there)
      · exact absurd (Prod.mk.inj same).1 elsewhere
      · exact (mem_filter.mp there).1
    · exact fun there => .inr (mem_filter.mpr ⟨there, decide_eq_true elsewhere⟩)

variable {ssi : Nat} {resReq : ReservationRequirement} {isHalfslot : Bool}
  {grant : Option BasicSlotgrant} {addr : TetraAddress}

variable {requestTime : TdmaTime}

theorem shortfall_half (half : (packetDataRequestSlots resReq).2 = true) :
    scheduler.shortfall requestTime ssi resReq = 1 := by
  cases resReq with
  | req1Subslot => rfl
  | _ => cases half

/-- The request that a report leaves. -/
def reported (scheduler : BsChannelScheduler) (requestTime : TdmaTime) (addr : TetraAddress)
    (bearer : Nat × Nat) (resReq : ReservationRequirement) (continuesFragment : Bool) :
    Option PendingPacketDataGrant :=
  if scheduler.shortfall requestTime addr.ssi resReq = 0 then none
  else some ⟨addr, bearer, requestTime, scheduler.shortfall requestTime addr.ssi resReq,
    (packetDataRequestSlots resReq).2, continuesFragment⟩

/-- **A report replaces the terminal's request**, unless there is no bearer to serve it. -/
theorem queuePacketDataCapacityRequest_spec (keyed : scheduler.Keyed) (requestTime : TdmaTime)
    (addr : TetraAddress) (resReq : ReservationRequirement) (continuesFragment : Bool) :
    let next := (scheduler.queuePacketDataCapacityRequest requestTime addr resReq
      continuesFragment).1
    next.Keyed ∧ (∀ issi, issi ≠ addr.ssi → next.pendingOf issi = scheduler.pendingOf issi) ∧
      ∀ bearer, scheduler.packetBearerForTimeslot requestTime.t = some bearer →
        bearer ∉ scheduler.drainingPacketBearers → next.pendingOf addr.ssi =
          scheduler.reported requestTime addr bearer resReq continuesFragment := by
  unfold queuePacketDataCapacityRequest
  dsimp only
  split
  next missing =>
    exact ⟨keyed, fun _ _ => rfl, fun bearer on => nomatch missing.symm.trans on⟩
  next bearer on =>
    split
    next draining =>
      refine ⟨keyed, fun _ _ => rfl, fun other on' serving => ?_⟩
      rw [← some.inj (on.symm.trans on')] at serving
      exact absurd draining serving
    · split
      next covered =>
        refine ⟨removePending_keyed keyed _, fun issi elsewhere => ?_, fun _ _ _ => ?_⟩
        · rw [removePending_pendingOf keyed, if_neg elsewhere]
        · rw [removePending_pendingOf keyed, if_pos rfl, reported, if_pos covered]
      next missing =>
        let request : PendingPacketDataGrant :=
          ⟨addr, bearer, requestTime, scheduler.shortfall requestTime addr.ssi resReq,
            (packetDataRequestSlots resReq).2, continuesFragment⟩
        have asks : 0 < request.remainingSlots := pos_of_ne_zero missing
        obtain ⟨keyed', lookup⟩ := replacePending_pendingOf
          { scheduler.removePending addr.ssi with
            pendingPacketDataGrants := (addr.ssi, request) ::
              (scheduler.removePending addr.ssi).pendingPacketDataGrants }
          keyed asks shortfall_half rfl
        refine ⟨keyed', fun issi elsewhere => (lookup issi).trans (if_neg elsewhere),
          fun other on' _ => ?_⟩
        rw [reported, if_neg missing, ← some.inj (on.symm.trans on')]
        exact (lookup addr.ssi).trans (if_pos rfl)

/-! ### Requests that reserve -/

/-- Slots are reserved for one terminal, and nothing changes of what waits. -/
structure Reserves (scheduler after : BsChannelScheduler) (ssi : Nat) : Prop where
  pending : after.pendingPacketDataGrants = scheduler.pendingPacketDataGrants
  granted : ∃ new, after.granted = scheduler.granted ++ new ∧ ∀ grant ∈ new, grant.ssi = ssi

theorem Reserves.refl (scheduler : BsChannelScheduler) (ssi : Nat) : scheduler.Reserves scheduler ssi :=
  ⟨rfl, [], (append_nil _).symm, nofun⟩

theorem Reserves.reserved_other (reserves : scheduler.Reserves after ssi) (other : issi ≠ ssi) :
    after.reserved issi = scheduler.reserved issi := by
  obtain ⟨new, granted, own⟩ := reserves.granted
  unfold reserved
  rw [granted, countP_append, add_eq_left, countP_eq_zero]
  intro grant member here
  exact other ((of_decide_eq_true here).symm.trans (own grant member))

variable {schedule next : UplinkSchedule} {subslot number : Nat}

theorem reserveSlot_granted {ts : TdmaTime}
    (reserved : schedule.reserveSlot ssi isHalfslot subslot ts = .ok (next, number)) :
    ∃ block, next.granted = schedule.granted ++ [⟨ssi, ts, block⟩] := by
  unfold reserveSlot at reserved
  dsimp only at reserved
  split at reserved
  · split at reserved
    · cases reserved
      exact ⟨.block1, rfl⟩
    · obtain ⟨_, _, reserved⟩ := bind_eq_ok.mp reserved
      cases reserved
      exact ⟨.block2, rfl⟩
  · obtain ⟨_, _, reserved⟩ := bind_eq_ok.mp reserved
    obtain ⟨_, _, reserved⟩ := bind_eq_ok.mp reserved
    cases reserved
    exact ⟨.both, rfl⟩

theorem reserveSlots_granted
    {slots : List TdmaTime}
    (reserved : schedule.reserveSlots ssi isHalfslot subslot slots = .ok (next, number)) :
    ∃ new, next.granted = schedule.granted ++ new ∧ new.length = slots.length ∧
      ∀ grant ∈ new, grant.ssi = ssi := by
  induction slots generalizing schedule subslot with
  | nil =>
    cases reserved
    exact ⟨[], (append_nil _).symm, rfl, nofun⟩
  | cons ts rest ih =>
    obtain ⟨⟨booked, half⟩, first, reserved⟩ := bind_eq_ok.mp reserved
    obtain ⟨block, noted⟩ := reserveSlot_granted first
    obtain ⟨new, granted, length, own⟩ := ih reserved
    refine ⟨⟨ssi, ts, block⟩ :: new, ?_, ?_, fun grant member => ?_⟩
    · rw [granted, noted, append_assoc]
      rfl
    · rw [length_cons, length_cons, length]
    · rcases mem_cons.mp member with rfl | later
      · rfl
      · exact own grant later

/-- **A turn reserves its slots for the terminal.** -/
theorem grantTurn_reserves {turn : Turn} {grant : BasicSlotgrant}
    (granted : scheduler.grantTurn ssi isHalfslot turn = .ok (after, grant)) :
    scheduler.Reserves after ssi ∧
      after.reserved ssi = scheduler.reserved ssi + turn.slots.length := by
  obtain ⟨⟨next, subslot⟩, reserving, rest⟩ := bind_eq_ok.mp granted
  obtain ⟨_, _, result⟩ := bind_eq_ok.mp rest
  cases result
  unfold ulReserveGrant at reserving
  split at reserving
  · cases reserving
  · obtain ⟨_, _, reserving⟩ := bind_eq_ok.mp reserving
    obtain ⟨⟨schedule, number⟩, written, result⟩ := bind_eq_ok.mp reserving
    cases result
    obtain ⟨new, noted, length, own⟩ := reserveSlots_granted written
    have account {after : BsChannelScheduler}
        (pending : after.pendingPacketDataGrants = scheduler.pendingPacketDataGrants)
        (granted : after.granted = schedule.granted) :
        scheduler.Reserves after ssi ∧
          after.reserved ssi = scheduler.reserved ssi + turn.slots.length := by
      refine ⟨⟨pending, new, granted.trans noted, own⟩, ?_⟩
      have counted : new.countP (·.ssi = ssi) = new.length :=
        countP_eq_length.mpr fun grant member => decide_eq_true (own grant member)
      unfold reserved
      rw [granted, noted, countP_append, counted, length]
    split
    · exact account rfl rfl
    · exact account rfl rfl

theorem grantIfAny_reserves {turn : Option Turn}
    (granted : scheduler.grantIfAny ssi isHalfslot turn = .ok (after, grant)) :
    scheduler.Reserves after ssi := by
  cases turn with
  | none =>
    cases granted
    exact .refl scheduler ssi
  | some turn =>
    obtain ⟨⟨next, _⟩, announced, result⟩ := bind_eq_ok.mp granted
    cases result
    exact (grantTurn_reserves announced).1

theorem associatedFn18CapReq_reserves {target : TdmaTime}
    (granted : scheduler.associatedFn18CapReq target addr resReq = .ok (after, grant)) :
    scheduler.Reserves after addr.ssi := by
  obtain ⟨⟨schedule, _⟩, reserved, result⟩ := bind_eq_ok.mp granted
  cases result
  obtain ⟨elem, grants, rfl, -, own⟩ := ulProcessAssociatedFn18CapReq_spec reserved
  exact ⟨rfl, grants, rfl, fun grant member => (own grant member).2.2⟩

theorem ulProcessCapReqAfter_reserves {timeslot minimumDelay : Nat}
    (performed : scheduler.ulProcessCapReqAfter timeslot addr resReq minimumDelay =
      .ok (after, grant)) : scheduler.Reserves after addr.ssi := by
  unfold ulProcessCapReqAfter at performed
  split at performed
  · exact associatedFn18CapReq_reserves performed
  · obtain ⟨turn, -, granted⟩ := bind_eq_ok.mp performed
    exact grantIfAny_reserves granted

theorem ulProcessPacketDataCapReqAt_reserves {continuesFragment : Bool}
    (performed : scheduler.ulProcessPacketDataCapReqAt requestTime addr resReq continuesFragment =
      .ok (after, grant)) : scheduler.Reserves after addr.ssi := by
  obtain ⟨turn, -, granted⟩ := bind_eq_ok.mp performed
  exact grantIfAny_reserves granted

end BsChannelScheduler

/-- The terminal that a request is about, if slots may be reserved for it at once. -/
def UplinkRequest.reservesFor : UplinkRequest → Option Nat
  | .capReq _ addr _ | .fragmentCapReq _ addr _ | .capReqAfter _ addr _ _ | .prepareAck _ addr
  | .prepareAckAt addr | .associatedCapReq addr _ => some addr.ssi
  | _ => none

namespace BsChannelScheduler

variable {scheduler after : BsChannelScheduler} {issi : Nat}

/-- **A request that reserves at once reserves for its terminal.** -/
theorem perform_reserves {request : UplinkRequest} {ssi : Nat}
    (own : request.reservesFor = some ssi) (performed : scheduler.perform request = .ok after) :
    scheduler.Reserves after ssi := by
  cases request with
  | capReq timeslot addr resReq =>
    cases own
    obtain ⟨grant, served⟩ := map_fst_eq_ok.mp performed
    unfold ulProcessCapReq at served
    split at served
    · exact ulProcessPacketDataCapReqAt_reserves served
    · exact ulProcessCapReqAfter_reserves served
  | fragmentCapReq timeslot addr resReq =>
    cases own
    obtain ⟨grant, served⟩ := map_fst_eq_ok.mp performed
    unfold ulProcessFragmentCapReq at served
    split at served
    · exact ulProcessPacketDataCapReqAt_reserves served
    · exact ulProcessCapReqAfter_reserves served
  | capReqAfter timeslot addr resReq minimumDelay =>
    cases own
    obtain ⟨grant, served⟩ := map_fst_eq_ok.mp performed
    exact ulProcessCapReqAfter_reserves served
  | prepareAck timeslot addr =>
    cases own
    obtain ⟨grant, served⟩ := map_fst_eq_ok.mp performed
    unfold ulPrepareAssociatedBasicLinkAckGrant at served
    split at served
    · cases served
      exact .refl scheduler _
    · exact associatedFn18CapReq_reserves served
  | prepareAckAt addr =>
    cases own
    obtain ⟨grant, served⟩ := map_fst_eq_ok.mp performed
    unfold ulPrepareAssociatedBasicLinkAckGrantAt at served
    split at served
    · cases served
      exact .refl scheduler _
    · exact associatedFn18CapReq_reserves served
  | associatedCapReq addr resReq =>
    cases own
    obtain ⟨grant, served⟩ := map_fst_eq_ok.mp performed
    exact associatedFn18CapReq_reserves served
  | _ => cases own

/-! ### A turn -/

theorem largestTurn_capacity {reference : TdmaTime} {timeslot : Nat} {isHalfslot : Bool}
    {capacities : List Nat} {turn : Turn}
    (found : scheduler.largestTurn reference timeslot isHalfslot capacities = .ok (some turn)) :
    turn.capacity ∈ capacities ∧ turn.slots.length = turn.capacity := by
  induction capacities with
  | nil => cases found
  | cons capacity smaller ih =>
    obtain ⟨offer, searched, result⟩ := bind_eq_ok.mp found
    cases offer with
    | none => exact (ih result).imp_left (mem_cons_of_mem capacity)
    | some offer =>
      obtain ⟨-, length, -⟩ := ulFindGrantOpportunityFrom_spec searched
      dsimp only at result
      split at result
      · exact (ih result).imp_left (mem_cons_of_mem capacity)
      · cases ok.inj result
        exact ⟨mem_cons_self, length⟩

variable {queues : PacketDataDownlink} {downlink : TdmaTime} {request : PendingPacketDataGrant}

/-- **A turn has slots, and not more than the request asks for.** -/
theorem packetDataTurn_capacity {turn : Turn} (asks : 0 < request.remainingSlots)
    (found : scheduler.packetDataTurn queues downlink request = .ok (some turn)) :
    0 < turn.capacity ∧ turn.capacity ≤ request.remainingSlots ∧
      turn.slots.length = turn.capacity := by
  unfold packetDataTurn at found
  split at found
  · cases found
  · obtain ⟨listed, length⟩ := largestTurn_capacity found
    unfold candidateCapacities at listed
    split at listed
    · rw [mem_singleton.mp listed]
      exact ⟨one_pos, asks, (mem_singleton.mp listed) ▸ length⟩
    · obtain ⟨exact', fits⟩ := mem_filter.mp listed
      refine ⟨?_, ?_, length⟩
      · rw [mem_reverse] at exact'
        have positive : ∀ capacity ∈ EXACT_BASIC_SLOT_GRANT_CAPACITIES, 0 < capacity := by decide
        exact positive _ exact'
      · have := of_decide_eq_true fits
        omega

def rest (request : PendingPacketDataGrant) (capacity : Nat) : Option PendingPacketDataGrant :=
  if request.remainingSlots ≤ capacity then none
  else some { request with remainingSlots := request.remainingSlots - capacity }

/-- The requests after one of them had its turn. -/
theorem settlePending_pendingOf {capacity : Nat} (keyed : scheduler.Keyed)
    (pending : scheduler.pendingOf request.addr.ssi = some request) (some' : 0 < capacity) :
    (scheduler.settlePending request capacity).Keyed ∧ ∀ issi,
      (scheduler.settlePending request capacity).pendingOf issi =
        if issi = request.addr.ssi then rest request capacity else scheduler.pendingOf issi := by
  have member := keyed.pendingOf_eq_some.mp pending
  have half : (request.isHalfslot || decide (request.remainingSlots ≤ capacity)) =
      decide (request.remainingSlots ≤ capacity) := by
    cases halved : request.isHalfslot with
    | false => rfl
    | true =>
      have := keyed.half _ member halved
      exact (decide_eq_true (this.trans_le some')).symm
  unfold settlePending rest
  rw [half]
  by_cases covered : request.remainingSlots ≤ capacity
  · rw [if_pos (decide_eq_true covered), if_pos covered]
    have rotated : ({ scheduler with
        packetGrantRoundRobinAfter := some request.addr.ssi } : BsChannelScheduler).Keyed :=
      keyed.of_eq rfl
    refine ⟨removePending_keyed rotated _, fun issi => ?_⟩
    exact removePending_pendingOf rotated _ issi
  · rw [if_neg (by simpa using covered)]
    let lower (entry : Nat × PendingPacketDataGrant) : Nat × PendingPacketDataGrant :=
      if entry.1 = request.addr.ssi then
        (entry.1, { entry.2 with remainingSlots := entry.2.remainingSlots - capacity })
      else entry
    have key (entry : Nat × PendingPacketDataGrant) : (lower entry).1 = entry.1 := by
      unfold lower
      split <;> rfl
    have single {entry : Nat × PendingPacketDataGrant}
        (there : entry ∈ scheduler.pendingPacketDataGrants)
        (here : entry.1 = request.addr.ssi) : entry = (request.addr.ssi, request) :=
      inj_on_of_nodup_map keyed.distinct there member here
    have lowered {entry : Nat × PendingPacketDataGrant}
        (there : entry ∈ scheduler.pendingPacketDataGrants) : lower entry =
          if entry.1 = request.addr.ssi then (request.addr.ssi,
            { request with remainingSlots := request.remainingSlots - capacity }) else entry := by
      unfold lower
      split
      next here =>
        rw [single there here]
      · rfl
    have after : Keyed { scheduler with
        packetGrantRoundRobinAfter := some request.addr.ssi
        pendingPacketDataGrants := scheduler.pendingPacketDataGrants.map lower } := by
      refine ⟨?_, fun entry listed => ?_, fun entry listed => ?_, fun entry listed halved => ?_⟩
      · have keys : (scheduler.pendingPacketDataGrants.map lower).map (·.1) =
            scheduler.pendingPacketDataGrants.map (·.1) := by
          rw [List.map_map]
          exact map_congr_left fun entry _ => key entry
        rw [keys]
        exact keyed.distinct
      · obtain ⟨before, there, rfl⟩ := mem_map.mp listed
        rw [lowered there]
        split
        · rfl
        · exact keyed.named before there
      · obtain ⟨before, there, rfl⟩ := mem_map.mp listed
        rw [lowered there]
        split
        · exact Nat.sub_pos_of_lt (Nat.lt_of_not_le covered)
        · exact keyed.asks before there
      · obtain ⟨before, there, rfl⟩ := mem_map.mp listed
        rw [lowered there] at halved ⊢
        split at halved
        · exact absurd ((keyed.half _ member halved).trans_le some') covered
        next elsewhere =>
          rw [if_neg elsewhere]
          exact keyed.half before there halved
    refine ⟨after, fun issi => Option.ext fun other => ?_⟩
    rw [after.pendingOf_eq_some]
    split
    next here =>
      subst here
      constructor
      · intro listed
        obtain ⟨before, there, same⟩ := mem_map.mp listed
        have own : before.1 = request.addr.ssi := by
          rw [← key, same]
        rw [lowered there, if_pos own] at same
        rw [(Prod.mk.inj same).2]
      · intro same
        refine mem_map.mpr ⟨_, member, ?_⟩
        rw [lowered member, if_pos rfl, ← some.inj same]
    next elsewhere =>
      rw [keyed.pendingOf_eq_some]
      constructor
      · intro listed
        obtain ⟨before, there, same⟩ := mem_map.mp listed
        have other' : before.1 ≠ request.addr.ssi := by
          rw [← key, same]
          exact elsewhere
        rw [lowered there, if_neg other'] at same
        exact same ▸ there
      · intro there
        refine mem_map.mpr ⟨_, there, ?_⟩
        rw [lowered there, if_neg elsewhere]

/-! ### Whose turn it is -/

/-- A request that may have its turn in this downlink slot. -/
def isReady (scheduler : BsChannelScheduler) (queues : PacketDataDownlink) (downlink : TdmaTime)
    (request : PendingPacketDataGrant) : Bool :=
  downlink.f ≠ 18 && scheduler.packetBearerForTimeslot downlink.t = some request.bearer &&
    !scheduler.drainingPacketBearers.contains request.bearer &&
    scheduler.packetDataGrantReadyAt request downlink &&
    queues.randomAccessAckAllowsSlot request.addr.ssi downlink.t &&
    (request.continuesFragment || !queues.hasPendingAdvancedLinkAckRequest request.addr.ssi)

/-- **The order of turns**: continued fragments first, then the terminals after the one that was
served last, then the others, each by their number. -/
def goesFirst (last : Option Nat) (first second : PendingPacketDataGrant) : Prop :=
  if first.continuesFragment = second.continuesFragment then
    if last.all (· < first.addr.ssi) = last.all (· < second.addr.ssi) then
      first.addr.ssi ≤ second.addr.ssi
    else last.all (· < first.addr.ssi) = true
  else first.continuesFragment = true

theorem comesBefore_trans (first second third : PendingPacketDataGrant)
    (here : comesBefore first second = true) (there : comesBefore second third = true) :
    comesBefore first third = true := by
  unfold comesBefore at *
  grind

theorem comesBefore_total (first second : PendingPacketDataGrant) :
    (comesBefore first second || comesBefore second first) = true := by
  unfold comesBefore
  grind

/-- The requests that are ready, in the order of their priority and number. -/
def readyRequests (scheduler : BsChannelScheduler) (queues : PacketDataDownlink)
    (downlink : TdmaTime) : List PendingPacketDataGrant :=
  ((scheduler.pendingPacketDataGrants.map (·.2)).filter
    (scheduler.isReady queues downlink)).mergeSort comesBefore

theorem mem_readyRequests : request ∈ scheduler.readyRequests queues downlink ↔
      (∃ key, (key, request) ∈ scheduler.pendingPacketDataGrants) ∧
        scheduler.isReady queues downlink request = true := by
  unfold readyRequests
  rw [List.mem_mergeSort, List.mem_filter, List.mem_map]
  refine and_congr_left fun _ => ⟨?_, ?_⟩
  · rintro ⟨⟨key, _⟩, member, rfl⟩
    exact ⟨key, member⟩
  · rintro ⟨key, member⟩
    exact ⟨_, member, rfl⟩

/-- The first request of the highest priority after the terminal that was served last. -/
theorem nextPacketDataRequest_eq (queues : PacketDataDownlink) (downlink : TdmaTime) :
    scheduler.nextPacketDataRequest queues downlink =
      (scheduler.readyRequests queues downlink).head?.map fun best =>
        (scheduler.packetGrantRoundRobinAfter.bind fun after =>
          ((scheduler.readyRequests queues downlink).filter
            (·.continuesFragment = best.continuesFragment)).find? (after < ·.addr.ssi)).getD
          best := by
  have nobody (refused : ∀ request, scheduler.isReady queues downlink request = false) :
      scheduler.readyRequests queues downlink = [] := by
    refine eq_nil_iff_forall_not_mem.mpr fun request member => ?_
    have ready := (mem_readyRequests.mp member).2
    rw [refused] at ready
    cases ready
  unfold nextPacketDataRequest
  by_cases last : downlink.f = 18
  · rw [if_pos last, nobody fun request => by simp [isReady, last]]
    rfl
  · rw [if_neg last]
    cases on : scheduler.packetBearerForTimeslot downlink.t with
    | none =>
      rw [nobody fun request => by simp [isReady, on]]
      rfl
    | some bearer =>
      rw [bind_eq_bind, bind_some]
      by_cases draining : bearer ∈ scheduler.drainingPacketBearers
      · rw [if_pos draining, nobody fun request => by grind [isReady]]
        rfl
      · have candidates : scheduler.readyRequests queues downlink =
            ((scheduler.pendingPacketDataGrants.map (·.2)).filter fun request =>
              request.bearer = bearer && scheduler.packetDataGrantReadyAt request downlink &&
                queues.randomAccessAckAllowsSlot request.addr.ssi downlink.t &&
                (request.continuesFragment ||
                  !queues.hasPendingAdvancedLinkAckRequest request.addr.ssi)).mergeSort
              comesBefore := by
          unfold readyRequests
          unfold isReady
          grind
        rw [if_neg draining, ← candidates]
        generalize scheduler.readyRequests queues downlink = ready
        cases ready <;> rfl

/-- **The next request is ready, and goes before every other one that is.** -/
theorem nextPacketDataRequest_spec {chosen : PendingPacketDataGrant}
    (next : scheduler.nextPacketDataRequest queues downlink = some chosen) :
    chosen ∈ scheduler.readyRequests queues downlink ∧
      ∀ other ∈ scheduler.readyRequests queues downlink,
        goesFirst scheduler.packetGrantRoundRobinAfter chosen other := by
  rw [nextPacketDataRequest_eq] at next
  have sorted : (scheduler.readyRequests queues downlink).Pairwise (comesBefore · · = true) :=
    pairwise_mergeSort comesBefore_trans comesBefore_total _
  generalize scheduler.readyRequests queues downlink = candidates at next sorted ⊢
  cases candidates with
  | nil => cases next
  | cons best rest =>
    cases next
    obtain ⟨first, ordered⟩ := pairwise_cons.mp sorted
    have best_first (other : PendingPacketDataGrant) (listed : other ∈ best :: rest) :
        comesBefore best other = true := by
      rcases mem_cons.mp listed with rfl | later
      · simp [comesBefore]
      · exact first other later
    generalize scheduler.packetGrantRoundRobinAfter = last
    cases found : last.bind fun after => ((best :: rest).filter
        (·.continuesFragment = best.continuesFragment)).find? (after < ·.addr.ssi) with
    | none =>
      beta_reduce
      rw [found, getD_none]
      refine ⟨mem_cons_self, fun other listed => ?_⟩
      have before := best_first other listed
      unfold comesBefore at before
      unfold goesFirst
      split
      next same =>
        rw [if_pos same] at before
        -- Nobody with this priority comes after the one that was served last.
        have passed (request : PendingPacketDataGrant) (here : request ∈ best :: rest)
            (alike : request.continuesFragment = best.continuesFragment) :
            last.all (· < request.addr.ssi) = last.isNone := by
          cases last with
          | none => rfl
          | some after =>
            have none' := find?_eq_none.mp found request
              (mem_filter.mpr ⟨here, decide_eq_true alike⟩)
            simpa using none'
        rw [passed best mem_cons_self rfl, passed other listed same.symm, if_pos rfl]
        exact of_decide_eq_true before
      next different =>
        rwa [if_neg different] at before
    | some chosen =>
      beta_reduce
      rw [found, getD_some]
      obtain ⟨after, rfl, found⟩ := bind_eq_some_iff.mp found
      obtain ⟨behind, earlier, later, parts, none'⟩ := find?_eq_some_iff_append.mp found
      obtain ⟨here, alike⟩ := mem_filter.mp (mem_of_find?_eq_some found)
      have alike := of_decide_eq_true alike
      refine ⟨here, fun other listed => ?_⟩
      unfold goesFirst
      split
      next same =>
        split
        next passed =>
          have behind' : after < other.addr.ssi := by
            rw [all_some, behind] at passed
            exact of_decide_eq_true passed.symm
          have ordered' := sorted.filter (·.continuesFragment = best.continuesFragment)
          have listed' : other ∈ earlier ++ chosen :: later := by
            rw [← parts]
            exact mem_filter.mpr ⟨listed, decide_eq_true (same.symm.trans alike)⟩
          rw [parts] at ordered'
          rcases mem_append.mp listed' with before | chosen_or_later
          · have := none' other before
            simp [behind'] at this
          · rcases mem_cons.mp chosen_or_later with rfl | afterwards
            · exact le_rfl
            · have := (pairwise_cons.mp (pairwise_append.mp ordered').2.1).1 other afterwards
              unfold comesBefore at this
              rw [if_pos same] at this
              exact of_decide_eq_true this
        · exact behind
      next different =>
        have before := best_first other listed
        unfold comesBefore at before
        rw [← alike, if_neg different] at before
        exact before

theorem nextPacketDataRequest_isSome (ready : request ∈ scheduler.readyRequests queues downlink) :
    ∃ chosen, scheduler.nextPacketDataRequest queues downlink = some chosen := by
  rw [nextPacketDataRequest_eq]
  cases candidates : scheduler.readyRequests queues downlink with
  | nil =>
    rw [candidates] at ready
    cases ready
  | cons best rest => exact ⟨_, rfl⟩

/-- **A turn moves slots of the next request from what waits to what is reserved**, or there is no
next request, or no slots for it. -/
theorem scheduleReady_cases {answer : Option (TetraAddress × BasicSlotgrant)}
    (keyed : scheduler.Keyed)
    (performed : scheduler.scheduleReadyPacketDataGrant queues downlink = .ok (after, answer)) :
    (after = scheduler ∧ ∀ request turn,
      scheduler.nextPacketDataRequest queues downlink = some request →
      scheduler.packetDataTurn queues downlink request ≠ .ok (some turn)) ∨
    ∃ request capacity, scheduler.nextPacketDataRequest queues downlink = some request ∧
      scheduler.pendingOf request.addr.ssi = some request ∧ 0 < capacity ∧
      capacity ≤ request.remainingSlots ∧ after.Keyed ∧
      (∀ issi, after.pendingOf issi =
        if issi = request.addr.ssi then rest request capacity else scheduler.pendingOf issi) ∧
      ∀ issi, after.reserved issi =
        if issi = request.addr.ssi then scheduler.reserved issi + capacity
        else scheduler.reserved issi := by
  unfold scheduleReadyPacketDataGrant at performed
  cases chosen : scheduler.nextPacketDataRequest queues downlink with
  | none =>
    rw [chosen] at performed
    exact .inl ⟨(Prod.mk.inj (ok.inj performed)).1.symm, nofun⟩
  | some request =>
    rw [chosen] at performed
    obtain ⟨turn, search, performed⟩ := bind_eq_ok.mp performed
    cases turn with
    | none =>
      refine .inl ⟨(Prod.mk.inj (ok.inj performed)).1.symm, fun other turn same => ?_⟩
      cases same
      rw [search]
      nofun
    | some turn =>
      obtain ⟨⟨granted, _⟩, announced, result⟩ := bind_eq_ok.mp performed
      cases result
      obtain ⟨⟨key, member⟩, -⟩ := mem_readyRequests.mp (nextPacketDataRequest_spec chosen).1
      have named : request.addr.ssi = key := keyed.named _ member
      subst named
      have pending := keyed.pendingOf_eq_some.mpr member
      obtain ⟨some', fits, length⟩ := packetDataTurn_capacity (keyed.asks _ member) search
      obtain ⟨reserves, counted⟩ := grantTurn_reserves announced
      have same (issi : Nat) := pendingOf_of_eq reserves.pending issi
      obtain ⟨keyed', settled⟩ := settlePending_pendingOf (keyed.of_eq reserves.pending)
        ((same _).trans pending) some'
      refine .inr ⟨request, turn.capacity, rfl, pending, some', fits, keyed', fun issi => ?_,
        fun issi => ?_⟩
      · rw [settled, same]
      · rw [reserved_of_eq (congrArg UplinkSchedule.granted settlePending_schedule)]
        split
        next here =>
          rw [here, counted, length]
        next elsewhere =>
          exact reserves.reserved_other elsewhere

end BsChannelScheduler

/-! ### The account of a terminal -/

namespace UplinkRequest

def reports (issi : Nat) : UplinkRequest → Bool
  | .queueCapacityRequest _ addr _ _ => addr.ssi = issi
  | _ => false

/-- The request takes back what waits for the terminal on a bearer. -/
def takesBack (issi : Nat) (bearer : Nat × Nat) : UplinkRequest → Bool
  | .clearPendingCapacity ssi | .detachPacketDataTerminal ssi => ssi = issi
  | .openPacketBearer bearerId generation _ => bearer.1 = bearerId && bearer.2 ≠ generation
  | .closePacketBearer bearerId generation | .setPacketBearerDraining bearerId generation =>
    bearer = (bearerId, generation)
  | _ => false

end UplinkRequest

namespace UplinkEvent

def reports (issi : Nat) : UplinkEvent → Bool
  | .request asked => asked.reports issi
  | _ => false

def takesBack (issi : Nat) (bearer : Nat × Nat) : UplinkEvent → Bool
  | .request asked => asked.takesBack issi bearer
  | _ => false

/-- A report of the terminal, or a request that reserves for it at once. -/
def isFor (issi : Nat) : UplinkEvent → Bool
  | .request asked => asked.reports issi || asked.reservesFor = some issi
  | _ => false

end UplinkEvent

namespace UplinkState

def pendingOf (state : UplinkState) (issi : Nat) : Option PendingPacketDataGrant :=
  state.scheduler.pendingOf issi

def remaining (state : UplinkState) (issi : Nat) : Nat := state.scheduler.remaining issi

def reserved (state : UplinkState) (issi : Nat) : Nat := state.scheduler.reserved issi

/-- **What an event does to the account of a terminal.** -/
inductive Account (state next : UplinkState) (issi : Nat) : UplinkEvent → Prop
  | idle {event : UplinkEvent} (pending : next.pendingOf issi = state.pendingOf issi)
      (reserved : next.reserved issi ≤ state.reserved issi) : Account state next issi event
  | direct {request : UplinkRequest} (own : request.reservesFor = some issi)
      (pending : next.pendingOf issi = state.pendingOf issi) :
      Account state next issi (.request request)
  | report {request : UplinkRequest} (own : request.reports issi = true)
      (reserved : next.reserved issi = state.reserved issi) :
      Account state next issi (.request request)
  | takenBack {request : UplinkRequest} {pending : PendingPacketDataGrant}
      (waits : state.pendingOf issi = some pending)
      (back : request.takesBack issi pending.bearer = true) (gone : next.pendingOf issi = none)
      (reserved : next.reserved issi = state.reserved issi) :
      Account state next issi (.request request)
  | turn {queues : PacketDataDownlink} {pending : PendingPacketDataGrant} {capacity : Nat}
      (waits : state.pendingOf issi = some pending)
      (chosen : state.scheduler.nextPacketDataRequest queues
        (state.scheduler.curDltime.addTimeslots 1) = some pending)
      (some' : 0 < capacity) (fits : capacity ≤ pending.remainingSlots)
      (left : next.pendingOf issi = BsChannelScheduler.rest pending capacity)
      (reserved : next.reserved issi = state.reserved issi + capacity) :
      Account state next issi (.request (.scheduleReadyGrant queues))

open BsChannelScheduler

variable {request : UplinkRequest}

theorem account_retain {state : UplinkState} {issi : Nat} {after : BsChannelScheduler}
    (keyed : state.scheduler.Keyed) (keep : PendingPacketDataGrant → Bool)
    (back : ∀ pending, keep pending = false → request.takesBack issi pending.bearer = true)
    (pending : after.pendingPacketDataGrants =
      (state.scheduler.retainPending keep).pendingPacketDataGrants)
    (granted : after.granted = state.scheduler.granted) :
    Account state { state with scheduler := after } issi (.request request) := by
  have lookup : after.pendingOf issi = (state.scheduler.pendingOf issi).filter keep := by
    rw [pendingOf_of_eq pending, retainPending_pendingOf keyed]
  have same : after.reserved issi = state.scheduler.reserved issi := reserved_of_eq granted issi
  cases waits : state.scheduler.pendingOf issi with
  | none =>
    rw [waits] at lookup
    exact .idle (lookup.trans waits.symm) same.le
  | some request =>
    rw [waits] at lookup
    cases kept : keep request with
    | true =>
      rw [filter_some, if_pos kept] at lookup
      exact .idle (lookup.trans waits.symm) same.le
    | false =>
      rw [filter_some, if_neg (Bool.eq_false_iff.mp kept)] at lookup
      exact .takenBack waits (back request kept) lookup same

theorem account_remove {state : UplinkState} {issi ssi : Nat} (keyed : state.scheduler.Keyed)
    (back : ∀ bearer, ssi = issi → request.takesBack issi bearer = true) :
    Account state { state with scheduler := state.scheduler.removePending ssi } issi
      (.request request) := by
  have lookup := removePending_pendingOf keyed ssi issi
  by_cases here : issi = ssi
  · rw [if_pos here] at lookup
    cases waits : state.scheduler.pendingOf issi with
    | none => exact .idle (lookup.trans waits.symm) le_rfl
    | some pending => exact .takenBack waits (back _ here.symm) lookup rfl
  · rw [if_neg here] at lookup
    exact .idle lookup le_rfl

theorem setCircuit_around {scheduler after : BsChannelScheduler} {dir : Direction} {ts : Nat}
    {circuit : Bool} (changed : scheduler.setCircuit dir ts circuit = .ok after) :
    after.pendingPacketDataGrants = scheduler.pendingPacketDataGrants ∧
      after.granted = scheduler.granted := by
  cases dir with
  | dl | ul =>
    rw [← ok.inj changed]
    exact ⟨rfl, rfl⟩
  | none | both => cases changed

theorem request_spec {state next : UplinkState}
    (stepped : uplinkMachine.step state (.request request) = some next) :
    ∃ scheduler, state.scheduler.perform request = .ok scheduler ∧
      next = { state with scheduler := scheduler } := by
  dsimp only [uplinkMachine, UplinkState.step] at stepped
  split at stepped
  · cases performed : state.scheduler.perform request with
    | error fault =>
      rw [performed] at stepped
      cases stepped
    | ok scheduler =>
      rw [performed] at stepped
      exact ⟨scheduler, rfl, (some.inj stepped).symm⟩
  · cases stepped

variable {event : UplinkEvent}

/-- **Every event, in the account of every terminal.** -/
theorem account_step {state next : UplinkState}
    (keyed : state.scheduler.Keyed) (stepped : state.step event = some next) :
    next.scheduler.Keyed ∧ ∀ issi, Account state next issi event := by
  cases event with
  | finalize =>
    obtain ⟨-, finished⟩ := ite_none_left_eq_some.mp stepped
    cases finished
    refine ⟨keyed.of_eq rfl, fun issi => .idle rfl ?_⟩
    exact (filter_sublist).countP_le
  | tickStart =>
    obtain ⟨-, begun⟩ := ite_none_right_eq_some.mp stepped
    cases begun
    exact ⟨keyed.of_eq rfl, fun issi => .idle rfl le_rfl⟩
  | request request =>
    obtain ⟨after, performed, rfl⟩ := request_spec stepped
    cases own : request.reservesFor with
    | some ssi =>
      have reserves := perform_reserves own performed
      refine ⟨keyed.of_eq reserves.pending, fun issi => ?_⟩
      by_cases here : issi = ssi
      · exact .direct (here ▸ own) (pendingOf_of_eq reserves.pending issi)
      · exact .idle (pendingOf_of_eq reserves.pending issi) (reserves.reserved_other here).le
    | none =>
      cases request with
      | queueCapacityRequest requestTime addr resReq continuesFragment =>
        cases performed
        obtain ⟨keyed', elsewhere, -⟩ := queuePacketDataCapacityRequest_spec keyed
          requestTime addr resReq continuesFragment
        have schedule : (state.scheduler.queuePacketDataCapacityRequest requestTime addr
            resReq continuesFragment).1.toUplinkSchedule = state.scheduler.toUplinkSchedule :=
          queuePacketDataCapacityRequest_schedule
        have granted (issi : Nat) := reserved_of_eq (congrArg UplinkSchedule.granted schedule) issi
        refine ⟨keyed', fun issi => ?_⟩
        by_cases here : issi = addr.ssi
        · exact .report (decide_eq_true here.symm) (granted issi)
        · exact .idle (elsewhere issi here) (granted issi).le
      | clearPendingCapacity ssi =>
        cases performed
        exact ⟨removePending_keyed keyed ssi, fun issi =>
          account_remove keyed fun _ here => decide_eq_true here⟩
      | detachPacketDataTerminal ssi =>
        cases performed
        exact ⟨removePending_keyed keyed ssi, fun issi =>
          account_remove keyed fun _ here => decide_eq_true here⟩
      | scheduleReadyGrant queues =>
        obtain ⟨grant, served⟩ := map_fst_eq_ok.mp performed
        rcases scheduleReady_cases keyed served with
          ⟨rfl, -⟩ | ⟨request, capacity, chosen, waits, some', fits, keyed', left, counted⟩
        · exact ⟨keyed, fun issi => .idle rfl le_rfl⟩
        · refine ⟨keyed', fun issi => ?_⟩
          by_cases here : issi = request.addr.ssi
          · subst here
            exact .turn waits chosen some' fits ((left _).trans (if_pos rfl))
              ((counted _).trans (if_pos rfl))
          · exact .idle ((left _).trans (if_neg here)) ((counted _).trans (if_neg here)).le
      | openPacketBearer bearerId generation bitmap =>
        cases performed
        unfold openPacketBearer
        split
        · exact ⟨keyed, fun issi => .idle rfl le_rfl⟩
        · refine ⟨keyed.sublist filter_sublist, fun issi =>
            account_retain keyed (fun pending =>
              pending.bearer.1 ≠ bearerId || pending.bearer.2 = generation)
              (fun pending removed => ?_) rfl rfl⟩
          simpa [UplinkRequest.takesBack] using removed
      | closePacketBearer bearerId generation =>
        cases performed
        unfold closePacketBearer
        split
        · exact ⟨keyed, fun issi => .idle rfl le_rfl⟩
        · refine ⟨keyed.sublist filter_sublist, fun issi =>
            account_retain keyed (fun pending => pending.bearer ≠ (bearerId, generation))
              (fun pending removed => ?_) rfl rfl⟩
          simpa [UplinkRequest.takesBack] using removed
      | setPacketBearerDraining bearerId generation =>
        cases performed
        unfold setPacketBearerDraining
        split
        · refine ⟨keyed.sublist filter_sublist, fun issi =>
            account_retain keyed (fun pending => pending.bearer ≠ (bearerId, generation))
              (fun pending removed => ?_) rfl rfl⟩
          simpa [UplinkRequest.takesBack] using removed
        · exact ⟨keyed, fun issi => .idle rfl le_rfl⟩
      | createCircuit dir ts =>
        obtain ⟨pending, granted⟩ := setCircuit_around performed
        exact ⟨keyed.of_eq pending, fun issi => .idle (pendingOf_of_eq pending issi)
          (reserved_of_eq granted issi).le⟩
      | closeCircuit dir ts =>
        obtain ⟨pending, granted⟩ := setCircuit_around performed
        exact ⟨keyed.of_eq pending, fun issi => .idle (pendingOf_of_eq pending issi)
          (reserved_of_eq granted issi).le⟩
      | setHangtime ts active =>
        cases performed
        unfold setHangtime
        split
        · exact ⟨keyed.of_eq rfl, fun issi => .idle rfl le_rfl⟩
        · exact ⟨keyed, fun issi => .idle rfl le_rfl⟩
      | _ => cases own

theorem keyed_of_reachable {state : UplinkState} (reachable : Reachable uplinkMachine always state) :
state.scheduler.Keyed := by
  refine reachable.invariant (fun first start => ?_) fun _ _ _ keyed _ stepped =>
(account_step keyed stepped).1
  obtain ⟨slot, rfl⟩ := start
  exact ⟨.nil, nofun, nofun, nofun⟩

variable {state later : UplinkState} {issi : Nat}

variable (keyed : state.scheduler.Keyed)

include keyed

/-- A step that is neither a report of the terminal nor a direct request of its adds nothing to
what it has and what it waits for. -/
theorem account_falls (other : event.isFor issi = false)
    (stepped : uplinkMachine.step state event = some later) :
    later.reserved issi + later.remaining issi ≤ state.reserved issi + state.remaining issi := by
  have remaining {pending : Option PendingPacketDataGrant} (here : later.pendingOf issi = pending) :
      later.remaining issi = pending.elim 0 remainingSlots :=
    congrArg (Option.elim · 0 remainingSlots) here
  cases (account_step keyed stepped).2 issi with
  | idle same reserved =>
    rw [remaining same]
    exact Nat.add_le_add_right reserved _
  | direct own => simp [UplinkEvent.isFor, own] at other
  | report own => simp [UplinkEvent.isFor, own] at other
  | takenBack waits back gone reserved =>
    rw [remaining gone, reserved]
    exact le_add_right _ _
  | turn waits chosen some' fits left reserved =>
    rename_i pending capacity
    have before : state.remaining issi = pending.remainingSlots :=
      congrArg (Option.elim · 0 remainingSlots) waits
    have after : later.remaining issi = pending.remainingSlots - capacity := by
      refine (remaining left).trans ?_
      unfold rest
      split
      next covered =>
        exact (Nat.sub_eq_zero_of_le covered).symm
      · rfl
    rw [before, after, reserved, add_assoc, add_sub_of_le fits]

theorem turn_given {queues : PacketDataDownlink} {chosen : PendingPacketDataGrant} {turn : Turn}
    (first : state.scheduler.nextPacketDataRequest queues
      (state.scheduler.curDltime.addTimeslots 1) = some chosen)
    (search : state.scheduler.packetDataTurn queues
      (state.scheduler.curDltime.addTimeslots 1) chosen = .ok (some turn))
    (stepped : uplinkMachine.step state (.request (.scheduleReadyGrant queues)) = some later) :
    state.reserved chosen.addr.ssi < later.reserved chosen.addr.ssi := by
  obtain ⟨scheduler, performed, rfl⟩ := request_spec stepped
  obtain ⟨answer, served⟩ := map_fst_eq_ok.mp performed
  rcases scheduleReady_cases keyed served with
    ⟨-, missing⟩ | ⟨request, capacity, next, -, some', -, -, -, counted⟩
  · exact absurd search (missing chosen turn first)
  · cases first.symm.trans next
    refine (Nat.lt_add_of_pos_right some').trans_eq ?_
    exact ((counted _).trans (if_pos rfl)).symm

/-- **Nothing is added to the account but by the terminal's own requests.** -/
theorem account_runs (run : Runs uplinkMachine (fun _ event => event.isFor issi = false) state later) :
    later.reserved issi + later.remaining issi ≤ state.reserved issi + state.remaining issi := by
  suffices kept : later.scheduler.Keyed ∧
      later.reserved issi + later.remaining issi ≤ state.reserved issi + state.remaining issi from
    kept.2
  apply run.invariant
  · rintro last event next ⟨keyed, bounded⟩ other stepped
    exact ⟨(account_step keyed stepped).1, (account_falls keyed other stepped).trans bounded⟩
  · exact ⟨keyed, le_rfl⟩

/-- **A terminal without a request has none until it reports.** -/
theorem unreported_runs (none' : state.pendingOf issi = none)
    (run : Runs uplinkMachine (fun _ event => event.reports issi = false) state later) :
    later.scheduler.Keyed ∧ later.pendingOf issi = none := by
  apply run.invariant _ ⟨keyed, none'⟩
  rintro last event next ⟨keyed, none'⟩ other stepped
  obtain ⟨keyed', account⟩ := account_step keyed stepped
  refine ⟨keyed', ?_⟩
  cases account issi with
  | idle pending => exact pending.trans none'
  | direct own pending => exact pending.trans none'
  | report own =>
    have reported : UplinkEvent.reports issi (.request _) = true := own
    cases other.symm.trans reported
  | takenBack waits => cases none'.symm.trans waits
  | turn waits => cases none'.symm.trans waits

end UplinkState

def anyTurn : PacketDataDownlink := ⟨fun _ _ => true, fun _ => false, fun _ => false⟩

def reportedTen : List UplinkEvent :=
  [.request (.openPacketBearer 30 1 0b1110),
    .request (.queueCapacityRequest (fromInt 5) ⟨1001, .issi⟩ .req10Slots false)]

def tenSlots : PendingPacketDataGrant :=
  ⟨⟨1001, .issi⟩, (30, 1), fromInt 5, 10, false, false⟩

end Bluestation
