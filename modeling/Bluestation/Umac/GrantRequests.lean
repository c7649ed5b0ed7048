/-
**Associated grant requests: the slots asked for are granted, in frame 18 or while the call hangs.**

A terminal on a traffic channel asks for slots. The request waits in the queue of frame 18, which grants
one slot at a time and queues the rest again; while the call hangs it waits among all control and is
granted at once.

* `Converts` — a requirement becomes a number of slots, and that a capacity to announce.
* `grant_requests_iff` — **over every run**, and which requirements convert.
-/

import Bluestation.Umac.EnergyEconomy
import Bluestation.Umac.Hangtime
import Bluestation.Umac.UplinkRequests

namespace Bluestation

open Machines List Option Function Except BsChannelScheduler ReservationRequirement

variable {Key : Type}

/-! ### Conversions -/

namespace ReservationRequirement

def fromReqSlotcount (req : Nat) : ReservationRequirement :=
  if req = 0 then req1Subslot
  else if req = 1 then req1Slot
  else if req = 2 then req2Slots
  else if req = 3 then req3Slots
  else if req = 4 then req4Slots
  else if req = 5 then req5Slots
  else if req = 6 then req6Slots
  else if req ≤ 8 then req8Slots
  else if req ≤ 10 then req10Slots
  else if req ≤ 13 then req13Slots
  else if req ≤ 17 then req17Slots
  else if req ≤ 24 then req24Slots
  else if req ≤ 34 then req34Slots
  else if req ≤ 51 then req51Slots
  else if req ≤ 68 then req68Slots
  else reqOver68

end ReservationRequirement

/-- The slots of a grant; half a slot counts as one. -/
def BasicSlotgrant.slots (grant : BasicSlotgrant) : Nat :=
  grant.capacityAllocation.toReqSlotcount.toOption.getD 1

/-- Neither conversion panics, and no fewer slots are announced than required. -/
def ReservationRequirement.Converts (resReq : ReservationRequirement) : Prop :=
  ∃ count, requestedCapacity resReq = .ok count ∧ ∀ subslot, subslot = 1 ∨ subslot = 2 →
    ∃ allocation, BsChannelScheduler.announcedCapacity (resReq = .req1Subslot) subslot count =
      .ok allocation ∧ count ≤ BasicSlotgrant.slots ⟨allocation, .capAllocAtNextOpportunity⟩

/-! ### The queues -/

/-- A request for slots, and how many of them are still to be granted. -/
structure SlotRequest where
  addr : TetraAddress
  resReq : ReservationRequirement
  remaining : Nat

namespace DlSchedElem

def ofRequest (request : SlotRequest) : DlSchedElem Key :=
  associatedGrantRequest request.addr request.resReq request.remaining

def slotRequest : DlSchedElem Key → Option SlotRequest
  | associatedGrantRequest addr resReq remaining => some ⟨addr, resReq, remaining⟩
  | _ => none

def isGrantOrAck : DlSchedElem Key → Bool
  | grant .. | randomAccessAck .. | associatedGrantRequest .. => true
  | _ => false

def amend (change : MacResource → MacResource) : DlSchedElem Key → DlSchedElem Key
  | resource pdu sdu txReporter aieRequest packetDataSlots =>
    resource (change pdu) sdu txReporter aieRequest packetDataSlots
  | elem => elem

/-- Take the first request. -/
def takeRequest : List (DlSchedElem Key) → Option (SlotRequest × List (DlSchedElem Key))
  | [] => none
  | elem :: rest =>
    match elem.slotRequest with
    | some request => some (request, rest)
    | none => (takeRequest rest).map fun (request, left) => (request, elem :: left)

end DlSchedElem

def MacResource.dlMakeMinimalResource (addr : TetraAddress) (grant : Option BasicSlotgrant)
    (randomAccessAck : Bool) : Except Fault MacResource :=
  { randomAccessFlag := randomAccessAck, addr := some addr,
    slotGrantingElement := grant : MacResource }.updateLenAndFillInd 0

namespace DownlinkScheduler

open DlSchedElem

variable (scheduler : DownlinkScheduler Key)

/-- Both queues of a timeslot are replaced. -/
def setQueues (index : Nat) (facch sacch : List (DlSchedElem Key)) : DownlinkScheduler Key :=
  { scheduler with
    dltxQueues := Function.update scheduler.dltxQueues index facch
    assocDltxQueues := Function.update scheduler.assocDltxQueues index sacch }

variable (timeslot : Nat)

def dlEnqueueAssociatedGrantRequest (addr : TetraAddress) (resReq : ReservationRequirement) :
    Except Fault (DownlinkScheduler Key) := do
  assertThat (2 ≤ timeslot ∧ timeslot ≤ 4)
  let requestedSlots ← requestedCapacity resReq
  .ok (scheduler.setQueues (timeslot - 1) (scheduler.dltxQueues (timeslot - 1))
    (scheduler.assocDltxQueues (timeslot - 1) ++
      [.associatedGrantRequest addr resReq requestedSlots]))

/-- What frame 18 queues again: a request that was refused, or the slots beyond the granted one. -/
def requeued (request : SlotRequest) : Option BasicSlotgrant → List SlotRequest
  | none => [request]
  | some _ =>
    if 1 < request.remaining then
      [⟨request.addr, .fromReqSlotcount (request.remaining - 1), request.remaining - 1⟩]
    else []

/-- Frame 18 serves a request when no message is being sent in parts. Answers the request and its
grant, which a resource of its own carries. -/
def dlServeAssociatedGrantRequest (ts : TdmaTime) :
    Except Fault (DownlinkScheduler Key × List (SlotRequest × BasicSlotgrant)) :=
  let queue := scheduler.assocDltxQueues (ts.t - 1)
  if queue.any isFragBuf then .ok (scheduler, [])
  else
    match takeRequest queue with
    | none => .ok (scheduler, [])
    | some (request, rest) => do
      let (uplink, answer) ←
        scheduler.toBsChannelScheduler.associatedFn18CapReq ts request.addr request.resReq
      .ok ({ scheduler with toBsChannelScheduler := uplink }.setQueues (ts.t - 1)
          (scheduler.dltxQueues (ts.t - 1)) (rest ++ (requeued request answer).map ofRequest),
        (answer.map fun allotted => (request, allotted)).toList)

/-- A grant or an acknowledgement goes with the first resource for the terminal, or on its own. -/
def integrate (addr : TetraAddress) (grant : Option BasicSlotgrant) (randomAccessAck : Bool)
    (aieRequest : AieRequest Key) :
    Except Fault (DownlinkScheduler Key) := do
  let queue := scheduler.dltxQueues (timeslot - 1)
  let pdu ← MacResource.dlMakeMinimalResource addr grant randomAccessAck
  .ok (scheduler.setQueues (timeslot - 1)
    (match queue.findIdx? (isFor addr.ssi) with
      | some index => queue.modify index (amend fun pdu =>
        { pdu with
          slotGrantingElement := grant <|> pdu.slotGrantingElement
          randomAccessFlag := randomAccessAck || pdu.randomAccessFlag })
      | none => queue ++ [.resource pdu (.ofBits []) none aieRequest none])
    (scheduler.assocDltxQueues (timeslot - 1)))

def integrateGrant (addr : TetraAddress) (grant : BasicSlotgrant) :
    Except Fault (DownlinkScheduler Key) :=
  scheduler.integrate timeslot addr (some grant) false (.clear (.individual addr.ssi) .macResource)

/-- One turn of the loop; a request that is granted is answered with its grant. -/
def dlIntegrateElem :
    DlSchedElem Key → Except Fault (DownlinkScheduler Key × List (SlotRequest × BasicSlotgrant))
  | .associatedGrantRequest addr resReq remaining => do
    let (uplink, answer) ← scheduler.toBsChannelScheduler.ulProcessCapReq timeslot addr resReq
    let scheduler := { scheduler with toBsChannelScheduler := uplink }
    match answer with
    | none =>
      .ok (scheduler.setQueues (timeslot - 1)
        (scheduler.dltxQueues (timeslot - 1) ++ [.associatedGrantRequest addr resReq remaining])
        (scheduler.assocDltxQueues (timeslot - 1)), [])
    | some allotted =>
      let scheduler ← scheduler.integrateGrant timeslot addr allotted
      .ok (scheduler, [(⟨addr, resReq, remaining⟩, allotted)])
  | .grant addr allotted => do
    let scheduler ← scheduler.integrateGrant timeslot addr allotted
    .ok (scheduler, [])
  | .randomAccessAck addr aieRequest => do
    let scheduler ← scheduler.integrate timeslot addr none true aieRequest
    .ok (scheduler, [])
  | _ => .error .panic

def dlIntegrateElems (timeslot : Nat) (scheduler : DownlinkScheduler Key) :
    List (DlSchedElem Key) →
      Except Fault (DownlinkScheduler Key × List (SlotRequest × BasicSlotgrant))
  | [] => .ok (scheduler, [])
  | elem :: rest => do
    let (scheduler, granted) ← scheduler.dlIntegrateElem timeslot elem
    let (scheduler, later) ← dlIntegrateElems timeslot scheduler rest
    .ok (scheduler, granted ++ later)

def dlIntegrateSchedElemsForTimeslot :
    Except Fault (DownlinkScheduler Key × List (SlotRequest × BasicSlotgrant)) :=
  let queue := scheduler.dltxQueues (timeslot - 1)
  (scheduler.setQueues (timeslot - 1) (queue.filter (! isGrantOrAck ·))
    (scheduler.assocDltxQueues (timeslot - 1))).dlIntegrateElems timeslot (queue.filter isGrantOrAck)

/-- The requests that wait in a timeslot, in either queue. -/
def waiting (index : Nat) : List SlotRequest :=
  (scheduler.dltxQueues index ++ scheduler.assocDltxQueues index).filterMap slotRequest

end DownlinkScheduler

/-- Requests are ordinary ones: there is neither a speaker nor packet data. -/
structure BsChannelScheduler.Ordinary (scheduler : BsChannelScheduler) (timeslot : Nat) : Prop where
  noCall : scheduler.carriesCall timeslot = false
  noBearer : scheduler.packetBearerIsActive timeslot = false

/-! ### The account -/

/-- The slots asked for and granted, by timeslot less one and terminal. -/
structure GrantAccount (Key : Type) where
  scheduler : DownlinkScheduler Key
  requested : Nat → Nat → Nat
  served : Nat → Nat → Nat

inductive GrantEvent (Key : Type) where
  | request (timeslot : Nat) (addr : TetraAddress) (resReq : ReservationRequirement)
  | frame18 (ts : TdmaTime)
  | facch (timeslot : Nat)
  | hangtime (timeslot : Nat) (active : Bool)
  /-- Whatever else happens. -/
  | other (next : DownlinkScheduler Key)

namespace SlotRequest

def owed (waiting : List SlotRequest) (issi : Nat) : Nat :=
  (waiting.map fun request => if request.addr.ssi = issi then request.remaining else 0).sum

/-- What grants give of what their requests still wait for. -/
def given (granted : List (SlotRequest × BasicSlotgrant)) (issi : Nat) : Nat :=
  (granted.map fun (request, grant) =>
    if request.addr.ssi = issi then min request.remaining grant.slots else 0).sum

/-- A waiting request asks for something, with a requirement that covers it. -/
structure Sound (request : SlotRequest) : Prop where
  positive : 1 ≤ request.remaining
  covered : ∃ count, requestedCapacity request.resReq = .ok count ∧ request.remaining ≤ count ∧
    count ≤ 68

end SlotRequest

namespace GrantAccount

def add (counts : Nat → Nat → Nat) (index : Nat) (more : Nat → Nat) : Nat → Nat → Nat :=
  Function.update counts index fun issi => counts index issi + more issi

variable (account : GrantAccount Key)

def serve (index : Nat) (result : DownlinkScheduler Key × List (SlotRequest × BasicSlotgrant)) :
    GrantAccount Key :=
  { account with
    scheduler := result.1
    served := add account.served index (SlotRequest.given result.2) }

def step : GrantEvent Key → Option (GrantAccount Key)
  | .request timeslot addr resReq => do
    let slots ← (requestedCapacity resReq).toOption
    let next ← (account.scheduler.dlEnqueueAssociatedGrantRequest timeslot addr resReq).toOption
    some { account with
      scheduler := next
      requested := add account.requested (timeslot - 1) (SlotRequest.owed [⟨addr, resReq, slots⟩]) }
  | .frame18 ts =>
    (account.scheduler.dlServeAssociatedGrantRequest ts).toOption.map (account.serve (ts.t - 1))
  | .facch timeslot =>
    (account.scheduler.dlIntegrateSchedElemsForTimeslot timeslot).toOption.map
      (account.serve (timeslot - 1))
  | .hangtime timeslot active =>
    some { account with scheduler := account.scheduler.setHangtime timeslot active }
  | .other next => some { account with scheduler := next }

/-- Nothing waits and nothing is counted. -/
def Starts : Prop :=
  ∀ index, account.scheduler.waiting index = [] ∧ account.requested index = 0 ∧
    account.served index = 0

/-- **When slots are granted in full**: the queue of all control is served on a channel without a
speaker and without packet data, and the other parts leave the waiting requests alone. -/
def Meets : GrantEvent Key → Prop
  | .facch timeslot => account.scheduler.toBsChannelScheduler.Ordinary timeslot
  | .other next => ∀ index, next.waiting index = account.scheduler.waiting index
  | _ => True

end GrantAccount

def grantAccountMachine (Key : Type) : Machine (GrantAccount Key) (GrantEvent Key) :=
  ⟨GrantAccount.Starts, GrantAccount.step⟩

/-! ### Conversions -/

namespace ReservationRequirement

variable {resReq : ReservationRequirement}

theorem converts_iff (resReq : ReservationRequirement) : resReq.Converts ↔ resReq ≠ .reqOver68 := by
  constructor
  · rintro ⟨count, found, -⟩ rfl
    cases found
  · intro bounded
    cases resReq <;> first
      | exact absurd rfl bounded
      | refine ⟨_, rfl, ?_⟩
        rintro subslot (rfl | rfl)
        all_goals exact ⟨_, rfl, by decide⟩

theorem sound_fromReqSlotcount (addr : TetraAddress) {remaining : Nat} (positive : 1 ≤ remaining)
    (bounded : remaining ≤ 68) : SlotRequest.Sound ⟨addr, fromReqSlotcount remaining, remaining⟩ := by
  refine ⟨positive, ?_⟩
  dsimp only
  interval_cases remaining <;> exact ⟨_, rfl, by decide, by decide⟩

theorem sound_requested (addr : TetraAddress) {slots : Nat}
    (counted : requestedCapacity resReq = .ok slots) : SlotRequest.Sound ⟨addr, resReq, slots⟩ := by
  cases resReq <;> first
    | (obtain rfl := ok.inj counted; exact ⟨by norm_num, _, rfl, le_rfl, by decide⟩)
    | cases counted

theorem announced_covers {count subslot : Nat} {grant : BasicSlotgrant}
    (counted : requestedCapacity resReq = .ok count)
    (announced : announcedCapacity (resReq = .req1Subslot) subslot count =
      .ok grant.capacityAllocation) : count ≤ grant.slots := by
  unfold BasicSlotgrant.slots
  generalize grant.capacityAllocation = allocation at announced
  cases resReq with
  | req1Subslot =>
    cases counted
    unfold announcedCapacity at announced
    rw [if_pos (decide_eq_true rfl)] at announced
    split at announced <;> first
      | (obtain rfl := ok.inj announced; decide)
      | cases announced
  | reqOver68 => cases counted
  | _ =>
    cases counted
    cases announced
    decide

end ReservationRequirement

/-! ### Grants -/

namespace BsChannelScheduler

variable {scheduler after : BsChannelScheduler} {timeslot : Nat} {ts : TdmaTime}
  {addr : TetraAddress} {resReq : ReservationRequirement} {grant : BasicSlotgrant}

/-- **A grant of frame 18 is for one slot.** -/
theorem associatedFn18CapReq_slots
    (reserved : scheduler.associatedFn18CapReq ts addr resReq = .ok (after, some grant)) :
    grant.slots = 1 := by
  obtain ⟨⟨schedule, answer⟩, written, result⟩ := bind_eq_ok.mp reserved
  obtain ⟨-, rfl⟩ := Prod.mk.inj (ok.inj result)
  obtain ⟨_, _, written⟩ := bind_eq_ok.mp written
  dsimp only at written
  repeat' split at written
  all_goals
    obtain ⟨-, same⟩ := Prod.mk.inj (ok.inj written)
    first
      | (obtain rfl := some.inj same; rfl)
      | cases same

theorem ulReserveGrant_mode {ssi subslot : Nat} {slots : List TdmaTime} {isHalfslot : Bool}
    (reserved : scheduler.ulReserveGrant ssi slots isHalfslot = .ok (after, subslot)) :
    after.carriesCall = scheduler.carriesCall ∧
      after.packetBearerIsActive = scheduler.packetBearerIsActive := by
  unfold ulReserveGrant at reserved
  split at reserved
  · cases reserved
  · obtain ⟨_, _, reserved⟩ := bind_eq_ok.mp reserved
    obtain ⟨_, _, result⟩ := bind_eq_ok.mp reserved
    cases result
    split <;> exact ⟨rfl, rfl⟩

/-- **An ordinary request is granted in full, or not at all.** -/
theorem ulProcessCapReq_ordinary {answer : Option BasicSlotgrant} {count : Nat}
    (ordinary : scheduler.Ordinary timeslot) (counted : requestedCapacity resReq = .ok count)
    (processed : scheduler.ulProcessCapReq timeslot addr resReq = .ok (after, answer)) :
    after.Ordinary timeslot ∧ ∀ grant ∈ answer, count ≤ grant.slots := by
  unfold ulProcessCapReq ulProcessCapReqAfter at processed
  rw [ordinary.noBearer, ordinary.noCall]
    at processed
  obtain ⟨turn, found, granted⟩ := bind_eq_ok.mp processed
  cases turn with
  | none =>
    cases granted
    exact ⟨ordinary, nofun⟩
  | some turn =>
    have capacity : turn.capacity = count := by
      obtain ⟨cap, cost, found⟩ := bind_eq_ok.mp found
      obtain rfl := ok.inj (cost.symm.trans counted)
      obtain ⟨offer, -, found⟩ := bind_eq_ok.mp found
      cases offer with
      | none => cases found
      | some offer =>
        dsimp only at found
        split at found
        · cases ok.inj found
          rfl
        · cases found
    obtain ⟨⟨next, given⟩, turned, result⟩ := bind_eq_ok.mp granted
    cases result
    obtain ⟨⟨reserved, subslot⟩, reserving, turned⟩ := bind_eq_ok.mp turned
    obtain ⟨allocation, announced, result⟩ := bind_eq_ok.mp turned
    cases result
    obtain ⟨calls, bearers⟩ := ulReserveGrant_mode reserving
    refine ⟨⟨calls ▸ ordinary.noCall, bearers ▸ ordinary.noBearer⟩, ?_⟩
    rintro grant ⟨⟩
    exact announced_covers counted (capacity ▸ announced)

end BsChannelScheduler

/-! ### Balance -/

open SlotRequest

/-- What was asked for was granted or is still waited for. -/
structure Balanced (requested served : Nat → Nat) (waiting : List SlotRequest) : Prop where
  conserved : ∀ issi, requested issi = served issi + owed waiting issi
  sound : ∀ request ∈ waiting, request.Sound

variable {requested served : Nat → Nat} {waiting other again : List SlotRequest}
  {request : SlotRequest} {grant : BasicSlotgrant}

theorem owed_append (first second : List SlotRequest) (issi : Nat) :
    owed (first ++ second) issi = owed first issi + owed second issi := by
  unfold owed
  rw [map_append, sum_append]

theorem Balanced.perm (balanced : Balanced requested served waiting) (same : waiting.Perm other) :
    Balanced requested served other := by
  refine ⟨fun issi => (balanced.conserved issi).trans ?_, fun request member =>
    balanced.sound request (same.mem_iff.mpr member)⟩
  unfold owed
  rw [(same.map _).sum_eq]

theorem perm_requeued (request : SlotRequest) (other facch sacch : List SlotRequest) :
    (request :: (other ++ (facch ++ sacch))).Perm (other ++ ((facch ++ [request]) ++ sacch)) := by
  rw [append_assoc facch, ← append_assoc other, ← append_assoc other]
  exact perm_middle.symm

/-- A grant pays for its request, up to what is queued again. -/
theorem Balanced.serve (balanced : Balanced requested served (request :: waiting))
    (paid : ∀ issi, owed [request] issi = given [(request, grant)] issi + owed again issi)
    (sound : ∀ other ∈ again, other.Sound) :
    Balanced requested (fun issi => served issi + given [(request, grant)] issi) (waiting ++ again) := by
  constructor
  · intro issi
    rw [balanced.conserved, ← singleton_append, owed_append, owed_append, paid]
    omega
  · intro other member
    rcases mem_append.mp member with old | new
    · exact balanced.sound other (mem_cons_of_mem _ old)
    · exact sound other new

theorem owed_singleton (request : SlotRequest) (issi : Nat) :
    owed [request] issi = if request.addr.ssi = issi then request.remaining else 0 :=
  sum_singleton

theorem given_singleton (request : SlotRequest) (grant : BasicSlotgrant) (issi : Nat) :
    given [(request, grant)] issi =
      if request.addr.ssi = issi then min request.remaining grant.slots else 0 :=
  sum_singleton

namespace DlSchedElem

theorem takeRequest_spec {queue rest : List (DlSchedElem Key)}
    (taken : takeRequest queue = some (request, rest)) :
    queue.filterMap slotRequest = request :: rest.filterMap slotRequest := by
  induction queue generalizing rest with
  | nil => cases taken
  | cons elem later ih =>
    unfold takeRequest at taken
    split at taken
    · next here =>
      cases taken
      exact filterMap_cons_some here
    · next here =>
      obtain ⟨⟨first, left⟩, found, same⟩ := map_eq_some_iff.mp taken
      cases same
      rw [filterMap_cons_none here, filterMap_cons_none here, ih found]

theorem filterMap_modify (change : MacResource → MacResource) (queue : List (DlSchedElem Key))
    (index : Nat) : (queue.modify index (amend change)).filterMap slotRequest =
      queue.filterMap slotRequest := by
  have same (elem : DlSchedElem Key) : (elem.amend change).slotRequest = elem.slotRequest := by
    cases elem <;> rfl
  induction queue generalizing index with
  | nil => simp
  | cons elem rest ih =>
    cases index with
    | zero => simp [filterMap_cons, same]
    | succ index => simp [filterMap_cons, ih]

theorem filterMap_marks {before after : List (DlSchedElem Key)}
    (marks : List.Forall₂ Marks before after) :
    before.filterMap slotRequest = after.filterMap slotRequest := by
  induction marks with
  | nil => rfl
  | @cons first second _ _ mark _ ih =>
    have same : second.slotRequest = first.slotRequest := by
      obtain rfl | rfl := mark
      · rfl
      · cases first <;> rfl
    simp only [filterMap_cons, same, ih]

end DlSchedElem

namespace DownlinkScheduler

open DlSchedElem (slotRequest ofRequest isGrantOrAck)

variable {scheduler after : DownlinkScheduler Key} {timeslot : Nat} {ts : TdmaTime}
  {granted : List (SlotRequest × BasicSlotgrant)}

theorem waiting_setQueues (index : Nat) (facch sacch : List (DlSchedElem Key)) :
    (scheduler.setQueues index facch sacch).waiting = Function.update scheduler.waiting index
      (facch.filterMap slotRequest ++ sacch.filterMap slotRequest) := by
  funext other
  by_cases same : other = index
  · subst same
    simp [waiting, setQueues]
  · simp [waiting, setQueues, same]

theorem waiting_eq (index : Nat) : scheduler.waiting index =
    (scheduler.dltxQueues index).filterMap slotRequest ++
      (scheduler.assocDltxQueues index).filterMap slotRequest := filterMap_append

/-- What goes with a resource, or makes one, is no request. -/
theorem integrate_spec {addr : TetraAddress} {grant : Option BasicSlotgrant} {ack : Bool}
    {aieRequest : AieRequest Key}
    (integrated : scheduler.integrate timeslot addr grant ack aieRequest = .ok after) :
    after.toBsChannelScheduler = scheduler.toBsChannelScheduler ∧
      after.waiting = scheduler.waiting := by
  obtain ⟨pdu, -, result⟩ := bind_eq_ok.mp integrated
  cases result
  refine ⟨rfl, ?_⟩
  rw [waiting_setQueues, update_eq_self_iff, waiting_eq]
  congr 1
  split
  · exact DlSchedElem.filterMap_modify ..
  · exact (filterMap_append ..).trans (append_nil _)

/-- **One turn of the loop.** -/
theorem dlIntegrateElem_balanced {elem : DlSchedElem Key}
    (ran : scheduler.dlIntegrateElem timeslot elem = .ok (after, granted))
    (ordinary : scheduler.toBsChannelScheduler.Ordinary timeslot)
    (balanced : Balanced requested served
      (elem.slotRequest.toList ++ (other ++ scheduler.waiting (timeslot - 1)))) :
    Balanced requested (fun issi => served issi + given granted issi)
        (other ++ after.waiting (timeslot - 1)) ∧
      after.toBsChannelScheduler.Ordinary timeslot ∧
      ∀ index ≠ timeslot - 1, after.waiting index = scheduler.waiting index := by
  unfold dlIntegrateElem at ran
  split at ran
  case h_1 addr resReq remaining =>
    obtain ⟨⟨uplink, answer⟩, processed, ran⟩ := bind_eq_ok.mp ran
    obtain ⟨count, counted, covered, -⟩ := (balanced.sound _ mem_cons_self).covered
    obtain ⟨stays, full⟩ := ulProcessCapReq_ordinary ordinary counted processed
    cases answer with
    | none =>
      cases ran
      rw [waiting_setQueues]
      refine ⟨?_, stays, fun index different => update_of_ne different ..⟩
      rw [update_self, filterMap_append]
      rw [waiting_eq] at balanced
      refine balanced.perm ?_
      exact perm_requeued ⟨addr, resReq, remaining⟩ other _ _
    | some allotted =>
      obtain ⟨next, integrated, result⟩ := bind_eq_ok.mp ran
      cases result
      obtain ⟨mode, queues⟩ := integrate_spec integrated
      rw [queues, mode]
      refine ⟨?_, stays, fun _ _ => rfl⟩
      refine append_nil (other ++ _) ▸ balanced.serve (fun issi => ?_) nofun
      rw [given_singleton, min_eq_left (covered.trans (full _ rfl))]
      rfl
  case h_4 => cases ran
  all_goals
    obtain ⟨next, integrated, result⟩ := bind_eq_ok.mp ran
    cases result
    obtain ⟨mode, queues⟩ := integrate_spec integrated
    rw [queues, mode]
    exact ⟨balanced, ordinary, fun _ _ => rfl⟩

/-- **The loop**, by induction on what was taken. -/
theorem dlIntegrateElems_balanced {elems : List (DlSchedElem Key)}
    (ran : dlIntegrateElems timeslot scheduler elems = .ok (after, granted))
    (ordinary : scheduler.toBsChannelScheduler.Ordinary timeslot)
    (balanced : Balanced requested served
      (elems.filterMap slotRequest ++ scheduler.waiting (timeslot - 1))) :
    Balanced requested (fun issi => served issi + given granted issi)
        (after.waiting (timeslot - 1)) ∧
      ∀ index ≠ timeslot - 1, after.waiting index = scheduler.waiting index := by
  induction elems generalizing scheduler served granted with
  | nil =>
    cases ran
    exact ⟨balanced, fun _ _ => rfl⟩
  | cons elem rest ih =>
    obtain ⟨⟨next, first⟩, turned, ran⟩ := bind_eq_ok.mp ran
    obtain ⟨⟨last, later⟩, looped, result⟩ := bind_eq_ok.mp ran
    cases result
    have shape : (elem :: rest).filterMap slotRequest =
        elem.slotRequest.toList ++ rest.filterMap slotRequest := by
      cases here : elem.slotRequest <;> simp [here]
    rw [shape, append_assoc] at balanced
    obtain ⟨balanced, ordinary, others⟩ := dlIntegrateElem_balanced turned ordinary balanced
    obtain ⟨balanced, more⟩ := ih looped ordinary balanced
    refine ⟨?_, fun index different => (more index different).trans (others index different)⟩
    have added : given (first ++ later) = fun issi => given first issi + given later issi := by
      funext issi
      unfold given
      rw [map_append, sum_append]
    simpa only [added, Nat.add_assoc] using balanced

/-- **Frame 18 grants one slot of a request**, and queues the rest again. -/
theorem dlServeAssociatedGrantRequest_balanced
    (ran : scheduler.dlServeAssociatedGrantRequest ts = .ok (after, granted))
    (balanced : Balanced requested served (scheduler.waiting (ts.t - 1))) :
    Balanced requested (fun issi => served issi + given granted issi) (after.waiting (ts.t - 1)) ∧
      ∀ index ≠ ts.t - 1, after.waiting index = scheduler.waiting index := by
  unfold dlServeAssociatedGrantRequest at ran
  dsimp only at ran
  split at ran
  · cases ran
    exact ⟨balanced, fun _ _ => rfl⟩
  split at ran
  · cases ran
    exact ⟨balanced, fun _ _ => rfl⟩
  next request rest taken =>
    obtain ⟨⟨uplink, answer⟩, reserved, result⟩ := bind_eq_ok.mp ran
    obtain ⟨rfl, rfl⟩ := Prod.mk.inj (ok.inj result)
    have again : ((requeued request answer).map (@ofRequest Key)).filterMap slotRequest =
        requeued request answer := by
      rw [filterMap_map]
      exact filterMap_some
    rw [waiting_setQueues]
    refine ⟨?_, fun index different => update_of_ne different ..⟩
    rw [update_self, filterMap_append, again, ← append_assoc]
    rw [waiting_eq, DlSchedElem.takeRequest_spec taken] at balanced
    replace balanced := balanced.perm perm_middle
    cases answer with
    | none => exact balanced.perm (perm_append_singleton ..).symm
    | some allotted =>
      obtain ⟨positive, count, -, covered, bounded⟩ := balanced.sound request mem_cons_self
      have slots := associatedFn18CapReq_slots reserved
      refine balanced.serve (fun issi => ?_) fun other member => ?_
      · rw [owed_singleton, given_singleton]
        by_cases more : 1 < request.remaining
        · rw [requeued, if_pos more, owed_singleton]
          dsimp only
          split <;> omega
        · have nothing : owed [] issi = 0 := rfl
          rw [requeued]
          split <;> omega
      · rw [requeued] at member
        split at member
        · rw [mem_singleton.mp member]
          exact sound_fromReqSlotcount _ (by omega) (by omega)
        · cases member

/-- **Entering and leaving hangtime keeps the waiting requests.** -/
theorem waiting_setHangtime (active : Bool) (index : Nat) :
    (scheduler.waiting index).Perm ((scheduler.setHangtime timeslot active).waiting index) := by
  by_cases changes : scheduler.Changes timeslot active
  · rw [waiting_eq, waiting_eq]
    cases active with
    | true =>
      obtain ⟨facch, sacch, -, elsewhere⟩ := entered changes
      by_cases same : index = timeslot - 1
      · have kept : @DlSchedElem.slotRequest Key ∘ DlSchedElem.allowUngranted = slotRequest := by
          funext elem
          cases elem <;> rfl
        rw [same, facch, sacch, filterMap_append, filterMap_map, kept]
        exact .of_eq (append_nil _).symm
      · rw [elsewhere.facch index same, elsewhere.sacch index same]
    | false =>
      obtain ⟨facch, ⟨moved, marks, sacch, -⟩, -, -, elsewhere⟩ := left changes
      by_cases same : index = timeslot - 1
      · have queue : (scheduler.assocDltxQueues index ++ moved).filterMap slotRequest =
            (scheduler.assocDltxQueues index).filterMap slotRequest ++
              (scheduler.dltxQueues index).filterMap slotRequest := by
          rw [filterMap_append, ← DlSchedElem.filterMap_marks marks, filterMap_filter, same]
          congr 2
          funext elem
          cases elem <;> rfl
        have stolen : ((scheduler.dltxQueues index).filter DlSchedElem.isStealing).filterMap
            slotRequest = [] := by
          rw [filterMap_filter, filterMap_eq_nil_iff]
          rintro (_ | _) - <;> rfl
        subst same
        rw [facch, sacch, queue, stolen]
        exact perm_append_comm
      · rw [elsewhere.facch index same, elsewhere.sacch index same]
  · rw [setHangtime_idle changes]

end DownlinkScheduler

/-! ### Runs -/

namespace GrantAccount

open DownlinkScheduler
open DlSchedElem (isGrantOrAck slotRequest)

/-- **What was asked for was granted or is still waited for**, in every timeslot and by every
terminal. -/
def Kept (account : GrantAccount Key) : Prop :=
  ∀ index, Balanced (account.requested index) (account.served index) (account.scheduler.waiting index)

variable {account next : GrantAccount Key}

theorem Kept.serve (kept : Kept account) {index : Nat}
    {result : DownlinkScheduler Key × List (SlotRequest × BasicSlotgrant)}
    (served : Balanced (account.requested index)
        (fun issi => account.served index issi + given result.2 issi) (result.1.waiting index) ∧
      ∀ other ≠ index, result.1.waiting other = account.scheduler.waiting other) :
    Kept (account.serve index result) := by
  intro other
  unfold GrantAccount.serve add
  by_cases same : other = index
  · subst same
    simpa only [update_self] using served.1
  · simpa only [update_of_ne same, served.2 other same] using kept other

/-- **One step.** -/
theorem kept_step (kept : Kept account) {event : GrantEvent Key} (meets : account.Meets event)
    (stepped : account.step event = some next) : Kept next := by
  cases event with
  | request timeslot addr resReq =>
    obtain ⟨slots, counted, stepped⟩ := bind_eq_some_iff.mp stepped
    obtain ⟨queued, enqueued, stepped⟩ := bind_eq_some_iff.mp stepped
    cases stepped
    rw [toOption_eq_some] at counted enqueued
    obtain ⟨_, -, enqueued⟩ := bind_eq_ok.mp enqueued
    rw [counted] at enqueued
    cases enqueued
    intro other
    rw [waiting_setQueues]
    unfold add
    by_cases same : other = timeslot - 1
    · subst same
      obtain ⟨conserved, sound⟩ := kept (timeslot - 1)
      dsimp only
      rw [update_self, update_self, filterMap_append, ← append_assoc, ← waiting_eq]
      refine ⟨fun issi => ?_, fun request member => ?_⟩
      · rw [conserved, owed_append, Nat.add_assoc]
        rfl
      · rcases mem_append.mp member with old | new
        · exact sound request old
        · rw [mem_singleton.mp new]
          exact sound_requested addr counted
    · simpa only [update_of_ne same] using kept other
  | frame18 ts =>
    obtain ⟨result, ran, rfl⟩ := map_eq_some_iff.mp stepped
    exact kept.serve (dlServeAssociatedGrantRequest_balanced (toOption_eq_some.mp ran) (kept _))
  | facch timeslot =>
    obtain ⟨result, ran, rfl⟩ := map_eq_some_iff.mp stepped
    have taken : ((account.scheduler.dltxQueues (timeslot - 1)).filter isGrantOrAck).filterMap
        slotRequest = (account.scheduler.dltxQueues (timeslot - 1)).filterMap slotRequest := by
      rw [filterMap_filter]
      congr 1
      funext elem
      cases elem <;> rfl
    have left : ((account.scheduler.dltxQueues (timeslot - 1)).filter (! isGrantOrAck ·)).filterMap
        slotRequest = [] := by
      rw [filterMap_filter, filterMap_eq_nil_iff]
      rintro (_ | _) - <;> rfl
    obtain ⟨balanced, others⟩ := dlIntegrateElems_balanced (toOption_eq_some.mp ran) meets (by
      rw [waiting_setQueues, update_self, taken, left, nil_append, ← waiting_eq]
      exact kept _)
    refine kept.serve ⟨balanced, fun other different => (others other different).trans ?_⟩
    rw [waiting_setQueues, update_of_ne different]
  | hangtime timeslot active =>
    cases stepped
    exact fun index => (kept index).perm (waiting_setHangtime active index)
  | other after =>
    cases stepped
    intro index
    rw [meets index]
    exact kept index

/-- **main result** — a requirement becomes a number of slots and a capacity that covers it, and a
request for it is queued, exactly if it is bounded; and over every run that meets the conditions every
slot asked for was granted once or is waited for. -/
theorem grant_requests_iff (resReq : ReservationRequirement) {account : GrantAccount Key}
    (reachable : Reachable (grantAccountMachine Key) Meets account) :
    (resReq.Converts ↔ resReq ≠ .reqOver68) ∧ (∀ timeslot addr, 2 ≤ timeslot → timeslot ≤ 4 →
        ((∃ after, account.scheduler.dlEnqueueAssociatedGrantRequest timeslot addr resReq = .ok after) ↔
          resReq ≠ .reqOver68)) ∧
      Kept account := by
  refine ⟨converts_iff resReq, fun timeslot addr low high => ?_, ?_⟩
  · unfold dlEnqueueAssociatedGrantRequest
    rw [assertThat_of ⟨low, high⟩]
    cases resReq <;> simp [requestedCapacity, toReqSlotcount]
  · refine reachable.invariant (fun first starts index => ?_) fun _ _ _ kept meets =>
      kept_step kept meets
    obtain ⟨waiting, requested, served⟩ := starts index
    rw [waiting, requested, served]
    exact ⟨fun _ => rfl, nofun⟩

def unasked : GrantAccount Unit := ⟨CommonControlState.idleScheduler, 0, 0⟩

/-- One of three slots is granted in frame 18; the others wait when the call hangs. -/
theorem three_slots_kept : ∃ account : GrantAccount Unit,
    account.served 1 5 = 1 ∧ account.scheduler.hangtime 1 = true ∧ Kept account := by
  have leads : (exec (grantAccountMachine Unit) unasked
      [.request 2 ⟨5, .issi⟩ .req3Slots, .frame18 ⟨2, 18, 1, 0⟩, .frame18 ⟨2, 18, 4, 0⟩,
        .hangtime 2 true]).any (fun account =>
          account.served 1 5 = 1 ∧ account.scheduler.hangtime 1) = true := by
    decide +kernel
  obtain ⟨account, run, served⟩ := @exec_any _ _ _ Meets _ _ _ (by simp [Meets]) leads
  obtain ⟨served, hanging⟩ := of_decide_eq_true served
  exact ⟨account, served, hanging,
    (grant_requests_iff .req3Slots ⟨unasked, fun _ => ⟨rfl, rfl, rfl⟩, run⟩).2.2⟩

/-- **A request for more than 68 slots** has no number of slots: the base station panics. -/
theorem over_68_panics :
    ¬ ∀ (scheduler : DownlinkScheduler Unit) (addr : TetraAddress) (resReq : ReservationRequirement),
      resReq.Converts ∧ ∃ after,
        scheduler.dlEnqueueAssociatedGrantRequest 2 addr resReq = .ok after := by
  intro all
  obtain ⟨-, after, queued⟩ := all CommonControlState.idleScheduler ⟨5, .issi⟩ .reqOver68
  cases queued

end GrantAccount

end Bluestation
