/-
**Generations of packet bearers.**

The MAC is told to open, resize, drain and close bearers, and to attach and detach terminals; a message
about an older generation is ignored. Beside the messages the slots carry circuits, and grants are given.

* `BearerState.rxPacketBearerControl` — the messages.
* `generation_fence` — **a closed generation changes nothing more**, in runs whose steps meet this.
-/

import Bluestation.Umac.PacketBearers
import Bluestation.Umac.UplinkRequests

namespace Bluestation

open Machines Option Function BsChannelScheduler

/-- The scheduler, the circuits in the downlink and the event labels; and the generation of the last
close of each bearer that was accepted. -/
structure BearerState where
  scheduler : BsChannelScheduler
  dlCircuits : Nat → Bool
  labels : EventLabelStore
  closed : Nat → Option Nat

inductive BearerEvent where
  | control (control : PacketBearerControl)
  | circuit (dir : Direction) (ts : Nat) (active : Bool)
  | request (requestTime : TdmaTime) (addr : TetraAddress) (resReq : ReservationRequirement)
      (continuesFragment : Bool)
  /-- The next packet-data turn is given. -/
  | turn (queues : PacketDataDownlink) (downlink : TdmaTime)
  /-- The slot builder asks for a slot in which an acknowledgement may come. -/
  | acknowledge (timeslot : Nat) (addr : TetraAddress) (minimumDelay : Nat)

namespace BearerState

def rxPacketBearerControl (s : BearerState) : PacketBearerControl → BearerState
  | .opened bearerId generation timeslotBitmap | .resize bearerId generation timeslotBitmap =>
    { s with scheduler := (s.scheduler.openPacketBearer bearerId generation timeslotBitmap.toNat).1 }
  | .attach bearerId generation issi eventLabel =>
    if s.scheduler.packetBearersMatch bearerId generation then
      { s with labels := s.labels.bind eventLabel ⟨issi, .issi⟩ }
    else s
  | .detach bearerId generation eventLabel =>
    if s.scheduler.packetBearersMatch bearerId generation then
      { s with
        scheduler := ((s.labels.getAddrByLabel eventLabel).filter (·.ssiType = .issi)).elim s.scheduler
          fun addr => s.scheduler.detachPacketDataTerminal addr.ssi
        labels := s.labels.remove eventLabel }
    else s
  | .drain bearerId generation =>
    { s with scheduler := s.scheduler.setPacketBearerDraining bearerId generation }
  | .close bearerId generation _ =>
    let (scheduler, accepted) := s.scheduler.closePacketBearer bearerId generation
    { s with
      scheduler
      closed := if accepted then Function.update s.closed bearerId (some generation) else s.closed }

/-- A step that fails ends the run. -/
def step (s : BearerState) : BearerEvent → Option BearerState
  | .control control => some (s.rxPacketBearerControl control)
  | .circuit dir ts active => do
    let scheduler ← (s.scheduler.setCircuit dir ts active).toOption
    some { s with
      scheduler
      dlCircuits := if dir = .dl then Function.update s.dlCircuits (ts - 1) active else s.dlCircuits }
  | .request requestTime addr resReq continuesFragment =>
    some { s with scheduler := (s.scheduler.queuePacketDataCapacityRequest requestTime addr resReq
      continuesFragment).1 }
  | .turn queues downlink => do
    let (scheduler, _) ← (s.scheduler.scheduleReadyPacketDataGrant queues downlink).toOption
    some { s with scheduler }
  | .acknowledge timeslot addr minimumDelay => do
    let (scheduler, _) ←
      (s.scheduler.ulProcessCapReqAfter timeslot addr .req1Slot minimumDelay).toOption
    some { s with scheduler }

def machine : Machine BearerState BearerEvent where
  start s := ∃ time, s = ⟨.new time, fun _ => false, ⟨∅⟩, fun _ => none⟩
  step := step

/-- There is a circuit in the slot, in one direction or the other. -/
def occupied (s : BearerState) (slot : Nat) : Bool := s.scheduler.ulCircuits slot || s.dlCircuits slot

def drains (s : BearerState) (timeslot : Nat) : Bool :=
  (s.scheduler.packetBearerForTimeslot timeslot).any s.scheduler.drainingPacketBearers.contains

/-- The slots that a message opens for its bearer; none, if it is stale. -/
def opens (s : BearerState) (bearerId generation : Nat) (bitmap : SlotBitmap) : List Nat :=
  if (s.scheduler.packetBearerGenerations bearerId).any (generation < ·) then []
  else [1, 2, 3].filter bitmap.toNat.testBit

/-- What is opened is not closed in this generation, and has no circuit; a circuit is set up where
there is no bearer; and no acknowledgement is granted on a bearer that drains. -/
def Meets (s : BearerState) : BearerEvent → Prop
  | .control (.opened bearerId generation bitmap) | .control (.resize bearerId generation bitmap) =>
    (s.closed bearerId = some generation → s.opens bearerId generation bitmap = []) ∧
      ∀ slot ∈ s.opens bearerId generation bitmap, s.occupied slot = false
  | .circuit _ ts active => active = true → s.scheduler.packetBearers (ts - 1) = none
  | .acknowledge timeslot _ _ => s.drains timeslot = false
  | _ => True

/-- The generation of a bearer is the latest, and it is not closed. -/
def Current (s : BearerState) (bearer : Nat × Nat) : Prop :=
  s.scheduler.packetBearerGenerations bearer.1 = some bearer.2 ∧
    ∀ last, s.closed bearer.1 = some last → last < bearer.2

/-- **The fence holds**, and slots are not shared. -/
structure Fenced (s : BearerState) : Prop where
  slots : ∀ slot bearer, s.scheduler.packetBearers slot = some bearer → s.Current bearer
  draining : ∀ bearer ∈ s.scheduler.drainingPacketBearers, s.Current bearer
  known : ∀ id last, s.closed id = some last →
    ∃ latest, s.scheduler.packetBearerGenerations id = some latest ∧ last ≤ latest
  apart : ∀ slot, s.scheduler.packetBearers slot ≠ none → s.occupied slot = false

/-- The bearers and the labels are the same. -/
structure SameBearers (s after : BearerState) : Prop where
  slots : after.scheduler.packetBearers = s.scheduler.packetBearers
  generations : after.scheduler.packetBearerGenerations = s.scheduler.packetBearerGenerations
  draining : after.scheduler.drainingPacketBearers = s.scheduler.drainingPacketBearers
  labels : after.labels = s.labels
  closed : after.closed = s.closed

def bearerOf : PacketBearerControl → Nat × Nat
  | .opened id generation _ | .resize id generation _ | .drain id generation
  | .attach id generation _ _ | .detach id generation _ | .close id generation _ => (id, generation)

/-- A message about a closed generation changes nothing, and a bearer that drains gives no grant. -/
def Keeps (s after : BearerState) : BearerEvent → Prop
  | .control control => (∃ last, s.closed (bearerOf control).1 = some last ∧ (bearerOf control).2 ≤ last) →
      s.SameBearers after
  | .request requestTime _ _ _ => s.drains requestTime.t = true → after = s
  | .turn _ downlink => s.drains downlink.t = true → after = s
  | .acknowledge timeslot _ _ => s.drains timeslot = true → after = s
  | .circuit _ _ _ => True

variable {s after : BearerState}

theorem SameBearers.refl (s : BearerState) : s.SameBearers s := ⟨rfl, rfl, rfl, rfl, rfl⟩

theorem Fenced.of_same (fenced : s.Fenced) (same : s.SameBearers after)
    (apart : ∀ slot, s.scheduler.packetBearers slot ≠ none → after.occupied slot = false) :
    after.Fenced := by
  have current (bearer : Nat × Nat) (there : s.Current bearer) : after.Current bearer := by
    unfold Current
    rw [same.generations, same.closed]
    exact there
  refine ⟨fun slot bearer found => ?_, fun bearer member => ?_, fun id last ended => ?_, ?_⟩
  · exact current bearer (fenced.slots slot bearer (same.slots ▸ found))
  · exact current bearer (fenced.draining bearer (same.draining ▸ member))
  · rw [same.generations]
    exact fenced.known id last (same.closed ▸ ended)
  · rw [same.slots]
    exact apart

variable {scheduler next : BsChannelScheduler} {bearerId generation : Nat}

theorem packetBearersMatch_iff : scheduler.packetBearersMatch bearerId generation = true ↔
      ∃ slot ∈ [0, 1, 2, 3], scheduler.packetBearers slot = some (bearerId, generation) := by
  simp only [packetBearersMatch, List.any_eq_true, decide_eq_true_eq]

section

variable (fenced : s.Fenced)

include fenced

theorem Fenced.unclosed (matching : s.scheduler.packetBearersMatch bearerId generation = true) :
    ¬ ∃ last, s.closed bearerId = some last ∧ generation ≤ last := by
  obtain ⟨slot, _, found⟩ := packetBearersMatch_iff.mp matching
  rintro ⟨last, ended, older⟩
  exact absurd ((fenced.slots slot _ found).2 last ended) (not_lt.mpr older)

/-! ### Opening and closing -/

theorem Fenced.opened {bitmap : SlotBitmap}
    (again : s.closed bearerId = some generation → s.opens bearerId generation bitmap = [])
    (free : ∀ slot ∈ s.opens bearerId generation bitmap, s.occupied slot = false) :
    Fenced { s with scheduler := (s.scheduler.openPacketBearer bearerId generation bitmap.toNat).1 } ∧
      ((∃ last, s.closed bearerId = some last ∧ generation ≤ last) → s.SameBearers
        { s with
          scheduler := (s.scheduler.openPacketBearer bearerId generation bitmap.toNat).1 }) := by
  unfold openPacketBearer
  unfold opens at again free
  split at again
  next stale =>
    rw [if_pos stale]
    exact ⟨fenced, fun _ => .refl s⟩
  rename_i fresh
  rw [if_neg fresh] at free ⊢
  -- the generation is not below the latest, nor below a closed one
  have latest (known : Nat) (found : s.scheduler.packetBearerGenerations bearerId = some known) :
      known ≤ generation := by
    rw [found, any_some, decide_eq_true_eq, not_lt] at fresh
    exact fresh
  have ended (last : Nat) (closed : s.closed bearerId = some last) : last ≤ generation := by
    obtain ⟨known, found, below⟩ := fenced.known bearerId last closed
    exact below.trans (latest known found)
  refine ⟨⟨fun slot bearer found => ?_, fun bearer member => ?_, fun id last closed => ?_,
    fun slot used => ?_⟩, ?_⟩
  · dsimp only at found
    split_ifs at found with named other
    · cases found
      refine ⟨update_self .., fun last closed => lt_of_le_of_ne (ended last closed) ?_⟩
      rintro rfl
      exact List.ne_nil_of_mem (List.mem_filter.mpr named) (again closed)
    · obtain ⟨known, open'⟩ := fenced.slots slot bearer found
      refine ⟨(update_of_ne ?_ ..).trans known, open'⟩
      rintro rfl
      rw [found, any_some, decide_eq_true_eq] at other
      exact other rfl
  · obtain ⟨old, different⟩ := List.mem_filter.mp member
    obtain ⟨known, open'⟩ := fenced.draining bearer old
    exact ⟨(update_of_ne (of_decide_eq_true different) ..).trans known, open'⟩
  · rcases eq_or_ne id bearerId with rfl | different
    · exact ⟨generation, update_self .., ended last closed⟩
    · obtain ⟨known, found, below⟩ := fenced.known id last closed
      exact ⟨known, (update_of_ne different ..).trans found, below⟩
  · dsimp only at used
    split_ifs at used with named other
    · exact free slot (List.mem_filter.mpr named)
    · exact absurd rfl used
    · exact fenced.apart slot used
  · rintro ⟨last, closed, older⟩
    obtain rfl : last = generation := (ended last closed).antisymm older
    obtain ⟨known, found, below⟩ := fenced.known bearerId last closed
    obtain rfl : known = last := (latest known found).antisymm below
    have gone (bearer : Nat × Nat) (current : s.Current bearer) : bearer.1 ≠ bearerId := by
      rintro rfl
      have same : bearer.2 = known := some.inj (current.1.symm.trans found)
      exact absurd (current.2 known closed) (by rw [same]; exact lt_irrefl _)
    refine ⟨funext fun slot => ?_, update_eq_self_iff.mpr found.symm, ?_, rfl, rfl⟩
    · have unnamed : ¬ (slot ∈ [1, 2, 3] ∧ bitmap.toNat.testBit slot = true) := fun named =>
        List.ne_nil_of_mem (List.mem_filter.mpr named) (again closed)
      dsimp only
      split_ifs with other
      · obtain ⟨bearer, held, same⟩ := (any_eq_true _ _).mp other
        exact absurd (of_decide_eq_true same) (gone bearer (fenced.slots slot bearer held))
      · rfl
    · exact List.filter_eq_self.mpr fun bearer member =>
        decide_eq_true (gone bearer (fenced.draining bearer member))

theorem Fenced.close (bearerId generation : Nat) (forced : Bool) :
    (s.rxPacketBearerControl (.close bearerId generation forced)).Fenced ∧
      ((∃ last, s.closed bearerId = some last ∧ generation ≤ last) →
        s.SameBearers (s.rxPacketBearerControl (.close bearerId generation forced))) := by
  unfold rxPacketBearerControl closePacketBearer
  dsimp only
  split
  · exact ⟨fenced, fun _ => .refl s⟩
  rename_i known
  rw [not_not] at known
  -- a bearer that is still there is of another number, or of another generation
  have other (bearer : Nat × Nat) (current : s.Current bearer) (different : bearer ≠ (bearerId, generation)) :
      bearer.1 ≠ bearerId := by
    rintro rfl
    exact different (Prod.ext rfl (some.inj (current.1.symm.trans known)))
  rw [if_pos rfl]
  refine ⟨⟨fun slot bearer found => ?_, fun bearer member => ?_, fun id last closed => ?_,
    fun slot used => ?_⟩, ?_⟩
  · dsimp only at found
    split_ifs at found with same
    have current := fenced.slots slot bearer found
    have elsewhere := other bearer current fun equal => same (equal ▸ found)
    exact ⟨current.1, fun last closed => current.2 last
      ((update_of_ne elsewhere ..).symm.trans closed)⟩
  · obtain ⟨old, different⟩ := List.mem_filter.mp member
    have current := fenced.draining bearer old
    have elsewhere := other bearer current (of_decide_eq_true different)
    exact ⟨current.1, fun last closed => current.2 last
      ((update_of_ne elsewhere ..).symm.trans closed)⟩
  · dsimp only at closed
    rcases eq_or_ne id bearerId with rfl | different
    · rw [update_self] at closed
      exact ⟨generation, known, (some.inj closed).ge⟩
    · exact fenced.known id last ((update_of_ne different ..).symm.trans closed)
  · dsimp only at used
    split_ifs at used with same
    · exact absurd rfl used
    · exact fenced.apart slot used
  · rintro ⟨last, closed, older⟩
    obtain ⟨latest, found, below⟩ := fenced.known bearerId last closed
    obtain rfl : latest = generation := some.inj (found.symm.trans known)
    obtain rfl : last = latest := below.antisymm older
    have gone (bearer : Nat × Nat) (current : s.Current bearer) : bearer ≠ (bearerId, last) := by
      rintro rfl
      exact lt_irrefl _ (current.2 last closed)
    refine ⟨funext fun slot => if_neg fun held => gone _ (fenced.slots slot _ held) rfl, rfl,
      List.filter_eq_self.mpr fun bearer member =>
        decide_eq_true (gone bearer (fenced.draining bearer member)), rfl,
      update_eq_self_iff.mpr closed.symm⟩

/-! ### The other messages -/

theorem Fenced.control {control : PacketBearerControl} (meets : s.Meets (.control control)) :
    (s.rxPacketBearerControl control).Fenced ∧
      s.Keeps (s.rxPacketBearerControl control) (.control control) := by
  cases control with
  | opened bearerId generation bitmap => exact fenced.opened meets.1 meets.2
  | resize bearerId generation bitmap => exact fenced.opened meets.1 meets.2
  | close bearerId generation forced => exact fenced.close bearerId generation forced
  | drain bearerId generation =>
    unfold rxPacketBearerControl setPacketBearerDraining
    dsimp only
    split
    next matching =>
      obtain ⟨slot, _, found⟩ := packetBearersMatch_iff.mp matching
      refine ⟨⟨fenced.slots, fun bearer member => ?_, fenced.known, fenced.apart⟩, ?_⟩
      · rcases List.mem_cons.mp member with rfl | old
        · exact fenced.slots slot _ found
        · exact fenced.draining bearer old
      · exact fun old => absurd old (fenced.unclosed matching)
    · exact ⟨fenced, fun _ => .refl s⟩
  | attach bearerId generation issi eventLabel =>
    unfold rxPacketBearerControl
    dsimp only
    split
    next matching =>
      exact ⟨⟨fenced.slots, fenced.draining, fenced.known, fenced.apart⟩,
        fun old => absurd old (fenced.unclosed matching)⟩
    · exact ⟨fenced, fun _ => .refl s⟩
  | detach bearerId generation eventLabel =>
    unfold rxPacketBearerControl
    dsimp only
    split
    next matching =>
      constructor
      · cases (s.labels.getAddrByLabel eventLabel).filter (·.ssiType = .issi) <;>
          exact ⟨fenced.slots, fenced.draining, fenced.known, fenced.apart⟩
      · exact fun old => absurd old (fenced.unclosed matching)
    · exact ⟨fenced, fun _ => .refl s⟩

/-! ### Circuits and grants -/

/-- What a reservation leaves alone. -/
structure Reserved (before after : BsChannelScheduler) : Prop where
  slots : after.packetBearers = before.packetBearers
  generations : after.packetBearerGenerations = before.packetBearerGenerations
  draining : after.drainingPacketBearers = before.drainingPacketBearers
  circuits : after.ulCircuits = before.ulCircuits

theorem Fenced.reserved (reserved : Reserved s.scheduler scheduler) :
    Fenced { s with scheduler } := by
  refine fenced.of_same ⟨reserved.slots, reserved.generations, reserved.draining, rfl, rfl⟩
    fun slot used => ?_
  unfold occupied
  rw [reserved.circuits]
  exact fenced.apart slot used

end

variable {addr : TetraAddress}

theorem reserved_queue {requestTime : TdmaTime}
    {resReq : ReservationRequirement} {continuesFragment : Bool} :
    Reserved scheduler
      (scheduler.queuePacketDataCapacityRequest requestTime addr resReq continuesFragment).1 := by
  unfold queuePacketDataCapacityRequest
  split
  · exact ⟨rfl, rfl, rfl, rfl⟩
  · dsimp only
    split_ifs <;> exact ⟨rfl, rfl, rfl, rfl⟩

theorem reserved_grantTurn {ssi : Nat} {isHalfslot : Bool} {turn : BsChannelScheduler.Turn}
    {grant : BasicSlotgrant} (granted : scheduler.grantTurn ssi isHalfslot turn = .ok (next, grant)) :
    Reserved scheduler next := by
  obtain ⟨⟨last, number⟩, reserved, rest⟩ := bind_eq_ok.mp granted
  obtain ⟨_, _, same⟩ := bind_eq_ok.mp rest
  cases same
  unfold ulReserveGrant at reserved
  split at reserved
  · cases reserved
  · obtain ⟨_, _, rest⟩ := bind_eq_ok.mp reserved
    obtain ⟨_, _, same⟩ := bind_eq_ok.mp rest
    cases same
    split <;> exact ⟨rfl, rfl, rfl, rfl⟩

variable {queues : PacketDataDownlink} {downlink : TdmaTime}

theorem reserved_turn
    {grant : Option (TetraAddress × BasicSlotgrant)}
    (given : scheduler.scheduleReadyPacketDataGrant queues downlink = .ok (next, grant)) :
    Reserved scheduler next := by
  unfold scheduleReadyPacketDataGrant at given
  split at given
  · cases given
    exact ⟨rfl, rfl, rfl, rfl⟩
  obtain ⟨turn, _, rest⟩ := bind_eq_ok.mp given
  cases turn with
  | none =>
    cases rest
    exact ⟨rfl, rfl, rfl, rfl⟩
  | some turn =>
    obtain ⟨⟨granted, _⟩, taken, same⟩ := bind_eq_ok.mp rest
    cases same
    obtain ⟨slots, generations, draining, circuits⟩ := reserved_grantTurn taken
    unfold settlePending
    split <;> exact ⟨slots, generations, draining, circuits⟩

theorem reserved_capReq {timeslot minimumDelay : Nat}
    {grant : Option BasicSlotgrant}
    (processed : scheduler.ulProcessCapReqAfter timeslot addr .req1Slot minimumDelay =
      .ok (next, grant)) : Reserved scheduler next := by
  unfold ulProcessCapReqAfter at processed
  split at processed
  · obtain ⟨_, _, same⟩ := bind_eq_ok.mp processed
    cases same
    exact ⟨rfl, rfl, rfl, rfl⟩
  · obtain ⟨turn, _, granted⟩ := bind_eq_ok.mp processed
    cases turn with
    | none =>
      cases granted
      exact ⟨rfl, rfl, rfl, rfl⟩
    | some turn =>
      obtain ⟨_, taken, same⟩ := bind_eq_ok.mp granted
      cases same
      exact reserved_grantTurn taken

theorem turn_none (drains : s.drains downlink.t = true) :
    s.scheduler.scheduleReadyPacketDataGrant queues downlink = .ok (s.scheduler, none) := by
  obtain ⟨bearer, found, draining⟩ := (any_eq_true _ _).mp drains
  have none : s.scheduler.nextPacketDataRequest queues downlink = none := by
    unfold nextPacketDataRequest
    rw [found]
    split
    · rfl
    · exact if_pos (List.contains_iff_mem.mp draining)
  unfold scheduleReadyPacketDataGrant
  rw [none]

/-- **A step that meets the condition** keeps the fence. -/
theorem Fenced.step (fenced : s.Fenced) {event : BearerEvent} (meets : s.Meets event)
    (stepped : s.step event = some after) : after.Fenced ∧ s.Keeps after event := by
  cases event with
  | control control =>
    cases stepped
    exact fenced.control meets
  | circuit dir ts active =>
    refine ⟨?_, trivial⟩
    obtain ⟨scheduler, set, same⟩ := bind_eq_some_iff.mp stepped
    cases same
    have bearers : scheduler.packetBearers = s.scheduler.packetBearers ∧
        scheduler.packetBearerGenerations = s.scheduler.packetBearerGenerations ∧
        scheduler.drainingPacketBearers = s.scheduler.drainingPacketBearers ∧
        scheduler.ulCircuits = if dir = .ul then Function.update s.scheduler.ulCircuits (ts - 1) active
          else s.scheduler.ulCircuits := by
      cases dir <;> cases set <;> exact ⟨rfl, rfl, rfl, rfl⟩
    obtain ⟨slots, generations, draining, circuits⟩ := bearers
    refine fenced.of_same ⟨slots, generations, draining, rfl, rfl⟩ fun slot used => ?_
    have quiet := fenced.apart slot used
    unfold occupied at quiet ⊢
    rw [Bool.or_eq_false_iff] at quiet ⊢
    -- a circuit is set up where there is no bearer
    have kept (before : Nat → Bool) (free : before slot = false) :
        Function.update before (ts - 1) active slot = false := by
      rcases eq_or_ne slot (ts - 1) with rfl | different
      · rw [update_self]
        exact Bool.eq_false_iff.mpr fun set => used (meets set)
      · rw [update_of_ne different, free]
    constructor
    · rw [circuits]
      split_ifs
      · exact kept _ quiet.1
      · exact quiet.1
    · split_ifs
      · exact kept _ quiet.2
      · exact quiet.2
  | request requestTime addr resReq continuesFragment =>
    cases stepped
    refine ⟨fenced.reserved reserved_queue, fun drains => ?_⟩
    obtain ⟨bearer, found, draining⟩ := (any_eq_true _ _).mp drains
    unfold queuePacketDataCapacityRequest
    rw [found]
    dsimp only
    rw [if_pos (List.contains_iff_mem.mp draining)]
  | turn queues downlink =>
    obtain ⟨⟨scheduler, grant⟩, given, same⟩ := bind_eq_some_iff.mp stepped
    cases same
    have given := toOption_eq_some.mp given
    refine ⟨fenced.reserved (reserved_turn given), fun drains => ?_⟩
    rw [turn_none drains] at given
    cases given
    rfl
  | acknowledge timeslot addr minimumDelay =>
    obtain ⟨⟨scheduler, grant⟩, processed, same⟩ := bind_eq_some_iff.mp stepped
    cases same
    refine ⟨fenced.reserved (reserved_capReq (toOption_eq_some.mp processed)), fun drains => ?_⟩
    rw [show s.drains timeslot = false from meets] at drains
    cases drains

/-- **main result** — in runs whose steps meet the condition, a message about a closed generation changes
neither the bearers nor the labels, a slot has no circuit beside its bearer, and a bearer that drains
gives no grant. -/
theorem generation_fence (reachable : Reachable machine Meets s) :
    s.Fenced ∧ ∀ event after, s.step event = some after → s.Meets event → s.Keeps after event := by
  have fenced : s.Fenced := by
    refine reachable.invariant (fun first starts => ?_) fun state event next fenced meets stepped =>
      (fenced.step meets stepped).1
    obtain ⟨time, rfl⟩ := starts
    exact ⟨fun _ _ => nofun, fun _ member => (List.not_mem_nil member).elim, fun _ _ => nofun,
      fun _ used => absurd rfl used⟩
  exact ⟨fenced, fun event after stepped meets => (fenced.step meets stepped).2⟩

def openSeventeen : BearerEvent := .control (.opened 17 4 2#8)

def beginning : BearerState := ⟨.new ⟨1, 1, 1, 0⟩, fun _ => false, ⟨∅⟩, fun _ => none⟩

theorem generation_fence_seventeen : (beginning.rxPacketBearerControl (.opened 17 4 2#8)).Fenced :=
  (generation_fence ⟨beginning, ⟨_, rfl⟩, .single ⟨openSeventeen, ⟨nofun, fun _ _ => rfl⟩, rfl⟩⟩).1

/-- **A delayed message opens a closed bearer again**, in the generation that was closed. -/
theorem closed_generation_opened : ¬ ∀ s after : BearerState, Reachable machine always s →
    ∀ bearerId generation bitmap, s.closed bearerId = some generation →
      s.step (.control (.resize bearerId generation bitmap)) = some after →
      after.scheduler.packetBearers = s.scheduler.packetBearers := by
  intro fence
  have kept := congrFun (fence _ _ ⟨beginning, ⟨_, rfl⟩, .head ⟨openSeventeen, trivial, rfl⟩
    (.single ⟨.control (.close 17 4 false), trivial, rfl⟩)⟩ 17 4 2#8 (by decide) rfl) 1
  revert kept
  decide

end BearerState

end Bluestation
