/-
**A channel that is reserved, or a cell that is unchanged.**

When the network asks for the channel of a group call, the cell answers with a timeslot of the call, or it
refuses. A cell that refuses should be as it was before. But the terminal joins its group before the cell
knows whether there is a channel, and a call that cannot start is put off: both stay after a refusal.

* `Cc.CcBs.SameCalls` — what a refusal should leave.
* `Cc.CcBs.ReservationHolds` — the states in which a reservation leaves nothing, or a channel of the call.
* `Cc.CcBs.reservation_holds_iff` — there, and only there.
-/

import Bluestation.Cmce.GroupStart

namespace Bluestation.Cc

open SlotBitmap Option CircuitMgr TimeslotAllocator Subscribers

/-! ### A circuit that a call would get -/

def freeTimeslot (alloc : TimeslotAllocator) : Option Nat :=
  timeslots.find? fun ts => (alloc.owners ts).isNone && !alloc.commonControlPending ts

theorem outOfRange_eq (callId : Nat) :
    (callId = 0 || callId > 0x3fff) = !CircuitMgr.validCallId callId := by
  unfold CircuitMgr.validCallId
  rw [Bool.eq_iff_iff]
  simp only [Bool.or_eq_true, decide_eq_true_eq, Bool.not_eq_true', Bool.and_eq_false_iff,
    decide_eq_false_iff_not, not_not, not_le]

variable {alloc : TimeslotAllocator}

theorem allocateAny_full (full : freeTimeslot alloc = none) :
    (alloc.allocateAny .cmce).1 = none ∧ ((alloc.allocateAny .cmce).2 = alloc ↔
        (alloc.holdsPacketData = true → alloc.packetPreemptionRequested = true)) := by
  unfold freeTimeslot at full
  unfold allocateAny
  rw [full]
  by_cases packet : alloc.holdsPacketData = true
  · rw [if_pos (by rw [packet]; rfl)]
    refine ⟨rfl, ⟨fun same _ => ?_, fun asked => ?_⟩⟩
    · rw [← same]
    · apply TimeslotAllocator.ext
      · rfl
      · exact (asked packet).symm
      · rfl
  · rw [if_neg (by rw [Bool.and_eq_true]; exact fun both => packet both.2)]
    exact ⟨rfl, ⟨fun _ holds => absurd holds packet, fun _ => rfl⟩⟩

theorem allocateAny_free {ts : Nat} (free : freeTimeslot alloc = some ts) :
    alloc.allocateAny .cmce = (some ts, alloc.give (some .cmce) ts) ∧
      alloc.give (some .cmce) ts ≠ alloc := by
  refine ⟨?_, fun same => ?_⟩
  · unfold freeTimeslot at free
    unfold allocateAny
    rw [free]
  · have vacant := List.find?_some free
    rw [Bool.and_eq_true, isNone_iff_eq_none] at vacant
    have held := (alloc.give_owners (some .cmce) ts ts).symm.trans
      ((congrArg (owners · ts) same).trans vacant.1)
    rw [if_pos rfl] at held
    cases held

/-! ### What a refusal should leave -/

namespace CcBs

/-- The subscribers with their groups, the counts of listeners, the calls, and the radio circuits are the
same. -/
structure SameCalls (s next : CcBs) : Prop where
  groups : ∀ issi, next.subscribers.subscriberGroups.lookup issi =
    s.subscribers.subscriberGroups.lookup issi
  listeners : ∀ gssi, next.subscribers.groupListeners.lookup gssi =
    s.subscribers.groupListeners.lookup gssi
  active : ∀ callId, next.activeCalls.lookup callId = s.activeCalls.lookup callId
  pending : ∀ callId, next.pendingRemoteSwmiCalls.lookup callId = s.pendingRemoteSwmiCalls.lookup callId
  circuits : next.circuits = s.circuits
  timeslots : next.timeslotAlloc = s.timeslotAlloc

/-- A refusal leaves the cell as it was; an answer names a timeslot with a circuit of the call. -/
def ReservedOrUnchanged (s : CcBs) (callId : Nat) (result : Option (Nat × Nat) × CcBs) : Prop :=
  (result.1 = none → SameCalls s result.2) ∧
    ∀ channel, result.1 = some channel → result.2.circuits.callIdAt channel.1 = some callId

/-- The states in which a reservation holds. Of a call that runs, the timeslot has a circuit of the call,
or nothing is to be undone because the terminal is a member already. A call that is to start starts on a
circuit that the terminal may use, or nothing is to be undone because the call is put off already. -/
def ReservationHolds (setting : CcSetting) (s : CcBs) (itsi callId : Nat)
    (call : PendingRemoteSwmiCall) : Prop :=
  match s.activeCalls.lookup callId with
  | some existing =>
    if existing.destGssi = call.gssi ∧ setting.validAllocation existing.ts existing.usage = true then
      s.circuits.callIdAt existing.ts = some callId
    else s.subscribers.attached itsi call.gssi = true
  | none =>
    (s.subscribers.attached itsi call.gssi = true ∧ s.hasListener call.gssi = false) ∨
      match s.capacity.reservedGroups.lookup callId with
      | some circuit =>
        setting.validAllocation circuit.ts circuit.usage = true ∧
          s.circuits.callIdAt circuit.ts = some callId
      | none =>
        match if CircuitMgr.validCallId callId then freeTimeslot s.timeslotAlloc else none with
        | some ts =>
          s.circuits.dl.lookup ts = none ∧
            setting.validAllocation ts s.circuits.nextUsageNumber = true
        | none =>
          s.subscribers.attached itsi call.gssi = true ∧
            s.pendingRemoteSwmiCalls.lookup callId = some call ∧
            (CircuitMgr.validCallId callId = true → s.timeslotAlloc.holdsPacketData = true →
              s.timeslotAlloc.packetPreemptionRequested = true)

variable {s : CcBs}

theorem SameCalls.refl (s : CcBs) : SameCalls s s :=
  ⟨fun _ => rfl, fun _ => rfl, fun _ => rfl, fun _ => rfl, rfl, rfl⟩

theorem sameCalls_admitRoamer (s : CcBs) (itsi gssi : Nat) :
    SameCalls s (s.admitRoamer itsi gssi) ↔ s.subscribers.attached itsi gssi = true := by
  constructor
  · intro same
    have joined := s.subscribers.attached_join itsi gssi
    have kept := same.groups itsi
    unfold admitRoamer setSubscribers at kept
    rw [scanByDefault_groups] at kept
    unfold attached at joined ⊢
    rw [← kept]
    exact joined
  · intro attached
    refine ⟨fun issi => ?_, fun group => ?_, fun _ => rfl, fun _ => rfl, rfl, rfl⟩
    · unfold admitRoamer setSubscribers
      rw [scanByDefault_groups, join_attached attached]
    · unfold admitRoamer setSubscribers
      rw [scanByDefault_listeners, join_attached attached]

theorem hasListener_admitRoamer (s : CcBs) (itsi gssi : Nat) :
    (s.admitRoamer itsi gssi).hasListener gssi = false ↔
      s.subscribers.attached itsi gssi = true ∧ s.hasListener gssi = false := by
  unfold hasListener Subscribers.hasListener admitRoamer setSubscribers
  rw [scanByDefault_listeners]
  unfold Subscribers.join
  split
  next attached =>
    exact ⟨fun unheard => ⟨attached, unheard⟩, fun both => both.2⟩
  next detached =>
    unfold incGroupListener
    rw [AList.lookup_insert]
    refine ⟨fun unheard => ?_, fun both => absurd both.1 detached⟩
    exact absurd (Nat.succ_pos _) (of_decide_eq_false unheard)

variable {next : CcBs} {setting : CcSetting} {itsi : Nat}

theorem reservedOrUnchanged_none {callId : Nat} :
    ReservedOrUnchanged s callId (none, next) ↔ SameCalls s next :=
  ⟨fun holds => holds.1 rfl, fun same => ⟨fun _ => same, nofun⟩⟩

theorem channelFor_running {callId : Nat} {call : ActiveCall}
    (runs : next.activeCalls.lookup callId = some call) :
    ReservedOrUnchanged s callId (next.channelFor setting itsi callId) ↔
      if setting.validAllocation call.ts call.usage = true then
        next.circuits.callIdAt call.ts = some callId
      else SameCalls s next := by
  unfold channelFor
  rw [runs]
  dsimp only
  split
  · have kept : (next.recordUplinkCallLocation itsi callId).circuits = next.circuits := by
      rw [(listensOnly_recordUplinkCallLocation trivial next callId :
        ListensOnly (fun _ => True) next _).rest]
    constructor
    · intro holds
      rw [← kept]
      exact holds.2 _ rfl
    · intro opened
      refine ⟨fun refused => (nomatch refused), fun channel chosen => ?_⟩
      cases chosen
      rw [kept]
      exact opened
  · exact reservedOrUnchanged_none

theorem sameCalls_defer {radio : CircuitMgr × TimeslotAllocator} {callId : Nat}
    {call : PendingRemoteSwmiCall} (pending : next.pendingRemoteSwmiCalls = s.pendingRemoteSwmiCalls) :
    SameCalls s ((next.setRadio radio).deferRemoteCall callId call) ↔
      SameCalls s { next with circuits := s.circuits, timeslotAlloc := s.timeslotAlloc } ∧
        s.pendingRemoteSwmiCalls.lookup callId = some call ∧
        radio = (s.circuits, s.timeslotAlloc) := by
  have deferred (other : Nat) :
      ((next.setRadio radio).deferRemoteCall callId call).pendingRemoteSwmiCalls.lookup other =
        if other = callId then some call else s.pendingRemoteSwmiCalls.lookup other := by
    rw [← pending]
    exact Table.lookup_insert_eq ..
  constructor
  · rintro ⟨groups, listeners, active, waiting, circuits, timeslots⟩
    refine ⟨⟨groups, listeners, active, fun other => congrArg _ pending, rfl, rfl⟩, ?_,
      Prod.ext circuits timeslots⟩
    exact (waiting callId).symm.trans ((deferred callId).trans (if_pos rfl))
  · rintro ⟨⟨groups, listeners, active, -, -, -⟩, present, rfl⟩
    refine ⟨groups, listeners, active, fun other => (deferred other).trans ?_, rfl, rfl⟩
    split
    next same =>
      rw [same, present]
    · rfl

variable {circuit : CmceCircuit}

theorem not_sameCalls_activate {callId : Nat} {call : PendingRemoteSwmiCall}
    (idle : s.activeCalls.lookup callId = none) :
    ¬ SameCalls s (next.activateRemoteCall circuit callId call) := by
  intro same
  have active := same.active callId
  rw [(activateRemoteCall_calls next circuit callId call).1, AList.lookup_insert, idle] at active
  cases active

theorem channelFor_activated {callId : Nat} {call : PendingRemoteSwmiCall}
    (idle : s.activeCalls.lookup callId = none) :
    ReservedOrUnchanged s callId
        ((next.activateRemoteCall circuit callId call).channelFor setting itsi callId) ↔
      setting.validAllocation circuit.ts circuit.usage = true ∧
        next.circuits.callIdAt circuit.ts = some callId := by
  obtain ⟨calls, circuits⟩ := activateRemoteCall_calls next circuit callId call
  rw [channelFor_running ((congrArg (AList.lookup callId) calls).trans (AList.lookup_insert _)), circuits]
  split
  next valid =>
    exact ⟨fun opened => ⟨valid, opened⟩, fun both => both.2⟩
  next invalid =>
    exact ⟨fun same => absurd same (not_sameCalls_activate idle), fun both => absurd both.1 invalid⟩

theorem allocateRemote_full {callId : Nat} (acknowledged : Bool)
    (full : (if validCallId callId then freeTimeslot s.timeslotAlloc else none) = none) :
    (s.allocateRemote callId acknowledged).1 = none ∧
      ((s.allocateRemote callId acknowledged).2 = (s.circuits, s.timeslotAlloc) ↔
        (validCallId callId = true → s.timeslotAlloc.holdsPacketData = true →
          s.timeslotAlloc.packetPreemptionRequested = true)) := by
  unfold allocateRemote allocateCircuitWithAllocatorAndCallId
  rw [outOfRange_eq]
  cases valid : validCallId callId with
  | false => exact ⟨rfl, iff_of_true rfl nofun⟩
  | true =>
    rw [valid] at full
    obtain ⟨nothing, same⟩ := allocateAny_full full
    rcases asked : s.timeslotAlloc.allocateAny .cmce with ⟨ts, after⟩
    rw [asked] at nothing same
    cases (show ts = none from nothing)
    exact ⟨rfl, (Prod.mk_right_injective s.circuits).eq_iff.trans
      (same.trans ⟨fun asks _ => asks, fun asks => asks rfl⟩)⟩

/-- A timeslot is free for a call. It gets a circuit there, unless there is one already. -/
theorem allocateRemote_free {callId ts : Nat} (acknowledged : Bool)
    (free : (if validCallId callId then freeTimeslot s.timeslotAlloc else none) = some ts) :
    (s.circuits.dl.lookup ts = none →
      ∃ circuit radio, s.allocateRemote callId acknowledged = (some circuit, radio) ∧
        circuit.ts = ts ∧ circuit.usage = s.circuits.nextUsageNumber ∧
        radio.1.callIdAt ts = some callId) ∧
    (s.circuits.dl.lookup ts ≠ none →
      ∃ radio, s.allocateRemote callId acknowledged = (none, radio) ∧ radio.2 ≠ s.timeslotAlloc) := by
  unfold allocateRemote allocateCircuitWithAllocatorAndCallId
  rw [outOfRange_eq]
  cases valid : validCallId callId with
  | false =>
    rw [valid] at free
    cases free
  | true =>
    rw [valid] at free
    obtain ⟨given, taken⟩ := allocateAny_free free
    rw [show (if (!true) = true then _ else _) = _ from if_neg Bool.false_ne_true, given]
    dsimp only
    constructor
    · intro vacant
      rcases opened : s.circuits.openOn ts callId (if acknowledged then .p2mpAcked else .p2mp) false
        with ⟨circuit, radio⟩
      cases circuit with
      | none =>
        unfold openOn openCircuit getNextUsageNumber at opened
        dsimp only at opened
        rw [vacant] at opened
        cases opened
      | some circuit =>
        obtain ⟨place, names, usage, next⟩ := openOn_opens (congrArg Prod.fst opened)
        rw [opened] at next
        exact ⟨circuit, (radio, _), rfl, place, usage, callIdAt_insert next names⟩
    · intro occupied
      refine ⟨_, Prod.ext ?_ rfl, taken⟩
      unfold openOn openCircuit getNextUsageNumber
      rw [if_pos (isSome_iff_ne_none.mpr occupied)]

/-! ### When a reservation holds -/

theorem sameCalls_admitted {gssi : Nat}
    (subscribers : next.subscribers = (s.admitRoamer itsi gssi).subscribers)
    (active : next.activeCalls = s.activeCalls)
    (pending : next.pendingRemoteSwmiCalls = s.pendingRemoteSwmiCalls)
    (circuits : next.circuits = s.circuits) (timeslots : next.timeslotAlloc = s.timeslotAlloc) :
    SameCalls s next ↔ s.subscribers.attached itsi gssi = true := by
  rw [← sameCalls_admitRoamer]
  constructor
  · intro same
    refine ⟨fun issi => ?_, fun group => ?_, fun _ => rfl, fun _ => rfl, rfl, rfl⟩
    · rw [← subscribers, same.groups]
    · rw [← subscribers, same.listeners]
  · intro same
    refine ⟨fun issi => ?_, fun group => ?_, fun _ => by rw [active], fun _ => by rw [pending],
      circuits, timeslots⟩
    · rw [subscribers, same.groups]
    · rw [subscribers, same.listeners]

/-- A call that is to start for a terminal that comes. -/
theorem reservedOrUnchanged_start {callId : Nat} {call : PendingRemoteSwmiCall}
    (idle : s.activeCalls.lookup callId = none) :
    ReservedOrUnchanged s callId
        (((s.admitRoamer itsi call.gssi).startRemoteSwmiCall callId call).channelFor setting itsi
          callId) ↔ ReservationHolds setting s itsi callId call := by
  have unheard := hasListener_admitRoamer s itsi call.gssi
  unfold ReservationHolds
  rw [idle]
  have spec := (s.admitRoamer itsi call.gssi).startRemoteSwmiCall_spec callId call
  generalize (s.admitRoamer itsi call.gssi).startRemoteSwmiCall callId call = next at spec
  cases spec with
  | ignored reason =>
    have quiet := unheard.mp (reason.resolve_right fun runs => by
      rw [show (s.admitRoamer itsi call.gssi).activeCalls.lookup callId = none from idle] at runs
      exact nomatch runs)
    unfold channelFor
    rw [show (s.admitRoamer itsi call.gssi).activeCalls.lookup callId = none from idle]
    refine iff_of_true (reservedOrUnchanged_none.mpr ?_) (.inl quiet)
    exact (sameCalls_admitRoamer s itsi call.gssi).mpr quiet.1
  | reserved heard waits =>
    rw [channelFor_activated idle,
      show s.capacity.reservedGroups.lookup callId = some _ from waits]
    refine (or_iff_right fun quiet => ?_).symm
    rw [unheard.mpr quiet] at heard
    cases heard
  | allocated heard nothing opened =>
    rw [channelFor_activated idle,
      show s.capacity.reservedGroups.lookup callId = none from nothing]
    refine Iff.trans ?_ (or_iff_right fun quiet => ?_).symm
    · dsimp only
      split
      next ts free =>
        obtain ⟨vacant, occupied⟩ := allocateRemote_free call.acknowledged free
        by_cases place : s.circuits.dl.lookup ts = none
        · obtain ⟨circuit, radio, same, rfl, usage, named⟩ := vacant place
          obtain ⟨chosen, rest⟩ := Prod.ext_iff.mp (opened.symm.trans same)
          cases chosen
          cases rest
          rw [← usage]
          exact ⟨fun both => ⟨place, both.1⟩, fun both => ⟨both.2, named⟩⟩
        · obtain ⟨radio, same, -⟩ := occupied place
          exact nomatch opened.symm.trans same
      next full =>
        obtain ⟨none, -⟩ := allocateRemote_full call.acknowledged full
        exact nomatch (congrArg Prod.fst opened).symm.trans none
    · rw [unheard.mpr quiet] at heard
      cases heard
  | @deferred radio heard nothing refused =>
    have deferred : SameCalls s (((s.admitRoamer itsi call.gssi).setRadio radio).deferRemoteCall callId
        call) ↔ s.subscribers.attached itsi call.gssi = true ∧
          s.pendingRemoteSwmiCalls.lookup callId = some call ∧
          radio = (s.circuits, s.timeslotAlloc) :=
      (@sameCalls_defer s (s.admitRoamer itsi call.gssi) radio callId call rfl).trans
        (and_congr (@sameCalls_admitted s _ itsi call.gssi rfl rfl rfl rfl rfl) Iff.rfl)
    unfold channelFor
    rw [show AList.lookup callId (((s.admitRoamer itsi call.gssi).setRadio radio).deferRemoteCall
        callId call).activeCalls = none from idle,
      show s.capacity.reservedGroups.lookup callId = none from nothing]
    refine (reservedOrUnchanged_none.trans deferred).trans
      (Iff.trans ?_ (or_iff_right fun quiet => ?_).symm)
    · dsimp only
      split
      next ts free =>
        obtain ⟨vacant, occupied⟩ := allocateRemote_free call.acknowledged free
        by_cases place : s.circuits.dl.lookup ts = none
        · obtain ⟨circuit, other, same, -⟩ := vacant place
          exact nomatch same.symm.trans refused
        · obtain ⟨other, same, changed⟩ := occupied place
          cases same.symm.trans refused
          refine ⟨fun all => absurd (congrArg Prod.snd all.2.2) changed, fun both => ?_⟩
          exact absurd both.1 place
      next full =>
        obtain ⟨-, same⟩ := allocateRemote_full call.acknowledged full
        rw [← same, show s.allocateRemote callId call.acknowledged = (none, radio) from refused]
    · rw [unheard.mpr quiet] at heard
      cases heard

/-- **A reservation that is refused changes nothing, and one that is granted names a circuit of the call**,
exactly if the identifier is out of range or the reservation holds. -/
theorem reservation_holds_iff (setting : CcSetting) (s : CcBs) (itsi centralCallId ownerItsi gssi priority
    floorItsi : Nat) (acknowledged : Bool) :
    ReservedOrUnchanged s centralCallId (s.reserveSeamlessHandoverGroupCall setting itsi centralCallId
        ownerItsi gssi priority floorItsi acknowledged) ↔
      centralCallId = 0 ∨ centralCallId > 0xffff ∨ ReservationHolds setting s itsi centralCallId
          ⟨ownerItsi, gssi, priority, floorItsi, acknowledged, false⟩ := by
  unfold reserveSeamlessHandoverGroupCall
  split
  next outside =>
    rw [Bool.or_eq_true, decide_eq_true_eq, decide_eq_true_eq] at outside
    refine iff_of_true (reservedOrUnchanged_none.mpr (.refl s)) ?_
    exact outside.imp_right .inl
  next inside =>
    rw [Bool.or_eq_true, decide_eq_true_eq, decide_eq_true_eq, not_or] at inside
    rw [or_iff_right inside.1, or_iff_right inside.2]
    cases runs : s.activeCalls.lookup centralCallId with
    | none =>
      dsimp only
      rw [show (s.admitRoamer itsi gssi).activeCalls.lookup centralCallId = none from runs]
      exact @reservedOrUnchanged_start s setting itsi centralCallId
        ⟨ownerItsi, gssi, priority, floorItsi, acknowledged, false⟩ runs
    | some existing =>
      dsimp only
      have stays : (s.admitRoamer itsi gssi).activeCalls.lookup centralCallId = some existing := runs
      rw [stays]
      unfold ReservationHolds
      rw [runs]
      dsimp only
      by_cases member : existing.destGssi = gssi
      · rw [if_neg (not_not.mpr member), channelFor_running stays, sameCalls_admitRoamer]
        by_cases valid : setting.validAllocation existing.ts existing.usage = true
        · rw [if_pos valid, if_pos ⟨member, valid⟩]
          rfl
        · rw [if_neg valid, if_neg fun both => valid both.2]
      · rw [if_pos member, if_neg fun both => member both.1]
        exact reservedOrUnchanged_none.trans (sameCalls_admitRoamer s itsi gssi)

/-- A call to another group has the identifier: the reservation is refused, and the terminal stays a
member. -/
theorem refused_after_join : ¬ ∀ (setting : CcSetting) (s : CcBs) (itsi centralCallId ownerItsi gssi
    priority floorItsi : Nat) (acknowledged : Bool),
      ReservedOrUnchanged s centralCallId (s.reserveSeamlessHandoverGroupCall setting itsi centralCallId
        ownerItsi gssi priority floorItsi acknowledged) := by
  intro always
  let setting : CcSetting := ⟨fun _ => false, true, fun _ _ => true⟩
  let running := ((CcBs.new ⟨1, 1, 1, 0⟩ ⟨0, 0, 0, 0, 0⟩).reserveSeamlessHandoverGroupCall setting 101 5
    101 204 1 101 false).2
  have refused : (running.reserveSeamlessHandoverGroupCall setting 102 5 102 205 1 102 false).1 = none := by
    decide +kernel
  have stays := ((always setting running 102 5 102 205 1 102 false).1 refused).listeners 205
  exact absurd stays (by decide +kernel)

end CcBs

end Bluestation.Cc
