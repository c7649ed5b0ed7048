/-
**Group calls of the network start at a cell.**

A call starts where it has a listener, on the circuit that waits for it or on a new one. Without a circuit
it is put off. Before a terminal that transmits changes to the cell, the network reserves the channel: the
terminal joins the group at the cell, and the call starts there if it does not run.

* `Cc.CcBs.startRemoteSwmiCall` — a call of the network starts.
* `Cc.CcBs.reserveSeamlessHandoverGroupCall` — a channel is reserved.
* `Cc.CcBs.startRemoteSwmiCall_spec` — what becomes of the call, case by case.
-/

import Bluestation.Cmce.Listeners

namespace Bluestation.Cc

namespace Subscribers

variable (subscribers : Subscribers)

/-- A subscriber is attached to a group, and counts as a listener once. -/
def join (issi gssi : Nat) : Subscribers :=
  if subscribers.attached issi gssi then subscribers
  else
    { subscribers with
      subscriberGroups := subscribers.subscriberGroups.insert issi
        (((subscribers.subscriberGroups.lookup issi).getD ∅).insert gssi ()) }.incGroupListener gssi

def scanByDefault (issi : Nat) : Subscribers :=
  if (subscribers.subscriberScanningEnabled.lookup issi).isSome then subscribers
  else
    { subscribers with
      subscriberScanningEnabled := subscribers.subscriberScanningEnabled.insert issi true }

end Subscribers

namespace CcBs

variable (s : CcBs)

/-- The call runs on its circuit. -/
def activateRemoteCall (circuit : CmceCircuit) (callId : Nat) (call : PendingRemoteSwmiCall) : CcBs :=
  let opened := (s.signalUmacCircuitOpen circuit).signalUmacGroupTrafficAie callId call.gssi circuit.ts
  let announced := { opened with cachedSetups := opened.cachedSetups.insert callId call.gssi }
  let active := announced.setActiveCall callId
    ⟨.swmi, call.gssi, call.floorItsi, circuit.ts, circuit.usage, call.priority, call.acknowledged,
      call.floorItsi ≠ 0, none, none⟩
  let tracked := active.trackGroupCallListeners callId
  if call.floorItsi ≠ 0 then
    tracked.tellEach [.umac, .swmi] (.floorGranted callId call.floorItsi call.gssi circuit.ts)
  else tracked

def takeReservedGroup (callId : Nat) : CcBs :=
  { s with
    capacity :=
      { s.capacity with reservedGroups := s.capacity.reservedGroups.erase callId } }

def allocateRemote (callId : Nat) (acknowledged : Bool) :
    Option CmceCircuit × CircuitMgr × TimeslotAllocator :=
  s.circuits.allocateCircuitWithAllocatorAndCallId (if acknowledged then .p2mpAcked else .p2mp)
    s.timeslotAlloc callId false

def startRemoteSwmiCall (callId : Nat) (call : PendingRemoteSwmiCall) : CcBs :=
  if !s.hasListener call.gssi || (s.activeCalls.lookup callId).isSome then s
  else match s.capacity.reservedGroups.lookup callId with
    | some circuit => (s.takeReservedGroup callId).activateRemoteCall circuit callId call
    | none =>
      match s.allocateRemote callId call.acknowledged with
      | (some circuit, radio) => (s.setRadio radio).activateRemoteCall circuit callId call
      | (none, radio) => (s.setRadio radio).deferRemoteCall callId call

/-- The channel of a call, as timeslot and usage marker, for a terminal that comes. -/
def channelFor (setting : CcSetting) (itsi callId : Nat) : Option (Nat × Nat) × CcBs :=
  match s.activeCalls.lookup callId with
  | none => (none, s)
  | some call =>
    if setting.validAllocation call.ts call.usage then
      (some (call.ts, call.usage), s.recordUplinkCallLocation itsi callId)
    else (none, s)

def admitRoamer (itsi gssi : Nat) : CcBs :=
  s.setSubscribers ((s.subscribers.join itsi gssi).scanByDefault itsi)

/-- Reserve the channel of a group call for a terminal that comes. -/
def reserveSeamlessHandoverGroupCall (setting : CcSetting) (itsi centralCallId ownerItsi gssi priority
    floorItsi : Nat) (acknowledged : Bool) : Option (Nat × Nat) × CcBs :=
  if centralCallId = 0 || centralCallId > 0xffff then (none, s)
  else
    let admitted := s.admitRoamer itsi gssi
    match admitted.activeCalls.lookup centralCallId with
    | some existing =>
      if existing.destGssi ≠ gssi then (none, admitted)
      else admitted.channelFor setting itsi centralCallId
    | none =>
      (admitted.startRemoteSwmiCall centralCallId
        ⟨ownerItsi, gssi, priority, floorItsi, acknowledged, false⟩).channelFor setting itsi
          centralCallId

end CcBs

/-! ### What an operation leaves -/

namespace Subscribers

variable {subscribers : Subscribers} {issi gssi : Nat}

theorem join_attached (attached : subscribers.attached issi gssi = true) :
    subscribers.join issi gssi = subscribers := if_pos attached

theorem attached_join (subscribers : Subscribers) (issi gssi : Nat) :
    (subscribers.join issi gssi).attached issi gssi = true := by
  unfold join
  split
  · assumption
  · show Option.any (fun groups : Table Unit => decide (gssi ∈ groups)) (AList.lookup issi
      (AList.insert issi _ subscribers.subscriberGroups)) = true
    rw [AList.lookup_insert]
    exact decide_eq_true ((AList.mem_insert _).mpr (.inl rfl))

@[simp] theorem scanByDefault_groups (subscribers : Subscribers) (issi : Nat) :
    (subscribers.scanByDefault issi).subscriberGroups = subscribers.subscriberGroups := by
  unfold scanByDefault
  split <;> rfl

@[simp] theorem scanByDefault_listeners (subscribers : Subscribers) (issi : Nat) :
    (subscribers.scanByDefault issi).groupListeners = subscribers.groupListeners := by
  unfold scanByDefault
  split <;> rfl

end Subscribers

namespace CcBs

variable {s : CcBs}

theorem activateRemoteCall_calls (s : CcBs) (circuit : CmceCircuit) (callId : Nat)
    (call : PendingRemoteSwmiCall) :
    (s.activateRemoteCall circuit callId call).activeCalls =
        s.activeCalls.insert callId ⟨.swmi, call.gssi, call.floorItsi, circuit.ts, circuit.usage,
          call.priority, call.acknowledged, call.floorItsi ≠ 0, none, none⟩ ∧
      (s.activateRemoteCall circuit callId call).circuits = s.circuits := by
  have tracks (state : CcBs) : (state.trackGroupCallListeners callId).activeCalls = state.activeCalls ∧
      (state.trackGroupCallListeners callId).circuits = state.circuits := by
    rw [(listensOnly_trackGroupCallListeners (fun _ _ => trivial) callId :
      ListensOnly (fun _ => True) state _).rest]
    exact ⟨rfl, rfl⟩
  unfold activateRemoteCall
  split
  · exact tracks _
  · exact tracks _

/-- What becomes of a call of the network. -/
inductive Starts (s : CcBs) (callId : Nat) (call : PendingRemoteSwmiCall) : CcBs → Prop
  | ignored (unheard : s.hasListener call.gssi = false ∨ (s.activeCalls.lookup callId).isSome = true) :
      Starts s callId call s
  | reserved {circuit : CmceCircuit} (heard : s.hasListener call.gssi = true)
      (waits : s.capacity.reservedGroups.lookup callId = some circuit) :
      Starts s callId call ((s.takeReservedGroup callId).activateRemoteCall circuit callId call)
  | allocated {circuit : CmceCircuit} {radio : CircuitMgr × TimeslotAllocator}
      (heard : s.hasListener call.gssi = true)
      (nothing : s.capacity.reservedGroups.lookup callId = none)
      (opened : s.allocateRemote callId call.acknowledged = (some circuit, radio)) :
      Starts s callId call ((s.setRadio radio).activateRemoteCall circuit callId call)
  | deferred {radio : CircuitMgr × TimeslotAllocator} (heard : s.hasListener call.gssi = true)
      (nothing : s.capacity.reservedGroups.lookup callId = none)
      (full : s.allocateRemote callId call.acknowledged = (none, radio)) :
      Starts s callId call ((s.setRadio radio).deferRemoteCall callId call)

theorem startRemoteSwmiCall_spec (s : CcBs) (callId : Nat) (call : PendingRemoteSwmiCall) :
    Starts s callId call (s.startRemoteSwmiCall callId call) := by
  unfold startRemoteSwmiCall
  split
  next unheard =>
    rw [Bool.or_eq_true, Bool.not_eq_true'] at unheard
    exact .ignored unheard
  next heard =>
    rw [Bool.or_eq_true, Bool.not_eq_true', not_or, Bool.not_eq_false] at heard
    cases waits : s.capacity.reservedGroups.lookup callId with
    | some circuit => exact .reserved heard.1 waits
    | none =>
      rcases asked : s.allocateRemote callId call.acknowledged with ⟨circuit, radio⟩
      cases circuit with
      | some circuit => exact .allocated heard.1 waits asked
      | none => exact .deferred heard.1 waits asked

end CcBs

end Bluestation.Cc
