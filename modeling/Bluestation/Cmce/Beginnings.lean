/-
**What is done when calls start.**

The procedures that start calls are chains of a few changes, among them those that end calls.

* `Cc.CcBs.Begins` — one change.
* `Cc.CcBs.Beginning` — a chain of changes.
* `Cc.CcBs.beginning_startRemoteSwmiCall`, `Cc.CcBs.beginning_activatePendingRemoteSwmiCalls` — the
  procedures are such chains.
-/

import Bluestation.Cmce.Endings
import Bluestation.Cmce.SubscriberUpdates

namespace Bluestation.Cc

namespace CcBs

/-- A change that is made when a call starts. -/
inductive Begins (s : CcBs) : CcBs → Prop
  | ends {next : CcBs} (change : Ends s next) : Begins s next
  | tellEach (dests : List TetraEntity) (message : CallControl) : Begins s (s.tellEach dests message)
  | cacheSetup (callId gssi : Nat) :
      Begins s
        { s with
          cachedSetups := s.cachedSetups.insert callId gssi }
  | startCall {callId : Nat} (call : ActiveCall) (idle : s.activeCalls.lookup callId = none) :
      Begins s (s.setActiveCall callId call)
  | allocate {callId : Nat} {commType : CommunicationType} {simplexDuplex : Bool}
      {circuit : CmceCircuit} {radio : CircuitMgr × TimeslotAllocator}
      (opened : s.circuits.allocateCircuitWithAllocatorAndCallId commType s.timeslotAlloc callId
        simplexDuplex = (some circuit, radio)) : Begins s (s.setRadio radio)
  | refused {callId : Nat} {commType : CommunicationType} {simplexDuplex : Bool}
      {radio : CircuitMgr × TimeslotAllocator}
      (full : s.circuits.allocateCircuitWithAllocatorAndCallId commType s.timeslotAlloc callId
        simplexDuplex = (none, radio)) : Begins s (s.setRadio radio)
  | takeReserved {callId : Nat} {circuit : CmceCircuit}
      (waits : s.capacity.reservedGroups.lookup callId = some circuit) :
      Begins s (s.takeReservedGroup callId)
  | deferCall (callId : Nat) (call : PendingRemoteSwmiCall) : Begins s (s.deferRemoteCall callId call)
  | dropPending (callId : Nat) :
      Begins s
        { s with
          pendingRemoteSwmiCalls := s.pendingRemoteSwmiCalls.erase callId }

/-- Changes that are made when calls start. -/
abbrev Beginning : CcBs → CcBs → Prop := Relation.ReflTransGen Begins

variable {s next : CcBs}

theorem Begins.beginning (change : Begins s next) : Beginning s next := .single change

theorem Ends.begins (change : Ends s next) : Begins s next := .ends change

theorem beginning_of_ending (changes : Ending s next) : Beginning s next :=
  Relation.ReflTransGen.mono (fun _ _ => .ends) _ _ changes

theorem beginning_foldl {Item : Type} {act : CcBs → Item → CcBs} {items : List Item}
    (one : ∀ s, ∀ item ∈ items, Beginning s (act s item)) (s : CcBs) :
    Beginning s (items.foldl act s) :=
  items.foldlRecOn act .refl fun next begun item member => begun.trans (one next item member)

theorem beginning_activateRemoteCall {callId : Nat} (idle : s.activeCalls.lookup callId = none)
    (circuit : CmceCircuit) (call : PendingRemoteSwmiCall) :
    Beginning s (s.activateRemoteCall circuit callId call) := by
  have tracks (state : CcBs) : ListensOnly state.Knows state (state.trackGroupCallListeners callId) :=
    listensOnly_trackGroupCallListeners (fun issi known => AList.mem_keys.mpr known) callId
  have tells (state : CcBs) (condition : Prop) [Decidable condition] (message : CallControl) :
      Beginning state (if condition then state.tellEach [.umac, .swmi] message else state) := by
    split
    · exact (Begins.tellEach _ message).beginning
    · exact .refl
  refine .trans ?_ (tells _ _ _)
  refine .tail ?_ (.ends (.listen (tracks _)))
  refine .tail ?_ (.startCall _ idle)
  refine .tail ?_ (.cacheSetup callId call.gssi)
  exact (Ends.tell .umac _).begins.beginning.tail (.ends (.tell .umac _))

theorem beginning_startRemoteSwmiCall (s : CcBs) (callId : Nat) (call : PendingRemoteSwmiCall) :
    Beginning s (s.startRemoteSwmiCall callId call) := by
  by_cases idle : s.activeCalls.lookup callId = none
  · have starts := s.startRemoteSwmiCall_spec callId call
    generalize s.startRemoteSwmiCall callId call = next at starts
    cases starts with
    | ignored _ => exact .refl
    | reserved heard waits =>
      refine (Begins.takeReserved waits).beginning.trans ?_
      exact @beginning_activateRemoteCall (s.takeReservedGroup callId) callId idle _ call
    | @allocated _ radio heard nothing opened =>
      refine (Begins.allocate opened).beginning.trans ?_
      exact @beginning_activateRemoteCall (s.setRadio radio) callId idle _ call
    | deferred heard nothing full => exact (Begins.refused full).beginning.tail (.deferCall callId call)
  · unfold startRemoteSwmiCall
    rw [if_pos (by rw [Option.isSome_iff_ne_none.mpr idle, Bool.or_true])]

theorem beginning_activatePending (s : CcBs) (callId : Nat) :
    Beginning s (activatePending s callId) := by
  unfold activatePending
  split
  · exact .refl
  · exact (Begins.dropPending callId).beginning.trans (beginning_startRemoteSwmiCall _ callId _)

theorem beginning_activatePendingRemoteSwmiCalls (s : CcBs) (order groups : List Nat) :
    Beginning s (s.activatePendingRemoteSwmiCalls order groups) :=
  beginning_foldl (fun state callId _ => beginning_activatePending state callId) s

end CcBs

end Bluestation.Cc
