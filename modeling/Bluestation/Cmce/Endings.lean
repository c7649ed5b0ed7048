/-
**What is done when calls end.**

The procedures that end calls are chains of a few changes. What each of the changes preserves, all the
procedures preserve.

* `Cc.CcBs.Ends` — one change.
* `Cc.CcBs.Ending` — a chain of changes.
* `Cc.CcBs.ending_releaseCall`, `Cc.CcBs.ending_releasePrivateCallLocal`, `Cc.CcBs.ending_capacityForget` —
  the procedures are such chains.
-/

import Bluestation.Cmce.Release
import Mathlib.Logic.Relation

namespace Bluestation.Cc

open List

namespace CcBs

def Knows (s : CcBs) (issi : Nat) : Prop := issi ∈ s.subscribers.subscriberGroups

/-- A change that is made when a call ends. -/
inductive Ends (s : CcBs) : CcBs → Prop
  | tell (dest : TetraEntity) (message : CallControl) : Ends s (s.tell dest message)
  | close {callId ts : Nat} (circuit : CmceCircuit) (own : s.circuits.callIdAt ts = some callId) :
      Ends s (s.closeCircuit ts circuit)
  | vacate {ts : Nat} (closed : s.circuits.dl.lookup ts = none) : Ends s (s.releaseTimeslot ts)
  | takeReserved (callId : Nat) (keep : Nat × Nat → CmceCircuit → Bool)
      (others : ∀ key circuit, key.1 ≠ callId → keep key circuit = true) :
      Ends s
        { s.takeReservedGroup callId with
          privateCircuits := s.privateCircuits.retain keep }
  | forgetToken (token : Nat) : Ends s (s.forgetToken token)
  | dropSetups (gssi : Nat) : Ends s (s.dropSetups gssi)
  | dropSuspended (callId : Nat) : Ends s (s.dropSuspended callId)
  | observeContexts (message : SwmiMessage) : Ends s (s.observeContexts message)
  | dropGrant (callId : Nat) :
      Ends s
        { s with
          pendingPreemptiveFloorGrants := s.pendingPreemptiveFloorGrants.erase callId }
  | endCall (callId : Nat) : Ends s (s.endCall callId)
  | listen {next : CcBs} (listens : ListensOnly s.Knows s next) : Ends s next
  | awaitRelease {callId : Nat} (call : ActiveCall) (ended : s.activeCalls.lookup callId = none) :
      Ends s (s.awaitRelease callId call)
  | dropReservation (callId : Nat) :
      Ends s
        { s with
          pendingPrivateReservations := s.pendingPrivateReservations.erase callId }
  | endPrivateCall (callId : Nat) :
      Ends s
        { s with
          privateCalls := s.privateCalls.erase callId }
  | takeCircuit (key : Nat × Nat) :
      Ends s
        { s with
          privateCircuits := s.privateCircuits.erase key }
  | drainCircuit (releasing : ReleasingPrivateCircuit) :
      Ends s
        { s with
          releasingPrivateCircuits := s.releasingPrivateCircuits ++ [releasing] }

/-- Changes that are made when calls end. -/
abbrev Ending : CcBs → CcBs → Prop := Relation.ReflTransGen Ends

variable {s next : CcBs}

theorem Ends.ending (change : Ends s next) : Ending s next := .single change

theorem ending_foldl {Item : Type} {act : CcBs → Item → CcBs} {items : List Item}
    (one : ∀ s, ∀ item ∈ items, Ending s (act s item)) (s : CcBs) : Ending s (items.foldl act s) :=
  foldlRecOn items act .refl fun next ended item member => ended.trans (one next item member)

/-! ### Circuits that wait for their call -/

theorem ending_closeOwnCircuit (callId : Nat) (s : CcBs) (circuit : CmceCircuit) :
    Ending s (closeOwnCircuit callId s circuit) := by
  unfold closeOwnCircuit
  split
  next own =>
    exact (Ends.close circuit own).ending
  · exact .refl

theorem ending_capacityReleaseReserved (s : CcBs) (callId : Nat) :
    Ending s (s.capacityReleaseReserved callId) := by
  refine .head ?_ (ending_foldl (fun state circuit _ =>
    ending_closeOwnCircuit callId state circuit) _)
  by_cases active : s.capacityActive callId = true
  · rw [if_pos active]
    have whole : s.privateCircuits.retain (fun _ _ => true) = s.privateCircuits :=
      AList.ext (filter_eq_self.mpr fun _ _ => rfl)
    have taken := Ends.takeReserved (s := s) callId (fun _ _ => true) fun _ _ _ => rfl
    rw [whole] at taken
    exact taken
  · rw [if_neg active]
    exact .takeReserved callId _ fun key _ other => decide_eq_true other

theorem dropToken_releaseReserved (s : CcBs) (token callId : Nat) :
    (s.capacityReleaseReserved callId).dropToken token =
      (s.dropToken token).capacityReleaseReserved callId := by
  refine (foldl_hom (fun state : CcBs => state.dropToken token) fun state circuit => ?_).symm
  unfold closeOwnCircuit
  rw [show (state.dropToken token).circuits = state.circuits from rfl]
  split
  · rfl
  · rfl

theorem ending_capacityForget (s : CcBs) (token : Nat) : Ending s (s.capacityForget token) := by
  have forgets := (Ends.forgetToken (s := s) token).ending
  unfold capacityForget
  cases found : s.capacity.entries.lookup token with
  | none =>
    have kept : s.dropEntry token = s := by
      unfold dropEntry
      rw [Table.erase_absent found]
    rw [forgetToken, kept] at forgets
    exact forgets
  | some entry =>
    dsimp only
    split
    · exact forgets
    · rw [dropToken_releaseReserved]
      exact forgets.trans (ending_capacityReleaseReserved _ _)

theorem ending_forgetReleased (s : CcBs) (token : Nat) : Ending s (forgetReleased s token) := by
  refine .trans ?_ (ending_capacityForget _ token)
  split
  · exact (Ends.dropSetups _).ending
  · exact .refl

theorem ending_capacityObserve (s : CcBs) (order : List Nat) (message : SwmiMessage) :
    Ending s (s.capacityObserve order message) := by
  refine .tail ?_ (.observeContexts message)
  split
  · refine .tail ?_ (.dropSuspended _)
    exact ending_foldl (fun state token _ => ending_forgetReleased state token) s
  · exact .refl

/-! ### Group calls -/

theorem ending_finalizeRelease (setting : CcSetting) (s : CcBs) (callId ts destGssi : Nat)
    (isLocal : Bool) (brewUuid : Option Nat) :
    Ending s (s.finalizeRelease setting callId ts destGssi isLocal brewUuid) := by
  have tells (s : CcBs) (condition : Bool) (dest : TetraEntity) (message : CallControl) :
      Ending s (if condition then s.tell dest message else s) := by
    split
    · exact (Ends.tell dest message).ending
    · exact .refl
  unfold finalizeRelease
  extract_lets closed ended central
  have reached : Ending s closed := by
    cases found : s.circuits.dl.lookup ts with
    | none =>
      simp only [closed, found]
      exact (Ends.vacate found).ending
    | some circuit =>
      simp only [closed, found]
      split
      next own =>
        refine (@Ends.close s callId ts circuit ?_).ending
        unfold CircuitMgr.callIdAt
        rw [found, Option.map_some, own]
      · exact .refl
  have central := (reached.tail (.tell .umac (.callEnded callId ts))).trans
    (tells _ setting.hasSwmi .swmi (.callEnded callId ts))
  split
  · have told := central.trans (tells _ isLocal .brew (.callEnded callId ts))
    split
    · exact told.tail (.tell .brew _)
    · exact told
  · exact central

theorem ending_releaseCall (setting : CcSetting) (order : List Nat) (s : CcBs) (callId : Nat) :
    Ending s (releaseCall setting order s callId) := by
  have observed := (ending_capacityObserve s order (.callRelease callId)).tail (.dropGrant callId)
  unfold releaseCall
  dsimp only
  split
  · exact observed
  next call _ =>
    have listens (state : CcBs) : ListensOnly state.Knows state
        (state.reconcileAllSubscriberGroupListeners order) :=
      listensOnly_reconcileAll fun issi known => AList.mem_keys.mpr known
    have reconciled := (observed.tail (.endCall callId)).tail (.listen (listens _))
    split
    · refine reconciled.tail (.awaitRelease call ?_)
      rw [(listens _).rest]
      exact AList.lookup_erase callId _
    · exact reconciled.trans (ending_finalizeRelease ..)

/-! ### Private calls -/

theorem ending_releaseEndpoint (callId : Nat) (state : CcBs × List Nat) (itsi : Nat) :
    Ending state.1 (releaseEndpoint callId state itsi).1 := by
  unfold releaseEndpoint
  split
  · exact .refl
  next circuit _ =>
    have taken := (Ends.takeCircuit (s := state.1) (callId, itsi)).ending
    split
    · exact taken
    · exact taken.tail (.drainCircuit ⟨callId, itsi, circuit, state.1.dltime⟩)

theorem ending_releasePrivateCallLocal (s : CcBs) (callId : Nat) :
    Ending s (s.releasePrivateCallLocal callId) := by
  have settled := (Ends.dropReservation (s := s) callId).ending
  unfold releasePrivateCallLocal
  dsimp only
  split
  · exact settled
  · refine (settled.tail (.endPrivateCall callId)).trans ?_
    generalize List.filter _ _ = endpoints
    generalize ([] : List Nat) = slots
    generalize ({ s with pendingPrivateReservations := _, privateCalls := _ } : CcBs) = removed
    induction endpoints generalizing removed slots with
    | nil => exact .refl
    | cons endpoint endpoints ih =>
      exact (ending_releaseEndpoint callId (removed, slots) endpoint.2).trans (ih _ _)

end CcBs

end Bluestation.Cc
