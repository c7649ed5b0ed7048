/-
**Decisions and tokens.**

The procedures of call control change what is kept under tokens in chains of changes; most of them change
nothing there. A decision of the network admits no token.

* `Cc.CcBs.Manages` — a chain of changes.
* `Cc.CcBs.manages_of_beginning` — the procedures that start and end calls.
* `Cc.CcBs.manages_swmiAction` — every decision.
-/

import Bluestation.Cmce.Tokens

namespace Bluestation.Cc

namespace CcBs

def admissions (s : CcBs) : Admissions :=
  ⟨s.capacity.entries, s.capacity.contexts, s.capacity.refresh, s.capacity.suspending,
    s.capacity.suspendGuard, s.capacity.nextLocal⟩

def Manages (queue : CapacityQueue) (may : Nat → Prop) (s next : CcBs) : Prop :=
  Relation.ReflTransGen (fun before after => Admissions.Changes before queue may after) s.admissions
    next.admissions

variable {queue : CapacityQueue} {may : Nat → Prop} {s next last : CcBs}

theorem Manages.refl (s : CcBs) : Manages queue may s s := Relation.ReflTransGen.refl

theorem Manages.trans (first : Manages queue may s next) (second : Manages queue may next last) :
    Manages queue may s last := Relation.ReflTransGen.trans first second

/-- Nothing is changed under the tokens. -/
theorem Manages.same (kept : next.admissions = s.admissions) : Manages queue may s next := by
  unfold Manages
  rw [kept]

/-- A chain starts with what changes nothing under the tokens. -/
theorem Manages.after (manages : Manages queue may next last) (kept : next.admissions = s.admissions) :
    Manages queue may s last := Manages.trans (.same kept) manages

theorem Manages.one (change : Admissions.Changes s.admissions queue may next.admissions) :
    Manages queue may s next := .single change

theorem Manages.ite {condition : Prop} [Decidable condition] {other : CcBs}
    (yes : condition → Manages queue may s next) (no : ¬ condition → Manages queue may s other) :
    Manages queue may s (if condition then next else other) := by
  split
  · exact yes ‹_›
  · exact no ‹_›

theorem Manages.foldl {Item : Type} {act : CcBs → Item → CcBs} {items : List Item}
    (one : ∀ s, ∀ item ∈ items, Manages queue may s (act s item)) (s : CcBs) :
    Manages queue may s (items.foldl act s) :=
  items.foldlRecOn act (.refl s) fun next held item member => held.trans (one next item member)

theorem Manages.induct {holds : Admissions → Prop} (manages : Manages queue may s next)
    (start : holds s.admissions)
    (step : ∀ before after, Admissions.Changes before queue may after → holds before → holds after) :
    holds next.admissions := by
  unfold Manages at manages
  generalize next.admissions = reached at manages ⊢
  induction manages with
  | refl => exact start
  | tail _ change ih => exact step _ _ change ih

theorem Manages.consistent (sound : queue.Sound) (manages : Manages queue may s next)
    (consistent : s.admissions.Consistent) : next.admissions.Consistent :=
  manages.induct consistent fun _ _ change => change.consistent sound

theorem Manages.spent (sound : queue.Sound) (manages : Manages queue may s next) {token : Nat}
    (denied : ¬ may token) (spent : token ∉ s.capacity.entries) : token ∉ next.capacity.entries :=
  @Manages.induct queue may s next (fun kept => token ∉ kept.entries) manages spent
    fun _ _ change => change.spent sound denied

theorem Manages.descends (sound : queue.Sound) (manages : Manages queue may s next) {token : Nat}
    {entry : CapacityEntry} (found : next.capacity.entries.lookup token = some entry)
    (denied : ¬ may token) :
    ∃ old, s.capacity.entries.lookup token = some old ∧ entry.callId = old.callId := by
  refine @Manages.induct queue may s next (fun kept => ∀ entry, kept.entries.lookup token = some entry →
    ∃ old, s.capacity.entries.lookup token = some old ∧ entry.callId = old.callId) manages
    (fun entry stood => ⟨entry, stood, rfl⟩) (fun before after change held entry stood => ?_) entry found
  obtain ⟨between, there, same⟩ := change.descends sound stood denied
  obtain ⟨old, first, equal⟩ := held between there
  exact ⟨old, first, same.trans equal⟩

/-! ### Calls start and end -/

theorem amends_observePriority (message : SwmiMessage) (contexts : Table CapacityContext)
    (entries : Table CapacityEntry) :
    AmendsEntries entries (observePriority message contexts entries) := by
  cases message with
  | groupCallPriorityChanged callId priority =>
    unfold observePriority
    dsimp only
    generalize List.filter _ contexts.entries = items
    induction items generalizing entries with
    | nil => exact .refl entries
    | cons item items ih =>
      refine .trans ?_ (ih _)
      exact .modify entries item.1 fun entry => rfl
  | _ => exact .refl entries

theorem manages_observeContexts (s : CcBs) (message : SwmiMessage) :
    Manages queue may s (s.observeContexts message) := by
  refine .tail (.single (.amend (amends_observePriority message
    s.capacity.contexts s.capacity.entries))) (.follow fun token => ?_)
  show token ∈ s.capacity.contexts.mapValues _ ↔ token ∈ s.capacity.contexts
  rw [← AList.lookup_isSome, ← AList.lookup_isSome, Table.lookup_mapValues, Option.isSome_map]

theorem Ends.manages (change : Ends s next) : Manages queue may s next := by
  cases change with
  | listen listens => exact .same (by rw [listens.rest]; rfl)
  | forgetToken token => exact .one (.forget token)
  | observeContexts message => exact manages_observeContexts s message
  | _ => exact .same rfl

theorem Begins.manages (change : Begins s next) : Manages queue may s next := by
  cases change with
  | ends change => exact change.manages
  | _ => exact .same rfl

theorem manages_of_beginning (changes : Beginning s next) : Manages queue may s next := by
  induction changes with
  | refl => exact .refl s
  | tail _ last ih => exact ih.trans last.manages

theorem manages_of_ending (changes : Ending s next) : Manages queue may s next :=
  manages_of_beginning (beginning_of_ending changes)

/-! ### Private calls -/

theorem manages_allocateEndpoint (callId : Nat) (endpointMask : EndpointMask) (duplex shares : Bool)
    (progress : EndpointProgress) (endpoint : EndpointMask × Nat) :
    Manages queue may progress.state
      (allocateEndpoint callId endpointMask duplex shares progress endpoint).state := by
  unfold allocateEndpoint
  split
  · exact .refl _
  · split
    · exact .same rfl
    · split
      · exact .same rfl
      next radio _ =>
        have undone := @Manages.foldl queue may _ (undoEndpoint callId) progress.allocated
          (fun state given _ => .same rfl) (progress.state.setRadio radio)
        exact undone.after rfl

theorem manages_allocateEndpoints (callId : Nat) (endpointMask : EndpointMask) (duplex shares : Bool)
    (endpoints : List (EndpointMask × Nat)) (progress : EndpointProgress) :
    Manages queue may progress.state
      (endpoints.foldl (allocateEndpoint callId endpointMask duplex shares) progress).state := by
  induction endpoints generalizing progress with
  | nil => exact .refl _
  | cons endpoint endpoints ih =>
    exact (manages_allocateEndpoint callId endpointMask duplex shares progress endpoint).trans (ih _)

theorem manages_allocatePrivateCallResources (s : CcBs) (callId callerItsi calleeItsi : Nat)
    (endpointMask : EndpointMask) (duplex : Bool) :
    Manages queue may s
      (s.allocatePrivateCallResources callId callerItsi calleeItsi endpointMask duplex).2 := by
  unfold allocatePrivateCallResources
  split
  · exact .refl s
  · dsimp only
    generalize sharesCircuit duplex _ = shares
    generalize hprogress : EndpointProgress.mk _ _ _ _ = progress
    have masked : Manages queue may s progress.state := hprogress ▸ .same rfl
    have folded := masked.trans (manages_allocateEndpoints callId endpointMask duplex shares
      (endpointsOf callerItsi calleeItsi) progress)
    split
    · exact folded.trans (.same rfl)
    · exact folded

theorem manages_reservePrivateCallResources (s : CcBs) (callId : Nat)
    (reservation : PendingPrivateReservation) :
    Manages queue may s (s.reservePrivateCallResources callId reservation) := by
  have allocated := @manages_allocatePrivateCallResources queue may s callId reservation.callerItsi
    reservation.calleeItsi reservation.endpointMask reservation.duplex
  unfold reservePrivateCallResources
  dsimp only
  split
  · exact allocated
  · split
    · exact allocated.trans (.same rfl)
    · exact allocated

theorem manages_retryCallsWaitingForCircuits (s : CcBs) (order : List Nat) :
    Manages queue may s (s.retryCallsWaitingForCircuits order) := by
  refine .trans ?_ (manages_of_beginning (beginning_activatePendingRemoteSwmiCalls _ _ _))
  refine .after (.foldl (fun state entry _ => ?_) s.takeReservations) rfl
  exact manages_reservePrivateCallResources state entry.1 entry.2

theorem manages_startEndpointMedia (callId : Nat) (call : PrivateCallLocal) (s : CcBs) (itsi : Nat) :
    Manages queue may s (startEndpointMedia callId call s itsi) := by
  unfold startEndpointMedia
  split
  · exact .refl s
  · exact .same rfl

theorem manages_recordUplinkCallLocation (s : CcBs) (issi callId : Nat) :
    Manages queue may s (s.recordUplinkCallLocation issi callId) := by
  unfold recordUplinkCallLocation
  split
  · exact .same rfl
  · split
    · exact .same rfl
    · exact .refl s

theorem manages_recordEndpoints (s : CcBs) (callId : Nat) (endpoints : List Nat) :
    Manages queue may s (s.recordEndpoints callId endpoints) :=
  Manages.foldl (fun state itsi _ => manages_recordUplinkCallLocation state itsi callId) s

theorem manages_tellAll (timeslots : List Nat) (dest : TetraEntity) (message : Nat → CallControl)
    (s : CcBs) : Manages queue may s (timeslots.foldl (fun s ts => s.tell dest (message ts)) s) :=
  @Manages.foldl queue may _ (fun s ts => s.tell dest (message ts)) timeslots (fun _ _ _ => .same rfl) s

theorem manages_connectPrivateCall (s : CcBs) (callId initialFloorItsi : Nat) :
    Manages queue may s (s.connectPrivateCall callId initialFloorItsi) := by
  have media (state : CcBs) (call : PrivateCallLocal) (endpoints : List Nat) :
      Manages queue may state (state.startMedia callId call endpoints) := by
    refine .ite (fun _ => .refl state) fun _ => ?_
    exact .foldl (fun state itsi _ => manages_startEndpointMedia callId call state itsi) state
  have traffic (state : CcBs) (call : PrivateCallLocal) :
      Manages queue may state (state.activateTraffic callId call) :=
    .ite (fun _ => manages_tellAll _ _ _ state) fun _ => .refl state
  have floor (state : CcBs) (call : PrivateCallLocal) :
      Manages queue may state (state.grantFirstFloor callId call initialFloorItsi) := by
    refine .ite (fun _ => ?_) fun _ => .refl state
    unfold grantSharedFloor
    split
    · exact .same rfl
    · exact .refl state
  unfold connectPrivateCall
  split
  · exact .refl s
  · refine .trans ?_ (manages_recordEndpoints _ callId _)
    refine .trans ?_ (floor _ _)
    refine .trans ?_ (traffic _ _)
    exact (media _ _ _).after rfl

theorem manages_restorePrivateCall (s : CcBs) (callId callerItsi calleeItsi : Nat)
    (hook duplex requestToTransmit : Bool) (priority initialFloorItsi : Nat)
    (endpointMask : EndpointMask) :
    Manages queue may s (s.restorePrivateCall callId callerItsi calleeItsi hook duplex requestToTransmit
      priority initialFloorItsi endpointMask) := by
  have media (state : CcBs) (call : PrivateCallLocal) (shared : Option Nat) :
      Manages queue may state (state.restoreMedia callId call shared endpointMask) := by
    unfold restoreMedia
    split
    · exact .same rfl
    · exact .foldl (fun state itsi _ => manages_startEndpointMedia callId call state itsi) state
  unfold restorePrivateCall
  dsimp only
  generalize hknown : knowPrivateCall s callId _ _ = known
  have knows : Manages queue may s known := hknown ▸ .same rfl
  have allocated := knows.trans (manages_allocatePrivateCallResources known callId callerItsi calleeItsi
    endpointMask duplex)
  split
  · exact allocated
  · split
    · exact allocated
    · refine .trans ?_ (manages_recordEndpoints _ callId _)
      refine .trans ?_ (manages_tellAll _ _ _ _)
      exact allocated.trans (media _ _ _)

theorem manages_detachRoamedPrivateEndpoint (s : CcBs) (order : List Nat) (callId departedItsi : Nat) :
    Manages queue may s (s.detachRoamedPrivateEndpoint order callId departedItsi) := by
  have closed (state : CcBs) (departed : Option CmceCircuit) :
      Manages queue may state (state.closeDeparted callId departed).2 := by
    unfold closeDeparted
    split
    · exact .refl state
    · split
      · exact .refl state
      · exact .same rfl
  have refreshed (state : CcBs) : Manages queue may state (state.refreshMedia callId) := by
    unfold refreshMedia
    split
    · exact .refl state
    · exact .foldl (fun state itsi _ => manages_startEndpointMedia callId _ state itsi) state
  have media (call : PrivateCallLocal) (bit : EndpointMask) (departed : Option CmceCircuit) :
      Manages queue may s
        (((s.dropEndpoint callId departedItsi call bit).closeDeparted callId departed).2.refreshMedia
          callId) :=
    ((closed _ departed).trans (refreshed _)).after rfl
  unfold detachRoamedPrivateEndpoint
  split
  · exact .refl s
  · refine .ite (fun _ => .refl s) fun _ => .ite (fun _ => ?_) fun _ => media _ _ _
    exact (media _ _ _).trans (manages_retryCallsWaitingForCircuits _ order)

/-! ### Group calls -/

theorem manages_announceSetup (s : CcBs) (setting : CcSetting) (caller gssi : Nat)
    (central : Option CentralSetup) (circuit : CmceCircuit) (call : ActiveCall) :
    Manages queue may s (s.announceSetup setting caller gssi central circuit call) := by
  have tells (state : CcBs) (condition : Bool) (dest : TetraEntity) (message : CallControl) :
      Manages queue may state (if condition then state.tell dest message else state) :=
    .ite (fun _ => .same rfl) fun _ => .refl state
  exact ((tells _ _ _ _).trans (tells _ _ _ _)).trans (tells _ _ _ _)

theorem manages_trackGroupCallListeners (s : CcBs) (callId : Nat) :
    Manages queue may s (s.trackGroupCallListeners callId) := by
  refine .same ?_
  rw [(@listensOnly_trackGroupCallListeners (fun _ => True) s (fun _ _ => trivial) callId).rest]
  rfl

theorem manages_runGroupCall (s : CcBs) (setting : CcSetting) (caller gssi : Nat) (pdu : USetup)
    (central : Option CentralSetup) (circuit : CmceCircuit) :
    Manages queue may s (s.runGroupCall setting caller gssi pdu central circuit) := by
  refine .trans ?_ (manages_announceSetup _ setting caller gssi central circuit _)
  exact (manages_trackGroupCallListeners _ circuit.callId).after rfl

theorem manages_openGroupCall (s : CcBs) (setting : CcSetting) (caller gssi : Nat) (pdu : USetup)
    (central : Option CentralSetup) :
    Manages queue may s (s.openGroupCall setting caller gssi pdu central) := by
  unfold openGroupCall
  split
  · exact (manages_runGroupCall _ setting caller gssi pdu central _).after rfl
  · split
    · exact (manages_runGroupCall _ setting caller gssi pdu central _).after rfl
    · exact .same rfl

theorem manages_rxUSetupWith {localSetup : CcBs → Nat → Nat → USetup → Option CcBs}
    (s : CcBs) (setting : CcSetting) (around : Surroundings) (caller : Nat) (pdu : USetup)
    (admits : ∀ state gssi admitted, state.admissions = s.admissions →
      localSetup state caller gssi pdu = some admitted → Manages queue may state admitted) :
    Manages queue may s (s.rxUSetupWith localSetup setting around caller pdu) := by
  refine .ite (fun _ => ?_) fun _ => .ite (fun _ => .refl s) fun _ => ?_
  · exact .ite (fun _ => .refl s) fun _ => .same rfl
  · split
    · exact .refl s
    next gssi _ =>
      refine .ite (fun _ => .refl s) fun _ => .ite (fun _ => .same rfl) fun _ => ?_
      refine .ite (fun _ => .same rfl) fun _ => ?_
      split
      next admitted found =>
        split at found
        · exact (admits (s.takeCentralSetup (caller, gssi)) gssi admitted rfl found).after rfl
        · cases found
      · exact (manages_openGroupCall _ setting caller gssi pdu _).after rfl

theorem manages_resumeSetup (s : CcBs) (setting : CcSetting) (around : Surroundings) (key : Nat × Nat)
    (central : CentralSetup) : Manages queue may s (s.resumeSetup setting around key central) := by
  unfold resumeSetup
  split
  · exact .refl s
  · refine (manages_rxUSetupWith _ setting around key.1 _ fun _ _ _ _ none => ?_).after rfl
    cases none

theorem manages_groupCallStart (s : CcBs) (setting : CcSetting) (around : Surroundings)
    (callId ownerItsi gssi priority floorItsi : Nat) (acknowledged : Bool)
    (restoringItsi : Option Nat) :
    Manages queue may s (s.groupCallStart setting around callId ownerItsi gssi priority floorItsi
      acknowledged restoringItsi) := by
  unfold groupCallStart
  split
  · exact .refl s
  · split
    · exact manages_resumeSetup s setting around _ _
    · refine .ite (fun _ => .same rfl) fun _ => ?_
      exact manages_of_beginning (beginning_startRemoteSwmiCall s _ _)

/-! ### Decisions -/

theorem manages_applyCentralFloorGrant (s : CcBs) (callId itsi : Nat) :
    Manages queue may s (s.applyCentralFloorGrant callId itsi) := by
  unfold applyCentralFloorGrant
  split
  · exact .refl s
  · exact .same rfl

theorem manages_floorPreempted (s : CcBs) (callId previousItsi nextItsi : Nat) :
    Manages queue may s (s.floorPreempted callId previousItsi nextItsi) := by
  have applied (state : CcBs) :
      Manages queue may state (state.applyFloorPreemption callId previousItsi).2 := by
    unfold applyFloorPreemption
    split
    · exact .refl state
    · split
      · exact .refl state
      · exact .same rfl
  have pending (change : PendingRemoteSwmiCall → PendingRemoteSwmiCall) : Manages queue may s
      ((s.amendPendingCall callId change).applyFloorPreemption callId previousItsi).2 :=
    (applied _).after rfl
  refine .ite (fun _ => ?_) fun _ => pending _
  exact (pending _).trans (.same rfl)

theorem manages_floorGranted (s : CcBs) (callId itsi : Nat) :
    Manages queue may s (s.floorGranted callId itsi) := by
  refine .ite (fun _ => .same rfl) fun _ => ?_
  exact (manages_applyCentralFloorGrant _ callId itsi).after rfl

theorem manages_floorReleased (s : CcBs) (callId : Nat) :
    Manages queue may s (s.floorReleased callId) := by
  unfold floorReleased
  dsimp only
  split
  · exact .same rfl
  · exact .same rfl

theorem manages_callRelease (s : CcBs) (setting : CcSetting) (order : List Nat) (callId : Nat) :
    Manages queue may s (s.callRelease setting order callId) := by
  unfold callRelease
  split
  · exact .same rfl
  · exact (manages_of_ending (ending_releaseCall setting order _ _)).after rfl

theorem manages_offerPrivateCall (s : CcBs) (callId : Nat) (call : PrivateCallLocal) :
    Manages queue may s (s.offerPrivateCall callId call) := .same rfl

theorem manages_privateFloorGranted (s : CcBs) (callId itsi : Nat) :
    Manages queue may s (s.privateFloorGranted callId itsi) := by
  unfold privateFloorGranted
  split
  · exact .refl s
  · exact (manages_tellAll _ _ _ _).after rfl

theorem manages_privateFloorReleased (s : CcBs) (callId : Nat) :
    Manages queue may s (s.privateFloorReleased callId) := by
  unfold privateFloorReleased
  split
  · exact .refl s
  · exact (manages_tellAll _ _ _ _).after rfl

theorem manages_releasePrivateEndpoint (s : CcBs) (callId itsi : Nat) :
    Manages queue may s (s.releasePrivateEndpoint callId itsi) := by
  unfold releasePrivateEndpoint
  split
  · exact .refl s
  · refine .ite (fun _ => .refl s) fun _ => ?_
    dsimp only
    split
    · exact .same rfl
    · exact .same rfl

theorem manages_callReject (s : CcBs) (setupOrder : List (Nat × Nat)) (callId itsi : Nat) :
    Manages queue may s (s.callReject setupOrder callId itsi) := by
  refine .ite (fun _ => .refl s) fun _ => .ite (fun _ => .same rfl) fun _ => ?_
  split
  · exact .same rfl
  · exact .refl s

theorem manages_withCallId (s : CcBs) (callId : Nat) {act : Nat → CcBs}
    (acts : ∀ callId, Manages queue may s (act callId)) :
    Manages queue may s (s.withCallId callId act) := by
  unfold withCallId
  split
  · exact acts _
  · exact .refl s

theorem manages_reserve (s : CcBs) (setting : CcSetting) (itsi centralCallId ownerItsi gssi priority
    floorItsi : Nat) (acknowledged : Bool) :
    Manages queue may s (s.reserveSeamlessHandoverGroupCall setting itsi centralCallId ownerItsi gssi
      priority floorItsi acknowledged).2 := by
  have channel (state : CcBs) :
      Manages queue may state (state.channelFor setting itsi centralCallId).2 := by
    unfold channelFor
    split
    · exact .refl state
    · split
      · exact manages_recordUplinkCallLocation state itsi centralCallId
      · exact .refl state
  unfold reserveSeamlessHandoverGroupCall
  split
  · exact .refl s
  · dsimp only
    split
    · split
      · exact .same rfl
      · exact (channel (s.admitRoamer itsi gssi)).after rfl
    · refine @Manages.after queue may s (s.admitRoamer itsi gssi) _ (.trans ?_ (channel _)) rfl
      exact manages_of_beginning (beginning_startRemoteSwmiCall _ _ _)

/-- **A decision admits no token.** -/
theorem manages_carryOut (s : CcBs) (setting : CcSetting) (around : Surroundings)
    (message : SwmiMessage) : Manages queue may s (s.carryOut setting around message) := by
  have known {callId : Nat} {act : Nat → CcBs} (acts : ∀ callId, Manages queue may s (act callId)) :
      Manages queue may s (s.withCallId callId act) := manages_withCallId s callId acts
  cases message with
  | capacity message => exact .refl s
  | handoverReserveGroupCall => exact manages_reserve s setting ..
  | groupCallStart => exact manages_groupCallStart s setting around ..
  | groupCallPriorityChanged => exact known fun _ => .same rfl
  | floorPreempted => exact known fun callId => manages_floorPreempted s callId _ _
  | floorGranted => exact known fun callId => manages_floorGranted s callId _
  | floorReleased => exact known fun callId => manages_floorReleased s callId
  | callRelease callId => exact manages_callRelease s setting around.order callId
  | callDisconnect callId => exact manages_callRelease s setting around.order callId
  | privateCallProceeding =>
    refine known fun callId => ?_
    exact .ite (fun _ => .same rfl) fun _ => .refl s
  | privateCallOffer => exact known fun callId => manages_offerPrivateCall s callId _
  | externalCallOffer =>
    refine .ite (fun _ => ?_) fun _ => .refl s
    exact known fun callId => manages_offerPrivateCall s callId _
  | privateCallWaitingOffer => exact known fun callId => manages_offerPrivateCall s callId _
  | privateCallReserve => exact known fun callId => manages_reservePrivateCallResources s callId _
  | privateCallConnected => exact known fun callId => manages_connectPrivateCall s callId _
  | privateCallRestore => exact known fun callId => manages_restorePrivateCall s callId ..
  | privateCallWaitingSync => exact known fun callId => manages_offerPrivateCall s callId _
  | privateCallEndpointMoved =>
    exact known fun callId => manages_detachRoamedPrivateEndpoint s around.order callId _
  | privateCallRelease =>
    exact known fun callId => manages_of_ending (ending_releasePrivateCallLocal s callId)
  | privateFloorGranted => exact known fun callId => manages_privateFloorGranted s callId _
  | privateFloorReleased => exact known fun callId => manages_privateFloorReleased s callId
  | callReject callId itsi => exact manages_callReject s around.setupOrder callId itsi
  | callWaitingResponse =>
    refine .ite (fun _ => ?_) fun _ => .refl s
    exact known fun callId => manages_releasePrivateEndpoint s callId _

theorem manages_capacityObserve (s : CcBs) (order : List Nat) (message : SwmiMessage) :
    Manages queue may s (s.capacityObserve order message) :=
  manages_of_ending (ending_capacityObserve s order message)

theorem manages_swmiAction (s : CcBs) (setting : CcSetting) (around : Surroundings)
    (message : SwmiMessage) : Manages queue may s (s.swmiAction setting around message) :=
  (manages_capacityObserve s around.order message).trans (manages_carryOut _ setting around message)

end CcBs

end Bluestation.Cc
