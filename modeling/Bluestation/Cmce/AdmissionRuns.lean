/-
**Tokens fence old admissions.**

Whatever happens in call control, the tables of the admission stay in step, an offer leaves its call with
the offered token only, and a token without an entry gets one only if it is offered again. A token that is
not known does nothing; a token whose turn it is not does nothing to calls and circuits.

* `Cc.CcBs.manages_capacityOffer`, `Cc.CcBs.manages_capacityTick` — what is admitted by what.
* `Cc.CcBs.AdmissionEvent` — what happens.
* `Cc.CcBs.tokens_fenced` — in every run.
-/

import Bluestation.Cmce.ListenerCounts
import Bluestation.Cmce.TokenChains

namespace Bluestation.Cc

open Machines List Option Table

namespace CcBs

variable {queue : CapacityQueue} {may : Nat → Prop} {s next last : CcBs}

/-! ### Control of a token -/

theorem manages_amendEntry (s : CcBs) (token : Nat) (change : CapacityEntry → CapacityEntry)
    (same : ∀ entry, (change entry).identity = entry.identity) :
    Manages queue may s (s.amendEntry token change) := .one (.amend (.modify s.capacity.entries token same))

theorem manages_setStatus (s : CcBs) (token : Nat) (status : CapacityStatus) :
    Manages queue may s (s.setStatus token status) := manages_amendEntry s token _ fun _ => rfl

theorem manages_capacityReleaseReserved (s : CcBs) (callId : Nat) :
    Manages queue may s (s.capacityReleaseReserved callId) :=
  manages_of_ending (ending_capacityReleaseReserved s callId)

theorem manages_capacityForget (s : CcBs) (token : Nat) : Manages queue may s (s.capacityForget token) :=
  manages_of_ending (ending_capacityForget s token)

theorem manages_capacityAllocate (s : CcBs) (token : Nat) :
    Manages queue may s (s.capacityAllocate token).2 := by
  unfold capacityAllocate
  split
  · dsimp only
    split
    · exact .refl s
    · split
      · exact .same rfl
      · exact .same rfl
  · exact manages_allocatePrivateCallResources s ..
  · exact manages_allocatePrivateCallResources s ..
  · exact .refl s

theorem manages_capacityPrepare (s : CcBs) (around : Surroundings) (token : Nat) (entry : CapacityEntry) :
    Manages queue may s (s.capacityPrepare around token entry) := by
  refine .ite (fun _ => .refl s) fun _ => .ite (fun _ => ?_) fun _ => manages_setStatus s token .queued
  have allocated := @manages_capacityAllocate queue may s token
  refine .ite (fun _ => ?_) fun _ => allocated.trans (manages_setStatus _ token .queued)
  exact allocated.trans (manages_amendEntry _ token _ fun _ => rfl)

theorem manages_capacityCommit (s : CcBs) (setting : CcSetting) (around : Surroundings) (token : Nat)
    (entry : CapacityEntry) : Manages queue may s (s.capacityCommit setting around token entry) := by
  refine .ite (fun _ => .refl s) fun _ => ?_
  split
  · exact .refl s
  · have activated : Manages queue may s (s.activate token) :=
      (manages_amendEntry s token .activated fun _ => rfl).trans (.same rfl)
    have owned (state : CcBs) (callId : Nat) (message : SwmiMessage) :
        Manages queue may state (state.ownLocal token callId message) := by
      unfold ownLocal
      split
      · exact .same rfl
      · exact .refl state
    have acted (message : SwmiMessage) (callId : Nat) : Manages queue may s
        (((s.activate token).swmiAction setting around message).ownLocal token callId message) :=
      (activated.trans (manages_swmiAction _ setting around message)).trans (owned _ callId message)
    refine .trans (.ite (fun _ => ?_) fun _ => acted _ _) (.same rfl)
    exact (acted _ _).trans (.same rfl)

theorem manages_capacityCancel (s : CcBs) (token : Nat) (entry : CapacityEntry) :
    Manages queue may s (s.capacityCancel token entry) := by
  refine .ite (fun _ => .refl s) fun _ => ?_
  exact (manages_capacityReleaseReserved s _).trans (manages_amendEntry _ token _ fun _ => rfl)

theorem manages_capacitySuspend (s : CcBs) (around : Surroundings) (token : Nat) :
    Manages queue may s (s.capacitySuspend around token) := by
  refine .ite (fun _ => .refl s) fun _ => ?_
  split
  · exact .refl s
  next entry found =>
    exact .one (.suspend _ (Admissions.mem_entries_iff.mpr ⟨entry, found⟩))

theorem manages_capacityControl (s : CcBs) (setting : CcSetting) (around : Surroundings) (token : Nat)
    (action : CapacityAction) : Manages queue may s (s.capacityControl setting around token action) := by
  unfold capacityControl
  split
  · exact .refl s
  next entry _ =>
    cases action with
    | prepare => exact manages_capacityPrepare s around token entry
    | commit => exact manages_capacityCommit s setting around token entry
    | cancel => exact manages_capacityCancel s token entry
    | suspend => exact manages_capacitySuspend s around token
    | forget => exact manages_capacityForget s token

/-! ### Time -/

theorem manages_capacityNotifyWait (s : CcBs) (around : Surroundings) (token : Nat) :
    Manages queue may s (s.capacityNotifyWait around token) := by
  unfold capacityNotifyWait
  split
  · exact .refl s
  next entry found =>
    refine .ite (fun _ => .refl s) fun _ => .ite (fun _ => .refl s) fun _ => ?_
    exact .one (.note _ (Admissions.mem_entries_iff.mpr ⟨entry, found⟩))

theorem manages_dropCentralCalls (s : CcBs) (setting : CcSetting) (around : Surroundings) :
    Manages queue may s (s.dropCentralCalls setting around) := by
  refine .trans (.ite (fun _ => ?_) fun _ => .refl s) (.same rfl)
  exact .foldl (fun state callId _ => manages_swmiAction state setting around _) s

theorem manages_expireEntries (sound : queue.Sound) (s : CcBs) (setting : CcSetting)
    (around : Surroundings) : Manages queue may s (s.expireEntries queue setting around) := by
  have aged : Manages queue may s (s.setEntries (queue.expire s.capacity.entries around.now).2) :=
    .one (.amend (sound.ages s.capacity.entries around.now))
  refine aged.trans (.foldl (fun state expiry _ => ?_) _)
  unfold runOut
  split
  · exact .refl state
  · have released := @manages_capacityReleaseReserved queue may state
    refine .ite (fun _ => ?_) fun _ => released _
    exact (released _).trans (manages_swmiAction _ setting around _)

theorem manages_markResuming (s : CcBs) (callId : Nat) : Manages queue may s (s.markResuming callId) :=
  .same rfl

theorem manages_parkGroupCall (s : CcBs) (callId : Nat) :
    Manages queue may s (s.parkGroupCall callId) := by
  unfold parkGroupCall
  split
  · exact .refl s
  · dsimp only
    split
    · exact .same rfl
    · exact .same rfl

theorem manages_capacityFinishSuspend (s : CcBs) (token : Nat) :
    Manages queue may s (s.capacityFinishSuspend token) := by
  have settled : Manages queue may s ((s.endSuspending token).dropGuard token) :=
    (Manages.one (.endSuspending token)).trans (.one (.dropGuard token))
  unfold capacityFinishSuspend
  dsimp only
  split
  · exact settled
  · have paused := settled.trans (manages_amendEntry _ token .paused fun _ => rfl)
    have stopped (state : CcBs) (callId : Nat) (timeslots : List Nat) : Manages queue may state
        (timeslots.foldl (fun s ts => s.stopPrivateMedia callId ts) state) :=
      @Manages.foldl queue may _ (fun s ts => s.stopPrivateMedia callId ts) timeslots
        (fun _ _ _ => .same rfl) state
    refine .trans ?_ (manages_markResuming _ _)
    refine .trans ?_ (manages_capacityReleaseReserved _ _)
    exact (paused.trans (manages_parkGroupCall _ _)).trans (stopped _ _ _)

theorem manages_driveSuspension (s : CcBs) (around : Surroundings) (token : Nat) :
    Manages queue may s (driveSuspension around s token) := by
  unfold driveSuspension
  split
  · exact .refl s
  next due receipts found =>
    have pending : token ∈ s.admissions.suspending := AList.lookup_isSome.mp (isSome_of_eq_some found)
    refine .ite (fun _ => ?_) fun _ => ?_
    · have guarded (time : TdmaTime) : Manages queue may s (s.setGuard token time) :=
        .one (.guard time pending)
      exact .ite (fun _ => (guarded _).trans (manages_capacityFinishSuspend _ token)) fun _ => guarded _
    · exact .ite (fun _ => .one (.endSuspending token)) fun _ => .refl s

theorem manages_suspendVictim (s : CcBs) (around : Surroundings) (priority : Nat) :
    Manages queue may s (s.suspendVictim around priority) := by
  unfold suspendVictim
  split
  · exact .ite (fun _ => manages_capacitySuspend s around _) fun _ => .refl s
  · exact .refl s

theorem manages_serveEntry (state : CcBs × Nat) (around : Surroundings) (retry : Bool) (token : Nat) :
    Manages queue may state.1 (serveEntry around retry state token).1 := by
  unfold serveEntry
  split
  · exact .refl _
  · split
    · exact .refl _
    · have asked (state : CcBs) (need : Option Nat) : Manages queue may state (state.requestPreemption need) :=
        .ite (fun _ => .same rfl) fun _ => .refl state
      have notified (state : CcBs) : Manages queue may state
          (if (state.capacity.refresh.lookup token).getD 0 ≤ around.now then
            state.capacityNotifyWait around token
          else state) :=
        .ite (fun _ => manages_capacityNotifyWait state around token) fun _ => .refl state
      refine .trans ?_ (notified _)
      have marked (retry : Prop) [Decidable retry] (status : CapacityStatus) (state : CcBs) :
          Manages queue may state (if retry then state.setStatus token status else state) :=
        .ite (fun _ => manages_setStatus state token status) fun _ => .refl state
      have urgent (needed : Bool) (priority : Nat) (state : CcBs) : Manages queue may state
          (if needed then state.suspendVictim around priority else state) :=
        .ite (fun _ => manages_suspendVictim state around priority) fun _ => .refl state
      refine .trans ?_ (urgent _ _ _)
      refine .trans ?_ (marked _ _ _)
      exact .ite (fun _ => .refl _) fun _ => asked _ _

theorem manages_serveEntries (s : CcBs) (around : Surroundings) (retry : Bool) :
    Manages queue may s (s.serveEntries queue around retry) := by
  unfold serveEntries
  generalize queue.ordered s.capacity.entries = tokens
  generalize s.freeTimeslots = free
  induction tokens generalizing s free with
  | nil => exact .refl s
  | cons token tokens ih =>
    exact (manages_serveEntry (s, free) around retry token).trans (ih _ _)

theorem manages_admitLocal (s : CcBs) (setting : CcSetting) (around : Surroundings) :
    Manages queue may s (s.admitLocal queue setting around) := by
  refine .foldl (fun state token _ => ?_) s
  exact (manages_capacityControl state setting around token .prepare).trans
    (manages_capacityControl _ setting around token .commit)

/-- **Time admits no token.** -/
theorem manages_capacityTick (sound : queue.Sound) (s : CcBs) (setting : CcSetting)
    (around : Surroundings) : Manages queue may s (s.capacityTick queue setting around) := by
  have scheduled (state : CcBs) : Manages queue may state (state.scheduleRetry around) :=
    .ite (fun _ => .same rfl) fun _ => .refl state
  refine .trans ?_ (manages_admitLocal _ setting around)
  refine .trans ?_ (manages_serveEntries _ around _)
  refine .trans ?_ (.foldl (fun state token _ => manages_driveSuspension state around token) _)
  refine .trans ?_ (manages_expireEntries sound _ setting around)
  exact (manages_dropCentralCalls s setting around).trans (scheduled _)

/-! ### Offers -/

theorem admissions_capacityReleaseReserved (s : CcBs) (callId : Nat) :
    (s.capacityReleaseReserved callId).admissions = s.admissions := by
  have folded (circuits : List CmceCircuit) (state : CcBs) :
      (circuits.foldl (closeOwnCircuit callId) state).admissions = state.admissions := by
    induction circuits generalizing state with
    | nil => rfl
    | cons circuit circuits ih =>
      refine (ih _).trans ?_
      unfold closeOwnCircuit
      split
      · rfl
      · rfl
  exact folded _ _

theorem admissions_capacityForget (s : CcBs) (token : Nat) :
    (s.capacityForget token).admissions = s.admissions.forget token := by
  have ended (state : CcBs) (kept : state.admissions = (s.dropEntry token).admissions) :
      (state.dropToken token).admissions = s.admissions.forget token := by
    show Admissions.mk state.admissions.entries (state.admissions.contexts.erase token)
      (state.admissions.refresh.erase token) (state.admissions.suspending.erase token)
      (state.admissions.suspendGuard.erase token) state.admissions.nextLocal = _
    rw [kept]
    rfl
  unfold capacityForget
  cases found : s.capacity.entries.lookup token with
  | none =>
    refine ended s ?_
    show s.admissions = Admissions.mk (s.capacity.entries.erase token) _ _ _ _ _
    rw [Table.erase_absent found]
    rfl
  | some entry =>
    dsimp only
    split
    · exact ended _ rfl
    · exact ended _ (admissions_capacityReleaseReserved _ _)

theorem supersede_admissions (s : CcBs) (order : List Nat) (callId : Nat) :
    (s.supersede order callId).admissions =
      (s.tokensOf order callId).foldl Admissions.forget s.admissions := by
  unfold supersede
  generalize s.tokensOf order callId = tokens
  induction tokens generalizing s with
  | nil => rfl
  | cons token tokens ih =>
    refine (ih _).trans ?_
    rw [admissions_capacityForget]
    rfl

theorem lookup_forgotten (tokens : List Nat) (kept : Admissions) (token : Nat) :
    (tokens.foldl Admissions.forget kept).entries.lookup token =
      if token ∈ tokens then none else kept.entries.lookup token := by
  induction tokens generalizing kept with
  | nil => exact (if_neg not_mem_nil).symm
  | cons first tokens ih =>
    rw [foldl_cons, ih]
    show (if token ∈ tokens then none else (kept.entries.erase first).lookup token) = _
    rw [Table.lookup_erase_eq]
    by_cases own : token = first
    · rw [if_pos own, ite_self, if_pos (own ▸ mem_cons_self)]
    · rw [if_neg own]
      by_cases later : token ∈ tokens
      · rw [if_pos later, if_pos (mem_cons_of_mem _ later)]
      · rw [if_neg later, if_neg (not_mem_cons_of_ne_of_not_mem own later)]

variable {callId : Nat}

theorem supersede_lookup (consistent : s.admissions.Consistent) {order : List Nat} {token : Nat}
    {entry : CapacityEntry}
    (found : (s.supersede order callId).capacity.entries.lookup token = some entry) :
    entry.callId ≠ callId ∧ s.capacity.entries.lookup token = some entry := by
  have before : (s.supersede order callId).admissions.entries.lookup token = some entry := found
  rw [supersede_admissions, lookup_forgotten] at before
  obtain ⟨stays, stood⟩ := ite_none_left_eq_some.mp before
  refine ⟨fun same => stays ?_, stood⟩
  refine mem_map.mpr ⟨entry, mem_filter.mpr ⟨?_, decide_eq_true same⟩,
    consistent.tokens token entry stood⟩
  exact Table.mem_values.mpr ⟨token, (Table.lookup_rearrange _ order token).trans stood⟩

theorem manages_supersede (s : CcBs) (order : List Nat) (callId : Nat) :
    Manages queue may s (s.supersede order callId) :=
  Manages.foldl (fun state token _ => manages_capacityForget state token) s

theorem admissions_capacityPrepareContext (s : CcBs) (token : Nat) :
    (s.capacityPrepareContext token).admissions = s.admissions := by
  unfold capacityPrepareContext
  split
  · rfl
  · rfl

theorem admissions_awaitTurn (s : CcBs) (token : Nat) (context : CapacityContext)
    (entries : Table CapacityEntry) (victim : Option CapacityEntry) :
    ((s.admitEntry entries victim).awaitTurn token context).admissions =
      s.admissions.enroll token context entries victim := by
  refine (admissions_capacityPrepareContext _ token).trans ?_
  have evicted : (s.admitEntry entries victim).admissions =
      { s.admissions with entries }.evict victim := by
    cases victim with
    | none => rfl
    | some out => exact admissions_capacityForget _ out.token
  show Admissions.mk (s.admitEntry entries victim).admissions.entries
    ((s.admitEntry entries victim).admissions.contexts.insert token context)
    (s.admitEntry entries victim).admissions.refresh (s.admitEntry entries victim).admissions.suspending
    (s.admitEntry entries victim).admissions.suspendGuard
    (s.admitEntry entries victim).admissions.nextLocal = _
  rw [evicted]
  rfl

/-- How an offer goes: it is not taken, it is refused, or its call joins the queue. -/
inductive Offers (queue : CapacityQueue) (setting : CcSetting) (around : Surroundings) (s : CcBs)
    (entry : CapacityEntry) (offered : Option CapacityContext) : CcBs → Prop
  | ignored (idle : entry.token ∈ s.capacity.entries ∨ offered.filter (·.callId = entry.callId) = none) :
      Offers queue setting around s entry offered s
  | refused (fresh : entry.token ∉ s.capacity.entries) :
      Offers queue setting around s entry offered (s.supersede around.order entry.callId)
  | joined {context : CapacityContext} {victim : Option CapacityEntry} {entries : Table CapacityEntry}
      {policy : CapacityPolicy} (fresh : entry.token ∉ s.capacity.entries)
      (inserted : queue.insert (s.supersede around.order entry.callId).capacity.entries entry policy =
        some (victim, entries)) :
      Offers queue setting around s entry offered
        ((((s.supersede around.order entry.callId).admitEntry entries victim).awaitTurn entry.token
          context).capacityTick queue setting around)

theorem capacityOffer_spec (queue : CapacityQueue) (setting : CcSetting) (around : Surroundings) (s : CcBs)
    (entry : CapacityEntry) (offered : Option CapacityContext) :
    Offers queue setting around s entry offered (s.capacityOffer queue setting around entry offered) := by
  unfold capacityOffer
  split
  next known =>
    exact .ignored (.inl known)
  next fresh =>
    split
    next unreadable =>
      exact .ignored (.inr unreadable)
    · dsimp only
      split
      · exact .refused fresh
      next inserted =>
        exact .joined fresh inserted

theorem manages_awaitTurn (consistent : s.admissions.Consistent) {order : List Nat} {entry : CapacityEntry}
    {victim : Option CapacityEntry} {entries : Table CapacityEntry} {policy : CapacityPolicy}
    (context : CapacityContext) (allowed : may entry.token) (fresh : entry.token ∉ s.capacity.entries)
    (inserted : queue.insert (s.supersede order entry.callId).capacity.entries entry policy =
      some (victim, entries)) :
    Manages queue may s
      (((s.supersede order entry.callId).admitEntry entries victim).awaitTurn entry.token context) := by
  refine (manages_supersede s order entry.callId).trans (.one ?_)
  rw [admissions_awaitTurn]
  refine .enroll context allowed (fun member => ?_) (fun token other found => ?_) inserted
  · obtain ⟨held, found⟩ := Admissions.mem_entries_iff.mp member
    exact fresh (Admissions.mem_entries_iff.mpr ⟨held, (supersede_lookup consistent found).2⟩)
  · exact (supersede_lookup consistent found).1

/-- **An offer admits its own token only.** -/
theorem manages_capacityOffer (sound : queue.Sound) (consistent : s.admissions.Consistent)
    (setting : CcSetting) (around : Surroundings) (entry : CapacityEntry)
    (offered : Option CapacityContext) (allowed : may entry.token) :
    Manages queue may s (s.capacityOffer queue setting around entry offered) := by
  have offers := capacityOffer_spec queue setting around s entry offered
  generalize s.capacityOffer queue setting around entry offered = next at offers
  cases offers with
  | ignored _ => exact .refl s
  | refused _ => exact manages_supersede s around.order entry.callId
  | joined fresh inserted =>
    exact (manages_awaitTurn consistent _ allowed fresh inserted).trans
      (manages_capacityTick sound _ setting around)

/-- **An offer that is taken leaves its call with its own token only.** -/
theorem capacityOffer_only (sound : queue.Sound) (consistent : s.admissions.Consistent)
    {setting : CcSetting} {around : Surroundings} {entry : CapacityEntry} {context : CapacityContext}
    (fresh : entry.token ∉ s.capacity.entries) (call : context.callId = entry.callId) {token : Nat}
    {other : CapacityEntry} (found : (s.capacityOffer queue setting around entry
      (some context)).capacity.entries.lookup token = some other)
    (same : other.callId = entry.callId) : token = entry.token := by
  have offers := capacityOffer_spec queue setting around s entry (some context)
  generalize s.capacityOffer queue setting around entry (some context) = next at offers found
  cases offers with
  | ignored idle =>
    refine absurd idle (not_or.mpr ⟨fresh, fun unreadable => ?_⟩)
    rw [filter_some, if_pos (decide_eq_true call)] at unreadable
    cases unreadable
  | refused _ => exact absurd same (supersede_lookup consistent found).1
  | @joined context victim entries policy _ inserted =>
    obtain ⟨held, stood, equal⟩ := (@manages_capacityTick queue (fun _ => False) sound _ setting
      around).descends sound found id
    have before : ((s.supersede around.order entry.callId).admissions.enroll entry.token context entries
        victim).entries.lookup token = some held := by
      rw [← admissions_awaitTurn]
      exact stood
    rw [Admissions.lookup_admitted sound inserted] at before
    have inside := (ite_none_left_eq_some.mp before).2
    by_cases own : token = entry.token
    · exact own
    · rw [if_neg own] at inside
      exact absurd (equal.symm.trans same) (supersede_lookup consistent inside).1

/-! ### Messages and requests -/

theorem manages_endpointMoved (s : CcBs) (around : Surroundings) (token itsi : Nat) :
    Manages queue may s (s.endpointMoved around token itsi) := by
  have masked (change : CapacityContext → CapacityContext) :
      Manages queue may s (s.setContexts (s.capacity.contexts.modify token change)) := by
    refine .one (.follow fun other => ?_)
    show other ∈ s.capacity.contexts.modify token change ↔ other ∈ s.capacity.contexts
    rw [← AList.lookup_isSome, ← AList.lookup_isSome, Table.lookup_modify]
    split
    next own =>
      rw [isSome_map, own]
    · rfl
  unfold endpointMoved
  split
  · exact .refl s
  · have detached (callId : Nat) := (masked (CapacityContext.withoutEndpoint itsi)).trans
      (manages_detachRoamedPrivateEndpoint _ around.order callId itsi)
    exact .ite (fun _ => detached _) fun _ => (detached _).trans (manages_capacityForget _ token)

def offeredBy (message : SwmiMessage) (token : Nat) : Prop :=
  match message with
  | .capacity (.offer offered ..) => offered = token
  | _ => False

theorem manages_capacityHandle (sound : queue.Sound) (consistent : s.admissions.Consistent)
    (setting : CcSetting) (around : Surroundings) (message : CapacityMessage) :
    Manages queue (offeredBy (.capacity message)) s (s.capacityHandle queue setting around message) := by
  cases message with
  | policy policy =>
    show Manages queue _ s (s.setPolicy queue policy)
    unfold setPolicy
    split
    · exact .same rfl
    · exact .refl s
  | offer token =>
    exact @manages_capacityOffer queue _ s sound consistent setting around (offeredEntry ..) _ rfl
  | control token action => exact manages_capacityControl s setting around token action
  | report => exact .refl s
  | endpointMoved token itsi => exact manages_endpointMoved s around token itsi
  | coverage token limited =>
    show Manages queue _ s (s.setCoverage token limited)
    unfold setCoverage
    split
    · exact .refl s
    · exact .same rfl

theorem manages_handleSwmiAction (sound : queue.Sound) (consistent : s.admissions.Consistent)
    (setting : CcSetting) (around : Surroundings) (message : SwmiMessage) :
    Manages queue (offeredBy message) s (s.handleSwmiAction queue setting around message) := by
  cases message with
  | capacity message =>
    have observed := @manages_capacityObserve queue (offeredBy (.capacity message)) s around.order
      (.capacity message)
    exact observed.trans (manages_capacityHandle sound (observed.consistent sound consistent) setting
      around message)
  | _ => exact manages_swmiAction s setting around _

theorem drawCallId_admissions (tries : Nat) (drawn : drawCallId tries s = some (callId, next)) :
    next.admissions = s.admissions := by
  induction tries generalizing s with
  | zero => cases drawn
  | succ tries ih =>
    unfold drawCallId at drawn
    dsimp only at drawn
    split at drawn
    · have kept := ih drawn
      exact kept
    · cases drawn
      rfl

section

variable (sound : queue.Sound)

include sound

variable (consistent : s.admissions.Consistent)

include consistent

theorem manages_offerLocal (setting : CcSetting) (around : Surroundings) (caller gssi : Nat)
    (pdu : USetup) (callId : Nat) :
    Manages queue (· = localToken + s.capacity.nextLocal) s
      (s.offerLocal queue setting around caller gssi pdu callId) := by
  have waits : Manages queue (· = localToken + s.capacity.nextLocal) s (s.awaitLocal (caller, gssi) pdu) :=
    .one .draw
  have offered (offer : Option CapacityContext) := waits.trans (manages_capacityOffer sound
    (waits.consistent sound consistent) setting around (offeredEntry around
      (localToken + s.capacity.nextLocal) callId pdu.callPriority false s.capacity.policy.setupWaitMs)
    offer rfl)
  have refused (state : CcBs) (token : Nat) (key : Nat × Nat) :
      Manages queue (· = localToken + s.capacity.nextLocal) state (state.refuseLocal token key) :=
    .ite (fun _ => .refl state) fun _ => .same rfl
  exact ((offered _).trans (refused _ _ _)).trans (.same rfl)

theorem manages_capacityLocalSetup {setting : CcSetting} {around : Surroundings} {caller gssi : Nat}
    {pdu : USetup} {admitted : CcBs}
    (admits : capacityLocalSetup queue setting around s caller gssi pdu = some admitted) :
    Manages queue (· = localToken + s.capacity.nextLocal) s admitted := by
  unfold capacityLocalSetup at admits
  split at admits
  · cases admits
  · split at admits
    · cases admits
      exact .refl s
    · split at admits
      · cases admits
        exact .refl s
      next callId drawn found =>
        cases admits
        have kept := drawCallId_admissions 0x3ff found
        have number : s.capacity.nextLocal = drawn.capacity.nextLocal :=
          (congrArg Admissions.nextLocal kept).symm
        rw [number]
        exact (manages_offerLocal sound (kept.symm ▸ consistent) setting around caller gssi pdu
          callId).after kept

theorem manages_rxUSetup (setting : CcSetting) (around : Surroundings) (caller : Nat) (pdu : USetup) :
    Manages queue (· = localToken + s.capacity.nextLocal) s
      (s.rxUSetup queue setting around caller pdu) := by
  refine manages_rxUSetupWith s setting around caller pdu fun state gssi admitted kept admits => ?_
  have number : s.capacity.nextLocal = state.capacity.nextLocal :=
    (congrArg Admissions.nextLocal kept).symm
  rw [number]
  exact manages_capacityLocalSetup sound (kept.symm ▸ consistent) admits

/-! ### Runs -/

/-- What happens in call control, as far as the admission is concerned. -/
inductive AdmissionEvent where
  | message (around : Surroundings) (message : SwmiMessage)
  | tick (around : Surroundings)
  | uSetup (around : Surroundings) (caller : Nat) (pdu : USetup)
  | release (order : List Nat) (callId : Nat)
  | observe (order : List Nat) (message : SwmiMessage)
  | elsewhere (next : CcBs)

def withAdmissions (s : CcBs) (kept : Admissions) : CcBs :=
  { s with
    capacity :=
      { s.capacity with
        entries := kept.entries
        contexts := kept.contexts
        refresh := kept.refresh
        suspending := kept.suspending
        suspendGuard := kept.suspendGuard
        nextLocal := kept.nextLocal } }

/-- The state after an event; what is not modelled may do anything but touch what is kept under tokens. -/
def takeAdmissionEvent (queue : CapacityQueue) (setting : CcSetting) (s : CcBs) : AdmissionEvent → CcBs
  | .message around message => s.handleSwmiAction queue setting around message
  | .tick around => s.capacityTick queue setting around
  | .uSetup around caller pdu => s.rxUSetup queue setting around caller pdu
  | .release order callId => releaseCall setting order s callId
  | .observe order message => s.capacityObserve order message
  | .elsewhere next => next.withAdmissions s.admissions

def admissionMachine (queue : CapacityQueue) (setting : CcSetting) : Machine CcBs AdmissionEvent where
  start s := ∃ dltime policy, s = .new dltime policy
  step s event := some (s.takeAdmissionEvent queue setting event)

def admits (s : CcBs) (event : AdmissionEvent) (token : Nat) : Prop :=
  match event with
  | .message _ message => offeredBy message token
  | .uSetup .. => token = localToken + s.capacity.nextLocal
  | _ => False

/-- **One event admits no more tokens than it may.** -/
theorem manages_takeAdmissionEvent (setting : CcSetting) (event : AdmissionEvent) :
    Manages queue (s.admits event) s (s.takeAdmissionEvent queue setting event) := by
  cases event with
  | message around message => exact manages_handleSwmiAction sound consistent setting around message
  | tick around => exact manages_capacityTick sound s setting around
  | uSetup around caller pdu => exact manages_rxUSetup sound consistent setting around caller pdu
  | release order callId => exact manages_of_ending (ending_releaseCall setting order s callId)
  | observe order message => exact manages_capacityObserve s order message
  | elsewhere next => exact .same rfl

end

/-! ### What control of a token does -/

/-- No call, circuit or timeslot changes. -/
structure Unmoved (s next : CcBs) : Prop where
  activeCalls : next.activeCalls = s.activeCalls
  privateCalls : next.privateCalls = s.privateCalls
  suspendedGroups : next.capacity.suspendedGroups = s.capacity.suspendedGroups
  reservedGroups : next.capacity.reservedGroups = s.capacity.reservedGroups
  privateCircuits : next.privateCircuits = s.privateCircuits
  circuits : next.circuits = s.circuits
  timeslotAlloc : next.timeslotAlloc = s.timeslotAlloc

/-- No call changes, and no circuit but those of one call that wait for it. -/
structure GivesBack (callId : Nat) (s next : CcBs) : Prop where
  activeCalls : next.activeCalls = s.activeCalls
  privateCalls : next.privateCalls = s.privateCalls
  suspendedGroups : next.capacity.suspendedGroups = s.capacity.suspendedGroups
  reserved : ∀ other, other ≠ callId →
    next.capacity.reservedGroups.lookup other = s.capacity.reservedGroups.lookup other
  privateCircuits : ∀ key : Nat × Nat, key.1 ≠ callId →
    next.privateCircuits.lookup key = s.privateCircuits.lookup key
  circuits : ∀ ts, s.circuits.callIdAt ts ≠ some callId →
    next.circuits.dl.lookup ts = s.circuits.dl.lookup ts ∧
      next.timeslotAlloc.owners ts = s.timeslotAlloc.owners ts
  idle : s.capacityHeldCircuits callId = [] → Unmoved s next

theorem Unmoved.refl (s : CcBs) : Unmoved s s := ⟨rfl, rfl, rfl, rfl, rfl, rfl, rfl⟩

theorem capacityControl_unknown {token : Nat} (unknown : token ∉ s.capacity.entries)
    (setting : CcSetting) (around : Surroundings) (action : CapacityAction) :
    s.capacityControl setting around token action = s := by
  unfold capacityControl
  rw [AList.lookup_eq_none.mpr unknown]

theorem capacityPrepare_waits {around : Surroundings} {token : Nat} {entry : CapacityEntry}
    (early : entry.status ≠ .ready) : Unmoved s (s.capacityPrepare around token entry) := by
  unfold capacityPrepare
  split
  · exact .refl s
  · exact ⟨rfl, rfl, rfl, rfl, rfl, rfl, rfl⟩

theorem capacityCommit_reserved {setting : CcSetting} {around : Surroundings} {token : Nat}
    {entry : CapacityEntry} (commits : s.capacityCommit setting around token entry ≠ s) :
    entry.status = .reserved ∧ entry.lapsed around.now = false := by
  unfold capacityCommit at commits
  split at commits
  · exact absurd rfl commits
  next reserved =>
    rw [Bool.or_eq_true, decide_eq_true_eq, not_or, not_not, Bool.not_eq_true] at reserved
    exact reserved

theorem closeOwnCircuit_other {ts : Nat} {circuit : CmceCircuit}
    (other : s.circuits.callIdAt ts ≠ some callId) :
    (closeOwnCircuit callId s circuit).circuits.dl.lookup ts = s.circuits.dl.lookup ts ∧
      (closeOwnCircuit callId s circuit).timeslotAlloc.owners ts = s.timeslotAlloc.owners ts := by
  unfold closeOwnCircuit
  split
  next own =>
    have different : ts ≠ circuit.ts := fun same => other (same ▸ own)
    refine ⟨(Table.lookup_erase_eq ..).trans (if_neg different), ?_⟩
    unfold closeCircuit releaseTimeslot
    split
    next released given =>
      have owner : released.owners ts = s.timeslotAlloc.owners ts := by
        unfold TimeslotAllocator.release at given
        split at given
        · split at given
          · cases given
          · split at given
            · cases given
            · cases given
              exact Function.update_of_ne different _ _
        · cases given
      exact owner
    · rfl
  · exact ⟨rfl, rfl⟩

theorem closeOwnCircuit_calls (callId : Nat) (s : CcBs) (circuit : CmceCircuit) :
    (closeOwnCircuit callId s circuit).activeCalls = s.activeCalls ∧
      (closeOwnCircuit callId s circuit).privateCalls = s.privateCalls ∧
      (closeOwnCircuit callId s circuit).capacity = s.capacity ∧
      (closeOwnCircuit callId s circuit).privateCircuits = s.privateCircuits := by
  unfold closeOwnCircuit
  split
  · exact ⟨rfl, rfl, rfl, rfl⟩
  · exact ⟨rfl, rfl, rfl, rfl⟩

theorem closeOwnCircuits_keep (circuits : List CmceCircuit) (s : CcBs) :
    let closed := circuits.foldl (closeOwnCircuit callId) s
    closed.activeCalls = s.activeCalls ∧ closed.privateCalls = s.privateCalls ∧
      closed.capacity = s.capacity ∧ closed.privateCircuits = s.privateCircuits ∧
      ∀ ts, s.circuits.callIdAt ts ≠ some callId →
        closed.circuits.dl.lookup ts = s.circuits.dl.lookup ts ∧
          closed.timeslotAlloc.owners ts = s.timeslotAlloc.owners ts := by
  induction circuits generalizing s with
  | nil => exact ⟨rfl, rfl, rfl, rfl, fun _ _ => ⟨rfl, rfl⟩⟩
  | cons circuit circuits ih =>
    obtain ⟨active, privates, capacity, held⟩ := closeOwnCircuit_calls callId s circuit
    obtain ⟨activeLater, privatesLater, capacityLater, heldLater, slots⟩ :=
      ih (closeOwnCircuit callId s circuit)
    refine ⟨activeLater.trans active, privatesLater.trans privates, capacityLater.trans capacity,
      heldLater.trans held, fun ts other => ?_⟩
    obtain ⟨stays, owner⟩ := @closeOwnCircuit_other s callId ts circuit other
    have still : (closeOwnCircuit callId s circuit).circuits.callIdAt ts ≠ some callId := by
      unfold CircuitMgr.callIdAt
      rw [stays]
      exact other
    exact ⟨(slots ts still).1.trans stays, (slots ts still).2.trans owner⟩

/-- The circuits of a private call without an active admission are taken away. -/
def keptPrivate (s : CcBs) (callId : Nat) : Dictionary (Nat × Nat) CmceCircuit :=
  if s.capacityActive callId then s.privateCircuits
  else s.privateCircuits.retain fun key _ => key.1 ≠ callId

theorem lookup_keptPrivate {key : Nat × Nat} (other : key.1 ≠ callId) :
    (s.keptPrivate callId).lookup key = s.privateCircuits.lookup key := by
  unfold keptPrivate
  split
  · rfl
  · rw [Dictionary.lookup_retain]
    cases s.privateCircuits.lookup key with
    | none => rfl
    | some circuit => exact if_pos (decide_eq_true other)

theorem keptPrivate_idle (idle : s.capacityHeldCircuits callId = []) :
    s.keptPrivate callId = s.privateCircuits ∧ s.takeReservedGroup callId = s := by
  obtain ⟨none, private_⟩ := append_eq_nil_iff.mp idle
  constructor
  · unfold keptPrivate
    split
    · rfl
    next inactive =>
      rw [if_neg inactive, map_eq_nil_iff] at private_
      refine AList.ext (filter_eq_self.mpr fun entry member => decide_eq_true fun own => ?_)
      exact filter_eq_nil_iff.mp private_ entry member (decide_eq_true own)
  · unfold takeReservedGroup
    rw [Table.erase_absent (toList_eq_nil_iff.mp none)]

theorem givesBack_capacityReleaseReserved (s : CcBs) (callId : Nat) :
    GivesBack callId s (s.capacityReleaseReserved callId) := by
  have released : s.capacityReleaseReserved callId =
      (s.capacityHeldCircuits callId).foldl (closeOwnCircuit callId)
        { s.takeReservedGroup callId with privateCircuits := s.keptPrivate callId } := rfl
  obtain ⟨active, privates, capacity, held, slots⟩ := @closeOwnCircuits_keep callId
    (s.capacityHeldCircuits callId)
    { s.takeReservedGroup callId with privateCircuits := s.keptPrivate callId }
  rw [released]
  refine ⟨active, privates, ?_, fun other different => ?_, fun key other => ?_, slots, fun idle => ?_⟩
  · rw [capacity]
    rfl
  · rw [capacity]
    exact (Table.lookup_erase_eq ..).trans (if_neg different)
  · rw [held]
    exact lookup_keptPrivate other
  · obtain ⟨all, nothing⟩ := keptPrivate_idle idle
    rw [idle, all, nothing]
    exact .refl s

/-- **Cancelling a token that is not active gives back what waits for its call.** -/
theorem givesBack_capacityCancel {token : Nat} {entry : CapacityEntry} (s : CcBs) :
    GivesBack (callIdBits entry.callId) s (s.capacityCancel token entry) := by
  have released := givesBack_capacityReleaseReserved s (callIdBits entry.callId)
  unfold capacityCancel
  split
  · exact ⟨rfl, rfl, rfl, fun _ _ => rfl, fun _ _ => rfl, fun _ _ => ⟨rfl, rfl⟩, fun _ => .refl s⟩
  · obtain ⟨active, privates, suspended, reserved, held, slots, idle⟩ := released
    refine ⟨active, privates, suspended, reserved, held, slots, fun nothing => ?_⟩
    obtain ⟨activeSame, privateSame, suspendedSame, reservedSame, heldSame, circuits, alloc⟩ := idle nothing
    exact ⟨activeSame, privateSame, suspendedSame, reservedSame, heldSame, circuits, alloc⟩

theorem capacityActive_dropEntry {token : Nat} {entry : CapacityEntry}
    (found : s.capacity.entries.lookup token = some entry) (waits : entry.status ≠ .active)
    (callId : Nat) : (s.dropEntry token).capacityActive callId = s.capacityActive callId := by
  have among (state : CcBs) : state.capacityActive callId = true ↔ ∃ held key,
      state.capacity.entries.lookup key = some held ∧ held.callId = callId ∧ held.status = .active := by
    unfold capacityActive
    rw [List.any_eq_true]
    refine exists_congr fun held => ?_
    rw [Table.mem_values, Bool.and_eq_true, decide_eq_true_eq, decide_eq_true_eq]
    exact exists_and_right.symm
  rw [Bool.eq_iff_iff, among, among]
  refine exists_congr fun held => exists_congr fun key => and_congr_left fun active => ?_
  show (s.capacity.entries.erase token).lookup key = some held ↔ _
  rw [lookup_erase_eq]
  refine ⟨fun kept => (ite_none_left_eq_some.mp kept).2, fun stands => ?_⟩
  refine ite_none_left_eq_some.mpr ⟨fun own => ?_, stands⟩
  rw [own, found] at stands
  cases stands
  exact waits active.2

/-- **Forgetting a token that is not active gives back what waits for its call.** -/
theorem givesBack_capacityForget {token : Nat} {entry : CapacityEntry}
    (found : s.capacity.entries.lookup token = some entry) (waits : entry.status ≠ .active) :
    GivesBack (callIdBits entry.callId) s (s.capacityForget token) := by
  obtain ⟨active, privates, suspended, reserved, held, slots, idle⟩ :=
    givesBack_capacityReleaseReserved (s.dropEntry token) (callIdBits entry.callId)
  unfold capacityForget
  rw [found]
  dsimp only
  rw [if_neg waits]
  refine ⟨active, privates, suspended, reserved, held, slots, fun nothing => ?_⟩
  have same : (s.dropEntry token).capacityHeldCircuits (callIdBits entry.callId) =
      s.capacityHeldCircuits (callIdBits entry.callId) := by
    unfold capacityHeldCircuits
    rw [capacityActive_dropEntry found waits]
    rfl
  obtain ⟨activeSame, privateSame, suspendedSame, reservedSame, heldSame, circuits, alloc⟩ :=
    idle (same.trans nothing)
  exact ⟨activeSame, privateSame, suspendedSame, reservedSame, heldSame, circuits, alloc⟩

theorem capacityObserve_capacity (s : CcBs) (order : List Nat) (message : CapacityMessage) :
    s.capacityObserve order (.capacity message) = s := by
  have contexts : s.capacity.contexts.mapValues (·.observe (.capacity message)) = s.capacity.contexts :=
    AList.ext (map_id s.capacity.contexts.entries)
  show s.observeContexts (.capacity message) = s
  unfold observeContexts
  rw [contexts]
  rfl

/-! ### In every run -/

/-- **What holds of the tokens**: the tables are in step; a call that is offered has the offered token only;
a token without an entry does nothing, and has none until it is offered again; and a token whose turn it is
not changes no call and no circuit but those that wait for its call. -/
structure Fences (queue : CapacityQueue) (setting : CcSetting) (s : CcBs) : Prop where
  consistent : s.admissions.Consistent
  offers : ∀ around token callId priority existing timeoutMs context, token ∉ s.capacity.entries →
    CapacityContext.callId context = callId → ∀ other entry,
      (s.handleSwmiAction queue setting around (.capacity (.offer token callId priority existing
        timeoutMs (some context)))).capacity.entries.lookup other = some entry →
      entry.callId = callId → other = token
  unknown : ∀ token, token ∉ s.capacity.entries → ∀ around action,
    s.handleSwmiAction queue setting around (.capacity (.control token action)) = s
  spent : ∀ token, token ∉ s.capacity.entries → ∀ next,
    Runs (admissionMachine queue setting) (fun s event => ¬ s.admits event token) s next →
      token ∉ next.capacity.entries
  commits : ∀ around token,
    s.handleSwmiAction queue setting around (.capacity (.control token .commit)) ≠ s →
      ∃ entry, s.capacity.entries.lookup token = some entry ∧ entry.status = .reserved ∧
        entry.lapsed around.now = false
  prepares : ∀ around token entry, s.capacity.entries.lookup token = some entry →
    entry.status ≠ .ready →
      Unmoved s (s.handleSwmiAction queue setting around (.capacity (.control token .prepare)))
  givesBack : ∀ around token entry action, s.capacity.entries.lookup token = some entry →
    entry.status ≠ .active → action = .cancel ∨ action = .forget →
      GivesBack (callIdBits entry.callId) s
        (s.handleSwmiAction queue setting around (.capacity (.control token action)))

theorem spent_runs (sound : queue.Sound) {setting : CcSetting} {token : Nat}
    (consistent : s.admissions.Consistent) (spent : token ∉ s.capacity.entries)
    (run : Runs (admissionMachine queue setting) (fun s event => ¬ s.admits event token) s next) :
    token ∉ next.capacity.entries := by
  have kept : next.admissions.Consistent ∧ token ∉ next.capacity.entries := by
    refine @Runs.invariant _ _ _ _ (fun state : CcBs =>
      state.admissions.Consistent ∧ token ∉ state.capacity.entries) s next run
      (fun state event after held denied stepped => ?_) ⟨consistent, spent⟩
    cases some.inj stepped
    have manages := manages_takeAdmissionEvent sound held.1 setting event
    exact ⟨manages.consistent sound held.1, manages.spent sound denied held.2⟩
  exact kept.2

def calm : Surroundings := ⟨[], [], 0, true, true, true, fun _ => false⟩

/-- A terminal listens to a group, and a call to the group is offered and prepared. -/
def preparesCall : List AdmissionEvent :=
  [.elsewhere (networkCell.handleSubscriberUpdate centralSetting [] ⟨101, [204], [], none, .affiliate⟩),
    .message calm (.capacity (.offer 1 5 1 false 15000 (some (.groupCallStart 5 101 204 1 0 false none)))),
    .message calm (.capacity (.control 1 .prepare))]

end CcBs

end Bluestation.Cc
