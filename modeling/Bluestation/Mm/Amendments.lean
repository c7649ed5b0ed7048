/-
**Every change of the memberships keeps the copies in agreement.**

* `agrees_tryAttachDetachGroups`, `agrees_applySwmiAttachmentState`, `agrees_amendTalkgroups` — lists
  of operations in which no group comes back.
* `agrees_reconcile` — what the network knows.
* `agrees_tryRegister`, `agrees_detachAllGroups`, `agrees_removeSubscriber` — the rest.
-/

import Bluestation.Mm.Agreement

namespace Bluestation

open Amending List Option Function

namespace Affiliations

variable {m : Affiliations} {issi : Nat}

/-! ### Lists of operations -/

variable {start next : Affiliations} {state : MmClientMgr × List (Nat × Nat)}

/-- A fold in which each item is an operation, or none. -/
theorem tracks_foldl {State Item : Type} {everything : Bool} {changes : List (Change Nat Nat)}
    (amended : State → Amended) (operation : Item → Option AttachmentOperation)
    (step : State → Item → State)
    (steps : ∀ state item, amended (step state item) = (operation item).elim (amended state)
      fun operation => ((amended state).attachDetach issi everything operation).getD (amended state))
    {state : State} (tracks : Amended.Tracks start issi everything changes (amended state))
    (items : List Item) :
    Amended.Tracks start issi everything (if start.clientMgr.clientIsKnown issi then
        changes ++ (items.filterMap operation).map (·.change) else changes)
      (amended (items.foldl step state)) := by
  induction items generalizing state changes with
  | nil => simpa using tracks
  | cons item rest ih =>
    have first := steps state item
    cases mentioned : operation item with
    | none =>
      rw [mentioned] at first
      rw [filterMap_cons_none mentioned]
      exact ih (by rw [first]; exact tracks)
    | some op =>
      rw [mentioned, elim_some] at first
      rw [filterMap_cons_some mentioned]
      have present := tracks.attachDetach_isSome op
      cases done : (amended state).attachDetach issi everything op with
      | none =>
        rw [done] at present first
        rw [← present]
        have after := ih (by rw [first]; exact tracks)
        rw [← present] at after
        exact after
      | some next =>
        rw [done] at present first
        have after := ih (by rw [first]; exact tracks.attachDetach op done)
        rw [← present] at after ⊢
        simpa using after

/-- **A list of operations in which no group comes back.** -/
theorem agrees_emit {everything : Bool} (agrees : start.Agrees)
    {operations : List AttachmentOperation} {a : Amended}
    (tracks : Amended.Tracks start issi everything
      (if start.clientMgr.clientIsKnown issi then operations.map (·.change) else []) a)
    (stays : returns everything (fun gssi => (start.classOf issi gssi).isSome) operations = false) :
    (a.emit issi).Agrees := by
  refine tracks.emit agrees fun gssi => ?_
  split
  · exact comesBack_of_returns stays gssi
  · exact Bool.and_false _

/-- **A request that the cell decides on by itself.** -/
theorem agrees_tryAttachDetachGroups (agrees : m.Agrees) (giuVec : List GroupIdentityUplink)
    (stays : returns false (fun gssi => (m.classOf issi gssi).isSome)
      (giuVec.filterMap (·.operation)) = false) :
    (m.tryAttachDetachGroups issi giuVec).1.Agrees := by
  refine agrees_emit agrees ?_ stays
  refine tracks_foldl Prod.fst _ (tryAttachDetachGroup issi) (fun state giu => ?_)
    (Amended.tracks_start agrees.here issi false) giuVec
  unfold tryAttachDetachGroup
  cases giu.operation with
  | none => rfl
  | some operation =>
    dsimp only [elim_some]
    cases state.1.attachDetach issi false operation <;> rfl

def acceptedOperation (decided : AttachmentResult × GroupIdentityUplink) :
    Option AttachmentOperation :=
  if decided.1.accepted then some decided.1.operation else none

/-- **A decision of the network**, after the groups were left that it replaces. -/
theorem agrees_deciding (agrees : m.Agrees) (hasRejection : Bool)
    (decided : List (AttachmentResult × GroupIdentityUplink))
    (stays : returns false (fun gssi => (m.classOf issi gssi).isSome)
      (decided.filterMap acceptedOperation) = false) :
    ((decided.foldl (Deciding.result issi) ⟨⟨m, [], []⟩, hasRejection, [], []⟩).amended.emit
      issi).Agrees := by
  refine agrees_emit agrees ?_ stays
  refine tracks_foldl Deciding.amended _ (.result issi) (fun d decided => ?_)
    (Amended.tracks_start agrees.here issi false) decided
  unfold Deciding.result acceptedOperation
  cases decided.1.accepted
  · change (if decided.1.operation.detach = true then (_ : Deciding) else _).amended = d.amended
    split <;> rfl
  · rw [if_neg (by decide), if_pos rfl, elim_some]
    cases d.amended.attachDetach issi false decided.1.operation with
    | none => rfl
    | some amended =>
      dsimp only
      split <;> rfl

def amendedOperation (pdu : Acknowledgement) (operation : AttachmentOperation) :
    Option AttachmentOperation :=
  if (pdu.rejected operation.gssi).isSome then none else some (pdu.carriedOut operation)

theorem tracks_amendTalkgroups (here : m.Local) (pdu : Acknowledgement)
    (operations : List AttachmentOperation) :
    Amended.Tracks m issi true (if m.clientMgr.clientIsKnown issi then
        (operations.filterMap (amendedOperation pdu)).map (·.change) else [])
      (operations.foldl (amendTalkgroup issi pdu) (⟨m, [], []⟩, [])).1 := by
  refine tracks_foldl Prod.fst _ (amendTalkgroup issi pdu) (fun state operation => ?_)
    (Amended.tracks_start here issi true) operations
  unfold amendTalkgroup amendedOperation
  cases pdu.rejected operation.gssi with
  | some cause => rfl
  | none =>
    dsimp only [isSome_none]
    rw [if_neg Bool.false_ne_true, elim_some]
    cases state.1.attachDetach issi true (pdu.carriedOut operation) <;> rfl

/-- **An acknowledged amendment.** -/
theorem agrees_amendTalkgroups (agrees : m.Agrees) (pdu : Acknowledgement)
    (operations : List AttachmentOperation)
    (stays : returns true (fun gssi => (m.classOf issi gssi).isSome)
      (operations.filterMap (amendedOperation pdu)) = false) :
    (m.amendTalkgroups issi pdu operations).1.Agrees :=
  agrees_emit agrees (tracks_amendTalkgroups agrees.here pdu operations) stays

/-- **An amendment attaches no other groups** than those that it names. -/
theorem classOf_amendTalkgroups_eq_none (here : m.Local) (pdu : Acknowledgement)
    (operations : List AttachmentOperation) {gssi : Nat} (absent : m.classOf issi gssi = none)
    (never : ∀ operation ∈ operations.filterMap (amendedOperation pdu), operation.gssi = gssi →
      operation.detach = true) :
    (m.amendTalkgroups issi pdu operations).1.classOf issi gssi = none := by
  have leader := (@tracks_amendTalkgroups m issi here pdu operations).leader
  have content := congrFun (congrArg Leader.content leader) gssi
  change (Amended.emit _ issi).classOf issi gssi = none
  unfold Amended.emit
  rw [classOf_emitGroups, classOf_emitGroups]
  refine content.trans (run_content_eq_none _ _ absent ?_)
  intro change member same
  split at member
  · obtain ⟨operation, inside, rfl⟩ := mem_map.mp member
    exact if_pos (never operation inside same)
  · cases member

/-! ### Registration and removal -/

theorem Local.registry_congr (here : m.Local) {subscribers : SubscriberRegistry}
    (registered : ∀ other, subscribers.isRegistered other = m.subscribers.isRegistered other)
    (groups : ∀ other, subscribers.attachedGroups other = m.subscribers.attachedGroups other)
    (all : subscribers.allAttachedGroups = m.subscribers.allAttachedGroups) :
    ({ m with subscribers } : Affiliations).Local where
  known other := (registered other).trans (here.known other)
  registry other gssi := (iff_of_eq (congrArg (gssi ∈ ·) (groups other))).trans
    (here.registry other gssi)
  whole gssi := by
    simp only [groups]
    rw [all]
    exact here.whole gssi

theorem Agrees.registry_congr (agrees : m.Agrees) {subscribers : SubscriberRegistry}
    (registered : ∀ other, subscribers.isRegistered other = m.subscribers.isRegistered other)
    (groups : ∀ other, subscribers.attachedGroups other = m.subscribers.attachedGroups other)
    (all : subscribers.allAttachedGroups = m.subscribers.allAttachedGroups) :
    ({ m with subscribers } : Affiliations).Agrees :=
  ⟨agrees.here.registry_congr registered groups all, agrees.there⟩

theorem Local.agrees (here : m.Local) {view : Nat → Nat → Option Nat}
    (there : m.cmce.Follows view) (same : ∀ other gssi, m.classOf other gssi = view other gssi) :
    m.Agrees :=
  ⟨here, by rwa [show m.classOf = view from funext₂ same]⟩

theorem classOf_eq_none (unknown : m.clientMgr.clientIsKnown issi = false) (gssi : Nat) :
    m.classOf issi gssi = none := by
  unfold classOf MmClientMgr.clientGroupClassOfUsage MmClientMgr.clientGroups
  rw [isSome_eq_false_iff.mp unknown |> isNone_iff_eq_none.mp]
  rfl

/-- **A terminal that was not known is registered.** -/
theorem agrees_tryRegister (agrees : m.Agrees) (unknown : m.clientMgr.clientIsKnown issi = false)
    (done : m.tryRegister issi = some next) :
    next.Agrees ∧ next.clientMgr.clientIsKnown issi = true := by
  cases done
  have classes (other gssi : Nat) : (Affiliations.mk (m.clientMgr.insert issi ⟨.attached, ∅, true⟩)
      (m.subscribers.register issi) m.updates).classOf other gssi = m.classOf other gssi := by
    rw [classOf_insert]
    split
    next same =>
      rw [same, classOf_eq_none unknown]
      rfl
    · rfl
  refine ⟨@Local.agrees _ ⟨fun other => ?_, fun other gssi => ?_, ?_⟩ m.classOf ?_ classes, ?_⟩
  · change (m.subscribers.register issi).isRegistered other =
      MmClientMgr.clientIsKnown (m.clientMgr.insert issi _) other
    rw [SubscriberRegistry.isRegistered_register, clientIsKnown_insert, agrees.here.known]
  · refine Iff.trans ?_ (iff_of_eq (congrArg (·.isSome = true) (classes other gssi).symm))
    change gssi ∈ (m.subscribers.register issi).attachedGroups other ↔ _
    rw [SubscriberRegistry.attachedGroups_register]
    split
    next same =>
      rw [same, classOf_eq_none unknown]
      exact iff_of_false (Finset.notMem_empty gssi) Bool.false_ne_true
    · exact agrees.here.registry other gssi
  · exact SubscriberRegistry.whole_register agrees.here.whole issi
  · change (Affiliations.push _ _).cmce.Follows _
    rw [cmce_push]
    exact agrees.there.register issi _ _ _
  · exact (clientIsKnown_insert m.clientMgr issi issi _).trans (by simp)

theorem Agrees.insert_client (agrees : m.Agrees) {client changed : MmClientProperties}
    (found : m.clientMgr.lookup issi = some client) (groups : changed.groups = client.groups) :
    ({ m with clientMgr := m.clientMgr.insert issi changed } : Affiliations).Agrees := by
  have known : m.clientMgr.clientIsKnown issi = true := by
    rw [MmClientMgr.clientIsKnown, found]
    rfl
  refine @Local.agrees _ (agrees.here.change known (fun _ => rfl) (fun _ _ => rfl) (fun gssi => ?_)
    agrees.here.whole _) m.classOf agrees.there fun other gssi => ?_
  · rw [agrees.here.registry, classOf_eq m issi gssi found, groups]
  · rw [classOf_insert]
    split
    next same =>
      rw [same, classOf_eq m issi gssi found, groups]
    · rfl

/-- **A terminal is registered, or attached.** -/
theorem agrees_registerOrAttach (agrees : m.Agrees) (done : m.registerOrAttach issi = some next) :
    next.Agrees ∧ next.clientMgr.clientIsKnown issi = true := by
  unfold registerOrAttach at done
  split at done
  · unfold setClientState MmClientMgr.setClientState at done
    rw [Option.map_map, Option.map_eq_some_iff] at done
    obtain ⟨client, found, rfl⟩ := done
    refine ⟨agrees.insert_client found rfl, ?_⟩
    exact (clientIsKnown_insert m.clientMgr issi issi _).trans (by simp)
  next unknown =>
    exact agrees_tryRegister agrees (by simpa using unknown) done

/-! ### Leaving all groups -/

theorem attachedGroups_foldl_deaffiliate (groups : List Nat) (r : SubscriberRegistry)
    (issi other gssi : Nat) :
    gssi ∈ (groups.foldl (fun r gssi => r.deaffiliate issi gssi) r).attachedGroups other ↔
      gssi ∈ r.attachedGroups other ∧ ¬ (other = issi ∧ gssi ∈ groups) := by
  induction groups generalizing r with
  | nil => simp
  | cons first rest ih =>
    rw [foldl_cons, ih, SubscriberRegistry.attachedGroups_deaffiliate]
    by_cases same : other = issi
    · simp only [same, if_true, Finset.mem_erase, mem_cons, true_and]
      tauto
    · simp [same]

variable {r : SubscriberRegistry}

theorem isRegistered_foldl_deaffiliate (groups : List Nat)
    {issi : Nat} (registered : r.isRegistered issi = true) (other : Nat) :
    (groups.foldl (fun r gssi => r.deaffiliate issi gssi) r).isRegistered other =
      r.isRegistered other := by
  induction groups generalizing r with
  | nil => rfl
  | cons first rest ih =>
    have step (other : Nat) := SubscriberRegistry.isRegistered_deaffiliate r issi first other
    have stays (other : Nat) : (r.deaffiliate issi first).isRegistered other =
        r.isRegistered other := by
      rw [step]
      by_cases same : other = issi <;> simp [same, registered]
    rw [foldl_cons, ih ((stays issi).trans registered), stays]

theorem whole_foldl_deaffiliate (groups : List Nat) (whole : r.Whole)
    (issi : Nat) : (groups.foldl (fun r gssi => r.deaffiliate issi gssi) r).Whole :=
  foldlRecOn groups _ whole fun _ whole gssi _ => whole.deaffiliate issi gssi

theorem mem_keys_iff (groups : Table Nat) (gssi : Nat) :
    gssi ∈ groups.keys ↔ (groups.lookup gssi).isSome := by
  rw [AList.lookup_isSome, AList.mem_keys]

/-- **A known client leaves all its groups.** -/
theorem agrees_detachAllGroups (agrees : m.Agrees) (done : m.detachAllGroups issi = some next) :
    next.Agrees ∧ next.clientMgr.clientIsKnown issi = true ∧
      ∀ gssi, next.classOf issi gssi = none := by
  unfold detachAllGroups MmClientMgr.clientDetachAllGroups at done
  rw [Option.map_map, Option.map_eq_some_iff] at done
  obtain ⟨client, found, rfl⟩ := done
  have known : m.clientMgr.clientIsKnown issi = true := by
    rw [MmClientMgr.clientIsKnown, found]
    rfl
  have prior (gssi : Nat) : gssi ∈ (m.clientMgr.clientGroups issi).keys ↔
      (m.classOf issi gssi).isSome := mem_keys_iff _ _
  let left : Affiliations := ({ m with
    clientMgr := m.clientMgr.insert issi { client with groups := ∅ } } : Affiliations).deaffiliateAll
      issi (m.clientMgr.clientGroups issi).keys
  have local' : left.Local := by
    refine agrees.here.change known
      (isRegistered_foldl_deaffiliate _ ((agrees.here.known issi).trans known))
      (fun other different => ?_) (fun gssi => ?_)
      (whole_foldl_deaffiliate _ agrees.here.whole issi) _
    · ext gssi
      rw [attachedGroups_foldl_deaffiliate]
      exact and_iff_left fun both => different both.1
    · rw [attachedGroups_foldl_deaffiliate, prior, agrees.here.registry]
      refine iff_of_false (fun both => both.2 ⟨rfl, both.1⟩) ?_
      exact Bool.false_ne_true
  have told := @follows_emitDeaffiliate left m.classOf agrees.there issi
    (m.clientMgr.clientGroups issi).keys
  have classes (other gssi : Nat) : left.classOf other gssi =
      if other = issi then none else m.classOf other gssi := by
    refine (classOf_insert m issi other gssi { client with groups := ∅ } _ _).trans ?_
    split <;> rfl
  refine ⟨(local'.emitGroups ..).agrees told fun other gssi => ?_, ?_, fun gssi => ?_⟩
  · rw [classOf_emitGroups, classes, Function.update_apply]
    split
    · dsimp only
      split
      · rfl
      next notPrior =>
        rw [prior, Option.not_isSome_iff_eq_none] at notPrior
        exact notPrior.symm
    · rfl
  · change (left.emitGroups _ _ _).clientMgr.clientIsKnown issi = true
    rw [clientMgr_emitGroups]
    exact (clientIsKnown_insert m.clientMgr issi issi _).trans (by simp)
  · change (left.emitGroups _ _ _).classOf issi gssi = none
    rw [classOf_emitGroups, classes, if_pos rfl]

/-- **The groups that a request replaces are left.** -/
theorem agrees_replaceAll (agrees : m.Agrees) (issi : Nat) (replaces : Bool) :
    (m.replaceAll issi replaces).Agrees := by
  unfold replaceAll
  split
  · cases done : m.detachAllGroups issi with
    | none => exact agrees
    | some next => exact (agrees_detachAllGroups agrees done).1
  · exact agrees

/-! ### Removal -/

/-- **A terminal is gone from all copies.** -/
theorem agrees_removeSubscriber (agrees : m.Agrees) (issi : Nat) :
    (m.removeSubscriber issi).Agrees := by
  let removed : Affiliations := ⟨m.clientMgr.erase issi, m.subscribers.deregister issi, m.updates⟩
  have classes (other gssi : Nat) : removed.classOf other gssi =
      if other = issi then none else m.classOf other gssi := by
    unfold classOf MmClientMgr.clientGroupClassOfUsage MmClientMgr.clientGroups
    rw [Table.lookup_erase_eq]
    split <;> rfl
  have local' : removed.Local := by
    refine ⟨fun other => ?_, fun other gssi => ?_, agrees.here.whole.deregister issi⟩
    · rw [SubscriberRegistry.isRegistered_deregister, agrees.here.known]
      unfold MmClientMgr.clientIsKnown
      rw [Table.lookup_erase_eq]
      by_cases same : other = issi <;> simp [same]
    · rw [SubscriberRegistry.attachedGroups_deregister, classes]
      split
      · exact iff_of_false (Finset.notMem_empty gssi) Bool.false_ne_true
      · exact agrees.here.registry other gssi
  have view : removed.classOf = Function.update m.classOf issi fun _ => none := by
    funext other gssi
    rw [classes, update_apply]
    split <;> rfl
  unfold removeSubscriber
  cases found : m.clientMgr.lookup issi with
  | none =>
    have unknown : m.clientMgr.clientIsKnown issi = false := by
      rw [MmClientMgr.clientIsKnown, found]
      rfl
    refine @Local.agrees _ local' m.classOf agrees.there fun other gssi => ?_
    rw [classes]
    split
    next same =>
      rw [same, classOf_eq_none unknown]
    · rfl
  | some client =>
    dsimp only
    have told := (@follows_emitDeaffiliate removed m.classOf agrees.there issi
      client.groups.keys).deregister issi [] [] none
    rw [update_idem, ← view] at told
    refine @Local.agrees _
      ((local'.emitGroups issi client.groups.keys .deaffiliate).congr rfl rfl) removed.classOf ?_
      fun other gssi => ?_
    · rw [emitSubscriberUpdate, cmce_push]
      exact told
    · exact congrFun₂ (classOf_emitGroups removed issi client.groups.keys .deaffiliate) other gssi

/-! ### What the network knows -/

/-- **One stale group is left.** -/
theorem detachStale_spec (here : m.Local) (issi gssi : Nat) :
    (m.detachStale issi gssi).Local ∧ (m.detachStale issi gssi).updates = m.updates ∧
      (∀ other, (m.detachStale issi gssi).clientMgr.clientIsKnown other =
        m.clientMgr.clientIsKnown other) ∧
      ∀ other wanted, (m.detachStale issi gssi).classOf other wanted =
        if other = issi ∧ wanted = gssi then none else m.classOf other wanted := by
  have tracks := Amended.tracks_start here issi true
  cases done : (Amended.mk m [] []).attachDetach issi true ⟨gssi, true, 0⟩ with
  | none =>
    have missing := tracks.attachDetach_isSome ⟨gssi, true, 0⟩
    rw [done] at missing
    have same : m.detachStale issi gssi = m := by
      simp only [Amended.attachDetach, map_eq_none_iff, Bool.not_true] at done
      rw [detachStale, done]
    rw [same]
    refine ⟨here, rfl, fun _ => rfl, fun other wanted => ?_⟩
    split
    next both =>
      rw [both.1, classOf_eq_none missing.symm]
    · rfl
  | some next =>
    have after := tracks.attachDetach ⟨gssi, true, 0⟩ done
    have same : m.detachStale issi gssi = next.members := by
      unfold Amended.attachDetach at done
      rw [map_eq_some_iff] at done
      obtain ⟨⟨clientMgr, changed⟩, found, rfl⟩ := done
      simp only [Bool.not_true] at found
      rw [detachStale, found]
      rfl
    rw [same]
    refine ⟨after.here, after.updates, after.known, fun other wanted => ?_⟩
    by_cases other' : other = issi
    · subst other'
      have content := congrArg (Leader.content · wanted) after.leader
      refine content.trans ((amend_content _ _ _).trans ?_)
      change (if wanted = gssi then none else m.classOf other wanted) = _
      by_cases mentioned : wanted = gssi
      · rw [if_pos mentioned, if_pos ⟨rfl, mentioned⟩]
      · rw [if_neg mentioned, if_neg fun both => mentioned both.2]
    · rw [if_neg fun both => other' both.1, after.others other other']

/-- **Stale groups are left.** -/
theorem foldl_detachStale_spec (here : m.Local) (issi : Nat) (groups : List Nat) :
    (groups.foldl (fun m gssi => m.detachStale issi gssi) m).Local ∧
      (groups.foldl (fun m gssi => m.detachStale issi gssi) m).updates = m.updates ∧
      (∀ other, (groups.foldl (fun m gssi => m.detachStale issi gssi) m).clientMgr.clientIsKnown
        other = m.clientMgr.clientIsKnown other) ∧
      ∀ other gssi, (groups.foldl (fun m gssi => m.detachStale issi gssi) m).classOf other gssi =
        if other = issi ∧ gssi ∈ groups then none else m.classOf other gssi := by
  induction groups generalizing m with
  | nil => exact ⟨here, rfl, fun _ => rfl, fun _ _ => by simp⟩
  | cons first rest ih =>
    obtain ⟨stepHere, stepUpdates, stepKnown, stepClass⟩ := detachStale_spec here issi first
    obtain ⟨restHere, restUpdates, restKnown, restClass⟩ := ih stepHere
    refine ⟨restHere, restUpdates.trans stepUpdates,
      fun other => (restKnown other).trans (stepKnown other), fun other gssi => ?_⟩
    rw [foldl_cons, restClass, stepClass]
    by_cases same : other = issi
    · by_cases mentioned : gssi = first <;> simp [same, mentioned]
    · simp [same]

/-- What restoring groups has done so far: groups were joined or got a class, and all are noted. -/
structure Restored (start : Affiliations) (issi : Nat)
    (state : Affiliations × List Nat × List Nat) : Prop where
  here : state.1.Local
  updates : state.1.updates = start.updates
  others : ∀ other, other ≠ issi → state.1.classOf other = start.classOf other
  kept : ∀ gssi, gssi ∉ state.2.1 → gssi ∉ state.2.2 →
    state.1.classOf issi gssi = start.classOf issi gssi
  joined : ∀ gssi, gssi ∈ state.2.1 ∨ gssi ∈ state.2.2 → (state.1.classOf issi gssi).isSome
  grows : ∀ gssi, (start.classOf issi gssi).isSome → (state.1.classOf issi gssi).isSome

theorem attach_eq (m : Affiliations) (issi gssi classOfUsage : Nat) {client : MmClientProperties}
    (found : m.clientMgr.lookup issi = some client) :
    m.clientMgr.clientGroupAttachWithClassOfUsage issi gssi true classOfUsage = some
      (m.clientMgr.insert issi { client with groups := client.groups.insert gssi classOfUsage },
        decide (client.groups.lookup gssi ≠ some classOfUsage)) := by
  rw [MmClientMgr.clientGroupAttachWithClassOfUsage, found]
  rfl

variable {oldGroups : Table Nat}

/-- **One group is restored.** -/
theorem Restored.restore {state : Affiliations × List Nat × List Nat}
    (restored : Restored start issi state) (desired : Nat × Nat)
    (old : (oldGroups.lookup desired.1).isSome → (start.classOf issi desired.1).isSome) :
    Restored start issi (Affiliations.restore issi oldGroups state desired) := by
  unfold Affiliations.restore
  split
  · exact restored
  cases found : state.1.clientMgr.lookup issi with
  | none =>
    rw [MmClientMgr.clientGroupAttachWithClassOfUsage, found]
    exact restored
  | some client =>
    rw [attach_eq state.1 issi _ _ found]
    have known : state.1.clientMgr.clientIsKnown issi = true := by
      rw [MmClientMgr.clientIsKnown, found]
      rfl
    have content (gssi : Nat) := classOf_eq state.1 issi gssi found
    have classes (subscribers : SubscriberRegistry) (other gssi : Nat) :
        (Affiliations.mk (state.1.clientMgr.insert issi
          { client with groups := client.groups.insert desired.1 desired.2 })
            subscribers state.1.updates).classOf other gssi =
          if other = issi ∧ gssi = desired.1 then some desired.2
          else state.1.classOf other gssi := by
      rw [classOf_insert]
      by_cases same : other = issi
      · rw [Table.lookup_insert_eq, same, content]
        by_cases mentioned : gssi = desired.1 <;> simp [mentioned]
      · simp [same]
    have own (gssi : Nat) : ((client.groups.insert desired.1 desired.2).lookup gssi).isSome ↔
        gssi = desired.1 ∨ gssi ∈ state.1.subscribers.attachedGroups issi := by
      rw [Table.lookup_insert_eq, restored.here.registry, content]
      by_cases mentioned : gssi = desired.1 <;> simp [mentioned]
    have finish {subscribers : SubscriberRegistry} {added updated : List Nat}
        (here : (Affiliations.mk (state.1.clientMgr.insert issi
          { client with groups := client.groups.insert desired.1 desired.2 })
            subscribers state.1.updates).Local)
        (noted : ∀ gssi, gssi ∈ added ∨ gssi ∈ updated ↔
          (gssi ∈ state.2.1 ∨ gssi ∈ state.2.2) ∨ gssi = desired.1) :
        Restored start issi ((Affiliations.mk (state.1.clientMgr.insert issi
          { client with groups := client.groups.insert desired.1 desired.2 })
            subscribers state.1.updates), added, updated) := by
      refine ⟨here, restored.updates, fun other different => ?_, fun gssi notAdded notUpdated => ?_,
        fun gssi mentioned => ?_, fun gssi before => ?_⟩
      · funext gssi
        rw [classes, if_neg fun both => different both.1, restored.others other different]
      · have unnoted := (not_congr (noted gssi)).mp (not_or.mpr ⟨notAdded, notUpdated⟩)
        rw [not_or, not_or] at unnoted
        rw [classes, if_neg fun both => unnoted.2 both.2, restored.kept gssi unnoted.1.1 unnoted.1.2]
      · rw [classes]
        split
        · rfl
        next different =>
          rcases (noted gssi).mp mentioned with before | same
          · exact restored.joined gssi before
          · exact absurd ⟨rfl, same⟩ different
      · rw [classes]
        split
        · rfl
        · exact restored.grows gssi before
    dsimp only
    split
    next present =>
      have inside : desired.1 ∈ state.1.subscribers.attachedGroups issi :=
        (restored.here.registry issi desired.1).mpr (restored.grows desired.1 (old present))
      refine finish (restored.here.change known (fun _ => rfl) (fun _ _ => rfl) (fun gssi => ?_)
        restored.here.whole _) fun gssi => ?_
      · rw [own]
        exact ⟨.inr, fun either => either.elim (fun same => same ▸ inside) id⟩
      · rw [mem_append, mem_singleton]
        tauto
    · refine finish (restored.here.change known (fun other => ?_) (fun other different => ?_)
        (fun gssi => ?_) (restored.here.whole.affiliate issi _) _) fun gssi => ?_
      · rw [SubscriberRegistry.isRegistered_affiliate, restored.here.known]
        by_cases same : other = issi <;> simp [same, known]
      · rw [SubscriberRegistry.attachedGroups_affiliate, if_neg different]
      · rw [own, SubscriberRegistry.attachedGroups_affiliate, if_pos rfl, Finset.mem_insert]
      · rw [mem_append, mem_singleton]
        tauto

theorem Restored.foldl (wanted : List (Nat × Nat))
    (old : ∀ desired ∈ wanted, (oldGroups.lookup desired.1).isSome →
      (start.classOf issi desired.1).isSome) {state : Affiliations × List Nat × List Nat}
    (restored : Restored start issi state) :
    Restored start issi (wanted.foldl (Affiliations.restore issi oldGroups) state) :=
  foldlRecOn wanted _ restored fun _ restored desired member =>
    restored.restore desired (old desired member)

/-- **The groups become those that the network knows.** -/
theorem agrees_reconcileGroups (agrees : m.Agrees) (issi : Nat)
    (groups : List AttachmentOperation) : (m.reconcileGroups issi groups).Agrees := by
  let oldGroups := m.clientMgr.clientGroups issi
  let desired := desiredGroups groups
  let detached := (oldGroups.keys.filter fun gssi => (desired.lookup gssi).isNone).mergeSort
  let left := detached.foldl (fun m gssi => m.detachStale issi gssi) m
  let start := left.emitGroups issi detached .deaffiliate
  obtain ⟨leftHere, leftUpdates, -, leftClass⟩ := foldl_detachStale_spec agrees.here issi detached
  have follows : left.cmce.Follows m.classOf := by
    unfold Affiliations.cmce
    rw [show left.updates = m.updates from leftUpdates]
    exact agrees.there
  have startAgrees : start.Agrees := by
    refine (leftHere.emitGroups issi detached .deaffiliate).agrees
      (follows_emitDeaffiliate follows issi detached) fun other gssi => ?_
    rw [classOf_emitGroups, leftClass, update_apply]
    by_cases same : other = issi
    · simp only [same, true_and, if_true]
    · simp only [same, false_and, if_false]
  let wanted := (desired.entries.map fun entry => (entry.1, entry.2)).mergeSort
    fun first second => first.1 ≤ second.1
  have old : ∀ entry ∈ wanted, (oldGroups.lookup entry.1).isSome →
      (start.classOf issi entry.1).isSome := by
    intro entry member present
    obtain ⟨⟨gssi, classOfUsage⟩, inside, rfl⟩ := mem_map.mp (mem_mergeSort.mp member)
    have found : desired.lookup gssi = some classOfUsage := Table.mem_entries.mp inside
    have stays : gssi ∉ detached := fun gone => by
      have filtered := mem_filter.mp (mem_mergeSort.mp gone)
      rw [found] at filtered
      exact Bool.false_ne_true filtered.2
    rw [show start.classOf = left.classOf from classOf_emitGroups .., leftClass,
      if_neg fun both => stays both.2]
    exact present
  have restored : Restored start issi (wanted.foldl (restore issi oldGroups) (start, [], [])) :=
    Restored.foldl wanted old ⟨startAgrees.here, rfl, fun _ _ => rfl, fun _ _ _ => rfl,
      fun gssi mentioned => by simp at mentioned, fun _ => id⟩
  let done := wanted.foldl (restore issi oldGroups) (start, [], [])
  have doneFollows : done.1.cmce.Follows start.classOf := by
    unfold Affiliations.cmce
    rw [restored.updates]
    exact startAgrees.there
  have told := follows_emitAffiliate (follows_emitAffiliate doneFollows issi done.2.1) issi done.2.2
  rw [update_idem, update_self] at told
  refine ((restored.here.emitGroups issi done.2.1 .affiliate).emitGroups issi done.2.2
    .affiliate).agrees told fun other gssi => ?_
  rw [classOf_emitGroups, classOf_emitGroups, update_apply]
  split
  next same =>
    subst same
    have present (mentioned : gssi ∈ done.2.1 ∨ gssi ∈ done.2.2) :
        done.1.classOf other gssi = some ((done.1.classOf other gssi).getD 0) := by
      obtain ⟨classOfUsage, is⟩ := isSome_iff_exists.mp (restored.joined gssi mentioned)
      rw [show done.1.classOf other gssi = some classOfUsage from is]
      rfl
    beta_reduce
    split
    next updated =>
      exact present (.inr updated)
    · split
      next added =>
        exact present (.inl added)
      next notUpdated notAdded =>
        exact restored.kept gssi notAdded notUpdated
  next different =>
    exact congrFun (restored.others other different) gssi

theorem agrees_syncScanning (agrees : m.Agrees) (issi : Nat) (scanningEnabled : Bool) :
    (m.syncScanning issi scanningEnabled).Agrees := by
  unfold syncScanning
  split
  · exact agrees
  unfold MmClientMgr.setClientScanningEnabled
  cases found : m.clientMgr.lookup issi with
  | none => exact agrees
  | some client =>
    have changed := @Agrees.insert_client _ _ agrees client { client with scanningEnabled } found rfl
    have told := @Agrees.registry_congr _ changed
      (m.subscribers.setScanningEnabled issi scanningEnabled)
      (SubscriberRegistry.isRegistered_modify _ _ _)
      (SubscriberRegistry.attachedGroups_modify _ _ fun _ => rfl) rfl
    refine ⟨told.here.congr rfl rfl, ?_⟩
    change (Affiliations.push _ _).cmce.Follows _
    rw [cmce_push]
    exact told.there.scanning issi _ _ _

/-- **The memberships become those that the network knows.** -/
theorem agrees_reconcile (agrees : m.Agrees) (issi : Nat) (groups : List AttachmentOperation)
    (scanningEnabled : Bool) : (m.reconcile issi groups scanningEnabled).Agrees :=
  agrees_syncScanning (agrees_reconcileGroups agrees issi groups) issi scanningEnabled

/-! ### Classes that a terminal acknowledges -/

variable (offered : List Nat)

/-- A returned group with a class, if it is one of those that were offered. -/
def returnedGroup (returned : GroupIdentityUplink) : Option (Nat × Nat) :=
  match returned.gssi, returned.groupIdentityDetachmentUplink, returned.classOfUsage with
  | some gssi, none, some classOfUsage =>
    if offered.contains gssi then some (gssi, classOfUsage) else none
  | _, _, _ => none

/-- A known terminal is in all groups that it returns with a class. -/
def confirms (m : Affiliations) (issi : Nat) (offered : List Nat) (pdu : Acknowledgement) : Bool :=
  !m.clientMgr.clientIsKnown issi ||
    (pdu.groupIdentityUplink.filterMap (returnedGroup offered)).all fun returned =>
      (m.classOf issi returned.1).isSome

/-- What returned groups have done so far. -/
structure Reclassed (start : Affiliations) (issi : Nat) (state : MmClientMgr × List (Nat × Nat)) :
    Prop where
  here : ({ start with clientMgr := state.1 } : Affiliations).Local
  others : ∀ other, other ≠ issi →
    ({ start with clientMgr := state.1 } : Affiliations).classOf other = start.classOf other
  own : ({ start with clientMgr := state.1 } : Affiliations).classOf issi =
    state.2.foldl (fun (here : Nat → Option Nat) pair => Function.update here pair.1 (some pair.2))
      (start.classOf issi)

theorem updateClass_eq (state : MmClientMgr × List (Nat × Nat)) (returned : GroupIdentityUplink) :
    updateClass issi offered state returned = (returnedGroup offered returned).elim state fun pair =>
      match state.1.clientGroupAttachWithClassOfUsage issi pair.1 true pair.2 with
      | some (clientMgr, true) => (clientMgr, state.2 ++ [pair])
      | some (clientMgr, false) => (clientMgr, state.2)
      | none => state := by
  obtain ⟨classOfUsage, detachment, gssi, _, _⟩ := returned
  unfold updateClass returnedGroup
  cases gssi <;> cases detachment <;> cases classOfUsage <;> try rfl
  dsimp only
  split <;> rfl

/-- **One returned group** that the terminal is in. -/
theorem Reclassed.updateClass (reclassed : Reclassed start issi state) (offered : List Nat)
    (returned : GroupIdentityUplink) (inside : ∀ pair, returnedGroup offered returned = some pair →
      pair.1 ∈ start.subscribers.attachedGroups issi) :
    Reclassed start issi (Affiliations.updateClass issi offered state returned) := by
  rw [updateClass_eq]
  cases mentioned : returnedGroup offered returned with
  | none => exact reclassed
  | some pair =>
    rw [elim_some]
    let m : Affiliations := { start with clientMgr := state.1 }
    cases found : m.clientMgr.lookup issi with
    | none =>
      rw [MmClientMgr.clientGroupAttachWithClassOfUsage,
        show state.1.lookup issi = none from found]
      exact reclassed
    | some client =>
      have known : m.clientMgr.clientIsKnown issi = true := by
        rw [MmClientMgr.clientIsKnown, found]
        rfl
      have content (gssi : Nat) := classOf_eq m issi gssi found
      let changed : Affiliations := ⟨m.clientMgr.insert issi
        { client with groups := client.groups.insert pair.1 pair.2 }, m.subscribers, m.updates⟩
      have classes (other gssi : Nat) : changed.classOf other gssi =
          if other = issi then
            Function.update (m.classOf issi) pair.1 (some pair.2) gssi
          else m.classOf other gssi := by
        refine (classOf_insert m issi other gssi _ _ _).trans ?_
        split
        · rw [Table.lookup_insert_eq, update_apply, content]
        · rfl
      have here : changed.Local := by
        refine reclassed.here.change known (fun _ => rfl) (fun _ _ => rfl) (fun gssi => ?_)
          reclassed.here.whole _
        rw [reclassed.here.registry, Table.lookup_insert_eq]
        split
        next same =>
          rw [same]
          exact iff_of_true ((reclassed.here.registry issi _).mp (inside pair mentioned)) rfl
        · rw [content]
      have others (other : Nat) (different : other ≠ issi) :
          changed.classOf other = start.classOf other := by
        rw [← reclassed.others other different]
        funext gssi
        rw [classes, if_neg different]
      have own : changed.classOf issi = Function.update (m.classOf issi) pair.1 (some pair.2) := by
        funext gssi
        rw [classes, if_pos rfl]
      rw [attach_eq m issi pair.1 pair.2 found]
      by_cases same : client.groups.lookup pair.1 = some pair.2
      · rw [decide_eq_false (not_not.mpr same)]
        refine ⟨here, others, own.trans ?_⟩
        rw [show some pair.2 = m.classOf issi pair.1 by rw [content, same], update_eq_self]
        exact reclassed.own
      · rw [decide_eq_true same]
        refine ⟨here, others, own.trans ?_⟩
        rw [foldl_append, foldl_cons, foldl_nil, ← reclassed.own]

theorem Reclassed.foldl (returned : List GroupIdentityUplink)
    (inside : ∀ pair ∈ returned.filterMap (returnedGroup offered),
      pair.1 ∈ start.subscribers.attachedGroups issi) (reclassed : Reclassed start issi state) :
    Reclassed start issi (returned.foldl (Affiliations.updateClass issi offered) state) :=
  foldlRecOn returned _ reclassed fun _ reclassed giu member =>
    reclassed.updateClass offered giu fun pair mentioned =>
      inside pair (mem_filterMap.mpr ⟨giu, member, mentioned⟩)

theorem foldl_updateClass_unknown (returned : List GroupIdentityUplink)
    (unknown : state.1.lookup issi = none) :
    returned.foldl (updateClass issi offered) state = state := by
  induction returned with
  | nil => rfl
  | cons first rest ih =>
    rw [foldl_cons, updateClass_eq]
    cases returnedGroup offered first with
    | none => exact ih
    | some pair =>
      rw [elim_some, MmClientMgr.clientGroupAttachWithClassOfUsage, unknown]
      exact ih

/-- **Classes of groups that are attached.** -/
theorem agrees_updateClasses (agrees : m.Agrees) (issi : Nat) (offered : List Nat)
    (pdu : Acknowledgement) (confirmed : m.confirms issi offered pdu = true) :
    (m.updateClasses issi offered pdu).Agrees := by
  have reclassed : Reclassed m issi
      (pdu.groupIdentityUplink.foldl (updateClass issi offered) (m.clientMgr, [])) := by
    have start : Reclassed m issi (m.clientMgr, []) := ⟨agrees.here, fun _ _ => rfl, rfl⟩
    cases found : m.clientMgr.lookup issi with
    | none =>
      rw [foldl_updateClass_unknown offered _ found]
      exact start
    | some client =>
      refine start.foldl offered _ fun pair member => ?_
      rw [agrees.here.registry]
      unfold confirms at confirmed
      rw [MmClientMgr.clientIsKnown, found, Bool.or_eq_true, List.all_eq_true] at confirmed
      exact (confirmed.resolve_left Bool.false_ne_true) pair member
  unfold updateClasses
  dsimp only
  split
  next empty =>
    rw [List.isEmpty_iff] at empty
    refine @Local.agrees _ reclassed.here m.classOf agrees.there fun other gssi => ?_
    by_cases same : other = issi
    · subst same
      have own := congrFun reclassed.own gssi
      rw [empty] at own
      exact own
    · exact congrFun (reclassed.others other same) gssi
  · refine @Local.agrees _ (reclassed.here.congr rfl rfl) (Function.update m.classOf issi
      ((pdu.groupIdentityUplink.foldl (updateClass issi offered) (m.clientMgr, [])).2.foldl
        (fun (here : Nat → Option Nat) pair => Function.update here pair.1 (some pair.2))
        (m.classOf issi))) ?_ fun other gssi => ?_
    · rw [cmce_push]
      exact agrees.there.affiliate issi _
    · rw [update_apply]
      split
      next same =>
        subst same
        exact congrFun reclassed.own gssi
      next different =>
        exact congrFun (reclassed.others other different) gssi

end Affiliations

end Bluestation
