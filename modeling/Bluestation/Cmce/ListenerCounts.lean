/-
**The listeners of a group are counted, and a group without listeners has no calls.**

The counters of listeners stand beside the sets of groups. They are right after every sequence of reports
and reservations, and what is kept about a subscriber is kept while it is known. When the last listener of
a group leaves, the active calls of the group end. Calls that are suspended, and circuits that wait for
their call, stay.

* `Cc.CcBs.Tracked` — the counters are right, and nothing is kept about strangers.
* `Cc.CcBs.listeners_tracked` — in every run, and when the last listener leaves.
-/

import Bluestation.Cmce.Admission
import Bluestation.Cmce.Beginnings
import Bluestation.Lib.Run

namespace Bluestation.Cc

open Machines Headcount List Option Nat Bool AList Table Subscribers CcBs Headcount

/-! ### What the end of calls leaves -/

theorem CapacityContext.observe_same (message : SwmiMessage) (context : CapacityContext) :
    (context.observe message).gssi = context.gssi ∧ (context.observe message).callId = context.callId := by
  have floor (itsi : Nat) : (context.withFloor itsi).gssi = context.gssi ∧
      (context.withFloor itsi).callId = context.callId := by
    cases context <;> exact ⟨rfl, rfl⟩
  have priority (value : Nat) : (context.withPriority value).gssi = context.gssi ∧
      (context.withPriority value).callId = context.callId := by
    cases context <;> exact ⟨rfl, rfl⟩
  have choose (condition : Bool) {other : CapacityContext}
      (same : other.gssi = context.gssi ∧ other.callId = context.callId) :
      (if condition then other else context).gssi = context.gssi ∧
        (if condition then other else context).callId = context.callId := by
    cases condition
    · exact ⟨rfl, rfl⟩
    · exact same
  unfold observe
  split
  · exact choose _ (floor _)
  · exact choose _ (floor _)
  · exact choose _ (priority _)
  · exact choose _ (floor _)
  · exact choose _ (floor _)
  · exact ⟨rfl, rfl⟩

namespace CcBs

/-- The subscribers stay as they are, and candidates are found for known terminals only. -/
structure Keeps (s next : CcBs) : Prop where
  subscribers : next.subscribers = s.subscribers
  candidates : ∀ issi, (next.listeningCandidates.lookup issi).isSome = true →
    (s.listeningCandidates.lookup issi).isSome = true ∨ s.Knows issi

/-- No call starts, and no circuit is reserved. -/
structure Shrinks (s next : CcBs) : Prop where
  active : ∀ {callId call}, next.activeCalls.lookup callId = some call →
    s.activeCalls.lookup callId = some call
  suspended : ∀ {callId call}, next.capacity.suspendedGroups.lookup callId = some call →
    s.capacity.suspendedGroups.lookup callId = some call
  reserved : ∀ {callId circuit}, next.capacity.reservedGroups.lookup callId = some circuit →
    s.capacity.reservedGroups.lookup callId = some circuit
  contexts : ∀ {token context}, next.capacity.contexts.lookup token = some context →
    ∃ before, s.capacity.contexts.lookup token = some before ∧ before.gssi = context.gssi ∧
      before.callId = context.callId

/-- What the end of calls leaves. -/
structure Winds (s next : CcBs) : Prop extends Keeps s next, Shrinks s next

variable {s next last : CcBs}

theorem Keeps.refl (s : CcBs) : Keeps s s := ⟨rfl, fun _ => .inl⟩

theorem Keeps.trans (first : Keeps s next) (second : Keeps next last) : Keeps s last where
  subscribers := second.subscribers.trans first.subscribers
  candidates issi found := by
    rcases second.candidates issi found with before | known
    · exact first.candidates issi before
    · unfold Knows at known
      rw [first.subscribers] at known
      exact .inr known

theorem ListensOnly.keeps (listens : ListensOnly s.Knows s next) : Keeps s next := by
  refine ⟨by rw [listens.rest], fun issi found => ?_⟩
  by_cases same : next.listeningCandidates.lookup issi = s.listeningCandidates.lookup issi
  · rw [same] at found
    exact .inl found
  · exact .inr (listens.candidates issi same)

theorem Shrinks.refl (s : CcBs) : Shrinks s s := ⟨id, id, id, fun found => ⟨_, found, rfl, rfl⟩⟩

theorem Shrinks.trans (first : Shrinks s next) (second : Shrinks next last) : Shrinks s last where
  active found := first.active (second.active found)
  suspended found := first.suspended (second.suspended found)
  reserved found := first.reserved (second.reserved found)
  contexts found := by
    obtain ⟨between, there, group, call⟩ := second.contexts found
    obtain ⟨before, here, group', call'⟩ := first.contexts there
    exact ⟨before, here, group'.trans group, call'.trans call⟩

theorem Winds.refl (s : CcBs) : Winds s s := ⟨.refl s, .refl s⟩

theorem Winds.trans (first : Winds s next) (second : Winds next last) : Winds s last :=
  ⟨first.toKeeps.trans second.toKeeps, first.toShrinks.trans second.toShrinks⟩

theorem lookup_erase_some {Value : Type} {table : Table Value} {key other : Nat} {value : Value}
    (found : (table.erase key).lookup other = some value) : table.lookup other = some value := by
  rw [lookup_erase_eq] at found
  exact (ite_none_left_eq_some.mp found).2

/-- **Every change at the end of a call winds down.** -/
theorem Ends.winds (change : Ends s next) : Winds s next := by
  cases change with
  | listen listens =>
    refine ⟨listens.keeps, ?_⟩
    rw [listens.rest]
    exact ⟨id, id, id, fun found => ⟨_, found, rfl, rfl⟩⟩
  | takeReserved callId keep others =>
    exact ⟨⟨rfl, fun _ => .inl⟩, id, id, lookup_erase_some, fun found => ⟨_, found, rfl, rfl⟩⟩
  | forgetToken token =>
    refine ⟨⟨rfl, fun _ => .inl⟩, id, id, id, fun found => ?_⟩
    exact ⟨_, lookup_erase_some found, rfl, rfl⟩
  | dropSuspended callId =>
    exact ⟨⟨rfl, fun _ => .inl⟩, id, lookup_erase_some, id, fun found => ⟨_, found, rfl, rfl⟩⟩
  | observeContexts message =>
    refine ⟨⟨rfl, fun _ => .inl⟩, id, id, id, fun found => ?_⟩
    obtain ⟨before, there, rfl⟩ := map_eq_some_iff.mp ((lookup_mapValues _ _ _).symm.trans found)
    obtain ⟨group, call⟩ := before.observe_same message
    exact ⟨before, there, group.symm, call.symm⟩
  | endCall callId =>
    exact ⟨⟨rfl, fun _ => .inl⟩, lookup_erase_some, id, id, fun found => ⟨_, found, rfl, rfl⟩⟩
  | _ => exact ⟨⟨rfl, fun _ => .inl⟩, id, id, id, fun found => ⟨_, found, rfl, rfl⟩⟩

theorem winds_of_ending (changes : Ending s next) : Winds s next := by
  induction changes with
  | refl => exact .refl s
  | tail _ last ih => exact ih.trans last.winds

/-! ### The calls of a group end -/

variable (setting : CcSetting)

theorem ending_dropGroupCall (order : List Nat) (s : CcBs) (entry : (_ : Nat) × ActiveCall) :
    Ending s (dropGroupCall setting order s entry) := by
  refine .trans ?_ (ending_releaseCall setting order _ entry.1)
  split
  · split
    · exact (Ends.tell .brew _).ending
    · exact .refl
  · exact .refl

theorem releaseCall_ends (order : List Nat) (s : CcBs) (callId : Nat) :
    (releaseCall setting order s callId).activeCalls.lookup callId = none := by
  unfold releaseCall
  dsimp only
  split
  · assumption
  · have listens (state : CcBs) : ListensOnly state.Knows state
        (state.reconcileAllSubscriberGroupListeners order) :=
      listensOnly_reconcileAll fun issi known => mem_keys.mpr known
    have ended (state : CcBs) : ((state.endCall callId).reconcileAllSubscriberGroupListeners
        order).activeCalls.lookup callId = none := by
      rw [(listens _).rest]
      exact AList.lookup_erase callId _
    split
    · exact ended _
    · refine eq_none_iff_forall_ne_some.mpr fun other found => ?_
      have before := (winds_of_ending (ending_finalizeRelease ..)).active found
      exact nomatch (ended _).symm.trans before

theorem drop_ends (order : List Nat) (entries : List ((_ : Nat) × ActiveCall)) (s : CcBs)
    {entry : (_ : Nat) × ActiveCall} (member : entry ∈ entries) :
    (entries.foldl (dropGroupCall setting order) s).activeCalls.lookup entry.1 = none := by
  induction entries generalizing s with
  | nil => cases member
  | cons first rest ih =>
    rw [foldl_cons]
    rcases mem_cons.mp member with rfl | later
    · refine eq_none_iff_forall_ne_some.mpr fun other found => ?_
      have before := (winds_of_ending (ending_foldl (fun state entry _ =>
        ending_dropGroupCall setting order state entry) _)).active found
      exact nomatch (releaseCall_ends ..).symm.trans before
    · exact ih _ later

theorem ending_dropGroupCallsIfUnlistened (order : List Nat) (s : CcBs) (gssi : Nat) :
    Ending s (dropGroupCallsIfUnlistened setting order s gssi) := by
  unfold dropGroupCallsIfUnlistened
  split
  · exact .refl
  · exact ending_foldl (fun state entry _ => ending_dropGroupCall setting order state entry) s

/-- **A group without listeners has no active call.** -/
theorem dropGroupCallsIfUnlistened_ends {setting : CcSetting} {order : List Nat} {s : CcBs} {gssi : Nat}
    (unheard : s.hasListener gssi = false) {callId : Nat} {call : ActiveCall}
    (found : (dropGroupCallsIfUnlistened setting order s gssi).activeCalls.lookup callId = some call) :
    call.destGssi ≠ gssi := by
  intro same
  have before := (winds_of_ending (ending_dropGroupCallsIfUnlistened setting order s gssi)).active found
  unfold dropGroupCallsIfUnlistened at found
  rw [if_neg (by rw [unheard]; exact false_ne_true)] at found
  have member : (⟨callId, call⟩ : (_ : Nat) × ActiveCall) ∈
      (s.activeCalls.rearrange order).entries.filter fun entry => entry.2.destGssi = gssi :=
    mem_filter.mpr ⟨mem_rearrange.mpr (mem_entries.mpr before), decide_eq_true same⟩
  exact nomatch (drop_ends setting order _ s member).symm.trans found

end CcBs

/-! ### The counters of the subscribers -/

namespace Subscribers

theorem count_cons_eq (other gssi : Nat) (groups : List Nat) :
    (gssi :: groups).count other = groups.count other + if other = gssi then 1 else 0 := by
  rw [count_cons]
  simp only [beq_iff_eq]
  exact congrArg _ (if_congr eq_comm rfl rfl)

theorem count_append_eq (other gssi : Nat) (groups : List Nat) :
    (groups ++ [gssi]).count other = groups.count other + if other = gssi then 1 else 0 := by
  rw [List.count_append, count_cons_eq, count_nil, zero_add]

def listenersIn (subscribers : Subscribers) (gssi : Nat) : Nat := size subscribers.subscriberGroups gssi

def Knows (subscribers : Subscribers) (issi : Nat) : Prop := issi ∈ subscribers.subscriberGroups

/-- The groups change, with their classes of usage; the counters do not. -/
structure Amends (issi : Nat) (before after : Subscribers) : Prop where
  listeners : after.groupListeners = before.groupListeners
  known : ∀ {other}, before.Knows other → after.Knows other
  others : ∀ {other}, other ≠ issi →
    after.subscriberGroups.lookup other = before.subscriberGroups.lookup other
  classes : ∀ {key}, (after.subscriberGroupCou.lookup key).isSome = true →
    (before.subscriberGroupCou.lookup key).isSome = true ∨ key.1 = issi

variable {subscribers before after last : Subscribers} {issi : Nat} {number : Nat → Nat}

theorem hasListener_iff (counts : Counts subscribers.groupListeners number) (gssi : Nat) :
    subscribers.hasListener gssi = true ↔ 0 < number gssi := by
  unfold hasListener
  rw [counts gssi, getD_positive, decide_eq_true_eq]

theorem incGroupListener_counts (counts : Counts subscribers.groupListeners number) (gssi : Nat) :
    Counts (subscribers.incGroupListener gssi).groupListeners
      fun other => number other + if other = gssi then 1 else 0 := counts.increment gssi

theorem decGroupListener_counts (counts : Counts subscribers.groupListeners number) (gssi : Nat) :
    Counts (subscribers.decGroupListener gssi).groupListeners
      fun other => number other - if other = gssi then 1 else 0 := by
  have dropped := counts.decrement gssi
  unfold decGroupListener
  cases held : subscribers.groupListeners.lookup gssi with
  | none =>
    refine counts.congr fun other => ?_
    split
    next same =>
      have zero : number other = 0 := by
        rw [same, ← getD_positive (number gssi), ← counts gssi, held]
        rfl
      rw [zero]
    · rfl
  | some count =>
    rw [held, getD_some] at dropped
    dsimp only
    split
    · rwa [if_pos ‹count ≤ 1›] at dropped
    · rwa [if_neg ‹¬ count ≤ 1›] at dropped

theorem decGroupListener_groups (subscribers : Subscribers) (gssi : Nat) :
    (subscribers.decGroupListener gssi).subscriberGroups = subscribers.subscriberGroups ∧
      (subscribers.decGroupListener gssi).subscriberGroupCou = subscribers.subscriberGroupCou := by
  unfold decGroupListener
  split
  · exact ⟨rfl, rfl⟩
  · split <;> exact ⟨rfl, rfl⟩

theorem incGroupListeners (groups : List Nat) (counts : Counts subscribers.groupListeners number) :
    Counts (groups.foldl incGroupListener subscribers).groupListeners
        (fun other => number other + groups.count other) ∧
      (groups.foldl incGroupListener subscribers).subscriberGroups = subscribers.subscriberGroups ∧
      (groups.foldl incGroupListener subscribers).subscriberGroupCou =
        subscribers.subscriberGroupCou := by
  induction groups generalizing subscribers number with
  | nil => exact ⟨counts, rfl, rfl⟩
  | cons gssi groups ih =>
    obtain ⟨counted, known, classes⟩ := ih (incGroupListener_counts counts gssi)
    refine ⟨counted.congr fun other => ?_, known, classes⟩
    rw [count_cons_eq, add_assoc, add_comm (groups.count other)]

theorem decGroupListeners (groups : List Nat) (counts : Counts subscribers.groupListeners number) :
    Counts (groups.foldl decGroupListener subscribers).groupListeners
        (fun other => number other - groups.count other) ∧
      (groups.foldl decGroupListener subscribers).subscriberGroups = subscribers.subscriberGroups ∧
      (groups.foldl decGroupListener subscribers).subscriberGroupCou =
        subscribers.subscriberGroupCou := by
  induction groups generalizing subscribers number with
  | nil => exact ⟨counts, rfl, rfl⟩
  | cons gssi groups ih =>
    obtain ⟨counted, known, classes⟩ := ih (decGroupListener_counts counts gssi)
    obtain ⟨groupsKept, classesKept⟩ := decGroupListener_groups subscribers gssi
    refine ⟨counted.congr fun other => ?_, known.trans groupsKept, classes.trans classesKept⟩
    rw [count_cons_eq, Nat.sub_sub, Nat.add_comm]

theorem Amends.refl (subscribers : Subscribers) : Amends issi subscribers subscribers :=
  ⟨rfl, id, fun _ => rfl, .inl⟩

theorem Amends.trans (first : Amends issi before after) (second : Amends issi after last) :
    Amends issi before last where
  listeners := second.listeners.trans first.listeners
  known held := second.known (first.known held)
  others different := (second.others different).trans (first.others different)
  classes found := (second.classes found).elim first.classes .inr

theorem amends_setGroups (subscribers : Subscribers) (issi : Nat) (groups : Table Unit) :
    Amends issi subscribers (subscribers.setGroups issi groups) :=
  ⟨rfl, fun held => (mem_insert _).mpr (.inr held), fun different =>
    lookup_insert_ne different, .inl⟩

theorem knows_setGroups (subscribers : Subscribers) (issi : Nat) (groups : Table Unit) :
    (subscribers.setGroups issi groups).Knows issi := (mem_insert _).mpr (.inl rfl)

theorem amends_attachGroup (state : Subscribers × List Nat) (group : Nat × Nat) :
    Amends issi state.1 (attachGroup issi state group).1 := by
  have classed : Amends issi state.1
      { state.1 with
        subscriberGroupCou := state.1.subscriberGroupCou.insert (issi, group.1) group.2 } := by
    refine ⟨rfl, id, fun _ => rfl, fun {key} found => ?_⟩
    by_cases same : key = (issi, group.1)
    · exact .inr (congrArg Prod.fst same)
    · exact .inl (by rwa [Dictionary.lookup_insert, if_neg same] at found)
  unfold attachGroup
  dsimp only
  split
  · exact classed
  · exact classed.trans (amends_setGroups _ issi _)

theorem amends_detachGroup (state : Subscribers × List Nat) (gssi : Nat) :
    Amends issi state.1 (detachGroup issi state gssi).1 := by
  have classed : Amends issi state.1
      { state.1 with
        subscriberGroupCou := state.1.subscriberGroupCou.erase (issi, gssi) } := by
    refine ⟨rfl, id, fun _ => rfl, fun {key} found => ?_⟩
    rw [Dictionary.lookup_erase] at found
    split at found
    · cases found
    · exact .inl found
  unfold detachGroup
  dsimp only
  split
  · exact classed.trans (amends_setGroups _ issi _)
  · exact classed

/-- **The groups that are new are those with one member more.** -/
theorem attachGroups_spec (issi : Nat) (groups : List (Nat × Nat)) (state : Subscribers × List Nat) :
    Amends issi state.1 (groups.foldl (attachGroup issi) state).1 ∧
      ∀ gssi, (groups.foldl (attachGroup issi) state).1.listenersIn gssi + state.2.count gssi =
        state.1.listenersIn gssi + (groups.foldl (attachGroup issi) state).2.count gssi := by
  induction groups generalizing state with
  | nil => exact ⟨.refl _, fun _ => rfl⟩
  | cons group groups ih =>
    obtain ⟨amends, sizes⟩ := ih (attachGroup issi state group)
    refine ⟨(amends_attachGroup state group).trans amends, fun gssi => ?_⟩
    have rest := sizes gssi
    have one : (attachGroup issi state group).1.listenersIn gssi + state.2.count gssi =
        state.1.listenersIn gssi + (attachGroup issi state group).2.count gssi := by
      unfold attachGroup listenersIn
      dsimp only
      split
      · rfl
      next fresh =>
        unfold setGroups groupsOf
        rw [size_enter _ fresh, count_append_eq, add_assoc,
          add_comm (if gssi = group.1 then 1 else 0)]
    rw [foldl_cons]
    omega

/-- **The groups that are gone are those with one member less.** -/
theorem detachGroups_spec (issi : Nat) (groups : List Nat) (state : Subscribers × List Nat) :
    Amends issi state.1 (groups.foldl (detachGroup issi) state).1 ∧
      ∀ gssi, (groups.foldl (detachGroup issi) state).1.listenersIn gssi +
          (groups.foldl (detachGroup issi) state).2.count gssi =
        state.1.listenersIn gssi + state.2.count gssi := by
  induction groups generalizing state with
  | nil => exact ⟨.refl _, fun _ => rfl⟩
  | cons group groups ih =>
    obtain ⟨amends, sizes⟩ := ih (detachGroup issi state group)
    refine ⟨(amends_detachGroup state group).trans amends, fun gssi => ?_⟩
    have rest := sizes gssi
    have one : (detachGroup issi state group).1.listenersIn gssi +
        (detachGroup issi state group).2.count gssi =
          state.1.listenersIn gssi + state.2.count gssi := by
      unfold detachGroup listenersIn
      dsimp only
      split
      next held =>
        have left := size_leave state.1.subscriberGroups held gssi
        rw [count_append_eq, ← left]
        exact (add_assoc ..).symm.trans (add_right_comm ..)
      · rfl
    exact rest.trans one

end Subscribers

namespace CcBs

/-! ### What is kept about subscribers -/

/-- The counters are right, and nothing is kept about a terminal that is not known. -/
structure Tracked (s : CcBs) : Prop where
  counts : Counts s.subscribers.groupListeners s.subscribers.listenersIn
  classes : ∀ key, (s.subscribers.subscriberGroupCou.lookup key).isSome = true → s.Knows key.1
  candidates : ∀ issi, (s.listeningCandidates.lookup issi).isSome = true → s.Knows issi

variable {s next : CcBs}

theorem Tracked.keeps (tracked : s.Tracked) (keeps : Keeps s next) : next.Tracked := by
  have knows {issi : Nat} (known : s.Knows issi) : next.Knows issi := by
    unfold Knows
    rw [keeps.subscribers]
    exact known
  refine ⟨?_, ?_, fun issi found => ?_⟩
  · rw [keeps.subscribers]
    exact tracked.counts
  · rw [keeps.subscribers]
    exact fun key found => knows (tracked.classes key found)
  · exact knows ((keeps.candidates issi found).elim (tracked.candidates issi) id)

/-- The groups of a subscriber have changed, and the counters with them. -/
theorem Tracked.amend {issi : Nat} {after : Subscribers} (tracked : s.Tracked)
    (amends : Subscribers.Amends issi s.subscribers { after with
      groupListeners := s.subscribers.groupListeners })
    (known : after.Knows issi) (counts : Counts after.groupListeners after.listenersIn) :
    (s.setSubscribers after).Tracked where
  counts := counts
  classes key found := by
    rcases amends.classes found with before | own
    · exact amends.known (tracked.classes key before)
    · exact own ▸ known
  candidates issi found := amends.known (tracked.candidates issi found)

theorem Tracked.keeps_reconcile (tracked : s.Tracked) (order : List Nat) (issi : Nat) :
    Keeps s (reconcileSubscriberGroupListeners order s issi) := by
  by_cases known : s.Knows issi
  · exact (listensOnly_reconcile known s).keeps
  · have detached (gssi : Nat) : s.subscribers.attached issi gssi = false := by
      unfold attached
      rw [lookup_eq_none.mpr known]
      rfl
    have none : s.listeningCandidates.lookup issi = none := by
      by_contra found
      exact known (tracked.candidates issi (isSome_iff_ne_none.mpr found))
    have nothing : s.eligibleCalls order issi = [] := by
      refine filter_eq_nil_iff.mpr fun entry _ => ?_
      rw [detached]
      exact false_ne_true
    have retained : s.retainCandidates issi [] = s := by
      unfold retainCandidates
      rw [none]
    unfold reconcileSubscriberGroupListeners
    dsimp only
    rw [nothing, retained]
    split
    · exact .refl s
    · exact .refl s

/-- A change at the start of a call keeps the subscribers. -/
theorem Begins.keeps (change : Begins s next) : Keeps s next := by
  cases change with
  | ends change => exact change.winds.toKeeps
  | _ => exact ⟨rfl, fun _ => .inl⟩

theorem keeps_of_beginning (changes : Beginning s next) : Keeps s next := by
  induction changes with
  | refl => exact .refl s
  | tail _ last ih => exact ih.trans last.keeps

/-! ### One report, one reservation -/

theorem Tracked.register (tracked : s.Tracked) (issi : Nat) : (s.register issi).Tracked := by
  have amends := amends_setGroups s.subscribers issi (s.subscribers.groupsOf issi)
  have counts : Counts s.subscribers.groupListeners
      (s.subscribers.setGroups issi (s.subscribers.groupsOf issi)).listenersIn :=
    tracked.counts.congr fun gssi => (size_touch s.subscribers.subscriberGroups issi gssi).symm
  have known := knows_setGroups s.subscribers issi (s.subscribers.groupsOf issi)
  unfold CcBs.register Subscribers.scanByDefault
  split
  · exact tracked.amend amends known counts
  · exact tracked.amend ⟨rfl, amends.known, amends.others, amends.classes⟩ known counts

def StillHeard (s next : CcBs) : Prop :=
  ∀ gssi, s.hasListener gssi = true → next.hasListener gssi = true

theorem stillHeard_of_counts {number : Nat → Nat} (tracked : s.Tracked)
    (counts : Counts next.subscribers.groupListeners number)
    (more : ∀ gssi, s.subscribers.listenersIn gssi ≤ number gssi) : StillHeard s next := by
  intro gssi heard
  refine (hasListener_iff counts gssi).mpr ?_
  exact lt_of_lt_of_le ((hasListener_iff tracked.counts gssi).mp heard) (more gssi)

theorem StillHeard.keeps {last : CcBs} (heard : StillHeard s next) (keeps : Keeps next last) :
    StillHeard s last := by
  intro gssi before
  unfold hasListener
  rw [keeps.subscribers]
  exact heard gssi before

theorem Tracked.scanByDefault (tracked : s.Tracked) (issi : Nat) :
    (s.setSubscribers (s.subscribers.scanByDefault issi)).Tracked := by
  unfold Subscribers.scanByDefault
  split
  · exact tracked
  · exact ⟨tracked.counts, tracked.classes, tracked.candidates⟩

theorem Tracked.join (tracked : s.Tracked) (itsi gssi : Nat) :
    (s.setSubscribers (s.subscribers.join itsi gssi)).Tracked ∧
      StillHeard s (s.setSubscribers (s.subscribers.join itsi gssi)) := by
  by_cases attached : s.subscribers.attached itsi gssi = true
  · rw [join_attached attached]
    exact ⟨tracked, fun _ => id⟩
  · have fresh : gssi ∉ groupsOf s.subscribers.subscriberGroups itsi := by
      intro member
      refine attached ?_
      unfold Headcount.groupsOf at member
      unfold Subscribers.attached
      cases found : s.subscribers.subscriberGroups.lookup itsi with
      | none =>
        rw [found] at member
        exact absurd member (notMem_empty gssi)
      | some groups =>
        rw [found] at member
        exact decide_eq_true member
    have counts := @incGroupListener_counts (s.subscribers.setGroups itsi
      ((groupsOf s.subscribers.subscriberGroups itsi).insert gssi ())) _ tracked.counts gssi
    have joined : s.subscribers.join itsi gssi = (s.subscribers.setGroups itsi
        ((groupsOf s.subscribers.subscriberGroups itsi).insert gssi ())).incGroupListener gssi :=
      if_neg attached
    rw [joined]
    constructor
    · refine @amend s itsi _ tracked (amends_setGroups _ itsi _)
        (knows_setGroups _ itsi _) (counts.congr fun other => ?_)
      exact (size_enter s.subscribers.subscriberGroups fresh other).symm
    · exact stillHeard_of_counts tracked counts fun other => Nat.le_add_right ..

theorem Tracked.admitRoamer (tracked : s.Tracked) (itsi gssi : Nat) :
    (s.admitRoamer itsi gssi).Tracked ∧ StillHeard s (s.admitRoamer itsi gssi) := by
  obtain ⟨joined, heard⟩ := tracked.join itsi gssi
  refine ⟨joined.scanByDefault itsi, fun other before => ?_⟩
  have now := heard other before
  unfold CcBs.admitRoamer hasListener Subscribers.hasListener setSubscribers
  rwa [scanByDefault_listeners]

theorem knows_admitRoamer (s : CcBs) (itsi gssi : Nat) : (s.admitRoamer itsi gssi).Knows itsi := by
  have attached := s.subscribers.attached_join itsi gssi
  unfold Knows admitRoamer setSubscribers
  rw [scanByDefault_groups]
  by_contra unknown
  unfold Subscribers.attached at attached
  rw [lookup_eq_none.mpr unknown] at attached
  cases attached

theorem keeps_channelFor {setting : CcSetting} {itsi callId : Nat} (known : s.Knows itsi) :
    Keeps s (s.channelFor setting itsi callId).2 := by
  unfold channelFor
  split
  · exact .refl s
  · split
    · exact (listensOnly_recordUplinkCallLocation known s callId).keeps
    · exact .refl s

/-- A reservation, granted or refused. -/
theorem Tracked.reserve (tracked : s.Tracked) (setting : CcSetting) (itsi centralCallId ownerItsi gssi
    priority floorItsi : Nat) (acknowledged : Bool) :
    (s.reserveSeamlessHandoverGroupCall setting itsi centralCallId ownerItsi gssi priority floorItsi
        acknowledged).2.Tracked ∧
      StillHeard s (s.reserveSeamlessHandoverGroupCall setting itsi centralCallId ownerItsi gssi priority
        floorItsi acknowledged).2 := by
  obtain ⟨admitted, heard⟩ := tracked.admitRoamer itsi gssi
  have known := s.knows_admitRoamer itsi gssi
  unfold reserveSeamlessHandoverGroupCall
  split
  · exact ⟨tracked, fun _ => id⟩
  · dsimp only
    split
    · split
      · exact ⟨admitted, heard⟩
      · have keeps := @keeps_channelFor _ setting _ centralCallId known
        exact ⟨admitted.keeps keeps, heard.keeps keeps⟩
    · have starts := keeps_of_beginning (beginning_startRemoteSwmiCall (s.admitRoamer itsi gssi)
        centralCallId ⟨ownerItsi, gssi, priority, floorItsi, acknowledged, false⟩)
      have keeps := starts.trans (@keeps_channelFor _ setting itsi centralCallId (by
        unfold Knows
        rw [starts.subscribers]
        exact known))
      exact ⟨admitted.keeps keeps, heard.keeps keeps⟩

theorem Tracked.affiliate (tracked : s.Tracked) (order : List Nat) (issi : Nat)
    (groups classOfUsage : List Nat) : (s.affiliate order issi groups classOfUsage).Tracked ∧
      StillHeard s (s.affiliate order issi groups classOfUsage) := by
  obtain ⟨amends, sizes⟩ := attachGroups_spec issi (classed groups classOfUsage)
    (s.subscribers.setGroups issi (s.subscribers.groupsOf issi), [])
  have whole := (amends_setGroups s.subscribers issi (s.subscribers.groupsOf issi)).trans amends
  have known := amends.known (knows_setGroups s.subscribers issi (s.subscribers.groupsOf issi))
  unfold CcBs.affiliate
  dsimp only
  revert amends sizes whole known
  generalize List.foldl (attachGroup issi) _ _ = attached
  intro amends sizes whole known
  have before := tracked.counts
  rw [← whole.listeners] at before
  obtain ⟨counts, groupsKept, classesKept⟩ := incGroupListeners attached.2 before
  have size (gssi : Nat) : s.subscribers.listenersIn gssi + attached.2.count gssi =
      attached.1.listenersIn gssi := by
    have touched := size_touch s.subscribers.subscriberGroups issi gssi
    exact ((congrArg (· + _) touched).symm.trans (sizes gssi).symm)
  have counted : (s.setSubscribers (attached.2.foldl incGroupListener attached.1)).Tracked := by
    refine @amend s issi _ tracked ⟨rfl, fun held => ?_, fun different => ?_, fun found =>
      whole.classes ?_⟩ ?_ ?_
    · exact groupsKept ▸ whole.known held
    · exact (congrArg (AList.lookup _) groupsKept).trans (whole.others different)
    · exact classesKept ▸ found
    · unfold Subscribers.Knows
      rw [groupsKept]
      exact known
    · refine counts.congr fun gssi => ?_
      unfold listenersIn at size ⊢
      rw [groupsKept]
      exact size gssi
  have heard : StillHeard s (s.setSubscribers (attached.2.foldl incGroupListener
      attached.1)) := stillHeard_of_counts tracked counts fun gssi => Nat.le_add_right ..
  have starts := keeps_of_beginning (beginning_activatePendingRemoteSwmiCalls
    (s.setSubscribers (attached.2.foldl incGroupListener attached.1)) order attached.2)
  have keeps := starts.trans ((counted.keeps starts).keeps_reconcile order issi)
  exact ⟨counted.keeps keeps, heard.keeps keeps⟩

/-! ### Listeners leave -/

def Idle (s : CcBs) (gssi : Nat) : Prop :=
  ∀ callId call, s.activeCalls.lookup callId = some call → call.destGssi ≠ gssi

def Others (issi : Nat) (s next : CcBs) : Prop :=
  ∀ other, other ≠ issi →
    next.subscribers.subscriberGroups.lookup other = s.subscribers.subscriberGroups.lookup other

variable {gssi : Nat}

theorem Idle.shrinks (idle : s.Idle gssi) (shrinks : Shrinks s next) : next.Idle gssi :=
  fun callId call found => idle callId call (shrinks.active found)

variable (setting : CcSetting)

/-- The groups of a subscriber that is gone lose a listener each. -/
theorem dropMembership_foldl (order groups : List Nat) (distinct : groups.Nodup) (s : CcBs)
    {number : Nat → Nat} (counts : Counts s.subscribers.groupListeners number) :
    Shrinks s (groups.foldl (dropMembership setting order) s) ∧
      (groups.foldl (dropMembership setting order) s).subscribers.subscriberGroups =
        s.subscribers.subscriberGroups ∧
      (groups.foldl (dropMembership setting order) s).subscribers.subscriberGroupCou =
        s.subscribers.subscriberGroupCou ∧
      Counts (groups.foldl (dropMembership setting order) s).subscribers.groupListeners
        (fun gssi => number gssi - groups.count gssi) ∧
      (∀ issi, ((groups.foldl (dropMembership setting order) s).listeningCandidates.lookup
          issi).isSome = true → (s.listeningCandidates.lookup issi).isSome = true ∨ s.Knows issi) ∧
      ∀ gssi ∈ groups, number gssi ≤ 1 → (groups.foldl (dropMembership setting order) s).Idle gssi := by
  induction groups generalizing s number with
  | nil => exact ⟨.refl s, rfl, rfl, counts, fun _ => .inl, nofun⟩
  | cons gssi groups ih =>
    obtain ⟨fresh, rest⟩ := nodup_cons.mp distinct
    have less := decGroupListener_counts counts gssi
    obtain ⟨sameGroups, sameClasses⟩ := decGroupListener_groups s.subscribers gssi
    have winds := winds_of_ending (ending_dropGroupCallsIfUnlistened setting order
      (s.setSubscribers (s.subscribers.decGroupListener gssi)) gssi)
    have first : Shrinks s (dropMembership setting order s gssi) :=
      ⟨winds.active, winds.suspended, winds.reserved, winds.contexts⟩
    have subscribers : (dropMembership setting order s gssi).subscribers =
        s.subscribers.decGroupListener gssi := winds.subscribers
    obtain ⟨shrinks, sets, classes, counted, candidates, idle⟩ := ih rest
      (dropMembership setting order s gssi) (subscribers ▸ less)
    rw [foldl_cons]
    rw [subscribers] at sets classes
    refine ⟨first.trans shrinks, sets.trans sameGroups, classes.trans sameClasses,
      counted.congr fun other => ?_, fun issi found => ?_, fun other member few => ?_⟩
    · rw [Subscribers.count_cons_eq, Nat.sub_sub, Nat.add_comm]
    · have knows (now : (dropMembership setting order s gssi).Knows issi) : s.Knows issi := by
        unfold Knows at now ⊢
        rwa [subscribers, sameGroups] at now
      rcases candidates issi found with before | known
      · refine (winds.candidates issi before).imp id fun known => ?_
        unfold Knows at known ⊢
        rwa [show (s.setSubscribers (s.subscribers.decGroupListener gssi)).subscribers =
          s.subscribers.decGroupListener gssi from rfl, sameGroups] at known
      · exact .inr (knows known)
    · rcases mem_cons.mp member with rfl | later
      · refine .shrinks (fun callId call found => ?_) shrinks
        refine dropGroupCallsIfUnlistened_ends ?_ found
        refine eq_false_iff.mpr fun heard => ?_
        have some := (hasListener_iff less other).mp heard
        rw [if_pos rfl] at some
        omega
      · refine idle other later (le_trans (sub_le _ _) few)

/-- What becomes of the other subscribers and of the groups when a subscriber goes. -/
structure Leaves (issi : Nat) (s next : CcBs) : Prop extends Shrinks s next where
  others : ∀ {other}, other ≠ issi →
    next.subscribers.subscriberGroups.lookup other = s.subscribers.subscriberGroups.lookup other
  classes : next.subscribers.subscriberGroupCou = s.subscribers.subscriberGroupCou
  counts : Counts next.subscribers.groupListeners next.subscribers.listenersIn
  candidates : ∀ other, (next.listeningCandidates.lookup other).isSome = true →
    (s.listeningCandidates.lookup other).isSome = true ∨ s.Knows other
  idle : ∀ {gssi}, s.hasListener gssi = true → next.hasListener gssi = false → next.Idle gssi

theorem Leaves.known {issi other : Nat} (leaves : Leaves issi s next) (different : other ≠ issi)
    (known : s.Knows other) : next.Knows other := by
  refine lookup_isSome.mp ?_
  rw [leaves.others different]
  exact lookup_isSome.mpr known

theorem Tracked.leaves (tracked : s.Tracked) (setting : CcSetting) (order : List Nat) (issi : Nat) :
    Leaves issi s (s.dropMemberships setting order issi) := by
  unfold dropMemberships
  cases found : s.subscribers.subscriberGroups.lookup issi with
  | none =>
    refine ⟨.refl s, fun _ => rfl, rfl, tracked.counts, fun _ => .inl, fun heard lost => ?_⟩
    exact nomatch heard.symm.trans lost
  | some groups =>
    have distinct : (groups.rearrange order).keys.Nodup := keys_nodup _
    have inside (gssi : Nat) : (groups.rearrange order).keys.count gssi =
        share gssi (s.subscribers.subscriberGroups.lookup issi) := by
      rw [found, share_some, distinct.count]
      refine if_congr ?_ rfl rfl
      exact ((perm_insertionSort _ groups.entries).map Sigma.fst).mem_iff
    obtain ⟨shrinks, sets, classes, counts, candidates, idle⟩ := dropMembership_foldl setting order
      (groups.rearrange order).keys distinct
      (s.setSubscribers (s.subscribers.removeGroups issi)) tracked.counts
    have size (gssi : Nat) := size_erase s.subscribers.subscriberGroups issi gssi
    refine ⟨⟨shrinks.active, shrinks.suspended, shrinks.reserved, shrinks.contexts⟩,
      fun different => ?_, classes, ?_, fun other listed => ?_, fun {gssi} heard lost => ?_⟩
    · rw [sets]
      exact lookup_erase_ne different
    · refine counts.congr fun gssi => ?_
      have whole := size gssi
      rw [← inside] at whole
      unfold listenersIn
      rw [sets]
      exact Nat.sub_eq_of_eq_add whole.symm
    · exact (candidates other listed).imp id fun known => (mem_erase.mp known).2
    · have few := (hasListener_iff counts gssi).not.mp (by
        rw [show Subscribers.hasListener _ gssi = false from lost]
        exact false_ne_true)
      have some := (hasListener_iff tracked.counts gssi).mp heard
      have share := distinct.count (a := gssi)
      by_cases member : gssi ∈ (groups.rearrange order).keys
      · rw [if_pos member] at share
        refine idle gssi member ?_
        omega
      · rw [if_neg member] at share
        omega

theorem Tracked.deregister (tracked : s.Tracked) (setting : CcSetting) (order : List Nat) (issi : Nat) :
    (s.deregister setting order issi).Tracked ∧ Shrinks s (s.deregister setting order issi) ∧
      Others issi s (s.deregister setting order issi) ∧ ∀ gssi, s.hasListener gssi = true → (s.deregister setting order issi).hasListener gssi = false →
        (s.deregister setting order issi).Idle gssi := by
  have released := winds_of_ending (ending_foldl (fun state callId _ =>
    ending_releasePrivateCallLocal state callId) s : Ending s
      ((s.privateCallsOf order issi).foldl releasePrivateCallLocal s))
  unfold CcBs.deregister
  revert released
  generalize List.foldl releasePrivateCallLocal s _ = freed
  intro released
  have kept := tracked.keeps released.toKeeps
  have leaves := kept.leaves setting order issi
  revert leaves
  generalize freed.dropMemberships setting order issi = dropped
  intro leaves
  refine ⟨⟨leaves.counts, fun key classed => ?_, fun other listed => ?_⟩,
    released.toShrinks.trans ⟨leaves.active, leaves.suspended, leaves.reserved, leaves.contexts⟩,
    fun other different => ?_, fun gssi heard lost => ?_⟩
  · rw [show (dropped.forgetSubscriber issi).subscribers.subscriberGroupCou.lookup key =
      (dropped.subscribers.subscriberGroupCou.lookup key).filter _ from Dictionary.lookup_retain ..]
      at classed
    obtain ⟨value, filtered⟩ := isSome_iff_exists.mp classed
    obtain ⟨before, different⟩ := filter_eq_some_iff.mp filtered
    rw [leaves.classes] at before
    exact leaves.known (of_decide_eq_true different) (kept.classes key (isSome_of_eq_some before))
  · rw [show (dropped.forgetSubscriber issi).listeningCandidates.lookup other = _ from
      lookup_erase_eq ..] at listed
    split at listed
    · cases listed
    next different =>
      exact leaves.known different ((leaves.candidates other listed).elim (kept.candidates other) id)
  · rw [← released.subscribers]
    exact leaves.others different
  · refine leaves.idle ?_ lost
    unfold hasListener
    rw [released.subscribers]
    exact heard

/-- The groups that a subscriber has left, and the counters. -/
theorem Tracked.detach (tracked : s.Tracked) (issi : Nat) (groups : List Nat) :
    (s.setSubscribers (s.subscribers.detach issi groups).1).Tracked ∧
      Others issi s (s.setSubscribers (s.subscribers.detach issi groups).1) ∧
      ∀ gssi, s.hasListener gssi = true →
        (s.subscribers.detach issi groups).1.hasListener gssi = false →
          gssi ∈ (s.subscribers.detach issi groups).2 := by
  unfold Subscribers.detach
  cases found : s.subscribers.subscriberGroups.lookup issi with
  | none => exact ⟨tracked, fun _ _ => rfl, fun gssi heard lost => nomatch heard.symm.trans lost⟩
  | some held =>
    have known : s.subscribers.Knows issi := lookup_isSome.mp (isSome_of_eq_some found)
    obtain ⟨amends, sizes⟩ := detachGroups_spec issi groups (s.subscribers, [])
    revert amends sizes
    generalize List.foldl (detachGroup issi) _ _ = detached
    intro amends sizes
    have before := tracked.counts
    rw [← amends.listeners] at before
    obtain ⟨counts, groupsKept, classesKept⟩ := decGroupListeners detached.2 before
    refine ⟨?_, fun other different => ?_, ?_⟩
    · refine @amend s issi _ tracked ⟨rfl, fun held => ?_, fun different => ?_, fun found =>
        amends.classes ?_⟩ ?_ ?_
      · exact groupsKept ▸ amends.known held
      · exact (congrArg (AList.lookup _) groupsKept).trans (amends.others different)
      · exact classesKept ▸ found
      · unfold Subscribers.Knows
        rw [groupsKept]
        exact amends.known known
      · refine counts.congr fun gssi => ?_
        have size := sizes gssi
        unfold listenersIn at size ⊢
        rw [groupsKept]
        exact Nat.sub_eq_of_eq_add size.symm
    · exact (congrArg (AList.lookup other) groupsKept).trans (amends.others different)
    · intro gssi heard lost
      by_contra absent
      have some := (hasListener_iff tracked.counts gssi).mp heard
      have none := (hasListener_iff counts gssi).not.mp (by
        rw [lost]
        exact false_ne_true)
      rw [count_eq_zero.mpr absent] at none
      exact none some

theorem detach_sub (subscribers : Subscribers) (issi : Nat) (groups : List Nat)
    (left : gssi ∈ (subscribers.detach issi groups).2) : gssi ∈ groups := by
  have loop (groups : List Nat) (state : Subscribers × List Nat)
      (left : gssi ∈ (groups.foldl (detachGroup issi) state).2) :
      gssi ∈ state.2 ∨ gssi ∈ groups := by
    induction groups generalizing state with
    | nil => exact .inl left
    | cons group groups ih =>
      refine (ih _ left).elim (fun before => ?_) fun later => .inr (mem_cons_of_mem _ later)
      unfold detachGroup at before
      dsimp only at before
      split at before
      · refine (mem_append.mp before).imp id fun same => ?_
        rw [mem_singleton.mp same]
        exact mem_cons_self
      · exact .inl before
  unfold detach at left
  cases found : subscribers.subscriberGroups.lookup issi with
  | none => rwa [found] at left
  | some held =>
    rw [found] at left
    exact (loop groups (subscribers, []) left).resolve_left not_mem_nil

theorem dropUnlistened_foldl (order groups : List Nat) (s : CcBs) :
    Winds s (groups.foldl (dropGroupCallsIfUnlistened setting order) s) ∧
      ∀ gssi ∈ groups, s.hasListener gssi = false →
        (groups.foldl (dropGroupCallsIfUnlistened setting order) s).Idle gssi := by
  induction groups generalizing s with
  | nil => exact ⟨.refl s, nofun⟩
  | cons gssi groups ih =>
    have winds := winds_of_ending (ending_dropGroupCallsIfUnlistened setting order s gssi)
    obtain ⟨rest, idle⟩ := ih (dropGroupCallsIfUnlistened setting order s gssi)
    refine ⟨winds.trans rest, fun other member unheard => ?_⟩
    rcases mem_cons.mp member with rfl | later
    · exact .shrinks (fun _ _ found => dropGroupCallsIfUnlistened_ends unheard found) rest.toShrinks
    · refine idle other later ?_
      unfold hasListener
      rw [winds.subscribers]
      exact unheard

theorem shrinks_reconcile (s : CcBs) (order : List Nat) (issi : Nat) :
    Shrinks s (reconcileSubscriberGroupListeners order s issi) := by
  rw [(@listensOnly_reconcile (fun _ => True) _ _ trivial s).rest]
  exact ⟨id, id, id, fun found => ⟨_, found, rfl, rfl⟩⟩

theorem Tracked.deaffiliate (tracked : s.Tracked) (setting : CcSetting) (order : List Nat) (issi : Nat)
    (groups : List Nat) : (s.deaffiliate setting order issi groups).Tracked ∧
      Shrinks s (s.deaffiliate setting order issi groups) ∧
      Others issi s (s.deaffiliate setting order issi groups) ∧ ∀ gssi, s.hasListener gssi = true →
        (s.deaffiliate setting order issi groups).hasListener gssi = false →
          (s.deaffiliate setting order issi groups).Idle gssi ∧ gssi ∈ groups := by
  obtain ⟨detached, others, left⟩ := tracked.detach issi groups
  obtain ⟨winds, idle⟩ := dropUnlistened_foldl setting order (s.subscribers.detach issi groups).2
    (s.setSubscribers (s.subscribers.detach issi groups).1)
  have dropped := detached.keeps winds.toKeeps
  have listens := dropped.keeps_reconcile order issi
  have shrinks := shrinks_reconcile ((s.subscribers.detach issi groups).2.foldl
    (dropGroupCallsIfUnlistened setting order) (s.setSubscribers (s.subscribers.detach issi groups).1))
    order issi
  refine ⟨dropped.keeps listens, .trans
    ⟨winds.active, winds.suspended, winds.reserved, winds.contexts⟩ shrinks,
    fun other different => ?_, fun gssi heard lost => ?_⟩
  · rw [show (s.deaffiliate setting order issi groups).subscribers = _ from listens.subscribers,
      winds.subscribers]
    exact others other different
  have unheard : (s.subscribers.detach issi groups).1.hasListener gssi = false := by
    rw [show (s.deaffiliate setting order issi groups).hasListener gssi =
      ((s.deaffiliate setting order issi groups).subscribers).hasListener gssi from rfl,
      show (s.deaffiliate setting order issi groups).subscribers = _ from listens.subscribers,
      winds.subscribers] at lost
    exact lost
  have member := left gssi heard unheard
  exact ⟨(idle gssi member unheard).shrinks shrinks, detach_sub s.subscribers issi groups member⟩

theorem Tracked.setScanning (tracked : s.Tracked) (order : List Nat) (issi : Nat) (enabled : Bool) :
    (reconcileSubscriberGroupListeners order
        (s.setSubscribers (s.subscribers.setScanning issi enabled)) issi).Tracked ∧
      StillHeard s (reconcileSubscriberGroupListeners order
        (s.setSubscribers (s.subscribers.setScanning issi enabled)) issi) := by
  have set : (s.setSubscribers (s.subscribers.setScanning issi enabled)).Tracked :=
    ⟨tracked.counts, tracked.classes, tracked.candidates⟩
  have keeps := set.keeps_reconcile order issi
  exact ⟨set.keeps keeps,
    @StillHeard.keeps s (s.setSubscribers (s.subscribers.setScanning issi enabled)) _
      (fun _ => id) keeps⟩

/-! ### Runs -/

/-- What happens to the groups: a report, a reservation, or anything at all that does not concern the
subscribers. -/
inductive GroupEvent where
  | update (order : List Nat) (update : MmSubscriberUpdate)
  | reserve (itsi centralCallId ownerItsi gssi priority floorItsi : Nat) (acknowledged : Bool)
  | elsewhere (next : CcBs)

/-- The state after an event. -/
def takeGroupEvent (s : CcBs) : GroupEvent → CcBs
  | .update order update => s.handleSubscriberUpdate setting order update
  | .reserve itsi centralCallId ownerItsi gssi priority floorItsi acknowledged =>
    (s.reserveSeamlessHandoverGroupCall setting itsi centralCallId ownerItsi gssi priority floorItsi
      acknowledged).2
  | .elsewhere next =>
    { next with
      subscribers := s.subscribers
      listeningCandidates := s.listeningCandidates }

def groupMachine : Machine CcBs GroupEvent where
  start s := ∃ dltime policy, s = .new dltime policy
  step s event := some (s.takeGroupEvent setting event)

def suspendedTo (s : CcBs) (gssi : Nat) : Bool :=
  s.capacity.suspendedGroups.entries.any fun entry => entry.2.destGssi = gssi

def reservedTo (s : CcBs) (gssi : Nat) : Bool :=
  s.capacity.contexts.entries.any fun entry =>
    entry.2.gssi = some gssi &&
      (s.capacity.reservedGroups.lookup (callIdBits entry.2.callId)).isSome

def alone (s : CcBs) (issi gssi : Nat) : Bool :=
  s.subscribers.attached issi gssi &&
    s.subscribers.subscriberGroups.entries.all fun entry => entry.1 = issi || gssi ∉ entry.2

/-- The groups that lose their last listener by the event. -/
def emptiedBy (s : CcBs) : GroupEvent → List Nat
  | .update _ update =>
    match update.action with
    | .deregister => (s.subscribers.groupsOf update.issi).keys.filter (s.alone update.issi)
    | .deaffiliate => update.groups.filter (s.alone update.issi)
    | _ => []
  | _ => []

/-- No call is suspended, and no circuit reserved, of a group that loses its last listener. -/
def permits (s : CcBs) (event : GroupEvent) : Bool :=
  (s.emptiedBy event).all fun gssi => !s.suspendedTo gssi && !s.reservedTo gssi

/-- No call to the group is active or suspended, and no circuit is reserved for one. -/
def Quiet (s : CcBs) (gssi : Nat) : Prop :=
  s.Idle gssi ∧ s.suspendedTo gssi = false ∧ s.reservedTo gssi = false

theorem Tracked.alone_of_lost {issi : Nat} (tracked : s.Tracked) (after : next.Tracked)
    (others : Others issi s next) (heard : s.hasListener gssi = true)
    (lost : next.hasListener gssi = false) : s.alone issi gssi = true := by
  have none := (hasListener_iff after.counts gssi).not.mp (by
    rw [show next.subscribers.hasListener gssi = false from lost]
    exact false_ne_true)
  have nobody (entry : (_ : Nat) × Table Unit) (member : entry ∈ s.subscribers.subscriberGroups.entries) :
      (entry.1 = issi || gssi ∉ entry.2) = true := by
    by_cases own : entry.1 = issi
    · rw [decide_eq_true own, Bool.true_or]
    · rw [decide_eq_false own]
      refine decide_eq_true fun attached => none ?_
      have found := (others entry.1 own).trans (mem_entries.mp member)
      exact countP_pos_iff.mpr ⟨entry, mem_entries.mpr found, decide_eq_true attached⟩
  obtain ⟨entry, member, attached⟩ := countP_pos_iff.mp
    ((hasListener_iff tracked.counts gssi).mp heard)
  have own : entry.1 = issi := by
    by_contra other
    have absent := nobody entry member
    rw [decide_eq_false other] at absent
    exact of_decide_eq_true absent (of_decide_eq_true attached)
  refine and_eq_true_iff.mpr ⟨?_, all_eq_true.mpr nobody⟩
  unfold Subscribers.attached
  rw [← own, mem_entries.mp member]
  exact attached

theorem suspendedTo_shrinks (shrinks : Shrinks s next) (none : s.suspendedTo gssi = false) :
    next.suspendedTo gssi = false := by
  refine any_eq_false.mpr fun entry member => ?_
  have before := mem_entries.mpr (shrinks.suspended (mem_entries.mp member))
  exact any_eq_false.mp none entry before

theorem reservedTo_shrinks (shrinks : Shrinks s next) (none : s.reservedTo gssi = false) :
    next.reservedTo gssi = false := by
  refine any_eq_false.mpr fun entry member reserved => ?_
  rw [and_eq_true, decide_eq_true_eq] at reserved
  obtain ⟨context, found, group, call⟩ := shrinks.contexts (mem_entries.mp member)
  obtain ⟨circuit, waits⟩ := isSome_iff_exists.mp reserved.2
  refine any_eq_false.mp none ⟨entry.1, context⟩ (mem_entries.mpr found) ?_
  rw [and_eq_true, decide_eq_true_eq, group, call]
  exact ⟨reserved.1, isSome_of_eq_some (shrinks.reserved waits)⟩

theorem quiet_of_lost {event : GroupEvent} (permitted : s.permits event = true)
    (emptied : gssi ∈ s.emptiedBy event) (shrinks : Shrinks s next) (idle : next.Idle gssi) :
    next.Quiet gssi := by
  have none := all_eq_true.mp permitted gssi emptied
  rw [and_eq_true, not_eq_true', not_eq_true'] at none
  exact ⟨idle, suspendedTo_shrinks shrinks none.1, reservedTo_shrinks shrinks none.2⟩

/-- **One event.** -/
theorem Tracked.takeGroupEvent (tracked : s.Tracked) (setting : CcSetting) (event : GroupEvent) :
    (s.takeGroupEvent setting event).Tracked ∧ (s.permits event = true → ∀ gssi,
      s.hasListener gssi = true → (s.takeGroupEvent setting event).hasListener gssi = false →
        (s.takeGroupEvent setting event).Quiet gssi) := by
  have still {next : CcBs} (heard : StillHeard s next) : s.permits event = true → ∀ gssi,
      s.hasListener gssi = true → next.hasListener gssi = false → next.Quiet gssi :=
    fun _ gssi before lost => nomatch (heard gssi before).symm.trans lost
  cases event with
  | reserve itsi centralCallId ownerItsi gssi priority floorItsi acknowledged =>
    obtain ⟨after, heard⟩ := tracked.reserve setting itsi centralCallId ownerItsi gssi priority
      floorItsi acknowledged
    exact ⟨after, still heard⟩
  | elsewhere next =>
    exact ⟨⟨tracked.counts, tracked.classes, tracked.candidates⟩, still fun _ => id⟩
  | update order update =>
    obtain ⟨issi, groups, classOfUsage, scanningEnabled, action⟩ := update
    cases action with
    | register =>
      refine ⟨tracked.register issi, still fun gssi heard => ?_⟩
      unfold CcBs.takeGroupEvent handleSubscriberUpdate CcBs.register hasListener
        Subscribers.hasListener setSubscribers
      rw [scanByDefault_listeners]
      exact heard
    | affiliate =>
      obtain ⟨after, heard⟩ := tracked.affiliate order issi groups classOfUsage
      exact ⟨after, still heard⟩
    | scanningState =>
      cases scanningEnabled with
      | none => exact ⟨tracked, still fun _ => id⟩
      | some enabled =>
        obtain ⟨after, heard⟩ := tracked.setScanning order issi enabled
        exact ⟨after, still heard⟩
    | deregister =>
      obtain ⟨after, shrinks, others, idle⟩ := tracked.deregister setting order issi
      refine ⟨after, fun permitted gssi heard lost => ?_⟩
      have only := tracked.alone_of_lost after others heard lost
      refine quiet_of_lost permitted ?_ shrinks (idle gssi heard lost)
      refine mem_filter.mpr ⟨?_, only⟩
      have attached := (and_eq_true_iff.mp only).1
      unfold Subscribers.groupsOf Headcount.groupsOf
      obtain ⟨held, found, member⟩ := (any_eq_true _ _).mp attached
      rw [found]
      exact mem_keys.mp (of_decide_eq_true member)
    | deaffiliate =>
      obtain ⟨after, shrinks, others, idle⟩ := tracked.deaffiliate setting order issi groups
      refine ⟨after, fun permitted gssi heard lost => ?_⟩
      have only := tracked.alone_of_lost after others heard lost
      obtain ⟨ended, member⟩ := idle gssi heard lost
      exact quiet_of_lost permitted (mem_filter.mpr ⟨member, only⟩) shrinks ended

/-- **Listeners are counted, nothing is kept about strangers, and a group that loses its last listener has
no calls left**, in every run in which no call of such a group is suspended and no circuit reserved. -/
theorem listeners_tracked {setting : CcSetting} {s : CcBs}
    (reachable : Reachable (groupMachine setting) (fun s event => permits s event = true) s) :
    s.Tracked ∧ ∀ event, permits s event = true → ∀ gssi, s.hasListener gssi = true →
      (s.takeGroupEvent setting event).hasListener gssi = false →
        (s.takeGroupEvent setting event).Quiet gssi := by
  have tracked : s.Tracked := by
    refine reachable.invariant (fun first start => ?_) fun state event next held _ stepped => ?_
    · obtain ⟨dltime, policy, rfl⟩ := start
      exact ⟨fun _ => rfl, fun _ => nofun, fun _ => nofun⟩
    · cases some.inj stepped
      exact (held.takeGroupEvent setting event).1
  exact ⟨tracked, fun event permitted => (tracked.takeGroupEvent setting event).2 permitted⟩

/-! ### A listener comes and goes -/

def networkCell : CcBs := .new ⟨1, 1, 1, 0⟩ ⟨5000, 1000, 15000, 2000, 10000⟩

def centralSetting : CcSetting := ⟨fun _ => false, true, fun _ _ => true⟩

def attaches : GroupEvent := .update [] ⟨101, [204], [], none, .affiliate⟩

def leaves : GroupEvent := .update [] ⟨101, [204], [], none, .deaffiliate⟩

/-- The only listener of a group comes, and goes again; the group has no calls. -/
theorem listener_leaves : ∃ s, Reachable (groupMachine centralSetting) (fun s event => permits s event = true) s ∧
    s.Tracked ∧ s.hasListener 204 = true ∧ (s.takeGroupEvent centralSetting leaves).hasListener 204 = false ∧
      (s.takeGroupEvent centralSetting leaves).Quiet 204 := by
  obtain ⟨s, executed, good⟩ := (any_eq_true _ _).mp
    (show (execPermitted (groupMachine centralSetting) permits networkCell [attaches]).any (fun s =>
      decide (s.hasListener 204 = true ∧ s.permits leaves = true ∧
        (s.takeGroupEvent centralSetting leaves).hasListener 204 = false)) = true by decide +kernel)
  obtain ⟨heard, permitted, lost⟩ := of_decide_eq_true good
  have reachable : Reachable (groupMachine centralSetting) (fun s event => permits s event = true) s :=
    ⟨networkCell, ⟨_, _, rfl⟩, execPermitted_runs (fun _ _ permit => permit) executed⟩
  obtain ⟨tracked, quiet⟩ := listeners_tracked reachable
  exact ⟨s, reachable, tracked, heard, lost, quiet leaves permitted 204 heard lost⟩

/-- A call to the group waits, and a circuit is reserved for it. -/
def reservesCircuit (s : CcBs) : CcBs :=
  let around : Surroundings := ⟨[], [], 0, true, true, true, fun _ => false⟩
  let offered := s.capacityHandle .unbounded centralSetting around
    (.offer 1 5 1 false 15000 (some (.groupCallStart 5 101 204 1 0 false none)))
  offered.capacityHandle .unbounded centralSetting around (.control 1 .prepare)

/-- **A circuit stays reserved for a call to a group whose last listener has left.** -/
theorem reserved_for_nobody : ∃ s, Reachable (groupMachine centralSetting) always s ∧
    s.hasListener 204 = true ∧ (s.takeGroupEvent centralSetting leaves).hasListener 204 = false ∧
      ¬ (s.takeGroupEvent centralSetting leaves).Quiet 204 := by
  have start : (groupMachine centralSetting).start networkCell := ⟨_, _, rfl⟩
  obtain ⟨s, reached, heard, lost, reserved⟩ := reachable_exec (fun s => s.hasListener 204 = true ∧
      (s.takeGroupEvent centralSetting leaves).hasListener 204 = false ∧
      (s.takeGroupEvent centralSetting leaves).reservedTo 204 = true)
    [attaches, .elsewhere (networkCell.takeGroupEvent centralSetting attaches).reservesCircuit] start
    (by decide +kernel)
  refine ⟨s, reached, heard, lost, fun quiet => ?_⟩
  exact nomatch quiet.2.2.symm.trans reserved

end CcBs

end Bluestation.Cc
