/-
**The copies of the memberships agree.**

* `CmceSubscribers.Follows` — the copy of call control is a given one.
* `Affiliations.Agrees` — all three copies agree.

Every change of the memberships keeps them in agreement, except for two: a list of operations in
which a group comes back, and an acknowledgement that names a group which is not attached.
-/

import Bluestation.Mm.Affiliations

namespace Bluestation

open Amending List Option Function Table SubscriberRegistry MmClientMgr

/-! ### The registry -/

namespace SubscriberRegistry

variable {r : SubscriberRegistry} {issi other gssi : Nat}

/-- The set of all groups is the union of the groups of the subscribers. -/
def Whole (r : SubscriberRegistry) : Prop :=
  ∀ gssi, gssi ∈ r.allAttachedGroups ↔ ∃ issi, gssi ∈ r.attachedGroups issi

theorem hasMembers_iff (subscribers : Table Subscriber) (gssi : Nat) :
    hasMembers subscribers gssi = true ↔
      ∃ issi, gssi ∈ ((subscribers.lookup issi).getD .fresh).attachedGroups := by
  unfold hasMembers
  rw [List.any_eq_true]
  constructor
  · rintro ⟨subscriber, member, inside⟩
    obtain ⟨issi, found⟩ := mem_values.mp member
    exact ⟨issi, by simpa [found] using inside⟩
  · rintro ⟨issi, inside⟩
    cases found : subscribers.lookup issi with
    | none => simp [found, Subscriber.fresh] at inside
    | some subscriber =>
      exact ⟨subscriber, mem_values.mpr ⟨issi, found⟩, by simpa [found] using inside⟩

theorem attachedGroups_deregister (r : SubscriberRegistry) (issi other : Nat) :
    (r.deregister issi).attachedGroups other = if other = issi then ∅ else r.attachedGroups other := by
  unfold deregister
  cases found : (r.markInactive issi).subscribers.lookup issi with
  | none =>
    simp only [found]
    split
    next same =>
      subst same
      rw [attachedGroups, getSubscriber, found]
      rfl
    · rfl
  | some subscriber =>
    simp only [found]
    rw [attachedGroups, getSubscriber, lookup_erase_eq]
    split <;> rfl

theorem isRegistered_deregister (r : SubscriberRegistry) (issi other : Nat) :
    (r.deregister issi).isRegistered other = (decide (other ≠ issi) && r.isRegistered other) := by
  unfold deregister
  cases found : (r.markInactive issi).subscribers.lookup issi with
  | none =>
    simp only [found]
    by_cases same : other = issi
    · subst same
      simp [isRegistered, found]
    · simp [same, isRegistered, markInactive]
  | some subscriber =>
    simp only [found, isRegistered, lookup_erase_eq]
    by_cases same : other = issi <;> simp [same, markInactive]

/-- **The union is kept when a subscriber goes.** -/
theorem Whole.deregister (whole : r.Whole) (issi : Nat) : (r.deregister issi).Whole := by
  intro gssi
  simp only [attachedGroups_deregister]
  unfold SubscriberRegistry.deregister
  cases found : (r.markInactive issi).subscribers.lookup issi with
  | none =>
    simp only [found]
    refine (whole gssi).trans (exists_congr fun other => ?_)
    split
    next same =>
      subst same
      rw [attachedGroups, getSubscriber, show r.subscribers.lookup other = none from found]
      exact Iff.rfl
    · exact Iff.rfl
  | some subscriber =>
    simp only [found, Finset.mem_filter]
    have others : hasMembers ((r.markInactive issi).subscribers.erase issi) gssi = true ↔
        ∃ other, gssi ∈ if other = issi then ∅ else r.attachedGroups other := by
      rw [hasMembers_iff]
      refine exists_congr fun other => ?_
      rw [Table.lookup_erase_eq]
      split <;> exact Iff.rfl
    rw [← others]
    have here : r.attachedGroups issi = subscriber.attachedGroups := by
      rw [attachedGroups, getSubscriber, show r.subscribers.lookup issi = some subscriber from found]
      rfl
    constructor
    · rintro ⟨inside, remains⟩
      by_cases own : gssi ∈ subscriber.attachedGroups
      · exact remains own
      · obtain ⟨other, member⟩ := (whole gssi).mp inside
        refine others.mpr ⟨other, ?_⟩
        rw [if_neg]
        · exact member
        · rintro rfl
          exact own (here ▸ member)
    · intro remains
      refine ⟨(whole gssi).mpr ?_, fun _ => remains⟩
      obtain ⟨other, member⟩ := others.mp remains
      split at member
      · exact absurd member (Finset.notMem_empty gssi)
      · exact ⟨other, member⟩

theorem attachedGroups_setSubscriber (r : SubscriberRegistry) (subscriber : Subscriber)
    (issi other : Nat) : (r.setSubscriber issi subscriber).attachedGroups other =
      if other = issi then subscriber.attachedGroups else r.attachedGroups other := by
  unfold attachedGroups getSubscriber setSubscriber
  rw [lookup_insert_eq]
  split <;> rfl

theorem isRegistered_setSubscriber (r : SubscriberRegistry) (subscriber : Subscriber)
    (issi other : Nat) : (r.setSubscriber issi subscriber).isRegistered other =
      (decide (other = issi) || r.isRegistered other) := by
  unfold isRegistered setSubscriber
  rw [lookup_insert_eq]
  by_cases same : other = issi <;> simp [same]

theorem attachedGroups_register (r : SubscriberRegistry) (issi other : Nat) :
    (r.register issi).attachedGroups other = if other = issi then ∅ else r.attachedGroups other := by
  change ((r.deregister issi).setSubscriber issi .fresh).attachedGroups other = _
  rw [attachedGroups_setSubscriber, attachedGroups_deregister]
  split <;> rfl

theorem isRegistered_register (r : SubscriberRegistry) (issi other : Nat) :
    (r.register issi).isRegistered other = (decide (other = issi) || r.isRegistered other) := by
  change ((r.deregister issi).setSubscriber issi .fresh).isRegistered other = _
  rw [isRegistered_setSubscriber, isRegistered_deregister]
  by_cases same : other = issi <;> simp [same]

theorem whole_register (whole : r.Whole) (issi : Nat) : (r.register issi).Whole := by
  intro gssi
  have before := whole.deregister issi gssi
  simp only [attachedGroups_deregister] at before
  simp only [attachedGroups_register]
  exact before

theorem attachedGroups_affiliate (r : SubscriberRegistry) (issi gssi other : Nat) :
    (r.affiliate issi gssi).attachedGroups other =
      if other = issi then insert gssi (r.attachedGroups issi) else r.attachedGroups other :=
  attachedGroups_setSubscriber r _ issi other

theorem isRegistered_affiliate (r : SubscriberRegistry) (issi gssi other : Nat) :
    (r.affiliate issi gssi).isRegistered other = (decide (other = issi) || r.isRegistered other) :=
  isRegistered_setSubscriber r _ issi other

theorem Whole.affiliate (whole : r.Whole) (issi gssi : Nat) : (r.affiliate issi gssi).Whole := by
  intro wanted
  simp only [attachedGroups_affiliate]
  change wanted ∈ insert gssi r.allAttachedGroups ↔ _
  rw [Finset.mem_insert, whole wanted]
  constructor
  · rintro (rfl | ⟨other, member⟩)
    · exact ⟨issi, by simp⟩
    · refine ⟨other, ?_⟩
      split
      next same =>
        exact Finset.mem_insert_of_mem (same ▸ member)
      · exact member
  · rintro ⟨other, member⟩
    split at member
    · rcases Finset.mem_insert.mp member with same | member
      · exact .inl same
      · exact .inr ⟨issi, member⟩
    · exact .inr ⟨other, member⟩

theorem attachedGroups_deaffiliate (r : SubscriberRegistry) (issi gssi other : Nat) :
    (r.deaffiliate issi gssi).attachedGroups other =
      if other = issi then (r.attachedGroups issi).erase gssi else r.attachedGroups other := by
  unfold deaffiliate
  rw [← attachedGroups_setSubscriber r { r.getSubscriber issi with
    attachedGroups := (r.attachedGroups issi).erase gssi }]
  dsimp only
  split <;> rfl

theorem isRegistered_deaffiliate (r : SubscriberRegistry) (issi gssi other : Nat) :
    (r.deaffiliate issi gssi).isRegistered other = (decide (other = issi) || r.isRegistered other) := by
  unfold deaffiliate
  rw [← isRegistered_setSubscriber r { r.getSubscriber issi with
    attachedGroups := (r.attachedGroups issi).erase gssi }]
  dsimp only
  split <;> rfl

theorem Whole.deaffiliate (whole : r.Whole) (issi gssi : Nat) : (r.deaffiliate issi gssi).Whole := by
  let subscriber := r.getSubscriber issi
  let s := r.setSubscriber issi { subscriber with
    attachedGroups := subscriber.attachedGroups.erase gssi }
  have remaining (wanted : Nat) : hasMembers s.subscribers wanted = true ↔
      ∃ other, wanted ∈ s.attachedGroups other := hasMembers_iff s.subscribers wanted
  have groups (other : Nat) := attachedGroups_deaffiliate r issi gssi other
  have same (other : Nat) : s.attachedGroups other = (r.deaffiliate issi gssi).attachedGroups other := by
    rw [groups, attachedGroups_setSubscriber]
    rfl
  intro wanted
  have kept (different : wanted ≠ gssi) :
      wanted ∈ r.allAttachedGroups ↔ ∃ other, wanted ∈ (r.deaffiliate issi gssi).attachedGroups other := by
    refine (whole wanted).trans (exists_congr fun other => ?_)
    rw [groups]
    split
    next here =>
      rw [here, Finset.mem_erase, and_iff_right different]
    · exact Iff.rfl
  by_cases last : gssi ∈ subscriber.attachedGroups ∧ hasMembers s.subscribers gssi = false
  · have all : (r.deaffiliate issi gssi).allAttachedGroups = r.allAttachedGroups.erase gssi := by
      rw [SubscriberRegistry.deaffiliate, if_pos last]
      rfl
    rw [all, Finset.mem_erase]
    by_cases gone : wanted = gssi
    · refine iff_of_false (fun both => both.1 gone) fun ⟨other, member⟩ => ?_
      rw [← same, gone] at member
      exact Bool.false_ne_true (last.2.symm.trans ((remaining gssi).mpr ⟨other, member⟩))
    · rw [and_iff_right gone, kept gone]
  · have all : (r.deaffiliate issi gssi).allAttachedGroups = r.allAttachedGroups := by
      rw [SubscriberRegistry.deaffiliate, if_neg last]
      rfl
    rw [all]
    by_cases gone : wanted = gssi
    · subst gone
      by_cases own : wanted ∈ subscriber.attachedGroups
      · have others : hasMembers s.subscribers wanted = true := by
          by_contra none
          exact last ⟨own, by simpa using none⟩
        refine iff_of_true ((whole wanted).mpr ⟨issi, own⟩) ?_
        obtain ⟨other, member⟩ := (remaining wanted).mp others
        exact ⟨other, (same other) ▸ member⟩
      · refine (whole wanted).trans (exists_congr fun other => ?_)
        rw [groups]
        split
        next here =>
          rw [here, show (r.attachedGroups issi).erase wanted = r.attachedGroups issi from
            Finset.erase_eq_of_notMem own]
        · exact Iff.rfl
    · exact kept gone

theorem isRegistered_modify (r : SubscriberRegistry) (issi : Nat) (change : Subscriber → Subscriber)
    (other : Nat) : ({ r with subscribers := r.subscribers.modify issi change }
      : SubscriberRegistry).isRegistered other = r.isRegistered other := by
  unfold isRegistered
  rw [lookup_modify]
  split
  next same =>
    rw [same, isSome_map]
  · rfl

theorem attachedGroups_modify (r : SubscriberRegistry) (issi : Nat)
    {change : Subscriber → Subscriber}
    (keeps : ∀ subscriber, (change subscriber).attachedGroups = subscriber.attachedGroups)
    (other : Nat) : ({ r with subscribers := r.subscribers.modify issi change }
      : SubscriberRegistry).attachedGroups other = r.attachedGroups other := by
  unfold attachedGroups getSubscriber
  rw [lookup_modify]
  split
  next same =>
    rw [same]
    cases r.subscribers.lookup issi with
    | none => rfl
    | some subscriber => exact keeps subscriber
  · rfl

end SubscriberRegistry

/-! ### The copy of call control -/

namespace CmceSubscribers

variable {c : CmceSubscribers} {view : Nat → Nat → Option Nat} {issi : Nat}

/-- The copy of call control is a given one: the groups, and their classes. -/
structure Follows (c : CmceSubscribers) (view : Nat → Nat → Option Nat) : Prop where
  groups : ∀ issi gssi, gssi ∈ c.groups issi ↔ (view issi gssi).isSome
  classes : ∀ issi gssi, c.subscriberGroupCou issi gssi = view issi gssi

theorem follows_new : CmceSubscribers.new.Follows fun _ _ => none where
  groups _ _ := by simp [CmceSubscribers.groups, CmceSubscribers.new]
  classes _ _ := rfl

/-- A change at one terminal. -/
theorem Follows.update {after : CmceSubscribers} (follows : c.Follows view) (issi : Nat)
    {here : Nat → Option Nat}
    (groupsElse : ∀ other, other ≠ issi → after.groups other = c.groups other)
    (classesElse : ∀ other, other ≠ issi →
      after.subscriberGroupCou other = c.subscriberGroupCou other)
    (groups : ∀ gssi, gssi ∈ after.groups issi ↔ (here gssi).isSome)
    (classes : ∀ gssi, after.subscriberGroupCou issi gssi = here gssi) :
    after.Follows (Function.update view issi here) where
  groups other gssi := by
    by_cases same : other = issi
    · rw [same, update_self, groups]
    · rw [update_of_ne same, groupsElse other same, follows.groups]
  classes other gssi := by
    by_cases same : other = issi
    · rw [same, update_self, classes]
    · rw [update_of_ne same, classesElse other same, follows.classes]

theorem groups_update (c : CmceSubscribers) (issi other : Nat) (value : Option (Finset Nat))
    (cou : Nat → Nat → Option Nat) (scanning : Nat → Option Bool) :
    (CmceSubscribers.mk (Function.update c.subscriberGroups issi value) cou scanning).groups other =
      if other = issi then value.getD ∅ else c.groups other := by
  unfold CmceSubscribers.groups
  dsimp only
  rw [update_apply]
  split <;> rfl

/-- **Added groups with their classes**; the last class of a group counts. -/
theorem Follows.affiliate (follows : c.Follows view) (issi : Nat) (pairs : List (Nat × Nat)) :
    (c.affiliate issi (pairs.map (·.1)) (pairs.map (·.2))).Follows (Function.update view issi
        (pairs.foldl (fun here pair => Function.update here pair.1 (some pair.2)) (view issi))) := by
  induction pairs generalizing c view with
  | nil =>
    refine follows.update issi (fun other different => ?_) (fun _ _ => rfl) (fun gssi => ?_)
      fun gssi => follows.classes issi gssi
    · exact (groups_update c issi other _ _ _).trans (if_neg different)
    · refine Iff.trans (iff_of_eq (congrArg (gssi ∈ ·) ?_)) (follows.groups issi gssi)
      exact (groups_update c issi issi _ _ _).trans (if_pos rfl)
  | cons pair rest ih =>
    have step := @Follows.update _ _
      ⟨Function.update c.subscriberGroups issi (some (insert pair.1 (c.groups issi))),
        Function.update c.subscriberGroupCou issi
          (Function.update (c.subscriberGroupCou issi) pair.1 (some pair.2)),
        c.subscriberScanningEnabled⟩
      follows issi (Function.update (view issi) pair.1 (some pair.2))
      (fun other different => (groups_update c issi other _ _ _).trans (if_neg different))
      (fun other different => update_of_ne different _ _)
      (fun gssi => by
        rw [groups_update, if_pos rfl, getD_some, Finset.mem_insert, follows.groups]
        by_cases same : gssi = pair.1 <;> simp [same])
      (fun gssi => by
        dsimp only
        rw [update_self, update_apply, update_apply, follows.classes])
    have after := ih step
    rw [update_self, update_idem] at after
    exact after

theorem foldl_update_map (groups : List Nat) (classes : Nat → Nat) (view : Nat → Option Nat)
    (gssi : Nat) :
    ((groups.map fun gssi => (gssi, classes gssi)).foldl
      (fun (here : Nat → Option Nat) pair => Function.update here pair.1 (some pair.2)) view) gssi =
        if gssi ∈ groups then some (classes gssi) else view gssi := by
  induction groups generalizing view with
  | nil => simp
  | cons first rest ih =>
    rw [map_cons, foldl_cons, ih]
    by_cases same : gssi = first
    · simp [same]
    · simp [same]

variable (follows : c.Follows view)

include follows

/-- **Removed groups.** -/
theorem Follows.deaffiliate (issi : Nat) (removed : List Nat) :
    (c.deaffiliate issi removed).Follows (Function.update view issi fun gssi =>
      if gssi ∈ removed then none else view issi gssi) := by
  cases known : c.subscriberGroups issi with
  | none =>
    have nothing (gssi : Nat) : view issi gssi = none := by
      have member := follows.groups issi gssi
      simpa [CmceSubscribers.groups, known] using member
    refine follows.update issi (fun other _ => ?_) (fun other _ => ?_) (fun gssi => ?_) fun gssi => ?_
    · simp only [CmceSubscribers.deaffiliate, known]
    · simp only [CmceSubscribers.deaffiliate, known]
    · simp only [CmceSubscribers.deaffiliate, known, follows.groups, nothing, ite_self]
    · simp only [CmceSubscribers.deaffiliate, known, follows.classes, nothing, ite_self]
  | some groups =>
    refine follows.update issi (fun other different => ?_) (fun other different => ?_)
      (fun gssi => ?_) fun gssi => ?_
    · simp only [CmceSubscribers.deaffiliate, known, groups_update, if_neg different]
    · simp only [CmceSubscribers.deaffiliate, known, update_of_ne different]
    · have member := follows.groups issi gssi
      simp only [CmceSubscribers.groups, known, getD_some] at member
      simp only [CmceSubscribers.deaffiliate, known, groups_update, if_pos, getD_some,
        Finset.mem_filter, member]
      by_cases gone : gssi ∈ removed <;> simp [gone]
    · simp only [CmceSubscribers.deaffiliate, known, update_self, follows.classes]

theorem Follows.register (issi : Nat) (groups classes : List Nat) (scanning : Option Bool) :
    (c.handleSubscriberUpdate ⟨issi, groups, .register, classes, scanning⟩).Follows view where
  groups other gssi := by
    rw [← follows.groups]
    refine iff_of_eq (congrArg (gssi ∈ ·) ((groups_update c issi other _ _ _).trans ?_))
    split
    next same =>
      rw [same]
      rfl
    · rfl
  classes := follows.classes

theorem Follows.deregister (issi : Nat) (groups classes : List Nat) (scanning : Option Bool) :
    (c.handleSubscriberUpdate ⟨issi, groups, .deregister, classes, scanning⟩).Follows
      (Function.update view issi fun _ => none) := by
  refine follows.update issi (fun other different => ?_) (fun other different => ?_)
    (fun gssi => ?_) fun gssi => ?_
  · exact (groups_update c issi other _ _ _).trans (if_neg different)
  · exact update_of_ne different _ _
  · have none := (groups_update c issi issi none
      (Function.update c.subscriberGroupCou issi fun _ => none)
      (Function.update c.subscriberScanningEnabled issi none)).trans (if_pos rfl)
    refine iff_of_false (fun inside => ?_) Bool.false_ne_true
    exact Finset.notMem_empty gssi (none.subset inside)
  · exact congrFun (update_self issi _ c.subscriberGroupCou) gssi

theorem Follows.scanning (issi : Nat) (groups classes : List Nat) (scanning : Option Bool) :
    (c.handleSubscriberUpdate ⟨issi, groups, .scanningState, classes, scanning⟩).Follows view := by
  cases scanning with
  | none => exact follows
  | some _ => exact ⟨follows.groups, follows.classes⟩

end CmceSubscribers

/-! ### All copies -/

namespace Affiliations

variable {m : Affiliations} {view : Nat → Nat → Option Nat} {issi : Nat}

def classOf (m : Affiliations) (issi gssi : Nat) : Option Nat :=
  m.clientMgr.clientGroupClassOfUsage issi gssi

/-- The client manager and the registry say the same. -/
structure Local (m : Affiliations) : Prop where
  known : ∀ issi, m.subscribers.isRegistered issi = m.clientMgr.clientIsKnown issi
  registry : ∀ issi gssi, gssi ∈ m.subscribers.attachedGroups issi ↔ (m.classOf issi gssi).isSome
  whole : m.subscribers.Whole

/-- **All copies of the memberships agree.** -/
structure Agrees (m : Affiliations) : Prop where
  here : m.Local
  there : m.cmce.Follows m.classOf

/-! ### Messages -/

theorem cmce_push (m : Affiliations) (update : MmSubscriberUpdate) :
    (m.push update).cmce = m.cmce.handleSubscriberUpdate update :=
  foldl_append

@[simp] theorem clientMgr_emitGroups (m : Affiliations) (issi : Nat) (groups : List Nat)
    (action : BrewSubscriberAction) : (m.emitGroups issi groups action).clientMgr = m.clientMgr := by
  unfold emitGroups
  split <;> rfl

@[simp] theorem subscribers_emitGroups (m : Affiliations) (issi : Nat) (groups : List Nat)
    (action : BrewSubscriberAction) :
    (m.emitGroups issi groups action).subscribers = m.subscribers := by
  unfold emitGroups
  split <;> rfl

theorem Local.congr {other : Affiliations} (here : m.Local) (clients : other.clientMgr = m.clientMgr)
    (subscribers : other.subscribers = m.subscribers) : other.Local := by
  obtain ⟨known, registry, whole⟩ := here
  refine ⟨?_, ?_, ?_⟩
  · rw [clients, subscribers]
    exact known
  · unfold classOf
    rw [clients, subscribers]
    exact registry
  · rw [subscribers]
    exact whole

theorem Local.emitGroups (here : m.Local) (issi : Nat) (groups : List Nat)
    (action : BrewSubscriberAction) : (m.emitGroups issi groups action).Local :=
  here.congr (clientMgr_emitGroups ..) (subscribers_emitGroups ..)

theorem classOf_emitGroups (m : Affiliations) (issi : Nat) (groups : List Nat)
    (action : BrewSubscriberAction) : (m.emitGroups issi groups action).classOf = m.classOf := by
  unfold classOf
  rw [clientMgr_emitGroups]

theorem follows_emitAffiliate (follows : m.cmce.Follows view) (issi : Nat) (groups : List Nat) :
    (m.emitGroups issi groups .affiliate).cmce.Follows (Function.update view issi fun gssi =>
      if gssi ∈ groups then some ((m.classOf issi gssi).getD 0) else view issi gssi) := by
  unfold emitGroups
  split
  next empty =>
    rw [List.isEmpty_iff] at empty
    subst empty
    simpa using follows
  · rw [emitSubscriberUpdate, cmce_push]
    have told := follows.affiliate issi (groups.map fun gssi => (gssi, (m.classOf issi gssi).getD 0))
    rw [List.map_map, List.map_map, funext (CmceSubscribers.foldl_update_map groups
      (fun gssi => (m.classOf issi gssi).getD 0) (view issi))] at told
    rw [show (groups.map ((·.1) ∘ fun gssi => (gssi, (m.classOf issi gssi).getD 0))) = groups from
      map_id groups] at told
    exact told

theorem follows_emitDeaffiliate (follows : m.cmce.Follows view) (issi : Nat) (groups : List Nat) :
    (m.emitGroups issi groups .deaffiliate).cmce.Follows (Function.update view issi fun gssi =>
      if gssi ∈ groups then none else view issi gssi) := by
  unfold emitGroups
  split
  next empty =>
    rw [List.isEmpty_iff] at empty
    subst empty
    simpa using follows
  · rw [emitSubscriberUpdate, cmce_push]
    exact follows.deaffiliate issi groups

/-! ### Changes of a client -/

theorem classOf_insert (m : Affiliations) (issi other gssi : Nat) (client : MmClientProperties)
    (subscribers : SubscriberRegistry) (updates : List MmSubscriberUpdate) :
    (Affiliations.mk (m.clientMgr.insert issi client) subscribers updates).classOf other gssi =
      if other = issi then client.groups.lookup gssi else m.classOf other gssi := by
  unfold classOf clientGroupClassOfUsage clientGroups
  rw [lookup_insert_eq]
  split <;> rfl

theorem clientIsKnown_insert (clients : MmClientMgr) (issi other : Nat)
    (client : MmClientProperties) : clientIsKnown (clients.insert issi client) other =
      (decide (other = issi) || clients.clientIsKnown other) := by
  unfold clientIsKnown
  rw [lookup_insert_eq]
  by_cases same : other = issi <;> simp [same]

theorem classOf_eq (m : Affiliations) (issi gssi : Nat) {client : MmClientProperties}
    (found : m.clientMgr.lookup issi = some client) :
    m.classOf issi gssi = client.groups.lookup gssi := by
  simp [classOf, clientGroupClassOfUsage, clientGroups, found]

/-- A client that is known is changed, and the registry is given what follows from it. -/
theorem Local.change (here : m.Local) {client : MmClientProperties}
    (known : m.clientMgr.clientIsKnown issi = true) {subscribers : SubscriberRegistry}
    (registered : ∀ other, subscribers.isRegistered other = m.subscribers.isRegistered other)
    (others : ∀ other, other ≠ issi →
      subscribers.attachedGroups other = m.subscribers.attachedGroups other)
    (own : ∀ gssi, gssi ∈ subscribers.attachedGroups issi ↔ (client.groups.lookup gssi).isSome)
    (whole : subscribers.Whole) (updates : List MmSubscriberUpdate) :
    (Affiliations.mk (m.clientMgr.insert issi client) subscribers updates).Local where
  known other := by
    rw [registered, here.known, clientIsKnown_insert]
    by_cases same : other = issi <;> simp [same, known]
  registry other gssi := by
    rw [classOf_insert]
    split
    next same =>
      rw [same]
      exact own gssi
    next different =>
      rw [others other different]
      exact here.registry other gssi
  whole := whole

end Affiliations

/-! ### Lists of operations -/

def AttachmentOperation.change (operation : AttachmentOperation) : Change Nat Nat :=
  ⟨operation.gssi, if operation.detach then none else some operation.classOfUsage⟩

/-- Whether a group of a terminal is left and joined again in a list of operations. -/
def returns (everything : Bool) (present : Nat → Bool) (operations : List AttachmentOperation) :
    Bool :=
  operations.any fun operation => comesBack everything operation.gssi (present operation.gssi)
    false (operations.map (·.change))

theorem comesBack_of_absent {everything : Bool} {gssi : Nat} (present left : Bool)
    (changes : List (Change Nat Nat)) (absent : ∀ change ∈ changes, change.key ≠ gssi) :
    comesBack everything gssi present left changes = (present && left) := by
  induction changes generalizing left with
  | nil => rfl
  | cons change rest ih =>
    rw [comesBack, if_neg (absent change mem_cons_self)]
    exact ih left fun other member => absent other (mem_cons_of_mem change member)

/-- **No group comes back** in a list that is not refused. -/
theorem comesBack_of_returns {everything : Bool} {present : Nat → Bool}
    {operations : List AttachmentOperation} (stays : returns everything present operations = false)
    (gssi : Nat) :
    comesBack everything gssi (present gssi) false (operations.map (·.change)) = false := by
  by_cases mentioned : ∃ operation ∈ operations, operation.gssi = gssi
  · obtain ⟨operation, member, rfl⟩ := mentioned
    unfold returns at stays
    rw [List.any_eq_false] at stays
    simpa using stays operation member
  · rw [comesBack_of_absent, Bool.and_false]
    intro change member same
    obtain ⟨operation, inside, rfl⟩ := mem_map.mp member
    exact mentioned ⟨operation, inside, same⟩

namespace Amended

open Affiliations

variable {start : Affiliations} {issi : Nat} {everything : Bool} {a : Amended}
  {changes : List (Change Nat Nat)}

/-- What a list of operations has done is what its changes do, and nobody else's groups changed. -/
structure Tracks (start : Affiliations) (issi : Nat) (everything : Bool)
    (changes : List (Change Nat Nat)) (a : Amended) : Prop where
  here : a.members.Local
  updates : a.members.updates = start.updates
  others : ∀ other, other ≠ issi → a.members.classOf other = start.classOf other
  known : ∀ other,
    a.members.clientMgr.clientIsKnown other = start.clientMgr.clientIsKnown other
  leader : (⟨a.members.classOf issi, a.affiliated, a.deaffiliated⟩ : Leader Nat Nat) =
    (Leader.start (start.classOf issi)).run everything changes

theorem tracks_start (here : start.Local) (issi : Nat) (everything : Bool) :
    Tracks start issi everything [] ⟨start, [], []⟩ :=
  ⟨here, rfl, fun _ _ => rfl, fun _ => rfl, rfl⟩

def amendGroups (groups : Table Nat) (operation : AttachmentOperation) : Table Nat :=
  if operation.detach then groups.erase operation.gssi
  else groups.insert operation.gssi operation.classOfUsage

theorem lookup_amendGroups (groups : Table Nat) (operation : AttachmentOperation) (gssi : Nat) :
    (amendGroups groups operation).lookup gssi =
      if gssi = operation.gssi then operation.change.value else groups.lookup gssi := by
  unfold amendGroups AttachmentOperation.change
  cases operation.detach
  · rw [if_neg Bool.false_ne_true, Table.lookup_insert_eq]
    rfl
  · rw [if_pos rfl, lookup_erase_eq]
    rfl

def amendRegistry (r : SubscriberRegistry) (issi : Nat) (operation : AttachmentOperation) :
    SubscriberRegistry :=
  if operation.detach then r.deaffiliate issi operation.gssi else r.affiliate issi operation.gssi

theorem attachedGroups_amendRegistry (r : SubscriberRegistry) (issi : Nat)
    (operation : AttachmentOperation) (other gssi : Nat) :
    gssi ∈ (amendRegistry r issi operation).attachedGroups other ↔
      if other = issi ∧ gssi = operation.gssi then operation.change.value.isSome = true
      else gssi ∈ r.attachedGroups other := by
  unfold amendRegistry AttachmentOperation.change
  cases operation.detach
  · rw [if_neg Bool.false_ne_true, SubscriberRegistry.attachedGroups_affiliate]
    by_cases same : other = issi <;> by_cases mentioned : gssi = operation.gssi <;>
      simp [same, mentioned]
  · rw [if_pos rfl, attachedGroups_deaffiliate]
    by_cases same : other = issi <;> by_cases mentioned : gssi = operation.gssi <;>
      simp [same, mentioned]

theorem isRegistered_amendRegistry (r : SubscriberRegistry) (issi : Nat)
    (operation : AttachmentOperation) (other : Nat) :
    (amendRegistry r issi operation).isRegistered other =
      (decide (other = issi) || r.isRegistered other) := by
  unfold amendRegistry
  split
  · exact isRegistered_deaffiliate ..
  · exact isRegistered_affiliate ..

theorem whole_amendRegistry {r : SubscriberRegistry} (whole : r.Whole) (issi : Nat)
    (operation : AttachmentOperation) : (amendRegistry r issi operation).Whole := by
  unfold amendRegistry
  split
  · exact whole.deaffiliate issi _
  · exact whole.affiliate issi _

/-- What an operation of a known client does. -/
theorem attachDetach_eq (a : Amended) (everything : Bool) (operation : AttachmentOperation)
    {client : MmClientProperties} (found : a.members.clientMgr.lookup issi = some client) :
    a.attachDetach issi everything operation = some
      (let noted := everything ||
        decide (client.groups.lookup operation.gssi ≠ operation.change.value)
      { members :=
          ⟨a.members.clientMgr.insert issi
              { client with groups := amendGroups client.groups operation },
            if noted then amendRegistry a.members.subscribers issi operation
            else a.members.subscribers,
            a.members.updates⟩
        affiliated := if noted && operation.change.value.isSome
          then a.affiliated ++ [operation.gssi] else a.affiliated
        deaffiliated := if noted && operation.change.value.isNone
          then a.deaffiliated ++ [operation.gssi] else a.deaffiliated }) := by
  unfold attachDetach MmClientMgr.clientGroupAttachWithClassOfUsage amendGroups amendRegistry
    AttachmentOperation.change
  rw [found, map_some, map_some]
  cases operation.detach
  · simp only [Bool.not_false, if_true, Bool.false_eq_true, if_false, isSome_some,
      isNone_some, Bool.and_true, Bool.and_false]
    split <;> rfl
  · simp only [Bool.not_true, if_true, Bool.false_eq_true, if_false, isSome_none,
      isNone_none, Bool.and_true, Bool.and_false, ← isSome_iff_ne_none,
      Bool.decide_eq_true]
    split <;> rfl

/-- **One operation** of a known client. -/
theorem Tracks.attachDetach (tracks : Tracks start issi everything changes a)
    (operation : AttachmentOperation) {next : Amended}
    (done : a.attachDetach issi everything operation = some next) :
    Tracks start issi everything (changes ++ [operation.change]) next := by
  cases found : a.members.clientMgr.lookup issi with
  | none => simp [Amended.attachDetach, MmClientMgr.clientGroupAttachWithClassOfUsage, found] at done
  | some client =>
    have known : a.members.clientMgr.clientIsKnown issi = true := by
      rw [MmClientMgr.clientIsKnown, found]
      rfl
    have content (gssi : Nat) := classOf_eq a.members issi gssi found
    rw [attachDetach_eq a everything operation found, some_inj] at done
    subst done
    refine ⟨?_, tracks.updates, fun other different => ?_, fun other => ?_, ?_⟩
    · refine tracks.here.change known (fun other => ?_) (fun other different => ?_)
        (fun gssi => ?_) ?_ _
      · split
        · rw [isRegistered_amendRegistry, tracks.here.known]
          by_cases same : other = issi <;> simp [same, known]
        · rfl
      · split
        · ext gssi
          rw [attachedGroups_amendRegistry, if_neg fun both => different both.1]
        · rfl
      · have before := tracks.here.registry issi gssi
        rw [content] at before
        rw [lookup_amendGroups]
        split
        · rw [attachedGroups_amendRegistry]
          by_cases mentioned : gssi = operation.gssi
          · rw [if_pos ⟨rfl, mentioned⟩, if_pos mentioned]
          · rw [if_neg fun both => mentioned both.2, if_neg mentioned, before]
        next unnoted =>
          split
          next mentioned =>
            rw [Bool.or_eq_true, not_or, decide_eq_true_eq, not_not] at unnoted
            rw [before, mentioned, unnoted.2]
          · exact before
      · split
        · exact whole_amendRegistry tracks.here.whole issi operation
        · exact tracks.here.whole
    · rw [← tracks.others other different]
      funext gssi
      rw [classOf_insert, if_neg different]
    · rw [clientIsKnown_insert, ← tracks.known]
      by_cases same : other = issi <;> simp [same, known]
    · have run : (Leader.start (start.classOf issi)).run everything
          (changes ++ [operation.change]) = Leader.amend everything
            ⟨a.members.classOf issi, a.affiliated, a.deaffiliated⟩ operation.change := by
        rw [tracks.leader, Leader.run, foldl_append]
        rfl
      have here : a.members.classOf issi operation.change.key =
          client.groups.lookup operation.gssi := content operation.gssi
      rw [run, Leader.amend]
      simp only [here]
      congr 1
      funext gssi
      rw [classOf_insert, if_pos rfl, lookup_amendGroups, update_apply, content]
      rfl

theorem Tracks.attachDetach_isSome (tracks : Tracks start issi everything changes a)
    (operation : AttachmentOperation) :
    (a.attachDetach issi everything operation).isSome = start.clientMgr.clientIsKnown issi := by
  rw [← tracks.known]
  simp [Amended.attachDetach, clientGroupAttachWithClassOfUsage, clientIsKnown]

/-- **What was attached and what was detached is told**, and if no group came back that is all. -/
theorem Tracks.emit (agrees : start.Agrees) (tracks : Tracks start issi everything changes a)
    (stays : ∀ gssi,
      comesBack everything gssi (start.classOf issi gssi).isSome false changes = false) :
    (a.emit issi).Agrees := by
  have leader := tracks.leader
  have caught := (catchUp_eq_iff (start.classOf issi) changes).mpr stays
  rw [← leader] at caught
  have follows : a.members.cmce.Follows start.classOf := by
    unfold Affiliations.cmce
    rw [tracks.updates]
    exact agrees.there
  have told := follows_emitDeaffiliate
    (follows_emitAffiliate follows issi a.affiliated) issi a.deaffiliated
  rw [update_idem, update_self] at told
  refine ⟨(tracks.here.emitGroups ..).emitGroups .., ?_⟩
  change (Affiliations.emitGroups _ _ _ _).cmce.Follows (Affiliations.emitGroups _ _ _ _).classOf
  rw [classOf_emitGroups, classOf_emitGroups]
  convert told using 1
  funext other gssi
  by_cases same : other = issi
  · subst same
    rw [update_self]
    refine (congrFun caught gssi).symm.trans ?_
    unfold catchUp
    dsimp only
    split
    · rfl
    next kept =>
      split
      next added =>
        have present := @run_added_isSome _ _ _ _ everything (.start (start.classOf other))
          changes gssi (fun none => nomatch none)
        rw [← leader] at present
        obtain ⟨classOfUsage, is⟩ := isSome_iff_exists.mp (present added kept)
        dsimp only at is
        rw [is]
        rfl
      · rfl
  · rw [update_of_ne same, tracks.others other same]

end Amended

end Bluestation
