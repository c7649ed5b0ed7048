/-
**Terminals that sleep, over whole runs.**

A message that is held back waits while time passes and anything else happens. In the timeslot before
its slot it is handed to the scheduler, which builds the block of that slot next.

* `Waits` — a held-back message, as it was when it was held back.
* `waits_of_runs` — **it stays until its time has come.**
* `reception_slot_iff` — **it is sent in the earliest slot that the terminal hears if and only if that
  slot is not in a frame 18**, in which the scheduler sends no resources.
-/

import Bluestation.Umac.EnergyEconomy

namespace Bluestation

open Bits Machines TdmaTime List Option Function DownlinkScheduler

variable {Key : Type}

namespace EconomyBs

/-! ### The release -/

def newReporter (scheduler : DownlinkScheduler Key) : DownlinkScheduler Key :=
  { scheduler with
    txStates := Function.update scheduler.txStates (.ofReplay scheduler.nextReplay) .pending
    nextReplay := scheduler.nextReplay + 1 }

/-- Try a replay, unless a copy of it is under way. -/
def retryReplay (airTime : TdmaTime) (scheduler : DownlinkScheduler Key) (resource : DeferredMcch Key)
    (retry : EeReplayRetry) : DownlinkScheduler Key × Option (DeferredMcch Key) :=
  if retry.inFlight.isNone ∧ 0 ≤ resource.due.age airTime then
    if retry.attemptsLeft = 0 ∨ ∃ cutoff ∈ retry.cutoff, cutoff.diff resource.due ≤ 0 then
      (scheduler, none)
    else
      ((newReporter scheduler).dlEnqueueEeCommonTma resource.due.t resource.pdu resource.sdu
          (.ofReplay scheduler.nextReplay) resource.aieRequest,
        some { resource with eeRetry := some { retry with
          inFlight := some scheduler.nextReplay
          attemptsLeft := retry.attemptsLeft - 1 } })
  else (scheduler, some { resource with eeRetry := some retry })

/-- A replay under way is over if it was sent; if it missed its frame, it is withdrawn. -/
def releaseReplay (airTime : TdmaTime) (scheduler : DownlinkScheduler Key)
    (resource : DeferredMcch Key) (retry : EeReplayRetry) :
    DownlinkScheduler Key × Option (DeferredMcch Key) :=
  match retry.inFlight with
  | some reporter =>
    if TxReporter.isTransmitted ⟨false, scheduler.txStates (.ofReplay reporter)⟩ then
      (scheduler, none)
    else if 0 < resource.due.age airTime then
      retryReplay airTime (scheduler.discardPending [.ofReplay reporter])
        { resource with due := resource.due.addTimeslots retry.periodSlots }
        { retry with inFlight := none }
    else retryReplay airTime scheduler resource retry
  | none => retryReplay airTime scheduler resource retry

/-- One message, with what is kept of it. -/
def releaseOne (airTime : TdmaTime) (scheduler : DownlinkScheduler Key)
    (resource : DeferredMcch Key) : DownlinkScheduler Key × Option (DeferredMcch Key) :=
  if resource.isCancelled scheduler.txStates then (scheduler, none)
  else
    match resource.eeRetry with
    | some retry => releaseReplay airTime scheduler resource retry
    | none =>
      if 0 ≤ resource.due.age airTime then
        (scheduler.dlEnqueueCommonTma resource.due.t resource.pdu resource.sdu
          (resource.txReporter.map .ofLink) resource.aieRequest, none)
      else (scheduler, some resource)

/-- One message after the other. -/
def releaseAll (airTime : TdmaTime) (scheduler : DownlinkScheduler Key) :
    List (DeferredMcch Key) → DownlinkScheduler Key × List (DeferredMcch Key)
  | [] => (scheduler, [])
  | resource :: rest =>
    let (released, kept) := releaseOne airTime scheduler resource
    let (last, retained) := releaseAll airTime released rest
    (last, kept.toList ++ retained)

/-- What is released when the timeslot begins, for the slot ahead. -/
def releaseDeferred (bs : EconomyBs Key) (ts : TdmaTime) : EconomyBs Key :=
  let (scheduler, retained) := releaseAll (ts.addTimeslots MACSCHED_TX_AHEAD) bs.channelScheduler
    bs.deferredMcch
  { bs with channelScheduler := scheduler, deferredMcch := retained }

end EconomyBs

/-! ### The machine -/

structure EconomyState (Key : Type) where
  bs : EconomyBs Key
  now : Nat

inductive EconomyEvent (Key : Type) where
  | request (request : McchRequest Key)
  /-- Everything else changes. -/
  | surroundings (other : EconomyBs Key)
  /-- The next timeslot begins. -/
  | tick

namespace EconomyState

/-- What others change: all but the messages held back and the names of their copies. -/
def surround (bs other : EconomyBs Key) : EconomyBs Key :=
  { other with
    deferredMcch := bs.deferredMcch
    channelScheduler := { other.channelScheduler with nextReplay := bs.channelScheduler.nextReplay } }

def step (state : EconomyState Key) : EconomyEvent Key → Option (EconomyState Key)
  | .request request =>
    some { state with bs := state.bs.rxUlTmaUnitdataReq (fromInt state.now) request }
  | .surroundings other => some { state with bs := surround state.bs other }
  | .tick => some ⟨state.bs.releaseDeferred (fromInt (state.now + 1 : Nat)), state.now + 1⟩

end EconomyState

def economyMachine (Key : Type) : Machine (EconomyState Key) (EconomyEvent Key) where
  start state := state.bs.deferredMcch = []
  step := EconomyState.step

namespace EconomyState

def Keeps (resource : DeferredMcch Key) (state : EconomyState Key) (event : EconomyEvent Key) : Prop :=
  event = .tick → resource.isCancelled state.bs.channelScheduler.txStates = false

/-- The element is the message, and the scheduler sends it in the slot if nothing else waits there. -/
structure Sendable (scheduler : DownlinkScheduler Key) (resource : DeferredMcch Key) (due : TdmaTime)
    (elem : DlSchedElem Key) : Prop where
  message : ∃ reporter, elem = .resource resource.pdu resource.sdu reporter resource.aieRequest none
  queued : elem ∈ scheduler.dltxQueues (due.t - 1)
  taken : ({ scheduler with
    dltxQueues := Function.update scheduler.dltxQueues (due.t - 1) [elem]
    }.dlTakePrioritizedSchedItem due).1 = some elem

/-- **The message is sent in its slot**: until the timeslot before, it is held back; then, if nobody has
withdrawn it and the timeslot is a common control channel, it is there for the block of that slot. -/
structure SentIn (state : EconomyState Key) (resource : DeferredMcch Key) (slot : Nat) : Prop where
  held : ∀ later, Runs (economyMachine Key) (Keeps resource) state later → later.now + 1 < slot →
    resource ∈ later.bs.deferredMcch
  handed : ∀ before after, Runs (economyMachine Key) (Keeps resource) state before →
    before.now + 2 = slot → Keeps resource before .tick →
    before.bs.channelScheduler.isCommonControl (fromInt slot).t = true →
    before.step .tick = some after →
    ∃ elem, Sendable after.bs.channelScheduler resource (fromInt slot) elem

end EconomyState

/-! ### One message -/

/-- **A message as it was held back**: no copy is under way, and it is not cut off. -/
structure DeferredMcch.Waits (resource : DeferredMcch Key) : Prop where
  idle : ∀ retry, resource.eeRetry = some retry → retry.inFlight = none
  tries : ∀ retry, resource.eeRetry = some retry → 0 < retry.attemptsLeft
  inTime : ∀ retry, resource.eeRetry = some retry → ∀ cutoff ∈ retry.cutoff,
    0 < cutoff.diff resource.due

def InFlightNamed (scheduler : DownlinkScheduler Key) (resource : DeferredMcch Key) : Prop :=
  ∀ retry, resource.eeRetry = some retry → ∀ name ∈ retry.inFlight, name < scheduler.nextReplay

/-- What a release leaves of the scheduler: queues grow, and only copies that were under way are
withdrawn. -/
structure Grows (underWay : Nat → Prop) (before after : DownlinkScheduler Key) : Prop where
  queued : ∀ index, ∀ elem ∈ before.dltxQueues index, elem ∈ after.dltxQueues index
  common : after.commonScchCount = before.commonScchCount
  names : before.nextReplay ≤ after.nextReplay
  ofLink : ∀ index, after.txStates (.ofLink index) = before.txStates (.ofLink index)
  ofReplay : ∀ index, index < before.nextReplay → ¬ underWay index →
    after.txStates (.ofReplay index) = before.txStates (.ofReplay index)

namespace Grows

variable {underWay : Nat → Prop} {first second third : DownlinkScheduler Key}

theorem refl : Grows underWay first first :=
  ⟨fun _ _ => id, rfl, le_rfl, fun _ => rfl, fun _ _ _ => rfl⟩

theorem trans (early : Grows underWay first second) (late : Grows underWay second third) :
    Grows underWay first third := by
  refine ⟨fun index elem member => late.queued index elem (early.queued index elem member),
    late.common.trans early.common, early.names.trans late.names,
    fun index => (late.ofLink index).trans (early.ofLink index), fun index named idle => ?_⟩
  exact (late.ofReplay index (named.trans_le early.names) idle).trans (early.ofReplay index named idle)

theorem weaken {more : Nat → Prop} (grows : Grows underWay first second)
    (implies : ∀ index, underWay index → more index) : Grows more first second :=
  ⟨grows.queued, grows.common, grows.names, grows.ofLink, fun index named idle =>
    grows.ofReplay index named fun under => idle (implies index under)⟩

theorem isCancelled (grows : Grows underWay first second) (resource : DeferredMcch Key) :
    resource.isCancelled second.txStates = resource.isCancelled first.txStates := by
  unfold DeferredMcch.isCancelled
  simp only [grows.ofLink]

end Grows

namespace EconomyBs

variable {airTime : TdmaTime} {scheduler : DownlinkScheduler Key} {resource : DeferredMcch Key}
  {retry : EeReplayRetry}

theorem mem_update_of_mem {queues : Nat → List (DlSchedElem Key)} {slot : Nat}
    {longer : List (DlSchedElem Key)} (grows : ∀ elem ∈ queues slot, elem ∈ longer) (index : Nat) :
    ∀ elem ∈ queues index, elem ∈ Function.update queues slot longer index := by
  intro elem member
  by_cases same : index = slot
  · subst same
    rw [update_self]
    exact grows elem member
  · rw [update_of_ne same]
    exact member

variable {underWay : Nat → Prop} {pdu : MacResource} {sdu : BitBuffer}
  {reporter : Option ReporterName} {waiting : List (DeferredMcch Key)}

theorem grows_enqueue (ts : Nat) (pdu : MacResource) (sdu : BitBuffer)
    (reporter : Option ReporterName) (aie : AieRequest Key) :
    Grows underWay scheduler (scheduler.dlEnqueueCommonTma ts pdu sdu reporter aie) := by
  refine ⟨mem_update_of_mem fun elem member => ?_, rfl, le_rfl, fun _ => rfl, fun _ _ _ => rfl⟩
  exact mem_append_left _ member

theorem grows_enqueueEe (slot : Nat) (pdu : MacResource) (sdu : BitBuffer) (reporter : ReporterName)
    (aie : AieRequest Key) :
    Grows underWay scheduler (scheduler.dlEnqueueEeCommonTma slot pdu sdu reporter aie) := by
  refine ⟨mem_update_of_mem fun elem member => ?_, rfl, le_rfl, fun _ => rfl, fun _ _ _ => rfl⟩
  exact mem_cons_of_mem _ member

variable {aie : AieRequest Key}

theorem mem_enqueue {ts : Nat} (common : scheduler.isCommonControl ts = true) :
    .resource pdu sdu reporter aie none ∈
      (scheduler.dlEnqueueCommonTma ts pdu sdu reporter aie).dltxQueues (ts - 1) := by
  unfold dlEnqueueCommonTma
  rw [if_pos common]
  dsimp only
  rw [update_self]
  exact mem_append_right _ (mem_singleton_self _)

theorem mem_enqueueEe {slot : Nat} {reporter : ReporterName}
    (common : scheduler.isCommonControl slot = true) :
    .resource pdu sdu (some reporter) aie none ∈
      (scheduler.dlEnqueueEeCommonTma slot pdu sdu reporter aie).dltxQueues (slot - 1) := by
  unfold dlEnqueueEeCommonTma
  rw [if_pos common]
  dsimp only
  rw [update_self]
  exact mem_cons_self

theorem grows_discard (name : Nat) :
    Grows (· = name) scheduler (scheduler.discardPending [.ofReplay name]) := by
  have other {reporter : ReporterName} (differs : reporter ≠ .ofReplay name) :
      (scheduler.discardPending [.ofReplay name]).txStates reporter = scheduler.txStates reporter :=
    if_neg fun both => differs (mem_singleton.mp both.1)
  refine ⟨fun _ _ => id, rfl, le_rfl, fun index => other nofun, fun index _ idle => other ?_⟩
  intro same
  cases same
  exact idle rfl

theorem grows_newReporter : Grows underWay scheduler (newReporter scheduler) := by
  have other {reporter : ReporterName} (differs : reporter ≠ .ofReplay scheduler.nextReplay) :
      (newReporter scheduler).txStates reporter = scheduler.txStates reporter :=
    update_of_ne differs _ _
  refine ⟨fun _ _ => id, rfl, Nat.le_succ _, fun index => other nofun, fun index named _ => other ?_⟩
  intro same
  cases same
  exact lt_irrefl _ named

theorem grows_retryReplay :
    Grows underWay scheduler (retryReplay airTime scheduler resource retry).1 := by
  unfold retryReplay
  split
  · split
    · exact .refl
    · exact grows_newReporter.trans (grows_enqueueEe _ _ _ _ _)
  · exact .refl

theorem grows_releaseOne : Grows (fun name => ∃ retry, resource.eeRetry = some retry ∧
    retry.inFlight = some name) scheduler (releaseOne airTime scheduler resource).1 := by
  unfold releaseOne
  split
  · exact .refl
  · cases is : resource.eeRetry with
    | none =>
      dsimp only
      split
      · exact grows_enqueue _ _ _ _ _
      · exact .refl
    | some retry =>
      dsimp only
      unfold releaseReplay
      cases flying : retry.inFlight with
      | none => exact grows_retryReplay
      | some name =>
        dsimp only
        split
        · exact .refl
        · split
          · refine .trans ((grows_discard name).weaken ?_) grows_retryReplay
            rintro index rfl
            exact ⟨retry, rfl, flying⟩
          · exact grows_retryReplay

theorem grows_releaseAll (waiting : List (DeferredMcch Key)) :
    Grows (fun name => ∃ resource ∈ waiting, ∃ retry, resource.eeRetry = some retry ∧
      retry.inFlight = some name) scheduler (releaseAll airTime scheduler waiting).1 := by
  induction waiting generalizing scheduler with
  | nil => exact .refl
  | cons resource rest ih =>
    refine .trans (grows_releaseOne.weaken ?_) (ih.weaken ?_)
    · rintro name ⟨retry, is, flying⟩
      exact ⟨resource, mem_cons_self, retry, is, flying⟩
    · rintro name ⟨other, member, retry, is, flying⟩
      exact ⟨other, mem_cons_of_mem _ member, retry, is, flying⟩

theorem releaseOne_early (waits : resource.Waits)
    (kept : resource.isCancelled scheduler.txStates = false) (early : resource.due.age airTime < 0) :
    releaseOne airTime scheduler resource = (scheduler, some resource) := by
  unfold releaseOne
  rw [if_neg (by simp [kept])]
  cases is : resource.eeRetry with
  | none => exact if_neg (by omega)
  | some retry =>
    dsimp only
    unfold releaseReplay retryReplay
    rw [waits.idle retry is]
    rw [if_neg (by omega)]
    cases resource
    cases is
    rfl

variable {aieRequest : AieRequest Key}

/-- The element alone in its timeslot is what the scheduler sends, but in a frame 18. -/
theorem taken_alone {due : TdmaTime} (notLast : due.f ≠ 18)
    (kept : (DlSchedElem.resource pdu sdu reporter aieRequest none).isCancelled scheduler.txStates =
      false) :
    ({ scheduler with
      dltxQueues := Function.update scheduler.dltxQueues (due.t - 1)
        [.resource pdu sdu reporter aieRequest none]
      }.dlTakePrioritizedSchedItem due).1 = some (.resource pdu sdu reporter aieRequest none) := by
  have alone : [DlSchedElem.resource pdu sdu reporter aieRequest none].filter
      (fun elem => !elem.isCancelled scheduler.txStates) =
        [.resource pdu sdu reporter aieRequest none] := by
    rw [filter_cons_of_pos (by rw [kept]; rfl), filter_nil]
  unfold dlTakePrioritizedSchedItem
  rw [if_neg notLast]
  simp only [update_self, alone]
  -- it announces a grant, or it is signalling, or data that waits for nothing
  by_cases grants : (DlSchedElem.resource pdu sdu reporter aieRequest none).announcesGrant = true
  · simp [findIdx?_cons, DlSchedElem.isGrant, grants]
  · by_cases data : (DlSchedElem.resource pdu sdu reporter aieRequest none).isOriginalAdvancedData =
        true
    · simp [findIdx?_cons, DlSchedElem.isGrant, grants, DlSchedElem.isFragBuf, data,
        isEligible, schedElemAdvancedLinkSequence]
    · simp [findIdx?_cons, DlSchedElem.isGrant, grants, DlSchedElem.isFragBuf, data,
        DlSchedElem.isResource]

/-- Nothing withdraws the reporter's message while the copies under way are. -/
def Untold (underWay : Nat → Prop) (scheduler : DownlinkScheduler Key)
    (reporter : Option ReporterName) : Prop :=
  ∀ name, reporter = some name → scheduler.txStates name ≠ .discarded ∧
    ∀ index, name = .ofReplay index → index < scheduler.nextReplay ∧ ¬ underWay index

variable {after : DownlinkScheduler Key}

theorem Untold.grows (untold : Untold underWay scheduler reporter)
    (grows : Grows underWay scheduler after) : Untold underWay after reporter := by
  intro name is
  obtain ⟨kept, own⟩ := untold name is
  cases name with
  | ofLink index => exact ⟨by rw [grows.ofLink]; exact kept, nofun⟩
  | ofReplay index =>
    obtain ⟨named, idle⟩ := own index rfl
    refine ⟨by rw [grows.ofReplay index named idle]; exact kept, ?_⟩
    rintro other ⟨⟩
    exact ⟨named.trans_le grows.names, idle⟩

theorem Untold.kept (untold : Untold underWay scheduler reporter) :
    (DlSchedElem.resource pdu sdu reporter aieRequest none).isCancelled scheduler.txStates = false := by
  cases reporter with
  | none => rfl
  | some name => exact decide_eq_false (untold name rfl).1

/-- In its slot's turn a message is queued for it. -/
theorem releaseOne_due (waits : resource.Waits)
    (kept : resource.isCancelled scheduler.txStates = false) (due : 0 ≤ resource.due.age airTime)
    (common : scheduler.isCommonControl resource.due.t = true)
    (fresh : ¬ underWay scheduler.nextReplay) :
    ∃ reporter, Untold underWay (releaseOne airTime scheduler resource).1 reporter ∧
      .resource resource.pdu resource.sdu reporter resource.aieRequest none ∈
        (releaseOne airTime scheduler resource).1.dltxQueues (resource.due.t - 1) := by
  unfold releaseOne
  rw [if_neg (by simp [kept])]
  cases is : resource.eeRetry with
  | none =>
    rw [if_pos due]
    refine ⟨resource.txReporter.map .ofLink, ?_, mem_enqueue common⟩
    intro name isName
    obtain ⟨index, isIndex, rfl⟩ := map_eq_some_iff.mp isName
    refine ⟨?_, nofun⟩
    rw [DeferredMcch.isCancelled, isIndex] at kept
    exact of_decide_eq_false kept
  | some retry =>
    have going : ¬ (retry.attemptsLeft = 0 ∨
        ∃ cutoff ∈ retry.cutoff, cutoff.diff resource.due ≤ 0) := by
      rintro (none | ⟨cutoff, isCutoff, passed⟩)
      · exact (waits.tries retry is).ne' none
      · exact not_lt_of_ge passed (waits.inTime retry is cutoff isCutoff)
    dsimp only
    unfold releaseReplay retryReplay
    rw [waits.idle retry is]
    rw [if_pos ⟨rfl, due⟩, if_neg going]
    refine ⟨some (.ofReplay scheduler.nextReplay), ?_,
      @mem_enqueueEe _ (newReporter scheduler) _ _ _ _ _ common⟩
    rintro name ⟨⟩
    constructor
    · show Function.update scheduler.txStates _ _ _ ≠ _
      rw [update_self]
      decide
    · rintro index ⟨⟩
      exact ⟨Nat.lt_succ_self _, fresh⟩

/-- **In its slot's turn a message is queued for it**, whatever else is released. -/
theorem releaseAll_due (member : resource ∈ waiting) (waits : resource.Waits)
    (kept : resource.isCancelled scheduler.txStates = false) (due : 0 ≤ resource.due.age airTime)
    (common : scheduler.isCommonControl resource.due.t = true)
    (named : ∀ other ∈ waiting, InFlightNamed scheduler other) :
    ∃ reporter, (DlSchedElem.resource resource.pdu resource.sdu reporter resource.aieRequest
        none).isCancelled (releaseAll airTime scheduler waiting).1.txStates = false ∧
      .resource resource.pdu resource.sdu reporter resource.aieRequest none ∈
        (releaseAll airTime scheduler waiting).1.dltxQueues (resource.due.t - 1) := by
  induction waiting generalizing scheduler with
  | nil => cases member
  | cons other rest ih =>
    have grown := @grows_releaseAll _ airTime (releaseOne airTime scheduler other).1 rest
    have first := @grows_releaseOne _ airTime scheduler other
    by_cases same : resource = other
    · subst same
      have fresh : ¬ ∃ resource ∈ rest, ∃ retry, resource.eeRetry = some retry ∧
          retry.inFlight = some scheduler.nextReplay := by
        rintro ⟨later, isLater, retry, is, flying⟩
        exact lt_irrefl _ (named later (mem_cons_of_mem _ isLater) retry is _ flying)
      obtain ⟨reporter, untold, queued⟩ := @releaseOne_due _ airTime scheduler resource
        (fun name => ∃ resource ∈ rest, ∃ retry, resource.eeRetry = some retry ∧
          retry.inFlight = some name) waits kept due common fresh
      exact ⟨reporter, (untold.grows grown).kept, grown.queued _ _ queued⟩
    · refine @ih (releaseOne airTime scheduler other).1 ((mem_cons.mp member).resolve_left same)
        ((first.isCancelled resource).trans kept) ?_ ?_
      · unfold isCommonControl at common ⊢
        rw [first.common]
        exact common
      · intro later isLater retry is name flying
        exact (named later (mem_cons_of_mem _ isLater) retry is name flying).trans_le first.names

theorem releaseAll_early (member : resource ∈ waiting) (waits : resource.Waits)
    (kept : resource.isCancelled scheduler.txStates = false) (early : resource.due.age airTime < 0) :
    resource ∈ (releaseAll airTime scheduler waiting).2 := by
  induction waiting generalizing scheduler with
  | nil => cases member
  | cons other rest ih =>
    by_cases same : resource = other
    · subst same
      have stays : resource ∈ (releaseOne airTime scheduler resource).2.toList := by
        rw [releaseOne_early waits kept early]
        exact mem_singleton_self _
      exact mem_append_left _ stays
    · have first := @grows_releaseOne _ airTime scheduler other
      exact mem_append_right _ (@ih (releaseOne airTime scheduler other).1
        ((mem_cons.mp member).resolve_left same) ((first.isCancelled resource).trans kept))

/-- What is kept of a message has no name but its own, or one that is new. -/
theorem releaseOne_named {kept : DeferredMcch Key} (named : InFlightNamed scheduler resource)
    (is : (releaseOne airTime scheduler resource).2 = some kept) :
    InFlightNamed (releaseOne airTime scheduler resource).1 kept := by
  -- a replay that is tried again, of which a copy is under way or not
  have retried {scheduler : DownlinkScheduler Key} {resource kept : DeferredMcch Key}
      {retry : EeReplayRetry} (named : ∀ name ∈ retry.inFlight, name < scheduler.nextReplay)
      (is : (retryReplay airTime scheduler resource retry).2 = some kept) :
      InFlightNamed (retryReplay airTime scheduler resource retry).1 kept := by
    unfold retryReplay at is ⊢
    split at is
    next ready =>
      rw [if_pos ready]
      split at is
      · cases is
      next going =>
        cases is
        rw [if_neg going]
        rintro retry ⟨⟩ name ⟨⟩
        exact Nat.lt_succ_self _
    next waiting =>
      cases is
      rw [if_neg waiting]
      rintro retry ⟨⟩
      exact named
  unfold releaseOne at is ⊢
  split at is
  · cases is
  next going =>
    rw [if_neg going]
    cases isRetry : resource.eeRetry with
    | none =>
      rw [isRetry] at is
      dsimp only at is ⊢
      split at is
      · cases is
      · cases is
        intro retry isSome
        cases isRetry.symm.trans isSome
    | some retry =>
      rw [isRetry] at is
      dsimp only at is ⊢
      unfold releaseReplay at is ⊢
      cases flying : retry.inFlight with
      | none =>
        rw [flying] at is
        refine retried ?_ is
        rw [flying]
        nofun
      | some name =>
        rw [flying] at is
        dsimp only at is ⊢
        split at is
        · cases is
        next pending =>
          rw [if_neg pending]
          split at is
          next late =>
            rw [if_pos late]
            exact retried nofun is
          next early =>
            rw [if_neg early]
            exact retried (named retry isRetry) is

theorem InFlightNamed.grows (named : InFlightNamed scheduler resource)
    (grows : Grows underWay scheduler after) : InFlightNamed after resource :=
  fun retry is name flying => (named retry is name flying).trans_le grows.names

theorem releaseAll_named (named : ∀ other ∈ waiting, InFlightNamed scheduler other) :
    ∀ kept ∈ (releaseAll airTime scheduler waiting).2,
      InFlightNamed (releaseAll airTime scheduler waiting).1 kept := by
  induction waiting generalizing scheduler with
  | nil =>
    intro kept member
    cases (not_mem_nil member)
  | cons other rest ih =>
    intro kept member
    have first := @grows_releaseOne _ airTime scheduler other
    rcases mem_append.mp member with head | tail
    · exact InFlightNamed.grows (releaseOne_named (named other mem_cons_self) (mem_toList.mp head))
        (grows_releaseAll rest)
    · refine ih (fun later isLater => ?_) kept tail
      exact InFlightNamed.grows (named later (mem_cons_of_mem _ isLater)) first

/-! ### What is held back -/

variable {bs : EconomyBs Key} {dltime : TdmaTime} {request : McchRequest Key}

theorem opportunities_usable {issi : Nat} {assignment : EconomyAssignment} {due : TdmaTime}
    {copy : Nat} (member : (due, copy) ∈ bs.opportunities dltime request issi assignment) :
    ∀ activation ∈ bs.rolloverActivation request, 0 < activation.diff due := by
  unfold opportunities at member
  dsimp only at member
  split at member
  · split at member
    next first periodFrames _ _ usable =>
      have early := (of_decide_eq_true usable).2
      split at member
      · rcases mem_cons.mp member with same | member
        · rw [(Prod.mk.inj same).1]
          exact early
        · rw [(Prod.mk.inj (mem_singleton.mp member)).1]
          split
          next later =>
            exact later
          · exact early
      · rw [(Prod.mk.inj (mem_singleton.mp member)).1]
        exact early
    · cases member
  · cases member

theorem groupReplays_waits {scheduled : List (TdmaTime × Nat)}
    {assignments : List (Nat × EconomyAssignment)} :
    ∀ resource ∈ bs.groupReplays dltime request scheduled assignments, resource.Waits := by
  induction assignments generalizing scheduled with
  | nil =>
    intro resource member
    cases (not_mem_nil member)
  | cons assigned rest ih =>
    intro resource member
    obtain ⟨issi, assignment⟩ := assigned
    rcases mem_append.mp member with head | tail
    · obtain ⟨⟨due, copy⟩, opportunity, rfl⟩ := mem_map.mp head
      have usable := opportunities_usable (mem_filter.mp opportunity).1
      have fields {retry : EeReplayRetry} (is : (if allMs request = true then
          (energyEconomyPeriodFrames assignment.mode).map fun periodFrames =>
            (⟨periodFrames * 4, 4, bs.rolloverActivation request, none⟩ : EeReplayRetry)
          else none) = some retry) :
          retry.inFlight = none ∧ retry.attemptsLeft = 4 ∧
            retry.cutoff = bs.rolloverActivation request := by
        split at is
        · obtain ⟨periodFrames, -, rfl⟩ := map_eq_some_iff.mp is
          exact ⟨rfl, rfl, rfl⟩
        · cases is
      refine ⟨fun retry is => (fields is).1, fun retry is => ?_, fun retry is cutoff isCutoff => ?_⟩
      · rw [(fields is).2.1]
        decide
      · rw [(fields is).2.2] at isCutoff
        exact usable cutoff isCutoff
    · exact ih resource tail

/-- **Everything that is held back waits**, as it was when it was held back. -/
theorem deferrals_waits : ∀ resource ∈ bs.deferrals dltime request, resource.Waits := by
  intro resource member
  unfold deferrals at member
  split at member
  · cases member
  · cases kind : request.mainAddress.ssiType <;> rw [kind] at member
    case gssi => exact groupReplays_waits resource member
    case issi =>
      unfold individualDeferral at member
      dsimp only at member
      split at member
      · cases member
      · split at member
        · split at member
          · cases mem_singleton.mp member
            exact ⟨nofun, nofun, nofun⟩
          · cases member
        · cases member
    all_goals cases member

end EconomyBs

namespace EconomyState

/-! ### Whole runs -/

variable {state : EconomyState Key} {resource : DeferredMcch Key} {slot : Nat}

def Named (state : EconomyState Key) : Prop :=
  ∀ resource ∈ state.bs.deferredMcch, InFlightNamed state.bs.channelScheduler resource

theorem named_step {next : EconomyState Key} (named : Named state) (event : EconomyEvent Key)
    (stepped : state.step event = some next) : Named next := by
  cases event with
  | request request =>
    cases stepped
    intro resource member
    rcases mem_append.mp member with old | new
    · exact named resource old
    · intro retry is name flying
      rw [(EconomyBs.deferrals_waits resource new).idle retry is] at flying
      cases flying
  | surroundings other =>
    cases stepped
    exact named
  | tick =>
    cases stepped
    exact EconomyBs.releaseAll_named named

theorem named_of_reachable (reachable : Reachable (economyMachine Key) always state) : Named state := by
  refine reachable.invariant (fun first started => ?_) fun _ event _ holds _ stepped =>
    named_step holds event stepped
  intro resource member
  rw [show first.bs.deferredMcch = [] from started] at member
  cases member

theorem age_of_near {now : Nat} (low : now + 2 ≤ slot) (near : slot ≤ now + 10000) :
    (fromInt (slot : Nat)).age ((fromInt (now + 1 : Nat)).addTimeslots MACSCHED_TX_AHEAD) =
      (now : Int) + 2 - slot := by
  have close : |((now + 1 : Nat) : Int) + MACSCHED_TX_AHEAD - (slot : Nat)| < timeIntWrap / 2 := by
    rw [abs_lt]
    simp only [MACSCHED_TX_AHEAD, timeIntWrap]
    omega
  rw [age, addTimeslots_fromInt, diff_fromInt close]
  simp only [MACSCHED_TX_AHEAD]
  omega

/-- **A message stays until its time has come.** -/
theorem waits_of_runs {later : EconomyState Key} (member : resource ∈ state.bs.deferredMcch)
    (waits : resource.Waits) (due : resource.due = fromInt (slot : Nat))
    (near : slot ≤ state.now + 10000)
    (run : Runs (economyMachine Key) (Keeps resource) state later) :
    state.now ≤ later.now ∧ (later.now + 1 < slot → resource ∈ later.bs.deferredMcch) := by
  refine @Runs.invariant _ _ _ _ (fun later => state.now ≤ later.now ∧
    (later.now + 1 < slot → resource ∈ later.bs.deferredMcch)) _ _ run ?_ ⟨le_rfl, fun _ => member⟩
  rintro before event next ⟨after, held⟩ keeps stepped
  cases event with
  | request request =>
    cases stepped
    exact ⟨after, fun early => mem_append_left _ (held early)⟩
  | surroundings other =>
    cases stepped
    exact ⟨after, held⟩
  | tick =>
    cases stepped
    refine ⟨after.trans (Nat.le_succ _), fun early => ?_⟩
    have ahead : before.now + 1 + 1 < slot := early
    refine EconomyBs.releaseAll_early (held (by omega)) waits (keeps rfl) ?_
    rw [due, age_of_near (by omega) (by omega)]
    omega

/-- **A message for a slot that is not in a frame 18 is sent in it.** -/
theorem sentIn_of_waits (named : Named state) (member : resource ∈ state.bs.deferredMcch)
    (waits : resource.Waits) (due : resource.due = fromInt (slot : Nat))
    (near : slot ≤ state.now + 10000) (notLast : (fromInt (slot : Nat)).f ≠ 18) :
    SentIn state resource slot := by
  refine ⟨fun later run => (waits_of_runs member waits due near run).2, ?_⟩
  intro before after run last kept common stepped
  obtain ⟨later, held⟩ := waits_of_runs member waits due near run
  have namedBefore : Named before :=
    run.invariant (fun _ event _ holds _ stepped => named_step holds event stepped) named
  cases stepped
  obtain ⟨reporter, going, queued⟩ := @EconomyBs.releaseAll_due _
    ((fromInt (before.now + 1 : Nat)).addTimeslots MACSCHED_TX_AHEAD) before.bs.channelScheduler
    resource _ (held (by omega)) waits (kept rfl)
    (by rw [due, age_of_near (by omega) (by omega)]; omega) (by rw [due]; exact common) namedBefore
  rw [due] at queued
  exact ⟨_, ⟨reporter, rfl⟩, queued, EconomyBs.taken_alone notLast going⟩

/-- Time passes, and nobody withdraws a message that has no reporter. -/
theorem passes (unreported : resource.txReporter = none) (ticks : Nat) :
    ∃ later, Runs (economyMachine Key) (Keeps resource) state later ∧ later.now = state.now + ticks ∧
      later.bs.channelScheduler.commonScchCount = state.bs.channelScheduler.commonScchCount := by
  induction ticks with
  | zero => exact ⟨state, .refl, rfl, rfl⟩
  | succ ticks ih =>
    obtain ⟨later, run, time, common⟩ := ih
    have kept : Keeps resource later .tick := by
      intro _
      rw [DeferredMcch.isCancelled, unreported]
      rfl
    refine ⟨_, run.tail ⟨.tick, kept, rfl⟩, ?_, ?_⟩
    · show later.now + 1 = _
      omega
    · exact (EconomyBs.grows_releaseAll later.bs.deferredMcch).common.trans common

/-! ### The slot that a terminal hears -/

variable {now mode frame multiframe : Nat}

/-- **What is held back for a terminal is sent while it listens**: the slot to wait for is the earliest
that it hears, and everything that is held back for that slot is sent in it. -/
def SentWhileListening (Key : Type) (now mode frame multiframe slot : Nat) : Prop :=
  ∃ period offset, energyEconomyPeriodFrames mode = some period ∧
    EarliestReception now period frame multiframe slot offset ∧
    nextEnergyEconomyCommonForAssignment (fromInt now) mode (some frame) (some multiframe) slot =
      some (fromInt (now + offset : Nat)) ∧
    ∀ state : EconomyState Key, Reachable (economyMachine Key) always state → state.now = now →
      ∀ request after, state.step (.request request) = some after →
      ∀ resource ∈ state.bs.deferrals (fromInt now) request,
        resource.due = fromInt (now + offset : Nat) → SentIn after resource (now + offset)

/-- A scheduler with four common control channels and nothing to do. -/
def quietScheduler (Key : Type) : DownlinkScheduler Key where
  curDltime := fromInt 0
  ulsched := fun _ => EMPTY_SCHED_ELEM
  associatedUlsched := []
  granted := []
  ulCircuits := fun _ => false
  hangtime := fun _ => false
  packetBearers := fun _ => none
  packetBearerGenerations := fun _ => none
  pendingPacketDataGrants := []
  packetDataGrantWindows := fun _ => none
  drainingPacketBearers := []
  packetGrantRoundRobinAfter := none
  dlCircuits := fun _ => false
  dltxQueues := fun _ => []
  dltxHalfDuplexQueues := fun _ => []
  dltxNextSlotQueue := []
  assocDltxQueues := fun _ => []
  assocBestEffortQueues := fun _ => 0
  pendingRaAcks := fun _ => []
  commonScchCount := 3
  forceCommonSysinfo := false
  numOfCsch := 0
  configuredNoMinimumMode := false
  noMinimumMode := false
  txStates := fun _ => .pending
  nextReplay := 0

/-- A cell in which all terminals sleep alike. -/
def sleepingCell (Key : Type) (now mode frame multiframe : Nat) : EconomyState Key where
  bs := {
    channelScheduler := quietScheduler Key
    deferredMcch := []
    advertisedCount := 3
    physicalCount := 3
    msScch := fun _ => none
    registrationSlot := fun _ => none
    energyEconomy := fun _ => some ⟨mode, some frame, some multiframe⟩
    groupEnergyEconomies := fun _ => []
    activeEnergyEconomies := []
    energyEconomyActivationPending := fun _ => false
    directResponseWindowActive := fun _ _ => false
    rolloverNotification := none }
  now := now

/-- A message to one of the terminals. -/
def sleepingRequest (Key : Type) (slot : Nat) : McchRequest Key where
  mainAddress := ⟨1001, .issi⟩
  endpointId := slot
  hasAssociatedChannel := false
  allMsTrafficBroadcast := false
  pdu := .nullPdu
  sdu := ⟨[], 0, 0, 0⟩
  txReporter := none
  aieRequest := .clear (.individual 1001) .macResource

theorem reachable_sleepingCell :
    Reachable (economyMachine Key) always (sleepingCell Key now mode frame multiframe) :=
  ⟨_, show (sleepingCell Key now mode frame multiframe).bs.deferredMcch = [] from rfl, .refl⟩

theorem deferrals_sleeping {due : TdmaTime} (low : 1 ≤ slot) (high : slot ≤ 4)
    (next : nextEnergyEconomyCommonForAssignment (fromInt now) mode (some frame) (some multiframe)
      slot = some due) :
    (sleepingCell Key now mode frame multiframe).bs.deferrals (fromInt now)
        (sleepingRequest Key slot) =
      [⟨due, .nullPdu, ⟨[], 0, 0, 0⟩, none, .clear (.individual 1001) .macResource, none⟩] := by
  have own : (sleepingCell Key now mode frame multiframe).bs.commonDownlinkSlot
      (sleepingRequest Key slot) = slot :=
    if_pos (decide_eq_true ⟨low, high⟩)
  have idle : (quietScheduler Key).hasPendingRandomAccessAck 1001 = false := rfl
  unfold EconomyBs.deferrals EconomyBs.individualDeferral
  rw [own]
  simp [sleepingCell, sleepingRequest, idle, next]

theorem not_sendable {scheduler : DownlinkScheduler Key} {due : TdmaTime} {elem : DlSchedElem Key}
    (last : due.f = 18) : ¬ Sendable scheduler resource due elem := by
  intro sendable
  have taken := sendable.taken
  unfold dlTakePrioritizedSchedItem at taken
  rw [if_pos last] at taken
  cases taken

/-- **The message to a sleeping terminal is not sent in a frame 18.** -/
theorem not_sentIn_sleeping {offset : Nat} (low : 1 ≤ slot) (high : slot ≤ 4) (ahead : 2 ≤ offset)
    (timeslot : (fromInt (now + offset : Nat)).t = slot)
    (last : (fromInt (now + offset : Nat)).f = 18) {after : EconomyState Key}
    (stepped : (sleepingCell Key now mode frame multiframe).step
      (.request (sleepingRequest Key slot)) = some after)
    (unreported : resource.txReporter = none) : ¬ SentIn after resource (now + offset) := by
  intro sent
  cases stepped
  obtain ⟨before, run, time, common⟩ := @passes _
    { sleepingCell Key now mode frame multiframe with
      bs := (sleepingCell Key now mode frame multiframe).bs.rxUlTmaUnitdataReq (fromInt now)
        (sleepingRequest Key slot) } resource unreported (offset - 2)
  have started : before.now = now + (offset - 2) := time
  have four : before.bs.channelScheduler.commonScchCount = 3 := common
  have kept : Keeps resource before .tick := by
    intro _
    rw [DeferredMcch.isCancelled, unreported]
    rfl
  obtain ⟨elem, sendable⟩ := sent.handed before _ run (by omega) kept
    (by
      unfold isCommonControl
      rw [timeslot, four]
      exact decide_eq_true ⟨low, high⟩) rfl
  exact not_sendable last sendable

/-- **Main result.** What is held back for a terminal is sent while it listens if and only if the
earliest slot that it hears is not in a frame 18. -/
theorem reception_slot_iff (modeLow : 1 ≤ mode) (modeHigh : mode ≤ 7)
    (frameValid : 1 ≤ frame ∧ frame ≤ 18) (multiframeValid : 1 ≤ multiframe ∧ multiframe ≤ 60)
    (low : 1 ≤ slot) (high : slot ≤ 4) :
    SentWhileListening Key now mode frame multiframe slot ↔
      ∀ period offset, energyEconomyPeriodFrames mode = some period →
        EarliestReception now period frame multiframe slot offset →
        (fromInt (now + offset : Nat)).f ≠ 18 := by
  apply Iff.intro
  · rintro ⟨period, offset, is, earliest, next, sent⟩ period' offset' is' earliest' last
    cases is.symm.trans is'
    obtain rfl := earliest.unique earliest'
    have answer := sent _ (@reachable_sleepingCell Key now mode frame multiframe) rfl
      (sleepingRequest Key slot) _ rfl _
      (by rw [deferrals_sleeping low high next]; exact mem_singleton_self _) rfl
    exact not_sentIn_sleeping low high earliest.ahead earliest.listens.1 last rfl rfl answer
  · intro heard
    obtain ⟨period, is⟩ := period_of_valid modeLow modeHigh
    obtain ⟨offset, near, earliest, next⟩ := @next_spec mode period frame multiframe slot now is
      frameValid multiframeValid low high
    refine ⟨period, offset, is, earliest, next, ?_⟩
    rintro state reachable rfl request after stepped resource member due
    have named := named_step (named_of_reachable reachable) _ stepped
    cases stepped
    refine sentIn_of_waits named (mem_append_right _ member)
      (EconomyBs.deferrals_waits resource member) due ?_ (heard period offset is earliest)
    show state.now + offset ≤ state.now + 10000
    omega

/-- A terminal that sleeps every other frame hears what is sent to it eight slots ahead. -/
theorem reception_slot_frame_three : SentWhileListening Unit 0 1 1 1 1 := by
  refine (reception_slot_iff (by decide) (by decide) (by decide) (by decide) (by decide)
    (by decide)).mpr ?_
  rintro period offset ⟨⟩ earliest
  have eight : EarliestReception 0 2 1 1 1 8 := by
    refine ⟨by decide, (listens_iff (by decide)).mpr (by decide), ?_⟩
    intro earlier ahead before listens
    interval_cases earlier <;> exact absurd ((listens_iff (by decide)).mp listens) (by decide)
  rw [earliest.unique eight]
  decide

/-- A terminal that starts in a frame 18 and sleeps for a multiframe is not told while it listens. -/
theorem unheard_in_frame_eighteen : ¬ SentWhileListening Unit 0 5 18 1 1 := by
  rintro ⟨period, offset, is, earliest, next, sent⟩
  cases is
  have answer := sent _ (@reachable_sleepingCell Unit 0 5 18 1) rfl (sleepingRequest Unit 1) _ rfl _
    (by rw [deferrals_sleeping (by decide) (by decide) next]; exact mem_singleton_self _) rfl
  exact not_sentIn_sleeping (by decide) (by decide) earliest.ahead earliest.listens.1
    (earliest.listens.in_last (by decide)) rfl rfl answer

end EconomyState

end Bluestation
