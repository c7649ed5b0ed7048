/-
**Common control channels over whole runs.**

Between two refreshes anything may happen: the operator changes the setting, other owners take and
give back timeslots, and queues, circuits and reservations change. Each decrease has a history: when it
began, how long the longest sleep of a terminal was, and in which timeslots of a frame 18 how many
channels were announced since. It is never read.

* `settled_step` — **each step keeps it.**
* `common_control_runs` — **when a timeslot becomes common control and when it is given back**, in
  every run.
-/

import Bluestation.Umac.CommonControl

namespace Bluestation

open Machines SlotBitmap TdmaTime List CommonControlBs TimeslotAllocator

variable {Key : Type}

/-- The history of a decrease. -/
structure Decrease where
  since : Nat
  longest : Nat
  /-- The timeslots of a frame 18 that announced the channels, each with their number. -/
  announced : List (Nat × Nat)

structure CommonControlState (Key : Type) where
  bs : CommonControlBs Key
  now : Nat
  decrease : Option Decrease

/-- An owner of timeslots other than common control. -/
abbrev OtherOwner := { owner : TimeslotOwner // owner ≠ .commonControl }

inductive CommonControlEvent (Key : Type) where
  | setTarget (count : Nat)
  | reserve (owner : OtherOwner) (slot : Nat)
  | allocateAny (owner : OtherOwner)
  | release (owner : OtherOwner) (slot : Nat)
  /-- Everything else changes: queues, circuits, bearers, reservations, terminals and labels. -/
  | surroundings (other : CommonControlBs Key)
  /-- The next timeslot begins. -/
  | tick
  /-- The downlink block of the timeslot ahead is finished, with or without SYSINFO in its second
  half. -/
  | finalize (hasBnch : Bool)

namespace CommonControlBs

/-- The operator's setting; a higher count than three is refused. -/
def setTarget (bs : CommonControlBs Key) (count : Nat) : CommonControlBs Key :=
  if count ≤ 3 then
    { bs with
      commonScchCount := count
      timeslotAlloc := bs.timeslotAlloc.setCommonControlTarget count }
  else bs

/-- What others change. -/
def surround (bs other : CommonControlBs Key) : CommonControlBs Key :=
  { other with
    commonControl := bs.commonControl
    timeslotAlloc := bs.timeslotAlloc
    commonScchCount := bs.commonScchCount
    channelScheduler := { other.channelScheduler with
      commonScchCount := bs.channelScheduler.commonScchCount
      forceCommonSysinfo := bs.channelScheduler.forceCommonSysinfo
      numOfCsch := bs.channelScheduler.numOfCsch } }

def owns (bs : CommonControlBs Key) (slot : Nat) : Prop :=
  bs.timeslotAlloc.owners slot = some .commonControl

end CommonControlBs

namespace CommonControlState

/-- The history after a refresh. -/
def noteRefresh (before next : CommonControlBs Key) (now : Nat) (decrease : Option Decrease) :
    Option Decrease :=
  if next.commonControl.drainUntil.isNone then none
  else if before.commonControl.drainUntil.isNone then some ⟨now, before.longestEconomy, []⟩
  else decrease

/-- The history after the end of a timeslot. -/
def noteFinalize (bs : CommonControlBs Key) (ts : TdmaTime) (hasBnch : Bool) (decrease : Decrease) :
    Decrease :=
  if ts.f = 18 ∧ hasBnch = true then
    { decrease with announced := decrease.announced ++ [(ts.t, bs.channelScheduler.numOfCsch)] }
  else decrease

def step (state : CommonControlState Key) : CommonControlEvent Key → Option (CommonControlState Key)
  | .setTarget count => some { state with bs := state.bs.setTarget count }
  | .reserve owner slot =>
    match state.bs.timeslotAlloc.reserve owner slot with
    | .ok reserved => some { state with bs := { state.bs with timeslotAlloc := reserved } }
    | .error _ => some state
  | .allocateAny owner =>
    some { state with
      bs := { state.bs with timeslotAlloc := (state.bs.timeslotAlloc.allocateAny owner).2 } }
  | .release owner slot =>
    match state.bs.timeslotAlloc.release owner slot with
    | .ok released => some { state with bs := { state.bs with timeslotAlloc := released } }
    | .error _ => some state
  | .surroundings other => some { state with bs := state.bs.surround other }
  | .tick =>
    match state.bs.refreshCommonControlChannels (fromInt (state.now + 1 : Nat)) with
    | .ok next => some {
        bs := next
        now := state.now + 1
        decrease := noteRefresh state.bs next (state.now + 1) state.decrease }
    | .error _ => none
  | .finalize hasBnch =>
    let ts := fromInt (state.now + 1 : Nat)
    some { state with
      bs := state.bs.noteAdvertised ts hasBnch
      decrease := state.decrease.map (noteFinalize state.bs ts hasBnch) }

def Starts (state : CommonControlState Key) : Prop :=
  state.bs.commonControl = ⟨0, 0, none, 0⟩ ∧ (∀ slot, ¬ state.bs.owns slot) ∧
    state.bs.commonScchCount ≤ 3 ∧ state.bs.channelScheduler.numOfCsch = 0 ∧ state.decrease = none

end CommonControlState

def commonControlMachine (Key : Type) :
    Machine (CommonControlState Key) (CommonControlEvent Key) where
  start := CommonControlState.Starts
  step := CommonControlState.step

/-! ### What holds in every state -/

/-- The history fits the state: the deadline is behind the longest sleep, and what was announced since
is the reduced number. -/
structure Decrease.Fits (decrease : Decrease) (state : CommonControlState Key) (deadline : TdmaTime) :
    Prop where
  begun : decrease.since ≤ state.now
  period : decrease.longest ≤ 360
  deadline_eq : deadline = fromInt (decrease.since + (max decrease.longest 72 * 4 + 16) : Nat)
  announced : ∀ timeslot, 1 ≤ timeslot → timeslot ≤ 4 →
    state.bs.commonControl.advertisedFrame18Slots.has timeslot = true →
    (timeslot, state.bs.commonControl.advertisedCount) ∈ decrease.announced

namespace CommonControlState

/-- **What holds in every reachable state.** -/
structure Settled (state : CommonControlState Key) : Prop where
  fewer : state.bs.commonControl.advertisedCount ≤ state.bs.commonControl.physicalCount
  few : state.bs.commonControl.physicalCount ≤ 3
  target : state.bs.commonScchCount ≤ 3
  owned : ∀ slot ∈ timeslots, state.bs.owns slot ↔ slot ≤ state.bs.commonControl.physicalCount + 1
  told : state.bs.channelScheduler.numOfCsch = state.bs.commonControl.advertisedCount
  steady : state.bs.commonControl.drainUntil = none →
    state.bs.commonControl.advertisedCount = state.bs.commonControl.physicalCount
  draining : ∀ deadline, state.bs.commonControl.drainUntil = some deadline →
    ∃ decrease, state.decrease = some decrease ∧ decrease.Fits state deadline

variable {state next : CommonControlState Key}

theorem eePeriodFrames_le (mode : Nat) : eePeriodFrames mode ≤ 360 := by
  unfold eePeriodFrames
  split <;> decide

theorem longestEconomy_le (bs : CommonControlBs Key) : bs.longestEconomy ≤ 360 := by
  unfold longestEconomy
  cases longest : (bs.activeEnergyEconomies.map eePeriodFrames).max? with
  | none => decide
  | some period =>
    obtain ⟨mode, -, rfl⟩ := mem_map.mp (max?_mem longest)
    exact eePeriodFrames_le mode

/-! ### What others do -/

variable {alloc : TimeslotAllocator}

theorem give_owns {owner : TimeslotOwner} {ts : Nat} (free : alloc.owners ts = none)
    (other : owner ≠ .commonControl) (slot : Nat) :
    (alloc.give (some owner) ts).owners slot = some .commonControl ↔
      alloc.owners slot = some .commonControl := by
  rw [give_owners]
  by_cases same : slot = ts
  · rw [same, free]
    simp [other]
  · rw [if_neg same]

theorem reserve_owns {reserved : TimeslotAllocator} {owner : OtherOwner} {ts : Nat}
    (took : alloc.reserve owner ts = .ok reserved) (slot : Nat) :
    reserved.owners slot = some .commonControl ↔ alloc.owners slot = some .commonControl := by
  rcases alloc.reserve_cases owner ts with ⟨error, refused⟩ | ⟨-, free, taken⟩
  · cases refused.symm.trans took
  · cases taken.symm.trans took
    exact give_owns free owner.2 slot

theorem allocateAny_owns (alloc : TimeslotAllocator) (owner : OtherOwner) (slot : Nat) :
    (alloc.allocateAny owner).2.owners slot = some .commonControl ↔
      alloc.owners slot = some .commonControl := by
  unfold allocateAny
  split
  · next ts found =>
    have free := find?_some found
    rw [Bool.and_eq_true, Option.isNone_iff_eq_none] at free
    exact give_owns free.1 owner.2 slot
  · split
    · exact Iff.rfl
    · exact Iff.rfl

theorem release_owns {released : TimeslotAllocator} {owner : OtherOwner} {ts : Nat}
    (gave : alloc.release owner ts = .ok released) (slot : Nat) :
    released.owners slot = some .commonControl ↔ alloc.owners slot = some .commonControl := by
  unfold release at gave
  split at gave
  · split at gave
    · cases gave
    · next existing held =>
      split at gave
      · cases gave
      · next same =>
        cases gave
        rw [give_owners]
        by_cases here : slot = ts
        · rw [here, held, not_not.mp same]
          simp [owner.2]
        · rw [if_neg here]
  · cases gave

/-- The channels, who has them and what is announced are as before, and so is the history. -/
structure Untouched (state next : CommonControlState Key) : Prop where
  channels : next.bs.commonControl = state.bs.commonControl
  owns : ∀ slot, next.bs.owns slot ↔ state.bs.owns slot
  told : next.bs.channelScheduler.numOfCsch = state.bs.channelScheduler.numOfCsch
  now : next.now = state.now
  decrease : next.decrease = state.decrease

theorem Settled.untouched (settled : Settled state) (same : Untouched state next)
    (target : next.bs.commonScchCount ≤ 3) : Settled next := by
  constructor
  · rw [same.channels]
    exact settled.fewer
  · rw [same.channels]
    exact settled.few
  · exact target
  · intro slot traffic
    rw [same.owns, same.channels]
    exact settled.owned slot traffic
  · rw [same.told, same.channels]
    exact settled.told
  · rw [same.channels]
    exact settled.steady
  · intro deadline draining
    rw [same.channels] at draining
    obtain ⟨decrease, is, fits⟩ := settled.draining deadline draining
    refine ⟨decrease, same.decrease.trans is, ?_, fits.period, fits.deadline_eq, ?_⟩
    · rw [same.now]
      exact fits.begun
    · rw [same.channels]
      exact fits.announced

/-- **What others do leaves the channels alone.** -/
theorem untouched_of_step {event : CommonControlEvent Key} (isTick : event ≠ .tick)
    (isFinalize : ∀ hasBnch, event ≠ .finalize hasBnch) (stepped : state.step event = some next) :
    Untouched state next ∧ (state.bs.commonScchCount ≤ 3 → next.bs.commonScchCount ≤ 3) := by
  cases event with
  | setTarget count =>
    cases stepped
    unfold setTarget
    split
    · next valid => exact ⟨⟨rfl, fun _ => Iff.rfl, rfl, rfl, rfl⟩, fun _ => valid⟩
    · exact ⟨⟨rfl, fun _ => Iff.rfl, rfl, rfl, rfl⟩, id⟩
  | reserve owner slot =>
    dsimp only [step] at stepped
    split at stepped
    · next reserved took =>
      cases stepped
      exact ⟨⟨rfl, reserve_owns took, rfl, rfl, rfl⟩, id⟩
    · cases stepped
      exact ⟨⟨rfl, fun _ => Iff.rfl, rfl, rfl, rfl⟩, id⟩
  | allocateAny owner =>
    cases stepped
    exact ⟨⟨rfl, allocateAny_owns _ owner, rfl, rfl, rfl⟩, id⟩
  | release owner slot =>
    dsimp only [step] at stepped
    split at stepped
    · next released gave =>
      cases stepped
      exact ⟨⟨rfl, release_owns gave, rfl, rfl, rfl⟩, id⟩
    · cases stepped
      exact ⟨⟨rfl, fun _ => Iff.rfl, rfl, rfl, rfl⟩, id⟩
  | surroundings other =>
    cases stepped
    exact ⟨⟨rfl, fun _ => Iff.rfl, rfl, rfl, rfl⟩, id⟩
  | tick => exact absurd rfl isTick
  | finalize hasBnch => exact absurd rfl (isFinalize hasBnch)

/-! ### The end of a timeslot -/

theorem has_bit_of_timeslot {first second : Nat} (firstLow : 1 ≤ first) (firstHigh : first ≤ 4)
    (secondLow : 1 ≤ second) :
    (bit first).has second = decide (first = second) := by
  simp only [has, bit]
  grind

/-- A finished block notes in which timeslot it announced what. -/
theorem settled_finalize (settled : Settled state) (hasBnch : Bool)
    (stepped : state.step (.finalize hasBnch) = some next) : Settled next := by
  cases stepped
  have low := t_fromInt ((state.now + 1 : Nat) : Int)
  generalize fromInt ((state.now + 1 : Nat) : Int) = ts at low ⊢
  unfold noteAdvertised noteFinalize
  by_cases announces : ts.f = 18 ∧ hasBnch = true
  · simp only [if_pos announces]
    refine ⟨settled.fewer, settled.few, settled.target, settled.owned, settled.told, settled.steady,
      fun deadline draining => ?_⟩
    obtain ⟨decrease, is, fits⟩ := settled.draining deadline draining
    refine ⟨_, congrArg (Option.map _) is, fits.begun, fits.period, fits.deadline_eq, ?_⟩
    intro timeslot above below heard
    refine mem_append.mpr ?_
    rw [has_or, Bool.or_eq_true] at heard
    rcases heard with before | now
    · exact .inl (fits.announced timeslot above below before)
    · rw [has_bit_of_timeslot (by omega) (by omega) above, decide_eq_true_eq] at now
      rw [now, ← settled.told]
      exact .inr (mem_singleton_self _)
  · simp only [if_neg announces]
    refine ⟨settled.fewer, settled.few, settled.target, settled.owned, settled.told, settled.steady,
      fun deadline draining => ?_⟩
    obtain ⟨decrease, is, fits⟩ := settled.draining deadline draining
    exact ⟨decrease, congrArg (Option.map _) is, fits.begun, fits.period, fits.deadline_eq,
      fits.announced⟩

/-! ### The beginning of a timeslot -/

theorem mem_retiring {bs : CommonControlBs Key} {slot : Nat} :
    slot ∈ bs.retiring ↔ bs.commonControl.advertisedCount + 2 ≤ slot ∧
      slot < bs.commonControl.advertisedCount + 2 +
        (bs.commonControl.physicalCount - bs.commonControl.advertisedCount) := by
  unfold retiring
  rw [mem_range'_1]

theorem tick_eq (stepped : state.step .tick = some next) :
    state.bs.refreshCommonControlChannels (fromInt (state.now + 1 : Nat)) = .ok next.bs ∧
      next.now = state.now + 1 ∧
      next.decrease = noteRefresh state.bs next.bs (state.now + 1) state.decrease := by
  dsimp only [step] at stepped
  split at stepped
  · next bs refreshed =>
    cases stepped
    exact ⟨refreshed, rfl, rfl⟩
  · cases stepped

/-- **A refresh keeps the channels in order.** -/
theorem settled_tick (settled : Settled state) (stepped : state.step .tick = some next) :
    Settled next := by
  obtain ⟨refreshed, now, history⟩ := tick_eq stepped
  obtain ⟨told, target⟩ := refresh_announces refreshed
  have small : next.bs.commonScchCount ≤ 3 := target.le.trans settled.target
  unfold noteRefresh at history
  cases refresh_cases refreshed with
  | waits channels owners =>
    refine ⟨?_, ?_, small, ?_, told, ?_, ?_⟩
    · rw [channels]
      exact settled.fewer
    · rw [channels]
      exact settled.few
    · intro slot traffic
      unfold owns
      rw [owners, channels]
      exact settled.owned slot traffic
    · rw [channels]
      exact settled.steady
    · intro deadline draining
      rw [channels] at draining
      obtain ⟨decrease, is, fits⟩ := settled.draining deadline draining
      rw [channels, draining] at history
      refine ⟨decrease, history.trans is, ?_, fits.period, fits.deadline_eq, ?_⟩
      · rw [now]
        exact fits.begun.trans (Nat.le_succ _)
      · rw [channels]
        exact fits.announced
  | begins steady fewer channels owners =>
    refine ⟨?_, ?_, small, ?_, told, ?_, ?_⟩
    · rw [channels]
      exact fewer.le.trans settled.fewer
    · rw [channels]
      exact settled.few
    · intro slot traffic
      unfold owns
      rw [owners, channels]
      exact settled.owned slot traffic
    · rw [channels]
      exact nofun
    · intro deadline draining
      rw [channels] at draining
      cases draining
      rw [channels, steady] at history
      refine ⟨_, history, now.ge, longestEconomy_le _, ?_, ?_⟩
      · rw [addTimeslots_fromInt]
        rfl
      · intro timeslot _ _ heard
        rw [channels, has_zero] at heard
        cases heard
  | ends deadline draining expired announced drained channels owners =>
    refine ⟨?_, ?_, small, ?_, told, ?_, ?_⟩
    · rw [channels]
    · rw [channels]
      exact settled.fewer.trans settled.few
    · intro slot traffic
      have before := settled.owned slot traffic
      have fewer := settled.fewer
      unfold owns at before ⊢
      rw [owners, channels]
      dsimp only
      split
      · next gone =>
        have low := (mem_retiring.mp gone.1).1
        simp only [reduceCtorEq, false_iff]
        omega
      · next stays =>
        rw [before]
        by_cases inside : slot ∈ state.bs.retiring
        · have other : ¬ slot ≤ state.bs.commonControl.physicalCount + 1 :=
            fun held => stays ⟨inside, traffic, before.mpr held⟩
          omega
        · have bounds := mt mem_retiring.mpr inside
          omega
    · rw [channels]
      exact fun _ => rfl
    · rw [channels]
      exact nofun
  | adds steady more traffic free notPromised drained channels owners =>
    have few : state.bs.commonControl.physicalCount + 1 ≤ 3 := by
      have := (mem_timeslots.mp traffic).2
      omega
    refine ⟨?_, ?_, small, ?_, told, ?_, ?_⟩
    · rw [channels]
    · rw [channels]
      exact few
    · intro slot isTraffic
      have before := settled.owned slot isTraffic
      unfold owns at before ⊢
      rw [owners, channels]
      dsimp only
      split
      · next same => simp [same]
      · rw [before]
        omega
    · rw [channels]
      exact fun _ => rfl
    · rw [channels]
      exact nofun

/-! ### Whole runs -/

theorem settled_start (starts : Starts state) : Settled state := by
  obtain ⟨channels, nobody, target, told, -⟩ := starts
  refine ⟨?_, ?_, target, ?_, ?_, ?_, ?_⟩
  · rw [channels]
  · rw [channels]
    exact Nat.zero_le 3
  · intro slot traffic
    have low := (mem_timeslots.mp traffic).1
    rw [channels]
    exact iff_of_false (nobody slot) (by show ¬ slot ≤ 1; omega)
  · rw [channels, told]
  · rw [channels]
    exact fun _ => rfl
  · rw [channels]
    exact nofun

/-- **Every step keeps the channels in order.** -/
theorem settled_step (settled : Settled state) (event : CommonControlEvent Key)
    (stepped : state.step event = some next) : Settled next := by
  by_cases isTick : event = .tick
  · subst isTick
    exact settled_tick settled stepped
  by_cases isFinalize : ∃ hasBnch, event = .finalize hasBnch
  · obtain ⟨hasBnch, rfl⟩ := isFinalize
    exact settled_finalize settled hasBnch stepped
  · obtain ⟨same, target⟩ := untouched_of_step isTick (not_exists.mp isFinalize) stepped
    exact settled.untouched same (target settled.target)

theorem settled_of_reachable (reachable : Reachable (commonControlMachine Key) always state) :
    Settled state :=
  reachable.invariant (fun _ => settled_start) fun _ event _ settled _ stepped =>
    settled_step settled event stepped

theorem finalize_channels {hasBnch : Bool} (stepped : state.step (.finalize hasBnch) = some next) :
    next.bs.commonControl.advertisedCount = state.bs.commonControl.advertisedCount ∧
      next.bs.commonControl.physicalCount = state.bs.commonControl.physicalCount ∧
      next.bs.commonControl.drainUntil = state.bs.commonControl.drainUntil ∧
      next.bs.timeslotAlloc = state.bs.timeslotAlloc := by
  cases stepped
  unfold noteAdvertised
  split
  · exact ⟨rfl, rfl, rfl, rfl⟩
  · exact ⟨rfl, rfl, rfl, rfl⟩

theorem expired_iff {deadline : TdmaTime} {decrease : Decrease} (fits : decrease.Fits state deadline)
    (expired : 0 ≤ deadline.age (fromInt (state.now + 1 : Nat))) :
    decrease.since + (max decrease.longest 72 * 4 + 16) ≤ state.now + 1 := by
  by_contra early
  have begun := fits.begun
  have period := fits.period
  rw [fits.deadline_eq, age, diff_fromInt ?_] at expired
  · omega
  · rw [abs_lt]
    unfold timeIntWrap
    omega

/-- **What a timeslot was when it became common control**: nobody's, with no assigned channel and no
uplink reservation; its queues are empty, whatever was in them before. -/
structure Gained (state next : CommonControlState Key) (slot : Nat) : Prop where
  free : state.bs.timeslotAlloc.owners slot = none
  notPromised : state.bs.channelScheduler.isPromised slot = false
  drained : next.bs.channelScheduler.commonSlotIsDrained slot = true

/-- **What a timeslot had behind it when it was given back**: the lower number was announced in all
four timeslots of a frame 18, the longest sleep was over, and the timeslot was drained. -/
structure GivenBack (state next : CommonControlState Key) (slot : Nat) (decrease : Decrease) :
    Prop where
  history : state.decrease = some decrease
  slept : decrease.since + (max decrease.longest 72 * 4 + 16) ≤ next.now
  announced : ∀ timeslot, 1 ≤ timeslot → timeslot ≤ 4 →
    (timeslot, next.bs.commonControl.advertisedCount) ∈ decrease.announced
  drained : state.bs.channelScheduler.commonSlotIsDrained slot = true

/-- **What a step leaves alone while a decrease goes on**: what is announced, and all the channels
until they are given back together. -/
structure HoldsStill (state next : CommonControlState Key) : Prop where
  advertised : next.bs.commonControl.advertisedCount = state.bs.commonControl.advertisedCount
  channels : next.bs.commonControl.drainUntil = state.bs.commonControl.drainUntil ∧
      next.bs.commonControl.physicalCount = state.bs.commonControl.physicalCount ∧
      (∀ slot, next.bs.owns slot ↔ state.bs.owns slot) ∨
    next.bs.commonControl.drainUntil = none ∧
      ∃ decrease, ∀ slot ∈ state.bs.retiring, GivenBack state next slot decrease

/-- What one step of a reachable state does to the channels. -/
structure StepFacts (state next : CommonControlState Key) : Prop where
  gained : ∀ slot ∈ timeslots, ¬ state.bs.owns slot → next.bs.owns slot → Gained state next slot
  givenBack : ∀ slot ∈ timeslots, state.bs.owns slot → ¬ next.bs.owns slot →
    ∃ decrease, GivenBack state next slot decrease
  holdsStill : state.bs.commonControl.drainUntil.isSome → HoldsStill state next

theorem stepFacts_of_same
    (counts : next.bs.commonControl.advertisedCount = state.bs.commonControl.advertisedCount ∧
      next.bs.commonControl.physicalCount = state.bs.commonControl.physicalCount ∧
      next.bs.commonControl.drainUntil = state.bs.commonControl.drainUntil)
    (owns : ∀ slot, next.bs.owns slot ↔ state.bs.owns slot) : StepFacts state next :=
  ⟨fun slot _ before after => absurd ((owns slot).mp after) before,
    fun slot _ before after => absurd ((owns slot).mpr before) after,
    fun _ => ⟨counts.1, .inl ⟨counts.2.2, counts.2.1, owns⟩⟩⟩

/-- **What a refresh does to the channels.** -/
theorem stepFacts_tick (settled : Settled state) (stepped : state.step .tick = some next) :
    StepFacts state next := by
  obtain ⟨refreshed, now, history⟩ := tick_eq stepped
  cases refresh_cases refreshed with
  | waits channels owners =>
    refine stepFacts_of_same (by rw [channels]; exact ⟨rfl, rfl, rfl⟩) fun slot => ?_
    unfold owns
    rw [owners]
  | begins steady fewer channels owners =>
    have owns (slot : Nat) : next.bs.owns slot ↔ state.bs.owns slot := by
      unfold owns
      rw [owners]
    refine ⟨fun slot _ before after => absurd ((owns slot).mp after) before,
      fun slot _ before after => absurd ((owns slot).mpr before) after, fun draining => ?_⟩
    rw [steady] at draining
    cases draining
  | ends deadline draining expired announced drained channels owners =>
    obtain ⟨decrease, is, fits⟩ := settled.draining deadline draining
    have back (slot : Nat) (retired : slot ∈ state.bs.retiring) :
        GivenBack state next slot decrease := by
      refine ⟨is, ?_, ?_, drained slot retired⟩
      · rw [now]
        exact expired_iff fits expired
      · intro timeslot above below
        rw [channels]
        refine fits.announced timeslot above below ?_
        rw [announced]
        interval_cases timeslot <;> decide
    refine ⟨?_, ?_, fun _ => ⟨by rw [channels], .inr ⟨by rw [channels], decrease, back⟩⟩⟩
    · intro slot _ before after
      unfold owns at before after
      rw [owners] at after
      split at after
      · cases after
      · exact absurd after before
    · intro slot _ before after
      unfold owns at before after
      rw [owners] at after
      split at after
      · next gone => exact ⟨decrease, back slot gone.1⟩
      · exact absurd before after
  | adds steady more traffic free notPromised drained channels owners =>
    refine ⟨?_, ?_, fun draining => ?_⟩
    · intro slot _ before after
      unfold owns at before after
      rw [owners] at after
      split at after
      · next same =>
        rw [same]
        exact ⟨free, notPromised, drained⟩
      · exact absurd after before
    · intro slot _ before after
      unfold owns at before after
      rw [owners] at after
      split at after
      · exact absurd rfl after
      · exact absurd before after
    · rw [steady] at draining
      cases draining

theorem stepFacts_of_step (settled : Settled state) (event : CommonControlEvent Key)
    (stepped : state.step event = some next) : StepFacts state next := by
  by_cases isTick : event = .tick
  · subst isTick
    exact stepFacts_tick settled stepped
  by_cases isFinalize : ∃ hasBnch, event = .finalize hasBnch
  · obtain ⟨hasBnch, rfl⟩ := isFinalize
    obtain ⟨advertised, physical, draining, owners⟩ := finalize_channels stepped
    refine stepFacts_of_same ⟨advertised, physical, draining⟩ fun slot => ?_
    unfold owns
    rw [owners]
  · obtain ⟨same, -⟩ := untouched_of_step isTick (not_exists.mp isFinalize) stepped
    exact stepFacts_of_same (by rw [same.channels]; exact ⟨rfl, rfl, rfl⟩) same.owns

/-- **Common control channels over whole runs**: no more are announced than there are, and there are at
most three; they are the first timeslots, and nobody else's; a timeslot becomes one only when it is
free, and is given back only when every terminal had its chance to hear of it; and as long as a
decrease goes on, no step changes what is announced or gives a timeslot back on its own. -/
theorem common_control_runs {state : CommonControlState Key}
    (reachable : Reachable (commonControlMachine Key) always state) :
    (state.bs.commonControl.advertisedCount ≤ state.bs.commonControl.physicalCount ∧
      state.bs.commonControl.physicalCount ≤ 3 ∧
      ∀ slot ∈ timeslots, state.bs.owns slot ↔ slot ≤ state.bs.commonControl.physicalCount + 1) ∧
    ∀ event next, (commonControlMachine Key).step state event = some next → StepFacts state next :=
  have settled := settled_of_reachable reachable
  ⟨⟨settled.fewer, settled.few, settled.owned⟩, fun event _ stepped =>
    stepFacts_of_step settled event stepped⟩

/-! ### Two runs -/

/-- A scheduler with nothing to do. -/
def idleScheduler : DownlinkScheduler Unit where
  curDltime := fromInt 0
  ulsched := fun _ => EMPTY_SCHED_ELEM
  associatedUlsched := []
  granted := []
  ulCircuits := fun _ => false
  hangtime := fun _ => false
  packetBearers := fun _ => none
  packetBearerGenerations := fun _ => none
  pendingPacketDataGrants := []
  packetDataGrantWindows := fun _ => none
  drainingPacketBearers := []
  packetGrantRoundRobinAfter := none
  dlCircuits := fun _ => false
  dltxQueues := fun _ => []
  dltxHalfDuplexQueues := fun _ => []
  dltxNextSlotQueue := []
  assocDltxQueues := fun _ => []
  assocBestEffortQueues := fun _ => 0
  pendingRaAcks := fun _ => []
  commonScchCount := 0
  forceCommonSysinfo := false
  numOfCsch := 0
  configuredNoMinimumMode := false
  noMinimumMode := false
  txStates := fun _ => .pending
  nextReplay := 0

/-- A cell that starts with two terminals, one of which sleeps for 360 frames at a time. -/
def starting : CommonControlState Unit where
  bs := {
    commonControl := ⟨0, 0, none, 0⟩
    timeslotAlloc := .default
    commonScchCount := 0
    activeEnergyEconomies := [0, 7]
    activeIssis := [1001, 1002]
    msScch := fun _ => some 1
    hasDeliveryRoutes := fun _ => false
    eventLabels := [(5, 1001)]
    channelScheduler := idleScheduler }
  now := 0
  decrease := none

theorem starts_starting : Starts starting := ⟨rfl, fun _ => nofun, by decide, rfl, rfl⟩

/-- Two channels are added, and the operator wants them back. -/
theorem two_channels_drain : ∃ state : CommonControlState Unit,
    state.bs.commonControl.advertisedCount = 0 ∧ state.bs.commonControl.physicalCount = 2 ∧
    (∀ slot ∈ timeslots, state.bs.owns slot ↔ slot ≤ 3) ∧
    ∀ event next, (commonControlMachine Unit).step state event = some next → StepFacts state next := by
  obtain ⟨state, reached, advertised, physical⟩ := reachable_exec (fun state =>
      state.bs.commonControl.advertisedCount = 0 ∧ state.bs.commonControl.physicalCount = 2)
    [.setTarget 2, .tick, .tick, .setTarget 0, .tick]
    (show (commonControlMachine Unit).start starting from starts_starting) (by decide +kernel)
  obtain ⟨⟨-, -, owned⟩, facts⟩ := common_control_runs reached
  rw [physical] at owned
  exact ⟨state, advertised, physical, owned, facts⟩

def leftover : DlSchedElem Unit :=
  .resource { addr := some ⟨1001, .ssi⟩ } (.new 16) none (.clear .system .macResource) none

/-- The operator wants one channel, and something is queued for the free timeslot 2. -/
def queued : CommonControlState Unit :=
  { starting with
    bs := (starting.bs.setTarget 1).surround { starting.bs with
      channelScheduler := { idleScheduler with
        dltxQueues := Function.update (fun _ => []) 1 [leftover] } } }

/-- A timeslot with something queued becomes common control: what was queued goes to the main control
channel. -/
theorem queued_slot_taken : ¬ ∀ (state next : CommonControlState Unit)
    (event : CommonControlEvent Unit) (slot : Nat),
    Reachable (commonControlMachine Unit) always state →
    (commonControlMachine Unit).step state event = some next → slot ∈ timeslots →
    ¬ state.bs.owns slot → next.bs.owns slot →
    state.bs.timeslotAlloc.owners slot = none ∧
      state.bs.channelScheduler.commonSlotIsDrained slot = true := by
  intro claimed
  have run : Runs (commonControlMachine Unit) always starting queued :=
    .tail (.single ⟨.setTarget 1, trivial, rfl⟩) ⟨.surroundings _, trivial, rfl⟩
  have taken : (queued.step .tick).any (fun next =>
      next.bs.timeslotAlloc.owners 2 = some .commonControl) = true := by decide +kernel
  obtain ⟨next, stepped, owns⟩ := (Option.any_eq_true _ _).mp taken
  have owner : next.bs.timeslotAlloc.owners 2 = some .commonControl := of_decide_eq_true owns
  have drained := (claimed queued next .tick 2 ⟨starting, starts_starting, run⟩ stepped (by decide)
    nofun owner).2
  revert drained
  decide +kernel

end CommonControlState

end Bluestation
