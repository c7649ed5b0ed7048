/-
**The key of an air slot, over whole runs.**

Commands of the network and ticks of the cell come in any order while slots pass. Beside the cell
stands what was decided: the key changes whose records have been replaced, and that of the present
record. The cell's answer is compared with the key that is in force in a slot.

* `Sc2Cell.Careful` — a target within half a turn of the hyperframes, and no command that takes
  back a key change which has already come.
* `Sc2Cell.Told` — an air slot that the cell can tell: not before a change whose record is gone, and
  on the side of the present change on which its wrapped distance is.
* `careful_selects_by_air_slot` — in every careful run the cell selects the key in force.
* `rollover_misled` — three runs in which it does not.
-/

import Bluestation.Lib.Run
import Bluestation.Lib.Timeline
import Bluestation.Config.Sc2Rollover

namespace Bluestation

open Machines TdmaTime RuntimeAieConfig Option AieDirection

/-- A key change that the cell has decided. -/
structure KeyChange where
  absoluteIv : Int
  key : RuntimeSc2Aie
  scheduledAt : Int
  /-- The network time when it was decided, and its target. -/
  networkTime : Int
  target : Int

/-- A slot takes 17/1200 seconds, a unit of network time two seconds. -/
def KeyChange.NotBeforeTarget (change : KeyChange) : Prop :=
  2400 * (change.target - change.networkTime) ≤ 17 * (change.absoluteIv - change.scheduledAt)

/-- The cell, the present slot, and what was decided. -/
structure Sc2Cell where
  aie : RuntimeAieConfig
  sessions : RuntimeAieSessions
  now : Int
  /-- The key changes that have come and whose records are gone. -/
  settled : Timeline RuntimeSc2Aie
  /-- The key change of the present record. -/
  plan : Option KeyChange

inductive Sc2Event where
  | stage (rolloverId : Nat) (active : RuntimeSc2Binding) (future : RuntimeSc2Aie)
      (activationNetworkTime : Nat)
  | cancel (rolloverId : Nat)
  | schedule (currentNetworkTime : Nat)
  | activate
  | elapse (slots : Nat)

def AieDirection.grace : AieDirection → Int
  | uplink => 2
  | downlink => 0

namespace Sc2Cell

def timeline (cell : Sc2Cell) : Timeline RuntimeSc2Aie :=
  match cell.plan with
  | none => cell.settled
  | some change => cell.settled.change change.absoluteIv change.key

/-- **The key in force** in an air slot. -/
def keyAt (cell : Sc2Cell) (direction : AieDirection) (slot : Int) : RuntimeSc2Aie :=
  cell.timeline.valueAt (slot - direction.grace)

/-- The record goes; its key change stays if it has come. -/
def retire (cell : Sc2Cell) : Sc2Cell :=
  match cell.plan with
  | none => cell
  | some change =>
    { cell with
      settled := if change.absoluteIv ≤ cell.now then cell.settled.change change.absoluteIv change.key
        else cell.settled
      plan := none }

/-- The key change that a tick decides on, if the record awaits one. -/
def decided (cell : Sc2Cell) (currentNetworkTime : Nat) : Option KeyChange := do
  let rollover ← cell.aie.rollover
  let current ← tetraNetworkTimeUnits currentNetworkTime
  let target ← tetraNetworkTimeUnits rollover.activationNetworkTime
  some ⟨sysinfoSlot (cell.now + slotsUntil current target), rollover.future, cell.now, current,
    target⟩

def step (cell : Sc2Cell) : Sc2Event → Option Sc2Cell
  | .stage rolloverId active future activationNetworkTime =>
    match cell.aie.stageRollover rolloverId active future activationNetworkTime with
    | .error _ => some cell
    | .ok aie =>
      if cell.aie.rollover.any (·.rolloverId = rolloverId) then some { cell with aie }
      else some { cell.retire with aie }
  | .cancel rolloverId =>
    match cell.aie.cancelStagedRollover rolloverId with
    | (aie, true) => some { cell.retire with aie }
    | (aie, false) => some { cell with aie }
  | .schedule currentNetworkTime =>
    match cell.aie.scheduleRolloverAbsoluteIv currentNetworkTime (fromInt cell.now) with
    | .error _ => none
    | .ok (aie, some _) => some { cell with aie, plan := cell.decided currentNetworkTime }
    | .ok (aie, none) => some { cell with aie }
  | .activate =>
    let (aie, sessions, _) := cell.aie.activateRolloverIfDue cell.sessions (fromInt cell.now)
    some { cell with aie, sessions }
  | .elapse slots => some { cell with now := cell.now + slots }

def init (now : Int) (sessions : RuntimeAieSessions) (key : RuntimeSc2Aie) : Sc2Cell :=
  ⟨⟨true, some key, none⟩, sessions, now, ⟨key, []⟩, none⟩

def machine : Machine Sc2Cell Sc2Event where
  start cell := ∃ now sessions key, cell = init now sessions key
  step := step

def halfTurn : Int := timeIntWrap / 2

/-! ### What is asked of a run, and of an air slot -/

/-- The key change of the present record has not come, or has taken place. -/
def Replaceable (cell : Sc2Cell) : Prop :=
  ∀ rollover ∈ cell.aie.rollover, rollover.activated = false →
    ∀ change ∈ cell.plan, cell.now < change.absoluteIv

instance (cell : Sc2Cell) : Decidable cell.Replaceable := by
  unfold Replaceable
  infer_instance

/-- A target is less than half a turn ahead, and only a key change that has not come is taken
back. -/
def Careful (cell : Sc2Cell) : Sc2Event → Prop
  | .stage rolloverId active future activationNetworkTime =>
    (cell.aie.stageRollover rolloverId active future activationNetworkTime).isOk →
      cell.aie.rollover.any (·.rolloverId = rolloverId) = false → cell.Replaceable
  | .cancel rolloverId => (cell.aie.cancelStagedRollover rolloverId).2 = true → cell.Replaceable
  | .schedule currentNetworkTime =>
    ∀ change ∈ cell.decided currentNetworkTime, change.absoluteIv ≤ cell.now + halfTurn
  | _ => True

instance : ∀ (cell : Sc2Cell) (event : Sc2Event), Decidable (cell.Careful event)
  | cell, .stage rolloverId active future activationNetworkTime => by
    unfold Careful
    infer_instance
  | cell, .cancel rolloverId => by
    unfold Careful
    infer_instance
  | cell, .schedule currentNetworkTime => by
    unfold Careful
    infer_instance
  | _, .activate => .isTrue trivial
  | _, .elapse _ => .isTrue trivial

/-- An air slot that the cell can tell from what it keeps: the records of all key changes behind
which it does not lie are still there, and its distance from the present one, brought into half a
turn, has the right sign. -/
def Told (cell : Sc2Cell) (direction : AieDirection) (slot : Int) : Prop :=
  (∀ change ∈ cell.settled.changes, change.1 + direction.grace ≤ slot) ∧
    ∀ change ∈ cell.plan, (fromInt change.absoluteIv).age (fromInt slot) < direction.grace ↔
      slot < change.absoluteIv + direction.grace

/-- **The cell selects the key in force**, in every slot of which `asked` holds. -/
def SelectsKey (cell : Sc2Cell) (asked : AieDirection → Int → Prop) : Prop :=
  ∀ direction slot, asked direction slot →
    cell.aie.sc2ForAirTime direction (fromInt slot) = .ok (cell.keyAt direction slot)

/-- **No key is promoted before its target**, nor before the slot that was decided on. -/
def NotEarly (cell : Sc2Cell) : Prop :=
  ∀ rollover ∈ cell.aie.rollover, rollover.activated = true →
    ∃ change ∈ cell.plan, change.key = rollover.future ∧ change.absoluteIv ≤ cell.now ∧
      some change.target = tetraNetworkTimeUnits rollover.activationNetworkTime ∧
      change.NotBeforeTarget

/-! ### The phases of a rollover -/

/-- A key change as a tick decides on it for a record. -/
structure Planned (now : Int) (rollover : RuntimeSc2Rollover) (change : KeyChange) : Prop where
  time : rollover.localActivationTdma = some (fromInt change.absoluteIv)
  key : change.key = rollover.future
  target : some change.target = tetraNetworkTimeUnits rollover.activationNetworkTime
  notBefore : change.NotBeforeTarget
  near : change.absoluteIv ≤ now + halfTurn

/-- What the cell keeps in each phase; `last` is the key in force before the present record's. -/
inductive Phase (last : RuntimeSc2Aie) (now : Int) :
    Option RuntimeSc2Rollover → Option RuntimeSc2Aie → Option KeyChange → Prop where
  | idle : Phase last now none (some last) none
  | staged {rollover : RuntimeSc2Rollover} (waiting : rollover.activated = false)
      (unscheduled : rollover.localActivationTdma = none) : Phase last now (some rollover) (some last) none
  | scheduled {rollover : RuntimeSc2Rollover} {change : KeyChange}
      (waiting : rollover.activated = false) (planned : Planned now rollover change) :
      Phase last now (some rollover) (some last) (some change)
  | activated {rollover : RuntimeSc2Rollover} {change : KeyChange} {expiry : TdmaTime}
      (active : rollover.activated = true) (planned : Planned now rollover change)
      (reached : change.absoluteIv ≤ now) (retired : rollover.retiredRx = some (last, expiry)) :
      Phase last now (some rollover) (some rollover.future) (some change)

/-- What careful steps keep. -/
structure Sound (cell : Sc2Cell) : Prop where
  enabled : cell.aie.enabled = true
  past : ∀ change ∈ cell.settled.changes, change.1 ≤ cell.now
  phase : Phase cell.settled.last cell.now cell.aie.rollover cell.aie.sc2 cell.plan

theorem sound_init (now : Int) (sessions : RuntimeAieSessions) (key : RuntimeSc2Aie) :
    (init now sessions key).Sound :=
  ⟨rfl, fun _ member => (nomatch member), .idle⟩

variable {now : Int} {rollover : RuntimeSc2Rollover} {change : KeyChange}
  {last future : RuntimeSc2Aie} {sc2 : Option RuntimeSc2Aie} {cell next : Sc2Cell}
  {aie : RuntimeAieConfig} {rolloverId activationNetworkTime : Nat}

theorem Planned.later {later : Int} (planned : Planned now rollover change) (passed : now ≤ later) :
    Planned later rollover change :=
  { planned with near := planned.near.trans (Int.add_le_add_right passed _) }

variable {plan : Option KeyChange}

theorem Phase.later {later : Int} {rollover : Option RuntimeSc2Rollover}
    (phase : Phase last now rollover sc2 plan) (passed : now ≤ later) :
    Phase last later rollover sc2 plan := by
  cases phase with
  | idle => exact .idle
  | staged waiting unscheduled => exact .staged waiting unscheduled
  | scheduled waiting planned => exact .scheduled waiting (planned.later passed)
  | activated active planned reached retired =>
    exact .activated active (planned.later passed) (reached.trans passed) retired

theorem Phase.sc2_isSome {rollover : Option RuntimeSc2Rollover}
    (phase : Phase last now rollover sc2 plan) : ∃ active, sc2 = some active := by
  cases phase with
  | idle => exact ⟨_, rfl⟩
  | staged _ _ => exact ⟨_, rfl⟩
  | scheduled _ _ => exact ⟨_, rfl⟩
  | activated _ _ _ _ => exact ⟨_, rfl⟩

/-! ### One step -/

/-- **The record goes**: what has come is settled, and the active key is the last one. -/
theorem Sound.retire (sound : cell.Sound) (replaceable : cell.Replaceable) :
    cell.retire.now = cell.now ∧ cell.retire.plan = none ∧
      (∀ change ∈ cell.retire.settled.changes, change.1 ≤ cell.now) ∧
      cell.aie.sc2 = some cell.retire.settled.last := by
  obtain ⟨enabled, past, phase⟩ := sound
  unfold Sc2Cell.retire
  unfold Replaceable at replaceable
  generalize cell.aie.rollover = rollover at phase replaceable
  generalize cell.aie.sc2 = sc2 at phase ⊢
  generalize same : cell.plan = plan at phase replaceable
  cases phase with
  | idle => exact ⟨rfl, same, past, rfl⟩
  | staged waiting unscheduled => exact ⟨rfl, same, past, rfl⟩
  | scheduled waiting planned =>
    have ahead := replaceable _ rfl waiting _ rfl
    dsimp only
    rw [if_neg (not_le.mpr ahead)]
    exact ⟨rfl, rfl, past, rfl⟩
  | activated active planned reached retired =>
    dsimp only
    rw [if_pos reached]
    refine ⟨rfl, rfl, fun change member => ?_, by rw [Timeline.last_change, planned.key]⟩
    rcases List.mem_append.mp member with before | now
    · exact past change before
    · rw [List.mem_singleton.mp now]
      exact reached

theorem stageFuture_ok {next : RuntimeAieConfig} {current : RuntimeSc2Aie}
    (staged : aie.stageFuture current rolloverId future activationNetworkTime = .ok next) :
    next = { aie with
      rollover := some ⟨rolloverId, activationNetworkTime, none, false, future, none⟩ } := by
  unfold stageFuture at staged
  split at staged
  · contradiction
  split at staged
  · contradiction
  split at staged
  · contradiction
  cases staged
  rfl

variable {active : RuntimeSc2Binding}

theorem stageRollover_ok {next : RuntimeAieConfig}
    (staged : aie.stageRollover rolloverId active future activationNetworkTime = .ok next) :
    (aie.rollover.any (·.rolloverId = rolloverId) = true ∧ next = aie) ∨
      (aie.rollover.any (·.rolloverId = rolloverId) = false ∧
        next = { aie with
          rollover := some ⟨rolloverId, activationNetworkTime, none, false, future, none⟩ }) := by
  unfold stageRollover at staged
  split at staged
  · contradiction
  split at staged
  · contradiction
  split at staged
  · contradiction
  split at staged
  next absent =>
    rw [absent]
    exact .inr ⟨rfl, stageFuture_ok staged⟩
  next existing is =>
    rw [is]
    split at staged
    next same =>
      split at staged
      · contradiction
      · cases staged
        exact .inl ⟨by simpa using same, rfl⟩
    next different =>
      split at staged
      · contradiction
      · exact .inr ⟨by simpa using different, stageFuture_ok staged⟩

theorem sound_stage (sound : cell.Sound)
    (careful : cell.Careful (.stage rolloverId active future activationNetworkTime))
    (stepped : cell.step (.stage rolloverId active future activationNetworkTime) = some next) :
    next.Sound := by
  unfold step at stepped
  unfold Careful at careful
  dsimp only at stepped careful
  cases staged : cell.aie.stageRollover rolloverId active future activationNetworkTime with
  | error refused =>
    rw [staged] at stepped
    cases stepped
    exact sound
  | ok aie =>
    rw [staged] at stepped careful
    obtain ⟨same, rfl⟩ | ⟨fresh, rfl⟩ := stageRollover_ok staged
    · dsimp only at stepped
      rw [if_pos same] at stepped
      cases stepped
      exact sound
    · dsimp only at stepped
      rw [if_neg (by rw [fresh]; decide)] at stepped
      cases stepped
      obtain ⟨now, plan, past, last⟩ := sound.retire (careful rfl fresh)
      refine ⟨sound.enabled, ?_, ?_⟩
      · rw [now]
        exact past
      · rw [last, plan]
        exact .staged rfl rfl

theorem sound_cancel (sound : cell.Sound) (careful : cell.Careful (.cancel rolloverId))
    (stepped : cell.step (.cancel rolloverId) = some next) : next.Sound := by
  unfold step cancelStagedRollover at stepped
  unfold Careful cancelStagedRollover at careful
  dsimp only at stepped careful
  split at stepped
  next aie cancelled =>
    split at cancelled
    next holds =>
      rw [if_pos holds] at careful
      cases cancelled
      cases stepped
      obtain ⟨now, plan, past, last⟩ := sound.retire (careful rfl)
      refine ⟨sound.enabled, ?_, ?_⟩
      · rw [now]
        exact past
      · rw [last, plan]
        exact .idle
    · cases cancelled
  next aie cancelled =>
    split at cancelled
    · cases cancelled
    · cases cancelled
      cases stepped
      exact sound

theorem slotsUntil_enough (current target : Int) :
    2400 * (target - current) ≤ 17 * slotsUntil current target := by
  unfold slotsUntil
  omega

variable {currentNetworkTime : Nat}

/-- What a tick schedules: nothing, or the key change that was decided. -/
theorem schedule_ok {result : Option (Nat × TdmaTime)}
    (scheduled : cell.aie.scheduleRolloverAbsoluteIv currentNetworkTime (fromInt cell.now) =
      .ok (aie, result)) :
    (result = none ∧ aie = cell.aie) ∨
    ∃ rollover change, cell.aie.rollover = some rollover ∧ rollover.activated = false ∧
      cell.decided currentNetworkTime = some change ∧ result.isSome ∧
      change.key = rollover.future ∧ change.NotBeforeTarget ∧
      some change.target = tetraNetworkTimeUnits rollover.activationNetworkTime ∧
      aie = { cell.aie with
        rollover := some { rollover with
          localActivationTdma := some (fromInt change.absoluteIv) } } := by
  unfold scheduleRolloverAbsoluteIv at scheduled
  split at scheduled
  · cases scheduled
    exact .inl ⟨rfl, rfl⟩
  rename_i rollover is
  split at scheduled
  · cases scheduled
    exact .inl ⟨rfl, rfl⟩
  rename_i awaits
  split at scheduled
  next current target isCurrent isTarget =>
    dsimp only at scheduled
    split at scheduled
    · cases scheduled
      exact .inl ⟨rfl, rfl⟩
    obtain ⟨_, -, scheduled⟩ := bind_eq_ok.mp scheduled
    rw [addTimeslots_fromInt, forwardToSc2SecuritySysinfo_fromInt] at scheduled
    cases scheduled
    have decided : cell.decided currentNetworkTime =
        some ⟨sysinfoSlot (cell.now + slotsUntil current target), rollover.future, cell.now,
          current, target⟩ := by
      unfold Sc2Cell.decided
      rw [is, isCurrent]
      dsimp only [bind, Option.bind]
      rw [isTarget]
    refine .inr ⟨rollover, _, is, ?_, decided, rfl, rfl, ?_, isTarget.symm, rfl⟩
    · simpa using fun active => awaits (.inl active)
    · have near := sysinfoSlot_near (cell.now + slotsUntil current target)
      have enough := slotsUntil_enough current target
      show 2400 * (target - current) ≤ 17 * (sysinfoSlot _ - cell.now)
      omega
  · cases scheduled
    exact .inl ⟨rfl, rfl⟩

theorem sound_schedule (sound : cell.Sound) (careful : cell.Careful (.schedule currentNetworkTime))
    (stepped : cell.step (.schedule currentNetworkTime) = some next) : next.Sound := by
  unfold step at stepped
  dsimp only at stepped
  cases scheduled : cell.aie.scheduleRolloverAbsoluteIv currentNetworkTime (fromInt cell.now) with
  | error fault =>
    rw [scheduled] at stepped
    contradiction
  | ok both =>
    obtain ⟨aie, result⟩ := both
    rw [scheduled] at stepped
    obtain ⟨rfl, rfl⟩ | ⟨rollover, change, is, waiting, decided, given, key, notBefore, target,
      rfl⟩ := schedule_ok scheduled
    · cases stepped
      exact sound
    · obtain ⟨_, rfl⟩ := isSome_iff_exists.mp given
      cases stepped
      have phase := sound.phase
      rw [is] at phase
      refine ⟨sound.enabled, sound.past, ?_⟩
      have planned : Planned cell.now { rollover with
          localActivationTdma := some (fromInt change.absoluteIv) } change :=
        ⟨rfl, key, target, notBefore, careful change decided⟩
      rw [decided]
      generalize cell.aie.sc2 = sc2 at phase
      generalize cell.plan = plan at phase
      cases phase with
      | staged _ _ => exact .scheduled waiting planned
      | scheduled _ _ => exact .scheduled waiting planned
      | activated active _ _ _ =>
        rw [waiting] at active
        contradiction

theorem age_of_near {first second : Int} (low : first - halfTurn ≤ second)
    (high : second < first + halfTurn) : (fromInt first).age (fromInt second) = second - first := by
  rw [age, diff, toInt_fromInt, toInt_fromInt, timeIntDiff]
  simp only [halfTurn, timeIntWrap] at low high ⊢
  omega

/-- **A key is promoted only when its slot has come.** -/
theorem reached_of_isDue (planned : Planned now rollover change)
    (due : rollover.isDue (fromInt now) = true) : change.absoluteIv ≤ now := by
  unfold RuntimeSc2Rollover.isDue at due
  rw [planned.time, Bool.and_eq_true] at due
  have aged := of_decide_eq_true due.2
  by_contra early
  have near := planned.near
  rw [age_of_near (by omega) (by rw [halfTurn, timeIntWrap]; omega)] at aged
  omega

theorem sound_activate (sound : cell.Sound) (stepped : cell.step .activate = some next) :
    next.Sound := by
  obtain ⟨enabled, past, phase⟩ := sound
  cases stepped
  generalize is : cell.aie.rollover = record at phase
  cases record with
  | none =>
    exact ⟨enabled, past, by rw [is]; exact phase⟩
  | some rollover =>
    dsimp only
    by_cases due : rollover.isDue (fromInt cell.now) = true
    · rw [if_pos due]
      obtain ⟨old, active⟩ := phase.sc2_isSome
      rw [active] at phase ⊢
      refine ⟨enabled, past, ?_⟩
      generalize cell.plan = plan at phase ⊢
      have waiting : rollover.activated = false := by
        simpa using (Bool.and_eq_true_iff.mp due).1
      cases phase with
      | staged _ unscheduled =>
        unfold RuntimeSc2Rollover.isDue at due
        rw [unscheduled] at due
        simp at due
      | scheduled _ planned =>
        exact .activated rfl ⟨planned.time, planned.key, planned.target, planned.notBefore,
          planned.near⟩ (reached_of_isDue planned due) rfl
      | activated isActive _ _ _ =>
        rw [waiting] at isActive
        contradiction
    · rw [if_neg due]
      exact ⟨enabled, past, by rw [is]; exact phase⟩

/-- **A careful step keeps it.** -/
theorem sound_step {event : Sc2Event} (sound : cell.Sound) (careful : cell.Careful event)
    (stepped : cell.step event = some next) : next.Sound := by
  cases event with
  | stage rolloverId active future activationNetworkTime =>
    exact sound_stage sound careful stepped
  | cancel rolloverId => exact sound_cancel sound careful stepped
  | schedule currentNetworkTime => exact sound_schedule sound careful stepped
  | activate => exact sound_activate sound stepped
  | elapse slots =>
    cases stepped
    have passed : cell.now ≤ cell.now + slots := by omega
    exact ⟨sound.enabled, fun change member => (sound.past change member).trans passed,
      sound.phase.later passed⟩

theorem reachable_sound (reachable : Reachable machine Careful cell) : cell.Sound := by
  refine reachable.invariant (fun first started => ?_)
    fun _ _ _ sound careful stepped => sound_step sound careful stepped
  obtain ⟨now, sessions, key, rfl⟩ := started
  exact sound_init now sessions key

/-! ### The key of an air slot -/

/-- What the record answers, from the side of the key change on which a slot lies. -/
theorem sc2Around_of_phase {active : RuntimeSc2Aie}
    (phase : Phase last now (some rollover) (some active) (some change)) (direction : AieDirection)
    (slots : Int) :
    sc2Around active rollover direction slots =
      .ok (if slots < direction.grace then last else change.key) := by
  generalize same : some active = sc2 at phase
  unfold sc2Around retiredKey
  cases phase with
  | scheduled waiting planned =>
    cases same
    rw [planned.key, if_neg (by rw [waiting]; simp)]
    cases direction with
    | downlink =>
      by_cases before : slots < 0
      · simp [grace, before, not_le.mpr before]
      · simp [grace, before, not_lt.mp before]
    | uplink =>
      by_cases before : slots < 2
      · simp [grace, waiting, before, not_le.mpr before]
      · simp [grace, waiting, before, not_lt.mp before]
  | activated isActive planned reached retired =>
    cases same
    rw [planned.key, isActive, retired]
    cases direction with
    | downlink =>
      by_cases before : slots < 0
      · simp [grace, before]
      · simp [grace, before]
    | uplink =>
      by_cases before : slots < 0
      · have less : slots < 2 := by omega
        simp [grace, before, less]
      · by_cases soon : slots < 2
        · simp [grace, before, soon, not_lt.mp before]
        · simp [grace, before, soon]

variable {record : Option RuntimeSc2Rollover}

theorem Phase.planned (phase : Phase last now record sc2 (some change)) :
    ∃ rollover, record = some rollover ∧ Planned now rollover change := by
  cases phase with
  | scheduled _ planned => exact ⟨_, rfl, planned⟩
  | activated _ planned _ _ => exact ⟨_, rfl, planned⟩

theorem Phase.unplanned (phase : Phase last now record sc2 none) :
    sc2 = some last ∧ ∀ rollover ∈ record, rollover.localActivationTdma = none := by
  cases phase with
  | idle => exact ⟨rfl, fun _ member => (nomatch member)⟩
  | staged _ unscheduled =>
    refine ⟨rfl, fun rollover member => ?_⟩
    cases member
    exact unscheduled

theorem sc2ForAirTime_eq {active : RuntimeSc2Aie} (looked : aie.activeSc2 = .ok active)
    (direction : AieDirection) (time : TdmaTime) :
    aie.sc2ForAirTime direction time =
      match aie.rollover.bind fun rollover =>
        rollover.localActivationTdma.map fun activation => (rollover, activation) with
      | none => .ok active
      | some (rollover, activation) =>
        sc2Around active rollover direction (activation.age time) := by
  unfold sc2ForAirTime
  rw [looked]
  cases aie.rollover with
  | none => rfl
  | some rollover =>
    dsimp only [Option.bind]
    cases rollover.localActivationTdma <;> rfl

/-- **The cell selects the key in force** in every slot that it can tell. -/
theorem Sound.selectsKey (sound : cell.Sound) : cell.SelectsKey cell.Told := by
  intro direction slot told
  obtain ⟨settled, near⟩ := told
  obtain ⟨enabled, past, phase⟩ := sound
  have before : cell.settled.valueAt (slot - direction.grace) = cell.settled.last :=
    Timeline.valueAt_of_past fun change member => by
      have told := settled change member
      omega
  obtain ⟨active, isActive⟩ := phase.sc2_isSome
  have looked : cell.aie.activeSc2 = .ok active := by
    unfold activeSc2
    rw [enabled, isActive]
  rw [sc2ForAirTime_eq looked]
  unfold keyAt timeline
  rw [isActive] at phase
  cases decided : cell.plan with
  | none =>
    rw [decided] at phase
    obtain ⟨isLast, unscheduled⟩ := phase.unplanned
    obtain rfl := some_inj.mp isLast
    have nothing : (cell.aie.rollover.bind fun rollover =>
        rollover.localActivationTdma.map fun activation => (rollover, activation)) = none := by
      rw [bind_eq_none_iff]
      intro rollover is
      rw [unscheduled rollover is, map_none]
    rw [nothing, before]
  | some change =>
    rw [decided] at phase
    obtain ⟨rollover, is, planned⟩ := phase.planned
    rw [is] at phase
    have told := near change decided
    rw [is, bind_some, planned.time, map_some]
    dsimp only
    rw [sc2Around_of_phase phase, Timeline.valueAt_change, before]
    by_cases early : slot < change.absoluteIv + direction.grace
    · rw [if_pos (told.mpr early), if_neg (by omega)]
    · rw [if_neg (fun less => early (told.mp less)), if_pos (by omega)]

/-- **No key is promoted early.** -/
theorem Sound.notEarly (sound : cell.Sound) : cell.NotEarly := by
  intro rollover is activated
  have phase := sound.phase
  rw [show cell.aie.rollover = some rollover from is] at phase
  generalize cell.aie.sc2 = sc2 at phase
  generalize decided : cell.plan = plan at phase
  cases phase with
  | staged waiting _ =>
    rw [waiting] at activated
    contradiction
  | scheduled waiting _ =>
    rw [waiting] at activated
    contradiction
  | activated _ planned reached _ =>
    exact ⟨_, rfl, planned.key, reached, planned.target, planned.notBefore⟩

/-- **In every careful run the cell selects the key in force**, in every air slot that it can tell,
and promotes no key before its target. -/
theorem careful_selects_by_air_slot {cell : Sc2Cell} (reachable : Reachable machine Careful cell) :
    cell.SelectsKey cell.Told ∧ cell.NotEarly :=
  ⟨(reachable_sound reachable).selectsKey, (reachable_sound reachable).notEarly⟩

/-! ### Runs of one cell -/

def numberedKey (sckn : Fin 32) (sckVn : BitVec 16) : RuntimeSc2Aie :=
  ⟨.tea3, sckn, sckVn, 0, by omega⟩

def oldKey : RuntimeSc2Aie := numberedKey 3 4

def newKey : RuntimeSc2Aie := numberedKey 4 5

def oldCell : Sc2Cell := init 0 ⟨[], []⟩ oldKey

def networkTime (units : Nat) : Nat := units * 2 ^ 24

/-- The new key is announced for two seconds later; its slot is 156, in frame 4 of the third
multiframe. -/
def announced : List Sc2Event :=
  [.stage 1 (.fromSc2 oldKey) newKey (networkTime 1), .schedule (networkTime 0), .elapse 156]

/-- A slot before and a slot after the key change, told by the cell when the change has come. -/
theorem careful_selects_by_air_slot_announced : ∃ cell : Sc2Cell, cell.aie.sc2 = some newKey ∧
      cell.aie.sc2ForAirTime .downlink (fromInt 155) = .ok (cell.keyAt .downlink 155) ∧
      cell.aie.sc2ForAirTime .uplink (fromInt 158) = .ok (cell.keyAt .uplink 158) ∧
      cell.NotEarly := by
  have ran : (execPermitted machine (fun cell event => decide (cell.Careful event)) oldCell
      (announced ++ [.activate])).any (fun cell => decide (cell.aie.sc2 = some newKey ∧
        cell.settled.changes = [] ∧ cell.plan.map (·.absoluteIv) = some 156)) = true := by
    decide +kernel
  obtain ⟨cell, executed, result⟩ := (any_eq_true _ _).mp ran
  obtain ⟨active, unsettled, decided⟩ := of_decide_eq_true result
  have reachable : Reachable machine Careful cell :=
    ⟨oldCell, ⟨_, _, _, rfl⟩, execPermitted_runs (fun _ _ => of_decide_eq_true) executed⟩
  obtain ⟨selects, notEarly⟩ := careful_selects_by_air_slot reachable
  have told : ∀ direction slot, 155 ≤ slot → slot ≤ 158 → cell.Told direction slot := by
    intro direction slot low high
    refine ⟨fun change member => ?_, fun change is => ?_⟩
    · rw [unsettled] at member
      contradiction
    · rw [show cell.plan = some change from is, map_some, some_inj] at decided
      rw [decided, age_of_near (by rw [halfTurn, timeIntWrap]; omega)
        (by rw [halfTurn, timeIntWrap]; omega)]
      omega
  exact ⟨cell, active, selects _ _ (told _ _ le_rfl (by decide)),
    selects _ _ (told _ _ (by decide) le_rfl), notEarly⟩

/-- A cell in a slot answers with one key where another is in force. -/
def Misled (cell : Sc2Cell) (slot : Int) (answer inForce : RuntimeSc2Aie) : Bool :=
  decide ((cell.aie.sc2ForAirTime .downlink (fromInt slot)).toOption = some answer ∧
    cell.keyAt .downlink slot = inForce)

theorem not_selectsKey_of_misled {slot : Int} {answer inForce : RuntimeSc2Aie}
    (misled : cell.Misled slot answer inForce = true) (different : answer ≠ inForce) :
    ¬ cell.SelectsKey fun _ _ => True := by
  intro selects
  obtain ⟨answered, key⟩ := of_decide_eq_true misled
  rw [selects .downlink slot trivial, key] at answered
  exact different (some_inj.mp answered).symm

/-- **The cell is misled** half a turn after a key change, when the next one is staged, and when a
key change that has come is cancelled; and a target half a turn ahead takes effect at once. -/
theorem rollover_misled :
    (∃ cell, Reachable machine always cell ∧ ¬ (cell.SelectsKey fun _ _ => True) ∧
      cell.Misled (156 + halfTurn) oldKey newKey = true) ∧
    (∃ cell, Reachable machine always cell ∧ ¬ (cell.SelectsKey fun _ _ => True) ∧
      cell.Misled 155 newKey oldKey = true) ∧
    (∃ cell, Reachable machine always cell ∧ ¬ (cell.SelectsKey fun _ _ => True) ∧
      cell.Misled 156 oldKey newKey = true) ∧
    ∃ cell, Reachable machine always cell ∧ cell.aie.sc2 = some newKey ∧ ¬ cell.NotEarly := by
  have start : machine.start oldCell := ⟨_, _, _, rfl⟩
  refine ⟨?_, ?_, ?_, ?_⟩
  · obtain ⟨cell, run, misled⟩ := reachable_exec (·.Misled (156 + halfTurn) oldKey newKey = true)
      (announced ++ [.activate]) start (by decide +kernel)
    exact ⟨cell, run, not_selectsKey_of_misled misled (by decide), misled⟩
  · obtain ⟨cell, run, misled⟩ := reachable_exec (·.Misled 155 newKey oldKey = true)
      (announced ++ [.activate, .stage 2 (.fromSc2 newKey) (numberedKey 5 6) (networkTime 2)]) start
      (by decide +kernel)
    exact ⟨cell, run, not_selectsKey_of_misled misled (by decide), misled⟩
  · obtain ⟨cell, run, misled⟩ := reachable_exec (·.Misled 156 oldKey newKey = true)
      (announced ++ [.cancel 1]) start (by decide +kernel)
    exact ⟨cell, run, not_selectsKey_of_misled misled (by decide), misled⟩
  · obtain ⟨cell, run, active, now, activated, ahead⟩ := reachable_exec
      (fun cell => cell.aie.sc2 = some newKey ∧ cell.now = 0 ∧
        cell.aie.rollover.map (·.activated) = some true ∧ ∀ change ∈ cell.plan, 0 < change.absoluteIv)
      [.stage 1 (.fromSc2 oldKey) newKey (networkTime 1296000), .schedule (networkTime 0), .activate]
      start (by decide +kernel)
    refine ⟨cell, run, active, fun notEarly => ?_⟩
    obtain ⟨rollover, is, isActivated⟩ := map_eq_some_iff.mp activated
    obtain ⟨change, decided, -, reached, -, -⟩ := notEarly rollover is isActivated
    have less := ahead change decided
    omega

end Sc2Cell

end Bluestation
