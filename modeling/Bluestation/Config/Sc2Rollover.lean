/-
**Rolling over the key of security class 2.**

The network announces a future key and a target in network time. The cell derives from it the slot
at which the key changes, promotes the key when that slot has come, and selects a key for the slot
in which a block is on the air.

* `stageRollover`, `cancelStagedRollover` — the commands of the network.
* `scheduleRolloverAbsoluteIv`, `activateRolloverIfDue` — what the cell does at a tick.
* `sc2ForAirTime` — the key of an air slot.

The slot of a key change is one of those that broadcast the key's identity:

-/

import Bluestation.Umac.UplinkReceiver

namespace Bluestation

open Bits

/-! ### Network time -/

def daysOfYear (year : Nat) : Int :=
  if year % 4 = 0 ∧ (year % 100 ≠ 0 ∨ year % 400 = 0) then 366 else 365

/-- A packed network time in units of two seconds since the year 2000. -/
def tetraNetworkTimeUnits (value : Nat) : Option Int :=
  if value < 2 ^ 48 then
    let years := value / 2 ^ 11 % 2 ^ 6
    let daysBeforeYear := ((List.range years).map fun year => daysOfYear (2000 + year)).sum
    some (daysBeforeYear * 43200 + (value / 2 ^ 24 : Nat))
  else none

/-- The slots until a target, rounded up; none if it has passed. -/
def slotsUntil (current target : Int) : Int := (max (target - current) 0 * 2400 + 16) / 17

namespace TdmaTime

/-- The slots of timeslot 1 that broadcast the identity of the key. -/
def isSc2SecuritySysinfoOpportunity (time : TdmaTime) : Bool :=
  time.t = 1 && (time.f = 4 || time.f = 8 || time.f = 12 || time.f = 16)

def seekSc2SecuritySysinfo : (turns : Nat) → TdmaTime → Except Fault TdmaTime
  | 0, _ => throw .panic
  | turns + 1, time =>
    if time.isSc2SecuritySysinfoOpportunity then pure time
    else seekSc2SecuritySysinfo turns (time.addTimeslots 1)

def forwardToSc2SecuritySysinfo (time : TdmaTime) : Except Fault TdmaTime :=
  seekSc2SecuritySysinfo (18 * 4) time

/-- The first slot at or after a slot that broadcasts key identities: those of timeslot 1 in the
frames 4, 8, 12 and 16. -/
def sysinfoSlot (slot : Int) : Int :=
  let place := slot % 72
  slot + (if place ≤ 12 then 12 - place else if place ≤ 28 then 28 - place
    else if place ≤ 44 then 44 - place else if place ≤ 60 then 60 - place else 84 - place)

theorem sysinfoSlot_near (slot : Int) : slot ≤ sysinfoSlot slot ∧ sysinfoSlot slot < slot + 24 := by
  unfold sysinfoSlot
  dsimp only
  split_ifs <;> omega

theorem isSc2SecuritySysinfoOpportunity_fromInt (slot : Int) :
    (fromInt slot).isSc2SecuritySysinfoOpportunity = decide (sysinfoSlot slot = slot) := by
  have timeslot := t_fromInt slot
  have frame := f_fromInt slot
  unfold isSc2SecuritySysinfoOpportunity sysinfoSlot
  rw [Bool.eq_iff_iff]
  simp only [Bool.and_eq_true, Bool.or_eq_true, decide_eq_true_eq]
  split_ifs <;> omega

theorem sysinfoSlot_succ {slot : Int} (passes : sysinfoSlot slot ≠ slot) :
    sysinfoSlot (slot + 1) = sysinfoSlot slot := by
  unfold sysinfoSlot at passes ⊢
  dsimp only at passes ⊢
  split_ifs at passes ⊢ <;> omega

theorem seekSc2SecuritySysinfo_fromInt (turns : Nat) {slot : Int}
    (enough : sysinfoSlot slot < slot + turns) :
    seekSc2SecuritySysinfo turns (fromInt slot) = .ok (fromInt (sysinfoSlot slot)) := by
  induction turns generalizing slot with
  | zero =>
    have near := sysinfoSlot_near slot
    omega
  | succ turns ih =>
    unfold seekSc2SecuritySysinfo
    rw [isSc2SecuritySysinfoOpportunity_fromInt]
    by_cases here : sysinfoSlot slot = slot
    · rw [here, if_pos (decide_eq_true rfl)]
      rfl
    · rw [if_neg (by simpa using here), addTimeslots_fromInt, ← sysinfoSlot_succ here]
      apply ih
      rw [sysinfoSlot_succ here]
      omega

/-- **The next slot that broadcasts key identities is found.** -/
theorem forwardToSc2SecuritySysinfo_fromInt (slot : Int) :
    (fromInt slot).forwardToSc2SecuritySysinfo = .ok (fromInt (sysinfoSlot slot)) := by
  have near := sysinfoSlot_near slot
  exact seekSc2SecuritySysinfo_fromInt _ (by omega)

end TdmaTime

/-! ### Keys and the state of a rollover -/

inductive AieAlgorithm where
  | tea1 | tea3
deriving DecidableEq

inductive AieDirection where
  | uplink | downlink
deriving DecidableEq

/-- A key with its identity; the number of a key has five bits. -/
structure RuntimeSc2Aie where
  algorithm : AieAlgorithm
  sckn : Nat
  sckVn : BitVec 16
  key : BitVec 80
  scknFits : sckn ≤ 31
deriving DecidableEq

/-- The identity of a key, without the key. -/
structure RuntimeSc2Binding where
  algorithm : AieAlgorithm
  sckn : Nat
  sckVn : BitVec 16
deriving DecidableEq

def RuntimeSc2Binding.fromSc2 (sc2 : RuntimeSc2Aie) : RuntimeSc2Binding :=
  ⟨sc2.algorithm, sc2.sckn, sc2.sckVn⟩

structure RuntimeSc2Rollover where
  rolloverId : Nat
  activationNetworkTime : Nat
  localActivationTdma : Option TdmaTime
  activated : Bool
  future : RuntimeSc2Aie
  retiredRx : Option (RuntimeSc2Aie × TdmaTime)
deriving DecidableEq

/-- The key bindings of terminals and of the parties of calls. -/
structure RuntimeAieSessions where
  terminals : List (Nat × RuntimeSc2Binding)
  calls : List (Nat × List (AieSubject × RuntimeSc2Binding))

/-- The part of the encryption settings that concerns security class 2. -/
structure RuntimeAieConfig where
  enabled : Bool
  sc2 : Option RuntimeSc2Aie
  rollover : Option RuntimeSc2Rollover
deriving DecidableEq

/-- All terminals and calls go on under a new key. -/
def RuntimeAieSessions.rebindAllTo (sessions : RuntimeAieSessions) (sc2 : RuntimeSc2Aie) :
    RuntimeAieSessions :=
  let binding := RuntimeSc2Binding.fromSc2 sc2
  { terminals := sessions.terminals.map fun entry => (entry.1, binding)
    calls := sessions.calls.map fun entry =>
      (entry.1, entry.2.map fun bound => (bound.1, binding)) }

def RuntimeSc2Rollover.isDue (rollover : RuntimeSc2Rollover) (currentTdmaTime : TdmaTime) : Bool :=
  !rollover.activated &&
    rollover.localActivationTdma.any fun activation => 0 ≤ activation.age currentTdmaTime

namespace RuntimeAieConfig

variable (aie : RuntimeAieConfig)

def activeSc2 : Except AieContextError RuntimeSc2Aie :=
  match aie.enabled, aie.sc2 with
  | true, some sc2 => .ok sc2
  | _, _ => .error .sc2Disabled

/-! ### The commands of the network -/

/-- Stage a key that may follow the current one. -/
def stageFuture (current : RuntimeSc2Aie) (rolloverId : Nat) (future : RuntimeSc2Aie)
    (activationNetworkTime : Nat) : Except String RuntimeAieConfig :=
  if current.algorithm ≠ future.algorithm then
    .error "rollover may not change the SC2 TEA algorithm"
  else if current.sckn = future.sckn then
    .error "rollover future SCK must use a different SCKN"
  else if future.sckVn ≠ current.sckVn + 1 then
    .error "rollover SCK-VN must increment by exactly one"
  else .ok { aie with rollover := some ⟨rolloverId, activationNetworkTime, none, false, future, none⟩ }

def isLaterTarget (new old : Nat) : Bool :=
  match tetraNetworkTimeUnits new, tetraNetworkTimeUnits old with
  | some newUnits, some oldUnits => oldUnits < newUnits
  | _, _ => false

def stageRollover (rolloverId : Nat) (active : RuntimeSc2Binding) (future : RuntimeSc2Aie)
    (activationNetworkTime : Nat) : Except String RuntimeAieConfig :=
  if 2 ^ 48 ≤ activationNetworkTime then .error "rollover network time exceeds 48 bits"
  else
    match aie.activeSc2 with
    | .error _ => .error "SC2 is not enabled"
    | .ok current =>
      if RuntimeSc2Binding.fromSc2 current ≠ active then
        .error "rollover active identity does not match local SC2 state"
      else
        match aie.rollover with
        | none => aie.stageFuture current rolloverId future activationNetworkTime
        | some existing =>
          if existing.rolloverId = rolloverId then
            if existing.activationNetworkTime ≠ activationNetworkTime ∨
                existing.future ≠ future then
              .error "repeated SC2 rollover command does not match staged key"
            -- a command that is repeated leaves everything as it is
            else .ok aie
          else if existing.activated ∧
              isLaterTarget activationNetworkTime existing.activationNetworkTime = false then
            .error "new SC2 rollover overlaps the activated rollover"
          else aie.stageFuture current rolloverId future activationNetworkTime

def cancelStagedRollover (rolloverId : Nat) : RuntimeAieConfig × Bool :=
  if aie.rollover.any fun rollover => rollover.rolloverId = rolloverId && !rollover.activated then
    ({ aie with rollover := none }, true)
  else (aie, false)

/-! ### What the cell does at a tick -/

/-- The slot at which the key is to change: the first slot that broadcasts key identities, at or
after the target. It is chosen once. -/
def scheduleRolloverAbsoluteIv (currentNetworkTime : Nat) (currentTdmaTime : TdmaTime) :
    Except Fault (RuntimeAieConfig × Option (Nat × TdmaTime)) :=
  match aie.rollover with
  | none => pure (aie, none)
  | some rollover =>
    if rollover.activated ∨ rollover.localActivationTdma.isSome then pure (aie, none)
    else
      match tetraNetworkTimeUnits currentNetworkTime,
          tetraNetworkTimeUnits rollover.activationNetworkTime with
      | some current, some target => do
        let slots := slotsUntil current target
        if 2 ^ 31 ≤ slots then pure (aie, none)
        else
          assertThat (currentTdmaTime.toInt + slots < 2 ^ 31)
          let time ← (currentTdmaTime.addTimeslots slots).forwardToSc2SecuritySysinfo
          pure ({ aie with rollover := some { rollover with localActivationTdma := some time } },
            some (rollover.rolloverId, time))
      | _, _ => pure (aie, none)

/-- Promote the future key; the old one is kept with the record. -/
def activateRolloverIfDue (sessions : RuntimeAieSessions) (currentTdmaTime : TdmaTime) :
    RuntimeAieConfig × RuntimeAieSessions × Option Nat :=
  match aie.rollover with
  | none => (aie, sessions, none)
  | some rollover =>
    if rollover.isDue currentTdmaTime then
      match aie.sc2 with
      | none => ({ aie with sc2 := some rollover.future }, sessions, none)
      | some old =>
        ({ aie with
          sc2 := some rollover.future
          rollover := some { rollover with
            retiredRx := some (old, currentTdmaTime.addTimeslots 2)
            activated := true } },
          sessions.rebindAllTo rollover.future, some rollover.rolloverId)
    else (aie, sessions, none)

/-! ### The key of an air slot -/

def retiredKey (rollover : RuntimeSc2Rollover) : Except AieContextError RuntimeSc2Aie :=
  match rollover.retiredRx with
  | some (key, _) => .ok key
  | none => .error .staleKeyIdentity

/-- The key while a rollover is known, some slots after its own (or before, if negative). -/
def sc2Around (active : RuntimeSc2Aie) (rollover : RuntimeSc2Rollover) (direction : AieDirection)
    (slotsAfterActivation : Int) : Except AieContextError RuntimeSc2Aie :=
  if slotsAfterActivation < 0 ∧ rollover.activated then retiredKey rollover
  else
    match direction with
    | .downlink => if 0 ≤ slotsAfterActivation then .ok rollover.future else .ok active
    | .uplink =>
      if 0 ≤ slotsAfterActivation ∧ slotsAfterActivation < 2 then
        if rollover.activated then retiredKey rollover else .ok active
      else if 2 ≤ slotsAfterActivation ∧ !rollover.activated then .ok rollover.future
      else .ok active

def sc2ForAirTime (direction : AieDirection) (time : TdmaTime) :
    Except AieContextError RuntimeSc2Aie := do
  let active ← aie.activeSc2
  match aie.rollover with
  | none => pure active
  | some rollover =>
    match rollover.localActivationTdma with
    | none => pure active
    | some activation => sc2Around active rollover direction (activation.age time)

end RuntimeAieConfig

end Bluestation
