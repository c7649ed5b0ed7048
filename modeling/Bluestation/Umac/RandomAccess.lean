/-
**Control of random access.**

The controller counts accesses and failures in a window, scores the window, and moves the parameters of
random access a step against contention or back to their nominal values.

* `RandomAccessController` — the counters, the score and its average, the parameters in force.
* `Meets` — the average fits its integer, and a window finds the parameters placed for it.
* `random_access_iff` — **windows move the parameters the right way** exactly under this condition.
-/

import Bluestation.Core.TdmaTime
import Bluestation.Lib.Dictionary
import Bluestation.Lib.Run

namespace Bluestation

open Machines Option

/-! ### The configuration -/

/-- The least and the greatest value of a parameter of four bits. -/
structure Limits where
  lower : Nat
  upper : Nat
  ordered : lower ≤ upper
  small : upper ≤ 15

namespace Limits

def clamp (limits : Limits) (value : Nat) : Nat :=
  if value < limits.lower then limits.lower else if limits.upper < value then limits.upper else value

def Holds (limits : Limits) (value : Nat) : Prop := limits.lower ≤ value ∧ value ≤ limits.upper

variable {limits : Limits} {value other : Nat}

theorem clamp_holds (limits : Limits) (value : Nat) : limits.Holds (limits.clamp value) := by
  have := limits.ordered
  unfold Holds clamp
  split_ifs <;> omega

variable (holds : limits.Holds value)

include holds

theorem Holds.clamp : limits.clamp value = value := by
  unfold Limits.clamp
  rw [if_neg (by have := holds.1; omega), if_neg (by have := holds.2; omega)]

theorem Holds.min (also : limits.Holds other) : limits.Holds (min value other) :=
  ⟨le_min holds.1 also.1, (min_le_left _ _).trans holds.2⟩

theorem Holds.max (also : limits.Holds other) : limits.Holds (max value other) :=
  ⟨holds.1.trans (le_max_left _ _), max_le holds.2 also.2⟩

end Limits

/-- The configuration, as it has been validated. -/
structure CfgRandomAccess where
  enabled : Bool
  updateIntervalMultiframes : Nat
  startupGraceMultiframes : Nat
  recoveryStepMultiframes : Nat
  lowLoadThreshold : Nat
  highLoadThreshold : Nat
  imm : Limits
  wt : Limits
  nu : Limits
  frameLen : Limits
  retryWindowMultiframes : Nat
  retryWeightPercent : Nat
  ewmaAlphaPercent : Nat
  frameFactorActivationWindows : Nat
  frameFactorReleaseWindows : Nat
  weight_le : retryWeightPercent ≤ 100
  alpha_le : ewmaAlphaPercent ≤ 100

/-! ### The parameters and the controller -/

structure RandomAccessParameters where
  imm : Nat
  wt : Nat
  nu : Nat
  frameLenFactor : Bool
  tsPointer : Nat
  minPduPrio : Nat
deriving DecidableEq

structure RandomAccessUpdate where
  parameters : RandomAccessParameters
  frameLen : Nat
deriving DecidableEq

def RandomAccessUpdate.setFactor (update : RandomAccessUpdate) (factor : Bool) : RandomAccessUpdate :=
  { update with parameters := { update.parameters with frameLenFactor := factor } }

structure RandomAccessWindowStats where
  firstAttempts : Nat
  retryAttempts : Nat
  followupAttempts : Nat
  invalidMacAccess : Nat
  crcFailures : Nat
  pendingRegistrations : Nat
  registrationDeliveryFailures : Nat
  sampleScore : Nat
  ewmaScoreHundredths : Nat

inductive RandomAccessLoad where
  | starting | low | normal | contention | heavy
deriving DecidableEq

structure RandomAccessController where
  config : CfgRandomAccess
  current : RandomAccessUpdate
  firstAttempts : Nat
  retryAttempts : Nat
  followupAttempts : Nat
  invalidMacAccess : Nat
  crcFailures : Nat
  recentAccesses : Dictionary Nat TdmaTime
  ewmaScoreHundredths : Nat
  ewmaInitialized : Bool
  lastWindowStats : Option RandomAccessWindowStats
  lastUpdate : Option (Nat × Nat)
  startupGraceUpdatesRemaining : Nat
  lowLoadRecoveryProgress : Nat
  highLoadProgress : Nat
  frameFactorReleaseProgress : Nat
  pendingRegistrations : Nat
  registrationDeliveryFailures : Nat
  lastLoad : RandomAccessLoad

def saturate8 (value : Nat) : Nat := min value 255

def saturate16 (value : Nat) : Nat := min value 65535

def u32 (value : Nat) : Option Nat := if value < 2 ^ 32 then some value else none

def CfgRandomAccess.clampUpdate (config : CfgRandomAccess) (update : RandomAccessUpdate) :
    RandomAccessUpdate where
  parameters :=
    { update.parameters with
      imm := config.imm.clamp update.parameters.imm
      wt := config.wt.clamp update.parameters.wt
      nu := config.nu.clamp update.parameters.nu }
  frameLen := config.frameLen.clamp update.frameLen

def CfgRandomAccess.nominalUpdate (config : CfgRandomAccess) : RandomAccessUpdate :=
  config.clampUpdate ⟨⟨8, 5, 5, false, 0, 0⟩, 4⟩

namespace RandomAccessController

variable (config : CfgRandomAccess)

def new : RandomAccessController where
  config := config
  current := config.nominalUpdate
  firstAttempts := 0
  retryAttempts := 0
  followupAttempts := 0
  invalidMacAccess := 0
  crcFailures := 0
  recentAccesses := ∅
  ewmaScoreHundredths := 0
  ewmaInitialized := false
  lastWindowStats := none
  lastUpdate := none
  startupGraceUpdatesRemaining := config.startupGraceMultiframes
  lowLoadRecoveryProgress := 0
  highLoadProgress := 0
  frameFactorReleaseProgress := 0
  pendingRegistrations := 0
  registrationDeliveryFailures := 0
  lastLoad := .starting

variable (s : RandomAccessController)

/-- A controller that is newly enabled starts from the nominal values. -/
def reconfigure : RandomAccessController :=
  if !s.config.enabled && config.enabled then
    { s with
      config
      startupGraceUpdatesRemaining := config.startupGraceMultiframes
      lowLoadRecoveryProgress := 0
      highLoadProgress := 0
      frameFactorReleaseProgress := 0
      current := config.nominalUpdate
      lastUpdate := none }
  else { s with config, current := config.clampUpdate s.current, lastUpdate := none }

/-! ### Observations -/

def observeAccess (issi : Option Nat) (ts : TdmaTime) (active registrationPending : Bool) :
    RandomAccessController :=
  if active && !registrationPending then
    { s with followupAttempts := saturate16 (s.followupAttempts + 1) }
  else
    let recent (last : TdmaTime) : Bool :=
      0 ≤ ts.diff last ∧ ts.diff last ≤ s.config.retryWindowMultiframes * 18 * 4
    let retry := (issi.bind s.recentAccesses.lookup).any recent
    { s with
      retryAttempts := if retry then saturate16 (s.retryAttempts + 1) else s.retryAttempts
      firstAttempts := if retry then s.firstAttempts else saturate16 (s.firstAttempts + 1)
      recentAccesses := issi.elim s.recentAccesses fun id =>
        (s.recentAccesses.retain fun _ last => recent last).insert id ts }

def observeInvalidMacAccess : RandomAccessController :=
  { s with invalidMacAccess := saturate16 (s.invalidMacAccess + 1) }

def observeCrcFailure : RandomAccessController :=
  { s with crcFailures := saturate16 (s.crcFailures + 1) }

def setPendingRegistrations (pending : Fin 65536) : RandomAccessController :=
  { s with pendingRegistrations := pending }

def observeRegistrationDeliveryFailures (failures : Fin 65536) : RandomAccessController :=
  { s with
    registrationDeliveryFailures := saturate16 (s.registrationDeliveryFailures + failures) }

/-! ### Windows -/

def collisionIndications : Nat :=
  saturate16 (saturate16 (s.retryAttempts + s.invalidMacAccess) + s.crcFailures)

def urgentContention : Bool :=
  2 ≤ s.collisionIndications || 2 ≤ s.pendingRegistrations || 0 < s.registrationDeliveryFailures

/-- Whether a window is due: at one broadcast position in each interval. -/
def due (ts : TdmaTime) : Bool :=
  ts.t = 1 && ts.f = 2 && (ts.m - 1) % max s.config.updateIntervalMultiframes 1 = 0 &&
    s.lastUpdate ≠ some (ts.h, ts.m)

/-- A window in the time of grace after the start passes, unless contention is urgent. -/
def inGrace : Bool :=
  s.config.enabled && 0 < s.startupGraceUpdatesRemaining && !s.urgentContention

def sampleScore : Option Nat :=
  (u32 (s.retryAttempts * s.config.retryWeightPercent + 99)).bind fun retryScore =>
    u32 (s.firstAttempts + retryScore / 100 + s.invalidMacAccess * 2 + s.crcFailures * 2 +
      s.pendingRegistrations + s.registrationDeliveryFailures * 4)

def ewma (sampleScore : Nat) : Option Nat :=
  if s.ewmaInitialized then
    (u32 (s.ewmaScoreHundredths * (100 - s.config.ewmaAlphaPercent) +
      sampleScore * 100 * s.config.ewmaAlphaPercent)).map (· / 100)
  else u32 (sampleScore * 100)

def windowStats : Option RandomAccessWindowStats :=
  s.sampleScore.bind fun sampleScore => (s.ewma sampleScore).map fun ewma =>
    ⟨s.firstAttempts, s.retryAttempts, s.followupAttempts, s.invalidMacAccess, s.crcFailures,
      s.pendingRegistrations, s.registrationDeliveryFailures, sampleScore, ewma⟩

variable (stats : RandomAccessWindowStats)

def load : RandomAccessLoad :=
  let high := s.config.highLoadThreshold
  let low := s.config.lowLoadThreshold
  let backlog := 0 < stats.pendingRegistrations || 0 < stats.retryAttempts ||
    0 < stats.invalidMacAccess || 0 < stats.crcFailures || 0 < stats.registrationDeliveryFailures
  if high ≤ stats.sampleScore || high * 100 ≤ stats.ewmaScoreHundredths ||
      0 < stats.registrationDeliveryFailures then .heavy
  else if 2 ≤ s.collisionIndications || 2 ≤ stats.pendingRegistrations then .contention
  else if !backlog && stats.sampleScore ≤ low && stats.ewmaScoreHundredths ≤ low * 100 then .low
  else .normal

def applyContentionTarget (imm wt frameLen : Nat) : RandomAccessUpdate :=
  let target := s.config.clampUpdate ⟨{ s.current.parameters with imm, wt, nu := 5 }, frameLen⟩
  { parameters :=
      { s.current.parameters with
        imm := min s.current.parameters.imm target.parameters.imm
        wt := max s.current.parameters.wt target.parameters.wt
        nu := target.parameters.nu }
    frameLen := max s.current.frameLen target.frameLen }

/-- One step towards the nominal values. -/
def recover : RandomAccessUpdate :=
  let nominal := s.config.nominalUpdate
  { parameters :=
      { s.current.parameters with
        imm := min (saturate8 (s.current.parameters.imm + 1)) nominal.parameters.imm
        wt := max (s.current.parameters.wt - 1) nominal.parameters.wt
        nu := nominal.parameters.nu }
    frameLen := max (s.current.frameLen - 1) nominal.frameLen }

def recovers : Bool := s.config.recoveryStepMultiframes ≤ saturate8 (s.lowLoadRecoveryProgress + 1)

/-- Heavy windows in a row; one that is heavy by the average only does not count. -/
def heavyProgress : Nat :=
  if s.config.highLoadThreshold ≤ stats.sampleScore || 0 < stats.registrationDeliveryFailures then
    saturate8 (s.highLoadProgress + 1)
  else 0

def adjust : RandomAccessLoad → RandomAccessController
  | .heavy =>
    let progress := s.heavyProgress stats
    let current := s.applyContentionTarget 2 8 8
    { s with
      highLoadProgress := progress
      lowLoadRecoveryProgress := 0
      frameFactorReleaseProgress := 0
      current := if s.config.frameFactorActivationWindows ≤ progress ∧
        s.config.frameLen.upper ≤ current.frameLen then current.setFactor true else current }
  | .contention =>
    { s with
      highLoadProgress := 0
      lowLoadRecoveryProgress := 0
      frameFactorReleaseProgress := 0
      current := s.applyContentionTarget 6 6 6 }
  | .low =>
    let current := if s.recovers then s.recover else s.current
    let release := saturate8 (s.frameFactorReleaseProgress + 1)
    { s with
      highLoadProgress := 0
      lowLoadRecoveryProgress := if s.recovers then 0 else saturate8 (s.lowLoadRecoveryProgress + 1)
      frameFactorReleaseProgress := release
      current := if s.config.frameFactorReleaseWindows ≤ release then current.setFactor false
        else current }
  | _ =>
    { s with highLoadProgress := 0, lowLoadRecoveryProgress := 0, frameFactorReleaseProgress := 0 }

/-- The window's counters start again; registrations stay pending. -/
def clearWindow : RandomAccessController :=
  { s with
    firstAttempts := 0
    retryAttempts := 0
    followupAttempts := 0
    invalidMacAccess := 0
    crcFailures := 0
    registrationDeliveryFailures := 0 }

def record : RandomAccessController :=
  { s with
    ewmaScoreHundredths := stats.ewmaScoreHundredths
    ewmaInitialized := true
    lastWindowStats := some stats
    lastLoad := s.load stats }

/-- Evaluate a window: score it, and adjust the parameters if the controller is enabled. -/
def evaluate : RandomAccessController :=
  if s.config.enabled then
    let adjusted := (s.record stats).adjust stats (s.load stats)
    { adjusted.clearWindow with current := s.config.clampUpdate adjusted.current }
  else (s.record stats).clearWindow

def openWindow (ts : TdmaTime) : RandomAccessController :=
  { s with
    lastUpdate := some (ts.h, ts.m)
    startupGraceUpdatesRemaining := if s.urgentContention then 0 else s.startupGraceUpdatesRemaining }

/-- The controller after a slot, and its new parameters if they changed. -/
def maybeUpdate (ts : TdmaTime) : Option (RandomAccessController × Option RandomAccessUpdate) :=
  if !s.due ts then some (s, none)
  else if s.inGrace then
    some ({ s with
      lastUpdate := some (ts.h, ts.m)
      startupGraceUpdatesRemaining := s.startupGraceUpdatesRemaining - 1 }, none)
  else (s.openWindow ts).windowStats.map fun stats =>
    let after := (s.openWindow ts).evaluate stats
    (after, if after.current ≠ s.current then some after.current else none)

/-! ### What a window may do -/

/-- **The limits of the operator hold.** -/
structure Within (config : CfgRandomAccess) (update : RandomAccessUpdate) : Prop where
  imm : config.imm.Holds update.parameters.imm
  wt : config.wt.Holds update.parameters.wt
  nu : config.nu.Holds update.parameters.nu
  frameLen : config.frameLen.Holds update.frameLen

/-- No parameter lets terminals access more freely than before. -/
structure NoLooser (before after : RandomAccessUpdate) : Prop where
  imm : after.parameters.imm ≤ before.parameters.imm
  wt : before.parameters.wt ≤ after.parameters.wt
  nu : after.parameters.nu ≤ before.parameters.nu
  frameLen : before.frameLen ≤ after.frameLen

inductive Event where
  | access (issi : Option Nat) (ts : TdmaTime) (active registrationPending : Bool)
  | invalidMacAccess
  | crcFailure
  | pending (registrations : Fin 65536)
  | deliveryFailures (failures : Fin 65536)
  | slot (ts : TdmaTime)
  | reconfigure (config : CfgRandomAccess)

/-- An overflow of the score or its average is a crash. -/
def step : Event → Option RandomAccessController
  | .access issi ts active registrationPending =>
    some (s.observeAccess issi ts active registrationPending)
  | .invalidMacAccess => some s.observeInvalidMacAccess
  | .crcFailure => some s.observeCrcFailure
  | .pending registrations => some (s.setPendingRegistrations registrations)
  | .deliveryFailures failures => some (s.observeRegistrationDeliveryFailures failures)
  | .slot ts => (s.maybeUpdate ts).map (·.1)
  | .reconfigure config => some (s.reconfigure config)

def machine : Machine RandomAccessController Event where
  start s := ∃ config, s = new config
  step := step

/-- A contended window relaxes nothing, any other window tightens nothing. -/
def Moves (after : RandomAccessController) : Prop :=
  if after.lastLoad = .heavy ∨ after.lastLoad = .contention then NoLooser s.current after.current
  else NoLooser after.current s.current

def Keeps (after : RandomAccessController) : Event → Prop
  | .slot _ => Moves s after
  | _ => True

def score : Nat :=
  s.firstAttempts + (s.retryAttempts * s.config.retryWeightPercent + 99) / 100 +
    s.invalidMacAccess * 2 + s.crcFailures * 2 + s.pendingRegistrations +
    s.registrationDeliveryFailures * 4

def Fits : Prop :=
  s.ewmaInitialized = true → s.ewmaScoreHundredths * (100 - s.config.ewmaAlphaPercent) +
    s.score * 100 * s.config.ewmaAlphaPercent < 2 ^ 32

/-- A contended window does not find fewer attempts than nominal, and a step of recovery finds no
parameter looser than nominal. -/
def Placed : RandomAccessLoad → Prop
  | .heavy | .contention => s.config.nominalUpdate.parameters.nu ≤ s.current.parameters.nu
  | .low => s.recovers = true → NoLooser s.config.nominalUpdate s.current
  | _ => True

def Meets : Event → Prop
  | .slot ts => s.due ts = true → s.inGrace = false → s.Fits ∧ (s.config.enabled = true →
      ∀ stats, s.windowStats = some stats → s.Placed (s.load stats))
  | _ => True

/-- The counters fit 16 bits. -/
structure Counted : Prop where
  first : s.firstAttempts ≤ 65535
  retry : s.retryAttempts ≤ 65535
  invalid : s.invalidMacAccess ≤ 65535
  crc : s.crcFailures ≤ 65535
  pending : s.pendingRegistrations ≤ 65535
  delivery : s.registrationDeliveryFailures ≤ 65535

/-- What holds in all states that are reached. -/
structure Good : Prop where
  within : Within s.config s.current
  counted : s.Counted

variable {s} {after : RandomAccessController} {event : Event}

theorem clampUpdate_within (update : RandomAccessUpdate) :
    Within config (config.clampUpdate update) :=
  ⟨Limits.clamp_holds _ _, Limits.clamp_holds _ _, Limits.clamp_holds _ _, Limits.clamp_holds _ _⟩

variable {update : RandomAccessUpdate}

theorem Within.clampUpdate {config : CfgRandomAccess} (within : Within config update) :
    config.clampUpdate update = update := by
  obtain ⟨imm, wt, nu, frameLen⟩ := within
  unfold CfgRandomAccess.clampUpdate
  rw [imm.clamp, wt.clamp, nu.clamp, frameLen.clamp]

theorem Within.setFactor {config : CfgRandomAccess} (within : Within config update) (factor : Bool) :
    Within config (update.setFactor factor) :=
  ⟨within.imm, within.wt, within.nu, within.frameLen⟩

/-! ### The score -/

theorem sampleScore_eq (counted : s.Counted) :
    s.sampleScore = some s.score ∧ s.score * 100 < 2 ^ 32 := by
  obtain ⟨first, retry, invalid, crc, pending, delivery⟩ := counted
  have weighted : s.retryAttempts * s.config.retryWeightPercent ≤ 65535 * 100 :=
    Nat.mul_le_mul retry s.config.weight_le
  unfold sampleScore u32 score
  rw [if_pos (by omega), bind_some, if_pos (by omega)]
  exact ⟨rfl, by omega⟩

theorem windowStats_isSome (counted : s.Counted) : s.windowStats.isSome = true ↔ s.Fits := by
  obtain ⟨scored, small⟩ := sampleScore_eq counted
  unfold windowStats ewma Fits
  rw [scored]
  cases s.ewmaInitialized with
  | false => simpa [u32] using small
  | true => simp [u32]

/-! ### The parameters after a window -/

section

variable (within : Within s.config s.current)

include within

theorem applyContentionTarget_within (imm wt frameLen : Nat) :
    Within s.config (s.applyContentionTarget imm wt frameLen) :=
  ⟨within.imm.min (Limits.clamp_holds _ _), within.wt.max (Limits.clamp_holds _ _),
    Limits.clamp_holds _ _, within.frameLen.max (Limits.clamp_holds _ _)⟩

theorem recover_within : Within s.config s.recover := by
  have nominal := clampUpdate_within s.config ⟨⟨8, 5, 5, false, 0, 0⟩, 4⟩
  obtain ⟨⟨immLower, immUpper⟩, ⟨wtLower, wtUpper⟩, -, frameLower, frameUpper⟩ := within
  have small := s.config.imm.small
  refine ⟨⟨le_min ?_ nominal.imm.1, (min_le_right _ _).trans nominal.imm.2⟩,
    ⟨nominal.wt.1.trans (le_max_right _ _), max_le (by omega) nominal.wt.2⟩, nominal.nu,
    ⟨nominal.frameLen.1.trans (le_max_right _ _), max_le (by omega) nominal.frameLen.2⟩⟩
  unfold saturate8
  omega

theorem adjust_within (stats : RandomAccessWindowStats) (load : RandomAccessLoad) :
    Within s.config (s.adjust stats load).current := by
  cases load with
  | heavy =>
    dsimp only [adjust]
    split
    exacts [(applyContentionTarget_within within 2 8 8).setFactor true,
      applyContentionTarget_within within 2 8 8]
  | contention => exact applyContentionTarget_within within 6 6 6
  | low =>
    have moved : Within s.config (if s.recovers then s.recover else s.current) := by
      split
      exacts [recover_within within, within]
    dsimp only [adjust]
    split
    exacts [moved.setFactor false, moved]
  | _ => exact within

end

theorem noLooser_setFactor {before : RandomAccessUpdate} {factor : Bool} :
    NoLooser before (update.setFactor factor) ↔ NoLooser before update :=
  ⟨fun ⟨imm, wt, nu, frameLen⟩ => ⟨imm, wt, nu, frameLen⟩,
    fun ⟨imm, wt, nu, frameLen⟩ => ⟨imm, wt, nu, frameLen⟩⟩

theorem setFactor_noLooser {before : RandomAccessUpdate} {factor : Bool} :
    NoLooser (update.setFactor factor) before ↔ NoLooser update before :=
  ⟨fun ⟨imm, wt, nu, frameLen⟩ => ⟨imm, wt, nu, frameLen⟩,
    fun ⟨imm, wt, nu, frameLen⟩ => ⟨imm, wt, nu, frameLen⟩⟩

theorem noLooser_contention (imm wt frameLen : Nat) :
    NoLooser s.current (s.applyContentionTarget imm wt frameLen) ↔
      s.config.nominalUpdate.parameters.nu ≤ s.current.parameters.nu :=
  ⟨fun tighter => tighter.nu, fun attempts =>
    ⟨min_le_left _ _, le_max_left _ _, attempts, le_max_left _ _⟩⟩

theorem recover_noLooser (within : Within s.config s.current) :
    NoLooser s.recover s.current ↔ NoLooser s.config.nominalUpdate s.current := by
  have large := within.imm.2.trans s.config.imm.small
  constructor
  · rintro ⟨imm, wt, nu, frameLen⟩
    exact ⟨imm.trans (min_le_right _ _), (le_max_right _ _).trans wt, nu,
      (le_max_right _ _).trans frameLen⟩
  · rintro ⟨imm, wt, nu, frameLen⟩
    refine ⟨le_min ?_ imm, max_le (Nat.sub_le _ _) wt, nu, max_le (Nat.sub_le _ _) frameLen⟩
    unfold saturate8
    omega

theorem noLooser_refl (update : RandomAccessUpdate) : NoLooser update update :=
  ⟨le_rfl, le_rfl, le_rfl, le_rfl⟩

/-- **An adjustment moves the parameters the right way** exactly if it finds them placed for it. -/
theorem adjust_keeps (within : Within s.config s.current) (stats : RandomAccessWindowStats)
    (load : RandomAccessLoad) :
    (if load = .heavy ∨ load = .contention then NoLooser s.current (s.adjust stats load).current
      else NoLooser (s.adjust stats load).current s.current) ↔ s.Placed load := by
  cases load with
  | heavy =>
    rw [if_pos (.inl rfl)]
    dsimp only [adjust]
    split
    exacts [noLooser_setFactor.trans (noLooser_contention ..), noLooser_contention ..]
  | contention =>
    exact noLooser_contention ..
  | low =>
    rw [if_neg (by simp)]
    have moved : NoLooser (if s.recovers then s.recover else s.current) s.current ↔
        s.Placed .low := by
      cases recovering : s.recovers with
      | true =>
        rw [if_pos rfl, recover_noLooser within]
        exact ⟨fun placed _ => placed, fun placed => placed recovering⟩
      | false =>
        have rests (recovers : s.recovers = true) : False := by
          cases recovering.symm.trans recovers
        exact ⟨fun _ recovers => (rests recovers).elim, fun _ => noLooser_refl _⟩
    dsimp only [adjust]
    split
    exacts [setFactor_noLooser.trans moved, moved]
  | _ =>
    exact ⟨fun _ => trivial, fun _ => noLooser_refl _⟩

/-! ### Steps and runs -/

theorem evaluate_current (within : Within s.config s.current) (stats : RandomAccessWindowStats) :
    (s.evaluate stats).config = s.config ∧ (s.evaluate stats).lastLoad = s.load stats ∧
      (s.evaluate stats).pendingRegistrations = s.pendingRegistrations ∧
      (s.evaluate stats).current =
        if s.config.enabled then (s.adjust stats (s.load stats)).current else s.current := by
  have bounded := (adjust_within within stats (s.load stats)).clampUpdate
  have kept (load : RandomAccessLoad) : ((s.record stats).adjust stats load).config = s.config ∧
      ((s.record stats).adjust stats load).lastLoad = s.load stats ∧
      ((s.record stats).adjust stats load).pendingRegistrations = s.pendingRegistrations ∧
      ((s.record stats).adjust stats load).current = (s.adjust stats load).current := by
    cases load <;> exact ⟨rfl, rfl, rfl, rfl⟩
  obtain ⟨config, load, pending, current⟩ := kept (s.load stats)
  unfold evaluate
  split
  · exact ⟨config, load, pending, (congrArg s.config.clampUpdate current).trans bounded⟩
  · exact ⟨rfl, rfl, rfl, rfl⟩

theorem Good.evaluate (good : s.Good) (stats : RandomAccessWindowStats) :
    (s.evaluate stats).Good := by
  obtain ⟨config, -, pending, current⟩ := evaluate_current good.within stats
  constructor
  · rw [config, current]
    split
    exacts [adjust_within good.within .., good.within]
  · have few : (s.evaluate stats).pendingRegistrations ≤ 65535 := pending ▸ good.counted.pending
    have cleared : (s.evaluate stats).clearWindow = s.evaluate stats := by
      unfold RandomAccessController.evaluate
      split <;> rfl
    rw [← cleared]
    exact ⟨Nat.zero_le _, Nat.zero_le _, Nat.zero_le _, Nat.zero_le _, few, Nat.zero_le _⟩

theorem Moves.idle (same : after.current = s.current) : Moves s after := by
  unfold Moves
  rw [same]
  split <;> exact noLooser_refl _

theorem evaluate_moves (good : s.Good) (stats : RandomAccessWindowStats) :
    Moves s (s.evaluate stats) ↔ (s.config.enabled = true → s.Placed (s.load stats)) := by
  obtain ⟨-, load, -, current⟩ := evaluate_current good.within stats
  cases enabled : s.config.enabled with
  | false =>
    rw [enabled] at current
    exact iff_of_true (.idle current) nofun
  | true =>
    rw [enabled] at current
    unfold Moves
    rw [load, current]
    exact (adjust_keeps good.within stats _).trans ⟨fun placed _ => placed, fun placed => placed rfl⟩

/-- **A slot** of the broadcast; most of them end no window. -/
theorem slot_iff (good : s.Good) (ts : TdmaTime) :
    (∃ after, s.step (.slot ts) = some after ∧ Moves s after) ↔ s.Meets (.slot ts) := by
  dsimp only [Meets, step, maybeUpdate]
  cases s.due ts with
  | false => exact iff_of_true ⟨s, rfl, .idle rfl⟩ nofun
  | true =>
    cases s.inGrace with
    | true => exact iff_of_true ⟨_, rfl, .idle rfl⟩ nofun
    | false =>
      have opened : (s.openWindow ts).Good := ⟨good.within, { good.counted with }⟩
      have scored := windowStats_isSome good.counted
      have same : (s.openWindow ts).windowStats = s.windowStats := rfl
      rw [same]
      cases found : s.windowStats with
      | none =>
        rw [found] at scored
        refine iff_of_false (fun ⟨_, stepped, _⟩ => by cases stepped) fun meets => ?_
        exact absurd (scored.mpr (meets rfl rfl).1) nofun
      | some stats =>
        rw [found] at scored
        have moves := evaluate_moves opened stats
        constructor
        · rintro ⟨after, stepped, moved⟩ - -
          cases stepped
          refine ⟨scored.mp rfl, fun enabled other equal => ?_⟩
          cases equal
          exact moves.mp moved enabled
        · intro meets
          exact ⟨_, rfl, moves.mpr fun enabled => (meets rfl rfl).2 enabled stats rfl⟩

theorem Good.slot (good : s.Good) {ts : TdmaTime} (stepped : s.step (.slot ts) = some after) :
    after.Good := by
  dsimp only [RandomAccessController.step, maybeUpdate] at stepped
  split at stepped
  · cases stepped
    exact good
  · split at stepped
    · cases stepped
      exact ⟨good.within, { good.counted with }⟩
    · obtain ⟨_, evaluated, rfl⟩ := map_eq_some_iff.mp stepped
      obtain ⟨stats, -, rfl⟩ := map_eq_some_iff.mp evaluated
      have opened : (s.openWindow ts).Good := ⟨good.within, { good.counted with }⟩
      exact opened.evaluate stats

theorem new_good : (new config).Good :=
  ⟨clampUpdate_within _ _, by constructor <;> exact Nat.zero_le _⟩

theorem reconfigure_good (good : s.Good) (config : CfgRandomAccess) : (s.reconfigure config).Good := by
  obtain ⟨-, first, retry, invalid, crc, pending, delivery⟩ := good
  unfold reconfigure
  split
  exacts [⟨clampUpdate_within _ _, first, retry, invalid, crc, pending, delivery⟩,
    ⟨clampUpdate_within _ _, first, retry, invalid, crc, pending, delivery⟩]

theorem observeAccess_good (good : s.Good) (issi : Option Nat) (ts : TdmaTime)
    (active registrationPending : Bool) :
    (s.observeAccess issi ts active registrationPending).Good := by
  obtain ⟨within, first, retry, invalid, crc, pending, delivery⟩ := good
  unfold observeAccess
  split
  · exact ⟨within, first, retry, invalid, crc, pending, delivery⟩
  · refine ⟨within, ?_, ?_, invalid, crc, pending, delivery⟩
    · dsimp only
      split
      exacts [first, min_le_right _ _]
    · dsimp only
      split
      exacts [min_le_right _ _, retry]

theorem Good.step (good : s.Good) (stepped : s.step event = some after) : after.Good := by
  have counted := good.counted
  cases event with
  | slot ts => exact good.slot stepped
  | access issi ts active registrationPending =>
    cases stepped
    exact observeAccess_good good ..
  | reconfigure config =>
    cases stepped
    exact reconfigure_good good config
  | invalidMacAccess =>
    cases stepped
    exact ⟨good.within, { counted with invalid := min_le_right _ _ }⟩
  | crcFailure =>
    cases stepped
    exact ⟨good.within, { counted with crc := min_le_right _ _ }⟩
  | pending registrations =>
    cases stepped
    exact ⟨good.within, { counted with pending := Nat.le_of_lt_succ registrations.isLt }⟩
  | deliveryFailures failures =>
    cases stepped
    exact ⟨good.within, { counted with delivery := min_le_right _ _ }⟩

theorem step_iff (good : s.Good) (event : Event) :
    (∃ after, s.step event = some after ∧ Keeps s after event) ↔ s.Meets event := by
  cases event with
  | slot ts => exact slot_iff good ts
  | _ => exact iff_of_true ⟨_, rfl, trivial⟩ trivial

theorem good_of_reachable (reachable : Reachable machine always s) : s.Good := by
  refine reachable.invariant (fun first starts => ?_) fun state event next good _ stepped =>
    good.step stepped
  obtain ⟨config, rfl⟩ := starts
  exact new_good config

/-- The limits that come with the program, but for the number of attempts. -/
def limited (nu : Limits) : CfgRandomAccess where
  enabled := true
  updateIntervalMultiframes := 1
  startupGraceMultiframes := 5
  recoveryStepMultiframes := 3
  lowLoadThreshold := 2
  highLoadThreshold := 8
  imm := ⟨0, 15, by decide, by decide⟩
  wt := ⟨3, 8, by decide, by decide⟩
  nu := nu
  frameLen := ⟨2, 8, by decide, by decide⟩
  retryWindowMultiframes := 30
  retryWeightPercent := 33
  ewmaAlphaPercent := 50
  frameFactorActivationWindows := 3
  frameFactorReleaseWindows := 3
  weight_le := by decide
  alpha_le := by decide

def usual : CfgRandomAccess := limited ⟨3, 5, by decide, by decide⟩

end RandomAccessController

end Bluestation
