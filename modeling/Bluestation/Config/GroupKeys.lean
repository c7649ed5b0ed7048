/-
**The keys of security class 3.**

A cell of class 3 keeps a common key, the keys of its terminals, and the keys of its groups. The
group keys of one crypto period share a version; a snapshot of the network replaces them all, and may
announce those of the next period, whose slot the cell chooses as the start of a multiframe.

* `applySc3gSnapshotWithRollover` — what a snapshot does, and which are refused.
* `scheduleGckRollover`, `activateGckRolloverIfDue` — what the cell does at a tick.
* `gckAt`, `gckVnAt`, `gckByVersion` — the keys of an air slot, and those that a call has kept.
-/

import Bluestation.Config.Sc2Rollover
import Bluestation.Lib.Table

namespace Bluestation

/-! ### The start of a multiframe -/

namespace TdmaTime

def isMultiframeStart (time : TdmaTime) : Bool := time.t = 1 && time.f = 1

def seekMultiframeStart : (turns : Nat) → TdmaTime → Except Fault TdmaTime
  | 0, _ => throw .panic
  | turns + 1, time =>
    if time.isMultiframeStart then pure time else seekMultiframeStart turns (time.addTimeslots 1)

def forwardToMultiframeStart (time : TdmaTime) : Except Fault TdmaTime :=
  seekMultiframeStart (18 * 4) time

def multiframeSlot (slot : Int) : Int := slot + -slot % 72

theorem multiframeSlot_near (slot : Int) :
    slot ≤ multiframeSlot slot ∧ multiframeSlot slot < slot + 72 := by
  unfold multiframeSlot
  omega

theorem isMultiframeStart_fromInt (slot : Int) :
    (fromInt slot).isMultiframeStart = decide (multiframeSlot slot = slot) := by
  have timeslot := t_fromInt slot
  have frame := f_fromInt slot
  unfold isMultiframeStart multiframeSlot
  rw [Bool.eq_iff_iff]
  simp only [Bool.and_eq_true, decide_eq_true_eq]
  omega

theorem multiframeSlot_succ {slot : Int} (passes : multiframeSlot slot ≠ slot) :
    multiframeSlot (slot + 1) = multiframeSlot slot := by
  unfold multiframeSlot at passes ⊢
  omega

theorem seekMultiframeStart_fromInt (turns : Nat) {slot : Int}
    (enough : multiframeSlot slot < slot + turns) :
    seekMultiframeStart turns (fromInt slot) = .ok (fromInt (multiframeSlot slot)) := by
  induction turns generalizing slot with
  | zero =>
    have near := multiframeSlot_near slot
    omega
  | succ turns ih =>
    unfold seekMultiframeStart
    rw [isMultiframeStart_fromInt]
    by_cases here : multiframeSlot slot = slot
    · rw [here, if_pos (decide_eq_true rfl)]
      rfl
    · rw [if_neg (by simpa using here), addTimeslots_fromInt, ← multiframeSlot_succ here]
      apply ih
      rw [multiframeSlot_succ here]
      omega

/-- **The start of the next multiframe is found.** -/
theorem forwardToMultiframeStart_fromInt (slot : Int) :
    (fromInt slot).forwardToMultiframeStart = .ok (fromInt (multiframeSlot slot)) :=
  seekMultiframeStart_fromInt _ (multiframeSlot_near slot).2

end TdmaTime

/-! ### Keys and their identities -/

abbrev KeyMaterial := BitVec 80

/-- The sixteen octets that name the key of a terminal or of a group. -/
abbrev KeyContextId := BitVec 128

inductive Sc3KeyType where
  | dck | cck | gck
deriving DecidableEq

structure Sc3KeyIdentifier where
  algorithm : AieAlgorithm
  cckId : BitVec 16
  contextId : KeyContextId
  keyType : Sc3KeyType
deriving DecidableEq

structure RuntimeSc3Dck where
  contextId : KeyContextId
  mutualAuthentication : Bool
  validUntilUnix : Option Nat
  key : KeyMaterial

structure RuntimeSc3Gck where
  gckn : BitVec 16
  gckVn : BitVec 16
  key : KeyMaterial
deriving DecidableEq

structure RuntimeSc3GRollover where
  rolloverId : Nat
  activationUnix : Nat
  localActivationTdma : Option TdmaTime
  activated : Bool
deriving DecidableEq

/-- Group keys by their numbers. -/
abbrev GckTable := AList fun _ : BitVec 16 => RuntimeSc3Gck

/-- Two tables hold the same keys. -/
abbrev GckTable.Same (first second : GckTable) : Prop := first.entries.Perm second.entries

/-- The number of the key of every group that has one. -/
abbrev GroupAssociations := Table (BitVec 16)

structure RuntimeSc3Aie where
  algorithm : AieAlgorithm
  cckId : BitVec 16
  dckRetrievalDuringInitialCellSelection : Bool
  dckRetrievalDuringCellReselection : Bool
  cck : KeyMaterial
  dcks : Table RuntimeSc3Dck
  pendingDckRequests : Finset Nat
  dckRequests : List Nat
  sc3gRevision : Nat
  linkedGckCryptoPeriods : Bool
  gckVn : BitVec 16
  gcks : GckTable
  /-- Keys of calls that began before a rollover, by number and version. -/
  retiredGcks : AList fun _ : BitVec 16 × BitVec 16 => RuntimeSc3Gck
  futureGckVn : Option (BitVec 16)
  futureGcks : GckTable
  gckRollover : Option RuntimeSc3GRollover
  groupAssociations : GroupAssociations

namespace RuntimeSc3Aie

def new (algorithm : AieAlgorithm) (cckId : BitVec 16) (cck : KeyMaterial)
    (dckRetrievalDuringInitialCellSelection dckRetrievalDuringCellReselection : Bool) :
    RuntimeSc3Aie where
  algorithm := algorithm
  cckId := cckId
  dckRetrievalDuringInitialCellSelection := dckRetrievalDuringInitialCellSelection
  dckRetrievalDuringCellReselection := dckRetrievalDuringCellReselection
  cck := cck
  dcks := ∅
  pendingDckRequests := ∅
  dckRequests := []
  sc3gRevision := 0
  linkedGckCryptoPeriods := false
  gckVn := 0
  gcks := ∅
  retiredGcks := ∅
  futureGckVn := none
  futureGcks := ∅
  gckRollover := none
  groupAssociations := ∅

end RuntimeSc3Aie

/-! ### Snapshots of the network -/

/-- All group keys that are in force, those of a rollover, and the groups that use them. -/
structure Sc3gSnapshot where
  revision : Nat
  linkedGckCryptoPeriods : Bool
  gckVn : BitVec 16
  keys : List RuntimeSc3Gck
  futureGckVn : Option (BitVec 16)
  futureKeys : List RuntimeSc3Gck
  /-- The rollover's number and the time of its target. -/
  rollover : Option (Nat × Nat)
  associations : List (Nat × BitVec 16)

/-- The tables of a snapshot. -/
structure Sc3gTables where
  keys : GckTable
  associations : GroupAssociations
  future : GckTable

/-- Fill a table with keys of one version, each at most once. -/
def collectGcks (error : String) (gckVn : BitVec 16) (admits : BitVec 16 → Bool) :
    List RuntimeSc3Gck → GckTable → Except String GckTable
  | [], table => .ok table
  | key :: keys, table =>
    if key.gckVn ≠ gckVn ∨ admits key.gckn = false ∨ key.gckn ∈ table then .error error
    else collectGcks error gckVn admits keys (table.insert key.gckn key)

/-- Fill the table of groups; every key must be there. -/
def collectAssociations (keys : GckTable) :
    List (Nat × BitVec 16) → GroupAssociations → Except String GroupAssociations
  | [], table => .ok table
  | (gssi, gckn) :: associations, table =>
    if gssi = 0 ∨ 0xffffff < gssi ∨ gckn ∉ keys ∨ gssi ∈ table then
      .error "invalid SC3G association"
    else collectAssociations keys associations (table.insert gssi gckn)

namespace Sc3gSnapshot

/-- The keys of the rollover; there are some exactly if there is one. -/
def collectFuture (snapshot : Sc3gSnapshot) (keys : GckTable) : Except String GckTable :=
  match snapshot.futureGckVn, snapshot.rollover with
  | none, none =>
    if snapshot.futureKeys.isEmpty then .ok ∅ else .error "invalid SC3G rollover plan"
  | some gckVn, some (_, activationUnix) =>
    if 0 < activationUnix ∧ !snapshot.futureKeys.isEmpty then
      collectGcks "invalid or duplicate SC3G future key" gckVn (· ∈ keys) snapshot.futureKeys ∅
    else .error "invalid SC3G rollover plan"
  | _, _ => .error "invalid SC3G rollover plan"

/-- Check a snapshot. -/
def tables (snapshot : Sc3gSnapshot) : Except String Sc3gTables :=
  if !snapshot.linkedGckCryptoPeriods ∧
      (!snapshot.keys.isEmpty ∨ !snapshot.associations.isEmpty) then
    .error "SC3G keys require linked crypto periods"
  else do
    let keys ← collectGcks "invalid or duplicate SC3G key" snapshot.gckVn (fun _ => true)
      snapshot.keys ∅
    let associations ← collectAssociations keys snapshot.associations ∅
    let future ← snapshot.collectFuture keys
    pure ⟨keys, associations, future⟩

end Sc3gSnapshot

namespace RuntimeSc3Aie

variable (sc3 : RuntimeSc3Aie)

/-- The record of a rollover; if it is known already, with the slot that was chosen for it. -/
def nextRollover (rollover : Option (Nat × Nat)) : Option RuntimeSc3GRollover :=
  rollover.map fun (rolloverId, activationUnix) =>
    let known := sc3.gckRollover.filter fun old => old.rolloverId = rolloverId
    { rolloverId
      activationUnix
      localActivationTdma := known.bind (·.localActivationTdma)
      activated := known.any (·.activated) }

/-- The network has changed its keys, and the slot chosen by the cell has not come yet. -/
def waitingForLocalActivation (snapshot : Sc3gSnapshot) (keys : GckTable) : Bool :=
  snapshot.rollover.isNone &&
    sc3.gckRollover.any (fun old => !old.activated && old.localActivationTdma.isSome) &&
    sc3.futureGckVn = some snapshot.gckVn && decide (sc3.futureGcks.Same keys)

def retireGcks : AList fun _ : BitVec 16 × BitVec 16 => RuntimeSc3Gck :=
  sc3.gcks.entries.foldl (fun retired entry =>
    retired.insert (entry.2.gckn, entry.2.gckVn) entry.2) sc3.retiredGcks

/-- Take over the associations alone. -/
def refreshAssociations (snapshot : Sc3gSnapshot) (tables : Sc3gTables) : RuntimeSc3Aie :=
  { sc3 with
    sc3gRevision := snapshot.revision
    linkedGckCryptoPeriods := snapshot.linkedGckCryptoPeriods
    groupAssociations := tables.associations }

/-- Take over everything. -/
def install (snapshot : Sc3gSnapshot) (tables : Sc3gTables) : RuntimeSc3Aie :=
  { sc3 with
    sc3gRevision := snapshot.revision
    linkedGckCryptoPeriods := snapshot.linkedGckCryptoPeriods
    retiredGcks := if sc3.gckVn ≠ snapshot.gckVn then sc3.retireGcks else sc3.retiredGcks
    gckVn := snapshot.gckVn
    gcks := tables.keys
    futureGckVn := snapshot.futureGckVn
    futureGcks := tables.future
    gckRollover := sc3.nextRollover snapshot.rollover
    groupAssociations := tables.associations }

/-- Whether two records differ in what a snapshot says. -/
def snapshotChanged (before after : RuntimeSc3Aie) : Bool :=
  before.sc3gRevision ≠ after.sc3gRevision ||
    before.linkedGckCryptoPeriods ≠ after.linkedGckCryptoPeriods ||
    before.gckVn ≠ after.gckVn || !decide (before.gcks.Same after.gcks) ||
    before.futureGckVn ≠ after.futureGckVn || !decide (before.futureGcks.Same after.futureGcks) ||
    before.gckRollover ≠ after.gckRollover ||
    !decide (before.groupAssociations.entries.Perm after.groupAssociations.entries)

/-- A snapshot that is older, refused, or taken over; the answer is whether it changed something. -/
def applySc3gSnapshotWithRollover (snapshot : Sc3gSnapshot) : RuntimeSc3Aie × Except String Bool :=
  if snapshot.revision < sc3.sc3gRevision then (sc3, .ok false)
  else
    match snapshot.tables with
    | .error error => (sc3, .error error)
    | .ok tables =>
      if sc3.waitingForLocalActivation snapshot tables.keys then
        let next := sc3.refreshAssociations snapshot tables
        (next, .ok (sc3.snapshotChanged next))
      else
        let next := sc3.install snapshot tables
        (next, .ok (sc3.snapshotChanged next))

/-! ### What the cell does at a tick -/

def saturating (value : Nat) : Nat := min value (2 ^ 64 - 1)

def slotsUntilUnix (unixNow activationUnix : Nat) : Nat :=
  saturating (saturating ((activationUnix - unixNow) * 1200) + 16) / 17

/-- Choose the slot of a rollover, once. -/
def scheduleGckRollover (unixNow : Nat) (current : TdmaTime) :
    Except Fault (RuntimeSc3Aie × Option (Nat × TdmaTime)) :=
  match sc3.gckRollover with
  | none => pure (sc3, none)
  | some rollover =>
    if rollover.activated ∨ rollover.localActivationTdma.isSome then pure (sc3, none)
    else
      let slots := slotsUntilUnix unixNow rollover.activationUnix
      if 2 ^ 31 ≤ slots then pure (sc3, none)
      else do
        assertThat (current.toInt + slots < 2 ^ 31)
        let target ← (current.addTimeslots slots).forwardToMultiframeStart
        pure ({ sc3 with gckRollover := some { rollover with localActivationTdma := some target } },
          some (rollover.rolloverId, target))

def reached (rollover : RuntimeSc3GRollover) (time : TdmaTime) : Bool :=
  rollover.localActivationTdma.any fun activation => 0 ≤ activation.age time

/-- The keys of the next period take the place of those in force. -/
def promote (rollover : RuntimeSc3GRollover) (futureVn : BitVec 16) : RuntimeSc3Aie :=
  { sc3 with
    retiredGcks := sc3.retireGcks
    gckVn := futureVn
    gcks := sc3.futureGcks
    gckRollover := some { rollover with activated := true } }

def activateGckRolloverIfDue (current : TdmaTime) : RuntimeSc3Aie × Option Nat :=
  match sc3.gckRollover with
  | none => (sc3, none)
  | some rollover =>
    if rollover.activated ∨ reached rollover current = false then (sc3, none)
    else
      match sc3.futureGckVn with
      | none => (sc3, none)
      | some futureVn =>
        if sc3.futureGcks.entries.isEmpty then (sc3, none)
        else (sc3.promote rollover futureVn, some rollover.rolloverId)

/-! ### The keys of an air slot -/

def gckVnAt (time : TdmaTime) : BitVec 16 :=
  ((sc3.gckRollover.filter fun rollover => reached rollover time).bind
    fun _ => sc3.futureGckVn).getD sc3.gckVn

def gckAt (gckn : BitVec 16) (time : TdmaTime) : Option RuntimeSc3Gck :=
  if sc3.gckRollover.any fun rollover => reached rollover time then sc3.futureGcks.lookup gckn
  else sc3.gcks.lookup gckn

/-- A key that a call may have kept. -/
def gckByVersion (gckn gckVn : BitVec 16) : Option RuntimeSc3Gck :=
  ((sc3.gcks.lookup gckn).filter fun key => key.gckVn = gckVn) <|>
    ((sc3.futureGcks.lookup gckn).filter fun key => key.gckVn = gckVn) <|>
    sc3.retiredGcks.lookup (gckn, gckVn)

end RuntimeSc3Aie

end Bluestation
