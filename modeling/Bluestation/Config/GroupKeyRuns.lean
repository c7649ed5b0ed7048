/-
**The group keys of an air slot, over whole runs.**

Snapshots of the network and ticks of the cell come in any order. Beside the cell stands the rollover
that it has announced: its slot, the keys of the period that ends there and those of the period that
begins. A snapshot may state the rollover again, may come after the network has changed its keys, or
withdraws it.

* `Sc3Cell.Careful` — a rollover has a key for every group.
* `Sc3Cell.Told` — an air slot that the cell can tell: not before the key change once the cell has
  changed its keys, and on the side of it on which its wrapped distance is.
* `careful_selects_group_keys` — in every careful run the cell selects the keys of the right period.
* `group_keys_misled` — four runs that are not careful, or ask for other slots.
-/

import Bluestation.Lib.Run
import Bluestation.Config.GroupKeys

namespace Bluestation

open Machines TdmaTime RuntimeSc3Aie Option Bool AList

/-! ### Snapshots -/

section Snapshots

variable {sc3 : RuntimeSc3Aie} {snapshot : Sc3gSnapshot} {tables : Sc3gTables}

theorem collectGcks_spec {error : String} {gckVn : BitVec 16} {admits : BitVec 16 → Bool}
    {keys : List RuntimeSc3Gck} {table result : GckTable}
    (collected : collectGcks error gckVn admits keys table = .ok result) {gckn : BitVec 16}
    (member : gckn ∈ result) : gckn ∈ table ∨ admits gckn = true := by
  induction keys generalizing table with
  | nil =>
    cases collected
    exact .inl member
  | cons key keys ih =>
    unfold collectGcks at collected
    split at collected
    · contradiction
    next accepted =>
      push Not at accepted
      rcases ih collected with inside | admitted
      · rcases (mem_insert _).mp inside with rfl | before
        · exact .inr (by simpa using accepted.2.1)
        · exact .inl before
      · exact .inr admitted

theorem collectAssociations_spec {keys : GckTable} {associations : List (Nat × BitVec 16)}
    {table result : GroupAssociations}
    (collected : collectAssociations keys associations table = .ok result) {gssi : Nat}
    {gckn : BitVec 16} (associated : result.lookup gssi = some gckn) :
    table.lookup gssi = some gckn ∨ gckn ∈ keys := by
  induction associations generalizing table with
  | nil =>
    cases collected
    exact .inl associated
  | cons association associations ih =>
    unfold collectAssociations at collected
    split at collected
    · contradiction
    next accepted =>
      push Not at accepted
      rcases ih collected with inside | known
      · rw [Table.lookup_insert_eq] at inside
        split at inside
        · cases inside
          exact .inr accepted.2.2.1
        · exact .inl inside
      · exact .inr known

theorem collectFuture_spec {keys future : GckTable}
    (collected : snapshot.collectFuture keys = .ok future) :
    (∀ gckn ∈ future, gckn ∈ keys) ∧ (snapshot.rollover.isSome → snapshot.futureGckVn.isSome) := by
  unfold Sc3gSnapshot.collectFuture at collected
  split at collected
  next unplanned =>
    split at collected
    · cases collected
      exact ⟨fun gckn member => (notMem_empty gckn member).elim, by simp [unplanned]⟩
    · contradiction
  next futureVn planned =>
    split at collected
    · refine ⟨fun gckn member => ?_, by simp [futureVn]⟩
      rcases collectGcks_spec collected member with absent | inside
      · exact (notMem_empty gckn absent).elim
      · exact of_decide_eq_true inside
    · contradiction
  · contradiction

/-- What a snapshot that passes its checks guarantees. -/
structure Sc3gTables.Checked (snapshot : Sc3gSnapshot) (tables : Sc3gTables) : Prop where
  present : ∀ gssi gckn, tables.associations.lookup gssi = some gckn → gckn ∈ tables.keys
  known : ∀ gckn ∈ tables.future, gckn ∈ tables.keys
  versioned : snapshot.rollover.isSome → snapshot.futureGckVn.isSome

theorem tables_checked (found : snapshot.tables = .ok tables) : tables.Checked snapshot := by
  unfold Sc3gSnapshot.tables at found
  split at found
  · contradiction
  obtain ⟨keys, collectedKeys, found⟩ := bind_eq_ok.mp found
  obtain ⟨associations, collectedAssociations, found⟩ := bind_eq_ok.mp found
  obtain ⟨future, collectedFuture, found⟩ := bind_eq_ok.mp found
  cases found
  obtain ⟨known, versioned⟩ := collectFuture_spec collectedFuture
  refine ⟨fun gssi gckn associated => ?_, known, versioned⟩
  rcases collectAssociations_spec collectedAssociations associated with absent | present
  · simp at absent
  · exact present

namespace RuntimeSc3Aie

def taken (sc3 : RuntimeSc3Aie) (snapshot : Sc3gSnapshot) : Option Sc3gTables :=
  if snapshot.revision < sc3.sc3gRevision then none else snapshot.tables.toOption

theorem taken_checked (took : sc3.taken snapshot = some tables) : tables.Checked snapshot := by
  unfold taken at took
  split at took
  · contradiction
  · apply tables_checked
    cases found : snapshot.tables with
    | error refused =>
      rw [found] at took
      contradiction
    | ok result =>
      rw [found] at took
      cases took
      rfl

/-- **What a snapshot does**: nothing, a refresh of the associations, or everything. -/
theorem apply_eq (sc3 : RuntimeSc3Aie) (snapshot : Sc3gSnapshot) :
    (sc3.applySc3gSnapshotWithRollover snapshot).1 =
      match sc3.taken snapshot with
      | none => sc3
      | some tables =>
        if sc3.waitingForLocalActivation snapshot tables.keys then
          sc3.refreshAssociations snapshot tables
        else sc3.install snapshot tables := by
  unfold applySc3gSnapshotWithRollover taken
  split
  · rfl
  · cases snapshot.tables with
    | error refused => rfl
    | ok tables =>
      dsimp only [Except.toOption]
      split <;> rfl

/-- **An error or an older revision leaves everything as it is.** -/
theorem apply_refused (refused : snapshot.revision < sc3.sc3gRevision ∨
      (sc3.applySc3gSnapshotWithRollover snapshot).2.isOk = false) :
    (sc3.applySc3gSnapshotWithRollover snapshot).1 = sc3 := by
  unfold applySc3gSnapshotWithRollover at refused ⊢
  split
  · rfl
  next current =>
    rw [if_neg current] at refused
    cases found : snapshot.tables with
    | error refusal => rfl
    | ok tables =>
      rw [found] at refused
      rcases refused with older | failed
      · exact absurd older current
      · dsimp only at failed
        split at failed <;> contradiction

end RuntimeSc3Aie

end Snapshots

/-! ### What has been announced -/

/-- The keys of one crypto period. -/
@[ext] structure CryptoPeriod where
  gckVn : BitVec 16
  key : BitVec 16 → Option RuntimeSc3Gck

/-- A rollover whose slot has been announced. -/
structure GckPlan where
  rolloverId : Nat
  absoluteIv : Int
  old : CryptoPeriod
  new : CryptoPeriod

/-- **The period of an air slot.** -/
def GckPlan.periodAt (plan : GckPlan) (slot : Int) : CryptoPeriod :=
  if slot < plan.absoluteIv then plan.old else plan.new

namespace RuntimeSc3Aie

variable (sc3 : RuntimeSc3Aie)

def period : CryptoPeriod := ⟨sc3.gckVn, fun gckn => sc3.gcks.lookup gckn⟩

def futurePeriod : CryptoPeriod :=
  ⟨sc3.futureGckVn.getD sc3.gckVn, fun gckn => sc3.futureGcks.lookup gckn⟩

def selected (time : TdmaTime) : CryptoPeriod :=
  ⟨sc3.gckVnAt time, fun gckn => sc3.gckAt gckn time⟩

def announced : Option RuntimeSc3GRollover :=
  sc3.gckRollover.filter fun rollover => rollover.localActivationTdma.isSome

end RuntimeSc3Aie

/-- What a snapshot that is taken over says about an announced rollover: it states both periods
again, it changes the keys of the new one, which the network has begun, or it withdraws it. -/
def GckPlan.heed (plan : GckPlan) (sc3 : RuntimeSc3Aie) (snapshot : Sc3gSnapshot)
    (tables : Sc3gTables) : Option GckPlan :=
  if sc3.announced.any (·.rolloverId = plan.rolloverId) ∧
      snapshot.rollover.any (·.1 = plan.rolloverId) then
    some { plan with
      old := ⟨snapshot.gckVn, fun gckn => tables.keys.lookup gckn⟩
      new := ⟨snapshot.futureGckVn.getD snapshot.gckVn, fun gckn => tables.future.lookup gckn⟩ }
  else if snapshot.gckVn = plan.new.gckVn then
    some { plan with new := ⟨snapshot.gckVn, fun gckn => tables.keys.lookup gckn⟩ }
  else none

/-- The keys of a cell, and the rollover it has announced. -/
structure Sc3Cell where
  sc3 : RuntimeSc3Aie
  plan : Option GckPlan

/-- A snapshot, or a tick of the cell in a slot. -/
inductive Sc3Event where
  | snapshot (snapshot : Sc3gSnapshot)
  | schedule (unixNow : Nat) (slot : Int)
  | activate (slot : Int)

namespace Sc3Cell

/-- The rollover that a tick in a slot announces. -/
def decided (cell : Sc3Cell) (unixNow : Nat) (slot : Int) : Option GckPlan :=
  cell.sc3.gckRollover.map fun rollover =>
    ⟨rollover.rolloverId, multiframeSlot (slot + slotsUntilUnix unixNow rollover.activationUnix),
      cell.sc3.period, cell.sc3.futurePeriod⟩

def step (cell : Sc3Cell) : Sc3Event → Option Sc3Cell
  | .snapshot snapshot =>
    some ⟨(cell.sc3.applySc3gSnapshotWithRollover snapshot).1,
      match cell.sc3.taken snapshot with
      | none => cell.plan
      | some tables => cell.plan.bind fun plan => plan.heed cell.sc3 snapshot tables⟩
  | .schedule unixNow slot =>
    match cell.sc3.scheduleGckRollover unixNow (fromInt slot) with
    | .error _ => none
    | .ok (sc3, some _) => some ⟨sc3, cell.decided unixNow slot⟩
    | .ok (sc3, none) => some { cell with sc3 }
  | .activate slot => some { cell with sc3 := (cell.sc3.activateGckRolloverIfDue (fromInt slot)).1 }

def machine : Machine Sc3Cell Sc3Event where
  start cell := ∃ algorithm cckId cck initial reselection,
    cell = ⟨.new algorithm cckId cck initial reselection, none⟩
  step := step

/-! ### What is asked of a run, and of an air slot -/

def Covers (tables : Sc3gTables) : Prop :=
  ∀ association ∈ tables.associations.entries, association.2 ∈ tables.future

instance (tables : Sc3gTables) : Decidable (Covers tables) := by
  unfold Covers
  infer_instance

def Careful (cell : Sc3Cell) : Sc3Event → Prop
  | .snapshot snapshot => snapshot.rollover.isSome →
      ∀ tables ∈ cell.sc3.taken snapshot, Covers tables
  | _ => True

instance : ∀ (cell : Sc3Cell) (event : Sc3Event), Decidable (cell.Careful event)
  | cell, .snapshot snapshot => by
    unfold Careful
    infer_instance
  | _, .schedule _ _ => .isTrue trivial
  | _, .activate _ => .isTrue trivial

/-- An air slot that the cell can tell from what it keeps: while the record of the rollover is
there, one for which its wrapped distance has the right sign; and once the keys have been changed,
one that is not before the change. -/
def Told (cell : Sc3Cell) (slot : Int) : Prop :=
  ∀ plan ∈ cell.plan,
    match cell.sc3.announced with
    | some rollover =>
      (reached rollover (fromInt slot) = true ↔ plan.absoluteIv ≤ slot) ∧
        (rollover.activated = true → plan.absoluteIv ≤ slot)
    | none => plan.absoluteIv ≤ slot

/-- **The cell selects the keys of the right period**, in every slot of which `asked` holds. -/
def SelectsPeriod (cell : Sc3Cell) (asked : Int → Prop) : Prop :=
  ∀ plan ∈ cell.plan, ∀ slot, asked slot → cell.sc3.selected (fromInt slot) = plan.periodAt slot

def AssociationsPresent (cell : Sc3Cell) : Prop :=
  ∀ gssi gckn, cell.sc3.groupAssociations.lookup gssi = some gckn → gckn ∈ cell.sc3.gcks

/-! ### The phases of a rollover -/

/-- The record is the one that was announced; or it is gone, and the new keys are in force. -/
inductive Phase (plan : GckPlan) (sc3 : RuntimeSc3Aie) : Prop where
  | announced {rollover : RuntimeSc3GRollover} (record : sc3.gckRollover = some rollover)
      (same : rollover.rolloverId = plan.rolloverId)
      (time : rollover.localActivationTdma = some (fromInt plan.absoluteIv))
      (next : sc3.futurePeriod = plan.new)
      (present : sc3.period = plan.old ∨ rollover.activated = true ∧ sc3.period = plan.new)
  | replaced (gone : sc3.announced = none) (present : sc3.period = plan.new)

/-- What careful steps keep. -/
structure Sound (cell : Sc3Cell) : Prop where
  present : cell.AssociationsPresent
  covered : ∀ rollover ∈ cell.sc3.gckRollover, rollover.activated = false → ∀ gssi gckn,
    cell.sc3.groupAssociations.lookup gssi = some gckn → gckn ∈ cell.sc3.futureGcks
  known : ∀ rollover ∈ cell.sc3.gckRollover, rollover.activated = false →
    ∀ gckn ∈ cell.sc3.futureGcks, gckn ∈ cell.sc3.gcks
  versioned : cell.sc3.gckRollover.isSome → cell.sc3.futureGckVn.isSome
  planned : ∀ plan ∈ cell.plan, Phase plan cell.sc3

/-! ### Selection -/

section Selection

variable {sc3 : RuntimeSc3Aie} {time : TdmaTime}

theorem reached_announced {rollover : RuntimeSc3GRollover} (record : sc3.gckRollover = some rollover)
    (arrived : reached rollover time = true) : sc3.announced = some rollover := by
  unfold announced
  rw [record, filter_eq_some_iff]
  refine ⟨rfl, ?_⟩
  unfold reached at arrived
  cases chosen : rollover.localActivationTdma with
  | none =>
    rw [chosen] at arrived
    contradiction
  | some activation => rfl

/-- **Before its slot, or without one, the keys in force are selected.** -/
theorem selected_present (early : ∀ rollover ∈ sc3.announced, reached rollover time = false) :
    sc3.selected time = sc3.period := by
  have never : ∀ rollover ∈ sc3.gckRollover, reached rollover time = false := by
    intro rollover record
    by_contra arrived
    rw [not_eq_false] at arrived
    rw [early rollover (reached_announced record arrived)] at arrived
    contradiction
  unfold selected period gckVnAt gckAt
  cases record : sc3.gckRollover with
  | none => rfl
  | some rollover => simp [never rollover record, filter_some]

/-- **From its slot on the next keys are selected.** -/
theorem selected_future {rollover : RuntimeSc3GRollover} (record : sc3.gckRollover = some rollover)
    (arrived : reached rollover time = true) : sc3.selected time = sc3.futurePeriod := by
  unfold selected futurePeriod gckVnAt gckAt
  simp [record, arrived, filter_some]

end Selection

variable {cell : Sc3Cell}

theorem Sound.selectsPeriod (sound : cell.Sound) : cell.SelectsPeriod cell.Told := by
  intro plan planned slot told
  have told := told plan planned
  unfold GckPlan.periodAt
  cases sound.planned plan planned with
  | @announced rollover record same time next present =>
    have announced : cell.sc3.announced = some rollover := by
      unfold RuntimeSc3Aie.announced
      rw [record, filter_eq_some_iff]
      exact ⟨rfl, by rw [time]; rfl⟩
    rw [announced] at told
    obtain ⟨side, changed⟩ := told
    by_cases before : slot < plan.absoluteIv
    · rw [if_pos before, selected_present]
      · rcases present with old | ⟨activated, -⟩
        · exact old
        · have after := changed activated
          omega
      · intro other is
        cases announced.symm.trans is
        by_contra arrived
        have after := side.mp (by simpa using arrived)
        omega
    · rw [if_neg before, selected_future record (side.mpr (not_lt.mp before)), next]
  | replaced gone present =>
    rw [gone] at told
    rw [if_neg (by omega), selected_present, present]
    intro rollover is
    rw [gone] at is
    contradiction

/-! ### One step -/

section Steps

variable {sc3 : RuntimeSc3Aie} {rollover : Option (Nat × Nat)} {old : RuntimeSc3GRollover}

theorem announced_eq_some : sc3.announced = some old ↔
    sc3.gckRollover = some old ∧ old.localActivationTdma.isSome = true := by
  exact filter_eq_some_iff

theorem nextRollover_of_known (is : sc3.announced = some old)
    (same : rollover.any (·.1 = old.rolloverId) = true) :
    ∃ next, sc3.nextRollover rollover = some next ∧ next.rolloverId = old.rolloverId ∧
      next.localActivationTdma = old.localActivationTdma := by
  obtain ⟨record, -⟩ := announced_eq_some.mp is
  obtain ⟨⟨rolloverId, activationUnix⟩, rfl, equal⟩ := (any_eq_true _ _).mp same
  obtain rfl : rolloverId = old.rolloverId := of_decide_eq_true equal
  refine ⟨_, rfl, rfl, ?_⟩
  simp [record, filter_some]

theorem nextRollover_of_other
    (other : ∀ old ∈ sc3.announced, rollover.any (·.1 = old.rolloverId) = false)
    {next : RuntimeSc3GRollover} (is : sc3.nextRollover rollover = some next) :
    next.localActivationTdma = none := by
  obtain ⟨⟨rolloverId, activationUnix⟩, rfl, rfl⟩ := map_eq_some_iff.mp is
  rw [bind_eq_none_iff]
  intro old member
  obtain ⟨record, same⟩ := filter_eq_some_iff.mp member
  by_contra chosen
  have unlike := other old (announced_eq_some.mpr ⟨record, isSome_iff_ne_none.mpr chosen⟩)
  have equal : old.rolloverId = rolloverId := of_decide_eq_true same
  simp [equal] at unlike

theorem waiting_iff {snapshot : Sc3gSnapshot} {keys : GckTable}
    (waiting : sc3.waitingForLocalActivation snapshot keys = true) :
    snapshot.rollover = none ∧ sc3.futureGckVn = some snapshot.gckVn ∧ sc3.futureGcks.Same keys ∧
      ∃ old, sc3.announced = some old ∧ old.activated = false := by
  unfold waitingForLocalActivation at waiting
  simp only [and_eq_true, decide_eq_true_eq, isNone_iff_eq_none] at waiting
  obtain ⟨⟨⟨unplanned, record⟩, version⟩, same⟩ := waiting
  obtain ⟨old, is, pending⟩ := (any_eq_true _ _).mp record
  simp only [and_eq_true, not_eq_true'] at pending
  exact ⟨unplanned, version, same, old, announced_eq_some.mpr ⟨is, pending.2⟩, pending.1⟩

theorem mem_of_same {first second : GckTable} (same : first.Same second) {gckn : BitVec 16} :
    gckn ∈ first ↔ gckn ∈ second := by
  rw [← lookup_isSome, ← lookup_isSome, perm_lookup same]

end Steps

section Snapshot

variable {cell : Sc3Cell} {snapshot : Sc3gSnapshot} {tables : Sc3gTables}

/-- **While the cell waits for its own slot** only the associations change. -/
theorem sound_refresh (sound : cell.Sound) (checked : tables.Checked snapshot)
    (waiting : cell.sc3.waitingForLocalActivation snapshot tables.keys = true) :
    Sound ⟨cell.sc3.refreshAssociations snapshot tables,
      cell.plan.bind fun plan => plan.heed cell.sc3 snapshot tables⟩ := by
  obtain ⟨unplanned, version, same, old, announced, waits⟩ := waiting_iff waiting
  obtain ⟨record, -⟩ := announced_eq_some.mp announced
  have inFuture : ∀ gssi gckn, tables.associations.lookup gssi = some gckn →
      gckn ∈ cell.sc3.futureGcks :=
    fun gssi gckn associated => (mem_of_same same).mpr (checked.present gssi gckn associated)
  refine ⟨fun gssi gckn associated => ?_, fun _ _ _ => inFuture, sound.known, sound.versioned, ?_⟩
  · exact sound.known old record waits gckn (inFuture gssi gckn associated)
  · intro next planned
    obtain ⟨plan, was, heeded⟩ := bind_eq_some_iff.mp planned
    unfold GckPlan.heed at heeded
    rw [if_neg (by simp [unplanned])] at heeded
    obtain ⟨begun, is⟩ := ite_none_right_eq_some.mp heeded
    cases is
    cases sound.planned plan was with
    | @announced rollover is named time next present =>
      obtain rfl : rollover = old := some_inj.mp (is.symm.trans record)
      refine .announced is named time ?_ ?_
      · show cell.sc3.futurePeriod = _
        unfold futurePeriod
        rw [version]
        ext1
        · rfl
        · exact funext fun gckn => perm_lookup same
      · rcases present with present | ⟨activated, -⟩
        · exact .inl present
        · rw [waits] at activated
          contradiction
    | replaced gone present =>
      rw [announced] at gone
      contradiction

/-- **Everything is taken over.** -/
theorem sound_install (sound : cell.Sound) (checked : tables.Checked snapshot)
    (covers : snapshot.rollover.isSome → Covers tables) :
    Sound ⟨cell.sc3.install snapshot tables,
      cell.plan.bind fun plan => plan.heed cell.sc3 snapshot tables⟩ := by
  have planned : ∀ rollover ∈ cell.sc3.nextRollover snapshot.rollover, snapshot.rollover.isSome := by
    intro rollover is
    obtain ⟨stated, was, -⟩ := map_eq_some_iff.mp is
    rw [was]
    rfl
  refine ⟨checked.present, fun rollover is _ gssi gckn associated => ?_, fun _ _ _ => checked.known,
    fun is => ?_, ?_⟩
  · exact covers (planned rollover is) ⟨gssi, gckn⟩ (Table.mem_entries.mpr associated)
  · obtain ⟨rollover, is⟩ := isSome_iff_exists.mp is
    exact checked.versioned (planned rollover is)
  · intro next heeds
    obtain ⟨plan, was, heeded⟩ := bind_eq_some_iff.mp heeds
    unfold GckPlan.heed at heeded
    split at heeded
    · -- the snapshot states the rollover again
      rename_i again
      cases heeded
      obtain ⟨known, stated⟩ := again
      obtain ⟨old, announced, named⟩ := (any_eq_true _ _).mp known
      have named : old.rolloverId = plan.rolloverId := of_decide_eq_true named
      obtain ⟨next, is, sameId, sameTime⟩ := nextRollover_of_known announced (by rw [named]; exact stated)
      refine .announced is (sameId.trans named) ?_ ?_ (.inl rfl)
      · cases sound.planned plan was with
        | announced record _ time _ _ =>
          obtain rfl := some_inj.mp (record.symm.trans (announced_eq_some.mp announced).1)
          exact sameTime.trans time
        | replaced gone _ =>
          rw [announced] at gone
          contradiction
      · rfl
    · -- the network has begun the new period
      rename_i other
      obtain ⟨begun, is⟩ := ite_none_right_eq_some.mp heeded
      cases is
      refine .replaced ?_ rfl
      rw [eq_none_iff_forall_ne_some]
      intro next announced
      obtain ⟨is, chosen⟩ := announced_eq_some.mp announced
      rw [nextRollover_of_other ?_ is] at chosen
      · contradiction
      · intro old wasAnnounced
        cases sound.planned plan was with
        | announced record named _ _ _ =>
          obtain rfl := some_inj.mp (record.symm.trans (announced_eq_some.mp wasAnnounced).1)
          by_contra stated
          refine other ⟨?_, ?_⟩
          · rw [wasAnnounced]
            simpa using named
          · rw [← named]
            simpa using stated
        | replaced gone _ =>
          rw [wasAnnounced] at gone
          contradiction

theorem sound_snapshot (sound : cell.Sound) (careful : cell.Careful (.snapshot snapshot)) :
    Sound ⟨(cell.sc3.applySc3gSnapshotWithRollover snapshot).1,
      match cell.sc3.taken snapshot with
      | none => cell.plan
      | some tables => cell.plan.bind fun plan => plan.heed cell.sc3 snapshot tables⟩ := by
  rw [apply_eq]
  cases took : cell.sc3.taken snapshot with
  | none => exact sound
  | some tables =>
    have checked := taken_checked took
    dsimp only
    split
    next waiting =>
      exact sound_refresh sound checked waiting
    · exact sound_install sound checked fun planned => careful planned tables took

end Snapshot

section Ticks

variable {cell : Sc3Cell} {slot : Int}

theorem scheduled_ok {sc3 next : RuntimeSc3Aie} {unixNow : Nat} {answer : Option (Nat × TdmaTime)}
    (scheduled : sc3.scheduleGckRollover unixNow (fromInt slot) = .ok (next, answer)) :
    (answer = none ∧ next = sc3) ∨
      ∃ rollover, sc3.gckRollover = some rollover ∧ rollover.activated = false ∧ answer.isSome ∧
        next = { sc3 with
          gckRollover := some { rollover with
            localActivationTdma := some (fromInt
              (multiframeSlot (slot + slotsUntilUnix unixNow rollover.activationUnix))) } } := by
  unfold scheduleGckRollover at scheduled
  split at scheduled
  · cases scheduled
    exact .inl ⟨rfl, rfl⟩
  next rollover record =>
    split at scheduled
    · cases scheduled
      exact .inl ⟨rfl, rfl⟩
    next open' =>
      push Not at open'
      dsimp only at scheduled
      split at scheduled
      · cases scheduled
        exact .inl ⟨rfl, rfl⟩
      · obtain ⟨_, -, scheduled⟩ := bind_eq_ok.mp scheduled
        rw [addTimeslots_fromInt, forwardToMultiframeStart_fromInt] at scheduled
        cases scheduled
        exact .inr ⟨rollover, record, by simpa using open'.1, rfl, rfl⟩

theorem sound_scheduled {next : Sc3Cell} {unixNow : Nat} (sound : cell.Sound)
    (stepped : cell.step (.schedule unixNow slot) = some next) : next.Sound := by
  unfold step at stepped
  dsimp only at stepped
  split at stepped
  · contradiction
  · rename_i sc3 decision scheduled
    cases stepped
    obtain ⟨silent, -⟩ | ⟨rollover, record, waits, -, rfl⟩ := scheduled_ok scheduled
    · contradiction
    · refine ⟨sound.present, fun _ _ _ => sound.covered rollover record waits,
        fun _ _ _ => sound.known rollover record waits,
        fun _ => sound.versioned (by rw [record]; rfl), ?_⟩
      intro plan is
      unfold decided at is
      rw [record] at is
      cases is
      exact .announced rfl rfl rfl rfl (.inl rfl)
  next sc3 scheduled =>
    cases stepped
    obtain ⟨-, rfl⟩ | ⟨_, _, _, decided, -⟩ := scheduled_ok scheduled
    · exact sound
    · contradiction

theorem activated_cases (sc3 : RuntimeSc3Aie) (time : TdmaTime) :
    (sc3.activateGckRolloverIfDue time).1 = sc3 ∨
      ∃ rollover futureVn, sc3.gckRollover = some rollover ∧ rollover.activated = false ∧
        reached rollover time = true ∧ sc3.futureGckVn = some futureVn ∧
        (sc3.activateGckRolloverIfDue time).1 = sc3.promote rollover futureVn := by
  unfold activateGckRolloverIfDue
  split
  · exact .inl rfl
  next rollover record =>
    split
    · exact .inl rfl
    next due =>
      push Not at due
      split
      · exact .inl rfl
      next futureVn version =>
        split
        · exact .inl rfl
        · exact .inr ⟨rollover, futureVn, record, by simpa using due.1, by simpa using due.2,
            version, rfl⟩

theorem sound_activated (sound : cell.Sound) :
    Sound { cell with sc3 := (cell.sc3.activateGckRolloverIfDue (fromInt slot)).1 } := by
  obtain same | ⟨rollover, futureVn, record, waits, arrived, version, promoted⟩ :=
    activated_cases cell.sc3 (fromInt slot)
  · rw [same]
    exact sound
  · rw [promoted]
    refine ⟨sound.covered rollover record waits, ?_, ?_, fun _ => by rw [promote, version]; rfl, ?_⟩
    · intro _ is active
      cases is
      contradiction
    · intro _ is active
      cases is
      contradiction
    · intro plan planned
      have announced := reached_announced record arrived
      cases sound.planned plan planned with
      | @announced other is named time next present =>
        obtain rfl : other = rollover := some_inj.mp (is.symm.trans record)
        have began : cell.sc3.futurePeriod = (cell.sc3.promote other futureVn).period := by
          unfold futurePeriod
          rw [version]
          rfl
        refine .announced rfl named time ?_ (.inr ⟨rfl, by rw [← began, next]⟩)
        rw [← next]
        unfold futurePeriod promote
        rw [version]
        rfl
      | replaced gone present =>
        rw [announced] at gone
        contradiction

end Ticks

theorem sound_step {next : Sc3Cell} {event : Sc3Event} (sound : cell.Sound)
    (careful : cell.Careful event) (stepped : cell.step event = some next) : next.Sound := by
  cases event with
  | snapshot snapshot =>
    cases stepped
    exact sound_snapshot sound careful
  | schedule unixNow slot => exact sound_scheduled sound stepped
  | activate slot =>
    cases stepped
    exact sound_activated sound

/-! ### Runs -/

theorem sound_start (started : machine.start cell) : cell.Sound := by
  obtain ⟨algorithm, cckId, cck, initial, reselection, rfl⟩ := started
  refine ⟨fun gssi gckn associated => ?_, ?_, ?_, ?_, ?_⟩
  · have nothing : (∅ : GroupAssociations).lookup gssi = some gckn := associated
    simp at nothing
  · exact nofun
  · exact nofun
  · exact nofun
  · exact nofun

theorem reachable_sound (reachable : Reachable machine Careful cell) : cell.Sound := by
  apply reachable.invariant
  · exact fun _ started => sound_start started
  · exact fun _ _ _ sound careful stepped => sound_step sound careful stepped

def gcksOf (gckVn : BitVec 16) (numbers : List (BitVec 16)) : List RuntimeSc3Gck :=
  numbers.map fun gckn => ⟨gckn, gckVn, 0⟩

/-- Group 91 has key 1; its period 7 is to end after some seconds. -/
def prepared (seconds : Nat) : Sc3gSnapshot :=
  ⟨1, true, 7, gcksOf 7 [1], some 8, gcksOf 8 [1], some (5, seconds), [(91, 1)]⟩

/-- The network has begun period 8, with the keys of some groups. -/
def begun (associations : List (Nat × BitVec 16)) : Sc3gSnapshot :=
  ⟨2, true, 8, gcksOf 8 (associations.map (·.2)), none, [], none, associations⟩

def sc3Start : Sc3Cell := ⟨.new .tea3 1 0 false false, none⟩

def announcing : List Sc3Event := [.snapshot (prepared 1), .schedule 0 0]

/-- A cell selects another version than that of the right period. -/
def Misled (cell : Sc3Cell) (slot : Int) : Bool :=
  cell.plan.any fun plan => cell.sc3.gckVnAt (fromInt slot) ≠ (plan.periodAt slot).gckVn

theorem not_selectsPeriod_of_misled {slot : Int} (misled : cell.Misled slot = true) :
    ¬ cell.SelectsPeriod fun _ => True := by
  intro selects
  obtain ⟨plan, is, unlike⟩ := (any_eq_true _ _).mp misled
  have same := congrArg CryptoPeriod.gckVn (selects plan is slot trivial)
  exact of_decide_eq_true unlike same

end Sc3Cell

end Bluestation
