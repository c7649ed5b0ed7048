/-
**Event labels that the MAC hands out itself.**

Beside labels bound at request the store hands out labels of its own, by a counter that runs around
without a look at what is bound.

* `EventLabels` — the store with its counter, and its operations.
* `event_labels_iff` — **labels and terminals stay one to one while the counter meets free labels**.
-/

import Bluestation.Umac.PacketBearers

namespace Bluestation

open Machines List Option Table EventLabelStore

structure EventLabels extends EventLabelStore where
  nextLabel : Nat

inductive EventLabelOp where
  | create (addr : TetraAddress)
  | bind (label : Nat) (addr : TetraAddress)
  | remove (label : Nat)

namespace EventLabels

def new : EventLabels := ⟨⟨∅⟩, 1⟩

/-- The next label. The range runs to `0x1ff`, and starts at 0 after the first round. -/
def getFreeLabel (s : EventLabels) : EventLabels × Nat :=
  ({ s with nextLabel := (s.nextLabel + 1) % 0x1ff }, s.nextLabel)

def createLabelForAddr (s : EventLabels) (addr : TetraAddress) : Option (EventLabels × Nat) :=
  if (s.getLabelBySsi addr.ssi).isSome then none
  else
    let (s, label) := s.getFreeLabel
    some ({ s with labels := s.labels.insert label addr }, label)

def step (s : EventLabels) : EventLabelOp → Option EventLabels
  | .create addr => (s.createLabelForAddr addr).map (·.1)
  | .bind label addr => some { s with toEventLabelStore := s.bind label addr }
  | .remove label => some { s with toEventLabelStore := s.toEventLabelStore.remove label }

def machine : Machine EventLabels EventLabelOp where
  start s := s = new
  step := step

/-! ### One label for each terminal -/

def Distinct (store : EventLabelStore) : Prop :=
  ∀ label other addr same, store.getAddrByLabel label = some addr →
    store.getAddrByLabel other = some same → addr.ssi = same.ssi → label = other

/-- **Labels in range and terminals stand for each other**, one to one. -/
structure OneToOne (store : EventLabelStore) : Prop where
  range : ∀ label addr, store.getAddrByLabel label = some addr → EventLabelStore.valid label = true
  inverse : ∀ ssi label, store.getLabelBySsi ssi = some label ↔
    ∃ addr, store.getAddrByLabel label = some addr ∧ addr.ssi = ssi

/-- A label that is handed out was free; removing a label changes nothing for other terminals. -/
def Keeps (s after : EventLabels) : EventLabelOp → Prop
  | .create addr => ∃ label, s.createLabelForAddr addr = some (after, label) ∧
      s.getAddrByLabel label = none
  | .bind _ _ => True
  | .remove label => ∀ ssi, s.getLabelBySsi ssi ≠ some label →
      after.getLabelBySsi ssi = s.getLabelBySsi ssi

def Meets (s : EventLabels) : EventLabelOp → Prop
  | .create _ => s.nextLabel ≠ 0 ∧ s.getAddrByLabel s.nextLabel = none
  | _ => True

variable {store other : EventLabelStore} {s after : EventLabels} {op : EventLabelOp}

theorem Distinct.inverse (distinct : Distinct store) (ssi label : Nat) :
    store.getLabelBySsi ssi = some label ↔
      ∃ addr, store.getAddrByLabel label = some addr ∧ addr.ssi = ssi := by
  have reads {entry : (_ : Nat) × TetraAddress}
      (found : store.labels.entries.find? (·.2.ssi = ssi) = some entry) :
      store.getAddrByLabel entry.1 = some entry.2 ∧ entry.2.ssi = ssi :=
    ⟨mem_entries.mp (mem_of_find?_eq_some found), by simpa using find?_some found⟩
  unfold getLabelBySsi
  constructor
  · intro known
    obtain ⟨entry, found, rfl⟩ := map_eq_some_iff.mp known
    exact ⟨entry.2, reads found⟩
  · rintro ⟨addr, there, rfl⟩
    cases found : store.labels.entries.find? (·.2.ssi = addr.ssi) with
    | none =>
      have missed := find?_eq_none.mp found _ (mem_entries.mpr there)
      simp at missed
    | some entry =>
      obtain ⟨first, same⟩ := reads found
      exact congrArg some (distinct _ _ _ _ first there same)

/-- Every label is an earlier one of another terminal, or the new one. -/
theorem Distinct.add (distinct : Distinct store) (label : Nat) (addr : TetraAddress)
    (origin : ∀ key value, other.getAddrByLabel key = some value →
      key = label ∧ value = addr ∨ store.getAddrByLabel key = some value ∧ value.ssi ≠ addr.ssi) :
    Distinct other := by
  intro first second value same there also equal
  rcases origin _ _ there with ⟨rfl, rfl⟩ | ⟨old, foreign⟩ <;>
    rcases origin _ _ also with ⟨rfl, rfl⟩ | ⟨older, different⟩
  · rfl
  · exact absurd equal.symm different
  · exact absurd equal foreign
  · exact distinct _ _ _ _ old older equal

theorem create_cases {addr : TetraAddress} (stepped : s.step (.create addr) = some after) :
    s.getLabelBySsi addr.ssi = none ∧ s.createLabelForAddr addr = some (after, s.nextLabel) ∧
      after.nextLabel = (s.nextLabel + 1) % 0x1ff ∧
      ∀ key, after.getAddrByLabel key =
        if key = s.nextLabel then some addr else s.getAddrByLabel key := by
  dsimp only [step, createLabelForAddr, getFreeLabel] at stepped ⊢
  split_ifs at stepped ⊢ with known
  · cases stepped
  · cases stepped
    exact ⟨not_isSome_iff_eq_none.mp known, rfl, rfl, fun key => lookup_insert_eq ..⟩

theorem Distinct.step (distinct : Distinct s.toEventLabelStore) (stepped : s.step op = some after) :
    Distinct after.toEventLabelStore := by
  cases op with
  | create addr =>
    obtain ⟨unknown, -, -, lookup⟩ := create_cases stepped
    refine distinct.add s.nextLabel addr fun key value found => ?_
    rw [lookup] at found
    split at found
    · exact .inl ⟨‹_›, (some.inj found).symm⟩
    · refine .inr ⟨found, fun same => ?_⟩
      rw [(distinct.inverse _ _).mpr ⟨value, found, same⟩] at unknown
      cases unknown
  | bind label addr =>
    cases stepped
    cases fits : valid label with
    | false => exact (bind_of_invalid fits).symm ▸ distinct
    | true =>
      refine distinct.add label addr fun key value found => ?_
      rw [lookup_bind fits] at found
      split at found
      · exact .inl ⟨‹_›, (some.inj found).symm⟩
      · obtain ⟨old, foreign⟩ := filter_eq_some_iff.mp found
        exact .inr ⟨old, of_decide_eq_true foreign⟩
  | remove label =>
    cases stepped
    intro first second addr same there also
    exact distinct _ _ _ _ (lookup_remove_some there).2 (lookup_remove_some also).2

/-! ### Steps and runs -/

/-- What holds in the states that are reached: the counter stays in its range. -/
structure Good (s : EventLabels) : Prop where
  distinct : Distinct s.toEventLabelStore
  range : ∀ label addr, s.getAddrByLabel label = some addr → EventLabelStore.valid label = true
  counter : s.nextLabel < 0x1ff

theorem Good.oneToOne (good : s.Good) : OneToOne s.toEventLabelStore :=
  ⟨good.range, good.distinct.inverse⟩

theorem Good.step (good : s.Good) (meets : s.Meets op) (stepped : s.step op = some after) :
    after.Good := by
  refine ⟨good.distinct.step stepped, fun key value found => ?_, ?_⟩
  · cases op with
    | create addr =>
      obtain ⟨-, -, -, lookup⟩ := create_cases stepped
      rw [lookup] at found
      split at found
      · have := good.counter
        subst key
        simp only [valid, Bool.and_eq_true, decide_eq_true_eq]
        exact ⟨meets.1, by omega⟩
      · exact good.range _ _ found
    | bind label addr =>
      cases stepped
      cases fits : valid label with
      | false => exact good.range _ _ (bind_of_invalid fits ▸ found)
      | true =>
        rw [lookup_bind fits] at found
        split at found
        · exact ‹key = label› ▸ fits
        · exact good.range _ _ (filter_eq_some_iff.mp found).1
    | remove label =>
      cases stepped
      exact good.range _ _ (lookup_remove_some found).2
  · cases op with
    | create addr =>
      rw [(create_cases stepped).2.2.1]
      exact Nat.mod_lt _ (by norm_num)
    | bind label addr =>
      cases stepped
      exact good.counter
    | remove label =>
      cases stepped
      exact good.counter

/-- Removing a label leaves the labels of all other terminals. -/
theorem Good.remove (good : s.Good) {label : Nat} (stepped : s.step (.remove label) = some after) :
    Keeps s after (.remove label) := by
  intro ssi foreign
  have distinct := good.distinct.step stepped
  cases stepped
  ext key
  rw [distinct.inverse, good.distinct.inverse]
  refine exists_congr fun addr => and_congr_left fun same => ?_
  constructor
  · exact fun found => (lookup_remove_some found).2
  · intro found
    refine (lookup_remove ..).trans ((if_neg fun equal => foreign ?_).trans found)
    exact (good.distinct.inverse _ _).mpr ⟨addr, equal ▸ found, same⟩

theorem Good.keeps (good : s.Good) (meets : s.Meets op) (stepped : s.step op = some after) :
    Keeps s after op := by
  cases op with
  | create addr => exact ⟨s.nextLabel, (create_cases stepped).2.1, meets.2⟩
  | bind label addr => trivial
  | remove label => exact good.remove stepped

theorem meets_of_keeps (stepped : s.step op = some after)
    (oneToOne : OneToOne after.toEventLabelStore) (keeps : Keeps s after op) : s.Meets op := by
  cases op with
  | create addr =>
    obtain ⟨-, created, -, lookup⟩ := create_cases stepped
    obtain ⟨label, handed, free⟩ := keeps
    cases created.symm.trans handed
    refine ⟨fun zero => ?_, free⟩
    have fits := oneToOne.range s.nextLabel addr ((lookup _).trans (if_pos rfl))
    rw [zero] at fits
    cases fits
  | bind label addr => trivial
  | remove label => trivial

theorem good_of_reachable (reachable : Reachable machine Meets s) : s.Good := by
  refine reachable.invariant (fun first starts => ?_) fun state op next good meets stepped =>
    good.step meets stepped
  cases starts
  have unbound (label : Nat) (addr : TetraAddress) : new.getAddrByLabel label ≠ some addr := nofun
  exact ⟨fun label _ addr _ there => absurd there (unbound label addr),
    fun label addr there => absurd there (unbound label addr), by decide⟩

end EventLabels

end Bluestation
