/-
**The timeslot allocator over whole histories.**

Any number of entities call the allocator in any order. A ledger of what the answers have handed out
and taken back is what these entities believe.

* `run_cases` — what one call can do.
* `timeslot_ownership` — after any calls the ledger names one owner of a slot, the recorded one.
-/

import Bluestation.Core.TimeslotAlloc
import Bluestation.Lib.History

namespace Bluestation.TimeslotAllocator

open SlotBitmap Machines List

inductive AllocCall where
  | setCommonControlTarget (count : Nat)
  | allocateAny (owner : TimeslotOwner)
  | reserve (owner : TimeslotOwner) (ts : Nat)
  | release (owner : TimeslotOwner) (ts : Nat)
  | requestPacketPreemption
  | takePacketPreemptionRequest

inductive AllocAnswer where
  | given (owner : TimeslotOwner) (ts : Nat)
  | back (owner : TimeslotOwner) (ts : Nat)
  | done
  | failed

def AllocCall.run (alloc : TimeslotAllocator) : AllocCall → AllocAnswer × TimeslotAllocator
  | .setCommonControlTarget count => (.done, alloc.setCommonControlTarget count)
  | .allocateAny owner =>
    ((alloc.allocateAny owner).1.elim .failed (.given owner), (alloc.allocateAny owner).2)
  | .reserve owner ts =>
    match alloc.reserve owner ts with
    | .ok after => (.given owner ts, after)
    | .error _ => (.failed, alloc)
  | .release owner ts =>
    match alloc.release owner ts with
    | .ok after => (.back owner ts, after)
    | .error _ => (.failed, alloc)
  | .requestPacketPreemption =>
    (if alloc.holdsPacketData then .done else .failed, alloc.requestPacketPreemption)
  | .takePacketPreemptionRequest => (.done, alloc.takePacketPreemptionRequest.2)

/-- Who holds which slot, by the answers. -/
abbrev Ledger := List (TimeslotOwner × Nat)

def AllocAnswer.enter (ledger : Ledger) : AllocAnswer → Ledger
  | .given owner ts => (owner, ts) :: ledger
  | .back owner ts => ledger.filter (· ≠ (owner, ts))
  | _ => ledger

def noted (state : TimeslotAllocator × Ledger) (call : AllocCall) : TimeslotAllocator × Ledger :=
  ((call.run state.1).2, (call.run state.1).1.enter state.2)

/-- The allocator and the ledger after these calls. -/
def played (calls : List AllocCall) : TimeslotAllocator × Ledger := calls.foldl noted (default, [])

/-- **What one call can do**: hand out a free slot that no other owner waits for, take a slot back
from its owner, or leave the owners alone. -/
theorem run_cases (alloc : TimeslotAllocator) (call : AllocCall) :
    (∃ owner, ∃ ts ∈ timeslots, (call.run alloc).1 = .given owner ts ∧ alloc.owners ts = none ∧
      (alloc.commonControlPending ts = true → owner = .commonControl) ∧
      (call.run alloc).2 = alloc.give (some owner) ts) ∨
    (∃ owner ts, call = .release owner ts ∧ (call.run alloc).1 = .back owner ts ∧
      alloc.owners ts = some owner ∧ (call.run alloc).2 = alloc.give none ts) ∨
    (∀ ledger, (call.run alloc).1.enter ledger = ledger) ∧ (call.run alloc).2.owners = alloc.owners ∧
      ((call.run alloc).2.packetPreemptionRequested = true → alloc.packetPreemptionRequested = true ∨
        (call = .requestPacketPreemption ∨ call = .allocateAny .cmce) ∧
          alloc.holdsPacketData = true) := by
  cases call with
  | setCommonControlTarget count => exact .inr (.inr ⟨fun _ => rfl, rfl, .inl⟩)
  | takePacketPreemptionRequest => exact .inr (.inr ⟨fun _ => rfl, rfl, nofun⟩)
  | requestPacketPreemption =>
    simp only [AllocCall.run, requestPacketPreemption]
    cases holds : alloc.holdsPacketData with
    | true => exact .inr (.inr ⟨fun _ => rfl, rfl, fun _ => .inr ⟨.inl trivial, rfl⟩⟩)
    | false => exact .inr (.inr ⟨fun _ => rfl, rfl, .inl⟩)
  | allocateAny owner =>
    simp only [AllocCall.run, allocateAny]
    split
    next ts found =>
      have free := find?_some found
      rw [Bool.and_eq_true, Option.isNone_iff_eq_none, Bool.not_eq_true'] at free
      refine .inl ⟨owner, ts, mem_of_find?_eq_some found, rfl, free.1, fun fenced => ?_, rfl⟩
      rw [free.2] at fenced
      cases fenced
    · split
      next wanted =>
        rw [Bool.and_eq_true, decide_eq_true_eq] at wanted
        obtain ⟨rfl, holds⟩ := wanted
        exact .inr (.inr ⟨fun _ => rfl, rfl, fun _ => .inr ⟨.inr rfl, holds⟩⟩)
      · exact .inr (.inr ⟨fun _ => rfl, rfl, .inl⟩)
  | reserve owner ts =>
    simp only [AllocCall.run]
    cases reserved : alloc.reserve owner ts with
    | error _ => exact .inr (.inr ⟨fun _ => rfl, rfl, .inl⟩)
    | ok after =>
      unfold reserve at reserved
      split at reserved
      next member =>
        split at reserved
        next free =>
          split at reserved
          next open' =>
            cases reserved
            refine .inl ⟨owner, ts, member, rfl, free, fun fenced => ?_, rfl⟩
            simpa [fenced] using open'
          · cases reserved
        · cases reserved
      · cases reserved
  | release owner ts =>
    simp only [AllocCall.run]
    cases released : alloc.release owner ts with
    | error _ => exact .inr (.inr ⟨fun _ => rfl, rfl, .inl⟩)
    | ok after =>
      unfold release at released
      split at released
      · split at released
        · cases released
        next held =>
          split at released
          · cases released
          next same =>
            cases released
            exact .inr (.inl ⟨owner, ts, rfl, rfl, held.trans (congrArg some (not_not.mp same)), rfl⟩)
      · cases released

/-- The ledger and the allocator agree, and only traffic slots have owners. -/
def Agreed (state : TimeslotAllocator × Ledger) : Prop :=
  ∀ owner ts, ((owner, ts) ∈ state.2 ↔ state.1.owners ts = some owner) ∧
    (state.1.owners ts = some owner → ts ∈ timeslots)

theorem Agreed.noted {state : TimeslotAllocator × Ledger} (agreed : Agreed state)
    (call : AllocCall) : Agreed (noted state call) := by
  intro owner ts
  obtain ⟨listed, inside⟩ := agreed owner ts
  rw [TimeslotAllocator.noted]
  rcases run_cases state.1 call with ⟨who, slot, member, given, free, -, after⟩ |
    ⟨who, slot, -, back, held, after⟩ | ⟨same, owners, -⟩
  · rw [given, after, AllocAnswer.enter, mem_cons, listed, give_owners]
    by_cases here : ts = slot
    · subst here
      simp [free, member, eq_comm]
    · simpa [here] using inside
  · rw [back, after, AllocAnswer.enter, mem_filter, listed, give_owners]
    by_cases here : ts = slot
    · grind
    · simpa [here] using inside
  · rw [same, owners]
    exact ⟨listed, inside⟩

/-- **Over whole histories a slot has one owner**, who alone can give it back; a failing call changes
no owner, a fenced slot goes to common control only, and the flag is raised only by a request made
while packet data holds a slot. -/
theorem timeslot_ownership (calls : List AllocCall) (call : AllocCall) :
    let alloc := (played calls).1
    let after := (call.run alloc).2
    (∀ owner ts, (owner, ts) ∈ (played calls).2 ↔ alloc.owners ts = some owner) ∧
      (∀ first second ts, (first, ts) ∈ (played calls).2 → (second, ts) ∈ (played calls).2 →
        first = second ∧ 2 ≤ ts ∧ ts ≤ 4) ∧
      (∀ owner ts, alloc.owners ts = some owner →
        after.owners ts = some owner ∨ call = .release owner ts) ∧
      ((call.run alloc).1 = .failed → after.owners = alloc.owners) ∧
      (∀ owner ts, alloc.commonControlPending ts = true → after.owners ts = some owner →
        alloc.owners ts = some owner ∨ owner = .commonControl) ∧
      (after.packetPreemptionRequested = true → alloc.packetPreemptionRequested = true ∨
        (call = .requestPacketPreemption ∨ call = .allocateAny .cmce) ∧
          alloc.holdsPacketData = true) := by
  intro alloc after
  have agreed : Agreed (played calls) :=
    foldl_preserves (fun _ call agreed => agreed.noted call) calls fun owner ts =>
      ⟨⟨nofun, nofun⟩, nofun⟩
  refine ⟨fun owner ts => (agreed owner ts).1, fun first second ts one other => ?_, ?_⟩
  · have held := (agreed first ts).1.mp one
    refine ⟨?_, mem_timeslots.mp ((agreed first ts).2 held)⟩
    exact Option.some.inj (held.symm.trans ((agreed second ts).1.mp other))
  rcases run_cases alloc call with ⟨who, slot, member, given, free, fence, is⟩ |
    ⟨who, slot, asked, back, held, is⟩ | ⟨same, owners, raised⟩
  · have owners (ts : Nat) : after.owners ts = if ts = slot then some who else alloc.owners ts := by
      rw [show after = _ from is, give_owners]
    refine ⟨?_, ?_, ?_, by rw [show after = _ from is]; exact .inl⟩ <;> grind
  · have owners (ts : Nat) : after.owners ts = if ts = slot then none else alloc.owners ts := by
      rw [show after = _ from is, give_owners]
    refine ⟨?_, ?_, ?_, by rw [show after = _ from is]; exact .inl⟩ <;> grind
  · refine ⟨?_, fun _ => owners, ?_, raised⟩ <;> grind

end Bluestation.TimeslotAllocator
