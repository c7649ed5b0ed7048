/-
**The owners of the traffic timeslots, and bitmaps of timeslots.**

Timeslots 2 to 4 have an owner or are free; a slot that a common control channel waits for is not
given to anybody else. In a bitmap the slot `ts` is the bit `ts - 1`.

* `reserve_cases`, `release_owner` — what one call changes.
* `reserveEach_spec` — the slots of a bitmap that can be had are taken, and no others.
-/

import Mathlib.Tactic

namespace Bluestation

/-! ### Bitmaps -/

/-- A bitmap of timeslots. -/
abbrev SlotBitmap := BitVec 8

namespace SlotBitmap

def bit (timeslot : Nat) : SlotBitmap := BitVec.twoPow 8 (timeslot - 1)

/-- `bitmap & (1 << (timeslot - 1)) != 0`. -/
def has (bitmap : SlotBitmap) (timeslot : Nat) : Bool := bitmap.getLsbD (timeslot - 1)

def timeslots : List Nat := [2, 3, 4]

def slots (bitmap : SlotBitmap) : List Nat := timeslots.filter bitmap.has

variable {timeslot : Nat}

theorem mem_timeslots : timeslot ∈ timeslots ↔ 2 ≤ timeslot ∧ timeslot ≤ 4 := by
  simp only [timeslots, List.mem_cons, List.not_mem_nil, or_false]
  omega

theorem mem_slots {bitmap : SlotBitmap} :
    timeslot ∈ bitmap.slots ↔ timeslot ∈ timeslots ∧ bitmap.has timeslot = true := by
  rw [slots, List.mem_filter]

@[simp] theorem has_zero (timeslot : Nat) : (0 : SlotBitmap).has timeslot = false := by
  simp [has]

@[simp] theorem has_or (first second : SlotBitmap) (timeslot : Nat) :
    SlotBitmap.has (first ||| second) timeslot = (first.has timeslot || second.has timeslot) := by
  simp [has]

@[simp] theorem has_and (first second : SlotBitmap) (timeslot : Nat) :
    SlotBitmap.has (first &&& second) timeslot = (first.has timeslot && second.has timeslot) := by
  simp [has]

theorem has_not (bitmap : SlotBitmap) (member : timeslot ∈ timeslots) :
    SlotBitmap.has (~~~bitmap) timeslot = !bitmap.has timeslot := by
  have := (mem_timeslots.mp member).2
  have inside : timeslot - 1 < 8 := by omega
  simp [has, inside]

theorem has_bit {first second : Nat} (firstMem : first ∈ timeslots) (secondMem : second ∈ timeslots) :
    (bit first).has second = decide (first = second) := by
  have first := mem_timeslots.mp firstMem
  simp only [has, bit]
  grind

end SlotBitmap

/-! ### The allocator -/

inductive TimeslotOwner where
  | brew | cmce | packetData | commonControl
deriving DecidableEq

inductive TimeslotAllocErr where
  | invalidTimeslot (ts : Nat)
  | inUse (ts : Nat) (owner : TimeslotOwner)
  | notAllocated (ts : Nat)
  | ownerMismatch (ts : Nat) (owner actual : TimeslotOwner)

/-- Owners and waiting common control channels, by timeslot. -/
@[ext] structure TimeslotAllocator where
  owners : Nat → Option TimeslotOwner
  packetPreemptionRequested : Bool
  commonControlPending : Nat → Bool

namespace TimeslotAllocator

open SlotBitmap TimeslotAllocator

def default : TimeslotAllocator := ⟨fun _ => none, false, fun _ => false⟩

def setCommonControlTarget (alloc : TimeslotAllocator) (count : Nat) : TimeslotAllocator :=
  { alloc with commonControlPending := fun ts => ts - 2 < min count 3 }

def give (alloc : TimeslotAllocator) (owner : Option TimeslotOwner) (ts : Nat) :
    TimeslotAllocator :=
  { alloc with owners := Function.update alloc.owners ts owner }

def holdsPacketData (alloc : TimeslotAllocator) : Bool :=
  timeslots.any fun ts => alloc.owners ts = some .packetData

def allocateAny (alloc : TimeslotAllocator) (owner : TimeslotOwner) :
    Option Nat × TimeslotAllocator :=
  match timeslots.find? fun ts => (alloc.owners ts).isNone && !alloc.commonControlPending ts with
  | some ts => (some ts, alloc.give (some owner) ts)
  | none =>
    if owner = .cmce && alloc.holdsPacketData then
      (none, { alloc with packetPreemptionRequested := true })
    else (none, alloc)

def takePacketPreemptionRequest (alloc : TimeslotAllocator) : Bool × TimeslotAllocator :=
  (alloc.packetPreemptionRequested, { alloc with packetPreemptionRequested := false })

def requestPacketPreemption (alloc : TimeslotAllocator) : TimeslotAllocator :=
  if alloc.holdsPacketData then { alloc with packetPreemptionRequested := true } else alloc

def reserve (alloc : TimeslotAllocator) (owner : TimeslotOwner) (ts : Nat) :
    Except TimeslotAllocErr TimeslotAllocator :=
  if ts ∈ timeslots then
    match alloc.owners ts with
    | none =>
      if !alloc.commonControlPending ts || owner = .commonControl then
        .ok (alloc.give (some owner) ts)
      else .error (.inUse ts .commonControl)
    | some existing => .error (.inUse ts existing)
  else .error (.invalidTimeslot ts)

def release (alloc : TimeslotAllocator) (owner : TimeslotOwner) (ts : Nat) :
    Except TimeslotAllocErr TimeslotAllocator :=
  if ts ∈ timeslots then
    match alloc.owners ts with
    | none => .error (.notAllocated ts)
    | some existing =>
      if existing ≠ owner then .error (.ownerMismatch ts owner existing)
      else .ok (alloc.give none ts)
  else .error (.invalidTimeslot ts)

/-- Reserve what can be had of a bitmap, slot by slot. -/
def reserveEach (alloc : TimeslotAllocator) (owner : TimeslotOwner) (requested : SlotBitmap) :
    TimeslotAllocator × SlotBitmap :=
  timeslots.foldl (fun (alloc, allocated) ts =>
    if requested.has ts then
      match alloc.reserve owner ts with
      | .ok reserved => (reserved, allocated ||| bit ts)
      | .error _ => (alloc, allocated)
    else (alloc, allocated)) (alloc, 0)

/-- Release every slot of a bitmap; a slot that cannot be released stays. -/
def releaseEach (alloc : TimeslotAllocator) (owner : TimeslotOwner) (bitmap : SlotBitmap) :
    TimeslotAllocator :=
  timeslots.foldl (fun alloc ts =>
    if bitmap.has ts then
      match alloc.release owner ts with
      | .ok released => released
      | .error _ => alloc
    else alloc) alloc

variable {alloc : TimeslotAllocator} {owner : TimeslotOwner}

theorem give_owners (alloc : TimeslotAllocator) (owner : Option TimeslotOwner) (ts other : Nat) :
    (alloc.give owner ts).owners other = if other = ts then owner else alloc.owners other :=
  Function.update_apply _ _ _ _

theorem reserve_cases (alloc : TimeslotAllocator) (owner : TimeslotOwner) (ts : Nat) :
    (∃ error, alloc.reserve owner ts = .error error) ∨ ts ∈ timeslots ∧ alloc.owners ts = none ∧
        alloc.reserve owner ts = .ok (alloc.give (some owner) ts) := by
  unfold reserve
  split
  next member =>
    cases held : alloc.owners ts with
    | none =>
      dsimp only
      split
      · exact .inr ⟨member, rfl, rfl⟩
      · exact .inl ⟨_, rfl⟩
    | some existing => exact .inl ⟨_, rfl⟩
  · exact .inl ⟨_, rfl⟩

theorem release_owner (alloc : TimeslotAllocator) (owner : TimeslotOwner) {ts : Nat}
    (member : ts ∈ timeslots) (other : Nat) :
    (match alloc.release owner ts with
      | .ok released => released
      | .error _ => alloc).owners other =
      if other = ts ∧ alloc.owners ts = some owner then none else alloc.owners other := by
  unfold release
  rw [if_pos member]
  cases held : alloc.owners ts with
  | none => simp
  | some existing =>
    by_cases same : existing = owner
    · rw [same]
      by_cases here : other = ts <;> simp [give_owners, here]
    · simp [same]

/-- What a pass over some slots has taken: it was free, and it was asked for. -/
theorem reserveEach_loop (owner : TimeslotOwner) (requested : SlotBitmap) (pending : List Nat)
    (within : ∀ ts ∈ pending, ts ∈ timeslots) (first : TimeslotAllocator) (before : SlotBitmap) :
    let result := pending.foldl (fun (alloc, allocated) ts =>
      if requested.has ts then
        match reserve alloc owner ts with
        | .ok reserved => (reserved, allocated ||| bit ts)
        | .error _ => (alloc, allocated)
      else (alloc, allocated)) (first, before)
    (∀ ts ∈ timeslots, result.2.has ts = true → before.has ts = true ∨
      first.owners ts = none ∧ requested.has ts = true ∧ result.1.owners ts = some owner) ∧
    (∀ ts ∈ timeslots, before.has ts = true → result.2.has ts = true) ∧
    (∀ ts, result.1.owners ts ≠ first.owners ts → ts ∈ timeslots ∧ first.owners ts = none ∧
      result.1.owners ts = some owner ∧ result.2.has ts = true) := by
  induction pending generalizing first before with
  | nil =>
    refine ⟨fun ts _ holds => .inl holds, fun ts _ holds => holds, fun ts changed => ?_⟩
    exact absurd rfl changed
  | cons ts pending ih =>
    have member := within ts List.mem_cons_self
    have rest : ∀ other ∈ pending, other ∈ timeslots := fun other mem =>
      within other (List.mem_cons_of_mem ts mem)
    simp only [List.foldl_cons]
    by_cases asked : requested.has ts = true
    · rw [if_pos asked]
      rcases reserve_cases first owner ts with ⟨error, refused⟩ | ⟨-, free, taken⟩
      · rw [refused]
        exact ih rest first before
      · rw [taken]
        obtain ⟨gained, kept, changed⟩ := ih rest (first.give (some owner) ts) (before ||| bit ts)
        refine ⟨fun other otherMem holds => ?_, fun other otherMem holds => ?_,
          fun other differs => ?_⟩
        · rcases gained other otherMem holds with here | ⟨free', asked', owned⟩
          · rw [has_or, has_bit member otherMem, Bool.or_eq_true, decide_eq_true_eq] at here
            rcases here with here | rfl
            · exact .inl here
            · refine .inr ⟨free, asked, ?_⟩
              by_contra lost
              refine absurd (changed ts ?_).2.2.1 lost
              rw [give_owners, if_pos rfl]
              exact lost
          · rw [give_owners] at free'
            split at free'
            · cases free'
            · exact .inr ⟨free', asked', owned⟩
        · exact kept other otherMem (by rw [has_or, holds, Bool.true_or])
        · by_cases same : other = ts
          · subst same
            have held : (first.give (some owner) other).owners other = some owner := by
              rw [give_owners, if_pos rfl]
            refine ⟨member, free, ?_, kept other member ?_⟩
            · by_contra lost
              refine absurd (changed other ?_).2.2.1 lost
              rw [held]
              exact lost
            · rw [has_or, has_bit member member]
              simp
          · have frame : (first.give (some owner) ts).owners other = first.owners other := by
              rw [give_owners, if_neg same]
            have := changed other (by rw [frame]; exact differs)
            rw [frame] at this
            exact this
    · rw [if_neg asked]
      exact ih rest first before

/-- **Reserving takes free slots of the bitmap**, and nothing else changes. -/
theorem reserveEach_spec (alloc : TimeslotAllocator) (owner : TimeslotOwner)
    (requested : SlotBitmap) :
    (∀ ts ∈ timeslots, (alloc.reserveEach owner requested).2.has ts = true →
      alloc.owners ts = none ∧ requested.has ts = true ∧
        (alloc.reserveEach owner requested).1.owners ts = some owner) ∧
    (∀ ts, (alloc.reserveEach owner requested).1.owners ts ≠ alloc.owners ts →
      ts ∈ timeslots ∧ alloc.owners ts = none ∧
        (alloc.reserveEach owner requested).1.owners ts = some owner ∧
        (alloc.reserveEach owner requested).2.has ts = true) := by
  obtain ⟨gained, -, changed⟩ :=
    reserveEach_loop owner requested timeslots (fun _ => id) alloc 0
  refine ⟨fun ts member holds => ?_, changed⟩
  rcases gained ts member holds with before | taken
  · rw [has_zero] at before
    cases before
  · exact taken

/-- What is obtained at all is a traffic slot. -/
theorem reserveEach_some {alloc : TimeslotAllocator} {owner : TimeslotOwner}
    {requested : SlotBitmap} (some : (alloc.reserveEach owner requested).2 ≠ 0) :
    ∃ ts ∈ timeslots, (alloc.reserveEach owner requested).2.has ts = true := by
  have loop (pending : List Nat) (within : ∀ ts ∈ pending, ts ∈ timeslots)
      (first : TimeslotAllocator) (before : SlotBitmap) :
      let result := pending.foldl (fun (alloc, allocated) ts =>
        if requested.has ts then
          match reserve alloc owner ts with
          | .ok reserved => (reserved, allocated ||| bit ts)
          | .error _ => (alloc, allocated)
        else (alloc, allocated)) (first, before)
      result.2 = before ∨ ∃ ts ∈ timeslots, result.2.has ts = true := by
    induction pending generalizing first before with
    | nil => exact .inl rfl
    | cons ts pending ih =>
      have member := within ts List.mem_cons_self
      have rest : ∀ other ∈ pending, other ∈ timeslots := fun other mem =>
        within other (List.mem_cons_of_mem ts mem)
      simp only [List.foldl_cons]
      split
      · cases first.reserve owner ts with
        | error _ => exact ih rest first before
        | ok reserved =>
          refine .inr ⟨ts, member, ?_⟩
          refine (reserveEach_loop owner requested pending rest reserved
            (before ||| bit ts)).2.1 ts member ?_
          rw [has_or, has_bit member member, decide_eq_true rfl, Bool.or_true]
      · exact ih rest first before
  exact (loop timeslots (fun _ => id) alloc 0).resolve_left some

theorem reserveEach_owner (alloc : TimeslotAllocator) (owner : TimeslotOwner)
    (requested : SlotBitmap) {ts : Nat} (member : ts ∈ timeslots) :
    ((alloc.reserveEach owner requested).2.has ts = true ∧ alloc.owners ts = none ∧
        requested.has ts = true ∧ (alloc.reserveEach owner requested).1.owners ts = some owner) ∨
      (alloc.reserveEach owner requested).2.has ts = false ∧
        (alloc.reserveEach owner requested).1.owners ts = alloc.owners ts := by
  obtain ⟨taken, changed⟩ := alloc.reserveEach_spec owner requested
  cases got : (alloc.reserveEach owner requested).2.has ts with
  | true => exact .inl ⟨rfl, taken ts member got⟩
  | false =>
    refine .inr ⟨rfl, ?_⟩
    by_contra differs
    rw [(changed ts differs).2.2.2] at got
    cases got

theorem releaseEach_loop (owner : TimeslotOwner) (bitmap : SlotBitmap) (pending : List Nat)
    (within : ∀ ts ∈ pending, ts ∈ timeslots) (first : TimeslotAllocator) (other : Nat) :
    (pending.foldl (fun alloc ts =>
      if bitmap.has ts then
        match release alloc owner ts with
        | .ok released => released
        | .error _ => alloc
      else alloc) first).owners other =
      if other ∈ pending ∧ bitmap.has other = true ∧ first.owners other = some owner then none
      else first.owners other := by
  induction pending generalizing first with
  | nil => simp
  | cons ts pending ih =>
    have member := within ts List.mem_cons_self
    rw [List.foldl_cons, ih fun other mem => within other (List.mem_cons_of_mem ts mem)]
    by_cases asked : bitmap.has ts = true
    · rw [if_pos asked, release_owner first owner member other]
      by_cases same : other = ts
      · subst same
        by_cases held : first.owners other = some owner <;> simp [held, asked]
      · simp [same]
    · rw [if_neg asked]
      by_cases same : other = ts
      · subst same
        simp [asked]
      · simp [same]

/-- **Releasing gives back the slots of the bitmap that the owner holds.** -/
theorem releaseEach_owner (alloc : TimeslotAllocator) (owner : TimeslotOwner)
    (bitmap : SlotBitmap) (ts : Nat) :
    (alloc.releaseEach owner bitmap).owners ts =
      if ts ∈ timeslots ∧ bitmap.has ts = true ∧ alloc.owners ts = some owner then none
      else alloc.owners ts :=
  releaseEach_loop owner bitmap timeslots (fun _ => id) alloc ts

end TimeslotAllocator

end Bluestation
