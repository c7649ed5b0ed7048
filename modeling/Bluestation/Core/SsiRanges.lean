/-
**Ranges of subscriber identities.**

The ranges are sorted by their start, and the start of each is compared with the end of the one before
it, plus one. Behind a range that ends at the largest identity that sum overflows: a crash where
overflow is checked, and else no bound at all.

* `pairwise_apart_iff` — of sorted ranges, those that do not overlap.
* `constructed_iff` — **when the construction does what it says, and what the ranges contain.**
-/

import Mathlib.Tactic

namespace Bluestation

/-- A range; its end is inside. -/
structure SsiRange where
  start : BitVec 32
  stop : BitVec 32

inductive RangeFault where
  | invalid (range : SsiRange)
  | overlap (range : SsiRange)
  | overflow

/-- Only made by sorting. -/
structure SortedDisjointSsiRanges where
  asSlice : List SsiRange
  sorted : asSlice.Pairwise (·.start ≤ ·.start)

namespace SortedDisjointSsiRanges

open List

def MAX : BitVec 32 := 0xFFFFFFFF

/-- The loop over the sorted ranges; a checked sum does not wrap. -/
def sanityCheck (checked : Bool) : (lowerBound : BitVec 32) → List SsiRange → Except RangeFault Unit
  | _, [] => .ok ()
  | lowerBound, range :: rest =>
    if range.stop < range.start then .error (.invalid range)
    else if range.start < lowerBound then .error (.overlap range)
    else if checked = true ∧ range.stop = MAX then .error .overflow
    else sanityCheck checked (range.stop + 1) rest

def sortByStart (ranges : List SsiRange) : List SsiRange := ranges.mergeSort (·.start ≤ ·.start)

theorem pairwise_sortByStart (ranges : List SsiRange) :
    (sortByStart ranges).Pairwise (·.start ≤ ·.start) := by
  have sorted : (sortByStart ranges).Pairwise (decide <| ·.start ≤ ·.start) := pairwise_mergeSort
    (fun a b c => by simpa using BitVec.le_trans) (fun a b => by simpa using BitVec.le_total _ _) ranges
  exact sorted.imp of_decide_eq_true

def fromVecSsirange (checked : Bool) (ranges : List SsiRange) :
    Except RangeFault SortedDisjointSsiRanges := do
  sanityCheck checked 0 (sortByStart ranges)
  return ⟨sortByStart ranges, pairwise_sortByStart ranges⟩

def fromVecTuple (checked : Bool) (tuples : List (BitVec 32 × BitVec 32)) :
    Except RangeFault SortedDisjointSsiRanges :=
  fromVecSsirange checked (tuples.map fun (start, stop) => ⟨start, stop⟩)

def containsFrom (addr : BitVec 32) : List SsiRange → Bool
  | [] => false
  | range :: rest =>
    if range.start ≤ addr ∧ addr ≤ range.stop then true
    else if addr < range.stop then false
    else containsFrom addr rest

def contains (ranges : SortedDisjointSsiRanges) (addr : BitVec 32) : Bool :=
  containsFrom addr ranges.asSlice

variable {ranges : List SsiRange}

/-! ### Looking up -/

def Has (range : SsiRange) (addr : BitVec 32) : Prop := range.start ≤ addr ∧ addr ≤ range.stop

/-- **An identity is found in sorted ranges if one of them has it**, overlapping or not. -/
theorem containsFrom_iff (sorted : ranges.Pairwise (·.start ≤ ·.start)) (addr : BitVec 32) :
    containsFrom addr ranges = true ↔ ∃ range ∈ ranges, Has range addr := by
  induction ranges with
  | nil => simp [containsFrom]
  | cons range rest ih =>
    obtain ⟨first, sorted⟩ := pairwise_cons.mp sorted
    simp only [containsFrom, mem_cons, exists_eq_or_imp]
    split_ifs with here passed
    · exact iff_of_true rfl (.inl here)
    · -- The address lies before this range, and so before the later ones.
      refine iff_of_false id ?_
      rintro (there | ⟨later, member, there⟩)
      · exact here there
      · have := first later member
        unfold Has at there
        bv_omega
    · rw [ih sorted]
      exact (or_iff_right here).symm

/-! ### The check -/

/-- A range starts behind another one, or nothing bounds it. -/
def Follows (before range : SsiRange) : Prop := before.stop = MAX ∨ before.stop < range.start

/-- **What the check lets through.** -/
theorem sanityCheck_eq_ok_iff {checked : Bool} {lowerBound : BitVec 32} :
    sanityCheck checked lowerBound ranges = .ok () ↔
      (∀ range ∈ ranges, range.start ≤ range.stop ∧ (checked = true → range.stop ≠ MAX)) ∧
        (∀ range ∈ ranges.head?, lowerBound ≤ range.start) ∧ ranges.IsChain Follows := by
  induction ranges generalizing lowerBound with
  | nil => simp [sanityCheck]
  | cons range rest ih =>
    have bound (next : SsiRange) : range.stop + 1 ≤ next.start ↔ Follows range next := by
      unfold Follows MAX
      bv_omega
    simp only [sanityCheck, isChain_cons, forall_mem_cons, head?_cons, Option.mem_some_iff,
      forall_eq', ← bound]
    split_ifs with invalid overlap overflow
    · simp [BitVec.not_le.mpr invalid]
    · simp [BitVec.not_le.mpr overlap]
    · simp [overflow]
    · rw [ih]
      have valid := BitVec.not_lt.mp invalid
      have behind := BitVec.not_lt.mp overlap
      tauto

/-- Each range has a start before its end, and no two overlap. -/
def WellFormed (ranges : List SsiRange) : Prop :=
  (∀ range ∈ ranges, range.start ≤ range.stop) ∧
    ranges.Pairwise fun first second => ∀ addr, Has first addr → ¬ Has second addr

/-- **Sorted ranges do not overlap if each follows the one before it**, and none but the last is
unbounded. -/
theorem pairwise_apart_iff (sorted : ranges.Pairwise (·.start ≤ ·.start))
    (valid : ∀ range ∈ ranges, range.start ≤ range.stop) :
    (ranges.Pairwise fun first second => ∀ addr, Has first addr → ¬ Has second addr) ↔
      ranges.IsChain Follows ∧ ∀ range ∈ ranges.dropLast, range.stop ≠ MAX := by
  induction ranges with
  | nil => simp
  | cons range rest ih =>
    obtain ⟨first, sorted⟩ := pairwise_cons.mp sorted
    obtain ⟨own, valid⟩ := forall_mem_cons.mp valid
    rw [pairwise_cons, ih sorted valid, isChain_cons]
    -- A later range is apart from this one if it starts behind its end.
    have apart {later : SsiRange} (member : later ∈ rest) :
        (∀ addr, Has range addr → ¬ Has later addr) ↔ range.stop < later.start := by
      have order := first later member
      have proper := valid later member
      constructor
      · intro never
        by_contra touch
        exact never later.start ⟨order, BitVec.not_lt.mp touch⟩ ⟨BitVec.le_refl _, proper⟩
      · rintro behind addr ⟨-, low⟩ ⟨high, -⟩
        bv_omega
    cases rest with
    | nil => simp
    | cons next rest =>
      have next_first := (pairwise_cons.mp sorted).1
      have bounded : (∀ later ∈ next :: rest, ∀ addr, Has range addr → ¬ Has later addr) ↔
          Follows range next ∧ range.stop ≠ MAX := by
        rw [forall_mem_cons, apart mem_cons_self]
        unfold Follows MAX
        constructor
        · rintro ⟨behind, -⟩
          exact ⟨.inr behind, by bv_omega⟩
        · rintro ⟨follows, bounded⟩
          have behind := follows.resolve_left bounded
          refine ⟨behind, fun later member => ?_⟩
          rw [apart (mem_cons_of_mem _ member)]
          have := next_first later member
          bv_omega
      rw [bounded, dropLast_cons_cons, forall_mem_cons, head?_cons]
      simp only [Option.mem_some_iff, forall_eq']
      tauto

/-! ### Construction -/

theorem fromVecSsirange_ok_iff {checked : Bool} :
    (∃ made, fromVecSsirange checked ranges = .ok made) ↔
      (∀ range ∈ ranges, range.start ≤ range.stop ∧ (checked = true → range.stop ≠ MAX)) ∧
        (sortByStart ranges).IsChain Follows := by
  have same (range : SsiRange) : range ∈ sortByStart ranges ↔ range ∈ ranges := mem_mergeSort
  have built : (∃ made, fromVecSsirange checked ranges = .ok made) ↔
      sanityCheck checked 0 (sortByStart ranges) = .ok () := by
    unfold fromVecSsirange
    cases sanityCheck checked 0 (sortByStart ranges) with
    | error fault => exact iff_of_false nofun nofun
    | ok => exact iff_of_true ⟨_, rfl⟩ rfl
  have low (range : SsiRange) : 0 ≤ range.start := by bv_omega
  simp only [built, sanityCheck_eq_ok_iff, same, low, implies_true, true_and]

theorem wellFormed_iff : WellFormed ranges ↔ (∀ range ∈ ranges, range.start ≤ range.stop) ∧
    (sortByStart ranges).IsChain Follows ∧ ∀ range ∈ (sortByStart ranges).dropLast,
      range.stop ≠ MAX := by
  have sorting : (sortByStart ranges).Perm ranges := mergeSort_perm ranges _
  unfold WellFormed
  refine and_congr_right fun valid => ?_
  rw [← pairwise_apart_iff (pairwise_sortByStart ranges) fun range member =>
    valid range (sorting.subset member)]
  exact (sorting.pairwise_iff fun never addr second first => never addr first second).symm

/-- **When the construction does what it says, and what the ranges contain**: with checked sums it
refuses well-formed ranges that end at the largest identity, without them it accepts overlapping ones
where one that ends there is not the last; the identities that are found are always those of the
ranges. -/
theorem constructed_iff (ranges : List SsiRange) :
    (((∃ made, fromVecSsirange true ranges = .ok made) ↔ WellFormed ranges) ↔
      ¬ (WellFormed ranges ∧ ∃ range ∈ ranges, range.stop = MAX)) ∧
    (((∃ made, fromVecSsirange false ranges = .ok made) ↔ WellFormed ranges) ↔
      ¬ ((∀ range ∈ ranges, range.start ≤ range.stop) ∧ (sortByStart ranges).IsChain Follows ∧
        ∃ range ∈ (sortByStart ranges).dropLast, range.stop = MAX)) ∧
    (∀ checked, fromVecTuple checked (ranges.map fun range => (range.start, range.stop)) =
      fromVecSsirange checked ranges) ∧
    ∀ checked made, fromVecSsirange checked ranges = .ok made → ∀ addr,
      made.contains addr = true ↔ ∃ range ∈ ranges, Has range addr := by
  have early : (∀ range ∈ ranges, range.stop ≠ MAX) →
      ∀ range ∈ (sortByStart ranges).dropLast, range.stop ≠ MAX := fun bounded range member =>
    bounded range (mem_mergeSort.mp (mem_of_mem_dropLast member))
  rw [fromVecSsirange_ok_iff, fromVecSsirange_ok_iff, wellFormed_iff]
  refine ⟨?_, ?_, fun checked => ?_, fun checked made constructed addr => ?_⟩
  · simp only [forall_true_left, forall_and]
    push Not
    tauto
  · simp only [Bool.false_eq_true, false_implies, and_true]
    push Not
    tauto
  · rw [fromVecTuple, map_map]
    exact congrArg _ (map_id ranges)
  · have kept : made.asSlice = sortByStart ranges := by
      unfold fromVecSsirange at constructed
      cases ran : sanityCheck checked 0 (sortByStart ranges) with
      | error fault =>
        rw [ran] at constructed
        cases constructed
      | ok =>
        rw [ran] at constructed
        cases constructed
        rfl
    refine (containsFrom_iff made.sorted addr).trans ?_
    simp only [kept, sortByStart, mem_mergeSort]

/-- **A range to the largest identity is misjudged**: it is refused where sums are checked, and lets
another one overlap it where they are not. -/
theorem largest_identity_misjudged :
    (¬ ∀ ranges, (∃ made, fromVecSsirange true ranges = .ok made) ↔ WellFormed ranges) ∧
      ¬ ∀ ranges, (∃ made, fromVecSsirange false ranges = .ok made) ↔ WellFormed ranges := by
  constructor
  · intro all
    have wellFormed : WellFormed [⟨100, MAX⟩] := ⟨by decide, pairwise_singleton _ _⟩
    obtain ⟨bounded, -⟩ := fromVecSsirange_ok_iff.mp ((all _).mpr wellFormed)
    exact (bounded _ mem_cons_self).2 rfl rfl
  · intro all
    have sorted : sortByStart [⟨100, MAX⟩, ⟨200, 300⟩] = [⟨100, MAX⟩, ⟨200, 300⟩] :=
      mergeSort_of_pairwise (by decide)
    have accepted : ∃ made, fromVecSsirange false [⟨100, MAX⟩, ⟨200, 300⟩] = .ok made := by
      rw [fromVecSsirange_ok_iff, sorted]
      exact ⟨by decide, .cons_cons (.inl rfl) (.singleton _)⟩
    have apart := (pairwise_cons.mp ((all _).mp accepted).2).1 _ mem_cons_self
    exact apart 200 ⟨by decide, by decide⟩ ⟨by decide, by decide⟩

end SortedDisjointSsiRanges

end Bluestation
