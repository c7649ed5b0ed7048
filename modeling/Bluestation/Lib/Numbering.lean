/-
**A queue of numbered entries of which only remainders are visible.**

Entries are numbered as they are put in, and leave in any order from a short stretch at the front;
behind it no number is missing. What an observer sees of a number is its remainder.

* `Numbering.push`, `Numbering.eraseIdx` — entries come and go.
* `Numbering.remainder_ne` — near entries have different remainders.
-/

import Mathlib.Tactic

namespace Bluestation

open List Option Nat

/-- Increasing numbers below `next`, starting at `first`; from `first + reach` on none is
missing. -/
structure Numbering (reach first next : Nat) (indices : List Nat) : Prop where
  increasing : indices.Pairwise (· < ·)
  starts : ∀ index ∈ indices.head?, index = first
  below : ∀ index ∈ indices, index < next
  dense : ∀ index, first + reach ≤ index → index < next → index ∈ indices

namespace Numbering

variable {reach first next : Nat} {indices : List Nat}

theorem empty (reach next : Nat) : Numbering reach next next [] where
  increasing := .nil
  starts := nofun
  below := nofun
  dense _ low high := absurd (le_of_add_right_le low) (not_le.mpr high)

/-- Entries numbered from zero on. -/
theorem range (reach count : Nat) : Numbering reach 0 count (List.range count) where
  increasing := pairwise_lt_range
  starts index found := by
    cases count with
    | zero => cases found
    | succ count =>
      rw [range_succ_eq_map, head?_cons, mem_some_iff] at found
      exact found.symm
  below index member := mem_range.mp member
  dense index _ high := mem_range.mpr high

variable (numbering : Numbering reach first next indices)

include numbering

theorem lower : ∀ index ∈ indices, first ≤ index := by
  intro index member
  cases indices with
  | nil => cases member
  | cons head rest =>
    have start : head = first := numbering.starts head rfl
    rcases mem_cons.mp member with here | later
    · rw [here, start]
    · exact start ▸ (rel_of_pairwise_cons numbering.increasing later).le

/-- **A new entry takes the next number.** -/
theorem push : ∃ start, (start = first ∨ indices = []) ∧
      Numbering reach start (next + 1) (indices ++ [next]) := by
  have increasing : (indices ++ [next]).Pairwise (· < ·) := by
    refine pairwise_append.mpr ⟨numbering.increasing, pairwise_singleton _ _, ?_⟩
    intro index member last here
    rw [mem_singleton.mp here]
    exact numbering.below index member
  have below : ∀ index ∈ indices ++ [next], index < next + 1 := by
    intro index member
    rcases mem_append.mp member with old | new
    · exact lt_succ_of_lt (numbering.below index old)
    · rw [mem_singleton.mp new]
      exact lt_succ_self next
  by_cases nothing : indices = []
  · subst nothing
    refine ⟨next, .inr rfl, increasing, ?_, below, fun index low high => ?_⟩
    · intro index found
      exact (mem_some_iff.mp found).symm
    · exact mem_singleton.mpr (le_antisymm (le_of_lt_succ high) (Nat.le_of_add_right_le low))
  · refine ⟨first, .inl rfl, increasing, ?_, below, fun index low high => ?_⟩
    · rw [head?_append_of_ne_nil _ nothing]
      exact numbering.starts
    · rcases Nat.lt_succ_iff_lt_or_eq.mp high with old | new
      · exact mem_append_left _ (numbering.dense index low old)
      · exact mem_append_right _ (mem_singleton.mpr new)

theorem dense_of_removed {removed start : Nat} {rest : List Nat} (near : removed < first + reach)
    (onward : first ≤ start) (others : ∀ index ∈ indices, index ≠ removed → index ∈ rest) :
    ∀ index, start + reach ≤ index → index < next → index ∈ rest := by
  intro index low high
  have beyond : first + reach ≤ index := le_trans (Nat.add_le_add_right onward reach) low
  exact others index (numbering.dense index beyond high) (by omega)

/-- **An entry near the front leaves.** -/
theorem eraseIdx {position removed : Nat} (found : indices[position]? = some removed)
    (near : removed < first + reach) :
    ∃ start, first ≤ start ∧ Numbering reach start next (indices.eraseIdx position) := by
  have increasing := numbering.increasing.sublist (eraseIdx_sublist indices position)
  have below : ∀ index ∈ indices.eraseIdx position, index < next := fun index member =>
    numbering.below index (mem_of_mem_eraseIdx member)
  have others : ∀ index ∈ indices, index ≠ removed → index ∈ indices.eraseIdx position := by
    intro index member different
    obtain ⟨place, here⟩ := mem_iff_getElem?.mp member
    refine mem_eraseIdx_iff_getElem?.mpr ⟨place, ?_, here⟩
    intro same
    rw [same, found, some_inj] at here
    exact different here.symm
  cases position with
  | zero =>
    cases indices with
    | nil => cases found
    | cons head rest =>
      have start : head = first := numbering.starts head rfl
      cases rest with
      | nil =>
        refine ⟨first, le_refl first, increasing, nofun, below, ?_⟩
        exact numbering.dense_of_removed near le_rfl others
      | cons second rest =>
        have later : head < second := rel_of_pairwise_cons numbering.increasing mem_cons_self
        have onward : first ≤ second := start ▸ later.le
        refine ⟨second, onward, increasing, ?_, below, ?_⟩
        · intro index front
          exact (mem_some_iff.mp front).symm
        · exact numbering.dense_of_removed near onward others
  | succ position =>
    refine ⟨first, le_refl first, increasing, ?_, below, ?_⟩
    · intro index front
      cases indices with
      | nil => cases front
      | cons head rest => exact numbering.starts index front
    · exact numbering.dense_of_removed near le_rfl others

/-- **Before the front's remainder comes again, all numbers are near the front.** -/
theorem current {modulus position index : Nat} (short : reach ≤ modulus) (positive : 0 < modulus)
    (found : indices[position]? = some index)
    (once : ∀ place other, 1 ≤ place → place ≤ position → indices[place]? = some other →
      other % modulus ≠ first % modulus) : index < first + modulus := by
  by_contra far
  have high : index < next := numbering.below index (mem_of_getElem? found)
  have member : first + modulus ∈ indices :=
    numbering.dense _ (Nat.add_le_add_left short first) (by omega)
  obtain ⟨place, here⟩ := List.mem_iff_getElem?.mp member
  have after : 1 ≤ place := by
    rcases Nat.eq_zero_or_pos place with zero | later
    · rw [zero, ← List.head?_eq_getElem?] at here
      have := numbering.starts _ here
      omega
    · exact later
  have before : place ≤ position := by
    obtain ⟨small, atPosition⟩ := List.getElem?_eq_some_iff.mp found
    obtain ⟨small', atPlace⟩ := List.getElem?_eq_some_iff.mp here
    have := pairwise_iff_getElem.mp numbering.increasing position place small small'
    omega
  exact once place _ after before here (Nat.add_mod_right first modulus)

/-- **Near entries have different remainders.** -/
theorem remainder_ne {modulus place position other index : Nat} (before : place < position)
    (earlier : indices[place]? = some other) (found : indices[position]? = some index)
    (near : index < first + modulus) : other % modulus ≠ index % modulus := by
  obtain ⟨small, atPosition⟩ := List.getElem?_eq_some_iff.mp found
  obtain ⟨small', atPlace⟩ := List.getElem?_eq_some_iff.mp earlier
  have increasing := List.pairwise_iff_getElem.mp numbering.increasing place position small' small
    before
  rw [atPosition, atPlace] at increasing
  have low := numbering.lower other (List.mem_of_getElem? earlier)
  intro same
  have divides : modulus ∣ index - other := (modEq_iff_dvd' increasing.le).mp same
  have bound := Nat.le_of_dvd (Nat.sub_pos_of_lt increasing) divides
  omega

end Numbering

end Bluestation
