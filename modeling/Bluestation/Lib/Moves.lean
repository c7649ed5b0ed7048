/-
**A loop that copies elements of one buffer to places of another.**

The loop is the list of its moves, each a place read and a place written; a place outside its buffer
is a fault.

* `move_ok`, `getElem?_move` — the loop ends, and what stands in each place afterwards.
* `OneToOne`, `move_back` — where no place is read or written twice, the same moves backwards bring
  every element back.
* `AgreeOff` — two buffers that agree except in one place; `AgreeOff.move` carries that through a
  loop that reads no place twice.
-/

import Mathlib.Tactic

namespace Bluestation.Moves

open List Option

variable {α β : Type}

/-- Copy elements of `input` into `output`, one move after the other. -/
def move (input : List α) : (moves : List (Nat × Nat)) → (output : List α) → Option (List α)
  | [], output => some output
  | (source, target) :: moves, output => do
    let element ← input[source]?
    if target < output.length then move input moves (output.set target element) else none

/-- Every move reads and writes inside the buffers. -/
def Inside (inputLength outputLength : Nat) (moves : List (Nat × Nat)) : Prop :=
  ∀ step ∈ moves, step.1 < inputLength ∧ step.2 < outputLength

variable {moves : List (Nat × Nat)} {input output result first second : List α} {step : Nat × Nat}
  {place : Nat}

theorem Inside.swap {inputLength outputLength : Nat} (inside : Inside inputLength outputLength moves) :
    Inside outputLength inputLength (moves.map Prod.swap) := by
  intro step member
  obtain ⟨other, there, rfl⟩ := mem_map.mp member
  exact (inside other there).symm

/-- No place is read twice, and none is written twice. -/
structure OneToOne (moves : List (Nat × Nat)) : Prop where
  onceFrom : (moves.map Prod.fst).Nodup
  onceTo : (moves.map Prod.snd).Nodup

theorem OneToOne.swap (oneToOne : OneToOne moves) : OneToOne (moves.map Prod.swap) := by
  constructor
  · rw [List.map_map]
    exact oneToOne.onceTo
  · rw [List.map_map]
    exact oneToOne.onceFrom

theorem move_ok (inside : Inside input.length output.length moves) :
    ∃ result, move input moves output = some result ∧ result.length = output.length := by
  induction moves generalizing output with
  | nil => exact ⟨output, rfl, rfl⟩
  | cons step moves ih =>
    obtain ⟨sourceLt, targetLt⟩ := inside step mem_cons_self
    have rest : Inside input.length (output.set step.2 (input.get ⟨step.1, sourceLt⟩)).length moves := by
      rw [length_set]
      exact fun later member => inside later (mem_cons_of_mem _ member)
    obtain ⟨result, ran, length⟩ := ih rest
    refine ⟨result, ?_, by rw [length, length_set]⟩
    rw [move, getElem?_eq_getElem sourceLt, bind_eq_bind, bind_some, if_pos targetLt]
    exact ran

theorem move_cons (ran : move input (step :: moves) output = some result) :
    ∃ element, input[step.1]? = some element ∧ step.2 < output.length
      ∧ move input moves (output.set step.2 element) = some result := by
  obtain ⟨element, found, rest⟩ := bind_eq_some_iff.mp ran
  split at rest
  · exact ⟨element, found, ‹_›, rest⟩
  · cases rest

section

variable (ran : move input moves output = some result)

include ran

theorem length_move : result.length = output.length := by
  induction moves generalizing output with
  | nil =>
    rw [← some.inj ran]
  | cons step moves ih =>
    obtain ⟨element, -, -, rest⟩ := move_cons ran
    rw [ih rest, length_set]

theorem getElem?_move_other (unwritten : ∀ step ∈ moves, step.2 ≠ place) :
    result[place]? = output[place]? := by
  induction moves generalizing output with
  | nil => rw [← some.inj ran]
  | cons step moves ih =>
    obtain ⟨element, -, -, rest⟩ := move_cons ran
    rw [ih rest fun later member => unwritten later (mem_cons_of_mem _ member),
      getElem?_set_ne (unwritten step mem_cons_self)]

/-- **A place holds what the one move to it read.** -/
theorem getElem?_move (once : (moves.map Prod.snd).Nodup) (member : step ∈ moves) :
    result[step.2]? = input[step.1]? := by
  induction moves generalizing output with
  | nil => cases member
  | cons head moves ih =>
    obtain ⟨element, found, inside, rest⟩ := move_cons ran
    rw [map_cons, nodup_cons] at once
    rcases mem_cons.mp member with rfl | later
    · have unwritten : ∀ other ∈ moves, other.2 ≠ step.2 := fun other there same =>
        once.1 (same ▸ mem_map_of_mem there)
      rw [getElem?_move_other rest unwritten, getElem?_set_self inside, found]
    · exact ih rest once.2 later

end

/-- **Moving back restores every element that was moved.** -/
theorem move_back {between back : List α} (oneToOne : OneToOne moves)
    (there : move input moves between = some result)
    (again : move result (moves.map Prod.swap) output = some back) (member : step ∈ moves) :
    back[step.1]? = input[step.1]? := by
  have returned := getElem?_move again oneToOne.swap.onceTo (mem_map_of_mem (f := Prod.swap) member)
  rw [Prod.snd_swap, Prod.fst_swap] at returned
  rw [returned, getElem?_move there oneToOne.onceTo member]

theorem move_map (f : α → β) (input : List α) (moves : List (Nat × Nat)) (output : List α) :
    move (input.map f) moves (output.map f) = (move input moves output).map (List.map f) := by
  induction moves generalizing output with
  | nil => rfl
  | cons step moves ih =>
    simp only [move, getElem?_map, length_map]
    cases input[step.1]? with
    | none => rfl
    | some element =>
      simp only [map_some, bind_eq_bind, bind_some]
      split
      · rw [← map_set, ih]
      · rfl

theorem move_congr {other : List α} (same : ∀ step ∈ moves, input[step.1]? = other[step.1]?)
    (output : List α) : move input moves output = move other moves output := by
  induction moves generalizing output with
  | nil => rfl
  | cons step moves ih =>
    simp only [move, same step mem_cons_self]
    cases other[step.1]? with
    | none => rfl
    | some element =>
      simp only [bind_eq_bind, bind_some]
      rw [ih fun later member => same later (mem_cons_of_mem _ member)]

/-! ### Buffers that differ in one place -/

/-- The buffers have one length and agree everywhere but perhaps in one place. -/
def AgreeOff (place : Nat) (first second : List α) : Prop :=
  first.length = second.length ∧ ∀ other, other ≠ place → first[other]? = second[other]?

theorem AgreeOff.refl (place : Nat) (buffer : List α) : AgreeOff place buffer buffer :=
  ⟨rfl, fun _ _ => rfl⟩

theorem AgreeOff.modify (place : Nat) (change : α → α) (buffer : List α) :
    AgreeOff place (buffer.modify place change) buffer := by
  refine ⟨length_modify .., fun other differs => ?_⟩
  simp [Ne.symm differs]

variable (agree : AgreeOff place first second)

include agree

theorem AgreeOff.map (f : α → β) : AgreeOff place (first.map f) (second.map f) := by
  refine ⟨by simp [agree.1], fun other differs => ?_⟩
  rw [getElem?_map, getElem?_map, agree.2 other differs]

theorem AgreeOff.take (count : Nat) : AgreeOff place (first.take count) (second.take count) := by
  refine ⟨by simp [agree.1], fun other differs => ?_⟩
  rw [getElem?_take, getElem?_take, agree.2 other differs]

/-- **A loop that reads no place twice spreads a difference to at most one place.** -/
theorem AgreeOff.move {left right : List α} (oneToOne : OneToOne moves)
    (ranLeft : move first moves output = some left) (ranRight : move second moves output = some right)
    : ∃ place', AgreeOff place' left right := by
  have lengths : left.length = right.length := by rw [length_move ranLeft, length_move ranRight]
  by_cases reads : ∃ step ∈ moves, step.1 = place
  · obtain ⟨reader, member, readsIt⟩ := reads
    refine ⟨reader.2, lengths, fun other differs => ?_⟩
    by_cases written : ∃ step ∈ moves, step.2 = other
    · obtain ⟨step, there, rfl⟩ := written
      rw [getElem?_move ranLeft oneToOne.onceTo there, getElem?_move ranRight oneToOne.onceTo there]
      refine agree.2 step.1 fun same => differs ?_
      have one : step = reader :=
        inj_on_of_nodup_map oneToOne.onceFrom there member (same.trans readsIt.symm)
      rw [one]
    · have unwritten : ∀ step ∈ moves, step.2 ≠ other := fun step there same =>
        written ⟨step, there, same⟩
      rw [getElem?_move_other ranLeft unwritten, getElem?_move_other ranRight unwritten]
  · have same : Moves.move first moves output = Moves.move second moves output :=
      move_congr (fun step member => agree.2 step.1 fun is => reads ⟨step, member, is⟩) output
    rw [ranLeft, ranRight] at same
    rw [some.inj same]
    exact ⟨0, .refl 0 right⟩

end Bluestation.Moves
