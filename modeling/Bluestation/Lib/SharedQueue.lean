/-
**A queue that several owners share, with at most one active element of each.**

Every element has an owner and a number. `InTurn` says that behind an element there is no active
element of its owner, and only larger numbers of its owner.

* `InTurn.unique`, `InTurn.oldest` — the active element of an owner is its only one and its first.
* `InTurn.remove`, `InTurn.toFront`, `InTurn.push`, `InTurn.update` — what keeps a queue in turn.
-/

import Mathlib.Tactic

namespace Bluestation.Queues

open List

variable {α κ : Type} {owner : α → κ} {active : α → Prop} {number : α → Nat}

/-- The second element may stand behind the first one. -/
def Behind (owner : α → κ) (active : α → Prop) (number : α → Nat) (first second : α) : Prop :=
  owner first = owner second → ¬ active second ∧ number first < number second

/-- **Elements of one owner stand in the order of their numbers, and only the first is active.** -/
def InTurn (owner : α → κ) (active : α → Prop) (number : α → Nat) (queue : List α) : Prop :=
  queue.Pairwise (Behind owner active number)

namespace InTurn

variable {queue front back : List α} {element other : α}

section

variable (turn : InTurn owner active number (front ++ element :: back))

include turn

theorem remove : InTurn owner active number (front ++ back) :=
  turn.sublist ((List.Sublist.refl front).append (sublist_cons_self element back))

theorem front_ne (isActive : active element) : ∀ earlier ∈ front, owner earlier ≠ owner element := by
  intro earlier member same
  have behind := (pairwise_append.mp turn).2.2 earlier member element mem_cons_self
  exact (behind same).1 isActive

theorem toFront (isActive : active element) :
    InTurn owner active number (element :: (front ++ back)) := by
  refine pairwise_cons.mpr ⟨fun later member same => ?_, turn.remove⟩
  rcases mem_append.mp member with before | after
  · exact absurd same.symm (turn.front_ne isActive later before)
  · exact (pairwise_cons.mp (pairwise_append.mp turn).2.1).1 later after same

end

section

variable (turn : InTurn owner active number queue)

include turn

/-- **The active element of an owner is its oldest.** -/
theorem oldest (member : element ∈ queue) (isActive : active element) (there : other ∈ queue)
    (same : owner other = owner element) : number element ≤ number other := by
  obtain ⟨front, back, rfl⟩ := append_of_mem member
  rcases mem_append.mp there with before | rest
  · exact absurd same (turn.front_ne isActive other before)
  · rcases mem_cons.mp rest with rfl | after
    · exact le_refl _
    · have behind := (pairwise_cons.mp (pairwise_append.mp turn).2.1).1 other after
      exact (behind same.symm).2.le

/-- **An owner has at most one active element.** -/
theorem unique (member : element ∈ queue) (isActive : active element) (there : other ∈ queue)
    (active' : active other) (same : owner other = owner element) : other = element := by
  obtain ⟨front, back, rfl⟩ := append_of_mem member
  rcases mem_append.mp there with before | rest
  · exact absurd same (turn.front_ne isActive other before)
  · rcases mem_cons.mp rest with is | after
    · exact is
    · have behind := (pairwise_cons.mp (pairwise_append.mp turn).2.1).1 other after
      exact absurd active' (behind same.symm).1

theorem eq_of_number (member : element ∈ queue) (there : other ∈ queue)
    (same : owner other = owner element) (number_eq : number other = number element) :
    other = element := by
  obtain ⟨front, back, rfl⟩ := append_of_mem member
  obtain ⟨-, later, cross⟩ := pairwise_append.mp turn
  rcases mem_append.mp there with before | rest
  · have behind := cross other before element mem_cons_self same
    exact absurd number_eq behind.2.ne
  · rcases mem_cons.mp rest with is | after
    · exact is
    · have behind := (pairwise_cons.mp later).1 other after same.symm
      exact absurd number_eq behind.2.ne'

/-- A new element of the largest number queues at the end. -/
theorem push (idle : ¬ active element) (last : ∀ earlier ∈ queue, number earlier < number element) :
    InTurn owner active number (queue ++ [element]) := by
  refine pairwise_append.mpr ⟨turn, pairwise_singleton _ _, ?_⟩
  intro earlier member later is same
  rw [mem_singleton] at is
  subst is
  exact ⟨idle, last earlier member⟩

/-- Elements change, but become active only where they were. -/
theorem update {after : List α}
    (changed : List.Forall₂ (fun old new => owner new = owner old ∧ number new = number old ∧
      (active new → active old)) queue after) : InTurn owner active number after := by
  induction changed with
  | nil => exact .nil
  | @cons old new olds news same rest ih =>
    obtain ⟨first, others⟩ := pairwise_cons.mp turn
    refine pairwise_cons.mpr ⟨fun later member owned => ?_, ih others⟩
    obtain ⟨place, within, rfl⟩ := getElem_of_mem member
    have long : place < olds.length := by rwa [rest.length_eq]
    obtain ⟨owner_eq, number_eq, keeps⟩ := rest.get long within
    simp only [get_eq_getElem] at owner_eq number_eq keeps
    rw [same.1, owner_eq] at owned
    obtain ⟨idle, less⟩ := first _ (getElem_mem long) owned
    rw [same.2.1, number_eq]
    exact ⟨fun isActive => idle (keeps isActive), less⟩

end

/-- **The elements of an owner, once its active element is taken out.** -/
theorem filter_take [DecidableEq κ] (turn : InTurn owner active number (front ++ element :: back))
    (isActive : active element) :
    (front ++ element :: back).filter (fun one => owner one = owner element) =
      element :: (front ++ back).filter fun one => owner one = owner element := by
  have nobody : front.filter (fun one => owner one = owner element) = [] := by
    refine filter_eq_nil_iff.mpr fun earlier member => ?_
    rw [decide_eq_true_eq]
    exact turn.front_ne isActive earlier member
  rw [filter_append, filter_append, nobody, nil_append, nil_append,
    filter_cons_of_pos (by rw [decide_eq_true_eq])]

theorem filter_take_of_ne [DecidableEq κ] {another : κ} (ne : owner element ≠ another) :
    (front ++ element :: back).filter (fun one => owner one = another) =
      (front ++ back).filter fun one => owner one = another := by
  rw [filter_append, filter_append, filter_cons_of_neg (by rwa [decide_eq_true_eq])]

end InTurn

end Bluestation.Queues
