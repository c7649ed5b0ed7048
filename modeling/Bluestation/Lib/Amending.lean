/-
**Amending a map, and telling a follower only what was added and what was removed.**

A leader changes a map key by key and notes the keys that it added and those that it removed. A
follower that has the old map is told the added keys with their values first, and the removed keys
after that. What happened between is not told.

* `run_content_eq`, `run_added_isSome` — what is noted is all that changed.
* `catchUp_eq_iff` — **the follower ends with the leader's map exactly if no key came back**: was
  removed, and is there in the end.
* `comesBack_run` — whether a key comes back can be read off the changes beforehand.
-/

import Mathlib.Tactic

namespace Bluestation.Amending

open List Option

variable {Key Value : Type} [DecidableEq Key]

/-- A key gets a value, or loses it. -/
structure Change (Key Value : Type) where
  key : Key
  value : Option Value

/-- A map that is being changed, with what was noted. -/
structure Leader (Key Value : Type) where
  content : Key → Option Value
  added : List Key
  removed : List Key

/-- A leader that has noted nothing yet. -/
def Leader.start (content : Key → Option Value) : Leader Key Value := ⟨content, [], []⟩

section

variable [DecidableEq Value]

/-- One change; a change that changes nothing is noted only by a leader that notes all. -/
def Leader.amend (notesAll : Bool) (leader : Leader Key Value) (change : Change Key Value) :
    Leader Key Value :=
  let noted := notesAll || leader.content change.key ≠ change.value
  { content := Function.update leader.content change.key change.value
    added := if noted && change.value.isSome then leader.added ++ [change.key] else leader.added
    removed := if noted && change.value.isNone then leader.removed ++ [change.key]
      else leader.removed }

def Leader.run (notesAll : Bool) (leader : Leader Key Value) (changes : List (Change Key Value)) :
    Leader Key Value :=
  changes.foldl (Leader.amend notesAll) leader

/-- The follower's map after the added keys and then the removed keys were told. -/
def catchUp (copy : Key → Option Value) (leader : Leader Key Value) : Key → Option Value :=
  fun key => if key ∈ leader.removed then none
    else if key ∈ leader.added then leader.content key else copy key

/-- Whether a key that is or is not there, and was or was not removed, is there in the end although
it was removed. -/
def comesBack (notesAll : Bool) (key : Key) :
    (present left : Bool) → List (Change Key Value) → Bool
  | present, left, [] => present && left
  | present, left, change :: rest =>
    if change.key = key then
      comesBack notesAll key change.value.isSome
        (left || (change.value.isNone && (notesAll || present))) rest
    else comesBack notesAll key present left rest

variable {notesAll : Bool} {leader : Leader Key Value} {changes : List (Change Key Value)}

/-! ### What one change does -/

theorem amend_content (leader : Leader Key Value) (change : Change Key Value) (key : Key) :
    (leader.amend notesAll change).content key =
      if key = change.key then change.value else leader.content key :=
  Function.update_apply _ _ _ _

theorem mem_added_amend (leader : Leader Key Value) (change : Change Key Value) (key : Key) :
    key ∈ (leader.amend notesAll change).added ↔ key ∈ leader.added ∨
      key = change.key ∧ change.value.isSome ∧
        (notesAll = true ∨ leader.content change.key ≠ change.value) := by
  unfold Leader.amend
  by_cases noted : notesAll = true ∨ leader.content change.key ≠ change.value
  · by_cases some : change.value.isSome <;> simp [noted, some]
  · simp [noted]

theorem mem_removed_amend (leader : Leader Key Value) (change : Change Key Value) (key : Key) :
    key ∈ (leader.amend notesAll change).removed ↔ key ∈ leader.removed ∨
      key = change.key ∧ change.value.isNone ∧
        (notesAll = true ∨ leader.content change.key ≠ change.value) := by
  unfold Leader.amend
  by_cases noted : notesAll = true ∨ leader.content change.key ≠ change.value
  · by_cases none : change.value.isNone <;> simp [noted, none]
  · simp [noted]

/-! ### What a run does -/

/-- **A key that was not noted has not changed.** -/
theorem run_content_eq (leader : Leader Key Value) (changes : List (Change Key Value)) {key : Key}
    (notAdded : key ∉ (leader.run notesAll changes).added)
    (notRemoved : key ∉ (leader.run notesAll changes).removed) :
    (leader.run notesAll changes).content key = leader.content key ∧
      key ∉ leader.added ∧ key ∉ leader.removed := by
  induction changes generalizing leader with
  | nil => exact ⟨rfl, notAdded, notRemoved⟩
  | cons change rest ih =>
    obtain ⟨content, before, gone⟩ := ih (leader.amend notesAll change) notAdded notRemoved
    rw [mem_added_amend, not_or] at before
    rw [mem_removed_amend, not_or] at gone
    refine ⟨content.trans ?_, before.1, gone.1⟩
    rw [amend_content]
    split
    next same =>
      subst same
      by_contra changed
      have noted : notesAll = true ∨ leader.content change.key ≠ change.value :=
        .inr fun equal => changed equal.symm
      cases value : change.value with
      | none => exact gone.2 ⟨rfl, by rw [value]; rfl, noted⟩
      | some _ => exact before.2 ⟨rfl, by rw [value]; rfl, noted⟩
    · rfl

theorem run_content_eq_none (leader : Leader Key Value) (changes : List (Change Key Value)) {key : Key}
    (absent : leader.content key = none)
    (never : ∀ change ∈ changes, change.key = key → change.value = none) :
    (leader.run notesAll changes).content key = none := by
  induction changes generalizing leader with
  | nil => exact absent
  | cons change rest ih =>
    refine ih (leader.amend notesAll change) ?_ fun other member =>
      never other (mem_cons_of_mem change member)
    rw [amend_content]
    split
    next same =>
      exact never change mem_cons_self same.symm
    · exact absent

theorem run_added_isSome (leader : Leader Key Value) (changes : List (Change Key Value)) {key : Key}
    (first : key ∈ leader.added → key ∉ leader.removed → (leader.content key).isSome)
    (added : key ∈ (leader.run notesAll changes).added)
    (notRemoved : key ∉ (leader.run notesAll changes).removed) :
    ((leader.run notesAll changes).content key).isSome := by
  induction changes generalizing leader with
  | nil => exact first added notRemoved
  | cons change rest ih =>
    refine ih (leader.amend notesAll change) (fun before gone => ?_) added notRemoved
    rw [mem_added_amend] at before
    rw [mem_removed_amend, not_or] at gone
    rw [amend_content]
    split
    next same =>
      rcases before with before | ⟨_, value, _⟩
      · by_contra missing
        have isNone : change.value.isNone := by simpa using missing
        refine gone.2 ⟨same, isNone, .inr fun equal => ?_⟩
        have present := first before gone.1
        rw [same, equal] at present
        exact missing present
      · exact value
    next different =>
      exact first (before.resolve_right fun noted => different noted.1) gone.1

/-- **Whether a key comes back** shows in what was noted. -/
theorem comesBack_run (leader : Leader Key Value) (changes : List (Change Key Value)) (key : Key) :
    comesBack notesAll key (leader.content key).isSome (decide (key ∈ leader.removed)) changes =
      (((leader.run notesAll changes).content key).isSome &&
        decide (key ∈ (leader.run notesAll changes).removed)) := by
  induction changes generalizing leader with
  | nil => rfl
  | cons change rest ih =>
    rw [Leader.run, foldl_cons, ← Leader.run, ← ih (leader.amend notesAll change),
      amend_content, comesBack]
    by_cases same : change.key = key
    · subst same
      rw [if_pos rfl, if_pos rfl]
      congr 1
      rw [Bool.eq_iff_iff]
      simp only [Bool.or_eq_true, Bool.and_eq_true, decide_eq_true_eq, mem_removed_amend, true_and]
      refine or_congr Iff.rfl (and_congr_right fun gone => or_congr Iff.rfl ?_)
      rw [isNone_iff_eq_none.mp gone, isSome_iff_ne_none]
    · rw [if_neg same]
      simp [mem_removed_amend, Ne.symm same]

/-- **The follower ends with the leader's map exactly if no key comes back.** -/
theorem catchUp_eq_iff (content : Key → Option Value) (changes : List (Change Key Value)) :
    catchUp content ((Leader.start content).run notesAll changes) =
        ((Leader.start content).run notesAll changes).content ↔
      ∀ key, comesBack notesAll key (content key).isSome false changes = false := by
  let after := (Leader.start content).run notesAll changes
  have back (key : Key) : comesBack notesAll key (content key).isSome false changes =
      ((after.content key).isSome && decide (key ∈ after.removed)) := by
    rw [← comesBack_run (Leader.start content)]
    congr 1
  constructor
  · intro equal key
    rw [back key, Bool.and_eq_false_iff]
    by_cases removed : key ∈ after.removed
    · have same := congrFun equal key
      rw [catchUp, if_pos removed] at same
      exact .inl (by rw [← same]; rfl)
    · exact .inr (decide_eq_false removed)
  · intro stays
    funext key
    have gone := (back key).symm.trans (stays key)
    unfold catchUp
    split
    next removed =>
      rw [decide_eq_true removed] at gone
      exact (isNone_iff_eq_none.mp (by simpa using gone)).symm
    next kept =>
      split
      · rfl
      next notAdded =>
        exact (run_content_eq _ _ notAdded kept).1.symm

end

end Bluestation.Amending
