/-
**Rosters: groups and their members, kept on both sides.**

Every member is placed in one group or in none, and every group has a set of members. The two sides
are kept apart, as two tables of a program are; they are consistent if they say the same.

* `Consistent.leave`, `Consistent.join`, `Consistent.dissolve` — what keeps them consistent.
-/

import Mathlib.Tactic

namespace Bluestation

open Option Function

/-- Where every member is placed, and who is in every group. -/
@[ext] structure Roster (Member Group : Type) where
  place : Member → Option Group
  members : Group → Set Member

namespace Roster

variable {Member Group : Type} [DecidableEq Member] [DecidableEq Group]

/-- Both sides say the same. -/
def Consistent (roster : Roster Member Group) : Prop :=
  ∀ member group, roster.place member = some group ↔ member ∈ roster.members group

/-- A member is taken out on both sides. -/
def leave (roster : Roster Member Group) (member : Member) : Roster Member Group where
  place := Function.update roster.place member none
  members group := roster.members group \ {member}

/-- A member is entered on both sides. -/
def join (roster : Roster Member Group) (member : Member) (group : Group) :
    Roster Member Group where
  place := Function.update roster.place member (some group)
  members := Function.update roster.members group (insert member (roster.members group))

/-- A group is gone, and its members are placed nowhere. -/
def dissolve (roster : Roster Member Group) (group : Group) : Roster Member Group where
  place member := if roster.place member = some group then none else roster.place member
  members := Function.update roster.members group ∅

variable {roster : Roster Member Group} {member : Member} {group : Group}

omit [DecidableEq Group] in
theorem Consistent.leave (consistent : roster.Consistent) (member : Member) :
    (roster.leave member).Consistent := by
  intro other group
  by_cases same : other = member
  · simp [Roster.leave, same]
  · simp [Roster.leave, same, consistent other group]

/-- A member joins from nowhere, or the group that it is in. -/
theorem Consistent.join (consistent : roster.Consistent)
    (free : roster.place member = none ∨ roster.place member = some group) :
    (roster.join member group).Consistent := by
  intro other wanted
  unfold Roster.join
  by_cases same : other = member
  · subst same
    by_cases here : wanted = group
    · simp [here]
    · have elsewhere : other ∉ roster.members wanted := fun inside => by
        have placed := (consistent other wanted).mpr inside
        rcases free with none | some
        · exact some_ne_none _ (placed.symm.trans none)
        · exact here (Option.some.inj (placed.symm.trans some))
      simp [update_of_ne here, elsewhere, Ne.symm here]
  · by_cases here : wanted = group
    · simp [here, same, consistent other group]
    · simp [here, same, consistent other wanted]

omit [DecidableEq Member] in
theorem Consistent.dissolve (consistent : roster.Consistent) (group : Group) :
    (roster.dissolve group).Consistent := by
  intro member wanted
  unfold Roster.dissolve
  by_cases here : wanted = group
  · simp only [here, update_self, Set.mem_empty_iff_false, iff_false]
    split
    · exact fun none => some_ne_none _ none.symm
    · assumption
  · simp only [update_of_ne here, ← consistent member wanted]
    split
    next placed =>
      rw [placed, some_inj]
      exact iff_of_false (fun none => some_ne_none _ none.symm) (Ne.symm here)
    · exact Iff.rfl

end Roster

end Bluestation
