/-
**Memberships and their counters.**

Every member has a set of groups, and beside the sets stand counters: how many members a group has. A
counter is kept only while it is positive.

* `size_insert`, `size_erase` — how the number of members of a group changes with one member's groups.
* `size_enter`, `size_leave` — a member enters a group, or leaves it.
* `Counts` — the counters are right.
* `Counts.increment`, `Counts.decrement` — one member more, one member less.
-/

import Bluestation.Lib.Dictionary

namespace Bluestation

open List Nat AList Dictionary

namespace Headcount

variable {Member Group : Type} [DecidableEq Member] [DecidableEq Group]

/-- The groups of every member. -/
abbrev Memberships (Member Group : Type) := Dictionary Member (Dictionary Group Unit)

/-- One for a member of the group. -/
def share (group : Group) (groups : Option (Dictionary Group Unit)) : Nat :=
  if groups.any (group ∈ ·) then 1 else 0

variable (members : Memberships Member Group)

/-- How many members the group has. -/
def size (group : Group) : Nat :=
  members.entries.countP fun entry => group ∈ entry.2

theorem size_erase (member : Member) (group : Group) :
    size (members.erase member) group + share group (members.lookup member) = size members group := by
  by_cases known : member ∈ members.entries.keys
  · obtain ⟨groups, front, back, fresh, split, rest⟩ := exists_of_kerase known
    have found : members.lookup member = some groups := by
      refine mem_entries.mp ?_
      rw [split]
      exact mem_append_right _ mem_cons_self
    unfold size share
    rw [found, Option.any_some, show (members.erase member).entries = front ++ back from rest, split,
      countP_append, countP_append, countP_cons, add_assoc]
  · have missing : members.lookup member = none :=
      lookup_eq_none.mpr fun present => known (mem_keys.mp present)
    unfold size share
    rw [missing, show (members.erase member).entries = members.entries from
      kerase_of_notMem_keys known]
    rfl

theorem size_insert (member : Member) (groups : Dictionary Group Unit) (group : Group) :
    size (members.insert member groups) group + share group (members.lookup member) =
      size members group + share group (some groups) := by
  have erased := size_erase members member group
  have inserted : size (members.insert member groups) group =
      size (members.erase member) group + share group (some groups) := by
    unfold size share
    rw [show (members.insert member groups).entries =
      ⟨member, groups⟩ :: (members.erase member).entries from rfl, countP_cons, Option.any_some]
  rw [inserted, ← erased]
  exact add_right_comm ..

/-- The groups of a member; none for a member that is not known. -/
def groupsOf (member : Member) : Dictionary Group Unit :=
  (members.lookup member).getD ∅

theorem share_lookup (member : Member) (group : Group) :
    share group (members.lookup member) = if group ∈ groupsOf members member then 1 else 0 := by
  unfold share groupsOf
  cases members.lookup member with
  | none => rfl
  | some groups =>
    exact if_congr decide_eq_true_iff rfl rfl

theorem share_some (groups : Dictionary Group Unit) (group : Group) :
    share group (some groups) = if group ∈ groups then 1 else 0 :=
  if_congr decide_eq_true_iff rfl rfl

theorem size_touch (member : Member) (group : Group) :
    size (members.insert member (groupsOf members member)) group = size members group := by
  have changed := size_insert members member (groupsOf members member) group
  rw [share_lookup, share_some] at changed
  exact add_right_cancel changed

theorem size_enter {member : Member} {entered : Group} (fresh : entered ∉ groupsOf members member)
    (group : Group) :
    size (members.insert member ((groupsOf members member).insert entered ())) group =
      size members group + if group = entered then 1 else 0 := by
  have changed := size_insert members member ((groupsOf members member).insert entered ()) group
  rw [share_lookup, share_some] at changed
  by_cases same : group = entered
  · subst same
    rw [if_neg fresh, if_pos ((mem_insert _).mpr (.inl rfl))] at changed
    rw [if_pos rfl, ← changed]
    rfl
  · rw [if_congr ((mem_insert _).trans (or_iff_right same)) rfl rfl] at changed
    rw [if_neg same]
    exact add_right_cancel changed

theorem size_leave {member : Member} {left : Group} (held : left ∈ groupsOf members member)
    (group : Group) :
    size (members.insert member ((groupsOf members member).erase left)) group +
      (if group = left then 1 else 0) = size members group := by
  have changed := size_insert members member ((groupsOf members member).erase left) group
  rw [share_lookup, share_some] at changed
  by_cases same : group = left
  · subst same
    rw [if_pos held, if_neg fun stays => (mem_erase.mp stays).1 rfl] at changed
    rw [if_pos rfl]
    exact changed
  · rw [if_congr (mem_erase.trans (and_iff_right same)) rfl rfl] at changed
    rw [if_neg same]
    exact add_right_cancel changed

/-! ### Counters -/

/-- A counter that is kept while it is positive. -/
def positive (count : Nat) : Option Nat := if count = 0 then none else some count

/-- The counters say how many there are of each group. -/
def Counts (counters : Dictionary Group Nat) (number : Group → Nat) : Prop :=
  ∀ group, counters.lookup group = positive (number group)

theorem getD_positive (count : Nat) : (positive count).getD 0 = count := by
  unfold positive
  split
  next zero =>
    exact zero.symm
  · rfl

variable {counters : Dictionary Group Nat} {number : Group → Nat}

variable (counts : Counts counters number)

include counts

theorem Counts.congr {other : Group → Nat} (same : ∀ group, number group = other group) :
    Counts counters other := by
  rw [← funext same]
  exact counts

theorem Counts.increment (group : Group) :
    Counts (counters.insert group ((counters.lookup group).getD 0 + 1))
      (fun other => number other + if other = group then 1 else 0) := by
  intro other
  dsimp only
  rw [Dictionary.lookup_insert]
  by_cases same : other = group
  · rw [if_pos same, if_pos same, counts group, getD_positive, same]
    exact (if_neg (Nat.succ_ne_zero _)).symm
  · rw [if_neg same, if_neg same, Nat.add_zero, counts other]

theorem Counts.decrement (group : Group) :
    Counts (if (counters.lookup group).getD 0 ≤ 1 then counters.erase group
      else counters.insert group ((counters.lookup group).getD 0 - 1))
      (fun other => number other - if other = group then 1 else 0) := by
  have held := counts group
  intro other
  dsimp only
  rw [held, getD_positive]
  by_cases same : other = group
  · subst same
    rw [if_pos rfl]
    split
    next last =>
      rw [Dictionary.lookup_erase, if_pos rfl]
      exact (if_pos (Nat.sub_eq_zero_of_le last)).symm
    next more =>
      rw [Dictionary.lookup_insert, if_pos rfl]
      exact (if_neg (Nat.sub_ne_zero_of_lt (Nat.lt_of_not_le more))).symm
  · rw [if_neg same, Nat.sub_zero]
    split
    · rw [Dictionary.lookup_erase, if_neg same, counts other]
    · rw [Dictionary.lookup_insert, if_neg same, counts other]

end Headcount

end Bluestation
