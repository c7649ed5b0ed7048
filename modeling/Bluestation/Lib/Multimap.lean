/-
**Relations kept by rows: a key and what belongs to it, without empty rows.**

* `mem_add`, `mem_remove` — one pair more or less, and nothing else.
* `mem_addAll`, `mem_removeAll` — one value at several keys.
-/

import Bluestation.Lib.Dictionary

namespace Bluestation

open List

/-- What belongs to every key; a key to which nothing belongs has no row. -/
abbrev Multimap (Key Value : Type) := Dictionary Key (List Value)

namespace Multimap

variable {Key Value : Type} [DecidableEq Key] [DecidableEq Value]

/-- What belongs to a key. -/
def row (rows : Multimap Key Value) (key : Key) : List Value := (rows.lookup key).getD []

def add (rows : Multimap Key Value) (value : Value) (key : Key) : Multimap Key Value :=
  rows.insert key ((rows.row key).insert value)

def remove (rows : Multimap Key Value) (value : Value) (key : Key) : Multimap Key Value :=
  match rows.lookup key with
  | none => rows
  | some values =>
    let left := values.filter (· ≠ value)
    if left.isEmpty then rows.erase key else rows.insert key left

/-- No row is empty. -/
def Trim (rows : Multimap Key Value) : Prop := ∀ key, rows.lookup key ≠ some []

variable {rows : Multimap Key Value} {value other : Value} {key : Key}

theorem mem_add (rows : Multimap Key Value) (value other : Value) (key here : Key) :
    other ∈ (rows.add value key).row here ↔ here = key ∧ other = value ∨ other ∈ rows.row here := by
  unfold row add
  by_cases same : here = key
  · subst same
    simp [row]
  · simp [same]

theorem Trim.add (trim : rows.Trim) (value : Value) (key : Key) : (rows.add value key).Trim := by
  intro here
  unfold Multimap.add
  rw [Dictionary.lookup_insert]
  split
  · exact fun empty => ne_nil_of_mem mem_insert_self (Option.some.inj empty)
  · exact trim here

theorem mem_remove (rows : Multimap Key Value) (value other : Value) (key here : Key) :
    other ∈ (rows.remove value key).row here ↔
      ¬ (here = key ∧ other = value) ∧ other ∈ rows.row here := by
  unfold row remove
  by_cases same : here = key
  · subst same
    cases found : rows.lookup here with
    | none => simp [found]
    | some values =>
      dsimp only
      split
      next empty =>
        have gone : ∀ one ∈ values, one = value := by simpa using empty
        simpa using fun different member => different (gone other member)
      · simp [and_comm]
  · cases found : rows.lookup key with
    | none => simp [same]
    | some values =>
      dsimp only
      split <;> simp [same]

theorem Trim.remove (trim : rows.Trim) (value : Value) (key : Key) : (rows.remove value key).Trim := by
  intro here
  unfold Multimap.remove
  split
  · exact trim here
  · dsimp only
    split
    · rw [Dictionary.lookup_erase]
      split
      · exact nofun
      · exact trim here
    next some =>
      rw [Dictionary.lookup_insert]
      split
      · exact fun empty => some (isEmpty_iff.mpr (Option.some.inj empty))
      · exact trim here

/-! ### One value at several keys -/

theorem mem_addAll (keys : List Key) (here : Key) :
    other ∈ (keys.foldl (add · value) rows).row here ↔
      here ∈ keys ∧ other = value ∨ other ∈ rows.row here := by
  induction keys generalizing rows with
  | nil => simp
  | cons key rest ih =>
    rw [foldl_cons, ih, mem_add, mem_cons]
    tauto

theorem mem_removeAll (keys : List Key) (here : Key) :
    other ∈ (keys.foldl (remove · value) rows).row here ↔
      ¬ (here ∈ keys ∧ other = value) ∧ other ∈ rows.row here := by
  induction keys generalizing rows with
  | nil => simp
  | cons key rest ih =>
    rw [foldl_cons, ih, mem_remove, mem_cons]
    tauto

omit [DecidableEq Value] in
theorem Trim.foldl {change : Multimap Key Value → Key → Multimap Key Value}
    (kept : ∀ rows key, Trim rows → (change rows key).Trim) (trim : rows.Trim) (keys : List Key) :
    (keys.foldl change rows).Trim :=
  List.foldlRecOn keys change trim fun rows trim key _ => kept rows key trim

end Multimap

end Bluestation
