/-
**Dictionaries: finite maps over any keys, whose iteration order may change.**

A dictionary is Mathlib's association list of distinct keys.

* `lookup_insert`, `lookup_erase`, `lookup_retain` — what an operation does to every key.
* `mem_entries` — an entry stands in the list exactly if its value is found at its key.
-/

import Mathlib.Data.List.AList
import Mathlib.Data.List.Sort
import Mathlib.Tactic

namespace Bluestation

/-- A finite map. -/
abbrev Dictionary (Key Value : Type) := AList fun _ : Key => Value

namespace Dictionary

variable {Key Value : Type} [DecidableEq Key] (dictionary : Dictionary Key Value)

/-- The entries in the order in which their keys stand in a list. -/
def rearrange (order : List Key) : Dictionary Key Value where
  entries :=
    dictionary.entries.insertionSort fun left right => order.idxOf left.1 ≤ order.idxOf right.1
  nodupKeys :=
    (List.perm_nodupKeys (List.perm_insertionSort _ dictionary.entries)).mpr dictionary.nodupKeys

/-- Keep only some entries. -/
def retain (keep : Key → Value → Bool) : Dictionary Key Value where
  entries := dictionary.entries.filter fun entry => keep entry.1 entry.2
  nodupKeys := dictionary.nodupKeys.sublist List.filter_sublist

variable {dictionary} {key : Key} {value : Value}

theorem lookup_insert (dictionary : Dictionary Key Value) (key other : Key) (value : Value) :
    (dictionary.insert key value).lookup other =
      if other = key then some value else dictionary.lookup other := by
  by_cases same : other = key
  · subst same
    rw [if_pos rfl, AList.lookup_insert]
  · rw [if_neg same, AList.lookup_insert_ne same]

theorem lookup_erase (dictionary : Dictionary Key Value) (key other : Key) :
    (dictionary.erase key).lookup other = if other = key then none else dictionary.lookup other := by
  by_cases same : other = key
  · subst same
    rw [if_pos rfl, AList.lookup_erase]
  · rw [if_neg same, AList.lookup_erase_ne same]

theorem mem_entries : (⟨key, value⟩ : (_ : Key) × Value) ∈ dictionary.entries ↔
    dictionary.lookup key = some value :=
  (AList.mem_lookup_iff (s := dictionary)).symm

theorem lookup_retain (dictionary : Dictionary Key Value) (keep : Key → Value → Bool) (key : Key) :
    (dictionary.retain keep).lookup key = (dictionary.lookup key).filter (keep key) := by
  ext value
  rw [← mem_entries, Option.filter_eq_some_iff, ← mem_entries]
  exact List.mem_filter

theorem mem_rearrange {order : List Key} {entry : (_ : Key) × Value} :
    entry ∈ (dictionary.rearrange order).entries ↔ entry ∈ dictionary.entries :=
  (List.perm_insertionSort _ dictionary.entries).mem_iff

end Dictionary

end Bluestation
