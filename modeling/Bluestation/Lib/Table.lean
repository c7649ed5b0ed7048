/-
**Tables: finite maps from numbers, whose iteration order may change.**

A table is Mathlib's association list of distinct keys. What is looked up does not depend on the
order of the entries; only iteration sees it, and `rearrange` gives the entries any other order.

* `lookup_insert_eq`, `lookup_erase_eq`, `lookup_modify`, `lookup_mapValues`, `lookup_retain` — what
  every operation does to every key.
* `lookup_foldl_modify` — several keys one after the other.
-/

import Mathlib.Data.List.AList
import Mathlib.Data.List.Sort
import Mathlib.Tactic

namespace Bluestation

open List

/-- A finite map from numbers. -/
abbrev Table (Value : Type) := AList fun _ : Nat => Value

namespace Table

variable {Value : Type} (table : Table Value)

/-- Change the value at a key, if there is one. -/
def modify (key : Nat) (change : Value → Value) : Table Value :=
  match table.lookup key with
  | some value => table.insert key (change value)
  | none => table

/-- The values, in iteration order. -/
def values : List Value := table.entries.map (·.2)

/-- Change every value. -/
def mapValues (change : Value → Value) : Table Value where
  entries := table.entries.map fun entry => ⟨entry.1, change entry.2⟩
  nodupKeys := by
    have keys : (table.entries.map fun entry => (⟨entry.1, change entry.2⟩ : (_ : Nat) × Value)).keys
        = table.entries.keys := by
      simp [List.keys]
    rw [List.NodupKeys, keys]
    exact table.nodupKeys

/-- Keep only some entries. -/
def retain (keep : Nat → Value → Bool) : Table Value where
  entries := table.entries.filter fun entry => keep entry.1 entry.2
  nodupKeys := table.nodupKeys.sublist List.filter_sublist

/-- The entries in the order in which their keys stand in a list. -/
def rearrange (order : List Nat) : Table Value where
  entries := table.entries.insertionSort fun left right => order.idxOf left.1 ≤ order.idxOf right.1
  nodupKeys :=
    (List.perm_nodupKeys (List.perm_insertionSort _ table.entries)).mpr table.nodupKeys

variable {table} {key other : Nat} {value : Value}

theorem lookup_insert_eq (table : Table Value) (key other : Nat) (value : Value) :
    (table.insert key value).lookup other = if other = key then some value else table.lookup other := by
  split
  next same =>
    rw [same]
    exact AList.lookup_insert table
  next different =>
    exact AList.lookup_insert_ne different

theorem lookup_erase_eq (table : Table Value) (key other : Nat) :
    (table.erase key).lookup other = if other = key then none else table.lookup other := by
  split
  next same =>
    rw [same]
    exact AList.lookup_erase key table
  next different =>
    exact AList.lookup_erase_ne different

theorem erase_absent {table : Table Value} {key : Nat} (absent : table.lookup key = none) :
    table.erase key = table :=
  AList.ext (kerase_of_notMem_keys (AList.lookup_eq_none.mp absent))

theorem lookup_modify (table : Table Value) (key other : Nat) (change : Value → Value) :
    (table.modify key change).lookup other =
      if other = key then (table.lookup key).map change else table.lookup other := by
  unfold modify
  split
  next value found =>
    rw [lookup_insert_eq, found]
    rfl
  next missing =>
    split
    next same =>
      rw [same, missing]
      rfl
    · rfl

theorem mem_entries : (⟨key, value⟩ : (_ : Nat) × Value) ∈ table.entries ↔
    table.lookup key = some value :=
  (AList.mem_lookup_iff (s := table)).symm

theorem mem_values : value ∈ table.values ↔ ∃ key, table.lookup key = some value := by
  unfold values
  rw [List.mem_map]
  constructor
  · rintro ⟨⟨key, value⟩, member, rfl⟩
    exact ⟨key, mem_entries.mp member⟩
  · rintro ⟨key, found⟩
    exact ⟨⟨key, value⟩, mem_entries.mpr found, rfl⟩

theorem lookup_eq_of_mem {first second : Option Value}
    (forth : ∀ value, first = some value → second = some value)
    (back : ∀ value, second = some value → first = some value) : first = second := by
  cases first with
  | some value => exact (forth value rfl).symm
  | none =>
    cases second with
    | some value => exact back value rfl
    | none => rfl

theorem lookup_mapValues (table : Table Value) (change : Value → Value) (key : Nat) :
    (table.mapValues change).lookup key = (table.lookup key).map change := by
  refine lookup_eq_of_mem (fun value found => ?_) fun value found => ?_
  · obtain ⟨⟨_, before⟩, member, same⟩ := mem_map.mp (mem_entries.mpr found)
    obtain ⟨rfl, rfl⟩ : _ = key ∧ change before = value := by simpa using same
    rw [mem_entries.mp member]
    rfl
  · obtain ⟨before, present, rfl⟩ := Option.map_eq_some_iff.mp found
    exact mem_entries.mp (mem_map.mpr ⟨⟨key, before⟩, mem_entries.mpr present, rfl⟩)

theorem lookup_retain (table : Table Value) (keep : Nat → Value → Bool) (key : Nat) :
    (table.retain keep).lookup key = (table.lookup key).filter (keep key) := by
  refine lookup_eq_of_mem (fun value found => ?_) fun value found => ?_
  · obtain ⟨member, kept⟩ := mem_filter.mp (mem_entries.mpr found)
    rw [mem_entries.mp member]
    exact Option.filter_eq_some_iff.mpr ⟨rfl, kept⟩
  · obtain ⟨found, kept⟩ := Option.filter_eq_some_iff.mp found
    exact mem_entries.mp (mem_filter.mpr ⟨mem_entries.mpr found, kept⟩)

theorem lookup_foldl_modify (keys : List Nat) {change : Value → Value}
    (idempotent : ∀ value, change (change value) = change value) (table : Table Value)
    (key : Nat) :
    (keys.foldl (fun table key => modify table key change) table).lookup key =
      if key ∈ keys then (table.lookup key).map change else table.lookup key := by
  induction keys generalizing table with
  | nil => simp
  | cons first rest ih =>
    rw [foldl_cons, ih, lookup_modify]
    by_cases same : key = first
    · subst same
      simp [Function.comp_def, idempotent]
    · simp [same]

/-- **Another order is the same map.** -/
theorem lookup_rearrange (table : Table Value) (order : List Nat) (key : Nat) :
    (table.rearrange order).lookup key = table.lookup key :=
  AList.perm_lookup (perm_insertionSort _ table.entries)

theorem mem_rearrange {order : List Nat} {entry : (_ : Nat) × Value} :
    entry ∈ (table.rearrange order).entries ↔ entry ∈ table.entries :=
  (perm_insertionSort _ table.entries).mem_iff

end Table

end Bluestation
