/-
**What the admission keeps under tokens.**

Five tables are kept under the tokens of the calls that wait or run. They change in a few ways, and each of
the ways keeps them in step: no call has two tokens, and nothing is kept under a token that has no entry.

* `Cc.Admissions` — the tables.
* `Cc.Admissions.Changes` — one change; a token is admitted only where it may be.
* `Cc.Admissions.Consistent` — the tables are in step.
* `Cc.Admissions.Changes.consistent`, `Cc.Admissions.Changes.spent`, `Cc.Admissions.Changes.descends` — what
  every change keeps.
-/

import Bluestation.Cmce.Admission
import Bluestation.Cmce.Beginnings

namespace Bluestation.Cc

open Option AList Table

def CapacityEntry.identity (entry : CapacityEntry) : Nat × Nat := (entry.token, entry.callId)

def AmendsEntries (before after : Table CapacityEntry) : Prop :=
  ∀ token, (after.lookup token).map CapacityEntry.identity =
    (before.lookup token).map CapacityEntry.identity

namespace CapacityQueue

/-- The entry joins the queue, one that waited already may be pushed out, and time changes no more than the
status of an entry and its times. -/
structure Sound (queue : CapacityQueue) : Prop where
  waited : ∀ {entries entry policy victim after},
    queue.insert entries entry policy = some (some victim, after) →
      entries.lookup victim.token = some victim
  joins : ∀ {entries entry policy victim after},
    queue.insert entries entry policy = some (victim, after) → ∀ token,
      after.lookup token =
        if victim.any (·.token = token) then none else (entries.insert entry.token entry).lookup token
  ages : ∀ entries now, AmendsEntries entries (queue.expire entries now).2

theorem identity_age (now : Nat) (entry : CapacityEntry) : (age now entry).1.identity = entry.identity := by
  unfold age
  split
  · split <;> rfl
  · split <;> rfl
  · split <;> rfl
  · rfl

theorem unbounded_sound : unbounded.Sound where
  waited joined := nomatch (Prod.mk.inj (some.inj joined)).1
  joins joined token := by
    cases joined
    rfl
  ages entries now token := by
    rw [show (unbounded.expire entries now).2 = entries.mapValues fun entry => (age now entry).1 from rfl,
      lookup_mapValues, map_map]
    exact congrArg (Option.map · (entries.lookup token)) (funext (identity_age now))

end CapacityQueue

/-- What is kept under tokens, and the number of the cell's next token. -/
structure Admissions where
  entries : Table CapacityEntry
  contexts : Table CapacityContext
  refresh : Table Nat
  suspending : Table (Nat × List Nat)
  suspendGuard : Table TdmaTime
  nextLocal : Nat

namespace Admissions

section Definitions

/-- A table without what it has under the token of an entry that was pushed out. -/
def without {Value : Type} (victim : Option CapacityEntry) (table : Table Value) : Table Value :=
  match victim with
  | some victim => table.erase victim.token
  | none => table

variable (kept : Admissions)

def forget (token : Nat) : Admissions where
  entries := kept.entries.erase token
  contexts := kept.contexts.erase token
  refresh := kept.refresh.erase token
  suspending := kept.suspending.erase token
  suspendGuard := kept.suspendGuard.erase token
  nextLocal := kept.nextLocal

/-- The entry that was pushed out is forgotten. -/
def evict (victim : Option CapacityEntry) : Admissions where
  entries := without victim kept.entries
  contexts := without victim kept.contexts
  refresh := without victim kept.refresh
  suspending := without victim kept.suspending
  suspendGuard := without victim kept.suspendGuard
  nextLocal := kept.nextLocal

def enroll (token : Nat) (context : CapacityContext) (entries : Table CapacityEntry)
    (victim : Option CapacityEntry) : Admissions :=
  let evicted := { kept with entries }.evict victim
  { evicted with contexts := evicted.contexts.insert token context }

/-- One change. -/
inductive Changes (queue : CapacityQueue) (may : Nat → Prop) : Admissions → Prop
  | forget (token : Nat) : Changes queue may (kept.forget token)
  | amend {entries : Table CapacityEntry} (same : AmendsEntries kept.entries entries) :
      Changes queue may { kept with entries }
  | follow {contexts : Table CapacityContext}
      (same : ∀ token, token ∈ contexts ↔ token ∈ kept.contexts) :
      Changes queue may { kept with contexts }
  | note {token : Nat} (due : Nat) (waits : token ∈ kept.entries) :
      Changes queue may { kept with refresh := kept.refresh.insert token due }
  | suspend {token : Nat} (pending : Nat × List Nat) (runs : token ∈ kept.entries) :
      Changes queue may { kept with suspending := kept.suspending.insert token pending }
  | endSuspending (token : Nat) :
      Changes queue may { kept with suspending := kept.suspending.erase token }
  | guard {token : Nat} (time : TdmaTime) (pending : token ∈ kept.suspending) :
      Changes queue may { kept with suspendGuard := kept.suspendGuard.insert token time }
  | dropGuard (token : Nat) :
      Changes queue may { kept with suspendGuard := kept.suspendGuard.erase token }
  | enroll {entry : CapacityEntry} {victim : Option CapacityEntry} {entries : Table CapacityEntry}
      {policy : CapacityPolicy} (context : CapacityContext) (allowed : may entry.token)
      (fresh : entry.token ∉ kept.entries)
      (only : ∀ token other, kept.entries.lookup token = some other → other.callId ≠ entry.callId)
      (joined : queue.insert kept.entries entry policy = some (victim, entries)) :
      Changes queue may (kept.enroll entry.token context entries victim)
  | draw : Changes queue may { kept with nextLocal := kept.nextLocal + 1 }

/-- **The tables are in step**: an entry is under its token, no call has two entries, every entry has its
context, and nothing is kept under a token without an entry. -/
structure Consistent : Prop where
  tokens : ∀ token entry, kept.entries.lookup token = some entry → entry.token = token
  calls : ∀ first second one other, kept.entries.lookup first = some one →
    kept.entries.lookup second = some other → one.callId = other.callId → first = second
  contexts : ∀ token, token ∈ kept.contexts ↔ token ∈ kept.entries
  refresh : ∀ token ∈ kept.refresh, token ∈ kept.entries
  suspending : ∀ token ∈ kept.suspending, token ∈ kept.entries
  suspendGuard : ∀ token ∈ kept.suspendGuard, token ∈ kept.entries

end Definitions

variable {queue : CapacityQueue} {may : Nat → Prop} {kept next : Admissions}

/-! ### Entries -/

theorem mem_entries_iff {entries : Table CapacityEntry} {token : Nat} :
    token ∈ entries ↔ ∃ entry, entries.lookup token = some entry := by
  rw [← lookup_isSome, isSome_iff_exists]

end Admissions

namespace AmendsEntries

variable {before after : Table CapacityEntry}

theorem mem (same : AmendsEntries before after) (token : Nat) : token ∈ after ↔ token ∈ before := by
  rw [← lookup_isSome, ← lookup_isSome, ← isSome_map, same token, isSome_map]

theorem lookup (same : AmendsEntries before after) {token : Nat} {entry : CapacityEntry}
    (found : after.lookup token = some entry) :
    ∃ old, before.lookup token = some old ∧ entry.token = old.token ∧ entry.callId = old.callId := by
  have there := same token
  rw [found] at there
  obtain ⟨old, stood, identity⟩ := map_eq_some_iff.mp there.symm
  exact ⟨old, stood, (congrArg Prod.fst identity).symm, (congrArg Prod.snd identity).symm⟩

theorem refl (entries : Table CapacityEntry) : AmendsEntries entries entries := fun _ => rfl

theorem modify (entries : Table CapacityEntry) (token : Nat) {change : CapacityEntry → CapacityEntry}
    (same : ∀ entry, (change entry).identity = entry.identity) :
    AmendsEntries entries (entries.modify token change) := by
  intro other
  rw [lookup_modify]
  split
  next own =>
    rw [map_map, own]
    exact congrArg (Option.map · (entries.lookup token)) (funext same)
  · rfl

theorem trans {last : Table CapacityEntry} (first : AmendsEntries before after)
    (second : AmendsEntries after last) : AmendsEntries before last :=
  fun token => (second token).trans (first token)

end AmendsEntries

namespace Admissions

variable {queue : CapacityQueue} {may : Nat → Prop} {kept next : Admissions}

/-! ### What the changes keep -/

theorem Consistent.forget (consistent : kept.Consistent) (token : Nat) :
    (kept.forget token).Consistent := by
  have stood {other : Nat} {entry : CapacityEntry}
      (found : (kept.entries.erase token).lookup other = some entry) :
      kept.entries.lookup other = some entry := by
    rw [lookup_erase_eq] at found
    exact (ite_none_left_eq_some.mp found).2
  have keeps {Value : Type} {table : Table Value} (inside : ∀ other ∈ table, other ∈ kept.entries)
      (other : Nat) (member : other ∈ table.erase token) : other ∈ kept.entries.erase token := by
    obtain ⟨different, before⟩ := mem_erase.mp member
    exact mem_erase.mpr ⟨different, inside other before⟩
  refine ⟨fun other entry found => consistent.tokens other entry (stood found), ?_, fun other => ?_,
    keeps consistent.refresh, keeps consistent.suspending, keeps consistent.suspendGuard⟩
  · exact fun first second one other found also => consistent.calls first second one other (stood found)
      (stood also)
  · show other ∈ kept.contexts.erase token ↔ other ∈ kept.entries.erase token
    rw [mem_erase, mem_erase, consistent.contexts]

theorem Consistent.amend (consistent : kept.Consistent) {entries : Table CapacityEntry}
    (same : AmendsEntries kept.entries entries) : { kept with entries }.Consistent := by
  have keeps {token : Nat} (member : token ∈ kept.entries) : token ∈ entries := (same.mem token).mpr member
  refine ⟨fun token entry found => ?_, fun first second one other found also call => ?_, fun token => ?_,
    fun token member => keeps (consistent.refresh token member),
    fun token member => keeps (consistent.suspending token member),
    fun token member => keeps (consistent.suspendGuard token member)⟩
  · obtain ⟨old, stood, own, _⟩ := same.lookup found
    exact own.trans (consistent.tokens token old stood)
  · obtain ⟨old, stood, _, mine⟩ := same.lookup found
    obtain ⟨elder, stands, _, theirs⟩ := same.lookup also
    exact consistent.calls first second old elder stood stands (mine.symm.trans (call.trans theirs))
  · exact (consistent.contexts token).trans (same.mem token).symm

theorem lookup_admitted (sound : queue.Sound) {entry : CapacityEntry} {victim : Option CapacityEntry}
    {entries : Table CapacityEntry} {policy : CapacityPolicy} {context : CapacityContext}
    (joined : queue.insert kept.entries entry policy = some (victim, entries)) (token : Nat) :
    (kept.enroll entry.token context entries victim).entries.lookup token =
      if victim.any (·.token = token) then none
      else if token = entry.token then some entry else kept.entries.lookup token := by
  have joins := sound.joins joined token
  rw [lookup_insert_eq] at joins
  cases victim with
  | none => exact joins
  | some out =>
    show (entries.erase out.token).lookup token = _
    rw [lookup_erase_eq, joins]
    by_cases own : token = out.token
    · rw [if_pos own]
      exact (if_pos (decide_eq_true own.symm)).symm
    · rw [if_neg own]

theorem mem_without {Value : Type} (table : Table Value) (victim : Option CapacityEntry) (token : Nat) :
    token ∈ without victim table ↔ victim.any (·.token = token) = false ∧ token ∈ table := by
  cases victim with
  | none => exact ⟨fun member => ⟨rfl, member⟩, fun both => both.2⟩
  | some out =>
    show token ∈ table.erase out.token ↔ decide (out.token = token) = false ∧ token ∈ table
    rw [mem_erase, decide_eq_false_iff_not]
    exact and_congr_left fun _ => ne_comm

variable (sound : queue.Sound)

include sound

theorem Consistent.enroll (consistent : kept.Consistent) {entry : CapacityEntry}
    {victim : Option CapacityEntry} {entries : Table CapacityEntry} {policy : CapacityPolicy}
    (context : CapacityContext) (fresh : entry.token ∉ kept.entries)
    (only : ∀ token other, kept.entries.lookup token = some other → other.callId ≠ entry.callId)
    (joined : queue.insert kept.entries entry policy = some (victim, entries)) :
    (kept.enroll entry.token context entries victim).Consistent := by
  have lookup (token : Nat) := @lookup_admitted queue kept sound entry victim entries policy context
    joined token
  have remains : victim.any (·.token = entry.token) = false := by
    cases victim with
    | none => rfl
    | some out =>
      refine decide_eq_false fun same => fresh ?_
      exact mem_entries_iff.mpr ⟨out, same ▸ sound.waited joined⟩
  have cases {token : Nat} {held : CapacityEntry}
      (found : (kept.enroll entry.token context entries victim).entries.lookup token = some held) :
      token = entry.token ∧ held = entry ∨ kept.entries.lookup token = some held := by
    rw [lookup token] at found
    obtain ⟨_, inside⟩ := ite_none_left_eq_some.mp found
    by_cases own : token = entry.token
    · rw [if_pos own] at inside
      exact .inl ⟨own, (some.inj inside).symm⟩
    · rw [if_neg own] at inside
      exact .inr inside
  have member (token : Nat) : token ∈ (kept.enroll entry.token context entries victim).entries ↔
      victim.any (·.token = token) = false ∧ (token = entry.token ∨ token ∈ kept.entries) := by
    rw [mem_entries_iff, lookup token, Bool.eq_false_iff]
    by_cases out : victim.any (·.token = token) = true
    · rw [if_pos out]
      exact iff_of_false nofun fun both => both.1 out
    · rw [if_neg out, mem_entries_iff]
      by_cases own : token = entry.token
      · rw [if_pos own]
        exact iff_of_true ⟨entry, rfl⟩ ⟨out, .inl own⟩
      · rw [if_neg own]
        exact ⟨fun there => ⟨out, .inr there⟩, fun both => both.2.resolve_left own⟩
  have keeps {Value : Type} {table : Table Value} (inside : ∀ token ∈ table, token ∈ kept.entries)
      (token : Nat) (held : token ∈ without victim table) :
      token ∈ (kept.enroll entry.token context entries victim).entries := by
    obtain ⟨stays, before⟩ := (mem_without table victim token).mp held
    exact (member token).mpr ⟨stays, .inr (inside token before)⟩
  refine ⟨fun token held found => ?_, fun first second one other found also call => ?_,
    fun token => ?_, keeps consistent.refresh, keeps consistent.suspending,
    keeps consistent.suspendGuard⟩
  · rcases cases found with ⟨own, rfl⟩ | before
    · exact own.symm
    · exact consistent.tokens token held before
  · rcases cases found with ⟨own, rfl⟩ | before
    · rcases cases also with ⟨theirs, rfl⟩ | stood
      · exact own.trans theirs.symm
      · exact absurd call.symm (only second other stood)
    · rcases cases also with ⟨theirs, rfl⟩ | stood
      · exact absurd call (only first one before)
      · exact consistent.calls first second one other before stood call
  · show token ∈ (without victim kept.contexts).insert entry.token context ↔ _
    rw [mem_insert, mem_without, member, consistent.contexts]
    constructor
    · rintro (own | ⟨stays, before⟩)
      · exact ⟨own ▸ remains, .inl own⟩
      · exact ⟨stays, .inr before⟩
    · rintro ⟨stays, own | before⟩
      · exact .inl own
      · exact .inr ⟨stays, before⟩

variable (change : Changes kept queue may next)

include change

/-- **Every change keeps the tables in step.** -/
theorem Changes.consistent (consistent : kept.Consistent) : next.Consistent := by
  obtain ⟨tokens, calls, contexts, refresh, suspending, suspendGuard⟩ := id consistent
  have added {Value : Type} {table : Table Value} {token : Nat} {value : Value}
      (inside : ∀ other ∈ table, other ∈ kept.entries) (waits : token ∈ kept.entries) (other : Nat)
      (member : other ∈ table.insert token value) : other ∈ kept.entries := by
    rcases (mem_insert _).mp member with own | before
    · exact own ▸ waits
    · exact inside other before
  have removed {Value : Type} {table : Table Value} {token : Nat}
      (inside : ∀ other ∈ table, other ∈ kept.entries) (other : Nat)
      (member : other ∈ table.erase token) : other ∈ kept.entries :=
    inside other (mem_erase.mp member).2
  cases change with
  | forget token => exact consistent.forget token
  | amend same => exact consistent.amend same
  | follow same =>
    exact ⟨tokens, calls, fun token => (same token).trans (contexts token), refresh, suspending,
      suspendGuard⟩
  | note due waits => exact ⟨tokens, calls, contexts, added refresh waits, suspending, suspendGuard⟩
  | suspend pending runs =>
    exact ⟨tokens, calls, contexts, refresh, added suspending runs, suspendGuard⟩
  | endSuspending token => exact ⟨tokens, calls, contexts, refresh, removed suspending, suspendGuard⟩
  | @guard token time pending =>
    exact ⟨tokens, calls, contexts, refresh, suspending, added suspendGuard (suspending token pending)⟩
  | dropGuard token => exact ⟨tokens, calls, contexts, refresh, suspending, removed suspendGuard⟩
  | enroll context _ fresh only joined => exact consistent.enroll sound context fresh only joined
  | draw => exact ⟨tokens, calls, contexts, refresh, suspending, suspendGuard⟩

theorem Changes.spent {token : Nat} (denied : ¬ may token) (spent : token ∉ kept.entries) :
    token ∉ next.entries := by
  cases change with
  | forget other => exact fun member => spent (mem_erase.mp member).2
  | amend same => exact fun member => spent ((same.mem token).mp member)
  | @enroll entry victim entries policy context allowed fresh only joined =>
    intro member
    obtain ⟨held, found⟩ := mem_entries_iff.mp member
    rw [lookup_admitted sound joined] at found
    have inside := (ite_none_left_eq_some.mp found).2
    by_cases own : token = entry.token
    · exact denied (own ▸ allowed)
    · rw [if_neg own] at inside
      exact spent (mem_entries_iff.mpr ⟨held, inside⟩)
  | _ => exact spent

theorem Changes.descends {token : Nat} {entry : CapacityEntry}
    (found : next.entries.lookup token = some entry) (denied : ¬ may token) :
    ∃ old, kept.entries.lookup token = some old ∧ entry.callId = old.callId := by
  cases change with
  | forget other =>
    refine ⟨entry, ?_, rfl⟩
    have erased := (lookup_erase_eq kept.entries other token).symm.trans found
    exact (ite_none_left_eq_some.mp erased).2
  | amend same =>
    obtain ⟨old, stood, _, call⟩ := same.lookup found
    exact ⟨old, stood, call⟩
  | @enroll held victim entries policy context allowed fresh only joined =>
    rw [lookup_admitted sound joined] at found
    have inside := (ite_none_left_eq_some.mp found).2
    by_cases own : token = held.token
    · exact absurd (own ▸ allowed) denied
    · rw [if_neg own] at inside
      exact ⟨entry, inside, rfl⟩
  | _ => exact ⟨entry, found, rfl⟩

end Admissions

end Bluestation.Cc
