/-
**The MAC knows the bearers.**

Every bearer is announced to the MAC, with every change of its slots and with its end. The MAC ignores
what is about an older generation than it knows; all other bearers it sees with the slots they have.

* `Sndcp.Mirrored` — what the MAC knows of the bearers, and `Mirrored.matches`.
* `Mirrored.opened`, `Mirrored.closed` — a bearer is announced, and its end.
-/

import Bluestation.Umac.PacketBearers
import Bluestation.Sndcp.Slots

namespace Bluestation

open SlotBitmap Option

namespace Sndcp

/-- **The MAC sees the slots of every bearer whose generation it knows**, and it knows no older one. -/
structure Mirrored (s : Sndcp) (umac : PacketUmac) : Prop where
  used : ∀ id bearer, s.bearers.lookup id = some bearer →
    ∃ ts ∈ timeslots, bearer.timeslotBitmap.has ts = true
  remains : ∀ id bearer resize, s.bearers.lookup id = some bearer →
    bearer.resize = some resize → ∃ ts ∈ timeslots, resize.toBitmap.has ts = true
  known : ∀ id bearer, s.bearers.lookup id = some bearer →
    ∃ known, umac.packetBearerGenerations.lookup id = some known ∧ bearer.generation ≤ known
  slots : ∀ ts ∈ timeslots, ∀ id generation, umac.packetBearers ts = some (id, generation) ↔
    ∃ bearer, s.has id generation bearer ∧ bearer.reservedBitmap.has ts = true ∧
      umac.packetBearerGenerations.lookup id = some generation

variable {s next : Sndcp} {umac later : PacketUmac} {id : Nat} {bearer : Bearer}

variable (mirrored : s.Mirrored umac)

include mirrored

/-- **A bearer matches exactly if the MAC knows its generation.** -/
theorem Mirrored.matches (present : s.bearers.lookup id = some bearer) :
    umac.packetBearersMatch id bearer.generation = true ↔
      umac.packetBearerGenerations.lookup id = some bearer.generation := by
  unfold PacketUmac.packetBearersMatch
  rw [List.any_eq_true]
  constructor
  · rintro ⟨ts, member, here⟩
    obtain ⟨-, -, -, known⟩ := (mirrored.slots ts member _ _).mp (of_decide_eq_true here)
    exact known
  · intro known
    obtain ⟨ts, member, held⟩ := mirrored.used id bearer present
    refine ⟨ts, member, decide_eq_true ((mirrored.slots ts member _ _).mpr
      ⟨bearer, ⟨present, rfl⟩, ?_, known⟩)⟩
    unfold Bearer.reservedBitmap
    rw [has_or, held, Bool.true_or]

/-- The same generation and slots; some of them are there, and stay. -/
structure SameSlots (after before : Bearer) : Prop where
  generation : after.generation = before.generation
  reserved : ∀ ts ∈ timeslots, after.reservedBitmap.has ts = before.reservedBitmap.has ts
  used : ∃ ts ∈ timeslots, after.timeslotBitmap.has ts = true
  remains : ∀ resize, after.resize = some resize →
    ∃ ts ∈ timeslots, resize.toBitmap.has ts = true

theorem Mirrored.sameSlots (present : s.bearers.lookup id = some bearer) : SameSlots bearer bearer :=
  ⟨rfl, fun _ _ => rfl, mirrored.used id bearer present,
    fun resize => mirrored.remains id bearer resize present⟩

/-- The MAC need not hear of changes that leave the slots. -/
theorem Mirrored.unchanged (after : ∀ id bearer, next.bearers.lookup id = some bearer →
      ∃ before, s.bearers.lookup id = some before ∧ SameSlots bearer before)
    (kept : ∀ id, (s.bearers.lookup id).isSome = true → (next.bearers.lookup id).isSome = true)
    (umac_same : umac.sameBearers later) : next.Mirrored later := by
  obtain ⟨bearers, generations⟩ := umac_same
  refine ⟨fun id bearer found => ?_, fun id bearer resize found => ?_, fun id bearer found => ?_,
    fun ts member id generation => ?_⟩
  · obtain ⟨before, -, same⟩ := after id bearer found
    exact same.used
  · obtain ⟨before, -, same⟩ := after id bearer found
    exact same.remains resize
  · obtain ⟨before, present, same⟩ := after id bearer found
    rw [generations, same.generation]
    exact mirrored.known id before present
  · rw [bearers, generations, mirrored.slots ts member]
    constructor
    · rintro ⟨before, ⟨present, named⟩, held, known⟩
      obtain ⟨bearer, found⟩ := isSome_iff_exists.mp (kept id (by rw [present]; rfl))
      obtain ⟨before', present', same⟩ := after id bearer found
      rw [some.inj (present.symm.trans present')] at held named
      exact ⟨bearer, ⟨found, same.generation.trans named⟩, (same.reserved ts member).trans held,
        known⟩
    · rintro ⟨bearer, ⟨found, named⟩, held, known⟩
      obtain ⟨before, present, same⟩ := after id bearer found
      exact ⟨before, ⟨present, same.generation.symm.trans named⟩,
        (same.reserved ts member).symm.trans held, known⟩

/-- What the MAC hears of labels does not matter for bearers. -/
theorem Mirrored.heard (same : umac.sameBearers later) : s.Mirrored later :=
  mirrored.unchanged (fun _ bearer found => ⟨bearer, found, mirrored.sameSlots found⟩)
    (fun _ found => found) same

theorem Mirrored.rewritten {before after : Bearer} (present : s.bearers.lookup id = some before)
    (bearers : ∀ other, next.bearers.lookup other =
      if other = id then some after else s.bearers.lookup other) (same : SameSlots after before)
    (umac_same : umac.sameBearers later) : next.Mirrored later := by
  refine mirrored.unchanged (fun other bearer found => ?_) (fun other found => ?_) umac_same
  · rw [bearers] at found
    split at found
    next here =>
      rw [← some.inj found, here]
      exact ⟨before, present, same⟩
    · exact ⟨bearer, found, mirrored.sameSlots found⟩
  · rw [bearers]
    split
    · rfl
    · exact found

/-- **A bearer is announced with its slots**, at its start or when they change. -/
theorem Mirrored.opened {generation : Nat} {bitmap : SlotBitmap} (owned : next.SlotsOwned)
    (before : ∀ before, s.bearers.lookup id = some before → before.generation = generation)
    (bearers : ∀ other, next.bearers.lookup other =
      if other = id then some bearer else s.bearers.lookup other)
    (named : bearer.generation = generation)
    (reserved : ∀ ts ∈ timeslots, bearer.reservedBitmap.has ts = bitmap.has ts)
    (used : ∃ ts ∈ timeslots, bearer.timeslotBitmap.has ts = true)
    (remains : ∀ resize, bearer.resize = some resize →
      ∃ ts ∈ timeslots, resize.toBitmap.has ts = true) :
    next.Mirrored (umac.openPacketBearer id generation bitmap) := by
  have here : next.bearers.lookup id = some bearer := by rw [bearers, if_pos rfl]
  have elsewhere {other : Nat} (different : other ≠ id) :
      next.bearers.lookup other = s.bearers.lookup other := by rw [bearers, if_neg different]
  have allUsed (other : Nat) (held : Bearer) (found : next.bearers.lookup other = some held) :
      ∃ ts ∈ timeslots, held.timeslotBitmap.has ts = true := by
    by_cases same : other = id
    · rw [same, here] at found
      cases found
      exact used
    · exact mirrored.used other held ((elsewhere same).symm.trans found)
  have allRemain (other : Nat) (held : Bearer) (resize : PendingBearerResize)
      (found : next.bearers.lookup other = some held) (resizing : held.resize = some resize) :
      ∃ ts ∈ timeslots, resize.toBitmap.has ts = true := by
    by_cases same : other = id
    · rw [same, here] at found
      cases found
      exact remains resize resizing
    · exact mirrored.remains other held resize ((elsewhere same).symm.trans found) resizing
  have others {other : Nat} (different : other ≠ id) (wanted ts : Nat) :
      (∃ held, next.has other wanted held ∧ held.reservedBitmap.has ts = true ∧
        umac.packetBearerGenerations.lookup other = some wanted) ↔
      ∃ held, s.has other wanted held ∧ held.reservedBitmap.has ts = true ∧
        umac.packetBearerGenerations.lookup other = some wanted := by
    unfold Sndcp.has
    rw [elsewhere different]
  rcases umac.open_cases id generation bitmap with ⟨known, latest, older, ignored⟩ | ⟨fresh, taken⟩
  · rw [ignored]
    refine ⟨allUsed, allRemain, fun other held found => ?_, fun ts member other wanted => ?_⟩
    · by_cases same : other = id
      · rw [same, here] at found
        rw [same, ← some.inj found, named]
        exact ⟨known, latest, older.le⟩
      · exact mirrored.known other held ((elsewhere same).symm.trans found)
    · by_cases same : other = id
      · subst same
        refine iff_of_false (fun seen => ?_) ?_
        · obtain ⟨held, ⟨present, generated⟩, -, latest'⟩ :=
            (mirrored.slots ts member other wanted).mp seen
          rw [latest] at latest'
          rw [before held present] at generated
          exact absurd (generated.trans (some.inj latest').symm) older.ne
        · rintro ⟨held, ⟨found, generated⟩, -, latest'⟩
          rw [here] at found
          rw [← some.inj found, named] at generated
          rw [latest] at latest'
          exact absurd (generated.trans (some.inj latest').symm) older.ne
      · rw [others same, mirrored.slots ts member]
  · rw [taken]
    refine ⟨allUsed, allRemain, fun other held found => ?_, fun ts member other wanted => ?_⟩
    · rw [Table.lookup_insert_eq]
      by_cases same : other = id
      · rw [same, here] at found
        rw [if_pos same, ← some.inj found, named]
        exact ⟨generation, rfl, le_rfl⟩
      · rw [if_neg same]
        exact mirrored.known other held ((elsewhere same).symm.trans found)
    · show (if ts ∈ timeslots ∧ bitmap.has ts = true then some (id, generation)
        else (umac.packetBearers ts).filter (·.1 ≠ id)) = some (other, wanted) ↔
          ∃ held, next.has other wanted held ∧ held.reservedBitmap.has ts = true ∧
            (umac.packetBearerGenerations.insert id generation).lookup other = some wanted
      rw [Table.lookup_insert_eq]
      have ours : next.reserves id ts = bitmap.has ts := by
        unfold reserves
        rw [here]
        exact reserved ts member
      by_cases same : other = id
      · subst same
        rw [if_pos rfl]
        cases held : bitmap.has ts with
        | true =>
          rw [if_pos ⟨member, rfl⟩]
          constructor
          · intro equal
            obtain ⟨-, rfl⟩ := Prod.mk.inj (some.inj equal)
            exact ⟨bearer, ⟨here, named⟩, (reserved ts member).trans held, rfl⟩
          · rintro ⟨_, -, -, generated⟩
            rw [some.inj generated]
        | false =>
          rw [if_neg fun both => Bool.noConfusion both.2]
          refine iff_of_false (fun seen => ?_) ?_
          · have := (filter_eq_some_iff.mp seen).2
            simp at this
          · rintro ⟨held', ⟨found, -⟩, holds, -⟩
            rw [here] at found
            rw [← some.inj found, reserved ts member, held] at holds
            cases holds
      · rw [if_neg same, others same]
        cases held : bitmap.has ts with
        | true =>
          rw [if_pos ⟨member, rfl⟩]
          refine iff_of_false (fun equal => same (congrArg (·.1) (some.inj equal)).symm) ?_
          rintro ⟨held', ⟨found, -⟩, holds, -⟩
          refine same (owned.unique ts member other id ?_ (ours.trans held))
          unfold reserves
          rw [elsewhere same, found]
          exact holds
        | false =>
          rw [if_neg fun both => Bool.noConfusion both.2, ← mirrored.slots ts member,
            filter_eq_some_iff]
          exact and_iff_left (decide_eq_true same)

/-- **The end of a bearer is announced.** -/
theorem Mirrored.closed (present : s.bearers.lookup id = some bearer)
    (bearers : ∀ other, next.bearers.lookup other =
      if other = id then none else s.bearers.lookup other) :
    next.Mirrored (umac.closePacketBearer id bearer.generation) := by
  have there {other : Nat} {held : Bearer} (found : next.bearers.lookup other = some held) :
      other ≠ id ∧ s.bearers.lookup other = some held := by
    rw [bearers] at found
    split at found
    · cases found
    · exact ⟨‹_›, found⟩
  have remaining (ts other wanted : Nat) :
      (∃ held, next.has other wanted held ∧ held.reservedBitmap.has ts = true ∧
        umac.packetBearerGenerations.lookup other = some wanted) ↔
      other ≠ id ∧ ∃ held, s.has other wanted held ∧ held.reservedBitmap.has ts = true ∧
        umac.packetBearerGenerations.lookup other = some wanted := by
    constructor
    · rintro ⟨held, ⟨found, named⟩, rest⟩
      exact ⟨(there found).1, held, ⟨(there found).2, named⟩, rest⟩
    · rintro ⟨different, held, ⟨found, named⟩, rest⟩
      refine ⟨held, ⟨?_, named⟩, rest⟩
      rw [bearers, if_neg different]
      exact found
  have generations (held : (umac.closePacketBearer id bearer.generation).packetBearerGenerations =
      umac.packetBearerGenerations)
      (slots : ∀ ts ∈ timeslots, ∀ other wanted,
        (umac.closePacketBearer id bearer.generation).packetBearers ts = some (other, wanted) ↔
          other ≠ id ∧ umac.packetBearers ts = some (other, wanted)) :
      next.Mirrored (umac.closePacketBearer id bearer.generation) := by
    refine ⟨fun other held found => mirrored.used other held (there found).2,
      fun other held resize found => mirrored.remains other held resize (there found).2,
      fun other bearer found => ?_, fun ts member other wanted => ?_⟩
    · rw [held]
      exact mirrored.known other bearer (there found).2
    · rw [held, slots ts member, remaining, mirrored.slots ts member]
  rcases umac.close_cases id bearer.generation with ⟨known, taken⟩ | ⟨unknown, ignored⟩
  · refine generations (by rw [taken]) fun ts member other wanted => ?_
    rw [taken]
    rw [filter_eq_some_iff, and_comm, decide_eq_true_eq]
    refine and_congr_left fun seen => ⟨fun apart same => ?_, fun different equal =>
      different (congrArg (·.1) equal)⟩
    obtain ⟨held, ⟨found, named⟩, -⟩ := (mirrored.slots ts member other wanted).mp seen
    rw [same, present] at found
    cases found
    exact apart (Prod.ext same named.symm)
  · refine generations (by rw [ignored]) fun ts member other wanted => ?_
    rw [ignored]
    refine ⟨fun seen => ⟨fun same => ?_, seen⟩, fun both => both.2⟩
    obtain ⟨held, ⟨found, named⟩, -, known⟩ := (mirrored.slots ts member other wanted).mp seen
    rw [same, present] at found
    rw [same, ← named, ← some.inj found] at known
    exact unknown known

end Sndcp

end Bluestation
