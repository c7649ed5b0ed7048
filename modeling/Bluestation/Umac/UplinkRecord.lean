/-
**The schedule as a record of its grants.**

The ring is read as an unbounded store through a window of eighteen frames. A schedule is faithful
to its grants when every grant of a slot that is not over is found where the owner of that slot is
looked up: in the list of associated grants, or else in the ring, inside the window.

* `Faithful.reserveSlots` — reserving free slots inside the window, none with an associated entry.
* `Faithful.finalize` — the end of a slot: the window moves on by one slot.
-/

import Bluestation.Lib.SlidingRing
import Bluestation.Umac.UplinkSchedule

namespace Bluestation

open SlidingRing TdmaTime List Option Function Except

namespace TimeslotSchedule

/-- The half slots of a grant are its terminal's. -/
structure Owns (elem : TimeslotSchedule) (grant : UplinkGrant) : Prop where
  determined : grant.block ≠ .undefined
  first : grant.block ≠ .block2 → elem.ul1 = some grant.ssi
  second : grant.block ≠ .block1 → elem.ul2 = some grant.ssi

def Extends (elem next : TimeslotSchedule) : Prop :=
  (elem.ul1 ≠ none → next.ul1 = elem.ul1) ∧ (elem.ul2 ≠ none → next.ul2 = elem.ul2)

theorem Extends.refl (elem : TimeslotSchedule) : elem.Extends elem := ⟨fun _ => rfl, fun _ => rfl⟩

variable {elem next : TimeslotSchedule} {grant : UplinkGrant}

theorem Owns.extends (owns : elem.Owns grant) (extended : elem.Extends next) :
    next.Owns grant := by
  refine ⟨owns.determined, fun first => ?_, fun second => ?_⟩
  · have mine := owns.first first
    rw [extended.1 (by rw [mine]; exact some_ne_none _), mine]
  · have mine := owns.second second
    rw [extended.2 (by rw [mine]; exact some_ne_none _), mine]

theorem Owns.ssi_eq {other : UplinkGrant} (owns : elem.Owns grant) (otherOwns : elem.Owns other)
    (overlap : (grant.block ≠ .block2 ∧ other.block ≠ .block2) ∨
      (grant.block ≠ .block1 ∧ other.block ≠ .block1)) : grant.ssi = other.ssi := by
  rcases overlap with ⟨mine, theirs⟩ | ⟨mine, theirs⟩
  · exact some_inj.mp ((owns.first mine).symm.trans (otherOwns.first theirs))
  · exact some_inj.mp ((owns.second mine).symm.trans (otherOwns.second theirs))

theorem not_owns_empty : ¬ EMPTY_SCHED_ELEM.Owns grant := by
  intro owns
  by_cases second : grant.block = .block2
  · exact absurd (owns.second (by rw [second]; exact nofun)) nofun
  · cases owns.first second

end TimeslotSchedule

namespace UplinkSchedule

open TimeslotSchedule BsChannelScheduler

/-! ### The ring -/

theorem cell_fromInt (slot : Int) :
    cell (fromInt slot) = ((slot % 4).toNat, (slot / 4 % 18).toNat) := by
  have timeslot := t_fromInt slot
  have frame := f_fromInt slot
  rw [cell, ulTsToSchedIndex, MACSCHED_NUM_FRAMES, Prod.mk.injEq]
  exact ⟨by omega, by omega⟩

/-- Two slots share a cell when they are a multiple of eighteen frames apart. -/
def frames : RingKey (Nat × Nat) 72 where
  key slot := cell (fromInt slot)
  key_eq_iff first second := by
    rw [cell_fromInt, cell_fromInt, Prod.mk.injEq]
    constructor <;> intro same <;> omega

theorem emptied_cell (slot : Int) :
    ((fromInt (slot + 1)).t - 1, ulTsToSchedIndex ((fromInt (slot + 1)).addTimeslots (-4))) =
      frames.key (slot - 3) := by
  have sameTimeslot : (fromInt (slot + 1)).t = (fromInt (slot - 3)).t := by
    have after := t_fromInt (slot + 1)
    have before := t_fromInt (slot - 3)
    omega
  rw [addTimeslots_fromInt, sameTimeslot, show slot + 1 + -4 = slot - 3 by omega]
  rfl

/-! ### The list of associated grants -/

section Entries

variable {ts other : TdmaTime} {elem : TimeslotSchedule}
  {entries : List (TdmaTime × TimeslotSchedule)}

theorem find_setEntry_self :
    ((setEntry ts elem entries).find? fun entry => entry.1 = ts) = some (ts, elem) := by
  induction entries with
  | nil => simp [setEntry]
  | cons entry rest ih =>
    rw [setEntry]
    by_cases here : entry.1 = ts
    · simp [here]
    · simp [here, ih]

theorem find_setEntry_of_ne (different : ts ≠ other) :
    ((setEntry ts elem entries).find? fun entry => entry.1 = other) =
      entries.find? fun entry => entry.1 = other := by
  induction entries with
  | nil => simp [setEntry, different]
  | cons entry rest ih =>
    rw [setEntry]
    by_cases here : entry.1 = ts
    · simp [here, different]
    · simp [here, find?_cons, ih]

theorem find_filter {keep : TdmaTime × TimeslotSchedule → Bool}
    (kept : ∀ entry : TdmaTime × TimeslotSchedule, entry.1 = ts → keep entry = true) :
    ((entries.filter keep).find? fun entry => entry.1 = ts) =
      entries.find? fun entry => entry.1 = ts := by
  induction entries with
  | nil => rfl
  | cons entry rest ih =>
    by_cases here : entry.1 = ts
    · rw [filter_cons_of_pos (kept entry here)]
      simp [here]
    · by_cases stays : keep entry = true
      · rw [filter_cons_of_pos stays]
        simp [here, ih]
      · rw [filter_cons_of_neg stays]
        simp [here, ih]

end Entries

/-! ### Faithful schedules -/

/-- Where the owner of a slot is looked up, if that is certain: slots beyond the window share a
cell of the ring with slots that are not over. -/
inductive Kept (schedule : UplinkSchedule) (low : Int) (store : Int → TimeslotSchedule)
    (position : Int) : TimeslotSchedule → Prop
  | associated {elem : TimeslotSchedule}
      (entry : schedule.associatedEntry (fromInt position) = some elem) :
      Kept schedule low store position elem
  | ring (unassociated : schedule.associatedEntry (fromInt position) = none)
      (inside : position < low + 72) : Kept schedule low store position (store position)

/-- The grant of a slot that is not over is kept. -/
def Recorded (schedule : UplinkSchedule) (low : Int) (store : Int → TimeslotSchedule)
    (grant : UplinkGrant) : Prop :=
  ∃ position elem, grant.time = fromInt position ∧ low ≤ position ∧ position < low + 80 ∧
    Kept schedule low store position elem ∧ elem.Owns grant

/-- The window starts at `low`, the time is `now`, and all grants are kept. -/
structure Faithful (schedule : UplinkSchedule) (now low : Int) (store : Int → TimeslotSchedule) :
    Prop where
  time : schedule.curDltime = fromInt now
  represents : Represents frames schedule.ulsched low store
  recorded : ∀ grant ∈ schedule.granted, Recorded schedule low store grant

variable {schedule after : UplinkSchedule} {now low position : Int}
  {store : Int → TimeslotSchedule}

theorem position_eq {other : Int} (above : low ≤ position) (below : position < low + 80)
    (otherAbove : low ≤ other) (otherBelow : other < low + 80)
    (same : fromInt position = fromInt other) : position = other := by
  refine fromInt_inj (abs_lt.mpr ⟨?_, ?_⟩) same <;> rw [timeIntWrap] <;> omega

theorem Kept.lookup {elem : TimeslotSchedule} (kept : Kept schedule low store position elem)
    (represents : Represents frames schedule.ulsched low store) (above : low ≤ position) :
    (schedule.associatedEntry (fromInt position)).getD
      (schedule.ulsched (cell (fromInt position))) = elem := by
  cases kept with
  | associated entry => rw [entry, getD_some]
  | ring unassociated inside =>
    rw [unassociated]
    exact represents position above inside

variable {grant : UplinkGrant}

/-- **The owner of a granted slot, or half slot, is the terminal it was granted to.** -/
theorem Faithful.owner (faithful : Faithful schedule now low store)
    (member : grant ∈ schedule.granted) {block : PhyBlockNum} (determined : block ≠ .undefined)
    (part : grant.block = .both ∨ block = grant.block) :
    schedule.ulGetSlotOwner grant.time block = .ok (some grant.ssi) := by
  obtain ⟨position, elem, time, above, _, kept, owns⟩ := faithful.recorded grant member
  unfold ulGetSlotOwner
  rw [time, kept.lookup faithful.represents above]
  cases block with
  | both =>
    have whole : grant.block = .both := part.elim id Eq.symm
    have first := owns.first (by rw [whole]; exact nofun)
    have second := owns.second (by rw [whole]; exact nofun)
    dsimp only
    rw [first, second, if_neg (not_not.mpr rfl)]
  | block1 =>
    have first : grant.block ≠ .block2 := fun half => by
      rw [half] at part
      exact part.elim nofun nofun
    exact congrArg Except.ok (owns.first first)
  | block2 =>
    have second : grant.block ≠ .block1 := fun half => by
      rw [half] at part
      exact part.elim nofun nofun
    exact congrArg Except.ok (owns.second second)
  | undefined => exact absurd rfl determined

/-- **Grants of overlapping parts of a slot are to the same terminal.** -/
theorem Faithful.exclusive (faithful : Faithful schedule now low store) {other : UplinkGrant}
    (member : grant ∈ schedule.granted) (otherMember : other ∈ schedule.granted)
    (sameSlot : grant.time = other.time) (overlap : (grant.block ≠ .block2 ∧ other.block ≠ .block2) ∨
      (grant.block ≠ .block1 ∧ other.block ≠ .block1)) : grant.ssi = other.ssi := by
  obtain ⟨position, elem, time, above, below, kept, owns⟩ := faithful.recorded grant member
  obtain ⟨position', elem', time', above', below', kept', owns'⟩ :=
    faithful.recorded other otherMember
  obtain rfl := position_eq above below above' below' (time.symm.trans (sameSlot.trans time'))
  have same : elem = elem' := by
    rw [← kept.lookup faithful.represents above, kept'.lookup faithful.represents above]
  subst same
  exact owns.ssi_eq owns' overlap

/-! ### Reserving in the ring -/

theorem reserveSlot_spec (ssi subslot : Nat) {isHalfslot : Bool} {ts : TdmaTime}
    (room : hasRoom (schedule.ulsched (cell ts)) isHalfslot = true) :
    ∃ elem grant number,
      schedule.reserveSlot ssi isHalfslot subslot ts = .ok (schedule.book elem grant, number) ∧
      grant.time = ts ∧ elem.Owns grant ∧ (schedule.ulsched (cell ts)).Extends elem := by
  unfold reserveSlot
  rcases taken : schedule.ulsched (cell ts) with ⟨ul1, ul2⟩
  rw [taken] at room
  cases isHalfslot with
  | true =>
    rw [if_pos rfl]
    cases ul1 with
    | none =>
      exact ⟨_, _, _, if_pos rfl, rfl, ⟨nofun, fun _ => rfl, fun first => absurd rfl first⟩,
        fun first => absurd rfl first, fun _ => rfl⟩
    | some owner =>
      have free : ul2 = none := by simpa [hasRoom] using room
      refine ⟨⟨some owner, some ssi⟩, ⟨ssi, ts, .block2⟩, 2, ?_, rfl,
        ⟨nofun, fun second => absurd rfl second, fun _ => rfl⟩, fun _ => rfl,
        fun second => absurd free second⟩
      rw [if_neg (by exact nofun), assertThat_of free, ok_bind]
  | false =>
    obtain ⟨first, second⟩ : ul1 = none ∧ ul2 = none := by simpa [hasRoom] using room
    refine ⟨⟨some ssi, some ssi⟩, ⟨ssi, ts, .both⟩, subslot, ?_, rfl,
      ⟨nofun, fun _ => rfl, fun _ => rfl⟩, fun other => absurd first other,
      fun other => absurd second other⟩
    rw [if_neg Bool.false_ne_true, assertThat_of first, assertThat_of second, ok_bind, ok_bind]

theorem Faithful.book (faithful : Faithful schedule now low store) {elem : TimeslotSchedule}
    (above : low ≤ position) (inside : position < low + 72)
    (unassociated : schedule.associatedEntry (fromInt position) = none)
    (time : grant.time = fromInt position) (extended : (store position).Extends elem)
    (owns : elem.Owns grant) :
    Faithful (schedule.book elem grant) now low (Function.update store position elem) := by
  refine ⟨faithful.time, ?_, fun other member => ?_⟩
  · unfold UplinkSchedule.book
    rw [time]
    exact faithful.represents.update above inside elem
  rcases mem_append.mp member with before | new
  · obtain ⟨position', elem', time', above', below', kept, owns'⟩ := faithful.recorded other before
    cases kept with
    | associated entry => exact ⟨position', elem', time', above', below', .associated entry, owns'⟩
    | ring unassociated' inside' =>
      refine ⟨position', _, time', above', below', .ring unassociated' inside', ?_⟩
      by_cases same : position' = position
      · rw [same, update_self]
        rw [same] at owns'
        exact owns'.extends extended
      · rwa [update_of_ne same]
  · rw [mem_singleton.mp new]
    refine ⟨position, _, time, above, by omega, .ring unassociated inside, ?_⟩
    rwa [update_self]

/-- **Reserving free slots of the window that have no associated entry succeeds and keeps all
grants.** -/
theorem Faithful.reserveSlots (faithful : Faithful schedule now low store) (ssi subslot : Nat)
    {isHalfslot : Bool} {positions : List Int} (distinct : positions.Nodup)
    (each : ∀ position ∈ positions, low ≤ position ∧ position < low + 72 ∧
      schedule.associatedEntry (fromInt position) = none ∧
      hasRoom (store position) isHalfslot = true) :
    ∃ after number store',
      schedule.reserveSlots ssi isHalfslot subslot (positions.map fromInt) = .ok (after, number) ∧
      Faithful after now low store' ∧ schedule.granted ⊆ after.granted := by
  induction positions generalizing schedule store subslot with
  | nil => exact ⟨schedule, subslot, store, rfl, faithful, List.Subset.refl _⟩
  | cons position rest ih =>
    obtain ⟨above, inside, unassociated, room⟩ := each position mem_cons_self
    have cellIs : schedule.ulsched (cell (fromInt position)) = store position :=
      faithful.represents position above inside
    rw [← cellIs] at room
    obtain ⟨elem, grant, number, reserved, time, owns, extended⟩ := reserveSlot_spec ssi subslot room
    rw [cellIs] at extended
    have next := faithful.book above inside unassociated time extended owns
    obtain ⟨notRest, restDistinct⟩ := nodup_cons.mp distinct
    obtain ⟨after, last, store', all, faithful', more⟩ := ih next number restDistinct
      (fun other member => by
        obtain ⟨above', inside', unassociated', room'⟩ := each other (mem_cons_of_mem _ member)
        have different : other ≠ position := fun same => notRest (same ▸ member)
        refine ⟨above', inside', unassociated', ?_⟩
        rwa [update_of_ne different])
    refine ⟨after, last, store', ?_, faithful', ?_⟩
    · rw [map_cons, UplinkSchedule.reserveSlots, reserved]
      exact all
    · exact fun other member => more (mem_append_left _ member)

/-! ### Reserving in a frame 18 -/

/-- A request in a frame 18 writes its entry: halves that are taken stay, and a grant is of halves
that are now the terminal's, and to it. -/
theorem ulProcessAssociatedFn18CapReq_spec {target : TdmaTime} {addr : TetraAddress}
    {resReq : ReservationRequirement} {answer : Option BasicSlotgrant}
    (reserved : schedule.ulProcessAssociatedFn18CapReq target addr resReq = .ok (after, answer)) :
    ∃ elem grants, after = schedule.bookAssociated target elem grants ∧
      ((schedule.associatedEntry target).getD EMPTY_SCHED_ELEM).Extends elem ∧
      ∀ grant ∈ grants, grant.time = target ∧ elem.Owns grant ∧ grant.ssi = addr.ssi := by
  obtain ⟨_, _, written⟩ := bind_eq_ok.mp reserved
  generalize (schedule.associatedEntry target).getD EMPTY_SCHED_ELEM = elem at written ⊢
  have rejected : ∃ elem' grants, schedule.bookAssociated target elem [] =
      schedule.bookAssociated target elem' grants ∧ elem.Extends elem' ∧
      ∀ grant ∈ grants, grant.time = target ∧ elem'.Owns grant ∧ grant.ssi = addr.ssi :=
    ⟨elem, [], rfl, .refl elem, nofun⟩
  have first (free : elem.ul1.isNone = true) : elem.Extends { elem with ul1 := some addr.ssi } :=
    ⟨fun taken => absurd (isNone_iff_eq_none.mp free) taken, fun _ => rfl⟩
  have second (free : elem.ul2.isNone = true) : elem.Extends { elem with ul2 := some addr.ssi } :=
    ⟨fun _ => rfl, fun taken => absurd (isNone_iff_eq_none.mp free) taken⟩
  have single {elem' : TimeslotSchedule} {block : PhyBlockNum}
      (owns : elem'.Owns ⟨addr.ssi, target, block⟩) :
      ∀ grant ∈ [(⟨addr.ssi, target, block⟩ : UplinkGrant)],
        grant.time = target ∧ elem'.Owns grant ∧ grant.ssi = addr.ssi :=
    fun grant member => by rw [mem_singleton.mp member]; exact ⟨rfl, owns, rfl⟩
  dsimp only at written
  split at written
  · split at written
    · split at written
      · next free =>
        cases written
        exact ⟨_, _, rfl, second free, single ⟨nofun, fun other => absurd rfl other, fun _ => rfl⟩⟩
      · cases written
        exact rejected
    · split at written
      · next free =>
        cases written
        exact ⟨_, _, rfl, first free, single ⟨nofun, fun _ => rfl, fun other => absurd rfl other⟩⟩
      · split at written
        · next free =>
          cases written
          exact ⟨_, _, rfl, second free, single ⟨nofun, fun other => absurd rfl other, fun _ => rfl⟩⟩
        · cases written
          exact rejected
  · split at written
    · cases written
      exact rejected
    · split at written
      · next free =>
        cases written
        refine ⟨_, _, rfl, ⟨fun taken => ?_, fun taken => ?_⟩, single ⟨nofun, fun _ => rfl, fun _ => rfl⟩⟩
        · exact absurd (isNone_iff_eq_none.mp free.1) taken
        · exact absurd (isNone_iff_eq_none.mp free.2) taken
      · cases written
        exact rejected

/-- **Reserving in a frame 18 that has an entry, or is free in the ring, keeps all grants.** -/
theorem Faithful.associated (faithful : Faithful schedule now low store) {addr : TetraAddress}
    {resReq : ReservationRequirement} {answer : Option BasicSlotgrant}
    (above : low ≤ position) (below : position < low + 80)
    (clear : schedule.associatedEntry (fromInt position) = none → position < low + 72 →
      store position = EMPTY_SCHED_ELEM)
    (reserved : schedule.ulProcessAssociatedFn18CapReq (fromInt position) addr resReq =
      .ok (after, answer)) :
    Faithful after now low store ∧ schedule.granted ⊆ after.granted := by
  obtain ⟨elem, grants, rfl, extended, new⟩ := ulProcessAssociatedFn18CapReq_spec reserved
  have entry : (schedule.bookAssociated (fromInt position) elem grants).associatedEntry
      (fromInt position) = some elem :=
    congrArg (Option.map Prod.snd) find_setEntry_self
  refine ⟨⟨faithful.time, faithful.represents, fun grant member => ?_⟩,
    fun grant member => mem_append_left _ member⟩
  rcases mem_append.mp member with before | granted
  · obtain ⟨position', elem', time, above', below', kept, owns⟩ := faithful.recorded grant before
    by_cases same : position' = position
    · subst same
      refine ⟨position', elem, time, above', below', .associated entry, ?_⟩
      cases kept with
      | associated old =>
        rw [old] at extended
        exact owns.extends extended
      | ring unassociated inside =>
        rw [clear unassociated inside] at owns
        exact absurd owns not_owns_empty
    · have different : fromInt position ≠ fromInt position' := fun times =>
        same (position_eq above' below' above below times.symm)
      have unchanged : (schedule.bookAssociated (fromInt position) elem grants).associatedEntry
          (fromInt position') = schedule.associatedEntry (fromInt position') :=
        congrArg (Option.map Prod.snd) (find_setEntry_of_ne different)
      refine ⟨position', elem', time, above', below', ?_, owns⟩
      cases kept with
      | associated old => exact .associated (unchanged.trans old)
      | ring unassociated inside => exact .ring (unchanged.trans unassociated) inside
  · obtain ⟨time, owns, -⟩ := new grant granted
    exact ⟨position, elem, time, above, below, .associated entry, owns⟩

/-! ### The end of a slot -/

theorem age_next {slot : Int} (above : slot - 80 < position) (below : position < slot + 80) :
    (fromInt position).age (fromInt (slot + 1)) = slot + 1 - position := by
  refine diff_fromInt (abs_lt.mpr ⟨?_, ?_⟩) <;> rw [timeIntWrap] <;> omega

/-- **The end of a slot moves the window on by one slot.** -/
theorem Faithful.finalize (faithful : Faithful schedule now (now - 3) store) :
    Faithful schedule.finalizeTsForTick now (now - 2)
      (Function.update store (now - 3 + 72) EMPTY_SCHED_ELEM) := by
  unfold finalizeTsForTick
  rw [faithful.time, MACSCHED_TX_AHEAD, Nat.cast_one, addTimeslots_fromInt]
  refine ⟨rfl, ?_, fun grant member => ?_⟩
  · dsimp only
    rw [emptied_cell]
    have slid := faithful.represents.slide EMPTY_SCHED_ELEM
    rwa [show now - 3 + 1 = now - 2 by omega] at slid
  · obtain ⟨before, young⟩ := mem_filter.mp member
    obtain ⟨position, elem, time, above, below, kept, owns⟩ := faithful.recorded grant before
    rw [decide_eq_true_eq, time, age_next (by omega) (by omega)] at young
    refine ⟨position, elem, time, by omega, by omega, ?_, owns⟩
    have unchanged : ((schedule.associatedUlsched.filter fun entry =>
        entry.1.age (fromInt (now + 1)) ≤ 16).find? fun entry => entry.1 = fromInt position) =
        schedule.associatedUlsched.find? fun entry => entry.1 = fromInt position :=
      find_filter fun entry same => by
        rw [same, age_next (by omega) (by omega), decide_eq_true_eq]
        omega
    have entry := congrArg (Option.map Prod.snd) unchanged
    cases kept with
    | associated old => exact .associated (entry.trans old)
    | ring unassociated inside =>
      have stays : store position = Function.update store (now - 3 + 72) EMPTY_SCHED_ELEM position :=
        (update_of_ne (by omega) _ _).symm
      rw [stays]
      exact .ring (entry.trans unassociated) (by omega)

theorem granted_finalize (time : schedule.curDltime = fromInt now) (member : grant ∈ schedule.granted)
    (sameTime : grant.time = fromInt position) (open' : now - 2 ≤ position)
    (near : position < now + 80) : grant ∈ schedule.finalizeTsForTick.granted := by
  unfold finalizeTsForTick
  rw [time, MACSCHED_TX_AHEAD, Nat.cast_one, addTimeslots_fromInt]
  refine mem_filter.mpr ⟨member, ?_⟩
  rw [sameTime, age_next (by omega) near, decide_eq_true_eq]
  omega

/-- The next slot begins. -/
theorem Faithful.tick (faithful : Faithful schedule now low store) :
    Faithful { schedule with curDltime := schedule.curDltime.addTimeslots 1 } (now + 1) low store :=
  ⟨by rw [faithful.time, addTimeslots_fromInt], faithful.represents, fun grant member => by
    obtain ⟨position, elem, time, above, below, kept, owns⟩ := faithful.recorded grant member
    refine ⟨position, elem, time, above, below, ?_, owns⟩
    cases kept with
    | associated entry => exact .associated entry
    | ring unassociated inside => exact .ring unassociated inside⟩

end UplinkSchedule

end Bluestation
