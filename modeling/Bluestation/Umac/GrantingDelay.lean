/-
**The granting delay: what the terminal counts up to its first slot.**

A terminal waits as many signalling opportunities of its channel as it is told. The search for free
slots counts them on its way, with two things in the way of it: within the minimum delay it counts the
slots of a transmitting member as well, and a linearization opportunity inside a run of free slots that
it gives up is not counted.

* `GrantCounted` — the slots are free and in a row, and the delay is what the terminal counts.
* `granting_delay_iff` — **it is exactly if the two miscounts are equally large**; and no slot found is
  reserved in the list of associated grants exactly if none of the first run is.
-/

import Bluestation.Lib.FreeRuns
import Bluestation.Umac.UplinkSchedule

namespace Bluestation

open FreeRuns UplinkSchedule List Nat Bool

namespace BsChannelScheduler

variable (scheduler : BsChannelScheduler) (first : TdmaTime) (channel : List Nat) (isHalfslot : Bool)

def slotAt (dist : Nat) : TdmaTime := first.addTimeslots dist

def kindAt (dist : Nat) : Kind :=
  if (slotAt first dist).isMandatoryClch then .hole
  else if scheduler.speakerOwns (slotAt first dist) then .absent
  else if hasRoom (scheduler.ulsched (cell (slotAt first dist))) isHalfslot then .free
  else .taken

/-- The slots of the channel among the next `left` ones. -/
def channelSlots (left dist : Nat) : List Nat :=
  (List.range' dist left).filter fun dist => (slotAt first dist).t ∈ channel

/-- A signalling opportunity of the channel: a slot of it that no transmitting member owns. -/
def isOpportunity (dist : Nat) : Bool :=
  decide ((slotAt first dist).t ∈ channel) && !scheduler.speakerOwns (slotAt first dist)

/-- **What the terminal is told is what it counts**: the slots are free, as many as asked for, and in a
row but for linearization opportunities; so many opportunities of the channel are before the first. -/
structure GrantCounted (numSlots skips : Nat) (slots : List TdmaTime) (dists : List Nat) : Prop where
  slots_eq : slots = dists.map (slotAt first)
  near : ∀ dist ∈ dists, dist < MACSCHED_NUM_FRAMES * 4
  ascending : dists.Pairwise (· < ·)
  length : slots.length = numSlots
  free : ∀ slot ∈ slots, slot.t ∈ channel ∧ hasRoom (scheduler.ulsched (cell slot)) isHalfslot = true
  delay : ∀ start ∈ dists.head?,
    skips = (List.range start).countP (scheduler.isOpportunity first channel)
  inRow : ∀ start ∈ dists.head?, ∀ last ∈ dists.getLast?, ∀ dist, start ≤ dist → dist ≤ last →
    scheduler.isOpportunity first channel dist = true →
    dist ∈ dists ∨ (slotAt first dist).isMandatoryClch = true

def ownedInDelay (minimumDelay : Nat) : Nat :=
  ((channelSlots first channel (MACSCHED_NUM_FRAMES * 4) 0).take minimumDelay).countP fun dist =>
    scheduler.speakerOwns (slotAt first dist)

def behindDelay (minimumDelay : Nat) : List Nat :=
  (channelSlots first channel (MACSCHED_NUM_FRAMES * 4) 0).drop minimumDelay

/-- **The two miscounts are equally large**: before the first run of so many free slots behind the
minimum delay, there are as many linearization opportunities with a free slot before them and none
taken between as there are slots of a transmitting member within the minimum delay. -/
def MiscountsEqual (numSlots minimumDelay : Nat) : Prop :=
  (isHalfslot = true → numSlots = 1) → 0 < numSlots → ∀ before,
    beforeRun (scheduler.kindAt first isHalfslot) numSlots (behindDelay first channel minimumDelay) =
      some before →
    scheduler.ownedInDelay first channel minimumDelay =
      hiddenHoles (scheduler.kindAt first isHalfslot) false before

/-- A reservation of the slot in the list of associated grants leaves room for the request. -/
def AssociatedRoom (slot : TdmaTime) : Prop :=
  ∀ elem, scheduler.associatedEntry slot = some elem → hasRoom elem isHalfslot = true

/-- **The first run is not reserved elsewhere**: the reservations of its slots in the list of
associated grants leave room. -/
def RunUnreserved (numSlots minimumDelay : Nat) : Prop :=
  (isHalfslot = true → numSlots = 1) → 0 < numSlots → ∀ before,
    beforeRun (scheduler.kindAt first isHalfslot) numSlots (behindDelay first channel minimumDelay) =
      some before →
    ∀ dist ∈ takeRun (scheduler.kindAt first isHalfslot) numSlots
      ((behindDelay first channel minimumDelay).drop before.length),
    scheduler.AssociatedRoom isHalfslot (slotAt first dist)

variable {scheduler first channel isHalfslot} {numSlots minimumDelay : Nat}

/-! ### What a slot is to the search -/

theorem slotAt_injective {one other : Nat} (nearOne : one < MACSCHED_NUM_FRAMES * 4)
    (nearOther : other < MACSCHED_NUM_FRAMES * 4) (same : slotAt first one = slotAt first other) :
    one = other := by
  unfold MACSCHED_NUM_FRAMES at nearOne nearOther
  have equal := TdmaTime.fromInt_inj (by rw [abs_lt]; unfold timeIntWrap; omega) same
  omega

theorem speakerOwns_clch {slot : TdmaTime} (clch : slot.isMandatoryClch = true) :
    scheduler.speakerOwns slot = false := by
  unfold TdmaTime.isMandatoryClch at clch
  rw [Bool.and_eq_true, decide_eq_true_eq] at clch
  unfold speakerOwns
  rw [decide_eq_false (not_not.mpr clch.1), Bool.and_false]

variable {dist : Nat}

theorem kindAt_absent : scheduler.kindAt first isHalfslot dist = .absent ↔
      scheduler.speakerOwns (slotAt first dist) = true := by
  unfold kindAt
  by_cases clch : (slotAt first dist).isMandatoryClch = true
  · rw [if_pos clch, speakerOwns_clch clch]
    simp
  by_cases owns : scheduler.speakerOwns (slotAt first dist) = true
  · rw [if_neg clch]
    simp [owns]
  · rw [if_neg clch]
    by_cases room : hasRoom (scheduler.ulsched (cell (slotAt first dist))) isHalfslot = true
    · rw [if_pos room]
      simp [owns]
    · rw [if_neg room]
      simp [owns]

theorem kindAt_hole (hole : scheduler.kindAt first isHalfslot dist = .hole) :
    (slotAt first dist).isMandatoryClch = true := by
  by_contra clch
  rw [kindAt, if_neg clch] at hole
  split at hole
  · cases hole
  · split at hole
    · cases hole
    · cases hole

theorem kindAt_free (free : scheduler.kindAt first isHalfslot dist = .free) :
    hasRoom (scheduler.ulsched (cell (slotAt first dist))) isHalfslot = true := by
  by_contra full
  rw [kindAt] at free
  split at free
  · cases free
  · split at free
    · cases free
    · cases free

/-! ### The search is that for a run -/

theorem channelSlots_succ (left dist : Nat) : channelSlots first channel (left + 1) dist =
    if (slotAt first dist).t ∈ channel then dist :: channelSlots first channel left (dist + 1)
    else channelSlots first channel left (dist + 1) := by
  unfold channelSlots
  rw [range'_succ, filter_cons]
  simp only [decide_eq_true_eq]

/-- Behind the minimum delay the search is that for a run. -/
theorem searchFrom_eq_seek {left skipped : Nat} {run : List Nat} (delayed : minimumDelay ≤ skipped) :
    scheduler.searchFrom first channel numSlots isHalfslot minimumDelay left dist skipped
        (run.map (slotAt first)) =
      (seek (scheduler.kindAt first isHalfslot) numSlots (channelSlots first channel left dist) skipped
        run).map fun found => (found.1, found.2.map (slotAt first)) := by
  induction left generalizing dist skipped run with
  | zero => rfl
  | succ left ih =>
    rw [searchFrom, channelSlots_succ, show first.addTimeslots dist = slotAt first dist from rfl]
    by_cases outside : (slotAt first dist).t ∉ channel
    · rw [if_pos outside, if_neg outside]
      exact ih delayed
    rw [if_neg outside, if_pos (not_not.mp outside), if_neg (not_lt.mpr delayed)]
    rw [seek]
    by_cases clch : (slotAt first dist).isMandatoryClch = true
    · have kind : scheduler.kindAt first isHalfslot dist = .hole := if_pos clch
      rw [kind, if_pos clch, isEmpty_map]
      exact ih (by split <;> omega)
    by_cases owns : scheduler.speakerOwns (slotAt first dist) = true
    · rw [kindAt_absent.mpr owns, if_neg clch, if_pos owns]
      exact ih delayed
    rw [if_neg clch, if_neg owns]
    by_cases room : hasRoom (scheduler.ulsched (cell (slotAt first dist))) isHalfslot = true
    · have kind : scheduler.kindAt first isHalfslot dist = .free := by
        rw [kindAt, if_neg clch, if_neg owns, if_pos room]
      have longer : run.map (slotAt first) ++ [slotAt first dist] =
          (run ++ [dist]).map (slotAt first) := by
        rw [map_append, map_singleton]
      rw [kind, if_pos room]
      simp only [longer, length_map]
      by_cases full : (run ++ [dist]).length = numSlots
      · rw [if_pos full, if_pos full]
        rfl
      · rw [if_neg full, if_neg full]
        exact ih delayed
    · have kind : scheduler.kindAt first isHalfslot dist = .taken := by
        rw [kindAt, if_neg clch, if_neg owns, if_neg room]
      rw [kind, if_neg room]
      simp only [length_map, length_nil]
      by_cases none : 0 = numSlots
      · rw [if_pos none, if_pos none]
        rfl
      · rw [if_neg none, if_neg none]
        exact @ih (dist + 1) (skipped + run.length + 1) [] (by omega)

theorem searchFrom_delay {left skipped : Nat} (delaying : skipped ≤ minimumDelay) :
    scheduler.searchFrom first channel numSlots isHalfslot minimumDelay left dist skipped [] =
      (seek (scheduler.kindAt first isHalfslot) numSlots
        ((channelSlots first channel left dist).drop (minimumDelay - skipped)) minimumDelay []).map
        fun found => (found.1, found.2.map (slotAt first)) := by
  rcases delaying.eq_or_lt with rfl | more
  · rw [Nat.sub_self]
    exact @searchFrom_eq_seek _ _ _ _ _ _ _ _ _ [] le_rfl
  induction left generalizing dist skipped with
  | zero =>
    unfold channelSlots
    rw [range'_zero, filter_nil, drop_nil]
    rfl
  | succ left ih =>
    rw [searchFrom, channelSlots_succ, show first.addTimeslots dist = slotAt first dist from rfl]
    by_cases outside : (slotAt first dist).t ∉ channel
    · rw [if_pos outside, if_neg outside]
      exact ih delaying more
    rw [if_neg outside, if_pos (not_not.mp outside), if_pos more,
      show minimumDelay - skipped = minimumDelay - (skipped + 1) + 1 by omega]
    rcases (show skipped + 1 ≤ minimumDelay from more).eq_or_lt with same | still
    · rw [same, Nat.sub_self]
      exact @searchFrom_eq_seek _ _ _ _ _ _ _ _ _ [] le_rfl
    · exact ih more still

/-- **The grant found**: the first run of free slots behind the minimum delay. -/
theorem ulFindGrantOpportunityFrom_eq {t : Nat} (single : isHalfslot = true → numSlots = 1)
    (positive : 0 < numSlots) :
    scheduler.ulFindGrantOpportunityFrom first t numSlots isHalfslot minimumDelay =
      .ok ((beforeRun (scheduler.kindAt first isHalfslot) numSlots
        (behindDelay first (scheduler.basicGrantTimeslots t) minimumDelay)).map fun before =>
        (minimumDelay + counted (scheduler.kindAt first isHalfslot) false before,
          (takeRun (scheduler.kindAt first isHalfslot) numSlots
            ((behindDelay first (scheduler.basicGrantTimeslots t) minimumDelay).drop
              before.length)).map (slotAt first))) := by
  have accepted : (!isHalfslot || decide (numSlots = 1)) = true := by
    cases isHalfslot with
    | false => rfl
    | true => simpa using single rfl
  unfold ulFindGrantOpportunityFrom
  rw [accepted, searchFrom_delay (zero_le _), seek_eq _ _ _ (by simpa using positive),
    if_neg (fun both => both.1 rfl), Option.map_map]
  rfl

/-! ### What the terminal counts -/

section Counting

variable {t start : Nat} {before window after : List Nat}

theorem channelSlots_ascending (left dist : Nat) :
    (channelSlots first channel left dist).Pairwise (· < ·) :=
  List.Pairwise.filter _ pairwise_lt_range'

theorem mem_channelSlots {dist : Nat} :
    dist ∈ channelSlots first channel (MACSCHED_NUM_FRAMES * 4) 0 ↔
      dist < MACSCHED_NUM_FRAMES * 4 ∧ (slotAt first dist).t ∈ channel := by
  unfold channelSlots
  simp

theorem channelSlots_before {early : List Nat}
    (split : channelSlots first channel (MACSCHED_NUM_FRAMES * 4) 0 = early ++ start :: after) :
    (List.range start).filter (fun dist => decide ((slotAt first dist).t ∈ channel)) = early := by
  have member : start ∈ channelSlots first channel (MACSCHED_NUM_FRAMES * 4) 0 := by
    rw [split]
    simp
  obtain ⟨near, there⟩ := mem_channelSlots.mp member
  have halves : channelSlots first channel (MACSCHED_NUM_FRAMES * 4) 0 =
      (List.range start).filter (fun dist => decide ((slotAt first dist).t ∈ channel)) ++
        start :: channelSlots first channel (MACSCHED_NUM_FRAMES * 4 - start - 1) (start + 1) := by
    have cut : MACSCHED_NUM_FRAMES * 4 = start + (MACSCHED_NUM_FRAMES * 4 - start - 1 + 1) := by omega
    have tail := @channelSlots_succ first channel (MACSCHED_NUM_FRAMES * 4 - start - 1) start
    rw [if_pos there] at tail
    rw [← tail]
    unfold channelSlots
    conv_lhs => rw [cut]
    rw [← range'_append_1, filter_append, range_eq_range', zero_add]
  refine (append_cons_inj_of_notMem ?_ ?_).mp (halves.symm.trans split) |>.1
  · intro isBefore
    exact absurd (mem_range.mp (mem_of_mem_filter isBefore)) (lt_irrefl start)
  · intro isAfter
    have later := (mem_range'_1.mp (mem_of_mem_filter isAfter)).1
    exact absurd later (not_succ_le_self start)

/-- The opportunities before the run: the minimum delay without the slots of transmitting members, and
what is there behind it. -/
theorem opportunities_before
    (split : behindDelay first channel minimumDelay = before ++ start :: after) :
    (List.range start).countP (scheduler.isOpportunity first channel) +
        scheduler.ownedInDelay first channel minimumDelay =
      minimumDelay + present (scheduler.kindAt first isHalfslot) before := by
  have whole : channelSlots first channel (MACSCHED_NUM_FRAMES * 4) 0 =
      (channelSlots first channel (MACSCHED_NUM_FRAMES * 4) 0).take minimumDelay ++ before ++
        start :: after := by
    rw [append_assoc, ← split]
    exact (take_append_drop minimumDelay _).symm
  have delayed : ((channelSlots first channel (MACSCHED_NUM_FRAMES * 4) 0).take minimumDelay).length =
      minimumDelay := by
    refine length_take_of_le (le_of_lt (length_lt_of_drop_ne_nil ?_))
    rw [show List.drop _ _ = _ from split]
    simp
  have opportunities : (List.range start).countP (scheduler.isOpportunity first channel) =
      ((channelSlots first channel (MACSCHED_NUM_FRAMES * 4) 0).take minimumDelay ++ before).countP
        fun dist => !scheduler.speakerOwns (slotAt first dist) := by
    rw [← channelSlots_before whole, countP_filter]
    congr 1
    funext dist
    exact and_comm _ _
  have behind : before.countP (fun dist => !scheduler.speakerOwns (slotAt first dist)) =
      present (scheduler.kindAt first isHalfslot) before := by
    congr 1
    funext dist
    by_cases owns : scheduler.speakerOwns (slotAt first dist) = true
    · simp [owns, kindAt_absent.mpr owns]
    · have there := mt (@kindAt_absent _ _ isHalfslot dist).mp owns
      simp [owns, there]
  have both : ((channelSlots first channel (MACSCHED_NUM_FRAMES * 4) 0).take minimumDelay).countP
      (fun dist => !scheduler.speakerOwns (slotAt first dist)) +
        scheduler.ownedInDelay first channel minimumDelay = minimumDelay := by
    conv_rhs => rw [← delayed]
    rw [add_comm, length_eq_countP_add_countP fun dist =>
      scheduler.speakerOwns (slotAt first dist)]
    unfold ownedInDelay
    simp
  rw [opportunities, countP_append, behind, add_right_comm, both]

theorem takeRun_sublist (skip : Nat) : (takeRun (scheduler.kindAt first isHalfslot) numSlots
      ((behindDelay first channel minimumDelay).drop skip)).Sublist
      (channelSlots first channel (MACSCHED_NUM_FRAMES * 4) 0) :=
  (take_sublist _ _).trans (filter_sublist.trans ((drop_sublist _ _).trans (drop_sublist _ _)))

theorem counts_before_run (positive : 0 < numSlots)
    (found : beforeRun (scheduler.kindAt first isHalfslot) numSlots
      (behindDelay first channel minimumDelay) = some before) :
    ∃ start, (takeRun (scheduler.kindAt first isHalfslot) numSlots
        ((behindDelay first channel minimumDelay).drop before.length)).head? = some start ∧
      (List.range start).countP (scheduler.isOpportunity first channel) +
          scheduler.ownedInDelay first channel minimumDelay =
        minimumDelay + counted (scheduler.kindAt first isHalfslot) false before +
          hiddenHoles (scheduler.kindAt first isHalfslot) false before := by
  obtain ⟨start, window, after, last, split, startFree, run⟩ := beforeRun_isRun positive found
  refine ⟨start, ?_, ?_⟩
  · rw [run.took, filter_cons_of_pos (by simpa using startFree)]
    rfl
  · rw [run.split] at split
    rw [add_assoc, counted_add_hiddenHoles]
    exact opportunities_before split

/-- **The grant of the first run is what the terminal counts** if the miscounts are equally large. -/
theorem grantCounted_run (positive : 0 < numSlots)
    (found : beforeRun (scheduler.kindAt first isHalfslot) numSlots
      (behindDelay first channel minimumDelay) = some before)
    (equal : scheduler.ownedInDelay first channel minimumDelay =
      hiddenHoles (scheduler.kindAt first isHalfslot) false before) :
    scheduler.GrantCounted first channel isHalfslot numSlots
      (minimumDelay + counted (scheduler.kindAt first isHalfslot) false before)
      ((takeRun (scheduler.kindAt first isHalfslot) numSlots
        ((behindDelay first channel minimumDelay).drop before.length)).map (slotAt first))
      (takeRun (scheduler.kindAt first isHalfslot) numSlots
        ((behindDelay first channel minimumDelay).drop before.length)) := by
  obtain ⟨start, window, after, last, split, startFree, run⟩ := beforeRun_isRun positive found
  have dists := run.took
  rw [filter_cons_of_pos (by simpa using startFree)] at dists
  have whole := split
  rw [run.split] at whole
  have ascending := @channelSlots_ascending first channel (MACSCHED_NUM_FRAMES * 4) 0
  have within := @takeRun_sublist scheduler first channel isHalfslot numSlots minimumDelay
    before.length
  constructor
  · rfl
  · intro dist member
    exact (mem_channelSlots.mp (within.subset member)).1
  · exact ascending.sublist within
  · rw [length_map, run.length]
  · intro slot member
    obtain ⟨dist, isDist, rfl⟩ := mem_map.mp member
    have free := mem_filter.mp (mem_of_mem_take isDist) |>.2
    exact ⟨(mem_channelSlots.mp (within.subset isDist)).2, kindAt_free (of_decide_eq_true free)⟩
  · intro head isHead
    obtain ⟨start, isStart, counts⟩ := counts_before_run positive found
    rw [isStart, Option.mem_some_iff] at isHead
    subst isHead
    rw [equal] at counts
    exact (add_right_cancel counts).symm
  · intro head isHead final isFinal dist low high opportunity
    rw [dists, head?_cons, Option.mem_some_iff] at isHead
    subst isHead
    rw [run.getLast?_takeRun, Option.mem_some_iff] at isFinal
    subst isFinal
    obtain ⟨there, owned⟩ := and_eq_true_iff.mp opportunity
    have lastMember : last ∈ channelSlots first channel (MACSCHED_NUM_FRAMES * 4) 0 :=
      within.subset (mem_of_getLast? run.getLast?_takeRun)
    have member := mem_channelSlots.mpr
      ⟨high.trans_lt (mem_channelSlots.mp lastMember).1, of_decide_eq_true there⟩
    have inWindow : dist ∈ start :: window := by
      -- the channel's slots ascend: before the run, the run, behind it
      have order := ascending
      rw [← take_append_drop minimumDelay (channelSlots _ _ _ _),
        show List.drop _ _ = _ from whole, ← append_assoc, pairwise_append] at order
      rw [← take_append_drop minimumDelay (channelSlots _ _ _ _),
        show List.drop _ _ = _ from whole, ← append_assoc] at member
      rcases mem_append.mp member with early | member
      · exact absurd (order.2.2 dist early start (by simp)) (not_lt.mpr low)
      · rcases mem_append.mp member with here | late
        · exact here
        · have later := (pairwise_append.mp order.2.1).2.2 last (mem_of_getLast? run.ends) dist late
          exact absurd later (not_lt.mpr high)
    cases is : scheduler.kindAt first isHalfslot dist with
    | absent => simp [kindAt_absent.mp is] at owned
    | hole => exact .inr (kindAt_hole is)
    | taken => exact absurd is (run.clear dist inWindow)
    | free =>
      rw [run.took]
      exact .inl (mem_filter.mpr ⟨inWindow, decide_eq_true is⟩)

theorem GrantCounted.dists_eq {skips : Nat} {dists run : List Nat}
    (counted : scheduler.GrantCounted first channel isHalfslot numSlots skips (run.map (slotAt first))
      dists) (near : ∀ dist ∈ run, dist < MACSCHED_NUM_FRAMES * 4) : dists = run := by
  have lengths : dists.length = run.length := by
    have same := congrArg List.length counted.slots_eq
    rwa [length_map, length_map, eq_comm] at same
  refine ext_getElem lengths fun index low high => ?_
  have same := congrArg (fun slots => slots[index]?) counted.slots_eq
  rw [getElem?_map, getElem?_map, getElem?_eq_getElem low, getElem?_eq_getElem high] at same
  exact slotAt_injective (counted.near _ (getElem_mem low)) (near _ (getElem_mem high))
    (Option.some.inj same).symm

theorem forall_found_iff {property : Nat → List TdmaTime → Prop}
    (nothing : numSlots = 0 → ∀ skips, property skips []) :
    (∀ skips slots, scheduler.ulFindGrantOpportunityFrom first t numSlots isHalfslot minimumDelay =
        .ok (some (skips, slots)) → property skips slots) ↔
    ((isHalfslot = true → numSlots = 1) → 0 < numSlots → ∀ before,
      beforeRun (scheduler.kindAt first isHalfslot) numSlots
        (behindDelay first (scheduler.basicGrantTimeslots t) minimumDelay) = some before →
      property (minimumDelay + counted (scheduler.kindAt first isHalfslot) false before)
        ((takeRun (scheduler.kindAt first isHalfslot) numSlots
          ((behindDelay first (scheduler.basicGrantTimeslots t) minimumDelay).drop
            before.length)).map (slotAt first))) := by
  constructor
  · intro holds single positive before found
    refine holds _ _ ?_
    rw [ulFindGrantOpportunityFrom_eq single positive, found]
    rfl
  · intro holds skips slots found
    obtain ⟨-, length, single⟩ := ulFindGrantOpportunityFrom_spec found
    rcases Nat.eq_zero_or_pos numSlots with none | positive
    · rw [eq_nil_of_length_eq_zero (length.trans none)]
      exact nothing none skips
    · rw [ulFindGrantOpportunityFrom_eq single positive] at found
      obtain ⟨before, isBefore, same⟩ := Option.map_eq_some_iff.mp (Except.ok.inj found)
      rw [Prod.mk.injEq] at same
      rw [← same.1, ← same.2]
      exact holds single positive before isBefore

/-- **Granting delay**: the terminal is told what it counts if and only if as many slots of a
transmitting member are within the minimum delay as linearization opportunities are in runs that the
search has given up; and what is found is reserved nowhere else if and only if the first run is not. -/
theorem granting_delay_iff (scheduler : BsChannelScheduler) (first : TdmaTime) (t numSlots : Nat)
    (isHalfslot : Bool) (minimumDelay : Nat) :
    ((∀ skips slots, scheduler.ulFindGrantOpportunityFrom first t numSlots isHalfslot minimumDelay =
          .ok (some (skips, slots)) →
        ∃ dists, scheduler.GrantCounted first (scheduler.basicGrantTimeslots t) isHalfslot numSlots
          skips slots dists) ↔
      scheduler.MiscountsEqual first (scheduler.basicGrantTimeslots t) isHalfslot numSlots
        minimumDelay) ∧
    ((∀ skips slots, scheduler.ulFindGrantOpportunityFrom first t numSlots isHalfslot minimumDelay =
          .ok (some (skips, slots)) →
        ∀ slot ∈ slots, scheduler.AssociatedRoom isHalfslot slot) ↔
      scheduler.RunUnreserved first (scheduler.basicGrantTimeslots t) isHalfslot numSlots
        minimumDelay) := by
  constructor
  · rw [forall_found_iff]
    · constructor
      · intro holds single positive before found
        obtain ⟨dists, counts⟩ := holds single positive before found
        obtain ⟨start, isStart, equal⟩ := counts_before_run positive found
        have run := counts.dists_eq fun dist member =>
          (mem_channelSlots.mp ((takeRun_sublist before.length).subset member)).1
        have delay := counts.delay start (by rw [run]; exact isStart)
        rw [← delay] at equal
        exact add_left_cancel equal
      · intro equal single positive before found
        exact ⟨_, grantCounted_run positive found (equal single positive before found)⟩
    · intro none skips
      refine ⟨[], rfl, nofun, .nil, none.symm, nofun, nofun, nofun⟩
  · rw [forall_found_iff]
    · unfold RunUnreserved
      simp only [List.forall_mem_map]
    · intro none skips slot member
      cases member

end Counting

/-- A scheduler with one reservation, in the first frame of timeslot 2. -/
def oneReserved : BsChannelScheduler where
  curDltime := ⟨1, 17, 1, 0⟩
  ulsched := Function.update (fun _ => EMPTY_SCHED_ELEM) (1, 0) ⟨some 7, some 7⟩
  associatedUlsched := []
  granted := [⟨7, ⟨2, 1, 2, 0⟩, .both⟩]
  ulCircuits := fun _ => false
  hangtime := fun _ => false
  packetBearers := fun _ => none
  packetBearerGenerations := fun _ => none
  pendingPacketDataGrants := []
  packetDataGrantWindows := fun _ => none
  drainingPacketBearers := []
  packetGrantRoundRobinAfter := none

/-- The opportunity of frame 18 is in the run that ends at the reservation: three are to be waited for,
and two are told. -/
theorem opportunity_not_recounted :
    oneReserved.ulFindGrantOpportunityFrom ⟨2, 17, 1, 0⟩ 2 3 false 0 =
      .ok (some (2, [⟨2, 2, 2, 0⟩, ⟨2, 3, 2, 0⟩, ⟨2, 4, 2, 0⟩])) ∧
    ¬ ∃ dists, oneReserved.GrantCounted ⟨2, 17, 1, 0⟩ (oneReserved.basicGrantTimeslots 2) false 3 2
      [⟨2, 2, 2, 0⟩, ⟨2, 3, 2, 0⟩, ⟨2, 4, 2, 0⟩] dists := by
  refine ⟨by decide +kernel, ?_⟩
  rintro ⟨dists, counts⟩
  have run : dists = [12, 16, 20] := GrantCounted.dists_eq counts (by decide)
  have delay := counts.delay 12 (by rw [run]; rfl)
  revert delay
  decide +kernel

end BsChannelScheduler

end Bluestation
