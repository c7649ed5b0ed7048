/-
**Queues of which something can be sent.**

A link waits for an acknowledgement only while one of its messages asks for it, and the timer runs
for that message alone. So it can go on as long as a message asks, or one in the window is not in
flight.

* `Sequenced.nearOldest` — messages in flight are in the window.
* `leavesWork_iff` — what an acknowledgement has to say so that the queue it leaves is lively.
-/

import Bluestation.Llc.AdvancedRuns

namespace Bluestation

open Bits Machines List Option Nat AdvancedLink AdvancedTxSdu

variable {bound first next nextTxNs position index limit : Nat} {indices : List Nat}
  {tx tx' : List AdvancedTxSdu} {sdu new : AdvancedTxSdu} {queue : List AlPdu} {now : TdmaTime}

/-! ### Near the oldest message -/

theorem lt_generationEnd_iff {sendBase : Nat} :
    position < generationEnd tx sendBase ↔ position < tx.length ∧
      ∀ place, 1 ≤ place → place ≤ position → ∀ other, tx[place]? = some other →
        other.ns ≠ sendBase := by
  constructor
  · intro before
    refine ⟨?_, fun place after near other found =>
      ns_ne_of_lt_generationEnd after (near.trans_lt before) found⟩
    unfold generationEnd at before
    cases again : (tx.drop 1).findIdx? (·.ns = sendBase) with
    | none =>
      rw [again] at before
      exact before
    | some place =>
      obtain ⟨small, -⟩ := findIdx?_eq_some_iff_getElem.mp again
      rw [again, map_some, getD_some] at before
      rw [length_drop] at small
      omega
  · rintro ⟨small, differs⟩
    unfold generationEnd
    cases again : (tx.drop 1).findIdx? (·.ns = sendBase) with
    | none => exact small
    | some place =>
      obtain ⟨short, same, -⟩ := findIdx?_eq_some_iff_getElem.mp again
      simp only [map_some, getD_some]
      by_contra beyond
      rw [getElem_drop] at same
      refine differs (1 + place) (le_add_right 1 place) (by omega) _ ?_ (of_decide_eq_true same)
      exact getElem?_eq_getElem _

theorem generationEnd_congr (numbers : tx.map (·.ns) = tx'.map (·.ns)) (sendBase : Nat) :
    generationEnd tx sendBase = generationEnd tx' sendBase := by
  have seen (tx : List AdvancedTxSdu) : generationEnd tx sendBase =
      ((((tx.map (·.ns)).drop 1).findIdx? (· = sendBase)).map (· + 1)).getD
        (tx.map (·.ns)).length := by
    rw [← map_drop, findIdx?_map, length_map]
    rfl
  rw [seen, seen, numbers]

namespace NearOldest

section

variable (near : NearOldest bound tx position sdu)

include near

theorem mono {more : Nat} (wider : bound ≤ more) : NearOldest more tx position sdu := by
  obtain ⟨oldest, front, generation, distance⟩ := near
  exact ⟨oldest, front, generation, distance.trans_le wider⟩

theorem congr (numbers : tx.map (·.ns) = tx'.map (·.ns)) (number : new.ns = sdu.ns) :
    NearOldest bound tx' position new := by
  obtain ⟨oldest, front, generation, distance⟩ := near
  have base : (tx'.map (·.ns)).head? = some oldest.ns := by
    rw [← numbers, head?_map, front]
    rfl
  rw [head?_map] at base
  obtain ⟨oldest', front', same⟩ := map_eq_some_iff.mp base
  refine ⟨oldest', front', ?_, ?_⟩
  · rw [same, ← generationEnd_congr numbers]
    exact generation
  · rw [number, same]
    exact distance

/-- A new message does not move the others away. -/
theorem push (last : AdvancedTxSdu) : NearOldest bound (tx ++ [last]) position sdu := by
  obtain ⟨oldest, front, generation, distance⟩ := near
  obtain ⟨small, differs⟩ := lt_generationEnd_iff.mp generation
  refine ⟨oldest, ?_, lt_generationEnd_iff.mpr ⟨?_, fun place after before other found => ?_⟩,
    distance⟩
  · rw [head?_append, front]
    rfl
  · rw [length_append]
    exact Nat.lt_add_right _ small
  · rw [getElem?_append_left (before.trans_lt small)] at found
    exact differs place after before other found

end

/-- The oldest message is near itself. -/
theorem oldest (front : tx.head? = some sdu) (positive : 1 ≤ bound) : NearOldest bound tx 0 sdu := by
  refine ⟨sdu, front, lt_generationEnd_iff.mpr ⟨?_, fun place after before => ?_⟩, ?_⟩
  · cases tx with
    | nil => cases front
    | cons => exact zero_lt_succ _
  · exact absurd (after.trans before) (by decide)
  · rw [sequenceDistance]
    omega

end NearOldest

/-- **Near by the number behind the remainder is near.** -/
theorem Numbered.nearOldest (numbered : Numbered bound first next indices tx) {reach : Nat}
    (short : reach ≤ 8) (foundIndex : indices[position]? = some index)
    (found : tx[position]? = some sdu) (near : index < first + reach) :
    NearOldest reach tx position sdu := by
  obtain ⟨small, -⟩ := List.getElem?_eq_some_iff.mp found
  obtain ⟨oldest, front⟩ : ∃ oldest, tx[0]? = some oldest :=
    ⟨_, List.getElem?_eq_getElem (zero_lt_of_lt small)⟩
  obtain ⟨start, foundStart⟩ := numbered.exists_index front
  have is : start = first := numbered.numbering.starts start (by
    rw [List.head?_eq_getElem?, foundStart]
    rfl)
  have base := (numbered.each 0 start oldest foundStart front).1
  have number := (numbered.each position index sdu foundIndex found).1
  have low := numbered.numbering.lower index (List.mem_of_getElem? foundIndex)
  refine ⟨oldest, ?_, lt_generationEnd_iff.mpr ⟨small, fun place after before other there => ?_⟩, ?_⟩
  · rw [List.head?_eq_getElem?]
    exact front
  · obtain ⟨between, foundOther⟩ := numbered.exists_index there
    have ordered : between ≤ index := by
      rcases eq_or_lt_of_le before with same | earlier
      · rw [same, foundIndex, Option.some_inj] at foundOther
        exact foundOther.ge
      · obtain ⟨inside, atPlace⟩ := List.getElem?_eq_some_iff.mp foundOther
        obtain ⟨inside', atPosition⟩ := List.getElem?_eq_some_iff.mp foundIndex
        have increasing := List.pairwise_iff_getElem.mp numbered.numbering.increasing place position
          inside inside' earlier
        rw [atPlace, atPosition] at increasing
        exact increasing.le
    rw [(numbered.each place between other foundOther there).1, base]
    exact (numbered.numbering.remainder_ne after foundStart foundOther (by omega)).symm
  · rw [number, base, is, sequenceDistance_near low (by omega)]
    omega

theorem Sequenced.nearOldest (sequenced : Sequenced bound nextTxNs tx) (narrow : bound ≤ 3)
    (found : tx[position]? = some sdu) (flying : sdu.inFlight) :
    NearOldest bound tx position sdu := by
  obtain ⟨first, next, indices, numbered, -⟩ := sequenced
  obtain ⟨index, foundIndex⟩ := numbered.exists_index found
  exact numbered.nearOldest (narrow.trans (by norm_num)) foundIndex found
    ((numbered.each position index sdu foundIndex found).2 flying)

/-! ### What an acknowledgement leaves -/

def blockOf (blocks : List AlAckBlock) (ns : Nat) : Option AlAckBlock := blocks.find? (·.nr = ns)

namespace AdvancedTxSdu

def taken (blocks : List AlAckBlock) (sdu : AdvancedTxSdu) : Bool :=
  sdu.inFlight && (blockOf blocks sdu.ns).any (·.acknowledgementLength = 0)

/-- The block that asks for the message again, if it is not taken off. -/
def again? (blocks : List AlAckBlock) (sdu : AdvancedTxSdu) : Option AlAckBlock :=
  if sdu.inFlight then blockOf blocks sdu.ns else none

def afterBlocks (limit : Nat) (blocks : List AlAckBlock) (sdu : AdvancedTxSdu) : AdvancedTxSdu :=
  ((sdu.again? blocks).map (sdu.askedAgain · limit)).getD sdu

end AdvancedTxSdu

theorem eraseIdx_eq_filter {α : Type} {entries : List α} (removes : α → Bool)
    (inside : position < entries.length)
    (only : ∀ place entry, entries[place]? = some entry → (removes entry ↔ place = position)) :
    entries.eraseIdx position = entries.filter fun entry => !removes entry := by
  induction entries generalizing position with
  | nil => exact absurd inside (not_lt_zero position)
  | cons entry rest ih =>
    have first := only 0 entry rfl
    cases position with
    | zero =>
      have others : ∀ other ∈ rest, (!removes other) = true := by
        intro other member
        obtain ⟨place, found⟩ := mem_iff_getElem?.mp member
        have := only (place + 1) other found
        simpa using this
      rw [filter_cons, first.mpr rfl, filter_eq_self.mpr others]
      rfl
    | succ position =>
      have keeps : removes entry = false := by simpa using first
      rw [eraseIdx_cons_succ, filter_cons, keeps,
        ih (lt_of_succ_lt_succ inside) fun place other found => ?_]
      · rfl
      · simpa using only (place + 1) other found

theorem set_eq_map {α : Type} {entries : List α} {change : α → α} {fresh : α}
    (here : ∀ entry, entries[position]? = some entry → change entry = fresh)
    (elsewhere : ∀ place entry, place ≠ position → entries[place]? = some entry →
      change entry = entry) :
    entries.set position fresh = entries.map change := by
  refine ext_getElem? fun place => ?_
  rw [getElem?_set, getElem?_map]
  by_cases same : position = place
  · subst same
    rw [if_pos rfl]
    by_cases inside : position < entries.length
    · have found := getElem?_eq_getElem inside
      rw [if_pos inside, found, map_some, here _ found]
    · rw [if_neg inside, getElem?_eq_none (Nat.le_of_not_lt inside)]
      rfl
  · rw [if_neg same]
    cases found : entries[place]? with
    | none => rfl
    | some entry => rw [map_some, elsewhere place entry (.symm same) found]

variable {link : AdvancedLink} {block : AlAckBlock} {blocks : List AlAckBlock}

theorem inFlight_wasSent (flying : sdu.inFlight) : sdu.wasSent :=
  Bool.or_eq_true_iff.mpr (.inl flying)

/-- A message in flight is the first with its number. -/
theorem Sequenced.only (sequenced : Sequenced bound nextTxNs tx) (narrow : bound ≤ 3)
    {number place : Nat} (first : tx.findIdx? (·.ns = number) = some position)
    (found : tx[place]? = some sdu) (flying : sdu.inFlight) (same : sdu.ns = number) :
    place = position := by
  obtain ⟨small, here, earlier⟩ := List.findIdx?_eq_some_iff_getElem.mp first
  rcases lt_trichotomy place position with before | it | after
  · have differs := earlier place before
    rw [(List.getElem?_eq_some_iff.mp found).2] at differs
    exact absurd (decide_eq_true same) differs
  · exact it
  · have differs := (sequenced.window narrow found flying).2 position _ after
      (getElem?_eq_getElem small)
    exact absurd ((of_decide_eq_true here).trans same.symm) differs

/-- **One block takes off or asks again for the message in flight with its number.** -/
theorem handleBlock_eq (link : AdvancedLink) (block : AlAckBlock) (narrow : bound ≤ 3)
    (sound : QueueSound bound queue nextTxNs tx) :
    (link.handleBlock block tx).tx = (tx.filter fun sdu => !sdu.taken [block]).map
        (·.afterBlocks link.maxSegmentRetransmissions [block]) := by
  have other {sdu : AdvancedTxSdu} (idle : ¬ (sdu.inFlight ∧ sdu.ns = block.nr)) :
      sdu.taken [block] = false ∧ sdu.afterBlocks link.maxSegmentRetransmissions [block] = sdu := by
    unfold taken afterBlocks again? blockOf
    by_cases flying : sdu.inFlight
    · have differs : ¬ block.nr = sdu.ns := fun same => idle ⟨flying, same.symm⟩
      simp [differs]
    · simp [flying]
  have unchanged (kept : List AdvancedTxSdu)
      (idle : ∀ sdu ∈ kept, ¬ (sdu.inFlight ∧ sdu.ns = block.nr)) :
      kept.map (·.afterBlocks link.maxSegmentRetransmissions [block]) = kept :=
    (map_congr_left fun sdu member => (other (idle sdu member)).2).trans (map_id _)
  have nothing (idle : ∀ sdu ∈ tx, ¬ (sdu.inFlight ∧ sdu.ns = block.nr)) :
      tx = (tx.filter fun sdu => !sdu.taken [block]).map
        (·.afterBlocks link.maxSegmentRetransmissions [block]) := by
    rw [filter_eq_self.mpr fun sdu member => by rw [(other (idle sdu member)).1]; rfl,
      unchanged tx idle]
  unfold handleBlock
  split
  next missing =>
    refine nothing fun sdu member here => ?_
    exact of_decide_eq_false (findIdx?_eq_none_iff.mp missing sdu member) here.2
  next position first =>
    obtain ⟨small, number, -⟩ := findIdx?_eq_some_iff_getElem.mp first
    have only : ∀ (place : Nat) (entry : AdvancedTxSdu), tx[place]? = some entry →
        entry.inFlight → entry.ns = block.nr → place = position := fun place entry there =>
      sound.sequenced.only narrow first there
    rw [getElem?_eq_getElem small]
    have found := getElem?_eq_getElem small
    generalize tx[position] = sdu at found number
    replace number := of_decide_eq_true number
    dsimp only
    split
    next unsent =>
      refine nothing fun entry member here => ?_
      obtain ⟨place, there⟩ := mem_iff_getElem?.mp member
      rw [only place entry there here.1 here.2, found, some_inj] at there
      rw [there, inFlight_wasSent here.1] at unsent
      exact absurd unsent (by decide)
    next sent =>
      have flying : sdu.inFlight :=
        (sound.consistent sdu (mem_of_getElem? found)).inFlight (by simpa using sent)
      have asks : blockOf [block] sdu.ns = some block := by
        simp [blockOf, number]
      split
      next positive =>
        have taken : sdu.taken [block] := by
          simp [taken, flying, asks, positive]
        have removed := eraseIdx_eq_filter (fun sdu => sdu.taken [block]) small
          fun place entry there => by
            constructor
            · intro gone
              by_contra elsewhere
              rw [(other fun here => elsewhere (only place entry there here.1 here.2)).1] at gone
              cases gone
            · rintro rfl
              rw [found, some_inj] at there
              exact there ▸ taken
        rw [removed, unchanged _ fun entry member here => ?_]
        obtain ⟨old, kept⟩ := mem_filter.mp member
        obtain ⟨place, there⟩ := mem_iff_getElem?.mp old
        rw [only place entry there here.1 here.2, found, some_inj] at there
        rw [← there, taken] at kept
        cases kept
      next negative =>
        have stays : ∀ entry ∈ tx, (!entry.taken [block]) = true := by
          intro entry _
          by_cases here : entry.inFlight ∧ entry.ns = block.nr
          · simp [taken, blockOf, here.2, negative]
          · rw [(other here).1]
            rfl
        rw [filter_eq_self.mpr stays]
        refine set_eq_map (fun entry there => ?_) fun place entry elsewhere there => ?_
        · rw [found, some_inj] at there
          subst there
          rw [afterBlocks, again?, if_pos flying, asks]
          rfl
        · exact (other fun here => elsewhere (only place entry there here.1 here.2)).2

theorem askedAgain_idle (sdu : AdvancedTxSdu) (block : AlAckBlock) (limit : Nat) :
    (sdu.askedAgain block limit).inFlight = false := rfl

theorem afterBlocks_cons (limit : Nat) (block : AlAckBlock) (blocks : List AlAckBlock)
    (sdu : AdvancedTxSdu) :
    (sdu.taken (block :: blocks) =
        (sdu.taken [block] || (sdu.afterBlocks limit [block]).taken blocks)) ∧
      (sdu.taken [block] = false → sdu.afterBlocks limit (block :: blocks) =
        (sdu.afterBlocks limit [block]).afterBlocks limit blocks) := by
  unfold taken afterBlocks again? blockOf
  by_cases flying : sdu.inFlight
  · by_cases same : block.nr = sdu.ns
    · by_cases positive : block.acknowledgementLength = 0
      · simp [flying, same, positive, askedAgain_idle]
      · simp [flying, same, positive, askedAgain_idle]
    · simp [flying, same]
  · simp [flying]

/-- **The blocks of an acknowledgement take messages off and ask for others again.** -/
theorem handleBlocks_eq (link : AdvancedLink) (blocks : List AlAckBlock) (narrow : bound ≤ 3)
    (sound : QueueSound bound queue nextTxNs tx)
    (heard : (link.handleBlocks blocks tx).failedNs = none) :
    (link.handleBlocks blocks tx).tx = (tx.filter fun sdu => !sdu.taken blocks).map
      (·.afterBlocks link.maxSegmentRetransmissions blocks) := by
  induction blocks generalizing tx with
  | nil =>
    have stays : ∀ sdu ∈ tx, (!sdu.taken []) = true := by
      simp [taken, blockOf]
    have same : ∀ sdu : AdvancedTxSdu, sdu.afterBlocks link.maxSegmentRetransmissions [] = sdu := by
      simp [afterBlocks, again?, blockOf]
    rw [List.filter_eq_self.mpr stays, List.map_congr_left fun sdu _ => same sdu, List.map_id']
    rfl
  | cons block rest ih =>
    have first := handleBlock_eq link block narrow sound
    have later := ih (sound.handleBlock link block narrow).1
    unfold handleBlocks at heard ⊢
    dsimp only at heard ⊢
    split
    · rename_i failed
      rw [if_pos failed] at heard
      rw [heard] at failed
      cases failed
    · rename_i going
      rw [if_neg going] at heard
      rw [later heard, first, List.filter_map, List.map_map, List.filter_filter]
      have tests : ∀ sdu ∈ tx, (((fun sdu : AdvancedTxSdu => !sdu.taken rest) ∘
          (·.afterBlocks link.maxSegmentRetransmissions [block])) sdu && !sdu.taken [block]) =
            !sdu.taken (block :: rest) := by
        intro sdu _
        rw [(afterBlocks_cons link.maxSegmentRetransmissions block rest sdu).1, Bool.not_or,
          Bool.and_comm]
        rfl
      rw [filter_congr tests]
      refine map_congr_left fun sdu member => ?_
      have kept := (mem_filter.mp member).2
      obtain ⟨takes, composes⟩ := afterBlocks_cons link.maxSegmentRetransmissions block rest sdu
      rw [takes, Bool.not_or, Bool.and_eq_true_iff] at kept
      exact (composes (by simpa using kept.1)).symm

/-- The receive window of the other side has passed the message. -/
def AdvancedLink.passed (link : AdvancedLink) (blocks : List AlAckBlock) (sdu : AdvancedTxSdu) :
    Bool :=
  blocks.head?.any fun base => link.completeWindowReport blocks && sdu.wasSent &&
    decide (1 ≤ sequenceDistance base.nr sdu.ns ∧
      sequenceDistance base.nr sdu.ns ≤ link.windowSize)

def AdvancedLink.unacknowledged (link : AdvancedLink) (blocks : List AlAckBlock) :
    List AdvancedTxSdu :=
  (link.tx.dropWhile (link.passed blocks)).filter fun sdu => !sdu.taken blocks

theorem retirePassed_eq (windowSize receiverBase : Nat) (tx : List AdvancedTxSdu) :
    (AdvancedLink.retirePassed windowSize receiverBase tx).2 = tx.dropWhile fun sdu =>
      sdu.wasSent && decide (1 ≤ sequenceDistance receiverBase sdu.ns ∧
        sequenceDistance receiverBase sdu.ns ≤ windowSize) := by
  induction tx with
  | nil => rfl
  | cons front rest ih =>
    unfold AdvancedLink.retirePassed
    dsimp only
    split
    next ends =>
      rw [dropWhile_cons_of_neg]
      rw [Bool.and_eq_true_iff, decide_eq_true_iff]
      rintro ⟨sent, ahead, near⟩
      rcases ends with same | zero | far | unsent
      · rw [sequenceDistance] at ahead
        omega
      · omega
      · omega
      · rw [sent] at unsent
        cases unsent
    · rename_i passed
      simp only [not_or, Bool.not_eq_true', Bool.not_eq_false] at passed
      rw [dropWhile_cons_of_pos, ih]
      rw [Bool.and_eq_true_iff, decide_eq_true_iff]
      exact ⟨passed.2.2.2, Nat.pos_of_ne_zero passed.2.1, Nat.le_of_not_lt passed.2.2.1⟩

theorem retireReported_eq (link : AdvancedLink) (blocks : List AlAckBlock) :
    (link.retireReported blocks).2 = link.tx.dropWhile (link.passed blocks) := by
  have none_passed (never : ∀ sdu, link.passed blocks sdu = false) :
      link.tx.dropWhile (link.passed blocks) = link.tx := by
    cases link.tx with
    | nil => rfl
    | cons front rest => rw [dropWhile_cons_of_neg (by rw [never]; decide)]
  unfold retireReported
  split
  next base head =>
    split
    next complete =>
      rw [retirePassed_eq]
      congr 1
      funext sdu
      simp [passed, head, complete]
    next partly =>
      refine (none_passed fun sdu => ?_).symm
      simp [passed, head, partly]
  next head =>
    refine (none_passed fun sdu => ?_).symm
    simp [passed, head]

/-! ### Lively queues -/

/-- A message asks for an acknowledgement, or one near the oldest is not in flight. -/
def Lively (windowSize : Nat) (tx : List AdvancedTxSdu) : Prop :=
  tx = [] ∨ (∃ sdu ∈ tx, sdu.acknowledgementRequested) ∨
    ∃ position sdu, tx[position]? = some sdu ∧ ¬ sdu.inFlight ∧
      NearOldest windowSize tx position sdu

/-- What goes on is the same message, it is not newly in flight, and if it asked it still does or its
attempt is over. -/
structure Follows (old new : AdvancedTxSdu) : Prop where
  ns : new.ns = old.ns
  flying : new.inFlight → old.inFlight
  asks : old.acknowledgementRequested → new.acknowledgementRequested ∨ ¬ new.inFlight

theorem Follows.refl (sdu : AdvancedTxSdu) : Follows sdu sdu := ⟨rfl, id, .inl⟩

theorem Follows.trans {old middle new : AdvancedTxSdu} (first : Follows old middle)
    (second : Follows middle new) : Follows old new := by
  refine ⟨second.ns.trans first.ns, fun flies => first.flying (second.flying flies), fun asked => ?_⟩
  rcases first.asks asked with still | ended
  · exact second.asks still
  · exact .inr fun flies => ended (second.flying flies)

theorem Follows.idle (ns : new.ns = sdu.ns) (ended : new.inFlight = false) : Follows sdu new :=
  ⟨ns, fun flies => absurd (ended ▸ flies) (by decide), fun _ => .inr (by rw [ended]; decide)⟩

namespace Lively

variable {windowSize : Nat}

theorem mono {more : Nat} (lively : Lively windowSize tx) (wider : windowSize ≤ more) :
    Lively more tx := by
  rcases lively with empty | asks | ⟨position, sdu, found, idle, near⟩
  · exact .inl empty
  · exact .inr (.inl asks)
  · exact .inr (.inr ⟨position, sdu, found, idle, near.mono wider⟩)

theorem of_idle (positive : 1 ≤ windowSize) (idle : ∀ sdu ∈ tx, ¬ sdu.inFlight) :
    Lively windowSize tx := by
  cases tx with
  | nil => exact .inl rfl
  | cons front rest =>
    exact .inr (.inr ⟨0, front, rfl, idle front mem_cons_self, .oldest rfl positive⟩)

/-- A new message is queued. -/
theorem push (lively : Lively windowSize tx) (positive : 1 ≤ windowSize) (idle : ¬ sdu.inFlight) :
    Lively windowSize (tx ++ [sdu]) := by
  rcases lively with rfl | ⟨asking, member, asks⟩ | ⟨position, other, found, waits, near⟩
  · refine of_idle positive fun other member => ?_
    rw [mem_singleton.mp member]
    exact idle
  · exact .inr (.inl ⟨asking, List.mem_append_left _ member, asks⟩)
  · obtain ⟨small, -⟩ := List.getElem?_eq_some_iff.mp found
    refine .inr (.inr ⟨position, other, ?_, waits, near.push sdu⟩)
    rw [getElem?_append_left small]
    exact found

/-- Messages change in place. -/
theorem change (lively : Lively windowSize tx) (length : tx'.length = tx.length)
    (near : ∀ (position : Nat) (sdu : AdvancedTxSdu), tx[position]? = some sdu →
      sdu.acknowledgementRequested → NearOldest windowSize tx position sdu)
    (follows : ∀ (position : Nat) (old new : AdvancedTxSdu), tx[position]? = some old →
      tx'[position]? = some new → Follows old new) : Lively windowSize tx' := by
  have numbers : tx.map (·.ns) = tx'.map (·.ns) := by
    refine ext_getElem (by rw [length_map, length_map, length]) ?_
    intro position small small'
    rw [length_map] at small small'
    rw [getElem_map, getElem_map]
    exact (follows position _ _ (getElem?_eq_getElem small)
      (List.getElem?_eq_getElem small')).ns.symm
  have later {position : Nat} {old : AdvancedTxSdu} (found : tx[position]? = some old) :
      ∃ new, tx'[position]? = some new ∧ Follows old new := by
    obtain ⟨small, -⟩ := List.getElem?_eq_some_iff.mp found
    have found' := getElem?_eq_getElem (length ▸ small)
    exact ⟨_, found', follows position old _ found found'⟩
  rcases lively with rfl | ⟨asking, member, asks⟩ | ⟨position, sdu, found, idle, close⟩
  · exact .inl (eq_nil_of_length_eq_zero length)
  · obtain ⟨position, found⟩ := mem_iff_getElem?.mp member
    obtain ⟨new, found', follow⟩ := later found
    rcases follow.asks asks with still | ended
    · exact .inr (.inl ⟨new, mem_of_getElem? found', still⟩)
    · exact .inr (.inr ⟨position, new, found', ended,
        (near position asking found asks).congr numbers follow.ns⟩)
  · obtain ⟨new, found', follow⟩ := later found
    exact .inr (.inr ⟨position, new, found', fun flies => idle (follow.flying flies),
      close.congr numbers follow.ns⟩)

end Lively

/-- The blocks leave nothing, or a message that asks and that they do not speak of, or near the
oldest message they leave one that is not in flight or that they ask for again. -/
def AdvancedLink.LeavesWork (link : AdvancedLink) (blocks : List AlAckBlock) : Prop :=
  link.unacknowledged blocks = [] ∨
    (∃ sdu ∈ link.unacknowledged blocks,
      sdu.acknowledgementRequested ∧ sdu.again? blocks = none) ∨
    ∃ position sdu, (link.unacknowledged blocks)[position]? = some sdu ∧
      (¬ sdu.inFlight ∨ (sdu.again? blocks).isSome) ∧
      NearOldest link.windowSize (link.unacknowledged blocks) position sdu

theorem afterBlocks_ns (limit : Nat) (blocks : List AlAckBlock) (sdu : AdvancedTxSdu) :
    (sdu.afterBlocks limit blocks).ns = sdu.ns := by
  unfold afterBlocks
  cases sdu.again? blocks with
  | none => rfl
  | some block => exact (recover_same { sdu with ackRequestRepetitions := 0 } block limit).1.ns

/-- **An acknowledgement leaves a lively queue exactly when it leaves work.** -/
theorem AdvancedLink.leavesWork_iff (narrow : bound ≤ 3)
    (sound : QueueSound bound queue link.nextTxNs link.tx)
    (heard : (link.handleBlocks blocks (link.retireReported blocks).2).failedNs = none) :
    Lively link.windowSize (link.handleBlocks blocks (link.retireReported blocks).2).tx ↔
      link.LeavesWork blocks := by
  obtain ⟨kept, -⟩ := sound.retireReported blocks narrow
  rw [handleBlocks_eq link blocks narrow kept heard, retireReported_eq]
  change Lively _ ((link.unacknowledged blocks).map _) ↔ _
  unfold AdvancedLink.LeavesWork
  generalize link.unacknowledged blocks = left
  have numbers : left.map (·.ns) =
      (left.map (·.afterBlocks link.maxSegmentRetransmissions blocks)).map (·.ns) := by
    rw [List.map_map]
    exact map_congr_left fun sdu _ => (afterBlocks_ns _ blocks sdu).symm
  constructor
  · rintro (empty | ⟨new, member, asks⟩ | ⟨position, new, found, idle, near⟩)
    · exact .inl (map_eq_nil_iff.mp empty)
    · obtain ⟨sdu, old, rfl⟩ := mem_map.mp member
      unfold afterBlocks at asks
      cases again : sdu.again? blocks with
      | none =>
        rw [again] at asks
        exact .inr (.inl ⟨sdu, old, asks, again⟩)
      | some block =>
        rw [again] at asks
        cases asks
    · rw [getElem?_map] at found
      obtain ⟨sdu, there, rfl⟩ := map_eq_some_iff.mp found
      refine .inr (.inr ⟨position, sdu, there, ?_, near.congr numbers.symm ?_⟩)
      · unfold afterBlocks at idle
        cases again : sdu.again? blocks with
        | none =>
          rw [again] at idle
          exact .inl idle
        | some block => exact .inr rfl
      · exact (afterBlocks_ns _ blocks sdu).symm
  · rintro (rfl | ⟨sdu, member, asks, silent⟩ | ⟨position, sdu, found, work, near⟩)
    · exact .inl rfl
    · refine .inr (.inl ⟨_, mem_map_of_mem member, ?_⟩)
      rw [afterBlocks, silent]
      exact asks
    · refine .inr (.inr ⟨position, sdu.afterBlocks link.maxSegmentRetransmissions blocks, ?_, ?_,
        near.congr numbers (afterBlocks_ns _ blocks sdu)⟩)
      · rw [getElem?_map, found]
        rfl
      · unfold afterBlocks
        rcases work with idle | again
        · rw [again?, if_neg idle]
          exact idle
        · obtain ⟨block, is⟩ := isSome_iff_exists.mp again
          rw [is, map_some, getD_some, askedAgain_idle]
          decide

end Bluestation
