/-
**The window of a sending link.**

Messages take the numbers modulo eight as they are queued, so a queue longer than eight holds a
number more than once. Messages in flight are near the oldest one:

* `Sequenced` — the queue is numbered, and the messages in flight are within a bound of the oldest.
* `Consistent` — what a message in flight says of what was handed to the MAC.
* `QueueSound` — both, and at most one request for an acknowledgement.
-/

import Bluestation.Lib.Numbering
import Bluestation.Llc.AdvancedSender

namespace Bluestation

open List Option AdvancedLink AdvancedTxSdu

variable {bound first next nextTxNs position index : Nat} {indices : List Nat}
  {tx tx' : List AdvancedTxSdu} {sdu : AdvancedTxSdu} {queue : List AlPdu}

/-! ### Numbers of queued messages -/

/-- The numbers behind the remainders a queue shows; those in flight are near the oldest. -/
structure Numbered (bound first next : Nat) (indices : List Nat) (tx : List AdvancedTxSdu) :
    Prop where
  numbering : Numbering 3 first next indices
  length : indices.length = tx.length
  each : ∀ (position index : Nat) (sdu : AdvancedTxSdu), indices[position]? = some index →
    tx[position]? = some sdu → sdu.ns = index % 8 ∧ (sdu.inFlight → index < first + bound)

def Sequenced (bound nextTxNs : Nat) (tx : List AdvancedTxSdu) : Prop :=
  ∃ first next indices, Numbered bound first next indices tx ∧ nextTxNs = next % 8

/-- The number stays, nothing new is in flight, and no acknowledgement is newly asked for. -/
structure Continues (old new : AdvancedTxSdu) : Prop where
  ns : new.ns = old.ns
  flying : new.inFlight → old.inFlight
  asks : new.acknowledgementRequested → old.acknowledgementRequested

theorem Continues.refl (sdu : AdvancedTxSdu) : Continues sdu sdu := ⟨rfl, id, id⟩

theorem Numbered.exists_index (numbered : Numbered bound first next indices tx)
    (found : tx[position]? = some sdu) : ∃ index, indices[position]? = some index := by
  obtain ⟨small, -⟩ := List.getElem?_eq_some_iff.mp found
  rw [← numbered.length] at small
  exact ⟨indices[position], List.getElem?_eq_getElem small⟩

theorem Sequenced.empty (bound next : Nat) : Sequenced bound (next % 8) [] :=
  ⟨next, next, [], ⟨.empty 3 next, rfl, nofun⟩, rfl⟩

section

variable (sequenced : Sequenced bound nextTxNs tx)

include sequenced

theorem Sequenced.mono {more : Nat} (wider : bound ≤ more) : Sequenced more nextTxNs tx := by
  obtain ⟨first, next, indices, numbered, is⟩ := sequenced
  refine ⟨first, next, indices, ⟨numbered.numbering, numbered.length, ?_⟩, is⟩
  intro position index sdu found here
  obtain ⟨number, near⟩ := numbered.each position index sdu found here
  exact ⟨number, fun flying => (near flying).trans_le (Nat.add_le_add_left wider first)⟩

theorem Sequenced.idle {other : Nat} (idle : ∀ sdu ∈ tx, ¬ sdu.inFlight) :
    Sequenced other nextTxNs tx := by
  obtain ⟨first, next, indices, numbered, is⟩ := sequenced
  refine ⟨first, next, indices, ⟨numbered.numbering, numbered.length, ?_⟩, is⟩
  intro position index sdu found here
  exact ⟨(numbered.each position index sdu found here).1,
    fun flying => absurd flying (idle sdu (mem_of_getElem? here))⟩

theorem Sequenced.continues (pointwise : List.Forall₂ Continues tx tx') :
    Sequenced bound nextTxNs tx' := by
  obtain ⟨first, next, indices, numbered, is⟩ := sequenced
  have length := pointwise.length_eq
  refine ⟨first, next, indices, ⟨numbered.numbering, numbered.length.trans length, ?_⟩, is⟩
  intro position index new found here
  obtain ⟨small, here⟩ := List.getElem?_eq_some_iff.mp here
  obtain ⟨number, flew, -⟩ := pointwise.get (length ▸ small) small
  rw [List.get_eq_getElem, here] at number flew
  obtain ⟨was, near⟩ := numbered.each position index tx[position] found
    (List.getElem?_eq_getElem (length ▸ small))
  exact ⟨number.trans was, fun flying => near (flew flying)⟩

/-- A new message takes the next number. -/
theorem Sequenced.push (number : sdu.ns = nextTxNs) (waits : ¬ sdu.inFlight) :
    Sequenced bound ((nextTxNs + 1) % 8) (tx ++ [sdu]) := by
  obtain ⟨first, next, indices, numbered, rfl⟩ := sequenced
  obtain ⟨start, front, numbering⟩ := numbered.numbering.push
  have length : (indices ++ [next]).length = (tx ++ [sdu]).length := by
    rw [length_append, length_append, numbered.length, length_singleton, length_singleton]
  refine ⟨start, next + 1, _, ⟨numbering, length, ?_⟩, Nat.mod_add_mod next 8 1⟩
  intro position index other found here
  by_cases old : position < tx.length
  · have old' : position < indices.length := numbered.length ▸ old
    rw [getElem?_append_left old] at here
    rw [getElem?_append_left old'] at found
    obtain ⟨is, near⟩ := numbered.each position index other found here
    refine ⟨is, fun flying => ?_⟩
    rcases front with same | nothing
    · exact same ▸ near flying
    · rw [nothing] at old'
      exact absurd old' (Nat.not_lt_zero position)
  · have last : position - tx.length < 1 := by
      have := (List.getElem?_eq_some_iff.mp here).1
      rw [length_append, length_singleton] at this
      omega
    rw [getElem?_append_right (Nat.le_of_not_lt old), Nat.lt_one_iff.mp last,
      getElem?_cons_zero, some_inj] at here
    rw [getElem?_append_right (numbered.length ▸ Nat.le_of_not_lt old), numbered.length,
      Nat.lt_one_iff.mp last, getElem?_cons_zero, some_inj] at found
    subst here found
    exact ⟨number, fun flying => absurd flying waits⟩

end

theorem Numbered.eraseIdx (numbered : Numbered bound first next indices tx) (narrow : bound ≤ 3)
    (found : tx[position]? = some sdu) (flying : sdu.inFlight) :
    ∃ start, first ≤ start ∧
      Numbered bound start next (indices.eraseIdx position) (tx.eraseIdx position) := by
  obtain ⟨removed, foundIndex⟩ := numbered.exists_index found
  have near := (numbered.each position removed sdu foundIndex found).2 flying
  obtain ⟨start, onward, numbering⟩ := numbered.numbering.eraseIdx foundIndex
    (near.trans_le (Nat.add_le_add_left narrow first))
  have length : (indices.eraseIdx position).length = (tx.eraseIdx position).length := by
    rw [length_eraseIdx, length_eraseIdx, numbered.length]
  refine ⟨start, onward, numbering, length, ?_⟩
  intro place index other foundThere there
  rw [getElem?_eraseIdx] at foundThere there
  have each : other.ns = index % 8 ∧ (other.inFlight → index < first + bound) := by
    split at there
    next before =>
      rw [if_pos before] at foundThere
      exact numbered.each place index other foundThere there
    next behind =>
      rw [if_neg behind] at foundThere
      exact numbered.each (place + 1) index other foundThere there
  exact ⟨each.1, fun flies => (each.2 flies).trans_le (Nat.add_le_add_right onward bound)⟩

/-- **A message in flight leaves the queue.** -/
theorem Sequenced.eraseIdx (sequenced : Sequenced bound nextTxNs tx) (narrow : bound ≤ 3)
    (found : tx[position]? = some sdu) (flying : sdu.inFlight) :
    Sequenced bound nextTxNs (tx.eraseIdx position) := by
  obtain ⟨first, next, indices, numbered, is⟩ := sequenced
  obtain ⟨start, -, erased⟩ := numbered.eraseIdx narrow found flying
  exact ⟨start, next, _, erased, is⟩

theorem Sequenced.renumber (bound : Nat) (waits : ∀ sdu ∈ tx, ¬ sdu.inFlight) :
    Sequenced bound (tx.length % 8)
      (tx.mapIdx fun position sdu => { sdu with ns := position % 8 }) := by
  refine ⟨0, tx.length, List.range tx.length, ⟨.range 3 _, ?_, ?_⟩, rfl⟩
  · rw [List.length_range, length_mapIdx]
  · intro position index new found here
    rw [getElem?_mapIdx] at here
    obtain ⟨sdu, there, rfl⟩ := Option.map_eq_some_iff.mp here
    obtain ⟨small, rfl⟩ := List.getElem?_eq_some_iff.mp found
    rw [getElem_range]
    exact ⟨rfl, fun flying => absurd flying (waits sdu (mem_of_getElem? there))⟩

theorem forall₂_continues_refl (tx : List AdvancedTxSdu) : List.Forall₂ Continues tx tx :=
  List.forall₂_same.mpr fun sdu _ => .refl sdu

theorem forall₂_set {new : AdvancedTxSdu} (found : tx[position]? = some sdu)
    (continues : Continues sdu new) : List.Forall₂ Continues tx (tx.set position new) := by
  induction tx generalizing position with
  | nil => exact .nil
  | cons front rest ih =>
    cases position with
    | zero =>
      rw [getElem?_cons_zero, some_inj] at found
      exact .cons (found ▸ continues) (forall₂_continues_refl rest)
    | succ position => exact .cons (.refl front) (ih found)

theorem sequenceDistance_near {lower number : Nat} (above : lower ≤ number)
    (near : number < lower + 8) : sequenceDistance (number % 8) (lower % 8) = number - lower := by
  rw [sequenceDistance]
  omega

/-- **A message in flight is within the bound of the oldest, and no older one has its number.** -/
theorem Sequenced.window (sequenced : Sequenced bound nextTxNs tx) (narrow : bound ≤ 3)
    (found : tx[position]? = some sdu) (flying : sdu.inFlight) :
    (∀ oldest ∈ tx.head?, sequenceDistance sdu.ns oldest.ns < bound) ∧
      ∀ place older, place < position → tx[place]? = some older → older.ns ≠ sdu.ns := by
  obtain ⟨first, next, indices, numbered, -⟩ := sequenced
  obtain ⟨index, foundIndex⟩ := numbered.exists_index found
  obtain ⟨number, near⟩ := numbered.each position index sdu foundIndex found
  have low := numbered.numbering.lower index (mem_of_getElem? foundIndex)
  have high := near flying
  refine ⟨fun oldest front => ?_, fun place older before there => ?_⟩
  · rw [head?_eq_getElem?] at front
    obtain ⟨start, foundStart⟩ := numbered.exists_index front
    have is : start = first := numbered.numbering.starts start (by
      rw [head?_eq_getElem?, foundStart]
      rfl)
    rw [number, (numbered.each 0 start oldest foundStart front).1, is,
      sequenceDistance_near low (by omega)]
    omega
  · obtain ⟨other, foundOther⟩ := numbered.exists_index there
    rw [number, (numbered.each place other older foundOther there).1]
    exact numbered.numbering.remainder_ne before foundOther foundIndex (by omega)

/-! ### Starting attempts -/

theorem ns_ne_of_lt_generationEnd {sendBase place : Nat} (after : 1 ≤ place)
    (before : place < generationEnd tx sendBase) (found : tx[place]? = some sdu) :
    sdu.ns ≠ sendBase := by
  have shifted : (tx.drop 1)[place - 1]? = some sdu := by
    rw [getElem?_drop, Nat.add_sub_cancel' after, found]
  rw [generationEnd] at before
  intro same
  cases again : (tx.drop 1).findIdx? (·.ns = sendBase) with
  | none =>
    have := findIdx?_eq_none_iff.mp again sdu (mem_of_getElem? shifted)
    exact absurd same (of_decide_eq_false this)
  | some position =>
    rw [again, map_some, getD_some] at before
    obtain ⟨_, _, earlier⟩ := List.findIdx?_eq_some_iff_getElem.mp again
    have := earlier (place - 1) (by omega)
    rw [(List.getElem?_eq_some_iff.mp shifted).2] at this
    exact this (decide_eq_true same)

/-- In the generation of the oldest message, and ahead of it by less than a bound. -/
def NearOldest (bound : Nat) (tx : List AdvancedTxSdu) (position : Nat) (sdu : AdvancedTxSdu) :
    Prop :=
  ∃ oldest, tx.head? = some oldest ∧ position < AdvancedLink.generationEnd tx oldest.ns ∧
    sequenceDistance sdu.ns oldest.ns < bound

/-- **Near by its visible number is near.** -/
theorem Numbered.near (numbered : Numbered bound first next indices tx) {reach : Nat}
    (foundIndex : indices[position]? = some index) (found : tx[position]? = some sdu)
    (near : NearOldest reach tx position sdu) : index < first + reach := by
  obtain ⟨oldest, front, generation, distance⟩ := near
  rw [head?_eq_getElem?] at front
  obtain ⟨start, foundStart⟩ := numbered.exists_index front
  have is : start = first := numbered.numbering.starts start (by
    rw [List.head?_eq_getElem?, foundStart]
    rfl)
  have base := (numbered.each 0 start oldest foundStart front).1
  have number := (numbered.each position index sdu foundIndex found).1
  have current : index < first + 8 := by
    refine numbered.numbering.current (by norm_num) (by norm_num) foundIndex ?_
    intro place other after before foundOther
    obtain ⟨small, -⟩ := List.getElem?_eq_some_iff.mp foundOther
    rw [numbered.length] at small
    have there := getElem?_eq_getElem small
    rw [← (numbered.each place other _ foundOther there).1, ← is, ← base]
    exact ns_ne_of_lt_generationEnd after (before.trans_lt generation) there
  have low := numbered.numbering.lower index (mem_of_getElem? foundIndex)
  rw [number, base, is, sequenceDistance_near low current] at distance
  omega

theorem Sequenced.mapIdx (sequenced : Sequenced bound nextTxNs tx)
    (change : Nat → AdvancedTxSdu → AdvancedTxSdu)
    (each : ∀ position sdu, tx[position]? = some sdu → (change position sdu).ns = sdu.ns ∧
      ((change position sdu).inFlight → sdu.inFlight ∨ NearOldest bound tx position sdu)) :
    Sequenced bound nextTxNs (tx.mapIdx change) := by
  obtain ⟨first, next, indices, numbered, is⟩ := sequenced
  refine ⟨first, next, indices, ⟨numbered.numbering, ?_, ?_⟩, is⟩
  · rw [length_mapIdx, numbered.length]
  · intro position index new foundIndex found
    rw [getElem?_mapIdx] at found
    obtain ⟨sdu, there, rfl⟩ := map_eq_some_iff.mp found
    obtain ⟨number, flying⟩ := each position sdu there
    obtain ⟨was, near⟩ := numbered.each position index sdu foundIndex there
    refine ⟨number.trans was, fun flies => ?_⟩
    rcases flying flies with flew | close
    · exact near flew
    · exact numbered.near foundIndex there close

/-! ### What was handed to the MAC -/

/-- All segments were handed to the MAC under the number the message has. -/
def HandedWhole (queue : List AlPdu) (sdu : AdvancedTxSdu) : Prop :=
  ∀ part (small : part < sdu.segments.length), ∃ asks route,
    .data sdu.message ⟨decide (part + 1 = sdu.segments.length), asks, sdu.ns, part % 256⟩
      sdu.segments[part] sdu.endpointId route ∈ queue

/-- It is the same message with the same number. -/
structure SameMessage (old new : AdvancedTxSdu) : Prop where
  message : new.message = old.message
  ns : new.ns = old.ns
  segments : new.segments = old.segments
  endpointId : new.endpointId = old.endpointId

theorem SameMessage.refl (sdu : AdvancedTxSdu) : SameMessage sdu sdu := ⟨rfl, rfl, rfl, rfl⟩

theorem HandedWhole.same {new : AdvancedTxSdu} (handed : HandedWhole queue sdu)
    (same : SameMessage sdu new) : HandedWhole queue new := by
  intro part small
  obtain ⟨asks, route, member⟩ := handed part (same.segments ▸ small)
  refine ⟨asks, route, ?_⟩
  simp only [same.message, same.ns, same.segments, same.endpointId]
  exact member

theorem HandedWhole.mono {more : List AlPdu} (handed : HandedWhole queue sdu)
    (subset : queue ⊆ more) : HandedWhole more sdu := by
  intro part small
  obtain ⟨asks, route, member⟩ := handed part small
  exact ⟨asks, route, subset member⟩

/-- The receipt of a message says no more than that of its attempt; the time of an attempt goes with
it; only what was handed over whole is in flight or sent in part. -/
structure Consistent (queue : List AlPdu) (sdu : AdvancedTxSdu) : Prop where
  receipt : sdu.reporter = .pending ∨ sdu.reporter = .transmitted ∧
    (sdu.attemptReporter = some .transmitted ∨ sdu.attemptReporter = some .acknowledged)
  timed : sdu.sentAt.isSome → sdu.attemptReporter.isSome
  whole : sdu.attemptReporter.isSome ∨ sdu.pendingSegments.isSome → HandedWhole queue sdu

section

variable (consistent : Consistent queue sdu)

include consistent

theorem Consistent.mono {more : List AlPdu} (subset : queue ⊆ more) : Consistent more sdu :=
  ⟨consistent.receipt, consistent.timed, fun offered => (consistent.whole offered).mono subset⟩

theorem Consistent.attempt (flying : sdu.inFlight) : sdu.attemptReporter.isSome := by
  rcases Bool.or_eq_true_iff.mp flying with attempt | timed
  · exact attempt
  · exact consistent.timed timed

theorem Consistent.inFlight (sent : sdu.wasSent) : sdu.inFlight := by
  rcases Bool.or_eq_true_iff.mp sent with flying | reported
  · exact flying
  · have receipt := of_decide_eq_true reported
    rcases consistent.receipt with pending | ⟨-, attempt | attempt⟩
    · exact absurd pending receipt
    · simp [AdvancedTxSdu.inFlight, attempt]
    · simp [AdvancedTxSdu.inFlight, attempt]

theorem Consistent.handed (flying : sdu.inFlight) : HandedWhole queue sdu :=
  consistent.whole (.inl (consistent.attempt flying))

theorem Consistent.markLost : sdu.markLost.reporter = .lost := by
  rcases consistent.receipt with pending | ⟨transmitted, -⟩
  · simp [AdvancedTxSdu.markLost, pending, markReporterLost]
  · simp [AdvancedTxSdu.markLost, transmitted, markReporterLost]

end

theorem Consistent.fresh (message ns : Nat) (segments : List (List Bool)) (endpointId : Nat) :
    Consistent queue (.fresh message ns segments endpointId) where
  receipt := .inl rfl
  timed := nofun
  whole := by
    rintro (attempt | pending)
    · cases attempt
    · cases pending

/-! ### One message -/

section

variable {limit : Nat} {new : AdvancedTxSdu}

theorem Consistent.idle (handed : HandedWhole queue new) (receipt : new.reporter = .pending)
    (sentAt : new.sentAt = none) : Consistent queue new where
  receipt := .inl receipt
  timed sent := absurd sent (by rw [sentAt]; decide)
  whole _ := handed

theorem continues_of_idle (ns : new.ns = sdu.ns) (attempt : new.attemptReporter = none)
    (sentAt : new.sentAt = none) (asks : new.acknowledgementRequested = false) :
    Continues sdu new where
  ns := ns
  flying flies := absurd flies (by simp [inFlight, attempt, sentAt])
  asks asked := absurd asked (by simp [asks])

theorem Consistent.withdraw_reporter (consistent : Consistent queue sdu) :
    sdu.withdraw.reporter = .pending := by
  dsimp only [withdraw]
  rcases consistent.receipt with pending | ⟨transmitted, -⟩
  · rw [pending, if_neg nofun]
  · rw [if_pos transmitted]

theorem recover_same (sdu : AdvancedTxSdu) (block : AlAckBlock) (limit : Nat) :
    SameMessage sdu (sdu.recover block limit) ∧
      (sdu.recover block limit).reporter = sdu.reporter := by
  unfold recover
  split
  · exact ⟨⟨rfl, rfl, rfl, rfl⟩, rfl⟩
  · split
    · exact ⟨.refl sdu, rfl⟩
    · dsimp only
      split
      · exact ⟨⟨rfl, rfl, rfl, rfl⟩, rfl⟩
      · split
        · exact ⟨⟨rfl, rfl, rfl, rfl⟩, rfl⟩
        · exact ⟨⟨rfl, rfl, rfl, rfl⟩, rfl⟩

/-- **A block that asks for a message again ends its attempt.** -/
theorem askedAgain_spec (block : AlAckBlock) (limit : Nat)
    (consistent : Consistent queue sdu) (flying : sdu.inFlight) :
    Consistent queue (sdu.askedAgain block limit) ∧ Continues sdu (sdu.askedAgain block limit) ∧
      ¬ (sdu.askedAgain block limit).inFlight := by
  obtain ⟨same, reporter⟩ := recover_same { sdu with ackRequestRepetitions := 0 } block limit
  have handed : HandedWhole queue (sdu.askedAgain block limit) :=
    (consistent.handed flying).same ⟨same.message, same.ns, same.segments, same.endpointId⟩
  have receipt : (sdu.askedAgain block limit).reporter = .pending := by
    rw [← consistent.withdraw_reporter]
    dsimp only [askedAgain, withdraw]
    rw [reporter]
  exact ⟨.idle handed receipt rfl, continues_of_idle same.ns rfl rfl rfl, by
    simp [askedAgain, withdraw, inFlight]⟩

/-- **Looking at the receipt of an attempt.** -/
theorem observeAttempt_spec (now : TdmaTime) (consistent : Consistent queue sdu) :
    Consistent queue (sdu.observeAttempt now) ∧ Continues sdu (sdu.observeAttempt now) := by
  have reached (state : TxState) (attempt : sdu.attemptReporter = some state)
      (done : state = .transmitted ∨ state = .acknowledged) :
      let new : AdvancedTxSdu :=
        { sdu with
          reporter := if sdu.reporter = .pending then .transmitted else sdu.reporter
          sentAt := if sdu.acknowledgementRequested then sdu.sentAt.or (some now) else sdu.sentAt }
      Consistent queue new ∧ Continues sdu new := by
    have some' : sdu.attemptReporter.isSome := by
      rw [attempt]
      rfl
    refine ⟨⟨.inr ⟨?_, ?_⟩, fun _ => some', ?_⟩, ⟨rfl, fun _ => ?_, id⟩⟩
    · rcases consistent.receipt with pending | ⟨transmitted, -⟩
      · rw [if_pos pending]
      · rw [transmitted, if_neg nofun]
    · rcases done with rfl | rfl
      · exact .inl attempt
      · exact .inr attempt
    · exact fun offered => (consistent.whole offered).same ⟨rfl, rfl, rfl, rfl⟩
    · exact Bool.or_eq_true_iff.mpr (.inl some')
  have failed (state : TxState) (attempt : sdu.attemptReporter = some state)
      (gone : state = .discarded ∨ state = .lost) :
      let new : AdvancedTxSdu :=
        { sdu with attemptReporter := none, acknowledgementRequested := false, sentAt := none }
      Consistent queue new ∧ Continues sdu new := by
    have handed := consistent.whole (.inl (by rw [attempt]; rfl))
    refine ⟨.idle (handed.same ⟨rfl, rfl, rfl, rfl⟩) ?_ rfl, continues_of_idle rfl rfl rfl rfl⟩
    rcases consistent.receipt with pending | ⟨-, done⟩
    · exact pending
    · rw [attempt] at done
      rcases gone with rfl | rfl
      · exact absurd done (by decide)
      · exact absurd done (by decide)
  unfold observeAttempt
  split
  · exact reached _ (by assumption) (.inl rfl)
  · exact reached _ (by assumption) (.inr rfl)
  · exact failed _ (by assumption) (.inl rfl)
  · exact failed _ (by assumption) (.inr rfl)
  · exact ⟨consistent, .refl sdu⟩

/-- **A message whose acknowledgement is late is sent again.** -/
theorem timeOut_spec (consistent : Consistent queue sdu) (timed : sdu.sentAt.isSome)
    (late : sdu.timeOut limit = some new) : Consistent queue new ∧ Continues sdu new := by
  have handed := consistent.whole (.inl (consistent.timed timed))
  unfold timeOut at late
  split at late
  · cases late
    exact ⟨.idle (handed.same ⟨rfl, rfl, rfl, rfl⟩) consistent.withdraw_reporter rfl,
      continues_of_idle rfl rfl rfl rfl⟩
  · split at late
    · cases late
    · cases late
      exact ⟨.idle (handed.same ⟨rfl, rfl, rfl, rfl⟩) consistent.withdraw_reporter rfl,
        continues_of_idle rfl rfl rfl rfl⟩

theorem handedWhole_segmentPdus (routes : List Nat) (asks : Bool)
    (all : sdu.selectedSegments = List.range sdu.segments.length) :
    HandedWhole (sdu.segmentPdus routes asks) sdu := by
  intro part small
  refine ⟨asks && decide (part + 1 = sdu.segments.length), routes[part % routes.length]?, ?_⟩
  unfold segmentPdus
  rw [all, mem_mapIdx]
  refine ⟨part, by rwa [List.length_range], ?_⟩
  rw [getElem_range, List.length_range, getD_eq_getElem?_getD, getElem?_eq_getElem small, getD_some]

/-- **Starting an attempt.** -/
theorem offered_consistent (consistent : Consistent queue sdu) (routes : List Nat) (asks : Bool)
    (receipt : sdu.reporter = .pending) {more : List AlPdu} (old : queue ⊆ more)
    (handed : sdu.segmentPdus routes asks ⊆ more) : Consistent more (sdu.offered asks) where
  receipt := .inl receipt
  timed _ := rfl
  whole _ := by
    have whole : HandedWhole more sdu := by
      by_cases first : sdu.selectedSegments = List.range sdu.segments.length
      · exact (handedWhole_segmentPdus routes asks first).mono handed
      · refine (consistent.whole (.inr ?_)).mono old
        by_contra nothing
        rw [not_isSome_iff_eq_none] at nothing
        exact first (by rw [selectedSegments, nothing]; rfl)
    exact whole.same ⟨rfl, rfl, rfl, rfl⟩

end

/-! ### The queue of a link -/

/-- The queue is numbered, each message is consistent, and at most one asks for an
acknowledgement. -/
structure QueueSound (bound : Nat) (queue : List AlPdu) (nextTxNs : Nat) (tx : List AdvancedTxSdu) :
    Prop where
  sequenced : Sequenced bound nextTxNs tx
  consistent : ∀ sdu ∈ tx, Consistent queue sdu
  requests : tx.countP (·.acknowledgementRequested) ≤ 1

namespace QueueSound

variable {link : AdvancedLink} {now : TdmaTime}

theorem empty (bound : Nat) (queue : List AlPdu) : QueueSound bound queue 0 [] :=
  ⟨.empty bound 0, nofun, Nat.zero_le 1⟩

section

variable (sound : QueueSound bound queue nextTxNs tx)

include sound

theorem mono {more : List AlPdu} (subset : queue ⊆ more) : QueueSound bound more nextTxNs tx :=
  ⟨sound.sequenced, fun sdu member => (sound.consistent sdu member).mono subset, sound.requests⟩

theorem continues (pointwise : List.Forall₂ Continues tx tx')
    (consistent : ∀ sdu ∈ tx', Consistent queue sdu) : QueueSound bound queue nextTxNs tx' := by
  refine ⟨sound.sequenced.continues pointwise, consistent, le_trans ?_ sound.requests⟩
  clear sound consistent
  induction pointwise with
  | nil => exact le_refl _
  | cons continues _ ih =>
    rw [countP_cons, countP_cons]
    refine Nat.add_le_add ih ?_
    split
    next asks =>
      rw [if_pos (continues.asks asks)]
    · exact Nat.zero_le _

theorem push (message : Nat) (segments : List (List Bool)) (endpointId : Nat) :
    QueueSound bound queue ((nextTxNs + 1) % 8)
      (tx ++ [.fresh message nextTxNs segments endpointId]) := by
  refine ⟨sound.sequenced.push rfl nofun, fun sdu member => ?_, ?_⟩
  · rcases mem_append.mp member with old | new
    · exact sound.consistent sdu old
    · rw [mem_singleton.mp new]
      exact .fresh _ _ _ _
  · rw [countP_append]
    exact sound.requests

/-- **A message in flight leaves the queue.** -/
theorem eraseIdx (narrow : bound ≤ 3) (found : tx[position]? = some sdu) (flying : sdu.inFlight) :
    QueueSound bound queue nextTxNs (tx.eraseIdx position) where
  sequenced := sound.sequenced.eraseIdx narrow found flying
  consistent other member := sound.consistent other (mem_of_mem_eraseIdx member)
  requests := le_trans (List.Sublist.countP_le (eraseIdx_sublist tx position)) sound.requests

theorem modify (position : Nat) {change : AdvancedTxSdu → AdvancedTxSdu}
    (each : ∀ sdu, Consistent queue sdu → Consistent queue (change sdu) ∧ Continues sdu (change sdu)) :
    QueueSound bound queue nextTxNs (tx.modify position change) := by
  by_cases small : position < tx.length
  · have found := getElem?_eq_getElem small
    obtain ⟨consistent, continues⟩ := each _ (sound.consistent _ (getElem_mem small))
    rw [modify_eq_set_getElem? , found]
    refine sound.continues (forall₂_set found continues) fun sdu member => ?_
    rcases mem_or_eq_of_mem_set member with old | new
    · exact sound.consistent sdu old
    · exact new ▸ consistent
  · rw [modify_eq_self (Nat.le_of_not_lt small)]
    exact sound

end

theorem retirePassed (windowSize receiverBase : Nat) (narrow : bound ≤ 3)
    (sound : QueueSound bound queue nextTxNs tx) :
    QueueSound bound queue nextTxNs (AdvancedLink.retirePassed windowSize receiverBase tx).2 ∧
      (AdvancedLink.retirePassed windowSize receiverBase tx).2 ⊆ tx ∧
      ∀ done ∈ (AdvancedLink.retirePassed windowSize receiverBase tx).1, ∃ sdu ∈ tx,
        done = sdu.markAcknowledged ∧ sdu.inFlight ∧
        1 ≤ sequenceDistance receiverBase sdu.ns ∧
        sequenceDistance receiverBase sdu.ns ≤ windowSize := by
  induction tx with
  | nil => exact ⟨sound, .refl _, nofun⟩
  | cons front rest ih =>
    unfold AdvancedLink.retirePassed
    dsimp only
    split
    · exact ⟨sound, .refl _, nofun⟩
    next passed =>
      obtain ⟨-, ahead, near, sent⟩ : _ ∧ _ ∧ _ ∧ _ := by
        simpa only [not_or, Bool.not_eq_true', Bool.not_eq_false] using passed
      have flying := (sound.consistent front mem_cons_self).inFlight sent
      have later := sound.eraseIdx narrow getElem?_cons_zero flying
      obtain ⟨kept, subset, retired⟩ := ih later
      refine ⟨kept, subset_cons_of_subset front subset, ?_⟩
      intro done member
      rcases mem_cons.mp member with here | there
      · exact ⟨front, mem_cons_self, here, flying, Nat.pos_of_ne_zero ahead, Nat.le_of_not_lt near⟩
      · obtain ⟨sdu, old, rest⟩ := retired done there
        exact ⟨sdu, mem_cons_of_mem front old, rest⟩

/-- **One block ends attempts only, and acknowledges only what was in flight.** -/
theorem handleBlock (link : AdvancedLink) (block : AlAckBlock) (narrow : bound ≤ 3)
    (sound : QueueSound bound queue nextTxNs tx) :
    QueueSound bound queue nextTxNs (link.handleBlock block tx).tx ∧
      (∀ sdu ∈ (link.handleBlock block tx).tx, sdu.inFlight → sdu ∈ tx) ∧
      ∀ done ∈ (link.handleBlock block tx).acknowledged, ∃ sdu ∈ tx,
        done = sdu.markAcknowledged ∧ sdu.inFlight ∧
        block.nr = sdu.ns ∧ block.acknowledgementLength = 0 := by
  have same : QueueSound bound queue nextTxNs tx ∧ (∀ sdu ∈ tx, sdu.inFlight → sdu ∈ tx) ∧
      ∀ done ∈ ([] : List AdvancedTxSdu), ∃ sdu ∈ tx, done = sdu.markAcknowledged ∧ sdu.inFlight ∧
        block.nr = sdu.ns ∧ block.acknowledgementLength = 0 :=
    ⟨sound, fun _ member _ => member, nofun⟩
  unfold AdvancedLink.handleBlock
  split
  · exact same
  next position first =>
    split
    · exact same
    next sdu found =>
      have number : sdu.ns = block.nr := by
        obtain ⟨small, here, -⟩ := List.findIdx?_eq_some_iff_getElem.mp first
        rw [(List.getElem?_eq_some_iff.mp found).2] at here
        exact of_decide_eq_true here
      have member := mem_of_getElem? found
      have consistent := sound.consistent sdu member
      split
      · exact same
      next sent =>
        have flying : sdu.inFlight := consistent.inFlight (by simpa using sent)
        split
        next positive =>
          refine ⟨sound.eraseIdx narrow found flying, ?_, ?_⟩
          · exact fun other there _ => mem_of_mem_eraseIdx there
          · intro done here
            exact ⟨sdu, member, mem_singleton.mp here, flying, number.symm, positive⟩
        · obtain ⟨asked, continues, waits⟩ := askedAgain_spec block
            link.maxSegmentRetransmissions consistent flying
          refine ⟨sound.continues ?_ ?_, ?_, nofun⟩
          · exact forall₂_set found continues
          · intro other there
            rcases mem_or_eq_of_mem_set there with old | new
            · exact sound.consistent other old
            · exact new ▸ asked
          · intro other there flies
            rcases mem_or_eq_of_mem_set there with old | new
            · exact old
            · exact absurd (new ▸ flies) waits

/-- **So do all blocks together.** -/
theorem handleBlocks (link : AdvancedLink) (blocks : List AlAckBlock) (narrow : bound ≤ 3)
    (sound : QueueSound bound queue nextTxNs tx) :
    QueueSound bound queue nextTxNs (link.handleBlocks blocks tx).tx ∧
      ∀ done ∈ (link.handleBlocks blocks tx).acknowledged, ∃ sdu ∈ tx,
        done = sdu.markAcknowledged ∧ sdu.inFlight ∧
        ∃ block ∈ blocks, block.nr = sdu.ns ∧ block.acknowledgementLength = 0 := by
  induction blocks generalizing tx with
  | nil => exact ⟨sound, nofun⟩
  | cons block rest ih =>
    obtain ⟨after, kept, acknowledged⟩ := sound.handleBlock link block narrow
    obtain ⟨last, later⟩ := ih after
    have now' : ∀ done ∈ (link.handleBlock block tx).acknowledged, ∃ sdu ∈ tx,
        done = sdu.markAcknowledged ∧ sdu.inFlight ∧
        ∃ other ∈ block :: rest, other.nr = sdu.ns ∧ other.acknowledgementLength = 0 := by
      intro done member
      obtain ⟨sdu, old, is, flying, positive⟩ := acknowledged done member
      exact ⟨sdu, old, is, flying, block, mem_cons_self, positive⟩
    unfold handleBlocks
    dsimp only
    split
    · exact ⟨after, now'⟩
    · refine ⟨last, fun done member => ?_⟩
      rcases mem_append.mp member with here | there
      · exact now' done here
      · obtain ⟨sdu, old, is, flying, other, among, positive⟩ := later done there
        exact ⟨sdu, kept sdu old flying, is, flying, other, mem_cons_of_mem block among, positive⟩

/-- Looking at attempts and timers. -/
theorem observe (link : AdvancedLink) (now : TdmaTime)
    (consistent : ∀ sdu ∈ tx, Consistent queue sdu) :
    List.Forall₂ Continues tx (link.observe now tx).1 ∧
      ∀ sdu ∈ (link.observe now tx).1, Consistent queue sdu := by
  induction tx with
  | nil => exact ⟨.nil, nofun⟩
  | cons sdu rest ih =>
    have others := fun other member => consistent other (mem_cons_of_mem sdu member)
    obtain ⟨pointwise, later⟩ := ih others
    obtain ⟨seen, continues⟩ := observeAttempt_spec now (consistent sdu mem_cons_self)
    unfold AdvancedLink.observe
    dsimp only
    split
    next expired =>
      have timed : (sdu.observeAttempt now).sentAt.isSome := by
        obtain ⟨started, is, -⟩ := (any_eq_true _ _).mp expired
        rw [is]
        rfl
      split
      · exact ⟨.cons continues (forall₂_continues_refl rest), forall_mem_cons.mpr ⟨seen, others⟩⟩
      next late =>
        obtain ⟨again, after⟩ := timeOut_spec seen timed late
        exact ⟨.cons ⟨after.ns.trans continues.ns, fun flies => continues.flying (after.flying flies),
          fun asks => continues.asks (after.asks asks)⟩ pointwise,
          forall_mem_cons.mpr ⟨again, later⟩⟩
    · exact ⟨.cons continues pointwise, forall_mem_cons.mpr ⟨seen, later⟩⟩

theorem splitForReset (failedNs : Nat) (tx : List AdvancedTxSdu) :
    (∀ sdu ∈ (splitForReset failedNs tx).1, sdu.neverOffered) ∧
      (splitForReset failedNs tx).2 ⊆ tx := by
  unfold AdvancedLink.splitForReset
  dsimp only
  rw [partition_eq_filter_filter]
  refine ⟨fun sdu member => ?_, fun sdu member => ?_⟩
  · obtain ⟨⟨sdu, place⟩, kept, rfl⟩ := mem_map.mp member
    exact (Bool.and_eq_true_iff.mp (mem_filter.mp kept).2).2
  · obtain ⟨⟨sdu, place⟩, abandoned, rfl⟩ := mem_map.mp member
    exact mem_of_getElem? (mem_zipIdx_iff_getElem?.mp (mem_filter.mp abandoned).1)

/-- **The queue after a reset.** -/
theorem renumber {retained : List AdvancedTxSdu} (never : ∀ sdu ∈ retained, sdu.neverOffered) :
    QueueSound bound queue (retained.length % 8)
      (retained.mapIdx fun position sdu => { sdu with ns := position % 8 }) := by
  have blank : ∀ sdu ∈ retained, sdu.attemptReporter = none ∧ sdu.sentAt = none ∧
      sdu.reporter = .pending ∧ sdu.acknowledgementRequested = false ∧
      sdu.pendingSegments = none := by
    intro sdu member
    have := never sdu member
    simp only [neverOffered, Bool.and_eq_true, isNone_iff_eq_none,
      decide_eq_true_eq, Bool.not_eq_true'] at this
    exact ⟨this.1.1.1.1.1.1.1, this.1.1.1.1.1.1.2, this.1.1.1.1.1.2, this.1.1.1.1.2, this.2⟩
  refine ⟨.renumber bound fun sdu member => ?_, fun new member => ?_, ?_⟩
  · obtain ⟨attempt, sentAt, -⟩ := blank sdu member
    simp [inFlight, attempt, sentAt]
  · obtain ⟨position, small, rfl⟩ := mem_mapIdx.mp member
    obtain ⟨attempt, sentAt, receipt, -, pending⟩ := blank _ (getElem_mem small)
    refine ⟨.inl receipt, fun sent => ?_, fun offered => ?_⟩
    · exact absurd sent (by simp [sentAt])
    · exact absurd offered (by simp [attempt, pending])
  · refine le_of_eq_of_le (countP_eq_zero.mpr fun new member => ?_) (Nat.zero_le 1)
    obtain ⟨position, small, rfl⟩ := mem_mapIdx.mp member
    obtain ⟨-, -, -, asks, -⟩ := blank _ (getElem_mem small)
    simp [asks]

end QueueSound

/-! ### Filling the window -/

section

variable {link : AdvancedLink} {receiverNotReady : Bool}

theorem selected_spec (selected : position ∈ link.selectedSdus receiverNotReady) :
    ∃ sdu, link.tx[position]? = some sdu ∧
      NearOldest (max 1 (min 3 link.windowSize)) link.tx position sdu ∧
      sdu.attemptReporter = none := by
  unfold selectedSdus at selected
  split at selected
  · cases selected
  next front oldest =>
    obtain ⟨-, chosen⟩ := mem_filter.mp (mem_of_mem_take selected)
    obtain ⟨generation, fits⟩ := Bool.and_eq_true_iff.mp chosen
    obtain ⟨sdu, found, selectable⟩ := (any_eq_true _ _).mp fits
    simp only [AdvancedLink.selectable, Bool.and_eq_true, decide_eq_true_eq,
      isNone_iff_eq_none] at selectable
    exact ⟨sdu, found, ⟨front, oldest, of_decide_eq_true generation, selectable.1.1.1.1.1⟩,
      selectable.1.1.1.1.2⟩

theorem countP_le_one {α : Type} {holds : α → Bool} {entries : List α} (only : Nat)
    (unique : ∀ position entry, entries[position]? = some entry → holds entry → position = only) :
    entries.countP holds ≤ 1 := by
  induction entries generalizing only with
  | nil => exact Nat.zero_le 1
  | cons entry rest ih =>
    rw [countP_cons]
    by_cases here : holds entry = true
    · have none_later : rest.countP holds = 0 := by
        refine countP_eq_zero.mpr fun other member there => ?_
        obtain ⟨position, found⟩ := mem_iff_getElem?.mp member
        have zero := unique 0 entry rfl here
        have later := unique (position + 1) other found there
        omega
      rw [none_later, if_pos here]
    · rw [if_neg here]
      refine ih (only - 1) fun position other found there => ?_
      have later := unique (position + 1) other found there
      omega

/-- **Starting the selected attempts keeps the queue sound.** -/
theorem QueueSound.offer (sound : QueueSound bound queue nextTxNs link.tx)
    (fits : max 1 (min 3 link.windowSize) ≤ bound)
    (quiet : link.tx.any (·.acknowledgementRequested) = false) (routes : List Nat)
    {selected : List Nat} (is : selected = link.selectedSdus receiverNotReady) :
    QueueSound bound (queue ++ selected.flatMap fun index => ((link.tx[index]?).map fun sdu =>
        sdu.segmentPdus routes (decide (some index = selected.getLast?))).getD [])
      nextTxNs
      (link.tx.mapIdx fun index sdu =>
        if index ∈ selected then sdu.offered (decide (some index = selected.getLast?))
        else sdu) := by
  subst is
  refine ⟨sound.sequenced.mapIdx _ fun position sdu found => ?_, fun new member => ?_, ?_⟩
  · split
    next chosen =>
      obtain ⟨other, there, ⟨oldest, front, generation, distance⟩, -⟩ := selected_spec chosen
      rw [found, some_inj] at there
      subst there
      exact ⟨rfl, fun _ => .inr ⟨oldest, front, generation, lt_of_lt_of_le distance fits⟩⟩
    · exact ⟨rfl, .inl⟩
  · obtain ⟨position, small, rfl⟩ := mem_mapIdx.mp member
    have consistent := sound.consistent _ (getElem_mem small)
    split
    next chosen =>
      obtain ⟨other, there, -, attempt⟩ := selected_spec chosen
      rw [getElem?_eq_getElem small, some_inj] at there
      subst there
      refine offered_consistent consistent routes _ ?_ (subset_append_left _ _) ?_
      · rcases consistent.receipt with pending | ⟨-, done⟩
        · exact pending
        · rw [attempt] at done
          exact absurd done (by decide)
      · refine fun pdu among => mem_append_right _ (mem_flatMap.mpr ⟨position, chosen, ?_⟩)
        rw [getElem?_eq_getElem small]
        exact among
    · exact consistent.mono (subset_append_left _ _)
  · refine countP_le_one ((link.selectedSdus receiverNotReady).getLast?.getD 0) ?_
    intro position new found asks
    rw [getElem?_mapIdx] at found
    obtain ⟨sdu, there, rfl⟩ := map_eq_some_iff.mp found
    split at asks
    · have last := of_decide_eq_true asks
      rw [← last, getD_some]
    · have := any_eq_false.mp quiet sdu (mem_of_getElem? there)
      exact absurd asks this

end

end Bluestation
