/-
**Requests wait in order and are never lost silently.**

A request goes to the link of its terminal, or waits for one. A terminal holds the messages of its
link, oldest first, and then the requests that wait.

* `Terminal.Accounts` — an event keeps what is held in order, except for messages whose receipts it
  ends.
* `requests_in_order` — both, and the order of requests, in every reachable state.
-/

import Bluestation.Llc.AdvancedRuns

namespace Bluestation

open Bits Machines List Option Function Nat Except AdvancedTxSdu AdvancedLink Terminal AdvancedLlc

variable {terminal before after : Terminal} {link : AdvancedLink} {now : TdmaTime}
  {tx : List AdvancedTxSdu} {queue : List AlPdu}

namespace Terminal

def linked (terminal : Terminal) : List Nat :=
  (terminal.link.map fun link => link.tx.map (·.message)).getD []

def waiting (terminal : Terminal) : List Nat := terminal.pending.map (·.prim.message)

/-- All messages that are held, in the order they are to be sent. -/
def held (terminal : Terminal) : List Nat := terminal.linked ++ terminal.waiting

def Ended (ended : List Report) (message : Nat) : Prop :=
  ∃ report ∈ ended, report.message = message ∧
    (report.state = .lost ∨ report.state = .acknowledged)

/-- What is held afterwards was held in that order or is new, and the receipt of everything else
ended. -/
def Accounts (new : List Nat) (before after : Terminal) : Prop :=
  after.held.Sublist (before.held ++ new) ∧
    ∃ ended, after.reported = before.reported ++ ended ∧
      ∀ message ∈ before.held ++ new, message ∈ after.held ∨ Ended ended message

/-- Requests wait only while there is no link, and there is room for all. -/
structure Queued (terminal : Terminal) : Prop where
  number : ∀ link ∈ terminal.link, link.linkNumber = 0
  waits : ∀ link ∈ terminal.link, terminal.pending = []
  room : terminal.held.length ≤ maxPendingAdvancedTlsdusPerLink

theorem held_of_link (is : terminal.link = some link) :
    terminal.held = link.tx.map (·.message) ++ terminal.waiting := by
  rw [held, linked, is]
  rfl

theorem held_of_none (is : terminal.link = none) : terminal.held = terminal.waiting := by
  rw [held, linked, is]
  rfl

theorem Ended.append_left {early : List Report} {message : Nat} (late : List Report)
    (ended : Ended early message) : Ended (early ++ late) message := by
  obtain ⟨report, member, is⟩ := ended
  exact ⟨report, mem_append_left late member, is⟩

theorem Ended.append_right {late : List Report} {message : Nat} (early : List Report)
    (ended : Ended late message) : Ended (early ++ late) message := by
  obtain ⟨report, member, is⟩ := ended
  exact ⟨report, mem_append_right early member, is⟩

namespace Accounts

/-- Nothing changes of what is held. -/
theorem same (held : after.held = before.held) (reported : after.reported = before.reported) :
    Accounts [] before after := by
  refine ⟨?_, [], ?_, fun message member => .inl ?_⟩
  · rw [held, append_nil]
  · rw [reported, append_nil]
  · rwa [held, ← append_nil before.held]

theorem refl (terminal : Terminal) : Accounts [] terminal terminal := same rfl rfl

/-- One event after another. -/
theorem trans {middle : Terminal} {new more : List Nat} (first : Accounts new before middle)
    (second : Accounts more middle after) : Accounts (new ++ more) before after := by
  obtain ⟨kept, early, is, accounted⟩ := first
  obtain ⟨kept', late, is', accounted'⟩ := second
  refine ⟨?_, early ++ late, by rw [is', is, append_assoc], fun message member => ?_⟩
  · rw [← append_assoc]
    exact kept'.trans (kept.append (.refl more))
  · rw [← append_assoc] at member
    rcases mem_append.mp member with old | last
    · rcases accounted message old with here | ended
      · rcases accounted' message (mem_append_left more here) with still | ended
        · exact .inl still
        · exact .inr (ended.append_right early)
      · exact .inr (ended.append_left late)
    · rcases accounted' message (mem_append_right _ last) with still | ended
      · exact .inl still
      · exact .inr (ended.append_right early)

theorem silent {middle : Terminal} (first : Accounts [] before middle)
    (second : Accounts [] middle after) : Accounts [] before after := first.trans second

/-- Messages leave with their receipts ended. -/
theorem settle {tx' : List AdvancedTxSdu} {ended : List Report} (is : before.link = some link)
    (is' : after.link.map (fun link => link.tx.map (·.message)) = some (tx'.map (·.message)))
    (pending : after.pending = before.pending)
    (reported : after.reported = before.reported ++ ended)
    (kept : (tx'.map (·.message)).Sublist (link.tx.map (·.message)))
    (accounted : ∀ sdu ∈ link.tx, sdu.message ∈ tx'.map (·.message) ∨ Ended ended sdu.message) :
    Accounts [] before after := by
  have heldAfter : after.held = tx'.map (·.message) ++ before.waiting := by
    rw [held, linked, is', getD_some, waiting, pending, waiting]
  refine ⟨?_, ended, reported, fun message member => ?_⟩
  · rw [heldAfter, append_nil, held_of_link is]
    exact kept.append (.refl _)
  · rw [append_nil, held_of_link is] at member
    rw [heldAfter]
    rcases mem_append.mp member with here | waits
    · obtain ⟨sdu, there, rfl⟩ := mem_map.mp here
      rcases accounted sdu there with still | final
      · exact .inl (mem_append_left _ still)
      · exact .inr final
    · exact .inl (mem_append_right _ waits)

end Accounts

/-! ### What a link does to its messages -/

section

variable {bound : Nat} {nextTxNs : Nat}

variable {sdu : AdvancedTxSdu}

theorem ended_markLost (ended : List Report) {sdus : List AdvancedTxSdu}
    (consistent : Consistent queue sdu) (member : sdu ∈ sdus) :
    Ended (ended ++ (sdus.map markLost).map fun sdu => ⟨sdu.message, sdu.reporter⟩) sdu.message := by
  refine .append_right _ ⟨⟨sdu.message, sdu.markLost.reporter⟩, ?_, rfl, .inl ?_⟩
  · exact mem_map.mpr ⟨sdu.markLost, mem_map_of_mem member, rfl⟩
  · exact consistent.markLost

theorem markAcknowledged_reporter (consistent : Consistent queue sdu) :
    sdu.markAcknowledged.reporter = .acknowledged := by
  dsimp only [markAcknowledged]
  rcases consistent.receipt with pending | ⟨transmitted, -⟩
  · rw [if_pos (.inl pending)]
  · rw [if_pos (.inr transmitted)]

theorem retirePassed_messages (windowSize receiverBase : Nat) (tx : List AdvancedTxSdu) :
    ((retirePassed windowSize receiverBase tx).2.map (·.message)).Sublist (tx.map (·.message)) ∧
      ∀ sdu ∈ tx, sdu ∈ (retirePassed windowSize receiverBase tx).2 ∨
        sdu.markAcknowledged ∈ (retirePassed windowSize receiverBase tx).1 := by
  induction tx with
  | nil => exact ⟨.refl _, nofun⟩
  | cons front rest ih =>
    unfold retirePassed
    dsimp only
    split
    · exact ⟨.refl _, fun sdu member => .inl member⟩
    · obtain ⟨kept, accounted⟩ := ih
      refine ⟨kept.cons _, fun sdu member => ?_⟩
      rcases mem_cons.mp member with rfl | there
      · exact .inr mem_cons_self
      · exact (accounted sdu there).imp_right (mem_cons_of_mem _)

variable (link : AdvancedLink)

theorem retireReported_messages (blocks : List AlAckBlock) :
    ((link.retireReported blocks).2.map (·.message)).Sublist (link.tx.map (·.message)) ∧
      ∀ sdu ∈ link.tx, sdu ∈ (link.retireReported blocks).2 ∨
        sdu.markAcknowledged ∈ (link.retireReported blocks).1 := by
  unfold retireReported
  split
  · split
    · exact retirePassed_messages _ _ _
    · exact ⟨.refl _, fun sdu member => .inl member⟩
  · exact ⟨.refl _, fun sdu member => .inl member⟩

def StillOrDone (tx acknowledged : List AdvancedTxSdu) (sdu : AdvancedTxSdu) : Prop :=
  sdu.message ∈ tx.map (·.message) ∨
    ∃ done ∈ acknowledged, done.message = sdu.message ∧ done.reporter = .acknowledged

theorem handleBlock_messages (block : AlAckBlock) (consistent : ∀ sdu ∈ tx, Consistent queue sdu) :
    ((link.handleBlock block tx).tx.map (·.message)).Sublist (tx.map (·.message)) ∧
      ∀ sdu ∈ tx, StillOrDone (link.handleBlock block tx).tx
        (link.handleBlock block tx).acknowledged sdu := by
  have same : (tx.map (·.message)).Sublist (tx.map (·.message)) ∧
      ∀ sdu ∈ tx, StillOrDone tx [] sdu :=
    ⟨.refl _, fun sdu member => .inl (mem_map_of_mem member)⟩
  unfold handleBlock
  split
  · exact same
  next position _ =>
    split
    · exact same
    next found there =>
      split
      · exact same
      · split
        · refine ⟨(eraseIdx_sublist _ _).map _, fun sdu member => ?_⟩
          obtain ⟨place, here⟩ := mem_iff_getElem?.mp member
          by_cases it : place = position
          · subst it
            rw [there, some_inj] at here
            subst here
            exact .inr ⟨_, mem_singleton_self _, rfl,
              markAcknowledged_reporter (consistent found (mem_of_getElem? there))⟩
          · exact .inl (mem_map_of_mem (List.mem_eraseIdx_iff_getElem?.mpr ⟨place, it, here⟩))
        · have messages : (tx.set position (found.askedAgain block
              link.maxSegmentRetransmissions)).map (·.message) = tx.map (·.message) := by
            have name : (found.askedAgain block link.maxSegmentRetransmissions).message =
                found.message := (recover_same _ block _).1.message
            obtain ⟨small, is⟩ := List.getElem?_eq_some_iff.mp there
            have position_lt : position < (tx.map (·.message)).length := by
              rwa [length_map]
            have here : found.message = (tx.map (·.message))[position] := by
              rw [getElem_map, is]
            rw [map_set, name, here, set_getElem_self]
          rw [messages]
          refine ⟨.refl _, fun sdu member => .inl ?_⟩
          rw [messages]
          exact mem_map_of_mem member

theorem handleBlocks_messages (blocks : List AlAckBlock) (narrow : bound ≤ 3)
    (sound : QueueSound bound queue nextTxNs tx) :
    ((link.handleBlocks blocks tx).tx.map (·.message)).Sublist (tx.map (·.message)) ∧
      ∀ sdu ∈ tx, StillOrDone (link.handleBlocks blocks tx).tx
        (link.handleBlocks blocks tx).acknowledged sdu := by
  induction blocks generalizing tx with
  | nil => exact ⟨.refl _, fun sdu member => .inl (mem_map_of_mem member)⟩
  | cons block rest ih =>
    obtain ⟨kept, accounted⟩ := handleBlock_messages link block sound.consistent
    obtain ⟨kept', accounted'⟩ := ih (sound.handleBlock link block narrow).1
    unfold handleBlocks
    dsimp only
    split
    · exact ⟨kept, accounted⟩
    · refine ⟨kept'.trans kept, fun sdu member => ?_⟩
      rcases accounted sdu member with still | ⟨done, early, is⟩
      · obtain ⟨other, there, same⟩ := mem_map.mp still
        rcases accounted' other there with still | ⟨done, late, name, is⟩
        · exact .inl (same ▸ still)
        · exact .inr ⟨done, mem_append_right _ late, name.trans same, is⟩
      · exact .inr ⟨done, mem_append_left _ early, is⟩

theorem observe_messages (now : TdmaTime) (tx : List AdvancedTxSdu) :
    (link.observe now tx).1.map (·.message) = tx.map (·.message) := by
  have seen (sdu : AdvancedTxSdu) : (sdu.observeAttempt now).message = sdu.message := by
    unfold observeAttempt
    split <;> rfl
  have late {sdu new : AdvancedTxSdu} {limit : Nat} (is : sdu.timeOut limit = some new) :
      new.message = sdu.message := by
    unfold timeOut at is
    split at is
    · cases is
      rfl
    · split at is
      · cases is
      · cases is
        rfl
  induction tx with
  | nil => rfl
  | cons sdu rest ih =>
    unfold observe
    dsimp only
    split
    · split
      · rw [map_cons, map_cons, seen]
      next is =>
        rw [map_cons, map_cons, ih, late is, seen]
    · rw [map_cons, map_cons, ih, seen]

theorem mapIdx_messages (change : Nat → AdvancedTxSdu → AdvancedTxSdu)
    (same : ∀ position sdu, (change position sdu).message = sdu.message)
    (tx : List AdvancedTxSdu) :
    (tx.mapIdx change).map (·.message) = tx.map (·.message) := by
  refine List.ext_getElem? fun position => ?_
  rw [List.getElem?_map, List.getElem?_mapIdx, List.getElem?_map, Option.map_map]
  congr 1
  funext sdu
  exact same position sdu

theorem splitForReset_messages (failedNs : Nat) (tx : List AdvancedTxSdu) :
    (splitForReset failedNs tx).1.Sublist tx ∧ ∀ sdu ∈ tx, sdu ∈ (splitForReset failedNs tx).1 ∨
        sdu ∈ (splitForReset failedNs tx).2 := by
  unfold splitForReset
  dsimp only
  rw [partition_eq_filter_filter]
  refine ⟨?_, fun sdu member => ?_⟩
  · have kept := (filter_sublist (l := tx.zipIdx) (p := fun entry =>
      decide (some entry.2 ≠ tx.findIdx? (·.ns = failedNs)) && entry.1.neverOffered)).map Prod.fst
    rwa [zipIdx_map_fst] at kept
  · obtain ⟨position, found⟩ := mem_iff_getElem?.mp member
    have entry : (sdu, position) ∈ tx.zipIdx := mem_zipIdx_iff_getElem?.mpr found
    by_cases keep : (decide (some position ≠ tx.findIdx? (·.ns = failedNs)) &&
        sdu.neverOffered) = true
    · exact .inl (mem_map.mpr ⟨_, mem_filter.mpr ⟨entry, keep⟩, rfl⟩)
    · refine .inr (mem_map.mpr ⟨_, mem_filter.mpr ⟨entry, ?_⟩, rfl⟩)
      rw [comp_apply, Bool.not_eq_true']
      exact Bool.eq_false_iff.mpr keep

end

/-! ### What an event does -/

def Orderly (new : List Nat) (before after : Terminal) : Prop :=
  after.Queued ∧ Accounts new before after

section

variable {policy : Nat → Nat}

theorem Accounts.room {before after : Terminal} (accounts : Accounts [] before after)
    (queued : before.Queued) : after.held.length ≤ maxPendingAdvancedTlsdusPerLink := by
  have kept := accounts.1.length_le
  rw [append_nil] at kept
  exact kept.trans queued.room

theorem Queued.relink {link' : AdvancedLink} (queued : before.Queued) (is : before.link = some link)
    (is' : after.link = some link') (number : link'.linkNumber = link.linkNumber)
    (pending : after.pending = before.pending) (accounts : Accounts [] before after) :
    Orderly [] before after := by
  refine ⟨⟨fun other here => ?_, fun _ _ => ?_, accounts.room queued⟩, accounts⟩
  · rw [is', mem_some_iff] at here
    rw [← here, number]
    exact queued.number link is
  · rw [pending]
    exact queued.waits link is

theorem Queued.refl (queued : terminal.Queued) : Orderly [] terminal terminal :=
  ⟨queued, .refl terminal⟩

theorem Orderly.enqueue {new : List Nat} (orderly : Orderly new before after) (pdus : List AlPdu) :
    Orderly new before { after with queue := after.queue ++ pdus } :=
  ⟨⟨orderly.1.number, orderly.1.waits, orderly.1.room⟩, orderly.2⟩

theorem Orderly.trans {middle : Terminal} {new more : List Nat} (first : Orderly new before middle)
    (second : Orderly more middle after) : Orderly (new ++ more) before after :=
  ⟨second.1, first.2.trans second.2⟩

/-- **Releasing the link ends the receipts of its messages.** -/
theorem Queued.dropLink (queued : terminal.Queued) (sound : terminal.Sound policy) :
    Orderly [] terminal terminal.dropLink := by
  have accounts : Accounts [] terminal terminal.dropLink := by
    have heldAfter : terminal.dropLink.held = terminal.waiting := held_of_none rfl
    refine ⟨?_, _, rfl, fun message member => ?_⟩
    · rw [append_nil]
      exact sublist_append_right _ _
    · rw [append_nil] at member
      rcases mem_append.mp member with here | waits
      · rw [linked] at here
        cases is : terminal.link with
        | none =>
          rw [is] at here
          cases here
        | some link =>
          rw [is] at here
          obtain ⟨sdu, there, rfl⟩ := mem_map.mp here
          have lost := ended_markLost [] ((sound link is).2.consistent sdu there) there
          exact .inr lost
      · exact .inl waits
  exact ⟨⟨fun link is => absurd is (not_mem_none link),
    fun link is => absurd is (not_mem_none link), accounts.room queued⟩, accounts⟩

/-! ### Requests -/

variable {prim : TlaTlDataReqAl}

/-- The link takes a request when it has room. -/
theorem offerToLink_spec {result : Option Terminal}
    (offered : terminal.offerToLink prim = .ok result) :
    (∃ after link link', result = some after ∧ terminal.link = some link ∧
        after.link = some link' ∧ link'.linkNumber = link.linkNumber ∧
        after.pending = terminal.pending ∧ after.reported = terminal.reported ∧
        link'.tx.map (·.message) = link.tx.map (·.message) ++ [prim.message] ∧
        link.tx.length < maxPendingAdvancedTlsdusPerLink) ∨
      result = none ∧ ∀ link, terminal.link = some link →
        link.linkNumber = 0 → maxPendingAdvancedTlsdusPerLink ≤ link.tx.length := by
  unfold offerToLink at offered
  cases is : terminal.link with
  | none =>
    rw [is] at offered
    rw [ok.injEq] at offered
    exact .inr ⟨offered.symm, fun _ same => absurd same.symm (some_ne_none _)⟩
  | some link =>
    rw [is] at offered
    obtain ⟨taken, handed, offered⟩ := bind_eq_ok.mp offered
    cases offered
    unfold rxTlaTldataReqAl at handed
    split at handed
    next full =>
      cases handed
      refine .inr ⟨rfl, fun other same number => ?_⟩
      cases same
      exact full.resolve_left (absurd number)
    next room =>
      obtain ⟨segments, -, handed⟩ := bind_eq_ok.mp handed
      cases handed
      refine .inl ⟨_, link, _, rfl, rfl, rfl, rfl, rfl, rfl, ?_, ?_⟩
      · rw [map_append]
        rfl
      · exact Nat.lt_of_not_le (not_or.mp room).2

/-- **A request is handed to the link, waits for one, or is refused.** -/
theorem Queued.request (queued : terminal.Queued)
    (stepped : terminal.rxTlaTldataReqAlMessage now prim = .ok after) :
    Orderly [prim.message] terminal after := by
  obtain ⟨result, offered, stepped⟩ := bind_eq_ok.mp stepped
  rcases offerToLink_spec offered with ⟨taken, link, link', rfl, is, is', number, pending, reported,
    messages, room⟩ | ⟨rfl, full⟩
  · rw [ok.injEq] at stepped
    subst stepped
    have empty := queued.waits link is
    have waiting' : taken.waiting = [] := by rw [waiting, pending, empty]; rfl
    have heldBefore : terminal.held = link.tx.map (·.message) := by
      rw [held_of_link is, waiting, empty, map_nil, append_nil]
    have heldAfter : taken.held = terminal.held ++ [prim.message] := by
      rw [held_of_link is', waiting', messages, append_nil, heldBefore]
    refine ⟨⟨fun other here => ?_, fun _ _ => ?_, ?_⟩, ?_, [], ?_, fun message member => .inl ?_⟩
    · rw [is', mem_some_iff] at here
      rw [← here, number]
      exact queued.number link is
    · rw [pending, empty]
    · rw [heldAfter, heldBefore, length_append, length_map]
      exact room
    · rw [heldAfter]
    · rw [reported, append_nil]
    · rwa [heldAfter]
  · cases stepped
    unfold queuePendingAdvancedData
    dsimp only
    have length : terminal.held.length =
        (terminal.link.map (·.tx.length)).getD 0 + terminal.pending.length := by
      rw [held, length_append, waiting, length_map, linked]
      cases terminal.link with
      | none => rfl
      | some link =>
        rw [map_some, getD_some, map_some, getD_some, length_map]
    split
    · refine ⟨⟨queued.number, queued.waits, queued.room⟩, sublist_append_left _ _, _, rfl, ?_⟩
      intro message member
      rcases mem_append.mp member with old | new
      · exact .inl old
      · rw [mem_singleton.mp new]
        exact .inr ⟨_, mem_singleton_self _, rfl, .inl rfl⟩
    next room =>
      have heldAfter : held { terminal with pending := terminal.pending ++ [⟨prim, now⟩] } =
          terminal.held ++ [prim.message] := by
        rw [held, waiting, held, map_append, append_assoc]
        rfl
      refine ⟨⟨queued.number, fun link is => ?_, ?_⟩, ?_, [], ?_, fun message member => .inl ?_⟩
      · -- a link that does not take the request is full
        have crowded := full link is (queued.number link is)
        rw [mem_def.mp is, map_some, getD_some] at room
        omega
      · rw [heldAfter, length_append, length_singleton]
        omega
      · rw [heldAfter]
      · rw [append_nil]
      · rwa [heldAfter]

def withPending (terminal : Terminal) (entries : List PendingAdvancedData) : Terminal :=
  { terminal with pending := entries }

theorem held_withPending (terminal : Terminal) (entries : List PendingAdvancedData) :
    (terminal.withPending entries).held = terminal.linked ++ entries.map (·.prim.message) := rfl

/-- **Waiting requests move to the link in order, until none waits.** -/
theorem drainPending_spec {entries : List PendingAdvancedData}
    (number : ∀ link ∈ terminal.link, link.linkNumber = 0)
    (room : (terminal.withPending entries).held.length ≤ maxPendingAdvancedTlsdusPerLink)
    (stepped : drainPending now entries terminal = .ok after) :
    Orderly [] (terminal.withPending entries) after := by
  induction entries generalizing terminal with
  | nil =>
    unfold drainPending at stepped
    cases stepped
    exact ⟨⟨number, fun _ _ => rfl, room⟩, .refl _⟩
  | cons entry rest ih =>
    unfold drainPending at stepped
    split at stepped
    · have lost : Accounts [] (terminal.withPending (entry :: rest)) (withPending { terminal with
            reported := terminal.reported ++ [⟨entry.prim.message, .lost⟩] } rest) := by
        refine ⟨?_, _, rfl, fun message member => ?_⟩
        · rw [append_nil]
          exact (List.Sublist.refl _).append (sublist_cons_self _ _)
        · rw [append_nil] at member
          rcases mem_append.mp member with here | waits
          · exact .inl (mem_append_left _ here)
          · rcases mem_cons.mp waits with is | later
            · exact .inr ⟨_, mem_singleton_self _, is.symm, .inl rfl⟩
            · exact .inl (mem_append_right _ later)
      have space := lost.1.length_le
      rw [append_nil] at space
      have later : Orderly [] (withPending { terminal with
          reported := terminal.reported ++ [⟨entry.prim.message, .lost⟩] } rest) after :=
        ih number (space.trans room) stepped
      exact ⟨later.1, lost.silent later.2⟩
    · obtain ⟨result, offered, stepped⟩ := bind_eq_ok.mp stepped
      rcases offerToLink_spec offered with ⟨taken, link, link', rfl, is, is', same, -, reported,
        messages, -⟩ | ⟨rfl, full⟩
      · have moved : (taken.withPending rest).held =
            (terminal.withPending (entry :: rest)).held := by
          rw [held_withPending, held_withPending, linked, is', linked, is, map_some,
            getD_some, messages, append_assoc]
          rfl
        have step : Accounts [] (terminal.withPending (entry :: rest))
            (taken.withPending rest) := .same moved reported
        have number' : ∀ other ∈ taken.link, other.linkNumber = 0 := by
          intro other here
          rw [is', mem_some_iff] at here
          rw [← here, same]
          exact number link is
        obtain ⟨queued, accounts⟩ := ih number' (by rwa [moved]) stepped
        exact ⟨queued, step.silent accounts⟩
      · cases stepped
        refine ⟨⟨number, fun link is => ?_, room⟩, .refl _⟩
        have crowded := full link is (number link is)
        rw [held_withPending, linked, mem_def.mp is, map_some, getD_some,
          length_append, length_map, map_cons, length_cons] at room
        omega

theorem processPending_spec (number : ∀ link ∈ terminal.link, link.linkNumber = 0)
    (room : terminal.held.length ≤ maxPendingAdvancedTlsdusPerLink)
    (stepped : terminal.processPendingAdvancedData now = .ok after) :
    Orderly [] terminal after :=
  drainPending_spec number room stepped

/-! ### PDUs of the terminal -/

variable (queued : terminal.Queued)

include queued

/-- **A setup moves what waits to the link.** -/
theorem Queued.alSetup (sound : terminal.Sound policy) {endpointId : Nat} {request : AlSetup}
    (stepped : terminal.handleAlSetup now endpointId request = .ok after) :
    Orderly [] terminal after := by
  unfold handleAlSetup at stepped
  split at stepped
  · cases stepped
    exact queued.refl
  · split at stepped
    · cases stepped
      exact queued.refl
    · dsimp only at stepped
      generalize (decide (request.report = 1) && _) = awaiting at stepped
      generalize fresh : negotiatedLink now endpointId request awaiting = negotiated at stepped
      have number : negotiated.linkNumber = 0 := by
        rw [← fresh]
        rfl
      have empty : negotiated.tx = [] := by
        rw [← fresh]
        rfl
      split at stepped
      · have confirmed : Accounts [] terminal { terminal with
            link := some ((terminal.link.map (confirmedLink · negotiated)).getD negotiated) } := by
          refine .same ?_ rfl
          cases is : terminal.link with
          | none => rw [held, held_of_none is, linked, map_some, map_none, getD_none, empty]; rfl
          | some link => rw [held_of_link is]; rfl
        have numbered : ∀ link ∈ (some ((terminal.link.map (confirmedLink · negotiated)).getD
            negotiated)), link.linkNumber = 0 := by
          intro link here
          rw [mem_some_iff] at here
          rw [← here]
          cases is : terminal.link with
          | none => exact number
          | some link => exact queued.number link is
        obtain ⟨queued', accounts⟩ := processPending_spec numbered (confirmed.room queued) stepped
        exact ⟨queued', confirmed.silent accounts⟩
      · generalize setupResponse _ _ = response at stepped
        obtain ⟨dropped, lost⟩ := queued.dropLink sound
        have renewed : Accounts [] terminal.dropLink { terminal.dropLink with
            link := some negotiated
            queue := terminal.dropLink.queue ++ response } := by
          refine .same ?_ rfl
          rw [held, linked, map_some, empty]
          rfl
        have numbered : ∀ link ∈ some negotiated, link.linkNumber = 0 := by
          intro link here
          rw [mem_some_iff] at here
          rw [← here, number]
        obtain ⟨queued', accounts⟩ := processPending_spec numbered (renewed.room dropped) stepped
        exact ⟨queued', (lost.silent renewed).silent accounts⟩

theorem Queued.alData {pdu : BitBuffer} (stepped : terminal.handleAlData pdu = .ok after) :
    Orderly [] terminal after := by
  unfold handleAlData at stepped
  split at stepped
  · cases stepped
    exact queued.refl
  next link is =>
    obtain ⟨⟨receiver, outputs⟩, -, stepped⟩ := bind_eq_ok.mp stepped
    cases stepped
    refine queued.relink is rfl rfl rfl (.same ?_ rfl)
    rw [held_of_link is]
    rfl

/-- **A reset ends the receipts of what it abandons.** -/
theorem Queued.beginReset (sound : terminal.Sound policy) (failedNs : Nat) :
    Orderly [] terminal (terminal.beginAdvancedLinkReset failedNs) := by
  unfold beginAdvancedLinkReset
  split
  · exact queued.refl
  next link is =>
    split
    · exact queued.refl
    · obtain ⟨kept, accounted⟩ := splitForReset_messages failedNs link.tx
      have messages (retained : List AdvancedTxSdu) (attempt : TxState) :
          (link.resetting retained attempt).tx.map (·.message) = retained.map (·.message) :=
        mapIdx_messages (fun position sdu => { sdu with ns := position % 8 }) (fun _ _ => rfl)
          retained
      refine queued.relink is rfl rfl rfl (.settle is rfl rfl rfl ?_ fun sdu member => ?_)
      · rw [messages]
        exact kept.map _
      · rw [messages]
        rcases accounted sdu member with still | lost
        · exact .inl (mem_map_of_mem still)
        · exact .inr (ended_markLost [] ((sound link is).2.consistent sdu member) lost)

/-- **An acknowledgement ends the receipts of what it takes.** -/
theorem Queued.alAck (sound : terminal.Sound policy) (covers : Covers policy) (pdu : AlAck) :
    Orderly [] terminal (terminal.handleAlAck now pdu) := by
  have later : Terminal.Sound policy (terminal.handleAlAck now pdu) := (sound.alAck covers pdu).1
  unfold handleAlAck at later ⊢
  split
  · exact queued.refl
  next link is =>
    obtain ⟨narrow, inQueue⟩ := sound link is
    have bounded := (covers _ narrow.1 narrow.2).2
    split
    · exact queued.refl
    · obtain ⟨kept, accounted⟩ := retireReported_messages link pdu.blocks
      obtain ⟨left, -⟩ := inQueue.retireReported pdu.blocks bounded
      obtain ⟨retired, accounted'⟩ := handleBlocks_messages link pdu.blocks bounded left
      dsimp only
      generalize middle : (report _ _ : Terminal) = reported
      have orderly : Orderly [] terminal reported := by
        subst middle
        refine queued.relink is rfl rfl rfl (.settle is rfl rfl rfl (retired.trans kept) ?_)
        intro sdu member
        have done (other : AdvancedTxSdu) (same : other.message = sdu.message)
            (among : other ∈ (link.retireReported pdu.blocks).1 ++
              (link.handleBlocks pdu.blocks (link.retireReported pdu.blocks).2).acknowledged)
            (state : other.reporter = .acknowledged) :
            Ended (((link.retireReported pdu.blocks).1 ++ (link.handleBlocks pdu.blocks
              (link.retireReported pdu.blocks).2).acknowledged).map
                fun sdu => ⟨sdu.message, sdu.reporter⟩) sdu.message :=
          ⟨_, mem_map_of_mem among, same, .inr state⟩
        rcases accounted sdu member with still | passed
        · rcases accounted' sdu still with here | ⟨other, among, same, state⟩
          · exact .inl here
          · exact .inr (done other same (mem_append_right _ among) state)
        · exact .inr (done sdu.markAcknowledged rfl (mem_append_left _ passed)
            (markAcknowledged_reporter (inQueue.consistent sdu member)))
      split
      · have soundReported : reported.Sound policy := by
          subst middle
          intro other here
          replace here := mem_some_iff.mp here
          subst here
          exact ⟨narrow, (left.handleBlocks link pdu.blocks bounded).1⟩
        exact orderly.trans (orderly.1.beginReset soundReported _)
      · exact orderly

theorem Queued.alReconnect (endpointId : Nat) (request : AlReconnect) :
    Orderly [] terminal (terminal.handleAlReconnect endpointId request) := by
  unfold handleAlReconnect
  split
  · exact queued.refl
  · have moved : Orderly [] terminal { terminal with
        link :=
          if request.linkNumber = 0 then
            terminal.link.map fun link => { link with endpointId := endpointId }
          else terminal.link } := by
      split
      · cases is : terminal.link with
        | none =>
          refine ⟨⟨fun other here => absurd here (not_mem_none other),
            fun other here => absurd here (not_mem_none other), ?_⟩, .same ?_ rfl⟩
          · have room := queued.room
            rw [held_of_none is] at room
            exact room
          · rw [held_of_none is]
            rfl
        | some link =>
          refine queued.relink is rfl rfl rfl (.same ?_ rfl)
          rw [held_of_link is]
          rfl
      · exact queued.refl
    exact moved.enqueue _

/-- **A release ends the receipts of everything held.** -/
theorem Queued.alDisconnect (sound : terminal.Sound policy) (request : AlDisconnect) :
    Orderly [] terminal (terminal.handleAlDisconnect request) := by
  unfold handleAlDisconnect
  split
  · exact queued.refl
  · obtain ⟨-, -, ended, reported, accounted⟩ := queued.dropLink sound
    dsimp only
    refine ⟨⟨fun other here => absurd here (not_mem_none other),
      fun other here => absurd here (not_mem_none other), zero_le _⟩,
      nil_sublist _, ended ++ terminal.pending.map fun entry => ⟨entry.prim.message, .lost⟩,
      ?_, fun message member => .inr ?_⟩
    · rw [reported, append_assoc]
    · rw [append_nil] at member
      rcases accounted message (by rwa [append_nil]) with waits | final
      · obtain ⟨entry, there, rfl⟩ := mem_map.mp waits
        exact .append_right _ ⟨⟨entry.prim.message, .lost⟩, mem_map_of_mem there, rfl, .inl rfl⟩
      · exact final.append_left _

/-! ### The end of a tick -/

theorem Queued.superviseReset (sound : terminal.Sound policy) (is : terminal.link = some link)
    (reset : AdvancedLinkReset) : Orderly [] terminal (terminal.superviseReset now link reset) := by
  unfold Terminal.superviseReset
  split
  split
  · split
    · refine queued.relink is rfl rfl rfl (.same ?_ rfl)
      rw [held_of_link is]
      rfl
    · exact queued.dropLink sound
  · refine queued.relink is rfl rfl rfl (.same ?_ rfl)
    rw [held_of_link is]
    rfl

theorem Queued.submitReady (is : terminal.link = some link) (routes : List Nat) :
    Orderly [] terminal (terminal.submitReady now routes link) := by
  have waits : Orderly [] terminal { terminal with link := some (link.resume now) } := by
    refine queued.relink is rfl rfl rfl (.same ?_ rfl)
    rw [held_of_link is]
    rfl
  unfold Terminal.submitReady
  dsimp only
  split
  · exact waits
  · split
    · exact waits
    · split
      · exact waits
      · refine queued.relink is rfl rfl rfl (.same ?_ rfl)
        rw [held_of_link is, held_of_link rfl]
        congr 1
        refine mapIdx_messages _ (fun position sdu => ?_) _
        split <;> rfl

theorem Queued.submit (sound : terminal.Sound policy) (packetRoutes : List Nat) :
    Orderly [] terminal (terminal.submitAdvancedLinkMessages now packetRoutes) := by
  unfold submitAdvancedLinkMessages
  split
  · exact queued.refl
  next link is =>
    split
    · exact queued.superviseReset sound is _
    · split
      · split
        · exact queued.dropLink sound
        · exact queued.refl
      · obtain ⟨narrow, inQueue⟩ := sound link is
        obtain ⟨pointwise, consistent⟩ := QueueSound.observe link now inQueue.consistent
        have observed : Terminal.Sound policy { terminal with
            link := some { link with tx := (link.observe now link.tx).1 } } := by
          intro other here
          cases here
          exact ⟨narrow, inQueue.continues pointwise consistent⟩
        have looked : Orderly [] terminal { terminal with
            link := some { link with tx := (link.observe now link.tx).1 } } := by
          refine queued.relink is rfl rfl rfl (.same ?_ rfl)
          rw [held_of_link is, held_of_link rfl, observe_messages]
          rfl
        dsimp only
        split
        · exact looked.trans (looked.1.beginReset observed _)
        · exact looked.trans (looked.1.submitReady rfl _)

theorem Queued.tickEnd (sound : terminal.Sound policy) {packetRoutes : List Nat}
    (stepped : terminal.tickEnd now packetRoutes = .ok after) : Orderly [] terminal after := by
  obtain ⟨middle, moved, stepped⟩ := bind_eq_ok.mp stepped
  cases stepped
  have first := processPending_spec queued.number queued.room moved
  exact first.trans (first.1.submit (sound.processPending moved).1 packetRoutes)

theorem Queued.macReport (position : Nat) (transmitted : Bool) :
    Orderly [] terminal (terminal.macReport position transmitted) := by
  unfold Terminal.macReport
  cases is : terminal.link with
  | none =>
    rw [map_none, ← is]
    exact queued.refl
  | some link =>
    refine queued.relink is rfl rfl rfl (.same ?_ rfl)
    rw [held_of_link is, held_of_link rfl]
    congr 1
    refine ext_getElem? fun place => ?_
    rw [getElem?_map, getElem?_modify, getElem?_map]
    split
    · rw [Option.map_eq_map, Option.map_map]
      congr 1
      funext sdu
      dsimp only [comp_apply]
      split <;> rfl
    · rw [Option.map_eq_map, Option.map_map]
      rfl

theorem Queued.macReportReset (transmitted : Bool) :
    Orderly [] terminal (terminal.macReportReset transmitted) := by
  unfold Terminal.macReportReset
  cases is : terminal.link with
  | none =>
    rw [map_none, ← is]
    exact queued.refl
  | some link =>
    refine queued.relink is rfl rfl rfl (.same ?_ rfl)
    rw [held_of_link is]
    rfl

def brings (message : Nat) : TerminalEvent → List Nat
  | .request _ _ => [message]
  | _ => []

/-- **One event.** -/
theorem Queued.step (sound : terminal.Sound policy) (covers : Covers policy) {message : Nat}
    {event : TerminalEvent} (stepped : terminal.step now message event = .ok after) :
    Orderly (brings message event) terminal after := by
  cases event with
  | request tlSdu endpointId => exact queued.request stepped
  | alSetup endpointId pdu => exact queued.alSetup sound stepped
  | alData pdu => exact queued.alData stepped
  | alAck pdu =>
    cases stepped
    exact queued.alAck sound covers pdu
  | alReconnect endpointId pdu =>
    cases stepped
    exact queued.alReconnect endpointId pdu
  | alDisconnect pdu =>
    cases stepped
    exact queued.alDisconnect sound pdu
  | macReport position transmitted =>
    cases stepped
    exact queued.macReport position transmitted
  | macReportReset transmitted =>
    cases stepped
    exact queued.macReportReset transmitted
  | tickEnd packetRoutes => exact queued.tickEnd sound stepped

end

end Terminal

/-! ### Runs -/

open Terminal

/-- A terminal that holds messages in the order of their requests. -/
structure Terminal.InOrder (messages : Nat) (terminal : Terminal) : Prop where
  queued : terminal.Queued
  sound : terminal.Sound fun _ => 3
  increasing : terminal.held.Pairwise (· < ·)
  requested : ∀ message ∈ terminal.held, message < messages

theorem Terminal.InOrder.later {messages more : Nat} (order : terminal.InOrder messages)
    (grown : messages ≤ more) : terminal.InOrder more :=
  ⟨order.queued, order.sound, order.increasing,
    fun message member => (order.requested message member).trans_le grown⟩

/-- **One event of one terminal.** -/
theorem Terminal.InOrder.step {messages : Nat} {event : TerminalEvent}
    (order : terminal.InOrder messages) (stepped : terminal.step now messages event = .ok after) :
    after.InOrder (messages + 1) ∧ Accounts (brings messages event) terminal after := by
  obtain ⟨queued, accounts⟩ := order.queued.step order.sound covers_largest stepped
  have sound := (terminal_step covers_largest order.sound
    (fun _ _ _ _ _ _ => .inl (le_refl 3)) stepped).1
  have new : ∀ message ∈ brings messages event, message = messages := by
    intro message member
    cases event with
    | request => exact mem_singleton.mp member
    | _ => cases member
  have increasing : (terminal.held ++ brings messages event).Pairwise (· < ·) := by
    refine pairwise_append.mpr ⟨order.increasing, ?_, fun old held fresh brought => ?_⟩
    · cases event with
      | request => exact pairwise_singleton _ _
      | _ => exact .nil
    · rw [new fresh brought]
      exact order.requested old held
  refine ⟨⟨queued, sound, increasing.sublist accounts.1, fun message member => ?_⟩, accounts⟩
  rcases mem_append.mp (accounts.1.subset member) with old | fresh
  · exact lt_succ_of_lt (order.requested message old)
  · rw [new message fresh]
    exact lt_succ_self messages

variable {llc next : AdvancedLlc}

/-- **Order, room and receipts in every reachable state.** -/
theorem reachable_inOrder (reachable : Reachable machine always llc) (issi : Nat) :
    (llc.terminals issi).InOrder llc.messages := by
  have starts : ∀ llc, machine.start llc → ∀ issi, (llc.terminals issi).InOrder llc.messages := by
    intro llc is issi
    rw [show llc = .new from is]
    exact ⟨⟨fun link here => absurd here (not_mem_none link), fun _ _ => rfl, zero_le _⟩,
      sound_new issi, .nil, nofun⟩
  have keeps : ∀ state event next, (∀ issi, (state.terminals issi).InOrder state.messages) →
      always state event → machine.step state event = some next →
      ∀ issi, (next.terminals issi).InOrder next.messages := by
    intro state event next order _ stepped issi
    change state.step event = some next at stepped
    cases event with
    | tickStart time =>
      cases stepped
      exact order issi
    | terminal other change =>
      dsimp only [AdvancedLlc.step] at stepped
      split at stepped
      · cases stepped
      next after handled =>
        cases stepped
        dsimp only
        by_cases here : issi = other
        · rw [here, update_self]
          exact ((order other).step handled).1
        · rw [update_of_ne here]
          exact (order issi).later (le_succ _)
  exact reachable.invariant starts keeps issi

theorem messages_step {event : LlcEvent} (stepped : llc.step event = some next) :
    llc.messages ≤ next.messages := by
  cases event with
  | tickStart time =>
    rw [AdvancedLlc.step, some_inj] at stepped
    rw [← stepped]
  | terminal issi change =>
    dsimp only [AdvancedLlc.step] at stepped
    split at stepped
    · cases stepped
    · cases stepped
      exact le_succ _

theorem messages_grow (run : Runs machine always llc next) : llc.messages ≤ next.messages := by
  have keeps : ∀ state event next, llc.messages ≤ state.messages → always state event →
      machine.step state event = some next → llc.messages ≤ next.messages := by
    intro state event next grown _ stepped
    exact grown.trans (messages_step stepped)
  exact run.invariant keeps (le_refl llc.messages)

/-- What is held later was held before or is requested later. -/
theorem held_later (reachable : Reachable machine always llc)
    (run : Runs machine always llc next) (issi : Nat) :
    ∀ message ∈ (next.terminals issi).held,
      message ∈ (llc.terminals issi).held ∨ llc.messages ≤ message := by
  induction run with
  | refl => exact fun message member => .inl member
  | @tail middle last before stepped ih =>
    obtain ⟨event, -, stepped⟩ := stepped
    change middle.step event = some last at stepped
    have order := reachable_inOrder (reachable.runs before)
    have grown : llc.messages ≤ middle.messages := messages_grow before
    cases event with
    | tickStart time =>
      cases stepped
      exact ih
    | terminal other change =>
      dsimp only [AdvancedLlc.step] at stepped
      split at stepped
      · cases stepped
      next after handled =>
        cases stepped
        dsimp only
        by_cases here : issi = other
        · subst here
          rw [update_self]
          intro message member
          rcases mem_append.mp (((order issi).step handled).2.1.subset member) with old | fresh
          · exact ih message old
          · cases change with
            | request =>
              rw [mem_singleton.mp fresh]
              exact .inr grown
            | _ => cases fresh
        · rw [update_of_ne here]
          exact ih

/-- **Requests are sent in order, wait only for a link, and never end silently.** In every reachable
state a terminal holds its messages in the order of their requests, and what the link is handed later
was requested later; at most 64 are held, and none waits while there is a link; and what an event
takes from the queues, or does not take into them, has its receipt ended as lost or acknowledged. -/
theorem requests_in_order {llc : AdvancedLlc}
    (reachable : Reachable machine always llc) (issi : Nat) :
    (llc.terminals issi).held.Pairwise (· < ·) ∧ (∀ next, Runs machine always llc next →
        ∀ earlier ∈ (llc.terminals issi).linked, ∀ later ∈ (next.terminals issi).linked,
          later ∉ (llc.terminals issi).linked → earlier < later) ∧
      (llc.terminals issi).held.length ≤ maxPendingAdvancedTlsdusPerLink ∧
      (∀ link, (llc.terminals issi).link = some link → (llc.terminals issi).pending = []) ∧
      ∀ event next, llc.step (.terminal issi event) = some next →
        ∃ ended, (next.terminals issi).reported = (llc.terminals issi).reported ++ ended ∧
          ∀ message ∈ (llc.terminals issi).held ++ brings llc.messages event,
            message ∈ (next.terminals issi).held ∨ Ended ended message := by
  have order := reachable_inOrder reachable issi
  refine ⟨order.increasing, fun next run earlier linked later handed new => ?_, order.queued.room,
    fun link is => order.queued.waits link is, fun event next stepped => ?_⟩
  · have requested := order.requested earlier (mem_append_left _ linked)
    rcases held_later reachable run issi later (mem_append_left _ handed) with held | fresh
    · rcases mem_append.mp held with here | waits
      · exact absurd here new
      · -- with a link nothing waits
        cases is : (llc.terminals issi).link with
        | none =>
          rw [Terminal.linked, is] at linked
          cases linked
        | some link =>
          rw [waiting, order.queued.waits link is] at waits
          cases waits
    · exact requested.trans_le fresh
  · dsimp only [AdvancedLlc.step] at stepped
    split at stepped
    · cases stepped
    next after handled =>
      cases stepped
      dsimp only
      rw [update_self]
      exact (order.step handled).2.2

/-- Two requests wait for a link, and a setup hands both to it. -/
theorem requests_in_order_setup :
    ∃ llc : AdvancedLlc, ((llc.terminals 1).linked = [0, 1] ∧ (llc.terminals 1).pending = []) ∧
      (llc.terminals 1).held.Pairwise (· < ·) ∧
      ∀ event next, llc.step (.terminal 1 event) = some next →
        ∃ ended, (next.terminals 1).reported = (llc.terminals 1).reported ++ ended ∧
          ∀ message ∈ (llc.terminals 1).held ++ brings llc.messages event,
            message ∈ (next.terminals 1).held ∨ Ended ended message := by
  obtain ⟨llc, reached, handed⟩ := reachable_exec
    (fun llc => (llc.terminals 1).linked = [0, 1] ∧ (llc.terminals 1).pending = [])
    [requestEvent 5, requestEvent 6, setupEvent 3 1] (show machine.start .new from rfl)
    (by decide +kernel)
  obtain ⟨ordered, -, -, -, accounted⟩ := requests_in_order reached 1
  exact ⟨llc, handed, ordered, accounted⟩

end Bluestation
