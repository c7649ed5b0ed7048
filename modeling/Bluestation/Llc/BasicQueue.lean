/-
**The messages of the basic link, one by one and in their queue.**

* `submitted_of_submit`, `tried_of_retry` — a fresh attempt, and the end of a timeslot.
* `take_some` — the message that is out for a terminal is its oldest.
* `submitFree_spec`, `retryMessages_spec` — the passes over the queue keep it in turn.
-/

import Bluestation.Lib.SharedQueue
import Bluestation.Llc.BasicLink

namespace Bluestation

open Bits Machines Queues List Option Except TxReporter

variable {Key : Type}

/-- A request with the PDU, the address and the protection of another one; the channel may differ. -/
structure TmaUnitdataReq.CopyOf (req original : TmaUnitdataReq Key) : Prop where
  pdu : req.pdu = original.pdu
  mainAddress : req.mainAddress = original.mainAddress
  airInterfaceEncryption : req.airInterfaceEncryption = original.airInterfaceEncryption

namespace ExpectedInAck

def ssi (ack : ExpectedInAck Key) : Nat := ack.addr.ssi

def Outstanding (ack : ExpectedInAck Key) : Prop := ack.tSubmittedToUmac.isSome

def SomeTransmitted (ack : ExpectedInAck Key) : Prop :=
  ∃ copy ∈ ack.attempt, copy.reporter.isTransmitted

/-- The same message, further on. -/
structure Same (before after : ExpectedInAck Key) : Prop where
  message : after.message = before.message
  addr : after.addr = before.addr
  ns : after.ns = before.ns
  buffer : after.retransmissionBuf = before.retransmissionBuf

theorem Same.refl (ack : ExpectedInAck Key) : ack.Same ack := ⟨rfl, rfl, rfl, rfl⟩

theorem Same.trans {first second third : ExpectedInAck Key} (early : first.Same second)
    (late : second.Same third) : first.Same third :=
  ⟨late.message.trans early.message, late.addr.trans early.addr, late.ns.trans early.ns,
    late.buffer.trans early.buffer⟩

theorem Same.aieRequest {before after : ExpectedInAck Key} (same : before.Same after) :
    after.aieRequest = before.aieRequest := by
  rw [ExpectedInAck.aieRequest, ExpectedInAck.aieRequest, same.addr, same.buffer]

/-- **What the fields of a message say**, given the messages that reached the air. -/
structure Sound (aired : List Nat) (ack : ExpectedInAck Key) : Prop where
  waits : ack.tSubmittedToUmac = none → ack.attempt = [] ∧ ack.tUmacDone = none ∧
    ack.hasTransmittedAttempt = false ∧ ack.message ∉ aired
  noted : ack.hasTransmittedAttempt → ack.message ∈ aired
  copies : ack.SomeTransmitted → ack.message ∈ aired
  traced : ack.message ∈ aired → ack.hasTransmittedAttempt ∨ ack.SomeTransmitted
  observed : 0 < ack.observedTransmittedCopies → ack.hasTransmittedAttempt
  receipt : ack.txReporter.state = .pending ∨
    (ack.txReporter.state = .transmitted ∧ ack.hasTransmittedAttempt)
  done : ack.tUmacDone.isSome → ack.hasTransmittedAttempt ∨
    ∀ copy ∈ ack.attempt, copy.reporter.state = .discarded

end ExpectedInAck

/-! ### Receipts -/

namespace TxReporter

variable {reporter : TxReporter}

theorem isTransmitted_of_state (is : reporter.state = .transmitted) : reporter.isTransmitted := by
  rw [isTransmitted, is]

theorem not_isTransmitted_of_pending (is : reporter.state = .pending) :
    reporter.isTransmitted = false := by
  rw [isTransmitted, is]

theorem settleTransmitted_state (is : reporter.state = .pending ∨ reporter.state = .transmitted) :
    reporter.settleTransmitted.state = .transmitted := by
  unfold settleTransmitted
  rcases is with waits | sent
  · rw [not_isTransmitted_of_pending waits]
    rfl
  · rw [isTransmitted_of_state sent, if_pos rfl, sent]

theorem mark_ok {new : TxReporter} {currState newState : TxState}
    (marked : reporter.mark currState newState = .ok new) :
    reporter.state = currState ∧ new = { reporter with state := newState } := by
  unfold mark at marked
  split at marked
  next here =>
    rw [ok.injEq] at marked
    exact ⟨here, marked.symm⟩
  · cases marked

theorem giveUp_state {after : TxReporter}
    (is : reporter.state = .pending ∨ reporter.state = .transmitted)
    (given : reporter.giveUp = .ok after) : after.state = .lost := by
  have marks (marked : reporter.settleTransmitted.markLost = .ok after) : after.state = .lost := by
    obtain ⟨-, -, marked⟩ := bind_eq_ok.mp marked
    exact (mark_ok marked).2 ▸ rfl
  unfold giveUp at given
  rcases is with waits | sent
  · rw [waits] at given
    exact marks given
  · rw [sent] at given
    exact marks given

end TxReporter

theorem AttemptCopy.report_ok {copy new : AttemptCopy} {transmitted : Bool}
    (reported : copy.report transmitted = .ok new) : copy.reporter.state = .pending ∧
      new.reporter.state = if transmitted then .transmitted else .discarded := by
  cases transmitted with
  | false =>
    obtain ⟨reporter, marked, is⟩ := bind_eq_ok.mp reported
    obtain ⟨waits, rfl⟩ := mark_ok marked
    rw [ok.injEq] at is
    exact ⟨waits, is ▸ rfl⟩
  | true =>
    obtain ⟨reporter, marked, is⟩ := bind_eq_ok.mp reported
    obtain ⟨waits, rfl⟩ := mark_ok marked
    rw [ok.injEq] at is
    exact ⟨waits, is ▸ rfl⟩

namespace ExpectedInAck

variable {ack : ExpectedInAck Key} {aired : List Nat}

section

variable (sound : ack.Sound aired)

include sound

theorem Sound.pendingOrTransmitted :
    ack.txReporter.state = .pending ∨ ack.txReporter.state = .transmitted :=
  sound.receipt.imp_right And.left

theorem Sound.noted_of_receipt (marked : ack.txReporter.isTransmitted) :
    ack.hasTransmittedAttempt := by
  rcases sound.receipt with waits | ⟨-, noted⟩
  · rw [not_isTransmitted_of_pending waits] at marked
    cases marked
  · exact noted

theorem Sound.outstanding (member : ack.message ∈ aired) : ack.Outstanding := by
  by_contra waits
  rw [Outstanding, Bool.not_eq_true, isSome_eq_false_iff, isNone_iff_eq_none] at waits
  exact (sound.waits waits).2.2.2 member

theorem Sound.outstanding_of_done (done : ack.tUmacDone.isSome) : ack.Outstanding := by
  by_contra waits
  rw [Outstanding, Bool.not_eq_true, isSome_eq_false_iff, isNone_iff_eq_none] at waits
  rw [(sound.waits waits).2.1] at done
  cases done

theorem Sound.outstanding_of_copy {copy : AttemptCopy} (member : copy ∈ ack.attempt) :
    ack.Outstanding := by
  by_contra waits
  rw [Outstanding, Bool.not_eq_true, isSome_eq_false_iff, isNone_iff_eq_none] at waits
  rw [(sound.waits waits).1] at member
  exact not_mem_nil member

theorem Sound.mono {aired' : List Nat} (grown : ∀ message ∈ aired, message ∈ aired')
    (other : ack.message ∈ aired' → ack.message ∈ aired) : ack.Sound aired' where
  waits none' := ⟨(sound.waits none').1, (sound.waits none').2.1, (sound.waits none').2.2.1,
      fun member => (sound.waits none').2.2.2 (other member)⟩
  noted marked := grown _ (sound.noted marked)
  copies marked := grown _ (sound.copies marked)
  traced member := sound.traced (other member)
  observed := sound.observed
  receipt := sound.receipt
  done := sound.done

/-- A copy is reported. -/
theorem Sound.report {aired' : List Nat} {copy new : AttemptCopy} {position : Nat}
    {transmitted : Bool} (is : ack.attempt[position]? = some copy)
    (reported : copy.report transmitted = .ok new) (grown : ∀ message ∈ aired, message ∈ aired')
    (only : ∀ message ∈ aired', message ∈ aired ∨ (message = ack.message ∧ transmitted))
    (mine : transmitted → ack.message ∈ aired') :
    ({ ack with attempt := ack.attempt.set position new } : ExpectedInAck Key).Sound aired' := by
  obtain ⟨pending, state⟩ := AttemptCopy.report_ok reported
  have out := sound.outstanding_of_copy (List.mem_of_getElem? is)
  obtain ⟨within, here⟩ := List.getElem?_eq_some_iff.mp is
  refine ⟨fun none' => ?_, fun marked => grown _ (sound.noted marked), ?_, fun member => ?_,
    sound.observed, sound.receipt, fun done => ?_⟩
  · rw [Outstanding, none'] at out
    cases out
  · rintro ⟨other, member, marked⟩
    rcases mem_or_eq_of_mem_set member with old | rfl
    · exact grown _ (sound.copies ⟨other, old, marked⟩)
    · refine mine ?_
      by_contra no
      rw [isTransmitted, state, if_neg no] at marked
      cases marked
  · rcases only _ member with past | ⟨-, yes⟩
    · refine (sound.traced past).imp_right ?_
      rintro ⟨other, there, marked⟩
      -- the copy that was on the air is another one: the reported one was pending
      obtain ⟨place, inside, rfl⟩ := getElem_of_mem there
      have ne : position ≠ place := by
        rintro rfl
        rw [here, not_isTransmitted_of_pending pending] at marked
        cases marked
      refine ⟨ack.attempt[place], mem_iff_getElem.mpr ⟨place, ?_, ?_⟩, marked⟩
      · rwa [length_set]
      · exact getElem_set_ne ne _
    · refine .inr ⟨new, mem_set within new, ?_⟩
      rw [isTransmitted, state, if_pos yes]
  · refine (sound.done done).imp_right fun all => ?_
    have gone := all copy (mem_of_getElem? is)
    cases pending.symm.trans gone

end

/-! ### An attempt -/

/-- What a fresh attempt leaves of a message, and what is handed to the MAC. -/
structure Submitted (before after : ExpectedInAck Key) (sent : List (TmaUnitdataReq Key)) : Prop where
  same : before.Same after
  outstanding : after.Outstanding
  open' : after.tUmacDone = none
  noted : after.hasTransmittedAttempt = before.hasTransmittedAttempt
  receipt : after.txReporter = before.txReporter
  observed : after.observedTransmittedCopies = 0
  fresh : ∀ copy ∈ after.attempt, copy.reporter = .new
  some' : sent ≠ []
  sends : ∀ req ∈ sent, req.CopyOf before.retransmissionBuf

theorem submitted_of_submit {config : SharedConfig} {dltime : TdmaTime} {after : ExpectedInAck Key}
    {sent : List (TmaUnitdataReq Key)}
    (ran : ack.submitForAcknowledgedTransmission config dltime = .ok (after, sent)) :
    ack.Submitted after sent := by
  unfold submitForAcknowledgedTransmission at ran
  dsimp only at ran
  split at ran
  · split at ran
    · cases ran
    · obtain ⟨rfl, rfl⟩ := ran
      refine ⟨⟨rfl, rfl, rfl, rfl⟩, rfl, rfl, rfl, rfl, rfl, fun copy member => ?_,
        cons_ne_nil _ _, fun req member => ?_⟩
      · rw [mem_singleton.mp member]
      · rw [mem_singleton.mp member]
        exact ⟨rfl, rfl, rfl⟩
  · obtain ⟨rfl, rfl⟩ := ran
    refine ⟨⟨rfl, rfl, rfl, rfl⟩, rfl, rfl, rfl, rfl, rfl, fun copy member => ?_, ?_,
      fun req member => ?_⟩
    · obtain ⟨place, -, rfl⟩ := mem_map.mp member
      rfl
    · rw [ne_eq, map_eq_nil_iff, append_eq_nil_iff]
      rintro ⟨noRoute, noMain⟩
      -- a packet message stays off the main control channel only for the route it asked for
      split at noMain
      next packet =>
        obtain ⟨route, is⟩ := isSome_iff_exists.mp (Bool.and_eq_true_iff.mp packet).2
        rw [attemptRoutes, is] at noRoute
        cases noRoute
      · cases noMain
    · obtain ⟨place, -, rfl⟩ := mem_map.mp member
      exact ⟨rfl, rfl, rfl⟩

theorem Submitted.sound {after : ExpectedInAck Key} {sent : List (TmaUnitdataReq Key)}
    (submitted : ack.Submitted after sent) (sound : ack.Sound aired)
    (noted : ack.SomeTransmitted → ack.hasTransmittedAttempt) : after.Sound aired := by
  have nothing : ¬ after.SomeTransmitted := by
    rintro ⟨copy, member, marked⟩
    rw [submitted.fresh copy member] at marked
    cases marked
  refine ⟨fun waits => ?_, fun marked => ?_, fun marked => absurd marked nothing, fun member => ?_,
    fun positive => ?_, ?_, fun done => ?_⟩
  · have out := submitted.outstanding
    rw [Outstanding, waits] at out
    cases out
  · rw [submitted.same.message]
    exact sound.noted (submitted.noted ▸ marked)
  · rw [submitted.same.message] at member
    rw [submitted.noted]
    exact .inl ((sound.traced member).elim id noted)
  · rw [submitted.observed] at positive
    cases positive
  · rw [submitted.receipt, submitted.noted]
    exact sound.receipt
  · rw [submitted.open'] at done
    cases done

/-! ### The end of a timeslot -/

theorem observe_same (now : TdmaTime) : ack.Same (ack.observe now) := by
  unfold observe
  dsimp only
  split
  · exact ⟨rfl, rfl, rfl, rfl⟩
  · split
    · exact ⟨rfl, rfl, rfl, rfl⟩
    · exact .refl ack

theorem observe_submitted (now : TdmaTime) :
    (ack.observe now).tSubmittedToUmac = ack.tSubmittedToUmac := by
  unfold observe
  dsimp only
  split
  · rfl
  · split
    · rfl
    · rfl

theorem someTransmitted_iff : ack.SomeTransmitted ↔
    0 < ack.attempt.countP (·.reporter.isTransmitted) := by
  rw [countP_pos_iff]
  rfl

/-- **Receipts are noted as they are.** -/
theorem Sound.observe (sound : ack.Sound aired) (now : TdmaTime) : (ack.observe now).Sound aired ∧
      ((ack.observe now).SomeTransmitted → (ack.observe now).hasTransmittedAttempt) := by
  unfold ExpectedInAck.observe
  dsimp only
  split
  next more =>
    have some' : ack.SomeTransmitted := someTransmitted_iff.mpr (Nat.zero_lt_of_lt more)
    have member := sound.copies some'
    have out := sound.outstanding member
    refine ⟨⟨fun waits => ?_, fun _ => member, fun _ => member, fun _ => .inl rfl, fun _ => rfl,
      .inr ⟨settleTransmitted_state sound.pendingOrTransmitted, rfl⟩,
      fun _ => .inl rfl⟩, fun _ => rfl⟩
    rw [Outstanding, waits] at out
    cases out
  next few =>
    have noted : ack.SomeTransmitted → ack.hasTransmittedAttempt := by
      intro marked
      exact sound.observed ((someTransmitted_iff.mp marked).trans_le (Nat.le_of_not_lt few))
    split
    next all =>
      rw [Bool.and_eq_true, Bool.and_eq_true, Bool.not_eq_true', isEmpty_eq_false_iff,
        List.all_eq_true] at all
      refine ⟨⟨fun waits => ?_, sound.noted, sound.copies, sound.traced, sound.observed,
        sound.receipt, fun _ => ?_⟩, noted⟩
      · exact absurd (sound.waits waits).1 all.2.1
      · by_cases marked : ack.SomeTransmitted
        · exact .inl (noted marked)
        · refine .inr fun copy member => ?_
          have finished := all.2.2 copy member
          rw [Bool.or_eq_true] at finished
          rcases finished with sent | gone
          · exact absurd ⟨copy, member, sent⟩ marked
          · exact of_decide_eq_true gone
    · exact ⟨sound, noted⟩

/-- What the end of a timeslot makes of a message. -/
structure Tried (aired : List Nat) (before : ExpectedInAck Key) (one : Retried Key) : Prop where
  same : before.Same one.ack
  outstanding : one.ack.Outstanding ↔ before.Outstanding
  sound : one.ack.Sound aired
  over' : one.exhausted → one.ack.tUmacDone.isSome
  sends : ∀ req ∈ one.sent, req.CopyOf before.retransmissionBuf

theorem tried_of_retry {config : SharedConfig} {now : TdmaTime} {one : Retried Key}
    (sound : ack.Sound aired) (ran : ack.retry config now = .ok one) :
    ack.Tried aired one := by
  have same := ack.observe_same now
  have kept : (ack.observe now).Outstanding ↔ ack.Outstanding := by
    rw [Outstanding, Outstanding, observe_submitted]
  obtain ⟨observed, noted⟩ := sound.observe now
  have idle (exhausted : Bool) (over' : exhausted → (ack.observe now).tUmacDone.isSome) :
      ack.Tried aired ⟨ack.observe now, [], exhausted⟩ :=
    ⟨same, kept, observed, over', fun req member => nomatch member⟩
  unfold retry at ran
  dsimp only at ran
  split at ran
  · cases ran
    exact idle false fun no => absurd no Bool.false_ne_true
  next done is =>
    have isDone : (ack.observe now).tUmacDone.isSome := by rw [is]; rfl
    split at ran
    · cases ran
      exact idle false fun no => absurd no Bool.false_ne_true
    · split at ran
      · cases ran
        exact idle false fun no => absurd no Bool.false_ne_true
      · split at ran
        · obtain ⟨⟨again, sent⟩, submits, ran⟩ := bind_eq_ok.mp ran
          rw [ok.injEq] at ran
          have submitted := submitted_of_submit submits
          have sound' : ({ ack.observe now with
              retransmitCount := (ack.observe now).retransmitCount + 1 }).Sound aired :=
            ⟨observed.waits, observed.noted, observed.copies, observed.traced, observed.observed,
              observed.receipt, observed.done⟩
          rw [← ran]
          refine ⟨same.trans ⟨submitted.same.message, submitted.same.addr, submitted.same.ns,
            submitted.same.buffer⟩, ?_, submitted.sound sound' noted, fun no => absurd no Bool.false_ne_true, ?_⟩
          · refine ⟨fun _ => kept.mp (observed.outstanding_of_done isDone), fun _ => ?_⟩
            exact submitted.outstanding
          · intro req member
            rw [← same.buffer]
            exact submitted.sends req member
        · cases ran
          exact idle _ fun _ => isDone

theorem noteReport_same : ack.Same ack.noteReport := by
  unfold noteReport
  split
  · exact ⟨rfl, rfl, rfl, rfl⟩
  · exact .refl ack

theorem Sound.noteReport (sound : ack.Sound aired) : ack.noteReport.Sound aired := by
  unfold ExpectedInAck.noteReport
  split
  next both =>
    rw [Bool.and_eq_true, Bool.or_eq_true, List.any_eq_true] at both
    have member : ack.message ∈ aired := by
      rcases both.2 with marked | ⟨copy, there, marked⟩
      · exact sound.noted (sound.noted_of_receipt marked)
      · exact sound.copies ⟨copy, there, marked⟩
    refine ⟨fun waits => ?_, fun _ => member, sound.copies, fun _ => .inl rfl, fun _ => rfl,
      .inr ⟨settleTransmitted_state sound.pendingOrTransmitted, rfl⟩, fun _ => .inl rfl⟩
    exact absurd member (sound.waits waits).2.2.2
  · exact sound

/-- **A message counts as transmitted once it was on the air**, or when all its copies are seen
discarded. -/
theorem Sound.countsTransmitted (sound : ack.Sound aired) :
    ¬ (ack.noteReport.tUmacDone.isNone ∧ ¬ ack.noteReport.hasTransmittedAttempt) ↔
      ack.message ∈ aired ∨ ack.tUmacDone.isSome := by
  have done : ack.noteReport.tUmacDone = ack.tUmacDone := by
    unfold ExpectedInAck.noteReport
    split
    · rfl
    · rfl
  rw [not_and, not_not, done]
  refine ⟨fun counts => ?_, fun either open' => ?_⟩
  · by_cases isDone : ack.tUmacDone.isSome
    · exact .inr isDone
    · refine .inl ?_
      have noted := sound.noteReport.noted (counts (by simpa using isDone))
      rwa [noteReport_same.message] at noted
  · rcases either with member | isDone
    · rcases sound.traced member with noted | ⟨copy, there, marked⟩
      · unfold ExpectedInAck.noteReport
        split
        · rfl
        · exact noted
      · unfold ExpectedInAck.noteReport
        rw [if_pos]
        rw [Bool.and_eq_true, Bool.or_eq_true, List.any_eq_true]
        exact ⟨open', .inr ⟨copy, there, marked⟩⟩
    · rw [isNone_iff_eq_none] at open'
      rw [open'] at isDone
      cases isDone

end ExpectedInAck

/-! ### Passes over the queue -/

/-- The messages of a terminal stand in the order of their requests, and only the first is out. -/
abbrev MessagesInTurn (queue : List (ExpectedInAck Key)) : Prop :=
  InTurn ExpectedInAck.ssi ExpectedInAck.Outstanding ExpectedInAck.message queue

variable {queue after rest : List (ExpectedInAck Key)} {ack : ExpectedInAck Key} {aired : List Nat}
  {ssi : Nat} {config : SharedConfig} {now : TdmaTime}

/-- **The message taken for a terminal is out for it.** -/
theorem take_some (taken : takeExpectedAckForSsi ssi queue = some (ack, rest)) :
    ack.ssi = ssi ∧ ack.Outstanding ∧
      ∃ front back, queue = front ++ ack :: back ∧ rest = front ++ back := by
  induction queue generalizing rest with
  | nil => cases taken
  | cons first others ih =>
    unfold takeExpectedAckForSsi at taken
    split at taken
    next here =>
      obtain ⟨rfl, rfl⟩ := taken
      exact ⟨here.1, here.2, [], others, rfl, rfl⟩
    · obtain ⟨⟨found, remaining⟩, further, is⟩ := map_eq_some_iff.mp taken
      obtain ⟨rfl, rfl⟩ := is
      obtain ⟨owner, out, front, back, rfl, rfl⟩ := ih further
      exact ⟨owner, out, first :: front, back, rfl, rfl⟩

theorem take_none (taken : takeExpectedAckForSsi ssi queue = none) :
    ∀ ack ∈ queue, ack.ssi = ssi → ¬ ack.Outstanding := by
  induction queue with
  | nil => exact fun ack member => nomatch member
  | cons first others ih =>
    unfold takeExpectedAckForSsi at taken
    split at taken
    · cases taken
    next elsewhere =>
      have further := ih (map_eq_none_iff.mp taken)
      intro ack member same out
      rcases mem_cons.mp member with rfl | there
      · exact elsewhere ⟨same, out⟩
      · exact further ack there same out

def SendsCopies (queue : List (ExpectedInAck Key)) (sent : List (Nat × TmaUnitdataReq Key)) : Prop :=
  ∀ pair ∈ sent, ∃ ack ∈ queue, pair.1 = ack.message ∧ pair.2.CopyOf ack.retransmissionBuf

theorem retryMessages_spec {retried : List (Retried Key)} (sound : ∀ ack ∈ queue, ack.Sound aired)
    (ran : retryMessages config now queue = .ok retried) :
    List.Forall₂ (ExpectedInAck.Tried aired) queue retried := by
  induction queue generalizing retried with
  | nil =>
    cases ran
    exact .nil
  | cons ack others ih =>
    obtain ⟨one, tried, ran⟩ := bind_eq_ok.mp ran
    obtain ⟨remaining, further, ran⟩ := bind_eq_ok.mp ran
    cases ran
    refine .cons (ExpectedInAck.tried_of_retry (sound ack mem_cons_self) tried) ?_
    exact ih (fun other member => sound other (mem_cons_of_mem _ member)) further

/-- A message of which some attempt may have begun. -/
structure ExpectedInAck.Freed (aired : List Nat) (before after : ExpectedInAck Key) : Prop where
  same : before.Same after
  sound : after.Sound aired
  kept : before.Outstanding → after = before

/-- A message whose terminal is free is handed to the MAC. -/
theorem ExpectedInAck.Submitted.freed {after : ExpectedInAck Key}
    {sent : List (TmaUnitdataReq Key)} (submitted : ack.Submitted after sent)
    (sound : ack.Sound aired) (waits : ¬ ack.Outstanding) : ack.Freed aired after := by
  refine ⟨submitted.same, submitted.sound sound ?_, fun out => absurd out waits⟩
  rintro ⟨copy, member, marked⟩
  exact absurd (sound.outstanding (sound.copies ⟨copy, member, marked⟩)) waits

/-- What the pass over the waiting messages leaves. -/
structure FreedAll (aired blocked : List Nat) (queue after : List (ExpectedInAck Key))
    (sent : List (Nat × TmaUnitdataReq Key)) : Prop where
  each : List.Forall₂ (ExpectedInAck.Freed aired) queue after
  turn : MessagesInTurn after
  idle : ∀ ack ∈ after, ack.ssi ∈ blocked → ¬ ack.Outstanding
  sends : SendsCopies queue sent
  hands : ∀ ack ∈ after, ack.Outstanding →
    (∃ old ∈ queue, old.message = ack.message ∧ old.Outstanding) ∨
      ∃ pair ∈ sent, pair.1 = ack.message

/-- One more message in front, whose terminal is blocked for those behind, and its copies. -/
theorem FreedAll.cons {blocked seen : List Nat} {sent : List (Nat × TmaUnitdataReq Key)}
    {new : ExpectedInAck Key} {copies : List (TmaUnitdataReq Key)}
    (freed : FreedAll aired seen queue after sent) (turn : MessagesInTurn (ack :: queue))
    (one : ack.Freed aired new) (mine : ack.ssi ∈ seen) (grown : ∀ owner ∈ blocked, owner ∈ seen)
    (idle : ack.ssi ∈ blocked → ¬ new.Outstanding)
    (copied : ∀ req ∈ copies, req.CopyOf ack.retransmissionBuf)
    (hands : new.Outstanding → ack.Outstanding ∨ copies ≠ []) :
    FreedAll aired blocked (ack :: queue) (new :: after) (copies.map (ack.message, ·) ++ sent) := by
  have owner : new.ssi = ack.ssi := congrArg TetraAddress.ssi one.same.addr
  refine ⟨.cons one freed.each, pairwise_cons.mpr ⟨fun later member same => ?_, freed.turn⟩,
    fun other member isBlocked => ?_, fun pair member => ?_, fun other member out => ?_⟩
  · rw [owner] at same
    refine ⟨freed.idle later member (same ▸ mine), ?_⟩
    obtain ⟨place, within, rfl⟩ := getElem_of_mem member
    have long : place < queue.length := by rwa [freed.each.length_eq]
    have kept := (freed.each.get long within).same
    simp only [get_eq_getElem] at kept
    rw [one.same.message, kept.message]
    have behind := (pairwise_cons.mp turn).1 _ (getElem_mem long)
    exact (behind (same.trans (congrArg TetraAddress.ssi kept.addr))).2
  · rcases mem_cons.mp member with rfl | there
    · exact idle (owner ▸ isBlocked)
    · exact freed.idle other there (grown _ isBlocked)
  · rcases mem_append.mp member with mine' | others
    · obtain ⟨req, there, rfl⟩ := mem_map.mp mine'
      exact ⟨ack, mem_cons_self, rfl, copied req there⟩
    · obtain ⟨old, among, same⟩ := freed.sends pair others
      exact ⟨old, mem_cons_of_mem _ among, same⟩
  · rcases mem_cons.mp member with rfl | there
    · rw [one.same.message]
      refine (hands out).imp (fun was => ⟨ack, mem_cons_self, rfl, was⟩) fun some' => ?_
      obtain ⟨req, among⟩ := exists_mem_of_ne_nil _ some'
      exact ⟨_, mem_append_left _ (mem_map_of_mem among), rfl⟩
    · rcases freed.hands other there out with ⟨old, among, same, was⟩ | ⟨pair, among, same⟩
      · exact .inl ⟨old, mem_cons_of_mem _ among, same, was⟩
      · exact .inr ⟨pair, mem_append_right _ among, same⟩

/-- **At most one message of a terminal is handed to the MAC**, the oldest. -/
theorem submitFree_spec {blocked : List Nat} {sent : List (Nat × TmaUnitdataReq Key)}
    (turn : MessagesInTurn queue) (sound : ∀ ack ∈ queue, ack.Sound aired)
    (idle : ∀ ack ∈ queue, ack.ssi ∈ blocked → ¬ ack.Outstanding)
    (ran : submitFreeMessages config now blocked queue = .ok (after, sent)) :
    FreedAll aired blocked queue after sent := by
  induction queue generalizing blocked after sent with
  | nil =>
    obtain ⟨rfl, rfl⟩ := ran
    exact ⟨.nil, .nil, fun ack member => absurd member not_mem_nil,
      fun pair member => absurd member not_mem_nil,
      fun ack member => absurd member not_mem_nil⟩
  | cons ack others ih =>
    have soundHead := sound ack mem_cons_self
    have soundTail : ∀ other ∈ others, other.Sound aired :=
      fun other member => sound other (mem_cons_of_mem _ member)
    obtain ⟨behind, turnTail⟩ := pairwise_cons.mp turn
    have kept : ack.Freed aired ack := ⟨.refl ack, soundHead, fun _ => rfl⟩
    have nothing : ∀ req ∈ ([] : List (TmaUnitdataReq Key)), req.CopyOf ack.retransmissionBuf :=
      fun req member => nomatch member
    have idleTail : ∀ other ∈ others, other.ssi ∈ ack.ssi :: blocked → ¬ other.Outstanding := by
      intro other member isBlocked
      rcases mem_cons.mp isBlocked with same | there
      · exact (behind other member same.symm).1
      · exact idle other (mem_cons_of_mem _ member) there
    unfold submitFreeMessages at ran
    split at ran
    · obtain ⟨⟨remaining, more⟩, further, ran⟩ := bind_eq_ok.mp ran
      obtain ⟨rfl, rfl⟩ := ran
      exact (ih turnTail soundTail idleTail further).cons turn kept mem_cons_self
        (fun owner there => mem_cons_of_mem _ there) (idle ack mem_cons_self)
        nothing .inl
    next waits =>
      split at ran
      next isBlocked =>
        obtain ⟨⟨remaining, more⟩, further, ran⟩ := bind_eq_ok.mp ran
        obtain ⟨rfl, rfl⟩ := ran
        have idleTail' : ∀ other ∈ others, other.ssi ∈ blocked → ¬ other.Outstanding :=
          fun other member there => idleTail other member (mem_cons_of_mem _ there)
        exact (ih turnTail soundTail idleTail' further).cons turn kept isBlocked
          (fun owner there => there) (fun _ => waits) nothing .inl
      next isFree =>
        obtain ⟨⟨submitted, copies⟩, submits, ran⟩ := bind_eq_ok.mp ran
        obtain ⟨⟨remaining, more⟩, further, ran⟩ := bind_eq_ok.mp ran
        obtain ⟨rfl, rfl⟩ := ran
        have one := ExpectedInAck.submitted_of_submit submits
        exact (ih turnTail soundTail idleTail further).cons turn (one.freed soundHead waits)
          mem_cons_self (fun owner there => mem_cons_of_mem _ there)
          (fun isBlocked => absurd isBlocked isFree) one.sends (fun _ => .inr one.some')

end Bluestation
