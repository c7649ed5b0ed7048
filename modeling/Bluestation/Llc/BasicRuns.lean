/-
**Stop and wait on the basic link, in every run.**

* `BasicLlc.Kept` — the order of requests, of first transmissions and of completions, together.
* `Kept.relabel`, `Kept.leave`, `Kept.air`, `Kept.request` — what an event may do to it.
-/

import Bluestation.Llc.BasicQueue

namespace Bluestation

open Bits Machines Queues List Option Nat Except ExpectedInAck BasicLlc

variable {Key : Type}

/-- The acknowledgement is for the message, which counts as transmitted. -/
structure ExpectedInAck.Answered [DecidableEq Key] (ack : ExpectedInAck Key) (nr : Nat)
    (aieRequest : AieRequest Key) : Prop where
  counts : ¬ (ack.noteReport.tUmacDone.isNone ∧ ¬ ack.noteReport.hasTransmittedAttempt)
  protection : ack.aieRequest.sameProtectionAs aieRequest
  number : ack.ns = nr

/-- The message without what was noted of its receipts since the last timeslot. -/
def ExpectedInAck.withoutNote (ack : ExpectedInAck Key) : ExpectedInAck Key :=
  { ack with hasTransmittedAttempt := false, txReporter := .new }

theorem ExpectedInAck.withoutNote_noteReport {ack : ExpectedInAck Key} :
    ack.noteReport.withoutNote = ack.withoutNote := by
  unfold noteReport
  split
  · rfl
  · rfl

namespace BasicLlc

variable {llc next : BasicLlc Key} {ack : ExpectedInAck Key}

def queue (llc : BasicLlc Key) (ssi : Nat) : List (ExpectedInAck Key) :=
  llc.outboundMessages.filter fun ack => ack.ssi = ssi

def ownerOf (llc : BasicLlc Key) (message : Nat) : Option Nat :=
  (llc.requested[message]?).map (·.addr.ssi)

def requestsFor (llc : BasicLlc Key) (ssi : Nat) : List (Requested Key) :=
  llc.requested.filter fun req => req.addr.ssi = ssi

/-- The two differ in what the order of messages is not about. -/
structure Alike (llc next : BasicLlc Key) : Prop where
  messages : next.outboundMessages = llc.outboundMessages
  requested : next.requested = llc.requested
  aired : next.aired = llc.aired
  ended : next.ended = llc.ended
  stray : next.stray = llc.stray
  sequence : next.linkSendSeq = llc.linkSendSeq

theorem Alike.trans {middle : BasicLlc Key} (first : llc.Alike middle)
    (second : middle.Alike next) : llc.Alike next :=
  ⟨second.messages.trans first.messages, second.requested.trans first.requested,
    second.aired.trans first.aired, second.ended.trans first.ended,
    second.stray.trans first.stray, second.sequence.trans first.sequence⟩

/-- **Requests, first transmissions and completions of every terminal are in order.** -/
structure Kept (llc : BasicLlc Key) : Prop where
  turn : MessagesInTurn llc.outboundMessages
  sound : ∀ ack ∈ llc.outboundMessages, ack.Sound llc.aired
  known : ∀ ack ∈ llc.outboundMessages, ∃ req ∈ llc.requested[ack.message]?,
    req.addr = ack.addr ∧ req.ns = ack.ns ∧ req.req = ack.retransmissionBuf
  airedKnown : ∀ message ∈ llc.aired, message < llc.requested.length
  endedKnown : ∀ pair ∈ llc.ended, pair.1 < llc.requested.length
  airedOrder : llc.aired.Pairwise fun early late =>
    llc.ownerOf early = llc.ownerOf late → early < late
  airedAhead : ∀ message ∈ llc.aired, ∀ ack ∈ llc.outboundMessages,
    llc.ownerOf message = some ack.ssi → message ≤ ack.message
  endedAhead : ∀ pair ∈ llc.ended, ∀ ack ∈ llc.outboundMessages,
    llc.ownerOf pair.1 = some ack.ssi → pair.1 < ack.message
  accounted : ∀ message < llc.requested.length,
    (∃ ack ∈ llc.outboundMessages, ack.message = message) ∨ ∃ state, (message, state) ∈ llc.ended
  outcomes : ∀ pair ∈ llc.ended, pair.2 = .lost ∨ pair.2 = .acknowledged
  stray : ∀ pair ∈ llc.stray, pair.1 ∈ llc.aired ∨ pair.2.reporter.state = .discarded
  numbered : ∀ ssi, (llc.requestsFor ssi).map (·.ns) =
    (List.range (llc.requestsFor ssi).length).map (· % 2)
  sequence : ∀ ssi, llc.linkSendSeq ssi = (llc.requestsFor ssi).length % 2

theorem same_requests (requested : next.requested = llc.requested) :
    next.ownerOf = llc.ownerOf ∧ next.requestsFor = llc.requestsFor := by
  simp only [funext_iff, ownerOf, requestsFor, requested, implies_true, and_self]

namespace Kept

variable (kept : llc.Kept)

include kept

section

variable (member : ack ∈ llc.outboundMessages)

include member

theorem ownerOf_message : llc.ownerOf ack.message = some ack.ssi := by
  obtain ⟨req, is, addr, -⟩ := kept.known ack member
  rw [ownerOf, mem_def.mp is, map_some, addr]
  rfl

theorem message_lt : ack.message < llc.requested.length := by
  obtain ⟨req, is, -⟩ := kept.known ack member
  exact (List.getElem?_eq_some_iff.mp is).1

theorem eq_of_message {other : ExpectedInAck Key} (there : other ∈ llc.outboundMessages)
    (same : other.message = ack.message) : other = ack := by
  refine kept.turn.eq_of_number member there ?_ same
  have owners := kept.ownerOf_message there
  rw [same, kept.ownerOf_message member, some_inj] at owners
  exact owners.symm

end

/-- The queue changes, but holds the same messages. -/
theorem relabel (requested : next.requested = llc.requested) (aired : next.aired = llc.aired)
    (ended : next.ended = llc.ended) (stray : next.stray = llc.stray)
    (sequence : next.linkSendSeq = llc.linkSendSeq) (turn : MessagesInTurn next.outboundMessages)
    (sound : ∀ ack ∈ next.outboundMessages, ack.Sound llc.aired)
    (came : ∀ new ∈ next.outboundMessages, ∃ old ∈ llc.outboundMessages, old.Same new)
    (stays : ∀ old ∈ llc.outboundMessages, ∃ new ∈ next.outboundMessages, old.Same new) :
    next.Kept := by
  obtain ⟨owner, requests⟩ := same_requests requested
  refine ⟨turn, aired ▸ sound, ?_, ?_, ?_, ?_, ?_, ?_, ?_, ?_, ?_, ?_, ?_⟩
  · intro new member
    obtain ⟨old, there, same⟩ := came new member
    rw [requested, same.message, same.addr, same.ns, same.buffer]
    exact kept.known old there
  · rw [aired, requested]
    exact kept.airedKnown
  · rw [ended, requested]
    exact kept.endedKnown
  · rw [aired, owner]
    exact kept.airedOrder
  · intro message member new there is
    obtain ⟨old, before, same⟩ := came new there
    rw [aired] at member
    rw [owner, ssi, same.addr] at is
    rw [same.message]
    exact kept.airedAhead message member old before is
  · intro pair member new there is
    obtain ⟨old, before, same⟩ := came new there
    rw [ended] at member
    rw [owner, ssi, same.addr] at is
    rw [same.message]
    exact kept.endedAhead pair member old before is
  · intro message small
    rw [requested] at small
    rw [ended]
    refine (kept.accounted message small).imp_left fun ⟨old, member, is⟩ => ?_
    obtain ⟨new, there, same⟩ := stays old member
    exact ⟨new, there, same.message.trans is⟩
  · rw [ended]
    exact kept.outcomes
  · rw [stray, aired]
    exact kept.stray
  · rw [requests]
    exact kept.numbered
  · rw [requests, sequence]
    exact kept.sequence

/-- Nothing changes that the order is about. -/
theorem frame (alike : llc.Alike next) : next.Kept := by
  refine kept.relabel alike.requested alike.aired alike.ended alike.stray alike.sequence
    (alike.messages ▸ kept.turn) (alike.messages ▸ kept.sound) ?_ ?_
  · rw [alike.messages]
    exact fun ack member => ⟨ack, member, .refl ack⟩
  · rw [alike.messages]
    exact fun ack member => ⟨ack, member, .refl ack⟩

/-- The message that is out for a terminal leaves the queue. -/
theorem leave {front back : List (ExpectedInAck Key)} {state : TxState}
    {left : List (Nat × AttemptCopy)} (is : llc.outboundMessages = front ++ ack :: back)
    (out : ack.Outstanding) (requested : next.requested = llc.requested)
    (aired : next.aired = llc.aired) (ended : next.ended = llc.ended ++ [(ack.message, state)])
    (stray : next.stray = llc.stray ++ left) (sequence : next.linkSendSeq = llc.linkSendSeq)
    (rest : next.outboundMessages = front ++ back) (outcome : state = .lost ∨ state = .acknowledged)
    (gone : ∀ pair ∈ left, pair.1 ∈ llc.aired ∨ pair.2.reporter.state = .discarded) : next.Kept := by
  obtain ⟨owner, requests⟩ := same_requests requested
  have turn := kept.turn
  rw [is] at turn
  have member : ack ∈ llc.outboundMessages := by
    rw [is]
    exact mem_append_right _ mem_cons_self
  have kept' : ∀ new ∈ next.outboundMessages, new ∈ llc.outboundMessages := by
    intro new there
    rw [rest] at there
    rw [is]
    exact (mem_append.mp there).elim (mem_append_left _)
      fun late => mem_append_right _ (mem_cons_of_mem _ late)
  refine ⟨rest ▸ turn.remove, fun new there => aired ▸ kept.sound new (kept' new there),
    fun new there => requested ▸ kept.known new (kept' new there), ?_, ?_, ?_, ?_, ?_, ?_, ?_, ?_,
    ?_, ?_⟩
  · rw [aired, requested]
    exact kept.airedKnown
  · intro pair there
    rw [ended] at there
    rw [requested]
    rcases mem_append.mp there with old | new
    · exact kept.endedKnown pair old
    · rw [mem_singleton.mp new]
      exact kept.message_lt member
  · rw [aired, owner]
    exact kept.airedOrder
  · intro message there new stays
    rw [aired] at there
    rw [owner]
    exact kept.airedAhead message there new (kept' new stays)
  · intro pair there new stays same
    rw [owner] at same
    rw [ended] at there
    rcases mem_append.mp there with old | last
    · exact kept.endedAhead pair old new (kept' new stays) same
    · rw [mem_singleton.mp last] at same ⊢
      rw [kept.ownerOf_message member, some_inj] at same
      have front' := turn.toFront out
      rw [rest] at stays
      exact ((pairwise_cons.mp front').1 new stays same).2
  · intro message small
    rw [requested] at small
    rw [ended]
    rcases kept.accounted message small with ⟨old, there, same⟩ | ⟨final, there⟩
    · rw [is] at there
      rcases mem_append.mp there with early | later
      · exact .inl ⟨old, rest ▸ mem_append_left _ early, same⟩
      · rcases mem_cons.mp later with rfl | late
        · rw [← same]
          exact .inr ⟨state, mem_append_right _ (mem_singleton_self _)⟩
        · exact .inl ⟨old, rest ▸ mem_append_right _ late, same⟩
    · exact .inr ⟨final, mem_append_left _ there⟩
  · intro pair there
    rw [ended] at there
    rcases mem_append.mp there with old | last
    · exact kept.outcomes pair old
    · rw [mem_singleton.mp last]
      exact outcome
  · intro pair there
    rw [stray] at there
    rw [aired]
    exact (mem_append.mp there).elim (kept.stray pair) (gone pair)
  · rw [requests]
    exact kept.numbered
  · rw [requests, sequence]
    exact kept.sequence

/-- A copy of a queued message is reported. -/
theorem report {copy new : AttemptCopy} {position : Nat} {transmitted : Bool}
    (member : ack ∈ llc.outboundMessages) (is : ack.attempt[position]? = some copy)
    (reported : copy.report transmitted = .ok new) (aired : next.aired = llc.aired ++
      if transmitted ∧ ack.message ∉ llc.aired then [ack.message] else [])
    (messages : next.outboundMessages = llc.outboundMessages.map fun other =>
      if other.message = ack.message then { other with attempt := other.attempt.set position new }
      else other) (requested : next.requested = llc.requested) (ended : next.ended = llc.ended)
    (stray : next.stray = llc.stray) (sequence : next.linkSendSeq = llc.linkSendSeq) : next.Kept := by
  obtain ⟨owner, requests⟩ := same_requests requested
  have out : ack.Outstanding := kept.sound ack member |>.outstanding_of_copy (mem_of_getElem? is)
  have grown : ∀ message ∈ llc.aired, message ∈ next.aired := by
    intro message there
    rw [aired]
    exact mem_append_left _ there
  have only : ∀ message ∈ next.aired, message ∈ llc.aired ∨
      (message = ack.message ∧ transmitted ∧ ack.message ∉ llc.aired) := by
    intro message there
    rw [aired] at there
    refine (mem_append.mp there).imp_right fun last => ?_
    split at last
    next both =>
      exact ⟨mem_singleton.mp last, both⟩
    · cases last
  have mine : transmitted → ack.message ∈ next.aired := by
    intro yes
    rw [aired]
    by_cases there : ack.message ∈ llc.aired
    · exact mem_append_left _ there
    · rw [if_pos ⟨yes, there⟩]
      exact mem_append_right _ (mem_singleton_self _)
  -- every message of the new queue comes from one of the old queue
  have came : ∀ changed ∈ next.outboundMessages, ∃ old ∈ llc.outboundMessages, old.Same changed := by
    intro changed there
    rw [messages] at there
    obtain ⟨old, before, rfl⟩ := mem_map.mp there
    refine ⟨old, before, ?_⟩
    split
    · exact ⟨rfl, rfl, rfl, rfl⟩
    · exact .refl old
  refine ⟨?_, ?_, ?_, ?_, ?_, ?_, ?_, ?_, ?_, ?_, ?_, ?_, ?_⟩
  · rw [messages]
    refine kept.turn.update (List.forall₂_map_right_iff.mpr (List.forall₂_same.mpr ?_))
    intro old before
    split
    · exact ⟨rfl, rfl, id⟩
    · exact ⟨rfl, rfl, id⟩
  · intro changed there
    rw [messages] at there
    obtain ⟨old, before, rfl⟩ := mem_map.mp there
    split
    next same =>
      rw [kept.eq_of_message member before same]
      exact (kept.sound ack member).report is reported grown
        (fun message there => (only message there).imp_right fun ⟨same, yes, _⟩ => ⟨same, yes⟩) mine
    next ne =>
      refine (kept.sound old before).mono grown fun there => ?_
      exact (only _ there).resolve_right fun ⟨same, _⟩ => ne same
  · intro changed there
    obtain ⟨old, before, same⟩ := came changed there
    rw [requested, same.message, same.addr, same.ns, same.buffer]
    exact kept.known old before
  · intro message there
    rw [requested]
    rcases only message there with old | ⟨rfl, -⟩
    · exact kept.airedKnown message old
    · exact kept.message_lt member
  · rw [ended, requested]
    exact kept.endedKnown
  · rw [aired, owner]
    refine pairwise_append.mpr ⟨kept.airedOrder, ?_, fun early before late last same => ?_⟩
    · split
      · exact pairwise_singleton _ _
      · exact .nil
    · split at last
      next both =>
        rw [mem_singleton.mp last] at same ⊢
        rw [kept.ownerOf_message member] at same
        have ahead := kept.airedAhead early before ack member same
        exact lt_of_le_of_ne ahead fun is => both.2 (is ▸ before)
      · cases last
  · intro message there changed stays same
    obtain ⟨old, before, kin⟩ := came changed stays
    rw [owner, ssi, kin.addr] at same
    rw [kin.message]
    rcases only message there with past | ⟨rfl, -⟩
    · exact kept.airedAhead message past old before same
    · rw [kept.ownerOf_message member, some_inj] at same
      exact kept.turn.oldest member out before same.symm
  · intro pair there changed stays same
    obtain ⟨old, before, kin⟩ := came changed stays
    rw [owner, ssi, kin.addr] at same
    rw [ended] at there
    rw [kin.message]
    exact kept.endedAhead pair there old before same
  · intro message small
    rw [requested] at small
    rw [ended]
    refine (kept.accounted message small).imp_left fun ⟨old, before, is⟩ => ?_
    refine ⟨_, messages ▸ mem_map_of_mem before, ?_⟩
    split
    · exact is
    · exact is
  · rw [ended]
    exact kept.outcomes
  · intro pair there
    rw [stray] at there
    exact (kept.stray pair there).imp_left (grown _)
  · rw [requests]
    exact kept.numbered
  · rw [requests, sequence]
    exact kept.sequence

/-- A request is numbered and queues. -/
theorem request {req : Requested Key} (requested : next.requested = llc.requested ++ [req])
    (messages : next.outboundMessages = llc.outboundMessages ++ [ack])
    (number : ack.message = llc.requested.length) (addr : ack.addr = req.addr) (ns : ack.ns = req.ns)
    (buffer : ack.retransmissionBuf = req.req) (turnOf : req.ns = llc.linkSendSeq req.addr.ssi)
    (waits : ¬ ack.Outstanding) (sound : ack.message ∉ llc.aired → ack.Sound llc.aired)
    (aired : next.aired = llc.aired) (ended : next.ended = llc.ended) (stray : next.stray = llc.stray)
    (sequence : next.linkSendSeq = Function.update llc.linkSendSeq req.addr.ssi (req.ns ^^^ 1)) :
    next.Kept := by
  have owner : ∀ message < llc.requested.length, next.ownerOf message = llc.ownerOf message := by
    intro message small
    rw [ownerOf, ownerOf, requested, getElem?_append_left small]
  have requests : ∀ ssi, next.requestsFor ssi =
      llc.requestsFor ssi ++ if req.addr.ssi = ssi then [req] else [] := by
    intro ssi
    rw [requestsFor, requested, filter_append, requestsFor]
    by_cases here : req.addr.ssi = ssi
    · rw [if_pos here, filter_cons_of_pos (by rwa [decide_eq_true_eq]), filter_nil]
    · rw [if_neg here, filter_cons_of_neg (by rwa [decide_eq_true_eq]), filter_nil]
  have fresh : ack.message ∉ llc.aired := fun there =>
    absurd (kept.airedKnown _ there) (number ▸ lt_irrefl _)
  refine ⟨?_, ?_, ?_, ?_, ?_, ?_, ?_, ?_, ?_, ?_, ?_, ?_, ?_⟩
  · rw [messages]
    exact kept.turn.push waits fun earlier there => number ▸ kept.message_lt there
  · intro new there
    rw [messages] at there
    rw [aired]
    rcases mem_append.mp there with old | last
    · exact kept.sound new old
    · rw [mem_singleton.mp last]
      exact sound fresh
  · intro new there
    rw [messages] at there
    rw [requested]
    rcases mem_append.mp there with old | last
    · rw [getElem?_append_left (kept.message_lt old)]
      exact kept.known new old
    · rw [mem_singleton.mp last, number, getElem?_concat_length]
      exact ⟨req, rfl, addr.symm, ns.symm, buffer.symm⟩
  · intro message there
    rw [aired] at there
    rw [requested, length_append]
    exact Nat.lt_add_right _ (kept.airedKnown message there)
  · intro pair there
    rw [ended] at there
    rw [requested, length_append]
    exact Nat.lt_add_right _ (kept.endedKnown pair there)
  · rw [aired]
    refine kept.airedOrder.imp_of_mem fun before after order same => ?_
    rw [owner _ (kept.airedKnown _ before), owner _ (kept.airedKnown _ after)] at same
    exact order same
  · intro message there new stays same
    rw [aired] at there
    rw [messages] at stays
    rcases mem_append.mp stays with old | last
    · rw [owner _ (kept.airedKnown message there)] at same
      exact kept.airedAhead message there new old same
    · rw [mem_singleton.mp last, number]
      exact (kept.airedKnown message there).le
  · intro pair there new stays same
    rw [ended] at there
    rw [messages] at stays
    rcases mem_append.mp stays with old | last
    · rw [owner _ (kept.endedKnown pair there)] at same
      exact kept.endedAhead pair there new old same
    · rw [mem_singleton.mp last, number]
      exact kept.endedKnown pair there
  · intro message small
    rw [requested, length_append] at small
    rw [ended]
    rcases Nat.lt_succ_iff_lt_or_eq.mp small with old | rfl
    · refine (kept.accounted message old).imp_left fun ⟨one, there, is⟩ => ?_
      exact ⟨one, messages ▸ mem_append_left _ there, is⟩
    · exact .inl ⟨ack, messages ▸ mem_append_right _ (mem_singleton_self _), number⟩
  · rw [ended]
    exact kept.outcomes
  · rw [stray, aired]
    exact kept.stray
  · intro ssi
    rw [requests]
    split
    next here =>
      rw [map_append, kept.numbered, map_singleton, length_append,
        length_singleton, range_succ, map_append, map_singleton, turnOf, here,
        kept.sequence]
    · rw [append_nil]
      exact kept.numbered ssi
  · intro ssi
    rw [requests, sequence]
    by_cases here : req.addr.ssi = ssi
    · rw [if_pos here, here, Function.update_self, turnOf, here, kept.sequence, length_append,
        length_singleton]
      rcases Nat.mod_two_eq_zero_or_one (llc.requestsFor ssi).length with even | odd
      · rw [Nat.add_mod, even]
        rfl
      · rw [Nat.add_mod, odd]
        rfl
    · rw [if_neg here, append_nil, Function.update_of_ne (.symm here)]
      exact kept.sequence ssi

end Kept

theorem queue_congr (messages : next.outboundMessages = llc.outboundMessages) (ssi : Nat) :
    next.queue ssi = llc.queue ssi := by
  rw [queue, queue, messages]

/-! ### Events -/

theorem kept_new (now : TdmaTime) : (BasicLlc.new now : BasicLlc Key).Kept where
  turn := .nil
  sound _ member := nomatch member
  known _ member := nomatch member
  airedKnown _ member := nomatch member
  endedKnown _ member := nomatch member
  airedOrder := .nil
  airedAhead _ member := nomatch member
  endedAhead _ member := nomatch member
  accounted message small := absurd small (not_lt_zero message)
  outcomes _ member := nomatch member
  stray _ member := nomatch member
  numbered _ := rfl
  sequence _ := rfl

theorem scheduleFor_alike (llc : BasicLlc Key) (prim : TmaUnitdataInd Key) (ns : Option Nat) :
    llc.Alike (llc.scheduleFor prim ns) := by
  cases ns with
  | none => exact ⟨rfl, rfl, rfl, rfl, rfl, rfl⟩
  | some ns => exact ⟨rfl, rfl, rfl, rfl, rfl, rfl⟩

theorem deliver_alike (prim : TmaUnitdataInd Key) (pduType : LlcPduType) (header : BlHeader)
    (pdu : BitBuffer) : llc.Alike (llc.deliver prim pduType header pdu) := by
  unfold deliver
  split
  · exact ⟨rfl, rfl, rfl, rfl, rfl, rfl⟩
  · exact ⟨rfl, rfl, rfl, rfl, rfl, rfl⟩

section

variable [DecidableEq Key] {config : SharedConfig}

theorem Kept.rxTlaTldataReqBl (kept : llc.Kept) {prim : TlDataReqBl Key}
    (ran : llc.rxTlaTldataReqBl config prim = .ok next) : next.Kept := by
  obtain ⟨-, -, ran⟩ := bind_eq_ok.mp ran
  obtain ⟨-, -, ran⟩ := bind_eq_ok.mp ran
  obtain ⟨checksum, -, ran⟩ := bind_eq_ok.mp ran
  cases ran
  have waits : ((prim.txReporter.map Subtype.val).getD TxReporter.new).state = .pending := by
    cases prim.txReporter with
    | none => rfl
    | some reporter => exact reporter.property
  refine kept.request rfl rfl rfl rfl rfl rfl rfl Bool.false_ne_true (fun fresh => ?_)
    rfl rfl rfl rfl
  exact {
    waits _ := ⟨rfl, rfl, rfl, fresh⟩
    noted marked := absurd marked Bool.false_ne_true
    copies := fun ⟨copy, member, _⟩ => absurd member not_mem_nil
    traced member := absurd member fresh
    observed positive := absurd positive (not_lt_zero 0)
    receipt := .inl waits
    done isDone := absurd isDone Bool.false_ne_true }

/-! ### Acknowledgements -/

/-- **An acknowledgement completes the message that is out for its terminal, or puts it back.** -/
theorem processIncomingAck_cases {addr : TetraAddress} {nr : Nat} {aieRequest : AieRequest Key}
    (ran : llc.processIncomingAck addr nr aieRequest = .ok next) :
    (takeExpectedAckForSsi addr.ssi llc.outboundMessages = none ∧ next = llc) ∨
      ∃ ack rest, takeExpectedAckForSsi addr.ssi llc.outboundMessages = some (ack, rest) ∧
        ((¬ ack.Answered nr aieRequest ∧
            next = { llc with outboundMessages := ack.noteReport :: rest }) ∨
          (ack.Answered nr aieRequest ∧ next = { llc with
            outboundMessages := rest
            ended := llc.ended ++ [(ack.message, .acknowledged)] })) := by
  unfold processIncomingAck at ran
  split at ran
  next taken =>
    rw [ok.injEq] at ran
    exact .inl ⟨taken, ran.symm⟩
  next ack rest taken =>
    refine .inr ⟨ack, rest, taken, ?_⟩
    dsimp only at ran
    split at ran
    next early =>
      rw [ok.injEq] at ran
      exact .inl ⟨fun answers => answers.counts early, ran.symm⟩
    next counts =>
      rw [noteReport_same.aieRequest] at ran
      split at ran
      next differs =>
        rw [ok.injEq] at ran
        exact .inl ⟨fun answers => differs answers.protection, ran.symm⟩
      next protection =>
        rw [not_not] at protection
        rw [noteReport_same.ns, noteReport_same.message] at ran
        split at ran
        next number =>
          obtain ⟨reporter, marked, ran⟩ := bind_eq_ok.mp ran
          obtain ⟨-, -, marked⟩ := bind_eq_ok.mp marked
          obtain ⟨-, rfl⟩ := TxReporter.mark_ok marked
          rw [ok.injEq] at ran
          exact .inr ⟨⟨counts, protection, number⟩, ran.symm⟩
        next other =>
          rw [ok.injEq] at ran
          exact .inl ⟨fun answers => other answers.number, ran.symm⟩

/-- An acknowledgement that is taken up: from whom, of which number, under which protection. -/
structure Heard (Key : Type) where
  addr : TetraAddress
  nr : Nat
  aieRequest : AieRequest Key

/-- The acknowledgement an event brings, once it has parsed, passed its check sequence and was not
refused. -/
def heard (llc : BasicLlc Key) : BasicEvent Key → Option (Heard Key)
  | .unitdataInd config prim =>
    match llc.takeUp config prim with
    | .ok (some (_, header, _)) => header.nr.map (⟨prim.mainAddress, ·, prim.aieRequest⟩)
    | _ => none
  | _ => none

/-- **A received PDU changes the queue only by the acknowledgement in it.** -/
theorem rxTmaUnitdataInd_cases {prim : TmaUnitdataInd Key}
    (ran : llc.rxTmaUnitdataInd config prim = .ok next) :
    (llc.heard (.unitdataInd config prim) = none ∧ llc.Alike next) ∨
      ∃ heard scheduled after, llc.heard (.unitdataInd config prim) = some heard ∧
        llc.Alike scheduled ∧
        scheduled.processIncomingAck heard.addr heard.nr heard.aieRequest = .ok after ∧
        after.Alike next := by
  obtain ⟨taken, takes, ran⟩ := bind_eq_ok.mp ran
  dsimp only [heard]
  rw [takes]
  cases taken with
  | none =>
    rw [ok.injEq] at ran
    exact .inl ⟨rfl, ran ▸ ⟨rfl, rfl, rfl, rfl, rfl, rfl⟩⟩
  | some triple =>
    obtain ⟨pduType, header, pdu⟩ := triple
    obtain ⟨accepted, accepts, ran⟩ := bind_eq_ok.mp ran
    rw [ok.injEq] at ran
    have passed := accepted.deliver_alike prim pduType header pdu
    rw [ran] at passed
    have scheduled := llc.scheduleFor_alike prim header.ns
    unfold accept at accepts
    cases is : header.nr with
    | none =>
      rw [is, ok.injEq] at accepts
      subst accepts
      exact .inl ⟨congrArg (Option.map _) is, scheduled.trans passed⟩
    | some nr =>
      rw [is] at accepts
      exact .inr ⟨_, _, accepted, congrArg (Option.map _) is, scheduled, accepts, passed⟩

/-- The event is an acknowledgement of this message: from its terminal, with its sequence number,
under its protection. -/
structure Answers (llc : BasicLlc Key) (event : BasicEvent Key) (ack : ExpectedInAck Key)
    (heard : Heard Key) : Prop where
  brought : llc.heard event = some heard
  queued : ack ∈ llc.outboundMessages
  owner : ack.ssi = heard.addr.ssi
  number : ack.ns = heard.nr
  protection : ack.aieRequest.sameProtectionAs heard.aieRequest

/-- It comes after the message was on the air. -/
structure Completes (llc : BasicLlc Key) (event : BasicEvent Key) (ack : ExpectedInAck Key)
    (heard : Heard Key) : Prop extends Answers llc event ack heard where
  transmitted : ack.message ∈ llc.aired

/-- No acknowledgement arrives for a message of which all copies so far were discarded. -/
def careful (llc : BasicLlc Key) (event : BasicEvent Key) : Prop :=
  ∀ ack heard, llc.Answers event ack heard → ack.tUmacDone.isSome → ack.message ∈ llc.aired

/-- What a received PDU does to the queues. A message counts as transmitted also when all its copies
were seen discarded. -/
inductive Settles (llc next : BasicLlc Key) (event : BasicEvent Key) : Prop where
  | nothing (nobody : ∀ ack heard, ¬ llc.Completes event ack heard)
      (ended : next.ended = llc.ended)
      (queues : ∀ ssi, (next.queue ssi).map ExpectedInAck.withoutNote =
        (llc.queue ssi).map ExpectedInAck.withoutNote)
  | completes (ack : ExpectedInAck Key) (heard : Heard Key)
      (answers : llc.Answers event ack heard)
      (counts : ack.message ∈ llc.aired ∨ ack.tUmacDone.isSome)
      (ended : next.ended = llc.ended ++ [(ack.message, .acknowledged)])
      (queues : ∀ ssi, llc.queue ssi = if ssi = ack.ssi then ack :: next.queue ssi
        else next.queue ssi)

/-- **A received PDU completes exactly the message it acknowledges.** -/
theorem Kept.rxTmaUnitdataInd (kept : llc.Kept) {prim : TmaUnitdataInd Key}
    (ran : llc.rxTmaUnitdataInd config prim = .ok next) :
    next.Kept ∧ next.aired = llc.aired ∧ Settles llc next (.unitdataInd config prim) := by
  rcases rxTmaUnitdataInd_cases ran with ⟨silent, alike⟩ | ⟨heard, scheduled, after, brought,
    early, processed, late⟩
  · refine ⟨kept.frame alike, alike.aired, .nothing (fun ack heard completes => ?_) alike.ended
      fun ssi => ?_⟩
    · have brought := completes.brought
      cases silent.symm.trans brought
    · rw [queue_congr alike.messages]
  · have keptScheduled := kept.frame early
    have carries : ∀ ack other, llc.Completes (.unitdataInd config prim) ack other →
        other = heard := by
      intro ack other completes
      have same := completes.brought
      rw [brought, some_inj] at same
      exact same.symm
    rcases processIncomingAck_cases processed with ⟨taken, rfl⟩ | ⟨ack, rest, taken, outcome⟩
    · refine ⟨keptScheduled.frame late, late.aired.trans early.aired,
        .nothing (fun ack other completes => ?_) (late.ended.trans early.ended) fun ssi => ?_⟩
      · have out := (kept.sound ack completes.queued).outstanding completes.transmitted
        have queued := completes.queued
        rw [← early.messages] at queued
        have owner := completes.owner
        rw [carries ack other completes] at owner
        exact take_none taken ack queued owner out
      · rw [queue_congr late.messages, queue_congr early.messages]
    · obtain ⟨owner, out, front, back, is, rfl⟩ := take_some taken
      rw [early.messages] at is
      have member : ack ∈ llc.outboundMessages := by
        rw [is]
        exact mem_append_right _ mem_cons_self
      have sound := kept.sound ack member
      have turn := kept.turn
      rw [is] at turn
      rcases outcome with ⟨unanswered, rfl⟩ | ⟨answered, rfl⟩
      · -- the message goes back, to the head of the queue
        have noted : MessagesInTurn (ack.noteReport :: (front ++ back)) := by
          refine (turn.toFront out).update (.cons ⟨?_, ?_, fun _ => out⟩ (List.forall₂_same.mpr
            fun other _ => ⟨rfl, rfl, id⟩))
          · exact congrArg TetraAddress.ssi noteReport_same.addr
          · exact noteReport_same.message
        have inside : ∀ other, other ∈ llc.outboundMessages ↔ other = ack ∨ other ∈ front ++ back := by
          intro other
          rw [is, mem_append, mem_cons, mem_append]
          tauto
        have middle : ({ scheduled with
            outboundMessages := ack.noteReport :: (front ++ back) } : BasicLlc Key).Kept := by
          refine kept.relabel early.requested early.aired early.ended early.stray early.sequence
            noted ?_ ?_ ?_
          · intro new there
            rcases mem_cons.mp there with rfl | other
            · exact sound.noteReport
            · exact kept.sound new ((inside new).mpr (.inr other))
          · intro new there
            rcases mem_cons.mp there with rfl | other
            · exact ⟨ack, member, noteReport_same⟩
            · exact ⟨new, (inside new).mpr (.inr other), .refl new⟩
          · intro old there
            rcases (inside old).mp there with rfl | other
            · exact ⟨_, mem_cons_self, noteReport_same⟩
            · exact ⟨old, mem_cons_of_mem _ other, .refl old⟩
        refine ⟨middle.frame late, late.aired.trans early.aired,
          .nothing (fun other heard' completes => ?_) (late.ended.trans early.ended) fun ssi => ?_⟩
        · -- a message on the air is the one that is out, and the acknowledgement is not for it
          have same := carries other heard' completes
          subst same
          have outOther := (kept.sound other completes.queued).outstanding completes.transmitted
          have here : other = ack := kept.turn.unique member out completes.queued outOther
            (completes.owner.trans owner.symm)
          subst here
          exact unanswered ⟨sound.countsTransmitted.mpr (.inl completes.transmitted),
            completes.protection, completes.number⟩
        · rw [queue_congr late.messages]
          by_cases here : ack.ssi = ssi
          · have kin : ack.noteReport.ssi = ack.ssi :=
              congrArg TetraAddress.ssi noteReport_same.addr
            have split := turn.filter_take out
            rw [here] at split kin
            rw [queue, queue, is, split, filter_cons_of_pos (by rw [decide_eq_true_eq, kin]),
              map_cons, map_cons, withoutNote_noteReport]
          · have kin : ack.noteReport.ssi ≠ ssi := by
              rw [ExpectedInAck.ssi, ExpectedInAck.noteReport_same.addr]
              exact here
            rw [queue, queue, is, InTurn.filter_take_of_ne here,
              filter_cons_of_neg (by rwa [decide_eq_true_eq])]
      · -- the message is done
        have middle : ({ scheduled with
            outboundMessages := front ++ back
            ended := scheduled.ended ++ [(ack.message, .acknowledged)] } : BasicLlc Key).Kept := by
          refine kept.leave is out early.requested early.aired ?_ ?_ early.sequence rfl
            (.inr rfl) (fun pair there => absurd there not_mem_nil)
          · exact congrArg (· ++ _) early.ended
          · rw [append_nil]
            exact early.stray
        refine ⟨middle.frame late, late.aired.trans early.aired, .completes ack heard
          ⟨brought, member, owner, answered.number, answered.protection⟩
          (sound.countsTransmitted.mp answered.counts) ?_ fun ssi => ?_⟩
        · rw [late.ended]
          exact congrArg (· ++ _) early.ended
        · rw [queue_congr late.messages, queue, queue, is]
          by_cases here : ack.ssi = ssi
          · have split := turn.filter_take out
            rw [here] at split
            rw [if_pos here.symm, split]
          · rw [if_neg (Ne.symm here), InTurn.filter_take_of_ne here]

/-! ### The end of a timeslot -/

/-- Messages end as lost, if at all, and stay on the air. -/
structure LosesOnly (llc next : BasicLlc Key) : Prop where
  ended : ∃ more, next.ended = llc.ended ++ more ∧ ∀ pair ∈ more, pair.2 = .lost
  aired : ∀ message ∈ llc.aired, message ∈ next.aired

omit [DecidableEq Key] in
theorem LosesOnly.of_eq (ended : next.ended = llc.ended)
    (aired : ∀ message ∈ llc.aired, message ∈ next.aired) : LosesOnly llc next where
  ended := ⟨[], by rw [ended, append_nil], nofun⟩
  aired := aired

omit [DecidableEq Key] in
theorem LosesOnly.refl (llc : BasicLlc Key) : LosesOnly llc llc := .of_eq rfl fun _ => id

omit [DecidableEq Key] in
theorem LosesOnly.trans {middle : BasicLlc Key} (first : LosesOnly llc middle)
    (second : LosesOnly middle next) : LosesOnly llc next := by
  obtain ⟨early, is, lost⟩ := first.ended
  obtain ⟨late, is', lost'⟩ := second.ended
  refine ⟨⟨early ++ late, by rw [is', is, append_assoc], fun pair member => ?_⟩,
    fun message there => second.aired _ (first.aired _ there)⟩
  exact (mem_append.mp member).elim (lost pair) (lost' pair)

omit [DecidableEq Key] in
/-- A message is given up: what the MAC still holds of it is of no account. -/
theorem Kept.expire (kept : llc.Kept) {ssi : Nat} (done : ∀ ack ∈ llc.outboundMessages,
      ack.ssi = ssi → ack.Outstanding → ack.tUmacDone.isSome)
    (ran : llc.expire ssi = .ok next) : next.Kept ∧ LosesOnly llc next ∧
      ∀ ack ∈ next.outboundMessages, ack ∈ llc.outboundMessages := by
  unfold BasicLlc.expire at ran
  split at ran
  · cases ran
  next ack rest taken =>
    obtain ⟨owner, out, front, back, is, rfl⟩ := take_some taken
    have member : ack ∈ llc.outboundMessages := by
      rw [is]
      exact mem_append_right _ mem_cons_self
    have sound := kept.sound ack member
    obtain ⟨reporter, given, ran⟩ := bind_eq_ok.mp ran
    have lost := TxReporter.giveUp_state sound.pendingOrTransmitted given
    cases ran
    refine ⟨kept.leave is out rfl rfl rfl rfl rfl rfl (.inl lost) fun pair there => ?_,
      ⟨⟨_, rfl, fun pair there => ?_⟩, fun _ => id⟩, fun other there => ?_⟩
    · obtain ⟨copy, among, rfl⟩ := mem_map.mp there
      rcases sound.done (done ack member owner out) with noted | all
      · exact .inl (sound.noted noted)
      · exact .inr (all copy among)
    · rw [mem_singleton.mp there]
      exact lost
    · rw [is]
      exact (mem_append.mp there).elim (mem_append_left _)
        fun late => mem_append_right _ (mem_cons_of_mem _ late)

omit [DecidableEq Key] in
theorem Kept.expireAll {late : List Nat} (kept : llc.Kept) (done : ∀ ssi ∈ late,
      ∀ ack ∈ llc.outboundMessages, ack.ssi = ssi → ack.Outstanding → ack.tUmacDone.isSome)
    (ran : late.foldlM BasicLlc.expire llc = .ok next) : next.Kept ∧ LosesOnly llc next := by
  induction late generalizing llc with
  | nil =>
    cases ran
    exact ⟨kept, .refl _⟩
  | cons ssi others ih =>
    obtain ⟨middle, expired, ran⟩ := bind_eq_ok.mp ran
    obtain ⟨keptMiddle, loses, remain⟩ := kept.expire (done ssi mem_cons_self) expired
    obtain ⟨keptNext, loses'⟩ := ih keptMiddle (fun other there ack member =>
      done other (mem_cons_of_mem _ there) ack (remain ack member)) ran
    exact ⟨keptNext, loses.trans loses'⟩

omit [DecidableEq Key] in
theorem Kept.submitRetransmissions (kept : llc.Kept)
    (ran : llc.submitRetransmissionsToUmac config = .ok next) : next.Kept ∧ LosesOnly llc next := by
  obtain ⟨retried, tries, ran⟩ := bind_eq_ok.mp ran
  have each := retryMessages_spec kept.sound tries
  have pointwise : List.Forall₂ (ExpectedInAck.Tried llc.aired) llc.outboundMessages retried := each
  have turn : MessagesInTurn (retried.map (·.ack)) := by
    refine kept.turn.update (List.forall₂_map_right_iff.mpr (pointwise.imp fun old one tried => ?_))
    exact ⟨congrArg TetraAddress.ssi tried.same.addr, tried.same.message, tried.outstanding.mp⟩
  have sound : ∀ ack ∈ retried.map (·.ack), ack.Sound llc.aired := by
    intro ack member
    obtain ⟨one, there, rfl⟩ := mem_map.mp member
    obtain ⟨place, within, rfl⟩ := getElem_of_mem there
    exact (each.get (by rwa [each.length_eq]) within).sound
  have tried : (llc.noteRetried retried).Kept := by
    refine kept.relabel rfl rfl rfl rfl rfl turn sound ?_ ?_
    · intro new member
      obtain ⟨one, there, rfl⟩ := mem_map.mp member
      obtain ⟨place, within, rfl⟩ := getElem_of_mem there
      have long : place < llc.outboundMessages.length := by rwa [each.length_eq]
      exact ⟨_, getElem_mem long, (each.get long within).same⟩
    · intro old member
      obtain ⟨place, within, rfl⟩ := getElem_of_mem member
      have long : place < retried.length := by rwa [← each.length_eq]
      exact ⟨_, mem_map_of_mem (getElem_mem long), (each.get within long).same⟩
  refine (tried.expireAll ?_ ran).imp_right fun loses => ⟨loses.ended, loses.aired⟩
  -- the message that is out for the terminal is the one that was found exhausted
  intro ssi late ack member owner out
  obtain ⟨one, there, rfl⟩ := mem_map.mp late
  obtain ⟨among, exhausted⟩ := mem_filter.mp there
  obtain ⟨place, within, rfl⟩ := getElem_of_mem among
  have spec := each.get (by rwa [each.length_eq]) within
  have done := spec.over' exhausted
  have same := turn.unique member out (mem_map_of_mem among)
    (spec.sound.outstanding_of_done done) owner.symm
  rw [← same]
  exact done

omit [DecidableEq Key] in
theorem Kept.submitFree (kept : llc.Kept)
    (ran : llc.submitFreeMessagesToUmac config = .ok next) : next.Kept ∧ LosesOnly llc next := by
  obtain ⟨⟨after, sent⟩, frees, ran⟩ := bind_eq_ok.mp ran
  cases ran
  have freed := submitFree_spec kept.turn kept.sound
    (fun ack _ none' => absurd none' not_mem_nil) frees
  refine ⟨kept.relabel rfl rfl rfl rfl rfl freed.turn ?_ ?_ ?_, .of_eq rfl fun _ => id⟩
  · intro new member
    obtain ⟨place, within, rfl⟩ := getElem_of_mem member
    exact (freed.each.get (by rwa [freed.each.length_eq]) within).sound
  · intro new member
    obtain ⟨place, within, rfl⟩ := getElem_of_mem member
    have long : place < llc.outboundMessages.length := by rwa [freed.each.length_eq]
    exact ⟨_, getElem_mem long, (freed.each.get long within).same⟩
  · intro old member
    obtain ⟨place, within, rfl⟩ := getElem_of_mem member
    have long : place < after.length := by rwa [← freed.each.length_eq]
    exact ⟨_, getElem_mem long, (freed.each.get within long).same⟩

omit [DecidableEq Key] in
theorem Kept.tickEnd (kept : llc.Kept) (ran : llc.tickEnd config = .ok next) :
    next.Kept ∧ LosesOnly llc next := by
  obtain ⟨first, retries, ran⟩ := bind_eq_ok.mp ran
  obtain ⟨second, frees, ran⟩ := bind_eq_ok.mp ran
  cases ran
  obtain ⟨keptFirst, loses⟩ := kept.submitRetransmissions retries
  obtain ⟨keptSecond, loses'⟩ := keptFirst.submitFree frees
  exact ⟨keptSecond.frame ⟨rfl, rfl, rfl, rfl, rfl, rfl⟩, loses.trans ⟨loses'.ended, loses'.aired⟩⟩

/-! ### Reports of the MAC -/

omit [DecidableEq Key] in
theorem Kept.macReport (kept : llc.Kept) {message position : Nat} {transmitted : Bool}
    (ran : llc.macReport message position transmitted = .ok next) :
    next.Kept ∧ LosesOnly llc next := by
  unfold BasicLlc.macReport at ran
  split at ran
  · cases ran
  next copy found =>
    obtain ⟨ack, queued, is⟩ := bind_eq_some_iff.mp found
    obtain ⟨new, reported, ran⟩ := bind_eq_ok.mp ran
    rw [ok.injEq] at ran
    have member := mem_of_find?_eq_some queued
    have number := find?_some queued
    rw [decide_eq_true_eq] at number
    subst number
    cases transmitted with
    | false =>
      subst ran
      refine ⟨kept.report member is reported ?_ rfl rfl rfl rfl rfl, .of_eq rfl fun _ => id⟩
      simp
    | true =>
      unfold air at ran
      by_cases there : ack.message ∈ llc.aired
      · rw [if_pos rfl, if_pos there] at ran
        subst ran
        refine ⟨kept.report member is reported ?_ rfl rfl rfl rfl rfl,
          .of_eq rfl fun _ => id⟩
        rw [if_neg fun both => both.2 there, append_nil]
      · rw [if_pos rfl, if_neg there] at ran
        subst ran
        refine ⟨kept.report member is reported ?_ rfl rfl rfl rfl rfl,
          .of_eq rfl fun _ there => mem_append_left _ there⟩
        rw [if_pos ⟨rfl, there⟩]

omit [DecidableEq Key] in
theorem Kept.macReportStray (kept : llc.Kept) {index : Nat} {transmitted : Bool}
    (ran : llc.macReportStray index transmitted = .ok next) : next.Kept ∧ LosesOnly llc next := by
  unfold BasicLlc.macReportStray at ran
  split at ran
  · cases ran
  next message copy found =>
    obtain ⟨new, reported, ran⟩ := bind_eq_ok.mp ran
    rw [ok.injEq] at ran
    obtain ⟨pending, -⟩ := AttemptCopy.report_ok reported
    -- a copy that is still pending is of a message that was on the air before
    have aired : message ∈ llc.aired := by
      rcases kept.stray _ (mem_of_getElem? found) with there | gone
      · exact there
      · cases pending.symm.trans gone
    have marked : ({ llc with stray := llc.stray.set index (message, new) } :
        BasicLlc Key).Kept := by
      refine { kept with stray := fun pair there => ?_ }
      rcases mem_or_eq_of_mem_set there with old | rfl
      · exact kept.stray pair old
      · exact .inl aired
    rw [air, if_pos aired, ite_self] at ran
    subst ran
    exact ⟨marked, .of_eq rfl fun _ => id⟩

end

end BasicLlc

end Bluestation
