/-
**Every numbered PDU is acknowledged once.**

A received PDU that asks for an acknowledgement waits in a list until a message to its terminal takes
the acknowledgement along, or until the end of the timeslot, when a bare one is sent.

* `BasicLlc.Acknowledged` — each PDU that was taken up is acknowledged by exactly one of these, with
  its number, to its terminal, under its protection; and nothing else is acknowledged.
* `acknowledged_once` — in every reachable state, with nothing left waiting after a timeslot.
* `acknowledgement_held_back` — a refused PDU gets none, and a message that takes one along may wait.
-/

import Bluestation.Llc.StopAndWait

namespace Bluestation

open Bits Machines Queues List Option Except BasicLlc
open scoped List

variable {Key : Type} [DecidableEq Key]

namespace BasicLlc

variable {llc next : BasicLlc Key} {config : SharedConfig}

/-! ### Which PDU an acknowledgement is for -/

def replies (llc : BasicLlc Key) : List Nat :=
  llc.toUmac.filterMap fun
    | .reply cause _ => some cause
    | .copy _ _ => none

def carried (llc : BasicLlc Key) : List Nat := llc.requested.filterMap (·.carries)

def waiting (llc : BasicLlc Key) : List Nat := llc.scheduledOutAcks.map (·.cause)

def Handed (llc : BasicLlc Key) (message : Nat) : Prop := ∃ req, .copy message req ∈ llc.toUmac

/-- A bare acknowledgement of a received PDU. -/
structure Replies (req : TmaUnitdataReq Key) (received : Received Key) : Prop where
  pdu : req.pdu = (BlAck.mk false received.ns).wire
  mainAddress : req.mainAddress = received.addr
  protection : req.airInterfaceEncryption = some (received.aieRequest.withScope .macResource)

/-- A message with an acknowledgement of a received PDU. -/
structure TakesAlong (asked : Requested Key) (received : Received Key) : Prop where
  pdu : ∃ hasFcs rest, asked.req.pdu = (BlAdata.mk hasFcs received.ns asked.ns).wire ++ rest
  owner : asked.addr.ssi = received.addr.ssi
  protection : received.aieRequest.sameProtectionAs (asked.req.airInterfaceEncryption.getD
    (.clear (.individual asked.addr.ssi) .macResource))

/-- What was handed to the MAC has a reason: a request, or a received PDU. -/
def Justified (requested : List (Requested Key)) (received : List (Received Key)) :
    Submission Key → Prop
  | .copy message req => ∃ asked ∈ requested[message]?, req.CopyOf asked.req
  | .reply cause req => ∃ one ∈ received[cause]?, Replies req one

/-- The header of a message is as its request says: with an acknowledgement, or without. -/
def Headed (received : List (Received Key)) (asked : Requested Key) : Prop :=
  match asked.carries with
  | some cause => ∃ one ∈ received[cause]?, TakesAlong asked one
  | none => ∃ hasFcs rest, asked.req.pdu = (BlData.mk hasFcs asked.ns).wire ++ rest

/-- **Each received PDU has exactly one acknowledgement**, waiting, sent alone, or taken along. -/
structure Acknowledged (llc : BasicLlc Key) : Prop where
  once : (llc.waiting ++ (llc.replies ++ llc.carried)).Perm (List.range llc.received.length)
  scheduled : ∀ ack ∈ llc.scheduledOutAcks,
    llc.received[ack.cause]? = some ⟨ack.addr, ack.nr, ack.ts, ack.aieRequest⟩
  justified : ∀ submission ∈ llc.toUmac, Justified llc.requested llc.received submission
  headed : ∀ asked ∈ llc.requested, Headed llc.received asked
  handed : ∀ ack ∈ llc.outboundMessages, ack.Outstanding → llc.Handed ack.message
  handedEnded : ∀ pair ∈ llc.ended, llc.Handed pair.1

omit [DecidableEq Key] in
theorem getElem?_append_of {α : Type} {list : List α} {index : Nat} {value : α} (more : List α)
    (is : list[index]? = some value) : (list ++ more)[index]? = some value := by
  rw [List.getElem?_append_left (List.getElem?_eq_some_iff.mp is).1, is]

omit [DecidableEq Key] in
theorem Justified.mono {requested asked' : List (Requested Key)} {received later : List (Received Key)}
    {submission : Submission Key} (justified : Justified requested received submission)
    (asks : ∀ (index : Nat) asked, requested[index]? = some asked → asked'[index]? = some asked)
    (receives : ∀ (index : Nat) one, received[index]? = some one → later[index]? = some one) :
    Justified asked' later submission := by
  cases submission with
  | copy message req =>
    obtain ⟨asked, is, copies⟩ := justified
    exact ⟨asked, asks _ _ is, copies⟩
  | reply cause req =>
    obtain ⟨one, is, replies⟩ := justified
    exact ⟨one, receives _ _ is, replies⟩

theorem Headed.mono {received later : List (Received Key)} {asked : Requested Key}
    (headed : Headed received asked) : Headed (received ++ later) asked := by
  unfold Headed at headed ⊢
  cases is : asked.carries with
  | none =>
    rw [is] at headed
    exact headed
  | some cause =>
    rw [is] at headed
    obtain ⟨one, there, takes⟩ := headed
    exact ⟨one, getElem?_append_of later there, takes⟩

/-! ### The acknowledgement a message takes along -/

variable {addr : TetraAddress} {aieRequest : AieRequest Key}

variable {queue rest : List (ScheduledOutAck Key)}

theorem getOutAck_some {timeslot : Nat}
    {ack : ScheduledOutAck Key}
    (found : getOutAckSeqIfAny addr timeslot aieRequest queue = (some ack, rest)) :
    ack.addr.ssi = addr.ssi ∧ ack.aieRequest.sameProtectionAs aieRequest ∧
      ∃ front back, queue = front ++ ack :: back ∧ rest = front ++ back := by
  induction queue generalizing rest with
  | nil => cases found
  | cons first others ih =>
    unfold getOutAckSeqIfAny at found
    split at found
    next fits =>
      obtain ⟨rfl, rfl⟩ := found
      exact ⟨fits.1, fits.2.2, [], others, rfl, rfl⟩
    · rw [Prod.mk.injEq] at found
      obtain ⟨here, rfl⟩ := found
      obtain ⟨owner, protection, front, back, is, remains⟩ := ih (Prod.ext here rfl)
      refine ⟨owner, protection, first :: front, back, ?_, ?_⟩
      · rw [is, cons_append]
      · exact congrArg (List.cons first) remains

theorem getOutAck_none {timeslot : Nat}
    (found : getOutAckSeqIfAny addr timeslot aieRequest queue = (none, rest)) : rest = queue := by
  induction queue generalizing rest with
  | nil =>
    cases found
    rfl
  | cons first others ih =>
    unfold getOutAckSeqIfAny at found
    split at found
    · cases found
    · rw [Prod.mk.injEq] at found
      obtain ⟨here, rfl⟩ := found
      exact congrArg (List.cons first) (ih (Prod.ext here rfl))

namespace Acknowledged

section

variable (kept : llc.Acknowledged)

include kept

/-- Nothing is received, asked or sent, and the same messages are out. -/
theorem frame (scheduled : next.scheduledOutAcks = llc.scheduledOutAcks)
    (toUmac : next.toUmac = llc.toUmac) (requested : next.requested = llc.requested)
    (received : next.received = llc.received)
    (messages : ∀ new ∈ next.outboundMessages, new.Outstanding →
      ∃ old ∈ llc.outboundMessages, old.message = new.message ∧ old.Outstanding)
    (ended : ∀ pair ∈ next.ended, pair ∈ llc.ended ∨
      ∃ old ∈ llc.outboundMessages, old.message = pair.1 ∧ old.Outstanding) : next.Acknowledged := by
  have handed : ∀ message, llc.Handed message → next.Handed message := by
    rintro message ⟨req, there⟩
    exact ⟨req, toUmac ▸ there⟩
  refine ⟨?_, ?_, ?_, ?_, fun new there out => ?_, fun pair there => ?_⟩
  · rw [waiting, replies, carried, scheduled, toUmac, requested, received]
    exact kept.once
  · rw [scheduled, received]
    exact kept.scheduled
  · rw [toUmac, requested, received]
    exact kept.justified
  · rw [requested, received]
    exact kept.headed
  · obtain ⟨old, before, same, was⟩ := messages new there out
    exact handed _ (same ▸ kept.handed old before was)
  · rcases ended pair there with old | ⟨old, before, same, was⟩
    · exact handed _ (kept.handedEnded pair old)
    · exact handed _ (same ▸ kept.handed old before was)

/-- A numbered PDU is received: its acknowledgement waits. -/
theorem receive (prim : TmaUnitdataInd Key) (ns : Option Nat) :
    (llc.scheduleFor prim ns).Acknowledged := by
  cases ns with
  | none => exact kept
  | some ns =>
    refine ⟨?_, fun ack there => ?_, fun submission there => ?_, fun asked there => ?_,
      kept.handed, kept.handedEnded⟩
    · have waits : (llc.scheduleFor prim (some ns)).waiting =
          llc.waiting ++ [llc.received.length] := by
        rw [waiting, scheduleFor, scheduleOutgoingAck, map_append]
        rfl
      have longer : (llc.scheduleFor prim (some ns)).received.length = llc.received.length + 1 := by
        rw [scheduleFor, scheduleOutgoingAck, length_append, length_singleton]
      rw [waits, longer, range_succ, append_assoc]
      refine .trans ?_ (kept.once.append_right _)
      rw [append_assoc]
      exact .append_left _ perm_append_comm
    · rcases mem_append.mp there with old | new
      · exact getElem?_append_of _ (kept.scheduled ack old)
      · rw [mem_singleton.mp new]
        exact getElem?_concat_length
    · exact .mono (kept.justified submission there) (fun _ _ is => is)
        fun _ _ is => getElem?_append_of _ is
    · exact .mono (kept.headed asked there)

theorem processIncomingAck {addr : TetraAddress} {nr : Nat} {aieRequest : AieRequest Key}
    (ran : llc.processIncomingAck addr nr aieRequest = .ok next) : next.Acknowledged := by
  rcases processIncomingAck_cases ran with ⟨-, rfl⟩ | ⟨ack, rest, taken, outcome⟩
  · exact kept
  · obtain ⟨-, out, front, back, is, rfl⟩ := take_some taken
    have member : ack ∈ llc.outboundMessages := by
      rw [is]
      exact mem_append_right _ mem_cons_self
    have inside : ∀ other ∈ front ++ back, other ∈ llc.outboundMessages := by
      intro other there
      rw [is]
      exact (mem_append.mp there).elim (mem_append_left _)
        fun late => mem_append_right _ (mem_cons_of_mem _ late)
    rcases outcome with ⟨-, rfl⟩ | ⟨-, rfl⟩
    · refine kept.frame rfl rfl rfl rfl (fun new there _ => ?_) fun pair there => .inl there
      rcases mem_cons.mp there with rfl | other
      · exact ⟨ack, member, ExpectedInAck.noteReport_same.message.symm, out⟩
      · exact ⟨new, inside new other, rfl, ‹_›⟩
    · refine kept.frame rfl rfl rfl rfl (fun new there still => ⟨new, inside new there, rfl, still⟩)
        fun pair there => ?_
      refine (mem_append.mp there).imp_right fun last => ?_
      rw [mem_singleton.mp last]
      exact ⟨ack, member, rfl, out⟩

theorem rxTmaUnitdataInd {prim : TmaUnitdataInd Key}
    (ran : llc.rxTmaUnitdataInd config prim = .ok next) : next.Acknowledged := by
  obtain ⟨taken, -, ran⟩ := bind_eq_ok.mp ran
  cases taken with
  | none =>
    cases ran
    exact kept
  | some triple =>
    obtain ⟨pduType, header, pdu⟩ := triple
    obtain ⟨accepted, accepts, ran⟩ := bind_eq_ok.mp ran
    rw [ok.injEq] at ran
    have processed : accepted.Acknowledged := by
      have scheduled := kept.receive prim header.ns
      unfold accept at accepts
      split at accepts
      · exact scheduled.processIncomingAck accepts
      · cases accepts
        exact scheduled
    subst ran
    unfold deliver
    split
    · exact processed
    · exact processed.frame rfl rfl rfl rfl (fun new there out => ⟨new, there, rfl, out⟩)
        fun pair there => .inl there

/-- A message queues, with an acknowledgement or without. -/
theorem request {asked : Requested Key} {ack : ExpectedInAck Key}
    (requested : next.requested = llc.requested ++ [asked])
    (messages : next.outboundMessages = llc.outboundMessages ++ [ack]) (waits : ¬ ack.Outstanding)
    (toUmac : next.toUmac = llc.toUmac) (received : next.received = llc.received)
    (ended : next.ended = llc.ended) (headed : Headed llc.received asked)
    (takes : next.waiting ++ asked.carries.toList ~ llc.waiting)
    (among : ∀ one ∈ next.scheduledOutAcks, one ∈ llc.scheduledOutAcks) : next.Acknowledged := by
  have handed : ∀ message, llc.Handed message → next.Handed message := by
    rintro message ⟨req, there⟩
    exact ⟨req, toUmac ▸ there⟩
  have carries : next.carried = llc.carried ++ asked.carries.toList := by
    rw [carried, requested, filterMap_append]
    congr 1
  have sent : next.replies = llc.replies := by rw [replies, toUmac, replies]
  refine ⟨?_, fun one there => ?_, fun submission there => ?_, fun other there => ?_,
    fun new there out => ?_, fun pair there => ?_⟩
  · rw [sent, carries, received]
    refine .trans ?_ kept.once
    calc next.waiting ++ (llc.replies ++ (llc.carried ++ asked.carries.toList))
        ~ next.waiting ++ (asked.carries.toList ++ (llc.replies ++ llc.carried)) := by
          rw [← append_assoc llc.replies]
          exact .append_left _ perm_append_comm
      _ = next.waiting ++ asked.carries.toList ++ (llc.replies ++ llc.carried) :=
          (append_assoc _ _ _).symm
      _ ~ llc.waiting ++ (llc.replies ++ llc.carried) := takes.append_right _
  · rw [received]
    exact kept.scheduled one (among one there)
  · rw [toUmac] at there
    rw [requested, received]
    exact .mono (kept.justified submission there)
      (fun _ _ is => getElem?_append_of _ is) fun _ _ is => is
  · rw [requested] at there
    rw [received]
    rcases mem_append.mp there with old | new
    · exact kept.headed other old
    · exact mem_singleton.mp new ▸ headed
  · rw [messages] at there
    rcases mem_append.mp there with old | last
    · exact handed _ (kept.handed new old out)
    · exact absurd out (mem_singleton.mp last ▸ waits)
  · rw [ended] at there
    exact handed _ (kept.handedEnded pair there)

theorem rxTlaTldataReqBl {prim : TlDataReqBl Key} (ran : llc.rxTlaTldataReqBl config prim = .ok next)
    : next.Acknowledged := by
  obtain ⟨-, -, ran⟩ := bind_eq_ok.mp ran
  obtain ⟨-, -, ran⟩ := bind_eq_ok.mp ran
  obtain ⟨checksum, -, ran⟩ := bind_eq_ok.mp ran
  cases ran
  generalize found : getOutAckSeqIfAny prim.mainAddress (llc.deliveryTimeslot config prim)
    (prim.airInterfaceEncryption.getD (.clear (.individual prim.mainAddress.ssi) .macResource))
    llc.scheduledOutAcks = result
  obtain ⟨outAck, scheduled⟩ := result
  cases outAck with
  | none =>
    have same := getOutAck_none found
    refine kept.request rfl rfl Bool.false_ne_true rfl rfl rfl ?_ ?_ ?_
    · exact ⟨prim.fcsFlag, _, append_assoc _ _ _⟩
    · rw [map_none, toList_none, append_nil]
      exact same ▸ .refl _
    · exact fun one there => same ▸ there
  | some ack =>
    obtain ⟨owner, protection, front, back, is, rest⟩ := getOutAck_some found
    have member : ack ∈ llc.scheduledOutAcks := by
      rw [is]
      exact mem_append_right _ mem_cons_self
    refine kept.request rfl rfl Bool.false_ne_true rfl rfl rfl ?_ ?_ ?_
    · refine ⟨_, kept.scheduled ack member, ⟨prim.fcsFlag, _, append_assoc _ _ _⟩,
        owner.symm, protection⟩
    · rw [waiting, waiting, is]
      rw [rest, map_append, map_append, append_assoc]
      exact .append_left _ (perm_append_singleton _ _)
    · intro one there
      rw [rest] at there
      rw [is]
      exact (mem_append.mp there).elim (mem_append_left _)
        fun late => mem_append_right _ (mem_cons_of_mem _ late)

/-- Copies of queued messages are handed to the MAC. -/
theorem hand (known : llc.Kept) {sent : List (Nat × TmaUnitdataReq Key)}
    (scheduled : next.scheduledOutAcks = llc.scheduledOutAcks)
    (toUmac : next.toUmac = llc.toUmac ++ sent.map fun pair => .copy pair.1 pair.2)
    (requested : next.requested = llc.requested) (received : next.received = llc.received)
    (ended : next.ended = llc.ended) (copies : SendsCopies llc.outboundMessages sent)
    (messages : ∀ new ∈ next.outboundMessages, new.Outstanding →
      (∃ old ∈ llc.outboundMessages, old.message = new.message ∧ old.Outstanding) ∨
        ∃ pair ∈ sent, pair.1 = new.message) : next.Acknowledged := by
  have handed : ∀ message, llc.Handed message → next.Handed message := by
    rintro message ⟨req, there⟩
    exact ⟨req, toUmac ▸ mem_append_left _ there⟩
  have replied : next.replies = llc.replies := by
    rw [replies, toUmac, filterMap_append, filterMap_map]
    refine (congrArg _ ?_).trans (append_nil _)
    exact filterMap_eq_nil_iff.mpr fun _ _ => rfl
  refine ⟨?_, ?_, fun submission there => ?_, ?_, fun new there out => ?_, fun pair there => ?_⟩
  · rw [waiting, replied, carried, scheduled, requested, received]
    exact kept.once
  · rw [scheduled, received]
    exact kept.scheduled
  · rw [requested, received]
    rw [toUmac] at there
    rcases mem_append.mp there with old | new
    · exact kept.justified submission old
    · obtain ⟨pair, among, rfl⟩ := mem_map.mp new
      obtain ⟨ack, queued, is, copy⟩ := copies pair among
      obtain ⟨asked, at', -, -, buffer⟩ := known.known ack queued
      exact ⟨asked, is ▸ at', buffer ▸ copy⟩
  · rw [requested, received]
    exact kept.headed
  · rcases messages new there out with ⟨old, before, same, was⟩ | ⟨pair, among, same⟩
    · exact handed _ (same ▸ kept.handed old before was)
    · refine ⟨pair.2, toUmac ▸ mem_append_right _ ?_⟩
      rw [← same]
      exact mem_map_of_mem among
  · rw [ended] at there
    exact handed _ (kept.handedEnded pair there)

end

omit [DecidableEq Key] in
theorem sendsCopies_of_tried {aired : List Nat} {queue : List (ExpectedInAck Key)}
    {retried : List (Retried Key)}
    (each : List.Forall₂ (ExpectedInAck.Tried aired) queue retried) :
    SendsCopies queue (retried.flatMap fun one => one.sent.map (one.ack.message, ·)) := by
  intro pair member
  obtain ⟨one, there, among⟩ := mem_flatMap.mp member
  obtain ⟨req, sent, rfl⟩ := mem_map.mp among
  obtain ⟨place, within, rfl⟩ := getElem_of_mem there
  have long : place < queue.length := by rwa [each.length_eq]
  have tried := each.get long within
  exact ⟨_, getElem_mem long, tried.same.message, tried.sends req sent⟩

variable (kept : llc.Acknowledged)

include kept

theorem expire {ssi : Nat} (ran : llc.expire ssi = .ok next) : next.Acknowledged := by
  unfold BasicLlc.expire at ran
  split at ran
  · cases ran
  next ack rest taken =>
    obtain ⟨-, out, front, back, is, rfl⟩ := take_some taken
    obtain ⟨reporter, -, ran⟩ := bind_eq_ok.mp ran
    cases ran
    refine kept.frame rfl rfl rfl rfl (fun new there still => ⟨new, ?_, rfl, still⟩)
      fun pair there => ?_
    · rw [is]
      exact (mem_append.mp there).elim (mem_append_left _)
        fun late => mem_append_right _ (mem_cons_of_mem _ late)
    · refine (mem_append.mp there).imp_right fun last => ?_
      rw [mem_singleton.mp last, is]
      exact ⟨ack, mem_append_right _ mem_cons_self, rfl, out⟩

theorem expireAll {late : List Nat} (ran : late.foldlM BasicLlc.expire llc = .ok next) :
    next.Acknowledged := by
  induction late generalizing llc with
  | nil =>
    cases ran
    exact kept
  | cons ssi others ih =>
    obtain ⟨middle, expired, ran⟩ := bind_eq_ok.mp ran
    exact ih (kept.expire expired) ran

theorem submitRetransmissions (known : llc.Kept)
    (ran : llc.submitRetransmissionsToUmac config = .ok next) : next.Acknowledged := by
  obtain ⟨retried, tries, ran⟩ := bind_eq_ok.mp ran
  have each := retryMessages_spec known.sound tries
  have middle : (llc.noteRetried retried).Acknowledged := by
    refine kept.hand known rfl ?_ rfl rfl rfl (sendsCopies_of_tried each) fun new there out => ?_
    · rw [List.map_flatMap]
      simp only [List.map_map]
      rfl
    · obtain ⟨one, among, rfl⟩ := mem_map.mp there
      obtain ⟨place, within, rfl⟩ := getElem_of_mem among
      have long : place < llc.outboundMessages.length := by rwa [each.length_eq]
      have tried := each.get long within
      exact .inl ⟨_, getElem_mem long, tried.same.message.symm, tried.outstanding.mp out⟩
  exact middle.expireAll ran

theorem submitFree (known : llc.Kept) (ran : llc.submitFreeMessagesToUmac config = .ok next) :
    next.Acknowledged := by
  obtain ⟨⟨after, sent⟩, frees, ran⟩ := bind_eq_ok.mp ran
  cases ran
  have freed := submitFree_spec known.turn known.sound
    (fun ack _ none' => absurd none' not_mem_nil) frees
  exact kept.hand known rfl rfl rfl rfl rfl freed.sends freed.hands

/-- **Every acknowledgement that still waits is sent alone.** -/
theorem submitReplies : (llc.submitAckRepliesToUmac config).Acknowledged ∧
      (llc.submitAckRepliesToUmac config).scheduledOutAcks = [] := by
  have replied : (llc.submitAckRepliesToUmac config).replies = llc.replies ++ llc.waiting := by
    rw [replies, submitAckRepliesToUmac, filterMap_append, filterMap_map]
    congr 1
    exact congrFun filterMap_eq_map' _
  refine ⟨⟨?_, fun ack there => absurd there not_mem_nil, fun submission there => ?_,
    kept.headed, fun ack there out => ?_, fun pair there => ?_⟩, rfl⟩
  · rw [replied]
    refine .trans ?_ kept.once
    change [] ++ (llc.replies ++ llc.waiting ++ llc.carried) ~ _
    rw [nil_append, ← append_assoc]
    exact perm_append_comm.append_right _
  · rcases mem_append.mp there with old | new
    · exact kept.justified submission old
    · obtain ⟨ack, waits, rfl⟩ := mem_map.mp new
      exact ⟨_, kept.scheduled ack waits, rfl, rfl, rfl⟩
  · obtain ⟨req, sent⟩ := kept.handed ack there out
    exact ⟨req, mem_append_left _ sent⟩
  · obtain ⟨req, sent⟩ := kept.handedEnded pair there
    exact ⟨req, mem_append_left _ sent⟩

theorem tickEnd (known : llc.Kept) (ran : llc.tickEnd config = .ok next) :
    next.Acknowledged ∧ next.scheduledOutAcks = [] := by
  obtain ⟨first, retries, ran⟩ := bind_eq_ok.mp ran
  obtain ⟨second, frees, ran⟩ := bind_eq_ok.mp ran
  cases ran
  have keptFirst := kept.submitRetransmissions known retries
  exact (keptFirst.submitFree (known.submitRetransmissions retries).1 frees).submitReplies

/-- Reports of the MAC change receipts only. -/
theorem air (message : Nat) : (llc.air message).Acknowledged := by
  unfold BasicLlc.air
  split
  · exact kept
  · exact kept.frame rfl rfl rfl rfl (fun new there out => ⟨new, there, rfl, out⟩)
      fun pair there => .inl there

theorem macReport {message position : Nat} {transmitted : Bool}
    (ran : llc.macReport message position transmitted = .ok next) : next.Acknowledged := by
  unfold BasicLlc.macReport at ran
  split at ran
  · cases ran
  · obtain ⟨reported, -, ran⟩ := bind_eq_ok.mp ran
    rw [ok.injEq] at ran
    have marked : ({ llc with
        outboundMessages := llc.outboundMessages.map fun ack =>
          if ack.message = message then { ack with attempt := ack.attempt.set position reported }
          else ack } : BasicLlc Key).Acknowledged := by
      refine kept.frame rfl rfl rfl rfl (fun new there out => ?_) fun pair there => .inl there
      obtain ⟨old, before, rfl⟩ := mem_map.mp there
      refine ⟨old, before, ?_⟩
      split at out
      · exact ⟨by rw [if_pos ‹_›], out⟩
      · exact ⟨by rw [if_neg ‹_›], out⟩
    subst ran
    split
    · exact marked.air message
    · exact marked

theorem macReportStray {index : Nat} {transmitted : Bool}
    (ran : llc.macReportStray index transmitted = .ok next) : next.Acknowledged := by
  unfold BasicLlc.macReportStray at ran
  split at ran
  · cases ran
  next message copy found =>
    obtain ⟨reported, -, ran⟩ := bind_eq_ok.mp ran
    rw [ok.injEq] at ran
    have marked : ({ llc with stray := llc.stray.set index (message, reported) } :
        BasicLlc Key).Acknowledged :=
      kept.frame rfl rfl rfl rfl (fun new there out => ⟨new, there, rfl, out⟩)
        fun pair there => .inl there
    subst ran
    split
    · exact marked.air _
    · exact marked

end Acknowledged

/-! ### Runs -/

/-- The numbered PDU an event brings, once it has parsed, passed its check sequence and was not
refused. -/
def asks (llc : BasicLlc Key) : BasicEvent Key → Option (Received Key)
  | .unitdataInd config prim =>
    match llc.takeUp config prim with
    | .ok (some (_, header, _)) => header.ns.map
        (⟨prim.mainAddress, ·, (llc.dltime.addTimeslots (-2)).t, prim.aieRequest⟩)
    | _ => none
  | _ => none

omit [DecidableEq Key] in
theorem scheduleFor_received (llc : BasicLlc Key) (prim : TmaUnitdataInd Key) (ns : Option Nat) :
    (llc.scheduleFor prim ns).received = llc.received ++ (ns.map
      (⟨prim.mainAddress, ·, (llc.dltime.addTimeslots (-2)).t, prim.aieRequest⟩)).toList := by
  cases ns with
  | none => exact (append_nil _).symm
  | some ns => rfl

omit [DecidableEq Key] in
theorem expireAll_received {late : List Nat} (ran : late.foldlM expire llc = .ok next) :
    next.received = llc.received := by
  induction late generalizing llc with
  | nil =>
    cases ran
    rfl
  | cons ssi others ih =>
    obtain ⟨middle, expired, ran⟩ := bind_eq_ok.mp ran
    rw [ih ran]
    unfold expire at expired
    split at expired
    · cases expired
    · obtain ⟨reporter, -, expired⟩ := bind_eq_ok.mp expired
      cases expired
      rfl

omit [DecidableEq Key] in
theorem tickEnd_received (ran : llc.tickEnd config = .ok next) : next.received = llc.received := by
  obtain ⟨first, retries, ran⟩ := bind_eq_ok.mp ran
  obtain ⟨second, frees, ran⟩ := bind_eq_ok.mp ran
  obtain ⟨retried, -, retries⟩ := bind_eq_ok.mp retries
  obtain ⟨⟨after, sent⟩, -, frees⟩ := bind_eq_ok.mp frees
  cases ran
  cases frees
  have same : first.received = (llc.noteRetried retried).received := expireAll_received retries
  exact same

theorem processIncomingAck_received {nr : Nat}
    (ran : llc.processIncomingAck addr nr aieRequest = .ok next) : next.received = llc.received := by
  rcases processIncomingAck_cases ran with ⟨-, rfl⟩ | ⟨ack, rest, -, ⟨-, rfl⟩ | ⟨-, rfl⟩⟩
  · rfl
  · rfl
  · rfl

omit [DecidableEq Key] in
theorem deliver_received (prim : TmaUnitdataInd Key) (pduType : LlcPduType) (header : BlHeader)
    (pdu : BitBuffer) : (llc.deliver prim pduType header pdu).received = llc.received := by
  unfold deliver
  split
  · rfl
  · rfl

omit [DecidableEq Key] in
theorem air_received (message : Nat) : (llc.air message).received = llc.received := by
  unfold air
  split
  · rfl
  · rfl

variable {event : BasicEvent Key}

/-- **A PDU is received for every event that brings one.** -/
theorem received_step (handled : llc.handle event = .ok next) :
    next.received = llc.received ++ (llc.asks event).toList := by
  cases event with
  | tickStart time =>
    cases handled
    exact (append_nil _).symm
  | request config prim =>
    obtain ⟨-, -, ran⟩ := bind_eq_ok.mp handled
    obtain ⟨-, -, ran⟩ := bind_eq_ok.mp ran
    obtain ⟨checksum, -, ran⟩ := bind_eq_ok.mp ran
    cases ran
    exact (append_nil _).symm
  | unitdataInd config prim =>
    obtain ⟨taken, takes, ran⟩ := bind_eq_ok.mp handled
    dsimp only [asks]
    rw [takes]
    cases taken with
    | none =>
      cases ran
      exact (append_nil _).symm
    | some triple =>
      obtain ⟨accepted, accepts, ran⟩ := bind_eq_ok.mp ran
      cases ran
      rw [deliver_received, ← scheduleFor_received]
      unfold accept at accepts
      split at accepts
      · exact processIncomingAck_received accepts
      · cases accepts
        rfl
  | macReport message position transmitted =>
    refine .trans ?_ (append_nil _).symm
    change llc.macReport message position transmitted = .ok next at handled
    unfold macReport at handled
    split at handled
    · cases handled
    · obtain ⟨reported, -, ran⟩ := bind_eq_ok.mp handled
      cases transmitted with
      | false =>
        cases ran
        rfl
      | true =>
        cases ran
        exact air_received message
  | macReportStray index transmitted =>
    refine .trans ?_ (append_nil _).symm
    change llc.macReportStray index transmitted = .ok next at handled
    unfold macReportStray at handled
    split at handled
    · cases handled
    · obtain ⟨reported, -, ran⟩ := bind_eq_ok.mp handled
      cases transmitted with
      | false =>
        cases ran
        rfl
      | true =>
        cases ran
        exact air_received _
  | tickEnd config =>
    rw [tickEnd_received handled]
    exact (append_nil _).symm

/-- **One event.** -/
theorem Acknowledged.step (kept : llc.Acknowledged) (known : llc.Kept)
    (handled : llc.handle event = .ok next) : next.Acknowledged := by
  cases event with
  | tickStart time =>
    cases handled
    exact kept.frame rfl rfl rfl rfl (fun new there out => ⟨new, there, rfl, out⟩)
      fun pair there => .inl there
  | request config prim => exact kept.rxTlaTldataReqBl handled
  | unitdataInd config prim => exact kept.rxTmaUnitdataInd handled
  | macReport message position transmitted => exact kept.macReport handled
  | macReportStray index transmitted => exact kept.macReportStray handled
  | tickEnd config => exact (kept.tickEnd known handled).1

theorem acknowledged_new (now : TdmaTime) : (BasicLlc.new now : BasicLlc Key).Acknowledged where
  once := .refl _
  scheduled _ there := nomatch there
  justified _ there := nomatch there
  headed _ there := nomatch there
  handed _ there := nomatch there
  handedEnded _ there := nomatch there

theorem reachable_acknowledged (reachable : Reachable machine always llc) :
    llc.Kept ∧ llc.Acknowledged := by
  have starts : ∀ first : BasicLlc Key, machine.start first → first.Kept ∧ first.Acknowledged := by
    rintro first ⟨now, rfl⟩
    exact ⟨kept_new now, acknowledged_new now⟩
  refine reachable.invariant starts fun state event after both _ stepped => ?_
  have handled := handle_of_step stepped
  exact ⟨(both.1.step handled).1, both.2.step both.1 handled⟩

/-- **Every numbered PDU that is taken up is acknowledged once.** In every reachable state each of
them has exactly one acknowledgement: it waits, was sent alone, or was taken along by a message. The
bare one and the message have its number, go to its terminal, and come under its protection; whatever
is handed to the MAC is such an acknowledgement or a copy of a requested message; and each message
waits in its queue or was handed to the MAC. An event adds the PDU it brings; after the end of a
timeslot no acknowledgement waits. -/
theorem acknowledged_once (reachable : Reachable machine always llc) :
    (llc.waiting ++ (llc.replies ++ llc.carried)).Perm (List.range llc.received.length) ∧
      (∀ submission ∈ llc.toUmac, Justified llc.requested llc.received submission) ∧
      (∀ asked ∈ llc.requested, Headed llc.received asked) ∧
      (∀ message < llc.requested.length, llc.Handed message ∨
        ∃ ack ∈ llc.outboundMessages, ack.message = message ∧ ack.tSubmittedToUmac = none) ∧
      ∀ event next, machine.step llc event = some next →
        next.received = llc.received ++ (llc.asks event).toList ∧
          ∀ config, event = .tickEnd config → next.waiting = [] := by
  obtain ⟨known, kept⟩ := reachable_acknowledged reachable
  refine ⟨kept.once, kept.justified, kept.headed, fun message small => ?_,
    fun event next stepped => ?_⟩
  · rcases known.accounted message small with ⟨ack, queued, rfl⟩ | ⟨state, ended⟩
    · by_cases out : ack.Outstanding
      · exact .inl (kept.handed ack queued out)
      · refine .inr ⟨ack, queued, rfl, ?_⟩
        rwa [ExpectedInAck.Outstanding, Bool.not_eq_true, isSome_eq_false_iff,
          isNone_iff_eq_none] at out
    · exact .inl (kept.handedEnded _ ended)
  · have handled := handle_of_step stepped
    refine ⟨received_step handled, ?_⟩
    rintro config rfl
    rw [waiting, (kept.tickEnd known handled).2, map_nil]

/-! ### Runs with one PDU -/

def clearData : TmaUnitdataInd Unit :=
  ⟨some (.ofBits ((BlData.mk false 0).wire ++ [false, true, false])), terminal1001, none⟩

def openCell : SharedConfig := { boundCell with aieEnabled := false }

theorem acknowledged_once_alone :
    ∃ llc : BasicLlc Unit, Runs machine always (.new ⟨3, 1, 1, 0⟩) llc ∧ llc.replies = [0] ∧
      (llc.waiting ++ (llc.replies ++ llc.carried)).Perm (List.range llc.received.length) := by
  have leads : (exec machine (.new ⟨3, 1, 1, 0⟩)
      [.unitdataInd openCell clearData, .tickEnd openCell]).any
        (fun llc : BasicLlc Unit => decide (llc.replies = [0])) = true := by decide +kernel
  obtain ⟨llc, run, replied⟩ := exec_any (fun _ _ _ => trivial) leads
  exact ⟨llc, run, of_decide_eq_true replied, (acknowledged_once ⟨_, ⟨_, rfl⟩, run⟩).1⟩

/-- **An acknowledgement may be refused or held back.** Data in clear from a terminal that is bound
to encryption is acknowledged by nothing; and where a message takes an acknowledgement along while
another one is out for the terminal, the timeslot ends without the acknowledgement being sent. -/
theorem acknowledgement_held_back :
    (∃ llc : BasicLlc Unit, Runs machine always (.new ⟨3, 1, 1, 0⟩) llc ∧
      (exec machine (.new ⟨3, 1, 1, 0⟩) [.unitdataInd boundCell clearData, .tickEnd boundCell]) =
        some llc ∧ llc.toUmac = [] ∧ llc.waiting = []) ∧
    ∃ llc : BasicLlc Unit, Runs machine always (.new ⟨3, 1, 1, 0⟩) llc ∧
      (exec machine (.new ⟨3, 1, 1, 0⟩) [.request openCell clearRequest, .tickEnd openCell,
        .unitdataInd openCell clearData, .request openCell clearRequest, .tickEnd openCell]) =
          some llc ∧ llc.received.length = 1 ∧ llc.carried = [0] ∧ llc.replies = [] ∧
        ¬ llc.Handed 1 := by
  constructor
  · have leads : (exec machine (.new ⟨3, 1, 1, 0⟩)
        [.unitdataInd boundCell clearData, .tickEnd boundCell]).any
          (fun llc : BasicLlc Unit => decide (llc.toUmac = [] ∧ llc.waiting = [])) = true := by
      decide +kernel
    obtain ⟨llc, executed, facts⟩ := (any_eq_true _ _).mp leads
    exact ⟨llc, exec_runs (fun _ _ _ => trivial) executed, executed, of_decide_eq_true facts⟩
  · have leads : (exec machine (.new ⟨3, 1, 1, 0⟩) [.request openCell clearRequest,
        .tickEnd openCell, .unitdataInd openCell clearData, .request openCell clearRequest,
        .tickEnd openCell]).any (fun llc : BasicLlc Unit => decide (llc.received.length = 1 ∧
          llc.carried = [0] ∧ llc.replies = [] ∧ ∀ submission ∈ llc.toUmac,
            submission matches .copy 0 _)) = true := by
      decide +kernel
    obtain ⟨llc, executed, facts⟩ := (any_eq_true _ _).mp leads
    obtain ⟨received, carried, replies, first⟩ := of_decide_eq_true facts
    refine ⟨llc, exec_runs (fun _ _ _ => trivial) executed, executed, received, carried, replies, ?_⟩
    rintro ⟨req, there⟩
    cases first _ there

end BasicLlc

end Bluestation
