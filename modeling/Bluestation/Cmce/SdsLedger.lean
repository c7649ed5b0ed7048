/-
**The ledger of short data deliveries.**

The deliveries to one terminal are numbered. A delivery waits under the network's transaction, or under
a number of the service, until its transmission has ended.

* `SdsBs.Kept` — the ledger is balanced, and what waits, what was reported and what the terminals
  have acknowledged belong together.
* `SdsBs.Kept.refuse`, `SdsBs.Kept.track`, `SdsBs.Kept.settle` — the three moves of the ledger.
* `SdsBs.Kept.mark` — a receipt may move as long as its delivery is not settled.
-/

import Bluestation.Lib.Docket
import Bluestation.Cmce.Sds

namespace Bluestation

open Machines List Option Nat Docket TxReporter

/-! ### What is reported -/

def SdsSubmission.number : SdsSubmission → Option Nat
  | sdsDeliveryResult number _ _ _ _ => number
  | _ => none

def PendingSdsDelivery.request (pending : PendingSdsDelivery) : SdsRequest :=
  ⟨pending.transactionId, pending.originatorIssi, pending.destinationIssi, some pending.reporter⟩

namespace SdsBs

section Reports

variable (s : SdsBs)

def taken : List SdsSubmission := s.swmi.elim [] (·.taken)

def results (number : Nat) : List SdsSubmission := s.taken.filter (·.number = some number)

def failures (number : Nat) : List Nat :=
  (s.queue.filter (·.failureOf = some number)).map (·.request.mainAddress.ssi)

def acknowledged (request : SdsRequest) : Bool :=
  request.reporter.any fun index => (s.reporter index).state = .acknowledged

def docket : Docket (Bool × Nat) where
  taken := s.requests.length
  waiting key := (s.pendingDeliveries.lookup key).map (·.number)
  answered := s.taken.filterMap (·.number) ++ s.queue.filterMap (·.failureOf)

/-- The network gets one result; an originator of the cell one failure, if it was not acknowledged. -/
def owed (number : Nat) : Nat :=
  match s.requests[number]? with
  | none => 0
  | some request => if request.transactionId.isNone && s.acknowledged request then 0 else 1

def Waits (number : Nat) : Prop := s.docket.Waits number

/-- What holds in every run of permitted steps. -/
structure Kept : Prop where
  balanced : s.docket.Balanced s.owed
  held : ∀ key pending, s.pendingDeliveries.lookup key = some pending →
    s.requests[pending.number]? = some pending.request ∧
      key.1 = pending.transactionId.isSome ∧ pending.transactionId ≠ some 0
  ended : ∀ (number : Nat) (request : SdsRequest) (index : Nat), s.requests[number]? = some request →
    request.reporter = some index → ¬ s.Waits number → (s.reporter index).isInFinalState = true
  issued : ∀ (number : Nat) (request : SdsRequest) (index : Nat), s.requests[number]? = some request →
    request.reporter = some index → index < s.reporters.length
  apart : ∀ (first second : Nat) (request other : SdsRequest) (index : Nat),
    s.requests[first]? = some request → s.requests[second]? = some other →
    request.reporter = some index →
    other.reporter = some index → first = second
  carried : ∀ (number : Nat) (request : SdsRequest) (index : Nat),
    s.requests[number]? = some request → request.reporter = some index →
    ∃ downlink ∈ s.queue, downlink.request.txReporter = some index
  result : ∀ number transactionId destinationIssi delivered cause,
    .sdsDeliveryResult (some number) transactionId destinationIssi delivered cause ∈ s.taken →
    ∃ request, s.requests[number]? = some request ∧ request.transactionId = some transactionId ∧
      request.destinationIssi = destinationIssi ∧ s.acknowledged request = delivered
  failure : ∀ downlink ∈ s.queue, ∀ number, downlink.failureOf = some number →
    ∃ request, s.requests[number]? = some request ∧ request.transactionId = none ∧
      downlink.request.mainAddress.ssi = request.originatorIssi

end Reports

variable {s next : SdsBs} {number transactionId destinationIssi cause other : Nat}
  {request : SdsRequest} {messages : List SdsSubmission} {downlinks : List SdsDownlink}
  {delivered : Bool}

theorem mem_results {message : SdsSubmission} :
    message ∈ s.results number ↔ ∃ transactionId destinationIssi delivered cause,
      message = .sdsDeliveryResult (some number) transactionId destinationIssi delivered cause ∧
        message ∈ s.taken := by
  unfold results
  rw [mem_filter, decide_eq_true_iff]
  constructor
  · rintro ⟨member, numbered⟩
    cases message with
    | sdsDeliveryResult one transactionId destinationIssi delivered cause =>
      obtain rfl : one = some number := numbered
      exact ⟨_, _, _, _, rfl, member⟩
    | sdsSubmit => cases numbered
    | statusSubmit => cases numbered
  · rintro ⟨_, _, _, _, rfl, member⟩
    exact ⟨member, rfl⟩

theorem count_answered (number : Nat) : s.docket.answered.count number =
    (s.results number).length + (s.failures number).length := by
  unfold docket results failures
  rw [List.count_append]
  congr 1
  · induction s.taken with
    | nil => rfl
    | cons message rest ih =>
      cases numbered : message.number with
      | none => simp [numbered, ih]
      | some one => by_cases same : one = number <;> simp [numbered, same, ih]
  · induction s.queue with
    | nil => rfl
    | cons downlink rest ih =>
      cases numbered : downlink.failureOf with
      | none => simp [numbered, ih]
      | some one => by_cases same : one = number <;> simp [numbered, same, ih]

/-! ### What a step may do to the ledger -/

theorem reporter_of_grows (grows : s.reporters <+: next.reporters) {index : Nat}
    (less : index < s.reporters.length) : next.reporter index = s.reporter index := by
  obtain ⟨more, whole⟩ := grows
  show next.reporters.getD index .new = s.reporters.getD index .new
  rw [← whole, getD_eq_getElem?_getD, getD_eq_getElem?_getD, getElem?_append_left less]

theorem acknowledged_congr (same : ∀ index ∈ request.reporter, next.reporter index = s.reporter index) :
    next.acknowledged request = s.acknowledged request := by
  unfold acknowledged
  cases here : request.reporter with
  | none => rfl
  | some index => simp only [any_some, same index here]

theorem Kept.acknowledged_of_grows (kept : s.Kept) (grows : s.reporters <+: next.reporters)
    (noted : s.requests[number]? = some request) :
    next.acknowledged request = s.acknowledged request :=
  acknowledged_congr fun index here =>
    reporter_of_grows grows (kept.issued number request index noted here)

/-- What leaves the service: messages to the network that it takes, and downlink requests. -/
structure Sends (s next : SdsBs) (messages : List SdsSubmission) (downlinks : List SdsDownlink) :
    Prop where
  requests : next.requests = s.requests
  pending : next.pendingDeliveries = s.pendingDeliveries
  reporters : s.reporters <+: next.reporters
  taken : next.taken = s.taken ++ messages
  queue : next.queue = s.queue ++ downlinks

theorem Sends.refl (s : SdsBs) : Sends s s [] [] :=
  ⟨rfl, rfl, prefix_rfl, (append_nil _).symm, (append_nil _).symm⟩

theorem Sends.trans {after : SdsBs} {later : List SdsSubmission} {further : List SdsDownlink}
    (first : Sends s next messages downlinks) (second : Sends next after later further) :
    Sends s after (messages ++ later) (downlinks ++ further) where
  requests := second.requests.trans first.requests
  pending := second.pending.trans first.pending
  reporters := first.reporters.trans second.reporters
  taken := by rw [second.taken, first.taken, append_assoc]
  queue := by rw [second.queue, first.queue, append_assoc]

def Plain (messages : List SdsSubmission) (downlinks : List SdsDownlink) : Prop :=
  (∀ message ∈ messages, message.number = none) ∧ ∀ downlink ∈ downlinks, downlink.failureOf = none

theorem Plain.nil : Plain [] [] := ⟨forall_mem_nil _, forall_mem_nil _⟩

theorem Plain.filterMap (plain : Plain messages downlinks) : messages.filterMap (·.number) = [] ∧
      downlinks.filterMap (·.failureOf) = [] :=
  ⟨filterMap_eq_nil_iff.mpr plain.1, filterMap_eq_nil_iff.mpr plain.2⟩

/-- **Whatever is neither a result nor a failure leaves the ledger alone.** -/
theorem Kept.plain (kept : s.Kept) (sends : Sends s next messages downlinks)
    (plain : Plain messages downlinks) : next.Kept := by
  have same : next.docket = s.docket := by
    unfold docket
    rw [sends.requests, sends.pending, sends.taken, sends.queue, filterMap_append,
      filterMap_append, plain.filterMap.1, plain.filterMap.2, append_nil, append_nil]
  have acked {number : Nat} {request : SdsRequest} (noted : s.requests[number]? = some request) :=
    kept.acknowledged_of_grows sends.reporters noted
  have waits (number : Nat) : next.Waits number ↔ s.Waits number := by
    unfold Waits
    rw [same]
  constructor
  · rw [same]
    refine kept.balanced.congr fun number _ _ => ?_
    unfold owed
    rw [sends.requests]
    cases noted : s.requests[number]? with
    | none => rfl
    | some request =>
      dsimp only
      rw [acked noted]
  · rw [sends.requests, sends.pending]
    exact kept.held
  · intro number request index noted here settled
    rw [sends.requests] at noted
    rw [reporter_of_grows sends.reporters (kept.issued number request index noted here)]
    exact kept.ended number request index noted here ((waits number).not.mp settled)
  · intro number request index noted here
    rw [sends.requests] at noted
    exact (kept.issued number request index noted here).trans_le sends.reporters.length_le
  · rw [sends.requests]
    exact kept.apart
  · intro number request index noted here
    rw [sends.requests] at noted
    rw [sends.queue]
    exact (kept.carried number request index noted here).imp fun _ carries =>
      ⟨mem_append_left _ carries.1, carries.2⟩
  · intro number transactionId destinationIssi delivered cause member
    rw [sends.taken, mem_append] at member
    rcases member with old | new
    · obtain ⟨request, noted, transaction, destination, ack⟩ := kept.result _ _ _ _ _ old
      exact ⟨request, sends.requests ▸ noted, transaction, destination, (acked noted).trans ack⟩
    · exact nomatch plain.1 _ new
  · intro downlink member number failureOf
    rw [sends.queue, mem_append] at member
    rcases member with old | new
    · rw [sends.requests]
      exact kept.failure downlink old number failureOf
    · rw [plain.2 downlink new] at failureOf
      cases failureOf

theorem noted_of_grows (grows : s.requests <+: next.requests)
    (noted : s.requests[number]? = some request) : next.requests[number]? = some request := by
  obtain ⟨more, whole⟩ := grows
  obtain ⟨less, _⟩ := List.getElem?_eq_some_iff.mp noted
  rw [← whole, List.getElem?_append_left less, noted]

theorem Kept.owed_of_grows (kept : s.Kept) (grows : s.requests <+: next.requests)
    (receipts : s.reporters <+: next.reporters) (less : number < s.requests.length) :
    s.owed number = next.owed number := by
  have noted := getElem?_eq_getElem less
  unfold owed
  rw [noted, noted_of_grows grows noted]
  dsimp only
  rw [kept.acknowledged_of_grows receipts noted]

theorem Kept.result_of_grows (kept : s.Kept) (grows : s.requests <+: next.requests)
    (receipts : s.reporters <+: next.reporters)
    (old : .sdsDeliveryResult (some number) transactionId destinationIssi delivered cause ∈ s.taken) :
    ∃ request, next.requests[number]? = some request ∧
      request.transactionId = some transactionId ∧ request.destinationIssi = destinationIssi ∧
      next.acknowledged request = delivered := by
  obtain ⟨request, noted, transaction, destination, ack⟩ := kept.result _ _ _ _ _ old
  exact ⟨request, noted_of_grows grows noted, transaction, destination,
    (kept.acknowledged_of_grows receipts noted).trans ack⟩

theorem Kept.failure_of_grows (kept : s.Kept) (grows : s.requests <+: next.requests)
    {downlink : SdsDownlink} (old : downlink ∈ s.queue) (failureOf : downlink.failureOf = some number) :
    ∃ request, next.requests[number]? = some request ∧ request.transactionId = none ∧
      downlink.request.mainAddress.ssi = request.originatorIssi := by
  obtain ⟨request, noted, fits⟩ := kept.failure downlink old number failureOf
  exact ⟨request, noted_of_grows grows noted, fits⟩

/-- What a delivery is answered with: the network gets a result in any case, an originator of the
cell a failure if the message was not delivered. -/
def Answers (number : Nat) (request : SdsRequest) (delivered : Bool)
    (messages : List SdsSubmission) (downlinks : List SdsDownlink) : Prop :=
  match request.transactionId with
  | some transactionId => downlinks = [] ∧ ∃ cause, messages =
      [.sdsDeliveryResult (some number) transactionId request.destinationIssi delivered cause]
  | none => messages = [] ∧ if delivered then downlinks = [] else ∃ downlink : LcmcMleUnitdataReq,
      downlinks = [⟨downlink, some number⟩] ∧ downlink.mainAddress.ssi = request.originatorIssi

section

variable (answers : Answers number request delivered messages downlinks)

include answers

/-- The answers are as many as the delivery is owed. -/
theorem Answers.count :
    (messages.filterMap (·.number)).count other + (downlinks.filterMap (·.failureOf)).count other =
      (List.replicate (if request.transactionId.isNone && delivered then 0 else 1) number).count
        other := by
  unfold Answers at answers
  cases transaction : request.transactionId with
  | some transactionId =>
    rw [transaction] at answers
    obtain ⟨rfl, cause, rfl⟩ := answers
    rfl
  | none =>
    rw [transaction] at answers
    obtain ⟨rfl, rest⟩ := answers
    cases delivered with
    | true =>
      obtain rfl : downlinks = [] := rest
      rfl
    | false =>
      obtain ⟨downlink, rfl, _⟩ := rest
      show 0 + _ = _
      rw [zero_add]
      rfl

/-- A result among the answers is the one for this delivery. -/
theorem Answers.result {told : Bool}
    (member : .sdsDeliveryResult (some other) transactionId destinationIssi told cause ∈ messages) :
    other = number ∧ request.transactionId = some transactionId ∧
      request.destinationIssi = destinationIssi ∧ delivered = told := by
  unfold Answers at answers
  cases transaction : request.transactionId with
  | some transactionId =>
    rw [transaction] at answers
    obtain ⟨_, cause, rfl⟩ := answers
    rw [mem_singleton] at member
    cases member
    exact ⟨rfl, rfl, rfl, rfl⟩
  | none =>
    rw [transaction] at answers
    obtain ⟨rfl, _⟩ := answers
    cases member

/-- A failure message among the answers is the one for this delivery. -/
theorem Answers.failure {downlink : SdsDownlink} (member : downlink ∈ downlinks)
    (failureOf : downlink.failureOf = some other) :
    other = number ∧ request.transactionId = none ∧
      downlink.request.mainAddress.ssi = request.originatorIssi := by
  unfold Answers at answers
  cases transaction : request.transactionId with
  | some transactionId =>
    rw [transaction] at answers
    obtain ⟨rfl, _⟩ := answers
    cases member
  | none =>
    rw [transaction] at answers
    obtain ⟨_, rest⟩ := answers
    cases delivered with
    | true =>
      obtain rfl : downlinks = [] := rest
      cases member
    | false =>
      obtain ⟨request, rfl, address⟩ := rest
      obtain rfl := mem_singleton.mp member
      cases failureOf
      exact ⟨rfl, rfl, address⟩

end

/-! ### The three moves of the ledger -/

theorem owed_last (requests : next.requests = s.requests ++ [request]) :
    next.owed s.requests.length =
      if request.transactionId.isNone && next.acknowledged request then 0 else 1 := by
  unfold owed
  rw [requests, getElem?_append_right le_rfl, Nat.sub_self]
  rfl

theorem noted_append {other : SdsRequest} (noted : (s.requests ++ [request])[number]? = some other) :
    s.requests[number]? = some other ∨ number = s.requests.length ∧ request = other := by
  rcases lt_trichotomy number s.requests.length with less | same | more
  · exact .inl (by rwa [getElem?_append_left less] at noted)
  · subst same
    rw [getElem?_append_right le_rfl, Nat.sub_self] at noted
    exact .inr ⟨rfl, some.inj noted⟩
  · rw [List.getElem?_append_right more.le] at noted
    obtain ⟨bound, _⟩ := List.getElem?_eq_some_iff.mp noted
    rw [length_singleton] at bound
    omega

theorem count_append (taken : next.taken = s.taken ++ messages)
    (queue : next.queue = s.queue ++ downlinks) (number : Nat) :
    next.docket.answered.count number = s.docket.answered.count number +
      ((messages.filterMap (·.number)).count number +
        (downlinks.filterMap (·.failureOf)).count number) := by
  unfold docket
  rw [taken, queue, filterMap_append, filterMap_append, List.count_append,
    List.count_append, List.count_append, List.count_append]
  omega

section

variable (kept : s.Kept)

include kept

/-- **A delivery is refused at once.** -/
theorem Kept.refuse (requests : next.requests = s.requests ++ [request])
    (pending : next.pendingDeliveries = s.pendingDeliveries)
    (receipts : s.reporters <+: next.reporters) (taken : next.taken = s.taken ++ messages)
    (queue : next.queue = s.queue ++ downlinks) (blank : request.reporter = none)
    (answers : Answers s.requests.length request false messages downlinks) : next.Kept := by
  have grows : s.requests <+: next.requests := ⟨[request], requests.symm⟩
  have unsent : next.acknowledged request = false := by
    unfold acknowledged
    rw [blank]
    rfl
  have waits (number : Nat) : next.Waits number ↔ s.Waits number := by
    unfold Waits Docket.Waits docket
    rw [pending]
  have old {number index : Nat} {other : SdsRequest}
      (noted : next.requests[number]? = some other) (here : other.reporter = some index) :
      s.requests[number]? = some other := by
    rw [requests] at noted
    rcases noted_append noted with before | ⟨_, rfl⟩
    · exact before
    · cases blank.symm.trans here
  constructor
  · have grown : s.docket.Balanced next.owed := kept.balanced.congr fun number less _ =>
      kept.owed_of_grows grows receipts less
    refine grown.refuse.of_count ?_ ?_ fun number => ?_
    · show next.requests.length = s.requests.length + 1
      rw [requests, length_append, length_singleton]
    · show (fun key => (next.pendingDeliveries.lookup key).map (·.number)) = _
      rw [pending]
      rfl
    · rw [count_append taken queue, answers.count, Docket.refuse, Docket.count_answer]
      show _ = _ + (List.replicate (next.owed s.requests.length) _).count number
      rw [owed_last requests, unsent]
      rfl
  · intro key waiting found
    rw [pending] at found
    obtain ⟨noted, rest⟩ := kept.held key waiting found
    exact ⟨noted_of_grows grows noted, rest⟩
  · intro number other index noted here settled
    have before := old noted here
    rw [reporter_of_grows receipts (kept.issued number other index before here)]
    exact kept.ended number other index before here ((waits number).not.mp settled)
  · intro number other index noted here
    exact lt_of_lt_of_le (kept.issued number other index (old noted here) here) receipts.length_le
  · intro first second one another index firstNoted secondNoted firstHere secondHere
    exact kept.apart first second one another index (old firstNoted firstHere)
      (old secondNoted secondHere) firstHere secondHere
  · intro number other index noted here
    rw [queue]
    exact (kept.carried number other index (old noted here) here).imp fun _ carries =>
      ⟨mem_append_left _ carries.1, carries.2⟩
  · intro number transactionId destinationIssi delivered cause member
    rw [taken, mem_append] at member
    rcases member with before | new
    · exact kept.result_of_grows grows receipts before
    · obtain ⟨rfl, transaction, destination, told⟩ := answers.result new
      refine ⟨request, ?_, transaction, destination, unsent.trans told⟩
      rw [requests, getElem?_append_right le_rfl, Nat.sub_self]
      rfl
  · intro downlink member number failureOf
    rw [queue, mem_append] at member
    rcases member with before | new
    · exact kept.failure_of_grows grows before failureOf
    · obtain ⟨rfl, transaction, address⟩ := answers.failure new failureOf
      refine ⟨request, ?_, transaction, address⟩
      rw [requests, getElem?_append_right le_rfl, Nat.sub_self]
      rfl

/-- **A delivery is tracked under a free key, with a receipt of its own.** -/
theorem Kept.track {pending : PendingSdsDelivery} {key : Bool × Nat}
    (requests : next.requests = s.requests ++ [pending.request])
    (inserted : next.pendingDeliveries = s.pendingDeliveries.insert key pending)
    (receipts : s.reporters <+: next.reporters) (taken : next.taken = s.taken ++ messages)
    (queue : next.queue = s.queue ++ downlinks) (plain : Plain messages downlinks)
    (free : s.pendingDeliveries.lookup key = none) (numbered : pending.number = s.requests.length)
    (kind : key.1 = pending.transactionId.isSome) (real : pending.transactionId ≠ some 0)
    (fresh : pending.reporter = s.reporters.length)
    (issued : pending.reporter < next.reporters.length)
    (carries : ∃ downlink ∈ downlinks, downlink.request.txReporter = some pending.reporter) :
    next.Kept := by
  have grows : s.requests <+: next.requests := ⟨[pending.request], requests.symm⟩
  have last : next.requests[s.requests.length]? = some pending.request := by
    rw [requests, getElem?_append_right le_rfl, Nat.sub_self]
    rfl
  have docket : next.docket = { s.docket.take key with answered := next.docket.answered } := by
    have waiting : (fun place => (next.pendingDeliveries.lookup place).map (·.number)) =
        (s.docket.take key).waiting := by
      funext place
      rw [waiting_take, inserted, Dictionary.lookup_insert]
      by_cases same : place = key
      · rw [if_pos same, if_pos same]
        exact congrArg some numbered
      · rw [if_neg same, if_neg same]
        rfl
    unfold SdsBs.docket at waiting ⊢
    rw [waiting, requests, length_append]
    rfl
  have openKey : s.docket.waiting key = none := by
    show (s.pendingDeliveries.lookup key).map _ = none
    rw [free]
    rfl
  have waits (number : Nat) : next.Waits number ↔ number = s.requests.length ∨ s.Waits number := by
    unfold Waits
    rw [docket]
    exact waits_take openKey
  have receiptOf {number index : Nat} {other : SdsRequest}
      (noted : next.requests[number]? = some other) (here : other.reporter = some index) :
      s.requests[number]? = some other ∧ index < s.reporters.length ∨
        number = s.requests.length ∧ index = s.reporters.length := by
    rw [requests] at noted
    rcases noted_append noted with before | ⟨same, rfl⟩
    · exact .inl ⟨before, kept.issued number other index before here⟩
    · exact .inr ⟨same, (some.inj here).symm.trans fresh⟩
  constructor
  · have grown : s.docket.Balanced next.owed := kept.balanced.congr fun number less _ =>
      kept.owed_of_grows grows receipts less
    refine (grown.take openKey).of_count (by rw [docket]) (by rw [docket]) fun number => ?_
    rw [count_append taken queue, plain.filterMap.1, plain.filterMap.2]
    rfl
  · intro place waiting found
    rw [inserted, Dictionary.lookup_insert] at found
    by_cases same : place = key
    · rw [if_pos same, some_inj] at found
      subst found same
      exact ⟨numbered ▸ last, kind, real⟩
    · rw [if_neg same] at found
      obtain ⟨noted, rest⟩ := kept.held place waiting found
      exact ⟨noted_of_grows grows noted, rest⟩
  · intro number other index noted here settled
    rw [waits, not_or] at settled
    rcases receiptOf noted here with ⟨before, less⟩ | ⟨same, _⟩
    · rw [reporter_of_grows receipts less]
      exact kept.ended number other index before here settled.2
    · exact absurd same settled.1
  · intro number other index noted here
    rcases receiptOf noted here with ⟨_, less⟩ | ⟨_, same⟩
    · exact lt_of_lt_of_le less receipts.length_le
    · exact same ▸ fresh ▸ issued
  · intro first second one another index firstNoted secondNoted firstHere secondHere
    rcases receiptOf firstNoted firstHere with ⟨before, less⟩ | ⟨firstLast, same⟩ <;>
      rcases receiptOf secondNoted secondHere with ⟨before', less'⟩ | ⟨secondLast, same'⟩
    · exact kept.apart first second one another index before before' firstHere secondHere
    · exact absurd same' less.ne
    · exact absurd same less'.ne
    · exact firstLast.trans secondLast.symm
  · intro number other index noted here
    rw [queue]
    rcases receiptOf noted here with ⟨before, _⟩ | ⟨_, same⟩
    · exact (kept.carried number other index before here).imp fun _ carries =>
        ⟨mem_append_left _ carries.1, carries.2⟩
    · obtain ⟨downlink, member, carries⟩ := carries
      exact ⟨downlink, mem_append_right _ member,
        carries.trans (congrArg some (fresh.trans same.symm))⟩
  · intro number transactionId destinationIssi delivered cause member
    rw [taken, mem_append] at member
    rcases member with before | new
    · exact kept.result_of_grows grows receipts before
    · exact nomatch plain.1 _ new
  · intro downlink member number failureOf
    rw [queue, mem_append] at member
    rcases member with before | new
    · exact kept.failure_of_grows grows before failureOf
    · rw [plain.2 downlink new] at failureOf
      exact nomatch failureOf

/-- **A waiting delivery whose transmission has ended is settled.** -/
theorem Kept.settle {pending : PendingSdsDelivery} {key : Bool × Nat}
    (found : s.pendingDeliveries.lookup key = some pending) (requests : next.requests = s.requests)
    (erased : next.pendingDeliveries = s.pendingDeliveries.erase key)
    (receipts : next.reporters = s.reporters) (taken : next.taken = s.taken ++ messages)
    (queue : next.queue = s.queue ++ downlinks)
    (final : (s.reporter pending.reporter).isInFinalState = true)
    (answers : Answers pending.number pending.request (s.acknowledged pending.request) messages
      downlinks) : next.Kept := by
  obtain ⟨noted, _, _⟩ := kept.held key pending found
  have grows : s.requests <+: next.requests := requests ▸ prefix_rfl
  have kept' : s.reporters <+: next.reporters := receipts ▸ prefix_rfl
  have there : s.docket.waiting key = some pending.number := by
    show (s.pendingDeliveries.lookup key).map _ = _
    rw [found]
    rfl
  have owes : s.owed pending.number =
      if pending.request.transactionId.isNone && s.acknowledged pending.request then 0 else 1 := by
    unfold owed
    rw [noted]
  have docket : next.docket = { s.docket.close key (List.replicate (s.owed pending.number)
      pending.number) with answered := next.docket.answered } := by
    have waiting : (fun place => (next.pendingDeliveries.lookup place).map (·.number)) =
        (s.docket.close key []).waiting := by
      funext place
      rw [waiting_close, erased, Dictionary.lookup_erase]
      by_cases same : place = key
      · rw [if_pos same, if_pos same]
        rfl
      · rw [if_neg same, if_neg same]
        rfl
    unfold SdsBs.docket at waiting ⊢
    rw [waiting, requests]
    rfl
  have waits (number : Nat) : next.Waits number ↔ number ≠ pending.number ∧ s.Waits number := by
    unfold Waits
    rw [docket]
    exact waits_close kept.balanced there []
  have receipt (index : Nat) : next.reporter index = s.reporter index := by
    unfold reporter
    rw [receipts]
  constructor
  · have same : next.owed = s.owed := by
      unfold owed acknowledged reporter
      rw [requests, receipts]
    rw [same]
    refine (kept.balanced.close there).of_count (by rw [docket]) (by rw [docket]) fun number => ?_
    rw [count_append taken queue, answers.count, close, count_answer, owes]
    rfl
  · intro place waiting here
    rw [erased, Dictionary.lookup_erase] at here
    rw [requests]
    exact kept.held place waiting (ite_none_left_eq_some.mp here).2
  · intro number other index there here settled
    rw [requests] at there
    rw [waits, not_and] at settled
    rw [receipt]
    by_cases same : number = pending.number
    · subst same
      obtain rfl := some.inj (noted.symm.trans there)
      obtain rfl : pending.reporter = index := some.inj here
      exact final
    · exact kept.ended number other index there here (settled same)
  · rw [requests, receipts]
    exact kept.issued
  · rw [requests]
    exact kept.apart
  · intro number other index there here
    rw [requests] at there
    rw [queue]
    exact (kept.carried number other index there here).imp fun _ carries =>
      ⟨mem_append_left _ carries.1, carries.2⟩
  · intro number transactionId destinationIssi delivered cause member
    rw [taken, mem_append] at member
    rcases member with before | new
    · exact kept.result_of_grows grows kept' before
    · obtain ⟨rfl, transaction, destination, told⟩ := answers.result new
      refine ⟨pending.request, requests ▸ noted, transaction, destination, ?_⟩
      exact (kept.acknowledged_of_grows kept' noted).trans told
  · intro downlink member number failureOf
    rw [queue, mem_append] at member
    rcases member with before | new
    · exact kept.failure_of_grows grows before failureOf
    · obtain ⟨rfl, transaction, address⟩ := answers.failure new failureOf
      exact ⟨pending.request, requests ▸ noted, transaction, address⟩

theorem Kept.settled_of_result
    (told : .sdsDeliveryResult (some number) transactionId destinationIssi delivered cause ∈ s.taken) :
    ¬ s.Waits number := by
  intro waits
  have silent := kept.balanced.silent number (.inr waits)
  refine absurd (count_eq_zero.mp silent) (not_not_intro ?_)
  exact mem_append_left _ (mem_filterMap.mpr ⟨_, told, rfl⟩)

/-- **The link layer marks a receipt of which no settled delivery speaks.** -/
theorem Kept.mark {index : Nat} {reporter : TxReporter}
    (unsettled : ∀ number request, s.requests[number]? = some request →
      request.reporter = some index → s.Waits number) :
    ({ s with reporters := s.reporters.set index reporter } : SdsBs).Kept := by
  have other {one : Nat} (different : one ≠ index) :
      ({ s with reporters := s.reporters.set index reporter } : SdsBs).reporter one =
        s.reporter one := by
    show (s.reporters.set index reporter).getD one .new = s.reporters.getD one .new
    rw [getD_eq_getElem?_getD, getD_eq_getElem?_getD, getElem?_set_ne different.symm]
  have acked {number : Nat} {request : SdsRequest} (noted : s.requests[number]? = some request)
      (settled : ¬ s.Waits number) :
      ({ s with reporters := s.reporters.set index reporter } : SdsBs).acknowledged request =
        s.acknowledged request := by
    refine acknowledged_congr fun one here => other ?_
    rintro rfl
    exact settled (unsettled number request noted here)
  constructor
  · refine kept.balanced.congr fun number _ settled => ?_
    unfold owed
    cases noted : s.requests[number]? with
    | none => rfl
    | some request =>
      dsimp only
      rw [acked noted settled]
  · exact kept.held
  · intro number request one noted here settled
    rw [other]
    · exact kept.ended number request one noted here settled
    · rintro rfl
      exact settled (unsettled number request noted here)
  · intro number request one noted here
    exact lt_of_lt_of_eq (kept.issued number request one noted here) length_set.symm
  · exact kept.apart
  · exact kept.carried
  · intro number transactionId destinationIssi delivered cause told
    obtain ⟨request, noted, transaction, destination, ack⟩ := kept.result _ _ _ _ _ told
    exact ⟨request, noted, transaction, destination,
      (acked noted (kept.settled_of_result told)).trans ack⟩
  · exact kept.failure

end

theorem apply_of_final {reporter after : TxReporter} {mark : TxMark}
    (final : reporter.isInFinalState = true) (marked : reporter.apply mark = .ok after) :
    mark = .reset := by
  unfold isInFinalState at final
  cases mark with
  | reset => rfl
  | transmitted =>
    unfold apply markTransmitted mark at marked
    by_cases now : reporter.state = .pending
    · rw [now] at final
      cases final
    · rw [if_neg now] at marked
      cases marked
  | discarded =>
    unfold apply markDiscarded mark at marked
    by_cases now : reporter.state = .pending
    · rw [now] at final
      cases final
    · rw [if_neg now] at marked
      cases marked
  | acknowledged =>
    unfold apply markAcknowledged mark assertThat at marked
    cases expects : reporter.expectsAck <;> cases now : reporter.state <;>
      simp_all [Bind.bind, Except.bind]
  | lost =>
    unfold apply markLost mark assertThat at marked
    cases expects : reporter.expectsAck <;> cases now : reporter.state <;>
      simp_all [Bind.bind, Except.bind]

end SdsBs

end Bluestation
