/-
**The ledger of roaming requests.**

A request waits under its procedure and its terminal until it is answered.

* `MleBs.docket` — the requests as a ledger; every operation is a move of it.
* `RoamingContent`, `AnswerOf` — what an answer has to be.
* `MleBs.Filed` — what waits, what was answered and what was sent belong together.
* `MleBs.Timely` — no preparation waits beyond its time.
-/

import Bluestation.Lib.Docket
import Bluestation.Mle.Roaming

namespace Bluestation

open Machines Bits List Option Table

/-! ### What is answered -/

def protectionWeight : Option (AieRequest Unit) → Nat
  | some (.sc3 _ _ _) => 2
  | some (.sc2 _ _) => 1
  | _ => 0

/-- The message of an answer: one of this layer alone, or one that holds the message of another layer
which was meant for the request. -/
inductive RoamingContent (number : Nat) : RoamingProcedure → List Bool → Option Nat → Prop where
  | newCell {bits : List Bool} (encoded : dNewCell 1 none = some bits) :
      RoamingContent number .prepare bits none
  | prepareFail : RoamingContent number .prepare (dPrepareFail 1 none) none
  | accepted {channelCommandValid : Nat} {sdu bits : List Bool}
      (accepts : peekBits sdu 4 = some dLocationUpdateAcceptType)
      (encoded : dNewCell channelCommandValid (some sdu) = some bits) :
      RoamingContent number .prepare bits (some number)
  | rejected {sdu : List Bool} (rejects : peekBits sdu 4 = some dLocationUpdateRejectType) :
      RoamingContent number .prepare (dPrepareFail 1 (some sdu)) (some number)
  | restoreFail : RoamingContent number .restore (dRestoreFail 1) none
  | notRestored : RoamingContent number .restore (dRestoreFail 1) (some number)
  | restored {sdu : List Bool} (some' : sdu ≠ []) :
      RoamingContent number .restore (dRestoreAck sdu) (some number)

/-- An answer goes to the terminal of the request, is protected at least as well, and is one. -/
structure AnswerOf (number : Nat) (asked : RoamingRequest) (request : TlRequest)
    (meant : Option Nat) : Prop where
  ssi : request.mainAddress.ssi = asked.address.ssi
  protection : protectionWeight asked.incomingAie ≤ protectionWeight request.airInterfaceEncryption
  content : ∃ pdu, request.tlSdu = mleDiscriminator ++ pdu ∧
    RoamingContent number asked.procedure pdu meant

namespace MleMessage

def answers : MleMessage → Option Nat
  | tl _ answers _ => answers
  | _ => none

def receipt : MleMessage → Option Nat
  | tl request _ _ => request.txReporter
  | _ => none

def Fits (requests : List RoamingRequest) : MleMessage → Prop
  | tl request (some number) meant =>
    ∃ asked, requests[number]? = some asked ∧ AnswerOf number asked request meant
  | _ => True

theorem Fits.mono {before after : List RoamingRequest} (grows : before <+: after)
    {message : MleMessage} (fits : message.Fits before) : message.Fits after := by
  obtain ⟨more, rfl⟩ := grows
  cases message with
  | lmmUnitdataInd => trivial
  | lcmcUnitdataInd => trivial
  | tl request answers meant =>
    cases answers with
    | none => trivial
    | some number =>
      obtain ⟨asked, noted, answer⟩ := fits
      refine ⟨asked, ?_, answer⟩
      rw [List.getElem?_append_left (List.getElem?_eq_some_iff.mp noted).1, noted]

end MleMessage

namespace MleCell

/-- The key that protected a request is still there for its answer. -/
def keeps (cell : MleCell) (issi : Nat) : Option (AieRequest Unit) → Bool
  | some (.sc3 _ _ _) => cell.aieEnabled && cell.hasSc3 && cell.hasDck issi
  | some (.sc2 _ _) => cell.aieEnabled && cell.terminalBound issi
  | _ => true

/-- **The answer is protected as the request was**, if the key is still there. -/
theorem weight_mleReplyAie {cell : MleCell} {issi : Nat} {incomingAie : Option (AieRequest Unit)}
    (keeps : cell.keeps issi incomingAie = true) :
    protectionWeight incomingAie ≤ protectionWeight (cell.mleReplyAie issi incomingAie) := by
  unfold MleCell.keeps at keeps
  unfold mleReplyAie
  cases incomingAie with
  | none => exact le_rfl
  | some request =>
    cases request with
    | clear => exact le_rfl
    | sc2 =>
      rw [if_pos keeps]
      exact le_rfl
    | sc3 =>
      rw [if_pos keeps]
      exact le_rfl

end MleCell

/-! ### The ledger -/

namespace MleBs

section Ledger

variable (s : MleBs)

def pending : RoamingProcedure → Nat → Option PendingRoaming
  | .prepare, issi => s.forwardRegistrations.lookup issi
  | .restore, issi => s.pendingRestores.lookup issi

def docket : Docket (RoamingProcedure × Nat) where
  taken := s.requests.length
  waiting key := (s.pending key.1 key.2).map (·.number)
  answered := s.queue.filterMap (·.answers)

def Waits (number : Nat) : Prop := s.docket.Waits number

def answersTo (number : Nat) : List MleMessage := s.queue.filter (·.answers = some number)

/-- What holds in every run of permitted steps, besides the ledger and the times. -/
structure Filed (patience : Nat) : Prop where
  held : ∀ procedure issi pending, s.pending procedure issi = some pending →
    ∃ request, s.requests[pending.number]? = some request ∧ request.procedure = procedure ∧
      request.address.ssi = issi ∧ request.incomingAie = pending.incomingAie
  dated : ∀ issi, (s.forwardRegistrations.lookup issi).isSome →
    (s.forwardRegistrationDeadlines.lookup issi).isSome
  patient : ∀ issi pending, s.pendingRestores.lookup issi = some pending →
    s.ticks ≤ pending.since + patience
  fits : ∀ message ∈ s.queue, message.Fits s.requests
  carried : ∀ receipt ∈ s.receipts, ∃ message ∈ s.queue, message.receipt = some receipt

def Timely : Prop := ∀ issi deadline, s.forwardRegistrationDeadlines.lookup issi = some deadline →
  deadline.age s.currentTime < 0

end Ledger

variable {s next : MleBs} {patience : Nat} {procedure : RoamingProcedure} {issi number : Nat}

/-! ### The operations are moves of the ledger -/

theorem docket_note (s : MleBs) (request : RoamingRequest) :
    (s.note request).docket = s.docket.draw := by
  unfold docket note Docket.draw
  rw [length_append]
  rfl

theorem docket_push (s : MleBs) (message : MleMessage) :
    (s.push message).docket = s.docket.answer message.answers.toList := by
  unfold docket push Docket.answer
  cases answers : message.answers <;> simp [answers, pending]

theorem docket_push_plain (s : MleBs) {message : MleMessage} (plain : message.answers = none) :
    (s.push message).docket = s.docket := by
  rw [docket_push, plain]
  unfold Docket.answer
  rw [toList_none, append_nil]

theorem receive_none (s : MleBs) : s.receive none = s := by
  unfold receive
  rw [toList_none, append_nil]

theorem docket_put {pending : PendingRoaming} (requests : next.requests = s.requests)
    (queue : next.queue = s.queue) (waits : ∀ other place, next.pending other place =
      if other = procedure ∧ place = issi then some pending else s.pending other place) :
    next.docket = s.docket.put (procedure, issi) pending.number := by
  unfold docket Docket.put
  rw [requests, queue]
  congr 1
  funext key
  rw [Function.update_apply, waits]
  by_cases same : key = (procedure, issi)
  · subst same
    rw [if_pos rfl, if_pos ⟨rfl, rfl⟩]
    rfl
  · rw [if_neg same, if_neg fun parts => same (Prod.ext parts.1 parts.2)]

theorem docket_lift (requests : next.requests = s.requests) (queue : next.queue = s.queue)
    (waits : ∀ other place, next.pending other place =
      if other = procedure ∧ place = issi then none else s.pending other place) :
    next.docket = s.docket.lift (procedure, issi) := by
  unfold docket Docket.lift
  rw [requests, queue]
  congr 1
  funext key
  rw [Function.update_apply, waits]
  by_cases same : key = (procedure, issi)
  · subst same
    rw [if_pos rfl, if_pos ⟨rfl, rfl⟩]
    rfl
  · rw [if_neg same, if_neg fun parts => same (Prod.ext parts.1 parts.2)]

theorem pending_awaitRegistration (s : MleBs) (issi : Nat) (incomingAie : Option (AieRequest Unit))
    (number : Nat) (other : RoamingProcedure) (place : Nat) :
    (s.awaitRegistration issi incomingAie number).pending other place =
      if other = .prepare ∧ place = issi then some ⟨incomingAie, number, s.ticks⟩
      else s.pending other place := by
  cases other with
  | prepare => simpa [pending, awaitRegistration] using lookup_insert_eq ..
  | restore => rfl

theorem pending_awaitRestore (s : MleBs) (issi : Nat) (incomingAie : Option (AieRequest Unit))
    (number : Nat) (other : RoamingProcedure) (place : Nat) :
    (s.awaitRestore issi incomingAie number).pending other place =
      if other = .restore ∧ place = issi then some ⟨incomingAie, number, s.ticks⟩
      else s.pending other place := by
  cases other with
  | prepare => rfl
  | restore => simpa [pending, awaitRestore] using lookup_insert_eq ..

theorem pending_forgetRegistration (s : MleBs) (issi : Nat) (other : RoamingProcedure) (place : Nat) :
    (s.forgetRegistration issi).pending other place =
      if other = .prepare ∧ place = issi then none else s.pending other place := by
  cases other with
  | prepare => simpa [pending, forgetRegistration] using lookup_erase_eq ..
  | restore => rfl

theorem pending_forgetRestore (s : MleBs) (issi : Nat) (other : RoamingProcedure) (place : Nat) :
    (s.forgetRestore issi).pending other place =
      if other = .restore ∧ place = issi then none else s.pending other place := by
  cases other with
  | prepare => rfl
  | restore => simpa [pending, forgetRestore] using lookup_erase_eq ..

theorem docket_awaitRegistration (s : MleBs) (issi : Nat) (incomingAie : Option (AieRequest Unit))
    (number : Nat) : (s.awaitRegistration issi incomingAie number).docket =
      s.docket.put (.prepare, issi) number :=
  @docket_put s _ _ _ ⟨incomingAie, number, s.ticks⟩ rfl rfl fun _ _ => pending_awaitRegistration ..

theorem docket_awaitRestore (s : MleBs) (issi : Nat) (incomingAie : Option (AieRequest Unit))
    (number : Nat) : (s.awaitRestore issi incomingAie number).docket =
      s.docket.put (.restore, issi) number :=
  @docket_put s _ _ _ ⟨incomingAie, number, s.ticks⟩ rfl rfl fun _ _ => pending_awaitRestore ..

theorem docket_forgetRegistration (s : MleBs) (issi : Nat) :
    (s.forgetRegistration issi).docket = s.docket.lift (.prepare, issi) :=
  docket_lift rfl rfl fun _ _ => pending_forgetRegistration ..

theorem docket_forgetRestore (s : MleBs) (issi : Nat) :
    (s.forgetRestore issi).docket = s.docket.lift (.restore, issi) :=
  docket_lift rfl rfl fun _ _ => pending_forgetRestore ..

/-! ### The operations keep the files -/

variable (filed : s.Filed patience)

include filed

theorem Filed.mono (requests : s.requests <+: next.requests)
    (held : ∀ procedure issi pending, next.pending procedure issi = some pending →
      s.pending procedure issi = some pending ∨ ∃ request,
        next.requests[pending.number]? = some request ∧ request.procedure = procedure ∧
          request.address.ssi = issi ∧ request.incomingAie = pending.incomingAie)
    (dated : ∀ issi, (next.forwardRegistrations.lookup issi).isSome →
      (next.forwardRegistrationDeadlines.lookup issi).isSome)
    (patient : ∀ issi pending, next.pendingRestores.lookup issi = some pending →
      next.ticks ≤ pending.since + patience)
    (fits : ∀ message ∈ next.queue, message ∈ s.queue ∨ message.Fits next.requests)
    (carried : ∀ receipt ∈ next.receipts, ∃ message ∈ next.queue, message.receipt = some receipt) :
    next.Filed patience where
  held procedure issi pending found := by
    rcases held procedure issi pending found with old | new
    · obtain ⟨request, noted, names⟩ := filed.held procedure issi pending old
      obtain ⟨more, whole⟩ := requests
      refine ⟨request, ?_, names⟩
      rw [← whole, List.getElem?_append_left (List.getElem?_eq_some_iff.mp noted).1, noted]
    · exact new
  dated := dated
  patient := patient
  fits message member := (fits message member).elim
    (fun old => (filed.fits message old).mono requests) id
  carried := carried

theorem Filed.note (request : RoamingRequest) : (s.note request).Filed patience :=
  filed.mono (prefix_append _ _) (fun _ _ _ found => .inl found) filed.dated filed.patient
    (fun _ member => .inl member) filed.carried

/-- A message with the receipt that came with it. -/
theorem Filed.push {txReporter : Option Nat} {message : MleMessage} (fits : message.Fits s.requests)
    (carries : txReporter.isSome → message.receipt = txReporter) :
    ((s.receive txReporter).push message).Filed patience := by
  refine filed.mono prefix_rfl (fun _ _ _ found => .inl found) filed.dated filed.patient
    (fun other member => ?_) fun receipt member => ?_
  · rcases mem_append.mp member with old | new
    · exact .inl old
    · obtain rfl := mem_singleton.mp new
      exact .inr fits
  · rcases mem_append.mp member with old | new
    · obtain ⟨carrier, inside, here⟩ := filed.carried receipt old
      exact ⟨carrier, mem_append_left _ inside, here⟩
    · obtain rfl := mem_toList.mp new
      exact ⟨message, mem_append_right _ (mem_singleton_self _), carries rfl⟩

/-- A message of this layer. -/
theorem Filed.send {message : MleMessage} (fits : message.Fits s.requests) :
    (s.push message).Filed patience := by
  have pushed := @Filed.push s patience filed none message fits nofun
  rwa [receive_none] at pushed

variable {request : RoamingRequest}

theorem Filed.awaitRegistration
    (noted : s.requests[number]? = some request) (prepares : request.procedure = .prepare) :
    (s.awaitRegistration request.address.ssi request.incomingAie number).Filed patience := by
  refine filed.mono prefix_rfl (fun other place waiting found => ?_) (fun place waits => ?_)
    filed.patient (fun _ member => .inl member) filed.carried
  · rw [pending_awaitRegistration] at found
    by_cases same : other = .prepare ∧ place = request.address.ssi
    · rw [if_pos same] at found
      cases found
      exact .inr ⟨request, noted, prepares.trans same.1.symm, same.2.symm, rfl⟩
    · rw [if_neg same] at found
      exact .inl found
  · change ((s.forwardRegistrationDeadlines.insert _ _).lookup place).isSome = true
    change ((s.forwardRegistrations.insert _ _).lookup place).isSome = true at waits
    rw [lookup_insert_eq] at waits ⊢
    split
    · rfl
    · rw [if_neg ‹_›] at waits
      exact filed.dated place waits

theorem Filed.awaitRestore (noted : s.requests[number]? = some request)
    (restores : request.procedure = .restore) :
    (s.awaitRestore request.address.ssi request.incomingAie number).Filed patience := by
  refine filed.mono prefix_rfl (fun other place waiting found => ?_) filed.dated
    (fun place waiting found => ?_) (fun _ member => .inl member) filed.carried
  · rw [pending_awaitRestore] at found
    by_cases same : other = .restore ∧ place = request.address.ssi
    · rw [if_pos same] at found
      cases found
      exact .inr ⟨request, noted, restores.trans same.1.symm, same.2.symm, rfl⟩
    · rw [if_neg same] at found
      exact .inl found
  · change (s.pendingRestores.insert _ _).lookup place = some waiting at found
    rw [lookup_insert_eq] at found
    split at found
    · cases found
      exact Nat.le_add_right _ _
    · exact filed.patient place waiting found

theorem Filed.forgetRegistration (issi : Nat) : (s.forgetRegistration issi).Filed patience := by
  refine filed.mono prefix_rfl (fun other place waiting found => .inl ?_) (fun place waits => ?_)
    filed.patient (fun _ member => .inl member) filed.carried
  · rw [pending_forgetRegistration] at found
    exact (ite_none_left_eq_some.mp found).2
  · change ((s.forwardRegistrationDeadlines.erase _).lookup place).isSome = true
    change ((s.forwardRegistrations.erase _).lookup place).isSome = true at waits
    rw [lookup_erase_eq] at waits ⊢
    split
    · rw [if_pos ‹_›] at waits
      exact waits
    · rw [if_neg ‹_›] at waits
      exact filed.dated place waits

theorem Filed.forgetRestore (issi : Nat) : (s.forgetRestore issi).Filed patience := by
  refine filed.mono prefix_rfl (fun other place waiting found => .inl ?_) filed.dated
    (fun place waiting found => ?_) (fun _ member => .inl member) filed.carried
  · rw [pending_forgetRestore] at found
    exact (ite_none_left_eq_some.mp found).2
  · change (s.pendingRestores.erase _).lookup place = some waiting at found
    rw [lookup_erase_eq] at found
    exact filed.patient place waiting (ite_none_left_eq_some.mp found).2

end MleBs

end Bluestation
