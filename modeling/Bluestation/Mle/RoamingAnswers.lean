/-
**Roaming answers belong to their request.**

* `MleBs.permits` — a terminal has one request of a kind at a time; a message that would be taken for
  its answer is meant as the answer, and has no receipt; the key of the request is still there.
* `MleBs.roaming_answered` — **main result**: the answers in every run of permitted steps.
* `MleBs.restore_taken_for_answer` — a status message is taken for the answer to a U-RESTORE.
-/

import Bluestation.Lib.History
import Bluestation.Mle.RoamingLedger

namespace Bluestation

open Machines Bits Option MleBs

namespace MleBs

variable {s next : MleBs} {patience : Nat} {cell : MleCell}

/-- **What holds in every run of permitted steps**, besides the times. -/
structure Sound (patience : Nat) (s : MleBs) : Prop where
  filed : s.Filed patience
  balanced : s.docket.Balanced fun _ => 1

variable {address : TetraAddress} {meant : Option Nat} {issi : Nat} {pending : PendingRoaming}

variable {asked : RoamingRequest}

/-- A request in hand is answered. -/
theorem Filed.answer {number : Nat} (filed : s.Filed patience)
    (hand : s.docket.InHand (fun _ => 1) number)
    (noted : s.requests[number]? = some asked) {pdu : List Bool} {chanAlloc : Option MleChanAlloc}
    {aie : Option (AieRequest Unit)} {unacknowledged : Bool} (ssi : address.ssi = asked.address.ssi)
    (protection : protectionWeight asked.incomingAie ≤ protectionWeight aie)
    (content : RoamingContent number asked.procedure pdu meant) :
    (s.sendMleDownlink address pdu chanAlloc aie unacknowledged number meant).Sound patience := by
  unfold sendMleDownlink
  refine ⟨filed.send ⟨asked, noted, ssi, protection, pdu, rfl, content⟩, ?_⟩
  rw [docket_push]
  exact hand.answer

/-! ### Requests of terminals -/

/-- A terminal has one preparation at a time, and the key of a refused one is there. -/
def admitsPrepare (s : MleBs) (cell : MleCell) (sdu : List Bool) (address : TetraAddress)
    (incomingAie : Option (AieRequest Unit)) : Bool :=
  match prepareOutcome cell.neighbourStationId cell.demandType sdu with
  | .forward _ _ => (s.forwardRegistrations.lookup address.ssi).isNone
  | .fail => cell.keeps address.ssi incomingAie
  | .newCell => cell.keeps address.ssi incomingAie

/-- A terminal restores one call at a time, and the key of a refused request is there. -/
def admitsRestore (s : MleBs) (cell : MleCell) (sdu : List Bool) (address : TetraAddress)
    (incomingAie : Option (AieRequest Unit)) : Bool :=
  if (restoreSdu sdu).isSome then (s.pendingRestores.lookup address.ssi).isNone
  else cell.keeps address.ssi incomingAie

section

variable (sound : s.Sound patience)

include sound

variable {incomingAie : Option (AieRequest Unit)}

theorem Sound.rxUPrepare {sdu : List Bool}
    (admitted : s.admitsPrepare cell sdu address incomingAie = true) :
    (s.rxUPrepare cell sdu address incomingAie).Sound patience := by
  have filed := sound.filed.note ⟨.prepare, address, incomingAie⟩
  have hand := sound.balanced.draw
  rw [← docket_note s ⟨.prepare, address, incomingAie⟩] at hand
  have noted : (s.note ⟨.prepare, address, incomingAie⟩).requests[s.requests.length]? =
      some ⟨.prepare, address, incomingAie⟩ := List.getElem?_concat_length
  unfold admitsPrepare at admitted
  unfold MleBs.rxUPrepare
  cases outcome : prepareOutcome cell.neighbourStationId cell.demandType sdu with
  | fail =>
    rw [outcome] at admitted
    exact filed.answer hand noted rfl (MleCell.weight_mleReplyAie admitted) .prepareFail
  | newCell =>
    rw [outcome] at admitted
    exact filed.answer hand noted rfl (MleCell.weight_mleReplyAie admitted) (.newCell rfl)
  | forward targetStationId embeddedMm =>
    rw [outcome] at admitted
    refine ⟨(filed.awaitRegistration noted rfl).send trivial, ?_⟩
    rw [docket_push_plain _ rfl, docket_awaitRegistration]
    exact hand.put (congrArg (Option.map _) (isNone_iff_eq_none.mp admitted))

theorem Sound.rxURestore {sdu : List Bool} {endpointId linkId : Nat}
    (admitted : s.admitsRestore cell sdu address incomingAie = true) :
    (s.rxURestore cell sdu address endpointId linkId incomingAie).Sound patience := by
  have filed := sound.filed.note ⟨.restore, address, incomingAie⟩
  have hand := sound.balanced.draw
  rw [← docket_note s ⟨.restore, address, incomingAie⟩] at hand
  have noted : (s.note ⟨.restore, address, incomingAie⟩).requests[s.requests.length]? =
      some ⟨.restore, address, incomingAie⟩ := List.getElem?_concat_length
  unfold admitsRestore at admitted
  unfold MleBs.rxURestore
  cases embedded : restoreSdu sdu with
  | none =>
    rw [embedded] at admitted
    exact filed.answer hand noted rfl (MleCell.weight_mleReplyAie admitted) .restoreFail
  | some embeddedCmce =>
    rw [embedded] at admitted
    refine ⟨(filed.awaitRestore noted rfl).send trivial, ?_⟩
    rw [docket_push_plain _ rfl, docket_awaitRestore]
    exact hand.put (congrArg (Option.map _) (isNone_iff_eq_none.mp admitted))

/-! ### Downlink messages -/

theorem Sound.lift {procedure : RoamingProcedure} (found : s.pending procedure issi = some pending) :
    (s.docket.lift (procedure, issi)).InHand (fun _ => 1) pending.number ∧
      ∃ asked, s.requests[pending.number]? = some asked ∧ asked.procedure = procedure ∧
        asked.address.ssi = issi ∧ asked.incomingAie = pending.incomingAie :=
  ⟨sound.balanced.lift (congrArg (Option.map _) found), sound.filed.held procedure issi pending found⟩

def decides (request : LmmDownlink) : Bool :=
  peekBits request.sdu 4 = some dLocationUpdateAcceptType ||
    peekBits request.sdu 4 = some dLocationUpdateRejectType

/-- A message that is taken for the answer to a pending request is meant as its answer, and has no
receipt, and the request's key is there. -/
def admitsAnswer (cell : MleCell) (issi : Nat) (txReporter meant : Option Nat)
    (pending : PendingRoaming) : Bool :=
  meant = some pending.number && txReporter.isNone && cell.keeps issi pending.incomingAie

theorem Sound.asIs {request : TlRequest} (meant : Option Nat) :
    ((s.receive request.txReporter).push (.tl request none meant)).Sound patience := by
  refine ⟨sound.filed.push trivial fun _ => rfl, ?_⟩
  rw [docket_push_plain _ rfl]
  exact sound.balanced

end

theorem admitsAnswer_spec {txReporter : Option Nat}
    (admitted : admitsAnswer cell issi txReporter meant pending = true) :
    meant = some pending.number ∧ txReporter = none ∧
      cell.keeps issi pending.incomingAie = true := by
  unfold admitsAnswer at admitted
  rw [Bool.and_eq_true, Bool.and_eq_true, decide_eq_true_iff, isNone_iff_eq_none] at admitted
  exact ⟨admitted.1.1, admitted.1.2, admitted.2⟩

section

variable (sound : s.Sound patience)

include sound

/-- An answer of another layer to the pending request of a terminal. -/
theorem Sound.answer {procedure : RoamingProcedure} (found : s.pending procedure issi = some pending)
    (forgets : next.Filed patience) (requests : next.requests = s.requests)
    (lifted : next.docket = s.docket.lift (procedure, issi)) {pdu : List Bool}
    {chanAlloc : Option MleChanAlloc} {unacknowledged : Bool} (ssi : address.ssi = issi)
    (keeps : cell.keeps issi pending.incomingAie = true)
    (content : RoamingContent pending.number procedure pdu meant) :
    (next.sendMleDownlink address pdu chanAlloc (cell.mleReplyAie issi pending.incomingAie)
      unacknowledged pending.number meant).Sound patience := by
  obtain ⟨hand, asked, noted, rfl, rfl, incoming⟩ := sound.lift found
  rw [← lifted] at hand
  rw [← requests] at noted
  refine forgets.answer hand noted ssi ?_ content
  rw [incoming]
  exact MleCell.weight_mleReplyAie keeps

theorem Sound.rxLmmMleUnitdataReq {request : LmmDownlink}
    (admitted : ∀ pending, s.forwardRegistrations.lookup request.address.ssi = some pending →
      decides request = true →
      admitsAnswer cell request.address.ssi request.txReporter meant pending = true) :
    (s.rxLmmMleUnitdataReq cell request meant).Sound patience := by
  unfold MleBs.rxLmmMleUnitdataReq
  cases found : s.forwardRegistrations.lookup request.address.ssi with
  | none => exact @Sound.asIs s patience sound (lmmAsIs request) meant
  | some pending =>
    dsimp only
    have forgets := sound.filed.forgetRegistration request.address.ssi
    have lifted := docket_forgetRegistration s request.address.ssi
    by_cases accepts : peekBits request.sdu 4 = some dLocationUpdateAcceptType
    · rw [if_pos accepts]
      have taken : decides request = true := Bool.or_eq_true_iff.mpr (.inl (decide_eq_true accepts))
      obtain ⟨rfl, silent, keeps⟩ := admitsAnswer_spec (admitted pending found taken)
      rw [silent, receive_none]
      unfold sendNewCell
      split
      next refused =>
        refine absurd refused (dNewCell_some ?_ _)
        split_ifs
        · exact Nat.zero_le _
        · exact Nat.le_succ _
      next bits encoded =>
        exact sound.answer (show s.pending .prepare _ = _ from found) forgets rfl lifted rfl keeps
          (.accepted accepts encoded)
    · rw [if_neg accepts]
      by_cases rejects : peekBits request.sdu 4 = some dLocationUpdateRejectType
      · rw [if_pos rejects]
        have taken : decides request = true :=
          Bool.or_eq_true_iff.mpr (.inr (decide_eq_true rejects))
        obtain ⟨rfl, silent, keeps⟩ := admitsAnswer_spec (admitted pending found taken)
        rw [silent, receive_none]
        exact sound.answer (show s.pending .prepare _ = _ from found) forgets rfl lifted rfl keeps
          (.rejected rejects)
      · rw [if_neg rejects]
        exact @Sound.asIs s patience sound (lmmAsIs request) meant

theorem Sound.rxLcmcMleUnitdataReq {request : LcmcDownlink}
    (admitted : ∀ pending, s.pendingRestores.lookup request.mainAddress.ssi = some pending →
      admitsAnswer cell request.mainAddress.ssi request.txReporter meant pending = true) :
    (s.rxLcmcMleUnitdataReq cell request meant).Sound patience := by
  unfold MleBs.rxLcmcMleUnitdataReq
  cases found : s.pendingRestores.lookup request.mainAddress.ssi with
  | none => exact @Sound.asIs s patience sound (lcmcAsIs cell request) meant
  | some pending =>
    obtain ⟨rfl, silent, keeps⟩ := admitsAnswer_spec (admitted pending found)
    rw [silent, receive_none]
    have forgets := sound.filed.forgetRestore request.mainAddress.ssi
    have lifted := docket_forgetRestore s request.mainAddress.ssi
    split_ifs with empty
    · exact sound.answer (show s.pending .restore _ = _ from found) forgets rfl lifted rfl keeps
        .notRestored
    · refine sound.answer (show s.pending .restore _ = _ from found) forgets rfl lifted rfl keeps
        (.restored ?_)
      exact fun nil => empty (List.length_eq_zero_iff.mpr nil)

/-! ### Time -/

theorem Sound.timeOut (keeps : ∀ pending, s.forwardRegistrations.lookup issi = some pending →
      cell.keeps issi pending.incomingAie = true) : (s.timeOut cell issi).Sound patience := by
  have forgets := sound.filed.forgetRegistration issi
  have lifted := docket_forgetRegistration s issi
  unfold MleBs.timeOut
  cases found : s.forwardRegistrations.lookup issi with
  | none =>
    refine ⟨forgets, ?_⟩
    rw [lifted]
    refine sound.balanced.of_count rfl ?_ fun _ => rfl
    refine Function.update_eq_self_iff.mpr ?_
    exact (congrArg (Option.map PendingRoaming.number) found).symm
  | some pending =>
    exact sound.answer (show s.pending .prepare _ = _ from found) forgets rfl lifted rfl
      (keeps pending found) .prepareFail

end

theorem deadlines_timeOut (s : MleBs) (issi place : Nat) :
    (s.timeOut cell issi).forwardRegistrationDeadlines.lookup place =
      if place = issi then none else s.forwardRegistrationDeadlines.lookup place := by
  unfold timeOut
  split
  · exact Table.lookup_erase_eq ..
  · exact Table.lookup_erase_eq ..

theorem currentTime_timeOut (s : MleBs) (issi : Nat) :
    (s.timeOut cell issi).currentTime = s.currentTime := by
  unfold timeOut
  split
  · rfl
  · rfl

/-- A deadline that is left after several preparations have timed out was there before, and is none of
them. -/
theorem deadlines_foldl (issis : List Nat) {s : MleBs} {place : Nat} {deadline : TdmaTime}
    (found : (issis.foldl (timeOut cell) s).forwardRegistrationDeadlines.lookup place =
      some deadline) :
    place ∉ issis ∧ s.forwardRegistrationDeadlines.lookup place = some deadline := by
  induction issis generalizing s with
  | nil => exact ⟨List.not_mem_nil, found⟩
  | cons issi rest ih =>
    obtain ⟨absent, before⟩ := ih found
    rw [deadlines_timeOut] at before
    obtain ⟨different, before⟩ := ite_none_left_eq_some.mp before
    exact ⟨List.not_mem_cons_of_ne_of_not_mem different absent, before⟩

theorem currentTime_foldl (issis : List Nat) (s : MleBs) :
    (issis.foldl (timeOut cell) s).currentTime = s.currentTime := by
  induction issis generalizing s with
  | nil => rfl
  | cons issi rest ih => rw [List.foldl_cons, ih, currentTime_timeOut]

/-- **After a tick no preparation is overdue.** -/
theorem timely_tickStart (s : MleBs) (order : List Nat) (ts : TdmaTime) :
    (s.tickStart cell order ts).Timely := by
  intro issi deadline found
  obtain ⟨absent, before⟩ := deadlines_foldl _ found
  show deadline.age (MleBs.currentTime (List.foldl ..)) < 0
  rw [currentTime_foldl]
  refine Int.not_le.mp fun overdue => absent ?_
  refine List.mem_filterMap.mpr ⟨⟨issi, deadline⟩, ?_, if_pos overdue⟩
  rw [Table.mem_rearrange]
  exact Table.mem_entries.mpr before

section

variable (timely : s.Timely)

include timely

/-- A deadline that a step leaves or sets is not over. -/
theorem Timely.step (now : next.currentTime = s.currentTime)
    (deadlines : ∀ issi deadline, next.forwardRegistrationDeadlines.lookup issi = some deadline →
      s.forwardRegistrationDeadlines.lookup issi = some deadline ∨
        deadline = s.currentTime.addTimeslots t370Timeslots) : next.Timely := by
  intro issi deadline found
  rw [now]
  rcases deadlines issi deadline found with old | rfl
  · exact timely issi deadline old
  · rw [@TdmaTime.age_addTimeslots s.currentTime t370Timeslots (by decide)]
    decide

theorem Timely.forgetRegistration (issi : Nat) : (s.forgetRegistration issi).Timely := by
  refine timely.step rfl fun place deadline found => .inl ?_
  change (s.forwardRegistrationDeadlines.erase issi).lookup place = some deadline at found
  rw [Table.lookup_erase_eq] at found
  exact (ite_none_left_eq_some.mp found).2

theorem Timely.awaitRegistration (issi : Nat) (incomingAie : Option (AieRequest Unit)) (number : Nat) :
    (s.awaitRegistration issi incomingAie number).Timely := by
  refine timely.step rfl fun place deadline found => ?_
  change (s.forwardRegistrationDeadlines.insert issi _).lookup place = some deadline at found
  rw [Table.lookup_insert_eq] at found
  split at found
  · exact .inr (some.inj found).symm
  · exact .inl found

theorem timely_rxTlaMlePdu (sdu : List Bool) (address : TetraAddress) (endpointId linkId : Nat)
    (incomingAie : Option (AieRequest Unit)) :
    (s.rxTlaMlePdu cell sdu address endpointId linkId incomingAie).Timely := by
  unfold rxTlaMlePdu
  split
  · unfold rxUPrepare
    split
    · exact timely
    · unfold sendNewCell
      split <;> exact timely
    · exact timely.awaitRegistration address.ssi incomingAie s.requests.length
  · unfold rxURestore
    split <;> exact timely
  · exact timely

theorem timely_rxLmmMleUnitdataReq (request : LmmDownlink) (meant : Option Nat) :
    (s.rxLmmMleUnitdataReq cell request meant).Timely := by
  have forgets := timely.forgetRegistration request.address.ssi
  unfold rxLmmMleUnitdataReq
  dsimp only
  split
  · exact timely
  · split
    · split <;> exact forgets
    · split
      · exact forgets
      · exact timely

theorem timely_rxLcmcMleUnitdataReq (request : LcmcDownlink) (meant : Option Nat) :
    (s.rxLcmcMleUnitdataReq cell request meant).Timely := by
  unfold rxLcmcMleUnitdataReq
  split
  · exact timely
  · split <;> exact timely

end

/-! ### Runs -/

/-- A terminal has one request of a kind at a time; a message that would be taken for the answer to a
pending request is meant as its answer, and has no receipt; the key that protected a request is there
for its answer; and call control answers within `patience` ticks. -/
def permits (patience : Nat) (s : MleBs) : MleEvent → Bool
  | .tlaMlePdu cell sdu address _ _ incomingAie =>
    match peekBits sdu 3 with
    | some 0 => s.admitsPrepare cell sdu address incomingAie
    | some 4 => s.admitsRestore cell sdu address incomingAie
    | _ => true
  | .lmmMleUnitdataReq cell request meant =>
    (s.forwardRegistrations.lookup request.address.ssi).all fun pending =>
      !decides request || admitsAnswer cell request.address.ssi request.txReporter meant pending
  | .lcmcMleUnitdataReq cell request meant =>
    (s.pendingRestores.lookup request.mainAddress.ssi).all
      (admitsAnswer cell request.mainAddress.ssi request.txReporter meant)
  | .tickStart cell order ts =>
    (s.pendingRestores.entries.all fun entry => s.ticks < entry.2.since + patience) &&
      everyTurn (fun s issi => (s.forwardRegistrations.lookup issi).all fun pending =>
          cell.keeps issi pending.incomingAie)
        (timeOut cell) { s with currentTime := ts, ticks := s.ticks + 1 } (s.timedOut order ts)

theorem all_spec {Value : Type} {value : Option Value} {holds : Value → Bool}
    (all : value.all holds = true) : ∀ one, value = some one → holds one = true := by
  rintro one rfl
  exact all

/-- **Every permitted step keeps the ledger.** -/
theorem sound_step (sound : s.Sound patience) (event : MleEvent)
    (permit : permits patience s event = true) (stepped : s.step event = some next) :
    next.Sound patience := by
  cases event with
  | tlaMlePdu cell sdu address endpointId linkId incomingAie =>
    cases stepped
    unfold permits at permit
    unfold rxTlaMlePdu
    dsimp only at permit
    split
    next prepare =>
      rw [prepare] at permit
      exact sound.rxUPrepare permit
    next restore =>
      rw [restore] at permit
      exact sound.rxURestore permit
    · exact sound
  | lmmMleUnitdataReq cell request meant =>
    cases stepped
    refine sound.rxLmmMleUnitdataReq fun pending found taken => ?_
    have admitted := all_spec permit pending found
    rw [taken] at admitted
    exact admitted
  | lcmcMleUnitdataReq cell request meant =>
    cases stepped
    exact sound.rxLcmcMleUnitdataReq (all_spec permit)
  | tickStart cell order ts =>
    cases stepped
    obtain ⟨prompt, keeps⟩ := Bool.and_eq_true_iff.mp permit
    refine @everyTurn_foldl _ _ _ _ (Sound patience)
      (fun state issi sound keeps => sound.timeOut (all_spec keeps)) _ _ ?_ keeps
    refine ⟨⟨sound.filed.held, sound.filed.dated, fun issi pending found => ?_, sound.filed.fits,
      sound.filed.carried⟩, sound.balanced⟩
    exact of_decide_eq_true (List.all_eq_true.mp prompt _ (Table.mem_entries.mpr found))

theorem timely_step (timely : s.Timely) (event : MleEvent) (stepped : s.step event = some next) :
    next.Timely := by
  cases event with
  | tlaMlePdu cell sdu address endpointId linkId incomingAie =>
    cases stepped
    exact timely_rxTlaMlePdu timely sdu address endpointId linkId incomingAie
  | lmmMleUnitdataReq cell request meant =>
    cases stepped
    exact timely_rxLmmMleUnitdataReq timely request meant
  | lcmcMleUnitdataReq cell request meant =>
    cases stepped
    exact timely_rxLcmcMleUnitdataReq timely request meant
  | tickStart cell order ts =>
    cases stepped
    exact timely_tickStart s order ts

theorem sound_start (start : machine.start s) : s.Sound patience ∧ s.Timely := by
  obtain ⟨currentTime, rfl⟩ := start
  refine ⟨⟨⟨fun procedure issi pending found => ?_, fun _ never => (nomatch never),
    fun _ _ found => ?_, List.forall_mem_nil _, List.forall_mem_nil _⟩, ?_⟩, fun _ _ found => ?_⟩
  · cases procedure <;> exact nomatch (AList.lookup_empty _).symm.trans found
  · exact nomatch (AList.lookup_empty _).symm.trans found
  · refine (Docket.Balanced.init _).of_count rfl ?_ fun _ => rfl
    funext ⟨procedure, issi⟩
    cases procedure <;> rfl
  · exact nomatch (AList.lookup_empty _).symm.trans found

/-- What came of a request: it waits and has no answer, or it has exactly one. -/
structure Answered (s : MleBs) (number : Nat) (asked : RoamingRequest) : Prop where
  waiting : s.Waits number → s.answersTo number = [] ∧
    ∃ pending, s.pending asked.procedure asked.address.ssi = some pending ∧ pending.number = number
  closed : ¬ s.Waits number → ∃ request meant,
    s.answersTo number = [.tl request (some number) meant] ∧ AnswerOf number asked request meant

theorem length_answersTo (s : MleBs) (number : Nat) :
    (s.answersTo number).length = s.docket.answered.count number := by
  unfold answersTo docket
  rw [List.count_filterMap, List.countP_eq_length_filter]
  congr 1
  exact List.filter_congr fun message _ => (beq_eq_decide ..).symm

theorem Sound.answered (sound : s.Sound patience) {number : Nat}
    (noted : s.requests[number]? = some asked) : s.Answered number asked := by
  refine ⟨fun waits => ⟨?_, ?_⟩, fun closed => ?_⟩
  · rw [← List.length_eq_zero_iff, length_answersTo]
    exact sound.balanced.silent number (.inr waits)
  · obtain ⟨⟨procedure, issi⟩, here⟩ := waits
    obtain ⟨pending, found, rfl⟩ := map_eq_some_iff.mp here
    obtain ⟨other, same, rfl, rfl, _⟩ := sound.filed.held procedure issi pending found
    cases same.symm.trans noted
    exact ⟨pending, found, rfl⟩
  · have paid := sound.balanced.paid number (List.getElem?_eq_some_iff.mp noted).1 closed
    rw [← length_answersTo, List.length_eq_one_iff] at paid
    obtain ⟨message, single⟩ := paid
    obtain ⟨member, answers⟩ := List.mem_filter.mp
      (show message ∈ s.answersTo number from single ▸ List.mem_singleton_self message)
    have fits := sound.filed.fits message member
    cases message with
    | lmmUnitdataInd => cases answers
    | lcmcUnitdataInd => cases answers
    | tl request answered meant =>
      obtain rfl : answered = some number := of_decide_eq_true answers
      obtain ⟨other, same, answer⟩ := fits
      cases same.symm.trans noted
      exact ⟨request, meant, single, answer⟩

/-- **Roaming answers belong to their request.** In every state that permitted steps reach, every
request has exactly one answer, or waits and has none; no preparation waits beyond T370 and no call
restoration beyond `patience` ticks; and every receipt travels on. A message of another layer that is
not meant for the pending request leaves it alone and is sent as what it is; and every U-PREPARE and
every U-RESTORE is one more request. -/
theorem roaming_answered (patience : Nat)
    (reachable : Reachable machine (fun s event => permits patience s event = true) s) :
    (∀ number asked, s.requests[number]? = some asked → s.Answered number asked) ∧
    (∀ issi, (s.forwardRegistrations.lookup issi).isSome → ∃ deadline,
      s.forwardRegistrationDeadlines.lookup issi = some deadline ∧ deadline.age s.currentTime < 0) ∧
    (∀ issi pending, s.pendingRestores.lookup issi = some pending →
      s.ticks ≤ pending.since + patience) ∧
    (∀ receipt ∈ s.receipts, ∃ request answers meant, .tl request answers meant ∈ s.queue ∧
      request.txReporter = some receipt) ∧
    (∀ cell request meant, permits patience s (.lmmMleUnitdataReq cell request meant) = true →
      (∀ pending, s.forwardRegistrations.lookup request.address.ssi = some pending →
        meant ≠ some pending.number) →
      s.rxLmmMleUnitdataReq cell request meant =
        (s.receive request.txReporter).push (.tl (lmmAsIs request) none meant)) ∧
    (∀ cell request meant, permits patience s (.lcmcMleUnitdataReq cell request meant) = true →
      (∀ pending, s.pendingRestores.lookup request.mainAddress.ssi = some pending →
        meant ≠ some pending.number) →
      s.rxLcmcMleUnitdataReq cell request meant =
        (s.receive request.txReporter).push (.tl (lcmcAsIs cell request) none meant)) ∧
    ∀ cell sdu address endpointId linkId incomingAie,
      (s.rxTlaMlePdu cell sdu address endpointId linkId incomingAie).requests = s.requests ++
        if peekBits sdu 3 = some 0 then [⟨.prepare, address, incomingAie⟩]
        else if peekBits sdu 3 = some 4 then [⟨.restore, address, incomingAie⟩] else [] := by
  have kept : s.Sound patience ∧ s.Timely := reachable.invariant (fun _ => sound_start)
    fun state event next kept permit stepped =>
      ⟨sound_step kept.1 event permit stepped, timely_step kept.2 event stepped⟩
  obtain ⟨sound, timely⟩ := kept
  refine ⟨fun number asked noted => sound.answered noted, fun issi waits => ?_,
    sound.filed.patient, fun receipt member => ?_, ?_, ?_, ?_⟩
  · obtain ⟨deadline, found⟩ := isSome_iff_exists.mp (sound.filed.dated issi waits)
    exact ⟨deadline, found, timely issi deadline found⟩
  · obtain ⟨message, inside, carries⟩ := sound.filed.carried receipt member
    cases message with
    | lmmUnitdataInd => cases carries
    | lcmcUnitdataInd => cases carries
    | tl request answers meant => exact ⟨request, answers, meant, inside, carries⟩
  · intro cell request meant permit other
    have admitted := all_spec (show (s.forwardRegistrations.lookup request.address.ssi).all _ = true
      from permit)
    unfold rxLmmMleUnitdataReq
    split
    · rfl
    next pending found =>
      have open' : decides request = false := by
        by_contra taken
        rw [Bool.not_eq_false] at taken
        have answers := admitted pending found
        rw [taken] at answers
        exact other pending found (admitsAnswer_spec answers).1
      unfold decides at open'
      rw [Bool.or_eq_false_iff, decide_eq_false_iff_not, decide_eq_false_iff_not] at open'
      rw [if_neg open'.1, if_neg open'.2]
  · intro cell request meant permit other
    have admitted := all_spec (show (s.pendingRestores.lookup request.mainAddress.ssi).all _ = true
      from permit)
    unfold rxLcmcMleUnitdataReq
    split
    · rfl
    next pending found =>
      exact absurd (admitsAnswer_spec (admitted pending found)).1 (other pending found)
  · intro cell sdu address endpointId linkId incomingAie
    unfold rxTlaMlePdu
    split
    next prepare =>
      rw [if_pos prepare]
      unfold rxUPrepare
      split
      · rfl
      · unfold sendNewCell
        split <;> rfl
      · rfl
    next restore =>
      rw [restore]
      unfold rxURestore
      split <;> rfl
    next prepare restore =>
      rw [if_neg prepare, if_neg restore, List.append_nil]

/-- A clear cell with one neighbour. `demandType` reads a demand of one kind, without optional
elements. -/
def clearCell : MleCell where
  neighbourStationId number := if number = 7 then some "neighbour" else none
  demandType sdu :=
    if sdu = bitsOf 4 2 ++ bitsOf 3 4 ++ [false, false, false] then
      some .serviceRestorationRoamingLocationUpdating
    else none
  aieEnabled := false
  hasSc3 := false
  hasDck _ := false
  gcknForGssi _ := none
  terminalClass _ := .unknown
  terminalBound _ := false
  groupProtection _ := .clear
  isRegistered _ := true

def terminal : TetraAddress := ⟨1001, .issi⟩

/-- A U-PREPARE for the neighbour with a demand for a location update. -/
def uPrepare : List Bool :=
  bitsOf 3 0 ++ [true, true] ++ bitsOf 5 7 ++ (bitsOf 4 2 ++ bitsOf 3 4 ++ [false, false, false]) ++
    [false]

def uRestore : List Bool :=
  bitsOf 3 4 ++ [true, false, false, false] ++ bitsOf 8 0x5a ++ [false]

def locationUpdateAccept : LmmDownlink :=
  ⟨bitsOf 4 5 ++ bitsOf 8 0, terminal, .acknowledged, false, .clear (.individual 1001) .macResource,
    none, false, none, none⟩

def dStatus : LcmcDownlink :=
  ⟨⟨bitsOf 5 8 ++ bitsOf 20 0x12345, .acknowledged, terminal, none, none, some 5⟩, none, false⟩

theorem new_start : machine.start (new ⟨1, 1, 1, 0⟩) := ⟨_, rfl⟩

/-- A preparation that mobility management accepts gets its answer. -/
theorem roaming_answered_newCell : ∃ s : MleBs,
    s.requests = [⟨.prepare, terminal, none⟩] ∧ (s.answersTo 0).length = 1 ∧
    s.Answered 0 ⟨.prepare, terminal, none⟩ := by
  obtain ⟨s, executed, good⟩ := (any_eq_true _ _).mp
    (show (execPermitted machine (permits 10) (new ⟨1, 1, 1, 0⟩)
      [.tlaMlePdu clearCell uPrepare terminal 0 0 none,
        .lmmMleUnitdataReq clearCell locationUpdateAccept (some 0)]).any
      (fun s => decide (s.requests = [⟨.prepare, terminal, none⟩] ∧
        (s.answersTo 0).length = 1)) = true by decide +kernel)
  obtain ⟨noted, told⟩ := of_decide_eq_true good
  have run := execPermitted_runs (fun _ _ permit => permit) executed
  exact ⟨s, noted, told, (roaming_answered 10 ⟨_, new_start, run⟩).1 0 _ (by rw [noted]; rfl)⟩

/-- **A status message is taken for the answer to a U-RESTORE**: the request counts as answered though
no answer was given, and the receipt of the status message is lost. -/
theorem restore_taken_for_answer : ∃ s, Reachable machine always s ∧
    s.requests = [⟨.restore, terminal, none⟩] ∧ s.pendingRestores.entries = [] ∧ s.receipts = [5] ∧
    (∀ message ∈ s.queue, message.receipt = none) ∧ ¬ s.Answered 0 ⟨.restore, terminal, none⟩ := by
  obtain ⟨s, reached, noted, free, receipts, lost, none, told⟩ := reachable_exec
    (fun s => s.requests = [⟨.restore, terminal, none⟩] ∧ s.pendingRestores.entries = [] ∧
      s.receipts = [5] ∧ (∀ message ∈ s.queue, message.receipt = none) ∧
      s.forwardRegistrations.entries = [] ∧ s.answersTo 0 = [.tl ⟨true, terminal,
        mleDiscriminator ++ dRestoreAck dStatus.sdu, false, none, none, none, false, none, none⟩
        (some 0) none])
    [.tlaMlePdu clearCell uRestore terminal 0 0 none, .lcmcMleUnitdataReq clearCell dStatus none]
    new_start (by decide +kernel)
  refine ⟨s, reached, noted, free, receipts, lost, fun answered => ?_⟩
  have closed : ¬ s.Waits 0 := by
    rintro ⟨⟨procedure, issi⟩, waits⟩
    obtain ⟨pending, found, _⟩ := map_eq_some_iff.mp waits
    cases procedure with
    | prepare => exact nomatch none ▸ Table.mem_entries.mpr found
    | restore => exact nomatch free ▸ Table.mem_entries.mpr found
  obtain ⟨request, meant, single, answer⟩ := answered.closed closed
  cases told.symm.trans single
  obtain ⟨pdu, same, content⟩ := answer.content
  have acknowledges : pdu = dRestoreAck dStatus.sdu := (List.append_cancel_left same).symm
  cases content
  exact absurd acknowledges (by decide)

end MleBs

end Bluestation
