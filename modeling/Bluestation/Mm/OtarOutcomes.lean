/-
**Each command for a key ends once, and by its own answer.**

Commands, link receipts, answers and ticks come in any order. Beside the deliveries stands what only
the terminals and the link layer know: which command was on the air, and which keys it names.

* `OtarTracker.Swept` — what polling or completing some commands does, one lemma for all of them.
* `OtarRun.Careful` — no command number is used for two commands at a time, and a report of success
  (other than of group keys) comes only while the command that it fits has been on the air.
* `careful_credits` — **in every careful run each command has one outcome, or waits for something
  that is still to come; success is credited to a command that the answer answers.**
* `success_credited_to_queued` — a run in which success is credited to a command that never was on
  the air.
-/

import Bluestation.Lib.Run
import Bluestation.Mm.OtarDelivery

namespace Bluestation

open Machines List Option Table OtarTracker

/-! ### Polling or completing some commands -/

namespace OtarTracker

variable (s : OtarTracker)

/-- The number of outcomes of a command, one more while it is tracked. -/
def ledger (commandId : Nat) : Nat :=
  s.outcomes.countP (fun outcome => outcome.commandId = commandId) +
    (s.pendingOtarDeliveries.lookup commandId).toList.length

def outcomeOf (out : PendingOtarDelivery → Option OtarDeliveryStatus) (commandId : Nat)
    (pending : PendingOtarDelivery) : Option CompletedOtarDelivery :=
  (out pending).map fun status => ⟨commandId, pending.issi, pending.kind, status⟩

/-- An operation that keeps a command or gives it an outcome, and touches no other. -/
structure Sweeps (time : TdmaTime) (operation : OtarTracker → Nat → OtarTracker)
    (keep : PendingOtarDelivery → Option PendingOtarDelivery)
    (out : PendingOtarDelivery → Option OtarDeliveryStatus) : Prop where
  clock : ∀ s commandId, (operation s commandId).currentTime = s.currentTime
  lookup : ∀ s commandId, s.currentTime = time → ∀ other,
    (operation s commandId).pendingOtarDeliveries.lookup other =
      if other = commandId then (s.pendingOtarDeliveries.lookup commandId).bind keep
      else s.pendingOtarDeliveries.lookup other
  outcomes : ∀ s commandId, s.currentTime = time →
    (operation s commandId).outcomes = s.outcomes ++
      ((s.pendingOtarDeliveries.lookup commandId).bind (outcomeOf out commandId)).toList
  balanced : ∀ pending, (keep pending).isNone = (out pending).isSome

/-- What was done to some commands. -/
structure Swept (keep : PendingOtarDelivery → Option PendingOtarDelivery)
    (out : PendingOtarDelivery → Option OtarDeliveryStatus) (commandIds : List Nat)
    (s after : OtarTracker) : Prop where
  clock : after.currentTime = s.currentTime
  lookup : ∀ other, after.pendingOtarDeliveries.lookup other =
    if other ∈ commandIds then (s.pendingOtarDeliveries.lookup other).bind keep
    else s.pendingOtarDeliveries.lookup other
  outcomes : ∃ new, after.outcomes = s.outcomes ++ new ∧ ∀ outcome ∈ new,
    outcome.commandId ∈ commandIds ∧ ∃ pending,
      s.pendingOtarDeliveries.lookup outcome.commandId = some pending ∧
        outcomeOf out outcome.commandId pending = some outcome
  ledger : ∀ commandId, after.ledger commandId = s.ledger commandId

section Sweep

variable {time : TdmaTime} {operation : OtarTracker → Nat → OtarTracker}
  {keep : PendingOtarDelivery → Option PendingOtarDelivery}
  {out : PendingOtarDelivery → Option OtarDeliveryStatus}

theorem outcomeOf_spec {commandId : Nat} {pending : PendingOtarDelivery}
    {outcome : CompletedOtarDelivery} (is : outcomeOf out commandId pending = some outcome) :
    outcome.commandId = commandId ∧ outcome.issi = pending.issi ∧ outcome.kind = pending.kind ∧
      out pending = some outcome.status := by
  obtain ⟨status, gives, rfl⟩ := map_eq_some_iff.mp is
  exact ⟨rfl, rfl, rfl, gives⟩

theorem Sweeps.ledger (sweeps : Sweeps time operation keep out) {s : OtarTracker}
    (now : s.currentTime = time) (commandId other : Nat) :
    (operation s commandId).ledger other = s.ledger other := by
  unfold OtarTracker.ledger
  rw [sweeps.outcomes s commandId now, sweeps.lookup s commandId now, countP_append]
  by_cases same : other = commandId
  · subst same
    rw [if_pos rfl]
    cases tracked : s.pendingOtarDeliveries.lookup other with
    | none => rfl
    | some pending =>
      have balanced := sweeps.balanced pending
      dsimp only [bind_some, outcomeOf]
      cases kept : keep pending with
      | none =>
        rw [kept] at balanced
        obtain ⟨status, is⟩ := isSome_iff_exists.mp balanced.symm
        rw [is]
        simp
      | some _ =>
        rw [kept] at balanced
        have none' : out pending = none := by simpa using balanced.symm
        rw [none']
        simp
  · rw [if_neg same]
    have apart : ((s.pendingOtarDeliveries.lookup commandId).bind
        (outcomeOf out commandId)).toList.countP (fun outcome => outcome.commandId = other) = 0 := by
      rw [countP_eq_zero]
      intro outcome member
      obtain ⟨pending, -, is⟩ := bind_eq_some_iff.mp (mem_toList.mp member)
      rw [decide_eq_true_eq, (outcomeOf_spec is).1]
      exact Ne.symm same
    rw [apart, Nat.add_zero]

/-- **A sweep**, by induction on the commands. -/
theorem Sweeps.foldl (sweeps : Sweeps time operation keep out) {commandIds : List Nat}
    (distinct : commandIds.Nodup) {s : OtarTracker} (now : s.currentTime = time) :
    Swept keep out commandIds s (commandIds.foldl operation s) := by
  induction commandIds generalizing s with
  | nil => exact ⟨rfl, fun _ => rfl, ⟨[], (append_nil _).symm, by simp⟩, fun _ => rfl⟩
  | cons first rest ih =>
    obtain ⟨fresh, distinct⟩ := nodup_cons.mp distinct
    have later := ih distinct ((sweeps.clock s first).trans now)
    rw [foldl_cons]
    refine ⟨later.clock.trans (sweeps.clock s first), fun other => ?_, ?_, fun other => ?_⟩
    · rw [later.lookup, sweeps.lookup s first now]
      by_cases here : other = first
      · subst here
        rw [if_neg fresh, if_pos rfl, if_pos mem_cons_self]
      · rw [if_neg here]
        simp only [mem_cons, here, false_or]
    · obtain ⟨new, appended, each⟩ := later.outcomes
      refine ⟨((s.pendingOtarDeliveries.lookup first).bind (outcomeOf out first)).toList ++ new,
        ?_, fun outcome member => ?_⟩
      · rw [appended, sweeps.outcomes s first now, append_assoc]
      · rcases mem_append.mp member with here | there
        · obtain ⟨pending, tracked, is⟩ := bind_eq_some_iff.mp (mem_toList.mp here)
          rw [(outcomeOf_spec is).1]
          exact ⟨mem_cons_self, pending, tracked, is⟩
        · obtain ⟨member, pending, tracked, is⟩ := each outcome there
          have other : outcome.commandId ≠ first := fun same => fresh (by rwa [← same])
          rw [sweeps.lookup s first now, if_neg other] at tracked
          exact ⟨mem_cons_of_mem _ member, pending, tracked, is⟩
    · rw [later.ledger, sweeps.ledger now]

end Sweep

/-! ### Frames -/

section Frames

variable (s : OtarTracker)

@[simp] theorem reportRolloverOtarStatus_pending (commandId issi airHandle : Nat)
    (kind : OtarDownlinkKind) (state : String) (success : Option Bool) :
    (s.reportRolloverOtarStatus commandId issi airHandle kind state success).pendingOtarDeliveries
      = s.pendingOtarDeliveries := by
  unfold reportRolloverOtarStatus
  split <;> rfl

@[simp] theorem reportRolloverOtarStatus_outcomes (commandId issi airHandle : Nat)
    (kind : OtarDownlinkKind) (state : String) (success : Option Bool) :
    (s.reportRolloverOtarStatus commandId issi airHandle kind state success).outcomes
      = s.outcomes := by
  unfold reportRolloverOtarStatus
  split <;> rfl

@[simp] theorem reportRolloverOtarStatus_currentTime (commandId issi airHandle : Nat)
    (kind : OtarDownlinkKind) (state : String) (success : Option Bool) :
    (s.reportRolloverOtarStatus commandId issi airHandle kind state success).currentTime
      = s.currentTime := by
  unfold reportRolloverOtarStatus
  split <;> rfl

theorem completeOtarDelivery_pending (commandId : Nat) (status : OtarDeliveryStatus) (other : Nat) :
    (s.completeOtarDelivery commandId status).pendingOtarDeliveries.lookup other =
      if other = commandId then none else s.pendingOtarDeliveries.lookup other := by
  unfold completeOtarDelivery
  cases tracked : s.pendingOtarDeliveries.lookup commandId with
  | none =>
    by_cases same : other = commandId
    · rw [if_pos same, same]
      exact tracked
    · rw [if_neg same]
  | some pending =>
    dsimp only
    rw [← lookup_erase_eq]
    split <;> rfl

theorem completeOtarDelivery_outcomes (commandId : Nat) (status : OtarDeliveryStatus) :
    (s.completeOtarDelivery commandId status).outcomes = s.outcomes ++
      ((s.pendingOtarDeliveries.lookup commandId).bind
        (outcomeOf (fun _ => some status) commandId)).toList := by
  unfold completeOtarDelivery
  cases s.pendingOtarDeliveries.lookup commandId with
  | none => exact (append_nil _).symm
  | some pending =>
    dsimp only
    split <;> rfl

@[simp] theorem completeOtarDelivery_currentTime (commandId : Nat) (status : OtarDeliveryStatus) :
    (s.completeOtarDelivery commandId status).currentTime = s.currentTime := by
  unfold completeOtarDelivery
  split
  · rfl
  · split <;> rfl

end Frames

theorem completeOtarDelivery_sweeps (time : TdmaTime) (status : OtarDeliveryStatus) :
    Sweeps time (fun s commandId => s.completeOtarDelivery commandId status) (fun _ => none)
      fun _ => some status where
  clock s commandId := s.completeOtarDelivery_currentTime commandId status
  lookup s commandId _ other := by
    rw [completeOtarDelivery_pending]
    cases s.pendingOtarDeliveries.lookup commandId <;> rfl
  outcomes s commandId _ := s.completeOtarDelivery_outcomes commandId status
  balanced _ := rfl

def polled (time : TdmaTime) (pending : PendingOtarDelivery) : Option PendingOtarDelivery :=
  if (pending.poll time).complete.isSome then none
  else some { pending with status := (pending.poll time).status }

@[simp] theorem updateOtarDeliveryStatus_currentTime (commandId : Nat) :
    (s.updateOtarDeliveryStatus commandId).currentTime = s.currentTime := by
  unfold updateOtarDeliveryStatus
  cases s.pendingOtarDeliveries.lookup commandId with
  | none => rfl
  | some pending =>
    dsimp only
    cases (pending.poll s.currentTime).complete <;> cases (pending.poll s.currentTime).event <;> simp

/-- Polling is a sweep. -/
theorem updateOtarDeliveryStatus_sweeps (time : TdmaTime) :
    Sweeps time updateOtarDeliveryStatus (polled time) fun pending =>
      (pending.poll time).complete where
  clock s commandId := s.updateOtarDeliveryStatus_currentTime commandId
  lookup s commandId now other := by
    unfold updateOtarDeliveryStatus
    cases tracked : s.pendingOtarDeliveries.lookup commandId with
    | none =>
      by_cases same : other = commandId
      · rw [if_pos same, same]
        exact tracked
      · rw [if_neg same]
    | some pending =>
      dsimp only [bind_some, polled]
      rw [now]
      cases (pending.poll time).complete with
      | none => cases (pending.poll time).event <;> simp [lookup_insert_eq]
      | some status =>
        by_cases same : other = commandId <;> cases (pending.poll time).event <;>
          simp [completeOtarDelivery_pending, same]
  outcomes s commandId now := by
    unfold updateOtarDeliveryStatus
    cases tracked : s.pendingOtarDeliveries.lookup commandId with
    | none => exact (append_nil _).symm
    | some pending =>
      dsimp only [bind_some, outcomeOf]
      rw [now]
      cases (pending.poll time).complete with
      | none => cases (pending.poll time).event <;> simp
      | some status =>
        cases (pending.poll time).event <;>
          simp [completeOtarDelivery_outcomes, outcomeOf]
  balanced pending := by
    unfold polled
    split
    next completes =>
      rw [completes]
      rfl
    next goesOn =>
      rw [Bool.not_eq_true] at goesOn
      rw [goesOn]
      rfl

theorem commandIds_nodup (order : List Nat) : (s.commandIds order).Nodup :=
  (s.pendingOtarDeliveries.rearrange order).keys_nodup

theorem mem_commandIds (order : List Nat) (commandId : Nat) : commandId ∈ s.commandIds order ↔
      (s.pendingOtarDeliveries.lookup commandId).isSome := by
  unfold commandIds
  rw [← lookup_rearrange s.pendingOtarDeliveries order commandId, AList.lookup_isSome,
    AList.mem_keys]

/-! ### One answer -/

/-- Nothing that concerns deliveries differs. -/
structure SameDeliveries (s other : OtarTracker) : Prop where
  clock : other.currentTime = s.currentTime
  pending : other.pendingOtarDeliveries = s.pendingOtarDeliveries
  outcomes : other.outcomes = s.outcomes

theorem sameDeliveries_setGsko (issi : Nat) (status : GskoBootstrapStatus) :
    SameDeliveries s (s.setGsko issi status) := ⟨rfl, rfl, rfl⟩

theorem SameDeliveries.refl : SameDeliveries s s := ⟨rfl, rfl, rfl⟩

theorem SameDeliveries.report (commandId issi airHandle : Nat) (kind : OtarDownlinkKind)
    (state : String) (success : Option Bool) :
    SameDeliveries s (s.reportRolloverOtarStatus commandId issi airHandle kind state success) :=
  ⟨by simp, by simp, by simp⟩

theorem Swept.congr {keep : PendingOtarDelivery → Option PendingOtarDelivery}
    {out : PendingOtarDelivery → Option OtarDeliveryStatus} {commandIds : List Nat}
    {s after s' after' : OtarTracker} (swept : Swept keep out commandIds s after)
    (first : SameDeliveries s s') (second : SameDeliveries after after') :
    Swept keep out commandIds s' after' := by
  obtain ⟨clock, lookup, outcomes, ledger⟩ := swept
  refine ⟨?_, fun other => ?_, ?_, fun commandId => ?_⟩
  · rw [second.clock, clock, first.clock]
  · rw [second.pending, lookup, first.pending]
  · rw [second.outcomes, first.outcomes, first.pending]
    exact outcomes
  · have same := ledger commandId
    unfold OtarTracker.ledger at same ⊢
    rw [second.outcomes, second.pending, same, first.outcomes, first.pending]

/-- Commands that an answer completes. -/
abbrev Completed (success : Bool) (commandIds : List Nat) (s after : OtarTracker) : Prop :=
  Swept (fun _ => none) (fun _ => some (.terminalResult success)) commandIds s after

theorem completed_nil (success : Bool) (s : OtarTracker) : Completed success [] s s :=
  (completeOtarDelivery_sweeps s.currentTime _).foldl nodup_nil rfl

/-- A command that an answer fits: by terminal, handle and type alone; for group keys also by what
was sent and by the keys. -/
structure Fits (s : OtarTracker) (issi airHandle : Nat) (pdu : UOtar) (success : Bool)
    (commandId : Nat) (response : OtarTerminalResponse) (pending : PendingOtarDelivery) : Prop where
  answer : pdu.response = some (response, success)
  tracked : s.pendingOtarDeliveries.lookup commandId = some pending
  terminal : pending.issi = issi
  handle : pending.airHandle = airHandle
  expected : pending.expectedResponse = some response
  alone : response ≠ .gckResult → s.matchingDeliveries issi airHandle response = [commandId]
  keys : response = .gckResult → pending.status ≠ .queued ∧
    pending.gckKeys = some (sortedKeys pdu.keys)

/-- An answer completes the only command that it may answer, if there is only one. -/
theorem completeOtarTerminalResponse_spec {issi airHandle : Nat} {pdu : UOtar}
    {response : OtarTerminalResponse} {success : Bool}
    (answer : pdu.response = some (response, success)) (other : response ≠ .gckResult) :
    ∃ commandIds, Completed success commandIds s
        (s.completeOtarTerminalResponse issi airHandle response success) ∧
      ∀ commandId ∈ commandIds, ∃ pending,
        Fits s issi airHandle pdu success commandId response pending := by
  unfold completeOtarTerminalResponse
  split
  next commandId alone =>
    have member : commandId ∈ s.matchingDeliveries issi airHandle response := by
      rw [alone]
      exact mem_singleton_self commandId
    obtain ⟨-, fits⟩ := mem_filter.mp member
    obtain ⟨pending, tracked, fits⟩ := (any_eq_true _ _).mp fits
    simp only [Bool.and_eq_true, decide_eq_true_eq] at fits
    rw [tracked]
    refine ⟨[commandId], ?_, fun other member => ?_⟩
    · have sweptFrom (s' : OtarTracker) (same : SameDeliveries s s') :
          Completed success [commandId] s
            (s'.completeOtarDelivery commandId (.terminalResult success)) := by
        have swept := (completeOtarDelivery_sweeps s'.currentTime
          (.terminalResult success)).foldl (nodup_singleton commandId) rfl
        exact swept.congr ⟨same.clock.symm, same.pending.symm, same.outcomes.symm⟩ (.refl _)
      refine (sweptFrom _ ?_).congr (.refl s) (.report _ _ _ _ _ _ _)
      split
      · exact sameDeliveries_setGsko s _ _
      · exact .refl s
    · cases mem_singleton.mp member
      exact ⟨pending, answer, tracked, fits.1.1, fits.1.2, fits.2, fun _ => alone,
        fun same => absurd same ‹_›⟩
  · exact ⟨[], completed_nil success s, by simp⟩

theorem completeGckTerminalResponse_spec (order : List Nat) {issi airHandle : Nat}
    {results : List (OtarKeyId × Nat)} :
    ∃ commandIds, Completed (results.all fun entry => entry.2 = 0) commandIds s
        (s.completeGckTerminalResponse order issi airHandle results) ∧
      ∀ commandId ∈ commandIds, ∃ pending,
        Fits s issi airHandle (.gckResult results) (results.all fun entry => entry.2 = 0) commandId
          .gckResult pending := by
  unfold completeGckTerminalResponse
  split
  · exact ⟨[], completed_nil _ s, by simp⟩
  · refine ⟨_, (completeOtarDelivery_sweeps s.currentTime _).foldl
      ((s.commandIds_nodup order).filter _) rfl, fun commandId member => ?_⟩
    obtain ⟨-, fits⟩ := mem_filter.mp member
    obtain ⟨pending, tracked, fits⟩ := (any_eq_true _ _).mp fits
    simp only [Bool.and_eq_true, decide_eq_true_eq] at fits
    obtain ⟨⟨⟨⟨terminal, handle⟩, expected⟩, status⟩, keys⟩ := fits
    refine ⟨pending, rfl, tracked, terminal, handle, expected, fun other => absurd rfl other,
      fun _ => ⟨fun queued => ?_, keys⟩⟩
    rw [queued] at status
    simp at status

/-- **What an answer completes.** -/
theorem rxUOtar_spec (air : Surroundings) (order : List Nat) (issi airHandle : Nat) (encrypted : Bool)
    (pdu : UOtar) :
    ∃ success commandIds,
      Completed success commandIds s (s.rxUOtar air order issi airHandle encrypted pdu) ∧
      ∀ commandId ∈ commandIds, ∃ response pending,
        Fits s issi airHandle pdu success commandId response pending := by
  have nothing : ∃ success commandIds, Completed success commandIds s s ∧
      ∀ commandId ∈ commandIds, ∃ response pending,
        Fits s issi airHandle pdu success commandId response pending :=
    ⟨true, [], completed_nil true s, by simp⟩
  have single {response : OtarTerminalResponse} {success : Bool}
      (answer : pdu.response = some (response, success)) (other : response ≠ .gckResult)
      (after : OtarTracker) (same : SameDeliveries
        (s.completeOtarTerminalResponse issi airHandle response success) after) :
      ∃ success commandIds, Completed success commandIds s after ∧
        ∀ commandId ∈ commandIds, ∃ response pending,
          Fits s issi airHandle pdu success commandId response pending := by
    obtain ⟨commandIds, completed, fits⟩ :=
      @completeOtarTerminalResponse_spec s issi airHandle pdu response success answer other
    exact ⟨success, commandIds, completed.congr (.refl s) same,
      fun commandId member => ⟨response, fits commandId member⟩⟩
  unfold rxUOtar
  split
  · exact nothing
  · cases pdu with
    | cckDemand | sckDemand | gckDemand => exact nothing
    | gskoDemand => exact ⟨true, [], (completed_nil true s).congr (.refl s)
        (sameDeliveries_setGsko s _ _), by simp⟩
    | gckResult results =>
      obtain ⟨commandIds, completed, fits⟩ :=
        @completeGckTerminalResponse_spec s order issi airHandle results
      exact ⟨_, commandIds, completed, fun commandId member => ⟨_, fits commandId member⟩⟩
    | gskoResult versionNumber cmgGssi provisionResult =>
      refine single rfl (by decide) _ ?_
      dsimp only
      split
      · exact sameDeliveries_setGsko _ _ _
      · exact .refl _
    | cckResult keys provisionResult future => exact single rfl (by decide) _ (.refl _)
    | sckResult results => exact single rfl (by decide) _ (.refl _)
    | keyDeleteResult keys isSuccess => exact single rfl (by decide) _ (.refl _)
    | keyStatusResponse keys => exact single rfl (by decide) _ (.refl _)
    | cmgGtsiResult keys => exact single rfl (by decide) _ (.refl _)

/-! ### One command -/

def tracked (air : Surroundings) (message : OtarDownlink) : Option DOtar :=
  match admits air message with
  | some (pdu, _, .ok _) => if message.acknowledged then some pdu else none
  | _ => none


/-- A command that is not tracked leaves the deliveries as they are. -/
theorem otarDownlink_spec (air : Surroundings) (message : OtarDownlink) :
    (s.otarDownlink air message).1.outcomes = s.outcomes ∧
      ∀ other, (s.otarDownlink air message).1.pendingOtarDeliveries.lookup other =
        match tracked air message with
        | none => s.pendingOtarDeliveries.lookup other
        | some pdu => if other = message.commandId then some (s.delivery message pdu)
            else s.pendingOtarDeliveries.lookup other := by
  unfold otarDownlink tracked
  cases admits air message with
  | none => exact ⟨rfl, fun _ => rfl⟩
  | some admitted =>
    obtain ⟨pdu, groupAddressed, protection⟩ := admitted
    cases protection with
    | error _ => exact ⟨by simp, fun _ => by simp⟩
    | ok aieRequest =>
      have bootstrap : SameDeliveries s
          (if groupAddressed then s else s.bootstrapOf message.itsi message.commandId pdu) := by
        split
        · exact .refl s
        · cases pdu <;> first | exact .refl s | exact sameDeliveries_setGsko s _ _
      cases message.acknowledged with
      | false => exact ⟨bootstrap.outcomes, fun _ => by rw [← bootstrap.pending]; rfl⟩
      | true =>
        simp only [if_true]
        unfold track delivery
        refine ⟨?_, fun other => ?_⟩
        · simpa using bootstrap.outcomes
        · rw [← lookup_insert_eq]
          simp [bootstrap.pending, bootstrap.clock]

end OtarTracker

/-! ### One poll -/

namespace PendingOtarDelivery

variable {pending : PendingOtarDelivery}

/-- A delivery as it is between two polls; `onAir` tells whether its PDU has been on the air. -/
structure Regular (onAir : Bool) (pending : PendingOtarDelivery) : Prop where
  receipt : pending.txReporter.isTransmitted = true → onAir = true
  status : pending.status = .queued ∨
    onAir = true ∧ (pending.status = .airTransmitted ∨
      pending.status = .awaitingTerminalResult ∧ pending.expectedResponse.isSome = true)

/-- **What a delivery still waits for**: to be sent, for the acknowledgement of the link, or for the
terminal's answer before the deadline. -/
def Waits (pending : PendingOtarDelivery) (time : TdmaTime) : Prop :=
  match pending.txReporter.state with
  | .pending | .transmitted => True
  | .acknowledged => pending.expectedResponse.isSome = true ∧ pending.resultDeadline.age time < 0
  | .discarded | .lost => False

theorem readReceipt_complete (pending : PendingOtarDelivery) (success : Bool) :
    pending.readReceipt.complete ≠ some (.terminalResult success) := by
  unfold readReceipt
  split <;> try split_ifs
  all_goals simp

theorem poll_complete (pending : PendingOtarDelivery) (time : TdmaTime) (success : Bool) :
    (pending.poll time).complete ≠ some (.terminalResult success) := by
  unfold poll
  dsimp only
  split
  · simp
  · exact readReceipt_complete pending success

/-- What the receipt leaves open. -/
theorem readReceipt_spec {onAir : Bool} (regular : pending.Regular onAir)
    (goesOn : pending.readReceipt.complete = none) :
    { pending with status := pending.readReceipt.status }.Regular onAir ∧
      (pending.txReporter.state = .pending ∨ pending.txReporter.state = .transmitted ∨
        pending.txReporter.state = .acknowledged ∧
          pending.readReceipt.status = .awaitingTerminalResult ∧
            pending.expectedResponse.isSome = true) := by
  have onAirOf (sent : pending.txReporter.isTransmitted = true) := regular.receipt sent
  unfold TxReporter.isTransmitted at onAirOf
  cases receipt : pending.txReporter.state with
  | pending =>
    have read : pending.readReceipt = ⟨pending.status, none, none⟩ := by
      unfold readReceipt
      rw [receipt]
    rw [read]
    exact ⟨regular, .inl rfl⟩
  | discarded =>
    unfold readReceipt at goesOn
    rw [receipt] at goesOn
    cases goesOn
  | lost =>
    unfold readReceipt at goesOn
    rw [receipt] at goesOn
    cases goesOn
  | transmitted =>
    rw [receipt] at onAirOf
    refine ⟨⟨regular.receipt, ?_⟩, .inr (.inl rfl)⟩
    unfold readReceipt at goesOn ⊢
    rw [receipt] at goesOn ⊢
    dsimp only at goesOn ⊢
    split_ifs at goesOn ⊢ with queued expects response
    · exact .inr ⟨onAirOf rfl, .inl rfl⟩
    · exact .inr ⟨onAirOf rfl, .inr ⟨rfl, response⟩⟩
    · exact regular.status
  | acknowledged =>
    rw [receipt] at onAirOf
    unfold readReceipt at goesOn ⊢
    rw [receipt] at goesOn ⊢
    dsimp only at goesOn ⊢
    split_ifs at goesOn ⊢ with known response
    · have awaits : pending.status = .awaitingTerminalResult ∧
          pending.expectedResponse.isSome = true := by
        rcases regular.status with queued | ⟨_, air | awaits⟩
        · rw [queued] at known
          exact nomatch known
        · rw [air] at known
          exact nomatch known
        · exact awaits
      exact ⟨regular, .inr (.inr ⟨rfl, awaits⟩)⟩
    · exact ⟨⟨regular.receipt, .inr ⟨onAirOf rfl, .inr ⟨rfl, response⟩⟩⟩,
        .inr (.inr ⟨rfl, rfl, response⟩)⟩

/-- **A delivery that a poll keeps still waits.** -/
theorem polled_spec {onAir : Bool} (regular : pending.Regular onAir) {time : TdmaTime}
    {kept : PendingOtarDelivery} (polled : polled time pending = some kept) :
    kept.Regular onAir ∧ kept.Waits time := by
  unfold OtarTracker.polled poll at polled
  by_cases due : pending.readReceipt.status = .awaitingTerminalResult ∧
      0 ≤ pending.resultDeadline.age time
  · rw [if_pos due] at polled
    cases polled
  · rw [if_neg due] at polled
    obtain ⟨goesOn, is⟩ := ite_none_left_eq_some.mp polled
    cases is
    obtain ⟨after, waits⟩ := readReceipt_spec regular (not_isSome_iff_eq_none.mp goesOn)
    refine ⟨after, ?_⟩
    unfold Waits
    rcases waits with receipt | receipt | ⟨receipt, awaits, response⟩
    · rw [receipt]
      trivial
    · rw [receipt]
      trivial
    · rw [receipt]
      exact ⟨response, not_le.mp fun past => due ⟨awaits, past⟩⟩

end PendingOtarDelivery

/-! ### Runs -/

/-- The deliveries, and what was admitted and sent. -/
structure OtarRun where
  tracker : OtarTracker
  /-- The command that was last admitted under a number, and whether it has been on the air. -/
  commands : Table (DOtar × Bool)
  /-- The numbers of all commands that were admitted for tracking. -/
  admitted : List Nat

inductive OtarEvent where
  | downlink (air : OtarTracker.Surroundings) (message : OtarDownlink)
  | receipt (commandId : Nat) (mark : TxMark)
  | uplink (air : OtarTracker.Surroundings) (order : List Nat) (issi airHandle : Nat)
      (encrypted : Bool) (pdu : UOtar)
  | tick (time : TdmaTime) (order : List Nat)

namespace OtarRun

def step (run : OtarRun) : OtarEvent → Option OtarRun
  | .downlink air message =>
    let tracker := (run.tracker.otarDownlink air message).1
    match OtarTracker.tracked air message with
    | none => some { run with tracker }
    | some pdu =>
      some ⟨tracker, run.commands.insert message.commandId (pdu, false),
        run.admitted ++ [message.commandId]⟩
  | .receipt commandId mark =>
    match run.tracker.pendingOtarDeliveries.lookup commandId with
    | none => some run
    | some pending =>
      match pending.txReporter.apply mark with
      | .error _ => none
      | .ok txReporter =>
        some { run with
          tracker := { run.tracker with
            pendingOtarDeliveries := run.tracker.pendingOtarDeliveries.insert commandId
              { pending with txReporter } }
          commands := if mark = .transmitted then
            run.commands.modify commandId fun command => (command.1, true)
            else run.commands }
  | .uplink air order issi airHandle encrypted pdu =>
    some { run with tracker := run.tracker.rxUOtar air order issi airHandle encrypted pdu }
  | .tick time order =>
    some { run with
      tracker := { run.tracker with currentTime := time }.updateOtarDeliveryStatuses order }

def init (time : TdmaTime) : OtarRun := ⟨⟨time, ∅, [], ∅, [], []⟩, ∅, []⟩

def machine : Machine OtarRun OtarEvent where
  start run := ∃ time, run = init time
  step := step

/-- **An answer answers a command**: the command was on the air, and the answer names its keys. -/
def Answers (run : OtarRun) (pdu : UOtar) (commandId : Nat) : Prop :=
  ∃ command, run.commands.lookup commandId = some (command, true) ∧ command.keys.Perm pdu.keys

def reportsSuccess (pdu : UOtar) (response : OtarTerminalResponse) : Bool :=
  pdu.response = some (response, true) && response ≠ .gckResult

/-- A number is not used for a second command while the first is tracked; and if a report of success
fits one tracked command, it answers that command. -/
def Careful (run : OtarRun) : OtarEvent → Prop
  | .downlink air message => (OtarTracker.tracked air message).isSome →
      run.tracker.pendingOtarDeliveries.lookup message.commandId = none
  | .uplink _ _ issi airHandle _ pdu => ∀ response, reportsSuccess pdu response = true →
      ∀ commandId, run.tracker.matchingDeliveries issi airHandle response = [commandId] →
        run.Answers pdu commandId
  | _ => True

def Accounted (run : OtarRun) : Prop :=
  ∀ commandId, run.tracker.ledger commandId = run.admitted.count commandId

/-- **New outcomes belong to tracked commands**; that of an answer goes to a command of the terminal
that sent it, of the type that it answers, and success to a command that it answers. -/
def Credits (run : OtarRun) (event : OtarEvent) (next : OtarRun) : Prop :=
  ∃ new, next.tracker.outcomes = run.tracker.outcomes ++ new ∧ ∀ outcome ∈ new, ∃ pending,
    run.tracker.pendingOtarDeliveries.lookup outcome.commandId = some pending ∧
      outcome.issi = pending.issi ∧ outcome.kind = pending.kind ∧
        ∀ success, outcome.status = .terminalResult success →
          ∃ air order airHandle encrypted pdu response,
            event = .uplink air order outcome.issi airHandle encrypted pdu ∧
              pdu.response = some (response, success) ∧
                outcome.kind.expectedResponse = some response ∧ pending.airHandle = airHandle ∧
                  (success = true → run.Answers pdu outcome.commandId)

/-- **After a tick** every tracked command waits for something that is still to come. -/
def SettledBy (event : OtarEvent) (next : OtarRun) : Prop :=
  ∀ time order, event = .tick time order → ∀ commandId pending,
    next.tracker.pendingOtarDeliveries.lookup commandId = some pending → pending.Waits time

/-! ### What every step preserves -/

/-- A tracked delivery is that of its command. -/
def Records (command : DOtar × Bool) (pending : PendingOtarDelivery) : Prop :=
  pending.Regular command.2 ∧ pending.kind = command.1.kind ∧
    pending.expectedResponse = command.1.kind.expectedResponse ∧
      (pending.kind = .gckProvide → pending.gckKeys = some (sortedKeys command.1.keys))

/-- **The deliveries are those of the commands**, and each command is accounted for. -/
structure Kept (run : OtarRun) : Prop where
  accounted : run.Accounted
  recorded : ∀ commandId pending,
    run.tracker.pendingOtarDeliveries.lookup commandId = some pending →
      ∃ command, run.commands.lookup commandId = some command ∧ Records command pending

variable {run next : OtarRun}

theorem kept_init (time : TdmaTime) : (init time).Kept where
  accounted _ := rfl
  recorded _ _ tracked := nomatch tracked

/-- A mark keeps a delivery regular. -/
theorem regular_of_mark {pending : PendingOtarDelivery} {onAir : Bool}
    (regular : pending.Regular onAir) {mark : TxMark} {txReporter : TxReporter}
    (marked : pending.txReporter.apply mark = .ok txReporter) :
    ({ pending with txReporter } : PendingOtarDelivery).Regular
      (if mark = .transmitted then true else onAir) := by
  obtain ⟨receipt, status⟩ := regular
  have moved {currState newState : TxState}
      (marked : pending.txReporter.mark currState newState = .ok txReporter) :
      pending.txReporter.state = currState ∧ txReporter.state = newState := by
    unfold TxReporter.mark at marked
    split at marked
    next here =>
      cases marked
      exact ⟨here, rfl⟩
    · cases marked
  have silent {state : TxState} (now : txReporter.state = state)
      (quiet : state = .pending ∨ state = .discarded) : txReporter.isTransmitted = false := by
    unfold TxReporter.isTransmitted
    rw [now]
    rcases quiet with rfl | rfl <;> rfl
  have sent (before : pending.txReporter.state = .transmitted) : onAir = true := by
    apply receipt
    unfold TxReporter.isTransmitted
    rw [before]
  cases mark with
  | transmitted =>
    refine ⟨fun _ => rfl, ?_⟩
    exact status.imp_right fun ⟨_, known⟩ => ⟨rfl, known⟩
  | discarded =>
    refine ⟨fun air => ?_, status⟩
    rw [silent (moved marked).2 (.inr rfl)] at air
    cases air
  | acknowledged =>
    obtain ⟨-, -, marked⟩ := bind_eq_ok.mp marked
    exact ⟨fun _ => sent (moved marked).1, status⟩
  | lost =>
    obtain ⟨-, -, marked⟩ := bind_eq_ok.mp marked
    exact ⟨fun _ => sent (moved marked).1, status⟩
  | reset =>
    cases marked
    refine ⟨fun air => ?_, status⟩
    cases air

/-- **What an answer credits**: the keys of a provision that was sent are its own. -/
theorem Kept.answers_of_fits (kept : run.Kept) {issi airHandle : Nat} {pdu : UOtar} {success : Bool}
    {commandId : Nat} {response : OtarTerminalResponse} {pending : PendingOtarDelivery}
    (fits : OtarTracker.Fits run.tracker issi airHandle pdu success commandId response pending)
    (careful : ∀ response, reportsSuccess pdu response = true →
      ∀ commandId, run.tracker.matchingDeliveries issi airHandle response = [commandId] →
        run.Answers pdu commandId) (succeeds : success = true) : run.Answers pdu commandId := by
  subst succeeds
  by_cases group : response = .gckResult
  · obtain ⟨⟨command, onAir⟩, recorded, regular, kind, expected, keys⟩ :=
      kept.recorded commandId pending fits.tracked
    obtain ⟨status, named⟩ := fits.keys group
    obtain ⟨aired, -⟩ := regular.status.resolve_left status
    have provides : pending.kind = .gckProvide := by
      have response := expected.symm.trans fits.expected
      rw [group] at response
      rw [kind]
      revert response
      generalize command.kind = kind
      cases kind <;> decide
    refine ⟨command, by rw [recorded, ← aired], ?_⟩
    have same := some_inj.mp ((keys provides).symm.trans named)
    unfold sortedKeys at same
    refine ((perm_insertionSort otarKeyBefore command.keys).symm.trans ?_)
    rw [same]
    exact perm_insertionSort otarKeyBefore pdu.keys
  · refine careful response ?_ commandId (fits.alone group)
    unfold reportsSuccess
    rw [fits.answer]
    simp [group]

theorem credits_of_same {event : OtarEvent} (same : next.tracker.outcomes = run.tracker.outcomes) :
    run.Credits event next :=
  ⟨[], same.trans (append_nil _).symm, nofun⟩

section

variable (kept : run.Kept)

include kept

variable {air : OtarTracker.Surroundings}

/-- A command is tracked from its admission. -/
theorem Kept.downlink {message : OtarDownlink} (careful : run.Careful (.downlink air message))
    (stepped : run.step (.downlink air message) = some next) :
    next.Kept ∧ run.Credits (.downlink air message) next := by
  obtain ⟨outcomes, lookup⟩ := otarDownlink_spec run.tracker air message
  unfold OtarRun.step at stepped
  dsimp only at stepped
  cases starts : tracked air message with
  | none =>
    rw [starts] at stepped lookup
    cases stepped
    refine ⟨⟨fun commandId => ?_, fun commandId pending tracked => ?_⟩, credits_of_same outcomes⟩
    · rw [← kept.accounted commandId]
      unfold ledger
      rw [outcomes, lookup]
    · exact kept.recorded commandId pending ((lookup commandId).symm.trans tracked)
  | some pdu =>
    rw [starts] at stepped lookup
    dsimp only at stepped lookup
    cases stepped
    have fresh := careful (isSome_iff_exists.mpr ⟨pdu, starts⟩)
    refine ⟨⟨fun commandId => ?_, fun commandId pending tracked => ?_⟩, credits_of_same outcomes⟩
    · have accounted := kept.accounted commandId
      unfold ledger at accounted ⊢
      rw [outcomes, lookup, List.count_append, ← accounted]
      by_cases same : commandId = message.commandId
      · rw [same, fresh]
        simp
      · rw [if_neg same]
        simp [Ne.symm same]
    · rw [lookup] at tracked
      rw [lookup_insert_eq]
      by_cases same : commandId = message.commandId
      · rw [if_pos same] at tracked ⊢
        cases tracked
        refine ⟨_, rfl, ⟨fun air => (nomatch air), .inl rfl⟩, rfl, rfl, fun provides => ?_⟩
        exact if_pos provides
      · rw [if_neg same] at tracked ⊢
        exact kept.recorded commandId pending tracked

/-- A mark changes the receipt of one delivery. -/
theorem Kept.receipt {commandId : Nat} {mark : TxMark}
    (stepped : run.step (.receipt commandId mark) = some next) :
    next.Kept ∧ run.Credits (.receipt commandId mark) next := by
  unfold OtarRun.step at stepped
  dsimp only at stepped
  cases tracked : run.tracker.pendingOtarDeliveries.lookup commandId with
  | none =>
    rw [tracked] at stepped
    cases stepped
    exact ⟨kept, credits_of_same rfl⟩
  | some pending =>
    rw [tracked] at stepped
    dsimp only at stepped
    cases marked : pending.txReporter.apply mark with
    | error _ =>
      rw [marked] at stepped
      cases stepped
    | ok txReporter =>
      rw [marked] at stepped
      cases stepped
      refine ⟨⟨fun other => ?_, fun other found present => ?_⟩, credits_of_same rfl⟩
      · rw [← kept.accounted other]
        unfold ledger
        rw [lookup_insert_eq]
        by_cases same : other = commandId
        · rw [if_pos same, same, tracked]
          rfl
        · rw [if_neg same]
      · rw [lookup_insert_eq] at present
        have commands : (if mark = .transmitted then
            run.commands.modify commandId fun command => (command.1, true)
            else run.commands).lookup other
              = if other = commandId then (run.commands.lookup commandId).map fun command =>
                  (command.1, if mark = .transmitted then true else command.2)
                else run.commands.lookup other := by
          split
          · rw [lookup_modify]
          · by_cases same : other = commandId
            · rw [if_pos same, same]
              exact map_id'.symm
            · rw [if_neg same]
        rw [commands]
        by_cases same : other = commandId
        · rw [if_pos same] at present ⊢
          cases present
          obtain ⟨command, recorded, regular, rest⟩ := kept.recorded commandId pending tracked
          rw [recorded]
          exact ⟨_, rfl, regular_of_mark regular marked, rest⟩
        · rw [if_neg same] at present ⊢
          exact kept.recorded other found present

/-- An answer completes only what it answers. -/
theorem Kept.uplink {order : List Nat} {issi airHandle : Nat}
    {encrypted : Bool} {pdu : UOtar}
    (careful : run.Careful (.uplink air order issi airHandle encrypted pdu))
    (stepped : run.step (.uplink air order issi airHandle encrypted pdu) = some next) :
    next.Kept ∧ run.Credits (.uplink air order issi airHandle encrypted pdu) next := by
  obtain ⟨success, commandIds, swept, fits⟩ :=
    rxUOtar_spec run.tracker air order issi airHandle encrypted pdu
  cases stepped
  have accounted (commandId : Nat) := (swept.ledger commandId).trans (kept.accounted commandId)
  refine ⟨⟨accounted, fun commandId pending tracked => ?_⟩, ?_⟩
  · have before := swept.lookup commandId
    rw [tracked] at before
    split at before
    · simp at before
    · exact kept.recorded commandId pending before.symm
  · obtain ⟨new, appended, each⟩ := swept.outcomes
    refine ⟨new, appended, fun outcome member => ?_⟩
    obtain ⟨fit, pending, tracked, is⟩ := each outcome member
    obtain ⟨response, known, fits⟩ := fits outcome.commandId fit
    cases tracked.symm.trans fits.tracked
    obtain ⟨-, terminal, kind, gives⟩ := outcomeOf_spec is
    obtain ⟨command, -, -, same, expected, -⟩ := kept.recorded _ _ fits.tracked
    refine ⟨pending, tracked, terminal, kind, fun success' status => ?_⟩
    have succeeds : success = success' := by
      rw [status] at gives
      cases gives
      rfl
    subst succeeds
    refine ⟨air, order, airHandle, encrypted, pdu, response, ?_, fits.answer, ?_, fits.handle, ?_⟩
    · rw [terminal, fits.terminal]
    · rw [kind, same, ← expected, fits.expected]
    · exact kept.answers_of_fits fits careful

/-- **A tick** completes what failed or is late; the rest still waits. -/
theorem Kept.tick {time : TdmaTime} {order : List Nat}
    (stepped : run.step (.tick time order) = some next) :
    next.Kept ∧ run.Credits (.tick time order) next ∧ SettledBy (.tick time order) next := by
  let begun : OtarTracker := { run.tracker with currentTime := time }
  have swept := (updateOtarDeliveryStatus_sweeps time).foldl
    (begun.commandIds_nodup order) (s := begun) rfl
  cases stepped
  have waits (commandId : Nat) (pending : PendingOtarDelivery)
      (tracked : (begun.updateOtarDeliveryStatuses order).pendingOtarDeliveries.lookup commandId
        = some pending) :
      ∃ command, run.commands.lookup commandId = some command ∧ Records command pending ∧
        pending.Waits time := by
    have before := (swept.lookup commandId).symm.trans tracked
    split at before
    · obtain ⟨old, known, polled⟩ := bind_eq_some_iff.mp before
      obtain ⟨command, recorded, regular, rest⟩ := kept.recorded commandId old known
      obtain ⟨after, waits⟩ := PendingOtarDelivery.polled_spec regular polled
      refine ⟨command, recorded, ⟨after, ?_⟩, waits⟩
      obtain ⟨-, is⟩ := ite_none_left_eq_some.mp polled
      cases is
      exact rest
    next missing =>
      rw [mem_commandIds, before] at missing
      exact absurd rfl missing
  have accounted (commandId : Nat) := (swept.ledger commandId).trans (kept.accounted commandId)
  refine ⟨⟨accounted, fun commandId pending tracked => ?_⟩, ?_, ?_⟩
  · obtain ⟨command, recorded, records, -⟩ := waits commandId pending tracked
    exact ⟨command, recorded, records⟩
  · obtain ⟨new, appended, each⟩ := swept.outcomes
    refine ⟨new, appended, fun outcome member => ?_⟩
    obtain ⟨-, pending, tracked, is⟩ := each outcome member
    obtain ⟨-, terminal, kind, gives⟩ := outcomeOf_spec is
    refine ⟨pending, tracked, terminal, kind, fun success status => ?_⟩
    rw [status] at gives
    exact absurd gives (pending.poll_complete time success)
  · intro time' order' same commandId pending tracked
    cases same
    obtain ⟨-, -, -, waits⟩ := waits commandId pending tracked
    exact waits

/-- **A step keeps the accounts, and credits only what answers.** -/
theorem Kept.step {event : OtarEvent} (careful : run.Careful event)
    (stepped : run.step event = some next) :
    next.Kept ∧ run.Credits event next ∧ SettledBy event next := by
  cases event with
  | downlink air message =>
    obtain ⟨after, credits⟩ := kept.downlink careful stepped
    exact ⟨after, credits, fun _ _ same => nomatch same⟩
  | receipt commandId mark =>
    obtain ⟨after, credits⟩ := kept.receipt stepped
    exact ⟨after, credits, fun _ _ same => nomatch same⟩
  | uplink air order issi airHandle encrypted pdu =>
    obtain ⟨after, credits⟩ := kept.uplink careful stepped
    exact ⟨after, credits, fun _ _ same => nomatch same⟩
  | tick time order => exact kept.tick stepped

end

/-! ### Whole runs -/

/-- **In every careful run** each admitted command has one outcome or is tracked; after each tick
whatever is tracked waits for something that is still to come; and success is credited only to a
command that was on the air and whose keys the answer of its terminal names. -/
theorem careful_credits (reachable : Reachable machine Careful run) :
    run.Accounted ∧ ∀ event next, run.Careful event → run.step event = some next →
      run.Credits event next ∧ SettledBy event next := by
  have kept : run.Kept := by
    apply reachable.invariant
    · rintro first ⟨time, rfl⟩
      exact kept_init time
    · intro state event next kept careful stepped
      exact (kept.step careful stepped).1
  exact ⟨kept.accounted, fun event next careful stepped => (kept.step careful stepped).2⟩

def openAir : OtarTracker.Surroundings where
  aie := ⟨⟨false, none, none⟩, true, none⟩
  sessions := ⟨⟨[], []⟩, ∅, ∅⟩
  isRegistered _ := true
  unixNow := 0

def provideSck (commandId : Nat) (key : OtarKeyId) : OtarDownlink :=
  ⟨commandId, 1001, 0, 1001, true, 0, [], some (.sckProvide [key])⟩

def acceptsSck (key : OtarKeyId) : UOtar := .sckResult [(key, 0)]

def sentEvents : List OtarEvent :=
  [.downlink openAir (provideSck 1 (3, 4)), .receipt 1 .transmitted, .receipt 1 .acknowledged,
    .tick ⟨1, 1, 1, 0⟩ []]

def permits (run : OtarRun) : OtarEvent → Bool
  | .downlink _ message =>
    run.tracker.pendingOtarDeliveries.lookup message.commandId = none
  | .uplink _ _ _ _ _ _ => false
  | _ => true

theorem careful_of_permits (run : OtarRun) (event : OtarEvent) (permit : run.permits event = true) :
    run.Careful event := by
  cases event with
  | downlink air message => exact fun _ => of_decide_eq_true permit
  | receipt commandId mark => trivial
  | uplink air order issi airHandle encrypted pdu => cases permit
  | tick time order => trivial

/-- A provision, and its answer. -/
theorem careful_credits_answered : ∃ run next, Reachable machine Careful run ∧ run.Accounted ∧
    run.step (.uplink openAir [] 1001 0 true (acceptsSck (3, 4))) = some next ∧
      run.Credits (.uplink openAir [] 1001 0 true (acceptsSck (3, 4))) next ∧
        next.tracker.outcomes = [⟨1, 1001, .sckProvide, .terminalResult true⟩] := by
  have leads : (execPermitted machine permits (init ⟨4, 18, 60, 0⟩) sentEvents).any (fun run =>
      decide (run.tracker.matchingDeliveries 1001 0 .sckResult = [1] ∧
        run.commands.lookup 1 = some (.sckProvide [(3, 4)], true) ∧
          (run.tracker.rxUOtar openAir [] 1001 0 true (acceptsSck (3, 4))).outcomes
            = [⟨1, 1001, .sckProvide, .terminalResult true⟩])) = true := by decide +kernel
  obtain ⟨run, executed, holds⟩ := (any_eq_true _ _).mp leads
  obtain ⟨only, sent, outcomes⟩ := of_decide_eq_true holds
  have reachable : Reachable machine Careful run :=
    ⟨_, ⟨_, rfl⟩, execPermitted_runs careful_of_permits executed⟩
  obtain ⟨accounted, steps⟩ := careful_credits reachable
  have careful : run.Careful (.uplink openAir [] 1001 0 true (acceptsSck (3, 4))) := by
    intro response success commandId alone
    unfold reportsSuccess at success
    have same : response = .sckResult := by
      revert success
      cases response <;> decide
    subst same
    cases only.symm.trans alone
    exact ⟨_, sent, .refl _⟩
  exact ⟨run, _, reachable, accounted, rfl, (steps _ _ careful rfl).1, outcomes⟩

/-- **Success of a command that was never on the air**: the terminal sends its answer to the first
provision again when the second has just been admitted. -/
theorem success_credited_to_queued : ∃ run next, Reachable machine always run ∧
    run.commands.lookup 2 = some (.sckProvide [(5, 5)], false) ∧
      run.step (.uplink openAir [] 1001 0 true (acceptsSck (3, 4))) = some next ∧
        ¬ run.Credits (.uplink openAir [] 1001 0 true (acceptsSck (3, 4))) next := by
  obtain ⟨run, reached, queued, outcomes⟩ := reachable_exec (fun run =>
    run.commands.lookup 2 = some (.sckProvide [(5, 5)], false) ∧
      (run.tracker.rxUOtar openAir [] 1001 0 true (acceptsSck (3, 4))).outcomes
        = run.tracker.outcomes ++ [⟨2, 1001, .sckProvide, .terminalResult true⟩])
    (sentEvents ++ [.uplink openAir [] 1001 0 true (acceptsSck (3, 4)),
      .downlink openAir (provideSck 2 (5, 5))])
    (show machine.start (init ⟨4, 18, 60, 0⟩) from ⟨_, rfl⟩) (by decide +kernel)
  refine ⟨run, _, reached, queued, rfl, fun ⟨new, appended, each⟩ => ?_⟩
  have is := append_cancel_left (outcomes.symm.trans appended)
  obtain ⟨pending, -, -, -, credit⟩ := each _ (is ▸ mem_singleton_self _)
  obtain ⟨_, _, _, _, _, _, -, -, -, -, answers⟩ := credit true rfl
  obtain ⟨command, sent, -⟩ := answers rfl
  exact nomatch queued.symm.trans sent

end OtarRun

end Bluestation
