/-
**What an exchange about groups leaves alone.**

Key associations and controls of a terminal go on beside everything else: they change the exchanges,
and what is handed to the link layer and to the network, but no registration.

* `MmBs.answers`, `MmBs.forwards` — the demands that were answered, and those that were forwarded.
* `MmBs.beside_completeGroupSecurityAssociationAck`, `MmBs.beside_completeTerminalGroupControl` — an
  acknowledgement changes the memberships first.
-/

import Bluestation.Mm.Events

namespace Bluestation

open List

def MmDownlink.answers : MmDownlink → Option Nat
  | locationUpdateAccept _ demand | locationUpdateReject _ demand => demand
  | _ => none

def SwmiSubmission.forwards : SwmiSubmission → Option Nat
  | registrationAttempt commandId _ _ _ _ _ => some commandId
  | _ => none

namespace MmBs

def answers (s : MmBs) : List Nat := s.radio.sent.filterMap (·.message.answers)

def forwards (s : MmBs) : List Nat := s.submitted.filterMap (·.forwards)

variable (s : MmBs) (air : MmSurroundings) (issi : Nat) (handle : Nat)

theorem answers_send (message : MmDownlink) :
    (s.send issi handle message).answers = s.answers ++ message.answers.toList := by
  unfold answers send
  rw [filterMap_append]
  rfl

theorem forwards_submit (message : SwmiSubmission) :
    (s.submit message).forwards = s.forwards ++ message.forwards.toList := by
  unfold forwards submit
  rw [filterMap_append]
  rfl

/-- **Only exchanges differ.** -/
structure Beside (before after : MmBs) : Prop where
  currentTime : after.currentTime = before.currentTime
  members : after.members = before.members
  aieSessions : after.aieSessions = before.aieSessions
  requests : after.requests = before.requests
  presence : after.presence = before.presence
  receipts : after.radio.receipts = before.radio.receipts
  answers : after.answers = before.answers
  forwards : after.forwards = before.forwards

namespace Beside

variable {s} {t u : MmBs}

theorem refl (s : MmBs) : Beside s s := ⟨rfl, rfl, rfl, rfl, rfl, rfl, rfl, rfl⟩

theorem trans (first : Beside s t) (second : Beside t u) : Beside s u where
  currentTime := second.currentTime.trans first.currentTime
  members := second.members.trans first.members
  aieSessions := second.aieSessions.trans first.aieSessions
  requests := second.requests.trans first.requests
  presence := second.presence.trans first.presence
  receipts := second.receipts.trans first.receipts
  answers := second.answers.trans first.answers
  forwards := second.forwards.trans first.forwards

theorem foldl {Item : Type} {act : MmBs → Item → MmBs} (steps : ∀ s item, Beside s (act s item))
    (items : List Item) (s : MmBs) : Beside s (items.foldl act s) :=
  foldlRecOn items act (refl s) fun next beside item _ => beside.trans (steps next item)

/-- A change of the exchanges alone. -/
theorem exchanges (s : MmBs) (exchanges : MmExchanges) : Beside s { s with exchanges } :=
  ⟨rfl, rfl, rfl, rfl, rfl, rfl, rfl, rfl⟩

/-- A message that answers no demand. -/
theorem send (s : MmBs) (issi handle : Nat) {message : MmDownlink} (other : message.answers = none) :
    Beside s (s.send issi handle message) := by
  refine ⟨rfl, rfl, rfl, rfl, rfl, rfl, ?_, rfl⟩
  rw [answers_send, other]
  exact append_nil _

theorem sendWithReceipt (s : MmBs) (issi handle : Nat) {message : MmDownlink}
    (other : message.answers = none) : Beside s (s.sendWithReceipt issi handle message).1 :=
  have sent := send s issi handle other
  ⟨rfl, rfl, rfl, rfl, rfl, rfl, sent.answers, rfl⟩

theorem submit (s : MmBs) {message : SwmiSubmission} (other : message.forwards = none) :
    Beside s (s.submit message) := by
  refine ⟨rfl, rfl, rfl, rfl, rfl, rfl, rfl, ?_⟩
  rw [forwards_submit, other]
  exact append_nil _

end Beside

/-! ### Key associations -/

theorem beside_enqueue (groups : List Nat) (retries : Nat) (exchanges : List Nat) :
    Beside s (s.enqueueGroupSecurityAssociations issi handle groups retries exchanges) := by
  unfold enqueueGroupSecurityAssociations
  split
  · exact .refl s
  · exact .exchanges s _

theorem beside_start (groups : List Nat) (retries : Nat) (exchanges : List Nat) :
    Beside s (s.startGroupSecurityAssociationTransaction air issi handle groups retries exchanges) := by
  unfold startGroupSecurityAssociationTransaction
  dsimp only
  split
  · exact .refl s
  · exact (Beside.sendWithReceipt s issi handle rfl).trans (.exchanges _ _)

theorem beside_amendments (groups : List Nat) :
    Beside s (s.sendGroupSecurityAssociationAmendments air issi handle groups) := by
  unfold sendGroupSecurityAssociationAmendments
  dsimp only
  split
  · exact .refl s
  · refine (show Beside s s.newExchange.1 from .exchanges s _).trans ?_
    split
    · exact beside_enqueue _ _ _ _ _ _
    · exact (Beside.exchanges _ _).trans (beside_start _ _ _ _ _ _ _)

theorem beside_flushQueued : Beside s (s.flushQueued air issi) := by
  unfold flushQueued
  dsimp only
  split
  · exact .exchanges s _
  · exact (Beside.exchanges s _).trans (beside_start _ _ _ _ _ _ _)

variable (order : List Nat)

theorem beside_flush : Beside s (s.flushQueuedGroupSecurityAssociations air order) :=
  Beside.foldl (fun s issi => beside_flushQueued s air issi) _ s

theorem beside_retry (pending : PendingGroupSecurityAssociation) (groups : List Nat) :
    Beside s (s.retryGroupSecurityAssociation air issi pending groups) := by
  unfold retryGroupSecurityAssociation
  split
  · exact .refl s
  · split
    · exact beside_enqueue _ _ _ _ _ _
    · exact beside_start _ _ _ _ _ _ _

theorem beside_retryFailed : Beside s (s.retryFailed air issi) := by
  unfold retryFailed
  split
  · exact .refl s
  · exact (Beside.exchanges s _).trans (beside_retry _ _ _ _ _)

theorem beside_updateGroupSecurityAssociationStatuses (failedOrder flushOrder : List Nat) :
    Beside s (s.updateGroupSecurityAssociationStatuses air failedOrder flushOrder) :=
  ((Beside.exchanges s _).trans
    (Beside.foldl (fun s issi => beside_retryFailed s air issi) _ _)).trans (beside_flush _ _ _)

/-- **An acknowledged association** changes classes, and goes on beside them. -/
theorem beside_completeGroupSecurityAssociationAck (pdu : Affiliations.Acknowledgement)
    {pending : PendingGroupSecurityAssociation}
    (found : s.exchanges.pendingGroupSecurityAssociations.lookup issi = some pending) :
    Beside { s with members := s.members.updateClasses issi pending.groups pdu }
      (s.completeGroupSecurityAssociationAck air issi order pdu) := by
  unfold completeGroupSecurityAssociationAck
  rw [found]
  refine (.trans ?_ (beside_flush _ _ _))
  have removed (members : Affiliations) : Beside { s with members }
      { s.removePendingGroupSecurityAssociation issi with members } :=
    ⟨rfl, rfl, rfl, rfl, rfl, rfl, rfl, rfl⟩
  refine (removed _).trans ?_
  split
  · exact beside_retry _ _ _ _ _
  · split
    · exact beside_retry _ _ _ _ _
    · exact .refl _

/-! ### Controls -/

theorem beside_finishTerminalControl (success : Bool) (cause : Nat) :
    Beside s (s.finishTerminalControl issi success cause) := by
  unfold finishTerminalControl
  split
  · exact .refl s
  · exact (Beside.exchanges s _).trans (.submit _ rfl)

theorem beside_startTerminalGroupControl (commandId : Nat) (action : TerminalControlAction)
    (requested : List AttachmentOperation) :
    Beside s (s.startTerminalGroupControl air issi commandId action requested) := by
  unfold startTerminalGroupControl
  dsimp only
  split
  · exact .submit s rfl
  · refine (Beside.exchanges s _).trans ((Beside.sendWithReceipt _ issi 0 ?_).trans (.exchanges _ _))
    rfl

theorem beside_handleTerminalControl (commandId itsi : Nat) (action : TerminalControlAction)
    (operations : List AttachmentOperation) :
    Beside s (s.handleTerminalControl air commandId itsi action operations) := by
  unfold handleTerminalControl
  dsimp only
  split
  · exact .refl s
  · have finished : Beside s
        (if action = .disconnect then s.finishTerminalControl itsi false 6 else s) := by
      split
      · exact beside_finishTerminalControl s itsi false 6
      · exact .refl s
    refine finished.trans ?_
    generalize (if action = .disconnect then s.finishTerminalControl itsi false 6 else s) = t
    split
    · exact .submit _ rfl
    · split
      · exact .submit _ rfl
      · split
        · exact beside_startTerminalGroupControl _ _ _ _ _ _
        · exact (Beside.exchanges _ _).trans (.send _ _ _ rfl)

theorem beside_updateTerminalControlStatuses : Beside s (s.updateTerminalControlStatuses order) :=
  (Beside.exchanges s _).trans (Beside.foldl (fun s _ => beside_finishTerminalControl s _ _ _) _ _)

/-- **An acknowledged amendment** changes the memberships. -/
theorem beside_completeTerminalGroupControl (pdu : Affiliations.Acknowledgement)
    {pending : PendingTerminalControl}
    (found : s.exchanges.pendingTerminalControls.lookup issi = some pending) :
    Beside { s with members := (s.members.amendTalkgroups issi pdu pending.operations).1 }
      (s.completeTerminalGroupControl issi pdu) := by
  unfold completeTerminalGroupControl
  rw [found]
  exact (show Beside { s with members := (s.members.amendTalkgroups issi pdu pending.operations).1 }
    { s.removePendingTerminalControl issi with
      members := (s.members.amendTalkgroups issi pdu pending.operations).1 } from
    ⟨rfl, rfl, rfl, rfl, rfl, rfl, rfl, rfl⟩).trans (.submit _ rfl)

/-- **An acknowledgement** changes the memberships by what it acknowledges. -/
def acknowledged (pdu : Affiliations.Acknowledgement) : Affiliations :=
  if s.controlIs issi (·.isGroupControl) then
    (s.exchanges.pendingTerminalControls.lookup issi).elim s.members fun pending =>
      (s.members.amendTalkgroups issi pdu pending.operations).1
  else
    (s.exchanges.pendingGroupSecurityAssociations.lookup issi).elim s.members fun pending =>
      s.members.updateClasses issi pending.groups pdu

theorem beside_acknowledgement (pdu : Affiliations.Acknowledgement) :
    Beside { s with members := s.acknowledged issi pdu }
      (s.rxUAttachDetachGroupIdentityAcknowledgement air issi order pdu) := by
  unfold acknowledged rxUAttachDetachGroupIdentityAcknowledgement
  split
  · cases found : s.exchanges.pendingTerminalControls.lookup issi with
    | none =>
      rw [completeTerminalGroupControl, found]
      exact .refl s
    | some pending => exact beside_completeTerminalGroupControl s issi pdu found
  · cases found : s.exchanges.pendingGroupSecurityAssociations.lookup issi with
    | none =>
      rw [completeGroupSecurityAssociationAck, found]
      exact .refl s
    | some pending => exact beside_completeGroupSecurityAssociationAck s air issi order pdu found

theorem beside_refresh (results : List GckProvisionResult) :
    Beside s (s.refreshGroupSecurityAfterGckResult air issi handle results) := by
  unfold refreshGroupSecurityAfterGckResult
  split
  · exact .refl s
  · dsimp only
    split
    · exact .refl s
    · exact beside_amendments _ _ _ _ _

theorem beside_finishRegistrationControl (delivered : Bool) :
    Beside s (s.finishRegistrationControl issi delivered) := by
  unfold finishRegistrationControl
  split
  · exact beside_finishTerminalControl _ _ _ _
  · exact .refl s

theorem beside_endReauthentication : Beside s (s.endReauthentication issi) := by
  unfold endReauthentication
  split
  · exact beside_finishTerminalControl _ _ _ _
  · exact .refl s

theorem beside_answerAttachment (hasRejection : Bool) (groups : List GroupIdentityDownlink)
    (securityGroups : List Nat) :
    Beside s (s.answerAttachment air issi handle hasRejection groups securityGroups) := by
  have answered (associated : List Nat) :
      Beside s (s.sendDAttachmentAcknowledgement air issi handle hasRejection groups associated) :=
    (Beside.send s issi handle rfl).trans (.exchanges _ _)
  unfold answerAttachment
  split
  · exact answered _
  · exact (answered _).trans (beside_amendments _ _ _ _ _)

theorem beside_command (commanded : Bool) (handle : Nat) (groupIdentityReport : Bool) :
    Beside s (if commanded then s.sendDLocationUpdateCommand issi handle groupIdentityReport
      else s) := by
  split
  · exact .send s issi handle rfl
  · exact .refl s

/-- **A decision on an attachment** changes the memberships. -/
theorem beside_completeAttachment (pending : PendingAttachment) (hasRejection : Bool)
    (results : List AttachmentResult) :
    Beside { s with
        members := (s.members.applySwmiAttachmentState hasRejection pending results).1 }
      (s.completeAttachment air pending hasRejection results) :=
  (beside_answerAttachment _ air _ _ _ _ _).trans (beside_command _ _ _ _ _)

end MmBs

end Bluestation
