/-
**Affiliation is the same everywhere, in every run.**

Every path of mobility management that changes who is in which group changes three copies. They stay
in agreement, except where a list of operations makes a terminal leave a group and join it again, and
where a terminal acknowledges a key association of a group that it is not in any more.

* `MmBs.Affiliated.Careful` — the steps in which neither happens.
* `MmBs.agrees_step` — **a careful step keeps the copies in agreement.**
* `MmBs.affiliated_runs` — so does every careful run, and no acknowledgement of an earlier exchange
  attaches a group again that the terminal has left since.
-/

import Bluestation.Mm.Beside
import Bluestation.Mm.Amendments
import Bluestation.Lib.History

namespace Bluestation

open Machines Amending Option SubscriberRegistry

namespace Affiliations

variable {m : Affiliations} {issi : Nat}

/-! ### Lists of operations -/

/-- No group comes back in a list of operations, after the groups were left that it replaces. -/
def settles (m : Affiliations) (issi : Nat) (replaces : Bool)
    (operations : List AttachmentOperation) : Bool :=
  !returns false (fun gssi => !replaces && (m.classOf issi gssi).isSome) operations

def decidedOperations (results : List AttachmentResult) (operations : List GroupIdentityUplink) :
    List AttachmentOperation :=
  (results.zip operations).filterMap acceptedOperation

theorem classOf_replaceAll (agrees : m.Agrees) (issi : Nat) (replaces : Bool) (gssi : Nat) :
    (m.replaceAll issi replaces).classOf issi gssi =
      if replaces then none else m.classOf issi gssi := by
  unfold replaceAll
  cases replaces with
  | false => rfl
  | true =>
    rw [if_pos rfl]
    cases done : m.detachAllGroups issi with
    | none =>
      refine classOf_eq_none ?_ gssi
      unfold detachAllGroups MmClientMgr.clientDetachAllGroups at done
      rw [map_eq_none_iff, map_eq_none_iff] at done
      rw [getD_none, MmClientMgr.clientIsKnown, done]
      rfl
    | some next => exact (agrees_detachAllGroups agrees done).2.2 gssi

theorem stays_of_settles (agrees : m.Agrees) {replaces : Bool}
    {operations : List AttachmentOperation}
    (settled : m.settles issi replaces operations = true) :
    returns false (fun gssi => ((m.replaceAll issi replaces).classOf issi gssi).isSome) operations =
      false := by
  have present : (fun gssi => ((m.replaceAll issi replaces).classOf issi gssi).isSome) =
      fun gssi => !replaces && (m.classOf issi gssi).isSome := by
    funext gssi
    rw [classOf_replaceAll agrees]
    cases replaces <;> rfl
  rw [present]
  simpa [settles] using settled

/-- **A decision of the network that settles.** -/
theorem agrees_applySwmiAttachmentState (agrees : m.Agrees) (hasRejection : Bool)
    (pending : PendingAttachment) (results : List AttachmentResult)
    (settled : m.settles pending.itsi pending.replaceAll
      (decidedOperations results pending.operations) = true) :
    (m.applySwmiAttachmentState hasRejection pending results).1.Agrees :=
  agrees_deciding (agrees_replaceAll agrees _ _) hasRejection (results.zip pending.operations)
    (stays_of_settles agrees settled)

/-- **A request that settles.** -/
theorem agrees_requested (agrees : m.Agrees) (replaces : Bool) (giuVec : List GroupIdentityUplink)
    (settled : m.settles issi replaces (giuVec.filterMap (·.operation)) = true) :
    ((m.replaceAll issi replaces).tryAttachDetachGroups issi giuVec).1.Agrees :=
  agrees_tryAttachDetachGroups (agrees_replaceAll agrees _ _) giuVec (stays_of_settles agrees settled)

variable {next : Affiliations}

theorem classOf_tryRegister (unknown : m.clientMgr.clientIsKnown issi = false)
    (done : m.tryRegister issi = some next) : next.classOf = m.classOf := by
  cases done
  funext other gssi
  refine (classOf_insert m issi other gssi ⟨.attached, ∅, true⟩ _ _).trans ?_
  split
  next same =>
    rw [same, classOf_eq_none unknown]
    rfl
  · rfl

theorem classOf_registerOrAttach (done : m.registerOrAttach issi = some next) :
    next.classOf = m.classOf := by
  unfold registerOrAttach at done
  split at done
  · unfold setClientState MmClientMgr.setClientState at done
    rw [map_map, map_eq_some_iff] at done
    obtain ⟨client, found, rfl⟩ := done
    funext other gssi
    refine (classOf_insert m issi other gssi { client with state := .attached } _ _).trans ?_
    split
    next same =>
      rw [same, classOf_eq m issi gssi found]
    · rfl
  next unknown =>
    exact classOf_tryRegister (by simpa using unknown) done

theorem settles_congr (same : next.classOf = m.classOf) (issi : Nat) (replaces : Bool)
    (operations : List AttachmentOperation) :
    next.settles issi replaces operations = m.settles issi replaces operations := by
  unfold settles
  rw [same]

/-! ### Changes of the registry that concern no group -/

theorem agrees_pending (agrees : m.Agrees) (issi : Nat) (pending : Bool) :
    ({ m with subscribers := m.subscribers.setRegistrationDeliveryPending issi pending }
      : Affiliations).Agrees := by
  cases pending
  · exact agrees.registry_congr (fun _ => rfl) (fun _ => rfl) rfl
  · exact agrees.registry_congr (fun _ => rfl) (fun _ => rfl) rfl

theorem agrees_generation (agrees : m.Agrees) (known : m.clientMgr.clientIsKnown issi = true)
    (generation : Nat) :
    ({ m with subscribers := m.subscribers.setRegistrationGeneration issi generation }
      : Affiliations).Agrees := by
  refine agrees.registry_congr (fun other => ?_) (fun other => ?_) rfl
  · have registered := agrees.here.known issi
    rw [known] at registered
    refine (isRegistered_setSubscriber _ _ issi other).trans ?_
    by_cases same : other = issi <;> simp [same, registered]
  · refine (attachedGroups_setSubscriber _ _ issi other).trans ?_
    split
    next same =>
      rw [same]
      rfl
    · rfl

theorem agrees_rua (agrees : m.Agrees) (issi : Nat) (ruaAssigned : Option Bool) :
    ({ m with subscribers := m.subscribers.setRuaAssignmentState issi ruaAssigned }
      : Affiliations).Agrees :=
  agrees.registry_congr (isRegistered_modify _ _ _) (attachedGroups_modify _ _ fun _ => rfl) rfl

end Affiliations

namespace MmBs

open Affiliations

variable {s : MmBs} (air : MmSurroundings) (issi : Nat)

theorem Beside.agrees {before after : MmBs} (beside : Beside before after)
    (agrees : before.members.Agrees) : after.members.Agrees := by
  rw [beside.members]
  exact agrees

theorem agrees_foldl {Item : Type} {act : MmBs → Item → MmBs}
    (preserved : ∀ t item, t.members.Agrees → (act t item).members.Agrees) (items : List Item)
    (agrees : s.members.Agrees) : (items.foldl act s).members.Agrees :=
  @foldl_preserves MmBs Item act (fun t => t.members.Agrees) preserved items s agrees

theorem agrees_everyTurn {Item : Type} {act : MmBs → Item → MmBs} {allows : MmBs → Item → Bool}
    (preserved : ∀ t item, t.members.Agrees → allows t item = true → (act t item).members.Agrees)
    {items : List Item} (agrees : s.members.Agrees)
    (allowed : everyTurn allows act s items = true) : (items.foldl act s).members.Agrees :=
  @everyTurn_foldl MmBs Item allows act (fun t => t.members.Agrees) preserved items s agrees allowed

/-! ### Acceptances -/

section

variable (agrees : s.members.Agrees)

include agrees

theorem agrees_accept (commandId : Nat) (pending : PendingRegistration)
    (gila : Option GroupIdentityLocationAccept) (groups : List Nat) (ruaRequested : Bool) :
    (s.acceptRegistration air commandId pending gila groups ruaRequested).members.Agrees := by
  unfold acceptRegistration deferSecurityActivation
  split
  · exact agrees_pending agrees pending.itsi true
  · exact agrees_pending agrees pending.itsi true

theorem agrees_removeLocalSubscriber : (s.removeLocalSubscriber issi).members.Agrees :=
  agrees_removeSubscriber agrees issi

/-! ### Requests of terminals -/

/-- Whether the cell decides by itself on what it would ask the network about. -/
def decidesLocally (s : MmBs) : Bool := !(air.online && air.taken s.requests.nextSwmiCommandId)

def demandSettles (m : Affiliations) (demand : Option GroupIdentityLocationDemand) : Bool :=
  demand.all fun demand => demand.groupIdentityUplink.all fun giuVec =>
    m.settles issi demand.groupIdentityAttachDetachMode (giuVec.filterMap (·.operation))

theorem agrees_locallyAttach (demand : Option GroupIdentityLocationDemand)
    (settled : demandSettles issi s.members demand = true) :
    (s.locallyAttach issi demand).1.members.Agrees := by
  cases demand with
  | none => exact agrees
  | some demand =>
    unfold locallyAttach
    dsimp only
    cases groups : demand.groupIdentityUplink with
    | none => exact agrees_replaceAll agrees _ _
    | some giuVec =>
      refine agrees_requested agrees _ giuVec ?_
      simpa [demandSettles, groups] using settled

theorem agrees_locallyRegister (handle : Nat) (pdu : ULocationUpdateDemand) (interrupted : List Nat)
    (settled : demandSettles issi s.members pdu.groupIdentityLocationDemand = true) :
    (s.locallyRegister air issi handle pdu interrupted).members.Agrees := by
  unfold locallyRegister
  cases done : s.members.registerOrAttach issi with
  | none => exact agrees
  | some members =>
    let t : MmBs := (({ s with members } : MmBs).noteAccepted issi none).registry
      (·.setRegistrationDeliveryPending issi true)
    have registered : t.members.Agrees :=
      agrees_pending (agrees_registerOrAttach agrees done).1 issi true
    have still : demandSettles issi t.members pdu.groupIdentityLocationDemand = true := by
      have same : t.members.classOf = s.members.classOf :=
        show members.classOf = _ from classOf_registerOrAttach done
      rw [← settled]
      unfold demandSettles
      simp only [settles_congr same]
    have attached := agrees_locallyAttach issi registered _ still
    dsimp only
    split
    · exact agrees_pending attached issi true
    · exact agrees_pending attached issi true

def registersLocally (s : MmBs) (refusal : Option (Nat × Nat)) (pdu : ULocationUpdateDemand) : Bool :=
  !pdu.isMigration && pdu.featureCheck && (air.online || refusal.isNone) && s.decidesLocally air

/-- **A location update** whose groups settle, if the cell decides on them. -/
theorem agrees_demand (handle : Nat) (target : Option String) (refusal : Option (Nat × Nat))
    (pdu : ULocationUpdateDemand) (settled : s.registersLocally air refusal pdu = true →
      demandSettles issi s.members pdu.groupIdentityLocationDemand = true) :
    (s.rxULocationUpdateDemand air issi handle target refusal pdu).members.Agrees := by
  unfold rxULocationUpdateDemand
  split
  · exact agrees
  next stays =>
    split
    · exact agrees
    next checked =>
      split
      · exact agrees
      next unrefused =>
        have admitted : (air.online || refusal.isNone) = true := by
          cases online : air.online with
          | true => rfl
          | false =>
            rw [online] at unrefused
            rw [show refusal = none from unrefused]
            rfl
        have decided (decides : s.decidesLocally air = true) :
            demandSettles issi s.members pdu.groupIdentityLocationDemand = true := by
          refine settled ?_
          rw [registersLocally, admitted, decides]
          simpa [stays] using checked
        dsimp only
        split
        · split
          · exact agrees_pending agrees issi true
          next refused =>
            refine agrees_locallyRegister air issi
              (s := ((s.returned issi).cancelGroupSecurityAssociationForRegistration
                issi).1.nextSwmiCommandId.1)
              agrees handle pdu _ (decided ?_)
            have notTaken : air.taken s.requests.nextSwmiCommandId = false :=
              Bool.eq_false_of_not_eq_true refused
            rw [decidesLocally, notTaken, Bool.and_false]
            rfl
        next offline =>
          refine agrees_locallyRegister air issi
            (s := ((s.returned issi).cancelGroupSecurityAssociationForRegistration issi).1) agrees
            handle pdu _ (decided ?_)
          rw [decidesLocally, show air.online = false by simpa using offline]
          rfl

/-- Whether the cell decides on a request about groups by itself. -/
def attachesLocally (s : MmBs) (giuVec : List GroupIdentityUplink) : Bool :=
  !giuVec.all (·.gssi.isSome) || s.decidesLocally air

theorem agrees_locallyReplaced (replaceAll : Bool) {members : Affiliations}
    (done : s.locallyReplaced issi replaceAll = some members) :
    members.Agrees ∧ ∀ gssi,
      members.classOf issi gssi = if replaceAll then none else s.members.classOf issi gssi := by
  unfold locallyReplaced at done
  cases replaceAll with
  | false =>
    cases done
    exact ⟨agrees, fun _ => rfl⟩
  | true =>
    cases known : s.members.clientMgr.clientIsKnown issi with
    | false =>
      rw [known] at done
      refine ⟨(agrees_tryRegister agrees known done).1, fun gssi => ?_⟩
      rw [classOf_tryRegister known done, classOf_eq_none known]
      rfl
    | true =>
      rw [known] at done
      have left := agrees_detachAllGroups agrees (show _ = some members from done)
      exact ⟨left.1, left.2.2⟩

theorem agrees_locallyAttachGroups (handle : Nat) (replaceAll : Bool)
    (giuVec : List GroupIdentityUplink)
    (settled : s.members.settles issi replaceAll (giuVec.filterMap (·.operation)) = true) :
    (s.locallyAttachGroups issi handle replaceAll giuVec).members.Agrees := by
  unfold locallyAttachGroups
  cases done : s.locallyReplaced issi replaceAll with
  | none => exact agrees
  | some members =>
    obtain ⟨replaced, present⟩ := agrees_locallyReplaced issi agrees replaceAll done
    refine agrees_tryAttachDetachGroups replaced giuVec ?_
    have stays := stays_of_settles agrees settled
    simp only [classOf_replaceAll agrees] at stays
    simpa only [present] using stays

/-- **A request about groups** that settles, if the cell decides on it. -/
theorem agrees_attachDetach (handle : Nat) (replaceAll : Bool) (giuVec : List GroupIdentityUplink)
    (settled : s.attachesLocally air giuVec = true →
      s.members.settles issi replaceAll (giuVec.filterMap (·.operation)) = true) :
    (s.rxUAttachDetachGroupIdentity air issi handle replaceAll giuVec).members.Agrees := by
  unfold rxUAttachDetachGroupIdentity
  dsimp only
  split
  · split
    · exact agrees
    next refused =>
      refine agrees_locallyAttachGroups issi (s := s.nextSwmiCommandId.1) agrees handle replaceAll
        giuVec (settled ?_)
      have notTaken : air.taken s.requests.nextSwmiCommandId = false :=
        Bool.eq_false_of_not_eq_true refused
      rw [attachesLocally, decidesLocally, notTaken, Bool.and_false]
      exact Bool.or_true _
  next alone =>
    refine agrees_locallyAttachGroups issi agrees handle replaceAll giuVec (settled ?_)
    unfold attachesLocally decidesLocally
    cases plain : giuVec.all (·.gssi.isSome) with
    | false => rfl
    | true =>
      rw [plain] at alone
      have offline : air.online = false := by simpa using alone
      rw [offline]
      rfl

/-! ### Decisions of the network -/

def resultsSettle (s : MmBs) (pending : PendingAttachment) (results : List AttachmentResult) : Bool :=
  s.members.settles pending.itsi pending.replaceAll (decidedOperations results pending.operations)

theorem agrees_completeAttachment (pending : PendingAttachment) (hasRejection : Bool)
    (results : List AttachmentResult) (settled : s.resultsSettle pending results = true) :
    (s.completeAttachment air pending hasRejection results).members.Agrees :=
  (beside_completeAttachment s air pending hasRejection results).agrees
    (agrees_applySwmiAttachmentState agrees hasRejection pending results settled)

/-- The groups of a decision on an attachment settle, if it belongs to one. -/
def attachmentSettles (s : MmBs) (decision : AttachmentDecision) : Bool :=
  (s.requests.pendingAttachments.lookup decision.commandId).all fun pending =>
    !decision.correlates pending.itsi pending.airHandle pending.operations.length ||
      s.resultsSettle pending decision.results

theorem agrees_attachmentDecision (decision : AttachmentDecision)
    (settled : s.attachmentSettles decision = true) :
    (s.applySwmiAttachmentDecision air decision).members.Agrees := by
  unfold applySwmiAttachmentDecision
  unfold attachmentSettles at settled
  cases found : s.requests.pendingAttachments.lookup decision.commandId with
  | none => exact agrees
  | some pending =>
    rw [found, all_some] at settled
    dsimp only
    split
    next belongs =>
      rw [belongs] at settled
      exact agrees_completeAttachment air (s := s.removeAttachment decision.commandId) agrees pending _
        _ settled
    · exact agrees

theorem agrees_completeLocationAttachment (commandId : Nat) (registration : PendingRegistration)
    (attachment : PendingAttachment) (ruaRequested : Bool) (hasRejection : Bool)
    (results : List AttachmentResult) (settled : s.resultsSettle attachment results = true) :
    (s.completeLocationAttachment air commandId registration attachment ruaRequested hasRejection
      results).members.Agrees :=
  agrees_accept air (s := { s with members := _ })
    (agrees_applySwmiAttachmentState agrees hasRejection attachment results settled) _ _ _ _ _

/-- The groups of a decision on a registration with groups settle, if it belongs to one. -/
def locationAttachmentSettles (s : MmBs) (decision : AttachmentDecision) : Bool :=
  (s.requests.pendingLocationAttachments.lookup decision.commandId).all fun pending =>
    !decision.correlates pending.registration.itsi pending.registration.airHandle
        pending.attachment.operations.length ||
      s.resultsSettle pending.attachment decision.results

theorem agrees_locationAttachmentDecision (decision : AttachmentDecision)
    (settled : s.locationAttachmentSettles decision = true) :
    (s.applySwmiLocationAttachmentDecision air decision).members.Agrees := by
  unfold applySwmiLocationAttachmentDecision
  unfold locationAttachmentSettles at settled
  cases found : s.requests.pendingLocationAttachments.lookup decision.commandId with
  | none => exact agrees
  | some pending =>
    rw [found, all_some] at settled
    dsimp only
    split
    next belongs =>
      rw [belongs] at settled
      exact agrees_completeLocationAttachment air
        (s := s.removeLocationAttachment decision.commandId) agrees _ _ _ _ _ _ settled
    · exact agrees

def decisionSettles (s : MmBs) (decision : AttachmentDecision) : Bool :=
  if (s.requests.pendingLocationAttachments.lookup decision.commandId).isSome then
    s.locationAttachmentSettles decision
  else s.attachmentSettles decision

theorem agrees_decision (decision : AttachmentDecision) (settled : s.decisionSettles decision = true) :
    (s.applyAttachmentDecision air decision).members.Agrees := by
  unfold applyAttachmentDecision
  unfold decisionSettles at settled
  split at settled
  next located =>
    rw [if_pos located]
    exact agrees_locationAttachmentDecision air agrees decision settled
  next alone =>
    rw [if_neg alone]
    exact agrees_attachmentDecision air agrees decision settled

/-- The groups of an accepted registration, if the cell decides on them. -/
def acceptanceSettles (s : MmBs) (decision : RegistrationDecision) : Bool :=
  (s.requests.pendingRegistrations.lookup decision.commandId).all fun pending =>
    !(pending.itsi = decision.itsi && pending.airHandle = decision.airHandle && decision.accepted &&
        pending.forwardRegistrationTargetStationId.isNone && s.decidesLocally air) ||
      pending.locationAttachment.all fun attachment =>
        s.resultsSettle attachment (localAttachmentResults attachment)

theorem agrees_installGeneration (known : s.members.clientMgr.clientIsKnown issi = true)
    (generation : Nat) : (s.installGeneration issi generation).members.Agrees :=
  agrees_pending (agrees_generation agrees known generation) issi true

end

theorem resultsSettle_congr {t : MmBs} (same : t.members.classOf = s.members.classOf)
    (pending : PendingAttachment) (results : List AttachmentResult) :
    t.resultsSettle pending results = s.resultsSettle pending results :=
  settles_congr same _ _ _

section

variable (agrees : s.members.Agrees)

include agrees

theorem agrees_attachAccepted (commandId : Nat) (pending : PendingRegistration)
    (attachment : PendingAttachment) (ruaRequested : Bool) (settled : s.decidesLocally air = true →
      s.resultsSettle attachment (localAttachmentResults attachment) = true) :
    (s.attachAccepted air commandId pending attachment ruaRequested).members.Agrees := by
  unfold attachAccepted
  dsimp only
  split
  · split
    · exact agrees
    next refused =>
      refine agrees_completeLocationAttachment air (s := s.nextSwmiCommandId.1) agrees _ _ _ _ _ _
        (settled ?_)
      have notTaken : air.taken s.requests.nextSwmiCommandId = false :=
        Bool.eq_false_of_not_eq_true refused
      rw [decidesLocally, notTaken, Bool.and_false]
      rfl
  next offline =>
    refine agrees_completeLocationAttachment air agrees _ _ _ _ _ _ (settled ?_)
    rw [decidesLocally, show air.online = false by simpa using offline]
    rfl

theorem agrees_rejectRegistration (pending : PendingRegistration) (cause : Nat) :
    (s.rejectRegistration pending cause).members.Agrees := by
  have rejected := agrees_pending agrees pending.itsi false
  unfold rejectRegistration
  dsimp only
  split
  · exact (beside_finishTerminalControl _ _ _ _).agrees
      (agrees_removeLocalSubscriber pending.itsi (s := (_ : MmBs)) rejected)
  · exact (beside_finishTerminalControl _ _ _ _).agrees rejected

/-- **A decision on a registration** whose groups settle, if the cell decides on them. -/
theorem agrees_registrationDecision (decision : RegistrationDecision)
    (settled : s.acceptanceSettles air decision = true) :
    (s.applySwmiRegistrationDecision air decision).members.Agrees := by
  unfold applySwmiRegistrationDecision
  unfold acceptanceSettles at settled
  cases found : s.requests.pendingRegistrations.lookup decision.commandId with
  | none => exact agrees
  | some pending =>
    rw [found] at settled
    dsimp only
    split
    · exact agrees
    next belongs =>
      rw [not_or] at belongs
      let t := ((s.dropDeadline decision.commandId).removeRegistration
        decision.commandId).forgetAuthentication decision.commandId
      have still : t.members.Agrees := agrees
      split
      · exact agrees_rejectRegistration still _ _
      next accepted =>
        split
        · exact agrees_pending agrees pending.itsi false
        next here =>
          unfold registerAccepted
          cases done : t.members.registerOrAttach pending.itsi with
          | none => exact agrees
          | some members =>
            obtain ⟨registered, known⟩ := agrees_registerOrAttach still done
            have installed := agrees_installGeneration pending.itsi
              (s := { t with members }) registered known decision.commandId
            cases groups : pending.locationAttachment with
            | none => exact agrees_accept air installed _ _ _ _ _
            | some attachment =>
              refine agrees_attachAccepted air installed _ _ _ _ fun decides => ?_
              have same : members.classOf = s.members.classOf := classOf_registerOrAttach done
              refine (resultsSettle_congr (s := s) same _ _).trans ?_
              have local' : s.decidesLocally air = true := decides
              simpa [belongs.1, belongs.2, local', groups, show decision.accepted = true by
                simpa using accepted, show pending.forwardRegistrationTargetStationId = none by
                simpa using here] using settled

/-! ### The network restores, and is lost -/

theorem agrees_activate (securityClass : TerminalSecurityClass) :
    (s.activateTerminalSecurityClass air issi securityClass).members.Agrees := by
  unfold activateTerminalSecurityClass
  split <;> exact agrees

/-- **The state of a subscriber as the network knows it.** -/
theorem agrees_stateSync (itsi : Nat) (groups : List AttachmentOperation) (scanningEnabled : Bool)
    (securityClass : TerminalSecurityClass) :
    (s.applySwmiSubscriberStateSync air itsi groups scanningEnabled securityClass).members.Agrees := by
  unfold applySwmiSubscriberStateSync
  split
  · exact agrees
  · have entered (members : Affiliations) (done : (if s.members.clientMgr.clientIsKnown itsi then
        some s.members else s.members.tryRegister itsi) = some members) : members.Agrees := by
      split at done
      · cases done
        exact agrees
      next unknown =>
        exact (agrees_tryRegister agrees (by simpa using unknown) done).1
    split
    · exact agrees
    next members done =>
      exact agrees_reconcile (agrees_activate air itsi (s := ({ s with members } : MmBs).returned itsi)
        (entered members done) securityClass) itsi groups scanningEnabled

theorem agrees_acceptRecovered (subscriber : LstSubscriber) :
    (s.acceptRecovered air subscriber).members.Agrees := by
  have synced := agrees_stateSync air agrees subscriber.itsi subscriber.groups
    subscriber.scanningEnabled subscriber.securityClass
  unfold acceptRecovered
  dsimp only
  split
  · split
    · exact agrees_rua (agrees_rua synced _ _) _ _
    · exact agrees_rua synced _ _
  · split
    · exact agrees_rua synced _ _
    · exact synced

theorem agrees_lstRecoveryResult (commandId : Nat) (accepted : List LstSubscriber)
    (rejected : List Nat) : (s.lstRecoveryResult air commandId accepted rejected).members.Agrees := by
  unfold lstRecoveryResult
  split
  · refine agrees_foldl (fun t itsi still => ?_) _ (agrees_foldl (fun t subscriber still =>
        agrees_acceptRecovered air still subscriber) _ agrees)
    split
    · exact still
    · exact agrees_removeLocalSubscriber itsi still
  · exact agrees

theorem agrees_cleanup (expectedGeneration : Nat) :
    (s.applyOldServingCleanup issi expectedGeneration).members.Agrees := by
  unfold applyOldServingCleanup
  split
  · exact agrees_removeLocalSubscriber issi agrees
  · split
    · exact agrees_removeLocalSubscriber issi agrees
    · exact agrees

/-- Everything that is pending settles in its turn. -/
def recoverySettles (s : MmBs) (order : RecoveryOrder) : Bool :=
  everyTurn (fun s entry => s.acceptanceSettles air (recoveredRegistration entry))
      (fun s entry => s.recoverRegistration air entry) s (s.recoverableRegistrations order) &&
    everyTurn attachmentSettles (fun s decision => s.applySwmiAttachmentDecision air decision)
      (s.recoverRegistrations air order)
      ((s.recoverRegistrations air order).recoverableAttachments order) &&
    everyTurn locationAttachmentSettles
      (fun s decision => s.applySwmiLocationAttachmentDecision air decision)
      ((s.recoverRegistrations air order).recoverAttachments air order)
      (((s.recoverRegistrations air order).recoverAttachments air
        order).recoverableLocationAttachments order)

/-- **The network is lost**, and what is pending settles. -/
theorem agrees_recoverPending (order : RecoveryOrder) (settled : s.recoverySettles air order = true) :
    (s.recoverPending air order).members.Agrees := by
  obtain ⟨both, locationAttachments⟩ := Bool.and_eq_true_iff.mp settled
  obtain ⟨registrations, attachments⟩ := Bool.and_eq_true_iff.mp both
  refine agrees_everyTurn (fun t decision still =>
    agrees_locationAttachmentDecision air still decision) ?_ locationAttachments
  refine agrees_everyTurn (fun t decision still =>
    agrees_attachmentDecision air still decision) ?_ attachments
  exact agrees_everyTurn (fun t entry still =>
    agrees_registrationDecision air still (recoveredRegistration entry)) agrees registrations

/-! ### A tick -/

theorem agrees_updateRegistrationDelivery (outcome : Nat × Bool) :
    (s.updateRegistrationDelivery outcome).members.Agrees := by
  unfold updateRegistrationDelivery
  dsimp only
  split
  · exact agrees
  · refine (beside_finishRegistrationControl _ _ _).agrees ?_
    unfold settleDelivery
    split
    · exact agrees.registry_congr (fun _ => rfl) (fun _ => rfl) rfl
    · exact agrees.registry_congr (fun _ => rfl) (fun _ => rfl) rfl

theorem agrees_updateSecurityActivation (outcome : Nat × TerminalSecurityClass × Bool) :
    (s.updateSecurityActivation air outcome).members.Agrees := by
  unfold updateSecurityActivation
  dsimp only
  split
  · exact agrees_activate air _ (s := s.removeSecurityActivation outcome.1) agrees _
  · exact agrees

theorem agrees_expireRegistration (commandId : Nat) :
    (s.expireRegistration commandId).members.Agrees := by
  unfold expireRegistration
  dsimp only
  split
  · exact agrees
  · exact agrees_pending agrees _ false

/-- **A tick** changes no group. -/
theorem agrees_tickStart (order : TickOrder) : (s.tickStart air order).members.Agrees := by
  refine agrees_foldl (fun t commandId still => agrees_expireRegistration still commandId) _ ?_
  refine agrees_foldl (fun t outcome still => agrees_updateSecurityActivation air still outcome) _ ?_
  refine (beside_updateTerminalControlStatuses _ _).agrees ?_
  refine (beside_updateGroupSecurityAssociationStatuses _ _ _ _).agrees ?_
  exact agrees_foldl
    (fun t outcome still => agrees_updateRegistrationDelivery still outcome) _ agrees

end

/-! ### Every run -/

theorem agrees_new : Affiliations.new.Agrees where
  here :=
    { known := fun _ => rfl
      registry := fun _ gssi => iff_of_false (Finset.notMem_empty gssi) Bool.false_ne_true
      whole := fun gssi => iff_of_false (Finset.notMem_empty gssi) fun ⟨_, inside⟩ =>
        Finset.notMem_empty gssi inside }
  there := CmceSubscribers.follows_new

/-- History: which groups a terminal has left by itself since the control of its groups began that
it has not answered. -/
abbrev Withdrawn := Nat → Nat → Bool

def controlExchange (s : MmBs) : Option Nat :=
  (s.exchanges.pendingTerminalControls.lookup issi).bind (·.exchange)

end MmBs

/-- What a terminal asks for by itself, and what is decided on it. -/
def MmEvent.isRequest : MmEvent → Bool
  | locationUpdateDemand .. | attachDetachGroupIdentity .. | itsiDetach .. | registrationDecision ..
  | attachmentDecision .. | linkLoss .. => true
  | _ => false

namespace MmBs

open Affiliations

variable {s : MmBs} (air : MmSurroundings) (issi : Nat)

def noteWithdrawn (s : MmBs) (event : MmEvent) (next : MmBs) (withdrawn : Withdrawn) : Withdrawn :=
  fun issi gssi =>
    if s.controlExchange issi ≠ next.controlExchange issi then false
    else if (next.members.classOf issi gssi).isSome then false
    else withdrawn issi gssi || event.isRequest && (s.members.classOf issi gssi).isSome

/-- Mobility management, and the groups that terminals have left. -/
def affiliationMachine : Machine (MmBs × Withdrawn) MmEvent :=
  machine.withHistory (fun _ _ => false) noteWithdrawn

/-- **An acknowledgement settles.** One of an amendment brings no group back, and attaches none that
the terminal has left since; one of a key association names classes of groups that it is in. -/
def acknowledgementSettles (s : MmBs) (pdu : Acknowledgement) (withdrawn : Withdrawn) : Bool :=
  if s.controlIs issi (·.isGroupControl) then
    (s.exchanges.pendingTerminalControls.lookup issi).all fun pending =>
      let operations := pending.operations.filterMap (amendedOperation pdu)
      !returns true (fun gssi => (s.members.classOf issi gssi).isSome) operations &&
        operations.all fun operation => operation.detach || !withdrawn issi operation.gssi
  else
    (s.exchanges.pendingGroupSecurityAssociations.lookup issi).all fun pending =>
      s.members.confirms issi pending.groups pdu

/-- **Whatever a step decides settles.** -/
def settlesStep (state : MmBs × Withdrawn) : MmEvent → Bool
  | .locationUpdateDemand air issi _ _ refusal pdu =>
    !state.1.registersLocally air refusal pdu ||
      demandSettles issi state.1.members pdu.groupIdentityLocationDemand
  | .attachDetachGroupIdentity air issi _ replaceAll giuVec =>
    !state.1.attachesLocally air giuVec ||
      state.1.members.settles issi replaceAll (giuVec.filterMap (·.operation))
  | .attachDetachAcknowledgement _ issi _ pdu _ => state.1.acknowledgementSettles issi pdu state.2
  | .registrationDecision air decision => state.1.acceptanceSettles air decision
  | .attachmentDecision _ decision => state.1.decisionSettles decision
  | .linkLoss air order => air.online || state.1.recoverySettles air order
  | _ => true

def Settles (state : MmBs × Withdrawn) (event : MmEvent) : Prop :=
  settlesStep state event = true

/-- **No late acknowledgement attaches a group again**: one of an amendment attaches no group that
the terminal has left since the amendment began, and one of a key association attaches none at all. -/
def NotReattached (state : MmBs × Withdrawn) (event : MmEvent) (next : MmBs × Withdrawn) : Prop :=
  ∀ air issi order pdu answers, event = .attachDetachAcknowledgement air issi order pdu answers →
    ∀ gssi, state.1.members.classOf issi gssi = none →
      (state.1.controlIs issi (·.isGroupControl) = true → state.2 issi gssi = true) →
        next.1.members.classOf issi gssi = none

variable {withdrawn : Withdrawn}

theorem agrees_acknowledged (agrees : s.members.Agrees) (pdu : Acknowledgement)
    (settled : s.acknowledgementSettles issi pdu withdrawn = true) :
    (s.acknowledged issi pdu).Agrees := by
  unfold acknowledgementSettles at settled
  unfold acknowledged
  split at settled
  next control =>
    rw [if_pos control]
    cases found : s.exchanges.pendingTerminalControls.lookup issi with
    | none => exact agrees
    | some pending =>
      rw [found, all_some, Bool.and_eq_true] at settled
      exact agrees_amendTalkgroups agrees pdu pending.operations (by simpa using settled.1)
  next control =>
    rw [if_neg control]
    cases found : s.exchanges.pendingGroupSecurityAssociations.lookup issi with
    | none => exact agrees
    | some pending =>
      rw [found] at settled
      exact agrees_updateClasses agrees issi pending.groups pdu settled

/-- **A step that settles keeps the copies in agreement.** -/
theorem agrees_step {event : MmEvent} {next : MmBs} (agrees : s.members.Agrees)
    (settled : settlesStep (s, withdrawn) event = true) (stepped : s.step event = some next) :
    next.members.Agrees := by
  cases event with
  | locationUpdateDemand air issi handle target refusal pdu =>
    cases stepped
    refine agrees_demand air issi agrees handle target refusal pdu fun locally' => ?_
    simpa [settlesStep, locally'] using settled
  | attachDetachGroupIdentity air issi handle replaceAll giuVec =>
    cases stepped
    refine agrees_attachDetach air issi agrees handle replaceAll giuVec fun locally' => ?_
    simpa [settlesStep, locally'] using settled
  | attachDetachAcknowledgement air issi order pdu answers =>
    cases stepped
    exact (beside_acknowledgement s air issi order pdu).agrees
      (agrees_acknowledged issi agrees pdu settled)
  | itsiDetach air issi =>
    cases stepped
    refine agrees_removeLocalSubscriber issi ?_
    dsimp only
    split
    · split <;> exact agrees
    · exact agrees
  | authentication issi commandId authenticationResult =>
    cases stepped
    unfold rxUAuthentication
    split
    · exact agrees
    · exact (beside_endReauthentication _ _).agrees agrees
  | informationProvide issi =>
    cases stepped
    split
    · exact (beside_finishTerminalControl _ _ _ _).agrees agrees
    · exact agrees
  | gckResult air issi handle results =>
    cases stepped
    exact (beside_refresh s air issi handle results).agrees agrees
  | registrationDecision air decision =>
    cases stepped
    exact agrees_registrationDecision air agrees decision settled
  | attachmentDecision air decision =>
    cases stepped
    exact agrees_decision air agrees decision settled
  | authenticationResult commandId itsi airHandle success =>
    cases stepped
    unfold applyAuthenticationResult
    split
    · exact agrees
    · exact (beside_endReauthentication _ _).agrees agrees
  | subscriberStateSync air itsi groups scanningEnabled securityClass =>
    cases stepped
    exact agrees_stateSync air agrees itsi groups scanningEnabled securityClass
  | lstRecoveryRequest air commandId =>
    cases stepped
    unfold lstRecoveryRequest
    split
    · exact agrees
    · split <;> exact agrees
  | lstRecoveryResult air commandId accepted rejected =>
    cases stepped
    exact agrees_lstRecoveryResult air agrees commandId accepted rejected
  | deregistrationNotice commandId itsi =>
    cases stepped
    split
    · exact agrees
    · exact agrees_cleanup itsi agrees commandId
  | terminalControl air commandId itsi action operations =>
    cases stepped
    exact (beside_handleTerminalControl s air commandId itsi action operations).agrees agrees
  | otherCommand =>
    cases stepped
    exact agrees
  | receipt receipt mark =>
    simp only [step, markReceipt] at stepped
    split at stepped
    · split at stepped
      · cases stepped
      · cases stepped
        exact agrees
    · cases stepped
  | tick air order =>
    obtain rfl : s.tickStart air order = next := some.inj stepped
    exact agrees_tickStart air agrees order
  | linkLoss air order =>
    obtain rfl : (if air.online then s else s.recoverPending air order) = next := some.inj stepped
    change (air.online || s.recoverySettles air order) = true at settled
    split
    · exact agrees
    next offline =>
      refine agrees_recoverPending air agrees order ?_
      simpa [offline] using settled

/-- **What an acknowledgement that settles does not attach.** -/
theorem notReattached (agrees : s.members.Agrees) (order : List Nat) (pdu : Acknowledgement)
    (settled : s.acknowledgementSettles issi pdu withdrawn = true) {gssi : Nat}
    (absent : s.members.classOf issi gssi = none)
    (left : s.controlIs issi (·.isGroupControl) = true → withdrawn issi gssi = true) :
    (s.rxUAttachDetachGroupIdentityAcknowledgement air issi order pdu).members.classOf issi gssi =
      none := by
  rw [(beside_acknowledgement s air issi order pdu).members]
  have after := agrees_acknowledged issi agrees pdu settled
  unfold acknowledgementSettles at settled
  unfold acknowledged at after ⊢
  split at settled
  next control =>
    rw [if_pos control]
    cases found : s.exchanges.pendingTerminalControls.lookup issi with
    | none => exact absent
    | some pending =>
      rw [found, all_some, Bool.and_eq_true, List.all_eq_true] at settled
      refine classOf_amendTalkgroups_eq_none agrees.here pdu pending.operations absent ?_
      intro operation member same
      have stays := settled.2 operation member
      rw [same, left control] at stays
      simpa using stays
  next control =>
    rw [if_neg control] at after ⊢
    cases found : s.exchanges.pendingGroupSecurityAssociations.lookup issi with
    | none => exact absent
    | some pending =>
      rw [found, elim_some] at after
      -- The registry, which does not follow, says who is in the group.
      have unattached : gssi ∉ s.members.subscribers.attachedGroups issi := by
        rw [agrees.here.registry, absent]
        exact Bool.false_ne_true
      have same : (s.members.updateClasses issi pending.groups pdu).subscribers =
          s.members.subscribers := by
        unfold updateClasses
        dsimp only
        split <;> rfl
      rw [← same, after.here.registry] at unattached
      exact not_isSome_iff_eq_none.mp unattached

/-- **In every run in which whatever is decided settles**, all copies of the memberships agree in
every state, and no late acknowledgement attaches a group again. -/
theorem affiliated_runs {state : MmBs × Withdrawn}
    (reachable : Reachable affiliationMachine Settles state) :
    state.1.members.Agrees ∧ ∀ event next, Settles state event →
      affiliationMachine.step state event = some next → NotReattached state event next := by
  have agrees : state.1.members.Agrees := by
    apply reachable.invariant
    · rintro ⟨first, withdrawn⟩ ⟨⟨time, rfl⟩, -⟩
      exact agrees_new
    · rintro ⟨before, withdrawn⟩ event ⟨next, noted⟩ still settled stepped
      exact agrees_step still settled (Machine.withHistory_step.mp stepped).1
  refine ⟨agrees, fun event next settled stepped => ?_⟩
  rintro air issi order pdu answers rfl gssi absent left
  obtain ⟨done, -⟩ := Machine.withHistory_step.mp stepped
  have same : state.1.rxUAttachDetachGroupIdentityAcknowledgement air issi order pdu = next.1 :=
    some.inj done
  rw [← same]
  exact notReattached air issi agrees order pdu settled absent left

/-- A terminal whose only group the network knows, and a key association for it. -/
def associatedEvents : List MmEvent :=
  [.subscriberStateSync (keyedAir false [7]) 1 [⟨7, false, 4⟩] true .sc1,
    .gckResult (keyedAir false [7]) 1 0 [⟨1, 1, 0⟩]]

def confirmedEvents : List MmEvent :=
  [.attachDetachAcknowledgement (keyedAir false [7]) 1 []
    ⟨false, [⟨some 5, none, some 7, none, none⟩]⟩ 0]

def leftEvents : List MmEvent :=
  [.attachDetachGroupIdentity (keyedAir false [7]) 1 0 false [⟨none, some 0, some 7, none, none⟩]]

/-- A terminal that leaves a group and joins it again in one request. -/
def rejoinedEvents : List MmEvent :=
  [.subscriberStateSync (keyedAir false [7]) 1 [⟨7, false, 4⟩] true .sc1,
    .attachDetachGroupIdentity (keyedAir false [7]) 1 0 false
      [⟨none, some 0, some 7, none, none⟩, ⟨some 4, none, some 7, none, none⟩]]

/-- A class that the terminal confirms is the same everywhere. -/
theorem affiliated_runs_confirmed : ∃ state, Reachable affiliationMachine Settles state ∧
    state.1.members.classOf 1 7 = some 5 ∧ state.1.members.Agrees := by
  have leads : (execPermitted affiliationMachine settlesStep (init ⟨1, 1, 1, 0⟩, fun _ _ => false)
      (associatedEvents ++ confirmedEvents)).any (fun state =>
        decide (state.1.members.classOf 1 7 = some 5)) = true := by decide +kernel
  obtain ⟨state, executed, holds⟩ := (any_eq_true _ _).mp leads
  have reachable : Reachable affiliationMachine Settles state :=
    ⟨_, ⟨⟨_, rfl⟩, rfl⟩, execPermitted_runs (fun _ _ permit => permit) executed⟩
  exact ⟨state, reachable, of_decide_eq_true holds, (affiliated_runs reachable).1⟩

/-- **The copies fall apart**: the terminal is in the group for mobility management and for call
control, and not for the registry, when it acknowledges an association of a group that it has left
since; and it is not in the group for call control when it leaves it and joins it in one request. -/
theorem copies_fall_apart :
    (∃ state, Reachable affiliationMachine always state ∧ state.1.members.classOf 1 7 = some 5 ∧
      7 ∉ state.1.members.subscribers.attachedGroups 1 ∧ ¬ state.1.members.Agrees) ∧
    ∃ state, Reachable affiliationMachine always state ∧ state.1.members.classOf 1 7 = some 4 ∧
      state.1.members.cmce.subscriberGroupCou 1 7 = none ∧ ¬ state.1.members.Agrees := by
  have start : affiliationMachine.start (init ⟨1, 1, 1, 0⟩, fun _ _ => false) := ⟨⟨_, rfl⟩, rfl⟩
  constructor
  · obtain ⟨state, reached, class5, unattached⟩ := reachable_exec (fun state =>
      state.1.members.classOf 1 7 = some 5 ∧ 7 ∉ state.1.members.subscribers.attachedGroups 1)
      (associatedEvents ++ leftEvents ++ confirmedEvents) start (by decide +kernel)
    refine ⟨state, reached, class5, unattached, fun agrees => unattached ?_⟩
    rw [agrees.here.registry, class5]
    rfl
  · obtain ⟨state, reached, class4, unknown⟩ := reachable_exec (fun state =>
      state.1.members.classOf 1 7 = some 4 ∧ state.1.members.cmce.subscriberGroupCou 1 7 = none)
      rejoinedEvents start (by decide +kernel)
    refine ⟨state, reached, class4, unknown, fun agrees => ?_⟩
    exact nomatch unknown.symm.trans ((agrees.there.classes 1 7).trans class4)

end MmBs

end Bluestation
