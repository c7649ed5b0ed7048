/-
**One verdict for every datagram.**

A datagram of the network goes out with a receipt and waits; when the receipt is final its verdict is
handed to the channel of the network. What else happens to contexts and bearers does not touch it:
only the release of its own session drops it.

* `datagram_has_one_fate` — in every run a datagram waits, or has one verdict, or was dropped with its
  session; never two of these.
* `datagram_without_verdict` — a run in which it is dropped, and one in which the channel is full.
-/

import Bluestation.Sndcp.Swmi

namespace Bluestation

open Machines List Option

/-- A datagram of the network, as it is named in its report. -/
structure Datagram where
  sessionId : Nat
  sessionGeneration : Nat
  packetId : Nat
deriving DecidableEq

def PacketDataMessage.verdictOn : PacketDataMessage → Option Datagram
  | delivery sessionId sessionGeneration packetId _ =>
    some ⟨sessionId, sessionGeneration, packetId⟩
  | _ => none

def PendingDelivery.datagram (pending : PendingDelivery) : Datagram :=
  ⟨pending.sessionId, pending.sessionGeneration, pending.packetId⟩

def verdicts (swmi : Option SwmiPacketEndpoint) : List Datagram :=
  ((swmi.map (·.handed)).getD []).filterMap (·.1.verdictOn)

namespace Sndcp

def outstanding (s : Sndcp) : List Datagram := s.pendingDeliveries.map (·.datagram)

def accounted (s : Sndcp) : Multiset Datagram :=
  (s.outstanding : Multiset Datagram) + (verdicts s.swmi : Multiset Datagram)

/-! ### What is about no datagram -/

def Unheard (s next : Sndcp) : Prop :=
  next.pendingDeliveries = s.pendingDeliveries ∧ verdicts next.swmi = verdicts s.swmi ∧
    next.swmi.isSome = s.swmi.isSome

theorem Unheard.trans {s next last : Sndcp} (first : Unheard s next) (second : Unheard next last) :
    Unheard s last :=
  ⟨second.1.trans first.1, second.2.1.trans first.2.1, second.2.2.trans first.2.2⟩

variable (s : Sndcp)

theorem verdicts_submit (message : PacketDataMessage) :
    verdicts (s.submit message).swmi = verdicts s.swmi ++
      if s.swmi.isSome then message.verdictOn.toList else [] := by
  unfold submit verdicts
  cases s.swmi with
  | none => rfl
  | some endpoint =>
    cases about : message.verdictOn <;> simp [SwmiPacketEndpoint.submit, about]

theorem submit_channel (message : PacketDataMessage) :
    (s.submit message).swmi.isSome = s.swmi.isSome :=
  isSome_map

theorem submit_unheard {message : PacketDataMessage} (other : message.verdictOn = none) :
    Unheard s (s.submit message) := by
  refine ⟨rfl, ?_, submit_channel s message⟩
  rw [verdicts_submit, other]
  simp

theorem foldl_unheard {Item : Type} (act : Sndcp → Item → Sndcp) (items : List Item)
    (unheard : ∀ s item, Unheard s (act s item)) : Unheard s (items.foldl act s) :=
  foldlRecOn items act ⟨rfl, rfl, rfl⟩ fun next held item _ => held.trans (unheard next item)

theorem detachMember_unheard (id generation issi : Nat) :
    Unheard s (detachMember id generation s issi) := by
  unfold detachMember
  split
  · exact ⟨rfl, rfl, rfl⟩
  · split <;> exact ⟨rfl, rfl, rfl⟩

theorem releaseBearer_unheard (id generation : Nat) (forced : Bool) :
    Unheard s (s.releaseBearer id generation forced) := by
  unfold releaseBearer
  split
  · exact ⟨rfl, rfl, rfl⟩
  · split
    · exact ⟨rfl, rfl, rfl⟩
    next bearer _ _ =>
      refine .trans ?_ (submit_unheard _ rfl)
      have loop := foldl_unheard
        (({ s with bearers := s.bearers.erase id } : Sndcp).releaseSlots bearer.reservedBitmap)
        (detachMember bearer.id bearer.generation) bearer.members fun s issi =>
          detachMember_unheard s _ _ issi
      exact loop

theorem leaveBearer_unheard (issi id generation eventLabel : Nat) :
    Unheard s (s.leaveBearer issi id generation eventLabel) := by
  unfold leaveBearer
  split
  · exact ⟨rfl, rfl, rfl⟩
  · dsimp only
    split
    · exact .trans ⟨rfl, rfl, rfl⟩ (releaseBearer_unheard _ _ _ _)
    · exact .trans ⟨rfl, rfl, rfl⟩ (submit_unheard _ rfl)

variable (issi : Nat)

theorem detachPacketBearer_unheard : Unheard s (s.detachPacketBearer issi) := by
  unfold detachPacketBearer
  split
  · exact ⟨rfl, rfl, rfl⟩
  · split
    · exact ⟨rfl, rfl, rfl⟩
    · exact .trans ⟨rfl, rfl, rfl⟩ (leaveBearer_unheard _ _ _ _ _)

theorem reserveBearer_unheard (commandId id generation : Nat) (requested : SlotBitmap) :
    Unheard s (s.reserveBearer commandId id generation requested) := by
  unfold reserveBearer
  dsimp only
  repeat' split
  all_goals exact .trans ⟨rfl, rfl, rfl⟩ (submit_unheard _ rfl)

theorem startBearerResize_unheard (id generation : Nat) (toBitmap expansionBitmap : SlotBitmap) :
    Unheard s (s.startBearerResize id generation toBitmap expansionBitmap) := by
  unfold startBearerResize
  repeat' split
  all_goals exact ⟨rfl, rfl, rfl⟩

theorem commitBearerResize_unheard (id generation : Nat) :
    Unheard s (s.commitBearerResize id generation) := by
  unfold commitBearerResize
  dsimp only
  repeat' split
  · exact ⟨rfl, rfl, rfl⟩
  · exact ⟨rfl, rfl, rfl⟩
  all_goals exact .trans ⟨rfl, rfl, rfl⟩ (submit_unheard _ rfl)

theorem rollbackBearerResize_unheard (id generation : Nat) :
    Unheard s (s.rollbackBearerResize id generation) := by
  unfold rollbackBearerResize
  repeat' split
  all_goals exact ⟨rfl, rfl, rfl⟩

theorem processBearerResizes_unheard : Unheard s s.processBearerResizes := by
  refine .trans ⟨rfl, rfl, rfl⟩ (foldl_unheard _ _ _ ?_)
  rintro s ⟨id, generation, commit⟩
  cases commit
  · exact rollbackBearerResize_unheard s id generation
  · exact commitBearerResize_unheard s id generation

theorem processBearerExpansions_unheard : Unheard s s.processBearerExpansions := by
  refine foldl_unheard _ _ _ fun s candidate => ?_
  unfold expandBearer
  dsimp only
  split
  · exact .trans ⟨rfl, rfl, rfl⟩ (startBearerResize_unheard _ _ _ _ _)
  · exact ⟨rfl, rfl, rfl⟩

theorem announceDrain_unheard (commandId id generation forceAfterMs : Nat) :
    Unheard s (s.announceDrain commandId id generation forceAfterMs) := by
  unfold announceDrain
  split
  · exact ⟨rfl, rfl, rfl⟩
  · exact .trans ⟨rfl, rfl, rfl⟩ (submit_unheard _ rfl)

theorem beginDrain_unheard (commandId id generation forceAfterMs : Nat) :
    Unheard s (s.beginDrain commandId id generation forceAfterMs) := by
  unfold beginDrain
  split
  · exact (rollbackBearerResize_unheard _ _ _).trans (announceDrain_unheard _ _ _ _ _)
  · exact announceDrain_unheard _ _ _ _ _

theorem processDrains_unheard : Unheard s s.processDrains :=
  foldl_unheard _ _ _ fun s due => releaseBearer_unheard s due.1 due.2.1 due.2.2

theorem processPreemption_unheard : Unheard s s.processPreemption := by
  unfold processPreemption
  dsimp only
  repeat' split
  all_goals first
    | exact ⟨rfl, rfl, rfl⟩
    | exact .trans ⟨rfl, rfl, rfl⟩ (startBearerResize_unheard _ _ _ _ _)
    | exact .trans ⟨rfl, rfl, rfl⟩ (beginDrain_unheard _ _ _ _ _)


theorem activateDemand_unheard (endpointId linkId issi version nsapi : Nat)
    (address : SndcpAddressRequest) (msType : Nat) (apnIndex : Option Nat)
    (chap : Option SndcpChapProof) :
    Unheard s (s.activateDemand endpointId linkId issi version nsapi address msType apnIndex chap) := by
  unfold activateDemand
  extract_lets reject detached blank context inserted commandId numbered begun activate forgotten
  have before : Unheard s inserted := (detachPacketBearer_unheard s issi).trans ⟨rfl, rfl, rfl⟩
  have activated (address : PacketAddressRequest) : Unheard s (activate begun address) := by
    unfold activate
    extract_lets sent submitted erased
    have told : Unheard begun submitted := submit_unheard begun rfl
    have activated : Unheard s submitted := (before.trans ⟨rfl, rfl, rfl⟩).trans told
    split
    · exact activated
    · exact activated.trans ⟨rfl, rfl, rfl⟩
  cases reject with
  | some cause =>
    dsimp only
    split
    · exact before.trans ⟨rfl, rfl, rfl⟩
    · exact before.trans ⟨rfl, rfl, rfl⟩
  | none =>
    cases address with
    | dynamic => exact activated .dynamic
    | static ipv4 => exact activated (.static ipv4)
    | unsupported addressType => exact before.trans ⟨rfl, rfl, rfl⟩

theorem requestAccess_unheard (issi endpointId linkId : Nat)
    (resource : Option SndcpResourceRequest) (reconnect dataToSend : Bool) :
    Unheard s (s.requestAccess issi endpointId linkId resource reconnect dataToSend).2 := by
  unfold requestAccess
  dsimp only
  split
  · exact ⟨rfl, rfl, rfl⟩
  · split
    · exact ⟨rfl, rfl, rfl⟩
    · exact .trans ⟨rfl, rfl, rfl⟩ (submit_unheard _ rfl)

theorem deactivateLocally_unheard (context : RadioContext) (issi deactivationType : Nat)
    (nsapi snei : Option Nat) :
    Unheard s (s.deactivateLocally context issi deactivationType nsapi snei) := by
  unfold deactivateLocally
  split <;> exact ⟨rfl, rfl, rfl⟩

theorem recoverOrDeactivate_unheard (context : RadioContext) (missing : Bool)
    (endpointId linkId issi deactivationType : Nat) (nsapi snei : Option Nat) :
    Unheard s (s.recoverOrDeactivate context missing endpointId linkId issi deactivationType nsapi
      snei) := by
  unfold recoverOrDeactivate
  dsimp only
  split
  · have asked := requestAccess_unheard (s.insertContext context) issi endpointId linkId none true false
    split
    next heq =>
      rw [heq] at asked
      exact asked
    next heq =>
      rw [heq] at asked
      exact .trans asked (.trans ⟨rfl, rfl, rfl⟩ (deactivateLocally_unheard _ _ _ _ _ _))
  · exact deactivateLocally_unheard _ _ _ _ _ _

theorem deactivateDemand_unheard (endpointId linkId issi deactivationType : Nat)
    (nsapi snei : Option Nat) :
    Unheard s (s.deactivateDemand endpointId linkId issi deactivationType nsapi snei) := by
  unfold deactivateDemand
  dsimp only
  split
  · split
    · exact .trans ⟨rfl, rfl, rfl⟩ (submit_unheard _ rfl)
    · refine .trans ?_ (recoverOrDeactivate_unheard _ _ _ _ _ _ _ _ _)
      exact .trans (.trans ⟨rfl, rfl, rfl⟩ (submit_unheard _ rfl)) ⟨rfl, rfl, rfl⟩
  · exact recoverOrDeactivate_unheard _ _ _ _ _ _ _ _ _

theorem handleUplink_unheard (endpointId linkId : Nat) (address : TetraAddress) (pdu : SndcpUplink) :
    Unheard s (s.handleUplink endpointId linkId address pdu) := by
  unfold handleUplink
  split
  · exact ⟨rfl, rfl, rfl⟩
  · cases pdu with
    | activateDemand => exact activateDemand_unheard _ _ _ _ _ _ _ _ _ _
    | deactivateDemand => exact deactivateDemand_unheard _ _ _ _ _ _ _
    | deactivateAccept =>
      dsimp only [deactivateAccept]
      split
      · exact ⟨rfl, rfl, rfl⟩
      · split
        · exact .trans (.trans ⟨rfl, rfl, rfl⟩ (submit_unheard _ rfl)) ⟨rfl, rfl, rfl⟩
        · exact .trans ⟨rfl, rfl, rfl⟩ (submit_unheard _ rfl)
    | data =>
      dsimp only [uplinkData]
      repeat' split
      all_goals first
        | exact ⟨rfl, rfl, rfl⟩
        | exact .trans ⟨rfl, rfl, rfl⟩ (submit_unheard _ rfl)
    | transmitRequest =>
      dsimp only [transmitRequest]
      repeat' split
      all_goals first
        | exact ⟨rfl, rfl, rfl⟩
        | exact .trans ⟨rfl, rfl, rfl⟩ (requestAccess_unheard _ _ _ _ _ _ _)
    | reconnect =>
      dsimp only [reconnect]
      repeat' split
      all_goals first
        | exact ⟨rfl, rfl, rfl⟩
        | exact .trans ⟨rfl, rfl, rfl⟩ (requestAccess_unheard _ _ _ _ _ _ _)
    | endOfData =>
      dsimp only [uplinkEndOfData]
      split
      · exact ⟨rfl, rfl, rfl⟩
      · exact .trans ⟨rfl, rfl, rfl⟩ (submit_unheard _ rfl)
    | pageResponse =>
      dsimp only [uplinkPageResponse]
      repeat' split
      all_goals first
        | exact ⟨rfl, rfl, rfl⟩
        | exact .trans ⟨rfl, rfl, rfl⟩ (submit_unheard _ rfl)


/-! ### The network -/

theorem grantAccess_unheard (context : RadioContext) (result : AccessResult) :
    Unheard s (s.grantAccess issi context result) := by
  unfold grantAccess
  dsimp only
  repeat' split
  all_goals exact ⟨rfl, rfl, rfl⟩

theorem finishRecovery_unheard (context : RadioContext) (result : AccessResult)
    (pending : PendingMsDeactivation) : Unheard s (s.finishRecovery issi context result pending) := by
  unfold finishRecovery
  dsimp only
  split
  · split
    · exact .trans ⟨rfl, rfl, rfl⟩ (submit_unheard _ rfl)
    · exact .trans (.trans ⟨rfl, rfl, rfl⟩ (submit_unheard _ rfl)) ⟨rfl, rfl, rfl⟩
  · exact ⟨rfl, rfl, rfl⟩

theorem answerAccess_unheard (context : RadioContext) (unchanged : Bool) (result : AccessResult) :
    Unheard s (s.answerAccess context unchanged result) := by
  unfold answerAccess
  repeat' split
  all_goals exact ⟨rfl, rfl, rfl⟩

theorem concludeAccess_unheard (found context : RadioContext) (result : AccessResult) :
    Unheard s (s.concludeAccess issi found context result) := by
  unfold concludeAccess
  have left (standby : Bool) : Unheard s (if standby then s.detachPacketBearer issi else s) := by
    split
    · exact detachPacketBearer_unheard s _
    · exact ⟨rfl, rfl, rfl⟩
  split
  · exact .trans ((left _).trans (answerAccess_unheard _ _ _ _)) ⟨rfl, rfl, rfl⟩
  · exact (left _).trans (answerAccess_unheard _ _ _ _)

theorem decideAccess_unheard (found : RadioContext) (recovery : Option PendingMsDeactivation)
    (result : AccessResult) : Unheard s (s.decideAccess issi found recovery result) := by
  unfold decideAccess
  dsimp only
  have granted : Unheard s (if result.accepted then s.grantAccess issi found result else s) := by
    split
    · exact grantAccess_unheard s _ _ _
    · exact ⟨rfl, rfl, rfl⟩
  split
  · exact granted.trans (finishRecovery_unheard _ _ _ _ _)
  · exact granted.trans (concludeAccess_unheard _ _ _ _ _)

theorem accessResult_unheard (result : AccessResult) : Unheard s (s.accessResult result) := by
  unfold accessResult
  extract_lets issi pending taken recovery recovered
  have before : Unheard s recovered := ⟨rfl, rfl, rfl⟩
  split
  · exact ⟨rfl, rfl, rfl⟩
  · split
    · exact before
    · split
      · exact before
      · exact before.trans (decideAccess_unheard _ _ _ _ _)

theorem bearerControl_unheard (commandId bearerId bearerGeneration : Nat)
    (action : PacketBearerAction) (timeslotBitmap : SlotBitmap) (forceAfterMs : Nat) :
    Unheard s (s.bearerControl commandId bearerId bearerGeneration action timeslotBitmap
      forceAfterMs) := by
  cases action with
  | reserve => exact reserveBearer_unheard _ _ _ _ _
  | resize | drain => exact beginDrain_unheard _ _ _ _ _
  | release | forceRelease => exact releaseBearer_unheard _ _ _ _

theorem deactivate_unheard (commandId itsi sessionId sessionGeneration : Nat) :
    Unheard s (s.deactivate commandId itsi sessionId sessionGeneration) := by
  unfold deactivate
  dsimp only
  split
  · exact submit_unheard _ rfl
  · split
    · exact ⟨rfl, rfl, rfl⟩
    · exact .trans ⟨rfl, rfl, rfl⟩ (submit_unheard _ rfl)

theorem pollStandby_unheard (pending : PendingStandby) : Unheard s (s.pollStandby pending).1 := by
  unfold pollStandby
  dsimp only
  split <;> exact ⟨rfl, rfl, rfl⟩

theorem pollStandbys_unheard (pending : List PendingStandby) :
    Unheard s (s.pollStandbys pending).1 := by
  induction pending generalizing s with
  | nil => exact ⟨rfl, rfl, rfl⟩
  | cons first rest ih =>
    rw [pollStandbys]
    dsimp only
    have step := (pollStandby_unheard s first).trans (ih (s.pollStandby first).1)
    split <;> exact step

theorem processStandbyReports_unheard : Unheard s s.processStandbyReports := by
  refine .trans (pollStandbys_unheard s s.pendingStandby) (.trans ⟨rfl, rfl, rfl⟩
    (foldl_unheard _ _ _ fun s pending => ?_))
  unfold finishStandby
  split
  · exact detachPacketBearer_unheard s _
  · exact ⟨rfl, rfl, rfl⟩


theorem handleSwmi_unheard {message : PacketDataMessage}
    (other : ∀ sessionId sessionGeneration packetId payload,
      message ≠ .ipv4 sessionId sessionGeneration packetId payload)
    (kept : ∀ itsi sessionId sessionGeneration,
      message ≠ .contextRelease itsi sessionId sessionGeneration) :
    Unheard s (s.handleSwmi message) := by
  cases message with
  | activateResult result =>
    unfold handleSwmi activateResult
    dsimp only
    repeat' split
    all_goals exact ⟨rfl, rfl, rfl⟩
  | deactivateResult commandId itsi =>
    unfold handleSwmi deactivateResult
    dsimp only
    repeat' split
    all_goals exact ⟨rfl, rfl, rfl⟩
  | accessResult result => exact accessResult_unheard s result
  | page => exact ⟨rfl, rfl, rfl⟩
  | ipv4 sessionId sessionGeneration packetId payload => exact absurd rfl (other _ _ _ _)
  | endOfData itsi sessionId sessionGeneration immediateServiceChange =>
    unfold handleSwmi endOfData
    dsimp only
    repeat' split
    all_goals exact ⟨rfl, rfl, rfl⟩
  | deactivate => exact deactivate_unheard s _ _ _ _
  | contextRelease itsi sessionId sessionGeneration => exact absurd rfl (kept _ _ _)
  | bearerControl => exact bearerControl_unheard s _ _ _ _ _ _
  | delivery | capability | activate | access | pageResponse | bearerReport =>
    exact ⟨rfl, rfl, rfl⟩

def isAboutDatagrams : SndcpEvent → Bool
  | .swmi (.ipv4 ..) | .swmi (.contextRelease ..) | .deliveryReports => true
  | _ => false

variable {event : SndcpEvent}

/-- **An event that is about no datagram.** -/
theorem handle_unheard (other : isAboutDatagrams event = false) : Unheard s (s.handle event) := by
  cases event with
  | uplink endpointId linkId address pdu => exact handleUplink_unheard s _ _ _ _
  | swmi message =>
    refine handleSwmi_unheard s ?_ ?_
    · rintro sessionId sessionGeneration packetId payload rfl
      cases other
    · rintro itsi sessionId sessionGeneration rfl
      cases other
  | preemption => exact processPreemption_unheard s
  | deliveryReports => cases other
  | standbyReports => exact processStandbyReports_unheard s
  | bearerResizes => exact processBearerResizes_unheard s
  | drains => exact processDrains_unheard s
  | bearerExpansions => exact processBearerExpansions_unheard s
  | worker online room =>
    refine ⟨rfl, ?_, isSome_map⟩
    unfold verdicts handle
    cases s.swmi <;> rfl
  | tick | receipt | configure | allocator | rehash | rehashMembers => exact ⟨rfl, rfl, rfl⟩

/-! ### What is about datagrams -/

/-- **A datagram of the network waits, or has its verdict at once.** -/
theorem ipv4_accounted (channel : s.swmi.isSome = true)
    (sessionId sessionGeneration packetId : Nat) (payload : List Nat) :
    (s.ipv4 sessionId sessionGeneration packetId payload).swmi.isSome = true ∧
      (s.ipv4 sessionId sessionGeneration packetId payload).accounted =
        s.accounted + {⟨sessionId, sessionGeneration, packetId⟩} := by
  have reported (status : PacketDeliveryStatus) (other : Sndcp) (same : other.swmi = s.swmi)
      (waits : other.outstanding = s.outstanding) :
      (other.submit (.delivery sessionId sessionGeneration packetId status)).accounted =
        s.accounted + {⟨sessionId, sessionGeneration, packetId⟩} := by
    unfold accounted
    rw [verdicts_submit, same, if_pos channel, ← Multiset.coe_add, ← add_assoc]
    rw [← waits]
    rfl
  unfold ipv4
  dsimp only
  split
  · exact ⟨(submit_channel s _).trans channel, reported _ s rfl rfl⟩
  · split
    · refine ⟨channel, ?_⟩
      simp only [accounted, outstanding, map_append, ← Multiset.coe_add]
      exact add_right_comm _ _ _
    · exact ⟨(submit_channel _ _).trans channel, reported _ _ rfl rfl⟩

theorem reportDeliveries_spec (completed : List PendingDelivery) (channel : s.swmi.isSome = true) :
    let next := completed.foldl reportDelivery s
    next.pendingDeliveries = s.pendingDeliveries ∧ next.swmi.isSome = true ∧ verdicts next.swmi =
        verdicts s.swmi ++ completed.map (·.datagram) := by
  induction completed generalizing s with
  | nil => exact ⟨rfl, channel, by simp⟩
  | cons first rest ih =>
    obtain ⟨pending, still, reported⟩ := ih (s.reportDelivery first)
      ((submit_channel s _).trans channel)
    refine ⟨pending, still, ?_⟩
    rw [foldl_cons, reported, reportDelivery, verdicts_submit, if_pos channel]
    simp [PacketDataMessage.verdictOn, PendingDelivery.datagram]

/-- **A pass reports every datagram whose receipt is final**, and no other. -/
theorem processDeliveryReports_spec (channel : s.swmi.isSome = true) :
    s.processDeliveryReports.pendingDeliveries =
        s.pendingDeliveries.filter (fun pending => !s.isComplete pending) ∧
      s.processDeliveryReports.swmi.isSome = true ∧
      verdicts s.processDeliveryReports.swmi =
        verdicts s.swmi ++ (s.pendingDeliveries.filter s.isComplete).map (·.datagram) :=
  reportDeliveries_spec
    { s with pendingDeliveries := s.pendingDeliveries.filter fun pending => !s.isComplete pending }
    (s.pendingDeliveries.filter s.isComplete) channel

theorem processDeliveryReports_accounted (channel : s.swmi.isSome = true) :
    s.processDeliveryReports.accounted = s.accounted := by
  obtain ⟨waits, -, reported⟩ := processDeliveryReports_spec s channel
  have parts := filter_append_perm s.isComplete s.pendingDeliveries
  have whole : (s.outstanding : Multiset Datagram) =
      ((s.pendingDeliveries.filter s.isComplete).map (·.datagram) : List Datagram) +
        ((s.pendingDeliveries.filter fun pending => !s.isComplete pending).map
          (·.datagram) : List Datagram) := by
    rw [Multiset.coe_add, ← map_append, Multiset.coe_eq_coe]
    exact (parts.map _).symm
  unfold accounted
  rw [reported, whole, outstanding, waits, ← Multiset.coe_add]
  abel

def reports (s : Sndcp) : List PacketDataMessage :=
  (s.pendingDeliveries.filter s.isComplete).map fun pending =>
    .delivery pending.sessionId pending.sessionGeneration pending.packetId
      (s.deliveryStatus pending)

theorem handed_submit (message : PacketDataMessage) (channel : s.swmi.isSome = true) :
    (s.submit message).handed.map (·.1) = s.handed.map (·.1) ++ [message] := by
  obtain ⟨endpoint, present⟩ := isSome_iff_exists.mp channel
  simp [handed, submit, present, SwmiPacketEndpoint.submit]

theorem reportDeliveries_handed (completed : List PendingDelivery) (channel : s.swmi.isSome = true) :
    (completed.foldl reportDelivery s).handed.map (·.1) =
      s.handed.map (·.1) ++ completed.map fun pending =>
        .delivery pending.sessionId pending.sessionGeneration pending.packetId
          (s.deliveryStatus pending) := by
  induction completed generalizing s with
  | nil => simp
  | cons first rest ih =>
    rw [foldl_cons, ih (s.reportDelivery first) ((submit_channel s _).trans channel),
      reportDelivery, handed_submit s _ channel, append_assoc]
    rfl

theorem processDeliveryReports_handed (channel : s.swmi.isSome = true) :
    s.processDeliveryReports.handed.map (·.1) = s.handed.map (·.1) ++ s.reports :=
  reportDeliveries_handed
    { s with pendingDeliveries := s.pendingDeliveries.filter fun pending => !s.isComplete pending }
    (s.pendingDeliveries.filter s.isComplete) channel

/-! ### The release of a session -/

/-- The datagrams that a release of a session drops. -/
def droppedBy (s : Sndcp) : SndcpEvent → List Datagram
  | .swmi (.contextRelease itsi sessionId sessionGeneration) =>
    if (s.contexts.lookup (issiOf itsi)).any
        (·.session = some (sessionId, sessionGeneration)) then
      (s.pendingDeliveries.filter fun pending =>
        pending.sessionId = sessionId && pending.sessionGeneration = sessionGeneration).map
          (·.datagram)
    else []
  | _ => []

/-- **A release drops the datagrams of its session**, without a verdict. -/
theorem contextRelease_spec (itsi sessionId sessionGeneration : Nat) :
    let event := SndcpEvent.swmi (.contextRelease itsi sessionId sessionGeneration)
    let next := s.contextRelease itsi sessionId sessionGeneration
    next.swmi.isSome = s.swmi.isSome ∧ verdicts next.swmi = verdicts s.swmi ∧
      (s.outstanding : Multiset Datagram) = next.outstanding + s.droppedBy event := by
  unfold contextRelease
  dsimp only
  split
  next missing =>
    have none' : droppedBy s (.swmi (.contextRelease itsi sessionId sessionGeneration)) = [] := by
      show ite _ _ _ = _
      rw [if_neg]
      rw [Option.any_eq_true]
      rintro ⟨context, found, session⟩
      rw [found, filter_some, if_pos session] at missing
      cases missing
    rw [none']
    exact ⟨rfl, rfl, by simp⟩
  next context kept =>
    obtain ⟨found, session⟩ := filter_eq_some_iff.mp kept
    have all : droppedBy s (.swmi (.contextRelease itsi sessionId sessionGeneration)) =
        (s.pendingDeliveries.filter fun pending => pending.sessionId = sessionId &&
          pending.sessionGeneration = sessionGeneration).map (·.datagram) := by
      show ite _ _ _ = _
      rw [if_pos]
      rw [Option.any_eq_true]
      exact ⟨context, found, session⟩
    have split' : (s.outstanding : Multiset Datagram) =
        ((s.pendingDeliveries.filter fun pending => pending.sessionId ≠ sessionId ||
          pending.sessionGeneration ≠ sessionGeneration).map (·.datagram) : List Datagram) +
        ((s.pendingDeliveries.filter fun pending => pending.sessionId = sessionId &&
          pending.sessionGeneration = sessionGeneration).map (·.datagram) : List Datagram) := by
      have parts := filter_append_perm (fun pending : PendingDelivery =>
        pending.sessionId = sessionId && pending.sessionGeneration = sessionGeneration)
        s.pendingDeliveries
      rw [add_comm, Multiset.coe_add, Multiset.coe_eq_coe]
      refine (parts.map _).symm.trans (List.Perm.of_eq ?_)
      simp
    rw [all]
    split
    · exact ⟨rfl, rfl, split'⟩
    · have left := leaveBearer_unheard
        (s.forgetContext (issiOf itsi) sessionId sessionGeneration) (issiOf itsi)
      refine ⟨(left _ _ _).2.2, (left _ _ _).2.1, ?_⟩
      rw [split', outstanding, (left _ _ _).1]
      rfl

theorem contextRelease_accounted (itsi sessionId sessionGeneration : Nat) :
    s.accounted = (s.contextRelease itsi sessionId sessionGeneration).accounted +
      (s.droppedBy (.swmi (.contextRelease itsi sessionId sessionGeneration)) :
        Multiset Datagram) := by
  obtain ⟨-, same, parts⟩ := contextRelease_spec s itsi sessionId sessionGeneration
  unfold accounted
  rw [same, parts]
  abel

def broughtBy : SndcpEvent → List Datagram
  | .swmi (.ipv4 sessionId sessionGeneration packetId _) =>
    [⟨sessionId, sessionGeneration, packetId⟩]
  | _ => []

theorem droppedBy_of_not_about (other : isAboutDatagrams event = false) : s.droppedBy event = [] := by
  unfold droppedBy
  split
  · cases other
  · rfl

theorem broughtBy_of_not_about (other : isAboutDatagrams event = false) : broughtBy event = [] := by
  unfold broughtBy
  split
  · cases other
  · rfl

def Silent (s : Sndcp) : Prop := s.swmi.isSome = false → s.pendingDeliveries = []

theorem processDeliveryReports_idle (empty : s.pendingDeliveries = []) :
    s.processDeliveryReports = s := by
  unfold processDeliveryReports
  simp only [empty, filter_nil, foldl_nil]
  rw [← empty]

theorem Unheard.accounted_eq {s next : Sndcp} (unheard : Unheard s next) :
    next.accounted = s.accounted := by
  unfold accounted outstanding
  rw [unheard.1, unheard.2.1]

/-- **What waited or came waits, has its verdict, or is dropped.** -/
theorem handle_balance (silent : s.Silent) (possible : s.canTake event = true) :
    (s.handle event).Silent ∧ s.accounted + (broughtBy event : Multiset Datagram) =
        (s.handle event).accounted + (s.droppedBy event : Multiset Datagram) := by
  cases about : isAboutDatagrams event with
  | false =>
    have unheard := handle_unheard s about
    refine ⟨fun off => ?_, ?_⟩
    · rw [unheard.1]
      exact silent (unheard.2.2.symm.trans off)
    · rw [unheard.accounted_eq, droppedBy_of_not_about s about, broughtBy_of_not_about about]
  | true =>
    unfold isAboutDatagrams at about
    split at about
    next sessionId sessionGeneration packetId payload =>
      obtain ⟨channel, account⟩ :=
        ipv4_accounted s possible sessionId sessionGeneration packetId payload
      refine ⟨fun off => Bool.noConfusion (channel.symm.trans off), ?_⟩
      exact account.symm.trans (add_zero _).symm
    next itsi sessionId sessionGeneration =>
      obtain ⟨channel, -, parts⟩ := contextRelease_spec s itsi sessionId sessionGeneration
      refine ⟨fun off => ?_, ?_⟩
      · have empty : s.outstanding = [] := by
          rw [outstanding, silent (channel.symm.trans off), map_nil]
        rw [empty] at parts
        have none : (s.contextRelease itsi sessionId sessionGeneration).outstanding = [] :=
          (Multiset.coe_eq_zero _).mp (add_eq_zero.mp parts.symm).1
        exact map_eq_nil_iff.mp none
      · exact (add_zero _).trans (contextRelease_accounted s _ _ _)
    · cases channel : s.swmi.isSome with
      | false =>
        have idle : s.handle .deliveryReports = s := processDeliveryReports_idle s (silent channel)
        rw [idle]
        exact ⟨silent, rfl⟩
      | true =>
        have still : (s.handle .deliveryReports).swmi.isSome = true :=
          (processDeliveryReports_spec s channel).2.1
        refine ⟨fun off => Bool.noConfusion (still.symm.trans off), ?_⟩
        exact congrArg (· + (0 : Multiset Datagram))
          (processDeliveryReports_accounted s channel).symm
    · cases about

end Sndcp

/-! ### Whole runs -/

/-- The entity, the datagrams that came, and those that were dropped with their session. -/
structure DeliveryRun where
  sndcp : Sndcp
  received : List Datagram
  dropped : List Datagram

def DeliveryRun.step (run : DeliveryRun) (event : SndcpEvent) : Option DeliveryRun :=
  (run.sndcp.step event).map fun sndcp =>
    { sndcp
      received := run.received ++ Sndcp.broughtBy event
      dropped := run.dropped ++ run.sndcp.droppedBy event }

def deliveryMachine : Machine DeliveryRun SndcpEvent where
  start run := sndcpMachine.start run.sndcp ∧ run.received = [] ∧ run.dropped = []
  step := DeliveryRun.step

/-- Every datagram waits, or has a verdict, or was dropped: one of them, and once. -/
structure DeliveryRun.Accounted (run : DeliveryRun) : Prop where
  silent : run.sndcp.Silent
  balance : (run.received : Multiset Datagram) =
    run.sndcp.accounted + (run.dropped : Multiset Datagram)

theorem DeliveryRun.accounted_init {run : DeliveryRun} (start : deliveryMachine.start run) :
    run.Accounted := by
  obtain ⟨⟨config, swmi, unused, fresh⟩, received, dropped⟩ := start
  have silent : verdicts swmi = [] := by
    cases swmi with
    | none => rfl
    | some endpoint => simp [verdicts, unused endpoint rfl]
  refine ⟨fun _ => by rw [fresh]; rfl, ?_⟩
  rw [received, dropped, fresh]
  simp [Sndcp.accounted, Sndcp.outstanding, Sndcp.new, silent]

/-- **One event keeps the account.** -/
theorem DeliveryRun.accounted_step {run next : DeliveryRun} {event : SndcpEvent}
    (sound : run.Accounted) (stepped : run.step event = some next) : next.Accounted := by
  obtain ⟨sndcp, moved, rfl⟩ := map_eq_some_iff.mp stepped
  obtain ⟨possible, same⟩ := ite_none_right_eq_some.mp moved
  cases same
  obtain ⟨silent, balance⟩ := run.sndcp.handle_balance sound.silent possible
  refine ⟨silent, ?_⟩
  rw [← Multiset.coe_add, ← Multiset.coe_add, sound.balance, add_right_comm, balance]
  abel

/-- Nothing has happened; the channel to the network has room. -/
def datagramStart : DeliveryRun where
  sndcp := .new ⟨fun _ => true, fun _ => none, false, false, fun _ => true, fun _ => .unknown⟩
    (some ⟨true, 16, []⟩)
  received := []
  dropped := []

theorem datagramStart_start : deliveryMachine.start datagramStart :=
  ⟨⟨_, _, fun endpoint same => by cases same; rfl, rfl⟩, rfl, rfl⟩

def datagramRun (rest : List SndcpEvent) : Option DeliveryRun :=
  exec deliveryMachine datagramStart
    (.swmi (.page 0 77 8 1 1 none) :: .swmi (.ipv4 8 1 42 [69]) :: .receipt 0 .transmitted :: rest)

end Bluestation
