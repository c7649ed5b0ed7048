/-
**Every delivery to one terminal is reported once.**

* `SdsBs.permits` — no delivery is tracked under a key that is in use, the channel to the network
  has room for a result, and the link layer does not take back the end of a reported transmission.
* `SdsBs.reported_once` — **main result**: the results of every run of permitted steps.
* `SdsBs.first_delivery_pushed_out` — the first of two deliveries with one transaction gets no result.
-/

import Bluestation.Lib.History
import Bluestation.Cmce.SdsLedger

namespace Bluestation

open Machines List Option Dictionary PendingSdsDelivery

namespace SdsBs

variable {s next : SdsBs}

/-! ### What the operations send -/

def Quiet (s next : SdsBs) : Prop :=
  ∃ messages downlinks, Sends s next messages downlinks ∧ Plain messages downlinks

theorem Quiet.refl (s : SdsBs) : Quiet s s := ⟨_, _, .refl s, .nil⟩

theorem Quiet.trans {after : SdsBs} (first : Quiet s next) (second : Quiet next after) :
    Quiet s after := by
  obtain ⟨messages, downlinks, sends, plain⟩ := first
  obtain ⟨later, further, sends', plain'⟩ := second
  refine ⟨_, _, sends.trans sends', ?_, ?_⟩
  · exact forall_mem_append.mpr ⟨plain.1, plain'.1⟩
  · exact forall_mem_append.mpr ⟨plain.2, plain'.2⟩

theorem Kept.quiet (kept : s.Kept) (quiet : Quiet s next) : next.Kept := by
  obtain ⟨_, _, sends, plain⟩ := quiet
  exact kept.plain sends plain

theorem sends_push (request : LcmcMleUnitdataReq) (failureOf : Option Nat) :
    Sends s (s.push request failureOf) [] [⟨request, failureOf⟩] :=
  ⟨rfl, rfl, prefix_rfl, (append_nil _).symm, rfl⟩

theorem sends_submit (s : SdsBs) (message : SdsSubmission) :
    Sends s (s.submit message) (if s.accepts then [message] else []) [] := by
  refine ⟨rfl, rfl, prefix_rfl, ?_, (append_nil _).symm⟩
  unfold taken accepts submit
  cases s.swmi with
  | none => rfl
  | some endpoint => exact endpoint.taken_submit message

theorem quiet_submit {message : SdsSubmission} (plain : message.number = none) :
    Quiet s (s.submit message) := by
  refine ⟨_, _, sends_submit s message, ?_, forall_mem_nil _⟩
  split
  · exact forall_mem_singleton.mpr plain
  · exact forall_mem_nil _

theorem quiet_observeRua (issi dataType : Nat) (data : List Nat) :
    Quiet s (s.observeRua issi dataType data) := by
  have shown (states : List (Nat × Bool)) : Quiet s { s with ruaStates := states } :=
    ⟨[], [], ⟨rfl, rfl, prefix_rfl, (append_nil _).symm, (append_nil _).symm⟩, Plain.nil⟩
  unfold observeRua
  split
  · exact shown s.ruaStates
  · split
    · exact shown _
    · exact shown _
    · exact shown _
    · exact shown s.ruaStates

theorem quiet_takeCommandId : Quiet s s.takeCommandId :=
  ⟨[], [], ⟨rfl, rfl, prefix_rfl, (append_nil _).symm, (append_nil _).symm⟩, .nil⟩

variable {writeType3Generic : WriteType3}

theorem quiet_sendDSdsDataTo (sourceIssi destinationSsi : Nat) (destinationType : SsiType)
    (dmMsAddress : Option DmMsRouteAddress) (data : SdsUserData) (txReporter : Option Nat)
    (aieOverride : Option (AieRequest Unit)) :
    Quiet s (s.sendDSdsDataTo writeType3Generic sourceIssi destinationSsi destinationType dmMsAddress
      data txReporter aieOverride none).1 := by
  unfold sendDSdsDataTo
  split
  · exact .refl s
  · exact ⟨_, _, sends_push _ none, forall_mem_nil _, forall_mem_singleton.mpr rfl⟩

theorem quiet_sendDStatusTo (sourceIssi destinationSsi : Nat) (destinationType : SsiType)
    (dmMsAddress : Option DmMsRouteAddress) (status : PreCodedStatus) :
    Quiet s (s.sendDStatusTo writeType3Generic sourceIssi destinationSsi destinationType dmMsAddress
      status none) := by
  unfold sendDStatusTo
  split
  · exact .refl s
  · exact ⟨_, _, sends_push _ none, forall_mem_nil _, forall_mem_singleton.mpr rfl⟩

/-- **A failure is always sent, to the originator**: its PDU has no optional elements. -/
theorem sends_sendSwmiFailure (s : SdsBs) (originatorIssi cause : Nat)
    (context : Option Nat × Option Nat) (failureOf : Option Nat) :
    ∃ request, Sends s (s.sendSwmiFailure writeType3Generic originatorIssi cause context failureOf) []
      [⟨request, failureOf⟩] ∧ request.mainAddress.ssi = originatorIssi := by
  have status : ∃ request, Sends s (s.sendDStatusTo writeType3Generic swmiIssi originatorIssi .issi
      none (.networkUserSpecific (failureStatus cause)) failureOf) [] [⟨request, failureOf⟩] ∧
      request.mainAddress.ssi = originatorIssi := by
    exact ⟨_, sends_push _ failureOf, rfl⟩
  unfold sendSwmiFailure
  split
  · exact ⟨_, sends_push _ failureOf, rfl⟩
  · exact status

theorem quiet_sendSwmiFailure (originatorIssi cause : Nat) (context : Option Nat × Option Nat) :
    Quiet s (s.sendSwmiFailure writeType3Generic originatorIssi cause context none) := by
  obtain ⟨request, sends, _⟩ := sends_sendSwmiFailure s originatorIssi cause context none
  exact ⟨_, _, sends, forall_mem_nil _, forall_mem_singleton.mpr rfl⟩

end SdsBs

def SdsRoute.dmMsAddress : SdsRoute → Option DmMsRouteAddress
  | gateway _ address => some address
  | _ => none

namespace SdsBs

def encodes (writeType3Generic : WriteType3) (route : SdsRoute) (sourceIssi : Nat)
    (data : SdsUserData) : Bool :=
  ((dSdsData sourceIssi route.dmMsAddress data).toBitbuf writeType3Generic).toOption.isSome

variable {s next : SdsBs} {writeType3Generic : WriteType3}

def Carries (s next : SdsBs) (txReporter : Option Nat) : Prop :=
  ∃ downlink : SdsDownlink, next.queue = s.queue ++ [downlink] ∧
    downlink.request.txReporter = txReporter

/-- A message is sent along a route exactly if its PDU can be encoded. -/
theorem sendAlong_spec (s : SdsBs) (route : SdsRoute) (sourceIssi destinationSsi : Nat)
    (destinationIsGroup : Bool) (data : SdsUserData) (txReporter : Option Nat)
    (aieOverride : Option (AieRequest Unit)) :
    let result := s.sendAlong writeType3Generic route sourceIssi destinationSsi destinationIsGroup data
      txReporter aieOverride
    result.2 = encodes writeType3Generic route sourceIssi data ∧ Quiet s result.1 ∧
      (result.2 = false → result.1 = s) ∧ (result.2 = true → Carries s result.1 txReporter) := by
  have sent (destination : Nat) (destinationType : SsiType) (override : Option (AieRequest Unit)) :
      let result := s.sendDSdsDataTo writeType3Generic sourceIssi destination destinationType
        route.dmMsAddress data txReporter override none
      result.2 = encodes writeType3Generic route sourceIssi data ∧ Quiet s result.1 ∧
        (result.2 = false → result.1 = s) ∧ (result.2 = true → Carries s result.1 txReporter) := by
    refine ⟨?_, quiet_sendDSdsDataTo .., fun unsent => ?_, fun sent => ?_⟩
    · unfold sendDSdsDataTo encodes
      cases (dSdsData sourceIssi route.dmMsAddress data).toBitbuf writeType3Generic <;> rfl
    · unfold sendDSdsDataTo at unsent ⊢
      cases encoded : (dSdsData sourceIssi route.dmMsAddress data).toBitbuf writeType3Generic with
      | error err => rfl
      | ok sdu =>
        rw [encoded] at unsent
        cases unsent
    · unfold sendDSdsDataTo at sent ⊢
      cases encoded : (dSdsData sourceIssi route.dmMsAddress data).toBitbuf writeType3Generic with
      | error err =>
        rw [encoded] at sent
        cases sent
      | ok sdu => exact ⟨_, rfl, rfl⟩
  cases route with
  | gateway gatewayIssi address => exact sent gatewayIssi .issi none
  | direct => exact sent destinationSsi _ aieOverride
  | unreachable => exact sent destinationSsi _ aieOverride

/-! ### Deliveries -/

/-- The network's delivery is not put on the air. -/
def refuses (writeType3Generic : WriteType3) (cell : SdsCell) (sourceIssi destinationSsi : Nat)
    (destinationIsGroup : Bool) (dataType lengthBits : Nat) (data : List Nat) : Bool :=
  match SdsUserData.ofWire dataType lengthBits data with
  | none => true
  | some userData =>
    let route := cell.route destinationSsi destinationIsGroup
    route = .unreachable || !encodes writeType3Generic route sourceIssi userData

/-- The result of a refused delivery, which the network gets. -/
theorem Kept.refused (kept : s.Kept) (accepts : s.accepts = true)
    {noted : SdsBs} {transactionId sourceIssi destinationSsi : Nat} (cause : Nat)
    (real : transactionId ≠ 0) (swmi : noted.swmi = s.swmi)
    (requests : noted.requests = s.requests ++ [⟨some transactionId, sourceIssi, destinationSsi, none⟩])
    (pending : noted.pendingDeliveries = s.pendingDeliveries)
    (receipts : s.reporters <+: noted.reporters) (queue : noted.queue = s.queue) :
    (noted.reportDelivery (some s.requests.length) transactionId destinationSsi false cause).Kept := by
  unfold reportDelivery
  rw [if_neg real]
  have sends := sends_submit noted
    (.sdsDeliveryResult (some s.requests.length) transactionId destinationSsi false cause)
  have taken : noted.taken = s.taken := by
    unfold SdsBs.taken
    rw [swmi]
  have takes : noted.accepts = true := by
    unfold SdsBs.accepts at accepts ⊢
    rw [swmi, accepts]
  rw [if_pos takes] at sends
  refine kept.refuse (sends.requests.trans requests) (sends.pending.trans pending)
    (receipts.trans sends.reporters) (sends.taken.trans (congrArg (· ++ _) taken))
    (sends.queue.trans (congrArg (· ++ _) queue)) rfl ?_
  exact ⟨rfl, cause, rfl⟩

theorem quiet_reportDelivery (transactionId destinationIssi : Nat) (delivered : Bool) (cause : Nat) :
    Quiet s (s.reportDelivery none transactionId destinationIssi delivered cause) := by
  unfold reportDelivery
  split
  · exact .refl s
  · exact quiet_submit rfl

/-- A sent message and its receipt: the delivery waits under a free key. -/
theorem Kept.tracked (kept : s.Kept) {sent : SdsBs} {pending : PendingSdsDelivery} {key : Bool × Nat}
    (quiet : Quiet s.newReporter.1 sent)
    (carries : Carries s.newReporter.1 sent (some pending.reporter))
    (requests : next.requests = sent.requests ++ [pending.request])
    (inserted : next.pendingDeliveries = sent.pendingDeliveries.insert key pending)
    (receipts : next.reporters = sent.reporters) (swmi : next.swmi = sent.swmi)
    (queue : next.queue = sent.queue) (free : s.pendingDeliveries.lookup key = none)
    (numbered : pending.number = s.requests.length) (kind : key.1 = pending.transactionId.isSome)
    (real : pending.transactionId ≠ some 0) (fresh : pending.reporter = s.reporters.length) :
    next.Kept := by
  obtain ⟨messages, downlinks, sends, plain⟩ := quiet
  have taken : next.taken = s.taken ++ messages := by
    refine .trans ?_ sends.taken
    unfold SdsBs.taken
    rw [swmi]
  refine kept.track (requests.trans (congrArg (· ++ _) sends.requests))
    (inserted.trans (congrArg (AList.insert key pending) sends.pending)) ?_ taken
    (queue.trans sends.queue) plain free numbered kind real fresh ?_ ?_
  · rw [receipts]
    exact (prefix_append _ _).trans sends.reporters
  · rw [fresh, receipts]
    refine lt_of_lt_of_le ?_ sends.reporters.length_le
    show s.reporters.length < (s.reporters ++ [TxReporter.new]).length
    rw [length_append]
    exact Nat.lt_succ_self _
  · obtain ⟨downlink, appended, carried⟩ := carries
    have same : [downlink] = downlinks := append_cancel_left (appended.symm.trans sends.queue)
    exact ⟨downlink, same ▸ mem_singleton_self downlink, carried⟩

/-- **A delivery of the network.** A refused one needs room at the channel, a sent one a free key. -/
theorem kept_deliverFromSwmi (kept : s.Kept) (cell : SdsCell)
    (transactionId sourceIssi destinationSsi : Nat) (destinationIsGroup : Bool)
    (dataType lengthBits : Nat) (data : List Nat) (aieOverride : Option (AieRequest Unit))
    (permit : destinationIsGroup = false → transactionId ≠ 0 →
      if refuses writeType3Generic cell sourceIssi destinationSsi destinationIsGroup dataType
        lengthBits data then s.accepts = true
      else s.pendingDeliveries.lookup (true, transactionId) = none) :
    (s.deliverFromSwmi writeType3Generic cell transactionId sourceIssi destinationSsi
      destinationIsGroup dataType lengthBits data aieOverride).Kept := by
  unfold refuses at permit
  unfold deliverFromSwmi
  by_cases tracks : destinationIsGroup = false ∧ transactionId ≠ 0
  · obtain ⟨rfl, real⟩ := tracks
    specialize permit rfl real
    have tracked : (!false && decide (transactionId ≠ 0)) = true := by simpa using real
    rw [tracked]
    simp only [if_true]
    cases wire : SdsUserData.ofWire dataType lengthBits data with
    | none =>
      rw [wire] at permit
      exact kept.refused permit _ real rfl rfl rfl prefix_rfl rfl
    | some userData =>
      rw [wire] at permit
      dsimp only at permit ⊢
      by_cases unreachable : cell.route destinationSsi false = .unreachable
      · rw [if_pos (by simp [unreachable])] at permit
        rw [if_pos unreachable]
        exact kept.refused permit _ real rfl rfl rfl prefix_rfl rfl
      rw [if_neg unreachable]
      obtain ⟨delivered, quiet, unsent, carries⟩ := @sendAlong_spec writeType3Generic s.newReporter.1
        (cell.route destinationSsi false) sourceIssi destinationSsi false userData
        (some s.newReporter.2) aieOverride
      rw [delivered] at unsent carries ⊢
      cases encoded : encodes writeType3Generic (cell.route destinationSsi false) sourceIssi
          userData with
      | false =>
        rw [if_pos (by simp [encoded])] at permit
        rw [unsent encoded]
        exact kept.refused permit _ real rfl rfl rfl (prefix_append _ _) rfl
      | true =>
        rw [if_neg (by simp [encoded, unreachable])] at permit
        exact @Kept.tracked s _ kept _ ⟨some transactionId, sourceIssi, destinationSsi, none, none,
          s.reporters.length, s.requests.length⟩ _ quiet (carries encoded) rfl rfl rfl rfl rfl permit
          rfl rfl (by simpa using real) rfl
  · have tracked : (!destinationIsGroup && decide (transactionId ≠ 0)) = false := by
      cases destinationIsGroup <;> simp_all
    rw [tracked]
    simp only [Bool.false_eq_true, if_false]
    refine kept.quiet ?_
    split
    · exact quiet_reportDelivery ..
    next userData wire =>
      split
      · exact quiet_reportDelivery ..
      · obtain ⟨_, quiet, _, _⟩ := @sendAlong_spec writeType3Generic s
          (cell.route destinationSsi destinationIsGroup) sourceIssi destinationSsi destinationIsGroup
          userData none aieOverride
        split
        · exact quiet.trans (quiet_reportDelivery ..)
        · exact quiet

/-- A message between terminals of the cell is put on the air. -/
def relays (writeType3Generic : WriteType3) (cell : SdsCell) (sourceIssi destinationSsi : Nat)
    (destinationIsGroup : Bool) (data : SdsUserData) : Bool :=
  let route := cell.route destinationSsi destinationIsGroup
  route ≠ .unreachable && encodes writeType3Generic route sourceIssi data

/-- **A message between terminals of the cell.** One that is sent to a single terminal needs a free
key. -/
theorem kept_routeLstrSds (kept : s.Kept) (cell : SdsCell) (sourceIssi destinationSsi : Nat)
    (destinationIsGroup : Bool) (data : SdsUserData)
    (permit : destinationIsGroup = false →
      relays writeType3Generic cell sourceIssi destinationSsi destinationIsGroup data = true →
      s.pendingDeliveries.lookup (false, s.nextLocalDeliveryId) = none) :
    (s.routeLstrSds writeType3Generic cell sourceIssi destinationSsi destinationIsGroup data).Kept := by
  unfold relays at permit
  unfold routeLstrSds
  by_cases unreachable : cell.route destinationSsi destinationIsGroup = .unreachable
  · rw [if_pos unreachable]
    exact kept.quiet (quiet_sendSwmiFailure ..)
  rw [if_neg unreachable]
  cases destinationIsGroup with
  | true =>
    obtain ⟨_, quiet, _, _⟩ := @sendAlong_spec writeType3Generic s (cell.route destinationSsi true)
      sourceIssi destinationSsi true data none none
    refine kept.quiet ?_
    simp only [if_true]
    split
    · exact quiet.trans (quiet_sendSwmiFailure ..)
    · exact quiet
  | false =>
    obtain ⟨delivered, quiet, unsent, carries⟩ := @sendAlong_spec writeType3Generic s.newReporter.1
      (cell.route destinationSsi false) sourceIssi destinationSsi false data
      (some s.newReporter.2) none
    simp only [Bool.false_eq_true, if_false]
    rw [delivered] at unsent carries ⊢
    cases encoded : encodes writeType3Generic (cell.route destinationSsi false) sourceIssi data with
    | false =>
      rw [unsent encoded]
      obtain ⟨request, sends, address⟩ := @sends_sendSwmiFailure writeType3Generic
        (s.newReporter.1.note ⟨none, sourceIssi, destinationSsi, none⟩) sourceIssi
        sdsFailureDeliveryFailed data.sdsTlContext (some s.requests.length)
      refine kept.refuse sends.requests sends.pending
        ((prefix_append _ _).trans sends.reporters) sends.taken sends.queue rfl ?_
      exact ⟨rfl, request, rfl, address⟩
    | true =>
      have free := permit rfl (by simp [encoded, unreachable])
      have counter : (s.newReporter.1.sendAlong writeType3Generic
          (cell.route destinationSsi false) sourceIssi destinationSsi false data
          (some s.newReporter.2) none).1.nextLocalDeliveryId = s.nextLocalDeliveryId := by
        unfold sendAlong sendDSdsDataTo
        cases cell.route destinationSsi false <;> dsimp only <;> split <;> rfl
      rw [← counter] at free
      exact @Kept.tracked s _ kept _ ⟨none, sourceIssi, destinationSsi, data.sdsTlContext.1,
        data.sdsTlContext.2, s.reporters.length, s.requests.length⟩ _ quiet (carries encoded) rfl
        rfl rfl rfl rfl free rfl rfl (nofun) rfl

/-! ### Settling -/

/-- The item tells how the transmission of what waits under its key has ended. -/
def Tells (s : SdsBs) (item : (Bool × Nat) × TxState) : Prop :=
  ∀ pending, s.pendingDeliveries.lookup item.1 = some pending →
    (s.reporter pending.reporter).isInFinalState = true ∧
      (s.reporter pending.reporter).state = item.2

theorem tells_done (s : SdsBs) (order : List (Bool × Nat)) : ∀ item ∈ s.done order, s.Tells item := by
  intro item member pending found
  obtain ⟨entry, inside, is⟩ := mem_filterMap.mp member
  obtain ⟨final, same⟩ := ite_none_right_eq_some.mp is
  cases same
  have here := mem_entries.mp (mem_rearrange.mp inside)
  cases found.symm.trans here
  exact ⟨final, rfl⟩

theorem settle_frame (s : SdsBs) (item : (Bool × Nat) × TxState) :
    (∀ key, (s.settle writeType3Generic item).pendingDeliveries.lookup key =
      if key = item.1 then none else s.pendingDeliveries.lookup key) ∧
    (s.settle writeType3Generic item).reporters = s.reporters := by
  have erased (key : Bool × Nat) : (s.pendingDeliveries.erase item.1).lookup key =
      if key = item.1 then none else s.pendingDeliveries.lookup key :=
    lookup_erase s.pendingDeliveries item.1 key
  unfold settle
  cases found : s.pendingDeliveries.lookup item.1 with
  | none =>
    refine ⟨fun key => ?_, rfl⟩
    by_cases same : key = item.1
    · rw [if_pos same, same, found]
    · rw [if_neg same]
  | some pending =>
    dsimp only
    cases pending.transactionId with
    | some transactionId =>
      dsimp only
      unfold reportDelivery
      split <;> exact ⟨erased, rfl⟩
    | none =>
      dsimp only
      split
      · exact ⟨erased, rfl⟩
      · unfold sendSwmiFailure sendDSdsDataTo sendDStatusTo
        split <;> split <;> exact ⟨erased, rfl⟩

/-- **What waits under a key is settled as its item tells**; a result needs room at the channel. -/
theorem kept_settle (kept : s.Kept) {item : (Bool × Nat) × TxState} (tells : s.Tells item)
    (permit : item.1.1 = true → s.accepts = true) : (s.settle writeType3Generic item).Kept := by
  unfold settle
  cases found : s.pendingDeliveries.lookup item.1 with
  | none => exact kept
  | some pending =>
    dsimp only
    obtain ⟨final, ended⟩ := tells pending found
    have acked : s.acknowledged pending.request = decide (item.2 = .acknowledged) := by
      show decide ((s.reporter pending.reporter).state = .acknowledged) = _
      rw [ended]
    obtain ⟨_, kind, real⟩ := kept.held item.1 pending found
    cases transaction : pending.transactionId with
    | some transactionId =>
      have real' : transactionId ≠ 0 := fun zero =>
        real (transaction.trans (congrArg some zero))
      have takes : (s.forget item.1).accepts = true := permit (by rw [kind, transaction]; rfl)
      have sends := sends_submit (s.forget item.1) (.sdsDeliveryResult (some pending.number)
        transactionId pending.destinationIssi (decide (item.2 = .acknowledged))
        (if decide (item.2 = .acknowledged) then 0 else sdsFailureDeliveryFailed))
      rw [if_pos takes] at sends
      dsimp only
      unfold reportDelivery
      rw [if_neg real']
      refine kept.settle found sends.requests sends.pending rfl sends.taken sends.queue final ?_
      rw [acked]
      unfold Answers request
      rw [transaction]
      exact ⟨rfl, _, rfl⟩
    | none =>
      dsimp only
      by_cases delivered : item.2 = .acknowledged
      · rw [if_pos (decide_eq_true delivered)]
        refine kept.settle found rfl rfl rfl (append_nil _).symm (append_nil _).symm final ?_
        rw [acked, decide_eq_true delivered]
        unfold Answers request
        rw [transaction]
        exact ⟨rfl, rfl⟩
      · rw [if_neg (by simpa using delivered)]
        obtain ⟨request, sends, address⟩ := @sends_sendSwmiFailure writeType3Generic
          (s.forget item.1) pending.originatorIssi sdsFailureDeliveryFailed
          (pending.sdsTlProtocolId, pending.messageReference) (some pending.number)
        refine kept.settle found sends.requests sends.pending ?_ sends.taken sends.queue final ?_
        · unfold sendSwmiFailure sendDSdsDataTo sendDStatusTo
          split <;> split <;> rfl
        · rw [acked, decide_eq_false delivered]
          unfold Answers PendingSdsDelivery.request
          rw [transaction]
          exact ⟨rfl, request, rfl, address⟩

def takesResult (s : SdsBs) (item : (Bool × Nat) × TxState) : Bool := !item.1.1 || s.accepts

/-- **A tick settles what has ended.** -/
theorem kept_tickStart (kept : s.Kept) (order : List (Bool × Nat))
    (permit : everyTurn takesResult (settle writeType3Generic) s (s.done order) = true) :
    (s.tickStart writeType3Generic order).Kept := by
  -- every item of the loop still tells the truth when its turn comes
  refine (@everyTurn_foldl_mem _ _ takesResult (settle writeType3Generic)
    (fun now => now.Kept ∧ ∀ item ∈ s.done order, now.Tells item) _ s
    (fun now item member holds permit => ?_) ⟨kept, tells_done s order⟩ permit).1
  obtain ⟨kept, tells⟩ := holds
  refine ⟨kept_settle kept (tells item member) fun network => ?_, fun other inside pending found => ?_⟩
  · unfold takesResult at permit
    rw [network] at permit
    exact permit
  · obtain ⟨lookup, reporters⟩ := @settle_frame writeType3Generic now item
    rw [lookup] at found
    have same : (now.settle writeType3Generic item).reporter pending.reporter =
        now.reporter pending.reporter := by
      unfold reporter
      rw [reporters]
    rw [same]
    exact tells other inside pending (ite_none_left_eq_some.mp found).2

theorem lookup_tickStart (s : SdsBs) (order : List (Bool × Nat)) {key : Bool × Nat}
    {pending : PendingSdsDelivery}
    (found : (s.tickStart writeType3Generic order).pendingDeliveries.lookup key = some pending) :
    s.pendingDeliveries.lookup key = some pending ∧ key ∉ (s.done order).map (·.1) ∧
      (s.tickStart writeType3Generic order).reporters = s.reporters := by
  unfold tickStart at found ⊢
  generalize s.done order = items at found ⊢
  induction items generalizing s with
  | nil => exact ⟨found, not_mem_nil, rfl⟩
  | cons item rest ih =>
    obtain ⟨before, outside, same⟩ := ih (s.settle writeType3Generic item) found
    obtain ⟨lookup, reporters⟩ := @settle_frame writeType3Generic s item
    rw [lookup] at before
    obtain ⟨different, before⟩ := ite_none_left_eq_some.mp before
    refine ⟨before, ?_, same.trans reporters⟩
    rw [map_cons, mem_cons, not_or]
    exact ⟨different, outside⟩

/-- **Nothing whose transmission has ended waits longer than a tick.** -/
theorem settled_at_tick (s : SdsBs) (order : List (Bool × Nat)) {key : Bool × Nat}
    {pending : PendingSdsDelivery}
    (found : (s.tickStart writeType3Generic order).pendingDeliveries.lookup key = some pending) :
    ((s.tickStart writeType3Generic order).reporter pending.reporter).isInFinalState = false := by
  obtain ⟨before, outside, reporters⟩ := lookup_tickStart s order found
  have same : (s.tickStart writeType3Generic order).reporter pending.reporter =
      s.reporter pending.reporter := by
    unfold reporter
    rw [reporters]
  rw [same]
  cases final : (s.reporter pending.reporter).isInFinalState with
  | false => rfl
  | true =>
    refine absurd (List.mem_map.mpr ⟨(key, (s.reporter pending.reporter).state), ?_, rfl⟩) outside
    refine List.mem_filterMap.mpr ⟨⟨key, pending⟩, ?_, if_pos final⟩
    exact mem_rearrange.mpr (mem_entries.mpr before)

/-! ### Runs -/

/-- **The condition on a step.** A delivery of the network that is refused needs room at the channel
for its result, and one that is sent a transaction under which nothing waits; a message between
terminals needs a number that is not in use; the results of a tick need room at the channel; and the
link layer takes back the end of a transmission only while its delivery waits. -/
def permits (writeType3Generic : WriteType3) (s : SdsBs) : SdsEvent → Bool
  | .swmiAction cell (.sdsDeliver transactionId sourceIssi destinationSsi destinationIsGroup dataType
      lengthBits data _) =>
      destinationIsGroup || transactionId = 0 ||
        if refuses writeType3Generic cell (sourceIssi % 2 ^ 32) destinationSsi destinationIsGroup
          dataType lengthBits data then s.accepts
        else (s.pendingDeliveries.lookup (true, transactionId)).isNone
  | .rfDeliver cell sourceIssi (some pdu) =>
    match supportedParty pdu.calledPartySsi pdu.calledPartyExtension pdu.externalSubscriberNumber
        pdu.dmMsAddress with
    | none => true
    | some destinationSsi =>
      s.swmiOnline || cell.takenForGroup destinationSsi ||
        !relays writeType3Generic cell sourceIssi destinationSsi
          (cell.takenForGroup destinationSsi) pdu.userDefinedData ||
        (s.pendingDeliveries.lookup (false, s.nextLocalDeliveryId)).isNone
  | .tickStart order => everyTurn takesResult (settle writeType3Generic) s (s.done order)
  | .receipt index mark =>
    mark ≠ .reset || s.pendingDeliveries.entries.any fun entry => entry.2.reporter = index
  | _ => true

theorem quiet_sdsSubmit (sourceIssi destinationSsi : Nat) (destinationIsGroup : Bool)
    (data : SdsUserData) (context : Option Nat × Option Nat) :
    Quiet s (s.sdsSubmit writeType3Generic sourceIssi destinationSsi destinationIsGroup data
      context) := by
  have submitted := (@quiet_takeCommandId s).trans (@quiet_submit s.takeCommandId
    (.sdsSubmit s.nextCommandId sourceIssi destinationSsi destinationIsGroup data.typeIdentifier
      data.lengthBits data.toArr) rfl)
  unfold sdsSubmit
  split
  · exact submitted
  · exact submitted.trans (quiet_sendSwmiFailure ..)

theorem quiet_routeStatusDeliver (cell : SdsCell) (sourceIssi : Nat) (pdu : Option UStatus) :
    Quiet s (s.routeStatusDeliver writeType3Generic cell sourceIssi pdu) := by
  unfold routeStatusDeliver
  split
  · exact .refl s
  next destinationSsi status supported =>
    split
    · have submitted := (@quiet_takeCommandId s).trans (@quiet_submit s.takeCommandId
        (.statusSubmit s.nextCommandId sourceIssi destinationSsi status.intoRaw) rfl)
      split
      · exact submitted
      · exact submitted.trans (quiet_sendDStatusTo ..)
    · split
      · exact quiet_sendDStatusTo ..
      · exact quiet_sendDStatusTo ..

theorem kept_handleSwmiAction (kept : s.Kept) (cell : SdsCell) (action : SdsAction)
    (permit : permits writeType3Generic s (.swmiAction cell action) = true)
    (done : s.handleSwmiAction writeType3Generic cell action = some next) : next.Kept := by
  cases action with
  | sdsDeliver transactionId sourceIssi destinationSsi destinationIsGroup dataType lengthBits data
      protection =>
      cases done
      have same (observed : SdsBs) (accepts : observed.accepts = s.accepts)
          (pending : observed.pendingDeliveries = s.pendingDeliveries) (kept : observed.Kept) :
          (observed.deliverFromSwmi writeType3Generic cell transactionId (sourceIssi % 2 ^ 32)
            destinationSsi destinationIsGroup dataType lengthBits data
            (if destinationIsGroup ∧ protection = .clear then
              some (.clear (.group destinationSsi) .macResource) else none)).Kept := by
        refine kept_deliverFromSwmi kept cell _ _ _ _ _ _ _ _ fun single real => ?_
        rw [accepts, pending]
        unfold permits at permit
        dsimp only at permit
        rw [single, decide_eq_false real] at permit
        rw [single]
        by_cases refused : refuses writeType3Generic cell (sourceIssi % 2 ^ 32) destinationSsi false
          dataType lengthBits data = true
        · rwa [if_pos refused] at permit ⊢
        · rw [if_neg refused] at permit ⊢
          exact isNone_iff_eq_none.mp permit
      have observes : (s.observeRua destinationSsi dataType data).swmi = s.swmi ∧
          (s.observeRua destinationSsi dataType data).pendingDeliveries = s.pendingDeliveries := by
        unfold observeRua
        split
        · exact ⟨rfl, rfl⟩
        · split <;> exact ⟨rfl, rfl⟩
      cases destinationIsGroup with
      | true => exact same s rfl rfl kept
      | false =>
        refine same _ ?_ observes.2 (kept.quiet (quiet_observeRua ..))
        unfold accepts
        exact congrArg _ observes.1
  | sdsFailure originatorIssi destinationSsi cause sdsTlProtocolId messageReference =>
    cases done
    exact kept.quiet (quiet_sendSwmiFailure ..)
  | statusDeliver sourceIssi destinationSsi status =>
    unfold handleSwmiAction at done
    dsimp only at done
    refine kept.quiet ?_
    by_cases registered : cell.isRegistered destinationSsi = true
    · rw [if_pos registered] at done
      cases read : PreCodedStatus.ofRaw status with
      | error fault =>
        rw [read] at done
        cases done
      | ok status =>
        rw [read] at done
        cases done
        exact quiet_sendDStatusTo ..
    · rw [if_neg registered] at done
      cases route : cell.gatewayForSsi destinationSsi with
      | none =>
        rw [route] at done
        cases done
        exact .refl s
      | some gateway =>
        rw [route] at done
        cases read : PreCodedStatus.ofRaw status with
        | error fault =>
          rw [read] at done
          cases done
        | ok status =>
          rw [read] at done
          cases done
          exact quiet_sendDStatusTo ..

theorem kept_routeRfDeliver (kept : s.Kept) (cell : SdsCell) (sourceIssi : Nat)
    (pdu : Option USdsData)
    (permit : permits writeType3Generic s (.rfDeliver cell sourceIssi pdu) = true)
    (done : s.routeRfDeliver writeType3Generic cell sourceIssi pdu = some next) : next.Kept := by
  unfold routeRfDeliver at done
  cases pdu with
  | none =>
    cases done
    exact kept
  | some pdu =>
    unfold permits at permit
    dsimp only at permit
    rw [bind_some] at done
    cases supported : supportedParty pdu.calledPartySsi pdu.calledPartyExtension
        pdu.externalSubscriberNumber pdu.dmMsAddress with
    | none =>
      rw [supported] at done
      cases done
      exact kept
    | some destinationSsi =>
      rw [supported] at done permit
      dsimp only [map_some] at done permit
      by_cases online : s.swmiOnline = true
      · rw [if_pos online] at done
        cases done
        exact kept.quiet ((quiet_observeRua ..).trans (quiet_sdsSubmit ..))
      rw [if_neg online] at done
      obtain ⟨_, same⟩ := ite_none_right_eq_some.mp done
      cases same
      refine kept_routeLstrSds kept cell sourceIssi destinationSsi _ pdu.userDefinedData
        fun single relayed => ?_
      rw [relayed, single, Bool.not_eq_true _ |>.mp online] at permit
      simpa using permit

/-- **A permitted step keeps the ledger.** -/
theorem kept_step (kept : s.Kept) (event : SdsEvent)
    (permit : permits writeType3Generic s event = true)
    (stepped : s.step writeType3Generic event = some next) : next.Kept := by
  cases event with
  | swmiAction cell action => exact kept_handleSwmiAction kept cell action permit stepped
  | rfDeliver cell sourceIssi pdu => exact kept_routeRfDeliver kept cell sourceIssi pdu permit stepped
  | statusDeliver cell sourceIssi pdu =>
    cases stepped
    exact kept.quiet (quiet_routeStatusDeliver ..)
  | fromBrew cell sourceIssi destIssi data =>
    change s.rxSdsFromBrew writeType3Generic cell sourceIssi destIssi data = some next at stepped
    unfold rxSdsFromBrew at stepped
    refine kept.quiet ?_
    split at stepped
    · cases stepped
      exact quiet_sdsSubmit ..
    · split at stepped
      · cases stepped
        exact .refl s
      · obtain ⟨_, same⟩ := ite_none_right_eq_some.mp stepped
        cases same
        exact quiet_sendDSdsDataTo ..
  | fromControl cell sourceSsi destSsi destIsGroup lenBits payload =>
    change s.rxSdsFromControl writeType3Generic cell sourceSsi destSsi destIsGroup lenBits payload =
      some next at stepped
    unfold rxSdsFromControl at stepped
    refine kept.quiet ?_
    split at stepped
    · cases stepped
      exact quiet_takeCommandId.trans (quiet_submit rfl)
    · generalize (if destIsGroup = true then cell.hasGroupMembers destSsi
        else cell.isRegistered destSsi) = local' at stepped
      split at stepped
      · cases stepped
        exact .refl s
      · obtain ⟨_, same⟩ := ite_none_right_eq_some.mp stepped
        cases same
        exact quiet_sendDSdsDataTo ..
  | tickStart order =>
    cases stepped
    exact kept_tickStart kept order permit
  | receipt index mark =>
    change s.markReceipt index mark = some next at stepped
    unfold markReceipt at stepped
    cases marked : (s.reporter index).apply mark with
    | error fault =>
      rw [marked] at stepped
      cases stepped
    | ok reporter =>
      rw [marked] at stepped
      cases stepped
      refine kept.mark fun number request noted here => ?_
      by_contra settled
      have final := kept.ended number request index noted here settled
      unfold permits at permit
      rw [apply_of_final final marked] at permit
      obtain ⟨entry, inside, same⟩ := any_eq_true.mp
        ((Bool.or_eq_true_iff.mp permit).resolve_left (by decide))
      have found := mem_entries.mp inside
      obtain ⟨waitsFor, _⟩ := kept.held entry.1 entry.2 found
      refine settled ⟨entry.1, ?_⟩
      show (s.pendingDeliveries.lookup entry.1).map _ = some number
      rw [found]
      refine congrArg some (kept.apart _ number _ request index waitsFor noted ?_ here)
      exact congrArg some (of_decide_eq_true same)
  | link online room =>
    cases stepped
    refine kept.quiet ⟨[], [], ⟨rfl, rfl, prefix_rfl, ?_, (append_nil _).symm⟩, .nil⟩
    rw [append_nil]
    unfold taken
    cases s.swmi <;> rfl

theorem kept_start {s : SdsBs} (start : (machine writeType3Generic).start s) : s.Kept := by
  obtain ⟨swmi, blank, rfl⟩ := start
  have silent : (new swmi).taken = [] := by
    cases swmi with
    | none => rfl
    | some endpoint =>
      show (endpoint.handed.filter (·.2)).map (·.1) = []
      rw [blank endpoint rfl]
      rfl
  constructor
  · refine (Docket.Balanced.init _).of_count rfl ?_ fun number => ?_
    · rfl
    · show ((new swmi).taken.filterMap SdsSubmission.number ++ []).count number = 0
      rw [silent]
      rfl
  · intro key pending found
    exact nomatch (AList.lookup_empty key).symm.trans found
  · exact fun _ _ _ noted => nomatch noted
  · exact fun _ _ _ noted => nomatch noted
  · exact fun _ _ _ _ _ noted => nomatch noted
  · exact fun _ _ _ noted => nomatch noted
  · intro number transactionId destinationIssi delivered cause told
    rw [silent] at told
    exact nomatch told
  · exact fun _ member => nomatch member

/-- What came of a delivery: nothing while it waits, and in the end what it is owed. -/
structure Reported (s : SdsBs) (number : Nat) (request : SdsRequest) : Prop where
  waiting : s.Waits number → request.reporter.isSome ∧ s.results number = [] ∧ s.failures number = []
  sent : ∀ index ∈ request.reporter, ∃ downlink ∈ s.queue, downlink.request.txReporter = some index
  ended : ¬ s.Waits number → ∀ index ∈ request.reporter, (s.reporter index).isInFinalState = true
  network : ∀ transactionId, request.transactionId = some transactionId → ¬ s.Waits number →
    ∃ cause, s.results number = [.sdsDeliveryResult (some number) transactionId
      request.destinationIssi (s.acknowledged request) cause]
  cell : request.transactionId = none → ¬ s.Waits number →
    s.failures number = if s.acknowledged request then [] else [request.originatorIssi]

theorem Kept.reported (kept : s.Kept) {number : Nat} {request : SdsRequest}
    (noted : s.requests[number]? = some request) : s.Reported number request := by
  have known : number < s.requests.length := (List.getElem?_eq_some_iff.mp noted).1
  have owes : s.owed number =
      if request.transactionId.isNone && s.acknowledged request then 0 else 1 := by
    unfold owed
    rw [noted]
  refine ⟨fun waits => ?_, fun index here => kept.carried number request index noted here,
    fun settled index here => kept.ended number request index noted here settled,
    fun transactionId transaction settled => ?_, fun local' settled => ?_⟩
  · have silent := kept.balanced.silent number (.inr waits)
    rw [count_answered, Nat.add_eq_zero_iff, length_eq_zero_iff, length_eq_zero_iff]
      at silent
    obtain ⟨key, here⟩ := waits
    obtain ⟨pending, found, rfl⟩ := map_eq_some_iff.mp here
    obtain rfl := some.inj ((kept.held key pending found).1.symm.trans noted)
    exact ⟨rfl, silent⟩
  · have paid := kept.balanced.paid number known settled
    rw [count_answered, owes, transaction] at paid
    have none : s.failures number = [] := by
      refine eq_nil_iff_forall_not_mem.mpr fun address member => ?_
      obtain ⟨downlink, inside, rfl⟩ := mem_map.mp member
      obtain ⟨member, failureOf⟩ := mem_filter.mp inside
      obtain ⟨other, noted', local', _⟩ := kept.failure downlink member number
        (of_decide_eq_true failureOf)
      cases noted.symm.trans noted'
      exact nomatch transaction.symm.trans local'
    rw [none] at paid
    obtain ⟨message, single⟩ := length_eq_one_iff.mp (show (s.results number).length = 1 from paid)
    obtain ⟨_, _, _, cause, rfl, member⟩ := mem_results.mp (single ▸ mem_singleton_self message)
    obtain ⟨other, noted', transaction', rfl, rfl⟩ := kept.result _ _ _ _ _ member
    cases noted.symm.trans noted'
    cases transaction.symm.trans transaction'
    exact ⟨cause, single⟩
  · have paid := kept.balanced.paid number known settled
    rw [count_answered, owes, local'] at paid
    have none : s.results number = [] := by
      refine eq_nil_iff_forall_not_mem.mpr fun message member => ?_
      obtain ⟨_, _, _, _, rfl, taken⟩ := mem_results.mp member
      obtain ⟨other, noted', transaction, _⟩ := kept.result _ _ _ _ _ taken
      cases noted.symm.trans noted'
      exact nomatch local'.symm.trans transaction
    rw [none, length_nil, Nat.zero_add] at paid
    cases acked : s.acknowledged request with
    | true =>
      rw [acked] at paid
      exact length_eq_zero_iff.mp paid
    | false =>
      rw [acked] at paid
      obtain ⟨address, single⟩ := length_eq_one_iff.mp paid
      obtain ⟨downlink, inside, rfl⟩ := mem_map.mp (single ▸ mem_singleton_self address)
      obtain ⟨member, failureOf⟩ := mem_filter.mp inside
      obtain ⟨other, noted', _, same⟩ := kept.failure downlink member number
        (of_decide_eq_true failureOf)
      cases noted.symm.trans noted'
      rw [single, same]
      rfl

/-- **A delivery of the network to one terminal is one more request**, and a refused one is answered
in the same step. -/
theorem requests_deliverFromSwmi (s : SdsBs) (cell : SdsCell)
    {transactionId : Nat} (real : transactionId ≠ 0)
    (sourceIssi destinationSsi dataType lengthBits : Nat) (data : List Nat)
    (aieOverride : Option (AieRequest Unit)) :
    ∃ reporter, (s.deliverFromSwmi writeType3Generic cell transactionId sourceIssi destinationSsi false
      dataType lengthBits data aieOverride).requests =
        s.requests ++ [⟨some transactionId, sourceIssi, destinationSsi, reporter⟩] ∧
      reporter.isNone = refuses writeType3Generic cell sourceIssi destinationSsi false dataType
        lengthBits data := by
  have reports (noted : SdsBs) (number : Option Nat) (cause : Nat) :
      (noted.reportDelivery number transactionId destinationSsi false cause).requests =
        noted.requests := by
    unfold reportDelivery
    rw [if_neg real]
    rfl
  unfold deliverFromSwmi refuses
  have tracked : (!false && decide (transactionId ≠ 0)) = true := by simpa using real
  rw [tracked]
  simp only [if_true]
  cases SdsUserData.ofWire dataType lengthBits data with
  | none => exact ⟨none, reports .., rfl⟩
  | some userData =>
    dsimp only
    by_cases unreachable : cell.route destinationSsi false = .unreachable
    · rw [if_pos unreachable]
      exact ⟨none, reports .., by simp [unreachable]⟩
    rw [if_neg unreachable]
    obtain ⟨delivered, ⟨_, _, sends, _⟩, unsent, _⟩ := @sendAlong_spec writeType3Generic
      s.newReporter.1 (cell.route destinationSsi false) sourceIssi destinationSsi false userData
      (some s.newReporter.2) aieOverride
    rw [delivered] at unsent ⊢
    cases encoded : encodes writeType3Generic (cell.route destinationSsi false) sourceIssi
        userData with
    | false =>
      rw [unsent encoded]
      exact ⟨none, reports .., by simp⟩
    | true =>
      refine ⟨some s.newReporter.2, ?_, by simp [unreachable]⟩
      exact congrArg (· ++ _) sends.requests

theorem requests_routeLstrSds (s : SdsBs) (cell : SdsCell) (sourceIssi destinationSsi : Nat)
    (data : SdsUserData) (reached : cell.route destinationSsi false ≠ .unreachable) :
    ∃ reporter, (s.routeLstrSds writeType3Generic cell sourceIssi destinationSsi false data).requests =
      s.requests ++ [⟨none, sourceIssi, destinationSsi, reporter⟩] := by
  unfold routeLstrSds
  rw [if_neg reached]
  obtain ⟨delivered, ⟨_, _, sends, _⟩, unsent, _⟩ := @sendAlong_spec writeType3Generic
    s.newReporter.1 (cell.route destinationSsi false) sourceIssi destinationSsi false data
    (some s.newReporter.2) none
  simp only [Bool.false_eq_true, if_false]
  rw [delivered] at unsent ⊢
  cases encoded : encodes writeType3Generic (cell.route destinationSsi false) sourceIssi data with
  | false =>
    rw [unsent encoded]
    obtain ⟨_, failed, _⟩ := @sends_sendSwmiFailure writeType3Generic
      (s.newReporter.1.note ⟨none, sourceIssi, destinationSsi, none⟩) sourceIssi
      sdsFailureDeliveryFailed data.sdsTlContext (some s.requests.length)
    exact ⟨none, failed.requests⟩
  | true =>
    exact ⟨some s.newReporter.2, congrArg (· ++ _) sends.requests⟩

/-- **Every delivery to one terminal is reported once.** In every state that permitted steps reach,
every delivery so far was reported as it is owed. The network's delivery to one terminal is one more
delivery, answered in the same step exactly if it is refused; a message between terminals that finds
a route is one more, too; and no delivery whose transmission has ended waits after a tick. -/
theorem reported_once (reachable : Reachable (machine writeType3Generic)
      (fun s event => permits writeType3Generic s event = true) s) :
    (∀ number request, s.requests[number]? = some request → s.Reported number request) ∧
    (∀ cell transactionId sourceIssi destinationSsi dataType lengthBits data protection next,
      transactionId ≠ 0 →
      s.step writeType3Generic (.swmiAction cell (.sdsDeliver transactionId sourceIssi destinationSsi
        false dataType lengthBits data protection)) = some next →
      ∃ reporter, next.requests =
          s.requests ++ [⟨some transactionId, sourceIssi % 2 ^ 32, destinationSsi, reporter⟩] ∧
        reporter.isNone = refuses writeType3Generic cell (sourceIssi % 2 ^ 32) destinationSsi false
          dataType lengthBits data) ∧
    (∀ (cell : SdsCell) sourceIssi (pdu : USdsData) destinationSsi next, s.swmiOnline = false →
      supportedParty pdu.calledPartySsi pdu.calledPartyExtension pdu.externalSubscriberNumber
        pdu.dmMsAddress = some destinationSsi →
      cell.takenForGroup destinationSsi = false → cell.route destinationSsi false ≠ .unreachable →
      s.step writeType3Generic (.rfDeliver cell sourceIssi (some pdu)) = some next →
      ∃ reporter, next.requests = s.requests ++ [⟨none, sourceIssi, destinationSsi, reporter⟩]) ∧
    ∀ order next, s.step writeType3Generic (.tickStart order) = some next →
      ∀ key pending, next.pendingDeliveries.lookup key = some pending →
        (next.reporter pending.reporter).isInFinalState = false := by
  have kept : s.Kept := reachable.invariant (fun _ => kept_start)
    fun state event next kept permit stepped => kept_step kept event permit stepped
  refine ⟨fun number request noted => kept.reported noted, ?_, ?_, ?_⟩
  · intro cell transactionId sourceIssi destinationSsi dataType lengthBits data protection next real
      stepped
    cases stepped
    have observed : (s.observeRua destinationSsi dataType data).requests = s.requests := by
      unfold observeRua
      split
      · rfl
      · split <;> rfl
    rw [← observed]
    exact requests_deliverFromSwmi (s.observeRua destinationSsi dataType data) cell real ..
  · intro cell sourceIssi pdu destinationSsi next offline supported single reached stepped
    change s.routeRfDeliver writeType3Generic cell sourceIssi (some pdu) = some next at stepped
    unfold routeRfDeliver at stepped
    rw [bind_some, supported] at stepped
    dsimp only [map_some] at stepped
    rw [offline] at stepped
    obtain ⟨_, same⟩ := ite_none_right_eq_some.mp stepped
    cases same
    rw [single]
    exact requests_routeLstrSds s cell sourceIssi destinationSsi pdu.userDefinedData reached
  · intro order next stepped key pending found
    cases stepped
    exact settled_at_tick s order found

def twoTerminals : SdsCell where
  isRegistered issi := issi = 1001 ∨ issi = 1002
  hasGroupMembers _ := false
  dmGateways := ∅

/-- A text of two octets from the network, and what the link layer tells of it. -/
def deliverToFirst (transactionId : Nat) : SdsEvent :=
  .swmiAction twoTerminals (.sdsDeliver transactionId 2001 1001 false 3 16 [72, 105] .clear)

def connected : SdsBs := new (some ⟨true, 100, []⟩)

theorem connected_start : (machine fun _ _ => .ok []).start connected :=
  ⟨_, fun _ same => by cases same; rfl, rfl⟩

/-- A delivery that is acknowledged is reported as delivered. -/
theorem reported_once_acknowledged : ∃ s : SdsBs, s.requests = [⟨some 7, 2001, 1001, some 0⟩] ∧
    s.results 0 = [.sdsDeliveryResult (some 0) 7 1001 true 0] ∧
    s.Reported 0 ⟨some 7, 2001, 1001, some 0⟩ := by
  obtain ⟨s, executed, good⟩ := (any_eq_true _ _).mp
    (show (execPermitted (machine fun _ _ => .ok []) (permits fun _ _ => .ok []) connected
      [deliverToFirst 7, .receipt 0 .transmitted, .receipt 0 .acknowledged, .tickStart []]).any
      (fun s => decide (s.requests = [⟨some 7, 2001, 1001, some 0⟩] ∧
        s.results 0 = [.sdsDeliveryResult (some 0) 7 1001 true 0])) = true by decide +kernel)
  obtain ⟨noted, told⟩ := of_decide_eq_true good
  have run := execPermitted_runs (fun _ _ permit => permit) executed
  exact ⟨s, noted, told, (reported_once ⟨connected, connected_start, run⟩).1 0 _ (by rw [noted]; rfl)⟩

/-- **The first of two deliveries with one transaction gets no result**: the second one pushes it out,
and is the only one that is reported, though both were acknowledged. -/
theorem first_delivery_pushed_out : ∃ s, Reachable (machine fun _ _ => .ok []) always s ∧
    s.requests = [⟨some 7, 2001, 1001, some 0⟩, ⟨some 7, 2001, 1001, some 1⟩] ∧
    s.pendingDeliveries.entries = [] ∧ s.acknowledged ⟨some 7, 2001, 1001, some 0⟩ ∧
    s.results 0 = [] ∧ s.results 1 = [.sdsDeliveryResult (some 1) 7 1001 true 0] ∧
    ¬ s.Reported 0 ⟨some 7, 2001, 1001, some 0⟩ := by
  obtain ⟨s, reached, noted, none, acked, silent, told⟩ := reachable_exec
    (fun s => s.requests = [⟨some 7, 2001, 1001, some 0⟩, ⟨some 7, 2001, 1001, some 1⟩] ∧
      s.pendingDeliveries.entries = [] ∧ s.acknowledged ⟨some 7, 2001, 1001, some 0⟩ ∧
      s.results 0 = [] ∧ s.results 1 = [.sdsDeliveryResult (some 1) 7 1001 true 0])
    [deliverToFirst 7, deliverToFirst 7, .receipt 0 .transmitted, .receipt 0 .acknowledged,
      .receipt 1 .transmitted, .receipt 1 .acknowledged, .tickStart []] connected_start
    (by decide +kernel)
  refine ⟨s, reached, noted, none, acked, silent, told, fun reported => ?_⟩
  have settled : ¬ s.Waits 0 := by
    rintro ⟨key, waits⟩
    obtain ⟨pending, found, _⟩ := map_eq_some_iff.mp waits
    have member := mem_entries.mpr found
    rw [none] at member
    cases member
  obtain ⟨cause, result⟩ := reported.network 7 rfl settled
  exact nomatch silent.symm.trans result

end SdsBs

end Bluestation
