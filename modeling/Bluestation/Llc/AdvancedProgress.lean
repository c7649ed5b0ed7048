/-
**A ready link that holds messages goes on.**

* `Terminal.Tended` — the queue of the link is lively, and the timer runs for the message that asks.
* `submit_goes_on` — a tended link waits for an acknowledgement under a timer or hands segments to
  the MAC.
* `link_goes_on` — so does every link of a run whose acknowledgements leave work.
* `link_stuck` — an acknowledgement of the message that asked, and of no other, ends all progress.
-/

import Bluestation.Llc.AdvancedLively
import Bluestation.Llc.AdvancedPending

namespace Bluestation

open Bits Machines List Option Except AdvancedTxSdu AdvancedLink Terminal AdvancedLlc

variable {bound first next nextTxNs position index limit : Nat} {indices : List Nat}
  {tx : List AdvancedTxSdu} {sdu new : AdvancedTxSdu} {queue : List AlPdu} {now : TdmaTime}
  {link : AdvancedLink} {blocks : List AlAckBlock} {terminal after : Terminal}

/-! ### Tended messages -/

/-- A message that asks is under way, the timer runs only for one that asks, there is something to
send, and it was not sent again too often. -/
structure AdvancedTxSdu.Tended (limit : Nat) (sdu : AdvancedTxSdu) : Prop where
  asking : sdu.acknowledgementRequested → sdu.attemptReporter.isSome
  timed : sdu.sentAt.isSome → sdu.acknowledgementRequested
  parts : sdu.segments ≠ []
  often : sdu.retransmissions ≤ limit

/-- The queue is lively and its messages are tended. -/
structure AdvancedLink.Tended (link : AdvancedLink) : Prop where
  lively : Lively link.windowSize link.tx
  each : ∀ sdu ∈ link.tx, sdu.Tended link.maxSduRetransmissions

def Terminal.Tended (terminal : Terminal) : Prop := ∀ link ∈ terminal.link, link.Tended

namespace AdvancedTxSdu.Tended

variable (tended : sdu.Tended limit)

include tended

theorem idle (parts : new.segments = sdu.segments) (asks : new.acknowledgementRequested = false)
    (timer : new.sentAt = none) (often : new.retransmissions ≤ limit) : new.Tended limit where
  asking asked := by
    rw [asks] at asked
    cases asked
  timed runs := by
    rw [timer] at runs
    cases runs
  parts := parts ▸ tended.parts
  often := often

theorem observeAttempt (now : TdmaTime) : (sdu.observeAttempt now).Tended limit := by
  have reached (attempt : sdu.attemptReporter.isSome) : AdvancedTxSdu.Tended limit
      { sdu with
        reporter := if sdu.reporter = .pending then .transmitted else sdu.reporter
        sentAt := if sdu.acknowledgementRequested then sdu.sentAt.or (some now) else sdu.sentAt } := by
    refine ⟨fun _ => attempt, fun runs => ?_, tended.parts, tended.often⟩
    by_cases asks : sdu.acknowledgementRequested
    · exact asks
    · rw [if_neg asks] at runs
      exact tended.timed runs
  unfold AdvancedTxSdu.observeAttempt
  split
  · exact reached (by simp [*])
  · exact reached (by simp [*])
  · exact tended.idle rfl rfl rfl tended.often
  · exact tended.idle rfl rfl rfl tended.often
  · exact tended

theorem timeOut (late : sdu.timeOut limit = some new) : new.Tended limit := by
  unfold AdvancedTxSdu.timeOut at late
  split at late
  · cases late
    exact tended.idle rfl rfl rfl tended.often
  · split at late
    · cases late
    next few =>
      cases late
      exact tended.idle rfl rfl rfl (Nat.lt_of_not_le few)

theorem askedAgain (block : AlAckBlock) (segmentLimit : Nat)
    (often : (sdu.askedAgain block segmentLimit).retransmissions ≤ limit) :
    (sdu.askedAgain block segmentLimit).Tended limit :=
  tended.idle (recover_same { sdu with ackRequestRepetitions := 0 } block segmentLimit).1.segments
    rfl rfl often

theorem offered (requestAcknowledgement : Bool) (timer : sdu.sentAt = none) :
    (sdu.offered requestAcknowledgement).Tended limit where
  asking _ := rfl
  timed runs := by
    rw [AdvancedTxSdu.offered, timer] at runs
    cases runs
  parts := tended.parts
  often := tended.often

end AdvancedTxSdu.Tended

theorem fresh_idle (message ns : Nat) (segments : List (List Bool)) (endpointId : Nat) :
    ¬ (fresh message ns segments endpointId).inFlight := Bool.false_ne_true

theorem advancedSegments_ne_nil {tlSdu : List Bool} {segments : List (List Bool)}
    (cut : advancedSegments tlSdu = .ok segments) : segments ≠ [] := by
  have evenly (length count : Nat) (bits : List Bool) : cutEvenly length count bits ≠ [] := by
    cases count with
    | zero => exact cons_ne_nil _ _
    | succ count => exact cons_ne_nil _ _
  obtain ⟨checksum, -, cut⟩ := bind_eq_ok.mp cut
  dsimp only at cut
  split at cut
  · cases cut
    exact cons_ne_nil _ _
  · cases cut
    exact evenly _ _ _

/-- The acknowledgement leaves work; the terminal confirms no smaller window while messages are in
flight, and allows no fewer repetitions than a message has had. -/
def Terminal.Attentive (terminal : Terminal) : TerminalEvent → Prop
  | .alAck pdu => ∀ link ∈ terminal.link, link.reset = none → link.LeavesWork pdu.blocks
  | .alSetup _ request => request.report = 0 ∨ request.report = 4 → ∀ link ∈ terminal.link,
      (link.windowSize ≤ negotiatedWindow request ∨ ∀ sdu ∈ link.tx, ¬ sdu.inFlight) ∧
        ∀ sdu ∈ link.tx, sdu.retransmissions ≤ request.sduRetransmissions
  | _ => True

/-! ### What every event preserves -/

/-- Messages of which there is something to send, and that are tended unless one has failed. -/
def AckProgress.Tended (limit : Nat) (progress : AdvancedLink.AckProgress) : Prop :=
  (∀ sdu ∈ progress.tx, sdu.segments ≠ []) ∧
    (progress.failedNs = none → ∀ sdu ∈ progress.tx, sdu.Tended limit)

theorem handleBlock_tended (link : AdvancedLink) (block : AlAckBlock)
    (tended : ∀ sdu ∈ tx, sdu.Tended link.maxSduRetransmissions) :
    AckProgress.Tended link.maxSduRetransmissions (link.handleBlock block tx) := by
  have same : AckProgress.Tended link.maxSduRetransmissions ⟨tx, [], none⟩ :=
    ⟨fun sdu member => (tended sdu member).parts, fun _ => tended⟩
  unfold handleBlock
  split
  · exact same
  · split
    · exact same
    next found there =>
      split
      · exact same
      · split
        · exact ⟨fun sdu member => (tended sdu (mem_of_mem_eraseIdx member)).parts,
            fun _ sdu member => tended sdu (mem_of_mem_eraseIdx member)⟩
        · have old := tended found (mem_of_getElem? there)
          refine ⟨fun sdu member => ?_, fun going sdu member => ?_⟩
          · rcases mem_or_eq_of_mem_set member with kept | rfl
            · exact (tended sdu kept).parts
            · exact (recover_same { found with ackRequestRepetitions := 0 } block
                link.maxSegmentRetransmissions).1.segments ▸ old.parts
          · rcases mem_or_eq_of_mem_set member with kept | rfl
            · exact tended sdu kept
            · refine old.askedAgain block _ ?_
              by_contra often
              dsimp only at going
              rw [if_pos (Nat.lt_of_not_le often)] at going
              cases going

theorem handleBlocks_tended (link : AdvancedLink) (blocks : List AlAckBlock)
    (tended : ∀ sdu ∈ tx, sdu.Tended link.maxSduRetransmissions) :
    AckProgress.Tended link.maxSduRetransmissions (link.handleBlocks blocks tx) := by
  induction blocks generalizing tx with
  | nil => exact ⟨fun sdu member => (tended sdu member).parts, fun _ => tended⟩
  | cons block rest ih =>
    have one := handleBlock_tended link block tended
    unfold handleBlocks
    dsimp only
    split
    · exact one
    next going =>
      exact ih (one.2 (not_isSome_iff_eq_none.mp going))

theorem AdvancedLink.Tended.relink {other : AdvancedLink} (tended : other.Tended)
    (is : after.link = some other) : after.Tended := by
  intro link here
  rw [is, mem_some_iff] at here
  exact here ▸ tended

/-- The link changes, but not its window, its limit and its queue. -/
theorem AdvancedLink.Tended.replace {other : AdvancedLink} (tended : link.Tended)
    (is : after.link = some other) (windowSize : other.windowSize = link.windowSize)
    (limit : other.maxSduRetransmissions = link.maxSduRetransmissions) (tx : other.tx = link.tx) :
    after.Tended := by
  refine .relink ⟨?_, ?_⟩ is
  · rw [windowSize, tx]
    exact tended.lively
  · rw [limit, tx]
    exact tended.each

theorem AdvancedLink.Tended.near (tended : link.Tended)
    (sequenced : Sequenced link.windowSize nextTxNs link.tx) (narrow : link.windowSize ≤ 3)
    (found : link.tx[position]? = some sdu) (asks : sdu.acknowledgementRequested) :
    NearOldest link.windowSize link.tx position sdu := by
  have under := (tended.each sdu (mem_of_getElem? found)).asking asks
  exact sequenced.nearOldest narrow found (Bool.or_eq_true_iff.mpr (.inl under))

/-- The messages change in place. -/
theorem AdvancedLink.Tended.follow (tended : link.Tended)
    (sequenced : Sequenced link.windowSize nextTxNs link.tx) (narrow : link.windowSize ≤ 3)
    (follows : List.Forall₂ Follows link.tx tx) : Lively link.windowSize tx := by
  refine tended.lively.change follows.length_eq.symm
    (fun position sdu found asks => tended.near sequenced narrow found asks) ?_
  intro position old new found found'
  obtain ⟨small, rfl⟩ := List.getElem?_eq_some_iff.mp found
  obtain ⟨small', rfl⟩ := List.getElem?_eq_some_iff.mp found'
  exact follows.get small small'

theorem AdvancedLink.Tended.of_idle (positive : 1 ≤ link.windowSize)
    (idle : ∀ sdu ∈ link.tx, ¬ sdu.inFlight)
    (each : ∀ sdu ∈ link.tx, sdu.Tended link.maxSduRetransmissions) : link.Tended :=
  ⟨.of_idle positive idle, each⟩

namespace Terminal.Tended

theorem of_none (is : terminal.link = none) : terminal.Tended := by
  intro link here
  rw [is] at here
  exact absurd here (not_mem_none link)

/-! #### Requests -/

variable (tended : terminal.Tended) (sound : terminal.Sound fun windowSize => windowSize)

include tended sound

theorem offerToLink {prim : TlaTlDataReqAl}
    (taken : terminal.offerToLink prim = .ok (some after)) : after.Tended := by
  unfold Terminal.offerToLink at taken
  cases is : terminal.link with
  | none =>
    rw [is] at taken
    cases taken
  | some link =>
    rw [is] at taken
    obtain ⟨result, offered, taken⟩ := bind_eq_ok.mp taken
    rw [ok.injEq] at taken
    obtain ⟨link', rfl, rfl⟩ := map_eq_some_iff.mp taken
    unfold rxTlaTldataReqAl at offered
    split at offered
    · cases offered
    · obtain ⟨segments, cut, offered⟩ := bind_eq_ok.mp offered
      cases offered
      obtain ⟨lively, each⟩ := tended link is
      refine .relink ⟨lively.push (sound link is).1.1 (fresh_idle _ _ _ _), fun sdu member => ?_⟩ rfl
      rcases mem_append.mp member with old | fresh
      · exact each sdu old
      · rw [mem_singleton.mp fresh]
        exact ⟨nofun, nofun, advancedSegments_ne_nil cut, Nat.zero_le _⟩

theorem request {prim : TlaTlDataReqAl}
    (stepped : terminal.rxTlaTldataReqAlMessage now prim = .ok after) : after.Tended := by
  obtain ⟨result, offered, stepped⟩ := bind_eq_ok.mp stepped
  split at stepped
  · cases stepped
    exact tended.offerToLink sound offered
  · cases stepped
    unfold queuePendingAdvancedData
    dsimp only
    split
    · exact tended
    · exact tended

/-- **Waiting requests move to the link.** -/
theorem drainPending {entries : List PendingAdvancedData}
    (stepped : drainPending now entries terminal = .ok after) : after.Tended := by
  induction entries generalizing terminal with
  | nil =>
    unfold drainPending at stepped
    cases stepped
    exact tended
  | cons entry rest ih =>
    unfold drainPending at stepped
    split at stepped
    · have expired : Terminal.Tended { terminal with
          reported := terminal.reported ++ [⟨entry.prim.message, .lost⟩] } := tended
      exact ih expired sound stepped
    · obtain ⟨result, offered, stepped⟩ := bind_eq_ok.mp stepped
      split at stepped
      · exact ih (tended.offerToLink sound offered) (sound.offerToLink offered).1 stepped
      · cases stepped
        exact tended

/-! #### PDUs of the terminal -/

omit tended in
/-- A reset keeps messages of which nothing was handed to the MAC. -/
theorem beginReset (is : terminal.link = some link) (inPlace : link.reset = none)
    (parts : ∀ sdu ∈ link.tx, sdu.segments ≠ []) (failedNs : Nat) :
    (terminal.beginAdvancedLinkReset failedNs).Tended := by
  have never := (QueueSound.splitForReset failedNs link.tx).1
  have kept := (splitForReset_messages failedNs link.tx).1
  unfold beginAdvancedLinkReset
  rw [is]
  dsimp only
  rw [inPlace]
  have blank : ∀ sdu ∈ (link.resetting (splitForReset failedNs link.tx).1
      (if link.resetSetup.encodable then .pending else .lost)).tx,
      ¬ sdu.inFlight ∧ sdu.Tended link.maxSduRetransmissions := by
    intro sdu member
    obtain ⟨place, small, rfl⟩ := mem_mapIdx.mp member
    have old := getElem_mem small
    have unused := never _ old
    simp only [neverOffered, Bool.and_eq_true,
      decide_eq_true_eq, Bool.not_eq_true'] at unused
    obtain ⟨⟨⟨⟨⟨⟨⟨attempt, timer⟩, -⟩, asks⟩, -⟩, often⟩, -⟩, -⟩ := unused
    have whole := parts _ (kept.subset old)
    refine ⟨?_, ?_, ?_, whole, ?_⟩
    · simp [inFlight, attempt, timer]
    · simp [asks]
    · simp [timer]
    · exact often ▸ Nat.zero_le _
  have tended : (link.resetting (splitForReset failedNs link.tx).1
      (if link.resetSetup.encodable then .pending else .lost)).Tended :=
    .of_idle (sound link is).1.1 (fun sdu member => (blank sdu member).1)
      fun sdu member => (blank sdu member).2
  exact tended.relink rfl

/-- **An acknowledgement that leaves work.** -/
theorem alAck (pdu : AlAck) (leaves : terminal.Attentive (.alAck pdu)) :
    (terminal.handleAlAck now pdu).Tended := by
  unfold handleAlAck
  split
  · exact tended
  next link is =>
    obtain ⟨narrow, queued⟩ := sound link is
    split
    · exact tended
    next inPlace =>
      rw [not_isSome_iff_eq_none] at inPlace
      obtain ⟨kept, subset, -⟩ := queued.retireReported pdu.blocks narrow.2
      have old : ∀ sdu ∈ (link.retireReported pdu.blocks).2, sdu.Tended link.maxSduRetransmissions :=
        fun sdu member => (tended link is).each sdu (subset member)
      obtain ⟨parts, each⟩ := handleBlocks_tended link pdu.blocks old
      have sound' := (kept.handleBlocks link pdu.blocks narrow.2).1
      dsimp only
      split
      · refine beginReset (fun other here => ?_) rfl ?_ ?_ _
        · replace here := mem_some_iff.mp here
          subst here
          exact ⟨narrow, sound'⟩
        · exact inPlace
        · exact parts
      next heard =>
        have lively := (leavesWork_iff narrow.2 queued heard).mpr (leaves link is inPlace)
        exact .relink ⟨lively, each heard⟩ rfl

omit tended sound in
theorem negotiated (endpointId : Nat) (request : AlSetup) (awaiting : Bool) :
    (negotiatedLink now endpointId request awaiting).Tended :=
  ⟨.inl rfl, nofun⟩

/-- **A setup.** -/
theorem alSetup {endpointId : Nat} {request : AlSetup}
    (agrees : terminal.Attentive (.alSetup endpointId request))
    (stepped : terminal.handleAlSetup now endpointId request = .ok after) : after.Tended := by
  unfold handleAlSetup at stepped
  split at stepped
  · cases stepped
    exact tended
  · split at stepped
    · cases stepped
      exact tended
    · dsimp only at stepped
      generalize (decide (request.report = 1) && _) = awaiting at stepped
      have fresh : Terminal.Sound (fun windowSize => windowSize) { terminal with
          link := some (negotiatedLink now endpointId request awaiting) } :=
        .negotiated endpointId request awaiting
      split at stepped
      next success =>
        cases is : terminal.link with
        | none =>
          rw [is] at stepped
          exact drainPending ((negotiated endpointId request awaiting).relink rfl) fresh stepped
        | some link =>
          rw [is] at stepped
          obtain ⟨window, often⟩ := agrees success link is
          obtain ⟨lively, each⟩ := tended link is
          have confirmed := sound.confirmed (fresh _ rfl).1 is window
          refine drainPending (.relink ⟨?_, fun sdu member => ?_⟩ rfl) confirmed stepped
          · rcases window with wider | idle
            · exact lively.mono wider
            · exact .of_idle (fresh _ rfl).1.1 idle
          · obtain ⟨asking, timed, parts, -⟩ := each sdu member
            exact ⟨asking, timed, parts, often sdu member⟩
      · generalize setupResponse _ _ = response at stepped
        have renewed : Terminal.Sound (fun windowSize => windowSize) { terminal.dropLink with
            link := some (negotiatedLink now endpointId request awaiting) } :=
          .negotiated endpointId request awaiting
        exact drainPending ((negotiated endpointId request awaiting).relink rfl)
          (renewed.enqueue response) stepped

omit sound

theorem alData {pdu : BitBuffer} (stepped : terminal.handleAlData pdu = .ok after) :
    after.Tended := by
  unfold handleAlData at stepped
  split at stepped
  · cases stepped
    exact tended
  next link is =>
    obtain ⟨⟨receiver, outputs⟩, handled, stepped⟩ := bind_eq_ok.mp stepped
    cases stepped
    exact (tended link is).replace rfl (Terminal.Sound.handleAlData_windowSize handled) rfl rfl

theorem alReconnect (endpointId : Nat) (request : AlReconnect) :
    (terminal.handleAlReconnect endpointId request).Tended := by
  unfold handleAlReconnect
  split
  · exact tended
  · intro other here
    split at here
    · obtain ⟨link, is, rfl⟩ := map_eq_some_iff.mp here
      exact ⟨(tended link is).lively, (tended link is).each⟩
    · exact tended other here

theorem alDisconnect (request : AlDisconnect) : (terminal.handleAlDisconnect request).Tended := by
  unfold handleAlDisconnect
  split
  · exact tended
  · exact of_none rfl

/-! #### The end of a tick -/

theorem superviseReset (is : terminal.link = some link) (reset : AdvancedLinkReset) :
    (terminal.superviseReset now link reset).Tended := by
  unfold Terminal.superviseReset
  split
  split
  · split
    · exact (tended link is).replace rfl rfl rfl rfl
    · exact of_none rfl
  · exact (tended link is).replace rfl rfl rfl rfl

end Terminal.Tended

theorem observe_follows (link : AdvancedLink) (now : TdmaTime) (tx : List AdvancedTxSdu) :
    List.Forall₂ Follows tx (link.observe now tx).1 := by
  have seen (sdu : AdvancedTxSdu) : Follows sdu (sdu.observeAttempt now) := by
    unfold observeAttempt
    split
    · exact ⟨rfl, fun _ => by simp [inFlight, *], .inl⟩
    · exact ⟨rfl, fun _ => by simp [inFlight, *], .inl⟩
    · exact .idle rfl rfl
    · exact .idle rfl rfl
    · exact .refl sdu
  have late {limit : Nat} {sdu new : AdvancedTxSdu} (is : sdu.timeOut limit = some new) :
      Follows sdu new := by
    unfold timeOut at is
    split at is
    · cases is
      exact .idle rfl rfl
    · split at is
      · cases is
      · cases is
        exact .idle rfl rfl
  induction tx with
  | nil => exact .nil
  | cons sdu rest ih =>
    unfold observe
    dsimp only
    split
    · split
      · exact .cons (seen sdu) (List.forall₂_same.mpr fun other _ => .refl other)
      next is =>
        exact .cons ((seen sdu).trans (late is)) ih
    · exact .cons (seen sdu) ih

theorem observe_tended (link : AdvancedLink) (now : TdmaTime)
    (tended : ∀ sdu ∈ tx, sdu.Tended link.maxSduRetransmissions) :
    ∀ sdu ∈ (link.observe now tx).1, sdu.Tended link.maxSduRetransmissions := by
  induction tx with
  | nil => exact tended
  | cons sdu rest ih =>
    obtain ⟨here, there⟩ := forall_mem_cons.mp tended
    have seen := here.observeAttempt now
    unfold observe
    dsimp only
    split
    · split
      · exact forall_mem_cons.mpr ⟨seen, there⟩
      next late =>
        exact forall_mem_cons.mpr ⟨seen.timeOut late, ih there⟩
    · exact forall_mem_cons.mpr ⟨seen, ih there⟩

variable {selected : List Nat}

theorem offerSelected_lively {windowSize : Nat} (lively : Lively windowSize link.tx)
    (receiverNotReady : Bool) (is : selected = link.selectedSdus receiverNotReady) :
    Lively windowSize (link.tx.mapIdx fun index sdu =>
      if index ∈ selected then sdu.offered (decide (some index = selected.getLast?)) else sdu) := by
  cases last : selected.getLast? with
  | none =>
    rw [getLast?_eq_none_iff] at last
    subst last
    rw [show (fun (index : Nat) (sdu : AdvancedTxSdu) =>
        if index ∈ ([] : List Nat) then sdu.offered (decide (some index = none)) else sdu) =
          fun _ sdu => sdu by
      funext index sdu
      rw [if_neg List.not_mem_nil]]
    rw [show link.tx.mapIdx (fun _ sdu => sdu) = link.tx by
      refine ext_getElem? fun position => ?_
      rw [List.getElem?_mapIdx, Option.map_id']]
    exact lively
  | some index =>
    have chosen : index ∈ selected := mem_of_getLast? last
    obtain ⟨sdu, found, -⟩ := selected_spec (is ▸ chosen)
    refine .inr (.inl ⟨sdu.offered true, mem_of_getElem? (i := index) ?_, rfl⟩)
    rw [getElem?_mapIdx, found, map_some, if_pos chosen, decide_eq_true rfl]

theorem offerSelected_tended (tended : ∀ sdu ∈ link.tx, sdu.Tended limit)
    (sound : QueueSound bound queue nextTxNs link.tx) (receiverNotReady : Bool)
    (is : selected = link.selectedSdus receiverNotReady) :
    ∀ sdu ∈ link.tx.mapIdx fun index sdu =>
      if index ∈ selected then sdu.offered (decide (some index = selected.getLast?)) else sdu,
      sdu.Tended limit := by
  intro new member
  obtain ⟨position, small, rfl⟩ := mem_mapIdx.mp member
  have here := tended _ (getElem_mem small)
  split
  next chosen =>
    obtain ⟨sdu, found, -, attempt⟩ := selected_spec (is ▸ chosen)
    rw [getElem?_eq_getElem small, some_inj] at found
    refine here.offered _ ?_
    have timed := (sound.consistent _ (getElem_mem small)).timed
    rw [found, attempt] at timed
    rw [found]
    exact not_isSome_iff_eq_none.mp fun runs => absurd (timed runs) (by decide)
  · exact here

namespace Terminal.Tended

variable (tended : terminal.Tended) (sound : terminal.Sound fun windowSize => windowSize)

include tended sound

theorem submitReady (is : terminal.link = some link) (routes : List Nat) :
    (terminal.submitReady now routes link).Tended := by
  have resumed : (link.resume now).Tended := ⟨(tended link is).lively, (tended link is).each⟩
  have queued := (sound link is).2
  unfold Terminal.submitReady
  dsimp only
  split
  · exact resumed.relink rfl
  · split
    · exact resumed.relink rfl
    · split
      · exact resumed.relink rfl
      · exact .relink ⟨offerSelected_lively resumed.lively _ rfl,
          offerSelected_tended resumed.each queued _ rfl⟩ rfl

/-- **Receipts and timers are looked at, and segments handed to the MAC.** -/
theorem submit (packetRoutes : List Nat) :
    (terminal.submitAdvancedLinkMessages now packetRoutes).Tended := by
  unfold submitAdvancedLinkMessages
  split
  · exact tended
  next link is =>
    obtain ⟨narrow, queued⟩ := sound link is
    split
    · exact tended.superviseReset is _
    next inPlace =>
      split
      · split
        · exact of_none rfl
        · exact tended
      · obtain ⟨pointwise, consistent⟩ := QueueSound.observe link now queued.consistent
        have each := observe_tended link now (tended link is).each
        have follows := observe_follows link now link.tx
        have observed : Terminal.Sound (fun windowSize => windowSize) { terminal with
            link := some { link with tx := (link.observe now link.tx).1 } } := by
          intro other here
          cases here
          exact ⟨narrow, queued.continues pointwise consistent⟩
        dsimp only
        split
        · refine beginReset observed rfl ?_ ?_ _
          · exact inPlace
          · exact fun sdu member => (each sdu member).parts
        · have lively := (tended link is).follow queued.sequenced narrow.2 follows
          exact submitReady (.relink ⟨lively, each⟩ rfl) observed rfl _

theorem tickEnd {packetRoutes : List Nat}
    (stepped : terminal.tickEnd now packetRoutes = .ok after) : after.Tended := by
  obtain ⟨middle, moved, stepped⟩ := bind_eq_ok.mp stepped
  cases stepped
  exact (tended.drainPending sound moved).submit (sound.processPending moved).1 packetRoutes

/-! #### Receipts from the MAC -/

omit tended sound in
/-- One message changes. -/
theorem modify {change : AdvancedTxSdu → AdvancedTxSdu} (tended : link.Tended)
    (sequenced : Sequenced link.windowSize nextTxNs link.tx) (narrow : link.windowSize ≤ 3)
    (one : ∀ sdu, Follows sdu (change sdu) ∧
      (sdu.Tended link.maxSduRetransmissions → (change sdu).Tended link.maxSduRetransmissions))
    (position : Nat) :
    Lively link.windowSize (link.tx.modify position change) ∧
      ∀ sdu ∈ link.tx.modify position change, sdu.Tended link.maxSduRetransmissions := by
  have entry {place : Nat} {new : AdvancedTxSdu}
      (found : (link.tx.modify position change)[place]? = some new) :
      ∃ old, link.tx[place]? = some old ∧ (new = old ∨ new = change old) := by
    rw [getElem?_modify] at found
    obtain ⟨old, there, rfl⟩ := map_eq_some_iff.mp found
    refine ⟨old, there, ?_⟩
    split
    · exact .inr rfl
    · exact .inl rfl
  refine ⟨tended.lively.change (length_modify _ _ _)
    (fun position sdu found asks => tended.near sequenced narrow found asks)
    fun place old new found found' => ?_, fun new member => ?_⟩
  · obtain ⟨sdu, there, same | changed⟩ := entry found'
    · rw [found, some_inj] at there
      rw [same, there]
      exact .refl sdu
    · rw [found, some_inj] at there
      rw [changed, there]
      exact (one sdu).1
  · obtain ⟨place, found⟩ := mem_iff_getElem?.mp member
    obtain ⟨sdu, there, rfl | rfl⟩ := entry found
    · exact tended.each new (mem_of_getElem? there)
    · exact (one sdu).2 (tended.each sdu (mem_of_getElem? there))

theorem macReport (position : Nat) (transmitted : Bool) :
    (terminal.macReport position transmitted).Tended := by
  intro other here
  obtain ⟨link, is, rfl⟩ := map_eq_some_iff.mp here
  obtain ⟨narrow, queued⟩ := sound link is
  refine ⟨(modify (tended link is) queued.sequenced narrow.2 (fun sdu => ?_) position).1,
    (modify (tended link is) queued.sequenced narrow.2 (fun sdu => ?_) position).2⟩
  all_goals
    split
    next attempt =>
      refine ⟨⟨rfl, fun _ => ?_, .inl⟩, fun kept => ⟨fun _ => rfl, kept.timed, kept.parts, kept.often⟩⟩
      simp [inFlight, attempt]
    · exact ⟨.refl sdu, id⟩

omit sound in
theorem macReportReset (transmitted : Bool) : (terminal.macReportReset transmitted).Tended := by
  intro other here
  obtain ⟨link, is, rfl⟩ := map_eq_some_iff.mp here
  exact ⟨(tended link is).lively, (tended link is).each⟩

/-- **One event.** -/
theorem step {message : Nat} {event : TerminalEvent} (attentive : terminal.Attentive event)
    (stepped : terminal.step now message event = .ok after) : after.Tended := by
  cases event with
  | request tlSdu endpointId => exact tended.request sound stepped
  | alSetup endpointId pdu => exact tended.alSetup sound attentive stepped
  | alData pdu => exact tended.alData stepped
  | alAck pdu =>
    cases stepped
    exact tended.alAck sound pdu attentive
  | alReconnect endpointId pdu =>
    cases stepped
    exact tended.alReconnect endpointId pdu
  | alDisconnect pdu =>
    cases stepped
    exact tended.alDisconnect pdu
  | macReport position transmitted =>
    cases stepped
    exact tended.macReport sound position transmitted
  | macReportReset transmitted =>
    cases stepped
    exact tended.macReportReset transmitted
  | tickEnd packetRoutes => exact tended.tickEnd sound stepped

end Terminal.Tended

/-! ### Progress -/

/-- Fewer messages are in flight than fit when one near the oldest is not. -/
theorem Numbered.countP_lt (numbered : Numbered bound first next indices tx)
    (foundIndex : indices[position]? = some index) (found : tx[position]? = some sdu)
    (idle : ¬ sdu.inFlight) (near : index < first + bound) : tx.countP (·.inFlight) < bound := by
  have nodup : indices.Nodup := numbered.numbering.increasing.imp Nat.ne_of_lt
  obtain ⟨flying, is⟩ : ∃ flying, flying =
      ((indices.zip tx).filter (·.2.inFlight)).map Prod.fst := ⟨_, rfl⟩
  have count : flying.length = tx.countP (·.inFlight) := by
    have second : (indices.zip tx).map Prod.snd = tx := map_snd_zip numbered.length.ge
    rw [is, length_map, ← countP_eq_length_filter]
    conv_rhs => rw [← second, countP_map]
    rfl
  have among : flying.Sublist indices := by
    have first' : (indices.zip tx).map Prod.fst = indices := map_fst_zip numbered.length.le
    conv_rhs => rw [← first']
    rw [is]
    exact (filter_sublist).map Prod.fst
  have entry : ∀ other ∈ flying, ∃ (place : Nat) (flies : AdvancedTxSdu),
      indices[place]? = some other ∧ tx[place]? = some flies ∧ flies.inFlight := by
    intro other member
    rw [is] at member
    obtain ⟨⟨_, flies⟩, kept, rfl⟩ := mem_map.mp member
    obtain ⟨both, flying⟩ := mem_filter.mp kept
    obtain ⟨place, there⟩ := List.mem_iff_getElem?.mp both
    obtain ⟨there, there'⟩ := List.getElem?_zip_eq_some.mp there
    exact ⟨place, flies, there, there', flying⟩
  have new : index ∉ flying := by
    intro member
    obtain ⟨place, flies, there, there', flying⟩ := entry index member
    obtain ⟨small, atPlace⟩ := List.getElem?_eq_some_iff.mp there
    obtain ⟨small', atPosition⟩ := List.getElem?_eq_some_iff.mp foundIndex
    have same : place = position := (nodup.getElem_inj_iff).mp (atPlace.trans atPosition.symm)
    rw [same, found, some_inj] at there'
    exact idle (there' ▸ flying)
  have inside : index :: flying ⊆ List.range' first bound := by
    refine cons_subset.mpr ⟨?_, fun other member => ?_⟩
    · have low := numbered.numbering.lower index (mem_of_getElem? foundIndex)
      exact mem_range'_1.mpr ⟨low, near⟩
    · obtain ⟨place, flies, there, there', flying⟩ := entry other member
      have low := numbered.numbering.lower other (mem_of_getElem? there)
      exact mem_range'_1.mpr ⟨low, (numbered.each place other flies there there').2 flying⟩
  have short := (subperm_of_subset (nodup_cons.mpr ⟨new, nodup.sublist among⟩) inside).length_le
  rw [length_cons, length_range', count] at short
  exact short

/-- **A message near the oldest that is not in flight is selected, or another one is.** -/
theorem selectedSdus_ne_nil (sequenced : Sequenced link.windowSize nextTxNs link.tx)
    (window : 1 ≤ link.windowSize ∧ link.windowSize ≤ 3) (found : link.tx[position]? = some sdu)
    (idle : ¬ sdu.inFlight) (asks : sdu.acknowledgementRequested = false)
    (often : sdu.retransmissions ≤ link.maxSduRetransmissions)
    (near : NearOldest link.windowSize link.tx position sdu) :
    link.selectedSdus false ≠ [] := by
  obtain ⟨first, next, indices, numbered, -⟩ := sequenced
  obtain ⟨index, foundIndex⟩ := numbered.exists_index found
  have room := numbered.countP_lt foundIndex found idle (numbered.near foundIndex found near)
  obtain ⟨small, -⟩ := List.getElem?_eq_some_iff.mp found
  obtain ⟨oldest, front, generation, distance⟩ := near
  have capacity : max 1 (min 3 link.windowSize) = link.windowSize := by
    rw [Nat.min_eq_right window.2, Nat.max_eq_right window.1]
  unfold AdvancedLink.selectedSdus
  rw [front]
  rw [capacity]
  intro empty
  rcases List.take_eq_nil_iff.mp empty with full | nothing
  · rw [Nat.min_eq_left room.le] at full
    exact absurd (Nat.sub_eq_zero_iff_le.mp full) (Nat.not_le_of_lt room)
  · refine List.filter_eq_nil_iff.mp nothing position (List.mem_range.mpr small) ?_
    rw [AdvancedTxSdu.inFlight, Bool.or_eq_true, not_or] at idle
    simp only [found, Option.any_some, AdvancedLink.selectable, capacity, generation, distance,
      asks, often, Option.not_isSome_iff_eq_none.mp idle.1,
      Option.not_isSome_iff_eq_none.mp idle.2, decide_true, Bool.and_true, Option.isNone_none,
      Bool.not_false, Bool.true_or]

/-- The message asks for an acknowledgement, and the timer runs for it once the link has looked at
what the MAC reported. -/
def AdvancedTxSdu.Awaited (now : TdmaTime) (sdu : AdvancedTxSdu) : Prop :=
  sdu.acknowledgementRequested ∧ (sdu.observeAttempt now).sentAt.isSome

def Terminal.HandsOver (before after : Terminal) : Prop :=
  ∃ pdus, after.queue = before.queue ++ pdus ∧ ∃ message header payload endpointId route,
    .data message header payload endpointId route ∈ pdus

/-- A message that is not awaited and is not with the MAC does not ask any more. -/
theorem observeAttempt_quiet (tended : sdu.Tended limit) (notAwaited : ¬ sdu.Awaited now)
    (reported : sdu.acknowledgementRequested → sdu.attemptReporter ≠ some .pending) :
    (sdu.observeAttempt now).acknowledgementRequested = false ∧
      (sdu.observeAttempt now).sentAt = none := by
  have timer : sdu.acknowledgementRequested = false → sdu.sentAt = none := by
    intro asks
    cases runs : sdu.sentAt with
    | none => rfl
    | some started =>
      have := tended.timed (by rw [runs]; rfl)
      cases asks.symm.trans this
  by_cases asks : sdu.acknowledgementRequested
  · obtain ⟨state, attempt⟩ := isSome_iff_exists.mp (tended.asking asks)
    have runs (reached : state = .transmitted ∨ state = .acknowledged) : sdu.Awaited now := by
      refine ⟨asks, ?_⟩
      unfold observeAttempt
      rcases reached with rfl | rfl
      · simp [attempt, asks]
      · simp [attempt, asks]
    cases state with
    | pending => exact absurd attempt (reported asks)
    | transmitted => exact absurd (runs (.inl rfl)) notAwaited
    | acknowledged => exact absurd (runs (.inr rfl)) notAwaited
    | discarded => simp [observeAttempt, attempt]
    | lost => simp [observeAttempt, attempt]
  · have none_asks := Bool.eq_false_iff.mpr asks
    have never := timer none_asks
    unfold observeAttempt
    split
    · exact ⟨none_asks, by dsimp only; rw [if_neg asks, never]⟩
    · exact ⟨none_asks, by dsimp only; rw [if_neg asks, never]⟩
    · exact ⟨rfl, rfl⟩
    · exact ⟨rfl, rfl⟩
    · exact ⟨none_asks, never⟩

theorem observe_quiet (link : AdvancedLink)
    (quiet : ∀ sdu ∈ tx, (sdu.observeAttempt now).sentAt = none) :
    link.observe now tx = (tx.map (·.observeAttempt now), none) := by
  induction tx with
  | nil => rfl
  | cons sdu rest ih =>
    obtain ⟨here, there⟩ := forall_mem_cons.mp quiet
    unfold observe
    dsimp only
    rw [here, ih there]
    rfl

theorem offerSelected_handsOver (routes : List Nat) {receiverNotReady : Bool}
    (is : selected = link.selectedSdus receiverNotReady) (some' : selected ≠ [])
    (parts : ∀ sdu ∈ link.tx, sdu.segments ≠ []) :
    terminal.HandsOver (terminal.offerSelected link routes selected) := by
  obtain ⟨index, chosen⟩ := exists_mem_of_ne_nil selected some'
  obtain ⟨sdu, found, -⟩ := selected_spec (is ▸ chosen)
  have segments : sdu.selectedSegments ≠ [] := by
    unfold selectedSegments
    cases pending : sdu.pendingSegments.filter (!·.isEmpty) with
    | none =>
      rw [getD_none, Ne, range_eq_nil, length_eq_zero_iff]
      exact parts sdu (mem_of_getElem? found)
    | some missing =>
      have kept := (filter_eq_some_iff.mp pending).2
      rintro rfl
      cases kept
  have part (asks : Bool) : ∃ header payload endpointId route,
      .data sdu.message header payload endpointId route ∈ sdu.segmentPdus routes asks :=
    ⟨_, _, _, _, mem_mapIdx.mpr ⟨0, length_pos_of_ne_nil segments, rfl⟩⟩
  obtain ⟨header, payload, endpointId, route, member⟩ :=
    part (decide (some index = selected.getLast?))
  refine ⟨_, rfl, sdu.message, header, payload, endpointId, route,
    mem_flatMap.mpr ⟨index, chosen, ?_⟩⟩
  rw [found]
  exact member

theorem submitReady_handsOver {routes : List Nat} (receiver : (link.resume now).receiverReady)
    (some' : routes ≠ []) (asks : ∀ sdu ∈ link.tx, sdu.acknowledgementRequested = false)
    (selects : (link.resume now).selectedSdus false ≠ [])
    (parts : ∀ sdu ∈ link.tx, sdu.segments ≠ []) :
    terminal.HandsOver (terminal.submitReady now routes link) := by
  have quiet : (link.resume now).tx.any (·.acknowledgementRequested) = false :=
    List.any_eq_false.mpr fun sdu member => by
      rw [asks sdu member]
      decide
  have parts' : ∀ sdu ∈ (link.resume now).tx, sdu.segments ≠ [] := parts
  unfold submitReady
  dsimp only
  rw [receiver, quiet, if_neg (by simp), if_neg (by rwa [List.isEmpty_iff])]
  exact offerSelected_handsOver routes rfl selects parts'

/-- **A tended link goes on.** If the link is ready and holds messages, its receiver is ready, it has a
route and the MAC has reported on the message that asks for an acknowledgement, then the timer of that
message runs or the next submission hands segments to the MAC. -/
theorem submit_goes_on (tended : terminal.Tended)
    (sound : terminal.Sound fun windowSize => windowSize) (is : terminal.link = some link)
    (ready : link.ready) (inPlace : link.reset = none) (queued : link.tx ≠ [])
    (receiver : (link.resume now).receiverReady) {packetRoutes : List Nat}
    (routes : activeRoutes packetRoutes link.slots ≠ [])
    (reported : ∀ sdu ∈ link.tx, sdu.acknowledgementRequested →
      sdu.attemptReporter ≠ some .pending) :
    (∃ sdu ∈ link.tx, sdu.Awaited now) ∨
      terminal.HandsOver (terminal.submitAdvancedLinkMessages now packetRoutes) := by
  by_cases awaited : ∃ sdu ∈ link.tx, sdu.Awaited now
  · exact .inl awaited
  · refine .inr ?_
    obtain ⟨narrow, sound⟩ := sound link is
    have each := (tended link is).each
    have quiet : ∀ sdu ∈ link.tx, (sdu.observeAttempt now).acknowledgementRequested = false ∧
        (sdu.observeAttempt now).sentAt = none := fun sdu member =>
      observeAttempt_quiet (each sdu member) (fun waits => awaited ⟨sdu, member, waits⟩)
        (reported sdu member)
    have observed := observe_quiet link fun sdu member => (quiet sdu member).2
    have follows := observe_follows link now link.tx
    have tended' := observe_tended link now each
    obtain ⟨pointwise, -⟩ := QueueSound.observe link now sound.consistent
    have sequenced := sound.sequenced.continues pointwise
    rw [observed] at follows tended' sequenced
    generalize later : link.tx.map (·.observeAttempt now) = tx at observed follows tended' sequenced
    have asks : ∀ sdu ∈ tx, sdu.acknowledgementRequested = false := by
      intro sdu member
      rw [← later] at member
      obtain ⟨old, there, rfl⟩ := mem_map.mp member
      exact (quiet old there).1
    have lively' := (tended link is).follow sound.sequenced narrow.2 follows
    have selects : ({ link with tx := tx }.resume now).selectedSdus false ≠ [] := by
      rcases lively' with empty | ⟨sdu, member, asked⟩ | ⟨position, sdu, found, idle, near⟩
      · rw [← later, map_eq_nil_iff] at empty
        exact absurd empty queued
      · rw [asks sdu member] at asked
        cases asked
      · have member := mem_of_getElem? found
        exact selectedSdus_ne_nil sequenced narrow found idle (asks sdu member)
          (tended' sdu member).often near
    unfold submitAdvancedLinkMessages
    rw [is]
    dsimp only
    rw [inPlace]
    rw [if_neg (by rw [ready]; decide), observed]
    refine submitReady_handsOver ?_ routes ?_ selects fun sdu member => (tended' sdu member).parts
    · exact receiver
    · exact fun sdu member => asks sdu member

/-! ### Runs -/

/-- Acknowledgements leave work, and setups agree with what is queued. -/
def AdvancedLlc.Attentive (llc : AdvancedLlc) : LlcEvent → Prop
  | .tickStart _ => True
  | .terminal issi event => (llc.terminals issi).Attentive event

theorem AdvancedLlc.Attentive.keepsWindow {llc : AdvancedLlc} {event : LlcEvent}
    (attentive : llc.Attentive event) : llc.KeepsWindow event := by
  cases event with
  | tickStart time => trivial
  | terminal issi change =>
    cases change with
    | alSetup endpointId request =>
      exact fun success link is => (attentive success link is).1
    | _ => trivial

theorem reachable_tended {llc : AdvancedLlc}
    (reachable : Reachable machine AdvancedLlc.Attentive llc) (issi : Nat) :
    (llc.terminals issi).Tended ∧ (llc.terminals issi).Sound fun windowSize => windowSize := by
  have starts : ∀ llc, machine.start llc → ∀ issi, (llc.terminals issi).Tended ∧
      (llc.terminals issi).Sound fun windowSize => windowSize := by
    intro llc is issi
    rw [show llc = .new from is]
    exact ⟨.of_none rfl, sound_new issi⟩
  have keeps : ∀ state event next, (∀ issi, (state.terminals issi).Tended ∧
      (state.terminals issi).Sound fun windowSize => windowSize) →
      AdvancedLlc.Attentive state event → machine.step state event = some next →
      ∀ issi, (next.terminals issi).Tended ∧
        (next.terminals issi).Sound fun windowSize => windowSize := by
    intro state event next kept attentive stepped issi
    have sound := (llc_step covers_own (fun issi => (kept issi).2)
      (fun issi endpointId request is => by subst is; exact attentive.keepsWindow) stepped).1
    refine ⟨?_, sound issi⟩
    change state.step event = some next at stepped
    cases event with
    | tickStart time =>
      cases stepped
      exact (kept issi).1
    | terminal other change =>
      dsimp only [AdvancedLlc.step] at stepped
      split at stepped
      · cases stepped
      next after handled =>
        cases stepped
        dsimp only
        by_cases here : issi = other
        · rw [here, Function.update_self]
          exact (kept other).1.step (kept other).2 attentive handled
        · rw [Function.update_of_ne here]
          exact (kept issi).1
  exact reachable.invariant starts keeps issi

/-- **A link goes on in every run whose acknowledgements leave work.** In every state that such a run
reaches, a ready link that holds messages, whose receiver is ready, which has a route, and of which
the MAC has reported on the message that asks for an acknowledgement, has the timer of that message
running, or the next submission hands segments to the MAC. -/
theorem link_goes_on {llc : AdvancedLlc}
    (reachable : Reachable machine AdvancedLlc.Attentive llc) {issi : Nat}
    (is : (llc.terminals issi).link = some link) (ready : link.ready) (inPlace : link.reset = none)
    (queued : link.tx ≠ []) (now : TdmaTime) (receiver : (link.resume now).receiverReady)
    (packetRoutes : List Nat) (routes : activeRoutes packetRoutes link.slots ≠ [])
    (reported : ∀ sdu ∈ link.tx, sdu.acknowledgementRequested →
      sdu.attemptReporter ≠ some .pending) :
    (∃ sdu ∈ link.tx, sdu.Awaited now) ∨ (llc.terminals issi).HandsOver
      ((llc.terminals issi).submitAdvancedLinkMessages now packetRoutes) := by
  obtain ⟨tended, sound⟩ := reachable_tended reachable issi
  exact submit_goes_on tended sound is ready inPlace queued receiver routes reported

def threeEvents (lastTransmitted : Bool) : List LlcEvent :=
  [setupEvent 3 1, requestEvent 5, requestEvent 6, requestEvent 7, tickEvent,
    .terminal 1 (.macReport 0 true), .terminal 1 (.macReport 1 true),
    .terminal 1 (.macReport 2 lastTransmitted)]

/-- When the MAC discards the message that asks, it is handed over again. -/
theorem link_goes_on_discarded :
    ∃ (llc : AdvancedLlc) (link : AdvancedLink), (llc.terminals 1).link = some link ∧
      link.tx.length = 3 ∧ (llc.terminals 1).HandsOver
        ((llc.terminals 1).submitAdvancedLinkMessages llc.dltime [2]) := by
  have discarded : (exec AdvancedLlc.machine .new (threeEvents false)).any (fun llc =>
      (llc.terminals 1).link.any fun link => link.ready ∧ link.reset.isNone ∧ link.tx.length = 3 ∧
        (link.resume llc.dltime).receiverReady ∧ Terminal.activeRoutes [2] link.slots ≠ [] ∧
        (∀ sdu ∈ link.tx, sdu.acknowledgementRequested → sdu.attemptReporter ≠ some .pending) ∧
        ∀ sdu ∈ link.tx, (sdu.observeAttempt llc.dltime).sentAt = none) = true := by
    decide +kernel
  have permitted : ∀ event ∈ threeEvents false, ∀ llc : AdvancedLlc, llc.Attentive event := by
    intro event member llc
    simp only [threeEvents, mem_cons, not_mem_nil, or_false] at member
    rcases member with rfl | rfl | rfl | rfl | rfl | rfl | rfl | rfl
    · exact fun success => absurd success (by decide)
    all_goals trivial
  obtain ⟨llc, run, result⟩ := exec_any permitted discarded
  obtain ⟨link, is, result⟩ := (any_eq_true _ _).mp result
  obtain ⟨ready, inPlace, three, receiver, routes, reported, untimed⟩ := of_decide_eq_true result
  have queued : link.tx ≠ [] := by
    rintro empty
    rw [empty] at three
    cases three
  rcases link_goes_on ⟨_, rfl, run⟩ is ready (isNone_iff_eq_none.mp inPlace) queued
    llc.dltime receiver [2] routes reported with ⟨sdu, member, -, timed⟩ | handed
  · rw [untimed sdu member] at timed
    cases timed
  · exact ⟨llc, link, is, three, handed⟩

/-- **An acknowledgement of the message that asked, and of no other, ends all progress.** Two messages
are left in flight, none of them asks, no timer runs, and a submission hands nothing over. -/
theorem link_stuck : ∃ (llc : AdvancedLlc) (link : AdvancedLink), Reachable machine always llc ∧
      (llc.terminals 1).link = some link ∧ link.ready ∧ link.reset = none ∧ link.tx.length = 2 ∧
      (link.resume llc.dltime).receiverReady ∧ activeRoutes [2] link.slots ≠ [] ∧
      (∀ sdu ∈ link.tx, sdu.acknowledgementRequested = false ∧ sdu.sentAt = none) ∧
      ¬ (llc.terminals 1).HandsOver
        ((llc.terminals 1).submitAdvancedLinkMessages llc.dltime [2]) := by
  obtain ⟨llc, reached, here, silent⟩ := reachable_exec (fun llc =>
      ((llc.terminals 1).link.any fun link => link.ready ∧ link.reset.isNone ∧ link.tx.length = 2 ∧
        (link.resume llc.dltime).receiverReady ∧ activeRoutes [2] link.slots ≠ [] ∧
        ∀ sdu ∈ link.tx, sdu.acknowledgementRequested = false ∧ sdu.sentAt = none) ∧
      ((llc.terminals 1).submitAdvancedLinkMessages llc.dltime [2]).queue = (llc.terminals 1).queue)
    (threeEvents true ++ [ackEvent 2]) (show machine.start .new from rfl)
    (by decide +kernel)
  obtain ⟨link, is, result⟩ := (any_eq_true _ _).mp here
  obtain ⟨ready, inPlace, two, receiver, routes, quiet⟩ := of_decide_eq_true result
  refine ⟨llc, link, reached, is, ready, isNone_iff_eq_none.mp inPlace, two, receiver, routes,
    quiet, ?_⟩
  rintro ⟨pdus, more, _, _, _, _, _, member⟩
  rw [silent, self_eq_append_right] at more
  subst more
  cases member

end Bluestation
