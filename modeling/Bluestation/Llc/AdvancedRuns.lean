/-
**The window of advanced links over whole runs.**

The link layer serves any number of terminals. In any order requests are made, terminals send setups,
segments, acknowledgements, reconnections and releases of any content, the MAC reports on what it was
handed, and ticks end, terminal by terminal.

* `sender_keeps_window` — in every reachable state the messages in flight on a link are in the window
  and have numbers of their own, at most one request for an acknowledgement is outstanding, and
  receipts become acknowledged only by acknowledgements of messages handed over whole.
* `window_shrinks` — what happens to a window that shrinks, and what an early or a late
  acknowledgement does.
-/

import Bluestation.Lib.Run
import Bluestation.Llc.AdvancedWindow

namespace Bluestation

open Bits Machines List Option Function Nat Except Terminal

/-! ### The link layer and what happens to it -/

inductive TerminalEvent where
  | request (tlSdu : List Bool) (endpointId : Nat)
  | alSetup (endpointId : Nat) (pdu : AlSetup)
  | alData (pdu : BitBuffer)
  | alAck (pdu : AlAck)
  | alReconnect (endpointId : Nat) (pdu : AlReconnect)
  | alDisconnect (pdu : AlDisconnect)
  | macReport (position : Nat) (transmitted : Bool)
  | macReportReset (transmitted : Bool)
  | tickEnd (packetRoutes : List Nat)

namespace Terminal

/-- One event of a terminal; a request is of a message of its own. -/
def step (terminal : Terminal) (now : TdmaTime) (message : Nat) :
    TerminalEvent → Except Fault Terminal
  | .request tlSdu endpointId => terminal.rxTlaTldataReqAlMessage now ⟨message, tlSdu, endpointId⟩
  | .alSetup endpointId pdu => terminal.handleAlSetup now endpointId pdu
  | .alData pdu => terminal.handleAlData pdu
  | .alAck pdu => .ok (terminal.handleAlAck now pdu)
  | .alReconnect endpointId pdu => .ok (terminal.handleAlReconnect endpointId pdu)
  | .alDisconnect pdu => .ok (terminal.handleAlDisconnect pdu)
  | .macReport position transmitted => .ok (terminal.macReport position transmitted)
  | .macReportReset transmitted => .ok (terminal.macReportReset transmitted)
  | .tickEnd packetRoutes => terminal.tickEnd now packetRoutes

end Terminal

/-- The part of the link layer that serves advanced links. -/
structure AdvancedLlc where
  dltime : TdmaTime
  terminals : Nat → Terminal
  messages : Nat

inductive LlcEvent where
  | tickStart (time : TdmaTime)
  | terminal (issi : Nat) (event : TerminalEvent)

namespace AdvancedLlc

def new : AdvancedLlc := ⟨⟨1, 1, 1, 0⟩, fun _ => .unknown, 0⟩

def step (llc : AdvancedLlc) : LlcEvent → Option AdvancedLlc
  | .tickStart time => some { llc with dltime := time }
  | .terminal issi event =>
    match (llc.terminals issi).step llc.dltime llc.messages event with
    | .error _ => none
    | .ok terminal => some { llc with
        terminals := Function.update llc.terminals issi terminal
        messages := llc.messages + 1 }

def machine : Machine AdvancedLlc LlcEvent where
  start llc := llc = new
  step := step

end AdvancedLlc

/-! ### What is promised -/

/-- The blocks acknowledge the message with a number: one of them does, or all of them are of a
receive window that has passed it. -/
def AdvancedLink.Acknowledges (link : AdvancedLink) (blocks : List AlAckBlock) (ns : Nat) : Prop :=
  (∃ block ∈ blocks, block.nr = ns ∧ block.acknowledgementLength = 0) ∨
    link.completeWindowReport blocks ∧ ∃ base ∈ blocks.head?,
      1 ≤ sequenceDistance base.nr ns ∧ sequenceDistance base.nr ns ≤ link.windowSize

namespace Terminal

/-- Messages in flight are ahead of the oldest one by less than the bound, no older message has the
number of one in flight, and at most one request for an acknowledgement is outstanding. -/
structure InWindow (bound : AdvancedLink → Nat) (terminal : Terminal) : Prop where
  within : ∀ link ∈ terminal.link, ∀ sdu ∈ link.tx, sdu.inFlight →
    ∀ oldest ∈ link.tx.head?, sequenceDistance sdu.ns oldest.ns < bound link
  distinct : ∀ link ∈ terminal.link, ∀ (place position : Nat) (older sdu : AdvancedTxSdu),
    place < position → link.tx[place]? = some older → link.tx[position]? = some sdu →
    sdu.inFlight → older.ns ≠ sdu.ns
  requests : ∀ link ∈ terminal.link, link.tx.countP (·.acknowledgementRequested) ≤ 1

/-- An acknowledgement arrived for a message in flight that was handed to the MAC whole under the
number it acknowledges. -/
def AcknowledgedBy (terminal : Terminal) (event : TerminalEvent) (report : Report) : Prop :=
  ∃ pdu link sdu, event = .alAck pdu ∧ terminal.link = some link ∧ sdu ∈ link.tx ∧
    sdu.message = report.message ∧ sdu.inFlight ∧ HandedWhole terminal.queue sdu ∧
    link.Acknowledges pdu.blocks sdu.ns

/-- Receipts that an event ends as acknowledged are of acknowledged messages. -/
def Settles (before : Terminal) (event : TerminalEvent) (after : Terminal) : Prop :=
  ∃ ended, after.reported = before.reported ++ ended ∧
    ∀ report ∈ ended, report.state = .acknowledged → before.AcknowledgedBy event report

/-- The terminal does not confirm a smaller window while messages are in flight. -/
def KeepsWindow (terminal : Terminal) : TerminalEvent → Prop
  | .alSetup _ request => request.report = 0 ∨ request.report = 4 → ∀ link ∈ terminal.link,
      link.windowSize ≤ negotiatedWindow request ∨ ∀ sdu ∈ link.tx, ¬ sdu.inFlight
  | _ => True

end Terminal

/-- No terminal confirms a smaller window while messages are in flight. -/
def AdvancedLlc.KeepsWindow (llc : AdvancedLlc) : LlcEvent → Prop
  | .tickStart _ => True
  | .terminal issi event => (llc.terminals issi).KeepsWindow event

/-! ### What every event preserves -/

variable {policy : Nat → Nat} {terminal before after : Terminal} {link : AdvancedLink}
  {now : TdmaTime}

/-- The queue of the link is sound, with a bound that may depend on the window. -/
def Terminal.Sound (policy : Nat → Nat) (terminal : Terminal) : Prop :=
  ∀ link ∈ terminal.link, (1 ≤ link.windowSize ∧ link.windowSize ≤ 3) ∧
    QueueSound (policy link.windowSize) terminal.queue link.nextTxNs link.tx

def Covers (policy : Nat → Nat) : Prop :=
  ∀ windowSize, 1 ≤ windowSize → windowSize ≤ 3 → windowSize ≤ policy windowSize ∧
    policy windowSize ≤ 3

def OnlyLosses (before after : Terminal) : Prop :=
  ∃ ended, after.reported = before.reported ++ ended ∧
    ∀ report ∈ ended, report.state ≠ .acknowledged

def Quiet (policy : Nat → Nat) (before after : Terminal) : Prop :=
  after.Sound policy ∧ OnlyLosses before after

namespace OnlyLosses

theorem of_eq (same : after.reported = before.reported) : OnlyLosses before after :=
  ⟨[], by rw [same, append_nil], nofun⟩

theorem trans {middle : Terminal} (first : OnlyLosses before middle)
    (second : OnlyLosses middle after) : OnlyLosses before after := by
  obtain ⟨early, is, lost⟩ := first
  obtain ⟨late, is', lost'⟩ := second
  refine ⟨early ++ late, by rw [is', is, append_assoc], fun report member => ?_⟩
  rcases mem_append.mp member with here | there
  · exact lost report here
  · exact lost' report there

theorem lost (message : Nat) :
    OnlyLosses terminal { terminal with reported := terminal.reported ++ [⟨message, .lost⟩] } := by
  refine ⟨_, rfl, fun report member => ?_⟩
  rw [mem_singleton.mp member]
  exact nofun

theorem report {queue : List AlPdu} {sdus : List AdvancedTxSdu}
    (consistent : ∀ sdu ∈ sdus, Consistent queue sdu) :
    OnlyLosses terminal (terminal.report (sdus.map AdvancedTxSdu.markLost)) := by
  refine ⟨_, rfl, fun report member => ?_⟩
  obtain ⟨new, among, rfl⟩ := mem_map.mp member
  obtain ⟨sdu, old, rfl⟩ := mem_map.mp among
  rw [(consistent sdu old).markLost]
  exact nofun

end OnlyLosses

namespace Quiet

theorem refl (sound : terminal.Sound policy) : Quiet policy terminal terminal := ⟨sound, .of_eq rfl⟩

theorem trans {middle : Terminal} (first : Quiet policy before middle)
    (second : Quiet policy middle after) : Quiet policy before after :=
  ⟨second.1, first.2.trans second.2⟩

theorem settles (quiet : Quiet policy before after) (event : TerminalEvent) :
    before.Settles event after := by
  obtain ⟨-, ended, is, lost⟩ := quiet
  exact ⟨ended, is, fun report member acknowledged => absurd acknowledged (lost report member)⟩

end Quiet

theorem QueueSound.retireReported {bound : Nat} {queue : List AlPdu} (blocks : List AlAckBlock)
    (narrow : bound ≤ 3) (sound : QueueSound bound queue link.nextTxNs link.tx) :
    QueueSound bound queue link.nextTxNs (link.retireReported blocks).2 ∧
      (link.retireReported blocks).2 ⊆ link.tx ∧
      ∀ done ∈ (link.retireReported blocks).1, ∃ sdu ∈ link.tx,
        done = sdu.markAcknowledged ∧ sdu.inFlight ∧ link.Acknowledges blocks sdu.ns := by
  unfold AdvancedLink.retireReported
  split
  next block base =>
    split
    next complete =>
      obtain ⟨kept, subset, retired⟩ := sound.retirePassed link.windowSize block.nr narrow
      refine ⟨kept, subset, fun done member => ?_⟩
      obtain ⟨sdu, old, mark, flying, ahead, near⟩ := retired done member
      exact ⟨sdu, old, mark, flying, .inr ⟨complete, block, base, ahead, near⟩⟩
    · exact ⟨sound, .refl _, nofun⟩
  · exact ⟨sound, .refl _, nofun⟩

namespace Terminal.Sound

theorem of_none (none' : terminal.link = none) : terminal.Sound policy := by
  intro link is
  rw [none'] at is
  exact absurd is (not_mem_none link)

section

variable (sound : terminal.Sound policy)

include sound

theorem enqueue (pdus : List AlPdu) :
    Terminal.Sound policy { terminal with queue := terminal.queue ++ pdus } := fun link is =>
  ⟨(sound link is).1, (sound link is).2.mono (subset_append_left _ _)⟩

theorem dropLink : terminal.dropLink.Sound policy ∧ OnlyLosses terminal terminal.dropLink := by
  refine ⟨of_none rfl, ?_⟩
  have consistent : ∀ sdu ∈ (terminal.link.map (·.tx)).getD [], Consistent terminal.queue sdu := by
    cases is : terminal.link with
    | none => exact nofun
    | some link => exact (sound link is).2.consistent
  exact .trans (.of_eq rfl) (.report consistent)

/-! ### Requests -/

variable {prim : TlaTlDataReqAl}

theorem offerToLink (taken : terminal.offerToLink prim = .ok (some after)) :
    Quiet policy terminal after := by
  unfold Terminal.offerToLink at taken
  cases is : terminal.link with
  | none =>
    rw [is] at taken
    cases taken
  | some link =>
    obtain ⟨narrow, queued⟩ := sound link is
    rw [is] at taken
    obtain ⟨result, offered, taken⟩ := bind_eq_ok.mp taken
    rw [ok.injEq] at taken
    obtain ⟨link', rfl, rfl⟩ := map_eq_some_iff.mp taken
    unfold AdvancedLink.rxTlaTldataReqAl at offered
    split at offered
    · cases offered
    · obtain ⟨segments, -, offered⟩ := bind_eq_ok.mp offered
      cases offered
      refine ⟨fun other here => ?_, .of_eq rfl⟩
      cases here
      exact ⟨narrow, queued.push _ _ _⟩

theorem queuePending (now : TdmaTime) (prim : TlaTlDataReqAl) :
    Quiet policy terminal (terminal.queuePendingAdvancedData now prim) := by
  unfold queuePendingAdvancedData
  dsimp only
  split
  · exact ⟨sound, .lost _⟩
  · exact ⟨sound, .of_eq rfl⟩

theorem request (stepped : terminal.rxTlaTldataReqAlMessage now prim = .ok after) :
    Quiet policy terminal after := by
  obtain ⟨result, offered, stepped⟩ := bind_eq_ok.mp stepped
  split at stepped
  · cases stepped
    exact sound.offerToLink offered
  · cases stepped
    exact sound.queuePending now prim

/-- **Waiting requests move to the link.** -/
theorem drainPending {entries : List PendingAdvancedData}
    (stepped : drainPending now entries terminal = .ok after) :
    Quiet policy terminal after := by
  induction entries generalizing terminal with
  | nil =>
    unfold drainPending at stepped
    cases stepped
    exact ⟨sound, .of_eq rfl⟩
  | cons entry rest ih =>
    unfold drainPending at stepped
    split at stepped
    · have expired : Quiet policy terminal { terminal with
          reported := terminal.reported ++ [⟨entry.prim.message, .lost⟩] } := ⟨sound, .lost _⟩
      exact expired.trans (ih expired.1 stepped)
    · obtain ⟨result, offered, stepped⟩ := bind_eq_ok.mp stepped
      split at stepped
      · have taken := sound.offerToLink offered
        exact taken.trans (ih taken.1 stepped)
      · cases stepped
        exact ⟨sound, .of_eq rfl⟩

theorem processPending (stepped : terminal.processPendingAdvancedData now = .ok after) :
    Quiet policy terminal after :=
  sound.drainPending stepped

/-! ### PDUs of the terminal -/

theorem confirmed {negotiated : AdvancedLink}
    (narrow : 1 ≤ negotiated.windowSize ∧ negotiated.windowSize ≤ 3) (is : terminal.link = some link)
    (agrees : policy link.windowSize ≤ policy negotiated.windowSize ∨ ∀ sdu ∈ link.tx, ¬ sdu.inFlight) :
    Terminal.Sound policy
      { terminal with link := some (Terminal.confirmedLink link negotiated) } := by
  obtain ⟨-, queued⟩ := sound link is
  intro other here
  cases here
  refine ⟨narrow, ?_, queued.consistent, queued.requests⟩
  rcases agrees with wider | idle
  · exact queued.sequenced.mono wider
  · exact queued.sequenced.idle idle

end

theorem negotiated (endpointId : Nat) (request : AlSetup) (awaiting : Bool) :
    Terminal.Sound policy { terminal with
      link := some (Terminal.negotiatedLink now endpointId request awaiting) } := by
  intro other here
  cases here
  refine ⟨⟨?_, ?_⟩, .empty _ _⟩
  · exact Nat.le_max_left _ _
  · exact Nat.max_le.mpr ⟨by norm_num, Nat.min_le_left _ _⟩

/-- **A setup.** -/
theorem alSetup (sound : terminal.Sound policy) {endpointId : Nat} {request : AlSetup}
    (agrees : request.report = 0 ∨ request.report = 4 → ∀ link ∈ terminal.link,
      policy link.windowSize ≤ policy (negotiatedWindow request) ∨ ∀ sdu ∈ link.tx, ¬ sdu.inFlight)
    (stepped : terminal.handleAlSetup now endpointId request = .ok after) :
    Quiet policy terminal after := by
  unfold handleAlSetup at stepped
  split at stepped
  · cases stepped
    exact .refl sound
  · split at stepped
    · cases stepped
      exact .refl sound
    · dsimp only at stepped
      generalize (decide (request.report = 1) && _) = awaiting at stepped
      split at stepped
      next success =>
        have fresh : Terminal.Sound policy { terminal with
            link := some (negotiatedLink now endpointId request awaiting) } :=
          negotiated endpointId request awaiting
        have middle : Terminal.Sound policy { terminal with
            link := some ((terminal.link.map (confirmedLink ·
              (negotiatedLink now endpointId request awaiting))).getD
                (negotiatedLink now endpointId request awaiting)) } := by
          cases is : terminal.link with
          | none => exact fresh
          | some link => exact sound.confirmed (fresh _ rfl).1 is (agrees success link is)
        exact .trans ⟨middle, .of_eq rfl⟩ (middle.processPending stepped)
      · obtain ⟨-, losses⟩ := sound.dropLink
        generalize setupResponse _ _ = response at stepped
        have fresh : Terminal.Sound policy { terminal.dropLink with
            link := some (negotiatedLink now endpointId request awaiting) } :=
          negotiated endpointId request awaiting
        have renewed := fresh.enqueue response
        exact .trans ⟨renewed, losses.trans (.of_eq rfl)⟩ (renewed.processPending stepped)

theorem deliverReady_windowSize (rounds : Nat) (receiver : AdvancedReceiver) :
    (AdvancedReceiver.deliverReady rounds receiver).1.windowSize = receiver.windowSize := by
  induction rounds generalizing receiver with
  | zero => rfl
  | succ rounds ih =>
    unfold AdvancedReceiver.deliverReady
    split
    · rfl
    · exact ih _

variable {receiver receiver' : AdvancedReceiver} {outputs : List AlOutput}

theorem collect_windowSize {header : AlDataHeader}
    {rx : AdvancedRxSdu}
    (collected : receiver.collect header rx = .ok (receiver', outputs)) :
    receiver'.windowSize = receiver.windowSize := by
  unfold AdvancedReceiver.collect at collected
  split at collected
  · rw [ok.injEq, Prod.mk.injEq] at collected
    rw [← collected.1]
    rfl
  · obtain ⟨good, -, collected⟩ := bind_eq_ok.mp collected
    split at collected
    all_goals
      rw [ok.injEq, Prod.mk.injEq] at collected
      rw [← collected.1]
      rfl

theorem handleAlData_windowSize {pdu : BitBuffer}
    (handled : receiver.handleAlData pdu = .ok (receiver', outputs)) :
    receiver'.windowSize = receiver.windowSize := by
  have unchanged {out : List AlOutput}
      (same : Except.ok (receiver, out) = (Except.ok (receiver', outputs) : Except Fault _)) :
      receiver'.windowSize = receiver.windowSize := by
    rw [Except.ok.injEq, Prod.mk.injEq] at same
    rw [same.1]
  unfold AdvancedReceiver.handleAlData at handled
  split at handled
  · cases handled
  · exact unchanged handled
  · split at handled
    · exact unchanged handled
    · split at handled
      · dsimp only at handled
        split at handled
        · exact unchanged handled
        · exact unchanged handled
      · dsimp only at handled
        split at handled
        · exact unchanged handled
        · obtain ⟨⟨collected, acks⟩, is, handled⟩ := bind_eq_ok.mp handled
          rw [Except.ok.injEq, Prod.mk.injEq] at handled
          rw [← handled.1, deliverReady_windowSize, collect_windowSize is]

variable (sound : terminal.Sound policy)

include sound

theorem alData {pdu : BitBuffer} (stepped : terminal.handleAlData pdu = .ok after) :
    Quiet policy terminal after := by
  unfold Terminal.handleAlData at stepped
  split at stepped
  · cases stepped
    exact .refl sound
  next link is =>
    obtain ⟨narrow, queued⟩ := sound link is
    obtain ⟨⟨receiver, outputs⟩, handled, stepped⟩ := bind_eq_ok.mp stepped
    cases stepped
    refine ⟨fun other here => ?_, .of_eq rfl⟩
    cases here
    have window := handleAlData_windowSize handled
    rw [window]
    exact ⟨narrow, queued.mono (subset_append_left _ _)⟩

/-- **A reset.** -/
theorem beginReset (failedNs : Nat) :
    Quiet policy terminal (terminal.beginAdvancedLinkReset failedNs) := by
  unfold Terminal.beginAdvancedLinkReset
  split
  · exact .refl sound
  next link is =>
    obtain ⟨narrow, queued⟩ := sound link is
    split
    · exact .refl sound
    · obtain ⟨never, subset⟩ := QueueSound.splitForReset failedNs link.tx
      refine ⟨fun other here => ?_, .trans (.of_eq rfl)
        (.report fun sdu member => queued.consistent sdu (subset member))⟩
      replace here := mem_some_iff.mp here
      subst here
      exact ⟨narrow, .renumber never⟩

/-- **An acknowledgement.** -/
theorem alAck (covers : Covers policy) (pdu : AlAck) : (terminal.handleAlAck now pdu).Sound policy ∧
      terminal.Settles (.alAck pdu) (terminal.handleAlAck now pdu) := by
  unfold Terminal.handleAlAck
  split
  · exact ⟨sound, (Quiet.refl sound).settles _⟩
  next link is =>
    obtain ⟨narrow, queued⟩ := sound link is
    have bounded := (covers _ narrow.1 narrow.2).2
    split
    · exact ⟨sound, (Quiet.refl sound).settles _⟩
    · obtain ⟨kept, subset, retired⟩ := queued.retireReported pdu.blocks bounded
      generalize link.retireReported pdu.blocks = split at *
      obtain ⟨tx, acknowledged⟩ := kept.handleBlocks link pdu.blocks bounded
      have settled : ∀ done ∈ split.1 ++ (link.handleBlocks pdu.blocks split.2).acknowledged,
          ∃ sdu ∈ link.tx, done = sdu.markAcknowledged ∧ sdu.inFlight ∧
            link.Acknowledges pdu.blocks sdu.ns := by
        intro done member
        rcases mem_append.mp member with early | late
        · exact retired done early
        · obtain ⟨sdu, old, mark, flying, block, among, positive⟩ := acknowledged done late
          exact ⟨sdu, subset old, mark, flying, .inl ⟨block, among, positive⟩⟩
      dsimp only
      generalize middle : (.report _ _ : Terminal) = reported
      have sound' : reported.Sound policy := by
        subst middle
        intro other here
        replace here := mem_some_iff.mp here
        subst here
        exact ⟨narrow, tx⟩
      have settles : terminal.Settles (.alAck pdu) reported := by
        subst middle
        refine ⟨_, rfl, fun report member _ => ?_⟩
        obtain ⟨done, among, rfl⟩ := mem_map.mp member
        obtain ⟨sdu, old, rfl, flying, acknowledges⟩ := settled done among
        exact ⟨pdu, link, sdu, rfl, is, old, rfl, flying,
          (queued.consistent sdu old).handed flying, acknowledges⟩
      split
      next failedNs _ =>
        obtain ⟨later, ended, more, lost⟩ := sound'.beginReset failedNs
        obtain ⟨early, is', by_peer⟩ := settles
        refine ⟨later, early ++ ended, by rw [more, is', append_assoc], ?_⟩
        intro report member isAcknowledged
        rcases mem_append.mp member with here | there
        · exact by_peer report here isAcknowledged
        · exact absurd isAcknowledged (lost report there)
      · exact ⟨sound', settles⟩

theorem alReconnect (endpointId : Nat) (request : AlReconnect) :
    Quiet policy terminal (terminal.handleAlReconnect endpointId request) := by
  unfold Terminal.handleAlReconnect
  split
  · exact .refl sound
  · refine ⟨?_, .of_eq rfl⟩
    have moved : Terminal.Sound policy { terminal with
        link :=
          if request.linkNumber = 0 then
            terminal.link.map fun link => { link with endpointId := endpointId }
          else terminal.link } := by
      intro other here
      split at here
      · obtain ⟨link, is, rfl⟩ := map_eq_some_iff.mp here
        exact ⟨(sound link is).1, (sound link is).2⟩
      · exact sound other here
    exact moved.enqueue _

theorem alDisconnect (request : AlDisconnect) :
    Quiet policy terminal (terminal.handleAlDisconnect request) := by
  unfold Terminal.handleAlDisconnect
  split
  · exact .refl sound
  · refine ⟨of_none rfl, sound.dropLink.2.trans ⟨_, rfl, fun report member => ?_⟩⟩
    obtain ⟨entry, -, rfl⟩ := mem_map.mp member
    exact nofun

/-! ### The end of a tick -/

theorem relink (is : terminal.link = some link) {link' : AdvancedLink}
    (windowSize : link'.windowSize = link.windowSize) (nextTxNs : link'.nextTxNs = link.nextTxNs)
    (tx : link'.tx = link.tx) : Terminal.Sound policy { terminal with link := some link' } := by
  intro other here
  cases here
  rw [windowSize, nextTxNs, tx]
  exact sound link is

theorem superviseReset (is : terminal.link = some link) (reset : AdvancedLinkReset) :
    Quiet policy terminal (terminal.superviseReset now link reset) := by
  unfold Terminal.superviseReset
  split
  rename_i reset retry _
  split
  · split
    · have again : Terminal.Sound policy { terminal with link := some { link with
          reset := some ⟨reset.setup, if reset.setup.encodable then .pending else .lost, none,
            reset.retries + 1⟩ } } := sound.relink is rfl rfl rfl
      exact ⟨again.enqueue _, .of_eq rfl⟩
    · exact sound.dropLink
  · exact ⟨sound.relink is rfl rfl rfl, .of_eq rfl⟩

/-- **Handing over what the window allows.** -/
theorem submitReady (covers : Covers policy) (is : terminal.link = some link) (routes : List Nat) :
    Quiet policy terminal (terminal.submitReady now routes link) := by
  unfold Terminal.submitReady
  dsimp only
  have relinked : Terminal.Sound policy { terminal with link := some (link.resume now) } :=
    sound.relink is rfl rfl rfl
  generalize link.resume now = link' at relinked ⊢
  have waits : Quiet policy terminal { terminal with link := some link' } := ⟨relinked, .of_eq rfl⟩
  split
  · exact waits
  · split
    · exact waits
    · split
      · exact waits
      next quiet =>
        obtain ⟨narrow, queued⟩ := relinked link' rfl
        have window : max 1 (min 3 link'.windowSize) = link'.windowSize := by
          rw [min_eq_right narrow.2, max_eq_right narrow.1]
        refine ⟨fun other here => ?_, .of_eq rfl⟩
        replace here := mem_some_iff.mp here
        subst here
        refine ⟨narrow, queued.offer ?_ (Bool.eq_false_iff.mpr quiet) routes rfl⟩
        rw [window]
        exact (covers _ narrow.1 narrow.2).1

theorem submit (covers : Covers policy) (packetRoutes : List Nat) :
    Quiet policy terminal (terminal.submitAdvancedLinkMessages now packetRoutes) := by
  unfold Terminal.submitAdvancedLinkMessages
  split
  · exact .refl sound
  next link is =>
    obtain ⟨narrow, queued⟩ := sound link is
    split
    · exact sound.superviseReset is _
    · split
      · split
        · exact sound.dropLink
        · exact .refl sound
      · obtain ⟨pointwise, consistent⟩ := QueueSound.observe link now queued.consistent
        have observed : Terminal.Sound policy { terminal with
            link := some { link with tx := (link.observe now link.tx).1 } } := by
          intro other here
          cases here
          exact ⟨narrow, queued.continues pointwise consistent⟩
        have looked : Quiet policy terminal { terminal with
            link := some { link with tx := (link.observe now link.tx).1 } } :=
          ⟨observed, .of_eq rfl⟩
        dsimp only
        split
        · exact looked.trans (observed.beginReset _)
        · exact looked.trans (observed.submitReady covers rfl _)

theorem tickEnd (covers : Covers policy) {packetRoutes : List Nat}
    (stepped : terminal.tickEnd now packetRoutes = .ok after) : Quiet policy terminal after := by
  obtain ⟨middle, moved, stepped⟩ := bind_eq_ok.mp stepped
  cases stepped
  have first := sound.processPending moved
  exact first.trans (first.1.submit covers packetRoutes)

/-! ### Receipts from the MAC -/

theorem macReport (position : Nat) (transmitted : Bool) :
    Quiet policy terminal (terminal.macReport position transmitted) := by
  refine ⟨fun other here => ?_, .of_eq rfl⟩
  obtain ⟨link, is, rfl⟩ := map_eq_some_iff.mp here
  obtain ⟨narrow, queued⟩ := sound link is
  refine ⟨narrow, queued.modify position fun sdu consistent => ?_⟩
  split
  next attempt =>
    have some' : sdu.attemptReporter.isSome := by
      rw [attempt]
      rfl
    refine ⟨⟨?_, fun _ => rfl, fun _ => ?_⟩, ⟨rfl, fun _ => ?_, id⟩⟩
    · rcases consistent.receipt with pending | ⟨-, done⟩
      · exact .inl pending
      · rw [attempt] at done
        exact absurd done (by decide)
    · exact (consistent.whole (.inl some')).same ⟨rfl, rfl, rfl, rfl⟩
    · exact Bool.or_eq_true_iff.mpr (.inl some')
  · exact ⟨consistent, .refl sdu⟩

theorem macReportReset (transmitted : Bool) :
    Quiet policy terminal (terminal.macReportReset transmitted) := by
  refine ⟨fun other here => ?_, .of_eq rfl⟩
  obtain ⟨link, is, rfl⟩ := map_eq_some_iff.mp here
  exact sound link is

end Terminal.Sound

/-! ### Runs -/

/-- **One event.** A confirmed setup either does not lower the bound or finds nothing in flight. -/
theorem terminal_step {message : Nat} {event : TerminalEvent} (covers : Covers policy)
    (sound : terminal.Sound policy)
    (agrees : ∀ endpointId request, event = .alSetup endpointId request →
      request.report = 0 ∨ request.report = 4 → ∀ link ∈ terminal.link,
        policy link.windowSize ≤ policy (Terminal.negotiatedWindow request) ∨
          ∀ sdu ∈ link.tx, ¬ sdu.inFlight)
    (stepped : terminal.step now message event = .ok after) :
    after.Sound policy ∧ terminal.Settles event after := by
  have quiet (silent : Quiet policy terminal after) :
      after.Sound policy ∧ terminal.Settles event after := ⟨silent.1, silent.settles event⟩
  cases event with
  | request tlSdu endpointId => exact quiet (sound.request stepped)
  | alSetup endpointId pdu => exact quiet (sound.alSetup (agrees endpointId pdu rfl) stepped)
  | alData pdu => exact quiet (sound.alData stepped)
  | alAck pdu =>
    dsimp only [Terminal.step] at stepped
    cases stepped
    exact sound.alAck covers pdu
  | alReconnect endpointId pdu =>
    dsimp only [Terminal.step] at stepped
    cases stepped
    exact quiet (sound.alReconnect endpointId pdu)
  | alDisconnect pdu =>
    dsimp only [Terminal.step] at stepped
    cases stepped
    exact quiet (sound.alDisconnect pdu)
  | macReport position transmitted =>
    dsimp only [Terminal.step] at stepped
    cases stepped
    exact quiet (sound.macReport position transmitted)
  | macReportReset transmitted =>
    dsimp only [Terminal.step] at stepped
    cases stepped
    exact quiet (sound.macReportReset transmitted)
  | tickEnd packetRoutes => exact quiet (sound.tickEnd covers stepped)

variable {llc : AdvancedLlc}

/-- Soundness of every terminal is kept by every event that keeps the bound. -/
theorem llc_step {next : AdvancedLlc} {event : LlcEvent} (covers : Covers policy)
    (sound : ∀ issi, (llc.terminals issi).Sound policy)
    (agrees : ∀ issi endpointId request, event = .terminal issi (.alSetup endpointId request) →
      request.report = 0 ∨ request.report = 4 → ∀ link ∈ (llc.terminals issi).link,
        policy link.windowSize ≤ policy (Terminal.negotiatedWindow request) ∨
          ∀ sdu ∈ link.tx, ¬ sdu.inFlight) (stepped : llc.step event = some next) :
    (∀ issi, (next.terminals issi).Sound policy) ∧ ∀ issi change, event = .terminal issi change →
        (llc.terminals issi).Settles change (next.terminals issi) := by
  cases event with
  | tickStart time =>
    cases stepped
    exact ⟨sound, nofun⟩
  | terminal issi change =>
    dsimp only [AdvancedLlc.step] at stepped
    split at stepped
    · cases stepped
    next after handled =>
      cases stepped
      obtain ⟨later, settles⟩ := terminal_step covers (sound issi)
        (fun endpointId request is => agrees issi endpointId request (by rw [is])) handled
      refine ⟨fun other => ?_, fun other changed same => ?_⟩
      · dsimp only
        by_cases here : other = issi
        · rw [here, update_self]
          exact later
        · rw [update_of_ne here]
          exact sound other
      · obtain ⟨rfl, rfl⟩ := LlcEvent.terminal.inj same
        dsimp only
        rw [update_self]
        exact settles

theorem sound_new (issi : Nat) : (AdvancedLlc.new.terminals issi).Sound policy :=
  Terminal.Sound.of_none rfl

theorem Terminal.Sound.inWindow (sound : terminal.Sound policy) (covers : Covers policy) :
    terminal.InWindow fun link => policy link.windowSize := by
  refine ⟨fun link is sdu member flying => ?_, fun link is place position older sdu before there
    found flying => ?_, fun link is => (sound link is).2.requests⟩
  · obtain ⟨narrow, queued⟩ := sound link is
    obtain ⟨position, found⟩ := mem_iff_getElem?.mp member
    exact (queued.sequenced.window (covers _ narrow.1 narrow.2).2 found flying).1
  · obtain ⟨narrow, queued⟩ := sound link is
    exact (queued.sequenced.window (covers _ narrow.1 narrow.2).2 found flying).2 place older before
      there

theorem covers_largest : Covers fun _ => 3 := fun _ _ narrow => ⟨narrow, le_refl 3⟩

theorem covers_own : Covers fun windowSize => windowSize :=
  fun windowSize _ narrow => ⟨le_refl windowSize, narrow⟩

theorem reachable_sound (reachable : Reachable AdvancedLlc.machine always llc) (issi : Nat) :
    (llc.terminals issi).Sound fun _ => 3 := by
  have keeps : ∀ state event next, (∀ issi, (state.terminals issi).Sound fun _ => 3) →
      always state event → AdvancedLlc.machine.step state event = some next →
      ∀ issi, (next.terminals issi).Sound fun _ => 3 := fun state event next sound _ stepped =>
    (llc_step covers_largest sound (fun _ _ _ _ _ _ _ => .inl (le_refl 3)) stepped).1
  exact reachable.invariant (fun first is => is ▸ sound_new) keeps issi

/-- As long as no terminal confirms a smaller window while messages are in flight, they are within
the agreed one. -/
theorem steady_sound (reachable : Reachable AdvancedLlc.machine AdvancedLlc.KeepsWindow llc)
    (issi : Nat) : (llc.terminals issi).Sound fun windowSize => windowSize := by
  have keeps : ∀ state event next,
      (∀ issi, (state.terminals issi).Sound fun windowSize => windowSize) →
      AdvancedLlc.KeepsWindow state event → AdvancedLlc.machine.step state event = some next →
      ∀ issi, (next.terminals issi).Sound fun windowSize => windowSize := by
    intro state event next sound kept stepped
    refine (llc_step covers_own sound (fun issi endpointId request is => ?_) stepped).1
    subst is
    exact kept
  exact reachable.invariant (fun first is => is ▸ sound_new) keeps issi

/-- **The window of a sending link.** In every state that any interleaving of requests, PDUs of any
content, receipts and ticks reaches, the messages in flight are in the largest window, in the agreed
window as long as no terminal confirms a smaller one while messages are in flight, no older message
of the queue has the number of one in flight, and at most one request for an acknowledgement is
outstanding. A receipt becomes acknowledged only by an acknowledgement of a message in flight that
was handed to the MAC whole under its number. -/
theorem sender_keeps_window {llc : AdvancedLlc}
    (reachable : Reachable AdvancedLlc.machine always llc) (issi : Nat) :
    ((llc.terminals issi).InWindow fun _ => 3) ∧
      (Reachable AdvancedLlc.machine AdvancedLlc.KeepsWindow llc →
        (llc.terminals issi).InWindow fun link => link.windowSize) ∧
      ∀ event next, llc.step (.terminal issi event) = some next →
        (llc.terminals issi).Settles event (next.terminals issi) := by
  refine ⟨(reachable_sound reachable issi).inWindow covers_largest,
    fun keeps => (steady_sound keeps issi).inWindow covers_own, fun event next stepped => ?_⟩
  exact (llc_step covers_largest (reachable_sound reachable)
    (fun _ _ _ _ _ _ _ => .inl (le_refl 3)) stepped).2 issi event rfl

def setupEvent (windowSize report : Nat) : LlcEvent :=
  .terminal 1 (.alSetup 7 ⟨true, 0, 5, false, false, none, none, 0, windowSize, 3, 3, report⟩)

def requestEvent (octet : Nat) : LlcEvent := .terminal 1 (.request (bitsOf 8 octet) 7)

def tickEvent : LlcEvent := .terminal 1 (.tickEnd [2])

def ackEvent (nr : Nat) : LlcEvent := .terminal 1 (.alAck ⟨true, [.positive nr]⟩)

theorem sender_keeps_window_one : ∃ llc : AdvancedLlc, ((llc.terminals 1).queue.length = 2 ∧
        (llc.terminals 1).reported.length = 0) ∧
      ((llc.terminals 1).InWindow fun link => link.windowSize) ∧
      ∀ next, llc.step (ackEvent 0) = some next →
        (llc.terminals 1).Settles (.alAck ⟨true, [.positive 0]⟩) (next.terminals 1) := by
  have sent : (exec AdvancedLlc.machine .new [setupEvent 3 1, requestEvent 5, tickEvent]).any
      (fun llc => (llc.terminals 1).queue.length = 2 ∧ (llc.terminals 1).reported.length = 0) =
        true := by
    decide +kernel
  have permitted : ∀ event ∈ [setupEvent 3 1, requestEvent 5, tickEvent],
      ∀ llc : AdvancedLlc, llc.KeepsWindow event := by
    intro event member llc
    simp only [mem_cons, not_mem_nil, or_false] at member
    rcases member with rfl | rfl | rfl
    · exact fun success => absurd success (by decide)
    · trivial
    · trivial
  obtain ⟨llc, run, result⟩ := exec_any permitted sent
  have reachable : Reachable AdvancedLlc.machine always llc :=
    ⟨_, rfl, run.weaken fun _ _ _ => trivial⟩
  obtain ⟨-, steady, settles⟩ := sender_keeps_window reachable 1
  exact ⟨llc, of_decide_eq_true result, steady ⟨_, rfl, run⟩, fun next => settles _ next⟩

/-- Three messages are handed over, and then the terminal confirms a window of one. -/
def shrinkEvents : List LlcEvent :=
  [setupEvent 3 1, requestEvent 5, requestEvent 6, requestEvent 7, tickEvent, setupEvent 1 0]

/-- Nine messages with a window of one, eight of which are sent and acknowledged. -/
def nineEvents : List LlcEvent :=
  setupEvent 1 1 :: (List.range 9).map requestEvent ++
    (List.range 8).flatMap (fun nr => [tickEvent, .terminal 1 (.macReport 0 true), ackEvent nr]) ++
    [tickEvent]

/-- **A window that shrinks leaves messages in flight outside; an acknowledgement that arrives before
the MAC reports anything counts; and so does a copy of the acknowledgement of the message that had
the number before.** -/
theorem window_shrinks : (∃ llc, Reachable AdvancedLlc.machine always llc ∧
      ¬ (llc.terminals 1).InWindow fun link => link.windowSize) ∧
    ∃ llc next, Reachable AdvancedLlc.machine always llc ∧ llc.step (ackEvent 0) = some next ∧
      (∃ link sdu, (llc.terminals 1).link = some link ∧ link.tx = [sdu] ∧
        sdu.attemptReporter = some .pending ∧ sdu.ns = 0 ∧ sdu.message = 9) ∧
      ⟨9, .acknowledged⟩ ∈ (next.terminals 1).reported := by
  constructor
  · have shrunk : (exec AdvancedLlc.machine .new shrinkEvents).any (fun llc =>
        (llc.terminals 1).link.any fun link => link.windowSize = 1 ∧ (link.tx[2]?).any fun sdu =>
          sdu.inFlight ∧ link.tx.head?.any fun oldest => sequenceDistance sdu.ns oldest.ns = 2) =
          true := by
      decide +kernel
    obtain ⟨llc, run, result⟩ := exec_any (fun _ _ _ => trivial) shrunk
    obtain ⟨link, is, result⟩ := (any_eq_true _ _).mp result
    obtain ⟨window, result⟩ := of_decide_eq_true result
    obtain ⟨sdu, found, result⟩ := (any_eq_true _ _).mp result
    obtain ⟨flying, result⟩ := of_decide_eq_true result
    obtain ⟨oldest, front, distance⟩ := (any_eq_true _ _).mp result
    refine ⟨llc, ⟨_, rfl, run⟩, fun inWindow => ?_⟩
    have near := inWindow.within link is sdu (mem_of_getElem? found) flying oldest front
    rw [of_decide_eq_true distance, window] at near
    exact absurd near (by decide)
  · have early : (exec AdvancedLlc.machine .new nineEvents).any (fun llc =>
        ((llc.terminals 1).link.any fun link => (link.tx[0]?).any fun sdu => link.tx = [sdu] ∧
          sdu.attemptReporter = some .pending ∧ sdu.ns = 0 ∧ sdu.message = 9) ∧
        (llc.step (ackEvent 0)).any fun next =>
          ⟨9, .acknowledged⟩ ∈ (next.terminals 1).reported) = true := by
      decide +kernel
    obtain ⟨llc, run, result⟩ := exec_any (fun _ _ _ => trivial) early
    obtain ⟨waiting, acknowledged⟩ := of_decide_eq_true result
    obtain ⟨link, is, result⟩ := (any_eq_true _ _).mp waiting
    obtain ⟨sdu, -, result⟩ := (any_eq_true _ _).mp result
    obtain ⟨next, stepped, result'⟩ := (any_eq_true _ _).mp acknowledged
    exact ⟨llc, next, ⟨_, rfl, run⟩, stepped, ⟨link, sdu, is, of_decide_eq_true result⟩,
      of_decide_eq_true result'⟩

end Bluestation
