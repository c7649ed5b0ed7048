/-
**An advanced link delivers in order, exactly once, and intact.**

A sender cuts its messages into segments and sends segments of the messages in its window, any of
them any number of times; it moves its window on when its oldest message is acknowledged. The
channel loses, repeats and reorders segments. The receiver counts messages modulo eight, so a very
late copy of a segment may carry a number that is in the window again:

* `timely_delivers` — with timely arrivals the receiver passes up the sender's messages in order,
  each exactly once and intact, and acknowledges only messages all of whose segments arrived.
* `late_copy_delivered` — without, an old message is passed up again.
-/

import Bluestation.Lib.Run
import Bluestation.Llc.AdvancedReceiver

namespace Bluestation

open Bits Fcs Machines List Option Function

/-! ### The sender and the channel -/

/-- A message and how the sender cuts it, with its check sequence, into segments. -/
structure TlSdu where
  bits : List Bool
  segments : List (List Bool)
  some_bits : bits ≠ []
  cut : segments.flatten = bits ++ sequence bits
  short : segments.length ≤ 256

/-- One segment as it is sent: whose it is, and whether it asks for an acknowledgement. -/
structure AlSegment where
  message : Nat
  part : Nat
  acknowledge : Bool
deriving DecidableEq

namespace AlSegment

variable (sdus : Nat → TlSdu)

def header (segment : AlSegment) : AlDataHeader where
  finalSegment := decide (segment.part + 1 = (sdus segment.message).segments.length)
  acknowledgementRequested := segment.acknowledge
  ns := segment.message % 8
  segment := segment.part

def payload (segment : AlSegment) : List Bool :=
  ((sdus segment.message).segments[segment.part]?).getD []

def pdu (segment : AlSegment) : BitBuffer :=
  .ofBits ((segment.header sdus).wire ++ segment.payload sdus)

end AlSegment

/-- Both ends of a link and the segments between them. -/
structure Transfer where
  receiver : AdvancedReceiver
  /-- The oldest message the sender has no acknowledgement of. -/
  base : Nat
  sent : List AlSegment
  /-- The segments that arrived, by message and part. -/
  received : List (Nat × Nat)
  delivered : List (List Bool)
  /-- The messages the receiver said it has. -/
  acknowledged : List Nat

def meant (edge windowSize : Nat) (block : AlAckBlock) : List Nat :=
  (List.range (edge + windowSize)).filter fun message =>
    edge ≤ message + windowSize ∧ message % 8 = block.nr

/-- The messages that are acknowledged as complete. -/
def acknowledgedBy (edge windowSize : Nat) : List AlOutput → List Nat
  | [] => []
  | .ack ack :: rest =>
    (ack.blocks.filter (·.acknowledgementLength = 0)).flatMap (meant edge windowSize) ++
      acknowledgedBy edge windowSize rest
  | .sdu _ :: rest => acknowledgedBy edge windowSize rest

def deliveredBy : List AlOutput → List (List Bool)
  | [] => []
  | .ack _ :: rest => deliveredBy rest
  | .sdu bits :: rest => bits :: deliveredBy rest

inductive TransferEvent where
  | transmit (segment : AlSegment)
  | arrive (segment : AlSegment)
  /-- The sender's oldest message is acknowledged. -/
  | advance

namespace Transfer

/-- The link after a segment was handled. -/
def heard (transfer : Transfer) (segment : AlSegment) (receiver : AdvancedReceiver)
    (outputs : List AlOutput) : Transfer :=
  { transfer with
    receiver := receiver
    received := (segment.message, segment.part) :: transfer.received
    delivered := transfer.delivered ++ deliveredBy outputs
    acknowledged := transfer.acknowledged ++
      acknowledgedBy transfer.delivered.length transfer.receiver.windowSize outputs }

/-- The sender sends within its window and moves on with acknowledgements; what was sent may arrive
at any time, any number of times, or never. -/
def step (sdus : Nat → TlSdu) (transfer : Transfer) : TransferEvent → Option Transfer
  | .transmit segment =>
    if transfer.base ≤ segment.message ∧
        segment.message < transfer.base + transfer.receiver.windowSize ∧
        segment.part < (sdus segment.message).segments.length then
      some { transfer with sent := segment :: transfer.sent }
    else none
  | .arrive segment =>
    if segment ∈ transfer.sent then
      match transfer.receiver.handleAlData (segment.pdu sdus) with
      | .error _ => none
      | .ok (receiver, outputs) =>
        some (transfer.heard segment receiver outputs)
    else none
  | .advance =>
    if transfer.base ∈ transfer.acknowledged then
      some { transfer with base := transfer.base + 1 }
    else none

def fresh (windowSize : Nat) : Transfer where
  receiver := ⟨windowSize, 0, fun _ => none, none⟩
  base := 0
  sent := []
  received := []
  delivered := []
  acknowledged := []

def machine (sdus : Nat → TlSdu) : Machine Transfer TransferEvent where
  start transfer := ∃ windowSize, 1 ≤ windowSize ∧ windowSize ≤ 3 ∧ transfer = fresh windowSize
  step := step sdus

/-- No segment of a message that was passed up arrives while its number is in the window. -/
def Timely (transfer : Transfer) : TransferEvent → Prop
  | .arrive segment =>
    segment.message < transfer.delivered.length →
      transfer.receiver.windowSize ≤
        sequenceDistance (segment.message % 8) transfer.receiver.nextRxNs
  | _ => True

end Transfer

/-! ### What the receiver holds -/

variable {sdus : Nat → TlSdu} {received : List (Nat × Nat)} {message edge windowSize : Nat}
  {rx : AdvancedRxSdu} {link : AdvancedReceiver}

def Arrived (sdus : Nat → TlSdu) (received : List (Nat × Nat)) (message : Nat) : Prop :=
  ∀ part < (sdus message).segments.length, (message, part) ∈ received

/-- What is held of a message is the message's. -/
structure Holds (sdus : Nat → TlSdu) (received : List (Nat × Nat)) (message : Nat)
    (rx : AdvancedRxSdu) : Prop where
  ns : rx.ns = message % 8
  genuine : ∀ part bits, rx.segments part = some bits →
    (sdus message).segments[part]? = some bits ∧ (message, part) ∈ received
  final : ∀ last, rx.finalSegment = some last → last + 1 = (sdus message).segments.length
  complete : ∀ bits, rx.complete = some bits →
    bits = (sdus message).bits ∧ Arrived sdus received message

variable {more : List (Nat × Nat)}

theorem Arrived.mono (arrived : Arrived sdus received message) (subset : received ⊆ more) :
    Arrived sdus more message :=
  fun part small => subset (arrived part small)

theorem Holds.mono (holds : Holds sdus received message rx) (subset : received ⊆ more) :
    Holds sdus more message rx where
  ns := holds.ns
  genuine part bits stored :=
    ⟨(holds.genuine part bits stored).1, subset (holds.genuine part bits stored).2⟩
  final := holds.final
  complete bits done := ⟨(holds.complete bits done).1, (holds.complete bits done).2.mono subset⟩

theorem holds_fresh : Holds sdus received message (.fresh (message % 8)) :=
  ⟨rfl, nofun, nofun, nofun⟩

/-- One more segment of the message. -/
theorem Holds.accept (holds : Holds sdus received message rx) (unfinished : rx.complete = none)
    {segment : AlSegment} (same : segment.message = message)
    (exists' : segment.part < (sdus message).segments.length)
    (arrived : (message, segment.part) ∈ received) :
    Holds sdus received message (rx.accept (segment.header sdus) (segment.payload sdus)) := by
  subst same
  refine ⟨holds.ns, fun part bits stored => ?_, fun last final => ?_, fun bits done => ?_⟩
  · dsimp only [AdvancedRxSdu.accept, AlSegment.header] at stored
    split at stored
    · exact holds.genuine part bits stored
    · by_cases here : part = segment.part
      · rw [here, update_self] at stored
        rw [here, ← stored, AlSegment.payload, getElem?_eq_getElem exists']
        exact ⟨rfl, arrived⟩
      · rw [update_of_ne here] at stored
        exact holds.genuine part bits stored
  · dsimp only [AdvancedRxSdu.accept, AlSegment.header] at final
    split at final
    · next isLast =>
      rw [← some_inj.mp final]
      exact of_decide_eq_true isLast
    · exact holds.final last final
  · exact nomatch unfinished.symm.trans done

theorem flatMap_getElem? (pieces : List (List Bool)) :
    ((List.range pieces.length).flatMap fun part => (pieces[part]?).getD []) = pieces.flatten := by
  have each : ((List.range pieces.length).map fun part => (pieces[part]?).getD []) = pieces := by
    refine ext_getElem (by simp) fun index _ inside => ?_
    simp [getElem?_eq_getElem inside]
  rw [flatMap_def, each]

/-- **When no segment is missing, the segments are the message with its check sequence.** -/
theorem Holds.assembled (holds : Holds sdus received message rx) {bits : List Bool}
    (assembled : rx.assembled = some bits) :
    bits = (sdus message).bits ++ sequence (sdus message).bits ∧ Arrived sdus received message := by
  obtain ⟨last, final, all⟩ := bind_eq_some_iff.mp assembled
  have count := holds.final last final
  split at all
  · next present =>
    have each (part : Nat) (small : part < (sdus message).segments.length) :
        ∃ stored, rx.segments part = some stored := by
      rw [← count] at small
      exact isSome_iff_exists.mp (all_eq_true.mp present part (mem_range.mpr small))
    refine ⟨?_, fun part small => ?_⟩
    · rw [← (sdus message).cut, ← flatMap_getElem?, ← count, ← some_inj.mp all]
      refine flatMap_congr fun part member => ?_
      obtain ⟨stored, is⟩ := each part (count ▸ mem_range.mp member)
      rw [is, (holds.genuine part stored is).1]
    · obtain ⟨stored, is⟩ := each part small
      exact (holds.genuine part stored is).2
  · cases all

/-- The window starts at message `edge`, and what is held is of messages in the window. -/
structure Window (sdus : Nat → TlSdu) (received : List (Nat × Nat)) (edge : Nat)
    (link : AdvancedReceiver) : Prop where
  lower : link.nextRxNs = edge % 8
  idle : link.reset = none
  narrow : link.windowSize ≤ 3
  held : ∀ ns rx, link.rxSdus ns = some rx → ∃ message, ns = message % 8 ∧ edge ≤ message ∧
    message < edge + link.windowSize ∧ Holds sdus received message rx

def Complete (link : AdvancedReceiver) (edge message : Nat) : Prop :=
  message < edge ∨ (edge ≤ message ∧ message < edge + link.windowSize ∧
    ∃ rx bits, link.rxSdus (message % 8) = some rx ∧ rx.complete = some bits)

theorem message_eq {other : Nat} (narrow : windowSize ≤ 3) (above : edge ≤ message)
    (below : message < edge + windowSize) (otherAbove : edge ≤ other)
    (otherBelow : other < edge + windowSize) (same : message % 8 = other % 8) :
    message = other := by
  omega

theorem Window.holds (window : Window sdus received edge link) (above : edge ≤ message)
    (below : message < edge + link.windowSize) (stored : link.rxSdus (message % 8) = some rx) :
    Holds sdus received message rx := by
  obtain ⟨other, same, otherAbove, otherBelow, holds⟩ := window.held _ _ stored
  rwa [message_eq window.narrow above below otherAbove otherBelow same]

theorem Window.stored (window : Window sdus received edge link) (above : edge ≤ message)
    (below : message < edge + link.windowSize) :
    Holds sdus received message ((link.rxSdus (message % 8)).getD (.fresh (message % 8))) := by
  cases stored : link.rxSdus (message % 8) with
  | none => exact holds_fresh
  | some rx => exact window.holds above below stored

theorem Window.mono (window : Window sdus received edge link) (subset : received ⊆ more) :
    Window sdus more edge link where
  lower := window.lower
  idle := window.idle
  narrow := window.narrow
  held ns rx stored := by
    obtain ⟨message, same, above, below, holds⟩ := window.held ns rx stored
    exact ⟨message, same, above, below, holds.mono subset⟩

/-! ### What is acknowledged -/

theorem meant_unique {other : Nat} {block : AlAckBlock} (narrow : windowSize ≤ 3)
    (member : other ∈ meant edge windowSize block) (nr : block.nr = message % 8)
    (above : edge ≤ message + windowSize) (below : message < edge + windowSize) :
    other = message := by
  obtain ⟨inside, near⟩ := mem_filter.mp member
  have otherBelow := mem_range.mp inside
  obtain ⟨otherAbove, same⟩ := of_decide_eq_true near
  omega

theorem acknowledgementBlock_positive
    (positive : rx.acknowledgementBlock.acknowledgementLength = 0) :
    ∃ bits, rx.complete = some bits ∧ rx.acknowledgementBlock.nr = rx.ns := by
  unfold AdvancedRxSdu.acknowledgementBlock at positive ⊢
  split at positive
  · next complete =>
    obtain ⟨bits, done⟩ := isSome_iff_exists.mp complete
    refine ⟨bits, done, ?_⟩
    rw [if_pos complete]
    rfl
  · dsimp only at positive
    omega

theorem mem_acknowledgedBy_sendAlAck {blocks : List AlAckBlock}
    (member : message ∈ acknowledgedBy edge windowSize (AdvancedReceiver.sendAlAck blocks)) :
    ∃ block ∈ blocks, block.acknowledgementLength = 0 ∧ message ∈ meant edge windowSize block := by
  unfold AdvancedReceiver.sendAlAck at member
  split at member
  · rw [acknowledgedBy, acknowledgedBy, append_nil] at member
    obtain ⟨block, filtered, speaks⟩ := mem_flatMap.mp member
    obtain ⟨listed, positive⟩ := mem_filter.mp filtered
    exact ⟨block, listed, of_decide_eq_true positive, speaks⟩
  · cases member

/-- **The blocks of the window acknowledge complete messages only.** -/
theorem Window.acknowledges (window : Window sdus received edge link)
    (overrideBlock : Option AlAckBlock)
    (negative : ∀ block, overrideBlock = some block → block.acknowledgementLength ≠ 0)
    (member : message ∈ acknowledgedBy edge link.windowSize
      (AdvancedReceiver.sendAlAck (link.acknowledgementBlocks overrideBlock))) :
    Complete link edge message := by
  obtain ⟨block, listed, positive, speaks⟩ := mem_acknowledgedBy_sendAlAck member
  obtain ⟨offset, _, is⟩ := mem_map.mp listed
  dsimp only at is
  split at is
  · next given =>
    subst is
    exact absurd positive (negative _ (filter_eq_some_iff.mp given).1)
  · cases stored : link.rxSdus ((link.nextRxNs + offset) % 8) with
    | none =>
      rw [stored] at is
      subst is
      exact absurd positive one_ne_zero
    | some rx =>
      rw [stored] at is
      subst is
      obtain ⟨bits, done, nr⟩ := acknowledgementBlock_positive positive
      obtain ⟨held, same, above, below, holds⟩ := window.held _ _ stored
      obtain rfl := meant_unique window.narrow speaks (nr.trans holds.ns) (by omega) below
      exact .inr ⟨above, below, rx, bits, same ▸ stored, done⟩

/-- **A copy of an old segment is answered with messages that were passed up.** -/
theorem behind_acknowledges {old behind : Nat} (narrow : windowSize ≤ 3) (passed : old < edge)
    (is : behind = sequenceDistance (edge % 8) (old % 8)) (near : behind ≤ windowSize)
    (member : message ∈ acknowledgedBy edge windowSize (AdvancedReceiver.sendAlAck
      ((List.range behind).map fun offset => .positive ((old % 8 + offset) % 8)))) :
    message < edge := by
  obtain ⟨block, listed, _, speaks⟩ := mem_acknowledgedBy_sendAlAck member
  obtain ⟨offset, inside, rfl⟩ := mem_map.mp listed
  have small := mem_range.mp inside
  unfold sequenceDistance at is
  have same : message = edge - behind + offset := by
    refine meant_unique narrow speaks ?_ (by omega) (by omega)
    show (old % 8 + offset) % 8 = (edge - behind + offset) % 8
    omega
  omega

/-! ### Passing up -/

/-- What was complete stays complete when messages are passed up. -/
def Advances (link after : AdvancedReceiver) (edge edge' : Nat) : Prop :=
  ∀ message, Complete link edge message → Complete after edge' message

/-- **The complete messages at the lower edge are passed up in order**, and then the message at the
lower edge is not complete. -/
theorem deliverReady_spec (rounds : Nat) (window : Window sdus received edge link)
    (enough : ∀ ns rx, link.rxSdus ns = some rx → ∀ message, ns = message % 8 → edge ≤ message →
      message < edge + link.windowSize → message < edge + rounds) :
    ∃ after count, AdvancedReceiver.deliverReady rounds link =
        (after, (List.range' edge count).map fun message => (sdus message).bits) ∧
      after.windowSize = link.windowSize ∧ Window sdus received (edge + count) after ∧
      (after.rxSdus (after.nextRxNs)).bind (·.complete) = none ∧
      (∀ message, edge ≤ message → message < edge + count → Arrived sdus received message) ∧
      Advances link after edge (edge + count) := by
  induction rounds generalizing link edge with
  | zero =>
    refine ⟨link, 0, rfl, rfl, window, ?_, fun _ _ _ => by omega, fun _ => id⟩
    cases stored : link.rxSdus link.nextRxNs with
    | none => rfl
    | some rx =>
      obtain ⟨message, same, above, below, _⟩ := window.held _ _ stored
      have := enough _ _ stored message same above below
      omega
  | succ rounds ih =>
    rw [AdvancedReceiver.deliverReady]
    cases ready : (link.rxSdus link.nextRxNs).bind (·.complete) with
    | none => exact ⟨link, 0, rfl, rfl, window, ready, fun _ _ _ => by omega, fun _ => id⟩
    | some sdu =>
      obtain ⟨rx, stored, complete⟩ := bind_eq_some_iff.mp ready
      obtain ⟨message, same, above, below, holds⟩ := window.held _ _ stored
      have lower := window.lower
      have narrow := window.narrow
      obtain rfl : message = edge := by omega
      obtain ⟨rfl, arrived⟩ := holds.complete sdu complete
      -- the message at the edge is passed up and the window moves on by one
      have passed : Window sdus received (message + 1)
          { link with
            rxSdus := Function.update link.rxSdus link.nextRxNs none
            nextRxNs := (link.nextRxNs + 1) % 8 } := by
        refine ⟨by dsimp only; omega, window.idle, window.narrow, fun ns rx' stored' => ?_⟩
        dsimp only at stored' ⊢
        by_cases here : ns = link.nextRxNs
        · rw [here, update_self] at stored'
          cases stored'
        · rw [update_of_ne here] at stored'
          obtain ⟨other, same', above', below', holds'⟩ := window.held _ _ stored'
          exact ⟨other, same', by omega, by omega, holds'⟩
      obtain ⟨after, count, delivers, width, window', waits, arrived', keeps⟩ :=
        ih passed fun ns rx' stored' other same' above' below' => by
          dsimp only at stored' below'
          by_cases here : ns = link.nextRxNs
          · rw [here, update_self] at stored'
            cases stored'
          · rw [update_of_ne here] at stored'
            obtain ⟨held, same'', above'', below'', _⟩ := window.held _ _ stored'
            have := enough _ _ stored' held same'' (by omega) (by omega)
            omega
      refine ⟨after, count + 1, ?_, width, ?_, waits, fun other above' below' => ?_, ?_⟩
      · rw [delivers, range'_succ, map_cons]
      · rwa [show message + (count + 1) = message + 1 + count by omega]
      · rcases Nat.eq_or_lt_of_le above' with rfl | later
        · exact arrived
        · exact arrived' other later (by omega)
      · intro other done
        rw [show message + (count + 1) = message + 1 + count by omega]
        refine keeps other ?_
        rcases done with old | ⟨above', below', rx', bits, stored', complete'⟩
        · exact .inl (by omega)
        · rcases Nat.eq_or_lt_of_le above' with rfl | later
          · exact .inl (Nat.lt_succ_self _)
          · refine .inr ⟨later, by dsimp only; omega, rx', bits, ?_, complete'⟩
            dsimp only
            rwa [update_of_ne (by omega)]

/-! ### One segment arrives -/

theorem acknowledgedBy_append (first second : List AlOutput) :
    acknowledgedBy edge windowSize (first ++ second) =
      acknowledgedBy edge windowSize first ++ acknowledgedBy edge windowSize second := by
  induction first with
  | nil => rfl
  | cons output rest ih =>
    cases output with
    | ack ack => rw [cons_append, acknowledgedBy, acknowledgedBy, ih, append_assoc]
    | sdu bits => rw [cons_append, acknowledgedBy, acknowledgedBy, ih]

theorem deliveredBy_append (first second : List AlOutput) :
    deliveredBy (first ++ second) = deliveredBy first ++ deliveredBy second := by
  induction first with
  | nil => rfl
  | cons output rest ih =>
    cases output with
    | ack ack => rw [cons_append, deliveredBy, deliveredBy, ih]
    | sdu bits => rw [cons_append, deliveredBy, deliveredBy, ih, cons_append]

theorem acknowledgedBy_sdus (delivered : List (List Bool)) :
    acknowledgedBy edge windowSize (delivered.map .sdu) = [] := by
  induction delivered with
  | nil => rfl
  | cons bits rest ih => rw [map_cons, acknowledgedBy, ih]

theorem deliveredBy_sdus (delivered : List (List Bool)) :
    deliveredBy (delivered.map .sdu) = delivered := by
  induction delivered with
  | nil => rfl
  | cons bits rest ih => rw [map_cons, deliveredBy, ih]

theorem deliveredBy_sendAlAck (blocks : List AlAckBlock) :
    deliveredBy (AdvancedReceiver.sendAlAck blocks) = [] := by
  unfold AdvancedReceiver.sendAlAck
  split <;> rfl

/-- What is stored for a message of the window. -/
theorem Window.store (window : Window sdus received edge link) (above : edge ≤ message)
    (below : message < edge + link.windowSize) (stored : Option AdvancedRxSdu)
    (holds : ∀ rx, stored = some rx → Holds sdus received message rx) :
    Window sdus received edge (link.store (message % 8) stored) := by
  refine ⟨window.lower, window.idle, window.narrow, fun ns rx is => ?_⟩
  dsimp only [AdvancedReceiver.store] at is
  by_cases here : ns = message % 8
  · rw [here, update_self] at is
    exact ⟨message, here, above, below, holds rx is⟩
  · rw [update_of_ne here] at is
    exact window.held ns rx is

theorem advances_store {stored : Option AdvancedRxSdu}
    (unfinished : ∀ rx, link.rxSdus (message % 8) = some rx → rx.complete = none) :
    Advances link (link.store (message % 8) stored) edge edge := by
  rintro other (old | ⟨above, below, rx, bits, is, complete⟩)
  · exact .inl old
  · refine .inr ⟨above, below, rx, bits, ?_, complete⟩
    dsimp only [AdvancedReceiver.store]
    by_cases here : other % 8 = message % 8
    · rw [here] at is
      exact absurd ((unfinished rx is).symm.trans complete) nofun
    · rwa [update_of_ne here]

/-- **Collecting a segment** stores what is the message's and acknowledges complete messages only. -/
theorem collect_spec (header : AlDataHeader) (window : Window sdus received edge link)
    (above : edge ≤ message) (below : message < edge + link.windowSize)
    (ns : header.ns = message % 8) (holds : Holds sdus received message rx)
    (unfinished : ∀ rx, link.rxSdus (message % 8) = some rx → rx.complete = none) :
    ∃ after outputs, link.collect header rx = .ok (after, outputs) ∧
      after.windowSize = link.windowSize ∧ Window sdus received edge after ∧
      Advances link after edge edge ∧ deliveredBy outputs = [] ∧
      ∀ other ∈ acknowledgedBy edge link.windowSize outputs, Complete after edge other := by
  unfold AdvancedReceiver.collect
  rw [ns]
  cases assembled : rx.assembled with
  | none =>
    have after := window.store above below (some rx) fun _ same =>
      some_inj.mp same ▸ holds
    refine ⟨_, _, rfl, rfl, after, advances_store unfinished, ?_, fun other member => ?_⟩
    · split
      · exact deliveredBy_sendAlAck _
      · rfl
    · split at member
      · exact after.acknowledges none nofun member
      · cases member
  | some bits =>
    obtain ⟨rfl, arrived⟩ := holds.assembled assembled
    have length : ((sdus message).bits ++ sequence (sdus message).bits).length - 32 =
        (sdus message).bits.length := by
      rw [length_append, length_sequence, Nat.add_sub_cancel]
    have after := window.store above below
      (some { rx with complete := some (sdus message).bits }) fun _ same => by
        rw [← some_inj.mp same]
        exact ⟨holds.ns, holds.genuine, holds.final, fun done is =>
          ⟨(some_inj.mp is).symm, arrived⟩⟩
    dsimp only
    rw [checkFcs_protect (sdus message).some_bits, length, take_left' rfl]
    refine ⟨_, _, rfl, rfl, after, advances_store unfinished, deliveredBy_sendAlAck _, ?_⟩
    exact fun other member => after.acknowledges none nofun member

/-- What is passed up comes next and has arrived, and what then comes next is not complete. -/
def PassesUp (sdus : Nat → TlSdu) (received : List (Nat × Nat)) (link : AdvancedReceiver) (edge : Nat)
    (after : AdvancedReceiver) (outputs : List AlOutput) (count : Nat) : Prop :=
  after.windowSize = link.windowSize ∧ Window sdus received (edge + count) after ∧
    (after.rxSdus (after.nextRxNs)).bind (·.complete) = none ∧
    deliveredBy outputs = ((List.range' edge count).map fun message => (sdus message).bits) ∧
    ∀ message, edge ≤ message → message < edge + count → Arrived sdus received message

/-- **One timely segment**: what is passed up comes next, and only complete messages are
acknowledged. -/
theorem handleAlData_spec (window : Window sdus received edge link)
    (waits : (link.rxSdus link.nextRxNs).bind (·.complete) = none) {segment : AlSegment}
    (sendable : segment.message < edge + link.windowSize)
    (exists' : segment.part < (sdus segment.message).segments.length)
    (arrived : (segment.message, segment.part) ∈ received)
    (timely : segment.message < edge →
      link.windowSize ≤ sequenceDistance (segment.message % 8) link.nextRxNs) :
    ∃ after outputs count, link.handleAlData (segment.pdu sdus) = .ok (after, outputs) ∧
      PassesUp sdus received link edge after outputs count ∧ Advances link after edge (edge + count) ∧
      ∀ message ∈ acknowledgedBy edge link.windowSize outputs,
        Complete after (edge + count) message := by
  have lower := window.lower
  have narrow := window.narrow
  have short := (sdus segment.message).short
  obtain ⟨later, read, payload⟩ := (AlDataHeader.reads_fromBitbuf
    (segment.header sdus) (Nat.mod_lt _ (by norm_num))
    (lt_of_lt_of_le exists' short)).ofBits (segment.payload sdus)
  -- whatever leaves the link as it is passes nothing up
  have quiet {outputs : List AlOutput} (nothing : deliveredBy outputs = [])
      (honest : ∀ message ∈ acknowledgedBy edge link.windowSize outputs,
        Complete link edge message) :
      ∃ after outputs' count, Except.ok (link, outputs) =
          (Except.ok (after, outputs') : Except Fault _) ∧
        PassesUp sdus received link edge after outputs' count ∧
        Advances link after edge (edge + count) ∧ ∀ message ∈ acknowledgedBy edge link.windowSize outputs',
          Complete after (edge + count) message :=
    ⟨link, outputs, 0, rfl, ⟨rfl, window, waits, nothing, fun _ _ _ => by omega⟩,
      fun _ => id, honest⟩
  unfold AdvancedReceiver.handleAlData AlSegment.pdu
  rw [read]
  dsimp only
  rw [window.idle, if_neg (by exact Bool.false_ne_true)]
  have number : (segment.header sdus).ns = segment.message % 8 := rfl
  rw [number]
  by_cases outside : link.windowSize ≤ sequenceDistance (segment.message % 8) link.nextRxNs
  · have passed : segment.message < edge := by
      unfold sequenceDistance at outside
      omega
    rw [if_pos outside]
    split
    · next near =>
      refine quiet (deliveredBy_sendAlAck _) fun message member => .inl ?_
      exact behind_acknowledges narrow passed (by rw [lower]) near.2 member
    · exact quiet rfl fun message member => nomatch member
  · have above : edge ≤ segment.message := not_lt.mp fun early => outside (timely early)
    rw [if_neg outside]
    have holds := window.stored above sendable
    split
    · exact quiet (deliveredBy_sendAlAck _) fun message member => window.acknowledges none nofun member
    · next unfinished =>
      have incomplete : ((link.rxSdus (segment.message % 8)).getD
          (.fresh (segment.message % 8))).complete = none := by
        simpa using unfinished
      have notYet : ∀ rx, link.rxSdus (segment.message % 8) = some rx → rx.complete = none := by
        intro rx stored
        rwa [stored, getD_some] at incomplete
      obtain ⟨collected, acks, ran, width, window', keeps, silent, honest⟩ :=
        collect_spec (segment.header sdus) window above sendable number
          (holds.accept incomplete rfl exists' arrived) notYet
      obtain ⟨after, count, delivers, width', window'', waits', arrived', keeps'⟩ :=
        deliverReady_spec 8 window' fun _ _ _ _ _ _ below => by omega
      rw [payload, ran, ok_bind]
      rw [delivers]
      refine ⟨after, _, count, rfl, ⟨width'.trans width, window'', waits', ?_, arrived'⟩, ?_, ?_⟩
      · rw [deliveredBy_append, silent, deliveredBy_sdus, nil_append]
      · exact fun message done => keeps' message (keeps message done)
      · intro message member
        rw [acknowledgedBy_append, acknowledgedBy_sdus, append_nil] at member
        exact keeps' message (honest message member)

/-! ### Whole transfers -/

namespace Transfer

variable {transfer next : Transfer}

/-- What every timely step preserves. -/
structure Sound (sdus : Nat → TlSdu) (transfer : Transfer) : Prop where
  window : Window sdus transfer.received transfer.delivered.length transfer.receiver
  waits : (transfer.receiver.rxSdus transfer.receiver.nextRxNs).bind (·.complete) = none
  inOrder : transfer.delivered =
    (List.range transfer.delivered.length).map fun message => (sdus message).bits
  arrived : ∀ message < transfer.delivered.length, Arrived sdus transfer.received message
  acknowledged : ∀ message ∈ transfer.acknowledged,
    Complete transfer.receiver transfer.delivered.length message
  behind : transfer.base ≤ transfer.delivered.length
  sent : ∀ segment ∈ transfer.sent,
    segment.message < transfer.base + transfer.receiver.windowSize ∧
      segment.part < (sdus segment.message).segments.length

theorem sound_fresh (narrow : windowSize ≤ 3) : Sound sdus (fresh windowSize) where
  window := ⟨rfl, rfl, narrow, fun _ _ stored => absurd stored nofun⟩
  waits := rfl
  inOrder := rfl
  arrived _ early := absurd early (Nat.not_lt_zero _)
  acknowledged _ member := nomatch member
  behind := le_rfl
  sent _ member := nomatch member

variable (sound : Sound sdus transfer)

include sound

/-- **The arrival of a timely segment** does not fail and preserves soundness. -/
theorem Sound.arrive {segment : AlSegment} (member : segment ∈ transfer.sent)
    (timely : transfer.Timely (.arrive segment)) :
    ∃ after, step sdus transfer (.arrive segment) = some after ∧ Sound sdus after := by
  obtain ⟨sendable, exists'⟩ := sound.sent segment member
  have behind := sound.behind
  have subset : transfer.received ⊆ (segment.message, segment.part) :: transfer.received :=
    subset_cons_self _ _
  obtain ⟨receiver, outputs, count, handled, ⟨width, window, waits, passed, arrived⟩, keeps, honest⟩ :=
    handleAlData_spec (sound.window.mono subset) sound.waits (by omega) exists' mem_cons_self timely
  have length : (transfer.delivered ++ deliveredBy outputs).length =
      transfer.delivered.length + count := by
    rw [passed, length_append, length_map, length_range']
  refine ⟨transfer.heard segment receiver outputs, ?_, ?_⟩
  · dsimp only [step]
    rw [if_pos member, handled]
  · refine ⟨?_, waits, ?_, ?_, ?_, ?_, ?_⟩ <;> dsimp only [heard]
    · rwa [length]
    · rw [length, passed, range_eq_range', ← range'_append_1, zero_add, map_append,
        ← range_eq_range', ← sound.inOrder]
    · intro message early
      rw [length] at early
      by_cases old : message < transfer.delivered.length
      · exact (sound.arrived message old).mono subset
      · exact arrived message (not_lt.mp old) early
    · intro message acked
      rw [length]
      rcases mem_append.mp acked with before | new
      · exact keeps message (sound.acknowledged message before)
      · exact honest message new
    · omega
    · rw [width]
      exact sound.sent

theorem sound_step {event : TransferEvent} (timely : transfer.Timely event)
    (stepped : step sdus transfer event = some next) : Sound sdus next := by
  cases event with
  | transmit segment =>
    dsimp only [step] at stepped
    split at stepped
    · next allowed =>
      cases stepped
      refine { sound with sent := fun other member => ?_ }
      rcases mem_cons.mp member with rfl | before
      · exact ⟨allowed.2.1, allowed.2.2⟩
      · exact sound.sent other before
    · cases stepped
  | arrive segment =>
    by_cases member : segment ∈ transfer.sent
    · obtain ⟨after, ran, sound'⟩ := sound.arrive member timely
      rw [ran] at stepped
      exact some_inj.mp stepped ▸ sound'
    · dsimp only [step] at stepped
      rw [if_neg member] at stepped
      cases stepped
  | advance =>
    dsimp only [step] at stepped
    split at stepped
    · next acked =>
      cases stepped
      have behind := sound.behind
      refine { sound with behind := ?_, sent := fun segment member => ?_ }
      · -- the message at the lower edge is not complete, so it was not acknowledged
        rcases sound.acknowledged _ acked with passed | ⟨above, _, rx, bits, stored, complete⟩
        · exact passed
        · have edge : transfer.base = transfer.delivered.length := le_antisymm behind above
          rw [edge, ← sound.window.lower] at stored
          have waits := sound.waits
          rw [stored, bind_some, complete] at waits
          cases waits
      · obtain ⟨sendable, exists'⟩ := sound.sent segment member
        exact ⟨by dsimp only; omega, exists'⟩
    · cases stepped

/-- What has been passed up are the first messages of the sender, in order, each exactly once and
intact, and all segments of every acknowledged message have arrived. -/
def Delivers (sdus : Nat → TlSdu) (transfer : Transfer) : Prop :=
  transfer.delivered =
    ((List.range transfer.delivered.length).map fun message => (sdus message).bits) ∧
  ∀ message ∈ transfer.acknowledged, Arrived sdus transfer.received message

theorem Sound.delivers : transfer.Delivers sdus := by
  refine ⟨sound.inOrder, fun message member => ?_⟩
  rcases sound.acknowledged message member with passed | ⟨above, below, rx, bits, stored, complete⟩
  · exact sound.arrived message passed
  · exact ((sound.window.holds above below stored).complete bits complete).2

end Transfer

/-- **An advanced link delivers in order, exactly once, and intact**, and acknowledges nothing that
has not arrived, as long as arrivals are timely; no timely arrival fails. -/
theorem timely_delivers {transfer : Transfer}
    (reachable : Reachable (Transfer.machine sdus) Transfer.Timely transfer) :
    transfer.Delivers sdus ∧ ∀ segment ∈ transfer.sent, transfer.Timely (.arrive segment) →
      (Transfer.step sdus transfer (.arrive segment)).isSome := by
  have sound : Transfer.Sound sdus transfer := by
    refine reachable.invariant (fun first started => ?_)
      fun _ _ _ sound timely stepped => Transfer.sound_step sound timely stepped
    obtain ⟨windowSize, _, narrow, rfl⟩ := started
    exact Transfer.sound_fresh narrow
  refine ⟨sound.delivers, fun segment member timely => ?_⟩
  obtain ⟨after, ran, _⟩ := sound.arrive member timely
  rw [ran]
  rfl

/-! ### A late copy -/

def TlSdu.single (bits : List Bool) (some_bits : bits ≠ []) : TlSdu where
  bits := bits
  segments := [bits ++ sequence bits]
  some_bits := some_bits
  cut := by rw [List.flatten_cons, List.flatten_nil, List.append_nil]
  short := by norm_num

def numbered (message : Nat) : TlSdu :=
  .single (bitsOf 8 message) fun empty => absurd (congrArg List.length empty) (by
    rw [length_bitsOf]
    norm_num)

def exchange (message : Nat) : List TransferEvent :=
  [.transmit ⟨message, 0, true⟩, .arrive ⟨message, 0, true⟩, .advance]

theorem timely_delivers_first : ∃ transfer : Transfer, transfer.delivered = [(numbered 0).bits] ∧
      transfer.Delivers numbered := by
  have arrives : (Transfer.step numbered (Transfer.fresh 1) (.transmit ⟨0, 0, true⟩)).any
      (fun sent => sent.delivered = [] ∧ (Transfer.step numbered sent (.arrive ⟨0, 0, true⟩)).any
          (fun transfer => transfer.delivered = [(numbered 0).bits]) = true) = true := by
    decide +kernel
  obtain ⟨sent, transmitted, result⟩ := (any_eq_true _ _).mp arrives
  obtain ⟨nothing, leads⟩ := of_decide_eq_true result
  obtain ⟨transfer, arrived, delivered⟩ := (any_eq_true _ _).mp leads
  have timely : sent.Timely (.arrive ⟨0, 0, true⟩) := fun passed => by
    rw [nothing] at passed
    exact absurd passed (Nat.not_lt_zero _)
  refine ⟨transfer, of_decide_eq_true delivered, (timely_delivers
    ⟨Transfer.fresh 1, ⟨1, by norm_num, by norm_num, rfl⟩, ?_⟩).1⟩
  exact .tail (.single ⟨.transmit ⟨0, 0, true⟩, trivial, transmitted⟩)
    ⟨.arrive ⟨0, 0, true⟩, timely, arrived⟩

/-- Eight messages are exchanged, then the first one arrives again. -/
def lateCopyEvents : List TransferEvent :=
  (List.range 8).flatMap exchange ++ [.arrive ⟨0, 0, true⟩]

/-- The only segment of a message without bits: nothing but a check sequence. -/
def emptyMessage : BitBuffer := .ofBits ((⟨true, true, 0, 0⟩ : AlDataHeader).wire ++ bitsOf 32 0)

/-- **A late copy of the first message is passed up as the ninth and acknowledged.** And a message
without bits makes the check of its sequence overflow. -/
theorem late_copy_delivered : (∃ transfer, Reachable (Transfer.machine numbered) always transfer ∧
      transfer.receiver.windowSize = 1 ∧ transfer.delivered.length = 9 ∧
      transfer.delivered[8]? = some (numbered 0).bits ∧ 8 ∈ transfer.acknowledged ∧
      (8, 0) ∉ transfer.received ∧ ¬ transfer.Delivers numbered) ∧
    (Transfer.fresh 1).receiver.handleAlData emptyMessage = .error .panic := by
  refine ⟨?_, rfl⟩
  have start : (Transfer.machine numbered).start (.fresh 1) := ⟨1, by norm_num, by norm_num, rfl⟩
  obtain ⟨transfer, reached, width, length, copy, acked, missing⟩ := reachable_exec
    (fun transfer => transfer.receiver.windowSize = 1 ∧ transfer.delivered.length = 9 ∧
      transfer.delivered[8]? = some (numbered 0).bits ∧ 8 ∈ transfer.acknowledged ∧
      (8, 0) ∉ transfer.received) lateCopyEvents start (by decide +kernel)
  refine ⟨transfer, reached, width, length, copy, acked, missing, fun delivers => ?_⟩
  exact missing (delivers.2 8 acked 0 (by decide))

end Bluestation
