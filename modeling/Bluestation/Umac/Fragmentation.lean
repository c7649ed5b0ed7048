/-
**Fragmentation loses, duplicates and reorders nothing.**

A message is offered one MAC block after another. Each call either leaves the block as it is or
writes one PDU into it; the scheduler may put more behind that PDU before the block is sent. What a
receiver takes out of the finished blocks, in order, is the message.

* `getNextChunk_waiting` — **the first chunk**: the whole message, nothing, or the start of a chain.
* `getNextChunk_chained` — **a later chunk**: the end of the chain, nothing, or a middle fragment.
* `transmit_delivers` — **the whole run**: what was received and what is still held are the message.
-/

import Bluestation.Umac.BsFrag
import Bluestation.Umac.DownlinkReceiver

namespace Bluestation

open Bits List Nat Receiver BitBuffer BsFragger MacResource FillBits

namespace Fragmentation

variable {Key : Type}

/-! ### Calls and finished blocks -/

/-- The longest block whose octet count is a plain length indication, in bits. A full slot has 268. -/
def maxBlockBits : Nat := 57 * 8

/-- A block that may be offered: written up to an octet, or full. -/
structure Offered (block : BitBuffer) : Prop where
  window : block.Window
  aligned : block.getLenWritten % 8 = 0 ∨ block.getLenRemaining = 0
  size : block.getLenRemaining ≤ maxBlockBits

/-- A block as it was offered and as the call left it. -/
structure Call where
  before : BitBuffer
  after : BitBuffer

/-- Offer one block after another until the message is complete. -/
def transmit (fragger : BsFragger Key) :
    List BitBuffer → Except Fault (List Call × BsFragger Key)
  | [] => .ok ([], fragger)
  | block :: blocks => do
    let ((complete, fragger), after) ← fragger.getNextChunk block
    if complete then pure ([⟨block, after⟩], fragger)
    else
      let (calls, fragger) ← transmit fragger blocks
      pure (⟨block, after⟩ :: calls, fragger)

/-- The block as it is sent: what the call left, with anything at all behind it. -/
structure Finishes (call : Call) (final : BitBuffer) : Prop where
  stop : final.stop = call.after.stop
  size : final.bits.length = call.after.bits.length
  written : final.bits.take call.after.pos = call.after.bits.take call.after.pos

/-- What a receiver takes out of the blocks that a PDU was written to, in order. -/
def receiveAll : List Call → List BitBuffer → Except Fault (List DownlinkPdu)
  | call :: calls, final :: finals =>
    if call.after.pos = call.before.pos then receiveAll calls finals
    else do
      let pdu ← Receiver.receive
        ((final.bits.drop call.before.pos).take (final.stop - call.before.pos))
      let pdus ← receiveAll calls finals
      pure (pdu :: pdus)
  | _, _ => .ok []

/-- **The channel allocation is delivered once**: in the only PDU, or in the last of a chain whose
other PDUs carry none. -/
def AllocDelivered (alloc : Option ChanAllocElement) (pdus : List DownlinkPdu) : Prop :=
  (∃ header sdu, pdus = [.resource header sdu] ∧
    header.lengthInd ≠ macResourceLengthFragStart ∧ header.chanAllocElement = alloc) ∨
  (∃ header sdu middle last rest, pdus = .resource header sdu :: (middle ++ [.macEnd last rest]) ∧
    header.lengthInd = macResourceLengthFragStart ∧ header.chanAllocElement = none ∧
    (∀ pdu ∈ middle, ∃ frag sdu, pdu = .frag frag sdu) ∧ last.chanAllocElement = alloc)

/-! ### One call that writes a PDU -/

/-- The call wrote a PDU that is taken apart as `pdu`, whatever follows it in the block. -/
def Emits (call : Call) (pdu : DownlinkPdu) : Prop :=
  ∃ bits : List Bool, bits ≠ [] ∧ bits.length ≤ call.before.getLenRemaining ∧
    call.after = call.before.put bits ∧
    ∀ tail : List Bool, tail.length = call.before.getLenRemaining - bits.length →
      Receiver.receive (bits ++ tail) = .ok pdu

variable {pdu : DownlinkPdu}

/-- **A written PDU is received from the finished block.** -/
theorem receive_of_emits {call : Call} {final : BitBuffer} (window : call.before.Window)
    (emits : Emits call pdu) (finishes : Finishes call final) :
    call.after.pos ≠ call.before.pos ∧ receive
      ((final.bits.drop call.before.pos).take (final.stop - call.before.pos)) = .ok pdu := by
  obtain ⟨before, after⟩ := call
  obtain ⟨bits, some, room, left, received⟩ := emits
  simp only at window room left received finishes ⊢
  subst left
  have count : bits.length ≠ 0 := fun none => some (length_eq_zero_iff.mp none)
  have whole := (put_window window room).stop_le
  obtain ⟨stop, size, written⟩ := finishes
  simp only [getLenRemaining, put_stop, put_pos] at *
  refine ⟨by omega, ?_⟩
  have front : (final.bits.drop before.pos).take bits.length = bits := by
    have cut := congrArg (List.drop before.pos) written
    rw [drop_take, drop_take, Nat.add_sub_cancel_left] at cut
    rw [cut]
    exact bits_put window bits
  have split : (final.bits.drop before.pos).take (final.stop - before.pos) =
      bits ++ ((final.bits.drop before.pos).take (final.stop - before.pos)).drop bits.length := by
    rw [← take_append_drop bits.length
      ((final.bits.drop before.pos).take (final.stop - before.pos)), take_take,
      min_eq_left (by omega), front]
    simp
  rw [split]
  refine received _ ?_
  simp only [length_drop, length_take]
  omega

/-- A call that wrote a PDU moved on in its block. -/
theorem Emits.moved {call : Call} (emits : Emits call pdu) : call.before.pos < call.after.pos := by
  obtain ⟨bits, some, -, left, -⟩ := emits
  rw [left]
  exact Nat.lt_add_of_pos_right (length_pos_of_ne_nil some)

theorem Emits.ne {block after : BitBuffer} (emits : Emits ⟨block, after⟩ pdu) : after ≠ block := by
  rintro rfl
  exact lt_irrefl _ emits.moved

/-! ### A message that has not started -/

/-- Nothing of the message is sent. -/
structure Waiting (resource : MacResource) (sdu : List Bool) (fragger : BsFragger Key) :
    Prop where
  resource_eq : fragger.resource = resource
  chanAlloc_eq : fragger.chanAlloc = none
  grant_eq : fragger.finalSlotGrant = none
  unstarted : fragger.macHdrIsWritten = false
  unfinished : fragger.isFullyTransmitted = false
  window : fragger.sdu.Window
  atStart : fragger.sdu.getPos = 0
  sdu_eq : fragger.sdu.unread = sdu

/-- A chain has started; `rest` is still to be sent. -/
structure Chained (alloc : Option ChanAllocElement) (rest : List Bool)
    (fragger : BsFragger Key) : Prop where
  chanAlloc_eq : fragger.chanAlloc = alloc
  encodable : ∀ element ∈ alloc, element.Encodable
  grant : ∀ grant ∈ fragger.finalSlotGrant, grant.grantingDelay.InRange
  started : fragger.macHdrIsWritten = true
  unfinished : fragger.isFullyTransmitted = false
  window : fragger.sdu.Window
  rest_eq : fragger.sdu.unread = rest

/-- What a first call can do. -/
inductive FirstChunk (resource : MacResource) (sdu : List Bool) (call : Call)
    (fragger : BsFragger Key) : Bool → Prop
  | whole (header : MacResource) (emits : Emits call (.resource header sdu))
      (plain : header.lengthInd ≠ macResourceLengthFragStart)
      (delivered : header.chanAllocElement = resource.chanAllocElement)
      (done : fragger.isFullyTransmitted = true) (emptied : fragger.sdu.unread = []) :
      FirstChunk resource sdu call fragger true
  | deferred (same : call.after = call.before) (waiting : Waiting resource sdu fragger) :
      FirstChunk resource sdu call fragger false
  | started (header : MacResource) (data rest : List Bool)
      (emits : Emits call (.resource header data))
      (start : header.lengthInd = macResourceLengthFragStart)
      (noAlloc : header.chanAllocElement = none) (split : data ++ rest = sdu)
      (chained : Chained resource.chanAllocElement rest fragger) :
      FirstChunk resource sdu call fragger false

/-- What a later call can do. -/
inductive NextChunk (alloc : Option ChanAllocElement) (rest : List Bool) (call : Call)
    (fragger : BsFragger Key) : Bool → Prop
  | ended (header : MacEndDl) (emits : Emits call (.macEnd header rest))
      (delivered : header.chanAllocElement = alloc) (done : fragger.isFullyTransmitted = true)
      (emptied : fragger.sdu.unread = []) : NextChunk alloc rest call fragger true
  | deferred (same : call.after = call.before) (chained : Chained alloc rest fragger) :
      NextChunk alloc rest call fragger false
  | middle (header : MacFragDl) (data left : List Bool) (emits : Emits call (.frag header data))
      (split : data ++ left = rest) (chained : Chained alloc left fragger) :
      NextChunk alloc rest call fragger false

/-! ### The first chunk -/

section FirstChunk

variable {resource : MacResource} {sdu : List Bool} {fragger : BsFragger Key} {block : BitBuffer}

section

variable (encodable : resource.Encodable)

include encodable

theorem sendable_whole {total filled : Nat} (least : resource.wire.length ≤ total)
    (size : total ≤ maxBlockBits) (quiet : resource.isNullPdu = true → filled = 0) :
    (indicated resource ((total + 7) / 8) (decide (0 < filled))).Sendable := by
  have atLeast := resource.wire_length_ge
  simp only [maxBlockBits] at size
  refine ⟨indicated_encodable encodable _ _, ?_, ?_, ?_⟩
  · change 0 < (total + 7) / 8
    omega
  · change (total + 7) / 8 < 2 ^ 6
    omega
  · intro isNull
    rw [quiet isNull]
    rfl

theorem sendable_start : (indicated resource macResourceLengthFragStart false).Sendable :=
  ⟨indicated_encodable encodable _ _, succ_pos _, lt_succ_self _, fun _ => rfl⟩

/-- **The whole message goes out in one MAC-RESOURCE.** -/
theorem emits_whole {total filled : Nat} (length : total = resource.wire.length + sdu.length + filled)
    (room : total ≤ block.getLenRemaining) (size : total ≤ maxBlockBits)
    (aligned : total % 8 = 0 ∨ total = block.getLenRemaining)
    (quiet : resource.isNullPdu = true → filled = 0) :
    Emits ⟨block, block.put ((indicated resource ((total + 7) / 8)
        (decide (0 < filled))).wire ++ (sdu ++ fill filled))⟩
      (.resource (indicated resource ((total + 7) / 8) (decide (0 < filled))).heard sdu) := by
  have sendable := sendable_whole encodable (by omega) size quiet
  have atLeast := resource.wire_length_ge
  have width : ((indicated resource ((total + 7) / 8) (decide (0 < filled))).wire ++
      (sdu ++ fill filled)).length = total := by
    simp only [length_append, length_wire_indicated, length_fill]
    omega
  refine ⟨_, ?_, by rw [width]; exact room, rfl, ?_⟩
  · intro none
    rw [none] at width
    simp only [length_nil] at width
    omega
  · intro tail rest
    simp only [maxBlockBits] at size
    rw [append_assoc, append_assoc]
    refine receive_resource sendable rfl ?_ ?_ ?_
    · change (total + 7) / 8 < 0b111010
      omega
    · rw [length_wire_indicated, ← length]
      rfl
    · rw [length_wire_indicated]
      simp only at rest
      omega

/-- **The first fragment goes out in a MAC-RESOURCE that fills its block.** -/
theorem emits_start {data : List Bool}
    (fits : resource.wire.length + data.length = block.getLenRemaining) :
    Emits ⟨block, block.put ((indicated resource macResourceLengthFragStart false).wire ++ data)⟩
      (.resource (indicated resource macResourceLengthFragStart false).heard data) := by
  have atLeast := resource.wire_length_ge
  have width : ((indicated resource macResourceLengthFragStart false).wire ++
      data).length = block.getLenRemaining := by
    simp only [length_append, length_wire_indicated]
    omega
  refine ⟨_, ?_, le_of_eq width, rfl, ?_⟩
  · intro none
    rw [none] at width
    simp only [length_nil] at width
    omega
  · intro tail rest
    rw [width, Nat.sub_self] at rest
    rw [length_eq_zero_iff.mp rest, append_nil]
    exact receive_fragStart (sendable_start encodable) rfl rfl

def withoutAlloc (resource : MacResource) : MacResource := { resource with chanAllocElement := none }

theorem withoutAlloc_encodable : (withoutAlloc resource).Encodable :=
  { encodable with
    nullPdu_unset := fun isNull =>
      ⟨(encodable.nullPdu_unset isNull).1, (encodable.nullPdu_unset isNull).2.1,
        (encodable.nullPdu_unset isNull).2.2.1, rfl⟩
    chanAlloc := nofun }

end

/-- The message does not fit, and there is no room for a chain, or the message fits without its
channel allocation. -/
def Defers (resource : MacResource) (sdu : List Bool) (room : Nat) : Prop :=
  room < resource.wire.length + sdu.length ∧
    (room < minSlotCapForResFragStart ∨ room < resource.wire.length ∨
      resource.chanAllocElement.isSome = true ∧
        (withoutAlloc resource).wire.length + sdu.length ≤ room)

def concluded (fragger : BsFragger Key) (complete : Bool) (reporter : Option TxReporter) :
    BsFragger Key :=
  { fragger with isFullyTransmitted := complete, txReporter := reporter }

/-- **A chain starts**: the fragger that wrote a first fragment holds the rest of the message. -/
theorem started_of (fragger : BsFragger Key) (alloc : Option ChanAllocElement) (space : Nat)
    (encodable : resource.Encodable) (noAlloc : resource.chanAllocElement = none)
    (allocEncodable : ∀ element ∈ alloc, element.Encodable)
    (resource_eq : fragger.resource = resource) (chanAlloc_eq : fragger.chanAlloc = alloc)
    (grant_eq : fragger.finalSlotGrant = none) (sduWindow : fragger.sdu.Window)
    (sdu_eq : fragger.sdu.unread = sdu) (window : block.Window)
    (fits : resource.wire.length + space = block.getLenRemaining) (more : space ≤ sdu.length) :
    ∃ after written, fragger.writeFirstFragment space block = .ok (written, after) ∧
      ∀ reporter, ∃ header data rest, Emits ⟨block, after⟩ (.resource header data) ∧
        header.lengthInd = macResourceLengthFragStart ∧ header.chanAllocElement = none ∧
        data ++ rest = sdu ∧
        Chained alloc rest (concluded written false reporter) := by
  subst resource_eq
  have held : fragger.sdu.getLenRemaining = sdu.length := by
    rw [← sdu_eq, length_unread sduWindow]
  have taken : (sdu.take space).length = space := by
    rw [length_take]
    omega
  obtain ⟨region, wrote⟩ := writeFirstFragment_ok window sduWindow
    (sendable_start encodable) fits (by omega)
  refine ⟨_, _, wrote, fun reporter =>
    ⟨(indicated fragger.resource macResourceLengthFragStart false).heard,
      sdu.take space, sdu.drop space, ?_, ?_, ?_, ?_, ?_⟩⟩
  · rw [sdu_eq]
    exact emits_start encodable (by rw [taken]; exact fits)
  · rw [heard_lengthInd]
    rfl
  · rw [heard_chanAlloc (indicated_encodable encodable _ _)]
    exact noAlloc
  · exact take_append_drop space sdu
  · refine ⟨chanAlloc_eq, allocEncodable, ?_, rfl, rfl, ?_, ?_⟩
    · intro grant member
      cases grant_eq.symm.trans member
    · have posLe := sduWindow.pos_le
      refine ⟨?_, ?_, sduWindow.stop_le⟩
      · exact le_add_right_of_le sduWindow.start_le
      · change fragger.sdu.pos + space ≤ fragger.sdu.stop
        rw [getLenRemaining] at held
        omega
    · change (fragger.sdu.skip space).unread = sdu.drop space
      rw [unread_skip, sdu_eq]

theorem waiting_concluded (waiting : Waiting resource sdu fragger) (reporter : Option TxReporter) :
    Waiting resource sdu (concluded fragger false reporter) :=
  ⟨waiting.resource_eq, waiting.chanAlloc_eq, waiting.grant_eq, waiting.unstarted, rfl,
    waiting.window, waiting.atStart, waiting.sdu_eq⟩

/-- **With its channel allocation delayed, a chain starts or the message is deferred.** -/
theorem startWithoutChanAlloc_waiting (encodable : resource.Encodable)
    (waiting : Waiting resource sdu fragger) (window : block.Window)
    (hasAlloc : resource.chanAllocElement.isSome = true)
    (fits : resource.wire.length ≤ block.getLenRemaining) :
    ∃ next after, fragger.startWithoutChanAlloc sdu.length block = .ok ((false, next), after) ∧
      (after = block ↔ (withoutAlloc resource).wire.length + sdu.length ≤ block.getLenRemaining) ∧
      ∀ reporter, FirstChunk resource sdu ⟨block, after⟩ (concluded next false reporter) false := by
  have bare := withoutAlloc_encodable encodable
  have shorter : (withoutAlloc resource).wire.length ≤ resource.wire.length := by
    have address : (withoutAlloc resource).wireAddress = resource.wireAddress := rfl
    have elements : (withoutAlloc resource).wireElements.length ≤ resource.wireElements.length := by
      obtain ⟨element, given⟩ := Option.isSome_iff_exists.mp hasAlloc
      have bareNull : (withoutAlloc resource).isNullPdu = resource.isNullPdu := rfl
      rw [wireElements, wireElements, bareNull]
      by_cases isNull : resource.isNullPdu = true
      · rw [if_pos isNull, if_pos isNull]
      · rw [if_neg isNull, if_neg isNull]
        simp only [length_append, withoutAlloc, given, wireFlagged, length_bitsOf]
        omega
    simp only [wire, length_append, length_bitsOf, address]
    omega
  have headerLen : ({ fragger.resource with chanAllocElement := none } :
      MacResource).computeHeaderLen = .ok (withoutAlloc resource).wire.length := by
    rw [waiting.resource_eq]
    exact computeHeaderLen_ok bare
  rw [startWithoutChanAlloc, bind_ok (get_ok block)]
  rw [lift_bind headerLen, lift_bind (assertThat_of (le_trans shorter fits))]
  by_cases fit : sdu.length ≤ block.getLenRemaining - (withoutAlloc resource).wire.length
  · refine ⟨_, _, by rw [if_pos fit]; rfl, iff_of_true rfl (by omega),
      fun reporter => .deferred rfl ?_⟩
    exact ⟨waiting.resource_eq, rfl, waiting.grant_eq, waiting.unstarted, rfl, waiting.window,
      waiting.atStart, waiting.sdu_eq⟩
  · obtain ⟨after, written, wrote, started⟩ := started_of
      { fragger with
        chanAlloc := fragger.resource.chanAllocElement
        resource := { fragger.resource with chanAllocElement := none } }
      resource.chanAllocElement (block.getLenRemaining - (withoutAlloc resource).wire.length)
      bare rfl encodable.chanAlloc (by rw [waiting.resource_eq]; rfl)
      (by rw [waiting.resource_eq]) waiting.grant_eq waiting.window waiting.sdu_eq window
      (by omega) (by omega)
    refine ⟨_, _, by rw [if_neg fit]; exact bind_ok wrote, ?_, fun reporter => ?_⟩
    · obtain ⟨header, data, rest, emits, -⟩ := started none
      exact iff_of_false emits.ne (by omega)
    · obtain ⟨header, data, rest, emits, start, noAlloc, split, chained⟩ := started reporter
      exact .started header data rest emits start noAlloc split chained

/-- **The first chunk is the whole message, nothing, or the start of a chain.** -/
theorem getResourceChunk_waiting (encodable : resource.Encodable)
    (quiet : resource.isNullPdu = true → sdu = []) (waiting : Waiting resource sdu fragger)
    (offered : Offered block) :
    ∃ complete next after, fragger.getResourceChunk block = .ok ((complete, next), after) ∧
      (after = block ↔ Defers resource sdu block.getLenRemaining) ∧
      ∀ reporter, FirstChunk resource sdu ⟨block, after⟩ (concluded next complete reporter)
        complete := by
  have same := waiting.resource_eq
  have held : fragger.sdu.getLenRemaining = sdu.length := by
    rw [← waiting.sdu_eq, length_unread waiting.window]
  have nullEmpty : ¬ (fragger.resource.isNullPdu = true ∧ 0 < fragger.sdu.getLenRemaining) := by
    rintro ⟨isNull, more⟩
    rw [same] at isNull
    rw [held, quiet isNull] at more
    exact lt_irrefl 0 more
  rw [getResourceChunk, lift_bind (assertThat_of waiting.atStart),
    lift_bind (assertThat_of waiting.unstarted), lift_bind (assertThat_of nullEmpty),
    bind_ok (get_ok block), same,
    lift_bind (computeHeaderLen_ok encodable), held]
  generalize filledEq : addition.computeRequired (resource.wire.length + sdu.length)
    block.getLenRemaining = filled
  by_cases whole : resource.wire.length + sdu.length + filled ≤ block.getLenRemaining
  · -- everything fits in one MAC-RESOURCE
    have spec := addition.computeRequired_spec _ block.getLenRemaining
      (show resource.wire.length + sdu.length ≤ block.getLenRemaining by omega)
    rw [filledEq] at spec
    have size := offered.size
    have unfilled : resource.isNullPdu = true → filled = 0 := by
      intro isNull
      rw [← filledEq, wire_length_nullPdu isNull, quiet isNull]
      exact addition.computeRequired_aligned rfl
    have sendable := sendable_whole encodable
      (show resource.wire.length ≤ resource.wire.length + sdu.length + filled by omega)
      (le_trans whole size) unfilled
    simp only [maxBlockBits] at size
    obtain ⟨region, wrote⟩ := writeWholeResource_ok filled
      (resource.wire.length + sdu.length + filled) offered.window waiting.window (by rw [same]; exact sendable) (by omega) (by rw [same, held]) whole spec.2
    rw [held] at wrote
    have emits := emits_whole encodable rfl whole (le_trans whole offered.size) spec.2 unfilled
    refine ⟨_, _, _, by rw [if_pos whole]; exact bind_ok wrote, ?_, fun reporter => ?_⟩
    · rw [waiting.sdu_eq, same]
      refine iff_of_false emits.ne fun defers => ?_
      have exceeds := defers.1
      omega
    rw [waiting.sdu_eq, same]
    refine .whole _ emits ?_ ?_ rfl ?_
    · rw [heard_lengthInd]
      change (resource.wire.length + sdu.length + filled + 7) / 8 ≠ 0b111111
      omega
    · exact heard_chanAlloc (indicated_encodable encodable _ _)
    · change (fragger.sdu.skip sdu.length).unread = []
      rw [unread_skip, waiting.sdu_eq, drop_length]
  have exceeds : block.getLenRemaining < resource.wire.length + sdu.length := by
    by_contra within
    have spec := addition.computeRequired_spec _ block.getLenRemaining
      (show resource.wire.length + sdu.length ≤ block.getLenRemaining by omega)
    rw [filledEq] at spec
    exact whole spec.1
  simp only [if_neg whole]
  by_cases small : block.getLenRemaining < minSlotCapForResFragStart ∨
      block.getLenRemaining < resource.wire.length
  · -- no room to start a chain
    refine ⟨_, _, _, by rw [if_pos small]; rfl, iff_of_true rfl ⟨exceeds, ?_⟩, fun reporter => ?_⟩
    · exact small.imp_right .inl
    · exact .deferred rfl (waiting_concluded waiting reporter)
  simp only [if_neg small]
  by_cases hasAlloc : resource.chanAllocElement.isSome = true
  · -- the allocation moves to the end of the chain
    obtain ⟨next, after, ran, stays, outcome⟩ := startWithoutChanAlloc_waiting encodable waiting
      offered.window hasAlloc (by omega)
    refine ⟨false, next, after, by rw [if_pos hasAlloc]; exact ran, stays.trans ?_, outcome⟩
    constructor
    · exact fun fit => ⟨exceeds, .inr (.inr ⟨hasAlloc, fit⟩)⟩
    · rintro ⟨-, few | narrow | ⟨-, fit⟩⟩
      · exact absurd (.inl few) small
      · exact absurd (.inr narrow) small
      · exact fit
  · have noAlloc : resource.chanAllocElement = none := by simpa using hasAlloc
    obtain ⟨after, written, wrote, started⟩ := started_of fragger none
      (block.getLenRemaining - resource.wire.length) encodable noAlloc
      nofun same waiting.chanAlloc_eq waiting.grant_eq
      waiting.window waiting.sdu_eq offered.window (by omega) (by omega)
    refine ⟨false, written, after, by rw [if_neg hasAlloc]; exact bind_ok wrote, ?_,
      fun reporter => ?_⟩
    · obtain ⟨header, data, rest, emits, -⟩ := started none
      refine iff_of_false emits.ne ?_
      rintro ⟨-, few | narrow | ⟨given, -⟩⟩
      · exact small (.inl few)
      · exact small (.inr narrow)
      · exact hasAlloc given
    · obtain ⟨header, data, rest, emits, start, none, split, chained⟩ := started reporter
      exact .started header data rest emits start none split (by rw [noAlloc]; exact chained)

end FirstChunk

/-! ### A later chunk -/

section NextChunk

variable {alloc : Option ChanAllocElement} {rest : List Bool} {fragger : BsFragger Key}
  {block : BitBuffer} {filled : Nat}

theorem endHeader_encodable (chained : Chained alloc rest fragger) {total : Nat}
    (size : total + filled ≤ maxBlockBits) : (fragger.endHeader total filled).Encodable := by
  simp only [maxBlockBits] at size
  refine ⟨zero_lt_two, ?_, chained.grant, ?_⟩
  · change (total + filled + 7) / 8 < 2 ^ 6
    omega
  · intro element member
    refine chained.encodable element ?_
    rw [← chained.chanAlloc_eq]
    exact member

theorem length_endHeader (total filled other others : Nat) :
    (fragger.endHeader total filled).wire.length = (fragger.endHeader other others).wire.length := by
  simp only [MacEndDl.wire, endHeader, length_append, length_bitsOf]

/-- **The rest of the message goes out in a MAC-END.** -/
theorem emits_end (chained : Chained alloc rest fragger) {total : Nat}
    (length : total = (fragger.endHeader total filled).wire.length + rest.length)
    (room : total + filled ≤ block.getLenRemaining) (size : total + filled ≤ maxBlockBits)
    (aligned : (total + filled) % 8 = 0 ∨ total + filled = block.getLenRemaining) :
    Emits ⟨block, block.put ((fragger.endHeader total filled).wire ++ (rest ++ fill filled))⟩
      (.macEnd (fragger.endHeader total filled) rest) := by
  have atLeast : 13 ≤ (fragger.endHeader total filled).wire.length := by
    simp only [MacEndDl.wire, length_append, length_bitsOf]
    have grant := length_wireFlagged fragger.finalSlotGrant BasicSlotgrant.wire
    have element := length_wireFlagged fragger.chanAlloc ChanAllocElement.wire
    simp only [endHeader]
    omega
  have width : ((fragger.endHeader total filled).wire ++ (rest ++ fill filled)).length =
      total + filled := by
    simp only [length_append, length_fill]
    omega
  refine ⟨_, ?_, by rw [width]; exact room, rfl, ?_⟩
  · intro none
    rw [none] at width
    simp only [length_nil] at width
    omega
  · intro tail behind
    simp only at behind
    rw [append_assoc, append_assoc]
    refine receive_end (endHeader_encodable chained size) rfl ?_ ?_
    · rw [← length]
      rfl
    · omega

/-- **A middle fragment goes out in a MAC-FRAG that fills its block.** -/
theorem emits_frag {data : List Bool} (fits : 4 + data.length + filled = block.getLenRemaining) :
    Emits ⟨block, block.put ((MacFragDl.mk (decide (0 < filled))).wire ++ (data ++ fill filled))⟩
      (.frag ⟨decide (0 < filled)⟩ data) := by
  have width : ((MacFragDl.mk (decide (0 < filled))).wire ++ (data ++ fill filled)).length =
      block.getLenRemaining := by
    simp only [length_append, MacFragDl.length_wire, length_fill]
    omega
  refine ⟨_, ?_, le_of_eq width, rfl, ?_⟩
  · intro none
    rw [none] at width
    simp only [length_nil] at width
    omega
  · intro tail behind
    rw [width, Nat.sub_self] at behind
    rw [length_eq_zero_iff.mp behind, append_nil]
    exact receive_frag data filled

theorem chained_concluded (chained : Chained alloc rest fragger) (reporter : Option TxReporter) :
    Chained alloc rest (concluded fragger false reporter) :=
  ⟨chained.chanAlloc_eq, chained.encodable, chained.grant, chained.started, rfl, chained.window,
    chained.rest_eq⟩

def awaitsGrant (fragger : BsFragger Key) : Bool :=
  fragger.finalSlotGrantRequired && fragger.finalSlotGrant.isNone

def EndFits (fragger : BsFragger Key) (rest : List Bool) (room : Nat) : Prop :=
  (fragger.endHeader 0 0).wire.length + (if awaitsGrant fragger = true then 1 else 0) * 8 +
    rest.length ≤ room

/-- Which of the later chunks it is. -/
structure Continuation (fragger : BsFragger Key) (rest : List Bool) (room : Nat) (complete stays : Prop)
    (left : List Bool) : Prop where
  complete_iff : complete ↔ EndFits fragger rest room ∧ awaitsGrant fragger = false
  stays_iff : stays ↔ EndFits fragger rest room ∧ awaitsGrant fragger = true ∨
    ¬ EndFits fragger rest room ∧ room < minSlotCapForFrag
  left_eq : ¬ complete → ¬ stays → left = rest.drop (room - 4)

/-- **A later chunk is the end of the chain, nothing, or a middle fragment.** -/
theorem getFragOrEndChunk_chained (chained : Chained alloc rest fragger) (offered : Offered block) :
    ∃ complete next after, fragger.getFragOrEndChunk block = .ok ((complete, next), after) ∧
      Continuation fragger rest block.getLenRemaining (complete = true) (after = block)
        next.sdu.unread ∧
      ∀ reporter, NextChunk alloc rest ⟨block, after⟩ (concluded next complete reporter)
        complete := by
  have held : fragger.sdu.getLenRemaining = rest.length := by
    rw [← chained.rest_eq, length_unread chained.window]
  have headerLen : MacEndDl.computeHdrLen fragger.finalSlotGrant fragger.chanAlloc =
      .ok (fragger.endHeader 0 0).wire.length :=
    MacEndDl.computeHdrLen_ok (endHeader_encodable chained (zero_le _))
  rw [getFragOrEndChunk, lift_bind (assertThat_of chained.started), bind_ok (get_ok block)]
  simp only [held]
  rw [lift_bind headerLen]
  generalize awaitsEq : (fragger.finalSlotGrantRequired && fragger.finalSlotGrant.isNone) = awaits
  have endFits : EndFits fragger rest block.getLenRemaining ↔ (fragger.endHeader 0 0).wire.length +
      (if awaits = true then 1 else 0) * 8 + rest.length ≤ block.getLenRemaining := by
    rw [EndFits, awaitsGrant, awaitsEq]
  by_cases fit : (fragger.endHeader 0 0).wire.length + (if awaits = true then 1 else 0) * 8 +
      rest.length ≤ block.getLenRemaining
  · cases awaits with
    | true =>
      -- the end waits for its slot grant
      refine ⟨_, _, _, by rw [if_pos fit]; rfl, ⟨?_, ?_, ?_⟩, fun reporter => ?_⟩
      · exact iff_of_false Bool.false_ne_true fun ⟨_, free⟩ => by
          rw [awaitsGrant, awaitsEq] at free
          cases free
      · exact iff_of_true rfl (.inl ⟨endFits.mpr fit, awaitsEq⟩)
      · exact fun _ moved => absurd rfl moved
      · exact .deferred rfl (chained_concluded chained reporter)
    | false =>
      have free : EndFits fragger rest block.getLenRemaining ∧ awaitsGrant fragger = false :=
        ⟨endFits.mpr fit, awaitsEq⟩
      simp only [Bool.false_eq_true, if_false] at fit ⊢
      generalize totalEq : (fragger.endHeader 0 0).wire.length + rest.length = total at fit ⊢
      generalize filledEq : addition.computeRequired total block.getLenRemaining = filled
      have spec := addition.computeRequired_spec _ _ fit
      rw [filledEq] at spec
      have size := le_trans spec.1 offered.size
      have length : total = (fragger.endHeader total filled).wire.length + rest.length := by
        rw [length_endHeader total filled 0 0, totalEq]
      have octets : (total + filled + 7) / 8 < 256 := by
        simp only [maxBlockBits] at size
        omega
      obtain ⟨region, wrote⟩ := writeEnd_ok offered.window chained.window
        (endHeader_encodable chained size) filledEq octets (by rw [held]; exact length) spec.1
      rw [held] at wrote
      have emits := emits_end chained length spec.1 size spec.2
      refine ⟨_, _, _, by rw [if_pos fit]; exact bind_ok wrote, ⟨?_, ?_, ?_⟩, fun reporter => ?_⟩
      · exact iff_of_true rfl free
      · rw [chained.rest_eq]
        refine iff_of_false emits.ne ?_
        rintro (⟨-, waits⟩ | ⟨unfit, -⟩)
        · rw [free.2] at waits
          cases waits
        · exact unfit free.1
      · exact fun unfinished => absurd rfl unfinished
      · rw [chained.rest_eq]
        refine .ended _ emits chained.chanAlloc_eq rfl ?_
        change (fragger.sdu.skip rest.length).unread = []
        rw [unread_skip, chained.rest_eq, drop_length]
  · have unfit := endFits.not.mpr fit
    have unfinished : ¬ (EndFits fragger rest block.getLenRemaining ∧ awaitsGrant fragger = false) :=
      fun both => unfit both.1
    simp only [if_neg fit]
    by_cases small : block.getLenRemaining < minSlotCapForFrag
    · -- not worth placing a fragment here
      refine ⟨_, _, _, by rw [if_pos small]; rfl, ⟨?_, ?_, ?_⟩, fun reporter => ?_⟩
      · exact iff_of_false Bool.false_ne_true unfinished
      · exact iff_of_true rfl (.inr ⟨unfit, small⟩)
      · exact fun _ moved => absurd rfl moved
      · exact .deferred rfl (chained_concluded chained reporter)
    · have room : 16 ≤ block.getLenRemaining := not_lt.mp small
      generalize countEq : min (block.getLenRemaining - 4) rest.length = count
      obtain ⟨region, wrote⟩ := writeFrag_ok count
        (block.getLenRemaining - 4 - count) offered.window chained.window room
        (by rw [held, countEq]) rfl
      rw [held] at wrote
      have width : (rest.take count).length = count := by
        rw [length_take]
        omega
      have fills : 4 + (rest.take count).length + (block.getLenRemaining - 4 - count) =
          block.getLenRemaining := by omega
      have emits := emits_frag fills
      have left : (fragger.sdu.skip count).unread = rest.drop count := by
        rw [unread_skip, chained.rest_eq]
      refine ⟨_, _, _, by rw [if_neg small]; exact bind_ok wrote, ⟨?_, ?_, ?_⟩, fun reporter => ?_⟩
      · exact iff_of_false Bool.false_ne_true unfinished
      · rw [chained.rest_eq]
        refine iff_of_false emits.ne ?_
        rintro (⟨fits, -⟩ | ⟨-, few⟩)
        · exact unfit fits
        · exact small few
      · intro _ _
        rw [left, ← countEq]
        rcases le_total (block.getLenRemaining - 4) rest.length with short | long
        · rw [min_eq_left short]
        · rw [min_eq_right long, drop_length, drop_eq_nil_of_le long]
      · rw [chained.rest_eq]
        refine .middle _ _ (rest.drop count) emits (take_append_drop _ _) ?_
        refine ⟨chained.chanAlloc_eq, chained.encodable, chained.grant, chained.started, rfl, ?_,
          left⟩
        have window := chained.window
        refine ⟨?_, ?_, window.stop_le⟩
        · exact le_add_right_of_le window.start_le
        · change fragger.sdu.pos + count ≤ fragger.sdu.stop
          have posLe := window.pos_le
          rw [getLenRemaining] at held
          omega

end NextChunk

/-! ### A call -/

section Call

variable {resource : MacResource} {sdu : List Bool} {alloc : Option ChanAllocElement}
  {rest : List Bool} {fragger : BsFragger Key} {block : BitBuffer}

theorem reportTransmitted_ok (fragger : BsFragger Key) :
    ∃ reporter, fragger.reportTransmitted = .ok { fragger with txReporter := reporter } := by
  obtain ⟨resource, chanAlloc, grant, required, started, finished, sdu, txReporter, request,
    region⟩ := fragger
  cases txReporter with
  | none => exact ⟨none, rfl⟩
  | some reporter =>
    by_cases due : finished = true ∧ reporter.state = .pending
    · refine ⟨some { reporter with state := .transmitted }, ?_⟩
      simp only [reportTransmitted, if_pos due, TxReporter.markTransmitted,
        TxReporter.mark, if_pos due.2]
      rfl
    · exact ⟨some reporter, if_neg due⟩

theorem getNextChunk_of (unfinished : fragger.isFullyTransmitted = false) (offered : Offered block)
    {complete : Bool} {next : BsFragger Key} {after : BitBuffer}
    (ran : getChunk { fragger with lastCipherRegion := none } block =
      .ok ((complete, next), after)) :
    ∃ reporter, fragger.getNextChunk block = .ok ((complete, concluded next complete reporter),
      after) := by
  obtain ⟨reporter, reported⟩ := reportTransmitted_ok { next with isFullyTransmitted := complete }
  refine ⟨reporter, ?_⟩
  rw [getNextChunk, lift_bind (assertThat_of unfinished),
    bind_ok (get_ok block), lift_bind (assertThat_of offered.aligned)]
  rw [bind_ok ran]
  exact bind_ok (liftM_ok reported _)

/-- **A call on a message that has not started.** -/
theorem getNextChunk_waiting (encodable : resource.Encodable)
    (quiet : resource.isNullPdu = true → sdu = []) (waiting : Waiting resource sdu fragger)
    (offered : Offered block) :
    ∃ complete next after, fragger.getNextChunk block = .ok ((complete, next), after) ∧
      (after = block ↔ Defers resource sdu block.getLenRemaining) ∧
      FirstChunk resource sdu ⟨block, after⟩ next complete := by
  have cleared : Waiting resource sdu { fragger with lastCipherRegion := none } :=
    ⟨waiting.resource_eq, waiting.chanAlloc_eq, waiting.grant_eq, waiting.unstarted,
      waiting.unfinished, waiting.window, waiting.atStart, waiting.sdu_eq⟩
  obtain ⟨complete, next, after, ran, stays, outcome⟩ :=
    getResourceChunk_waiting encodable quiet cleared offered
  have chunk : getChunk { fragger with lastCipherRegion := none } block =
      .ok ((complete, next), after) := by
    rw [getChunk, if_pos (by rw [cleared.unstarted]; rfl)]
    exact ran
  obtain ⟨reporter, called⟩ := getNextChunk_of waiting.unfinished offered chunk
  exact ⟨complete, _, after, called, stays, outcome reporter⟩

/-- **A call on a chain that has started.** -/
theorem getNextChunk_chained (chained : Chained alloc rest fragger) (offered : Offered block) :
    ∃ complete next after, fragger.getNextChunk block = .ok ((complete, next), after) ∧
      Continuation fragger rest block.getLenRemaining (complete = true) (after = block)
        next.sdu.unread ∧
      NextChunk alloc rest ⟨block, after⟩ next complete := by
  have cleared : Chained alloc rest { fragger with lastCipherRegion := none } :=
    ⟨chained.chanAlloc_eq, chained.encodable, chained.grant, chained.started, chained.unfinished,
      chained.window, chained.rest_eq⟩
  obtain ⟨complete, next, after, ran, which, outcome⟩ := getFragOrEndChunk_chained cleared offered
  have chunk : getChunk { fragger with lastCipherRegion := none } block =
      .ok ((complete, next), after) := by
    rw [getChunk, if_neg (by rw [cleared.started]; decide)]
    exact ran
  obtain ⟨reporter, called⟩ := getNextChunk_of chained.unfinished offered chunk
  exact ⟨complete, _, after, called, ⟨which.complete_iff, which.stays_iff, which.left_eq⟩,
    outcome reporter⟩

end Call

/-! ### The whole run -/

section Run

variable {resource : MacResource} {sdu : List Bool} {alloc : Option ChanAllocElement}
  {rest : List Bool} {fragger : BsFragger Key}

theorem transmit_cons {blocks : List BitBuffer} {block after : BitBuffer} {complete : Bool}
    {next : BsFragger Key} (ran : fragger.getNextChunk block = .ok ((complete, next), after)) :
    transmit fragger (block :: blocks) =
      if complete then .ok ([⟨block, after⟩], next)
      else (transmit next blocks).map fun run => (⟨block, after⟩ :: run.1, run.2) := by
  rw [transmit, ran]
  cases complete with
  | true => rfl
  | false =>
    change (transmit next blocks >>= _) = _
    cases transmit next blocks <;> rfl

/-- What a receiver takes out of the finished blocks, with what is still held, is `rest`; the PDUs of
a whole message are `complete`. -/
def Passes (rest : List Bool) (complete : List DownlinkPdu → Prop) (fragger : BsFragger Key)
    (blocks : List BitBuffer) : Prop :=
  ∃ calls last, transmit fragger blocks = .ok (calls, last) ∧
    ∀ finals, List.Forall₂ Finishes calls finals → ∃ pdus, receiveAll calls finals = .ok pdus ∧
      pdus.flatMap DownlinkPdu.sdu ++ last.sdu.unread = rest ∧
      (last.isFullyTransmitted = true → last.sdu.unread = [] ∧ complete pdus)

section Passes

variable {complete complete' : List DownlinkPdu → Prop} {next : BsFragger Key}
  {block after : BitBuffer} {blocks : List BitBuffer} {left : List Bool} {pdu : DownlinkPdu}

theorem Passes.none (unfinished : fragger.isFullyTransmitted = false)
    (held : fragger.sdu.unread = rest) : Passes rest complete fragger [] := by
  refine ⟨[], fragger, rfl, ?_⟩
  rintro _ ⟨⟩
  exact ⟨[], rfl, held, fun done => absurd (unfinished.symm.trans done) Bool.false_ne_true⟩

theorem Passes.silent (passes : Passes rest complete next blocks) (same : after = block)
    (ran : fragger.getNextChunk block = .ok ((false, next), after)) :
    Passes rest complete fragger (block :: blocks) := by
  obtain ⟨calls, last, later, heard⟩ := passes
  refine ⟨⟨block, after⟩ :: calls, last, by simp [transmit_cons ran, later, Except.map], ?_⟩
  rintro _ (_ | ⟨_, others⟩)
  rw [receiveAll, if_pos (by rw [same])]
  exact heard _ others

theorem receiveAll_emits {call : Call} {calls : List Call} {final : BitBuffer}
    {finals : List BitBuffer} {pdus : List DownlinkPdu} (window : call.before.Window)
    (emits : Emits call pdu) (finishes : Finishes call final)
    (others : receiveAll calls finals = .ok pdus) :
    receiveAll (call :: calls) (final :: finals) = .ok (pdu :: pdus) := by
  obtain ⟨wrote, received⟩ := receive_of_emits window emits finishes
  rw [receiveAll, if_neg wrote, received, others]
  rfl

theorem Passes.emits (passes : Passes left complete' next blocks) (window : block.Window)
    (emits : Emits ⟨block, after⟩ pdu) (split : pdu.sdu ++ left = rest)
    (ran : fragger.getNextChunk block = .ok ((false, next), after))
    (leads : ∀ pdus, complete' pdus → complete (pdu :: pdus)) :
    Passes rest complete fragger (block :: blocks) := by
  obtain ⟨calls, last, later, heard⟩ := passes
  refine ⟨⟨block, after⟩ :: calls, last, by simp [transmit_cons ran, later, Except.map], ?_⟩
  rintro _ (_ | ⟨finish, others⟩)
  obtain ⟨pdus, received, kept, ending⟩ := heard _ others
  refine ⟨_, receiveAll_emits window emits finish received, ?_, fun done => ?_⟩
  · rw [flatMap_cons, append_assoc, kept, split]
  · exact ⟨(ending done).1, leads _ (ending done).2⟩

theorem Passes.ends (window : block.Window) (emits : Emits ⟨block, after⟩ pdu)
    (ran : fragger.getNextChunk block = .ok ((true, next), after))
    (emptied : next.sdu.unread = []) (whole : complete [pdu]) :
    Passes pdu.sdu complete fragger (block :: blocks) := by
  refine ⟨_, _, transmit_cons ran, ?_⟩
  rintro _ (_ | ⟨finish, none⟩)
  exact ⟨_, receiveAll_emits window emits finish rfl, by simp [emptied], fun _ => ⟨emptied, whole⟩⟩

end Passes

/-- **From a started chain on**: what is received is what is missing, and the allocation comes with
the end. -/
theorem transmit_chained (chained : Chained alloc rest fragger) (blocks : List BitBuffer)
    (offered : ∀ block ∈ blocks, Offered block) :
    Passes rest (fun pdus => ∃ middle header data, pdus = middle ++ [.macEnd header data] ∧
      (∀ pdu ∈ middle, ∃ frag sdu, pdu = .frag frag sdu) ∧ header.chanAllocElement = alloc)
      fragger blocks := by
  induction blocks generalizing fragger rest with
  | nil => exact .none chained.unfinished chained.rest_eq
  | cons block blocks ih =>
    obtain ⟨first, later⟩ := forall_mem_cons.mp offered
    obtain ⟨complete, next, after, ran, -, outcome⟩ := getNextChunk_chained chained first
    cases outcome with
    | ended header emits delivered done emptied =>
      exact .ends first.window emits ran emptied
        ⟨[], header, rest, rfl, (fun _ member => nomatch member), delivered⟩
    | deferred same again => exact (ih again later).silent same ran
    | middle header data left emits split again =>
      refine (ih again later).emits first.window emits split ran ?_
      rintro _ ⟨middle, header', data', rfl, frags, delivered⟩
      exact ⟨.frag header data :: middle, header', data', rfl,
        forall_mem_cons.mpr ⟨⟨_, _, rfl⟩, frags⟩, delivered⟩

/-- **From the start on**: what is received and what is still held are the message, and once it is
complete the allocation is delivered. -/
theorem transmit_waiting (encodable : resource.Encodable)
    (quiet : resource.isNullPdu = true → sdu = []) (waiting : Waiting resource sdu fragger)
    (blocks : List BitBuffer) (offered : ∀ block ∈ blocks, Offered block) :
    Passes sdu (AllocDelivered resource.chanAllocElement) fragger blocks := by
  induction blocks generalizing fragger with
  | nil => exact .none waiting.unfinished waiting.sdu_eq
  | cons block blocks ih =>
    obtain ⟨first, later⟩ := forall_mem_cons.mp offered
    obtain ⟨complete, next, after, ran, -, outcome⟩ :=
      getNextChunk_waiting encodable quiet waiting first
    cases outcome with
    | whole header emits plain delivered done emptied =>
      exact .ends first.window emits ran emptied (.inl ⟨header, sdu, rfl, plain, delivered⟩)
    | deferred same again => exact (ih again later).silent same ran
    | started header data rest emits start noAlloc split chained =>
      refine (transmit_chained chained blocks later).emits first.window emits split ran ?_
      rintro _ ⟨middle, header', data', rfl, frags, delivered⟩
      exact .inr ⟨header, data, middle, header', data', rfl, start, noAlloc, frags, delivered⟩

end Run

end Fragmentation

end Bluestation
