/-
**Every message is sent in finitely many blocks, but one kind.**

The scheduler offers a message one fresh block after another. A message that leaves an empty block
empty without being complete is dropped.

* `Sends` — every call writes something, and finitely many complete the message.
* `sends_iff` — a message is sent unless it fits a block without its channel allocation, but not
  with it.
-/

import Bluestation.Umac.Fragmentation

namespace Bluestation

open Bits List Nat Except BitBuffer MacResource BsFragger

namespace Fragmentation

variable {Key : Type} {resource : MacResource} {sdu rest : List Bool}
  {alloc : Option ChanAllocElement} {fragger : BsFragger Key}

def schFCap : Nat := 268

/-- A slot grant for the end of a chain that is there if it is required. -/
structure Granted (grant : Option BasicSlotgrant) (required : Bool) : Prop where
  inRange : ∀ element ∈ grant, element.grantingDelay.InRange
  present : required = true → grant.isSome = true

/-- Between two calls the scheduler decides about the grant of the end. -/
def regranted (fragger : BsFragger Key) (grant : Option BasicSlotgrant) (required : Bool) :
    BsFragger Key :=
  { fragger with finalSlotGrant := grant, finalSlotGrantRequired := required }

/-- Offered one fresh block after another, the message writes to each of them, and finitely many
blocks complete it; its end never waits for a grant. -/
inductive Sends : BsFragger Key → Prop
  | last {fragger next : BsFragger Key} {after : BitBuffer}
      (ran : fragger.getNextChunk (BitBuffer.new schFCap) = .ok ((true, next), after))
      (wrote : 0 < after.getLenWritten) : Sends fragger
  | more {fragger next : BsFragger Key} {after : BitBuffer}
      (ran : fragger.getNextChunk (BitBuffer.new schFCap) = .ok ((false, next), after))
      (wrote : 0 < after.getLenWritten)
      (later : ∀ grant required, Granted grant required →
        Sends (regranted next grant required)) : Sends fragger

theorem fresh_offered : Offered (BitBuffer.new schFCap) := ⟨new_window _, .inl rfl, by decide⟩

theorem Granted.free {grant : Option BasicSlotgrant} {required : Bool}
    (granted : Granted grant required) :
    awaitsGrant (regranted fragger grant required) = false := by
  cases required with
  | false => rfl
  | true =>
    obtain ⟨element, is⟩ := Option.isSome_iff_exists.mp (granted.present rfl)
    rw [is]
    rfl

theorem Emits.wrote {after : BitBuffer} {pdu : DownlinkPdu}
    (emits : Emits ⟨BitBuffer.new schFCap, after⟩ pdu) : 0 < after.getLenWritten := by
  obtain ⟨bits, some, -, left, -⟩ := emits
  dsimp only at left
  rw [left]
  exact lt_of_lt_of_eq (length_pos_of_ne_nil some) (zero_add _).symm

theorem length_endHeader_le (fragger : BsFragger Key) :
    (fragger.endHeader 0 0).wire.length ≤ 48 := by
  have grant := length_wireFlagged fragger.finalSlotGrant BasicSlotgrant.wire
  have element := length_wireFlagged fragger.chanAlloc ChanAllocElement.wire
  have grantBits : ((fragger.finalSlotGrant.map BasicSlotgrant.wire).getD []).length ≤ 8 := by
    cases fragger.finalSlotGrant <;> simp
  have elementBits : ((fragger.chanAlloc.map ChanAllocElement.wire).getD []).length ≤ 27 := by
    cases fragger.chanAlloc with
    | none => exact zero_le _
    | some element => exact element.length_wire_le
  simp only [MacEndDl.wire, endHeader, length_append, length_bitsOf]
  omega

theorem regranted_chained (chained : Chained alloc rest fragger)
    {grant : Option BasicSlotgrant} {required : Bool} (granted : Granted grant required) :
    Chained alloc rest (regranted fragger grant required) :=
  ⟨chained.chanAlloc_eq, chained.encodable, granted.inRange, chained.started, chained.unfinished,
    chained.window, chained.rest_eq⟩

/-- **A chain that has started is sent**, by induction on what is left of the message. -/
theorem chained_sends (chained : Chained alloc rest fragger)
    (free : awaitsGrant fragger = false) : Sends fragger := by
  induction length : rest.length using Nat.strong_induction_on generalizing rest fragger with
  | _ bits ih =>
    obtain ⟨complete, next, after, ran, which, outcome⟩ := getNextChunk_chained chained fresh_offered
    cases outcome with
    | ended header emits delivered done emptied => exact .last ran emits.wrote
    | deferred same again =>
      rcases which.stays_iff.mp same with ⟨-, waits⟩ | ⟨-, few⟩
      · cases free.symm.trans waits
      · exact absurd few (by decide)
    | middle header data left emits split again =>
      refine .more ran emits.wrote fun grant required granted => ?_
      refine ih left.length ?_ (regranted_chained again granted) ?_ rfl
      · -- a fragment is not the last one, so the message has bits left
        have more : rest ≠ [] := by
          rintro rfl
          have fits : EndFits fragger [] schFCap := by
            rw [EndFits, free]
            exact (length_endHeader_le fragger).trans (by decide)
          cases which.complete_iff.mpr ⟨fits, free⟩
        have shorter := which.left_eq Bool.false_ne_true emits.ne
        rw [again.rest_eq] at shorter
        rw [shorter, length_drop, ← length]
        exact sub_lt (length_pos_of_ne_nil more) (by decide)
      · exact granted.free

theorem waiting_sends_iff (encodable : resource.Encodable)
    (quiet : resource.isNullPdu = true → sdu = []) (waiting : Waiting resource sdu fragger) :
    Sends fragger ↔ ¬ Defers resource sdu schFCap := by
  obtain ⟨complete, next, after, ran, stays, outcome⟩ :=
    getNextChunk_waiting encodable quiet waiting fresh_offered
  constructor
  · intro sends defers
    -- the only call there is leaves the block as it was
    have same := stays.mpr defers
    cases sends with
    | last again wrote =>
      rw [ran, ok.injEq, Prod.mk.injEq] at again
      rw [← again.2, same] at wrote
      exact absurd wrote (lt_irrefl 0)
    | more again wrote later =>
      rw [ran, ok.injEq, Prod.mk.injEq] at again
      rw [← again.2, same] at wrote
      exact absurd wrote (lt_irrefl 0)
  · intro proceeds
    cases outcome with
    | whole header emits plain delivered done emptied => exact .last ran emits.wrote
    | deferred same again => exact absurd (stays.mp same) proceeds
    | started header data rest emits start noAlloc split chained =>
      refine .more ran emits.wrote fun grant required granted => ?_
      exact chained_sends (regranted_chained chained granted) granted.free

/-- **A message is sent unless it fits a block only without its channel allocation.** For every
header that is written into a block and every SDU, each fresh block takes at least one bit and
finitely many complete the message, exactly when it is not the case that the header has a channel
allocation, the message exceeds a block with it, and fits a block without it. -/
theorem sends_iff (resource : MacResource) (sdu : BitBuffer) (txReporter : Option TxReporter)
    (aieRequest : AieRequest Key) (encodable : resource.Encodable) (window : sdu.Window)
    (atStart : sdu.getPos = 0) (quiet : resource.isNullPdu = true → sdu.getLenRemaining = 0)
    {hdrLen bareLen : Nat} (headerLen : resource.computeHeaderLen = .ok hdrLen)
    (withoutLen : (withoutAlloc resource).computeHeaderLen = .ok bareLen)
    (fits : hdrLen ≤ schFCap) :
    ∃ fragger, newWithAie resource sdu txReporter aieRequest = .ok fragger ∧
      (Sends fragger ↔ ¬ (resource.chanAllocElement.isSome = true ∧
        schFCap < hdrLen + sdu.getLenRemaining ∧ bareLen + sdu.getLenRemaining ≤ schFCap)) := by
  have created : newWithAie resource sdu txReporter aieRequest =
      .ok ⟨resource, none, none, false, false, false, sdu, txReporter, aieRequest, none⟩ := by
    rw [newWithAie, assertThat_of atStart]
    rfl
  have length := length_unread window
  have silent : resource.isNullPdu = true → sdu.unread = [] := by
    intro isNull
    rw [← length_eq_zero_iff, length, quiet isNull]
  have waiting : Waiting resource sdu.unread (⟨resource, none, none, false, false, false, sdu,
      txReporter, aieRequest, none⟩ : BsFragger Key) :=
    ⟨rfl, rfl, rfl, rfl, rfl, window, atStart, rfl⟩
  rw [computeHeaderLen_ok encodable, ok.injEq] at headerLen
  rw [computeHeaderLen_ok (withoutAlloc_encodable encodable), ok.injEq]
    at withoutLen
  refine ⟨_, created, (waiting_sends_iff encodable silent waiting).trans (not_congr ?_)⟩
  rw [Defers, length, headerLen, withoutLen]
  constructor
  · rintro ⟨exceeds, few | narrow | ⟨given, fit⟩⟩
    · exact absurd few (by decide)
    · exact absurd fits (Nat.not_le_of_lt narrow)
    · exact ⟨given, exceeds, fit⟩
  · rintro ⟨given, exceeds, fit⟩
    exact ⟨exceeds, .inr (.inr ⟨given, fit⟩)⟩

/-- A header to a group with a channel allocation: 68 bits, and 43 without the allocation. -/
def groupHeader : MacResource where
  addr := some ⟨1001, .gssi⟩
  chanAllocElement := some ⟨.replace, #v[false, true, false, false], .both, false, false, 1528,
    none, 3, none⟩

theorem groupHeader_encodable : groupHeader.Encodable := by
  refine ⟨by decide, by decide, by decide, fun _ => ⟨.ssi, rfl⟩, ?_, ?_, ?_, ?_, ?_, ?_, ?_⟩
  · decide
  · decide
  · rintro _ ⟨⟩
  · rintro _ ⟨⟩
  · rintro _ ⟨⟩
  · rintro _ ⟨⟩
  · rintro _ ⟨⟩
    exact ⟨rfl, by decide, by decide, by decide, rfl, nofun⟩

theorem groupHeader_len : groupHeader.computeHeaderLen = .ok 68 ∧
    (withoutAlloc groupHeader).computeHeaderLen = .ok 43 := ⟨rfl, rfl⟩

theorem message_len (count value : Nat) :
    (BitBuffer.ofBits (bitsOf count value)).getLenRemaining = count :=
  (Nat.sub_zero _).trans (length_bitsOf count value)

/-- A message of 240 bits is sent in fragments. -/
theorem sends_iff_fragments : ∃ fragger : BsFragger Nat, newWithAie groupHeader
        (ofBits (bitsOf 240 0xA5C3F00D)) none (.clear .system .macResource) =
          .ok fragger ∧ Sends fragger := by
  obtain ⟨fragger, created, sends⟩ := sends_iff groupHeader
    (ofBits (bitsOf 240 0xA5C3F00D)) none (.clear .system .macResource)
    groupHeader_encodable (ofBits_window _) rfl (nofun)
    groupHeader_len.1 groupHeader_len.2 (by decide)
  refine ⟨fragger, created, sends.mpr ?_⟩
  rw [message_len]
  decide

/-- **A message of 208 bits leaves every empty block empty**: it fits a block, but not together with
its channel allocation. -/
theorem deferred_for_ever : ∃ fragger next : BsFragger Nat, newWithAie groupHeader
        (ofBits (bitsOf 208 0xA5C3F00D)) none (.clear .system .macResource) = .ok fragger ∧
      groupHeader.computeHeaderLen = .ok 68 ∧
      fragger.getNextChunk (BitBuffer.new schFCap) = .ok ((false, next), BitBuffer.new schFCap) ∧
      ¬ Sends fragger := by
  have defers : Defers groupHeader (ofBits (bitsOf 208 0xA5C3F00D)).unread schFCap := by
    rw [Defers, length_unread (ofBits_window _), message_len]
    decide
  have waiting : Waiting groupHeader (ofBits (bitsOf 208 0xA5C3F00D)).unread
      (⟨groupHeader, none, none, false, false, false, ofBits (bitsOf 208 0xA5C3F00D),
        none, .clear .system .macResource, none⟩ : BsFragger Nat) :=
    ⟨rfl, rfl, rfl, rfl, rfl, ofBits_window _, rfl, rfl⟩
  have quiet : groupHeader.isNullPdu = true → (ofBits (bitsOf 208 0xA5C3F00D)).unread = [] := nofun
  obtain ⟨complete, next, after, ran, stays, outcome⟩ :=
    getNextChunk_waiting groupHeader_encodable quiet waiting fresh_offered
  have same := stays.mpr defers
  subst same
  cases outcome with
  | whole header emits => exact absurd rfl emits.ne
  | started header data rest emits => exact absurd rfl emits.ne
  | deferred _ again =>
    refine ⟨_, next, rfl, rfl, ran, fun sends => ?_⟩
    exact (waiting_sends_iff groupHeader_encodable quiet waiting).mp sends defers

end Fragmentation

end Bluestation
