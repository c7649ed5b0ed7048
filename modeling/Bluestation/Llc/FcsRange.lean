/-
**The check sequence over a range of a buffer, and over received messages.**

The register starts from all ones, from which the bits that a short range does not fill are shifted
out; then the range is taken in bit by bit. For an empty range the shift is by the whole width of
the register, which overflows.

* `computeFcs_eq`, `checkFcs_eq` — over a buffer the check is that of the bits it is asked about.
* `computes_iff`, `exact_iff` — when the sequence is computed, and when the check has its verdict.
* `screen_runs_iff`, `handleAlData_runs_iff` — which received messages stop the layer.
-/

import Bluestation.Llc.AdvancedReceiver
import Bluestation.Llc.BasicAcks

namespace Bluestation

open Bits BasicLlc List Option Nat BitBuffer

namespace Bits.BitBuffer

/-- The value of `width` bits at an offset from the start of the window, if it has them. -/
def peekBitsStartoffset (b : BitBuffer) (offset width : Nat) : Option Nat :=
  if offset + width ≤ b.getLen then some (valueOf ((b.bits.drop (b.start + offset)).take width))
  else none

def range (b : BitBuffer) (start stop : Nat) : List Bool :=
  (b.bits.drop (b.start + start)).take (stop - start)

end Bits.BitBuffer

namespace Fcs

/-- A left shift of the register; one by its whole width overflows. -/
def shiftLeft (crc : BitVec 32) (amount : Nat) : Except Fault (BitVec 32) := do
  assertThat (amount < 32)
  .ok (crc <<< amount)

/-- Take in the bit at a position of the window. -/
def takeIn (bitbuf : BitBuffer) (start : Nat) (crc : BitVec 32) (i : Nat) :
    Except Fault (BitVec 32) :=
  match bitbuf.peekBitsStartoffset (start + i) 1 with
  | none => .error .panic
  | some bit =>
    let feedback := (bit ^^^ (crc >>> 31).toNat) &&& 1
    let crc := crc <<< 1
    .ok (if feedback ≠ 0 then crc ^^^ 0x04C11DB7#32 else crc)

end Fcs

namespace Bits.BitBuffer

open Fcs

/-- The check sequence of a range of the window. -/
def computeFcs (bitbuf : BitBuffer) (start stop : Nat) : Except Fault (BitVec 32) := do
  assertThat (start ≤ stop)
  assertThat (stop ≤ bitbuf.getLen)
  let len := stop - start
  let crc ← if len < 32 then shiftLeft 0xFFFFFFFF#32 (32 - len) else .ok 0xFFFFFFFF#32
  let crc ← (List.range len).foldlM (takeIn bitbuf start) crc
  .ok (~~~crc)

/-- Whether the last 32 bits are the check sequence of those between them and the position. -/
def checkFcs (bitbuf : BitBuffer) : Except Fault Bool :=
  if bitbuf.getLenRemaining < 32 then .ok false
  else do
    let fcsComputed ← bitbuf.computeFcs bitbuf.getPos (bitbuf.getLen - 32)
    match bitbuf.peekBitsStartoffset (bitbuf.getLen - 32) 32 with
    | none => .error .panic
    | some fcsExtracted => .ok (fcsComputed.toNat = fcsExtracted)

end Bits.BitBuffer

namespace Fcs

variable {b : BitBuffer} {start stop : Nat}

/-! ### The range of a buffer -/

theorem length_range (window : b.Window) (inside : stop ≤ b.getLen) :
    (b.range start stop).length = stop - start := by
  have := window.stop_le
  unfold BitBuffer.range
  rw [length_take, length_drop]
  unfold getLen at inside
  omega

theorem range_cons (window : b.Window) (some' : start < stop) (inside : stop ≤ b.getLen) :
    ∃ bit, b.range start stop = bit :: b.range (start + 1) stop ∧
      b.peekBitsStartoffset start 1 = some bit.toNat := by
  have := window.stop_le
  unfold getLen at inside
  have below : b.start + start < b.bits.length := by omega
  refine ⟨b.bits[b.start + start], ?_, ?_⟩
  · unfold BitBuffer.range
    rw [drop_eq_getElem_cons below, show stop - start = stop - (start + 1) + 1 by omega]
    rfl
  · unfold peekBitsStartoffset getLen
    rw [if_pos (by omega), drop_eq_getElem_cons below]
    congr 1
    show b.bits[b.start + start].toNat * 2 ^ 0 + 0 = _
    omega

theorem takeIn_eq {bit : Bool} (crc : BitVec 32) {i : Nat}
    (found : b.peekBitsStartoffset (start + i) 1 = some bit.toNat) :
    takeIn b start crc i = .ok (feed crc bit) := by
  have top : (crc >>> 31).toNat = crc.msb.toNat := by
    rw [BitVec.toNat_ushiftRight, BitVec.msb_eq_decide]
    by_cases high : 2 ^ (32 - 1) ≤ crc.toNat
    · rw [decide_eq_true high]
      simp only [Bool.toNat_true]
      omega
    · rw [decide_eq_false high]
      simp only [Bool.toNat_false]
      omega
  unfold takeIn feed
  rw [found]
  rw [top]
  cases bit <;> cases crc.msb <;> rfl

/-- **A range is taken in as its bits are**, from any of its bits on. -/
theorem foldlM_takeIn (window : b.Window) (inside : stop ≤ b.getLen) :
    ∀ (count i : Nat) (crc : BitVec 32), start + i + count = stop →
      (List.range' i count).foldlM (takeIn b start) crc =
        .ok ((b.range (start + i) stop).foldl feed crc) := by
  intro count
  induction count with
  | zero =>
    intro i crc reaches
    have none' : b.range (start + i) stop = [] := by
      apply eq_nil_of_length_eq_zero
      rw [length_range window inside]
      omega
    rw [none']
    rfl
  | succ count ih =>
    intro i crc reaches
    obtain ⟨bit, split, found⟩ := @range_cons b (start + i) stop window (by omega) inside
    rw [range'_succ, foldlM_cons, takeIn_eq crc found, ok_bind, ih _ _ (by omega), split]
    rfl

/-- **The check sequence of a range is that of its bits.** -/
theorem computeFcs_eq (window : b.Window) (ordered : start ≤ stop) (inside : stop ≤ b.getLen) :
    b.computeFcs start stop = computeFcs (b.range start stop) := by
  have taken (crc : BitVec 32) :=
    @foldlM_takeIn b start stop window inside (stop - start) 0 crc (by omega)
  unfold BitBuffer.computeFcs computeFcs initial
  rw [assertThat_of ordered, assertThat_of inside, ok_bind, ok_bind, length_range window inside]
  dsimp only
  rw [range_eq_range']
  by_cases short : stop - start < 32
  · rw [if_pos short, if_pos short]
    unfold shiftLeft
    by_cases empty : stop - start = 0
    · rw [assertThat_not (by omega), assertThat_not (by omega)]
      rfl
    · rw [assertThat_of (by omega), assertThat_of empty, ok_bind, ok_bind, taken]
      rfl
  · rw [if_neg short, if_neg short, assertThat_of (by omega), ok_bind, taken]
    rfl

/-- **The check of a buffer is that of the bits behind its position.** -/
theorem checkFcs_eq (window : b.Window) : b.checkFcs = checkFcs b.unread := by
  have startLe := window.start_le
  have length := length_unread window
  unfold BitBuffer.checkFcs checkFcs
  rw [length]
  by_cases short : b.getLenRemaining < 32
  · rw [if_pos short, if_pos short]
  · have front : b.range b.getPos (b.getLen - 32) = b.unread.take (b.getLenRemaining - 32) := by
      unfold BitBuffer.range BitBuffer.unread BitBuffer.getPos BitBuffer.getLen getLenRemaining
      rw [take_take, Nat.add_sub_cancel' startLe]
      congr 1
      omega
    have back : (b.bits.drop (b.start + (b.getLen - 32))).take 32 =
        b.unread.drop (b.getLenRemaining - 32) := by
      unfold getLenRemaining at short
      unfold unread getLen BitBuffer.getLenRemaining
      rw [drop_take, drop_drop, Nat.sub_sub_self (by omega)]
      congr 2
      omega
    unfold getLenRemaining at short
    rw [if_neg (by exact short), if_neg (by exact short),
      computeFcs_eq window (by unfold getPos getLen; omega) (by omega), front]
    unfold peekBitsStartoffset
    rw [if_pos (by unfold getLen; omega), back]

/-! ### Where the check has its verdict -/

theorem computeFcs_runs_iff (bits : List Bool) : (∃ crc, computeFcs bits = .ok crc) ↔ bits ≠ [] := by
  unfold computeFcs
  by_cases empty : bits.length = 0
  · simp [length_eq_zero_iff.mp empty]
  · rw [assertThat_of empty, ok_bind]
    simp only [Except.ok.injEq, exists_eq', true_iff]
    rintro rfl
    exact empty rfl

theorem computes_iff (window : b.Window) (ordered : start ≤ stop) (inside : stop ≤ b.getLen) :
    (∃ crc, b.computeFcs start stop = .ok crc) ↔ start < stop := by
  rw [computeFcs_eq window ordered inside, computeFcs_runs_iff, ← length_pos_iff,
    length_range window inside]
  omega

/-- The check of a buffer has a verdict: that the last 32 bits of the message are the check sequence
of the bits before them. -/
def Exact (b : BitBuffer) : Prop :=
  ∃ verdict, b.checkFcs = .ok verdict ∧
    (verdict = true ↔ 32 ≤ b.getLenRemaining ∧
      ∃ crc, b.computeFcs b.getPos (b.getLen - 32) = .ok crc ∧
        b.range (b.getLen - 32) b.getLen = bitsOf 32 crc.toNat)

theorem checkFcs_panics_iff (bits : List Bool) :
    checkFcs bits = .error .panic ↔ bits.length = 32 := by
  unfold checkFcs computeFcs
  by_cases short : bits.length < 32
  · rw [if_pos short]
    simp only [reduceCtorEq, false_iff]
    omega
  · rw [if_neg short, length_take]
    by_cases only : bits.length = 32
    · rw [only]
      simp [error_bind]
    · rw [assertThat_of (by omega)]
      simp [ok_bind, only]

theorem eq_bitsOf_iff {bits : List Bool} {width value : Nat} (length : bits.length = width)
    (fits : value < 2 ^ width) : bits = bitsOf width value ↔ value = valueOf bits := by
  constructor
  · intro same
    rw [same, valueOf_bitsOf_of_lt fits]
  · intro same
    rw [same, ← length, bitsOf_valueOf]

/-- **The check of a buffer has its verdict unless the message is nothing but a check sequence.** -/
theorem exact_iff (window : b.Window) : Exact b ↔ b.getLenRemaining ≠ 32 := by
  have startLe := window.start_le
  have enough : b.getLenRemaining = b.getLen - b.getPos := by
    unfold getLenRemaining getLen getPos
    omega
  constructor
  · rintro ⟨verdict, checked, -⟩ only
    rw [checkFcs_eq window, (checkFcs_panics_iff b.unread).mpr] at checked
    · cases checked
    · rw [length_unread window, only]
  · intro more
    unfold Exact BitBuffer.checkFcs
    by_cases short : b.getLenRemaining < 32
    · rw [if_pos short]
      refine ⟨false, rfl, ?_⟩
      simp only [Bool.false_eq_true, false_iff, not_and]
      intro long
      exact absurd short (not_lt.mpr long)
    · obtain ⟨crc, computed⟩ := (@computes_iff b b.getPos (b.getLen - 32) window (by omega)
        (Nat.sub_le _ _)).mpr (by omega)
      have last : (b.range (b.getLen - 32) b.getLen).length = 32 := by
        rw [length_range window le_rfl]
        omega
      have extracted : b.peekBitsStartoffset (b.getLen - 32) 32 =
          some (valueOf (b.range (b.getLen - 32) b.getLen)) := by
        unfold BitBuffer.peekBitsStartoffset BitBuffer.range
        rw [if_pos (by omega), Nat.sub_sub_self (by omega)]
      rw [if_neg short, computed, extracted]
      refine ⟨_, rfl, ?_⟩
      rw [decide_eq_true_iff, ← eq_bitsOf_iff last crc.isLt]
      constructor
      · intro same
        exact ⟨by omega, crc, rfl, same⟩
      · rintro ⟨-, other, same, field⟩
        cases same
        exact field

/-! ### Received messages -/

section Received

variable {Key : Type} {llc : BasicLlc Key} {config : SharedConfig}
  {prim : BasicLlc.TmaUnitdataInd Key} {pduType : LlcPduType} {header : BlHeader}
  {pdu rest : BitBuffer}

/-- A received message of the basic link that has a check sequence stops the layer if it has nothing
else behind its header. -/
theorem screen_runs_iff (parsed : BlHeader.fromBitbuf pduType pdu = .ok (header, rest))
    (protected' : header.hasFcs = true) :
    llc.screen config prim pduType pdu ≠ .error .panic ↔ rest.unread.length ≠ 32 := by
  unfold BasicLlc.screen
  rw [parsed]
  dsimp only
  rw [if_pos protected', ne_eq, ne_eq, ← checkFcs_panics_iff]
  cases checked : checkFcs rest.unread with
  | error fault =>
    simp [error_bind]
  | ok valid =>
    rw [ok_bind]
    split
    · simp
    · split <;> simp

/-- **A burst of up to 32 wrong bits is without effect**: a protected message of the basic link that
is hit behind its header leaves the layer as it was. -/
theorem rxTmaUnitdataInd_burst [DecidableEq Key] (arrives : prim.pdu = some pdu)
    (typed : (pdu.peekBits 4).bind LlcPduType.tryFrom = some pduType)
    (parsed : BlHeader.fromBitbuf pduType pdu = .ok (header, rest))
    (protected' : header.hasFcs = true) {bits before sent received after : List Bool}
    (some' : bits ≠ []) (block : bits ++ sequence bits = before ++ sent ++ after)
    (sameLength : sent.length = received.length) (short : sent.length ≤ 32)
    (wrong : sent ≠ received) (hit : rest.unread = before ++ received ++ after) :
    llc.rxTmaUnitdataInd config prim = .ok llc := by
  have dropped : llc.screen config prim pduType pdu = .ok none := by
    unfold BasicLlc.screen
    rw [parsed]
    dsimp only
    rw [if_pos protected', hit, checkFcs_burst some' block sameLength short wrong]
    rfl
  unfold BasicLlc.rxTmaUnitdataInd BasicLlc.takeUp
  rw [arrives]
  dsimp only
  rw [typed]
  dsimp only
  rw [dropped]
  cases pduType.isBasic <;> rfl

def hitUdata : BitBuffer := .ofBits ((BlUdata.mk true).wire ++ ([true] ++ sequence [false]))

theorem rxTmaUnitdataInd_hit : (BasicLlc.new ⟨3, 1, 1, 0⟩ : BasicLlc Unit).rxTmaUnitdataInd
    openCell ⟨some hitUdata, terminal1001, none⟩ = .ok (.new ⟨3, 1, 1, 0⟩) :=
  @rxTmaUnitdataInd_burst _ _ _ _ .blUdataFcs ⟨true, none, none⟩ hitUdata (hitUdata.skip 4) _ rfl
    (by decide +kernel) (by decide +kernel) rfl [false] [] [false] [true] (sequence [false])
    (by decide) rfl rfl (by decide) (by decide) (by decide +kernel)

/-- The segment that arrives is the last one missing of a message: these are its bits. -/
structure Completes (link : AdvancedReceiver) (header : AlDataHeader) (payload bits : List Bool) :
    Prop where
  running : link.reset = none
  inside : sequenceDistance header.ns link.nextRxNs < link.windowSize
  open' : ((link.rxSdus header.ns).getD (.fresh header.ns)).complete = none
  all : (((link.rxSdus header.ns).getD (.fresh header.ns)).accept header payload).assembled = some bits

theorem bind_ok_panics_iff {α β : Type} {computed : Except Fault α} {continue' : α → β} :
    (computed >>= fun result => (.ok (continue' result) : Except Fault β)) = .error .panic ↔
      computed = .error .panic := by
  cases computed with
  | error fault => rw [error_bind, Except.error.injEq, Except.error.injEq]
  | ok result => simp [ok_bind]

/-- A segment stops the layer if it completes a message that is nothing but a check sequence. -/
theorem handleAlData_runs_iff {link : AdvancedReceiver} {header : AlDataHeader}
    (parsed : AlDataHeader.fromBitbuf pdu = .ok (header, rest)) :
    link.handleAlData pdu ≠ .error .panic ↔
      ∀ bits, Completes link header rest.unread bits → bits.length ≠ 32 := by
  have collects (rx : AdvancedRxSdu) : (link.collect header rx = .error .panic ↔
      ∃ bits, rx.assembled = some bits ∧ bits.length = 32) := by
    unfold AdvancedReceiver.collect
    cases whole : rx.assembled with
    | none => simp
    | some bits =>
      simp only [some.injEq, exists_eq_left']
      rw [← checkFcs_panics_iff]
      cases checked : checkFcs bits with
      | error fault => simp [error_bind]
      | ok valid =>
        rw [ok_bind]
        split <;> simp
  unfold AdvancedReceiver.handleAlData
  rw [parsed]
  dsimp only
  by_cases resetting : link.reset.isSome = true
  · rw [if_pos resetting]
    simp only [ne_eq, reduceCtorEq, not_false_eq_true, true_iff]
    intro bits completes
    rw [completes.running] at resetting
    cases resetting
  rw [if_neg resetting]
  by_cases outside : link.windowSize ≤ sequenceDistance header.ns link.nextRxNs
  · rw [if_pos outside]
    have answered : ∀ bits, Completes link header rest.unread bits → bits.length ≠ 32 := by
      intro bits completes
      exact absurd completes.inside (not_lt.mpr outside)
    split
    · exact iff_of_true (by simp) answered
    · exact iff_of_true (by simp) answered
  rw [if_neg outside]
  by_cases done : ((link.rxSdus header.ns).getD (.fresh header.ns)).complete.isSome = true
  · rw [if_pos done]
    simp only [ne_eq, reduceCtorEq, not_false_eq_true, true_iff]
    intro bits completes
    rw [completes.open'] at done
    cases done
  rw [if_neg done]
  have running : link.reset = none := not_isSome_iff_eq_none.mp resetting
  have open' := not_isSome_iff_eq_none.mp done
  have completes (bits : List Bool) : Completes link header rest.unread bits ↔
      (((link.rxSdus header.ns).getD (.fresh header.ns)).accept header rest.unread).assembled =
        some bits :=
    ⟨fun completes => completes.all, fun all => ⟨running, not_le.mp outside, open', all⟩⟩
  simp only [completes]
  refine bind_ok_panics_iff.not.trans ((collects _).not.trans ?_)
  simp only [not_exists, not_and]

/-- **Where the check sequence is computed and checked, and which received messages stop the layer**:
what it stumbles over is a message that is nothing but a check sequence. -/
theorem checks_iff (window : b.Window) (ordered : start ≤ stop) (inside : stop ≤ b.getLen)
    (parsed : BlHeader.fromBitbuf pduType pdu = .ok (header, rest))
    (protected' : header.hasFcs = true) {link : AdvancedReceiver} {alHeader : AlDataHeader}
    {segment payload : BitBuffer} (read : AlDataHeader.fromBitbuf segment = .ok (alHeader, payload)) :
    ((∃ crc, b.computeFcs start stop = .ok crc) ↔ start < stop) ∧
    (Exact b ↔ b.getLenRemaining ≠ 32) ∧
    (llc.screen config prim pduType pdu ≠ .error .panic ↔ rest.unread.length ≠ 32) ∧
    (link.handleAlData segment ≠ .error .panic ↔
      ∀ bits, Completes link alHeader payload.unread bits → bits.length ≠ 32) :=
  ⟨computes_iff window ordered inside, exact_iff window, screen_runs_iff parsed protected',
    handleAlData_runs_iff read⟩

end Received

/-- Unnumbered data of the basic link that has a check sequence, with nothing before it. -/
def bareUdata : BitBuffer := .ofBits ((BlUdata.mk true).wire ++ List.replicate 32 false)

/-- The only segment of a message of the advanced link: a check sequence with nothing before it. -/
def bareSegment : BitBuffer :=
  .ofBits ((AlDataHeader.mk true false 0 0).wire ++ List.replicate 32 false)

def idleReceiver : AdvancedReceiver := ⟨1, 0, fun _ => none, none⟩

theorem checks_bare : ((∃ crc, (BitBuffer.new 40).computeFcs 3 8 = .ok crc) ↔ 3 < 8) ∧
    (Exact (.new 40) ↔ (BitBuffer.new 40).getLenRemaining ≠ 32) ∧
    ((BasicLlc.new ⟨3, 1, 1, 0⟩ : BasicLlc Unit).screen openCell ⟨some bareUdata, terminal1001, none⟩
      .blUdataFcs bareUdata ≠ .error .panic ↔ (bareUdata.skip 4).unread.length ≠ 32) ∧
    (idleReceiver.handleAlData bareSegment ≠ .error .panic ↔
      ∀ bits, Completes idleReceiver ⟨true, false, 0, 0⟩ (bareSegment.skip 17).unread bits →
        bits.length ≠ 32) :=
  checks_iff (new_window 40) (by decide) (by decide)
    (show BlHeader.fromBitbuf .blUdataFcs bareUdata =
      .ok (⟨true, none, none⟩, bareUdata.skip 4) by decide +kernel) rfl
    (show AlDataHeader.fromBitbuf bareSegment =
      .ok (⟨true, false, 0, 0⟩, bareSegment.skip 17) by decide +kernel)

/-- **A message that is nothing but a check sequence stops the layer**, on either link. -/
theorem bare_check_stops : (BitBuffer.new 0).computeFcs 0 0 = .error .panic ∧ ¬ Exact (.new 32) ∧
    (BasicLlc.new ⟨3, 1, 1, 0⟩ : BasicLlc Unit).rxTmaUnitdataInd openCell
      ⟨some bareUdata, terminal1001, none⟩ = .error .panic ∧
    idleReceiver.handleAlData bareSegment = .error .panic := by
  refine ⟨rfl, ?_, rfl, rfl⟩
  rw [exact_iff (new_window 32)]
  decide

end Fcs

end Bluestation
