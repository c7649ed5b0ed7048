/-
**The codecs of the advanced link's PDUs.**

Each encoder checks the value first and then writes its fields; each decoder reads the fields and
then checks what it has read. AL-ACK has no block count: its blocks go on to the end of the buffer.

* `AlSetup.reads_fromBitbuf`, `AlAck.roundTrips`, … — what was encoded is decoded.
* `AlSetup.accepts_fromBitbuf`, `AlAck.reproduces`, … — what was decoded is encoded as it stood.
* `codecs_iff` — for which values, and for which bits, the codecs agree.
-/

import Bluestation.Lib.Parsing
import Bluestation.Pdus.AdvancedLink

namespace Bluestation

open Bits List Option Nat Accepts Reads BitBuffer

/-! ### Flags and slot counts -/

variable (name : String)

def readFlag : BufM Bool := do
  let value ← readField 1 name
  pure (value != 0)

/-- A number of timeslots, if it is there: one less is in the field. -/
def readSlots (present : Bool) (name : String) : BufM (Option Nat) :=
  if present then do
    let value ← readField 2 name
    pure (some (value + 1))
  else pure none

def writeSlots (slots : Option Nat) (field : String) : BufM Unit :=
  match slots with
  | none => pure ()
  | some slots =>
    if ¬ (1 ≤ slots ∧ slots ≤ 4) then throw (.parse (.invalidValue field slots))
    else writeBits (slots - 1) 2

def wireSlots : Option Nat → List Bool
  | none => []
  | some slots => bitsOf 2 (slots - 1)

def SlotsFit (slots : Option Nat) : Prop := ∀ count ∈ slots, 1 ≤ count ∧ count ≤ 4

theorem bitsOf_flag (flag : Bool) : bitsOf 1 flag.toNat = [flag] := by
  cases flag <;> rfl

theorem accepts_readField (width : Nat) (name : String) :
    Accepts (readField width name) fun value field => field = bitsOf width value ∧ value < 2 ^ width :=
  take _ width

theorem Bits.Accepts.field {β : Type} {name : String} {width : Nat} {next : Nat → BufM β}
    {more : β → List Bool → Prop} (rest : ∀ value, value < 2 ^ width →
      Accepts (next value) fun result behind => more result (bitsOf width value ++ behind)) :
    Accepts (readField width name >>= next) more :=
  (accepts_readField width name).bind fun value _ ⟨is, fits⟩ => is ▸ rest value fits

theorem reads_readFlag (flag : Bool) : Reads (readFlag name) [flag] flag := by
  have read : Reads (readField 1 name) [flag] flag.toNat := by
    rw [← bitsOf_flag]
    exact reads_readField name (Bool.toNat_lt _)
  refine read.finish ?_
  rw [toNat_ne_zero]
  exact pure _

theorem accepts_readFlag : Accepts (readFlag name) fun flag field => field = [flag] := by
  refine (accepts_readField 1 name).bind ?_
  rintro value _ ⟨rfl, fits⟩
  apply Accepts.pure
  rcases (by omega : value = 0 ∨ value = 1) with rfl | rfl
  · rfl
  · rfl

theorem Bits.Accepts.flag {β : Type} {name : String} {next : Bool → BufM β}
    {more : β → List Bool → Prop} (rest : ∀ flag,
      Accepts (next flag) fun result behind => more result ([flag] ++ behind)) :
    Accepts (readFlag name >>= next) more :=
  (accepts_readFlag name).bind fun flag _ is => is ▸ rest flag

theorem reads_readSlots {present : Bool} {slots : Option Nat} (fit : SlotsFit slots)
    (same : present = slots.isSome) : Reads (readSlots present name) (wireSlots slots) slots := by
  subst same
  cases slots with
  | none => exact .pure _
  | some count =>
    obtain ⟨low, high⟩ := fit count rfl
    refine (reads_readField name (by omega : count - 1 < 2 ^ 2)).finish ?_
    rw [Nat.sub_add_cancel low]
    exact pure _

theorem accepts_readSlots (present : Bool) (name : String) :
    Accepts (readSlots present name) fun slots field =>
      field = wireSlots slots ∧ SlotsFit slots ∧ present = slots.isSome := by
  apply Accepts.ite
  · intro is
    refine (accepts_readField 2 name).bind ?_
    rintro value _ ⟨rfl, fits⟩
    apply Accepts.pure
    refine ⟨append_nil _, ?_, is⟩
    rintro count ⟨⟩
    exact ⟨le_add_left _ _, by omega⟩
  · intro is
    apply Accepts.pure
    refine ⟨rfl, ?_, Bool.eq_false_iff.mpr is⟩
    intro count found
    cases found

theorem writes_writeSlots (field : String) {slots : Option Nat} (fit : SlotsFit slots) :
    Writes (writeSlots slots field) (wireSlots slots) := by
  cases slots with
  | none => exact .pure
  | some count =>
    unfold writeSlots
    dsimp only
    rw [if_neg (not_not.mpr (fit count rfl))]
    exact writes_writeBits _ _

theorem requires_writeSlots (slots : Option Nat) (field : String) :
    Requires (writeSlots slots field) (SlotsFit slots) := by
  intro b done later ran count found
  cases found
  unfold writeSlots at ran
  dsimp only at ran
  by_contra unfit
  rw [if_pos unfit] at ran
  cases ran

theorem accepts_expectType (expected : Nat) :
    Accepts (expectType expected) fun _ field => field = bitsOf 4 expected := by
  refine (accepts_readField 4 _).bind ?_
  rintro found _ ⟨rfl, -⟩
  apply Accepts.ite
  · exact fun _ => throw
  · intro same
    apply Accepts.pure
    rw [append_nil, not_not.mp same]

theorem reads_expectType {expected : Nat} (fits : expected < 2 ^ 4) :
    Reads (expectType expected) (bitsOf 4 expected) () := by
  refine (reads_readField _ fits).finish ?_
  rw [if_neg (not_not.mpr rfl)]
  exact pure _

/-! ### AL-SETUP -/

def alSetup : Nat := 8

namespace AlSetup

def fromBitbuf : BufM AlSetup := do
  expectType alSetup
  let acknowledged ← readFlag "advanced_link_service"
  let linkNumber ← readField 2 "advanced_link_number"
  let maximumSdu ← readField 3 "maximum_tl_sdu"
  let connectionWidth ← readFlag "connection_width"
  let asymmetric ← readFlag "advanced_link_symmetry"
  let uplinkSlots ← readSlots connectionWidth "uplink_timeslots"
  let downlinkSlots ← readSlots (connectionWidth && asymmetric) "downlink_timeslots"
  let throughput ← readField 3 "data_transfer_throughput"
  let windowSize ← readField 2 "tl_sdu_window"
  let sduRetransmissions ← readField 3 "tl_sdu_retransmissions"
  let segmentRetransmissions ← readField 4 "segment_retransmissions"
  let report ← readField 3 "setup_report"
  if !acknowledged ∨ 3 < linkNumber ∨ 7 < maximumSdu ∨ windowSize = 0 then
    throw (.parse (.notImplemented "non-TIP original advanced link"))
  else
    pure ⟨acknowledged, linkNumber, maximumSdu, connectionWidth, asymmetric, uplinkSlots,
      downlinkSlots, throughput, windowSize, sduRetransmissions, segmentRetransmissions, report⟩

def toBitbuf (setup : AlSetup) : BufM Unit :=
  if !setup.acknowledged ∨ 3 < setup.linkNumber ∨ 7 < setup.maximumSdu ∨ 7 < setup.throughput ∨
      ¬ (1 ≤ setup.windowSize ∧ setup.windowSize ≤ 3) ∨ 7 < setup.sduRetransmissions ∨
      15 < setup.segmentRetransmissions ∨ 7 < setup.report ∨
      setup.connectionWidth ≠ setup.uplinkSlots.isSome ∨
      setup.asymmetric ≠ setup.downlinkSlots.isSome then
    throw (.parse (.inconsistency "al_setup" "invalid original advanced-link profile"))
  else do
    writeBits alSetup 4
    writeBit true
    writeBits setup.linkNumber 2
    writeBits setup.maximumSdu 3
    writeBit setup.connectionWidth
    writeBit setup.asymmetric
    writeSlots setup.uplinkSlots "uplink_timeslots"
    writeSlots setup.downlinkSlots "downlink_timeslots"
    writeBits setup.throughput 3
    writeBits setup.windowSize 2
    writeBits setup.sduRetransmissions 3
    writeBits setup.segmentRetransmissions 4
    writeBits setup.report 3

/-- The bits of a setup on the wire. -/
def wire (setup : AlSetup) : List Bool :=
  bitsOf 4 alSetup ++ ([setup.acknowledged] ++ (bitsOf 2 setup.linkNumber ++
    (bitsOf 3 setup.maximumSdu ++ ([setup.connectionWidth] ++ ([setup.asymmetric] ++
      (wireSlots setup.uplinkSlots ++ (wireSlots setup.downlinkSlots ++
        (bitsOf 3 setup.throughput ++ (bitsOf 2 setup.windowSize ++
          (bitsOf 3 setup.sduRetransmissions ++ (bitsOf 4 setup.segmentRetransmissions ++
            bitsOf 3 setup.report)))))))))))

/-- **What encoder and decoder agree about.** -/
structure Fits (setup : AlSetup) : Prop where
  acknowledged : setup.acknowledged = true
  linkNumber : setup.linkNumber < 2 ^ 2
  maximumSdu : setup.maximumSdu < 2 ^ 3
  throughput : setup.throughput < 2 ^ 3
  window_pos : 1 ≤ setup.windowSize
  windowSize : setup.windowSize < 2 ^ 2
  sduRetransmissions : setup.sduRetransmissions < 2 ^ 3
  segmentRetransmissions : setup.segmentRetransmissions < 2 ^ 4
  report : setup.report < 2 ^ 3
  uplink : setup.connectionWidth = setup.uplinkSlots.isSome
  uplinkSlots : SlotsFit setup.uplinkSlots
  downlinkSlots : SlotsFit setup.downlinkSlots

theorem slotsFit_iff (slots : Option Nat) :
    slots.all (fun count => 1 ≤ count && count ≤ 4) = true ↔ SlotsFit slots := by
  cases slots with
  | none => simp [SlotsFit]
  | some count => simp [SlotsFit]

theorem encodable_iff (setup : AlSetup) : setup.encodable = true ↔
    setup.Fits ∧ setup.asymmetric = setup.downlinkSlots.isSome := by
  unfold encodable
  simp only [Bool.and_eq_true, decide_eq_true_eq, slotsFit_iff]
  constructor
  · rintro ⟨⟨⟨⟨⟨⟨⟨⟨⟨⟨⟨⟨acknowledged, number⟩, maximum⟩, throughput⟩, pos⟩, window⟩, sdu⟩, segment⟩,
      report⟩, up⟩, down⟩, upFits⟩, downFits⟩
    exact ⟨⟨acknowledged, by omega, by omega, by omega, pos, by omega, by omega, by omega, by omega,
      up, upFits, downFits⟩, down⟩
  · rintro ⟨fits, down⟩
    obtain ⟨acknowledged, number, maximum, throughput, pos, window, sdu, segment, report, up, upFits,
      downFits⟩ := fits
    exact ⟨⟨⟨⟨⟨⟨⟨⟨⟨⟨⟨⟨acknowledged, by omega⟩, by omega⟩, by omega⟩, pos⟩, by omega⟩, by omega⟩,
      by omega⟩, by omega⟩, up⟩, down⟩, upFits⟩, downFits⟩

variable {setup : AlSetup}

theorem passes_check (fits : setup.Fits) (down : setup.asymmetric = setup.downlinkSlots.isSome) :
    ¬ (!setup.acknowledged ∨ 3 < setup.linkNumber ∨ 7 < setup.maximumSdu ∨ 7 < setup.throughput ∨
      ¬ (1 ≤ setup.windowSize ∧ setup.windowSize ≤ 3) ∨ 7 < setup.sduRetransmissions ∨
      15 < setup.segmentRetransmissions ∨ 7 < setup.report ∨
      setup.connectionWidth ≠ setup.uplinkSlots.isSome ∨
      setup.asymmetric ≠ setup.downlinkSlots.isSome) := by
  obtain ⟨acknowledged, number, maximum, throughput, pos, window, sdu, segment, report, up, -, -⟩ :=
    fits
  simp only [acknowledged, Bool.not_true, Bool.false_eq_true, false_or, not_or, not_not]
  exact ⟨by omega, by omega, by omega, ⟨pos, by omega⟩, by omega, by omega, by omega, up, down⟩

theorem writes_toBitbuf (encodable : setup.encodable = true) : Writes setup.toBitbuf setup.wire := by
  obtain ⟨fits, down⟩ := setup.encodable_iff.mp encodable
  unfold toBitbuf wire
  rw [if_neg (passes_check fits down), fits.acknowledged]
  refine .bits ?_
  refine .flag ?_
  refine .bits ?_
  refine .bits ?_
  refine .flag ?_
  refine .flag ?_
  refine (writes_writeSlots _ fits.uplinkSlots).bind ?_
  refine (writes_writeSlots _ fits.downlinkSlots).bind ?_
  refine .bits ?_
  refine .bits ?_
  refine .bits ?_
  refine .bits ?_
  exact writes_writeBits _ _

/-- **What the encoder lets through is encodable.** -/
theorem requires_toBitbuf (setup : AlSetup) : Requires setup.toBitbuf (setup.encodable = true) := by
  intro b done later ran
  unfold toBitbuf at ran
  split at ran
  · cases ran
  next passed =>
    simp only [Bool.not_eq_true', not_or, Bool.not_eq_false, not_not] at passed
    obtain ⟨acknowledged, number, maximum, throughput, window, sdu, segment, report, up, down⟩ := passed
    have slots := Requires.both
      (.later fun _ => .later fun _ => .later fun _ => .later fun _ => .later fun _ => .later fun _ =>
        .first (requires_writeSlots setup.uplinkSlots "uplink_timeslots"))
      (.later fun _ => .later fun _ => .later fun _ => .later fun _ => .later fun _ => .later fun _ =>
        .later fun _ => .first (requires_writeSlots setup.downlinkSlots "downlink_timeslots"))
      b done later ran
    exact setup.encodable_iff.mpr ⟨⟨acknowledged, by omega, by omega, by omega, window.1, by omega,
      by omega, by omega, by omega, up, slots.1, slots.2⟩, down⟩

/-- **A setup whose downlink slots are where the decoder looks for them is read back.** -/
theorem reads_fromBitbuf (fits : setup.Fits)
    (down : (setup.connectionWidth && setup.asymmetric) = setup.downlinkSlots.isSome) :
    Reads fromBitbuf setup.wire setup := by
  refine (reads_expectType (by decide)).bind ?_
  refine (reads_readFlag _ _).bind ?_
  refine .field fits.linkNumber ?_
  refine .field fits.maximumSdu ?_
  refine (reads_readFlag _ _).bind ?_
  refine (reads_readFlag _ _).bind ?_
  refine (reads_readSlots _ fits.uplinkSlots fits.uplink).bind ?_
  refine (reads_readSlots _ fits.downlinkSlots down).bind ?_
  refine .field fits.throughput ?_
  refine .field fits.windowSize ?_
  refine .field fits.sduRetransmissions ?_
  refine .field fits.segmentRetransmissions ?_
  refine (reads_readField _ fits.report).finish ?_
  have := fits.window_pos
  have := fits.linkNumber
  have := fits.maximumSdu
  have supported : ¬ (!setup.acknowledged ∨ 3 < setup.linkNumber ∨ 7 < setup.maximumSdu ∨
      setup.windowSize = 0) := by
    simp only [fits.acknowledged, Bool.not_true, Bool.false_eq_true, false_or]
    omega
  rw [if_neg supported]
  exact .pure _

/-- **What the decoder accepts.** -/
theorem accepts_fromBitbuf : Accepts fromBitbuf fun setup field => field = setup.wire ∧ setup.Fits ∧
    (setup.connectionWidth && setup.asymmetric) = setup.downlinkSlots.isSome := by
  refine (accepts_expectType _).bind ?_
  rintro _ _ rfl
  refine .flag fun acknowledged => ?_
  refine .field fun linkNumber numberFits => ?_
  refine .field fun maximumSdu maximumFits => ?_
  refine .flag fun connectionWidth => ?_
  refine .flag fun asymmetric => ?_
  refine (accepts_readSlots _ _).bind ?_
  rintro uplinkSlots _ ⟨rfl, upFits, up⟩
  refine (accepts_readSlots _ _).bind ?_
  rintro downlinkSlots _ ⟨rfl, downFits, down⟩
  refine .field fun throughput throughputFits => ?_
  refine .field fun windowSize windowFits => ?_
  refine .field fun sduRetransmissions sduFits => ?_
  refine .field fun segmentRetransmissions segmentFits => ?_
  refine (accepts_readField _ _).bind ?_
  rintro report _ ⟨rfl, reportFits⟩
  apply Accepts.ite
  · exact fun _ => Accepts.throw
  · intro supported
    simp only [Bool.not_eq_true', not_or, Bool.not_eq_false] at supported
    obtain ⟨acked, -, -, window⟩ := supported
    apply Accepts.pure
    refine ⟨?_, ⟨acked, numberFits, maximumFits, throughputFits, Nat.pos_of_ne_zero window,
      windowFits, sduFits, segmentFits, reportFits, up, upFits, downFits⟩, down⟩
    rfl

/-- **Setups that the encoder takes round-trip unless they are asymmetric without being wide.** -/
theorem roundTrips_iff (setup : AlSetup) : RoundTrips toBitbuf fromBitbuf setup ↔
    (setup.encodable = true → setup.asymmetric = true → setup.connectionWidth = true) := by
  constructor
  · intro trips encodable asymmetric
    obtain ⟨-, down⟩ := setup.encodable_iff.mp encodable
    have decoded := trips _ (writes_toBitbuf encodable) _ (ofBits_window _) (unread_ofBits _)
    obtain ⟨_, _, -, -, -, -, read⟩ := accepts_fromBitbuf _ _ _ (ofBits_window _) decoded
    rw [← down, asymmetric, Bool.and_true] at read
    exact read
  · intro wide
    by_cases encodable : setup.encodable = true
    · obtain ⟨fits, down⟩ := setup.encodable_iff.mp encodable
      refine roundTrips_of_reads (writes_toBitbuf encodable) (reads_fromBitbuf fits ?_)
      rw [← down]
      cases asymmetric : setup.asymmetric with
      | false => exact Bool.and_false _
      | true => rw [wide encodable asymmetric, Bool.and_true]
    · exact roundTrips_of_refused setup.requires_toBitbuf encodable

theorem flags_wire (setup : AlSetup) (rest : List Bool) :
    (setup.wire ++ rest)[10]? = some setup.connectionWidth ∧
      (setup.wire ++ rest)[11]? = some setup.asymmetric := by
  constructor
  · simp [wire, bitsOf]
  · simp [wire, bitsOf]

/-- **A setup that was decoded is encoded as it stood unless the bits were asymmetric without being
wide.** -/
theorem reproduces_iff {b : BitBuffer} (window : b.Window) {later : BitBuffer}
    (ran : fromBitbuf b = .ok (setup, later)) : Reproduces toBitbuf fromBitbuf b ↔
      ¬ (b.unread[10]? = some false ∧ b.unread[11]? = some true) := by
  obtain ⟨field, rest, begins, rfl, rfl, fits, down⟩ := accepts_fromBitbuf b setup later window ran
  obtain ⟨width, symmetry⟩ := setup.flags_wire rest
  rw [begins, width]
  have span : (b.skip setup.wire.length).pos - b.pos = setup.wire.length :=
    Nat.add_sub_cancel_left _ _
  constructor
  · rintro reproduces ⟨narrow, asymmetric⟩
    obtain ⟨-, same⟩ := setup.encodable_iff.mp
      ((reproduces setup _ ran).requires setup.requires_toBitbuf)
    rw [← down, some_inj.mp narrow, some_inj.mp asymmetric] at same
    cases same
  · intro wide value later again
    cases ran.symm.trans again
    rw [span, begins, take_left' rfl]
    refine writes_toBitbuf (setup.encodable_iff.mpr ⟨fits, ?_⟩)
    rw [← down]
    cases asymmetric : setup.asymmetric with
    | false => exact (Bool.and_false _).symm
    | true =>
      cases narrow : setup.connectionWidth with
      | true => rfl
      | false => exact absurd ⟨congrArg some narrow, congrArg some asymmetric⟩ wide

end AlSetup

/-! ### AL-DATA and AL-FINAL -/

namespace AlDataHeader

def toBitbuf (header : AlDataHeader) : BufM Unit :=
  if 7 < header.ns then throw (.parse (.invalidValue "ns" header.ns))
  else do
    writeBits alDataAlFinal 4
    writeBit header.finalSegment
    writeBit header.acknowledgementRequested
    writeBits header.ns 3
    writeBits header.segment 8

variable {header : AlDataHeader}

theorem writes_toBitbuf (sequence : header.ns < 8) : Writes header.toBitbuf header.wire := by
  unfold toBitbuf wire
  rw [if_neg (by omega), bitsOf_flag, bitsOf_flag]
  refine .bits ?_
  refine .flag ?_
  refine .flag ?_
  refine .bits ?_
  exact writes_writeBits _ _

theorem requires_toBitbuf (header : AlDataHeader) : Requires header.toBitbuf (header.ns < 8) := by
  intro b done later ran
  unfold toBitbuf at ran
  split at ran
  · cases ran
  · omega

theorem bitsOf_one_ne_zero {value : Nat} (fits : value < 2 ^ 1) :
    bitsOf 1 (value != 0).toNat = bitsOf 1 value := by
  rcases (by omega : value = 0 ∨ value = 1) with rfl | rfl
  · rfl
  · rfl

theorem accepts_fromBitbuf :
    Accepts fromBitbuf fun header field => field = header.wire ∧ header.ns < 8 := by
  refine (accepts_expectType _).bind ?_
  rintro _ _ rfl
  refine .field fun finalSegment finalFits => ?_
  refine .field fun requested requestedFits => ?_
  refine .field fun ns sequence => ?_
  refine (accepts_readField _ _).bind ?_
  rintro segment _ ⟨rfl, -⟩
  apply Accepts.pure
  refine ⟨?_, sequence⟩
  unfold wire
  rw [bitsOf_one_ne_zero finalFits, bitsOf_one_ne_zero requestedFits, append_nil]

/-- **Every header whose segment number is a byte round-trips.** -/
theorem roundTrips (position : header.segment < 256) : RoundTrips toBitbuf fromBitbuf header := by
  by_cases sequence : header.ns < 8
  · exact roundTrips_of_reads (writes_toBitbuf sequence) (reads_fromBitbuf header sequence position)
  · exact roundTrips_of_refused header.requires_toBitbuf sequence

theorem reproduces {b : BitBuffer} (window : b.Window) : Reproduces toBitbuf fromBitbuf b := by
  refine reproduces_of_accepts window (accepts_fromBitbuf.mono ?_)
  rintro header _ ⟨rfl, sequence⟩
  exact writes_toBitbuf sequence

end AlDataHeader

/-! ### AL-RECONNECT -/

def alReconnect : Nat := 12

namespace AlReconnect

def fromBitbuf : BufM AlReconnect := do
  expectType alReconnect
  let acknowledged ← readFlag "advanced_link_service"
  let linkNumber ← readField 2 "advanced_link_number"
  let report ← readField 2 "reconnect_report"
  if !acknowledged ∨ 3 < linkNumber ∨ 2 < report then
    throw (.parse (.notImplemented "unsupported advanced-link reconnect profile"))
  else pure ⟨acknowledged, linkNumber, report⟩

variable (request : AlReconnect)

def toBitbuf : BufM Unit :=
  if !request.acknowledged ∨ 3 < request.linkNumber ∨ 2 < request.report then
    throw (.parse (.inconsistency "al_reconnect" "invalid acknowledged advanced-link reconnect"))
  else do
    writeBits alReconnect 4
    writeBit true
    writeBits request.linkNumber 2
    writeBits request.report 2

def wire : List Bool :=
  bitsOf 4 alReconnect ++ ([request.acknowledged] ++
    (bitsOf 2 request.linkNumber ++ bitsOf 2 request.report))

theorem encodable_iff : request.encodable = true ↔
    request.acknowledged = true ∧ request.linkNumber ≤ 3 ∧ request.report ≤ 2 := by
  simp [encodable, and_assoc]

theorem check_iff : (!request.acknowledged ∨ 3 < request.linkNumber ∨ 2 < request.report) ↔
      ¬ request.encodable = true := by
  rw [encodable_iff]
  cases request.acknowledged with
  | false => simp
  | true =>
    simp only [Bool.not_true, Bool.false_eq_true, false_or, true_and]
    omega

theorem writes_toBitbuf {request : AlReconnect} (encodable : request.encodable = true) :
    Writes request.toBitbuf request.wire := by
  unfold toBitbuf wire
  rw [if_neg (request.check_iff.not.mpr (not_not.mpr encodable)),
    (request.encodable_iff.mp encodable).1]
  refine .bits ?_
  refine .flag ?_
  refine .bits ?_
  exact writes_writeBits _ _

theorem requires_toBitbuf : Requires request.toBitbuf (request.encodable = true) := by
  intro b done later ran
  unfold toBitbuf at ran
  split at ran
  · cases ran
  next passed =>
    exact not_not.mp (request.check_iff.not.mp passed)

theorem reads_fromBitbuf {request : AlReconnect} (encodable : request.encodable = true) :
    Reads fromBitbuf request.wire request := by
  obtain ⟨-, number, report⟩ := request.encodable_iff.mp encodable
  refine (reads_expectType (by decide)).bind ?_
  refine (reads_readFlag _ _).bind ?_
  refine .field (by omega) ?_
  refine (reads_readField _ (by omega)).finish ?_
  rw [if_neg (request.check_iff.not.mpr (not_not.mpr encodable))]
  exact pure _

theorem accepts_fromBitbuf : Accepts fromBitbuf fun request field =>
    field = request.wire ∧ request.encodable = true := by
  refine (accepts_expectType _).bind ?_
  rintro _ _ rfl
  refine .flag fun acknowledged => ?_
  refine (accepts_readField _ _).bind ?_
  rintro linkNumber _ ⟨rfl, -⟩
  refine (accepts_readField _ _).bind ?_
  rintro report _ ⟨rfl, -⟩
  apply Accepts.ite
  · exact fun _ => throw
  · intro supported
    apply Accepts.pure
    refine ⟨?_, not_not.mp ((check_iff ⟨acknowledged, linkNumber, report⟩).not.mp supported)⟩
    rfl

/-- **Every reconnection round-trips.** -/
theorem roundTrips : RoundTrips toBitbuf fromBitbuf request := by
  by_cases encodable : request.encodable = true
  · exact roundTrips_of_reads (writes_toBitbuf encodable) (reads_fromBitbuf encodable)
  · exact roundTrips_of_refused request.requires_toBitbuf encodable

theorem reproduces {b : BitBuffer} (window : b.Window) : Reproduces toBitbuf fromBitbuf b := by
  refine reproduces_of_accepts window (accepts_fromBitbuf.mono ?_)
  rintro request _ ⟨rfl, encodable⟩
  exact writes_toBitbuf encodable

end AlReconnect

/-! ### AL-DISC -/

def alDisc : Nat := 15

namespace AlDisconnect

def fromBitbuf : BufM AlDisconnect := do
  expectType alDisc
  let acknowledged ← readFlag "advanced_link_service"
  let linkNumber ← readField 2 "advanced_link_number"
  let report ← readField 3 "disconnect_report"
  pure ⟨acknowledged, linkNumber, report⟩

variable (request : AlDisconnect)

def toBitbuf : BufM Unit := do
  writeBits alDisc 4
  writeBit request.acknowledged
  writeBits request.linkNumber 2
  writeBits request.report 3

def wire : List Bool :=
  bitsOf 4 alDisc ++ ([request.acknowledged] ++
    (bitsOf 2 request.linkNumber ++ bitsOf 3 request.report))

theorem writes_toBitbuf : Writes request.toBitbuf request.wire := by
  refine .bits ?_
  refine .flag ?_
  refine .bits ?_
  exact writes_writeBits _ _

theorem accepts_fromBitbuf : Accepts fromBitbuf fun request field =>
    field = request.wire ∧ request.linkNumber ≤ 3 ∧ request.report ≤ 7 := by
  refine (accepts_expectType _).bind ?_
  rintro _ _ rfl
  refine .flag fun acknowledged => ?_
  refine .field fun linkNumber number => ?_
  refine (accepts_readField _ _).bind ?_
  rintro report _ ⟨rfl, reported⟩
  apply Accepts.pure
  refine ⟨?_, le_of_lt_succ number, le_of_lt_succ reported⟩
  rfl

/-- **A disconnection round-trips if its numbers fit**: the encoder does not check them. -/
theorem roundTrips_iff : RoundTrips toBitbuf fromBitbuf request ↔
    request.linkNumber ≤ 3 ∧ request.report ≤ 7 := by
  constructor
  · intro trips
    have decoded := trips _ request.writes_toBitbuf _ (ofBits_window _) (unread_ofBits _)
    obtain ⟨_, _, -, -, -, fits⟩ := accepts_fromBitbuf _ _ _ (ofBits_window _) decoded
    exact fits
  · rintro ⟨number, report⟩
    refine roundTrips_of_reads request.writes_toBitbuf ?_
    refine (reads_expectType (by decide)).bind ?_
    refine (reads_readFlag _ _).bind ?_
    refine .field (by omega) ?_
    refine (reads_readField _ (by omega)).finish ?_
    exact pure _

theorem reproduces {b : BitBuffer} (window : b.Window) : Reproduces toBitbuf fromBitbuf b := by
  refine reproduces_of_accepts window (accepts_fromBitbuf.mono ?_)
  rintro request _ ⟨rfl, -⟩
  exact request.writes_toBitbuf

end AlDisconnect

/-! ### The blocks of AL-ACK and AL-RNR -/

def readBitmap : Nat → BufM (List Bool)
  | 0 => pure []
  | bitmap + 1 => do
    let received ← readFlag "acknowledgement_bitmap"
    let more ← readBitmap bitmap
    pure (received :: more)

def writeBitmap : List Bool → BufM Unit
  | [] => pure ()
  | received :: more => do
    writeBit received
    writeBitmap more

theorem reads_readBitmap (bitmap : List Bool) : Reads (readBitmap bitmap.length) bitmap bitmap := by
  induction bitmap with
  | nil => exact pure _
  | cons received more ih => exact (reads_readFlag _ received).bind (ih.finish (pure _))

theorem accepts_readBitmap (count : Nat) :
    Accepts (readBitmap count) fun bitmap field => field = bitmap ∧ bitmap.length = count := by
  induction count with
  | zero => exact pure ⟨rfl, rfl⟩
  | succ count ih =>
    refine .flag fun received => ?_
    refine ih.bind ?_
    rintro more _ ⟨rfl, length⟩
    apply Accepts.pure
    refine ⟨?_, ?_⟩
    · rw [append_nil]
      rfl
    · rw [length_cons, length]

theorem writes_writeBitmap (bitmap : List Bool) : Writes (writeBitmap bitmap) bitmap := by
  induction bitmap with
  | nil => exact .pure
  | cons received more ih => exact (writes_writeBit received).bind ih

namespace AlAckBlock

variable (acknowledgementLength : Nat)

def names : Bool :=
  1 ≤ acknowledgementLength && acknowledgementLength ≤ 62

def readFirstMissing : BufM (Option Nat) :=
  if names acknowledgementLength then do
    let segment ← readField 8 "first_missing_segment"
    pure (some segment)
  else pure none

def readAcknowledgementBitmap : BufM (List Bool) := do
  if 1 < acknowledgementLength ∧ acknowledgementLength < 63 then
    let buffer ← get
    let bitmap := acknowledgementLength - 1
    if buffer.getLenRemaining < bitmap then
      throw (.parse (.bufferEnded "acknowledgement_bitmap"))
    else readBitmap bitmap
  else pure []

def fromBitbuf : BufM AlAckBlock := do
  let nr ← readField 3 "nr"
  let acknowledgementLength ← readField 6 "acknowledgement_length"
  let firstMissingSegment ← readFirstMissing acknowledgementLength
  let acknowledgementBitmap ← readAcknowledgementBitmap acknowledgementLength
  pure ⟨nr, acknowledgementLength, firstMissingSegment, acknowledgementBitmap⟩

def writeNamed (firstMissingSegment : Option Nat) (acknowledgementBitmap : List Bool) : BufM Unit :=
  match firstMissingSegment with
  | none => pure ()
  | some segment => do
    writeBits segment 8
    writeBitmap acknowledgementBitmap

def toBitbuf (block : AlAckBlock) : BufM Unit :=
  let expectedBitmapLen :=
    if names block.acknowledgementLength then block.acknowledgementLength - 1 else 0
  if 7 < block.nr ∨ 63 < block.acknowledgementLength ∨
      names block.acknowledgementLength ≠ block.firstMissingSegment.isSome ∨
      block.acknowledgementBitmap.length ≠ expectedBitmapLen then
    throw (.parse (.inconsistency "al_ack" "invalid acknowledgement block"))
  else do
    writeBits block.nr 3
    writeBits block.acknowledgementLength 6
    writeNamed block.firstMissingSegment block.acknowledgementBitmap

def wire (block : AlAckBlock) : List Bool :=
  bitsOf 3 block.nr ++ (bitsOf 6 block.acknowledgementLength ++
    (block.firstMissingSegment.elim [] (bitsOf 8) ++ block.acknowledgementBitmap))

def IsByte (block : AlAckBlock) : Prop := ∀ segment ∈ block.firstMissingSegment, segment < 256

theorem encodable_iff (block : AlAckBlock) : block.encodable = true ↔
    block.nr ≤ 7 ∧ block.acknowledgementLength ≤ 63 ∧
      names block.acknowledgementLength = block.firstMissingSegment.isSome ∧
      block.acknowledgementBitmap.length =
        if names block.acknowledgementLength then block.acknowledgementLength - 1 else 0 := by
  have named : decide (1 ≤ block.acknowledgementLength ∧ block.acknowledgementLength ≤ 62) =
      names block.acknowledgementLength := by
    rw [names, Bool.decide_and]
  unfold encodable
  simp only [named, Bool.and_eq_true, decide_eq_true_eq, and_assoc]

theorem check_iff (block : AlAckBlock) : (7 < block.nr ∨ 63 < block.acknowledgementLength ∨
      names block.acknowledgementLength ≠ block.firstMissingSegment.isSome ∨
      block.acknowledgementBitmap.length ≠
        if names block.acknowledgementLength then block.acknowledgementLength - 1 else 0) ↔
      ¬ block.encodable = true := by
  rw [encodable_iff]
  simp only [not_and_or, not_le]

variable {block : AlAckBlock}

theorem bitmap_of_none (encodable : block.encodable = true) (none' : block.firstMissingSegment = none)
    : block.acknowledgementBitmap = [] := by
  obtain ⟨-, -, named, length⟩ := block.encodable_iff.mp encodable
  rw [none'] at named
  rw [named] at length
  exact eq_nil_of_length_eq_zero length

theorem writes_toBitbuf (encodable : block.encodable = true) : Writes block.toBitbuf block.wire := by
  unfold toBitbuf wire
  rw [if_neg (block.check_iff.not.mpr (not_not.mpr encodable))]
  refine .bits ?_
  refine .bits ?_
  cases first : block.firstMissingSegment with
  | none =>
    rw [bitmap_of_none encodable first]
    exact .pure
  | some segment => exact (writes_writeBits segment 8).bind (writes_writeBitmap _)

theorem requires_toBitbuf (block : AlAckBlock) :
    Requires block.toBitbuf (block.encodable = true) := by
  intro b done later ran
  unfold toBitbuf at ran
  by_contra refused
  rw [if_pos (block.check_iff.mpr refused)] at ran
  cases ran

section

variable (encodable : block.encodable = true)

include encodable

theorem reads_readFirstMissing (byte : block.IsByte) :
    Reads (readFirstMissing block.acknowledgementLength)
      (block.firstMissingSegment.elim [] (bitsOf 8)) block.firstMissingSegment := by
  obtain ⟨-, -, named, -⟩ := block.encodable_iff.mp encodable
  unfold readFirstMissing
  rw [named]
  cases first : block.firstMissingSegment with
  | none => exact pure _
  | some segment =>
    exact (reads_readField _ (byte segment first)).finish (pure _)

theorem reads_readAcknowledgementBitmap :
    Reads (readAcknowledgementBitmap block.acknowledgementLength) block.acknowledgementBitmap
      block.acknowledgementBitmap := by
  obtain ⟨-, -, -, length⟩ := block.encodable_iff.mp encodable
  unfold readAcknowledgementBitmap
  by_cases some' : 1 < block.acknowledgementLength ∧ block.acknowledgementLength < 63
  · have named : names block.acknowledgementLength = true := by
      unfold names
      simp only [Bool.and_eq_true, decide_eq_true_eq]
      omega
    rw [if_pos some']
    rw [named, if_pos rfl] at length
    intro b rest begins
    have enough := length_le_of_unread begins
    have whole := reads_readBitmap block.acknowledgementBitmap b rest begins
    rw [length] at enough whole ⊢
    rw [← whole]
    show (if b.getLenRemaining < block.acknowledgementLength - 1 then _ else _ : BufM _) b = _
    rw [if_neg (not_lt.mpr enough)]
  · rw [if_neg some']
    have empty : block.acknowledgementBitmap = [] := by
      apply eq_nil_of_length_eq_zero
      rw [length]
      unfold names
      split
      next named =>
        simp only [Bool.and_eq_true, decide_eq_true_eq] at named
        omega
      · rfl
    rw [empty]
    exact pure _

/-- **A block that is encodable is read back.** -/
theorem reads_fromBitbuf (byte : block.IsByte) : Reads fromBitbuf block.wire block := by
  obtain ⟨number, length, -, -⟩ := block.encodable_iff.mp encodable
  refine .field (by omega) ?_
  refine .field (by omega) ?_
  refine (reads_readFirstMissing encodable byte).bind ?_
  refine (reads_readAcknowledgementBitmap encodable).finish ?_
  exact pure _

end

theorem accepts_readFirstMissing :
    Accepts (readFirstMissing acknowledgementLength) fun first field =>
      field = first.elim [] (bitsOf 8) ∧ names acknowledgementLength = first.isSome ∧
        ∀ segment ∈ first, segment < 256 := by
  apply Accepts.ite
  · intro named
    refine (accepts_readField _ _).bind ?_
    rintro segment _ ⟨rfl, fits⟩
    apply Accepts.pure
    refine ⟨append_nil _, named, ?_⟩
    rintro _ ⟨⟩
    exact fits
  · intro unnamed
    apply Accepts.pure
    refine ⟨rfl, Bool.eq_false_iff.mpr unnamed, ?_⟩
    intro segment found
    cases found

theorem accepts_readAcknowledgementBitmap :
    Accepts (readAcknowledgementBitmap acknowledgementLength) fun bitmap field =>
      field = bitmap ∧ bitmap.length =
        if names acknowledgementLength then acknowledgementLength - 1 else 0 := by
  apply Accepts.ite
  · intro some'
    have named : names acknowledgementLength = true := by
      unfold names
      simp only [Bool.and_eq_true, decide_eq_true_eq]
      omega
    rw [named]
    intro b bitmap later window ran
    change (if b.getLenRemaining < acknowledgementLength - 1 then _ else _ : BufM _) b = _ at ran
    split at ran
    · cases ran
    · exact accepts_readBitmap _ b bitmap later window ran
  · intro short
    apply Accepts.pure
    refine ⟨rfl, ?_⟩
    unfold names
    split
    next named =>
      simp only [Bool.and_eq_true, decide_eq_true_eq] at named
      rw [length_nil]
      omega
    · rfl

/-- **What the decoder accepts is encodable**, and stood there as it is encoded. -/
theorem accepts_fromBitbuf : Accepts fromBitbuf fun block field =>
    field = block.wire ∧ block.encodable = true ∧ block.IsByte := by
  refine .field fun nr number => ?_
  refine (accepts_readField _ _).bind ?_
  rintro acknowledgementLength _ ⟨rfl, fits⟩
  refine (accepts_readFirstMissing _).bind ?_
  rintro firstMissingSegment _ ⟨rfl, named, byte⟩
  refine (accepts_readAcknowledgementBitmap _).bind ?_
  rintro acknowledgementBitmap _ ⟨rfl, length⟩
  apply Accepts.pure
  refine ⟨?_, (encodable_iff _).mpr ⟨le_of_lt_succ number, le_of_lt_succ fits, named, length⟩, byte⟩
  rw [append_nil]
  rfl

end AlAckBlock

/-! ### AL-ACK and AL-RNR -/

def alAckAlRnr : Nat := 11

namespace AlAck

/-- The next block, if the buffer goes on. -/
def nextBlock : BufM (Option AlAckBlock) := do
  let buffer ← get
  if buffer.getLenRemaining = 0 then pure none
  else if buffer.getLenRemaining < 9 then throw (.parse (.bufferEnded "acknowledgement_block"))
  else do
    let block ← AlAckBlock.fromBitbuf
    pure (some block)

/-- Take blocks up to the end of the buffer; one more than there is room for is an error. -/
def readBlocks : (room : Nat) → BufM (List AlAckBlock)
  | 0 => do
    match ← nextBlock with
    | none => pure []
    | some _ => throw (.parse (.invalidValue "acknowledgement_blocks" 4))
  | room + 1 => do
    match ← nextBlock with
    | none => pure []
    | some block => do
      let more ← readBlocks room
      pure (block :: more)

def fromBitbuf : BufM AlAck := do
  expectType alAckAlRnr
  let receiverReady ← readFlag "flow_control"
  let blocks ← readBlocks 3
  if blocks = [] then throw (.parse (.bufferEnded "first_acknowledgement_block"))
  else pure ⟨receiverReady, blocks⟩

def writeBlocks : List AlAckBlock → BufM Unit
  | [] => pure ()
  | block :: more => do
    block.toBitbuf
    writeBlocks more

def toBitbuf (ack : AlAck) : BufM Unit :=
  if ack.blocks = [] ∨ 3 < ack.blocks.length then
    throw (.parse (.inconsistency "al_ack"
      "original advanced link requires one to three acknowledgement blocks"))
  else do
    writeBits alAckAlRnr 4
    writeBit ack.receiverReady
    writeBlocks ack.blocks

def wire (ack : AlAck) : List Bool :=
  bitsOf 4 alAckAlRnr ++ ([ack.receiverReady] ++ ack.blocks.flatMap AlAckBlock.wire)

theorem encodable_iff (ack : AlAck) : ack.encodable = true ↔
    ack.blocks ≠ [] ∧ ack.blocks.length ≤ 3 ∧ ∀ block ∈ ack.blocks, block.encodable = true := by
  unfold encodable
  simp only [Bool.and_eq_true, decide_eq_true_eq, List.all_eq_true, and_assoc]
  rw [← List.length_pos_iff]
  exact Iff.rfl

variable {blocks : List AlAckBlock}

theorem writes_writeBlocks (encodable : ∀ block ∈ blocks, block.encodable = true) :
    Writes (writeBlocks blocks) (blocks.flatMap AlAckBlock.wire) := by
  induction blocks with
  | nil => exact .pure
  | cons block more ih =>
    obtain ⟨first, rest⟩ := forall_mem_cons.mp encodable
    exact (AlAckBlock.writes_toBitbuf first).bind (ih rest)

theorem requires_writeBlocks (blocks : List AlAckBlock) :
    Requires (writeBlocks blocks) (∀ block ∈ blocks, block.encodable = true) := by
  induction blocks with
  | nil =>
    intro b done later ran block member
    cases member
  | cons block more ih =>
    intro b done later ran
    have both := Requires.both (.first block.requires_toBitbuf) (.later fun _ => ih) b done later ran
    exact forall_mem_cons.mpr both

theorem writes_toBitbuf {ack : AlAck} (encodable : ack.encodable = true) :
    Writes ack.toBitbuf ack.wire := by
  obtain ⟨some', few, each⟩ := ack.encodable_iff.mp encodable
  unfold toBitbuf wire
  rw [if_neg (not_or.mpr ⟨some', not_lt.mpr few⟩)]
  refine .bits ?_
  refine .flag ?_
  exact writes_writeBlocks each

theorem requires_toBitbuf (ack : AlAck) : Requires ack.toBitbuf (ack.encodable = true) := by
  intro b done later ran
  unfold toBitbuf at ran
  split at ran
  · cases ran
  next passed =>
    obtain ⟨some', few⟩ := not_or.mp passed
    have each := Requires.later (fun _ => .later fun _ => requires_writeBlocks ack.blocks)
      b done later ran
    exact ack.encodable_iff.mpr ⟨some', not_lt.mp few, each⟩

theorem length_wire_block (block : AlAckBlock) : 9 ≤ block.wire.length := by
  unfold AlAckBlock.wire
  simp only [length_append, length_bitsOf]
  omega

variable {b : BitBuffer}

theorem nextBlock_end (window : b.Window) (ended : b.unread = []) : nextBlock b = .ok (none, b) := by
  have none' : b.getLenRemaining = 0 := by
    rw [← length_unread window, ended, length_nil]
  show (if b.getLenRemaining = 0 then _ else _ : BufM _) b = _
  rw [if_pos none']
  rfl

theorem nextBlock_block {block : AlAckBlock} {rest : List Bool} (encodable : block.encodable = true)
    (byte : block.IsByte) (begins : b.unread = block.wire ++ rest) :
    nextBlock b = .ok (some block, b.skip block.wire.length) := by
  have enough := length_le_of_unread begins
  have long := length_wire_block block
  show (if b.getLenRemaining = 0 then _ else if b.getLenRemaining < 9 then _ else _ : BufM _) b = _
  rw [if_neg (by omega), if_neg (by omega),
    bind_ok (AlAckBlock.reads_fromBitbuf encodable byte b rest begins)]
  rfl

/-- **Blocks that go on to the end of the buffer are read back.** -/
theorem readBlocks_eq
    (encodable : ∀ block ∈ blocks, block.encodable = true) (byte : ∀ block ∈ blocks, block.IsByte)
    {room : Nat} (few : blocks.length ≤ room) (window : b.Window)
    (holds : b.unread = blocks.flatMap AlAckBlock.wire) :
    readBlocks room b = .ok (blocks, b.skip (blocks.flatMap AlAckBlock.wire).length) := by
  induction blocks generalizing room b with
  | nil =>
    have ended := nextBlock_end window holds
    cases room with
    | zero =>
      unfold readBlocks
      rw [bind_ok ended]
      rfl
    | succ room =>
      unfold readBlocks
      rw [bind_ok ended]
      rfl
  | cons block more ih =>
    obtain ⟨first, rest⟩ := forall_mem_cons.mp encodable
    obtain ⟨firstByte, restByte⟩ := forall_mem_cons.mp byte
    rw [flatMap_cons] at holds ⊢
    cases room with
    | zero => exact absurd few (not_succ_le_zero _)
    | succ room =>
      have enough := length_le_of_unread holds
      unfold readBlocks
      rw [bind_ok (nextBlock_block first firstByte holds)]
      dsimp only
      rw [bind_ok (ih rest restByte (le_of_succ_le_succ few)
        (skip_window window enough) (unread_behind holds)),
        skip_skip, length_append]
      rfl

/-- **Every acknowledgement whose segment numbers are bytes round-trips.** -/
theorem roundTrips {ack : AlAck} (byte : ∀ block ∈ ack.blocks, block.IsByte) :
    RoundTrips toBitbuf fromBitbuf ack := by
  by_cases encodable : ack.encodable = true
  · obtain ⟨some', few, each⟩ := ack.encodable_iff.mp encodable
    intro field written b window holds
    rw [← (writes_toBitbuf encodable).unique written] at holds ⊢
    unfold wire at holds ⊢
    have flagged := unread_behind holds
    have typeWindow := skip_window window (length_le_of_unread holds)
    have flagWindow := skip_window typeWindow (length_le_of_unread flagged)
    unfold fromBitbuf
    rw [bind_ok (reads_expectType (by decide) b _ holds),
      bind_ok (reads_readFlag _ ack.receiverReady _ _ flagged),
      bind_ok (readBlocks_eq each byte few flagWindow (unread_behind flagged)),
      if_neg some']
    simp only [skip_skip, length_append, ← add_assoc]
    rfl
  · exact roundTrips_of_refused ack.requires_toBitbuf encodable

theorem accepts_nextBlock : Accepts nextBlock fun block field =>
    field = block.elim [] AlAckBlock.wire ∧ ∀ found ∈ block, found.encodable = true := by
  have taken : Accepts (do
      let block ← AlAckBlock.fromBitbuf
      pure (some block)) fun block field =>
      field = block.elim [] AlAckBlock.wire ∧ ∀ found ∈ block, found.encodable = true := by
    refine AlAckBlock.accepts_fromBitbuf.bind ?_
    rintro found _ ⟨rfl, encodable, -⟩
    apply Accepts.pure
    refine ⟨append_nil _, ?_⟩
    rintro _ ⟨⟩
    exact encodable
  intro b block later window ran
  change (if b.getLenRemaining = 0 then _ else if b.getLenRemaining < 9 then _ else _ : BufM _) b = _
    at ran
  split at ran
  · cases ran
    refine ⟨[], b.unread, rfl, rfl, rfl, ?_⟩
    intro found member
    cases member
  split at ran
  · cases ran
  · exact taken b block later window ran

theorem accepts_readBlocks (room : Nat) : Accepts (readBlocks room) fun blocks field =>
    field = blocks.flatMap AlAckBlock.wire ∧ blocks.length ≤ room ∧
      ∀ block ∈ blocks, block.encodable = true := by
  induction room with
  | zero =>
    refine accepts_nextBlock.bind ?_
    rintro (_ | block) _ ⟨rfl, encodable⟩
    · exact pure ⟨rfl, le_rfl, by simp⟩
    · exact throw
  | succ room ih =>
    refine accepts_nextBlock.bind ?_
    rintro (_ | block) _ ⟨rfl, encodable⟩
    · exact pure ⟨rfl, zero_le _, by simp⟩
    · refine ih.bind ?_
      rintro more _ ⟨rfl, few, each⟩
      apply Accepts.pure
      refine ⟨?_, succ_le_succ few, forall_mem_cons.mpr ⟨encodable block rfl, each⟩⟩
      rw [append_nil]
      rfl

theorem accepts_fromBitbuf :
    Accepts fromBitbuf fun ack field => field = ack.wire ∧ ack.encodable = true := by
  refine (accepts_expectType _).bind ?_
  rintro _ _ rfl
  refine (accepts_readFlag _).bind ?_
  rintro receiverReady _ rfl
  refine (accepts_readBlocks 3).bind ?_
  rintro blocks _ ⟨rfl, few, each⟩
  apply Accepts.ite
  · exact fun _ => throw
  · intro some'
    apply Accepts.pure
    refine ⟨?_, (encodable_iff _).mpr ⟨some', few, each⟩⟩
    rw [append_nil]
    rfl

theorem reproduces (window : b.Window) : Reproduces toBitbuf fromBitbuf b := by
  refine reproduces_of_accepts window (accepts_fromBitbuf.mono ?_)
  rintro ack _ ⟨rfl, encodable⟩
  exact writes_toBitbuf encodable

end AlAck

/-! ### All of them -/

/-- **For which values, and for which bits, the codecs of the advanced link agree.** A setup that is
asymmetric without being wide has downlink slots for the encoder and none for the decoder; the
encoder of AL-DISC does not check its numbers. All else is read back, and written back. -/
theorem codecs_iff (setup : AlSetup) {header : AlDataHeader} (position : header.segment < 256)
    {ack : AlAck} (byte : ∀ block ∈ ack.blocks, block.IsByte) (reconnect : AlReconnect)
    (disconnect : AlDisconnect) {b : BitBuffer} (window : b.Window) :
    (RoundTrips AlSetup.toBitbuf AlSetup.fromBitbuf setup ↔
      (setup.encodable = true → setup.asymmetric = true → setup.connectionWidth = true)) ∧
    RoundTrips AlDataHeader.toBitbuf AlDataHeader.fromBitbuf header ∧
    RoundTrips AlAck.toBitbuf AlAck.fromBitbuf ack ∧
    RoundTrips AlReconnect.toBitbuf AlReconnect.fromBitbuf reconnect ∧
    (RoundTrips AlDisconnect.toBitbuf AlDisconnect.fromBitbuf disconnect ↔
      disconnect.linkNumber ≤ 3 ∧ disconnect.report ≤ 7) ∧
    (∀ decoded later, AlSetup.fromBitbuf b = .ok (decoded, later) →
      (Reproduces AlSetup.toBitbuf AlSetup.fromBitbuf b ↔
        ¬ (b.unread[10]? = some false ∧ b.unread[11]? = some true))) ∧
    Reproduces AlDataHeader.toBitbuf AlDataHeader.fromBitbuf b ∧
    Reproduces AlAck.toBitbuf AlAck.fromBitbuf b ∧
    Reproduces AlReconnect.toBitbuf AlReconnect.fromBitbuf b ∧
    Reproduces AlDisconnect.toBitbuf AlDisconnect.fromBitbuf b :=
  ⟨setup.roundTrips_iff, AlDataHeader.roundTrips position, AlAck.roundTrips byte,
    reconnect.roundTrips, disconnect.roundTrips_iff, fun _ _ ran => AlSetup.reproduces_iff window ran,
    AlDataHeader.reproduces window, AlAck.reproduces window, AlReconnect.reproduces window,
    AlDisconnect.reproduces window⟩

/-- A setup that asks for two downlink slots without asking for a width. -/
def narrowSetup : AlSetup := ⟨true, 0, 6, false, true, none, some 2, 4, 2, 3, 5, 0⟩

/-- A received setup whose flags ask for asymmetry without a width. -/
def narrowBits : BitBuffer :=
  .ofBits [true, false, false, false, true, false, false, true, true, false, false, true,
    true, false, false, true, false, false, true, true, false, true, false, true, false, false, false]

/-- A setup of three slots either way round-trips, and so does what goes with it. -/
theorem wide_setup_roundTrips : RoundTrips AlSetup.toBitbuf AlSetup.fromBitbuf
      ⟨true, 0, 6, true, true, some 3, some 3, 4, 2, 3, 5, 0⟩ ∧
    RoundTrips AlDataHeader.toBitbuf AlDataHeader.fromBitbuf ⟨true, false, 1, 255⟩ ∧
    RoundTrips AlAck.toBitbuf AlAck.fromBitbuf ⟨true, [⟨1, 3, some 5, [true, false]⟩]⟩ ∧
    Reproduces AlDisconnect.toBitbuf AlDisconnect.fromBitbuf narrowBits := by
  have all := codecs_iff ⟨true, 0, 6, true, true, some 3, some 3, 4, 2, 3, 5, 0⟩
    (show (⟨true, false, 1, 255⟩ : AlDataHeader).segment < 256 by decide)
    (show ∀ block ∈ (⟨true, [⟨1, 3, some 5, [true, false]⟩]⟩ : AlAck).blocks, block.IsByte by
      intro block member segment found
      rw [mem_singleton.mp member] at found
      cases found
      decide)
    ⟨true, 0, 2⟩ ⟨true, 0, 2⟩ (BitBuffer.ofBits_window narrowBits.bits)
  exact ⟨all.1.mpr fun _ _ => rfl, all.2.1, all.2.2.1, all.2.2.2.2.2.2.2.2.2⟩

/-- **The codec of AL-SETUP is not symmetric**: a setup is encoded that is not read back, and one is
decoded that has no encoding; nor is a disconnection read back whose link number has no field. -/
theorem narrow_setup_lost : ¬ RoundTrips AlSetup.toBitbuf AlSetup.fromBitbuf narrowSetup ∧
    ¬ Reproduces AlSetup.toBitbuf AlSetup.fromBitbuf narrowBits ∧
    ¬ RoundTrips AlDisconnect.toBitbuf AlDisconnect.fromBitbuf ⟨true, 4, 0⟩ := by
  refine ⟨?_, ?_, ?_⟩
  · rw [AlSetup.roundTrips_iff]
    decide
  · have decoded : AlSetup.fromBitbuf narrowBits =
        .ok (⟨true, 0, 6, false, true, none, none, 4, 2, 3, 5, 0⟩, narrowBits.skip 27) := by
      decide +kernel
    exact (AlSetup.reproduces_iff (BitBuffer.ofBits_window _) decoded).not.mpr (by decide)
  · rw [AlDisconnect.roundTrips_iff]
    decide

end Bluestation
