/-
**The MAC PDUs of the uplink.**

MAC-ACCESS and MAC-DATA carry a whole SDU or its first fragment, MAC-FRAG and the two MAC-ENDs the
fragments after it. The headers are read here; `wire` is what a terminal puts on the air.

* `MacAccess.reads_fromBitbuf`, `MacData.reads_fromBitbuf` — a header is read back.
* `MacEndUl.reads_fromBitbuf`, `MacEndUl.fromBitbuf_capReq` — a MAC-END is read back if it indicates
  its length, and refused if it asks for capacity.
* `MacEndHu.reads_fromBitbuf`, `MacFragUl.reads_fromBitbuf` — the other two.
-/

import Bluestation.Core.Primitives
import Bluestation.Pdus.ReservationRequirement

namespace Bluestation

open Bits Bool Reads ReservationRequirement

/-! ### What a MAC-ACCESS and a MAC-DATA have in common -/

def uplinkAddrType (addr : Option TetraAddress) : Nat :=
  match addr with
  | none => 1
  | some address =>
    match address.ssiType with
    | .ussi => 2
    | .smi => 3
    | _ => 0

/-- Behind address type 0 stands an identity, or its encrypted form. -/
def readUplinkAddr (encrypted : Bool) (addrType : Nat) :
    BufM (Option TetraAddress × Option Nat) :=
  match addrType with
  | 0 => do
    let ssi ← readField 24 "ssi"
    pure (some ⟨ssi, if encrypted then .esi else .issi⟩, none)
  | 1 => do
    let label ← readField 10 "event_label"
    pure (none, some label)
  | 2 => do
    let ssi ← readField 24 "ssi"
    pure (some ⟨ssi, .ussi⟩, none)
  | 3 => do
    let ssi ← readField 24 "ssi"
    pure (some ⟨ssi, .smi⟩, none)
  | _ => throw .panic

def wireUplinkAddr (addr : Option TetraAddress) (eventLabel : Option Nat) : List Bool :=
  match addr, eventLabel with
  | some address, _ => bitsOf 24 address.ssi
  | none, some label => bitsOf 10 label
  | none, none => []

/-- An address that some address type carries, or else an event label. -/
inductive UplinkAddressed (encrypted : Bool) : Option TetraAddress → Option Nat → Prop where
  | identity {ssi : Nat} (fits : ssi < 2 ^ 24) :
      UplinkAddressed encrypted (some ⟨ssi, if encrypted then .esi else .issi⟩) none
  | ussi {ssi : Nat} (fits : ssi < 2 ^ 24) : UplinkAddressed encrypted (some ⟨ssi, .ussi⟩) none
  | smi {ssi : Nat} (fits : ssi < 2 ^ 24) : UplinkAddressed encrypted (some ⟨ssi, .smi⟩) none
  | label {label : Nat} (fits : label < 2 ^ 10) : UplinkAddressed encrypted none (some label)

theorem uplinkAddrType_lt (addr : Option TetraAddress) : uplinkAddrType addr < 2 ^ 2 := by
  unfold uplinkAddrType
  split
  · decide
  · split <;> decide

/-- The address is read back. -/
theorem UplinkAddressed.reads {encrypted : Bool} {addr : Option TetraAddress}
    {eventLabel : Option Nat} (addressed : UplinkAddressed encrypted addr eventLabel) :
    Reads (readUplinkAddr encrypted (uplinkAddrType addr)) (wireUplinkAddr addr eventLabel)
      (addr, eventLabel) := by
  cases addressed with
  | identity fits =>
    cases encrypted
    · exact (reads_readField _ fits).finish (pure _)
    · exact (reads_readField _ fits).finish (pure _)
  | ussi fits => exact (reads_readField _ fits).finish (pure _)
  | smi fits => exact (reads_readField _ fits).finish (pure _)
  | label fits => exact (reads_readField _ fits).finish (pure _)

/-! ### MAC-DATA -/

structure MacData where
  fillBits : Bool
  encrypted : Bool
  addr : Option TetraAddress
  eventLabel : Option Nat
  lengthInd : Option Nat
  fragFlag : Option Bool
  reservationReq : Option ReservationRequirement

namespace MacData

/-- A length indication, or a fragmentation flag with a capacity request and a reserved bit. -/
def readLength : BufM (Option Nat × Option Bool × Option ReservationRequirement) := do
  let lengthIndOrCapReq ← readField 1 "length_ind_or_cap_req"
  if lengthIndOrCapReq = 0 then
    let lengthInd ← readField 6 "length_ind"
    pure (some lengthInd, none, none)
  else
    let fragFlag ← readField 1 "frag_flag"
    let val ← readField 4 "reservation_requirement"
    let some resReq := ReservationRequirement.tryFrom val | throw .panic
    -- the reserved bit is skipped if it is there
    modify fun block => if 1 ≤ block.getLenRemaining then block.skip 1 else block
    pure (none, some (fragFlag != 0), some resReq)

def fromBitbuf : BufM MacData := do
  let macPduType ← readField 2 "mac_pdu_type"
  assertThat (macPduType = 0)
  let fillBits ← readField 1 "fill_bits"
  let encrypted ← readField 1 "encrypted"
  let addrType ← readField 2 "addr_type"
  let (addr, eventLabel) ← readUplinkAddr (encrypted != 0) addrType
  let (lengthInd, fragFlag, reservationReq) ← readLength
  pure {
    fillBits := fillBits != 0, encrypted := encrypted != 0
    addr, eventLabel, lengthInd, fragFlag, reservationReq }

/-- The bits of the length indication or of the capacity request. -/
def wireLength (lengthInd : Option Nat) (fragFlag : Option Bool)
    (reservationReq : Option ReservationRequirement) : List Bool :=
  match lengthInd, fragFlag, reservationReq with
  | some length, _, _ => bitsOf 1 0 ++ bitsOf 6 length
  | none, some frag, some resReq =>
    bitsOf 1 1 ++ (bitsOf 1 frag.toNat ++ (bitsOf 4 resReq.intoRaw ++ [false]))
  | none, _, _ => []

/-- The bits of the header on the air. -/
def wire (pdu : MacData) : List Bool :=
  bitsOf 2 0 ++ (bitsOf 1 pdu.fillBits.toNat ++ (bitsOf 1 pdu.encrypted.toNat ++
    (bitsOf 2 (uplinkAddrType pdu.addr) ++ (wireUplinkAddr pdu.addr pdu.eventLabel ++
      wireLength pdu.lengthInd pdu.fragFlag pdu.reservationReq))))

/-- Either a length indication or a capacity request. -/
inductive Lengthened : Option Nat → Option Bool → Option ReservationRequirement → Prop where
  | length {length : Nat} (fits : length < 2 ^ 6) : Lengthened (some length) none none
  | capReq (frag : Bool) (resReq : ReservationRequirement) :
      Lengthened none (some frag) (some resReq)

/-- A header that has a form on the air. -/
structure Encodable (pdu : MacData) : Prop where
  addressed : UplinkAddressed pdu.encrypted pdu.addr pdu.eventLabel
  lengthened : Lengthened pdu.lengthInd pdu.fragFlag pdu.reservationReq

end MacData

theorem ReservationRequirement.intoRaw_lt (resReq : ReservationRequirement) :
    resReq.intoRaw < 2 ^ 4 := by
  cases resReq <;> decide

namespace MacData

theorem reads_skip (bit : Bool) :
    Reads (modify (fun block => if 1 ≤ block.getLenRemaining then block.skip 1 else block) :
      BufM Unit) [bit] () := by
  intro block rest same
  have bound := block.length_unread_le
  rw [same, List.length_append, List.length_singleton] at bound
  have enough : 1 ≤ block.getLenRemaining := by
    unfold BitBuffer.getLenRemaining
    omega
  show Except.ok ((), if 1 ≤ block.getLenRemaining then block.skip 1 else block) = _
  rw [if_pos enough]
  rfl

theorem Lengthened.reads {lengthInd : Option Nat} {fragFlag : Option Bool}
    {reservationReq : Option ReservationRequirement}
    (lengthened : Lengthened lengthInd fragFlag reservationReq) :
    Reads readLength (wireLength lengthInd fragFlag reservationReq)
      (lengthInd, fragFlag, reservationReq) := by
  cases lengthened with
  | length fits =>
    refine .field (by decide) ?_
    exact (reads_readField _ fits).finish (pure _)
  | capReq frag resReq =>
    refine .field (by decide) ?_
    refine .field (toNat_lt frag) ?_
    refine .field resReq.intoRaw_lt ?_
    rw [tryFrom_intoRaw, toNat_ne_zero]
    exact (reads_skip false).finish (pure _)

/-- **A MAC-DATA header is read back.** -/
theorem reads_fromBitbuf {pdu : MacData} (encodable : pdu.Encodable) :
    Reads fromBitbuf pdu.wire pdu := by
  refine .field (by decide) ?_
  refine .asserted rfl ?_
  refine .field (toNat_lt _) ?_
  refine .field (toNat_lt _) ?_
  refine .field (uplinkAddrType_lt _) ?_
  rw [toNat_ne_zero, toNat_ne_zero]
  refine bind encodable.addressed.reads ?_
  exact encodable.lengthened.reads.finish (pure _)

end MacData

/-! ### MAC-ACCESS -/

structure MacAccess where
  fillBits : Bool
  encrypted : Bool
  addr : Option TetraAddress
  eventLabel : Option Nat
  lengthInd : Option Nat
  fragFlag : Option Bool
  reservationReq : Option ReservationRequirement

namespace MacAccess

/-- Nothing, a length indication, or a fragmentation flag with a capacity request. -/
def readLength : BufM (Option Nat × Option Bool × Option ReservationRequirement) := do
  let optionalFieldFlag ← readField 1 "optional_field_flag"
  if optionalFieldFlag = 0 then pure (none, none, none)
  else
    let lengthIndOrCapReq ← readField 1 "length_ind_or_cap_req"
    if lengthIndOrCapReq = 0 then
      let lengthInd ← readField 5 "length_ind"
      pure (some lengthInd, none, none)
    else
      let fragFlag ← readField 1 "frag_flag"
      let val ← readField 4 "reservation_req"
      let some resReq := ReservationRequirement.tryFrom val | throw .panic
      pure (none, some (fragFlag != 0), some resReq)

def fromBitbuf : BufM MacAccess := do
  let macPduType ← readField 1 "mac_pdu_type"
  assertThat (macPduType = 0)
  let fillBits ← readField 1 "fill_bits"
  let encrypted ← readField 1 "encrypted"
  let addrType ← readField 2 "addr_type"
  let (addr, eventLabel) ← readUplinkAddr (encrypted != 0) addrType
  let (lengthInd, fragFlag, reservationReq) ← readLength
  pure {
    fillBits := fillBits != 0, encrypted := encrypted != 0
    addr, eventLabel, lengthInd, fragFlag, reservationReq }

def isNullPdu (pdu : MacAccess) : Bool := pdu.lengthInd.getD 1 = 0

def isFragStart (pdu : MacAccess) : Bool := pdu.fragFlag.getD false

/-- The bits of the optional fields. -/
def wireLength (lengthInd : Option Nat) (fragFlag : Option Bool)
    (reservationReq : Option ReservationRequirement) : List Bool :=
  match lengthInd, fragFlag, reservationReq with
  | some length, _, _ => bitsOf 1 1 ++ (bitsOf 1 0 ++ bitsOf 5 length)
  | none, some frag, some resReq =>
    bitsOf 1 1 ++ (bitsOf 1 1 ++ (bitsOf 1 frag.toNat ++ bitsOf 4 resReq.intoRaw))
  | none, _, _ => bitsOf 1 0

/-- The bits of the header on the air. -/
def wire (pdu : MacAccess) : List Bool :=
  bitsOf 1 0 ++ (bitsOf 1 pdu.fillBits.toNat ++ (bitsOf 1 pdu.encrypted.toNat ++
    (bitsOf 2 (uplinkAddrType pdu.addr) ++ (wireUplinkAddr pdu.addr pdu.eventLabel ++
      wireLength pdu.lengthInd pdu.fragFlag pdu.reservationReq))))

/-- A length indication, a capacity request, or neither. -/
inductive Lengthened : Option Nat → Option Bool → Option ReservationRequirement → Prop where
  | neither : Lengthened none none none
  | length {length : Nat} (fits : length < 2 ^ 5) : Lengthened (some length) none none
  | capReq (frag : Bool) (resReq : ReservationRequirement) :
      Lengthened none (some frag) (some resReq)

/-- A header that has a form on the air. -/
structure Encodable (pdu : MacAccess) : Prop where
  addressed : UplinkAddressed pdu.encrypted pdu.addr pdu.eventLabel
  lengthened : Lengthened pdu.lengthInd pdu.fragFlag pdu.reservationReq

theorem Lengthened.reads {lengthInd : Option Nat} {fragFlag : Option Bool}
    {reservationReq : Option ReservationRequirement}
    (lengthened : Lengthened lengthInd fragFlag reservationReq) :
    Reads readLength (wireLength lengthInd fragFlag reservationReq)
      (lengthInd, fragFlag, reservationReq) := by
  cases lengthened with
  | neither => exact (reads_readField _ (by decide)).finish (pure _)
  | length fits =>
    refine .field (by decide) ?_
    refine .field (by decide) ?_
    exact (reads_readField _ fits).finish (pure _)
  | capReq frag resReq =>
    refine .field (by decide) ?_
    refine .field (by decide) ?_
    refine .field (toNat_lt frag) ?_
    refine finish (reads_readField _ resReq.intoRaw_lt) ?_
    rw [tryFrom_intoRaw, toNat_ne_zero]
    exact pure _

/-- **A MAC-ACCESS header is read back.** -/
theorem reads_fromBitbuf {pdu : MacAccess} (encodable : pdu.Encodable) :
    Reads fromBitbuf pdu.wire pdu := by
  refine .field (by decide) ?_
  refine .asserted rfl ?_
  refine .field (toNat_lt _) ?_
  refine .field (toNat_lt _) ?_
  refine .field (uplinkAddrType_lt _) ?_
  rw [toNat_ne_zero, toNat_ne_zero]
  refine bind encodable.addressed.reads ?_
  exact encodable.lengthened.reads.finish (pure _)

end MacAccess

/-! ### MAC-FRAG -/

structure MacFragUl where
  fillBits : Bool

namespace MacFragUl

def fromBitbuf : BufM MacFragUl := do
  let macPduType ← readField 2 "mac_pdu_type"
  assertThat (macPduType = 1)
  let pduSubtype ← readField 1 "pdu_subtype"
  assertThat (pduSubtype = 0)
  let fillBits ← readField 1 "fill_bits"
  pure { fillBits := fillBits != 0 }

def wire (pdu : MacFragUl) : List Bool :=
  bitsOf 2 1 ++ (bitsOf 1 0 ++ bitsOf 1 pdu.fillBits.toNat)

theorem reads_fromBitbuf (pdu : MacFragUl) : Reads fromBitbuf pdu.wire pdu := by
  refine .field (by decide) ?_
  refine .asserted rfl ?_
  refine .field (by decide) ?_
  refine .asserted rfl ?_
  refine finish (reads_readField _ (toNat_lt _)) ?_
  rw [toNat_ne_zero]
  exact pure _

end MacFragUl

/-! ### MAC-END -/

structure MacEndUl where
  fillBits : Bool
  lengthInd : Option Nat
  reservationReq : Option ReservationRequirement

namespace MacEndUl

/-- Whether a value of the six-bit field is a length indication. The bound that is to separate the
capacity requests from the reserved values is written in hexadecimal. -/
def lengthOrCapReq (lengthIndCapReq : Nat) :
    Except Fault (Option Nat × Option ReservationRequirement) :=
  if lengthIndCapReq = 0 then .error (.parse (.invalidValue "length_ind_cap_req" lengthIndCapReq))
  else if lengthIndCapReq < 0b101111 then .ok (some lengthIndCapReq, none)
  else if lengthIndCapReq < 0x110000 then
    .error (.parse (.invalidValue "length_ind_cap_req" lengthIndCapReq))
  else
    let val := lengthIndCapReq % 16
    match ReservationRequirement.tryFrom val with
    | some resReq => .ok (none, some resReq)
    | none => .error (.parse (.invalidValue "reservation_req" val))

def fromBitbuf : BufM MacEndUl := do
  let macPduType ← readField 2 "mac_pdu_type"
  assertThat (macPduType = 1)
  let pduSubtype ← readField 1 "pdu_subtype"
  assertThat (pduSubtype = 1)
  let fillBits ← readField 1 "fill_bits"
  let lengthIndCapReq ← readField 6 "length_ind_cap_req"
  let (lengthInd, reservationReq) ← lengthOrCapReq lengthIndCapReq
  pure { fillBits := fillBits != 0, lengthInd, reservationReq }

/-- The six bits of the length indication or of the capacity request. -/
def lengthCode (pdu : MacEndUl) : Nat :=
  match pdu.lengthInd, pdu.reservationReq with
  | some length, _ => length
  | none, some resReq => 0b110000 + resReq.intoRaw
  | none, none => 0

def wire (pdu : MacEndUl) : List Bool :=
  bitsOf 2 1 ++ (bitsOf 1 1 ++ (bitsOf 1 pdu.fillBits.toNat ++ bitsOf 6 pdu.lengthCode))

/-- **A MAC-END that indicates its length is read back.** -/
theorem reads_fromBitbuf {fillBits : Bool} {length : Nat} (low : 0 < length)
    (high : length < 0b101111) :
    Reads fromBitbuf (wire ⟨fillBits, some length, none⟩) ⟨fillBits, some length, none⟩ := by
  refine .field (by decide) ?_
  refine .asserted rfl ?_
  refine .field (by decide) ?_
  refine .asserted rfl ?_
  refine .field (toNat_lt _) ?_
  refine finish (reads_readField _ (lt_trans high (by decide))) ?_
  have told : lengthOrCapReq length = .ok (some length, none) := by
    rw [lengthOrCapReq, if_neg (by omega), if_pos high]
  rw [toNat_ne_zero]
  exact check (reads_lift told) (pure _)

theorem lengthOrCapReq_capReq {code : Nat} (low : 0b101111 ≤ code) (high : code < 2 ^ 6) :
    lengthOrCapReq code = .error (.parse (.invalidValue "length_ind_cap_req" code)) := by
  unfold lengthOrCapReq
  rw [if_neg (by omega), if_neg (by omega), if_pos (by omega)]

/-- **A MAC-END that asks for capacity is refused.** -/
theorem fromBitbuf_capReq (fillBits : Bool) (resReq : ReservationRequirement) :
    Refuses fromBitbuf (wire ⟨fillBits, none, some resReq⟩)
      (.parse (.invalidValue "length_ind_cap_req" (0b110000 + resReq.intoRaw))) := by
  have fits := resReq.intoRaw_lt
  refine refuses (reads_readField _ (by decide)) ?_
  refine .check (reads_lift (assertThat_of rfl)) ?_
  refine refuses (reads_readField _ (by decide)) ?_
  refine .check (reads_lift (assertThat_of rfl)) ?_
  refine refuses (reads_readField _ (toNat_lt _)) ?_
  intro block rest unread
  have code := reads_readField "length_ind_cap_req"
    (show 0b110000 + resReq.intoRaw < 2 ^ 6 by omega) block rest unread
  rw [bind_ok code, lengthOrCapReq_capReq (by omega) (by omega)]
  rfl

end MacEndUl

/-! ### MAC-END in a half slot -/

structure MacEndHu where
  fillBits : Bool
  lengthInd : Option Nat
  reservationReq : Option ReservationRequirement

namespace MacEndHu

/-- A length indication or a capacity request, behind one bit. -/
def readLength : BufM (Option Nat × Option ReservationRequirement) := do
  let lengthIndOrCapReq ← readField 1 "length_ind_or_cap_req"
  if lengthIndOrCapReq = 0 then
    let lengthInd ← readField 4 "length_ind"
    pure (some lengthInd, none)
  else
    let val ← readField 4 "reservation_req"
    let some resReq := ReservationRequirement.tryFrom val
      | throw (.parse (.invalidValue "reservation_req" val))
    pure (none, some resReq)

def fromBitbuf : BufM MacEndHu := do
  let macPduType ← readField 1 "mac_pdu_type"
  assertThat (macPduType = 1)
  let fillBits ← readField 1 "fill_bits"
  let (lengthInd, reservationReq) ← readLength
  pure { fillBits := fillBits != 0, lengthInd, reservationReq }

/-- The bits of the length indication or of the capacity request. -/
def wireLength (lengthInd : Option Nat) (reservationReq : Option ReservationRequirement) :
    List Bool :=
  match lengthInd, reservationReq with
  | some length, _ => bitsOf 1 0 ++ bitsOf 4 length
  | none, some resReq => bitsOf 1 1 ++ bitsOf 4 resReq.intoRaw
  | none, none => []

def wire (pdu : MacEndHu) : List Bool :=
  bitsOf 1 1 ++ (bitsOf 1 pdu.fillBits.toNat ++ wireLength pdu.lengthInd pdu.reservationReq)

/-- Either a length indication or a capacity request. -/
inductive Lengthened : Option Nat → Option ReservationRequirement → Prop where
  | length {length : Nat} (fits : length < 2 ^ 4) : Lengthened (some length) none
  | capReq (resReq : ReservationRequirement) : Lengthened none (some resReq)

theorem Lengthened.reads {lengthInd : Option Nat} {reservationReq : Option ReservationRequirement}
    (lengthened : Lengthened lengthInd reservationReq) :
    Reads readLength (wireLength lengthInd reservationReq) (lengthInd, reservationReq) := by
  cases lengthened with
  | length fits =>
    refine .field (by decide) ?_
    exact (reads_readField _ fits).finish (pure _)
  | capReq resReq =>
    refine .field (by decide) ?_
    refine finish (reads_readField _ resReq.intoRaw_lt) ?_
    rw [tryFrom_intoRaw]
    exact pure _

/-- **A MAC-END in a half slot is read back.** -/
theorem reads_fromBitbuf {pdu : MacEndHu}
    (lengthened : Lengthened pdu.lengthInd pdu.reservationReq) :
    Reads fromBitbuf pdu.wire pdu := by
  refine .field (by decide) ?_
  refine .asserted rfl ?_
  refine .field (toNat_lt _) ?_
  rw [toNat_ne_zero]
  exact lengthened.reads.finish (pure _)

end MacEndHu

/-! ### MAC-U-SIGNAL and MAC-U-BLCK -/

structure MacUSignal where
  secondHalfStolen : Bool

def MacUSignal.fromBitbuf : BufM MacUSignal := do
  let macPduType ← readField 2 "mac_pdu_type"
  assertThat (macPduType = 3)
  let secondHalfStolen ← readField 1 "second_half_stolen"
  pure { secondHalfStolen := secondHalfStolen != 0 }

theorem MacUSignal.reads_fromBitbuf (secondHalfStolen : Bool) :
    Reads MacUSignal.fromBitbuf (bitsOf 2 3 ++ bitsOf 1 secondHalfStolen.toNat)
      ⟨secondHalfStolen⟩ := by
  refine .field (by decide) ?_
  refine .asserted rfl ?_
  refine finish (reads_readField _ (toNat_lt _)) ?_
  rw [toNat_ne_zero]
  exact pure _

structure MacUBlck where
  fillBits : Bool
  encrypted : Bool
  eventLabel : Nat
  reservationReq : Nat

def MacUBlck.fromBitbuf : BufM MacUBlck := do
  let macPduType ← readField 2 "mac_pdu_type"
  assertThat (macPduType = 3)
  let suppPduSubtype ← readField 1 "supp_pdu_subtype"
  assertThat (suppPduSubtype = 0)
  let fillBits ← readField 1 "fill_bits"
  let encrypted ← readField 1 "encrypted"
  let eventLabel ← readField 10 "event_label"
  let reservationReq ← readField 4 "reservation_req"
  pure { fillBits := fillBits != 0, encrypted := encrypted != 0, eventLabel, reservationReq }

end Bluestation
