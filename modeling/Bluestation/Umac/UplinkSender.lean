/-
**What a terminal sends in an uplink block.**

A block holds PDUs and, behind them, nothing more that the base station reads on: too few bits for a
PDU, a null PDU, or a PDU of another kind. What a terminal sends of a fragmented SDU are the pieces
of a message.

* `UplinkPdu.piece` — the part of a message that a PDU carries.
* `Surroundings.dispatch_idle` — behind the PDUs nothing happens to fragments.
-/

import Bluestation.Lib.Reassembly
import Bluestation.Umac.UplinkOutcomes

namespace Bluestation

open Bits Reassembly Option

variable {Key Context : Type}

inductive UplinkHeader where
  | access (pdu : MacAccess)
  | data (pdu : MacData)
  | frag (pdu : MacFragUl)
  | macEndUl (pdu : MacEndUl)
  | macEndHu (pdu : MacEndHu)

namespace UplinkHeader

def wire : UplinkHeader → List Bool
  | access pdu => pdu.wire
  | data pdu => pdu.wire
  | frag pdu => pdu.wire
  | macEndUl pdu => pdu.wire
  | macEndHu pdu => pdu.wire

def fillBits : UplinkHeader → Bool
  | access pdu => pdu.fillBits
  | data pdu => pdu.fillBits
  | frag pdu => pdu.fillBits
  | macEndUl pdu => pdu.fillBits
  | macEndHu pdu => pdu.fillBits

/-- The octets that a header indicates, if the PDU does not fill the block. -/
def octets : UplinkHeader → Option Nat
  | access pdu => pdu.lengthInd
  | data pdu => pdu.octets
  | frag _ => none
  | macEndUl pdu => pdu.lengthInd
  | macEndHu pdu => pdu.lengthInd

/-- A header that has a form on the air, on a channel that carries it, and no null PDU. -/
def Sendable (channel : LogicalChannel) : UplinkHeader → Prop
  | access pdu => channel = .schHu ∧ pdu.Encodable ∧ pdu.lengthInd ≠ some 0
  | data pdu => channel ≠ .schHu ∧ pdu.Encodable ∧ pdu.Indicates
  | frag _ => channel ≠ .schHu
  | macEndUl pdu => channel ≠ .schHu ∧
      ((∃ length, 0 < length ∧ length < 0b101111 ∧ pdu.lengthInd = some length ∧
        pdu.reservationReq = none) ∨
      ∃ resReq, pdu.lengthInd = none ∧ pdu.reservationReq = some resReq)
  | macEndHu pdu => channel = .schHu ∧ MacEndHu.Lengthened pdu.lengthInd pdu.reservationReq

end UplinkHeader

/-- A PDU on the air. The field is what is sent, `clear` what was enciphered for it; the identity
and the protection are those under which the terminal begins an SDU. -/
structure UplinkPdu (Key : Type) where
  header : UplinkHeader
  field : List Bool
  filled : Nat
  clear : List Bool
  identity : TetraAddress
  protection : AieRequest Key

/-- What goes with an SDU: the terminal and the protection. -/
abbrev SduHead (Key : Type) := TetraAddress × Option (AieRequest Key)

namespace UplinkPdu

def wire (pdu : UplinkPdu Key) : List Bool :=
  pdu.header.wire ++ (pdu.field ++ fill pdu.filled)

/-- The part of a fragmented SDU that a PDU carries. -/
def piece (pdu : UplinkPdu Key) : Piece (SduHead Key) Bool :=
  match pdu.header with
  | .access header =>
    if header.isFragStart then .start ⟨(pdu.identity, some pdu.protection), pdu.clear⟩ else .whole
  | .data header =>
    if header.isFragStart then .start ⟨(pdu.identity, some pdu.protection), pdu.clear⟩ else .whole
  | .frag _ => .more pdu.clear
  | .macEndUl _ | .macEndHu _ => .finish pdu.clear

/-- A PDU that a terminal may send with `rest` behind it. -/
structure Sendable (channel : LogicalChannel) (rest : List Bool) (pdu : UplinkPdu Key) : Prop where
  header : pdu.header.Sendable channel
  flag : pdu.header.fillBits = decide (0 < pdu.filled)
  fits : Fits pdu.header.octets (pdu.header.wire.length + pdu.field.length + pdu.filled) rest

end UplinkPdu

/-- What may stand behind the PDUs of a block. -/
inductive Idle (channel : LogicalChannel) : List Bool → Prop where
  | short {rest : List Bool} (few : rest.length < 16) : Idle channel rest
  | otherKind {rest : List Bool} (data : channel ≠ .schHu) : Idle channel (true :: rest)
  | nullData {header : MacData} {rest : List Bool} (data : channel ≠ .schHu)
      (encodable : header.Encodable) (null : header.lengthInd = some 0) :
      Idle channel (header.wire ++ rest)
  | nullAccess {header : MacAccess} {rest : List Bool} (access : channel = .schHu)
      (encodable : header.Encodable) (null : header.lengthInd = some 0) :
      Idle channel (header.wire ++ rest)

namespace Surroundings

variable (air : Surroundings Key Context)

/-! ### The PDUs -/

/-- What becomes of a PDU, from what is held when it arrives. -/
def outcome (held : Nat → Option (DefragBuffer Key)) (prim : TmvUnitdataInd)
    (pdu : UplinkPdu Key) : Outcome Key :=
  match pdu.header with
  | .access header => air.macAccessOutcome prim header pdu.field
  | .data header => air.macDataOutcome prim header pdu.field
  | .frag _ => air.ownerOutcome .appended held prim pdu.field
  | .macEndUl header =>
    if header.lengthInd.isSome then air.ownerOutcome .completed held prim pdu.field else .stopped
  | .macEndHu header =>
    if header.lengthInd = some 0 then .stopped
    else air.ownerOutcome .completed held prim pdu.field

def signalling (channel : LogicalChannel) : Prop :=
  channel = .schF ∨ channel = .stch ∨ channel = .schHu

variable {umac later : UmacBs Key} {prim next : TmvUnitdataInd} {bits : Nat} {rest : List Bool}
  {block cropped : BitBuffer}

theorem dispatch_schHu (channel : prim.logicalChannel = .schHu) : air.dispatch bits umac prim =
      if bits / 4 = 0 then air.rxMacAccess umac prim else air.rxMacEndHu umac prim := by
  unfold dispatch
  rw [channel]

theorem dispatch_other (channels : signalling prim.logicalChannel)
    (channel : prim.logicalChannel ≠ .schHu) :
    air.dispatch bits umac prim =
      if bits / 2 = 0 then air.rxMacData umac prim
      else if bits / 2 = 1 then
        if bits % 2 = 0 then air.rxMacFragUl umac prim else air.rxMacEndUl umac prim
      else if bits / 2 = 3 then
        if prim.logicalChannel = .stch then air.rxUlMacUSignal umac prim
        else if bits % 2 = 0 then rxUlMacUBlck umac prim
        else pure (umac, prim)
      else pure (umac, prim) := by
  unfold dispatch
  rcases channels with is | is | is
  · rw [is]
  · rw [is]
  · exact absurd is channel

theorem dispatch_access {header : MacAccess} (channel : prim.logicalChannel = .schHu)
    (begins : Begins prim.pdu (header.wire ++ rest)) (peeked : prim.pdu.peekBits 3 = some bits) :
    air.dispatch bits umac prim = air.rxMacAccess umac prim := by
  have front : ∃ second third more, header.wire ++ rest = false :: second :: third :: more :=
    ⟨_, _, _, rfl⟩
  obtain ⟨second, third, more, wire⟩ := front
  rw [wire] at begins
  rw [begins.peekBits, some_inj] at peeked
  subst peeked
  rw [air.dispatch_schHu channel]
  cases second <;> cases third <;> rfl

section

variable (channels : signalling prim.logicalChannel)

include channels

variable (channel : prim.logicalChannel ≠ .schHu)

include channel

theorem dispatch_data {header : MacData} (begins : Begins prim.pdu (header.wire ++ rest))
    (peeked : prim.pdu.peekBits 3 = some bits) :
    air.dispatch bits umac prim = air.rxMacData umac prim := by
  have front : ∃ third more, header.wire ++ rest = false :: false :: third :: more := ⟨_, _, rfl⟩
  obtain ⟨third, more, wire⟩ := front
  rw [wire] at begins
  rw [begins.peekBits, some_inj] at peeked
  subst peeked
  rw [air.dispatch_other channels channel]
  cases third <;> rfl

theorem dispatch_frag {header : MacFragUl} (begins : Begins prim.pdu (header.wire ++ rest))
    (peeked : prim.pdu.peekBits 3 = some bits) :
    air.dispatch bits umac prim = air.rxMacFragUl umac prim := by
  rw [begins.peekBits, some_inj] at peeked
  subst peeked
  rw [air.dispatch_other channels channel]
  rfl

theorem dispatch_macEndUl {header : MacEndUl} (begins : Begins prim.pdu (header.wire ++ rest))
    (peeked : prim.pdu.peekBits 3 = some bits) :
    air.dispatch bits umac prim = air.rxMacEndUl umac prim := by
  rw [begins.peekBits, some_inj] at peeked
  subst peeked
  rw [air.dispatch_other channels channel]
  rfl

end

theorem dispatch_macEndHu {header : MacEndHu} (channel : prim.logicalChannel = .schHu)
    (lengthened : MacEndHu.Lengthened header.lengthInd header.reservationReq)
    (begins : Begins prim.pdu (header.wire ++ rest)) (peeked : prim.pdu.peekBits 3 = some bits) :
    air.dispatch bits umac prim = air.rxMacEndHu umac prim := by
  have front : ∃ second third more, header.wire ++ rest = true :: second :: third :: more := by
    obtain ⟨fillBits, lengthInd, reservationReq⟩ := header
    cases lengthened with
    | length fits => exact ⟨_, _, _, rfl⟩
    | capReq resReq => exact ⟨_, _, _, rfl⟩
  obtain ⟨second, third, more, wire⟩ := front
  rw [wire] at begins
  rw [begins.peekBits, some_inj] at peeked
  subst peeked
  rw [air.dispatch_schHu channel]
  cases second <;> cases third <;> rfl

/-- **A PDU at the start of a block is handled as its outcome tells.** -/
theorem dispatch_spec {pdu : UplinkPdu Key} (channels : signalling prim.logicalChannel)
    (sendable : pdu.Sendable prim.logicalChannel rest) (begins : Begins prim.pdu (pdu.wire ++ rest))
    (peeked : prim.pdu.peekBits 3 = some bits) (ran : air.dispatch bits umac prim = .ok (later, next)) :
    (air.outcome umac.defrag.held prim pdu).Does umac prim rest later next := by
  obtain ⟨header, field, filled, clear, identity, protection⟩ := pdu
  obtain ⟨channel, flag, fits⟩ := sendable
  unfold UplinkPdu.wire at begins
  rw [List.append_assoc, List.append_assoc] at begins
  cases header with
  | access header =>
    obtain ⟨channel, encodable, indicates⟩ := channel
    rw [air.dispatch_access channel begins peeked] at ran
    exact air.rxMacAccess_spec encodable indicates begins flag fits ran
  | data header =>
    obtain ⟨channel, encodable, indicates⟩ := channel
    rw [air.dispatch_data channels channel begins peeked] at ran
    exact air.rxMacData_spec encodable indicates begins flag fits ran
  | frag header =>
    have none : rest = [] := fits
    subst none
    rw [air.dispatch_frag channels channel begins peeked] at ran
    exact air.rxMacFragUl_spec begins flag ran
  | macEndUl header =>
    obtain ⟨channel, lengthened⟩ := channel
    rw [air.dispatch_macEndUl channels channel begins peeked] at ran
    obtain ⟨fillBits, lengthInd, reservationReq⟩ := header
    obtain ⟨length, low, high, rfl, rfl⟩ | ⟨resReq, rfl, rfl⟩ := lengthened
    · exact air.rxMacEndUl_spec low high begins flag fits ran
    · obtain ⟨rfl, rfl⟩ := air.rxMacEndUl_capReq begins ran
      exact ⟨⟨rfl, rfl⟩, rfl⟩
  | macEndHu header =>
    obtain ⟨channel, lengthened⟩ := channel
    rw [air.dispatch_macEndHu channel lengthened begins peeked] at ran
    exact air.rxMacEndHu_spec lengthened begins flag fits ran

/-! ### Behind the PDUs -/

theorem cipherUplinkMac_start {context : Context}
    (ciphered : air.cipherUplinkMac context block = .ok (.ok cropped)) :
    cropped.start = block.start := by
  obtain ⟨len, -, ciphered⟩ := bind_eq_ok.mp ciphered
  split at ciphered
  · cases ciphered
    rfl
  · split at ciphered
    · injection ciphered with refused
      contradiction
    · cases ciphered
      rfl

theorem cipherField_start {context : Option Context}
    (ciphered : air.cipherField context block = .ok (some cropped)) :
    cropped.start = block.start := by
  cases context with
  | none =>
    cases ciphered
    rfl
  | some context =>
    unfold cipherField at ciphered
    dsimp only at ciphered
    rcases made : air.cipherUplinkMac context block with fault | error | other
    · rw [made] at ciphered
      contradiction
    · rw [made] at ciphered
      injection ciphered with refused
      contradiction
    · rw [made] at ciphered
      cases ciphered
      exact air.cipherUplinkMac_start made

theorem rxUlMacUSignal_untouched {secondHalfStolen : Bool}
    (begins : Begins prim.pdu (true :: true :: secondHalfStolen :: rest))
    (ran : air.rxUlMacUSignal umac prim = .ok (later, next)) :
    Untouched umac later ∧ next.pdu.start = prim.pdu.start := by
  have front : true :: true :: secondHalfStolen :: rest =
      (bitsOf 2 3 ++ bitsOf 1 secondHalfStolen.toNat) ++ rest := by
    cases secondHalfStolen <;> rfl
  rw [front] at begins
  unfold rxUlMacUSignal at ran
  simp only [parsed_ok (MacUSignal.reads_fromBitbuf secondHalfStolen) begins, ok_bind] at ran
  split at ran
  · cases ran
    exact ⟨⟨rfl, rfl⟩, rfl⟩
  obtain ⟨len, -, ran⟩ := bind_eq_ok.mp ran
  split at ran
  · cases ran
    exact ⟨⟨rfl, rfl⟩, rfl⟩
  split at ran
  · cases ran
    exact ⟨⟨rfl, rfl⟩, rfl⟩
  split at ran
  · cases ran
    exact ⟨⟨rfl, rfl⟩, rfl⟩
  split at ran
  · cases ran
    exact ⟨⟨rfl, rfl⟩, rfl⟩
  obtain ⟨deciphered, ciphered, ran⟩ := bind_eq_ok.mp ran
  cases deciphered with
  | none =>
    cases ran
    exact ⟨⟨rfl, rfl⟩, rfl⟩
  | some cropped =>
    cases ran
    exact ⟨⟨rfl, rfl⟩, (air.cipherField_start ciphered).trans rfl⟩

theorem stripFill_start {fillBits : Bool} {len : Nat}
    (stripped : stripFill fillBits len block = .ok cropped) : cropped.start = block.start := by
  obtain ⟨filled, -, stripped⟩ := bind_eq_ok.mp stripped
  obtain ⟨checked, -, stripped⟩ := bind_eq_ok.mp stripped
  cases stripped
  rfl

theorem noCapacity_untouched (umac : UmacBs Key) (addr : TetraAddress) (time : TdmaTime) :
    Untouched umac (air.noCapacity umac addr time) := by
  unfold noCapacity
  split <;> exact ⟨rfl, rfl⟩

theorem rxMacData_null {header : MacData} (encodable : header.Encodable)
    (null : header.lengthInd = some 0) (begins : Begins prim.pdu (header.wire ++ rest))
    (ran : air.rxMacData umac prim = .ok (later, next)) :
    Untouched umac later ∧ next.pdu.start = prim.pdu.start := by
  unfold rxMacData at ran
  simp only [begins.getPos, assertThat_of, ok_bind,
    parsed_ok (MacData.reads_fromBitbuf encodable) begins] at ran
  obtain ⟨answer, -, ran⟩ := bind_eq_ok.mp ran
  cases answer with
  | none =>
    cases ran
    exact ⟨⟨rfl, rfl⟩, rfl⟩
  | some addr =>
    simp only [macDataExtent, null, if_true, ok_bind] at ran
    obtain ⟨cropped, stripped, ran⟩ := bind_eq_ok.mp ran
    cases ran
    exact ⟨air.noCapacity_untouched _ _ _, (stripFill_start stripped).trans rfl⟩

theorem rxMacAccess_null {header : MacAccess} (encodable : header.Encodable)
    (null : header.lengthInd = some 0) (begins : Begins prim.pdu (header.wire ++ rest))
    (ran : air.rxMacAccess umac prim = .ok (later, next)) :
    Untouched umac later ∧ next.pdu.start = prim.pdu.start := by
  have isNull : header.isNullPdu = true := by simp [MacAccess.isNullPdu, null]
  unfold rxMacAccess at ran
  simp only [begins.getPos, assertThat_of, ok_bind,
    parsed_ok (MacAccess.reads_fromBitbuf encodable) begins] at ran
  obtain ⟨answer, -, ran⟩ := bind_eq_ok.mp ran
  cases answer with
  | none =>
    cases ran
    exact ⟨⟨rfl, rfl⟩, rfl⟩
  | some addr =>
    simp only [isNull] at ran
    obtain ⟨cropped, stripped, ran⟩ := bind_eq_ok.mp ran
    cases ran
    exact ⟨air.noCapacity_untouched _ _ _, (stripFill_start stripped).trans rfl⟩

/-- **Behind the PDUs of a block nothing happens to fragments**, and the block ends. -/
theorem dispatch_idle (channels : signalling prim.logicalChannel)
    (idle : Idle prim.logicalChannel rest) (enough : 16 ≤ rest.length) (begins : Begins prim.pdu rest)
    (peeked : prim.pdu.peekBits 3 = some bits) (ran : air.dispatch bits umac prim = .ok (later, next)) :
    Untouched umac later ∧ next.pdu.start = prim.pdu.start := by
  cases idle with
  | short few => omega
  | nullData channel encodable null =>
    rw [air.dispatch_data channels channel begins peeked] at ran
    exact air.rxMacData_null encodable null begins ran
  | nullAccess channel encodable null =>
    rw [air.dispatch_access channel begins peeked] at ran
    exact air.rxMacAccess_null encodable null begins ran
  | @otherKind more channel =>
    obtain ⟨second, third, last, rfl⟩ : ∃ second third last, more = second :: third :: last := by
      match more with
      | [] | [_] => simp at enough
      | second :: third :: last => exact ⟨second, third, last, rfl⟩
    have value := begins.peekBits
    rw [peeked, some_inj] at value
    rw [air.dispatch_other channels channel, value] at ran
    cases second with
    | false =>
      cases third <;>
      · cases ran
        exact ⟨⟨rfl, rfl⟩, rfl⟩
    | true =>
      have kind : ¬ (4 * true.toNat + 2 * true.toNat + third.toNat) / 2 = 0 ∧
          ¬ (4 * true.toNat + 2 * true.toNat + third.toNat) / 2 = 1 ∧
          (4 * true.toNat + 2 * true.toNat + third.toNat) / 2 = 3 := by
        cases third <;> decide
      rw [if_neg kind.1, if_neg kind.2.1, if_pos kind.2.2] at ran
      split at ran
      · exact air.rxUlMacUSignal_untouched begins ran
      · split at ran
        · obtain ⟨found, -, ran⟩ := bind_eq_ok.mp ran
          cases found with
          | none =>
            cases ran
            exact ⟨⟨rfl, rfl⟩, rfl⟩
          | some _ => contradiction
        · cases ran
          exact ⟨⟨rfl, rfl⟩, rfl⟩

end Surroundings

end Bluestation
