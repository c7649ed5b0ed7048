/-
**MAC-RESOURCE.**

The address type is not stored: the encoder derives it from the address, the event label and the
usage marker, and stops when they fit none. A header without any of the three is a null PDU, which
ends after its address type.

* `writes_toBitbuf`, `reads_fromBitbuf` — an encodable header is written, and read back as `heard`.
* `computeHeaderLen_ok` — the computed header length is the length of what is written.
-/

import Bluestation.Core.Primitives
import Bluestation.Pdus.Slotgrant
import Bluestation.Pdus.ChanAlloc

namespace Bluestation

open Bits List Option Writes Reads ChanAllocElement

def macResourceLengthFragStart : Nat := 0b111111

def macResourceLength2ndSlotStolen : Nat := 0b111110

inductive MacResourceAddrType where
  | nullPdu | ssi | eventLabel | ussi | smi | ssiAndEventLabel | ssiAndUsageMarker
  | smiAndEventLabel
deriving DecidableEq

namespace MacResourceAddrType

def tryFrom : Nat → Option MacResourceAddrType
  | 0 => some nullPdu
  | 1 => some ssi
  | 2 => some eventLabel
  | 3 => some ussi
  | 4 => some smi
  | 5 => some ssiAndEventLabel
  | 6 => some ssiAndUsageMarker
  | 7 => some smiAndEventLabel
  | _ => none

def intoRaw : MacResourceAddrType → Nat
  | nullPdu => 0
  | ssi => 1
  | eventLabel => 2
  | ussi => 3
  | smi => 4
  | ssiAndEventLabel => 5
  | ssiAndUsageMarker => 6
  | smiAndEventLabel => 7

end MacResourceAddrType

structure MacResource where
  fillBits : Bool := false
  posOfGrant : Nat := 0
  encryptionMode : Nat := 0
  randomAccessFlag : Bool := false
  lengthInd : Nat := 0
  addr : Option TetraAddress := none
  eventLabel : Option Nat := none
  usageMarker : Option Nat := none
  powerControlElement : Option Nat := none
  slotGrantingElement : Option BasicSlotgrant := none
  chanAllocElement : Option ChanAllocElement := none
deriving DecidableEq

namespace MacResource

def nullPdu : MacResource := { lengthInd := 2 }

def isNullPdu (pdu : MacResource) : Bool :=
  pdu.addr.isNone && pdu.eventLabel.isNone && pdu.usageMarker.isNone

/-! ### Reading -/

/-- The fields that an address type announces. -/
def readAddress (addrType : MacResourceAddrType) :
    BufM (Option TetraAddress × Option Nat × Option Nat) :=
  match addrType with
  | .nullPdu => pure (none, none, none)
  | .ssi => do
    let ssi ← readField 24 "ssi"
    pure (some ⟨ssi, .ssi⟩, none, none)
  | .eventLabel => do
    let label ← readField 10 "event_label"
    pure (none, some label, none)
  | .ussi => do
    let ssi ← readField 24 "ussi"
    pure (some ⟨ssi, .ussi⟩, none, none)
  | .smi => do
    let ssi ← readField 24 "smi"
    pure (some ⟨ssi, .smi⟩, none, none)
  | .ssiAndEventLabel => do
    let ssi ← readField 24 "ssi"
    let label ← readField 10 "event_label"
    pure (some ⟨ssi, .ssi⟩, some label, none)
  | .ssiAndUsageMarker => do
    let ssi ← readField 24 "ssi"
    let marker ← readField 6 "usage_marker"
    pure (some ⟨ssi, .ssi⟩, none, some marker)
  | .smiAndEventLabel => do
    let ssi ← readField 24 "smi"
    let label ← readField 10 "event_label"
    pure (some ⟨ssi, .smi⟩, some label, none)

def fromBitbuf : BufM MacResource := do
  let macPduType ← readField 2 "mac_pdu_type"
  assertThat (macPduType = 0)
  let fillBits ← readField 1 "fill_bits"
  let posOfGrant ← readField 1 "pos_of_grant"
  let encryptionMode ← readField 2 "encryption_mode"
  let randomAccessFlag ← readField 1 "random_access_flag"
  let lengthInd ← readField 6 "length_ind"
  let bits ← readField 3 "addr_type"
  let some addrType := MacResourceAddrType.tryFrom bits | throw .panic
  let (addr, eventLabel, usageMarker) ← readAddress addrType
  if addrType = .nullPdu then
    -- the other fields carry no meaning in a null PDU and are set to defaults
    pure { lengthInd }
  else
    let powerControlElement ←
      readFlagged "power_control_flag" (readField 4 "power_control_element")
    let slotGrantingElement ← readFlagged "slot_granting_flag" BasicSlotgrant.fromBitbuf
    let chanAllocElement ← readFlagged "chan_alloc_flag" ChanAllocElement.fromBitbuf
    pure {
      fillBits := fillBits != 0
      posOfGrant
      encryptionMode
      randomAccessFlag := randomAccessFlag != 0
      lengthInd, addr, eventLabel, usageMarker
      powerControlElement, slotGrantingElement, chanAllocElement }

/-! ### Writing -/

/-- The address type of a header that is no null PDU, from what it addresses. -/
def addressKind (addr : Option TetraAddress) (eventLabel usageMarker : Option Nat) :
    Except Fault MacResourceAddrType :=
  match addr with
  | some addr =>
    if addr.ssiType = .ssi ∨ addr.ssiType = .gssi ∨ addr.ssiType = .issi ∨
        addr.ssiType = .esi then
      if eventLabel.isNone ∧ usageMarker.isNone then .ok .ssi
      else if eventLabel.isSome ∧ usageMarker.isNone then .ok .ssiAndEventLabel
      else if usageMarker.isSome ∧ eventLabel.isNone then .ok .ssiAndUsageMarker
      else .error .panic
    else if addr.ssiType = .ussi ∧ eventLabel.isNone ∧ usageMarker.isNone then .ok .ussi
    else if addr.ssiType = .smi then
      if usageMarker.isNone then
        if eventLabel.isSome then .ok .smiAndEventLabel else .ok .smi
      else .error .panic
    else .error .panic
  | none =>
    if usageMarker.isNone ∧ eventLabel.isSome then .ok .eventLabel else .error .panic

/-- The address type the encoder derives, after its checks on a null PDU. -/
def addrType (pdu : MacResource) : Except Fault MacResourceAddrType := do
  if pdu.isNullPdu then
    assertThat (pdu.fillBits = false)
    assertThat (pdu.posOfGrant = 0)
    assertThat (pdu.encryptionMode = 0)
    assertThat (pdu.randomAccessFlag = false)
    pure .nullPdu
  else addressKind pdu.addr pdu.eventLabel pdu.usageMarker

/-- The address of a header that must have one; an encrypted one exactly under encryption. -/
def writeSsi (pdu : MacResource) : BufM Unit :=
  match pdu.addr with
  | some addr => do
    assertThat (addr.ssiType = .esi ↔ pdu.encryptionMode ≠ 0)
    writeBits addr.ssi 24
  | none => throw .panic

def writeRequired (field : Option Nat) (width : Nat) : BufM Unit :=
  match field with
  | some value => writeBits value width
  | none => throw .panic

/-- The fields that an address type announces. -/
def writeAddress (pdu : MacResource) (addrType : MacResourceAddrType) : BufM Unit :=
  match addrType with
  | .nullPdu => pure ()
  | .ssi | .ussi | .smi => pdu.writeSsi
  | .eventLabel => writeRequired pdu.eventLabel 10
  | .ssiAndEventLabel | .smiAndEventLabel => do
    pdu.writeSsi
    writeRequired pdu.eventLabel 10
  | .ssiAndUsageMarker => do
    pdu.writeSsi
    writeRequired pdu.usageMarker 6

def toBitbuf (pdu : MacResource) : BufM Unit := do
  assertThat (0 < pdu.lengthInd)
  writeBits 0 2
  writeBits pdu.fillBits.toNat 1
  writeBits pdu.posOfGrant 1
  writeBits pdu.encryptionMode 2
  writeBits pdu.randomAccessFlag.toNat 1
  writeBits pdu.lengthInd 6
  let addrType ← pdu.addrType
  writeBits addrType.intoRaw 3
  pdu.writeAddress addrType
  if addrType = .nullPdu then
    pure ()
  else
    writeFlagged pdu.powerControlElement (fun element => writeBits element 4)
    writeFlagged pdu.slotGrantingElement BasicSlotgrant.toBitbuf
    writeFlagged pdu.chanAllocElement ChanAllocElement.toBitbuf

def computeHeaderLen (pdu : MacResource) : Except Fault Nat :=
  if pdu.isNullPdu then .ok 16
  else do
    let chanAllocLen ← match pdu.chanAllocElement with
      | some element => element.computeLen
      | none => pure 0
    pure (16 + (if pdu.eventLabel.isSome then 10 else 0) +
      (if pdu.usageMarker.isSome then 6 else 0) + (if pdu.addr.isSome then 24 else 0) +
      1 + (if pdu.powerControlElement.isSome then 4 else 0) +
      1 + (if pdu.slotGrantingElement.isSome then 8 else 0) +
      1 + chanAllocLen)

/-! ### What a header looks like on the wire -/

/-- A header that the encoder accepts and whose fields fit their widths. Its length and its fill
indication are set when it is sent and are not part of this. -/
structure Encodable (pdu : MacResource) : Prop where
  posOfGrant_lt : pdu.posOfGrant < 2 ^ 1
  encryptionMode_lt : pdu.encryptionMode < 2 ^ 2
  /-- The fields that carry no meaning in a null PDU are unset there. -/
  nullPdu_unset : pdu.isNullPdu = true → pdu.posOfGrant = 0 ∧ pdu.encryptionMode = 0 ∧
    pdu.randomAccessFlag = false ∧ pdu.chanAllocElement = none
  addressed : pdu.isNullPdu = false →
    ∃ kind, addressKind pdu.addr pdu.eventLabel pdu.usageMarker = .ok kind
  esi_iff : ∀ addr ∈ pdu.addr, addr.ssiType = .esi ↔ pdu.encryptionMode ≠ 0
  ssi_lt : ∀ addr ∈ pdu.addr, addr.ssi < 2 ^ 24
  eventLabel_lt : ∀ label ∈ pdu.eventLabel, label < 2 ^ 10
  usageMarker_lt : ∀ marker ∈ pdu.usageMarker, marker < 2 ^ 6
  powerControl_lt : ∀ element ∈ pdu.powerControlElement, element < 2 ^ 4
  slotGrant : ∀ grant ∈ pdu.slotGrantingElement, grant.grantingDelay.InRange
  chanAlloc : ∀ element ∈ pdu.chanAllocElement, element.Encodable

def kind (pdu : MacResource) : MacResourceAddrType :=
  match addressKind pdu.addr pdu.eventLabel pdu.usageMarker with
  | .ok kind => if pdu.isNullPdu then .nullPdu else kind
  | .error _ => .nullPdu

def wireOptional (field : Option Nat) (width : Nat) : List Bool :=
  match field with
  | some value => bitsOf width value
  | none => []

def wireAddress (pdu : MacResource) : List Bool :=
  wireOptional (pdu.addr.map TetraAddress.ssi) 24 ++
    (wireOptional pdu.eventLabel 10 ++ wireOptional pdu.usageMarker 6)

/-- The bits after the address. -/
def wireElements (pdu : MacResource) : List Bool :=
  if pdu.isNullPdu then []
  else wireFlagged pdu.powerControlElement (bitsOf 4) ++
    (wireFlagged pdu.slotGrantingElement BasicSlotgrant.wire ++
      wireFlagged pdu.chanAllocElement ChanAllocElement.wire)

/-- The bits of the header on the wire. -/
def wire (pdu : MacResource) : List Bool :=
  bitsOf 2 0 ++ (bitsOf 1 pdu.fillBits.toNat ++ (bitsOf 1 pdu.posOfGrant ++
    (bitsOf 2 pdu.encryptionMode ++ (bitsOf 1 pdu.randomAccessFlag.toNat ++
      (bitsOf 6 pdu.lengthInd ++ (bitsOf 3 pdu.kind.intoRaw ++
        (pdu.wireAddress ++ pdu.wireElements)))))))

/-- The identity type a receiver sees: the individual, group and encrypted ones all read as SSI. -/
def heardType : SsiType → SsiType
  | .issi | .gssi | .esi => .ssi
  | other => other

def heard (pdu : MacResource) : MacResource :=
  if pdu.isNullPdu then { lengthInd := pdu.lengthInd }
  else { pdu with addr := pdu.addr.map fun addr => { addr with ssiType := heardType addr.ssiType } }

/-! ### The derived address type -/

variable {pdu : MacResource} {kind : MacResourceAddrType}

theorem kind_nullPdu (isNull : pdu.isNullPdu = true) : pdu.kind = .nullPdu := by
  rw [kind, isNull]
  split <;> rfl

theorem kind_of (notNull : pdu.isNullPdu = false)
    (derived : addressKind pdu.addr pdu.eventLabel pdu.usageMarker = .ok kind) : pdu.kind = kind := by
  rw [MacResource.kind, derived, notNull]
  rfl

variable {eventLabel usageMarker : Option Nat} {addr : Option TetraAddress}

/-- **What each derived address type says about the address, the label and the marker.** -/
theorem addressKind_cases (derived : addressKind addr eventLabel usageMarker = .ok kind) :
    (kind = .eventLabel ∧ addr = none ∧ usageMarker = none ∧ ∃ label, eventLabel = some label) ∨
    (∃ whom, addr = some whom ∧
      ((kind = .ssi ∧ heardType whom.ssiType = .ssi ∧ eventLabel = none ∧ usageMarker = none) ∨
       (kind = .ussi ∧ heardType whom.ssiType = .ussi ∧ eventLabel = none ∧ usageMarker = none) ∨
       (kind = .smi ∧ heardType whom.ssiType = .smi ∧ eventLabel = none ∧ usageMarker = none) ∨
       (kind = .ssiAndEventLabel ∧ heardType whom.ssiType = .ssi ∧ usageMarker = none ∧
         ∃ label, eventLabel = some label) ∨
       (kind = .smiAndEventLabel ∧ heardType whom.ssiType = .smi ∧ usageMarker = none ∧
         ∃ label, eventLabel = some label) ∨
       (kind = .ssiAndUsageMarker ∧ heardType whom.ssiType = .ssi ∧ eventLabel = none ∧
         ∃ marker, usageMarker = some marker))) := by
  cases addr with
  | none =>
    cases eventLabel <;> cases usageMarker <;> simp [addressKind] at derived
    exact .inl ⟨derived.symm, rfl, rfl, _, rfl⟩
  | some whom =>
    obtain ⟨ssi, ssiType⟩ := whom
    refine .inr ⟨_, rfl, ?_⟩
    cases eventLabel <;> cases usageMarker <;> cases ssiType <;>
      simp [addressKind] at derived <;> subst derived <;> simp [heardType]

theorem addressKind_ne_nullPdu
    (derived : addressKind addr eventLabel usageMarker = .ok kind) : kind ≠ .nullPdu := by
  rcases addressKind_cases derived with ⟨rfl, _⟩ | ⟨_, _, ⟨rfl, _⟩ | ⟨rfl, _⟩ | ⟨rfl, _⟩ |
    ⟨rfl, _⟩ | ⟨rfl, _⟩ | ⟨rfl, _⟩⟩ <;> decide

theorem addrType_tryFrom_intoRaw (kind : MacResourceAddrType) :
    MacResourceAddrType.tryFrom kind.intoRaw = some kind := by
  cases kind <;> rfl

theorem addrType_intoRaw_lt (kind : MacResourceAddrType) : kind.intoRaw < 2 ^ 3 := by
  cases kind <;> decide

/-- A header ready to be sent: encodable, with a length, and no fill in a null PDU. -/
structure Sendable (pdu : MacResource) : Prop extends Encodable pdu where
  lengthInd_pos : 0 < pdu.lengthInd
  lengthInd_lt : pdu.lengthInd < 2 ^ 6
  nullPdu_fill : pdu.isNullPdu = true → pdu.fillBits = false

theorem addrType_ok (sendable : pdu.Sendable) : pdu.addrType = .ok pdu.kind := by
  cases isNull : pdu.isNullPdu with
  | true =>
    obtain ⟨noGrant, clear, quiet, _⟩ := sendable.nullPdu_unset isNull
    rw [addrType, if_pos isNull, assertThat_of (sendable.nullPdu_fill isNull),
      assertThat_of noGrant, assertThat_of clear, assertThat_of quiet, kind_nullPdu isNull]
    rfl
  | false =>
    obtain ⟨kind, derived⟩ := sendable.addressed isNull
    rw [addrType, if_neg (by rw [isNull]; decide), derived, kind_of isNull derived]

/-! ### Writing and reading the address -/

theorem writes_ssi (encodable : pdu.Encodable) {whom : TetraAddress}
    (addressed : pdu.addr = some whom) : Writes pdu.writeSsi (bitsOf 24 whom.ssi) := by
  rw [writeSsi, addressed]
  exact (writes_lift (assertThat_of (encodable.esi_iff whom addressed))).bind (writes_writeBits _ _)

theorem isNullPdu_iff (pdu : MacResource) :
    pdu.isNullPdu = true ↔ pdu.addr = none ∧ pdu.eventLabel = none ∧ pdu.usageMarker = none := by
  simp [isNullPdu, and_assoc]

theorem writes_address (encodable : pdu.Encodable) :
    Writes (pdu.writeAddress pdu.kind) pdu.wireAddress := by
  cases isNull : pdu.isNullPdu with
  | true =>
    obtain ⟨noAddr, noLabel, noMarker⟩ := pdu.isNullPdu_iff.mp isNull
    simp only [kind_nullPdu isNull, wireAddress, noAddr, noLabel, noMarker]
    exact pure
  | false =>
    obtain ⟨kind, derived⟩ := encodable.addressed isNull
    rw [kind_of isNull derived]
    rcases addressKind_cases derived with ⟨rfl, noAddr, noMarker, label, labelled⟩ |
      ⟨whom, addressed, ⟨rfl, _, noLabel, noMarker⟩ | ⟨rfl, _, noLabel, noMarker⟩ |
        ⟨rfl, _, noLabel, noMarker⟩ | ⟨rfl, _, noMarker, label, labelled⟩ |
        ⟨rfl, _, noMarker, label, labelled⟩ | ⟨rfl, _, noLabel, marker, marked⟩⟩
    · simp only [writeAddress, wireAddress, noAddr, noMarker, labelled, writeRequired]
      simpa [wireOptional] using writes_writeBits label 10
    all_goals have ssi := writes_ssi encodable addressed
    · simpa [writeAddress, wireAddress, addressed, noLabel, noMarker, wireOptional] using ssi
    · simpa [writeAddress, wireAddress, addressed, noLabel, noMarker, wireOptional] using ssi
    · simpa [writeAddress, wireAddress, addressed, noLabel, noMarker, wireOptional] using ssi
    · simpa [writeAddress, wireAddress, addressed, labelled, noMarker, wireOptional] using
        ssi.bind (writes_writeBits label 10)
    · simpa [writeAddress, wireAddress, addressed, labelled, noMarker, wireOptional] using
        ssi.bind (writes_writeBits label 10)
    · simpa [writeAddress, wireAddress, addressed, noLabel, marked, wireOptional] using
        ssi.bind (writes_writeBits marker 6)

def heardAddr (pdu : MacResource) : Option TetraAddress :=
  pdu.addr.map fun addr => { addr with ssiType := heardType addr.ssiType }

theorem reads_address (encodable : pdu.Encodable) : Reads (readAddress pdu.kind) pdu.wireAddress
      (pdu.heardAddr, pdu.eventLabel, pdu.usageMarker) := by
  cases isNull : pdu.isNullPdu with
  | true =>
    obtain ⟨noAddr, noLabel, noMarker⟩ := pdu.isNullPdu_iff.mp isNull
    simp only [kind_nullPdu isNull, wireAddress, heardAddr, noAddr, noLabel, noMarker]
    exact pure _
  | false =>
    obtain ⟨kind, derived⟩ := encodable.addressed isNull
    rw [kind_of isNull derived]
    rcases addressKind_cases derived with ⟨rfl, noAddr, noMarker, label, labelled⟩ |
      ⟨whom, addressed, ⟨rfl, heard, noLabel, noMarker⟩ | ⟨rfl, heard, noLabel, noMarker⟩ |
        ⟨rfl, heard, noLabel, noMarker⟩ | ⟨rfl, heard, noMarker, label, labelled⟩ |
        ⟨rfl, heard, noMarker, label, labelled⟩ | ⟨rfl, heard, noLabel, marker, marked⟩⟩
    · simp only [wireAddress, heardAddr, noAddr, noMarker, labelled]
      exact (reads_readField _ (encodable.eventLabel_lt label labelled)).finish (pure _)
    all_goals
      have ssi {name : String} := reads_readField name (encodable.ssi_lt whom addressed)
      simp only [wireAddress, heardAddr, addressed, map_some, heard]
    · simp only [noLabel, noMarker]
      exact ssi.finish (pure _)
    · simp only [noLabel, noMarker]
      exact ssi.finish (pure _)
    · simp only [noLabel, noMarker]
      exact ssi.finish (pure _)
    · simp only [labelled, noMarker]
      exact ssi.bind <| (reads_readField _ (encodable.eventLabel_lt label labelled)).finish (pure _)
    · simp only [labelled, noMarker]
      exact ssi.bind <| (reads_readField _ (encodable.eventLabel_lt label labelled)).finish (pure _)
    · simp only [noLabel, marked]
      exact ssi.bind <| (reads_readField _ (encodable.usageMarker_lt marker marked)).finish (pure _)

/-! ### Round trip -/

/-- **A header ready to be sent is written as its wire bits.** -/
theorem writes_toBitbuf (sendable : pdu.Sendable) : Writes pdu.toBitbuf pdu.wire := by
  have elements : Writes (if pdu.kind = .nullPdu then Pure.pure () else do
      writeFlagged pdu.powerControlElement (fun element => writeBits element 4)
      writeFlagged pdu.slotGrantingElement BasicSlotgrant.toBitbuf
      writeFlagged pdu.chanAllocElement ChanAllocElement.toBitbuf) pdu.wireElements := by
    cases isNull : pdu.isNullPdu with
    | true =>
      rw [kind_nullPdu isNull, wireElements, if_pos isNull]
      exact pure
    | false =>
      obtain ⟨kind, derived⟩ := sendable.addressed isNull
      rw [kind_of isNull derived, if_neg (addressKind_ne_nullPdu derived), wireElements,
        if_neg (by rw [isNull]; decide)]
      exact (writes_flagged fun element _ => writes_writeBits element 4).bind <|
        (writes_flagged fun _ _ => BasicSlotgrant.writes_toBitbuf _).bind <|
        writes_flagged fun element member =>
          ChanAllocElement.writes_toBitbuf (sendable.chanAlloc element member)
  refine check (writes_lift (assertThat_of sendable.lengthInd_pos)) ?_
  refine bind (writes_writeBits _ _) ?_
  refine bind (writes_writeBits _ _) ?_
  refine bind (writes_writeBits _ _) ?_
  refine bind (writes_writeBits _ _) ?_
  refine bind (writes_writeBits _ _) ?_
  refine bind (writes_writeBits _ _) ?_
  rw [lift_bind (addrType_ok sendable)]
  refine bind (writes_writeBits _ _) ?_
  exact (writes_address sendable.toEncodable).bind elements

/-- **A written header is read back as it is heard.** -/
theorem reads_fromBitbuf (sendable : pdu.Sendable) : Reads fromBitbuf pdu.wire pdu.heard := by
  refine .field (by decide) ?_
  refine .asserted rfl ?_
  refine .field (Bool.toNat_lt _) ?_
  refine .field sendable.posOfGrant_lt ?_
  refine .field sendable.encryptionMode_lt ?_
  refine .field (Bool.toNat_lt _) ?_
  refine .field sendable.lengthInd_lt ?_
  refine .field (addrType_intoRaw_lt _) ?_
  rw [addrType_tryFrom_intoRaw]
  refine bind (reads_address sendable.toEncodable) ?_
  cases isNull : pdu.isNullPdu with
  | true =>
    rw [kind_nullPdu isNull, wireElements, if_pos isNull, heard, if_pos isNull]
    exact pure _
  | false =>
    obtain ⟨kind, derived⟩ := sendable.addressed isNull
    have notNull : ¬ pdu.isNullPdu = true := by rw [isNull]; decide
    rw [kind_of isNull derived, wireElements, if_neg notNull, heard, if_neg notNull]
    simp only [if_neg (addressKind_ne_nullPdu derived)]
    refine bind (reads_flagged _ fun element member =>
      reads_readField _ (sendable.powerControl_lt element member)) ?_
    refine bind (reads_flagged _ fun grant member =>
      BasicSlotgrant.reads_fromBitbuf (sendable.slotGrant grant member)) ?_
    refine finish (reads_flagged _ fun element member =>
      ChanAllocElement.reads_fromBitbuf (sendable.chanAlloc element member)) ?_
    rw [toNat_ne_zero, toNat_ne_zero]
    exact pure _

theorem length_wireOptional (field : Option Nat) (width : Nat) :
    (wireOptional field width).length = if field.isSome then width else 0 := by
  cases field <;> simp [wireOptional]

theorem length_wireFlagged {α : Type} (element : Option α) (wire : α → List Bool) :
    (wireFlagged element wire).length = 1 + ((element.map wire).getD []).length := by
  cases element <;> simp [wireFlagged]

theorem wire_length_ge (pdu : MacResource) : 16 ≤ pdu.wire.length := by
  simp only [wire, length_append, length_bitsOf]
  omega

theorem wire_length_nullPdu (isNull : pdu.isNullPdu = true) : pdu.wire.length = 16 := by
  obtain ⟨noAddr, noLabel, noMarker⟩ := pdu.isNullPdu_iff.mp isNull
  simp [wire, wireElements, isNull, wireAddress, noAddr, noLabel, noMarker, wireOptional]

/-- **The computed header length is the length of what is written.** -/
theorem computeHeaderLen_ok (encodable : pdu.Encodable) :
    pdu.computeHeaderLen = .ok pdu.wire.length := by
  cases isNull : pdu.isNullPdu with
  | true =>
    rw [computeHeaderLen, if_pos isNull, wire_length_nullPdu isNull]
  | false =>
    have notNull : ¬ pdu.isNullPdu = true := by rw [isNull]; decide
    have elements : pdu.wireElements.length = 1 +
        (if pdu.powerControlElement.isSome then 4 else 0) + 1 +
        (if pdu.slotGrantingElement.isSome then 8 else 0) + 1 +
        ((pdu.chanAllocElement.map ChanAllocElement.wire).getD []).length := by
      rw [wireElements, if_neg notNull]
      simp only [length_append, length_wireFlagged]
      cases pdu.powerControlElement <;> cases pdu.slotGrantingElement <;> simp <;> omega
    have total : pdu.wire.length = 16 + (if pdu.eventLabel.isSome then 10 else 0) +
        (if pdu.usageMarker.isSome then 6 else 0) + (if pdu.addr.isSome then 24 else 0) +
        1 + (if pdu.powerControlElement.isSome then 4 else 0) +
        1 + (if pdu.slotGrantingElement.isSome then 8 else 0) +
        1 + ((pdu.chanAllocElement.map ChanAllocElement.wire).getD []).length := by
      simp only [wire, wireAddress, length_append, length_bitsOf, length_wireOptional, isSome_map]
      omega
    rw [computeHeaderLen, if_neg notNull, total]
    cases chanAlloc : pdu.chanAllocElement with
    | none => rfl
    | some element =>
      simp only [computeLen_ok (encodable.chanAlloc element chanAlloc)]
      rfl

/-! ### What a receiver hears -/

@[simp] theorem heard_lengthInd (pdu : MacResource) : pdu.heard.lengthInd = pdu.lengthInd := by
  rw [heard]
  split <;> rfl

theorem heard_chanAlloc (encodable : pdu.Encodable) :
    pdu.heard.chanAllocElement = pdu.chanAllocElement := by
  cases isNull : pdu.isNullPdu with
  | true => rw [heard, if_pos isNull, (encodable.nullPdu_unset isNull).2.2.2]
  | false => rw [heard, if_neg (by rw [isNull]; decide)]

end MacResource

end Bluestation
