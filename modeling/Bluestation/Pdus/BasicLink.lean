/-
**The headers of the basic link.**

Four PDUs, each with or without a check sequence: data (BL-DATA), data with an acknowledgement
(BL-ADATA), data that nobody acknowledges (BL-UDATA), and a bare acknowledgement (BL-ACK).

* `BlHeader.reads_fromBitbuf` — the header of each is read back, whatever follows it.
-/

import Bluestation.Core.Fields

namespace Bluestation

open Bits Reads

/-- The type of a PDU, its first four bits. -/
inductive LlcPduType where
  | blAdata | blData | blUdata | blAck | blAdataFcs | blDataFcs | blUdataFcs | blAckFcs
  | alSetup | alDataAlFinal | alAlUdataAlUfinal | alAckAlRnr | alReconnect
  | suppLlcPdu | l2SigPdu | alDisc
deriving DecidableEq

def LlcPduType.tryFrom : Nat → Option LlcPduType
  | 0 => some .blAdata
  | 1 => some .blData
  | 2 => some .blUdata
  | 3 => some .blAck
  | 4 => some .blAdataFcs
  | 5 => some .blDataFcs
  | 6 => some .blUdataFcs
  | 7 => some .blAckFcs
  | 8 => some .alSetup
  | 9 => some .alDataAlFinal
  | 10 => some .alAlUdataAlUfinal
  | 11 => some .alAckAlRnr
  | 12 => some .alReconnect
  | 13 => some .suppLlcPdu
  | 14 => some .l2SigPdu
  | 15 => some .alDisc
  | _ => none

def LlcPduType.isBasic : LlcPduType → Bool
  | .blAdata | .blData | .blUdata | .blAck | .blAdataFcs | .blDataFcs | .blUdataFcs | .blAckFcs =>
    true
  | _ => false

def expectValue (name : String) (expected found : Nat) : BufM Unit :=
  if found = expected then pure () else throw (.parse (.invalidValue name found))

theorem reads_expectValue (name : String) (expected : Nat) :
    Reads (expectValue name expected expected) [] () := by
  unfold expectValue
  rw [if_pos rfl]
  exact pure ()

/-- The link type, the check-sequence flag and the type on the basic link. -/
def readBlType (blPduType : Nat) : BufM Bool := do
  let llcLinkType ← readField 1 "llc_link_type"
  expectValue "llc_link_type" 0 llcLinkType
  let hasFcs ← readField 1 "has_fcs"
  let found ← readField 2 "bl_pdu_type"
  expectValue "bl_pdu_type" blPduType found
  pure (hasFcs != 0)

def wireBlType (hasFcs : Bool) (blPduType : Nat) : List Bool :=
  bitsOf 1 0 ++ (bitsOf 1 hasFcs.toNat ++ bitsOf 2 blPduType)

theorem reads_readBlType (hasFcs : Bool) {blPduType : Nat} (fits : blPduType < 4) :
    Reads (readBlType blPduType) (wireBlType hasFcs blPduType) hasFcs := by
  refine .field (by decide) ?_
  refine check (reads_expectValue _ 0) ?_
  refine .field (Bool.toNat_lt _) ?_
  refine finish (reads_readField _ fits) ?_
  refine check (reads_expectValue _ blPduType) ?_
  rw [toNat_ne_zero]
  exact pure _

/-! ### The PDUs -/

structure BlAck where
  hasFcs : Bool
  nr : Nat

namespace BlAck

def fromBitbuf : BufM BlAck := do
  let hasFcs ← readBlType 3
  let nr ← readField 1 "nr"
  pure ⟨hasFcs, nr⟩

def wire (pdu : BlAck) : List Bool := wireBlType pdu.hasFcs 3 ++ bitsOf 1 pdu.nr

theorem reads_fromBitbuf (pdu : BlAck) (sequence : pdu.nr < 2) : Reads fromBitbuf pdu.wire pdu := by
  refine bind (reads_readBlType _ (by decide)) ?_
  exact finish (reads_readField _ sequence) (pure _)

end BlAck

structure BlAdata where
  hasFcs : Bool
  nr : Nat
  ns : Nat

namespace BlAdata

def fromBitbuf : BufM BlAdata := do
  let hasFcs ← readBlType 0
  let nr ← readField 1 "nr"
  let ns ← readField 1 "ns"
  pure ⟨hasFcs, nr, ns⟩

def wire (pdu : BlAdata) : List Bool :=
  wireBlType pdu.hasFcs 0 ++ (bitsOf 1 pdu.nr ++ bitsOf 1 pdu.ns)

theorem reads_fromBitbuf (pdu : BlAdata) (received : pdu.nr < 2) (sent : pdu.ns < 2) :
    Reads fromBitbuf pdu.wire pdu := by
  refine bind (reads_readBlType _ (by decide)) ?_
  refine .field received ?_
  exact finish (reads_readField _ sent) (pure _)

end BlAdata

structure BlData where
  hasFcs : Bool
  ns : Nat

namespace BlData

def fromBitbuf : BufM BlData := do
  let hasFcs ← readBlType 1
  let ns ← readField 1 "ns"
  pure ⟨hasFcs, ns⟩

def wire (pdu : BlData) : List Bool := wireBlType pdu.hasFcs 1 ++ bitsOf 1 pdu.ns

theorem reads_fromBitbuf (pdu : BlData) (sequence : pdu.ns < 2) : Reads fromBitbuf pdu.wire pdu := by
  refine bind (reads_readBlType _ (by decide)) ?_
  exact finish (reads_readField _ sequence) (pure _)

end BlData

structure BlUdata where
  hasFcs : Bool

namespace BlUdata

def fromBitbuf : BufM BlUdata := do
  let hasFcs ← readBlType 2
  pure ⟨hasFcs⟩

def wire (pdu : BlUdata) : List Bool := wireBlType pdu.hasFcs 2

theorem reads_fromBitbuf (pdu : BlUdata) : Reads fromBitbuf pdu.wire pdu :=
  finish (reads_readBlType _ (by decide)) (pure _)

end BlUdata

/-! ### A received header -/

/-- Whether there is a check sequence, and the sequence numbers, as far as the PDU has them. -/
structure BlHeader where
  hasFcs : Bool
  ns : Option Nat
  nr : Option Nat
deriving DecidableEq

namespace BlHeader

/-- Read the header of a PDU whose type is known. -/
def fromBitbuf : LlcPduType → BufM BlHeader
  | .blAdata | .blAdataFcs => do
    let pdu ← BlAdata.fromBitbuf
    pure ⟨pdu.hasFcs, some pdu.ns, some pdu.nr⟩
  | .blData | .blDataFcs => do
    let pdu ← BlData.fromBitbuf
    pure ⟨pdu.hasFcs, some pdu.ns, none⟩
  | .blAck | .blAckFcs => do
    let pdu ← BlAck.fromBitbuf
    pure ⟨pdu.hasFcs, none, some pdu.nr⟩
  | .blUdata | .blUdataFcs => do
    let pdu ← BlUdata.fromBitbuf
    pure ⟨pdu.hasFcs, none, none⟩
  | _ => throw .panic

/-- The type and the bits of a header. -/
def wire (header : BlHeader) : LlcPduType × List Bool :=
  match header.ns, header.nr with
  | some ns, some nr =>
    (if header.hasFcs then .blAdataFcs else .blAdata, (BlAdata.mk header.hasFcs nr ns).wire)
  | some ns, none => (if header.hasFcs then .blDataFcs else .blData, (BlData.mk header.hasFcs ns).wire)
  | none, some nr => (if header.hasFcs then .blAckFcs else .blAck, (BlAck.mk header.hasFcs nr).wire)
  | none, none => (if header.hasFcs then .blUdataFcs else .blUdata, (BlUdata.mk header.hasFcs).wire)

/-- **A header whose sequence numbers are one bit is read back.** -/
theorem reads_fromBitbuf (header : BlHeader) (sent : ∀ ns ∈ header.ns, ns < 2)
    (received : ∀ nr ∈ header.nr, nr < 2) :
    Reads (fromBitbuf header.wire.1) header.wire.2 header := by
  obtain ⟨hasFcs, ns, nr⟩ := header
  cases ns with
  | none =>
    cases nr with
    | none =>
      cases hasFcs <;> exact finish (BlUdata.reads_fromBitbuf _) (pure _)
    | some nr =>
      have numbers := received nr rfl
      cases hasFcs <;> exact finish (BlAck.reads_fromBitbuf _ numbers) (pure _)
  | some ns =>
    have sequence := sent ns rfl
    cases nr with
    | none =>
      cases hasFcs <;> exact finish (BlData.reads_fromBitbuf _ sequence) (pure _)
    | some nr =>
      have numbers := received nr rfl
      cases hasFcs <;>
        exact finish (BlAdata.reads_fromBitbuf _ numbers sequence) (pure _)

end BlHeader

end Bluestation
