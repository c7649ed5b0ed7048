/-
**Cell reselection: the PDUs of the roaming procedures.**

* `UPrepare.fromBitbuf`, `URestore.fromBitbuf` — a terminal prepares another cell, or restores a call.
* `prepareOutcome` — what a U-PREPARE asks for.
* `dNewCell`, `dPrepareFail`, `dRestoreAck`, `dRestoreFail` — the answers, by their bits.
-/

import Bluestation.Mm.State

namespace Bluestation

open Bits

/-! ### Uplink -/

def readObit : BufM Bool := do
  let bit ← readField 1 "obit"
  pure (bit = 1)

def readMbit : BufM Bool := do
  let bit ← readField 1 "mbit"
  pure (bit = 1)

def parseType2Generic (obit : Bool) (width : Nat) (name : String) : BufM (Option Nat) :=
  if obit then readFlagged "pbit" (readField width name) else pure none

def readEmbedded : BufM (Option (List Bool)) := fun b =>
  let bits := b.getLenRemaining - 1
  if 0 < bits then .ok (some (b.unread.take bits), b.skip bits) else .ok (none, b)

def readTrailing (obit : Bool) : BufM Unit :=
  if obit then do
    let mbit ← readMbit
    if mbit then throw (.parse (.invalidValue "trailing_mbit" 1)) else pure ()
  else pure ()

structure UPrepare where
  cellIdentifierCa : Option Nat
  sdu : Option (List Bool)

def UPrepare.fromBitbuf : BufM UPrepare := do
  let pduType ← readField 3 "pdu_type"
  if pduType ≠ 0 then throw (.parse (.invalidPduType 0 pduType))
  let obit ← readObit
  let cellIdentifierCa ← parseType2Generic obit 5 "cell_identifier_ca"
  let sdu ← if cellIdentifierCa.isSome then readEmbedded else pure none
  readTrailing obit
  pure ⟨cellIdentifierCa, sdu⟩

structure URestore where
  mcc : Option Nat
  mnc : Option Nat
  la : Option Nat
  sdu : Option (List Bool)

def URestore.fromBitbuf : BufM URestore := do
  let pduType ← readField 3 "pdu_type"
  if pduType ≠ 4 then throw (.parse (.invalidPduType 4 pduType))
  let obit ← readObit
  let mcc ← parseType2Generic obit 10 "mcc"
  let mnc ← parseType2Generic obit 14 "mnc"
  let la ← parseType2Generic obit 14 "la"
  let sdu ← if obit then readEmbedded else pure none
  readTrailing obit
  pure ⟨mcc, mnc, la, sdu⟩

def peekBits (sdu : List Bool) (width : Nat) : Option Nat :=
  if width ≤ sdu.length then some (valueOf (sdu.take width)) else none

def uLocationUpdateDemandType : Nat := 2
def dLocationUpdateAcceptType : Nat := 5
def dLocationUpdateRejectType : Nat := 7

/-- What a U-PREPARE asks for. -/
inductive PrepareOutcome where
  | fail
  | newCell
  | forward (targetStationId : String) (embeddedMm : List Bool)

/-- A U-PREPARE with a message is forwarded if that is a demand for a location update of the right
type, as `demandType` reads it. -/
def prepareOutcome (neighbourStationId : Nat → Option String)
    (demandType : List Bool → Option LocationUpdateType) (sdu : List Bool) : PrepareOutcome :=
  match UPrepare.fromBitbuf (BitBuffer.ofBits sdu) with
  | .error _ => .fail
  | .ok (pdu, _) =>
    match pdu.cellIdentifierCa with
    | none => .newCell
    | some cellIdentifierCa =>
      match neighbourStationId cellIdentifierCa with
      | none => .fail
      | some targetStationId =>
        match pdu.sdu with
        | none => .newCell
        | some embeddedMm =>
          if peekBits embeddedMm 4 = some uLocationUpdateDemandType ∧
              demandType embeddedMm = some .serviceRestorationRoamingLocationUpdating then
            .forward targetStationId embeddedMm
          else .fail

/-! ### Downlink -/

def mleDiscriminator : List Bool := bitsOf 3 5
def mmDiscriminator : List Bool := bitsOf 3 1
def cmceDiscriminator : List Bool := bitsOf 3 2

def dNewCell (channelCommandValid : Nat) (sdu : Option (List Bool)) : Option (List Bool) :=
  if 2 < channelCommandValid then none
  else some (bitsOf 3 0 ++ bitsOf 2 channelCommandValid ++ [sdu.isSome] ++ sdu.getD [] ++ [false])

theorem dNewCell_some {channelCommandValid : Nat} (valid : channelCommandValid ≤ 2)
    (sdu : Option (List Bool)) : dNewCell channelCommandValid sdu ≠ none := by
  unfold dNewCell
  rw [if_neg (Nat.not_lt.mpr valid)]
  exact Option.some_ne_none _

def dPrepareFail (failCause : Nat) (sdu : Option (List Bool)) : List Bool :=
  bitsOf 3 1 ++ bitsOf 2 failCause ++ [sdu.isSome] ++ sdu.getD [] ++ [false]

def dRestoreAck (sdu : List Bool) : List Bool := bitsOf 3 4 ++ [false] ++ sdu

def dRestoreFail (failCause : Nat) : List Bool := bitsOf 3 5 ++ bitsOf 2 failCause ++ [false]

end Bluestation
