/-
**Short data: user data, pre-coded status, and the downlink PDUs that carry them.**

The optional elements of type 3 are put by the air-interface library, which is a parameter here. All
other fields are put as the PDUs put them.

* `SdsUserData.ofWire` — user data from the network, if kind, length and octets agree.
* `DSdsData.toBitbuf`, `DStatus.toBitbuf` — the downlink PDUs.
-/

import Bluestation.Cmce.Lcmc
import Bluestation.Config.DmGateways

namespace Bluestation

open Bits

/-! ### User data -/

inductive SdsUserData where
  | type1 (value : Nat)
  | type2 (value : Nat)
  | type3 (value : Nat)
  | type4 (lengthBits : Nat) (data : List Nat)

def fromBeBytes (data : List Nat) : Nat := data.foldl (fun value byte => value * 256 + byte) 0

def toBeBytes (count value : Nat) : List Nat :=
  (List.range count).reverse.map fun place => value / 256 ^ place % 256

namespace SdsUserData

def typeIdentifier : SdsUserData → Nat
  | type1 _ => 0
  | type2 _ => 1
  | type3 _ => 2
  | type4 _ _ => 3

def lengthBits : SdsUserData → Nat
  | type1 _ => 16
  | type2 _ => 32
  | type3 _ => 64
  | type4 lengthBits _ => lengthBits

def toArr : SdsUserData → List Nat
  | type1 value => toBeBytes 2 value
  | type2 value => toBeBytes 4 value
  | type3 value => toBeBytes 8 value
  | type4 _ data => data

/-- The octets that the length names are there; the encoder panics if one is missing. -/
def whole : SdsUserData → Bool
  | type4 lengthBits data => (lengthBits + 7) / 8 ≤ data.length
  | _ => true

/-- User data from the network, if kind, length and octets agree. -/
def ofWire (dataType lengthBits : Nat) (data : List Nat) : Option SdsUserData :=
  match dataType with
  | 0 => if lengthBits = 16 ∧ data.length = 2 then some (type1 (fromBeBytes data)) else none
  | 1 => if lengthBits = 32 ∧ data.length = 4 then some (type2 (fromBeBytes data)) else none
  | 2 => if lengthBits = 64 ∧ data.length = 8 then some (type3 (fromBeBytes data)) else none
  | 3 => if data.length = (lengthBits + 7) / 8 then some (type4 lengthBits data) else none
  | _ => none

/-- The protocol and the reference that a failure report repeats. -/
def sdsTlContext : SdsUserData → Option Nat × Option Nat
  | type4 _ bytes =>
    if 3 ≤ bytes.length ∧ 0x80 ≤ bytes.getD 0 0 then (bytes[0]?, bytes[2]?) else (none, none)
  | _ => (none, none)

/-- The field of the user data; the last octet of type 4 gives its highest bits. -/
def field : SdsUserData → List Bool
  | type1 value => bitsOf 16 value
  | type2 value => bitsOf 32 value
  | type3 value => bitsOf 64 value
  | type4 lengthBits data =>
    bitsOf 11 lengthBits ++ (data.flatMap (bitsOf 8)).take lengthBits

end SdsUserData

/-! ### Pre-coded status -/

inductive PreCodedStatus where
  | emergency
  | reserved (value : Nat)
  | sdsTl (shortReportType messageReference : Nat)
  | networkUserSpecific (value : Nat)

namespace PreCodedStatus

/-- The number 31743 is taken for a short report and is none: reading it panics. -/
def ofRaw (value : Nat) : Except Fault PreCodedStatus :=
  if value = 0 then .ok .emergency
  else if value ≤ 31742 then .ok (.reserved value)
  else if value ≤ 32767 then
    if value / 1024 = 31 then .ok (.sdsTl (value / 256 % 4) (value % 256)) else .error .panic
  else .ok (.networkUserSpecific value)

def intoRaw : PreCodedStatus → Nat
  | emergency => 0
  | reserved value => value
  | sdsTl shortReportType messageReference => 31744 + shortReportType * 256 + messageReference
  | networkUserSpecific value => value

theorem intoRaw_ofRaw {value : Nat} {status : PreCodedStatus} (read : ofRaw value = .ok status) :
    status.intoRaw = value := by
  unfold ofRaw at read
  by_cases zero : value = 0
  · rw [if_pos zero] at read
    cases read
    exact zero.symm
  rw [if_neg zero] at read
  by_cases low : value ≤ 31742
  · rw [if_pos low] at read
    cases read
    rfl
  rw [if_neg low] at read
  by_cases short : value ≤ 32767
  · rw [if_pos short] at read
    by_cases report : value / 1024 = 31
    · rw [if_pos report] at read
      cases read
      show 31744 + value / 256 % 4 * 256 + value % 256 = value
      omega
    · rw [if_neg report] at read
      cases read
  · rw [if_neg short] at read
    cases read
    rfl

end PreCodedStatus

/-! ### Addresses behind a gateway -/

structure Type3FieldGeneric where
  fieldId : Nat
  len : Nat
  data : Nat
  raw : List Nat

/-- The bits of an address, if all its parts are in range. -/
def DmMsRouteAddress.toBitbuf (address : DmMsRouteAddress) : Option (List Bool) :=
  if 0x00ffffff < address.ssi then none
  else match address.mcc, address.mnc with
    | none, none => some (false :: bitsOf 24 address.ssi)
    | some mcc, some mnc =>
      if 0x03ff < mcc ∨ 0x3fff < mnc then none
      else some (true :: bitsOf 24 address.ssi ++ bitsOf 10 mcc ++ bitsOf 14 mnc)
    | _, _ => none

def dmMsType3 (address : DmMsRouteAddress) : Option Type3FieldGeneric :=
  address.toBitbuf.map fun bits => ⟨6, bits.length, valueOf bits, []⟩

/-! ### Downlink PDUs -/

/-- How the air-interface library puts an optional element of type 3, given its identifier. -/
abbrev WriteType3 : Type := Option Type3FieldGeneric → Nat → Except PduParseErr (List Bool)

variable (writeType3Generic : WriteType3)

/-- The optional part of a PDU: nothing behind a cleared flag, or both elements and a closing bit. -/
def optionalElements (externalSubscriberNumber dmMsAddress : Option Type3FieldGeneric) :
    Except PduParseErr (List Bool) :=
  if externalSubscriberNumber.isSome || dmMsAddress.isSome then do
    let external ← writeType3Generic externalSubscriberNumber 2
    let address ← writeType3Generic dmMsAddress 6
    pure (true :: external ++ address ++ [false])
  else pure [false]

structure DSdsData where
  callingPartyTypeIdentifier : Nat
  callingPartyAddressSsi : Option Nat
  callingPartyExtension : Option Nat
  userDefinedData : SdsUserData
  externalSubscriberNumber : Option Type3FieldGeneric
  dmMsAddress : Option Type3FieldGeneric

structure DStatus where
  callingPartyTypeIdentifier : Nat
  callingPartyAddressSsi : Option Nat
  callingPartyExtension : Option Nat
  preCodedStatus : PreCodedStatus
  externalSubscriberNumber : Option Type3FieldGeneric
  dmMsAddress : Option Type3FieldGeneric

def callingParty (pduType typeIdentifier : Nat) (ssi extension : Option Nat) : List Bool :=
  bitsOf 5 pduType ++ bitsOf 2 typeIdentifier ++ (ssi.elim [] (bitsOf 24)) ++
    extension.elim [] (bitsOf 24)

def DSdsData.toBitbuf (pdu : DSdsData) :
    Except PduParseErr (List Bool) := do
  let optional ← optionalElements writeType3Generic pdu.externalSubscriberNumber pdu.dmMsAddress
  pure (callingParty 15 pdu.callingPartyTypeIdentifier pdu.callingPartyAddressSsi
    pdu.callingPartyExtension ++ bitsOf 2 pdu.userDefinedData.typeIdentifier ++
    pdu.userDefinedData.field ++ optional)

def DStatus.toBitbuf (pdu : DStatus) :
    Except PduParseErr (List Bool) := do
  let optional ← optionalElements writeType3Generic pdu.externalSubscriberNumber pdu.dmMsAddress
  pure (callingParty 8 pdu.callingPartyTypeIdentifier pdu.callingPartyAddressSsi
    pdu.callingPartyExtension ++ bitsOf 16 pdu.preCodedStatus.intoRaw ++ optional)

end Bluestation
