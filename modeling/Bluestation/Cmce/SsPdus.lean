/-
**Supplementary services: the PDUs inside a FACILITY message.**

An uplink PDU is read from whole octets, of which the last may be padded; it has to end exactly at the
length that the FACILITY message gives.

* `encodeDgna` — the three commands of dynamic group number assignment.
* `FacilityContent.ofFacility` — what an uplink FACILITY message says.
-/

import Bluestation.Cmce.Lcmc

namespace Bluestation

open Bits

def ssDgna : Nat := 0b010110
def ssCallWaiting : Nat := 0b001011
def ssLastGenericPduType : Nat := 0b00100
def cwActivate : Nat := 0b00101
def cwActivateAck : Nat := 0b00110
def cwDeactivate : Nat := 0b00111
def cwDeactivateAck : Nat := 0b01000
def cwInvoke : Nat := 0b01010
def cwLocationChange : Nat := 0b01100
def cwLocationChangeAck : Nat := 0b01101
def assignPdu : Nat := 0b00111
def assignAckPdu : Nat := 0b01000
def deassignPdu : Nat := 0b01001
def deassignAckPdu : Nat := 0b01010
def interrogateMsGroupsPdu : Nat := 0b10001
def interrogateMsGroupsAckPdu : Nat := 0b10010
def actionAssign : Nat := 1
def actionDeassign : Nat := 2
def actionInterrogate : Nat := 3
def interrogationTypeNotSupported : Nat := 0b110

/-! ### FACILITY messages -/

def padded (bits : List Bool) : List Bool :=
  bits ++ List.replicate ((bits.length + 7) / 8 * 8 - bits.length) false

/-- An uplink message; the PDU is kept in whole octets. -/
structure UFacility where
  routing : Nat
  ssPdu : List Bool
  ssPduBits : Nat

def UFacility.fromBitbuf : BufM UFacility := do
  let pduType ← readField 5 "pdu_type"
  if pduType ≠ 16 then throw (.parse (.invalidPduType 16 pduType))
  let routing ← readField 2 "routing"
  if 1 < routing then throw (.parse (.notImplemented "unsupported U-FACILITY routing"))
  let count ← readField 4 "number_ss_pdus"
  if count ≠ 1 then throw (.parse (.notImplemented "multiple SS PDUs"))
  let bits ← readField 11 "ss_pdu_length"
  if bits = 0 then throw (.parse (.invalidValue "ss_pdu_length" 0))
  let ssPdu ← readField bits "ss_pdu"
  let oBit ← readField 1 "o_bit"
  if oBit ≠ 0 then throw (.parse (.invalidValue "o_bit" oBit))
  pure ⟨routing, padded (bitsOf bits ssPdu), bits⟩

/-- The bits of a downlink message, if the PDU has a length that it can name. -/
def dFacility (ssPdu : List Bool) : Option (List Bool) :=
  if ssPdu.length = 0 ∨ 0x07ff < ssPdu.length then none
  else some (bitsOf 5 16 ++ bitsOf 4 1 ++ bitsOf 11 ssPdu.length ++ ssPdu ++ [false])

/-! ### Encoding -/

def encodeSsNotSupported (ssType : Nat) : List Bool := bitsOf 6 ssType ++ bitsOf 5 0

def encodeCallWaitingResponse (operation : Nat) (accepted active : Bool) (cause : Nat) :
    Option (List Bool) :=
  let header := bitsOf 6 ssCallWaiting ++ bitsOf 5 operation
  if operation = cwActivateAck ∨ operation = cwDeactivateAck then
    some (header ++ [accepted, if accepted then active else cause ≠ 0])
  else if operation = cwLocationChangeAck then some (header ++ bitsOf 2 0)
  else none

def encodeMnemonicName (name : String) : Option (List Nat) :=
  if name.isEmpty ∨ 15 < name.length then none
  else name.toList.mapM fun character => if character.toNat < 256 then some character.toNat else none

/-- A command, if it names what it needs. -/
def encodeDgna (action : Nat) (gssi : Option Nat) (name : Option String)
    (gckSelectNumber : Option Nat) : Option (List Bool) :=
  if action = actionAssign then do
    let gssi ← gssi
    let name ← match name with
      | none => some none
      | some name => (encodeMnemonicName name).map some
    some (bitsOf 6 ssDgna ++ bitsOf 5 assignPdu ++ bitsOf 5 1 ++ bitsOf 24 gssi ++ bitsOf 1 0 ++
      bitsOf 3 0b001 ++ [true, true] ++ bitsOf 3 0 ++ [name.isSome] ++
      name.elim [] (fun name => bitsOf 7 1 ++ bitsOf 8 (name.length * 8) ++ name.flatMap (bitsOf 8)) ++
      [gckSelectNumber.isSome] ++
      gckSelectNumber.elim [] (fun number =>
        bitsOf 6 (19 - 1) ++ [true] ++ bitsOf 17 number ++ [false]) ++
      [false, false, true, false])
  else if action = actionDeassign then do
    let gssi ← gssi
    some (bitsOf 6 ssDgna ++ bitsOf 5 deassignPdu ++ bitsOf 5 1 ++ bitsOf 24 gssi ++
      [false, true, false])
  else if action = actionInterrogate then
    some (bitsOf 6 ssDgna ++ bitsOf 5 interrogateMsGroupsPdu ++ bitsOf 3 0b001 ++ bitsOf 7 10 ++
      [false])
  else none

/-! ### Decoding -/

structure DgnaObservedGroup where
  gssi : Nat
  status : Nat
  name : Option String

structure DecodedDgna where
  action : Nat
  success : Bool
  cause : Nat
  gssi : Option Nat
  groups : List DgnaObservedGroup
  complete : Bool
  sequence : Option Nat

def ssBits (width : Nat) : BitM Unit Nat := take () width

def ssNothing {α : Type} : BitM Unit α := fun _ => .error ()

def ssOnlyIf (condition : Bool) : BitM Unit Unit := fun b =>
  if condition then .ok ((), b) else .error ()

variable (bits : Nat)

def ssEnds : BitM Unit Unit := fun b => if b.getPos = bits then .ok ((), b) else .error ()

/-- Read the octets, which have to be as many as the length says. -/
def ssRead {α : Type} (raw : List Bool) (bits least : Nat) (reader : BitM Unit α) : Option α :=
  if raw.length < (bits + 7) / 8 * 8 ∨ bits < least then none
  else (reader (BitBuffer.ofBits raw)).toOption.map (·.1)

def decodeSsHeader (raw : List Bool) (bits : Nat) : Option (Nat × Nat) :=
  ssRead raw bits 11 do
    let ssType ← ssBits 6
    let operation ← ssBits 5
    pure (ssType, operation)

structure DecodedCallWaiting where
  operation : Nat
  waitingCalls : Nat

def decodeCallWaiting (raw : List Bool) (bits : Nat) : Option DecodedCallWaiting :=
  ssRead raw bits 11 do
    let ssType ← ssBits 6
    ssOnlyIf (ssType = ssCallWaiting)
    let operation ← ssBits 5
    let waitingCalls ←
      if operation = cwActivate ∨ operation = cwDeactivate ∨ operation = cwInvoke then pure 0
      else if operation = cwLocationChange then ssBits 3
      else ssNothing
    ssOnlyIf (operation ≠ cwLocationChange ∨ waitingCalls ≠ 0)
    ssEnds bits
    pure ⟨operation, waitingCalls⟩

def decodeAssignAck : BitM Unit DecodedDgna := do
  let count ← ssBits 5
  ssOnlyIf (count = 1)
  let gssi ← ssBits 24
  let extension ← ssBits 1
  ssOnlyIf (extension = 0)
  let result ← ssBits 2
  let _attachment ← ssBits 1
  let optional ← ssBits 1
  ssOnlyIf (optional = 0)
  ssEnds bits
  pure ⟨actionAssign, result = 1, result, some gssi, [], true, none⟩

def decodeDeassignAck : BitM Unit DecodedDgna := do
  let count ← ssBits 5
  ssOnlyIf (count = 1)
  let gssi ← ssBits 24
  let extension ← ssBits 1
  ssOnlyIf (extension = 0)
  let result ← ssBits 2
  let complete ← ssBits 1
  let optional ← ssBits 1
  ssOnlyIf (optional = 0)
  ssEnds bits
  pure ⟨actionDeassign, result = 1 ∧ complete ≠ 0, result, some gssi, [], complete ≠ 0, none⟩

/-- The groups of one part. -/
def decodeObservedGroups : Nat → BitM Unit (List DgnaObservedGroup)
  | 0 => pure []
  | count + 1 => do
    let gssi ← ssBits 24
    let extension ← ssBits 1
    ssOnlyIf (extension = 0)
    let status ← ssBits 3
    let rest ← decodeObservedGroups count
    pure (⟨gssi, status, none⟩ :: rest)

def ssFlagged {α : Type} (reader : BitM Unit α) : BitM Unit (Option α) := do
  let flag ← ssBits 1
  if flag = 0 then pure none else do
    let value ← reader
    pure (some value)

def decodeGroupCount : BitM Unit (List DgnaObservedGroup) := do
  let count ← ssBits 5
  decodeObservedGroups count

def decodeInterrogateAck : BitM Unit DecodedDgna := do
  let kind ← ssBits 3
  ssOnlyIf (kind = 0b001)
  let result ← ssBits 3
  let complete ← ssBits 1
  let hasOptional ← ssBits 1
  if hasOptional = 0 then do
    ssEnds bits
    pure ⟨actionInterrogate, result = 1, result, none, [], complete ≠ 0, none⟩
  else do
    let groups ← ssFlagged decodeGroupCount
    let sequence ← ssFlagged (ssBits 6)
    let affectedUser ← ssBits 1
    ssOnlyIf (affectedUser = 0)
    let further ← ssBits 1
    ssOnlyIf (further = 0)
    ssEnds bits
    pure ⟨actionInterrogate, result = 1, result, none, groups.getD [], complete ≠ 0, sequence⟩

def decodeDgna (raw : List Bool) (bits : Nat) : Option DecodedDgna :=
  ssRead raw bits 12 do
    let ssType ← ssBits 6
    ssOnlyIf (ssType = ssDgna)
    let operation ← ssBits 5
    if operation = assignAckPdu then decodeAssignAck bits
    else if operation = deassignAckPdu then decodeDeassignAck bits
    else if operation = interrogateMsGroupsAckPdu then decodeInterrogateAck bits
    else ssNothing

/-- What an uplink message says. -/
inductive FacilityContent where
  | callWaiting (decoded : DecodedCallWaiting)
  | otherService (ssType operation : Nat)
  | dgna (decoded : DecodedDgna)
  | unsupported

def FacilityContent.ofFacility (facility : UFacility) : FacilityContent :=
  match decodeCallWaiting facility.ssPdu facility.ssPduBits with
  | some decoded => callWaiting decoded
  | none =>
    match (decodeSsHeader facility.ssPdu facility.ssPduBits).filter (·.1 ≠ ssDgna) with
    | some (ssType, operation) => otherService ssType operation
    | none =>
      match decodeDgna facility.ssPdu facility.ssPduBits with
      | some decoded => dgna decoded
      | none => unsupported

/-! ### What a reader can give -/

def Yields {α : Type} (reader : BitM Unit α) (property : α → Prop) : Prop :=
  ∀ b value after, reader b = .ok (value, after) → property value

variable {α β : Type} {property : β → Prop}

theorem Yields.pure {value : β} (holds : property value) : Yields (Pure.pure value) property := by
  intro b given after result
  cases result
  exact holds

variable {next : α → BitM Unit β} {reader : BitM Unit α}

theorem Yields.bind {given : α → Prop}
    (first : Yields reader given) (second : ∀ value, given value → Yields (next value) property) :
    Yields (reader >>= next) property := by
  intro b value after result
  change (reader b).bind (fun step => next step.1 step.2) = .ok (value, after) at result
  cases read : reader b with
  | error fault =>
    rw [read] at result
    cases result
  | ok step =>
    rw [read] at result
    exact second step.1 (first b step.1 step.2 read) step.2 value after result

/-- A step whose result does not matter. -/
theorem Yields.step
    (yields : ∀ value, Yields (next value) property) : Yields (reader >>= next) property :=
  @Yields.bind _ _ _ _ _ (fun _ => True) (fun _ _ _ _ => trivial) fun value _ => yields value

theorem Yields.ite {condition : Prop} [Decidable condition] {reader other : BitM Unit β}
    (first : condition → Yields reader property) (second : ¬ condition → Yields other property) :
    Yields (if condition then reader else other) property := by
  split
  · exact first ‹_›
  · exact second ‹_›

theorem Yields.ssRead {raw : List Bool} {bits least : Nat} {reader : BitM Unit β} {value : β}
    (yields : Yields reader property) (read : ssRead raw bits least reader = some value) :
    property value := by
  unfold Bluestation.ssRead at read
  split at read
  · cases read
  · cases result : reader (.ofBits raw) with
    | error fault =>
      rw [result] at read
      cases read
    | ok step =>
      rw [result] at read
      cases read
      exact yields _ step.1 step.2 result

theorem ssBits_lt (width : Nat) : Yields (ssBits width) (· < 2 ^ width) := by
  intro b value after result
  unfold ssBits take at result
  split at result
  · cases result
    refine (valueOf_lt _).trans_le (Nat.pow_le_pow_right Nat.two_pos ?_)
    exact List.length_take_le ..
  · cases result

/-- **A part number has six bits.** -/
theorem decodeInterrogateAck_sequence : Yields (decodeInterrogateAck bits)
    fun decoded => decoded.action = actionInterrogate ∧ decoded.gssi = none ∧
      ∀ sequence ∈ decoded.sequence, sequence < 64 := by
  refine .step fun kind => .step fun _ => .step fun result => .step fun complete =>
    .step fun hasOptional => .ite (fun _ => ?_) fun _ => ?_
  · refine .step fun _ => .pure ⟨rfl, rfl, ?_⟩
    exact nofun
  · refine .step fun groups => @Yields.bind _ _ _ _ _
      (fun sequence => ∀ number ∈ sequence, number < 64) ?_ fun sequence small => ?_
    · refine .step fun flag => .ite (fun _ => ?_) fun _ => ?_
      · exact .pure nofun
      · refine .bind (ssBits_lt 6) fun number small => .pure ?_
        intro other same
        cases same
        exact small
    · refine .step fun _ => .step fun _ => .step fun _ => .step fun _ =>
        .step fun _ => .pure ⟨rfl, rfl, small⟩

/-- **What a decoded answer can be.** -/
theorem decodeDgna_sequence {raw : List Bool} {bits : Nat} {decoded : DecodedDgna}
    (read : decodeDgna raw bits = some decoded) : ∀ sequence ∈ decoded.sequence, sequence < 64 := by
  have yields : Yields (do
      let ssType ← ssBits 6
      ssOnlyIf (ssType = ssDgna)
      let operation ← ssBits 5
      if operation = assignAckPdu then decodeAssignAck bits
      else if operation = deassignAckPdu then decodeDeassignAck bits
      else if operation = interrogateMsGroupsAckPdu then decodeInterrogateAck bits
      else ssNothing) fun decoded => ∀ sequence ∈ decoded.sequence, sequence < 64 := by
    refine .step fun _ => .step fun _ =>
      .step fun operation => .ite (fun _ => ?_) fun _ => .ite (fun _ => ?_) fun _ =>
      .ite (fun _ => ?_) fun _ => ?_
    · exact .step fun _ => .step fun _ => .step fun _ => .step fun _ => .step fun _ => .step fun _ =>
        .step fun _ => .step fun _ => .step fun _ => .step fun _ => .pure nofun
    · exact .step fun _ => .step fun _ => .step fun _ => .step fun _ => .step fun _ => .step fun _ =>
        .step fun _ => .step fun _ => .step fun _ => .step fun _ => .pure nofun
    · intro b value after result
      exact (decodeInterrogateAck_sequence bits b value after result).2.2
    · exact fun _ _ _ never => nomatch never
  exact yields.ssRead read

end Bluestation
