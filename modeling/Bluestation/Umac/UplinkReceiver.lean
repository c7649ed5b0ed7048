/-
**The uplink side of the base station's MAC.**

A block that was received without error is taken apart PDU by PDU. A MAC-ACCESS and a MAC-DATA hand
their SDU to the LLC, or file it as a first fragment; a MAC-FRAG and a MAC-END carry no address and
belong to whoever owns the slot.

* `rxMacData`, `rxMacAccess`, `rxMacFragUl`, `rxMacEndUl`, `rxMacEndHu` — the handlers.
* `rxTmvSch` — the loop over the PDUs of a block.
* `rxTmvPrim`, `resumeSc3Access` — the two ways a block gets there: from the LMAC, or from among the
  accesses put off until a key arrived.

What the handlers ask of the scheduler, the LMAC and the key store is noted as `UplinkSignal`s. Radio
measurements and the statistics of random access are left out.
-/

import Bluestation.Pdus.MacUplink
import Bluestation.Umac.DownlinkReceiver
import Bluestation.Umac.BsDefrag
import Bluestation.Umac.UplinkSchedule

namespace Bluestation

open Bits

inductive LogicalChannel where
  | aach | schHd | schF | stch | schHu | tchS | tch24 | tch48 | tch72 | bsch | bnch | blch | clch
deriving DecidableEq

inductive AieContextError where
  | sc2Disabled | sc3Disabled | dckNotProvisioned (issi : Nat) | dckExpired (issi : Nat)
  | gckNotProvisioned (gssi : Nat) | subjectNotProvisioned | unsupportedSubject | staleKeyIdentity
  | invalidContext | cryptoInput
deriving DecidableEq

namespace AieRequest

def isEncrypted {Key : Type} : AieRequest Key → Bool
  | clear _ _ => false
  | sc2 _ _ | sc3 _ _ _ => true

@[simp] theorem withScope_withScope {Key : Type} (request : AieRequest Key)
    (first second : AieScope) :
    (request.withScope first).withScope second = request.withScope second := by
  cases request <;> rfl

end AieRequest

/-- A block as the LMAC hands it on. -/
structure TmvUnitdataInd where
  pdu : BitBuffer
  blockNum : PhyBlockNum
  logicalChannel : LogicalChannel
  ulTime : TdmaTime
  scramblingCode : Nat

/-- An SDU for the LLC. -/
structure TmaUnitdataInd (Key : Type) where
  pdu : List Bool
  mainAddress : TetraAddress
  scramblingCode : Nat
  endpointId : Nat
  airInterfaceEncryption : AieRequest Key

/-- What a handler asks of other parts. -/
inductive UplinkSignal (Key : Type) where
  | capacityRequest (ulTime : TdmaTime) (addr : TetraAddress) (resReq : ReservationRequirement)
      (continuesFragment : Bool)
  | clearPendingPacketDataCapacity (issi : Nat) (ulTime : TdmaTime)
  | randomAccessAck (timeslot : Nat) (addr : TetraAddress) (aieRequest : AieRequest Key)
  | secondHalfStolen
  | requestSc3Dck (issi : Nat)

structure PendingSc3Access where
  issi : Nat
  expiresAt : TdmaTime
  message : TmvUnitdataInd

/-- What the handlers find around them while one block is taken apart: the cipher provider, the
uplink schedule, the event labels, the state of the timeslots and the time. -/
structure Surroundings (Key Context : Type) where
  /-- The cipher context of a policy in the uplink of a slot. -/
  resolve : AieRequest Key → TdmaTime → Except AieContextError Context
  resolveAssignedUplinkContext : (issi : Nat) → TdmaTime → AieScope → Except AieContextError Context
  resolveUplinkEsi : (esi : Nat) → TdmaTime → AieScope → Except AieContextError (Nat × Context)
  bindUnboundUplinkEsi : (esi : Nat) → TdmaTime → AieScope → Except AieContextError (Nat × Context)
  /-- The key stream of a context, for a number of bits. -/
  keyStream : Context → (len : Nat) → Except AieContextError (Nat → Bool)
  /-- The key of a context of security class 3. -/
  sc3Key : Context → Option Key
  clearUplinkAllowed : (issi : Nat) → Bool
  hasSc3Dck : (issi : Nat) → Bool
  schedule : UplinkSchedule
  getAddrByLabel : (label : Nat) → Option TetraAddress
  packetBearerIsActive : (timeslot : Nat) → Bool
  /-- A downlink circuit is active on the timeslot, and not in hangtime. -/
  inActiveOver : (timeslot : Nat) → Bool
  trafficFloorHolder : (timeslot : Nat) → Option Nat
  uplinkTrafficAie : (timeslot : Nat) → Option (AieRequest Key)
  dltime : TdmaTime

/-- The part of the MAC that the uplink handlers change, with what they have passed on so far. -/
structure UmacBs (Key : Type) where
  defrag : BsDefrag Key
  pendingSc3Access : List PendingSc3Access
  signals : List (UplinkSignal Key)
  queue : List (TmaUnitdataInd Key)
  /-- Of the messages in `queue`, those that a MAC-END completed. -/
  reassembled : List (TmaUnitdataInd Key)

variable {Key Context : Type}

namespace UmacBs

def new : UmacBs Key := ⟨.new, [], [], [], []⟩

def signal (umac : UmacBs Key) (signal : UplinkSignal Key) : UmacBs Key :=
  { umac with signals := umac.signals ++ [signal] }

def pushBack (umac : UmacBs Key) (ind : TmaUnitdataInd Key) : UmacBs Key :=
  { umac with queue := umac.queue ++ [ind] }

def pushReassembled (umac : UmacBs Key) (ind : TmaUnitdataInd Key) : UmacBs Key :=
  { umac.pushBack ind with reassembled := umac.reassembled ++ [ind] }

end UmacBs

/-! ### Steps that the handlers share -/

/-- Read a header; a parse error makes the handler return. -/
def parsed {α : Type} (reader : BufM α) (block : BitBuffer) : Except Fault (Option (α × BitBuffer)) :=
  match reader block with
  | .ok found => .ok (some found)
  | .error (.parse _) => .ok none
  | .error .panic => .error .panic

/-- The bits left in the window; a position behind its end makes the subtraction fail. -/
def lenRemaining (block : BitBuffer) : Except Fault Nat := do
  assertThat (block.pos ≤ block.stop)
  pure block.getLenRemaining

/-- Let the window end with the PDU, less its fill bits. -/
def stripFill (fillBits : Bool) (pduLenBits : Nat) (block : BitBuffer) : Except Fault BitBuffer := do
  let numFillBits ← Receiver.numFillBits fillBits block pduLenBits
  assertThat (numFillBits ≤ pduLenBits)
  pure { block with stop := block.start + (pduLenBits - numFillBits) }

def advance (block cropped : BitBuffer) (pduLenBits : Nat) : BitBuffer :=
  { cropped with
    start := block.start + pduLenBits
    pos := block.start + pduLenBits
    stop := block.stop }

def xorStream (stream : Nat → Bool) (bits : List Bool) : List Bool :=
  bits.mapIdx fun index bit => bit ^^ stream index

@[simp] theorem length_xorStream (stream : Nat → Bool) (bits : List Bool) :
    (xorStream stream bits).length = bits.length := by
  simp [xorStream]

namespace Surroundings

variable (air : Surroundings Key Context)

/-- Cipher the rest of the window; there is nothing to do for an empty one. -/
def cipherUplinkMac (context : Context) (block : BitBuffer) :
    Except Fault (Except AieContextError BitBuffer) := do
  let len ← lenRemaining block
  if len = 0 then pure (.ok block)
  else
    match air.keyStream context len with
    | .error error => pure (.error error)
    | .ok stream => pure (.ok { block.put (xorStream stream block.unread) with pos := block.pos })

def cipherField (context : Option Context) (block : BitBuffer) : Except Fault (Option BitBuffer) :=
  match context with
  | none => pure (some block)
  | some context => Except.toOption <$> air.cipherUplinkMac context block

/-- The address of a header: its own, or that of its event label if that is known. -/
def headerAddr (addr : Option TetraAddress) (eventLabel : Option Nat) :
    Except Fault (Option TetraAddress) :=
  match eventLabel, addr with
  | some label, _ => .ok (air.getAddrByLabel label)
  | none, some address => .ok (some address)
  | none, none => .error .panic

end Surroundings

/-- How the SDU field of a MAC-ACCESS or MAC-DATA is to be read. -/
inductive Resolution (Key Context : Type) where
  | rejected
  /-- Rejected, and the key of the terminal is asked for. -/
  | dckMissing (issi : Nat)
  /-- From this address, under this policy, in this cipher context or in clear. -/
  | resolved (addr : TetraAddress) (aieRequest : AieRequest Key) (context : Option Context)

namespace Surroundings

variable (air : Surroundings Key Context)

/-- The terminal and the cipher context of an encrypted header, if its address can have one. -/
def resolveHeader (time : TdmaTime) (hasLabel : Bool) (addr : TetraAddress) :
    Option (Except AieContextError (Nat × Context)) :=
  if hasLabel then
    if addr.ssiType = .issi then
      some ((air.resolveAssignedUplinkContext addr.ssi time .macData).map (addr.ssi, ·))
    else none
  else if addr.ssiType = .esi then some (air.resolveUplinkEsi addr.ssi time .macData)
  else none

/-- A terminal with a cipher context, and the policy that the context stands for. -/
def inContext (issi : Nat) (context : Context) : Resolution Key Context :=
  .resolved ⟨issi, .issi⟩
    (match air.sc3Key context with
      | some key => .sc3 (.individual issi) .macData (some key)
      | none => .sc2 (.individual issi) .macData)
    (some context)

def inClear (addr : TetraAddress) : Resolution Key Context :=
  .resolved addr (.clear (.individual addr.ssi) .macData) none

def macDataResolution (time : TdmaTime) (encrypted hasLabel : Bool) (addr : TetraAddress) :
    Resolution Key Context :=
  if encrypted then
    match air.resolveHeader time hasLabel addr with
    | none => .rejected
    | some (.ok (issi, context)) => air.inContext issi context
    | some (.error (.dckNotProvisioned _)) | some (.error (.dckExpired _)) =>
      if hasLabel then .dckMissing addr.ssi else .rejected
    | some (.error _) => .rejected
  else inClear addr

/-- An unknown terminal may introduce itself; one whose key is missing has to wait for it. -/
def macAccessResolution (time : TdmaTime) (encrypted hasLabel : Bool) (addr : TetraAddress) :
    Resolution Key Context :=
  if encrypted then
    match air.resolveHeader time hasLabel addr with
    | none => .rejected
    | some (.ok (issi, context)) => air.inContext issi context
    | some (.error .subjectNotProvisioned) =>
      if hasLabel then .rejected
      else
        match air.bindUnboundUplinkEsi addr.ssi time .macData with
        | .error _ => .rejected
        | .ok (issi, context) =>
          .resolved ⟨issi, .issi⟩ (.sc2 (.individual issi) .macData) (some context)
    | some (.error (.dckNotProvisioned issi)) | some (.error (.dckExpired issi)) =>
      .dckMissing issi
    | some (.error _) => .rejected
  else inClear addr

/-- The cipher context of a policy in a scope, or that it is in clear. -/
def requestContext (request : AieRequest Key) (scope : AieScope) (time : TdmaTime) :
    Option (Option Context) :=
  if (request.withScope scope).isEncrypted then
    match air.resolve (request.withScope scope) time with
    | .error _ => none
    | .ok context => some (some context)
  else some none

/-- The cipher context of a MAC-FRAG or MAC-END, from the policy of what is under way for the owner
of the slot; a terminal that must not send in clear is not heard without. -/
def fragmentContext (request : Option (AieRequest Key)) (slotOwner : Nat) (time : TdmaTime) :
    Option (Option Context) :=
  match request with
  | some request => air.requestContext request .macFragment time
  | none => if air.clearUplinkAllowed slotOwner then some none else none

/-- Decipher the field of a MAC-FRAG or MAC-END; the policy is handed back with it. -/
def fragmentField (defrag : BsDefrag Key) (slotOwner : Nat) (time : TdmaTime) (block : BitBuffer) :
    Except Fault (Option (Option (AieRequest Key) × BitBuffer)) := do
  let request ← defrag.getAieRequest slotOwner time
  match air.fragmentContext request slotOwner time with
  | none => pure none
  | some context =>
    let deciphered ← air.cipherField context block
    pure (deciphered.map (request, ·))

/-- The owner of the slot, and the field of its MAC-FRAG or MAC-END. -/
def slotField (defrag : BsDefrag Key) (prim : TmvUnitdataInd) (block : BitBuffer) :
    Except Fault (Option (Nat × Option (AieRequest Key) × BitBuffer)) := do
  match ← air.schedule.ulGetSlotOwner prim.ulTime prim.blockNum with
  | none => pure none
  | some slotOwner =>
    let opened ← air.fragmentField defrag slotOwner prim.ulTime block
    pure (opened.map (slotOwner, ·))

end Surroundings

/-! ### MAC-DATA -/

/-- What the length indication of a MAC-DATA means. -/
structure MacDataExtent where
  pduLenBits : Nat
  isFragStart : Bool
  secondHalfStolen : Bool
  isNullPdu : Bool

def macDataExtent (pdu : MacData) (blockLen : Nat) : Except Fault MacDataExtent :=
  match pdu.lengthInd with
  | some lenInd =>
    if lenInd = 0b000000 then
      .ok ⟨if pdu.eventLabel.isSome then 23 else 37, false, false, true⟩
    else if 0b000010 ≤ lenInd ∧ lenInd < 0b111000 then .ok ⟨lenInd * 8, false, false, false⟩
    else if lenInd = 0b111110 then .ok ⟨blockLen, false, true, false⟩
    else if lenInd = 0b111111 then .ok ⟨blockLen, true, false, false⟩
    else .error .panic
  | none =>
    match pdu.fragFlag with
    | some frag => .ok ⟨blockLen, frag, false, false⟩
    | none => .error .panic

namespace Surroundings

variable (air : Surroundings Key Context) (umac : UmacBs Key)

/-- A terminal that does not ask for capacity no longer waits for it. -/
def noCapacity (addr : TetraAddress) (time : TdmaTime) : UmacBs Key :=
  if air.packetBearerIsActive time.t ∧ addr.ssiType = .issi then
    umac.signal (.clearPendingPacketDataCapacity addr.ssi time)
  else umac

/-- A capacity request, or none. -/
def handleReservation (addr : TetraAddress) (time : TdmaTime)
    (reservationReq : Option ReservationRequirement) (continuesFragment : Bool) : UmacBs Key :=
  match reservationReq with
  | some resReq => umac.signal (.capacityRequest time addr resReq continuesFragment)
  | none => air.noCapacity umac addr time

/-- An SDU goes to the LLC. -/
def indicate (prim : TmvUnitdataInd) (addr : TetraAddress) (aieRequest : AieRequest Key)
    (sdu : List Bool) : TmaUnitdataInd Key where
  pdu := sdu
  mainAddress := addr
  scramblingCode := prim.scramblingCode
  endpointId := prim.ulTime.t
  airInterfaceEncryption := aieRequest

/-- File a first fragment, or hand a whole SDU on unless it is empty. -/
def takeSdu (prim : TmvUnitdataInd) (isFragStart : Bool) (addr : TetraAddress)
    (aieRequest : AieRequest Key) (block : BitBuffer) : Except Fault (UmacBs Key) := do
  let len ← lenRemaining block
  if isFragStart then
    let defrag ← umac.defrag.insertFirst block prim.ulTime addr (some aieRequest)
    pure { umac with defrag }
  else if len = 0 then pure umac
  else pure (umac.pushBack (indicate prim addr aieRequest block.unread))

def rxMacData (prim : TmvUnitdataInd) :
    Except Fault (UmacBs Key × TmvUnitdataInd) := do
  assertThat (prim.pdu.getPos = 0)
  match ← parsed MacData.fromBitbuf prim.pdu with
  | none => pure (umac, prim)
  | some (pdu, block) =>
    match ← air.headerAddr pdu.addr pdu.eventLabel with
    | none => pure (umac, { prim with pdu := block })
    | some addr =>
      let extent ← macDataExtent pdu block.getLen
      let umac := if extent.secondHalfStolen then umac.signal .secondHalfStolen else umac
      let pduLenBits := min extent.pduLenBits block.getLen
      let cropped ← stripFill pdu.fillBits pduLenBits block
      if extent.isNullPdu then
        pure (air.noCapacity umac addr prim.ulTime, { prim with pdu := cropped })
      else
        match air.macDataResolution prim.ulTime pdu.encrypted pdu.eventLabel.isSome addr with
        | .rejected => pure (umac, { prim with pdu := cropped })
        | .dckMissing issi =>
          pure (umac.signal (.requestSc3Dck issi), { prim with pdu := cropped })
        | .resolved addr aieRequest context =>
          match ← air.cipherField context cropped with
          | none => pure (umac, { prim with pdu := cropped })
          | some cropped =>
            let umac := air.handleReservation umac addr prim.ulTime pdu.reservationReq
              extent.isFragStart
            let umac ← takeSdu umac prim extent.isFragStart addr aieRequest cropped
            pure (umac, { prim with pdu := advance block cropped pduLenBits })

end Surroundings

/-! ### MAC-ACCESS -/

def macAccessLenBits (pdu : MacAccess) (blockLen : Nat) : Nat :=
  match pdu.lengthInd with
  | some lengthInd =>
    if lengthInd = 0 then if pdu.eventLabel.isSome then 22 else 36 else lengthInd * 8
  | none => blockLen

/-- An encrypted field is measured before its policy is looked at. -/
def encryptedLen (encrypted : Bool) (block : BitBuffer) : Except Fault Nat :=
  if encrypted then lenRemaining block else .ok 0

/-- Put an access off until the terminal's key is there: at most one of a terminal, and the oldest
makes room. -/
def deferAccess (umac : UmacBs Key) (issi : Nat) (dltime : TdmaTime) (message : TmvUnitdataInd) :
    UmacBs Key :=
  let waiting :=
    if 32 ≤ umac.pendingSc3Access.length then umac.pendingSc3Access.tail
    else umac.pendingSc3Access
  let waiting :=
    if waiting.any fun pending => pending.issi = issi then waiting
    else waiting ++ [⟨issi, dltime.addTimeslots (4 * 18), message⟩]
  { umac with pendingSc3Access := waiting }

namespace Surroundings

variable (air : Surroundings Key Context) (umac : UmacBs Key)

/-- The acknowledgement and the capacity request of an access, which only an ISSI gets. -/
def answerAccess (prim : TmvUnitdataInd) (pdu : MacAccess) (addr : TetraAddress)
    (aieRequest : AieRequest Key) : UmacBs Key :=
  if addr.ssiType = .issi then
    let umac := if air.inActiveOver prim.ulTime.t then umac
      else umac.signal (.randomAccessAck prim.ulTime.t addr aieRequest)
    air.handleReservation umac addr prim.ulTime pdu.reservationReq pdu.isFragStart
  else umac

def rxMacAccess (prim : TmvUnitdataInd) :
    Except Fault (UmacBs Key × TmvUnitdataInd) := do
  assertThat (prim.pdu.getPos = 0)
  match ← parsed MacAccess.fromBitbuf prim.pdu with
  | none => pure (umac, prim)
  | some (pdu, block) =>
    match ← air.headerAddr pdu.addr pdu.eventLabel with
    | none => pure (umac, { prim with pdu := block })
    | some addr =>
      let pduLenBits := min (macAccessLenBits pdu block.getLen) block.getLen
      let cropped ← stripFill pdu.fillBits pduLenBits block
      if pdu.isNullPdu then
        pure (air.noCapacity umac addr prim.ulTime, { prim with pdu := cropped })
      else
        let _ ← encryptedLen pdu.encrypted cropped
        match air.macAccessResolution prim.ulTime pdu.encrypted pdu.eventLabel.isSome addr with
        | .rejected => pure (umac, { prim with pdu := cropped })
        | .dckMissing issi =>
          -- the message is put off as it was before this PDU was read
          pure (deferAccess (umac.signal (.requestSc3Dck issi)) issi air.dltime prim,
            { prim with pdu := cropped })
        | .resolved addr aieRequest context =>
          match ← air.cipherField context cropped with
          | none => pure (umac, { prim with pdu := cropped })
          | some cropped =>
            let umac := air.answerAccess umac prim pdu addr aieRequest
            let len ← lenRemaining cropped
            if pdu.isFragStart = false ∧ len = 0 then
              pure (umac, { prim with pdu := cropped })
            else
              let umac ← takeSdu umac prim pdu.isFragStart addr aieRequest cropped
              pure (umac, { prim with pdu := advance block cropped pduLenBits })

/-! ### MAC-FRAG and MAC-END -/

def rxMacFragUl (prim : TmvUnitdataInd) :
    Except Fault (UmacBs Key × TmvUnitdataInd) := do
  assertThat (prim.pdu.getPos = 0)
  match ← parsed MacFragUl.fromBitbuf prim.pdu with
  | none => pure (umac, prim)
  | some (pdu, block) =>
    -- a MAC-FRAG is known to fill its slot
    let cropped ← stripFill pdu.fillBits block.getLen block
    match ← air.slotField umac.defrag prim cropped with
    | none => pure (umac, { prim with pdu := cropped })
    | some (slotOwner, _, cropped) =>
      let _ ← lenRemaining cropped
      let defrag ← umac.defrag.insertNext cropped slotOwner prim.ulTime
      pure ({ umac with defrag }, { prim with pdu := cropped })

/-- What is left of the last fragment is measured only if there is a buffer to append it to. -/
def lastFragmentLen (defrag : BsDefrag Key) (ssi : Nat) (time : TdmaTime) (block : BitBuffer) :
    Except Fault Nat := do
  match ← defrag.activeBufferSlot ssi time with
  | some _ => lenRemaining block
  | none => pure 0

/-- A MAC-END of `lenBits` bits behind its header: complete what is under way for the owner of the
slot, and hand it on under `passedOn` of the policy it was begun with. -/
def finishMacEnd (passedOn : AieRequest Key → AieRequest Key) (umac : UmacBs Key)
    (prim : TmvUnitdataInd) (fillBits : Bool) (lenBits : Nat)
    (reservationReq : Option ReservationRequirement) (block : BitBuffer) :
    Except Fault (UmacBs Key × TmvUnitdataInd) := do
  let pduLenBits := min lenBits block.getLen
  let cropped ← stripFill fillBits pduLenBits block
  match ← air.slotField umac.defrag prim cropped with
  | none => pure (umac, { prim with pdu := cropped })
  | some (slotOwner, request, cropped) =>
    let aieRequest := (request.map passedOn).getD (.clear (.individual slotOwner) .macFragment)
    let _ ← lastFragmentLen umac.defrag slotOwner prim.ulTime cropped
    let (defrag, completed) ← umac.defrag.insertLast cropped slotOwner prim.ulTime
    let umac := { umac with defrag }
    match completed with
    | none => pure (umac, { prim with pdu := cropped })
    | some defragbuf =>
      let umac := air.handleReservation umac defragbuf.addr prim.ulTime reservationReq false
      pure (umac.pushReassembled (indicate prim defragbuf.addr aieRequest defragbuf.buffer),
        { prim with pdu := advance block cropped pduLenBits })

/-- The completed SDU keeps the policy it was begun with. -/
def rxMacEndUl (prim : TmvUnitdataInd) :
    Except Fault (UmacBs Key × TmvUnitdataInd) := do
  assertThat (prim.pdu.getPos = 0)
  match ← parsed MacEndUl.fromBitbuf prim.pdu with
  | none => pure (umac, prim)
  | some (pdu, block) =>
    let lenBits := match pdu.lengthInd with
      | some lengthInd => lengthInd * 8
      | none => block.getLen
    air.finishMacEnd id umac prim pdu.fillBits lenBits pdu.reservationReq block

/-- A reserved length is discarded; the policy is handed on with the scope of a fragment. -/
def rxMacEndHu (prim : TmvUnitdataInd) :
    Except Fault (UmacBs Key × TmvUnitdataInd) := do
  assertThat (prim.pdu.getPos = 0)
  match ← parsed MacEndHu.fromBitbuf prim.pdu with
  | none => pure (umac, prim)
  | some (pdu, block) =>
    if pdu.lengthInd = some 0 then pure (umac, { prim with pdu := block })
    else
      let lenBits := match pdu.lengthInd with
        | some lengthInd => lengthInd * 8
        | none => block.getLen
      air.finishMacEnd (·.withScope .macFragment) umac prim pdu.fillBits lenBits
        pdu.reservationReq block

/-! ### PDUs without fragments -/

/-- A MAC-U-SIGNAL has no address: it comes from the holder of the floor. -/
def rxUlMacUSignal (prim : TmvUnitdataInd) :
    Except Fault (UmacBs Key × TmvUnitdataInd) := do
  match ← parsed MacUSignal.fromBitbuf prim.pdu with
  | none => pure (umac, prim)
  | some (pdu, block) =>
    let stopped := (umac, { prim with pdu := block })
    if pdu.secondHalfStolen then pure stopped
    else
      let len ← lenRemaining block
      if len = 0 then pure stopped
      else if prim.ulTime.t < 1 ∨ 4 < prim.ulTime.t then pure stopped
      else
        match air.trafficFloorHolder prim.ulTime.t with
        | none => pure stopped
        | some issi =>
          let request := (air.uplinkTrafficAie prim.ulTime.t).getD
            (.clear (.individual issi) .facch)
          match air.requestContext request .facch prim.ulTime with
          | none => pure stopped
          | some context =>
            match ← air.cipherField context block with
            | none => pure stopped
            | some block =>
              pure (umac.pushBack { indicate prim ⟨issi, .issi⟩ (request.withScope .facch)
                  block.unread with endpointId := 0 }, { prim with pdu := block })

def rxUlMacUBlck (prim : TmvUnitdataInd) :
    Except Fault (UmacBs Key × TmvUnitdataInd) := do
  match ← parsed MacUBlck.fromBitbuf prim.pdu with
  | none => pure (umac, prim)
  | some _ => throw .panic

/-! ### The loop over the PDUs of a block -/

/-- The handler for a PDU that begins with the given three bits. -/
def dispatch (bits : Nat) (umac : UmacBs Key) (prim : TmvUnitdataInd) :
    Except Fault (UmacBs Key × TmvUnitdataInd) :=
  match prim.logicalChannel with
  | .schF | .stch =>
    if bits / 2 = 0 then air.rxMacData umac prim
    else if bits / 2 = 1 then
      if bits % 2 = 0 then air.rxMacFragUl umac prim else air.rxMacEndUl umac prim
    else if bits / 2 = 3 then
      if prim.logicalChannel = .stch then air.rxUlMacUSignal umac prim
      else if bits % 2 = 0 then rxUlMacUBlck umac prim
      else pure (umac, prim)
    else pure (umac, prim)
  | .schHu => if bits / 4 = 0 then air.rxMacAccess umac prim else air.rxMacEndHu umac prim
  | _ => pure (umac, prim)

/-- Take PDUs off the block until one leaves its start where it is, or too little is left. -/
def rxTmvSchLoop : (fuel : Nat) → UmacBs Key → TmvUnitdataInd → Except Fault (UmacBs Key)
  | 0, umac, _ => pure umac
  | fuel + 1, umac, prim =>
    match prim.pdu.peekBits 3 with
    | none => pure umac
    | some bits => do
      let (umac, next) ← air.dispatch bits umac prim
      if next.pdu.start ≠ prim.pdu.start ∧ 16 ≤ next.pdu.getLen then
        rxTmvSchLoop fuel umac next
      else pure umac

/-- Receive signalling. A turn that goes on has shortened the block, so its length is fuel enough. -/
def rxTmvSch (prim : TmvUnitdataInd) : Except Fault (UmacBs Key) :=
  air.rxTmvSchLoop (prim.pdu.getLen + 1) umac prim

def rxTmvUnitdataInd (prim : TmvUnitdataInd) : Except Fault (UmacBs Key) :=
  match prim.logicalChannel with
  | .schF => do
    assertThat (prim.blockNum = .both)
    air.rxTmvSch umac prim
  | .stch | .schHu => do
    assertThat (prim.blockNum = .block1 ∨ prim.blockNum = .block2)
    air.rxTmvSch umac prim
  | _ => throw .panic

/-- What the LMAC hands on: a block, or only that it had an error. -/
def rxTmvPrim : Option TmvUnitdataInd → Except Fault (UmacBs Key)
  | some prim => air.rxTmvUnitdataInd umac prim
  | none => pure umac

/-- At a tick, the accesses whose key has arrived are received again; those that have waited long
enough are dropped. -/
def resumeSc3Access (ts : TdmaTime) : Except Fault (UmacBs Key) :=
  let ready := umac.pendingSc3Access.filter fun pending => air.hasSc3Dck pending.issi
  let waiting := umac.pendingSc3Access.filter fun pending =>
    !air.hasSc3Dck pending.issi && decide (pending.expiresAt.age ts < 0)
  ready.foldlM (fun umac pending => air.rxTmvPrim umac (some pending.message))
    { umac with pendingSc3Access := waiting }

end Surroundings

end Bluestation
