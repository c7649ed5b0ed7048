/-
**A downlink slot, from the scheduler to the physical layer.**

The lower MAC binds the policies of the blocks of a slot to the slot, lays the key stream over the
ranges they name, encodes the blocks and hands the slot on. A block whose key is missing takes the
whole slot with it.

* `rxTmvUnitdataReqSlot` — the function, with every way in which it gives a slot up.
* `SlotProtected` — what is handed on is ciphered in its range by the key of its subject, and
  nowhere else changed.
* `slot_handed_on_iff` — **a slot is handed on exactly if the keys of all its blocks are there.**
-/

import Bluestation.Config.KeyProvider
import Bluestation.Lmac.StolenSpeech

namespace Bluestation.DownlinkSlot

open Bits ErrorControl SpeechChannel StolenSpeech BsAieKeyProvider List BitBuffer

/-! ### Ranges of a block -/

def xorRange (stream : Nat → Bool) (start len : Nat) (bits : List Bool) : List Bool :=
  bits.mapIdx fun i bit => if start ≤ i ∧ i < start + len then bit ^^ stream (i - start) else bit

theorem getElem?_xorRange (stream : Nat → Bool) (start len : Nat) (bits : List Bool) (i : Nat) :
    (xorRange stream start len bits)[i]? = bits[i]?.map fun bit =>
      if start ≤ i ∧ i < start + len then bit ^^ stream (i - start) else bit := by
  unfold xorRange
  rw [getElem?_mapIdx]

theorem getElem?_octetBits (octets : List (BitVec 8)) (i : Nat) :
    (octetBits octets)[i]? = octets[i / 8]?.map fun octet => octet.getMsbD (i % 8) := by
  unfold octetBits
  induction octets generalizing i with
  | nil => simp
  | cons octet octets ih =>
    rw [flatMap_cons, getElem?_append, length_map, List.length_range]
    by_cases first : i < 8
    · rw [if_pos first, Nat.div_eq_of_lt first, Nat.mod_eq_of_lt first, getElem?_map,
        getElem?_range first]
      rfl
    · obtain ⟨rest, rfl⟩ := Nat.exists_eq_add_of_le (not_lt.mp first)
      rw [if_neg first, Nat.add_sub_cancel_left, ih, Nat.add_div_left _ (by decide),
        Nat.add_mod_left]
      rfl

theorem getElem?_windowBits_put {b : BitBuffer} {field : List Bool} (window : b.Window)
    (fits : b.pos + field.length ≤ b.stop) (i : Nat) :
    (windowBits (b.put field))[i]? =
      if b.pos ≤ b.start + i ∧ b.start + i < b.pos + field.length then
        field[b.start + i - b.pos]?
      else (windowBits b)[i]? := by
  have stopLe := window.stop_le
  unfold windowBits
  simp only [put_start, put_stop, getElem?_take, getElem?_drop]
  by_cases inside : i < b.stop - b.start
  · rw [if_pos inside, if_pos inside]
    unfold put
    rw [append_assoc, getElem?_append, length_take, Nat.min_eq_left (by omega)]
    by_cases before : b.start + i < b.pos
    · rw [if_pos before, if_neg (by omega), getElem?_take, if_pos before]
    · rw [if_neg before, getElem?_append]
      by_cases within : b.start + i - b.pos < field.length
      · rw [if_pos within, if_pos (by omega)]
      · rw [if_neg within, if_neg (by omega), getElem?_drop]
        congr 1
        omega
  · rw [if_neg inside]
    split <;> first | rfl | omega

/-! ### The key stream over a range -/

section Cipher

variable {provider : BsAieKeyProvider}

/-- A bit of the key stream of a slot, from an offset on. -/
def streamBit (provider : BsAieKeyProvider) (algorithm : AieAlgorithm) (eck : KeyMaterial)
    (direction : AieDirection) (time : TdmaTime) (offset i : Nat) : Bool :=
  (provider.crypto.tea algorithm ⟨time.t, time.f, time.m, time.h, direction = .uplink⟩ eck
    ((offset + i) / 8)).getMsbD ((offset + i) % 8)

variable {direction : AieDirection} {time : TdmaTime} {offset len start : Nat} {block : BitBuffer}

theorem getElem?_keyStream {algorithm : AieAlgorithm} {eck : KeyMaterial} {i : Nat}
    (whole : offset % 8 = 0) (inside : i < len) :
    (octetBits ((provider.keyStream algorithm eck direction time ((offset + len + 7) / 8)).drop
      (offset / 8)))[i]? = some (streamBit provider algorithm eck direction time offset i) := by
  have octet : offset / 8 + i / 8 = (offset + i) / 8 := by omega
  have bit : i % 8 = (offset + i) % 8 := by omega
  have room : (offset + i) / 8 < (offset + len + 7) / 8 := by omega
  rw [getElem?_octetBits, getElem?_drop, octet, bit]
  unfold keyStream streamBit
  rw [getElem?_map, getElem?_range room]
  rfl

/-- A buffer ciphered in a range: its window and its size stay. -/
structure Ciphered (stream : Nat → Bool) (start len : Nat) (plain sent : BitBuffer) : Prop where
  window : sent.Window
  size : sent.getLen = plain.getLen
  bits : windowBits sent = xorRange stream start len (windowBits plain)

/-- Octets added to a range of a block. -/
theorem xorBytearr_spec {octets : List (BitVec 8)} {stream : Nat → Bool} (window : block.Window)
    (inside : start + len ≤ block.getLen) (enough : len ≤ 8 * octets.length)
    (same : ∀ i < len, (octetBits octets)[i]? = some (stream i)) :
    ∃ put, (block.seek start).xorBytearr octets len = some put ∧
      put.start = block.start ∧ put.stop = block.stop ∧ put.bits.length = block.bits.length ∧
      windowBits put = xorRange stream start len (windowBits block) := by
  have posLe := window.pos_le
  have startLe := window.start_le
  have stopLe := window.stop_le
  unfold BitBuffer.getLen at inside
  have sought : (block.seek start).Window := ⟨Nat.le_add_right _ _, by
    show block.start + start ≤ block.stop
    omega, stopLe⟩
  have room : len ≤ (block.seek start).getLenRemaining := by
    show len ≤ block.stop - (block.start + start)
    omega
  have unread : ∀ i < len, ((block.seek start).unread.take len)[i]?
      = (windowBits block)[start + i]? := by
    intro i small
    unfold BitBuffer.unread windowBits
    rw [getElem?_take, if_pos small, getElem?_take, getElem?_take, getElem?_drop, getElem?_drop]
    show (if i < block.stop - (block.start + start) then block.bits[block.start + start + i]?
      else none) = _
    rw [if_pos (by omega), if_pos (by omega), Nat.add_assoc]
  have length : (List.zipWith xor ((block.seek start).unread.take len)
      (octetBits octets)).length = len := by
    have taken : ((block.seek start).unread.take len).length = len := by
      rw [length_take, BitBuffer.length_unread sought, Nat.min_eq_left room]
    have long : len ≤ (octetBits octets).length := by
      have eight : (octetBits octets).length = 8 * octets.length := by
        unfold octetBits
        simp [length_flatMap, Nat.mul_comm]
      rw [eight]
      exact enough
    rw [length_zipWith, taken, Nat.min_eq_left long]
  refine ⟨_, if_pos ⟨room, enough⟩, rfl, rfl, ?_, ?_⟩
  · unfold BitBuffer.put
    simp only [length_append, length_take, length_drop, length]
    show min (block.start + start) block.bits.length + len
      + (block.bits.length - (block.start + start + len)) = _
    omega
  · apply ext_getElem?
    intro i
    rw [getElem?_windowBits_put sought
      (by rw [length]; show block.start + start + len ≤ block.stop; omega), length,
      getElem?_xorRange]
    show (if block.start + start ≤ block.start + i ∧ block.start + i < block.start + start + len then
      (List.zipWith xor _ _)[block.start + i - (block.start + start)]?
      else (windowBits block)[i]?) = _
    by_cases within : start ≤ i ∧ i < start + len
    · obtain ⟨j, rfl⟩ := Nat.exists_eq_add_of_le within.1
      have small : j < len := by omega
      have index : block.start + (start + j) - (block.start + start) = j := by omega
      rw [if_pos ⟨by omega, by omega⟩, index, getElem?_zipWith, unread j small, same j small]
      cases (windowBits block)[start + j]? with
      | none => rfl
      | some bit => simp [small]
    · rw [if_neg (by omega)]
      cases (windowBits block)[i]? with
      | none => rfl
      | some bit => simp [within]

/-- **The key stream is laid over the range**, if the range lies in the block. -/
theorem cipherMacWithKey_spec {key : CipherKey} {eck : KeyMaterial} (window : block.Window)
    (cell : provider.encryptedCipherKey key.2 = .ok eck) (whole : offset % 8 = 0)
    (inside : start + len ≤ block.getLen) :
    ∃ sent, provider.cipherMacWithKey time key block start len offset direction = .ok sent ∧
      Ciphered (streamBit provider key.1 eck direction time offset) start len block sent := by
  have octets : len ≤ 8 * ((provider.keyStream key.1 eck direction time
      ((offset + len + 7) / 8)).drop (offset / 8)).length := by
    unfold keyStream
    rw [length_drop, length_map, List.length_range]
    omega
  obtain ⟨put, ran, start', stop', size, bits⟩ := xorBytearr_spec window inside octets
    fun i small => getElem?_keyStream whole small
  refine ⟨put.seek block.getPos, ?_, ⟨?_, ?_, ?_⟩, ?_, bits⟩
  · unfold cipherMacWithKey
    rw [cell, ok_bind, if_neg (by simp [whole])]
    dsimp only
    rw [ran]
    rfl
  · exact Nat.le_add_right _ _
  · show put.start + (block.pos - block.start) ≤ put.stop
    have startLe := window.start_le
    have posLe := window.pos_le
    omega
  · show put.stop ≤ put.bits.length
    rw [stop', size]
    exact window.stop_le
  · show put.stop - put.start = block.stop - block.start
    rw [start', stop']

theorem cipherMacWithKey_outside {key : CipherKey} (some' : 0 < len)
    (outside : ¬ start + len ≤ block.getLen) {sent : BitBuffer} :
    provider.cipherMacWithKey time key block start len offset direction ≠ .ok sent := by
  intro ran
  obtain ⟨eck, _, ran⟩ := bind_eq_ok.mp ran
  split at ran
  · contradiction
  · dsimp only at ran
    split at ran
    · contradiction
    next ciphered =>
      obtain ⟨⟨room, -⟩, -⟩ := Option.ite_none_right_eq_some.mp ciphered
      have remaining : len ≤ block.stop - (block.start + start) := room
      unfold getLen at outside
      omega

end Cipher

/-! ### Slots -/

inductive BurstType where
  | sdb | ndb
deriving DecidableEq

inductive TrainingSequence where
  | normalTrainSeq1 | normalTrainSeq2 | syncTrainSeq
deriving DecidableEq

inductive PhysicalChannel where
  | tp | cp | unallocated
deriving DecidableEq

/-- A range of type-1 bits that is ciphered. -/
structure AieCipherRegion where
  start : Nat
  len : Nat

/-- A block with its policy. -/
structure DownlinkBlock extends TmvUnitdataReq where
  airInterfaceEncryption : Option (AieRequest Sc3KeyIdentifier)
  cipherRegion : Option AieCipherRegion

structure TmvUnitdataReqSlot where
  ts : TdmaTime
  bbk : Option DownlinkBlock
  blk1 : Option DownlinkBlock
  blk2 : Option DownlinkBlock
  ulPhyChan : PhysicalChannel

/-- A slot as the physical layer gets it; its receiver runs once for each of these. -/
structure TpUnitdataReqSlot where
  trainType : TrainingSequence
  burstType : BurstType
  bbk : Option BitBuffer
  blk1 : Option BitBuffer
  blk2 : Option BitBuffer
deriving DecidableEq

/-- What the lower MAC keeps for each timeslot. -/
structure LmacBs where
  uplinkPhyChan : List PhysicalChannel
deriving DecidableEq

def isTraffic : ErrorControl.LogicalChannel → Bool
  | .tchS | .tch24 | .tch48 | .tch72 => true
  | _ => false

/-- The burst of a first block; whether there must be a second one depends on it. -/
def burstOf (logicalChannel : ErrorControl.LogicalChannel) (two : Bool) :
    Except Fault (BurstType × TrainingSequence) :=
  match logicalChannel with
  | .bsch => do
    assertThat (two = true)
    pure (.sdb, .syncTrainSeq)
  | .schF | .tchS | .tch24 | .tch48 | .tch72 => do
    assertThat (two = false)
    pure (.ndb, .normalTrainSeq1)
  | .schHd | .stch | .bnch => do
    assertThat (two = true)
    pure (.ndb, .normalTrainSeq2)
  | _ => throw .panic

def unwrapped {α : Type} : Option α → Except Fault α
  | some value => pure value
  | none => throw .panic

namespace DownlinkBlock

def encrypted (blk : DownlinkBlock) : Option (AieRequest Sc3KeyIdentifier) :=
  blk.airInterfaceEncryption.filter fun request => request.isEncrypted

end DownlinkBlock

section Slots

variable (provider : BsAieKeyProvider) (ts : TdmaTime)

/-- Bind a policy to the slot and lay its key stream over a range; nothing, if that fails. -/
def cipherRange (request : AieRequest Sc3KeyIdentifier) (block : BitBuffer)
    (start len kssOffset : Nat) : Option BitBuffer :=
  match provider.resolve request .downlink ts with
  | .error _ => none
  | .ok context => (provider.cipherMac context block start len kssOffset .downlink).toOption

/-- A control block before channel coding; nothing, if the slot is given up. -/
def cipherControl (blk : DownlinkBlock) : Option DownlinkBlock :=
  match blk.encrypted with
  | none => some blk
  | some request =>
    if isTraffic blk.logicalChannel then some blk
    else
      match blk.cipherRegion with
      | none => none
      | some region =>
        (cipherRange provider ts request blk.macBlock region.start region.len 0).map
          fun macBlock => { blk with macBlock }

/-- Two speech frames before channel coding. -/
def cipherSpeech (blk : DownlinkBlock) : Option DownlinkBlock :=
  match blk.encrypted with
  | none => some blk
  | some request =>
    match blk.cipherRegion with
    | none => none
    | some region =>
      if region.start ≠ 0 ∨ region.len ≠ blk.macBlock.getLen then none
      else
        (cipherRange provider ts request blk.macBlock region.start region.len 0).map
          fun macBlock => { blk with macBlock }

/-- The speech frame beside a stolen half; its key stream starts at bit 216. -/
def cipherStolen (blk : DownlinkBlock) (frameB : BitBuffer) : Option BitBuffer :=
  match blk.encrypted with
  | none => some frameB
  | some request =>
    match blk.cipherRegion with
    | none => none
    | some region =>
      if region.start ≠ 0 ∨ region.len ≠ 274 ∨ frameB.getLen ≠ 137 then none
      else cipherRange provider ts request frameB 0 137 216

/-- The type-5 bits of the first block. -/
def encodeFirst (blk1 : DownlinkBlock) (alone : Bool) : Except Fault (Option BitBuffer) :=
  if isTraffic blk1.logicalChannel then
    match if alone then cipherSpeech provider ts blk1 else some blk1 with
    | none => pure none
    | some blk1 => some <$> unwrapped (encodeTp blk1.toTmvUnitdataReq 1)
  else some <$> unwrapped (encodeCp blk1.toTmvUnitdataReq)

/-- The type-5 bits of the second block. -/
def encodeSecond (blk2 : DownlinkBlock) : Except Fault (Option BitBuffer) :=
  if isTraffic blk2.logicalChannel then do
    let frameB ← unwrapped (takeTchSFrameB blk2.macBlock)
    match cipherStolen provider ts blk2 frameB with
    | none => pure none
    | some frameB => some <$> unwrapped (encodeTchSHalf frameB blk2.scramblingCode)
  else some <$> unwrapped (encodeCp blk2.toTmvUnitdataReq)

/-- Both blocks, or nothing. -/
def encodeBlocks (blk1 : DownlinkBlock) (blk2 : Option DownlinkBlock) :
    Except Fault (Option (BitBuffer × Option BitBuffer)) := do
  match ← encodeFirst provider ts blk1 blk2.isNone with
  | none => pure none
  | some first =>
    match blk2 with
    | none => pure (some (first, none))
    | some blk2 =>
      match ← encodeSecond provider ts blk2 with
      | none => pure none
      | some second => pure (some (first, some second))

/-- The control blocks of both halves are ciphered before anything is encoded. -/
def cipherBlocks (blk1 : DownlinkBlock) (blk2 : Option DownlinkBlock) :
    Option (DownlinkBlock × Option DownlinkBlock) := do
  let blk1 ← cipherControl provider ts blk1
  match blk2 with
  | none => pure (blk1, none)
  | some blk2 => do
    let blk2 ← cipherControl provider ts blk2
    pure (blk1, some blk2)

end Slots

/-- **A slot of the scheduler**: what the physical layer is given, if anything. -/
def rxTmvUnitdataReqSlot (provider : BsAieKeyProvider) (lmac : LmacBs) (prim : TmvUnitdataReqSlot) :
    Except Fault (LmacBs × Option TpUnitdataReqSlot) := do
  assertThat (1 ≤ prim.ts.t ∧ prim.ts.t ≤ lmac.uplinkPhyChan.length)
  let lmac := { lmac with uplinkPhyChan := lmac.uplinkPhyChan.set (prim.ts.t - 1) prim.ulPhyChan }
  let bbk ← unwrapped prim.bbk
  let blk1 ← unwrapped prim.blk1
  let (burstType, trainType) ← burstOf blk1.logicalChannel prim.blk2.isSome
  match cipherBlocks provider prim.ts blk1 prim.blk2 with
  | none => pure (lmac, none)
  | some (blk1, blk2) => do
    let access ← unwrapped (encodeAach bbk.macBlock bbk.scramblingCode)
    match ← encodeBlocks provider prim.ts blk1 blk2 with
    | none => pure (lmac, none)
    | some (first, second) =>
      pure (lmac, some ⟨trainType, burstType, some access, some first, second⟩)

/-! ### What is asked of a block and of a slot -/

section Asked

variable (provider : BsAieKeyProvider) (ts : TdmaTime)

/-- The key of a policy is there: the policy can be bound to the slot, and if there is anything to
cipher, its key still stands, the cell can use it, and the range lies in the block. -/
def KeyAvailable (request : AieRequest Sc3KeyIdentifier) (start len size : Nat) : Prop :=
  ∃ context, provider.resolve request .downlink ts = .ok context ∧
    (len = 0 ∨ start + len ≤ size ∧ ∃ bound key eck,
      provider.keyOf context .downlink = .ok (bound, key) ∧
        provider.encryptedCipherKey key.2 = .ok eck)

/-- A block can be ciphered as its policy asks; of a speech block that is the whole block. -/
def BlockReady (blk : DownlinkBlock) : Prop :=
  ∀ request, blk.encrypted = some request → ∃ region, blk.cipherRegion = some region ∧
    (isTraffic blk.logicalChannel = true → region = ⟨0, blk.macBlock.getLen⟩) ∧
      KeyAvailable provider ts request region.start region.len blk.macBlock.getLen

/-- **The keys of all blocks of a slot are there.** -/
def SlotReady (prim : TmvUnitdataReqSlot) : Prop :=
  (∀ blk ∈ prim.blk1, BlockReady provider prim.ts blk) ∧
    ∀ blk ∈ prim.blk2, BlockReady provider prim.ts blk

/-- The bits of a block as they are sent: as they were, if no cipher is asked for; otherwise in
their range under the key stream of the key that belongs to the subject in this slot. -/
structure Carried (blk : DownlinkBlock) (plain sent : BitBuffer) (start len kssOffset : Nat) :
    Prop where
  window : sent.Window
  size : sent.getLen = plain.getLen
  bits : match blk.encrypted with
    | none => windowBits sent = windowBits plain
    | some request =>
      len = 0 ∧ windowBits sent = windowBits plain ∨
        ∃ key eck, provider.validKey request .downlink ts = some key ∧
          provider.encryptedCipherKey key.2 = .ok eck ∧ start + len ≤ plain.getLen ∧
            windowBits sent =
              xorRange (streamBit provider key.1 eck .downlink ts kssOffset) start len
                (windowBits plain)

/-- A control block, and the type-5 bits of it. -/
def ControlProtected (blk : DownlinkBlock) (type5 : BitBuffer) : Prop :=
  ∃ region sent, (blk.encrypted.isSome → blk.cipherRegion = some region) ∧
    Carried provider ts blk blk.macBlock sent region.start region.len 0 ∧
      encodeCp { blk.toTmvUnitdataReq with macBlock := sent } = some type5

def SpeechProtected (blk : DownlinkBlock) (type5 : BitBuffer) : Prop :=
  ∃ sent, Carried provider ts blk blk.macBlock sent 0 blk.macBlock.getLen 0 ∧
    encodeTp { blk.toTmvUnitdataReq with macBlock := sent } 1 = some type5

/-- The speech frame beside a stolen half, and the type-5 bits of it. -/
def StolenProtected (blk : DownlinkBlock) (type5 : BitBuffer) : Prop :=
  ∃ plain sent, takeTchSFrameB blk.macBlock = some plain ∧
    Carried provider ts blk plain sent 0 137 216 ∧
      encodeTchSHalf sent blk.scramblingCode = some type5

/-- **What is handed on is ciphered as its policy asks.** -/
structure SlotProtected (prim : TmvUnitdataReqSlot) (phy : TpUnitdataReqSlot) : Prop where
  first : ∃ blk1 type5, prim.blk1 = some blk1 ∧ phy.blk1 = some type5 ∧
    if isTraffic blk1.logicalChannel then SpeechProtected provider prim.ts blk1 type5
    else ControlProtected provider prim.ts blk1 type5
  second : match prim.blk2, phy.blk2 with
    | none, none => True
    | some blk2, some type5 =>
      if isTraffic blk2.logicalChannel then StolenProtected provider prim.ts blk2 type5
      else ControlProtected provider prim.ts blk2 type5
    | _, _ => False

end Asked

/-- A block of the size of its channel. -/
structure Sized (blk : DownlinkBlock) : Prop where
  window : blk.macBlock.Window
  size : (getParams blk.logicalChannel).map (·.type1Bits) = some blk.macBlock.getLen

/-- The slots that the scheduler builds: a whole block of signalling or of speech; or a broadcast,
signalling or stolen half with signalling, a broadcast or speech beside it; and the access
assignment. -/
structure Scheduled (lmac : LmacBs) (prim : TmvUnitdataReqSlot) : Prop where
  slot : 1 ≤ prim.ts.t ∧ prim.ts.t ≤ lmac.uplinkPhyChan.length
  access : ∃ bbk, prim.bbk = some bbk ∧ bbk.macBlock.getLenRemaining = 14
  blocks : ∃ blk1, prim.blk1 = some blk1 ∧ Sized blk1 ∧
    match prim.blk2 with
    | none => blk1.logicalChannel ∈ [.schF, .tchS]
    | some blk2 => Sized blk2 ∧ blk1.logicalChannel ∈ [.bsch, .schHd, .stch, .bnch] ∧
        blk2.logicalChannel ∈ [.schHd, .stch, .bnch, .tchS]

/-! ### One range -/

section Ranges

variable {provider : BsAieKeyProvider} {ts : TdmaTime} {request : AieRequest Sc3KeyIdentifier}
  {block : BitBuffer} {start len offset : Nat}

/-- **A range is ciphered exactly if its key is there**, and by the key of its subject. -/
theorem cipherRange_spec (window : block.Window) (whole : offset % 8 = 0) :
    (KeyAvailable provider ts request start len block.getLen ∧
      ∃ sent, cipherRange provider ts request block start len offset = some sent ∧
        (len = 0 ∧ sent = block ∨ ∃ key eck, provider.validKey request .downlink ts = some key ∧
            provider.encryptedCipherKey key.2 = .ok eck ∧ start + len ≤ block.getLen ∧
              Ciphered (streamBit provider key.1 eck .downlink ts offset) start len block sent)) ∨
    ¬ KeyAvailable provider ts request start len block.getLen ∧
      cipherRange provider ts request block start len offset = none := by
  unfold cipherRange KeyAvailable
  cases resolved : provider.resolve request .downlink ts with
  | error refused =>
    refine .inr ⟨fun ⟨context, is, _⟩ => ?_, rfl⟩
    contradiction
  | ok context =>
    dsimp only
    unfold cipherMac
    by_cases nothing : len = 0
    · rw [if_pos nothing]
      exact .inl ⟨⟨context, rfl, .inl nothing⟩, block, rfl, .inl ⟨nothing, rfl⟩⟩
    · rw [if_neg nothing]
      cases stands : provider.keyOf context .downlink with
      | error refused =>
        refine .inr ⟨fun ⟨other, is, available⟩ => ?_, rfl⟩
        cases is
        obtain empty | ⟨-, _, _, _, found, -⟩ := available
        · exact nothing empty
        · rw [stands] at found
          contradiction
      | ok found =>
        obtain ⟨bound, key⟩ := found
        obtain ⟨rfl, valid⟩ := keyOf_resolve resolved stands
        cases cell : provider.encryptedCipherKey key.2 with
        | error refused =>
          refine .inr ⟨fun ⟨other, is, available⟩ => ?_, ?_⟩
          · cases is
            obtain empty | ⟨-, _, _, _, same, found⟩ := available
            · exact nothing empty
            · cases stands.symm.trans same
              rw [cell] at found
              contradiction
          · rw [ok_bind]
            dsimp only
            unfold cipherMacWithKey
            rw [cell]
            rfl
        | ok eck =>
          rw [ok_bind]
          dsimp only
          by_cases inside : start + len ≤ block.getLen
          · obtain ⟨sent, ran, ciphered⟩ := cipherMacWithKey_spec window cell whole inside
            refine .inl ⟨⟨context, rfl, .inr ⟨inside, _, _, _, stands, cell⟩⟩, sent, ?_,
              .inr ⟨key, eck, valid, cell, inside, ciphered⟩⟩
            rw [ran]
            rfl
          · refine .inr ⟨fun ⟨other, is, available⟩ => ?_, ?_⟩
            · obtain empty | ⟨room, -⟩ := available
              · exact nothing empty
              · exact inside room
            · cases ran : provider.cipherMacWithKey bound key block start len offset .downlink with
              | error refused => rfl
              | ok sent =>
                exact absurd ran (cipherMacWithKey_outside (Nat.pos_of_ne_zero nothing) inside)

end Ranges

/-! ### One block -/

section Blocks

variable {provider : BsAieKeyProvider} {ts : TdmaTime} {blk : DownlinkBlock}

theorem Carried.clear {plain : BitBuffer} (window : plain.Window) (clear : blk.encrypted = none)
    (start len offset : Nat) : Carried provider ts blk plain plain start len offset :=
  ⟨window, rfl, by rw [clear]⟩

theorem Carried.ciphered {request : AieRequest Sc3KeyIdentifier} {plain sent : BitBuffer}
    {start len offset : Nat} (window : plain.Window) (is : blk.encrypted = some request)
    (ran : len = 0 ∧ sent = plain ∨ ∃ key eck, provider.validKey request .downlink ts = some key ∧
        provider.encryptedCipherKey key.2 = .ok eck ∧ start + len ≤ plain.getLen ∧
          Ciphered (streamBit provider key.1 eck .downlink ts offset) start len plain sent) :
    Carried provider ts blk plain sent start len offset := by
  obtain ⟨nothing, rfl⟩ | ⟨key, eck, valid, cell, inside, ciphered⟩ := ran
  · exact ⟨window, rfl, by rw [is]; exact .inl ⟨nothing, rfl⟩⟩
  · exact ⟨ciphered.window, ciphered.size, by
      rw [is]; exact .inr ⟨key, eck, valid, cell, inside, ciphered.bits⟩⟩

theorem ready_of_clear (clear : blk.encrypted = none) : BlockReady provider ts blk := by
  intro request is
  rw [clear] at is
  contradiction

theorem unready_of_none {request : AieRequest Sc3KeyIdentifier} (is : blk.encrypted = some request)
    (named : blk.cipherRegion = none) : ¬ BlockReady provider ts blk := by
  intro ready
  obtain ⟨region, some', -⟩ := ready request is
  cases named.symm.trans some'

theorem blockReady_iff {request : AieRequest Sc3KeyIdentifier} {region : AieCipherRegion}
    (is : blk.encrypted = some request) (named : blk.cipherRegion = some region) :
    BlockReady provider ts blk ↔
      (isTraffic blk.logicalChannel = true → region = ⟨0, blk.macBlock.getLen⟩) ∧
        KeyAvailable provider ts request region.start region.len blk.macBlock.getLen := by
  simp [BlockReady, is, named]

/-- **A control block** is ciphered if it is ready; otherwise the slot is given up. -/
theorem cipherControl_spec (window : blk.macBlock.Window)
    (control : isTraffic blk.logicalChannel = false) :
    (BlockReady provider ts blk ∧ ∃ region sent,
      cipherControl provider ts blk = some { blk with macBlock := sent } ∧
        (blk.encrypted.isSome → blk.cipherRegion = some region) ∧
          Carried provider ts blk blk.macBlock sent region.start region.len 0) ∨
    ¬ BlockReady provider ts blk ∧ cipherControl provider ts blk = none := by
  unfold cipherControl
  cases is : blk.encrypted with
  | none =>
    refine .inl ⟨ready_of_clear is, ⟨0, 0⟩, blk.macBlock, rfl, fun asked => ?_,
      .clear window is 0 0 0⟩
    contradiction
  | some request =>
    dsimp only
    rw [control]
    cases named : blk.cipherRegion with
    | none => exact .inr ⟨unready_of_none is named, rfl⟩
    | some region =>
      dsimp only
      rw [blockReady_iff is named]
      obtain ⟨available, sent, ran, carried⟩ | ⟨missing, refused⟩ :=
        @cipherRange_spec provider ts request _ region.start region.len 0 window rfl
      · rw [ran]
        exact .inl ⟨⟨fun traffic => absurd (control.symm.trans traffic) (by decide), available⟩,
          region, sent, rfl, fun _ => rfl, .ciphered window is carried⟩
      · rw [refused]
        exact .inr ⟨fun ready => missing ready.2, rfl⟩

theorem cipherControl_speech (speech : isTraffic blk.logicalChannel = true) :
    cipherControl provider ts blk = some blk := by
  unfold cipherControl
  split
  · rfl
  · rw [if_pos speech]

/-- **Two speech frames** are ciphered as a whole if they are ready. -/
theorem cipherSpeech_spec (window : blk.macBlock.Window)
    (speech : isTraffic blk.logicalChannel = true) :
    (BlockReady provider ts blk ∧ ∃ sent,
      cipherSpeech provider ts blk = some { blk with macBlock := sent } ∧
        Carried provider ts blk blk.macBlock sent 0 blk.macBlock.getLen 0) ∨
    ¬ BlockReady provider ts blk ∧ cipherSpeech provider ts blk = none := by
  unfold cipherSpeech
  cases is : blk.encrypted with
  | none =>
    exact .inl ⟨ready_of_clear is, blk.macBlock, rfl, .clear window is _ _ _⟩
  | some request =>
    cases named : blk.cipherRegion with
    | none => exact .inr ⟨unready_of_none is named, rfl⟩
    | some region =>
      obtain ⟨start, len⟩ := region
      dsimp only
      rw [blockReady_iff is named]
      by_cases whole : start = 0 ∧ len = blk.macBlock.getLen
      · obtain ⟨rfl, rfl⟩ := whole
        rw [if_neg (by simp)]
        obtain ⟨available, sent, ran, carried⟩ | ⟨missing, refused⟩ :=
          @cipherRange_spec provider ts request _ 0 blk.macBlock.getLen 0 window rfl
        · rw [ran]
          exact .inl ⟨⟨fun _ => rfl, available⟩, sent, rfl, .ciphered window is carried⟩
        · rw [refused]
          exact .inr ⟨fun ready => missing ready.2, rfl⟩
      · rw [if_pos (by tauto)]
        refine .inr ⟨fun ready => ?_, rfl⟩
        cases ready.1 speech
        exact absurd ⟨rfl, rfl⟩ whole

theorem keyAvailable_frame {request : AieRequest Sc3KeyIdentifier} {frameB : BitBuffer}
    (frame : frameB.getLen = 137) : KeyAvailable provider ts request 0 137 frameB.getLen ↔
      KeyAvailable provider ts request 0 274 274 := by
  simp [KeyAvailable, frame]

/-- **The speech frame beside a stolen half** is ciphered if its block is ready. -/
theorem cipherStolen_spec {frameB : BitBuffer} (window : frameB.Window) (frame : frameB.getLen = 137)
    (size : blk.macBlock.getLen = 274) (speech : isTraffic blk.logicalChannel = true) :
    (BlockReady provider ts blk ∧ ∃ sent, cipherStolen provider ts blk frameB = some sent ∧
        Carried provider ts blk frameB sent 0 137 216) ∨
    ¬ BlockReady provider ts blk ∧ cipherStolen provider ts blk frameB = none := by
  unfold cipherStolen
  cases is : blk.encrypted with
  | none => exact .inl ⟨ready_of_clear is, frameB, rfl, .clear window is _ _ _⟩
  | some request =>
    cases named : blk.cipherRegion with
    | none => exact .inr ⟨unready_of_none is named, rfl⟩
    | some region =>
      obtain ⟨start, len⟩ := region
      dsimp only
      rw [blockReady_iff is named, size]
      by_cases whole : start = 0 ∧ len = 274
      · obtain ⟨rfl, rfl⟩ := whole
        rw [if_neg (by simp [frame]), ← keyAvailable_frame frame]
        obtain ⟨available, sent, ran, carried⟩ | ⟨missing, refused⟩ :=
          @cipherRange_spec provider ts request _ 0 137 216 window rfl
        · exact .inl ⟨⟨fun _ => rfl, available⟩, sent, ran, .ciphered window is carried⟩
        · exact .inr ⟨fun ready => missing ready.2, refused⟩
      · rw [if_pos (by tauto)]
        refine .inr ⟨fun ready => ?_, rfl⟩
        cases ready.1 speech
        exact absurd ⟨rfl, rfl⟩ whole

end Blocks

/-! ### Encoding -/

section Encoding

theorem encodeCp_ok {prim : TmvUnitdataReq} (window : prim.macBlock.Window)
    (control : prim.logicalChannel ∈ [.bsch, .schHd, .stch, .bnch, .schF])
    (size : (getParams prim.logicalChannel).map (·.type1Bits) = some prim.macBlock.getLen) :
    ∃ type5, encodeCp prim = some type5 := by
  have handled : prim.logicalChannel.isControlChannel = true ∧ prim.logicalChannel ≠ .aach := by
    generalize prim.logicalChannel = lchan at control
    revert lchan
    decide
  obtain ⟨params, count, found, sound⟩ := getParams_sound handled.1 handled.2
  have length : prim.macBlock.getLen = params.type1Bits := by
    rw [found] at size
    exact (Option.some_inj.mp size).symm
  have contents : (prim.macBlock.seek 0).toBitarr params.type1Bits
      = some (windowBits prim.macBlock) := by
    rw [← length, toBitarr_window window]
  obtain ⟨_, _, _, _, sent⟩ := encodeCp_spec prim handled.1 handled.2 found sound length
    ((length_windowBits window).trans length) contents
  exact ⟨_, sent⟩

theorem encodeTp_ok {prim : TmvUnitdataReq} (window : prim.macBlock.Window)
    (speech : prim.logicalChannel = .tchS) (size : prim.macBlock.getLen = 274) :
    ∃ type5, encodeTp prim 1 = some type5 := by
  have codecLength : (windowBits prim.macBlock).length = 274 := (length_windowBits window).trans size
  have contents : (prim.macBlock.seek 0).toBitarr 274 = some (windowBits prim.macBlock) := by
    rw [← size, toBitarr_window window]
  obtain ⟨channelBits, reordered, length, _⟩ := reorder_restored codecLength
  obtain ⟨_, _, _, _, _, sent⟩ := encodeTp_spec length prim speech size contents codecLength reordered
  exact ⟨_, sent⟩

theorem takeTchSFrameB_ok {fullSpeech : BitBuffer} (window : fullSpeech.Window)
    (size : fullSpeech.getLen = 274) :
    ∃ frameB, takeTchSFrameB fullSpeech = some frameB ∧ frameB.Window ∧ frameB.getLen = 137 ∧
      windowBits frameB = (windowBits fullSpeech).drop 137 := by
  unfold getLen at size
  have remaining : (fullSpeech.seek 137).getLenRemaining = 137 := by
    show fullSpeech.stop - (fullSpeech.start + 137) = 137
    omega
  have unread : (fullSpeech.seek 137).unread = (windowBits fullSpeech).drop 137 := by
    unfold unread windowBits
    rw [List.drop_take, List.drop_drop]
    congr 1
  have length : ((windowBits fullSpeech).drop 137).length = 137 := by
    rw [List.length_drop, length_windowBits window, getLen, size]
  have read : (fullSpeech.seek 137).toBitarr 137 = some ((windowBits fullSpeech).drop 137) := by
    rw [toBitarr, if_pos remaining.ge, unread, List.take_of_length_le length.le]
  refine ⟨.ofBits ((windowBits fullSpeech).drop 137), ?_, ofBits_window _, ?_, windowBits_ofBits _⟩
  · unfold takeTchSFrameB NUM_ACELP_BITS
    simp only [getLen, size, guard, if_true, Option.pure_def, Option.bind_eq_bind,
      Option.bind_some, read]
  · rw [getLen_ofBits, length]

variable {provider : BsAieKeyProvider} {ts : TdmaTime} {blk : DownlinkBlock}

theorem encodeFirst_speech (sized : Sized blk) (speech : blk.logicalChannel = .tchS) :
    (BlockReady provider ts blk ∧ ∃ type5,
      encodeFirst provider ts blk true = .ok (some type5) ∧ SpeechProtected provider ts blk type5) ∨
    ¬ BlockReady provider ts blk ∧ encodeFirst provider ts blk true = .ok none := by
  have traffic : isTraffic blk.logicalChannel = true := by rw [speech]; rfl
  have length : blk.macBlock.getLen = 274 := by
    have size := sized.size
    rw [speech] at size
    exact (Option.some_inj.mp size).symm
  unfold encodeFirst
  rw [if_pos traffic, if_pos rfl]
  obtain ⟨ready, sent, ran, carried⟩ | ⟨unready, refused⟩ :=
    @cipherSpeech_spec provider ts _ sized.window traffic
  · obtain ⟨type5, encoded⟩ := @encodeTp_ok { blk.toTmvUnitdataReq with macBlock := sent }
      carried.window speech (carried.size.trans length)
    rw [ran]
    dsimp only
    rw [encoded]
    exact .inl ⟨ready, type5, rfl, sent, carried, encoded⟩
  · rw [refused]
    exact .inr ⟨unready, rfl⟩

theorem encodeFirst_control {sent : BitBuffer} (alone : Bool) (window : sent.Window)
    (size : sent.getLen = blk.macBlock.getLen) (sized : Sized blk)
    (control : blk.logicalChannel ∈ [.bsch, .schHd, .stch, .bnch, .schF]) :
    ∃ type5, encodeFirst provider ts { blk with macBlock := sent } alone = .ok (some type5) ∧
      encodeSecond provider ts { blk with macBlock := sent } = .ok (some type5) ∧
        encodeCp { blk.toTmvUnitdataReq with macBlock := sent } = some type5 := by
  have quiet : isTraffic blk.logicalChannel = false := by
    generalize blk.logicalChannel = lchan at control
    revert lchan
    decide
  obtain ⟨type5, encoded⟩ := @encodeCp_ok { blk.toTmvUnitdataReq with macBlock := sent }
    window control (by rw [sized.size, size])
  refine ⟨type5, ?_, ?_, encoded⟩
  · unfold encodeFirst
    rw [if_neg (by simp [quiet]), encoded]
    rfl
  · unfold encodeSecond
    rw [if_neg (by simp [quiet]), encoded]
    rfl

theorem encodeSecond_speech (sized : Sized blk) (speech : blk.logicalChannel = .tchS) :
    (BlockReady provider ts blk ∧ ∃ type5,
      encodeSecond provider ts blk = .ok (some type5) ∧ StolenProtected provider ts blk type5) ∨
    ¬ BlockReady provider ts blk ∧ encodeSecond provider ts blk = .ok none := by
  have traffic : isTraffic blk.logicalChannel = true := by rw [speech]; rfl
  have length : blk.macBlock.getLen = 274 := by
    have size := sized.size
    rw [speech] at size
    exact (Option.some_inj.mp size).symm
  obtain ⟨frameB, taken, window, frame, _⟩ := takeTchSFrameB_ok sized.window length
  unfold encodeSecond
  rw [if_pos traffic, taken]
  obtain ⟨ready, sent, ran, carried⟩ | ⟨unready, refused⟩ :=
    @cipherStolen_spec provider ts _ _ window frame length traffic
  · obtain ⟨type5, encoded⟩ := encodeTchSHalf_ok carried.window blk.scramblingCode
      (carried.size.trans frame)
    refine .inl ⟨ready, type5, ?_, frameB, sent, taken, carried, encoded⟩
    show (match cipherStolen provider ts blk frameB with
      | none => pure none
      | some frameB => some <$> unwrapped (encodeTchSHalf frameB blk.scramblingCode)) = _
    rw [ran]
    dsimp only
    rw [encoded]
    rfl
  · refine .inr ⟨unready, ?_⟩
    show (match cipherStolen provider ts blk frameB with
      | none => pure none
      | some frameB => some <$> unwrapped (encodeTchSHalf frameB blk.scramblingCode)) = _
    rw [refused]
    rfl

end Encoding

/-! ### The slot -/

/-- **Nothing is handed on in clear, or changed outside its range**, that asks for a cipher. -/
def FailsClosed (provider : BsAieKeyProvider) (lmac : LmacBs) (prim : TmvUnitdataReqSlot) : Prop :=
  ∀ after phy, rxTmvUnitdataReqSlot provider lmac prim = .ok (after, some phy) →
    SlotProtected provider prim phy

/-- **The physical layer is handed one slot**, with the access assignment. -/
def KeepsRhythm (provider : BsAieKeyProvider) (lmac : LmacBs) (prim : TmvUnitdataReqSlot) : Prop :=
  ∃ after phy, rxTmvUnitdataReqSlot provider lmac prim = .ok (after, some phy) ∧ phy.bbk.isSome

section Slot

variable {provider : BsAieKeyProvider} {lmac : LmacBs} {prim : TmvUnitdataReqSlot}

/-- What a ready slot becomes, and that any other is given up. -/
def Outcome (provider : BsAieKeyProvider) (lmac : LmacBs) (prim : TmvUnitdataReqSlot) : Prop :=
  ∃ after, (SlotReady provider prim ∧ ∃ phy,
      rxTmvUnitdataReqSlot provider lmac prim = .ok (after, some phy) ∧ phy.bbk.isSome ∧
        SlotProtected provider prim phy) ∨
    ¬ SlotReady provider prim ∧ rxTmvUnitdataReqSlot provider lmac prim = .ok (after, none)

theorem Outcome.holds (outcome : Outcome provider lmac prim) :
    (FailsClosed provider lmac prim ∧ KeepsRhythm provider lmac prim ↔ SlotReady provider prim) ∧
      FailsClosed provider lmac prim := by
  obtain ⟨after, ⟨ready, phy, ran, access, isProtected⟩ | ⟨unready, ran⟩⟩ := outcome
  · have closed : FailsClosed provider lmac prim := by
      intro other phy' same
      cases ran.symm.trans same
      exact isProtected
    exact ⟨⟨fun _ => ready, fun _ => ⟨closed, after, phy, ran, access⟩⟩, closed⟩
  · have closed : FailsClosed provider lmac prim := by
      intro other phy same
      cases ran.symm.trans same
    refine ⟨⟨fun ⟨_, other, phy, same, _⟩ => ?_, fun ready => absurd ready unready⟩, closed⟩
    cases ran.symm.trans same

variable {blk1 : DownlinkBlock}

theorem rxTmvUnitdataReqSlot_eq {bbk : DownlinkBlock} {aach : BitBuffer} {burstType : BurstType}
    {trainType : TrainingSequence} (slot : 1 ≤ prim.ts.t ∧ prim.ts.t ≤ lmac.uplinkPhyChan.length)
    (access : prim.bbk = some bbk) (assigned : encodeAach bbk.macBlock bbk.scramblingCode = some aach)
    (first : prim.blk1 = some blk1)
    (burst : burstOf blk1.logicalChannel prim.blk2.isSome = .ok (burstType, trainType)) :
    let after := { lmac with
      uplinkPhyChan := lmac.uplinkPhyChan.set (prim.ts.t - 1) prim.ulPhyChan }
    rxTmvUnitdataReqSlot provider lmac prim =
      match cipherBlocks provider prim.ts blk1 prim.blk2 with
      | none => .ok (after, none)
      | some (blk1, blk2) => (encodeBlocks provider prim.ts blk1 blk2).map fun encoded =>
        (after, encoded.map fun (first, second) =>
          ⟨trainType, burstType, some aach, some first, second⟩) := by
  unfold rxTmvUnitdataReqSlot
  rw [assertThat_of slot, access, first]
  dsimp only [unwrapped]
  simp only [ok_bind, pure, Except.pure, burst]
  cases cipherBlocks provider prim.ts blk1 prim.blk2 with
  | none => rfl
  | some both =>
    obtain ⟨blk1, blk2⟩ := both
    dsimp only
    rw [assigned]
    cases encodeBlocks provider prim.ts blk1 blk2 with
    | error fault => rfl
    | ok encoded =>
      cases encoded with
      | none => rfl
      | some both => rfl

/-- **A slot with one block.** -/
theorem outcome_whole (scheduled : Scheduled lmac prim) (first : prim.blk1 = some blk1)
    (alone : prim.blk2 = none) (sized : Sized blk1) (channel : blk1.logicalChannel ∈ [.schF, .tchS]) :
    Outcome provider lmac prim := by
  obtain ⟨bbk, access, size⟩ := scheduled.access
  obtain ⟨aach, assigned⟩ := encodeAach_ok bbk.scramblingCode size
  have ready : SlotReady provider prim ↔ BlockReady provider prim.ts blk1 := by
    unfold SlotReady
    rw [first, alone]
    simp
  have burst : burstOf blk1.logicalChannel prim.blk2.isSome = .ok (.ndb, .normalTrainSeq1) := by
    rw [alone]
    generalize blk1.logicalChannel = lchan at channel
    revert lchan
    decide
  have runs := @rxTmvUnitdataReqSlot_eq provider lmac prim _ _ _ _ _ scheduled.slot access assigned
    first burst
  rw [alone] at runs
  unfold Outcome
  rw [runs, ready]
  unfold cipherBlocks encodeBlocks
  refine ⟨{ lmac with uplinkPhyChan := lmac.uplinkPhyChan.set (prim.ts.t - 1) prim.ulPhyChan }, ?_⟩
  rcases mem_pair.mp channel with control | speech
  · have quiet : isTraffic blk1.logicalChannel = false := by rw [control]; rfl
    obtain ⟨isReady, region, sent, ran, named, carried⟩ | ⟨unready, refused⟩ :=
      @cipherControl_spec provider prim.ts _ sized.window quiet
    · obtain ⟨type5, encoded, -, coded⟩ := @encodeFirst_control provider prim.ts _ _ true
        carried.window carried.size sized (by rw [control]; decide)
      refine .inl ⟨isReady, ⟨.normalTrainSeq1, .ndb, some aach, some type5, none⟩, ?_, rfl, ?_, ?_⟩
      · simp [ran, encoded, Except.map, pure, Except.pure]
      · refine ⟨blk1, type5, first, rfl, ?_⟩
        rw [if_neg (by simp [quiet])]
        exact ⟨region, sent, named, carried, coded⟩
      · rw [alone]
        trivial
    · exact .inr ⟨unready, by simp [refused]⟩
  · have traffic : isTraffic blk1.logicalChannel = true := by rw [speech]; rfl
    rw [cipherControl_speech traffic]
    obtain ⟨isReady, type5, encoded, isProtected⟩ | ⟨unready, refused⟩ :=
      @encodeFirst_speech provider prim.ts _ sized speech
    · refine .inl ⟨isReady, ⟨.normalTrainSeq1, .ndb, some aach, some type5, none⟩, ?_, rfl, ?_, ?_⟩
      · simp [encoded, Except.map, pure, Except.pure]
      · refine ⟨blk1, type5, first, rfl, ?_⟩
        rw [if_pos traffic]
        exact isProtected
      · rw [alone]
        trivial
    · exact .inr ⟨unready, by simp [refused, Except.map, pure, Except.pure]⟩

/-- **A slot with two halves.** -/
theorem outcome_halves {blk2 : DownlinkBlock} (scheduled : Scheduled lmac prim)
    (first : prim.blk1 = some blk1) (second : prim.blk2 = some blk2) (sized : Sized blk1)
    (sized2 : Sized blk2) (channel : blk1.logicalChannel ∈ [.bsch, .schHd, .stch, .bnch])
    (channel2 : blk2.logicalChannel ∈ [.schHd, .stch, .bnch, .tchS]) :
    Outcome provider lmac prim := by
  obtain ⟨bbk, access, size⟩ := scheduled.access
  obtain ⟨aach, assigned⟩ := encodeAach_ok bbk.scramblingCode size
  have ready : SlotReady provider prim ↔
      BlockReady provider prim.ts blk1 ∧ BlockReady provider prim.ts blk2 := by
    unfold SlotReady
    rw [first, second]
    simp
  obtain ⟨⟨burstType, trainType⟩, burst⟩ : ∃ types,
      burstOf blk1.logicalChannel prim.blk2.isSome = .ok types := by
    rw [second]
    generalize blk1.logicalChannel = lchan at channel
    simp only [mem_cons, not_mem_nil, or_false] at channel
    rcases channel with rfl | rfl | rfl | rfl <;> exact ⟨_, rfl⟩
  have runs := @rxTmvUnitdataReqSlot_eq provider lmac prim _ _ _ _ _ scheduled.slot access assigned
    first burst
  rw [second] at runs
  unfold Outcome
  rw [runs, ready]
  unfold cipherBlocks encodeBlocks
  refine ⟨{ lmac with uplinkPhyChan := lmac.uplinkPhyChan.set (prim.ts.t - 1) prim.ulPhyChan }, ?_⟩
  have quiet : isTraffic blk1.logicalChannel = false := by
    generalize blk1.logicalChannel = lchan at channel
    revert lchan
    decide
  have coded1 : blk1.logicalChannel ∈ [.bsch, .schHd, .stch, .bnch, .schF] := by
    generalize blk1.logicalChannel = lchan at channel
    revert lchan
    decide
  obtain ⟨isReady, region, sent, ran, named, carried⟩ | ⟨unready, refused⟩ :=
    @cipherControl_spec provider prim.ts _ sized.window quiet
  · obtain ⟨type5, encoded, -, coded⟩ := @encodeFirst_control provider prim.ts _ _ false
      carried.window carried.size sized coded1
    have firstProtected : ∃ blk1 type5', prim.blk1 = some blk1 ∧ some type5 = some type5' ∧
        if isTraffic blk1.logicalChannel then SpeechProtected provider prim.ts blk1 type5'
        else ControlProtected provider prim.ts blk1 type5' := by
      refine ⟨blk1, type5, first, rfl, ?_⟩
      rw [if_neg (by simp [quiet])]
      exact ⟨region, sent, named, carried, coded⟩
    by_cases speech : blk2.logicalChannel = .tchS
    · have traffic : isTraffic blk2.logicalChannel = true := by rw [speech]; rfl
      have uncovered := @cipherControl_speech provider prim.ts _ traffic
      obtain ⟨isReady2, half, encoded2, isProtected⟩ | ⟨unready, refused⟩ :=
        @encodeSecond_speech provider prim.ts _ sized2 speech
      · refine .inl ⟨⟨isReady, isReady2⟩,
          ⟨trainType, burstType, some aach, some type5, some half⟩, ?_, rfl, firstProtected, ?_⟩
        · simp [ran, uncovered, encoded, encoded2, Except.map, pure, Except.pure]
        · rw [second]
          dsimp only
          rw [if_pos traffic]
          exact isProtected
      · refine .inr ⟨fun both => unready both.2, ?_⟩
        simp [ran, uncovered, encoded, refused, Except.map, pure, Except.pure]
    · have quiet2 : isTraffic blk2.logicalChannel = false := by
        generalize blk2.logicalChannel = lchan at channel2 speech
        revert lchan
        decide
      have coded2 : blk2.logicalChannel ∈ [.bsch, .schHd, .stch, .bnch, .schF] := by
        generalize blk2.logicalChannel = lchan at channel2 speech
        revert lchan
        decide
      obtain ⟨isReady2, region2, sent2, ran2, named2, carried2⟩ | ⟨unready, refused⟩ :=
        @cipherControl_spec provider prim.ts _ sized2.window quiet2
      · obtain ⟨half, -, encoded2, half5⟩ := @encodeFirst_control provider prim.ts _ _ false
          carried2.window carried2.size sized2 coded2
        refine .inl ⟨⟨isReady, isReady2⟩,
          ⟨trainType, burstType, some aach, some type5, some half⟩, ?_, rfl, firstProtected, ?_⟩
        · simp [ran, ran2, encoded, encoded2, Except.map, pure, Except.pure]
        · rw [second]
          dsimp only
          rw [if_neg (by simp [quiet2])]
          exact ⟨region2, sent2, named2, carried2, half5⟩
      · exact .inr ⟨fun both => unready both.2, by simp [ran, refused]⟩
  · exact .inr ⟨fun both => unready both.1, by simp [refused]⟩

/-- **A slot is handed on exactly if the keys of all its blocks are there**; what is handed on is
ciphered as its policies ask. -/
theorem slot_handed_on_iff (scheduled : Scheduled lmac prim) :
    (FailsClosed provider lmac prim ∧ KeepsRhythm provider lmac prim ↔ SlotReady provider prim) ∧
      FailsClosed provider lmac prim := by
  obtain ⟨blk1, first, sized, blocks⟩ := scheduled.blocks
  apply Outcome.holds
  cases second : prim.blk2 with
  | none =>
    rw [second] at blocks
    exact outcome_whole scheduled first second sized blocks
  | some blk2 =>
    rw [second] at blocks
    exact outcome_halves scheduled first second sized blocks.1 blocks.2.1 blocks.2.2

end Slot

/-! ### Slots of one cell -/

theorem keyedCell_fits : 3 ≤ 31 := by decide

/-- A cell with a key of class 2 in which no terminal has a session. -/
def keyedCell : BsAieKeyProvider where
  crypto := ⟨fun _ _ _ _ => none, fun gck _ => gck, fun _ _ _ _ => 0⟩
  aie := ⟨⟨true, some ⟨.tea3, 3, 4, 0, keyedCell_fits⟩, none⟩, true, none⟩
  sessions := ⟨⟨[], []⟩, ∅, ∅⟩
  mainCarrier := 1521
  colourCode := 1
  locationArea := some 1
  unixNow := 0

def quietLmac : LmacBs := ⟨[.cp, .cp, .cp, .cp]⟩

def zeroBlock (logicalChannel : ErrorControl.LogicalChannel) (size : Nat)
    (request : Option (AieRequest Sc3KeyIdentifier)) : DownlinkBlock :=
  ⟨⟨.ofBits (List.replicate size false), logicalChannel, 3#32⟩, request,
    request.map fun _ => ⟨0, size⟩⟩

def speechSlot (request : Option (AieRequest Sc3KeyIdentifier)) : TmvUnitdataReqSlot :=
  ⟨⟨2, 1, 1, 0⟩, some (zeroBlock .aach 14 none), some (zeroBlock .tchS 274 request), none, .tp⟩

def secretSlot : TmvUnitdataReqSlot := speechSlot (some (.sc2 (.individual 1001) .traffic))

theorem getLen_zeroBlock (logicalChannel : ErrorControl.LogicalChannel) (size : Nat)
    (request : Option (AieRequest Sc3KeyIdentifier)) :
    (zeroBlock logicalChannel size request).macBlock.getLen = size := by
  simp only [zeroBlock, BitBuffer.ofBits, BitBuffer.getLen, length_replicate, Nat.sub_zero]

theorem speechSlot_scheduled (request : Option (AieRequest Sc3KeyIdentifier)) :
    Scheduled quietLmac (speechSlot request) where
  slot := ⟨by simp [speechSlot], by simp [speechSlot, quietLmac]⟩
  access := ⟨_, rfl, by decide⟩
  blocks := by
    refine ⟨_, rfl, ⟨ofBits_window _, ?_⟩, mem_cons_of_mem _ mem_cons_self⟩
    rw [getLen_zeroBlock]
    rfl

/-- Speech in clear is handed on; speech for a terminal that has no session is not. -/
theorem slot_handed_on_iff_speech : KeepsRhythm keyedCell quietLmac (speechSlot none) ∧
      ¬ (FailsClosed keyedCell quietLmac secretSlot ∧ KeepsRhythm keyedCell quietLmac secretSlot) := by
  refine ⟨((slot_handed_on_iff (speechSlot_scheduled none)).1.mpr ?_).2, fun kept => ?_⟩
  · refine ⟨fun blk is => ?_, fun blk is => nomatch is⟩
    cases is
    exact ready_of_clear rfl
  · obtain ⟨ready, -⟩ := (slot_handed_on_iff (speechSlot_scheduled _)).1.mp kept
    obtain ⟨_, _, _, context, resolved, _⟩ := ready _ rfl _ rfl
    cases resolved

/-- **The physical layer hears nothing** in the slot of speech whose key is missing. -/
theorem slot_given_up : Scheduled quietLmac secretSlot ∧
    rxTmvUnitdataReqSlot keyedCell quietLmac secretSlot = .ok (⟨[.cp, .tp, .cp, .cp]⟩, none) ∧
      ¬ KeepsRhythm keyedCell quietLmac secretSlot := by
  have ran : rxTmvUnitdataReqSlot keyedCell quietLmac secretSlot
      = .ok (⟨[.cp, .tp, .cp, .cp]⟩, none) := by decide +kernel
  refine ⟨speechSlot_scheduled _, ran, fun ⟨after, phy, same, _⟩ => ?_⟩
  cases ran.symm.trans same

end Bluestation.DownlinkSlot
