/-
**What the handlers do with a PDU.**

Each handler is summed up in its outcome: nothing, an SDU handed on, a first fragment filed, a
fragment appended or a last one appended. The outcome is what the base station can know of the PDU:
its address, the owner of its slot, and its field as it is deciphered.

* `Outcome.Does` — what each outcome does to the fragments that are held.
* `rxMacData_spec`, `rxMacAccess_spec`, `rxMacFragUl_spec`, `rxMacEndUl_spec`, `rxMacEndHu_spec` —
  each handler, on a PDU of its kind at the start of a block.
-/

import Bluestation.Umac.UplinkFields

namespace Bluestation

open Bits List Option BsDefrag MacEndUl

/-! ### What becomes of a PDU -/

/-- What the base station does with a PDU. -/
inductive Outcome (Key : Type) where
  /-- Nothing, and the rest of the block is not read. -/
  | stopped
  /-- A whole SDU is handed on. -/
  | passed
  /-- A first fragment is filed. -/
  | filed (addr : TetraAddress) (aieRequest : AieRequest Key) (bits : List Bool)
  /-- A fragment is appended for the owner of the slot. -/
  | appended (owner : Nat) (bits : List Bool)
  /-- The last fragment is appended for the owner of the slot. -/
  | completed (owner : Nat) (bits : List Bool)

variable {Key Context : Type}

/-- The handlers go on behind the PDU. -/
structure GoesOn (prim next : TmvUnitdataInd) (rest : List Bool) : Prop where
  begins : Begins next.pdu rest
  later : prim.pdu.start < next.pdu.start
  same : next = { prim with pdu := next.pdu }

/-- The defragmenter holds the same, and nothing was completed. -/
structure Untouched (umac later : UmacBs Key) : Prop where
  held : later.defrag.held = umac.defrag.held
  reassembled : later.reassembled = umac.reassembled

/-- What an outcome does to the MAC, and where the handlers go on. -/
def Outcome.Does (umac : UmacBs Key) (prim : TmvUnitdataInd) (rest : List Bool)
    (later : UmacBs Key) (next : TmvUnitdataInd) : Outcome Key → Prop
  | .stopped => Untouched umac later ∧ next.pdu.start = prim.pdu.start
  | .passed => Untouched umac later ∧ GoesOn prim next rest
  | .filed addr aieRequest bits =>
    later.defrag.held = Function.update umac.defrag.held addr.ssi
      (some ⟨.active, addr, prim.ulTime, prim.ulTime, 1, some aieRequest, bits⟩) ∧
    later.reassembled = umac.reassembled ∧ GoesOn prim next rest
  | .appended owner bits =>
    later.defrag.held = Function.update umac.defrag.held owner
      ((umac.defrag.held owner).bind fun buf => BsDefrag.appended buf bits prim.ulTime) ∧
    later.reassembled = umac.reassembled ∧ next.pdu.start = prim.pdu.start
  | .completed owner bits =>
    later.defrag.held = Function.update umac.defrag.held owner none ∧
    match (umac.defrag.held owner).bind fun buf => BsDefrag.appended buf bits prim.ulTime with
    | none => later.reassembled = umac.reassembled ∧ next.pdu.start = prim.pdu.start
    | some buf => GoesOn prim next rest ∧
        ∃ ind : TmaUnitdataInd Key, later.reassembled = umac.reassembled ++ [ind] ∧
          ind.pdu = buf.buffer ∧ ind.mainAddress = buf.addr ∧
          ∀ request ∈ buf.aieRequest, ind.airInterfaceEncryption.withScope .macFragment =
            request.withScope .macFragment

namespace Surroundings

variable (air : Surroundings Key Context)

/-- The outcome of a field that carries its address. -/
def fieldOutcome (resolution : Resolution Key Context) (isFragStart stopsEmpty : Bool)
    (field : List Bool) : Outcome Key :=
  match resolution with
  | .resolved addr aieRequest context =>
    match air.openField context field with
    | none => .stopped
    | some bits =>
      if isFragStart then .filed addr aieRequest bits
      else if stopsEmpty ∧ bits = [] then .stopped
      else .passed
  | _ => .stopped

/-- The owner of the slot and the bits of its field, as they are opened. -/
def slotBits (held : Nat → Option (DefragBuffer Key)) (prim : TmvUnitdataInd)
    (field : List Bool) : Option (Nat × List Bool) :=
  match air.schedule.ulGetSlotOwner prim.ulTime prim.blockNum with
  | .ok (some owner) =>
    (air.fragmentContext ((held owner).bind (·.aieRequest)) owner prim.ulTime).bind
      fun context => (air.openField context field).map (owner, ·)
  | _ => none

variable {prim next : TmvUnitdataInd} {field rest : List Bool} {umac later : UmacBs Key}
  {filled : Nat} {fillBits : Bool}

/-- **The field of a MAC-FRAG or MAC-END**, as the handlers open it. -/
theorem slotField_spec {defrag : BsDefrag Key} {block : BitBuffer} {stop : Nat} {behind : List Bool}
    {result : Option (Nat × Option (AieRequest Key) × BitBuffer)}
    (inField : Field block stop field behind) (opened : air.slotField defrag prim block = .ok result) :
    (air.slotBits defrag.held prim field = none ∧ result = none) ∨
    ∃ owner bits cropped, air.slotBits defrag.held prim field = some (owner, bits) ∧
      result = some (owner, (defrag.held owner).bind (·.aieRequest), cropped) ∧
      cropped.start = block.start ∧ cropped.pos = block.pos ∧ bits.length = field.length ∧
      Field cropped stop bits behind := by
  obtain ⟨asked, answer, opened⟩ := bind_eq_ok.mp opened
  unfold slotBits
  rw [answer]
  cases asked with
  | none =>
    cases opened
    exact .inl ⟨rfl, rfl⟩
  | some owner =>
    obtain ⟨made, fieldMade, mapped⟩ := bind_eq_ok.mp opened
    cases mapped
    obtain ⟨request, known, opened⟩ := bind_eq_ok.mp fieldMade
    dsimp only
    rw [← getAieRequest_ok known]
    cases told : air.fragmentContext request owner prim.ulTime with
    | none =>
      rw [told] at opened
      cases opened
      exact .inl ⟨rfl, rfl⟩
    | some context =>
      rw [told] at opened
      obtain ⟨refused, stopped⟩ | ⟨bits, cropped, taken, ciphered, start, pos, length, later⟩ :=
        air.cipherField_spec inField context
      · simp only [stopped] at opened
        cases opened
        simp only [bind_some, refused]
        exact .inl ⟨rfl, rfl⟩
      · simp only [ciphered] at opened
        cases opened
        simp only [bind_some, taken]
        refine .inr ⟨owner, bits, cropped, rfl, ?_, start, pos, length, later⟩
        rw [← getAieRequest_ok known]
        rfl

/-- The outcome of a field that belongs to the owner of the slot. -/
def ownerOutcome (made : Nat → List Bool → Outcome Key)
    (held : Nat → Option (DefragBuffer Key)) (prim : TmvUnitdataInd) (field : List Bool) :
    Outcome Key :=
  match air.slotBits held prim field with
  | some (owner, bits) => made owner bits
  | none => .stopped

/-- **A MAC-FRAG** that fills its slot. -/
theorem rxMacFragUl_spec {header : MacFragUl}
    (begins : Begins prim.pdu (header.wire ++ (field ++ (fill filled ++ []))))
    (flag : header.fillBits = decide (0 < filled))
    (ran : air.rxMacFragUl umac prim = .ok (later, next)) :
    (air.ownerOutcome .appended umac.defrag.held prim field).Does umac prim [] later next := by
  have len : (prim.pdu.skip header.wire.length).getLen =
      header.wire.length + field.length + filled := by
    have total := begins.getLen
    simp only [length_append, length_fill, length_nil] at total
    show prim.pdu.getLen = _
    omega
  obtain ⟨cropped, stripped, start, pos, inField⟩ := stripFill_ok begins rfl flag
  unfold rxMacFragUl at ran
  simp only [begins.getPos, assertThat_of, ok_bind, parsed_ok (MacFragUl.reads_fromBitbuf header)
    begins, len, stripped] at ran
  obtain ⟨result, opened, ran⟩ := bind_eq_ok.mp ran
  unfold ownerOutcome
  obtain ⟨refused, rfl⟩ | ⟨owner, bits, later, taken, rfl, laterStart, -, -, inLater⟩ :=
    air.slotField_spec inField opened
  · rw [refused]
    cases ran
    exact ⟨⟨rfl, rfl⟩, start⟩
  · rw [taken]
    simp only [inLater.lenRemaining_ok, ok_bind] at ran
    obtain ⟨defrag, inserted, ran⟩ := bind_eq_ok.mp ran
    cases ran
    have appended := held_insertNext inLater.window inserted
    rw [inLater.unread_eq] at appended
    exact ⟨appended, rfl, laterStart.trans start⟩

@[simp] theorem handleReservation_defrag (umac : UmacBs Key) (addr : TetraAddress)
    (time : TdmaTime) (reservationReq : Option ReservationRequirement) (continuesFragment : Bool) :
    (air.handleReservation umac addr time reservationReq continuesFragment).defrag =
      umac.defrag := by
  unfold handleReservation noCapacity
  split
  · rfl
  · split <;> rfl

@[simp] theorem handleReservation_reassembled (umac : UmacBs Key) (addr : TetraAddress)
    (time : TdmaTime) (reservationReq : Option ReservationRequirement) (continuesFragment : Bool) :
    (air.handleReservation umac addr time reservationReq continuesFragment).reassembled =
      umac.reassembled := by
  unfold handleReservation noCapacity
  split
  · rfl
  · split <;> rfl

theorem goesOn_advance (prim : TmvUnitdataInd) {cropped : BitBuffer} {head : List Bool}
    {bits : List Bool} (headed : 0 < head.length)
    (inField : Field cropped prim.pdu.stop bits (fill filled ++ rest))
    (place : cropped.pos = prim.pdu.start + head.length) (same : bits.length = field.length) :
    GoesOn prim { prim with
      pdu := advance (prim.pdu.skip head.length) cropped (head.length + field.length + filled) }
      rest := by
  refine ⟨?_, ?_, rfl⟩
  · have place' : (prim.pdu.skip head.length).start + (head.length + field.length + filled) =
        cropped.pos + bits.length + filled := by
      show prim.pdu.start + _ = _
      omega
    exact advance_begins inField place'
  · show prim.pdu.start < prim.pdu.start + (head.length + field.length + filled)
    omega

/-- **A MAC-END**, behind its header. -/
theorem finishMacEnd_spec {passedOn : AieRequest Key → AieRequest Key}
    (keeps : ∀ request, (passedOn request).withScope .macFragment = request.withScope .macFragment)
    {head : List Bool} {lenBits : Nat} {reservationReq : Option ReservationRequirement}
    (headed : 0 < head.length) (begins : Begins prim.pdu (head ++ (field ++ (fill filled ++ rest))))
    (flag : fillBits = decide (0 < filled))
    (len : min lenBits prim.pdu.getLen = head.length + field.length + filled)
    (ran : air.finishMacEnd passedOn umac prim fillBits lenBits reservationReq
      (prim.pdu.skip head.length) = .ok (later, next)) :
    (air.ownerOutcome .completed umac.defrag.held prim field).Does umac prim rest later next := by
  obtain ⟨cropped, stripped, start, pos, inField⟩ := stripFill_ok begins rfl flag
  have skipped : (prim.pdu.skip head.length).getLen = prim.pdu.getLen := rfl
  unfold finishMacEnd at ran
  simp only [skipped, len, stripped, ok_bind] at ran
  obtain ⟨result, opened, ran⟩ := bind_eq_ok.mp ran
  unfold ownerOutcome
  obtain ⟨refused, rfl⟩ | ⟨owner, bits, rest', taken, rfl, laterStart, laterPos, length, inLater⟩ :=
    air.slotField_spec inField opened
  · rw [refused]
    cases ran
    exact ⟨⟨rfl, rfl⟩, start⟩
  · rw [taken]
    obtain ⟨_, _, ran⟩ := bind_eq_ok.mp ran
    obtain ⟨⟨defrag, completed⟩, inserted, ran⟩ := bind_eq_ok.mp ran
    obtain ⟨held, handed⟩ := insertLast_complete inLater.window inserted
    rw [inLater.unread_eq] at handed
    cases held' : (umac.defrag.held owner).bind fun buf => appended buf bits prim.ulTime with
    | none =>
      rw [held'] at handed
      subst handed
      cases ran
      refine ⟨held, ?_⟩
      rw [held']
      exact ⟨rfl, laterStart.trans start⟩
    | some buf =>
      rw [held'] at handed
      subst handed
      cases ran
      constructor
      · rw [← held]
        exact congrArg BsDefrag.held (air.handleReservation_defrag _ _ _ _ _)
      · rw [held']
        have place : rest'.pos = prim.pdu.start + head.length := laterPos.trans pos
        refine ⟨goesOn_advance prim headed inLater place length, _,
          congrArg (· ++ _) (air.handleReservation_reassembled _ _ _ _ _), rfl, rfl, ?_⟩
        intro request asked
        obtain ⟨original, found, appended⟩ := bind_eq_some_iff.mp held'
        have kept : original.aieRequest = buf.aieRequest := by
          unfold BsDefrag.appended at appended
          split at appended
          · cases appended
            rfl
          · contradiction
        rw [found, bind_some, kept, mem_def.mp asked]
        exact keeps request

/-- **A MAC-END** that indicates its length. -/
theorem rxMacEndUl_spec {length : Nat} (low : 0 < length) (high : length < 0b101111)
    (begins : Begins prim.pdu
      (wire ⟨fillBits, some length, none⟩ ++ (field ++ (fill filled ++ rest))))
    (flag : fillBits = decide (0 < filled)) (fits : Fits (some length)
      ((wire ⟨fillBits, some length, none⟩).length + field.length + filled) rest)
    (ran : air.rxMacEndUl umac prim = .ok (later, next)) :
    (air.ownerOutcome .completed umac.defrag.held prim field).Does umac prim rest later next := by
  unfold rxMacEndUl at ran
  simp only [begins.getPos, parsed_ok (reads_fromBitbuf low high) begins] at ran
  refine air.finishMacEnd_spec (fun _ => rfl) ?_ begins flag (fits.min_eq (length_begins begins)) ran
  simp [wire]

/-- **A MAC-END that asks for capacity** is not read. -/
theorem rxMacEndUl_capReq {resReq : ReservationRequirement}
    (begins : Begins prim.pdu (wire ⟨fillBits, none, some resReq⟩ ++ rest))
    (ran : air.rxMacEndUl umac prim = .ok (later, next)) : later = umac ∧ next = prim := by
  have refused : parsed fromBitbuf prim.pdu = .ok none := by
    unfold parsed
    rw [fromBitbuf_capReq fillBits resReq prim.pdu rest begins.unread]
  unfold rxMacEndUl at ran
  simp only [begins.getPos, refused] at ran
  cases ran
  exact ⟨rfl, rfl⟩

/-- **A MAC-END in a half slot.** -/
theorem rxMacEndHu_spec {header : MacEndHu}
    (lengthened : MacEndHu.Lengthened header.lengthInd header.reservationReq)
    (begins : Begins prim.pdu (header.wire ++ (field ++ (fill filled ++ rest))))
    (flag : header.fillBits = decide (0 < filled))
    (fits : Fits header.lengthInd (header.wire.length + field.length + filled) rest)
    (ran : air.rxMacEndHu umac prim = .ok (later, next)) :
    (if header.lengthInd = some 0 then Outcome.stopped
      else air.ownerOutcome .completed umac.defrag.held prim field).Does umac prim rest later next := by
  unfold rxMacEndHu at ran
  simp only [begins.getPos, ok_bind, parsed_ok (MacEndHu.reads_fromBitbuf lengthened) begins] at ran
  by_cases reserved : header.lengthInd = some 0
  · rw [if_pos reserved] at ran ⊢
    cases ran
    exact ⟨⟨rfl, rfl⟩, rfl⟩
  · rw [if_neg reserved] at ran ⊢
    have len := fits.min_eq (length_begins begins)
    refine air.finishMacEnd_spec (fun request => AieRequest.withScope_withScope request _ _) ?_ begins
      flag ?_ ran
    · simp [MacEndHu.wire]
    · cases told : header.lengthInd with
      | none => rwa [told] at len
      | some length => rwa [told] at len

theorem takeSdu_spec {isFragStart : Bool} {addr : TetraAddress} {aieRequest : AieRequest Key}
    {block : BitBuffer} {stop : Nat} {bits behind : List Bool}
    (inField : Field block stop bits behind)
    (ran : takeSdu umac prim isFragStart addr aieRequest block = .ok later) :
    later.reassembled = umac.reassembled ∧
      later.defrag.held = if isFragStart then Function.update umac.defrag.held addr.ssi
        (some ⟨.active, addr, prim.ulTime, prim.ulTime, 1, some aieRequest, bits⟩)
        else umac.defrag.held := by
  unfold takeSdu at ran
  simp only [inField.lenRemaining_ok, ok_bind] at ran
  cases isFragStart with
  | true =>
    obtain ⟨defrag, inserted, ran⟩ := bind_eq_ok.mp ran
    cases ran
    have filed := held_insertFirst inserted
    rw [inField.unread_eq] at filed
    exact ⟨rfl, filed⟩
  | false =>
    simp only [Bool.false_eq_true, if_false] at ran
    split at ran
    · cases ran
      exact ⟨rfl, rfl⟩
    · cases ran
      exact ⟨rfl, rfl⟩

end Surroundings

/-- A first fragment shows it by its length indication or its flag. -/
def MacData.isFragStart (header : MacData) : Bool :=
  header.lengthInd = some 0b111111 || header.fragFlag.getD false

/-- The octets that a MAC-DATA indicates; the highest values say that it fills the block. -/
def MacData.octets (header : MacData) : Option Nat :=
  header.lengthInd.filter (· < 0b111000)

def MacData.Indicates (header : MacData) : Prop :=
  ∀ length ∈ header.lengthInd, 0b000010 ≤ length ∧ length < 0b111000 ∨
    length = 0b111110 ∨ length = 0b111111

theorem macDataExtent_ok {header : MacData} (encodable : header.Encodable)
    (indicates : header.Indicates) (len : Nat) :
    ∃ stolen, macDataExtent header len =
      .ok ⟨(header.octets.map (· * 8)).getD len, header.isFragStart, stolen, false⟩ := by
  have lengthened := encodable.lengthened
  unfold macDataExtent MacData.octets MacData.isFragStart
  unfold MacData.Indicates at indicates
  cases told : header.lengthInd with
  | none =>
    rw [told] at lengthened
    cases asked : header.fragFlag with
    | none =>
      rw [asked] at lengthened
      cases lengthened
    | some frag => exact ⟨false, by simp⟩
  | some length =>
    rw [told] at lengthened indicates
    cases asked : header.fragFlag with
    | some frag =>
      rw [asked] at lengthened
      cases lengthened
    | none =>
      obtain ⟨low, high⟩ | rfl | rfl := indicates length rfl
      · have notZero : length ≠ 0 := by omega
        have notStart : length ≠ 63 := by omega
        simp [notZero, notStart, low, high, filter_some]
      · exact ⟨true, by simp [filter_some]⟩
      · exact ⟨false, by simp [filter_some]⟩

namespace Surroundings

variable (air : Surroundings Key Context)

/-- What becomes of a MAC-DATA with the given field. -/
def macDataOutcome (prim : TmvUnitdataInd) (header : MacData) (field : List Bool) : Outcome Key :=
  match air.headerAddr header.addr header.eventLabel with
  | .ok (some addr) =>
    air.fieldOutcome (air.macDataResolution prim.ulTime header.encrypted
      header.eventLabel.isSome addr) header.isFragStart false field
  | _ => .stopped

/-- **A MAC-DATA.** -/
theorem rxMacData_spec {umac later : UmacBs Key} {prim next : TmvUnitdataInd}
    {header : MacData} {filled : Nat} {field rest : List Bool} (encodable : header.Encodable)
    (indicates : header.Indicates)
    (begins : Begins prim.pdu (header.wire ++ (field ++ (fill filled ++ rest))))
    (flag : header.fillBits = decide (0 < filled))
    (fits : Fits header.octets (header.wire.length + field.length + filled) rest)
    (ran : air.rxMacData umac prim = .ok (later, next)) :
    (air.macDataOutcome prim header field).Does umac prim rest later next := by
  obtain ⟨stolen, extent⟩ := macDataExtent_ok encodable indicates prim.pdu.getLen
  have len := fits.min_eq (length_begins begins)
  have skipped : (prim.pdu.skip header.wire.length).getLen = prim.pdu.getLen := rfl
  obtain ⟨cropped, stripped, start, pos, inField⟩ := stripFill_ok begins rfl flag
  unfold rxMacData at ran
  simp only [begins.getPos, assertThat_of, ok_bind,
    parsed_ok (MacData.reads_fromBitbuf encodable) begins] at ran
  obtain ⟨answer, known, ran⟩ := bind_eq_ok.mp ran
  unfold macDataOutcome
  rw [known]
  cases answer with
  | none =>
    cases ran
    exact ⟨⟨rfl, rfl⟩, rfl⟩
  | some addr =>
    simp only [skipped, extent, ok_bind, len, stripped] at ran
    unfold fieldOutcome
    dsimp only
    have stolenUntouched : Untouched umac
        (if stolen = true then umac.signal .secondHalfStolen else umac) := by
      split <;> exact ⟨rfl, rfl⟩
    cases resolved : air.macDataResolution prim.ulTime header.encrypted header.eventLabel.isSome
        addr with
    | rejected =>
      simp only [resolved] at ran
      cases ran
      exact ⟨stolenUntouched, start⟩
    | dckMissing issi =>
      simp only [resolved] at ran
      cases ran
      exact ⟨⟨stolenUntouched.held, stolenUntouched.reassembled⟩, start⟩
    | resolved addr aieRequest context =>
      simp only [resolved] at ran
      obtain ⟨refused, stopped⟩ | ⟨bits, opened, taken, ciphered, openedStart, openedPos, length,
        inOpened⟩ := air.cipherField_spec inField context
      · simp only [stopped] at ran
        cases ran
        simp only [refused]
        exact ⟨stolenUntouched, start⟩
      · simp only [ciphered, ok_bind] at ran
        obtain ⟨took, tookOk, ran⟩ := bind_eq_ok.mp ran
        cases ran
        obtain ⟨reassembled, held⟩ := takeSdu_spec inOpened tookOk
        rw [handleReservation_reassembled, stolenUntouched.reassembled] at reassembled
        rw [handleReservation_defrag, stolenUntouched.held] at held
        have goesOn := goesOn_advance prim (show 0 < header.wire.length by
          simp [MacData.wire]) inOpened (openedPos.trans pos) length
        simp only [taken]
        cases isStart : header.isFragStart with
        | true =>
          rw [isStart] at held
          exact ⟨held, reassembled, goesOn⟩
        | false =>
          rw [isStart] at held
          exact ⟨⟨held, reassembled⟩, goesOn⟩

/-! ### MAC-ACCESS -/

theorem answerAccess_untouched (umac : UmacBs Key) (prim : TmvUnitdataInd) (header : MacAccess)
    (addr : TetraAddress) (aieRequest : AieRequest Key) :
    Untouched umac (air.answerAccess umac prim header addr aieRequest) := by
  unfold answerAccess
  split
  · constructor
    · rw [handleReservation_defrag]
      split <;> rfl
    · rw [handleReservation_reassembled]
      split <;> rfl
  · exact ⟨rfl, rfl⟩

/-- What becomes of a MAC-ACCESS with the given field. -/
def macAccessOutcome (prim : TmvUnitdataInd) (header : MacAccess) (field : List Bool) :
    Outcome Key :=
  match air.headerAddr header.addr header.eventLabel with
  | .ok (some addr) =>
    air.fieldOutcome (air.macAccessResolution prim.ulTime header.encrypted
      header.eventLabel.isSome addr) header.isFragStart true field
  | _ => .stopped

/-- **A MAC-ACCESS.** -/
theorem rxMacAccess_spec {umac later : UmacBs Key} {prim next : TmvUnitdataInd}
    {header : MacAccess} {filled : Nat} {field rest : List Bool} (encodable : header.Encodable)
    (indicates : header.lengthInd ≠ some 0)
    (begins : Begins prim.pdu (header.wire ++ (field ++ (fill filled ++ rest))))
    (flag : header.fillBits = decide (0 < filled))
    (fits : Fits header.lengthInd (header.wire.length + field.length + filled) rest)
    (ran : air.rxMacAccess umac prim = .ok (later, next)) :
    (air.macAccessOutcome prim header field).Does umac prim rest later next := by
  have notNull : header.isNullPdu = false := by
    unfold MacAccess.isNullPdu
    cases told : header.lengthInd with
    | none => rfl
    | some length =>
      have some : length ≠ 0 := fun zero => indicates (by rw [told, zero])
      simpa using some
  have extent : macAccessLenBits header prim.pdu.getLen =
      (header.lengthInd.map (· * 8)).getD prim.pdu.getLen := by
    unfold macAccessLenBits
    cases told : header.lengthInd with
    | none => rfl
    | some length =>
      have some : length ≠ 0 := fun zero => indicates (by rw [told, zero])
      simp [some]
  have len := fits.min_eq (length_begins begins)
  have skipped : (prim.pdu.skip header.wire.length).getLen = prim.pdu.getLen := rfl
  obtain ⟨cropped, stripped, start, pos, inField⟩ := stripFill_ok begins rfl flag
  unfold rxMacAccess at ran
  simp only [begins.getPos, assertThat_of, ok_bind,
    parsed_ok (MacAccess.reads_fromBitbuf encodable) begins] at ran
  obtain ⟨answer, known, ran⟩ := bind_eq_ok.mp ran
  unfold macAccessOutcome
  rw [known]
  cases answer with
  | none =>
    cases ran
    exact ⟨⟨rfl, rfl⟩, rfl⟩
  | some addr =>
    simp only [skipped, extent, ok_bind, len, stripped, notNull] at ran
    obtain ⟨_, _, ran⟩ := bind_eq_ok.mp ran
    unfold fieldOutcome
    dsimp only
    cases resolved : air.macAccessResolution prim.ulTime header.encrypted header.eventLabel.isSome
        addr with
    | rejected =>
      simp only [resolved] at ran
      cases ran
      exact ⟨⟨rfl, rfl⟩, start⟩
    | dckMissing issi =>
      simp only [resolved] at ran
      cases ran
      exact ⟨⟨rfl, rfl⟩, start⟩
    | resolved addr aieRequest context =>
      simp only [resolved] at ran
      have answered := air.answerAccess_untouched umac prim header addr aieRequest
      obtain ⟨refused, stopped⟩ | ⟨bits, opened, taken, ciphered, openedStart, openedPos, length,
        inOpened⟩ := air.cipherField_spec inField context
      · simp only [stopped] at ran
        cases ran
        simp only [refused]
        exact ⟨⟨rfl, rfl⟩, start⟩
      · simp only [ciphered, ok_bind, inOpened.lenRemaining_ok, length_eq_zero_iff] at ran
        simp only [taken]
        have goesOn := goesOn_advance prim (show 0 < header.wire.length by
          simp [MacAccess.wire]) inOpened (openedPos.trans pos) length
        cases isStart : header.isFragStart with
        | true =>
          simp only [isStart] at ran
          obtain ⟨took, tookOk, ran⟩ := bind_eq_ok.mp ran
          cases ran
          obtain ⟨reassembled, held⟩ := takeSdu_spec inOpened tookOk
          rw [answered.reassembled] at reassembled
          rw [answered.held] at held
          exact ⟨held, reassembled, goesOn⟩
        | false =>
          simp only [isStart, true_and] at ran
          by_cases empty : bits = []
          · rw [if_pos empty] at ran
            cases ran
            simp only [empty]
            exact ⟨answered, openedStart.trans start⟩
          · rw [if_neg empty] at ran
            obtain ⟨took, tookOk, ran⟩ := bind_eq_ok.mp ran
            cases ran
            obtain ⟨reassembled, held⟩ := takeSdu_spec inOpened tookOk
            rw [answered.reassembled] at reassembled
            simp only [empty]
            exact ⟨⟨held.trans answered.held, reassembled⟩, goesOn⟩

end Surroundings

end Bluestation
