/-
**The encoders of the uplink's MAC headers, on what the decoders accept.**

Both encoders assert that a header is encrypted exactly if its address is an encrypted identity, and
the one of MAC-DATA then has no address type for such an identity.

* `accepts_readUplinkAddr`, `MacData.accepts_fromBitbuf`, … — what the decoders accept.
* `reencoded_iff` — **which of these headers are written as they were read.**
-/

import Bluestation.Pdus.AdvancedLinkCodec
import Bluestation.Pdus.MacUplink

namespace Bluestation

open Bits List Accepts BitBuffer

/-! ### Addresses -/

/-- The address of a header, or its event label; a MAC-ACCESS takes an encrypted identity. -/
def writeUplinkAddr (takesEsi encrypted : Bool) : Option TetraAddress → Option Nat → BufM Unit
  | some addr, _ => do
    assertThat (decide (addr.ssiType = .esi) = encrypted)
    match addr.ssiType with
    | .ssi | .issi | .gssi => do
      writeBits 0 2
      writeBits addr.ssi 24
    | .esi => do
      assertThat (takesEsi = true)
      writeBits 0 2
      writeBits addr.ssi 24
    | .ussi => do
      writeBits 2 2
      writeBits addr.ssi 24
    | .smi => do
      writeBits 3 2
      writeBits addr.ssi 24
    | _ => throw .panic
  | none, some eventLabel => do
    writeBits 1 2
    writeBits eventLabel 10
  | none, none => throw .panic

/-- In an encrypted header there is an event label, or an identity that the encoder takes. -/
def Carried (takesEsi encrypted : Bool) (addr : Option TetraAddress) : Prop :=
  encrypted = true → ∀ address ∈ addr, takesEsi = true ∧ address.ssiType = .esi

variable {takesEsi encrypted : Bool} {addr : Option TetraAddress} {eventLabel : Option Nat}

theorem UplinkAddressed.writes (addressed : UplinkAddressed encrypted addr eventLabel)
    (carried : Carried takesEsi encrypted addr) :
    Writes (writeUplinkAddr takesEsi encrypted addr eventLabel)
      (bitsOf 2 (uplinkAddrType addr) ++ wireUplinkAddr addr eventLabel) := by
  have two (kind width value : Nat) : Writes (do writeBits kind 2; writeBits value width)
      (bitsOf 2 kind ++ bitsOf width value) := .bits (writes_writeBits _ _)
  cases addressed with
  | identity fits =>
    cases encrypted
    · exact two 0 24 _
    · obtain ⟨rfl, -⟩ := carried rfl _ rfl
      exact two 0 24 _
  | ussi fits =>
    cases encrypted
    · exact two 2 24 _
    · exact nomatch (carried rfl _ rfl).2
  | smi fits =>
    cases encrypted
    · exact two 3 24 _
    · exact nomatch (carried rfl _ rfl).2
  | label fits => exact two 1 10 _

theorem UplinkAddressed.requires (addressed : UplinkAddressed encrypted addr eventLabel) :
    Requires (writeUplinkAddr takesEsi encrypted addr eventLabel)
      (Carried takesEsi encrypted addr) := by
  rintro b value later ran rfl address member
  cases addressed with
  | identity fits =>
    cases member
    cases takesEsi
    · cases ran
    · exact ⟨rfl, rfl⟩
  | ussi fits => cases ran
  | smi fits => cases ran
  | label fits => cases member

theorem UplinkAddressed.one (addressed : UplinkAddressed encrypted addr eventLabel) :
    addr.isSome ≠ eventLabel.isSome := by
  cases addressed <;> simp

theorem accepts_readUplinkAddr (addrType : Nat) : Accepts (readUplinkAddr encrypted addrType)
    fun found field => addrType = uplinkAddrType found.1 ∧ field = wireUplinkAddr found.1 found.2 ∧
      UplinkAddressed encrypted found.1 found.2 := by
  unfold readUplinkAddr
  split
  · refine .field fun ssi fits => ?_
    refine pure ⟨?_, append_nil _, .identity fits⟩
    cases encrypted <;> rfl
  · refine .field fun label fits => ?_
    exact pure ⟨rfl, append_nil _, .label fits⟩
  · refine .field fun ssi fits => ?_
    exact pure ⟨rfl, append_nil _, .ussi fits⟩
  · refine .field fun ssi fits => ?_
    exact pure ⟨rfl, append_nil _, .smi fits⟩
  · exact throw

theorem accepts_assertThat (condition : Prop) [Decidable condition] :
    Accepts (liftM (assertThat condition) : BufM Unit) fun _ field => condition ∧ field = [] := by
  intro b value later _ ran
  by_cases holds : condition
  · rw [assertThat_of holds] at ran
    cases ran
    exact ⟨[], _, rfl, rfl, holds, rfl⟩
  · rw [assertThat_not holds] at ran
    cases ran

/-- A capacity request has one of the sixteen values. -/
theorem tryFrom_of_lt {val : Nat} (fits : val < 2 ^ 4) :
    ∃ resReq, ReservationRequirement.tryFrom val = some resReq ∧ resReq.intoRaw = val := by
  interval_cases val <;> exact ⟨_, rfl, rfl⟩

theorem toNat_flag {value : Nat} (fits : value < 2 ^ 1) : (value != 0).toNat = value := by
  interval_cases value <;> rfl

/-! ### MAC-DATA -/

namespace MacData

def writeLength : Option Nat → Option Bool → Option ReservationRequirement → BufM Unit
  | some lengthInd, _, _ => do
    writeBits 0 1
    writeBits lengthInd 6
  | none, some fragFlag, some reservationReq => do
    writeBits 1 1
    writeBits fragFlag.toNat 1
    writeBits reservationReq.intoRaw 4
    writeBits 0 1
  | none, _, _ => throw .panic

def toBitbuf (pdu : MacData) : BufM Unit := do
  writeBits 0 2
  writeBits pdu.fillBits.toNat 1
  writeBits pdu.encrypted.toNat 1
  assertThat (pdu.addr.isSome ≠ pdu.eventLabel.isSome)
  writeUplinkAddr false pdu.encrypted pdu.addr pdu.eventLabel
  writeLength pdu.lengthInd pdu.fragFlag pdu.reservationReq

/-- If the header asks for capacity, its last bit is there and not set. -/
def Reserved (pdu : MacData) (field : List Bool) : Prop :=
  pdu.lengthInd = none → field[if pdu.addr.isSome then 36 else 22]? = some false

theorem accepts_skip : Accepts (modify (fun block =>
    if 1 ≤ block.getLenRemaining then block.skip 1 else block) : BufM Unit) fun _ field =>
      field.length ≤ 1 := by
  intro b value later window ran
  have is := (Prod.mk.inj (Except.ok.inj ran)).2
  subst is
  dsimp only
  split
  next enough =>
    obtain ⟨begins, length⟩ := unread_of_take window enough
    exact ⟨_, _, begins, by rw [length], length.le⟩
  · exact ⟨[], _, rfl, rfl, Nat.zero_le _⟩

theorem accepts_readLength : Accepts readLength fun found field =>
    Lengthened found.1 found.2.1 found.2.2 ∧ (field = wireLength found.1 found.2.1 found.2.2 ↔
      (found.1 = none → field[6]? = some false)) := by
  refine .field fun kind kindFits => ?_
  apply Accepts.ite
  · rintro rfl
    refine (accepts_readField _ _).bind ?_
    rintro length _ ⟨rfl, fits⟩
    exact pure ⟨.length fits, by simp [wireLength]⟩
  · intro capReq
    obtain rfl : kind = 1 := by omega
    refine .field fun frag fragFits => ?_
    refine .field fun val fits => ?_
    obtain ⟨resReq, is, rfl⟩ := tryFrom_of_lt fits
    rw [is]
    refine accepts_skip.bind ?_
    intro _ reserved short
    refine pure ⟨.capReq _ resReq, ?_⟩
    simp [wireLength, toNat_flag fragFits, getElem?_append, length_bitsOf]
    rcases reserved with _ | ⟨bit, _ | ⟨more, rest⟩⟩
    · simp
    · simp
    · simp at short

theorem accepts_fromBitbuf : Accepts fromBitbuf fun pdu field =>
    pdu.Encodable ∧ (field = pdu.wire ↔ pdu.Reserved field) := by
  refine .field fun kind _ => ?_
  refine (accepts_assertThat _).bind ?_
  rintro _ _ ⟨rfl, rfl⟩
  refine .field fun fillBits fillFits => ?_
  refine .field fun encrypted encryptedFits => ?_
  refine .field fun addrType _ => ?_
  refine (accepts_readUplinkAddr _).bind ?_
  rintro ⟨addr, eventLabel⟩ _ ⟨rfl, rfl, addressed⟩
  refine accepts_readLength.bind ?_
  rintro ⟨lengthInd, fragFlag, reservationReq⟩ field ⟨lengthened, whole⟩
  refine pure ⟨⟨addressed, lengthened⟩, ?_⟩
  simp only [wire, Reserved, toNat_flag fillFits, toNat_flag encryptedFits, append_nil,
    nil_append, append_cancel_left_eq, whole]
  cases addressed <;> simp [wireUplinkAddr, getElem?_append, length_bitsOf]

theorem Lengthened.writes {lengthInd : Option Nat} {fragFlag : Option Bool}
    {reservationReq : Option ReservationRequirement}
    (lengthened : Lengthened lengthInd fragFlag reservationReq) :
    Writes (writeLength lengthInd fragFlag reservationReq)
      (wireLength lengthInd fragFlag reservationReq) := by
  cases lengthened with
  | length fits => exact .bits (writes_writeBits _ _)
  | capReq frag resReq =>
    exact .bits ((writes_writeBits _ _).bind (.bits (writes_writeBits _ _)))

theorem writes_toBitbuf {pdu : MacData} (encodable : pdu.Encodable)
    (carried : Carried false pdu.encrypted pdu.addr) : Writes pdu.toBitbuf pdu.wire := by
  refine .bits (.bits (.bits ?_))
  refine (writes_lift (assertThat_of encodable.addressed.one)).check ?_
  rw [← append_assoc]
  exact (encodable.addressed.writes carried).bind encodable.lengthened.writes

/-- **A header that is accepted is written as it was read** if the encoder takes its address, and its
reserved bit is not set. -/
theorem accepts_reencoded : Accepts fromBitbuf fun pdu field => Writes pdu.toBitbuf field ↔
    Carried false pdu.encrypted pdu.addr ∧ pdu.Reserved field := by
  refine accepts_fromBitbuf.mono fun pdu field ⟨encodable, whole⟩ => ⟨fun written => ?_, ?_⟩
  · have carried := written.requires (.later fun _ => .later fun _ => .later fun _ => .later fun _ =>
      .first encodable.addressed.requires)
    exact ⟨carried, whole.mp (written.unique (writes_toBitbuf encodable carried))⟩
  · rintro ⟨carried, reserved⟩
    rw [whole.mpr reserved]
    exact writes_toBitbuf encodable carried

end MacData

/-! ### MAC-ACCESS -/

namespace MacAccess

def writeLength : Option Nat → Option Bool → Option ReservationRequirement → BufM Unit
  | none, none, none => writeBits 0 1
  | some _, some _, some _ => throw .panic
  | some lengthInd, _, _ => do
    writeBits 1 1
    writeBits 0 1
    writeBits lengthInd 5
  | none, some fragFlag, some reservationReq => do
    writeBits 1 1
    writeBits 1 1
    writeBits fragFlag.toNat 1
    writeBits reservationReq.intoRaw 4
  | none, _, _ => throw .panic

def toBitbuf (pdu : MacAccess) : BufM Unit := do
  writeBits 0 1
  writeBits pdu.fillBits.toNat 1
  writeBits pdu.encrypted.toNat 1
  writeUplinkAddr true pdu.encrypted pdu.addr pdu.eventLabel
  writeLength pdu.lengthInd pdu.fragFlag pdu.reservationReq

theorem accepts_readLength : Accepts readLength fun found field =>
    Lengthened found.1 found.2.1 found.2.2 ∧ field = wireLength found.1 found.2.1 found.2.2 := by
  refine (accepts_readField _ _).bind ?_
  rintro present _ ⟨rfl, presentFits⟩
  apply Accepts.ite
  · rintro rfl
    exact pure ⟨.neither, rfl⟩
  · intro there
    obtain rfl : present = 1 := by omega
    refine .field fun kind kindFits => ?_
    apply Accepts.ite
    · rintro rfl
      refine (accepts_readField _ _).bind ?_
      rintro length _ ⟨rfl, fits⟩
      exact pure ⟨.length fits, by simp [wireLength]⟩
    · intro capReq
      obtain rfl : kind = 1 := by omega
      refine .field fun frag fragFits => ?_
      refine .field fun val fits => ?_
      obtain ⟨resReq, is, rfl⟩ := tryFrom_of_lt fits
      rw [is]
      exact pure ⟨.capReq _ resReq, by simp [wireLength, toNat_flag fragFits]⟩

theorem accepts_fromBitbuf : Accepts fromBitbuf fun pdu field => pdu.Encodable ∧ field = pdu.wire := by
  refine .field fun kind _ => ?_
  refine (accepts_assertThat _).bind ?_
  rintro _ _ ⟨rfl, rfl⟩
  refine .field fun fillBits fillFits => ?_
  refine .field fun encrypted encryptedFits => ?_
  refine .field fun addrType _ => ?_
  refine (accepts_readUplinkAddr _).bind ?_
  rintro ⟨addr, eventLabel⟩ _ ⟨rfl, rfl, addressed⟩
  refine accepts_readLength.bind ?_
  rintro ⟨lengthInd, fragFlag, reservationReq⟩ _ ⟨lengthened, rfl⟩
  refine pure ⟨⟨addressed, lengthened⟩, ?_⟩
  simp only [wire, toNat_flag fillFits, toNat_flag encryptedFits, append_nil, nil_append]

theorem Lengthened.writes {lengthInd : Option Nat} {fragFlag : Option Bool}
    {reservationReq : Option ReservationRequirement}
    (lengthened : Lengthened lengthInd fragFlag reservationReq) :
    Writes (writeLength lengthInd fragFlag reservationReq)
      (wireLength lengthInd fragFlag reservationReq) := by
  cases lengthened with
  | neither => exact writes_writeBits _ _
  | length fits =>
    exact .bits (.bits (writes_writeBits _ _))
  | capReq frag resReq =>
    exact .bits ((writes_writeBits _ _).bind (.bits (writes_writeBits _ _)))

theorem accepts_reencoded : Accepts fromBitbuf fun pdu field => Writes pdu.toBitbuf field ↔
    Carried true pdu.encrypted pdu.addr := by
  refine accepts_fromBitbuf.mono ?_
  rintro pdu _ ⟨encodable, rfl⟩
  refine ⟨fun written => written.requires (.later fun _ => .later fun _ => .later fun _ =>
    .first encodable.addressed.requires), fun carried => ?_⟩
  refine .bits (.bits (.bits ?_))
  rw [← append_assoc]
  exact (encodable.addressed.writes carried).bind encodable.lengthened.writes

end MacAccess

/-- What was found of the field that was read holds of the bits up to the position. -/
theorem accepted_ofBits {α : Type} {read : BufM α} {found : α → List Bool → Prop}
    (accepts : Accepts read found) {bits : List Bool} {value : α} {later : BitBuffer}
    (ran : read (.ofBits bits) = .ok (value, later)) : found value (bits.take later.pos) := by
  obtain ⟨field, rest, begins, rfl, holds⟩ := accepts _ _ _ (ofBits_window bits) ran
  rw [unread_ofBits] at begins
  rw [begins, show ((ofBits (field ++ rest)).skip field.length).pos = field.length from
    Nat.zero_add _, take_left' rfl]
  exact holds

/-- **Which of the accepted headers are written as they were read**, for any bits. -/
theorem reencoded_iff (bits : List Bool) :
    (∀ pdu later, MacData.fromBitbuf (.ofBits bits) = .ok (pdu, later) →
      (Writes pdu.toBitbuf (bits.take later.pos) ↔
        Carried false pdu.encrypted pdu.addr ∧ pdu.Reserved (bits.take later.pos))) ∧
    ∀ pdu later, MacAccess.fromBitbuf (.ofBits bits) = .ok (pdu, later) →
      (Writes pdu.toBitbuf (bits.take later.pos) ↔ Carried true pdu.encrypted pdu.addr) :=
  ⟨fun _ _ ran => accepted_ofBits MacData.accepts_reencoded ran,
    fun _ _ ran => accepted_ofBits MacAccess.accepts_reencoded ran⟩

/-- **An encrypted MAC-DATA with an identity makes its encoder panic.** -/
theorem encrypted_macData_panics : ¬ ∀ bits pdu later,
    MacData.fromBitbuf (.ofBits bits) = .ok (pdu, later) →
      Writes pdu.toBitbuf (bits.take later.pos) := by
  intro all
  have written := all (MacData.wire ⟨false, true, some ⟨5, .esi⟩, none, some 1, none, none⟩) _ _ rfl
  cases written (.new 37) (new_window _) (by decide)

end Bluestation
