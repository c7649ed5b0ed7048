/-
**Headers are written, counted and read alike.**

Three functions go over the optional elements of a header: one writes them, one reads them, and one
counts their bits before anything is written.

* `CodecsAgree` — as many bits are written as were counted, and they are read back.
* `header_codecs_agree` — **so it is for MAC-RESOURCE, MAC-END and the channel allocation.**
-/

import Bluestation.Pdus.MacFragment
import Bluestation.Pdus.MacResource

namespace Bluestation

open Bits MacResource MacEndDl ChanAllocElement

/-- **The three functions agree**: wherever there is room for the counted bits, these are written, and
reading them from their start gives the value and ends where the writer ended. -/
def CodecsAgree {α : Type} (write : BufM Unit) (read : BufM α) (count : Except Fault Nat) (value : α) :
    Prop :=
  ∃ len, count = .ok len ∧ ∀ buffer : BitBuffer, buffer.Window → len ≤ buffer.getLenRemaining →
    ∃ written, write buffer = .ok ((), written) ∧ written.pos = buffer.pos + len ∧
      read (written.seekBack len) = .ok (value, written)

variable {α : Type} {write : BufM Unit} {read : BufM α} {count : Except Fault Nat} {value : α}

theorem CodecsAgree.of_wire {wire : List Bool} (writes : Writes write wire)
    (reads : Reads read wire value) (counts : count = .ok wire.length) : CodecsAgree write read count value := by
  refine ⟨wire.length, counts, fun buffer window room =>
    ⟨buffer.put wire, writes buffer window room, rfl, ?_⟩⟩
  have start : ((buffer.put wire).seekBack wire.length).pos = buffer.pos := Nat.add_sub_cancel ..
  have unread : ((buffer.put wire).seekBack wire.length).unread =
      wire ++ (((buffer.put wire).bits.drop buffer.pos).drop wire.length).take
        (buffer.stop - buffer.pos - wire.length) := by
    conv_lhs => rw [BitBuffer.unread, start]
    rw [show ((buffer.put wire).seekBack wire.length).stop - buffer.pos =
      wire.length + (buffer.stop - buffer.pos - wire.length) from (Nat.add_sub_cancel' room).symm,
      List.take_add]
    exact congrArg (· ++ _) (BitBuffer.bits_put window wire)
  rw [reads _ _ unread]
  congr 2
  exact congrArg (fun pos => { buffer.put wire with pos }) (congrArg (· + wire.length) start)

namespace MacResource

def Plain (pdu : MacResource) : Prop :=
  pdu.isNullPdu = true → pdu.powerControlElement = none ∧ pdu.slotGrantingElement = none

def retag (tag : SsiType → SsiType) (pdu : MacResource) : MacResource :=
  { pdu with addr := pdu.addr.map fun addr => { addr with ssiType := tag addr.ssiType } }

theorem heard_eq_retag {pdu : MacResource} (sendable : pdu.Sendable) (plain : pdu.Plain) :
    pdu.heard = pdu.retag heardType := by
  cases isNull : pdu.isNullPdu with
  | false => rw [heard, if_neg (by rw [isNull]; decide), retag]
  | true =>
    obtain ⟨noAddr, noLabel, noMarker⟩ := pdu.isNullPdu_iff.mp isNull
    obtain ⟨grant, encryption, access, alloc⟩ := sendable.nullPdu_unset isNull
    obtain ⟨power, slot⟩ := plain isNull
    have fill := sendable.nullPdu_fill isNull
    simp_all [heard, retag]

end MacResource

/-- **main result** — every MAC-RESOURCE, MAC-END and channel allocation that has a wire form is
written with as many bits as its length function counts, and read back; of the tags of an address,
those for individual, group and encrypted identities are read back as SSI. -/
theorem header_codecs_agree : (∀ pdu : MacResource, pdu.Sendable → pdu.Plain →
      CodecsAgree pdu.toBitbuf MacResource.fromBitbuf pdu.computeHeaderLen (pdu.retag heardType)) ∧
    (∀ pdu : MacEndDl, pdu.Encodable → CodecsAgree pdu.toBitbuf MacEndDl.fromBitbuf
      (computeHdrLen pdu.slotGrantingElement pdu.chanAllocElement) pdu) ∧
    ∀ element : ChanAllocElement, element.Encodable →
      CodecsAgree element.toBitbuf ChanAllocElement.fromBitbuf element.computeLen element := by
  refine ⟨fun pdu sendable plain => ?_, fun pdu encodable => ?_, fun element encodable => ?_⟩
  · rw [← heard_eq_retag sendable plain]
    exact .of_wire (writes_toBitbuf sendable) (reads_fromBitbuf sendable)
      (computeHeaderLen_ok sendable.toEncodable)
  · exact .of_wire (writes_toBitbuf encodable) (reads_fromBitbuf encodable)
      (computeHdrLen_ok encodable)
  · exact .of_wire (writes_toBitbuf encodable) (reads_fromBitbuf encodable) (computeLen_ok encodable)

namespace MacResource

def encrypted : MacResource := { encryptionMode := 2, lengthInd := 6, addr := some ⟨5, .esi⟩ }

theorem encrypted_sendable : encrypted.Sendable where
  posOfGrant_lt := by decide
  encryptionMode_lt := by decide
  nullPdu_unset := nofun
  addressed _ := ⟨.ssi, rfl⟩
  esi_iff addr member := by cases member; decide
  ssi_lt addr member := by cases member; decide
  eventLabel_lt := nofun
  usageMarker_lt := nofun
  powerControl_lt := nofun
  slotGrant := nofun
  chanAlloc := nofun
  lengthInd_pos := by decide
  lengthInd_lt := by decide
  nullPdu_fill := nofun

theorem encrypted_agrees : CodecsAgree encrypted.toBitbuf fromBitbuf encrypted.computeHeaderLen
    (encrypted.retag heardType) :=
  header_codecs_agree.1 encrypted encrypted_sendable nofun

def plainTag : SsiType → SsiType
  | .issi | .gssi => .ssi
  | other => other

/-- **An encrypted identity is read back as a plain one.** -/
theorem encrypted_read_as_plain : ¬ ∀ pdu back : MacResource, pdu.Sendable →
      CodecsAgree pdu.toBitbuf fromBitbuf pdu.computeHeaderLen back →
        back.retag plainTag = pdu.retag plainTag := by
  intro same
  have agree : CodecsAgree encrypted.toBitbuf fromBitbuf encrypted.computeHeaderLen encrypted.heard :=
    .of_wire (writes_toBitbuf encrypted_sendable) (reads_fromBitbuf encrypted_sendable)
      (computeHeaderLen_ok encrypted_sendable.toEncodable)
  exact absurd (same _ _ encrypted_sendable agree) (by decide)

end MacResource

end Bluestation
