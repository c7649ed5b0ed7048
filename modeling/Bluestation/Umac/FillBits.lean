/-
**Fill bits.**

A PDU that ends before its octet, or before its block, is filled by a one and then zeroes. The
receiver scans back from the end of the PDU to the last one and drops it and the zeroes after it.

* `addition.writes_write` — what is written.
* `removal.getNumFillBits_fill` — what was written is found again, whatever precedes it.
-/

import Bluestation.Core.Fields

namespace Bluestation

open Bits List

/-- A fill of `count` bits: a one and then zeroes. -/
def fill : Nat → List Bool
  | 0 => []
  | zeroes + 1 => true :: List.replicate zeroes false

@[simp] theorem length_fill (count : Nat) : (fill count).length = count := by
  cases count <;> simp [fill]

namespace FillBits

namespace removal

/-- Scan down from the bit before `next`, as far as the position. -/
def scan (bitbuf : BitBuffer) (pduLenBits : Nat) : (next : Nat) → Except Fault Nat
  | 0 => .ok 0
  | index + 1 =>
    if bitbuf.getPos ≤ index then
      match bitbuf.peekBitStartoffset index with
      | some false => scan bitbuf pduLenBits index
      | some true => .ok (pduLenBits - index)
      | none => .error .panic
    else .ok 0

/-- The number of fill bits at the end of a PDU of `pduLenBits` bits. -/
def getNumFillBits (bitbuf : BitBuffer) (pduLenBits : Nat) : Except Fault Nat :=
  scan bitbuf pduLenBits pduLenBits

variable {bitbuf : BitBuffer}

theorem scan_one {pduLenBits index : Nat} (reached : bitbuf.getPos ≤ index)
    (one : bitbuf.peekBitStartoffset index = some true) :
    scan bitbuf pduLenBits (index + 1) = .ok (pduLenBits - index) := by
  rw [scan, if_pos reached, one]

theorem scan_zeroes {pduLenBits index : Nat} (count : Nat) (reached : bitbuf.getPos ≤ index)
    (zero : ∀ offset < count, bitbuf.peekBitStartoffset (index + offset) = some false) :
    scan bitbuf pduLenBits (index + count) = scan bitbuf pduLenBits index := by
  induction count with
  | zero => rfl
  | succ count ih =>
    have last := zero count (Nat.lt_succ_self count)
    rw [← Nat.add_assoc, scan, if_pos (by omega), last]
    exact ih fun offset below => zero offset (by omega)

theorem peek_unread (window : bitbuf.Window) (offset : Nat) (inside : offset < bitbuf.unread.length) :
    bitbuf.peekBitStartoffset (bitbuf.getPos + offset) = some bitbuf.unread[offset] := by
  have bound := bitbuf.length_unread_le
  have startLe := window.start_le
  have place : bitbuf.start + (bitbuf.getPos + offset) = bitbuf.pos + offset := by
    simp only [BitBuffer.getPos]
    omega
  rw [BitBuffer.peekBitStartoffset, place, if_pos (by omega)]
  simp only [BitBuffer.unread, getElem_take, getElem_drop]
  exact getElem?_eq_getElem _

/-- **The fill of a PDU is found again**, whatever data precedes it and whatever follows the PDU. -/
theorem getNumFillBits_fill (window : bitbuf.Window) {data tail : List Bool} {zeroes : Nat}
    (content : bitbuf.unread = data ++ (fill (zeroes + 1) ++ tail)) :
    getNumFillBits bitbuf (bitbuf.getPos + data.length + (zeroes + 1)) = .ok (zeroes + 1) := by
  have total : bitbuf.unread.length = data.length + (zeroes + 1 + tail.length) := by
    rw [content, length_append, length_append, length_fill]
  have zero : ∀ offset < zeroes, bitbuf.peekBitStartoffset
      (bitbuf.getPos + data.length + 1 + offset) = some false := by
    intro offset below
    have found := peek_unread window (data.length + 1 + offset) (by omega)
    rw [show bitbuf.getPos + data.length + 1 + offset =
      bitbuf.getPos + (data.length + 1 + offset) by omega, found]
    simp only [content, fill, cons_append]
    rw [getElem_append_right (by omega)]
    simp only [show data.length + 1 + offset - data.length = offset + 1 by omega, getElem_cons_succ]
    rw [getElem_append_left (by simpa using below), getElem_replicate]
  have one : bitbuf.peekBitStartoffset (bitbuf.getPos + data.length) = some true := by
    rw [peek_unread window _ (by omega)]
    simp only [content, fill]
    simp
  rw [getNumFillBits, show bitbuf.getPos + data.length + (zeroes + 1) =
    bitbuf.getPos + data.length + 1 + zeroes by omega,
    scan_zeroes zeroes (by omega) zero, scan_one (by omega) one]
  congr 1
  omega

end removal

namespace addition

def computeRequiredBytealigned (totalPduSduLenBits : Nat) : Nat :=
  (8 - totalPduSduLenBits % 8) % 8

/-- The fill bits to the next octet, or to the end of the slot if that comes first. -/
def computeRequired (totalPduSduLenBits destCapLeft : Nat) : Nat :=
  if destCapLeft ≤ totalPduSduLenBits then 0
  else
    let bytealignedFillBits := computeRequiredBytealigned totalPduSduLenBits
    if totalPduSduLenBits + bytealignedFillBits ≤ destCapLeft then bytealignedFillBits
    else destCapLeft - totalPduSduLenBits

/-- Write a number of fill bits, or fill the rest of the window. -/
def write (numFillBits : Option Nat) : BufM Unit :=
  match numFillBits with
  | some count =>
    if 0 < count then do
      writeBit true
      writeZeroes (count - 1)
    else pure ()
  | none => do
    let bitbuf ← get
    if 0 < bitbuf.getLenRemaining then do
      writeBit true
      let rest ← get
      writeZeroes rest.getLenRemaining
    else pure ()

theorem computeRequired_full {total cap : Nat} (full : cap ≤ total) : computeRequired total cap = 0 :=
  if_pos full

theorem computeRequired_aligned {total cap : Nat} (aligned : total % 8 = 0) :
    computeRequired total cap = 0 := by
  by_cases full : cap ≤ total
  · exact computeRequired_full full
  · have none : computeRequiredBytealigned total = 0 := by
      simp only [computeRequiredBytealigned]
      omega
    simp only [computeRequired, if_neg full, none]
    exact if_pos (by omega)

/-- **Filling ends on an octet or on the end of the slot.** -/
theorem computeRequired_spec (total cap : Nat) (room : total ≤ cap) :
    total + computeRequired total cap ≤ cap ∧
      ((total + computeRequired total cap) % 8 = 0 ∨ total + computeRequired total cap = cap) := by
  by_cases full : cap ≤ total
  · rw [computeRequired_full full]
    omega
  by_cases aligned : total + computeRequiredBytealigned total ≤ cap
  · simp only [computeRequired, if_neg full, if_pos aligned]
    refine ⟨aligned, .inl ?_⟩
    simp only [computeRequiredBytealigned]
    omega
  · simp only [computeRequired, if_neg full, if_neg aligned]
    omega

theorem writes_write (count : Nat) : Writes (write (some count)) (fill count) := by
  cases count with
  | zero => exact Writes.pure
  | succ zeroes => exact (writes_writeBit true).bind (writes_writeZeroes zeroes)

theorem write_none_full {bitbuf : BitBuffer} (full : bitbuf.getLenRemaining = 0) :
    write none bitbuf = .ok ((), bitbuf) := by
  have ran : (get : BufM BitBuffer) bitbuf = .ok (bitbuf, bitbuf) := rfl
  rw [write, bind_ok ran, if_neg (by omega)]
  rfl

end addition

end FillBits

end Bluestation
