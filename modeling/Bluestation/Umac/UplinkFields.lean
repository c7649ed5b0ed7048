/-
**A MAC PDU in the window of a block.**

A PDU is a header, an SDU field and its fill. The handlers read the header, let the window end with
the field, decipher the field in place, and start the window anew behind the PDU.

* `stripFill_ok` — the window ends with the field, whatever is behind it.
* `advance_begins` — the rest of the block begins behind the PDU.
-/

import Bluestation.Umac.UplinkReceiver

namespace Bluestation

open Bits List Nat BitBuffer

/-! ### A PDU at the start of a window -/

/-- The window is unread and begins with the given bits. -/
structure Begins (block : BitBuffer) (bits : List Bool) : Prop where
  window : block.Window
  atStart : block.pos = block.start
  unread : block.unread = bits

/-- The window ends with an SDU field, and what is behind it reaches to `stop`. -/
structure Field (block : BitBuffer) (stop : Nat) (field behind : List Bool) : Prop where
  startLe : block.start ≤ block.pos
  posLe : block.pos ≤ stop
  stopLe : stop ≤ block.bits.length
  ends : block.stop = block.pos + field.length
  unread : BitBuffer.unread { block with stop := stop } = field ++ behind

namespace Field

variable {block : BitBuffer} {stop : Nat} {field behind : List Bool}

variable (inField : Field block stop field behind)

include inField

theorem length : field.length + behind.length = stop - block.pos := by
  have window : BitBuffer.Window { block with stop := stop } :=
    ⟨inField.startLe, inField.posLe, inField.stopLe⟩
  have total := length_unread window
  rw [inField.unread, length_append] at total
  exact total

theorem window : block.Window := by
  have total := inField.length
  have posLe := inField.posLe
  have stopLe := inField.stopLe
  have ends := inField.ends
  exact ⟨inField.startLe, by omega, by omega⟩

theorem unread_eq : block.unread = field := by
  have total := inField.length
  have whole := congrArg (List.take field.length) inField.unread
  rw [take_left' rfl, BitBuffer.unread, take_take] at whole
  dsimp only at whole
  rw [min_eq_left (by omega)] at whole
  rw [BitBuffer.unread, inField.ends, Nat.add_sub_cancel_left]
  exact whole

theorem lenRemaining_ok : lenRemaining block = .ok field.length := by
  have window := inField.window
  rw [lenRemaining, assertThat_of window.pos_le, ← length_unread window, inField.unread_eq]
  rfl

/-- Overwriting the field leaves what is behind it. -/
theorem overwrite {other : List Bool} (same : other.length = field.length) :
    Field { block.put other with pos := block.pos } stop other behind := by
  have window := inField.window
  have posLe := window.pos_le
  have stopLe := window.stop_le
  have total := inField.length
  have front : (block.bits.take block.pos).length = block.pos := by
    rw [length_take]
    omega
  have wholeStop := inField.stopLe
  refine ⟨inField.startLe, inField.posLe, ?_, ?_, ?_⟩
  · simp only [put, length_append, length_drop]
    omega
  · show block.stop = block.pos + other.length
    rw [inField.ends, same]
  · have behindEq : behind = (block.bits.drop (block.pos + field.length)).take
        (stop - block.pos - field.length) := by
      have tail := congrArg (List.drop field.length) inField.unread
      rw [drop_left' rfl, BitBuffer.unread, drop_take, drop_drop] at tail
      exact tail.symm
    simp only [BitBuffer.unread, BitBuffer.put]
    rw [append_assoc, drop_append_of_le_length (by omega), drop_of_length_le
      (by omega), nil_append, take_append, take_of_length_le (by omega), same,
      behindEq]

end Field

variable {block : BitBuffer} {head field rest : List Bool} {filled : Nat}

/-- After its header, a PDU is an SDU field with its fill and the rest of the block behind it. -/
theorem stripFill_ok {header : BitBuffer} {fillBits : Bool}
    (begins : Begins block (head ++ (field ++ (fill filled ++ rest))))
    (read : header = block.skip head.length) (flag : fillBits = decide (0 < filled)) :
    ∃ cropped, stripFill fillBits (head.length + field.length + filled) header = .ok cropped ∧
      cropped.start = block.start ∧ cropped.pos = block.start + head.length ∧
      Field cropped block.stop field (fill filled ++ rest) := by
  subst read
  obtain ⟨window, atStart, unread⟩ := begins
  have behind : (block.skip head.length).unread = field ++ (fill filled ++ rest) := by
    rw [unread_skip, unread, drop_left' rfl]
  have total := length_unread window
  rw [unread] at total
  simp only [length_append] at total
  unfold getLenRemaining at total
  have posLe := window.pos_le
  have stopLe := window.stop_le
  have headerWindow : (block.skip head.length).Window := by
    refine ⟨?_, ?_, stopLe⟩
    · show block.start ≤ block.pos + head.length
      omega
    · show block.pos + head.length ≤ block.stop
      omega
  have place : (block.skip head.length).getPos = head.length := by
    show block.pos + head.length - block.start = head.length
    omega
  have found : Receiver.numFillBits fillBits (block.skip head.length)
      (head.length + field.length + filled) = .ok filled := by
    unfold Receiver.numFillBits
    cases filled with
    | zero => rw [flag, if_neg (by simp)]
    | succ zeroes =>
      rw [flag]
      have scanned := FillBits.removal.getNumFillBits_fill headerWindow behind
      rwa [place] at scanned
  refine ⟨{ block.skip head.length with
    stop := block.start + (head.length + field.length + filled - filled) }, ?_, rfl, ?_, ?_⟩
  · unfold stripFill
    rw [found, ok_bind, assertThat_of (le_add_left _ _)]
    rfl
  · show block.pos + head.length = block.start + head.length
    rw [atStart]
  · refine ⟨?_, ?_, stopLe, ?_, ?_⟩
    · show block.start ≤ block.pos + head.length
      omega
    · show block.pos + head.length ≤ block.stop
      omega
    · show block.start + (head.length + field.length + filled - filled) =
        block.pos + head.length + field.length
      omega
    · exact behind

theorem advance_begins {cropped : BitBuffer} {len : Nat}
    (inField : Field cropped block.stop field (fill filled ++ rest))
    (place : block.start + len = cropped.pos + field.length + filled) :
    Begins (advance block cropped len) rest := by
  have total := inField.length
  rw [length_append, length_fill] at total
  have posLe := inField.posLe
  refine ⟨⟨le_rfl, ?_, inField.stopLe⟩, rfl, ?_⟩
  · show block.start + len ≤ block.stop
    omega
  · have tail := congrArg (List.drop (field.length + filled)) inField.unread
    rw [← append_assoc, drop_left' (by rw [length_append, length_fill]),
      unread, drop_take, drop_drop] at tail
    have reached : cropped.pos + (field.length + filled) = block.start + len := by omega
    have left : block.stop - cropped.pos - (field.length + filled)
        = block.stop - (block.start + len) := by omega
    rw [reached, left] at tail
    exact tail

theorem parsed_ok {α : Type} {reader : BufM α} {value : α} (reads : Reads reader head value)
    (begins : Begins block (head ++ rest)) :
    parsed reader block = .ok (some (value, block.skip head.length)) := by
  unfold parsed
  rw [reads block rest begins.unread]

theorem Begins.getLen {bits : List Bool} (begins : Begins block bits) :
    block.getLen = bits.length := by
  have total := BitBuffer.length_unread begins.window
  rw [begins.unread] at total
  rw [total, BitBuffer.getLen, BitBuffer.getLenRemaining, begins.atStart]

theorem Begins.getPos {bits : List Bool} (begins : Begins block bits) : block.getPos = 0 := by
  rw [BitBuffer.getPos, begins.atStart, Nat.sub_self]

theorem Begins.peekBits {first second third : Bool}
    (begins : Begins block (first :: second :: third :: rest)) :
    block.peekBits 3 = some (4 * first.toNat + 2 * second.toNat + third.toNat) := by
  have total := BitBuffer.length_unread begins.window
  rw [begins.unread] at total
  have enough : 3 ≤ block.getLenRemaining := by
    rw [← total]
    simp
  have front : (block.bits.drop block.pos).take 3 = [first, second, third] := by
    have cut := congrArg (List.take 3) begins.unread
    rw [BitBuffer.unread, take_take, Nat.min_eq_left (by
      simpa [BitBuffer.getLenRemaining] using enough)] at cut
    exact cut
  rw [BitBuffer.peekBits, if_pos enough, front]
  cases first <;> cases second <;> cases third <;> rfl
/-- The handlers' length of a PDU: what it indicates, or all that is left. -/
def Fits (octets : Option Nat) (total : Nat) (rest : List Bool) : Prop :=
  match octets with
  | some octets => total = octets * 8 ∨ rest = [] ∧ total ≤ octets * 8
  | none => rest = []

theorem Fits.min_eq {octets : Option Nat} {total len : Nat} (fits : Fits octets total rest)
    (all : len = total + rest.length) : min ((octets.map (· * 8)).getD len) len = total := by
  cases octets with
  | none =>
    have none : rest = [] := fits
    subst none
    simpa using all
  | some octets =>
    rw [Option.map_some, Option.getD_some]
    rcases fits with exact | ⟨rfl, below⟩
    · omega
    · simp only [length_nil] at all
      omega

theorem length_begins (begins : Begins block (head ++ (field ++ (fill filled ++ rest)))) :
    block.getLen = head.length + field.length + filled + rest.length := by
  have total := begins.getLen
  simp only [length_append, length_fill] at total
  omega

namespace Surroundings

variable {Key Context : Type} (air : Surroundings Key Context)

/-! ### What the base station makes of a field -/

/-- The bits of a field, deciphered in a context or taken as they are. -/
def openField (context : Option Context) (field : List Bool) : Option (List Bool) :=
  match context with
  | none => some field
  | some context =>
    if field = [] then some []
    else
      match air.keyStream context field.length with
      | .error _ => none
      | .ok stream => some (xorStream stream field)

/-- **Deciphering a window is deciphering the field in it.** -/
theorem cipherField_spec {block : BitBuffer} {stop : Nat} {field behind : List Bool}
    (inField : Field block stop field behind) (context : Option Context) :
    (air.openField context field = none ∧ air.cipherField context block = .ok none) ∨
    ∃ bits cropped, air.openField context field = some bits ∧
      air.cipherField context block = .ok (some cropped) ∧ cropped.start = block.start ∧
      cropped.pos = block.pos ∧ bits.length = field.length ∧ Field cropped stop bits behind := by
  cases context with
  | none => exact .inr ⟨field, block, rfl, rfl, rfl, rfl, rfl, inField⟩
  | some context =>
    unfold openField cipherField cipherUplinkMac
    rw [inField.lenRemaining_ok]
    simp only [ok_bind]
    by_cases empty : field = []
    · subst empty
      exact .inr ⟨[], block, rfl, rfl, rfl, rfl, rfl, inField⟩
    · have some : field.length ≠ 0 := by simpa using empty
      simp only [if_neg empty, if_neg some]
      cases air.keyStream context field.length with
      | error error => exact .inl ⟨rfl, rfl⟩
      | ok stream =>
        refine .inr ⟨_, _, rfl, rfl, rfl, rfl, length_xorStream _ _, ?_⟩
        rw [inField.unread_eq]
        exact inField.overwrite (length_xorStream _ _)

end Surroundings

end Bluestation
