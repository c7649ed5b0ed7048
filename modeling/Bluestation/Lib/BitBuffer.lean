/-
**A bit buffer with a window and a position, and how readers and writers compose on it.**

A buffer holds raw bits; its window is `[start, stop)` and its position lies in that window. Reading
takes bits at the position, writing replaces bits at the position, and both advance it.

* `Reads reader field value` — on any buffer whose unread bits begin with `field`, the reader
  returns `value` and steps over exactly `field`. Closed under `bind`.
* `Writes writer field` — on any buffer with room for `field`, the writer puts exactly `field` there.
  Closed under `bind`.

A codec is then shown in two halves, each by following the program's own sequence of steps.
-/

import Bluestation.Lib.Bits

namespace Bluestation.Bits

open List Nat

/-- Raw bits, a window on them, and a position. All three markers count from the first raw bit. -/
structure BitBuffer where
  bits : List Bool
  start : Nat
  pos : Nat
  stop : Nat
deriving DecidableEq

namespace BitBuffer

/-- A fresh buffer of `size` zero bits. -/
def new (size : Nat) : BitBuffer := ⟨List.replicate size false, 0, 0, size⟩

/-- A buffer with the given contents, positioned at its start. -/
def ofBits (bits : List Bool) : BitBuffer := ⟨bits, 0, 0, bits.length⟩

/-- The window's length. -/
def getLen (b : BitBuffer) : Nat := b.stop - b.start

/-- The position, counted from the start of the window. -/
def getPos (b : BitBuffer) : Nat := b.pos - b.start

/-- The bits between the position and the end of the window. -/
def getLenRemaining (b : BitBuffer) : Nat := b.stop - b.pos

/-- The bits already written (or read) in the window. -/
def getLenWritten (b : BitBuffer) : Nat := b.pos - b.start

/-- The window and the position lie in the raw bits, in order. -/
structure Window (b : BitBuffer) : Prop where
  start_le : b.start ≤ b.pos
  pos_le : b.pos ≤ b.stop
  stop_le : b.stop ≤ b.bits.length

/-- The bits from the position to the end of the window. -/
def unread (b : BitBuffer) : List Bool := (b.bits.drop b.pos).take (b.stop - b.pos)

/-- Step over `count` bits. -/
def skip (b : BitBuffer) (count : Nat) : BitBuffer := { b with pos := b.pos + count }

/-- Replace the bits at the position by `field` and step over it. -/
def put (b : BitBuffer) (field : List Bool) : BitBuffer :=
  { b with
    bits := b.bits.take b.pos ++ field ++ b.bits.drop (b.pos + field.length)
    pos := b.pos + field.length }

/-- The bit at an offset from the start of the window, if it lies inside. -/
def peekBitStartoffset (b : BitBuffer) (offset : Nat) : Option Bool :=
  if b.start + offset < b.stop then b.bits[b.start + offset]? else none

/-- The value of the next `width` bits, if the window has them; the position stays. -/
def peekBits (b : BitBuffer) (width : Nat) : Option Nat :=
  if width ≤ b.getLenRemaining then some (valueOf ((b.bits.drop b.pos).take width)) else none

/-- Move the position to an offset from the start of the window. -/
def seek (b : BitBuffer) (offset : Nat) : BitBuffer := { b with pos := b.start + offset }

/-- Move the position back. -/
def seekBack (b : BitBuffer) (count : Nat) : BitBuffer := { b with pos := b.pos - count }

/-- Add a bit to the one at the position, and step over it. -/
def xorBit (b : BitBuffer) (bit : Bool) : Option BitBuffer :=
  b.unread.head?.map fun old => b.put [old ^^ bit]

/-- The next `count` bits as an array, if the window has them. -/
def toBitarr (b : BitBuffer) (count : Nat) : Option (List Bool) :=
  if count ≤ b.getLenRemaining then some (b.unread.take count) else none

theorem new_window (size : Nat) : (new size).Window :=
  ⟨le_rfl, Nat.zero_le _, le_of_eq (length_replicate).symm⟩

theorem ofBits_window (bits : List Bool) : (ofBits bits).Window := ⟨le_rfl, Nat.zero_le _, le_rfl⟩

theorem unread_ofBits (bits : List Bool) : (ofBits bits).unread = bits := by
  simp [ofBits, unread]

/-! ### Stepping over and putting -/


@[simp] theorem skip_skip (b : BitBuffer) (first second : Nat) :
    (b.skip first).skip second = b.skip (first + second) := by
  simp [skip, add_assoc]

theorem unread_skip (b : BitBuffer) (count : Nat) : (b.skip count).unread = b.unread.drop count := by
  simp only [unread, skip, drop_take, drop_drop, Nat.sub_sub]

variable {b : BitBuffer}

theorem length_unread (window : b.Window) : b.unread.length = b.getLenRemaining := by
  have := window.stop_le
  simp only [unread, getLenRemaining, length_take, length_drop]
  omega

theorem length_unread_le (b : BitBuffer) : b.unread.length ≤ b.stop - b.pos := by
  simp only [unread, length_take]
  omega

@[simp] theorem put_nil (b : BitBuffer) : b.put [] = b := by
  simp [put]

@[simp] theorem put_start (b : BitBuffer) (field : List Bool) : (b.put field).start = b.start := rfl

@[simp] theorem put_pos (b : BitBuffer) (field : List Bool) :
    (b.put field).pos = b.pos + field.length := rfl

@[simp] theorem put_stop (b : BitBuffer) (field : List Bool) : (b.put field).stop = b.stop := rfl

theorem put_getLenRemaining (b : BitBuffer) (field : List Bool) :
    (b.put field).getLenRemaining = b.getLenRemaining - field.length := by
  simp only [getLenRemaining, put_stop, put_pos]
  omega

theorem put_window (window : b.Window) {field : List Bool} (room : field.length ≤ b.getLenRemaining) :
    (b.put field).Window := by
  obtain ⟨startLe, posLe, stopLe⟩ := window
  simp only [getLenRemaining] at room
  refine ⟨?_, ?_, ?_⟩
  · simp only [put_start, put_pos]
    omega
  · simp only [put_pos, put_stop]
    omega
  · simp only [put, length_append, length_take, length_drop]
    omega

/-- **Two fields put one after the other are one field.** -/
theorem put_put (window : b.Window) (first second : List Bool) :
    (b.put first).put second = b.put (first ++ second) := by
  have reach : b.pos ≤ b.bits.length := le_trans window.pos_le window.stop_le
  have front : (b.bits.take b.pos).length = b.pos := by simp [reach]
  simp only [put, length_append]
  congr 1
  · rw [take_append_of_le_length (by simp only [length_append]; omega),
      take_of_length_le (by simp only [length_append]; omega),
      drop_append, drop_of_length_le (by simp only [length_append]; omega),
      nil_append, drop_drop]
    simp only [length_append, append_assoc]
    congr 3
    congr 1
    omega
  · omega

theorem bits_put (window : b.Window) (field : List Bool) :
    ((b.put field).bits.drop b.pos).take field.length = field := by
  have reach : b.pos ≤ b.bits.length := le_trans window.pos_le window.stop_le
  have front : (b.bits.take b.pos).length = b.pos := by simp [reach]
  simp only [put, append_assoc]
  rw [drop_append_of_le_length (by omega), drop_of_length_le (by omega), nil_append, take_left']
  rfl

end BitBuffer

/-! ### Readers and writers -/

/-- A step on a bit buffer that may stop with a fault. -/
abbrev BitM (fault : Type) := StateT BitBuffer (Except fault)

section Compose

variable {fault α β : Type}

/-- Take a field of `width` bits, or stop with `onEnd` if the window ends first. -/
def take (onEnd : fault) (width : Nat) : BitM fault Nat := fun b =>
  if width ≤ b.getLenRemaining then
    .ok (valueOf ((b.bits.drop b.pos).take width), b.skip width)
  else .error onEnd

/-- Put a field, or stop with `onFull` if the window has no room for it. -/
def place (onFull : fault) (field : List Bool) : BitM fault Unit := fun b =>
  if field.length ≤ b.getLenRemaining then .ok ((), b.put field) else .error onFull

/-- **The reader takes exactly `field` and returns `value`**, whatever follows it. -/
def Reads (reader : BitM fault α) (field : List Bool) (value : α) : Prop :=
  ∀ (b : BitBuffer) (rest : List Bool), b.unread = field ++ rest →
    reader b = .ok (value, b.skip field.length)

/-- **The writer puts exactly `field`**, wherever there is room. -/
def Writes (writer : BitM fault Unit) (field : List Bool) : Prop :=
  ∀ b : BitBuffer, b.Window → field.length ≤ b.getLenRemaining →
    writer b = .ok ((), b.put field)

/-- **The reader stops with a fault at `field`**, whatever follows it. -/
def Refuses (reader : BitM fault α) (field : List Bool) (stop : fault) : Prop :=
  ∀ (b : BitBuffer) (rest : List Bool), b.unread = field ++ rest → reader b = .error stop

variable {next : α → BitM fault β} {value : α} {reader : BitM fault α} {field more : List Bool}

theorem bind_ok {first : BitM fault α} {b later : BitBuffer} (ran : first b = .ok (value, later)) :
    (first >>= next) b = next value later := by
  change (first b >>= fun pair => next pair.1 pair.2) = _
  rw [ran]
  rfl

theorem Reads.pure (value : α) : Reads (Pure.pure value : BitM fault α) [] value := by
  intro b rest _
  rfl

variable {final : β}

theorem Reads.bind (first : Reads reader field value)
    (second : Reads (next value) more final) : Reads (reader >>= next) (field ++ more) final := by
  intro b rest same
  rw [append_assoc] at same
  have tail : (b.skip field.length).unread = more ++ rest := by
    rw [BitBuffer.unread_skip, same, drop_left']
    rfl
  rw [bind_ok (first b _ same), second _ _ tail, BitBuffer.skip_skip, length_append]

/-- A reader whose next step stops stops. -/
theorem Reads.refuses {stop : fault} (first : Reads reader field value)
    (second : Refuses (next value) more stop) : Refuses (reader >>= next) (field ++ more) stop := by
  intro b rest same
  rw [append_assoc] at same
  have tail : (b.skip field.length).unread = more ++ rest := by
    rw [BitBuffer.unread_skip, same, drop_left']
    rfl
  rw [bind_ok (first b _ same), second _ _ tail]

/-- A first step that takes nothing. -/
theorem Refuses.check {stop : fault} (first : Reads reader [] value)
    (second : Refuses (next value) field stop) : Refuses (reader >>= next) field stop :=
  first.refuses second

/-- A last step that takes nothing. -/
theorem Reads.finish (first : Reads reader field value)
    (second : Reads (next value) [] final) : Reads (reader >>= next) field final := by
  have both := first.bind second
  rwa [append_nil] at both

/-- A first step that takes nothing. -/
theorem Reads.check (first : Reads reader [] value)
    (second : Reads (next value) field final) : Reads (reader >>= next) field final :=
  first.bind second

/-- A field of bits is read as its value. -/
theorem Reads.take (onEnd : fault) (field : List Bool) :
    Reads (Bits.take onEnd field.length) field (valueOf field) := by
  intro b rest same
  have bound : field.length ≤ b.getLenRemaining := by
    have := b.length_unread_le
    rw [same, length_append] at this
    simp only [BitBuffer.getLenRemaining]
    omega
  have front : (b.bits.drop b.pos).take field.length = field := by
    have cut := congrArg (List.take field.length) same
    rw [take_left' rfl, BitBuffer.unread, take_take,
      Nat.min_eq_left (by simpa [BitBuffer.getLenRemaining] using bound)] at cut
    exact cut
  simp only [Bits.take, if_pos bound, front]

theorem Reads.takeBits (onEnd : fault) {width value : Nat} (fits : value < 2 ^ width) :
    Reads (Bits.take onEnd width) (bitsOf width value) value := by
  have read := Reads.take onEnd (bitsOf width value)
  rwa [length_bitsOf, valueOf_bitsOf_of_lt fits] at read

theorem Reads.ofBits (read : Reads reader field value) (rest : List Bool) :
    ∃ later, reader (.ofBits (field ++ rest)) = .ok (value, later) ∧ later.unread = rest := by
  refine ⟨_, read _ rest (BitBuffer.unread_ofBits _), ?_⟩
  rw [BitBuffer.unread_skip, BitBuffer.unread_ofBits, drop_left' rfl]

theorem Writes.pure : Writes (Pure.pure () : BitM fault Unit) [] := by
  intro b _ _
  rw [BitBuffer.put_nil]
  rfl

theorem Writes.place (onFull : fault) (field : List Bool) : Writes (Bits.place onFull field) field := by
  intro b _ room
  simp only [Bits.place, if_pos room]

variable {writer : BitM fault Unit}

theorem Writes.bind {next : Unit → BitM fault Unit}
    (first : Writes writer field) (second : Writes (next ()) more) :
    Writes (writer >>= next) (field ++ more) := by
  intro b window room
  rw [length_append] at room
  have fits : field.length ≤ b.getLenRemaining := by omega
  rw [bind_ok (first b window fits), second _ (BitBuffer.put_window window fits)
    (by rw [BitBuffer.put_getLenRemaining]; omega), BitBuffer.put_put window]

/-- A first step that puts nothing. -/
theorem Writes.check {next : Unit → BitM fault Unit}
    (first : Writes writer []) (second : Writes (next ()) field) : Writes (writer >>= next) field :=
  first.bind second

end Compose

end Bluestation.Bits
