/-
**What a step can stop with, and the field operations of the shared bit buffer.**

A step either hands back a parse error, which its caller handles, or panics (a failed assertion, an
`unwrap` of nothing, an unimplemented branch). The bit buffer belongs to the air-interface library;
it is taken to be a plain most-significant-first buffer with a window and a position.

* `Reads.readField`, `Writes.writeBits` — a written field is read back.
* `copyBits_ok` — copying moves exactly the next bits of one buffer into the other.
-/

import Bluestation.Lib.BitBuffer

namespace Bluestation

open Bits

/-- Why a PDU could not be parsed. -/
inductive PduParseErr where
  | bufferEnded (field : String)
  | invalidPduType (expected found : Nat)
  | invalidValue (field : String) (value : Nat)
  | notImplemented (field : String)
  | inconsistency (field reason : String)
deriving DecidableEq

/-- How a step stops short of a result. -/
inductive Fault where
  | parse (err : PduParseErr)
  | panic
deriving DecidableEq

/-- A step on the shared bit buffer. -/
abbrev BufM := BitM Fault

def assertThat (condition : Prop) [Decidable condition] : Except Fault Unit :=
  if condition then .ok () else .error .panic

def readField (width : Nat) (name : String) : BufM Nat :=
  take (.parse (.bufferEnded name)) width

/-- Put the low `width` bits of a value. -/
def writeBits (value width : Nat) : BufM Unit := place .panic (bitsOf width value)

def writeBit (bit : Bool) : BufM Unit := place .panic [bit]

def writeZeroes (count : Nat) : BufM Unit := place .panic (List.replicate count false)

/-- Move the next `count` bits of another buffer here; hand back that buffer stepped over them. -/
def copyBits (source : BitBuffer) (count : Nat) : BufM BitBuffer := do
  assertThat (count ≤ source.getLenRemaining)
  place .panic (source.unread.take count)
  pure (source.skip count)

def readFlagged {α : Type} (flag : String) (element : BufM α) : BufM (Option α) := do
  let present ← readField 1 flag
  if present = 1 then
    let value ← element
    pure (some value)
  else pure none

def writeFlagged {α : Type} (element : Option α) (write : α → BufM Unit) : BufM Unit :=
  match element with
  | some value => do
    writeBits 1 1
    write value
  | none => writeBits 0 1

def wireFlagged {α : Type} (element : Option α) (wire : α → List Bool) : List Bool :=
  match element with
  | some value => bitsOf 1 1 ++ wire value
  | none => bitsOf 1 0

variable {condition : Prop} {Error α β : Type}

@[simp] theorem assertThat_of [Decidable condition] (holds : condition) :
    assertThat condition = .ok () := if_pos holds

@[simp] theorem assertThat_not [Decidable condition] (fails : ¬ condition) :
    assertThat condition = .error .panic := if_neg fails

@[simp] theorem ok_bind (value : α) (next : α → Except Error β) :
    (Except.ok value >>= next) = next value := rfl

@[simp] theorem error_bind (fault : Error) (next : α → Except Error β) :
    (Except.error fault >>= next) = .error fault := rfl

theorem toOption_eq_some {result : Except Error α} {value : α} :
    result.toOption = some value ↔ result = .ok value := by
  cases result <;> simp [Except.toOption]

theorem bind_eq_ok {first : Except Error α} {next : α → Except Error β} {result : β} :
    (first >>= next) = .ok result ↔ ∃ value, first = .ok value ∧ next value = .ok result := by
  cases first with
  | error fault => simp
  | ok value => simp

theorem map_fst_eq_ok {computation : Except Fault (α × β)} {result : α} :
    Prod.fst <$> computation = .ok result ↔ ∃ answer, computation = .ok (result, answer) := by
  rcases computation with fault | ⟨value, answer⟩
  · simp
  · simp [eq_comm]

theorem assertThat_eq_ok [Decidable condition] {done : Unit} :
    assertThat condition = .ok done ↔ condition := by
  by_cases holds : condition
  · simp [holds]
  · simp [holds]

theorem toNat_ne_zero (flag : Bool) : (flag.toNat != 0) = flag := by
  cases flag <;> rfl

/-! ### Fields read and written -/

section Compose

variable {α β : Type} {step : Except Fault α}

variable {value : α}

theorem reads_lift (ran : step = .ok value) : Reads (liftM step : BufM α) [] value := by
  intro b rest _
  subst ran
  rfl

theorem writes_lift {step : Except Fault Unit} (ran : step = .ok ()) :
    Writes (liftM step : BufM Unit) [] := by
  intro b _ _
  subst ran
  rw [BitBuffer.put_nil]
  rfl

theorem liftM_ok (ran : step = .ok value) (b : BitBuffer) :
    (liftM step : BufM α) b = .ok (value, b) := by
  subst ran
  rfl

theorem lift_bind (ran : step = .ok value) (next : α → BufM β) :
    (liftM step >>= next : BufM β) = next value := by
  subst ran
  rfl

theorem reads_readField (name : String) {width value : Nat} (fits : value < 2 ^ width) :
    Reads (readField width name) (bitsOf width value) value :=
  Reads.takeBits _ fits

variable {more : List Bool}

theorem Bits.Reads.field {name : String} {width value : Nat} {next : Nat → BufM β}
    {final : β} (fits : value < 2 ^ width) (rest : Reads (next value) more final) :
    Reads (readField width name >>= next) (bitsOf width value ++ more) final :=
  (reads_readField name fits).bind rest

theorem Bits.Reads.asserted {condition : Prop} [Decidable condition] {next : Unit → BufM β}
    {field : List Bool} {final : β} (holds : condition) (rest : Reads (next ()) field final) :
    Reads ((liftM (assertThat condition) : BufM Unit) >>= next) field final :=
  (reads_lift (assertThat_of holds)).check rest

theorem writes_writeBits (value width : Nat) : Writes (writeBits value width) (bitsOf width value) :=
  Writes.place _ _

theorem writes_writeBit (bit : Bool) : Writes (writeBit bit) [bit] := Writes.place _ _

variable {next : Unit → BufM Unit}

theorem Bits.Writes.bits {value width : Nat} (rest : Writes (next ()) more) :
    Writes (writeBits value width >>= next) (bitsOf width value ++ more) :=
  (writes_writeBits _ _).bind rest

theorem Bits.Writes.flag {bit : Bool}
    (rest : Writes (next ()) more) : Writes (writeBit bit >>= next) ([bit] ++ more) :=
  (writes_writeBit _).bind rest

theorem writes_writeZeroes (count : Nat) :
    Writes (writeZeroes count) (List.replicate count false) := Writes.place _ _

variable {wire : α → List Bool} {element : Option α}

theorem reads_flagged (flag : String) {reader : BufM α}
    (each : ∀ value ∈ element, Reads reader (wire value) value) :
    Reads (readFlagged flag reader) (wireFlagged element wire) element := by
  cases element with
  | some value =>
    refine .bind (reads_readField flag (by decide)) ?_
    exact (each value rfl).finish (.pure _)
  | none =>
    refine .finish (reads_readField flag (by decide)) ?_
    exact .pure _

theorem writes_flagged {write : α → BufM Unit}
    (each : ∀ value ∈ element, Writes (write value) (wire value)) :
    Writes (writeFlagged element write) (wireFlagged element wire) := by
  cases element with
  | some value => exact (writes_writeBits 1 1).bind (each value rfl)
  | none => exact writes_writeBits 0 1

/-- **Copying moves exactly the next `count` bits.** -/
theorem copyBits_ok {b source : BitBuffer} {count : Nat} (window : source.Window)
    (enough : count ≤ source.getLenRemaining) (room : count ≤ b.getLenRemaining) :
    copyBits source count b = .ok (source.skip count, b.put (source.unread.take count)) := by
  have width : (source.unread.take count).length = count := by
    rw [List.length_take, BitBuffer.length_unread window]
    omega
  have placed : place Fault.panic (source.unread.take count) b =
      .ok ((), b.put (source.unread.take count)) := by
    simp only [place, width, if_pos room]
  rw [copyBits, lift_bind (assertThat_of enough)]
  rw [bind_ok placed]
  rfl

end Compose

end Bluestation
