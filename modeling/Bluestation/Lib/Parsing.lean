/-
**What a reader accepts, what a writer asks for, and codecs.**

`Reads` and `Writes` follow a codec forwards, from a value to its field and back. Here are the other
directions: what stands in the buffer if a reader hands back a value, and what holds of a value if a
writer went through.

* `Requires` — a writer goes through only if a condition holds. Closed under `bind`.
* `RoundTrips`, `Reproduces` — decoding what was encoded, and encoding what was decoded.
-/

import Bluestation.Lib.BitBuffer

namespace Bluestation.Bits

open List Nat BitBuffer

namespace BitBuffer

variable {b : BitBuffer}

theorem skip_window (window : b.Window) {count : Nat} (enough : count ≤ b.getLenRemaining) :
    (b.skip count).Window := by
  obtain ⟨startLe, posLe, stopLe⟩ := window
  unfold getLenRemaining at enough
  refine ⟨?_, ?_, stopLe⟩
  · show b.start ≤ b.pos + count
    omega
  · show b.pos + count ≤ b.stop
    omega

theorem length_le_of_unread {field rest : List Bool} (begins : b.unread = field ++ rest) :
    field.length ≤ b.getLenRemaining := by
  have bound := b.length_unread_le
  rw [begins, length_append] at bound
  unfold getLenRemaining
  omega

theorem unread_behind {field rest : List Bool} (begins : b.unread = field ++ rest) :
    (b.skip field.length).unread = rest := by
  rw [unread_skip, begins, drop_left' rfl]

theorem unread_of_take (window : b.Window) {count : Nat} (enough : count ≤ b.getLenRemaining) :
    b.unread = (b.bits.drop b.pos).take count ++ (b.skip count).unread ∧
      ((b.bits.drop b.pos).take count).length = count := by
  have stopLe := window.stop_le
  unfold getLenRemaining at enough
  constructor
  · have front : (b.bits.drop b.pos).take count = b.unread.take count := by
      unfold unread
      rw [take_take, min_eq_left enough]
    rw [front, unread_skip, take_append_drop]
  · rw [length_take, length_drop]
    omega

end BitBuffer

variable {fault α β : Type} {next : α → BitM fault β} {found : α → List Bool → Prop}
  {condition : Prop} {writer read : BitM fault α} {field : List Bool} {write : α → BitM fault Unit}

theorem bitM_bind_eq_ok {first : BitM fault α} {b later : BitBuffer} {result : β} :
    (first >>= next) b = .ok (result, later) ↔
      ∃ value mid, first b = .ok (value, mid) ∧ next value mid = .ok (result, later) := by
  change (first b >>= fun pair => next pair.1 pair.2) = _ ↔ _
  cases first b with
  | error stop => simp [bind, Except.bind]
  | ok pair =>
    obtain ⟨value, mid⟩ := pair
    simp [bind, Except.bind]

/-! ### Readers -/

/-- **Whatever the reader returns, it stepped over a field that stands in the relation to it.** -/
def Accepts (reader : BitM fault α) (found : α → List Bool → Prop) : Prop :=
  ∀ (b : BitBuffer) (value : α) (later : BitBuffer), b.Window → reader b = .ok (value, later) →
    ∃ field rest, b.unread = field ++ rest ∧ later = b.skip field.length ∧ found value field

variable {value : α}

theorem Accepts.pure (holds : found value []) : Accepts (Pure.pure value : BitM fault α) found := by
  intro b result later _ ran
  cases ran
  exact ⟨[], b.unread, rfl, rfl, holds⟩

theorem Accepts.throw {stop : fault} : Accepts (throw stop : BitM fault α) found := by
  intro b result later _ ran
  cases ran

variable {reader : BitM fault α}

theorem Accepts.mono {more : α → List Bool → Prop}
    (accepts : Accepts reader found) (weaker : ∀ value field, found value field → more value field) :
    Accepts reader more := by
  intro b value later window ran
  obtain ⟨field, rest, begins, skipped, holds⟩ := accepts b value later window ran
  exact ⟨field, rest, begins, skipped, weaker _ _ holds⟩

/-- **Readers compose.** What the second reader is asked for may speak of what the first one took. -/
theorem Accepts.bind {more : β → List Bool → Prop}
    (first : Accepts reader found) (second : ∀ value field, found value field →
      Accepts (next value) fun result behind => more result (field ++ behind)) :
    Accepts (reader >>= next) more := by
  intro b result later window ran
  obtain ⟨value, mid, before, after⟩ := bitM_bind_eq_ok.mp ran
  obtain ⟨field, rest, begins, rfl, holds⟩ := first b value mid window before
  have enough := length_le_of_unread begins
  obtain ⟨behind, last, continues, rfl, holds⟩ := second value field holds _ result later
    (skip_window window enough) after
  refine ⟨field ++ behind, last, ?_, ?_, holds⟩
  · rw [unread_behind begins] at continues
    rw [begins, continues, append_assoc]
  · rw [skip_skip, length_append]

theorem Accepts.ite [Decidable condition] {yes no : BitM fault α}
    (onYes : condition → Accepts yes found) (onNo : ¬ condition → Accepts no found) :
    Accepts (if condition then yes else no) found := by
  split
  · exact onYes ‹_›
  · exact onNo ‹_›

/-- A field that was taken is that of its value. -/
theorem Accepts.take (onEnd : fault) (width : Nat) :
    Accepts (Bits.take onEnd width) fun value field =>
      field = bitsOf width value ∧ value < 2 ^ width := by
  intro b value later window ran
  unfold Bits.take at ran
  split at ran
  next enough =>
    cases ran
    obtain ⟨begins, length⟩ := unread_of_take window enough
    refine ⟨_, _, begins, ?_, ?_, ?_⟩
    · rw [length]
    · have same := bitsOf_valueOf ((b.bits.drop b.pos).take width)
      rw [length] at same
      exact same.symm
    · have below := valueOf_lt ((b.bits.drop b.pos).take width)
      rwa [length] at below
  · cases ran

/-! ### Writers -/

/-- **The writer goes through only if the condition holds.** -/
def Requires (writer : BitM fault α) (condition : Prop) : Prop :=
  ∀ (b : BitBuffer) (value : α) (later : BitBuffer), writer b = .ok (value, later) → condition

theorem Requires.first (required : Requires writer condition) :
    Requires (writer >>= next) condition := by
  intro b result later ran
  obtain ⟨value, mid, before, -⟩ := bitM_bind_eq_ok.mp ran
  exact required b value mid before

theorem Requires.later (required : ∀ value, Requires (next value) condition) :
    Requires (writer >>= next) condition := by
  intro b result later ran
  obtain ⟨value, mid, -, after⟩ := bitM_bind_eq_ok.mp ran
  exact required value mid result later after

theorem Requires.both {first second : Prop} (one : Requires writer first)
    (other : Requires writer second) : Requires writer (first ∧ second) :=
  fun b value later ran => ⟨one b value later ran, other b value later ran⟩

theorem Writes.requires {writer : BitM fault Unit} (written : Writes writer field)
    (required : Requires writer condition) : condition :=
  required _ _ _ (written (.new field.length) (new_window _) le_rfl)

/-- **A writer writes one field at most.** -/
theorem Writes.unique {writer : BitM fault Unit} {other : List Bool} (one : Writes writer field)
    (two : Writes writer other) : field = other := by
  obtain ⟨b, room⟩ : ∃ b, b = BitBuffer.new (field.length + other.length) := ⟨_, rfl⟩
  have window : b.Window := by
    rw [room]
    exact new_window _
  have first := one b window (by rw [room]; exact le_add_right _ _)
  rw [two b window (by rw [room]; exact le_add_left _ _)] at first
  have same := (Prod.mk.inj (Except.ok.inj first)).2
  have length : other.length = field.length := by
    have := congrArg pos same
    rwa [put_pos, put_pos, add_left_cancel_iff] at this
  calc field = ((b.put field).bits.drop b.pos).take field.length := (bits_put window field).symm
    _ = ((b.put other).bits.drop b.pos).take other.length := by rw [same, length]
    _ = other := bits_put window other

/-! ### Codecs -/

/-- **Decoding what was encoded gives the value back**, in every buffer that holds just that. -/
def RoundTrips (write : α → BitM fault Unit) (read : BitM fault α) (value : α) : Prop :=
  ∀ field, Writes (write value) field → ∀ b : BitBuffer, b.Window → b.unread = field →
    read b = .ok (value, b.skip field.length)

/-- **Encoding what was decoded from a buffer gives the bits back** that the decoder stepped over. -/
def Reproduces (write : α → BitM fault Unit) (read : BitM fault α) (b : BitBuffer) : Prop :=
  ∀ value later, read b = .ok (value, later) → Writes (write value) (b.unread.take (later.pos - b.pos))

theorem roundTrips_of_refused (required : Requires (write value) condition)
    (fails : ¬ condition) : RoundTrips write read value :=
  fun _ written _ _ _ => absurd (written.requires required) fails

theorem roundTrips_of_reads (written : Writes (write value) field)
    (reads : Reads read field value) : RoundTrips write read value := by
  intro other also b _ holds
  rw [also.unique written] at holds ⊢
  exact reads b [] (by rw [holds, append_nil])

theorem reproduces_of_accepts {b : BitBuffer} (window : b.Window)
    (accepts : Accepts read fun value field => Writes (write value) field) :
    Reproduces write read b := by
  intro value later ran
  obtain ⟨field, rest, begins, rfl, written⟩ := accepts b value later window ran
  have span : (b.skip field.length).pos - b.pos = field.length := Nat.add_sub_cancel_left _ _
  rwa [span, begins, take_left' rfl]

end Bluestation.Bits
