/-
**Decoding a punctured convolutional code by least-cost paths.**

The encoder is a shift register: a state is entered with its newest bit and left with its oldest, so
a walk backwards through its states is a message. Messages and received words stand newest first.

* `Register` — the register, forwards and backwards; `readback_dropped` ties the two together.
* `mismatches`, `disagreements` — distances of words, where a received symbol may be missing.
* `distance_ge` — a bound on the distance of two messages, from what one more bit adds to it.
* `Code.distance_le_mismatches` — **two messages cannot both be close to what was received.**
-/

import Bluestation.Lib.Moves
import Bluestation.Lib.Trellis

namespace Bluestation.ConvolutionalCode

open Trellis Moves List

/-! ### Shift registers -/

/-- A shift register, stepped forwards by a new bit and backwards by the bit that was shifted out. -/
structure Register (State : Type*) where
  next : Bool → State → State
  pred : Bool → State → State
  newest : State → Bool
  oldest : State → Bool
  pred_next : ∀ bit state, pred (oldest state) (next bit state) = state
  next_pred : ∀ bit state, next (newest state) (pred bit state) = state
  newest_next : ∀ bit state, newest (next bit state) = bit
  oldest_pred : ∀ bit state, oldest (pred bit state) = bit

namespace Register

variable {State : Type*} (register : Register State)

/-- The state after a message. -/
def run (start : State) : (message : List Bool) → State
  | [] => start
  | bit :: older => register.next bit (run start older)

/-- The bits a message shifts out. -/
def dropped (start : State) : (message : List Bool) → List Bool
  | [] => []
  | _ :: older => register.oldest (register.run start older) :: dropped start older

/-- The state a walk backwards ends in. -/
def origin : (choices : List Bool) → State → State
  | [], state => state
  | choice :: older, state => origin older (register.pred choice state)

/-- The newest bits of the states on a walk backwards. -/
def readback : (choices : List Bool) → State → List Bool
  | [], _ => []
  | choice :: older, state => register.newest state :: readback older (register.pred choice state)

variable {register}

@[simp] theorem length_dropped (start : State) (message : List Bool) :
    (register.dropped start message).length = message.length := by
  induction message with
  | nil => rfl
  | cons bit older ih => simp [dropped, ih]

@[simp] theorem length_readback (choices : List Bool) (state : State) :
    (register.readback choices state).length = choices.length := by
  induction choices generalizing state with
  | nil => rfl
  | cons choice older ih => simp [readback, ih]

theorem run_append (start : State) (newer older : List Bool) :
    register.run start (newer ++ older) = register.run (register.run start older) newer := by
  induction newer with
  | nil => rfl
  | cons bit newer ih => rw [cons_append, run, ih, run]

/-- **Walking back along the bits a message shifted out reads the message.** -/
theorem readback_dropped (start : State) (message : List Bool) :
    register.readback (register.dropped start message) (register.run start message) = message := by
  induction message with
  | nil => rfl
  | cons bit older ih =>
    rw [dropped, run, readback, register.newest_next, register.pred_next, ih]

theorem run_readback (choices : List Bool) (state : State) :
    register.run (register.origin choices state) (register.readback choices state) = state := by
  induction choices generalizing state with
  | nil => rfl
  | cons choice older ih => rw [origin, readback, run, ih, register.next_pred]

theorem dropped_readback (choices : List Bool) (state : State) :
    register.dropped (register.origin choices state) (register.readback choices state)
      = choices := by
  induction choices generalizing state with
  | nil => rfl
  | cons choice older ih =>
    rw [origin, readback, dropped, ih, run_readback, register.oldest_pred]

end Register

/-! ### Distances -/

/-- The number of received symbols that are there and wrong. -/
def mismatches : (received : List (Option Bool)) → (word : List Bool) → Nat
  | symbol :: received, bit :: word => (symbol == some (!bit)).toNat + mismatches received word
  | _, _ => 0

/-- The number of kept positions in which two words differ. -/
def disagreements : (kept : List Bool) → (first second : List Bool) → Nat
  | keep :: kept, a :: first, b :: second =>
    (keep && (a != b)).toNat + disagreements kept first second
  | _, _, _ => 0

/-- The number of received symbols that are there. -/
def known (received : List (Option Bool)) : Nat := received.countP Option.isSome

/-- **Two words that differ in many received positions cannot both be close to what was received.** -/
theorem disagreements_le (received : List (Option Bool)) (first second : List Bool) :
    disagreements (received.map Option.isSome) first second
      ≤ mismatches received first + mismatches received second := by
  induction received generalizing first second with
  | nil => simp [disagreements]
  | cons symbol received ih =>
    cases first with
    | nil => simp [disagreements]
    | cons a first =>
      cases second with
      | nil => simp [disagreements]
      | cons b second =>
        have rest := ih first second
        simp only [map_cons, disagreements, mismatches]
        cases symbol with
        | none => simpa using rest
        | some value => cases value <;> cases a <;> cases b <;> simp <;> omega

/-! ### Codes -/

/-- A code: its register, and the word each branch sends. -/
structure Code (State : Type*) extends Register State where
  rate : Nat
  word : Bool → State → List Bool
  length_word : ∀ choice state, (word choice state).length = rate

namespace Code

variable {State : Type*} (code : Code State)

/-- The word the encoder sends for one bit. -/
def emit (bit : Bool) (state : State) : List Bool :=
  code.word (code.oldest state) (code.next bit state)

/-- The kept positions in which two messages of one length are told apart. -/
def distance (kept : Nat → List Bool) (start : State) : (first second : List Bool) → Nat
  | a :: first, b :: second =>
    distance kept start first second
      + disagreements (kept first.length)
          (code.emit a (code.run start first)) (code.emit b (code.run start second))
  | _, _ => 0

variable {code}

/-- **A lower bound on the distance that one step cannot break.** Two messages part at some bit, and
from then on the bound on the pair of states grows no faster than the distance. -/
theorem distance_ge {kept : Nat → List Bool} {start : State} (bound : Nat → State → State → Nat)
    (part : ∀ time state a b, a ≠ b → bound (time + 1) (code.next a state) (code.next b state)
      ≤ disagreements (kept time) (code.emit a state) (code.emit b state))
    (grow : ∀ time state other a b, bound (time + 1) (code.next a state) (code.next b other)
      ≤ bound time state other + disagreements (kept time) (code.emit a state) (code.emit b other))
    (first second : List Bool) (sameLength : first.length = second.length)
    (differ : first ≠ second) :
    bound first.length (code.run start first) (code.run start second)
      ≤ code.distance kept start first second := by
  induction first generalizing second with
  | nil => exact absurd (length_eq_zero_iff.mp sameLength.symm).symm differ
  | cons a first ih =>
    obtain ⟨b, second, rfl⟩ := exists_cons_of_length_eq_add_one sameLength.symm
    have olderLength : first.length = second.length := by simpa using sameLength
    simp only [length_cons, Register.run, distance]
    by_cases same : first = second
    · subst same
      have parted : a ≠ b := fun equal => differ (by rw [equal])
      have here := part first.length (code.run start first) a b parted
      omega
    · have older := ih second olderLength same
      have here := grow first.length (code.run start first) (code.run start second) a b
      omega

end Code

/-! ### One stream for all words -/

section Stream

theorem mismatches_append {received : List (Option Bool)} {word : List Bool}
    (sameLength : received.length = word.length) (received' : List (Option Bool))
    (word' : List Bool) :
    mismatches (received ++ received') (word ++ word')
      = mismatches received word + mismatches received' word' := by
  induction received generalizing word with
  | nil =>
    rw [length_eq_zero_iff.mp sameLength.symm]
    simp [mismatches]
  | cons symbol received ih =>
    obtain ⟨bit, word, rfl⟩ := exists_cons_of_length_eq_add_one sameLength.symm
    simp only [cons_append, mismatches, ih (by simpa using sameLength)]
    omega

theorem mismatches_eq_zero {received : List (Option Bool)} {word : List Bool}
    (right : ∀ (place : Nat) (symbol : Bool), received[place]? = some (some symbol) → word[place]? = some symbol) :
    mismatches received word = 0 := by
  induction received generalizing word with
  | nil => simp [mismatches]
  | cons symbol received ih =>
    cases word with
    | nil => simp [mismatches]
    | cons bit word =>
      have here := right 0
      have rest := ih fun place value found => right (place + 1) value found
      rw [mismatches, rest]
      cases symbol with
      | none => rfl
      | some value =>
        have same : bit = value := by simpa using here value rfl
        simp [same]

/-- **A change in one place makes at most one more mismatch.** -/
theorem mismatches_agreeOff {place : Nat} {first second : List (Option Bool)}
    (agree : AgreeOff place first second) (word : List Bool) :
    mismatches first word ≤ mismatches second word + 1 := by
  induction word generalizing place first second with
  | nil => simp [mismatches]
  | cons bit word ih =>
    cases first with
    | nil => simp [mismatches]
    | cons symbol first =>
      obtain ⟨symbol', second, rfl⟩ := exists_cons_of_length_eq_add_one agree.1.symm
      rw [mismatches, mismatches]
      have lengths : first.length = second.length := by simpa using agree.1
      cases place with
      | zero =>
        have same : first = second :=
          ext_getElem? fun other => by simpa using agree.2 (other + 1) (by omega)
        have one : (symbol == some !bit).toNat ≤ 1 := Bool.toNat_le _
        rw [same]
        omega
      | succ place =>
        have head : symbol = symbol' := by simpa using agree.2 0 (by omega)
        have olderAgree : AgreeOff place first second :=
          ⟨lengths, fun other differs => by simpa using agree.2 (other + 1) (by omega)⟩
        have rest := ih olderAgree
        rw [head]
        omega

/-- The first `count` words of a stream, newest first. -/
def words {α : Type} (rate : Nat) (stream : List α) : (count : Nat) → List (List α)
  | 0 => []
  | count + 1 => (stream.drop (count * rate)).take rate :: words rate stream count

@[simp] theorem length_words {α : Type} (rate : Nat) (stream : List α) (count : Nat) :
    (words rate stream count).length = count := by
  induction count with
  | zero => rfl
  | succ count ih => simp [words, ih]

theorem length_of_mem_words {α : Type} {rate : Nat} {stream : List α} {count : Nat}
    (long : count * rate ≤ stream.length) : ∀ word ∈ words rate stream count, word.length = rate := by
  induction count with
  | zero => simp [words]
  | succ count ih =>
    rw [Nat.succ_mul] at long
    intro word member
    rcases mem_cons.mp member with rfl | older
    · rw [length_take, length_drop]
      omega
    · exact ih (by omega) word older

variable {State : Type*} {code : Code State}

/-- All the encoder sends for a message, in the order of time. -/
def Code.sent (code : Code State) (start : State) : (message : List Bool) → List Bool
  | [] => []
  | bit :: older => Code.sent code start older ++ code.emit bit (code.run start older)

@[simp] theorem Code.length_sent (start : State) (message : List Bool) :
    (code.sent start message).length = message.length * code.rate := by
  induction message with
  | nil => simp [Code.sent]
  | cons bit older ih =>
    rw [Code.sent, length_append, ih, Code.emit, code.length_word, length_cons, Nat.succ_mul]

/-- What is kept of each word, from what is kept of the stream. -/
def keptWord (rate : Nat) (keeps : Nat → Bool) (time : Nat) : List Bool :=
  (List.range rate).map fun place => keeps (time * rate + place)

theorem map_isSome_drop {rate count : Nat} {keeps : Nat → Bool} {stream : List (Option Bool)}
    (long : stream.length = (count + 1) * rate)
    (present : ∀ place < stream.length, stream[place]?.map Option.isSome = some (keeps place)) :
    (stream.drop (count * rate)).map Option.isSome = keptWord rate keeps count := by
  rw [Nat.succ_mul] at long
  apply ext_getElem?
  intro place
  rw [keptWord, getElem?_map, getElem?_map, getElem?_drop]
  by_cases inside : place < rate
  · rw [present _ (by omega), getElem?_range inside]
    rfl
  · rw [getElem?_eq_none (by omega), getElem?_eq_none (by simpa using not_lt.mp inside)]
    rfl

/-- **The distance of two messages bounds their wrong symbols from below.** -/
theorem Code.distance_le_mismatches (start : State) {keeps : Nat → Bool}
    {stream : List (Option Bool)} {first second : List Bool} (sameLength : first.length = second.length)
    (long : stream.length = first.length * code.rate)
    (present : ∀ place < stream.length, stream[place]?.map Option.isSome = some (keeps place)) :
    code.distance (keptWord code.rate keeps) start first second
      ≤ mismatches stream (code.sent start first) + mismatches stream (code.sent start second) := by
  induction first generalizing second stream with
  | nil => simp [distance]
  | cons a first ih =>
    obtain ⟨b, second, rfl⟩ := exists_cons_of_length_eq_add_one sameLength.symm
    have olderLength : first.length = second.length := by simpa using sameLength
    have here := disagreements_le (stream.drop (first.length * code.rate))
      (code.emit a (code.run start first)) (code.emit b (code.run start second))
    rw [map_isSome_drop long present] at here
    rw [length_cons, Nat.succ_mul] at long
    have olderLong : (stream.take (first.length * code.rate)).length = first.length * code.rate := by
      rw [length_take]
      omega
    have rest := ih olderLength olderLong fun place inside => by
      rw [olderLong] at inside
      rw [getElem?_take, if_pos inside]
      exact present place (by omega)
    have split (message : List Bool) (bit : Bool) (length : message.length = first.length) :
        mismatches stream (code.sent start (bit :: message)) =
          mismatches (stream.take (first.length * code.rate)) (code.sent start message) +
            mismatches (stream.drop (first.length * code.rate))
              (code.emit bit (code.run start message)) := by
      rw [sent, ← mismatches_append (by rw [olderLong, length_sent, length]), take_append_drop]
    rw [split first a rfl, split second b olderLength.symm, distance]
    omega

end Stream

end Bluestation.ConvolutionalCode
