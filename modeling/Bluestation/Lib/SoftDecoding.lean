/-
**Most likely messages of a convolutional code, from soft decisions.**

A received symbol is a reliability: its sign says which bit it is taken for, its size how surely. What
a received stream says for a message is its correlation with what is sent for the message.

* `correlation` — each reliability counts for the bit of a word, or against it.
* `Code.survivor_most_likely` — **no message to the same state is more likely than the survivor's.**
-/

import Bluestation.Lib.ConvolutionalCode

namespace Bluestation.ConvolutionalCode

open Trellis List Register

/-! ### Correlations -/

/-- What reliabilities say for a word: each counts for the word's bit, or against it. -/
def correlation : (soft : List ℤ) → (word : List Bool) → ℤ
  | value :: soft, bit :: word => (if bit then value else -value) + correlation soft word
  | _, _ => 0

theorem correlation_not (soft : List ℤ) (word : List Bool) :
    correlation soft (word.map (!·)) = -correlation soft word := by
  induction soft generalizing word with
  | nil => simp [correlation]
  | cons value soft ih =>
    cases word with
    | nil => simp [correlation]
    | cons bit word =>
      rw [map_cons, correlation, correlation, ih]
      cases bit <;> simp <;> ring

theorem correlation_append {soft : List ℤ} {word : List Bool} (sameLength : soft.length = word.length)
    (soft' : List ℤ) (word' : List Bool) :
    correlation (soft ++ soft') (word ++ word') = correlation soft word + correlation soft' word' := by
  induction soft generalizing word with
  | nil =>
    rw [length_eq_zero_iff.mp sameLength.symm]
    simp [correlation]
  | cons value soft ih =>
    obtain ⟨bit, word, rfl⟩ := exists_cons_of_length_eq_add_one sameLength.symm
    rw [cons_append, cons_append, correlation, correlation, ih (by simpa using sameLength)]
    ring

theorem abs_correlation_le {bound : ℤ} {soft : List ℤ} (small : ∀ value ∈ soft, |value| ≤ bound)
    (positive : 0 ≤ bound) (word : List Bool) : |correlation soft word| ≤ bound * soft.length := by
  induction soft generalizing word with
  | nil => simp [correlation]
  | cons value soft ih =>
    obtain ⟨here, others⟩ := forall_mem_cons.mp small
    cases word with
    | nil =>
      rw [correlation]
      · positivity
      · simp
    | cons bit word =>
      have rest := ih others word
      have size : |if bit then value else -value| = |value| := by
        cases bit with
        | false => exact abs_neg value
        | true => rfl
      calc |correlation (value :: soft) (bit :: word)|
          ≤ |if bit then value else -value| + |correlation soft word| := abs_add_le _ _
        _ ≤ bound + bound * soft.length := by
            rw [size]
            exact add_le_add here rest
        _ = bound * (value :: soft).length := by
            rw [length_cons]
            push_cast
            ring

/-! ### The trellis of received words -/

namespace Code

variable {State : Type*} (code : Code State)

/-- The stages of the trellis for received words. -/
def softStages (received : List (List ℤ)) : List (Stage State ℤ) :=
  received.map fun soft choice state => -correlation soft (code.word choice state)

/-- What all received words say for a message. -/
def correlated (start : State) : (received : List (List ℤ)) → (message : List Bool) → ℤ
  | soft :: received, bit :: older =>
    correlated start received older + correlation soft (code.emit bit (code.run start older))
  | _, _ => 0

variable {code} {init : State → ℤ} {start final : State} {received : List (List ℤ)}

/-- **The walk of a message costs what the received words say against it.** -/
theorem walkCost_softStages (code : Code State) (init : State → ℤ) (start : State)
    (message : List Bool) (sameLength : message.length = received.length) :
    walkCost code.pred init (code.softStages received) (code.dropped start message)
        (code.run start message) = init start - code.correlated start received message := by
  induction received generalizing message with
  | nil =>
    rw [length_eq_zero_iff.mp sameLength]
    simp [softStages, walkCost, dropped, Register.run, correlated]
  | cons soft received ih =>
    obtain ⟨bit, older, rfl⟩ := exists_cons_of_length_eq_add_one sameLength
    have before := ih older (by simpa using sameLength)
    unfold softStages at before ⊢
    rw [map_cons, dropped, Register.run, walkCost, code.pred_next, before, correlated, emit]
    ring

variable {bound : ℤ} {stream : List ℤ}

/-- **No message to the same state is more likely than the survivor's**, if walks from other states
start too dear. -/
theorem survivor_most_likely (started : init start = 0)
    (bounded : ∀ state message, |code.correlated state received message| ≤ bound)
    (dear : ∀ state, state ≠ start → 2 * bound < init state) {other : List Bool}
    (sameLength : other.length = received.length) (ends : code.run start other = final) :
    code.run start (code.readback
        (survivor code.pred init (code.softStages received) final) final) = final ∧
      code.correlated start received other ≤ code.correlated start received
        (code.readback (survivor code.pred init (code.softStages received) final) final) := by
  obtain ⟨choices, choicesEq⟩ : ∃ choices,
      choices = survivor code.pred init (code.softStages received) final := ⟨_, rfl⟩
  obtain ⟨message, messageEq⟩ : ∃ message, message = code.readback choices final := ⟨_, rfl⟩
  obtain ⟨origin, originEq⟩ : ∃ origin, origin = code.origin choices final := ⟨_, rfl⟩
  have runs : code.run origin message = final := by
    rw [originEq, messageEq, run_readback]
  have drops : code.dropped origin message = choices := by
    rw [originEq, messageEq, dropped_readback]
  have stagesLength : (code.softStages received).length = received.length := length_map ..
  have messageLength : message.length = received.length := by
    rw [messageEq, length_readback, choicesEq, length_survivor, stagesLength]
  have cost := walkCost_softStages code init origin message messageLength
  have otherCost := walkCost_softStages code init start other sameLength
  rw [runs, drops, choicesEq, walkCost_survivor] at cost
  rw [ends] at otherCost
  have cheapest := @metricsAfter_le _ _ _ _ code.pred init _ (code.softStages received)
    (code.dropped start other) (by rw [length_dropped, sameLength, stagesLength]) final
  rw [cost] at cheapest
  have home : origin = start := by
    by_contra away
    have far := dear origin away
    have most := abs_le.mp (bounded origin message)
    have least := abs_le.mp (bounded start other)
    linarith [most.2, least.1]
  rw [home] at runs cheapest
  rw [← choicesEq, ← messageEq]
  exact ⟨runs, by linarith⟩

/-! ### One stream for all words -/

theorem flatten_words {α : Type} (rate : Nat) (stream : List α) (count : Nat) :
    (words rate stream count).reverse.flatten = stream.take (count * rate) := by
  induction count with
  | zero => simp [words]
  | succ count ih =>
    rw [words, reverse_cons, flatten_append, ih, Nat.succ_mul, take_add]
    simp

theorem correlated_words (start : State) (message : List Bool)
    (long : message.length * code.rate ≤ stream.length) :
    code.correlated start (words code.rate stream message.length) message =
      correlation (stream.take (message.length * code.rate)) (code.sent start message) := by
  induction message with
  | nil => simp [correlated, words, correlation]
  | cons bit older ih =>
    rw [length_cons, Nat.succ_mul] at long
    rw [length_cons, Nat.succ_mul, words, correlated, ih (by omega), sent, take_add,
      correlation_append]
    rw [length_take, length_sent]
    omega

theorem abs_correlated_words_le (small : ∀ value ∈ stream, |value| ≤ bound) (positive : 0 ≤ bound)
    (rate count : Nat) (start : State) (message : List Bool) :
    |code.correlated start (words rate stream count) message| ≤ bound * (count * rate) := by
  induction count generalizing message with
  | zero => simp [words, correlated]
  | succ count ih =>
    cases message with
    | nil =>
      rw [correlated]
      · positivity
      · simp
    | cons bit older =>
      have word := @abs_correlation_le bound ((stream.drop (count * rate)).take rate)
        (fun value member => small value (mem_of_mem_drop (mem_of_mem_take member)))
        positive (code.emit bit (code.run start older))
      have few : (((stream.drop (count * rate)).take rate).length : ℤ) ≤ rate := by
        exact_mod_cast length_take_le _ _
      have scaled := mul_le_mul_of_nonneg_left few positive
      have rest := ih older
      refine (abs_add_le _ _).trans ?_
      push_cast
      linarith

/-- **The message that is read back is the most likely one.** -/
theorem readback_most_likely {count : Nat} (started : init start = 0)
    (long : stream.length = count * code.rate) (small : ∀ value ∈ stream, |value| ≤ bound)
    (positive : 0 ≤ bound) (dear : ∀ state, state ≠ start → 2 * (bound * stream.length) < init state)
    {other : List Bool} (sameLength : other.length = count) (ends : code.run start other = final) :
    let choices := survivor code.pred init (code.softStages (words code.rate stream count)) final
    code.run start (code.readback choices final) = final ∧
      correlation stream (code.sent start other) ≤
        correlation stream (code.sent start (code.readback choices final)) := by
  have all := @survivor_most_likely _ code init start final (words code.rate stream count)
    (bound * stream.length) started (fun state message => by
      rw [long]
      exact abs_correlated_words_le small positive code.rate count state message) dear other
    (sameLength.trans (length_words _ _ _).symm) ends
  have whole (message : List Bool) (is : message.length = count) :
      code.correlated start (words code.rate stream count) message =
        correlation stream (code.sent start message) := by
    subst is
    rw [correlated_words start message long.ge, ← long, take_length]
  rw [whole other sameLength, whole _ (by
    rw [length_readback, length_survivor, softStages, length_map, length_words])] at all
  exact all

end Code

end Bluestation.ConvolutionalCode
