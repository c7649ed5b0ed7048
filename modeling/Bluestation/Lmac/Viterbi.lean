/-
**The Viterbi decoder.**

The decoder of a convolutional code with 16 states: one add-compare-select for each received word,
then a walk back along the decisions from state 0.

* `ViterbiDecoder.decodeChecked` — the decoder with the widths of its numbers; it runs if the lowest
  reliability is not received.
* `decode_eq_of_best` — **a message that is more likely than every other one is decoded.**
-/

import Bluestation.Lib.SoftDecoding
import Bluestation.Lmac.ConvEnc

namespace Bluestation.Viterbi

open Trellis ConvolutionalCode Moves ConvEnc

/-! ### The decoder -/

/-- The reliability of a received bit: negative for 0, positive for 1, and 0 for a punctured bit. -/
abbrev SoftBit := Int

/-- An accumulated path metric. -/
abbrev Metric := Int

def METRIC_MAX : Metric := 2 ^ 31 - 1

/-- Constraint length of the code. -/
abbrev K : Nat := 5

abbrev numStates (k : Nat) : Nat := 2 ^ (k - 1)

abbrev NUM_STATES : Nat := numStates K

/-- The expected outputs for each state, for each generator polynomial. -/
structure ViterbiDecoder where
  expected0 : List (Vector SoftBit NUM_STATES)

/-- What a generator polynomial makes of the past inputs that a state number holds. -/
def encoderOutput (poly : List Bool) (state : Fin NUM_STATES) : Bool :=
  (List.range (K - 1)).foldl (fun output bitI =>
    let pastInputBit := state.val &&& (2 ^ (K - 2 - bitI)) != 0
    if pastInputBit && poly.getD bitI false then !output else output) false

def ViterbiDecoder.newWithPolynomials (polynomials : List (List Bool)) : ViterbiDecoder where
  expected0 := polynomials.map fun poly =>
    Vector.ofFn fun state => if encoderOutput poly state then 1 else -1

def predecessor (choice : Bool) (state : Fin NUM_STATES) : Fin NUM_STATES :=
  ⟨(state.val * 2) % NUM_STATES + choice.toNat, by
    have := Bool.toNat_le choice
    show state.val * 2 % 16 + choice.toNat < 16
    omega⟩

def newestBit (state : Fin NUM_STATES) : Bool := (state.val >>> (K - 2)) &&& 1 == 1

/-- Path metrics and the decisions so far, the latest first. -/
structure Progress where
  metrics : Vector Metric NUM_STATES
  decisions : List (Vector Bool NUM_STATES)

namespace ViterbiDecoder

/-- The branch metrics for a received word, for encoder output as expected. -/
def branchMetrics0 (decoder : ViterbiDecoder) (received : List SoftBit) :
    Vector Metric NUM_STATES :=
  Vector.ofFn fun state =>
    (received.zip decoder.expected0).foldl
      (fun metric pair => metric - pair.1 * pair.2[state.val]) 0

/-- One received word: each state takes the cheaper of its two predecessors. -/
def step (decoder : ViterbiDecoder) (progress : Progress) (received : List SoftBit) : Progress :=
  let branch := decoder.branchMetrics0 received
  let metric0 (state : Fin NUM_STATES) : Metric :=
    progress.metrics[(predecessor false state).val] + branch[state.val]
  let metric1 (state : Fin NUM_STATES) : Metric :=
    progress.metrics[(predecessor true state).val] - branch[state.val]
  { metrics := Vector.ofFn fun state =>
      if metric1 state < metric0 state then metric1 state else metric0 state
    decisions := (Vector.ofFn fun state => decide (metric1 state < metric0 state))
      :: progress.decisions }

/-- The encoder starts from state 0; the other states start too dear to be chosen. -/
def start : Progress where
  metrics := Vector.ofFn fun state => if state = 0 then 0 else METRIC_MAX / 2
  decisions := []

def chunksExact (rate : Nat) (received : List SoftBit) : List (List SoftBit) :=
  (List.range (received.length / rate)).map fun i => (received.drop (i * rate)).take rate

def traceback : (decisions : List (Vector Bool NUM_STATES)) → (state : Fin NUM_STATES) → List Bool
  | [], _ => []
  | decision :: older, state =>
    newestBit state :: traceback older (predecessor decision[state.val] state)

def decode (decoder : ViterbiDecoder) (receivedBits : List SoftBit) : List Bool :=
  let progress := (chunksExact decoder.expected0.length receivedBits).foldl decoder.step start
  (traceback progress.decisions 0).reverse

end ViterbiDecoder

def TetraViterbiDecoder.polynomials : List (List Bool) :=
  [[true, true, false, false, true],
   [true, false, true, true, true],
   [true, true, true, false, true],
   [true, true, false, true, true]]

def TetraViterbiDecoder.new : ViterbiDecoder :=
  .newWithPolynomials TetraViterbiDecoder.polynomials

def TetraCodecViterbiDecoder.polynomials : List (List Bool) :=
  [[true, true, true, true, true],
   [true, true, false, true, true],
   [true, false, true, false, true]]

def TetraCodecViterbiDecoder.new : ViterbiDecoder :=
  .newWithPolynomials TetraCodecViterbiDecoder.polynomials

/-- Write the decoded symbols of a soft stream to the front of an array. -/
def decSb1Soft (inBuf : List SoftBit) (outBuf : List Bool) (symCount : Nat) :
    Option (List Bool) :=
  if symCount * 4 ≤ inBuf.length ∧ symCount ≤ outBuf.length then
    let decoded := TetraViterbiDecoder.new.decode (inBuf.take (symCount * 4))
    some (decoded.take symCount ++ outBuf.drop symCount)
  else none

def softBit (strength : SoftBit) : Option Bool → SoftBit
  | some false => -strength
  | some true => strength
  | none => 0

/-- Decode a stream of hard bits, where nothing stands for a punctured bit (0xff). -/
def decSb1 (inBuf : List (Option Bool)) (outBuf : List Bool) (symCount : Nat) :
    Option (List Bool) :=
  if symCount ≤ 864 ∧ symCount * 4 ≤ inBuf.length ∧ symCount ≤ outBuf.length then
    decSb1Soft ((inBuf.take (symCount * 4)).map (softBit 1)) outBuf symCount
  else none

open ViterbiDecoder (newWithPolynomials)

/-! ### The metrics fit their type -/

section Range

/-- A branch metric is at most the sum of the reliabilities. -/
theorem branchMetrics0_le (polynomials : List (List Bool)) {received : List SoftBit}
    (soft : ∀ bit ∈ received, |bit| ≤ 127) (state : Fin NUM_STATES) :
    |((newWithPolynomials polynomials).branchMetrics0 received)[state.val]|
      ≤ 127 * polynomials.length := by
  have fold : ∀ (polys : List (List Bool)) (bits : List SoftBit) (metric : Metric),
      (∀ bit ∈ bits, |bit| ≤ 127) →
      |(bits.zip (newWithPolynomials polys).expected0).foldl
        (fun metric pair => metric - pair.1 * pair.2[state.val]) metric|
        ≤ |metric| + 127 * polys.length := by
    intro polys
    induction polys with
    | nil => intro bits metric _; simp [newWithPolynomials]
    | cons poly polys ih =>
      intro bits metric small
      cases bits with
      | nil =>
        simp only [List.zip_nil_left, List.foldl_nil, le_add_iff_nonneg_right]
        positivity
      | cons bit bits =>
        have rest := ih bits (metric - bit * if encoderOutput poly state then 1 else -1)
          fun other member => small other (List.mem_cons_of_mem _ member)
        have here : |metric - bit * if encoderOutput poly state then 1 else -1|
            ≤ |metric| + 127 := by
          have bounded := small bit List.mem_cons_self
          have moved := abs_sub metric (bit * if encoderOutput poly state then 1 else -1)
          have size : |bit * if encoderOutput poly state then 1 else -1| = |bit| := by
            cases encoderOutput poly state <;> simp
          linarith
        unfold newWithPolynomials at rest ⊢
        simp only [List.map_cons, List.zip_cons_cons, List.foldl_cons, Vector.getElem_ofFn,
          List.length_cons]
        push_cast
        linarith
  rw [ViterbiDecoder.branchMetrics0]
  simpa using fold polynomials received 0 soft

theorem step_metrics_le (polynomials : List (List Bool)) {progress : Progress} {word : List SoftBit}
    {bound : ℤ} (soft : ∀ bit ∈ word, |bit| ≤ 127)
    (below : ∀ state : Fin NUM_STATES, |progress.metrics[state.val]| ≤ bound)
    (state : Fin NUM_STATES) :
    |((newWithPolynomials polynomials).step progress word).metrics[state.val]|
      ≤ bound + 127 * polynomials.length := by
  have branch := branchMetrics0_le polynomials soft state
  have zero := below (predecessor false state)
  have one := below (predecessor true state)
  rw [abs_le] at branch zero one ⊢
  simp only [ViterbiDecoder.step, Vector.getElem_ofFn]
  split <;> constructor <;> linarith [branch.1, branch.2, zero.1, zero.2, one.1, one.2]

theorem start_metrics_le (state : Fin NUM_STATES) :
    |ViterbiDecoder.start.metrics[state.val]| ≤ METRIC_MAX / 2 := by
  rw [ViterbiDecoder.start, Vector.getElem_ofFn]
  split <;> decide

end Range

/-! ### The widths of the numbers -/

def SOFT_BIT_MIN : SoftBit := -128

def SOFT_BIT_MAX : SoftBit := 127

def METRIC_MIN : Metric := -(2 ^ 31)

def mulSoft (first second : SoftBit) : Option SoftBit :=
  if SOFT_BIT_MIN ≤ first * second ∧ first * second ≤ SOFT_BIT_MAX then some (first * second) else none

def asMetric (value : Int) : Option Metric :=
  if METRIC_MIN ≤ value ∧ value ≤ METRIC_MAX then some value else none

def tabulate (entry : Fin NUM_STATES → Option Metric) : Option (Vector Metric NUM_STATES) :=
  if ∀ state, (entry state).isSome then some (Vector.ofFn fun state => (entry state).getD 0) else none

namespace ViterbiDecoder

def branchMetrics0Checked (decoder : ViterbiDecoder) (received : List SoftBit) :
    Option (Vector Metric NUM_STATES) :=
  tabulate fun state =>
    (received.zip decoder.expected0).foldlM (fun metric pair => do
      let product ← mulSoft pair.1 pair.2[state.val]
      asMetric (metric - product)) 0

def stepChecked (decoder : ViterbiDecoder) (progress : Progress) (received : List SoftBit) :
    Option Progress := do
  let branch ← decoder.branchMetrics0Checked received
  let metrics0 ← tabulate fun state =>
    asMetric (progress.metrics[(predecessor false state).val] + branch[state.val])
  let metrics1 ← tabulate fun state =>
    asMetric (progress.metrics[(predecessor true state).val] - branch[state.val])
  some
    { metrics := Vector.ofFn fun state =>
        if metrics1[state.val] < metrics0[state.val] then metrics1[state.val] else metrics0[state.val]
      decisions := (Vector.ofFn fun state => decide (metrics1[state.val] < metrics0[state.val]))
        :: progress.decisions }

/-- The decoder with the widths of its numbers: nothing if one of them does not hold a result. -/
def decodeChecked (decoder : ViterbiDecoder) (receivedBits : List SoftBit) : Option (List Bool) := do
  let progress ← (chunksExact decoder.expected0.length receivedBits).foldlM decoder.stepChecked start
  some (traceback progress.decisions 0).reverse

end ViterbiDecoder

/-! ### The decoder runs -/

variable {entry : Fin NUM_STATES → Option Metric}

theorem tabulate_eq {value : Fin NUM_STATES → Metric}
    (all : ∀ state, entry state = some (value state)) : tabulate entry = some (Vector.ofFn value) := by
  unfold tabulate
  simp [all]

theorem tabulate_none {state : Fin NUM_STATES}
    (fails : entry state = none) : tabulate entry = none := by
  apply if_neg
  intro all
  have here := all state
  rw [fails] at here
  cases here

theorem asMetric_eq {value : Int} (small : |value| ≤ METRIC_MAX) : asMetric value = some value := by
  have range := abs_le.mp small
  have lowest : METRIC_MIN ≤ -METRIC_MAX := by decide
  exact if_pos ⟨lowest.trans range.1, range.2⟩

theorem mulSoft_eq {value : SoftBit} (small : |value| ≤ 127) (output : Bool) :
    mulSoft value (if output then 1 else -1) = some (value * if output then 1 else -1) := by
  have range := abs_le.mp small
  unfold mulSoft SOFT_BIT_MIN SOFT_BIT_MAX
  apply if_pos
  cases output with
  | false =>
    simp only [Bool.false_eq_true, if_false]
    constructor <;> linarith [range.1, range.2]
  | true =>
    simp only [if_true]
    constructor <;> linarith [range.1, range.2]

section Runs

variable {polynomials : List (List Bool)}

theorem foldlM_branch {polys : List (List Bool)} {soft : List SoftBit} {metric : Metric}
    (small : ∀ bit ∈ soft, |bit| ≤ 127) (state : Fin NUM_STATES)
    (room : |metric| + 127 * polys.length ≤ METRIC_MAX) :
    (soft.zip (newWithPolynomials polys).expected0).foldlM
      (fun (metric : Metric) pair => do
        let product ← mulSoft pair.1 pair.2[state.val]
        asMetric (metric - product)) metric =
    some ((soft.zip (newWithPolynomials polys).expected0).foldl
      (fun metric pair => metric - pair.1 * pair.2[state.val]) metric) := by
  induction soft generalizing polys metric with
  | nil => rfl
  | cons bit soft ih =>
    cases polys with
    | nil => rfl
    | cons poly polys =>
      obtain ⟨here, others⟩ := List.forall_mem_cons.mp small
      have size : |bit * if encoderOutput poly state then 1 else -1| = |bit| := by
        cases encoderOutput poly state <;> simp
      have moved := abs_sub metric (bit * if encoderOutput poly state then 1 else -1)
      rw [List.length_cons] at room
      push_cast at room
      have after : |metric - bit * if encoderOutput poly state then 1 else -1| +
          127 * polys.length ≤ METRIC_MAX := by linarith
      have fits : |metric - bit * if encoderOutput poly state then 1 else -1| ≤ METRIC_MAX := by
        linarith
      have rest := ih others after
      unfold newWithPolynomials at rest ⊢
      simp only [List.map_cons, List.zip_cons_cons, List.foldlM_cons, List.foldl_cons,
        Vector.getElem_ofFn, mulSoft_eq here, Option.bind_eq_bind, Option.bind_some,
        asMetric_eq fits]
      exact rest

variable {progress : Progress} {word : List SoftBit}

/-- **A received word is taken in** if its reliabilities have negatives and the metrics have room. -/
theorem stepChecked_eq {bound : ℤ} (small : ∀ bit ∈ word, |bit| ≤ 127)
    (below : ∀ state : Fin NUM_STATES, |progress.metrics[state.val]| ≤ bound)
    (room : bound + 127 * polynomials.length ≤ METRIC_MAX) :
    (newWithPolynomials polynomials).stepChecked progress word =
      some ((newWithPolynomials polynomials).step progress word) := by
  have positive : 0 ≤ bound := (abs_nonneg _).trans (below 0)
  have branch : (newWithPolynomials polynomials).branchMetrics0Checked word =
      some ((newWithPolynomials polynomials).branchMetrics0 word) :=
    tabulate_eq fun state => foldlM_branch small state (by rw [abs_zero]; linarith)
  have sum (choice state : _) := by
    have one := below (predecessor choice state)
    have two := branchMetrics0_le polynomials small state
    exact (add_le_add one two).trans room
  unfold ViterbiDecoder.stepChecked ViterbiDecoder.step
  rw [branch]
  simp only [Option.bind_eq_bind, Option.bind_some]
  rw [tabulate_eq fun state => asMetric_eq ((abs_add_le _ _).trans (sum false state)),
    Option.bind_some,
    tabulate_eq fun state => asMetric_eq ((abs_sub _ _).trans (sum true state)), Option.bind_some]
  simp only [Vector.getElem_ofFn]

/-- **The decoder runs** as long as the metrics have room. -/
theorem foldlM_stepChecked {words : List (List SoftBit)} {bound : ℤ}
    (small : ∀ word ∈ words, ∀ bit ∈ word, |bit| ≤ 127)
    (below : ∀ state : Fin NUM_STATES, |progress.metrics[state.val]| ≤ bound)
    (room : bound + words.length * (127 * polynomials.length) ≤ METRIC_MAX) :
    words.foldlM (newWithPolynomials polynomials).stepChecked progress =
      some (words.foldl (newWithPolynomials polynomials).step progress) := by
  induction words generalizing progress bound with
  | nil => rfl
  | cons word words ih =>
    obtain ⟨here, others⟩ := List.forall_mem_cons.mp small
    rw [List.length_cons] at room
    push_cast at room
    have positive : (0 : ℤ) ≤ words.length * (127 * polynomials.length) := by positivity
    rw [List.foldlM_cons, List.foldl_cons, stepChecked_eq here below (by linarith)]
    exact ih others (step_metrics_le polynomials here below) (by linarith)

/-! ### The lowest reliability -/

theorem foldlM_none {α β : Type} {step : β → α → Option β} {items : List α} {item : α}
    (member : item ∈ items) (fails : ∀ value, step value item = none) (value : β) :
    items.foldlM step value = none := by
  induction items generalizing value with
  | nil => cases member
  | cons first items ih =>
    rw [List.foldlM_cons]
    rcases List.mem_cons.mp member with rfl | later
    · rw [fails]
      rfl
    · cases step value first with
      | none => rfl
      | some next => exact ih later next

theorem exists_mem_zip {α β : Type} {first : List α} {second : List β}
    (sameLength : first.length = second.length) {item : α} (member : item ∈ first) :
    ∃ other ∈ second, (item, other) ∈ first.zip second := by
  induction first generalizing second with
  | nil => cases member
  | cons head first ih =>
    obtain ⟨head', second, rfl⟩ := List.exists_cons_of_length_eq_add_one sameLength.symm
    rcases List.mem_cons.mp member with rfl | later
    · exact ⟨head', List.mem_cons_self, List.mem_cons_self⟩
    · obtain ⟨other, inside, pair⟩ := ih (by simpa using sameLength) later
      exact ⟨other, List.mem_cons_of_mem _ inside, List.mem_cons_of_mem _ pair⟩

/-- **A word with the lowest reliability stops the decoder**, as state 0 expects nothing but zeroes. -/
theorem stepChecked_lowest (full : word.length = polynomials.length)
    (quiet : ∀ poly ∈ polynomials, encoderOutput poly 0 = false) (lowest : SOFT_BIT_MIN ∈ word)
    (progress : Progress) :
    (newWithPolynomials polynomials).stepChecked progress word = none := by
  obtain ⟨expected, inside, pair⟩ := @exists_mem_zip _ _ word
    (newWithPolynomials polynomials).expected0
    (full.trans (List.length_map ..).symm) _ lowest
  obtain ⟨poly, member, rfl⟩ := List.mem_map.mp inside
  have branch : (newWithPolynomials polynomials).branchMetrics0Checked word = none := by
    refine @tabulate_none _ 0 (foldlM_none pair ?_ 0)
    intro metric
    rw [Vector.getElem_ofFn]
    rfl
  unfold ViterbiDecoder.stepChecked
  rw [branch]
  rfl

end Runs

/-! ### The code of the decoder -/

/-- The register behind the state numbers: the newest bit is the highest. -/
def shiftRegister : Register (Fin NUM_STATES) where
  next bit state := ⟨bit.toNat * 8 + state.val / 2, by
    have := Bool.toNat_le bit
    have inside : state.val < 16 := state.isLt
    show bit.toNat * 8 + state.val / 2 < 16
    omega⟩
  pred := predecessor
  newest := newestBit
  oldest state := state.val % 2 == 1
  pred_next := by decide
  next_pred := by decide
  newest_next := by decide
  oldest_pred := by decide

/-- The code with the given polynomials, all of which take in the oldest bit. -/
def code (polynomials : List (List Bool)) : Code (Fin NUM_STATES) where
  toRegister := shiftRegister
  rate := polynomials.length
  word choice state := polynomials.map fun poly => encoderOutput poly state ^^ choice
  length_word := by simp

/-! ### The decoder follows the trellis -/

section Trellis

variable {polynomials : List (List Bool)} {strength : SoftBit}

def init (state : Fin NUM_STATES) : Metric := if state = 0 then 0 else METRIC_MAX / 2

theorem foldl_branch (soft : List SoftBit) (polys : List (List Bool)) (state : Fin NUM_STATES)
    (metric : Metric) :
    (soft.zip (newWithPolynomials polys).expected0).foldl
      (fun metric pair => metric - pair.1 * pair.2[state.val]) metric
    = metric - correlation soft (polys.map fun poly => encoderOutput poly state) := by
  induction soft generalizing polys metric with
  | nil => simp [correlation]
  | cons value soft ih =>
    cases polys with
    | nil => simp [newWithPolynomials, correlation]
    | cons poly polys =>
      have rest := ih polys
      unfold newWithPolynomials at rest ⊢
      simp only [List.map_cons, List.zip_cons_cons, List.foldl_cons, rest, Vector.getElem_ofFn]
      rw [correlation]
      cases encoderOutput poly state <;> simp <;> ring

theorem branchMetrics0_eq (soft : List SoftBit) (choice : Bool) (state : Fin NUM_STATES) :
    -correlation soft ((code polynomials).word choice state) = if choice then
          -((newWithPolynomials polynomials).branchMetrics0 soft)[state.val]
        else ((newWithPolynomials polynomials).branchMetrics0 soft)[state.val] := by
  have plain : ((newWithPolynomials polynomials).branchMetrics0 soft)[state.val]
      = -correlation soft (polynomials.map fun poly => encoderOutput poly state) := by
    rw [ViterbiDecoder.branchMetrics0, Vector.getElem_ofFn, foldl_branch, zero_sub]
  rw [plain]
  cases choice with
  | false => simp [code]
  | true =>
    have inverted : (code polynomials).word true state
        = (polynomials.map fun poly => encoderOutput poly state).map (!·) := by
      simp [code, Function.comp_def]
    rw [if_pos rfl, inverted, correlation_not]

/-- **One received word is one add-compare-select of the trellis.** -/
theorem step_spec (polynomials : List (List Bool)) (soft : List SoftBit)
    (metrics : Fin NUM_STATES → Metric) (progress : Progress)
    (known : ∀ state : Fin NUM_STATES, progress.metrics[state.val] = metrics state) :
    let later := (newWithPolynomials polynomials).step progress soft
    let stage : Stage (Fin NUM_STATES) Metric := fun choice state =>
      -correlation soft ((code polynomials).word choice state)
    (∀ state : Fin NUM_STATES, later.metrics[state.val] = advance predecessor metrics stage state)
      ∧ ∃ decision : Vector Bool NUM_STATES, later.decisions = decision :: progress.decisions
        ∧ ∀ state : Fin NUM_STATES, decision[state.val] = select predecessor metrics stage state := by
  refine ⟨fun state => ?_, _, rfl, fun state => ?_⟩
  · unfold advance select
    simp only [branchMetrics0_eq, ViterbiDecoder.step, known]
    by_cases cheaper : metrics (predecessor true state)
        - ((newWithPolynomials polynomials).branchMetrics0 soft)[state.val]
        < metrics (predecessor false state)
          + ((newWithPolynomials polynomials).branchMetrics0 soft)[state.val]
    · simp [cheaper, ← sub_eq_add_neg]
    · simp [cheaper, ← sub_eq_add_neg]
  · unfold select
    simp [branchMetrics0_eq, known, ← sub_eq_add_neg]

def softProgressAfter (polynomials : List (List Bool)) (received : List (List SoftBit)) : Progress :=
  received.foldr (fun soft progress =>
    (newWithPolynomials polynomials).step progress soft) ViterbiDecoder.start

/-- **The metrics and the decisions of a whole run are those of the trellis.** -/
theorem softProgressAfter_spec (received : List (List SoftBit)) :
    (∀ state : Fin NUM_STATES, (softProgressAfter polynomials received).metrics[state.val]
      = metricsAfter predecessor init ((code polynomials).softStages received) state)
    ∧ ∀ state, ViterbiDecoder.traceback (softProgressAfter polynomials received).decisions state
      = shiftRegister.readback
          (survivor predecessor init ((code polynomials).softStages received) state) state := by
  induction received with
  | nil =>
    refine ⟨fun state => ?_, fun state => rfl⟩
    simp [softProgressAfter, ViterbiDecoder.start, metricsAfter, Code.softStages, init]
  | cons soft received ih =>
    obtain ⟨metrics, decision, decisions, picks⟩ := step_spec polynomials soft _
      (softProgressAfter polynomials received) ih.1
    refine ⟨metrics, fun state => ?_⟩
    have head : (softProgressAfter polynomials (soft :: received)).decisions
        = decision :: (softProgressAfter polynomials received).decisions := decisions
    rw [head, ViterbiDecoder.traceback, ih.2, picks]
    rfl

variable {count : Nat}

theorem chunksExact_eq {rate : Nat} (positive : 0 < rate) {stream : List SoftBit}
    (long : stream.length = count * rate) :
    ViterbiDecoder.chunksExact rate stream = (words rate stream count).reverse := by
  have cut : ∀ few, (List.range few).map (fun i => (stream.drop (i * rate)).take rate)
      = (words rate stream few).reverse := by
    intro few
    induction few with
    | zero => rfl
    | succ few ih =>
      rw [List.range_succ, List.map_append, ih, words]
      simp
  rw [ViterbiDecoder.chunksExact, long, Nat.mul_div_cancel _ positive, cut]

/-- **The decoder reads back the survivor of the trellis of what was received.** -/
theorem decode_eq_soft_readback (positive : 0 < polynomials.length) {stream : List SoftBit}
    (long : stream.length = count * polynomials.length) :
    (newWithPolynomials polynomials).decode stream
      = (shiftRegister.readback (survivor predecessor init
          ((code polynomials).softStages (words polynomials.length stream count)) 0) 0).reverse := by
  have rate : (newWithPolynomials polynomials).expected0.length
      = polynomials.length := by simp [newWithPolynomials]
  unfold ViterbiDecoder.decode
  simp only [rate]
  rw [chunksExact_eq positive long, List.foldl_reverse]
  exact congrArg List.reverse ((softProgressAfter_spec _).2 0)

variable {stream : List SoftBit}

/-- **A message that is more likely than every other one is decoded.** -/
theorem decode_eq_of_best {message : List Bool} {bound : ℤ} (positive : 0 < polynomials.length)
    (long : stream.length = message.length * polynomials.length)
    (small : ∀ value ∈ stream, |value| ≤ bound) (nonneg : 0 ≤ bound)
    (room : 2 * (bound * stream.length) < METRIC_MAX / 2) (ends : shiftRegister.run 0 message = 0)
    (best : ∀ other : List Bool, other.length = message.length → other ≠ message →
      shiftRegister.run 0 other = 0 → correlation stream ((code polynomials).sent 0 other)
        < correlation stream ((code polynomials).sent 0 message)) :
    (newWithPolynomials polynomials).decode stream = message.reverse := by
  have dear : ∀ state : Fin NUM_STATES, state ≠ 0 → 2 * (bound * stream.length) < init state := by
    intro state other
    rw [init, if_neg other]
    exact room
  rw [decode_eq_soft_readback positive long]
  congr 1
  by_contra differs
  have likely := @Code.readback_most_likely _ (code polynomials) init 0 0 bound stream message.length
    rfl long small nonneg dear message rfl ends
  have less := best _ (by rw [Register.length_readback, length_survivor, Code.softStages,
    List.length_map, length_words]) differs likely.1
  exact absurd likely.2 (not_le.mpr less)

theorem correlation_softBit (symbols : List (Option Bool)) {word : List Bool}
    (sameLength : symbols.length = word.length) :
    correlation (symbols.map (softBit strength)) word
      = strength * (known symbols - 2 * mismatches symbols word) := by
  induction symbols generalizing word with
  | nil => simp [correlation, known, mismatches]
  | cons symbol symbols ih =>
    obtain ⟨bit, word, rfl⟩ := List.exists_cons_of_length_eq_add_one sameLength.symm
    have rest := ih (by simpa using sameLength)
    unfold known at rest ⊢
    rw [List.map_cons, correlation, rest, mismatches, List.countP_cons]
    cases symbol with
    | none => simp [softBit]
    | some value => cases value <;> cases bit <;> simp [softBit] <;> ring

end Trellis

/-! ### Encoder and decoder -/

def number (state : Delayed) : Fin NUM_STATES :=
  ⟨state.d0.toNat * 8 + state.d1.toNat * 4 + state.d2.toNat * 2 + state.d3.toNat, by
    obtain ⟨d0, d1, d2, d3⟩ := state
    cases d0 <;> cases d1 <;> cases d2 <;> cases d3 <;> decide⟩

def Encodes (encodeBit : EncodeBit) (polynomials : List (List Bool)) : Prop :=
  ∀ state bit, (encodeBit state bit).1 = (code polynomials).emit bit (number state)
    ∧ number (encodeBit state bit).2 = shiftRegister.next bit (number state)

instance (encodeBit : EncodeBit) (polynomials : List (List Bool)) :
    Decidable (Encodes encodeBit polynomials) := by
  unfold Encodes
  infer_instance

theorem control_encodes : Encodes ConvEncState.encodeBit TetraViterbiDecoder.polynomials := by
  decide +kernel

theorem speech_encodes :
    Encodes SpeechConvEncState.encodeBit TetraCodecViterbiDecoder.polynomials := by
  decide +kernel

variable {encodeBit : EncodeBit}

/-- **The encoder's output for a message is what its code sends.** -/
theorem Encodes.encodeBits {polynomials : List (List Bool)}
    (encodes : Encodes encodeBit polynomials) (state : Delayed) (message : List Bool) :
    (ConvEnc.encodeBits encodeBit state message).1
        = (code polynomials).sent (number state) message.reverse
      ∧ number (ConvEnc.encodeBits encodeBit state message).2
        = shiftRegister.run (number state) message.reverse := by
  induction message using List.reverseRecOn with
  | nil => exact ⟨rfl, rfl⟩
  | append_singleton older bit ih =>
    obtain ⟨sent, last⟩ := ih
    obtain ⟨word, next⟩ := encodes (ConvEnc.encodeBits encodeBit state older).2 bit
    rw [encodeBits_append, List.reverse_append, List.reverse_singleton, List.singleton_append]
    simp only [ConvEnc.encodeBits, List.append_nil, Register.run]
    refine ⟨?_, ?_⟩
    · rw [sent, word, last]
      rfl
    · rw [next, last]

theorem run_tail (state : Fin NUM_STATES) (message : List Bool) :
    shiftRegister.run state (message ++ List.replicate 4 false).reverse = 0 := by
  have emptied : ∀ register : Fin NUM_STATES,
      shiftRegister.run register (List.replicate 4 false) = 0 := by decide
  rw [List.reverse_append, List.reverse_replicate, Register.run_append, emptied]

/-- The messages of one length that end in one state are at least `far` apart in the kept places. -/
def FarApart (polynomials : List (List Bool)) (keeps : Nat → Bool) (far : Nat) : Prop :=
  ∀ first second : List Bool, first.length = second.length → first ≠ second →
    shiftRegister.run 0 first = shiftRegister.run 0 second →
    far ≤ (code polynomials).distance (keptWord polynomials.length keeps) 0 first second

/-- **What was encoded with a tail of zeroes is decoded, if few enough received bits are wrong.** -/
theorem decode_encoded {polynomials : List (List Bool)}
    {strength : SoftBit} {keeps : Nat → Bool} {far : Nat} {message : List Bool}
    {stream : List (Option Bool)} (encodes : Encodes encodeBit polynomials)
    (farApart : FarApart polynomials keeps far) (positive : 0 < polynomials.length)
    (long : stream.length = (message ++ List.replicate 4 false).length * polynomials.length)
    (present : ∀ place < stream.length, (stream[place]?.map Option.isSome) = some (keeps place))
    (strong : 0 < strength) (small : 2 * strength * stream.length < METRIC_MAX / 2)
    (close : 2 * mismatches stream
      (ConvEnc.encodeBits encodeBit .new (message ++ List.replicate 4 false)).1 < far) :
    (newWithPolynomials polynomials).decode (stream.map (softBit strength))
      = message ++ List.replicate 4 false := by
  obtain ⟨whole, wholeEq⟩ : ∃ whole, whole = message ++ List.replicate 4 false := ⟨_, rfl⟩
  have ends : shiftRegister.run 0 whole.reverse = 0 := wholeEq ▸ run_tail 0 message
  rw [(encodes.encodeBits .new _).1] at close
  rw [← wholeEq] at close long ⊢
  have lengths : stream.length = whole.reverse.length * polynomials.length := by
    rw [List.length_reverse, long]
  have bounded : ∀ value ∈ stream.map (softBit strength), |value| ≤ strength := by
    intro value member
    obtain ⟨symbol, -, rfl⟩ := List.mem_map.mp member
    rcases symbol with _ | _ | _ <;> simp [softBit, abs_of_pos strong, strong.le]
  rw [decode_eq_of_best positive (by rwa [List.length_map]) bounded strong.le
    (by rwa [List.length_map, ← mul_assoc]) ends, List.reverse_reverse]
  intro other sameLength differs same
  have sent {sequence : List Bool} (is : sequence.length = whole.reverse.length) :
      stream.length = ((code polynomials).sent 0 sequence).length := by
    rw [Code.length_sent, is]
    exact lengths
  have far' := farApart whole.reverse other sameLength.symm (.symm differs) (ends.trans same.symm)
  have apart := far'.trans (Code.distance_le_mismatches 0 sameLength.symm lengths present)
  have more : mismatches stream ((code polynomials).sent 0 whole.reverse) <
      mismatches stream ((code polynomials).sent 0 other) := by
    change 2 * mismatches stream ((code polynomials).sent 0 whole.reverse) < far at close
    omega
  rw [correlation_softBit stream (sent sameLength), correlation_softBit stream (sent rfl)]
  have counted : (mismatches stream ((code polynomials).sent 0 whole.reverse) : ℤ) <
      mismatches stream ((code polynomials).sent 0 other) := by exact_mod_cast more
  exact mul_lt_mul_of_pos_left (by linarith) strong

end Bluestation.Viterbi
