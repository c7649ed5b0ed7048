/-
**The block code of the access assignment: Reed-Muller (30,14).**

Fourteen bits are sent with sixteen check bits. The check of a word is compared with those of the
patterns of one, two and three bits.

* `rm3014` — the code by its check; its codewords have at least eight one bits.
* `tetraRm3014Decode_spec` — **what is found is the only pattern of three bits or fewer, and nothing is
  found if there is none.**
-/

import Bluestation.Lib.BinaryCode
import Bluestation.Lmac.StolenSpeech

namespace Bluestation.Rm3014

open Bits BinaryCode StolenSpeech List Nat

def RM_30_14_GEN : List (List Nat) := [
  [1, 0, 0, 1, 1, 0, 1, 1, 0, 1, 1, 0, 0, 0, 0, 0],
  [0, 0, 1, 0, 1, 1, 0, 1, 1, 1, 1, 0, 0, 0, 0, 0],
  [1, 1, 1, 1, 1, 1, 0, 0, 0, 0, 1, 0, 0, 0, 0, 0],
  [1, 1, 1, 0, 0, 0, 0, 0, 0, 0, 1, 1, 1, 1, 0, 0],
  [1, 0, 0, 1, 1, 0, 0, 0, 0, 0, 1, 1, 1, 0, 1, 0],
  [0, 1, 0, 1, 0, 1, 0, 0, 0, 0, 1, 1, 0, 1, 1, 0],
  [0, 0, 1, 0, 1, 1, 0, 0, 0, 0, 1, 0, 1, 1, 1, 0],
  [1, 1, 1, 1, 1, 1, 1, 1, 1, 1, 0, 1, 1, 1, 1, 1],
  [1, 0, 0, 0, 0, 0, 1, 1, 0, 0, 1, 1, 1, 0, 0, 1],
  [0, 1, 0, 0, 0, 0, 1, 0, 1, 0, 1, 1, 0, 1, 0, 1],
  [0, 0, 1, 0, 0, 0, 0, 1, 1, 0, 1, 0, 1, 1, 0, 1],
  [0, 0, 0, 1, 0, 0, 1, 0, 0, 1, 1, 1, 0, 0, 1, 1],
  [0, 0, 0, 0, 1, 0, 0, 1, 0, 1, 1, 0, 1, 0, 1, 1],
  [0, 0, 0, 0, 0, 1, 0, 0, 1, 1, 1, 0, 0, 1, 1, 1]]

def gen (row column : Nat) : Nat := (RM_30_14_GEN.getD row []).getD column 0

def computeColSyndrome (k : Nat) : Nat :=
  (List.range 16).foldl (fun syn j =>
    let bit := if k < 14 then gen k j else if k - 14 = j then 1 else 0
    syn ||| bit <<< j) 0

def COL_SYNDROMES : List Nat := (List.range 30).map computeColSyndrome

/-- The sum of the bits that one check bit is over, and of that bit. -/
def syndromeSum (codeword j : Nat) : Nat :=
  let sum := (List.range 14).foldl (fun sum i =>
    sum ^^^ (((codeword >>> (29 - i)) &&& 1) &&& gen i j)) 0
  sum ^^^ ((codeword >>> (29 - (14 + j))) &&& 1)

def computeSyndrome (codeword : Nat) : Nat :=
  (List.range 16).foldl (fun syn j =>
    if syndromeSum codeword j &&& 1 ≠ 0 then syn ||| 1 <<< j else syn) 0

structure Rm3014Decoded where
  data : Nat
  correctedBits : Nat

structure Rm3014Uncorrectable where
  syndrome : Nat

def bitMask (bit : Nat) : Nat := 1 <<< (29 - bit)

def dataOf (codeword : Nat) : Nat := (codeword >>> 16) % 2 ^ 16

def correctOne (codeword syndrome : Nat) : Option Rm3014Decoded :=
  (List.range 30).findSome? fun i =>
    if COL_SYNDROMES.getD i 0 = syndrome then some ⟨dataOf (codeword ^^^ bitMask i), 1⟩ else none

/-- Two bits are wrong. -/
def correctTwo (codeword syndrome : Nat) : Option Rm3014Decoded :=
  (List.range 29).findSome? fun i =>
    (List.range' (i + 1) (30 - (i + 1))).findSome? fun j =>
      if COL_SYNDROMES.getD i 0 ^^^ COL_SYNDROMES.getD j 0 = syndrome then
        some ⟨dataOf (codeword ^^^ bitMask i ^^^ bitMask j), 2⟩
      else none

/-- Three bits are wrong. -/
def correctThree (codeword syndrome : Nat) : Option Rm3014Decoded :=
  (List.range 28).findSome? fun i =>
    (List.range' (i + 1) (29 - (i + 1))).findSome? fun j =>
      (List.range' (j + 1) (30 - (j + 1))).findSome? fun k =>
        if COL_SYNDROMES.getD i 0 ^^^ COL_SYNDROMES.getD j 0 ^^^ COL_SYNDROMES.getD k 0 = syndrome then
          some ⟨dataOf (codeword ^^^ bitMask i ^^^ bitMask j ^^^ bitMask k), 3⟩
        else none

def tetraRm3014Decode (codeword : Nat) : Except Rm3014Uncorrectable Rm3014Decoded :=
  let syndrome := computeSyndrome codeword
  if syndrome = 0 then .ok ⟨dataOf codeword, 0⟩
  else
    match correctOne codeword syndrome with
    | some decoded => .ok decoded
    | none =>
      match correctTwo codeword syndrome with
      | some decoded => .ok decoded
      | none =>
        match correctThree codeword syndrome with
        | some decoded => .ok decoded
        | none => .error ⟨syndrome⟩

/-! ### The check is linear -/

theorem testBit_gather (bit : Nat → Prop) [DecidablePred bit] (count place : Nat) :
    ((List.range count).foldl
        (fun word j => if bit j then word ||| 1 <<< j else word) 0).testBit place =
      (decide (place < count) && decide (bit place)) := by
  induction count with
  | zero => simp
  | succ count ih =>
    rw [range_succ, foldl_append, foldl_cons, foldl_nil]
    by_cases here : place = count
    · subst here
      by_cases is : bit place
      · simp [is]
      · rw [if_neg is, ih]
        simp [is]
    · have before : decide (place < count + 1) = decide (place < count) := by
        apply decide_eq_decide.mpr
        omega
      rw [before, ← ih]
      split
      · rw [testBit_or, one_shiftLeft, testBit_two_pow_of_ne (Ne.symm here), Bool.or_false]
      · rfl

theorem testBit_computeSyndrome (codeword j : Nat) : (computeSyndrome codeword).testBit j =
      (decide (j < 16) && decide (syndromeSum codeword j &&& 1 ≠ 0)) :=
  testBit_gather (fun j => syndromeSum codeword j &&& 1 ≠ 0) 16 j

theorem syndromeSum_xor (word other j : Nat) :
    syndromeSum (word ^^^ other) j = syndromeSum word j ^^^ syndromeSum other j := by
  have sums (items : List Nat) (first second : Nat) :
      items.foldl (fun sum i => sum ^^^ ((((word ^^^ other) >>> (29 - i)) &&& 1) &&& gen i j))
          (first ^^^ second) =
        items.foldl (fun sum i => sum ^^^ (((word >>> (29 - i)) &&& 1) &&& gen i j)) first ^^^
          items.foldl (fun sum i => sum ^^^ (((other >>> (29 - i)) &&& 1) &&& gen i j)) second := by
    induction items generalizing first second with
    | nil => rfl
    | cons i items ih =>
      rw [foldl_cons, foldl_cons, foldl_cons, ← ih, shiftRight_xor_distrib,
        and_xor_distrib_right, and_xor_distrib_right]
      ac_rfl
  have all := sums (List.range 14) 0 0
  rw [Nat.xor_self] at all
  unfold syndromeSum
  dsimp only
  rw [all, shiftRight_xor_distrib, and_xor_distrib_right]
  ac_rfl

/-- **The check is linear.** -/
theorem computeSyndrome_xor (word other : Nat) :
    computeSyndrome (word ^^^ other) = computeSyndrome word ^^^ computeSyndrome other := by
  have odd (sum : Nat) : decide (sum &&& 1 ≠ 0) = sum.testBit 0 := by
    rw [and_one_is_mod, testBit_zero]
    apply decide_eq_decide.mpr
    omega
  apply eq_of_testBit_eq
  intro j
  rw [testBit_xor, testBit_computeSyndrome, testBit_computeSyndrome, testBit_computeSyndrome,
    odd, odd, odd, syndromeSum_xor, testBit_xor]
  exact Bool.and_xor_distrib_left ..

theorem computeSyndrome_zero : computeSyndrome 0 = 0 := by decide +kernel

theorem eq_zero_of_checkBits {word : Nat} (low : word < 2 ^ 16) (passes : computeSyndrome word = 0) :
    word = 0 := by
  apply eq_of_testBit_eq
  intro place
  rw [zero_testBit]
  by_cases inside : place < 16
  · have none (items : List Nat) (all : ∀ i ∈ items, i < 14) : items.foldl
          (fun sum i => sum ^^^ (((word >>> (29 - i)) &&& 1) &&& gen i (15 - place))) 0 = 0 := by
      induction items with
      | nil => rfl
      | cons i items ih =>
        obtain ⟨first, others⟩ := forall_mem_cons.mp all
        have above : word >>> (29 - i) = 0 := by
          rw [shiftRight_eq_div_pow]
          exact Nat.div_eq_of_lt (low.trans_le (Nat.pow_le_pow_right (by decide) (by omega)))
        rw [foldl_cons, above]
        simpa using ih others
    have bit := testBit_computeSyndrome word (15 - place)
    unfold syndromeSum at bit
    rw [passes, none _ fun i member => mem_range.mp member,
      show 29 - (14 + (15 - place)) = place by omega,
      decide_eq_true (show 15 - place < 16 by omega)] at bit
    simpa using bit
  · exact Nat.testBit_lt_two_pow (low.trans_le (Nat.pow_le_pow_right (by decide) (by omega)))

/-! ### The codewords -/

def rows : List Nat := RM_30_14_ROWS_PRECOMPUTED.map BitVec.toNat

theorem rows_upper : rows.map (· >>> 16) = places 14 := by decide

theorem rows_pass : ∀ row ∈ rows.map computeSyndrome, row = 0 := by decide +kernel

theorem tetraRm3014Compute_eq (input : List Bool) :
    (tetraRm3014Compute input).toNat = combination input rows := by
  have added (input : List Bool) (table : List (BitVec 30)) (sum : BitVec 30) :
      ((input.zip table).foldl (fun val pair => if pair.1 then val ^^^ pair.2 else val) sum).toNat =
        sum.toNat ^^^ combination input (table.map BitVec.toNat) := by
    induction input generalizing table sum with
    | nil => simp [combination]
    | cons bit input ih =>
      cases table with
      | nil => simp [combination]
      | cons row table =>
        rw [zip_cons_cons, foldl_cons, ih, map_cons, combination]
        cases bit with
        | false => simp
        | true => simp [Nat.xor_assoc]
  exact (added input RM_30_14_ROWS_PRECOMPUTED 0).trans (Nat.zero_xor _)

theorem computeSyndrome_combination (choice : List Bool) :
    computeSyndrome (combination choice rows) = 0 := by
  rw [map_combination computeSyndrome_zero computeSyndrome_xor]
  exact combination_zeros rows_pass choice

/-- **The upper bits of a codeword are its data.** -/
theorem combination_upper {choice : List Bool} (fourteen : choice.length = 14) :
    combination choice rows >>> 16 = valueOf choice := by
  rw [@map_combination (· >>> 16) rfl (fun _ _ => shiftRight_xor_distrib), rows_upper, ← fourteen,
    combination_places]

/-- **Combinations of the rows have at least eight one bits.** -/
theorem rows_separate : separates 7 rows = true := by decide +kernel

theorem eq_combination_of_passes {word : Nat} (inside : word < 2 ^ 30)
    (passes : computeSyndrome word = 0) :
    word = combination (bitsOf 14 (word >>> 16)) rows := by
  have data : word >>> 16 < 2 ^ 14 := by
    omega
  apply BinaryCode.eq_of_xor_eq_zero
  apply eq_zero_of_checkBits
  · have upper : (word ^^^ combination (bitsOf 14 (word >>> 16)) rows) >>> 16 = 0 := by
      rw [shiftRight_xor_distrib, combination_upper (length_bitsOf _ _),
        valueOf_bitsOf_of_lt data, Nat.xor_self]
    rw [shiftRight_eq_div_pow] at upper
    exact lt_of_div_eq_zero (by decide) upper
  · rw [computeSyndrome_xor, passes, computeSyndrome_combination, Nat.xor_self]

/-- **The Reed-Muller code (30,14)** has minimum distance eight. -/
def rm3014 : LinearCode where
  length := 30
  syndrome := computeSyndrome
  distance := 8
  additive := computeSyndrome_xor
  separated word inside passes nonzero := by
    rw [eq_combination_of_passes inside passes] at nonzero ⊢
    exact lt_weight_of_separates rows_separate nonzero

/-! ### The search for a pattern -/

/-- What is found puts a pattern of at most three bits right that explains the check. -/
structure Corrects (codeword syndrome : Nat) (decoded : Rm3014Decoded) (pattern : Nat) : Prop where
  inside : pattern < 2 ^ 30
  light : weight pattern ≤ 3
  explains : computeSyndrome pattern = syndrome
  data : decoded.data = dataOf (codeword ^^^ pattern)

theorem bitMask_eq (bit : Nat) : bitMask bit = 2 ^ (29 - bit) := one_shiftLeft _

theorem bitMask_lt (bit : Nat) : bitMask bit < 2 ^ 30 := by
  rw [bitMask_eq]
  exact Nat.pow_lt_pow_right (by decide) (by omega)

theorem weight_bitMask (bit : Nat) : weight (bitMask bit) = 1 := by
  rw [bitMask_eq, weight_two_pow]

theorem two_pow_eq_bitMask {place : Nat} (inside : place < 30) : 2 ^ place = bitMask (29 - place) := by
  rw [bitMask_eq]
  congr 1
  omega

theorem colSyndrome_eq : ∀ bit < 30, COL_SYNDROMES.getD bit 0 = computeSyndrome (bitMask bit) := by
  decide +kernel

variable {codeword syndrome : Nat} {decoded : Rm3014Decoded}

theorem correctOne_some (found : correctOne codeword syndrome = some decoded) :
    ∃ pattern, Corrects codeword syndrome decoded pattern := by
  obtain ⟨i, member, found⟩ := exists_of_findSome?_eq_some found
  split at found
  next is =>
    cases found
    rw [colSyndrome_eq i (mem_range.mp member)] at is
    exact ⟨bitMask i, bitMask_lt i, by rw [weight_bitMask]; decide, is, rfl⟩
  · cases found

theorem correctOne_none (none : correctOne codeword syndrome = none) {i : Nat} (inside : i < 30) :
    computeSyndrome (bitMask i) ≠ syndrome := by
  intro is
  have at' := findSome?_eq_none_iff.mp none i (mem_range.mpr inside)
  rw [colSyndrome_eq i inside, if_pos is] at at'
  cases at'

theorem correctTwo_some (found : correctTwo codeword syndrome = some decoded) :
    ∃ pattern, Corrects codeword syndrome decoded pattern := by
  obtain ⟨i, first, found⟩ := exists_of_findSome?_eq_some found
  obtain ⟨j, second, found⟩ := exists_of_findSome?_eq_some found
  rw [mem_range'_1] at second
  split at found
  next is =>
    cases found
    rw [colSyndrome_eq i (by omega), colSyndrome_eq j (by omega), ← computeSyndrome_xor] at is
    refine ⟨bitMask i ^^^ bitMask j, xor_lt_two_pow (bitMask_lt i) (bitMask_lt j), ?_, is, ?_⟩
    · have most := weight_xor_le (bitMask i) (bitMask j)
      rw [weight_bitMask, weight_bitMask] at most
      exact most.trans (by decide)
    · rw [← Nat.xor_assoc]
  · cases found

theorem correctTwo_none (none : correctTwo codeword syndrome = none) {i j : Nat} (ordered : i < j)
    (inside : j < 30) : computeSyndrome (bitMask i ^^^ bitMask j) ≠ syndrome := by
  intro is
  have first := findSome?_eq_none_iff.mp none i (mem_range.mpr (by omega))
  have second := findSome?_eq_none_iff.mp first j (mem_range'_1.mpr (by omega))
  rw [computeSyndrome_xor] at is
  rw [colSyndrome_eq i (by omega), colSyndrome_eq j inside, if_pos is] at second
  cases second

theorem correctThree_some (found : correctThree codeword syndrome = some decoded) :
    ∃ pattern, Corrects codeword syndrome decoded pattern := by
  obtain ⟨i, first, found⟩ := exists_of_findSome?_eq_some found
  obtain ⟨j, second, found⟩ := exists_of_findSome?_eq_some found
  obtain ⟨k, third, found⟩ := exists_of_findSome?_eq_some found
  rw [mem_range'_1] at second third
  split at found
  next is =>
    cases found
    rw [colSyndrome_eq i (by omega), colSyndrome_eq j (by omega), colSyndrome_eq k (by omega),
      ← computeSyndrome_xor, ← computeSyndrome_xor] at is
    refine ⟨bitMask i ^^^ bitMask j ^^^ bitMask k,
      xor_lt_two_pow (xor_lt_two_pow (bitMask_lt i) (bitMask_lt j)) (bitMask_lt k), ?_, is, ?_⟩
    · have pair := weight_xor_le (bitMask i) (bitMask j)
      have most := weight_xor_le (bitMask i ^^^ bitMask j) (bitMask k)
      rw [weight_bitMask] at pair most
      rw [weight_bitMask] at pair
      omega
    · rw [← Nat.xor_assoc, ← Nat.xor_assoc]
  · cases found

theorem correctThree_none (none : correctThree codeword syndrome = none) {i j k : Nat}
    (ordered : i < j) (behind : j < k) (inside : k < 30) :
    computeSyndrome (bitMask i ^^^ bitMask j ^^^ bitMask k) ≠ syndrome := by
  intro is
  have first := findSome?_eq_none_iff.mp none i (mem_range.mpr (by omega))
  have second := findSome?_eq_none_iff.mp first j (mem_range'_1.mpr (by omega))
  have third := findSome?_eq_none_iff.mp second k (mem_range'_1.mpr (by omega))
  rw [computeSyndrome_xor, computeSyndrome_xor] at is
  rw [colSyndrome_eq i (by omega), colSyndrome_eq j (by omega), colSyndrome_eq k inside,
    if_pos is] at third
  cases third

/-- A pattern of at most three bits is nothing, or one, two or three bits in order. -/
theorem light_cases {pattern : Nat} (inside : pattern < 2 ^ 30) (light : weight pattern ≤ 3) :
    pattern = 0 ∨ (∃ i < 30, pattern = bitMask i) ∨
      (∃ i j, i < j ∧ j < 30 ∧ pattern = bitMask i ^^^ bitMask j) ∨
      ∃ i j k, i < j ∧ j < k ∧ k < 30 ∧ pattern = bitMask i ^^^ bitMask j ^^^ bitMask k := by
  have places (place : Nat) (here : place ∈ ones pattern) : place < 30 := by
    by_contra beyond
    rw [mem_ones, testBit_lt_two_pow (inside.trans_le
      (Nat.pow_le_pow_right (by decide) (Nat.not_lt.mp beyond)))] at here
    cases here
  rcases has : weight pattern with _ | count
  · exact .inl (eq_zero_of_weight has)
  right
  obtain ⟨low, lowIn, rest, is, has', above⟩ := exists_peel has
  have lowInside := places low lowIn
  rcases count with _ | count
  · left
    refine ⟨29 - low, by omega, ?_⟩
    rw [is, eq_zero_of_weight has', zero_xor, two_pow_eq_bitMask lowInside]
  right
  obtain ⟨next, nextIn, rest', is', has'', above'⟩ := exists_peel has'
  have nextInside := places next (above next nextIn).2
  have nextAbove := (above next nextIn).1
  rcases count with _ | count
  · left
    refine ⟨29 - next, 29 - low, by omega, by omega, ?_⟩
    rw [is, is', eq_zero_of_weight has'', zero_xor, two_pow_eq_bitMask lowInside,
      two_pow_eq_bitMask nextInside]
  right
  obtain ⟨top, topIn, rest'', is'', has''', above''⟩ := exists_peel has''
  have topInside := places top (above top (above' top topIn).2).2
  have topAbove := (above' top topIn).1
  have nothing : weight rest'' = 0 := by omega
  refine ⟨29 - top, 29 - next, 29 - low, by omega, by omega, by omega, ?_⟩
  rw [is, is', is'', eq_zero_of_weight nothing, zero_xor, two_pow_eq_bitMask lowInside,
    two_pow_eq_bitMask nextInside, two_pow_eq_bitMask topInside]

/-- **What is found** puts a light pattern right that explains the check. -/
theorem tetraRm3014Decode_ok (found : tetraRm3014Decode codeword = .ok decoded) :
    ∃ pattern, Corrects codeword (computeSyndrome codeword) decoded pattern := by
  unfold tetraRm3014Decode at found
  dsimp only at found
  split at found
  next passes =>
    cases found
    exact ⟨0, by decide, by decide, by rw [passes, computeSyndrome_zero], by rw [xor_zero]⟩
  split at found
  next one =>
    cases found
    exact correctOne_some one
  split at found
  next two =>
    cases found
    exact correctTwo_some two
  split at found
  next three =>
    cases found
    exact correctThree_some three
  · cases found

/-- **Nothing is found** only if no light pattern explains the check. -/
theorem tetraRm3014Decode_error {refusal : Rm3014Uncorrectable}
    (refused : tetraRm3014Decode codeword = .error refusal) {pattern : Nat}
    (inside : pattern < 2 ^ 30) (light : weight pattern ≤ 3) :
    computeSyndrome pattern ≠ computeSyndrome codeword := by
  unfold tetraRm3014Decode at refused
  dsimp only at refused
  split at refused
  · cases refused
  rename_i fails
  split at refused
  · cases refused
  rename_i noOne
  split at refused
  · cases refused
  rename_i noTwo
  split at refused
  · cases refused
  rename_i noThree
  rcases light_cases inside light with rfl | ⟨i, few, rfl⟩ | ⟨i, j, ordered, few, rfl⟩ |
    ⟨i, j, k, ordered, behind, few, rfl⟩
  · rw [computeSyndrome_zero]
    exact Ne.symm fails
  · exact correctOne_none noOne few
  · exact correctTwo_none noTwo ordered few
  · exact correctThree_none noThree ordered behind few

/-- **Up to three wrong bits of a codeword are put right, and four are noticed.** -/
theorem tetraRm3014Decode_spec {input : List Bool} {error : Nat} (data : input.length = 14)
    (inside : error < 2 ^ 30) :
    (weight error ≤ 3 → ∃ decoded,
      tetraRm3014Decode ((tetraRm3014Compute input).toNat ^^^ error) = .ok decoded ∧
        decoded.data = valueOf input) ∧
    (weight error = 4 → ∃ refusal,
      tetraRm3014Decode ((tetraRm3014Compute input).toNat ^^^ error) = .error refusal) := by
  have passes : rm3014.syndrome (tetraRm3014Compute input).toNat = 0 := by
    rw [tetraRm3014Compute_eq]
    exact computeSyndrome_combination _
  have hit := rm3014.syndrome_hit passes error
  constructor
  · intro light
    cases result : tetraRm3014Decode ((tetraRm3014Compute input).toNat ^^^ error) with
    | error refusal => exact absurd hit.symm (tetraRm3014Decode_error result inside light)
    | ok decoded =>
      obtain ⟨pattern, corrects⟩ := tetraRm3014Decode_ok result
      have same : pattern = error := by
        apply rm3014.pattern_unique corrects.inside inside (corrects.explains.trans hit)
        have few := corrects.light
        show _ < 8
        omega
      refine ⟨decoded, rfl, ?_⟩
      rw [corrects.data, same, Nat.xor_assoc, Nat.xor_self, Nat.xor_zero, tetraRm3014Compute_eq,
        dataOf, combination_upper data]
      have small := valueOf_lt input
      rw [data] at small
      exact mod_eq_of_lt (small.trans (by decide))
  · intro four
    cases result : tetraRm3014Decode ((tetraRm3014Compute input).toNat ^^^ error) with
    | error refusal => exact ⟨refusal, rfl⟩
    | ok decoded =>
      obtain ⟨pattern, corrects⟩ := tetraRm3014Decode_ok result
      have few := corrects.light
      have same : pattern = error := by
        apply rm3014.pattern_unique corrects.inside inside (corrects.explains.trans hit)
        show _ < 8
        omega
      rw [same, four] at few
      exact absurd few (by decide)

/-- **A word decodes exactly if it is within three bits of a codeword**, and then to that one's data. -/
theorem tetraRm3014Decode_iff (word : BitVec 30) (data : Nat) :
    (∃ decoded, tetraRm3014Decode word.toNat = .ok decoded ∧ decoded.data = data) ↔
      data < 2 ^ 14 ∧
        weight (word.toNat ^^^ (tetraRm3014Compute (bitsOf 14 data)).toNat) ≤ 3 := by
  constructor
  · rintro ⟨decoded, found, rfl⟩
    obtain ⟨pattern, corrects⟩ := tetraRm3014Decode_ok found
    have inside := xor_lt_two_pow word.isLt corrects.inside
    have passes : computeSyndrome (word.toNat ^^^ pattern) = 0 := by
      rw [computeSyndrome_xor, corrects.explains, Nat.xor_self]
    have upper : (word.toNat ^^^ pattern) >>> 16 < 2 ^ 14 := by omega
    have data : decoded.data = (word.toNat ^^^ pattern) >>> 16 :=
      corrects.data.trans (mod_eq_of_lt (upper.trans (by decide)))
    rw [data, tetraRm3014Compute_eq, ← eq_combination_of_passes inside passes, ← Nat.xor_assoc,
      Nat.xor_self, zero_xor]
    exact ⟨upper, corrects.light⟩
  · rintro ⟨small, light⟩
    obtain ⟨decoded, found, is⟩ := (tetraRm3014Decode_spec (length_bitsOf 14 data)
      (xor_lt_two_pow word.isLt (tetraRm3014Compute (bitsOf 14 data)).isLt)).1 light
    rw [Nat.xor_comm word.toNat, ← Nat.xor_assoc, Nat.xor_self, zero_xor] at found
    exact ⟨decoded, found, is.trans (valueOf_bitsOf_of_lt small)⟩

end Bluestation.Rm3014
