/-
**Binary words, and linear codes by their check.**

A word of bits is a natural number; words are added bit by bit. A code is given by its check, which is
linear; the words that pass it are its codewords.

* `weight_clearLow` — a word without its last one bit has one bit less.
* `LinearCode.pattern_unique` — light error patterns are told apart by the check.
-/

import Bluestation.Lib.Bits
import Mathlib.Data.Nat.BitIndices

namespace Bluestation.BinaryCode

open Bits List Nat

/-! ### The weight of a word -/

/-- The places of the one bits of a word. -/
def ones (word : Nat) : Finset Nat := word.bitIndices.toFinset

/-- How many one bits a word has. -/
def weight (word : Nat) : Nat := (ones word).card

variable {word other place : Nat}

@[simp] theorem mem_ones : place ∈ ones word ↔ word.testBit place = true := by
  rw [ones, mem_toFinset, mem_bitIndices]

theorem weight_two_pow (place : Nat) : weight (2 ^ place) = 1 := by
  have only : ones (2 ^ place) = {place} := by
    ext other
    rw [mem_ones, Nat.testBit_two_pow, decide_eq_true_eq, Finset.mem_singleton]
    exact eq_comm
  rw [weight, only, Finset.card_singleton]

theorem weight_xor_le (word other : Nat) : weight (word ^^^ other) ≤ weight word + weight other := by
  refine (Finset.card_le_card ?_).trans (Finset.card_union_le (ones word) (ones other))
  intro place here
  rw [mem_ones, testBit_xor] at here
  rw [Finset.mem_union, mem_ones, mem_ones]
  cases first : word.testBit place with
  | true => exact .inl rfl
  | false => exact .inr (by rwa [first, Bool.false_xor] at here)

/-- The word without its last one bit. -/
def clearLow (word : Nat) : Nat := word &&& (word - 1)

theorem exists_low (nonzero : word ≠ 0) : ∃ low ∈ ones word, (∀ place ∈ ones word, low ≤ place) ∧
    ones (clearLow word) = (ones word).erase low := by
  obtain ⟨low, odd, ⟨half, rfl⟩, rfl⟩ := exists_eq_two_pow_mul_odd nonzero
  have before : 2 ^ low * (2 * half + 1) - 1 = 2 ^ low * (2 * half) + (2 ^ low - 1) := by
    have positive : 0 < 2 ^ low := by positivity
    rw [mul_add]
    omega
  have below : 2 ^ low - 1 < 2 ^ low := sub_lt (by positivity) (by decide)
  have doubled : ∀ place, place ≠ 0 → (2 * half + 1).testBit place = (2 * half).testBit place := by
    intro place positive
    obtain ⟨place, rfl⟩ := exists_eq_succ_of_ne_zero positive
    rw [testBit_succ, testBit_succ]
    congr 1
    omega
  refine ⟨low, ?_, ?_, ?_⟩
  · rw [mem_ones, testBit_two_pow_mul]
    simp
  · intro place here
    rw [mem_ones, testBit_two_pow_mul, Bool.and_eq_true, decide_eq_true_eq] at here
    exact here.1
  · ext place
    rw [mem_ones, clearLow, testBit_and, before, testBit_two_pow_mul_add _ below,
      Finset.mem_erase, mem_ones, testBit_two_pow_mul]
    rcases lt_trichotomy place low with behind | rfl | beyond
    · simp [not_le.mpr behind]
    · simp
    · rw [if_neg (lt_asymm beyond), doubled _ (sub_ne_zero_of_lt beyond)]
      simp [beyond.ne', beyond.le]

/-- **A word without its last one bit has one bit less.** -/
theorem weight_clearLow (nonzero : word ≠ 0) : weight (clearLow word) + 1 = weight word := by
  obtain ⟨low, isOne, -, erased⟩ := exists_low nonzero
  rw [weight, erased]
  exact Finset.card_erase_add_one isOne

theorem eq_of_xor_eq_zero (zero : word ^^^ other = 0) : word = other := by
  have back : word ^^^ other ^^^ other = word := by
    rw [Nat.xor_assoc, Nat.xor_self, Nat.xor_zero]
  rw [← back, zero, zero_xor]

theorem eq_zero_of_weight (none : weight word = 0) : word = 0 := by
  by_contra nonzero
  have one := weight_clearLow nonzero
  omega

variable {count : Nat} {rows : List Nat}

theorem exists_peel (has : weight word = count + 1) :
    ∃ low ∈ ones word, ∃ rest, word = rest ^^^ 2 ^ low ∧ weight rest = count ∧
      ∀ place ∈ ones rest, low < place ∧ place ∈ ones word := by
  have nonzero : word ≠ 0 := by
    rintro rfl
    cases has
  obtain ⟨low, isOne, least, erased⟩ := exists_low nonzero
  have cleared (place : Nat) : (clearLow word).testBit place = true ↔
      place ≠ low ∧ word.testBit place = true := by
    rw [← mem_ones, erased, Finset.mem_erase, mem_ones]
  refine ⟨low, isOne, clearLow word, ?_, ?_, ?_⟩
  · apply eq_of_testBit_eq
    intro place
    rw [testBit_xor, testBit_two_pow]
    by_cases here : low = place
    · subst here
      have gone : (clearLow word).testBit low = false :=
        Bool.eq_false_iff.mpr fun is => ((cleared low).mp is).1 rfl
      rw [gone, mem_ones.mp isOne]
      simp
    · rw [decide_eq_false here, Bool.xor_false, Bool.eq_iff_iff, cleared]
      exact (and_iff_right (Ne.symm here)).symm
  · have one := weight_clearLow nonzero
    omega
  · intro place here
    rw [erased, Finset.mem_erase] at here
    exact ⟨lt_of_le_of_ne (least place here.2) (Ne.symm here.1), here.2⟩

/-! ### Fields of bits as words -/

theorem valueOf_cons (bit : Bool) (rest : List Bool) :
    valueOf (bit :: rest) = (if bit then 2 ^ rest.length else 0) ^^^ valueOf rest := by
  have below := valueOf_lt rest
  cases bit with
  | false => simp [valueOf]
  | true =>
    apply eq_of_testBit_eq
    intro place
    rw [valueOf, Bool.toNat_true, one_mul, testBit_xor]
    rcases lt_trichotomy place rest.length with behind | rfl | beyond
    · rw [testBit_two_pow_add_gt behind]
      simp [behind.ne']
    · rw [testBit_two_pow_add_eq]
      simp
    · have small : 2 ^ rest.length + valueOf rest < 2 ^ place := by
        have double := Nat.pow_le_pow_right (show 0 < 2 by decide) beyond
        omega
      rw [testBit_lt_two_pow small, testBit_lt_two_pow (below.trans_le
        (Nat.pow_le_pow_right (by decide) beyond.le))]
      simp [beyond.ne]

theorem valueOf_zipWith_xor (first second : List Bool) (sameLength : first.length = second.length) :
    valueOf (List.zipWith xor first second) = valueOf first ^^^ valueOf second := by
  induction first generalizing second with
  | nil =>
    rw [length_eq_zero_iff.mp sameLength.symm]
    rfl
  | cons bit first ih =>
    obtain ⟨other, second, rfl⟩ := exists_cons_of_length_eq_add_one sameLength.symm
    have same : first.length = second.length := by simpa using sameLength
    rw [zipWith_cons_cons, valueOf_cons, valueOf_cons, valueOf_cons, ih second same,
      length_zipWith, same, min_self]
    have bits : (if bit ^^ other then 2 ^ second.length else 0) =
        (if bit then 2 ^ second.length else 0) ^^^ (if other then 2 ^ second.length else 0) := by
      cases bit with
      | false => simp
      | true => cases other <;> simp
    rw [bits]
    ac_rfl

theorem weight_valueOf (bits : List Bool) : weight (valueOf bits) = bits.count true := by
  induction bits with
  | nil => rfl
  | cons bit rest ih =>
    rw [count_cons, ← ih, valueOf_cons]
    cases bit with
    | false => simp
    | true =>
      have below := valueOf_lt rest
      have added : ones (2 ^ rest.length ^^^ valueOf rest) =
          insert rest.length (ones (valueOf rest)) := by
        ext place
        rw [mem_ones, testBit_xor]
        by_cases first : place = rest.length
        · subst first
          rw [testBit_lt_two_pow below]
          simp
        · simp [first, Ne.symm first]
      have fresh : rest.length ∉ ones (valueOf rest) := by
        rw [mem_ones, testBit_lt_two_pow below]
        exact Bool.false_ne_true
      rw [if_pos rfl, weight, added, Finset.card_insert_of_notMem fresh]
      rfl

/-! ### Combinations of rows -/

/-- The sum of the rows that are chosen. -/
def combination : List Bool → List Nat → Nat
  | chosen :: choice, row :: rows => (if chosen then row else 0) ^^^ combination choice rows
  | _, _ => 0

theorem map_combination {linear : Nat → Nat} (zero : linear 0 = 0)
    (additive : ∀ word other, linear (word ^^^ other) = linear word ^^^ linear other)
    (choice : List Bool) (rows : List Nat) :
    linear (combination choice rows) = combination choice (rows.map linear) := by
  induction choice generalizing rows with
  | nil => exact zero
  | cons chosen choice ih =>
    cases rows with
    | nil => exact zero
    | cons row rows =>
      rw [combination, additive, ih, map_cons, combination]
      cases chosen with
      | false => simp [zero]
      | true => rfl

theorem combination_zeros (zeros : ∀ row ∈ rows, row = 0) (choice : List Bool) :
    combination choice rows = 0 := by
  induction choice generalizing rows with
  | nil => rfl
  | cons chosen choice ih =>
    cases rows with
    | nil => rfl
    | cons row rows =>
      obtain ⟨rfl, others⟩ := forall_mem_cons.mp zeros
      rw [combination, ih others, ite_self, Nat.xor_self]

/-- The powers of two from one below a width down. -/
def places : Nat → List Nat
  | 0 => []
  | width + 1 => 2 ^ width :: places width

theorem combination_places (bits : List Bool) :
    combination bits (places bits.length) = valueOf bits := by
  induction bits with
  | nil => rfl
  | cons bit rest ih => rw [length_cons, places, combination, ih, valueOf_cons]

/-- A word has more than so many one bits. -/
def exceeds : Nat → Nat → Bool
  | 0, word => word != 0
  | count + 1, word => exceeds count (clearLow word)

/-- Every combination of some rows, added to a word, has more than so many one bits. -/
def allExceed (count : Nat) : List Nat → Nat → Bool
  | [], word => exceeds count word
  | row :: rows, word => allExceed count rows word && allExceed count rows (word ^^^ row)

/-- Every combination of some rows with at least one of them has more than so many one bits. -/
def separates (count : Nat) : List Nat → Bool
  | [] => true
  | row :: rows => allExceed count rows row && separates count rows

theorem lt_weight_of_exceeds (more : exceeds count word = true) : count < weight word := by
  induction count generalizing word with
  | zero =>
    apply pos_of_ne_zero
    intro none
    rw [eq_zero_of_weight none] at more
    cases more
  | succ count ih =>
    have rest := ih more
    by_cases zero : word = 0
    · subst zero
      cases rest
    · rw [← weight_clearLow zero]
      exact succ_lt_succ rest

theorem lt_weight_of_allExceed (more : allExceed count rows word = true) (choice : List Bool) :
    count < weight (word ^^^ combination choice rows) := by
  induction rows generalizing word choice with
  | nil =>
    have nothing : combination choice [] = 0 := by
      cases choice with
      | nil => rfl
      | cons chosen choice => rfl
    rw [nothing, xor_zero]
    exact lt_weight_of_exceeds more
  | cons row rows ih =>
    obtain ⟨without, with'⟩ := Bool.and_eq_true_iff.mp more
    cases choice with
    | nil => exact ih without []
    | cons chosen choice =>
      rw [combination, ← Nat.xor_assoc]
      cases chosen with
      | false => simpa using ih without choice
      | true => exact ih with' choice

/-- **A search over the combinations of some rows** bounds their weights. -/
theorem lt_weight_of_separates (more : separates count rows = true) {choice : List Bool}
    (some' : combination choice rows ≠ 0) : count < weight (combination choice rows) := by
  induction rows generalizing choice with
  | nil =>
    cases choice with
    | nil => exact absurd rfl some'
    | cons chosen choice => exact absurd rfl some'
  | cons row rows ih =>
    obtain ⟨first, rest⟩ := Bool.and_eq_true_iff.mp more
    cases choice with
    | nil => exact absurd rfl some'
    | cons chosen choice =>
      rw [combination] at some' ⊢
      cases chosen with
      | false =>
        rw [if_neg Bool.false_ne_true, Nat.zero_xor] at some' ⊢
        exact ih rest some'
      | true => exact lt_weight_of_allExceed first choice

/-! ### Codes by their check -/

/-- A linear code by its check, whose codewords have at least so many one bits. -/
structure LinearCode where
  length : Nat
  syndrome : Nat → Nat
  distance : Nat
  additive : ∀ word other, syndrome (word ^^^ other) = syndrome word ^^^ syndrome other
  separated : ∀ word < 2 ^ length, syndrome word = 0 → word ≠ 0 → distance ≤ weight word

namespace LinearCode

variable (code : LinearCode) {pattern error codeword : Nat}

theorem syndrome_hit (passes : code.syndrome codeword = 0) (error : Nat) :
    code.syndrome (codeword ^^^ error) = code.syndrome error := by
  rw [code.additive, passes, zero_xor]

/-- **Light error patterns are told apart by the check.** -/
theorem pattern_unique (inside : pattern < 2 ^ code.length) (within : error < 2 ^ code.length)
    (same : code.syndrome pattern = code.syndrome error)
    (light : weight pattern + weight error < code.distance) : pattern = error := by
  by_contra differ
  have nonzero : pattern ^^^ error ≠ 0 := fun zero => differ (eq_of_xor_eq_zero zero)
  have passes : code.syndrome (pattern ^^^ error) = 0 := by
    rw [code.additive, same, Nat.xor_self]
  have heavy := code.separated _ (xor_lt_two_pow inside within) passes nonzero
  exact absurd ((heavy.trans (weight_xor_le pattern error)).trans_lt light) (lt_irrefl _)

end LinearCode

end Bluestation.BinaryCode
