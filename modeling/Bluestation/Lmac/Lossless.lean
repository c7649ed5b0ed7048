/-
**Interleaving and puncturing lose nothing that they should keep.**

The sizes and multipliers of the channel table are coprime, so interleaving is a permutation and
deinterleaving undoes it, in either order. The puncturing tables keep no place twice, so depuncturing
gives the transmitted places back and marks the others.

* `Spread.bijOn`, `Spread.lossless` — the block interleaver, for a multiplier coprime to the length.
* `interleaving_puncturing_lossless` — **both, for the channel table and the rates in use.**
-/

import Bluestation.Lmac.ErrorControl

namespace Bluestation

open Moves List

variable {α : Type}

namespace Interleaver

/-- Deinterleaving undoes interleaving, and interleaving undoes deinterleaving. -/
structure Lossless (α : Type) (k a : Nat) : Prop where
  permutes : Set.BijOn (blockInterlFunc k a) (Set.Icc 1 k) (Set.Icc 1 k)
  undone : ∀ input between output : List α, k ≤ input.length → k ≤ between.length →
    k ≤ output.length → ∃ result back, blockInterleave k a input between = some result ∧
      blockDeinterleave k a result output = some back ∧ back.take k = input.take k
  redone : ∀ input between output : List α, k ≤ input.length → k ≤ between.length →
    k ≤ output.length → ∃ result back, blockDeinterleave k a input between = some result ∧
      blockInterleave k a result output = some back ∧ back.take k = input.take k

/-- Moves that read the whole front of a buffer bring it back. -/
theorem move_there_and_back {k : Nat} {moves : List (Nat × Nat)} {input between output : List α}
    (oneToOne : OneToOne moves) (inside : Inside input.length between.length moves)
    (inside' : Inside output.length between.length moves)
    (reads : ∀ place < k, ∃ step ∈ moves, step.1 = place) :
    ∃ result back, move input moves between = some result ∧
      move result (moves.map Prod.swap) output = some back ∧ back.take k = input.take k := by
  obtain ⟨result, there, length⟩ := move_ok inside
  obtain ⟨back, again, -⟩ := move_ok (length ▸ inside'.swap)
  refine ⟨result, back, there, again, List.ext_getElem? fun place => ?_⟩
  rw [getElem?_take, getElem?_take]
  split_ifs with inFront
  · obtain ⟨step, member, rfl⟩ := reads place inFront
    exact move_back oneToOne there again member
  · rfl

theorem mem_blockMoves {k a i : Nat} (low : 1 ≤ i) (high : i ≤ k) :
    (i - 1, blockInterlFunc k a i - 1) ∈ blockMoves k a := by
  refine mem_map.mpr ⟨i - 1, mem_range.mpr (by omega), ?_⟩
  rw [Nat.sub_add_cancel low]

namespace Spread

variable {k a : Nat} (spread : Spread k a)

include spread

/-- **The places of a block are permuted.** -/
theorem bijOn : Set.BijOn (blockInterlFunc k a) (Set.Icc 1 k) (Set.Icc 1 k) := by
  have inside : Set.MapsTo (blockInterlFunc k a) (Set.Icc 1 k) (Set.Icc 1 k) := by
    rintro i ⟨low, high⟩
    have := Nat.mod_lt (a * i % 2 ^ 32) (low.trans high)
    unfold blockInterlFunc
    exact ⟨by omega, by omega⟩
  refine ((Set.finite_Icc 1 k).injOn_iff_bijOn_of_mapsTo inside).mp ?_
  rintro first ⟨low, high⟩ second ⟨low', high'⟩ same
  have one := inj_on_of_nodup_map spread.oneToOne.onceTo (mem_blockMoves low high)
    (mem_blockMoves low' high') (congrArg (· - 1) same)
  have := (Prod.mk.inj one).1
  omega

/-- **For a multiplier coprime to the length nothing is lost.** -/
theorem lossless : Lossless α k a := by
  refine ⟨spread.bijOn, fun input between output inputRoom room room' => ?_,
    fun input between output inputRoom room room' => ?_⟩
  · rw [blockInterleave, if_pos ⟨inputRoom, room⟩]
    obtain ⟨result, back, there, again, same⟩ := move_there_and_back (k := k) spread.oneToOne
      (spread.inside inputRoom room) (spread.inside room' room) fun place inside =>
        ⟨_, mem_blockMoves place.succ_pos inside, rfl⟩
    refine ⟨result, back, there, ?_, same⟩
    rw [blockDeinterleave, if_pos ⟨(length_move there).symm ▸ room, room'⟩]
    exact again
  · rw [blockDeinterleave, if_pos ⟨inputRoom, room⟩]
    obtain ⟨result, back, there, again, same⟩ := move_there_and_back (k := k) spread.oneToOne.swap
      (spread.inside room inputRoom).swap (spread.inside room room').swap fun place inside => by
        obtain ⟨i, ⟨low, high⟩, is⟩ := spread.bijOn.surjOn ⟨place.succ_pos, inside⟩
        exact ⟨_, mem_map_of_mem (mem_blockMoves low high), congrArg (· - 1) is⟩
    refine ⟨result, back, there, ?_, same⟩
    rw [blockInterleave, if_pos ⟨(length_move there).symm ▸ room, room'⟩]
    simpa [Function.comp_def] using again

end Spread

end Interleaver

namespace ConvEnc

/-- **Depuncturing gives the transmitted places back, and marks the others.** -/
theorem depunct_getPuncturedRate {pu : RcpcPunctMode} (regular : (getPuncturer pu).Regular)
    {mother room : List α} {len : Nat} (erased : α)
    (inside : ∀ j < room.length, (getPuncturer pu).place (j + 1) - 1 < mother.length)
    (sent : len ≤ room.length) :
    ∃ punctured back, getPuncturedRate pu mother room = some punctured ∧
      tetraRcpcDepunct pu punctured len (List.replicate mother.length erased) = some back ∧
      (∀ j < len, back[(getPuncturer pu).place (j + 1) - 1]? =
        mother[(getPuncturer pu).place (j + 1) - 1]?) ∧
      ∀ place < mother.length, (∀ j < len, (getPuncturer pu).place (j + 1) - 1 ≠ place) →
        back[place]? = some erased := by
  have within (count : Nat) (few : count ≤ room.length) :
      Inside mother.length room.length ((getPuncturer pu).moves count) := by
    intro step member
    obtain ⟨j, listed, rfl⟩ := mem_map.mp member
    have short := (mem_range.mp listed).trans_le few
    exact ⟨inside j short, short⟩
  obtain ⟨punctured, there, length⟩ := move_ok (within room.length le_rfl)
  have within' := (within len sent).swap
  rw [← length, ← length_replicate (n := mother.length) (a := erased)] at within'
  obtain ⟨back, again, -⟩ := move_ok within'
  refine ⟨punctured, back, there, again, fun j early => ?_, fun place inMother other => ?_⟩
  · rw [depunct_place regular again early]
    exact getElem?_move there (regular.oneToOne _).onceTo
      (mem_map_of_mem (mem_range.mpr (early.trans_le sent)))
  · rw [getElem?_move_other again, getElem?_replicate_of_lt inMother]
    intro step member
    obtain ⟨_, listed, rfl⟩ := mem_map.mp member
    obtain ⟨j, early, rfl⟩ := mem_map.mp listed
    exact other j (mem_range.mp early)

/-- The rates in use, with the bits of the mother code and those that are kept. -/
def usedRates : List (RcpcPunctMode × Nat × Nat) :=
  [(.rate2_3, ErrorControl.MAX_TYPE345_BITS * 4, ErrorControl.MAX_TYPE345_BITS),
    (.rate112_168, 112 * 3, 168), (.rate112_168, 56 * 3, 84), (.rate72_162, 72 * 3, 162),
    (.rate38_81, 38 * 3, 81)]

theorem usedRates_regular : ∀ rate ∈ usedRates, (getPuncturer rate.1).Regular := by
  intro rate member
  simp only [usedRates, mem_cons, not_mem_nil, or_false] at member
  rcases member with rfl | rfl | rfl | rfl | rfl <;> refine ⟨rfl, ?_, ?_, ?_, ?_⟩ <;> decide

theorem usedRates_inside : ∀ rate ∈ usedRates, ∀ j < rate.2.2,
    (getPuncturer rate.1).place (j + 1) - 1 < rate.2.1 := by
  decide +kernel

end ConvEnc

open ErrorControl Interleaver ConvEnc

/-- **Interleaving and puncturing lose nothing that they should keep**: for the parameters of every
channel that is interleaved, the block interleaver permutes the block and deinterleaving is its
inverse; for every rate in use, depuncturing gives the transmitted places back and marks exactly the
others. -/
theorem interleaving_puncturing_lossless (α : Type) :
    (∀ lchan params, getParams lchan = some params → params.interleaveA ≠ 0 →
      Lossless α params.type345Bits params.interleaveA) ∧
    (∀ rate ∈ usedRates, ∀ (mother room : List α) (len : Nat) (erased : α),
      (∀ j < room.length, (getPuncturer rate.1).place (j + 1) - 1 < mother.length) →
      len ≤ room.length →
      ∃ punctured back, getPuncturedRate rate.1 mother room = some punctured ∧
        tetraRcpcDepunct rate.1 punctured len (List.replicate mother.length erased) = some back ∧
        (∀ j < len, back[(getPuncturer rate.1).place (j + 1) - 1]? =
          mother[(getPuncturer rate.1).place (j + 1) - 1]?) ∧
        ∀ place < mother.length, (∀ j < len, (getPuncturer rate.1).place (j + 1) - 1 ≠ place) →
          back[place]? = some erased) ∧
    ∀ rate ∈ usedRates, ∀ j < rate.2.2, (getPuncturer rate.1).place (j + 1) - 1 < rate.2.1 := by
  refine ⟨fun lchan params known interleaved => ?_, fun rate used mother room len erased inside sent =>
    depunct_getPuncturedRate (usedRates_regular rate used) erased inside sent, usedRates_inside⟩
  suffices Spread params.type345Bits params.interleaveA from this.lossless
  cases lchan with
  | aach =>
    cases known
    exact absurd rfl interleaved
  | bsch | schHd | stch | bnch | schF | schHu | tchS =>
    cases known
    exact ⟨by decide, by decide⟩
  | tch24 | tch48 | tch72 | blch | clch => cases known

end Bluestation
