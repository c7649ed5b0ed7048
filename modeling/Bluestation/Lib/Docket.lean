/-
**Numbered requests that wait under keys, and what they are owed.**

Requests are numbered as they come. A request is in hand when it comes, and when it is taken from its
key; from the hand it is answered, or put under a key to wait. `owed` says how many answers a request
that no longer waits must have got; the ledger is balanced if no request has got anything else.

* `Balanced.draw`, `Balanced.lift` — a request comes into the hand.
* `InHand.put`, `InHand.answer` — and leaves it.
* `Balanced.congr` — what waiting requests are owed may still change.
* `Balanced.of_count` — the order of the answers does not matter.

A second request under a key in use would push the first one out: `InHand.put` asks for a free key.
-/

import Mathlib.Data.List.Count
import Mathlib.Logic.Function.Basic
import Mathlib.Tactic

namespace Bluestation

open Option Function Nat

/-- Requests by number: how many have come, which wait under a key, and the answers given. -/
structure Docket (Key : Type) where
  taken : Nat
  waiting : Key → Option Nat
  answered : List Nat

namespace Docket

variable {Key : Type} {d : Docket Key} {owed other : Nat → Nat} {key : Key} {number : Nat}

/-- The request waits under some key. -/
def Waits (d : Docket Key) (number : Nat) : Prop := ∃ key, d.waiting key = some number

/-- **Every request that no longer waits has got exactly what it is owed**, and no other has got
anything. -/
structure Balanced (d : Docket Key) (owed : Nat → Nat) : Prop where
  known : ∀ key number, d.waiting key = some number → number < d.taken
  alone : ∀ key key' number, d.waiting key = some number → d.waiting key' = some number → key = key'
  silent : ∀ number, d.taken ≤ number ∨ d.Waits number → d.answered.count number = 0
  paid : ∀ number, number < d.taken → ¬ d.Waits number → d.answered.count number = owed number

/-- The ledger is balanced but for one request, which neither waits nor has got anything. -/
structure InHand (d : Docket Key) (owed : Nat → Nat) (hand : Nat) : Prop where
  known : ∀ key number, d.waiting key = some number → number < d.taken
  alone : ∀ key key' number, d.waiting key = some number → d.waiting key' = some number → key = key'
  silent : ∀ number, d.taken ≤ number ∨ d.Waits number ∨ number = hand →
    d.answered.count number = 0
  paid : ∀ number, number < d.taken → ¬ d.Waits number → number ≠ hand →
    d.answered.count number = owed number
  here : hand < d.taken
  free : ¬ d.Waits hand

theorem Balanced.init (owed : Nat → Nat) :
    (⟨0, fun _ : Key => none, []⟩ : Docket Key).Balanced owed where
  known _ _ waits := nomatch waits
  alone _ _ _ waits := nomatch waits
  silent _ _ := rfl
  paid _ less := absurd less (not_lt_zero _)

theorem Balanced.congr (balanced : d.Balanced owed)
    (same : ∀ number, number < d.taken → ¬ d.Waits number → owed number = other number) :
    d.Balanced other where
  known := balanced.known
  alone := balanced.alone
  silent := balanced.silent
  paid number less closed := (balanced.paid number less closed).trans (same number less closed)

theorem Balanced.of_count {after : Docket Key} (balanced : d.Balanced owed)
    (taken : after.taken = d.taken) (waiting : after.waiting = d.waiting)
    (answered : ∀ number, after.answered.count number = d.answered.count number) :
    after.Balanced owed := by
  obtain ⟨_, _, _⟩ := after
  subst taken waiting
  exact ⟨balanced.known, balanced.alone, fun number early =>
    (answered number).trans (balanced.silent number early), fun number less closed =>
    (answered number).trans (balanced.paid number less closed)⟩

theorem Balanced.fresh (balanced : d.Balanced owed) (key : Key) : d.waiting key ≠ some d.taken :=
  fun waits => lt_irrefl _ (balanced.known key _ waits)

/-! ### Without a key -/

/-- A new request comes. -/
def draw (d : Docket Key) : Docket Key := { d with taken := d.taken + 1 }

/-- A request is answered. -/
def answer (d : Docket Key) (answers : List Nat) : Docket Key :=
  { d with answered := d.answered ++ answers }

theorem count_answer (d : Docket Key) (answers : List Nat) (number : Nat) :
    (d.answer answers).answered.count number = d.answered.count number + answers.count number :=
  List.count_append

/-- A new request is answered at once. -/
def refuse (d : Docket Key) (answers : List Nat) : Docket Key := d.draw.answer answers

/-- **A new request is in hand.** -/
theorem Balanced.draw (balanced : d.Balanced owed) : d.draw.InHand owed d.taken where
  known key number waits := lt_succ_of_lt (balanced.known key number waits)
  alone := balanced.alone
  silent number early := by
    rcases early with later | waits | rfl
    · exact balanced.silent number (.inl (le_of_succ_le later))
    · exact balanced.silent number (.inr waits)
    · exact balanced.silent _ (.inl le_rfl)
  paid number less closed different :=
    balanced.paid number (lt_of_le_of_ne (le_of_lt_succ less) different) closed
  here := lt_succ_self _
  free := fun ⟨key, waits⟩ => balanced.fresh key waits

/-- **The request in hand is answered as it is owed.** -/
theorem InHand.answer (hand : d.InHand owed number) :
    (d.answer (List.replicate (owed number) number)).Balanced owed where
  known := hand.known
  alone := hand.alone
  silent one early := by
    have different : one ≠ number := by
      rintro rfl
      rcases early with later | waits
      · exact absurd hand.here (not_lt.mpr later)
      · exact hand.free waits
    rw [count_answer, List.count_replicate, if_neg (by simpa using different.symm)]
    exact hand.silent one (early.imp_right .inl)
  paid one less closed := by
    rw [count_answer, List.count_replicate]
    by_cases same : one = number
    · subst same
      rw [hand.silent one (.inr (.inr rfl)), if_pos (by simp), zero_add]
    · rw [if_neg (by simpa using Ne.symm same)]
      exact hand.paid one less closed same

/-- **A new request that is answered at once.** -/
theorem Balanced.refuse (balanced : d.Balanced owed) :
    (d.refuse (List.replicate (owed d.taken) d.taken)).Balanced owed :=
  balanced.draw.answer

/-! ### Keys -/

variable [DecidableEq Key]

/-- The request in hand waits under a key. -/
def put (d : Docket Key) (key : Key) (number : Nat) : Docket Key :=
  { d with waiting := Function.update d.waiting key (some number) }

/-- The request that waits under a key is taken from it. -/
def lift (d : Docket Key) (key : Key) : Docket Key :=
  { d with waiting := Function.update d.waiting key none }

/-- A new request waits under a key. -/
def take (d : Docket Key) (key : Key) : Docket Key := d.draw.put key d.taken

/-- The request that waits under a key is closed. -/
def close (d : Docket Key) (key : Key) (answers : List Nat) : Docket Key :=
  (d.lift key).answer answers

theorem waiting_put (d : Docket Key) (key place : Key) (number : Nat) :
    (d.put key number).waiting place = if place = key then some number else d.waiting place :=
  update_apply ..

theorem waiting_lift (d : Docket Key) (key place : Key) :
    (d.lift key).waiting place = if place = key then none else d.waiting place :=
  update_apply ..

theorem waiting_take (d : Docket Key) (key place : Key) :
    (d.take key).waiting place = if place = key then some d.taken else d.waiting place :=
  waiting_put ..

theorem waiting_close (d : Docket Key) (key place : Key) (answers : List Nat) :
    (d.close key answers).waiting place = if place = key then none else d.waiting place :=
  waiting_lift ..

theorem put_self (waits : d.waiting key = some number) : d.put key number = d := by
  unfold put
  rw [← waits, update_eq_self]

theorem waits_put (free : d.waiting key = none) {one : Nat} :
    (d.put key number).Waits one ↔ one = number ∨ d.Waits one := by
  constructor
  · rintro ⟨place, waits⟩
    rw [waiting_put] at waits
    by_cases same : place = key
    · rw [if_pos same, some_inj] at waits
      exact .inl waits.symm
    · rw [if_neg same] at waits
      exact .inr ⟨place, waits⟩
  · rintro (rfl | ⟨place, waits⟩)
    · exact ⟨key, (waiting_put ..).trans (if_pos rfl)⟩
    · refine ⟨place, ?_⟩
      rw [waiting_put, if_neg]
      · exact waits
      · rintro rfl
        cases free.symm.trans waits

/-- **The request in hand is put under a free key.** -/
theorem InHand.put (hand : d.InHand owed number) (free : d.waiting key = none) :
    (d.put key number).Balanced owed where
  known place one waits := by
    rw [waiting_put] at waits
    by_cases same : place = key
    · rw [if_pos same, some_inj] at waits
      exact waits ▸ hand.here
    · rw [if_neg same] at waits
      exact hand.known place one waits
  alone first second one firstWaits secondWaits := by
    rw [waiting_put] at firstWaits secondWaits
    by_cases isFirst : first = key <;> by_cases isSecond : second = key
    · exact isFirst.trans isSecond.symm
    · rw [if_pos isFirst] at firstWaits
      rw [if_neg isSecond, ← firstWaits] at secondWaits
      exact absurd ⟨second, secondWaits⟩ hand.free
    · rw [if_pos isSecond] at secondWaits
      rw [if_neg isFirst, ← secondWaits] at firstWaits
      exact absurd ⟨first, firstWaits⟩ hand.free
    · rw [if_neg isFirst] at firstWaits
      rw [if_neg isSecond] at secondWaits
      exact hand.alone first second one firstWaits secondWaits
  silent one early := by
    refine hand.silent one (early.imp_right fun waits => ?_)
    exact ((waits_put free).mp waits).symm
  paid one less closed := by
    rw [waits_put free, not_or] at closed
    exact hand.paid one less closed.2 closed.1

theorem waits_take (free : d.waiting key = none) :
    (d.take key).Waits number ↔ number = d.taken ∨ d.Waits number :=
  @waits_put _ d.draw key d.taken _ free number

variable (balanced : d.Balanced owed)

include balanced

/-- **A new request under a free key.** -/
theorem Balanced.take (free : d.waiting key = none) : (d.take key).Balanced owed :=
  balanced.draw.put free

variable (waits : d.waiting key = some number)

include waits

theorem Balanced.waits_lift {one : Nat} : (d.lift key).Waits one ↔ one ≠ number ∧ d.Waits one := by
  constructor
  · rintro ⟨place, still⟩
    rw [waiting_lift] at still
    obtain ⟨different, still⟩ := ite_none_left_eq_some.mp still
    refine ⟨?_, place, still⟩
    rintro rfl
    exact different (balanced.alone place key one still waits)
  · rintro ⟨different, place, still⟩
    refine ⟨place, ?_⟩
    rw [waiting_lift, if_neg]
    · exact still
    · rintro rfl
      rw [waits, some_inj] at still
      exact different still.symm

/-- **A waiting request is taken into the hand.** -/
theorem Balanced.lift : (d.lift key).InHand owed number where
  known place one still := by
    rw [waiting_lift] at still
    exact balanced.known place one (ite_none_left_eq_some.mp still).2
  alone first second one firstWaits secondWaits := by
    rw [waiting_lift] at firstWaits secondWaits
    exact balanced.alone first second one (ite_none_left_eq_some.mp firstWaits).2
      (ite_none_left_eq_some.mp secondWaits).2
  silent one early := by
    rcases early with later | still | rfl
    · exact balanced.silent one (.inl later)
    · exact balanced.silent one (.inr ((balanced.waits_lift waits).mp still).2)
    · exact balanced.silent one (.inr ⟨key, waits⟩)
  paid one less closed different := by
    refine balanced.paid one less fun still => closed ?_
    exact (balanced.waits_lift waits).mpr ⟨different, still⟩
  here := balanced.known key number waits
  free still := ((balanced.waits_lift waits).mp still).1 rfl

theorem waits_close (answers : List Nat) {one : Nat} :
    (d.close key answers).Waits one ↔ one ≠ number ∧ d.Waits one :=
  balanced.waits_lift waits

/-- **A waiting request is closed with what it is owed.** -/
theorem Balanced.close : (d.close key (List.replicate (owed number) number)).Balanced owed :=
  (balanced.lift waits).answer

end Docket

end Bluestation
