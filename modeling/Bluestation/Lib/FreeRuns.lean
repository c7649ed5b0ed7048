/-
**The first run of free places in a list, and what a search counts on the way to it.**

Some places of the list are not there at all; some are holes, which do not end a run. A search counts
the places it passes; it gives up a run that is too short, and then counts what the run had.

* `beforeRun`, `takeRun` — what stands before the first run of free places, and its places.
* `seek_eq` — **the search finds the first run, and counts all places before it but the holes in runs
  that it has given up.**
-/

import Mathlib.Tactic

namespace Bluestation.FreeRuns

open List Option Nat

/-- What a place is to the search. -/
inductive Kind where
  | absent
  | hole
  | free
  | taken
deriving DecidableEq

variable {α : Type} (kind : α → Kind)

/-- Search `size` free places in a row; those found so far are at hand. -/
def seek (size : Nat) : List α → (skipped : Nat) → (run : List α) → Option (Nat × List α)
  | [], _, _ => none
  | item :: rest, skipped, run =>
    match kind item with
    | .absent => seek size rest skipped run
    | .hole => seek size rest (if run.isEmpty then skipped + 1 else skipped) run
    | .free =>
      if (run ++ [item]).length = size then some (skipped, run ++ [item])
      else seek size rest skipped (run ++ [item])
    | .taken =>
      if 0 = size then some (skipped + run.length + 1, [])
      else seek size rest (skipped + run.length + 1) []

/-- The next `size` places that are there and no holes are free. -/
def startsRun : (size : Nat) → List α → Bool
  | 0, _ => true
  | _, [] => false
  | size + 1, item :: rest =>
    match kind item with
    | .absent | .hole => startsRun (size + 1) rest
    | .free => startsRun size rest
    | .taken => false

/-- The next `size` free places. -/
def takeRun (size : Nat) (items : List α) : List α :=
  (items.filter fun item => kind item = .free).take size

/-- What stands before the first run of `size` free places, which begins with one of them. -/
def beforeRun (size : Nat) : List α → Option (List α)
  | [] => none
  | item :: rest =>
    if kind item = .free ∧ startsRun kind size (item :: rest) = true then some []
    else (beforeRun size rest).map (item :: ·)

/-- The holes with no taken place between them and a free place before them. -/
def hiddenHoles : (inRun : Bool) → List α → Nat
  | _, [] => 0
  | inRun, item :: rest =>
    match kind item with
    | .absent => hiddenHoles inRun rest
    | .hole => inRun.toNat + hiddenHoles inRun rest
    | .free => hiddenHoles true rest
    | .taken => hiddenHoles false rest

/-- The places that are there, without those holes. -/
def counted : (inRun : Bool) → List α → Nat
  | _, [] => 0
  | inRun, item :: rest =>
    match kind item with
    | .absent => counted inRun rest
    | .hole => (!inRun).toNat + counted inRun rest
    | .free | .taken => counted (kind item = .free) rest + 1

/-- The places that are there. -/
def present (items : List α) : Nat := items.countP fun item => kind item ≠ .absent

variable {kind} {size : Nat} {item : α} {rest : List α}

theorem present_cons : present kind (item :: rest) =
    (if kind item = .absent then 0 else 1) + present kind rest := by
  unfold present
  rw [add_comm]
  by_cases is : kind item = .absent
  · simp [is]
  · simp [is]

theorem counted_add_hiddenHoles (inRun : Bool) (items : List α) :
    counted kind inRun items + hiddenHoles kind inRun items = present kind items := by
  induction items generalizing inRun with
  | nil => rfl
  | cons item rest ih =>
    rw [present_cons]
    unfold counted hiddenHoles
    cases is : kind item with
    | absent => simpa using ih inRun
    | hole =>
      rw [← ih inRun]
      cases inRun with
      | false => simp [add_assoc]
      | true => simp [add_left_comm]
    | free =>
      rw [if_neg (by decide), ← ih true]
      dsimp only
      rw [decide_eq_true rfl]
      omega
    | taken =>
      rw [if_neg (by decide), ← ih false]
      dsimp only
      rw [decide_eq_false (by decide)]
      omega

variable {items : List α}

theorem startsRun_mono {few more : Nat} (fewer : few ≤ more)
    (starts : startsRun kind more items = true) : startsRun kind few items = true := by
  induction items generalizing few more with
  | nil =>
    cases more with
    | zero =>
      rw [le_zero.mp fewer]
      rfl
    | succ more => cases starts
  | cons item rest ih =>
    cases few with
    | zero => rfl
    | succ few =>
      obtain ⟨more, rfl⟩ := exists_eq_add_one_of_ne_zero (by omega : more ≠ 0)
      unfold startsRun at starts ⊢
      cases is : kind item with
      | absent =>
        rw [is] at starts
        exact ih fewer starts
      | hole =>
        rw [is] at starts
        exact ih fewer starts
      | free =>
        rw [is] at starts
        exact ih (by omega) starts
      | taken =>
        rw [is] at starts
        cases starts

theorem startsRun_pass (passes : kind item = .absent ∨ kind item = .hole) :
    startsRun kind size (item :: rest) = startsRun kind size rest := by
  cases size with
  | zero =>
    cases rest with
    | nil => rfl
    | cons next rest => rfl
  | succ size =>
    conv_lhs => unfold startsRun
    rcases passes with is | is
    · rw [is]
    · rw [is]

theorem startsRun_free (is : kind item = .free) (positive : 0 < size) :
    startsRun kind size (item :: rest) = startsRun kind (size - 1) rest := by
  obtain ⟨size, rfl⟩ := exists_eq_add_one_of_ne_zero positive.ne'
  conv_lhs => unfold startsRun
  rw [is]
  rfl

theorem takeRun_free (is : kind item = .free) (positive : 0 < size) :
    takeRun kind size (item :: rest) = item :: takeRun kind (size - 1) rest := by
  obtain ⟨size, rfl⟩ := exists_eq_add_one_of_ne_zero positive.ne'
  unfold takeRun
  rw [filter_cons_of_pos (by simpa using is)]
  rfl

theorem takeRun_pass (passes : kind item ≠ .free) :
    takeRun kind size (item :: rest) = takeRun kind size rest := by
  unfold takeRun
  rw [filter_cons_of_neg (by simpa using passes)]

theorem beforeRun_pass (passes : kind item ≠ .free) :
    beforeRun kind size (item :: rest) = (beforeRun kind size rest).map (item :: ·) := by
  rw [beforeRun, if_neg fun both => passes both.1]

/-- **The search finds the first run**, and counts what is there before it but the holes in runs that
it has given up. -/
theorem seek_eq (items : List α) (skipped : Nat) (run : List α) (short : run.length < size) :
    seek kind size items skipped run =
      if run ≠ [] ∧ startsRun kind (size - run.length) items = true then
        some (skipped, run ++ takeRun kind (size - run.length) items)
      else (beforeRun kind size items).map fun before =>
        (skipped + run.length + counted kind (!run.isEmpty) before,
          takeRun kind size (items.drop before.length)) := by
  have room : 0 < size - run.length := Nat.sub_pos_of_lt short
  induction items generalizing skipped run with
  | nil =>
    obtain ⟨left, is⟩ := Nat.exists_eq_add_one_of_ne_zero room.ne'
    rw [is, if_neg (fun both => Bool.false_ne_true both.2)]
    rfl
  | cons item rest ih =>
    unfold seek
    cases is : kind item with
    | absent =>
      dsimp only
      rw [ih _ _ short room, startsRun_pass (.inl is), takeRun_pass (by simp [is]),
        beforeRun_pass (by simp [is]), Option.map_map]
      congr 2
      funext before
      simp [counted, is]
    | hole =>
      dsimp only
      rw [ih _ _ short room, startsRun_pass (.inr is), takeRun_pass (by simp [is]),
        beforeRun_pass (by simp [is]), Option.map_map]
      cases run with
      | nil =>
        simp only [ne_eq, not_true_eq_false, false_and, if_false]
        congr 1
        funext before
        simp only [Function.comp, if_true, counted, is, isEmpty_nil,
          Bool.not_true, Bool.not_false, Bool.toNat_true]
        congr 1
        omega
      | cons first run =>
        congr 1
        congr 1
        funext before
        simp [counted, is]
    | free =>
      dsimp only
      have size_pos : 0 < size := by omega
      have longer : (run ++ [item]).length = run.length + 1 := by simp
      have left : size - run.length - 1 = size - (run.length + 1) := by omega
      rw [longer, startsRun_free is room, takeRun_free is room, left]
      -- a run at hand goes on; without one, the first run may start here
      by_cases starts : startsRun kind (size - (run.length + 1)) rest = true
      · have found : (if run.length + 1 = size then some (skipped, run ++ [item])
            else seek kind size rest skipped (run ++ [item])) =
            some (skipped, run ++ item :: takeRun kind (size - (run.length + 1)) rest) := by
          by_cases full : run.length + 1 = size
          · rw [if_pos full, full, Nat.sub_self]
            rfl
          · rw [if_neg full, ih _ _ (by omega) (by omega), longer,
              if_pos ⟨append_ne_nil_of_right_ne_nil _ (by simp), starts⟩, append_assoc]
            rfl
        rw [found]
        cases run with
        | nil =>
          have here : beforeRun kind size (item :: rest) = some [] := by
            rw [beforeRun, startsRun_free is size_pos]
            exact if_pos ⟨is, starts⟩
          rw [here, map_some, length_nil, drop_zero, takeRun_free is size_pos]
          rfl
        | cons first run => rw [if_pos ⟨cons_ne_nil _ _, starts⟩]
      · have full : run.length + 1 ≠ size := by
          intro full
          rw [full, Nat.sub_self] at starts
          cases rest with
          | nil => exact starts rfl
          | cons next rest => exact starts rfl
        have later : startsRun kind (size - 1) rest ≠ true :=
          fun is => starts (startsRun_mono (by omega) is)
        rw [if_neg full, ih _ _ (by omega) (by omega), longer, if_neg fun both => starts both.2,
          if_neg fun both => starts both.2, beforeRun, startsRun_free is size_pos,
          if_neg fun both => later both.2, Option.map_map]
        have inRun : (run ++ [item]).isEmpty = false := by
          cases run with
          | nil => rfl
          | cons first run => rfl
        congr 1
        funext before
        rw [inRun]
        simp only [Function.comp, counted, is, decide_true, Bool.not_false]
        congr 1
        omega
    | taken =>
      dsimp only
      have never : startsRun kind (size - run.length) (item :: rest) = false := by
        obtain ⟨left, isLeft⟩ := Nat.exists_eq_add_one_of_ne_zero room.ne'
        rw [isLeft]
        unfold startsRun
        rw [is]
      have size_pos : 0 < size := by omega
      rw [if_neg (by omega), ih _ [] size_pos (by simpa using size_pos), never,
        if_neg fun both => both.1 rfl, if_neg fun both => Bool.false_ne_true both.2,
        beforeRun_pass (by simp [is]), Option.map_map]
      congr 1
      funext before
      simp [counted, is]
      omega

/-- A run of `size` free places at the front of a list: a stretch with nothing taken in it, up to a
free place. -/
structure IsRun (kind : α → Kind) (size : Nat) (items window after : List α) (last : α) : Prop where
  split : items = window ++ after
  ends : window.getLast? = some last
  lastFree : kind last = .free
  clear : ∀ item ∈ window, kind item ≠ .taken
  took : takeRun kind size items = window.filter fun item => kind item = .free
  length : (takeRun kind size items).length = size

variable {window after : List α} {last : α}

theorem IsRun.getLast?_takeRun (run : IsRun kind size items window after last) :
    (takeRun kind size items).getLast? = some last := by
  obtain ⟨init, rfl⟩ := getLast?_eq_some_iff.mp run.ends
  rw [run.took, filter_append, filter_cons_of_pos (by simpa using run.lastFree),
    filter_nil, getLast?_concat]

/-- A place that is no place of the run, before it. -/
theorem IsRun.pass (run : IsRun kind size rest window after last)
    (passes : kind item = .absent ∨ kind item = .hole) :
    IsRun kind size (item :: rest) (item :: window) after last := by
  have kinds : kind item ≠ .free ∧ kind item ≠ .taken := by
    rcases passes with is | is
    · rw [is]
      decide
    · rw [is]
      decide
  constructor
  · rw [run.split]
    rfl
  · rw [getLast?_cons, run.ends]
    rfl
  · exact run.lastFree
  · exact forall_mem_cons.mpr ⟨kinds.2, run.clear⟩
  · rw [takeRun_pass kinds.1, run.took, filter_cons_of_neg (by simpa using kinds.1)]
  · rw [takeRun_pass kinds.1, run.length]

/-- A free place before a run. -/
theorem IsRun.free (run : IsRun kind (size - 1) rest window after last) (positive : 0 < size)
    (is : kind item = .free) : IsRun kind size (item :: rest) (item :: window) after last := by
  have took := @takeRun_free α kind size item rest is positive
  constructor
  · rw [run.split]
    rfl
  · rw [getLast?_cons, run.ends]
    rfl
  · exact run.lastFree
  · exact forall_mem_cons.mpr ⟨by rw [is]; decide, run.clear⟩
  · rw [took, run.took, filter_cons_of_pos (by simpa using is)]
  · rw [took, length_cons, run.length]
    omega

/-- **A run that starts** is one. -/
theorem startsRun_isRun (positive : 0 < size) (starts : startsRun kind size items = true) :
    ∃ window after last, IsRun kind size items window after last := by
  induction items generalizing size with
  | nil =>
    obtain ⟨size, rfl⟩ := exists_eq_add_one_of_ne_zero positive.ne'
    cases starts
  | cons item rest ih =>
    have passes (is : kind item = .absent ∨ kind item = .hole) :
        ∃ window after last, IsRun kind size (item :: rest) window after last := by
      rw [startsRun_pass is] at starts
      obtain ⟨window, after, last, run⟩ := ih positive starts
      exact ⟨_, _, _, run.pass is⟩
    cases is : kind item with
    | absent => exact passes (.inl is)
    | hole => exact passes (.inr is)
    | taken =>
      obtain ⟨size, rfl⟩ := exists_eq_add_one_of_ne_zero positive.ne'
      unfold startsRun at starts
      rw [is] at starts
      cases starts
    | free =>
      by_cases one : size = 1
      · subst one
        have took := @takeRun_free α kind 1 item rest is positive
        refine ⟨[item], rest, item, rfl, rfl, is, ?_, ?_, ?_⟩
        · intro other member
          rw [mem_singleton.mp member, is]
          decide
        · rw [took, filter_cons_of_pos (by simpa using is)]
          rfl
        · rw [took]
          rfl
      · rw [startsRun_free is positive] at starts
        obtain ⟨window, after, last, run⟩ := ih (show 0 < size - 1 by omega) starts
        exact ⟨_, _, _, run.free positive is⟩

/-- **The first run** stands behind what is before it, and begins with a free place. -/
theorem beforeRun_isRun {before : List α} (positive : 0 < size)
    (found : beforeRun kind size items = some before) :
    ∃ first window after last, items = before ++ items.drop before.length ∧ kind first = .free ∧
      IsRun kind size (items.drop before.length) (first :: window) after last := by
  induction items generalizing before with
  | nil => cases found
  | cons item rest ih =>
    rw [beforeRun] at found
    split at found
    · next here =>
      cases found
      obtain ⟨window, after, last, run⟩ := startsRun_isRun positive here.2
      cases window with
      | nil => cases run.ends
      | cons first window =>
        obtain ⟨rfl, -⟩ := List.cons.inj run.split
        exact ⟨item, window, after, last, rfl, here.1, run⟩
    · obtain ⟨later, foundLater, rfl⟩ := map_eq_some_iff.mp found
      obtain ⟨first, window, after, last, split, firstFree, run⟩ := ih foundLater
      refine ⟨first, window, after, last, ?_, firstFree, run⟩
      rw [length_cons, drop_succ_cons, cons_append, ← split]

end Bluestation.FreeRuns
