/-
**Which common control channel a terminal is assigned to.**

A terminal is given one of twelve numbers; these are spread over one to four timeslots. The timeslot
with the fewest other terminals is chosen, and there the number with the fewest holders.

* `commonControlLoads_eq` — every terminal is counted once, in its timeslot.
* `assignment_balanced` — **the choice never fails, is one with the smallest load, and changes nobody
  else's.**
-/

import Bluestation.Llc.BasicLink
import Bluestation.Mm.Affiliations

namespace Bluestation

open List Option

structure SupportedAssignment extends CommonControlAssignment where
  supported : Option Bool

/-- The subscribers with what their common control channel is chosen by. -/
structure CommonControlRegistry extends SubscriberRegistry where
  assignments : Table SupportedAssignment

/-- The key of a minimum: what comes first decides. -/
abbrev inOrder (first : Nat) (second : Bool) (third : Nat) : Nat ×ₗ Bool ×ₗ Nat :=
  toLex (first, toLex (second, third))

namespace CommonControlRegistry

variable (r : CommonControlRegistry) (issi : Nat) (supported : Option Bool) (count ingress : Nat)

def commonControl : SupportedAssignment :=
  (r.assignments.lookup issi).getD ⟨⟨none, none, none⟩, none⟩

/-- The timeslot of a terminal. -/
def slotOf : Nat := commonControlSlot (r.commonControl issi).msScch count

/-- One more or one less at a place; a place that is not there panics. -/
def changeLoad (change : Nat → Nat) (loads : List Nat) (slot : Nat) : Option (List Nat) :=
  loads[slot - 1]?.map fun load => loads.set (slot - 1) (change load)

def members : Finset Nat := r.activeSubscribers ∪ r.pendingRegistrationDeliveries

/-- The iteration order of the two sets does not matter; it is the ascending one here. -/
def commonControlLoads : Option (List Nat) :=
  (r.members.sort (· ≤ ·)).foldlM (fun loads issi => changeLoad (· + 1) loads (r.slotOf issi count))
    [0, 0, 0, 0]

/-- How many other terminals have been given the number. -/
def holders (value : Nat) : Nat :=
  r.assignments.entries.countP fun entry => entry.1 ≠ issi && entry.2.msScch = some value

/-- A registration whose number has been announced. -/
def InProgress : Prop :=
  issi ∈ r.pendingRegistrationDeliveries ∧ (r.commonControl issi).registrationSlot.isSome = true ∧
    (r.commonControl issi).msScch.isSome = true

instance : Decidable (r.InProgress issi) := inferInstanceAs (Decidable (_ ∧ _))

/-- The loads without the terminal itself. -/
def otherLoads : Option (List Nat) :=
  (r.commonControlLoads count).bind fun loads =>
    if issi ∈ r.members then changeLoad (· - 1) loads (r.slotOf issi count) else some loads

def chooseMsScch : Option (Option Nat) := do
  let loads ← r.otherLoads issi count
  let slot ← (List.range' 1 (min count 3 + 1)).argmin fun slot =>
    inOrder (loads.getD (slot - 1) 0) (slot ≠ r.slotOf issi count) slot
  some (((List.range 12).filter fun value => commonControlSlot (some value) count = slot).argmin
    fun value => toLex (r.holders issi value, value))

def supports : Bool := supported.or (r.commonControl issi).supported = some true

/-- The terminal's number from now on. -/
def nextMsScch : Option (Option Nat) :=
  if r.supports issi supported then
    if r.InProgress issi then some (r.commonControl issi).msScch else r.chooseMsScch issi count
  else some none

def assign (msScch : Option Nat) : CommonControlRegistry :=
  { r with
    assignments := r.assignments.insert issi
      ⟨⟨msScch, some ingress, some ingress⟩, supported.or (r.commonControl issi).supported⟩ }

def selectCommonControl : Option (CommonControlRegistry × Option Nat) :=
  (r.nextMsScch issi supported count).map fun msScch =>
    (r.assign issi supported ingress msScch, msScch)

/-! ### The loads -/

/-- How many of some terminals are in the timeslot. -/
def load (terminals : Finset Nat) (slot : Nat) : Nat :=
  (terminals.filter fun issi => r.slotOf issi count = slot).card

/-- The loads of the four timeslots. -/
def loads (terminals : Finset Nat) : List Nat := (List.range' 1 4).map (r.load count terminals)

theorem slotOf_range : 1 ≤ r.slotOf issi count ∧ r.slotOf issi count ≤ min count 3 + 1 := by
  unfold slotOf commonControlSlot
  have below := Nat.mod_lt (((r.commonControl issi).msScch.filter (· < 12)).getD 0)
    (show min count 3 + 1 > 0 from Nat.succ_pos _)
  omega

variable {r issi count}

theorem loads_at (terminals : Finset Nat) {slot : Nat} (low : 1 ≤ slot) (high : slot ≤ 4) :
    (r.loads count terminals)[slot - 1]? = some (r.load count terminals slot) := by
  rw [loads, getElem?_map, getElem?_range' (by omega), map_some]
  congr 2
  omega

/-- **One terminal more or less changes the load of its timeslot**, and no other. -/
theorem changeLoad_loads {before after : Finset Nat} {change : Nat → Nat}
    (here : r.load count after (r.slotOf issi count) =
      change (r.load count before (r.slotOf issi count)))
    (elsewhere : ∀ slot ≠ r.slotOf issi count, r.load count after slot = r.load count before slot) :
    changeLoad change (r.loads count before) (r.slotOf issi count) = some (r.loads count after) := by
  obtain ⟨low, high⟩ := r.slotOf_range issi count
  rw [changeLoad, loads_at _ low (by omega), map_some]
  congr 1
  refine ext_getElem (by simp [loads]) fun place inside _ => ?_
  have within : place < 4 := by simpa [loads] using inside
  simp only [loads, getElem_set, getElem_map, getElem_range']
  split_ifs with same
  · rw [← here]
    congr 1
    omega
  · exact (elsewhere _ (by omega)).symm

theorem load_insert {terminals : Finset Nat} (new : issi ∉ terminals) (slot : Nat) :
    r.load count (insert issi terminals) slot =
      r.load count terminals slot + if r.slotOf issi count = slot then 1 else 0 := by
  unfold load
  rw [Finset.filter_insert]
  split_ifs
  · rw [Finset.card_insert_of_notMem fun member => new (Finset.mem_filter.mp member).1]
  · rfl

/-- **Every terminal is counted once, in its timeslot.** -/
theorem commonControlLoads_eq : r.commonControlLoads count = some (r.loads count r.members) := by
  have counted (terminals : List Nat) (once : terminals.Nodup) (before : Finset Nat)
      (apart : ∀ issi ∈ terminals, issi ∉ before) :
      terminals.foldlM (fun loads issi => changeLoad (· + 1) loads (r.slotOf issi count))
        (r.loads count before) = some (r.loads count (before ∪ terminals.toFinset)) := by
    induction terminals generalizing before with
    | nil => simp
    | cons issi terminals ih =>
      obtain ⟨new, later⟩ := forall_mem_cons.mp apart
      obtain ⟨fresh, rest⟩ := nodup_cons.mp once
      rw [foldlM_cons, @changeLoad_loads r issi count before (insert issi before)
        (· + 1) (by rw [load_insert new, if_pos rfl])
        (fun slot other => by rw [load_insert new, if_neg other.symm, Nat.add_zero])]
      refine (ih rest _ fun other member => ?_).trans ?_
      · rw [Finset.mem_insert, not_or]
        exact ⟨fun same => fresh (same ▸ member), later other member⟩
      · rw [toFinset_cons, Finset.union_insert, Finset.insert_union]
  have all := counted (r.members.sort (· ≤ ·)) (Finset.sort_nodup _ _) ∅ fun _ _ => by simp
  rwa [Finset.sort_toFinset, Finset.empty_union, show r.loads count ∅ = [0, 0, 0, 0] from rfl] at all

/-! ### The choice -/

/-- A number for a timeslot with the smallest load of others, and for the old one if that is among
these. -/
def Balanced (r : CommonControlRegistry) (issi count value : Nat) : Prop :=
  let others := r.load count (r.members.erase issi)
  value < 12 ∧
    (∀ slot, 1 ≤ slot → slot ≤ min count 3 + 1 →
      others (commonControlSlot (some value) count) ≤ others slot) ∧
    (others (r.slotOf issi count) = others (commonControlSlot (some value) count) →
      commonControlSlot (some value) count = r.slotOf issi count)

theorem otherLoads_eq : r.otherLoads issi count = some (r.loads count (r.members.erase issi)) := by
  rw [otherLoads, commonControlLoads_eq, bind_some]
  split_ifs with member
  · have whole := @load_insert r issi count _ (Finset.notMem_erase issi r.members)
    rw [Finset.insert_erase member] at whole
    refine changeLoad_loads ?_ fun slot other => ?_
    · rw [whole, if_pos rfl, Nat.add_sub_cancel]
    · rw [whole, if_neg other.symm, Nat.add_zero]
  · rw [Finset.erase_eq_of_notMem member]

theorem chooseMsScch_balanced :
    ∃ value, r.chooseMsScch issi count = some (some value) ∧ r.Balanced issi count value := by
  obtain ⟨slot, least⟩ : ∃ slot, (List.range' 1 (min count 3 + 1)).argmin (fun slot =>
      inOrder ((r.loads count (r.members.erase issi)).getD (slot - 1) 0)
        (slot ≠ r.slotOf issi count) slot) = some slot :=
    ne_none_iff_exists'.mp fun none => by simp at none
  have among := mem_range'_1.mp (argmin_mem least)
  have reaches : slot - 1 ∈ (List.range 12).filter fun value =>
      commonControlSlot (some value) count = slot := by
    rw [mem_filter, mem_range, decide_eq_true_iff, commonControlSlot, filter_some,
      if_pos (by simp; omega), getD_some, Nat.mod_eq_of_lt (by omega)]
    omega
  obtain ⟨value, fewest⟩ : ∃ value, ((List.range 12).filter fun value =>
      commonControlSlot (some value) count = slot).argmin
        (fun value => toLex (r.holders issi value, value)) = some value :=
    ne_none_iff_exists'.mp fun none => by
      rw [argmin_eq_none.mp none] at reaches
      exact nomatch reaches
  obtain ⟨below, maps⟩ := mem_filter.mp (argmin_mem fewest)
  replace maps := of_decide_eq_true maps
  refine ⟨value, ?_, mem_range.mp below, ?_⟩
  · rw [chooseMsScch, otherLoads_eq]
    simp only [bind_eq_bind, bind_some, least, fewest]
  · have smallest (other : Nat) (low : 1 ≤ other) (high : other ≤ min count 3 + 1) :=
      le_of_mem_argmin (mem_range'_1.mpr ⟨low, by omega⟩) least
    have known (other : Nat) (low : 1 ≤ other) (high : other ≤ min count 3 + 1) :
        (r.loads count (r.members.erase issi)).getD (other - 1) 0 =
          r.load count (r.members.erase issi) other := by
      rw [getD_eq_getElem?_getD, loads_at _ low (by omega), getD_some]
    rw [maps]
    constructor
    · intro other low high
      have order := smallest other low high
      rw [known slot among.1 (by omega), known other low high, Prod.Lex.toLex_le_toLex] at order
      exact order.elim le_of_lt fun same => same.1.le
    · intro tie
      obtain ⟨low, high⟩ := r.slotOf_range issi count
      have order := smallest (r.slotOf issi count) low high
      rw [known slot among.1 (by omega), known _ low high, tie, Prod.Lex.toLex_le_toLex,
        Prod.Lex.toLex_le_toLex] at order
      by_contra other
      simp [other] at order
      exact absurd order (by decide)

/-- **The choice never fails, is one with the smallest load, and changes nobody else's.** A number that
has been announced is kept. -/
theorem assignment_balanced (r : CommonControlRegistry) (issi : Nat) (supported : Option Bool)
    (count ingress : Nat) :
    r.commonControlLoads count = some (r.loads count r.members) ∧
    ∃ next msScch, r.selectCommonControl issi supported count ingress = some (next, msScch) ∧
      (next.commonControl issi).msScch = msScch ∧
      (r.supports issi supported = true →
        if r.InProgress issi then msScch = (r.commonControl issi).msScch
        else ∃ value, msScch = some value ∧ r.Balanced issi count value) ∧
      next.toSubscriberRegistry = r.toSubscriberRegistry ∧
      ∀ other ≠ issi, next.assignments.lookup other = r.assignments.lookup other := by
  refine ⟨commonControlLoads_eq, ?_⟩
  obtain ⟨msScch, is, promised⟩ : ∃ msScch, r.nextMsScch issi supported count = some msScch ∧
      (r.supports issi supported = true →
        if r.InProgress issi then msScch = (r.commonControl issi).msScch
        else ∃ value, msScch = some value ∧ r.Balanced issi count value) := by
    obtain ⟨value, chosen, balanced⟩ := @chooseMsScch_balanced r issi count
    unfold nextMsScch
    by_cases does : r.supports issi supported = true
    · rw [if_pos does]
      split_ifs
      · exact ⟨_, rfl, fun _ => rfl⟩
      · exact ⟨_, chosen, fun _ => ⟨value, rfl, balanced⟩⟩
    · exact ⟨_, if_neg does, fun supports => absurd supports does⟩
  refine ⟨r.assign issi supported ingress msScch, msScch, ?_, ?_, promised, rfl,
    fun other different => AList.lookup_insert_ne different⟩
  · rw [selectCommonControl, is, map_some]
  · rw [commonControl, assign, AList.lookup_insert, getD_some]

end CommonControlRegistry

end Bluestation
