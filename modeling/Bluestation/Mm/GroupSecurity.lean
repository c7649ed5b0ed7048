/-
**Which keys of groups a terminal is told of.**

The groups of a request that have a key are collected, sorted and cut at thirty; then the associations
are put into elements of one key each.

* `GroupIdentitySecurityRelatedInformation.coded` — an element that the encoder takes is read back.
* `announced_iff` — **every group with a key is told of, once and with its key, exactly if at most
  thirty have one.**
-/

import Bluestation.Config.GroupKeys
import Bluestation.Lib.Parsing

namespace Bluestation

open Bits List Option

/-! ### The element -/

inductive GckSelectNumber where
  | selected (gckn : BitVec 16)
deriving DecidableEq

def GckSelectNumber.intoRaw : GckSelectNumber → Nat
  | .selected gckn => gckn.toNat

structure GroupGckAssociation where
  gssi : Nat
  selection : GckSelectNumber

structure GroupIdentitySecurityRelatedInformation where
  associations : List GroupGckAssociation

namespace GroupIdentitySecurityRelatedInformation

def readGssis : Nat → BufM (List Nat)
  | 0 => pure []
  | count + 1 => do
    let gssi ← readField 24 "gssi"
    let gssis ← readGssis count
    pure (gssi :: gssis)

def fromBitbuf : BufM GroupIdentitySecurityRelatedInformation := do
  let count ← readField 5 "number_of_groups"
  if count = 0 ∨ 30 < count then throw (.parse (.invalidValue "number_of_groups" count))
  else
    let groups ← readGssis count
    let gckAssociation ← readField 1 "gck_association"
    if gckAssociation ≠ 1 then throw (.parse (.invalidValue "gck_association" 0))
    else
      let selection ← readField 17 "gck_select_number"
      if 0xffff < selection then throw (.parse (.invalidValue "gck_select_number" selection))
      else
        let sckAssociation ← readField 1 "sck_association"
        if sckAssociation ≠ 0 then throw (.parse (.invalidValue "sck_association" 1))
        else pure ⟨groups.map fun gssi => ⟨gssi, .selected (.ofNat 16 selection)⟩⟩

/-- The encoder takes such a group. -/
abbrev GckValid (gssi : Nat) : Prop := gssi ≠ 0 ∧ gssi ≤ 0xffffff

def writeGssis : List GroupGckAssociation → BufM Unit
  | [] => pure ()
  | association :: rest =>
    if association.gssi = 0 ∨ 0xffffff < association.gssi then
      throw (.parse (.invalidValue "gssi" association.gssi))
    else do
      writeBits association.gssi 24
      writeGssis rest

def toBitbuf (element : GroupIdentitySecurityRelatedInformation) : BufM Unit :=
  match element.associations with
  | [] => throw (.parse (.invalidValue "number_of_groups" 0))
  | first :: rest =>
    if 30 < rest.length + 1 then throw (.parse (.invalidValue "number_of_groups" (rest.length + 1)))
    else if (first :: rest).any (·.selection ≠ first.selection) then
      throw (.parse (.invalidValue "mixed_gck_associations" (rest.length + 1)))
    else do
      writeBits (rest.length + 1) 5
      writeGssis (first :: rest)
      writeBit true
      writeBits first.selection.intoRaw 17
      writeBit false

variable {element : GroupIdentitySecurityRelatedInformation} {associations : List GroupGckAssociation}

/-- One to thirty groups with one selection. -/
def Uniform (element : GroupIdentitySecurityRelatedInformation) : Prop :=
  1 ≤ element.associations.length ∧ element.associations.length ≤ 30 ∧
    ∃ gckn, ∀ association ∈ element.associations, association.selection = .selected gckn

theorem reads_readGssis (gssis : List Nat) (fit : ∀ gssi ∈ gssis, gssi ≤ 0xffffff) :
    Reads (readGssis gssis.length) (gssis.flatMap (bitsOf 24)) gssis := by
  induction gssis with
  | nil => exact .pure _
  | cons gssi gssis ih =>
    obtain ⟨here, rest⟩ := forall_mem_cons.mp fit
    exact .field (by omega) ((ih rest).finish (.pure _))

theorem writes_writeGssis (valid : ∀ association ∈ associations, GckValid association.gssi) :
    Writes (writeGssis associations) ((associations.map (·.gssi)).flatMap (bitsOf 24)) := by
  induction associations with
  | nil => exact .pure
  | cons association rest ih =>
    obtain ⟨⟨some', fits⟩, more⟩ := forall_mem_cons.mp valid
    rw [writeGssis, if_neg (by omega)]
    exact .bits (ih more)

theorem requires_writeGssis : Requires (writeGssis associations)
    (∀ association ∈ associations, GckValid association.gssi) := by
  induction associations with
  | nil => exact fun _ _ _ _ _ member => nomatch member
  | cons association rest ih =>
    intro b value later ran
    unfold writeGssis at ran
    split at ran
    · cases ran
    next valid =>
      exact forall_mem_cons.mpr ⟨⟨by omega, by omega⟩,
        Requires.later (fun _ => ih) b value later ran⟩

/-- **An element is read back** if it is uniform and its groups can be written. -/
theorem coded (uniform : element.Uniform)
    (valid : ∀ association ∈ element.associations, GckValid association.gssi) :
    ∃ field, Writes element.toBitbuf field ∧ Reads fromBitbuf field element := by
  obtain ⟨associations⟩ := element
  obtain ⟨some', most, gckn, same⟩ := uniform
  cases associations with
  | nil => cases some'
  | cons first rest =>
    dsimp only at some' most same valid
    rw [length_cons] at most
    have selects : first.selection = .selected gckn := same first mem_cons_self
    have raw : gckn.toNat < 2 ^ 16 := gckn.isLt
    have mixed : ((first :: rest).any (·.selection ≠ first.selection)) ≠ true := by
      rw [ne_eq, List.any_eq_true, not_exists]
      rintro association ⟨member, unlike⟩
      exact of_decide_eq_true unlike ((same association member).trans selects.symm)
    refine ⟨bitsOf 5 (rest.length + 1) ++ (((first :: rest).map (·.gssi)).flatMap (bitsOf 24) ++
      (bitsOf 1 1 ++ (bitsOf 17 gckn.toNat ++ bitsOf 1 0))), ?_, ?_⟩
    · unfold toBitbuf
      dsimp only
      rw [if_neg (by omega), if_neg mixed, selects]
      exact .bits ((writes_writeGssis valid).bind ((writes_writeBit true).bind
        (.bits (writes_writeBit false))))
    · refine .field (by omega) ?_
      rw [if_neg (by omega)]
      have groups := reads_readGssis ((first :: rest).map (·.gssi)) fun gssi member => by
        obtain ⟨association, among, rfl⟩ := mem_map.mp member
        exact (valid association among).2
      rw [length_map] at groups
      refine groups.bind (.field (by decide) ?_)
      rw [if_neg (by decide)]
      refine .field (by omega) ?_
      rw [if_neg (by omega)]
      refine (reads_readField _ (by decide)).finish ?_
      rw [if_neg (by decide)]
      have whole : ((first :: rest).map (·.gssi)).map
          (fun gssi => (⟨gssi, .selected (.ofNat 16 gckn.toNat)⟩ : GroupGckAssociation)) =
            first :: rest := by
        rw [List.map_map, List.map_congr_left, List.map_id]
        intro association member
        obtain ⟨gssi, selection⟩ := association
        cases same _ member
        simp
      rw [whole]
      exact .pure _

theorem requires_toBitbuf : Requires element.toBitbuf
    (∀ association ∈ element.associations, GckValid association.gssi) := by
  obtain ⟨associations⟩ := element
  intro b value later ran
  cases associations with
  | nil => cases ran
  | cons first rest =>
    unfold toBitbuf at ran
    dsimp only at ran
    split at ran
    · cases ran
    · split at ran
      · cases ran
      · exact Requires.later (fun _ => requires_writeGssis.first) b value later ran

/-! ### Filling elements -/

/-- Into the first element of the key that has room, or else into a new one. -/
def addAssociation (association : GroupGckAssociation) :
    List GroupIdentitySecurityRelatedInformation → List GroupIdentitySecurityRelatedInformation
  | [] => [⟨[association]⟩]
  | element :: rest =>
    if element.associations.head?.map (·.selection) = some association.selection ∧
        element.associations.length < 30 then
      ⟨element.associations ++ [association]⟩ :: rest
    else element :: addAssociation association rest

variable {elements : List GroupIdentitySecurityRelatedInformation}

theorem uniform_addAssociation (association : GroupGckAssociation)
    (uniform : ∀ element ∈ elements, element.Uniform) :
    ∀ element ∈ addAssociation association elements, element.Uniform := by
  induction elements with
  | nil =>
    obtain ⟨gssi, ⟨gckn⟩⟩ := association
    exact forall_mem_singleton.mpr ⟨le_rfl, Nat.le_add_left 1 29, gckn, by simp⟩
  | cons element rest ih =>
    obtain ⟨⟨some', most, gckn, same⟩, more⟩ := forall_mem_cons.mp uniform
    unfold addAssociation
    split
    next fits =>
      obtain ⟨selects, room⟩ := fits
      obtain ⟨first, is, selects⟩ := map_eq_some_iff.mp selects
      refine forall_mem_cons.mpr ⟨⟨?_, ?_, gckn, ?_⟩, more⟩
      · simp
      · simpa using room
      · simp only [forall_mem_append, forall_mem_singleton]
        exact ⟨same, selects.symm.trans (same first (mem_of_mem_head? is))⟩
    · exact forall_mem_cons.mpr ⟨⟨some', most, gckn, same⟩, ih more⟩

theorem perm_addAssociation (association : GroupGckAssociation) :
    ((addAssociation association elements).flatMap (·.associations)).Perm
      (association :: elements.flatMap (·.associations)) := by
  induction elements with
  | nil => exact .refl _
  | cons element rest ih =>
    unfold addAssociation
    split
    · simp [perm_middle]
    · exact (ih.append_left _).trans perm_middle

def elementsOf (associations : List GroupGckAssociation) :
    List GroupIdentitySecurityRelatedInformation :=
  associations.foldl (fun elements association => addAssociation association elements) []

/-- All associations are in the elements, and each element has one key. -/
theorem filled (associations : List GroupGckAssociation) :
    (∀ element ∈ elementsOf associations, element.Uniform) ∧
      ((elementsOf associations).flatMap (·.associations)).Perm associations := by
  induction associations using List.reverseRecOn with
  | nil => exact ⟨nofun, .refl _⟩
  | append_singleton associations association ih =>
    rw [elementsOf, foldl_append]
    exact ⟨uniform_addAssociation _ ih.1, (perm_addAssociation _).trans
      ((ih.2.cons _).trans (perm_append_singleton _ _).symm)⟩

end GroupIdentitySecurityRelatedInformation

/-! ### The associations of a request -/

namespace RuntimeSc3Aie

open GroupIdentitySecurityRelatedInformation

variable (sc3 : RuntimeSc3Aie) (gssis : List Nat)

def gcknForGssi (gssi : Nat) : Option (BitVec 16) := sc3.groupAssociations.lookup gssi

/-- The groups of the list that have a key, each once. -/
def keyed : List Nat :=
  ((gssis.filter fun gssi => (sc3.gcknForGssi gssi).isSome).insertionSort (· ≤ ·)).dedup

def normalizedGroupSecurityGssis : List Nat :=
  if sc3.linkedGckCryptoPeriods then (sc3.keyed gssis).take 30 else []

def association (gssi : Nat) : Option GroupGckAssociation :=
  (sc3.gcknForGssi gssi).map fun gckn => ⟨gssi, .selected gckn⟩

def groupSecurityInformation : Option (List GroupIdentitySecurityRelatedInformation) :=
  if ¬ sc3.linkedGckCryptoPeriods then none
  else
    let elements := elementsOf ((sc3.normalizedGroupSecurityGssis gssis).filterMap sc3.association)
    if elements ≠ [] then some elements else none

/-- Every group of the list that has a key is told of, once and with its key, and no other; and every
element can be sent. -/
structure Announced (elements : List GroupIdentitySecurityRelatedInformation) : Prop where
  complete : (elements.flatMap (·.associations)).Perm (gssis.dedup.filterMap sc3.association)
  uniform : ∀ element ∈ elements, element.Uniform
  coded : ∀ element ∈ elements, ∃ field, Writes element.toBitbuf field ∧ Reads fromBitbuf field element

variable {sc3} {gssis}

theorem gssis_association {groups : List Nat}
    (keyed : ∀ gssi ∈ groups, (sc3.gcknForGssi gssi).isSome = true) :
    (groups.filterMap sc3.association).map (·.gssi) = groups := by
  induction groups with
  | nil => rfl
  | cons gssi groups ih =>
    obtain ⟨here, rest⟩ := forall_mem_cons.mp keyed
    obtain ⟨gckn, is⟩ := isSome_iff_exists.mp here
    rw [filterMap_cons, association, is, map_some, map_cons, ih rest]

theorem isSome_of_keyed {gssi : Nat} (member : gssi ∈ sc3.keyed gssis) :
    (sc3.gcknForGssi gssi).isSome = true := by
  rw [keyed, mem_dedup, mem_insertionSort, mem_filter] at member
  exact member.2

theorem perm_keyed : ((sc3.keyed gssis).filterMap sc3.association).Perm
    (gssis.dedup.filterMap sc3.association) := by
  have same : (sc3.keyed gssis).Perm
      (gssis.dedup.filter fun gssi => (sc3.gcknForGssi gssi).isSome) := by
    refine (perm_ext_iff_of_nodup (nodup_dedup _) ((nodup_dedup _).filter _)).mpr ?_
    intro gssi
    simp
  refine (same.filterMap _).trans (.of_eq ?_)
  rw [filterMap_filter]
  refine filterMap_congr fun gssi _ => ?_
  cases is : sc3.gcknForGssi gssi <;> simp [association, is]

/-- **The associations of a request are complete exactly if at most thirty groups of the list have a
key**, groups that the encoder takes. -/
theorem announced_iff (linked : sc3.linkedGckCryptoPeriods = true) :
    sc3.Announced gssis ((sc3.groupSecurityInformation gssis).getD []) ↔
      (sc3.keyed gssis).length ≤ 30 ∧ ∀ gssi ∈ sc3.keyed gssis, GckValid gssi := by
  have told : (sc3.groupSecurityInformation gssis).getD [] =
      elementsOf (((sc3.keyed gssis).take 30).filterMap sc3.association) := by
    rw [groupSecurityInformation, if_neg (not_not.mpr linked), normalizedGroupSecurityGssis,
      if_pos linked]
    dsimp only
    split
    · rfl
    next empty =>
      exact (not_not.mp empty).symm
  obtain ⟨uniform, perm⟩ := filled (((sc3.keyed gssis).take 30).filterMap sc3.association)
  rw [← told] at uniform perm
  have numbers := @gssis_association sc3 (sc3.keyed gssis) fun _ member => isSome_of_keyed member
  have cut := @gssis_association sc3 ((sc3.keyed gssis).take 30) fun _ member =>
    isSome_of_keyed (mem_of_mem_take member)
  constructor
  · intro announced
    have whole := congrArg List.length numbers
    rw [length_map, (perm_keyed.trans (announced.complete.symm.trans perm)).length_eq,
      ← length_map, cut, length_take] at whole
    have short : (sc3.keyed gssis).length ≤ 30 := by omega
    refine ⟨short, fun gssi member => ?_⟩
    rw [← take_of_length_le short, ← cut] at member
    obtain ⟨association, among, rfl⟩ := mem_map.mp member
    obtain ⟨element, inside, holds⟩ := mem_flatMap.mp (perm.mem_iff.mpr among)
    obtain ⟨field, written, -⟩ := announced.coded element inside
    exact written.requires requires_toBitbuf association holds
  · rintro ⟨short, valid⟩
    rw [take_of_length_le short] at perm
    refine ⟨perm.trans perm_keyed, uniform, fun element inside => coded (uniform element inside) ?_⟩
    intro association holds
    have among := perm.mem_iff.mp (mem_flatMap.mpr ⟨element, inside, holds⟩)
    exact valid _ (numbers ▸ mem_map.mpr ⟨association, among, rfl⟩)

/-- A cell with a key for each of the groups from 1 to 31. -/
def thirtyOne : RuntimeSc3Aie :=
  { RuntimeSc3Aie.new .tea3 1 0 false false with
    linkedGckCryptoPeriods := true
    groupAssociations := (List.range' 1 31).foldl (fun table gssi => table.insert gssi 1) ∅ }

theorem announced_iff_one :
    thirtyOne.Announced [5] ((thirtyOne.groupSecurityInformation [5]).getD []) :=
  (announced_iff rfl).mpr ⟨by decide +kernel, by decide +kernel⟩

/-- **One association of thirty-one is left out.** -/
theorem thirtyOne_cut : ¬ thirtyOne.Announced (List.range' 1 31)
    ((thirtyOne.groupSecurityInformation (List.range' 1 31)).getD []) := by
  intro announced
  exact absurd announced.complete.length_eq (by decide +kernel)

end RuntimeSc3Aie

end Bluestation
