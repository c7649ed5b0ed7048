/-
**Hangtime: signalling between the fast and the slow control channel of an assigned channel.**

While a call hangs, all frames of its timeslot carry control, and what waits for frame 18 moves to the
queue of all frames. When speech resumes it moves back; grants are withdrawn, and an access still to be
acknowledged is acknowledged by a waiting resource, or recorded.

* `DownlinkScheduler.setHangtime` — the two moves.
* `Entered`, `Left` — what each of them does to the two queues.
* `hangtime_conserves` — **no signalling is lost, doubled or reordered**, and elsewhere nothing changes.
-/

import Bluestation.Umac.CommonControlRuns

namespace Bluestation

variable {Key : Type}

/-! ### Elements -/

namespace DlSchedElem

def isSignalling : DlSchedElem Key → Bool
  | resource .. | fragBuf .. | associatedGrantRequest .. => true
  | _ => false

def isStealing : DlSchedElem Key → Bool
  | stealing .. => true
  | _ => false

/-- The terminal whose access an element acknowledges. -/
def acked : DlSchedElem Key → Option Nat
  | randomAccessAck addr _ => some addr.ssi
  | _ => none

def allowUngranted : DlSchedElem Key → DlSchedElem Key
  | fragBuf fragger txReporter packetDataSlots =>
    fragBuf fragger.allowUngrantedFinalResponse txReporter packetDataSlots
  | elem => elem

/-- A resource for a terminal. -/
def isFor (issi : Nat) : DlSchedElem Key → Bool
  | resource pdu .. => pdu.addr.any (·.ssi = issi)
  | _ => false

def flag : DlSchedElem Key → DlSchedElem Key
  | resource pdu sdu txReporter aieRequest packetDataSlots =>
    resource { pdu with randomAccessFlag := true } sdu txReporter aieRequest packetDataSlots
  | elem => elem

/-- The first resource for a terminal acknowledges its access. -/
def flagFirst (issi : Nat) : List (DlSchedElem Key) → Option (List (DlSchedElem Key))
  | [] => none
  | elem :: rest =>
    if elem.isFor issi then some (elem.flag :: rest) else (flagFirst issi rest).map (elem :: ·)

/-- Without such a resource the access is recorded. -/
def acknowledge (waiting : List (DlSchedElem Key) × List Nat) (issi : Nat) :
    List (DlSchedElem Key) × List Nat :=
  match flagFirst issi waiting.1 with
  | some flagged => (flagged, waiting.2)
  | none => if issi ∈ waiting.2 then waiting else (waiting.1, waiting.2 ++ [issi])

end DlSchedElem

/-! ### The moves -/

namespace DownlinkScheduler

variable (scheduler : DownlinkScheduler Key) (timeslot : Nat)

def moveAssociatedControlToFacch : DownlinkScheduler Key :=
  { scheduler with
    dltxQueues := Function.update scheduler.dltxQueues (timeslot - 1)
      (scheduler.dltxQueues (timeslot - 1) ++
        (scheduler.assocDltxQueues (timeslot - 1)).map DlSchedElem.allowUngranted)
    assocDltxQueues := Function.update scheduler.assocDltxQueues (timeslot - 1) [] }

/-- Grants and broadcasts stay behind. -/
def moveFacchControlToSacch : DownlinkScheduler Key :=
  let queued := scheduler.dltxQueues (timeslot - 1)
  let (moved, pending) := (queued.filterMap DlSchedElem.acked).foldl DlSchedElem.acknowledge
    (queued.filter DlSchedElem.isSignalling, scheduler.pendingRaAcks (timeslot - 1))
  { scheduler with
    dltxQueues :=
      Function.update scheduler.dltxQueues (timeslot - 1) (queued.filter DlSchedElem.isStealing)
    assocDltxQueues := Function.update scheduler.assocDltxQueues (timeslot - 1)
      (scheduler.assocDltxQueues (timeslot - 1) ++ moved)
    pendingRaAcks := Function.update scheduler.pendingRaAcks (timeslot - 1) pending }

def setHangtime (active : Bool) : DownlinkScheduler Key :=
  if ¬ (1 ≤ timeslot ∧ timeslot ≤ 4) ∨ scheduler.hangtime (timeslot - 1) = active then scheduler
  else
    let scheduler :=
      { scheduler with hangtime := Function.update scheduler.hangtime (timeslot - 1) active }
    if active then scheduler.moveAssociatedControlToFacch timeslot
    else scheduler.moveFacchControlToSacch timeslot

/-- What is not stolen is dropped; a grant request that is queued here is not expected. -/
def dropUnstolen (index : Nat) (scheduler : DownlinkScheduler Key) :
    DlSchedElem Key → Except Fault (DownlinkScheduler Key)
  | .stealing block txReporter aieRequest =>
    .ok { scheduler with
      dltxQueues := Function.update scheduler.dltxQueues index
        (scheduler.dltxQueues index ++ [.stealing block txReporter aieRequest]) }
  | .resource _ _ (some txReporter) _ _ =>
    if scheduler.txStates txReporter = .pending then .ok (scheduler.discardPending [txReporter])
    else .error .panic
  | .fragBuf fragger txReporter _ =>
    .ok (scheduler.discardPending (DlSchedElem.droppedFragger fragger txReporter))
  | .randomAccessAck addr _ =>
    .ok { scheduler with
      pendingRaAcks := Function.update scheduler.pendingRaAcks index
        (scheduler.pendingRaAcks index ++ [addr.ssi]) }
  | .associatedGrantRequest .. => .error .panic
  | _ => .ok scheduler

def dlDropAllExceptStolen : Except Fault (DownlinkScheduler Key) :=
  (scheduler.dltxQueues (timeslot - 1)).foldlM (dropUnstolen (timeslot - 1))
    { scheduler with dltxQueues := Function.update scheduler.dltxQueues (timeslot - 1) [] }

end DownlinkScheduler

/-! ### Acknowledgements -/

namespace DlSchedElem

/-- An element that moves is the same, or acknowledges an access besides. -/
def Marks (before after : DlSchedElem Key) : Prop := after = before ∨ after = before.flag

/-- An access is acknowledged by a resource, or recorded. -/
def Carried (waiting : List (DlSchedElem Key) × List Nat) (issi : Nat) : Prop :=
  (∃ elem ∈ waiting.1, elem.isFor issi = true ∧ elem.flag = elem) ∨ issi ∈ waiting.2

variable {before after elem : DlSchedElem Key} {issi : Nat}

@[simp] theorem flag_flag (elem : DlSchedElem Key) : elem.flag.flag = elem.flag := by
  cases elem <;> rfl

@[simp] theorem isFor_flag (elem : DlSchedElem Key) : elem.flag.isFor issi = elem.isFor issi := by
  cases elem <;> rfl

theorem Marks.refl_all (elems : List (DlSchedElem Key)) : List.Forall₂ Marks elems elems :=
  List.forall₂_same.mpr fun _ _ => .inl rfl

theorem Marks.trans (first : Marks before elem) (second : Marks elem after) : Marks before after := by
  obtain rfl | rfl := first
  · exact second
  · obtain rfl | rfl := second
    · exact .inr rfl
    · exact .inr (flag_flag _)

theorem Marks.trans_all {first second third : List (DlSchedElem Key)}
    (marks : List.Forall₂ Marks first second) (more : List.Forall₂ Marks second third) :
    List.Forall₂ Marks first third := by
  induction marks generalizing third with
  | nil => exact more
  | cons head _ ih =>
    cases more with
    | cons next rest => exact .cons (head.trans next) (ih rest)

theorem flagFirst_spec {elems flagged : List (DlSchedElem Key)}
    (found : flagFirst issi elems = some flagged) :
    List.Forall₂ Marks elems flagged ∧
      ∃ elem ∈ flagged, elem.isFor issi = true ∧ elem.flag = elem := by
  induction elems generalizing flagged with
  | nil => cases found
  | cons elem rest ih =>
    unfold flagFirst at found
    split at found
    next here =>
      cases found
      exact ⟨.cons (.inr rfl) (Marks.refl_all rest), elem.flag, List.mem_cons_self,
        (isFor_flag elem).trans here, flag_flag elem⟩
    · obtain ⟨later, foundLater, rfl⟩ := Option.map_eq_some_iff.mp found
      obtain ⟨marks, marked, member, carries⟩ := ih foundLater
      exact ⟨.cons (.inl rfl) marks, marked, List.mem_cons_of_mem _ member, carries⟩

/-- One acknowledgement: its access is carried, and what was carried stays so. -/
theorem acknowledge_spec (waiting : List (DlSchedElem Key) × List Nat) (issi : Nat) :
    List.Forall₂ Marks waiting.1 (acknowledge waiting issi).1 ∧
      waiting.2 ⊆ (acknowledge waiting issi).2 ∧
      (acknowledge waiting issi).2 ⊆ waiting.2 ++ [issi] ∧
      Carried (acknowledge waiting issi) issi := by
  unfold acknowledge
  split
  next flagged found =>
    obtain ⟨marks, carries⟩ := flagFirst_spec found
    exact ⟨marks, .refl _, List.subset_append_left _ _, .inl carries⟩
  · split
    next known =>
      exact ⟨Marks.refl_all _, List.Subset.refl _, List.subset_append_left _ _, .inr known⟩
    · exact ⟨Marks.refl_all _, List.subset_append_left _ _, List.Subset.refl _,
        .inr (List.mem_append_right _ (List.mem_singleton_self _))⟩

theorem Carried.mono {waiting later : List (DlSchedElem Key) × List Nat}
    (carried : Carried waiting issi) (marks : List.Forall₂ Marks waiting.1 later.1)
    (pending : waiting.2 ⊆ later.2) : Carried later issi := by
  obtain ⟨elem, member, answers, flagged⟩ | recorded := carried
  · obtain ⟨index, inside, here⟩ := List.getElem_of_mem member
    have reach : index < later.1.length := marks.length_eq ▸ inside
    have same : later.1[index] = elem := by
      obtain same | same := marks.get inside reach
      · exact same.trans here
      · exact same.trans ((congrArg flag here).trans flagged)
    exact .inl ⟨elem, same ▸ List.getElem_mem reach, answers, flagged⟩
  · exact .inr (pending recorded)

/-- **All acknowledgements**, by induction on them. -/
theorem acknowledge_all (acks : List Nat) (waiting : List (DlSchedElem Key) × List Nat) :
    List.Forall₂ Marks waiting.1 (acks.foldl acknowledge waiting).1 ∧
      waiting.2 ⊆ (acks.foldl acknowledge waiting).2 ∧
      (acks.foldl acknowledge waiting).2 ⊆ waiting.2 ++ acks ∧
      ∀ issi ∈ acks, Carried (acks.foldl acknowledge waiting) issi := by
  induction acks generalizing waiting with
  | nil => exact ⟨Marks.refl_all _, List.Subset.refl _, List.subset_append_left _ _, nofun⟩
  | cons first rest ih =>
    obtain ⟨marks, kept, news, carried⟩ := acknowledge_spec waiting first
    obtain ⟨marksAll, keptAll, newsAll, carriedAll⟩ := ih (acknowledge waiting first)
    refine ⟨?_, List.Subset.trans kept keptAll, fun issi member => ?_, fun issi member => ?_⟩
    · exact Marks.trans_all marks marksAll
    · rcases List.mem_append.mp (newsAll member) with old | new
      · rw [List.append_cons]
        exact List.mem_append_left _ (news old)
      · exact List.mem_append_right _ (List.mem_cons_of_mem _ new)
    · rcases List.mem_cons.mp member with rfl | later
      · exact carried.mono marksAll keptAll
      · exact carriedAll issi later

end DlSchedElem

/-! ### The two moves -/

namespace DownlinkScheduler

open DlSchedElem List Function

/-- Nothing changes but the queues, the recorded accesses and the mode of one timeslot. -/
structure Elsewhere (before after : DownlinkScheduler Key) (index : Nat) : Prop where
  facch : ∀ other ≠ index, after.dltxQueues other = before.dltxQueues other
  sacch : ∀ other ≠ index, after.assocDltxQueues other = before.assocDltxQueues other
  pending : ∀ other ≠ index, after.pendingRaAcks other = before.pendingRaAcks other
  mode : ∀ other ≠ index, after.hangtime other = before.hangtime other
  halfDuplex : after.dltxHalfDuplexQueues = before.dltxHalfDuplexQueues
  nextSlot : after.dltxNextSlotQueue = before.dltxNextSlotQueue
  repeats : after.assocBestEffortQueues = before.assocBestEffortQueues

/-- Hangtime begins: what waited for frame 18 waits behind the rest, in its order. -/
structure Entered (before after : DownlinkScheduler Key) (index : Nat) : Prop where
  facch : after.dltxQueues index =
    before.dltxQueues index ++ (before.assocDltxQueues index).map allowUngranted
  sacch : after.assocDltxQueues index = []
  pending : after.pendingRaAcks index = before.pendingRaAcks index
  elsewhere : Elsewhere before after index

/-- Speech resumes: all signalling waits for frame 18 behind the rest, in its order, and every access
to be acknowledged is acknowledged by it or recorded; of the rest, only stolen blocks stay. -/
structure Left (before after : DownlinkScheduler Key) (index : Nat) : Prop where
  facch : after.dltxQueues index = (before.dltxQueues index).filter isStealing
  sacch : ∃ moved, List.Forall₂ Marks ((before.dltxQueues index).filter isSignalling) moved ∧
    after.assocDltxQueues index = before.assocDltxQueues index ++ moved ∧
    ∀ issi ∈ (before.dltxQueues index).filterMap acked,
      DlSchedElem.Carried (moved, after.pendingRaAcks index) issi
  kept : before.pendingRaAcks index ⊆ after.pendingRaAcks index
  news : after.pendingRaAcks index ⊆
    before.pendingRaAcks index ++ (before.dltxQueues index).filterMap acked
  elsewhere : Elsewhere before after index

/-- All but stolen blocks are dropped, and every access to be acknowledged is recorded. -/
structure Dropped (before after : DownlinkScheduler Key) (index : Nat) : Prop where
  facch : after.dltxQueues index = (before.dltxQueues index).filter isStealing
  sacch : after.assocDltxQueues index = before.assocDltxQueues index
  pending : after.pendingRaAcks index =
    before.pendingRaAcks index ++ (before.dltxQueues index).filterMap acked
  elsewhere : Elsewhere before after index

variable (scheduler : DownlinkScheduler Key) (timeslot : Nat)

/-- Whether a mode is new for a timeslot. -/
def Changes (active : Bool) : Prop :=
  (1 ≤ timeslot ∧ timeslot ≤ 4) ∧ scheduler.hangtime (timeslot - 1) ≠ active

variable {scheduler timeslot}

theorem setHangtime_idle {active : Bool} (idle : ¬ scheduler.Changes timeslot active) :
    scheduler.setHangtime timeslot active = scheduler := by
  unfold setHangtime
  rw [if_pos]
  by_contra changes
  exact idle ⟨not_not.mp fun outside => changes (.inl outside), fun same => changes (.inr same)⟩

theorem entered (changes : scheduler.Changes timeslot true) :
    Entered scheduler (scheduler.setHangtime timeslot true) (timeslot - 1) := by
  unfold setHangtime
  rw [if_neg (not_or.mpr ⟨not_not.mpr changes.1, changes.2⟩)]
  exact ⟨update_self .., update_self .., rfl,
    fun _ different => update_of_ne different .., fun _ different =>
      update_of_ne different .., fun _ _ => rfl, fun _ different =>
      update_of_ne different .., rfl, rfl, rfl⟩

theorem left (changes : scheduler.Changes timeslot false) :
    Left scheduler (scheduler.setHangtime timeslot false) (timeslot - 1) := by
  obtain ⟨marks, kept, news, carried⟩ := acknowledge_all
    ((scheduler.dltxQueues (timeslot - 1)).filterMap acked)
    ((scheduler.dltxQueues (timeslot - 1)).filter isSignalling, scheduler.pendingRaAcks (timeslot - 1))
  unfold setHangtime
  rw [if_neg (not_or.mpr ⟨not_not.mpr changes.1, changes.2⟩), if_neg Bool.false_ne_true]
  dsimp only [moveFacchControlToSacch]
  refine ⟨update_self .., ⟨_, marks, update_self .., ?_⟩, ?_, ?_,
    fun _ different => update_of_ne different .., fun _ different =>
      update_of_ne different .., fun _ different => update_of_ne different ..,
    fun _ different => update_of_ne different .., rfl, rfl, rfl⟩ <;>
  dsimp only <;>
  rw [update_self]
  exacts [carried, kept, news]

/-! ### Dropping -/

/-- Some elements have been gone through. -/
structure Drops (elems : List (DlSchedElem Key)) (before after : DownlinkScheduler Key) (index : Nat) :
    Prop where
  facch : after.dltxQueues index = before.dltxQueues index ++ elems.filter isStealing
  sacch : after.assocDltxQueues index = before.assocDltxQueues index
  pending : after.pendingRaAcks index = before.pendingRaAcks index ++ elems.filterMap acked
  elsewhere : Elsewhere before after index

variable {index : Nat} {after : DownlinkScheduler Key} {elem : DlSchedElem Key}

/-- Only reporters are told. -/
theorem Drops.of_told (notStolen : elem.isStealing = false) (noAck : elem.acked = none)
    (told : List ReporterName) : Drops [elem] scheduler (scheduler.discardPending told) index := by
  refine ⟨?_, rfl, ?_, fun _ _ => rfl, fun _ _ => rfl, fun _ _ => rfl, fun _ _ => rfl, rfl, rfl, rfl⟩
  · rw [filter_cons, if_neg (by rw [notStolen]; decide), filter_nil, append_nil]
    rfl
  · rw [filterMap_cons_none noAck, filterMap_nil, append_nil]
    rfl

theorem dropUnstolen_spec (ran : dropUnstolen index scheduler elem = .ok after) :
    Drops [elem] scheduler after index := by
  have silent : scheduler.discardPending [] = scheduler := by
    unfold discardPending
    simp
  cases elem with
  | stealing block txReporter aieRequest =>
    cases ran
    exact ⟨update_self .., rfl, (append_nil _).symm,
      fun _ different => update_of_ne different .., fun _ _ => rfl, fun _ _ => rfl,
      fun _ _ => rfl, rfl, rfl, rfl⟩
  | randomAccessAck addr aieRequest =>
    cases ran
    exact ⟨(append_nil _).symm, rfl, update_self .., fun _ _ => rfl, fun _ _ => rfl,
      fun _ different => update_of_ne different .., fun _ _ => rfl, rfl, rfl, rfl⟩
  | associatedGrantRequest addr resReq requestedSlots => cases ran
  | fragBuf fragger txReporter packetDataSlots =>
    cases ran
    exact .of_told rfl rfl _
  | resource pdu sdu txReporter aieRequest packetDataSlots =>
    cases txReporter with
    | none =>
      cases ran
      exact silent ▸ Drops.of_told rfl rfl []
    | some reporter =>
      dsimp only [dropUnstolen] at ran
      split at ran
      · cases ran
        exact .of_told rfl rfl _
      · cases ran
  | broadcast =>
    cases ran
    exact silent ▸ Drops.of_told rfl rfl []
  | grant addr granted =>
    cases ran
    exact silent ▸ Drops.of_told rfl rfl []

theorem dropUnstolen_all (elems : List (DlSchedElem Key))
    (ran : elems.foldlM (dropUnstolen index) scheduler = .ok after) :
    Drops elems scheduler after index := by
  induction elems generalizing scheduler with
  | nil =>
    cases ran
    exact ⟨(append_nil _).symm, rfl, (append_nil _).symm, fun _ _ => rfl, fun _ _ => rfl,
      fun _ _ => rfl, fun _ _ => rfl, rfl, rfl, rfl⟩
  | cons elem rest ih =>
    obtain ⟨mid, dropped, ran⟩ := bind_eq_ok.mp ran
    obtain ⟨facch, sacch, pending, first⟩ := dropUnstolen_spec dropped
    obtain ⟨facchAll, sacchAll, pendingAll, later⟩ := ih ran
    refine ⟨?_, sacchAll.trans sacch, ?_, fun other different =>
      (later.facch other different).trans (first.facch other different), fun other different =>
      (later.sacch other different).trans (first.sacch other different), fun other different =>
      (later.pending other different).trans (first.pending other different), fun other different =>
      (later.mode other different).trans (first.mode other different),
      later.halfDuplex.trans first.halfDuplex, later.nextSlot.trans first.nextSlot,
      later.repeats.trans first.repeats⟩
    · rw [facchAll, facch, append_assoc, ← filter_append, singleton_append]
    · rw [pendingAll, pending, append_assoc, ← filterMap_append, singleton_append]

theorem dropped (ran : scheduler.dlDropAllExceptStolen timeslot = .ok after) :
    Dropped scheduler after (timeslot - 1) := by
  obtain ⟨facch, sacch, pending, elsewhere⟩ := dropUnstolen_all _ ran
  refine ⟨facch.trans ?_, sacch, pending, { elsewhere with
    facch := fun other different => (elsewhere.facch other different).trans ?_ }⟩
  · dsimp only
    rw [update_self, nil_append]
  · exact update_of_ne different ..

/-! ### Both moves -/

/-- Without an access to be acknowledged nothing is marked. -/
theorem left_quiet (changes : scheduler.Changes timeslot false)
    (quiet : (scheduler.dltxQueues (timeslot - 1)).filterMap acked = []) :
    (scheduler.setHangtime timeslot false).assocDltxQueues (timeslot - 1) =
        scheduler.assocDltxQueues (timeslot - 1) ++
          (scheduler.dltxQueues (timeslot - 1)).filter isSignalling ∧
      (scheduler.setHangtime timeslot false).pendingRaAcks (timeslot - 1) =
        scheduler.pendingRaAcks (timeslot - 1) ∧
      (scheduler.setHangtime timeslot false).hangtime (timeslot - 1) = false := by
  unfold setHangtime
  rw [if_neg (not_or.mpr ⟨not_not.mpr changes.1, changes.2⟩)]
  dsimp only [moveFacchControlToSacch]
  rw [quiet]
  exact ⟨update_self .., update_self .., update_self ..⟩

theorem acked_of_stealing (stolen : elem.isStealing = true) :
    elem.acked = none ∧ elem.isSignalling = false := by
  cases elem <;> first | exact ⟨rfl, rfl⟩ | cases stolen

theorem acked_of_signalling (signals : elem.isSignalling = true) :
    elem.allowUngranted.acked = none ∧ elem.allowUngranted.isStealing = false ∧
      elem.allowUngranted.isSignalling = true := by
  cases elem <;> first | exact ⟨rfl, rfl, rfl⟩ | cases signals

/-- **Entering and leaving** a timeslot with only stolen blocks in one queue and only signalling in the
other leaves both as they were, but that fragmented messages need no grant for their end. -/
theorem there_and_back (changes : scheduler.Changes timeslot true)
    (stolen : ∀ elem ∈ scheduler.dltxQueues (timeslot - 1), elem.isStealing = true)
    (signals : ∀ elem ∈ scheduler.assocDltxQueues (timeslot - 1), elem.isSignalling = true) :
    let after := (scheduler.setHangtime timeslot true).setHangtime timeslot false
    after.dltxQueues = scheduler.dltxQueues ∧
      after.assocDltxQueues = Function.update scheduler.assocDltxQueues (timeslot - 1)
        ((scheduler.assocDltxQueues (timeslot - 1)).map allowUngranted) ∧
      after.pendingRaAcks = scheduler.pendingRaAcks ∧ after.hangtime = scheduler.hangtime := by
  obtain ⟨facch, sacch, pending, elsewhere⟩ := entered changes
  have mode : (scheduler.setHangtime timeslot true).hangtime (timeslot - 1) = true := by
    unfold setHangtime
    rw [if_neg (not_or.mpr ⟨not_not.mpr changes.1, changes.2⟩)]
    exact update_self ..
  have back : (scheduler.setHangtime timeslot true).Changes timeslot false :=
    ⟨changes.1, by rw [mode]; decide⟩
  have wasOff : scheduler.hangtime (timeslot - 1) = false := Bool.eq_false_iff.mpr changes.2
  have moved : ∀ elem ∈ (scheduler.assocDltxQueues (timeslot - 1)).map allowUngranted,
      elem.acked = none ∧ elem.isStealing = false ∧ elem.isSignalling = true := by
    intro elem member
    obtain ⟨before, there, rfl⟩ := mem_map.mp member
    exact acked_of_signalling (signals before there)
  have quiet :
      ((scheduler.setHangtime timeslot true).dltxQueues (timeslot - 1)).filterMap acked = [] := by
    rw [facch, filterMap_append, append_eq_nil_iff, filterMap_eq_nil_iff, filterMap_eq_nil_iff]
    exact ⟨fun elem member => (acked_of_stealing (stolen elem member)).1,
      fun elem member => (moved elem member).1⟩
  obtain ⟨sacchAfter, pendingAfter, modeAfter⟩ := left_quiet back quiet
  obtain ⟨facchAfter, -, -, -, elsewhereAfter⟩ := left back
  refine ⟨funext fun other => ?_, funext fun other => ?_, funext fun other => ?_,
    funext fun other => ?_⟩ <;> by_cases same : other = timeslot - 1
  · subst same
    rw [facchAfter, facch, filter_append, filter_eq_self.mpr stolen,
      filter_eq_nil_iff.mpr fun elem member => by rw [(moved elem member).2.1]; decide,
      append_nil]
  · exact (elsewhereAfter.facch other same).trans (elsewhere.facch other same)
  · subst same
    rw [sacchAfter, sacch, facch, nil_append, filter_append, update_self,
      filter_eq_nil_iff.mpr fun elem member => by
        rw [(acked_of_stealing (stolen elem member)).2]; decide,
      nil_append, filter_eq_self.mpr fun elem member => (moved elem member).2.2]
  · rw [update_of_ne same]
    exact (elsewhereAfter.sacch other same).trans (elsewhere.sacch other same)
  · subst same
    exact pendingAfter.trans pending
  · exact (elsewhereAfter.pending other same).trans (elsewhere.pending other same)
  · subst same
    exact modeAfter.trans wasOff.symm
  · exact (elsewhereAfter.mode other same).trans (elsewhere.mode other same)

/-- **main result** — entering and leaving hangtime, and dropping all but stolen blocks, do to the
queues of their timeslot what `Entered`, `Left` and `Dropped` say, and nothing to other timeslots;
entering and leaving at once leaves stolen blocks and signalling as they were. -/
theorem hangtime_conserves (scheduler : DownlinkScheduler Key) (timeslot : Nat) :
    (∀ active, ¬ scheduler.Changes timeslot active →
      scheduler.setHangtime timeslot active = scheduler) ∧
    (scheduler.Changes timeslot true →
      Entered scheduler (scheduler.setHangtime timeslot true) (timeslot - 1)) ∧
    (scheduler.Changes timeslot false →
      Left scheduler (scheduler.setHangtime timeslot false) (timeslot - 1)) ∧
    (∀ after, scheduler.dlDropAllExceptStolen timeslot = .ok after →
      Dropped scheduler after (timeslot - 1)) ∧
    (scheduler.Changes timeslot true →
      (∀ elem ∈ scheduler.dltxQueues (timeslot - 1), elem.isStealing = true) →
      (∀ elem ∈ scheduler.assocDltxQueues (timeslot - 1), elem.isSignalling = true) →
        let after := (scheduler.setHangtime timeslot true).setHangtime timeslot false
        after.dltxQueues = scheduler.dltxQueues ∧
          after.assocDltxQueues = Function.update scheduler.assocDltxQueues (timeslot - 1)
            ((scheduler.assocDltxQueues (timeslot - 1)).map allowUngranted) ∧
          after.pendingRaAcks = scheduler.pendingRaAcks ∧ after.hangtime = scheduler.hangtime) :=
  ⟨fun _ => setHangtime_idle, entered, left, fun _ => dropped, there_and_back⟩

/-- A hanging call with an access to be acknowledged, and a message for the terminal. -/
def answering : DownlinkScheduler Unit :=
  { CommonControlState.idleScheduler with
    hangtime := fun _ => true
    dltxQueues := fun _ =>
      [.randomAccessAck ⟨5, .issi⟩ (.clear (.individual 5) .macResource),
        .resource { lengthInd := 6, addr := some ⟨5, .issi⟩ } (.ofBits []) none
          (.clear (.individual 5) .macResource) none] }

theorem answering_left : Left answering (answering.setHangtime 2 false) 1 :=
  (hangtime_conserves answering 2).2.2.1 ⟨by decide, by decide⟩

/-- **An acknowledgement is neither queued nor recorded** when a waiting message takes it over. -/
theorem ack_taken_over :
    ¬ ∀ (scheduler : DownlinkScheduler Unit) (timeslot : Nat) (active : Bool) (addr : TetraAddress)
        (request : AieRequest Unit),
      .randomAccessAck addr request ∈ scheduler.dltxQueues (timeslot - 1) →
        .randomAccessAck addr request ∈
          (scheduler.setHangtime timeslot active).dltxQueues (timeslot - 1) ++
            (scheduler.setHangtime timeslot active).assocDltxQueues (timeslot - 1) ∨
        addr.ssi ∈ (scheduler.setHangtime timeslot active).pendingRaAcks (timeslot - 1) := by
  intro kept
  obtain queued | recorded := kept answering 2 false ⟨5, .issi⟩ _ mem_cons_self
  · have moved : (answering.setHangtime 2 false).dltxQueues 1 ++
        (answering.setHangtime 2 false).assocDltxQueues 1 =
      [.resource { lengthInd := 6, addr := some ⟨5, .issi⟩, randomAccessFlag := true } (.ofBits [])
        none (.clear (.individual 5) .macResource) none] := rfl
    rw [moved] at queued
    simp at queued
  · cases recorded

end DownlinkScheduler

end Bluestation
