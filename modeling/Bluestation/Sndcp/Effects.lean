/-
**What every operation does to contexts, bearers and slots.**

An operation is seen by what it leaves in the four tables that hang together (its core), and by the
control messages that it sends to the MAC.

* `Sndcp.releaseBearer_cases`, `Sndcp.leaveBearer_cases` — a bearer and a membership end.
* `Sndcp.reserveBearer_cases`, `Sndcp.startBearerResize_cases`, `Sndcp.commitBearerResize_cases`,
  `Sndcp.rollbackBearerResize_cases`, `Sndcp.announceDrain_cases` — the life of a bearer.
-/

import Bluestation.Sndcp.Swmi

namespace Bluestation

open List Option Table RadioContext

/-- The tables of contexts, bearers, slots and outstanding commands. -/
structure SndcpCore where
  contexts : Table RadioContext
  bearers : Table Bearer
  timeslotAlloc : TimeslotAllocator
  pendingCommands : Table Nat

def SndcpOutput.toControl : SndcpOutput → Option PacketBearerControl
  | packetBearerControl control => some control
  | _ => none

namespace Sndcp

def core (s : Sndcp) : SndcpCore := ⟨s.contexts, s.bearers, s.timeslotAlloc, s.pendingCommands⟩

def controls (s : Sndcp) : List PacketBearerControl := s.queue.filterMap SndcpOutput.toControl

def label (s : Sndcp) (issi : Nat) : Option Nat :=
  (s.contexts.lookup issi).bind RadioContext.eventLabel

def Idle (s next : Sndcp) : Prop := next.core = s.core ∧ next.controls = s.controls

variable (s : Sndcp)

/-! ### What is sent -/

theorem controls_control (control : PacketBearerControl) :
    (s.control control).controls = s.controls ++ [control] := by
  simp [controls, Sndcp.control, push, SndcpOutput.toControl]

theorem controls_queueDownlink (context : RadioContext) (pdu : SndcpDownlink)
    (service : Layer2Service) (chanAlloc : Option CmceChanAllocReq) (reporter : Option Nat) :
    (s.queueDownlink context pdu service chanAlloc reporter).controls = s.controls := by
  unfold controls queueDownlink
  split <;> simp [SndcpOutput.toControl]

theorem controls_queueStandaloneChannelAllocations (contexts : List RadioContext)
    (bitmap : SlotBitmap) :
    (s.queueStandaloneChannelAllocations contexts bitmap).controls = s.controls := by
  simp [controls, queueStandaloneChannelAllocations, SndcpOutput.toControl, filterMap_map,
    Function.comp_def]

theorem controls_queueEndsOfData (contexts : List RadioContext) (immediate : Bool) :
    (s.queueEndsOfData contexts immediate).controls = s.controls := by
  simp [controls, queueEndsOfData, SndcpOutput.toControl, filterMap_map, Function.comp_def]

/-! ### The end of a bearer -/

theorem detachMember_spec (id generation issi : Nat) : (detachMember id generation s issi).core =
        { s.core with contexts := s.contexts.modify issi RadioContext.detached } ∧
      (detachMember id generation s issi).controls =
        s.controls ++ (s.label issi).toList.map (.detach id generation ·) := by
  unfold detachMember label Table.modify
  split
  next missing =>
    rw [missing]
    exact ⟨rfl, (append_nil _).symm⟩
  next context found =>
    rw [found]
    cases labelled : context.eventLabel with
    | none => exact ⟨rfl, by simp [controls, labelled]⟩
    | some eventLabel =>
      rw [bind_some, labelled]
      exact ⟨rfl, controls_control s _⟩

/-- **Members are taken off one by one**: each label of one of them is detached. -/
theorem detachMembers_spec (id generation : Nat) (members : List Nat) :
    (members.foldl (detachMember id generation) s).core =
        { s.core with
          contexts := members.foldl
            (fun contexts issi => Table.modify contexts issi detached) s.contexts } ∧
      ∃ gone : List Nat, (members.foldl (detachMember id generation) s).controls =
          s.controls ++ gone.map (.detach id generation ·) ∧
        ∀ eventLabel, eventLabel ∈ gone ↔ ∃ issi ∈ members, s.label issi = some eventLabel := by
  induction members generalizing s with
  | nil => exact ⟨rfl, [], by simp, by simp⟩
  | cons first rest ih =>
    obtain ⟨core, controls⟩ := detachMember_spec s id generation first
    obtain ⟨rest_core, gone, rest_controls, labels⟩ := ih (detachMember id generation s first)
    have contexts : (detachMember id generation s first).contexts =
        s.contexts.modify first RadioContext.detached := congrArg (·.contexts) core
    refine ⟨?_, (s.label first).toList ++ gone, ?_, fun eventLabel => ?_⟩
    · rw [foldl_cons, rest_core, core, contexts]
      rfl
    · rw [foldl_cons, rest_controls, controls, map_append, append_assoc]
    · have later (issi : Nat) : (detachMember id generation s first).label issi =
          if issi = first then none else s.label issi := by
        unfold label
        rw [contexts, lookup_modify]
        split
        · cases s.contexts.lookup first <;> rfl
        · rfl
      simp only [mem_append, mem_toList, labels, later, mem_cons,
        exists_eq_or_imp]
      by_cases here : s.label first = some eventLabel
      · simp [here]
      · simp only [here, false_or]
        refine exists_congr fun issi => and_congr_right fun _ => ?_
        split
        next same =>
          rw [same]
          exact iff_of_false nofun here
        · exact Iff.rfl

def has (id generation : Nat) (bearer : Bearer) : Prop :=
  s.bearers.lookup id = some bearer ∧ bearer.generation = generation

variable {id generation : Nat}

theorem filter_generation {bearer : Bearer} :
    (s.bearers.lookup id).filter (·.generation = generation) = some bearer ↔
      s.has id generation bearer := by
  rw [filter_eq_some_iff, decide_eq_true_eq]
  exact Iff.rfl

/-- **A bearer is released**, or there was none of this generation. -/
theorem releaseBearer_cases (id generation : Nat) (forced : Bool) :
    s.releaseBearer id generation forced = s ∧ (∀ bearer, ¬ s.has id generation bearer) ∨
      ∃ bearer, s.has id generation bearer ∧ (s.releaseBearer id generation forced).core =
          ⟨bearer.members.foldl
              (fun contexts issi => Table.modify contexts issi detached) s.contexts,
            s.bearers.erase id,
            s.timeslotAlloc.releaseEach .packetData bearer.reservedBitmap, s.pendingCommands⟩ ∧
        ∃ gone : List Nat, (s.releaseBearer id generation forced).controls = s.controls ++
            gone.map (.detach bearer.id generation ·) ++ [.close bearer.id generation forced] ∧
          ∀ eventLabel, eventLabel ∈ gone ↔
            ∃ issi ∈ bearer.members, s.label issi = some eventLabel := by
  unfold releaseBearer
  split
  next missing =>
    refine .inl ⟨rfl, fun bearer present => ?_⟩
    rw [present.1] at missing
    cases missing
  next bearer found =>
    split
    next other =>
      refine .inl ⟨rfl, fun bearer' present => other ?_⟩
      obtain ⟨found', generation'⟩ := present
      cases found.symm.trans found'
      exact generation'
    next same =>
      have same := not_not.mp same
      obtain ⟨core, gone, controls, labels⟩ := detachMembers_spec
        (({ s with bearers := s.bearers.erase id } : Sndcp).releaseSlots bearer.reservedBitmap)
        bearer.id bearer.generation bearer.members
      refine .inr ⟨bearer, ⟨found, same⟩, core, gone, ?_, labels⟩
      rw [← same]
      exact (controls_control _ _).trans (congrArg (· ++ _) controls)

/-- **A terminal leaves its bearer**: others stay, or it was the last one. -/
theorem leaveBearer_cases (issi id generation eventLabel : Nat) :
    s.leaveBearer issi id generation eventLabel = s ∧ (∀ bearer, ¬ s.has id generation bearer) ∨
      ∃ bearer, s.has id generation bearer ∧ ((bearer.removeMember issi).members ≠ [] ∧
            (s.leaveBearer issi id generation eventLabel).core =
              { s.core with bearers := s.bearers.insert id (bearer.removeMember issi) } ∧
            (s.leaveBearer issi id generation eventLabel).controls =
              s.controls ++ [.detach id generation eventLabel] ∨
          (bearer.removeMember issi).members = [] ∧
            (s.leaveBearer issi id generation eventLabel).core =
              ⟨s.contexts, (s.bearers.insert id (bearer.removeMember issi)).erase id,
                s.timeslotAlloc.releaseEach .packetData bearer.reservedBitmap,
                s.pendingCommands⟩ ∧
            (s.leaveBearer issi id generation eventLabel).controls =
              s.controls ++ [.detach id generation eventLabel,
                .close bearer.id generation false]) := by
  unfold leaveBearer
  split
  next missing =>
    refine .inl ⟨rfl, fun bearer present => ?_⟩
    rw [(filter_generation s).mpr present] at missing
    cases missing
  next bearer found =>
    have present := (filter_generation s).mp found
    refine .inr ⟨bearer, present, ?_⟩
    dsimp only
    split
    · rename_i empty
      have empty := isEmpty_iff.mp empty
      refine .inr ⟨empty, ?_⟩
      have still : (({ s with bearers := s.bearers.insert id (bearer.removeMember issi) } :
          Sndcp).control (.detach id generation eventLabel)).has id generation
            (bearer.removeMember issi) :=
        ⟨AList.lookup_insert s.bearers, present.2⟩
      rcases releaseBearer_cases
          (({ s with bearers := s.bearers.insert id (bearer.removeMember issi) } :
            Sndcp).control (.detach id generation eventLabel)) id generation false with
        ⟨-, none⟩ | ⟨released, found', core, gone, controls, labels⟩
      · exact absurd still (none _)
      · have same : released = bearer.removeMember issi := some.inj (found'.1.symm.trans still.1)
        rw [same] at core controls labels
        have nobody : gone = [] := by
          refine eq_nil_iff_forall_not_mem.mpr fun eventLabel member => ?_
          obtain ⟨other, inside, -⟩ := (labels eventLabel).mp member
          rw [empty] at inside
          cases inside
        rw [nobody, map_nil, append_nil] at controls
        rw [empty] at core
        refine ⟨core, ?_⟩
        rw [controls, controls_control, append_assoc]
        rfl
    next others =>
      refine .inl ⟨fun empty => others (isEmpty_iff.mpr empty), rfl, ?_⟩
      exact controls_control _ _

theorem leaveBearer_spec {bearer : Bearer}
    (present : s.has id generation bearer) (issi eventLabel : Nat) :
    (∀ other, (s.leaveBearer issi id generation eventLabel).bearers.lookup other =
      if other = id then
        if (bearer.removeMember issi).members = [] then none else some (bearer.removeMember issi)
      else s.bearers.lookup other) ∧
    (s.leaveBearer issi id generation eventLabel).controls = s.controls ++
      .detach id generation eventLabel ::
        if (bearer.removeMember issi).members = [] then [.close bearer.id generation false]
        else [] := by
  rcases leaveBearer_cases s issi id generation eventLabel with ⟨-, absent⟩ | ⟨left, found, ended⟩
  · exact absurd present (absent bearer)
  · have same : left = bearer := some.inj (found.1.symm.trans present.1)
    rw [same] at ended
    rcases ended with ⟨others, core, controls⟩ | ⟨last, core, controls⟩
    · rw [if_neg others, if_neg others]
      refine ⟨fun other => ?_, controls⟩
      refine (congrArg (AList.lookup other) (congrArg (·.bearers) core)).trans ?_
      exact Table.lookup_insert_eq _ _ _ _
    · rw [if_pos last, if_pos last]
      refine ⟨fun other => ?_, controls⟩
      refine (congrArg (AList.lookup other) (congrArg (·.bearers) core)).trans ?_
      rw [Table.lookup_erase_eq, Table.lookup_insert_eq]
      split <;> rfl

/-- Leaving depends on the bearers and the slots, and leaves the contexts as they are. -/
theorem leaveBearer_congr {first second : Sndcp}
    (core : first.core = { second.core with contexts := first.contexts })
    (controls : first.controls = second.controls) (issi id generation eventLabel : Nat) :
    (first.leaveBearer issi id generation eventLabel).core =
        { (second.leaveBearer issi id generation eventLabel).core with
          contexts := first.contexts } ∧
      (first.leaveBearer issi id generation eventLabel).controls =
        (second.leaveBearer issi id generation eventLabel).controls := by
  have bearers : first.bearers = second.bearers := congrArg (·.bearers) core
  have slots : first.timeslotAlloc = second.timeslotAlloc :=
    congrArg (·.timeslotAlloc) core
  have commands : first.pendingCommands = second.pendingCommands :=
    congrArg (·.pendingCommands) core
  have same (bearer : Bearer) : first.has id generation bearer ↔ second.has id generation bearer := by
    unfold has
    rw [bearers]
  rcases leaveBearer_cases first issi id generation eventLabel with
    ⟨idle, absent⟩ | ⟨bearer, present, first_cases⟩
  · rcases leaveBearer_cases second issi id generation eventLabel with
      ⟨idle', -⟩ | ⟨bearer, present, -⟩
    · rw [idle, idle']
      exact ⟨core, controls⟩
    · exact absurd ((same bearer).mpr present) (absent bearer)
  · rcases leaveBearer_cases second issi id generation eventLabel with
      ⟨-, absent⟩ | ⟨other, present', second_cases⟩
    · exact absurd ((same bearer).mp present) (absent bearer)
    · have one : bearer = other := some.inj (((same bearer).mp present).1.symm.trans present'.1)
      rw [← one] at second_cases
      rcases first_cases with ⟨others, coreF, controlsF⟩ | ⟨last, coreF, controlsF⟩
      · rcases second_cases with ⟨-, coreS, controlsS⟩ | ⟨last, -⟩
        · rw [coreF, coreS, controlsF, controlsS, controls, bearers, core]
          exact ⟨rfl, rfl⟩
        · exact absurd last others
      · rcases second_cases with ⟨others, -⟩ | ⟨-, coreS, controlsS⟩
        · exact absurd last others
        · rw [coreF, coreS, controlsF, controlsS, controls, bearers, slots, commands]
          exact ⟨rfl, rfl⟩

/-! ### The life of a bearer -/

/-- The bearer that a reservation opens. -/
def openedBearer (commandId id generation : Nat) (requested allocated : SlotBitmap) : Bearer where
  id
  generation
  timeslotBitmap := allocated
  desiredTimeslotBitmap := requested &&& 0b1110
  members := []
  draining := false
  releaseAt := none
  forceAt := none
  commandId
  drainReporters := []
  resize := none
  expandNotBefore := none

/-- **A bearer is opened for an outstanding command**, or nothing is opened. -/
theorem reserveBearer_cases (commandId id generation : Nat) (requested : SlotBitmap) :
    s.Idle (s.reserveBearer commandId id generation requested) ∨ (s.obtainable requested = 0 ∧
        (s.reserveBearer commandId id generation requested).core =
          { s.core with
            timeslotAlloc := (s.timeslotAlloc.reserveEach .packetData requested).1 } ∧
        (s.reserveBearer commandId id generation requested).controls = s.controls) ∨
      (s.bearers.lookup id = none ∧ (s.pendingCommands.lookup commandId).isSome = true ∧
        s.obtainable requested ≠ 0 ∧
        (s.reserveBearer commandId id generation requested).core =
          { s.core with
            timeslotAlloc := (s.timeslotAlloc.reserveEach .packetData requested).1
            bearers := s.bearers.insert id
              (openedBearer commandId id generation requested (s.obtainable requested)) } ∧
        (s.reserveBearer commandId id generation requested).controls =
          s.controls ++ [.opened id generation (s.obtainable requested)]) := by
  unfold reserveBearer
  dsimp only
  split
  · split <;> exact .inl ⟨rfl, rfl⟩
  next missing =>
    split
    · exact .inl ⟨rfl, rfl⟩
    next outstanding =>
      split
      next none =>
        exact .inr (.inl ⟨none, rfl, rfl⟩)
      next some =>
        refine .inr (.inr ⟨missing, ?_, some, rfl, controls_control _ _⟩)
        cases command : s.pendingCommands.lookup commandId with
        | none => exact absurd (congrArg Option.isNone command) outstanding
        | some _ => rfl

def told (id generation : Nat) (members : List Nat) : List RadioContext :=
  ((s.toldOfResize id generation members).filterMap s.contexts.lookup).filter
    (·.names id generation)

/-- The resize that is started. -/
def startedResize (bearer : Bearer) (id generation : Nat) (toBitmap expansionBitmap : SlotBitmap) :
    PendingBearerResize where
  fromBitmap := bearer.timeslotBitmap
  toBitmap
  expansionBitmap
  reporters := s.nextReporters (s.told id generation bearer.members)
  deadline := s.dltime.addTimeslots pdchResizeTimeoutTimeslots
  commitAt := if (s.toldOfResize id generation bearer.members).isEmpty then some s.dltime else none

/-- **A resize is started** on a bearer that neither drains nor is being resized. -/
theorem startBearerResize_cases (id generation : Nat) (toBitmap expansionBitmap : SlotBitmap) :
    s.startBearerResize id generation toBitmap expansionBitmap = s ∧
        (∀ bearer, s.has id generation bearer → bearer.draining = false → bearer.resize = none →
          toBitmap = 0 ∨ toBitmap = bearer.timeslotBitmap) ∨
      ∃ bearer, s.has id generation bearer ∧ bearer.draining = false ∧ bearer.resize = none ∧
        toBitmap ≠ 0 ∧ toBitmap ≠ bearer.timeslotBitmap ∧
        (s.startBearerResize id generation toBitmap expansionBitmap).core =
          { s.core with
            bearers := s.bearers.insert id
              { bearer with
                resize := some (s.startedResize bearer id generation toBitmap expansionBitmap) } } ∧
        (s.startBearerResize id generation toBitmap expansionBitmap).controls = s.controls ++
          if expansionBitmap ≠ 0 then [.resize id generation toBitmap] else [] := by
  unfold startBearerResize
  split
  next missing =>
    refine .inl ⟨rfl, fun bearer present steady idle => ?_⟩
    rw [present.1, filter_some, if_pos] at missing
    · cases missing
    · simp [present.2, steady, idle]
  next bearer found =>
    obtain ⟨found, fits⟩ := filter_eq_some_iff.mp found
    simp only [Bool.and_eq_true, decide_eq_true_eq, Bool.not_eq_true', isNone_iff_eq_none]
      at fits
    split
    next trivial' =>
      simp only [Bool.or_eq_true, decide_eq_true_eq] at trivial'
      refine .inl ⟨rfl, fun other present _ _ => ?_⟩
      have same : bearer = other := some.inj (found.symm.trans present.1)
      rw [← same]
      exact trivial'
    next proper =>
      simp only [Bool.or_eq_true, decide_eq_true_eq, not_or] at proper
      refine .inr ⟨bearer, ⟨found, fits.1.1⟩, fits.1.2, fits.2, proper.1, proper.2, ?_⟩
      by_cases expands : expansionBitmap ≠ 0
      · rw [if_pos expands, if_pos expands]
        refine ⟨rfl, ?_⟩
        exact (controls_queueStandaloneChannelAllocations _ _ _).trans (controls_control _ _)
      · rw [if_neg expands, if_neg expands, append_nil]
        exact ⟨rfl, controls_queueStandaloneChannelAllocations _ _ _⟩

/-- The bearer after its resize. -/
def committed (bearer : Bearer) (resize : PendingBearerResize) : Bearer :=
  { bearer with
    resize := none
    timeslotBitmap := resize.toBitmap
    expandNotBefore :=
      if resize.expansionBitmap = 0 then some (s.dltime.addTimeslots (18 * 4)) else none }

/-- **A resize is committed**: a shrink gives its slots back, and the members have the new slots. -/
theorem commitBearerResize_cases (id generation : Nat) : s.commitBearerResize id generation = s ∨
      ∃ bearer resize, s.has id generation bearer ∧ bearer.resize = some resize ∧
        (s.commitBearerResize id generation).core =
          { s.core with
            bearers := s.bearers.insert id (s.committed bearer resize)
            contexts := bearer.members.foldl (fun contexts issi =>
              Table.modify contexts issi fun context =>
                { context with timeslotBitmap := resize.toBitmap }) s.contexts
            timeslotAlloc := if resize.expansionBitmap = 0 then
              s.timeslotAlloc.releaseEach .packetData (resize.fromBitmap &&& ~~~resize.toBitmap)
              else s.timeslotAlloc } ∧
        (s.commitBearerResize id generation).controls = s.controls ++
          if resize.expansionBitmap = 0 then [.resize id generation resize.toBitmap] else [] := by
  unfold commitBearerResize
  split
  · exact .inl rfl
  next bearer found =>
    split
    · exact .inl rfl
    next resize resizing =>
      refine .inr ⟨bearer, resize, (filter_generation s).mp found, resizing, ?_⟩
      by_cases shrinks : resize.expansionBitmap = 0
      · simp only [shrinks]
        refine ⟨?_, controls_control _ _⟩
        unfold committed
        rw [if_pos shrinks]
        rfl
      · simp only [shrinks]
        refine ⟨?_, (append_nil _).symm⟩
        unfold committed
        rw [if_neg shrinks]
        rfl

/-- **A resize is taken back**: an expansion gives its slots back. -/
theorem rollbackBearerResize_cases (id generation : Nat) : s.rollbackBearerResize id generation = s ∧
        (∀ bearer, s.has id generation bearer → bearer.resize = none) ∨
      ∃ bearer resize, s.has id generation bearer ∧ bearer.resize = some resize ∧
        (s.rollbackBearerResize id generation).core =
          { s.core with
            bearers := s.bearers.insert id { bearer with resize := none }
            timeslotAlloc := if resize.expansionBitmap = 0 then s.timeslotAlloc else
              s.timeslotAlloc.releaseEach .packetData resize.expansionBitmap } ∧
        (s.rollbackBearerResize id generation).controls = s.controls ++
          if resize.expansionBitmap = 0 then [] else [.resize id generation resize.fromBitmap] := by
  unfold rollbackBearerResize
  split
  next missing =>
    refine .inl ⟨rfl, fun bearer present => ?_⟩
    rw [(filter_generation s).mpr present] at missing
    cases missing
  next bearer found =>
    have present := (filter_generation s).mp found
    split
    next steady =>
      refine .inl ⟨rfl, fun other present' => ?_⟩
      rw [← some.inj (present.1.symm.trans present'.1)]
      exact steady
    next resize resizing =>
      refine .inr ⟨bearer, resize, present, resizing, ?_⟩
      by_cases shrinks : resize.expansionBitmap = 0
      · rw [if_neg (not_not.mpr shrinks), if_pos shrinks, if_pos shrinks]
        exact ⟨rfl, (append_nil _).symm⟩
      · rw [if_pos shrinks, if_neg shrinks, if_neg shrinks]
        exact ⟨rfl, controls_control _ _⟩

/-- The bearer while it drains. -/
def drained (bearer : Bearer) (commandId forceAfterMs : Nat) : Bearer :=
  { bearer with
    drainReporters :=
      bearer.drainReporters ++ s.nextReporters (bearer.members.filterMap s.contexts.lookup)
    draining := true
    commandId
    releaseAt := some (s.dltime.addTimeslots drainGraceTimeslots)
    forceAt := some (s.dltime.addTimeslots (forceSlots forceAfterMs)) }

/-- **A bearer is told to drain**, or there was none of this generation. -/
theorem announceDrain_cases (commandId id generation forceAfterMs : Nat) :
    s.announceDrain commandId id generation forceAfterMs = s ∨ ∃ bearer, s.has id generation bearer ∧
        (s.announceDrain commandId id generation forceAfterMs).core =
          { s.core with
            bearers := s.bearers.insert id (s.drained bearer commandId forceAfterMs) } ∧
        (s.announceDrain commandId id generation forceAfterMs).controls =
          s.controls ++ [.drain id generation] := by
  unfold announceDrain
  split
  · exact .inl rfl
  next bearer found =>
    refine .inr ⟨bearer, (filter_generation s).mp found, rfl, ?_⟩
    exact (controls_control _ _).trans (congrArg (· ++ _) (controls_queueEndsOfData _ _ _))

/-! ### Joining a bearer -/

variable {result : AccessResult}

theorem grantedContext_eq {context : RadioContext} (respond : result.response ≠ .none) :
    s.grantedContext context result =
      { context with
        sessionId := some result.sessionId
        sessionGeneration := some result.sessionGeneration
        bearerId := some result.bearerId
        bearerGeneration := (s.bearers.lookup result.bearerId).map Bearer.generation
        timeslotBitmap := result.timeslotBitmap
        eventLabel := some result.eventLabel } := by
  unfold grantedContext
  rw [if_pos respond]

/-- **A terminal is placed on a bearer**: it is a member if the bearer is there, and its label is
announced unless nothing changes for it. -/
theorem grantAccess_spec (issi : Nat) (context : RadioContext) (respond : result.response ≠ .none) :
    (s.grantAccess issi context result).core =
        { s.core with
          contexts := s.contexts.insert issi (s.grantedContext context result)
          bearers := s.bearers.modify result.bearerId (·.insertMember issi) } ∧
      (s.grantAccess issi context result).controls = s.controls ++
        if bearerUnchanged context result then [] else
          (s.bearers.lookup result.bearerId).toList.map fun bearer =>
            .attach result.bearerId bearer.generation issi result.eventLabel := by
  have generation : (s.grantedContext context result).bearerGeneration =
      (s.bearers.lookup result.bearerId).map Bearer.generation := by
    rw [grantedContext_eq s respond]
  unfold grantAccess
  rw [if_pos respond, generation]
  cases s.bearers.lookup result.bearerId with
  | none => exact ⟨rfl, by simp [controls]⟩
  | some bearer =>
    dsimp only [map_some]
    split
    · exact ⟨rfl, (append_nil _).symm⟩
    · exact ⟨rfl, controls_control _ _⟩

/-! ### What stays -/

def clock : TdmaTime × Nat := (s.dltime, s.nextCommandId)

theorem clock_detachMembers (id generation : Nat) (members : List Nat) :
    (members.foldl (detachMember id generation) s).clock = s.clock := by
  induction members generalizing s with
  | nil => rfl
  | cons first rest ih =>
    rw [foldl_cons, ih]
    unfold detachMember
    split
    · rfl
    · split <;> rfl

theorem clock_releaseBearer (id generation : Nat) (forced : Bool) :
    (s.releaseBearer id generation forced).clock = s.clock := by
  unfold releaseBearer
  split
  · rfl
  next bearer _ =>
    split
    · rfl
    · exact clock_detachMembers
        (({ s with bearers := s.bearers.erase id } : Sndcp).releaseSlots bearer.reservedBitmap)
        bearer.id bearer.generation bearer.members

theorem clock_leaveBearer (issi id generation eventLabel : Nat) :
    (s.leaveBearer issi id generation eventLabel).clock = s.clock := by
  unfold leaveBearer
  split
  · rfl
  · dsimp only
    split
    · exact clock_releaseBearer _ id generation false
    · rfl

theorem clock_detachPacketBearer (issi : Nat) : (s.detachPacketBearer issi).clock = s.clock := by
  unfold detachPacketBearer
  split
  · rfl
  · split
    · rfl
    · exact clock_leaveBearer _ _ _ _ _

theorem clock_startBearerResize (id generation : Nat) (toBitmap expansionBitmap : SlotBitmap) :
    (s.startBearerResize id generation toBitmap expansionBitmap).clock = s.clock := by
  unfold startBearerResize
  split
  · rfl
  · split
    · rfl
    · split <;> rfl

theorem leaveBearer_frame (issi id generation eventLabel : Nat) :
    (s.leaveBearer issi id generation eventLabel).contexts = s.contexts ∧
      (s.leaveBearer issi id generation eventLabel).pendingCommands = s.pendingCommands := by
  rcases leaveBearer_cases s issi id generation eventLabel with
    ⟨idle, -⟩ | ⟨bearer, -, ⟨-, core, -⟩ | ⟨-, core, -⟩⟩
  · rw [idle]
    exact ⟨rfl, rfl⟩
  · exact ⟨congrArg (·.contexts) core, congrArg (·.pendingCommands) core⟩
  · exact ⟨congrArg (·.contexts) core, congrArg (·.pendingCommands) core⟩

theorem detachPacketBearer_frame (issi : Nat) :
    (s.detachPacketBearer issi).contexts = s.contexts.modify issi RadioContext.detached ∧
      (s.detachPacketBearer issi).pendingCommands = s.pendingCommands := by
  unfold detachPacketBearer Table.modify
  cases s.contexts.lookup issi with
  | none => exact ⟨rfl, rfl⟩
  | some context =>
    dsimp only
    split
    · exact ⟨rfl, rfl⟩
    · exact leaveBearer_frame { s with contexts := s.contexts.insert issi context.detached } _ _ _ _

end Sndcp

end Bluestation
