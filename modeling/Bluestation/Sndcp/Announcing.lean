/-
**The MAC hears of every bearer that is opened, resized or drained.**

A bearer whose slots change is announced with the new slots; all other changes leave its slots. No
terminal moves, and no label changes.

* `Announced.written` — a bearer is written whose slots stay.
* `Announced.reserveBearer` — a new bearer, whose generation must not be older than what the MAC knows.
-/

import Bluestation.Sndcp.Labels

namespace Bluestation

open SlotBitmap List Option Bool Table Bearer

namespace Sndcp

variable {s next : Sndcp} {umac later : PacketUmac}

/-! ### One bearer is written -/

theorem contexts_same (contexts : next.contexts = s.contexts) :
    (∀ issi, next.station issi = s.station issi) ∧ ∀ issi, next.lost issi = s.lost issi := by
  unfold station lost
  rw [contexts]
  exact ⟨fun _ => rfl, fun _ => rfl⟩

/-- No terminal moves, is lost or changes its label. -/
def Stays (s next : Sndcp) : Prop :=
  (∀ issi, next.place issi = s.place issi) ∧
    (∀ issi, (next.station issi).eventLabel = (s.station issi).eventLabel) ∧
    ∀ issi, next.lost issi = true → s.lost issi = true

theorem Stays.of_contexts (contexts : next.contexts = s.contexts) : Stays s next := by
  obtain ⟨stations, lost⟩ := contexts_same contexts
  refine ⟨fun issi => congrArg Station.place (stations issi), fun issi => ?_, fun issi gone => ?_⟩
  · rw [stations]
  · rwa [lost] at gone

variable {id : Nat}

theorem lookup_inserted {after : Bearer} (bearers : next.bearers = s.bearers.insert id after)
    (other : Nat) : next.bearers.lookup other =
      if other = id then some after else s.bearers.lookup other :=
  (congrArg (AList.lookup other) bearers).trans (lookup_insert_eq _ _ _ _)

section

variable (announced : s.Announced umac)

include announced

/-- **A bearer is written whose slots and members stay**: the MAC hears nothing that it minds. -/
theorem Announced.written {before after : Bearer} (new : List PacketBearerControl)
    (ignored : new.foldl PacketUmac.rxPacketBearerControl umac = umac) (owned : next.SlotsOwned)
    (present : s.bearers.lookup id = some before) (bearers : ∀ other, next.bearers.lookup other =
      if other = id then some after else s.bearers.lookup other)
    (controls : next.controls = s.controls ++ new) (same : SameSlots after before)
    (members : ∀ issi ∈ before.members, issi ∈ after.members) (stays : Stays s next) :
    Follows umac s next := by
  obtain ⟨-, mirrored, labelled⟩ := announced
  refine ⟨new, controls, owned, ?_⟩
  rw [ignored]
  refine ⟨mirrored.rewritten present bearers same ⟨rfl, rfl⟩, ?_⟩
  exact labelled.rewrite present bearers stays.2.2 stays.1 (fun issi _ => stays.2.1 issi) same.generation
    members (fun _ _ known _ => known) rfl

/-- **A bearer is announced with other slots.** -/
theorem Announced.resized {before after : Bearer} {bitmap : SlotBitmap} (owned : next.SlotsOwned)
    (present : s.bearers.lookup id = some before) (bearers : ∀ other, next.bearers.lookup other =
      if other = id then some after else s.bearers.lookup other)
    (controls : next.controls = s.controls ++ [.resize id before.generation bitmap])
    (generation : after.generation = before.generation)
    (reserved : ∀ ts ∈ timeslots, after.reservedBitmap.has ts = bitmap.has ts)
    (used : ∃ ts ∈ timeslots, after.timeslotBitmap.has ts = true)
    (remains : ∀ resize, after.resize = some resize → ∃ ts ∈ timeslots, resize.toBitmap.has ts = true)
    (members : ∀ issi ∈ before.members, issi ∈ after.members) (stays : Stays s next) :
    Follows umac s next := by
  obtain ⟨-, mirrored, labelled⟩ := announced
  refine ⟨_, controls, owned, mirrored.opened owned (fun other found => ?_) bearers generation
    reserved used remains, ?_⟩
  · rw [some.inj (present.symm.trans found)]
  · exact labelled.rewrite present bearers stays.2.2 stays.1 (fun issi _ => stays.2.1 issi) generation
      members (fun _ _ known same => open_current bitmap known same) (open_store _ _ _ _)

theorem Announced.allot (owned : next.SlotsOwned) (contexts : next.contexts = s.contexts)
    (bearers : next.bearers = s.bearers) (controls : next.controls = s.controls) :
    Follows umac s next := by
  obtain ⟨-, mirrored, labelled⟩ := announced
  obtain ⟨stations, lost⟩ := contexts_same contexts
  refine .silent controls ⟨owned, mirrored.unchanged (fun id bearer found => ?_)
    (fun id found => by rwa [bearers]) ⟨rfl, rfl⟩, labelled.same (fun issi gone => ?_)
    (fun issi => ?_) (fun issi _ => by rw [stations]) (fun id generation bearer found => ?_)
    (fun id bearer found => labelled.current id bearer (by rwa [bearers] at found))
    fun _ _ found => found⟩
  · rw [bearers] at found
    exact ⟨bearer, found, mirrored.sameSlots found⟩
  · rwa [lost] at gone
  · unfold Sndcp.place
    rw [stations]
  · refine ⟨bearer, ?_, fun _ member => member⟩
    unfold Sndcp.has
    rw [bearers]
    exact found

/-! ### The operations -/

/-- **A bearer is opened**, of a generation that is not older than what the MAC knows. -/
theorem Announced.reserveBearer (commandId : Nat) {generation : Nat} (requested : SlotBitmap)
    (openable : ∀ known, umac.packetBearerGenerations.lookup id = some known → known ≤ generation) :
    Follows umac s (s.reserveBearer commandId id generation requested) := by
  obtain ⟨owned, mirrored, labelled⟩ := announced
  have slots := owned.reserveBearer commandId id generation requested
  rcases s.reserveBearer_cases commandId id generation requested with
    ⟨core, controls⟩ | ⟨-, core, controls⟩ | ⟨missing, -, some, core, controls⟩
  · have calm : Calm false s (s.reserveBearer commandId id generation requested) :=
      .of_core core controls
    exact Announced.calm ⟨owned, mirrored, labelled⟩ calm
  · exact Announced.allot ⟨owned, mirrored, labelled⟩ slots (congrArg (·.contexts) core)
      (congrArg (·.bearers) core) controls
  · obtain ⟨stations, lost⟩ := contexts_same (congrArg (·.contexts) core)
    have bearers := lookup_inserted (congrArg (·.bearers) core)
    refine ⟨_, controls, slots, mirrored.opened slots (fun before found => ?_) bearers rfl
      (fun ts _ => reserved_steady rfl ts) (TimeslotAllocator.reserveEach_some some) nofun,
      labelled.same (fun issi gone => ?_) (fun issi => ?_) fun issi _ => by rw [stations]
        (fun other wanted bearer found => ⟨bearer, ?_, fun _ member => member⟩)
        (fun other bearer found => ?_) fun label addr found => ?_⟩
    · cases missing.symm.trans found
    · rwa [lost] at gone
    · unfold Sndcp.place
      rw [stations]
    · unfold Sndcp.has at found ⊢
      rw [bearers, if_neg]
      · exact found
      · intro here
        rw [here, missing] at found
        cases found.1
    · rcases umac.open_cases id generation (s.obtainable requested) with
        ⟨known, latest, older, -⟩ | ⟨-, taken⟩
      · exact absurd (openable known latest) (Nat.not_le.mpr older)
      · show (umac.openPacketBearer id generation (s.obtainable requested)).packetBearerGenerations.lookup
          other = _
        rw [taken]
        rw [lookup_insert_eq]
        rw [bearers] at found
        split at found
        next here =>
          rw [if_pos here, ← Option.some.inj found]
          rfl
        next elsewhere =>
          rw [if_neg elsewhere]
          exact labelled.current other bearer found
    · exact (congrArg (EventLabelStore.getAddrByLabel · label) (open_store _ _ _ _)).symm.trans found

end

theorem shrunk_remains {bitmap : SlotBitmap} {released : Nat}
    (last : bitmap.slots.getLast? = some released) (several : 1 < bitmap.slots.length) :
    ∃ ts ∈ timeslots, (bitmap &&& ~~~bit released).has ts = true := by
  have listed : released ∈ bitmap.slots := mem_of_getLast? last
  have nodup : bitmap.slots.Nodup := List.Nodup.filter _ (by decide)
  by_contra nothing
  have single : bitmap.slots ⊆ [released] := by
    intro ts member
    obtain ⟨inside, held⟩ := mem_slots.mp member
    by_contra other
    refine nothing ⟨ts, inside, ?_⟩
    rw [has_and, has_not _ inside, has_bit (mem_slots.mp listed).1 inside, held, Bool.true_and,
      not_eq_true', decide_eq_false_iff_not]
    exact fun same => other (mem_singleton.mpr same.symm)
  exact absurd (nodup.subperm single).length_le (Nat.not_le.mpr several)

variable (announced : s.Announced umac)

include announced

/-- A shrink is not announced before it is committed. -/
theorem Announced.shrink {released : Nat} {bearer : Bearer}
    (present : s.bearers.lookup id = some bearer)
    (last : bearer.timeslotBitmap.slots.getLast? = some released)
    (several : 1 < bearer.timeslotBitmap.slots.length) :
    Follows umac s (s.startBearerResize bearer.id bearer.generation
      (bearer.timeslotBitmap &&& ~~~bit released) 0) := by
  have slots := announced.1.shrink bearer.generation present (bit released)
  rcases s.startBearerResize_cases bearer.id bearer.generation
      (bearer.timeslotBitmap &&& ~~~bit released) 0 with
    ⟨idle, -⟩ | ⟨other, found, -, steady, -, -, core, controls⟩
  · rw [idle]
    exact .silent rfl announced
  · rw [announced.1.keyed id bearer present] at *
    obtain rfl : bearer = other := some.inj (present.symm.trans found.1)
    refine announced.written [] rfl slots present (lookup_inserted (congrArg SndcpCore.bearers core))
      controls ⟨rfl, fun ts _ => ?_, announced.2.1.used id bearer present, fun resize resizing => ?_⟩
      (fun _ member => member) (.of_contexts (congrArg (·.contexts) core))
    · rw [reserved_resizing rfl, reserved_steady steady]
      exact (congrArg (_ || ·) (has_zero ts)).trans (or_false _)
    · cases resizing
      exact shrunk_remains last several

/-- An expansion is announced before the terminals get the slots. -/
theorem Announced.expand {bearer : Bearer} {candidate : Nat × Nat × SlotBitmap × SlotBitmap}
    (present : s.bearers.lookup id = some bearer)
    (chosen : s.expansionCandidate id bearer = some candidate) :
    Follows umac s (s.expandBearer candidate) := by
  have slots := announced.1.expand present chosen
  unfold expansionCandidate at chosen
  dsimp only at chosen
  split at chosen
  · rw [← some.inj chosen] at slots ⊢
    unfold expandBearer at slots ⊢
    dsimp only at slots ⊢
    generalize bearer.desiredTimeslotBitmap &&& ~~~bearer.timeslotBitmap = missing at *
    split at slots
    next expands =>
      rw [if_pos expands]
      rcases (s.reserveSlots missing).startBearerResize_cases id bearer.generation
          (bearer.timeslotBitmap ||| s.obtainable missing) (s.obtainable missing) with
        ⟨idle, -⟩ | ⟨other, found, -, -, -, -, core, controls⟩
      · rw [idle] at slots ⊢
        exact announced.allot slots rfl rfl rfl
      · obtain rfl : bearer = other := some.inj (present.symm.trans found.1)
        obtain ⟨ts, member, held⟩ := announced.2.1.used id bearer present
        rw [if_pos expands] at controls
        refine announced.resized slots present (lookup_inserted (congrArg SndcpCore.bearers core))
          controls rfl (fun ts _ => ?_) ⟨ts, member, held⟩ (fun resize resizing => ⟨ts, member, ?_⟩)
          (fun _ member => member) (.of_contexts (congrArg (·.contexts) core))
        · rfl
        · cases resizing
          show (bearer.timeslotBitmap ||| s.obtainable missing).has ts = true
          rw [has_or, held, Bool.true_or]
    next nothing =>
      rw [if_neg nothing]
      exact announced.allot slots rfl rfl rfl
  · cases chosen

/-- Polling receipts sets the time of a commit at most. -/
theorem Announced.poll : Follows umac s s.pollResizes := by
  obtain ⟨owned, mirrored, labelled⟩ := announced
  have lookups (id : Nat) :
      s.pollResizes.bearers.lookup id = (s.bearers.lookup id).map s.pollResize :=
    lookup_mapValues _ _ _
  have kept (bearer : Bearer) : (s.pollResize bearer).generation = bearer.generation ∧
      (s.pollResize bearer).members = bearer.members := by
    rcases s.pollResize_spec bearer with ⟨resize, commitAt, -, polled⟩ | same
    · rw [polled]
      exact ⟨rfl, rfl⟩
    · rw [same]
      exact ⟨rfl, rfl⟩
  refine .silent rfl ⟨owned.poll, mirrored.unchanged (fun id bearer found => ?_)
    (fun id found => by rwa [lookups, isSome_map]) ⟨rfl, rfl⟩,
    labelled.same (fun _ gone => gone) (fun _ => rfl) (fun _ _ => rfl)
      (fun id generation bearer found => ⟨s.pollResize bearer, ⟨?_, ?_⟩, ?_⟩)
      (fun id bearer found => ?_) fun _ _ found => found⟩
  · rw [lookups] at found
    obtain ⟨before, present, rfl⟩ := map_eq_some_iff.mp found
    refine ⟨before, present, ?_⟩
    rcases s.pollResize_spec before with ⟨resize, commitAt, resizing, polled⟩ | same
    · rw [polled]
      refine ⟨rfl, fun ts _ => ?_, mirrored.used id before present, fun after resized => ?_⟩
      · rw [reserved_resizing rfl, reserved_resizing resizing]
      · rw [← some.inj resized]
        exact mirrored.remains id before resize present resizing
    · rw [same]
      exact mirrored.sameSlots present
  · rw [lookups, found.1]
    rfl
  · exact (kept bearer).1.trans found.2
  · rw [(kept bearer).2]
    exact fun _ member => member
  · rw [lookups] at found
    obtain ⟨before, present, rfl⟩ := map_eq_some_iff.mp found
    rw [(kept before).1]
    exact labelled.current id before present

/-- **A committed shrink is announced**; the slots of an expansion were before. -/
theorem Announced.commitBearerResize (id generation : Nat) :
    Follows umac s (s.commitBearerResize id generation) := by
  have slots := announced.1.commit id generation
  rcases s.commitBearerResize_cases id generation with
    idle | ⟨bearer, resize, ⟨present, named⟩, resizing, core, controls⟩
  · rw [idle]
    exact .silent rfl announced
  · subst named
    obtain ⟨-, -, growing, -⟩ := announced.1.sound id bearer present resize resizing
    have remains := announced.2.1.remains id bearer resize present resizing
    generalize s.commitBearerResize id bearer.generation = next at *
    obtain ⟨place, label, lost, -⟩ := stations_resized (congrArg (·.contexts) core)
    have stays : Stays s next := ⟨place, label, fun issi gone => by rwa [lost] at gone⟩
    have bearers := lookup_inserted (congrArg (·.bearers) core)
    by_cases shrinks : resize.expansionBitmap = 0
    · rw [if_pos shrinks] at controls
      refine announced.resized slots present bearers controls rfl (fun ts _ => ?_) remains nofun
        (fun _ member => member) stays
      rw [reserved_steady rfl]
      rfl
    · rw [if_neg shrinks] at controls
      refine announced.written [] rfl slots present bearers controls ⟨rfl, fun ts member => ?_,
        remains, nofun⟩ (fun _ member => member) stays
      rw [reserved_steady rfl, reserved_resizing resizing]
      exact growing shrinks ts member

/-- **An expansion that is taken back is announced.** -/
theorem Announced.rollbackBearerResize (id generation : Nat) :
    Follows umac s (s.rollbackBearerResize id generation) := by
  have slots := announced.1.rollback id generation
  rcases s.rollbackBearerResize_cases id generation with
    ⟨idle, -⟩ | ⟨bearer, resize, ⟨present, named⟩, resizing, core, controls⟩
  · rw [idle]
    exact .silent rfl announced
  · subst named
    obtain ⟨start, -⟩ := announced.1.sound id bearer present resize resizing
    have used := announced.2.1.used id bearer present
    generalize s.rollbackBearerResize id bearer.generation = next at *
    have stays : Stays s next := .of_contexts (congrArg (·.contexts) core)
    have bearers := lookup_inserted (congrArg (·.bearers) core)
    by_cases shrinks : resize.expansionBitmap = 0
    · rw [if_pos shrinks] at controls
      refine announced.written [] rfl slots present bearers controls ⟨rfl, fun ts _ => ?_, used,
        nofun⟩ (fun _ member => member) stays
      rw [reserved_steady rfl, reserved_resizing resizing, shrinks, has_zero, Bool.or_false]
    · rw [if_neg shrinks, start] at controls
      refine announced.resized slots present bearers controls rfl (fun ts _ => ?_) used nofun
        (fun _ member => member) stays
      rw [reserved_steady rfl]

theorem Announced.announceDrain (commandId id generation forceAfterMs : Nat) :
    Follows umac s (s.announceDrain commandId id generation forceAfterMs) := by
  have slots := announced.1.drain commandId id generation forceAfterMs
  rcases s.announceDrain_cases commandId id generation forceAfterMs with
    idle | ⟨bearer, ⟨present, -⟩, core, controls⟩
  · rw [idle]
    exact .silent rfl announced
  · have bearers := lookup_inserted (congrArg (·.bearers) core)
    refine announced.written [.drain id generation] rfl slots present bearers controls
      ⟨rfl, fun ts _ => ?_, announced.2.1.used id bearer present,
        fun resize => announced.2.1.remains id bearer resize present⟩ (fun _ member => member)
      (.of_contexts (congrArg (·.contexts) core))
    exact congrArg (SlotBitmap.has · ts) (reservedBitmap_congr rfl rfl)

theorem Announced.rehashMembers (id : Nat) (order : List Nat) :
    Follows umac s (s.rehashMembers id order) := by
  have slots : (s.rehashMembers id order).SlotsOwned := by
    refine announced.1.members id ?_ rfl rfl
    exact fun _ => ⟨rfl, rfl, rfl⟩
  cases present : s.bearers.lookup id with
  | none =>
    refine announced.allot slots rfl ?_ rfl
    unfold Sndcp.rehashMembers Table.modify
    rw [present]
  | some bearer =>
    have bearers (other : Nat) : (s.rehashMembers id order).bearers.lookup other =
        if other = id then some { bearer with
          members := bearer.members.insertionSort fun left right =>
            order.idxOf left ≤ order.idxOf right }
        else s.bearers.lookup other := by
      refine (lookup_modify _ _ _ _).trans ?_
      rw [present]
      rfl
    refine announced.written [] rfl slots present bearers (append_nil _).symm
      ⟨rfl, fun ts _ => ?_, announced.2.1.used id bearer present,
        fun resize => announced.2.1.remains id bearer resize present⟩ (fun issi member => ?_)
      ⟨fun _ => rfl, fun _ => rfl, fun _ gone => gone⟩
    · exact congrArg (SlotBitmap.has · ts) (reservedBitmap_congr rfl rfl)
    · exact (perm_insertionSort _ _).mem_iff.mpr member

end Sndcp

end Bluestation
