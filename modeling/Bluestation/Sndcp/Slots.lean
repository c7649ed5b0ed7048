/-
**The slots of packet data are the slots of its bearers.**

Every slot that packet data holds at the allocator belongs to exactly one bearer, as one of its own
or in advance of an expansion, and every slot of a bearer is held. An operation hands over slots of
one bearer at most.

* `Sndcp.Handover` — what happens to a slot.
* `Sndcp.SlotsOwned` — the invariant, and `SlotsOwned.handover`, why it is preserved.
* `SlotsOwned.exchange`, `SlotsOwned.released` — a bearer exchanges its slots, or gives all back.
-/

import Bluestation.Sndcp.Careful

namespace Bluestation

open SlotBitmap Option Table Bearer TimeslotAllocator

/-- A running resize fits its bearer: a shrink keeps some of the slots, and an expansion adds the
slots that were reserved for it. -/
def Bearer.Sound (bearer : Bearer) : Prop :=
  ∀ resize, bearer.resize = some resize → resize.fromBitmap = bearer.timeslotBitmap ∧
    (resize.expansionBitmap = 0 → ∀ ts ∈ timeslots,
      resize.toBitmap.has ts = true → bearer.timeslotBitmap.has ts = true) ∧
    (resize.expansionBitmap ≠ 0 → ∀ ts ∈ timeslots,
      resize.toBitmap.has ts = (bearer.timeslotBitmap.has ts || resize.expansionBitmap.has ts)) ∧
    ∀ ts ∈ timeslots, resize.expansionBitmap.has ts = true → bearer.timeslotBitmap.has ts = false

variable {bearer : Bearer}

theorem Bearer.sound_steady (steady : bearer.resize = none) : bearer.Sound := by
  intro resize resizing
  cases steady.symm.trans resizing

theorem Bearer.Sound.congr {other : Bearer} (sound : bearer.Sound)
    (slots : other.timeslotBitmap = bearer.timeslotBitmap) (resize : other.resize = bearer.resize) :
    other.Sound := by
  unfold Bearer.Sound at *
  rw [slots, resize]
  exact sound

theorem Bearer.reservedBitmap_congr {other : Bearer}
    (slots : other.timeslotBitmap = bearer.timeslotBitmap) (resize : other.resize = bearer.resize) :
    other.reservedBitmap = bearer.reservedBitmap := by
  unfold reservedBitmap expansion
  rw [slots, resize]

theorem Bearer.reserved_steady (steady : bearer.resize = none) (ts : Nat) :
    bearer.reservedBitmap.has ts = bearer.timeslotBitmap.has ts := by
  unfold reservedBitmap expansion
  rw [steady]
  simp

theorem Bearer.reserved_resizing {resize : PendingBearerResize}
    (resizing : bearer.resize = some resize) (ts : Nat) :
    bearer.reservedBitmap.has ts =
      (bearer.timeslotBitmap.has ts || resize.expansionBitmap.has ts) := by
  unfold reservedBitmap expansion
  rw [resizing]
  simp

namespace Sndcp

def reserves (s : Sndcp) (id ts : Nat) : Bool :=
  (s.bearers.lookup id).any (·.reservedBitmap.has ts)

def ownsSlot (s : Sndcp) (ts : Nat) : Prop := s.timeslotAlloc.owners ts = some .packetData

/-- A slot stays as it is, or one bearer gains it, or gives it back. -/
def Handover (s next : Sndcp) (id ts : Nat) : Prop :=
  ((next.ownsSlot ts ↔ s.ownsSlot ts) ∧ next.reserves id ts = s.reserves id ts) ∨
    (¬ s.ownsSlot ts ∧ next.ownsSlot ts ∧ next.reserves id ts = true) ∨
    (s.reserves id ts = true ∧ ¬ next.ownsSlot ts ∧ next.reserves id ts = false)

/-- **The slots of packet data are the slots of its bearers**, each of one bearer. -/
structure SlotsOwned (s : Sndcp) : Prop where
  keyed : ∀ id bearer, s.bearers.lookup id = some bearer → bearer.id = id
  sound : ∀ id bearer, s.bearers.lookup id = some bearer → bearer.Sound
  owned : ∀ ts ∈ timeslots, s.ownsSlot ts ↔ ∃ id, s.reserves id ts = true
  unique : ∀ ts ∈ timeslots, ∀ first second, s.reserves first ts = true →
    s.reserves second ts = true → first = second

variable {s next : Sndcp}

/-- **An operation on one bearer that hands over its slots preserves the invariant.** -/
theorem SlotsOwned.handover (owned : s.SlotsOwned) (id : Nat)
    (others : ∀ other, other ≠ id → next.bearers.lookup other = s.bearers.lookup other)
    (own : ∀ bearer, next.bearers.lookup id = some bearer → bearer.id = id ∧ bearer.Sound)
    (slots : ∀ ts ∈ timeslots, s.Handover next id ts) : next.SlotsOwned := by
  have elsewhere (other ts : Nat) (different : other ≠ id) :
      next.reserves other ts = s.reserves other ts := by
    unfold reserves
    rw [others other different]
  refine ⟨fun other bearer found => ?_, fun other bearer found => ?_, fun ts member => ?_,
    fun ts member first second firstHolds secondHolds => ?_⟩
  · by_cases here : other = id
    · subst here
      exact (own bearer found).1
    · exact owned.keyed other bearer ((others other here).symm.trans found)
  · by_cases here : other = id
    · subst here
      exact (own bearer found).2
    · exact owned.sound other bearer ((others other here).symm.trans found)
  · rcases slots ts member with ⟨still, same⟩ | ⟨free, taken, holds⟩ | ⟨held, given, lost⟩
    · rw [still, owned.owned ts member]
      refine exists_congr fun other => ?_
      by_cases here : other = id
      · rw [here, same]
      · rw [elsewhere other ts here]
    · exact iff_of_true taken ⟨id, holds⟩
    · refine iff_of_false given ?_
      rintro ⟨other, holds⟩
      by_cases here : other = id
      · rw [here, lost] at holds
        cases holds
      · rw [elsewhere other ts here] at holds
        exact here (owned.unique ts member other id holds held)
  · -- A slot that was free is held by nobody else, and one that was held by no other bearer.
    have single (other : Nat) (different : other ≠ id) (holds : next.reserves id ts = true) :
        next.reserves other ts = false := by
      rw [elsewhere other ts different]
      rw [← Bool.not_eq_true]
      intro also
      rcases slots ts member with ⟨-, same⟩ | ⟨free, -, -⟩ | ⟨-, -, lost⟩
      · exact different (owned.unique ts member other id also (same.symm.trans holds))
      · exact free ((owned.owned ts member).mpr ⟨other, also⟩)
      · cases lost.symm.trans holds
    by_cases firstHere : first = id <;> by_cases secondHere : second = id
    · rw [firstHere, secondHere]
    · rw [firstHere] at firstHolds
      rw [single second secondHere firstHolds] at secondHolds
      cases secondHolds
    · rw [secondHere] at secondHolds
      rw [single first firstHere secondHolds] at firstHolds
      cases firstHolds
    · rw [elsewhere _ ts firstHere] at firstHolds
      rw [elsewhere _ ts secondHere] at secondHolds
      exact owned.unique ts member first second firstHolds secondHolds

/-- Nothing changes but what a bearer's slots do not depend on. -/
theorem SlotsOwned.same (owned : s.SlotsOwned)
    (bearers : ∀ id bearer, next.bearers.lookup id = some bearer → ∃ before,
      s.bearers.lookup id = some before ∧ bearer.id = before.id ∧
        (before.Sound → bearer.Sound) ∧ bearer.reservedBitmap = before.reservedBitmap)
    (kept : ∀ id, (s.bearers.lookup id).isSome = true → (next.bearers.lookup id).isSome = true)
    (slots : ∀ ts ∈ timeslots, next.ownsSlot ts ↔ s.ownsSlot ts) : next.SlotsOwned := by
  have same (id ts : Nat) : next.reserves id ts = s.reserves id ts := by
    unfold reserves
    cases after : next.bearers.lookup id with
    | some bearer =>
      obtain ⟨before, found, -, -, reserved⟩ := bearers id bearer after
      rw [found, any_some, any_some, reserved]
    | none =>
      cases found : s.bearers.lookup id with
      | none => rfl
      | some before =>
        have := kept id (by rw [found]; rfl)
        rw [after] at this
        cases this
  refine ⟨fun id bearer found => ?_, fun id bearer found => ?_, fun ts member => ?_,
    fun ts member first second => ?_⟩
  · obtain ⟨before, present, equal, -⟩ := bearers id bearer found
    exact equal.trans (owned.keyed id before present)
  · obtain ⟨before, present, -, sound, -⟩ := bearers id bearer found
    exact sound (owned.sound id before present)
  · rw [slots ts member, owned.owned ts member]
    simp only [same]
  · rw [same, same]
    exact owned.unique ts member first second

/-! ### The operations -/

theorem SlotsOwned.calm {counts : Bool} (owned : s.SlotsOwned) (calm : Calm counts s next) :
    next.SlotsOwned := by
  refine owned.same (fun id bearer found => ?_) (fun id found => ?_) fun ts _ => ?_
  · rw [calm.bearers] at found
    exact ⟨bearer, found, rfl, fun sound => sound, rfl⟩
  · rw [calm.bearers]
    exact found
  · unfold ownsSlot
    rw [calm.owners]

variable {id : Nat} {bearer : Bearer}

section

variable (owned : s.SlotsOwned)

include owned

theorem SlotsOwned.rewrite {before after : Bearer} (present : s.bearers.lookup id = some before)
    (bearers : next.bearers = s.bearers.insert id after)
    (slots : ∀ ts ∈ timeslots, next.ownsSlot ts ↔ s.ownsSlot ts) (same : after.id = before.id)
    (sound : before.Sound → after.Sound) (reserved : after.reservedBitmap = before.reservedBitmap) :
    next.SlotsOwned := by
  refine owned.same (fun other bearer found => ?_) (fun other found => ?_) slots
  · rw [bearers, lookup_insert_eq] at found
    split at found
    next here =>
      rw [← some.inj found, here]
      exact ⟨before, present, same, sound, reserved⟩
    · exact ⟨bearer, found, rfl, fun sound => sound, rfl⟩
  · rw [bearers, lookup_insert_eq]
    split
    · rfl
    · exact found

/-- A bearer is written, and its slots are handed over. -/
theorem SlotsOwned.exchange {before after : Bearer} (present : s.bearers.lookup id = some before)
    (bearers : next.bearers = s.bearers.insert id after) (same : after.id = before.id)
    (sound : after.Sound) (slots : ∀ ts ∈ timeslots, ((next.ownsSlot ts ↔ s.ownsSlot ts) ∧
        after.reservedBitmap.has ts = before.reservedBitmap.has ts) ∨
      (¬ s.ownsSlot ts ∧ next.ownsSlot ts ∧ after.reservedBitmap.has ts = true) ∨
      (before.reservedBitmap.has ts = true ∧ ¬ next.ownsSlot ts ∧
        after.reservedBitmap.has ts = false)) : next.SlotsOwned := by
  have old (ts : Nat) : s.reserves id ts = before.reservedBitmap.has ts := by
    unfold reserves
    rw [present]
    rfl
  have new (ts : Nat) : next.reserves id ts = after.reservedBitmap.has ts := by
    unfold reserves
    rw [bearers, AList.lookup_insert]
    rfl
  refine owned.handover id (fun other different => ?_) (fun bearer found => ?_)
    fun ts member => ?_
  · rw [bearers]
    exact AList.lookup_insert_ne different
  · rw [bearers, AList.lookup_insert] at found
    cases found
    exact ⟨same.trans (owned.keyed id before present), sound⟩
  · unfold Handover
    rw [old, new]
    exact slots ts member

/-- A bearer is gone, with all its slots. -/
theorem SlotsOwned.released (present : s.bearers.lookup id = some bearer)
    (bearers : ∀ other, next.bearers.lookup other =
      if other = id then none else s.bearers.lookup other)
    (slots : next.timeslotAlloc = s.timeslotAlloc.releaseEach .packetData bearer.reservedBitmap) :
    next.SlotsOwned := by
  refine owned.handover id (fun other different => ?_) (fun bearer found => ?_)
    fun ts member => ?_
  · rw [bearers, if_neg different]
  · rw [bearers, if_pos rfl] at found
    cases found
  · have old : s.reserves id ts = bearer.reservedBitmap.has ts := by
      unfold reserves
      rw [present]
      rfl
    have new : next.reserves id ts = false := by
      unfold reserves
      rw [bearers, if_pos rfl]
      rfl
    unfold Handover ownsSlot
    rw [new, slots, releaseEach_owner, old]
    cases held : bearer.reservedBitmap.has ts with
    | true =>
      refine .inr (.inr ⟨rfl, ?_, rfl⟩)
      split
      · exact nofun
      next kept =>
        exact fun owns => kept ⟨member, rfl, owns⟩
    | false =>
      refine .inl ⟨?_, rfl⟩
      rw [if_neg fun given => Bool.noConfusion given.2.1]

theorem SlotsOwned.releaseBearer (id generation : Nat) (forced : Bool) :
    (s.releaseBearer id generation forced).SlotsOwned := by
  rcases s.releaseBearer_cases id generation forced with ⟨idle, -⟩ | ⟨bearer, present, core, -⟩
  · rw [idle]
    exact owned
  · refine owned.released present.1 (fun other => ?_) (congrArg (·.timeslotAlloc) core)
    refine (congrArg (AList.lookup other) (congrArg (·.bearers) core)).trans ?_
    exact lookup_erase_eq _ _ _

theorem SlotsOwned.leaveBearer (issi id generation eventLabel : Nat) :
    (s.leaveBearer issi id generation eventLabel).SlotsOwned := by
  rcases s.leaveBearer_cases issi id generation eventLabel with
    ⟨idle, -⟩ | ⟨bearer, present, ⟨-, core, -⟩ | ⟨-, core, -⟩⟩
  · rw [idle]
    exact owned
  · have slots := congrArg (·.timeslotAlloc) core
    refine owned.rewrite present.1 (congrArg SndcpCore.bearers core) (fun ts _ => ?_) rfl
      (fun sound => sound.congr rfl rfl) (reservedBitmap_congr rfl rfl)
    exact Iff.of_eq (congrArg (fun alloc => owners alloc ts = _) slots)
  · refine owned.released present.1 (fun other => ?_) (congrArg (·.timeslotAlloc) core)
    refine (congrArg (AList.lookup other) (congrArg (·.bearers) core)).trans ?_
    rw [lookup_erase_eq, lookup_insert_eq]
    split
    · rfl
    · rfl

theorem SlotsOwned.of_eq (bearers : next.bearers = s.bearers)
    (slots : next.timeslotAlloc = s.timeslotAlloc) : next.SlotsOwned :=
  owned.same (fun id bearer found => ⟨bearer, by rwa [bearers] at found, rfl, fun sound => sound, rfl⟩)
    (fun id found => by rwa [bearers]) fun ts _ => by
      unfold ownsSlot
      rw [slots]

theorem SlotsOwned.detachPacketBearer (issi : Nat) : (s.detachPacketBearer issi).SlotsOwned := by
  unfold Sndcp.detachPacketBearer
  split
  · exact owned
  next context _ =>
    have detached : ({ s with
        contexts := s.contexts.insert issi context.detached } : Sndcp).SlotsOwned :=
      owned.of_eq rfl rfl
    split
    · exact detached
    · exact detached.leaveBearer _ _ _ _

theorem SlotsOwned.reserveBearer (commandId id generation : Nat) (requested : SlotBitmap) :
    (s.reserveBearer commandId id generation requested).SlotsOwned := by
  rcases s.reserveBearer_cases commandId id generation requested with
    ⟨core, -⟩ | ⟨nothing, core, -⟩ | ⟨missing, -, -, core, -⟩
  · exact owned.of_eq (congrArg (·.bearers) core) (congrArg (·.timeslotAlloc) core)
  · have bearers := congrArg (·.bearers) core
    have slots := congrArg (·.timeslotAlloc) core
    refine owned.same (fun id bearer found => ⟨bearer, ?_, rfl, fun sound => sound, rfl⟩)
      (fun id found => ?_) fun ts member => ?_
    · exact (congrArg (AList.lookup id) bearers).symm.trans found
    · exact (congrArg (fun table => (AList.lookup id table).isSome) bearers).trans found
    · rcases s.timeslotAlloc.reserveEach_owner .packetData requested member with
        ⟨taken, -⟩ | ⟨-, kept⟩
      · have : s.obtainable requested = 0 := nothing
        unfold obtainable at this
        rw [this, has_zero] at taken
        cases taken
      · exact Iff.of_eq ((congrArg (fun alloc => TimeslotAllocator.owners alloc ts = _) slots).trans
          (congrArg (· = _) kept))
  · have bearers : (s.reserveBearer commandId id generation requested).bearers = s.bearers.insert id _ :=
      congrArg (·.bearers) core
    have slots : (s.reserveBearer commandId id generation requested).timeslotAlloc = _ :=
      congrArg (·.timeslotAlloc) core
    refine owned.handover id (fun other different => ?_) (fun bearer found => ?_)
      fun ts member => ?_
    · rw [bearers]
      exact AList.lookup_insert_ne different
    · rw [bearers, AList.lookup_insert] at found
      cases found
      exact ⟨rfl, Bearer.sound_steady rfl⟩
    · have old : s.reserves id ts = false := by
        unfold reserves
        rw [missing]
        rfl
      have new : (s.reserveBearer commandId id generation requested).reserves id ts =
          (s.obtainable requested).has ts := by
        unfold reserves
        rw [bearers, AList.lookup_insert]
        exact Bearer.reserved_steady rfl ts
      unfold Handover ownsSlot
      rw [old, new, slots]
      rcases s.timeslotAlloc.reserveEach_owner .packetData requested member with
        ⟨taken, free, -, held⟩ | ⟨untaken, kept⟩
      · refine .inr (.inl ⟨?_, held, taken⟩)
        rw [free]
        exact nofun
      · exact .inl ⟨Iff.of_eq (congrArg (· = _) kept), untaken⟩

end

theorem ownsSlot_congr (slots : next.timeslotAlloc = s.timeslotAlloc) (ts : Nat) :
    next.ownsSlot ts ↔ s.ownsSlot ts := by
  unfold ownsSlot
  rw [slots]

/-- A shrink keeps its slots until it is committed. -/
theorem SlotsOwned.shrink (owned : s.SlotsOwned) (generation : Nat)
    (present : s.bearers.lookup id = some bearer) (removed : SlotBitmap) :
    (s.startBearerResize bearer.id generation (bearer.timeslotBitmap &&& ~~~removed)
      0).SlotsOwned := by
  have keyed := owned.keyed id bearer present
  rw [keyed]
  rcases s.startBearerResize_cases id generation (bearer.timeslotBitmap &&& ~~~removed) 0 with
    ⟨idle, -⟩ | ⟨other, found, -, steady, -, -, core, -⟩
  · rw [idle]
    exact owned
  · have same : other = bearer := some.inj (found.1.symm.trans present)
    rw [same] at core steady
    refine owned.rewrite present (congrArg SndcpCore.bearers core)
      (fun ts _ => ownsSlot_congr (congrArg SndcpCore.timeslotAlloc core) ts) rfl (fun _ => ?_) ?_
    · intro resize resizing
      cases resizing
      refine ⟨rfl, fun _ ts _ kept => ?_, fun expands => absurd rfl expands, fun ts _ added => ?_⟩
      · simp only [startedResize, has_and, Bool.and_eq_true] at kept
        exact kept.1
      · simp only [startedResize, has_zero, Bool.false_eq_true] at added
    · unfold reservedBitmap expansion
      rw [steady]
      rfl

theorem SlotsOwned.reserveNothing (owned : s.SlotsOwned) {requested : SlotBitmap}
    (nothing : ∀ ts ∈ timeslots, (s.obtainable requested).has ts = false) :
    (s.reserveSlots requested).SlotsOwned := by
  refine owned.same (fun id bearer found => ⟨bearer, found, rfl, fun sound => sound, rfl⟩)
    (fun id found => found) fun ts member => ?_
  rcases s.timeslotAlloc.reserveEach_owner .packetData requested member with
    ⟨taken, -⟩ | ⟨-, kept⟩
  · have untaken := nothing ts member
    unfold obtainable at untaken
    cases untaken.symm.trans taken
  · exact Iff.of_eq (congrArg (· = _) kept)

/-- An expansion reserves the slots that it announces. -/
theorem SlotsOwned.expand (owned : s.SlotsOwned) {candidate : Nat × Nat × SlotBitmap × SlotBitmap}
    (present : s.bearers.lookup id = some bearer)
    (chosen : s.expansionCandidate id bearer = some candidate) :
    (s.expandBearer candidate).SlotsOwned := by
  unfold expansionCandidate at chosen
  dsimp only at chosen
  split at chosen
  next fits =>
    simp only [Bool.and_eq_true, Bool.not_eq_true', isNone_iff_eq_none] at fits
    obtain ⟨⟨⟨serving, steady⟩, -⟩, -⟩ := fits
    cases chosen
    unfold expandBearer
    dsimp only
    generalize wanted : bearer.desiredTimeslotBitmap &&& ~~~bearer.timeslotBitmap = missing
    have slot {ts : Nat} (member : ts ∈ timeslots) :=
      s.timeslotAlloc.reserveEach_owner .packetData missing member
    have absent {ts : Nat} (member : ts ∈ timeslots) (needed : missing.has ts = true) :
        bearer.timeslotBitmap.has ts = false := by
      rw [← wanted, has_and, has_not _ member, Bool.and_eq_true, Bool.not_eq_true'] at needed
      exact needed.2
    split
    next some =>
      rcases (s.reserveSlots missing).startBearerResize_cases id bearer.generation
          (bearer.timeslotBitmap ||| s.obtainable missing) (s.obtainable missing) with
        ⟨idle, refused⟩ | ⟨other, found, -, -, -, -, core, -⟩
      · rw [idle]
        refine owned.reserveNothing fun ts member => ?_
        rw [← Bool.not_eq_true]
        intro taken
        have grown : (bearer.timeslotBitmap ||| s.obtainable missing).has ts = true := by
          rw [has_or, taken, Bool.or_true]
        rcases refused bearer ⟨present, rfl⟩ serving steady with empty | same
        · rw [empty, has_zero] at grown
          cases grown
        · rw [same] at grown
          rcases slot member with ⟨-, -, needed, -⟩ | ⟨untaken, -⟩
          · rw [absent member needed] at grown
            cases grown
          · unfold obtainable at taken
            cases untaken.symm.trans taken
      · have same : other = bearer := Option.some.inj (found.1.symm.trans present)
        rw [same] at core
        refine owned.exchange present (congrArg SndcpCore.bearers core) rfl ?_ fun ts member => ?_
        · intro resize resizing
          cases resizing
          refine ⟨rfl, fun nothing => absurd nothing some, fun _ ts _ => has_or _ _ _,
            fun ts member taken => ?_⟩
          rcases slot member with ⟨-, -, needed, -⟩ | ⟨untaken, -⟩
          · exact absent member needed
          · exact absurd (taken.symm.trans untaken) (by decide)
        · have slots : ((s.reserveSlots missing).startBearerResize id bearer.generation
              (bearer.timeslotBitmap ||| s.obtainable missing)
              (s.obtainable missing)).timeslotAlloc = _ := congrArg (·.timeslotAlloc) core
          unfold ownsSlot
          rw [slots, Bearer.reserved_resizing rfl, Bearer.reserved_steady steady]
          show ((s.timeslotAlloc.reserveEach .packetData missing).1.owners ts = _ ↔ _) ∧
              (bearer.timeslotBitmap.has ts || (s.obtainable missing).has ts) = _ ∨
            ¬ _ ∧ (s.timeslotAlloc.reserveEach .packetData missing).1.owners ts = _ ∧
              (bearer.timeslotBitmap.has ts || (s.obtainable missing).has ts) = true ∨ _
          unfold obtainable
          rcases slot member with ⟨taken, free, -, held⟩ | ⟨untaken, kept⟩
          · refine .inr (.inl ⟨?_, held, by rw [taken, Bool.or_true]⟩)
            rw [free]
            exact nofun
          · exact .inl ⟨Iff.of_eq (congrArg (· = _) kept), by rw [untaken, Bool.or_false]⟩
    next nothing =>
      refine owned.reserveNothing fun ts _ => ?_
      rw [not_not.mp nothing, has_zero]
  · cases chosen

theorem pollResize_spec (s : Sndcp) (bearer : Bearer) :
    (∃ resize commitAt, bearer.resize = some resize ∧ s.pollResize bearer =
      { bearer with resize := some { resize with commitAt := some commitAt } }) ∨
      s.pollResize bearer = bearer := by
  unfold pollResize
  split
  · exact .inr rfl
  next resize resizing =>
    split
    · exact .inr rfl
    · split
      · exact .inl ⟨resize, _, resizing, rfl⟩
      · exact .inr rfl

section

variable (owned : s.SlotsOwned)

include owned

theorem SlotsOwned.poll : s.pollResizes.SlotsOwned := by
  have lookups (id : Nat) :
      s.pollResizes.bearers.lookup id = (s.bearers.lookup id).map s.pollResize :=
    lookup_mapValues _ _ _
  refine owned.same (fun id bearer found => ?_) (fun id found => ?_) fun ts _ => Iff.rfl
  · rw [lookups] at found
    obtain ⟨before, present, rfl⟩ := map_eq_some_iff.mp found
    refine ⟨before, present, ?_⟩
    rcases s.pollResize_spec before with ⟨resize, commitAt, resizing, polled⟩ | same
    · rw [polled]
      refine ⟨rfl, fun sound after resizing' => ?_, ?_⟩
      · cases resizing'
        exact sound resize resizing
      · unfold reservedBitmap expansion
        rw [resizing]
        rfl
    · rw [same]
      exact ⟨rfl, fun sound => sound, rfl⟩
  · rw [lookups, isSome_map]
    exact found

/-- A shrink gives back what it leaves out; an expansion keeps what it has reserved. -/
theorem SlotsOwned.commit (id generation : Nat) :
    (s.commitBearerResize id generation).SlotsOwned := by
  rcases s.commitBearerResize_cases id generation with
    idle | ⟨bearer, resize, present, resizing, core, -⟩
  · rw [idle]
    exact owned
  · obtain ⟨start, shrinking, growing, apart⟩ := owned.sound id bearer present.1 resize resizing
    have slots : (s.commitBearerResize id generation).timeslotAlloc = _ :=
      congrArg (·.timeslotAlloc) core
    refine owned.exchange present.1 (congrArg SndcpCore.bearers core) rfl
      (Bearer.sound_steady rfl) fun ts member => ?_
    rw [reserved_resizing resizing, reserved_steady rfl]
    unfold ownsSlot at *
    rw [slots]
    show _ ∧ resize.toBitmap.has ts = _ ∨ _ ∧ _ ∧ resize.toBitmap.has ts = true ∨
      _ ∧ _ ∧ resize.toBitmap.has ts = false
    by_cases shrinks : resize.expansionBitmap = 0
    · rw [if_pos shrinks, releaseEach_owner, start, has_and, has_not _ member,
        shrinks, has_zero, Bool.or_false]
      cases kept : resize.toBitmap.has ts with
      | true =>
        rw [if_neg fun given => by simp at given]
        exact .inl ⟨Iff.rfl, (shrinking shrinks ts member kept).symm⟩
      | false =>
        cases held : bearer.timeslotBitmap.has ts with
        | true =>
          refine .inr (.inr ⟨rfl, ?_, rfl⟩)
          split
          · exact nofun
          next kept' =>
            exact fun owns => kept' ⟨member, rfl, owns⟩
        | false =>
          rw [if_neg fun given => by simp at given]
          exact .inl ⟨Iff.rfl, rfl⟩
    · rw [if_neg shrinks]
      exact .inl ⟨Iff.rfl, growing shrinks ts member⟩

theorem SlotsOwned.rollback (id generation : Nat) :
    (s.rollbackBearerResize id generation).SlotsOwned := by
  rcases s.rollbackBearerResize_cases id generation with
    ⟨idle, -⟩ | ⟨bearer, resize, present, resizing, core, -⟩
  · rw [idle]
    exact owned
  · obtain ⟨-, -, -, apart⟩ := owned.sound id bearer present.1 resize resizing
    have slots : (s.rollbackBearerResize id generation).timeslotAlloc = _ :=
      congrArg (·.timeslotAlloc) core
    refine owned.exchange present.1 (congrArg SndcpCore.bearers core) rfl
      (Bearer.sound_steady rfl) fun ts member => ?_
    rw [reserved_resizing resizing, reserved_steady rfl]
    unfold ownsSlot
    rw [slots]
    by_cases shrinks : resize.expansionBitmap = 0
    · rw [shrinks, has_zero, Bool.or_false]
      exact .inl ⟨Iff.rfl, rfl⟩
    · rw [if_neg shrinks, releaseEach_owner]
      cases added : resize.expansionBitmap.has ts with
      | true =>
        rw [apart ts member added]
        refine .inr (.inr ⟨rfl, ?_, rfl⟩)
        split
        · exact nofun
        next kept =>
          exact fun owns => kept ⟨member, rfl, owns⟩
      | false =>
        rw [Bool.or_false, if_neg fun given => Bool.noConfusion given.2.1]
        exact .inl ⟨Iff.rfl, rfl⟩

theorem SlotsOwned.drain (commandId id generation forceAfterMs : Nat) :
    (s.announceDrain commandId id generation forceAfterMs).SlotsOwned := by
  rcases s.announceDrain_cases commandId id generation forceAfterMs with
    idle | ⟨bearer, present, core, -⟩
  · rw [idle]
    exact owned
  · exact owned.rewrite present.1 (congrArg SndcpCore.bearers core)
      (fun ts _ => ownsSlot_congr (congrArg SndcpCore.timeslotAlloc core) ts) rfl
      (fun sound => sound.congr rfl rfl) (reservedBitmap_congr rfl rfl)

/-- A change of members. -/
theorem SlotsOwned.members (id : Nat) {change : Bearer → Bearer}
    (same : ∀ bearer, (change bearer).id = bearer.id ∧
      (change bearer).timeslotBitmap = bearer.timeslotBitmap ∧
        (change bearer).resize = bearer.resize) (bearers : next.bearers = s.bearers.modify id change)
    (slots : next.timeslotAlloc = s.timeslotAlloc) : next.SlotsOwned := by
  refine owned.same (fun other bearer found => ?_) (fun other found => ?_)
    fun ts _ => ownsSlot_congr slots ts
  · rw [bearers, lookup_modify] at found
    split at found
    next here =>
      obtain ⟨before, present, rfl⟩ := map_eq_some_iff.mp found
      obtain ⟨name, bitmap, resize⟩ := same before
      rw [here]
      exact ⟨before, present, name, fun sound => sound.congr bitmap resize,
        reservedBitmap_congr bitmap resize⟩
    · exact ⟨bearer, found, rfl, fun sound => sound, rfl⟩
  · rw [bearers, lookup_modify]
    split
    next here =>
      rw [isSome_map, ← here]
      exact found
    · exact found

end

theorem insertMember_same (issi : Nat) (bearer : Bearer) :
    (bearer.insertMember issi).id = bearer.id ∧
      (bearer.insertMember issi).timeslotBitmap = bearer.timeslotBitmap ∧
        (bearer.insertMember issi).resize = bearer.resize := by
  unfold insertMember
  split <;> exact ⟨rfl, rfl, rfl⟩

theorem mem_insertMember {issi other : Nat} :
    other ∈ (bearer.insertMember issi).members ↔ other = issi ∨ other ∈ bearer.members := by
  unfold Bearer.insertMember
  split
  next inside =>
    exact ⟨.inr, fun either => either.elim (fun same => same ▸ inside) fun member => member⟩
  · simp [or_comm]

end Sndcp

end Bluestation
