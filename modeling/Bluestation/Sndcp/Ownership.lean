/-
**Contexts and bearers say the same.**

The contexts say on which bearer a terminal is, and the bearers say who their members are. The two
sides agree as long as no terminal on a bearer is forgotten or moved, and as long as the network
names the bearer's own slots.

* `Sndcp.roster`, `Sndcp.Rostered` — the two sides, and what holds of them.
* `Rostered.leave`, `Rostered.join`, `Rostered.releaseBearer` — what changes them.
-/

import Bluestation.Lib.Roster
import Bluestation.Sndcp.Slots

namespace Bluestation

open Option Bool Table Sndcp

/-- A bearer that serves the same terminals with the same slots; it may have begun to drain. -/
structure Bearer.Alike (after before : Bearer) : Prop where
  generation : after.generation = before.generation
  members : ∀ issi, issi ∈ after.members ↔ issi ∈ before.members
  timeslotBitmap : after.timeslotBitmap = before.timeslotBitmap
  life : after.draining = before.draining ∧ after.commandId = before.commandId ∧
      after.releaseAt = before.releaseAt ∨ after.draining = true ∧ after.releaseAt ≠ none

theorem Bearer.Alike.refl (bearer : Bearer) : bearer.Alike bearer :=
  ⟨rfl, fun _ => Iff.rfl, rfl, .inl ⟨rfl, rfl, rfl⟩⟩

namespace Sndcp

/-- Who is where: the contexts name bearers, and the bearers have members. -/
def roster (s : Sndcp) : Roster Nat (Nat × Nat) where
  place := s.place
  members group := {issi | ∃ bearer, s.has group.1 group.2 bearer ∧ issi ∈ bearer.members}

/-- **Contexts and bearers agree**, and a bearer without members waits for its command or drains. -/
structure Rostered (s : Sndcp) : Prop where
  attended : ∀ issi, s.lost issi = false
  labelled : ∀ issi, s.place issi ≠ none → (s.station issi).eventLabel ≠ none
  consistent : s.roster.Consistent
  agreed : ∀ issi id bearer, s.place issi = some (id, bearer.generation) →
    s.bearers.lookup id = some bearer → (s.station issi).timeslotBitmap = bearer.timeslotBitmap
  waiting : ∀ id bearer, s.bearers.lookup id = some bearer → bearer.members = [] →
    bearer.draining = true ∨ (s.pendingCommands.lookup bearer.commandId).isSome = true
  due : ∀ id bearer, s.bearers.lookup id = some bearer → bearer.draining = true →
    bearer.releaseAt ≠ none

variable {s next : Sndcp} {issi id : Nat} {bearer : Bearer}

variable (rostered : s.Rostered)

include rostered

/-- A terminal on a bearer is a member. -/
theorem Rostered.member {generation : Nat} (placed : s.place issi = some (id, generation)) :
    ∃ bearer, s.has id generation bearer ∧ issi ∈ bearer.members :=
  (rostered.consistent issi (id, generation)).mp placed

/-- A member is on its bearer. -/
theorem Rostered.placed (present : s.bearers.lookup id = some bearer) (member : issi ∈ bearer.members)
    : s.place issi = some (id, bearer.generation) :=
  (rostered.consistent issi (id, bearer.generation)).mpr ⟨bearer, ⟨present, rfl⟩, member⟩

/-! ### Bearers alike -/

/-- Every terminal stays where it is, or is nowhere, and every bearer serves its terminals. -/
theorem Rostered.alike (lost : ∀ issi, next.lost issi = true → s.lost issi = true)
    (stations : ∀ issi, next.station issi = s.station issi ∨
      next.place issi = none ∧ s.place issi = none)
    (after : ∀ id bearer, next.bearers.lookup id = some bearer →
      ∃ before, s.bearers.lookup id = some before ∧ bearer.Alike before)
    (kept : ∀ id before, s.bearers.lookup id = some before →
      ∃ bearer, next.bearers.lookup id = some bearer ∧ bearer.Alike before)
    (commands : ∀ commandId, (s.pendingCommands.lookup commandId).isSome = true →
      (next.pendingCommands.lookup commandId).isSome = true) : next.Rostered := by
  have place (issi : Nat) : next.place issi = s.place issi := by
    rcases stations issi with same | ⟨none, none'⟩
    · unfold place
      rw [same]
    · rw [none, none']
  have roster : next.roster = s.roster := by
    refine Roster.ext (funext place) ?_
    funext group
    ext issi
    constructor
    · rintro ⟨bearer, ⟨found, generation⟩, member⟩
      obtain ⟨before, present, alike⟩ := after _ bearer found
      exact ⟨before, ⟨present, alike.generation.symm.trans generation⟩, (alike.members issi).mp member⟩
    · rintro ⟨before, ⟨present, generation⟩, member⟩
      obtain ⟨bearer, found, alike⟩ := kept _ before present
      exact ⟨bearer, ⟨found, alike.generation.trans generation⟩, (alike.members issi).mpr member⟩
  refine ⟨fun issi => ?_, fun issi placed => ?_, ?_, fun issi id bearer placed found => ?_,
    fun id bearer found empty => ?_, fun id bearer found draining => ?_⟩
  · rw [← not_eq_true]
    intro gone
    exact absurd (lost issi gone) (by rw [rostered.attended issi]; exact false_ne_true)
  · rcases stations issi with same | ⟨none, -⟩
    · rw [same]
      exact rostered.labelled issi (place issi ▸ placed)
    · exact absurd none placed
  · rw [roster]
    exact rostered.consistent
  · obtain ⟨before, present, alike⟩ := after id bearer found
    rcases stations issi with same | ⟨none, -⟩
    · rw [same, alike.timeslotBitmap]
      refine rostered.agreed issi id before ?_ present
      rw [← place issi, placed, alike.generation]
    · rw [none] at placed
      cases placed
  · obtain ⟨before, present, alike⟩ := after id bearer found
    have vacant : before.members = [] := List.eq_nil_iff_forall_not_mem.mpr fun issi member => by
        have := (alike.members issi).mpr member
        rw [empty] at this
        cases this
    rcases alike.life with ⟨draining, command, -⟩ | ⟨drains, -⟩
    · rw [draining, command]
      exact (rostered.waiting id before present vacant).imp_right (commands before.commandId)
    · exact .inl drains
  · obtain ⟨before, present, alike⟩ := after id bearer found
    rcases alike.life with ⟨same, -, releaseAt⟩ | ⟨-, due⟩
    · rw [releaseAt]
      exact rostered.due id before present (same.symm.trans draining)
    · exact due

theorem Rostered.calm (calm : Calm true s next) : next.Rostered := by
  refine rostered.alike calm.lost (fun issi => .inl (calm.station issi)) (fun id bearer found => ?_)
    (fun id before present => ?_) (calm.commands rfl)
  · rw [calm.bearers id] at found
    exact ⟨bearer, found, .refl bearer⟩
  · exact ⟨before, (calm.bearers id).trans present, .refl before⟩

theorem Rostered.rewrite {before after : Bearer} (present : s.bearers.lookup id = some before)
    (bearers : next.bearers = s.bearers.insert id after) (contexts : next.contexts = s.contexts)
    (commands : next.pendingCommands = s.pendingCommands) (alike : after.Alike before) :
    next.Rostered := by
  have found (other : Nat) : next.bearers.lookup other =
      if other = id then some after else s.bearers.lookup other := by
    rw [bearers, lookup_insert_eq]
  refine rostered.alike (fun issi => ?_) (fun issi => .inl ?_) (fun other bearer held => ?_)
    (fun other bearer held => ?_) (fun commandId => ?_)
  · unfold lost
    rw [contexts]
    exact fun gone => gone
  · unfold station
    rw [contexts]
  · rw [found] at held
    split at held
    next here =>
      rw [← some.inj held, here]
      exact ⟨before, present, alike⟩
    · exact ⟨bearer, held, .refl bearer⟩
  · rw [found]
    split
    next here =>
      rw [here, present] at held
      cases held
      exact ⟨after, rfl, alike⟩
    · exact ⟨bearer, held, .refl bearer⟩
  · rw [commands]
    exact fun outstanding => outstanding

/-! ### Leaving -/

theorem Rostered.removeContext (free : s.place issi = none) : (s.removeContext issi).Rostered := by
  have lookups (other : Nat) : (s.removeContext issi).contexts.lookup other =
      if other = issi then none else s.contexts.lookup other := lookup_erase_eq _ _ _
  refine rostered.alike (fun other => ?_) (fun other => ?_)
    (fun id bearer found => ⟨bearer, found, .refl bearer⟩)
    (fun id bearer found => ⟨bearer, found, .refl bearer⟩) fun _ outstanding => outstanding
  · unfold lost
    rw [lookups]
    split
    · exact fun gone => Bool.noConfusion gone
    · exact fun gone => gone
  · unfold place station at *
    rw [lookups]
    split
    next here =>
      rw [here]
      exact .inr ⟨rfl, free⟩
    · exact .inl rfl

/-- **One terminal and one bearer change**: the terminal is on that bearer or nowhere, and the bearer
is gone or serves somebody as before. -/
theorem Rostered.amend {after : Option Bearer} {station : Station}
    (present : s.bearers.lookup id = some bearer)
    (stations : ∀ other, next.station other = if other = issi then station else s.station other)
    (lost : ∀ other, next.lost other = true → s.lost other = true)
    (bearers : ∀ other, next.bearers.lookup other = if other = id then after else s.bearers.lookup other)
    (commands : next.pendingCommands = s.pendingCommands) (consistent : next.roster.Consistent)
    (labelled : station.place ≠ none → station.eventLabel ≠ none)
    (agreed : ∀ wanted, station.place = some wanted → wanted.1 = id ∧
      station.timeslotBitmap = bearer.timeslotBitmap)
    (serves : ∀ held, after = some held → held.members ≠ [] ∧ held.generation = bearer.generation ∧
      held.timeslotBitmap = bearer.timeslotBitmap ∧ held.draining = bearer.draining ∧
      held.releaseAt = bearer.releaseAt) : next.Rostered := by
  have place (other : Nat) :
      next.place other = if other = issi then station.place else s.place other := by
    unfold place
    rw [stations]
    split <;> rfl
  refine ⟨fun other => ?_, fun other onBearer => ?_, consistent,
    fun other wanted held onBearer found => ?_, fun wanted held found empty => ?_,
    fun wanted held found draining => ?_⟩
  · rw [← not_eq_true]
    intro gone
    exact absurd (lost other gone) (by rw [rostered.attended other]; exact false_ne_true)
  · rw [place] at onBearer
    rw [stations]
    split at onBearer
    next here =>
      rw [if_pos here]
      exact labelled onBearer
    next different =>
      rw [if_neg different]
      exact rostered.labelled other onBearer
  · rw [place] at onBearer
    rw [stations]
    rw [bearers] at found
    split at onBearer
    next here =>
      obtain ⟨is, bitmap⟩ := agreed _ onBearer
      rw [if_pos is] at found
      rw [if_pos here, bitmap, (serves held found).2.2.1]
    next different =>
      rw [if_neg different]
      split at found
      next here =>
        obtain ⟨-, generation, bitmap, -⟩ := serves held found
        rw [generation] at onBearer
        rw [bitmap]
        exact rostered.agreed other wanted bearer onBearer (here ▸ present)
      · exact rostered.agreed other wanted held onBearer found
  · rw [bearers] at found
    rw [commands]
    split at found
    · exact absurd empty (serves held found).1
    · exact rostered.waiting wanted held found empty
  · rw [bearers] at found
    split at found
    · obtain ⟨-, -, -, drains, releaseAt⟩ := serves held found
      rw [releaseAt]
      exact rostered.due id bearer present (drains.symm.trans draining)
    · exact rostered.due wanted held found draining

/-- **A terminal leaves its bearer**, which is released if it was the last one. -/
theorem Rostered.leave (placed : s.place issi = some (id, bearer.generation))
    (present : s.bearers.lookup id = some bearer)
    (stations : ∀ other, next.station other = if other = issi then .blank else s.station other)
    (lost : ∀ other, next.lost other = true → s.lost other = true)
    (bearers : ∀ other, next.bearers.lookup other =
      if other = id then
        if (bearer.removeMember issi).members = [] then none else some (bearer.removeMember issi)
      else s.bearers.lookup other) (commands : next.pendingCommands = s.pendingCommands) :
    next.Rostered := by
  have place (other : Nat) : next.place other = if other = issi then none else s.place other := by
    unfold place
    rw [stations]
    split <;> rfl
  have membership (other : Nat) :
      other ∈ (bearer.removeMember issi).members ↔ other ∈ bearer.members ∧ other ≠ issi := by
    simp [Bearer.removeMember]
  have roster : next.roster = s.roster.leave issi := by
    refine Roster.ext (funext fun other => ?_) (funext fun group => Set.ext fun other => ?_)
    · show next.place other = Function.update s.place issi none other
      rw [place, Function.update_apply]
    · show (∃ held, (next.bearers.lookup group.1 = some held ∧ held.generation = group.2) ∧
          other ∈ held.members) ↔ (∃ held, (s.bearers.lookup group.1 = some held ∧
            held.generation = group.2) ∧ other ∈ held.members) ∧ other ≠ issi
      rw [bearers]
      by_cases here : group.1 = id
      · rw [if_pos here, here, present]
        constructor
        · rintro ⟨held, ⟨found, generation⟩, member⟩
          split at found
          · cases found
          · rw [← some.inj found] at generation member
            obtain ⟨member, different⟩ := (membership other).mp member
            exact ⟨⟨bearer, ⟨rfl, generation⟩, member⟩, different⟩
        · rintro ⟨⟨held, ⟨found, generation⟩, member⟩, different⟩
          rw [← some.inj found] at generation member
          have stays := (membership other).mpr ⟨member, different⟩
          rw [if_neg (List.ne_nil_of_mem stays)]
          exact ⟨_, ⟨rfl, generation⟩, stays⟩
      · rw [if_neg here]
        refine ⟨fun ⟨held, found, member⟩ => ⟨⟨held, found, member⟩, fun same => ?_⟩,
          fun both => both.1⟩
        rw [same] at member
        have elsewhere := rostered.placed found.1 member
        rw [placed] at elsewhere
        exact here (congrArg (·.1) (some.inj elsewhere)).symm
  refine rostered.amend present stations lost bearers commands ?_ (absurd rfl) nofun fun held is => ?_
  · rw [roster]
    exact rostered.consistent.leave issi
  · split at is
    · cases is
    next others =>
      cases is
      exact ⟨others, rfl, rfl, rfl, rfl⟩

theorem Rostered.detachPacketBearer (issi : Nat) : (s.detachPacketBearer issi).Rostered := by
  unfold Sndcp.detachPacketBearer
  split
  · exact rostered
  next context present =>
    generalize written : ({ s with
      contexts := s.contexts.insert issi context.detached } : Sndcp) = detached
    have contexts : detached.contexts = s.contexts.insert issi context.detached := by
      rw [← written]
    obtain ⟨stations, attended⟩ := stations_insert_detached present contexts rostered.attended
    have bearers : detached.bearers = s.bearers := by rw [← written]
    have commands : detached.pendingCommands = s.pendingCommands := by rw [← written]
    have lost {next : Sndcp} (contexts : next.contexts = detached.contexts) (other : Nat)
        (gone : next.lost other = true) : s.lost other = true := by
      have same : next.lost other = detached.lost other := by
        unfold lost
        rw [contexts]
      rw [same, attended other] at gone
      cases gone
    split
    next unassociated =>
      have free := place_of_unassociated present (rostered.labelled issi) unassociated
      refine rostered.alike (lost rfl) (fun other => ?_)
        (fun id bearer found => ⟨bearer, bearers ▸ found, .refl bearer⟩)
        (fun id bearer found => ⟨bearer, bearers.symm ▸ found, .refl bearer⟩)
        fun _ outstanding => commands.symm ▸ outstanding
      have here := stations other
      by_cases same : other = issi
      · rw [if_pos same] at here
        refine .inr ⟨?_, by rw [same]; exact free⟩
        unfold place
        rw [here]
        rfl
      · rw [if_neg same] at here
        exact .inl here
    next id generation label associated =>
      have on : s.place issi = some (id, generation) := by
        unfold place station
        rw [present]
        exact (context.place_of_association associated).1
      obtain ⟨bearer, ⟨held, named⟩, -⟩ := rostered.member on
      rw [← named] at on
      have kept := leaveBearer_frame detached issi id generation label
      refine rostered.leave on held (fun other => ?_) (fun other => lost kept.1 other)
        (fun other => ?_) (kept.2.trans commands)
      · rw [← stations other]
        unfold station
        rw [kept.1]
      · have there : detached.has id generation bearer := ⟨bearers.symm ▸ held, named⟩
        rw [(leaveBearer_spec detached there issi label).1, bearers]

/-! ### Joining -/

/-- **A terminal is entered on both sides**, from nowhere or from the bearer that it is on. -/
theorem Rostered.join {label : Nat} (present : s.bearers.lookup id = some bearer)
    (free : s.place issi = none ∨ s.place issi = some (id, bearer.generation))
    (stations : ∀ other, next.station other = if other = issi then
      ⟨some id, some bearer.generation, bearer.timeslotBitmap, some label⟩ else s.station other)
    (lost : ∀ other, next.lost other = true → s.lost other = true)
    (bearers : ∀ other, next.bearers.lookup other =
      if other = id then some (bearer.insertMember issi) else s.bearers.lookup other)
    (commands : next.pendingCommands = s.pendingCommands) : next.Rostered := by
  have place (other : Nat) : next.place other =
      if other = issi then some (id, bearer.generation) else s.place other := by
    unfold place
    rw [stations]
    split <;> rfl
  have same : (bearer.insertMember issi).generation = bearer.generation ∧
      (bearer.insertMember issi).timeslotBitmap = bearer.timeslotBitmap ∧
        (bearer.insertMember issi).draining = bearer.draining ∧
          (bearer.insertMember issi).releaseAt = bearer.releaseAt := by
    unfold Bearer.insertMember
    split <;> exact ⟨rfl, rfl, rfl, rfl⟩
  have generation := same.1
  have roster : next.roster = s.roster.join issi (id, bearer.generation) := by
    refine Roster.ext (funext fun other => ?_) (funext fun group => Set.ext fun other => ?_)
    · show next.place other = Function.update s.place issi _ other
      rw [place, Function.update_apply]
    · show (∃ held, (next.bearers.lookup group.1 = some held ∧ held.generation = group.2) ∧
          other ∈ held.members) ↔ other ∈ Function.update s.roster.members (id, bearer.generation)
            (insert issi (s.roster.members (id, bearer.generation))) group
      rw [bearers, Function.update_apply]
      by_cases here : group.1 = id
      · rw [if_pos here]
        by_cases generated : group.2 = bearer.generation
        · rw [if_pos (Prod.ext here generated)]
          constructor
          · rintro ⟨held, ⟨found, -⟩, member⟩
            rw [← some.inj found, mem_insertMember] at member
            exact member.imp_right fun member => ⟨bearer, ⟨present, rfl⟩, member⟩
          · intro member
            refine ⟨_, ⟨rfl, generation.trans generated.symm⟩, mem_insertMember.mpr ?_⟩
            rcases member with same | ⟨held, ⟨found, -⟩, inside⟩
            · exact .inl same
            · rw [some.inj (found.symm.trans present)] at inside
              exact .inr inside
        · rw [if_neg fun equal => generated (congrArg (·.2) equal)]
          constructor
          · rintro ⟨held, ⟨found, named⟩, -⟩
            rw [← some.inj found, generation] at named
            exact absurd named.symm generated
          · rintro ⟨held, ⟨found, named⟩, -⟩
            rw [here, present] at found
            cases found
            exact absurd named.symm generated
      · rw [if_neg here, if_neg fun equal => here (congrArg (·.1) equal)]
        exact Iff.rfl
  refine rostered.amend present stations lost bearers commands ?_ (fun _ => some_ne_none label)
    (fun wanted is => ?_) fun held is => ?_
  · rw [roster]
    exact rostered.consistent.join free
  · cases is
    exact ⟨rfl, rfl⟩
  · cases is
    exact ⟨List.ne_nil_of_mem (mem_insertMember.mpr (.inl rfl)), same⟩

/-- **A terminal joins a bearer** from nowhere, or the one that it is on, with the bearer's slots. -/
theorem Rostered.grantAccess {found : RadioContext} {result : AccessResult}
    (present : s.contexts.lookup issi = some found) (respond : result.response ≠ .none)
    (free : (s.place issi).all (·.1 = result.bearerId) = true)
    (fits : ∀ bearer, s.bearers.lookup result.bearerId = some bearer →
      result.timeslotBitmap = bearer.timeslotBitmap) :
    (s.grantAccess issi found result).Rostered := by
  have attended := rostered.attended issi
  obtain ⟨core, -⟩ := s.grantAccess_spec issi found respond
  have contexts : (s.grantAccess issi found result).contexts = s.contexts.insert issi _ :=
    congrArg (·.contexts) core
  have bearers : (s.grantAccess issi found result).bearers = s.bearers.modify result.bearerId _ :=
    congrArg (·.bearers) core
  have commands : (s.grantAccess issi found result).pendingCommands = s.pendingCommands :=
    congrArg (·.pendingCommands) core
  have elsewhere (other : Nat) (different : other ≠ issi) :
      (s.grantAccess issi found result).station other = s.station other := by
    unfold station
    rw [contexts, lookup_insert_eq, if_neg different]
  have here : (s.grantAccess issi found result).station issi =
      ⟨some result.bearerId, (s.bearers.lookup result.bearerId).map Bearer.generation,
        result.timeslotBitmap, some result.eventLabel⟩ := by
    unfold station
    rw [contexts, lookup_insert_eq, if_pos rfl, grantedContext_eq s respond]
    rfl
  have lost (other : Nat) (gone : (s.grantAccess issi found result).lost other = true) :
      s.lost other = true := by
    unfold lost at gone attended ⊢
    rw [contexts, lookup_insert_eq] at gone
    split at gone
    next same =>
      rw [present, any_some, RadioContext.isLost, or_eq_false_iff] at attended
      rw [grantedContext_eq s respond, any_some, RadioContext.isLost, same] at gone
      simp only [RadioContext.session] at gone
      exact absurd attended.1 (by simpa using gone)
    · exact gone
  cases holding : s.bearers.lookup result.bearerId with
  | none =>
    have nowhere : s.place issi = none := by
      cases placed : s.place issi with
      | none => rfl
      | some group =>
        obtain ⟨bearer, ⟨held, -⟩, -⟩ := rostered.member placed
        rw [placed, all_some, decide_eq_true_eq] at free
        rw [free, holding] at held
        cases held
    have same (id : Nat) :
        (s.grantAccess issi found result).bearers.lookup id = s.bearers.lookup id := by
      rw [bearers, lookup_modify]
      split
      next same =>
        rw [same, holding]
        rfl
      · rfl
    refine rostered.alike lost (fun other => ?_)
      (fun id bearer held => ⟨bearer, (same id).symm.trans held, .refl bearer⟩)
      (fun id bearer held => ⟨bearer, (same id).trans held, .refl bearer⟩) fun commandId => ?_
    · by_cases same : other = issi
      · refine .inr ⟨?_, by rw [same]; exact nowhere⟩
        unfold place
        rw [same, here, holding]
        rfl
      · exact .inl (elsewhere other same)
    · rw [commands]
      exact fun outstanding => outstanding
  | some bearer =>
    have stations (other : Nat) : (s.grantAccess issi found result).station other =
        if other = issi then ⟨some result.bearerId, some bearer.generation, bearer.timeslotBitmap,
          some result.eventLabel⟩ else s.station other := by
      split
      next same =>
        rw [same, here, holding, fits bearer holding]
        rfl
      next different =>
        exact elsewhere other different
    refine rostered.join holding ?_ stations lost (fun id => ?_) commands
    · cases placed : s.place issi with
      | none => exact .inl rfl
      | some group =>
        obtain ⟨held, ⟨there, generation⟩, -⟩ := rostered.member placed
        rw [placed, all_some, decide_eq_true_eq] at free
        rw [free, holding] at there
        rw [some.inj there, ← free, generation]
        exact .inr rfl
    · rw [bearers, lookup_modify, holding]
      rfl

/-! ### The life of a bearer -/

/-- Outstanding commands are dropped for which no bearer without members waits. -/
theorem Rostered.drop {keep : Nat → Nat → Bool}
    (may : ∀ id bearer, s.bearers.lookup id = some bearer → bearer.members = [] →
      bearer.draining = false → ∀ issi, s.pendingCommands.lookup bearer.commandId = some issi →
        keep bearer.commandId issi = true) :
    ({ s with pendingCommands := s.pendingCommands.retain keep } : Sndcp).Rostered := by
  refine ⟨rostered.attended, rostered.labelled, rostered.consistent, rostered.agreed,
    fun id bearer present empty => ?_, rostered.due⟩
  cases draining : bearer.draining with
  | true => exact .inl rfl
  | false =>
    rcases rostered.waiting id bearer present empty with drains | outstanding
    · cases draining.symm.trans drains
    · obtain ⟨issi, command⟩ := isSome_iff_exists.mp outstanding
      refine .inr ?_
      rw [lookup_retain, command, filter_some,
        if_pos (may id bearer present empty draining issi command)]
      rfl

/-- A bearer is opened, which waits for its command. -/
theorem Rostered.reserveBearer (commandId id generation : Nat) (requested : SlotBitmap) :
    (s.reserveBearer commandId id generation requested).Rostered := by
  rcases s.reserveBearer_cases commandId id generation requested with
    ⟨core, controls⟩ | ⟨-, core, -⟩ | ⟨missing, outstanding, -, core, -⟩
  · exact rostered.calm (.of_core core controls)
  · have bearers : (s.reserveBearer commandId id generation requested).bearers = s.bearers :=
      congrArg (·.bearers) core
    have contexts : (s.reserveBearer commandId id generation requested).contexts = s.contexts :=
      congrArg (·.contexts) core
    have commands : (s.reserveBearer commandId id generation requested).pendingCommands =
      s.pendingCommands := congrArg (·.pendingCommands) core
    refine rostered.alike (fun issi => ?_) (fun issi => .inl ?_)
      (fun other bearer held => ⟨bearer, by rwa [bearers] at held, .refl bearer⟩)
      (fun other bearer held => ⟨bearer, by rwa [bearers], .refl bearer⟩) fun commandId => ?_
    · unfold lost
      rw [contexts]
      exact fun gone => gone
    · unfold station
      rw [contexts]
    · rw [commands]
      exact fun outstanding => outstanding
  · have lookups (other : Nat) :
        (s.reserveBearer commandId id generation requested).bearers.lookup other =
          if other = id then
            some (openedBearer commandId id generation requested (s.obtainable requested))
          else s.bearers.lookup other :=
      (congrArg (AList.lookup other) (congrArg (·.bearers) core)).trans
        (Table.lookup_insert_eq _ _ _ _)
    have contexts : (s.reserveBearer commandId id generation requested).contexts = s.contexts :=
      congrArg (·.contexts) core
    have commands : (s.reserveBearer commandId id generation requested).pendingCommands =
      s.pendingCommands := congrArg (·.pendingCommands) core
    have stations (issi : Nat) :
        (s.reserveBearer commandId id generation requested).station issi = s.station issi := by
      unfold station
      rw [contexts]
    have place (issi : Nat) :
        (s.reserveBearer commandId id generation requested).place issi = s.place issi := by
      unfold place
      rw [stations]
    have roster : (s.reserveBearer commandId id generation requested).roster = s.roster := by
      refine Roster.ext (funext place) (funext fun group => Set.ext fun issi => ?_)
      show (∃ held, ((s.reserveBearer commandId id generation requested).bearers.lookup group.1 =
          some held ∧ held.generation = group.2) ∧ issi ∈ held.members) ↔
        ∃ held, (s.bearers.lookup group.1 = some held ∧ held.generation = group.2) ∧
          issi ∈ held.members
      rw [lookups]
      split
      next here =>
        rw [here, missing]
        constructor
        · rintro ⟨held, ⟨found, -⟩, member⟩
          cases found
          cases member
        · rintro ⟨held, ⟨found, -⟩, -⟩
          cases found
      · exact Iff.rfl
    refine ⟨fun issi => ?_, fun issi placed => ?_, ?_, fun issi other bearer placed held => ?_,
      fun other bearer held empty => ?_, fun other bearer held draining => ?_⟩
    · unfold lost
      rw [contexts]
      exact rostered.attended issi
    · rw [stations]
      exact rostered.labelled issi (place issi ▸ placed)
    · rw [roster]
      exact rostered.consistent
    · rw [stations]
      rw [place] at placed
      obtain ⟨there, ⟨present, -⟩, -⟩ := rostered.member placed
      rw [lookups] at held
      split at held
      next here =>
        rw [here, missing] at present
        cases present
      · exact rostered.agreed issi other bearer placed held
    · rw [lookups] at held
      rw [commands]
      split at held
      · cases held
        exact .inr outstanding
      · exact rostered.waiting other bearer held empty
    · rw [lookups] at held
      split at held
      · cases held
        cases draining
      · exact rostered.due other bearer held draining

theorem Rostered.startBearerResize (id generation : Nat) (toBitmap expansionBitmap : SlotBitmap) :
    (s.startBearerResize id generation toBitmap expansionBitmap).Rostered := by
  rcases s.startBearerResize_cases id generation toBitmap expansionBitmap with
    ⟨idle, -⟩ | ⟨bearer, present, -, -, -, -, core, -⟩
  · rw [idle]
    exact rostered
  · exact rostered.rewrite present.1 (congrArg SndcpCore.bearers core)
      (congrArg SndcpCore.contexts core) (congrArg SndcpCore.pendingCommands core)
      ⟨rfl, fun _ => Iff.rfl, rfl, .inl ⟨rfl, rfl, rfl⟩⟩

theorem Rostered.setSlots (alloc : TimeslotAllocator) : (s.setSlots alloc).Rostered :=
  ⟨rostered.attended, rostered.labelled, rostered.consistent, rostered.agreed, rostered.waiting,
    rostered.due⟩

theorem Rostered.expandBearer (candidate : Nat × Nat × SlotBitmap × SlotBitmap) :
    (s.expandBearer candidate).Rostered := by
  obtain ⟨id, generation, current, missing⟩ := candidate
  have reserved : (s.reserveSlots missing).Rostered := rostered.setSlots _
  unfold Sndcp.expandBearer
  dsimp only
  split
  · exact reserved.startBearerResize _ _ _ _
  · exact reserved

theorem Rostered.poll : s.pollResizes.Rostered := by
  have lookups (id : Nat) :
      s.pollResizes.bearers.lookup id = (s.bearers.lookup id).map s.pollResize :=
    lookup_mapValues _ _ _
  have alike (bearer : Bearer) : (s.pollResize bearer).Alike bearer := by
    rcases s.pollResize_spec bearer with ⟨resize, commitAt, -, polled⟩ | same
    · rw [polled]
      exact ⟨rfl, fun _ => Iff.rfl, rfl, .inl ⟨rfl, rfl, rfl⟩⟩
    · rw [same]
      exact .refl bearer
  refine rostered.alike (fun _ => id) (fun _ => .inl rfl) (fun id bearer held => ?_)
    (fun id before present => ?_) fun _ outstanding => outstanding
  · rw [lookups] at held
    obtain ⟨before, present, rfl⟩ := map_eq_some_iff.mp held
    exact ⟨before, present, alike before⟩
  · rw [lookups, present]
    exact ⟨_, rfl, alike before⟩

theorem Rostered.rollbackBearerResize (id generation : Nat) :
    (s.rollbackBearerResize id generation).Rostered := by
  rcases s.rollbackBearerResize_cases id generation with
    ⟨idle, -⟩ | ⟨bearer, resize, present, -, core, -⟩
  · rw [idle]
    exact rostered
  · exact rostered.rewrite present.1 (congrArg SndcpCore.bearers core)
      (congrArg SndcpCore.contexts core) (congrArg SndcpCore.pendingCommands core)
      ⟨rfl, fun _ => Iff.rfl, rfl, .inl ⟨rfl, rfl, rfl⟩⟩

theorem Rostered.announceDrain (commandId id generation forceAfterMs : Nat) :
    (s.announceDrain commandId id generation forceAfterMs).Rostered := by
  rcases s.announceDrain_cases commandId id generation forceAfterMs with
    idle | ⟨bearer, present, core, -⟩
  · rw [idle]
    exact rostered
  · exact rostered.rewrite present.1 (congrArg SndcpCore.bearers core)
      (congrArg SndcpCore.contexts core) (congrArg SndcpCore.pendingCommands core)
      ⟨rfl, fun _ => Iff.rfl, rfl, .inr ⟨rfl, some_ne_none _⟩⟩

theorem Rostered.rehashMembers (id : Nat) (order : List Nat) :
    (s.rehashMembers id order).Rostered := by
  cases present : s.bearers.lookup id with
  | none =>
    have same : (s.rehashMembers id order).bearers = s.bearers := by
      unfold Sndcp.rehashMembers Table.modify
      rw [present]
    refine rostered.alike (fun _ gone => gone) (fun _ => .inl rfl)
      (fun other bearer held => ⟨bearer, by rwa [same] at held, .refl bearer⟩)
      (fun other bearer held => ⟨bearer, by rwa [same], .refl bearer⟩)
      fun _ outstanding => outstanding
  | some bearer =>
    have written : (s.rehashMembers id order).bearers = s.bearers.insert id
        { bearer with
          members := bearer.members.insertionSort fun left right =>
            order.idxOf left ≤ order.idxOf right } := by
      unfold Sndcp.rehashMembers Table.modify
      rw [present]
    refine rostered.rewrite present written rfl rfl ⟨rfl, fun issi => ?_, rfl, .inl ⟨rfl, rfl, rfl⟩⟩
    exact (List.perm_insertionSort _ _).mem_iff

/-- A bearer is gone, and its members are nowhere. -/
theorem Rostered.releaseBearer (id generation : Nat) (forced : Bool) :
    (s.releaseBearer id generation forced).Rostered := by
  rcases s.releaseBearer_cases id generation forced with
    ⟨idle, -⟩ | ⟨bearer, ⟨present, named⟩, core, -⟩
  · rw [idle]
    exact rostered
  · generalize s.releaseBearer id generation forced = next at core
    obtain ⟨stations, attended⟩ :=
      stations_detached (congrArg (·.contexts) core) rostered.attended
    have bearers (other : Nat) : next.bearers.lookup other =
        if other = id then none else s.bearers.lookup other :=
      (congrArg (AList.lookup other) (congrArg (·.bearers) core)).trans
        (Table.lookup_erase_eq _ _ _)
    have commands : next.pendingCommands = s.pendingCommands :=
      congrArg (·.pendingCommands) core
    have place (issi : Nat) : next.place issi =
        if s.place issi = some (id, bearer.generation) then none else s.place issi := by
      have membership : s.place issi = some (id, bearer.generation) ↔ issi ∈ bearer.members := by
        refine ⟨fun placed => ?_, rostered.placed present⟩
        obtain ⟨held, ⟨found, -⟩, member⟩ := rostered.member placed
        rwa [some.inj (found.symm.trans present)] at member
      simp only [membership]
      unfold place
      rw [stations]
      split <;> rfl
    have roster : next.roster = s.roster.dissolve (id, bearer.generation) := by
      refine Roster.ext (funext place) (funext fun group => Set.ext fun issi => ?_)
      show (∃ held, (next.bearers.lookup group.1 = some held ∧ held.generation = group.2) ∧
        issi ∈ held.members) ↔ issi ∈ Function.update s.roster.members (id, bearer.generation) ∅ group
      rw [bearers, Function.update_apply]
      by_cases here : group.1 = id
      · rw [if_pos here]
        refine iff_of_false (fun ⟨held, ⟨found, _⟩, _⟩ => some_ne_none _ found.symm) ?_
        split
        · exact Set.notMem_empty issi
        next other =>
          rintro ⟨held, ⟨found, generated⟩, -⟩
          rw [here, present] at found
          cases found
          exact other (Prod.ext here generated.symm)
      · rw [if_neg here, if_neg fun equal => here (congrArg (·.1) equal)]
        exact Iff.rfl
    refine ⟨attended, fun issi placed => ?_, ?_, fun issi other held placed found => ?_,
      fun other held found empty => ?_, fun other held found draining => ?_⟩
    · rw [place] at placed
      split at placed
      · exact absurd rfl placed
      next elsewhere =>
        rw [stations, if_neg fun member => elsewhere (rostered.placed present member)]
        exact rostered.labelled issi placed
    · rw [roster]
      exact rostered.consistent.dissolve _
    · rw [place] at placed
      split at placed
      · cases placed
      next elsewhere =>
        rw [bearers] at found
        split at found
        · cases found
        · rw [stations, if_neg fun member => elsewhere (rostered.placed present member)]
          exact rostered.agreed issi other held placed found
    · rw [bearers] at found
      rw [commands]
      split at found
      · cases found
      · exact rostered.waiting other held found empty
    · rw [bearers] at found
      split at found
      · cases found
      · exact rostered.due other held found draining

/-- A committed resize is written on both sides. -/
theorem Rostered.commitBearerResize (id generation : Nat) :
    (s.commitBearerResize id generation).Rostered := by
  rcases s.commitBearerResize_cases id generation with
    idle | ⟨bearer, resize, ⟨present, named⟩, -, core, -⟩
  · rw [idle]
    exact rostered
  · generalize s.commitBearerResize id generation = next at core
    have contexts (issi : Nat) : next.contexts.lookup issi =
        if issi ∈ bearer.members then (s.contexts.lookup issi).map fun context =>
          { context with timeslotBitmap := resize.toBitmap }
        else s.contexts.lookup issi := by
      refine (congrArg (AList.lookup issi) (congrArg (·.contexts) core)).trans ?_
      refine lookup_foldl_modify _ ?_ _ _
      exact fun _ => rfl
    have bearers (other : Nat) : next.bearers.lookup other =
        if other = id then some (s.committed bearer resize) else s.bearers.lookup other :=
      (congrArg (AList.lookup other) (congrArg (·.bearers) core)).trans
        (Table.lookup_insert_eq _ _ _ _)
    have commands : next.pendingCommands = s.pendingCommands :=
      congrArg (·.pendingCommands) core
    have label (issi : Nat) : (next.station issi).eventLabel = (s.station issi).eventLabel := by
      unfold station
      rw [contexts]
      split
      · cases s.contexts.lookup issi <;> rfl
      · rfl
    have place (issi : Nat) : next.place issi = s.place issi := by
      unfold place station
      rw [contexts]
      split
      · cases s.contexts.lookup issi <;> rfl
      · rfl
    have roster : next.roster = s.roster := by
      refine Roster.ext (funext place) (funext fun group => Set.ext fun issi => ?_)
      show (∃ held, (next.bearers.lookup group.1 = some held ∧ held.generation = group.2) ∧
          issi ∈ held.members) ↔
        ∃ held, (s.bearers.lookup group.1 = some held ∧ held.generation = group.2) ∧
          issi ∈ held.members
      rw [bearers]
      split
      next here =>
        rw [here, present]
        constructor
        · rintro ⟨held, ⟨found, generated⟩, member⟩
          rw [← some.inj found] at generated member
          exact ⟨bearer, ⟨rfl, generated⟩, member⟩
        · rintro ⟨held, ⟨found, generated⟩, member⟩
          rw [← some.inj found] at generated member
          exact ⟨_, ⟨rfl, generated⟩, member⟩
      · exact Iff.rfl
    refine ⟨fun issi => ?_, fun issi placed => ?_, ?_, fun issi other held placed found => ?_,
      fun other held found empty => ?_, fun other held found draining => ?_⟩
    · have attended := rostered.attended issi
      unfold lost at attended ⊢
      rw [contexts]
      split
      · cases context : s.contexts.lookup issi with
        | none => rfl
        | some context' =>
          rw [context] at attended
          exact attended
      · exact attended
    · rw [label]
      exact rostered.labelled issi (place issi ▸ placed)
    · rw [roster]
      exact rostered.consistent
    · rw [place] at placed
      rw [bearers] at found
      split at found
      · rename_i here
        rw [← some.inj found] at placed ⊢
        obtain ⟨there, ⟨found', -⟩, member⟩ := rostered.member placed
        rw [here, present] at found'
        cases found'
        unfold Sndcp.place station at placed
        unfold station
        rw [contexts, if_pos member]
        cases context : s.contexts.lookup issi with
        | none =>
          rw [context] at placed
          cases placed
        | some context' => rfl
      next elsewhere =>
        have apart : issi ∉ bearer.members := fun member => by
          have there := rostered.placed present member
          rw [placed] at there
          exact elsewhere (congrArg (·.1) (some.inj there))
        unfold station
        rw [contexts, if_neg apart]
        exact rostered.agreed issi other held placed found
    · rw [bearers] at found
      rw [commands]
      split at found
      · rw [← some.inj found] at empty ⊢
        exact rostered.waiting id bearer present empty
      · exact rostered.waiting other held found empty
    · rw [bearers] at found
      split at found
      · rw [← some.inj found] at draining ⊢
        exact rostered.due id bearer present draining
      · exact rostered.due other held found draining

end Sndcp

end Bluestation
