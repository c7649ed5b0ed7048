/-
**The MAC's labels are those of terminals on bearers.**

A label is bound when its terminal joins a bearer, and removed when the terminal leaves it or the
bearer is released. As long as the MAC knows every bearer, what it has bound is what the contexts say.

* `Sndcp.Labelled` — what the MAC has bound, and what the contexts say.
* `Announced.grantAccess`, `Announced.detachPacketBearer`, `Announced.releaseBearer` — the changes.
-/

import Bluestation.Sndcp.Mirror

namespace Bluestation

open SlotBitmap List Option Bool Table Sndcp EventLabelStore

namespace Sndcp

/-- **A label that the MAC has bound is the label of a terminal on a bearer**, and terminals on
bearers have different labels. -/
structure Labelled (s : Sndcp) (umac : PacketUmac) : Prop where
  attended : ∀ issi, s.lost issi = false
  labelled : ∀ issi, s.place issi ≠ none → (s.station issi).eventLabel ≠ none
  member : ∀ issi id generation, s.place issi = some (id, generation) →
    ∃ bearer, s.has id generation bearer ∧ issi ∈ bearer.members
  current : ∀ id bearer, s.bearers.lookup id = some bearer →
    umac.packetBearerGenerations.lookup id = some bearer.generation
  stored : ∀ label addr, umac.eventLabelStore.getAddrByLabel label = some addr →
    s.place addr.ssi ≠ none ∧ (s.station addr.ssi).eventLabel = some label
  distinct : ∀ first second, s.place first ≠ none → s.place second ≠ none →
    (s.station first).eventLabel = (s.station second).eventLabel → first = second

def Announced (s : Sndcp) (umac : PacketUmac) : Prop :=
  s.SlotsOwned ∧ s.Mirrored umac ∧ s.Labelled umac

/-- **The MAC follows**: it is right again after it has handled the new messages. -/
def Follows (umac : PacketUmac) (s next : Sndcp) : Prop :=
  ∃ new, next.controls = s.controls ++ new ∧
    next.Announced (new.foldl PacketUmac.rxPacketBearerControl umac)

variable {s next : Sndcp} {umac later : PacketUmac}

theorem Follows.silent (controls : next.controls = s.controls) (announced : next.Announced umac) :
    Follows umac s next :=
  ⟨[], controls.trans (append_nil _).symm, announced⟩

/-- The terminals stay where they are, with their labels; bearers may gain members. -/
theorem Labelled.same (labelled : s.Labelled umac)
    (lost : ∀ issi, next.lost issi = true → s.lost issi = true)
    (place : ∀ issi, next.place issi = s.place issi)
    (labels : ∀ issi, s.place issi ≠ none →
      (next.station issi).eventLabel = (s.station issi).eventLabel)
    (members : ∀ id generation bearer, s.has id generation bearer →
      ∃ after, next.has id generation after ∧ ∀ issi ∈ bearer.members, issi ∈ after.members)
    (current : ∀ id bearer, next.bearers.lookup id = some bearer →
      later.packetBearerGenerations.lookup id = some bearer.generation)
    (store : ∀ label addr, later.eventLabelStore.getAddrByLabel label = some addr →
      umac.eventLabelStore.getAddrByLabel label = some addr) : next.Labelled later := by
  refine ⟨fun issi => ?_, fun issi placed => ?_, fun issi id generation placed => ?_, current,
    fun label addr found => ?_, fun first second firstOn secondOn equal => ?_⟩
  · rw [← not_eq_true]
    intro gone
    exact absurd (lost issi gone) (by rw [labelled.attended issi]; exact false_ne_true)
  · rw [place] at placed
    rw [labels issi placed]
    exact labelled.labelled issi placed
  · rw [place] at placed
    obtain ⟨bearer, present, member⟩ := labelled.member issi id generation placed
    obtain ⟨after, there, kept⟩ := members id generation bearer present
    exact ⟨after, there, kept issi member⟩
  · obtain ⟨placed, label⟩ := labelled.stored label addr (store label addr found)
    rw [place, labels addr.ssi placed]
    exact ⟨placed, label⟩
  · rw [place] at firstOn secondOn
    rw [labels first firstOn, labels second secondOn] at equal
    exact labelled.distinct first second firstOn secondOn equal

variable {id issi : Nat}

/-- The terminals stay where they are; one bearer is written that keeps its members. -/
theorem Labelled.rewrite (labelled : s.Labelled umac) {before after : Bearer}
    (present : s.bearers.lookup id = some before) (bearers : ∀ other, next.bearers.lookup other =
      if other = id then some after else s.bearers.lookup other)
    (lost : ∀ issi, next.lost issi = true → s.lost issi = true)
    (place : ∀ issi, next.place issi = s.place issi) (labels : ∀ issi, s.place issi ≠ none →
      (next.station issi).eventLabel = (s.station issi).eventLabel)
    (generation : after.generation = before.generation)
    (members : ∀ issi ∈ before.members, issi ∈ after.members)
    (generations : ∀ other known, umac.packetBearerGenerations.lookup other = some known →
      (other = id → known = before.generation) →
        later.packetBearerGenerations.lookup other = some known)
    (store : later.eventLabelStore = umac.eventLabelStore) : next.Labelled later := by
  refine labelled.same lost place labels (fun other wanted bearer found => ?_)
    (fun other bearer found => ?_) (fun label addr found => by rwa [store] at found)
  · obtain ⟨found, named⟩ := found
    unfold has
    rw [bearers]
    split
    next here =>
      rw [here, present] at found
      rw [← some.inj found] at named ⊢
      exact ⟨after, ⟨rfl, generation.trans named⟩, members⟩
    · exact ⟨bearer, ⟨found, named⟩, fun _ member => member⟩
  · rw [bearers] at found
    split at found
    next here =>
      rw [← some.inj found, generation, here]
      exact generations id _ (labelled.current id before present) fun _ => rfl
    next elsewhere =>
      exact generations other _ (labelled.current other bearer found) fun same =>
        absurd same elsewhere

theorem open_current {generation other known : Nat} (bitmap : SlotBitmap)
    (found : umac.packetBearerGenerations.lookup other = some known)
    (same : other = id → known = generation) :
    (umac.openPacketBearer id generation bitmap).packetBearerGenerations.lookup other =
      some known := by
  rcases umac.open_cases id generation bitmap with ⟨_, _, _, ignored⟩ | ⟨-, taken⟩
  · rw [ignored]
    exact found
  · rw [taken]
    rw [lookup_insert_eq]
    split
    next here =>
      rw [same here]
    · exact found

theorem open_store (umac : PacketUmac) (id generation : Nat) (bitmap : SlotBitmap) :
    (umac.openPacketBearer id generation bitmap).eventLabelStore = umac.eventLabelStore := by
  unfold PacketUmac.openPacketBearer
  split <;> rfl

theorem close_store (umac : PacketUmac) (id generation : Nat) :
    (umac.closePacketBearer id generation).eventLabelStore = umac.eventLabelStore ∧
      (umac.closePacketBearer id generation).packetBearerGenerations =
        umac.packetBearerGenerations := by
  unfold PacketUmac.closePacketBearer
  split <;> exact ⟨rfl, rfl⟩

/-! ### What the MAC need not hear of -/

theorem Announced.calm {counts : Bool} (announced : s.Announced umac)
    (calm : Calm counts s next) : Follows umac s next := by
  obtain ⟨owned, mirrored, labelled⟩ := announced
  refine .silent calm.controls ⟨owned.calm calm, mirrored.unchanged (fun id bearer found => ?_)
    (fun id found => ?_) ⟨rfl, rfl⟩, labelled.same calm.lost calm.place
      (fun issi _ => by rw [calm.station]) (fun id generation bearer found => ?_)
      (fun id bearer found => ?_) fun _ _ found => found⟩
  · rw [calm.bearers] at found
    exact ⟨bearer, found, mirrored.sameSlots found⟩
  · rw [calm.bearers]
    exact found
  · refine ⟨bearer, ?_, fun _ member => member⟩
    unfold has
    rw [calm.bearers]
    exact found
  · rw [calm.bearers] at found
    exact labelled.current id bearer found

theorem Announced.unplaced (announced : s.Announced umac) (bearers : next.bearers = s.bearers)
    (slots : next.timeslotAlloc = s.timeslotAlloc) (controls : next.controls = s.controls)
    (attended : ∀ issi, next.lost issi = false) (free : s.place issi = none)
    (freed : next.place issi = none)
    (stations : ∀ other, other ≠ issi → next.station other = s.station other) :
    Follows umac s next := by
  obtain ⟨owned, mirrored, labelled⟩ := announced
  have place (other : Nat) : next.place other = s.place other := by
    by_cases here : other = issi
    · rw [here, free, freed]
    · unfold place
      rw [stations other here]
  refine .silent controls ⟨owned.of_eq bearers slots, mirrored.unchanged (fun id bearer found => ?_)
    (fun id found => by rwa [bearers]) ⟨rfl, rfl⟩, labelled.same (fun other gone => ?_) place
      (fun other placed => ?_) (fun id generation bearer found => ⟨bearer, ?_, fun _ member => member⟩)
      (fun id bearer found => labelled.current id bearer (by rwa [bearers] at found))
      fun _ _ found => found⟩
  · rw [bearers] at found
    exact ⟨bearer, found, mirrored.sameSlots found⟩
  · rw [attended] at gone
    cases gone
  · have elsewhere : other ≠ issi := fun here => placed (by rw [here, free])
    rw [stations other elsewhere]
  · unfold has
    rw [bearers]
    exact found

theorem Announced.removeContext (announced : s.Announced umac) (free : s.place issi = none) :
    Follows umac s (s.removeContext issi) := by
  have lookups (other : Nat) : (s.removeContext issi).contexts.lookup other =
      if other = issi then none else s.contexts.lookup other := lookup_erase_eq _ _ _
  refine announced.unplaced rfl rfl rfl (fun other => ?_) free ?_ fun other elsewhere => ?_
  · have before := announced.2.2.attended other
    unfold lost at before ⊢
    rw [lookups]
    split
    · rfl
    · exact before
  · unfold place station
    rw [lookups, if_pos rfl]
    rfl
  · unfold station
    rw [lookups, if_neg elsewhere]

/-! ### Leaving -/

/-- A terminal has left its bearer, and its label is gone. -/
theorem Labelled.leave (labelled : s.Labelled umac) {label : Nat} {bearer : Bearer}
    (present : s.bearers.lookup id = some bearer) (own : (s.station issi).eventLabel = some label)
    (stations : ∀ other, next.station other = if other = issi then .blank else s.station other)
    (attended : ∀ issi, next.lost issi = false) (bearers : ∀ other, next.bearers.lookup other =
      if other = id then
        if (bearer.removeMember issi).members = [] then none else some (bearer.removeMember issi)
      else s.bearers.lookup other)
    (generations : later.packetBearerGenerations = umac.packetBearerGenerations)
    (store : ∀ other addr, later.eventLabelStore.getAddrByLabel other = some addr →
      umac.eventLabelStore.getAddrByLabel other = some addr ∧ other ≠ label) :
    next.Labelled later := by
  have place (other : Nat) : next.place other = if other = issi then none else s.place other := by
    unfold place
    rw [stations]
    split <;> rfl
  have elsewhere {other : Nat} (placed : next.place other ≠ none) :
      other ≠ issi ∧ s.place other ≠ none := by
    rw [place] at placed
    split at placed
    · exact absurd rfl placed
    · exact ⟨‹_›, placed⟩
  have label' {other : Nat} (different : other ≠ issi) :
      (next.station other).eventLabel = (s.station other).eventLabel := by
    rw [stations, if_neg different]
  refine ⟨attended, fun other placed => ?_, fun other wanted generation placed => ?_,
    fun other held found => ?_, fun other addr found => ?_,
    fun first second firstOn secondOn equal => ?_⟩
  · obtain ⟨different, placed⟩ := elsewhere placed
    rw [label' different]
    exact labelled.labelled other placed
  · rw [place] at placed
    split at placed
    · cases placed
    next different =>
      obtain ⟨held, ⟨found, named⟩, member⟩ := labelled.member other wanted generation placed
      unfold has
      rw [bearers]
      split
      next here =>
        rw [here, present] at found
        rw [← some.inj found] at named member
        have stays : other ∈ (bearer.removeMember issi).members := by
          simp [Bearer.removeMember, member, different]
        rw [if_neg (ne_nil_of_mem stays)]
        exact ⟨_, ⟨rfl, named⟩, stays⟩
      · exact ⟨held, ⟨found, named⟩, member⟩
  · rw [generations]
    rw [bearers] at found
    split at found
    next here =>
      split at found
      · cases found
      · rw [← some.inj found, here]
        exact labelled.current id bearer present
    · exact labelled.current other held found
  · obtain ⟨before, different⟩ := store other addr found
    obtain ⟨placed, stored⟩ := labelled.stored other addr before
    have apart : addr.ssi ≠ issi := fun here => by
      rw [here, own] at stored
      exact different (some.inj stored).symm
    rw [place, if_neg apart, label' apart]
    exact ⟨placed, stored⟩
  · obtain ⟨firstApart, firstOn⟩ := elsewhere firstOn
    obtain ⟨secondApart, secondOn⟩ := elsewhere secondOn
    rw [label' firstApart, label' secondApart] at equal
    exact labelled.distinct first second firstOn secondOn equal

theorem Announced.detachPacketBearer (announced : s.Announced umac) (issi : Nat) :
    Follows umac s (s.detachPacketBearer issi) := by
  obtain ⟨owned, mirrored, labelled⟩ := announced
  have slots := owned.detachPacketBearer issi
  unfold Sndcp.detachPacketBearer at slots ⊢
  split at slots
  · exact .silent rfl ⟨owned, mirrored, labelled⟩
  next context present =>
    generalize written : ({ s with
      contexts := s.contexts.insert issi context.detached } : Sndcp) = detached at *
    have contexts : detached.contexts = s.contexts.insert issi context.detached := by
      rw [← written]
    obtain ⟨stations, attended⟩ := stations_insert_detached present contexts labelled.attended
    have bearers : detached.bearers = s.bearers := by rw [← written]
    have sent : detached.controls = s.controls := by rw [← written]; rfl
    have own : s.station issi = context.station := by
      unfold station
      rw [present]
      rfl
    split at slots
    next unassociated =>
      have free := place_of_unassociated present (labelled.labelled issi) unassociated
      refine Announced.unplaced ⟨owned, mirrored, labelled⟩ bearers (by rw [← written]) sent
        attended free ?_ fun other elsewhere => ?_
      · unfold place
        rw [stations, if_pos rfl]
        rfl
      · rw [stations, if_neg elsewhere]
    next id generation label associated =>
      obtain ⟨on, marked⟩ := context.place_of_association associated
      have placed : s.place issi = some (id, generation) := by
        unfold place
        rw [own]
        exact on
      obtain ⟨bearer, ⟨held, named⟩, -⟩ := labelled.member issi id generation placed
      subst named
      have known := labelled.current id bearer held
      have matching := (mirrored.matches held).mpr known
      obtain ⟨same, store⟩ := umac.rx_detach id bearer.generation label
      rw [if_pos matching] at store
      have kept := (leaveBearer_frame detached issi id bearer.generation label).1
      have marked' : (s.station issi).eventLabel = some label := by
        rw [own]
        exact marked
      have stations' (other : Nat) :
          (detached.leaveBearer issi id bearer.generation label).station other =
            if other = issi then .blank else s.station other := by
        rw [← stations other]
        unfold station
        rw [kept]
      have attended' (other : Nat) :
          (detached.leaveBearer issi id bearer.generation label).lost other = false := by
        rw [← attended other]
        unfold lost
        rw [kept]
      have there : detached.has id bearer.generation bearer := ⟨bearers.symm ▸ held, rfl⟩
      obtain ⟨lookups, controls⟩ := leaveBearer_spec detached there issi label
      rw [bearers] at lookups
      rw [sent, owned.keyed id bearer held] at controls
      refine ⟨_, controls, slots, ?_⟩
      have removed : ∀ other addr, (umac.rxPacketBearerControl
          (.detach id bearer.generation label)).eventLabelStore.getAddrByLabel other = some addr →
            umac.eventLabelStore.getAddrByLabel other = some addr ∧ other ≠ label := by
        intro other addr found
        rw [store] at found
        exact (lookup_remove_some found).symm
      by_cases last : (bearer.removeMember issi).members = []
      · rw [if_pos last]
        simp only [last, if_true] at lookups
        obtain ⟨closedStore, closedGenerations⟩ := close_store
          (umac.rxPacketBearerControl (.detach id bearer.generation label)) id bearer.generation
        refine ⟨(mirrored.heard same).closed held lookups, labelled.leave held marked' stations'
          attended' (fun other => ?_) (closedGenerations.trans same.2) fun other addr found =>
            removed other addr ?_⟩
        · rw [lookups, if_pos last]
        · exact closedStore ▸ found
      · rw [if_neg last]
        simp only [last, if_false] at lookups
        refine ⟨mirrored.rewritten held lookups ?_ same, labelled.leave held marked' stations'
          attended' (fun other => ?_) same.2 removed⟩
        · exact ⟨rfl, fun _ _ => rfl, mirrored.used id bearer held,
            fun resize => mirrored.remains id bearer resize held⟩
        · rw [lookups, if_neg last]

/-- A bearer is gone, and the labels of its members with it. -/
theorem Announced.releaseBearer (announced : s.Announced umac) (id generation : Nat)
    (forced : Bool) : Follows umac s (s.releaseBearer id generation forced) := by
  obtain ⟨owned, mirrored, labelled⟩ := announced
  have slots := owned.releaseBearer id generation forced
  rcases s.releaseBearer_cases id generation forced with
    ⟨idle, -⟩ | ⟨bearer, ⟨present, named⟩, core, gone, controls, labels⟩
  · rw [idle]
    exact .silent rfl ⟨owned, mirrored, labelled⟩
  · subst named
    rw [owned.keyed id bearer present] at controls
    generalize s.releaseBearer id bearer.generation forced = next at *
    obtain ⟨stations, attended⟩ :=
      stations_detached (congrArg (·.contexts) core) labelled.attended
    have bearers (other : Nat) : next.bearers.lookup other =
        if other = id then none else s.bearers.lookup other :=
      (congrArg (AList.lookup other) (congrArg (·.bearers) core)).trans
        (Table.lookup_erase_eq _ _ _)
    have place (issi : Nat) : next.place issi =
        if issi ∈ bearer.members then none else s.place issi := by
      unfold place
      rw [stations]
      split <;> rfl
    have elsewhere {issi : Nat} (placed : next.place issi ≠ none) :
        issi ∉ bearer.members ∧ s.place issi ≠ none := by
      rw [place] at placed
      split at placed
      · exact absurd rfl placed
      · exact ⟨‹_›, placed⟩
    have label {issi : Nat} (apart : issi ∉ bearer.members) :
        (next.station issi).eventLabel = (s.station issi).eventLabel := by
      rw [stations, if_neg apart]
    obtain ⟨same, detached⟩ := umac.detachAll_labels id bearer.generation gone
    have matching := (mirrored.matches present).mpr (labelled.current id bearer present)
    obtain ⟨closedStore, closedGenerations⟩ := close_store
      ((gone.map (.detach id bearer.generation ·)).foldl PacketUmac.rxPacketBearerControl umac)
      id bearer.generation
    refine ⟨_, (append_assoc _ _ _ ▸ controls), slots, ?_⟩
    rw [foldl_append]
    refine ⟨(mirrored.heard same).closed present bearers, attended, fun issi placed => ?_,
      fun issi wanted generation placed => ?_, fun other held found => ?_,
      fun other addr found => ?_, fun first second firstOn secondOn equal => ?_⟩
    · obtain ⟨apart, placed⟩ := elsewhere placed
      rw [label apart]
      exact labelled.labelled issi placed
    · rw [place] at placed
      split at placed
      · cases placed
      · rename_i apart
        obtain ⟨held, ⟨found, generated⟩, member⟩ := labelled.member issi wanted generation placed
        have different : wanted ≠ id := fun here => by
          rw [here, present] at found
          cases found
          exact apart member
        refine ⟨held, ⟨?_, generated⟩, member⟩
        rw [bearers, if_neg different]
        exact found
    · rw [bearers] at found
      split at found
      · cases found
      · exact (congrArg (AList.lookup other) (closedGenerations.trans same.2)).trans
          (labelled.current other held found)
    · obtain ⟨before, kept⟩ := detached other addr
        ((congrArg (getAddrByLabel · other) closedStore).symm.trans found)
      obtain ⟨placed, stored⟩ := labelled.stored other addr before
      have apart : addr.ssi ∉ bearer.members := fun member => by
        refine kept matching ((labels other).mpr ⟨addr.ssi, member, ?_⟩)
        unfold Sndcp.label
        unfold station at stored
        cases context : s.contexts.lookup addr.ssi with
        | none =>
          rw [context] at stored
          cases stored
        | some context' =>
          rw [context] at stored
          exact stored
      rw [place, if_neg apart, label apart]
      exact ⟨placed, stored⟩
    · obtain ⟨firstApart, firstOn⟩ := elsewhere firstOn
      obtain ⟨secondApart, secondOn⟩ := elsewhere secondOn
      rw [label firstApart, label secondApart] at equal
      exact labelled.distinct first second firstOn secondOn equal

/-! ### Joining -/

/-- A terminal has joined a bearer, with a label that no other terminal on a bearer has. -/
theorem Labelled.join (labelled : s.Labelled umac) {label : Nat} {bitmap : SlotBitmap}
    {bearer : Bearer} (present : s.bearers.lookup id = some bearer)
    (here : next.station issi = ⟨some id, some bearer.generation, bitmap, some label⟩)
    (elsewhere : ∀ other, other ≠ issi → next.station other = s.station other)
    (attended : ∀ issi, next.lost issi = false) (bearers : ∀ other, next.bearers.lookup other =
      if other = id then some (bearer.insertMember issi) else s.bearers.lookup other)
    (unused : ∀ other, other ≠ issi → s.place other ≠ none →
      (s.station other).eventLabel ≠ some label)
    (generations : later.packetBearerGenerations = umac.packetBearerGenerations)
    (store : ∀ other addr, later.eventLabelStore.getAddrByLabel other = some addr →
      other = label ∧ addr.ssi = issi ∨
        addr.ssi ≠ issi ∧ umac.eventLabelStore.getAddrByLabel other = some addr) :
    next.Labelled later := by
  have placed : next.place issi = some (id, bearer.generation) := by
    unfold place
    rw [here]
    rfl
  have place {other : Nat} (different : other ≠ issi) : next.place other = s.place other := by
    unfold place
    rw [elsewhere other different]
  have label' : (next.station issi).eventLabel = some label := by rw [here]
  have generation : (bearer.insertMember issi).generation = bearer.generation := by
    unfold Bearer.insertMember
    split <;> rfl
  refine ⟨attended, fun other on => ?_, fun other wanted named on => ?_,
    fun other held found => ?_, fun other addr found => ?_,
    fun first second firstOn secondOn equal => ?_⟩
  · by_cases same : other = issi
    · rw [same, label']
      exact some_ne_none _
    · rw [place same] at on
      rw [elsewhere other same]
      exact labelled.labelled other on
  · unfold has
    by_cases same : other = issi
    · rw [same, placed] at on
      cases on
      rw [bearers, if_pos rfl, same]
      exact ⟨_, ⟨rfl, generation⟩, mem_insertMember.mpr (.inl rfl)⟩
    · rw [place same] at on
      obtain ⟨held, ⟨found, generated⟩, member⟩ := labelled.member other wanted named on
      rw [bearers]
      split
      next joined =>
        rw [joined, present] at found
        rw [← some.inj found] at generated member
        exact ⟨_, ⟨rfl, generation.trans generated⟩, mem_insertMember.mpr (.inr member)⟩
      · exact ⟨held, ⟨found, generated⟩, member⟩
  · rw [generations]
    rw [bearers] at found
    split at found
    next joined =>
      rw [← some.inj found, generation, joined]
      exact labelled.current id bearer present
    · exact labelled.current other held found
  · rcases store other addr found with ⟨rfl, same⟩ | ⟨different, before⟩
    · rw [same, placed, label']
      exact ⟨some_ne_none _, rfl⟩
    · rw [place different, elsewhere _ different]
      exact labelled.stored other addr before
  · -- Nobody else on a bearer has the label.
    have alone {other : Nat} (different : other ≠ issi) (on : next.place other ≠ none) :
        (next.station other).eventLabel ≠ some label := by
      rw [place different] at on
      rw [elsewhere other different]
      exact unused other different on
    by_cases firstHere : first = issi <;> by_cases secondHere : second = issi
    · rw [firstHere, secondHere]
    · rw [firstHere, label'] at equal
      exact absurd equal.symm (alone secondHere secondOn)
    · rw [secondHere, label'] at equal
      exact absurd equal (alone firstHere firstOn)
    · rw [place firstHere] at firstOn
      rw [place secondHere] at secondOn
      rw [elsewhere first firstHere, elsewhere second secondHere] at equal
      exact labelled.distinct first second firstOn secondOn equal

/-- What an access may grant: a label that no other terminal on a bearer has; and if the terminal is
on a bearer, a bearer that is there and a label that can be bound. -/
structure Labelable (s : Sndcp) (issi : Nat) (_ : RadioContext) (result : AccessResult) : Prop where
  free : s.place issi = none ∨
    (s.bearers.lookup result.bearerId).isSome = true ∧ EventLabelStore.valid result.eventLabel = true
  unused : ∀ other, other ≠ issi → s.place other ≠ none →
    (s.station other).eventLabel ≠ some result.eventLabel

theorem Announced.grantAccess (announced : s.Announced umac) {found : RadioContext}
    {result : AccessResult} (present : s.contexts.lookup issi = some found)
    (respond : result.response ≠ .none) (may : s.Labelable issi found result) :
    Follows umac s (s.grantAccess issi found result) := by
  obtain ⟨owned, mirrored, labelled⟩ := announced
  obtain ⟨core, controls⟩ := s.grantAccess_spec issi found respond
  generalize s.grantAccess issi found result = next at *
  have contexts : next.contexts = s.contexts.insert issi _ := congrArg (·.contexts) core
  have bearers : next.bearers = s.bearers.modify result.bearerId (·.insertMember issi) :=
    congrArg (·.bearers) core
  have alloc : next.timeslotAlloc = s.timeslotAlloc := congrArg (·.timeslotAlloc) core
  have slots := owned.members result.bearerId (insertMember_same issi) bearers alloc
  have elsewhere (other : Nat) (different : other ≠ issi) :
      next.station other = s.station other := by
    unfold station
    rw [contexts, lookup_insert_eq, if_neg different]
  have here : next.station issi =
      ⟨some result.bearerId, (s.bearers.lookup result.bearerId).map Bearer.generation,
        result.timeslotBitmap, some result.eventLabel⟩ := by
    unfold station
    rw [contexts, lookup_insert_eq, if_pos rfl, grantedContext_eq s respond]
    rfl
  have attended (other : Nat) : next.lost other = false := by
    have before := labelled.attended other
    unfold lost at before ⊢
    rw [contexts, lookup_insert_eq]
    split
    next same =>
      rw [same, present, any_some, RadioContext.isLost, or_eq_false_iff] at before
      rw [grantedContext_eq s respond, any_some, RadioContext.isLost, same]
      simpa [RadioContext.session] using before.1
    · exact before
  cases held : s.bearers.lookup result.bearerId with
  | none =>
    have nowhere : s.place issi = none := may.free.resolve_right fun both => by
      rw [held] at both
      cases both.1
    have silent : next.controls = s.controls := by simpa [held] using controls
    refine Announced.unplaced ⟨owned, mirrored, labelled⟩ ?_ alloc silent attended nowhere ?_
      elsewhere
    · rw [bearers]
      unfold Table.modify
      rw [held]
    · unfold place
      rw [here, held]
      rfl
  | some bearer =>
    rw [held] at here controls
    have lookups (id : Nat) : next.bearers.lookup id =
        if id = result.bearerId then some (bearer.insertMember issi)
        else s.bearers.lookup id := by
      rw [bearers, lookup_modify, held]
      rfl
    have sameSlots : SameSlots (bearer.insertMember issi) bearer := by
      obtain ⟨-, bitmap, resize⟩ := insertMember_same issi bearer
      refine ⟨?_, fun ts _ => ?_, ?_, fun pending resizing => ?_⟩
      · unfold Bearer.insertMember
        split <;> rfl
      · rw [Bearer.reservedBitmap_congr bitmap resize]
      · rw [bitmap]
        exact mirrored.used _ bearer held
      · rw [resize] at resizing
        exact mirrored.remains _ bearer pending held resizing
    -- What was stored for the terminal was its label.
    have own {label : Nat} {addr : TetraAddress} (same : addr.ssi = issi)
        (stored : umac.eventLabelStore.getAddrByLabel label = some addr) :
        s.place issi ≠ none ∧ found.eventLabel = some label := by
      have := labelled.stored label addr stored
      unfold station at this
      rw [same, present] at this
      exact this
    by_cases unchanged : bearerUnchanged found result = true
    · rw [if_pos unchanged, append_nil] at controls
      refine .silent controls ⟨slots, mirrored.rewritten held lookups sameSlots ⟨rfl, rfl⟩,
        labelled.join held here elsewhere attended lookups may.unused rfl
          fun other addr stored => ?_⟩
      by_cases same : addr.ssi = issi
      · obtain ⟨-, label⟩ := own same stored
        simp only [bearerUnchanged, and_eq_true, decide_eq_true_eq] at unchanged
        exact .inl ⟨some.inj (label.symm.trans unchanged.2), same⟩
      · exact .inr ⟨same, stored⟩
    · rw [if_neg unchanged] at controls
      obtain ⟨same, store⟩ := umac.rx_attach result.bearerId bearer.generation issi result.eventLabel
      rw [if_pos ((mirrored.matches held).mpr (labelled.current _ bearer held))] at store
      refine ⟨_, controls, slots, mirrored.rewritten held lookups sameSlots same,
        labelled.join held here elsewhere attended lookups may.unused same.2
          fun other addr stored => ?_⟩
      have stored := (congrArg (getAddrByLabel · other) store).symm.trans stored
      cases fits : valid result.eventLabel with
      | true =>
        rw [lookup_bind fits] at stored
        split at stored
        next label =>
          exact .inl ⟨label, congrArg TetraAddress.ssi (some.inj stored).symm⟩
        · obtain ⟨before, different⟩ := filter_eq_some_iff.mp stored
          exact .inr ⟨of_decide_eq_true different, before⟩
      | false =>
        rw [bind_of_invalid fits] at stored
        refine .inr ⟨fun same => ?_, stored⟩
        rcases may.free with nowhere | ⟨-, valid⟩
        · exact (own same stored).1 nowhere
        · cases fits.symm.trans valid

end Sndcp

end Bluestation
