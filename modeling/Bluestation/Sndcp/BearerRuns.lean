/-
**Bearers own exactly their slots and their members, in every careful run.**

A run is careful if no terminal on a bearer is forgotten or moved, if the network names the bearer's
own slots when it grants an access, and if no command is answered for which a bearer without members
is still waiting.

* `Sndcp.keepsOwnership` — the careful events.
* `bearers_own_slots_and_members` — the result.
* `bearers_with_ghosts` — what happens otherwise.
-/

import Bluestation.Sndcp.Ownership

namespace Bluestation

open Machines SlotBitmap List Option Bool Table Sndcp Bearer

namespace Sndcp

/-! ### Careful events -/

/-- No bearer that waits without members loses its command; the one that a terminal has just joined
is not without members. -/
def keepsWaiting (s : Sndcp) (keep : Nat → Nat → Bool) (joining : Option Nat) : Bool :=
  s.bearers.entries.all fun entry =>
    !entry.2.members.isEmpty || entry.2.draining || decide (joining = some entry.1) ||
      (s.pendingCommands.lookup entry.2.commandId).all (keep entry.2.commandId)

/-- **The event keeps bearers, slots and members together**: it forgets and moves no terminal on a
bearer, it grants only the slots of the bearer, and it takes no command from a bearer that waits for
it. -/
def keepsOwnership (s : Sndcp) (event : SndcpEvent) : Bool :=
  s.forgetsNobody event &&
    (s.joins event).all (fun join => (s.place join.1).all (·.1 = join.2.2.bearerId) &&
      (s.bearers.lookup join.2.2.bearerId).all (·.timeslotBitmap = join.2.2.timeslotBitmap)) &&
    (s.drops event).all (s.keepsWaiting · ((s.joins event).map (·.2.2.bearerId))) &&
    (s.pendingCommands.lookup s.nextCommandId).isNone

/-- The terminal joins from nowhere or from the same bearer, with the bearer's slots. -/
def Grantable (s : Sndcp) (issi : Nat) (_ : RadioContext) (result : AccessResult) : Prop :=
  (s.place issi).all (·.1 = result.bearerId) = true ∧
    ∀ bearer, s.bearers.lookup result.bearerId = some bearer →
      result.timeslotBitmap = bearer.timeslotBitmap

/-- No bearer waits without members for a command that goes. -/
def Droppable (s : Sndcp) (keep : Nat → Nat → Bool) : Prop :=
  ∀ id bearer, s.bearers.lookup id = some bearer → bearer.members = [] →
    bearer.draining = false → ∀ issi, s.pendingCommands.lookup bearer.commandId = some issi →
      keep bearer.commandId issi = true

variable {s next : Sndcp}

/-- **Every operation keeps contexts, bearers and slots together.** -/
theorem ownership_rules :
    Rules true (fun s => s.Rostered ∧ s.SlotsOwned) Grantable Droppable (fun _ _ _ => True) where
  attended both issi := both.1.attended issi
  calm calm both := ⟨both.1.calm calm, both.2.calm calm⟩
  forget _ free both := ⟨both.1.removeContext free, both.2.of_eq rfl rfl⟩
  quit issi both := ⟨both.1.detachPacketBearer issi, both.2.detachPacketBearer issi⟩
  grant issi found result present respond may both := by
    obtain ⟨core, -⟩ := grantAccess_spec _ issi found respond
    exact ⟨both.1.grantAccess present respond may.1 may.2,
      both.2.members result.bearerId (insertMember_same issi) (congrArg (·.bearers) core)
        (congrArg (·.timeslotAlloc) core)⟩
  drop _ may both := ⟨both.1.drop may, both.2.of_eq rfl rfl⟩
  reserve commandId id generation requested _ both :=
    ⟨both.1.reserveBearer commandId id generation requested,
      both.2.reserveBearer commandId id generation requested⟩
  shrink _ present _ _ both := ⟨both.1.startBearerResize _ _ _ _, both.2.shrink _ present _⟩
  expand present chosen both := ⟨both.1.expandBearer _, both.2.expand present chosen⟩
  poll both := ⟨both.1.poll, both.2.poll⟩
  commit id generation both := ⟨both.1.commitBearerResize id generation, both.2.commit id generation⟩
  rollback id generation both :=
    ⟨both.1.rollbackBearerResize id generation, both.2.rollback id generation⟩
  drain commandId id generation forceAfterMs both :=
    ⟨both.1.announceDrain commandId id generation forceAfterMs,
      both.2.drain commandId id generation forceAfterMs⟩
  release id generation forced both :=
    ⟨both.1.releaseBearer id generation forced, both.2.releaseBearer id generation forced⟩
  allot same both := ⟨both.1.setSlots _, both.2.same
    (fun _ bearer found => ⟨bearer, found, rfl, fun sound => sound, rfl⟩) (fun _ => id) same⟩
  rehashMembers id order both := by
    refine ⟨both.1.rehashMembers id order, both.2.members id ?_ rfl rfl⟩
    exact fun _ => ⟨rfl, rfl, rfl⟩

/-- A careful event takes no command from a bearer that waits for it. -/
theorem droppable_joined {event : SndcpEvent} {keep : Nat → Nat → Bool}
    (waits : s.keepsWaiting keep ((s.joins event).map (·.2.2.bearerId)) = true) :
    (s.joined event).Droppable keep := by
  have spared {id : Nat} {bearer : Bearer} (present : s.bearers.lookup id = some bearer)
      (empty : bearer.members = []) (serving : bearer.draining = false) {issi : Nat}
      (command : s.pendingCommands.lookup bearer.commandId = some issi)
      (elsewhere : (s.joins event).map (·.2.2.bearerId) ≠ some id) :
      keep bearer.commandId issi = true := by
    have := all_eq_true.mp waits ⟨id, bearer⟩ (mem_entries.mpr present)
    simpa [empty, serving, elsewhere, command] using this
  unfold joined
  split
  · rename_i issi found result joining
    rw [joining] at spared
    obtain ⟨-, -, respond, -⟩ := joins_eq_some joining
    obtain ⟨core, -⟩ := s.grantAccess_spec issi found respond
    have commands : (s.grantAccess issi found result).pendingCommands = s.pendingCommands :=
      congrArg (·.pendingCommands) core
    have bearers : (s.grantAccess issi found result).bearers =
      s.bearers.modify result.bearerId (·.insertMember issi) := congrArg (·.bearers) core
    intro id bearer present empty serving other command
    rw [bearers, lookup_modify] at present
    rw [commands] at command
    split at present
    · obtain ⟨before, -, rfl⟩ := map_eq_some_iff.mp present
      have member : issi ∈ (before.insertMember issi).members := mem_insertMember.mpr (.inl rfl)
      rw [empty] at member
      cases member
    · rename_i elsewhere
      exact spared present empty serving command fun same =>
        elsewhere (some.inj same).symm
  · rename_i nobody
    rw [nobody] at spared
    exact fun id bearer present empty serving issi command =>
      spared present empty serving command nofun

/-- **A careful event preserves it all.** -/
theorem ownership_step {event : SndcpEvent} (both : s.Rostered ∧ s.SlotsOwned)
    (careful : s.keepsOwnership event = true) (stepped : s.step event = some next) :
    next.Rostered ∧ next.SlotsOwned := by
  obtain ⟨possible, rfl⟩ := ite_none_right_eq_some.mp stepped |>.imp_right some.inj
  unfold keepsOwnership at careful
  simp only [and_eq_true, isNone_iff_eq_none] at careful
  obtain ⟨⟨⟨unforgotten, fits⟩, waits⟩, fresh⟩ := careful
  refine ownership_rules.handle possible (fun _ => fresh) unforgotten (fun join joining => ?_)
    (fun keep dropping => ?_) (fun _ _ => trivial) both
  · have granted := (all_eq_true _ _).mp fits join joining
    rw [and_eq_true] at granted
    refine ⟨granted.1, fun bearer present => ?_⟩
    have bitmap := granted.2
    rw [present, all_some, decide_eq_true_eq] at bitmap
    exact bitmap.symm
  · exact droppable_joined ((all_eq_true _ _).mp waits keep dropping)

theorem ownership_init (start : sndcpMachine.start s) : s.Rostered ∧ s.SlotsOwned := by
  obtain ⟨config, swmi, -, rfl⟩ := start
  refine ⟨⟨fun _ => rfl, fun issi placed => absurd rfl placed, fun issi group => ?_, ?_, ?_, ?_⟩,
    ⟨?_, ?_, fun ts _ => ?_, ?_⟩⟩
  · refine iff_of_false nofun ?_
    rintro ⟨bearer, ⟨found, -⟩, -⟩
    cases found
  · intro issi id bearer placed
    cases placed
  · intro id bearer found
    cases found
  · intro id bearer found
    cases found
  · intro id bearer found
    cases found
  · intro id bearer found
    cases found
  · refine iff_of_false nofun ?_
    rintro ⟨id, holds⟩
    cases holds
  · intro ts _ first second holds
    cases holds

/-! ### A bearer that drains is released -/

theorem releaseDue_lookup (s : Sndcp) (due : Nat × Nat × Bool) (id : Nat) :
    (s.releaseDue due).bearers.lookup id = s.bearers.lookup id ∨
      (s.releaseDue due).bearers.lookup id = none := by
  unfold releaseDue
  rcases s.releaseBearer_cases due.1 due.2.1 due.2.2 with ⟨idle, -⟩ | ⟨bearer, -, core, -⟩
  · rw [idle]
    exact .inl rfl
  · have lookup := congrArg (fun core => AList.lookup id (SndcpCore.bearers core)) core
    refine (em (id = due.1)).symm.imp (fun other => lookup.trans ?_) fun same => lookup.trans ?_
    · exact AList.lookup_erase_ne other
    · rw [same]
      exact AList.lookup_erase _ _

theorem releaseDues_lookup (dues : List (Nat × Nat × Bool)) (s : Sndcp) (id : Nat) :
    (dues.foldl releaseDue s).bearers.lookup id = s.bearers.lookup id ∨
      (dues.foldl releaseDue s).bearers.lookup id = none := by
  induction dues generalizing s with
  | nil => exact .inl rfl
  | cons due rest ih =>
    rcases ih (s.releaseDue due) with same | gone
    · rcases s.releaseDue_lookup due id with same' | gone
      · exact .inl (same.trans same')
      · exact .inr (same.trans gone)
    · exact .inr gone

theorem releaseDues_due {dues : List (Nat × Nat × Bool)} {id : Nat} {bearer : Bearer}
    {forced : Bool} (listed : (id, bearer.generation, forced) ∈ dues)
    (present : s.bearers.lookup id = some bearer ∨ s.bearers.lookup id = none) :
    (dues.foldl releaseDue s).bearers.lookup id = none := by
  induction dues generalizing s with
  | nil => cases listed
  | cons due rest ih =>
    rw [foldl_cons]
    rcases mem_cons.mp listed with rfl | later
    · have gone : (s.releaseDue (id, bearer.generation, forced)).bearers.lookup id = none := by
        unfold releaseDue
        rcases s.releaseBearer_cases id bearer.generation forced with
          ⟨idle, absent⟩ | ⟨held, -, core, -⟩
        · rw [idle]
          rcases present with here | gone
          · exact absurd ⟨here, rfl⟩ (absent bearer)
          · exact gone
        · exact (congrArg (fun core => AList.lookup id (SndcpCore.bearers core)) core).trans
            (AList.lookup_erase _ _)
      rcases releaseDues_lookup rest (s.releaseDue (id, bearer.generation, forced)) id with
        same | gone'
      · exact same.trans gone
      · exact gone'
    · refine ih later ?_
      rcases s.releaseDue_lookup due id with same | gone
      · rw [same]
        exact present
      · exact .inr gone

/-- **A draining bearer without members is released when its time has come.** -/
theorem processDrains_releases {id : Nat} {bearer : Bearer} {releaseAt : TdmaTime}
    (present : s.bearers.lookup id = some bearer) (keyed : bearer.id = id)
    (draining : bearer.draining = true) (empty : bearer.members = [])
    (due : bearer.releaseAt = some releaseAt) (passed : 0 ≤ releaseAt.age s.dltime) :
    s.processDrains.bearers.lookup id = none := by
  have verdict : ∃ forced, s.drainVerdict bearer = some forced := by
    unfold drainVerdict
    rw [if_pos draining, empty, due]
    simp [passed]
  obtain ⟨forced, verdict⟩ := verdict
  have listed : (id, bearer.generation, forced) ∈ s.bearers.values.filterMap fun bearer =>
      (s.drainVerdict bearer).map fun forced => (bearer.id, bearer.generation, forced) := by
    refine mem_filterMap.mpr ⟨bearer, mem_values.mpr ⟨id, present⟩, ?_⟩
    rw [verdict, keyed]
    rfl
  exact releaseDues_due listed (.inl present)

end Sndcp

theorem RadioContext.names_iff {context : RadioContext} {id generation : Nat} :
    context.names id generation = true ↔ context.station.place = some (id, generation) := by
  unfold names station Station.place
  cases context.bearerId <;> cases context.bearerGeneration <;> simp

/-- **Bearers own exactly their slots and their members**, in every careful run: the slots of packet
data are those of the bearers, each of one of them; the members of a bearer are the terminals whose
context names it, with its slots; and one without members waits for its command, or is drained and
then released. -/
theorem bearers_own_slots_and_members {s : Sndcp}
    (reachable : Reachable sndcpMachine (fun s event => s.keepsOwnership event = true) s) :
    (∀ ts ∈ timeslots, s.timeslotAlloc.owners ts = some .packetData ↔
      ∃ id bearer, s.bearers.lookup id = some bearer ∧
        (bearer.timeslotBitmap.has ts = true ∨ bearer.expansion.has ts = true)) ∧
    (∀ ts ∈ timeslots, ∀ first second bearer other, s.bearers.lookup first = some bearer →
      s.bearers.lookup second = some other → bearer.reservedBitmap.has ts = true →
        other.reservedBitmap.has ts = true → first = second) ∧
    (∀ id bearer, s.bearers.lookup id = some bearer → ∀ ts ∈ timeslots,
      bearer.expansion.has ts = true → bearer.timeslotBitmap.has ts = false) ∧
    (∀ issi id bearer, s.bearers.lookup id = some bearer → (issi ∈ bearer.members ↔
      ∃ context, s.contexts.lookup issi = some context ∧
        context.names id bearer.generation = true)) ∧
    (∀ issi context id generation, s.contexts.lookup issi = some context →
      context.names id generation = true → ∃ bearer, s.bearers.lookup id = some bearer ∧
        bearer.generation = generation ∧ context.timeslotBitmap = bearer.timeslotBitmap) ∧
    ∀ id bearer, s.bearers.lookup id = some bearer → bearer.members = [] →
      (s.pendingCommands.lookup bearer.commandId).isSome = true ∨
        bearer.draining = true ∧ ∃ releaseAt, bearer.releaseAt = some releaseAt ∧
          (0 ≤ releaseAt.age s.dltime → s.processDrains.bearers.lookup id = none) := by
  obtain ⟨rostered, owned⟩ := reachable.invariant (fun _ start => ownership_init start)
    fun _ _ _ both careful stepped => ownership_step both careful stepped
  have placed {issi : Nat} {context : RadioContext} (present : s.contexts.lookup issi = some context)
      {id generation : Nat} :
      context.names id generation = true ↔ s.place issi = some (id, generation) := by
    unfold place station
    rw [RadioContext.names_iff, present]
    rfl
  refine ⟨fun ts member => ?_, fun ts member first second bearer other here there own also => ?_,
    fun id bearer present ts member added => ?_, fun issi id bearer present => ?_,
    fun issi context id generation present names => ?_, fun id bearer present empty => ?_⟩
  · refine (owned.owned ts member).trans (exists_congr fun id => ?_)
    unfold reserves
    rw [Option.any_eq_true]
    refine exists_congr fun bearer => and_congr_right fun _ => ?_
    unfold reservedBitmap
    rw [has_or, or_eq_true]
  · refine owned.unique ts member first second ?_ ?_
    · unfold reserves
      rw [here]
      exact own
    · unfold reserves
      rw [there]
      exact also
  · cases resizing : bearer.resize with
    | none =>
      unfold expansion at added
      rw [resizing] at added
      exact absurd added (eq_false_iff.mp (has_zero ts))
    | some resize =>
      unfold expansion at added
      rw [resizing] at added
      exact (owned.sound id bearer present resize resizing).2.2.2 ts member added
  · constructor
    · intro member
      have on := rostered.placed present member
      unfold place station at on
      cases found : s.contexts.lookup issi with
      | none =>
        rw [found] at on
        cases on
      | some context =>
        rw [found] at on
        exact ⟨context, rfl, RadioContext.names_iff.mpr on⟩
    · rintro ⟨context, found, names⟩
      obtain ⟨held, ⟨there, -⟩, member⟩ := rostered.member ((placed found).mp names)
      rwa [some.inj (there.symm.trans present)] at member
  · have on := (placed present).mp names
    obtain ⟨bearer, ⟨there, named⟩, -⟩ := rostered.member on
    rw [← named] at on
    have bitmap := rostered.agreed issi id bearer on there
    unfold station at bitmap
    rw [present] at bitmap
    exact ⟨bearer, there, named, bitmap⟩
  · rcases rostered.waiting id bearer present empty with drains | outstanding
    · obtain ⟨releaseAt, due⟩ := ne_none_iff_exists'.mp (rostered.due id bearer present drains)
      exact .inr ⟨drains, releaseAt, due, fun passed => processDrains_releases present
        (owned.keyed id bearer present) drains empty due passed⟩
    · exact .inl outstanding

/-! ### Runs -/

/-- Every terminal is registered, and the channel to the network has room. -/
def bearerStart : Sndcp :=
  .new ⟨fun _ => true, fun _ => none, false, false, fun _ => true, fun _ => .unknown⟩
    (some ⟨true, 64, []⟩)

theorem bearerStart_start : sndcpMachine.start bearerStart :=
  ⟨_, _, fun endpoint opened => by rw [← some.inj opened], rfl⟩

/-- A terminal has a session and asks for the channel; the network reserves a bearer for it. -/
def bearerReserved : List SndcpEvent :=
  [.uplink 5 0 ⟨77, .issi⟩ (.activateDemand 1 1 .dynamic 1 none none),
    .swmi (.activateResult ⟨1, 77, 5, true, none, 8, 1, none, none, ⟨0, 0, 0⟩⟩),
    .uplink 5 0 ⟨77, .issi⟩ (.transmitRequest 1 true none none),
    .swmi (.bearerControl 2 30 1 .reserve 0b1110 0)]

/-- The network's decision on the access: which slots the terminal gets. -/
def bearerAccess (accepted : Bool) (bitmap : SlotBitmap) : SndcpEvent :=
  .swmi (.accessResult ⟨2, 77, 8, accepted, none, .transmitResponse, 30, bitmap, 6, 1⟩)

/-- A terminal on its bearer, and the result at work. -/
theorem bearers_own_slots_and_members_serving : ∃ s,
    Reachable sndcpMachine (fun s event => s.keepsOwnership event = true) s ∧
      (s.bearers.lookup 30).map members = some [77] ∧
      ∀ ts ∈ timeslots, s.timeslotAlloc.owners ts = some .packetData ↔
        ∃ id bearer, s.bearers.lookup id = some bearer ∧
          (bearer.timeslotBitmap.has ts = true ∨ bearer.expansion.has ts = true) := by
  have leads : (execPermitted sndcpMachine keepsOwnership bearerStart
      (bearerReserved ++ [bearerAccess true 0b1110])).any (fun s =>
        decide ((s.bearers.lookup 30).map members = some [77])) = true := by
    decide +kernel
  obtain ⟨s, executed, serving⟩ := (any_eq_true _ _).mp leads
  have reachable : Reachable sndcpMachine (fun s event => s.keepsOwnership event = true) s :=
    ⟨bearerStart, bearerStart_start, execPermitted_runs (fun _ _ careful => careful) executed⟩
  exact ⟨s, reachable, of_decide_eq_true serving, (bearers_own_slots_and_members reachable).1⟩

/-- **Ghost members and slots that nobody uses**: the network confirms a terminal's deactivation while
the terminal is on its bearer; it refuses an access after it has reserved a bearer for it; it grants
other slots than those of the bearer. -/
theorem bearers_with_ghosts : (∃ s, Reachable sndcpMachine always s ∧
      (s.bearers.lookup 30).map members = some [77] ∧ s.contexts.lookup 77 = none ∧
        s.timeslotAlloc.owners 2 = some .packetData) ∧
    (∃ s, Reachable sndcpMachine always s ∧
      (s.bearers.lookup 30).map (fun bearer => (bearer.members, bearer.draining)) =
        some ([], false) ∧ s.pendingCommands.lookup 2 = none ∧
          s.timeslotAlloc.owners 2 = some .packetData) ∧
    ∃ s, Reachable sndcpMachine always s ∧ (s.bearers.lookup 30).map timeslotBitmap = some 0b1110 ∧
        (s.contexts.lookup 77).map (fun context => (context.names 30 1, context.timeslotBitmap)) =
          some (true, 0b0001) := by
  refine ⟨?_, ?_, ?_⟩
  · exact reachable_exec _ (bearerReserved ++ [bearerAccess true 0b1110,
      .uplink 5 0 ⟨77, .issi⟩ (.deactivateDemand 0 none none),
      .swmi (.deactivateResult 3 77 8 1 true)]) bearerStart_start (by decide +kernel)
  · exact reachable_exec _ (bearerReserved ++ [bearerAccess false 0b1110]) bearerStart_start
      (by decide +kernel)
  · exact reachable_exec _ (bearerReserved ++ [bearerAccess true 0b0001]) bearerStart_start
      (by decide +kernel)

end Bluestation
