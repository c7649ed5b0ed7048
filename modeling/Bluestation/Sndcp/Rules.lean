/-
**The operations of the packet-data entity, as rules.**

An event is a sequence of operations: terminals leave and join bearers, bearers are opened, resized,
drained and released, and most of the rest is calm, that is, it touches no association.

* `Sndcp.station`, `Sndcp.place` — where a terminal is.
* `Sndcp.Calm` — a change that touches no association.
* `Sndcp.Rules` — a predicate that every operation preserves.
-/

import Bluestation.Sndcp.Effects

namespace Bluestation

open Option Bool Table RadioContext

/-! ### Where a terminal is -/

/-- The bearer that a context names, its slots and the label there. -/
@[ext] structure Station where
  bearerId : Option Nat
  bearerGeneration : Option Nat
  timeslotBitmap : SlotBitmap
  eventLabel : Option Nat
deriving DecidableEq

def Station.blank : Station := ⟨none, none, 0, none⟩

def Station.place (station : Station) : Option (Nat × Nat) :=
  match station.bearerId, station.bearerGeneration with
  | some id, some generation => some (id, generation)
  | _, _ => none

def RadioContext.station (context : RadioContext) : Station :=
  ⟨context.bearerId, context.bearerGeneration, context.timeslotBitmap, context.eventLabel⟩

/-- The context is another terminal's, or it names a bearer without a session. -/
def RadioContext.isLost (context : RadioContext) (issi : Nat) : Bool :=
  context.issi ≠ issi || context.bearerGeneration.isSome && context.session.isNone

namespace RadioContext

variable {context : RadioContext} {id generation issi : Nat}

theorem isLost_detached (attended : context.isLost issi = false) :
    context.detached.isLost issi = false := by
  unfold isLost at *
  rw [or_eq_false_iff] at attended
  exact or_eq_false_iff.mpr ⟨attended.1, rfl⟩

theorem association_of_place (placed : context.station.place = some (id, generation))
    (labelled : context.eventLabel ≠ none) :
    ∃ label, context.association = some (id, generation, label) := by
  unfold station Station.place at placed
  dsimp only at placed
  split at placed
  next named generated =>
    cases placed
    cases label : context.eventLabel with
    | none => exact absurd label labelled
    | some value =>
      unfold association
      rw [named, generated, label]
      exact ⟨value, rfl⟩
  · cases placed

theorem place_of_association {label : Nat}
    (associated : context.association = some (id, generation, label)) :
    context.station.place = some (id, generation) ∧ context.eventLabel = some label := by
  unfold association at associated
  split at associated
  next named generated labelled =>
    obtain ⟨rfl, rfl, rfl⟩ : _ = id ∧ _ = generation ∧ _ = label := by simpa using associated
    unfold station Station.place
    rw [named, generated]
    exact ⟨rfl, labelled⟩
  · cases associated

end RadioContext

namespace Sndcp

/-- Where a terminal is; one without a context is nowhere. -/
def station (s : Sndcp) (issi : Nat) : Station :=
  ((s.contexts.lookup issi).map RadioContext.station).getD .blank

def place (s : Sndcp) (issi : Nat) : Option (Nat × Nat) := (s.station issi).place

/-- The context of a terminal is another's, or it is on a bearer without a session. -/
def lost (s : Sndcp) (issi : Nat) : Bool := (s.contexts.lookup issi).any (·.isLost issi)

/-! ### Calm -/

/-- No association changes, and (where commands count) no outstanding command is dropped. -/
structure Calm (counts : Bool) (s next : Sndcp) : Prop where
  station : ∀ issi, next.station issi = s.station issi
  lost : ∀ issi, next.lost issi = true → s.lost issi = true
  bearers : ∀ id, next.bearers.lookup id = s.bearers.lookup id
  owners : ∀ ts, next.timeslotAlloc.owners ts = s.timeslotAlloc.owners ts
  commands : counts = true → ∀ commandId, (s.pendingCommands.lookup commandId).isSome = true →
    (next.pendingCommands.lookup commandId).isSome = true
  controls : next.controls = s.controls

variable {counts : Bool}

theorem Calm.refl (s : Sndcp) : Calm counts s s :=
  ⟨fun _ => rfl, fun _ => id, fun _ => rfl, fun _ => rfl, fun _ _ => id, rfl⟩

variable {s next : Sndcp} {issi : Nat} {context : RadioContext}

theorem Calm.trans {last : Sndcp} (first : Calm counts s next) (second : Calm counts next last) :
    Calm counts s last where
  station issi := (second.station issi).trans (first.station issi)
  lost issi gone := first.lost issi (second.lost issi gone)
  bearers id := (second.bearers id).trans (first.bearers id)
  owners ts := (second.owners ts).trans (first.owners ts)
  commands count commandId outstanding :=
    second.commands count commandId (first.commands count commandId outstanding)
  controls := second.controls.trans first.controls

theorem Calm.of_core (core : next.core = s.core) (controls : next.controls = s.controls) :
    Calm counts s next := by
  obtain ⟨contexts, bearers, alloc, commands⟩ : next.contexts = s.contexts ∧
      next.bearers = s.bearers ∧ next.timeslotAlloc = s.timeslotAlloc ∧
      next.pendingCommands = s.pendingCommands := by
    exact ⟨congrArg (·.1) core, congrArg (·.2) core, congrArg (·.3) core, congrArg (·.4) core⟩
  refine ⟨fun issi => ?_, fun issi => ?_, fun id => by rw [bearers], fun ts => by rw [alloc],
    fun _ commandId => by rw [commands]; exact id, controls⟩
  · unfold Sndcp.station
    rw [contexts]
  · unfold Sndcp.lost
    rw [contexts]
    exact id

theorem Calm.of_lookups (contexts : ∀ issi, next.contexts.lookup issi = s.contexts.lookup issi)
    (bearers : next.bearers = s.bearers) (slots : next.timeslotAlloc = s.timeslotAlloc)
    (commands : ∀ commandId, (s.pendingCommands.lookup commandId).isSome = true →
      (next.pendingCommands.lookup commandId).isSome = true) (controls : next.controls = s.controls) :
    Calm counts s next := by
  refine ⟨fun issi => ?_, fun issi => ?_, fun id => by rw [bearers], fun ts => by rw [slots],
    fun _ => commands, controls⟩
  · unfold Sndcp.station
    rw [contexts issi]
  · unfold Sndcp.lost
    rw [contexts issi]
    exact id

/-- A context is written that is where the terminal was. -/
theorem Calm.insert (same : context.station = s.station issi)
    (attended : context.isLost issi = true → s.lost issi = true) :
    Calm counts s { s with contexts := s.contexts.insert issi context } := by
  refine ⟨fun other => ?_, fun other => ?_, fun _ => rfl, fun _ => rfl, fun _ _ => id, rfl⟩
  · unfold Sndcp.station at same ⊢
    rw [lookup_insert_eq]
    split
    next here =>
      rw [here]
      exact same
    · rfl
  · unfold Sndcp.lost
    rw [lookup_insert_eq]
    split
    next here =>
      rw [here]
      exact attended
    · exact id

theorem Calm.removeContext (nowhere : s.station issi = .blank) :
    Calm counts s (s.removeContext issi) := by
  refine ⟨fun other => ?_, fun other => ?_, fun _ => rfl, fun _ => rfl, fun _ _ => id, rfl⟩
  · unfold Sndcp.station Sndcp.removeContext at *
    rw [lookup_erase_eq]
    split
    next here =>
      rw [here]
      exact nowhere.symm
    · rfl
  · unfold Sndcp.lost Sndcp.removeContext
    rw [lookup_erase_eq]
    split
    · exact fun gone => Bool.noConfusion gone
    · exact id

theorem Calm.enlist (s : Sndcp) (commandId issi : Nat) :
    Calm counts s { s with pendingCommands := s.pendingCommands.insert commandId issi } := by
  refine ⟨fun _ => rfl, fun _ => id, fun _ => rfl, fun _ => rfl,
    fun _ other outstanding => ?_, rfl⟩
  rw [lookup_insert_eq]
  split
  · rfl
  · exact outstanding

theorem Calm.submit (s : Sndcp) (message : PacketDataMessage) : Calm counts s (s.submit message) :=
  .of_core rfl rfl

theorem Calm.queueDownlink (s : Sndcp) (context : RadioContext) (pdu : SndcpDownlink)
    (service : Layer2Service) (chanAlloc : Option CmceChanAllocReq) (reporter : Option Nat) :
    Calm counts s (s.queueDownlink context pdu service chanAlloc reporter) :=
  .of_core rfl (controls_queueDownlink s context pdu service chanAlloc reporter)

theorem Calm.queueRegistrationRecovery (s : Sndcp) (issi handle : Nat) :
    Calm counts s (s.queueRegistrationRecovery issi handle) := by
  refine .of_core rfl ?_
  unfold Sndcp.controls Sndcp.queueRegistrationRecovery push
  rw [List.filterMap_append]
  exact List.append_nil _

theorem Calm.queueEndsOfData (s : Sndcp) (contexts : List RadioContext) (immediate : Bool) :
    Calm counts s (s.queueEndsOfData contexts immediate) :=
  .of_core rfl (controls_queueEndsOfData s contexts immediate)

/-! ### The operations -/

def pollResizes (s : Sndcp) : Sndcp := { s with bearers := s.bearers.mapValues s.pollResize }

def setSlots (s : Sndcp) (alloc : TimeslotAllocator) : Sndcp := { s with timeslotAlloc := alloc }

/-- A predicate that every operation preserves. What the network decides comes with a condition:
`grantable` for a terminal that joins a bearer, `droppable` for outstanding commands that go, and
`openable` for a bearer that is reserved. -/
structure Rules (counts : Bool) (holds : Sndcp → Prop)
    (grantable : Sndcp → Nat → RadioContext → AccessResult → Prop)
    (droppable : Sndcp → (Nat → Nat → Bool) → Prop)
    (openable : Sndcp → Nat → Nat → Prop) : Prop where
  attended : ∀ {s}, holds s → ∀ issi, s.lost issi = false
  calm : ∀ {s next}, Calm counts s next → holds s → holds next
  /-- A context is forgotten whose terminal is on no bearer. -/
  forget : ∀ {s} issi, s.place issi = none → holds s → holds (s.removeContext issi)
  quit : ∀ {s} issi, holds s → holds (s.detachPacketBearer issi)
  grant : ∀ {s} issi found result, s.contexts.lookup issi = some found →
    result.response ≠ .none → grantable s issi found result → holds s →
    holds (s.grantAccess issi found result)
  drop : ∀ {s} keep, droppable s keep → holds s →
    holds { s with pendingCommands := s.pendingCommands.retain keep }
  reserve : ∀ {s} commandId id generation requested, openable s id generation → holds s →
    holds (s.reserveBearer commandId id generation requested)
  shrink : ∀ {s id bearer} released, s.bearers.lookup id = some bearer →
    bearer.timeslotBitmap.slots.getLast? = some released →
    1 < bearer.timeslotBitmap.slots.length → holds s →
    holds (s.startBearerResize bearer.id bearer.generation
      (bearer.timeslotBitmap &&& ~~~SlotBitmap.bit released) 0)
  expand : ∀ {s id bearer candidate}, s.bearers.lookup id = some bearer →
    s.expansionCandidate id bearer = some candidate → holds s → holds (s.expandBearer candidate)
  poll : ∀ {s}, holds s → holds s.pollResizes
  commit : ∀ {s} id generation, holds s → holds (s.commitBearerResize id generation)
  rollback : ∀ {s} id generation, holds s → holds (s.rollbackBearerResize id generation)
  drain : ∀ {s} commandId id generation forceAfterMs, holds s →
    holds (s.announceDrain commandId id generation forceAfterMs)
  release : ∀ {s} id generation forced, holds s → holds (s.releaseBearer id generation forced)
  /-- The other owners change what is not this entity's. -/
  allot : ∀ {s alloc}, (∀ ts ∈ SlotBitmap.timeslots,
      alloc.owners ts = some .packetData ↔ s.timeslotAlloc.owners ts = some .packetData) →
    holds s → holds (s.setSlots alloc)
  rehashMembers : ∀ {s} id order, holds s → holds (s.rehashMembers id order)

/-! ### The terminals' requests -/

/-- A context is refreshed, or nothing is there to refresh. -/
theorem Calm.refresh {endpointId linkId : Nat} {found : RadioContext}
    (present : s.contexts.lookup issi = some found) :
    Calm counts s
      { s with contexts := s.contexts.insert issi { found with endpointId, linkId } } := by
  refine .insert ?_ fun gone => ?_
  · unfold Sndcp.station
    rw [present]
    rfl
  · unfold Sndcp.lost
    rw [present]
    exact gone

theorem Calm.insertContext (nowhere : s.station context.issi = .blank)
    (blank : context.station = .blank) : Calm counts s (s.insertContext context) := by
  refine .insert (blank.trans nowhere.symm) fun gone => ?_
  have none : context.bearerGeneration = none := congrArg Station.bearerGeneration blank
  simp [isLost, none] at gone

theorem station_of_missing (missing : s.contexts.lookup issi = none) : s.station issi = .blank := by
  unfold station
  rw [missing]
  rfl

/-- A command is numbered and becomes outstanding. -/
theorem Calm.command (s : Sndcp) (commandId issi : Nat) : Calm counts s
      { s.nextCommand with pendingCommands := s.pendingCommands.insert commandId issi } := by
  have numbered : Calm counts s s.nextCommand := .of_core rfl rfl
  exact numbered.trans (.enlist s.nextCommand commandId issi)

theorem requestAccess_calm (s : Sndcp) (issi endpointId linkId : Nat)
    (resource : Option SndcpResourceRequest) (reconnect dataToSend : Bool) :
    Calm counts s (s.requestAccess issi endpointId linkId resource reconnect dataToSend).2 := by
  unfold requestAccess
  dsimp only
  split
  · exact .refl s
  next found present =>
    split
    · exact .refresh present
    · exact ((Calm.refresh present).trans (.command _ _ _)).trans (.submit _ _)

/-! ### Building up -/

theorem Calm.forget (calm : Calm counts s next) (nowhere : s.station issi = .blank) :
    Calm counts s (next.removeContext issi) :=
  calm.trans (.removeContext ((calm.station issi).trans nowhere))

theorem Calm.recall {commandId : Nat} (calm : Calm counts s next)
    (fresh : counts = true → s.pendingCommands.lookup commandId = none) :
    Calm counts s { next with pendingCommands := next.pendingCommands.erase commandId } where
  station := calm.station
  lost := calm.lost
  bearers := calm.bearers
  owners := calm.owners
  commands count other outstanding := by
    rw [lookup_erase_eq]
    split
    next same =>
      rw [same, fresh count] at outstanding
      cases outstanding
    · exact calm.commands count other outstanding
  controls := calm.controls

theorem station_detach (s : Sndcp) (issi : Nat) :
    (s.detachPacketBearer issi).station issi = .blank := by
  unfold station
  rw [(s.detachPacketBearer_frame issi).1, lookup_modify, if_pos rfl]
  cases s.contexts.lookup issi <;> rfl

theorem stations_detached {members : List Nat} (contexts : next.contexts = members.foldl
      (fun contexts issi => Table.modify contexts issi detached) s.contexts)
    (attended : ∀ issi, s.lost issi = false) :
    (∀ issi, next.station issi = if issi ∈ members then .blank else s.station issi) ∧
      ∀ issi, next.lost issi = false := by
  have lookups (issi : Nat) : next.contexts.lookup issi =
      if issi ∈ members then (s.contexts.lookup issi).map detached
      else s.contexts.lookup issi := by
    rw [contexts]
    refine lookup_foldl_modify _ ?_ _ _
    exact fun _ => rfl
  refine ⟨fun issi => ?_, fun issi => ?_⟩
  · unfold station
    rw [lookups]
    split
    · cases s.contexts.lookup issi <;> rfl
    · rfl
  · have before := attended issi
    unfold lost at before ⊢
    rw [lookups]
    split
    · cases context : s.contexts.lookup issi with
      | none => rfl
      | some context' =>
        rw [context] at before
        exact isLost_detached before
    · exact before

theorem stations_insert_detached (present : s.contexts.lookup issi = some context)
    (contexts : next.contexts = s.contexts.insert issi context.detached)
    (attended : ∀ issi, s.lost issi = false) :
    (∀ other, next.station other = if other = issi then .blank else s.station other) ∧
      ∀ other, next.lost other = false := by
  have lookups (other : Nat) : next.contexts.lookup other =
      if other = issi then some context.detached else s.contexts.lookup other := by
    rw [contexts]
    exact lookup_insert_eq _ _ _ _
  refine ⟨fun other => ?_, fun other => ?_⟩
  · unfold station
    rw [lookups]
    split <;> rfl
  · have before := attended other
    unfold lost at before ⊢
    rw [lookups]
    split
    next here =>
      rw [here, present] at before
      rw [here]
      exact isLost_detached before
    · exact before

theorem stations_resized {members : List Nat} {bitmap : SlotBitmap}
    (contexts : next.contexts = members.foldl (fun contexts issi => Table.modify contexts issi
      fun context => { context with timeslotBitmap := bitmap }) s.contexts) :
    (∀ issi, next.place issi = s.place issi) ∧
      (∀ issi, (next.station issi).eventLabel = (s.station issi).eventLabel) ∧
      (∀ issi, next.lost issi = s.lost issi) ∧
      ∀ issi ∈ members, s.place issi ≠ none → (next.station issi).timeslotBitmap = bitmap := by
  have lookups (issi : Nat) : next.contexts.lookup issi =
      if issi ∈ members then (s.contexts.lookup issi).map fun context =>
        { context with timeslotBitmap := bitmap }
      else s.contexts.lookup issi := by
    rw [contexts]
    refine lookup_foldl_modify _ ?_ _ _
    exact fun _ => rfl
  refine ⟨fun issi => ?_, fun issi => ?_, fun issi => ?_, fun issi member placed => ?_⟩
  · unfold place station
    rw [lookups]
    split
    · cases s.contexts.lookup issi <;> rfl
    · rfl
  · unfold station
    rw [lookups]
    split
    · cases s.contexts.lookup issi <;> rfl
    · rfl
  · unfold lost
    rw [lookups]
    split
    · cases s.contexts.lookup issi <;> rfl
    · rfl
  · unfold place station at placed
    unfold station
    rw [lookups, if_pos member]
    cases context : s.contexts.lookup issi with
    | none =>
      rw [context] at placed
      exact absurd rfl placed
    | some _ => rfl

theorem place_of_unassociated (present : s.contexts.lookup issi = some context)
    (labelled : s.place issi ≠ none → (s.station issi).eventLabel ≠ none)
    (unassociated : context.association = none) : s.place issi = none := by
  have own : s.station issi = context.station := by
    unfold station
    rw [present]
    rfl
  by_contra placed
  obtain ⟨⟨id, generation⟩, on⟩ := ne_none_iff_exists'.mp placed
  have label := labelled placed
  unfold place at on
  rw [own] at on label
  obtain ⟨_, associated⟩ := context.association_of_place on label
  cases associated.symm.trans unassociated

theorem place_of_sessionless (attended : s.lost issi = false)
    (sessionless : ∀ context, s.contexts.lookup issi = some context → context.session = none) :
    s.place issi = none := by
  unfold place station
  unfold lost at attended
  cases found : s.contexts.lookup issi with
  | none => rfl
  | some context =>
    rw [found, any_some, RadioContext.isLost, sessionless context found] at attended
    have unplaced : context.bearerGeneration = none := by
      simp only [isNone_none, Bool.and_true, Bool.or_eq_false_iff] at attended
      exact isSome_eq_false_iff.mp attended.2 |> isNone_iff_eq_none.mp
    unfold Station.place RadioContext.station
    simp only [map_some, unplaced]
    cases context.bearerId <;> rfl

theorem Calm.place (calm : Calm counts s next) (issi : Nat) : next.place issi = s.place issi := by
  unfold Sndcp.place
  rw [calm.station issi]

end Sndcp

end Bluestation
