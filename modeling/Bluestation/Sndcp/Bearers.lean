/-
**Packet bearers: reserving, resizing, draining, releasing.**

A resize is announced to every terminal of the bearer first. A shrink gives its slots back when the
announcement has been on the air; an expansion reserves its slots before, and gives them back if the
announcement fails. A terminal that leaves as the last one releases the bearer.

* `Sndcp.releaseBearer`, `Sndcp.leaveBearer` — the ends of a bearer and of a membership.
* `Sndcp.startBearerResize`, `Sndcp.commitBearerResize`, `Sndcp.rollbackBearerResize` — a resize.
-/

import Bluestation.Sndcp.State

namespace Bluestation

namespace Sndcp

open SlotBitmap

/-! ### Releasing -/

/-- A terminal is taken off a bearer that is released. -/
def detachMember (id generation : Nat) (s : Sndcp) (issi : Nat) : Sndcp :=
  match s.contexts.lookup issi with
  | none => s
  | some context =>
    let s := match context.eventLabel with
      | some eventLabel => s.control (.detach id generation eventLabel)
      | none => s
    { s with contexts := s.contexts.insert issi context.detached }

def bearerReport (bearer : Bearer) (state : PacketBearerState) : PacketDataMessage :=
  .bearerReport bearer.commandId bearer.id bearer.generation state bearer.timeslotBitmap
    bearer.memberCount

variable (s : Sndcp)

def releaseBearer (id generation : Nat) (forced : Bool) : Sndcp :=
  match s.bearers.lookup id with
  | none => s
  | some bearer =>
    if bearer.generation ≠ generation then s
    else
      let s := { s with bearers := s.bearers.erase id }
      let s := s.releaseSlots bearer.reservedBitmap
      let s := bearer.members.foldl (detachMember bearer.id bearer.generation) s
      let s := s.control (.close bearer.id bearer.generation forced)
      s.submit (bearerReport bearer (if forced then .forcedReuse else .released))

/-- A terminal leaves the members of its bearer; the last one releases it. -/
def leaveBearer (issi id generation eventLabel : Nat) : Sndcp :=
  match (s.bearers.lookup id).filter (·.generation = generation) with
  | none => s
  | some found =>
    let bearer := found.removeMember issi
    let s := { s with bearers := s.bearers.insert id bearer }
    let s := s.control (.detach id generation eventLabel)
    if bearer.members.isEmpty then s.releaseBearer id generation false
    else s.submit (.bearerReport bearer.commandId id generation bearer.reportState
      bearer.timeslotBitmap bearer.memberCount)

/-- Move a context off its bearer and keep it for a later access. -/
def detachPacketBearer (issi : Nat) : Sndcp :=
  match s.contexts.lookup issi with
  | none => s
  | some context =>
    let s := { s with contexts := s.contexts.insert issi context.detached }
    match context.association with
    | none => s
    | some (id, generation, eventLabel) => s.leaveBearer issi id generation eventLabel

/-! ### Reserving -/

def reserveBearer (commandId id generation : Nat) (requested : SlotBitmap) : Sndcp :=
  let report (state : PacketBearerState) (bitmap : SlotBitmap) (members : Nat) :=
    PacketDataMessage.bearerReport commandId id generation state bitmap members
  match s.bearers.lookup id with
  | some existing =>
    if existing.generation = generation then
      s.submit (report .ready existing.timeslotBitmap existing.memberCount)
    else s.submit (report .failed 0 0)
  | none =>
    -- Only a reservation for an outstanding command opens a bearer.
    if (s.pendingCommands.lookup commandId).isNone then s.submit (report .failed 0 0)
    else
      let allocated := s.obtainable requested
      let s := s.reserveSlots requested
      if allocated = 0 then s.submit (report .failed 0 0)
      else
        let bearer : Bearer :=
          { id
            generation
            timeslotBitmap := allocated
            desiredTimeslotBitmap := requested &&& 0b1110
            members := []
            draining := false
            releaseAt := none
            forceAt := none
            commandId
            drainReporters := []
            resize := none
            expandNotBefore := none }
        let s := { s with bearers := s.bearers.insert id bearer }
        let s := s.control (.opened id generation allocated)
        s.submit (report .ready allocated 0)

/-! ### Resizing -/

/-- The terminals that are told of a resize: the members, and whoever names the bearer. -/
def toldOfResize (id generation : Nat) (members : List Nat) : List Nat :=
  members ++ (s.contexts.entries.filter fun entry =>
    entry.2.names id generation && entry.1 ∉ members).map (·.1)

def startBearerResize (id generation : Nat) (toBitmap expansionBitmap : SlotBitmap) : Sndcp :=
  match (s.bearers.lookup id).filter fun bearer =>
      bearer.generation = generation && !bearer.draining && bearer.resize.isNone with
  | none => s
  | some bearer =>
    if toBitmap = 0 || toBitmap = bearer.timeslotBitmap then s
    else
      let members := s.toldOfResize id generation bearer.members
      -- The added slots are advertised before the terminals get them.
      let s := if expansionBitmap ≠ 0 then s.control (.resize id generation toBitmap) else s
      let told := (members.filterMap s.contexts.lookup).filter (·.names id generation)
      let resize : PendingBearerResize :=
        { fromBitmap := bearer.timeslotBitmap
          toBitmap
          expansionBitmap
          reporters := s.nextReporters told
          deadline := s.dltime.addTimeslots pdchResizeTimeoutTimeslots
          commitAt := if members.isEmpty then some s.dltime else none }
      let s := s.queueStandaloneChannelAllocations told toBitmap
      { s with bearers := s.bearers.insert id { bearer with resize := some resize } }

def commitBearerResize (id generation : Nat) : Sndcp :=
  match (s.bearers.lookup id).filter (·.generation = generation) with
  | none => s
  | some bearer =>
    match bearer.resize with
    | none => s
    | some resize =>
      let shrinks := resize.expansionBitmap = 0
      let committed :=
        { bearer with
          resize := none
          timeslotBitmap := resize.toBitmap
          expandNotBefore :=
            if shrinks then some (s.dltime.addTimeslots (18 * 4)) else none }
      let s := { s with bearers := s.bearers.insert id committed }
      let s := if shrinks then
        (s.control (.resize id generation resize.toBitmap)).releaseSlots
          (resize.fromBitmap &&& ~~~resize.toBitmap) else s
      let s :=
        { s with
          contexts := committed.members.foldl (fun contexts issi =>
            Table.modify contexts issi fun context =>
              { context with timeslotBitmap := resize.toBitmap }) s.contexts }
      s.submit (.bearerReport bearer.commandId id generation .ready resize.toBitmap
        committed.memberCount)

def rollbackBearerResize (id generation : Nat) : Sndcp :=
  match (s.bearers.lookup id).filter (·.generation = generation) with
  | none => s
  | some bearer =>
    match bearer.resize with
    | none => s
    | some resize =>
      let s := { s with bearers := s.bearers.insert id { bearer with resize := none } }
      if resize.expansionBitmap ≠ 0 then
        (s.control (.resize id generation resize.fromBitmap)).releaseSlots
          resize.expansionBitmap
      else s

/-- How a resize goes on: `some true` commits it, `some false` takes it back. -/
def resizeVerdict (resize : PendingBearerResize) : Option Bool :=
  if (resize.reporters.any fun index =>
      (s.reporter index).state = .discarded || (s.reporter index).state = .lost) ||
      0 ≤ resize.deadline.age s.dltime then some false
  else if resize.reporters.all fun index => (s.reporter index).isInFinalState then
    let commitAt := resize.commitAt.getD (s.dltime.addTimeslots pdchResizeRfGuardTimeslots)
    if 0 ≤ commitAt.age s.dltime then some true else none
  else none

/-- The commit time is set when every announcement is on the air. -/
def pollResize (bearer : Bearer) : Bearer :=
  match bearer.resize with
  | none => bearer
  | some resize =>
    if s.resizeVerdict resize = some false then bearer
    else if resize.reporters.all fun index => (s.reporter index).isInFinalState then
      let commitAt := resize.commitAt.getD (s.dltime.addTimeslots pdchResizeRfGuardTimeslots)
      { bearer with resize := some { resize with commitAt := some commitAt } }
    else bearer

def finishBearerResize (verdict : Nat × Nat × Bool) : Sndcp :=
  match verdict with
  | (id, generation, true) => s.commitBearerResize id generation
  | (id, generation, false) => s.rollbackBearerResize id generation

def processBearerResizes : Sndcp :=
  let pending := s.bearers.entries.filterMap fun entry =>
    (entry.2.resize.bind s.resizeVerdict).map fun commit => (entry.1, entry.2.generation, commit)
  let s := { s with bearers := s.bearers.mapValues s.pollResize }
  pending.foldl finishBearerResize s

/-- Reserve what can be had of the missing slots, and announce it. -/
def expandBearer (candidate : Nat × Nat × SlotBitmap × SlotBitmap) : Sndcp :=
  let (id, generation, current, missing) := candidate
  let added := s.obtainable missing
  let s := s.reserveSlots missing
  if added ≠ 0 then s.startBearerResize id generation (current ||| added) added else s

/-- A bearer that may grow, with its missing slots. -/
def expansionCandidate (id : Nat) (bearer : Bearer) : Option (Nat × Nat × SlotBitmap × SlotBitmap) :=
  let missing := bearer.desiredTimeslotBitmap &&& ~~~bearer.timeslotBitmap
  if !bearer.draining && bearer.resize.isNone &&
      bearer.expandNotBefore.all (fun due => 0 ≤ due.age s.dltime) && missing ≠ 0 then
    some (id, bearer.generation, bearer.timeslotBitmap, missing)
  else none

def processBearerExpansions : Sndcp :=
  let candidates := s.bearers.entries.filterMap fun entry => s.expansionCandidate entry.1 entry.2
  candidates.foldl expandBearer s

/-! ### Draining -/

def forceSlots (forceAfterMs : Nat) : Int :=
  max (min ((forceAfterMs * 18 * 4 + 999) / 1000) (2 ^ 31 - 1) : Nat) drainGraceTimeslots

/-- Every member is ordered off the channel; then the bearer drains. -/
def announceDrain (commandId id generation forceAfterMs : Nat) : Sndcp :=
  match (s.bearers.lookup id).filter (·.generation = generation) with
  | none => s
  | some bearer =>
    let told := bearer.members.filterMap s.contexts.lookup
    let draining :=
      { bearer with
        drainReporters := bearer.drainReporters ++ s.nextReporters told
        draining := true
        commandId
        releaseAt := some (s.dltime.addTimeslots drainGraceTimeslots)
        forceAt := some (s.dltime.addTimeslots (forceSlots forceAfterMs)) }
    let s := s.queueEndsOfData told true
    let s := { s with bearers := s.bearers.insert id draining }
    let s := s.control (.drain id generation)
    s.submit (.bearerReport commandId id generation .draining bearer.timeslotBitmap
      bearer.memberCount)

/-- A resize that is on its way is taken back first. -/
def beginDrain (commandId id generation forceAfterMs : Nat) : Sndcp :=
  if (s.bearers.lookup id).any fun bearer =>
      bearer.generation = generation && bearer.resize.isSome then
    (s.rollbackBearerResize id generation).announceDrain commandId id generation forceAfterMs
  else s.announceDrain commandId id generation forceAfterMs

/-- Whether a draining bearer is due: `some true` by force. -/
def drainVerdict (bearer : Bearer) : Option Bool :=
  if bearer.draining then
    let forced := bearer.forceAt.any fun deadline => 0 ≤ deadline.age s.dltime
    let notified := bearer.members.isEmpty || (!bearer.drainReporters.isEmpty &&
      bearer.drainReporters.all fun index => (s.reporter index).isInFinalState)
    let graceful := notified && bearer.releaseAt.any fun deadline => 0 ≤ deadline.age s.dltime
    if forced || graceful then some forced else none
  else none

def releaseDue (due : Nat × Nat × Bool) : Sndcp :=
  s.releaseBearer due.1 due.2.1 due.2.2

def processDrains : Sndcp :=
  let due := s.bearers.values.filterMap fun bearer =>
    (s.drainVerdict bearer).map fun forced => (bearer.id, bearer.generation, forced)
  due.foldl releaseDue s

/-- Voice asks for capacity: a bearer gives up its last slot but one, or is drained. -/
def processPreemption : Sndcp :=
  let requested := s.timeslotAlloc.takePacketPreemptionRequest.1
  let s := { s with timeslotAlloc := s.timeslotAlloc.takePacketPreemptionRequest.2 }
  if !requested then s
  else
    match s.bearers.values.find? (!·.draining) with
    | none => s
    | some bearer =>
      if bearer.resize.isSome then s
      else
        match bearer.timeslotBitmap.slots.getLast? with
        | some released =>
          if 1 < bearer.timeslotBitmap.slots.length then
            s.startBearerResize bearer.id bearer.generation
              (bearer.timeslotBitmap &&& ~~~bit released) 0
          else s.beginDrain bearer.commandId bearer.id bearer.generation 2500
        | none => s.beginDrain bearer.commandId bearer.id bearer.generation 2500

end Sndcp

end Bluestation
