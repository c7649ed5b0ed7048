/-
**Admission of calls.**

A call that waits for a circuit has an entry under a token. Once circuits are free the call is ready; then
the network, or the cell for the calls that it admits itself, has a circuit reserved for it and commits
the call. A call that runs is suspended when its terminals have heard of it.

* `Cc.CapacityQueue` — the queue of the entries.
* `Cc.CcBs.capacityControl` — prepare, commit, cancel, suspend or forget a token.
* `Cc.CcBs.capacityTick` — what time does to the entries.
* `Cc.CcBs.capacityHandle` — a message about the admission.
* `Cc.CcBs.capacityLocalSetup` — the cell admits a call itself.
-/

import Bluestation.Cmce.SwmiActions

namespace Bluestation.Cc

/-- The queue of the entries: an entry joins it and may push another one out, entries run out of time,
and those that wait have an order. -/
structure CapacityQueue where
  insert : Table CapacityEntry → CapacityEntry → CapacityPolicy →
    Option (Option CapacityEntry × Table CapacityEntry)
  expire : Table CapacityEntry → Nat → List (Nat × Bool) × Table CapacityEntry
  ordered : Table CapacityEntry → List Nat
  validate : CapacityPolicy → Bool

namespace CapacityQueue

/-- What time does to one entry: a call that waits expires, and a circuit is reserved for a while only. -/
def age (now : Nat) (entry : CapacityEntry) : CapacityEntry × Option Bool :=
  match entry.status with
  | .queued | .ready =>
    if entry.deadline.any (· ≤ now) then ({ entry with status := .expired }, some true)
    else (entry, none)
  | .reserved =>
    if entry.reservedUntil.any (· ≤ now) then
      ({ entry with
        status := .queued
        reservedUntil := none }, some false)
    else (entry, none)
  | _ => (entry, none)

/-- A queue without a limit: the entries that wait are served in the order in which they came. -/
def unbounded : CapacityQueue where
  insert entries entry _ := some (none, entries.insert entry.token entry)
  expire entries now :=
    (entries.values.filterMap fun entry => (age now entry).2.map (entry.token, ·),
      entries.mapValues fun entry => (age now entry).1)
  ordered entries :=
    ((entries.values.filter fun entry =>
      entry.status = .queued || entry.status = .ready || entry.status = .suspended).map
        (·.token)).reverse
  validate _ := true

end CapacityQueue

def localToken : Nat := 2 ^ 63

/-- `token & (1 << 63) != 0` -/
def isLocalToken (token : Nat) : Bool := token.testBit 63

namespace CapacityEntry

variable (entry : CapacityEntry)

def activated : CapacityEntry :=
  { entry with
    status := .active
    reservedUntil := none
    deadline := none }

/-- The call is suspended, and is an existing one when it comes back. -/
def paused : CapacityEntry :=
  { entry with
    status := .suspended
    existing := true }

def requeued : CapacityEntry :=
  { entry with
    status := .queued
    reservedUntil := none }

def reserved (due : Nat) : CapacityEntry :=
  { entry with
    status := .reserved
    reservedUntil := some due }

def lapsed (now : Nat) : Bool := entry.reservedUntil.any (· ≤ now)

end CapacityEntry

namespace CcBs

variable (s : CcBs)

/-! ### Entries and contexts -/

def setEntries (entries : Table CapacityEntry) : CcBs :=
  { s with capacity := { s.capacity with entries } }

variable (token : Nat)

def amendEntry (change : CapacityEntry → CapacityEntry) : CcBs :=
  s.setEntries (s.capacity.entries.modify token change)

def setStatus (status : CapacityStatus) : CcBs :=
  s.amendEntry token fun entry => { entry with status }

def setContexts (contexts : Table CapacityContext) : CcBs :=
  { s with capacity := { s.capacity with contexts } }

def setRefresh (token due : Nat) : CcBs :=
  { s with
    capacity :=
      { s.capacity with refresh := s.capacity.refresh.insert token due } }

variable (callId : Nat)

def markResuming : CcBs :=
  { s with
    capacity :=
      { s.capacity with resuming := s.capacity.resuming.insert callId () } }

def reserveGroup (circuit : CmceCircuit) : CcBs :=
  { s with
    capacity :=
      { s.capacity with reservedGroups := s.capacity.reservedGroups.insert callId circuit } }

/-- A private call that comes to the cell is known while it waits. -/
def capacityPrepareContext : CcBs :=
  match s.capacity.contexts.lookup token with
  | some (.privateCallRestore callId callerItsi calleeItsi hook duplex requestToTransmit priority
      initialFloorItsi endpointMask) =>
      (s.knowPrivateCall (callIdBits callId) ⟨callerItsi, calleeItsi, hook, duplex, requestToTransmit,
        priority, initialFloorItsi, true, endpointMask⟩ fun existing =>
          { existing with
            localMask := existing.localMask ||| endpointMask
            connected := true }).markResuming (callIdBits callId)
  | _ => s

/-! ### Circuits -/

def endpointCount (mask : EndpointMask) : Nat := (List.range 8).countP fun bit => mask.getLsbD bit

/-- The circuits that a private call still needs. -/
def privateSlotsNeeded (endpointMask : EndpointMask) (duplex : Bool) : Nat :=
  let mask :=
    match s.privateCalls.lookup (callIdBits callId) with
    | some call => call.localMask ||| endpointMask
    | none => endpointMask
  let existing := s.privateCircuits.keys.countP fun key => key.1 = callIdBits callId
  if !duplex && mask = 3 then if existing = 0 then 1 else 0
  else endpointCount mask - existing

/-- The circuits that the call of a token needs; none are enough for a group that nobody listens to. -/
def capacitySlotsNeeded : Option Nat :=
  match s.capacity.contexts.lookup token with
  | some (.groupCallStart callId _ gssi _ _ _ _) =>
    if (s.activeCalls.lookup (callIdBits callId)).isSome then some 0
    else if s.hasListener gssi || s.pendingSwmiSetups.keys.any (·.2 = gssi) then some 1
    else none
  | some (.privateCallReserve callId _ _ endpointMask duplex _) =>
    some (s.privateSlotsNeeded callId endpointMask duplex)
  | some (.privateCallRestore callId _ _ _ duplex _ _ _ endpointMask) =>
    some (s.privateSlotsNeeded callId endpointMask duplex)
  | none => none

/-- The circuits that the call of a token needs are reserved. -/
def capacityAllocate : Bool × CcBs :=
  match s.capacity.contexts.lookup token with
  | some (.groupCallStart callId _ _ _ _ acknowledged _) =>
    let id := callIdBits callId
    if (s.activeCalls.lookup id).isSome || (s.capacity.reservedGroups.lookup id).isSome then (true, s)
    else match s.circuits.allocateCircuitWithAllocatorAndCallId
        (if acknowledged then .p2mpAcked else .p2mp) s.timeslotAlloc id false with
      | (some circuit, radio) => (true, (s.setRadio radio).reserveGroup id circuit)
      | (none, radio) => (false, s.setRadio radio)
  | some (.privateCallReserve callId callerItsi calleeItsi endpointMask duplex _) =>
    s.allocatePrivateCallResources (callIdBits callId) callerItsi calleeItsi endpointMask duplex
  | some (.privateCallRestore callId callerItsi calleeItsi _ duplex _ _ _ endpointMask) =>
    s.allocatePrivateCallResources (callIdBits callId) callerItsi calleeItsi endpointMask duplex
  | none => (false, s)

/-! ### Suspension -/

/-- How many terminals are told that their call is suspended. -/
def suspendTargets : Nat :=
  (s.activeCalls.lookup callId).toList.length +
    match s.privateCalls.lookup callId with
    | none => 0
    | some call => ([call.callerItsi, call.calleeItsi].filterMap fun itsi =>
      s.privateCircuits.lookup (callId, itsi)).length

/-- The terminals of the call of a token are told that it is suspended, each with a receipt. -/
def capacitySuspend (around : Surroundings) (token : Nat) : CcBs :=
  if token ∈ s.capacity.suspending then s
  else match s.capacity.entries.lookup token with
    | none => s
    | some entry =>
      let targets := s.suspendTargets (callIdBits entry.callId)
      { s with
        receipts := s.receipts + targets
        capacity :=
          { s.capacity with
            suspending := s.capacity.suspending.insert token
              (around.now + s.capacity.policy.suspendSendMs, List.range' s.receipts targets) } }

/-- A group call that runs is put aside, and its circuit is closed. -/
def parkGroupCall : CcBs :=
  match s.activeCalls.lookup callId with
  | none => s
  | some call =>
    let parked :=
      { s.endCall callId with
        cachedSetups := s.cachedSetups.erase callId
        capacity :=
          { s.capacity with
            suspendedGroups := s.capacity.suspendedGroups.insert callId call
            suspendedSetups :=
              match s.cachedSetups.lookup callId with
              | some gssi => s.capacity.suspendedSetups.insert callId gssi
              | none => s.capacity.suspendedSetups } }
    let told := parked.tell .swmi (.callEnded callId call.ts)
    match told.circuits.dl.lookup call.ts with
    | some circuit => told.closeCircuit call.ts circuit
    | none => told

def privateTimeslots : List Nat :=
  ((s.privateCircuits.entries.filter fun entry => entry.1.1 = callId).map fun entry => entry.2.ts).dedup

def endSuspending : CcBs :=
  { s with
    capacity :=
      { s.capacity with suspending := s.capacity.suspending.erase token } }

def dropGuard : CcBs :=
  { s with
    capacity :=
      { s.capacity with suspendGuard := s.capacity.suspendGuard.erase token } }

/-- The call of a token is suspended, and its circuits are closed. -/
def capacityFinishSuspend : CcBs :=
  let settled := (s.endSuspending token).dropGuard token
  match settled.capacity.entries.lookup token with
  | none => settled
  | some entry =>
    let id := callIdBits entry.callId
    let parked := (settled.amendEntry token .paused).parkGroupCall id
    let stopped := (parked.privateTimeslots id).foldl (fun s ts => s.stopPrivateMedia id ts) parked
    (stopped.capacityReleaseReserved id).markResuming id

/-! ### Control of a token -/

/-- A circuit is reserved for the call of a token whose turn it is. -/
def capacityPrepare (around : Surroundings) (token : Nat) (entry : CapacityEntry) : CcBs :=
  if entry.status = .reserved || entry.status = .active then s
  else if entry.status = .ready then
    let allocated := s.capacityAllocate token
    if allocated.1 then
      allocated.2.amendEntry token
        (·.reserved (around.now + allocated.2.capacity.policy.reservationMs))
    else allocated.2.setStatus token .queued
  else s.setStatus token .queued

/-- What is decided once a token is committed. A private call that was not suspended is connected; one
that was is taken up again. -/
def commitMessage (resuming : Bool) : CapacityContext → SwmiMessage
  | .privateCallReserve id callerItsi calleeItsi endpointMask duplex initialFloorItsi =>
    if !resuming then .privateCallConnected id callerItsi calleeItsi duplex initialFloorItsi
    else match s.privateCalls.lookup callId with
      | some call => .privateCallRestore callId call.callerItsi call.calleeItsi call.hook call.duplex
          call.requestToTransmit call.priority call.floorItsi call.localMask
      | none => .privateCallReserve id callerItsi calleeItsi endpointMask duplex initialFloorItsi
  | context => context.message

def localOwner : SwmiMessage → Option Nat
  | .groupCallStart _ ownerItsi .. => if isLocalToken token then some ownerItsi else none
  | _ => none

def ownCall (callId callerSsi : Nat) : CcBs :=
  s.amendActiveCall callId fun call => { call with origin := .cell callerSsi }

/-- A group call of a token of the cell's own is one of the cell. -/
def ownLocal (token callId : Nat) (message : SwmiMessage) : CcBs :=
  match localOwner token message with
  | some callerSsi => s.ownCall callId callerSsi
  | none => s

/-- What was kept of a call while it was suspended is not needed any more. -/
def endResuming : CcBs :=
  { s with
    capacity :=
      { s.capacity with
        resuming := s.capacity.resuming.erase callId
        suspendedGroups := s.capacity.suspendedGroups.erase callId
        suspendedSetups := s.capacity.suspendedSetups.erase callId } }

def setCommitting (committing : Bool) : CcBs :=
  { s with capacity := { s.capacity with committing } }

def activate : CcBs := (s.amendEntry token .activated).setCommitting true

/-- The call of a token gets the circuit that is reserved for it. -/
def capacityCommit (setting : CcSetting) (around : Surroundings) (token : Nat) (entry : CapacityEntry) :
    CcBs :=
  if entry.status ≠ .reserved || entry.lapsed around.now then s
  else match s.capacity.contexts.lookup token with
    | none => s
    | some context =>
      let activated := s.activate token
      let id := callIdBits entry.callId
      let resuming := id ∈ activated.capacity.resuming
      let message := activated.commitMessage id resuming context
      let owned := (activated.swmiAction setting around message).ownLocal token id message
      (if resuming then owned.endResuming id else owned).setCommitting false

/-- A circuit is not reserved any more, and the call of the token waits again. -/
def capacityCancel (entry : CapacityEntry) : CcBs :=
  if entry.status = .active then s
  else (s.capacityReleaseReserved (callIdBits entry.callId)).amendEntry token .requeued

def capacityControl (setting : CcSetting) (around : Surroundings) (token : Nat)
    (action : CapacityAction) : CcBs :=
  match s.capacity.entries.lookup token with
  | none => s
  | some entry =>
    match action with
    | .prepare => s.capacityPrepare around token entry
    | .commit => s.capacityCommit setting around token entry
    | .cancel => s.capacityCancel token entry
    | .suspend => s.capacitySuspend around token
    | .forget => s.capacityForget token

/-! ### Time -/

/-- `SETUP_QUEUE_GRACE_MS` -/
def setupQueueGraceMs : Nat := 1020

/-- The terminals of a call that waits are told so, and are told again later. -/
def capacityNotifyWait (around : Surroundings) (token : Nat) : CcBs :=
  match s.capacity.entries.lookup token with
  | none => s
  | some entry =>
    if entry.existing || entry.status = .active || entry.status = .expired ||
        entry.status = .rejected then s
    else if token ∉ s.capacity.refresh && around.now - entry.entered < setupQueueGraceMs then s
    else s.setRefresh token (around.now + s.capacity.policy.setupRefreshMs)

/-- A call of the network ends because the network cannot be reached. -/
def releaseUnreachable (setting : CcSetting) (around : Surroundings) (s : CcBs) (callId : Nat) : CcBs :=
  s.swmiAction setting around
    (if (s.privateCalls.lookup (callIdBits callId)).isSome then .privateCallRelease callId 0
    else .callRelease callId)

def centralCalls (order : List Nat) : List Nat :=
  ((s.capacity.entries.rearrange order).values.filter fun entry => !isLocalToken entry.token).map
    (·.callId)

def dropCentralCalls (setting : CcSetting) (around : Surroundings) : CcBs :=
  let dropped :=
    if s.capacity.networkWasConnected && !around.connected then
      (s.centralCalls around.order).foldl (releaseUnreachable setting around) s
    else s
  { dropped with
    capacity :=
      { dropped.capacity with networkWasConnected := around.connected } }

def retries (around : Surroundings) : Bool := s.capacity.nextRetry ≤ around.now

def scheduleRetry (around : Surroundings) : CcBs :=
  if s.retries around then
    { s with
      capacity :=
        { s.capacity with nextRetry := around.now + s.capacity.policy.retryMs } }
  else s

/-- An entry has run out of time. A call of the cell that has waited too long is released. -/
def runOut (setting : CcSetting) (around : Surroundings) (s : CcBs) (expiry : Nat × Bool) : CcBs :=
  match s.capacity.entries.lookup expiry.1 with
  | none => s
  | some entry =>
    let id := callIdBits entry.callId
    let released := s.capacityReleaseReserved id
    if expiry.2 && isLocalToken expiry.1 then released.swmiAction setting around (.callRelease id)
    else released

variable (queue : CapacityQueue)

def expireEntries (setting : CcSetting) (around : Surroundings) : CcBs :=
  let expired := queue.expire s.capacity.entries around.now
  expired.1.foldl (runOut setting around) (s.setEntries expired.2)

def setGuard (guard : TdmaTime) : CcBs :=
  { s with
    capacity :=
      { s.capacity with suspendGuard := s.capacity.suspendGuard.insert token guard } }

/-- A suspension goes on once the terminals have heard of it, and some time later to be sure. -/
def driveSuspension (around : Surroundings) (s : CcBs) (token : Nat) : CcBs :=
  match s.capacity.suspending.lookup token with
  | none => s
  | some (due, receipts) =>
    if receipts.all around.transmitted then
      -- two frames more, so that the burst that is scheduled can be sent
      let guard := (s.capacity.suspendGuard.lookup token).getD (s.dltime.addTimeslots 8)
      let guarded := s.setGuard token guard
      if 0 ≤ guarded.dltime.diff guard then guarded.capacityFinishSuspend token else guarded
    else if due ≤ around.now then s.endSuspending token
    else s

def driveSuspensions (around : Surroundings) : CcBs :=
  (s.capacity.suspending.rearrange around.order).keys.foldl (driveSuspension around) s

def freeTimeslots : Nat :=
  SlotBitmap.timeslots.countP fun ts =>
    (s.timeslotAlloc.owners ts).isNone && !s.timeslotAlloc.commonControlPending ts

def requestPreemption (need : Option Nat) : CcBs :=
  if need.any (0 < ·) then { s with timeslotAlloc := s.timeslotAlloc.requestPacketPreemption } else s

/-- Of two calls that run, the first is suspended rather than the second. -/
def yieldsBefore (first second : CapacityEntry) : Bool :=
  let speaks (entry : CapacityEntry) : Nat :=
    if (s.activeCalls.lookup (callIdBits entry.callId)).any (·.hangtimeStart.isSome) then 0 else 1
  first.priority < second.priority || first.priority = second.priority &&
    (speaks first < speaks second || speaks first = speaks second && first.callId < second.callId)

/-- The call that is suspended for one that is more urgent. -/
def victimFor (order : List Nat) (priority : Nat) : Option CapacityEntry :=
  ((s.capacity.entries.rearrange order).values.filter fun entry =>
      entry.status = .active && entry.priority < priority && entry.token ∉ s.capacity.suspending).foldl
    (fun best entry =>
      match best with
      | none => some entry
      | some chosen => if s.yieldsBefore entry chosen then some entry else some chosen) none

/-- A call of the cell is suspended; for a call of the network it is the network that decides. -/
def suspendVictim (around : Surroundings) (priority : Nat) : CcBs :=
  match s.victimFor around.order priority with
  | some victim => if isLocalToken victim.token then s.capacitySuspend around victim.token else s
  | none => s

/-- One entry that waits: it is ready if there are timeslots for it still. -/
def serveEntry (around : Surroundings) (retry : Bool) (state : CcBs × Nat) (token : Nat) : CcBs × Nat :=
  match state.1.capacity.entries.lookup token with
  | none => state
  | some entry =>
    if entry.deadline.any (· ≤ around.now) then state
    else
      let need := state.1.capacitySlotsNeeded token
      let ready := need.any (· ≤ state.2)
      let asked := if ready then state.1 else state.1.requestPreemption need
      let status : CapacityStatus := if ready then .ready else .queued
      let marked := if entry.status ≠ status || retry then asked.setStatus token status else asked
      let urgent :=
        if !ready && 12 ≤ entry.priority then marked.suspendVictim around entry.priority else marked
      let notified :=
        if (urgent.capacity.refresh.lookup token).getD 0 ≤ around.now then
          urgent.capacityNotifyWait around token
        else urgent
      (notified, if ready then state.2 - need.getD 0 else state.2)

def serveEntries (around : Surroundings) (retry : Bool) : CcBs :=
  ((queue.ordered s.capacity.entries).foldl (serveEntry around retry) (s, s.freeTimeslots)).1

def admitReady (setting : CcSetting) (around : Surroundings) (s : CcBs) (token : Nat) : CcBs :=
  (s.capacityControl setting around token .prepare).capacityControl setting around token .commit

def localReady : List Nat :=
  (queue.ordered s.capacity.entries).filter fun token =>
    isLocalToken token && (s.capacity.entries.lookup token).any (·.status = .ready)

def admitLocal (setting : CcSetting) (around : Surroundings) : CcBs :=
  (s.localReady queue).foldl (admitReady setting around) s

def capacityTick (setting : CcSetting) (around : Surroundings) : CcBs :=
  let dropped := s.dropCentralCalls setting around
  let expired := (dropped.scheduleRetry around).expireEntries queue setting around
  let served := (expired.driveSuspensions around).serveEntries queue around (dropped.retries around)
  served.admitLocal queue setting around

/-! ### Messages -/

/-- An entry for a call that is offered. -/
def offeredEntry (around : Surroundings) (token callId priority : Nat) (existing : Bool)
    (timeoutMs : Nat) : CapacityEntry where
  token
  callId
  priority
  existing
  entered := around.now
  deadline := if 0 < timeoutMs then some (around.now + timeoutMs) else none
  reservedUntil := none
  status := .queued

def supersede (order : List Nat) (callId : Nat) : CcBs :=
  (s.tokensOf order callId).foldl capacityForget s

/-- The entry is in the queue; the one that it pushed out is forgotten. -/
def admitEntry (entries : Table CapacityEntry) (victim : Option CapacityEntry) : CcBs :=
  match victim with
  | some victim => (s.setEntries entries).capacityForget victim.token
  | none => s.setEntries entries

def awaitTurn (context : CapacityContext) : CcBs :=
  (s.setContexts (s.capacity.contexts.insert token context)).capacityPrepareContext token

def capacityOffer (setting : CcSetting) (around : Surroundings) (entry : CapacityEntry)
    (offered : Option CapacityContext) : CcBs :=
  if entry.token ∈ s.capacity.entries then s
  else match offered.filter (·.callId = entry.callId) with
    | none => s
    | some context =>
      let superseded := s.supersede around.order entry.callId
      match queue.insert superseded.capacity.entries entry superseded.capacity.policy with
      | none => superseded
      | some (victim, entries) =>
        ((superseded.admitEntry entries victim).awaitTurn entry.token context).capacityTick queue
          setting around

/-- An endpoint is not one of the cell any more. -/
def CapacityContext.withoutEndpoint (itsi : Nat) : CapacityContext → CapacityContext
  | .privateCallReserve callId callerItsi calleeItsi endpointMask duplex initialFloorItsi =>
    .privateCallReserve callId callerItsi calleeItsi (maskWithout callerItsi calleeItsi endpointMask)
      duplex initialFloorItsi
  | .privateCallRestore callId callerItsi calleeItsi hook duplex requestToTransmit priority
      initialFloorItsi endpointMask =>
      .privateCallRestore callId callerItsi calleeItsi hook duplex requestToTransmit priority
        initialFloorItsi (maskWithout callerItsi calleeItsi endpointMask)
  | context => context
where
  maskWithout (callerItsi calleeItsi : Nat) (mask : EndpointMask) : EndpointMask :=
    let caller := if callerItsi = itsi then mask &&& ~~~1 else mask
    if calleeItsi = itsi then caller &&& ~~~2 else caller

/-- An endpoint of the call of a token has gone to another cell. -/
def endpointMoved (around : Surroundings) (token itsi : Nat) : CcBs :=
  match s.capacity.entries.lookup token with
  | none => s
  | some entry =>
    let id := callIdBits entry.callId
    let masked := s.setContexts
      (s.capacity.contexts.modify token (CapacityContext.withoutEndpoint itsi))
    let detached := masked.detachRoamedPrivateEndpoint around.order id itsi
    if (detached.privateCalls.lookup id).isSome then detached else detached.capacityForget token

def setLimited (limitedGroups : Table Unit) : CcBs :=
  { s with capacity := { s.capacity with limitedGroups } }

/-- The coverage of the call of a token is limited, or is not any more. -/
def setCoverage (limited : Bool) : CcBs :=
  match s.capacity.entries.lookup token with
  | none => s
  | some entry =>
    let id := callIdBits entry.callId
    s.setLimited <|
      if limited then s.capacity.limitedGroups.insert id () else s.capacity.limitedGroups.erase id

def setPolicy (policy : CapacityPolicy) : CcBs :=
  if queue.validate policy then { s with capacity := { s.capacity with policy } } else s

def capacityHandle (setting : CcSetting) (around : Surroundings) :
    CapacityMessage → CcBs
  | .policy policy => s.setPolicy queue policy
  | .offer token callId priority existing timeoutMs context =>
    s.capacityOffer queue setting around
      (offeredEntry around token callId priority existing timeoutMs) context
  | .control token action => s.capacityControl setting around token action
  | .report => s
  | .endpointMoved token itsi => s.endpointMoved around token itsi
  | .coverage token limited => s.setCoverage token limited

/-- Any message of the network. -/
def handleSwmiAction (setting : CcSetting) (around : Surroundings) :
    SwmiMessage → CcBs
  | .capacity message =>
    (s.capacityObserve around.order (.capacity message)).capacityHandle queue setting around message
  | message => s.swmiAction setting around message

/-! ### Calls that the cell admits itself -/

def callIdTaken : Bool :=
  s.capacity.entries.values.any (·.callId = callId) || callId ∈ s.activeCalls ||
    callId ∈ s.privateCalls

/-- The next identifier that no call has. With all of them taken the search would not end: `none`. -/
def drawCallId : Nat → CcBs → Option (Nat × CcBs)
  | 0, _ => none
  | tries + 1, s =>
    let drawn := s.circuits.getNextCallId
    let next := { s with circuits := drawn.2 }
    if next.callIdTaken drawn.1 then drawCallId tries next else some (drawn.1, next)

def awaitLocal (key : Nat × Nat) (pdu : USetup) : CcBs :=
  { s with
    pendingSwmiSetups := s.pendingSwmiSetups.insert key pdu
    capacity :=
      { s.capacity with nextLocal := s.capacity.nextLocal + 1 } }

def refuseLocal (key : Nat × Nat) : CcBs :=
  if token ∈ s.capacity.entries then s
  else
    { s with
      pendingSwmiSetups := s.pendingSwmiSetups.erase key }

/-- A call of the cell is offered to its own queue. -/
def offerLocal (setting : CcSetting) (around : Surroundings) (caller gssi : Nat) (pdu : USetup)
    (callId : Nat) : CcBs :=
  let token := localToken + s.capacity.nextLocal
  let offered := (s.awaitLocal (caller, gssi) pdu).capacityOffer queue setting around
    (offeredEntry around token callId pdu.callPriority false s.capacity.policy.setupWaitMs)
    (some (.groupCallStart callId caller gssi pdu.callPriority caller (pdu.commType = .p2mpAcked) none))
  (offered.refuseLocal token (caller, gssi)).ownCall callId caller

/-- The cell admits a group call itself; `none` leaves the request to the procedure. -/
def capacityLocalSetup (setting : CcSetting) (around : Surroundings) (s : CcBs) (caller gssi : Nat)
    (pdu : USetup) : Option CcBs :=
  if s.capacity.committing || (s.callTo around.order gssi).isSome then none
  else if (s.pendingSwmiSetups.lookup (caller, gssi)).isSome then some s
  else match drawCallId 0x3ff s with
    | none => some s
    | some (callId, drawn) => some (drawn.offerLocal queue setting around caller gssi pdu callId)

def rxUSetup (setting : CcSetting) (around : Surroundings) (caller : Nat) (pdu : USetup) : CcBs :=
  s.rxUSetupWith (capacityLocalSetup queue setting around) setting around caller pdu

end CcBs

end Bluestation.Cc
