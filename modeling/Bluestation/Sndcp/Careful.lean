/-
**What every operation preserves, every careful event preserves.**

Two things an event does are harmful at the wrong time: it may forget the context of a terminal that
is on a bearer, and it may place a terminal that is on another bearer.

* `Sndcp.forgets`, `Sndcp.joins`, `Sndcp.drops` — what an event forgets, places and drops.
* `Sndcp.Rules.handle` — such an event preserves what the operations preserve.
-/

import Bluestation.Sndcp.Rules

namespace Bluestation

open List Option Table TimeslotAllocator

def TetraAddress.isIndividual (address : TetraAddress) : Bool :=
  address.ssiType = .issi || address.ssiType = .ssi

namespace Sndcp

/-! ### What an event does to terminals -/

/-- The context that an access result is for. -/
def answered (s : Sndcp) (result : AccessResult) : Option RadioContext :=
  if s.pendingCommands.lookup result.commandId = some (issiOf result.itsi) then
    (s.contexts.lookup (issiOf result.itsi)).filter fun found =>
      recovering found || found.sessionGeneration = some result.sessionGeneration
  else none

/-- The terminal whose context the event removes, or makes up again. -/
def forgets (s : Sndcp) : SndcpEvent → Option Nat
  | .uplink _ _ address (.deactivateDemand deactivationType nsapi snei) =>
    if address.isIndividual && !s.accepts && (s.contexts.lookup address.ssi).any fun context =>
        context.session.isSome && identifiesContext context deactivationType nsapi snei then
      some address.ssi
    else none
  | .uplink _ _ address (.deactivateAccept deactivationType nsapi snei) =>
    if address.isIndividual && (s.pendingNetworkDeactivations.lookup address.ssi).any
        (s.deactivationMatches address.ssi deactivationType nsapi snei) then some address.ssi
    else none
  | .swmi (.activateResult result) =>
    if !result.accepted && s.pendingCommands.lookup result.commandId = some (issiOf result.itsi) &&
        (s.contexts.lookup (issiOf result.itsi)).any (·.endpointId = result.airHandle) then
      some (issiOf result.itsi)
    else none
  | .swmi (.deactivateResult commandId itsi _ _ _) =>
    if (s.pendingMsDeactivations.lookup commandId).any (·.issi = issiOf itsi) then
      some (issiOf itsi)
    else none
  | .swmi (.page _ itsi sessionId sessionGeneration _ _) =>
    if (s.contexts.lookup (issiOf itsi)).any (·.session = some (sessionId, sessionGeneration)) then
      none
    else some (issiOf itsi)
  | .swmi (.accessResult result) =>
    if (s.answered result).isSome && !(result.accepted && s.accepts) &&
        (s.pendingRecoveryDeactivations.lookup result.commandId).isSome then
      some (issiOf result.itsi)
    else none
  | _ => none

/-- The terminal that the event places on a bearer, with its context. -/
def joins (s : Sndcp) : SndcpEvent → Option (Nat × RadioContext × AccessResult)
  | .swmi (.accessResult result) =>
    if result.accepted && result.response ≠ .none then
      (s.answered result).map fun found => (issiOf result.itsi, found, result)
    else none
  | _ => none

def joined (s : Sndcp) (event : SndcpEvent) : Sndcp :=
  match s.joins event with
  | some (issi, found, result) => s.grantAccess issi found result
  | none => s

/-- The outstanding commands that the event keeps. -/
def drops (s : Sndcp) : SndcpEvent → Option (Nat → Nat → Bool)
  | .swmi (.activateResult result) => some fun commandId _ => commandId ≠ result.commandId
  | .swmi (.accessResult result) => some fun commandId _ => commandId ≠ result.commandId
  | .swmi (.contextRelease itsi sessionId sessionGeneration) =>
    if (s.contexts.lookup (issiOf itsi)).any (·.session = some (sessionId, sessionGeneration)) then
      some fun _ pending => pending ≠ issiOf itsi
    else none
  | _ => none

def reservation : SndcpEvent → Option (Nat × Nat)
  | .swmi (.bearerControl _ bearerId bearerGeneration .reserve _ _) =>
    some (bearerId, bearerGeneration)
  | _ => none

/-- **The event forgets nobody who is on a bearer**, also not one that it has just placed there. -/
def forgetsNobody (s : Sndcp) (event : SndcpEvent) : Bool :=
  (s.forgets event).all (fun issi => s.place issi = none) &&
    ((s.forgets event).isNone ||
      (s.joins event).all fun join => (s.bearers.lookup join.2.2.bearerId).isNone)

variable {counts : Bool} {holds : Sndcp → Prop}
  {grantable : Sndcp → Nat → RadioContext → AccessResult → Prop}
  {droppable : Sndcp → (Nat → Nat → Bool) → Prop} {openable : Sndcp → Nat → Nat → Prop} {s : Sndcp}

theorem joins_eq_some {event : SndcpEvent} {join : Nat × RadioContext × AccessResult}
    (joining : s.joins event = some join) :
    event = .swmi (.accessResult join.2.2) ∧ join.2.2.accepted = true ∧
      join.2.2.response ≠ .none ∧ s.answered join.2.2 = some join.2.1 ∧
        join.1 = issiOf join.2.2.itsi := by
  unfold joins at joining
  split at joining
  · split at joining
    next result granted =>
      obtain ⟨found, answered, rfl⟩ := map_eq_some_iff.mp joining
      simp only [Bool.and_eq_true, decide_eq_true_eq] at granted
      exact ⟨rfl, granted.1, granted.2, answered, rfl⟩
    · cases joining
  · cases joining

/-! ### The terminals -/

variable (rules : Rules counts holds grantable droppable openable)

include rules

/-- An activation detaches the terminal; all else is calm. -/
theorem Rules.activateDemand (fresh : counts = true → s.pendingCommands.lookup s.nextCommandId = none)
    (endpointId linkId issi version nsapi : Nat) (address : SndcpAddressRequest) (msType : Nat)
    (apnIndex : Option Nat) (chap : Option SndcpChapProof) (before : holds s) :
    holds (s.activateDemand endpointId linkId issi version nsapi address msType apnIndex chap) := by
  refine rules.calm ?_ (rules.quit issi before)
  have nowhere := s.station_detach issi
  have clock := s.clock_detachPacketBearer issi
  have commands := (s.detachPacketBearer_frame issi).2
  unfold Sndcp.activateDemand
  dsimp only
  generalize s.detachPacketBearer issi = detached at *
  have fresh' : counts = true → detached.pendingCommands.lookup detached.nextCommandId = none := by
    intro count
    have next : detached.nextCommandId = s.nextCommandId := congrArg (·.2) clock
    rw [commands, next]
    exact fresh count
  generalize new : ({ RadioContext.new issi endpointId linkId nsapi none with
    chapIdentifier := chap.map (·.identifier)
    dynamicAddress := decide (address = .dynamic) } : RadioContext) = context
  have written : Calm counts detached (detached.insertContext context) := by
    subst new
    exact .insertContext nowhere rfl
  split
  next cause _ =>
    have rejected := written.trans (.queueDownlink _ context (.activateReject nsapi cause none)
      .acknowledged none none)
    split
    · exact (rejected.trans (.queueRegistrationRecovery _ issi endpointId)).forget nowhere
    · exact rejected.forget nowhere
  · have numbered := written.trans (.command _ detached.nextCommandId issi)
    have activated (address : PacketAddressRequest) := numbered.trans (.submit _
      (.activate detached.nextCommandId issi endpointId (detached.registrationGeneration issi) nsapi
        msType apnIndex address chap))
    have refused (cause : Nat) {next : Sndcp} (calm : Calm counts detached next) :=
      ((calm.recall fresh').trans (.queueDownlink _ context (.activateReject nsapi cause none)
        .acknowledged none none)).forget nowhere
    split
    · split
      · exact activated _
      · exact refused 34 (activated _)
    · split
      · exact activated _
      · exact refused 34 (activated _)
    · exact refused _ numbered

theorem Rules.deactivateLocally (context : RadioContext) (issi deactivationType : Nat)
    (nsapi snei : Option Nat)
    (free : identifiesContext context deactivationType nsapi snei = true → s.place issi = none)
    (before : holds s) : holds (s.deactivateLocally context issi deactivationType nsapi snei) := by
  have answered : Calm counts s (s.queueDownlink context
      (.deactivateAccept deactivationType nsapi snei) .acknowledged none none) :=
    .queueDownlink s context _ _ _ _
  unfold Sndcp.deactivateLocally
  split
  next meant =>
    exact rules.forget issi ((answered.place issi).trans (free meant)) (rules.calm answered before)
  · exact rules.calm answered before

theorem Rules.recoverOrDeactivate {context : RadioContext} {missing : Bool}
    (endpointId linkId issi deactivationType : Nat) (nsapi snei : Option Nat)
    (made : missing = true → s.station issi = .blank ∧ context.issi = issi ∧ context.station = .blank)
    (free : identifiesContext context deactivationType nsapi snei = true → s.place issi = none)
    (before : holds s) :
    holds (s.recoverOrDeactivate context missing endpointId linkId issi deactivationType nsapi
      snei) := by
  unfold Sndcp.recoverOrDeactivate
  dsimp only
  split
  next recovers =>
    simp only [Bool.and_eq_true] at recovers
    obtain ⟨nowhere, rfl, blank⟩ := made recovers.1.1
    have inserted : Calm counts s (s.insertContext context) := .insertContext nowhere blank
    have asked := inserted.trans
      (requestAccess_calm _ context.issi endpointId linkId none true false)
    split
    next commandId next requested =>
      rw [requested] at asked
      exact rules.calm (asked.trans (.of_core rfl rfl)) before
    next next requested =>
      rw [requested] at asked
      have removed := asked.forget nowhere
      refine rules.deactivateLocally context context.issi deactivationType nsapi snei
        (fun meant => ?_) (rules.calm removed before)
      exact (removed.place context.issi).trans (free meant)
  · exact rules.deactivateLocally context issi deactivationType nsapi snei free before

theorem Rules.deactivateDemand (endpointId linkId issi deactivationType : Nat)
    (nsapi snei : Option Nat)
    (careful : s.accepts = false → (∃ context, s.contexts.lookup issi = some context ∧
      context.session.isSome = true ∧
        identifiesContext context deactivationType nsapi snei = true) → s.place issi = none)
    (before : holds s) :
    holds (s.deactivateDemand endpointId linkId issi deactivationType nsapi snei) := by
  have attended := rules.attended before issi
  unfold Sndcp.deactivateDemand
  dsimp only
  generalize making : (s.contexts.lookup issi).getD
    (.new issi endpointId linkId (nsapi.getD defaultNsapi) snei) = context
  have made : (s.contexts.lookup issi).isNone = true →
      s.station issi = .blank ∧ context.issi = issi ∧ context.station = .blank := by
    intro missing
    rw [isNone_iff_eq_none] at missing
    rw [missing] at making
    subst making
    exact ⟨station_of_missing missing, rfl, rfl⟩
  have present {found : RadioContext} (lookup : s.contexts.lookup issi = some found) :
      found = context := by
    rw [lookup] at making
    exact making
  split
  next sessionId sessionGeneration session =>
    obtain ⟨session, meant⟩ := filter_eq_some_iff.mp session
    have held : s.contexts.lookup issi = some context := by
      cases lookup : s.contexts.lookup issi with
      | none =>
        rw [lookup] at making
        subst making
        cases session
      | some found => rw [present lookup]
    split
    · refine rules.calm (s := s) ?_ before
      exact .of_core rfl rfl
    next refused =>
      have dropped : Calm counts s
          { ({ s.nextCommand with
                pendingMsDeactivations := s.pendingMsDeactivations.insert s.nextCommandId
                  ⟨issi, deactivationType, nsapi, snei⟩ } : Sndcp).submit
              (.deactivate s.nextCommandId issi sessionId sessionGeneration false) with
            pendingMsDeactivations := (s.pendingMsDeactivations.insert s.nextCommandId
              ⟨issi, deactivationType, nsapi, snei⟩).erase s.nextCommandId } := .of_core rfl rfl
      refine rules.recoverOrDeactivate endpointId linkId issi deactivationType nsapi snei
        (fun missing => ?_) (fun meant => (dropped.place issi).trans ?_)
        (rules.calm dropped before)
      · obtain ⟨nowhere, same, blank⟩ := made missing
        exact ⟨(dropped.station issi).trans nowhere, same, blank⟩
      · refine careful (Bool.not_eq_true _ ▸ refused) ⟨context, held, ?_, meant⟩
        rw [session]
        rfl
  next sessionless =>
    refine rules.recoverOrDeactivate endpointId linkId issi deactivationType nsapi snei made
      (fun meant => place_of_sessionless attended fun found lookup => ?_) before
    rw [present lookup]
    have := filter_eq_none_iff.mp sessionless
    cases session : context.session with
    | none => rfl
    | some pair => exact absurd meant (this pair session)

theorem Rules.deactivateAccept (issi deactivationType : Nat) (nsapi snei : Option Nat)
    (careful : (s.pendingNetworkDeactivations.lookup issi).any
      (s.deactivationMatches issi deactivationType nsapi snei) = true → s.place issi = none)
    (before : holds s) : holds (s.deactivateAccept issi deactivationType nsapi snei) := by
  unfold Sndcp.deactivateAccept
  split
  · exact before
  next pending found =>
    have taken : Calm counts s (({ s with
        pendingNetworkDeactivations := s.pendingNetworkDeactivations.erase issi } : Sndcp).submit
          (.deactivateResult pending.commandId issi pending.sessionId pending.sessionGeneration
            (s.deactivationMatches issi deactivationType nsapi snei pending))) := .of_core rfl rfl
    rw [found] at careful
    dsimp only
    split
    next matches' =>
      exact rules.forget issi ((taken.place issi).trans (careful matches')) (rules.calm taken before)
    · exact rules.calm taken before

omit rules

theorem uplinkData_calm (s : Sndcp) (issi nsapi : Nat) (payload : List Nat) :
    Calm counts s (s.uplinkData issi nsapi payload) := by
  unfold uplinkData
  repeat' split
  all_goals exact .of_core rfl rfl

theorem transmitRequest_calm (s : Sndcp) (endpointId linkId issi nsapi : Nat) (snei : Option Nat)
    (resource : Option SndcpResourceRequest) :
    Calm counts s (s.transmitRequest endpointId linkId issi nsapi snei resource) := by
  unfold transmitRequest
  split
  next missing =>
    split
    · exact .refl s
    · exact (Calm.insertContext (station_of_missing missing) rfl).trans (requestAccess_calm ..)
  · split
    · exact requestAccess_calm ..
    · exact .refl s

theorem reconnect_calm (s : Sndcp) (endpointId linkId issi : Nat) (dataToSend : Bool)
    (nsapi snei : Option Nat) (resource : Option SndcpResourceRequest) :
    Calm counts s (s.reconnect endpointId linkId issi dataToSend nsapi snei resource) := by
  unfold Sndcp.reconnect
  split
  · exact requestAccess_calm ..
  next missing =>
    split
    · exact .refl s
    · exact (Calm.insertContext (station_of_missing missing) rfl).trans (requestAccess_calm ..)

theorem uplinkEndOfData_calm (s : Sndcp) (issi : Nat) (immediateServiceChange : Bool) :
    Calm counts s (s.uplinkEndOfData issi immediateServiceChange) := by
  unfold uplinkEndOfData
  split <;> exact .of_core rfl rfl

theorem uplinkPageResponse_calm (s : Sndcp) (endpointId linkId issi nsapi : Nat) (available : Bool)
    (snei : Option Nat) (resource : Option SndcpResourceRequest) :
    Calm counts s (s.uplinkPageResponse endpointId linkId issi nsapi available snei resource) := by
  unfold uplinkPageResponse
  split
  · exact .refl s
  next found present =>
    split
    · exact .refl s
    · dsimp only
      split
      · exact .refresh present
      · exact ((Calm.refresh present).trans (.command _ _ _)).trans (.submit _ _)

include rules

/-- **What a terminal sends**, if nobody on a bearer is forgotten. -/
theorem Rules.handleUplink {endpointId linkId : Nat} {address : TetraAddress} {pdu : SndcpUplink}
    (fresh : counts = true → s.pendingCommands.lookup s.nextCommandId = none)
    (careful : ∀ issi ∈ s.forgets (.uplink endpointId linkId address pdu), s.place issi = none)
    (before : holds s) : holds (s.handleUplink endpointId linkId address pdu) := by
  unfold Sndcp.handleUplink
  split
  · exact before
  next addressed =>
    have individual : address.isIndividual = true := by
      unfold TetraAddress.isIndividual
      simp only [not_and_or] at addressed
      simpa using addressed
    split
    · exact rules.activateDemand fresh _ _ _ _ _ _ _ _ _ before
    · refine rules.deactivateDemand _ _ _ _ _ _ (fun refused found => careful _ ?_) before
      obtain ⟨context, present, session, meant⟩ := found
      unfold forgets
      simp [individual, refused, present, session, meant]
    · refine rules.deactivateAccept _ _ _ _ (fun matched => careful _ ?_) before
      unfold forgets
      simp [individual, matched]
    · exact rules.calm (uplinkData_calm ..) before
    · exact rules.calm (transmitRequest_calm ..) before
    · exact rules.calm (reconnect_calm ..) before
    · exact rules.calm (uplinkEndOfData_calm ..) before
    · exact rules.calm (uplinkPageResponse_calm ..) before

/-! ### The network's decisions -/

theorem Rules.takeCommand (commandId : Nat)
    (may : droppable s fun other _ => decide (other ≠ commandId)) (before : holds s) :
    holds (s.takeCommand commandId) := by
  have taken : Calm counts
      { s with pendingCommands := s.pendingCommands.retain fun other _ => decide (other ≠ commandId) }
      (s.takeCommand commandId) := by
    refine .of_lookups (fun _ => rfl) rfl rfl (fun other outstanding => ?_) rfl
    rw [lookup_retain] at outstanding
    show ((s.pendingCommands.erase commandId).lookup other).isSome = true
    rw [lookup_erase_eq]
    cases found : s.pendingCommands.lookup other with
    | none =>
      rw [found] at outstanding
      cases outstanding
    | some issi =>
      split
      · rename_i same
        simp [found, same] at outstanding
      · rfl
  exact rules.calm taken (rules.drop _ may before)

theorem Rules.takeAnswer (commandId : Nat)
    (may : droppable s fun other _ => decide (other ≠ commandId)) (before : holds s) :
    holds ((s.takeCommand commandId).takeRecovery commandId) := by
  have taken := rules.takeCommand commandId may before
  refine rules.calm ?_ taken
  exact .of_core rfl rfl

theorem Rules.activateResult (result : ActivateResult)
    (careful : ∀ issi ∈ s.forgets (.swmi (.activateResult result)), s.place issi = none)
    (may : droppable s fun other _ => decide (other ≠ result.commandId)) (before : holds s) :
    holds (s.activateResult result) := by
  have taken := rules.takeCommand result.commandId may before
  unfold Sndcp.activateResult
  dsimp only
  split
  · exact taken
  next pending =>
    split
    · exact taken
    next found present =>
      have present : s.contexts.lookup (issiOf result.itsi) = some found := present
      split
      · exact taken
      next handle =>
        split
        · have written : Calm counts (s.takeCommand result.commandId)
              { s.takeCommand result.commandId with
                contexts := s.contexts.insert (issiOf result.itsi)
                  { found with
                    sessionId := some result.sessionId
                    sessionGeneration := some result.sessionGeneration
                    snei := result.snei } } := by
            refine .insert ?_ fun gone => ?_
            · unfold Sndcp.station Sndcp.takeCommand
              rw [present]
              rfl
            · unfold Sndcp.lost Sndcp.takeCommand
              rw [present, any_some]
              unfold RadioContext.isLost at gone ⊢
              simp only [Bool.or_eq_true] at gone ⊢
              rcases gone with stranger | sessionless
              · exact .inl stranger
              · simp [RadioContext.session] at sessionless
          exact rules.calm (written.trans (.queueDownlink _ _ _ _ _ _)) taken
        next rejected =>
          have answered : Calm counts (s.takeCommand result.commandId)
              (({ s.takeCommand result.commandId with
                contexts := s.contexts.insert (issiOf result.itsi) found } : Sndcp).queueDownlink
                  found (activationAnswer found result) .acknowledged none none) := by
            refine .trans (.insert ?_ fun gone => ?_) (.queueDownlink _ _ _ _ _ _)
            · unfold Sndcp.station Sndcp.takeCommand
              rw [present]
              rfl
            · unfold Sndcp.lost Sndcp.takeCommand
              rw [present]
              exact gone
          refine rules.forget _ ((answered.place _).trans (careful _ ?_)) (rules.calm answered taken)
          unfold forgets
          simp [rejected, pending, present, handle]

theorem Rules.deactivateResult (commandId itsi : Nat)
    (careful : (s.pendingMsDeactivations.lookup commandId).any (·.issi = issiOf itsi) = true →
      s.place (issiOf itsi) = none) (before : holds s) :
    holds (s.deactivateResult commandId itsi) := by
  unfold Sndcp.deactivateResult
  dsimp only
  split
  · exact before
  next pending found =>
    have taken : Calm counts s { s with
        pendingMsDeactivations := s.pendingMsDeactivations.erase commandId } := .of_core rfl rfl
    split
    · exact rules.calm taken before
    next same =>
      rw [found, any_some, decide_eq_true_eq] at careful
      split
      · exact rules.calm taken before
      next context _ =>
        have answered := taken.trans (.queueDownlink _ context (.deactivateAccept
          pending.deactivationType pending.nsapi pending.snei) .acknowledged none none)
        exact rules.forget _ ((answered.place _).trans (careful (not_not.mp same)))
          (rules.calm answered before)

omit rules

theorem deactivate_calm (s : Sndcp) (commandId itsi sessionId sessionGeneration : Nat) :
    Calm counts s (s.deactivate commandId itsi sessionId sessionGeneration) := by
  unfold Sndcp.deactivate
  dsimp only
  split
  · exact .of_core rfl rfl
  next context _ =>
    have asked : Calm counts s (({ s with
        pendingNetworkDeactivations := s.pendingNetworkDeactivations.insert (issiOf itsi)
          ⟨commandId, sessionId, sessionGeneration⟩ } : Sndcp).queueDownlink context
            (.deactivateDemand 1 (some context.nsapi) context.snei) .acknowledged none none) :=
      .of_core rfl (controls_queueDownlink _ _ _ _ _ _)
    split
    · exact asked
    · exact asked.trans (.of_core rfl rfl)

/-- The context of a session is gone: its commands are dropped, the terminal leaves its bearer, and
then its context is removed. -/
theorem contextRelease_calm (s : Sndcp) {itsi sessionId sessionGeneration : Nat}
    {context : RadioContext} (present : s.contexts.lookup (issiOf itsi) = some context)
    (session : context.session = some (sessionId, sessionGeneration)) :
    Calm counts (({ s with
          pendingCommands := s.pendingCommands.retain fun _ pending =>
            decide (pending ≠ issiOf itsi) } : Sndcp).detachPacketBearer
        (issiOf itsi) |>.removeContext (issiOf itsi))
      (s.contextRelease itsi sessionId sessionGeneration) := by
  unfold Sndcp.contextRelease Sndcp.detachPacketBearer
  dsimp only
  rw [present, filter_some, if_pos (decide_eq_true session)]
  dsimp only
  have erased (issi : Nat) : (s.contexts.erase (issiOf itsi)).lookup issi =
      ((s.contexts.insert (issiOf itsi) context.detached).erase (issiOf itsi)).lookup issi := by
    rw [lookup_erase_eq, lookup_erase_eq, lookup_insert_eq]
    split <;> rfl
  cases association : context.association with
  | none => exact .of_lookups erased rfl rfl (fun _ => id) rfl
  | some found =>
    obtain ⟨id, generation, eventLabel⟩ := found
    generalize leaving : ({ s with
      contexts := s.contexts.insert (issiOf itsi) context.detached
      pendingCommands := s.pendingCommands.retain fun _ pending =>
        decide (pending ≠ issiOf itsi) } : Sndcp) = first
    have cores : (s.forgetContext (issiOf itsi) sessionId sessionGeneration).core =
        { first.core with contexts := s.contexts.erase (issiOf itsi) } := by
      rw [← leaving]
      rfl
    have sent : (s.forgetContext (issiOf itsi) sessionId sessionGeneration).controls =
        first.controls := by
      rw [← leaving]
      rfl
    obtain ⟨core, controls⟩ := leaveBearer_congr cores sent (issiOf itsi) id generation eventLabel
    have kept := (leaveBearer_frame first (issiOf itsi) id generation eventLabel).1
    have contexts := congrArg (·.contexts) core
    have commands := congrArg (·.pendingCommands) core
    refine .of_lookups (fun issi => ?_) (congrArg (·.bearers) core)
      (congrArg (·.timeslotAlloc) core) (fun commandId outstanding => ?_) controls
    · refine (congrArg (AList.lookup issi) contexts).trans ((erased issi).trans ?_)
      rw [← leaving] at kept ⊢
      exact congrArg (fun contexts => (AList.erase (issiOf itsi) contexts).lookup issi) kept.symm
    · exact (congrArg (fun table => (AList.lookup commandId table).isSome) commands).trans
        outstanding

include rules in
theorem Rules.contextRelease (itsi sessionId sessionGeneration : Nat)
    (may : ∀ keep ∈ s.drops (.swmi (.contextRelease itsi sessionId sessionGeneration)),
      droppable s keep) (before : holds s) :
    holds (s.contextRelease itsi sessionId sessionGeneration) := by
  cases found : (s.contexts.lookup (issiOf itsi)).filter
      (·.session = some (sessionId, sessionGeneration)) with
  | none =>
    unfold Sndcp.contextRelease
    dsimp only
    rw [found]
    exact before
  | some context =>
    obtain ⟨present, session⟩ := filter_eq_some_iff.mp found
    have session := of_decide_eq_true session
    have dropped := rules.drop (fun _ pending => decide (pending ≠ issiOf itsi))
      (may _ (by simp [drops, present, session])) before
    have left := rules.quit (issiOf itsi) dropped
    refine rules.calm (contextRelease_calm s present session) (rules.calm ?_ left)
    exact .removeContext (station_detach _ (issiOf itsi))

include rules in
theorem Rules.page (itsi sessionId sessionGeneration nsapi : Nat) (snei : Option Nat)
    (careful : (s.contexts.lookup (issiOf itsi)).any
      (·.session = some (sessionId, sessionGeneration)) = false → s.place (issiOf itsi) = none)
    (before : holds s) : holds (s.page itsi sessionId sessionGeneration nsapi snei) := by
  have attended := rules.attended before (issiOf itsi)
  refine rules.calm (.queueDownlink _ _ _ _ _ _) ?_
  cases found : (s.contexts.lookup (issiOf itsi)).filter
      (·.session = some (sessionId, sessionGeneration)) with
  | some context =>
    obtain ⟨present, -⟩ := filter_eq_some_iff.mp found
    have own : context.issi = issiOf itsi := by
      unfold lost RadioContext.isLost at attended
      rw [present, any_some, Bool.or_eq_false_iff] at attended
      simpa using attended.1
    refine rules.calm (.insert ?_ ?_) before
    · unfold station
      rw [getD_some, own, present]
      rfl
    · unfold lost
      rw [Option.getD_some, own, present]
      exact id
  | none =>
    have other := careful (by
      rw [← Bool.not_eq_true, Option.any_eq_true]
      rintro ⟨context, present, session⟩
      exact filter_eq_none_iff.mp found context present session)
    have removed := rules.forget (issiOf itsi) other before
    have made : Calm counts (s.removeContext (issiOf itsi))
        ((s.removeContext (issiOf itsi)).insertContext
          { RadioContext.new (issiOf itsi) 0 0 nsapi snei with
            sessionId := some sessionId
            sessionGeneration := some sessionGeneration }) :=
      .insertContext (station_of_missing (AList.lookup_erase _ _)) rfl
    have written := rules.calm made removed
    refine rules.calm ?_ written
    refine .of_lookups (fun issi => ?_) rfl rfl (fun _ => id) rfl
    show (s.contexts.insert (issiOf itsi) _).lookup issi =
      ((s.contexts.erase (issiOf itsi)).insert (issiOf itsi) _).lookup issi
    rw [lookup_insert_eq, lookup_insert_eq, lookup_erase_eq]
    split <;> rfl

theorem ipv4_calm (s : Sndcp) (sessionId sessionGeneration packetId : Nat) (payload : List Nat) :
    Calm counts s (s.ipv4 sessionId sessionGeneration packetId payload) := by
  unfold Sndcp.ipv4
  split
  · exact .of_core rfl rfl
  next context _ =>
    have sent : Calm counts s ((s.newReporter .new).queueDownlink context
        (.data context.nsapi payload) .advancedAcknowledged none (some s.reporters.length)) :=
      .of_core rfl (controls_queueDownlink _ _ _ _ _ _)
    dsimp only
    split
    · exact sent.trans (.of_core rfl rfl)
    · exact sent.trans (.of_core rfl rfl)

theorem endOfData_calm (s : Sndcp) (itsi sessionId sessionGeneration : Nat)
    (immediateServiceChange : Bool) :
    Calm counts s (s.endOfData itsi sessionId sessionGeneration immediateServiceChange) := by
  unfold Sndcp.endOfData
  dsimp only
  split
  · exact .refl s
  next context _ =>
    split
    · exact .of_core rfl rfl
    · split
      · exact .refl s
      · exact (Calm.queueEndsOfData s [context] false).trans (.of_core rfl rfl)

include rules in
theorem Rules.beginDrain (commandId id generation forceAfterMs : Nat) (before : holds s) :
    holds (s.beginDrain commandId id generation forceAfterMs) := by
  unfold Sndcp.beginDrain
  split
  · exact rules.drain commandId id generation forceAfterMs (rules.rollback id generation before)
  · exact rules.drain commandId id generation forceAfterMs before

include rules in
theorem Rules.bearerControl (commandId bearerId bearerGeneration : Nat) (action : PacketBearerAction)
    (timeslotBitmap : SlotBitmap) (forceAfterMs : Nat)
    (opens : ∀ bearer ∈ reservation (.swmi (.bearerControl commandId bearerId bearerGeneration action
      timeslotBitmap forceAfterMs)), openable s bearer.1 bearer.2) (before : holds s) :
    holds
      (s.bearerControl commandId bearerId bearerGeneration action timeslotBitmap forceAfterMs) := by
  unfold Sndcp.bearerControl
  split
  · exact rules.reserve _ _ _ _ (opens _ rfl) before
  · exact rules.beginDrain _ _ _ _ before
  · exact rules.beginDrain _ _ _ _ before
  · exact rules.release _ _ _ before
  · exact rules.release _ _ _ before

/-! ### Access -/

theorem grantAccess_takeCommand (s : Sndcp) (commandId issi : Nat) (found : RadioContext)
    (result : AccessResult) :
    ((s.takeCommand commandId).takeRecovery commandId).grantAccess issi found result =
      ((s.grantAccess issi found result).takeCommand commandId).takeRecovery commandId := by
  have granted : ((s.takeCommand commandId).takeRecovery commandId).grantedContext found result =
      s.grantedContext found result := rfl
  unfold grantAccess
  rw [granted]
  dsimp only
  split
  · split
    · split <;> rfl
    · rfl
  · rfl

variable {issi : Nat} {found : RadioContext} {result : AccessResult}

theorem grantAccess_calm (present : s.contexts.lookup issi = some found)
    (silent : result.response = .none) : Calm counts s (s.grantAccess issi found result) := by
  have granted : s.grantedContext found result = { found with
      sessionId := some result.sessionId
      sessionGeneration := some result.sessionGeneration } := by
    unfold grantedContext
    rw [if_neg (not_not.mpr silent)]
  unfold grantAccess
  rw [if_neg (not_not.mpr silent), granted]
  have filtered : Calm counts s
      { s with pendingStandby := s.pendingStandby.filter (·.issi ≠ issi) } := .of_core rfl rfl
  refine filtered.trans (.insert ?_ fun gone => ?_)
  · unfold station
    rw [present]
    rfl
  · unfold lost
    rw [present, any_some]
    unfold RadioContext.isLost at gone ⊢
    simp only [Bool.or_eq_true] at gone ⊢
    rcases gone with stranger | sessionless
    · exact .inl stranger
    · simp [RadioContext.session] at sessionless

theorem place_grantAccess (s : Sndcp) (issi : Nat) (found : RadioContext)
    (respond : result.response ≠ .none) :
    (s.grantAccess issi found result).place issi =
      (s.bearers.lookup result.bearerId).map fun bearer => (result.bearerId, bearer.generation) := by
  have contexts : (s.grantAccess issi found result).contexts =
      s.contexts.insert issi (s.grantedContext found result) :=
    congrArg (·.contexts) (s.grantAccess_spec issi found respond).1
  unfold place station
  rw [contexts, lookup_insert_eq, if_pos rfl, grantedContext_eq s respond]
  cases s.bearers.lookup result.bearerId <;> rfl

theorem grantAccess_accepts (s : Sndcp) (issi : Nat) (found : RadioContext)
    (result : AccessResult) : (s.grantAccess issi found result).accepts = s.accepts := by
  unfold grantAccess
  dsimp only
  split
  · split
    · split <;> rfl
    · rfl
  · rfl

include rules in
theorem Rules.finishRecovery (context : RadioContext) (pending : PendingMsDeactivation)
    (free : (result.accepted && s.accepts) = false → s.place issi = none) (before : holds s) :
    holds (s.finishRecovery issi context result pending) := by
  unfold Sndcp.finishRecovery
  dsimp only
  split
  · have asked : Calm counts s (({ s.nextCommand with
        pendingMsDeactivations := s.pendingMsDeactivations.insert s.nextCommandId pending } :
          Sndcp).submit (.deactivate s.nextCommandId issi result.sessionId result.sessionGeneration
            false)) := .of_core rfl rfl
    split
    · exact rules.calm asked before
    next refused =>
      have refused : s.accepts = false := Bool.eq_false_iff.mpr refused
      have dropped : Calm counts s
          { ({ s.nextCommand with
                pendingMsDeactivations := s.pendingMsDeactivations.insert s.nextCommandId pending } :
              Sndcp).submit (.deactivate s.nextCommandId issi result.sessionId
                result.sessionGeneration false) with
            pendingMsDeactivations := (s.pendingMsDeactivations.insert s.nextCommandId
              pending).erase s.nextCommandId } := .of_core rfl rfl
      have answered := dropped.trans (.queueDownlink _ context (.deactivateAccept
        pending.deactivationType pending.nsapi pending.snei) .acknowledged none none)
      refine rules.forget issi ((answered.place issi).trans (free ?_)) (rules.calm answered before)
      rw [refused, Bool.and_false]
  next rejected =>
    have answered : Calm counts s (s.queueDownlink context (.deactivateAccept
        pending.deactivationType pending.nsapi pending.snei) .acknowledged none none) :=
      .queueDownlink _ _ _ _ _ _
    refine rules.forget issi ((answered.place issi).trans (free ?_)) (rules.calm answered before)
    rw [Bool.eq_false_iff.mpr rejected, Bool.false_and]

theorem answerAccess_calm (s : Sndcp) (context : RadioContext) (unchanged : Bool)
    (result : AccessResult) : Calm counts s (s.answerAccess context unchanged result) := by
  unfold answerAccess
  dsimp only
  split
  · exact .queueDownlink _ _ _ _ _ _
  · split
    · exact .queueDownlink _ _ _ _ _ _
    · exact .refl s
  · exact .refl s

include rules in
theorem Rules.concludeAccess (context : RadioContext)
    (free : result.accepted = false → recovering found = true → s.place issi = none)
    (before : holds s) : holds (s.concludeAccess issi found context result) := by
  unfold Sndcp.concludeAccess
  split
  next removed =>
    simp only [Bool.and_eq_true, Bool.not_eq_true'] at removed
    obtain ⟨rejected, made⟩ := removed
    simp only [rejected]
    have calm (context : RadioContext) (unchanged : Bool) :
        Calm counts s (s.answerAccess context unchanged result) :=
      answerAccess_calm s context unchanged result
    refine rules.forget issi ?_ (rules.calm (calm _ _) before)
    exact ((calm _ _).place issi).trans (free rejected made)
  · refine rules.calm (answerAccess_calm _ _ _ _) ?_
    split
    · exact rules.quit issi before
    · exact before

include rules in
theorem Rules.decideAccess {recovery : Option PendingMsDeactivation}
    (decided : holds (if result.accepted then s.grantAccess issi found result else s))
    (finish : recovery.isSome = true → (result.accepted && s.accepts) = false →
      (if result.accepted then s.grantAccess issi found result else s).place issi = none)
    (conclude : result.accepted = false → recovering found = true → s.place issi = none) :
    holds (s.decideAccess issi found recovery result) := by
  unfold Sndcp.decideAccess
  dsimp only
  split
  next pending =>
    refine rules.finishRecovery _ pending (fun refused => finish rfl ?_) decided
    split at refused
    · rwa [grantAccess_accepts] at refused
    · exact refused
  · refine rules.concludeAccess _ (fun rejected made => ?_) decided
    rw [if_neg (Bool.not_eq_true _ ▸ rejected)]
    exact conclude rejected made

theorem answered_eq_some
    (pending : s.pendingCommands.lookup result.commandId = some (issiOf result.itsi))
    (present : s.contexts.lookup (issiOf result.itsi) = some found)
    (session : (recovering found || found.sessionGeneration = some result.sessionGeneration) = true) :
    s.answered result = some found := by
  unfold answered
  rw [if_pos pending, present]
  exact if_pos session

theorem joined_of_unanswered (unanswered : s.answered result = none) :
    s.joined (.swmi (.accessResult result)) = s := by
  have nobody : s.joins (.swmi (.accessResult result)) = none := by
    unfold joins
    simp only [unanswered, map_none, ite_self]
  unfold joined
  rw [nobody]

include rules

/-- The access of a context is decided: its command is answered, and the terminal is placed. -/
theorem Rules.accessDecided (careful : s.forgetsNobody (.swmi (.accessResult result)) = true)
    (grants : ∀ join ∈ s.joins (.swmi (.accessResult result)), grantable s join.1 join.2.1 join.2.2)
    (may : droppable (s.joined (.swmi (.accessResult result)))
      fun other _ => decide (other ≠ result.commandId)) (answered : s.answered result = some found)
    (present : s.contexts.lookup (issiOf result.itsi) = some found) (before : holds s) :
    holds (((s.takeCommand result.commandId).takeRecovery result.commandId).decideAccess
      (issiOf result.itsi) found (s.pendingRecoveryDeactivations.lookup result.commandId)
      result) := by
  have attended := rules.attended before (issiOf result.itsi)
  unfold forgetsNobody at careful
  rw [Bool.and_eq_true] at careful
  obtain ⟨unforgotten, unplaced⟩ := careful
  have forgotten (recovers : (s.pendingRecoveryDeactivations.lookup result.commandId).isSome = true)
      (refused : (result.accepted && s.accepts) = false) :
      s.forgets (.swmi (.accessResult result)) = some (issiOf result.itsi) := by
    unfold forgets
    simp only [answered, isSome_some, Bool.true_and, refused, recovers, Bool.not_false,
      if_true]
  have free (recovers : (s.pendingRecoveryDeactivations.lookup result.commandId).isSome = true)
      (refused : (result.accepted && s.accepts) = false) : s.place (issiOf result.itsi) = none := by
    rw [forgotten recovers refused] at unforgotten
    exact of_decide_eq_true unforgotten
  by_cases respond : result.accepted = true ∧ result.response ≠ .none
  · obtain ⟨accepted, respond⟩ := respond
    have placed : s.joins (.swmi (.accessResult result)) =
        some (issiOf result.itsi, found, result) := by
      unfold joins
      simp only [accepted, respond, answered, ne_eq, not_false_eq_true, decide_true, Bool.and_self,
        if_true, map_some]
    unfold joined at may
    rw [placed] at may unplaced grants
    have granted := rules.grant _ found result present respond (grants _ rfl) before
    have settled := rules.takeAnswer result.commandId may granted
    rw [← grantAccess_takeCommand] at settled
    refine rules.decideAccess (by rwa [if_pos accepted]) (fun recovers refused => ?_)
      fun rejected => absurd accepted (Bool.eq_false_iff.mp rejected)
    rw [if_pos accepted, place_grantAccess _ _ _ respond]
    rw [forgotten recovers refused] at unplaced
    simp only [all_some, isNone_some, Bool.false_or, isNone_iff_eq_none] at unplaced
    show (s.bearers.lookup result.bearerId).map _ = none
    rw [unplaced]
    rfl
  · have unplaced : s.joins (.swmi (.accessResult result)) = none := by
      refine if_neg fun both => respond ?_
      simpa only [Bool.and_eq_true, decide_eq_true_eq] using both
    unfold joined at may
    rw [unplaced] at may
    have settled := rules.takeAnswer result.commandId may before
    by_cases accepted : result.accepted = true
    · have silent : result.response = .none := by
        by_contra responds
        exact respond ⟨accepted, responds⟩
      have quiet : Calm counts ((s.takeCommand result.commandId).takeRecovery result.commandId)
          (((s.takeCommand result.commandId).takeRecovery result.commandId).grantAccess
            (issiOf result.itsi) found result) := grantAccess_calm present silent
      refine rules.decideAccess ?_ (fun recovers refused => ?_)
        fun rejected => absurd accepted (Bool.eq_false_iff.mp rejected)
      · rw [if_pos accepted]
        exact rules.calm quiet settled
      · rw [if_pos accepted]
        exact (quiet.place _).trans (free recovers refused)
    · refine rules.decideAccess ?_ (fun recovers refused => ?_) fun _ made => ?_
      · rwa [if_neg accepted]
      · rw [if_neg accepted]
        exact free recovers refused
      · refine place_of_sessionless (s := s) attended fun context lookup => ?_
        rw [present] at lookup
        rw [← some.inj lookup]
        unfold recovering at made
        simp only [Bool.and_eq_true, isNone_iff_eq_none] at made
        unfold RadioContext.session
        rw [made.1]

theorem Rules.accessResult (result : AccessResult)
    (careful : s.forgetsNobody (.swmi (.accessResult result)) = true)
    (grants : ∀ join ∈ s.joins (.swmi (.accessResult result)), grantable s join.1 join.2.1 join.2.2)
    (may : droppable (s.joined (.swmi (.accessResult result)))
      fun other _ => decide (other ≠ result.commandId)) (before : holds s) :
    holds (s.accessResult result) := by
  have unanswered (none : s.answered result = .none) :
      holds ((s.takeCommand result.commandId).takeRecovery result.commandId) := by
    rw [joined_of_unanswered none] at may
    exact rules.takeAnswer result.commandId may before
  unfold Sndcp.accessResult
  dsimp only
  split
  next pending =>
    rw [joined_of_unanswered (if_neg pending)] at may
    exact rules.takeCommand result.commandId may before
  next pending =>
    have pending := not_not.mp pending
    split
    next missing =>
      have missing : s.contexts.lookup (issiOf result.itsi) = .none := missing
      refine unanswered ?_
      unfold answered
      rw [missing, filter_none, ite_self]
    next found present =>
      have present : s.contexts.lookup (issiOf result.itsi) = some found := present
      split
      next stale =>
        refine unanswered ?_
        unfold answered
        rw [if_pos pending, present]
        refine if_neg fun session => ?_
        simp only [Bool.and_eq_true, Bool.not_eq_true', decide_eq_true_eq, Bool.or_eq_true] at *
        rcases session with made | same
        · rw [stale.1] at made
          cases made
        · exact stale.2 same
      next current =>
        refine rules.accessDecided careful grants may (answered_eq_some pending present ?_) present
          before
        simp only [Bool.and_eq_true, Bool.not_eq_true', not_and] at current
        cases made : recovering found with
        | true => rfl
        | false => simpa using current made

/-- **What the network sends**, if nobody on a bearer is forgotten. -/
theorem Rules.handleSwmi {message : PacketDataMessage}
    (careful : s.forgetsNobody (.swmi message) = true)
    (grants : ∀ join ∈ s.joins (.swmi message), grantable s join.1 join.2.1 join.2.2)
    (may : ∀ keep ∈ s.drops (.swmi message), droppable (s.joined (.swmi message)) keep)
    (opens : ∀ bearer ∈ reservation (.swmi message), openable s bearer.1 bearer.2) (before : holds s)
    : holds (s.handleSwmi message) := by
  have unforgotten : ∀ issi ∈ s.forgets (.swmi message), s.place issi = none := by
    unfold forgetsNobody at careful
    rw [Bool.and_eq_true] at careful
    exact fun issi forgotten =>
      of_decide_eq_true ((all_eq_true _ _).mp careful.1 issi forgotten)
  unfold Sndcp.handleSwmi
  split
  next result =>
    exact rules.activateResult result unforgotten (may _ rfl) before
  next commandId itsi _ _ _ =>
    exact rules.deactivateResult commandId itsi (fun found => unforgotten _ (if_pos found)) before
  next result =>
    exact rules.accessResult result careful grants (may _ rfl) before
  next itsi sessionId sessionGeneration nsapi snei =>
    exact rules.page itsi sessionId sessionGeneration nsapi snei
      (fun other => unforgotten _ (if_neg (Bool.eq_false_iff.mp other))) before
  · exact rules.calm (ipv4_calm ..) before
  · exact rules.calm (endOfData_calm ..) before
  · exact rules.calm (deactivate_calm ..) before
  · exact rules.contextRelease _ _ _ may before
  · exact rules.bearerControl _ _ _ _ _ _ opens before
  all_goals exact before

omit rules

/-! ### The passes of a tick -/

theorem foldl_preserves {Item : Type} {act : Sndcp → Item → Sndcp} (items : List Item)
    (preserves : ∀ s item, holds s → holds (act s item)) (before : holds s) :
    holds (items.foldl act s) :=
  foldlRecOn items act before fun s held item _ => preserves s item held

include rules in
theorem Rules.processDeliveryReports (before : holds s) : holds s.processDeliveryReports := by
  refine foldl_preserves _ (fun s pending before => rules.calm (.submit _ _) before) ?_
  refine rules.calm (s := s) ?_ before
  exact .of_core rfl rfl

theorem pollStandby_calm (s : Sndcp) (pending : PendingStandby) :
    Calm counts s (s.pollStandby pending).1 := by
  unfold pollStandby
  dsimp only
  split
  · exact .queueEndsOfData _ _ _
  · exact .refl s

theorem pollStandbys_calm (s : Sndcp) (pending : List PendingStandby) :
    Calm counts s (s.pollStandbys pending).1 := by
  induction pending generalizing s with
  | nil => exact .refl s
  | cons first rest ih =>
    unfold pollStandbys
    dsimp only
    split <;> exact (pollStandby_calm s first).trans (ih _)

include rules in
theorem Rules.processStandbyReports (before : holds s) : holds s.processStandbyReports := by
  have polled := rules.calm (pollStandbys_calm s s.pendingStandby) before
  refine foldl_preserves _ (fun s pending before => ?_) ?_
  · unfold finishStandby
    split
    · exact rules.quit _ before
    · exact before
  · refine rules.calm ?_ polled
    exact .of_core rfl rfl

include rules in
theorem Rules.processBearerResizes (before : holds s) : holds s.processBearerResizes := by
  have polled := rules.poll before
  refine foldl_preserves _ (fun s verdict before => ?_) polled
  obtain ⟨id, generation, commit⟩ := verdict
  cases commit with
  | true => exact rules.commit id generation before
  | false => exact rules.rollback id generation before

theorem expandBearer_frame (s : Sndcp) (candidate : Nat × Nat × SlotBitmap × SlotBitmap) :
    (s.expandBearer candidate).clock = s.clock ∧ ∀ other, other ≠ candidate.1 →
      (s.expandBearer candidate).bearers.lookup other = s.bearers.lookup other := by
  obtain ⟨id, generation, current, missing⟩ := candidate
  unfold expandBearer
  dsimp only
  split
  · refine ⟨clock_startBearerResize _ _ _ _ _, fun other different => ?_⟩
    rcases startBearerResize_cases (s.reserveSlots missing) id generation
        (current ||| s.obtainable missing) (s.obtainable missing) with
      ⟨idle, -⟩ | ⟨bearer, -, -, -, -, -, core, -⟩
    · rw [idle]
      rfl
    · refine (congrArg (AList.lookup other) (congrArg (·.bearers) core)).trans ?_
      exact AList.lookup_insert_ne different
  · exact ⟨rfl, fun _ _ => rfl⟩

include rules

/-- The candidates for growing stay candidates until it is their turn. -/
theorem Rules.expandBearers (entries : List ((_ : Nat) × Bearer)) (distinct : entries.NodupKeys)
    (present : ∀ entry ∈ entries, s.bearers.lookup entry.1 = some entry.2) (start : Sndcp)
    (clock : s.clock = start.clock) (before : holds s) :
    holds ((entries.filterMap fun entry => start.expansionCandidate entry.1 entry.2).foldl
      Sndcp.expandBearer s) := by
  induction entries generalizing s with
  | nil => exact before
  | cons entry rest ih =>
    obtain ⟨unlisted, distinct⟩ := nodupKeys_cons.mp distinct
    have later := fun other member => present other (mem_cons_of_mem entry member)
    rw [filterMap_cons]
    split
    · exact ih distinct later clock before
    next candidate found =>
      have same : s.dltime = start.dltime := congrArg (·.1) clock
      have still : s.expansionCandidate entry.1 entry.2 = some candidate := by
        rw [← found]
        unfold expansionCandidate
        rw [same]
      have own : candidate.1 = entry.1 := by
        unfold expansionCandidate at found
        dsimp only at found
        split at found
        · exact (congrArg (·.1) (some.inj found)).symm
        · cases found
      obtain ⟨time, frame⟩ := s.expandBearer_frame candidate
      refine ih distinct (fun other member => ?_) (time.trans clock)
        (rules.expand (present entry mem_cons_self) still before)
      rw [frame other.1 fun equal => unlisted ?_]
      · exact later other member
      · rw [← own, ← equal]
        exact mem_keys_of_mem member

theorem Rules.processBearerExpansions (before : holds s) : holds s.processBearerExpansions :=
  rules.expandBearers s.bearers.entries s.bearers.nodupKeys
    (fun _ member => mem_entries.mp member) s rfl before

theorem Rules.processDrains (before : holds s) : holds s.processDrains :=
  foldl_preserves _ (fun _ due before => rules.release due.1 due.2.1 due.2.2 before) before

theorem Rules.processPreemption (before : holds s) : holds s.processPreemption := by
  have taken : holds (s.setSlots s.timeslotAlloc.takePacketPreemptionRequest.2) :=
    rules.allot (fun _ _ => Iff.rfl) before
  unfold Sndcp.processPreemption
  dsimp only
  split
  · exact taken
  · split
    · exact taken
    next bearer found =>
      split
      · exact taken
      · obtain ⟨id, present⟩ := mem_values.mp (mem_of_find?_eq_some found)
        split
        next released last =>
          split
          next several =>
            exact rules.shrink released present last several taken
          · exact rules.beginDrain _ _ _ _ taken
        · exact rules.beginDrain _ _ _ _ taken

omit rules

/-! ### Every event -/

/-- The other owners neither take nor give slots of packet data. -/
theorem isForeign_run {call : AllocatorCall} (foreign : call.isForeign = true)
    (alloc : TimeslotAllocator) (ts : Nat) :
    (call.run alloc).owners ts = some .packetData ↔ alloc.owners ts = some .packetData := by
  have given {owner : TimeslotOwner} {slot : Nat} (other : owner ≠ .packetData)
      (free : alloc.owners slot = none) :
      (alloc.give (some owner) slot).owners ts = some .packetData ↔
        alloc.owners ts = some .packetData := by
    rw [give_owners]
    split
    next here =>
      rw [here, free]
      exact iff_of_false (fun same => other (some.inj same)) nofun
    · exact Iff.rfl
  cases call with
  | allocateAny owner =>
    have other := of_decide_eq_true foreign
    show (alloc.allocateAny owner).2.owners ts = _ ↔ _
    unfold allocateAny
    split
    next slot found =>
      have free := find?_some found
      simp only [Bool.and_eq_true, isNone_iff_eq_none] at free
      exact given other free.1
    · split <;> exact Iff.rfl
  | reserve owner slot =>
    show ((alloc.reserve owner slot).toOption.getD alloc).owners ts = _ ↔ _
    rcases alloc.reserve_cases owner slot with ⟨error, refused⟩ | ⟨-, free, taken⟩
    · rw [refused]
      exact Iff.rfl
    · rw [taken]
      exact given (of_decide_eq_true foreign) free
  | release owner slot =>
    have other := of_decide_eq_true foreign
    show ((alloc.release owner slot).toOption.getD alloc).owners ts = _ ↔ _
    unfold release
    split
    · split
      · exact Iff.rfl
      next existing held =>
        split
        · exact Iff.rfl
        next same =>
          show (alloc.give none slot).owners ts = _ ↔ _
          rw [give_owners]
          split
          next here =>
            rw [here, held, not_not.mp same]
            exact iff_of_false nofun fun same => other (some.inj same)
          · exact Iff.rfl
    · exact Iff.rfl
  | setCommonControlTarget count => exact Iff.rfl
  | requestPacketPreemption =>
    show (alloc.requestPacketPreemption).owners ts = _ ↔ _
    unfold requestPacketPreemption
    split <;> exact Iff.rfl

theorem rehash_calm (s : Sndcp) (contexts bearers : List Nat) : Calm counts s
      { s with
        contexts := s.contexts.rearrange contexts
        bearers := s.bearers.rearrange bearers } := by
  refine ⟨fun issi => ?_, fun issi => ?_, fun id => lookup_rearrange _ _ _, fun _ => rfl,
    fun _ _ => id, rfl⟩
  · unfold station
    rw [lookup_rearrange]
  · unfold lost
    rw [lookup_rearrange]
    exact id

include rules in
/-- **What the operations preserve, an event preserves that forgets nobody**, if it places its
terminal as it may and drops only commands that may be dropped. -/
theorem Rules.handle {event : SndcpEvent} (possible : s.canTake event = true)
    (fresh : counts = true → s.pendingCommands.lookup s.nextCommandId = none)
    (careful : s.forgetsNobody event = true)
    (grants : ∀ join ∈ s.joins event, grantable s join.1 join.2.1 join.2.2)
    (may : ∀ keep ∈ s.drops event, droppable (s.joined event) keep)
    (opens : ∀ bearer ∈ reservation event, openable s bearer.1 bearer.2) (before : holds s) :
    holds (s.handle event) := by
  cases event with
  | uplink endpointId linkId address pdu =>
    refine rules.handleUplink fresh (fun issi forgotten => ?_) before
    unfold forgetsNobody at careful
    rw [Bool.and_eq_true] at careful
    exact of_decide_eq_true ((all_eq_true _ _).mp careful.1 issi forgotten)
  | swmi message => exact rules.handleSwmi careful grants may opens before
  | preemption => exact rules.processPreemption before
  | deliveryReports => exact rules.processDeliveryReports before
  | standbyReports => exact rules.processStandbyReports before
  | bearerResizes => exact rules.processBearerResizes before
  | drains => exact rules.processDrains before
  | bearerExpansions => exact rules.processBearerExpansions before
  | tick ts =>
    refine rules.calm (s := s) ?_ before
    exact .of_core rfl rfl
  | receipt index state =>
    refine rules.calm (s := s) ?_ before
    exact .of_core rfl rfl
  | worker online room =>
    refine rules.calm (s := s) ?_ before
    exact .of_core rfl rfl
  | configure config =>
    refine rules.calm (s := s) ?_ before
    exact .of_core rfl rfl
  | allocator call => exact rules.allot (fun ts _ => isForeign_run possible _ ts) before
  | rehash contexts bearers => exact rules.calm (rehash_calm s contexts bearers) before
  | rehashMembers bearer order => exact rules.rehashMembers bearer order before

end Sndcp

end Bluestation
