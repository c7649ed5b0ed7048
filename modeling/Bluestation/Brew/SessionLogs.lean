/-
**What the bridge says in its sessions.**

* `BrewMessage.dialogue`, `BrewCommand.dialogue` — how messages belong to downlink sessions, and
  commands to uplink sessions.
* `BrewEntity.Announced` — downlink sessions, the messages about them and their ends belong together.
-/

import Bluestation.Brew.Sessions
import Bluestation.Lib.Dialogue

namespace Bluestation

open Machines List Option Nat Table BrewMessage BrewCommand

namespace BrewMessage

def session : BrewMessage → Nat
  | networkCallStart _ _ _ _ session => session
  | networkCallEnd _ session => session
  | tmdCircuitDataReq _ _ session => session

def kind : BrewMessage → DialogueKind
  | networkCallStart _ _ _ _ _ => .opens
  | networkCallEnd _ _ => .closes
  | tmdCircuitDataReq _ _ _ => .continues

/-- The uuid that a message names is that of its session. -/
def Fits (sessions : List DownlinkSession) : BrewMessage → Prop
  | networkCallStart uuid _ _ _ session => (sessions[session]?).map (·.uuid) = some uuid
  | networkCallEnd uuid session => (sessions[session]?).map (·.uuid) = some uuid
  | tmdCircuitDataReq _ _ session => session < sessions.length

def dialogue : Dialogue BrewMessage Nat := ⟨session, kind⟩

theorem Fits.mono {before after : List DownlinkSession} (grows : before <+: after)
    {message : BrewMessage} (fits : message.Fits before) : message.Fits after := by
  obtain ⟨more, rfl⟩ := grows
  cases message with
  | networkCallStart uuid sourceIssi destGssi priority session =>
    obtain ⟨opened, noted, same⟩ := map_eq_some_iff.mp fits
    refine map_eq_some_iff.mpr ⟨opened, ?_, same⟩
    rw [List.getElem?_append_left (List.getElem?_eq_some_iff.mp noted).1, noted]
  | networkCallEnd uuid session =>
    obtain ⟨opened, noted, same⟩ := map_eq_some_iff.mp fits
    refine map_eq_some_iff.mpr ⟨opened, ?_, same⟩
    rw [List.getElem?_append_left (List.getElem?_eq_some_iff.mp noted).1, noted]
  | tmdCircuitDataReq ts data session =>
    exact fits.trans_le (prefix_append _ _).length_le

end BrewMessage

namespace BrewCommand

def uuid : BrewCommand → Uuid
  | sendGroupTx uuid _ _ _ _ => uuid
  | sendVoiceFrame uuid _ _ => uuid
  | sendGroupIdle uuid _ => uuid

def kind : BrewCommand → DialogueKind
  | sendGroupTx _ _ _ _ _ => .opens
  | sendVoiceFrame _ _ _ => .continues
  | sendGroupIdle _ _ => .closes

def dialogue : Dialogue BrewCommand Uuid := ⟨uuid, kind⟩

end BrewCommand

namespace BrewEntity

variable {s next : BrewEntity} {setting : BrewSetting}

/-! ### Downlink sessions -/

/-- The session was ended by call control, or by a later session of its group. -/
def Excused (s : BrewEntity) (session : Nat) : Prop := ∃ why, (session, why) ∈ s.excused

/-- **The downlink sessions, the messages about them, and how they ended.** -/
structure Announced (s : BrewEntity) : Prop where
  named : ∀ uuid call, s.activeCalls.lookup uuid = some call →
    s.sessions[call.session]? = some ⟨uuid, call.destGssi⟩
  perGroup : ∀ uuid other call another, s.activeCalls.lookup uuid = some call →
    s.activeCalls.lookup other = some another → call.destGssi = another.destGssi → uuid = other
  buffered : ∀ uuid, (s.dlJitter.lookup uuid).isSome → (s.activeCalls.lookup uuid).isSome
  fits : ∀ message ∈ s.queue, message.Fits s.sessions
  future : ∀ session, s.sessions.length ≤ session →
    BrewMessage.dialogue.phase s.queue session = some .unborn ∧ ¬ s.Excused session
  active : ∀ uuid call, s.activeCalls.lookup uuid = some call →
    BrewMessage.dialogue.phase s.queue call.session = some .running ∧ ¬ s.Excused call.session
  past : ∀ session < s.sessions.length,
    (∀ uuid call, s.activeCalls.lookup uuid = some call → call.session ≠ session) →
    (BrewMessage.dialogue.phase s.queue session = some .running ∧ s.Excused session) ∨
      (BrewMessage.dialogue.phase s.queue session = some .ended ∧ ¬ s.Excused session)

variable {uuid : Uuid} {call : ActiveCall} {ts : Nat} {fwd : UlForwardedCall}

section

variable (announced : s.Announced)

include announced

/-- Two sessions with the same number are one. -/
theorem Announced.alone {other : Uuid} {another : ActiveCall}
    (found : s.activeCalls.lookup uuid = some call) (also : s.activeCalls.lookup other = some another)
    (same : call.session = another.session) : uuid = other := by
  have first := announced.named uuid call found
  rw [same, announced.named other another also] at first
  exact (congrArg DownlinkSession.uuid (some.inj first)).symm

/-- A change that leaves the sessions, their groups and what was said about them. -/
theorem Announced.congr (sessions : next.sessions = s.sessions) (excused : next.excused = s.excused)
    (calls : ∀ uuid call, next.activeCalls.lookup uuid = some call → ∃ old,
      s.activeCalls.lookup uuid = some old ∧ old.session = call.session ∧
        old.destGssi = call.destGssi)
    (kept : ∀ uuid, (s.activeCalls.lookup uuid).isSome → (next.activeCalls.lookup uuid).isSome)
    (buffered : ∀ uuid, (next.dlJitter.lookup uuid).isSome → (next.activeCalls.lookup uuid).isSome)
    (fits : ∀ message ∈ next.queue, message ∈ s.queue ∨ message.Fits s.sessions)
    (phases : ∀ session, dialogue.phase next.queue session =
      dialogue.phase s.queue session) : next.Announced where
  named uuid call found := by
    obtain ⟨old, before, session, destGssi⟩ := calls uuid call found
    rw [sessions, ← session, ← destGssi]
    exact announced.named uuid old before
  perGroup uuid other call another found also same := by
    obtain ⟨old, before, _, destGssi⟩ := calls uuid call found
    obtain ⟨older, earlier, _, group⟩ := calls other another also
    exact announced.perGroup uuid other old older before earlier
      (destGssi.trans (same.trans group.symm))
  buffered := buffered
  fits message member := by
    rw [sessions]
    exact (fits message member).elim (announced.fits message) id
  future session later := by
    rw [sessions] at later
    rw [phases, Excused, excused]
    exact announced.future session later
  active uuid call found := by
    obtain ⟨old, before, session, _⟩ := calls uuid call found
    rw [phases, Excused, excused, ← session]
    exact announced.active uuid old before
  past session earlier none := by
    rw [sessions] at earlier
    rw [phases, Excused, excused]
    refine announced.past session earlier fun uuid old before => ?_
    obtain ⟨call, found⟩ := isSome_iff_exists.mp (kept uuid (isSome_iff_exists.mpr ⟨old, before⟩))
    obtain ⟨same, still, number, _⟩ := calls uuid call found
    cases still.symm.trans before
    exact number ▸ none uuid call found

theorem Announced.beside (sessions : next.sessions = s.sessions) (excused : next.excused = s.excused)
    (calls : next.activeCalls = s.activeCalls) (jitter : next.dlJitter = s.dlJitter)
    (queue : next.queue = s.queue) : next.Announced := by
  refine announced.congr sessions excused (fun uuid call found => ⟨call, calls ▸ found, rfl, rfl⟩)
    (fun uuid active => calls ▸ active) (fun uuid frames => ?_) (fun message member => .inl ?_)
    (fun _ => congrArg (BrewMessage.dialogue.phase · _) queue)
  · rw [calls]
    exact announced.buffered uuid (jitter ▸ frames)
  · exact queue ▸ member

/-- A message in a session that goes on. -/
theorem Announced.say (found : s.activeCalls.lookup uuid = some call) {message : BrewMessage}
    (names : message.session = call.session) (goesOn : message.kind ≠ .closes)
    (fits : message.Fits s.sessions) : (s.push message).Announced := by
  refine announced.congr rfl rfl (fun uuid call found => ⟨call, found, rfl, rfl⟩)
    (fun _ active => active) announced.buffered (fun other member => ?_)
    (fun session => Dialogue.phase_say goesOn ?_)
  · refine (mem_append.mp member).imp_right fun new => ?_
    rwa [mem_singleton.mp new]
  · rw [show dialogue.session message = call.session from names]
    exact (announced.active uuid call found).1

end

theorem lookup_update (s : BrewEntity) (uuid : Uuid) (call : ActiveCall) (other : Uuid) :
    (s.update uuid call).activeCalls.lookup other =
      if other = uuid then some call else s.activeCalls.lookup other :=
  lookup_insert_eq ..

theorem lookup_update_self (s : BrewEntity) (uuid : Uuid) (call : ActiveCall) :
    (s.update uuid call).activeCalls.lookup uuid = some call :=
  (lookup_update ..).trans (if_pos rfl)

/-- A session is changed, but neither its number nor its group. -/
theorem Announced.update (announced : s.Announced) (found : s.activeCalls.lookup uuid = some call)
    {changed : ActiveCall} (session : changed.session = call.session)
    (destGssi : changed.destGssi = call.destGssi) : (s.update uuid changed).Announced := by
  have lookup := lookup_update s uuid changed
  have kept : ∀ other, (s.activeCalls.lookup other).isSome →
      ((s.update uuid changed).activeCalls.lookup other).isSome := by
    intro other active
    rw [lookup]
    split
    · rfl
    · exact active
  refine announced.congr rfl rfl (fun other another active => ?_) kept
    (fun other frames => kept other (announced.buffered other frames)) (fun _ member => .inl member)
    fun _ => rfl
  rw [lookup] at active
  split at active
  · cases active
    exact ⟨call, ‹other = uuid› ▸ found, session.symm, destGssi.symm⟩
  · exact ⟨another, active, rfl, rfl⟩

/-- The playout buffer of a session is changed. -/
theorem Announced.buffer (announced : s.Announced) (active : (s.activeCalls.lookup uuid).isSome)
    (jitter : VoiceJitterBuffer) :
    ({ s with dlJitter := s.dlJitter.insert uuid jitter } : BrewEntity).Announced := by
  refine announced.congr rfl rfl (fun uuid call found => ⟨call, found, rfl, rfl⟩)
    (fun _ active => active) (fun other frames => ?_) (fun _ member => .inl member) fun _ => rfl
  rw [lookup_insert_eq] at frames
  split at frames
  · exact ‹other = uuid› ▸ active
  · exact announced.buffered other frames

/-! ### Sessions that end -/

theorem lookup_forget (s : BrewEntity) (uuid other : Uuid) :
    (s.forget uuid).activeCalls.lookup other =
      if other = uuid then none else s.activeCalls.lookup other :=
  lookup_erase_eq ..

/-- A session is over: for some other reason than its end, or with a message to call control. -/
theorem Announced.close (announced : s.Announced) (found : s.activeCalls.lookup uuid = some call)
    (sessions : next.sessions = s.sessions) (calls : ∀ other, next.activeCalls.lookup other =
      if other = uuid then none else s.activeCalls.lookup other)
    (jitter : ∀ other, next.dlJitter.lookup other =
      if other = uuid then none else s.dlJitter.lookup other)
    (fits : ∀ message ∈ next.queue, message ∈ s.queue ∨ message.Fits s.sessions)
    (others : ∀ session, session ≠ call.session →
      dialogue.phase next.queue session = dialogue.phase s.queue session ∧
        (next.Excused session ↔ s.Excused session))
    (ended : (dialogue.phase next.queue call.session = some .running ∧
        next.Excused call.session) ∨
      (dialogue.phase next.queue call.session = some .ended ∧
        ¬ next.Excused call.session)) : next.Announced := by
  have still : ∀ {other another}, next.activeCalls.lookup other = some another →
      other ≠ uuid ∧ s.activeCalls.lookup other = some another := by
    intro other another active
    rw [calls] at active
    exact Option.ite_none_left_eq_some.mp active
  have number := (List.getElem?_eq_some_iff.mp (announced.named uuid call found)).1
  refine ⟨fun other another active => ?_, fun first second call another isFirst isSecond => ?_,
    fun other frames => ?_, fun message member => ?_, fun session later => ?_,
    fun other another active => ?_, fun session earlier none => ?_⟩
  · rw [sessions]
    exact announced.named other another (still active).2
  · exact announced.perGroup first second call another (still isFirst).2 (still isSecond).2
  · rw [jitter] at frames
    rw [calls]
    split
    · rw [if_pos ‹_›] at frames
      exact frames
    · rw [if_neg ‹_›] at frames
      exact announced.buffered other frames
  · rw [sessions]
    exact (fits message member).elim (announced.fits message) id
  · rw [sessions] at later
    obtain ⟨same, excused⟩ := others session fun same => absurd number (not_lt.mpr (same ▸ later))
    rw [same, excused]
    exact announced.future session later
  · obtain ⟨different, before⟩ := still active
    obtain ⟨same, excused⟩ := others another.session
      fun same => different (announced.alone before found same)
    rw [same, excused]
    exact announced.active other another before
  · rw [sessions] at earlier
    by_cases here : session = call.session
    · exact here ▸ ended
    · obtain ⟨same, excused⟩ := others session here
      rw [same, excused]
      refine announced.past session earlier fun other another before => ?_
      by_cases closed : other = uuid
      · obtain rfl := Option.some.inj (found.symm.trans (closed ▸ before))
        exact .symm here
      · exact none other another ((calls other).trans ((if_neg closed).trans before))

theorem Announced.excuse (announced : s.Announced) (found : s.activeCalls.lookup uuid = some call)
    (why : BrewExcuse) : ((s.forget uuid).excuse call.session why).Announced := by
  have excused : ∀ session, ((s.forget uuid).excuse call.session why).Excused session ↔
      s.Excused session ∨ session = call.session := by
    intro session
    constructor
    · rintro ⟨because, member⟩
      rcases mem_append.mp member with old | new
      · exact .inl ⟨because, old⟩
      · exact .inr (congrArg Prod.fst (mem_singleton.mp new))
    · rintro (⟨because, member⟩ | rfl)
      · exact ⟨because, mem_append_left _ member⟩
      · exact ⟨why, mem_append_right _ (mem_singleton_self _)⟩
  refine announced.close found rfl (fun _ => lookup_forget ..) (fun _ => lookup_erase_eq ..)
    (fun _ member => .inl member) (fun session different => ⟨rfl, ?_⟩) (.inl ⟨?_, ?_⟩)
  · rw [excused, or_iff_left different]
  · exact (announced.active uuid call found).1
  · exact (excused _).mpr (.inr rfl)

/-- A session is over, and call control is told. -/
theorem Announced.finish (announced : s.Announced) (found : s.activeCalls.lookup uuid = some call) :
    ((s.forget uuid).push (.networkCallEnd uuid call.session)).Announced := by
  obtain ⟨running, excused⟩ := announced.active uuid call found
  have phases := fun session => @Dialogue.phase_close _ _ _ BrewMessage.dialogue s.queue session
    (.networkCallEnd uuid call.session) rfl running
  refine announced.close found rfl (fun _ => lookup_forget ..) (fun _ => lookup_erase_eq ..)
    (fun message member => ?_) (fun session different => ⟨?_, Iff.rfl⟩) (.inr ⟨?_, excused⟩)
  · refine (mem_append.mp member).imp_right fun new => ?_
    rw [mem_singleton.mp new]
    exact congrArg (Option.map _) (announced.named uuid call found)
  · exact (phases session).trans (if_neg different)
  · exact (phases call.session).trans (if_pos rfl)

/-! ### Uplink sessions -/

def floorOf (fwd : UlForwardedCall) : HeldFloor :=
  ⟨fwd.callId, fwd.sourceIssi, fwd.destGssi, some fwd.session⟩

/-- **The uplink sessions, their commands, and the floors.** -/
structure Forwarded (setting : BrewSetting) (s : BrewEntity) : Prop where
  named : ∀ ts fwd, s.ulForwarded.lookup ts = some fwd →
    fwd.session < s.generated ∧ fwd.uuid = setting.newV4 fwd.session
  alone : ∀ ts other fwd another, s.ulForwarded.lookup ts = some fwd →
    s.ulForwarded.lookup other = some another → fwd.session = another.session → ts = other
  floored : ∀ ts fwd, s.ulForwarded.lookup ts = some fwd → s.floors.lookup ts = some (floorOf fwd)
  held : ∀ ts floor session, s.floors.lookup ts = some floor → floor.session = some session →
    ∃ fwd, s.ulForwarded.lookup ts = some fwd ∧ fwd.session = session
  future : ∀ session, s.generated ≤ session →
    BrewCommand.dialogue.phase s.commands (setting.newV4 session) = some .unborn
  active : ∀ ts fwd, s.ulForwarded.lookup ts = some fwd →
    BrewCommand.dialogue.phase s.commands fwd.uuid = some .running
  past : ∀ session < s.generated, (∀ ts fwd, s.ulForwarded.lookup ts = some fwd →
    fwd.session ≠ session) →
      BrewCommand.dialogue.phase s.commands (setting.newV4 session) = some .ended
  fits : ∀ command ∈ s.commands, ∃ session < s.generated, command.uuid = setting.newV4 session

variable (forwarded : s.Forwarded setting)

include forwarded

theorem Forwarded.beside (calls : next.ulForwarded = s.ulForwarded)
    (generated : next.generated = s.generated) (floors : next.floors = s.floors)
    (commands : next.commands = s.commands) : next.Forwarded setting := by
  obtain ⟨_, _, _, _, _, _, _, _, _, _, _, _⟩ := next
  subst calls generated floors commands
  exact ⟨forwarded.named, forwarded.alone, forwarded.floored, forwarded.held, forwarded.future,
    forwarded.active, forwarded.past, forwarded.fits⟩

theorem Forwarded.refloor (free : s.ulForwarded.lookup ts = none) {floors : Table HeldFloor}
    (others : ∀ other, other ≠ ts → floors.lookup other = s.floors.lookup other)
    (here : ∀ floor, floors.lookup ts = some floor → floor.session = none) :
    ({ s with floors } : BrewEntity).Forwarded setting := by
  refine { forwarded with floored := fun other fwd found => ?_, held := ?_ }
  · refine (others other ?_).trans (forwarded.floored other fwd found)
    rintro rfl
    exact nomatch free.symm.trans found
  · intro other floor session found names
    by_cases same : other = ts
    · subst same
      exact nomatch (here floor found).symm.trans names
    · exact forwarded.held other floor session ((others other same).symm.trans found) names

/-- A session goes on, with another speaker, or with a frame. -/
theorem Forwarded.goOn (found : s.ulForwarded.lookup ts = some fwd) (changed : UlForwardedCall)
    (uuid : changed.uuid = fwd.uuid) (session : changed.session = fwd.session)
    (calls : ∀ other, next.ulForwarded.lookup other =
      if other = ts then some changed else s.ulForwarded.lookup other)
    (floors : ∀ other, next.floors.lookup other =
      if other = ts then some (floorOf changed) else s.floors.lookup other)
    (generated : next.generated = s.generated)
    (commands : ∀ command ∈ next.commands, command ∈ s.commands ∨ command.uuid = fwd.uuid)
    (phases : ∀ uuid, dialogue.phase next.commands uuid =
      dialogue.phase s.commands uuid) : next.Forwarded setting := by
  have before : ∀ {other another}, next.ulForwarded.lookup other = some another →
      ∃ old, s.ulForwarded.lookup other = some old ∧ another.uuid = old.uuid ∧
        another.session = old.session := by
    intro other another active
    rw [calls] at active
    split at active
    · cases active
      exact ⟨fwd, ‹other = ts› ▸ found, uuid, session⟩
    · exact ⟨another, active, rfl, rfl⟩
  refine ⟨fun other another active => ?_, fun other third another fourth isFirst isSecond same => ?_,
    fun other another active => ?_, fun other floor number holds names => ?_, fun number later => ?_,
    fun other another active => ?_, fun number earlier none => ?_, fun command member => ?_⟩
  · obtain ⟨old, earlier, sameUuid, sameSession⟩ := before active
    rw [sameUuid, sameSession, generated]
    exact forwarded.named other old earlier
  · obtain ⟨old, earlier, _, first⟩ := before isFirst
    obtain ⟨older, also, _, second⟩ := before isSecond
    exact forwarded.alone other third old older earlier also (first.symm.trans (same.trans second))
  · rw [calls] at active
    rw [floors]
    split at active
    · cases active
      rw [if_pos ‹_›]
    · rw [if_neg ‹_›]
      exact forwarded.floored other another active
  · rw [floors] at holds
    rw [calls]
    split at holds
    · cases holds
      cases names
      exact ⟨changed, if_pos ‹_›, rfl⟩
    · rw [if_neg ‹_›]
      exact forwarded.held other floor number holds names
  · rw [phases]
    exact forwarded.future number (generated ▸ later)
  · obtain ⟨old, earlier, sameUuid, _⟩ := before active
    rw [phases, sameUuid]
    exact forwarded.active other old earlier
  · rw [phases]
    refine forwarded.past number (generated ▸ earlier) fun other another active => ?_
    by_cases same : other = ts
    · obtain rfl := some.inj (found.symm.trans (same ▸ active))
      exact session ▸ none ts changed ((calls ts).trans (if_pos rfl))
    · exact none other another ((calls other).trans ((if_neg same).trans active))
  · rw [generated]
    rcases commands command member with old | named
    · exact forwarded.fits command old
    · obtain ⟨earlier, isNew⟩ := forwarded.named ts fwd found
      exact ⟨fwd.session, earlier, named.trans isNew⟩

/-- A new session on a free slot. -/
theorem Forwarded.start (injective : Function.Injective setting.newV4)
    (free : s.ulForwarded.lookup ts = none) {command : BrewCommand}
    (session : fwd.session = s.generated) (uuid : fwd.uuid = setting.newV4 s.generated)
    (names : command.uuid = fwd.uuid) (opens : command.kind = .opens) :
    (((s.generate.forward ts fwd).send command).holdFloor ts (floorOf fwd)).Forwarded setting := by
  have calls : ∀ other, (((s.generate.forward ts fwd).send command).holdFloor ts
      (floorOf fwd)).ulForwarded.lookup other =
        if other = ts then some fwd else s.ulForwarded.lookup other :=
    fun _ => lookup_insert_eq ..
  have floors : ∀ other, (((s.generate.forward ts fwd).send command).holdFloor ts
      (floorOf fwd)).floors.lookup other =
        if other = ts then some (floorOf fwd) else s.floors.lookup other :=
    fun _ => lookup_insert_eq ..
  have phases := fun key => @Dialogue.phase_open _ _ _ BrewCommand.dialogue s.commands key command
    opens (by
      rw [show dialogue.session command = setting.newV4 s.generated from names.trans uuid]
      exact forwarded.future s.generated le_rfl)
  have named : dialogue.session command = setting.newV4 s.generated := names.trans uuid
  rw [named] at phases
  have older : ∀ {other another}, s.ulForwarded.lookup other = some another →
      another.session ≠ s.generated ∧ another.uuid ≠ setting.newV4 s.generated := by
    intro other another active
    obtain ⟨earlier, isNew⟩ := forwarded.named other another active
    exact ⟨earlier.ne, fun same => earlier.ne (injective (isNew.symm.trans same))⟩
  refine ⟨fun other another active => ?_, fun other third another fourth isFirst isSecond same => ?_,
    fun other another active => ?_, fun other floor number holds names => ?_, fun number later => ?_,
    fun other another active => ?_, fun number earlier none => ?_, fun other member => ?_⟩
  · rw [calls] at active
    split at active
    · cases active
      exact ⟨session ▸ lt_succ_self _, session.symm ▸ uuid⟩
    · exact (forwarded.named other another active).imp_left lt_succ_of_lt
  · rw [calls] at isFirst isSecond
    split at isFirst
    · split at isSecond
      · exact ‹other = ts›.trans ‹third = ts›.symm
      · cases isFirst
        exact absurd (same.symm.trans session) (older isSecond).1
    · split at isSecond
      · cases isSecond
        exact absurd (same.trans session) (older isFirst).1
      · exact forwarded.alone other third another fourth isFirst isSecond same
  · rw [calls] at active
    rw [floors]
    split at active
    · cases active
      rw [if_pos ‹_›]
    · rw [if_neg ‹_›]
      exact forwarded.floored other another active
  · rw [floors] at holds
    rw [calls]
    split at holds
    · cases holds
      cases names
      exact ⟨fwd, if_pos ‹_›, rfl⟩
    · rw [if_neg ‹_›]
      exact forwarded.held other floor number holds names
  · refine (phases _).trans ((if_neg fun same => ?_).trans
      (forwarded.future number (le_of_succ_le later)))
    exact (lt_of_succ_le later).ne (injective same).symm
  · rw [calls] at active
    split at active
    · cases active
      exact (phases _).trans (if_pos uuid)
    · exact (phases _).trans ((if_neg (older active).2).trans (forwarded.active other another active))
  · have different : number ≠ s.generated := by
      rintro rfl
      exact none ts fwd ((calls ts).trans (if_pos rfl)) session
    refine (phases _).trans ((if_neg fun same => different (injective same)).trans
      (forwarded.past number (lt_of_le_of_ne (le_of_lt_succ earlier) different)
        fun other another active => ?_))
    refine none other another ((calls other).trans ((if_neg ?_).trans active))
    rintro rfl
    exact nomatch free.symm.trans active
  · rcases mem_append.mp member with old | new
    · obtain ⟨number, earlier, same⟩ := forwarded.fits other old
      exact ⟨number, lt_succ_of_lt earlier, same⟩
    · obtain rfl := mem_singleton.mp new
      exact ⟨s.generated, lt_succ_self _, named⟩

/-- A session ends with its floor. -/
theorem Forwarded.finish (injective : Function.Injective setting.newV4)
    (found : s.ulForwarded.lookup ts = some fwd) {command : BrewCommand}
    (names : command.uuid = fwd.uuid) (closes : command.kind = .closes)
    (calls : ∀ other, next.ulForwarded.lookup other =
      if other = ts then none else s.ulForwarded.lookup other)
    (floors : ∀ other, next.floors.lookup other = if other = ts then none else s.floors.lookup other)
    (generated : next.generated = s.generated) (commands : next.commands = s.commands ++ [command]) :
    next.Forwarded setting := by
  obtain ⟨isEarlier, isNew⟩ := forwarded.named ts fwd found
  have still : ∀ {other another}, next.ulForwarded.lookup other = some another →
      other ≠ ts ∧ s.ulForwarded.lookup other = some another := by
    intro other another active
    rw [calls] at active
    exact ite_none_left_eq_some.mp active
  have phases : ∀ key, dialogue.phase next.commands key =
      if key = fwd.uuid then some .ended else dialogue.phase s.commands key := by
    intro key
    have named : dialogue.session command = fwd.uuid := names
    have ended := @Dialogue.phase_close _ _ _ BrewCommand.dialogue s.commands key command closes
      (named.symm ▸ forwarded.active ts fwd found)
    rwa [← commands, named] at ended
  refine ⟨fun other another active => ?_, fun other third another fourth isFirst isSecond => ?_,
    fun other another active => ?_, fun other floor number holds names => ?_, fun number later => ?_,
    fun other another active => ?_, fun number earlier none => ?_, fun other member => ?_⟩
  · rw [generated]
    exact forwarded.named other another (still active).2
  · exact forwarded.alone other third another fourth (still isFirst).2 (still isSecond).2
  · obtain ⟨different, before⟩ := still active
    rw [floors, if_neg different]
    exact forwarded.floored other another before
  · rw [floors] at holds
    obtain ⟨different, before⟩ := ite_none_left_eq_some.mp holds
    rw [calls, if_neg different]
    exact forwarded.held other floor number before names
  · rw [generated] at later
    rw [phases, if_neg]
    · exact forwarded.future number later
    · rw [isNew]
      exact fun same => absurd isEarlier (not_lt.mpr (injective same ▸ later))
  · obtain ⟨different, before⟩ := still active
    rw [phases, if_neg]
    · exact forwarded.active other another before
    · rw [isNew, (forwarded.named other another before).2]
      exact fun same => different (forwarded.alone other ts another fwd before found (injective same))
  · rw [phases]
    split
    · rfl
    next different =>
      refine forwarded.past number (generated ▸ earlier) fun other another active same => ?_
      by_cases here : other = ts
      · obtain rfl := some.inj (found.symm.trans (here ▸ active))
        exact different (isNew ▸ same ▸ rfl)
      · exact none other another ((calls other).trans ((if_neg here).trans active)) same
  · rw [commands] at member
    rw [generated]
    rcases mem_append.mp member with old | new
    · exact forwarded.fits other old
    · rw [mem_singleton.mp new, names]
      exact ⟨fwd.session, isEarlier, isNew⟩

end BrewEntity

end Bluestation
