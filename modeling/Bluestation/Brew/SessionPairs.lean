/-
**Sessions of the bridge are opened and closed in pairs.**

* `BrewEntity.sessions_paired` — **main result**: the sessions of both kinds in every run of permitted
  steps.
* `BrewEntity.left_open_by_callEnded` — a call that ends with its floor held leaves its session open.
-/

import Bluestation.Brew.SessionLogs

namespace Bluestation

open Machines List Option Nat Bool AList Table BrewEntity Dialogue BrewMessage

namespace BrewEntity

variable {s next : BrewEntity} {setting : BrewSetting}

/-! ### Events of downlink sessions -/

section

variable (announced : s.Announced)

include announced

/-- No session of the group is left. -/
theorem Announced.evictStale {uuid : Uuid} (free : s.activeCalls.lookup uuid = none) (destGssi : Nat) :
    (s.evictStale uuid destGssi).Announced ∧
      (s.evictStale uuid destGssi).activeCalls.lookup uuid = none ∧
      (∀ other call, (s.evictStale uuid destGssi).activeCalls.lookup other = some call →
        call.destGssi ≠ destGssi) ∧
      (s.evictStale uuid destGssi).sessions = s.sessions := by
  unfold BrewEntity.evictStale staleCall
  cases stale : s.activeCalls.entries.find? fun entry =>
      entry.2.destGssi = destGssi && entry.1 ≠ uuid with
  | none =>
    refine ⟨announced, free, fun other call found same => ?_, rfl⟩
    have none := find?_eq_none.mp stale ⟨other, call⟩ (mem_entries.mpr found)
    refine none (and_eq_true_iff.mpr ⟨decide_eq_true same, decide_eq_true ?_⟩)
    rintro rfl
    exact nomatch free.symm.trans found
  | some entry =>
    have found := mem_entries.mp (mem_of_find?_eq_some stale)
    have matched := find?_some stale
    rw [and_eq_true, decide_eq_true_iff] at matched
    refine ⟨announced.excuse found _, ?_, fun other call active same => ?_, rfl⟩
    · refine (lookup_forget s entry.1 uuid).trans ?_
      rw [free, ite_self]
    · obtain ⟨different, before⟩ := ite_none_left_eq_some.mp
        ((lookup_forget s entry.1 other).symm.trans active)
      exact different (announced.perGroup other entry.1 call entry.2 before found
        (same.trans matched.1.symm))

/-- A new session, the only one of its group. -/
theorem Announced.openSession {uuid : Uuid} {sourceIssi destGssi priority frameCount : Nat}
    (free : s.activeCalls.lookup uuid = none)
    (only : ∀ other call, s.activeCalls.lookup other = some call → call.destGssi ≠ destGssi) :
    (s.openSession setting uuid sourceIssi destGssi priority frameCount).Announced := by
  have calls : ∀ other, (s.openSession setting uuid sourceIssi destGssi priority
      frameCount).activeCalls.lookup other = if other = uuid then
        some ⟨none, none, none, sourceIssi, destGssi, frameCount, s.sessions.length⟩
      else s.activeCalls.lookup other := fun _ => lookup_insert_eq ..
  obtain ⟨unborn, unexcused⟩ := announced.future s.sessions.length le_rfl
  have phases := fun session => @phase_open _ _ _ dialogue s.queue session
    (.networkCallStart uuid sourceIssi destGssi priority s.sessions.length) rfl unborn
  have older : ∀ {other call}, s.activeCalls.lookup other = some call →
      call.session < s.sessions.length :=
    fun found => (List.getElem?_eq_some_iff.mp (announced.named _ _ found)).1
  have grows : s.sessions <+: (s.openSession setting uuid sourceIssi destGssi priority
    frameCount).sessions := prefix_append _ _
  have length : (s.openSession setting uuid sourceIssi destGssi priority frameCount).sessions.length =
      s.sessions.length + 1 := length_append
  refine ⟨fun other call found => ?_, fun first second call another isFirst isSecond same => ?_,
    fun other frames => ?_, fun message member => ?_, fun session later => ?_,
    fun other call found => ?_, fun session earlier none => ?_⟩
  · rw [calls] at found
    split at found
    · cases found
      rw [‹other = uuid›]
      exact getElem?_concat_length
    · exact (getElem?_append_left (older found)).trans (announced.named other call found)
  · rw [calls] at isFirst isSecond
    split at isFirst
    · split at isSecond
      · exact ‹first = uuid›.trans ‹second = uuid›.symm
      · cases isFirst
        exact absurd same.symm (only second another isSecond)
    · split at isSecond
      · cases isSecond
        exact absurd same (only first call isFirst)
      · exact announced.perGroup first second call another isFirst isSecond same
  · rw [calls]
    split
    · rfl
    · refine announced.buffered other ?_
      unfold BrewEntity.openSession at frames
      split at frames
      · exact frames
      · rwa [lookup_insert_eq, if_neg ‹_›] at frames
  · rcases mem_append.mp member with old | new
    · exact (announced.fits message old).mono grows
    · rw [mem_singleton.mp new]
      exact congrArg (Option.map _) getElem?_concat_length
  · have beyond : s.sessions.length < session := lt_of_succ_le (length.ge.trans later)
    refine ⟨(phases session).trans ((if_neg beyond.ne').trans ?_), ?_⟩
    · exact (announced.future session beyond.le).1
    · exact (announced.future session beyond.le).2
  · rw [calls] at found
    split at found
    · cases found
      exact ⟨(phases _).trans (if_pos rfl), unexcused⟩
    · refine ⟨(phases _).trans ((if_neg (older found).ne).trans ?_), ?_⟩
      · exact (announced.active other call found).1
      · exact (announced.active other call found).2
  · have different : session ≠ s.sessions.length := by
      rintro rfl
      exact none uuid _ ((calls uuid).trans (if_pos rfl)) rfl
    have before : session < s.sessions.length :=
      lt_of_le_of_ne (le_of_lt_succ (earlier.trans_eq length)) different
    have same := (phases session).trans (if_neg different)
    refine (announced.past session before fun other call found => none other call ?_).imp
      (.imp_left same.trans) (.imp_left same.trans)
    refine (calls other).trans ((if_neg ?_).trans found)
    rintro rfl
    exact nomatch free.symm.trans found

theorem Announced.handleGroupCallStart (uuid : Uuid) (sourceIssi destGssi priority : Nat) :
    (s.handleGroupCallStart setting uuid sourceIssi destGssi priority).Announced := by
  unfold BrewEntity.handleGroupCallStart
  cases found : s.activeCalls.lookup uuid with
  | none =>
    obtain ⟨evicted, free, only, _⟩ := announced.evictStale found destGssi
    exact evicted.openSession free only
  | some call =>
    dsimp only
    split
    · have updated : (s.update uuid { call with sourceIssi }).Announced :=
        announced.update found rfl rfl
      refine updated.say (lookup_update_self ..) rfl nofun ?_
      exact congrArg (Option.map _) (announced.named uuid call found)
    · exact announced

theorem Announced.hang (uuid : Uuid) (call : ActiveCall) (now : Nat) :
    (s.hang uuid call now).Announced := by
  unfold BrewEntity.hang
  split
  · exact announced.beside rfl rfl rfl rfl rfl
  · exact announced

theorem Announced.handleGroupCallEnd (uuid : Uuid) (now : Nat) :
    (s.handleGroupCallEnd uuid now).Announced := by
  unfold BrewEntity.handleGroupCallEnd
  cases found : s.activeCalls.lookup uuid with
  | none => exact announced
  | some call => exact (announced.finish found).hang uuid call now

theorem Announced.handleVoiceFrame (uuid : Uuid) (data : List Nat) (target : Nat) :
    (s.handleVoiceFrame setting uuid data target).Announced := by
  unfold BrewEntity.handleVoiceFrame
  cases found : s.activeCalls.lookup uuid with
  | none => exact announced
  | some call =>
    have counted : (s.update uuid { call with frameCount := call.frameCount + 1 }).Announced :=
      announced.update found rfl rfl
    dsimp only
    split
    · exact counted
    · exact counted.buffer (isSome_of_eq_some (lookup_update_self ..)) _

theorem Announced.playOut (targets : Uuid → Nat) (uuid : Uuid) :
    (playOut targets s uuid).Announced := by
  unfold BrewEntity.playOut
  split
  next call jitter found _ =>
    split
    · have buffered := announced.buffer (isSome_of_eq_some found) (jitter.popReady (targets uuid)).2
      dsimp only
      split
      · exact buffered
      · refine buffered.say (show s.activeCalls.lookup uuid = _ from found) rfl nofun ?_
        exact (List.getElem?_eq_some_iff.mp (announced.named uuid call found)).1
    · exact announced
  · exact announced

theorem Announced.tick (ts : TdmaTime) (order : List Uuid) (targets : Uuid → Nat) (now : Nat) :
    (s.tick ts order targets now).Announced := by
  have timed : ({ s with dltime := ts } : BrewEntity).Announced := announced.beside rfl rfl rfl rfl rfl
  suffices played : (({ s with dltime := ts } : BrewEntity).drainJitterPlayout order
      targets).Announced from played.beside rfl rfl rfl rfl rfl
  unfold drainJitterPlayout
  split
  · exact timed
  · generalize (({ s with dltime := ts } : BrewEntity).activeCalls.rearrange order).keys = uuids
    induction uuids using List.reverseRecOn with
    | nil => exact timed
    | append_singleton uuids uuid ih =>
      rw [foldl_append]
      exact ih.playOut targets uuid

end

theorem mem_endings {order : List Uuid} {message : BrewMessage} : message ∈ s.endings order ↔
    ∃ uuid call, s.activeCalls.lookup uuid = some call ∧
      message = .networkCallEnd uuid call.session := by
  unfold endings
  rw [List.mem_map]
  constructor
  · rintro ⟨entry, member, rfl⟩
    exact ⟨entry.1, entry.2, mem_entries.mp (mem_rearrange.mp member), rfl⟩
  · rintro ⟨uuid, call, found, rfl⟩
    exact ⟨⟨uuid, call⟩, mem_rearrange.mpr (mem_entries.mpr found), rfl⟩

section

variable (announced : s.Announced)

include announced

theorem Announced.nodup_endings (order : List Uuid) :
    ((s.endings order).map dialogue.session).Nodup := by
  unfold endings
  rw [List.map_map]
  refine (s.activeCalls.rearrange order).nodupKeys.nodup.map_on ?_
  intro first isFirst second isSecond same
  have found := mem_entries.mp (mem_rearrange.mp isFirst)
  have also := mem_entries.mp (mem_rearrange.mp isSecond)
  obtain ⟨uuid, call⟩ := first
  obtain ⟨other, another⟩ := second
  obtain rfl : uuid = other := announced.alone found also same
  cases Option.some.inj (found.symm.trans also)
  rfl

/-- **The connection is lost: every session ends, and call control is told.** -/
theorem Announced.releaseAllCalls (order : List Uuid) : (s.releaseAllCalls order).Announced := by
  have phases := fun session => @phase_closeAll _ _ _ dialogue s.queue session (s.endings order) (by
      intro message member
      obtain ⟨uuid, call, _, rfl⟩ := mem_endings.mp member
      rfl) (by
      intro message member
      obtain ⟨uuid, call, found, rfl⟩ := mem_endings.mp member
      exact (announced.active uuid call found).1) (announced.nodup_endings order)
  have ends : ∀ session, session ∈ (s.endings order).map dialogue.session ↔
      ∃ uuid call, s.activeCalls.lookup uuid = some call ∧ call.session = session := by
    intro session
    rw [List.mem_map]
    constructor
    · rintro ⟨message, member, rfl⟩
      obtain ⟨uuid, call, found, rfl⟩ := mem_endings.mp member
      exact ⟨uuid, call, found, rfl⟩
    · rintro ⟨uuid, call, found, rfl⟩
      exact ⟨_, mem_endings.mpr ⟨uuid, call, found, rfl⟩, rfl⟩
  refine ⟨fun uuid call found => ?_, fun uuid other call another found => ?_, fun uuid frames => ?_,
    fun message member => ?_, fun session later => ?_, fun uuid call found => ?_,
    fun session earlier none => ?_⟩
  · exact nomatch (lookup_empty uuid).symm.trans found
  · exact nomatch (lookup_empty uuid).symm.trans found
  · cases frames
  · rcases mem_append.mp member with old | new
    · exact announced.fits message old
    · obtain ⟨uuid, call, found, rfl⟩ := mem_endings.mp new
      exact congrArg (Option.map _) (announced.named uuid call found)
  · obtain ⟨unborn, unexcused⟩ := announced.future session later
    refine ⟨(phases session).trans ((if_neg fun member => ?_).trans unborn), unexcused⟩
    obtain ⟨uuid, call, found, rfl⟩ := (ends session).mp member
    exact nomatch unborn.symm.trans (announced.active uuid call found).1
  · exact nomatch (lookup_empty uuid).symm.trans found
  · by_cases active : ∃ uuid call, s.activeCalls.lookup uuid = some call ∧ call.session = session
    · refine .inr ⟨(phases session).trans (if_pos ((ends session).mpr active)), ?_⟩
      obtain ⟨uuid, call, found, rfl⟩ := active
      exact (announced.active uuid call found).2
    · have same := (phases session).trans (if_neg fun member => active ((ends session).mp member))
      refine (announced.past session earlier fun uuid call found same => ?_).imp
        (.imp_left same.trans) (.imp_left same.trans)
      exact active ⟨uuid, call, found, same⟩

theorem Announced.dropNetworkCall (uuid : Uuid) : (s.dropNetworkCall uuid).Announced := by
  unfold BrewEntity.dropNetworkCall
  cases found : s.activeCalls.lookup uuid with
  | some call => exact (announced.excuse found .callControl).beside rfl rfl rfl rfl rfl
  | none =>
    dsimp only
    split
    · exact announced.beside rfl rfl rfl rfl rfl
    · exact announced

theorem Announced.rxNetworkCallReady (uuid : Uuid) (callId ts usage : Nat) :
    (s.rxNetworkCallReady uuid callId ts usage).Announced := by
  have lookup : ∀ other, (s.rxNetworkCallReady uuid callId ts usage).activeCalls.lookup other =
      if other = uuid then (s.activeCalls.lookup uuid).map fun call =>
        { call with callId := some callId, ts := some ts, usage := some usage }
      else s.activeCalls.lookup other := fun _ => lookup_modify ..
  have kept : ∀ other, (s.activeCalls.lookup other).isSome →
      ((s.rxNetworkCallReady uuid callId ts usage).activeCalls.lookup other).isSome := by
    intro other active
    rw [lookup]
    split
    · rw [isSome_map]
      exact ‹other = uuid› ▸ active
    · exact active
  refine announced.congr rfl rfl (fun other call found => ?_) kept
    (fun other frames => kept other (announced.buffered other frames)) (fun _ member => .inl member)
    fun _ => rfl
  rw [lookup] at found
  split at found
  · obtain ⟨old, before, rfl⟩ := map_eq_some_iff.mp found
    exact ⟨old, ‹other = uuid› ▸ before, rfl, rfl⟩
  · exact ⟨call, found, rfl, rfl⟩

/-! ### Events of uplink sessions -/

theorem Announced.loseFloor (callId ts : Nat) : (s.loseFloor callId ts).Announced := by
  unfold BrewEntity.loseFloor
  split
  · exact announced.beside rfl rfl rfl rfl rfl
  · exact announced

theorem Announced.handleLocalCallStart (callId sourceIssi destGssi ts : Nat) :
    (s.handleLocalCallStart setting callId sourceIssi destGssi ts).Announced := by
  unfold BrewEntity.handleLocalCallStart
  split
  · exact announced.beside rfl rfl rfl rfl rfl
  · split
    · exact announced.beside rfl rfl rfl rfl rfl
    · exact announced.beside rfl rfl rfl rfl rfl

theorem Announced.handleLocalCallTxStopped (callId ts : Nat) :
    (s.handleLocalCallTxStopped callId ts).Announced := by
  unfold BrewEntity.handleLocalCallTxStopped
  split
  · exact announced.loseFloor callId ts
  · exact (announced.loseFloor callId ts).beside rfl rfl rfl rfl rfl

theorem Announced.handleUlVoice (ts : Nat) (acelpBits : List Nat) :
    (s.handleUlVoice ts acelpBits).Announced := by
  unfold BrewEntity.handleUlVoice
  split
  · exact announced
  · split
    · exact announced.beside rfl rfl rfl rfl rfl
    · exact announced.beside rfl rfl rfl rfl rfl

/-- **Every event keeps the downlink sessions in order.** -/
theorem announced_step (event : BrewEntityEvent) (stepped : step setting s event = some next) :
    next.Announced := by
  cases event <;> cases stepped
  case connected => exact announced.beside rfl rfl rfl rfl rfl
  case disconnected order =>
    have lost : (s.setNetworkConnected false).Announced := announced.beside rfl rfl rfl rfl rfl
    exact lost.releaseAllCalls order
  case groupCallStart => exact announced.handleGroupCallStart ..
  case groupCallEnd => exact announced.handleGroupCallEnd ..
  case voiceFrame => exact announced.handleVoiceFrame ..
  case tick => exact announced.tick ..
  case ulVoice => exact announced.handleUlVoice ..
  case floorGranted => exact announced.handleLocalCallStart ..
  case floorReleased => exact announced.handleLocalCallTxStopped ..
  case callEnded callId ts => exact (announced.loseFloor callId ts).beside rfl rfl rfl rfl rfl
  case networkCallEnd => exact announced.dropNetworkCall ..
  case networkCallReady => exact announced.rxNetworkCallReady ..

end

/-! ### Uplink sessions and replaced ones -/

/-- Neither uplink sessions nor the excuses of downlink sessions are touched. -/
structure Beside (s next : BrewEntity) : Prop where
  ulForwarded : next.ulForwarded = s.ulForwarded
  generated : next.generated = s.generated
  floors : next.floors = s.floors
  commands : next.commands = s.commands
  sessions : next.sessions = s.sessions
  excused : next.excused = s.excused

theorem Beside.refl (s : BrewEntity) : s.Beside s := ⟨rfl, rfl, rfl, rfl, rfl, rfl⟩

theorem Beside.trans {later : BrewEntity} (first : s.Beside next) (second : next.Beside later) :
    s.Beside later :=
  ⟨second.ulForwarded.trans first.ulForwarded, second.generated.trans first.generated,
    second.floors.trans first.floors, second.commands.trans first.commands,
    second.sessions.trans first.sessions, second.excused.trans first.excused⟩

theorem beside_handleGroupCallEnd (s : BrewEntity) (uuid : Uuid) (now : Nat) :
    s.Beside (s.handleGroupCallEnd uuid now) := by
  unfold handleGroupCallEnd
  split
  · exact .refl s
  · unfold hang
    split
    · exact ⟨rfl, rfl, rfl, rfl, rfl, rfl⟩
    · exact ⟨rfl, rfl, rfl, rfl, rfl, rfl⟩

theorem beside_handleVoiceFrame (s : BrewEntity) (uuid : Uuid) (data : List Nat) (target : Nat) :
    s.Beside (s.handleVoiceFrame setting uuid data target) := by
  unfold handleVoiceFrame
  split
  · exact .refl s
  · split
    · exact ⟨rfl, rfl, rfl, rfl, rfl, rfl⟩
    · exact ⟨rfl, rfl, rfl, rfl, rfl, rfl⟩

theorem beside_playOut (targets : Uuid → Nat) (s : BrewEntity) (uuid : Uuid) :
    s.Beside (playOut targets s uuid) := by
  unfold playOut
  split
  · split
    · dsimp only
      split
      · exact ⟨rfl, rfl, rfl, rfl, rfl, rfl⟩
      · exact ⟨rfl, rfl, rfl, rfl, rfl, rfl⟩
    · exact .refl s
  · exact .refl s

theorem beside_tick (s : BrewEntity) (ts : TdmaTime) (order : List Uuid) (targets : Uuid → Nat)
    (now : Nat) : s.Beside (s.tick ts order targets now) := by
  suffices played : s.Beside (({ s with dltime := ts } : BrewEntity).drainJitterPlayout order
      targets) from played.trans ⟨rfl, rfl, rfl, rfl, rfl, rfl⟩
  unfold drainJitterPlayout
  split
  · exact ⟨rfl, rfl, rfl, rfl, rfl, rfl⟩
  · generalize (({ s with dltime := ts } : BrewEntity).activeCalls.rearrange order).keys = uuids
    induction uuids using List.reverseRecOn with
    | nil => exact ⟨rfl, rfl, rfl, rfl, rfl, rfl⟩
    | append_singleton uuids uuid ih =>
      rw [foldl_append]
      exact ih.trans (beside_playOut targets _ uuid)

def Replaced (s : BrewEntity) : Prop :=
  ∀ session later, (session, .replacedBy later) ∈ s.excused → session < later ∧
    ∃ old new, s.sessions[session]? = some old ∧ s.sessions[later]? = some new ∧
      old.destGssi = new.destGssi

theorem Replaced.beside (replaced : s.Replaced) (beside : s.Beside next) : next.Replaced := by
  unfold Replaced
  rw [beside.sessions, beside.excused]
  exact replaced

theorem Replaced.dropNetworkCall (replaced : s.Replaced) (uuid : Uuid) :
    (s.dropNetworkCall uuid).Replaced := by
  unfold BrewEntity.dropNetworkCall
  split
  · intro session later member
    rcases mem_append.mp member with old | new
    · exact replaced session later old
    · exact nomatch (congrArg Prod.snd (mem_singleton.mp new))
  · split
    · exact replaced
    · exact replaced

/-- **The session that a new one pushes out is of the same group.** -/
theorem Replaced.handleGroupCallStart (replaced : s.Replaced) (announced : s.Announced) (uuid : Uuid)
    (sourceIssi destGssi priority : Nat) :
    (s.handleGroupCallStart setting uuid sourceIssi destGssi priority).Replaced := by
  have grown : ∀ {session : Nat} {old : DownlinkSession}, s.sessions[session]? = some old →
      (s.sessions ++ [⟨uuid, destGssi⟩])[session]? = some old := fun noted =>
    (List.getElem?_append_left (List.getElem?_eq_some_iff.mp noted).1).trans noted
  have kept : ∀ {session later : Nat}, (session, .replacedBy later) ∈ s.excused → session < later ∧
      ∃ old new, (s.sessions ++ [⟨uuid, destGssi⟩])[session]? = some old ∧
        (s.sessions ++ [⟨uuid, destGssi⟩])[later]? = some new ∧ old.destGssi = new.destGssi := by
    intro session later member
    obtain ⟨earlier, old, new, isOld, isNew, same⟩ := replaced session later member
    exact ⟨earlier, old, new, grown isOld, grown isNew, same⟩
  unfold BrewEntity.handleGroupCallStart
  split
  · split
    · exact replaced
    · exact replaced
  · unfold evictStale staleCall
    split
    · exact fun session later member => kept member
    next entry stale =>
      intro session later member
      rcases mem_append.mp member with old | new
      · exact kept old
      · cases mem_singleton.mp new
        have matched := find?_some stale
        rw [and_eq_true, decide_eq_true_iff] at matched
        have noted := announced.named entry.1 entry.2 (mem_entries.mp (mem_of_find?_eq_some stale))
        exact ⟨(List.getElem?_eq_some_iff.mp noted).1, _, _, grown noted,
          getElem?_concat_length, matched.1⟩

/-! ### Runs -/

/-- A floor that is granted on the slot of a session is forwarded; a floor that is released is that of
the session's call; and a call ends after its floor was released. -/
def permits (setting : BrewSetting) (s : BrewEntity) : BrewEntityEvent → Bool
  | .floorGranted _ sourceIssi _ ts =>
    (s.connected && setting.isBrewIssiRoutable sourceIssi) || (s.ulForwarded.lookup ts).isNone
  | .floorReleased callId ts => (s.ulForwarded.lookup ts).all (·.callId = callId)
  | .callEnded _ ts => (s.ulForwarded.lookup ts).isNone
  | _ => true

variable {callId ts : Nat}

section

variable (forwarded : s.Forwarded setting)

include forwarded

theorem Forwarded.handleLocalCallStart (injective : Function.Injective setting.newV4)
    {sourceIssi destGssi : Nat}
    (permit : permits setting s (.floorGranted callId sourceIssi destGssi ts) = true) :
    (s.handleLocalCallStart setting callId sourceIssi destGssi ts).Forwarded setting := by
  unfold BrewEntity.handleLocalCallStart
  split
  next ignored =>
    rw [permits, or_eq_true, and_eq_true, isNone_iff_eq_none] at permit
    rw [or_eq_true] at ignored
    have free : s.ulForwarded.lookup ts = none := by
      refine permit.resolve_left fun taken => ?_
      rw [taken.1, taken.2] at ignored
      exact ignored.elim nofun nofun
    refine forwarded.refloor free (fun other different => ?_) fun floor found => ?_
    · exact (lookup_insert_eq ..).trans (if_neg different)
    · cases ((lookup_insert_eq ..).trans (if_pos rfl)).symm.trans found
      rfl
  · split
    next fwd found =>
      refine forwarded.goOn found ⟨fwd.uuid, callId, sourceIssi, destGssi, 0, fwd.session⟩ rfl rfl
        (fun _ => lookup_insert_eq ..) (fun _ => lookup_insert_eq ..) rfl
        (fun command member => ?_) fun uuid => phase_say nofun (forwarded.active ts fwd found)
      exact (mem_append.mp member).imp_right fun new => congrArg _ (mem_singleton.mp new)
    · exact forwarded.start injective ‹_› rfl rfl rfl rfl

theorem Forwarded.loseFloor (free : s.ulForwarded.lookup ts = none) (callId : Nat) :
    (s.loseFloor callId ts).Forwarded setting := by
  unfold BrewEntity.loseFloor
  split
  · refine forwarded.refloor free (fun other different => ?_) fun floor found => ?_
    · exact (lookup_erase_eq ..).trans (if_neg different)
    · exact nomatch ((lookup_erase_eq ..).trans (if_pos rfl)).symm.trans found
  · exact forwarded

theorem Forwarded.handleLocalCallTxStopped (injective : Function.Injective setting.newV4)
    (permit : permits setting s (.floorReleased callId ts) = true) :
    (s.handleLocalCallTxStopped callId ts).Forwarded setting := by
  unfold BrewEntity.handleLocalCallTxStopped
  unfold permits at permit
  dsimp only at permit ⊢
  cases found : s.ulForwarded.lookup ts with
  | none => exact forwarded.loseFloor found callId
  | some fwd =>
    rw [found] at permit
    have lost : s.loseFloor callId ts = { s with floors := s.floors.erase ts } := by
      unfold BrewEntity.loseFloor
      rw [forwarded.floored ts fwd found]
      exact if_pos permit
    rw [lost]
    exact forwarded.finish injective found rfl rfl (fun _ => lookup_erase_eq ..)
      (fun _ => lookup_erase_eq ..) rfl rfl

theorem Forwarded.handleLocalCallEnd (permit : permits setting s (.callEnded callId ts) = true) :
    (s.handleLocalCallEnd callId ts).Forwarded setting := by
  have free : s.ulForwarded.lookup ts = none := isNone_iff_eq_none.mp permit
  refine (forwarded.loseFloor free callId).beside ?_ rfl rfl rfl
  unfold BrewEntity.handleLocalCallEnd closeUplink BrewEntity.loseFloor
  split
  · exact AList.ext (kerase_of_notMem_keys (lookup_eq_none.mp free))
  · exact AList.ext (kerase_of_notMem_keys (lookup_eq_none.mp free))

theorem Forwarded.handleUlVoice (ts : Nat) (acelpBits : List Nat) :
    (s.handleUlVoice ts acelpBits).Forwarded setting := by
  unfold BrewEntity.handleUlVoice
  split
  · exact forwarded
  next fwd found =>
    have floors : ∀ other, s.floors.lookup other = if other = ts then
        some (floorOf { fwd with frameCount := fwd.frameCount + 1 }) else s.floors.lookup other := by
      intro other
      split
      · exact ‹other = ts› ▸ forwarded.floored ts fwd found
      · rfl
    split
    · exact forwarded.goOn found { fwd with frameCount := fwd.frameCount + 1 } rfl rfl
        (fun _ => lookup_insert_eq ..) floors rfl (fun _ member => .inl member) fun _ => rfl
    · refine forwarded.goOn found { fwd with frameCount := fwd.frameCount + 1 } rfl rfl
        (fun _ => lookup_insert_eq ..) floors rfl (fun command member => ?_)
        fun uuid => phase_say nofun (forwarded.active ts fwd found)
      exact (mem_append.mp member).imp_right fun new => congrArg _ (mem_singleton.mp new)

end

/-- What holds in every run of permitted steps. -/
structure Sound (setting : BrewSetting) (s : BrewEntity) : Prop where
  announced : s.Announced
  replaced : s.Replaced
  forwarded : s.Forwarded setting

theorem Sound.beside (sound : s.Sound setting) (announced : next.Announced) (beside : s.Beside next) :
    next.Sound setting :=
  ⟨announced, sound.replaced.beside beside, sound.forwarded.beside beside.ulForwarded beside.generated
    beside.floors beside.commands⟩

theorem sound_step (injective : Function.Injective setting.newV4) (sound : s.Sound setting)
    (event : BrewEntityEvent) (permit : permits setting s event = true)
    (stepped : step setting s event = some next) : next.Sound setting := by
  have announced := announced_step sound.announced event stepped
  cases event <;> cases stepped
  case connected => exact sound.beside announced ⟨rfl, rfl, rfl, rfl, rfl, rfl⟩
  case disconnected => exact sound.beside announced ⟨rfl, rfl, rfl, rfl, rfl, rfl⟩
  case groupCallStart uuid sourceIssi destGssi priority =>
    refine ⟨announced, sound.replaced.handleGroupCallStart sound.announced _ _ _ _, ?_⟩
    unfold handleGroupCallStart
    split
    · split
      · exact sound.forwarded.beside rfl rfl rfl rfl
      · exact sound.forwarded
    · unfold evictStale
      split
      · exact sound.forwarded.beside rfl rfl rfl rfl
      · exact sound.forwarded.beside rfl rfl rfl rfl
  case groupCallEnd => exact sound.beside announced (beside_handleGroupCallEnd ..)
  case voiceFrame => exact sound.beside announced (beside_handleVoiceFrame ..)
  case tick => exact sound.beside announced (beside_tick ..)
  case ulVoice ts acelpBits =>
    refine ⟨announced, ?_, sound.forwarded.handleUlVoice ts acelpBits⟩
    unfold handleUlVoice
    split
    · exact sound.replaced
    · split
      · exact sound.replaced
      · exact sound.replaced
  case floorGranted =>
    refine ⟨announced, ?_, sound.forwarded.handleLocalCallStart injective permit⟩
    unfold handleLocalCallStart
    split
    · exact sound.replaced
    · split
      · exact sound.replaced
      · exact sound.replaced
  case floorReleased =>
    refine ⟨announced, ?_, sound.forwarded.handleLocalCallTxStopped injective permit⟩
    unfold handleLocalCallTxStopped loseFloor
    split
    · split
      · exact sound.replaced
      · exact sound.replaced
    · split
      · exact sound.replaced
      · exact sound.replaced
  case callEnded =>
    refine ⟨announced, ?_, sound.forwarded.handleLocalCallEnd permit⟩
    unfold handleLocalCallEnd loseFloor
    split
    · exact sound.replaced
    · exact sound.replaced
  case networkCallEnd uuid =>
    refine ⟨announced, sound.replaced.dropNetworkCall uuid, ?_⟩
    unfold dropNetworkCall
    split
    · exact sound.forwarded.beside rfl rfl rfl rfl
    · split
      · exact sound.forwarded.beside rfl rfl rfl rfl
      · exact sound.forwarded
  case networkCallReady => exact sound.beside announced ⟨rfl, rfl, rfl, rfl, rfl, rfl⟩

theorem sound_start (start : (machine setting).start s) : s.Sound setting := by
  obtain ⟨dltime, rfl⟩ := start
  have none : ∀ {Value : Type} {key : Nat} {value : Value},
      (∅ : Table Value).lookup key = some value → False :=
    fun found => nomatch (lookup_empty _).symm.trans found
  exact ⟨⟨fun _ _ found => (none found).elim, fun _ _ _ _ found => (none found).elim,
      fun _ frames => (nomatch frames), forall_mem_nil _,
      fun _ _ => ⟨rfl, fun ⟨_, never⟩ => nomatch never⟩,
      fun _ _ found => (none found).elim, fun _ never => absurd never (not_lt_zero _)⟩,
    fun _ _ never => (nomatch never),
    ⟨fun _ _ found => (none found).elim, fun _ _ _ _ found => (none found).elim,
      fun _ _ found => (none found).elim, fun _ _ _ found => (none found).elim, fun _ _ => rfl,
      fun _ _ found => (none found).elim, fun _ never => absurd never (not_lt_zero _),
      forall_mem_nil _⟩⟩

def Held (s : BrewEntity) (session : Nat) : Prop :=
  ∃ ts floor, s.floors.lookup ts = some floor ∧ floor.session = some session

def Active (s : BrewEntity) (session : Nat) (opened : DownlinkSession) : Prop :=
  ∃ call, s.activeCalls.lookup opened.uuid = some call ∧ call.session = session ∧
    call.destGssi = opened.destGssi

/-- What came of a downlink session: it goes on, or has ended for another reason, and call control was
not told that it has; or call control was told once. -/
structure DownlinkPaired (s : BrewEntity) (session : Nat) (opened : DownlinkSession) : Prop where
  told : ∃ message ∈ s.queue, message.session = session ∧ message.kind = .opens
  goesOn : s.Active session opened ∨ s.Excused session → ∀ message ∈ s.queue,
    message.session = session → message.kind ≠ .closes
  closed : ¬ s.Active session opened → ¬ s.Excused session →
    BrewMessage.dialogue.Closed s.queue session

/-- What came of an uplink session: its floor is held, or it was closed once and for all. -/
structure UplinkPaired (s : BrewEntity) (session : Nat) (uuid : Uuid) : Prop where
  told : ∃ command ∈ s.commands, command.uuid = uuid ∧ command.kind = .opens
  goesOn : s.Held session → ∀ command ∈ s.commands, command.uuid = uuid → command.kind ≠ .closes
  closed : ¬ s.Held session → BrewCommand.dialogue.Closed s.commands uuid

theorem Forwarded.paired (forwarded : s.Forwarded setting) {session : Nat}
    (earlier : session < s.generated) : s.UplinkPaired session (setting.newV4 session) := by
  have closed : ¬ s.Held session →
      BrewCommand.dialogue.phase s.commands (setting.newV4 session) = some .ended := by
    refine fun free => forwarded.past session earlier fun ts fwd found same => free ?_
    exact ⟨ts, floorOf fwd, forwarded.floored ts fwd found, congrArg some same⟩
  have running : s.Held session →
      BrewCommand.dialogue.phase s.commands (setting.newV4 session) = some .running := by
    rintro ⟨ts, floor, holds, names⟩
    obtain ⟨fwd, found, rfl⟩ := forwarded.held ts floor session holds names
    rw [← (forwarded.named ts fwd found).2]
    exact forwarded.active ts fwd found
  refine ⟨?_, fun held => (open_of_running (running held)).2,
    fun free => closed_of_ended (closed free)⟩
  by_cases held : s.Held session
  · exact (open_of_running (running held)).1
  · obtain ⟨before, last, after, whole, _, _, ⟨first, member, opens⟩, _⟩ :=
      closed_of_ended (closed held)
    exact ⟨first, whole ▸ mem_append_left _ member, opens⟩

theorem Announced.paired (announced : s.Announced) {session : Nat} {opened : DownlinkSession}
    (noted : s.sessions[session]? = some opened) : s.DownlinkPaired session opened := by
  have earlier := (List.getElem?_eq_some_iff.mp noted).1
  have active : (∃ uuid call, s.activeCalls.lookup uuid = some call ∧ call.session = session) ↔
      s.Active session opened := by
    constructor
    · rintro ⟨uuid, call, found, rfl⟩
      obtain rfl := Option.some.inj ((announced.named uuid call found).symm.trans noted)
      exact ⟨call, found, rfl, rfl⟩
    · rintro ⟨call, found, same, _⟩
      exact ⟨opened.uuid, call, found, same⟩
  have running : s.Active session opened ∨ s.Excused session →
      dialogue.phase s.queue session = some .running := by
    intro goesOn
    by_cases isActive : s.Active session opened
    · obtain ⟨uuid, call, found, rfl⟩ := active.mpr isActive
      exact (announced.active uuid call found).1
    · refine (announced.past session earlier fun uuid call found same => ?_).elim And.left
        fun ended => absurd (goesOn.resolve_left isActive) ended.2
      exact isActive (active.mp ⟨uuid, call, found, same⟩)
  have ended : ¬ s.Active session opened → ¬ s.Excused session →
      dialogue.phase s.queue session = some .ended := by
    intro inactive unexcused
    refine (announced.past session earlier fun uuid call found same => ?_).elim
      (fun running => absurd running.2 unexcused) And.left
    exact inactive (active.mp ⟨uuid, call, found, same⟩)
  refine ⟨?_, fun goesOn => (open_of_running (running goesOn)).2,
    fun inactive unexcused => closed_of_ended (ended inactive unexcused)⟩
  by_cases goesOn : s.Active session opened ∨ s.Excused session
  · exact (open_of_running (running goesOn)).1
  · obtain ⟨inactive, unexcused⟩ := not_or.mp goesOn
    obtain ⟨before, last, after, whole, _, _, ⟨first, member, opens⟩, _⟩ :=
      closed_of_ended (ended inactive unexcused)
    exact ⟨first, whole ▸ List.mem_append_left _ member, opens⟩

theorem ulForwarded_loseFloor (s : BrewEntity) (callId ts : Nat) :
    (s.loseFloor callId ts).ulForwarded = s.ulForwarded := by
  unfold loseFloor
  split <;> rfl

/-- A permitted step takes a session from its slot only when the floor of its call is released. -/
theorem released_by {event : BrewEntityEvent} (permit : permits setting s event = true)
    (stepped : step setting s event = some next) {fwd : UlForwardedCall}
    (found : s.ulForwarded.lookup ts = some fwd) (gone : next.ulForwarded.lookup ts = none) :
    event = .floorReleased fwd.callId ts := by
  have kept : next.ulForwarded = s.ulForwarded → event = .floorReleased fwd.callId ts :=
    fun same => nomatch (same ▸ gone).symm.trans found
  have inserted : ∀ {other changed}, next.ulForwarded = s.ulForwarded.insert other changed →
      event = .floorReleased fwd.callId ts := by
    intro other changed same
    rw [same, lookup_insert_eq] at gone
    split at gone
    · cases gone
    · exact nomatch gone.symm.trans found
  cases event <;> cases stepped
  case connected => exact kept rfl
  case disconnected => exact kept rfl
  case groupCallStart uuid sourceIssi destGssi priority =>
    refine kept ?_
    unfold handleGroupCallStart
    split
    · split <;> rfl
    · unfold evictStale
      split <;> rfl
  case groupCallEnd => exact kept (beside_handleGroupCallEnd ..).ulForwarded
  case voiceFrame => exact kept (beside_handleVoiceFrame ..).ulForwarded
  case tick => exact kept (beside_tick ..).ulForwarded
  case ulVoice other acelpBits =>
    cases here : s.ulForwarded.lookup other with
    | none =>
      refine kept ?_
      unfold handleUlVoice
      rw [here]
    | some old =>
      refine @inserted other { old with frameCount := old.frameCount + 1 } ?_
      unfold handleUlVoice
      rw [here]
      dsimp only
      split <;> rfl
  case floorGranted callId sourceIssi destGssi other =>
    by_cases ignored : (!s.connected || !setting.isBrewIssiRoutable sourceIssi) = true
    · refine kept ?_
      unfold handleLocalCallStart
      rw [if_pos ignored]
      rfl
    · cases here : s.ulForwarded.lookup other with
      | none =>
        refine @inserted other
          ⟨setting.newV4 s.generated, callId, sourceIssi, destGssi, 0, s.generated⟩ ?_
        unfold handleLocalCallStart
        rw [if_neg ignored, here]
        rfl
      | some old =>
        refine @inserted other ⟨old.uuid, callId, sourceIssi, destGssi, 0, old.session⟩ ?_
        unfold handleLocalCallStart
        rw [if_neg ignored, here]
        rfl
  case floorReleased callId other =>
    unfold permits at permit
    cases here : s.ulForwarded.lookup other with
    | none =>
      refine kept ?_
      unfold handleLocalCallTxStopped
      rw [here]
      exact ulForwarded_loseFloor ..
    | some old =>
      have closes : (s.handleLocalCallTxStopped callId other).ulForwarded =
          s.ulForwarded.erase other := by
        unfold handleLocalCallTxStopped
        rw [here]
        exact congrArg (AList.erase other) (ulForwarded_loseFloor ..)
      rw [closes, lookup_erase_eq] at gone
      split at gone
      · obtain rfl := ‹ts = other›
        obtain rfl := some.inj (here.symm.trans found)
        dsimp only at permit
        rw [here] at permit
        rw [show old.callId = callId from of_decide_eq_true permit]
      · exact nomatch gone.symm.trans found
  case callEnded callId other =>
    have free : s.ulForwarded.lookup other = none := isNone_iff_eq_none.mp permit
    have closes : (s.handleLocalCallEnd callId other).ulForwarded = s.ulForwarded.erase other :=
      congrArg (AList.erase other) (ulForwarded_loseFloor ..)
    rw [closes, lookup_erase_eq] at gone
    split at gone
    · exact nomatch (‹ts = other› ▸ free).symm.trans found
    · exact nomatch gone.symm.trans found
  case networkCallEnd uuid =>
    refine kept ?_
    unfold dropNetworkCall
    split
    · rfl
    · split <;> rfl
  case networkCallReady => exact kept rfl

/-- **Sessions are opened and closed in pairs.** In every state that permitted steps reach, an uplink
session was announced, and its floor is held, or it was closed exactly once, after all else; every
command belongs to an uplink session; and a session leaves its slot only when the floor of its call is
released. A downlink session was announced, and goes on, or was ended by call control or a later
session of its group, or its end was told exactly once, after all else. A group has at most one session
that goes on, and only such sessions have a playout buffer. -/
theorem sessions_paired (setting : BrewSetting) (injective : Function.Injective setting.newV4)
    (reachable : Reachable (machine setting) (fun s event => permits setting s event = true) s) :
    (∀ session < s.generated, s.UplinkPaired session (setting.newV4 session)) ∧
    (∀ command ∈ s.commands, ∃ session < s.generated, command.uuid = setting.newV4 session) ∧
    (∀ event next, permits setting s event = true → step setting s event = some next →
      ∀ ts fwd, s.ulForwarded.lookup ts = some fwd → next.ulForwarded.lookup ts = none →
        event = .floorReleased fwd.callId ts) ∧
    (∀ session opened, s.sessions[session]? = some opened → s.DownlinkPaired session opened) ∧
    (∀ message ∈ s.queue, message.Fits s.sessions) ∧ s.Replaced ∧
    (∀ uuid other call another, s.activeCalls.lookup uuid = some call →
      s.activeCalls.lookup other = some another → call.destGssi = another.destGssi → uuid = other) ∧
    ∀ uuid, (s.dlJitter.lookup uuid).isSome → (s.activeCalls.lookup uuid).isSome := by
  have sound : s.Sound setting := reachable.invariant (fun _ => sound_start)
    fun state event next sound permit stepped => sound_step injective sound event permit stepped
  refine ⟨fun session earlier => sound.forwarded.paired earlier, sound.forwarded.fits, ?_,
    fun session opened noted => sound.announced.paired noted, sound.announced.fits, sound.replaced,
    sound.announced.perGroup, sound.announced.buffered⟩
  exact fun event next permit stepped ts fwd found gone => released_by permit stepped found gone

/-- Identifiers that count up, and a network that takes every speaker. -/
def countingSetting : BrewSetting := ⟨id, 0, fun _ => true⟩

theorem new_start : (machine countingSetting).start (new ⟨1, 1, 1, 0⟩) := ⟨_, rfl⟩

/-- A speaker of the cell and a speaker of the network, one after the other. -/
theorem sessions_paired_closed : ∃ s : BrewEntity,
    s.generated = 1 ∧ s.sessions = [⟨7, 100⟩] ∧ ¬ s.Held 0 ∧
    BrewCommand.dialogue.Closed s.commands 0 ∧ s.DownlinkPaired 0 ⟨7, 100⟩ := by
  obtain ⟨s, executed, good⟩ := (any_eq_true _ _).mp
    (show (execPermitted (machine countingSetting) (permits countingSetting) (new ⟨1, 1, 1, 0⟩)
      [.connected, .floorGranted 5 1001 200 2, .groupCallStart 7 2002 100 0,
        .networkCallReady 7 6 3 1, .ulVoice 2 (List.replicate 35 0), .floorReleased 5 2,
        .callEnded 5 2, .groupCallEnd 7 0]).any
      (fun s => decide (s.generated = 1 ∧ s.sessions = [⟨7, 100⟩] ∧ s.floors.entries = [])) = true by
        decide +kernel)
  obtain ⟨generated, noted, free⟩ := of_decide_eq_true good
  have run := execPermitted_runs (fun _ _ permit => permit) executed
  have unheld : ¬ s.Held 0 := by
    rintro ⟨ts, floor, holds, _⟩
    exact nomatch free ▸ mem_entries.mpr holds
  have paired := sessions_paired countingSetting Function.injective_id ⟨_, new_start, run⟩
  exact ⟨s, generated, noted, unheld, (paired.1 0 (generated ▸ one_pos)).closed unheld,
    paired.2.2.2.1 0 _ (by rw [noted]; rfl)⟩

/-- **A call that ends with its floor held leaves its session open** on the network; and the release of
another call's floor closes the session of the call that has the slot. -/
theorem left_open_by_callEnded :
    (∃ s, Reachable (machine countingSetting) always s ∧ s.floors.entries = [] ∧
      s.ulForwarded.entries = [] ∧ s.commands = [.sendGroupTx 0 1001 200 0 0] ∧
      ¬ s.Held 0 ∧ ¬ s.UplinkPaired 0 0) ∧
    ∃ s, Reachable (machine countingSetting) always s ∧ s.Held 0 ∧
      s.commands = [.sendGroupTx 0 1001 200 0 0, .sendGroupIdle 0 0] := by
  constructor
  · obtain ⟨s, run, free, forgotten, said⟩ := reachable_exec (fun s => s.floors.entries = [] ∧
      s.ulForwarded.entries = [] ∧ s.commands = [.sendGroupTx 0 1001 200 0 0])
      [.connected, .floorGranted 5 1001 200 2, .callEnded 5 2] new_start (by decide +kernel)
    have unheld : ¬ s.Held 0 := by
      rintro ⟨ts, floor, holds, _⟩
      exact nomatch free ▸ mem_entries.mpr holds
    refine ⟨s, run, free, forgotten, said, unheld, fun paired => ?_⟩
    obtain ⟨before, last, after, whole, _, closes, _⟩ := paired.closed unheld
    have member : last ∈ s.commands := whole ▸ mem_append_right _ mem_cons_self
    rw [said, mem_singleton] at member
    exact nomatch member ▸ closes
  · obtain ⟨s, run, holds, said⟩ := reachable_exec (fun s =>
      s.floors.lookup 2 = some ⟨5, 1001, 200, some 0⟩ ∧
        s.commands = [.sendGroupTx 0 1001 200 0 0, .sendGroupIdle 0 0])
      [.connected, .floorGranted 5 1001 200 2, .floorReleased 6 2] new_start (by decide +kernel)
    exact ⟨s, run, ⟨2, _, holds, rfl⟩, said⟩

end BrewEntity

end Bluestation
