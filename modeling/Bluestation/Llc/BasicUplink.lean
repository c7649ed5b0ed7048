/-
**Basic-link data of a terminal, as it is passed up.**

A terminal numbers its messages; it repeats the present one, with the same sequence number, until it
goes on to the next. The layer keeps no receive state for a terminal: whatever passes the checks is
acknowledged and passed up.

* `passed_up_once_iff` — every attempt is acknowledged and passed up; a message is passed up once
  exactly if no second attempt at it was taken up.
* `repeat_passed_up` — a message whose acknowledgement was lost is passed up again.
-/

import Bluestation.Llc.BasicAcks

namespace Bluestation

open Bits Machines List Option BasicLlc

namespace BasicUplink

variable {Key : Type}

/-- A message of a terminal: its number in the order in which the terminal sends. -/
structure Sent where
  ssi : Nat
  index : Nat
deriving DecidableEq

def Sent.ns (sent : Sent) : Nat := sent.index % 2

/-- The layer, the message each terminal is at, the attempts that were taken up, and what was passed
up of them. -/
structure State (Key : Type) where
  llc : BasicLlc Key
  current : Nat → Nat
  takenUp : List Sent
  passedUp : List (Sent × TlDataInd Key)

inductive Event (Key : Type) where
  /-- A block of a terminal is received: an attempt at its present message, or something else. -/
  | receive (config : SharedConfig) (prim : BasicLlc.TmaUnitdataInd Key)
  /-- The terminal goes on to its next message. -/
  | proceed (ssi : Nat)
  /-- What else happens to the layer. -/
  | tickStart (time : TdmaTime)
  | request (config : SharedConfig) (prim : BasicLlc.TlDataReqBl Key)
  | macReport (message position : Nat) (transmitted : Bool)
  | macReportStray (index : Nat) (transmitted : Bool)
  | tickEnd (config : SharedConfig)

section

variable [DecidableEq Key] (fields : Sent → List Bool)

def State.plain (state : State Key) (event : BasicEvent Key) : Option (State Key) :=
  (state.llc.handle event).toOption.map fun llc => { state with llc }

/-- An attempt that was taken up, with what the layer has passed up since. -/
def State.attempt (state : State Key) (event : BasicEvent Key) (sent : Sent) : Option (State Key) :=
  (state.llc.handle event).toOption.map fun llc =>
    { state with
      llc
      takenUp := state.takenUp ++ [sent]
      passedUp := state.passedUp ++ (llc.toMle.drop state.llc.toMle.length).map (sent, ·) }

/-- One event; `fields` are what the terminals' messages carry. -/
def step (state : State Key) : Event Key → Option (State Key)
  | .receive config prim =>
    match state.llc.takeUp config prim with
    | .ok (some (_, header, pdu)) =>
      match header.ns with
      | none => state.plain (.unitdataInd config prim)
      | some ns =>
        let sent := ⟨prim.mainAddress.ssi, state.current prim.mainAddress.ssi⟩
        if ns = sent.ns ∧ pdu.unread = fields sent then
          state.attempt (.unitdataInd config prim) sent
        else none
    | _ => state.plain (.unitdataInd config prim)
  | .proceed ssi =>
    some { state with current := Function.update state.current ssi (state.current ssi + 1) }
  | .tickStart time => state.plain (.tickStart time)
  | .request config prim => state.plain (.request config prim)
  | .macReport message position transmitted =>
    state.plain (.macReport message position transmitted)
  | .macReportStray index transmitted => state.plain (.macReportStray index transmitted)
  | .tickEnd config => state.plain (.tickEnd config)

def init (now : TdmaTime) : State Key := ⟨.new now, fun _ => 0, [], []⟩

def machine : Machine (State Key) (Event Key) where
  start state := ∃ now, state = init now
  step := step fields

end

/-- What is passed up is the message, from its terminal, as acknowledged data. -/
structure Carries (fields : Sent → List Bool) (sent : Sent) (ind : TlDataInd Key) : Prop where
  acknowledged : ind.acknowledged = true
  terminal : ind.mainAddress.ssi = sent.ssi
  field : ind.tlSdu.getD [] = fields sent

/-- **Every message that was taken up is passed up once.** -/
def State.Once [DecidableEq Key] (state : State Key) : Prop :=
  ∀ sent ∈ state.takenUp, ∃ ind, state.passedUp.filter (·.1 = sent) = [(sent, ind)]

/-! ### One attempt -/

section

variable [DecidableEq Key] {config : SharedConfig} {llc next : BasicLlc Key}

omit [DecidableEq Key] in
theorem scheduleFor_toMle (llc : BasicLlc Key) (prim : BasicLlc.TmaUnitdataInd Key)
    (ns : Option Nat) : (llc.scheduleFor prim ns).toMle = llc.toMle := by
  cases ns <;> rfl

variable {prim : BasicLlc.TmaUnitdataInd Key} {header : BlHeader} {pduType : LlcPduType}

theorem accept_toMle (accepted : llc.accept prim header = .ok next) : next.toMle = llc.toMle := by
  unfold accept at accepted
  split at accepted
  · rw [← scheduleFor_toMle llc prim header.ns]
    rcases processIncomingAck_cases accepted with ⟨-, rfl⟩ | ⟨ack, rest, -, ⟨-, rfl⟩ | ⟨-, rfl⟩⟩
    · rfl
    · rfl
    · rfl
  · cases accepted
    exact scheduleFor_toMle llc prim header.ns

theorem isData_of_ns {pdu rest : BitBuffer} {ns : Nat}
    (parsed : BlHeader.fromBitbuf pduType pdu = .ok (header, rest)) (numbered : header.ns = some ns) :
    pduType ∉ [.blAck, .blAckFcs, .blUdata, .blUdataFcs] := by
  intro member
  simp only [mem_cons, not_mem_nil, or_false] at member
  rcases member with rfl | rfl | rfl | rfl
  all_goals
    obtain ⟨⟨_, _⟩, -, made⟩ := bind_eq_ok.mp parsed
    cases made
    contradiction

omit [DecidableEq Key] in
/-- What `takeUp` finds is what the header of the PDU was read from. -/
theorem fromBitbuf_of_takeUp {rest : BitBuffer}
    (taken : llc.takeUp config prim = .ok (some (pduType, header, rest))) :
    ∃ pdu, BlHeader.fromBitbuf pduType pdu = .ok (header, rest) := by
  unfold takeUp at taken
  split at taken
  · contradiction
  split at taken
  · cases taken
  split at taken
  · obtain ⟨passed, screened, made⟩ := bind_eq_ok.mp taken
    cases passed with
    | none => cases made
    | some both =>
      cases made
      unfold screen at screened
      split at screened
      · cases screened
      · cases screened
      next parsed =>
        -- whether the check sequence is there or not, the header that is read is the result
        have result : ∀ {valid : Bool} {found : BlHeader} {behind : BitBuffer} {refused : Bool},
            (if (!valid) = true then Except.ok none
              else if refused = true then Except.ok none
              else Except.ok (some (found, behind)) :
              Except Fault (Option (BlHeader × BitBuffer))) = .ok (some (header, rest)) →
            (found, behind) = (header, rest) := by
          intro valid found behind refused made
          split at made
          · cases made
          split at made
          · cases made
          exact some_inj.mp (Except.ok.inj made)
        dsimp only at screened
        split at screened
        · obtain ⟨valid, -, made⟩ := bind_eq_ok.mp screened
          rw [result made] at parsed
          exact ⟨_, parsed⟩
        · obtain ⟨valid, -, made⟩ := bind_eq_ok.mp screened
          rw [result made] at parsed
          exact ⟨_, parsed⟩
  · cases taken

/-- **Data that is taken up is passed up**, and acknowledged. -/
theorem data_passed {pdu : BitBuffer} {ns : Nat}
    (taken : llc.takeUp config prim = .ok (some (pduType, header, pdu)))
    (numbered : header.ns = some ns) (ran : llc.handle (.unitdataInd config prim) = .ok next) :
    (∃ ind : TlDataInd Key, next.toMle = llc.toMle ++ [ind] ∧ ind.acknowledged = true ∧
      ind.mainAddress = prim.mainAddress ∧ ind.tlSdu.getD [] = pdu.unread) ∧
    ∃ received : Received Key, next.received = llc.received ++ [received] ∧
      received.addr = prim.mainAddress ∧ received.ns = ns := by
  constructor
  · obtain ⟨again, takes, ran⟩ := bind_eq_ok.mp ran
    cases taken.symm.trans takes
    obtain ⟨accepted, accepts, made⟩ := bind_eq_ok.mp ran
    cases made
    obtain ⟨original, parsed⟩ := fromBitbuf_of_takeUp taken
    have data := isData_of_ns parsed numbered
    simp only [mem_cons, not_or] at data
    obtain ⟨notAck, notAckFcs, notUdata, notUdataFcs⟩ := data
    unfold deliver
    rw [if_neg fun both => both.1.elim notAck notAckFcs, accept_toMle accepts]
    refine ⟨_, rfl, ?_, rfl, ?_⟩
    · simp [notUdata, notUdataFcs]
    · split
      · rfl
      next empty =>
        have length := pdu.length_unread_le
        unfold BitBuffer.getLenRemaining at empty
        have none : pdu.unread = [] := length_eq_zero_iff.mp (by omega)
        rw [none]
        rfl
  · have grown := received_step ran
    unfold asks at grown
    dsimp only at grown
    rw [taken] at grown
    dsimp only at grown
    rw [numbered] at grown
    exact ⟨_, grown, rfl, rfl⟩

end

/-! ### Whole runs -/

section

variable [DecidableEq Key] {fields : Sent → List Bool}

/-- What every step keeps. -/
structure Sound (fields : Sent → List Bool) (state : State Key) : Prop where
  each : state.passedUp.map (·.1) = state.takenUp
  asked : state.llc.received.map (fun asked => (asked.addr.ssi, asked.ns)) =
    state.takenUp.map fun sent => (sent.ssi, sent.ns)
  carries : ∀ entry ∈ state.passedUp, Carries fields entry.1 entry.2

variable {state next : State Key}

theorem Sound.plain (sound : Sound fields state) {event : BasicEvent Key}
    (silent : state.llc.asks event = none) (ran : state.plain event = some next) :
    Sound fields next := by
  obtain ⟨llc, handled, rfl⟩ := map_eq_some_iff.mp ran
  have grown := received_step (handle_of_step handled)
  rw [silent, toList_none, append_nil] at grown
  refine ⟨sound.each, ?_, sound.carries⟩
  rw [grown]
  exact sound.asked

/-- **An attempt that is taken up is passed up.** -/
theorem Sound.attempt (sound : Sound fields state) {config : SharedConfig}
    {prim : BasicLlc.TmaUnitdataInd Key} {pduType : LlcPduType} {header : BlHeader} {pdu : BitBuffer}
    {ns : Nat} {sent : Sent}
    (taken : state.llc.takeUp config prim = .ok (some (pduType, header, pdu)))
    (numbered : header.ns = some ns) (terminal : prim.mainAddress.ssi = sent.ssi)
    (number : ns = sent.ns) (carried : pdu.unread = fields sent)
    (ran : state.attempt (.unitdataInd config prim) sent = some next) : Sound fields next := by
  obtain ⟨llc, handled, rfl⟩ := map_eq_some_iff.mp ran
  have handled : state.llc.handle (.unitdataInd config prim) = .ok llc := handle_of_step handled
  obtain ⟨⟨ind, passed, acknowledged, address, field⟩, received, asked, asker, asks⟩ :=
    data_passed taken numbered handled
  have new : llc.toMle.drop state.llc.toMle.length = [ind] := by
    rw [passed, drop_left]
  refine ⟨?_, ?_, fun entry member => ?_⟩
  · rw [new, map_append, sound.each]
    rfl
  · rw [asked, map_append, map_append, sound.asked, map_singleton, asker, asks, terminal, number]
    rfl
  · rw [new] at member
    rcases mem_append.mp member with before | now
    · exact sound.carries entry before
    · rw [mem_singleton.mp now]
      exact ⟨acknowledged, (congrArg TetraAddress.ssi address).trans terminal, field.trans carried⟩

theorem sound_step {event : Event Key} (sound : Sound fields state)
    (stepped : step fields state event = some next) : Sound fields next := by
  cases event with
  | receive config prim =>
    unfold step at stepped
    dsimp only at stepped
    split at stepped
    next pduType header pdu taken =>
      split at stepped
      next unnumbered =>
        refine sound.plain ?_ stepped
        unfold asks
        dsimp only
        rw [taken]
        dsimp only
        rw [unnumbered, map_none]
      next ns numbered =>
        obtain ⟨⟨number, carried⟩, stepped⟩ := ite_none_right_eq_some.mp stepped
        exact sound.attempt taken numbered rfl number carried stepped
    next untaken =>
      refine sound.plain ?_ stepped
      unfold asks
      dsimp only
      split
      next pduType header pdu taken =>
        exact absurd taken (untaken pduType header pdu)
      · rfl
  | proceed ssi =>
    cases stepped
    exact ⟨sound.each, sound.asked, sound.carries⟩
  | tickStart time => exact sound.plain rfl stepped
  | request config prim => exact sound.plain rfl stepped
  | macReport message position transmitted => exact sound.plain rfl stepped
  | macReportStray index transmitted => exact sound.plain rfl stepped
  | tickEnd config => exact sound.plain rfl stepped

theorem reachable_sound (reachable : Reachable (machine fields) always state) :
    Sound fields state := by
  refine reachable.invariant (fun first started => ?_)
    fun _ _ _ sound _ stepped => sound_step sound stepped
  obtain ⟨now, rfl⟩ := started
  exact ⟨rfl, rfl, fun _ member => (nomatch member)⟩

/-- Passed up once is taken up once. -/
theorem Sound.once_iff (sound : Sound fields state) : state.Once ↔ state.takenUp.Nodup := by
  have counted : ∀ sent, (state.passedUp.filter (·.1 = sent)).length = state.takenUp.count sent := by
    intro sent
    rw [← sound.each, List.count, countP_map, countP_eq_length_filter]
    congr 1
  rw [nodup_iff_count_le_one]
  constructor
  · intro once sent
    by_cases member : sent ∈ state.takenUp
    · obtain ⟨ind, only⟩ := once sent member
      rw [← counted, only]
      exact le_rfl
    · rw [count_eq_zero_of_not_mem member]
      exact Nat.zero_le 1
  · intro single sent member
    have one : (state.passedUp.filter (·.1 = sent)).length = 1 := by
      rw [counted]
      exact le_antisymm (single sent) (count_pos_iff.mpr member)
    obtain ⟨entry, only⟩ := length_eq_one_iff.mp one
    have inside : entry ∈ state.passedUp.filter (·.1 = sent) := by
      rw [only]
      exact mem_singleton_self entry
    have is : entry.1 = sent := of_decide_eq_true (mem_filter.mp inside).2
    exact ⟨entry.2, by rw [only, ← is]⟩

/-- **What is passed up of a terminal's messages.** In every run each attempt that is taken up is
passed up as the message it carries, and acknowledged with its number; so every message is passed up once exactly if no second attempt
at a message was taken up. -/
theorem passed_up_once_iff {state : State Key}
    (reachable : Reachable (machine fields) always state) :
    state.passedUp.map (·.1) = state.takenUp ∧
      (∀ entry ∈ state.passedUp, Carries fields entry.1 entry.2) ∧
      state.llc.received.map (fun asked => (asked.addr.ssi, asked.ns)) =
        state.takenUp.map (fun sent => (sent.ssi, sent.ns)) ∧
      (state.Once ↔ state.takenUp.Nodup) := by
  have sound := reachable_sound reachable
  exact ⟨sound.each, sound.carries, sound.asked, sound.once_iff⟩

end

/-! ### A message that is repeated -/

def callSetup (_ : Sent) : List Bool := [false, true, false]

theorem passed_up_once_iff_single : ∃ state : State Unit,
    state.takenUp = [⟨1001, 0⟩, ⟨1001, 1⟩] ∧ state.Once := by
  obtain ⟨state, reached, taken⟩ := reachable_exec
    (fun state : State Unit => state.takenUp = [⟨1001, 0⟩, ⟨1001, 1⟩])
    [.receive openCell clearData, .tickEnd openCell, .proceed 1001,
      .receive openCell { clearData with
        pdu := some (.ofBits ((BlData.mk false 1).wire ++ [false, true, false])) }]
    (show (machine callSetup).start (init ⟨3, 1, 1, 0⟩) from ⟨_, rfl⟩) (by decide +kernel)
  refine ⟨state, taken, (passed_up_once_iff reached).2.2.2.mpr ?_⟩
  rw [taken]
  decide

/-- **A repeated message is passed up again.** The terminal has not heard the acknowledgement and
repeats its message with the same sequence number. -/
theorem repeat_passed_up : ∃ state : State Unit,
    Reachable (machine callSetup) always state ∧ state.takenUp = [⟨1001, 0⟩, ⟨1001, 0⟩] ∧
      state.llc.toMle.length = 2 ∧ ¬ state.Once := by
  obtain ⟨state, reached, taken, passed, twice⟩ := reachable_exec
    (fun state : State Unit => state.takenUp = [⟨1001, 0⟩, ⟨1001, 0⟩] ∧
      state.llc.toMle.length = 2 ∧ (state.passedUp.filter (·.1 = ⟨1001, 0⟩)).length = 2)
    [.receive openCell clearData, .tickEnd openCell, .receive openCell clearData]
    (show (machine callSetup).start (init ⟨3, 1, 1, 0⟩) from ⟨_, rfl⟩) (by decide +kernel)
  refine ⟨state, reached, taken, passed, fun once => ?_⟩
  obtain ⟨ind, only⟩ := once ⟨1001, 0⟩ (by rw [taken]; exact mem_cons_self)
  rw [only] at twice
  simp at twice

end BasicUplink

end Bluestation
