/-
**Every job of dynamic group number assignment is answered once.**

* `DgnaRun.permits` — no command takes the place of another one that waits, and a part of several
  has a number.
* `DgnaRun.answered_once` — **main result**: the results of every run of permitted steps.
* `DgnaRun.first_job_pushed_out` — the first of two commands for the same group is never answered.
-/

import Bluestation.Lib.History
import Bluestation.Cmce.DgnaLedger

namespace Bluestation

open Machines Bits SsBs

namespace SsBs

variable {s next : SsBs} {air : List OnAir} {number : Nat} {command : DgnaCommand} {key : DgnaKey}
  {pending : PendingDgna} {cell : SsCell}

/-! ### The operations keep the files -/

section

variable (filed : s.Filed air)

include filed

/-- A result of a command is handed to the network. -/
theorem Filed.submit {message : SsSubmission} (fits : s.Fits message) :
    (s.submit message).Filed air := by
  refine filed.mono (.same rfl rfl) ?_ (fun other member => ?_) (fun _ _ found => .inl found)
    fun _ _ found => .inl found
  · show (s.swmi.map _).isSome = true
    rw [Option.isSome_map]
    exact filed.channel
  · rw [told_submit s message filed.channel, List.mem_append, List.mem_singleton] at member
    rcases member with old | rfl
    · exact .inl old
    · exact .inr (fits.mono (@Grows.same s (s.submit _) rfl rfl))

theorem Filed.sendFacility (issi : Nat) (sdu : List Bool) (associated : Option AssociatedChannel)
    (commandOf : Option Nat) : (s.sendFacility issi sdu associated commandOf).Filed air :=
  filed.mono ⟨List.prefix_rfl, List.prefix_append _ _⟩ filed.channel (fun _ member => .inl member)
    (fun _ _ found => .inl found) fun _ _ found => .inl found

theorem Filed.note (command : DgnaCommand) : (s.note command).Filed air :=
  filed.mono ⟨List.prefix_append _ _, List.prefix_rfl⟩ filed.channel (fun _ member => .inl member)
    (fun _ _ found => .inl found) fun _ _ found => .inl found

theorem Filed.undefer (jobId : Nat) : (s.undefer jobId).Filed air := by
  refine filed.mono (.same rfl rfl) filed.channel (fun _ member => .inl member)
    (fun other deferred found => .inl ?_) fun _ _ found => .inl found
  change (s.deferredUntilRegistered.erase jobId).lookup other = some deferred at found
  rw [Table.lookup_erase_eq] at found
  exact (Option.ite_none_left_eq_some.mp found).2

theorem Filed.forget (key : DgnaKey) : (s.forget key).Filed air := by
  refine filed.mono (.same rfl rfl) filed.channel (fun _ member => .inl member)
    (fun _ _ found => .inl found) fun other pending found => .inl ?_
  change (s.pending.erase key).lookup other = some pending at found
  rw [Dictionary.lookup_erase] at found
  exact (Option.ite_none_left_eq_some.mp found).2

theorem Filed.defer (noted : s.commands[number]? = some command) :
    (s.defer number command).Filed air := by
  refine filed.mono (.same rfl rfl) filed.channel (fun _ member => .inl member)
    (fun jobId deferred found => ?_) fun _ _ found => .inl found
  change (s.deferredUntilRegistered.insert command.jobId ⟨command, number⟩).lookup jobId =
    some deferred at found
  rw [Table.lookup_insert_eq] at found
  by_cases same : jobId = command.jobId
  · rw [if_pos same] at found
    cases found
    exact .inr ⟨noted, same.symm⟩
  · rw [if_neg same] at found
    exact .inl found

/-- One more command waits for an answer, or one has got another part. -/
theorem Filed.await (sent : s.Sent key pending)
    (early : ∀ message ∈ air, message.answers key = true → pending.queuedAt < message.sentAfter) :
    (s.await key pending).Filed air := by
  refine filed.mono (.same rfl rfl) filed.channel (fun _ member => .inl member)
    (fun _ _ found => .inl found) fun other waiting found => ?_
  change (s.pending.insert key pending).lookup other = some waiting at found
  rw [Dictionary.lookup_insert] at found
  by_cases same : other = key
  · rw [if_pos same] at found
    cases found
    subst same
    exact .inr ⟨sent.mono (@Grows.same s _ rfl rfl), early⟩
  · rw [if_neg same] at found
    exact .inl found

/-! ### Commands -/

/-- A command takes the place of no other one, and no answer to it is on the air yet. -/
def admits (air : List OnAir) (cell : SsCell) (s : SsBs) (command : DgnaCommand) : Bool :=
  if cell.terminalReadyForDgna command.itsi then
    let key := (command.itsi, command.action, command.gssi)
    (commandSdu cell command).isNone ||
      ((s.pending.lookup key).isNone && air.all fun message => !message.answers key)
  else (s.deferredUntilRegistered.lookup command.jobId).isNone

/-- **A command in hand is answered at once, held back, or queued.** -/
theorem Filed.handle (hand : s.docket.InHand (fun _ => 1) number)
    (noted : s.commands[number]? = some command) (admitted : s.admits air cell command = true) :
    (s.handleDgnaCommand cell number command).Sound air := by
  unfold admits at admitted
  unfold handleDgnaCommand
  by_cases ready : cell.terminalReadyForDgna command.itsi = true
  · rw [if_pos ready] at admitted ⊢
    unfold startDgna
    cases sdu : commandSdu cell command with
    | none =>
      refine ⟨filed.submit ⟨command, noted, rfl, rfl, rfl, .unsent⟩, ?_⟩
      rw [docket_submit s _ filed.channel]
      exact hand.answer
    | some sdu' =>
      rw [sdu, Option.isNone_some, Bool.false_or, Bool.and_eq_true, Option.isNone_iff_eq_none,
        List.all_eq_true] at admitted
      obtain ⟨free, silent⟩ := admitted
      let key' : DgnaKey := (command.itsi, command.action, command.gssi)
      let waits : PendingDgna := ⟨command.jobId, [], none, number, s.queue.length, []⟩
      show ((s.sendFacility command.itsi sdu' none (some number)).await key' waits).Sound air
      refine ⟨(filed.sendFacility ..).await ⟨⟨command, noted, rfl, rfl⟩, ⟨?_, ?_⟩, ?_⟩ ?_, ?_⟩
      · refine ⟨_, List.getElem?_concat_length, rfl, rfl⟩
      · exact List.forall_mem_nil _
      · exact ⟨List.forall_mem_nil _, rfl, rfl, rfl⟩
      · intro message member answers
        have never := silent message member
        rw [answers] at never
        cases never
      · rw [docket_await]
        refine hand.put ?_
        show (s.pending.lookup key').map (·.number) = none
        rw [free]
        rfl
  · rw [if_neg ready] at admitted ⊢
    refine ⟨filed.defer noted, ?_⟩
    rw [docket_defer]
    refine hand.put ?_
    show (s.deferredUntilRegistered.lookup command.jobId).map (·.number) = none
    rw [Option.isNone_iff_eq_none.mp admitted]
    rfl

end

theorem Sound.dgnaCommand (sound : s.Sound air)
    (admitted : 0x00ffffff < command.itsi ∨ s.admits air cell command = true) :
    (s.dgnaCommand cell command).Sound air := by
  unfold SsBs.dgnaCommand
  by_cases tooLarge : 0x00ffffff < command.itsi
  · rw [if_pos tooLarge]
    exact sound
  · rw [if_neg tooLarge]
    refine (sound.filed.note command).handle ?_ List.getElem?_concat_length
      (admitted.resolve_left tooLarge)
    rw [docket_note]
    exact sound.balanced.draw

/-- A command that was held back takes the place of no other one. -/
def admitsRelease (air : List OnAir) (cell : SsCell) (s : SsBs) (jobId : Nat) : Bool :=
  (s.deferredUntilRegistered.lookup jobId).all fun deferred =>
    (s.undefer jobId).admits air cell deferred.command

/-- A command that was held back is in hand. -/
theorem Sound.release (sound : s.Sound air) (jobId : Nat)
    (admitted : s.admitsRelease air cell jobId = true) : (s.release cell jobId).Sound air := by
  unfold admitsRelease at admitted
  unfold SsBs.release
  cases found : s.deferredUntilRegistered.lookup jobId with
  | none => exact sound
  | some deferred =>
    rw [found] at admitted
    refine (sound.filed.undefer jobId).handle ?_ (sound.filed.held jobId deferred found).1 admitted
    rw [docket_undefer]
    refine sound.balanced.lift ?_
    show (s.deferredUntilRegistered.lookup jobId).map (·.number) = some deferred.number
    rw [found]
    rfl

/-! ### Answers -/

/-- An answer that closes a command. -/
theorem Sound.settle (sound : s.Sound air) (found : s.pending.lookup key = some pending)
    (closed : PendingDgna) (same : closed.number = pending.number ∧ closed.jobId = pending.jobId ∧
      closed.queuedAt = pending.queuedAt) {success : Bool} {cause : Nat}
    {groups : List DgnaObservedGroup}
    (source : ∀ command, key = (command.itsi, command.action, command.gssi) →
      s.Source pending.number command (some pending.queuedAt) closed.answers success cause groups) :
    ((s.forget key).sendResult closed key.1 key.2.1 success cause groups).Sound air := by
  obtain ⟨number, jobId, queuedAt⟩ := same
  obtain ⟨command, noted, job, rfl⟩ := (sound.filed.sent key pending found).command
  have forgets := sound.filed.forget (command.itsi, command.action, command.gssi)
  unfold sendResult
  refine ⟨forgets.submit ⟨command, ?_, job.trans jobId.symm, rfl, rfl, ?_⟩, ?_⟩
  · rw [number]
    exact noted
  · rw [number, queuedAt]
    exact (source command rfl).mono (@Grows.same s (s.forget _) rfl rfl)
  · rw [docket_submit _ _ forgets.channel, docket_forget]
    rw [number]
    refine (sound.balanced.lift ?_).answer
    show (s.pending.lookup _).map (·.number) = some pending.number
    rw [found]
    rfl

/-- One more answer was heard. -/
theorem Filed.heard (filed : s.Filed air) (found : s.pending.lookup key = some pending)
    {answer : DgnaAnswer} (issi : answer.issi = key.1) (late : pending.queuedAt < answer.sentAfter) :
    s.Heard pending.number pending.queuedAt key.1 (pending.answers ++ [answer]) := by
  obtain ⟨placed, earlier⟩ := (filed.sent key pending found).heard
  refine ⟨placed, List.forall_mem_append.mpr ⟨earlier, List.forall_mem_singleton.mpr ⟨issi, late⟩⟩⟩

variable {decoded : DecodedDgna} {sentAfter : Nat}

theorem collect_none {answer : DgnaAnswer} (collects : pending.Collects key)
    (refused : collect (pending.hears answer) decoded = none) :
    decoded.sequence ≠ some (pending.answers.length + 1) ∧
      (pending.answers = [] → decoded.sequence ≠ none) := by
  unfold collect at refused
  cases numbered : decoded.sequence with
  | none =>
    rw [numbered] at refused
    have started : pending.nextSequence.isSome = true := by
      by_contra fresh
      exact nomatch (if_neg fresh).symm.trans refused
    exact ⟨nofun, fun none => absurd none (collects.numbered.mp started)⟩
  | some sequence =>
    rw [numbered] at refused
    have wrong : sequence ≠ pending.nextSequence.getD 1 := by
      intro expected
      exact nomatch (if_neg (not_not.mpr expected)).symm.trans refused
    rw [collects.expected] at wrong
    exact ⟨fun same => wrong (Option.some.inj same), fun _ => nofun⟩

/-- **One more part.** -/
theorem collect_some {collected : PendingDgna} (collects : pending.Collects key)
    (small : ∀ sequence ∈ decoded.sequence, sequence < 64)
    (taken : collect (pending.hears ⟨key.1, some decoded, sentAfter⟩) decoded = some collected) :
    (collected.number = pending.number ∧ collected.jobId = pending.jobId ∧
      collected.queuedAt = pending.queuedAt) ∧
    collected.answers = pending.answers ++ [⟨key.1, some decoded, sentAfter⟩] ∧
    collected.groups = collected.answers.flatMap (·.groups) ∧
    (decoded.sequence = some (pending.answers.length + 1) ∧
        collected.nextSequence = some (pending.answers.length + 2) ∨
      pending.answers = [] ∧ decoded.sequence = none) := by
  have groups : pending.groups ++ decoded.groups =
      (pending.answers ++ [(⟨key.1, some decoded, sentAfter⟩ : DgnaAnswer)]).flatMap (·.groups) := by
    rw [collects.groups]
    simp [DgnaAnswer.groups]
  unfold collect at taken
  cases numbered : decoded.sequence with
  | none =>
    rw [numbered] at taken
    obtain ⟨fresh, same⟩ := Option.ite_none_left_eq_some.mp taken
    cases same
    refine ⟨⟨rfl, rfl, rfl⟩, rfl, groups, .inr ⟨?_, rfl⟩⟩
    by_contra started
    exact fresh (collects.numbered.mpr started)
  | some sequence =>
    rw [numbered] at taken
    obtain ⟨expected, same⟩ := Option.ite_none_left_eq_some.mp taken
    cases same
    have next : sequence = pending.answers.length + 1 :=
      (not_not.mp expected).trans collects.expected
    refine ⟨⟨rfl, rfl, rfl⟩, rfl, groups, .inl ⟨by rw [next], ?_⟩⟩
    have few := small sequence numbered
    show some (min (pending.nextSequence.getD 1 + 1) 255) = _
    rw [collects.expected, min_eq_left (by omega)]

theorem numbers_concat {answers : List DgnaAnswer} {answer : DgnaAnswer}
    (numbers : answers.map (·.sequence) = (List.range' 1 answers.length).map some)
    (next : answer.sequence = some (answers.length + 1)) :
    (answers ++ [answer]).map (·.sequence) = (List.range' 1 (answers.length + 1)).map some := by
  rw [List.map_append, numbers, List.range'_1_concat, List.map_append, Nat.add_comm 1]
  exact congrArg (_ ++ [·]) next

/-- **An answer of the terminal closes the command that waits for it, or is one more part.** -/
theorem Sound.completeDgna (sound : s.Sound air) (found : s.pending.lookup key = some pending)
    (names : key.2 = (decoded.action, decoded.gssi)) (late : pending.queuedAt < sentAfter)
    (small : ∀ sequence ∈ decoded.sequence, sequence < 64)
    (numbered : decoded.action = actionInterrogate →
      decoded.sequence.isSome = true ∨ decoded.complete = true) :
    (s.completeDgna key pending decoded sentAfter).Sound air := by
  have sent := sound.filed.sent key pending found
  have heard := @Filed.heard s air key pending sound.filed found
    ⟨key.1, some decoded, sentAfter⟩ rfl late
  have action : decoded.action = key.2.1 := congrArg Prod.fst names.symm
  have gssi : decoded.gssi = key.2.2 := congrArg Prod.snd names.symm
  unfold SsBs.completeDgna
  rw [action] at numbered ⊢
  by_cases interrogation : key.2.1 = actionInterrogate
  · rw [if_pos interrogation]
    cases part : collect (pending.hears ⟨key.1, some decoded, sentAfter⟩) decoded with
    | none =>
      obtain ⟨wrong, first⟩ := collect_none sent.collects part
      refine sound.settle found (pending.hears _) ⟨rfl, rfl, rfl⟩ fun command same => ?_
      subst same
      exact .outOfSequence heard rfl wrong first
    | some collected =>
      obtain ⟨same, answers, groups, place⟩ := collect_some sent.collects small part
      dsimp only
      cases complete : decoded.complete with
      | false =>
        rw [Bool.not_false, if_pos rfl]
        refine ⟨sound.filed.await ⟨?_, ?_, ?_⟩ ?_, ?_⟩
        · rw [same.1, same.2.1]
          exact sent.command
        · rw [same.1, same.2.2, answers]
          exact heard
        · obtain ⟨sequence, next⟩ | ⟨_, none⟩ := place
          · refine ⟨?_, ?_, groups, ?_⟩
            · rw [answers]
              exact List.forall_mem_append.mpr ⟨sent.collects.parts,
                List.forall_mem_singleton.mpr ⟨decoded, rfl, complete, interrogation⟩⟩
            · rw [answers, List.length_append]
              exact numbers_concat sent.collects.numbers sequence
            · rw [answers, List.length_append]
              have started := List.append_ne_nil_of_right_ne_nil pending.answers
                (List.cons_ne_nil (⟨key.1, some decoded, sentAfter⟩ : DgnaAnswer) [])
              exact next.trans (if_neg started).symm
          · rcases numbered interrogation with some | whole
            · rw [none] at some
              exact nomatch some
            · exact nomatch complete.symm.trans whole
        · rw [same.2.2]
          exact fun message member => sound.filed.early message member key pending found
        · rw [docket_await, same.1, Docket.put_self]
          · exact sound.balanced
          · show (s.pending.lookup key).map (·.number) = _
            rw [found]
            rfl
      | true =>
        refine sound.settle found collected same fun command names => ?_
        subst names
        rw [groups, answers]
        refine .answered heard rfl action gssi (fun _ => ⟨complete, ?_, ?_⟩) fun other => ?_
        · exact fun answer member =>
            (sent.collects.parts answer member).imp fun _ part => ⟨part.1, part.2.1⟩
        · exact place.imp (fun next => numbers_concat sent.collects.numbers next.1) id
        · exact absurd interrogation other
  · rw [if_neg interrogation]
    have first : pending.answers = [] := by
      refine List.eq_nil_iff_forall_not_mem.mpr fun answer member => ?_
      obtain ⟨_, _, _, interrogates⟩ := sent.collects.parts answer member
      exact interrogation interrogates
    refine sound.settle found (pending.hears _) ⟨rfl, rfl, rfl⟩ fun command names => ?_
    subst names
    have groups : decoded.groups = (pending.answers ++
        [(⟨command.itsi, some decoded, sentAfter⟩ : DgnaAnswer)]).flatMap (·.groups) := by
      rw [first, List.nil_append, List.flatMap_singleton]
      rfl
    rw [groups]
    exact .answered heard rfl action gssi (fun other => absurd other interrogation) fun _ => first

theorem ofFacility_dgna {facility : UFacility}
    (content : FacilityContent.ofFacility facility = .dgna decoded) :
    ∀ sequence ∈ decoded.sequence, sequence < 64 := by
  unfold FacilityContent.ofFacility at content
  split at content
  · cases content
  · split at content
    · cases content
    · split at content
      next read =>
        cases content
        exact decodeDgna_sequence read
      · cases content

variable (sound : s.Sound air)

include sound

theorem Sound.queueFacility (issi : Nat) (ssPdu : List Bool) :
    (s.queueFacility cell issi ssPdu).Sound air := by
  unfold SsBs.queueFacility
  split
  · exact sound
  · exact ⟨sound.filed.sendFacility .., sound.balanced⟩

theorem Sound.requestCallWaiting (issi routing : Nat) (decoded : DecodedCallWaiting) :
    (s.requestCallWaiting issi routing decoded).Sound air := by
  have taken : s.takeCommandId.Filed air :=
    sound.filed.mono (.same rfl rfl) sound.filed.channel (fun _ member => .inl member)
      (fun _ _ found => .inl found) fun _ _ found => .inl found
  have requested : (s.takeCommandId.submit (.callWaitingRequest s.nextCommandId issi
      decoded.operation decoded.waitingCalls)).Sound air := by
    refine ⟨taken.submit (show s.takeCommandId.Fits (.callWaitingRequest ..) from trivial), ?_⟩
    rw [docket_submit _ _ taken.channel]
    exact sound.balanced.of_count rfl rfl fun number =>
      (Docket.count_answer ..).trans (Nat.add_zero _)
  unfold SsBs.requestCallWaiting
  dsimp only
  split_ifs
  all_goals first | exact sound | exact requested

theorem Sound.rejectPendingInterrogation {issi : Nat}
    (late : ∀ pending, s.pending.lookup (issi, actionInterrogate, none) = some pending →
      pending.queuedAt < sentAfter) : (s.rejectPendingInterrogation issi sentAfter).Sound air := by
  unfold SsBs.rejectPendingInterrogation
  cases found : s.pending.lookup (issi, actionInterrogate, none) with
  | none => exact sound
  | some pending =>
    refine sound.settle found (pending.hears _) ⟨rfl, rfl, rfl⟩ fun command names => ?_
    obtain rfl : issi = command.itsi := congrArg Prod.fst names
    exact .unsupported (sound.filed.heard found rfl (late pending found)) rfl

/-- **What a message of a terminal does.** -/
theorem Sound.routeReDeliver {message : OnAir}
    (late : ∀ key pending, s.pending.lookup key = some pending → message.answers key = true →
      pending.queuedAt < message.sentAfter)
    (numbered : ∀ decoded, message.facility.map FacilityContent.ofFacility = some (.dgna decoded) →
      decoded.action = actionInterrogate →
      (s.pending.lookup (message.issi, decoded.action, decoded.gssi)).isSome = true →
      decoded.sequence.isSome = true ∨ decoded.complete = true) :
    (s.routeReDeliver cell message.issi message.facility message.sentAfter).Sound air := by
  unfold OnAir.answers at late
  unfold SsBs.routeReDeliver
  cases facility : message.facility with
  | none => exact sound
  | some facility' =>
    rw [facility, Option.map_some] at late numbered
    dsimp only
    cases content : FacilityContent.ofFacility facility' with
    | callWaiting decoded => exact sound.requestCallWaiting ..
    | otherService ssType operation =>
      dsimp only
      split
      · exact sound.queueFacility ..
      · exact sound
    | unsupported =>
      rw [content] at late
      exact sound.rejectPendingInterrogation fun pending found => late _ pending found (by simp)
    | dgna decoded =>
      rw [content] at late numbered
      unfold SsBs.takeAnswer
      dsimp only
      cases found : s.pending.lookup (message.issi, decoded.action, decoded.gssi) with
      | none => exact sound
      | some pending =>
        refine sound.completeDgna found rfl (late _ pending found (by simp))
          (ofFacility_dgna content) fun interrogation => ?_
        exact numbered decoded rfl interrogation (by rw [found]; rfl)

/-- A message that was received is no longer on the air. -/
theorem Sound.fewer {rest : List OnAir} (sub : ∀ message ∈ rest, message ∈ air) : s.Sound rest :=
  ⟨⟨sound.filed.channel, sound.filed.held, sound.filed.sent, sound.filed.fits,
    fun message member => sound.filed.early message (sub message member)⟩, sound.balanced⟩

/-- The channel's state is not on the ledger. -/
theorem Sound.link (online : Bool) (room : Nat) : ({ s with swmi := s.swmi.map fun endpoint =>
      { endpoint with online, room } } : SsBs).Sound air := by
  have told : ({ s with swmi := s.swmi.map fun endpoint =>
      { endpoint with online, room } } : SsBs).told = s.told := by
    unfold told
    cases s.swmi <;> rfl
  refine ⟨sound.filed.mono (.same rfl rfl) ?_ (fun _ member => .inl (told ▸ member))
    (fun _ _ found => .inl found) fun _ _ found => .inl found, ?_⟩
  · rw [Option.isSome_map]
    exact sound.filed.channel
  · refine sound.balanced.of_count rfl rfl fun number => ?_
    show (SsBs.told _ |>.filterMap (·.number)).count number = _
    rw [told]
    rfl

end SsBs

/-! ### Runs -/

namespace DgnaRun

/-- No command takes the place of another one that waits, no answer to it is on the air before it is
queued, and a part of an interrogation's answer that is not the last one has a number. -/
def permits (run : DgnaRun) : DgnaEvent → Bool
  | .dgnaCommand cell command =>
    0x00ffffff < command.itsi || run.ss.admits run.air cell command
  | .tickStart cell order =>
    everyTurn (SsBs.admitsRelease run.air cell) (SsBs.release cell) run.ss
      (run.ss.readyJobs cell order)
  | .receives _ index =>
    match run.air[index]? with
    | none => true
    | some message =>
      match message.facility.map FacilityContent.ofFacility with
      | some (.dgna decoded) => decoded.action ≠ actionInterrogate ||
          (run.ss.pending.lookup (message.issi, decoded.action, decoded.gssi)).isNone ||
          decoded.sequence.isSome || decoded.complete
      | _ => true
  | _ => true

/-- **Every permitted step keeps the ledger.** -/
theorem sound_step {run next : DgnaRun} (sound : run.ss.Sound run.air) (event : DgnaEvent)
    (permit : permits run event = true) (stepped : run.step event = some next) :
    next.ss.Sound next.air := by
  cases event with
  | dgnaCommand cell command =>
    cases stepped
    refine sound.dgnaCommand ?_
    simpa [permits] using permit
  | callWaitingResponse cell itsi operation accepted active cause =>
    cases stepped
    unfold SsBs.callWaitingResponse
    split
    · exact sound
    · split
      · exact sound
      · exact sound.queueFacility ..
  | tickStart cell order =>
    cases stepped
    exact everyTurn_foldl (fun state jobId sound admitted => sound.release jobId admitted) sound
      permit
  | sends issi sdu =>
    cases stepped
    refine ⟨⟨sound.filed.channel, sound.filed.held, sound.filed.sent, sound.filed.fits, ?_⟩,
      sound.balanced⟩
    intro message member key pending found answers
    rcases List.mem_append.mp member with old | new
    · exact sound.filed.early message old key pending found answers
    · rw [List.mem_singleton.mp new]
      obtain ⟨⟨downlink, placed, _⟩, _⟩ := (sound.filed.sent key pending found).heard
      exact (List.getElem?_eq_some_iff.mp placed).1
  | receives cell index =>
    unfold step at stepped
    unfold permits at permit
    dsimp only at stepped permit
    cases found : run.air[index]? with
    | none =>
      rw [found] at stepped
      cases stepped
    | some message =>
      rw [found] at stepped permit
      cases stepped
      have fewer := sound.fewer fun other => List.mem_of_mem_eraseIdx (i := index)
      refine fewer.routeReDeliver ?_ fun decoded content interrogation waits => ?_
      · exact sound.filed.early message (List.mem_of_getElem? found)
      · dsimp only at permit
        rw [content] at permit
        have other : decide (decoded.action ≠ actionInterrogate) = false :=
          decide_eq_false (not_not.mpr interrogation)
        dsimp only at permit
        rw [other, ← Option.not_isSome, waits] at permit
        simpa using permit
  | link online room =>
    cases stepped
    exact sound.link online room

theorem sound_start {run : DgnaRun} (start : machine.start run) : run.ss.Sound run.air := by
  obtain ⟨endpoint, blank, rfl⟩ := start
  have silent : (SsBs.new (some endpoint)).told = [] := by
    show endpoint.handed.map (·.1) = []
    rw [blank]
    rfl
  refine ⟨⟨rfl, fun _ _ found => ?_, fun _ _ found => ?_, ?_, List.forall_mem_nil _⟩, ?_⟩
  · exact nomatch (AList.lookup_empty _).symm.trans found
  · exact nomatch (AList.lookup_empty _).symm.trans found
  · intro message member
    rw [silent] at member
    exact nomatch member
  · refine (Docket.Balanced.init _).of_count rfl ?_ fun number => ?_
    · funext place
      cases place <;> rfl
    · show ((SsBs.new (some endpoint)).told.filterMap (·.number)).count number = 0
      rw [silent]
      rfl

end DgnaRun

namespace SsBs

variable {s : SsBs} {air : List OnAir} {number : Nat} {command : DgnaCommand}

/-- The command waits for its terminal, or for its own answer. -/
def Holds (s : SsBs) (number : Nat) (command : DgnaCommand) : Prop :=
  s.deferredUntilRegistered.lookup command.jobId = some ⟨command, number⟩ ∨
    ∃ pending, s.pending.lookup (command.itsi, command.action, command.gssi) = some pending ∧
      pending.number = number ∧ pending.jobId = command.jobId

/-- What came of a command: it is held and has no result, or it has exactly one. -/
structure Answered (s : SsBs) (number : Nat) (command : DgnaCommand) : Prop where
  waiting : s.Waits number → s.Holds number command ∧ s.results number = []
  closed : ¬ s.Waits number → ∃ queuedAt answers success cause groups,
    s.results number = [.dgnaResult number queuedAt answers command.jobId command.itsi command.action
      success cause groups] ∧ s.Source number command queuedAt answers success cause groups

theorem length_results (s : SsBs) (number : Nat) :
    (s.results number).length = s.docket.answered.count number := by
  unfold results docket
  rw [List.count_filterMap, List.countP_eq_length_filter]
  congr 1
  exact List.filter_congr fun message _ => (beq_eq_decide ..).symm

/-- A command that waits is held as itself. -/
theorem Filed.holds (filed : s.Filed air) (noted : s.commands[number]? = some command)
    (waits : s.Waits number) : s.Holds number command := by
  obtain ⟨place, here⟩ := waits
  cases place with
  | inl jobId =>
    obtain ⟨deferred, found, rfl⟩ := Option.map_eq_some_iff.mp here
    obtain ⟨same, rfl⟩ := filed.held jobId deferred found
    cases same.symm.trans noted
    exact .inl found
  | inr key =>
    obtain ⟨pending, found, rfl⟩ := Option.map_eq_some_iff.mp here
    obtain ⟨other, same, job, rfl⟩ := (filed.sent key pending found).command
    cases same.symm.trans noted
    exact .inr ⟨pending, found, rfl, job.symm⟩

theorem Sound.answered (sound : s.Sound air) (noted : s.commands[number]? = some command) :
    s.Answered number command := by
  refine ⟨fun waits => ⟨sound.filed.holds noted waits, ?_⟩, fun closed => ?_⟩
  · rw [← List.length_eq_zero_iff, length_results]
    exact sound.balanced.silent number (.inr waits)
  · have paid := sound.balanced.paid number (List.getElem?_eq_some_iff.mp noted).1 closed
    rw [← length_results, List.length_eq_one_iff] at paid
    obtain ⟨message, single⟩ := paid
    obtain ⟨member, numbered⟩ := List.mem_filter.mp
      (show message ∈ s.results number from single ▸ List.mem_singleton_self message)
    have fits := sound.filed.fits message member
    cases message with
    | callWaitingRequest => cases numbered
    | dgnaResult one queuedAt answers jobId itsi action success cause groups =>
      obtain rfl : one = number := Option.some.inj (of_decide_eq_true numbered)
      obtain ⟨other, same, rfl, rfl, rfl, source⟩ := fits
      cases same.symm.trans noted
      exact ⟨queuedAt, answers, success, cause, groups, single, source⟩

end SsBs

namespace DgnaRun

def allRegistered : SsCell where
  isActive _ := true
  isRegistrationPending _ := false
  gckSelectNumber _ := none
  packetDeliveryRoute _ := none

def assign (jobId : Nat) : DgnaCommand := ⟨jobId, 1001, actionAssign, some 5001, none⟩

/-- The terminal acknowledges the assignment: a FACILITY message of 45 bits. -/
def assignAck : List Bool :=
  let ssPdu := bitsOf 6 ssDgna ++ bitsOf 5 assignAckPdu ++ bitsOf 5 1 ++ bitsOf 24 5001 ++ [false] ++
    bitsOf 2 1 ++ [true, false]
  bitsOf 5 16 ++ bitsOf 2 0 ++ bitsOf 4 1 ++ bitsOf 11 ssPdu.length ++ ssPdu ++ [false]

def connected : DgnaRun := ⟨SsBs.new (some ⟨true, 100, []⟩), []⟩

theorem connected_start : machine.start connected := ⟨_, rfl, rfl⟩

end DgnaRun

end Bluestation
