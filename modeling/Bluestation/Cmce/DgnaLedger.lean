/-
**The ledger of the commands of dynamic group number assignment.**

* `SsBs.docket` — the commands as requests that wait under a job or under the answer they wait for;
  every operation is a move of it.
* `SsBs.Source` — where a result may come from.
* `SsBs.Filed.mono` — what is in the files stays true when commands and downlink messages come.
-/

import Bluestation.Lib.Docket
import Bluestation.Cmce.Dgna

namespace Bluestation

open Machines List Function Docket

/-! ### What is reported -/

def SsSubmission.number : SsSubmission → Option Nat
  | dgnaResult number .. => some number
  | callWaitingRequest .. => none

def DgnaAnswer.sequence (answer : DgnaAnswer) : Option Nat := answer.decoded.bind (·.sequence)

def DgnaAnswer.groups (answer : DgnaAnswer) : List DgnaObservedGroup :=
  answer.decoded.elim [] (·.groups)

/-- The numbered parts so far: none is missing, none comes twice, and the last is yet to come. -/
structure PendingDgna.Collects (pending : PendingDgna) (key : DgnaKey) : Prop where
  parts : ∀ answer ∈ pending.answers, ∃ decoded, answer.decoded = some decoded ∧
    decoded.complete = false ∧ key.2.1 = actionInterrogate
  numbers : pending.answers.map (·.sequence) = (List.range' 1 pending.answers.length).map some
  groups : pending.groups = pending.answers.flatMap (·.groups)
  nextSequence : pending.nextSequence =
    if pending.answers = [] then none else some (pending.answers.length + 1)

/-- The number that the next part has to have. -/
theorem PendingDgna.Collects.expected {pending : PendingDgna} {key : DgnaKey}
    (collects : pending.Collects key) :
    pending.nextSequence.getD 1 = pending.answers.length + 1 := by
  rw [collects.nextSequence]
  split
  next none =>
    rw [none]
    rfl
  · rfl

theorem PendingDgna.Collects.numbered {pending : PendingDgna} {key : DgnaKey}
    (collects : pending.Collects key) :
    pending.nextSequence.isSome = true ↔ pending.answers ≠ [] := by
  rw [collects.nextSequence]
  split <;> simp [*]

namespace SsBs

variable (s : SsBs)

def told : List SsSubmission := s.swmi.elim [] (·.handed.map (·.1))

def results (number : Nat) : List SsSubmission := s.told.filter (·.number = some number)

/-- The commands as requests: one that is held back waits under its job, and one on the air under the
answer it waits for. -/
def docket : Docket (Nat ⊕ DgnaKey) where
  taken := s.commands.length
  waiting := Sum.elim (fun jobId => (s.deferredUntilRegistered.lookup jobId).map (·.number))
    (fun key => (s.pending.lookup key).map (·.number))
  answered := s.told.filterMap (·.number)

/-- A command stands at its place among the downlink messages, for its terminal. -/
def Placed (number place issi : Nat) : Prop :=
  ∃ downlink, s.queue[place]? = some downlink ∧ downlink.commandOf = some number ∧
    downlink.request.mainAddress.ssi = issi

/-- The answers come from the terminal of the command, and were sent after it was queued. -/
def Heard (number place issi : Nat) (answers : List DgnaAnswer) : Prop :=
  s.Placed number place issi ∧ ∀ answer ∈ answers, answer.issi = issi ∧ place < answer.sentAfter

/-- The parts of an interrogation are complete: they are numbered from one on, or there is but one. -/
structure Whole (earlier : List DgnaAnswer) (last : DgnaAnswer) (decoded : DecodedDgna) : Prop where
  complete : decoded.complete = true
  parts : ∀ answer ∈ earlier, ∃ decoded, answer.decoded = some decoded ∧ decoded.complete = false
  numbers : (earlier ++ [last]).map (·.sequence) = (List.range' 1 (earlier.length + 1)).map some ∨
    earlier = [] ∧ last.sequence = none

/-- Where a result comes from: its place among the downlink messages, its answers, its success, its
cause and its groups. -/
inductive Source (number : Nat) (command : DgnaCommand) :
    Option Nat → List DgnaAnswer → Bool → Nat → List DgnaObservedGroup → Prop where
  /-- The command cannot be encoded. -/
  | unsent : Source number command none [] false 0 []
  /-- The terminal does not support interrogations. -/
  | unsupported {place : Nat} {earlier : List DgnaAnswer} {last : DgnaAnswer}
      (heard : s.Heard number place command.itsi (earlier ++ [last])) (unread : last.decoded = none) :
      Source number command (some place) (earlier ++ [last]) false interrogationTypeNotSupported []
  /-- A part is out of sequence. -/
  | outOfSequence {place : Nat} {earlier : List DgnaAnswer} {last : DgnaAnswer}
      {decoded : DecodedDgna} (heard : s.Heard number place command.itsi (earlier ++ [last]))
      (read : last.decoded = some decoded) (wrong : decoded.sequence ≠ some (earlier.length + 1))
      (numbered : earlier = [] → decoded.sequence ≠ none) :
      Source number command (some place) (earlier ++ [last]) false 0 []
  /-- The last answer names the command's action and group, and the groups are those of all parts. -/
  | answered {place : Nat} {earlier : List DgnaAnswer} {last : DgnaAnswer} {decoded : DecodedDgna}
      (heard : s.Heard number place command.itsi (earlier ++ [last]))
      (read : last.decoded = some decoded) (action : decoded.action = command.action)
      (gssi : decoded.gssi = command.gssi)
      (whole : command.action = actionInterrogate → Whole earlier last decoded)
      (single : command.action ≠ actionInterrogate → earlier = []) :
      Source number command (some place) (earlier ++ [last]) decoded.success decoded.cause
        ((earlier ++ [last]).flatMap (·.groups))

/-- A result is that of a command, and comes from somewhere. -/
def Fits : SsSubmission → Prop
  | .dgnaResult number queuedAt answers jobId itsi action success cause groups =>
    ∃ command, s.commands[number]? = some command ∧ command.jobId = jobId ∧
      command.itsi = itsi ∧ command.action = action ∧
      s.Source number command queuedAt answers success cause groups
  | .callWaitingRequest .. => True

/-- What waits for an answer is a command that was queued, with the parts of its answer so far. -/
structure Sent (key : DgnaKey) (pending : PendingDgna) : Prop where
  command : ∃ command, s.commands[pending.number]? = some command ∧ command.jobId = pending.jobId ∧
    key = (command.itsi, command.action, command.gssi)
  heard : s.Heard pending.number pending.queuedAt key.1 pending.answers
  collects : pending.Collects key

def Waits (number : Nat) : Prop := s.docket.Waits number

end SsBs

/-- An answer on the air that a command would take for its own. -/
def OnAir.answers (message : OnAir) (key : DgnaKey) : Bool :=
  message.issi = key.1 && match message.facility.map FacilityContent.ofFacility with
    | some (.dgna decoded) => key.2 = (decoded.action, decoded.gssi)
    | some .unsupported => key.2 = (actionInterrogate, none)
    | _ => false

namespace SsBs

/-- What holds in every run of permitted steps, besides the ledger. -/
structure Filed (air : List OnAir) (s : SsBs) : Prop where
  channel : s.swmi.isSome
  held : ∀ jobId deferred, s.deferredUntilRegistered.lookup jobId = some deferred →
    s.commands[deferred.number]? = some deferred.command ∧ deferred.command.jobId = jobId
  sent : ∀ key pending, s.pending.lookup key = some pending → s.Sent key pending
  fits : ∀ message ∈ s.told, s.Fits message
  early : ∀ message ∈ air, ∀ key pending, s.pending.lookup key = some pending →
    message.answers key = true → pending.queuedAt < message.sentAfter

/-- **What holds in every run of permitted steps.** -/
structure Sound (air : List OnAir) (s : SsBs) : Prop where
  filed : s.Filed air
  balanced : s.docket.Balanced fun _ => 1

/-! ### The operations are moves of the ledger -/

section Moves

variable (s : SsBs)

theorem told_submit (message : SsSubmission) (channel : s.swmi.isSome) :
    (s.submit message).told = s.told ++ [message] := by
  unfold told submit
  cases here : s.swmi with
  | none =>
    rw [here] at channel
    cases channel
  | some endpoint =>
    show (endpoint.handed ++ [(message, endpoint.accepts)]).map (·.1) = _
    rw [map_append]
    rfl

theorem docket_submit (message : SsSubmission) (channel : s.swmi.isSome) :
    (s.submit message).docket = s.docket.answer message.number.toList := by
  unfold docket
  rw [told_submit s message channel]
  unfold answer
  cases numbered : message.number <;> simp [numbered, submit]

theorem docket_note (command : DgnaCommand) : (s.note command).docket = s.docket.draw := by
  unfold docket note draw
  rw [length_append]
  rfl

theorem docket_await (key : DgnaKey) (pending : PendingDgna) :
    (s.await key pending).docket = s.docket.put (.inr key) pending.number := by
  unfold docket await put
  congr 1
  funext place
  rw [update_apply]
  cases place with
  | inl jobId => rw [if_neg Sum.inl_ne_inr]; rfl
  | inr other =>
    simp only [Sum.elim_inr, Sum.inr.injEq]
    rw [Dictionary.lookup_insert]
    split <;> rfl

theorem docket_forget (key : DgnaKey) : (s.forget key).docket = s.docket.lift (.inr key) := by
  unfold docket forget lift
  congr 1
  funext place
  rw [update_apply]
  cases place with
  | inl jobId => rw [if_neg Sum.inl_ne_inr]; rfl
  | inr other =>
    simp only [Sum.elim_inr, Sum.inr.injEq]
    rw [Dictionary.lookup_erase]
    split <;> rfl

theorem docket_defer (number : Nat) (command : DgnaCommand) :
    (s.defer number command).docket = s.docket.put (.inl command.jobId) number := by
  unfold docket defer put
  congr 1
  funext place
  rw [update_apply]
  cases place with
  | inr key => rw [if_neg Sum.inr_ne_inl]; rfl
  | inl other =>
    simp only [Sum.elim_inl, Sum.inl.injEq]
    rw [Table.lookup_insert_eq]
    split <;> rfl

theorem docket_undefer (jobId : Nat) : (s.undefer jobId).docket = s.docket.lift (.inl jobId) := by
  unfold docket undefer lift
  congr 1
  funext place
  rw [update_apply]
  cases place with
  | inr key => rw [if_neg Sum.inr_ne_inl]; rfl
  | inl other =>
    simp only [Sum.elim_inl, Sum.inl.injEq]
    rw [Table.lookup_erase_eq]
    split <;> rfl

end Moves

/-! ### What stands in the files stays true -/

variable {s next : SsBs} {air : List OnAir} {number : Nat} {command : DgnaCommand} {key : DgnaKey}
  {pending : PendingDgna}

theorem getElem?_of_grows {α : Type} {before after : List α} (grows : before <+: after) {index : Nat}
    {value : α} (here : before[index]? = some value) : after[index]? = some value := by
  obtain ⟨more, rfl⟩ := grows
  rw [List.getElem?_append_left (List.getElem?_eq_some_iff.mp here).1, here]

/-- More commands and more downlink messages. -/
structure Grows (s next : SsBs) : Prop where
  commands : s.commands <+: next.commands
  queue : s.queue <+: next.queue

section

variable (grows : Grows s next)

include grows

theorem Heard.mono {place issi : Nat} {answers : List DgnaAnswer}
    (heard : s.Heard number place issi answers) : next.Heard number place issi answers := by
  obtain ⟨⟨downlink, here, names⟩, sent⟩ := heard
  exact ⟨⟨downlink, getElem?_of_grows grows.queue here, names⟩, sent⟩

theorem Source.mono {queuedAt : Option Nat} {answers : List DgnaAnswer} {success : Bool} {cause : Nat}
    {groups : List DgnaObservedGroup}
    (source : s.Source number command queuedAt answers success cause groups) :
    next.Source number command queuedAt answers success cause groups := by
  cases source with
  | unsent => exact .unsent
  | unsupported heard unread => exact .unsupported (heard.mono grows) unread
  | outOfSequence heard read wrong numbered =>
    exact .outOfSequence (heard.mono grows) read wrong numbered
  | answered heard read action gssi whole single =>
    exact .answered (heard.mono grows) read action gssi whole single

theorem Fits.mono {message : SsSubmission} (fits : s.Fits message) : next.Fits message := by
  cases message with
  | dgnaResult =>
    obtain ⟨command, noted, jobId, itsi, action, source⟩ := fits
    exact ⟨command, getElem?_of_grows grows.commands noted, jobId, itsi, action, source.mono grows⟩
  | callWaitingRequest => trivial

theorem Sent.mono (sent : s.Sent key pending) : next.Sent key pending := by
  obtain ⟨command, noted, names⟩ := sent.command
  exact ⟨⟨command, getElem?_of_grows grows.commands noted, names⟩, sent.heard.mono grows,
    sent.collects⟩

end

theorem Filed.mono (filed : s.Filed air) (grows : Grows s next) (channel : next.swmi.isSome)
    (told : ∀ message ∈ next.told, message ∈ s.told ∨ next.Fits message)
    (held : ∀ jobId deferred, next.deferredUntilRegistered.lookup jobId = some deferred →
      s.deferredUntilRegistered.lookup jobId = some deferred ∨
        next.commands[deferred.number]? = some deferred.command ∧ deferred.command.jobId = jobId)
    (sent : ∀ key pending, next.pending.lookup key = some pending →
      s.pending.lookup key = some pending ∨ next.Sent key pending ∧
        ∀ message ∈ air, message.answers key = true → pending.queuedAt < message.sentAfter) :
    next.Filed air where
  channel := channel
  held jobId deferred found := by
    rcases held jobId deferred found with old | new
    · obtain ⟨noted, same⟩ := filed.held jobId deferred old
      exact ⟨getElem?_of_grows grows.commands noted, same⟩
    · exact new
  sent key pending found := by
    rcases sent key pending found with old | new
    · exact (filed.sent key pending old).mono grows
    · exact new.1
  fits message member := by
    rcases told message member with old | new
    · exact (filed.fits message old).mono grows
    · exact new
  early message member key pending found answers := by
    rcases sent key pending found with old | new
    · exact filed.early message member key pending old answers
    · exact new.2 message member answers

theorem Grows.same (commands : next.commands = s.commands) (queue : next.queue = s.queue) :
    Grows s next :=
  ⟨commands ▸ prefix_rfl, queue ▸ prefix_rfl⟩

end SsBs

end Bluestation
