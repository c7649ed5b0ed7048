/-
**Sessions in a log of messages.**

Every message of a log names a session: it opens the session (again), belongs to it, or closes it. What
has been said in a session so far is a state of a small automaton, which has no state for a session
that was not opened, or that went on after its end.

* `Dialogue.phase` — what the messages of a log make of a session.
* `Dialogue.closed_of_ended`, `Dialogue.open_of_running`, `Dialogue.silent_of_unborn` — what a phase
  says about the messages.
-/

import Mathlib.Tactic

namespace Bluestation

open List Option

/-- What a message does to its session. -/
inductive DialogueKind where
  | opens
  | continues
  | closes

/-- What the messages have made of a session. -/
inductive DialoguePhase where
  | unborn
  | running
  | ended

/-- A session may be opened again while it runs, and nothing comes after its end. -/
def DialoguePhase.next : DialoguePhase → DialogueKind → Option DialoguePhase
  | .unborn, .opens => some .running
  | .running, .opens => some .running
  | .running, .continues => some .running
  | .running, .closes => some .ended
  | _, _ => none

/-- How messages belong to sessions. -/
structure Dialogue (Message Session : Type) where
  session : Message → Session
  kind : Message → DialogueKind

namespace Dialogue

variable {Message Session : Type} [DecidableEq Session] (dialogue : Dialogue Message Session)

/-- What one message makes of a session. -/
def after (key : Session) (phase : Option DialoguePhase) (message : Message) : Option DialoguePhase :=
  if dialogue.session message = key then phase.bind (·.next (dialogue.kind message)) else phase

/-- What the messages of a log make of a session, if they can follow each other. -/
def phase (log : List Message) (key : Session) : Option DialoguePhase :=
  log.foldl (dialogue.after key) (some .unborn)

/-- The session has ended with its last message, and only with it. -/
def Closed (log : List Message) (key : Session) : Prop :=
  ∃ before message after, log = before ++ message :: after ∧
    dialogue.session message = key ∧ dialogue.kind message = .closes ∧
    (∃ first ∈ before, dialogue.session first = key ∧ dialogue.kind first = .opens) ∧
    (∀ other ∈ before, dialogue.session other = key → dialogue.kind other ≠ .closes) ∧
    ∀ other ∈ after, dialogue.session other ≠ key

variable {dialogue} {log : List Message} {key : Session}

/-- **One more message.** -/
theorem phase_append (message : Message) : dialogue.phase (log ++ [message]) key =
      if dialogue.session message = key then
        (dialogue.phase log key).bind (·.next (dialogue.kind message))
      else dialogue.phase log key := by
  unfold phase
  rw [foldl_append]
  rfl

variable {message : Message}

theorem phase_append_self (names : dialogue.session message = key) :
    dialogue.phase (log ++ [message]) key =
      (dialogue.phase log key).bind (·.next (dialogue.kind message)) := by
  rw [phase_append, if_pos names]

theorem phase_append_other (names : dialogue.session message ≠ key) :
    dialogue.phase (log ++ [message]) key = dialogue.phase log key := by
  rw [phase_append, if_neg names]

theorem silent_of_unborn (unborn : dialogue.phase log key = some .unborn) :
    ∀ message ∈ log, dialogue.session message ≠ key := by
  induction log using List.reverseRecOn with
  | nil => exact forall_mem_nil _
  | append_singleton log message ih =>
    rw [phase_append] at unborn
    by_cases names : dialogue.session message = key
    · rw [if_pos names] at unborn
      obtain ⟨phase, _, next⟩ := bind_eq_some_iff.mp unborn
      cases kind : dialogue.kind message <;> rw [kind] at next <;> cases phase <;> cases next
    · rw [if_neg names] at unborn
      intro other member
      rcases mem_append.mp member with old | new
      · exact ih unborn other old
      · rwa [mem_singleton.mp new]

/-- A session that runs was opened, and has not ended. -/
theorem open_of_running (running : dialogue.phase log key = some .running) :
    (∃ message ∈ log, dialogue.session message = key ∧ dialogue.kind message = .opens) ∧
      ∀ message ∈ log, dialogue.session message = key → dialogue.kind message ≠ .closes := by
  induction log using List.reverseRecOn with
  | nil => cases running
  | append_singleton log message ih =>
    rw [phase_append] at running
    by_cases names : dialogue.session message = key
    · rw [if_pos names] at running
      obtain ⟨phase, before, next⟩ := bind_eq_some_iff.mp running
      cases phase with
      | unborn =>
        cases kind : dialogue.kind message with
        | opens =>
          have last : message ∈ log ++ [message] := mem_append_right _ (mem_singleton_self _)
          refine ⟨⟨message, last, names, kind⟩, ?_⟩
          intro other member same
          rcases mem_append.mp member with old | new
          · exact absurd same (silent_of_unborn before other old)
          · rw [mem_singleton.mp new, kind]
            exact nofun
        | continues => exact nomatch kind ▸ next
        | closes => exact nomatch kind ▸ next
      | running =>
        obtain ⟨⟨first, member, opens⟩, goesOn⟩ := ih before
        refine ⟨⟨first, mem_append_left _ member, opens⟩, fun other member same closes => ?_⟩
        rcases mem_append.mp member with old | new
        · exact goesOn other old same closes
        · obtain rfl := mem_singleton.mp new
          exact nomatch closes ▸ next
      | ended => cases kind : dialogue.kind message <;> exact nomatch kind ▸ next
    · rw [if_neg names] at running
      obtain ⟨⟨first, member, opens⟩, goesOn⟩ := ih running
      refine ⟨⟨first, mem_append_left _ member, opens⟩, fun other member same => ?_⟩
      rcases mem_append.mp member with old | new
      · exact goesOn other old same
      · exact absurd (mem_singleton.mp new ▸ same) names

/-- **A session that has ended was opened, has ended once, and nothing came after its end.** -/
theorem closed_of_ended (ended : dialogue.phase log key = some .ended) : dialogue.Closed log key := by
  induction log using List.reverseRecOn with
  | nil => cases ended
  | append_singleton log message ih =>
    rw [phase_append] at ended
    by_cases names : dialogue.session message = key
    · rw [if_pos names] at ended
      obtain ⟨phase, before, next⟩ := bind_eq_some_iff.mp ended
      cases phase with
      | unborn => cases kind : dialogue.kind message <;> exact nomatch kind ▸ next
      | running =>
        cases kind : dialogue.kind message with
        | opens => exact nomatch kind ▸ next
        | continues => exact nomatch kind ▸ next
        | closes =>
          obtain ⟨opened, goesOn⟩ := open_of_running before
          exact ⟨log, message, [], rfl, names, kind, opened, goesOn, forall_mem_nil _⟩
      | ended => cases kind : dialogue.kind message <;> exact nomatch kind ▸ next
    · rw [if_neg names] at ended
      obtain ⟨before, last, after, rfl, same, closes, opened, goesOn, silent⟩ := ih ended
      refine ⟨before, last, after ++ [message], append_assoc .., same, closes, opened, goesOn,
        fun other member => ?_⟩
      rcases mem_append.mp member with old | new
      · exact silent other old
      · rwa [mem_singleton.mp new]

theorem phase_say (goesOn : dialogue.kind message ≠ .closes)
    (running : dialogue.phase log (dialogue.session message) = some .running) :
    dialogue.phase (log ++ [message]) key = dialogue.phase log key := by
  by_cases names : dialogue.session message = key
  · subst names
    rw [phase_append_self rfl, running]
    cases kind : dialogue.kind message with
    | opens => rfl
    | continues => rfl
    | closes => exact absurd kind goesOn
  · exact phase_append_other names

theorem phase_open (opens : dialogue.kind message = .opens)
    (unborn : dialogue.phase log (dialogue.session message) = some .unborn) :
    dialogue.phase (log ++ [message]) key =
      if key = dialogue.session message then some .running else dialogue.phase log key := by
  split
  next same =>
    subst same
    rw [phase_append_self rfl, unborn, opens]
    rfl
  · exact phase_append_other (.symm ‹_›)

theorem phase_close (closes : dialogue.kind message = .closes)
    (running : dialogue.phase log (dialogue.session message) = some .running) :
    dialogue.phase (log ++ [message]) key =
      if key = dialogue.session message then some .ended else dialogue.phase log key := by
  split
  next same =>
    subst same
    rw [phase_append_self rfl, running, closes]
    rfl
  · exact phase_append_other (.symm ‹_›)

/-- **Several sessions that run are ended**, each once. -/
theorem phase_closeAll {more : List Message}
    (closes : ∀ message ∈ more, dialogue.kind message = .closes)
    (running : ∀ message ∈ more, dialogue.phase log (dialogue.session message) = some .running)
    (once : (more.map dialogue.session).Nodup) :
    dialogue.phase (log ++ more) key =
      if key ∈ more.map dialogue.session then some .ended else dialogue.phase log key := by
  induction more generalizing log with
  | nil => rw [append_nil, map_nil, if_neg not_mem_nil]
  | cons message more ih =>
    rw [forall_mem_cons] at closes running
    obtain ⟨absent, rest⟩ := nodup_cons.mp once
    have ended := fun key => @phase_close _ _ _ dialogue log key message closes.1 running.1
    rw [append_cons, ih closes.2 (fun other member => ?_) rest, ended, map_cons]
    · by_cases same : key = dialogue.session message
      · rw [if_pos same, if_pos (mem_cons.mpr (.inl same)), ite_self]
      · rw [if_neg same]
        simp only [mem_cons, same, false_or]
    · rw [ended, if_neg]
      · exact running.2 other member
      · exact fun same => absent (same ▸ mem_map_of_mem member)

end Dialogue

end Bluestation
