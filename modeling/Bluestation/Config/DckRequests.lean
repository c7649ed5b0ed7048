/-
**Requests for the keys of terminals.**

A key that is missing is asked for once: the terminal is pending until the answer, and its request waits
in a queue until it is submitted. After a reconnection all that are pending are queued again.

* `Sc3Dcks` — the keys, the pending terminals and the queue, with the operations on them.
* `dck_requests_iff` — **the three agree as long as each step meets this**, and no longer.
-/

import Bluestation.Config.KeyProvider
import Bluestation.Lib.Dictionary
import Bluestation.Lib.Run

namespace Bluestation

open Machines List

structure Sc3Dcks where
  dcks : Dictionary Nat RuntimeSc3Dck
  pendingDckRequests : List Nat
  dckRequests : List Nat

namespace Sc3Dcks

variable (sc3 : Sc3Dcks)

def hasDck (now issi : Nat) : Bool := (sc3.dcks.lookup issi).any (runtimeDckIsUsable now)

/-- Ask for a key, unless there is one or it is asked for; a key that has expired is dropped. -/
def queueDckRequest (now issi : Nat) : Sc3Dcks :=
  if issi = 0 ∨ 0xffffff < issi then sc3
  else if sc3.hasDck now issi then sc3
  else if issi ∈ sc3.pendingDckRequests then { sc3 with dcks := sc3.dcks.erase issi }
  else
    { dcks := sc3.dcks.erase issi
      pendingDckRequests := issi :: sc3.pendingDckRequests
      dckRequests := sc3.dckRequests ++ [issi] }

def takeDckRequests : Sc3Dcks × List Nat := ({ sc3 with dckRequests := [] }, sc3.dckRequests)

/-- Queue all that are pending again, in the order in which the set is iterated. -/
def retryPendingDckRequests (order : List Nat) : Sc3Dcks :=
  { sc3 with
    dckRequests := order.foldl (fun queue issi => if issi ∈ queue then queue else queue ++ [issi])
      sc3.dckRequests }

def rejectDck (issi : Nat) : Sc3Dcks :=
  { sc3 with pendingDckRequests := sc3.pendingDckRequests.filter (· ≠ issi) }

def installDck (issi : Nat) (dck : RuntimeSc3Dck) : Sc3Dcks :=
  { sc3.rejectDck issi with dcks := sc3.dcks.insert issi dck }

def revokeDck (issi : Nat) (contextId : KeyContextId) : Sc3Dcks :=
  if (sc3.dcks.lookup issi).any (·.contextId = contextId) then
    { sc3.rejectDck issi with dcks := sc3.dcks.erase issi }
  else sc3.rejectDck issi

end Sc3Dcks

/-! ### Runs -/

/-- The keys, and the terminals whose request was submitted since the last retry and not answered. -/
structure DckState where
  sc3 : Sc3Dcks
  outstanding : List Nat

inductive DckEvent where
  | queue (now issi : Nat)
  | take
  | retry (order : List Nat)
  | install (issi : Nat) (dck : RuntimeSc3Dck)
  | reject (issi : Nat)
  | revoke (issi : Nat) (contextId : KeyContextId)

namespace DckState

/-- A retry goes through the pending terminals, in any order. -/
def step (s : DckState) : DckEvent → Option DckState
  | .queue now issi => some { s with sc3 := s.sc3.queueDckRequest now issi }
  | .take =>
    let (sc3, requests) := s.sc3.takeDckRequests
    some ⟨sc3, s.outstanding ++ requests⟩
  | .retry order =>
    if order.Perm s.sc3.pendingDckRequests then some ⟨s.sc3.retryPendingDckRequests order, []⟩ else none
  | .install issi dck => some ⟨s.sc3.installDck issi dck, s.outstanding.filter (· ≠ issi)⟩
  | .reject issi => some ⟨s.sc3.rejectDck issi, s.outstanding.filter (· ≠ issi)⟩
  | .revoke issi contextId => some { s with sc3 := s.sc3.revokeDck issi contextId }

def machine : Machine DckState DckEvent where
  start s := s = ⟨⟨∅, [], []⟩, []⟩
  step := step

/-- **What is queued, pending, outstanding and known agrees.** -/
structure Sound (s : DckState) : Prop where
  once : s.sc3.dckRequests.Nodup
  queued : ∀ issi ∈ s.sc3.dckRequests, issi ∈ s.sc3.pendingDckRequests
  /-- What is queued was not submitted since the last retry, or it was answered. -/
  again : ∀ issi ∈ s.sc3.dckRequests, issi ∉ s.outstanding
  unanswered : ∀ issi ∈ s.outstanding, issi ∈ s.sc3.pendingDckRequests
  /-- No request is lost. -/
  kept : ∀ issi ∈ s.sc3.pendingDckRequests, issi ∈ s.sc3.dckRequests ∨ issi ∈ s.outstanding
  missing : ∀ issi ∈ s.sc3.pendingDckRequests, s.sc3.dcks.lookup issi = none

/-- Revoking a context that is not the present one changes neither a key nor who is pending. -/
def Keeps (s after : DckState) : DckEvent → Prop
  | .revoke issi contextId => (s.sc3.dcks.lookup issi).all (·.contextId ≠ contextId) →
      after.sc3.dcks = s.sc3.dcks ∧
        ∀ other, other ∈ after.sc3.pendingDckRequests ↔ other ∈ s.sc3.pendingDckRequests
  | _ => True

/-- An answer comes when the request is not waiting to be submitted, and what is revoked is not of a
terminal that is pending. -/
def Meets (s : DckState) : DckEvent → Prop
  | .install issi _ | .reject issi => issi ∉ s.sc3.dckRequests
  | .revoke issi _ => issi ∉ s.sc3.pendingDckRequests
  | _ => True

variable {s after : DckState} {event : DckEvent}

theorem mem_reject {sc3 : Sc3Dcks} {issi other : Nat} :
    other ∈ (sc3.rejectDck issi).pendingDckRequests ↔
      other ∈ sc3.pendingDckRequests ∧ other ≠ issi := by
  simp [Sc3Dcks.rejectDck]

theorem Sound.queue (sound : s.Sound) (now issi : Nat) :
    Sound { s with sc3 := s.sc3.queueDckRequest now issi } := by
  have gone (other : Nat) (lost : s.sc3.dcks.lookup other = none) :
      (s.sc3.dcks.erase issi).lookup other = none := by
    rw [Dictionary.lookup_erase, lost, ite_self]
  unfold Sc3Dcks.queueDckRequest
  split
  · exact sound
  split
  · exact sound
  split
  · exact { sound with missing := fun other pending => gone other (sound.missing other pending) }
  next fresh =>
    have notQueued : issi ∉ s.sc3.dckRequests := fun queued => fresh (sound.queued issi queued)
    have notOut : issi ∉ s.outstanding := fun out => fresh (sound.unanswered issi out)
    refine ⟨?_, fun other queued => ?_, fun other queued => ?_, fun other out => ?_,
      fun other pending => ?_, fun other pending => ?_⟩
    · exact nodup_append'.mpr ⟨sound.once, nodup_singleton _, disjoint_singleton.mpr notQueued⟩
    · rcases mem_append.mp queued with old | new
      · exact mem_cons_of_mem _ (sound.queued other old)
      · exact mem_cons.mpr (.inl (mem_singleton.mp new))
    · rcases mem_append.mp queued with old | new
      · exact sound.again other old
      · rwa [mem_singleton.mp new]
    · exact mem_cons_of_mem _ (sound.unanswered other out)
    · rcases mem_cons.mp pending with rfl | old
      · exact .inl (mem_append_right _ (mem_singleton_self _))
      · exact (sound.kept other old).imp_left (mem_append_left _)
    · rcases mem_cons.mp pending with rfl | old
      · exact AList.lookup_erase _ _
      · exact gone other (sound.missing other old)

theorem Sound.take (sound : s.Sound) :
    Sound ⟨s.sc3.takeDckRequests.1, s.outstanding ++ s.sc3.takeDckRequests.2⟩ where
  once := nodup_nil
  queued := nofun
  again := nofun
  unanswered other out := (mem_append.mp out).elim (sound.unanswered other) (sound.queued other)
  kept other pending := .inr (mem_append.mpr (sound.kept other pending).symm)
  missing := sound.missing

theorem retry_spec (order queue : List Nat) (once : queue.Nodup) :
    (order.foldl (fun queue issi => if issi ∈ queue then queue else queue ++ [issi]) queue).Nodup ∧
      ∀ other, other ∈ order.foldl
        (fun queue issi => if issi ∈ queue then queue else queue ++ [issi]) queue ↔
        other ∈ queue ∨ other ∈ order := by
  induction order generalizing queue with
  | nil => exact ⟨once, fun other => by simp⟩
  | cons issi rest ih =>
    rw [foldl_cons]
    split
    next there =>
      refine ⟨(ih queue once).1, fun other => ?_⟩
      rw [(ih queue once).2, mem_cons]
      constructor
      · tauto
      · rintro (old | rfl | new)
        exacts [.inl old, .inl there, .inr new]
    next absent =>
      have longer : (queue ++ [issi]).Nodup :=
        nodup_append'.mpr ⟨once, nodup_singleton _, disjoint_singleton.mpr absent⟩
      refine ⟨(ih _ longer).1, fun other => ?_⟩
      rw [(ih _ longer).2, mem_append, mem_singleton, mem_cons, or_assoc]

theorem Sound.retry (sound : s.Sound) {order : List Nat}
    (pending : order.Perm s.sc3.pendingDckRequests) :
    Sound ⟨s.sc3.retryPendingDckRequests order, []⟩ := by
  obtain ⟨once, all⟩ := retry_spec order s.sc3.dckRequests sound.once
  refine ⟨once, fun other queued => ?_, fun _ _ => nofun, nofun, fun other there => ?_, sound.missing⟩
  · exact ((all other).mp queued).elim (sound.queued other) pending.mem_iff.mp
  · exact .inl ((all other).mpr (.inr (pending.mem_iff.mpr there)))

/-- An answer to a request that was submitted. -/
theorem Sound.answer (sound : s.Sound) {issi : Nat} (submitted : issi ∉ s.sc3.dckRequests)
    {dcks : Dictionary Nat RuntimeSc3Dck}
    (others : ∀ other, other ≠ issi → dcks.lookup other = s.sc3.dcks.lookup other) :
    Sound ⟨{ s.sc3.rejectDck issi with dcks }, s.outstanding.filter (· ≠ issi)⟩ := by
  refine ⟨sound.once, fun other queued => ?_, fun other queued out => ?_, fun other out => ?_,
    fun other pending => ?_, fun other pending => ?_⟩
  · exact mem_reject.mpr ⟨sound.queued other queued, fun same => submitted (same ▸ queued)⟩
  · exact sound.again other queued (mem_filter.mp out).1
  · obtain ⟨old, different⟩ := mem_filter.mp out
    exact mem_reject.mpr ⟨sound.unanswered other old, of_decide_eq_true different⟩
  · obtain ⟨old, different⟩ := mem_reject.mp pending
    exact (sound.kept other old).imp_right fun out =>
      mem_filter.mpr ⟨out, decide_eq_true different⟩
  · obtain ⟨old, different⟩ := mem_reject.mp pending
    exact (others other different).trans (sound.missing other old)

theorem rejectDck_eq {sc3 : Sc3Dcks} {issi : Nat} (idle : issi ∉ sc3.pendingDckRequests) :
    sc3.rejectDck issi = sc3 := by
  have same : sc3.pendingDckRequests.filter (· ≠ issi) = sc3.pendingDckRequests :=
    filter_eq_self.mpr fun other there => decide_eq_true fun equal => idle (equal ▸ there)
  rw [Sc3Dcks.rejectDck, same]

/-- **A step that meets the condition** leaves a sound state. -/
theorem Sound.step (sound : s.Sound) (meets : s.Meets event) (stepped : s.step event = some after) :
    after.Sound ∧ Keeps s after event := by
  cases event with
  | queue now issi =>
    cases stepped
    exact ⟨sound.queue now issi, trivial⟩
  | take =>
    cases stepped
    exact ⟨sound.take, trivial⟩
  | retry order =>
    dsimp only [DckState.step] at stepped
    split_ifs at stepped with pending
    cases stepped
    exact ⟨sound.retry pending, trivial⟩
  | install issi dck =>
    cases stepped
    exact ⟨sound.answer meets fun other different => AList.lookup_insert_ne different, trivial⟩
  | reject issi =>
    cases stepped
    exact ⟨sound.answer meets fun _ _ => rfl, trivial⟩
  | revoke issi contextId =>
    cases stepped
    unfold Sc3Dcks.revokeDck Keeps
    rw [rejectDck_eq meets]
    split
    next present =>
      refine ⟨{ sound with missing := fun other pending => ?_ }, fun superseded => ?_⟩
      · exact (Dictionary.lookup_erase _ _ _).trans (by rw [sound.missing other pending, ite_self])
      · cases found : s.sc3.dcks.lookup issi with
        | none => simp [found] at present
        | some dck => simp_all
    · exact ⟨sound, fun _ => ⟨rfl, fun _ => Iff.rfl⟩⟩

/-- A step that does not meet it leaves a queued terminal that is not pending, or forgets who is. -/
theorem Sound.meets (sound : s.Sound) (stepped : s.step event = some after) (good : after.Sound)
    (keeps : Keeps s after event) : s.Meets event := by
  cases event with
  | install issi dck =>
    cases stepped
    exact fun queued => (mem_reject.mp (good.queued issi queued)).2 rfl
  | reject issi =>
    cases stepped
    exact fun queued => (mem_reject.mp (good.queued issi queued)).2 rfl
  | revoke issi contextId =>
    cases stepped
    intro pending
    have missing := sound.missing issi pending
    have same := (keeps (by rw [missing]; rfl)).2 issi
    unfold Sc3Dcks.revokeDck at same
    rw [missing] at same
    exact (mem_reject.mp (same.mpr pending)).2 rfl
  | _ => trivial

theorem sound_of_reachable (reachable : Reachable machine Meets s) : s.Sound := by
  refine reachable.invariant (fun first starts => ?_) fun state event next sound meets stepped =>
    (sound.step meets stepped).1
  cases starts
  exact ⟨nodup_nil, nofun, nofun, nofun, nofun, nofun⟩

/-- **main result** — while each step meets the condition, the queue, the pending terminals and the keys
agree: nothing is queued twice, what is queued is pending and was not submitted since the last retry or
was answered, no request is lost, and a pending terminal has no usable key. A step that does not meet it
breaks this, or takes away what is pending for a newer context. -/
theorem dck_requests_iff (reachable : Reachable machine Meets s) :
    s.Sound ∧ (∀ issi ∈ s.sc3.pendingDckRequests, ∀ now, s.sc3.hasDck now issi = false) ∧
      ∀ event after, s.step event = some after →
        (after.Sound ∧ Keeps s after event ↔ s.Meets event) := by
  have sound := sound_of_reachable reachable
  refine ⟨sound, fun issi pending now => ?_, fun event after stepped =>
    ⟨fun good => sound.meets stepped good.1 good.2, fun meets => sound.step meets stepped⟩⟩
  rw [Sc3Dcks.hasDck, sound.missing issi pending]
  rfl

theorem dck_requests_submitted : (⟨⟨∅, [5], []⟩, [5]⟩ : DckState).Sound := by
  have first : machine.step ⟨⟨∅, [], []⟩, []⟩ (.queue 0 5) = some ⟨⟨∅, [5], [5]⟩, []⟩ := rfl
  have second : machine.step ⟨⟨∅, [5], [5]⟩, []⟩ .take = some ⟨⟨∅, [5], []⟩, [5]⟩ := rfl
  exact (dck_requests_iff ⟨_, rfl, .head ⟨.queue 0 5, trivial, first⟩
    (.single ⟨.take, trivial, second⟩)⟩).1

/-- **A request is queued twice**: it is rejected before it was submitted, and asked for again. -/
theorem request_queued_twice :
    ¬ ∀ s : DckState, Reachable machine always s → s.sc3.dckRequests.Nodup := by
  intro once
  have first : machine.step ⟨⟨∅, [], []⟩, []⟩ (.queue 0 5) = some ⟨⟨∅, [5], [5]⟩, []⟩ := rfl
  have second : machine.step ⟨⟨∅, [5], [5]⟩, []⟩ (.reject 5) = some ⟨⟨∅, [], [5]⟩, []⟩ := rfl
  have third : machine.step ⟨⟨∅, [], [5]⟩, []⟩ (.queue 0 5) = some ⟨⟨∅, [5], [5, 5]⟩, []⟩ := rfl
  have twice := once _ ⟨_, rfl, .head ⟨_, trivial, first⟩
    (.head ⟨_, trivial, second⟩ (.single ⟨_, trivial, third⟩))⟩
  exact absurd twice (by decide)

end DckState

end Bluestation
