/-
**Where terminals listen.**

Call control keeps, for every terminal, the channels where it is likely to listen: those of the calls it
has spoken in, and of the calls of its groups.

* `Cc.CcBs.trackGroupCallListeners` — the listeners of a call that has started.
* `Cc.CcBs.ListensOnly` — an operation that changes nothing else.
-/

import Bluestation.Cmce.CallState

namespace Bluestation.Cc

open List

namespace CcBs

section Operations

variable (s : CcBs)

def privateCallIsConnectedFor (issi : Nat) : Bool :=
  s.privateCalls.entries.any fun entry =>
    entry.2.connected && (entry.2.callerItsi = issi || entry.2.calleeItsi = issi) &&
      (s.privateCircuits.lookup (entry.1, issi)).isSome

/-- The newest candidate comes first, and no more than three are kept. -/
def recordListeningCandidate (s : CcBs) (issi : Nat) (candidate : ListeningCandidate) : CcBs :=
  s.setCandidates issi ((candidate :: ((s.listeningCandidates.lookup issi).getD []).filter
    fun existing => existing.callId ≠ candidate.callId || existing.timeslot ≠ candidate.timeslot).take 3)

def groupCandidate (callId : Nat) (call : ActiveCall) (confirmed : Bool) : ListeningCandidate :=
  ⟨callId, call.ts, call.usage, .group call.destGssi, s.dltime, confirmed⟩

def peerOf (callId issi : Nat) : Nat :=
  match s.privateCalls.lookup callId with
  | some call => if call.callerItsi = issi then call.calleeItsi else call.callerItsi
  | none => 0

/-- A terminal was heard in a call. -/
def recordUplinkCallLocation (issi callId : Nat) : CcBs :=
  match s.privateCircuits.lookup (callId, issi) with
  | some circuit =>
    s.recordListeningCandidate issi
      ⟨callId, circuit.ts, circuit.usage, .individual (s.peerOf callId issi), s.dltime, true⟩
  | none =>
    match s.activeCalls.lookup callId with
    | some call => s.recordListeningCandidate issi (s.groupCandidate callId call true)
    | none => s

def listenersOf (gssi : Nat) : List Nat :=
  s.subscribers.subscriberGroups.keys.filter fun issi =>
    s.subscribers.attached issi gssi && s.subscribers.groupIsReceivable issi gssi &&
      !s.privateCallIsConnectedFor issi

def trackGroupCallListeners (callId : Nat) : CcBs :=
  match s.activeCalls.lookup callId with
  | none => s
  | some call =>
    (s.listenersOf call.destGssi).foldl
      (fun s issi => s.recordListeningCandidate issi (s.groupCandidate callId call false)) s

def eligibleCalls (order : List Nat) (issi : Nat) : List ((_ : Nat) × ActiveCall) :=
  (s.activeCalls.rearrange order).entries.filter fun entry =>
    s.subscribers.attached issi entry.2.destGssi &&
      s.subscribers.groupIsReceivable issi entry.2.destGssi

/-- The candidates that are still good. -/
def stillGood (eligible : List ((_ : Nat) × ActiveCall)) (candidate : ListeningCandidate) : Bool :=
  match candidate.service with
  | .group _ => eligible.any fun entry =>
    entry.1 = candidate.callId && entry.2.ts = candidate.timeslot
  | .individual _ => true

/-- Only candidates that are still good are kept. -/
def retainCandidates (issi : Nat) (eligible : List ((_ : Nat) × ActiveCall)) : CcBs :=
  match s.listeningCandidates.lookup issi with
  | none => s
  | some candidates =>
    let kept := candidates.filter (stillGood eligible)
    if kept.isEmpty then { s with listeningCandidates := s.listeningCandidates.erase issi }
    else s.setCandidates issi kept

/-- A call becomes a candidate, if it is none. -/
def addCandidate (issi : Nat) (s : CcBs) (entry : (_ : Nat) × ActiveCall) : CcBs :=
  if ((s.listeningCandidates.lookup issi).getD []).any fun candidate =>
      candidate.callId = entry.1 && candidate.timeslot = entry.2.ts then s
  else s.recordListeningCandidate issi (s.groupCandidate entry.1 entry.2 false)

/-- The groups of a terminal or the calls have changed. -/
def reconcileSubscriberGroupListeners (order : List Nat) (s : CcBs) (issi : Nat) : CcBs :=
  let eligible := s.eligibleCalls order issi
  let retained := s.retainCandidates issi eligible
  if retained.privateCallIsConnectedFor issi then retained
  else eligible.foldl (addCandidate issi) retained

def reconcileAllSubscriberGroupListeners (order : List Nat) : CcBs :=
  s.subscribers.subscriberGroups.keys.foldl (reconcileSubscriberGroupListeners order) s

end Operations

/-! ### Nothing else changes -/

/-- Only candidates of known terminals are changed, and nothing else. -/
structure ListensOnly (known : Nat → Prop) (s next : CcBs) : Prop where
  rest : next = { s with listeningCandidates := next.listeningCandidates }
  candidates : ∀ issi, next.listeningCandidates.lookup issi ≠ s.listeningCandidates.lookup issi →
    known issi

variable {known : Nat → Prop} {s next last : CcBs}

theorem ListensOnly.refl (s : CcBs) : ListensOnly known s s := ⟨rfl, fun _ changed => absurd rfl changed⟩

theorem ListensOnly.trans (first : ListensOnly known s next) (second : ListensOnly known next last) :
    ListensOnly known s last := by
  refine ⟨?_, fun issi changed => ?_⟩
  · rw [second.rest, first.rest]
  · by_cases same : next.listeningCandidates.lookup issi = s.listeningCandidates.lookup issi
    · exact second.candidates issi fun still => changed (still.trans same)
    · exact first.candidates issi same

theorem ListensOnly.foldl {Item : Type} {act : CcBs → Item → CcBs} {items : List Item}
    (one : ∀ s, ∀ item ∈ items, ListensOnly known s (act s item)) (s : CcBs) :
    ListensOnly known s (items.foldl act s) :=
  foldlRecOn items act (.refl s) fun next held item member => held.trans (one next item member)

variable {issi : Nat}

theorem listensOnly_setCandidates (isKnown : known issi) (s : CcBs)
    (candidates : List ListeningCandidate) :
    ListensOnly known s (s.setCandidates issi candidates) := by
  refine ⟨rfl, fun other changed => ?_⟩
  by_cases same : other = issi
  · exact same ▸ isKnown
  · exact absurd ((Table.lookup_insert_eq ..).trans (if_neg same)) changed

theorem listensOnly_record (isKnown : known issi) (s : CcBs) (candidate : ListeningCandidate) :
    ListensOnly known s (s.recordListeningCandidate issi candidate) :=
  listensOnly_setCandidates isKnown s _

theorem listensOnly_recordUplinkCallLocation (isKnown : known issi) (s : CcBs) (callId : Nat) :
    ListensOnly known s (s.recordUplinkCallLocation issi callId) := by
  unfold recordUplinkCallLocation
  split
  · exact listensOnly_record isKnown s _
  · split
    · exact listensOnly_record isKnown s _
    · exact .refl s

theorem listensOnly_trackGroupCallListeners
    (knows : ∀ issi ∈ s.subscribers.subscriberGroups.keys, known issi) (callId : Nat) :
    ListensOnly known s (s.trackGroupCallListeners callId) := by
  unfold trackGroupCallListeners
  split
  · exact .refl s
  · refine .foldl (fun state issi member => listensOnly_record (knows issi ?_) state _) s
    exact (mem_filter.mp member).1

theorem listensOnly_retainCandidates (isKnown : known issi) (s : CcBs)
    (eligible : List ((_ : Nat) × ActiveCall)) :
    ListensOnly known s (s.retainCandidates issi eligible) := by
  unfold retainCandidates
  split
  · exact .refl s
  · dsimp only
    split
    · refine ⟨rfl, fun other changed => ?_⟩
      by_cases same : other = issi
      · exact same ▸ isKnown
      · exact absurd ((Table.lookup_erase_eq ..).trans (if_neg same)) changed
    · exact listensOnly_setCandidates isKnown s _

theorem listensOnly_reconcile {order : List Nat} (isKnown : known issi) (s : CcBs) :
    ListensOnly known s (reconcileSubscriberGroupListeners order s issi) := by
  have retained := listensOnly_retainCandidates isKnown s (s.eligibleCalls order issi)
  unfold reconcileSubscriberGroupListeners
  dsimp only
  split
  · exact retained
  · refine retained.trans (.foldl (fun state entry _ => ?_) _)
    unfold addCandidate
    split
    · exact .refl state
    · exact listensOnly_record isKnown state _

theorem listensOnly_reconcileAll {order : List Nat}
    (knows : ∀ issi ∈ s.subscribers.subscriberGroups.keys, known issi) :
    ListensOnly known s (s.reconcileAllSubscriberGroupListeners order) :=
  ListensOnly.foldl (fun state issi member => listensOnly_reconcile (knows issi member) state) s

end CcBs

end Bluestation.Cc
