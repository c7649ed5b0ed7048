/-
**Circuits of call control.**

A circuit is open on a traffic timeslot in both directions, has the identifier of its call, and a usage
marker. Its timeslot comes from the allocator that all users of timeslots share.

* `Cc.CircuitMgr.allocateCircuitWithAllocatorAndCallId` — a circuit for a call of the network.
* `Cc.CircuitMgr.openOn_opens` — a circuit that is allocated is open on its timeslot.
-/

import Bluestation.Core.TdmaTime
import Bluestation.Core.TimeslotAlloc
import Bluestation.Lib.Table

namespace Bluestation.Cc

inductive CommunicationType where
  | p2p | p2mp | p2mpAcked | broadcast
deriving DecidableEq

structure CmceCircuit where
  tsCreated : TdmaTime
  ts : Nat
  callId : Nat
  usage : Nat
  commType : CommunicationType
  simplexDuplex : Bool

/-- The open circuits by timeslot, and the counters of call identifiers and usage markers. Call control
opens circuits in both directions only. -/
structure CircuitMgr where
  dltime : TdmaTime
  dl : Table CmceCircuit
  nextCallIdentifier : Nat
  nextUsageNumber : Nat

namespace CircuitMgr

def new (dltime : TdmaTime) : CircuitMgr := ⟨dltime, ∅, 4, 4⟩

variable (circuits : CircuitMgr)

def callIdAt (ts : Nat) : Option Nat := (circuits.dl.lookup ts).map (·.callId)

def getNextCallId : Nat × CircuitMgr :=
  (circuits.nextCallIdentifier, { circuits with
    nextCallIdentifier :=
      if circuits.nextCallIdentifier + 1 > 0x3ff then 1 else circuits.nextCallIdentifier + 1 })

def getNextUsageNumber : Nat × CircuitMgr :=
  (circuits.nextUsageNumber, { circuits with
    nextUsageNumber := if circuits.nextUsageNumber + 1 > 63 then 4 else circuits.nextUsageNumber + 1 })

def openCircuit (circuit : CmceCircuit) : Option CmceCircuit × CircuitMgr :=
  if (circuits.dl.lookup circuit.ts).isSome then (none, circuits)
  else (some circuit, { circuits with dl := circuits.dl.insert circuit.ts circuit })

def closeCircuit (ts : Nat) : Option CmceCircuit × CircuitMgr :=
  (circuits.dl.lookup ts, { circuits with dl := circuits.dl.erase ts })

/-- A circuit on a timeslot that the allocator gave, with a new usage marker. -/
def openOn (ts callId : Nat) (commType : CommunicationType) (simplexDuplex : Bool) :
    Option CmceCircuit × CircuitMgr :=
  let drawn := circuits.getNextUsageNumber
  drawn.2.openCircuit ⟨circuits.dltime, ts, callId, drawn.1, commType, simplexDuplex⟩

/-- A circuit for a call that gets its identifier here. -/
def allocateCircuitWithAllocator (commType : CommunicationType) (alloc : TimeslotAllocator) :
    Option CmceCircuit × CircuitMgr × TimeslotAllocator :=
  match alloc.allocateAny .cmce with
  | (none, asked) => (none, circuits, asked)
  | (some ts, given) =>
    let drawn := circuits.getNextCallId
    let opened := drawn.2.openOn ts drawn.1 commType false
    (opened.1, opened.2, given)

/-- A circuit for a call whose identifier comes from the network. -/
def allocateCircuitWithAllocatorAndCallId (commType : CommunicationType) (alloc : TimeslotAllocator)
    (callId : Nat) (simplexDuplex : Bool) : Option CmceCircuit × CircuitMgr × TimeslotAllocator :=
  if callId = 0 || callId > 0x3fff then (none, circuits, alloc)
  else match alloc.allocateAny .cmce with
    | (none, asked) => (none, circuits, asked)
    | (some ts, given) =>
      let opened := circuits.openOn ts callId commType simplexDuplex
      (opened.1, opened.2, given)

def validCallId (callId : Nat) : Bool := callId ≠ 0 && callId ≤ 0x3fff

variable {circuits}

/-- **A circuit that is allocated is open on its timeslot**, with the identifier of its call. -/
theorem openOn_opens {ts callId : Nat} {commType : CommunicationType} {simplexDuplex : Bool}
    {circuit : CmceCircuit} (opened : (circuits.openOn ts callId commType simplexDuplex).1 =
      some circuit) :
    circuit.ts = ts ∧ circuit.callId = callId ∧ circuit.usage = circuits.nextUsageNumber ∧
      (circuits.openOn ts callId commType simplexDuplex).2.dl = circuits.dl.insert ts circuit := by
  unfold openOn openCircuit at opened ⊢
  dsimp only at opened ⊢
  split at opened
  · cases opened
  next free =>
    rw [if_neg free]
    cases opened
    exact ⟨rfl, rfl, rfl, rfl⟩

theorem callIdAt_insert {ts callId : Nat} {circuit : CmceCircuit} {next : CircuitMgr}
    (opened : next.dl = circuits.dl.insert ts circuit) (names : circuit.callId = callId) :
    next.callIdAt ts = some callId := by
  unfold callIdAt
  rw [opened, AList.lookup_insert, Option.map_some, names]

end CircuitMgr

end Bluestation.Cc
