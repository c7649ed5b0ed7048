/-
**The basic slot grant.**

A grant names how many uplink (sub)slots are given and how many opportunities to wait for the first.

* `reads_fromBitbuf`, `writes_toBitbuf` — a grant on the wire is its two four-bit fields.
* `capAlloc_tryFrom_intoRaw`, `grantingDelay_tryFrom_intoRaw` — each code names one value.
-/

import Bluestation.Core.Fields

namespace Bluestation

open Bits

/-- How many slots are granted. -/
inductive BasicSlotgrantCapAlloc where
  | firstSubslotGranted | grant1Slot | grant2Slots | grant3Slots | grant4Slots | grant5Slots
  | grant6Slots | grant8Slots | grant10Slots | grant13Slots | grant17Slots | grant24Slots
  | grant34Slots | grant51Slots | grant68Slots | secondSubslotGranted
deriving DecidableEq

namespace BasicSlotgrantCapAlloc

def tryFrom : Nat → Option BasicSlotgrantCapAlloc
  | 0 => some firstSubslotGranted
  | 1 => some grant1Slot
  | 2 => some grant2Slots
  | 3 => some grant3Slots
  | 4 => some grant4Slots
  | 5 => some grant5Slots
  | 6 => some grant6Slots
  | 7 => some grant8Slots
  | 8 => some grant10Slots
  | 9 => some grant13Slots
  | 10 => some grant17Slots
  | 11 => some grant24Slots
  | 12 => some grant34Slots
  | 13 => some grant51Slots
  | 14 => some grant68Slots
  | 15 => some secondSubslotGranted
  | _ => none

def intoRaw : BasicSlotgrantCapAlloc → Nat
  | firstSubslotGranted => 0
  | grant1Slot => 1
  | grant2Slots => 2
  | grant3Slots => 3
  | grant4Slots => 4
  | grant5Slots => 5
  | grant6Slots => 6
  | grant8Slots => 7
  | grant10Slots => 8
  | grant13Slots => 9
  | grant17Slots => 10
  | grant24Slots => 11
  | grant34Slots => 12
  | grant51Slots => 13
  | grant68Slots => 14
  | secondSubslotGranted => 15

/-- The grant for a number of required slots; 0 and 99 stand for the first and second subslot. -/
def fromReqSlotcount (req : Nat) : Except Fault BasicSlotgrantCapAlloc :=
  if req = 0 then .ok firstSubslotGranted
  else if req = 1 then .ok grant1Slot
  else if req = 2 then .ok grant2Slots
  else if req = 3 then .ok grant3Slots
  else if req = 4 then .ok grant4Slots
  else if req = 5 then .ok grant5Slots
  else if req = 6 then .ok grant6Slots
  else if req ≤ 8 then .ok grant8Slots
  else if req ≤ 10 then .ok grant10Slots
  else if req ≤ 13 then .ok grant13Slots
  else if req ≤ 17 then .ok grant17Slots
  else if req ≤ 24 then .ok grant24Slots
  else if req ≤ 34 then .ok grant34Slots
  else if req ≤ 51 then .ok grant51Slots
  else if req ≤ 68 then .ok grant68Slots
  else if req = 99 then .ok secondSubslotGranted
  else .error .panic

/-- The slots a grant gives; the subslot grants are not implemented. -/
def toReqSlotcount : BasicSlotgrantCapAlloc → Except Fault Nat
  | firstSubslotGranted => .error .panic
  | grant1Slot => .ok 1
  | grant2Slots => .ok 2
  | grant3Slots => .ok 3
  | grant4Slots => .ok 4
  | grant5Slots => .ok 5
  | grant6Slots => .ok 6
  | grant8Slots => .ok 8
  | grant10Slots => .ok 10
  | grant13Slots => .ok 13
  | grant17Slots => .ok 17
  | grant24Slots => .ok 24
  | grant34Slots => .ok 34
  | grant51Slots => .ok 51
  | grant68Slots => .ok 68
  | secondSubslotGranted => .error .panic

end BasicSlotgrantCapAlloc

/-- How long to wait for the granted slots. -/
inductive BasicSlotgrantGrantingDelay where
  | capAllocAtNextOpportunity
  /-- Wait `count` opportunities, where `count` is in the range 1..=13. -/
  | delayNOpportunities (count : Nat)
  | allocStartsAtOpportunityInFr18
  | waitForAnotherSlotgrantMessage
deriving DecidableEq

namespace BasicSlotgrantGrantingDelay

def tryFrom (raw : Nat) : Option BasicSlotgrantGrantingDelay :=
  if raw = 0 then some capAllocAtNextOpportunity
  else if raw ≤ 13 then some (delayNOpportunities raw)
  else if raw = 14 then some allocStartsAtOpportunityInFr18
  else if raw = 15 then some waitForAnotherSlotgrantMessage
  else none

def intoRaw : BasicSlotgrantGrantingDelay → Nat
  | capAllocAtNextOpportunity => 0
  | delayNOpportunities count => count
  | allocStartsAtOpportunityInFr18 => 14
  | waitForAnotherSlotgrantMessage => 15

def InRange : BasicSlotgrantGrantingDelay → Prop
  | delayNOpportunities count => 1 ≤ count ∧ count ≤ 13
  | _ => True

instance (delay : BasicSlotgrantGrantingDelay) : Decidable delay.InRange := by
  cases delay <;> simp only [InRange] <;> infer_instance

end BasicSlotgrantGrantingDelay

structure BasicSlotgrant where
  capacityAllocation : BasicSlotgrantCapAlloc
  grantingDelay : BasicSlotgrantGrantingDelay
deriving DecidableEq

namespace BasicSlotgrant

def fromBitbuf : BufM BasicSlotgrant := do
  let capAllocVal ← readField 4 "capacity_allocation"
  let some capacityAllocation := BasicSlotgrantCapAlloc.tryFrom capAllocVal
    | throw (.parse (.invalidValue "capacity_allocation" capAllocVal))
  let grantingDelayVal ← readField 4 "granting_delay"
  let some grantingDelay := BasicSlotgrantGrantingDelay.tryFrom grantingDelayVal
    | throw (.parse (.invalidValue "granting_delay" grantingDelayVal))
  pure ⟨capacityAllocation, grantingDelay⟩

variable (grant : BasicSlotgrant)

def toBitbuf : BufM Unit := do
  writeBits grant.capacityAllocation.intoRaw 4
  writeBits grant.grantingDelay.intoRaw 4

def wire : List Bool :=
  bitsOf 4 grant.capacityAllocation.intoRaw ++ bitsOf 4 grant.grantingDelay.intoRaw

@[simp] theorem length_wire : grant.wire.length = 8 := by
  simp [wire]

/-! ### Round trip -/

theorem capAlloc_tryFrom_intoRaw (allocation : BasicSlotgrantCapAlloc) :
    BasicSlotgrantCapAlloc.tryFrom allocation.intoRaw = some allocation := by
  cases allocation <;> rfl

theorem capAlloc_intoRaw_lt (allocation : BasicSlotgrantCapAlloc) : allocation.intoRaw < 2 ^ 4 := by
  cases allocation <;> decide

variable {delay : BasicSlotgrantGrantingDelay}

theorem grantingDelay_tryFrom_intoRaw
    (range : delay.InRange) : BasicSlotgrantGrantingDelay.tryFrom delay.intoRaw = some delay := by
  cases delay with
  | delayNOpportunities count =>
    obtain ⟨low, high⟩ := range
    rw [BasicSlotgrantGrantingDelay.intoRaw, BasicSlotgrantGrantingDelay.tryFrom,
      if_neg (show count ≠ 0 by omega), if_pos high]
  | _ => rfl

theorem grantingDelay_intoRaw_lt (range : delay.InRange) : delay.intoRaw < 2 ^ 4 := by
  cases delay with
  | delayNOpportunities count =>
    obtain ⟨_, high⟩ := range
    simp only [BasicSlotgrantGrantingDelay.intoRaw]
    omega
  | _ => decide

theorem writes_toBitbuf : Writes grant.toBitbuf grant.wire := .bits (writes_writeBits _ _)

/-- **A written grant is read back.** -/
theorem reads_fromBitbuf {grant : BasicSlotgrant} (range : grant.grantingDelay.InRange) :
    Reads fromBitbuf grant.wire grant := by
  refine .field (capAlloc_intoRaw_lt _) ?_
  rw [capAlloc_tryFrom_intoRaw]
  refine .finish (reads_readField _ (grantingDelay_intoRaw_lt range)) ?_
  rw [grantingDelay_tryFrom_intoRaw range]
  exact .pure _

end BasicSlotgrant

end Bluestation
