/-
**The reservation requirement.**

What an uplink PDU asks for beyond the block that carries it: a subslot, a number of slots, or more
than 68 slots.

* `tryFrom_intoRaw` — the sixteen codes are the sixteen requirements.
-/

import Bluestation.Core.Fields

namespace Bluestation

inductive ReservationRequirement where
  | req1Subslot | req1Slot | req2Slots | req3Slots | req4Slots | req5Slots | req6Slots | req8Slots
  | req10Slots | req13Slots | req17Slots | req24Slots | req34Slots | req51Slots | req68Slots
  | reqOver68
deriving DecidableEq

namespace ReservationRequirement

def tryFrom : Nat → Option ReservationRequirement
  | 0 => some req1Subslot
  | 1 => some req1Slot
  | 2 => some req2Slots
  | 3 => some req3Slots
  | 4 => some req4Slots
  | 5 => some req5Slots
  | 6 => some req6Slots
  | 7 => some req8Slots
  | 8 => some req10Slots
  | 9 => some req13Slots
  | 10 => some req17Slots
  | 11 => some req24Slots
  | 12 => some req34Slots
  | 13 => some req51Slots
  | 14 => some req68Slots
  | 15 => some reqOver68
  | _ => none

def intoRaw : ReservationRequirement → Nat
  | req1Subslot => 0
  | req1Slot => 1
  | req2Slots => 2
  | req3Slots => 3
  | req4Slots => 4
  | req5Slots => 5
  | req6Slots => 6
  | req8Slots => 7
  | req10Slots => 8
  | req13Slots => 9
  | req17Slots => 10
  | req24Slots => 11
  | req34Slots => 12
  | req51Slots => 13
  | req68Slots => 14
  | reqOver68 => 15

/-- The required slots; a subslot and the open-ended requirement are not implemented. -/
def toReqSlotcount : ReservationRequirement → Except Fault Nat
  | req1Subslot => .error .panic
  | req1Slot => .ok 1
  | req2Slots => .ok 2
  | req3Slots => .ok 3
  | req4Slots => .ok 4
  | req5Slots => .ok 5
  | req6Slots => .ok 6
  | req8Slots => .ok 8
  | req10Slots => .ok 10
  | req13Slots => .ok 13
  | req17Slots => .ok 17
  | req24Slots => .ok 24
  | req34Slots => .ok 34
  | req51Slots => .ok 51
  | req68Slots => .ok 68
  | reqOver68 => .error .panic

theorem tryFrom_intoRaw (requirement : ReservationRequirement) :
    tryFrom requirement.intoRaw = some requirement := by
  cases requirement <;> rfl

end ReservationRequirement

end Bluestation
