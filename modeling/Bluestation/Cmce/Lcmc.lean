/-
**Call control's downlink requests, and its channel to the network.**

* `LcmcMleUnitdataReq` — what a part of call control asks the layer below to send.
* `SwmiEndpoint` — the bounded channel to the network, for any kind of message.
-/

import Bluestation.Sndcp.Messages

namespace Bluestation

/-! ### Downlink requests -/

/-- A request for a downlink PDU; `txReporter` is the receipt that travels with it. -/
structure LcmcMleUnitdataReq where
  sdu : List Bool
  layer2service : Layer2Service
  mainAddress : TetraAddress
  associatedChannel : Option AssociatedChannel
  aieOverride : Option (AieRequest Unit)
  txReporter : Option Nat

/-- Signalling for one terminal is acknowledged, other signalling is not. -/
def layer2serviceFor (destinationType : SsiType) : Layer2Service :=
  if destinationType = .issi then .acknowledged else .unacknowledged

/-! ### The channel to the network -/

/-- The bounded channel to the network: whether the network is there, the free places, and every
message that was handed to it, with whether there was room. -/
structure SwmiEndpoint (Message : Type) where
  online : Bool
  room : Nat
  handed : List (Message × Bool)

namespace SwmiEndpoint

variable {Message : Type} (endpoint : SwmiEndpoint Message)

def accepts : Bool := 0 < endpoint.room

/-- A message for which there is no room is given back, and is gone. -/
def submit (message : Message) : SwmiEndpoint Message :=
  { endpoint with
    room := endpoint.room - 1
    handed := endpoint.handed ++ [(message, endpoint.accepts)] }

def taken : List Message := (endpoint.handed.filter (·.2)).map (·.1)

theorem taken_submit (message : Message) : (endpoint.submit message).taken =
      endpoint.taken ++ if endpoint.accepts then [message] else [] := by
  unfold taken submit
  rw [List.filter_append, List.map_append]
  cases endpoint.accepts <;> rfl

end SwmiEndpoint

def wrappingSuccessor (number : Nat) : Nat := max ((number + 1) % 2 ^ 64) 1

end Bluestation
