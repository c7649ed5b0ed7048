/-
**Addresses, transmit receipts and encryption requests.**

The small values that travel with a signalling message between the layers.
-/

import Bluestation.Core.Fields

namespace Bluestation

/-! ### Addresses -/

inductive SsiType where
  | unknown | ssi | issi | gssi | ussi | smi | esi | eventLabel
deriving DecidableEq

structure TetraAddress where
  ssi : Nat
  ssiType : SsiType
deriving DecidableEq

/-! ### Transmit receipts -/

inductive TxState where
  | pending | discarded | transmitted | lost | acknowledged
deriving DecidableEq

/-- The reporting half of a transmit receipt. -/
structure TxReporter where
  expectsAck : Bool
  state : TxState
deriving DecidableEq

namespace TxReporter

variable (reporter : TxReporter)

/-- Move from one state to another; any other current state is an invalid transition. -/
def mark (currState newState : TxState) : Except Fault TxReporter :=
  if reporter.state = currState then .ok { reporter with state := newState } else .error .panic

def markTransmitted : Except Fault TxReporter :=
  reporter.mark .pending .transmitted

def isDiscarded : Bool := reporter.state = .discarded

def new : TxReporter := ⟨true, .pending⟩

def markDiscarded : Except Fault TxReporter :=
  reporter.mark .pending .discarded

/-- Only a message that expects an acknowledgement is acknowledged. -/
def markAcknowledged : Except Fault TxReporter := do
  assertThat reporter.expectsAck
  reporter.mark .transmitted .acknowledged

def markLost : Except Fault TxReporter := do
  assertThat reporter.expectsAck
  reporter.mark .transmitted .lost

def reset : TxReporter := { reporter with state := .pending }

def isTransmitted : Bool :=
  match reporter.state with
  | .pending | .discarded => false
  | .transmitted | .lost | .acknowledged => true

def newUnacked : TxReporter := ⟨false, .pending⟩

def isInFinalState : Bool :=
  match reporter.state with
  | .pending => false
  | .discarded | .lost | .acknowledged => true
  | .transmitted => !reporter.expectsAck

end TxReporter

/-- A mark that the link layer makes on a receipt. -/
inductive TxMark where
  | transmitted | discarded | acknowledged | lost | reset
deriving DecidableEq

def TxReporter.apply (reporter : TxReporter) : TxMark → Except Fault TxReporter
  | .transmitted => reporter.markTransmitted
  | .discarded => reporter.markDiscarded
  | .acknowledged => reporter.markAcknowledged
  | .lost => reporter.markLost
  | .reset => .ok reporter.reset

/-! ### Encryption requests -/

inductive AieSubject where
  | system
  | individual (issi : Nat)
  | group (gssi : Nat)
  | call (callId : Nat) (issi gssi : Option Nat)
deriving DecidableEq

inductive AieScope where
  | macResource | macData | macFragment | basicLink | facch | traffic
deriving DecidableEq

inductive TerminalSecurityClass where
  | sc1 | sc2 | sc3 | unknown
deriving DecidableEq

inductive GroupProtection where
  | clear | networkEncrypted
deriving DecidableEq

/-- Policy request from an upper layer; `key` identifies an individual key. -/
inductive AieRequest (Key : Type) where
  | clear (subject : AieSubject) (scope : AieScope)
  | sc2 (subject : AieSubject) (scope : AieScope)
  | sc3 (subject : AieSubject) (scope : AieScope) (key : Option Key)
deriving DecidableEq

namespace AieRequest

variable {Key : Type}

/-- Keep the policy and the subject, select the region about to be sent. -/
def withScope (request : AieRequest Key) (scope : AieScope) : AieRequest Key :=
  match request with
  | clear subject _ => clear subject scope
  | sc2 subject _ => sc2 subject scope
  | sc3 subject _ key => sc3 subject scope key

/-- The same protection on the air, whatever the scopes. -/
def sameProtectionAs [DecidableEq Key] (request other : AieRequest Key) : Bool :=
  match request, other with
  | clear _ _, clear _ _ => true
  | sc2 left _, sc2 right _ => left = right
  | sc3 left _ leftKey, sc3 right _ rightKey =>
    left = right && (leftKey.isNone || rightKey.isNone || leftKey = rightKey)
  | _, _ => false

end AieRequest

end Bluestation
