/-
**Subscribers come, go, and change their groups.**

Mobility management reports every change of a subscriber. Call control keeps the sets of groups and, beside
them, how many listeners every group has. A group without a listener loses its calls, and a call that was
put off starts once its group has a listener.

* `Cc.CcBs.dropGroupCallsIfUnlistened` — the calls of a group that nobody listens to.
* `Cc.CcBs.activatePendingRemoteSwmiCalls` — the calls that were put off.
* `Cc.CcBs.handleSubscriberUpdate` — one report.
-/

import Bluestation.Cmce.Release
import Bluestation.Lib.Headcount

namespace Bluestation.Cc

inductive SubscriberAction where
  | register | deregister | affiliate | deaffiliate | scanningState

structure MmSubscriberUpdate where
  issi : Nat
  groups : List Nat
  classOfUsage : List Nat
  scanningEnabled : Option Bool
  action : SubscriberAction

namespace Subscribers

variable (subscribers : Subscribers)

/-- The groups of a subscriber; none for a subscriber that is not known. -/
def groupsOf (issi : Nat) : Table Unit := Headcount.groupsOf subscribers.subscriberGroups issi

variable (issi : Nat)

def setGroups (groups : Table Unit) : Subscribers :=
  { subscribers with subscriberGroups := subscribers.subscriberGroups.insert issi groups }

/-- One group of an attachment; a group that is new is noted. -/
def attachGroup (state : Subscribers × List Nat) (group : Nat × Nat) : Subscribers × List Nat :=
  let classed :=
    { state.1 with
      subscriberGroupCou := state.1.subscriberGroupCou.insert (issi, group.1) group.2 }
  if group.1 ∈ classed.groupsOf issi then (classed, state.2)
  else (classed.setGroups issi ((classed.groupsOf issi).insert group.1 ()), state.2 ++ [group.1])

/-- The groups with their classes of usage, in order. A class that is missing is 0. -/
def classed (groups classOfUsage : List Nat) : List (Nat × Nat) :=
  groups.mapIdx fun index gssi => (gssi, (classOfUsage[index]?).getD 0)

/-- One group of a detachment; a group that the subscriber had is noted. -/
def detachGroup (state : Subscribers × List Nat) (gssi : Nat) : Subscribers × List Nat :=
  let classed :=
    { state.1 with
      subscriberGroupCou := state.1.subscriberGroupCou.erase (issi, gssi) }
  if gssi ∈ classed.groupsOf issi then
    (classed.setGroups issi ((classed.groupsOf issi).erase gssi), state.2 ++ [gssi])
  else (classed, state.2)

/-- A subscriber leaves groups; the groups that it has left. Of a stranger, all groups count as left. -/
def detach (groups : List Nat) : Subscribers × List Nat :=
  match subscribers.subscriberGroups.lookup issi with
  | none => (subscribers, groups)
  | some _ =>
    let detached := groups.foldl (detachGroup issi) (subscribers, [])
    (detached.2.foldl decGroupListener detached.1, detached.2)

/-- A subscriber that is not known any more, but for the counters. -/
def removeGroups : Subscribers :=
  { subscribers with subscriberGroups := subscribers.subscriberGroups.erase issi }

def forgetSettings : Subscribers :=
  { subscribers with
    subscriberGroupCou := subscribers.subscriberGroupCou.retain fun key _ => key.1 ≠ issi
    subscriberScanningEnabled := subscribers.subscriberScanningEnabled.erase issi }

def setScanning (enabled : Bool) : Subscribers :=
  { subscribers with
    subscriberScanningEnabled := subscribers.subscriberScanningEnabled.insert issi enabled }

end Subscribers

namespace CcBs

variable (s : CcBs) (setting : CcSetting)

/-- A call without listeners ends. -/
def dropGroupCall (order : List Nat) (s : CcBs) (entry : (_ : Nat) × ActiveCall) : CcBs :=
  (match CallOrigin.brewUuid entry.2.origin with
  | some brewUuid =>
    if setting.isBrewGssiRoutable entry.2.destGssi then s.tell .brew (.networkCallEnd brewUuid) else s
  | none => s).releaseCall setting order entry.1

def dropGroupCallsIfUnlistened (order : List Nat) (s : CcBs) (gssi : Nat) : CcBs :=
  if s.hasListener gssi then s
  else
    ((s.activeCalls.rearrange order).entries.filter fun entry => entry.2.destGssi = gssi).foldl
      (dropGroupCall setting order) s

/-- A call that was put off starts. -/
def activatePending (s : CcBs) (callId : Nat) : CcBs :=
  match s.pendingRemoteSwmiCalls.lookup callId with
  | none => s
  | some call =>
    { s with
      pendingRemoteSwmiCalls :=
        s.pendingRemoteSwmiCalls.erase callId }.startRemoteSwmiCall callId call

def activatePendingRemoteSwmiCalls (order groups : List Nat) : CcBs :=
  (((s.pendingRemoteSwmiCalls.rearrange order).entries.filter fun entry =>
      entry.2.gssi ∈ groups && s.hasListener entry.2.gssi).map (·.1)).foldl activatePending s

/-- The private calls of a terminal whose endpoint is at the cell. -/
def privateCallsOf (order : List Nat) (issi : Nat) : List Nat :=
  ((s.privateCalls.rearrange order).entries.filter fun entry =>
    entry.2.localMask &&& (if entry.2.callerItsi = issi then 1
      else if entry.2.calleeItsi = issi then 2 else 0) ≠ 0).map (·.1)

def dropMembership (order : List Nat) (s : CcBs) (gssi : Nat) : CcBs :=
  (s.setSubscribers (s.subscribers.decGroupListener gssi)).dropGroupCallsIfUnlistened setting order gssi

def register (issi : Nat) : CcBs :=
  s.setSubscribers ((s.subscribers.setGroups issi (s.subscribers.groupsOf issi)).scanByDefault issi)

/-- The groups of a subscriber that is gone lose it. -/
def dropMemberships (order : List Nat) (issi : Nat) : CcBs :=
  match s.subscribers.subscriberGroups.lookup issi with
  | none => s
  | some groups =>
    (groups.rearrange order).keys.foldl (dropMembership setting order)
      (s.setSubscribers (s.subscribers.removeGroups issi))

def forgetSubscriber (issi : Nat) : CcBs :=
  { s.setSubscribers (s.subscribers.forgetSettings issi) with
    listeningCandidates := s.listeningCandidates.erase issi }

def deregister (order : List Nat) (issi : Nat) : CcBs :=
  (((s.privateCallsOf order issi).foldl releasePrivateCallLocal s).dropMemberships setting order
    issi).forgetSubscriber issi

def affiliate (order : List Nat) (issi : Nat) (groups classOfUsage : List Nat) : CcBs :=
  let known := s.subscribers.setGroups issi (s.subscribers.groupsOf issi)
  let attached := (Subscribers.classed groups classOfUsage).foldl (Subscribers.attachGroup issi)
    (known, [])
  let counted := s.setSubscribers (attached.2.foldl Subscribers.incGroupListener attached.1)
  reconcileSubscriberGroupListeners order (counted.activatePendingRemoteSwmiCalls order attached.2) issi

def deaffiliate (order : List Nat) (issi : Nat) (groups : List Nat) : CcBs :=
  let removed := s.subscribers.detach issi groups
  let dropped := removed.2.foldl (dropGroupCallsIfUnlistened setting order)
    (s.setSubscribers removed.1)
  reconcileSubscriberGroupListeners order dropped issi

/-- A report of mobility management. -/
def handleSubscriberUpdate (order : List Nat) (update : MmSubscriberUpdate) : CcBs :=
  match update.action with
  | .register => s.register update.issi
  | .deregister => s.deregister setting order update.issi
  | .affiliate => s.affiliate order update.issi update.groups update.classOfUsage
  | .deaffiliate => s.deaffiliate setting order update.issi update.groups
  | .scanningState =>
    match update.scanningEnabled with
    | none => s
    | some enabled =>
      reconcileSubscriberGroupListeners order
        (s.setSubscribers (s.subscribers.setScanning update.issi enabled)) update.issi

end CcBs

end Bluestation.Cc
