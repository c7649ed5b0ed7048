/-
**Fragmented SDUs on the uplink, over whole runs.**

Terminals send blocks; the base station hears a block or does not; ticks resume the accesses that
were put off. Beside the base station stands what each terminal has sent of its SDU, and the SDUs
that have been sent to their end.

* `careful_sdus_complete` — over careful steps the LLC is given only SDUs that were sent, complete.
* `gap_reachable` — a MAC-FRAG that is lost leaves a gap in the SDU that the LLC is given.
-/

import Bluestation.Umac.UplinkSdus

namespace Bluestation

open Bits Reassembly Machines Option Function

variable {Key Context : Type}

/-! ### The machine -/

/-- The base station's MAC, what each terminal has under way, and what has been sent to its end. -/
structure UplinkSdus (Key : Type) where
  umac : UmacBs Key
  sending : Nat → Option (Message (SduHead Key) Bool)
  sent : List (Message (SduHead Key) Bool)

inductive UplinkSdusEvent (Key Context : Type) where
  /-- A terminal sends a block; a block with an error is not heard. -/
  | block (air : Surroundings Key Context) (sender : Nat) (block : UplinkBlock Key) (heard : Bool)
  | tick (air : Surroundings Key Context) (ts : TdmaTime)

namespace UplinkSdus

/-- A terminal sends its fragments in their order; a fault ends the run. -/
def step (state : UplinkSdus Key) : UplinkSdusEvent Key Context → Option (UplinkSdus Key)
  | .block air sender block heard =>
    if inOrderAll (state.sending sender) block.pieces then
      (air.rxTmvPrim state.umac (if heard then some block.prim else none)).toOption.map
        fun umac =>
          ⟨umac, Function.update state.sending sender
            (afterAll (state.sending sender) block.pieces),
          state.sent ++ completesAll (state.sending sender) block.pieces⟩
    else none
  | .tick air ts =>
    (air.resumeSc3Access state.umac ts).toOption.map fun umac => { state with umac }

def init : UplinkSdus Key := ⟨.new, fun _ => none, []⟩

def machine (Key Context : Type) : Machine (UplinkSdus Key) (UplinkSdusEvent Key Context) where
  start := (· = init)
  step := step

/-- **What the LLC is given of fragmented SDUs** are SDUs that were sent, complete and in order, with
the address and the protection of their first fragments. -/
def Complete (state : UplinkSdus Key) : Prop :=
  (state.umac.reassembled.map (·.sdu)).Sublist (state.sent.map unscoped)

/-- A block that is heard is received cleanly, of one that is not heard nothing is missed, and what
is received again is still under way. -/
def Careful (state : UplinkSdus Key) : UplinkSdusEvent Key Context → Prop
  | .block air sender block true =>
    air.Clean sender block.prim block.tail state.umac.defrag.held block.pdus
  | .block _ sender block false => HarmlessToMiss (heldSdu state.umac.defrag.held sender) block.pieces
  | .tick air _ =>
    ∀ pending ∈ state.umac.pendingSc3Access, air.hasSc3Dck pending.issi = true →
      ∃ tail pdus, air.Resumable state.sending pending.message tail pdus

/-! ### Careful steps -/

/-- What careful steps keep. -/
structure Sound (state : UplinkSdus Key) : Prop where
  agree : Surroundings.AgreeAll state.umac state.sending
  protect : ∀ ssi, ∀ sdu ∈ state.sending ssi, sdu.head.2.isSome
  complete : state.Complete

theorem sound_init : (init : UplinkSdus Key).Sound := by
  exact ⟨fun _ => .none _, fun _ _ isSdu => (nomatch isSdu), List.nil_sublist _⟩

theorem protected_afterAll {underWay : Option (Message (SduHead Key) Bool)}
    (pdus : List (UplinkPdu Key)) (protect : ∀ sdu ∈ underWay, sdu.head.2.isSome) :
    ∀ sdu ∈ afterAll underWay (pdus.map (·.piece)), sdu.head.2.isSome := by
  induction pdus generalizing underWay with
  | nil => exact protect
  | cons pdu pdus ih => exact ih (Surroundings.protected_after pdu protect)

variable {state : UplinkSdus Key}

theorem Sound.receives {later : UmacBs Key} {sender : Nat} (sound : state.Sound)
    (block : UplinkBlock Key)
    (receives : Surroundings.Receives sender state.umac later (state.sending sender) block.pieces) :
    Sound ⟨later, Function.update state.sending sender
      (afterAll (state.sending sender) block.pieces),
      state.sent ++ completesAll (state.sending sender) block.pieces⟩ := by
  obtain ⟨agree, others, new, appended, completes⟩ := receives
  refine ⟨fun ssi => ?_, fun ssi => ?_, ?_⟩
  · dsimp only
    by_cases same : ssi = sender
    · subst same
      rw [update_self]
      exact agree
    · unfold heldSdu
      rw [update_of_ne same, others ssi same]
      exact sound.agree ssi
  · dsimp only
    by_cases same : ssi = sender
    · subst same
      rw [update_self]
      exact protected_afterAll block.pdus (sound.protect ssi)
    · rw [update_of_ne same]
      exact sound.protect ssi
  · show (later.reassembled.map _).Sublist _
    rw [appended, List.map_append, List.map_append]
    exact sound.complete.append completes

/-- **A careful step keeps it.** -/
theorem sound_step {next : UplinkSdus Key} {event : UplinkSdusEvent Key Context} (sound : state.Sound)
    (careful : state.Careful event) (stepped : state.step event = some next) : next.Sound := by
  cases event with
  | block air sender block heard =>
    obtain ⟨inOrder, stepped⟩ := ite_none_right_eq_some.mp stepped
    obtain ⟨later, ran, rfl⟩ := map_eq_some_iff.mp stepped
    replace ran := toOption_eq_some.mp ran
    refine sound.receives block ?_
    cases heard with
    | true =>
      exact air.rxTmvPrim_receives block careful (sound.agree sender) (sound.protect sender)
        inOrder ran
    | false =>
      cases ran
      exact .missed (sound.agree sender) careful
  | tick air ts =>
    obtain ⟨later, ran, rfl⟩ := map_eq_some_iff.mp stepped
    replace ran := toOption_eq_some.mp ran
    obtain ⟨agree, same⟩ := air.resumeSc3Access_resumes careful sound.agree ran
    refine ⟨agree, sound.protect, ?_⟩
    unfold Complete
    rw [same]
    exact sound.complete

/-- **In every run of careful steps the LLC is given complete SDUs only.** -/
theorem careful_sdus_complete {state : UplinkSdus Key}
    (reachable : Reachable (machine Key Context) Careful state) : state.Complete := by
  refine (Reachable.invariant reachable (fun first started => ?_)
    fun _ _ _ sound careful stepped => sound_step sound careful stepped).complete
  rw [show first = init from started]
  exact sound_init

/-! ### A terminal alone -/

/-- Cells in clear, in which the terminal 1001 owns every slot of timeslot 1. -/
def clearAir : Surroundings Unit Unit where
  resolve _ _ := .error .sc3Disabled
  resolveAssignedUplinkContext _ _ _ := .error .sc3Disabled
  resolveUplinkEsi _ _ _ := .error .sc3Disabled
  bindUnboundUplinkEsi _ _ _ := .error .sc3Disabled
  keyStream _ _ := .error .sc3Disabled
  sc3Key _ := none
  clearUplinkAllowed _ := true
  hasSc3Dck _ := false
  schedule := {
    curDltime := ⟨1, 1, 1, 0⟩
    ulsched := fun cell => if cell.1 = 0 then ⟨some 1001, some 1001⟩ else EMPTY_SCHED_ELEM
    associatedUlsched := []
    granted := [] }
  getAddrByLabel _ := none
  packetBearerIsActive _ := false
  inActiveOver _ := false
  trafficFloorHolder _ := none
  uplinkTrafficAie _ := none
  dltime := ⟨1, 1, 1, 0⟩

def ownPdu (header : UplinkHeader) (field : List Bool) : UplinkPdu Unit :=
  ⟨header, field, 0, field, ⟨1001, .issi⟩, .clear (.individual 1001) .macData⟩

/-- A MAC-DATA that begins an SDU, with 231 bits of it. -/
def startBlock : UplinkBlock Unit where
  logicalChannel := .schF
  blockNum := .both
  ulTime := ⟨1, 1, 1, 0⟩
  scramblingCode := 0
  pdus := [ownPdu (.data ⟨false, false, some ⟨1001, .issi⟩, none, none, some true, some .req2Slots⟩)
    (List.replicate 231 true)]
  tail := []
  channels := .inl rfl
  sendable := ⟨⟨⟨nofun, ⟨.identity (by decide), .capReq _ _⟩, fun _ is => nomatch is⟩, rfl, rfl⟩,
    .short (by decide)⟩
  length := by decide +kernel

/-- A MAC-FRAG with 264 bits more. -/
def fragBlock : UplinkBlock Unit where
  logicalChannel := .schF
  blockNum := .both
  ulTime := ⟨1, 2, 1, 0⟩
  scramblingCode := 0
  pdus := [ownPdu (.frag ⟨false⟩) (List.replicate 264 false)]
  tail := []
  channels := .inl rfl
  sendable := ⟨⟨nofun, rfl, rfl⟩, .short (by decide)⟩
  length := by decide +kernel

/-- A MAC-END with the last 254 bits. -/
def endBlock : UplinkBlock Unit where
  logicalChannel := .schF
  blockNum := .both
  ulTime := ⟨1, 3, 1, 0⟩
  scramblingCode := 0
  pdus := [ownPdu (.macEndUl ⟨false, some 33, none⟩) (List.replicate 254 true)]
  tail := List.replicate 4 false
  channels := .inl rfl
  sendable := ⟨⟨⟨nofun, .inl ⟨33, by decide, by decide, rfl, rfl⟩⟩, rfl, .inl (by decide +kernel)⟩,
    .short (by decide)⟩
  length := by decide +kernel

/-- The SDU of the three blocks, and what is left of it without the second. -/
def wholeSdu : List Bool :=
  List.replicate 231 true ++ (List.replicate 264 false ++ List.replicate 254 true)

def gappedSdu : List Bool := List.replicate 231 true ++ List.replicate 254 true

theorem next_of_heard {air : Surroundings Key Context} {sender : Nat} {block : UplinkBlock Key}
    {next : UplinkSdus Key}
    (clean : air.Clean sender block.prim block.tail state.umac.defrag.held block.pdus)
    (stepped : state.step (.block air sender block true) = some next) :
    Next (machine Key Context) Careful state next :=
  ⟨.block air sender block true, clean, stepped⟩

theorem threeBlocks_careful : ∃ state : UplinkSdus Unit,
    Reachable (machine Unit Unit) Careful state ∧
      state.umac.reassembled.map (·.pdu) = [wholeSdu] := by
  have ran : (init.step (.block clearAir 1001 startBlock true)).any (fun first =>
      decide (clearAir.Clean 1001 fragBlock.prim fragBlock.tail first.umac.defrag.held
        fragBlock.pdus) &&
      (first.step (.block clearAir 1001 fragBlock true)).any fun second =>
        decide (clearAir.Clean 1001 endBlock.prim endBlock.tail second.umac.defrag.held
          endBlock.pdus) &&
        (second.step (.block clearAir 1001 endBlock true)).any fun third =>
          decide (third.umac.reassembled.map (·.pdu) = [wholeSdu])) = true := by
    decide +kernel
  have clean : clearAir.Clean 1001 startBlock.prim startBlock.tail
      (init : UplinkSdus Unit).umac.defrag.held startBlock.pdus := by decide +kernel
  obtain ⟨first, stepped, ran⟩ := (any_eq_true _ _).mp ran
  obtain ⟨cleanFirst, ran⟩ := Bool.and_eq_true_iff.mp ran
  obtain ⟨second, steppedFirst, ran⟩ := (any_eq_true _ _).mp ran
  obtain ⟨cleanSecond, ran⟩ := Bool.and_eq_true_iff.mp ran
  obtain ⟨third, steppedSecond, ran⟩ := (any_eq_true _ _).mp ran
  refine ⟨third, ⟨init, rfl, ?_⟩, of_decide_eq_true ran⟩
  exact .head (next_of_heard clean stepped)
    (.head (next_of_heard (of_decide_eq_true cleanFirst) steppedFirst)
      (.single (next_of_heard (of_decide_eq_true cleanSecond) steppedSecond)))

theorem careful_sdus_complete_threeBlocks : ∃ state : UplinkSdus Unit,
    state.umac.reassembled.map (·.pdu) = [wholeSdu] ∧ state.Complete := by
  obtain ⟨state, reachable, given⟩ := threeBlocks_careful
  exact ⟨state, given, careful_sdus_complete reachable⟩

/-- **A MAC-FRAG that is lost leaves a gap.** The base station goes on with what it holds, and the
MAC-END completes it. -/
theorem gap_reachable : ∃ state : UplinkSdus Unit, Reachable (machine Unit Unit) always state ∧
      state.umac.reassembled.map (·.pdu) = [gappedSdu] ∧
      state.sent.map (·.content) = [wholeSdu] ∧ ¬ state.Complete := by
  obtain ⟨state, reached, given, sent⟩ := reachable_exec (fun state =>
      state.umac.reassembled.map (·.pdu) = [gappedSdu] ∧ state.sent.map (·.content) = [wholeSdu])
    [.block clearAir 1001 startBlock true, .block clearAir 1001 fragBlock false,
      .block clearAir 1001 endBlock true] (show (machine Unit Unit).start init from rfl)
    (by decide +kernel)
  refine ⟨state, reached, given, sent, fun complete => ?_⟩
  have contents := (show (state.umac.reassembled.map (·.sdu)).Sublist _ from complete).map
    (·.content)
  rw [List.map_map, List.map_map] at contents
  have same : [gappedSdu].Sublist [wholeSdu] := by
    rw [← given, ← sent]
    exact contents
  exact absurd same (by decide +kernel)

end UplinkSdus

end Bluestation
