/-
**A label ends with its terminal's stay on the bearer, in every careful run.**

The entity's messages wait in a queue, and the MAC handles them in order. A run is careful if no
terminal on a bearer is forgotten, if the network gives no label twice and names a bearer that is
there, and if it reserves no bearer with an old generation.

* `labelMachine` — the entity, the queue and the MAC.
* `labels_end_with_association` — the result.
* `labels_of_departed` — what happens otherwise.
-/

import Bluestation.Sndcp.Announcing
import Bluestation.Sndcp.BearerRuns

namespace Bluestation

open Machines SlotBitmap List Option Bool Sndcp

/-- The entity and the MAC, which has handled some of the entity's messages. -/
structure LabelRun where
  sndcp : Sndcp
  umac : PacketUmac
  handled : Nat

inductive LabelEvent where
  | entity (event : SndcpEvent)
  /-- The MAC handles the next message. -/
  | deliver
  /-- A terminal's common control channel moves. -/
  | moveCommonControl (issi : Nat)

namespace LabelRun

def pending (run : LabelRun) : List PacketBearerControl := run.sndcp.controls.drop run.handled

/-- The MAC after it has handled all messages; that is the MAC itself when none is left. -/
def settled (run : LabelRun) : PacketUmac :=
  run.pending.foldl PacketUmac.rxPacketBearerControl run.umac

def step (run : LabelRun) : LabelEvent → Option LabelRun
  | .entity event => (run.sndcp.step event).map ({ run with sndcp := · })
  | .deliver =>
    run.sndcp.controls[run.handled]?.map fun control =>
      { run with umac := run.umac.rxPacketBearerControl control, handled := run.handled + 1 }
  | .moveCommonControl issi => some { run with umac := run.umac.moveCommonControl issi }

end LabelRun

def labelMachine : Machine LabelRun LabelEvent where
  start run := sndcpMachine.start run.sndcp ∧ run.umac = .new ∧ run.handled = 0
  step := LabelRun.step

namespace Sndcp

/-- What an access may grant to a terminal, so that labels stay right. -/
def labelable (s : Sndcp) (issi : Nat) (result : AccessResult) : Bool :=
  (s.place issi = none ||
    (s.bearers.lookup result.bearerId).isSome && EventLabelStore.valid result.eventLabel) &&
  s.contexts.entries.all fun entry => entry.1 = issi || s.place entry.1 = none ||
    (s.station entry.1).eventLabel ≠ some result.eventLabel

end Sndcp

namespace LabelRun

/-- **The event keeps labels right**: it forgets no terminal on a bearer; the label that it grants is
no other terminal's, and if the terminal is on a bearer, the new bearer is there and the label can be
bound; and it reserves no bearer with an older generation than the MAC knows. -/
def keepsLabels (run : LabelRun) : LabelEvent → Bool
  | .entity event =>
    run.sndcp.forgetsNobody event &&
      (run.sndcp.joins event).all (fun join => run.sndcp.labelable join.1 join.2.2) &&
      (Sndcp.reservation event).all fun bearer =>
        (run.settled.packetBearerGenerations.lookup bearer.1).all (· ≤ bearer.2)
  | .deliver | .moveCommonControl _ => true

end LabelRun

namespace Sndcp

variable {s next : Sndcp} {umac base : PacketUmac} {handled : Nat}

theorem labelable_iff {issi : Nat} {found : RadioContext} {result : AccessResult}
    (fits : s.labelable issi result = true) : s.Labelable issi found result := by
  unfold labelable at fits
  obtain ⟨free, unused⟩ := and_eq_true_iff.mp fits
  refine ⟨?_, fun other different placed label => ?_⟩
  · simpa only [or_eq_true, decide_eq_true_eq, and_eq_true] using free
  · cases context : s.contexts.lookup other with
    | none =>
      refine placed ?_
      unfold place station
      rw [context]
      rfl
    | some _ =>
      have := all_eq_true.mp unused _ (Table.mem_entries.mpr context)
      simp [different, placed, label] at this

/-! ### What is queued -/

def Settles (base : PacketUmac) (handled : Nat) (s : Sndcp) : Prop :=
  handled ≤ s.controls.length ∧
    s.Announced ((s.controls.drop handled).foldl PacketUmac.rxPacketBearerControl base)

theorem Settles.follows (settles : Settles base handled s)
    (follows : Follows ((s.controls.drop handled).foldl PacketUmac.rxPacketBearerControl base) s
      next) : Settles base handled next := by
  obtain ⟨new, controls, announced⟩ := follows
  unfold Settles
  rw [controls, drop_append_of_le_length settles.1, foldl_append, length_append]
  exact ⟨Nat.le_add_right_of_le settles.1, announced⟩

/-- **Every operation tells the MAC what it must know.** -/
theorem label_rules (base : PacketUmac) (handled : Nat) :
    Rules false (Settles base handled) Labelable (fun _ _ => True) fun s id generation =>
      ∀ known, ((s.controls.drop handled).foldl PacketUmac.rxPacketBearerControl
        base).packetBearerGenerations.lookup id = some known → known ≤ generation where
  attended settles issi := settles.2.2.2.attended issi
  calm calm settles := settles.follows (settles.2.calm calm)
  forget _ free settles := settles.follows (settles.2.removeContext free)
  quit issi settles := settles.follows (settles.2.detachPacketBearer issi)
  grant _ _ _ present respond may settles :=
    settles.follows (settles.2.grantAccess present respond may)
  drop {s} keep _ settles := by
    have calm : Calm false s { s with pendingCommands := s.pendingCommands.retain keep } :=
      ⟨fun _ => rfl, fun _ => id, fun _ => rfl, fun _ => rfl, nofun, rfl⟩
    exact settles.follows (settles.2.calm calm)
  reserve commandId _ _ requested openable settles :=
    settles.follows (settles.2.reserveBearer commandId requested openable)
  shrink _ present last several settles := settles.follows (settles.2.shrink present last several)
  expand present chosen settles := settles.follows (settles.2.expand present chosen)
  poll settles := settles.follows settles.2.poll
  commit id generation settles := settles.follows (settles.2.commitBearerResize id generation)
  rollback id generation settles := settles.follows (settles.2.rollbackBearerResize id generation)
  drain commandId id generation forceAfterMs settles :=
    settles.follows (settles.2.announceDrain commandId id generation forceAfterMs)
  release id generation forced settles :=
    settles.follows (settles.2.releaseBearer id generation forced)
  allot same settles := settles.follows (settles.2.allot (settles.2.1.same
    (fun _ bearer found => ⟨bearer, found, rfl, fun sound => sound, rfl⟩) (fun _ => id) same)
    rfl rfl rfl)
  rehashMembers id order settles := settles.follows (settles.2.rehashMembers id order)

/-- With fewer labels the MAC is still right. -/
theorem Announced.fewer {other : PacketUmac} (announced : s.Announced umac)
    (fewer : umac.Fewer other) : s.Announced other := by
  obtain ⟨owned, mirrored, labelled⟩ := announced
  obtain ⟨same, labels⟩ := fewer
  refine ⟨owned, mirrored.heard same, labelled.same (fun _ => id) (fun _ => rfl)
    (fun _ _ => rfl) (fun _ _ bearer found => ⟨bearer, found, fun _ member => member⟩)
    (fun id bearer found => ?_) labels⟩
  rw [same.2]
  exact labelled.current id bearer found

end Sndcp

namespace LabelRun

def Settles (run : LabelRun) : Prop := Sndcp.Settles run.umac run.handled run.sndcp

theorem settles_init {run : LabelRun} (start : labelMachine.start run) : run.Settles := by
  obtain ⟨entity, umac, handled⟩ := start
  have owned := (ownership_init entity).2
  obtain ⟨config, swmi, -, fresh⟩ := entity
  unfold Settles
  rw [fresh] at owned ⊢
  rw [umac, handled]
  refine ⟨Nat.zero_le _, owned, ⟨?_, ?_, ?_, fun ts _ id generation => ?_⟩,
    ⟨fun _ => rfl, fun issi placed => absurd rfl placed, ?_, ?_, ?_, ?_⟩⟩
  · intro id bearer found
    cases found
  · intro id bearer resize found
    cases found
  · intro id bearer found
    cases found
  · refine iff_of_false nofun ?_
    rintro ⟨bearer, ⟨found, -⟩, -⟩
    cases found
  · intro issi id generation placed
    cases placed
  · intro id bearer found
    cases found
  · intro label addr found
    cases found
  · intro first second placed
    exact absurd rfl placed

/-- **A careful event keeps the labels right.** -/
theorem settles_step {run next : LabelRun} {event : LabelEvent} (settles : run.Settles)
    (careful : run.keepsLabels event = true) (stepped : labelMachine.step run event = some next) :
    next.Settles := by
  cases event with
  | entity event =>
    obtain ⟨sndcp, handled, rfl⟩ := map_eq_some_iff.mp stepped
    obtain ⟨possible, rfl⟩ := ite_none_right_eq_some.mp handled |>.imp_right some.inj
    simp only [keepsLabels, and_eq_true] at careful
    obtain ⟨⟨unforgotten, fits⟩, opens⟩ := careful
    refine (label_rules run.umac run.handled).handle possible nofun unforgotten
      (fun join joining => labelable_iff ?_) (fun _ _ => trivial) (fun bearer reserved => ?_)
      settles
    · exact (all_eq_true _ _).mp fits join joining
    · intro known latest
      have := (all_eq_true _ _).mp ((all_eq_true _ _).mp opens bearer reserved) known latest
      exact of_decide_eq_true this
  | deliver =>
    obtain ⟨control, first, rfl⟩ := Option.map_eq_some_iff.mp stepped
    obtain ⟨bound, first⟩ := List.getElem?_eq_some_iff.mp first
    obtain ⟨-, announced⟩ := settles
    refine ⟨bound, ?_⟩
    rw [drop_eq_getElem_cons bound, first] at announced
    exact announced
  | moveCommonControl issi =>
    cases stepped
    exact ⟨settles.1, settles.2.fewer ((run.umac.moveCommonControl_fewer issi).foldl _)⟩

end LabelRun

/-- **A label ends with its terminal's stay on the bearer**, in every careful run: when the MAC has
handled what is queued, every label that it has bound is the label of a terminal that is on a bearer
with it, and no two terminals have the same label. -/
theorem labels_end_with_association {run : LabelRun}
    (reachable : Reachable labelMachine (fun run event => run.keepsLabels event = true) run) :
    (∀ label addr, run.settled.eventLabelStore.getAddrByLabel label = some addr →
      ∃ context bearer id, run.sndcp.contexts.lookup addr.ssi = some context ∧
        context.association = some (id, bearer.generation, label) ∧
        run.sndcp.bearers.lookup id = some bearer ∧ addr.ssi ∈ bearer.members) ∧
    ∀ first second context other id generation otherId otherGeneration label,
      run.sndcp.contexts.lookup first = some context →
      run.sndcp.contexts.lookup second = some other →
      context.association = some (id, generation, label) →
      other.association = some (otherId, otherGeneration, label) → first = second := by
  obtain ⟨-, -, -, labelled⟩ := reachable.invariant (fun _ start => LabelRun.settles_init start)
    fun _ _ _ settles careful stepped => LabelRun.settles_step settles careful stepped
  have station {issi : Nat} {context : RadioContext}
      (present : run.sndcp.contexts.lookup issi = some context) :
      run.sndcp.station issi = context.station := by
    unfold station
    rw [present]
    rfl
  constructor
  · intro label addr stored
    obtain ⟨placed, own⟩ := labelled.stored label addr stored
    obtain ⟨⟨id, generation⟩, on⟩ := ne_none_iff_exists'.mp placed
    obtain ⟨bearer, ⟨held, rfl⟩, member⟩ := labelled.member addr.ssi id generation on
    cases present : run.sndcp.contexts.lookup addr.ssi with
    | none =>
      unfold Sndcp.station at own
      rw [present] at own
      cases own
    | some context =>
      unfold place at on
      rw [station present] at on own
      have named : context.eventLabel = some label := own
      obtain ⟨known, associated⟩ := context.association_of_place on (by rw [named]; nofun)
      obtain ⟨-, same⟩ := context.place_of_association associated
      rw [some.inj (named.symm.trans same)]
      exact ⟨context, bearer, id, rfl, associated, held, member⟩
  · intro first second context other id generation otherId otherGeneration label here there own also
    obtain ⟨firstOn, firstLabel⟩ := context.place_of_association own
    obtain ⟨secondOn, secondLabel⟩ := other.place_of_association also
    refine labelled.distinct first second ?_ ?_ ?_
    · unfold place
      rw [station here, firstOn]
      exact some_ne_none _
    · unfold place
      rw [station there, secondOn]
      exact some_ne_none _
    · rw [station here, station there]
      exact firstLabel.trans secondLabel.symm

/-! ### Runs -/

/-- The entity's events, each followed by the MAC's handling of its messages. -/
def heard (events : List SndcpEvent) (messages : Nat) : List LabelEvent :=
  events.map .entity ++ List.replicate messages .deliver

def labelStart : LabelRun := ⟨bearerStart, .new, 0⟩

theorem labelStart_start : labelMachine.start labelStart := ⟨bearerStart_start, rfl, rfl⟩

/-- A terminal on a bearer with its label, and the result at work. -/
theorem labels_end_with_association_attached : ∃ run,
    Reachable labelMachine (fun run event => run.keepsLabels event = true) run ∧
      run.settled.eventLabelStore.getAddrByLabel 6 = some ⟨77, .issi⟩ ∧
      ∃ context bearer id, run.sndcp.contexts.lookup 77 = some context ∧
        context.association = some (id, bearer.generation, 6) ∧
        run.sndcp.bearers.lookup id = some bearer ∧ 77 ∈ bearer.members := by
  have leads : (execPermitted labelMachine LabelRun.keepsLabels labelStart
      (heard (bearerReserved ++ [bearerAccess true 0b1110]) 2)).any (fun run => decide
        (run.settled.eventLabelStore.getAddrByLabel 6 = some ⟨77, .issi⟩)) = true := by
    decide +kernel
  obtain ⟨run, executed, attached⟩ := (any_eq_true _ _).mp leads
  have attached := of_decide_eq_true attached
  have reachable : Reachable labelMachine (fun run event => run.keepsLabels event = true) run :=
    ⟨labelStart, labelStart_start, execPermitted_runs (fun _ _ careful => careful) executed⟩
  exact ⟨run, reachable, attached, (labels_end_with_association reachable).1 6 _ attached⟩

/-- **Labels of terminals that are gone**, when the MAC has handled every message: the network
confirms a terminal's deactivation while the terminal is on its bearer, and its label stays; a
terminal is granted a bearer that is not there, and its old label stays; the network gives two
terminals on a bearer the same label, and both have it. -/
theorem labels_of_departed : (∃ run, Reachable labelMachine always run ∧ run.pending = [] ∧
      run.umac.eventLabelStore.getAddrByLabel 6 = some ⟨77, .issi⟩ ∧
        run.sndcp.contexts.lookup 77 = none) ∧
    (∃ run, Reachable labelMachine always run ∧ run.pending = [] ∧
      run.umac.eventLabelStore.getAddrByLabel 6 = some ⟨77, .issi⟩ ∧
        (run.sndcp.contexts.lookup 77).map RadioContext.association = some none) ∧
    ∃ run, Reachable labelMachine always run ∧ run.pending = [] ∧
      (run.sndcp.contexts.lookup 77).map RadioContext.association = some (some (30, 1, 6)) ∧
        (run.sndcp.contexts.lookup 78).map RadioContext.association = some (some (30, 1, 6)) := by
  refine ⟨?_, ?_, ?_⟩
  · exact reachable_exec _ (heard (bearerReserved ++ [bearerAccess true 0b1110,
      .uplink 5 0 ⟨77, .issi⟩ (.deactivateDemand 0 none none),
      .swmi (.deactivateResult 3 77 8 1 true)]) 2) labelStart_start (by decide +kernel)
  · exact reachable_exec _ (heard (bearerReserved ++ [bearerAccess true 0b1110,
      .uplink 5 0 ⟨77, .issi⟩ (.transmitRequest 1 true none none),
      .swmi (.accessResult ⟨3, 77, 8, true, none, .transmitResponse, 31, 0b1110, 7, 1⟩)]) 2)
      labelStart_start (by decide +kernel)
  · exact reachable_exec _ (heard (bearerReserved ++ [bearerAccess true 0b1110,
      .uplink 5 0 ⟨78, .issi⟩ (.activateDemand 1 1 .dynamic 1 none none),
      .swmi (.activateResult ⟨3, 78, 5, true, none, 9, 1, none, none, ⟨0, 0, 0⟩⟩),
      .uplink 5 0 ⟨78, .issi⟩ (.transmitRequest 1 true none none),
      .swmi (.accessResult ⟨4, 78, 9, true, none, .transmitResponse, 30, 0b1110, 6, 1⟩)]) 3)
      labelStart_start (by decide +kernel)

end Bluestation
