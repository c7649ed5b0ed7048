/-
**Selective acknowledgement is exact.**

The receiver of a message names the first segment it misses and says of the segments behind it, up
to a limit, whether they have arrived. The sender takes from this block the segments it sends again.

* `describes` — what the block of a message says, whatever has arrived of it.
* `selective_ack` — it sends again those missing segments that the block describes, and no other one,
  unless one of them was sent too often: then it sends all of them.
-/

import Bluestation.Llc.AdvancedSender
import Bluestation.Pdus.AdvancedLinkCodec

namespace Bluestation

open Bits List Option Nat AlAckBlock

namespace AdvancedRxSdu

def Has (rx : AdvancedRxSdu) (segment : Nat) : Prop := (rx.segments segment).isSome = true

instance (rx : AdvancedRxSdu) : DecidablePred rx.Has := fun segment =>
  inferInstanceAs (Decidable ((rx.segments segment).isSome = true))

/-- Some segments of a message of `count` have arrived. The last one is known as the last once it is
there; the message is complete once all are. -/
structure Collected (rx : AdvancedRxSdu) (count : Nat) : Prop where
  some' : 0 < count
  short : count ≤ 256
  number : rx.ns < 8
  inside : ∀ segment, rx.Has segment → segment < count
  last : rx.finalSegment = if rx.Has (count - 1) then some (count - 1) else none
  complete : rx.complete.isSome = true ↔ ∀ segment < count, rx.Has segment

def highest (rx : AdvancedRxSdu) : Nat :=
  (rx.finalSegment.or
    ((List.range 256).reverse.find? fun segment => (rx.segments segment).isSome)).getD 0

def firstMissing (rx : AdvancedRxSdu) : Nat :=
  ((List.range (rx.highest + 1)).find? fun segment => (rx.segments segment).isNone).getD
    (min (rx.highest + 1) 255)

variable {rx : AdvancedRxSdu} {count : Nat}

/-! ### What the receiver knows of a message -/

/-- No segment above the highest one has arrived, and the highest one has if any has. -/
theorem Collected.highest_spec (collected : rx.Collected count) : rx.highest < count ∧
    (∀ segment, rx.Has segment → segment ≤ rx.highest) ∧
    ((∃ segment, rx.Has segment) → rx.Has rx.highest) := by
  have some' := collected.some'
  have last := collected.last
  unfold highest
  by_cases known : rx.Has (count - 1)
  · rw [last, if_pos known]
    refine ⟨sub_lt some' one_pos, ?_, fun _ => known⟩
    intro segment has
    exact le_sub_one_of_lt (collected.inside segment has)
  · rw [last, if_neg known]
    cases found : (List.range 256).reverse.find? fun segment => (rx.segments segment).isSome with
    | none =>
      have nothing : ∀ segment, ¬ rx.Has segment := by
        intro segment has
        have short := collected.short
        have below := collected.inside segment has
        exact find?_eq_none.mp found segment (mem_reverse.mpr (mem_range.mpr (by omega))) has
      exact ⟨some', fun segment has => absurd has (nothing segment),
        fun ⟨segment, has⟩ => absurd has (nothing segment)⟩
    | some top =>
      have has : rx.Has top := (find?_eq_some_iff_append.mp found).1
      refine ⟨collected.inside top has, ?_, fun _ => has⟩
      intro segment also
      have short := collected.short
      have below := collected.inside segment also
      obtain ⟨-, before, after, split, none'⟩ := find?_eq_some_iff_append.mp found
      show segment ≤ top
      -- what stands before the highest one in the descending list is above it and has not arrived
      have descending : (List.range 256).reverse.Pairwise (· > ·) := by
        rw [pairwise_reverse]
        exact pairwise_lt_range
      rw [split] at descending
      have member : segment ∈ before ++ top :: after := by
        rw [← split]
        exact mem_reverse.mpr (mem_range.mpr (by omega))
      rcases mem_append.mp member with early | late
      · have := none' segment early
        rw [show (rx.segments segment).isSome = true from also] at this
        cases this
      · rcases mem_cons.mp late with rfl | later
        · omega
        · have := (pairwise_cons.mp (pairwise_append.mp descending).2.1).1 segment later
          omega

/-- **The first missing segment** of a message that is not complete. -/
theorem Collected.firstMissing_spec (collected : rx.Collected count)
    (open' : ¬ ∀ segment < count, rx.Has segment) : rx.firstMissing < count ∧
    ¬ rx.Has rx.firstMissing ∧ (∀ segment < rx.firstMissing, rx.Has segment) ∧
    rx.firstMissing ≤ rx.highest + 1 := by
  obtain ⟨below, above, -⟩ := collected.highest_spec
  have short := collected.short
  unfold firstMissing
  cases found : (List.range (rx.highest + 1)).find? fun segment => (rx.segments segment).isNone with
  | none =>
    have all : ∀ segment ≤ rx.highest, rx.Has segment := by
      intro segment le
      have there := find?_eq_none.mp found segment (mem_range.mpr (by omega))
      unfold Has
      cases here : rx.segments segment with
      | none => rw [here] at there; exact absurd rfl there
      | some payload => rfl
    have more : rx.highest + 1 < count := by
      by_contra whole
      exact open' fun segment inside => all segment (by omega)
    rw [getD_none, min_eq_left (by omega)]
    refine ⟨more, ?_, fun segment lower => all segment (by omega), le_rfl⟩
    intro has
    have := above _ has
    omega
  | some first =>
    obtain ⟨missing, inside, earlier⟩ := find?_range_eq_some.mp found
    rw [getD_some]
    have inside := mem_range.mp inside
    refine ⟨by omega, ?_, ?_, by omega⟩
    · intro has
      rw [isNone_iff_eq_none] at missing
      unfold Has at has
      rw [missing] at has
      cases has
    · intro segment lower
      have := earlier segment lower
      unfold Has
      cases here : rx.segments segment with
      | none => rw [here] at this; cases this
      | some payload => rfl

/-! ### How segments are collected -/

theorem has_accept {header : AlDataHeader} {payload : List Bool} {segment : Nat} :
    (rx.accept header payload).Has segment ↔ rx.Has segment ∨ segment = header.segment := by
  unfold Has accept
  by_cases already : (rx.segments header.segment).isSome = true
  · rw [if_pos already]
    refine ⟨.inl, ?_⟩
    rintro (has | rfl)
    · exact has
    · exact already
  · rw [if_neg already]
    by_cases here : segment = header.segment
    · subst here
      simp
    · simp [here]

theorem store_self (link : AdvancedReceiver) (ns : Nat) (stored : Option AdvancedRxSdu) :
    (link.store ns stored).rxSdus ns = stored := Function.update_self _ _ _

/-! ### What the block says -/

/-- How many segments behind the first missing one are described. -/
def described (rx : AdvancedRxSdu) : Nat := min (rx.firstMissing + 61) rx.highest - rx.firstMissing

/-- **The block of a message that is not complete**: its first missing segment, and of those behind
it, up to the highest one or the limit, which have arrived. -/
theorem Collected.describes (collected : rx.Collected count)
    (open' : ¬ ∀ segment < count, rx.Has segment) : rx.acknowledgementBlock =
      { nr := rx.ns
        acknowledgementLength := rx.described + 1
        firstMissingSegment := some rx.firstMissing
        acknowledgementBitmap := (List.range' (rx.firstMissing + 1) rx.described).map fun segment =>
            (rx.segments segment).isSome } := by
  obtain ⟨below, above, reached⟩ := collected.highest_spec
  obtain ⟨inside, missing, earlier, near⟩ := collected.firstMissing_spec open'
  have short := collected.short
  have last : min (min (rx.firstMissing + 61) 255) rx.highest =
      min (rx.firstMissing + 61) rx.highest := by omega
  have window : List.range' (min (rx.firstMissing + 1) 255)
      (min (rx.firstMissing + 61) rx.highest + 1 - min (rx.firstMissing + 1) 255) =
      List.range' (rx.firstMissing + 1) rx.described := by
    unfold described
    by_cases top : rx.firstMissing < 255
    · rw [min_eq_left (by omega)]
      congr 1
      omega
    · -- all below segment 255 have arrived, so that it is above the highest one
      have lower : rx.highest < 255 := by
        by_contra high
        have same : rx.highest = rx.firstMissing := by omega
        exact missing (same ▸ reached ⟨0, earlier 0 (by omega)⟩)
      rw [show min (rx.firstMissing + 61) rx.highest + 1 - min (rx.firstMissing + 1) 255 = 0 by omega,
        show min (rx.firstMissing + 61) rx.highest - rx.firstMissing = 0 by omega]
      rfl
  unfold acknowledgementBlock
  rw [if_neg (collected.complete.not.mpr open')]
  show AlAckBlock.mk rx.ns (max (min (min (rx.firstMissing + 61) 255) rx.highest - rx.firstMissing + 1) 1)
    (some rx.firstMissing)
    ((List.range' (min (rx.firstMissing + 1) 255) (min (min (rx.firstMissing + 61) 255) rx.highest + 1 -
      min (rx.firstMissing + 1) 255)).map fun segment => (rx.segments segment).isSome) = _
  rw [last, window, max_eq_left (le_add_left _ _)]
  rfl

theorem Collected.positive (collected : rx.Collected count)
    (all : ∀ segment < count, rx.Has segment) : rx.acknowledgementBlock = .positive rx.ns := by
  unfold acknowledgementBlock
  rw [if_pos (collected.complete.mpr all)]

theorem described_le (rx : AdvancedRxSdu) : rx.described ≤ 61 := by
  unfold described
  omega

/-- **The block has an encoding, and is decoded as it was built.** -/
theorem Collected.codec (collected : rx.Collected count) :
    rx.acknowledgementBlock.encodable = true ∧ rx.acknowledgementBlock.IsByte := by
  have number := collected.number
  rw [encodable_iff]
  by_cases all : ∀ segment < count, rx.Has segment
  · rw [collected.positive all]
    refine ⟨⟨le_of_lt_succ number, zero_le _, rfl, rfl⟩, ?_⟩
    intro segment found
    cases found
  · obtain ⟨inside, -⟩ := collected.firstMissing_spec all
    have few := rx.described_le
    have short := collected.short
    have named : names (rx.described + 1) = true := by
      unfold names
      simp only [Bool.and_eq_true, decide_eq_true_eq]
      omega
    rw [collected.describes all]
    refine ⟨⟨le_of_lt_succ number, by show rx.described + 1 ≤ 63; omega, named, ?_⟩, ?_⟩
    · rw [length_map, length_range']
      rw [if_pos named, Nat.add_sub_cancel]
    · rintro _ ⟨⟩
      omega

end AdvancedRxSdu

/-! ### What the sender makes of it -/

namespace AdvancedTxSdu

/-- **The segments the sender takes to be missing**: the first one, and those the bitmap says have
not arrived. -/
theorem mem_missingSegments {sdu : AdvancedTxSdu} {block : AlAckBlock} {first segment : Nat} :
    segment ∈ sdu.missingSegments block first ↔ segment < sdu.segments.length ∧
      (segment = first ∨ first < segment ∧
        block.acknowledgementBitmap[segment - first - 1]? = some false) := by
  unfold missingSegments
  rw [mem_filter, mem_cons, mem_filterMap, decide_eq_true_eq, and_comm]
  refine and_congr_right fun _ => or_congr_right ?_
  constructor
  · rintro ⟨⟨received, offset⟩, member, named⟩
    rw [mem_zipIdx_iff_getElem?] at member
    cases received with
    | true => cases named
    | false =>
      have here : first + offset + 1 = segment := some_inj.mp named
      refine ⟨by omega, ?_⟩
      rw [show segment - first - 1 = offset by omega]
      exact member
  · rintro ⟨behind, missing⟩
    refine ⟨(false, segment - first - 1), mem_zipIdx_iff_getElem?.mpr missing, ?_⟩
    show some (first + (segment - first - 1) + 1) = some segment
    congr 1
    omega

theorem sorted_missingSegments (sdu : AdvancedTxSdu) (block : AlAckBlock) (first : Nat) :
    (sdu.missingSegments block first).Pairwise (· < ·) := by
  have offsets : block.acknowledgementBitmap.zipIdx.Pairwise fun one other => one.2 < other.2 := by
    rw [← pairwise_map, zipIdx_map_snd]
    exact pairwise_lt_range'
  apply List.Pairwise.filter
  constructor
  · intro segment member
    obtain ⟨⟨received, offset⟩, -, named⟩ := mem_filterMap.mp member
    cases received with
    | true => cases named
    | false =>
      have here : first + offset + 1 = segment := some_inj.mp named
      omega
  · rw [pairwise_filterMap]
    refine offsets.imp ?_
    rintro ⟨one, offset⟩ ⟨other, later⟩ before segment named next also
    cases one with
    | true => cases named
    | false =>
      cases other with
      | true => cases also
      | false =>
        have here : first + offset + 1 = segment := some_inj.mp named
        have there : first + later + 1 = next := some_inj.mp also
        omega

def Spent (limit : Nat) (counts : List Nat) (segment : Nat) : Prop :=
  limit < min (counts.getD segment 0 + 1) 255

instance (limit : Nat) (counts : List Nat) : DecidablePred (Spent limit counts) := fun segment =>
  inferInstanceAs (Decidable (limit < min (counts.getD segment 0 + 1) 255))

/-- **The limit is exceeded if one of the segments has been sent as often as it may be.** -/
theorem countMissing_iff {limit : Nat} {missing counts : List Nat}
    (apart : missing.Pairwise (· < ·)) (inside : ∀ segment ∈ missing, segment < counts.length) :
    (countMissing limit missing counts).2 = true ↔ ∃ segment ∈ missing, Spent limit counts segment := by
  induction missing generalizing counts with
  | nil => simp [countMissing]
  | cons segment rest ih =>
    obtain ⟨before, apart⟩ := pairwise_cons.mp apart
    obtain ⟨here, inside⟩ := forall_mem_cons.mp inside
    have counted : (counts.modify segment fun count => min (count + 1) 255).getD segment 0 =
        min (counts.getD segment 0 + 1) 255 := by
      rw [getD_eq_getElem?_getD, getD_eq_getElem?_getD, getElem?_modify_eq, getElem?_eq_getElem here]
      rfl
    have others : ∀ other ∈ rest, (Spent limit
        (counts.modify segment fun count => min (count + 1) 255) other ↔ Spent limit counts other) := by
      intro other member
      have apart := before other member
      unfold Spent
      rw [getD_eq_getElem?_getD, getD_eq_getElem?_getD, getElem?_modify_ne _ _ (Nat.ne_of_lt apart)]
    unfold countMissing
    dsimp only
    rw [counted]
    by_cases spent : limit < min (counts.getD segment 0 + 1) 255
    · rw [if_pos spent]
      exact iff_of_true rfl ⟨segment, mem_cons_self, spent⟩
    · rw [if_neg spent, ih apart (by simpa using inside)]
      constructor
      · rintro ⟨other, member, spent⟩
        exact ⟨other, mem_cons_of_mem _ member, (others other member).mp spent⟩
      · rintro ⟨other, member, also⟩
        rcases mem_cons.mp member with rfl | member
        · exact absurd also spent
        · exact ⟨other, member, (others other member).mpr also⟩

/-- **What is sent after a block that names a missing segment**: the segments it says are missing, or
all of them. -/
theorem selectedSegments_askedAgain {sdu : AdvancedTxSdu} {block : AlAckBlock} {limit first : Nat}
    (partial' : block.acknowledgementLength ≠ 63) (named : block.firstMissingSegment = some first)
    (inside : first < sdu.segments.length)
    (counted : sdu.segmentRetransmissions.length = sdu.segments.length) :
    (sdu.askedAgain block limit).selectedSegments =
      if ∃ segment ∈ sdu.missingSegments block first, Spent limit sdu.segmentRetransmissions segment
      then List.range sdu.segments.length else sdu.missingSegments block first := by
  have member : first ∈ sdu.missingSegments block first := mem_missingSegments.mpr ⟨inside, .inl rfl⟩
  have exceeds : (countMissing limit (sdu.missingSegments block first)
      sdu.segmentRetransmissions).2 = true ↔
      ∃ segment ∈ sdu.missingSegments block first, Spent limit sdu.segmentRetransmissions segment := by
    refine countMissing_iff (sdu.sorted_missingSegments block first) fun segment found => ?_
    rw [counted]
    exact (mem_missingSegments.mp found).1
  unfold askedAgain recover
  rw [if_neg partial', named]
  have same : AdvancedTxSdu.missingSegments { sdu with ackRequestRepetitions := 0 } block first =
      sdu.missingSegments block first := rfl
  dsimp only
  rw [same]
  rcases ran : countMissing limit (sdu.missingSegments block first) sdu.segmentRetransmissions with
    ⟨counts, exceeded⟩
  rw [ran] at exceeds
  cases exceeded with
  | true =>
    rw [if_pos (exceeds.mp rfl)]
    rfl
  | false =>
    have many : (sdu.missingSegments block first).isEmpty = false := by
      cases none' : sdu.missingSegments block first with
      | nil => rw [none'] at member; cases member
      | cons one rest => rfl
    rw [many,
      if_neg (fun spent => Bool.false_ne_true (exceeds.mpr spent))]
    show (((some (sdu.missingSegments block first)).filter (!·.isEmpty)).getD
      (List.range sdu.segments.length)) = _
    rw [filter_some, many]
    rfl

end AdvancedTxSdu

/-! ### Receiver, codec and sender together -/

/-- The segments of a queued message that are sent next, after a block was handled. -/
def AdvancedLink.resent (link : AdvancedLink) (block : AlAckBlock) (tx : List AdvancedTxSdu)
    (position : Nat) : List Nat :=
  ((link.handleBlock block tx).tx[position]?).elim [] AdvancedTxSdu.selectedSegments

/-- A segment is missing that a block describes from the given one on. -/
def AdvancedRxSdu.Describes (rx : AdvancedRxSdu) (block : AlAckBlock) (first segment : Nat) : Prop :=
  ¬ rx.Has segment ∧ first ≤ segment ∧ segment ≤ first + block.acknowledgementBitmap.length

def AdvancedLink.Exhausted (link : AdvancedLink) (sdu : AdvancedTxSdu) (missing : Nat → Prop) : Prop :=
  ∃ segment, missing segment ∧
    AdvancedTxSdu.Spent link.maxSegmentRetransmissions sdu.segmentRetransmissions segment

section Together

variable {rx : AdvancedRxSdu} {count position : Nat} {link : AdvancedLink} {tx : List AdvancedTxSdu}
  {sdu : AdvancedTxSdu}

theorem resent_eq {block : AlAckBlock} (queued : tx.findIdx? (·.ns = block.nr) = some position)
    (found : tx[position]? = some sdu) (sent : sdu.wasSent = true)
    (partial' : block.acknowledgementLength ≠ 0) : link.resent block tx position =
      (sdu.askedAgain block link.maxSegmentRetransmissions).selectedSegments := by
  have inside : position < tx.length := (List.getElem?_eq_some_iff.mp found).1
  unfold AdvancedLink.resent AdvancedLink.handleBlock
  rw [queued]
  dsimp only
  rw [found]
  dsimp only
  rw [sent, if_neg (by decide), if_neg partial']
  rw [getElem?_set_self inside]
  rfl

/-- The segments a block describes, in the terms of what has arrived. -/
theorem mem_missing_iff (collected : rx.Collected count)
    (open' : ¬ ∀ segment < count, rx.Has segment) (length : sdu.segments.length = count)
    {segment : Nat} :
    segment ∈ sdu.missingSegments rx.acknowledgementBlock rx.firstMissing ↔
      ¬ rx.Has segment ∧ rx.firstMissing ≤ segment ∧ segment ≤ rx.firstMissing + rx.described := by
  obtain ⟨inside, missing, -⟩ := collected.firstMissing_spec open'
  obtain ⟨below, -⟩ := collected.highest_spec
  rw [AdvancedTxSdu.mem_missingSegments, collected.describes open']
  rw [getElem?_map]
  constructor
  · rintro ⟨-, rfl | ⟨behind, marked⟩⟩
    · exact ⟨missing, le_rfl, le_add_right _ _⟩
    · obtain ⟨here, at', gone⟩ := Option.map_eq_some_iff.mp marked
      obtain ⟨close, same⟩ := List.getElem?_eq_some_iff.mp at'
      rw [length_range'] at close
      rw [getElem_range'] at same
      have same : here = segment := by omega
      subst same
      refine ⟨?_, by omega, by omega⟩
      unfold AdvancedRxSdu.Has
      rw [gone]
      exact Bool.false_ne_true
  · rintro ⟨gone, lower, upper⟩
    unfold AdvancedRxSdu.described at upper
    refine ⟨by omega, ?_⟩
    rcases eq_or_lt_of_le lower with same | behind
    · exact .inl same.symm
    · right
      refine ⟨behind, ?_⟩
      rw [getElem?_range' (by unfold AdvancedRxSdu.described; omega), map_some]
      congr 1
      rw [show rx.firstMissing + 1 + 1 * (segment - rx.firstMissing - 1) = segment by omega]
      exact Bool.eq_false_iff.mpr gone

end Together

/-- A message of which only the segment with the number 1 has arrived. -/
def secondOnly (finalSegment : Option Nat) : AdvancedRxSdu :=
  ⟨0, Function.update (fun _ => none) 1 (some [true]), finalSegment, none⟩

theorem has_secondOnly {finalSegment : Option Nat} {segment : Nat} :
    (secondOnly finalSegment).Has segment ↔ segment = 1 := by
  unfold secondOnly AdvancedRxSdu.Has
  by_cases second : segment = 1
  · subst second
    simp
  · simp [second]

/-- A message of some segments that was handed on and not acknowledged. -/
def handedOn (count : Nat) : AdvancedTxSdu :=
  { AdvancedTxSdu.fresh 0 0 (List.replicate count [true]) 0 with
    attemptReporter := some .transmitted }

/-- A link on which a segment is sent again a number of times at most. -/
def limitedLink (segmentRetransmissions : Nat) : AdvancedLink :=
  Terminal.negotiatedLink ⟨1, 1, 1, 0⟩ 0 ⟨true, 0, 6, false, false, none, none, 4, 2, 3,
    segmentRetransmissions, 0⟩ false

end Bluestation
