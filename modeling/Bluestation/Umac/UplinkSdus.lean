/-
**A block of fragments, as the base station receives it.**

A terminal sends a block; what is held for it stays what it has under way, and what the LLC is given
is what the terminal has sent to its end, if the block is received cleanly.

* `Clean` — when a block may be received: whatever it does not take in, it may miss.
* `Receives` — what becomes of a block that may be received.
* `rxTmvPrim_receives` — a clean block is received so.
* `Resumes`, `rxTmvPrim_resumes` — an access that was put off, and what becomes of it.
-/

import Bluestation.Lib.Run
import Bluestation.Umac.UplinkSender

namespace Bluestation

open Bits Reassembly Machines List Option Function Piece

variable {Key Context : Type}

def heldSdu (held : Nat → Option (DefragBuffer Key)) (ssi : Nat) :
    Option (Message (SduHead Key) Bool) :=
  (held ssi).map fun buf => ⟨(buf.addr, buf.aieRequest), buf.buffer⟩

def unscoped (sdu : Message (SduHead Key) Bool) : Message (SduHead Key) Bool :=
  { sdu with head := (sdu.head.1, sdu.head.2.map (·.withScope .macFragment)) }

def TmaUnitdataInd.sdu (ind : TmaUnitdataInd Key) : Message (SduHead Key) Bool :=
  ⟨(ind.mainAddress, some (ind.airInterfaceEncryption.withScope .macFragment)), ind.pdu⟩

/-! ### Blocks of PDUs -/

def wires (tail : List Bool) : List (UplinkPdu Key) → List Bool
  | [] => tail
  | pdu :: rest => pdu.wire ++ wires tail rest

/-- PDUs that a terminal may send one after the other, and what may stand behind them. -/
def SendableAll (channel : LogicalChannel) (tail : List Bool) : List (UplinkPdu Key) → Prop
  | [] => Idle channel tail
  | pdu :: rest => pdu.Sendable channel (wires tail rest) ∧ SendableAll channel tail rest

def channelBits : LogicalChannel → Nat
  | .schF => 268
  | .stch => 124
  | .schHu => 92
  | _ => 0

/-- A block as a terminal sends it. -/
structure UplinkBlock (Key : Type) where
  logicalChannel : LogicalChannel
  blockNum : PhyBlockNum
  ulTime : TdmaTime
  scramblingCode : Nat
  pdus : List (UplinkPdu Key)
  tail : List Bool
  channels : Surroundings.signalling logicalChannel
  sendable : SendableAll logicalChannel tail pdus
  length : (wires tail pdus).length = channelBits logicalChannel

def UplinkBlock.prim (block : UplinkBlock Key) : TmvUnitdataInd where
  pdu := .ofBits (wires block.tail block.pdus)
  blockNum := block.blockNum
  logicalChannel := block.logicalChannel
  ulTime := block.ulTime
  scramblingCode := block.scramblingCode

def UplinkBlock.pieces (block : UplinkBlock Key) : List (Piece (SduHead Key) Bool) :=
  block.pdus.map (·.piece)

/-! ### When a block may be received -/

/-- The pieces that have an outcome. -/
def Outcome.Of (pdu : UplinkPdu Key) : Outcome Key → Prop
  | .stopped => True
  | .passed => pdu.piece = .whole
  | .filed _ _ _ => pdu.piece = .start ⟨(pdu.identity, some pdu.protection), pdu.clear⟩
  | .appended _ _ => pdu.piece = .more pdu.clear
  | .completed _ _ => pdu.piece = .finish pdu.clear

namespace Surroundings

variable (air : Surroundings Key Context)

/-- A block of `sender` may be received. PDUs that are not read may be missed; a first fragment is
filed for its sender as it was sent; a field that is appended is what its sender enciphered, or the
owner of the slot has nothing under way. -/
def Clean (sender : Nat) (prim : TmvUnitdataInd) (tail : List Bool) :
    (held : Nat → Option (DefragBuffer Key)) → List (UplinkPdu Key) → Prop
  | _, [] => True
  | held, pdu :: rest =>
    match air.outcome held prim pdu with
    | .stopped => HarmlessToMiss (heldSdu held sender) ((pdu :: rest).map (·.piece))
    | .passed =>
      if 16 ≤ (wires tail rest).length then Clean sender prim tail held rest
      else HarmlessToMiss (heldSdu held sender) (rest.map (·.piece))
    | .filed addr aieRequest bits =>
      addr = pdu.identity ∧ aieRequest = pdu.protection ∧ bits = pdu.clear ∧ addr.ssi = sender
    | .appended owner bits =>
      if owner = sender then held sender = none ∨ bits = pdu.clear
      else held owner = none ∧ HarmlessToMiss (heldSdu held sender) [pdu.piece]
    | .completed owner bits =>
      if owner = sender then
        (held sender = none ∨ bits = pdu.clear) ∧
          if 16 ≤ (wires tail rest).length then
            Clean sender prim tail (Function.update held sender none) rest
          else True
      else held owner = none ∧ HarmlessToMiss (heldSdu held sender) ((pdu :: rest).map (·.piece))

instance decidableClean [DecidableEq Key] (sender : Nat) (prim : TmvUnitdataInd)
    (tail : List Bool) : ∀ (held : Nat → Option (DefragBuffer Key)) (pdus : List (UplinkPdu Key)),
    Decidable (air.Clean sender prim tail held pdus)
  | _, [] => .isTrue trivial
  | held, pdu :: rest => by
    have behind := fun held => decidableClean sender prim tail held rest
    unfold Clean HarmlessToMiss
    exact match air.outcome held prim pdu with
      | .stopped => inferInstance
      | .passed => inferInstance
      | .filed _ _ _ => inferInstance
      | .appended _ _ => inferInstance
      | .completed _ _ => inferInstance

/-! ### What becomes of a block -/

theorem wire_pos (pdu : UplinkPdu Key) : 0 < pdu.wire.length := by
  have header : 0 < pdu.header.wire.length := by
    unfold UplinkHeader.wire
    cases pdu.header with
    | access header => simp [MacAccess.wire]
    | data header => simp [MacData.wire]
    | frag header => simp [MacFragUl.wire]
    | macEndUl header => simp [MacEndUl.wire]
    | macEndHu header => simp [MacEndHu.wire]
  unfold UplinkPdu.wire
  rw [length_append]
  omega

variable {pdu : UplinkPdu Key} {tail bits : List Bool} {time : TdmaTime} {sender fuel : Nat}
  {underWay : Option (Message (SduHead Key) Bool)} {prim origin : TmvUnitdataInd}
  {later umac : UmacBs Key} {sending : Nat → Option (Message (SduHead Key) Bool)}

theorem fieldOutcome_of {isFragStart : Bool}
    (is : pdu.piece = if isFragStart then .start ⟨(pdu.identity, some pdu.protection), pdu.clear⟩
      else .whole) (resolution : Resolution Key Context) (stopsEmpty : Bool) (field : List Bool) :
    (air.fieldOutcome resolution isFragStart stopsEmpty field).Of pdu := by
  unfold fieldOutcome
  split
  · split
    · trivial
    · split
      next start =>
        rw [if_pos start] at is
        exact is
      next start =>
        rw [if_neg start] at is
        split
        · trivial
        · exact is
  · trivial

theorem ownerOutcome_of {made : Nat → List Bool → Outcome Key}
    (each : ∀ owner bits, (made owner bits).Of pdu) (held : Nat → Option (DefragBuffer Key))
    (prim : TmvUnitdataInd) (field : List Bool) : (air.ownerOutcome made held prim field).Of pdu := by
  unfold ownerOutcome
  split
  · exact each _ _
  · trivial

/-- **What a PDU is, from what becomes of it.** -/
theorem outcome_of (held : Nat → Option (DefragBuffer Key)) (prim : TmvUnitdataInd)
    (pdu : UplinkPdu Key) : (air.outcome held prim pdu).Of pdu := by
  unfold outcome
  split
  next header kind =>
    unfold macAccessOutcome
    split
    · exact air.fieldOutcome_of (by rw [UplinkPdu.piece, kind]) _ _ _
    · trivial
  next header kind =>
    unfold macDataOutcome
    split
    · exact air.fieldOutcome_of (by rw [UplinkPdu.piece, kind]) _ _ _
    · trivial
  next header kind =>
    exact air.ownerOutcome_of (fun _ _ => by rw [Outcome.Of, UplinkPdu.piece, kind]) _ _ _
  next header kind =>
    split
    · exact air.ownerOutcome_of (fun _ _ => by rw [Outcome.Of, UplinkPdu.piece, kind]) _ _ _
    · trivial
  next header kind =>
    split
    · trivial
    · exact air.ownerOutcome_of (fun _ _ => by rw [Outcome.Of, UplinkPdu.piece, kind]) _ _ _

variable {channel : LogicalChannel}

/-- Nothing stands behind a first fragment or a MAC-FRAG. -/
theorem rest_nil {rest : List Bool} (sendable : pdu.Sendable channel rest)
    (unmissable : pdu.piece.missable = false) : rest = [] := by
  obtain ⟨header, flag, fits⟩ := sendable
  have fills : pdu.header.octets = none := by
    unfold UplinkPdu.piece at unmissable
    unfold UplinkHeader.octets
    cases kind : pdu.header with
    | access access =>
      rw [kind] at unmissable header
      obtain ⟨-, ⟨-, lengthened⟩, -⟩ := header
      cases told : access.lengthInd with
      | none => exact told
      | some length =>
        rw [told] at lengthened
        cases flagged : access.fragFlag with
        | none => simp [MacAccess.isFragStart, flagged, missable] at unmissable
        | some frag =>
          rw [flagged] at lengthened
          cases lengthened
    | data data =>
      rw [kind] at unmissable header
      obtain ⟨-, ⟨-, lengthened⟩, -⟩ := header
      cases told : data.lengthInd with
      | none => simp [MacData.octets, told]
      | some length =>
        rw [told] at lengthened
        cases flagged : data.fragFlag with
        | none =>
          by_cases last : length = 63
          · simp [MacData.octets, told, last, filter_some]
          · simp [MacData.isFragStart, flagged, told, last, missable] at unmissable
        | some frag =>
          rw [flagged] at lengthened
          cases lengthened
    | frag frag => rfl
    | macEndUl ended => rw [kind] at unmissable; contradiction
    | macEndHu ended => rw [kind] at unmissable; contradiction
  rw [fills] at fits
  exact fits

/-! ### What becomes of a block -/

/-- What a block does: what is held stays what its sender has under way, of others nothing changes,
and what is completed are SDUs that the sender completed. -/
structure Receives (sender : Nat) (umac later : UmacBs Key)
    (underWay : Option (Message (SduHead Key) Bool)) (pieces : List (Piece (SduHead Key) Bool)) :
    Prop where
  agree : Agree (heldSdu later.defrag.held sender) (afterAll underWay pieces)
  others : ∀ other ≠ sender, later.defrag.held other = umac.defrag.held other
  completes : ∃ new, later.reassembled = umac.reassembled ++ new ∧
    (new.map (·.sdu)).Sublist ((completesAll underWay pieces).map unscoped)

namespace Receives

variable {sender : Nat} {umac mid later : UmacBs Key}
  {underWay : Option (Message (SduHead Key) Bool)} {pieces : List (Piece (SduHead Key) Bool)}

/-- Pieces that are missed. -/
theorem missed (agree : Agree (heldSdu umac.defrag.held sender) underWay)
    (quiet : HarmlessToMiss (heldSdu umac.defrag.held sender) pieces) :
    Receives sender umac umac underWay pieces :=
  ⟨agree.missedAll quiet, fun _ _ => rfl, [], (append_nil _).symm, nil_sublist _⟩

variable {piece : Piece (SduHead Key) Bool}

/-- One piece and then the others. -/
theorem cons {new : List (TmaUnitdataInd Key)}
    (rest : Receives sender mid later (piece.after underWay) pieces)
    (others : ∀ other ≠ sender, mid.defrag.held other = umac.defrag.held other)
    (added : mid.reassembled = umac.reassembled ++ new)
    (completed : (new.map (·.sdu)).Sublist ((piece.completes underWay).toList.map unscoped)) :
    Receives sender umac later underWay (piece :: pieces) := by
  obtain ⟨agree, unchanged, more, appended, sublist⟩ := rest
  refine ⟨agree, fun other different => (unchanged other different).trans (others other different),
    new ++ more, ?_, ?_⟩
  · rw [appended, added, append_assoc]
  · rw [completesAll, map_append, map_append]
    exact completed.append sublist

theorem cons_none (rest : Receives sender mid later (piece.after underWay) pieces)
    (others : ∀ other ≠ sender, mid.defrag.held other = umac.defrag.held other)
    (same : mid.reassembled = umac.reassembled) :
    Receives sender umac later underWay (piece :: pieces) :=
  rest.cons others (same.trans (append_nil _).symm) (nil_sublist _)

theorem of_untouched (untouched : Untouched umac mid)
    (rest : Receives sender mid later underWay pieces) :
    Receives sender umac later underWay pieces := by
  obtain ⟨agree, others, completes⟩ := rest
  rw [untouched.held] at others
  rw [untouched.reassembled] at completes
  exact ⟨agree, others, completes⟩

end Receives

variable {rest : List (UplinkPdu Key)}

theorem wires_nil
    (sendable : SendableAll channel tail (pdu :: rest)) (unmissable : pdu.piece.missable = false) :
    wires tail rest = [] ∧ rest = [] := by
  have none := rest_nil sendable.1 unmissable
  refine ⟨none, ?_⟩
  cases rest with
  | nil => rfl
  | cons other rest =>
    have some := wire_pos other
    have empty := congrArg List.length none
    rw [wires, length_append, length_nil] at empty
    omega

theorem heldSdu_update_self (held : Nat → Option (DefragBuffer Key)) (ssi : Nat)
    (buf : Option (DefragBuffer Key)) :
    heldSdu (Function.update held ssi buf) ssi =
      buf.map fun buf => ⟨(buf.addr, buf.aieRequest), buf.buffer⟩ := by
  rw [heldSdu, update_self]

theorem appended_sdu {buf longer : DefragBuffer Key}
    (fits : BsDefrag.appended buf bits time = some longer) :
    longer.addr = buf.addr ∧ longer.aieRequest = buf.aieRequest ∧
      longer.buffer = buf.buffer ++ bits := by
  unfold BsDefrag.appended at fits
  split at fits
  · cases fits
    exact ⟨rfl, rfl, rfl⟩
  · contradiction

variable {held : Nat → Option (DefragBuffer Key)}

/-- **A fragment that is appended keeps the agreement.** -/
theorem agree_appended {clear : List Bool} (time : TdmaTime)
    (agree : Agree (heldSdu held sender) underWay) (genuine : held sender = none ∨ bits = clear) :
    Agree (heldSdu (Function.update held sender
      ((held sender).bind fun buf => BsDefrag.appended buf bits time)) sender)
      ((Piece.more clear).after underWay) := by
  rw [heldSdu_update_self]
  cases found : held sender with
  | none => exact .none _
  | some buf =>
    obtain rfl := genuine.resolve_left (by rw [found]; exact some_ne_none buf)
    rw [bind_some]
    cases fits : BsDefrag.appended buf bits time with
    | none => exact Agree.none _
    | some longer =>
      obtain ⟨addr, aieRequest, buffer⟩ := appended_sdu fits
      have appended := agree.more bits
      rw [heldSdu, found] at appended
      simpa [addr, aieRequest, buffer, Message.append] using appended

/-- **A last fragment completes what its sender completes.** -/
theorem completes_appended {clear : List Bool}
    {buf : DefragBuffer Key} {ind : TmaUnitdataInd Key} (agree : Agree (heldSdu held sender) underWay)
    (genuine : held sender = none ∨ bits = clear)
    (completed : ((held sender).bind fun buf => BsDefrag.appended buf bits time) = some buf)
    (protect : ∀ sdu ∈ underWay, sdu.head.2.isSome)
    (inOrder : (Piece.finish clear : Piece (SduHead Key) Bool).inOrder underWay = true)
    (pdu : ind.pdu = buf.buffer) (address : ind.mainAddress = buf.addr)
    (policy : ∀ request ∈ buf.aieRequest, ind.airInterfaceEncryption.withScope .macFragment =
      request.withScope .macFragment) :
    ((Piece.finish clear).completes underWay).map unscoped = some ind.sdu := by
  obtain ⟨original, found, fits⟩ := bind_eq_some_iff.mp completed
  obtain rfl := genuine.resolve_left (by rw [found]; exact some_ne_none original)
  obtain ⟨addr, aieRequest, buffer⟩ := appended_sdu fits
  have isHeld : heldSdu held sender =
      some ⟨(original.addr, original.aieRequest), original.buffer⟩ := by
    rw [heldSdu, found, map_some]
  obtain ⟨sent, isSent⟩ := isSome_iff_exists.mp inOrder
  have same := agree _ isHeld sent isSent
  obtain ⟨request, isRequest⟩ := isSome_iff_exists.mp (protect sent isSent)
  subst same
  rw [agree.completes_finish isHeld inOrder, map_some]
  have protection := policy request (aieRequest.trans isRequest)
  unfold unscoped Message.append TmaUnitdataInd.sdu
  rw [pdu, address, protection, addr, buffer, isRequest, map_some]

theorem protected_after (pdu : UplinkPdu Key) (protect : ∀ sdu ∈ underWay, sdu.head.2.isSome) :
    ∀ sdu ∈ pdu.piece.after underWay, sdu.head.2.isSome := by
  have start : ∀ sdu ∈ (Piece.start ⟨(pdu.identity, some pdu.protection), pdu.clear⟩).after underWay,
      sdu.head.2.isSome := by
    intro sdu isSdu
    cases isSdu
    rfl
  unfold UplinkPdu.piece
  cases pdu.header with
  | access header =>
    dsimp only
    split
    · exact start
    · exact protect
  | data header =>
    dsimp only
    split
    · exact start
    · exact protect
  | frag header =>
    intro sdu isSdu
    obtain ⟨before, isBefore, rfl⟩ := map_eq_some_iff.mp isSdu
    exact protect before isBefore
  | macEndUl header => exact fun _ isSdu => nomatch isSdu
  | macEndHu header => exact fun _ isSdu => nomatch isSdu

theorem outcome_same (same : prim = { origin with pdu := prim.pdu })
    (held : Nat → Option (DefragBuffer Key)) (pdu : UplinkPdu Key) :
    air.outcome held prim pdu = air.outcome held origin pdu := by
  rw [same]
  rfl

variable {next : TmvUnitdataInd}

theorem loop_stops {mid : UmacBs Key} (start : next.pdu.start = prim.pdu.start)
    (ran : (if next.pdu.start ≠ prim.pdu.start ∧ 16 ≤ next.pdu.getLen then
      air.rxTmvSchLoop fuel mid next else pure mid) = .ok later) : later = mid := by
  rw [if_neg (fun both => both.1 start)] at ran
  cases ran
  rfl

theorem loop_goesOn {mid : UmacBs Key} {rest : List Bool} (goesOn : GoesOn prim next rest)
    (ran : (if next.pdu.start ≠ prim.pdu.start ∧ 16 ≤ next.pdu.getLen then
      air.rxTmvSchLoop fuel mid next else pure mid) = .ok later) :
    (16 ≤ rest.length ∧ air.rxTmvSchLoop fuel mid next = .ok later) ∨
      (¬ 16 ≤ rest.length ∧ later = mid) := by
  have moved : next.pdu.start ≠ prim.pdu.start := goesOn.later.ne'
  rw [goesOn.begins.getLen] at ran
  by_cases enough : 16 ≤ rest.length
  · rw [if_pos ⟨moved, enough⟩] at ran
    exact .inl ⟨enough, ran⟩
  · rw [if_neg (fun both => enough both.2)] at ran
    cases ran
    exact .inr ⟨enough, rfl⟩

theorem peek_some {block : BitBuffer} (begins : Begins block bits) (enough : 16 ≤ bits.length) :
    ∃ value, block.peekBits 3 = some value := by
  have total := BitBuffer.length_unread begins.window
  rw [begins.unread] at total
  exact ⟨_, if_pos (by omega)⟩

/-- Behind the last PDU the loop does nothing. -/
theorem loop_nil (channels : signalling origin.logicalChannel)
    (same : prim = { origin with pdu := prim.pdu }) (idle : Idle origin.logicalChannel tail)
    (begins : Begins prim.pdu tail) (enough : 16 ≤ tail.length)
    (ran : air.rxTmvSchLoop fuel umac prim = .ok later) : Untouched umac later := by
  have channel : prim.logicalChannel = origin.logicalChannel := by rw [same]
  rw [← channel] at channels idle
  cases fuel with
  | zero =>
    cases ran
    exact ⟨rfl, rfl⟩
  | succ fuel =>
    obtain ⟨bits, peeked⟩ := peek_some begins enough
    unfold rxTmvSchLoop at ran
    rw [peeked] at ran
    obtain ⟨⟨mid, next⟩, dispatched, ran⟩ := bind_eq_ok.mp ran
    obtain ⟨untouched, start⟩ := air.dispatch_idle channels idle enough begins peeked dispatched
    exact air.loop_stops start ran ▸ untouched

/-- One turn of the loop takes one PDU. -/
theorem loop_cons {pdu : UplinkPdu Key}
    (channels : signalling origin.logicalChannel) (same : prim = { origin with pdu := prim.pdu })
    (sendable : SendableAll origin.logicalChannel tail (pdu :: rest))
    (begins : Begins prim.pdu (wires tail (pdu :: rest)))
    (enough : 16 ≤ (wires tail (pdu :: rest)).length)
    (ran : air.rxTmvSchLoop (fuel + 1) umac prim = .ok later) :
    ∃ mid next, (air.outcome umac.defrag.held origin pdu).Does umac prim (wires tail rest) mid next ∧
      (if next.pdu.start ≠ prim.pdu.start ∧ 16 ≤ next.pdu.getLen then
        air.rxTmvSchLoop fuel mid next else pure mid) = .ok later := by
  have channel : prim.logicalChannel = origin.logicalChannel := by rw [same]
  obtain ⟨bits, peeked⟩ := peek_some begins enough
  unfold rxTmvSchLoop at ran
  rw [peeked] at ran
  obtain ⟨⟨mid, next⟩, dispatched, ran⟩ := bind_eq_ok.mp ran
  have does := air.dispatch_spec (channel ▸ channels) (channel ▸ sendable.1) begins peeked dispatched
  exact ⟨mid, next, air.outcome_same same _ _ ▸ does, ran⟩

/-- **A block that may be received** is received as its sender sent it. By induction on its PDUs:
what is held stays in agreement with what is under way. -/
theorem rxTmvSchLoop_receives (channels : signalling origin.logicalChannel)
    (pdus : List (UplinkPdu Key)) (same : prim = { origin with pdu := prim.pdu })
    (sendable : SendableAll origin.logicalChannel tail pdus)
    (begins : Begins prim.pdu (wires tail pdus)) (enough : 16 ≤ (wires tail pdus).length)
    (fuelled : (wires tail pdus).length < fuel)
    (clean : air.Clean sender origin tail umac.defrag.held pdus)
    (agree : Agree (heldSdu umac.defrag.held sender) underWay)
    (protect : ∀ sdu ∈ underWay, sdu.head.2.isSome)
    (inOrder : inOrderAll underWay (pdus.map (·.piece)) = true)
    (ran : air.rxTmvSchLoop fuel umac prim = .ok later) :
    Receives sender umac later underWay (pdus.map (·.piece)) := by
  induction pdus generalizing fuel umac prim underWay with
  | nil =>
    have untouched := air.loop_nil channels same sendable begins enough ran
    refine ⟨?_, fun other _ => by rw [untouched.held], [], ?_, nil_sublist _⟩
    · rw [untouched.held]
      exact agree
    · rw [untouched.reassembled, append_nil]
  | cons pdu rest ih =>
    obtain ⟨fuel, rfl⟩ : ∃ less, fuel = less + 1 := ⟨fuel - 1, by omega⟩
    obtain ⟨mid, next, does, ran⟩ := air.loop_cons channels same sendable begins enough ran
    have is := air.outcome_of umac.defrag.held origin pdu
    have shorter : (wires tail rest).length < fuel := by
      have some := wire_pos pdu
      rw [wires, length_append] at fuelled
      omega
    -- the turns after this one, if there are any
    have onward : ∀ {underWay' : Option (Message (SduHead Key) Bool)},
        GoesOn prim next (wires tail rest) → 16 ≤ (wires tail rest).length →
        air.Clean sender origin tail mid.defrag.held rest →
        Agree (heldSdu mid.defrag.held sender) underWay' →
        (∀ sdu ∈ underWay', sdu.head.2.isSome) →
        inOrderAll underWay' (rest.map (·.piece)) = true →
        air.rxTmvSchLoop fuel mid next = .ok later →
        Receives sender mid later underWay' (rest.map (·.piece)) := by
      intro underWay' goesOn enough clean agree protect inOrder ran
      exact ih (by rw [goesOn.same, same]) sendable.2 goesOn.begins enough shorter clean agree
        protect inOrder ran
    rw [map_cons]
    rw [map_cons] at inOrder
    obtain ⟨now, inOrder⟩ := Bool.and_eq_true_iff.mp inOrder
    have protect' := protected_after pdu protect
    unfold Clean at clean
    cases made : air.outcome umac.defrag.held origin pdu with
    | stopped =>
      rw [made] at does clean
      obtain ⟨untouched, start⟩ := does
      obtain rfl := air.loop_stops start ran
      refine .of_untouched untouched (.missed ?_ ?_)
      · rw [untouched.held]
        exact agree
      · rw [untouched.held]
        exact clean
    | passed =>
      rw [made] at does clean is
      obtain ⟨untouched, goesOn⟩ := does
      have whole : pdu.piece = .whole := is
      rw [whole] at inOrder protect' ⊢
      refine .cons_none ?_ (fun other _ => by rw [untouched.held]) untouched.reassembled
      obtain ⟨more, ran⟩ | ⟨few, rfl⟩ := air.loop_goesOn goesOn ran
      · rw [if_pos more] at clean
        rw [← untouched.held] at clean agree
        exact onward goesOn more clean agree protect' inOrder ran
      · rw [if_neg few] at clean
        rw [← untouched.held] at clean agree
        exact .missed agree clean
    | filed addr aieRequest bits =>
      rw [made] at does clean is
      obtain ⟨held, reassembled, goesOn⟩ := does
      have start : pdu.piece = .start ⟨(pdu.identity, some pdu.protection), pdu.clear⟩ := is
      obtain ⟨rfl, rfl, rfl, mine⟩ := clean
      obtain ⟨behind, rfl⟩ := wires_nil sendable (by rw [start]; rfl)
      rw [start]
      refine .cons_none ?_ ?_ reassembled
      · obtain ⟨more, -⟩ | ⟨-, rfl⟩ := air.loop_goesOn goesOn ran
        · rw [behind] at more
          simp at more
        · refine .missed ?_ (.inr (by simp))
          rw [held, mine, heldSdu_update_self]
          exact .start _ _
      · intro other different
        rw [held, mine, update_of_ne different]
    | appended owner bits =>
      rw [made] at does clean is
      obtain ⟨held, reassembled, start⟩ := does
      have more : pdu.piece = .more pdu.clear := is
      obtain ⟨behind, rfl⟩ := wires_nil sendable (by rw [more]; rfl)
      obtain rfl := air.loop_stops start ran
      rw [more]
      dsimp only at clean
      by_cases mine : owner = sender
      · subst mine
        rw [if_pos rfl] at clean
        refine .cons_none ?_ ?_ reassembled
        · refine .missed ?_ (.inr (by simp))
          rw [held]
          exact agree_appended _ agree clean
        · intro other different
          rw [held, update_of_ne different]
      · rw [if_neg mine, more] at clean
        have unchanged : later.defrag.held = umac.defrag.held := by
          rw [held, clean.1]
          exact update_eq_self_iff.mpr clean.1.symm
        refine .of_untouched ⟨unchanged, reassembled⟩ (.missed ?_ ?_)
        · rw [unchanged]
          exact agree
        · rw [unchanged]
          exact clean.2
    | completed owner bits =>
      rw [made] at does clean is
      obtain ⟨held, does⟩ := does
      have finish : pdu.piece = .finish pdu.clear := is
      rw [finish] at now inOrder protect' ⊢
      dsimp only at clean
      by_cases mine : owner = sender
      · subst mine
        rw [if_pos rfl] at clean
        obtain ⟨genuine, rest⟩ := clean
        have others : ∀ other ≠ owner, mid.defrag.held other = umac.defrag.held other := by
          intro other different
          rw [held, update_of_ne different]
        have nothing : heldSdu mid.defrag.held owner = none := by
          rw [held, heldSdu_update_self]
          rfl
        cases done : (umac.defrag.held owner).bind fun buf =>
            BsDefrag.appended buf bits prim.ulTime with
        | none =>
          rw [done] at does
          obtain ⟨reassembled, start⟩ := does
          obtain rfl := air.loop_stops start ran
          refine .cons_none (.missed ?_ (.inl nothing)) others reassembled
          rw [nothing]
          exact .none _
        | some buf =>
          rw [done] at does
          obtain ⟨goesOn, ind, reassembled, pduIs, address, policy⟩ := does
          have sdu := completes_appended agree genuine done protect now pduIs address policy
          refine .cons ?_ others reassembled ?_
          · have agree' : Agree (heldSdu mid.defrag.held owner)
                ((Piece.finish pdu.clear).after underWay) := by
              rw [nothing]
              exact .none _
            obtain ⟨more, ran⟩ | ⟨-, rfl⟩ := air.loop_goesOn goesOn ran
            · rw [if_pos more, ← held] at rest
              exact onward goesOn more rest agree' protect' inOrder ran
            · exact .missed agree' (.inl nothing)
          · obtain ⟨sent, isSent, sentIs⟩ := map_eq_some_iff.mp sdu
            rw [isSent, map_singleton, ← sentIs]
            exact .refl _
      · rw [if_neg mine, map_cons, finish] at clean
        rw [clean.1] at does
        obtain ⟨reassembled, start⟩ := does
        obtain rfl := air.loop_stops start ran
        have unchanged : later.defrag.held = umac.defrag.held := by
          rw [held]
          exact update_eq_self_iff.mpr clean.1.symm
        refine .of_untouched ⟨unchanged, reassembled⟩ (.missed ?_ ?_)
        · rw [unchanged]
          exact agree
        · rw [unchanged]
          exact clean.2

theorem rxTmvPrim_loop (ran : air.rxTmvPrim umac (some prim) = .ok later) :
    air.rxTmvSchLoop (prim.pdu.getLen + 1) umac prim = .ok later := by
  replace ran : air.rxTmvUnitdataInd umac prim = .ok later := ran
  unfold rxTmvUnitdataInd at ran
  split at ran
  · obtain ⟨_, -, ran⟩ := bind_eq_ok.mp ran
    exact ran
  · obtain ⟨_, -, ran⟩ := bind_eq_ok.mp ran
    exact ran
  · obtain ⟨_, -, ran⟩ := bind_eq_ok.mp ran
    exact ran
  · contradiction

/-- **A clean block is received as its terminal sent it.** -/
theorem rxTmvPrim_receives (block : UplinkBlock Key)
    (clean : air.Clean sender block.prim block.tail umac.defrag.held block.pdus)
    (agree : Agree (heldSdu umac.defrag.held sender) underWay)
    (protect : ∀ sdu ∈ underWay, sdu.head.2.isSome)
    (inOrder : inOrderAll underWay block.pieces = true)
    (ran : air.rxTmvPrim umac (some block.prim) = .ok later) :
    Receives sender umac later underWay block.pieces := by
  have enough : 16 ≤ (wires block.tail block.pdus).length := by
    rw [block.length]
    rcases block.channels with is | is | is <;> rw [is] <;> decide
  have begins : Begins block.prim.pdu (wires block.tail block.pdus) :=
    ⟨⟨Nat.zero_le _, Nat.zero_le _, le_rfl⟩, rfl, BitBuffer.unread_ofBits _⟩
  refine air.rxTmvSchLoop_receives block.channels block.pdus rfl block.sendable begins enough ?_
    clean agree protect inOrder (air.rxTmvPrim_loop ran)
  exact Nat.lt_succ_self _

/-! ### Accesses that were put off -/

/-- An access that was put off is received again: it holds whole SDUs and at most a first fragment,
of an SDU that its terminal still has under way. -/
def Resumes (sending : Nat → Option (Message (SduHead Key) Bool)) (prim : TmvUnitdataInd) :
    List (UplinkPdu Key) → Prop
  | [] => True
  | pdu :: rest => ∀ held,
      match air.outcome held prim pdu with
      | .stopped => True
      | .passed => Resumes sending prim rest
      | .filed addr aieRequest bits => sending addr.ssi = some ⟨(addr, some aieRequest), bits⟩
      | .appended _ _ | .completed _ _ => False

/-- A message that may be received again. -/
structure Resumable (sending : Nat → Option (Message (SduHead Key) Bool)) (prim : TmvUnitdataInd)
    (tail : List Bool) (pdus : List (UplinkPdu Key)) : Prop where
  channels : signalling prim.logicalChannel
  sendable : SendableAll prim.logicalChannel tail pdus
  begins : Begins prim.pdu (wires tail pdus)
  enough : 16 ≤ (wires tail pdus).length
  resumes : air.Resumes sending prim pdus

def AgreeAll (umac : UmacBs Key) (sending : Nat → Option (Message (SduHead Key) Bool)) : Prop :=
  ∀ ssi, Agree (heldSdu umac.defrag.held ssi) (sending ssi)

theorem AgreeAll.of_untouched (untouched : Untouched umac later) (agree : AgreeAll umac sending) :
    AgreeAll later sending := by
  unfold AgreeAll
  rw [untouched.held]
  exact agree

/-- **A first fragment that is filed belatedly** is what its terminal has under way. -/
theorem AgreeAll.filed {addr : TetraAddress} {aieRequest : AieRequest Key}
    (agree : AgreeAll umac sending)
    (held : later.defrag.held = Function.update umac.defrag.held addr.ssi
      (some ⟨.active, addr, time, time, 1, some aieRequest, bits⟩))
    (current : sending addr.ssi = some ⟨(addr, some aieRequest), bits⟩) : AgreeAll later sending := by
  intro ssi
  rw [held]
  by_cases same : ssi = addr.ssi
  · subst same
    rw [heldSdu_update_self, current]
    exact .start _ none
  · unfold heldSdu
    rw [update_of_ne same]
    exact agree ssi

/-- The loop over an access that is received again, by induction on its PDUs. -/
theorem rxTmvSchLoop_resumes (channels : signalling origin.logicalChannel)
    (pdus : List (UplinkPdu Key)) (same : prim = { origin with pdu := prim.pdu })
    (sendable : SendableAll origin.logicalChannel tail pdus)
    (begins : Begins prim.pdu (wires tail pdus)) (enough : 16 ≤ (wires tail pdus).length)
    (resumes : air.Resumes sending origin pdus) (agree : AgreeAll umac sending)
    (ran : air.rxTmvSchLoop fuel umac prim = .ok later) :
    AgreeAll later sending ∧ later.reassembled = umac.reassembled := by
  induction pdus generalizing fuel umac prim with
  | nil =>
    have untouched := air.loop_nil channels same sendable begins enough ran
    exact ⟨agree.of_untouched untouched, untouched.reassembled⟩
  | cons pdu rest ih =>
    cases fuel with
    | zero =>
      cases ran
      exact ⟨agree, rfl⟩
    | succ fuel =>
      obtain ⟨mid, next, does, ran⟩ := air.loop_cons channels same sendable begins enough ran
      have is := air.outcome_of umac.defrag.held origin pdu
      have now := resumes umac.defrag.held
      cases made : air.outcome umac.defrag.held origin pdu with
      | stopped =>
        rw [made] at does
        obtain ⟨untouched, start⟩ := does
        obtain rfl := air.loop_stops start ran
        exact ⟨agree.of_untouched untouched, untouched.reassembled⟩
      | passed =>
        rw [made] at does now
        obtain ⟨untouched, goesOn⟩ := does
        obtain ⟨more, ran⟩ | ⟨-, rfl⟩ := air.loop_goesOn goesOn ran
        · obtain ⟨agree, reassembled⟩ := ih (by rw [goesOn.same, same]) sendable.2 goesOn.begins more
            now (agree.of_untouched untouched) ran
          exact ⟨agree, reassembled.trans untouched.reassembled⟩
        · exact ⟨agree.of_untouched untouched, untouched.reassembled⟩
      | filed addr aieRequest bits =>
        rw [made] at does now is
        obtain ⟨held, reassembled, goesOn⟩ := does
        have start : pdu.piece = .start ⟨(pdu.identity, some pdu.protection), pdu.clear⟩ := is
        obtain ⟨behind, -⟩ := wires_nil sendable (by rw [start]; rfl)
        obtain ⟨more, -⟩ | ⟨-, rfl⟩ := air.loop_goesOn goesOn ran
        · rw [behind] at more
          simp at more
        · exact ⟨agree.filed held now, reassembled⟩
      | appended owner bits =>
        rw [made] at now
        contradiction
      | completed owner bits =>
        rw [made] at now
        contradiction

/-- **An access that may be received again** completes nothing and keeps the agreement. -/
theorem rxTmvPrim_resumes {pdus : List (UplinkPdu Key)}
    (resumable : air.Resumable sending prim tail pdus) (agree : AgreeAll umac sending)
    (ran : air.rxTmvPrim umac (some prim) = .ok later) :
    AgreeAll later sending ∧ later.reassembled = umac.reassembled :=
  air.rxTmvSchLoop_resumes resumable.channels pdus rfl resumable.sendable resumable.begins
    resumable.enough resumable.resumes agree (air.rxTmvPrim_loop ran)

theorem foldlM_resumes {ready : List PendingSc3Access} (umac : UmacBs Key)
    (resumable : ∀ pending ∈ ready, ∃ tail pdus, air.Resumable sending pending.message tail pdus)
    (agree : AgreeAll umac sending)
    (ran : ready.foldlM (fun umac pending => air.rxTmvPrim umac (some pending.message)) umac =
      .ok later) : AgreeAll later sending ∧ later.reassembled = umac.reassembled := by
  induction ready generalizing umac with
  | nil =>
    cases ran
    exact ⟨agree, rfl⟩
  | cons pending ready ih =>
    obtain ⟨mid, received, ran⟩ := bind_eq_ok.mp ran
    obtain ⟨tail, pdus, first⟩ := resumable pending mem_cons_self
    obtain ⟨agree, same⟩ := air.rxTmvPrim_resumes first agree received
    obtain ⟨agree, reassembled⟩ := ih mid
      (fun other member => resumable other (mem_cons_of_mem _ member)) agree ran
    exact ⟨agree, reassembled.trans same⟩

theorem resumeSc3Access_resumes {ts : TdmaTime}
    (resumable : ∀ pending ∈ umac.pendingSc3Access, air.hasSc3Dck pending.issi = true →
      ∃ tail pdus, air.Resumable sending pending.message tail pdus) (agree : AgreeAll umac sending)
    (ran : air.resumeSc3Access umac ts = .ok later) :
    AgreeAll later sending ∧ later.reassembled = umac.reassembled := by
  unfold resumeSc3Access at ran
  generalize umac.pendingSc3Access.filter (fun pending =>
    !air.hasSc3Dck pending.issi && _) = waiting at ran
  refine air.foldlM_resumes { umac with pendingSc3Access := waiting } (fun pending member => ?_)
    agree ran
  obtain ⟨waits, ready⟩ := mem_filter.mp member
  exact resumable pending waits ready

end Surroundings

end Bluestation
