/-
**Defragmentation over whole runs: terminals do not disturb each other.**

The maps of the four timeslots as the operations work on them, one map at a time; that a terminal has
one buffer at most is proved of them, over any interleaving of the operations.

* `DefragMaps.insertLast_eq`, … — the operations on the maps are those on the buffers of `BsDefrag`.
* `defrag_isolated` — what the last fragment completes is what that says.
-/

import Bluestation.Umac.BsDefrag

namespace Bluestation

open Bits List Option Function

def DEFRAG_TS_BEFORE_TIMEOUT : Int := 10 * 4

variable {Key : Type}

/-! ### The maps -/

/-- The buffers of each timeslot by SSI. -/
abbrev DefragMaps (Key : Type) := Fin 4 → Nat → Option (DefragBuffer Key)

def DefragBuffer.aged (buf : DefragBuffer Key) (t : TdmaTime) : DefragBuffer Key :=
  if buf.state ≠ .inactive ∧ DEFRAG_TS_BEFORE_TIMEOUT < t.diff buf.tLast then buf.reset else buf

namespace DefragMaps

def new : DefragMaps Key := fun _ _ => none

variable (maps : DefragMaps Key)

def put (slot : Fin 4) (ssi : Nat) (buf : Option (DefragBuffer Key)) : DefragMaps Key :=
  Function.update maps slot (Function.update (maps slot) ssi buf)

def active (maps : DefragMaps Key) (ssi : Nat) (slot : Fin 4) : Option (DefragBuffer Key) :=
  (maps slot ssi).filter fun buffer => buffer.state = .active

def ageBuffers (t : TdmaTime) : DefragMaps Key :=
  fun slot ssi => (maps slot ssi).map (·.aged t)

def activeBufferSlot (ssi : Nat) (t : TdmaTime) :
    Except Fault (Option (Fin 4)) := do
  let currentTs ← slotIndex t
  if (maps.active ssi currentTs).isSome then pure (some currentTs)
  else pure (BsDefrag.minByKey
    (fun slot => ((maps.active ssi slot).map (BsDefrag.fragmentAge t)).getD 0)
    ((List.finRange 4).filter fun slot => (maps.active ssi slot).isSome))

def appendFragment (bitbuffer : BitBuffer) (ssi : Nat) (t : TdmaTime) (originTs : Fin 4) :
    DefragMaps Key × Bool :=
  match maps originTs ssi with
  | none => (maps, false)
  | some buf =>
    if buf.state ≠ .active then (maps, false)
    else if DEFRAG_BUF_MAX_LEN < buf.buffer.length + bitbuffer.getLenRemaining then
      (maps.put originTs ssi (some buf.reset), false)
    else
      (maps.put originTs ssi (some { buf with
        tLast := t
        numFrags := buf.numFrags + 1
        buffer := buf.buffer ++ bitbuffer.unread }), true)

/-- What the terminal had under way is taken out of every map; one of its buffers, if there is one, is
used again, emptied. -/
def insertFirst (bitbuffer : BitBuffer) (t : TdmaTime) (addr : TetraAddress)
    (aieRequest : Option (AieRequest Key)) : Except Fault (DefragMaps Key) := do
  let ts ← slotIndex t
  let cleared := (List.finRange 4).foldl (fun maps slot => maps.put slot addr.ssi none) maps
  let reusable := (List.finRange 4).findSome? fun slot => (maps slot addr.ssi).map DefragBuffer.reset
  let buf := reusable.getD .new
  pure (cleared.put ts addr.ssi (some { buf with
    state := .active
    addr
    tFirst := t
    tLast := t
    numFrags := 1
    aieRequest
    buffer := buf.buffer ++ bitbuffer.unread }))

def insertNext (bitbuffer : BitBuffer) (ssi : Nat) (t : TdmaTime) :
    Except Fault (DefragMaps Key) := do
  match ← maps.activeBufferSlot ssi t with
  | none => pure maps
  | some originTs => pure (maps.appendFragment bitbuffer ssi t originTs).1

def insertLast (bitbuffer : BitBuffer) (ssi : Nat) (t : TdmaTime) :
    Except Fault (DefragMaps Key × Option (DefragBuffer Key)) := do
  match ← maps.activeBufferSlot ssi t with
  | none => pure (maps, none)
  | some originTs =>
    match maps.appendFragment bitbuffer ssi t originTs with
    | (maps, false) => pure (maps, none)
    | (maps, true) =>
      pure (maps.put originTs ssi none,
        (maps originTs ssi).map fun buf => { buf with state := .complete })

end DefragMaps

/-- Buffers age in place. -/
def BsDefrag.ageBuffers (defrag : BsDefrag Key) (t : TdmaTime) : BsDefrag Key where
  buffers := DefragMaps.ageBuffers defrag.buffers t
  single ssi first second filed again :=
    defrag.single ssi first second (by simpa [DefragMaps.ageBuffers] using filed)
      (by simpa [DefragMaps.ageBuffers] using again)

/-! ### The operations on the maps are those on the buffers -/

namespace DefragMaps

variable {defrag : BsDefrag Key} {ssi : Nat} {slot : Fin 4}

theorem put_eq_refile {buf : Option (DefragBuffer Key)}
    (filed : (defrag.buffers slot ssi).isSome = true) :
    put defrag.buffers slot ssi buf = (defrag.refile ssi slot buf).buffers := by
  funext other who
  unfold put BsDefrag.refile
  by_cases here : other = slot
  · subst here
    rw [update_self]
    dsimp only
    rw [if_pos rfl]
  · rw [update_of_ne here]
    dsimp only
    rw [if_neg here]
    by_cases same : who = ssi
    · subst same
      rw [update_self]
      by_contra there
      exact here (defrag.single who other slot (isSome_iff_ne_none.mpr there) filed)
    · rw [update_of_ne same]

variable (bitbuffer : BitBuffer)

theorem appendFragment_eq (t : TdmaTime) : appendFragment defrag.buffers bitbuffer ssi t slot =
      ((defrag.appendFragment bitbuffer ssi t slot).1.buffers,
        (defrag.appendFragment bitbuffer ssi t slot).2) := by
  unfold appendFragment BsDefrag.appendFragment
  cases found : defrag.buffers slot ssi with
  | none => rfl
  | some buf =>
    have filed : (defrag.buffers slot ssi).isSome = true := by
      rw [found]
      rfl
    dsimp only
    by_cases idle : buf.state ≠ .active
    · rw [if_pos idle, if_pos idle]
    rw [if_neg idle, if_neg idle]
    by_cases long : DEFRAG_BUF_MAX_LEN < buf.buffer.length + bitbuffer.getLenRemaining
    · rw [if_pos long, if_pos long, put_eq_refile filed]
    · rw [if_neg long, if_neg long, put_eq_refile filed]

theorem foldl_put_none (maps : DefragMaps Key) (slots : List (Fin 4)) (other : Fin 4) (who : Nat) :
    slots.foldl (fun maps slot => maps.put slot ssi none) maps other who =
      if other ∈ slots ∧ who = ssi then none else maps other who := by
  induction slots generalizing maps with
  | nil => rw [foldl_nil, if_neg (fun both => not_mem_nil both.1)]
  | cons slot rest ih =>
    rw [foldl_cons, ih]
    unfold put
    by_cases same : who = ssi
    · by_cases here : other = slot
      · subst here
        simp [same]
      · simp [same, here]
    · by_cases here : other = slot
      · subst here
        simp [same]
      · simp [same, here]

theorem insertFirst_eq (t : TdmaTime) (addr : TetraAddress) (aieRequest : Option (AieRequest Key)) :
    insertFirst defrag.buffers bitbuffer t addr aieRequest =
      (defrag.insertFirst bitbuffer t addr aieRequest).map (·.buffers) := by
  unfold insertFirst BsDefrag.insertFirst
  cases slotIndex t with
  | error fault => rfl
  | ok ts =>
    have fresh : (((List.finRange 4).findSome? fun slot =>
        (defrag.buffers slot addr.ssi).map DefragBuffer.reset).getD .new) = DefragBuffer.new := by
      cases found : (List.finRange 4).findSome? fun slot =>
          (defrag.buffers slot addr.ssi).map DefragBuffer.reset with
      | none => rfl
      | some buf =>
        obtain ⟨slot, -, is⟩ := exists_of_findSome?_eq_some found
        obtain ⟨old, -, rfl⟩ := map_eq_some_iff.mp is
        rfl
    rw [ok_bind]
    dsimp only
    rw [fresh]
    congr 1
    funext other who
    unfold put BsDefrag.refile
    by_cases here : other = ts
    · subst here
      rw [update_self]
      dsimp only
      rw [if_pos rfl]
      by_cases same : who = addr.ssi
      · subst same
        rw [update_self, update_self]
        rfl
      · rw [update_of_ne same, update_of_ne same]
        exact (foldl_put_none _ _ _ _).trans (if_neg fun both => same both.2)
    · rw [update_of_ne here]
      dsimp only
      rw [if_neg here]
      refine (foldl_put_none _ _ _ _).trans ?_
      by_cases same : who = addr.ssi
      · subst same
        rw [if_pos ⟨mem_finRange _, rfl⟩, update_self]
      · rw [if_neg fun both => same both.2, update_of_ne same]

theorem insertNext_eq (t : TdmaTime) : insertNext defrag.buffers bitbuffer ssi t =
      (defrag.insertNext bitbuffer ssi t).map (·.buffers) := by
  show (activeBufferSlot defrag.buffers ssi t >>= _) =
    ((activeBufferSlot defrag.buffers ssi t >>= _).map _)
  cases activeBufferSlot defrag.buffers ssi t with
  | error fault => rfl
  | ok found =>
    cases found with
    | none => rfl
    | some originTs =>
      rw [ok_bind]
      dsimp only
      rw [appendFragment_eq]
      rfl

theorem appendFragment_filed {bitbuffer : BitBuffer} {t : TdmaTime} {next : BsDefrag Key}
    (appended : defrag.appendFragment bitbuffer ssi t slot = (next, true)) :
    (next.buffers slot ssi).isSome = true := by
  unfold BsDefrag.appendFragment at appended
  split at appended
  · cases appended
  split at appended
  · cases appended
  split at appended
  · cases appended
  · cases appended
    unfold BsDefrag.refile
    dsimp only
    rw [if_pos rfl, update_self]
    rfl

theorem insertLast_eq (t : TdmaTime) : insertLast defrag.buffers bitbuffer ssi t =
      (defrag.insertLast bitbuffer ssi t).map fun pair => (pair.1.buffers, pair.2) := by
  show (activeBufferSlot defrag.buffers ssi t >>= _) =
    ((activeBufferSlot defrag.buffers ssi t >>= _).map _)
  cases activeBufferSlot defrag.buffers ssi t with
  | error fault => rfl
  | ok found =>
    cases found with
    | none => rfl
    | some originTs =>
      rw [ok_bind, ok_bind]
      dsimp only
      rw [appendFragment_eq]
      rcases appended : defrag.appendFragment bitbuffer ssi t originTs with ⟨next, done⟩
      cases done with
      | false => rfl
      | true =>
        dsimp only
        rw [put_eq_refile (appendFragment_filed appended)]
        rfl

end DefragMaps

/-! ### What became of what a terminal has sent -/

/-- An operation on the defragmenter. -/
inductive DefragOp (Key : Type) where
  | first (bitbuffer : BitBuffer) (t : TdmaTime) (addr : TetraAddress)
      (aieRequest : Option (AieRequest Key))
  | next (bitbuffer : BitBuffer) (ssi : Nat) (t : TdmaTime)
  | last (bitbuffer : BitBuffer) (ssi : Nat) (t : TdmaTime)
  | age (t : TdmaTime)

def TdmaTime.InFrame (t : TdmaTime) : Prop := 1 ≤ t.t ∧ t.t ≤ 4

namespace DefragOp

/-- The fragment is a buffer, and the time is one of the four timeslots. -/
def Valid : DefragOp Key → Prop
  | first bitbuffer t _ _ => bitbuffer.Window ∧ t.InFrame
  | next bitbuffer _ t => bitbuffer.Window ∧ t.InFrame
  | last bitbuffer _ t => bitbuffer.Window ∧ t.InFrame
  | age _ => True

def concerns (ssi : Nat) : DefragOp Key → Bool
  | first _ _ addr _ => addr.ssi = ssi
  | next _ who _ => who = ssi
  | last _ who _ => who = ssi
  | age _ => true

def apply (maps : DefragMaps Key) : DefragOp Key → Except Fault (DefragMaps Key)
  | first bitbuffer t addr aieRequest => maps.insertFirst bitbuffer t addr aieRequest
  | next bitbuffer ssi t => maps.insertNext bitbuffer ssi t
  | last bitbuffer ssi t => (maps.insertLast bitbuffer ssi t).map Prod.fst
  | age t => .ok (maps.ageBuffers t)

def run (maps : DefragMaps Key) : List (DefragOp Key) → Except Fault (DefragMaps Key)
  | [] => .ok maps
  | op :: rest => do
    let maps ← op.apply maps
    run maps rest

end DefragOp

/-- An SDU under way: its first fragment's address, time and policy, and its fragments. -/
structure UnderWay (Key : Type) where
  addr : TetraAddress
  tFirst : TdmaTime
  tLast : TdmaTime
  aieRequest : Option (AieRequest Key)
  fragments : List (List Bool)

/-- What became of what a terminal has sent. -/
inductive Fate (Key : Type) where
  /-- Nothing is under way: no first fragment, or none since the last one. -/
  | idle
  | underWay (sdu : UnderWay Key)
  | agedOut
  | overflowed

namespace UnderWay

variable (sdu : UnderWay Key)

def bits : List Bool := sdu.fragments.flatten

def buffer (state : DefragBufferState) : DefragBuffer Key :=
  ⟨state, sdu.addr, sdu.tFirst, sdu.tLast, sdu.fragments.length, sdu.aieRequest, sdu.bits⟩

def append (fragment : List Bool) (t : TdmaTime) : UnderWay Key :=
  { sdu with
    tLast := t
    fragments := sdu.fragments ++ [fragment] }

def hasRoom (fragment : List Bool) : Bool :=
  sdu.bits.length + fragment.length ≤ DEFRAG_BUF_MAX_LEN

end UnderWay

namespace Fate

/-- What an operation does to it, if it is for the terminal. -/
def after (fate : Fate Key) : DefragOp Key → Fate Key
  | .first bitbuffer t addr aieRequest => underWay ⟨addr, t, t, aieRequest, [bitbuffer.unread]⟩
  | .next bitbuffer _ t =>
    match fate with
    | underWay sdu =>
      if sdu.hasRoom bitbuffer.unread then underWay (sdu.append bitbuffer.unread t) else overflowed
    | other => other
  | .last _ _ _ => idle
  | .age t =>
    match fate with
    | underWay sdu => if DEFRAG_TS_BEFORE_TIMEOUT < t.diff sdu.tLast then agedOut else underWay sdu
    | other => other

/-- What the last fragment completes: the SDU, if it is under way still and has room for it. -/
def completed (fate : Fate Key) (fragment : List Bool) (t : TdmaTime) : Option (DefragBuffer Key) :=
  match fate with
  | underWay sdu =>
    if sdu.hasRoom fragment then some ((sdu.append fragment t).buffer .complete) else none
  | _ => none

def held : Fate Key → Option (DefragBuffer Key)
  | underWay sdu => some (sdu.buffer .active)
  | _ => none

/-- What became of what a terminal has sent, from the operations for it. -/
def ofOps (ops : List (DefragOp Key)) : Fate Key := ops.foldl after idle

end Fate

/-! ### One operation -/

namespace BsDefrag

variable {defrag : BsDefrag Key} {bitbuffer : BitBuffer} {ssi : Nat} {t : TdmaTime}

theorem slotIndex_ok (inFrame : t.InFrame) : ∃ slot, slotIndex t = .ok slot := by
  exact ⟨_, dif_pos inFrame⟩

theorem activeBufferSlot_runs (defrag : BsDefrag Key) (ssi : Nat) (inFrame : t.InFrame) :
    ∃ found, defrag.activeBufferSlot ssi t = .ok found := by
  obtain ⟨slot, is⟩ := slotIndex_ok inFrame
  unfold activeBufferSlot
  rw [is, ok_bind]
  split
  · exact ⟨_, rfl⟩
  · exact ⟨_, rfl⟩

theorem insertFirst_runs (defrag : BsDefrag Key) (bitbuffer : BitBuffer) (addr : TetraAddress)
    (aieRequest : Option (AieRequest Key)) (inFrame : t.InFrame) :
    ∃ next, defrag.insertFirst bitbuffer t addr aieRequest = .ok next := by
  obtain ⟨slot, is⟩ := slotIndex_ok inFrame
  unfold insertFirst
  rw [is]
  exact ⟨_, rfl⟩

theorem insertNext_runs (defrag : BsDefrag Key) (bitbuffer : BitBuffer) (ssi : Nat)
    (inFrame : t.InFrame) : ∃ next, defrag.insertNext bitbuffer ssi t = .ok next := by
  obtain ⟨found, is⟩ := activeBufferSlot_runs defrag ssi inFrame
  unfold insertNext
  rw [is]
  cases found with
  | none => exact ⟨_, rfl⟩
  | some slot => exact ⟨_, rfl⟩

theorem insertLast_runs (defrag : BsDefrag Key) (bitbuffer : BitBuffer) (ssi : Nat)
    (inFrame : t.InFrame) : ∃ pair, defrag.insertLast bitbuffer ssi t = .ok pair := by
  obtain ⟨found, is⟩ := activeBufferSlot_runs defrag ssi inFrame
  unfold insertLast
  rw [is, ok_bind]
  cases found with
  | none => exact ⟨_, rfl⟩
  | some slot =>
    dsimp only
    rcases defrag.appendFragment bitbuffer ssi t slot with ⟨next, done⟩
    cases done with
    | false => exact ⟨_, rfl⟩
    | true => exact ⟨_, rfl⟩

theorem held_ageBuffers (defrag : BsDefrag Key) (t : TdmaTime) (ssi : Nat) :
    (defrag.ageBuffers t).held ssi =
      (defrag.held ssi).filter fun buf => ¬ DEFRAG_TS_BEFORE_TIMEOUT < t.diff buf.tLast := by
  ext buf
  rw [held_eq_some, filter_eq_some_iff, held_eq_some]
  constructor
  · rintro ⟨slot, here⟩
    obtain ⟨filed, isActive⟩ := active_eq_some.mp here
    obtain ⟨old, was, aged⟩ := map_eq_some_iff.mp filed
    unfold DefragBuffer.aged at aged
    by_cases expired : old.state ≠ .inactive ∧ DEFRAG_TS_BEFORE_TIMEOUT < t.diff old.tLast
    · rw [if_pos expired] at aged
      rw [← aged] at isActive
      cases isActive
    · rw [if_neg expired] at aged
      subst aged
      refine ⟨⟨slot, active_eq_some.mpr ⟨was, isActive⟩⟩, decide_eq_true ?_⟩
      intro late
      exact expired ⟨by rw [isActive]; decide, late⟩
  · rintro ⟨⟨slot, here⟩, young⟩
    obtain ⟨filed, isActive⟩ := active_eq_some.mp here
    refine ⟨slot, active_eq_some.mpr ⟨?_, isActive⟩⟩
    show (defrag.buffers slot ssi).map (·.aged t) = some buf
    rw [filed, map_some]
    congr 1
    exact if_neg fun expired => of_decide_eq_true young expired.2

end BsDefrag

namespace UnderWay

theorem appended_buffer (sdu : UnderWay Key) (fragment : List Bool) (t : TdmaTime) :
    BsDefrag.appended (sdu.buffer .active) fragment t =
      if sdu.hasRoom fragment then some ((sdu.append fragment t).buffer .active) else none := by
  unfold BsDefrag.appended hasRoom
  by_cases room : sdu.bits.length + fragment.length ≤ DEFRAG_BUF_MAX_LEN
  · unfold buffer append bits
    simp
  · rw [if_neg (show ¬ (sdu.buffer .active).buffer.length + fragment.length ≤ DEFRAG_BUF_MAX_LEN from
      room), if_neg (fun has => room (of_decide_eq_true has))]

end UnderWay

theorem Fate.completed_eq (fate : Fate Key) (fragment : List Bool) (t : TdmaTime) :
    (fate.held.bind fun buf => BsDefrag.appended buf fragment t).map
      (fun buf => { buf with state := .complete }) = fate.completed fragment t := by
  cases fate with
  | idle => rfl
  | agedOut => rfl
  | overflowed => rfl
  | underWay sdu =>
    unfold held completed
    rw [bind_some, sdu.appended_buffer]
    dsimp only
    split
    · rfl
    · rfl

theorem held_update {held : Nat → Option (DefragBuffer Key)} {fates : Nat → Fate Key}
    (agree : ∀ ssi, held ssi = (fates ssi).held) {op : DefragOp Key} {who : Nat}
    (only : ∀ ssi, op.concerns ssi = decide (who = ssi)) {value : Option (DefragBuffer Key)}
    (is : value = ((fates who).after op).held) (ssi : Nat) :
    Function.update held who value ssi =
      (if op.concerns ssi then (fates ssi).after op else fates ssi).held := by
  rw [only]
  by_cases same : who = ssi
  · subst same
    rw [update_self, if_pos (decide_eq_true rfl), is]
  · rw [update_of_ne (.symm same), agree, if_neg (fun is => same (of_decide_eq_true is))]

/-- **One operation** does to what a terminal has sent what it says, and to the others' nothing. -/
theorem DefragOp.apply_spec {op : DefragOp Key} (valid : op.Valid) {defrag : BsDefrag Key}
    {fates : Nat → Fate Key} (agree : ∀ ssi, defrag.held ssi = (fates ssi).held) :
    ∃ next : BsDefrag Key, op.apply defrag.buffers = .ok next.buffers ∧
      ∀ ssi, next.held ssi = (if op.concerns ssi then (fates ssi).after op else fates ssi).held := by
  cases op with
  | first bitbuffer t addr aieRequest =>
    obtain ⟨next, ran⟩ := defrag.insertFirst_runs bitbuffer addr aieRequest valid.2
    refine ⟨next, ?_, ?_⟩
    · show DefragMaps.insertFirst _ _ _ _ _ = _
      rw [DefragMaps.insertFirst_eq, ran]
      rfl
    · rw [BsDefrag.held_insertFirst ran]
      refine held_update agree (fun _ => rfl) ?_
      unfold Fate.after Fate.held UnderWay.buffer UnderWay.bits
      simp
  | next bitbuffer who t =>
    obtain ⟨next, ran⟩ := defrag.insertNext_runs bitbuffer who valid.2
    refine ⟨next, ?_, ?_⟩
    · show DefragMaps.insertNext _ _ _ _ = _
      rw [DefragMaps.insertNext_eq, ran]
      rfl
    · rw [BsDefrag.held_insertNext valid.1 ran]
      refine held_update agree (fun _ => rfl) ?_
      rw [agree]
      cases fates who with
      | idle => rfl
      | agedOut => rfl
      | overflowed => rfl
      | underWay sdu =>
        unfold Fate.after
        show (some (sdu.buffer .active)).bind _ = _
        rw [bind_some, sdu.appended_buffer]
        dsimp only
        split
        · rfl
        · rfl
  | last bitbuffer who t =>
    obtain ⟨⟨next, completed⟩, ran⟩ := defrag.insertLast_runs bitbuffer who valid.2
    refine ⟨next, ?_, ?_⟩
    · show (DefragMaps.insertLast _ _ _ _).map Prod.fst = _
      rw [DefragMaps.insertLast_eq, ran]
      rfl
    · rw [(BsDefrag.insertLast_complete valid.1 ran).1]
      exact held_update agree (fun _ => rfl) rfl
  | age t =>
    refine ⟨defrag.ageBuffers t, rfl, ?_⟩
    intro ssi
    rw [BsDefrag.held_ageBuffers, agree]
    cases fates ssi with
    | idle => rfl
    | agedOut => rfl
    | overflowed => rfl
    | underWay sdu =>
      have aged : (Fate.underWay sdu).after (.age t) =
          if DEFRAG_TS_BEFORE_TIMEOUT < t.diff sdu.tLast then .agedOut else .underWay sdu := rfl
      have young : ((Fate.underWay sdu).held.filter fun buf : DefragBuffer Key =>
          ¬ DEFRAG_TS_BEFORE_TIMEOUT < t.diff buf.tLast) =
          if DEFRAG_TS_BEFORE_TIMEOUT < t.diff sdu.tLast then none
          else some (sdu.buffer .active) := by
        by_cases late : DEFRAG_TS_BEFORE_TIMEOUT < t.diff sdu.tLast
        · rw [if_pos late]
          apply if_neg
          intro young
          exact absurd late (of_decide_eq_true young)
        · rw [if_neg late]
          exact if_pos (decide_eq_true late)
      rw [aged, young]
      split
      · rfl
      · rfl

/-! ### Whole runs -/

theorem DefragOp.run_spec {ops : List (DefragOp Key)} (valid : ∀ op ∈ ops, op.Valid)
    {defrag : BsDefrag Key} {fates : Nat → Fate Key}
    (agree : ∀ ssi, defrag.held ssi = (fates ssi).held) :
    ∃ last : BsDefrag Key, run defrag.buffers ops = .ok last.buffers ∧
      ∀ ssi, last.held ssi = ((ops.filter (·.concerns ssi)).foldl Fate.after (fates ssi)).held := by
  induction ops generalizing defrag fates with
  | nil => exact ⟨defrag, rfl, agree⟩
  | cons op rest ih =>
    obtain ⟨first, others⟩ := forall_mem_cons.mp valid
    obtain ⟨next, applied, agree⟩ := apply_spec first agree
    obtain ⟨last, ran, agree⟩ := ih others agree
    refine ⟨last, ?_, ?_⟩
    · unfold run
      rw [applied, ok_bind, ran]
    · intro ssi
      rw [agree, filter_cons]
      split
      · rfl
      · rfl

/-- **Terminals do not disturb each other.** After any valid operations a terminal has one buffer at
most, and what its last fragment completes is told by its own operations and the ageing alone: all
fragments since its last first one, in order and under that one's address and policy, or nothing if
there is none, or if they aged out or overflowed. -/
theorem defrag_isolated {ops : List (DefragOp Key)} (valid : ∀ op ∈ ops, op.Valid) :
    ∃ maps, DefragOp.run .new ops = .ok maps ∧
      (∀ ssi first second, (maps first ssi).isSome → (maps second ssi).isSome → first = second) ∧
      ∀ ssi bitbuffer t, (DefragOp.last bitbuffer ssi t : DefragOp Key).Valid →
        ∃ after, maps.insertLast bitbuffer ssi t =
          .ok (after, (Fate.ofOps (ops.filter (·.concerns ssi))).completed bitbuffer.unread t) := by
  obtain ⟨last, ran, agree⟩ := @DefragOp.run_spec Key ops valid .new (fun _ => .idle) fun _ => rfl
  refine ⟨last.buffers, ran, last.single, ?_⟩
  intro ssi bitbuffer t lastValid
  obtain ⟨⟨after, completed⟩, inserted⟩ := last.insertLast_runs bitbuffer ssi lastValid.2
  refine ⟨after.buffers, ?_⟩
  rw [DefragMaps.insertLast_eq, inserted, (BsDefrag.insertLast_complete lastValid.1 inserted).2, agree,
    Fate.completed_eq]
  rfl

def interleavedOps : List (DefragOp Unit) :=
  [.first (.ofBits [true]) ⟨2, 1, 1, 0⟩ ⟨1001, .issi⟩ none,
    .first (.ofBits [false]) ⟨3, 1, 1, 0⟩ ⟨1002, .issi⟩ none,
    .next (.ofBits [false, true]) 1001 ⟨4, 1, 1, 0⟩, .age ⟨1, 2, 1, 0⟩]

theorem interleaved_isolated : ∃ maps, DefragOp.run .new interleavedOps = .ok maps ∧
      ∃ after, maps.insertLast (.ofBits [true, true]) 1001 ⟨2, 2, 1, 0⟩ =
        .ok (after, some ⟨.complete, ⟨1001, .issi⟩, ⟨2, 1, 1, 0⟩, ⟨2, 2, 1, 0⟩, 3, none,
          [true, false, true, true, true]⟩) := by
  have windows (bits : List Bool) := BitBuffer.ofBits_window bits
  have valid : ∀ op ∈ interleavedOps, op.Valid := by
    simp only [interleavedOps, forall_mem_cons]
    exact ⟨⟨windows _, by decide, by decide⟩, ⟨windows _, by decide, by decide⟩,
      ⟨windows _, by decide, by decide⟩, trivial, nofun⟩
  obtain ⟨maps, ran, -, completes⟩ := defrag_isolated valid
  exact ⟨maps, ran, completes 1001 (.ofBits [true, true]) ⟨2, 2, 1, 0⟩
    ⟨windows _, by decide, by decide⟩⟩

end Bluestation
