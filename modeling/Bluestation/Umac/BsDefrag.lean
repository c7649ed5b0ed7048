/-
**The base station's defragmenter.**

A buffer for each terminal with a fragmented SDU under way, filed under the timeslot in which the
first fragment was received. A terminal has one SDU under way: whatever the timeslots, at most one
buffer is filed for it.

* `BsDefrag.held` — what is under way for a terminal, wherever it is filed.
* `held_insertFirst`, `held_insertNext`, `insertLast_complete` — the three operations on it.
-/

import Bluestation.Core.Primitives
import Bluestation.Core.TdmaTime

namespace Bluestation

open Bits List Option Function

def DEFRAG_BUF_MAX_LEN : Nat := 4096

inductive DefragBufferState where
  | inactive | active | complete
deriving DecidableEq

structure DefragBuffer (Key : Type) where
  state : DefragBufferState
  addr : TetraAddress
  tFirst : TdmaTime
  tLast : TdmaTime
  numFrags : Nat
  /-- The encryption policy that all fragments of the SDU inherit. -/
  aieRequest : Option (AieRequest Key)
  buffer : List Bool

variable {Key : Type}

namespace DefragBuffer

def new : DefragBuffer Key where
  state := .inactive
  addr := ⟨0, .issi⟩
  tFirst := ⟨1, 1, 1, 0⟩
  tLast := ⟨1, 1, 1, 0⟩
  numFrags := 0
  aieRequest := none
  buffer := []

def reset (_ : DefragBuffer Key) : DefragBuffer Key := new

end DefragBuffer

/-- The buffers by timeslot of the first fragment and by SSI; an SSI has at most one. -/
structure BsDefrag (Key : Type) where
  buffers : Fin 4 → Nat → Option (DefragBuffer Key)
  single : ∀ ssi first second, (buffers first ssi).isSome → (buffers second ssi).isSome →
    first = second

def slotIndex (t : TdmaTime) : Except Fault (Fin 4) :=
  if inside : 1 ≤ t.t ∧ t.t ≤ 4 then .ok ⟨t.t - 1, by omega⟩ else .error .panic

namespace BsDefrag

def new : BsDefrag Key where
  buffers := fun _ _ => none
  single := by simp

/-- File a buffer for an SSI, or none, in place of what was filed anywhere. -/
def refile (defrag : BsDefrag Key) (ssi : Nat) (slot : Fin 4) (buf : Option (DefragBuffer Key)) :
    BsDefrag Key where
  buffers := fun other => Function.update (defrag.buffers other) ssi
    (if other = slot then buf else none)
  single := by
    intro other first second filed again
    by_cases same : other = ssi
    · subst same
      simp only [Function.update_self] at filed again
      by_cases atFirst : first = slot
      · by_cases atSecond : second = slot
        · rw [atFirst, atSecond]
        · simp [atSecond] at again
      · simp [atFirst] at filed
    · simp only [Function.update_of_ne same] at filed again
      exact defrag.single other first second filed again

def active (defrag : BsDefrag Key) (ssi : Nat) (slot : Fin 4) : Option (DefragBuffer Key) :=
  (defrag.buffers slot ssi).filter fun buffer => buffer.state = .active

/-- The age of a fragment; one that seems to lie ahead counts as the oldest. -/
def fragmentAge (t : TdmaTime) (buffer : DefragBuffer Key) : Int :=
  if 0 ≤ t.diff buffer.tLast then t.diff buffer.tLast else 2147483647

def minByKey {α : Type} (key : α → Int) : List α → Option α
  | [] => none
  | first :: rest =>
    match minByKey key rest with
    | none => some first
    | some other => if key other < key first then some other else some first

theorem minByKey_mem {α : Type} {key : α → Int} {list : List α} {least : α}
    (found : minByKey key list = some least) : least ∈ list := by
  induction list with
  | nil => contradiction
  | cons first rest ih =>
    unfold minByKey at found
    split at found
    · cases found
      exact mem_cons_self
    next other among =>
      split at found
      · cases found
        exact mem_cons_of_mem _ (ih among)
      · cases found
        exact mem_cons_self

theorem minByKey_eq_none {α : Type} {key : α → Int} {list : List α}
    (none : minByKey key list = none) : list = [] := by
  cases list with
  | nil => rfl
  | cons first rest =>
    unfold minByKey at none
    split at none
    · contradiction
    · split at none <;> contradiction

/-- The current timeslot if it has an active buffer, else the one with the latest fragment. -/
def activeBufferSlot (defrag : BsDefrag Key) (ssi : Nat) (t : TdmaTime) :
    Except Fault (Option (Fin 4)) := do
  let currentTs ← slotIndex t
  if (defrag.active ssi currentTs).isSome then pure (some currentTs)
  else pure (minByKey (fun slot => ((defrag.active ssi slot).map (fragmentAge t)).getD 0)
    ((List.finRange 4).filter fun slot => (defrag.active ssi slot).isSome))

/-- Append to the active buffer; one that would exceed its length is given up. -/
def appendFragment (defrag : BsDefrag Key) (bitbuffer : BitBuffer) (ssi : Nat) (t : TdmaTime)
    (originTs : Fin 4) : BsDefrag Key × Bool :=
  match defrag.buffers originTs ssi with
  | none => (defrag, false)
  | some buf =>
    if buf.state ≠ .active then (defrag, false)
    else if DEFRAG_BUF_MAX_LEN < buf.buffer.length + bitbuffer.getLenRemaining then
      (defrag.refile ssi originTs (some buf.reset), false)
    else
      (defrag.refile ssi originTs (some { buf with
        tLast := t
        numFrags := buf.numFrags + 1
        buffer := buf.buffer ++ bitbuffer.unread }), true)

/-- A new first fragment supersedes whatever the terminal had under way. -/
def insertFirst (defrag : BsDefrag Key) (bitbuffer : BitBuffer) (t : TdmaTime)
    (addr : TetraAddress) (aieRequest : Option (AieRequest Key)) :
    Except Fault (BsDefrag Key) := do
  let ts ← slotIndex t
  pure (defrag.refile addr.ssi ts (some {
    state := .active
    addr
    tFirst := t
    tLast := t
    numFrags := 1
    aieRequest
    buffer := bitbuffer.unread }))

def insertNext (defrag : BsDefrag Key) (bitbuffer : BitBuffer) (ssi : Nat) (t : TdmaTime) :
    Except Fault (BsDefrag Key) := do
  match ← defrag.activeBufferSlot ssi t with
  | none => pure defrag
  | some originTs => pure (defrag.appendFragment bitbuffer ssi t originTs).1

/-- Append the last fragment and hand back the completed buffer. -/
def insertLast (defrag : BsDefrag Key) (bitbuffer : BitBuffer) (ssi : Nat) (t : TdmaTime) :
    Except Fault (BsDefrag Key × Option (DefragBuffer Key)) := do
  match ← defrag.activeBufferSlot ssi t with
  | none => pure (defrag, none)
  | some originTs =>
    match defrag.appendFragment bitbuffer ssi t originTs with
    | (defrag, false) => pure (defrag, none)
    | (defrag, true) =>
      pure (defrag.refile ssi originTs none,
        (defrag.buffers originTs ssi).map fun buf => { buf with state := .complete })

/-- The encryption policy of what is under way. -/
def getAieRequest (defrag : BsDefrag Key) (ssi : Nat) (t : TdmaTime) :
    Except Fault (Option (AieRequest Key)) := do
  match ← defrag.activeBufferSlot ssi t with
  | none => pure none
  | some originTs => pure ((defrag.buffers originTs ssi).bind (·.aieRequest))

/-! ### What is under way for a terminal -/

def held (defrag : BsDefrag Key) (ssi : Nat) : Option (DefragBuffer Key) :=
  (List.finRange 4).findSome? (defrag.active ssi)

variable {defrag next : BsDefrag Key} {ssi : Nat} {buf : DefragBuffer Key} {t : TdmaTime}
  {bitbuffer : BitBuffer}

theorem active_eq_some {slot : Fin 4} : defrag.active ssi slot = some buf ↔
      defrag.buffers slot ssi = some buf ∧ buf.state = .active := by
  simp [active, filter_eq_some_iff]

/-- **There is one place to look.** -/
theorem held_eq_some : defrag.held ssi = some buf ↔ ∃ slot, defrag.active ssi slot = some buf := by
  constructor
  · intro found
    obtain ⟨slot, -, here⟩ := exists_of_findSome?_eq_some found
    exact ⟨slot, here⟩
  · rintro ⟨slot, here⟩
    have some : (defrag.held ssi).isSome := by
      unfold held
      rw [findSome?_isSome_iff]
      exact ⟨slot, mem_finRange slot, by rw [here]; rfl⟩
    obtain ⟨other, found⟩ := isSome_iff_exists.mp some
    obtain ⟨place, -, there⟩ := exists_of_findSome?_eq_some found
    have filed := (active_eq_some.mp here).1
    have filedThere := (active_eq_some.mp there).1
    have same : place = slot :=
      defrag.single ssi place slot (by rw [filedThere]; rfl) (by rw [filed]; rfl)
    rw [same, here] at there
    rw [found, there]

theorem activeBufferSlot_ok {result : Option (Fin 4)}
    (looked : defrag.activeBufferSlot ssi t = .ok result) :
    defrag.held ssi = result.bind (defrag.active ssi) ∧
      ∀ slot ∈ result, (defrag.active ssi slot).isSome := by
  obtain ⟨currentTs, -, looked⟩ := bind_eq_ok.mp looked
  by_cases current : (defrag.active ssi currentTs).isSome
  · rw [if_pos current] at looked
    cases looked
    obtain ⟨buf, here⟩ := isSome_iff_exists.mp current
    constructor
    · rw [bind_some, here]
      exact held_eq_some.mpr ⟨currentTs, here⟩
    · simpa using current
  · rw [if_neg current] at looked
    cases looked
    cases found : minByKey (fun slot => ((defrag.active ssi slot).map (fragmentAge t)).getD 0)
        ((List.finRange 4).filter fun slot => (defrag.active ssi slot).isSome) with
    | none =>
      have nowhere := filter_eq_nil_iff.mp (minByKey_eq_none found)
      refine ⟨?_, by simp⟩
      unfold held
      rw [bind_none, findSome?_eq_none_iff]
      intro slot inList
      simpa using nowhere slot inList
    | some slot =>
      have member := mem_filter.mp (minByKey_mem found)
      obtain ⟨buf, here⟩ := isSome_iff_exists.mp member.2
      refine ⟨?_, by simpa using member.2⟩
      rw [bind_some, here]
      exact held_eq_some.mpr ⟨slot, here⟩

theorem held_refile (defrag : BsDefrag Key) (ssi : Nat) (slot : Fin 4)
    (buf : Option (DefragBuffer Key)) :
    (defrag.refile ssi slot buf).held =
      Function.update defrag.held ssi (buf.filter fun buffer => buffer.state = .active) := by
  funext other
  by_cases same : other = ssi
  · subst same
    ext found
    rw [held_eq_some]
    constructor
    · rintro ⟨place, here⟩
      simp only [active, refile] at here
      by_cases atSlot : place = slot
      · simpa [atSlot] using here
      · simp [atSlot] at here
    · simpa [active, refile] using here
  · unfold held active refile
    simp only [update_of_ne same]

/-! ### The operations on what is under way -/

/-- What is held after a fragment: one that would be too long is given up. -/
def appended (buf : DefragBuffer Key) (bits : List Bool) (t : TdmaTime) :
    Option (DefragBuffer Key) :=
  if buf.buffer.length + bits.length ≤ DEFRAG_BUF_MAX_LEN then
    some { buf with tLast := t, numFrags := buf.numFrags + 1, buffer := buf.buffer ++ bits }
  else none

theorem held_insertFirst {addr : TetraAddress} {aieRequest : Option (AieRequest Key)}
    (inserted : defrag.insertFirst bitbuffer t addr aieRequest = .ok next) :
    next.held = Function.update defrag.held addr.ssi
      (some ⟨.active, addr, t, t, 1, aieRequest, bitbuffer.unread⟩) := by
  obtain ⟨ts, -, filed⟩ := bind_eq_ok.mp inserted
  cases filed
  rw [held_refile]
  rfl

theorem appendFragment_active {slot : Fin 4} (window : bitbuffer.Window)
    (here : defrag.active ssi slot = some buf) :
    defrag.appendFragment bitbuffer ssi t slot =
      match appended buf bitbuffer.unread t with
      | some longer => (defrag.refile ssi slot (some longer), true)
      | none => (defrag.refile ssi slot (some buf.reset), false) := by
  obtain ⟨filed, isActive⟩ := active_eq_some.mp here
  have length := BitBuffer.length_unread window
  unfold appendFragment appended
  rw [filed]
  by_cases room : buf.buffer.length + bitbuffer.unread.length ≤ DEFRAG_BUF_MAX_LEN
  · simp [isActive, room, ← length, Nat.not_lt.mpr room]
  · simp [isActive, room, ← length, Nat.lt_of_not_le room]

theorem appended_active {longer : DefragBuffer Key} {bits : List Bool}
    (isActive : buf.state = .active) (fits : appended buf bits t = some longer) :
    longer.state = .active := by
  unfold appended at fits
  split at fits
  · cases fits
    exact isActive
  · contradiction

theorem held_insertNext (window : bitbuffer.Window)
    (inserted : defrag.insertNext bitbuffer ssi t = .ok next) :
    next.held = Function.update defrag.held ssi
      ((defrag.held ssi).bind fun buf => appended buf bitbuffer.unread t) := by
  obtain ⟨result, looked, filed⟩ := bind_eq_ok.mp inserted
  obtain ⟨held, found⟩ := activeBufferSlot_ok looked
  cases result with
  | none =>
    cases filed
    rw [held]
    exact (update_eq_self_iff.mpr held.symm).symm
  | some slot =>
    obtain ⟨buf, here⟩ := isSome_iff_exists.mp (found slot rfl)
    rw [held, bind_some, here, bind_some]
    simp only [appendFragment_active window here] at filed
    cases fits : appended buf bitbuffer.unread t with
    | none =>
      rw [fits] at filed
      cases filed
      rw [held_refile]
      rfl
    | some longer =>
      rw [fits] at filed
      cases filed
      have stillActive := appended_active (active_eq_some.mp here).2 fits
      rw [held_refile, filter_some, if_pos (decide_eq_true stillActive)]

/-- **The last fragment completes what was held**, or it is given up. -/
theorem insertLast_complete {completed : Option (DefragBuffer Key)} (window : bitbuffer.Window)
    (inserted : defrag.insertLast bitbuffer ssi t = .ok (next, completed)) :
    next.held = Function.update defrag.held ssi none ∧
      completed = ((defrag.held ssi).bind fun buf => appended buf bitbuffer.unread t).map
        fun buf => { buf with state := .complete } := by
  obtain ⟨result, looked, filed⟩ := bind_eq_ok.mp inserted
  obtain ⟨held, found⟩ := activeBufferSlot_ok looked
  cases result with
  | none =>
    cases filed
    rw [held]
    refine ⟨?_, rfl⟩
    exact (update_eq_self_iff.mpr held.symm).symm
  | some slot =>
    obtain ⟨buf, here⟩ := isSome_iff_exists.mp (found slot rfl)
    rw [held, bind_some, here, bind_some]
    simp only [appendFragment_active window here] at filed
    cases fits : appended buf bitbuffer.unread t with
    | none =>
      rw [fits] at filed
      cases filed
      exact ⟨held_refile _ _ _ _, rfl⟩
    | some longer =>
      rw [fits] at filed
      cases filed
      constructor
      · rw [held_refile, held_refile, update_idem]
        rfl
      · simp [refile]

/-- **The policy that is handed out is that of what is held.** -/
theorem getAieRequest_ok {request : Option (AieRequest Key)}
    (asked : defrag.getAieRequest ssi t = .ok request) :
    request = (defrag.held ssi).bind (·.aieRequest) := by
  obtain ⟨result, looked, told⟩ := bind_eq_ok.mp asked
  obtain ⟨held, found⟩ := activeBufferSlot_ok looked
  cases result with
  | none =>
    cases told
    rw [held]
    rfl
  | some slot =>
    obtain ⟨buf, here⟩ := isSome_iff_exists.mp (found slot rfl)
    cases told
    rw [held, bind_some, here, (active_eq_some.mp here).1]

end BsDefrag

end Bluestation
