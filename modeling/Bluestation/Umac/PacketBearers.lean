/-
**Packet bearers and event labels in the MAC.**

The MAC is told of bearers by control messages, handled in order. It keeps which bearer every
timeslot belongs to, the latest generation of every bearer, and which terminal an event label stands
for. A message about an older generation is ignored.

* `EventLabelStore.lookup_bind`, `EventLabelStore.lookup_remove` — the label store.
* `PacketUmac.open_cases`, `PacketUmac.close_cases` — the timeslots of bearers.
* `PacketUmac.rx_attach`, `PacketUmac.detachAll_labels` — what attaching and detaching do to labels.
-/

import Bluestation.Lib.Table
import Bluestation.Sndcp.Messages

namespace Bluestation

/-! ### The label store -/

structure EventLabelStore where
  labels : Table TetraAddress

namespace EventLabelStore

/-- Labels 0 and above `0x3ff` are not bound; a terminal has one label. -/
def bind (store : EventLabelStore) (label : Nat) (addr : TetraAddress) : EventLabelStore :=
  if label = 0 || 0x3ff < label then store
  else ⟨(store.labels.retain fun _ mapping => mapping.ssi ≠ addr.ssi).insert label addr⟩

def remove (store : EventLabelStore) (label : Nat) : EventLabelStore := ⟨store.labels.erase label⟩

def getAddrByLabel (store : EventLabelStore) (label : Nat) : Option TetraAddress :=
  store.labels.lookup label

def getLabelBySsi (store : EventLabelStore) (ssi : Nat) : Option Nat :=
  (store.labels.entries.find? fun entry => entry.2.ssi = ssi).map (·.1)

def valid (label : Nat) : Bool := label ≠ 0 && label ≤ 0x3ff

variable {store : EventLabelStore} {label other : Nat} {addr : TetraAddress}

theorem lookup_bind (fits : valid label = true) : (store.bind label addr).getAddrByLabel other =
      if other = label then some addr
      else (store.getAddrByLabel other).filter (·.ssi ≠ addr.ssi) := by
  have bound : ¬ (label = 0 || 0x3ff < label : Bool) = true := by
    simp only [valid, Bool.and_eq_true, decide_eq_true_eq] at fits
    simp only [Bool.or_eq_true, decide_eq_true_eq]
    omega
  rw [bind, if_neg bound, getAddrByLabel, Table.lookup_insert_eq]
  split
  · rfl
  · exact Table.lookup_retain _ _ _

theorem bind_of_invalid (misfit : valid label = false) : store.bind label addr = store := by
  have unbound : (label = 0 || 0x3ff < label : Bool) = true := by
    simp only [valid, Bool.and_eq_false_iff, decide_eq_false_iff_not] at misfit
    simp only [Bool.or_eq_true, decide_eq_true_eq]
    omega
  rw [bind, if_pos unbound]

theorem lookup_remove_some (found : (store.remove label).getAddrByLabel other = some addr) :
    other ≠ label ∧ store.getAddrByLabel other = some addr := by
  unfold getAddrByLabel remove at *
  rw [Table.lookup_erase_eq] at found
  split at found
  · cases found
  · exact ⟨‹_›, found⟩

theorem lookup_remove : (store.remove label).getAddrByLabel other =
      if other = label then none else store.getAddrByLabel other :=
  Table.lookup_erase_eq _ _ _

end EventLabelStore

/-! ### The bearers -/

/-- What the MAC keeps of packet bearers. -/
structure PacketUmac where
  packetBearers : Nat → Option (Nat × Nat)
  packetBearerGenerations : Table Nat
  eventLabelStore : EventLabelStore

namespace PacketUmac

open SlotBitmap Option Bool EventLabelStore

def new : PacketUmac := ⟨fun _ => none, ∅, ⟨∅⟩⟩

def stale (umac : PacketUmac) (bearerId generation : Nat) : Bool :=
  (umac.packetBearerGenerations.lookup bearerId).any (generation < ·)

def openPacketBearer (umac : PacketUmac) (bearerId generation : Nat) (bitmap : SlotBitmap) :
    PacketUmac :=
  if umac.stale bearerId generation then umac
  else
    { umac with
      packetBearerGenerations := umac.packetBearerGenerations.insert bearerId generation
      packetBearers := fun ts =>
        if ts ∈ timeslots ∧ bitmap.has ts = true then some (bearerId, generation)
        else (umac.packetBearers ts).filter (·.1 ≠ bearerId) }

def closePacketBearer (umac : PacketUmac) (bearerId generation : Nat) : PacketUmac :=
  if umac.packetBearerGenerations.lookup bearerId ≠ some generation then umac
  else
    { umac with
      packetBearers := fun ts => (umac.packetBearers ts).filter (· ≠ (bearerId, generation)) }

def packetBearersMatch (umac : PacketUmac) (bearerId generation : Nat) : Bool :=
  timeslots.any fun ts => umac.packetBearers ts = some (bearerId, generation)

def rxPacketBearerControl (umac : PacketUmac) : PacketBearerControl → PacketUmac
  | .opened bearerId generation timeslotBitmap | .resize bearerId generation timeslotBitmap =>
    umac.openPacketBearer bearerId generation timeslotBitmap
  | .attach bearerId generation issi eventLabel =>
    if umac.packetBearersMatch bearerId generation then
      { umac with eventLabelStore := umac.eventLabelStore.bind eventLabel ⟨issi, .issi⟩ }
    else umac
  | .detach bearerId generation eventLabel =>
    if umac.packetBearersMatch bearerId generation then
      { umac with eventLabelStore := umac.eventLabelStore.remove eventLabel }
    else umac
  | .drain _ _ => umac
  | .close bearerId generation _ => umac.closePacketBearer bearerId generation

variable {umac : PacketUmac} {bearerId generation : Nat}

def sameBearers (umac other : PacketUmac) : Prop :=
  other.packetBearers = umac.packetBearers ∧
    other.packetBearerGenerations = umac.packetBearerGenerations

/-- **A bearer is opened or resized**, or its generation is stale. -/
theorem open_cases (umac : PacketUmac) (bearerId generation : Nat) (bitmap : SlotBitmap) :
    (∃ known, umac.packetBearerGenerations.lookup bearerId = some known ∧ generation < known ∧
      umac.openPacketBearer bearerId generation bitmap = umac) ∨
    (∀ known, umac.packetBearerGenerations.lookup bearerId = some known → known ≤ generation) ∧
      umac.openPacketBearer bearerId generation bitmap =
        { umac with
          packetBearerGenerations := umac.packetBearerGenerations.insert bearerId generation
          packetBearers := fun ts =>
            if ts ∈ timeslots ∧ bitmap.has ts = true then some (bearerId, generation)
            else (umac.packetBearers ts).filter (·.1 ≠ bearerId) } := by
  unfold openPacketBearer stale
  cases found : umac.packetBearerGenerations.lookup bearerId with
  | none => exact .inr ⟨nofun, rfl⟩
  | some known =>
    rw [any_some]
    by_cases older : generation < known
    · rw [if_pos (decide_eq_true older)]
      exact .inl ⟨known, rfl, older, rfl⟩
    · rw [if_neg (eq_false_iff.mp (decide_eq_false older))]
      exact .inr ⟨fun other same => some.inj same ▸ Nat.le_of_not_lt older, rfl⟩

/-- **A bearer of the known generation is closed**; another one is not. -/
theorem close_cases (umac : PacketUmac) (bearerId generation : Nat) :
    (umac.packetBearerGenerations.lookup bearerId = some generation ∧
      umac.closePacketBearer bearerId generation =
        { umac with
          packetBearers := fun ts =>
            (umac.packetBearers ts).filter (· ≠ (bearerId, generation)) }) ∨
    umac.packetBearerGenerations.lookup bearerId ≠ some generation ∧
      umac.closePacketBearer bearerId generation = umac := by
  unfold closePacketBearer
  by_cases known : umac.packetBearerGenerations.lookup bearerId = some generation
  · rw [if_neg (not_not.mpr known)]
    exact .inl ⟨known, rfl⟩
  · rw [if_pos known]
    exact .inr ⟨known, rfl⟩

theorem rx_attach (umac : PacketUmac) (bearerId generation issi eventLabel : Nat) :
    umac.sameBearers (umac.rxPacketBearerControl (.attach bearerId generation issi eventLabel)) ∧
      (umac.rxPacketBearerControl (.attach bearerId generation issi eventLabel)).eventLabelStore =
        if umac.packetBearersMatch bearerId generation then
          umac.eventLabelStore.bind eventLabel ⟨issi, .issi⟩ else umac.eventLabelStore := by
  unfold rxPacketBearerControl
  dsimp only
  split <;> exact ⟨⟨rfl, rfl⟩, rfl⟩

theorem rx_detach (umac : PacketUmac) (bearerId generation eventLabel : Nat) :
    umac.sameBearers (umac.rxPacketBearerControl (.detach bearerId generation eventLabel)) ∧
      (umac.rxPacketBearerControl (.detach bearerId generation eventLabel)).eventLabelStore =
        if umac.packetBearersMatch bearerId generation then
          umac.eventLabelStore.remove eventLabel else umac.eventLabelStore := by
  unfold rxPacketBearerControl
  dsimp only
  split <;> exact ⟨⟨rfl, rfl⟩, rfl⟩

/-- **Several labels of a known bearer are detached**: no other label is bound, and none of them. -/
theorem detachAll_labels (bearerId generation : Nat) (gone : List Nat) (umac : PacketUmac) :
    umac.sameBearers ((gone.map (.detach bearerId generation ·)).foldl rxPacketBearerControl umac) ∧
      ∀ label addr, ((gone.map (.detach bearerId generation ·)).foldl rxPacketBearerControl
          umac).eventLabelStore.getAddrByLabel label = some addr →
        umac.eventLabelStore.getAddrByLabel label = some addr ∧
          (umac.packetBearersMatch bearerId generation = true → label ∉ gone) := by
  induction gone generalizing umac with
  | nil => exact ⟨⟨rfl, rfl⟩, fun _ _ found => ⟨found, fun _ => List.not_mem_nil⟩⟩
  | cons first rest ih =>
    obtain ⟨same, store⟩ := umac.rx_detach bearerId generation first
    obtain ⟨restSame, labels⟩ := ih (umac.rxPacketBearerControl (.detach bearerId generation first))
    have matching : (umac.rxPacketBearerControl (.detach bearerId generation first)).packetBearersMatch
        bearerId generation = umac.packetBearersMatch bearerId generation := by
      unfold packetBearersMatch
      rw [same.1]
    refine ⟨⟨restSame.1.trans same.1, restSame.2.trans same.2⟩, fun label addr found => ?_⟩
    obtain ⟨there, unlisted⟩ := labels label addr found
    rw [matching] at unlisted
    rw [store] at there
    split at there
    · obtain ⟨different, before⟩ := lookup_remove_some there
      exact ⟨before, fun known inside =>
        (List.mem_cons.mp inside).elim different (unlisted known)⟩
    next unknown =>
      exact ⟨there, fun known => absurd known unknown⟩

/-- A terminal whose common control channel moves discards its label, unless it is on a bearer. -/
def moveCommonControl (umac : PacketUmac) (issi : Nat) : PacketUmac :=
  match umac.eventLabelStore.getLabelBySsi issi with
  | some label => { umac with eventLabelStore := umac.eventLabelStore.remove label }
  | none => umac

/-! ### Fewer labels -/

def Fewer (umac other : PacketUmac) : Prop :=
  umac.sameBearers other ∧ ∀ label addr,
    other.eventLabelStore.getAddrByLabel label = some addr →
      umac.eventLabelStore.getAddrByLabel label = some addr

theorem bind_fewer {store other : EventLabelStore} {eventLabel : Nat} {addr : TetraAddress}
    (fewer : ∀ label addr, other.getAddrByLabel label = some addr →
      store.getAddrByLabel label = some addr) (label : Nat) (found : TetraAddress)
    (bound : (other.bind eventLabel addr).getAddrByLabel label = some found) :
    (store.bind eventLabel addr).getAddrByLabel label = some found := by
  cases fits : valid eventLabel with
  | false =>
    rw [bind_of_invalid fits] at bound ⊢
    exact fewer label found bound
  | true =>
    rw [lookup_bind fits] at bound ⊢
    split at bound
    next here =>
      rw [if_pos here]
      exact bound
    next other' =>
      rw [if_neg other']
      obtain ⟨there, kept⟩ := filter_eq_some_iff.mp bound
      exact filter_eq_some_iff.mpr ⟨fewer label found there, kept⟩

/-- **A message keeps fewer labels fewer.** -/
theorem Fewer.rx {umac other : PacketUmac} (fewer : umac.Fewer other)
    (control : PacketBearerControl) :
    (umac.rxPacketBearerControl control).Fewer (other.rxPacketBearerControl control) := by
  obtain ⟨⟨bearers, generations⟩, labels⟩ := fewer
  have matching (bearerId generation : Nat) : other.packetBearersMatch bearerId generation =
      umac.packetBearersMatch bearerId generation := by
    unfold packetBearersMatch
    rw [bearers]
  have opened (bearerId generation : Nat) (bitmap : SlotBitmap) :
      (umac.openPacketBearer bearerId generation bitmap).Fewer
        (other.openPacketBearer bearerId generation bitmap) := by
    unfold openPacketBearer stale
    rw [generations, bearers]
    split
    · exact ⟨⟨bearers, generations⟩, labels⟩
    · exact ⟨⟨rfl, rfl⟩, labels⟩
  cases control with
  | opened bearerId generation bitmap => exact opened bearerId generation bitmap
  | resize bearerId generation bitmap => exact opened bearerId generation bitmap
  | drain bearerId generation => exact ⟨⟨bearers, generations⟩, labels⟩
  | close bearerId generation forced =>
    show (umac.closePacketBearer bearerId generation).Fewer
      (other.closePacketBearer bearerId generation)
    unfold closePacketBearer
    rw [generations, bearers]
    split
    · exact ⟨⟨bearers, generations⟩, labels⟩
    · exact ⟨⟨rfl, rfl⟩, labels⟩
  | attach bearerId generation issi eventLabel =>
    obtain ⟨same, store⟩ := umac.rx_attach bearerId generation issi eventLabel
    obtain ⟨same', store'⟩ := other.rx_attach bearerId generation issi eventLabel
    refine ⟨⟨?_, ?_⟩, fun label addr found => ?_⟩
    · rw [same.1, same'.1, bearers]
    · rw [same.2, same'.2, generations]
    · rw [store', matching] at found
      rw [store]
      split at found
      next known =>
        rw [if_pos known]
        exact bind_fewer labels label addr found
      next unknown =>
        rw [if_neg unknown]
        exact labels label addr found
  | detach bearerId generation eventLabel =>
    obtain ⟨same, store⟩ := umac.rx_detach bearerId generation eventLabel
    obtain ⟨same', store'⟩ := other.rx_detach bearerId generation eventLabel
    refine ⟨⟨?_, ?_⟩, fun label addr found => ?_⟩
    · rw [same.1, same'.1, bearers]
    · rw [same.2, same'.2, generations]
    · rw [store', matching] at found
      rw [store]
      split at found
      next known =>
        rw [if_pos known, lookup_remove]
        obtain ⟨different, there⟩ := lookup_remove_some found
        rw [if_neg different]
        exact labels label addr there
      next unknown =>
        rw [if_neg unknown]
        exact labels label addr found

theorem Fewer.foldl {umac other : PacketUmac} (fewer : umac.Fewer other)
    (controls : List PacketBearerControl) :
    (controls.foldl rxPacketBearerControl umac).Fewer
      (controls.foldl rxPacketBearerControl other) := by
  induction controls generalizing umac other with
  | nil => exact fewer
  | cons control rest ih => exact ih (fewer.rx control)

theorem moveCommonControl_fewer (umac : PacketUmac) (issi : Nat) :
    umac.Fewer (umac.moveCommonControl issi) := by
  unfold moveCommonControl
  split
  · exact ⟨⟨rfl, rfl⟩, fun label addr found => (lookup_remove_some found).2⟩
  · exact ⟨⟨rfl, rfl⟩, fun _ _ found => found⟩

end PacketUmac

end Bluestation
