/-
**Direct-mode terminals behind gateways.**

A gateway serves direct-mode addresses. The registry keeps the addresses of every active gateway, and
beside them the gateways of every address; several gateways may serve one address.

* `DmGatewayRegistry` — the registry and its operations.
* `gateways_mirror_sessions` — **the routes mirror the sessions** after all operations in any order.
-/

import Bluestation.Core.TdmaTime
import Bluestation.Lib.Multimap

namespace Bluestation

open List AList Multimap

structure DmMsRouteAddress where
  ssi : Nat
  mcc : Option Nat
  mnc : Option Nat
deriving DecidableEq

structure DmoCarrierState where
  carrierNumber : Nat
  frequencyBand : Option Nat
  offset : Option Nat
  duplexSpacing : Option Nat
  normalReverse : Option Bool

structure DmGatewaySession where
  gatewayIssi : Nat
  dmoCarrier : Option DmoCarrierState
  dmMsAddresses : List DmMsRouteAddress
  lastSeen : TdmaTime

structure DmGatewayRegistry where
  gateways : Dictionary Nat DmGatewaySession
  routes : Multimap DmMsRouteAddress Nat

namespace DmGatewayRegistry

def default : DmGatewayRegistry := ⟨∅, ∅⟩

def deactivate (registry : DmGatewayRegistry) (gatewayIssi : Nat) : DmGatewayRegistry :=
  match registry.gateways.lookup gatewayIssi with
  | none => registry
  | some session =>
    { gateways := registry.gateways.erase gatewayIssi
      routes := session.dmMsAddresses.foldl (·.remove gatewayIssi) registry.routes }

def activate (registry : DmGatewayRegistry) (gatewayIssi : Nat) (dmoCarrier : Option DmoCarrierState)
    (addresses : List DmMsRouteAddress) (now : TdmaTime) : DmGatewayRegistry :=
  let registry := registry.deactivate gatewayIssi
  let dmMsAddresses := addresses.dedup
  { gateways := registry.gateways.insert gatewayIssi ⟨gatewayIssi, dmoCarrier, dmMsAddresses, now⟩
    routes := dmMsAddresses.foldl (·.add gatewayIssi) registry.routes }

def addAddresses (registry : DmGatewayRegistry) (gatewayIssi : Nat)
    (addresses : List DmMsRouteAddress) (now : TdmaTime) : DmGatewayRegistry :=
  match registry.gateways.lookup gatewayIssi with
  | none => registry
  | some session =>
    { gateways := registry.gateways.insert gatewayIssi { session with
        dmMsAddresses := addresses.foldl (fun known address => known.insert address)
          session.dmMsAddresses
        lastSeen := now }
      routes := addresses.foldl (·.add gatewayIssi) registry.routes }

def removeAddresses (registry : DmGatewayRegistry) (gatewayIssi : Nat)
    (addresses : List DmMsRouteAddress) (now : TdmaTime) : DmGatewayRegistry :=
  match registry.gateways.lookup gatewayIssi with
  | none => registry
  | some session =>
    { gateways := registry.gateways.insert gatewayIssi { session with
        dmMsAddresses := addresses.foldl (fun known address => known.filter (· ≠ address))
          session.dmMsAddresses
        lastSeen := now }
      routes := addresses.foldl (·.remove gatewayIssi) registry.routes }

def replaceAddresses (registry : DmGatewayRegistry) (gatewayIssi : Nat)
    (addresses : List DmMsRouteAddress) (now : TdmaTime) : DmGatewayRegistry :=
  let carrier := (registry.gateways.lookup gatewayIssi).bind (·.dmoCarrier)
  registry.activate gatewayIssi carrier addresses now

/-- Change the session of a gateway, if it is active. -/
def amend (registry : DmGatewayRegistry) (gatewayIssi : Nat)
    (change : DmGatewaySession → DmGatewaySession) : DmGatewayRegistry :=
  match registry.gateways.lookup gatewayIssi with
  | none => registry
  | some session =>
    { registry with gateways := registry.gateways.insert gatewayIssi (change session) }

def touch (registry : DmGatewayRegistry) (gatewayIssi : Nat) (now : TdmaTime) : DmGatewayRegistry :=
  registry.amend gatewayIssi fun session => { session with lastSeen := now }

def updateCarrier (registry : DmGatewayRegistry) (gatewayIssi : Nat)
    (dmoCarrier : Option DmoCarrierState) (now : TdmaTime) : DmGatewayRegistry :=
  registry.amend gatewayIssi fun session => { session with dmoCarrier, lastSeen := now }

def gatewaysFor (registry : DmGatewayRegistry) (address : DmMsRouteAddress) : List Nat :=
  registry.routes.row address

def gatewayForSsi (registry : DmGatewayRegistry) (ssi : Nat) : Option (Nat × DmMsRouteAddress) :=
  ((registry.gateways.entries.flatMap fun entry =>
    entry.2.dmMsAddresses.map fun address => (entry.1, address)).filter (·.2.ssi = ssi)).argmin (·.1)

/-! ### Operations -/

inductive Operation where
  | activate (dmoCarrier : Option DmoCarrierState) (addresses : List DmMsRouteAddress) (now : TdmaTime)
  | deactivate
  | addAddresses (addresses : List DmMsRouteAddress) (now : TdmaTime)
  | removeAddresses (addresses : List DmMsRouteAddress) (now : TdmaTime)
  | replaceAddresses (addresses : List DmMsRouteAddress) (now : TdmaTime)
  | touch (now : TdmaTime)
  | updateCarrier (dmoCarrier : Option DmoCarrierState) (now : TdmaTime)

/-- An operation on a gateway. -/
def perform (registry : DmGatewayRegistry) (gatewayIssi : Nat) : Operation → DmGatewayRegistry
  | .activate dmoCarrier addresses now => registry.activate gatewayIssi dmoCarrier addresses now
  | .deactivate => registry.deactivate gatewayIssi
  | .addAddresses addresses now => registry.addAddresses gatewayIssi addresses now
  | .removeAddresses addresses now => registry.removeAddresses gatewayIssi addresses now
  | .replaceAddresses addresses now => registry.replaceAddresses gatewayIssi addresses now
  | .touch now => registry.touch gatewayIssi now
  | .updateCarrier dmoCarrier now => registry.updateCarrier gatewayIssi dmoCarrier now

def after (operations : List (Nat × Operation)) : DmGatewayRegistry :=
  operations.foldl (fun registry entry => registry.perform entry.1 entry.2) default

def Serves (registry : DmGatewayRegistry) (gatewayIssi : Nat) (address : DmMsRouteAddress) : Prop :=
  ∃ session, registry.gateways.lookup gatewayIssi = some session ∧ address ∈ session.dmMsAddresses

/-- **Both sides say the same**, and no row is empty. -/
structure Mirrored (registry : DmGatewayRegistry) : Prop where
  listed : ∀ address gatewayIssi,
    gatewayIssi ∈ registry.routes.row address ↔ registry.Serves gatewayIssi address
  trim : registry.routes.Trim

/-- The other gateways serve what they served, and are listed where they were. -/
structure Untouched (gatewayIssi : Nat) (before after : DmGatewayRegistry) : Prop where
  sessions : ∀ other, other ≠ gatewayIssi →
    after.gateways.lookup other = before.gateways.lookup other
  rows : ∀ other address, other ≠ gatewayIssi →
    (other ∈ after.routes.row address ↔ other ∈ before.routes.row address)

variable {registry : DmGatewayRegistry} {gatewayIssi : Nat} {session : DmGatewaySession}

variable {address : DmMsRouteAddress}

theorem serves_iff (found : registry.gateways.lookup gatewayIssi = some session) :
    registry.Serves gatewayIssi address ↔ address ∈ session.dmMsAddresses := by
  simp [Serves, found]

variable {routes : Multimap DmMsRouteAddress Nat}

theorem serves_insert {gateways : Dictionary Nat DmGatewaySession}
    (other : Nat) (address : DmMsRouteAddress) :
    Serves ⟨gateways.insert gatewayIssi session, routes⟩ other address ↔
      if other = gatewayIssi then address ∈ session.dmMsAddresses
      else Serves ⟨gateways, routes⟩ other address := by
  unfold Serves
  rw [Dictionary.lookup_insert]
  split <;> simp

theorem Mirrored.of_insert (mirrored : registry.Mirrored)
    (trim : routes.Trim) (rows : ∀ other address, other ∈ routes.row address ↔
      if other = gatewayIssi then address ∈ session.dmMsAddresses
      else other ∈ registry.routes.row address) :
    Mirrored ⟨registry.gateways.insert gatewayIssi session, routes⟩ := by
  refine ⟨fun address other => ?_, trim⟩
  rw [rows, serves_insert]
  split
  · exact Iff.rfl
  · exact mirrored.listed address other

/-- **A gateway that is deactivated is nowhere listed**, and the others are untouched. -/
theorem deactivate_spec (mirrored : registry.Mirrored) (gatewayIssi : Nat) :
    (registry.deactivate gatewayIssi).Mirrored ∧
      Untouched gatewayIssi registry (registry.deactivate gatewayIssi) ∧
      (registry.deactivate gatewayIssi).gateways.lookup gatewayIssi = none := by
  unfold deactivate
  cases found : registry.gateways.lookup gatewayIssi with
  | none => exact ⟨mirrored, ⟨fun _ _ => rfl, fun _ _ _ => Iff.rfl⟩, found⟩
  | some session =>
    refine ⟨⟨fun address other => ?_, ?_⟩, ⟨fun other different => ?_, fun other address different => ?_⟩,
      AList.lookup_erase _ _⟩
    · rw [mem_removeAll, mirrored.listed]
      unfold Serves
      rcases eq_or_ne other gatewayIssi with rfl | different
      · simp [found]
      · simp [different]
    · exact mirrored.trim.foldl (fun _ address trim => trim.remove _ address) _
    · exact lookup_erase_ne different
    · rw [mem_removeAll]
      simp [different]

theorem activate_spec (mirrored : registry.Mirrored) (gatewayIssi : Nat)
    (dmoCarrier : Option DmoCarrierState) (addresses : List DmMsRouteAddress) (now : TdmaTime) :
    (registry.activate gatewayIssi dmoCarrier addresses now).Mirrored ∧
      Untouched gatewayIssi registry (registry.activate gatewayIssi dmoCarrier addresses now) := by
  obtain ⟨cleared, untouched, gone⟩ := deactivate_spec mirrored gatewayIssi
  unfold activate
  refine ⟨cleared.of_insert (cleared.trim.foldl (fun _ address trim => trim.add _ address) _)
    fun other address => ?_, ⟨fun other different => ?_, fun other address different => ?_⟩⟩
  · rw [mem_addAll, cleared.listed]
    rcases eq_or_ne other gatewayIssi with rfl | different
    · simp [Serves, gone]
    · simp [different]
  · exact (lookup_insert_ne different).trans (untouched.sessions other different)
  · rw [mem_addAll, untouched.rows other address different]
    simp [different]

theorem mem_foldl_insert (addresses known : List DmMsRouteAddress) (address : DmMsRouteAddress) :
    address ∈ addresses.foldl (fun known address => known.insert address) known ↔
      address ∈ addresses ∨ address ∈ known := by
  induction addresses generalizing known with
  | nil => simp
  | cons first rest ih =>
    rw [foldl_cons, ih, mem_insert_iff, mem_cons]
    tauto

theorem mem_foldl_filter (addresses known : List DmMsRouteAddress) (address : DmMsRouteAddress) :
    address ∈ addresses.foldl (fun known address => known.filter (· ≠ address)) known ↔
      address ∉ addresses ∧ address ∈ known := by
  induction addresses generalizing known with
  | nil => simp
  | cons first rest ih =>
    rw [foldl_cons, ih, mem_filter, decide_eq_true_eq, mem_cons]
    tauto

theorem amend_spec (mirrored : registry.Mirrored) (change : DmGatewaySession → DmGatewaySession)
    (same : ∀ session, (change session).dmMsAddresses = session.dmMsAddresses) :
    (registry.amend gatewayIssi change).Mirrored ∧
      Untouched gatewayIssi registry (registry.amend gatewayIssi change) := by
  unfold amend
  cases found : registry.gateways.lookup gatewayIssi with
  | none => exact ⟨mirrored, ⟨fun _ _ => rfl, fun _ _ _ => Iff.rfl⟩⟩
  | some session =>
    refine ⟨mirrored.of_insert mirrored.trim fun other address => ?_,
      ⟨fun other different => lookup_insert_ne different, fun _ _ _ => Iff.rfl⟩⟩
    rw [mirrored.listed, same]
    rcases eq_or_ne other gatewayIssi with rfl | different
    · simp [serves_iff found]
    · simp [different]

/-- **An operation keeps the mirror**, and touches no other gateway. -/
theorem perform_spec (mirrored : registry.Mirrored) (gatewayIssi : Nat) (operation : Operation) :
    (registry.perform gatewayIssi operation).Mirrored ∧
      Untouched gatewayIssi registry (registry.perform gatewayIssi operation) := by
  cases operation with
  | activate dmoCarrier addresses now => exact activate_spec mirrored _ _ _ _
  | deactivate =>
    obtain ⟨cleared, untouched, _⟩ := deactivate_spec mirrored gatewayIssi
    exact ⟨cleared, untouched⟩
  | addAddresses addresses now =>
    unfold perform addAddresses
    cases found : registry.gateways.lookup gatewayIssi with
    | none => exact ⟨mirrored, ⟨fun _ _ => rfl, fun _ _ _ => Iff.rfl⟩⟩
    | some session =>
      refine ⟨mirrored.of_insert (mirrored.trim.foldl (fun _ address trim => trim.add _ address) _)
        fun other address => ?_,
        ⟨fun other different => lookup_insert_ne different, fun other address different => ?_⟩⟩
      · rw [mem_addAll, mirrored.listed, mem_foldl_insert]
        rcases eq_or_ne other gatewayIssi with rfl | different
        · simp [serves_iff found]
        · simp [different]
      · rw [mem_addAll]
        simp [different]
  | removeAddresses addresses now =>
    unfold perform removeAddresses
    cases found : registry.gateways.lookup gatewayIssi with
    | none => exact ⟨mirrored, ⟨fun _ _ => rfl, fun _ _ _ => Iff.rfl⟩⟩
    | some session =>
      refine ⟨mirrored.of_insert
        (mirrored.trim.foldl (fun _ address trim => trim.remove _ address) _)
        fun other address => ?_,
        ⟨fun other different => lookup_insert_ne different, fun other address different => ?_⟩⟩
      · rw [mem_removeAll, mirrored.listed, mem_foldl_filter]
        rcases eq_or_ne other gatewayIssi with rfl | different
        · simp [serves_iff found]
        · simp [different]
      · rw [mem_removeAll]
        simp [different]
  | replaceAddresses addresses now => exact activate_spec mirrored _ _ _ _
  | touch now => exact amend_spec mirrored _ fun _ => rfl
  | updateCarrier dmoCarrier now => exact amend_spec mirrored _ fun _ => rfl

theorem mirrored_after (operations : List (Nat × Operation)) : (after operations).Mirrored := by
  refine List.foldlRecOn operations _ ⟨fun address gatewayIssi => ?_, fun _ => nofun⟩
    fun registry mirrored entry _ => (perform_spec mirrored entry.1 entry.2).1
  exact ⟨nofun, by rintro ⟨_, ⟨⟩, _⟩⟩

/-! ### The gateway of a number -/

theorem mem_candidates {ssi other : Nat} :
    (other, address) ∈ (registry.gateways.entries.flatMap fun entry =>
      entry.2.dmMsAddresses.map fun address => (entry.1, address)).filter (·.2.ssi = ssi) ↔
      registry.Serves other address ∧ address.ssi = ssi := by
  rw [mem_filter, decide_eq_true_eq]
  refine and_congr_left fun _ => ?_
  simp only [mem_flatMap, mem_map, Prod.mk.injEq]
  constructor
  · rintro ⟨⟨issi, session⟩, member, _, known, rfl, rfl⟩
    exact ⟨session, Dictionary.mem_entries.mp member, known⟩
  · rintro ⟨session, found, known⟩
    exact ⟨⟨other, session⟩, Dictionary.mem_entries.mpr found, address, known, rfl, rfl⟩

/-- **main result** — after any operations on any gateways, an address lists the active gateways that
have it; nothing is listed empty; an operation touches one gateway; and a number is reached through
the lowest active gateway that serves it. -/
theorem gateways_mirror_sessions (operations : List (Nat × Operation)) :
    (∀ address gatewayIssi, gatewayIssi ∈ (after operations).gatewaysFor address ↔
      (after operations).Serves gatewayIssi address) ∧
    (∀ address, (after operations).routes.lookup address ≠ some []) ∧
    (∀ gatewayIssi operation, Untouched gatewayIssi (after operations)
      ((after operations).perform gatewayIssi operation)) ∧
    ∀ ssi,
      (∀ gatewayIssi address, (after operations).gatewayForSsi ssi = some (gatewayIssi, address) →
        ((after operations).Serves gatewayIssi address ∧ address.ssi = ssi) ∧
        ∀ other served, (after operations).Serves other served → served.ssi = ssi →
          gatewayIssi ≤ other) ∧
      ((after operations).gatewayForSsi ssi = none ↔
        ∀ other served, (after operations).Serves other served → served.ssi ≠ ssi) := by
  have mirrored := mirrored_after operations
  refine ⟨mirrored.listed, mirrored.trim, fun gatewayIssi operation =>
    (perform_spec mirrored gatewayIssi operation).2, fun ssi =>
    ⟨fun gatewayIssi address found => ?_, ?_⟩⟩
  · refine ⟨mem_candidates.mp (argmin_mem found), fun other served serves same => ?_⟩
    exact le_of_mem_argmin (mem_candidates.mpr ⟨serves, same⟩) found
  · unfold gatewayForSsi
    rw [argmin_eq_none, eq_nil_iff_forall_not_mem]
    constructor
    · exact fun none other served serves same => none _ (mem_candidates.mpr ⟨serves, same⟩)
    · rintro none ⟨other, served⟩ member
      obtain ⟨serves, same⟩ := mem_candidates.mp member
      exact none other served serves same

/-- Two gateways serve one address; the lower one gives it up. -/
example : ((after [(7, .activate none [⟨9, none, none⟩] ⟨1, 1, 1, 0⟩),
    (5, .activate none [⟨9, none, none⟩] ⟨1, 1, 1, 0⟩),
    (5, .removeAddresses [⟨9, none, none⟩] ⟨1, 1, 1, 0⟩)]).gatewayForSsi 9).map (·.1) = some 7 := by
  decide +kernel

end DmGatewayRegistry

end Bluestation
