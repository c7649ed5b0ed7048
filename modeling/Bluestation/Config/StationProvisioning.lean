/-
**A new provisioning of the station.**

The network sends the settings of the cell again whenever one of them changes. The cell replaces its
encryption settings as a whole and takes over the caches of class 3; then it drops the bindings to
keys of class 2 that are not the current one.

* `runtimeAieConfig`, `preserveSc3CacheFrom`, `retainCurrentKey` — the steps.
* `SameDecisions` — **no decision on a cipher changes**, now or when a rollover comes.
* `reprovisioning_keeps_iff` — that is so exactly if no rollover of class 2 is on record and nothing
  is bound to another key; after any message only bindings to the key of the message remain.
* `reprovisioning_loses_rollover` — a key change that the cell has announced is forgotten.
-/

import Bluestation.Config.KeyProvider

namespace Bluestation

open List Option AieSettings AieSessions RuntimeSc2Binding

/-! ### Association lists -/

section Lookup

variable {κ : Type} [BEq κ] {α : Type} (keep : α → Bool) {entries : List (κ × α)}

theorem keep_of_lookup_filter {key : κ} {value : α}
    (found : (entries.filter fun entry => keep entry.2).lookup key = some value) :
    keep value = true := by
  induction entries with
  | nil => cases found
  | cons entry entries ih =>
    rw [filter_cons] at found
    split at found
    next kept =>
      rw [lookup_cons] at found
      split at found
      · cases found
        exact kept
      · exact ih found
    · exact ih found

theorem lookup_filter_of_keep {key : κ}
    (kept : ∀ value, entries.lookup key = some value → keep value = true) :
    (entries.filter fun entry => keep entry.2).lookup key = entries.lookup key := by
  induction entries with
  | nil => rfl
  | cons entry entries ih =>
    rw [lookup_cons] at kept
    rw [filter_cons, lookup_cons]
    by_cases here : (key == entry.1) = true
    · simp only [here] at kept ⊢
      rw [if_pos (kept _ rfl), lookup_cons, here]
    · rw [Bool.not_eq_true] at here
      simp only [here] at kept ⊢
      split
      · rw [lookup_cons, here]
        exact ih kept
      · exact ih kept

theorem lookup_prune [LawfulBEq κ] {β : Type} (change : α → β) (keep : β → Bool)
    (distinct : (entries.map Prod.fst).Nodup) (key : κ) :
    ((entries.map fun entry => (entry.1, change entry.2)).filter fun entry => keep entry.2).lookup key
      = ((entries.lookup key).map change).filter keep := by
  induction entries with
  | nil => rfl
  | cons entry entries ih =>
    obtain ⟨fresh, distinct⟩ := nodup_cons.mp distinct
    rw [map_cons, filter_cons, lookup_cons]
    by_cases here : key = entry.1
    · have absent : entries.lookup key = none := by
        rw [lookup_eq_none_iff]
        intro other member
        rw [bne_iff_ne, here]
        intro same
        exact fresh (mem_map.mpr ⟨other, member, same.symm⟩)
      have rest := ih distinct
      rw [absent] at rest
      rw [beq_iff_eq.mpr here]
      rw [map_some, filter_some]
      split
      · rw [lookup_cons, beq_iff_eq.mpr here]
      · exact rest
    · rw [beq_eq_false_iff_ne.mpr here]
      split
      · rw [lookup_cons, beq_eq_false_iff_ne.mpr here]
        exact ih distinct
      · exact ih distinct

end Lookup

/-! ### The settings of a message -/

/-- A key of class 2 in a message; its number has five bits. -/
@[ext] structure CellSc2Aie where
  algorithm : AieAlgorithm
  sckn : Nat
  sckVn : BitVec 16
  key : Option KeyMaterial
  scknFits : sckn ≤ 31

instance : DecidableEq CellSc2Aie := fun _ _ => decidable_of_iff _ CellSc2Aie.ext_iff.symm

structure CellSc3Aie where
  algorithm : AieAlgorithm
  cckId : BitVec 16
  cck : Option KeyMaterial
  dckRetrievalDuringInitialCellSelection : Bool
  dckRetrievalDuringCellReselection : Bool
deriving DecidableEq

structure CellAie where
  enabled : Bool
  sc1Allowed : Bool
  sc2 : Option CellSc2Aie
  sc3 : Option CellSc3Aie
deriving DecidableEq

structure CellConfig where
  mcc : Nat
  mnc : Nat
  locationArea : Nat
  authenticationRequired : Bool
  aie : CellAie
deriving DecidableEq

structure StationProvisioning where
  cell : CellConfig
  sc3gRequired : Bool
  /-- What is only compared with the provisioning before. -/
  other : List (BitVec 8)
deriving DecidableEq

def runtimeAieConfig (cell : CellConfig) : Except String AieSettings :=
  if !cell.aie.enabled then .ok ⟨⟨false, none, none⟩, cell.aie.sc1Allowed, none⟩
  else
    match cell.aie.sc3 with
    | some sc3 =>
      match sc3.cck with
      | none => .error "active SwMI SC3 configuration is missing CCK material"
      | some cck =>
        .ok ⟨⟨true, none, none⟩, cell.aie.sc1Allowed, some (.new sc3.algorithm sc3.cckId cck
          sc3.dckRetrievalDuringInitialCellSelection sc3.dckRetrievalDuringCellReselection)⟩
    | none =>
      match cell.aie.sc2 with
      | none => .error "active SwMI AIE configuration is missing SC2 settings"
      | some sc2 =>
        match sc2.key with
        | none => .error "active SwMI SC2 configuration is missing SCK material"
        | some key =>
          .ok ⟨⟨true, some ⟨sc2.algorithm, sc2.sckn, sc2.sckVn, key, sc2.scknFits⟩, none⟩,
            cell.aie.sc1Allowed, none⟩

/-- The caches of class 3 stay if the common key is the same. -/
def AieSettings.preserveSc3CacheFrom (aie previous : AieSettings) : AieSettings :=
  match aie.sc3, previous.sc3 with
  | some next, some old =>
    if next.algorithm = old.algorithm ∧ next.cckId = old.cckId ∧ next.cck = old.cck then
      { aie with sc3 := some { next with
        dcks := old.dcks
        pendingDckRequests := old.pendingDckRequests
        dckRequests := old.dckRequests
        sc3gRevision := old.sc3gRevision
        linkedGckCryptoPeriods := old.linkedGckCryptoPeriods
        gckVn := old.gckVn
        gcks := old.gcks
        retiredGcks := old.retiredGcks
        futureGckVn := old.futureGckVn
        futureGcks := old.futureGcks
        gckRollover := old.gckRollover
        groupAssociations := old.groupAssociations } }
    else aie
  | _, _ => aie

/-- Drop what is bound to another key. -/
def AieSessions.retainCurrentKey (sessions : AieSessions) :
    Option RuntimeSc2Aie → AieSessions
  | none => { sessions with
      terminals := []
      calls := []
      terminalClasses := sessions.terminalClasses.retain fun _ securityClass =>
        securityClass ≠ .sc2 }
  | some sc2 =>
    let current := RuntimeSc2Binding.fromSc2 sc2
    { sessions with
      terminals := sessions.terminals.filter fun entry => entry.2 = current
      calls := (sessions.calls.map fun entry =>
          (entry.1, entry.2.filter fun bound => bound.2 = current)).filter
        fun entry => !entry.2.isEmpty }

/-- The part of the state of the stack that a provisioning reads or writes. -/
structure StackState where
  networkConnected : Bool
  stationProvisioning : Option StationProvisioning
  advertisementAccepted : Bool
  neighboursReady : Bool
  recoveryReady : Bool
  sc3gReady : Bool
  radioTxAllowed : Bool
  provisionedOnce : Bool
  authenticationRequired : Bool
  allowLst : Bool
  aie : AieSettings
  aieSessions : AieSessions

/-- The cell is another one; the whole stack starts again after the settings were stored. -/
def StackState.identityChanged (state : StackState) (cell : CellConfig) : Bool :=
  state.stationProvisioning.any fun old =>
    (old.cell.mcc, old.cell.mnc, old.cell.locationArea) ≠ (cell.mcc, cell.mnc, cell.locationArea)

/-- **A provisioning is stored**, or refused. -/
def StackState.applyStationProvisioning (state : StackState) (wasOnline : Bool)
    (provisioning : StationProvisioning) : Except String StackState := do
  let aie ← runtimeAieConfig provisioning.cell
  let identityChanged := state.identityChanged provisioning.cell
  let keepLst := state.allowLst && state.provisionedOnce &&
    state.stationProvisioning = some provisioning
  let aie := aie.preserveSc3CacheFrom state.aie
  let currentSc2 := if aie.enabled then aie.sc2 else none
  pure { state with
    radioTxAllowed := keepLst
    provisionedOnce := keepLst
    advertisementAccepted := false
    neighboursReady := wasOnline && !identityChanged && state.neighboursReady
    recoveryReady := wasOnline && !identityChanged && state.recoveryReady
    stationProvisioning := some provisioning
    sc3gReady := !provisioning.sc3gRequired
    authenticationRequired := provisioning.cell.authenticationRequired
    aie := aie
    aieSessions := state.aieSessions.retainCurrentKey currentSc2
    networkConnected := wasOnline && state.networkConnected }

/-! ### What is asked of a provisioning -/

def CellAie.activeSc2 (aie : CellAie) : Option RuntimeSc2Aie :=
  if aie.enabled ∧ aie.sc3 = none then
    aie.sc2.bind fun sc2 => sc2.key.map fun key =>
      ⟨sc2.algorithm, sc2.sckn, sc2.sckVn, key, sc2.scknFits⟩
  else none

def CellAie.activeCck (aie : CellAie) : Option (AieAlgorithm × BitVec 16 × KeyMaterial) :=
  if aie.enabled then
    aie.sc3.bind fun sc3 => sc3.cck.map fun cck => (sc3.algorithm, sc3.cckId, cck)
  else none

/-- **A message names the algorithm and the keys that are in force.** -/
structure CellAie.NamesKeysOf (message : CellAie) (aie : AieSettings) : Prop where
  enabled : message.enabled = aie.enabled
  sc2 : message.activeSc2 = aie.sc2
  sc3 : message.activeCck = aie.sc3.map fun sc3 => (sc3.algorithm, sc3.cckId, sc3.cck)
  complete : message.enabled = true → message.activeSc2 ≠ none ∨ message.activeCck ≠ none

/-- The provider of a cell. -/
def StackState.provider (state : StackState) (crypto : TetraCrypto) (mainCarrier colourCode : Nat)
    (locationArea : Option Nat) (unixNow : Nat) : BsAieKeyProvider where
  crypto := crypto
  aie := state.aie
  sessions := state.aieSessions
  mainCarrier := mainCarrier
  colourCode := colourCode
  locationArea := locationArea
  unixNow := unixNow

/-- **No decision on a cipher changes**: not the key of an air slot or of a policy, nor a rollover
that is to come; no binding, and no key or request for a key of a terminal. -/
structure SameDecisions (before after : StackState) : Prop where
  sc2 : ∀ direction time,
    after.aie.sc2ForAirTime direction time = before.aie.sc2ForAirTime direction time
  resolved : ∀ crypto mainCarrier colourCode locationArea unixNow request direction time,
    (after.provider crypto mainCarrier colourCode locationArea unixNow).resolve request direction time
      = (before.provider crypto mainCarrier colourCode locationArea unixNow).resolve request
        direction time
  keys : ∀ crypto mainCarrier colourCode locationArea unixNow context direction,
    (after.provider crypto mainCarrier colourCode locationArea unixNow).keyOf context direction
      = (before.provider crypto mainCarrier colourCode locationArea unixNow).keyOf context direction
  rollover : after.aie.rollover = before.aie.rollover
  sc3 : ∃ initial reselection, after.aie.sc3 = before.aie.sc3.map fun sc3 =>
    { sc3 with
      dckRetrievalDuringInitialCellSelection := initial
      dckRetrievalDuringCellReselection := reselection }
  terminals : ∀ issi, after.aieSessions.terminal issi = before.aieSessions.terminal issi
  calls : ∀ callId subject,
    after.aieSessions.call callId subject = before.aieSessions.call callId subject
  classes : ∀ issi,
    after.aieSessions.terminalClasses.lookup issi = before.aieSessions.terminalClasses.lookup issi
  groups : after.aieSessions.groupProtections = before.aieSessions.groupProtections

/-- Everything is bound to a key, and to no other. -/
def AieSessions.BoundTo (sessions : AieSessions) (sc2 : Option RuntimeSc2Aie) : Prop :=
  (∀ issi binding, sessions.terminal issi = some binding →
    some binding = sc2.map RuntimeSc2Binding.fromSc2) ∧
  ∀ callId subject binding, sessions.call callId subject = some binding →
    some binding = sc2.map RuntimeSc2Binding.fromSc2

/-- **No rollover is on record**, everything is bound to the key in force, and without such a key no
terminal is of class 2. -/
structure StackState.Undisturbed (state : StackState) : Prop where
  rollover : state.aie.rollover = none
  bound : state.aieSessions.BoundTo state.aie.sc2
  classes : state.aie.sc2 = none → ∀ issi, state.aieSessions.terminalClasses.lookup issi ≠ some .sc2

/-! ### The steps -/

section Steps

variable {state : StackState} {provisioning : StationProvisioning}

/-- The settings of a message that names the keys in force: the rollover is gone, the caches of
class 3 are there. -/
theorem aie_of_names {cell : CellConfig} {aie : AieSettings} (names : cell.aie.NamesKeysOf aie) :
    ∃ next, runtimeAieConfig cell = .ok next ∧ ∃ initial reselection,
      next.preserveSc3CacheFrom aie =
        ⟨⟨aie.enabled, aie.sc2, none⟩, cell.aie.sc1Allowed, aie.sc3.map fun sc3 =>
          { sc3 with
            dckRetrievalDuringInitialCellSelection := initial
            dckRetrievalDuringCellReselection := reselection }⟩ := by
  obtain ⟨mcc, mnc, locationArea, authenticationRequired, on, sc1Allowed, second, third⟩ := cell
  obtain ⟨enabled, sc2, sc3, complete⟩ := names
  unfold CellAie.activeSc2 at sc2 complete
  unfold CellAie.activeCck at sc3 complete
  unfold runtimeAieConfig preserveSc3CacheFrom
  cases on with
  | false =>
    have absent : aie.sc3 = none := by simpa using sc3.symm
    have noKey : aie.sc2 = none := by simpa using sc2.symm
    exact ⟨_, rfl, false, false, by rw [← enabled, absent, noKey]; rfl⟩
  | true =>
    cases third with
    | some third =>
      obtain ⟨algorithm, cckId, material, initial, reselection⟩ := third
      cases material with
      | none => simp at complete
      | some cck =>
        have noKey : aie.sc2 = none := by simpa using sc2.symm
        obtain ⟨old, present, same⟩ := map_eq_some_iff.mp sc3.symm
        obtain ⟨rfl, rfl, rfl⟩ := same
        refine ⟨_, rfl, initial, reselection, ?_⟩
        rw [← enabled, noKey, present]
        dsimp only [RuntimeSc3Aie.new]
        rw [if_pos ⟨rfl, rfl, rfl⟩]
        rfl
    | none =>
      have absent : aie.sc3 = none := by simpa using sc3.symm
      cases second with
      | none => simp at complete
      | some second =>
        obtain ⟨algorithm, sckn, sckVn, material, scknFits⟩ := second
        cases material with
        | none => simp at complete
        | some key =>
          have key : aie.sc2 = some ⟨algorithm, sckn, sckVn, key, scknFits⟩ := by
            simpa using sc2.symm
          exact ⟨_, rfl, false, false, by rw [← enabled, absent, key]; rfl⟩

theorem preserveSc3CacheFrom_sc2 (aie previous : AieSettings) :
    (aie.preserveSc3CacheFrom previous).toRuntimeAieConfig = aie.toRuntimeAieConfig := by
  unfold preserveSc3CacheFrom
  split
  · split <;> rfl
  · rfl

theorem activeSc2_of_read {cell : CellConfig} {next : AieSettings}
    (read : runtimeAieConfig cell = .ok next) :
    (if next.enabled then next.sc2 else none) = cell.aie.activeSc2 := by
  obtain ⟨mcc, mnc, locationArea, authenticationRequired, on, sc1Allowed, second, third⟩ := cell
  unfold CellAie.activeSc2
  cases on with
  | false =>
    cases read
    simp
  | true =>
    cases third with
    | some third =>
      obtain ⟨algorithm, cckId, material, initial, reselection⟩ := third
      cases material with
      | none => cases read
      | some cck =>
        cases read
        simp
    | none =>
      cases second with
      | none => cases read
      | some second =>
        obtain ⟨algorithm, sckn, sckVn, material, scknFits⟩ := second
        cases material with
        | none => cases read
        | some key =>
          cases read
          simp

theorem applied_of_read {next : AieSettings} (wasOnline : Bool)
    (read : runtimeAieConfig provisioning.cell = .ok next) :
    ∃ after, state.applyStationProvisioning wasOnline provisioning = .ok after ∧
      after.aie = next.preserveSc3CacheFrom state.aie ∧ after.aieSessions =
          state.aieSessions.retainCurrentKey provisioning.cell.aie.activeSc2 := by
  have current := activeSc2_of_read read
  unfold StackState.applyStationProvisioning
  rw [read]
  refine ⟨_, rfl, rfl, ?_⟩
  rw [← current, ← preserveSc3CacheFrom_sc2 next state.aie]

/-- Two providers read the same keys; only the times of key retrieval may differ. -/
structure SameKeys (initial reselection : Bool) (first second : BsAieKeyProvider) : Prop where
  enabled : second.aie.enabled = first.aie.enabled
  clock : second.unixNow = first.unixNow
  crypto : second.crypto = first.crypto
  sc2 : ∀ direction time,
    second.aie.sc2ForAirTime direction time = first.aie.sc2ForAirTime direction time
  sc3 : second.aie.sc3 = first.aie.sc3.map fun sc3 =>
    { sc3 with
      dckRetrievalDuringInitialCellSelection := initial
      dckRetrievalDuringCellReselection := reselection }
  terminals : ∀ issi, second.sessions.terminal issi = first.sessions.terminal issi
  calls : ∀ callId subject,
    second.sessions.call callId subject = first.sessions.call callId subject

namespace SameKeys

variable {initial reselection : Bool} {first second : BsAieKeyProvider}
  (same : SameKeys initial reselection first second)
include same

theorem bindingForSubject (subject : AieSubject) (key : RuntimeSc2Aie) :
    second.sessions.bindingForSubject subject key = first.sessions.bindingForSubject subject key := by
  unfold AieSessions.bindingForSubject
  cases subject <;> simp only [same.terminals, same.calls]

/-- Policies are bound alike. -/
theorem resolve (request : AieRequest Sc3KeyIdentifier) (direction : AieDirection)
    (time : TdmaTime) :
    second.resolve request direction time = first.resolve request direction time := by
  cases request with
  | clear subject scope => rfl
  | sc2 subject scope =>
    unfold BsAieKeyProvider.resolve
    simp only [same.sc2, same.bindingForSubject]
  | sc3 subject scope requested =>
    unfold BsAieKeyProvider.resolve AieSettings.activeSc3 BsAieKeyProvider.sc3Key
    rw [same.enabled, same.sc3, same.clock]
    cases first.aie.enabled <;> cases first.aie.sc3 <;> rfl

theorem keyOf (context : AieContext) (direction : AieDirection) :
    second.keyOf context direction = first.keyOf context direction := by
  cases context with
  | clear subject bound time scope => rfl
  | sc2 subject bound time scope key =>
    unfold BsAieKeyProvider.keyOf BsAieKeyProvider.currentSc2ForContext
    simp only [same.sc2, same.bindingForSubject]
  | sc3 subject bound time scope key =>
    unfold BsAieKeyProvider.keyOf BsAieKeyProvider.currentSc3KeyForContext AieSettings.activeSc3
    rw [same.enabled, same.sc3, same.clock, same.crypto]
    cases first.aie.enabled <;> cases first.aie.sc3 <;> rfl

end SameKeys

/-! ### Bindings -/

variable {sessions : AieSessions}

theorem call_retainCurrentKey (sc2 : RuntimeSc2Aie) (distinct : (sessions.calls.map Prod.fst).Nodup)
    (callId : Nat) (subject : AieSubject) :
    (sessions.retainCurrentKey (some sc2)).call callId subject =
      (sessions.calls.lookup callId).bind fun bindings =>
        (bindings.filter fun bound => bound.2 = .fromSc2 sc2).lookup subject := by
  unfold call retainCurrentKey
  rw [lookup_prune (fun bindings => bindings.filter fun bound => bound.2 = .fromSc2 sc2)
    (fun bindings => !bindings.isEmpty) distinct]
  cases sessions.calls.lookup callId with
  | none => rfl
  | some bindings =>
    dsimp only [map_some, bind_some]
    generalize bindings.filter (fun bound => bound.2 = .fromSc2 sc2) = kept
    cases kept <;> rfl

/-- **Only bindings to the current key remain.** -/
theorem boundTo_retainCurrentKey (distinct : (sessions.calls.map Prod.fst).Nodup)
    (sc2 : Option RuntimeSc2Aie) : (sessions.retainCurrentKey sc2).BoundTo sc2 := by
  cases sc2 with
  | none => exact ⟨fun _ _ found => (nomatch found), fun _ _ _ found => (nomatch found)⟩
  | some sc2 =>
    refine ⟨fun issi binding found => ?_, fun callId subject binding found => ?_⟩
    · have kept := keep_of_lookup_filter (fun bound => bound = fromSc2 sc2) found
      rw [of_decide_eq_true kept]
      rfl
    · rw [call_retainCurrentKey sc2 distinct] at found
      obtain ⟨bindings, -, found⟩ := bind_eq_some_iff.mp found
      have kept := keep_of_lookup_filter (fun bound => bound = fromSc2 sc2) found
      rw [of_decide_eq_true kept]
      rfl

/-- Bindings to the current key all remain. -/
theorem retainCurrentKey_of_boundTo (distinct : (sessions.calls.map Prod.fst).Nodup)
    {sc2 : Option RuntimeSc2Aie} (bound : sessions.BoundTo sc2) :
    (∀ issi, (sessions.retainCurrentKey sc2).terminal issi = sessions.terminal issi) ∧
      ∀ callId subject,
        (sessions.retainCurrentKey sc2).call callId subject = sessions.call callId subject := by
  cases sc2 with
  | none =>
    refine ⟨fun issi => ?_, fun callId subject => ?_⟩
    · cases found : sessions.terminal issi with
      | none => rfl
      | some binding => exact nomatch bound.1 issi binding found
    · cases found : sessions.call callId subject with
      | none => rfl
      | some binding => exact nomatch bound.2 callId subject binding found
  | some sc2 =>
    refine ⟨fun issi => ?_, fun callId subject => ?_⟩
    · refine lookup_filter_of_keep (fun binding => binding = fromSc2 sc2) ?_
      intro binding found
      exact decide_eq_true (some_inj.mp (bound.1 issi binding found))
    · rw [call_retainCurrentKey sc2 distinct]
      unfold call
      cases present : sessions.calls.lookup callId with
      | none => rfl
      | some bindings =>
        refine lookup_filter_of_keep (fun binding => binding = fromSc2 sc2) ?_
        intro binding found
        have known : sessions.call callId subject = some binding := by
          unfold call
          rw [present]
          exact found
        exact decide_eq_true (some_inj.mp (bound.2 callId subject binding known))

theorem classes_retainCurrentKey (sessions : AieSessions) (sc2 : Option RuntimeSc2Aie) (issi : Nat) :
    (sessions.retainCurrentKey sc2).terminalClasses.lookup issi =
      if sc2 = none then (sessions.terminalClasses.lookup issi).filter fun securityClass =>
        securityClass ≠ .sc2
      else sessions.terminalClasses.lookup issi := by
  cases sc2 with
  | none =>
    exact Table.lookup_retain _ _ _
  | some sc2 => rfl

/-! ### The whole message -/

/-- **A provisioning with the keys in force changes no decision exactly if nothing is disturbed**;
and after any provisioning only bindings to its key remain. -/
theorem reprovisioning_keeps_iff (state : StackState)
    (distinct : (state.aieSessions.calls.map Prod.fst).Nodup) (wasOnline : Bool)
    (provisioning : StationProvisioning) :
    (provisioning.cell.aie.NamesKeysOf state.aie →
      ∃ after, state.applyStationProvisioning wasOnline provisioning = .ok after ∧
        (SameDecisions state after ↔ state.Undisturbed)) ∧
    ∀ after, state.applyStationProvisioning wasOnline provisioning = .ok after →
      after.aieSessions.BoundTo provisioning.cell.aie.activeSc2 := by
  refine ⟨fun names => ?_, fun after applied => ?_⟩
  · obtain ⟨next, read, initial, reselection, settings⟩ := aie_of_names names
    obtain ⟨after, applied, aie, sessions⟩ := applied_of_read wasOnline read
    rw [settings] at aie
    rw [names.sc2] at sessions
    refine ⟨after, applied, fun same => ?_, fun undisturbed => ?_⟩
    · have bound := boundTo_retainCurrentKey distinct state.aie.sc2
      rw [← sessions] at bound
      refine ⟨?_, ⟨fun issi binding found => ?_, fun callId subject binding found => ?_⟩, ?_⟩
      · rw [← same.rollover, aie]
      · exact bound.1 issi binding ((same.terminals issi).trans found)
      · exact bound.2 callId subject binding ((same.calls callId subject).trans found)
      · intro absent issi known
        have dropped := same.classes issi
        rw [sessions, classes_retainCurrentKey, if_pos absent, known] at dropped
        cases dropped
    · obtain ⟨terminals, calls⟩ := retainCurrentKey_of_boundTo distinct undisturbed.bound
      rw [← sessions] at terminals calls
      have sc2 : ∀ direction time,
          after.aie.sc2ForAirTime direction time = state.aie.sc2ForAirTime direction time := by
        intro direction time
        rw [aie]
        rw [← undisturbed.rollover]
      have same : ∀ crypto mainCarrier colourCode locationArea unixNow, SameKeys initial reselection
            (state.provider crypto mainCarrier colourCode locationArea unixNow)
            (after.provider crypto mainCarrier colourCode locationArea unixNow) := by
        intro crypto mainCarrier colourCode locationArea unixNow
        refine ⟨?_, rfl, rfl, sc2, ?_, terminals, calls⟩
        · show after.aie.enabled = state.aie.enabled
          rw [aie]
        · show after.aie.sc3 = _
          rw [aie]
          rfl
      refine ⟨sc2, fun _ _ _ _ _ => (same _ _ _ _ _).resolve, fun _ _ _ _ _ => (same _ _ _ _ _).keyOf,
        ?_, ⟨initial, reselection, by rw [aie]⟩, terminals, calls, fun issi => ?_, ?_⟩
      · rw [undisturbed.rollover, aie]
      · rw [sessions, classes_retainCurrentKey]
        split
        next absent =>
          have other := undisturbed.classes absent issi
          cases known : state.aieSessions.terminalClasses.lookup issi with
          | none => rfl
          | some securityClass =>
            rw [known] at other
            rw [filter_some, if_pos]
            exact decide_eq_true fun same => other (by rw [same])
        · rfl
      · rw [sessions]
        cases state.aie.sc2 <;> rfl
  · obtain ⟨next, read, -⟩ := bind_eq_ok.mp applied
    obtain ⟨_, again, -, sessions⟩ := applied_of_read wasOnline read
    cases applied.symm.trans again
    rw [sessions]
    exact boundTo_retainCurrentKey distinct _

end Steps

/-! ### A provisioning that is sent again -/

def keyedProvisioning : StationProvisioning :=
  ⟨⟨901, 1, 7, false, ⟨true, true, some ⟨.tea3, 3, 4, some 0, by decide⟩, none⟩⟩, false, []⟩

def unprovisioned : StackState where
  networkConnected := false
  stationProvisioning := none
  advertisementAccepted := false
  neighboursReady := false
  recoveryReady := false
  sc3gReady := false
  radioTxAllowed := false
  provisionedOnce := false
  authenticationRequired := false
  allowLst := false
  aie := ⟨⟨false, none, none⟩, true, none⟩
  aieSessions := ⟨⟨[], []⟩, ∅, ∅⟩

def provisioned (rollover : Option RuntimeSc2Rollover) : StackState :=
  { unprovisioned with
    stationProvisioning := some keyedProvisioning
    sc3gReady := true
    aie := ⟨⟨true, some ⟨.tea3, 3, 4, 0, by decide⟩, rollover⟩, true, none⟩ }

def announcedRollover : RuntimeSc2Rollover :=
  ⟨7, 4 * 2 ^ 24, some ⟨1, 4, 9, 0⟩, false, ⟨.tea3, 5, 5, 1, by decide⟩, none⟩

theorem keyedProvisioning_names (rollover : Option RuntimeSc2Rollover) :
    keyedProvisioning.cell.aie.NamesKeysOf (provisioned rollover).aie where
  enabled := rfl
  sc2 := rfl
  sc3 := rfl
  complete := fun _ => .inl (by decide)

/-- Without a rollover the same message changes nothing. -/
theorem reprovisioning_keeps_quiet :
    ∃ after, (provisioned none).applyStationProvisioning true keyedProvisioning = .ok after ∧
      SameDecisions (provisioned none) after := by
  obtain ⟨after, applied, keeps⟩ := (reprovisioning_keeps_iff (provisioned none) .nil true
    keyedProvisioning).1 (keyedProvisioning_names none)
  refine ⟨after, applied, keeps.mpr ⟨rfl, ⟨fun _ _ found => ?_, fun _ _ _ found => ?_⟩, ?_⟩⟩
  · cases found
  · cases found
  · exact nofun

/-- **A key change is forgotten**: the network provisions a cell, stages a rollover and, after the
cell has chosen its slot, sends the same provisioning again. -/
theorem reprovisioning_loses_rollover :
    unprovisioned.applyStationProvisioning false keyedProvisioning = .ok (provisioned none) ∧
    (∃ staged told,
      (provisioned none).aie.stageRollover 7 ⟨.tea3, 3, 4⟩ announcedRollover.future (4 * 2 ^ 24)
        = .ok staged ∧
      staged.scheduleRolloverAbsoluteIv 0 ⟨1, 1, 1, 0⟩
        = .ok ((provisioned (some announcedRollover)).aie.toRuntimeAieConfig, told)) ∧
    keyedProvisioning.cell.aie.NamesKeysOf (provisioned (some announcedRollover)).aie ∧
    ∃ after, (provisioned (some announcedRollover)).applyStationProvisioning true keyedProvisioning
        = .ok after ∧ ¬ SameDecisions (provisioned (some announcedRollover)) after := by
  refine ⟨rfl, ⟨_, some (7, ⟨1, 4, 9, 0⟩), rfl, by decide +kernel⟩, keyedProvisioning_names _,
    _, rfl, fun same => ?_⟩
  have selected := same.sc2 .downlink ⟨1, 4, 9, 0⟩
  revert selected
  decide

end Bluestation
