/-
**The provider of keys and key streams.**

The provider binds a policy to a direction and to the time of an air slot, and lays the key stream of
the key that it has bound over a range of bits. It keeps the keys; the layers carry only identities.

* `BsAieKeyProvider.resolve` — the context of a policy: which key, in which slot.
* `BsAieKeyProvider.validKey` — the key that belongs to a subject in an air slot, in its own terms.
* `keyOf_resolve` — **a context that still stands has the key that belongs to its subject.**

The primitives of the cipher are not part of the program: a `TetraCrypto` stands for them.
-/

import Bluestation.Config.GroupKeys

namespace Bluestation

open Bits Option RuntimeSc3Aie

/-! ### The primitives of the cipher -/

/-- The numbers of a slot and the direction in it. -/
structure FrameNumbers where
  timeslot : Nat
  frame : Nat
  multiframe : Nat
  hyperframe : Nat
  uplink : Bool

/-- The functions of the cipher; a key stream is given octet by octet, without an end. -/
structure TetraCrypto where
  tb5 : (mainCarrier locationArea colourCode : Nat) → KeyMaterial → Option KeyMaterial
  ta71 : (gck cck : KeyMaterial) → KeyMaterial
  tea : AieAlgorithm → FrameNumbers → KeyMaterial → Nat → BitVec 8

/-- The bits of a run of octets, the first bit of each octet first. -/
def octetBits (octets : List (BitVec 8)) : List Bool :=
  octets.flatMap fun octet => (List.range 8).map octet.getMsbD

namespace Bits.BitBuffer

/-- Add the first bits of some octets to the bits at the position, and step over them. -/
def xorBytearr (b : BitBuffer) (octets : List (BitVec 8)) (len : Nat) : Option BitBuffer :=
  if len ≤ b.getLenRemaining ∧ len ≤ 8 * octets.length then
    some (b.put (List.zipWith xor (b.unread.take len) (octetBits octets)))
  else none

end Bits.BitBuffer

/-! ### Settings and sessions -/

/-- The encryption settings; exactly one of the two security classes has a key. -/
structure AieSettings extends RuntimeAieConfig where
  sc1Allowed : Bool
  sc3 : Option RuntimeSc3Aie

/-- Bindings, and the security classes that the network chose. -/
structure AieSessions extends RuntimeAieSessions where
  terminalClasses : Table TerminalSecurityClass
  groupProtections : Table GroupProtection

namespace AieSessions

def terminal (sessions : AieSessions) (issi : Nat) : Option RuntimeSc2Binding :=
  sessions.terminals.lookup issi

def call (sessions : AieSessions) (callId : Nat) (subject : AieSubject) :
    Option RuntimeSc2Binding :=
  (sessions.calls.lookup callId).bind fun bindings => bindings.lookup subject

def terminalClass (sessions : AieSessions) (issi : Nat) : TerminalSecurityClass :=
  (sessions.terminalClasses.lookup issi).getD .unknown

end AieSessions

/-- A policy bound to a direction and a time. -/
inductive AieContext where
  | clear (subject : AieSubject) (direction : AieDirection) (time : TdmaTime) (scope : AieScope)
  | sc2 (subject : AieSubject) (direction : AieDirection) (time : TdmaTime) (scope : AieScope)
      (key : RuntimeSc2Binding)
  | sc3 (subject : AieSubject) (direction : AieDirection) (time : TdmaTime) (scope : AieScope)
      (key : Sc3KeyIdentifier)

/-- What the provider reads: settings, sessions, the place of the cell and the clock. -/
structure BsAieKeyProvider where
  crypto : TetraCrypto
  aie : AieSettings
  sessions : AieSessions
  mainCarrier : Nat
  colourCode : Nat
  /-- Known once the station has been provisioned. -/
  locationArea : Option Nat
  unixNow : Nat

/-! ### Identities -/

def runtimeDckIsUsable (unixNow : Nat) (dck : RuntimeSc3Dck) : Bool :=
  !dck.validUntilUnix.any fun expiry => expiry ≤ unixNow

namespace AieSubject

def issi? : AieSubject → Option Nat
  | individual issi | call _ (some issi) _ => some issi
  | _ => none

def gssi? : AieSubject → Option Nat
  | group gssi | call _ none (some gssi) => some gssi
  | _ => none

end AieSubject

def gckContextId (gckn gckVn : BitVec 16) : KeyContextId := (gckn ++ gckVn).setWidth 128

namespace RuntimeSc3Aie

variable (sc3 : RuntimeSc3Aie)

def gckIdentifier (gckn gckVn : BitVec 16) : Sc3KeyIdentifier :=
  ⟨sc3.algorithm, sc3.cckId, gckContextId gckn gckVn, .gck⟩

def sc3PinnedGck (subject : AieSubject) (key : Sc3KeyIdentifier) :
    Except AieContextError RuntimeSc3Gck :=
  match subject.gssi? with
  | none => .error .unsupportedSubject
  | some gssi =>
    match sc3.groupAssociations.lookup gssi with
    | none => .error .staleKeyIdentity
    | some gckn =>
      let gckVn := key.contextId.setWidth 16
      match sc3.gckByVersion gckn gckVn with
      | none => .error (.gckNotProvisioned gckn.toNat)
      | some gck =>
        if key ≠ sc3.gckIdentifier gckn gckVn then .error .staleKeyIdentity else .ok gck

/-- The identity of a group's key, or of the common key. -/
def groupIdentifier (gssi : Option Nat) (time : TdmaTime) :
    Except AieContextError Sc3KeyIdentifier :=
  match gssi.bind fun gssi => sc3.groupAssociations.lookup gssi with
  | some gckn =>
    match sc3.gckAt gckn time with
    | none => .error (.gckNotProvisioned gckn.toNat)
    | some gck => .ok (sc3.gckIdentifier gck.gckn gck.gckVn)
  | none => .ok ⟨sc3.algorithm, sc3.cckId, sc3.cckId.setWidth 128, .cck⟩

def sc3IdentifierForSubject (unixNow : Nat) (subject : AieSubject) (time : TdmaTime) :
    Except AieContextError Sc3KeyIdentifier :=
  match subject.issi? with
  | some issi =>
    match sc3.dcks.lookup issi with
    | none => .error (.dckNotProvisioned issi)
    | some dck =>
      if !runtimeDckIsUsable unixNow dck then .error (.dckExpired issi)
      else .ok ⟨sc3.algorithm, sc3.cckId, dck.contextId, .dck⟩
  | none => sc3.groupIdentifier subject.gssi? time

end RuntimeSc3Aie

def AieSettings.activeSc3 (aie : AieSettings) : Except AieContextError RuntimeSc3Aie :=
  match aie.enabled, aie.sc3 with
  | true, some sc3 => .ok sc3
  | _, _ => .error .sc3Disabled

/-- The session authorizes its subject; the identity is that of the air slot. -/
def AieSessions.bindingForSubject (sessions : AieSessions) (subject : AieSubject)
    (sc2 : RuntimeSc2Aie) : Except AieContextError RuntimeSc2Binding :=
  match subject with
  | .individual issi =>
    if (sessions.terminal issi).isSome then .ok (.fromSc2 sc2) else .error .subjectNotProvisioned
  | .call callId _ _ =>
    if (sessions.call callId subject).isSome then .ok (.fromSc2 sc2)
    else .error .subjectNotProvisioned
  | .group _ => .ok (.fromSc2 sc2)
  | .system => .error .unsupportedSubject

namespace BsAieKeyProvider

variable (provider : BsAieKeyProvider)

/-! ### Contexts -/

/-- The key that a policy of class 3 names, or the one of the air slot. -/
def sc3Key (sc3 : RuntimeSc3Aie) (subject : AieSubject) (requested : Option Sc3KeyIdentifier)
    (time : TdmaTime) : Except AieContextError Sc3KeyIdentifier :=
  match requested.filter fun key => key.keyType = .gck with
  | some pinned => do
    let _ ← sc3.sc3PinnedGck subject pinned
    pure pinned
  | none => do
    let current ← sc3.sc3IdentifierForSubject provider.unixNow subject time
    if requested.any fun key => key ≠ current then .error .staleKeyIdentity else pure current

/-- **Bind a policy to a direction and a time.** -/
def resolve (request : AieRequest Sc3KeyIdentifier) (direction : AieDirection) (time : TdmaTime) :
    Except AieContextError AieContext :=
  match request with
  | .clear subject scope => .ok (.clear subject direction time scope)
  | .sc2 subject scope => do
    let sc2 ← provider.aie.sc2ForAirTime direction time
    let binding ← provider.sessions.bindingForSubject subject sc2
    pure (.sc2 subject direction time scope binding)
  | .sc3 subject scope requested => do
    let sc3 ← provider.aie.activeSc3
    let key ← provider.sc3Key sc3 subject requested time
    pure (.sc3 subject direction time scope key)

/-- A key with its algorithm. -/
abbrev CipherKey := AieAlgorithm × KeyMaterial

def currentSc2ForContext (subject : AieSubject) (time : TdmaTime) (key : RuntimeSc2Binding)
    (direction : AieDirection) : Except AieContextError CipherKey := do
  let sc2 ← provider.aie.sc2ForAirTime direction time
  if RuntimeSc2Binding.fromSc2 sc2 ≠ key then .error .staleKeyIdentity
  else do
    let binding ← provider.sessions.bindingForSubject subject sc2
    if binding = key then pure (sc2.algorithm, sc2.key) else .error .staleKeyIdentity

def currentSc3KeyForContext (subject : AieSubject) (time : TdmaTime) (key : Sc3KeyIdentifier) :
    Except AieContextError CipherKey := do
  let sc3 ← provider.aie.activeSc3
  match key.keyType with
  | .gck =>
    let gck ← sc3.sc3PinnedGck subject key
    pure (sc3.algorithm, provider.crypto.ta71 gck.key sc3.cck)
  | keyType =>
    let current ← sc3.sc3IdentifierForSubject provider.unixNow subject time
    if current ≠ key then .error .staleKeyIdentity
    else if keyType = .cck then pure (sc3.algorithm, sc3.cck)
    else
      match subject.issi? with
      | none => .error .unsupportedSubject
      | some issi =>
        match sc3.dcks.lookup issi with
        | none => .error (.dckNotProvisioned issi)
        | some dck => pure (sc3.algorithm, dck.key)

variable (context : AieContext)

/-- The key of a context, if the context still stands. -/
def keyOf (direction : AieDirection) : Except AieContextError (TdmaTime × CipherKey) :=
  match context with
  | .clear _ _ _ _ => .error .invalidContext
  | .sc2 subject bound time _ key =>
    if bound ≠ direction then .error .invalidContext
    else (provider.currentSc2ForContext subject time key direction).map (time, ·)
  | .sc3 subject bound time _ key =>
    if bound ≠ direction then .error .invalidContext
    else (provider.currentSc3KeyForContext subject time key).map (time, ·)

/-! ### Key streams -/

/-- The key of this cell. -/
def encryptedCipherKey (key : KeyMaterial) : Except AieContextError KeyMaterial :=
  match provider.locationArea with
  | none => .error .cryptoInput
  | some locationArea =>
    match provider.crypto.tb5 provider.mainCarrier locationArea provider.colourCode key with
    | none => .error .cryptoInput
    | some eck => .ok eck

/-- Octets of the key stream of a slot. -/
def keyStream (algorithm : AieAlgorithm) (eck : KeyMaterial) (direction : AieDirection)
    (time : TdmaTime) (octets : Nat) : List (BitVec 8) :=
  (List.range octets).map (provider.crypto.tea algorithm
    ⟨time.t, time.f, time.m, time.h, direction = .uplink⟩ eck)

/-- Lay the key stream over a range of a block; the position stays. -/
def cipherMacWithKey (time : TdmaTime) (key : CipherKey) (macBlock : BitBuffer)
    (start len kssOffset : Nat) (direction : AieDirection) :
    Except AieContextError BitBuffer := do
  let eck ← provider.encryptedCipherKey key.2
  if kssOffset % 8 ≠ 0 then .error .cryptoInput
  else
    let stream := provider.keyStream key.1 eck direction time ((kssOffset + len + 7) / 8)
    match (macBlock.seek start).xorBytearr (stream.drop (kssOffset / 8)) len with
    | none => .error .invalidContext
    | some ciphered => pure (ciphered.seek macBlock.getPos)

/-- **Lay the key stream of a context over a range of a block.** -/
def cipherMac (macBlock : BitBuffer) (start len kssOffset : Nat) (direction : AieDirection) :
    Except AieContextError BitBuffer :=
  if len = 0 then .ok macBlock
  else do
    let (time, key) ← provider.keyOf context direction
    provider.cipherMacWithKey time key macBlock start len kssOffset direction

def cipherDownlinkTraffic (block : BitBuffer) (start len : Nat) : Except AieContextError BitBuffer :=
  provider.cipherMac context block start len 0 .downlink

def cipherDownlinkTrafficAtKssOffset (block : BitBuffer) (start len kssOffset : Nat) :
    Except AieContextError BitBuffer :=
  provider.cipherMac context block start len kssOffset .downlink

end BsAieKeyProvider

/-! ### The key that belongs to a subject -/

namespace RuntimeSc3Aie

variable (sc3 : RuntimeSc3Aie) (crypto : TetraCrypto)

def modifiedGck (gckn gckVn : BitVec 16) : Option BsAieKeyProvider.CipherKey :=
  (sc3.gckByVersion gckn gckVn).map fun gck => (sc3.algorithm, crypto.ta71 gck.key sc3.cck)

/-- The key of a terminal, of a group in the version of the air slot, or the common key. -/
def keyOfSubject (subject : AieSubject) (time : TdmaTime) : Option BsAieKeyProvider.CipherKey :=
  match subject.issi?, subject.gssi?.bind fun gssi => sc3.groupAssociations.lookup gssi with
  | some issi, _ => (sc3.dcks.lookup issi).map fun dck => (sc3.algorithm, dck.key)
  | none, some gckn =>
    (sc3.gckAt gckn time).bind fun current => sc3.modifiedGck crypto gckn current.gckVn
  | none, none => some (sc3.algorithm, sc3.cck)

def keptKey (subject : AieSubject) (key : Sc3KeyIdentifier) : Option BsAieKeyProvider.CipherKey :=
  (subject.gssi?.bind fun gssi => sc3.groupAssociations.lookup gssi).bind fun gckn =>
    sc3.modifiedGck crypto gckn (key.contextId.setWidth 16)

end RuntimeSc3Aie

namespace BsAieKeyProvider

variable (provider : BsAieKeyProvider)

/-- **The key that belongs to the subject of a policy**, in a direction and an air slot. -/
def validKey (request : AieRequest Sc3KeyIdentifier) (direction : AieDirection) (time : TdmaTime) :
    Option CipherKey :=
  match request with
  | .clear _ _ => none
  | .sc2 _ _ =>
    (provider.aie.sc2ForAirTime direction time).toOption.map fun sc2 => (sc2.algorithm, sc2.key)
  | .sc3 subject _ requested =>
    provider.aie.activeSc3.toOption.bind fun sc3 =>
      match requested.filter fun key => key.keyType = .gck with
      | some pinned => sc3.keptKey provider.crypto subject pinned
      | none => sc3.keyOfSubject provider.crypto subject time

variable {provider}

theorem setWidth_gckContextId (gckn gckVn : BitVec 16) :
    (gckContextId gckn gckVn).setWidth 16 = gckVn := by
  rw [gckContextId, BitVec.setWidth_setWidth_of_le _ (by decide), BitVec.setWidth_append_eq_right]

section Class3

variable {sc3 : RuntimeSc3Aie} {subject : AieSubject} {key : Sc3KeyIdentifier}

theorem sc3PinnedGck_kept {gck : RuntimeSc3Gck} (pinned : sc3.sc3PinnedGck subject key = .ok gck)
    (crypto : TetraCrypto) :
    sc3.keptKey crypto subject key = some (sc3.algorithm, crypto.ta71 gck.key sc3.cck) := by
  unfold sc3PinnedGck at pinned
  unfold keptKey modifiedGck
  split at pinned
  · contradiction
  next gssi named =>
    split at pinned
    · contradiction
    next gckn associated =>
      dsimp only at pinned
      split at pinned
      · contradiction
      next found present =>
        split at pinned
        · contradiction
        · cases pinned
          simp [named, associated, present]

variable {time : TdmaTime}

theorem groupIdentifier_cases {gssi : Option Nat}
    (identified : sc3.groupIdentifier gssi time = .ok key) :
    (∃ gckn gck, (gssi.bind fun gssi => sc3.groupAssociations.lookup gssi) = some gckn ∧
        sc3.gckAt gckn time = some gck ∧ key = sc3.gckIdentifier gck.gckn gck.gckVn) ∨
      (gssi.bind fun gssi => sc3.groupAssociations.lookup gssi) = none ∧ key.keyType = .cck := by
  unfold groupIdentifier at identified
  split at identified
  next gckn associated =>
    split at identified
    · contradiction
    next gck current =>
      cases identified
      exact .inl ⟨gckn, gck, associated, current, rfl⟩
  next unassociated =>
    cases identified
    exact .inr ⟨unassociated, rfl⟩

variable {requested : Option Sc3KeyIdentifier}

theorem sc3Key_named (named : provider.sc3Key sc3 subject requested time = .ok key) :
    requested.filter (fun key => key.keyType = .gck) = some key ∨
      requested.filter (fun key => key.keyType = .gck) = none ∧
        sc3.sc3IdentifierForSubject provider.unixNow subject time = .ok key := by
  unfold sc3Key at named
  split at named
  next pinned is =>
    obtain ⟨_, _, same⟩ := bind_eq_ok.mp named
    cases same
    exact .inl is
  next unpinned =>
    obtain ⟨current, identified, named⟩ := bind_eq_ok.mp named
    split at named
    · contradiction
    · cases named
      exact .inr ⟨unpinned, identified⟩

/-- **The key of a context of class 3** is that of its subject in the air slot. -/
theorem currentSc3KeyForContext_valid {scope : AieScope}
    {direction : AieDirection} {material : CipherKey} (active : provider.aie.activeSc3 = .ok sc3)
    (named : provider.sc3Key sc3 subject requested time = .ok key)
    (current : provider.currentSc3KeyForContext subject time key = .ok material) :
    provider.validKey (.sc3 subject scope requested) direction time = some material := by
  unfold validKey
  rw [active]
  show (match requested.filter fun key => key.keyType = .gck with
    | some pinned => sc3.keptKey provider.crypto subject pinned
    | none => sc3.keyOfSubject provider.crypto subject time) = some material
  unfold currentSc3KeyForContext at current
  rw [active, ok_bind] at current
  obtain pinned | ⟨unpinned, identified⟩ := sc3Key_named named
  · have isGck : key.keyType = .gck := of_decide_eq_true (filter_eq_some_iff.mp pinned).2
    rw [pinned]
    rw [isGck] at current
    obtain ⟨gck, found, same⟩ := bind_eq_ok.mp current
    cases same
    exact sc3PinnedGck_kept found provider.crypto
  · rw [unpinned]
    unfold sc3IdentifierForSubject at identified
    unfold keyOfSubject
    cases individual : subject.issi? with
    | some issi =>
      rw [individual] at identified
      dsimp only at identified
      cases cached : sc3.dcks.lookup issi with
      | none =>
        rw [cached] at identified
        contradiction
      | some dck =>
        rw [cached] at identified
        dsimp only at identified ⊢
        split at identified
        · contradiction
        · cases identified
          dsimp only at current
          obtain ⟨_, _, current⟩ := bind_eq_ok.mp current
          split at current
          · contradiction
          · rw [individual] at current
            dsimp only at current
            rw [cached] at current ⊢
            cases current
            rfl
    | none =>
      rw [individual] at identified
      obtain ⟨gckn, gck, associated, present, rfl⟩ | ⟨unassociated, common⟩ :=
        groupIdentifier_cases identified
      · rw [associated]
        dsimp only [gckIdentifier] at current ⊢
        obtain ⟨found, pinned, same⟩ := bind_eq_ok.mp current
        cases same
        have kept := sc3PinnedGck_kept pinned provider.crypto
        unfold keptKey at kept
        rw [associated, setWidth_gckContextId] at kept
        rw [present]
        exact kept
      · rw [unassociated]
        rw [common] at current
        obtain ⟨_, _, current⟩ := bind_eq_ok.mp current
        split at current
        · contradiction
        · cases current
          rfl

end Class3

/-- **A context that still stands has the key that belongs to its subject**, and its time. -/
theorem keyOf_resolve {request : AieRequest Sc3KeyIdentifier} {direction : AieDirection}
    {time bound : TdmaTime} {context : AieContext} {material : CipherKey}
    (resolved : provider.resolve request direction time = .ok context)
    (stands : provider.keyOf context direction = .ok (bound, material)) :
    bound = time ∧ provider.validKey request direction time = some material := by
  cases request with
  | clear subject scope =>
    cases resolved
    contradiction
  | sc2 subject scope =>
    obtain ⟨sc2, selected, resolved⟩ := bind_eq_ok.mp resolved
    obtain ⟨binding, _, resolved⟩ := bind_eq_ok.mp resolved
    cases resolved
    unfold keyOf at stands
    dsimp only at stands
    rw [if_neg (by simp)] at stands
    cases current : provider.currentSc2ForContext subject time binding direction with
    | error refused =>
      rw [current] at stands
      contradiction
    | ok found =>
      rw [current] at stands
      cases stands
      refine ⟨rfl, ?_⟩
      unfold currentSc2ForContext at current
      rw [selected, ok_bind] at current
      split at current
      · contradiction
      · obtain ⟨_, _, current⟩ := bind_eq_ok.mp current
        split at current
        · cases current
          unfold validKey
          rw [selected]
          rfl
        · contradiction
  | sc3 subject scope requested =>
    obtain ⟨sc3, active, resolved⟩ := bind_eq_ok.mp resolved
    obtain ⟨key, named, resolved⟩ := bind_eq_ok.mp resolved
    cases resolved
    unfold keyOf at stands
    dsimp only at stands
    rw [if_neg (by simp)] at stands
    cases current : provider.currentSc3KeyForContext subject time key with
    | error refused =>
      rw [current] at stands
      contradiction
    | ok found =>
      rw [current] at stands
      cases stands
      exact ⟨rfl, currentSc3KeyForContext_valid active named current⟩

end BsAieKeyProvider

end Bluestation
