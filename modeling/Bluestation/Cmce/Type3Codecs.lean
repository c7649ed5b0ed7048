/-
**External subscriber numbers and DTMF digits.**

A field of type 3 holds up to 64 bits in one number, and more in bytes. The encoder of DTMF digits
takes any number of digits, but no field has more than 2047 bits.

* `genericType3Bits_fromBits` — bits that are put into a field are read back.
* `type3_coded_iff` — **what the decoders make of the encoders' fields, and which fields are encoded
  again as they were.**
-/

import Bluestation.Cmce.ShortData

namespace Bluestation.Type3FieldGeneric

open Bits Nat

def EXT_SUBSCRIBER_NUM : Nat := 2
def DTMF : Nat := 1

/-- The values of some groups of bits. -/
def values (width : Nat) : Nat → List Bool → List Nat
  | 0, _ => []
  | count + 1, bits => valueOf (bits.take width) :: values width count (bits.drop width)

/-- The bits of some bytes. -/
abbrev unpack (raw : List Nat) : List Bool := raw.flatMap (bitsOf 8)

def genericType3Bits (field : Type3FieldGeneric) : Option (List Bool) :=
  if field.len = 0 ∨ 2047 < field.len then none
  else if field.len ≤ 64 then some (bitsOf field.len field.data)
  else if field.raw.length * 8 < field.len then none
  else some ((unpack field.raw).take field.len)

/-- How many bytes some bits take, and how many bits of the last one are left. -/
def byteCount (len : Nat) : Nat := (len + 7) / 8
def spare (len : Nat) : Nat := 8 * byteCount len - len

def genericType3FromBits (fieldId : Nat) (bits : List Bool) : Type3FieldGeneric where
  fieldId
  len := bits.length
  data := valueOf (bits.take 64)
  raw := if 64 < bits.length then
    values 8 (byteCount bits.length) (bits ++ List.replicate (spare bits.length) false) else []

/-- The values of the whole groups of four bits. -/
def nibbles (bits : List Bool) : List Nat := values 4 (bits.length / 4) bits

/-- The character of a digit, as a byte. -/
def charOf (value : Nat) : Option Nat :=
  if value ≤ 9 then some (48 + value)
  else if value = 10 then some 42
  else if value = 11 then some 35
  else if value = 12 then some 43
  else none

def digitOf (byte : Nat) : Option Nat :=
  if 48 ≤ byte ∧ byte ≤ 57 then some (byte - 48)
  else if byte = 42 then some 10
  else if byte = 35 then some 11
  else if byte = 43 then some 12
  else none

/-- A number is the list of its bytes. -/
def decodeExternalSubscriberNumber (field : Type3FieldGeneric) : Option (List Nat) :=
  if field.fieldId ≠ EXT_SUBSCRIBER_NUM ∨ field.len < 4 ∨ 96 < field.len ∨ field.len % 4 ≠ 0 then none
  else field.genericType3Bits.bind fun bits => (nibbles bits).mapM charOf

def encodeExternalSubscriberNumber (number : List Nat) : Option Type3FieldGeneric :=
  if number = [] ∨ 24 < number.length then none
  else (number.mapM digitOf).map fun digits =>
    genericType3FromBits EXT_SUBSCRIBER_NUM (digits.flatMap (bitsOf 4))

/-- The tone type and the digits of a field's bits; the first three of these are indexed. -/
def readTone (len : Nat) (bits : List Bool) : Except Fault (Option (Nat × List Nat)) :=
  let toneType := valueOf (bits.take 3)
  if bits.length < 3 then .error .panic
  else if 3 < toneType then .ok none
  else if toneType = 0 then
    if len < 7 ∨ (len - 3) % 4 ≠ 0 then .ok none
    else .ok (some (toneType, nibbles (bits.drop 3)))
  else if len = 3 then .ok (some (toneType, []))
  else .ok none

def decodeDtmf (field : Type3FieldGeneric) : Except Fault (Option (Nat × List Nat)) :=
  if field.fieldId ≠ DTMF ∨ field.len < 3 then .ok none
  else (field.genericType3Bits.map (readTone field.len)).getD (.ok none)

def encodeDtmf (toneType : Nat) (digits : List Nat) : Option Type3FieldGeneric :=
  if 3 < toneType ∨ (toneType = 0 ∧ (digits = [] ∨ ∃ digit ∈ digits, 15 < digit)) ∨
      (toneType ≠ 0 ∧ digits ≠ []) then none
  else some (genericType3FromBits DTMF (bitsOf 3 toneType ++ digits.flatMap (bitsOf 4)))

/-! ### Groups of bits -/

variable {field : Type3FieldGeneric} {number digits : List Nat} {toneType width count : Nat}
  {bits : List Bool}

theorem length_flatMap_bitsOf (width : Nat) (digits : List Nat) :
    (digits.flatMap (bitsOf width)).length = digits.length * width := by
  simp

theorem bitsOf_take (enough : width ≤ bits.length) :
    bitsOf width (valueOf (bits.take width)) = bits.take width := by
  have same := bitsOf_valueOf (bits.take width)
  rwa [List.length_take, min_eq_left enough] at same

theorem flatMap_values (whole : bits.length = count * width) :
    (values width count bits).flatMap (bitsOf width) = bits := by
  induction count generalizing bits with
  | zero => exact (List.length_eq_zero_iff.mp (whole.trans (zero_mul _))).symm
  | succ count ih =>
    rw [succ_mul] at whole
    rw [values, List.flatMap_cons, bitsOf_take (by omega), ih (by rw [List.length_drop]; omega),
      List.take_append_drop]

theorem values_flatMap (fit : ∀ digit ∈ digits, digit < 2 ^ width) :
    values width digits.length (digits.flatMap (bitsOf width)) = digits := by
  induction digits with
  | nil => rfl
  | cons digit digits ih =>
    obtain ⟨fits, rest⟩ := List.forall_mem_cons.mp fit
    rw [List.length_cons, values, List.flatMap_cons, List.take_left' (length_bitsOf _ _),
      List.drop_left' (length_bitsOf _ _), valueOf_bitsOf_of_lt fits, ih rest]

theorem values_spec : (values width count bits).length = count ∧
    ∀ digit ∈ values width count bits, digit < 2 ^ width := by
  induction count generalizing bits with
  | zero => exact ⟨rfl, nofun⟩
  | succ count ih =>
    refine ⟨congrArg (· + 1) ih.1, List.forall_mem_cons.mpr ⟨(valueOf_lt _).trans_le ?_, ih.2⟩⟩
    exact Nat.pow_le_pow_right (by decide) (List.length_take_le width bits)

theorem nibbles_flatMap (fit : ∀ digit ∈ digits, digit < 2 ^ 4) :
    nibbles (digits.flatMap (bitsOf 4)) = digits := by
  rw [nibbles, length_flatMap_bitsOf, Nat.mul_div_cancel _ (by decide), values_flatMap fit]

theorem flatMap_nibbles (whole : bits.length % 4 = 0) :
    (nibbles bits).flatMap (bitsOf 4) = bits ∧ (nibbles bits).length * 4 = bits.length := by
  have groups : bits.length / 4 * 4 = bits.length := by omega
  exact ⟨flatMap_values groups.symm, by rw [nibbles, values_spec.1, groups]⟩

/-! ### The two representations -/

theorem length_padded (bits : List Bool) :
    (bits ++ List.replicate (spare bits.length) false).length = byteCount bits.length * 8 := by
  rw [List.length_append, List.length_replicate, spare, byteCount]
  omega

/-- **Bits that are put into a field are read back**, unless they are too many. -/
theorem genericType3Bits_fromBits (fieldId : Nat) (some' : bits ≠ []) :
    (genericType3FromBits fieldId bits).genericType3Bits =
      if 2047 < bits.length then none else some bits := by
  have filled := List.length_pos_iff.mpr some'
  have padded := length_padded bits
  unfold genericType3Bits genericType3FromBits
  dsimp only
  by_cases long : 2047 < bits.length
  · rw [if_pos (.inr long), if_pos long]
  · rw [if_neg (by omega), if_neg long]
    by_cases short : bits.length ≤ 64
    · rw [if_pos short, List.take_of_length_le short, bitsOf_valueOf]
    · rw [if_neg short, if_pos (Nat.lt_of_not_le short), values_spec.1,
        if_neg (by unfold byteCount; omega), unpack, flatMap_values padded, List.take_left' rfl]

/-- A field as the encoders would have made it: its bytes are as many as the bits take, nothing stands
beyond its length, and its number has the first bits. -/
def Canonical (field : Type3FieldGeneric) : Prop :=
  if field.len ≤ 64 then field.data < 2 ^ field.len ∧ field.raw = []
  else field.raw.length = byteCount field.len ∧ (∀ byte ∈ field.raw, byte < 2 ^ 8) ∧
    (unpack field.raw).drop field.len = List.replicate (spare field.len) false ∧
    field.data = valueOf ((unpack field.raw).take 64)

theorem fromBits_eq_iff (read : field.genericType3Bits = some bits) :
    genericType3FromBits field.fieldId bits = field ↔ field.Canonical := by
  obtain ⟨fieldId, len, data, raw⟩ := field
  unfold genericType3Bits at read
  unfold Canonical genericType3FromBits
  dsimp only at read ⊢
  rw [mk.injEq]
  split_ifs at read with none short few
  · cases read
    rw [length_bitsOf, List.take_of_length_le (by rwa [length_bitsOf]), valueOf_bitsOf, if_pos short,
      if_neg (by omega)]
    refine ⟨fun ⟨_, _, same, empty⟩ => ⟨?_, empty.symm⟩, fun ⟨fits, empty⟩ =>
      ⟨rfl, rfl, mod_eq_of_lt fits, empty.symm⟩⟩
    rw [← same]
    exact mod_lt _ (by positivity)
  · cases read
    have length : ((unpack raw).take len).length = len := by
      rw [List.length_take, length_flatMap_bitsOf]
      omega
    have padded := length_padded ((unpack raw).take len)
    have split := List.take_append_drop len (unpack raw)
    rw [length] at padded ⊢
    rw [List.take_take, min_eq_left (by omega), if_pos (by omega), if_neg short]
    constructor
    · rintro ⟨-, -, first, packed⟩
      have bytes := flatMap_values padded
      rw [packed] at bytes
      refine ⟨packed ▸ values_spec.1, packed ▸ values_spec.2, ?_, first.symm⟩
      exact List.append_cancel_left (split.trans bytes)
    · rintro ⟨count, fit, rest, first⟩
      refine ⟨rfl, rfl, first.symm, ?_⟩
      rw [← rest, split, ← count, values_flatMap fit]

/-! ### The digits -/

theorem charOf_eq_some_iff (value byte : Nat) :
    charOf value = some byte ↔ digitOf byte = some value := by
  unfold charOf digitOf
  split_ifs <;> simp <;> omega

theorem mapM_eq_some_iff {α β : Type} {there : α → Option β} {back : β → Option α}
    (inverse : ∀ a b, there a = some b ↔ back b = some a) (as : List α) (bs : List β) :
    as.mapM there = some bs ↔ bs.mapM back = some as := by
  induction as generalizing bs with
  | nil => cases bs <;> simp [Option.bind_eq_some_iff]
  | cons a as ih => cases bs <;> simp [Option.bind_eq_some_iff, inverse, ih]

theorem digitOf_lt {byte digit : Nat} (is : digitOf byte = some digit) : digit < 2 ^ 4 := by
  unfold digitOf at is
  split_ifs at is <;> cases is <;> omega

theorem mapM_spec {α β : Type} {change : α → Option β} {as : List α} {bs : List β}
    (done : as.mapM change = some bs) :
    bs.length = as.length ∧ ∀ b ∈ bs, ∃ a, change a = some b := by
  induction as generalizing bs with
  | nil =>
    cases done
    exact ⟨rfl, nofun⟩
  | cons a as ih =>
    rw [List.mapM_cons] at done
    obtain ⟨b, first, done⟩ := Option.bind_eq_some_iff.mp done
    obtain ⟨rest, rested, done⟩ := Option.bind_eq_some_iff.mp done
    cases done
    exact ⟨congrArg (· + 1) (ih rested).1, List.forall_mem_cons.mpr ⟨⟨a, first⟩, (ih rested).2⟩⟩

theorem length_bits (read : field.genericType3Bits = some bits) : bits.length = field.len := by
  unfold genericType3Bits at read
  split_ifs at read
  · cases read
    exact length_bitsOf _ _
  · cases read
    rw [List.length_take, length_flatMap_bitsOf]
    omega

/-- **A number that is encoded is decoded.** -/
theorem decode_encode_number (encoded : encodeExternalSubscriberNumber number = some field) :
    field.decodeExternalSubscriberNumber = some number := by
  unfold encodeExternalSubscriberNumber at encoded
  split_ifs at encoded with bounds
  obtain ⟨digits, mapped, rfl⟩ := Option.map_eq_some_iff.mp encoded
  obtain ⟨count, made⟩ := mapM_spec mapped
  have filled := List.length_pos_iff.mpr fun empty => bounds (.inl empty)
  have length := length_flatMap_bitsOf 4 digits
  have known : (genericType3FromBits EXT_SUBSCRIBER_NUM (digits.flatMap (bitsOf 4))).len =
    digits.length * 4 := length
  rw [decodeExternalSubscriberNumber, genericType3Bits_fromBits _ (List.length_pos_iff.mp (by omega)),
    if_neg (by rintro (other | beyond); exacts [other rfl, by omega]), if_neg (by omega),
    Option.bind_some, nibbles_flatMap fun digit member => (made digit member).elim fun _ => digitOf_lt,
    mapM_eq_some_iff charOf_eq_some_iff, mapped]

/-- **A number that is decoded is encoded with the bits that it was read from.** -/
theorem encode_decode_number (decoded : field.decodeExternalSubscriberNumber = some number) :
    encodeExternalSubscriberNumber number = some field ↔ field.Canonical := by
  unfold decodeExternalSubscriberNumber at decoded
  split_ifs at decoded with bounds
  obtain ⟨bits, read, mapped⟩ := Option.bind_eq_some_iff.mp decoded
  obtain ⟨same, count⟩ := @flatMap_nibbles bits (by rw [length_bits read]; omega)
  rw [length_bits read, ← (mapM_spec mapped).1] at count
  rw [encodeExternalSubscriberNumber, if_neg (by rintro (rfl | beyond) <;> grind),
    (mapM_eq_some_iff charOf_eq_some_iff _ _).mp mapped, Option.map_some, same, Option.some_inj,
    show EXT_SUBSCRIBER_NUM = field.fieldId by omega, fromBits_eq_iff read]

/-- What the encoder of digits takes: one to any number of digits for the tone type 0, and none else. -/
def Dialled (toneType : Nat) (digits : List Nat) : Prop :=
  toneType ≤ 3 ∧ if toneType = 0 then digits ≠ [] ∧ ∀ digit ∈ digits, digit < 2 ^ 4 else digits = []

def toneBits (toneType : Nat) (digits : List Nat) : List Bool :=
  bitsOf 3 toneType ++ digits.flatMap (bitsOf 4)

theorem encodeDtmf_eq_some_iff : encodeDtmf toneType digits = some field ↔
    Dialled toneType digits ∧ genericType3FromBits DTMF (toneBits toneType digits) = field := by
  unfold encodeDtmf Dialled
  split_ifs <;> grind [toneBits]

theorem length_toneBits (toneType : Nat) (digits : List Nat) :
    (toneBits toneType digits).length = 3 + digits.length * 4 := by
  rw [toneBits, List.length_append, length_bitsOf, length_flatMap_bitsOf]

/-- **What is read from bits, these are the bits of.** -/
theorem readTone_eq_some_iff (three : 3 ≤ bits.length) :
    readTone bits.length bits = .ok (some (toneType, digits)) ↔
      Dialled toneType digits ∧ bits = toneBits toneType digits := by
  unfold readTone
  dsimp only
  rw [if_neg (not_lt.mpr three)]
  constructor
  · intro read
    split_ifs at read with high zero length only
    · cases read
    · cases read
    · cases read
      obtain ⟨same, count⟩ := @flatMap_nibbles (bits.drop 3) (by rw [List.length_drop]; omega)
      rw [List.length_drop] at count
      refine ⟨⟨Nat.le_of_not_lt high, ?_⟩, ?_⟩
      · rw [if_pos zero]
        exact ⟨List.length_pos_iff.mp (by omega), values_spec.2⟩
      · rw [toneBits, bitsOf_take three, same, List.take_append_drop]
    · cases read
      refine ⟨⟨Nat.le_of_not_lt high, by rw [if_neg zero]⟩, ?_⟩
      rw [toneBits, bitsOf_take three, List.take_of_length_le only.le, List.flatMap_nil,
        List.append_nil]
    · cases read
  · rintro ⟨⟨low, dialled⟩, rfl⟩
    have first : (toneBits toneType digits).take 3 = bitsOf 3 toneType := List.take_left' rfl
    rw [length_toneBits, first, valueOf_bitsOf_of_lt (by omega), if_neg (by omega)]
    split_ifs at dialled ⊢ with zero short only
    · have := List.length_pos_iff.mpr dialled.1
      omega
    · have rest : (toneBits toneType digits).drop 3 = digits.flatMap (bitsOf 4) := List.drop_left' rfl
      rw [rest, nibbles_flatMap dialled.2]
    · rw [dialled]
    · exact absurd (by rw [dialled]; rfl) only

theorem readTone_ok (len : Nat) (three : 3 ≤ bits.length) : ∃ found, readTone len bits = .ok found := by
  unfold readTone
  dsimp only
  rw [if_neg (not_lt.mpr three)]
  split_ifs <;> exact ⟨_, rfl⟩

/-- **Digits that are encoded are decoded if they are at most 511**, and no others. -/
theorem decode_encode_dtmf (encoded : encodeDtmf toneType digits = some field) :
    field.decodeDtmf = .ok (some (toneType, digits)) ↔ digits.length ≤ 511 := by
  obtain ⟨dialled, rfl⟩ := encodeDtmf_eq_some_iff.mp encoded
  have length := length_toneBits toneType digits
  have known : (genericType3FromBits DTMF (toneBits toneType digits)).len =
    (toneBits toneType digits).length := rfl
  rw [decodeDtmf, genericType3Bits_fromBits _ (List.length_pos_iff.mp (by omega)), known,
    if_neg (by rintro (other | short); exacts [other rfl, by omega])]
  split_ifs with long
  · exact ⟨nofun, fun short => by omega⟩
  · have reads := (@readTone_eq_some_iff digits toneType _ (by omega)).mpr ⟨dialled, rfl⟩
    exact ⟨fun _ => by omega, fun _ => reads⟩

theorem decodeDtmf_cases (field : Type3FieldGeneric) : field.decodeDtmf = .ok none ∨
    ∃ bits, field.fieldId = DTMF ∧ 3 ≤ bits.length ∧ field.genericType3Bits = some bits ∧
      field.decodeDtmf = readTone bits.length bits := by
  unfold decodeDtmf
  split_ifs with bounds
  · exact .inl rfl
  · cases read : field.genericType3Bits with
    | none => exact .inl rfl
    | some bits =>
      rw [← length_bits read] at bounds ⊢
      exact .inr ⟨bits, by omega, by omega, rfl, rfl⟩

/-- **Digits that are decoded are encoded with the bits that they were read from.** -/
theorem encode_decode_dtmf (decoded : field.decodeDtmf = .ok (some (toneType, digits))) :
    encodeDtmf toneType digits = some field ↔ field.Canonical := by
  obtain none | ⟨bits, is, three, read, reads⟩ := decodeDtmf_cases field
  · cases none.symm.trans decoded
  · obtain ⟨dialled, same⟩ := (readTone_eq_some_iff three).mp (reads.symm.trans decoded)
    rw [encodeDtmf_eq_some_iff, ← same, ← is, fromBits_eq_iff read]
    exact and_iff_right dialled

/-- **What the decoders make of the encoders' fields, and which fields are encoded again as they
were**: the decoders never panic, bits and numbers are read back, digits if they are at most 511, and a
field that is decoded is encoded again if it is canonical. -/
theorem type3_coded_iff (fieldId : Nat) (bits : List Bool) (number digits : List Nat) (toneType : Nat)
    (field : Type3FieldGeneric) :
    (bits ≠ [] → bits.length ≤ 2047 →
      (genericType3FromBits fieldId bits).genericType3Bits = some bits) ∧
    (encodeExternalSubscriberNumber number = some field →
      field.decodeExternalSubscriberNumber = some number) ∧
    (encodeDtmf toneType digits = some field →
      (field.decodeDtmf = .ok (some (toneType, digits)) ↔ digits.length ≤ 511)) ∧
    (field.decodeExternalSubscriberNumber = some number →
      (encodeExternalSubscriberNumber number = some field ↔ field.Canonical)) ∧
    (field.decodeDtmf = .ok (some (toneType, digits)) →
      (encodeDtmf toneType digits = some field ↔ field.Canonical)) ∧
    ∃ found, field.decodeDtmf = .ok found := by
  refine ⟨fun some' fits => ?_, decode_encode_number, decode_encode_dtmf, encode_decode_number,
    encode_decode_dtmf, ?_⟩
  · rw [genericType3Bits_fromBits _ some', if_neg (by omega)]
  · obtain none | ⟨bits, -, three, -, reads⟩ := decodeDtmf_cases field
    · exact ⟨_, none⟩
    · exact reads ▸ readTone_ok _ three

/-- **512 digits are encoded, and not decoded.** -/
theorem many_digits_lost : ¬ ∀ toneType digits field, encodeDtmf toneType digits = some field →
    field.decodeDtmf = .ok (some (toneType, digits)) := by
  intro all
  have dialled : Dialled 0 (List.replicate 512 5) := by
    refine ⟨by decide, ?_⟩
    rw [if_pos rfl]
    exact ⟨by decide, fun digit member => List.eq_of_mem_replicate member ▸ by decide⟩
  have encoded := encodeDtmf_eq_some_iff.mpr ⟨dialled, rfl⟩
  have short := (decode_encode_dtmf encoded).mp (all _ _ _ encoded)
  rw [List.length_replicate] at short
  omega

end Bluestation.Type3FieldGeneric
