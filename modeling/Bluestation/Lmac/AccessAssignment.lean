/-
**The access-assignment channel: what is decoded of what was sent.**

Fourteen bits are sent as a codeword of the Reed-Muller code (30,14), scrambled; no puncturing and no
interleaving are done.

* `decodeAach_spec` — what is decoded, from the codeword and the wrong bits.
* `access_assignment` — **three wrong bits or fewer are put right, and four are noticed.**
-/

import Bluestation.Lmac.Rm3014

namespace Bluestation

open Bits BinaryCode Rm3014 Scrambler StolenSpeech List BitBuffer

namespace ErrorControl

/-- Decode an access assignment from type-5 to type-1 bits. -/
def decodeAach (buf : BitBuffer) (scramblingCode : BitVec 32) :
    Option (Except Rm3014Uncorrectable BitBuffer) := do
  let type5 := buf
  guard (type5.getLenRemaining = 30)
  let type2 ← tetraScrambBits scramblingCode type5
  let x ← type2.peekBits 30
  match tetraRm3014Decode x with
  | .error refusal => some (.error refusal)
  | .ok decoded =>
    -- the buffer of the codeword is used again for the data
    let type1 := { type2 with start := 0, pos := 0, stop := 14 }
    some (.ok ((type1.put (bitsOf 14 decoded.data)).seek 0))

end ErrorControl

open ErrorControl

theorem scrambled_zipWith_xor (code : BitVec 32) {block error : List Bool}
    (sameLength : error.length = block.length) :
    scrambled code (List.zipWith xor block error) = List.zipWith xor (scrambled code block) error := by
  apply ext_getElem?
  intro place
  rw [getElem?_scrambled, getElem?_zipWith, getElem?_zipWith, getElem?_scrambled,
    length_zipWith, sameLength, Nat.min_self]
  cases block[place]? with
  | none => rfl
  | some bit =>
    cases error[place]? with
    | none => rfl
    | some wrong =>
      show some _ = some _
      congr 1
      exact Bool.xor_right_comm ..

theorem peekBits_all {buf : BitBuffer} {width : Nat} (remaining : buf.getLenRemaining = width) :
    buf.peekBits width = some (valueOf buf.unread) := by
  unfold peekBits
  rw [if_pos remaining.ge, ← remaining]
  rfl

theorem map_getMsbD (codeword : BitVec 30) :
    (List.range 30).map codeword.getMsbD = bitsOf 30 codeword.toNat := by
  have bits : bitsOf 30 codeword.toNat =
      (List.range 30).map fun i => codeword.toNat.testBit (29 - i) := rfl
  rw [bits]
  apply map_congr_left
  intro i inside
  rw [BitVec.getMsbD, decide_eq_true (mem_range.mp inside)]
  rfl

theorem encodeAach_eq {type1 : BitBuffer} (remaining : type1.getLenRemaining = 14)
    (length : type1.unread.length = 14) (code : BitVec 32) :
    encodeAach type1 code =
      some (.ofBits (scrambled code (bitsOf 30 (tetraRm3014Compute type1.unread).toNat))) := by
  have read : type1.toBitarr 14 = some type1.unread := by
    rw [toBitarr, if_pos remaining.ge, ← length, List.take_length]
  unfold encodeAach
  simp only [remaining, guard, if_true, Option.pure_def, Option.bind_eq_bind, Option.bind_some, read,
    map_getMsbD, tetraScrambBits_ofBits]

/-- What is decoded of what was sent with some bits wrong, from the codeword with these bits wrong. -/
theorem decodeAach_spec (codeword : BitVec 30) (code : BitVec 32) {error : List Bool}
    (thirty : error.length = 30) :
    decodeAach (.ofBits (List.zipWith xor (scrambled code (bitsOf 30 codeword.toNat)) error)) code =
      some ((tetraRm3014Decode (codeword.toNat ^^^ valueOf error)).map fun decoded =>
        ⟨bitsOf 14 decoded.data ++ (List.zipWith xor (bitsOf 30 codeword.toNat) error).drop 14,
          0, 0, 14⟩) := by
  have sameLength : error.length = (bitsOf 30 codeword.toNat).length := by
    rw [thirty, length_bitsOf]
  have unscrambled : scrambled code
      (List.zipWith xor (scrambled code (bitsOf 30 codeword.toNat)) error) =
      List.zipWith xor (bitsOf 30 codeword.toNat) error := by
    rw [scrambled_zipWith_xor code (by rw [sameLength, length_scrambled]), scrambled_scrambled]
  have value : valueOf (List.zipWith xor (bitsOf 30 codeword.toNat) error) =
      codeword.toNat ^^^ valueOf error := by
    rw [valueOf_zipWith_xor _ _ sameLength.symm, valueOf_bitsOf_of_lt codeword.isLt]
  have remaining (block : List Bool) (is : block.length = 30) :
      (ofBits block).getLenRemaining = 30 := is
  have sent : (List.zipWith xor (scrambled code (bitsOf 30 codeword.toNat)) error).length = 30 := by
    simp [thirty]
  have received : (List.zipWith xor (bitsOf 30 codeword.toNat) error).length = 30 := by
    simp [thirty]
  unfold decodeAach
  simp only [remaining _ sent, Option.bind_eq_bind, Option.bind_some,
    tetraScrambBits_ofBits, unscrambled, peekBits_all (remaining _ received), unread_ofBits,
    value]
  cases tetraRm3014Decode (codeword.toNat ^^^ valueOf error) with
  | error refusal => rfl
  | ok decoded =>
    unfold put seek ofBits Except.map
    simp

/-- **Up to three wrong bits of an access assignment are put right, and four are noticed**, with any
scrambling code. -/
theorem access_assignment {buf : BitBuffer} (window : buf.Window)
    (fourteen : buf.getLenRemaining = 14) (code : BitVec 32) :
    ∃ sent, encodeAach buf code = some (.ofBits sent) ∧ sent.length = 30 ∧
      ∀ error : List Bool, error.length = 30 → (error.count true ≤ 3 → ∃ type1,
          decodeAach (.ofBits (List.zipWith xor sent error)) code = some (.ok type1) ∧
          type1.unread = buf.unread) ∧
        (error.count true = 4 → ∃ refusal,
          decodeAach (.ofBits (List.zipWith xor sent error)) code = some (.error refusal)) := by
  have length : buf.unread.length = 14 := (length_unread window).trans fourteen
  refine ⟨_, encodeAach_eq fourteen length code, by simp, ?_⟩
  intro error thirty
  have inside : valueOf error < 2 ^ 30 := by
    rw [← thirty]
    exact valueOf_lt _
  obtain ⟨corrected, noticed⟩ := tetraRm3014Decode_spec length inside
  rw [weight_valueOf] at corrected noticed
  constructor
  · intro light
    obtain ⟨decoded, found, is⟩ := corrected light
    refine ⟨_, (decodeAach_spec _ code thirty).trans (by rw [found]; rfl), ?_⟩
    show ((bitsOf 14 decoded.data ++ _).drop 0).take 14 = _
    rw [is, drop_zero, take_left' (length_bitsOf _ _), ← length, bitsOf_valueOf]
  · intro four
    obtain ⟨refusal, refused⟩ := noticed four
    exact ⟨refusal, (decodeAach_spec _ code thirty).trans (by rw [refused]; rfl)⟩

/-- An access assignment, one bit of it wrong. -/
theorem access_assignment_hit :
    ∃ sent, encodeAach (.ofBits (bitsOf 14 0x1234)) 0x80000123#32 = some (.ofBits sent) ∧
      sent.length = 30 ∧ ∀ error : List Bool, error.length = 30 → (error.count true ≤ 3 → ∃ type1,
          decodeAach (.ofBits (List.zipWith xor sent error)) 0x80000123#32 = some (.ok type1) ∧
          type1.unread = (ofBits (bitsOf 14 0x1234)).unread) ∧
        (error.count true = 4 → ∃ refusal,
          decodeAach (.ofBits (List.zipWith xor sent error)) 0x80000123#32 = some (.error refusal)) :=
  access_assignment (ofBits_window _) rfl _

end Bluestation
