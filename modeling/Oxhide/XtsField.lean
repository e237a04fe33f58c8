import Oxhide.BinaryPolynomials
import Oxhide.Xts

/-! # The tweaks of XTS in their field

The tweak of block `j` is the encrypted data-unit number times `x ^ j`, in the field of
128 bits whose polynomial is `x¹²⁸ + x⁷ + x² + x + 1`. With that the three routines that
process a buffer are the mode as it is defined. -/
namespace Oxhide.XtsField
open BinaryPolynomials BlockCiphers InPlaceBuffer ListBlocks ListSplice Polynomial WordBytes Xts

noncomputable def fieldPolynomial : (ZMod 2)[X] := X ^ 128 + X ^ 7 + X ^ 2 + X + 1

/-- Byte 0 holds the coefficients of lowest order. -/
noncomputable def bytesPoly (bs : Bytes) : (ZMod 2)[X] :=
  ∑ i ∈ Finset.range (8 * bs.length),
    if (bs.getD (i / 8) 0).toNat.testBit (i % 8) then X ^ i else 0

noncomputable def fieldElement (b : Block) : AdjoinRoot fieldPolynomial :=
  AdjoinRoot.mk fieldPolynomial (bytesPoly (bytesOfBlock b))

theorem bytesPoly_eq {bs : Bytes} (h : bs.length = 16) : bytesPoly bs = wordPoly (blockOfBytes bs) := by
  apply Polynomial.ext
  intro n
  have hterm (i : ℕ) : (if (bs.getD (i / 8) 0).toNat.testBit (i % 8) then X ^ i else 0 :
      (ZMod 2)[X]).coeff n = if i = n then if (ofLeBytes bs).testBit n then 1 else 0 else 0 := by
    rw [← testBit_ofLeBytes]
    by_cases hi : i = n
    · subst hi
      cases (ofLeBytes bs).testBit i <;> simp
    · cases (ofLeBytes bs).testBit i <;> simp [coeff_X_pow, hi, Ne.symm hi]
  rw [bytesPoly, finsetSum_coeff, Finset.sum_congr rfl fun i _ => hterm i, Finset.sum_ite_eq',
    coeff_wordPoly, blockOfBytes, BitVec.getLsbD_ofNat, h]
  by_cases hn : n < 128 <;> simp [hn]

theorem fieldElement_eq (b : Block) : fieldElement b = residue fieldPolynomial b := by
  rw [fieldElement, bytesPoly_eq (length_bytesOfBlock b), blockOfBytes_bytesOfBlock, residue]

/-- The reduction byte is the low part of the polynomial. -/
theorem fieldPolynomial_eq : fieldPolynomial = X ^ 128 + wordPoly (0x87 : Block) := by
  have hbits : (0x87 : Block) = BitVec.twoPow 128 7 ^^^ BitVec.twoPow 128 2 ^^^
      BitVec.twoPow 128 1 ^^^ BitVec.twoPow 128 0 := by decide +kernel
  have hpow (i : ℕ) (h : i < 128) : wordPoly (BitVec.twoPow 128 i) = X ^ i := wordPoly_twoPow h
  rw [hbits, wordPoly_xor, wordPoly_xor, wordPoly_xor, hpow 7 (by omega), hpow 2 (by omega),
    hpow 1 (by omega), hpow 0 (by omega)]
  unfold fieldPolynomial
  generalize (X : (ZMod 2)[X]) ^ 128 = top
  ring

/-- The two halves with the carry between them are one shift, and the last carry is reduced. -/
theorem multiplyTweak_eq (t : Block) : multiplyTweak t = double 0x87 t := by
  have hcarry : (t.extractLsb' 64 64 >>> 63) &&& 1#64 ≠ 0 ↔ t.msb = true := by
    have hbit (i : ℕ) : ((t.extractLsb' 64 64 >>> 63) &&& 1#64).getLsbD i =
        (decide (i = 0) && t.msb) := by
      cases i with
      | zero => simp [BitVec.msb_eq_getLsbD_last]
      | succ i => simp
    constructor
    · intro hne
      by_contra hmsb
      refine hne (BitVec.eq_of_getLsbD_eq fun i _ => ?_)
      rw [hbit, Bool.eq_false_iff.mpr hmsb]
      simp
    · intro hmsb hzero
      have hfirst := hbit 0
      rw [hzero, hmsb] at hfirst
      simp at hfirst
  have hshift : ((t.extractLsb' 64 64 <<< 1) ||| (t.extractLsb' 0 64 >>> 63)) ++
      (t.extractLsb' 0 64 <<< 1) = t <<< 1 := by
    refine BitVec.eq_of_getLsbD_eq fun i hi => ?_
    rw [BitVec.getLsbD_append]
    rcases lt_or_ge i 64 with hlow | hhigh
    · cases i with
      | zero => simp
      | succ i =>
        simp [hlow]
        omega
    · obtain ⟨k, rfl⟩ := Nat.exists_eq_add_of_le hhigh
      cases k with
      | zero => simp
      | succ k =>
        have hk : k + 1 < 64 := by omega
        simp [show 64 + (k + 1) - 64 = k + 1 by omega, show ¬ 64 + (k + 1) < 64 by omega, hk,
          show ¬ 63 + (k + 1) < 64 by omega, show 64 + (k + 1) < 128 by omega,
          BitVec.getLsbD_eq_getElem (show 64 + k < 128 by omega)]
  have hcases : multiplyTweak t = if (t.extractLsb' 64 64 >>> 63) &&& 1#64 ≠ 0 then
      ((t.extractLsb' 64 64 <<< 1) ||| (t.extractLsb' 0 64 >>> 63)) ++
        ((t.extractLsb' 0 64 <<< 1) ^^^ 0x87#64) else t <<< 1 := by
    rw [← hshift]
    rfl
  rw [hcases, double]
  simp only [hcarry]
  cases t.msb with
  | false => rfl
  | true =>
    have hreduce : (0x87 : Block) = 0#64 ++ 0x87#64 := by decide +kernel
    rw [if_pos rfl, if_pos rfl, ← hshift, hreduce, BitVec.xor_append, BitVec.xor_zero]

section Mode
variable (P : CipherSuite) (xts : XtsMode) (s : UInt64)

/-- The block cipher under one of its keys, in one direction. -/
def BlockCipher.permute (c : BlockCipher) (enc : Bool) : Block → Block :=
  if enc then P.encrypt c.kind c.key else P.decrypt c.kind c.key

/-- Every block of `out` is the block of `data`, masked before and after `f`. -/
structure Masks (f : Block → Block) (T : ℕ → Block) (n : ℕ) (data out : Bytes) : Prop where
  length : out.length = data.length
  block : ∀ j < n, slice out (j * 16) 16 =
    bytesOfBlock (f (blockOfBytes (slice data (j * 16) 16) ^^^ T j) ^^^ T j)

/-- The number of the data unit in sixteen little-endian bytes. -/
theorem computeTweak_eq : computeTweak P xts s =
    BlockCipher.permute P xts.cipher2 true (blockOfBytes (leBytes 16 s.toNat)) := by
  have hhigh : s.toNat / 256 ^ 8 = 0 := Nat.div_eq_of_lt s.toNat_lt
  rw [computeTweak, BlockCipher.permute, if_pos rfl, leBytes_add 8 8, hhigh, leBytes_zero]

/-- The tweak of block `j` is the only block that stands for the product with `x ^ j`. -/
theorem eq_tweak_iff (j : ℕ) (b : Block) : b = tweak P xts s j ↔
    fieldElement b = AdjoinRoot.root fieldPolynomial ^ j * fieldElement (computeTweak P xts s) := by
  have hstep : multiplyTweak = double 0x87 := funext multiplyTweak_eq
  rw [fieldElement_eq, fieldElement_eq, tweak, hstep]
  exact eq_iterate_double_iff fieldPolynomial_eq

/-- Both directions mask every block. -/
theorem exists_masks {n : ℕ} {data : Bytes} (hn : 0 < n) (h : data.length = n * 16) (enc : Bool) :
    ∃ out, (if enc then xts.encrypt P s data else xts.decrypt P s data) = (.ok (), out) ∧
      Masks (BlockCipher.permute P xts.cipher1 enc) (tweak P xts s) n data out := by
  have hmasks (f : Block → Block) : Masks f (tweak P xts s) n data
      (mapBlocks 16 (fun j => blockBytes (masked f (tweak P xts s j))) n data) :=
    ⟨length_mapBlocks (keepsWidth_blockBytes _) h.ge,
      fun j hj => slice_mapBlocks (keepsWidth_blockBytes _) h.ge hj⟩
  cases enc with
  | true => exact ⟨_, by rw [if_pos rfl, xts.encrypt_eq_mapBlocks hn h]; rfl, hmasks _⟩
  | false => exact ⟨_, by rw [if_neg Bool.false_ne_true, xts.decrypt_eq_mapBlocks hn h]; rfl, hmasks _⟩

variable {P xts s}

/-- A buffer that is refused is left alone. -/
theorem exists_refused {data : Bytes} (h : ¬ (0 < data.length ∧ 16 ∣ data.length)) :
    ∃ e, xts.encrypt P s data = (.error e, data) ∧ xts.decrypt P s data = (.error e, data) ∧
      ∀ enc tweakBuf, xts.processArbitrary P s enc data tweakBuf = (.error e, data, tweakBuf) := by
  obtain ⟨e, he⟩ := exists_validateDataLength_error h
  refine ⟨e, ?_, ?_, fun enc tweakBuf => ?_⟩
  · simp only [XtsMode.encrypt, he]
  · simp only [XtsMode.decrypt, he]
  · simp only [XtsMode.processArbitrary, he]

end Mode

/-- Every entry point is the XTS mode: blocks masked by the encrypted data-unit number times
powers of `x`, and whatever is not a positive number of blocks refused. -/
theorem xts_correct (P : CipherSuite) (xts : XtsMode) (s : UInt64) : ∃ T : ℕ → Block,
    (∀ j b, b = T j ↔ fieldElement b = AdjoinRoot.root fieldPolynomial ^ j * fieldElement
      (BlockCipher.permute P xts.cipher2 true (blockOfBytes (leBytes 16 s.toNat)))) ∧
    (∀ n data, 0 < n → data.length = n * 16 → ∀ enc, ∃ out,
      Masks (BlockCipher.permute P xts.cipher1 enc) T n data out ∧
      (if enc then xts.encrypt P s data else xts.decrypt P s data) = (.ok (), out) ∧
      (∀ tweakBuf, n * 16 ≤ tweakBuf.length → ∃ tweakBuf',
        xts.processArbitrary P s enc data tweakBuf = (.ok (), out, tweakBuf')) ∧
      (n = 32 → xts.processSector P s enc data = (.ok (), out))) ∧
    ∀ data, ¬ (0 < data.length ∧ 16 ∣ data.length) → ∃ e,
      xts.encrypt P s data = (.error e, data) ∧ xts.decrypt P s data = (.error e, data) ∧
      ∀ enc tweakBuf, xts.processArbitrary P s enc data tweakBuf = (.error e, data, tweakBuf) := by
  refine ⟨tweak P xts s, fun j b => ?_, fun n data hn h enc => ?_, fun data h => exists_refused h⟩
  · rw [← computeTweak_eq]
    exact eq_tweak_iff P xts s j b
  · obtain ⟨out, hrun, hmasks⟩ := exists_masks P xts s hn h enc
    refine ⟨out, hmasks, hrun, fun tweakBuf hbuf => ?_, ?_⟩
    · obtain ⟨out', hrun', harbitrary⟩ := xts.processArbitrary_eq (P := P) (s := s) hn h hbuf enc
      obtain rfl := (Prod.mk.inj (hrun.symm.trans hrun')).2
      exact ⟨_, harbitrary⟩
    · rintro rfl
      rw [xts.processSector_eq h, hrun]

end Oxhide.XtsField
