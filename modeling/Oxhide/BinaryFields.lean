import Oxhide.BinaryPolynomials

/-! # Products of bit vectors

The product modulo `X ^ w + r`, one doubling for each bit of a factor, and products read off
tables: when every entry of a list is the double of the one before, positions are exponents,
and the entry at the sum of two positions is the product of the entries. -/
namespace Oxhide.BinaryFields
open BinaryPolynomials Polynomial

variable {w : ℕ}

/-- The terms of the product for the bits of `b` below `n`. -/
def mulBelow (r a b : BitVec w) : ℕ → BitVec w
  | 0 => 0
  | n + 1 => mulBelow r a b n ^^^ if b.getLsbD n then (double r)^[n] a else 0

/-- The product of `a` and `b` modulo `X ^ w + r`. -/
def mulMod (r a b : BitVec w) : BitVec w := mulBelow r a b w

/-- The powers of `X` in order: the first entry is one and each other entry a double. -/
structure IsPowers (r : BitVec w) (pows : List (BitVec w)) : Prop where
  head : pows.head? = some (BitVec.ofNat w 1)
  chain : pows.IsChain fun a b => b = double r a

instance (r : BitVec w) (pows : List (BitVec w)) : Decidable (IsPowers r pows) :=
  decidable_of_iff (pows.head? = some (BitVec.ofNat w 1) ∧ pows.IsChain fun a b => b = double r a)
    ⟨fun h => ⟨h.1, h.2⟩, fun h => ⟨h.head, h.chain⟩⟩

theorem wordPoly_zero : wordPoly 0#w = 0 := by
  apply Polynomial.ext
  intro n
  simp [coeff_wordPoly]

theorem wordPoly_one (h : 0 < w) : wordPoly (BitVec.ofNat w 1) = 1 := by
  have hbit : BitVec.ofNat w 1 = BitVec.twoPow w 0 := by simp [BitVec.twoPow]
  rw [hbit, wordPoly_twoPow h, pow_zero]

/-- The polynomial of a bit vector is the sum of the powers at its bits. -/
theorem wordPoly_eq_sum (b : BitVec w) :
    wordPoly b = ∑ i ∈ Finset.range w, if b.getLsbD i then X ^ i else 0 := by
  apply Polynomial.ext
  intro n
  have hterm (i : ℕ) : (if b.getLsbD i then X ^ i else 0 : (ZMod 2)[X]).coeff n =
      if i = n then if b.getLsbD n then 1 else 0 else 0 := by
    by_cases hi : i = n
    · subst hi
      cases b.getLsbD i <;> simp
    · cases b.getLsbD i <;> simp [coeff_X_pow, hi, Ne.symm hi]
  rw [finsetSum_coeff, Finset.sum_congr rfl fun i _ => hterm i, Finset.sum_ite_eq', coeff_wordPoly]
  by_cases hn : n < w
  · simp [hn]
  · simp [hn, BitVec.getLsbD_of_ge b n (not_lt.mp hn)]

section Residues
variable {f : (ZMod 2)[X]}

theorem residue_zero : residue f 0#w = 0 := by
  rw [residue, wordPoly_zero, map_zero]

theorem residue_one (h : 0 < w) : residue f (BitVec.ofNat w 1) = 1 := by
  rw [residue, wordPoly_one h, map_one]

theorem residue_xor (a b : BitVec w) : residue f (a ^^^ b) = residue f a + residue f b := by
  rw [residue, wordPoly_xor, map_add, residue, residue]

variable {r : BitVec w} (hf : f = X ^ w + wordPoly r)
include hf

theorem residue_mulBelow (a b : BitVec w) (n : ℕ) : residue f (mulBelow r a b n) =
    residue f a * AdjoinRoot.mk f (∑ i ∈ Finset.range n, if b.getLsbD i then X ^ i else 0) := by
  induction n with
  | zero => simp [mulBelow, residue_zero]
  | succ n ih =>
    rw [mulBelow, residue_xor, ih, Finset.sum_range_succ, map_add, mul_add]
    congr 1
    cases b.getLsbD n with
    | false => simp [residue_zero]
    | true => simp [residue_iterate_double hf, mul_comm]

/-- The product of bit vectors is the product of their residues. -/
theorem residue_mulMod (a b : BitVec w) :
    residue f (mulMod r a b) = residue f a * residue f b := by
  rw [mulMod, residue_mulBelow hf, ← wordPoly_eq_sum, ← residue]

/-- The entries of a table of powers. -/
theorem IsPowers.getElem_eq {pows : List (BitVec w)} (h : IsPowers r pows) (hw : 0 < w) {e : ℕ}
    (he : e < pows.length) : residue f pows[e] = AdjoinRoot.root f ^ e := by
  induction e with
  | zero =>
    have hfirst : pows[0] = BitVec.ofNat w 1 := by
      have hhead := h.head
      rwa [List.head?_eq_getElem?, List.getElem?_eq_getElem he, Option.some_inj] at hhead
    rw [hfirst, residue_one hw, pow_zero]
  | succ e ih =>
    have hstep : pows[e + 1] = double r pows[e] := List.isChain_iff_getElem.mp h.chain e he
    rw [hstep, residue_double hf, ih, pow_succ']

/-- Adding positions in a table of powers multiplies its entries. -/
theorem IsPowers.getElem_add {pows : List (BitVec w)} (h : IsPowers r pows) (hw : 0 < w) {d e : ℕ}
    (hde : d + e < pows.length) : pows[d + e] = mulMod r pows[d] pows[e] := by
  apply residue_injective hf
  rw [residue_mulMod hf, h.getElem_eq hf hw, h.getElem_eq hf hw, h.getElem_eq hf hw, pow_add]

end Residues

theorem mulMod_comm (r a b : BitVec w) : mulMod r a b = mulMod r b a := by
  apply residue_injective (r := r) rfl
  rw [residue_mulMod rfl, residue_mulMod rfl, mul_comm]

theorem mulMod_zero (r a : BitVec w) : mulMod r a 0#w = 0#w := by
  apply residue_injective (r := r) rfl
  rw [residue_mulMod rfl, residue_zero, mul_zero]

section Bytes

/-! Bytes, with the low part of the modulus given as a byte. -/

def byteMul (r a b : UInt8) : UInt8 := UInt8.ofBitVec (mulMod r.toBitVec a.toBitVec b.toBitVec)

theorem byteMul_comm (r a b : UInt8) : byteMul r a b = byteMul r b a := by
  rw [byteMul, mulMod_comm, byteMul]

theorem byteMul_zero (r a : UInt8) : byteMul r a 0 = 0 := by
  have hzero : (0 : UInt8).toBitVec = 0#8 := rfl
  rw [byteMul, hzero, mulMod_zero]
  rfl

/-- Adding positions in a table of bytes multiplies the entries. -/
theorem byteMul_of_isPowers {r : UInt8} {pows : List UInt8}
    (h : IsPowers r.toBitVec (pows.map UInt8.toBitVec)) {d e : ℕ} (hde : d + e < pows.length) :
    pows.getD (d + e) 0 = byteMul r (pows.getD d 0) (pows.getD e 0) := by
  have hlen : d + e < (pows.map UInt8.toBitVec).length := by simpa using hde
  have hadd := h.getElem_add rfl (by decide) hlen
  simp only [List.getElem_map] at hadd
  rw [List.getD_eq_getElem _ _ hde, List.getD_eq_getElem _ _ (by omega),
    List.getD_eq_getElem _ _ (by omega), byteMul, ← hadd, UInt8.ofBitVec_toBitVec]

end Bytes

end Oxhide.BinaryFields
