import Mathlib.Algebra.CharP.Two
import Mathlib.Algebra.Field.ZMod
import Mathlib.Algebra.Polynomial.OfFn
import Mathlib.Data.ZMod.Basic
import Mathlib.RingTheory.AdjoinRoot

/-! # Bit vectors as polynomials over GF(2)

Bit `i` is the coefficient of `X ^ i`. Modulo `X ^ w + p`, with `p` of degree below `w`,
every residue is the one of exactly one bit vector of width `w`, and multiplying by `X` is
a shift followed by the reduction of the bit that was shifted out. -/
namespace Oxhide.BinaryPolynomials
open Polynomial

variable {w : ℕ}

noncomputable def wordPoly (b : BitVec w) : (ZMod 2)[X] :=
  ofFn w fun i => if b.getLsbD i then 1 else 0

theorem coeff_wordPoly (b : BitVec w) (n : ℕ) :
    (wordPoly b).coeff n = if b.getLsbD n then 1 else 0 := by
  by_cases hn : n < w
  · rw [wordPoly, ofFn_coeff_eq_val_of_lt _ hn]
  · rw [wordPoly, ofFn_coeff_eq_zero_of_ge _ (not_lt.mp hn), BitVec.getLsbD_of_ge b n (not_lt.mp hn)]
    rfl

theorem wordPoly_injective : Function.Injective (wordPoly (w := w)) := by
  intro a b h
  refine BitVec.eq_of_getLsbD_eq fun i hi => ?_
  have hbit := congrFun (injective_ofFn w h) ⟨i, hi⟩
  rw [Bool.eq_iff_iff]
  by_cases ha : a.getLsbD i = true <;> simpa [ha] using hbit

theorem wordPoly_xor (a b : BitVec w) : wordPoly (a ^^^ b) = wordPoly a + wordPoly b := by
  apply Polynomial.ext
  intro n
  rw [coeff_add, coeff_wordPoly, coeff_wordPoly, coeff_wordPoly, BitVec.getLsbD_xor]
  cases a.getLsbD n <;> cases b.getLsbD n <;> decide

theorem degree_wordPoly_lt (b : BitVec w) : (wordPoly b).degree < w := ofFn_degree_lt _

theorem wordPoly_twoPow {i : ℕ} (h : i < w) : wordPoly (BitVec.twoPow w i) = X ^ i := by
  apply Polynomial.ext
  intro n
  rw [coeff_wordPoly, BitVec.getLsbD_twoPow, coeff_X_pow]
  simp [h, eq_comm]

/-- A shift multiplies by `X`; the bit that leaves the vector is the coefficient of `X ^ w`. -/
theorem X_mul_wordPoly (b : BitVec w) :
    X * wordPoly b = wordPoly (b <<< 1) + if b.msb then X ^ w else 0 := by
  have hmsb : b.msb = b.getLsbD (w - 1) := BitVec.msb_eq_getLsbD_last b
  apply Polynomial.ext
  intro n
  have htop : (if b.msb then X ^ w else 0 : (ZMod 2)[X]).coeff n =
      if b.msb = true ∧ n = w then 1 else 0 := by
    cases b.msb <;> simp [coeff_X_pow]
  rw [coeff_add, coeff_wordPoly, htop, hmsb]
  cases n with
  | zero =>
    rcases Nat.eq_zero_or_pos w with rfl | hw
    · simp
    · simp [hw.ne]
  | succ n =>
    rw [coeff_X_mul, coeff_wordPoly, BitVec.getLsbD_shiftLeft]
    rcases lt_trichotomy (n + 1) w with hlt | rfl | hgt
    · simp [hlt, hlt.ne]
    · simp
    · have hn : ¬ n < w := by omega
      simp [hgt.ne', BitVec.getLsbD_of_ge b n (not_lt.mp hn), show ¬ n + 1 < w by omega]

section Residues
variable (f : (ZMod 2)[X])

/-- The residue of a bit vector modulo `f`. -/
noncomputable def residue (b : BitVec w) : AdjoinRoot f := AdjoinRoot.mk f (wordPoly b)

/-- Shift, and reduce with the low part `r` of the modulus. -/
def double (r b : BitVec w) : BitVec w := if b.msb then (b <<< 1) ^^^ r else b <<< 1

variable {f} {r : BitVec w} (hf : f = X ^ w + wordPoly r)
include hf

theorem residue_injective : Function.Injective (residue f (w := w)) := by
  have hmonic : f.Monic := hf ▸ monic_X_pow_add (degree_wordPoly_lt r)
  have hdegree : f.degree = w := by
    rw [hf, degree_add_eq_left_of_degree_lt (by rw [degree_X_pow]; exact degree_wordPoly_lt r),
      degree_X_pow]
  intro a b h
  by_contra hne
  have hdiff : wordPoly (a ^^^ b) ≠ 0 := by
    rw [wordPoly_xor, ← CharTwo.sub_eq_add, sub_ne_zero]
    exact fun heq => hne (wordPoly_injective heq)
  refine AdjoinRoot.mk_ne_zero_of_degree_lt hmonic hdiff ?_ ?_
  · rw [hdegree]
    exact degree_wordPoly_lt _
  · rw [wordPoly_xor, map_add, ← residue, h, residue, ← map_add, CharTwo.add_self_eq_zero, map_zero]

/-- Doubling is multiplication by the root of the modulus. -/
theorem residue_double (b : BitVec w) :
    residue f (double r b) = AdjoinRoot.root f * residue f b := by
  have hroot : AdjoinRoot.mk f (X ^ w) = AdjoinRoot.mk f (wordPoly r) := by
    rw [AdjoinRoot.mk_eq_mk, CharTwo.sub_eq_add, ← hf]
  have hshift : AdjoinRoot.root f * residue f b = residue f (b <<< 1) +
      AdjoinRoot.mk f (if b.msb then X ^ w else 0) := by
    rw [← AdjoinRoot.mk_X, residue, ← map_mul, X_mul_wordPoly, map_add, residue]
  rw [hshift, double]
  cases b.msb with
  | false => simp
  | true => simp only [if_true, hroot, residue, wordPoly_xor, map_add]

theorem residue_iterate_double (b : BitVec w) (j : ℕ) :
    residue f ((double r)^[j] b) = AdjoinRoot.root f ^ j * residue f b := by
  induction j with
  | zero => rw [Function.iterate_zero_apply, pow_zero, one_mul]
  | succ j ih => rw [Function.iterate_succ_apply', residue_double hf, ih, pow_succ', mul_assoc]

/-- The iterates of doubling are the only bit vectors with their residues. -/
theorem eq_iterate_double_iff {a b : BitVec w} {j : ℕ} :
    a = (double r)^[j] b ↔ residue f a = AdjoinRoot.root f ^ j * residue f b := by
  rw [← residue_iterate_double hf]
  exact (residue_injective hf).eq_iff.symm

end Residues

end Oxhide.BinaryPolynomials
