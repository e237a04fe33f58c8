import Mathlib.Data.Nat.Digits.Lemmas

/-! # Decimal numerals

A numeral is a list of digits, the most significant one first. `numeral` writes a number
without leading zeros and `value` reads it back; dividing by ten drops the last digit. -/
namespace Oxhide.DecimalNumerals

/-- Reading digits on from a number. -/
def valueFrom (v : ℕ) (ds : List ℕ) : ℕ := ds.foldl (fun v d => 10 * v + d) v

/-- The number that digits denote. -/
def value (ds : List ℕ) : ℕ := valueFrom 0 ds

/-- The digits of a number. -/
def numeral (v : ℕ) : List ℕ := if v = 0 then [0] else (Nat.digits 10 v).reverse

theorem le_valueFrom (v : ℕ) (ds : List ℕ) : v ≤ valueFrom v ds := by
  induction ds generalizing v with
  | nil => exact le_rfl
  | cons d ds ih =>
    have hrest := ih (10 * v + d)
    change v ≤ valueFrom (10 * v + d) ds
    omega

@[simp] theorem numeral_zero : numeral 0 = [0] := rfl

theorem numeral_of_ne_zero {v : ℕ} (h : v ≠ 0) : numeral v = (Nat.digits 10 v).reverse :=
  if_neg h

theorem value_numeral (v : ℕ) : value (numeral v) = v := by
  by_cases h : v = 0
  · subst h
    rfl
  · have hdigits := Nat.ofDigits_digits 10 v
    rw [Nat.ofDigits_eq_foldr] at hdigits
    rw [numeral_of_ne_zero h, value, valueFrom, List.foldl_reverse]
    refine Eq.trans ?_ hdigits
    congr 1
    funext d w
    exact Nat.add_comm _ _

theorem numeral_of_ten_le {v : ℕ} (h : 10 ≤ v) : numeral v = numeral (v / 10) ++ [v % 10] := by
  rw [numeral_of_ne_zero (by omega), numeral_of_ne_zero (by omega),
    Nat.digits_def' (by omega) (by omega), List.reverse_cons]

theorem lt_ten_of_mem_numeral {v d : ℕ} (h : d ∈ numeral v) : d < 10 := by
  by_cases hv : v = 0
  · subst hv
    rw [numeral_zero, List.mem_singleton] at h
    omega
  · rw [numeral_of_ne_zero hv, List.mem_reverse] at h
    exact Nat.digits_lt_base (by omega) h

theorem numeral_ne_nil (v : ℕ) : numeral v ≠ [] := by
  by_cases h : v = 0
  · subst h
    exact List.cons_ne_nil _ _
  · rw [numeral_of_ne_zero h, ne_eq, List.reverse_eq_nil_iff]
    exact Nat.digits_ne_nil_iff_ne_zero.mpr h

/-- Only zero is written with a zero in front. -/
theorem numeral_of_head?_eq_zero {v : ℕ} (h : (numeral v).head? = some 0) : v = 0 := by
  by_contra hv
  rw [numeral_of_ne_zero hv, List.head?_reverse,
    List.getLast?_eq_some_getLast (Nat.digits_ne_nil_iff_ne_zero.mpr hv)] at h
  exact Nat.getLast_digit_ne_zero 10 hv (Option.some.inj h)

theorem length_numeral_le_iff {v k : ℕ} (hk : 0 < k) :
    (numeral v).length ≤ k ↔ v < 10 ^ k := by
  by_cases h : v = 0
  · subst h
    have hpos : 0 < 10 ^ k := Nat.pow_pos (by omega)
    have hlen : (numeral 0).length = 1 := rfl
    omega
  · rw [numeral_of_ne_zero h, List.length_reverse]
    exact Nat.digits_length_le_iff (by omega) v

end Oxhide.DecimalNumerals
