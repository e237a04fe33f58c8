import Mathlib.Data.Nat.Basic
import Mathlib.Order.Basic

/-! # Rounding to multiples of a unit

`roundDown` and `roundUp` are the two adjoint projections onto the multiples of a
unit: every statement about them follows from `le_roundDown_iff` and
`roundUp_le_iff`. -/
namespace Oxhide.Rounding

variable {u : ℕ}

def roundDown (u x : ℕ) : ℕ := x / u * u

def roundUp (u x : ℕ) : ℕ := (x + (u - 1)) / u * u

theorem dvd_roundDown (u x : ℕ) : u ∣ roundDown u x := Nat.dvd_mul_left u _

theorem dvd_roundUp (u x : ℕ) : u ∣ roundUp u x := Nat.dvd_mul_left u _

theorem roundDown_le (u x : ℕ) : roundDown u x ≤ x := Nat.div_mul_le_self x u

/-- Rounding down is the largest multiple below. -/
theorem le_roundDown_iff (hu : 0 < u) {a x : ℕ} (ha : u ∣ a) : a ≤ roundDown u x ↔ a ≤ x := by
  obtain ⟨k, rfl⟩ := ha
  rw [roundDown, Nat.mul_comm u k, Nat.mul_le_mul_right_iff hu, Nat.le_div_iff_mul_le hu]

/-- Rounding up is the smallest multiple above. -/
theorem roundUp_le_iff (hu : 0 < u) {b x : ℕ} (hb : u ∣ b) : roundUp u x ≤ b ↔ x ≤ b := by
  obtain ⟨k, rfl⟩ := hb
  rw [roundUp, Nat.mul_comm u k, Nat.mul_le_mul_right_iff hu, Nat.div_le_iff_le_mul hu]
  omega

theorem le_roundUp (hu : 0 < u) (x : ℕ) : x ≤ roundUp u x :=
  (roundUp_le_iff hu (dvd_roundUp u x)).mp le_rfl

end Oxhide.Rounding
