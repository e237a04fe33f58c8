import Oxhide.WordBytes

/-! # Machine arithmetic that records whether it wrapped

A `Checked` value carries the wrapped result of a computation together with a
flag saying whether any operation in it left the range of its machine word. The
value is what an unchecked build computes; the flag is set exactly where a checked
build would stop. -/
namespace Oxhide.CheckedWords

structure Checked (α : Type) where
  val : α
  overflow : Bool

namespace Checked

instance : Monad Checked where
  pure a := ⟨a, false⟩
  bind x f := ⟨(f x.val).val, x.overflow || (f x.val).overflow⟩

def add (a b : UInt64) : Checked UInt64 := ⟨a + b, decide (2 ^ 64 ≤ a.toNat + b.toNat)⟩

def sub (a b : UInt64) : Checked UInt64 := ⟨a - b, decide (a.toNat < b.toNat)⟩

def mul (a b : UInt64) : Checked UInt64 := ⟨a * b, decide (2 ^ 64 ≤ a.toNat * b.toNat)⟩

def add32 (a b : UInt32) : Checked UInt32 := ⟨a + b, decide (2 ^ 32 ≤ a.toNat + b.toNat)⟩

def sub32 (a b : UInt32) : Checked UInt32 := ⟨a - b, decide (a.toNat < b.toNat)⟩

def mul32 (a b : UInt32) : Checked UInt32 := ⟨a * b, decide (2 ^ 32 ≤ a.toNat * b.toNat)⟩

def add16 (a b : UInt16) : Checked UInt16 := ⟨a + b, decide (2 ^ 16 ≤ a.toNat + b.toNat)⟩

def add8 (a b : UInt8) : Checked UInt8 := ⟨a + b, decide (2 ^ 8 ≤ a.toNat + b.toNat)⟩

def addInt64 (a b : Int64) : Checked Int64 :=
  ⟨a + b, decide (a.toInt + b.toInt < -2 ^ 63 ∨ 2 ^ 63 ≤ a.toInt + b.toInt)⟩

@[simp] theorem pure_val {α : Type} (a : α) : (pure a : Checked α).val = a := rfl

@[simp] theorem pure_overflow {α : Type} (a : α) : (pure a : Checked α).overflow = false := rfl

@[simp] theorem bind_val {α β : Type} (x : Checked α) (f : α → Checked β) :
    (x >>= f).val = (f x.val).val := rfl

@[simp] theorem bind_overflow {α β : Type} (x : Checked α) (f : α → Checked β) :
    (x >>= f).overflow = (x.overflow || (f x.val).overflow) := rfl

@[simp] theorem add_val (a b : UInt64) : (add a b).val = a + b := rfl

@[simp] theorem sub_val (a b : UInt64) : (sub a b).val = a - b := rfl

@[simp] theorem mul_val (a b : UInt64) : (mul a b).val = a * b := rfl

@[simp] theorem add_overflow (a b : UInt64) :
    (add a b).overflow = false ↔ a.toNat + b.toNat < 2 ^ 64 := by
  simp [add]

@[simp] theorem sub_overflow (a b : UInt64) :
    (sub a b).overflow = false ↔ b.toNat ≤ a.toNat := by
  simp [sub]

@[simp] theorem mul_overflow (a b : UInt64) :
    (mul a b).overflow = false ↔ a.toNat * b.toNat < 2 ^ 64 := by
  simp [mul]

@[simp] theorem add32_val (a b : UInt32) : (add32 a b).val = a + b := rfl

@[simp] theorem sub32_val (a b : UInt32) : (sub32 a b).val = a - b := rfl

@[simp] theorem mul32_val (a b : UInt32) : (mul32 a b).val = a * b := rfl

@[simp] theorem add32_overflow (a b : UInt32) :
    (add32 a b).overflow = false ↔ a.toNat + b.toNat < 2 ^ 32 := by
  simp [add32]

@[simp] theorem sub32_overflow (a b : UInt32) :
    (sub32 a b).overflow = false ↔ b.toNat ≤ a.toNat := by
  simp [sub32]

@[simp] theorem mul32_overflow (a b : UInt32) :
    (mul32 a b).overflow = false ↔ a.toNat * b.toNat < 2 ^ 32 := by
  simp [mul32]

@[simp] theorem add16_overflow (a b : UInt16) :
    (add16 a b).overflow = false ↔ a.toNat + b.toNat < 2 ^ 16 := by
  simp [add16]

@[simp] theorem add8_overflow (a b : UInt8) :
    (add8 a b).overflow = false ↔ a.toNat + b.toNat < 2 ^ 8 := by
  simp [add8]

@[simp] theorem addInt64_overflow (a b : Int64) :
    (addInt64 a b).overflow = false ↔
      -2 ^ 63 ≤ a.toInt + b.toInt ∧ a.toInt + b.toInt < 2 ^ 63 := by
  simp [addInt64]

end Checked

/-! Without wrapping the operations are those of the naturals. -/

theorem toNat_add_of_lt {a b : UInt64} (h : a.toNat + b.toNat < 2 ^ 64) :
    (a + b).toNat = a.toNat + b.toNat := by
  rw [UInt64.toNat_add, Nat.mod_eq_of_lt h]

theorem toNat_sub_of_le {a b : UInt64} (h : b.toNat ≤ a.toNat) :
    (a - b).toNat = a.toNat - b.toNat :=
  UInt64.toNat_sub_of_le a b (UInt64.le_iff_toNat_le.mpr h)

theorem toNat_mul_of_lt {a b : UInt64} (h : a.toNat * b.toNat < 2 ^ 64) :
    (a * b).toNat = a.toNat * b.toNat := by
  rw [UInt64.toNat_mul, Nat.mod_eq_of_lt h]

/-! A word and the signed number with the same bits. -/

theorem toInt_toInt64 (x : UInt64) :
    x.toInt64.toInt = if x.toNat < 2 ^ 63 then (x.toNat : ℤ) else x.toNat - 2 ^ 64 := by
  have hx := x.toNat_lt
  have hbits : x.toInt64.toInt = x.toBitVec.toInt := rfl
  have hnat : x.toBitVec.toNat = x.toNat := rfl
  rw [hbits, BitVec.toInt_eq_toNat_cond, hnat]
  split_ifs <;> omega

theorem toInt64_nonneg_iff (x : UInt64) : 0 ≤ x.toInt64 ↔ x.toNat < 2 ^ 63 := by
  have hx := x.toNat_lt
  rw [Int64.le_iff_toInt_le, toInt_toInt64, Int64.toInt_zero]
  split_ifs <;> omega

theorem toNat_toUInt64_of_nonneg {x : Int64} (h : 0 ≤ x) :
    (x.toUInt64.toNat : ℤ) = x.toInt ∧ x.toUInt64.toNat < 2 ^ 63 := by
  have hsigned := toInt_toInt64 x.toUInt64
  rw [Int64.toInt64_toUInt64] at hsigned
  rw [Int64.le_iff_toInt_le, Int64.toInt_zero] at h
  have hx := x.toUInt64.toNat_lt
  split_ifs at hsigned <;> omega

theorem toNat_toUInt32_of_nonneg {x : Int32} (h : 0 ≤ x) :
    x.toUInt32.toNat = x.toNatClampNeg ∧ x.toNatClampNeg < 2 ^ 31 := by
  have hbits : x.toInt = x.toUInt32.toBitVec.toInt := rfl
  have hnat : x.toUInt32.toBitVec.toNat = x.toUInt32.toNat := rfl
  have hx := x.toUInt32.toNat_lt
  rw [Int32.le_iff_toInt_le, Int32.toInt_zero] at h
  rw [Int32.toNatClampNeg, hbits, BitVec.toInt_eq_toNat_cond, hnat]
  rw [hbits, BitVec.toInt_eq_toNat_cond, hnat] at h
  split_ifs at h ⊢ <;> omega

end Oxhide.CheckedWords
