import Oxhide.ListSplice

/-! # Slice operations that stop the program out of bounds

A range of a buffer is taken or overwritten only if it lies inside the buffer, and a copy
only between ranges of one length; `none` is the panic everything else ends in. -/
namespace Oxhide.SliceCopies
open ListSplice

variable {α : Type}

/-- `&xs[..n]`. -/
def prefixSlice (xs : List α) (n : ℕ) : Option (List α) :=
  if n ≤ xs.length then some (xs.take n) else none

/-- `xs[start..stop].copy_from_slice(ys)`. -/
def copyInto (xs : List α) (start stop : ℕ) (ys : List α) : Option (List α) :=
  if start ≤ stop ∧ stop ≤ xs.length ∧ ys.length = stop - start then some (splice xs start ys)
  else none

/-- `xs[i] = a`. -/
def store (xs : List α) (i : ℕ) (a : α) : Option (List α) :=
  if i < xs.length then some (xs.set i a) else none

theorem prefixSlice_of_le {xs : List α} {n : ℕ} (h : n ≤ xs.length) :
    prefixSlice xs n = some (xs.take n) :=
  if_pos h

theorem copyInto_of_fits {xs ys : List α} {start stop : ℕ} (hstop : start + ys.length = stop)
    (hin : stop ≤ xs.length) : copyInto xs start stop ys = some (splice xs start ys) :=
  if_pos ⟨by omega, hin, by omega⟩

/-- Ranges of two different lengths are never copied. -/
theorem copyInto_of_length_ne {xs ys : List α} {start stop : ℕ} (h : ys.length ≠ stop - start) :
    copyInto xs start stop ys = none :=
  if_neg fun hfits => h hfits.2.2

theorem store_of_lt {xs : List α} {i : ℕ} {a : α} (h : i < xs.length) :
    store xs i a = some (xs.set i a) :=
  if_pos h

/-- What a buffer holds in front of its untouched rest is continued by a copy behind it. -/
theorem copyInto_append {start xs ys : List α} (h : start.length + ys.length ≤ xs.length) :
    copyInto (start ++ xs.drop start.length) start.length (start.length + ys.length) ys =
      some (start ++ ys ++ xs.drop (start ++ ys).length) := by
  have hin : start.length + ys.length ≤ (start ++ xs.drop start.length).length := by
    rw [List.length_append, List.length_drop]
    omega
  rw [copyInto_of_fits rfl hin, splice_append_drop rfl, List.length_append]

theorem store_append {start xs : List α} {a : α} (h : start.length < xs.length) :
    store (start ++ xs.drop start.length) start.length a =
      some (start ++ [a] ++ xs.drop (start ++ [a]).length) := by
  have hin : start.length < (start ++ xs.drop start.length).length := by
    rw [List.length_append, List.length_drop]
    omega
  rw [store_of_lt hin, set_eq_splice hin, splice_append_drop rfl, List.length_append]

end Oxhide.SliceCopies
