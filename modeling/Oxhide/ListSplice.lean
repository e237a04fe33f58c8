import Mathlib.Data.List.Basic

/-! # Slices of a list and in-place overwriting of a range

`slice xs off n` reads `n` entries from position `off`; `splice xs off ys`
overwrites the entries from `off` on with `ys` and keeps all others. Both are
read through `getElem?`, so every law below is a case split on one position. -/
namespace Oxhide.ListSplice

variable {α : Type*}

/-- The entries of `xs` at positions `off, …, off + n - 1`, as far as they exist. -/
def slice (xs : List α) (off n : ℕ) : List α := (xs.drop off).take n

/-- `xs` with the entries from `off` on replaced by `ys`. -/
def splice (xs : List α) (off : ℕ) (ys : List α) : List α :=
  xs.take off ++ ys ++ xs.drop (off + ys.length)

@[simp] theorem length_slice (xs : List α) (off n : ℕ) :
    (slice xs off n).length = min n (xs.length - off) := by
  simp [slice]

theorem length_slice_of_le {xs : List α} {off n : ℕ} (h : off + n ≤ xs.length) :
    (slice xs off n).length = n := by
  simp only [length_slice]
  omega

theorem getElem?_slice (xs : List α) (off n i : ℕ) :
    (slice xs off n)[i]? = if i < n then xs[off + i]? else none := by
  by_cases hi : i < n
  · simp [slice, hi]
  · rw [if_neg hi, slice, List.getElem?_take, if_neg hi]

theorem getElem?_splice {xs : List α} {off : ℕ} (h : off ≤ xs.length) (ys : List α) (i : ℕ) :
    (splice xs off ys)[i]? =
      if i < off then xs[i]? else if i < off + ys.length then ys[i - off]? else xs[i]? := by
  have htake : (xs.take off).length = off := by simp [h]
  unfold splice
  by_cases hlow : i < off
  · rw [List.append_assoc, List.getElem?_append_left (by omega), if_pos hlow,
      List.getElem?_take, if_pos hlow]
  · rw [if_neg hlow, List.append_assoc, List.getElem?_append_right (by omega), htake]
    by_cases hmid : i < off + ys.length
    · rw [if_pos hmid, List.getElem?_append_left (by omega)]
    · rw [if_neg hmid, List.getElem?_append_right (by omega), List.getElem?_drop]
      congr 1
      omega

theorem length_splice {xs ys : List α} {off : ℕ} (h : off + ys.length ≤ xs.length) :
    (splice xs off ys).length = xs.length := by
  simp only [splice, List.length_append, List.length_take, List.length_drop]
  omega

@[simp] theorem splice_nil (xs : List α) (off : ℕ) : splice xs off [] = xs := by
  simp [splice]

theorem splice_whole {xs ys : List α} (h : ys.length = xs.length) : splice xs 0 ys = ys := by
  simp [splice, h]

@[simp] theorem slice_zero (xs : List α) (off : ℕ) : slice xs off 0 = [] := by
  simp [slice]

@[simp] theorem slice_zero_length (xs : List α) : slice xs 0 xs.length = xs := by
  simp [slice]

theorem slice_replicate {n o m : ℕ} (h : o + m ≤ n) (a : α) :
    slice (List.replicate n a) o m = List.replicate m a := by
  rw [slice, List.drop_replicate, List.take_replicate, Nat.min_eq_left (by omega)]

theorem slice_all {xs : List α} {n : ℕ} (h : xs.length ≤ n) : slice xs 0 n = xs := by
  simpa [slice] using List.take_of_length_le h

/-- Reading back exactly the range that was overwritten. -/
theorem slice_splice_self {xs : List α} {off : ℕ} (h : off ≤ xs.length) (ys : List α) :
    slice (splice xs off ys) off ys.length = ys := by
  apply List.ext_getElem?
  intro i
  rw [getElem?_slice, getElem?_splice h]
  by_cases hi : i < ys.length
  · rw [if_pos hi, if_neg (by omega), if_pos (by omega), Nat.add_sub_cancel_left]
  · rw [if_neg hi]
    exact (List.getElem?_eq_none (by omega)).symm

/-- A range disjoint from the overwritten one still reads the same. -/
theorem slice_splice_of_disjoint {xs ys : List α} {off o n : ℕ} (h : off ≤ xs.length)
    (hd : o + n ≤ off ∨ off + ys.length ≤ o) :
    slice (splice xs off ys) o n = slice xs o n := by
  apply List.ext_getElem?
  intro i
  rw [getElem?_slice, getElem?_slice, getElem?_splice h]
  by_cases hi : i < n
  · simp only [if_pos hi]
    split_ifs with hlow hmid <;> first | rfl | omega
  · simp [hi]

theorem slice_slice {xs : List α} {o n p m : ℕ} (h : p + m ≤ n) :
    slice (slice xs o n) p m = slice xs (o + p) m := by
  apply List.ext_getElem?
  intro i
  simp only [getElem?_slice]
  by_cases hi : i < m
  · rw [if_pos hi, if_pos hi, if_pos (by omega), Nat.add_assoc]
  · simp [hi]

theorem slice_append_slice (xs : List α) (o n m : ℕ) :
    slice xs o n ++ slice xs (o + n) m = slice xs o (n + m) := by
  simp only [slice, ← List.drop_drop, List.take_add]

theorem slice_append_left {xs ys : List α} {o n : ℕ} (h : o + n ≤ xs.length) :
    slice (xs ++ ys) o n = slice xs o n := by
  apply List.ext_getElem?
  intro i
  simp only [getElem?_slice]
  by_cases hi : i < n
  · rw [if_pos hi, if_pos hi, List.getElem?_append_left (by omega)]
  · simp [hi]

theorem slice_append_right {xs ys : List α} {o n : ℕ} (h : xs.length ≤ o) :
    slice (xs ++ ys) o n = slice ys (o - xs.length) n := by
  apply List.ext_getElem?
  intro i
  simp only [getElem?_slice]
  by_cases hi : i < n
  · rw [if_pos hi, if_pos hi, List.getElem?_append_right (by omega)]
    congr 1
    omega
  · simp [hi]

theorem length_splice_eq_max {xs ys : List α} {off : ℕ} (h : off ≤ xs.length) :
    (splice xs off ys).length = max xs.length (off + ys.length) := by
  simp only [splice, List.length_append, List.length_take, List.length_drop]
  omega

/-- Overwriting with a concatenation is overwriting with its parts one after the other. -/
theorem splice_append {xs : List α} {off : ℕ} (ys zs : List α) (h : off ≤ xs.length) :
    splice xs off (ys ++ zs) = splice (splice xs off ys) (off + ys.length) zs := by
  have hlen : (splice xs off ys).length = max xs.length (off + ys.length) :=
    length_splice_eq_max h
  apply List.ext_getElem?
  intro i
  rw [getElem?_splice h, getElem?_splice (by omega), getElem?_splice h]
  simp only [List.length_append]
  split_ifs <;> first | rfl | omega | skip
  · rw [List.getElem?_append_left (by omega)]
  · rw [List.getElem?_append_right (by omega)]
    congr 1
    omega

/-- Overwriting with what is already there changes nothing, and only that does. -/
theorem splice_eq_self_iff {xs ys : List α} {off : ℕ} (h : off + ys.length ≤ xs.length) :
    splice xs off ys = xs ↔ slice xs off ys.length = ys := by
  constructor
  · intro he
    have hself := slice_splice_self (by omega : off ≤ xs.length) ys
    rwa [he] at hself
  · intro he
    apply List.ext_getElem?
    intro i
    rw [getElem?_splice (by omega)]
    split_ifs with hlow hmid
    · rfl
    · conv_lhs => rw [← he]
      rw [getElem?_slice, if_pos (by omega)]
      congr 1
      omega
    · rfl

/-- Reading a range of which only the beginning was overwritten. -/
theorem slice_splice_take {xs ys : List α} {off n : ℕ} (hin : off + ys.length ≤ xs.length)
    (hn : n ≤ ys.length) (k : ℕ) :
    slice (splice xs off (ys.take k)) off n = (ys.take n).take k ++ (slice xs off n).drop k := by
  have hlen : (slice xs off n).length = n := length_slice_of_le (by omega)
  rcases Nat.le_total k n with hle | hle
  · have htake : (ys.take k).length = k := List.length_take_of_le (by omega)
    have hhead : slice (splice xs off (ys.take k)) off k = ys.take k := by
      conv_lhs => arg 3; rw [← htake]
      exact slice_splice_self (by omega) _
    have htail : slice (splice xs off (ys.take k)) (off + k) (n - k) = slice xs (off + k) (n - k) :=
      slice_splice_of_disjoint (by omega) (Or.inr (by omega))
    have hdrop : (slice xs off n).drop k = slice xs (off + k) (n - k) := by
      rw [slice, slice, List.drop_take, List.drop_drop]
    conv_lhs => rw [← Nat.add_sub_cancel' hle]
    rw [← slice_append_slice, hhead, htail, hdrop, List.take_take, Nat.min_eq_left hle]
  · have htake : (ys.take k).take n = ys.take n := by
      rw [List.take_take, Nat.min_eq_left hle]
    have hself := slice_splice_self (show off ≤ xs.length by omega) (ys.take k)
    have hlong : n ≤ (ys.take k).length := by
      rw [List.length_take]
      omega
    have hpart : slice (slice (splice xs off (ys.take k)) off (ys.take k).length) 0 n =
        slice (splice xs off (ys.take k)) (off + 0) n := slice_slice (by omega)
    rw [hself, Nat.add_zero] at hpart
    rw [← hpart, slice, List.drop_zero, htake, List.drop_of_length_le (by omega), List.append_nil,
      List.take_take, Nat.min_eq_right hle]

/-- Overwriting what stands behind a given start. -/
theorem splice_append_drop {start xs ys : List α} {off : ℕ} (h : start.length = off) :
    splice (start ++ xs.drop off) off ys = start ++ ys ++ xs.drop (off + ys.length) := by
  rw [splice, List.take_left' h, List.drop_append, h, List.drop_eq_nil_of_le (by omega),
    List.nil_append, List.drop_drop, Nat.add_sub_cancel_left]

theorem set_eq_splice {xs : List α} {i : ℕ} (h : i < xs.length) (a : α) :
    xs.set i a = splice xs i [a] := by
  rw [List.set_eq_take_append_cons_drop, if_pos h, splice, List.append_assoc,
    List.singleton_append, List.length_singleton]

end Oxhide.ListSplice
