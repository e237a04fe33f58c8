import Oxhide.ListSplice
import Mathlib.Tactic.Ring
import Mathlib.Tactic.Linarith

/-! # Block-by-block rewriting of a list

`mapBlocks w f n xs` is the loop that replaces block `i` of `xs`, the entries
from `i * w` on, by `f i` of it, for `i = 0, …, n - 1`. When `f` keeps the block
width the blocks do not interact: `slice_mapBlocks` says what each block
becomes, and `ext_blocks` turns that into equality of whole lists. -/
namespace Oxhide.ListBlocks
open ListSplice

variable {α : Type*}

def mapBlocks (w : ℕ) (f : ℕ → List α → List α) : ℕ → List α → List α
  | 0, xs => xs
  | n + 1, xs =>
    splice (mapBlocks w f n xs) (n * w) (f n (slice (mapBlocks w f n xs) (n * w) w))

/-- Each `f i` sends a block of width `w` to a block of width `w`. -/
def KeepsWidth (w : ℕ) (f : ℕ → List α → List α) : Prop :=
  ∀ i blk, blk.length = w → (f i blk).length = w

theorem KeepsWidth.comp {w : ℕ} {f g : ℕ → List α → List α} (hf : KeepsWidth w f)
    (hg : KeepsWidth w g) : KeepsWidth w (fun i blk => f i (g i blk)) :=
  fun i blk h => hf i _ (hg i blk h)

theorem KeepsWidth.shift {w : ℕ} {f : ℕ → List α → List α} (hf : KeepsWidth w f) (k : ℕ) :
    KeepsWidth w (fun i => f (k + i)) :=
  fun i blk h => hf (k + i) blk h

private theorem block_end {i n w l : ℕ} (hi : i < n) (h : n * w ≤ l) : i * w + w ≤ l := by
  have hle : (i + 1) * w ≤ n * w := Nat.mul_le_mul_right w hi
  rw [Nat.add_mul, Nat.one_mul] at hle
  exact hle.trans h

@[simp] theorem mapBlocks_zero (w : ℕ) (f : ℕ → List α → List α) (xs : List α) :
    mapBlocks w f 0 xs = xs := rfl

theorem mapBlocks_congr {w n : ℕ} {f g : ℕ → List α → List α} (h : ∀ i < n, f i = g i)
    (xs : List α) : mapBlocks w f n xs = mapBlocks w g n xs := by
  induction n with
  | zero => rfl
  | succ n ih => rw [mapBlocks, mapBlocks, ih fun i hi => h i (by omega), h n (by omega)]

theorem length_mapBlocks {w : ℕ} {f : ℕ → List α → List α} (hf : KeepsWidth w f) {n : ℕ}
    {xs : List α} (h : n * w ≤ xs.length) : (mapBlocks w f n xs).length = xs.length := by
  induction n with
  | zero => rfl
  | succ n ih =>
    have hend := block_end (Nat.lt_succ_self n) h
    have hlen := ih (by omega)
    have hblk : (f n (slice (mapBlocks w f n xs) (n * w) w)).length = w :=
      hf n _ (length_slice_of_le (by omega))
    rw [mapBlocks, length_splice (by omega), hlen]

/-- Nothing past the last rewritten block changes. -/
theorem slice_mapBlocks_of_le {w : ℕ} {f : ℕ → List α → List α} (hf : KeepsWidth w f) {n : ℕ}
    {xs : List α} (h : n * w ≤ xs.length) {o m : ℕ} (ho : n * w ≤ o) :
    slice (mapBlocks w f n xs) o m = slice xs o m := by
  induction n with
  | zero => rfl
  | succ n ih =>
    have hend := block_end (Nat.lt_succ_self n) h
    have hnext : (n + 1) * w = n * w + w := by ring
    have hlen := length_mapBlocks hf (show n * w ≤ xs.length by omega)
    have hblk : (f n (slice (mapBlocks w f n xs) (n * w) w)).length = w :=
      hf n _ (length_slice_of_le (by omega))
    rw [mapBlocks, slice_splice_of_disjoint (by omega) (Or.inr (by omega)), ih (by omega) (by omega)]

/-- Block `i` becomes `f i` of what it was. -/
theorem slice_mapBlocks {w : ℕ} {f : ℕ → List α → List α} (hf : KeepsWidth w f) {n : ℕ}
    {xs : List α} (h : n * w ≤ xs.length) {i : ℕ} (hi : i < n) :
    slice (mapBlocks w f n xs) (i * w) w = f i (slice xs (i * w) w) := by
  induction n with
  | zero => omega
  | succ n ih =>
    have hend := block_end (Nat.lt_succ_self n) h
    have hlen := length_mapBlocks hf (show n * w ≤ xs.length by omega)
    have hsame : slice (mapBlocks w f n xs) (n * w) w = slice xs (n * w) w :=
      slice_mapBlocks_of_le hf (by omega) le_rfl
    have hblk : (f n (slice xs (n * w) w)).length = w := hf n _ (length_slice_of_le (by omega))
    rw [mapBlocks, hsame]
    rcases Nat.lt_succ_iff_lt_or_eq.mp hi with hlt | rfl
    · have hbelow := block_end hlt (le_refl (n * w))
      rw [slice_splice_of_disjoint (by omega) (Or.inl hbelow), ih (by omega) hlt]
    · conv_lhs => arg 3; rw [← hblk]
      exact slice_splice_self (by omega) _

/-- Entry `i` sits in block `i / w`. -/
theorem getElem?_mapBlocks {w : ℕ} {f : ℕ → List α → List α} (hf : KeepsWidth w f) {n : ℕ}
    {xs : List α} (h : n * w ≤ xs.length) {i : ℕ} (hi : i < n * w) :
    (mapBlocks w f n xs)[i]? = (f (i / w) (slice xs (i / w * w) w))[i % w]? := by
  have hw : 0 < w := Nat.pos_of_ne_zero fun h0 => by simp [h0] at hi
  have hblock : i / w < n := (Nat.div_lt_iff_lt_mul hw).mpr hi
  have hpos : i / w * w + i % w = i := Nat.div_add_mod' i w
  rw [← slice_mapBlocks hf h hblock, getElem?_slice, if_pos (Nat.mod_lt i hw), hpos]

/-- Two lists are equal when their first `n` blocks and their tails are. -/
theorem ext_blocks {w n : ℕ} {xs ys : List α}
    (hblocks : ∀ i < n, slice xs (i * w) w = slice ys (i * w) w)
    (htail : slice xs (n * w) xs.length = slice ys (n * w) ys.length) : xs = ys := by
  have hhead (k : ℕ) (hk : k ≤ n) : slice xs 0 (k * w) = slice ys 0 (k * w) := by
    induction k with
    | zero => simp
    | succ k ih =>
      have hx := slice_append_slice xs 0 (k * w) w
      have hy := slice_append_slice ys 0 (k * w) w
      rw [Nat.zero_add] at hx hy
      rw [Nat.add_mul, Nat.one_mul, ← hx, ← hy, ih (by omega), hblocks k (by omega)]
  have hx := slice_append_slice xs 0 (n * w) xs.length
  have hy := slice_append_slice ys 0 (n * w) ys.length
  rw [Nat.zero_add, slice_all (n := n * w + xs.length) (by omega)] at hx
  rw [Nat.zero_add, slice_all (n := n * w + ys.length) (by omega)] at hy
  rw [← hx, ← hy, hhead n le_rfl, htail]

/-- Two block rewritings of one list agree exactly when they agree on every block. -/
theorem mapBlocks_eq_iff {w : ℕ} {f g : ℕ → List α → List α} (hf : KeepsWidth w f)
    (hg : KeepsWidth w g) {n : ℕ} {xs : List α} (h : n * w ≤ xs.length) :
    mapBlocks w f n xs = mapBlocks w g n xs ↔
      ∀ i < n, f i (slice xs (i * w) w) = g i (slice xs (i * w) w) := by
  constructor
  · intro he i hi
    rw [← slice_mapBlocks hf h hi, ← slice_mapBlocks hg h hi, he]
  · intro he
    have hlf := length_mapBlocks hf h
    have hlg := length_mapBlocks hg h
    apply ext_blocks (w := w) (n := n)
    · intro i hi
      rw [slice_mapBlocks hf h hi, slice_mapBlocks hg h hi, he i hi]
    · rw [slice_mapBlocks_of_le hf h le_rfl, slice_mapBlocks_of_le hg h le_rfl, hlf, hlg]

theorem mapBlocks_eq_self {w : ℕ} {f : ℕ → List α → List α} (hf : KeepsWidth w f) {n : ℕ}
    {xs : List α} (h : n * w ≤ xs.length)
    (hid : ∀ i < n, f i (slice xs (i * w) w) = slice xs (i * w) w) : mapBlocks w f n xs = xs := by
  have hlen := length_mapBlocks hf h
  apply ext_blocks (w := w) (n := n)
  · intro i hi
    rw [slice_mapBlocks hf h hi, hid i hi]
  · rw [slice_mapBlocks_of_le hf h le_rfl, hlen]

/-- Two passes over the blocks are one pass of the composition. -/
theorem mapBlocks_mapBlocks {w : ℕ} {f g : ℕ → List α → List α} (hf : KeepsWidth w f)
    (hg : KeepsWidth w g) {n : ℕ} {xs : List α} (h : n * w ≤ xs.length) :
    mapBlocks w f n (mapBlocks w g n xs) = mapBlocks w (fun i blk => f i (g i blk)) n xs := by
  have hlg := length_mapBlocks hg h
  have hlf := length_mapBlocks hf (show n * w ≤ (mapBlocks w g n xs).length by omega)
  have hlc := length_mapBlocks (hf.comp hg) h
  apply ext_blocks (w := w) (n := n)
  · intro i hi
    rw [slice_mapBlocks hf (by omega) hi, slice_mapBlocks hg h hi,
      slice_mapBlocks (hf.comp hg) h hi]
  · rw [slice_mapBlocks_of_le hf (by omega) le_rfl, slice_mapBlocks_of_le hg h le_rfl,
      slice_mapBlocks_of_le (hf.comp hg) h le_rfl, hlf, hlg, hlc]

/-- A pass over a concatenation is one pass over each part, the second counting on. -/
theorem mapBlocks_append {w : ℕ} {f : ℕ → List α → List α} (hf : KeepsWidth w f) {n m : ℕ}
    {xs ys : List α} (hxs : xs.length = n * w) (hys : m * w ≤ ys.length) :
    mapBlocks w f (n + m) (xs ++ ys) =
      mapBlocks w f n xs ++ mapBlocks w (fun i => f (n + i)) m ys := by
  have hsum : (n + m) * w = n * w + m * w := by ring
  have hwhole : (n + m) * w ≤ (xs ++ ys).length := by
    rw [List.length_append]
    omega
  have hl := length_mapBlocks hf hwhole
  have hlx := length_mapBlocks hf (show n * w ≤ xs.length by omega)
  have hly := length_mapBlocks (hf.shift n) hys
  rw [List.length_append] at hl
  have hlen : (mapBlocks w f (n + m) (xs ++ ys)).length =
      (mapBlocks w f n xs ++ mapBlocks w (fun i => f (n + i)) m ys).length := by
    rw [List.length_append]
    omega
  apply ext_blocks (w := w) (n := n + m)
  · intro i hi
    rw [slice_mapBlocks hf hwhole hi]
    rcases Nat.lt_or_ge i n with hlt | hge
    · have hend := block_end hlt (le_refl (n * w))
      rw [slice_append_left (by omega), slice_append_left (by omega),
        slice_mapBlocks hf (by omega) hlt]
    · obtain ⟨k, rfl⟩ := Nat.exists_eq_add_of_le hge
      have hpos : (n + k) * w = n * w + k * w := by ring
      have hrest : (n + k) * w - xs.length = k * w := by omega
      have hrest' : (n + k) * w - (mapBlocks w f n xs).length = k * w := by omega
      rw [slice_append_right (by omega), slice_append_right (by omega), hrest, hrest',
        slice_mapBlocks (hf.shift n) hys (by omega)]
  · rw [slice_mapBlocks_of_le hf hwhole le_rfl, slice_append_right (by omega),
      slice_append_right (by omega), ← hlen, hl, hlx, hxs, hsum, Nat.add_sub_cancel_left,
      slice_mapBlocks_of_le (hf.shift n) hys le_rfl]

end Oxhide.ListBlocks
