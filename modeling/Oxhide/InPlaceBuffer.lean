import Oxhide.ListBlocks

/-! # Fallible in-place rewriting of a buffer

An `InPlace` computation rewrites a buffer and reports success or an error; the
buffer it leaves behind is kept in both cases, because the caller still owns it
after a failure. `forBlocks_eq_mapBlocks` reduces a loop whose body always
succeeds to a pure `mapBlocks`. -/
namespace Oxhide.InPlaceBuffer
open ListSplice ListBlocks

abbrev InPlace (ε α : Type) := List α → Except ε Unit × List α

namespace InPlace

variable {ε ε' α : Type}

def done : InPlace ε α := fun xs => (.ok (), xs)

def fail (e : ε) : InPlace ε α := fun xs => (.error e, xs)

/-- Run `f`, and `g` on what it leaves unless it failed. -/
def andThen (f g : InPlace ε α) : InPlace ε α := fun xs =>
  match f xs with
  | (.ok (), ys) => g ys
  | (.error e, ys) => (.error e, ys)

/-- Run `f` on the `n` entries from `off` on. -/
def within (off n : ℕ) (f : InPlace ε α) : InPlace ε α := fun xs =>
  ((f (slice xs off n)).1, splice xs off (f (slice xs off n)).2)

def mapError (h : ε → ε') (f : InPlace ε α) : InPlace ε' α := fun xs =>
  ((f xs).1.mapError h, (f xs).2)

/-- The loop over blocks `0, …, n - 1` of width `w`, left at the first error. -/
def forBlocks (w : ℕ) (f : ℕ → InPlace ε α) : ℕ → InPlace ε α
  | 0 => done
  | n + 1 => andThen (forBlocks w f n) (within (n * w) w (f n))

/-- Run a list of computations one after the other, stopping at the first error. -/
def sequence : List (InPlace ε α) → InPlace ε α
  | [] => done
  | f :: fs => andThen f (sequence fs)

theorem andThen_of_ok {f g : InPlace ε α} {xs ys : List α} (h : f xs = (.ok (), ys)) :
    andThen f g xs = g ys := by
  simp [andThen, h]

theorem mapError_of_ok {h : ε → ε'} {f : InPlace ε α} {xs ys : List α}
    (hf : f xs = (.ok (), ys)) : mapError h f xs = (.ok (), ys) := by
  simp [mapError, hf, Except.mapError]

theorem within_of_ok {off n : ℕ} {f : InPlace ε α} {xs ys : List α}
    (hf : f (slice xs off n) = (.ok (), ys)) :
    within off n f xs = (.ok (), splice xs off ys) := by
  simp [within, hf]

/-- A loop whose body succeeds on every block of the right width is a pure rewriting. -/
theorem forBlocks_eq_mapBlocks {w : ℕ} {f : ℕ → InPlace ε α} {F : ℕ → List α → List α}
    (hF : KeepsWidth w F) {n : ℕ} {xs : List α} (h : n * w ≤ xs.length)
    (hf : ∀ i < n, ∀ blk, blk.length = w → f i blk = (.ok (), F i blk)) :
    forBlocks w f n xs = (.ok (), mapBlocks w F n xs) := by
  induction n with
  | zero => rfl
  | succ n ih =>
    have hnext : (n + 1) * w = n * w + w := by ring
    have hlen := length_mapBlocks hF (show n * w ≤ xs.length by omega)
    have hloop := ih (by omega) (fun i hi => hf i (by omega))
    have hblk := hf n (by omega) (slice (mapBlocks w F n xs) (n * w) w)
      (length_slice_of_le (by omega))
    rw [forBlocks, andThen_of_ok hloop, within_of_ok hblk, mapBlocks]

end InPlace

end Oxhide.InPlaceBuffer
