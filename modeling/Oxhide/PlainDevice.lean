import Mathlib.Data.List.Basic

/-! # A device that stores what is written to it

A device shows one entry at each position. `store` lays data over it and keeps
every other position; `overlayAt` does the same to a range that was read
earlier. The two agree: `Shows.overlay`. -/
namespace Oxhide.PlainDevice

variable {α : Type*}

abbrev Device (α : Type*) := ℕ → Option α

/-- The device after `data` was written at `v`. -/
def Device.store (d : Device α) (v : ℕ) (data : List α) : Device α := fun i =>
  if v ≤ i ∧ i < v + data.length then data[i - v]? else d i

/-- `xs` is what the device holds from position `o` on. -/
def Shows (d : Device α) (o : ℕ) (xs : List α) : Prop := ∀ k < xs.length, xs[k]? = d (o + k)

/-- `before`, read at `o`, with `data` laid over it at position `v` of the device. -/
def overlayAt (o : ℕ) (before : List α) (v : ℕ) (data : List α) : List α :=
  before.mapIdx fun k b => if v ≤ o + k then (data[o + k - v]?).getD b else b

@[simp] theorem length_overlayAt (o : ℕ) (before : List α) (v : ℕ) (data : List α) :
    (overlayAt o before v data).length = before.length := by
  simp [overlayAt]

/-- A read after a store shows the overlay of the read before it. -/
theorem Shows.overlay {d : Device α} {o : ℕ} {before : List α} (h : Shows d o before) (v : ℕ)
    (data : List α) : Shows (d.store v data) o (overlayAt o before v data) := by
  intro k hk
  rw [length_overlayAt] at hk
  have hbefore := h k hk
  rw [List.getElem?_eq_getElem hk] at hbefore
  rw [overlayAt, List.getElem?_mapIdx, List.getElem?_eq_getElem hk, Option.map_some,
    Device.store]
  by_cases hlow : v ≤ o + k
  · rw [if_pos hlow]
    by_cases hhigh : o + k < v + data.length
    · rw [if_pos ⟨hlow, hhigh⟩, List.getElem?_eq_getElem (by omega), Option.getD_some]
    · rw [if_neg fun h => hhigh h.2, List.getElem?_eq_none (by omega), Option.getD_none, hbefore]
  · rw [if_neg hlow, if_neg fun h => hlow h.1, hbefore]

theorem Shows.unique {d : Device α} {o : ℕ} {xs ys : List α} (hx : Shows d o xs)
    (hy : Shows d o ys) (hlen : xs.length = ys.length) : xs = ys := by
  apply List.ext_getElem?
  intro k
  by_cases hk : k < xs.length
  · rw [hx k hk, hy k (by omega)]
  · rw [List.getElem?_eq_none (by omega), List.getElem?_eq_none (by omega)]

theorem Shows.congr {d d' : Device α} {o : ℕ} {xs : List α} (h : Shows d o xs)
    (hd : ∀ k < xs.length, d (o + k) = d' (o + k)) : Shows d' o xs :=
  fun k hk => (h k hk).trans (hd k hk)

end Oxhide.PlainDevice
