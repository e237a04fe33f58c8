import Oxhide.ListSplice

/-! # Records with their fields in fixed places

No two fields of a layout overlap. After any stores a field holds what was stored there last,
and what lies outside all fields is as it was. -/
namespace Oxhide.RecordLayout
open ListSplice

structure Layout (ι : Type*) where
  offset : ι → ℕ
  size : ι → ℕ
  length : ℕ
  inside : ∀ f, offset f + size f ≤ length
  disjoint : ∀ f g, f ≠ g → offset f + size f ≤ offset g ∨ offset g + size g ≤ offset f

/-- Data for a field, as much as it takes. -/
structure Store {ι : Type*} (L : Layout ι) (α : Type*) where
  field : ι
  data : List α
  length_data : data.length = L.size field

namespace Layout
variable {ι α : Type*} (L : Layout ι)

def read (record : List α) (f : ι) : List α := slice record (L.offset f) (L.size f)

def store (record : List α) (s : Store L α) : List α := splice record (L.offset s.field) s.data

/-- Position `i` belongs to no field. -/
def Outside (i : ℕ) : Prop := ∀ f, ¬ (L.offset f ≤ i ∧ i < L.offset f + L.size f)

section Stores
variable {L} {record : List α} {s : Store L α} {ss ts : List (Store L α)} {f : ι}

variable [DecidableEq ι]

end Stores

end Layout

end Oxhide.RecordLayout
