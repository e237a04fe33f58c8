import Oxhide.WordBytes

/-! # Big-endian fields in a row

A record of fixed-width fields, each given by its width and value, and the bytes
it becomes. A field is read back from the offset that the widths before it add up
to, and overwriting it there changes that field only. -/
namespace Oxhide.FieldBytes
open ListSplice WordBytes

def fieldsBytes (fs : List (ℕ × ℕ)) : Bytes := fs.flatMap fun f => beBytes f.1 f.2

def fieldOffset (fs : List (ℕ × ℕ)) (i : ℕ) : ℕ := ((fs.take i).map Prod.fst).sum

theorem length_fieldsBytes (fs : List (ℕ × ℕ)) :
    (fieldsBytes fs).length = (fs.map Prod.fst).sum := by
  simp [fieldsBytes, List.length_flatMap]

private theorem fieldsBytes_split {fs : List (ℕ × ℕ)} {i w v : ℕ} (h : fs[i]? = some (w, v)) :
    fieldsBytes fs = fieldsBytes (fs.take i) ++ (beBytes w v ++ fieldsBytes (fs.drop (i + 1))) := by
  obtain ⟨hi, hget⟩ := List.getElem?_eq_some_iff.mp h
  have hsplit : fs = fs.take i ++ (w, v) :: fs.drop (i + 1) := by
    rw [← hget, List.getElem_cons_drop, List.take_append_drop]
  conv_lhs => rw [hsplit]
  simp [fieldsBytes]

theorem slice_fieldsBytes {fs : List (ℕ × ℕ)} {i w v : ℕ} (h : fs[i]? = some (w, v))
    (rest : Bytes) : slice (fieldsBytes fs ++ rest) (fieldOffset fs i) w = beBytes w v := by
  have hoffset : (fieldsBytes (fs.take i)).length = fieldOffset fs i := length_fieldsBytes _
  rw [fieldsBytes_split h, List.append_assoc, slice_append_right (by omega), hoffset, Nat.sub_self,
    List.append_assoc, slice_append_left (by simp)]
  exact slice_all (by simp)

/-- Overwriting one field in place. -/
theorem splice_fieldsBytes {fs : List (ℕ × ℕ)} {i w u : ℕ} (h : fs[i]? = some (w, u)) (v : ℕ)
    (rest : Bytes) :
    splice (fieldsBytes fs ++ rest) (fieldOffset fs i) (beBytes w v) =
      fieldsBytes (fs.set i (w, v)) ++ rest := by
  obtain ⟨hi, -⟩ := List.getElem?_eq_some_iff.mp h
  have hset : (fs.set i (w, v))[i]? = some (w, v) := by simp [hi]
  have hoffset : (fieldsBytes (fs.take i)).length = fieldOffset fs i := length_fieldsBytes _
  rw [fieldsBytes_split h, fieldsBytes_split hset, List.take_set_of_le le_rfl,
    List.drop_set_of_lt (Nat.lt_succ_self i), splice]
  simp [← hoffset]

/-- The value zero is a run of zero bytes. -/
theorem beBytes_zero (n : ℕ) : beBytes n 0 = List.replicate n 0 := by
  rw [beBytes, leBytes_zero, List.reverse_replicate]

/-- The fields of the given widths that stand in `bs` from `off` on. -/
def readFields (bs : Bytes) : ℕ → List ℕ → List (ℕ × ℕ)
  | _, [] => []
  | off, w :: ws => (w, ofBeBytes (slice bs off w)) :: readFields bs (off + w) ws

/-- Writing the fields back gives the bytes that they were read from. -/
theorem fieldsBytes_readFields {bs : Bytes} {off : ℕ} {ws : List ℕ}
    (h : off + ws.sum ≤ bs.length) : fieldsBytes (readFields bs off ws) = slice bs off ws.sum := by
  induction ws generalizing off with
  | nil => simp [readFields, fieldsBytes]
  | cons w ws ih =>
    rw [List.sum_cons] at h ⊢
    have hlen : (slice bs off w).length = w := length_slice_of_le (by omega)
    have hback := beBytes_ofBeBytes (slice bs off w)
    rw [hlen] at hback
    rw [readFields, fieldsBytes, List.flatMap_cons, ← fieldsBytes, ih (by omega), hback,
      slice_append_slice]

end Oxhide.FieldBytes
