import Oxhide.Crc32

/-! # Short bursts change a CRC-32

A step of the register is linear over exclusive or and loses nothing. Up to four
bytes are therefore taken in as one word, so two inputs that differ in a window
of that length only, and equal bytes around it, leave different registers. -/
namespace Oxhide.CrcBursts
open Crc32 ListSplice WordBytes

section Register

private theorem toNat_and_one (x : UInt32) : (x &&& 1).toNat = x.toNat % 2 := by
  rw [UInt32.toNat_and]
  exact Nat.and_one_is_mod x.toNat

private theorem toNat_shiftRight_one (x : UInt32) : (x >>> 1).toNat = x.toNat / 2 := by
  rw [UInt32.toNat_shiftRight]
  simp [Nat.shiftRight_eq_div_pow]

private theorem and_one_eq (x : UInt32) : x &&& 1 = 0 ∨ x &&& 1 = 1 := by
  cases Nat.mod_two_eq_zero_or_one x.toNat with
  | inl h => exact Or.inl (UInt32.toNat.inj ((toNat_and_one x).trans h))
  | inr h => exact Or.inr (UInt32.toNat.inj ((toNat_and_one x).trans h))

theorem xor_xor_xor_cancel (a b p : UInt32) : a ^^^ p ^^^ (b ^^^ p) = a ^^^ b := by
  rw [UInt32.xor_assoc, UInt32.xor_comm b p, ← UInt32.xor_assoc p, UInt32.xor_self,
    UInt32.zero_xor]

theorem crcStep_xor (x y : UInt32) : crcStep (x ^^^ y) = crcStep x ^^^ crcStep y := by
  have hlow : (x ^^^ y) &&& 1 = (x &&& 1) ^^^ (y &&& 1) := by
    apply UInt32.toBitVec_inj.mp
    ext i hi
    simp [Bool.and_xor_distrib_right]
  have hshift : (x ^^^ y) >>> 1 = (x >>> 1) ^^^ (y >>> 1) := by
    apply UInt32.toBitVec_inj.mp
    simp [BitVec.ushiftRight_xor_distrib]
  rw [crcStep, crcStep, crcStep, hlow, hshift]
  cases and_one_eq x with
  | inl hx =>
    cases and_one_eq y with
    | inl hy => simp [hx, hy]
    | inr hy => simp [hx, hy, UInt32.xor_assoc]
  | inr hx =>
    cases and_one_eq y with
    | inl hy =>
      simp only [hx, hy, UInt32.xor_zero, if_true]
      rw [if_neg (by decide), UInt32.xor_assoc, UInt32.xor_comm (y >>> 1), UInt32.xor_assoc]
    | inr hy => simp [hx, hy, xor_xor_xor_cancel]

/-- The polynomial has its top bit set, which no shifted register has. -/
theorem crcStep_eq_zero {x : UInt32} (h : crcStep x = 0) : x = 0 := by
  have hlow := toNat_and_one x
  have hhalf := toNat_shiftRight_one x
  rw [crcStep] at h
  split_ifs at h with hodd
  · have hpoly : x >>> 1 = 0xEDB88320 := UInt32.xor_eq_zero_iff.mp h
    have hvalue := congrArg UInt32.toNat hpoly
    have hx := x.toNat_lt
    rw [hhalf] at hvalue
    simp at hvalue
    omega
  · have heven := (and_one_eq x).resolve_right hodd
    rw [heven] at hlow
    rw [h] at hhalf
    apply UInt32.toNat.inj
    simp at hlow hhalf ⊢
    omega

theorem crcStep_injective : Function.Injective crcStep := by
  intro x y h
  have hzero : crcStep (x ^^^ y) = 0 := by
    rw [crcStep_xor, h, UInt32.xor_self]
  exact UInt32.xor_eq_zero_iff.mp (crcStep_eq_zero hzero)

theorem iterate_crcStep_xor (n : ℕ) (x y : UInt32) :
    crcStep^[n] (x ^^^ y) = crcStep^[n] x ^^^ crcStep^[n] y := by
  induction n generalizing x y with
  | zero => rfl
  | succ n ih => rw [Function.iterate_succ_apply, crcStep_xor, ih]; rfl

/-- The low zeros of a register are shifted out before the polynomial takes part. -/
theorem iterate_crcStep_mul_two_pow (n m : ℕ) (h : 2 ^ n * m < 2 ^ 32) :
    crcStep^[n] (UInt32.ofNat (2 ^ n * m)) = UInt32.ofNat m := by
  induction n with
  | zero => simp
  | succ n ih =>
    have hdouble : 2 ^ (n + 1) * m = 2 * (2 ^ n * m) := by ring
    rw [hdouble] at h ⊢
    have hvalue : (UInt32.ofNat (2 * (2 ^ n * m))).toNat = 2 * (2 ^ n * m) := by
      rw [UInt32.toNat_ofNat', Nat.mod_eq_of_lt h]
    have hlow : UInt32.ofNat (2 * (2 ^ n * m)) &&& 1 ≠ 1 := by
      intro hodd
      have hbit := toNat_and_one (UInt32.ofNat (2 * (2 ^ n * m)))
      rw [hodd, hvalue] at hbit
      simp at hbit
    have hhalf : UInt32.ofNat (2 * (2 ^ n * m)) >>> 1 = UInt32.ofNat (2 ^ n * m) := by
      apply UInt32.toNat.inj
      rw [toNat_shiftRight_one, hvalue, UInt32.toNat_ofNat', Nat.mod_eq_of_lt (by omega)]
      omega
    rw [Function.iterate_succ_apply, crcStep, if_neg hlow, hhalf]
    exact ih (by omega)

end Register

section Bytes
variable {bs cs : Bytes}

theorem crcUpdate_injective (b : UInt8) : Function.Injective (crcUpdate · b) := by
  intro x y h
  have hxor := crcStep_injective.iterate 8 h
  exact (UInt32.xor_left_inj _).mp hxor

theorem foldl_crcUpdate_injective (bs : Bytes) :
    Function.Injective fun crc => bs.foldl crcUpdate crc := by
  induction bs with
  | nil => exact fun _ _ h => h
  | cons b bs ih =>
    intro x y h
    exact crcUpdate_injective b (ih h)

private theorem ofLeBytes_lt_word (h : bs.length ≤ 4) : ofLeBytes bs < 2 ^ 32 :=
  (ofLeBytes_lt bs).trans_le (Nat.pow_le_pow_right (n := 256) (by decide) h)

/-- A byte in front of a word of three bytes does not overlap it. -/
private theorem toUInt32_xor_word (b : UInt8) (h : ofLeBytes (b :: bs) < 2 ^ 32) :
    b.toUInt32 ^^^ UInt32.ofNat (2 ^ 8 * ofLeBytes bs) = UInt32.ofNat (ofLeBytes (b :: bs)) := by
  have hb : b.toNat < 2 ^ 8 := b.toNat_lt
  have hsplit : ofLeBytes (b :: bs) = 2 ^ 8 * ofLeBytes bs + b.toNat := by
    change b.toNat + 256 * ofLeBytes bs = _
    ring
  apply UInt32.toNat.inj
  rw [UInt32.toNat_xor, UInt32.toNat_ofNat', UInt32.toNat_ofNat', Nat.mod_eq_of_lt h,
    Nat.mod_eq_of_lt (by omega), hsplit, UInt8.toNat_toUInt32]
  apply Nat.eq_of_testBit_eq
  intro i
  rw [Nat.testBit_xor, Nat.testBit_two_pow_mul_add _ hb, Nat.testBit_two_pow_mul]
  by_cases hi : i < 8
  · simp [hi, Nat.not_le.mpr hi]
  · have hzero : b.toNat.testBit i = false :=
      Nat.testBit_lt_two_pow (hb.trans_le (Nat.pow_le_pow_right (by decide) (by omega)))
    simp [hi, hzero, Nat.not_lt.mp hi]

/-- Up to four bytes are taken in as one word. -/
theorem foldl_crcUpdate_eq (crc : UInt32) (h : bs.length ≤ 4) :
    bs.foldl crcUpdate crc =
      crcStep^[8 * bs.length] (crc ^^^ UInt32.ofNat (ofLeBytes bs)) := by
  induction bs generalizing crc with
  | nil => simp [ofLeBytes]
  | cons b bs ih =>
    rw [List.length_cons] at h
    have hword : ofLeBytes (b :: bs) < 2 ^ 32 := ofLeBytes_lt_word h
    have hsplit : ofLeBytes (b :: bs) = b.toNat + 2 ^ 8 * ofLeBytes bs := rfl
    have htail : UInt32.ofNat (ofLeBytes bs) =
        crcStep^[8] (UInt32.ofNat (2 ^ 8 * ofLeBytes bs)) :=
      (iterate_crcStep_mul_two_pow 8 _ (by omega)).symm
    rw [List.foldl_cons, ih _ (by omega), crcUpdate, htail, ← iterate_crcStep_xor,
      ← Function.iterate_add_apply, UInt32.xor_assoc, toUInt32_xor_word b hword, List.length_cons]
    congr 1

/-- Two windows of at most four bytes leave different registers. -/
theorem foldl_crcUpdate_ne (crc : UInt32) (hlen : bs.length = cs.length) (h : bs.length ≤ 4)
    (hne : bs ≠ cs) : bs.foldl crcUpdate crc ≠ cs.foldl crcUpdate crc := by
  intro heq
  rw [foldl_crcUpdate_eq crc h, foldl_crcUpdate_eq crc (hlen ▸ h), ← hlen] at heq
  have hxor := crcStep_injective.iterate _ heq
  have hword : UInt32.ofNat (ofLeBytes bs) = UInt32.ofNat (ofLeBytes cs) :=
    (UInt32.xor_right_inj _).mp hxor
  have hvalue := congrArg UInt32.toNat hword
  rw [UInt32.toNat_ofNat', UInt32.toNat_ofNat', Nat.mod_eq_of_lt (ofLeBytes_lt_word h),
    Nat.mod_eq_of_lt (ofLeBytes_lt_word (hlen ▸ h))] at hvalue
  apply hne
  rw [← leBytes_ofLeBytes bs, hvalue, hlen, leBytes_ofLeBytes]

end Bytes

section Bursts

/-- The two byte strings have one length and differ, but only at the `n` positions from
`off` on. -/
structure DiffersWithin (bs cs : Bytes) (off n : ℕ) : Prop where
  length_eq : cs.length = bs.length
  agree : ∀ i, i < off ∨ off + n ≤ i → cs[i]? = bs[i]?
  ne : cs ≠ bs

variable {bs cs : Bytes} {off n : ℕ}

namespace DiffersWithin

/-- A range beside the burst reads the same. -/
theorem slice_eq_of_disjoint (h : DiffersWithin bs cs off n) {o m : ℕ}
    (hd : o + m ≤ off ∨ off + n ≤ o) :
    slice cs o m = slice bs o m := by
  apply List.ext_getElem?
  intro i
  rw [getElem?_slice, getElem?_slice]
  by_cases hi : i < m
  · rw [if_pos hi, if_pos hi, h.agree (o + i) (by omega)]
  · rw [if_neg hi, if_neg hi]

/-- A range around the burst differs, within the burst. -/
theorem window (lo : ℕ) {off : ℕ} (h : DiffersWithin bs cs (lo + off) n) {m : ℕ}
    (hin : off + n ≤ m) : DiffersWithin (slice bs lo m) (slice cs lo m) off n where
  length_eq := by
    rw [length_slice, length_slice, h.length_eq]
  agree i hi := by
    rw [getElem?_slice, getElem?_slice, h.agree (lo + i) (by omega)]
  ne := by
    intro heq
    apply h.ne
    apply List.ext_getElem?
    intro i
    by_cases hi : lo ≤ i ∧ i < lo + m
    · have hread := congrArg (·[i - lo]?) heq
      simp only [getElem?_slice] at hread
      rw [if_pos (by omega), if_pos (by omega), Nat.add_sub_cancel' hi.1] at hread
      exact hread
    · exact h.agree i (by omega)

end DiffersWithin

/-- A burst of at most four bytes changes the checksum. -/
theorem crc32_ne (h : DiffersWithin bs cs off n) (hn : n ≤ 4) : crc32 cs ≠ crc32 bs := by
  have hsplit (xs : Bytes) :
      xs = xs.take off ++ (slice xs off n ++ xs.drop (off + n)) := by
    rw [slice, ← List.drop_drop, List.take_append_drop, List.take_append_drop]
  have htake : cs.take off = bs.take off := by
    simpa [slice] using h.slice_eq_of_disjoint (Or.inl (Nat.zero_add off).le)
  have hdrop : cs.drop (off + n) = bs.drop (off + n) := by
    apply List.ext_getElem?
    intro i
    rw [List.getElem?_drop, List.getElem?_drop, h.agree _ (by omega)]
  have hwindow : DiffersWithin (slice bs off n) (slice cs off n) 0 n :=
    h.window off (Nat.zero_add n).le
  intro heq
  rw [crc32, crc32, hsplit cs, hsplit bs, htake, hdrop, List.foldl_append, List.foldl_append,
    List.foldl_append, List.foldl_append] at heq
  have hregister := foldl_crcUpdate_injective _ ((UInt32.xor_left_inj _).mp heq)
  refine foldl_crcUpdate_ne _ hwindow.length_eq ?_ hwindow.ne hregister
  rw [length_slice]
  omega

end Bursts

end Oxhide.CrcBursts
