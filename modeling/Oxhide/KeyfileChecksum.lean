import Oxhide.CrcBursts
import Oxhide.KeyfileOrder

/-! # The checksum that keyfiles mix in

The loop starts a digest anew for every byte, with the finalized value of the last
one as its initial value. The digest reflects an initial value and masks a result,
and the two do not cancel: `crc_eq_register_iff` says when a single step meets the
running register, and the first one never does. -/
namespace Oxhide.KeyfileChecksum
open Crc32 CrcBursts KeyfileOrder Keyfiles WordBytes

/-- The register of the running checksum after a prefix of the keyfile. -/
def register (bs : Bytes) : UInt32 := bs.foldl crcUpdate 0xFFFFFFFF

/-- The bytes of a value at four positions of the pool, the highest first. -/
def addValue (pool : Bytes) (pos : ℕ) (value : UInt32) : Bytes :=
  addAt (addAt (addAt (addAt pool pos (value >>> 24).toUInt8) (pos + 1) (value >>> 16).toUInt8)
    (pos + 2) (value >>> 8).toUInt8) (pos + 3) value.toUInt8

/-- The loop after `k` bytes of a single keyfile. -/
def loopState (data : Bytes) (k : ℕ) : Mixing := (data.take k).foldl mixByte ⟨zeroPool, 0, 0⟩

/-- After each byte the register of the prefix is mixed in, at the next positions. -/
def FollowsRegister (data : Bytes) : Prop :=
  ∀ k < data.length,
    (loopState data (k + 1)).crc = register (data.take (k + 1)) ∧
      (loopState data (k + 1)).pool =
        addValue (loopState data k).pool (4 * k) (loopState data (k + 1)).crc

/-- A keyfile within the limit yields the pool of the last state. -/
theorem mixKeyfiles_loopState {data : Bytes} (h : data.length ≤ maxRead) :
    mixKeyfiles zeroPool 0 [.ok data] = .ok (loopState data data.length).pool := by
  rw [loopState, List.take_length, mixKeyfiles, Nat.sub_zero, Nat.min_eq_left h, List.take_length]
  cases data with
  | nil => rfl
  | cons b data => rfl

theorem loopState_succ {data : Bytes} {k : ℕ} (h : k < data.length) :
    loopState data (k + 1) = mixByte (loopState data k) data[k] := by
  rw [loopState, List.take_succ_eq_append_getElem h, List.foldl_append]
  rfl

theorem register_succ {data : Bytes} {k : ℕ} (h : k < data.length) :
    register (data.take (k + 1)) = crcUpdate (register (data.take k)) data[k] := by
  rw [register, List.take_succ_eq_append_getElem h, List.foldl_append]
  rfl

theorem loopState_pos {data : Bytes} {k : ℕ} (h : k ≤ data.length) :
    (loopState data k).pos = 4 * k := by
  induction k with
  | zero => rfl
  | succ k ih =>
    rw [loopState_succ h, mixByte, ih (by omega)]
    ring

/-- The value after a byte is the register exactly when the reflected last value differs
from the last register in the one word that eight steps turn into the final mask. -/
theorem crc_eq_register_iff {data : Bytes} {k : ℕ} (h : k < data.length) :
    (loopState data (k + 1)).crc = register (data.take (k + 1)) ↔
      crcStep^[8] (UInt32.ofBitVec (loopState data k).crc.toBitVec.reverse ^^^
        register (data.take k)) = 0xFFFFFFFF := by
  let reflected := UInt32.ofBitVec (loopState data k).crc.toBitVec.reverse
  let b := data[k].toUInt32
  have hcrc : (loopState data (k + 1)).crc = crcStep^[8] (reflected ^^^ b) ^^^ 0xFFFFFFFF := by
    rw [loopState_succ h]
    rfl
  have hregister : register (data.take (k + 1)) = crcStep^[8] (register (data.take k) ^^^ b) := by
    rw [register_succ h]
    rfl
  have hsum : crcStep^[8] (reflected ^^^ b) ^^^ crcStep^[8] (register (data.take k) ^^^ b) =
      crcStep^[8] (reflected ^^^ register (data.take k)) := by
    rw [← iterate_crcStep_xor, xor_xor_xor_cancel]
  rw [hcrc, hregister, ← hsum]
  constructor
  · intro heq
    rw [← heq, ← UInt32.xor_assoc, UInt32.xor_self, UInt32.zero_xor]
  · intro heq
    rw [← heq, ← UInt32.xor_assoc, UInt32.xor_self, UInt32.zero_xor]

/-- Whatever value a byte yields, its bytes go to the next four positions. -/
theorem loopState_succ_pool {data : Bytes} {k : ℕ} (h : k < data.length) :
    (loopState data (k + 1)).pool =
      addValue (loopState data k).pool (4 * k) (loopState data (k + 1)).crc := by
  rw [← loopState_pos h.le, loopState_succ h]
  rfl

/-- The first value is never the register: nothing was mixed yet, so the word in question
is the initial register itself. -/
theorem first_crc_ne_register {data : Bytes} (h : 0 < data.length) :
    (loopState data 1).crc ≠ register (data.take 1) := by
  intro heq
  have hword : crcStep^[8] (UInt32.ofBitVec (0 : UInt32).toBitVec.reverse ^^^ 0xFFFFFFFF) =
      0xFFFFFFFF := (crc_eq_register_iff h).mp heq
  exact absurd hword (by decide +kernel)

/-- Only the empty keyfile, for which there is nothing to mix, follows the register: for
every other one the placement is right and the first value is wrong. -/
theorem followsRegister_iff (data : Bytes) : FollowsRegister data ↔ data = [] := by
  constructor
  · intro h
    by_contra hne
    have hpos : 0 < data.length := List.length_pos_iff.mpr hne
    exact first_crc_ne_register hpos (h 0 hpos).1
  · intro hnil k hk
    simp [hnil] at hk

/-- A keyfile of one byte, and what the register would have been. -/
theorem oneByte_not_followsRegister :
    register [0x61] = 0x174841BC ∧ (loopState [0x61] 1).crc ≠ 0x174841BC ∧
      ¬ FollowsRegister [0x61] := by
  have hregister : register [0x61] = 0x174841BC := by decide +kernel
  have hne := @first_crc_ne_register [0x61] Nat.one_pos
  refine ⟨hregister, hregister ▸ hne, fun h => hne (h 0 Nat.one_pos).1⟩

end Oxhide.KeyfileChecksum
