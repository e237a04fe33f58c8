import Oxhide.ListSplice
import Mathlib.Tactic.Ring
import Mathlib.Tactic.Linarith

/-! # Fixed-width words and their byte images

`leBytes n v` is the little-endian image of `v` in `n` bytes and `beBytes n v`
the big-endian one. Reading back keeps `v` modulo `256 ^ n`, and every byte
list is the image of the number it denotes, so a fixed-width read followed by a
write restores the bytes. -/
namespace Oxhide.WordBytes

abbrev Bytes := List UInt8

def leBytes : ℕ → ℕ → Bytes
  | 0, _ => []
  | n + 1, v => UInt8.ofNat v :: leBytes n (v / 256)

def ofLeBytes (bs : Bytes) : ℕ := bs.foldr (fun b acc => b.toNat + 256 * acc) 0

def beBytes (n v : ℕ) : Bytes := (leBytes n v).reverse

def ofBeBytes (bs : Bytes) : ℕ := ofLeBytes bs.reverse

@[simp] theorem length_leBytes (n v : ℕ) : (leBytes n v).length = n := by
  induction n generalizing v with
  | zero => rfl
  | succ n ih => simp [leBytes, ih]

@[simp] theorem length_beBytes (n v : ℕ) : (beBytes n v).length = n := by
  simp [beBytes]

theorem leBytes_add (m n v : ℕ) : leBytes (m + n) v = leBytes m v ++ leBytes n (v / 256 ^ m) := by
  induction m generalizing v with
  | zero => simp [leBytes]
  | succ m ih =>
    rw [Nat.succ_add, leBytes, ih, leBytes, List.cons_append, Nat.div_div_eq_div_mul, ← pow_succ']

theorem leBytes_zero (n : ℕ) : leBytes n 0 = List.replicate n 0 := by
  induction n with
  | zero => rfl
  | succ n ih => rw [leBytes, Nat.zero_div, ih]; rfl

/-- Bit `i` of the number is in byte `i / 8`. -/
theorem testBit_ofLeBytes (bs : Bytes) (i : ℕ) :
    (ofLeBytes bs).testBit i = (bs.getD (i / 8) 0).toNat.testBit (i % 8) := by
  induction bs generalizing i with
  | nil => simp [ofLeBytes]
  | cons b bs ih =>
    have hb : b.toNat < 2 ^ 8 := b.toNat_lt
    have hsplit : ofLeBytes (b :: bs) = 2 ^ 8 * ofLeBytes bs + b.toNat := by
      change b.toNat + 256 * ofLeBytes bs = _
      ring
    rw [hsplit, Nat.testBit_two_pow_mul_add _ hb]
    by_cases hi : i < 8
    · rw [if_pos hi, Nat.div_eq_of_lt hi, Nat.mod_eq_of_lt hi, List.getD_cons_zero]
    · have hdiv : i / 8 = (i - 8) / 8 + 1 := by omega
      have hmod : i % 8 = (i - 8) % 8 := by omega
      rw [if_neg hi, ih, hdiv, hmod, List.getD_cons_succ]

theorem ofLeBytes_lt (bs : Bytes) : ofLeBytes bs < 256 ^ bs.length := by
  induction bs with
  | nil => simp [ofLeBytes]
  | cons b bs ih =>
    have hb : b.toNat < 256 := b.toNat_lt
    change b.toNat + 256 * ofLeBytes bs < 256 ^ (bs.length + 1)
    rw [pow_succ]
    linarith

/-- Writing `v` in `n` bytes and reading it back keeps `v` modulo `256 ^ n`. -/
theorem ofLeBytes_leBytes (n v : ℕ) : ofLeBytes (leBytes n v) = v % 256 ^ n := by
  induction n generalizing v with
  | zero => simp [leBytes, ofLeBytes, Nat.mod_one]
  | succ n ih =>
    change (UInt8.ofNat v).toNat + 256 * ofLeBytes (leBytes n (v / 256)) = v % 256 ^ (n + 1)
    have hhead : (UInt8.ofNat v).toNat = v % 256 := by simp
    rw [ih, hhead, pow_succ, mul_comm (256 ^ n) 256, Nat.mod_mul]

/-- Every byte list is the image of the number it denotes. -/
theorem leBytes_ofLeBytes (bs : Bytes) : leBytes bs.length (ofLeBytes bs) = bs := by
  induction bs with
  | nil => rfl
  | cons b bs ih =>
    have hb : b.toNat < 256 := b.toNat_lt
    have hhead : UInt8.ofNat (b.toNat + 256 * ofLeBytes bs) = b := by
      apply UInt8.toNat_inj.mp
      simp only [UInt8.toNat_ofNat']
      omega
    have htail : (b.toNat + 256 * ofLeBytes bs) / 256 = ofLeBytes bs := by omega
    change UInt8.ofNat (b.toNat + 256 * ofLeBytes bs) ::
      leBytes bs.length ((b.toNat + 256 * ofLeBytes bs) / 256) = b :: bs
    rw [hhead, htail, ih]

theorem ofBeBytes_beBytes (n v : ℕ) : ofBeBytes (beBytes n v) = v % 256 ^ n := by
  simp [ofBeBytes, beBytes, ofLeBytes_leBytes]

theorem beBytes_ofBeBytes (bs : Bytes) : beBytes bs.length (ofBeBytes bs) = bs := by
  have h := leBytes_ofLeBytes bs.reverse
  rw [List.length_reverse] at h
  simp [ofBeBytes, beBytes, h]

section Words

/-! The widths used by fixed-size integer fields. -/

theorem ofNat_ofBeBytes_beBytes_16 (x : UInt16) :
    UInt16.ofNat (ofBeBytes (beBytes 2 x.toNat)) = x := by
  have h : x.toNat < 2 ^ 16 := x.toNat_lt
  rw [ofBeBytes_beBytes, Nat.mod_eq_of_lt (by simpa using h), UInt16.ofNat_toNat]

theorem ofNat_ofBeBytes_beBytes_32 (x : UInt32) :
    UInt32.ofNat (ofBeBytes (beBytes 4 x.toNat)) = x := by
  have h : x.toNat < 2 ^ 32 := x.toNat_lt
  rw [ofBeBytes_beBytes, Nat.mod_eq_of_lt (by simpa using h), UInt32.ofNat_toNat]

theorem ofNat_ofBeBytes_beBytes_64 (x : UInt64) :
    UInt64.ofNat (ofBeBytes (beBytes 8 x.toNat)) = x := by
  have h : x.toNat < 2 ^ 64 := x.toNat_lt
  rw [ofBeBytes_beBytes, Nat.mod_eq_of_lt (by simpa using h), UInt64.ofNat_toNat]

end Words

section Blocks

/-! A 128-bit block and its sixteen bytes, lowest byte first. -/

abbrev Block := BitVec 128

def blockOfBytes (bs : Bytes) : Block := BitVec.ofNat 128 (ofLeBytes bs)

def bytesOfBlock (b : Block) : Bytes := leBytes 16 b.toNat

@[simp] theorem length_bytesOfBlock (b : Block) : (bytesOfBlock b).length = 16 := by
  simp [bytesOfBlock]

@[simp] theorem blockOfBytes_bytesOfBlock (b : Block) : blockOfBytes (bytesOfBlock b) = b := by
  have hb : b.toNat < 256 ^ 16 := by simpa using b.isLt
  apply BitVec.eq_of_toNat_eq
  rw [blockOfBytes, bytesOfBlock, ofLeBytes_leBytes, Nat.mod_eq_of_lt hb]
  simp

theorem bytesOfBlock_blockOfBytes {bs : Bytes} (h : bs.length = 16) :
    bytesOfBlock (blockOfBytes bs) = bs := by
  have hlt := ofLeBytes_lt bs
  have himage := leBytes_ofLeBytes bs
  rw [h] at hlt himage
  have hval : (blockOfBytes bs).toNat = ofLeBytes bs := by
    rw [blockOfBytes, BitVec.toNat_ofNat, Nat.mod_eq_of_lt (by simpa using hlt)]
  rw [bytesOfBlock, hval, himage]

end Blocks

end Oxhide.WordBytes
