import Oxhide.HmacChains
import Oxhide.KeyDerivation
import Oxhide.SliceCopies

/-! # The hand-written PBKDF2 with HMAC-BLAKE2s

The hash is a parameter with outputs of 32 bytes. HMAC and PBKDF2 are written out by hand
in the program, because two versions of the digest interface do not go together; they
compute what the standards say for every length. -/
namespace Oxhide.Pbkdf2Blake2s
open HmacChains KeyDerivation ListSplice SliceCopies WordBytes

structure Blake2s256 where
  digest : Bytes → Bytes
  length_digest (message : Bytes) : (digest message).length = 32

def blockSize : ℕ := 64
def hlen : ℕ := 32

/-- `Vec::resize`. -/
def resize (xs : Bytes) (n : ℕ) (b : UInt8) : Bytes :=
  xs.take n ++ List.replicate (n - xs.length) b

/-- `*t ^= ub` over the zipped buffers. -/
def xorInto (t u : Bytes) : Bytes := List.zipWith (· ^^^ ·) t u ++ t.drop u.length

variable (B : Blake2s256)

/-- The hasher takes its input in two updates. -/
def hmacBlake2s (key data : Bytes) : Bytes :=
  let k := if key.length > blockSize then B.digest key else key
  let k := resize k blockSize 0
  let kIpad := k.map (· ^^^ 0x36)
  let kOpad := k.map (· ^^^ 0x5C)
  let innerHash := B.digest (kIpad ++ data)
  B.digest (kOpad ++ innerHash)

/-- The inner loop, on the current value and the block. -/
def innerLoop (password : Bytes) : ℕ → Bytes × Bytes → Bytes × Bytes
  | 0, (u, tBlock) => (u, tBlock)
  | n + 1, (u, tBlock) =>
    let u := hmacBlake2s B password u
    innerLoop password n (u, xorInto tBlock u)

/-- One pass of the outer loop. -/
def deriveBlock (password salt : Bytes) (iterations blockNum : UInt32) (output : Bytes) :
    Option Bytes := do
  let data := salt ++ beBytes 4 blockNum.toNat
  let u := hmacBlake2s B password data
  let (_, tBlock) := innerLoop B password (iterations.toNat - 1) (u, u)
  let start := (blockNum.toNat - 1) * hlen
  let stop := min (start + hlen) output.length
  let source ← prefixSlice tBlock (stop - start)
  copyInto output start stop source

/-- The outer loop over the blocks `1, …, n`. -/
def deriveBlocks (password salt : Bytes) (iterations : UInt32) (output : Bytes) :
    ℕ → Option Bytes
  | 0 => some output
  | n + 1 => do
    let output ← deriveBlocks password salt iterations output n
    deriveBlock B password salt iterations (UInt32.ofNat (n + 1)) output

def pbkdf2Blake2s (password salt : Bytes) (iterations : UInt32) (output : Bytes) :
    Option Bytes :=
  let nBlocks := (output.length + hlen - 1) / hlen
  deriveBlocks B password salt iterations output (UInt32.ofNat nBlocks).toNat

section Hmac

theorem hmacBlake2s_eq_hmac (key data : Bytes) :
    hmacBlake2s B key data = hmac B.digest 64 key data := by
  have hkey : resize (if key.length > 64 then B.digest key else key) 64 0 =
      blockKey B.digest 64 key := by
    have hle : (if key.length > 64 then B.digest key else key).length ≤ 64 := by
      split_ifs with hlong
      · rw [B.length_digest]
        omega
      · omega
    rw [resize, blockKey, List.take_of_length_le hle]
  rw [hmacBlake2s, hmac, ← hkey]
  rfl

end Hmac

section Blocks
variable (password salt : Bytes)

theorem xorInto_eq_xorBytes {t u : Bytes} (h : t.length = u.length) :
    xorInto t u = xorBytes t u := by
  rw [xorInto, xorBytes, ← h, List.drop_length, List.append_nil]

/-- The inner loop carries the chained value and the exclusive or of the values so far. -/
theorem innerLoop_chain (i n j : ℕ) :
    innerLoop B password n (chainValue (hmac B.digest 64 password) salt i j,
        chainXor (hmac B.digest 64 password) salt i j) =
      (chainValue (hmac B.digest 64 password) salt i (j + n),
        chainXor (hmac B.digest 64 password) salt i (j + n)) := by
  have hlen (m : Bytes) : (hmac B.digest 64 password m).length = 32 := B.length_digest _
  induction n generalizing j with
  | zero => rfl
  | succ n ih =>
    have hstep : hmacBlake2s B password (chainValue (hmac B.digest 64 password) salt i j) =
        chainValue (hmac B.digest 64 password) salt i (j + 1) := hmacBlake2s_eq_hmac B _ _
    have hxor : xorInto (chainXor (hmac B.digest 64 password) salt i j)
          (chainValue (hmac B.digest 64 password) salt i (j + 1)) =
        chainXor (hmac B.digest 64 password) salt i (j + 1) := by
      apply xorInto_eq_xorBytes
      rw [length_chainValue salt hlen]
      exact length_pbkdf2Block salt hlen (j + 1) i
    rw [innerLoop, hstep, hxor, ih, Nat.add_right_comm, Nat.add_assoc]

/-- The block of the standard. -/
def standardBlock (c : ℕ) : ℕ → Bytes := pbkdf2Block (hmac B.digest 64 password) salt c

theorem length_standardBlock (c i : ℕ) : (standardBlock B password salt c i).length = 32 :=
  length_pbkdf2Block salt (fun _ => B.length_digest _) c i

/-- A pass writes the part of its block that the buffer has room for. -/
theorem deriveBlock_eq (iterations : UInt32) {n : ℕ} (hn : n + 1 < 2 ^ 32) {output : Bytes}
    (hroom : n * 32 ≤ output.length) :
    deriveBlock B password salt iterations (UInt32.ofNat (n + 1)) output =
      some (splice output (n * 32) ((standardBlock B password salt iterations.toNat (n + 1)).take
        (output.length - n * 32))) := by
  have hnum : (UInt32.ofNat (n + 1)).toNat = n + 1 := UInt32.toNat_ofNat_of_lt' hn
  have hblock : (innerLoop B password (iterations.toNat - 1)
      (hmacBlake2s B password (salt ++ beBytes 4 (n + 1)),
        hmacBlake2s B password (salt ++ beBytes 4 (n + 1)))).2 =
      standardBlock B password salt iterations.toNat (n + 1) := by
    have hchain := innerLoop_chain B password salt (n + 1) (iterations.toNat - 1) 0
    rw [Nat.zero_add] at hchain
    rw [hmacBlake2s_eq_hmac]
    exact congrArg Prod.snd hchain
  have hwidth := length_standardBlock B password salt iterations.toNat (n + 1)
  have hstop : min (n * 32 + 32) output.length - n * 32 = min 32 (output.length - n * 32) := by
    omega
  have hsource : prefixSlice (standardBlock B password salt iterations.toNat (n + 1))
        (min 32 (output.length - n * 32)) =
      some ((standardBlock B password salt iterations.toNat (n + 1)).take
        (output.length - n * 32)) := by
    rw [prefixSlice_of_le (by rw [hwidth]; exact Nat.min_le_left _ _)]
    congr 1
    rcases Nat.le_total 32 (output.length - n * 32) with hfull | hshort
    · rw [Nat.min_eq_left hfull, List.take_of_length_le hwidth.le,
        List.take_of_length_le (hwidth.le.trans hfull)]
    · rw [Nat.min_eq_right hshort]
  simp only [deriveBlock, hnum, hblock, hlen, Nat.add_sub_cancel, hstop, hsource]
  apply copyInto_of_fits
  · rw [List.length_take, hwidth]
    omega
  · exact Nat.min_le_right _ _

/-- Behind `k` passes the buffer starts with the first `k` blocks. -/
theorem deriveBlocks_eq (iterations : UInt32) (output : Bytes) {k : ℕ} (hk : k < 2 ^ 32)
    (hneeded : k * 32 < output.length + 32) :
    deriveBlocks B password salt iterations output k =
      some ((blocks (standardBlock B password salt iterations.toNat) k).take output.length ++
        output.drop (k * 32)) := by
  induction k with
  | zero => simp [deriveBlocks, blocks]
  | succ k ih =>
    have hroom : k * 32 < output.length := by omega
    have hlen := length_blocks (length_standardBlock B password salt iterations.toNat) k
    have hwidth := length_standardBlock B password salt iterations.toNat (k + 1)
    have hwhole : (blocks (standardBlock B password salt iterations.toNat) k).take output.length =
        blocks (standardBlock B password salt iterations.toNat) k :=
      List.take_of_length_le (by omega)
    have hsame : (blocks (standardBlock B password salt iterations.toNat) k ++
        output.drop (k * 32)).length = output.length := by
      rw [List.length_append, hlen, List.length_drop]
      omega
    have hpass := deriveBlock_eq B password salt iterations hk (hsame.symm ▸ hroom.le)
    rw [hsame] at hpass
    rw [deriveBlocks, ih (by omega) (by omega), hwhole]
    refine hpass.trans (congrArg some ?_)
    have hrest : output.drop (k * 32 + min (output.length - k * 32) 32) =
        output.drop ((k + 1) * 32) := by
      rcases Nat.le_total (output.length - k * 32) 32 with hshort | hfull
      · rw [List.drop_eq_nil_of_le (by omega), List.drop_eq_nil_of_le (by omega)]
      · rw [Nat.min_eq_right hfull, Nat.succ_mul]
    rw [splice_append_drop hlen, List.length_take, hwidth, hrest, blocks, List.take_append, hlen,
      hwhole]

/-- The whole buffer is the derived key of the standard. -/
theorem pbkdf2Blake2s_eq (iterations : UInt32) {output : Bytes}
    (hlen : output.length < 32 * (2 ^ 32 - 1)) :
    pbkdf2Blake2s B password salt iterations output =
      some (pbkdf2 (hmac B.digest 64 password) salt 32 iterations.toNat output.length) := by
  have hcount : (output.length + 32 - 1) / 32 < 2 ^ 32 := by omega
  have hwhole : output.drop ((output.length + 32 - 1) / 32 * 32) = [] :=
    List.drop_eq_nil_of_le (by omega)
  have hrun := deriveBlocks_eq B password salt iterations output hcount (by omega)
  rw [hwhole, List.append_nil] at hrun
  simp only [pbkdf2Blake2s, Pbkdf2Blake2s.hlen, UInt32.toNat_ofNat_of_lt' hcount]
  exact hrun

end Blocks

/-- Everything the standard says about a derivation, and what the opener takes from it: the
bytes of a shorter key are the first bytes of a longer one. -/
structure FollowsStandard (password salt : Bytes) (iterations : UInt32) (n : ℕ) : Prop where
  derives : ∀ output : Bytes, output.length = n →
    pbkdf2Blake2s B password salt iterations output =
      some (pbkdf2 (hmac B.digest 64 password) salt 32 iterations.toNat n)
  length : (pbkdf2 (hmac B.digest 64 password) salt 32 iterations.toNat n).length = n
  shorter : ∀ output : Bytes, output.length ≤ n →
    pbkdf2Blake2s B password salt iterations output =
      some ((pbkdf2 (hmac B.digest 64 password) salt 32 iterations.toNat n).take output.length)

theorem followsStandard (password salt : Bytes) (iterations : UInt32) (n : ℕ)
    (hn : n < 32 * (2 ^ 32 - 1)) :
    FollowsStandard B password salt iterations n := by
  have hblock := length_standardBlock B password salt iterations.toNat
  refine ⟨?_, length_derivedKey hblock (by omega) n, ?_⟩
  · intro output hlen
    rw [pbkdf2Blake2s_eq B password salt iterations (hlen ▸ hn), hlen]
  · intro output hlen
    rw [pbkdf2Blake2s_eq B password salt iterations (hlen.trans_lt hn)]
    exact congrArg some (take_derivedKey hblock (by omega) hlen).symm

/-- A hash for examples: every byte is the exclusive or of the message. -/
def parityHash : Blake2s256 where
  digest message := List.replicate 32 (message.foldl (· ^^^ ·) 0)
  length_digest _ := List.length_replicate

theorem followsStandard_parityHash : FollowsStandard parityHash [0x70] [0x73, 0x61] 1000 192 :=
  followsStandard parityHash [0x70] [0x73, 0x61] 1000 192 (by decide)

section Opener

/-- The hashing libraries with this derivation for BLAKE2s. -/
def withBlake2s (K : KdfLibrary) : KdfLibrary where
  pbkdf2Hmac
    | .blake2s, password, salt, rounds, len =>
      pbkdf2 (hmac B.digest 64 password) salt 32 rounds.toNat len
    | hash, password, salt, rounds, len => K.pbkdf2Hmac hash password salt rounds len
  argon2Params := K.argon2Params
  argon2Hash := K.argon2Hash
  pbkdf2Hmac_length := by
    intro hash password salt rounds len
    cases hash
    case blake2s => exact length_derivedKey (length_standardBlock B password salt _) (by omega) len
    all_goals exact K.pbkdf2Hmac_length
  argon2Hash_length := K.argon2Hash_length

variable (K : KdfLibrary) (password salt : Bytes) (iterations : UInt32)

/-- The library function is the hand-written one, called with a zeroed buffer. -/
theorem pbkdf2Hmac_withBlake2s {n : ℕ} (hn : n < 32 * (2 ^ 32 - 1)) :
    pbkdf2Blake2s B password salt iterations (List.replicate n 0) =
      some ((withBlake2s B K).pbkdf2Hmac .blake2s password salt iterations n) :=
  (followsStandard B password salt iterations n hn).derives _ List.length_replicate

/-- The opener derives one long key; its first bytes are the key that a derivation for the
cipher alone gives. -/
theorem derive_take {key : Bytes} {n : ℕ} (cipher : CipherTypes.CipherType)
    (h : (kdfImpl (withBlake2s B K) .pbkdf2Blake2s).derive password salt iterations n = .ok key)
    (hn : cipher.keySize * 2 ≤ n) :
    (kdfImpl (withBlake2s B K) .pbkdf2Blake2s).derive password salt iterations
      (cipher.keySize * 2) = .ok (key.take (cipher.keySize * 2)) := by
  obtain rfl := Except.ok.inj h
  exact congrArg Except.ok
    (take_derivedKey (length_standardBlock B password salt _) (by omega) hn).symm

end Opener

end Oxhide.Pbkdf2Blake2s
