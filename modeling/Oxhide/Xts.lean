import Oxhide.BlockCiphers
import Mathlib.Order.Lattice.Nat

/-! # XTS mode

Block `j` of a data unit is encrypted as `E₁(P ⊕ T_j) ⊕ T_j`, where `T_0` is the
encrypted data-unit number and `T_{j+1}` is `T_j` multiplied by `α`. The buffer
routines fill a tweak buffer, mask the data with it, run the block cipher over
the whole buffer and mask again; `encrypt_eq_mapBlocks` and its companions say
that this maps every block separately. -/
namespace Oxhide.Xts
open CipherTypes BlockCiphers InPlaceBuffer ListSplice ListBlocks WordBytes

structure XtsMode where
  cipher1 : BlockCipher
  cipher2 : BlockCipher
  deriving DecidableEq

namespace XtsMode

def new (kind : CipherKind) (key : Bytes) : Except CryptoError XtsMode :=
  let keySize := BlockCipher.keySize
  if key.length ≠ keySize * 2 then
    .error (.invalidKeySize (keySize * 2) key.length)
  else do
    let cipher1 ← BlockCipher.new kind (key.take keySize)
    let cipher2 ← BlockCipher.new kind (key.drop keySize)
    return ⟨cipher1, cipher2⟩

end XtsMode

def validateDataLength (data : Bytes) : Except CryptoError Unit :=
  if data.length < BlockCipher.blockSize then
    .error (.invalidBlockSize BlockCipher.blockSize data.length)
  else if data.length % BlockCipher.blockSize ≠ 0 then
    let size := BlockCipher.blockSize
    let len := data.length
    .error (.invalidDataLength s!"XTS requires data length to be a multiple of {size} (got {len})")
  else
    .ok ()

/-- Multiplication by `α` in GF(2¹²⁸), on the two 64-bit halves of the tweak. -/
def multiplyTweak (tweak : Block) : Block :=
  let low := tweak.extractLsb' 0 64
  let high := tweak.extractLsb' 64 64
  let t0 := low <<< 1
  let t1 := (high <<< 1) ||| (low >>> 63)
  if (high >>> 63) &&& 1 ≠ 0 then t1 ++ (t0 ^^^ 0x87#64) else t1 ++ t0

/-- `data[i] ^= tweaks[i]` over `n` blocks, each read and written as one word. -/
def batchXorBlocks (data tweaks : Bytes) (n : ℕ) : Bytes :=
  mapBlocks 16 (fun i => blockBytes (· ^^^ blockOfBytes (slice tweaks (i * 16) 16))) n data

section Buffers
variable (P : CipherSuite) (xts : XtsMode)

def computeTweak (sectorIndex : UInt64) : Block :=
  P.encrypt xts.cipher2.kind xts.cipher2.key
    (blockOfBytes (leBytes 8 sectorIndex.toNat ++ List.replicate 8 0))

/-- The fill loop after `i` rounds: the running tweak and the buffer. -/
def fillTweaks (t : Block) (tweaks : Bytes) : ℕ → Block × Bytes
  | 0 => (t, tweaks)
  | i + 1 =>
    let (t', tweaks') := fillTweaks t tweaks i
    (multiplyTweak t', splice tweaks' (i * 16) (bytesOfBlock t'))

def precomputeTweaksInto (sectorIndex : UInt64) (n : ℕ) (tweaks : Bytes) : Bytes :=
  (fillTweaks (computeTweak P xts sectorIndex) tweaks n).2

def precomputeTweaks (sectorIndex : UInt64) (n : ℕ) : Bytes :=
  precomputeTweaksInto P xts sectorIndex n (List.replicate (n * 16) 0)

/-- Mask, run the block cipher over the buffer, mask again. -/
def maskedBy (tweaks : Bytes) (n : ℕ) (f : InPlace CryptoError UInt8) :
    InPlace CryptoError UInt8 := fun data =>
  match f (batchXorBlocks data tweaks n) with
  | (.ok (), data') => (.ok (), batchXorBlocks data' tweaks n)
  | (.error e, data') => (.error e, data')

namespace XtsMode

def encrypt (sectorIndex : UInt64) : InPlace CryptoError UInt8 := fun data =>
  match validateDataLength data with
  | .error e => (.error e, data)
  | .ok () =>
    let n := data.length / BlockCipher.blockSize
    maskedBy (precomputeTweaks P xts sectorIndex n) n (xts.cipher1.encryptBlocks P) data

def decrypt (sectorIndex : UInt64) : InPlace CryptoError UInt8 := fun data =>
  match validateDataLength data with
  | .error e => (.error e, data)
  | .ok () =>
    let n := data.length / BlockCipher.blockSize
    maskedBy (precomputeTweaks P xts sectorIndex n) n (xts.cipher1.decryptBlocks P) data

/-- One 512-byte sector, with the tweaks in a stack buffer. The block count is fixed:
a release build does not check that the length is 512. -/
def processSector (sectorIndex : UInt64) (encrypt : Bool) : InPlace CryptoError UInt8 :=
  fun data =>
    match validateDataLength data with
    | .error e => (.error e, data)
    | .ok () =>
      let n := 32
      let tweaks := precomputeTweaksInto P xts sectorIndex n (List.replicate 512 0)
      maskedBy tweaks n
        (if encrypt then xts.cipher1.encryptBlocks P else xts.cipher1.decryptBlocks P) data

/-- Any length, with the tweaks in a buffer of the caller. Both buffers are left behind. -/
def processArbitrary (sectorIndex : UInt64) (encrypt : Bool) (data tweakBuf : Bytes) :
    Except CryptoError Unit × Bytes × Bytes :=
  match validateDataLength data with
  | .error e => (.error e, data, tweakBuf)
  | .ok () =>
    let n := data.length / BlockCipher.blockSize
    let needed := n * BlockCipher.blockSize
    if tweakBuf.length < needed then
      let got := tweakBuf.length
      (.error (.invalidDataLength s!"tweak buffer too small: need {needed}, got {got}"), data,
        tweakBuf)
    else
      let tweaks := precomputeTweaksInto P xts sectorIndex n tweakBuf
      let (result, data) := maskedBy tweaks n
        (if encrypt then xts.cipher1.encryptBlocks P else xts.cipher1.decryptBlocks P) data
      (result, data, tweaks)

end XtsMode

end Buffers

/-! What the buffer routines compute, block by block. -/

section Blockwise
variable (P : CipherSuite) (xts : XtsMode) (s : UInt64)

def tweak (j : ℕ) : Block := multiplyTweak^[j] (computeTweak P xts s)

/-- A block function between two maskings. -/
def masked (f : Block → Block) (t : Block) (b : Block) : Block := f (b ^^^ t) ^^^ t

theorem masked_leftInverse {f g : Block → Block} (h : Function.LeftInverse f g) (t : Block) :
    Function.LeftInverse (masked f t) (masked g t) := by
  intro b
  have hcancel (x : Block) : x ^^^ t ^^^ t = x := by
    rw [BitVec.xor_assoc, BitVec.xor_self, BitVec.xor_zero]
  simp only [masked, hcancel, h (b ^^^ t)]

def XtsMode.encryptBlockAt (j : ℕ) : Block → Block :=
  masked (P.encrypt xts.cipher1.kind xts.cipher1.key) (tweak P xts s j)

def XtsMode.decryptBlockAt (j : ℕ) : Block → Block :=
  masked (P.decrypt xts.cipher1.kind xts.cipher1.key) (tweak P xts s j)

theorem XtsMode.decryptBlockAt_encryptBlockAt (j : ℕ) :
    Function.LeftInverse (xts.decryptBlockAt P s j) (xts.encryptBlockAt P s j) :=
  masked_leftInverse (P.decrypt_encrypt xts.cipher1.kind xts.cipher1.key) _

theorem XtsMode.encryptBlockAt_decryptBlockAt (j : ℕ) :
    Function.LeftInverse (xts.encryptBlockAt P s j) (xts.decryptBlockAt P s j) :=
  masked_leftInverse (P.encrypt_decrypt xts.cipher1.kind xts.cipher1.key) _

/-- The fill loop writes the successive tweaks. -/
theorem fillTweaks_eq (t : Block) (buf : Bytes) (n : ℕ) :
    fillTweaks t buf n =
      (multiplyTweak^[n] t, mapBlocks 16 (fun i _ => bytesOfBlock (multiplyTweak^[i] t)) n buf) := by
  induction n with
  | zero => rfl
  | succ n ih => rw [fillTweaks, ih, Function.iterate_succ_apply', mapBlocks]

theorem slice_precomputeTweaksInto {n : ℕ} {buf : Bytes} (h : n * 16 ≤ buf.length) {i : ℕ}
    (hi : i < n) :
    slice (precomputeTweaksInto P xts s n buf) (i * 16) 16 = bytesOfBlock (tweak P xts s i) := by
  rw [precomputeTweaksInto, fillTweaks_eq, slice_mapBlocks (fun _ _ _ => by simp) h hi, tweak]

variable {P xts s}

theorem batchXorBlocks_eq {n : ℕ} {buf : Bytes} (h : n * 16 ≤ buf.length) (data : Bytes) :
    batchXorBlocks data (precomputeTweaksInto P xts s n buf) n =
      mapBlocks 16 (fun i => blockBytes (· ^^^ tweak P xts s i)) n data := by
  apply mapBlocks_congr
  intro i hi
  rw [slice_precomputeTweaksInto P xts s h hi, blockOfBytes_bytesOfBlock]

/-- Masking, a block function over the buffer and masking again act block by block. -/
theorem maskedBy_eq_mapBlocks (c : BlockCipher) (f : Block → Block) {n : ℕ} {buf data : Bytes}
    (hbuf : n * 16 ≤ buf.length) (hdata : data.length = n * 16) :
    maskedBy (precomputeTweaksInto P xts s n buf) n (c.onBlocks (BlockCipher.onBlock f)) data =
      (.ok (), mapBlocks 16 (fun j => blockBytes (masked f (tweak P xts s j))) n data) := by
  have hk1 := keepsWidth_blockBytes fun i => (· ^^^ tweak P xts s i)
  have hk2 := keepsWidth_blockBytes fun _ => f
  have hfit : n * 16 ≤ data.length := by omega
  have hlen := length_mapBlocks hk1 hfit
  rw [maskedBy, batchXorBlocks_eq hbuf, c.onBlocks_eq_mapBlocks f (hlen.trans hdata)]
  simp only
  rw [batchXorBlocks_eq hbuf, mapBlocks_mapBlocks hk2 hk1 hfit,
    mapBlocks_mapBlocks hk1 (hk2.comp hk1) hfit]
  simp only [blockBytes_comp]
  rfl

private theorem validateDataLength_of_blocks {n : ℕ} (hn : 0 < n) {data : Bytes}
    (h : data.length = n * 16) : validateDataLength data = .ok () := by
  have hmod : data.length % 16 = 0 := by omega
  simp [validateDataLength, BlockCipher.blockSize, hmod, show ¬ data.length < 16 by omega]

theorem XtsMode.encrypt_eq_mapBlocks {n : ℕ} (hn : 0 < n) {data : Bytes}
    (h : data.length = n * 16) :
    xts.encrypt P s data =
      (.ok (), mapBlocks 16 (fun j => blockBytes (xts.encryptBlockAt P s j)) n data) := by
  have hblocks : data.length / BlockCipher.blockSize = n := by simp [BlockCipher.blockSize, h]
  simp only [encrypt, validateDataLength_of_blocks hn h, hblocks]
  exact maskedBy_eq_mapBlocks _ _ (by simp) h

theorem XtsMode.decrypt_eq_mapBlocks {n : ℕ} (hn : 0 < n) {data : Bytes}
    (h : data.length = n * 16) :
    xts.decrypt P s data =
      (.ok (), mapBlocks 16 (fun j => blockBytes (xts.decryptBlockAt P s j)) n data) := by
  have hblocks : data.length / BlockCipher.blockSize = n := by simp [BlockCipher.blockSize, h]
  simp only [decrypt, validateDataLength_of_blocks hn h, hblocks]
  exact maskedBy_eq_mapBlocks _ _ (by simp) h

/-- On one sector the stack-buffer routine agrees with the heap-buffer ones. -/
theorem XtsMode.processSector_eq {data : Bytes} (h : data.length = 512) (enc : Bool) :
    xts.processSector P s enc data = if enc then xts.encrypt P s data else xts.decrypt P s data := by
  have hv := validateDataLength_of_blocks (n := 32) (by omega) h
  cases enc
  · simp only [Bool.false_eq_true, if_false]
    rw [decrypt_eq_mapBlocks (n := 32) (by omega) h]
    simp only [processSector, hv, Bool.false_eq_true, if_false]
    exact maskedBy_eq_mapBlocks _ _ (by rw [List.length_replicate]) h
  · simp only [if_true]
    rw [encrypt_eq_mapBlocks (n := 32) (by omega) h]
    simp only [processSector, hv, if_true]
    exact maskedBy_eq_mapBlocks _ _ (by rw [List.length_replicate]) h

/-- A tweak buffer of the caller, as long as it is large enough, makes no difference. -/
theorem XtsMode.processArbitrary_eq {n : ℕ} (hn : 0 < n) {data tweakBuf : Bytes}
    (h : data.length = n * 16) (hbuf : n * 16 ≤ tweakBuf.length) (enc : Bool) :
    ∃ out, (if enc then xts.encrypt P s data else xts.decrypt P s data) = (.ok (), out) ∧
      xts.processArbitrary P s enc data tweakBuf =
        (.ok (), out, precomputeTweaksInto P xts s n tweakBuf) := by
  have hv := validateDataLength_of_blocks hn h
  have hblocks : data.length / 16 = n := by omega
  have hroom : ¬ tweakBuf.length < n * 16 := not_lt.mpr hbuf
  cases enc
  · refine ⟨_, by rw [if_neg Bool.false_ne_true, decrypt_eq_mapBlocks hn h], ?_⟩
    simp only [processArbitrary, hv, BlockCipher.blockSize, hblocks, hroom, if_false,
      Bool.false_eq_true]
    exact congrArg (fun run => (run.1, run.2, precomputeTweaksInto P xts s n tweakBuf))
      (maskedBy_eq_mapBlocks xts.cipher1 (P.decrypt xts.cipher1.kind xts.cipher1.key) hbuf h)
  · refine ⟨_, by rw [if_pos rfl, encrypt_eq_mapBlocks hn h], ?_⟩
    simp only [processArbitrary, hv, BlockCipher.blockSize, hblocks, hroom, if_false, if_true]
    exact congrArg (fun run => (run.1, run.2, precomputeTweaksInto P xts s n tweakBuf))
      (maskedBy_eq_mapBlocks xts.cipher1 (P.encrypt xts.cipher1.kind xts.cipher1.key) hbuf h)

/-- Whatever is not a positive number of whole blocks is refused. -/
theorem exists_validateDataLength_error {data : Bytes}
    (h : ¬ (0 < data.length ∧ 16 ∣ data.length)) : ∃ e, validateDataLength data = .error e := by
  rw [validateDataLength]
  split
  · exact ⟨_, rfl⟩
  · next hlong =>
    rw [if_pos]
    · exact ⟨_, rfl⟩
    · intro hmod
      exact h ⟨lt_of_lt_of_le (by decide) (not_lt.mp hlong), Nat.dvd_of_mod_eq_zero hmod⟩

end Blockwise

/-! The constructor splits a key of 64 bytes in the middle. -/

theorem XtsMode.new_of_length {kind : CipherKind} {key : Bytes} (h : key.length = 64) :
    XtsMode.new kind key =
      .ok ⟨⟨kind, key.take 32, by simp [h]⟩, ⟨kind, key.drop 32, by simp [h]⟩⟩ := by
  have h1 : (key.take 32).length = 32 := by simp [h]
  have h2 : (key.drop 32).length = 32 := by simp [h]
  simp only [new, BlockCipher.keySize, h, ne_eq, not_true_eq_false, if_false,
    BlockCipher.new_of_length h1, BlockCipher.new_of_length h2]
  rfl

end Oxhide.Xts
