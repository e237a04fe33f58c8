import Oxhide.CipherTypes
import Oxhide.InPlaceBuffer
import Oxhide.WordBytes
import Mathlib.Logic.Equiv.Basic

/-! # Block ciphers on byte buffers

The five ciphers themselves come from external crates and are a parameter: a
family of keyed permutations of 128-bit blocks. Modelled here is what this
program adds, the checks on key and block lengths and the loops over buffers. -/
namespace Oxhide.BlockCiphers
open CipherTypes InPlaceBuffer ListSplice ListBlocks WordBytes

/-- The external ciphers. Under every key decryption and encryption are inverse. -/
structure CipherSuite where
  encrypt : CipherKind → Bytes → Block → Block
  decrypt : CipherKind → Bytes → Block → Block
  decrypt_encrypt : ∀ kind key blk, decrypt kind key (encrypt kind key blk) = blk
  encrypt_decrypt : ∀ kind key blk, encrypt kind key (decrypt kind key blk) = blk

/-- The permutation that exchanges the two blocks of each pair, for pairs without a
block in common. -/
def pairPermutation (pairs : List (Block × Block)) : Equiv.Perm Block :=
  pairs.foldr (fun pair perm => perm.trans (Equiv.swap pair.1 pair.2)) (Equiv.refl Block)

/-- A suite with the given plaintext and ciphertext pairs, under every key. -/
def CipherSuite.ofPairs (pairs : List (Block × Block)) : CipherSuite where
  encrypt _ _ := pairPermutation pairs
  decrypt _ _ := (pairPermutation pairs).symm
  decrypt_encrypt _ _ := (pairPermutation pairs).symm_apply_apply
  encrypt_decrypt _ _ := (pairPermutation pairs).apply_symm_apply

inductive CryptoError where
  | invalidKeySize (expected actual : ℕ)
  | invalidBlockSize (expected actual : ℕ)
  | invalidDataLength (msg : String)
  | cipherInitFailed (msg : String)
  | keyDerivationFailed (msg : String)
  | xtsError (msg : String)
  | unsupportedCipher (msg : String)
  | unsupportedHash (msg : String)
  deriving DecidableEq, Repr

def CryptoError.toText : CryptoError → String
  | .invalidKeySize expected actual => s!"Invalid key size: expected {expected}, got {actual}"
  | .invalidBlockSize expected actual => s!"Invalid block size: expected {expected}, got {actual}"
  | .invalidDataLength msg => s!"Invalid data length: {msg}"
  | .cipherInitFailed msg => s!"Cipher initialization failed: {msg}"
  | .keyDerivationFailed msg => s!"Key derivation failed: {msg}"
  | .xtsError msg => s!"XTS mode error: {msg}"
  | .unsupportedCipher msg => s!"Unsupported cipher: {msg}"
  | .unsupportedHash msg => s!"Unsupported hash function: {msg}"

/-- A keyed cipher. The key has passed the length check of the constructor. -/
structure BlockCipher where
  kind : CipherKind
  key : Bytes
  key_length : key.length = 32
  deriving DecidableEq

theorem length_zeroKey : (List.replicate 32 (0 : UInt8)).length = 32 := List.length_replicate

namespace BlockCipher

def blockSize : ℕ := 16

def keySize : ℕ := 32

def new (kind : CipherKind) (key : Bytes) : Except CryptoError BlockCipher :=
  if h : key.length = 32 then .ok ⟨kind, key, h⟩ else .error (.invalidKeySize keySize key.length)

theorem new_of_length {kind : CipherKind} {key : Bytes} (h : key.length = 32) :
    new kind key = .ok ⟨kind, key, h⟩ := by
  simp [new, h]

variable (P : CipherSuite)

/-- Apply a block function to a buffer that must be one block. -/
def onBlock (f : Block → Block) : InPlace CryptoError UInt8 := fun block =>
  if block.length ≠ blockSize then (.error (.invalidBlockSize blockSize block.length), block)
  else (.ok (), bytesOfBlock (f (blockOfBytes block)))

def encryptBlock (c : BlockCipher) : InPlace CryptoError UInt8 := onBlock (P.encrypt c.kind c.key)

def decryptBlock (c : BlockCipher) : InPlace CryptoError UInt8 := onBlock (P.decrypt c.kind c.key)

/-- The buffer loop. Twofish keeps the default of the trait, which also visits a
short last chunk; the other ciphers override it with a loop over whole blocks. -/
def onBlocks (c : BlockCipher) (f : InPlace CryptoError UInt8) : InPlace CryptoError UInt8 :=
  fun data =>
    match c.kind with
    | .twofish =>
      InPlace.forBlocks blockSize (fun _ => f) ((data.length + (blockSize - 1)) / blockSize) data
    | .aes | .serpent | .camellia | .kuznyechik =>
      InPlace.forBlocks blockSize (fun _ => f) (data.length / blockSize) data

def encryptBlocks (c : BlockCipher) : InPlace CryptoError UInt8 := c.onBlocks (c.encryptBlock P)

def decryptBlocks (c : BlockCipher) : InPlace CryptoError UInt8 := c.onBlocks (c.decryptBlock P)

end BlockCipher

/-- A block function on the sixteen bytes of a block. -/
def blockBytes (f : Block → Block) (blk : Bytes) : Bytes := bytesOfBlock (f (blockOfBytes blk))

theorem keepsWidth_blockBytes (f : ℕ → Block → Block) :
    KeepsWidth 16 (fun i => blockBytes (f i)) := by
  intro i blk _
  simp [blockBytes]

theorem blockBytes_comp (f g : Block → Block) (blk : Bytes) :
    blockBytes f (blockBytes g blk) = blockBytes (f ∘ g) blk := by
  simp [blockBytes]

theorem blockBytes_of_leftInverse {f g : Block → Block} (h : Function.LeftInverse f g)
    {blk : Bytes} (hlen : blk.length = 16) : blockBytes f (blockBytes g blk) = blk := by
  rw [blockBytes_comp, blockBytes, Function.comp_apply, h, bytesOfBlock_blockOfBytes hlen]

/-- On a whole number of blocks the loop succeeds and maps every block. -/
theorem BlockCipher.onBlocks_eq_mapBlocks (c : BlockCipher) (f : Block → Block) {n : ℕ}
    {data : Bytes} (h : data.length = n * 16) :
    c.onBlocks (BlockCipher.onBlock f) data =
      (.ok (), mapBlocks 16 (fun _ => blockBytes f) n data) := by
  have hround : (n * 16 + 15) / 16 = n := by omega
  have hloop : InPlace.forBlocks 16 (fun _ => BlockCipher.onBlock f) n data =
      (.ok (), mapBlocks 16 (fun _ => blockBytes f) n data) := by
    apply InPlace.forBlocks_eq_mapBlocks (keepsWidth_blockBytes fun _ => f) (by omega)
    intro i _ blk hblk
    simp [BlockCipher.onBlock, BlockCipher.blockSize, blockBytes, hblk]
  cases hkind : c.kind <;>
    simp only [BlockCipher.onBlocks, hkind, BlockCipher.blockSize, h, Nat.add_one_sub_one, hround,
      Nat.mul_div_cancel n (by omega : 0 < 16)] <;> exact hloop

end Oxhide.BlockCiphers
