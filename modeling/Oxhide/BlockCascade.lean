import Oxhide.CipherChain

/-! # The cascade of block ciphers

`CascadeCipher` builds the ciphers of a cascade in the order the name of the mode lists
them, the first one with the first 32 bytes of the key. The volumes follow
`veracrypt_order`, which gives the first key to the cipher named last: the two have the
same ciphers in opposite orders, for every mode. -/
namespace Oxhide.BlockCascade
open BlockCiphers CipherChain CipherTypes InPlaceBuffer ListSplice WordBytes

/-- The ciphers as `create_ciphers` pushes them. -/
def creationOrder : CascadeMode → List CipherKind
  | .aesTwofish => [.aes, .twofish]
  | .aesTwofishSerpent => [.aes, .twofish, .serpent]
  | .serpentAes => [.serpent, .aes]
  | .serpentTwofishAes => [.serpent, .twofish, .aes]
  | .twofishSerpent => [.twofish, .serpent]
  | .camelliaKuznyechik => [.camellia, .kuznyechik]
  | .camelliaSerpent => [.camellia, .serpent]
  | .kuznyechikAes => [.kuznyechik, .aes]
  | .kuznyechikSerpentCamellia => [.kuznyechik, .serpent, .camellia]
  | .kuznyechikTwofish => [.kuznyechik, .twofish]

/-- Every cipher takes the next 32 bytes of the key. -/
def pushCiphers (key : Bytes) : List CipherKind → ℕ → Except CryptoError (List BlockCipher)
  | [], _ => return []
  | kind :: kinds, offset => do
    let cipher ← BlockCipher.new kind (slice key offset 32)
    let ciphers ← pushCiphers key kinds (offset + 32)
    return cipher :: ciphers

def createCiphers (mode : CascadeMode) (key : Bytes) : Except CryptoError (List BlockCipher) :=
  pushCiphers key (creationOrder mode) 0

structure CascadeCipher where
  mode : CascadeMode
  ciphers : List BlockCipher

namespace CascadeCipher

def blockSize : ℕ := 16

def new (mode : CascadeMode) (key : Bytes) : Except CryptoError CascadeCipher :=
  if key.length ≠ mode.keySize then
    .error (.invalidKeySize mode.keySize key.length)
  else do
    let ciphers ← createCiphers mode key
    return ⟨mode, ciphers⟩

variable (P : CipherSuite)

def encryptBlock (c : CascadeCipher) : InPlace CryptoError UInt8 := fun block =>
  if block.length ≠ blockSize then (.error (.invalidBlockSize blockSize block.length), block)
  else InPlace.sequence (c.ciphers.map fun cipher => cipher.encryptBlock P) block

def decryptBlock (c : CascadeCipher) : InPlace CryptoError UInt8 := fun block =>
  if block.length ≠ blockSize then (.error (.invalidBlockSize blockSize block.length), block)
  else InPlace.sequence (c.ciphers.reverse.map fun cipher => cipher.decryptBlock P) block

end CascadeCipher

section Passes

/-! A pass is a cipher with its key. -/

abbrev Pass := CipherKind × Bytes

/-- The passes of a cascade whose ciphers take one key after the other. -/
def passesFrom (key : Bytes) : List CipherKind → ℕ → List Pass
  | [], _ => []
  | kind :: kinds, offset => (kind, slice key offset 32) :: passesFrom key kinds (offset + 32)

/-- The passes of `veracrypt_order`, each with the 32 bytes at its offset. -/
def orderPasses (mode : CascadeMode) (key : Bytes) : List Pass :=
  mode.veracryptOrder.filterMap fun pass =>
    match pass.1.shape with
    | .single kind => some (kind, slice key pass.2 32)
    | .cascade _ => none

variable (P : CipherSuite)

def encryptPasses : List Pass → Block → Block := composeAlong fun pass => P.encrypt pass.1 pass.2

def decryptPasses : List Pass → Block → Block := composeAlong fun pass => P.decrypt pass.1 pass.2

variable {P}

theorem map_fst_passesFrom (key : Bytes) (kinds : List CipherKind) (offset : ℕ) :
    (passesFrom key kinds offset).map Prod.fst = kinds := by
  induction kinds generalizing offset with
  | nil => rfl
  | cons kind kinds ih => rw [passesFrom, List.map_cons, ih]

/-- The order table lists the ciphers of the constructor from the last to the first. -/
theorem map_fst_orderPasses (mode : CascadeMode) (key : Bytes) :
    (orderPasses mode key).map Prod.fst = (creationOrder mode).reverse := by
  cases mode <;> rfl

theorem length_creationOrder (mode : CascadeMode) :
    (creationOrder mode).length = mode.cipherCount := by
  cases mode <;> rfl

/-- A key that is long enough gives every cipher its 32 bytes. -/
theorem exists_pushCiphers {key : Bytes} {kinds : List CipherKind} {offset : ℕ}
    (h : offset + kinds.length * 32 ≤ key.length) :
    ∃ ciphers, pushCiphers key kinds offset = .ok ciphers ∧
      ciphers.map (fun cipher => (cipher.kind, cipher.key)) = passesFrom key kinds offset := by
  induction kinds generalizing offset with
  | nil => exact ⟨[], rfl, rfl⟩
  | cons kind kinds ih =>
    rw [List.length_cons] at h
    have hrest : offset + 32 + kinds.length * 32 ≤ key.length := by omega
    obtain ⟨ciphers, hpush, hpasses⟩ := ih hrest
    have hkey : (slice key offset 32).length = 32 := length_slice_of_le (by omega)
    refine ⟨⟨kind, slice key offset 32, hkey⟩ :: ciphers, ?_, ?_⟩
    · rw [pushCiphers, BlockCipher.new_of_length hkey, hpush]
      rfl
    · rw [List.map_cons, hpasses, passesFrom]

theorem exists_new {mode : CascadeMode} {key : Bytes} (h : key.length = mode.keySize) :
    ∃ c, CascadeCipher.new mode key = .ok c ∧
      c.ciphers.map (fun cipher => (cipher.kind, cipher.key)) =
        passesFrom key (creationOrder mode) 0 := by
  have hfits : 0 + (creationOrder mode).length * 32 ≤ key.length := by
    rw [length_creationOrder, h, CascadeMode.keySize, Nat.zero_add]
  obtain ⟨ciphers, hpush, hpasses⟩ := exists_pushCiphers hfits
  refine ⟨⟨mode, ciphers⟩, ?_, hpasses⟩
  rw [CascadeCipher.new, if_neg (not_not.mpr h), createCiphers, hpush]
  rfl

end Passes

section Blocks
variable {P : CipherSuite}

/-- A loop over ciphers maps the one block by the composition of their passes. -/
theorem sequence_onBlock (f : BlockCipher → Block → Block) (ciphers : List BlockCipher)
    {block : Bytes} (h : block.length = 16) :
    InPlace.sequence (ciphers.map fun cipher => BlockCipher.onBlock (f cipher)) block =
      (.ok (), blockBytes (composeAlong f ciphers) block) := by
  induction ciphers generalizing block with
  | nil =>
    have hid : blockBytes (composeAlong f []) block = block := bytesOfBlock_blockOfBytes h
    rw [hid]
    rfl
  | cons cipher ciphers ih =>
    have hfirst : BlockCipher.onBlock (f cipher) block = (.ok (), blockBytes (f cipher) block) :=
      if_neg (not_not.mpr h)
    have hlen : (blockBytes (f cipher) block).length = 16 := length_bytesOfBlock _
    rw [List.map_cons, InPlace.sequence, InPlace.andThen_of_ok hfirst, ih hlen, blockBytes_comp]
    rfl

theorem composeAlong_map {ι κ β : Type*} (f : κ → β → β) (g : ι → κ) (is : List ι) (b : β) :
    composeAlong f (is.map g) b = composeAlong (fun i => f (g i)) is b := by
  induction is generalizing b with
  | nil => rfl
  | cons i is ih => exact ih _

variable {mode : CascadeMode} {key block : Bytes} {c : CascadeCipher} {passes : List Pass}

theorem encryptBlock_eq (hpasses : c.ciphers.map (fun cipher => (cipher.kind, cipher.key)) = passes)
    (h : block.length = 16) :
    c.encryptBlock P block = (.ok (), blockBytes (encryptPasses P passes) block) := by
  have hsize : ¬ block.length ≠ CascadeCipher.blockSize := not_not.mpr h
  rw [CascadeCipher.encryptBlock, if_neg hsize]
  refine (sequence_onBlock (fun cipher => P.encrypt cipher.kind cipher.key) _ h).trans ?_
  congr 2
  funext b
  rw [← hpasses, encryptPasses, composeAlong_map]

theorem decryptBlock_eq (hpasses : c.ciphers.map (fun cipher => (cipher.kind, cipher.key)) = passes)
    (h : block.length = 16) :
    c.decryptBlock P block = (.ok (), blockBytes (decryptPasses P passes.reverse) block) := by
  have hsize : ¬ block.length ≠ CascadeCipher.blockSize := not_not.mpr h
  rw [CascadeCipher.decryptBlock, if_neg hsize]
  refine (sequence_onBlock (fun cipher => P.decrypt cipher.kind cipher.key) _ h).trans ?_
  congr 2
  funext b
  rw [← hpasses, ← List.map_reverse, decryptPasses, composeAlong_map]

theorem decryptPasses_encryptPasses (passes : List Pass) :
    Function.LeftInverse (decryptPasses P passes.reverse) (encryptPasses P passes) :=
  composeAlong_reverse_leftInverse (fun pass : Pass => P.decrypt_encrypt pass.1 pass.2) passes

theorem encryptPasses_decryptPasses (passes : List Pass) :
    Function.LeftInverse (encryptPasses P passes) (decryptPasses P passes.reverse) := by
  have h := composeAlong_reverse_leftInverse
    (fun pass : Pass => P.encrypt_decrypt pass.1 pass.2) passes.reverse
  rwa [List.reverse_reverse] at h

end Blocks

section Cascade
variable (P : CipherSuite) (mode : CascadeMode) (key block : Bytes)

/-- `CascadeCipher::new(mode, key)?.encrypt_block(block)`. -/
def cascadeEncrypt : Except CryptoError Unit × Bytes :=
  match CascadeCipher.new mode key with
  | .ok c => c.encryptBlock P block
  | .error e => (.error e, block)

def cascadeDecrypt : Except CryptoError Unit × Bytes :=
  match CascadeCipher.new mode key with
  | .ok c => c.decryptBlock P block
  | .error e => (.error e, block)

/-- Encryption is the cascade of `veracrypt_order`, and decryption undoes it. -/
structure MatchesVolumes : Prop where
  encrypts : cascadeEncrypt P mode key block =
    (.ok (), blockBytes (encryptPasses P (orderPasses mode key)) block)
  undone : cascadeDecrypt P mode key (cascadeEncrypt P mode key block).2 = (.ok (), block)
  redone : cascadeEncrypt P mode key (cascadeDecrypt P mode key block).2 = (.ok (), block)

variable {P mode key block}

/-- What is computed instead: the ciphers in the order of the name. -/
theorem cascadeEncrypt_eq (hkey : key.length = mode.keySize) (hblock : block.length = 16) :
    cascadeEncrypt P mode key block =
      (.ok (), blockBytes (encryptPasses P (passesFrom key (creationOrder mode) 0)) block) := by
  obtain ⟨c, hnew, hpasses⟩ := exists_new hkey
  rw [cascadeEncrypt, hnew]
  exact encryptBlock_eq hpasses hblock

theorem cascadeDecrypt_eq (hkey : key.length = mode.keySize) (hblock : block.length = 16) :
    cascadeDecrypt P mode key block =
      (.ok (), blockBytes (decryptPasses P (passesFrom key (creationOrder mode) 0).reverse)
        block) := by
  obtain ⟨c, hnew, hpasses⟩ := exists_new hkey
  rw [cascadeDecrypt, hnew]
  exact decryptBlock_eq hpasses hblock

/-- Encryption and decryption are inverse to each other in any case. -/
theorem cascade_inverse (hkey : key.length = mode.keySize) (hblock : block.length = 16) :
    cascadeDecrypt P mode key (cascadeEncrypt P mode key block).2 = (.ok (), block) ∧
      cascadeEncrypt P mode key (cascadeDecrypt P mode key block).2 = (.ok (), block) := by
  have hlen (f : Block → Block) : (blockBytes f block).length = 16 := length_bytesOfBlock _
  rw [cascadeEncrypt_eq hkey hblock, cascadeDecrypt_eq hkey hblock]
  constructor
  · rw [cascadeDecrypt_eq hkey (hlen _),
      blockBytes_of_leftInverse (decryptPasses_encryptPasses _) hblock]
  · rw [cascadeEncrypt_eq hkey (hlen _),
      blockBytes_of_leftInverse (encryptPasses_decryptPasses _) hblock]

end Cascade

section Clash

/-! Two permutations that do not commute anywhere tell the orders apart. -/

/-- The cipher named first adds one, the cipher named last complements. -/
def clash (mode : CascadeMode) (kind : CipherKind) (b : Block) : Block :=
  if (creationOrder mode).head? = some kind then b + 1
  else if (creationOrder mode).getLast? = some kind then ~~~b
  else b

def unclash (mode : CascadeMode) (kind : CipherKind) (b : Block) : Block :=
  if (creationOrder mode).head? = some kind then b - 1
  else if (creationOrder mode).getLast? = some kind then ~~~b
  else b

def clashingSuite (mode : CascadeMode) : CipherSuite where
  encrypt kind _ := clash mode kind
  decrypt kind _ := unclash mode kind
  decrypt_encrypt := by
    intro kind _ b
    rw [clash, unclash]
    split_ifs
    · exact BitVec.add_sub_cancel b 1
    · exact BitVec.not_not
    · rfl
  encrypt_decrypt := by
    intro kind _ b
    rw [clash, unclash]
    split_ifs
    · exact BitVec.sub_add_cancel b 1
    · exact BitVec.not_not
    · rfl

theorem composeAlong_clash (mode : CascadeMode) (b : Block) :
    composeAlong (clash mode) (creationOrder mode) b = ~~~(b + 1) ∧
      composeAlong (clash mode) (creationOrder mode).reverse b = ~~~b + 1 := by
  cases mode <;> exact ⟨rfl, rfl⟩

theorem clash_ne (b : Block) : ~~~(b + 1) ≠ ~~~b + 1 := by
  intro h
  have hval := congrArg BitVec.toNat h
  rw [BitVec.toNat_not, BitVec.toNat_add, BitVec.toNat_add, BitVec.toNat_not] at hval
  have hb := b.isLt
  have hone : (1 : Block).toNat = 1 := rfl
  rw [hone] at hval
  omega

private theorem encryptPasses_clashingSuite (mode : CascadeMode) (passes : List Pass) (b : Block) :
    encryptPasses (clashingSuite mode) passes b =
      composeAlong (clash mode) (passes.map Prod.fst) b := by
  rw [composeAlong_map]
  rfl

private theorem not_matchesVolumes_clashingSuite {mode : CascadeMode} {key block : Bytes}
    (hkey : key.length = mode.keySize) (hblock : block.length = 16) :
    ¬ MatchesVolumes (clashingSuite mode) mode key block := by
  intro hmatches
  have hencrypts := congrArg (fun result => blockOfBytes result.2) hmatches.encrypts
  obtain ⟨hcreation, horder⟩ := composeAlong_clash mode (blockOfBytes block)
  simp only [cascadeEncrypt_eq hkey hblock, blockBytes, blockOfBytes_bytesOfBlock,
    encryptPasses_clashingSuite, map_fst_passesFrom, map_fst_orderPasses, hcreation,
    horder] at hencrypts
  exact clash_ne _ hencrypts

end Clash

/-- For no mode, key and block is the block cascade the one of the volumes, whatever the
single ciphers are. -/
theorem not_matchesVolumes (mode : CascadeMode) (key block : Bytes)
    (hkey : key.length = mode.keySize) (hblock : block.length = 16) :
    ¬ ∀ P, MatchesVolumes P mode key block :=
  fun hall => not_matchesVolumes_clashingSuite hkey hblock (hall (clashingSuite mode))

theorem not_matchesVolumes_zeros :
    ¬ ∀ P, MatchesVolumes P .aesTwofish (List.replicate 64 0) (List.replicate 16 0) :=
  not_matchesVolumes .aesTwofish (List.replicate 64 0) (List.replicate 16 0) rfl rfl

/-- AES and then Twofish against Twofish and then AES, on the zero block. -/
theorem aesTwofish_not_matchesVolumes :
    ¬ MatchesVolumes (clashingSuite .aesTwofish) .aesTwofish (List.replicate 64 0)
      (List.replicate 16 0) :=
  not_matchesVolumes_clashingSuite rfl rfl

end Oxhide.BlockCascade
