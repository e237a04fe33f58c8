import Oxhide.ExceptLists
import Oxhide.Xts

/-! # The passes of a cipher

Whatever builds it, a sector cipher is a list of XTS passes in encryption order.
`cipherChain` cuts the combined key into the keys of the passes: position `i` of
the order uses the same 32 bytes of the data half and of the tweak half. -/
namespace Oxhide.CipherChain
open CipherTypes BlockCiphers ExceptLists InPlaceBuffer ListSplice ListBlocks WordBytes Xts

section Composition

/-! Composition along a list, the first entry applied first. -/

variable {ι β : Type*}

def composeAlong (f : ι → β → β) : List ι → β → β
  | [], b => b
  | i :: is, b => composeAlong f is (f i b)

theorem composeAlong_append (f : ι → β → β) (is js : List ι) (b : β) :
    composeAlong f (is ++ js) b = composeAlong f js (composeAlong f is b) := by
  induction is generalizing b with
  | nil => rfl
  | cons i is ih => exact ih (f i b)

/-- Undoing the entries in reverse order undoes the composition. -/
theorem composeAlong_reverse_leftInverse {f g : ι → β → β}
    (h : ∀ i, Function.LeftInverse (g i) (f i)) (is : List ι) :
    Function.LeftInverse (composeAlong g is.reverse) (composeAlong f is) := by
  intro b
  induction is generalizing b with
  | nil => rfl
  | cons i is ih =>
    have hrest := ih (f i b)
    rw [List.reverse_cons, composeAlong_append]
    simp only [composeAlong, hrest, h i b]

end Composition

section Chain
variable (P : CipherSuite)

def chainEncryptAt (chain : List XtsMode) (s : UInt64) (j : ℕ) : Block → Block :=
  composeAlong (fun xts => xts.encryptBlockAt P s j) chain

def chainDecryptAt (chain : List XtsMode) (s : UInt64) (j : ℕ) : Block → Block :=
  composeAlong (fun xts => xts.decryptBlockAt P s j) chain.reverse

theorem chainDecryptAt_chainEncryptAt (chain : List XtsMode) (s : UInt64) (j : ℕ) :
    Function.LeftInverse (chainDecryptAt P chain s j) (chainEncryptAt P chain s j) :=
  composeAlong_reverse_leftInverse (fun xts => xts.decryptBlockAt_encryptBlockAt P s j) chain

theorem chainEncryptAt_chainDecryptAt (chain : List XtsMode) (s : UInt64) (j : ℕ) :
    Function.LeftInverse (chainEncryptAt P chain s j) (chainDecryptAt P chain s j) := by
  have h := composeAlong_reverse_leftInverse
    (fun xts : XtsMode => xts.encryptBlockAt_decryptBlockAt P s j) chain.reverse
  rwa [List.reverse_reverse] at h

/-- A data unit of `n` blocks as the chain encrypts it. -/
def encryptUnit (chain : List XtsMode) (s : UInt64) (n : ℕ) : Bytes → Bytes :=
  mapBlocks 16 (fun j => blockBytes (chainEncryptAt P chain s j)) n

def decryptUnit (chain : List XtsMode) (s : UInt64) (n : ℕ) : Bytes → Bytes :=
  mapBlocks 16 (fun j => blockBytes (chainDecryptAt P chain s j)) n

variable {P}

theorem length_encryptUnit {chain : List XtsMode} {s : UInt64} {n : ℕ} {data : Bytes}
    (h : data.length = n * 16) : (encryptUnit P chain s n data).length = data.length :=
  length_mapBlocks (keepsWidth_blockBytes _) h.ge

theorem length_decryptUnit {chain : List XtsMode} {s : UInt64} {n : ℕ} {data : Bytes}
    (h : data.length = n * 16) : (decryptUnit P chain s n data).length = data.length :=
  length_mapBlocks (keepsWidth_blockBytes _) h.ge

private theorem unit_leftInverse {f g : ℕ → Block → Block}
    (hfg : ∀ j, Function.LeftInverse (f j) (g j)) {n : ℕ} {data : Bytes}
    (h : data.length = n * 16) :
    mapBlocks 16 (fun j => blockBytes (f j)) n (mapBlocks 16 (fun j => blockBytes (g j)) n data) =
      data := by
  have hf := keepsWidth_blockBytes f
  have hg := keepsWidth_blockBytes g
  rw [mapBlocks_mapBlocks hf hg h.ge]
  apply mapBlocks_eq_self (hf.comp hg) h.ge
  intro i hi
  exact blockBytes_of_leftInverse (hfg i) (length_slice_of_le (by omega))

theorem decryptUnit_encryptUnit {chain : List XtsMode} {s : UInt64} {n : ℕ} {data : Bytes}
    (h : data.length = n * 16) :
    decryptUnit P chain s n (encryptUnit P chain s n data) = data :=
  unit_leftInverse (fun j => chainDecryptAt_chainEncryptAt P chain s j) h

theorem encryptUnit_decryptUnit {chain : List XtsMode} {s : UInt64} {n : ℕ} {data : Bytes}
    (h : data.length = n * 16) :
    encryptUnit P chain s n (decryptUnit P chain s n data) = data :=
  unit_leftInverse (fun j => chainEncryptAt_chainDecryptAt P chain s j) h

private theorem mapBlocks_blockBytes_comp {f g : ℕ → Block → Block} {n : ℕ} {data : Bytes}
    (h : data.length = n * 16) :
    mapBlocks 16 (fun j => blockBytes (f j)) n (mapBlocks 16 (fun j => blockBytes (g j)) n data) =
      mapBlocks 16 (fun j => blockBytes (f j ∘ g j)) n data := by
  rw [mapBlocks_mapBlocks (keepsWidth_blockBytes f) (keepsWidth_blockBytes g) h.ge]
  simp only [blockBytes_comp]

/-- Passes run one after the other map every block by their composition. -/
theorem sequence_eq_mapBlocks {ε ι : Type} {F : ι → ℕ → Block → Block} {n : ℕ}
    {runs : List (InPlace ε UInt8)} {passes : List ι}
    (hruns : List.Forall₂ (fun run x => ∀ data : Bytes, data.length = n * 16 →
      run data = (.ok (), mapBlocks 16 (fun j => blockBytes (F x j)) n data)) runs passes)
    {data : Bytes} (h : data.length = n * 16) :
    InPlace.sequence runs data =
      (.ok (), mapBlocks 16 (fun j => blockBytes (composeAlong (fun x => F x j) passes)) n
        data) := by
  induction hruns generalizing data with
  | nil =>
    have hid := mapBlocks_eq_self (w := 16) (n := n)
      (keepsWidth_blockBytes fun j => composeAlong (fun x : ι => F x j) []) h.ge
      (fun i hi => bytesOfBlock_blockOfBytes (length_slice_of_le (by omega)))
    exact congrArg (Prod.mk _) hid.symm
  | @cons run x runs passes hrun _ ih =>
    have hlen := length_mapBlocks (keepsWidth_blockBytes (F x)) h.ge
    rw [InPlace.sequence, InPlace.andThen_of_ok (hrun data h), ih (hlen.trans h),
      mapBlocks_blockBytes_comp h]
    rfl

/-- Two units in a row, the second applied to the first, are the unit of the longer chain. -/
theorem encryptUnit_append (chain chain' : List XtsMode) (s : UInt64) {n : ℕ} {data : Bytes}
    (h : data.length = n * 16) :
    encryptUnit P chain' s n (encryptUnit P chain s n data) =
      encryptUnit P (chain ++ chain') s n data := by
  rw [encryptUnit, encryptUnit, mapBlocks_blockBytes_comp h, encryptUnit]
  congr 1
  funext j
  congr 1
  funext b
  simp only [chainEncryptAt, composeAlong_append, Function.comp_apply]

theorem decryptUnit_append (chain chain' : List XtsMode) (s : UInt64) {n : ℕ} {data : Bytes}
    (h : data.length = n * 16) :
    decryptUnit P chain s n (decryptUnit P chain' s n data) =
      decryptUnit P (chain ++ chain') s n data := by
  rw [decryptUnit, decryptUnit, mapBlocks_blockBytes_comp h, decryptUnit]
  congr 1
  funext j
  congr 1
  funext b
  simp only [chainDecryptAt, List.reverse_append, composeAlong_append, Function.comp_apply]

/-- A unit of two parts: the blocks of the second part are numbered on. -/
theorem encryptUnit_data_append (chain : List XtsMode) (s : UInt64) {n m : ℕ} {xs ys : Bytes}
    (hxs : xs.length = n * 16) (hys : ys.length = m * 16) :
    encryptUnit P chain s (n + m) (xs ++ ys) = encryptUnit P chain s n xs ++
      mapBlocks 16 (fun j => blockBytes (chainEncryptAt P chain s (n + j))) m ys :=
  mapBlocks_append (keepsWidth_blockBytes _) hxs hys.ge

theorem decryptUnit_data_append (chain : List XtsMode) (s : UInt64) {n m : ℕ} {xs ys : Bytes}
    (hxs : xs.length = n * 16) (hys : ys.length = m * 16) :
    decryptUnit P chain s (n + m) (xs ++ ys) = decryptUnit P chain s n xs ++
      mapBlocks 16 (fun j => blockBytes (chainDecryptAt P chain s (n + j))) m ys :=
  mapBlocks_append (keepsWidth_blockBytes _) hxs hys.ge

end Chain

section Keys

/-- The key of the pass at `offset`, out of the two halves of the combined key. -/
def passKey (key : Bytes) (half offset : ℕ) : Bytes :=
  slice (key.take half) offset 32 ++ slice (key.drop half) offset 32

/-- The XTS instance of one pass; only single ciphers can be passes. -/
def passXts (cipher : CipherType) (key : Bytes) : Except CryptoError XtsMode :=
  match cipher.shape with
  | .single kind => XtsMode.new kind key
  | .cascade _ => .error (.unsupportedCipher cipher.name)

def cipherChain (cipher : CipherType) (key : Bytes) : Except CryptoError (List XtsMode) :=
  match cipher.shape with
  | .single kind => return [← XtsMode.new kind key]
  | .cascade mode =>
    mode.veracryptOrder.mapM fun pass => passXts pass.1 (passKey key mode.keySize pass.2)

theorem length_passKey {key : Bytes} {half offset : ℕ} (h : key.length = half * 2)
    (ho : offset + 32 ≤ half) : (passKey key half offset).length = 64 := by
  have htake : (key.take half).length = half := by rw [List.length_take]; omega
  have hdrop : (key.drop half).length = half := by rw [List.length_drop]; omega
  rw [passKey, List.length_append, length_slice_of_le (by omega), length_slice_of_le (by omega)]

theorem passXts_eq_ok_iff {cipher : CipherType} {key : Bytes} {xts : XtsMode} :
    passXts cipher key = .ok xts ↔
      ∃ kind, cipher.shape = .single kind ∧ XtsMode.new kind key = .ok xts := by
  cases h : cipher.shape <;> simp [passXts, h]

/-- A combined key of the right length gives every pass its key. -/
theorem exists_cipherChain {cipher : CipherType} {key : Bytes}
    (h : key.length = cipher.keySize * 2) : ∃ chain, cipherChain cipher key = .ok chain := by
  cases hshape : cipher.shape with
  | single kind =>
    rw [keySize_of_single hshape] at h
    have hnew : XtsMode.new kind key = _ := XtsMode.new_of_length h
    exact ⟨_, by rw [cipherChain, hshape]; simp only [hnew]; rfl⟩
  | cascade mode =>
    rw [← keySize_of_cascade hshape] at h
    rw [cipherChain, hshape]
    apply exists_mapM_eq_ok
    intro pass hpass
    obtain ⟨⟨kind, hkind⟩, hfit⟩ := veracryptOrder_spec mode hpass
    exact ⟨_, passXts_eq_ok_iff.mpr
      ⟨kind, hkind, XtsMode.new_of_length (length_passKey h hfit)⟩⟩

end Keys

end Oxhide.CipherChain
