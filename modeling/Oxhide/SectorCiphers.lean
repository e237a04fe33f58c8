import Oxhide.CipherChain
import Oxhide.VolumeErrors

/-! # User-mode and kernel sector ciphers

Two separately written implementations turn a cipher type and a combined key
into something that encrypts data units. Both are shown to run the passes of
`cipherChain`; they differ in their errors and in that the kernel one handles
exactly one 512-byte sector at a time. -/
namespace Oxhide.SectorCiphers
open CipherTypes BlockCiphers CipherChain ExceptLists InPlaceBuffer ListSplice ListBlocks
  VolumeErrors WordBytes Xts

section User
variable (P : CipherSuite)

/-- A boxed sector cipher. The passes of a cascade are all single ciphers. -/
inductive SectorCipher where
  | single (xts : XtsMode)
  | cascade (passes : List XtsMode)

def singleEncryptSector (xts : XtsMode) (sector : UInt64) : InPlace VolumeError UInt8 :=
  InPlace.mapError (fun e => let text := e.toText; .cryptoError s!"XTS encrypt: {text}")
    (xts.encrypt P sector)

def singleDecryptSector (xts : XtsMode) (sector : UInt64) : InPlace VolumeError UInt8 :=
  InPlace.mapError (fun e => let text := e.toText; .cryptoError s!"XTS decrypt: {text}")
    (xts.decrypt P sector)

namespace SectorCipher

def encryptSector (sector : UInt64) : SectorCipher → InPlace VolumeError UInt8
  | single xts => singleEncryptSector P xts sector
  | cascade passes =>
    InPlace.sequence (passes.map fun pass => singleEncryptSector P pass sector)

def decryptSector (sector : UInt64) : SectorCipher → InPlace VolumeError UInt8
  | single xts => singleDecryptSector P xts sector
  | cascade passes =>
    InPlace.sequence (passes.reverse.map fun pass => singleDecryptSector P pass sector)

end SectorCipher

def singleXts (kind : CipherKind) (key : Bytes) : Except VolumeError XtsMode :=
  (XtsMode.new kind key).mapError fun e => let text := e.toText; .cryptoError s!"XTS: {text}"

def singlePassXts (cipher : CipherType) (key : Bytes) : Except VolumeError XtsMode :=
  match cipher.shape with
  | .single kind => singleXts kind key
  | .cascade _ =>
    let name := cipher.name
    .error (.unsupported s!"cascade pass must be single cipher, got {name}")

def buildCascadePasses (mode : CascadeMode) (key : Bytes) : Except VolumeError (List XtsMode) :=
  let singleKeyLen := mode.keySize
  if key.length ≠ singleKeyLen * 2 then
    let name := mode.name
    let expected := singleKeyLen * 2
    let got := key.length
    .error (.cryptoError s!"Bad key size for {name}: expected {expected}, got {got}")
  else
    mode.veracryptOrder.mapM fun pass => singlePassXts pass.1 (passKey key singleKeyLen pass.2)

def createSectorCipher (cipher : CipherType) (key : Bytes) : Except VolumeError SectorCipher :=
  match cipher.shape with
  | .single kind => return .single (← singleXts kind key)
  | .cascade mode => return .cascade (← buildCascadePasses mode key)

def SectorCipher.chain : SectorCipher → List XtsMode
  | single xts => [xts]
  | cascade passes => passes

variable {P}

private theorem singleEncryptSector_eq (xts : XtsMode) (sector : UInt64) {n : ℕ} (hn : 0 < n)
    {data : Bytes} (h : data.length = n * 16) :
    singleEncryptSector P xts sector data =
      (.ok (), mapBlocks 16 (fun j => blockBytes (xts.encryptBlockAt P sector j)) n data) :=
  InPlace.mapError_of_ok (xts.encrypt_eq_mapBlocks hn h)

private theorem singleDecryptSector_eq (xts : XtsMode) (sector : UInt64) {n : ℕ} (hn : 0 < n)
    {data : Bytes} (h : data.length = n * 16) :
    singleDecryptSector P xts sector data =
      (.ok (), mapBlocks 16 (fun j => blockBytes (xts.decryptBlockAt P sector j)) n data) :=
  InPlace.mapError_of_ok (xts.decrypt_eq_mapBlocks hn h)

/-- On a whole number of blocks the user-mode cipher runs its chain on one data unit. -/
theorem SectorCipher.encryptSector_eq (cipher : SectorCipher) (sector : UInt64) {n : ℕ}
    (hn : 0 < n) {data : Bytes} (h : data.length = n * 16) :
    cipher.encryptSector P sector data = (.ok (), encryptUnit P cipher.chain sector n data) := by
  cases cipher with
  | single xts => exact singleEncryptSector_eq xts sector hn h
  | cascade passes =>
    have hpass (pass : XtsMode) (data : Bytes) (hdata : data.length = n * 16) :=
      singleEncryptSector_eq (P := P) pass sector hn hdata
    exact sequence_eq_mapBlocks
      (List.forall₂_map_left_iff.mpr (List.forall₂_same.mpr fun pass _ => hpass pass)) h

theorem SectorCipher.decryptSector_eq (cipher : SectorCipher) (sector : UInt64) {n : ℕ}
    (hn : 0 < n) {data : Bytes} (h : data.length = n * 16) :
    cipher.decryptSector P sector data = (.ok (), decryptUnit P cipher.chain sector n data) := by
  cases cipher with
  | single xts => exact singleDecryptSector_eq xts sector hn h
  | cascade passes =>
    have hpass (pass : XtsMode) (data : Bytes) (hdata : data.length = n * 16) :=
      singleDecryptSector_eq (P := P) pass sector hn hdata
    exact sequence_eq_mapBlocks
      (List.forall₂_map_left_iff.mpr (List.forall₂_same.mpr fun pass _ => hpass pass)) h

private theorem sequence_nil_error {f : XtsMode → InPlace VolumeError UInt8}
    (hf : ∀ pass, ∃ e, (f pass []).1 = .error e) {passes : List XtsMode} (h : passes ≠ []) :
    ∃ e, (InPlace.sequence (passes.map f) []).1 = .error e := by
  cases passes with
  | nil => exact absurd rfl h
  | cons pass passes =>
    obtain ⟨e, he⟩ := hf pass
    refine ⟨e, ?_⟩
    rw [List.map_cons, InPlace.sequence, InPlace.andThen]
    cases hrun : f pass [] with
    | mk result out =>
      rw [hrun] at he
      obtain rfl : result = .error e := he
      rfl

/-- An empty buffer is not a whole data unit. -/
theorem SectorCipher.encryptSector_nil (cipher : SectorCipher) (sector : UInt64)
    (h : cipher.chain ≠ []) : ∃ e, (cipher.encryptSector P sector []).1 = .error e := by
  cases cipher with
  | single xts => exact ⟨_, rfl⟩
  | cascade passes => exact sequence_nil_error (fun pass => ⟨_, rfl⟩) h

theorem SectorCipher.decryptSector_nil (cipher : SectorCipher) (sector : UInt64)
    (h : cipher.chain ≠ []) : ∃ e, (cipher.decryptSector P sector []).1 = .error e := by
  cases cipher with
  | single xts => exact ⟨_, rfl⟩
  | cascade passes =>
    exact sequence_nil_error (fun pass => ⟨_, rfl⟩) (List.reverse_ne_nil_iff.mpr h)

private theorem singleXts_eq_ok_iff {kind : CipherKind} {key : Bytes} {xts : XtsMode} :
    singleXts kind key = .ok xts ↔ XtsMode.new kind key = .ok xts := by
  rw [singleXts]
  cases XtsMode.new kind key <;> simp [Except.mapError]

private theorem singlePassXts_eq_ok_iff {cipher : CipherType} {key : Bytes} {xts : XtsMode} :
    singlePassXts cipher key = .ok xts ↔ passXts cipher key = .ok xts := by
  cases h : cipher.shape <;> simp [singlePassXts, passXts, h, singleXts_eq_ok_iff]

/-- A cipher that was built has at least one pass. -/
theorem chain_ne_nil_of_createSectorCipher {cipher : CipherType} {key : Bytes} {sc : SectorCipher}
    (h : createSectorCipher cipher key = .ok sc) : sc.chain ≠ [] := by
  rw [createSectorCipher] at h
  cases hshape : cipher.shape with
  | single kind =>
    rw [hshape] at h
    cases hxts : singleXts kind key with
    | error e =>
      simp only [hxts] at h
      cases h
    | ok xts =>
      simp only [hxts] at h
      obtain rfl := Except.ok.inj h
      exact List.cons_ne_nil xts []
  | cascade mode =>
    rw [hshape] at h
    cases hpasses : buildCascadePasses mode key with
    | error e =>
      simp only [hpasses] at h
      cases h
    | ok passes =>
      simp only [hpasses] at h
      obtain rfl := Except.ok.inj h
      rw [buildCascadePasses] at hpasses
      split at hpasses
      · cases hpasses
      · have hlength := (mapM_eq_ok_iff.mp hpasses).length_eq
        have horder : 0 < mode.veracryptOrder.length := by cases mode <;> decide
        exact List.ne_nil_of_length_pos (hlength ▸ horder)

/-- The user-mode constructor succeeds exactly on keys of the right length, with
the passes of `cipherChain`. -/
theorem createSectorCipher_of_length {cipher : CipherType} {key : Bytes}
    (h : key.length = cipher.keySize * 2) :
    ∃ sc, createSectorCipher cipher key = .ok sc ∧ cipherChain cipher key = .ok sc.chain := by
  obtain ⟨chain, hchain⟩ := exists_cipherChain h
  cases hshape : cipher.shape with
  | single kind =>
    rw [keySize_of_single hshape] at h
    obtain ⟨xts, hnew⟩ : ∃ xts, XtsMode.new kind key = .ok xts := ⟨_, XtsMode.new_of_length h⟩
    refine ⟨.single xts, ?_, ?_⟩
    · rw [createSectorCipher, hshape]
      simp only [singleXts_eq_ok_iff.mpr hnew]
      rfl
    · rw [cipherChain, hshape]
      simp only [hnew]
      rfl
  | cascade mode =>
    rw [← keySize_of_cascade hshape] at h
    refine ⟨.cascade chain, ?_, hchain⟩
    rw [cipherChain, hshape] at hchain
    have hpass (pass : CipherType × ℕ) (xts : XtsMode) :=
      @singlePassXts_eq_ok_iff pass.1 (passKey key mode.keySize pass.2) xts
    have hpasses := (mapM_eq_ok_congr hpass).mpr hchain
    rw [createSectorCipher, hshape]
    simp only [buildCascadePasses, h, ne_eq, not_true_eq_false, if_false, hpasses]
    rfl

end User

section Kernel
variable (P : CipherSuite)

/-- The kernel dispatcher. Its five single variants are one constructor here, because
an `XtsMode` carries the kind of its ciphers. -/
inductive KernelSectorCipher where
  | single (xts : XtsMode)
  | cascade2 (first second : KernelSectorCipher)
  | cascade3 (first second third : KernelSectorCipher)
  deriving DecidableEq

namespace KernelSectorCipher

def encryptSector (sector : UInt64) : KernelSectorCipher → InPlace CryptoError UInt8
  | single xts => xts.processSector P sector true
  | cascade2 first second =>
    InPlace.andThen (encryptSector sector first) (encryptSector sector second)
  | cascade3 first second third =>
    InPlace.andThen (encryptSector sector first)
      (InPlace.andThen (encryptSector sector second) (encryptSector sector third))

def decryptSector (sector : UInt64) : KernelSectorCipher → InPlace CryptoError UInt8
  | single xts => xts.processSector P sector false
  | cascade2 first second =>
    InPlace.andThen (decryptSector sector second) (decryptSector sector first)
  | cascade3 first second third =>
    InPlace.andThen (decryptSector sector third)
      (InPlace.andThen (decryptSector sector second) (decryptSector sector first))

/-- `new` is the constructor that the passes are built with. -/
def buildCascade (new : CipherType → Bytes → Except CryptoError KernelSectorCipher)
    (mode : CascadeMode) (key : Bytes) : Except CryptoError KernelSectorCipher :=
  let singleKeyLen := mode.keySize
  let totalExpected := singleKeyLen * 2
  if key.length ≠ totalExpected then
    .error (.invalidKeySize totalExpected key.length)
  else do
    let xtsPasses ← mode.veracryptOrder.mapM fun pass =>
      new pass.1 (passKey key singleKeyLen pass.2)
    match xtsPasses with
    | [first, second] => .ok (cascade2 first second)
    | [first, second, third] => .ok (cascade3 first second third)
    | _ =>
      let len := xtsPasses.length
      .error (.unsupportedCipher s!"unexpected cascade length: {len}")

/-- The constructor, with at most `depth` nested calls. -/
def newUpTo : ℕ → CipherType → Bytes → Except CryptoError KernelSectorCipher
  | 0, cipher, _ => .error (.unsupportedCipher cipher.name)
  | depth + 1, cipher, key =>
    match cipher.shape with
    | .single kind => return single (← XtsMode.new kind key)
    | .cascade mode => buildCascade (newUpTo depth) mode key

/-- Two calls deep is all: the passes of a cascade are single ciphers. -/
def new (cipher : CipherType) (key : Bytes) : Except CryptoError KernelSectorCipher :=
  newUpTo 2 cipher key

def chain : KernelSectorCipher → List XtsMode
  | single xts => [xts]
  | cascade2 first second => chain first ++ chain second
  | cascade3 first second third => chain first ++ (chain second ++ chain third)

end KernelSectorCipher

private theorem newUpTo_of_single {cipher : CipherType} {kind : CipherKind}
    (h : cipher.shape = .single kind) (depth : ℕ) (key : Bytes) :
    KernelSectorCipher.newUpTo (depth + 1) cipher key =
      (XtsMode.new kind key).map KernelSectorCipher.single := by
  simp only [KernelSectorCipher.newUpTo, h]
  cases XtsMode.new kind key <;> rfl

/-- Allowing more nested calls changes nothing. -/
theorem newUpTo_eq_new (depth : ℕ) (cipher : CipherType) (key : Bytes) :
    KernelSectorCipher.newUpTo (depth + 2) cipher key = KernelSectorCipher.new cipher key := by
  cases h : cipher.shape with
  | single kind => rw [KernelSectorCipher.new, newUpTo_of_single h, newUpTo_of_single h]
  | cascade mode =>
    have hpasses : mode.veracryptOrder.mapM (fun pass =>
          KernelSectorCipher.newUpTo (depth + 1) pass.1 (passKey key mode.keySize pass.2)) =
        mode.veracryptOrder.mapM (fun pass =>
          KernelSectorCipher.newUpTo 1 pass.1 (passKey key mode.keySize pass.2)) := by
      apply mapM_congr
      intro pass hpass
      obtain ⟨⟨kind, hkind⟩, _⟩ := veracryptOrder_spec mode hpass
      rw [newUpTo_of_single hkind, newUpTo_of_single hkind]
    rw [KernelSectorCipher.new, KernelSectorCipher.newUpTo, KernelSectorCipher.newUpTo, h]
    simp only [KernelSectorCipher.buildCascade, hpasses]

/-- The kernel constructor succeeds on keys of the right length, with the passes of
`cipherChain`. -/
theorem KernelSectorCipher.new_of_length {cipher : CipherType} {key : Bytes}
    (h : key.length = cipher.keySize * 2) :
    ∃ kc, KernelSectorCipher.new cipher key = .ok kc ∧ cipherChain cipher key = .ok kc.chain := by
  obtain ⟨chain, hchain⟩ := exists_cipherChain h
  cases hshape : cipher.shape with
  | single kind =>
    rw [keySize_of_single hshape] at h
    obtain ⟨xts, hnew⟩ : ∃ xts, XtsMode.new kind key = .ok xts := ⟨_, XtsMode.new_of_length h⟩
    refine ⟨.single xts, ?_, ?_⟩
    · rw [KernelSectorCipher.new, newUpTo_of_single hshape, hnew]
      rfl
    · rw [cipherChain, hshape]
      simp only [hnew]
      rfl
  | cascade mode =>
    rw [← keySize_of_cascade hshape] at h
    have hlen : chain.length = mode.cipherCount := by
      rw [cipherChain, hshape] at hchain
      rw [← length_veracryptOrder, (mapM_eq_ok_iff.mp hchain).length_eq]
    have hpasses : mode.veracryptOrder.mapM (fun pass =>
          KernelSectorCipher.newUpTo 1 pass.1 (passKey key mode.keySize pass.2)) =
        .ok (chain.map KernelSectorCipher.single) := by
      rw [cipherChain, hshape] at hchain
      rw [mapM_eq_ok_iff, List.forall₂_map_right_iff]
      refine (mapM_eq_ok_iff.mp hchain).imp fun pass xts hxts => ?_
      obtain ⟨kind, hkind, hnew⟩ := passXts_eq_ok_iff.mp hxts
      rw [newUpTo_of_single hkind, hnew]
      rfl
    have hnew : KernelSectorCipher.new cipher key =
        KernelSectorCipher.buildCascade (KernelSectorCipher.newUpTo 1) mode key := by
      rw [KernelSectorCipher.new, KernelSectorCipher.newUpTo, hshape]
    simp only [hnew, KernelSectorCipher.buildCascade, h, ne_eq, not_true_eq_false, if_false,
      hpasses, hchain]
    have hcount : chain.length = 2 ∨ chain.length = 3 := by
      rw [hlen]
      cases mode <;> decide
    rcases hcount with hcount | hcount
    · obtain ⟨first, second, rfl⟩ := List.length_eq_two.mp hcount
      exact ⟨.cascade2 (.single first) (.single second), rfl, rfl⟩
    · obtain ⟨first, second, third, rfl⟩ := List.length_eq_three.mp hcount
      exact ⟨.cascade3 (.single first) (.single second) (.single third), rfl, rfl⟩

variable {P}

/-- On a 512-byte sector the kernel cipher runs its chain on one data unit. -/
theorem KernelSectorCipher.encryptSector_eq (kc : KernelSectorCipher) (sector : UInt64)
    {data : Bytes} (h : data.length = 512) :
    kc.encryptSector P sector data = (.ok (), encryptUnit P kc.chain sector 32 data) := by
  have hlen (chain : List XtsMode) {data : Bytes} (h : data.length = 512) :
      (encryptUnit P chain sector 32 data).length = 512 :=
    (length_encryptUnit (n := 32) h).trans h
  induction kc generalizing data with
  | single xts =>
    rw [encryptSector, xts.processSector_eq h, if_pos rfl,
      xts.encrypt_eq_mapBlocks (n := 32) (by omega) h]
    rfl
  | cascade2 first second ih₁ ih₂ =>
    rw [encryptSector, InPlace.andThen_of_ok (ih₁ h), ih₂ (hlen _ h),
      encryptUnit_append _ _ _ (n := 32) h, chain]
  | cascade3 first second third ih₁ ih₂ ih₃ =>
    rw [encryptSector, InPlace.andThen_of_ok (ih₁ h), InPlace.andThen_of_ok (ih₂ (hlen _ h)),
      ih₃ (hlen _ (hlen _ h)), encryptUnit_append _ _ _ (n := 32) (hlen _ h),
      encryptUnit_append _ _ _ (n := 32) h, chain]

theorem KernelSectorCipher.decryptSector_eq (kc : KernelSectorCipher) (sector : UInt64)
    {data : Bytes} (h : data.length = 512) :
    kc.decryptSector P sector data = (.ok (), decryptUnit P kc.chain sector 32 data) := by
  have hlen (chain : List XtsMode) {data : Bytes} (h : data.length = 512) :
      (decryptUnit P chain sector 32 data).length = 512 :=
    (length_decryptUnit (n := 32) h).trans h
  induction kc generalizing data with
  | single xts =>
    rw [decryptSector, xts.processSector_eq h, if_neg Bool.false_ne_true,
      xts.decrypt_eq_mapBlocks (n := 32) (by omega) h]
    rfl
  | cascade2 first second ih₁ ih₂ =>
    rw [decryptSector, InPlace.andThen_of_ok (ih₂ h), ih₁ (hlen _ h),
      decryptUnit_append _ _ _ (n := 32) h, chain]
  | cascade3 first second third ih₁ ih₂ ih₃ =>
    rw [decryptSector, InPlace.andThen_of_ok (ih₃ h), InPlace.andThen_of_ok (ih₂ (hlen _ h)),
      ih₁ (hlen _ (hlen _ h)), decryptUnit_append _ _ _ (n := 32) h,
      decryptUnit_append _ _ _ (n := 32) h, chain]

end Kernel

end Oxhide.SectorCiphers
