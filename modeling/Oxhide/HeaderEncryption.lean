import Oxhide.CipherChain
import Oxhide.HeaderFormat

/-! # Encrypting the header area

The 448 bytes behind the salt are one data unit with number 0. On a key of the
right length both directions run the passes of `cipherChain`. -/
namespace Oxhide.HeaderEncryption
open BlockCiphers CipherChain CipherTypes ExceptLists HeaderFormat InPlaceBuffer ListBlocks
  ListSplice VolumeErrors WordBytes Xts

section Functions
variable (P : CipherSuite)

def applyXtsSingle (kind : CipherKind) (key : Bytes) (encrypt : Bool) :
    InPlace FormatError UInt8 :=
  match XtsMode.new kind key with
  | .error e =>
    let text := e.toText
    InPlace.fail (.cryptoError s!"XTS: {text}")
  | .ok xts =>
    if encrypt then InPlace.mapError (fun e => .encryptionFailed e.toText) (xts.encrypt P 0)
    else InPlace.mapError (fun e => .decryptionFailed e.toText) (xts.decrypt P 0)

def applyXtsPass (cipher : CipherType) (key : Bytes) (encrypt : Bool) :
    InPlace FormatError UInt8 :=
  match cipher.shape with
  | .single kind => applyXtsSingle P kind key encrypt
  | .cascade _ =>
    let name := cipher.name
    InPlace.fail (.cryptoError s!"Cascade component must be a single cipher: {name}")

/-- Decryption runs the passes in reverse order. -/
def applyXtsCascade (mode : CascadeMode) (key : Bytes) (encrypt : Bool) :
    InPlace FormatError UInt8 :=
  let singleKeyLen := mode.keySize
  if key.length ≠ singleKeyLen * 2 then
    let name := mode.name
    let expected := singleKeyLen * 2
    let got := key.length
    InPlace.fail (.cryptoError s!"Bad key size for {name}: expected {expected}, got {got}")
  else
    let order := if encrypt then mode.veracryptOrder else mode.veracryptOrder.reverse
    InPlace.sequence (order.map fun pass =>
      applyXtsPass P pass.1 (passKey key singleKeyLen pass.2) encrypt)

def applyXts (cipher : CipherType) (key : Bytes) (encrypt : Bool) : InPlace FormatError UInt8 :=
  let expectedKeyLen := cipher.keySize * 2
  if key.length ≠ expectedKeyLen then
    let name := cipher.name
    let got := key.length
    InPlace.fail (.cryptoError s!"Bad key size for {name}: expected {expectedKeyLen}, got {got}")
  else
    match cipher.shape with
    | .single kind => applyXtsSingle P kind key encrypt
    | .cascade mode => applyXtsCascade P mode key encrypt

/-- Both directions; the area is bytes 64 to 511. -/
def cryptHeaderArea (key : Bytes) (cipher : CipherType) (encrypt : Bool) :
    InPlace FormatError UInt8 := fun data =>
  if data.length < volumeHeaderEffectiveSize then
    (.error (.invalidHeaderSize volumeHeaderEffectiveSize data.length), data)
  else
    InPlace.within pkcs5SaltSize encryptedHeaderSize (applyXts P cipher key encrypt) data

def encryptHeaderArea (key : Bytes) (cipher : CipherType) : InPlace FormatError UInt8 :=
  cryptHeaderArea P key cipher true

def decryptHeaderArea (key : Bytes) (cipher : CipherType) : InPlace FormatError UInt8 :=
  cryptHeaderArea P key cipher false

end Functions

variable {P : CipherSuite} {n : ℕ} {data : Bytes}

private theorem applyXtsSingle_encrypt {kind : CipherKind} {key : Bytes} {xts : XtsMode}
    (hxts : XtsMode.new kind key = .ok xts) (hn : 0 < n) (h : data.length = n * 16) :
    applyXtsSingle P kind key true data =
      (.ok (), mapBlocks 16 (fun j => blockBytes (xts.encryptBlockAt P 0 j)) n data) := by
  rw [applyXtsSingle, hxts]
  exact InPlace.mapError_of_ok (xts.encrypt_eq_mapBlocks hn h)

private theorem applyXtsSingle_decrypt {kind : CipherKind} {key : Bytes} {xts : XtsMode}
    (hxts : XtsMode.new kind key = .ok xts) (hn : 0 < n) (h : data.length = n * 16) :
    applyXtsSingle P kind key false data =
      (.ok (), mapBlocks 16 (fun j => blockBytes (xts.decryptBlockAt P 0 j)) n data) := by
  rw [applyXtsSingle, hxts]
  exact InPlace.mapError_of_ok (xts.decrypt_eq_mapBlocks hn h)

/-- A pass that has an XTS instance maps every block with it. -/
private theorem applyXtsPass_eq {cipher : CipherType} {key : Bytes} {xts : XtsMode}
    (hxts : passXts cipher key = .ok xts) (hn : 0 < n) (h : data.length = n * 16) :
    applyXtsPass P cipher key true data =
        (.ok (), mapBlocks 16 (fun j => blockBytes (xts.encryptBlockAt P 0 j)) n data) ∧
      applyXtsPass P cipher key false data =
        (.ok (), mapBlocks 16 (fun j => blockBytes (xts.decryptBlockAt P 0 j)) n data) := by
  obtain ⟨kind, hkind, hnew⟩ := passXts_eq_ok_iff.mp hxts
  rw [applyXtsPass, applyXtsPass, hkind]
  exact ⟨applyXtsSingle_encrypt hnew hn h, applyXtsSingle_decrypt hnew hn h⟩

private theorem applyXtsCascade_eq {mode : CascadeMode} {key : Bytes} {chain : List XtsMode}
    (hkey : key.length = mode.keySize * 2)
    (hchain : mode.veracryptOrder.mapM
      (fun pass => passXts pass.1 (passKey key mode.keySize pass.2)) = .ok chain)
    (hn : 0 < n) (h : data.length = n * 16) :
    applyXtsCascade P mode key true data = (.ok (), encryptUnit P chain 0 n data) ∧
      applyXtsCascade P mode key false data = (.ok (), decryptUnit P chain 0 n data) := by
  have hpasses := mapM_eq_ok_iff.mp hchain
  constructor
  · simp only [applyXtsCascade, hkey, ne_eq, not_true_eq_false, if_false, if_true]
    refine sequence_eq_mapBlocks (List.forall₂_map_left_iff.mpr ?_) h
    exact hpasses.imp fun pass xts hxts data hdata => (applyXtsPass_eq hxts hn hdata).1
  · simp only [applyXtsCascade, hkey, ne_eq, not_true_eq_false, if_false, Bool.false_eq_true]
    refine sequence_eq_mapBlocks (List.forall₂_map_left_iff.mpr ?_) h
    refine (List.forall₂_reverse_iff.mpr hpasses).imp ?_
    exact fun pass xts hxts data hdata => (applyXtsPass_eq hxts hn hdata).2

/-- With a key of the right length the area is processed as one data unit. -/
theorem applyXts_eq {cipher : CipherType} {key : Bytes} {chain : List XtsMode}
    (hkey : key.length = cipher.keySize * 2) (hchain : cipherChain cipher key = .ok chain)
    (hn : 0 < n) (h : data.length = n * 16) :
    applyXts P cipher key true data = (.ok (), encryptUnit P chain 0 n data) ∧
      applyXts P cipher key false data = (.ok (), decryptUnit P chain 0 n data) := by
  cases hshape : cipher.shape with
  | single kind =>
    rw [cipherChain, hshape] at hchain
    obtain ⟨xts, hnew⟩ : ∃ xts, XtsMode.new kind key = .ok xts :=
      ⟨_, XtsMode.new_of_length (by rw [hkey, keySize_of_single hshape])⟩
    simp only [hnew] at hchain
    obtain rfl := Except.ok.inj hchain
    simp only [applyXts, hkey, hshape, ne_eq, not_true_eq_false, if_false]
    exact ⟨applyXtsSingle_encrypt hnew hn h, applyXtsSingle_decrypt hnew hn h⟩
  | cascade mode =>
    rw [cipherChain, hshape] at hchain
    have hmode := applyXtsCascade_eq (P := P) (by rw [hkey, keySize_of_cascade hshape]) hchain hn h
    simp only [applyXts, hkey, hshape, ne_eq, not_true_eq_false, if_false]
    exact hmode

section Area
variable {cipher : CipherType} {key : Bytes} {chain : List XtsMode} {salt area : Bytes}

private theorem cryptHeaderArea_append {encrypt : Bool} {out : Bytes} (rest : Bytes)
    (hsalt : salt.length = pkcs5SaltSize) (harea : area.length = encryptedHeaderSize)
    (hrun : applyXts P cipher key encrypt area = (.ok (), out))
    (hout : out.length = area.length) :
    cryptHeaderArea P key cipher encrypt (salt ++ (area ++ rest)) =
      (.ok (), salt ++ (out ++ rest)) := by
  have hlen : ¬ (salt ++ (area ++ rest)).length < volumeHeaderEffectiveSize := by
    have hsize : pkcs5SaltSize + encryptedHeaderSize = volumeHeaderEffectiveSize := rfl
    rw [List.length_append, List.length_append, hsalt, harea]
    omega
  have hslice : slice (salt ++ (area ++ rest)) pkcs5SaltSize encryptedHeaderSize = area := by
    rw [slice_append_right hsalt.le, hsalt, Nat.sub_self,
      slice_append_left ((Nat.zero_add _).trans harea.symm).le]
    exact slice_all harea.le
  have hsplice : splice (salt ++ (area ++ rest)) pkcs5SaltSize out = salt ++ (out ++ rest) := by
    rw [splice, ← hsalt, List.take_left, hout, ← List.drop_drop, List.drop_left, List.drop_left,
      List.append_assoc]
  have hwithin := hslice.symm ▸ hrun
  rw [cryptHeaderArea, if_neg hlen, InPlace.within_of_ok hwithin, hsplice]

/-- Behind the salt, the area is encrypted as one data unit. -/
theorem encryptHeaderArea_append (rest : Bytes) (hkey : key.length = cipher.keySize * 2)
    (hchain : cipherChain cipher key = .ok chain) (hsalt : salt.length = pkcs5SaltSize)
    (harea : area.length = encryptedHeaderSize) :
    encryptHeaderArea P key cipher (salt ++ (area ++ rest)) =
      (.ok (), salt ++ (encryptUnit P chain 0 28 area ++ rest)) :=
  cryptHeaderArea_append rest hsalt harea (applyXts_eq hkey hchain (by decide) harea).1
    (length_encryptUnit (n := 28) harea)

theorem decryptHeaderArea_append (rest : Bytes) (hkey : key.length = cipher.keySize * 2)
    (hchain : cipherChain cipher key = .ok chain) (hsalt : salt.length = pkcs5SaltSize)
    (harea : area.length = encryptedHeaderSize) :
    decryptHeaderArea P key cipher (salt ++ (area ++ rest)) =
      (.ok (), salt ++ (decryptUnit P chain 0 28 area ++ rest)) :=
  cryptHeaderArea_append rest hsalt harea (applyXts_eq hkey hchain (by decide) harea).2
    (length_decryptUnit (n := 28) harea)

theorem encryptHeaderArea_eq (hkey : key.length = cipher.keySize * 2)
    (hchain : cipherChain cipher key = .ok chain) (hsalt : salt.length = pkcs5SaltSize)
    (harea : area.length = encryptedHeaderSize) :
    encryptHeaderArea P key cipher (salt ++ area) =
      (.ok (), salt ++ encryptUnit P chain 0 28 area) := by
  simpa using encryptHeaderArea_append (P := P) [] hkey hchain hsalt harea

theorem decryptHeaderArea_eq (hkey : key.length = cipher.keySize * 2)
    (hchain : cipherChain cipher key = .ok chain) (hsalt : salt.length = pkcs5SaltSize)
    (harea : area.length = encryptedHeaderSize) :
    decryptHeaderArea P key cipher (salt ++ area) =
      (.ok (), salt ++ decryptUnit P chain 0 28 area) := by
  simpa using decryptHeaderArea_append (P := P) [] hkey hchain hsalt harea

end Area

section Inverse
variable {cipher : CipherType} {key : Bytes}

/-- The salt and everything behind the header are as before. -/
def KeepsRest (data out : Bytes) : Prop :=
  out.take pkcs5SaltSize = data.take pkcs5SaltSize ∧
    out.drop volumeHeaderEffectiveSize = data.drop volumeHeaderEffectiveSize

private theorem keepsRest_append {salt area out rest : Bytes} (hsalt : salt.length = pkcs5SaltSize)
    (harea : area.length = encryptedHeaderSize) (hout : out.length = area.length) :
    KeepsRest (salt ++ (area ++ rest)) (salt ++ (out ++ rest)) := by
  have hdrop {xs : Bytes} (hxs : xs.length = encryptedHeaderSize) :
      (salt ++ (xs ++ rest)).drop volumeHeaderEffectiveSize = rest := by
    have hsize : volumeHeaderEffectiveSize = salt.length + xs.length := by
      rw [hsalt, hxs]
      rfl
    rw [hsize, ← List.drop_drop, List.drop_left, List.drop_left]
  constructor
  · rw [← hsalt, List.take_left, List.take_left]
  · rw [hdrop (hout.trans harea), hdrop harea]

private theorem split_headerArea {data : Bytes} (h : volumeHeaderEffectiveSize ≤ data.length) :
    ∃ salt area rest, data = salt ++ (area ++ rest) ∧ salt.length = pkcs5SaltSize ∧
      area.length = encryptedHeaderSize := by
  have hsize : pkcs5SaltSize + encryptedHeaderSize = volumeHeaderEffectiveSize := rfl
  refine ⟨data.take pkcs5SaltSize, (data.drop pkcs5SaltSize).take encryptedHeaderSize,
    (data.drop pkcs5SaltSize).drop encryptedHeaderSize, ?_, ?_, ?_⟩
  · rw [List.take_append_drop, List.take_append_drop]
  · exact List.length_take_of_le (by omega)
  · apply List.length_take_of_le
    rw [List.length_drop]
    omega

/-- A short buffer and a key of another length are refused before anything is written. -/
private theorem cryptHeaderArea_refused
    (h : data.length < volumeHeaderEffectiveSize ∨ key.length ≠ cipher.keySize * 2) :
    ∃ e, ∀ encrypt, cryptHeaderArea P key cipher encrypt data = (.error e, data) := by
  by_cases hshort : data.length < volumeHeaderEffectiveSize
  · exact ⟨_, fun encrypt => if_pos hshort⟩
  · have hkey := h.resolve_left hshort
    obtain ⟨e, he⟩ : ∃ e, ∀ encrypt, applyXts P cipher key encrypt = InPlace.fail e :=
      ⟨_, fun encrypt => if_pos hkey⟩
    have hsize : pkcs5SaltSize + encryptedHeaderSize = volumeHeaderEffectiveSize := rfl
    have hlen : (slice data pkcs5SaltSize encryptedHeaderSize).length = encryptedHeaderSize :=
      length_slice_of_le (by omega)
    have hback : splice data pkcs5SaltSize (slice data pkcs5SaltSize encryptedHeaderSize) =
        data := by
      rw [splice_eq_self_iff (by omega), hlen]
    refine ⟨e, fun encrypt => ?_⟩
    rw [cryptHeaderArea, if_neg hshort, he, InPlace.within, InPlace.fail, hback]

/-- Encrypting and decrypting the header area are inverse to each other, and an error
leaves the buffer as it was. -/
theorem headerArea_inverse (P : CipherSuite) (cipher : CipherType) (key data : Bytes) :
    (volumeHeaderEffectiveSize ≤ data.length → key.length = cipher.keySize * 2 →
      ∃ enc dec, encryptHeaderArea P key cipher data = (.ok (), enc) ∧
        decryptHeaderArea P key cipher enc = (.ok (), data) ∧ KeepsRest data enc ∧
        decryptHeaderArea P key cipher data = (.ok (), dec) ∧
        encryptHeaderArea P key cipher dec = (.ok (), data) ∧ KeepsRest data dec) ∧
    (data.length < volumeHeaderEffectiveSize ∨ key.length ≠ cipher.keySize * 2 →
      ∃ e, encryptHeaderArea P key cipher data = (.error e, data) ∧
        decryptHeaderArea P key cipher data = (.error e, data)) := by
  constructor
  · intro hlong hkey
    obtain ⟨chain, hchain⟩ := exists_cipherChain hkey
    obtain ⟨salt, area, rest, rfl, hsalt, harea⟩ := split_headerArea hlong
    have henc : (encryptUnit P chain 0 28 area).length = area.length :=
      length_encryptUnit (n := 28) harea
    have hdec : (decryptUnit P chain 0 28 area).length = area.length :=
      length_decryptUnit (n := 28) harea
    refine ⟨_, _, encryptHeaderArea_append rest hkey hchain hsalt harea, ?_,
      keepsRest_append hsalt harea henc, decryptHeaderArea_append rest hkey hchain hsalt harea, ?_,
      keepsRest_append hsalt harea hdec⟩
    · rw [decryptHeaderArea_append rest hkey hchain hsalt (henc.trans harea),
        decryptUnit_encryptUnit (n := 28) harea]
    · rw [encryptHeaderArea_append rest hkey hchain hsalt (hdec.trans harea),
        encryptUnit_decryptUnit (n := 28) harea]
  · intro h
    obtain ⟨e, he⟩ := cryptHeaderArea_refused (P := P) h
    exact ⟨e, he true, he false⟩

end Inverse

end Oxhide.HeaderEncryption
