import Oxhide.FaultyFile
import Oxhide.SealedHeaders

/-! # Creating volumes

A new volume gets one header, written to the primary slot and to the backup slot
in front of the last 64 KiB, and a decoy header in the two hidden slots. A hidden
volume gets the two hidden slots and the data in front of the backup slots. -/
namespace Oxhide.VolumeCreation
open BlockCiphers CipherChain CipherTypes FaultyFile HeaderEncryption HeaderFormat InPlaceBuffer
  KeyDerivation ListSplice SealedHeaders VolumeErrors VolumeOpening WordBytes Xts

/-- The system's random generator: the outcome of its `k`-th use. -/
structure RandomSource where
  fill (k len : ℕ) : Except String {bs : Bytes // bs.length = len}

/-- A generator that only ever returns zeros. -/
def zeroRandom : RandomSource where
  fill _ len := .ok ⟨List.replicate len 0, List.length_replicate⟩

def fillRandom (R : RandomSource) (k len : ℕ) : Except CryptoError {bs : Bytes // bs.length = len} :=
  (R.fill k len).mapError fun e => .invalidDataLength s!"RNG: {e}"

theorem fillRandom_eq_ok {R : RandomSource} {k len : ℕ} {bs : {bs : Bytes // bs.length = len}} :
    fillRandom R k len = .ok bs ↔ R.fill k len = .ok bs := by
  rw [fillRandom]
  cases R.fill k len <;> simp [Except.mapError]

def cryptoFailure (step : String) (e : CryptoError) : VolumeError :=
  let text := e.toText
  .cryptoError s!"{step}: {text}"

def formatFailure (step : String) (e : FormatError) : VolumeError :=
  let text := e.toText
  .formatError s!"{step}: {text}"

def writeFailure (step e : String) : VolumeError := .writeError 0 s!"{step}: {e}"

/-- A default header with a salt and the master key at the start of the key data. -/
def headerWithKey (salt : {bs : Bytes // bs.length = pkcs5SaltSize}) (masterKey : Bytes) :
    VolumeHeader :=
  { VolumeHeader.new with
    salt := salt.1
    salt_length := salt.2
    masterKeydata := splice (List.replicate masterKeydataSize 0) 0 masterKey }

/-- Encrypt the header area of a full header buffer. -/
def encryptInto (P : CipherSuite) (hdrBytes headerKey : Bytes) (cipher : CipherType) :
    Except FormatError Bytes :=
  match InPlace.within 0 volumeHeaderEffectiveSize (encryptHeaderArea P headerKey cipher)
      hdrBytes with
  | (.ok (), encrypted) => .ok encrypted
  | (.error e, _) => .error e

section Create
variable (P : CipherSuite) (R : RandomSource)

/-- A header that looks like the one of a hidden volume. -/
def decoyHeader (salt : {bs : Bytes // bs.length = pkcs5SaltSize}) (decoyKey : Bytes) :
    VolumeHeader :=
  { headerWithKey salt decoyKey with hiddenVolumeSize := 0xDEADBEEFDEADBEEF }

/-- The random draws 2, 3 and 4. -/
def writeDecoyHeader (cipher : CipherType) : FileIo UInt8 VolumeError Unit := do
  let decoySalt ← FileIo.lift
    ((fillRandom R 2 pkcs5SaltSize).mapError (cryptoFailure "decoy salt"))
  let keyBytes := cipher.keySize * 2
  let decoyKey ← FileIo.lift ((fillRandom R 3 keyBytes).mapError (cryptoFailure "decoy key"))
  let decoy := decoyHeader decoySalt decoyKey.1
  let decoyBytes ← FileIo.lift ((serializeHeaderFull decoy).mapError (formatFailure "decoy ser"))
  let decoyHeaderKey ← FileIo.lift
    ((fillRandom R 4 keyBytes).mapError (cryptoFailure "decoy hdr key"))
  let decoyBytes ← FileIo.lift
    ((encryptInto P decoyBytes decoyHeaderKey.1 cipher).mapError (formatFailure "decoy enc"))
  FileIo.mapError (writeFailure "decoy seek") (seekStart volumeHeaderSize)
  FileIo.mapError (writeFailure "decoy write") (writeAll 0 decoyBytes)
  let fileEnd ← FileIo.mapError (writeFailure "decoy seek") seekEnd
  let decoyBackup := fileEnd - volumeHeaderSize
  FileIo.mapError (writeFailure "decoy seek") (seekStart decoyBackup)
  FileIo.mapError (writeFailure "decoy write") (writeAll 0 decoyBytes)

/-- The header of a new volume, whose data area starts behind four header sizes. -/
def normalHeader (volumeSize : UInt64) (salt : {bs : Bytes // bs.length = pkcs5SaltSize})
    (masterKey : Bytes) : VolumeHeader :=
  { headerWithKey salt masterKey with
    volumeSize := volumeSize
    encryptedAreaStart := UInt64.ofNat (volumeHeaderSize * 4)
    encryptedAreaLength := volumeSize }

/-- The random draws 0 and 1 are the salt and the master key. -/
def createVolumeFull (volumeSize : UInt64) (password : Bytes) (cipher : CipherType) (kdf : Kdf)
    (iterations : UInt32) : FileIo UInt8 VolumeError Unit := do
  let salt ← FileIo.lift ((fillRandom R 0 pkcs5SaltSize).mapError (cryptoFailure "salt"))
  let keyBytes := cipher.keySize * 2
  let masterKey ← FileIo.lift ((fillRandom R 1 keyBytes).mapError (cryptoFailure "key"))
  let header := normalHeader volumeSize salt masterKey.1
  let hdrBytes ← FileIo.lift ((serializeHeaderFull header).mapError (formatFailure "ser"))
  let maxKey ← FileIo.lift
    ((kdf.derive password salt.1 iterations maxHeaderKeySize).mapError (cryptoFailure "KDF"))
  let headerKey := maxKey.take (cipher.keySize * 2)
  let hdrBytes ← FileIo.lift
    ((encryptInto P hdrBytes headerKey cipher).mapError (formatFailure "enc"))
  FileIo.mapError (writeFailure "write") (writeAll 0 hdrBytes)
  let pos ← FileIo.mapError (writeFailure "seek") seekEnd
  let backupOffset := pos - 2 * volumeHeaderSize
  FileIo.mapError (writeFailure "seek") (seekStart backupOffset)
  FileIo.mapError (writeFailure "write") (writeAll 0 hdrBytes)
  writeDecoyHeader P R cipher

/-- The header of a hidden volume; the hidden size marks it as one. -/
def hiddenHeader (hiddenSize dataStart : UInt64)
    (salt : {bs : Bytes // bs.length = pkcs5SaltSize}) (masterKey : Bytes) : VolumeHeader :=
  { headerWithKey salt masterKey with
    volumeSize := hiddenSize
    hiddenVolumeSize := hiddenSize
    encryptedAreaStart := dataStart
    encryptedAreaLength := hiddenSize }

/-- Sizes are 64-bit words, and sums of them wrap. -/
def createHiddenVolume (hiddenSize : UInt64) (password : Bytes) (cipher : CipherType) (kdf : Kdf)
    (iterations : UInt32) : FileIo UInt8 VolumeError Unit := do
  let fileEnd ← FileIo.mapError (writeFailure "seek") seekEnd
  let fileEnd := UInt64.ofNat fileEnd
  let headerArea := UInt64.ofNat (2 * volumeHeaderSize)
  if fileEnd < headerArea + hiddenSize then
    let needed := headerArea + hiddenSize
    FileIo.throw (.invalidFormat
      s!"File too small: need at least {needed} bytes for {hiddenSize} byte hidden volume")
  let salt ← FileIo.lift ((fillRandom R 0 pkcs5SaltSize).mapError (cryptoFailure "salt"))
  let keyBytes := cipher.keySize * 2
  let masterKey ← FileIo.lift ((fillRandom R 1 keyBytes).mapError (cryptoFailure "key"))
  let dataStart := fileEnd - headerArea - hiddenSize
  let header := hiddenHeader hiddenSize dataStart salt masterKey.1
  let hdrBytes ← FileIo.lift ((serializeHeaderFull header).mapError (formatFailure "ser"))
  let maxKey ← FileIo.lift
    ((kdf.derive password salt.1 iterations maxHeaderKeySize).mapError (cryptoFailure "KDF"))
  let headerKey := maxKey.take (cipher.keySize * 2)
  let hdrBytes ← FileIo.lift
    ((encryptInto P hdrBytes headerKey cipher).mapError (formatFailure "enc"))
  FileIo.mapError (writeFailure "write") (seekStart volumeHeaderSize)
  FileIo.mapError (writeFailure "write") (writeAll 0 hdrBytes)
  let backupOffset := fileEnd - UInt64.ofNat volumeHeaderSize
  FileIo.mapError (writeFailure "write") (seekStart backupOffset.toNat)
  FileIo.mapError (writeFailure "write") (writeAll 0 hdrBytes)

end Create

section Effect
variable {P : CipherSuite} {R : RandomSource} {plan : FaultPlan} {st st' : FileState UInt8}

/-- A header slot: the sealed header, then zeros. -/
def slotBytes (P : CipherSuite) (chain : List XtsMode) (salt : Bytes) (header : VolumeHeader) :
    Bytes :=
  sealedHeader P chain salt header ++
    List.replicate (volumeHeaderSize - volumeHeaderEffectiveSize) 0

theorem length_slotBytes {chain : List XtsMode} {salt : Bytes} {header : VolumeHeader}
    (hsalt : salt.length = pkcs5SaltSize) :
    (slotBytes P chain salt header).length = volumeHeaderSize := by
  rw [slotBytes, List.length_append, length_sealedHeader P chain header hsalt, List.length_replicate]
  rfl

theorem take_slotBytes (P : CipherSuite) (chain : List XtsMode) {salt : Bytes}
    (header : VolumeHeader) (hsalt : salt.length = pkcs5SaltSize) :
    (slotBytes P chain salt header).take volumeHeaderEffectiveSize =
      sealedHeader P chain salt header := by
  rw [slotBytes, ← length_sealedHeader P chain header hsalt, List.take_left]

/-- Serializing and encrypting a header gives the bytes of its slot. -/
theorem encryptInto_serializeHeaderFull (header : VolumeHeader) {key : Bytes}
    {cipher : CipherType} (hkey : key.length = cipher.keySize * 2) :
    ∃ chain hdrBytes, cipherChain cipher key = .ok chain ∧
      serializeHeaderFull header = .ok hdrBytes ∧
      encryptInto P hdrBytes key cipher = .ok (slotBytes P chain header.salt header) := by
  obtain ⟨chain, hchain⟩ := exists_cipherChain hkey
  refine ⟨chain, splice (List.replicate volumeHeaderSize 0) 0
    (header.salt ++ encryptedArea header), hchain, rfl, ?_⟩
  have hsalt := header.salt_length
  have harea := length_encryptedArea header
  have heffective : (header.salt ++ encryptedArea header).length = volumeHeaderEffectiveSize := by
    rw [List.length_append, hsalt, harea]
    rfl
  rw [splice, List.take_zero, List.nil_append, List.drop_replicate, Nat.zero_add, heffective]
  have hslice : slice (header.salt ++ encryptedArea header ++
      List.replicate (volumeHeaderSize - volumeHeaderEffectiveSize) 0) 0
        volumeHeaderEffectiveSize = header.salt ++ encryptedArea header := by
    rw [slice_append_left (by omega)]
    exact slice_all heffective.le
  have hsealed := length_sealedHeader P chain header hsalt
  have hrun : encryptHeaderArea P key cipher (header.salt ++ encryptedArea header) =
      (.ok (), sealedHeader P chain header.salt header) := by
    rw [encryptHeaderArea_eq hkey hchain hsalt harea, sealedHeader]
  rw [encryptInto, InPlace.within_of_ok (by rw [hslice, hrun])]
  simp only [Except.ok.injEq]
  rw [slotBytes, splice, List.take_zero, List.nil_append, hsealed, Nat.zero_add, ← heffective,
    List.drop_left]

theorem encryptInto_eq_ok {header : VolumeHeader} {hdrBytes out key : Bytes} {cipher : CipherType}
    (hser : serializeHeaderFull header = .ok hdrBytes) (hkey : key.length = cipher.keySize * 2)
    (hout : encryptInto P hdrBytes key cipher = .ok out) :
    ∃ chain, cipherChain cipher key = .ok chain ∧ out = slotBytes P chain header.salt header := by
  obtain ⟨chain, bytes, hchain, hbytes, henc⟩ :=
    encryptInto_serializeHeaderFull (P := P) header hkey
  obtain rfl := Except.ok.inj (hser.symm.trans hbytes)
  exact ⟨chain, hchain, Except.ok.inj (hout.symm.trans henc)⟩

/-- Bytes written at the position, before the last two header sizes, to the hidden
slot and before the last header size. -/
def fourSlots (contents : Bytes) (pos : ℕ) (hdr decoy : Bytes) : Bytes :=
  let contents := storeAt 0 contents pos hdr
  let contents := storeAt 0 contents (contents.length - 2 * volumeHeaderSize) hdr
  let contents := storeAt 0 contents volumeHeaderSize decoy
  storeAt 0 contents (contents.length - volumeHeaderSize) decoy

theorem writeDecoyHeader_eq_ok {cipher : CipherType}
    (h : writeDecoyHeader P R cipher plan st = (.ok (), st')) :
    ∃ decoy, decoy.length = volumeHeaderSize ∧
      st'.contents =
        let contents := storeAt 0 st.contents volumeHeaderSize decoy
        storeAt 0 contents (contents.length - volumeHeaderSize) decoy := by
  simp only [writeDecoyHeader, FileIo.bind_eq_ok, FileIo.lift_mapError_eq_ok,
    FileIo.mapError_eq_ok, seekStart_eq_ok, seekEnd_eq_ok, writeAll_eq_ok] at h
  obtain ⟨salt, _, ⟨-, rfl⟩, decoyKey, _, ⟨-, rfl⟩, bytes, _, ⟨hser, rfl⟩, headerKey, _, ⟨-, rfl⟩,
    out, _, ⟨hout, rfl⟩, _, _, ⟨-, -, rfl⟩, _, _, ⟨-, -, rfl⟩, fileEnd, _, ⟨-, rfl, rfl⟩,
    _, _, ⟨-, -, rfl⟩, -, -, rfl⟩ := h
  obtain ⟨chain, -, rfl⟩ := encryptInto_eq_ok hser headerKey.2 hout
  exact ⟨_, length_slotBytes salt.2, rfl⟩

/-- What a successful creation drew and derived, and what it left in the file. -/
theorem createVolumeFull_eq_ok {volumeSize : UInt64} {password : Bytes} {cipher : CipherType}
    {kdf : Kdf} {iterations : UInt32}
    (h : createVolumeFull P R volumeSize password cipher kdf iterations plan st =
      (.ok (), st')) :
    ∃ salt masterKey key chain decoy, R.fill 0 pkcs5SaltSize = .ok salt ∧
      R.fill 1 (cipher.keySize * 2) = .ok masterKey ∧
      kdf.derive password salt.1 iterations maxHeaderKeySize = .ok key ∧
      cipherChain cipher (key.take (cipher.keySize * 2)) = .ok chain ∧
      decoy.length = volumeHeaderSize ∧
      st'.contents = fourSlots st.contents st.pos
        (slotBytes P chain salt.1 (normalHeader volumeSize salt masterKey.1)) decoy := by
  simp only [createVolumeFull, FileIo.bind_eq_ok, FileIo.lift_mapError_eq_ok, fillRandom_eq_ok,
    FileIo.mapError_eq_ok, seekStart_eq_ok, seekEnd_eq_ok, writeAll_eq_ok] at h
  obtain ⟨salt, _, ⟨hsalt, rfl⟩, masterKey, _, ⟨hmaster, rfl⟩, bytes, _, ⟨hser, rfl⟩, key, _,
    ⟨hkey, rfl⟩, out, _, ⟨hout, rfl⟩, _, _, ⟨-, -, rfl⟩, _, _, ⟨-, rfl, rfl⟩, _, _, ⟨-, -, rfl⟩,
    _, _, ⟨-, -, rfl⟩, hdecoy⟩ := h
  have hcut := (exists_headerChain (kdf.derive_length hkey) cipher).1
  obtain ⟨chain, hchain, rfl⟩ := encryptInto_eq_ok hser hcut hout
  obtain ⟨decoy, hlen, hcontents⟩ := writeDecoyHeader_eq_ok hdecoy
  exact ⟨salt, masterKey, key, chain, decoy, hsalt, hmaster, hkey, hchain, hlen, hcontents⟩

/-- The four slots of a file that has room for them, and the bytes between them. -/
theorem fourSlots_spec {contents hdr decoy : Bytes} (hfile : 4 * volumeHeaderSize ≤ contents.length)
    (hhdr : hdr.length = volumeHeaderSize) (hdecoy : decoy.length = volumeHeaderSize) :
    (fourSlots contents 0 hdr decoy).length = contents.length ∧
      slice (fourSlots contents 0 hdr decoy) 0 volumeHeaderSize = hdr ∧
      slice (fourSlots contents 0 hdr decoy) volumeHeaderSize volumeHeaderSize = decoy ∧
      slice (fourSlots contents 0 hdr decoy) (contents.length - 2 * volumeHeaderSize)
        volumeHeaderSize = hdr ∧
      slice (fourSlots contents 0 hdr decoy) (contents.length - volumeHeaderSize)
        volumeHeaderSize = decoy ∧
      ∀ o n, 2 * volumeHeaderSize ≤ o → o + n ≤ contents.length - 2 * volumeHeaderSize →
        slice (fourSlots contents 0 hdr decoy) o n = slice contents o n := by
  have hpos : 0 < volumeHeaderSize := by decide
  have h₁ : (splice contents 0 hdr).length = contents.length := length_splice (by omega)
  have h₂ : (splice (splice contents 0 hdr) (contents.length - 2 * volumeHeaderSize) hdr).length =
      contents.length := by rw [length_splice (by omega), h₁]
  have h₃ : (splice (splice (splice contents 0 hdr) (contents.length - 2 * volumeHeaderSize) hdr)
      volumeHeaderSize decoy).length = contents.length := by rw [length_splice (by omega), h₂]
  have heq : fourSlots contents 0 hdr decoy =
      splice (splice (splice (splice contents 0 hdr) (contents.length - 2 * volumeHeaderSize) hdr)
        volumeHeaderSize decoy) (contents.length - volumeHeaderSize) decoy := by
    have e₁ : storeAt 0 contents 0 hdr = splice contents 0 hdr := storeAt_of_le (Nat.zero_le _) hdr
    have e₂ : storeAt 0 (splice contents 0 hdr) (contents.length - 2 * volumeHeaderSize) hdr =
        _ := storeAt_of_le (by omega) hdr
    have e₃ : storeAt 0 (splice (splice contents 0 hdr) (contents.length - 2 * volumeHeaderSize)
        hdr) volumeHeaderSize decoy = _ := storeAt_of_le (by omega) decoy
    simp only [fourSlots, e₁, h₁, e₂, e₃, h₃]
    exact storeAt_of_le (by omega) decoy
  have hself {xs ys : Bytes} {off : ℕ} (hys : ys.length = volumeHeaderSize)
      (hoff : off ≤ xs.length) : slice (splice xs off ys) off volumeHeaderSize = ys := by
    rw [← hys]
    exact slice_splice_self hoff ys
  rw [heq]
  refine ⟨by rw [length_splice (by omega), h₃], ?_, ?_, ?_, hself hdecoy (by omega), ?_⟩
  · rw [slice_splice_of_disjoint (by omega) (by omega),
      slice_splice_of_disjoint (by omega) (by omega),
      slice_splice_of_disjoint (by omega) (by omega), hself hhdr (by omega)]
  · rw [slice_splice_of_disjoint (by omega) (by omega), hself hdecoy (by omega)]
  · rw [slice_splice_of_disjoint (by omega) (by omega),
      slice_splice_of_disjoint (by omega) (by omega), hself hhdr (by omega)]
  · intro o n ho hn
    rw [slice_splice_of_disjoint (by omega) (by omega),
      slice_splice_of_disjoint (by omega) (by omega),
      slice_splice_of_disjoint (by omega) (by omega), slice_splice_of_disjoint (by omega) (by omega)]

/-- What a successful creation of a hidden volume drew and derived, and what it left. -/
theorem createHiddenVolume_eq_ok {hiddenSize : UInt64} {password : Bytes} {cipher : CipherType}
    {kdf : Kdf} {iterations : UInt32}
    (h : createHiddenVolume P R hiddenSize password cipher kdf iterations plan st =
      (.ok (), st')) :
    ∃ salt masterKey key chain, ¬ UInt64.ofNat st.contents.length <
        UInt64.ofNat (2 * volumeHeaderSize) + hiddenSize ∧
      R.fill 0 pkcs5SaltSize = .ok salt ∧ R.fill 1 (cipher.keySize * 2) = .ok masterKey ∧
      kdf.derive password salt.1 iterations maxHeaderKeySize = .ok key ∧
      cipherChain cipher (key.take (cipher.keySize * 2)) = .ok chain ∧
      st'.contents =
        let hdr := slotBytes P chain salt.1 (hiddenHeader hiddenSize (UInt64.ofNat
          st.contents.length - UInt64.ofNat (2 * volumeHeaderSize) - hiddenSize) salt masterKey.1)
        storeAt 0 (storeAt 0 st.contents volumeHeaderSize hdr)
          (UInt64.ofNat st.contents.length - UInt64.ofNat volumeHeaderSize).toNat hdr := by
  simp only [createHiddenVolume, FileIo.bind_eq_ok, FileIo.mapError_eq_ok, seekEnd_eq_ok] at h
  obtain ⟨fileEnd, _, ⟨-, rfl, rfl⟩, h⟩ := h
  by_cases hfits : UInt64.ofNat st.contents.length <
      UInt64.ofNat (2 * volumeHeaderSize) + hiddenSize
  · simp only [hfits, if_true, FileIo.bind_eq_ok] at h
    obtain ⟨_, _, hthrow, -⟩ := h
    exact absurd hthrow FileIo.throw_ne_ok
  · simp only [hfits, if_false, FileIo.bind_eq_ok, FileIo.lift_mapError_eq_ok, fillRandom_eq_ok,
      FileIo.mapError_eq_ok, seekStart_eq_ok, writeAll_eq_ok] at h
    obtain ⟨salt, _, ⟨hsalt, rfl⟩, masterKey, _, ⟨hmaster, rfl⟩, bytes, _, ⟨hser, rfl⟩, key, _,
      ⟨hkey, rfl⟩, out, _, ⟨hout, rfl⟩, _, _, ⟨-, -, rfl⟩, _, _, ⟨-, -, rfl⟩, _, _, ⟨-, -, rfl⟩,
      -, -, rfl⟩ := h
    have hcut := (exists_headerChain (kdf.derive_length hkey) cipher).1
    obtain ⟨chain, hchain, rfl⟩ := encryptInto_eq_ok hser hcut hout
    exact ⟨salt, masterKey, key, chain, hfits, hsalt, hmaster, hkey, hchain, rfl⟩

section NoFaults

/-! Without faults, with a random generator and a key derivation that work, volumes
get created. -/

private theorem exists_slot (header : VolumeHeader) {key : Bytes} {cipher : CipherType}
    (hkey : key.length = cipher.keySize * 2) :
    ∃ hdrBytes out, serializeHeaderFull header = .ok hdrBytes ∧
      encryptInto P hdrBytes key cipher = .ok out ∧ out.length = volumeHeaderSize := by
  obtain ⟨chain, hdrBytes, -, hser, henc⟩ := encryptInto_serializeHeaderFull (P := P) header hkey
  exact ⟨hdrBytes, _, hser, henc, length_slotBytes header.salt_length⟩

private theorem length_storeAt (contents ys : Bytes) (off : ℕ)
    (h : off + ys.length ≤ contents.length) : (storeAt 0 contents off ys).length =
      contents.length := by
  rw [storeAt_of_le (by omega), length_splice h]

/-- The backup offset of a hidden header does not wrap. -/
theorem toNat_backup {n : ℕ} (hfile : 4 * volumeHeaderSize ≤ n) (hmax : n ≤ maxPosition) :
    (UInt64.ofNat n - UInt64.ofNat volumeHeaderSize).toNat = n - volumeHeaderSize := by
  rw [maxPosition] at hmax
  rw [volumeHeaderSize] at hfile ⊢
  have hn : (UInt64.ofNat n).toNat = n := by
    rw [UInt64.toNat_ofNat', Nat.mod_eq_of_lt (by omega)]
  have hsize : (UInt64.ofNat 65536).toNat = 65536 := rfl
  rw [UInt64.toNat_sub_of_le _ _ (UInt64.le_iff_toNat_le.mpr (by omega)), hn, hsize]

variable (hR : ∀ k len, ∃ bs, R.fill k len = .ok bs)
  (hfile : 4 * volumeHeaderSize ≤ st.contents.length) (hmax : st.contents.length ≤ maxPosition)
include hR hfile hmax

theorem exists_writeDecoyHeader (cipher : CipherType) :
    ∃ st', writeDecoyHeader P R cipher noFaults st = (.ok (), st') := by
  obtain ⟨salt, hsalt⟩ := hR 2 pkcs5SaltSize
  obtain ⟨decoyKey, hdecoyKey⟩ := hR 3 (cipher.keySize * 2)
  obtain ⟨headerKey, hheaderKey⟩ := hR 4 (cipher.keySize * 2)
  obtain ⟨bytes, out, hser, henc, hlen⟩ :=
    exists_slot (P := P) (decoyHeader salt decoyKey.1) headerKey.2
  have hstored := length_storeAt st.contents out volumeHeaderSize (by omega)
  simp only [writeDecoyHeader, FileIo.bind_eq_ok, FileIo.lift_mapError_eq_ok, fillRandom_eq_ok,
    FileIo.mapError_eq_ok, seekStart_eq_ok, seekEnd_eq_ok, writeAll_eq_ok]
  refine ⟨_, salt, _, ⟨hsalt, rfl⟩, decoyKey, _, ⟨hdecoyKey, rfl⟩, bytes, _, ⟨hser, rfl⟩,
    headerKey, _, ⟨hheaderKey, rfl⟩, out, _, ⟨henc, rfl⟩, (), _, ⟨rfl, by omega, rfl⟩, (), _,
    ⟨rfl, ?_, rfl⟩, _, _, ⟨rfl, rfl, rfl⟩, (), _, ⟨rfl, ?_, rfl⟩, rfl, ?_, rfl⟩
  all_goals
    simp only [FileState.stored, hstored, hlen]
    omega

theorem exists_createVolumeFull {volumeSize : UInt64} {password key : Bytes} {cipher : CipherType}
    {kdf : Kdf} {iterations : UInt32} {salt : {bs : Bytes // bs.length = pkcs5SaltSize}}
    (hsalt : R.fill 0 pkcs5SaltSize = .ok salt)
    (hkey : kdf.derive password salt.1 iterations maxHeaderKeySize = .ok key)
    (hpos : st.pos = 0) :
    ∃ st', createVolumeFull P R volumeSize password cipher kdf iterations noFaults st =
      (.ok (), st') := by
  obtain ⟨masterKey, hmaster⟩ := hR 1 (cipher.keySize * 2)
  have hcut := (exists_headerChain (kdf.derive_length hkey) cipher).1
  obtain ⟨bytes, out, hser, henc, hlen⟩ :=
    exists_slot (P := P) (normalHeader volumeSize salt masterKey.1) hcut
  have hfirst := length_storeAt st.contents out 0 (by omega)
  have hsecond := length_storeAt (storeAt 0 st.contents 0 out) out
    (st.contents.length - 2 * volumeHeaderSize) (by omega)
  obtain ⟨st', hdecoy⟩ : ∃ st', writeDecoyHeader P R cipher noFaults
      ⟨storeAt 0 (storeAt 0 st.contents 0 out) (st.contents.length - 2 * volumeHeaderSize) out,
        st.contents.length - 2 * volumeHeaderSize + out.length, st.calls + 1 + 1 + 1 + 1⟩ =
          (.ok (), st') :=
    exists_writeDecoyHeader hR (by rw [hsecond, hfirst]; exact hfile)
      (by rw [hsecond, hfirst]; exact hmax) cipher
  refine ⟨st', ?_⟩
  simp only [createVolumeFull, FileIo.bind_eq_ok, FileIo.lift_mapError_eq_ok, fillRandom_eq_ok,
    FileIo.mapError_eq_ok, seekStart_eq_ok, seekEnd_eq_ok, writeAll_eq_ok]
  refine ⟨salt, _, ⟨hsalt, rfl⟩, masterKey, _, ⟨hmaster, rfl⟩, bytes, _, ⟨hser, rfl⟩, key, _,
    ⟨hkey, rfl⟩, out, _, ⟨henc, rfl⟩, (), _, ⟨rfl, by omega, rfl⟩, _, _, ⟨rfl, rfl, rfl⟩, (), _,
    ⟨rfl, ?_, rfl⟩, (), _, ⟨rfl, ?_, rfl⟩, ?_⟩
  · simp only [FileState.stored, hpos, hfirst]
    omega
  · simp only [FileState.stored, hpos, hfirst, hlen]
    omega
  · simp only [FileState.stored, hpos, hfirst]
    exact hdecoy

theorem exists_createHiddenVolume {hiddenSize : UInt64} {password key : Bytes}
    {cipher : CipherType} {kdf : Kdf} {iterations : UInt32}
    {salt : {bs : Bytes // bs.length = pkcs5SaltSize}}
    (hsalt : R.fill 0 pkcs5SaltSize = .ok salt)
    (hkey : kdf.derive password salt.1 iterations maxHeaderKeySize = .ok key)
    (hfits : ¬ UInt64.ofNat st.contents.length <
      UInt64.ofNat (2 * volumeHeaderSize) + hiddenSize) :
    ∃ st', createHiddenVolume P R hiddenSize password cipher kdf iterations noFaults st =
      (.ok (), st') := by
  obtain ⟨masterKey, hmaster⟩ := hR 1 (cipher.keySize * 2)
  have hcut := (exists_headerChain (kdf.derive_length hkey) cipher).1
  obtain ⟨bytes, out, hser, henc, hlen⟩ := exists_slot (P := P) (hiddenHeader hiddenSize
    (UInt64.ofNat st.contents.length - UInt64.ofNat (2 * volumeHeaderSize) - hiddenSize) salt
    masterKey.1) hcut
  have hbackup := toNat_backup hfile hmax
  have hpos : volumeHeaderSize ≤ st.contents.length := by omega
  simp only [createHiddenVolume, FileIo.bind_eq_ok, FileIo.mapError_eq_ok, seekEnd_eq_ok, noFaults,
    true_and, and_assoc, exists_and_left, exists_eq_left, hfits, if_false]
  simp only [FileIo.lift_mapError_eq_ok, fillRandom_eq_ok, seekStart_eq_ok, writeAll_eq_ok, hbackup]
  refine ⟨_, salt, _, ⟨hsalt, rfl⟩, masterKey, _, ⟨hmaster, rfl⟩, bytes, _, ⟨hser, rfl⟩, key, _,
    ⟨hkey, rfl⟩, out, _, ⟨henc, rfl⟩, (), _, ⟨rfl, by omega, rfl⟩, (), _, ⟨rfl, ?_, rfl⟩, (), _,
    ⟨rfl, by omega, rfl⟩, rfl, ?_, rfl⟩
  · simp only [hlen]
    omega
  · simp only [hlen]
    omega

end NoFaults

end Effect

end Oxhide.VolumeCreation
