import Oxhide.CreateThenOpen
import Oxhide.DriverView
import Oxhide.MountRequest
import Oxhide.OpenVolumes

/-! # A volume seen through the driver and through the library

The library seeks to the data offset plus 512 times the sector; the driver rounds that
position down to a multiple of 512 and subtracts the data offset again to get the
data-unit number. The two agree, without a wrap, exactly when the data offset is a
multiple of 512: otherwise the first sector already begins in front of the data. -/
namespace Oxhide.MountedViews
open BlockCiphers CheckedWords CipherChain CipherTypes CreateThenOpen DriverView EncryptedIoQueue
  FaultyFile HeaderFormat HostVolume KeyDerivation ListSplice MountRequest OpenVolumes
  OpeningSearch SealedHeaders SectorCiphers SectorIo VolumeCreation VolumeErrors VolumeOpening
  WordBytes

/-- The request that `mount_via_driver` fills in for an opened volume. -/
def mountViaDriver (openResult : OpenResult) (driveNo : UInt8) (readOnly : Bool)
    (widePath : List UInt16) : MountStruct :=
  MountStruct.zeroed
    |>.writeWord .nDosDriveNo driveNo.toNat
    |>.writeWord .bytesPerSector 512
    |>.writeWord .diskLength openResult.dataLength.toNat
    |>.writeWord .ea (cipherToEa openResult.dataCipher).toNat
    |>.writeWord .dataOffset openResult.dataOffset.toNat
    |>.writeWord .mountReadOnly readOnly.toNat
    |>.writeWord .mountRemovable 1
    |>.writeWord .volumePim openResult.pim.toUInt32.toNat
    |>.writeBytes .masterKey openResult.masterKey
    |>.writeBytes .wszVolume ((widePath ++ [0]).flatMap fun u : UInt16 => leBytes 2 u.toNat)

section Request
variable {openResult : OpenResult} {driveNo : UInt8} {readOnly : Bool} {widePath : List UInt16}

/-- The fields arrive as they were sent. -/
theorem volumeThreadProc_mountViaDriver (driveNo : UInt8) (readOnly : Bool) (widePath : List UInt16)
    (hkey : openResult.masterKey.length = openResult.dataCipher.keySize * 2) :
    let request := volumeThreadProc (mountViaDriver openResult driveNo readOnly widePath)
    request.ea = cipherToEa openResult.dataCipher ∧ request.masterKey = openResult.masterKey ∧
      request.dataOffset = openResult.dataOffset ∧ request.diskLength = openResult.dataLength ∧
      request.bytesPerSector = 512 := by
  have hle := keySize_le openResult.dataCipher
  obtain ⟨hea, hoffset, hlength, hsector⟩ :
      (mountViaDriver openResult driveNo readOnly widePath).readWord .ea =
          (cipherToEa openResult.dataCipher).toNat ∧
        (mountViaDriver openResult driveNo readOnly widePath).readWord .dataOffset =
          openResult.dataOffset.toNat ∧
        (mountViaDriver openResult driveNo readOnly widePath).readWord .diskLength =
          openResult.dataLength.toNat ∧
        (mountViaDriver openResult driveNo readOnly widePath).readWord .bytesPerSector = 512 := by
    simp (disch := decide) only [mountViaDriver, MountStruct.readWord_writeBytes_of_ne,
      MountStruct.readWord_writeWord_of_ne, MountStruct.readWord_writeWord_self]
    exact ⟨Nat.mod_eq_of_lt (cipherToEa openResult.dataCipher).toNat_lt,
      Nat.mod_eq_of_lt openResult.dataOffset.toNat_lt,
      Nat.mod_eq_of_lt openResult.dataLength.toNat_lt, rfl⟩
  have hkeyLength : keyLength (cipherToEa openResult.dataCipher) =
      openResult.masterKey.length := by
    rw [keyLength, cipherTypeFromEa_cipherToEa, hkey]
    exact Nat.min_eq_left (by rw [MountField.masterKeyMaxSize]; omega)
  have hkeyBytes : ((mountViaDriver openResult driveNo readOnly widePath).readBytes
      .masterKey).take openResult.masterKey.length = openResult.masterKey := by
    have hfits : openResult.masterKey.take (MountField.size .masterKey) = openResult.masterKey :=
      List.take_of_length_le (by
        change _ ≤ MountField.masterKeyMaxSize
        rw [MountField.masterKeyMaxSize]
        omega)
    rw [mountViaDriver, MountStruct.readBytes_writeBytes_of_ne _ (by decide),
      MountStruct.readBytes_writeBytes_self, hfits, splice, List.take_zero, List.nil_append,
      List.take_left]
  have hcode : UInt32.ofNat (cipherToEa openResult.dataCipher).toNat =
      cipherToEa openResult.dataCipher := UInt32.ofNat_toNat
  refine ⟨?_, ?_, ?_, ?_, ?_⟩
  · simp only [volumeThreadProc, hea, hcode]
  · simp only [volumeThreadProc, hea, hcode, hkeyLength, hkeyBytes]
  · simp only [volumeThreadProc, hoffset, UInt64.ofNat_toNat]
  · simp only [volumeThreadProc, hlength, UInt64.ofNat_toNat]
  · simp only [volumeThreadProc, hsector]
    rfl

end Request

/-- Sector `s` as the driver returns it is what the library reads, and the positions and
unit numbers are computed without a wrap on both sides. -/
structure SectorAgrees (P : CipherSuite) (host : Bytes) (volume : OpenVolume) (ext : Extension)
    (s : ℕ) : Prop where
  userPosition : (hostPosition volume.inner.dataOffset (UInt64.ofNat s)).overflow = false
  driverPosition : ∀ irp : Irp, irp.byteOffset = Int64.ofNat (512 * s) → irp.length = 512 →
    (ioParams ext irp).overflow = false ∧ ∀ params, (ioParams ext irp).val = .ok params →
      ∀ i < params.sectorCount, params.firstSectorIndex.toNat + i < 2 ^ 64
  plaintext : ∀ (irp : Irp) (answers : KernelAnswers), irp.byteOffset = Int64.ofNat (512 * s) →
    irp.length = 512 → ReadServed ext irp answers host →
      (volume.read P (UInt64.ofNat s) 512 noFaults).1 =
        .ok (processReadIrp P ext irp answers host).userBuffer

def ViewsAgree (P : CipherSuite) (host : Bytes) (volume : OpenVolume) (ext : Extension) : Prop :=
  ∀ s, (s + 1) * 512 ≤ volume.inner.dataLength.toNat → SectorAgrees P host volume ext s

/-- A mounted volume and an open one that come from the same header. -/
structure SameVolume (r : OpenResult) (host : Bytes) (volume : OpenVolume) (ext : Extension) :
    Prop where
  inner : volume.inner = r
  contents : volume.file.contents = host
  dataStart : dataStart ext = r.dataOffset.toNat
  diskSize : diskSize ext = r.dataLength.toNat
  firstDataUnitNo : ext.firstDataUnitNo = 0
  chain : ext.cryptoInfo.chain = volume.cipher.chain

section Agreement
variable {P : CipherSuite} {r : OpenResult} {host : Bytes} {volume : OpenVolume}
  {ext : Extension} {irp : Irp} {s : ℕ}

private theorem initCipher_chain {cipher : CipherType} {key : Bytes} {kc : KernelSectorCipher}
    {chain : List Xts.XtsMode} (hkey : key.length = cipher.keySize * 2)
    (hchain : cipherChain cipher key = .ok chain)
    (h : initCipherFromEaAndKey (cipherToEa cipher) key = some kc) : kc.chain = chain := by
  obtain ⟨kc', hnew, hchain'⟩ := KernelSectorCipher.new_of_length hkey
  have hwhole : key.take (cipher.keySize * 2) = key := List.take_of_length_le hkey.le
  simp only [initCipherFromEaAndKey, cipherTypeFromEa_cipherToEa, hwhole, hnew] at h
  obtain rfl := Option.some.inj h
  exact Except.ok.inj (hchain'.symm.trans hchain)

/-- What the request carries is enough to set up the same volume. -/
theorem sameVolume_of_mount {file : FileState UInt8} {userReadOnly : Bool} {driveNo : UInt8}
    {readOnly : Bool} {widePath : List UInt16} {answers : OpenAnswers} {opened : OpenedVolume}
    (hkey : r.masterKey.length = r.dataCipher.keySize * 2)
    (hvolume : OpenVolume.ofResult userReadOnly r (.ok file) = .ok volume)
    (hmount : tcOpenVolume (volumeThreadProc (mountViaDriver r driveNo readOnly widePath)) answers =
      .ok opened) : SameVolume r file.contents volume opened.ext := by
  obtain ⟨hea, hmaster, hoffset, hlength, -⟩ :=
    volumeThreadProc_mountViaDriver driveNo readOnly widePath hkey
  obtain ⟨-, -, -, hcipher, hstart, hunit, hdisk, -⟩ := tcOpenVolume_eq_ok hmount
  obtain ⟨sectorCipher, hcreate, hchain⟩ := createSectorCipher_of_length hkey
  rw [OpenVolume.ofResult_eq, hcreate] at hvolume
  obtain rfl := (Except.ok.inj hvolume).symm
  rw [hea, hmaster] at hcipher
  refine ⟨rfl, rfl, ?_, ?_, hunit, initCipher_chain hkey hchain hcipher⟩
  · rw [DriverView.dataStart, hstart, hoffset]
  · rw [DriverView.diskSize, hdisk, hlength, UInt64.toUInt64_toInt64]

section Sectors
variable (hsame : SameVolume r host volume ext)
  (hinside : r.dataOffset.toNat + r.dataLength.toNat ≤ host.length)
  (hmax : host.length ≤ maxPosition) (hs : (s + 1) * 512 ≤ r.dataLength.toNat)
  (hoffset : irp.byteOffset = Int64.ofNat (512 * s)) (hlength : irp.length = 512)
include hsame hinside hmax hs hoffset hlength

private theorem inBounds_sector : offset irp = s * 512 ∧ InBounds ext irp := by
  have hsmall : 512 * s < 2 ^ 63 := by
    rw [maxPosition] at hmax
    omega
  have hvalue : offset irp = s * 512 := by
    rw [offset, hoffset, Int64.toUInt64_ofNat', UInt64.toNat_ofNat', Nat.mod_eq_of_lt (by omega)]
    omega
  refine ⟨hvalue, ?_, ?_⟩
  · rw [hoffset]
    change Int64.ofNat 0 ≤ Int64.ofNat (512 * s)
    rw [Int64.ofNat_le_iff_le (by omega) hsmall]
    omega
  · rw [hvalue, hlength, hsame.diskSize]
    change s * 512 + 512 ≤ _
    linarith

/-- Without a wrap: the sector does not begin in front of the data. -/
private theorem ioParams_overflow_iff : (ioParams ext irp).overflow = false ↔
    r.dataOffset.toNat ≤ (r.dataOffset.toNat + s * 512) / 512 * 512 := by
  obtain ⟨hvalue, hbounds⟩ := inBounds_sector hsame hinside hmax hs hoffset hlength
  rw [maxPosition] at hmax
  have hstart := hsame.dataStart
  have hin := hbounds.inside
  have hbytes : irp.length.toUInt64.toNat = 512 := by
    rw [hlength]
    rfl
  have hbytes' : irp.length.toNat = 512 := by
    rw [hlength]
    rfl
  have hdisk := hsame.diskSize
  rw [hbytes'] at hin
  simp only [DriverView.dataStart, DriverView.offset, DriverView.diskSize] at hstart hvalue hdisk hin
  have hiff : (computeSectorIoParams ext.volDataAreaOffset ext.firstDataUnitNo
      irp.byteOffset.toUInt64 irp.length.toUInt64 ext.diskLength.toUInt64).overflow = false ↔ _ :=
    computeSectorIoParams_overflow (by omega) (by omega) (by omega)
  have hzero : ext.firstDataUnitNo.toNat = 0 := by
    rw [hsame.firstDataUnitNo]
    rfl
  rw [ioParams, hiff, hstart, hvalue, hzero]
  exact and_iff_left (by omega)

end Sectors

private theorem toNat_length_sector {irp : Irp} (h : irp.length = 512) :
    irp.length.toNat = 512 := by
  rw [h]
  rfl

/-- For an aligned data area both sides read every sector alike. -/
theorem viewsAgree_of_aligned (hsame : SameVolume r host volume ext)
    (hinside : r.dataOffset.toNat + r.dataLength.toNat ≤ host.length)
    (hmax : host.length ≤ maxPosition) (haligned : r.dataOffset.toNat % 512 = 0) :
    ViewsAgree P host volume ext := by
  intro s hs
  rw [hsame.inner] at hs
  have hm : Mounted ext host := by
    refine ⟨?_, ?_, hmax⟩
    · rw [hsame.dataStart, haligned]
    · rw [hsame.dataStart, hsame.diskSize]
      exact hinside
  have hbound : maxPosition < 2 ^ 64 := by norm_num [maxPosition]
  have hnumber : (UInt64.ofNat s).toNat = s := by
    rw [UInt64.toNat_ofNat', Nat.mod_eq_of_lt (by omega)]
  have hunit : dataUnitSize.toNat = 512 := rfl
  have hpos : (UInt64.ofNat s * dataUnitSize).toNat = s * 512 := by
    rw [toNat_mul_of_lt (by rw [hnumber, hunit]; linarith), hnumber, hunit]
  have hposition : volume.position (UInt64.ofNat s) = r.dataOffset.toNat + s * 512 := by
    rw [OpenVolume.position, hsame.inner]
    change (r.dataOffset + UInt64.ofNat s * dataUnitSize).toNat = _
    rw [toNat_add_of_lt (by rw [hpos]; linarith), hpos]
  refine ⟨?_, fun irp hoffset hlength => ⟨?_, fun params hparams i hi => ?_⟩,
    fun irp answers hoffset hlength hserved => ?_⟩
  · rw [hostPosition, hsame.inner, Checked.bind_overflow, Bool.or_eq_false_iff,
      Checked.mul_overflow, Checked.mul_val, Checked.add_overflow, hpos, hnumber, hunit]
    exact ⟨by linarith, by linarith⟩
  · rw [ioParams_overflow_iff hsame hinside hmax hs hoffset hlength]
    omega
  · obtain ⟨hvalue, hbounds⟩ := inBounds_sector hsame hinside hmax hs hoffset hlength
    have hbytes := toNat_length_sector hlength
    obtain ⟨p, hp, hwidens, -, -, hfirst⟩ := ioParams_of_mounted hm hbounds (by omega)
    obtain rfl : p = params := Except.ok.inj (hp.symm.trans hparams)
    have hstop := hwidens.stop
    have hstart := hm.aligned
    rw [hfirst, hsame.firstDataUnitNo, hvalue, UInt64.zero_add, Nat.mul_div_cancel s (by omega),
      hnumber]
    omega
  · obtain ⟨hvalue, hbounds⟩ := inBounds_sector hsame hinside hmax hs hoffset hlength
    have hbytes := toNat_length_sector hlength
    obtain ⟨-, hbuffer, hplain⟩ := processReadIrp_plain (P := P) hm hbounds hserved
    have hin : r.dataOffset.toNat + s * 512 + 512 ≤ host.length := by linarith
    refine (OpenVolume.read_eq_ok_iff P volume _ (n := 1) (by omega) _).mpr ⟨by omega, ?_, ?_⟩
    · rw [hposition, hsame.contents]
      exact hin
    · have hslice : (slice host (r.dataOffset.toNat + s * 512) 512).length = 32 * 16 :=
        length_slice_of_le hin
      have hsector : (decryptUnit P volume.cipher.chain (UInt64.ofNat s) (1 * 32)
          (slice host (r.dataOffset.toNat + s * 512) (1 * 512))).length = 512 :=
        (length_decryptUnit (n := 32) hslice).trans hslice
      rw [hposition, hsame.contents]
      apply List.ext_getElem?
      intro k
      by_cases hk : k < 512
      · rw [hplain k (by omega), plainByte, plainSector, hvalue, hsame.chain, hsame.dataStart,
          hsame.firstDataUnitNo, UInt64.zero_add]
        have hdiv : (s * 512 + k) / 512 = s := by omega
        have hmod : (s * 512 + k) % 512 = k := by omega
        rw [hdiv, hmod]
      · rw [List.getElem?_eq_none (by omega), List.getElem?_eq_none (by omega)]

/-- The request for the first sector. -/
def firstSectorRead : Irp where
  major := .read
  byteOffset := Int64.ofNat (512 * 0)
  length := 512
  userBuffer := List.replicate 512 0
  userBuffer_length := length_sectorBuffer

/-- The first sector already shows whether the data area is aligned. -/
theorem aligned_of_viewsAgree (hsame : SameVolume r host volume ext)
    (hinside : r.dataOffset.toNat + r.dataLength.toNat ≤ host.length)
    (hmax : host.length ≤ maxPosition) (hlength : 512 ≤ r.dataLength.toNat)
    (h : ViewsAgree P host volume ext) : r.dataOffset.toNat % 512 = 0 := by
  have hfirst := h 0 (by rw [hsame.inner]; omega)
  obtain ⟨hoverflow, -⟩ := hfirst.driverPosition firstSectorRead rfl rfl
  rw [ioParams_overflow_iff (s := 0) hsame hinside hmax (by omega) rfl rfl] at hoverflow
  omega

end Agreement

/-- The driver and the library see the same volume exactly when its data area begins at a
multiple of 512. -/
theorem viewsAgree_iff (P : CipherSuite) (credentials : Credentials)
    (candidates : List KdfCandidate) (file : FileState UInt8) (r : OpenResult)
    (userReadOnly : Bool) (volume : OpenVolume) (driveNo : UInt8) (readOnly : Bool)
    (widePath : List UInt16) (answers : OpenAnswers) (opened : OpenedVolume)
    (hopen : openVolumeWith P (.ok file.contents) credentials candidates = .ok r)
    (hlength : 512 ≤ r.dataLength.toNat)
    (hinside : r.dataOffset.toNat + r.dataLength.toNat ≤ file.contents.length)
    (hmax : file.contents.length ≤ maxPosition)
    (hvolume : OpenVolume.ofResult userReadOnly r (.ok file) = .ok volume)
    (hmount : tcOpenVolume (volumeThreadProc (mountViaDriver r driveNo readOnly widePath)) answers =
      .ok opened) :
    ViewsAgree P file.contents volume opened.ext ↔ r.dataOffset.toNat % 512 = 0 := by
  have hsame := sameVolume_of_mount (length_masterKey hopen) hvolume hmount
  exact ⟨aligned_of_viewsAgree hsame hinside hmax hlength,
    viewsAgree_of_aligned hsame hinside hmax⟩

section Sample

/-! A volume of 256 KiB whose header says where its data area begins. -/

def zeroSalt : {bs : Bytes // bs.length = pkcs5SaltSize} :=
  ⟨List.replicate pkcs5SaltSize 0, length_zeroSalt⟩

def headerAtOffset (dataOffset : UInt64) : VolumeHeader :=
  { normalHeader 262144 zeroSalt (List.replicate 64 0) with encryptedAreaStart := dataOffset }

def promptOpen : OpenAnswers where
  pathAllocated := true
  createReadWrite := statusSuccess
  createReadOnly := statusSuccess
  createReadOnlyRetry := statusSuccess
  basicInformation := statusSuccess
  standardInformation := statusSuccess
  endOfFile := 655360
  referenceObject := statusSuccess

private theorem exists_hostFile (mount : MountStruct) : ∃ host, openHostFile
    (volumeThreadProc mount).wszVolume ((volumeThreadProc mount).readOnly ≠ 0)
      (volumeThreadProc mount).preserveTimestamps promptOpen = .ok host := by
  obtain ⟨rest, hrest⟩ : ∃ rest, (volumeThreadProc mount).wszVolume = 0x5C :: rest := ⟨_, rfl⟩
  have hpath : (((volumeThreadProc mount).wszVolume.take tcMaxPath).takeWhile (· ≠ 0)).length ≠
      0 := by
    rw [hrest, tcMaxPath, List.take_succ_cons, List.takeWhile_cons_of_pos (by decide)]
    exact Nat.succ_ne_zero _
  refine ⟨fileFields false (volumeThreadProc mount).preserveTimestamps .readWrite promptOpen, ?_⟩
  rw [openHostFile]
  simp only [hpath, if_false]
  rfl

/-- Such a volume opens, and the driver mounts it. -/
theorem exists_mountedSample (P : CipherSuite) (K : KdfLibrary) (dataOffset : UInt64) :
    ∃ (host : Bytes) (r : OpenResult) (volume : OpenVolume) (opened : OpenedVolume),
      host.length = 655360 ∧
      openVolumeFileWithKdf P K (.ok host) ⟨[0x70], []⟩ .pbkdf2Sha512 1 = .ok r ∧
      r.dataOffset = dataOffset ∧ r.dataLength = 262144 ∧
      OpenVolume.ofResult false r (.ok ⟨host, 0, 0⟩) = .ok volume ∧
      tcOpenVolume (volumeThreadProc (mountViaDriver r 23 false [0x76])) promptOpen =
        .ok opened := by
  obtain ⟨key, hkey⟩ : ∃ key, (makeKdfCandidate K .pbkdf2Sha512 1).implementation.derive [0x70]
      zeroSalt.1 (makeKdfCandidate K .pbkdf2Sha512 1).iterations maxHeaderKeySize = .ok key :=
    ⟨_, rfl⟩
  obtain ⟨-, chain, hchain⟩ := exists_headerChain
    ((makeKdfCandidate K .pbkdf2Sha512 1).implementation.derive_length hkey) .aes
  have hwellformed : Wellformed (headerAtOffset dataOffset) :=
    ⟨rfl, (wellformed_normalHeader 262144 zeroSalt (List.replicate 64 0)).sectorSize⟩
  have hslot : (slotBytes P chain zeroSalt.1 (headerAtOffset dataOffset)).length =
      volumeHeaderSize := length_slotBytes zeroSalt.2
  let host := slotBytes P chain zeroSalt.1 (headerAtOffset dataOffset) ++ List.replicate 589824 0
  have hlen : host.length = 655360 := by
    rw [List.length_append, hslot, List.length_replicate]
    rfl
  have hfirst : headerAt host 0 = sealedHeader P chain zeroSalt.1 (headerAtOffset dataOffset) := by
    rw [headerAt, slice_append_left (by rw [hslot]; decide), slice, List.drop_zero,
      take_slotBytes P chain _ zeroSalt.2]
  have hopen : openVolumeWith P (.ok host) ⟨[0x70], []⟩
      ([] ++ makeKdfCandidate K .pbkdf2Sha512 1 :: []) = _ :=
    openVolumeWith_primary (by rw [hlen]; decide) rfl (fun _ hk => absurd hk List.not_mem_nil)
      noEarlierCipher_aes
      (by rw [hfirst, attemptOn_sealedHeader zeroSalt.2 hwellformed hkey hchain])
  obtain ⟨r, hr⟩ : ∃ r, r = openResult .aes (makeKdfCandidate K .pbkdf2Sha512 1) zeroSalt.1
    ((headerAtOffset dataOffset).stored zeroSalt.1 zeroSalt.2) false := ⟨_, rfl⟩
  rw [← hr] at hopen
  have hmaster := length_masterKey hopen
  obtain ⟨sectorCipher, hcipher, -⟩ := createSectorCipher_of_length hmaster
  obtain ⟨kernelCipher, hkernel, -⟩ := KernelSectorCipher.new_of_length hmaster
  obtain ⟨hea, hkeyField, hoffset, hdisk, hsector⟩ :=
    volumeThreadProc_mountViaDriver 23 false [0x76] hmaster
  obtain ⟨hostFile, hhost⟩ := exists_hostFile (mountViaDriver r 23 false [0x76])
  have hinit : initCipherFromEaAndKey (cipherToEa r.dataCipher) r.masterKey =
      some kernelCipher := by
    have hwhole : r.masterKey.take (r.dataCipher.keySize * 2) = r.masterKey :=
      List.take_of_length_le hmaster.le
    simp only [initCipherFromEaAndKey, cipherTypeFromEa_cipherToEa, hwhole, hkernel]
    rfl
  have hlength : r.dataLength = 262144 := by
    rw [hr]
    rfl
  have hrange : ¬ ((262144 : UInt64) < tcMinVolumeSizeLegacy ∨ 262144 > tcMaxVolumeSize) := by
    decide
  have hsize : ¬ ((512 : UInt32) = 0 ∨ 512 > maxSectorSize) := by decide
  obtain ⟨opened, hmount⟩ : ∃ opened, tcOpenVolume (volumeThreadProc
      (mountViaDriver r 23 false [0x76])) promptOpen = .ok opened := by
    rw [tcOpenVolume, hsector, if_neg hsize, hhost, hdisk, hlength, hea, hkeyField, hinit]
    simp only [hrange, if_false]
    exact ⟨_, rfl⟩
  refine ⟨host, r, ⟨r, ⟨host, 0, 0⟩, sectorCipher, false, none, false⟩, opened, hlen, hopen,
    (by rw [hr]; rfl), hlength, ?_, hmount⟩
  rw [OpenVolume.ofResult_eq, hcipher]
  rfl

/-- The data area of a new volume begins at a multiple of 512. -/
theorem viewsAgree_newVolume : ∃ dataOffset : UInt64, dataOffset = 262144 ∧ ∀ P K,
    ∃ (host : Bytes) (r : OpenResult) (volume : OpenVolume) (opened : OpenedVolume),
      openVolumeFileWithKdf P K (.ok host) ⟨[0x70], []⟩ .pbkdf2Sha512 1 = .ok r ∧
      r.dataOffset = dataOffset ∧ ViewsAgree P host volume opened.ext := by
  refine ⟨262144, rfl, fun P K => ?_⟩
  obtain ⟨host, r, volume, opened, hlen, hopen, hoffset, hlength, hvolume, hmount⟩ :=
    exists_mountedSample P K 262144
  refine ⟨host, r, volume, opened, hopen, hoffset, (viewsAgree_iff P ⟨[0x70], []⟩
    [makeKdfCandidate K .pbkdf2Sha512 1] ⟨host, 0, 0⟩ r false volume 23 false [0x76] promptOpen
    opened hopen ?_ ?_ ?_ hvolume hmount).mpr ?_⟩
  · rw [hlength]
    decide
  · rw [hoffset, hlength, hlen]
    decide
  · rw [hlen, maxPosition]
    norm_num
  · rw [hoffset]
    decide

/-- One byte further on the driver leaves the data area. -/
theorem not_viewsAgree_unaligned : ∃ dataOffset : UInt64, dataOffset = 262145 ∧ ∀ P K,
    ∃ (host : Bytes) (r : OpenResult) (volume : OpenVolume) (opened : OpenedVolume),
      openVolumeFileWithKdf P K (.ok host) ⟨[0x70], []⟩ .pbkdf2Sha512 1 = .ok r ∧
      r.dataOffset = dataOffset ∧ 512 ≤ r.dataLength.toNat ∧
      r.dataOffset.toNat + r.dataLength.toNat ≤ host.length ∧
      OpenVolume.ofResult false r (.ok ⟨host, 0, 0⟩) = .ok volume ∧
      tcOpenVolume (volumeThreadProc (mountViaDriver r 23 false [0x76])) promptOpen =
        .ok opened ∧ ¬ ViewsAgree P host volume opened.ext := by
  refine ⟨262145, rfl, fun P K => ?_⟩
  obtain ⟨host, r, volume, opened, hlen, hopen, hoffset, hlength, hvolume, hmount⟩ :=
    exists_mountedSample P K 262145
  have hmin : 512 ≤ r.dataLength.toNat := by
    rw [hlength]
    decide
  have hinside : r.dataOffset.toNat + r.dataLength.toNat ≤ host.length := by
    rw [hoffset, hlength, hlen]
    decide
  have hmax : host.length ≤ maxPosition := by
    rw [hlen, maxPosition]
    norm_num
  refine ⟨host, r, volume, opened, hopen, hoffset, hmin, hinside, hvolume, hmount, fun hagree => ?_⟩
  have hsame := sameVolume_of_mount (length_masterKey hopen) hvolume hmount
  have haligned := aligned_of_viewsAgree hsame hinside hmax hmin hagree
  rw [hoffset] at haligned
  exact absurd haligned (by decide)

end Sample

end Oxhide.MountedViews
