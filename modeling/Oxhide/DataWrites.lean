import Oxhide.CreateThenOpen
import Oxhide.OpenVolumes

/-! # Data writes and the header slots

The data area of a new volume starts behind four header sizes and is as long as the
volume, so that it ends with the file and covers the two backup slots. A run of
sector writes leaves the slots alone when every write keeps two header sizes away
from the end of the data area. -/
namespace Oxhide.DataWrites
open BlockCiphers CheckedWords CipherChain CipherTypes CreateThenOpen FaultyFile HeaderFormat
  KeyDerivation ListSplice OpenVolumes OpeningSearch SealedHeaders SectorCiphers VolumeCreation
  VolumeErrors VolumeOpening WordBytes

/-- The primary, hidden, backup and hidden backup slots of a file of length `n`. -/
def slotOffsets (n : ℕ) : List ℕ :=
  [0, volumeHeaderSize, n - 2 * volumeHeaderSize, n - volumeHeaderSize]

structure SameSlots (before after : Bytes) : Prop where
  length : after.length = before.length
  slots : ∀ off ∈ slotOffsets before.length,
    slice after off volumeHeaderSize = slice before off volumeHeaderSize

/-- One sector written to the volume, with the faults of its file calls. -/
structure SectorWrite where
  sector : UInt64
  buf : Bytes
  buf_length : buf.length = 512
  plan : FaultPlan

def applyWrite (P : CipherSuite) (volume : OpenVolume) (w : SectorWrite) : OpenVolume :=
  (volume.write P w.sector w.buf w.plan).2

def runWrites (P : CipherSuite) (volume : OpenVolume) (ws : List SectorWrite) : OpenVolume :=
  ws.foldl (applyWrite P) volume

/-- The sector ends two header sizes or more in front of the end of the data area. -/
def KeepsClear (volumeSize : UInt64) (w : SectorWrite) : Prop :=
  512 * (w.sector.toNat + 1) + 2 * volumeHeaderSize ≤ volumeSize.toNat

theorem SameSlots.refl (contents : Bytes) : SameSlots contents contents :=
  ⟨rfl, fun _ _ => rfl⟩

theorem SameSlots.trans {before between after : Bytes} (h : SameSlots before between)
    (h' : SameSlots between after) : SameSlots before after := by
  refine ⟨h'.length.trans h.length, fun off hoff => ?_⟩
  rw [h'.slots off (h.length.symm ▸ hoff), h.slots off hoff]

theorem SameSlots.headerAt_eq {before after : Bytes} (h : SameSlots before after) {off : ℕ}
    (hoff : off ∈ slotOffsets before.length) : headerAt after off = headerAt before off := by
  have hslot := SealedHeaders.headerAt_eq (h.slots off hoff)
  exact hslot.trans (SealedHeaders.headerAt_eq rfl).symm

section Run
variable {P : CipherSuite} {volume : OpenVolume} {volumeSize : UInt64} {contents : Bytes}

/-- What every state of a run has in common with the volume as it was opened. -/
structure Along (P : CipherSuite) (volumeSize : UInt64) (contents : Bytes) (volume : OpenVolume) :
    Prop where
  dataOffset : volume.inner.dataOffset = UInt64.ofNat (4 * volumeHeaderSize)
  fileSize : contents.length = volumeSize.toNat + 4 * volumeHeaderSize
  maxSize : contents.length ≤ maxPosition
  slots : SameSlots contents volume.file.contents

theorem position_of_dataOffset (h : volume.inner.dataOffset = UInt64.ofNat (4 * volumeHeaderSize))
    {sector : UInt64} (hfits : 4 * volumeHeaderSize + 512 * sector.toNat < 2 ^ 64) :
    volume.position sector = 4 * volumeHeaderSize + 512 * sector.toNat := by
  have hstart : volume.inner.dataOffset.toNat = 4 * volumeHeaderSize := by
    rw [h]
    rfl
  rw [OpenVolume.position_eq, OpenVolume.firstByte, hstart, Nat.mod_eq_of_lt hfits]

/-- A write that keeps clear of the end stores between the slots. -/
theorem Along.applyWrite (h : Along P volumeSize contents volume) {w : SectorWrite}
    (hclear : KeepsClear volumeSize w) : Along P volumeSize contents (applyWrite P volume w) := by
  have hlen := h.fileSize
  have hsame := h.slots.length
  have hmax := h.maxSize
  have hbound : maxPosition < 2 ^ 64 := by norm_num [maxPosition]
  have hpos : 0 < volumeHeaderSize := by decide
  rw [KeepsClear] at hclear
  obtain ⟨file, triggered, k, hrun, hcontents⟩ := OpenVolume.write_effect P volume w.sector
    w.plan (n := 1) (by omega) w.buf_length
  have hposition : volume.position w.sector = _ := position_of_dataOffset h.dataOffset (by omega)
  have hstored : ((volume.encrypted P w.sector w.buf).take k).length ≤ 512 := by
    rw [List.length_take, OpenVolume.length_encrypted P _ _ (n := 1) (by omega) w.buf_length,
      w.buf_length]
    exact min_le_right k 512
  rw [DataWrites.applyWrite, hrun]
  refine ⟨h.dataOffset, hlen, hmax, h.slots.trans ?_⟩
  have hend : volume.position w.sector + 512 + 2 * volumeHeaderSize ≤
      volume.file.contents.length := by omega
  have hstart : 4 * volumeHeaderSize ≤ volume.position w.sector := by omega
  rw [storeAt_of_le (by omega)] at hcontents
  change SameSlots volume.file.contents file.contents
  rw [hcontents]
  refine ⟨length_splice (by omega), fun off hoff => slice_splice_of_disjoint (by omega) ?_⟩
  simp only [slotOffsets, List.mem_cons, List.not_mem_nil, or_false] at hoff
  rcases hoff with hoff | hoff | hoff | hoff <;> omega

theorem Along.runWrites (h : Along P volumeSize contents volume) {ws : List SectorWrite}
    (hclear : ∀ w ∈ ws, KeepsClear volumeSize w) :
    Along P volumeSize contents (runWrites P volume ws) := by
  induction ws generalizing volume with
  | nil => exact h
  | cons w ws ih =>
    exact ih (h.applyWrite (hclear w List.mem_cons_self))
      fun w' hw' => hclear w' (List.mem_cons_of_mem w hw')

end Run

/-- In every run whose writes keep clear of the end of the data area the header slots stay
as they were, and both normal headers still open. -/
theorem sameSlots_runWrites (P : CipherSuite) (K : KdfLibrary) (R : RandomSource)
    (plan : FaultPlan) (st st' : FileState UInt8) (volumeSize : UInt64) (password : Bytes)
    (cipher : CipherType) (candidate : KdfCandidate) (credentials : Credentials)
    (kdf : Option KdfAlgorithm) (pim : Option Int32) (ks₁ ks₂ : List KdfCandidate)
    (volume : OpenVolume) (ws : List SectorWrite)
    (hlen : st.contents.length = volumeSize.toNat + 4 * volumeHeaderSize)
    (hmax : st.contents.length ≤ maxPosition) (hpos : st.pos = 0)
    (hcreate : createVolumeFull P R volumeSize password cipher candidate.implementation
      candidate.iterations plan st = (.ok (), st'))
    (hmixed : credentials.mixed = .ok password)
    (hsearch : OpenVolume.searchCandidates K kdf pim = ks₁ ++ candidate :: ks₂)
    (hkdfs : Rejects P password (headerAt st'.contents 0) ks₁)
    (hearlier : NoEarlierCipher P password (headerAt st'.contents 0) candidate cipher)
    (hopen : OpenVolume.openWith P K (.ok st'.contents) (.ok ⟨st'.contents, 0, 0⟩) credentials kdf
      pim false = .ok volume)
    (hclear : ∀ w ∈ ws, KeepsClear volumeSize w) :
    SameSlots st'.contents (runWrites P volume ws).file.contents ∧
      ∃ masterKey, R.fill 1 (cipher.keySize * 2) = .ok masterKey ∧
        (∃ r, OpenVolume.openResultOf P K (.ok (runWrites P volume ws).file.contents) credentials
            kdf pim = .ok r ∧ Describes r cipher masterKey.1 volumeSize false) ∧
        ∀ data, data.length = (runWrites P volume ws).file.contents.length →
          data.drop volumeHeaderSize = (runWrites P volume ws).file.contents.drop
            volumeHeaderSize →
          Rejects P password (headerAt data 0) (OpenVolume.searchCandidates K kdf pim) →
          ∃ r, OpenVolume.openResultOf P K (.ok data) credentials kdf pim = .ok r ∧
            Describes r cipher masterKey.1 volumeSize true := by
  have hfile : 4 * volumeHeaderSize ≤ st.contents.length := by omega
  obtain ⟨masterKey, hdr, hmaster, hlength, hfirst, hsecond, haccept⟩ :=
    exists_createdHeader hfile hpos hcreate
  rw [hfirst] at hkdfs hearlier
  simp only [OpenVolume.openResultOf_eq, hsearch]
  obtain ⟨⟨r, hr, hdescribes⟩, -⟩ := opens_of_headers ks₁ ks₂ (by omega) hmixed hfirst
    (by rw [hlength, hsecond]) hkdfs hearlier haccept
  obtain ⟨r', sectorCipher, hresult, -, rfl⟩ := OpenVolume.openWith_eq_ok.mp hopen
  rw [OpenVolume.openResultOf_eq, hsearch] at hresult
  obtain rfl : r = r' := Except.ok.inj (hr.symm.trans hresult)
  have hopened : Along P volumeSize st'.contents
      ⟨r, ⟨st'.contents, 0, 0⟩, sectorCipher, false, none, false⟩ :=
    ⟨hdescribes.dataOffset, by omega, by omega, SameSlots.refl _⟩
  have halong := hopened.runWrites hclear
  have hslots := halong.slots
  have hsame := hslots.length
  refine ⟨hslots, masterKey, hmaster, opens_of_headers ks₁ ks₂ (by omega) hmixed ?_ ?_ hkdfs
    hearlier haccept⟩
  · rw [hslots.headerAt_eq (by simp [slotOffsets]), hfirst]
  · rw [hsame, hslots.headerAt_eq (by simp [slotOffsets]), hlength, hsecond]

section Sample

/-! Small volumes with zeros for randomness, on files of zeros. -/

def blank (volumeSize : UInt64) : FileState UInt8 :=
  ⟨List.replicate (volumeSize.toNat + 4 * volumeHeaderSize) 0, 0, 0⟩

/-- Such a volume can be created and opened. -/
theorem exists_openedVolume (P : CipherSuite) (K : KdfLibrary) (volumeSize : UInt64)
    (hsmall : volumeSize.toNat < 2 ^ 32) :
    (blank volumeSize).contents.length = volumeSize.toNat + 4 * volumeHeaderSize ∧
      (blank volumeSize).contents.length ≤ maxPosition ∧
      ∃ st' volume, createVolumeFull P zeroRandom volumeSize [0x70] .aes
          (makeKdfCandidate K .pbkdf2Sha512 1).implementation
          (makeKdfCandidate K .pbkdf2Sha512 1).iterations noFaults (blank volumeSize) =
            (.ok (), st') ∧
        OpenVolume.openWith P K (.ok st'.contents) (.ok ⟨st'.contents, 0, 0⟩) ⟨[0x70], []⟩
          (some .pbkdf2Sha512) (some 1) false = .ok volume ∧
        st'.contents.length = volumeSize.toNat + 4 * volumeHeaderSize ∧
        volume.file = ⟨st'.contents, 0, 0⟩ ∧
        volume.inner.dataOffset = 262144 ∧ volume.inner.dataLength = volumeSize ∧
        volume.readOnly = false ∧ volume.hiddenProtectionTriggered = false ∧
        volume.protectedRange = none := by
  have hlen : (blank volumeSize).contents.length = volumeSize.toNat + 4 * volumeHeaderSize :=
    List.length_replicate
  have hfile : 4 * volumeHeaderSize ≤ (blank volumeSize).contents.length := by omega
  have hmax : (blank volumeSize).contents.length ≤ maxPosition := by
    rw [hlen, maxPosition, volumeHeaderSize]
    omega
  obtain ⟨st', hcreate⟩ : ∃ st', createVolumeFull P zeroRandom volumeSize [0x70] .aes
      (makeKdfCandidate K .pbkdf2Sha512 1).implementation
      (makeKdfCandidate K .pbkdf2Sha512 1).iterations noFaults (blank volumeSize) = (.ok (), st') :=
    exists_createVolumeFull (fun k len => ⟨_, rfl⟩) hfile hmax rfl rfl rfl
  obtain ⟨masterKey, hdr, hmaster, hlength, hfirst, hsecond, haccept⟩ :=
    exists_createdHeader hfile rfl hcreate
  have hmixed : Credentials.mixed ⟨[0x70], []⟩ = .ok [0x70] := rfl
  obtain ⟨⟨r, hr, hdescribes⟩, -⟩ := opens_of_headers [] [] (by omega) hmixed hfirst
    (by rw [hlength, hsecond]) (fun _ hk => absurd hk List.not_mem_nil) noEarlierCipher_aes haccept
  have hkey : r.masterKey.length = r.dataCipher.keySize * 2 := by
    rw [hdescribes.masterKey, hdescribes.dataCipher, masterKey.2]
  obtain ⟨sectorCipher, hcipher, -⟩ := createSectorCipher_of_length hkey
  exact ⟨hlen, hmax, st', ⟨r, ⟨st'.contents, 0, 0⟩, sectorCipher, false, none, false⟩, hcreate,
    OpenVolume.openWith_eq_ok.mpr ⟨r, sectorCipher, hr, hcipher, rfl⟩, by omega, rfl,
    hdescribes.dataOffset, hdescribes.dataLength, rfl, rfl, rfl⟩

def sectorOf (b : UInt8) : SectorWrite := ⟨0, List.replicate 512 b, List.length_replicate, noFaults⟩

/-- In a volume of 256 KiB the first sector can be written. -/
theorem sameSlots_firstSector : ∃ volumeSize : UInt64, volumeSize = 262144 ∧ ∀ P K,
    ∃ st' volume, createVolumeFull P zeroRandom volumeSize [0x70] .aes
        (makeKdfCandidate K .pbkdf2Sha512 1).implementation
        (makeKdfCandidate K .pbkdf2Sha512 1).iterations noFaults (blank volumeSize) =
          (.ok (), st') ∧
      OpenVolume.openWith P K (.ok st'.contents) (.ok ⟨st'.contents, 0, 0⟩) ⟨[0x70], []⟩
        (some .pbkdf2Sha512) (some 1) false = .ok volume ∧
      SameSlots st'.contents (runWrites P volume [sectorOf 1]).file.contents := by
  refine ⟨262144, rfl, fun P K => ?_⟩
  obtain ⟨hlen, hmax, st', volume, hcreate, hopen, -⟩ :=
    exists_openedVolume P K 262144 (by decide)
  have hclear : ∀ w ∈ [sectorOf 1], KeepsClear 262144 w := by
    intro w hw
    rw [List.mem_singleton.mp hw, KeepsClear]
    decide
  exact ⟨st', volume, hcreate, hopen, (sameSlots_runWrites P K zeroRandom noFaults
    (blank 262144) st' 262144 [0x70] .aes (makeKdfCandidate K .pbkdf2Sha512 1) ⟨[0x70], []⟩
    (some .pbkdf2Sha512) (some 1) [] [] volume [sectorOf 1] hlen hmax rfl hcreate rfl rfl
    (fun _ hk => absurd hk List.not_mem_nil)
    noEarlierCipher_aes hopen hclear).1⟩

/-- In a volume of 128 KiB the first sector lies in the backup slot: of two different
sectors at most one is what stands there. -/
theorem firstSector_overwrites_backup : ∃ volumeSize : UInt64, volumeSize = 131072 ∧ ∀ P K,
    ∃ st' volume, createVolumeFull P zeroRandom volumeSize [0x70] .aes
        (makeKdfCandidate K .pbkdf2Sha512 1).implementation
        (makeKdfCandidate K .pbkdf2Sha512 1).iterations noFaults (blank volumeSize) =
          (.ok (), st') ∧
      OpenVolume.openWith P K (.ok st'.contents) (.ok ⟨st'.contents, 0, 0⟩) ⟨[0x70], []⟩
        (some .pbkdf2Sha512) (some 1) false = .ok volume ∧
      0 < volume.maxSector ∧
      ¬ (SameSlots st'.contents (runWrites P volume [sectorOf 0]).file.contents ∧
        SameSlots st'.contents (runWrites P volume [sectorOf 1]).file.contents) := by
  refine ⟨131072, rfl, fun P K => ?_⟩
  obtain ⟨-, hmax, st', volume, hcreate, hopen, hlength, hfile, hoffset, hdataLength, hro,
    htriggered, hrange⟩ := exists_openedVolume P K 131072 (by decide)
  have hlength' : st'.contents.length = 393216 := hlength
  refine ⟨st', volume, hcreate, hopen, by rw [OpenVolume.maxSector, hdataLength]; decide, ?_⟩
  have hposition : volume.position 0 = 262144 := by
    rw [OpenVolume.position, hoffset]
    decide
  -- What the backup slot holds afterwards is the encrypted sector.
  have hstored (b : UInt8) (hsame : SameSlots st'.contents
      (runWrites P volume [sectorOf b]).file.contents) :
      volume.encrypted P 0 (List.replicate 512 b) = slice st'.contents 262144 512 := by
    have haccepts : volume.Accepts 0 (List.replicate 512 b).length := by
      refine ⟨hro, htriggered, by rw [OpenVolume.checkProtectedRange, hrange], ?_⟩
      rw [hposition, List.length_replicate, maxPosition]
      norm_num
    have hwrite := OpenVolume.write_of_accepts (P := P) (n := 1) (by omega)
      List.length_replicate haccepts
    have hrun : (runWrites P volume [sectorOf b]).file.contents =
        storeAt 0 st'.contents 262144 (volume.encrypted P 0 (List.replicate 512 b)) := by
      change (volume.write P 0 (List.replicate 512 b) noFaults).2.file.contents = _
      rw [hwrite, ← hposition]
      exact congrArg (fun f => storeAt 0 f.contents _ _) hfile
    have hlen := OpenVolume.length_encrypted P volume 0 (n := 1) (by omega)
      (List.length_replicate (a := b))
    rw [List.length_replicate] at hlen
    have hslot := hsame.slots 262144 (by rw [hlength']; decide)
    have hself := slice_storeAt_self 0 st'.contents (volume.encrypted P 0 (List.replicate 512 b))
      262144
    rw [← hrun, hlen] at hself
    have hpart : slice (slice st'.contents 262144 volumeHeaderSize) 0 512 = _ :=
      slice_slice (by decide)
    rw [← hslot, slice_slice (by decide)] at hpart
    exact hself.symm.trans hpart
  rintro ⟨hzero, hone⟩
  have hboth := (hstored 0 hzero).trans (hstored 1 hone).symm
  have hblocks : (List.replicate 512 (0 : UInt8)).length = 32 * 16 ∧
      (List.replicate 512 (1 : UInt8)).length = 32 * 16 :=
    ⟨List.length_replicate, List.length_replicate⟩
  have hplain := congrArg (decryptUnit P volume.cipher.chain 0 32) hboth
  rw [OpenVolume.encrypted, OpenVolume.encrypted, hblocks.1, hblocks.2] at hplain
  change decryptUnit P volume.cipher.chain 0 32 (encryptUnit P volume.cipher.chain 0 32 _) =
    decryptUnit P volume.cipher.chain 0 32 (encryptUnit P volume.cipher.chain 0 32 _) at hplain
  rw [decryptUnit_encryptUnit hblocks.1, decryptUnit_encryptUnit hblocks.2] at hplain
  have hhead := congrArg List.head? hplain
  revert hhead
  decide

end Sample

end Oxhide.DataWrites
