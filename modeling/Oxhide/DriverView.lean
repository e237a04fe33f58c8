import Oxhide.EncryptedIoQueue

/-! # The virtual disk behind the request pipeline

Byte `i` of the virtual disk lies in the data unit numbered from sector `i / 512`
of the data area. For a sector-aligned data area `processReadIrp_plain` says that
a served read returns these bytes, and `processWriteIrp_host` what a served write
puts into the host file. -/
namespace Oxhide.DriverView
open BlockCiphers CheckedWords CipherChain EncryptedIoQueue FaultyFile InPlaceBuffer ListBlocks
  ListSplice SectorCiphers SectorIo WordBytes

/-- Start of the data area, length of the disk and offset of a request as the pipeline
uses them. -/
def dataStart (ext : Extension) : ℕ := ext.volDataAreaOffset.toNat

def diskSize (ext : Extension) : ℕ := ext.diskLength.toUInt64.toNat

def offset (irp : Irp) : ℕ := irp.byteOffset.toUInt64.toNat

/-- A mounted volume on its host file: the data area begins at a sector boundary and
lies in the file. -/
structure Mounted (ext : Extension) (host : Bytes) : Prop where
  aligned : dataStart ext % 512 = 0
  covered : dataStart ext + diskSize ext ≤ host.length
  fileSize : host.length ≤ maxPosition

structure InBounds (ext : Extension) (irp : Irp) : Prop where
  nonneg : 0 ≤ irp.byteOffset
  inside : offset irp + irp.length.toNat ≤ diskSize ext

/-- A host file call that succeeds and moves the whole aligned range. -/
structure Transfers (host : Bytes) (params : SectorIoParams) (answer : HostTransfer) : Prop where
  success : ntSuccess answer.status = true
  short : params.alignedLength.toNat < 2 ^ 32
  complete : params.alignedLength.toNat ≤ answer.transferred
  inside : params.alignedHostOffset.toNat + params.alignedLength.toNat ≤ host.length

/-- A read whose kernel calls all succeed. -/
structure ReadServed (ext : Extension) (irp : Irp) (answers : KernelAnswers) (host : Bytes) :
    Prop where
  poolAllocated : answers.poolAllocated = true
  bufferMapped : answers.bufferMapped = true
  read : ∀ params, (ioParams ext irp).val = .ok params → Transfers host params answers.read

section Transfer

theorem toInt64_of_lt {x : UInt64} (h : x.toNat < 2 ^ 63) :
    ¬ x.toInt64 < 0 ∧ x.toInt64.toNatClampNeg = x.toNat := by
  have hofNat : x.toInt64 = Int64.ofNat x.toNat := (Int64.ofNat_bitVecToNat x.toBitVec).symm
  refine ⟨Int64.not_lt.mpr ((toInt64_nonneg_iff x).mpr h), ?_⟩
  rw [hofNat]
  exact Int64.toNatClampNeg_ofNat_of_lt h

variable {host : Bytes} {params : SectorIoParams} {answer : HostTransfer}

private theorem Transfers.moved (h : Transfers host params answer) :
    min answer.transferred params.alignedLength.toUInt32.toNat = params.alignedLength.toNat := by
  have hshort := h.short
  have hcomplete := h.complete
  rw [UInt64.toNat_toUInt32, Nat.mod_eq_of_lt hshort]
  omega

/-- A read leaves the size of the buffer alone. -/
theorem length_zwReadFile (host : Bytes) (byteOffset : Int64) (length : UInt64)
    (answer : HostTransfer) :
    (zwReadFile host byteOffset length.toUInt32 answer
      (List.replicate length.toNat 0)).length = length.toNat := by
  have hshort : length.toUInt32.toNat ≤ length.toNat := by
    rw [UInt64.toNat_toUInt32]
    exact Nat.mod_le _ _
  rw [zwReadFile]
  split
  · exact List.length_replicate
  · rw [length_splice, List.length_replicate]
    rw [length_slice, List.length_replicate]
    omega

theorem zwReadFile_eq (h : Transfers host params answer) (hfile : host.length ≤ maxPosition)
    (hpos : 0 < params.alignedLength.toNat) :
    zwReadFile host params.alignedHostOffset.toInt64 params.alignedLength.toUInt32 answer
        (List.replicate params.alignedLength.toNat 0) =
      slice host params.alignedHostOffset.toNat params.alignedLength.toNat := by
  have hinside := h.inside
  obtain ⟨hnonneg, hoffset⟩ := toInt64_of_lt (x := params.alignedHostOffset) (by
    rw [maxPosition] at hfile
    omega)
  have hlen := length_slice_of_le hinside
  rw [zwReadFile, if_neg hnonneg, hoffset, h.moved]
  apply List.ext_getElem?
  intro i
  rw [getElem?_splice (Nat.zero_le _), if_neg (Nat.not_lt_zero i), Nat.zero_add, hlen,
    Nat.sub_zero]
  by_cases hi : i < params.alignedLength.toNat
  · rw [if_pos hi]
  · rw [if_neg hi, List.getElem?_eq_none (by simpa using hi),
      List.getElem?_eq_none (by rw [hlen]; omega)]

theorem zwWriteFile_eq (h : Transfers host params answer) (hfile : host.length ≤ maxPosition)
    (hpos : 0 < params.alignedLength.toNat) {data : Bytes}
    (hdata : data.length = params.alignedLength.toNat) :
    zwWriteFile host params.alignedHostOffset.toInt64 params.alignedLength.toUInt32 answer data =
      splice host params.alignedHostOffset.toNat data := by
  have hinside := h.inside
  obtain ⟨hnonneg, hoffset⟩ := toInt64_of_lt (x := params.alignedHostOffset) (by
    rw [maxPosition] at hfile
    omega)
  rw [zwWriteFile, if_neg hnonneg, hoffset, h.moved, ← hdata, List.take_length,
    storeAt_of_le (by omega)]

end Transfer

section View
variable (P : CipherSuite) (ext : Extension) (host : Bytes)

/-- Sector `s` of the virtual disk. -/
def plainSector (s : ℕ) : Bytes :=
  decryptUnit P ext.cryptoInfo.chain (ext.firstDataUnitNo + UInt64.ofNat s) 32
    (slice host (dataStart ext + s * 512) 512)

/-- Byte `i` of the virtual disk. -/
def plainByte (i : ℕ) : Option UInt8 := (plainSector P ext host (i / 512))[i % 512]?

end View

section Served
variable {P : CipherSuite} {ext : Extension} {host : Bytes} {irp : Irp} {answers : KernelAnswers}

private theorem offset_lt (hm : Mounted ext host) (hb : InBounds ext irp) :
    dataStart ext + offset irp + irp.length.toNat ≤ host.length ∧ host.length < 2 ^ 63 := by
  have hcovered := hm.covered
  have hinside := hb.inside
  have hfile := hm.fileSize
  rw [maxPosition] at hfile
  omega

/-- On a mounted volume a request in bounds is widened to the sectors it touches, and
units are numbered by the sectors of the data area. -/
theorem ioParams_of_mounted (hm : Mounted ext host) (hb : InBounds ext irp)
    (hpos : 0 < irp.length.toNat) :
    ∃ p, (ioParams ext irp).val = .ok p ∧
      Widens p (dataStart ext + offset irp) irp.length.toNat ∧
      p.alignedHostOffset.toNat = dataStart ext + offset irp / 512 * 512 ∧
      p.userDataOffset = offset irp % 512 ∧
      p.firstSectorIndex = ext.firstDataUnitNo + UInt64.ofNat (offset irp / 512) := by
  obtain ⟨hfit, hfile⟩ := offset_lt hm hb
  have haligned := hm.aligned
  have hinside := hb.inside
  have hlen : irp.length.toUInt64.toNat = irp.length.toNat := UInt32.toNat_toUInt64 irp.length
  simp only [dataStart, offset, diskSize, ← hlen] at hfit haligned hinside hpos ⊢
  obtain ⟨p, hp, hwidens, hfirst⟩ := computeSectorIoParams_spec hpos hinside
    (show ext.volDataAreaOffset.toNat + _ + _ + 512 < 2 ^ 64 by omega) ext.firstDataUnitNo
  have hoffset : p.alignedHostOffset.toNat =
      ext.volDataAreaOffset.toNat + irp.byteOffset.toUInt64.toNat / 512 * 512 := by
    rw [hwidens.offset]
    omega
  refine ⟨p, hp, hwidens, hoffset, ?_, ?_⟩
  · rw [hwidens.userOffset]
    omega
  · have hunits : ((p.alignedHostOffset - ext.volDataAreaOffset) / 512).toNat =
        irp.byteOffset.toUInt64.toNat / 512 := by
      rw [UInt64.toNat_div, toNat_sub_of_le (by omega), hoffset,
        show (512 : UInt64).toNat = 512 from rfl]
      omega
    rw [hfirst, ← hunits, UInt64.ofNat_toNat]

theorem keepsWidth_decryptUnit (P : CipherSuite) (chain : List Xts.XtsMode) (first : UInt64) :
    KeepsWidth 512 (fun j => decryptUnit P chain (first + UInt64.ofNat j) 32) := by
  intro j blk hblk
  rw [length_decryptUnit (n := 32) hblk, hblk]

/-- A run of sectors decrypted one by one holds the bytes of the virtual disk. -/
theorem getElem?_decryptSectors (P : CipherSuite) (ext : Extension) (host : Bytes) (s : ℕ)
    {n q : ℕ} (hq : q < n * 512)
    (hin : dataStart ext + (s + n) * 512 ≤ host.length) :
    (mapBlocks 512 (fun j => decryptUnit P ext.cryptoInfo.chain
      (ext.firstDataUnitNo + UInt64.ofNat s + UInt64.ofNat j) 32) n
        (slice host (dataStart ext + s * 512) (n * 512)))[q]? =
      plainByte P ext host (s * 512 + q) := by
  have hkeeps := keepsWidth_decryptUnit P ext.cryptoInfo.chain
    (ext.firstDataUnitNo + UInt64.ofNat s)
  have hlen : (slice host (dataStart ext + s * 512) (n * 512)).length = n * 512 :=
    length_slice_of_le (by omega)
  have hsector : (s * 512 + q) / 512 = s + q / 512 := by omega
  have hbyte : (s * 512 + q) % 512 = q % 512 := by omega
  have hstart : dataStart ext + s * 512 + q / 512 * 512 =
      dataStart ext + (s + q / 512) * 512 := by ring
  rw [getElem?_mapBlocks hkeeps hlen.ge hq, slice_slice (by omega), plainByte, plainSector,
    hsector, hbyte, hstart, UInt64.ofNat_add, UInt64.add_assoc]

/-- Byte `i` depends on one block of the host file only. -/
theorem plainByte_eq_block {i : ℕ} (hin : dataStart ext + i / 512 * 512 + 512 ≤ host.length) :
    plainByte P ext host i =
      (blockBytes (chainDecryptAt P ext.cryptoInfo.chain
          (ext.firstDataUnitNo + UInt64.ofNat (i / 512)) (i % 512 / 16))
        (slice host (dataStart ext + i / 512 * 512 + i % 512 / 16 * 16) 16))[i % 512 % 16]? := by
  have hlen : (slice host (dataStart ext + i / 512 * 512) 512).length = 512 :=
    length_slice_of_le hin
  rw [plainByte, plainSector, decryptUnit,
    getElem?_mapBlocks (keepsWidth_blockBytes _) (by rw [hlen]) (Nat.mod_lt i (by omega)),
    slice_slice (by omega)]

theorem uint32_pos {x : UInt32} (h : x ≠ 0) : 0 < x.toNat :=
  Nat.pos_of_ne_zero fun h0 => h (UInt32.toNat_inj.mp h0)

/-- A read whose kernel calls succeed hands over the decrypted buffer, whatever was
transferred into it. -/
theorem readSectors_of_success {p : SectorIoParams}
    (hlength : p.alignedLength.toNat = p.sectorCount * 512)
    (hread : ntSuccess answers.read.status = true) (hmapped : answers.bufferMapped = true) :
    readSectors P ext irp answers host p =
      completeDiskIrp [.exAllocatePool p.alignedLength.toNat,
          .zwReadFile p.alignedHostOffset.toInt64 p.alignedLength.toUInt32, .exFreePool] host
        (splice irp.userBuffer 0 (slice (mapBlocks 512
          (fun j => decryptUnit P ext.cryptoInfo.chain (p.firstSectorIndex + UInt64.ofNat j) 32)
          p.sectorCount (zwReadFile host p.alignedHostOffset.toInt64 p.alignedLength.toUInt32
            answers.read (List.replicate p.alignedLength.toNat 0)))
          p.userDataOffset p.userDataLength)) statusSuccess p.userDataLength := by
  have hbuf := length_zwReadFile host p.alignedHostOffset.toInt64 p.alignedLength answers.read
  have hsectors := decryptSectors_eq (P := P) ext.cryptoInfo p.firstSectorIndex
    (hlength.ge.trans hbuf.ge)
  simp only [readSectors, hread, hsectors, hmapped, not_true_eq_false, if_false]

/-- What a served read hands to the user. -/
private theorem readSectors_eq (hm : Mounted ext host) {p : SectorIoParams}
    (hwidens : Widens p (dataStart ext + offset irp) irp.length.toNat)
    (hpos : 0 < irp.length.toNat) (hmapped : answers.bufferMapped = true)
    (ht : Transfers host p answers.read) :
    (readSectors P ext irp answers host p).status = statusSuccess ∧
      (readSectors P ext irp answers host p).userBuffer =
        slice (mapBlocks 512
          (fun j => decryptUnit P ext.cryptoInfo.chain (p.firstSectorIndex + UInt64.ofNat j) 32)
          p.sectorCount (slice host p.alignedHostOffset.toNat (p.sectorCount * 512)))
          p.userDataOffset irp.length.toNat ∧
      (readSectors P ext irp answers host p).userBuffer.length = irp.length.toNat := by
  have hinside := ht.inside
  have hlength := hwidens.length
  have hfits := hwidens.user_fits
  have huserLength := hwidens.userLength
  rw [hlength] at hinside
  have hbuf := zwReadFile_eq ht hm.fileSize (by omega)
  have hbufLength : (slice host p.alignedHostOffset.toNat (p.sectorCount * 512)).length =
      p.sectorCount * 512 := length_slice_of_le hinside
  have hplain := length_mapBlocks
    (keepsWidth_decryptUnit P ext.cryptoInfo.chain p.firstSectorIndex) hbufLength.ge
  have hdata : (slice (mapBlocks 512 (fun j => decryptUnit P ext.cryptoInfo.chain
      (p.firstSectorIndex + UInt64.ofNat j) 32) p.sectorCount
        (slice host p.alignedHostOffset.toNat (p.sectorCount * 512))) p.userDataOffset
          irp.length.toNat).length = irp.length.toNat := length_slice_of_le (by omega)
  have hwhole := splice_whole (hdata.trans irp.userBuffer_length.symm)
  rw [readSectors_of_success hlength ht.success hmapped, hbuf, hlength, huserLength, hwhole]
  exact ⟨rfl, rfl, hdata⟩

/-- A served read in bounds returns the bytes of the virtual disk. -/
theorem processReadIrp_plain (hm : Mounted ext host) (hb : InBounds ext irp)
    (hs : ReadServed ext irp answers host) :
    (processReadIrp P ext irp answers host).status = statusSuccess ∧
      (processReadIrp P ext irp answers host).userBuffer.length = irp.length.toNat ∧
      ∀ k < irp.length.toNat, (processReadIrp P ext irp answers host).userBuffer[k]? =
        plainByte P ext host (offset irp + k) := by
  by_cases hzero : irp.length = 0
  · have hlen : irp.length.toNat = 0 := by rw [hzero]; rfl
    rw [processReadIrp, if_pos hzero]
    exact ⟨rfl, irp.userBuffer_length, fun k hk => by omega⟩
  · have hpos := uint32_pos hzero
    have hnonneg : ¬ irp.byteOffset < 0 := Int64.not_lt.mpr hb.nonneg
    obtain ⟨p, hp, hwidens, hoffset, huser, hfirst⟩ := ioParams_of_mounted hm hb hpos
    have ht := hs.read p hp
    have hinside := ht.inside
    have hfits := hwidens.user_fits
    have huserLength := hwidens.userLength
    rw [hwidens.length, hoffset] at hinside
    have hrun : processReadIrp P ext irp answers host = readSectors P ext irp answers host p := by
      rw [processReadIrp, if_neg hzero, if_neg hnonneg, hp]
      simp [hs.poolAllocated]
    obtain ⟨hstatus, hbuffer, hlen⟩ := readSectors_eq hm hwidens hpos hs.bufferMapped ht (P := P)
    rw [hoffset, hfirst] at hbuffer
    have hbyte (k : ℕ) (hk : k < irp.length.toNat) :=
      getElem?_decryptSectors P ext host (offset irp / 512)
        (show p.userDataOffset + k < p.sectorCount * 512 by omega) (by omega)
    rw [hrun]
    refine ⟨hstatus, hlen, fun k hk => ?_⟩
    rw [hbuffer, getElem?_slice, if_pos hk, hbyte k hk]
    congr 1
    omega

/-- The sectors a write puts back: the old host bytes with the data laid over them,
each sector encrypted as its own unit. -/
def writtenSectors (P : CipherSuite) (ext : Extension) (irp : Irp) (host : Bytes)
    (n : ℕ) : Bytes :=
  mapBlocks 512 (fun j => encryptUnit P ext.cryptoInfo.chain
      (ext.firstDataUnitNo + UInt64.ofNat (offset irp / 512) + UInt64.ofNat j) 32) n
    (splice (slice host (dataStart ext + offset irp / 512 * 512) (n * 512)) (offset irp % 512)
      irp.userBuffer)

theorem length_writtenSectors (P : CipherSuite) (ext : Extension) (irp : Irp) (host : Bytes) (n : ℕ)
    (hin : dataStart ext + offset irp / 512 * 512 + n * 512 ≤ host.length)
    (hfits : offset irp % 512 + irp.length.toNat ≤ n * 512) :
    (splice (slice host (dataStart ext + offset irp / 512 * 512) (n * 512)) (offset irp % 512)
        irp.userBuffer).length = n * 512 ∧
      (writtenSectors P ext irp host n).length = n * 512 := by
  have hbuf : (slice host (dataStart ext + offset irp / 512 * 512) (n * 512)).length = n * 512 :=
    length_slice_of_le (by omega)
  have hlaid : (splice (slice host (dataStart ext + offset irp / 512 * 512) (n * 512))
      (offset irp % 512) irp.userBuffer).length = n * 512 := by
    rw [length_splice (by rw [hbuf, irp.userBuffer_length]; omega), hbuf]
  refine ⟨hlaid, (length_mapBlocks ?_ hlaid.ge).trans hlaid⟩
  intro j blk hblk
  rw [length_encryptUnit (n := 32) hblk, hblk]

/-- A write whose host calls move the whole aligned range. -/
def WriteTransfers (ext : Extension) (irp : Irp) (answers : KernelAnswers) (host : Bytes) : Prop :=
  ∀ params, (ioParams ext irp).val = .ok params →
    Transfers host params answers.read ∧ Transfers host params answers.write

/-- A served write succeeds and replaces exactly the touched sectors. -/
theorem writeSectors_eq (hm : Mounted ext host) (hb : InBounds ext irp)
    (hpos : 0 < irp.length.toNat) (hmapped : answers.bufferMapped = true)
    (ht : WriteTransfers ext irp answers host) {p : SectorIoParams}
    (hp : (ioParams ext irp).val = .ok p) :
    (writeSectors P ext irp answers host p).status = statusSuccess ∧
      ∃ n, offset irp / 512 + n = (offset irp + irp.length.toNat + 511) / 512 ∧
        dataStart ext + offset irp / 512 * 512 + n * 512 ≤ host.length ∧
        (writeSectors P ext irp answers host p).host =
          splice host (dataStart ext + offset irp / 512 * 512)
            (writtenSectors P ext irp host n) := by
  obtain ⟨q, hq, hwidens, hoffset, huser, hfirst⟩ := ioParams_of_mounted hm hb hpos
  obtain rfl : q = p := Except.ok.inj (hq.symm.trans hp)
  obtain ⟨htr, htw⟩ := ht q hp
  have hinside := htr.inside
  have hlength := hwidens.length
  have hfits := hwidens.user_fits
  have huserLength := hwidens.userLength
  have hstop := hwidens.stop
  have haligned := hm.aligned
  rw [hlength, hoffset] at hinside
  have hbuf := zwReadFile_eq htr hm.fileSize (by omega)
  rw [hlength, hoffset] at hbuf
  have hdata : slice irp.userBuffer 0 q.userDataLength = irp.userBuffer := by
    rw [huserLength, ← irp.userBuffer_length, slice_zero_length]
  obtain ⟨hlaid, hwritten⟩ := length_writtenSectors P ext irp host q.sectorCount (by omega)
    (by omega)
  have hsectors := encryptSectors_eq (P := P) ext.cryptoInfo q.firstSectorIndex hlaid.ge
  rw [hfirst] at hsectors
  have hhost := zwWriteFile_eq htw hm.fileSize (by omega) (hwritten.trans hlength.symm)
  rw [hoffset] at hhost
  simp only [writeSectors, hbuf, hlength, htr.success, htw.success, hmapped, huser, hdata, hfirst,
    hsectors, not_true_eq_false, if_false, completeDiskIrp, true_and]
  exact ⟨q.sectorCount, by omega, by omega, hhost⟩

private theorem statusFailures_ne :
    statusMediaWriteProtected ≠ statusSuccess ∧ statusInsufficientResources ≠ statusSuccess := by
  decide

theorem processWriteIrp_eq (P : CipherSuite) (answers : KernelAnswers) (hm : Mounted ext host)
    (hb : InBounds ext irp) (hpos : 0 < irp.length.toNat) (hro : ext.bReadOnly = 0)
    (hpool : answers.poolAllocated = true) :
    ∃ p, (ioParams ext irp).val = .ok p ∧
      processWriteIrp P ext irp answers host = writeSectors P ext irp answers host p := by
  have hnonneg : ¬ irp.byteOffset < 0 := Int64.not_lt.mpr hb.nonneg
  obtain ⟨p, hp, -⟩ := ioParams_of_mounted hm hb hpos
  refine ⟨p, hp, ?_⟩
  simp only [processWriteIrp, hro, hnonneg, hp, hpool, ne_eq, not_true_eq_false, if_false]

/-- The host file after a successful write. -/
theorem processWriteIrp_host (hm : Mounted ext host) (hb : InBounds ext irp)
    (hpos : 0 < irp.length.toNat) (ht : WriteTransfers ext irp answers host)
    (hok : (processWriteIrp P ext irp answers host).status = statusSuccess) :
    ∃ n, offset irp / 512 + n = (offset irp + irp.length.toNat + 511) / 512 ∧
      dataStart ext + offset irp / 512 * 512 + n * 512 ≤ host.length ∧
      (processWriteIrp P ext irp answers host).host =
        splice host (dataStart ext + offset irp / 512 * 512)
          (writtenSectors P ext irp host n) := by
  obtain ⟨hprotected, hresources⟩ := statusFailures_ne
  by_cases hro : ext.bReadOnly = 0
  · by_cases hpool : answers.poolAllocated = true
    · obtain ⟨p, hp, hrun⟩ := processWriteIrp_eq P _ hm hb hpos hro hpool
      rw [hrun] at hok ⊢
      by_cases hmapped : answers.bufferMapped = true
      · exact (writeSectors_eq hm hb hpos hmapped ht hp).2
      · simp [writeSectors, hmapped, (ht p hp).1.success, completeDiskIrp, hresources] at hok
    · obtain ⟨p, hp, -⟩ := ioParams_of_mounted hm hb hpos
      simp [processWriteIrp, hro, Int64.not_lt.mpr hb.nonneg, hp, hpool, completeDiskIrp,
        hresources] at hok
  · simp [processWriteIrp, hro, completeDiskIrp, hprotected] at hok

/-- Byte `i` of the virtual disk after a write: in the touched sectors the data laid
over the old host bytes, elsewhere what it was. -/
theorem plainByte_written {n i : ℕ}
    (hin : dataStart ext + offset irp / 512 * 512 + n * 512 ≤ host.length)
    (hfits : offset irp % 512 + irp.length.toNat ≤ n * 512) :
    plainByte P ext (splice host (dataStart ext + offset irp / 512 * 512)
        (writtenSectors P ext irp host n)) i =
      if offset irp / 512 ≤ i / 512 ∧ i / 512 < offset irp / 512 + n then
        if offset irp ≤ i ∧ i < offset irp + irp.length.toNat then irp.userBuffer[i - offset irp]?
        else host[dataStart ext + i]?
      else plainByte P ext host i := by
  have hoff : dataStart ext + offset irp / 512 * 512 ≤ host.length := by omega
  have hbuf : offset irp % 512 ≤
      (slice host (dataStart ext + offset irp / 512 * 512) (n * 512)).length := by
    rw [length_slice_of_le (by omega)]
    omega
  obtain ⟨hlaid, hwritten⟩ := length_writtenSectors P ext irp host n hin hfits
  have hkeeps : KeepsWidth 512 (fun j => encryptUnit P ext.cryptoInfo.chain
      (ext.firstDataUnitNo + UInt64.ofNat (offset irp / 512) + UInt64.ofNat j) 32) := by
    intro j blk hblk
    rw [length_encryptUnit (n := 32) hblk, hblk]
  by_cases htouched : offset irp / 512 ≤ i / 512 ∧ i / 512 < offset irp / 512 + n
  · rw [if_pos htouched]
    obtain ⟨j, hj⟩ := Nat.exists_eq_add_of_le htouched.1
    have hjn : j < n := by omega
    have hrange : slice (slice (splice host (dataStart ext + offset irp / 512 * 512)
        (writtenSectors P ext irp host n)) (dataStart ext + offset irp / 512 * 512) (n * 512))
          (j * 512) 512 = _ := slice_slice (by omega)
    have hself := slice_splice_self hoff (writtenSectors P ext irp host n)
    rw [hwritten] at hself
    have hstart : dataStart ext + (offset irp / 512 + j) * 512 =
        dataStart ext + offset irp / 512 * 512 + j * 512 := by ring
    have hsector : (slice (splice (slice host (dataStart ext + offset irp / 512 * 512) (n * 512))
        (offset irp % 512) irp.userBuffer) (j * 512) 512).length = 512 :=
      length_slice_of_le (by omega)
    rw [plainByte, plainSector, hj, hstart, ← hrange, hself, writtenSectors,
      slice_mapBlocks hkeeps hlaid.ge hjn, UInt64.ofNat_add, ← UInt64.add_assoc,
      decryptUnit_encryptUnit (n := 32) hsector, getElem?_slice, if_pos (by omega),
      getElem?_splice hbuf, irp.userBuffer_length, getElem?_slice]
    have hpos : dataStart ext + offset irp / 512 * 512 + (j * 512 + i % 512) =
        dataStart ext + i := by omega
    rw [hpos]
    by_cases hlow : j * 512 + i % 512 < offset irp % 512
    · rw [if_pos hlow, if_pos (by omega), if_neg (by omega)]
    · rw [if_neg hlow]
      by_cases hmid : j * 512 + i % 512 < offset irp % 512 + irp.length.toNat
      · rw [if_pos hmid, if_pos (by omega)]
        congr 1
        omega
      · rw [if_neg hmid, if_pos (by omega), if_neg (by omega)]
  · rw [if_neg htouched, plainByte, plainSector, plainByte, plainSector,
      slice_splice_of_disjoint hoff (by rw [hwritten]; omega)]

/-- Every kernel call succeeds and moves all that is asked of it. -/
def promptAnswers : KernelAnswers where
  poolAllocated := true
  bufferMapped := true
  read := ⟨statusSuccess, 2 ^ 32⟩
  write := ⟨statusSuccess, 2 ^ 32⟩
  flush := statusSuccess

section Prompt
variable (hm : Mounted ext host) (hb : InBounds ext irp)
  (hfits : dataStart ext + (offset irp + irp.length.toNat + 511) / 512 * 512 ≤ host.length)
  (hshort : irp.length.toNat + 1024 < 2 ^ 32)
include hm hb hfits hshort

private theorem transfers_prompt {p : SectorIoParams} (hp : (ioParams ext irp).val = .ok p) :
    Transfers host p ⟨statusSuccess, 2 ^ 32⟩ := by
  by_cases hzero : irp.length = 0
  · have herror : (ioParams ext irp).val = .error .zeroLength := by
      simp [ioParams, computeSectorIoParams, hzero]
    rw [herror] at hp
    cases hp
  · obtain ⟨q, hq, hwidens, hoffset, huser, -⟩ := ioParams_of_mounted hm hb (uint32_pos hzero)
    obtain rfl : q = p := Except.ok.inj (hq.symm.trans hp)
    have hlength := hwidens.length
    have hstop := hwidens.stop
    have haligned := hm.aligned
    have hsmall : q.alignedLength.toNat < 2 ^ 32 := by omega
    exact ⟨by decide, hsmall, hsmall.le, by omega⟩

theorem readServed_prompt : ReadServed ext irp promptAnswers host :=
  ⟨rfl, rfl, fun _ hp => transfers_prompt hm hb hfits hshort hp⟩

theorem writeTransfers_prompt : WriteTransfers ext irp promptAnswers host :=
  fun _ hp => ⟨transfers_prompt hm hb hfits hshort hp, transfers_prompt hm hb hfits hshort hp⟩

/-- On a writable volume such a write succeeds. -/
theorem processWriteIrp_prompt (hro : ext.bReadOnly = 0) :
    (processWriteIrp P ext irp promptAnswers host).status = statusSuccess := by
  by_cases hzero : irp.length = 0
  · have herror : (ioParams ext irp).val = .error .zeroLength := by
      simp [ioParams, computeSectorIoParams, hzero]
    simp [processWriteIrp, hro, Int64.not_lt.mpr hb.nonneg, herror, completeDiskIrp]
  · obtain ⟨p, hp, hrun⟩ := processWriteIrp_eq P promptAnswers hm hb (uint32_pos hzero) hro rfl
    rw [hrun]
    exact (writeSectors_eq hm hb (uint32_pos hzero) rfl
      (writeTransfers_prompt hm hb hfits hshort) hp).1

end Prompt

end Served

end Oxhide.DriverView
