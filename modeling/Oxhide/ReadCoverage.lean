import Oxhide.RequestAddresses

/-! # Reads across the end of the host file

A host file call at the end of the file succeeds with fewer bytes than it was asked
for and reports their number. The pipeline asks for the whole sectors around the
request, in a 32-bit length, and never looks at that number, so a read returns
decrypted sectors exactly where the sectors lie in the host file and their length
fits the call. -/
namespace Oxhide.ReadCoverage
open BlockCiphers CipherChain CheckedWords DriverView EncryptedIoQueue HostVolume ListBlocks
  ListSplice ReadOnlyMounts RequestAddresses Rounding SectorAlignment SectorCiphers SectorIo
  WordBytes

section Definitions

/-- A successful read of the host file moved the bytes that the range and the file share. -/
def ReportsTransfer (host : Bytes) (byteOffset : Int64) (length : UInt32) (answer : HostTransfer) :
    Prop :=
  ntSuccess answer.status = true →
    0 ≤ byteOffset ∧
      answer.transferred = min length.toNat (host.length - byteOffset.toNatClampNeg)

variable (P : CipherSuite) (ext : Extension) (irp : Irp) (answers : KernelAnswers) (host : Bytes)

/-- Each byte of a successful read is a byte of the decryption of a sector whose bytes
were all transferred from the host file. -/
def ReturnsTransferred : Prop :=
  ∀ n, (addIrp P ext irp answers host).status = statusSuccess →
    .ioCompleteRequest statusSuccess n ∈ (addIrp P ext irp answers host).calls →
    ∀ k < n, ∃ p, (ioParams ext irp).val = .ok p ∧
      ((p.userDataOffset + k) / 512 + 1) * 512 ≤ answers.read.transferred ∧
      (addIrp P ext irp answers host).userBuffer[k]? =
        (decryptUnit P ext.cryptoInfo.chain
          (p.firstSectorIndex + UInt64.ofNat ((p.userDataOffset + k) / 512)) 32
          (slice host (p.alignedHostOffset.toNat + (p.userDataOffset + k) / 512 * 512) 512))[
            (p.userDataOffset + k) % 512]?

/-- A read of some bytes whose kernel calls all succeed. -/
structure Served : Prop where
  nonempty : irp.length ≠ 0
  poolAllocated : answers.poolAllocated = true
  bufferMapped : answers.bufferMapped = true
  read : ntSuccess answers.read.status = true

/-- The position of the request in the host file, as the driver computes it. -/
def hostStart : ℕ := (ext.volDataAreaOffset + irp.byteOffset.toUInt64).toNat

/-- The sectors around the request lie in the host file, and their length is a `u32`. -/
structure SectorsInFile : Prop where
  short : roundUp 512 (hostStart ext irp % 512 + irp.length.toNat) < 2 ^ 32
  inside : roundDown 512 (hostStart ext irp) +
    roundUp 512 (hostStart ext irp % 512 + irp.length.toNat) ≤ host.length

end Definitions

section Transfer
variable {P : CipherSuite} {ext : Extension} {irp : Irp} {answers : KernelAnswers} {host : Bytes}
  {p : SectorIoParams}

/-- What the range and the file share begins with the bytes of the file. -/
theorem slice_zwReadFile {answer : HostTransfer} {i : ℕ}
    (hreports : ReportsTransfer host p.alignedHostOffset.toInt64 p.alignedLength.toUInt32 answer)
    (hsuccess : ntSuccess answer.status = true) (hi : i + 512 ≤ answer.transferred) :
    slice (zwReadFile host p.alignedHostOffset.toInt64 p.alignedLength.toUInt32 answer
        (List.replicate p.alignedLength.toNat 0)) i 512 =
      slice host (p.alignedHostOffset.toNat + i) 512 := by
  obtain ⟨hnonneg, htransferred⟩ := hreports hsuccess
  obtain ⟨hneg, hclamp⟩ := toInt64_of_lt ((toInt64_nonneg_iff _).mp hnonneg)
  rw [hclamp] at htransferred
  have hmoved : (slice host p.alignedHostOffset.toNat
      (min answer.transferred p.alignedLength.toUInt32.toNat)).length = answer.transferred := by
    rw [length_slice]
    omega
  rw [zwReadFile, if_neg hneg, hclamp]
  apply List.ext_getElem?
  intro j
  rw [getElem?_slice, getElem?_slice]
  by_cases hj : j < 512
  · rw [if_pos hj, if_pos hj, getElem?_splice (Nat.zero_le _), hmoved, if_neg (Nat.not_lt_zero _),
      if_pos (by omega), getElem?_slice, if_pos (by omega)]
    congr 1
    omega
  · rw [if_neg hj, if_neg hj]

/-- The requested bytes end in the last sector of the buffer. -/
private theorem last_sector {h l : UInt64} (hw : WidensWord p h l) (hpos : 0 < l.toNat) :
    ((p.userDataOffset + (l.toNat - 1)) / 512 + 1) * 512 = p.alignedLength.toNat := by
  rw [hw.length, hw.userOffset]
  omega

/-- The sectors around the request in ordinary arithmetic. -/
private theorem sectorsInFile_iff
    (hw : WidensWord p (ext.volDataAreaOffset + irp.byteOffset.toUInt64) irp.length.toUInt64) :
    SectorsInFile ext irp host ↔ p.alignedLength.toNat < 2 ^ 32 ∧
      p.alignedHostOffset.toNat + p.alignedLength.toNat ≤ host.length := by
  have hoffset : p.alignedHostOffset.toNat = roundDown 512 (hostStart ext irp) := by
    rw [hw.offset, toNat_roundDown]
    rfl
  have hlength : p.alignedLength.toNat =
      roundUp 512 (hostStart ext irp % 512 + irp.length.toNat) := by
    rw [hw.length, UInt32.toNat_toUInt64]
    rfl
  rw [hoffset, hlength]
  exact ⟨fun h => ⟨h.short, h.inside⟩, fun h => ⟨h.1, h.2⟩⟩

/-- A read whose host call or mapping failed is not completed with success. -/
private theorem readSectors_status_ne
    (h : ¬ (ntSuccess answers.read.status = true ∧ answers.bufferMapped = true)) :
    (readSectors P ext irp answers host p).status ≠ statusSuccess := by
  have hsuccess : ntSuccess statusSuccess = true := by decide
  simp only [readSectors]
  split
  · next hread =>
    intro hstatus
    change answers.read.status = statusSuccess at hstatus
    exact hread (hstatus ▸ hsuccess)
  · next hread =>
    split
    · exact show statusDiskCorruptError ≠ statusSuccess by decide
    · split
      · exact show statusInsufficientResources ≠ statusSuccess by decide
      · next hmapped => exact absurd ⟨not_not.mp hread, not_not.mp hmapped⟩ h

/-- A read that is not served is not completed with success, or it returns no bytes. -/
private theorem returnsTransferred_of_not_served (hmajor : irp.major = .read)
    (hb : InBounds ext irp) (h : ¬ Served irp answers) :
    ReturnsTransferred P ext irp answers host := by
  intro n hstatus hmem k hk
  exfalso
  by_cases hlength : irp.length = 0
  · simp only [addIrp, hmajor, processReadIrp, hlength, if_true, completeDiskIrp, List.nil_append,
      List.mem_singleton, KernelCall.ioCompleteRequest.injEq, true_and] at hmem
    omega
  · have haddr : Addressed ext irp := ⟨hlength, hb, fun hw => by rw [hmajor] at hw; cases hw⟩
    obtain ⟨p, -, -, -, hrun⟩ := addIrp_of_addressed (.inl hmajor) haddr
    rw [hrun P answers host] at hstatus
    by_cases hpool : answers.poolAllocated = true
    · rw [if_neg (not_not.mpr hpool), if_pos hmajor] at hstatus
      exact readSectors_status_ne (fun hok => h ⟨hlength, hpool, hok.2, hok.1⟩) hstatus
    · rw [if_pos hpool] at hstatus
      exact absurd hstatus (show statusInsufficientResources ≠ statusSuccess by decide)

/-- A served read in bounds runs through to the end. -/
private theorem addIrp_of_served (P : CipherSuite) (host : Bytes) (hmajor : irp.major = .read)
    (hb : InBounds ext irp) (h : Served irp answers) :
    ∃ p, (ioParams ext irp).val = .ok p ∧
      WidensWord p (ext.volDataAreaOffset + irp.byteOffset.toUInt64) irp.length.toUInt64 ∧
      addIrp P ext irp answers host =
        completeDiskIrp [.exAllocatePool p.alignedLength.toNat,
            .zwReadFile p.alignedHostOffset.toInt64 p.alignedLength.toUInt32, .exFreePool] host
          (splice irp.userBuffer 0 (slice (mapBlocks 512
            (fun j => decryptUnit P ext.cryptoInfo.chain (p.firstSectorIndex + UInt64.ofNat j) 32)
            p.sectorCount (zwReadFile host p.alignedHostOffset.toInt64 p.alignedLength.toUInt32
              answers.read (List.replicate p.alignedLength.toNat 0)))
            p.userDataOffset p.userDataLength)) statusSuccess p.userDataLength := by
  have haddr : Addressed ext irp := ⟨h.nonempty, hb, fun hw => by rw [hmajor] at hw; cases hw⟩
  obtain ⟨p, hp, hw, -, hrun⟩ := addIrp_of_addressed (.inl hmajor) haddr
  refine ⟨p, hp, hw, ?_⟩
  rw [hrun P answers host, if_neg (not_not.mpr h.poolAllocated), if_pos hmajor]
  exact readSectors_of_success hw.length_eq h.read h.bufferMapped

/-- Byte `k` of a served read. -/
private theorem getElem?_served {k : ℕ}
    (hw : WidensWord p (ext.volDataAreaOffset + irp.byteOffset.toUInt64) irp.length.toUInt64)
    (hk : k < p.userDataLength) (buf : Bytes) (hbuf : buf.length = p.alignedLength.toNat) :
    (splice irp.userBuffer 0 (slice (mapBlocks 512
        (fun j => decryptUnit P ext.cryptoInfo.chain (p.firstSectorIndex + UInt64.ofNat j) 32)
        p.sectorCount buf) p.userDataOffset p.userDataLength))[k]? =
      (decryptUnit P ext.cryptoInfo.chain
        (p.firstSectorIndex + UInt64.ofNat ((p.userDataOffset + k) / 512)) 32
        (slice buf ((p.userDataOffset + k) / 512 * 512) 512))[(p.userDataOffset + k) % 512]? := by
  have hfits := hw.user_fits
  have hsectors := hw.length_eq
  have hkeeps := keepsWidth_decryptUnit P ext.cryptoInfo.chain p.firstSectorIndex
  have hplain := length_mapBlocks hkeeps (hsectors.ge.trans hbuf.ge)
  have hdata : (slice (mapBlocks 512
      (fun j => decryptUnit P ext.cryptoInfo.chain (p.firstSectorIndex + UInt64.ofNat j) 32)
      p.sectorCount buf) p.userDataOffset p.userDataLength).length = p.userDataLength :=
    length_slice_of_le (by rw [hplain, hbuf]; exact hfits)
  have huser : irp.userBuffer.length = p.userDataLength := by
    rw [irp.userBuffer_length, hw.userLength, UInt32.toNat_toUInt64]
  rw [splice_whole (hdata.trans huser.symm), getElem?_slice, if_pos hk,
    getElem?_mapBlocks hkeeps (hsectors.ge.trans hbuf.ge) (by omega)]

section Reads
variable (hmajor : irp.major = .read) (hb : InBounds ext irp)
  (hreports : ∀ p, (ioParams ext irp).val = .ok p →
    ReportsTransfer host p.alignedHostOffset.toInt64 p.alignedLength.toUInt32 answers.read)
include hmajor hb hreports

/-- The last byte of a served read was transferred only if the whole range was. -/
private theorem sectorsInFile_of_returnsTransferred (hserved : Served irp answers)
    (h : ReturnsTransferred P ext irp answers host) : SectorsInFile ext irp host := by
  obtain ⟨p, hp, hw, hrun⟩ := addIrp_of_served P host hmajor hb hserved
  have hlen : irp.length.toUInt64.toNat = irp.length.toNat := UInt32.toNat_toUInt64 irp.length
  have hpos : 0 < irp.length.toUInt64.toNat := by
    rw [hlen]
    exact uint32_pos hserved.nonempty
  obtain ⟨hnonneg, htransferred⟩ := hreports p hp hserved.read
  rw [(toInt64_of_lt ((toInt64_nonneg_iff _).mp hnonneg)).2, UInt64.toNat_toUInt32]
    at htransferred
  obtain ⟨q, hq, hcovered, -⟩ := h p.userDataLength (by rw [hrun]; rfl)
    (by rw [hrun]; simp [completeDiskIrp]) (p.userDataLength - 1) (by rw [hw.userLength]; omega)
  obtain rfl : q = p := Except.ok.inj (hq.symm.trans hp)
  rw [hw.userLength, last_sector hw hpos, htransferred] at hcovered
  have hbuffer : 0 < q.alignedLength.toNat := by
    have hfits := hw.user_fits
    have huser := hw.userLength
    omega
  have hshort : q.alignedLength.toNat % 2 ^ 32 < 2 ^ 32 := Nat.mod_lt _ (by norm_num)
  rw [sectorsInFile_iff hw]
  omega

/-- With its sectors in the file, every byte of a served read comes from them. -/
private theorem returnsTransferred_of_sectorsInFile (hserved : Served irp answers)
    (h : SectorsInFile ext irp host) : ReturnsTransferred P ext irp answers host := by
  intro n hstatus hmem k hk
  obtain ⟨p, hp, hw, hrun⟩ := addIrp_of_served P host hmajor hb hserved
  obtain ⟨hshort, hinside⟩ := (sectorsInFile_iff hw).mp h
  obtain ⟨hnonneg, htransferred⟩ := hreports p hp hserved.read
  rw [(toInt64_of_lt ((toInt64_nonneg_iff _).mp hnonneg)).2, UInt64.toNat_toUInt32,
    Nat.mod_eq_of_lt hshort] at htransferred
  have hn : n = p.userDataLength := by
    rw [hrun] at hmem
    simpa [completeDiskIrp] using hmem
  have hfits := hw.user_fits
  have hsectors := hw.length_eq
  have hmoved : ((p.userDataOffset + k) / 512 + 1) * 512 ≤ answers.read.transferred := by
    omega
  refine ⟨p, hp, hmoved, ?_⟩
  rw [hrun]
  change (splice irp.userBuffer 0 _)[k]? = _
  rw [getElem?_served hw (by omega) _ (length_zwReadFile _ _ _ _),
    slice_zwReadFile (hreports p hp) hserved.read (by omega)]

/-- Whether a read only returns transferred sectors, for every volume, every host file and
every request in bounds: it does exactly when a served request has its sectors in the file. -/
theorem returnsTransferred_iff (P : CipherSuite) :
    ReturnsTransferred P ext irp answers host ↔
      (Served irp answers → SectorsInFile ext irp host) := by
  constructor
  · intro h hserved
    exact sectorsInFile_of_returnsTransferred hmajor hb hreports hserved h
  · intro h
    by_cases hserved : Served irp answers
    · exact returnsTransferred_of_sectorsInFile hmajor hb hreports hserved (h hserved)
    · exact returnsTransferred_of_not_served hmajor hb hserved

end Reads

end Transfer

section Sample

/-! The host file of a mounted volume ends 100 bytes after its data area began. -/

def truncatedFile : Bytes := List.replicate 262244 0

def truncatedOpen : OpenAnswers := { answersWith statusSuccess with endOfFile := 262244 }

def truncatedAnswers : KernelAnswers where
  poolAllocated := true
  bufferMapped := true
  read := ⟨statusSuccess, 100⟩
  write := ⟨statusSuccess, 0⟩
  flush := statusSuccess

private theorem exists_tcOpenVolume_truncated :
    ∃ opened, tcOpenVolume readOnlyRequest truncatedOpen = .ok opened ∧
      InBounds opened.ext sectorRead ∧
      ∀ p, (ioParams opened.ext sectorRead).val = .ok p →
        p.alignedHostOffset = 262144 ∧ p.alignedLength = 512 := by
  obtain ⟨opened, hopened⟩ := exists_tcOpenVolume_readOnlyRequest statusSuccess
  obtain ⟨hostFile, htruncated⟩ := tcOpenVolume_endOfFile hopened 262244
  obtain ⟨-, -, -, -, hstart, hunit, hdisk, -⟩ := tcOpenVolume_eq_ok htruncated
  refine ⟨_, htruncated, ⟨by decide, ?_⟩, ?_⟩
  · rw [diskSize, hdisk]
    decide
  · intro p hp
    have hval : (computeSectorIoParams readOnlyRequest.dataOffset 0 sectorRead.byteOffset.toUInt64
        sectorRead.length.toUInt64 readOnlyRequest.diskLength.toInt64.toUInt64).val =
        .ok ⟨262144, 512, 0, 512, 1, 0⟩ := by decide
    rw [ioParams, hstart, hunit, hdisk, hval] at hp
    obtain rfl := Except.ok.inj hp
    exact ⟨rfl, rfl⟩

private theorem reportsTransfer_truncated (p : SectorIoParams)
    (h : p.alignedHostOffset = 262144 ∧ p.alignedLength = 512) :
    ReportsTransfer truncatedFile p.alignedHostOffset.toInt64 p.alignedLength.toUInt32
      truncatedAnswers.read := by
  intro _
  rw [h.1, h.2, truncatedFile, List.length_replicate]
  decide

/-- On the truncated file the two sides agree, and both are false. -/
theorem returnsTransferred_truncatedFile :
    ∃ opened, tcOpenVolume readOnlyRequest truncatedOpen = .ok opened ∧
      ∀ P, ReturnsTransferred P opened.ext sectorRead truncatedAnswers truncatedFile ↔
        (Served sectorRead truncatedAnswers →
          SectorsInFile opened.ext sectorRead truncatedFile) := by
  obtain ⟨opened, hopened, hb, hparams⟩ := exists_tcOpenVolume_truncated
  exact ⟨opened, hopened, fun P => returnsTransferred_iff rfl hb
    (fun p hp => reportsTransfer_truncated p (hparams p hp)) P⟩

/-- The first sector of the truncated volume is read with success, although only 100 of
its bytes were transferred. -/
theorem truncatedFile_not_returnsTransferred :
    ∃ opened, tcOpenVolume readOnlyRequest truncatedOpen = .ok opened ∧
      InBounds opened.ext sectorRead ∧
      (∀ p, (ioParams opened.ext sectorRead).val = .ok p →
        ReportsTransfer truncatedFile p.alignedHostOffset.toInt64 p.alignedLength.toUInt32
          truncatedAnswers.read) ∧
      ∀ P, (addIrp P opened.ext sectorRead truncatedAnswers truncatedFile).status = statusSuccess ∧
        ¬ ReturnsTransferred P opened.ext sectorRead truncatedAnswers truncatedFile := by
  obtain ⟨opened, hopened, hb, hparams⟩ := exists_tcOpenVolume_truncated
  have hreports (p : SectorIoParams) (hp : (ioParams opened.ext sectorRead).val = .ok p) :=
    reportsTransfer_truncated p (hparams p hp)
  have hserved : Served sectorRead truncatedAnswers := ⟨by decide, rfl, rfl, by decide⟩
  refine ⟨opened, hopened, hb, hreports, fun P => ⟨?_, fun hreturns => ?_⟩⟩
  · obtain ⟨p, -, -, hrun⟩ := addIrp_of_served P truncatedFile rfl hb hserved
    rw [hrun]
    rfl
  · have hfile := sectorsInFile_of_returnsTransferred rfl hb hreports hserved hreturns
    obtain ⟨p, hp, hw, -⟩ := addIrp_of_served P truncatedFile rfl hb hserved
    have hinside := ((sectorsInFile_iff hw).mp hfile).2
    rw [(hparams p hp).1, (hparams p hp).2, truncatedFile, List.length_replicate] at hinside
    exact absurd hinside (by decide)

end Sample

end Oxhide.ReadCoverage
