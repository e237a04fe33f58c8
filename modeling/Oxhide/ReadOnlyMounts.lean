import Oxhide.DriverView
import Oxhide.HostVolume

/-! # Read-only mounts over whole request sequences

Only the extension field `bReadOnly` stops a write, and it is set only when the
read-write open of the host file failed. A read-only mount of a writable host
file is therefore writable: the guarantee holds exactly when that open fails. -/
namespace Oxhide.ReadOnlyMounts
open BlockCiphers CipherTypes DriverView EncryptedIoQueue HostVolume SectorCiphers WordBytes

section Runs
variable (P : CipherSuite) (ext : Extension)

/-- Requests processed one after the other on the same host file. -/
def runRequests : List (Irp × KernelAnswers) → Bytes → List (Irp × IrpRun)
  | [], _ => []
  | (irp, answers) :: requests, host =>
    let run := addIrp P ext irp answers host
    (irp, run) :: runRequests requests run.host

/-- No write reaches the host file, and a write request is refused as write-protected. -/
def Refused (irp : Irp) (run : IrpRun) : Prop :=
  (∀ byteOffset length data, .zwWriteFile byteOffset length data ∉ run.calls) ∧
    (irp.major = .write → run.status = statusMediaWriteProtected)

/-- This holds for every request of every sequence of READ, WRITE and FLUSH requests. -/
def NeverWrites : Prop :=
  ∀ (requests : List (Irp × KernelAnswers)) (host : Bytes),
    (∀ request ∈ requests, request.1.major = .read ∨ request.1.major = .write ∨
      request.1.major = .flushBuffers) →
    ∀ entry ∈ runRequests P ext requests host, Refused entry.1 entry.2

variable {P ext}

/-- A read never writes the host file. -/
private theorem processReadIrp_no_write {irp : Irp} {answers : KernelAnswers} {host : Bytes}
    (byteOffset : Int64) (length : UInt32) (data : Bytes) :
    .zwWriteFile byteOffset length data ∉ (processReadIrp P ext irp answers host).calls := by
  simp only [processReadIrp]
  split
  · simp [completeDiskIrp]
  · split
    · simp [completeDiskIrp]
    · split
      · simp [completeDiskIrp]
      · simp [completeDiskIrp]
      · split
        · simp [completeDiskIrp]
        · obtain ⟨information, hcalls⟩ := @readSectors_calls P ext irp answers host _
          rw [hcalls]
          simp

/-- One request on a volume marked read-only. -/
theorem refused_of_bReadOnly (hro : ext.bReadOnly ≠ 0) (irp : Irp) (answers : KernelAnswers)
    (host : Bytes) : Refused irp (addIrp P ext irp answers host) := by
  cases hmajor : irp.major with
  | read =>
    rw [addIrp, hmajor]
    exact ⟨processReadIrp_no_write, fun h => by rw [hmajor] at h; cases h⟩
  | write =>
    rw [addIrp, hmajor]
    simp [Refused, processWriteIrp, hro, completeDiskIrp]
  | flushBuffers =>
    rw [addIrp, hmajor]
    simp [Refused, processFlushIrp, hro, completeDiskIrp, hmajor]
  | other code =>
    rw [addIrp, hmajor]
    simp [Refused, completeDiskIrp, hmajor]

/-- Every run of a volume marked read-only refuses every request. -/
theorem neverWrites_of_bReadOnly (hro : ext.bReadOnly ≠ 0) : NeverWrites P ext := by
  intro requests
  induction requests with
  | nil => simp [runRequests]
  | cons request requests ih =>
    rintro host hmajors entry hentry
    rcases List.mem_cons.mp hentry with rfl | hrest
    · exact refused_of_bReadOnly hro _ _ _
    · exact ih _ (fun r hr => hmajors r (List.mem_cons_of_mem request hr)) entry hrest

/-- A write of no bytes at the start of the disk. -/
def emptyWrite : Irp where
  major := .write
  byteOffset := 0
  length := 0
  userBuffer := []
  userBuffer_length := rfl

private theorem emptyWrite_success (hro : ext.bReadOnly = 0) (answers : KernelAnswers)
    (host : Bytes) : (addIrp P ext emptyWrite answers host).status = statusSuccess := by
  have hzero : (ioParams ext emptyWrite).val = .error .zeroLength := by
    simp [ioParams, SectorIo.computeSectorIoParams, emptyWrite]
  have hnonneg : ¬ emptyWrite.byteOffset < 0 := by decide
  change (processWriteIrp P ext emptyWrite answers host).status = statusSuccess
  rw [processWriteIrp, hzero]
  simp [hro, hnonneg, completeDiskIrp]

/-- Otherwise already an empty write is completed with success. -/
theorem bReadOnly_of_neverWrites (h : NeverWrites P ext) : ext.bReadOnly ≠ 0 := by
  intro hro
  have hrefused := h [(emptyWrite, ⟨true, true, ⟨0, 0⟩, ⟨0, 0⟩, 0⟩)] [] (by simp [emptyWrite])
    _ List.mem_cons_self
  have hstatus := hrefused.2 rfl
  rw [emptyWrite_success hro] at hstatus
  exact absurd hstatus (by decide)

/-- A write of at least one byte is only completed with success after it was written. -/
theorem writeSectors_mem_calls {irp : Irp} {answers : KernelAnswers} {host : Bytes}
    {params : SectorIo.SectorIoParams}
    (hok : (writeSectors P ext irp answers host params).status = statusSuccess) :
    ∃ byteOffset length data,
      .zwWriteFile byteOffset length data ∈ (writeSectors P ext irp answers host params).calls := by
  have hcorrupt : statusDiskCorruptError ≠ statusSuccess := by decide
  have hresources : statusInsufficientResources ≠ statusSuccess := by decide
  have hread : ntSuccess statusSuccess = true := by decide
  simp only [writeSectors] at hok ⊢
  split at hok
  · next hfailed => simp_all [completeDiskIrp]
  · next hdone =>
    rw [if_neg hdone]
    split at hok
    · exact absurd hok hresources
    · next hmapped =>
      rw [if_neg hmapped]
      split at hok
      · exact absurd hok hcorrupt
      · split <;> exact ⟨_, _, _, by simp [completeDiskIrp]; exact ⟨rfl, rfl, rfl⟩⟩

end Runs

/-- Whatever access was asked for, a mounted volume never writes exactly when the first
open of its host file failed. -/
theorem neverWrites_tcOpenVolume_iff {P : CipherSuite} {request : OpenRequest}
    {answers : OpenAnswers} {opened : OpenedVolume}
    (h : tcOpenVolume request answers = .ok opened) :
    NeverWrites P opened.ext ↔ ntSuccess answers.createReadWrite = false := by
  obtain ⟨hhost, -, -, -, -, -, -, hext⟩ := tcOpenVolume_eq_ok h
  have hmark := openHostFile_bReadOnly hhost
  rw [← hext] at hmark
  constructor
  · intro hnever
    have hne := bReadOnly_of_neverWrites hnever
    cases hstatus : ntSuccess answers.createReadWrite with
    | false => rfl
    | true => exact absurd (by simpa [hstatus] using hmark) hne
  · intro hstatus
    refine neverWrites_of_bReadOnly ?_
    rw [hmark, hstatus]
    decide

section Sample

/-! A read-only mount request for an ordinary host file. -/

def readOnlyRequest : OpenRequest where
  wszVolume := [0x5C, 0x3F, 0x3F, 0x5C, 0x76, 0]
  ea := 1
  masterKey := List.replicate 64 0
  dataOffset := 262144
  diskLength := 262144
  bytesPerSector := 512
  readOnly := 1
  preserveTimestamps := false

def answersWith (createReadWrite : NtStatus) : OpenAnswers where
  pathAllocated := true
  createReadWrite := createReadWrite
  createReadOnly := statusSuccess
  createReadOnlyRetry := statusSuccess
  basicInformation := statusSuccess
  standardInformation := statusSuccess
  endOfFile := 524288
  referenceObject := statusSuccess

def zeroHostFile : Bytes := List.replicate 524288 0

def sectorWrite : Irp where
  major := .write
  byteOffset := 0
  length := 512
  userBuffer := List.replicate 512 0
  userBuffer_length := length_sectorBuffer

private theorem exists_initCipher_readOnlyRequest :
    ∃ kc, initCipherFromEaAndKey readOnlyRequest.ea readOnlyRequest.masterKey = some kc := by
  have hlength : (readOnlyRequest.masterKey.take (CipherType.keySize .aes * 2)).length =
      CipherType.keySize .aes * 2 := rfl
  obtain ⟨kc, hkc, -⟩ := KernelSectorCipher.new_of_length hlength
  have htype : cipherTypeFromEa readOnlyRequest.ea = some .aes := by decide
  exact ⟨kc, by simp only [initCipherFromEaAndKey, htype, hkc, Except.toOption]⟩

/-- The request succeeds whatever the first open attempt answers. -/
theorem exists_tcOpenVolume_readOnlyRequest (createReadWrite : NtStatus) :
    ∃ opened, tcOpenVolume readOnlyRequest (answersWith createReadWrite) = .ok opened := by
  obtain ⟨kc, hkc⟩ := exists_initCipher_readOnlyRequest
  have hhost : ∃ host, openHostFile readOnlyRequest.wszVolume (readOnlyRequest.readOnly ≠ 0)
      readOnlyRequest.preserveTimestamps (answersWith createReadWrite) = .ok host := by
    cases hstatus : ntSuccess createReadWrite with
    | true =>
      refine ⟨fileFields false false .readWrite (answersWith createReadWrite), ?_⟩
      simp [openHostFile, readOnlyRequest, answersWith, hstatus, tcMaxPath]
    | false =>
      have haccess : reopenReadOnly readOnlyRequest.preserveTimestamps
          (answersWith createReadWrite) = .ok .readOnly := rfl
      have hpath : ¬ ((readOnlyRequest.wszVolume.take tcMaxPath).takeWhile (· ≠ 0)).length = 0 := by
        decide
      refine ⟨fileFields true false .readOnly (answersWith createReadWrite), ?_⟩
      simp only [openHostFile, if_neg hpath, haccess]
      simp [answersWith, hstatus, readOnlyRequest]
  obtain ⟨host, hhost⟩ := hhost
  have hsector : ¬ (readOnlyRequest.bytesPerSector = 0 ∨
      readOnlyRequest.bytesPerSector > maxSectorSize) := by decide
  have hsize : ¬ (readOnlyRequest.diskLength < tcMinVolumeSizeLegacy ∨
      readOnlyRequest.diskLength > tcMaxVolumeSize) := by decide
  simp only [tcOpenVolume, if_neg hsector, hhost, if_neg hsize, hkc]
  exact ⟨_, rfl⟩

/-- When the read-write open is denied, the mount keeps its promise. -/
theorem neverWrites_of_accessDenied : ∃ opened,
    tcOpenVolume readOnlyRequest (answersWith statusAccessDenied) = .ok opened ∧
      ∀ P, NeverWrites P opened.ext ↔
        ntSuccess (answersWith statusAccessDenied).createReadWrite = false := by
  obtain ⟨opened, hopened⟩ := exists_tcOpenVolume_readOnlyRequest statusAccessDenied
  exact ⟨opened, hopened, fun P => neverWrites_tcOpenVolume_iff hopened⟩

/-- When it is granted, a write of one sector reaches the host file of the volume that
was mounted for reading only. -/
theorem readOnlyRequest_writes : ∃ opened,
    tcOpenVolume readOnlyRequest (answersWith statusSuccess) = .ok opened ∧
      readOnlyRequest.readOnly ≠ 0 ∧
      ∀ P, (∃ byteOffset length data, .zwWriteFile byteOffset length data ∈
          (addIrp P opened.ext sectorWrite promptAnswers zeroHostFile).calls) ∧
        ¬ NeverWrites P opened.ext := by
  obtain ⟨opened, hopened⟩ := exists_tcOpenVolume_readOnlyRequest statusSuccess
  obtain ⟨hhost, -, -, -, hstart, -, hdisk, hext⟩ := tcOpenVolume_eq_ok hopened
  have hwritable : opened.ext.bReadOnly = 0 := by
    rw [hext, openHostFile_bReadOnly hhost]
    rfl
  have hdataStart : dataStart opened.ext = 262144 := by
    rw [dataStart, hstart]
    rfl
  have hdiskSize : diskSize opened.ext = 262144 := by
    rw [diskSize, hdisk]
    rfl
  have hlength : zeroHostFile.length = 524288 := List.length_replicate
  have hoffset : offset sectorWrite = 0 := rfl
  have hsector : sectorWrite.length.toNat = 512 := rfl
  have hmounted : Mounted opened.ext zeroHostFile := by
    refine ⟨?_, ?_, ?_⟩
    · rw [hdataStart]
    · rw [hdataStart, hdiskSize, hlength]
    · rw [hlength, FaultyFile.maxPosition]
      norm_num
  have hbounds : InBounds opened.ext sectorWrite := by
    refine ⟨by decide, ?_⟩
    rw [hoffset, hsector, hdiskSize]
    norm_num
  have hfits : dataStart opened.ext + (offset sectorWrite + sectorWrite.length.toNat + 511) / 512 *
      512 ≤ zeroHostFile.length := by
    rw [hdataStart, hoffset, hsector, hlength]
    norm_num
  refine ⟨opened, hopened, by decide, fun P => ?_⟩
  obtain ⟨params, -, hrun⟩ := processWriteIrp_eq P promptAnswers hmounted hbounds (by decide)
    hwritable rfl
  have hok := processWriteIrp_prompt (P := P) hmounted hbounds hfits (by decide) hwritable
  rw [hrun] at hok
  obtain ⟨byteOffset, length, data, hcall⟩ := writeSectors_mem_calls hok
  rw [← hrun] at hcall
  refine ⟨⟨byteOffset, length, data, hcall⟩, fun hnever => ?_⟩
  have hrefused := hnever [(sectorWrite, promptAnswers)] zeroHostFile
    (fun request hmem => by rw [List.mem_singleton.mp hmem]; exact .inr (.inl rfl)) _
    List.mem_cons_self
  exact hrefused.1 byteOffset length data hcall

end Sample

end Oxhide.ReadOnlyMounts
