import Oxhide.EncryptedIoQueue

/-! # Opening the host file and setting up a mounted volume

The host file is first opened for reading and writing; a read-only open follows
when that fails with a sharing or access error or when a read-only mount was
asked for. The answers of the kernel to each attempt are inputs. -/
namespace Oxhide.HostVolume
open BlockCiphers CipherTypes EncryptedIoQueue SectorCiphers WordBytes

def statusAccessDenied : NtStatus := (0xC0000022 : UInt32).toInt32
def statusSharingViolation : NtStatus := (0xC0000043 : UInt32).toInt32

def tcMaxPath : ℕ := 260
def tcMinVolumeSizeLegacy : UInt64 := 256 * 1024
def tcMaxVolumeSize : UInt64 := 0x7FFFFFFFFFFFFFFF

/-- The access rights of a host file handle. -/
inductive DesiredAccess where
  | readWrite
  | readWriteAttributes
  | readOnly
  deriving DecidableEq, Repr

/-- The answers to the calls of `openHostFile`, in the order they are made. -/
structure OpenAnswers where
  pathAllocated : Bool
  createReadWrite : NtStatus
  createReadOnly : NtStatus
  createReadOnlyRetry : NtStatus
  basicInformation : NtStatus
  standardInformation : NtStatus
  endOfFile : Int64
  referenceObject : NtStatus
  deriving DecidableEq, Repr

/-- The file-related extension fields. -/
structure HostFile where
  bReadOnly : UInt8
  bPreserveTimestamp : UInt8
  handleAccess : DesiredAccess
  bTimestampValid : UInt8
  hostLength : Int64
  fileObjectReferenced : Bool
  deriving DecidableEq, Repr

/-- The fields that follow from the handle that was obtained. -/
def fileFields (isRo preserveTimestamp : Bool) (handleAccess : DesiredAccess)
    (answers : OpenAnswers) : HostFile :=
  let bPreserveTimestamp : UInt8 := if isRo then 0 else preserveTimestamp.toUInt8
  { bReadOnly := isRo.toUInt8
    bPreserveTimestamp := bPreserveTimestamp
    handleAccess := handleAccess
    bTimestampValid :=
      if bPreserveTimestamp ≠ 0 ∧ ntSuccess answers.basicInformation then 1 else 0
    hostLength := if ntSuccess answers.standardInformation then answers.endOfFile else 0
    fileObjectReferenced := ntSuccess answers.referenceObject }

/-- An invalid image is reported as a denied access. -/
def mapOpenStatus (status : NtStatus) : NtStatus :=
  if status = (0xC000001B : UInt32).toInt32 then statusAccessDenied else status

/-- The read-only open, retried without the right to keep timestamps. -/
def reopenReadOnly (preserveTimestamp : Bool) (answers : OpenAnswers) :
    Except NtStatus DesiredAccess :=
  if ntSuccess answers.createReadOnly then
    .ok (if preserveTimestamp then .readWriteAttributes else .readOnly)
  else if preserveTimestamp then
    if ntSuccess answers.createReadOnlyRetry then .ok .readOnly
    else .error answers.createReadOnlyRetry
  else
    .error answers.createReadOnly

def openHostFile (volumePath : List UInt16) (readOnly preserveTimestamp : Bool)
    (answers : OpenAnswers) : Except NtStatus HostFile :=
  let path := (volumePath.take tcMaxPath).takeWhile (· ≠ 0)
  if path.length = 0 then
    .error statusInvalidParameter
  else if ¬ answers.pathAllocated then
    .error statusInsufficientResources
  else if ntSuccess answers.createReadWrite then
    .ok (fileFields false preserveTimestamp .readWrite answers)
  else
    let status := mapOpenStatus answers.createReadWrite
    if status = statusAccessDenied ∨ status = statusSharingViolation ∨ readOnly then
      match reopenReadOnly preserveTimestamp answers with
      | .ok access => .ok (fileFields true preserveTimestamp access answers)
      | .error e => .error e
    else
      .error status

def initCipherFromEaAndKey (ea : UInt32) (key : Bytes) : Option KernelSectorCipher :=
  match cipherTypeFromEa ea with
  | none => none
  | some ct => (KernelSectorCipher.new ct (key.take (ct.keySize * 2))).toOption

/-- What a mount request asks for, as `tc_open_volume` receives it. -/
structure OpenRequest where
  wszVolume : List UInt16
  ea : UInt32
  masterKey : Bytes
  dataOffset : UInt64
  diskLength : UInt64
  bytesPerSector : UInt32
  readOnly : UInt8
  preserveTimestamps : Bool
  deriving DecidableEq, Repr

structure OpenedVolume where
  host : HostFile
  ext : Extension
  bytesPerSector : UInt32
  readOnlyDevice : Bool

def maxSectorSize : UInt32 := 128 * 1024

def tcOpenVolume (request : OpenRequest) (answers : OpenAnswers) : Except NtStatus OpenedVolume :=
  if request.bytesPerSector = 0 ∨ request.bytesPerSector > maxSectorSize then
    .error statusInvalidParameter
  else
    match openHostFile request.wszVolume (request.readOnly ≠ 0) request.preserveTimestamps
        answers with
    | .error status => .error status
    | .ok host =>
      if request.diskLength < tcMinVolumeSizeLegacy ∨ request.diskLength > tcMaxVolumeSize then
        .error statusInvalidParameter
      else
        match initCipherFromEaAndKey request.ea request.masterKey with
        | none => .error statusInvalidParameter
        | some cipher =>
          .ok {
            host := host
            ext := {
              volDataAreaOffset := request.dataOffset
              firstDataUnitNo := 0
              diskLength := request.diskLength.toInt64
              bReadOnly := host.bReadOnly
              cryptoInfo := cipher }
            bytesPerSector := request.bytesPerSector
            readOnlyDevice := decide (host.bReadOnly ≠ 0) }

/-- Everything a successful open went through. -/
theorem tcOpenVolume_eq_ok {request : OpenRequest} {answers : OpenAnswers} {opened : OpenedVolume}
    (h : tcOpenVolume request answers = .ok opened) :
    openHostFile request.wszVolume (request.readOnly ≠ 0) request.preserveTimestamps answers =
        .ok opened.host ∧
      tcMinVolumeSizeLegacy ≤ request.diskLength ∧ request.diskLength ≤ tcMaxVolumeSize ∧
      initCipherFromEaAndKey request.ea request.masterKey = some opened.ext.cryptoInfo ∧
      opened.ext.volDataAreaOffset = request.dataOffset ∧ opened.ext.firstDataUnitNo = 0 ∧
      opened.ext.diskLength = request.diskLength.toInt64 ∧
      opened.ext.bReadOnly = opened.host.bReadOnly := by
  rw [tcOpenVolume] at h
  split at h
  · cases h
  · split at h
    · cases h
    · next host hhost =>
      split at h
      · cases h
      · next hsize =>
        split at h
        · cases h
        · next cipher hcipher =>
          obtain rfl := Except.ok.inj h
          rw [not_or, UInt64.not_lt, gt_iff_lt, UInt64.not_lt] at hsize
          exact ⟨hhost, hsize.1, hsize.2, hcipher, rfl, rfl, rfl, rfl⟩

/-- The data offset is taken as it is: every other one is accepted as well. -/
theorem tcOpenVolume_dataOffset {request : OpenRequest} {answers : OpenAnswers}
    {opened : OpenedVolume} (h : tcOpenVolume request answers = .ok opened) (dataOffset : UInt64) :
    tcOpenVolume { request with dataOffset := dataOffset } answers =
      .ok { opened with ext := { opened.ext with volDataAreaOffset := dataOffset } } := by
  rw [tcOpenVolume] at h ⊢
  split at h
  · cases h
  · next hsector =>
    rw [if_neg hsector]
    split at h
    · cases h
    · next host hhost =>
      simp only [hhost]
      split at h
      · cases h
      · next hsize =>
        rw [if_neg hsize]
        split at h
        · cases h
        · next cipher hcipher =>
          obtain rfl := Except.ok.inj h
          rfl

private theorem openHostFile_endOfFile (volumePath : List UInt16)
    (readOnly preserveTimestamp : Bool) (answers : OpenAnswers) (endOfFile : Int64) :
    ∃ record : HostFile → HostFile, (∀ host, (record host).bReadOnly = host.bReadOnly) ∧
      openHostFile volumePath readOnly preserveTimestamp { answers with endOfFile := endOfFile } =
        (openHostFile volumePath readOnly preserveTimestamp answers).map record := by
  let record (host : HostFile) : HostFile :=
    { host with hostLength := if ntSuccess answers.standardInformation then endOfFile else 0 }
  have hfields (isRo : Bool) (access : DesiredAccess) :
      fileFields isRo preserveTimestamp access { answers with endOfFile := endOfFile } =
        record (fileFields isRo preserveTimestamp access answers) := rfl
  have hreopen : reopenReadOnly preserveTimestamp { answers with endOfFile := endOfFile } =
      reopenReadOnly preserveTimestamp answers := rfl
  refine ⟨record, fun _ => rfl, ?_⟩
  clear_value record
  simp only [openHostFile, hfields, hreopen]
  split_ifs
  · rfl
  · rfl
  · cases reopenReadOnly preserveTimestamp answers <;> rfl
  · rfl
  · rfl

/-- The size that the host file was found to have is only recorded. -/
theorem tcOpenVolume_endOfFile {request : OpenRequest} {answers : OpenAnswers}
    {opened : OpenedVolume} (h : tcOpenVolume request answers = .ok opened) (endOfFile : Int64) :
    ∃ host, tcOpenVolume request { answers with endOfFile := endOfFile } =
      .ok { opened with host := host } := by
  obtain ⟨record, hro, hopen⟩ := openHostFile_endOfFile request.wszVolume
    (request.readOnly ≠ 0) request.preserveTimestamps answers endOfFile
  rw [tcOpenVolume] at h
  simp only [tcOpenVolume, hopen]
  split at h
  · cases h
  · next hsector =>
    rw [if_neg hsector]
    split at h
    · cases h
    · next host hhost =>
      simp only [hhost, Except.map]
      split at h
      · cases h
      · next hsize =>
        rw [if_neg hsize]
        split at h
        · cases h
        · next cipher hcipher =>
          obtain rfl := Except.ok.inj h
          simp only [hro]
          exact ⟨_, rfl⟩

/-- The volume is marked read-only exactly when the first open failed. -/
theorem openHostFile_bReadOnly {volumePath : List UInt16} {readOnly preserveTimestamp : Bool}
    {answers : OpenAnswers} {host : HostFile}
    (h : openHostFile volumePath readOnly preserveTimestamp answers = .ok host) :
    host.bReadOnly = if ntSuccess answers.createReadWrite then 0 else 1 := by
  simp only [openHostFile] at h
  split_ifs at h ⊢ with hpath hpool hrw hfallback
  · obtain rfl := Except.ok.inj h
    rfl
  · cases hreopen : reopenReadOnly preserveTimestamp answers with
    | error e => simp [hreopen] at h
    | ok access =>
      rw [hreopen] at h
      obtain rfl := Except.ok.inj h
      rfl

end Oxhide.HostVolume
