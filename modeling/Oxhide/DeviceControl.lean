import Oxhide.CheckedWords
import Oxhide.EncryptedIoQueue

/-! # Replies to device-control requests

A mounted volume answers about forty request codes, most of them with a structure of fixed
size. The replies are written into the system buffer, of which the I/O manager copies the
completed number of bytes to the caller, unless the status is an error. -/
namespace Oxhide.DeviceControl
open CheckedWords WordBytes
open EncryptedIoQueue (NtStatus statusSuccess statusInvalidParameter statusInvalidDeviceRequest
  statusMediaWriteProtected)

def statusBufferTooSmall : NtStatus := (0xC0000023 : UInt32).toInt32
def statusBufferOverflow : NtStatus := (0x80000005 : UInt32).toInt32
def statusNotImplemented : NtStatus := (0xC0000002 : UInt32).toInt32
def statusNotSupported : NtStatus := (0xC000003B : UInt32).toInt32

/-- The severity in the two upper bits is that of an error. -/
def NtError (status : NtStatus) : Prop := status.toUInt32 >>> 30 = 3

instance (status : NtStatus) : Decidable (NtError status) :=
  inferInstanceAs (Decidable (status.toUInt32 >>> 30 = 3))

section Names

def wcslen (s : List UInt16) : ℕ := s.findIdx (· == 0)

def units (s : String) : List UInt16 := s.toList.map fun c => UInt16.ofNat c.toNat

/-- `\Device\OxhideVolumeX` in 32 units. -/
def volumeNtName (driveNo : UInt64) : Checked (List UInt16) := do
  let base := units "\\Device\\OxhideVolume"
  let letter ← Checked.add16 0x41 driveNo.toUInt16
  return base ++ [letter] ++ List.replicate (32 - (base.length + 1)) 0

/-- `\DosDevices\X:` in 16 units. -/
def volumeDosName (driveNo : UInt64) : Checked (List UInt16) := do
  let base := units "\\DosDevices\\"
  let letter ← Checked.add16 0x41 driveNo.toUInt16
  return base ++ [letter, 0x3A] ++ List.replicate (16 - (base.length + 2)) 0

end Names

section Handlers

/-- The extension fields that the replies read. -/
structure Extension where
  nDosDriveNo : Int32
  diskLength : Int64
  numberOfCylinders : Int64
  tracksPerCylinder : UInt32
  sectorsPerTrack : UInt32
  bytesPerSector : UInt32
  hostBytesPerPhysicalSector : UInt32
  hostDeviceNumber : UInt32
  hostIncursSeekPenalty : UInt8
  hostTrimEnabled : UInt8
  bReadOnly : UInt8
  bRemovable : UInt8
  deriving DecidableEq, Repr

/-- `IRP_MJ_DEVICE_CONTROL`, with the system buffer or null. -/
structure Irp where
  ioControlCode : UInt32
  inputBufferLength : UInt32
  outputBufferLength : UInt32
  systemBuffer : Option Bytes
  deriving DecidableEq, Repr

def Irp.outLen (irp : Irp) : ℕ := irp.outputBufferLength.toNat

/-- Bytes stored at an offset of the system buffer. -/
structure Write where
  offset : ℕ
  bytes : Bytes
  deriving DecidableEq, Repr

/-- What a handler stored, and the status and information of each completion. -/
structure Reply where
  writes : List Write
  completions : List (NtStatus × ℕ)
  deriving DecidableEq, Repr

/-- `complete_disk_irp`, behind which no handler goes on. -/
def completeDiskIrp (status : NtStatus) (information : ℕ) : Reply := ⟨[], [(status, information)]⟩

def writing (writes : List Write) (reply : Reply) : Reply :=
  { reply with writes := writes ++ reply.writes }

@[simp]
theorem writing_writing (first second : List Write) (reply : Reply) :
    writing first (writing second reply) = writing (first ++ second) reply := by
  simp [writing]

/-- A wrapped operation stops a build with overflow checks; any other build goes on. -/
def checked {α : Type} (overflowChecks : Bool) (x : Checked α) (next : α → Reply) : Reply :=
  if overflowChecks ∧ x.overflow then ⟨[], []⟩ else next x.val

/-- A field of `n` bytes. -/
def field (offset n value : ℕ) : Write := ⟨offset, leBytes n value⟩

def signed (x : Int64) : ℕ := x.toUInt64.toNat

def zeroed (n : ℕ) : Write := ⟨0, List.replicate n 0⟩

/-- The handlers that store a structure of `sz` bytes. -/
def fixedReply (irp : Irp) (sz : ℕ) (writes : List Write) : Reply :=
  if irp.outLen < sz then completeDiskIrp statusBufferTooSmall sz
  else writing writes (completeDiskIrp statusSuccess sz)

abbrev Handler := Bool → Extension → Irp → Reply

def removableMedia : ℕ := 11
def fixedMedia : ℕ := 12

/-- The fields of `DISK_GEOMETRY`. -/
def diskGeometry (ext : Extension) : List Write :=
  [field 8 4 (if ext.bRemovable ≠ 0 then removableMedia else fixedMedia),
    field 0 8 (signed ext.numberOfCylinders),
    field 12 4 ext.tracksPerCylinder.toNat,
    field 16 4 ext.sectorsPerTrack.toNat,
    field 20 4 ext.bytesPerSector.toNat]

def diskGetDriveGeometry : Handler := fun _ ext irp => fixedReply irp 24 (diskGeometry ext)

/-- One megabyte of headroom is added to the length. -/
def diskGetDriveGeometryEx : Handler := fun overflowChecks ext irp =>
  let sz := 32
  if irp.outLen < sz then completeDiskIrp statusBufferTooSmall sz
  else
    writing (zeroed sz :: diskGeometry ext)
      (checked overflowChecks (Checked.addInt64 ext.diskLength 0x100000) fun diskSize =>
        writing [field 24 8 (signed diskSize)] (completeDiskIrp statusSuccess sz))

def diskGetLengthInfo : Handler := fun _ ext irp =>
  fixedReply irp 8 [field 0 8 (signed ext.diskLength)]

/-- The fields of a `PARTITION_INFORMATION` at an offset. -/
def partitionInformation (ext : Extension) (offset : ℕ) : List Write :=
  [field offset 8 0,
    field (offset + 8) 8 (signed ext.diskLength),
    field (offset + 16) 4 0,
    field (offset + 20) 4 1,
    field (offset + 24) 1 7,
    field (offset + 25) 1 0,
    field (offset + 26) 1 1,
    field (offset + 27) 1 0]

def diskGetPartitionInfo : Handler := fun _ ext irp => fixedReply irp 32 (partitionInformation ext 0)

def diskIsWritable : Handler := fun _ ext _ =>
  completeDiskIrp (if ext.bReadOnly ≠ 0 then statusMediaWriteProtected else statusSuccess) 0

/-- The requests that succeed and transfer nothing. -/
def succeed : Handler := fun _ _ _ => completeDiskIrp statusSuccess 0

def fileDeviceDisk : ℕ := 7

def storageGetDeviceNumber : Handler := fun _ ext irp =>
  fixedReply irp 12
    [field 0 4 fileDeviceDisk, field 4 4 ext.hostDeviceNumber.toNat, field 8 4 0xFFFFFFFF]

def volumeGetVolumeDiskExtents : Handler := fun _ ext irp =>
  fixedReply irp (8 + 24)
    [field 0 4 1,
      field 8 4 ext.hostDeviceNumber.toNat,
      field 16 8 (1024 * 1024),
      field 24 8 (signed ext.diskLength)]

def diskGetPartitionInfoEx : Handler := fun _ ext irp =>
  fixedReply irp 64
    [zeroed 64,
      field 0 4 0,
      field 8 8 0,
      field 16 8 (signed ext.diskLength),
      field 24 4 1,
      field 28 1 0,
      field 29 1 0,
      field 32 4 7,
      field 36 1 0,
      field 37 1 1,
      field 40 4 0]

section Properties

def storageDeviceProperty : UInt32 := 0
def storageDeviceSeekPenaltyProperty : UInt32 := 4
def storageAccessAlignmentProperty : UInt32 := 5
def storageDeviceTrimProperty : UInt32 := 8
def propertyExistsQuery : UInt32 := 1

def busTypeFileBackedVirtual : ℕ := 0x15

def deviceDescriptor (ext : Extension) : List Write :=
  [zeroed 36,
    field 0 4 36,
    field 4 4 36,
    field 8 1 fileDeviceDisk,
    field 9 1 0,
    field 10 1 (if ext.bRemovable ≠ 0 then 1 else 0),
    field 28 4 busTypeFileBackedVirtual]

def accessAlignmentDescriptor (ext : Extension) : List Write :=
  [field 0 4 24,
    field 4 4 24,
    field 8 4 ext.bytesPerSector.toNat,
    field 12 4 ext.hostBytesPerPhysicalSector.toNat,
    field 16 4 0]

def seekPenaltyDescriptor (ext : Extension) : List Write :=
  [field 0 4 12, field 4 4 12, field 8 1 ext.hostIncursSeekPenalty.toNat]

/-- The flag lies behind the eight bytes that are reported. -/
def trimDescriptor (ext : Extension) : List Write :=
  [field 0 4 8, field 4 4 8, field 8 1 ext.hostTrimEnabled.toNat]

/-- A `u32` of the system buffer. -/
def readU32 (buffer : Bytes) (offset : ℕ) : UInt32 :=
  UInt32.ofNat (ofLeBytes ((buffer.drop offset).take 4))

def storagePropertyQuerySize : ℕ := 12

def storageQueryProperty : Handler := fun _ ext irp =>
  match irp.systemBuffer with
  | none => completeDiskIrp statusInvalidParameter 0
  | some sysBuf =>
    if irp.inputBufferLength.toNat < storagePropertyQuerySize then
      completeDiskIrp statusInvalidParameter 0
    else
      let propId := readU32 sysBuf 0
      let queryType := readU32 sysBuf 4
      if propId = storageDeviceProperty then fixedReply irp 36 (deviceDescriptor ext)
      else if propId = storageAccessAlignmentProperty then
        fixedReply irp 24 (accessAlignmentDescriptor ext)
      else if propId = storageDeviceSeekPenaltyProperty then
        fixedReply irp 12 (seekPenaltyDescriptor ext)
      else if propId = storageDeviceTrimProperty then fixedReply irp 8 (trimDescriptor ext)
      else if queryType = propertyExistsQuery then completeDiskIrp statusSuccess 0
      else completeDiskIrp statusNotImplemented 0

end Properties

def diskGetDriveLayout : Handler := fun _ ext irp =>
  fixedReply irp 40 (field 0 4 1 :: field 4 4 0 :: partitionInformation ext 8)

def mediaRemoval : Handler := fun _ ext _ =>
  completeDiskIrp (if ext.bRemovable ≠ 0 then statusSuccess else statusInvalidDeviceRequest) 0

def driveNo (ext : Extension) : UInt64 := ext.nDosDriveNo.toInt64.toUInt64

/-- The bytes of the first `n` units. -/
def unitBytes (n : ℕ) (s : List UInt16) : Bytes := (s.take n).flatMap fun u => leBytes 2 u.toNat

def mountdevQueryDeviceName : Handler := fun overflowChecks ext irp =>
  let minsz := 4
  if irp.outLen < minsz then completeDiskIrp statusBufferOverflow minsz
  else
    checked overflowChecks (volumeNtName (driveNo ext)) fun ntName =>
      let nameLen := wcslen ntName
      let outSz := 2 + nameLen * 2
      if irp.outLen < outSz then completeDiskIrp statusBufferOverflow minsz
      else
        writing [field 0 2 (nameLen * 2), ⟨2, unitBytes nameLen ntName⟩]
          (completeDiskIrp statusSuccess outSz)

def mountdevQueryUniqueId : Handler := fun overflowChecks ext irp =>
  let minsz := 4
  if irp.outLen < minsz then completeDiskIrp statusBufferOverflow minsz
  else
    let volumePrefix := "OxhideVolume".toUTF8.toList
    checked overflowChecks (Checked.add8 0x41 ext.nDosDriveNo.toUInt32.toUInt8) fun driveLetter =>
      let idLen := min volumePrefix.length 31 + 1
      let idBuf := volumePrefix ++ [driveLetter] ++ List.replicate (32 - (volumePrefix.length + 1)) 0
      let outSz := 2 + idLen
      if irp.outLen < outSz then completeDiskIrp statusBufferOverflow minsz
      else
        writing [field 0 2 idLen, ⟨2, idBuf.take idLen⟩] (completeDiskIrp statusSuccess outSz)

def mountdevQuerySuggestedLinkName : Handler := fun overflowChecks ext irp =>
  let minsz := 6
  if irp.outLen < minsz then completeDiskIrp statusInvalidParameter 0
  else
    checked overflowChecks (volumeDosName (driveNo ext)) fun dosName =>
      let nameLen := wcslen dosName
      let nameOffset := 4
      let outSz := nameOffset + nameLen * 2
      if irp.outLen < outSz then completeDiskIrp statusBufferOverflow minsz
      else
        writing
          [field 0 1 0, field 2 2 (nameLen * 2), ⟨nameOffset, unitBytes nameLen dosName⟩]
          (completeDiskIrp statusSuccess outSz)

def diskGetClusterInfo : Handler := fun _ _ _ => completeDiskIrp statusNotSupported 0

end Handlers

section Dispatch

def ioctlDiskGetDriveGeometry : UInt32 := 0x70000
def ioctlDiskGetDriveGeometryEx : UInt32 := 0x70070
def ioctlDiskGetLengthInfo : UInt32 := 0x74050
def ioctlDiskGetPartitionInfo : UInt32 := 0x74004
def ioctlDiskGetPartitionInfoEx : UInt32 := 0x74008
def ioctlDiskIsWritable : UInt32 := 0x70054
def ioctlDiskUpdateProperties : UInt32 := 0x70060
def ioctlDiskUpdateDriveSize : UInt32 := 0x703F0
def ioctlDiskVerify : UInt32 := 0x70014
def ioctlDiskCheckVerify : UInt32 := 0x74004
def ioctlDiskGetDriveLayout : UInt32 := 0x7400C
def ioctlDiskGetMediaTypesEx : UInt32 := 0x7007C
def ioctlDiskGetClusterInfo : UInt32 := 0x703EC
def ioctlDiskMediaRemoval : UInt32 := 0xD0E00
def ioctlStorageCheckVerify : UInt32 := 0x2D4800
def ioctlStorageCheckVerify2 : UInt32 := 0x2D1080
def ioctlStorageGetDeviceNumber : UInt32 := 0x2D1080
def ioctlStorageQueryProperty : UInt32 := 0x2D1400
def ioctlStorageMediaRemoval : UInt32 := 0x2D0C10
def ioctlStorageManageDataSetAttributes : UInt32 := 0x2D2044
def ioctlVolumeGetVolumeDiskExtents : UInt32 := 0x560000
def ioctlVolumeGetVolumeDiskExtentsEx : UInt32 := 0x560010
def ioctlVolumeQueryVolumeInformation : UInt32 := 0x560008
def ioctlVolumeLogicalToPhysical : UInt32 := 0x560004
def ioctlVolumePhysicalToLogical : UInt32 := 0x56000C
def ioctlVolumeIsClusterCapable : UInt32 := 0x560018
def ioctlVolumeOnline : UInt32 := 0x56C000
def ioctlVolumePostOnline : UInt32 := 0x56C008
def ioctlMountdevQueryUniqueId : UInt32 := 0x4D0000
def ioctlMountdevQueryDeviceName : UInt32 := 0x4D0008
def ioctlMountdevQuerySuggestedLinkName : UInt32 := 0x4D0010
def fsctlDismountVolume : UInt32 := 0x90020
def fsctlLockVolume : UInt32 := 0x90018
def fsctlUnlockVolume : UInt32 := 0x9001C
def fsctlIsVolumeMountable : UInt32 := 0x90028

/-- The arms of the match in the order of the source: the first one that has the code runs. -/
def arms : List (List UInt32 × Handler) :=
  [([ioctlDiskGetDriveGeometry], diskGetDriveGeometry),
    ([ioctlDiskGetDriveGeometryEx], diskGetDriveGeometryEx),
    ([ioctlDiskGetLengthInfo], diskGetLengthInfo),
    ([ioctlDiskGetPartitionInfo], diskGetPartitionInfo),
    ([ioctlDiskIsWritable], diskIsWritable),
    ([ioctlDiskUpdateProperties, ioctlDiskUpdateDriveSize], succeed),
    ([ioctlStorageCheckVerify, ioctlStorageCheckVerify2, ioctlDiskCheckVerify], succeed),
    ([ioctlStorageGetDeviceNumber], storageGetDeviceNumber),
    ([ioctlVolumeGetVolumeDiskExtents], volumeGetVolumeDiskExtents),
    ([ioctlVolumeOnline, ioctlVolumePostOnline], succeed),
    ([ioctlDiskVerify], succeed),
    ([ioctlDiskGetPartitionInfoEx], diskGetPartitionInfoEx),
    ([ioctlStorageQueryProperty], storageQueryProperty),
    ([fsctlDismountVolume, fsctlLockVolume, fsctlUnlockVolume, fsctlIsVolumeMountable], succeed),
    ([ioctlDiskGetMediaTypesEx], succeed),
    ([ioctlDiskGetDriveLayout], diskGetDriveLayout),
    ([ioctlDiskMediaRemoval, ioctlStorageMediaRemoval], mediaRemoval),
    ([ioctlVolumeGetVolumeDiskExtentsEx, ioctlVolumeQueryVolumeInformation,
      ioctlVolumeLogicalToPhysical, ioctlVolumePhysicalToLogical, ioctlVolumeIsClusterCapable],
      succeed),
    ([ioctlMountdevQueryDeviceName], mountdevQueryDeviceName),
    ([ioctlMountdevQueryUniqueId], mountdevQueryUniqueId),
    ([ioctlMountdevQuerySuggestedLinkName], mountdevQuerySuggestedLinkName),
    ([ioctlDiskGetClusterInfo], diskGetClusterInfo),
    ([ioctlStorageManageDataSetAttributes], succeed)]

def processVolumeDeviceControl (overflowChecks : Bool) (ext : Extension) (irp : Irp) : Reply :=
  match arms.find? fun arm => arm.1.contains irp.ioControlCode with
  | some arm => arm.2 overflowChecks ext irp
  | none => completeDiskIrp statusInvalidDeviceRequest 0

end Dispatch

section Bounds

/-- Every byte stored lies below the bound. -/
def WritesBelow (bound : ℕ) (writes : List Write) : Prop :=
  ∀ w ∈ writes, ∀ k < w.bytes.length, w.offset + k < bound

/-- What the caller's buffer needs of a reply: one completion, what it copies back fits, and
nothing was stored behind that. -/
def RepliesWithin (irp : Irp) (reply : Reply) : Prop :=
  ∃ status information, reply.completions = [(status, information)] ∧
    (¬ NtError status → information ≤ irp.outLen) ∧ WritesBelow information reply.writes

@[simp]
theorem writesBelow_nil (bound : ℕ) : WritesBelow bound [] := by
  intro w hw
  cases hw

@[simp]
theorem writesBelow_cons (bound : ℕ) (w : Write) (ws : List Write) :
    WritesBelow bound (w :: ws) ↔
      (w.bytes = [] ∨ w.offset + w.bytes.length ≤ bound) ∧ WritesBelow bound ws := by
  rw [WritesBelow, List.forall_mem_cons]
  refine and_congr_left' ?_
  constructor
  · intro h
    rcases List.eq_nil_or_concat w.bytes with hnil | ⟨front, b, hlast⟩
    · exact .inl hnil
    · have hlen : w.bytes.length = front.length + 1 := by rw [hlast, List.length_concat]
      have := h front.length (by omega)
      exact .inr (by omega)
  · rintro (hnil | hle) k hk
    · rw [hnil] at hk
      exact absurd hk (Nat.not_lt_zero k)
    · omega

@[simp]
theorem writesBelow_append (bound : ℕ) (first second : List Write) :
    WritesBelow bound (first ++ second) ↔ WritesBelow bound first ∧ WritesBelow bound second :=
  List.forall_mem_append

theorem writesBelow_field {bound offset n value : ℕ} {ws : List Write} (h : offset + n ≤ bound) :
    WritesBelow bound (field offset n value :: ws) ↔ WritesBelow bound ws := by
  simp [field, h]

theorem writesBelow_zeroed {bound n : ℕ} {ws : List Write} (h : n ≤ bound) :
    WritesBelow bound (zeroed n :: ws) ↔ WritesBelow bound ws := by
  simp [zeroed, h]

variable {irp : Irp}

theorem repliesWithin_complete {status : NtStatus} {information : ℕ} {writes : List Write} :
    RepliesWithin irp (writing writes (completeDiskIrp status information)) ↔
      (¬ NtError status → information ≤ irp.outLen) ∧ WritesBelow information writes := by
  simp [RepliesWithin, writing, completeDiskIrp]

theorem repliesWithin_completeDiskIrp {status : NtStatus} {information : ℕ} :
    RepliesWithin irp (completeDiskIrp status information) ↔
      (¬ NtError status → information ≤ irp.outLen) := by
  simp [RepliesWithin, completeDiskIrp]

/-- Behind a check that stops the build the request is never completed. -/
theorem repliesWithin_writing_checked {α : Type} {overflowChecks : Bool} {x : Checked α}
    {next : α → Reply} {writes : List Write} :
    RepliesWithin irp (writing writes (checked overflowChecks x next)) ↔
      (overflowChecks = true → x.overflow = false) ∧
        RepliesWithin irp (writing writes (next x.val)) := by
  rw [checked]
  by_cases h : overflowChecks = true ∧ x.overflow = true
  · simp [h, RepliesWithin, writing]
  · rw [if_neg h]
    simp only [not_and, Bool.not_eq_true] at h
    exact (and_iff_right h).symm

theorem repliesWithin_checked {α : Type} {overflowChecks : Bool} {x : Checked α}
    {next : α → Reply} :
    RepliesWithin irp (checked overflowChecks x next) ↔
      (overflowChecks = true → x.overflow = false) ∧ RepliesWithin irp (next x.val) :=
  @repliesWithin_writing_checked irp α overflowChecks x next []

/-- The structures of fixed size. -/
theorem repliesWithin_fixedReply {sz : ℕ} {writes : List Write} :
    RepliesWithin irp (fixedReply irp sz writes) ↔
      irp.outLen < sz ∨ WritesBelow sz writes := by
  have herror : NtError statusBufferTooSmall := by decide
  rw [fixedReply]
  by_cases h : irp.outLen < sz
  · simp [h, repliesWithin_completeDiskIrp, herror]
  · simp [h, repliesWithin_complete, Nat.le_of_not_lt h]

end Bounds

section Replies
variable {irp : Irp}

private theorem diskGeometry_below (ext : Extension) {bound : ℕ} (h : 24 ≤ bound) :
    WritesBelow bound (diskGeometry ext) := by
  rw [diskGeometry, writesBelow_field (by omega), writesBelow_field (by omega),
    writesBelow_field (by omega), writesBelow_field (by omega), writesBelow_field (by omega)]
  exact writesBelow_nil bound

private theorem partitionInformation_below (ext : Extension) {offset bound : ℕ}
    (h : offset + 28 ≤ bound) : WritesBelow bound (partitionInformation ext offset) := by
  simp only [partitionInformation, writesBelow_cons, field, length_leBytes, writesBelow_nil,
    and_true]
  omega

/-- A handler whose every reply stays within the caller's buffer. -/
def Safe (handler : Handler) : Prop :=
  ∀ overflowChecks ext irp, RepliesWithin irp (handler overflowChecks ext irp)

/-- Structures whose fields lie within their size. -/
private theorem safe_fixedReply {sz : ℕ} {writes : Extension → List Write}
    (h : ∀ ext, WritesBelow sz (writes ext)) :
    Safe fun _ ext irp => fixedReply irp sz (writes ext) :=
  fun _ ext _ => repliesWithin_fixedReply.mpr (.inr (h ext))

/-- Statuses alone. -/
private theorem safe_completeDiskIrp {status : Extension → NtStatus} :
    Safe fun _ ext _ => completeDiskIrp (status ext) 0 :=
  fun _ _ irp => repliesWithin_completeDiskIrp.mpr fun _ => Nat.zero_le irp.outLen

theorem diskGetDriveGeometry_safe : Safe diskGetDriveGeometry :=
  safe_fixedReply fun ext => diskGeometry_below ext le_rfl

theorem diskGetLengthInfo_safe : Safe diskGetLengthInfo :=
  safe_fixedReply fun _ => (writesBelow_field le_rfl).mpr (writesBelow_nil 8)

theorem diskGetPartitionInfo_safe : Safe diskGetPartitionInfo :=
  safe_fixedReply fun ext => partitionInformation_below ext (by omega)

theorem storageGetDeviceNumber_safe : Safe storageGetDeviceNumber := by
  apply safe_fixedReply
  intro ext
  simp [field]

theorem volumeGetVolumeDiskExtents_safe : Safe volumeGetVolumeDiskExtents := by
  apply safe_fixedReply
  intro ext
  simp [field]

theorem diskGetPartitionInfoEx_safe : Safe diskGetPartitionInfoEx := by
  apply safe_fixedReply
  intro ext
  simp [field, zeroed]

theorem diskGetDriveLayout_safe : Safe diskGetDriveLayout := by
  apply safe_fixedReply
  intro ext
  rw [writesBelow_field (by omega), writesBelow_field (by omega)]
  exact partitionInformation_below ext (by omega)

/-- The sum with the headroom is the only obstacle. -/
theorem repliesWithin_diskGetDriveGeometryEx (overflowChecks : Bool) (ext : Extension) :
    RepliesWithin irp (diskGetDriveGeometryEx overflowChecks ext irp) ↔
      (overflowChecks = true → 32 ≤ irp.outLen → ext.diskLength.toInt + 2 ^ 20 < 2 ^ 63) := by
  rw [diskGetDriveGeometryEx]
  by_cases hlen : irp.outLen < 32
  · have herror : NtError statusBufferTooSmall := by decide
    simp [hlen, repliesWithin_completeDiskIrp, herror]
  · have hfits : 32 ≤ irp.outLen := Nat.le_of_not_lt hlen
    have hsum : (Checked.addInt64 ext.diskLength 0x100000).overflow = false ↔
        ext.diskLength.toInt + 2 ^ 20 < 2 ^ 63 := by
      have hheadroom : (0x100000 : Int64).toInt = 2 ^ 20 := rfl
      have hlower := ext.diskLength.le_toInt
      rw [Checked.addInt64_overflow, hheadroom]
      omega
    rw [if_neg hlen, repliesWithin_writing_checked, hsum, and_iff_left]
    · simp [hfits]
    · rw [writing_writing, repliesWithin_complete, writesBelow_append,
        writesBelow_zeroed le_rfl, writesBelow_field (by omega)]
      exact ⟨fun _ => hfits, diskGeometry_below ext (by omega), writesBelow_nil 32⟩

private theorem wcslen_le (s : List UInt16) : wcslen s ≤ s.length := List.findIdx_le_length

private theorem length_unitBytes {n : ℕ} {s : List UInt16} (h : n ≤ s.length) :
    (unitBytes n s).length = n * 2 := by
  simp [unitBytes, List.length_flatMap, h]

/-- A name that fits, or a warning with the size of the fixed part, which fits as well. -/
private theorem repliesWithin_name {minsz outSz : ℕ} {writes : List Write}
    (hmin : minsz ≤ irp.outLen) (hwrites : WritesBelow outSz writes) :
    RepliesWithin irp
      (if irp.outLen < outSz then completeDiskIrp statusBufferOverflow minsz
        else writing writes (completeDiskIrp statusSuccess outSz)) := by
  by_cases h : irp.outLen < outSz
  · rw [if_pos h, repliesWithin_completeDiskIrp]
    exact fun _ => hmin
  · rw [if_neg h, repliesWithin_complete]
    exact ⟨fun _ => Nat.le_of_not_lt h, hwrites⟩

/-- The warning of the two requests below is copied back like a success. -/
private theorem repliesWithin_warning {minsz : ℕ} :
    RepliesWithin irp (completeDiskIrp statusBufferOverflow minsz) ↔ minsz ≤ irp.outLen := by
  have hwarning : ¬ NtError statusBufferOverflow := by decide
  rw [repliesWithin_completeDiskIrp]
  exact forall_prop_of_true hwarning

theorem repliesWithin_mountdevQueryDeviceName (overflowChecks : Bool) (ext : Extension) :
    RepliesWithin irp (mountdevQueryDeviceName overflowChecks ext irp) ↔
      4 ≤ irp.outLen ∧
        (overflowChecks = true → 65 + (driveNo ext).toUInt16.toNat < 2 ^ 16) := by
  rw [mountdevQueryDeviceName]
  by_cases hlen : irp.outLen < 4
  · rw [if_pos hlen, repliesWithin_warning]
    omega
  · have hmin : 4 ≤ irp.outLen := Nat.le_of_not_lt hlen
    have hletter : (volumeNtName (driveNo ext)).overflow = false ↔
        65 + (driveNo ext).toUInt16.toNat < 2 ^ 16 := by
      simp [volumeNtName]
    rw [if_neg hlen, repliesWithin_checked, hletter, and_iff_left, and_iff_right hmin]
    apply repliesWithin_name hmin
    have hname := length_unitBytes (wcslen_le (volumeNtName (driveNo ext)).val)
    rw [writesBelow_field (by omega), writesBelow_cons]
    exact ⟨.inr (by rw [hname]), writesBelow_nil _⟩

theorem repliesWithin_mountdevQueryUniqueId (overflowChecks : Bool) (ext : Extension) :
    RepliesWithin irp (mountdevQueryUniqueId overflowChecks ext irp) ↔
      4 ≤ irp.outLen ∧
        (overflowChecks = true → 65 + ext.nDosDriveNo.toUInt32.toUInt8.toNat < 2 ^ 8) := by
  rw [mountdevQueryUniqueId]
  by_cases hlen : irp.outLen < 4
  · rw [if_pos hlen, repliesWithin_warning]
    omega
  · have hmin : 4 ≤ irp.outLen := Nat.le_of_not_lt hlen
    have hletter : (Checked.add8 0x41 ext.nDosDriveNo.toUInt32.toUInt8).overflow = false ↔
        65 + ext.nDosDriveNo.toUInt32.toUInt8.toNat < 2 ^ 8 := by
      simp
    rw [if_neg hlen, repliesWithin_checked, hletter, and_iff_left, and_iff_right hmin]
    apply repliesWithin_name hmin
    rw [writesBelow_field (by omega), writesBelow_cons]
    exact ⟨.inr (Nat.add_le_add_left (List.length_take_le _ _) 2), writesBelow_nil _⟩

theorem repliesWithin_mountdevQuerySuggestedLinkName (overflowChecks : Bool) (ext : Extension) :
    RepliesWithin irp (mountdevQuerySuggestedLinkName overflowChecks ext irp) ↔
      (overflowChecks = true → 6 ≤ irp.outLen →
        65 + (driveNo ext).toUInt16.toNat < 2 ^ 16) := by
  rw [mountdevQuerySuggestedLinkName]
  by_cases hlen : irp.outLen < 6
  · have herror : NtError statusInvalidParameter := by decide
    simp [hlen, repliesWithin_completeDiskIrp, herror]
  · have hmin : 6 ≤ irp.outLen := Nat.le_of_not_lt hlen
    have hletter : (volumeDosName (driveNo ext)).overflow = false ↔
        65 + (driveNo ext).toUInt16.toNat < 2 ^ 16 := by
      simp [volumeDosName]
    rw [if_neg hlen, repliesWithin_checked, hletter, and_iff_left]
    · simp [hmin]
    · apply repliesWithin_name hmin
      have hname := length_unitBytes (wcslen_le (volumeDosName (driveNo ext)).val)
      rw [writesBelow_field (by omega), writesBelow_field (by omega), writesBelow_cons]
      exact ⟨.inr (by rw [hname]), writesBelow_nil _⟩

/-- The trim property is the only one with a byte out of bounds. -/
theorem repliesWithin_storageQueryProperty (overflowChecks : Bool) (ext : Extension) :
    RepliesWithin irp (storageQueryProperty overflowChecks ext irp) ↔
      ¬ (8 ≤ irp.outLen ∧ storagePropertyQuerySize ≤ irp.inputBufferLength.toNat ∧
        ∃ sysBuf ∈ irp.systemBuffer, readU32 sysBuf 0 = storageDeviceTrimProperty) := by
  have hnothing : ∀ status, RepliesWithin irp (completeDiskIrp status 0) := fun _ =>
    repliesWithin_completeDiskIrp.mpr fun _ => Nat.zero_le irp.outLen
  rw [storageQueryProperty]
  cases hbuf : irp.systemBuffer with
  | none => simp [hnothing]
  | some sysBuf =>
    by_cases hin : irp.inputBufferLength.toNat < storagePropertyQuerySize
    · simp [hin, hnothing]
    · have hin' : storagePropertyQuerySize ≤ irp.inputBufferLength.toNat := Nat.le_of_not_lt hin
      simp only [if_neg hin, hin', Option.mem_some_iff, exists_eq_left', true_and]
      by_cases htrim : readU32 sysBuf 0 = storageDeviceTrimProperty
      · have hbeyond : ¬ WritesBelow 8 (trimDescriptor ext) := by
          simp [trimDescriptor, field, leBytes]
        rw [htrim, if_neg (by decide), if_neg (by decide), if_neg (by decide), if_pos rfl,
          repliesWithin_fixedReply, or_iff_left hbeyond, and_iff_left rfl, not_le]
      · have hdevice : WritesBelow 36 (deviceDescriptor ext) := by
          simp [deviceDescriptor, field, zeroed]
        have halignment : WritesBelow 24 (accessAlignmentDescriptor ext) := by
          simp [accessAlignmentDescriptor, field]
        have hseek : WritesBelow 12 (seekPenaltyDescriptor ext) := by
          simp [seekPenaltyDescriptor, field]
        refine iff_of_true ?_ fun h => htrim h.2
        split_ifs
        · exact repliesWithin_fixedReply.mpr (.inr hdevice)
        · exact repliesWithin_fixedReply.mpr (.inr halignment)
        · exact repliesWithin_fixedReply.mpr (.inr hseek)
        · exact hnothing statusSuccess
        · exact hnothing statusNotImplemented

/-- The codes whose handlers can fail. -/
def delicateCodes : List UInt32 :=
  [ioctlDiskGetDriveGeometryEx, ioctlStorageQueryProperty, ioctlMountdevQueryDeviceName,
    ioctlMountdevQueryUniqueId, ioctlMountdevQuerySuggestedLinkName]

theorem arms_safe :
    ∀ arm ∈ arms, Safe arm.2 ∨ ∀ code ∈ arm.1, code ∈ delicateCodes := by
  have hsucceed : Safe succeed := safe_completeDiskIrp
  have hwritable : Safe diskIsWritable := safe_completeDiskIrp
  have hremoval : Safe mediaRemoval := safe_completeDiskIrp
  have hcluster : Safe diskGetClusterInfo := safe_completeDiskIrp
  simp only [arms, List.forall_mem_cons]
  exact ⟨.inl diskGetDriveGeometry_safe,
    .inr ⟨by decide, List.forall_mem_nil _⟩,
    .inl diskGetLengthInfo_safe,
    .inl diskGetPartitionInfo_safe,
    .inl hwritable,
    .inl hsucceed,
    .inl hsucceed,
    .inl storageGetDeviceNumber_safe,
    .inl volumeGetVolumeDiskExtents_safe,
    .inl hsucceed,
    .inl hsucceed,
    .inl diskGetPartitionInfoEx_safe,
    .inr ⟨by decide, List.forall_mem_nil _⟩,
    .inl hsucceed,
    .inl hsucceed,
    .inl diskGetDriveLayout_safe,
    .inl hremoval,
    .inl hsucceed,
    .inr ⟨by decide, List.forall_mem_nil _⟩,
    .inr ⟨by decide, List.forall_mem_nil _⟩,
    .inr ⟨by decide, List.forall_mem_nil _⟩,
    .inl hcluster,
    .inl hsucceed,
    List.forall_mem_nil _⟩

/-- `IOCTL_STORAGE_GET_DEVICE_NUMBER` has the code of an earlier arm, which returns nothing. -/
theorem storageGetDeviceNumber_unreachable (overflowChecks : Bool) (ext : Extension)
    (h : irp.ioControlCode = ioctlStorageGetDeviceNumber) :
    processVolumeDeviceControl overflowChecks ext irp = completeDiskIrp statusSuccess 0 := by
  rw [processVolumeDeviceControl, h]
  rfl

/-- Every other code stays within the caller's buffer. -/
theorem repliesWithin_of_not_delicate (overflowChecks : Bool) (ext : Extension)
    (h : irp.ioControlCode ∉ delicateCodes) :
    RepliesWithin irp (processVolumeDeviceControl overflowChecks ext irp) := by
  rw [processVolumeDeviceControl]
  cases hfind : arms.find? fun arm => arm.1.contains irp.ioControlCode with
  | none => exact repliesWithin_completeDiskIrp.mpr fun _ => Nat.zero_le irp.outLen
  | some arm =>
    have hcode : irp.ioControlCode ∈ arm.1 := by
      simpa using List.find?_some hfind
    rcases arms_safe arm (List.mem_of_find?_eq_some hfind) with hsafe | hdelicate
    · exact hsafe overflowChecks ext irp
    · exact absurd (hdelicate irp.ioControlCode hcode) h

@[simp]
private theorem completions_completeDiskIrp (status : NtStatus) (information : ℕ) :
    (completeDiskIrp status information).completions = [(status, information)] := rfl

@[simp]
private theorem completions_writing (writes : List Write) (reply : Reply) :
    (writing writes reply).completions = reply.completions := rfl

@[simp]
private theorem checked_unchecked {α : Type} (x : Checked α) (next : α → Reply) :
    checked false x next = next x.val := if_neg (by simp)

@[simp]
private theorem completions_fixedReply (sz : ℕ) (writes : List Write) :
    (fixedReply irp sz writes).completions.length = 1 := by
  rw [fixedReply]
  split_ifs <;> rfl

/-- Without overflow checks every request is completed once, also where the reply does not
fit: the service loop of the volume thread relies on that. -/
theorem completes_once (ext : Extension) (irp : Irp) :
    (processVolumeDeviceControl false ext irp).completions.length = 1 := by
  by_cases hcode : irp.ioControlCode ∈ delicateCodes
  · simp only [delicateCodes, List.mem_cons, List.not_mem_nil, or_false] at hcode
    rw [processVolumeDeviceControl]
    rcases hcode with hcode | hcode | hcode | hcode | hcode <;> rw [hcode]
    · change (diskGetDriveGeometryEx false ext irp).completions.length = 1
      rw [diskGetDriveGeometryEx]
      split_ifs <;> simp
    · change (storageQueryProperty false ext irp).completions.length = 1
      rw [storageQueryProperty]
      cases irp.systemBuffer with
      | none => rfl
      | some sysBuf =>
        simp only
        split_ifs <;> simp
    · change (mountdevQueryDeviceName false ext irp).completions.length = 1
      simp only [mountdevQueryDeviceName, checked_unchecked]
      split_ifs <;> simp
    · change (mountdevQueryUniqueId false ext irp).completions.length = 1
      simp only [mountdevQueryUniqueId, checked_unchecked]
      split_ifs <;> simp
    · change (mountdevQuerySuggestedLinkName false ext irp).completions.length = 1
      simp only [mountdevQuerySuggestedLinkName, checked_unchecked]
      split_ifs <;> simp
  · obtain ⟨status, information, hone, -⟩ := repliesWithin_of_not_delicate false ext hcode
    rw [hone]
    rfl

/-- What a request must meet to stay within the caller's buffer. -/
def Answerable (overflowChecks : Bool) (ext : Extension) (irp : Irp) : Prop :=
  if irp.ioControlCode = ioctlDiskGetDriveGeometryEx then
    overflowChecks = true → 32 ≤ irp.outLen → ext.diskLength.toInt + 2 ^ 20 < 2 ^ 63
  else if irp.ioControlCode = ioctlStorageQueryProperty then
    ¬ (8 ≤ irp.outLen ∧ storagePropertyQuerySize ≤ irp.inputBufferLength.toNat ∧
      ∃ sysBuf ∈ irp.systemBuffer, readU32 sysBuf 0 = storageDeviceTrimProperty)
  else if irp.ioControlCode = ioctlMountdevQueryDeviceName then
    4 ≤ irp.outLen ∧ (overflowChecks = true → 65 + (driveNo ext).toUInt16.toNat < 2 ^ 16)
  else if irp.ioControlCode = ioctlMountdevQueryUniqueId then
    4 ≤ irp.outLen ∧
      (overflowChecks = true → 65 + ext.nDosDriveNo.toUInt32.toUInt8.toNat < 2 ^ 8)
  else if irp.ioControlCode = ioctlMountdevQuerySuggestedLinkName then
    overflowChecks = true → 6 ≤ irp.outLen → 65 + (driveNo ext).toUInt16.toNat < 2 ^ 16
  else True

/-- Exactly the answerable requests are completed once, with no more information than the
caller's buffer holds and no byte stored behind it. -/
theorem repliesWithin_iff (overflowChecks : Bool) (ext : Extension) (irp : Irp) :
    RepliesWithin irp (processVolumeDeviceControl overflowChecks ext irp) ↔
      Answerable overflowChecks ext irp := by
  rw [Answerable]
  split_ifs with hgeometry hproperty hname hid hlink
  · rw [← repliesWithin_diskGetDriveGeometryEx, processVolumeDeviceControl, hgeometry]
    rfl
  · rw [← repliesWithin_storageQueryProperty overflowChecks ext, processVolumeDeviceControl,
      hproperty]
    rfl
  · rw [← repliesWithin_mountdevQueryDeviceName, processVolumeDeviceControl, hname]
    rfl
  · rw [← repliesWithin_mountdevQueryUniqueId, processVolumeDeviceControl, hid]
    rfl
  · rw [← repliesWithin_mountdevQuerySuggestedLinkName, processVolumeDeviceControl, hlink]
    rfl
  · refine iff_of_true (repliesWithin_of_not_delicate overflowChecks ext ?_) trivial
    simp [delicateCodes, hgeometry, hproperty, hname, hid, hlink]

/-- The extension of a new device is zero-filled. -/
def Extension.zeroed : Extension := ⟨0, 0, 0, 0, 0, 0, 0, 0, 0, 0, 0, 0⟩

/-- `IOCTL_MOUNTDEV_QUERY_DEVICE_NAME` without an output buffer reports four bytes. -/
theorem deviceName_without_buffer_not_repliesWithin :
    ¬ RepliesWithin ⟨ioctlMountdevQueryDeviceName, 0, 0, none⟩
      (processVolumeDeviceControl false Extension.zeroed
        ⟨ioctlMountdevQueryDeviceName, 0, 0, none⟩) := by
  intro h
  have hlen : 4 ≤ (0 : UInt32).toNat :=
    ((repliesWithin_mountdevQueryDeviceName false Extension.zeroed).mp h).1
  exact absurd hlen (by decide)

end Replies

end Oxhide.DeviceControl
