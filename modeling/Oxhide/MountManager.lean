import Oxhide.DeviceControl
import Oxhide.ListSplice

/-! # Messages to the Mount Manager

A drive letter is a mount point: a link `\DosDevices\X:` to the device of the volume. The
driver asks the Mount Manager to create it behind a mount and to delete it with the volume.
Both names lie behind a header with their offsets and lengths in bytes. -/
namespace Oxhide.MountManager
open ListSplice WordBytes
open DeviceControl (Write field unitBytes volumeDosName volumeNtName wcslen)

section Messages

/-- What `ZwDeviceIoControlFile` is called with. -/
structure Message where
  ioctl : UInt32
  input : Bytes
  deriving DecidableEq, Repr

def ioctlMountmgrCreatePoint : UInt32 := 0x6D4000
def ioctlMountmgrDeletePoints : UInt32 := 0x6D4004
def ioctlMountmgrVolumeArrivalNotification : UInt32 := 0x6D4034

/-- A buffer behind stores into it. -/
def stored (buf : Bytes) (writes : List Write) : Bytes :=
  writes.foldl (fun buf w => splice buf w.offset w.bytes) buf

/-- The first bytes of a zeroed buffer. -/
def message (ioctl : UInt32) (bufLen : ℕ) (writes : List Write) (total : ℕ) : Message :=
  ⟨ioctl, (stored (List.replicate bufLen 0) writes).take total⟩

/-- `MOUNTMGR_TARGET_NAME`. -/
def notifyVolumeArrival (driveNo : UInt64) : Option Message :=
  if driveNo ≥ 26 then none
  else
    let ntName := (volumeNtName driveNo).val
    let ntNameLen := wcslen ntName
    some (message ioctlMountmgrVolumeArrivalNotification 512
      [field 0 2 (ntNameLen * 2), ⟨2, unitBytes ntNameLen ntName⟩] (2 + ntNameLen * 2))

/-- `MOUNTMGR_CREATE_POINT_INPUT` and the two names. -/
def createMountPoint (driveNo : UInt64) : Option Message :=
  if driveNo ≥ 26 then none
  else
    let dosName := (volumeDosName driveNo).val
    let dosLen := wcslen dosName
    let ntName := (volumeNtName driveNo).val
    let ntLen := wcslen ntName
    let hdrSize := 8
    some (message ioctlMountmgrCreatePoint 512
      [field 0 2 hdrSize,
        field 2 2 (dosLen * 2),
        field 4 2 (hdrSize + dosLen * 2),
        field 6 2 (ntLen * 2),
        ⟨hdrSize, unitBytes dosLen dosName⟩,
        ⟨hdrSize + dosLen * 2, unitBytes ntLen ntName⟩]
      (hdrSize + dosLen * 2 + ntLen * 2))

/-- `MOUNTMGR_MOUNT_POINT` and the name of the link; the other two names are empty. -/
def deleteMountPoint (driveNo : UInt64) : Option Message :=
  if driveNo ≥ 26 then none
  else
    let dosName := (volumeDosName driveNo).val
    let dosLen := wcslen dosName
    let hdrSize := 24
    some (message ioctlMountmgrDeletePoints 256
      [field 0 4 hdrSize,
        field 4 2 (dosLen * 2),
        field 8 4 0,
        field 12 2 0,
        field 16 4 0,
        field 20 2 0,
        ⟨hdrSize, unitBytes dosLen dosName⟩]
      (hdrSize + dosLen * 2))

end Messages

section Points

/-! How the Mount Manager reads a message: it finds the names by the header. -/

def readNumber (input : Bytes) (offset size : ℕ) : ℕ := ofLeBytes (slice input offset size)

def createdLink (input : Bytes) : Bytes := slice input (readNumber input 0 2) (readNumber input 2 2)

def createdDevice (input : Bytes) : Bytes :=
  slice input (readNumber input 4 2) (readNumber input 6 2)

def deletedLink (input : Bytes) : Bytes := slice input (readNumber input 0 4) (readNumber input 4 2)

abbrev drives : ℕ := 26

/-- `\DosDevices\X:` -/
def linkName (i : Fin drives) : Bytes :=
  let dosName := (volumeDosName (UInt64.ofNat i)).val
  unitBytes (wcslen dosName) dosName

/-- `\Device\OxhideVolumeX` -/
def deviceName (i : Fin drives) : Bytes :=
  let ntName := (volumeNtName (UInt64.ofNat i)).val
  unitBytes (wcslen ntName) ntName

/-- What a message for a drive comes to. -/
private theorem reads (i : Fin drives) :
    (notifyVolumeArrival (UInt64.ofNat i)).map (·.ioctl) =
        some ioctlMountmgrVolumeArrivalNotification ∧
      (createMountPoint (UInt64.ofNat i)).map
          (fun m => (m.ioctl, createdLink m.input, createdDevice m.input)) =
        some (ioctlMountmgrCreatePoint, linkName i, deviceName i) ∧
      (deleteMountPoint (UInt64.ofNat i)).map (fun m => (m.ioctl, deletedLink m.input)) =
        some (ioctlMountmgrDeletePoints, linkName i) := by
  revert i
  decide +kernel

section Receive
variable {points : Points} {linked : Fin drives → Bool} {i : Fin drives} {m : Message}

end Receive

end Points

end Oxhide.MountManager
