import Oxhide.HostVolume

/-! # The mount request on its way to the volume thread

`MountStruct` is packed: a field lies right behind the fields declared before it.
The request is copied to the start of a zero-filled thread block, the starter
then stores its own two fields, and the volume thread reads the request behind
these, twelve bytes from the start. -/
namespace Oxhide.MountRequest
open CipherTypes EncryptedIoQueue HostVolume ListSplice WordBytes

inductive MountField where
  | returnCode
  | filesystemDirty
  | volumePassword
  | mountReadOnly
  | mountRemovable
  | partitionInInactiveSysEncScope
  | mountDisableWriteCache
  | protectedVolumePassword
  | useHiddenVolumeProtection
  | preserveTimestamps
  | partSlotNumber
  | volumeCreationTime
  | volumeSerialNumber
  | dummy
  | wszVolume
  | nDosDriveNo
  | bytesPerSector
  | diskLength
  | ea
  | masterKey
  | dataOffset
  | rawDevice
  | volumePim
  | wszLabel
  | maxXferLen
  | maxPhysPages
  | alignMask
  deriving DecidableEq, Repr

namespace MountField

def maxPassword : ℕ := 64
def masterKeyMaxSize : ℕ := 192

/-- Size in bytes. -/
def size : MountField → ℕ
  | returnCode | partSlotNumber | volumeSerialNumber | dummy => 4
  | filesystemDirty | mountReadOnly | mountRemovable | partitionInInactiveSysEncScope
  | mountDisableWriteCache | useHiddenVolumeProtection | preserveTimestamps | rawDevice => 1
  | volumePassword | protectedVolumePassword => 2 * maxPassword
  | volumeCreationTime | diskLength | dataOffset => 8
  | wszVolume => 2 * tcMaxPath
  | nDosDriveNo | bytesPerSector | ea | volumePim | maxXferLen | maxPhysPages | alignMask => 4
  | masterKey => masterKeyMaxSize
  | wszLabel => 2 * 33

/-- The fields as they are declared. -/
def all : List MountField :=
  [returnCode, filesystemDirty, volumePassword, mountReadOnly, mountRemovable,
    partitionInInactiveSysEncScope, mountDisableWriteCache, protectedVolumePassword,
    useHiddenVolumeProtection, preserveTimestamps, partSlotNumber, volumeCreationTime,
    volumeSerialNumber, dummy, wszVolume, nDosDriveNo, bytesPerSector, diskLength, ea, masterKey,
    dataOffset, rawDevice, volumePim, wszLabel, maxXferLen, maxPhysPages, alignMask]

def offset (f : MountField) : ℕ := ((all.takeWhile (· ≠ f)).map size).sum

end MountField

def mountStructSize : ℕ := 1110

theorem sum_size_all : (MountField.all.map MountField.size).sum = mountStructSize := by decide

theorem MountField.offset_add_size (f : MountField) : f.offset + f.size ≤ mountStructSize := by
  cases f <;> decide

/-- Two fields share no byte. -/
theorem MountField.disjoint {f g : MountField} (h : f ≠ g) :
    f.offset + f.size ≤ g.offset ∨ g.offset + g.size ≤ f.offset := by
  have hoffset : ∀ f ∈ all, ∀ g ∈ all, f ≠ g →
      f.offset + f.size ≤ g.offset ∨ g.offset + g.size ≤ f.offset := by decide
  exact hoffset f (by cases f <;> decide) g (by cases g <;> decide) h

structure MountStruct where
  bytes : Bytes
  length_bytes : bytes.length = mountStructSize
  deriving DecidableEq, Repr

namespace MountStruct

def zeroed : MountStruct := ⟨List.replicate mountStructSize 0, List.length_replicate⟩

@[ext] theorem ext {m n : MountStruct} (h : m.bytes = n.bytes) : m = n := by
  cases m
  cases n
  cases h
  rfl

variable (m : MountStruct)

def readBytes (f : MountField) : Bytes := slice m.bytes f.offset f.size

/-- The little-endian readers for packed fields. -/
def readWord (f : MountField) : ℕ := ofLeBytes (m.readBytes f)

/-- A copy to the start of a field, cut off at its size. -/
def writeBytes (f : MountField) (src : Bytes) : MountStruct where
  bytes := splice m.bytes f.offset (src.take f.size)
  length_bytes := by
    have hinside := f.offset_add_size
    have hlen := m.length_bytes
    rw [length_splice, hlen]
    rw [hlen, List.length_take]
    omega

def writeWord (f : MountField) (v : ℕ) : MountStruct := m.writeBytes f (leBytes f.size v)

theorem length_readBytes (f : MountField) : (m.readBytes f).length = f.size := by
  have hinside := f.offset_add_size
  have hlen := m.length_bytes
  exact length_slice_of_le (by omega)

theorem readBytes_writeBytes_of_ne {f g : MountField} (h : f ≠ g) (src : Bytes) :
    (m.writeBytes f src).readBytes g = m.readBytes g := by
  have hinside := f.offset_add_size
  have hlen := m.length_bytes
  have htake : (src.take f.size).length ≤ f.size := by
    rw [List.length_take]
    omega
  rcases MountField.disjoint h with hbelow | habove
  · exact slice_splice_of_disjoint (by omega) (by omega)
  · exact slice_splice_of_disjoint (by omega) (by omega)

theorem readBytes_writeBytes_self (f : MountField) (src : Bytes) :
    (m.writeBytes f src).readBytes f = splice (m.readBytes f) 0 (src.take f.size) := by
  have hinside := f.offset_add_size
  have hlen := m.length_bytes
  have htake : (src.take f.size).length ≤ f.size := by
    rw [List.length_take]
    omega
  apply List.ext_getElem?
  intro i
  rw [readBytes, writeBytes, getElem?_slice, getElem?_splice (by omega),
    getElem?_splice (Nat.zero_le _), readBytes, getElem?_slice, if_neg (Nat.not_lt_zero i)]
  by_cases hi : i < f.size
  · rw [if_pos hi, if_neg (by omega), if_pos hi, Nat.add_sub_cancel_left, Nat.zero_add,
      Nat.sub_zero]
    simp only [Nat.add_lt_add_iff_left]
  · rw [if_neg hi, if_neg hi, if_neg (by omega)]

theorem readWord_writeWord_self (f : MountField) (v : ℕ) :
    (m.writeWord f v).readWord f = v % 256 ^ f.size := by
  have hwhole : (leBytes f.size v).take f.size = leBytes f.size v :=
    List.take_of_length_le (length_leBytes _ _).le
  rw [readWord, writeWord, readBytes_writeBytes_self, hwhole,
    splice_whole (by rw [length_leBytes, length_readBytes]), ofLeBytes_leBytes]

theorem readWord_writeBytes_of_ne {f g : MountField} (h : f ≠ g) (src : Bytes) :
    (m.writeBytes f src).readWord g = m.readWord g := by
  rw [readWord, readBytes_writeBytes_of_ne m h, readWord]

theorem readWord_writeWord_of_ne {f g : MountField} (h : f ≠ g) (v : ℕ) :
    (m.writeWord f v).readWord g = m.readWord g :=
  m.readWord_writeBytes_of_ne h _

end MountStruct

section ThreadBlock

/-! The thread block: a pointer, a status, the packed request, padded to its alignment. -/

def deviceObjectOffset : ℕ := 0
def ntCreateStatusOffset : ℕ := 8
def mountOffset : ℕ := 12
def threadBlockSize : ℕ := 1128

def statusPending : NtStatus := (0x103 : UInt32).toInt32

/-- The copy made by `mount_device` into the pool allocation. -/
def mountDeviceBlock (mount : MountStruct) : Bytes :=
  splice (List.replicate threadBlockSize 0) 0 mount.bytes

/-- The two field stores of `tc_start_volume_thread`. -/
def tcStartVolumeThread (deviceObject : UInt64) (block : Bytes) : Bytes :=
  let block := splice block deviceObjectOffset (leBytes 8 deviceObject.toNat)
  splice block ntCreateStatusOffset (leBytes 4 statusPending.toUInt32.toNat)

theorem length_mountDeviceBlock (mount : MountStruct) :
    (mountDeviceBlock mount).length = threadBlockSize := by
  rw [mountDeviceBlock, length_splice, List.length_replicate]
  rw [mount.length_bytes, List.length_replicate]
  decide

theorem length_tcStartVolumeThread {deviceObject : UInt64} {block : Bytes}
    (h : block.length = threadBlockSize) :
    (tcStartVolumeThread deviceObject block).length = threadBlockSize := by
  rw [threadBlockSize] at h ⊢
  have hfirst : (splice block deviceObjectOffset (leBytes 8 deviceObject.toNat)).length = 1128 := by
    rw [length_splice, h]
    rw [h, length_leBytes]
    decide
  rw [tcStartVolumeThread, length_splice, hfirst]
  rw [hfirst, length_leBytes]
  decide

/-- `block.mount`, as the volume thread sees it. -/
def blockMount (deviceObject : UInt64) (mount : MountStruct) : MountStruct where
  bytes := slice (tcStartVolumeThread deviceObject (mountDeviceBlock mount)) mountOffset
    mountStructSize
  length_bytes := by
    apply length_slice_of_le
    rw [length_tcStartVolumeThread (length_mountDeviceBlock mount)]
    decide

/-- The thread sees the request twelve bytes further on, with zeros behind it. -/
theorem getElem?_blockMount (deviceObject : UInt64) (mount : MountStruct) (i : ℕ) :
    (blockMount deviceObject mount).bytes[i]? =
      if i < mountStructSize then
        if i + mountOffset < mountStructSize then mount.bytes[i + mountOffset]? else some 0
      else none := by
  have hblock := length_mountDeviceBlock mount
  have hlen := mount.length_bytes
  have hsize : mountStructSize = 1110 := rfl
  have hoff : mountOffset = 12 := rfl
  rw [threadBlockSize] at hblock
  have hfirst : (splice (mountDeviceBlock mount) deviceObjectOffset
      (leBytes 8 deviceObject.toNat)).length = 1128 := by
    rw [length_splice, hblock]
    rw [hblock, length_leBytes]
    decide
  simp only [blockMount, tcStartVolumeThread]
  rw [getElem?_slice, Nat.add_comm mountOffset i]
  by_cases hi : i < mountStructSize
  · rw [if_pos hi, if_pos hi, getElem?_splice (by rw [hfirst]; decide), length_leBytes,
      ntCreateStatusOffset, if_neg (by omega), if_neg (by omega),
      getElem?_splice (by rw [deviceObjectOffset]; omega), length_leBytes, deviceObjectOffset,
      if_neg (by omega), if_neg (by omega), mountDeviceBlock, getElem?_splice (Nat.zero_le _),
      if_neg (by omega), Nat.zero_add, hlen, Nat.sub_zero]
    by_cases hin : i + mountOffset < mountStructSize
    · rw [if_pos hin, if_pos hin]
    · rw [if_neg hin, if_neg hin, List.getElem?_replicate, threadBlockSize, if_pos (by omega)]
  · rw [if_neg hi, if_neg hi]

end ThreadBlock

section VolumeThread

def wideUnits : Bytes → List UInt16
  | lo :: hi :: rest => UInt16.ofNat (ofLeBytes [lo, hi]) :: wideUnits rest
  | _ => []

def ntPathPrefix : List UInt16 := [0x5C, 0x3F, 0x3F, 0x5C]

/-- The path buffer: the prefix, the path up to its terminator, zeros. -/
def ntPath (mount : MountStruct) : List UInt16 :=
  splice (List.replicate (tcMaxPath + 8) 0) 0
    (ntPathPrefix ++ (wideUnits (mount.readBytes .wszVolume)).takeWhile (· ≠ 0))

def keyLength (ea : UInt32) : ℕ :=
  match cipherTypeFromEa ea with
  | some ct => min (ct.keySize * 2) MountField.masterKeyMaxSize
  | none => 0

/-- What `volume_thread_proc` hands to `tc_open_volume`. -/
def volumeThreadProc (mount : MountStruct) : OpenRequest :=
  let ea := UInt32.ofNat (mount.readWord .ea)
  { wszVolume := ntPath mount
    ea := ea
    masterKey := (mount.readBytes .masterKey).take (keyLength ea)
    dataOffset := UInt64.ofNat (mount.readWord .dataOffset)
    diskLength := UInt64.ofNat (mount.readWord .diskLength)
    bytesPerSector := UInt32.ofNat (mount.readWord .bytesPerSector)
    readOnly := UInt8.ofNat (mount.readWord .mountReadOnly)
    preserveTimestamps := mount.readWord .preserveTimestamps ≠ 0 }

end VolumeThread

/-- The thread sees the request that was sent only when that is all zeros. -/
theorem blockMount_eq_iff (deviceObject : UInt64) (mount : MountStruct) :
    blockMount deviceObject mount = mount ↔ mount = MountStruct.zeroed := by
  have hlen := mount.length_bytes
  constructor
  · intro hsame
    -- A byte is the one twelve positions further on, and the last twelve are zero.
    have hshift (i : ℕ) (hi : i < mountStructSize) : mount.bytes[i]? =
        if i + mountOffset < mountStructSize then mount.bytes[i + mountOffset]? else some 0 := by
      conv_lhs => rw [← hsame]
      rw [getElem?_blockMount, if_pos hi]
    have hzero (d : ℕ) : ∀ i, i < mountStructSize → mountStructSize - i ≤ d →
        mount.bytes[i]? = some 0 := by
      induction d with
      | zero =>
        intro i hi hd
        omega
      | succ d ih =>
        intro i hi hd
        rw [hshift i hi]
        by_cases hin : i + mountOffset < mountStructSize
        · rw [if_pos hin]
          rw [mountOffset] at hin ⊢
          exact ih _ hin (by omega)
        · rw [if_neg hin]
    apply MountStruct.ext
    apply List.ext_getElem?
    intro i
    rw [MountStruct.zeroed, List.getElem?_replicate]
    by_cases hi : i < mountStructSize
    · rw [if_pos hi, hzero _ i hi le_rfl]
    · rw [if_neg hi, List.getElem?_eq_none (by omega)]
  · rintro rfl
    apply MountStruct.ext
    apply List.ext_getElem?
    intro i
    rw [getElem?_blockMount, MountStruct.zeroed, List.getElem?_replicate, List.getElem?_replicate]
    by_cases hi : i < mountStructSize
    · by_cases hin : i + mountOffset < mountStructSize
      · rw [if_pos hi, if_pos hin, if_pos hin, if_pos hi]
      · rw [if_pos hi, if_neg hin, if_pos hi]
    · rw [if_neg hi, if_neg hi]

/-- A request for a volume of 256 KiB, encrypted with AES. -/
def aesRequest : MountStruct :=
  MountStruct.zeroed
    |>.writeWord .nDosDriveNo 23
    |>.writeWord .bytesPerSector 512
    |>.writeWord .diskLength 262144
    |>.writeWord .ea 1
    |>.writeWord .dataOffset 262144
    |>.writeWord .mountRemovable 1
    |>.writeBytes .wszVolume [0x76, 0]

/-- The thread reads another cipher and another length than the ones that were sent. -/
theorem blockMount_aesRequest_ne :
    aesRequest.readWord .ea = 1 ∧ (blockMount 0 aesRequest).readWord .ea = 0 ∧
      blockMount 0 aesRequest ≠ aesRequest := by
  have hea : aesRequest.readWord .ea = 1 := by decide +kernel
  have hea' : (blockMount 0 aesRequest).readWord .ea = 0 := by decide +kernel
  refine ⟨hea, hea', fun hsame => ?_⟩
  rw [hsame, hea] at hea'
  cases hea'

end Oxhide.MountRequest
