import Oxhide.FaultyFile
import Oxhide.SectorIo

/-! # The synchronous disk request pipeline of the driver

READ, WRITE and FLUSH requests are processed inline. Every answer of the kernel
along the way is an input: whether the pool allocation and the mapping of the
user buffer succeed, and the status of each host file call with the number of
bytes it moved. The result records the calls made, the host file and the user
buffer. -/
namespace Oxhide.EncryptedIoQueue
open BlockCiphers CheckedWords FaultyFile InPlaceBuffer ListSplice SectorCiphers SectorIo WordBytes

abbrev NtStatus := Int32

def ntSuccess (status : NtStatus) : Bool := decide (0 ≤ status)

def statusSuccess : NtStatus := 0
def statusInvalidParameter : NtStatus := (0xC000000D : UInt32).toInt32
def statusInvalidDeviceRequest : NtStatus := (0xC0000010 : UInt32).toInt32
def statusInsufficientResources : NtStatus := (0xC000009A : UInt32).toInt32
def statusMediaWriteProtected : NtStatus := (0xC00000A2 : UInt32).toInt32
def statusDiskCorruptError : NtStatus := (0xC0000032 : UInt32).toInt32

/-- The extension fields that request processing reads. -/
structure Extension where
  volDataAreaOffset : UInt64
  firstDataUnitNo : UInt64
  diskLength : Int64
  bReadOnly : UInt8
  cryptoInfo : KernelSectorCipher

inductive IrpMajor where
  | read
  | write
  | flushBuffers
  | other (code : UInt8)
  deriving DecidableEq, Repr

/-- A request with its user buffer, which the I/O manager sized to `length`. -/
structure Irp where
  major : IrpMajor
  byteOffset : Int64
  length : UInt32
  userBuffer : Bytes
  userBuffer_length : userBuffer.length = length.toNat
  deriving DecidableEq, Repr

theorem length_sectorBuffer : (List.replicate 512 (0 : UInt8)).length = (512 : UInt32).toNat :=
  List.length_replicate

/-- The answer to a host file call: its status and how many bytes it moves at most. -/
structure HostTransfer where
  status : NtStatus
  transferred : ℕ
  deriving DecidableEq, Repr

structure KernelAnswers where
  poolAllocated : Bool
  bufferMapped : Bool
  read : HostTransfer
  write : HostTransfer
  flush : NtStatus
  deriving DecidableEq, Repr

inductive KernelCall where
  | exAllocatePool (size : ℕ)
  | exFreePool
  | zwReadFile (byteOffset : Int64) (length : UInt32)
  | zwWriteFile (byteOffset : Int64) (length : UInt32) (data : Bytes)
  | zwFlushBuffersFile
  | ioCompleteRequest (status : NtStatus) (information : ℕ)
  deriving DecidableEq, Repr

structure IrpRun where
  status : NtStatus
  calls : List KernelCall
  host : Bytes
  userBuffer : Bytes
  deriving DecidableEq, Repr

/-- The buffer after a read. A negative offset denotes no position of the file. -/
def zwReadFile (host : Bytes) (byteOffset : Int64) (length : UInt32) (answer : HostTransfer)
    (buffer : Bytes) : Bytes :=
  if byteOffset < 0 then buffer
  else splice buffer 0
    (slice host byteOffset.toNatClampNeg (min answer.transferred length.toNat))

/-- The host file after a write. -/
def zwWriteFile (host : Bytes) (byteOffset : Int64) (length : UInt32) (answer : HostTransfer)
    (buffer : Bytes) : Bytes :=
  if byteOffset < 0 then host
  else storeAt 0 host byteOffset.toNatClampNeg
    (buffer.take (min answer.transferred length.toNat))

/-- The driver completes a request with the status it returns. -/
def completeDiskIrp (calls : List KernelCall) (host userBuffer : Bytes) (status : NtStatus)
    (information : ℕ) : IrpRun :=
  { status, calls := calls ++ [.ioCompleteRequest status information], host, userBuffer }

section Requests
variable (P : CipherSuite) (ext : Extension) (irp : Irp) (answers : KernelAnswers) (host : Bytes)

def ioParams : Checked (Except SectorIoError SectorIoParams) :=
  computeSectorIoParams ext.volDataAreaOffset ext.firstDataUnitNo irp.byteOffset.toUInt64
    irp.length.toUInt64 ext.diskLength.toUInt64

/-- From the host read on; the pool block is zero-filled. -/
def readSectors (params : SectorIoParams) : IrpRun :=
  let byteOffset := params.alignedHostOffset.toInt64
  let length := params.alignedLength.toUInt32
  let sectorBuf := List.replicate params.alignedLength.toNat 0
  let calls := [.exAllocatePool params.alignedLength.toNat, .zwReadFile byteOffset length,
    .exFreePool]
  let sectorBuf := zwReadFile host byteOffset length answers.read sectorBuf
  if ¬ ntSuccess answers.read.status then
    completeDiskIrp calls host irp.userBuffer answers.read.status 0
  else
    match decryptSectors P ext.cryptoInfo params.firstSectorIndex params.sectorCount sectorBuf with
    | (.error _, _) => completeDiskIrp calls host irp.userBuffer statusDiskCorruptError 0
    | (.ok (), sectorSlice) =>
      if ¬ answers.bufferMapped then
        completeDiskIrp calls host irp.userBuffer statusInsufficientResources 0
      else
        let data := slice sectorSlice params.userDataOffset params.userDataLength
        completeDiskIrp calls host (splice irp.userBuffer 0 data) statusSuccess
          params.userDataLength

def processReadIrp : IrpRun :=
  if irp.length = 0 then
    completeDiskIrp [] host irp.userBuffer statusSuccess 0
  else if irp.byteOffset < 0 then
    completeDiskIrp [] host irp.userBuffer statusInvalidParameter 0
  else
    match (ioParams ext irp).val with
    | .error .zeroLength => completeDiskIrp [] host irp.userBuffer statusSuccess 0
    | .error _ => completeDiskIrp [] host irp.userBuffer statusInvalidParameter 0
    | .ok params =>
      if ¬ answers.poolAllocated then
        completeDiskIrp [.exAllocatePool params.alignedLength.toNat] host irp.userBuffer
          statusInsufficientResources 0
      else
        readSectors P ext irp answers host params

/-- From the host read on: the user's bytes are laid over the sectors as they were
read, and the result is encrypted and written back. -/
def writeSectors (params : SectorIoParams) : IrpRun :=
  let byteOffset := params.alignedHostOffset.toInt64
  let length := params.alignedLength.toUInt32
  let sectorBuf := List.replicate params.alignedLength.toNat 0
  let calls := [.exAllocatePool params.alignedLength.toNat, .zwReadFile byteOffset length]
  let sectorBuf := zwReadFile host byteOffset length answers.read sectorBuf
  if ¬ ntSuccess answers.read.status then
    completeDiskIrp (calls ++ [.exFreePool]) host irp.userBuffer answers.read.status 0
  else if ¬ answers.bufferMapped then
    completeDiskIrp (calls ++ [.exFreePool]) host irp.userBuffer statusInsufficientResources 0
  else
    let sectorSlice := splice sectorBuf params.userDataOffset
      (slice irp.userBuffer 0 params.userDataLength)
    match encryptSectors P ext.cryptoInfo params.firstSectorIndex params.sectorCount
        sectorSlice with
    | (.error _, _) =>
      completeDiskIrp (calls ++ [.exFreePool]) host irp.userBuffer statusDiskCorruptError 0
    | (.ok (), sectorSlice) =>
      let calls := calls ++ [.zwWriteFile byteOffset length sectorSlice, .exFreePool]
      let host := zwWriteFile host byteOffset length answers.write sectorSlice
      if ¬ ntSuccess answers.write.status then
        completeDiskIrp calls host irp.userBuffer answers.write.status 0
      else
        completeDiskIrp calls host irp.userBuffer statusSuccess params.userDataLength

def processWriteIrp : IrpRun :=
  if ext.bReadOnly ≠ 0 then
    completeDiskIrp [] host irp.userBuffer statusMediaWriteProtected 0
  else if irp.byteOffset < 0 then
    completeDiskIrp [] host irp.userBuffer statusInvalidParameter 0
  else
    match (ioParams ext irp).val with
    | .error .zeroLength => completeDiskIrp [] host irp.userBuffer statusSuccess 0
    | .error _ => completeDiskIrp [] host irp.userBuffer statusInvalidParameter 0
    | .ok params =>
      if ¬ answers.poolAllocated then
        completeDiskIrp [.exAllocatePool params.alignedLength.toNat] host irp.userBuffer
          statusInsufficientResources 0
      else
        writeSectors P ext irp answers host params

def processFlushIrp : IrpRun :=
  if ext.bReadOnly ≠ 0 then
    completeDiskIrp [] host irp.userBuffer statusSuccess 0
  else if ¬ ntSuccess answers.flush then
    completeDiskIrp [.zwFlushBuffersFile] host irp.userBuffer answers.flush 0
  else
    completeDiskIrp [.zwFlushBuffersFile] host irp.userBuffer statusSuccess 0

def addIrp : IrpRun :=
  match irp.major with
  | .read => processReadIrp P ext irp answers host
  | .write => processWriteIrp P ext irp answers host
  | .flushBuffers => processFlushIrp ext irp answers host
  | .other _ => completeDiskIrp [] host irp.userBuffer statusInvalidDeviceRequest 0

end Requests

section Calls
variable {P : CipherSuite} {ext : Extension} {irp : Irp} {answers : KernelAnswers} {host : Bytes}

/-- The kernel calls of a read that got its pool block. -/
theorem readSectors_calls (params : SectorIoParams) :
    ∃ information, (readSectors P ext irp answers host params).calls =
      [.exAllocatePool params.alignedLength.toNat,
        .zwReadFile params.alignedHostOffset.toInt64 params.alignedLength.toUInt32, .exFreePool,
        .ioCompleteRequest (readSectors P ext irp answers host params).status information] := by
  simp only [readSectors]
  split
  · exact ⟨_, rfl⟩
  · split
    · exact ⟨_, rfl⟩
    · split <;> exact ⟨_, rfl⟩

/-- The kernel calls of a write that got its pool block. -/
theorem writeSectors_calls (params : SectorIoParams) :
    ∃ written information, (writeSectors P ext irp answers host params).calls =
        [.exAllocatePool params.alignedLength.toNat,
          .zwReadFile params.alignedHostOffset.toInt64 params.alignedLength.toUInt32] ++ written ++
        [.exFreePool,
          .ioCompleteRequest (writeSectors P ext irp answers host params).status information] ∧
      (written = [] ∨ ∃ data, written =
        [.zwWriteFile params.alignedHostOffset.toInt64 params.alignedLength.toUInt32 data]) := by
  simp only [writeSectors]
  split
  · exact ⟨[], _, rfl, .inl rfl⟩
  · split
    · exact ⟨[], _, rfl, .inl rfl⟩
    · split
      · exact ⟨[], _, rfl, .inl rfl⟩
      · split <;> exact ⟨_, _, rfl, .inr ⟨_, rfl⟩⟩

end Calls

end Oxhide.EncryptedIoQueue
