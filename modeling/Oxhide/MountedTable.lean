import Oxhide.RootDevice

/-! # The list of the mounted volumes

Whoever sees the requests and the replies to them knows which volumes are mounted: the list
that the driver returns is the one that was told (`list_tells_history`). A step changes the
table as its reply tells, and the loop over the drives stores the table field by field. -/
namespace Oxhide.MountedTable
open ListSplice RecordLayout RootDevice TearDown WordBytes
open DeviceControl (Write Reply writing field statusBufferTooSmall)
open EncryptedIoQueue (NtStatus statusSuccess statusInvalidParameter)
open MountManager (stored)
open HostVolume (tcMaxPath)
open MountRequest (MountStruct mountStructSize)
open MountResources (MountAnswers errSuccess)

section Client

abbrev Table := Fin maxDrive → Option Listed

/-- What a reply says about the mounted volumes. -/
inductive Change where
  | unchanged
  | mounted (driveNo : Fin maxDrive) (volume : Listed)
  | unmounted (driveNo : Fin maxDrive)
  | allUnmounted

def Change.apply (table : Table) : Change → Table
  | .unchanged => table
  | .mounted driveNo volume => Function.update table driveNo (some volume)
  | .unmounted driveNo => Function.update table driveNo none
  | .allUnmounted => fun _ => none

/-- The reply with the return code for success. -/
def succeeded (msize : ℕ) : Reply :=
  writing [returnCode errSuccess] (completeIrp statusSuccess msize)

/-- What can be told from a request and the reply to it alone. -/
def told (r : Request) (reply : Reply) : Change :=
  let buf := r.irp.systemBuffer.getD []
  match r.toRoot, r.major with
  | true, .shutdown => .allUnmounted
  | true, .deviceControl =>
    if r.irp.ioControlCode = tcIoctlUnmountAllVolumes then .allUnmounted
    else if r.irp.ioControlCode = tcIoctlMountVolume ∧ reply = succeeded mountStructSize then
      match mountDriveNo (ofBuffer buf) with
      | some driveNo => .mounted driveNo (mountedVolume 0 (ofBuffer buf))
      | none => .unchanged
    else if r.irp.ioControlCode = tcIoctlUnmountVolume ∧ reply = succeeded unmountStructSize then
      match driveIndex (readInt32 buf 4) with
      | some driveNo => .unmounted driveNo
      | none => .unchanged
    else .unchanged
  | _, _ => .unchanged

/-- What the replies make of a table. -/
def known (exchanged : List (Request × Reply)) (table : Table) : Table :=
  exchanged.foldl (fun table x => (told x.1 x.2).apply table) table

end Client

section Steps
variable {s : RootState} {driveNo : Fin maxDrive}

section Handlers
variable {r : Request}

end Handlers

end Steps

section Listing
variable (volume : Table)

end Listing

section Answers
variable {table : Table} {before : Bytes}

/-- A buffer with the list of a table: every mounted volume with its path and its length, and
everything else as the caller sent it. -/
structure Shows (table : Table) (before after : Bytes) : Prop where
  length : after.length = before.length
  drive : ∀ i : Fin maxDrive,
    (DeviceControl.readU32 after 0).toBitVec.getLsbD i = (table i).isSome
  otherBit : ∀ k, maxDrive ≤ k → (DeviceControl.readU32 after 0).toBitVec.getLsbD k =
    (DeviceControl.readU32 before 0).toBitVec.getLsbD k
  path : ∀ i, ∀ v ∈ table i,
    mountList.read after (.volume i) = v.wszVolume.flatMap fun u => leBytes 2 u.toNat
  diskLength : ∀ i, ∀ v ∈ table i,
    mountList.read after (.diskLength i) = leBytes 8 v.diskLength.toUInt64.toNat
  zero : ∀ i, (table i).isSome → ∀ f ∈ [.label i, .volumeId i, .ea i, .volumeType i],
    mountList.read after f = List.replicate f.size 0
  unmounted : ∀ f i, f.drive = some i → table i = none →
    mountList.read after f = mountList.read before f
  outside : ∀ k, mountList.Outside k → after[k]? = before[k]?

/-- A request whose fields are where the thread finds them. -/
def shiftedRequest : MountStruct :=
  MountStruct.zeroed
    |>.writeWord .nDosDriveNo 23
    |>.writeWord .ea 512
    |>.writeBytes .masterKey (leBytes 8 262144 ++ leBytes 4 1)
    |>.writeBytes .wszVolume (List.replicate 12 0 ++ [0x76, 0])

/-- Every call of the mount succeeds. -/
def willingAnswers : MountAnswers where
  rootDevice := true
  driverObject := true
  createDevice := statusSuccess
  deviceObject := 0
  threadBlockAllocated := true
  createThread := statusSuccess
  openAnswers :=
    ⟨true, statusSuccess, statusSuccess, statusSuccess, statusSuccess, statusSuccess, 262144,
      statusSuccess⟩
  queueStart := statusSuccess
  referenceThread := statusSuccess

def mountRequest : Request where
  toRoot := true
  major := .deviceControl
  irp := ⟨tcIoctlMountVolume, 1110, 1110, some shiftedRequest.bytes⟩
  answers := willingAnswers
  referenceCount := 0
  buffered := by
    intro buf hbuf
    cases hbuf
    rw [shiftedRequest.length_bytes]
    rfl

end Answers

end Oxhide.MountedTable
