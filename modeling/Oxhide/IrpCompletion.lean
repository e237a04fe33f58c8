import Oxhide.EncryptedIoQueue
import Oxhide.RequestAddresses
import Oxhide.SectorAlignment

/-! # Completion and buffer lifetime of disk requests

The pipelines of `EncryptedIoQueue` once more, with every use of the sector buffer
recorded between its allocation and its release. The sector loops are arbitrary
here, so their failure is one of the outcomes, and a slice beyond the buffer stops
the machine. `addIrpTrace_completed` is the discipline of every run;
`addIrpTrace_eq` relates the runs to the request pipeline. -/
namespace Oxhide.IrpCompletion
open BlockCiphers CheckedWords EncryptedIoQueue InPlaceBuffer ListSplice RequestAddresses
  SectorAlignment SectorCiphers SectorIo WordBytes

section Traces

inductive IrpEvent where
  | exAllocatePool (size : ℕ) (allocated : Bool)
  | zwReadFile (byteOffset : Int64) (length : UInt32)
  | decryptSectors
  | encryptSectors
  | copyToUserBuffer
  | copyFromUserBuffer
  | zwWriteFile (byteOffset : Int64) (length : UInt32) (data : Bytes)
  | zwFlushBuffersFile
  | exFreePool
  | ioCompleteRequest (status : NtStatus) (information : ℕ)
  deriving DecidableEq, Repr

structure IrpTrace where
  status : NtStatus
  events : List IrpEvent
  host : Bytes
  userBuffer : Bytes
  deriving DecidableEq, Repr

/-- What the sector loops make of a buffer. -/
structure SectorLoops where
  decryptSectors : UInt64 → ℕ → InPlace CryptoError UInt8
  encryptSectors : UInt64 → ℕ → InPlace CryptoError UInt8

/-- The request is completed and its status returned. -/
def complete (events : List IrpEvent) (host userBuffer : Bytes) (status : NtStatus)
    (information : ℕ) : Option IrpTrace :=
  some { status, events := events ++ [.ioCompleteRequest status information], host, userBuffer }

variable (loops : SectorLoops) (ext : Extension) (irp : Irp) (answers : KernelAnswers)
  (host : Bytes)

/-- `process_read_irp` from the host read on. -/
def readTrace (params : SectorIoParams) : Option IrpTrace :=
  let byteOffset := params.alignedHostOffset.toInt64
  let length := params.alignedLength.toUInt32
  let events := [.exAllocatePool params.alignedLength.toNat true, .zwReadFile byteOffset length]
  let sectorBuf := zwReadFile host byteOffset length answers.read
    (List.replicate params.alignedLength.toNat 0)
  if ¬ ntSuccess answers.read.status then
    complete (events ++ [.exFreePool]) host irp.userBuffer answers.read.status 0
  -- the sector loop indexes the buffer by whole sectors
  else if params.alignedLength.toNat < params.sectorCount * 512 then
    none
  else
    let events := events ++ [.decryptSectors]
    match loops.decryptSectors params.firstSectorIndex params.sectorCount sectorBuf with
    | (.error _, _) =>
      complete (events ++ [.exFreePool]) host irp.userBuffer statusDiskCorruptError 0
    | (.ok (), sectorSlice) =>
      if params.alignedLength.toNat < params.userDataOffset + params.userDataLength then
        none
      else
        let events := events ++ [.copyToUserBuffer]
        if ¬ answers.bufferMapped then
          complete (events ++ [.exFreePool]) host irp.userBuffer statusInsufficientResources 0
        else
          let data := slice sectorSlice params.userDataOffset params.userDataLength
          complete (events ++ [.exFreePool]) host (splice irp.userBuffer 0 data) statusSuccess
            params.userDataLength

/-- `process_write_irp` from the host read on. -/
def writeTrace (params : SectorIoParams) : Option IrpTrace :=
  let byteOffset := params.alignedHostOffset.toInt64
  let length := params.alignedLength.toUInt32
  let events := [.exAllocatePool params.alignedLength.toNat true, .zwReadFile byteOffset length]
  let sectorBuf := zwReadFile host byteOffset length answers.read
    (List.replicate params.alignedLength.toNat 0)
  if ¬ ntSuccess answers.read.status then
    complete (events ++ [.exFreePool]) host irp.userBuffer answers.read.status 0
  else if params.alignedLength.toNat < params.userDataOffset + params.userDataLength then
    none
  else
    let events := events ++ [.copyFromUserBuffer]
    if ¬ answers.bufferMapped then
      complete (events ++ [.exFreePool]) host irp.userBuffer statusInsufficientResources 0
    else if params.alignedLength.toNat < params.sectorCount * 512 then
      none
    else
      let sectorSlice := splice sectorBuf params.userDataOffset
        (slice irp.userBuffer 0 params.userDataLength)
      let events := events ++ [.encryptSectors]
      match loops.encryptSectors params.firstSectorIndex params.sectorCount sectorSlice with
      | (.error _, _) =>
        complete (events ++ [.exFreePool]) host irp.userBuffer statusDiskCorruptError 0
      | (.ok (), sectorSlice) =>
        let events := events ++ [.zwWriteFile byteOffset length sectorSlice, .exFreePool]
        let host := zwWriteFile host byteOffset length answers.write sectorSlice
        if ¬ ntSuccess answers.write.status then
          complete events host irp.userBuffer answers.write.status 0
        else
          complete events host irp.userBuffer statusSuccess params.userDataLength

/-- The parameters and the pool block, which both pipelines ask for in the same way. -/
def allocateTrace (transfer : SectorIoParams → Option IrpTrace) : Option IrpTrace :=
  match (ioParams ext irp).val with
  | .error .zeroLength => complete [] host irp.userBuffer statusSuccess 0
  | .error _ => complete [] host irp.userBuffer statusInvalidParameter 0
  | .ok params =>
    if ¬ answers.poolAllocated then
      complete [.exAllocatePool params.alignedLength.toNat false] host irp.userBuffer
        statusInsufficientResources 0
    else
      transfer params

def processReadTrace : Option IrpTrace :=
  if irp.length = 0 then
    complete [] host irp.userBuffer statusSuccess 0
  else if irp.byteOffset < 0 then
    complete [] host irp.userBuffer statusInvalidParameter 0
  else
    allocateTrace ext irp answers host (readTrace loops irp answers host)

def processWriteTrace : Option IrpTrace :=
  if ext.bReadOnly ≠ 0 then
    complete [] host irp.userBuffer statusMediaWriteProtected 0
  else if irp.byteOffset < 0 then
    complete [] host irp.userBuffer statusInvalidParameter 0
  else
    allocateTrace ext irp answers host (writeTrace loops irp answers host)

def processFlushTrace : Option IrpTrace :=
  if ext.bReadOnly ≠ 0 then
    complete [] host irp.userBuffer statusSuccess 0
  else if ¬ ntSuccess answers.flush then
    complete [.zwFlushBuffersFile] host irp.userBuffer answers.flush 0
  else
    complete [.zwFlushBuffersFile] host irp.userBuffer statusSuccess 0

def addIrpTrace : Option IrpTrace :=
  match irp.major with
  | .read => processReadTrace loops ext irp answers host
  | .write => processWriteTrace loops ext irp answers host
  | .flushBuffers => processFlushTrace ext irp answers host
  | .other _ => complete [] host irp.userBuffer statusInvalidDeviceRequest 0

end Traces

section Discipline

/-- What an event does to the sector buffer. -/
inductive BlockEvent where
  | acquire
  | use
  | release
  deriving DecidableEq, Repr

def blockEvent : IrpEvent → Option BlockEvent
  | .exAllocatePool _ true => some .acquire
  | .exAllocatePool _ false => none
  | .exFreePool => some .release
  | .zwFlushBuffersFile => none
  | .ioCompleteRequest _ _ => none
  | _ => some .use

/-- The buffer was never allocated, or it was allocated, used and released once, and
nothing came after the release. -/
def Lifetime (history : List BlockEvent) : Prop :=
  history = [] ∨ ∃ n, history = .acquire :: List.replicate n .use ++ [.release]

def completion : IrpEvent → Option (NtStatus × ℕ)
  | .ioCompleteRequest status information => some (status, information)
  | _ => none

def isWrite : IrpEvent → Bool
  | .zwWriteFile _ _ _ => true
  | _ => false

/-- The requested length for a successful read or write, otherwise nothing. -/
def information (irp : Irp) (status : NtStatus) : ℕ :=
  if (irp.major = .read ∨ irp.major = .write) ∧ status = statusSuccess then irp.length.toNat else 0

/-- The request was completed once, with the returned status, the buffer lived from its
allocation to its release, and without a write the host file is what it was. -/
structure Completed (irp : Irp) (host : Bytes) (t : IrpTrace) : Prop where
  once : t.events.filterMap completion = [(t.status, information irp t.status)]
  lifetime : Lifetime (t.events.filterMap blockEvent)
  unchanged : (∀ event ∈ t.events, isWrite event = false) → t.host = host

variable {loops : SectorLoops} {ext : Extension} {irp : Irp} {answers : KernelAnswers}
  {host : Bytes}

/-- A run that never got its buffer. -/
private theorem complete_completed {events : List IrpEvent} {status : NtStatus} {info : ℕ}
    (hevents : events = [] ∨ (∃ n, events = [.exAllocatePool n false]) ∨
      events = [.zwFlushBuffersFile])
    (hinfo : info = information irp status) :
    ∃ t, complete events host irp.userBuffer status info = some t ∧ Completed irp host t := by
  refine ⟨_, rfl, ?_⟩
  rcases hevents with rfl | ⟨n, rfl⟩ | rfl
  · exact ⟨by simp [completion, hinfo], .inl rfl, fun _ => rfl⟩
  · exact ⟨by simp [List.filterMap_cons, completion, hinfo], .inl rfl, fun _ => rfl⟩
  · exact ⟨by simp [List.filterMap_cons, completion, hinfo], .inl rfl, fun _ => rfl⟩

/-- A run that releases its buffer after a list of uses. -/
private theorem release_completed (uses : List IrpEvent) {n : ℕ} {status : NtStatus} {info : ℕ}
    {host' userBuffer : Bytes}
    (huses : ∀ event ∈ uses, blockEvent event = some .use ∧ completion event = none)
    (hhost : (∀ event ∈ uses, isWrite event = false) → host' = host)
    (hinfo : info = information irp status) :
    ∃ t, complete (.exAllocatePool n true :: uses ++ [.exFreePool]) host' userBuffer status info =
      some t ∧ Completed irp host t := by
  have hblock : uses.filterMap blockEvent = List.replicate uses.length .use := by
    clear hhost
    induction uses with
    | nil => rfl
    | cons event uses ih =>
      have huse := (huses event List.mem_cons_self).1
      have hrest := ih fun event hevent => huses event (List.mem_cons_of_mem _ hevent)
      rw [List.filterMap_cons_some huse, hrest, List.length_cons, List.replicate_succ]
  have hsilent : uses.filterMap completion = [] := by
    rw [List.filterMap_eq_nil_iff]
    exact fun event hevent => (huses event hevent).2
  refine ⟨_, rfl, ?_, .inr ⟨uses.length, ?_⟩, ?_⟩
  · simp [List.filterMap_cons, completion, hsilent, hinfo]
  · simp [List.filterMap_cons, blockEvent, hblock]
  · intro hnone
    exact hhost fun event hevent => hnone event (by simp [hevent])

private theorem information_of_failed {status : NtStatus} (h : ¬ ntSuccess status) :
    information irp status = 0 := by
  have hne : status ≠ statusSuccess := by
    intro hstatus
    rw [hstatus] at h
    exact h (by decide)
  simp [information, hne]

private theorem information_of_success (hmajor : irp.major = .read ∨ irp.major = .write) :
    information irp statusSuccess = irp.length.toNat := if_pos ⟨hmajor, rfl⟩

/-- A read that got its buffer, whatever the host, the loops and the mapping answer. -/
private theorem readTrace_completed (hmajor : irp.major = .read) {p : SectorIoParams} {h : UInt64}
    (hw : WidensWord p h irp.length.toUInt64) :
    ∃ t, readTrace loops irp answers host p = some t ∧ Completed irp host t := by
  have hslice := hw.user_fits
  have hsectors := Nat.not_lt.mpr hw.length_eq.ge
  have hinfo : p.userDataLength = information irp statusSuccess := by
    rw [information_of_success (.inl hmajor), hw.userLength, UInt32.toNat_toUInt64]
  simp only [readTrace]
  by_cases hread : ntSuccess answers.read.status
  · rw [if_neg (not_not.mpr hread), if_neg hsectors]
    split
    · exact release_completed [.zwReadFile _ _, .decryptSectors]
        (by simp [blockEvent, completion]) (fun _ => rfl)
        (information_of_failed (by decide)).symm
    · rw [if_neg (Nat.not_lt.mpr hslice)]
      by_cases hmapped : answers.bufferMapped
      · rw [if_neg (not_not.mpr hmapped)]
        exact release_completed [.zwReadFile _ _, .decryptSectors, .copyToUserBuffer]
          (by simp [blockEvent, completion]) (fun _ => rfl) hinfo
      · rw [if_pos hmapped]
        exact release_completed [.zwReadFile _ _, .decryptSectors, .copyToUserBuffer]
          (by simp [blockEvent, completion]) (fun _ => rfl)
          (information_of_failed (by decide)).symm
  · rw [if_pos hread]
    exact release_completed [.zwReadFile _ _] (by simp [blockEvent, completion]) (fun _ => rfl)
      (information_of_failed hread).symm

/-- A write that got its buffer. Only after `zwWriteFile` the host file may differ. -/
private theorem writeTrace_completed (hmajor : irp.major = .write) {p : SectorIoParams}
    {h : UInt64} (hw : WidensWord p h irp.length.toUInt64) :
    ∃ t, writeTrace loops irp answers host p = some t ∧ Completed irp host t := by
  have hslice := hw.user_fits
  have hsectors := Nat.not_lt.mpr hw.length_eq.ge
  have hinfo : p.userDataLength = information irp statusSuccess := by
    rw [information_of_success (.inr hmajor), hw.userLength, UInt32.toNat_toUInt64]
  simp only [writeTrace]
  by_cases hread : ntSuccess answers.read.status
  · rw [if_neg (not_not.mpr hread), if_neg (Nat.not_lt.mpr hslice)]
    by_cases hmapped : answers.bufferMapped
    · rw [if_neg (not_not.mpr hmapped), if_neg hsectors]
      split
      · exact release_completed [.zwReadFile _ _, .copyFromUserBuffer, .encryptSectors]
          (by simp [blockEvent, completion]) (fun _ => rfl)
          (information_of_failed (by decide)).symm
      · next data _ =>
        have hwritten (host' : Bytes) :
            (∀ event ∈ [.zwReadFile p.alignedHostOffset.toInt64 p.alignedLength.toUInt32,
              .copyFromUserBuffer, .encryptSectors, .zwWriteFile p.alignedHostOffset.toInt64
                p.alignedLength.toUInt32 data], isWrite event = false) → host' = host := by
          intro hnone
          have hwrite := hnone (.zwWriteFile p.alignedHostOffset.toInt64
            p.alignedLength.toUInt32 data) (by simp)
          simp [isWrite] at hwrite
        by_cases hstatus : ntSuccess answers.write.status
        · rw [if_neg (not_not.mpr hstatus)]
          exact release_completed _ (by simp [blockEvent, completion]) (hwritten _) hinfo
        · rw [if_pos hstatus]
          exact release_completed _ (by simp [blockEvent, completion]) (hwritten _)
            (information_of_failed hstatus).symm
    · rw [if_pos hmapped]
      exact release_completed [.zwReadFile _ _, .copyFromUserBuffer]
        (by simp [blockEvent, completion]) (fun _ => rfl)
        (information_of_failed (by decide)).symm
  · rw [if_pos hread]
    exact release_completed [.zwReadFile _ _] (by simp [blockEvent, completion]) (fun _ => rfl)
      (information_of_failed hread).symm

private theorem ioParams_zero (h : irp.length = 0) :
    (ioParams ext irp).val = .error .zeroLength := by
  simp [ioParams, computeSectorIoParams, h]

/-- Both pipelines keep the discipline when what they do with a buffer does. -/
private theorem allocateTrace_completed {transfer : SectorIoParams → Option IrpTrace}
    (hnonneg : ¬ irp.byteOffset < 0)
    (htransfer : ∀ p h, WidensWord p h irp.length.toUInt64 →
      ∃ t, transfer p = some t ∧ Completed irp host t) :
    ∃ t, allocateTrace ext irp answers host transfer = some t ∧ Completed irp host t := by
  by_cases hlength : irp.length = 0
  · rw [allocateTrace, ioParams_zero hlength]
    refine complete_completed (.inl rfl) ?_
    simp [information, hlength]
  · rcases @ioParams_cases ext irp hnonneg hlength with ⟨-, hout⟩ | ⟨-, p, hp, hw⟩
    · rw [allocateTrace, hout]
      exact complete_completed (.inl rfl) (information_of_failed (by decide)).symm
    · rw [allocateTrace, hp]
      by_cases hpool : answers.poolAllocated
      · simp only [hpool, not_true_eq_false, if_false]
        exact htransfer p _ hw
      · simp only [hpool]
        exact complete_completed (.inr (.inl ⟨_, rfl⟩)) (information_of_failed (by decide)).symm

/-- Every request is completed exactly once with the status that is returned, its sector
buffer is released exactly once after its last use, and only a write of the host file
changes it. -/
theorem addIrpTrace_completed (loops : SectorLoops) (ext : Extension) (irp : Irp)
    (answers : KernelAnswers) (host : Bytes) :
    ∃ t, addIrpTrace loops ext irp answers host = some t ∧ Completed irp host t := by
  have hfailed {status : NtStatus} (h : ¬ ntSuccess status) :
      ∃ t, complete [] host irp.userBuffer status 0 = some t ∧ Completed irp host t :=
    complete_completed (.inl rfl) (information_of_failed h).symm
  cases hmajor : irp.major with
  | read =>
    simp only [addIrpTrace, hmajor, processReadTrace]
    split_ifs with hlength hneg
    · refine complete_completed (.inl rfl) ?_
      simp [information, hlength]
    · exact hfailed (by decide)
    · exact allocateTrace_completed hneg fun _ _ hw => readTrace_completed hmajor hw
  | write =>
    simp only [addIrpTrace, hmajor, processWriteTrace]
    split_ifs with hro hneg
    · exact hfailed (by decide)
    · exact hfailed (by decide)
    · exact allocateTrace_completed hneg fun _ _ hw => writeTrace_completed hmajor hw
  | flushBuffers =>
    have hinfo (status : NtStatus) : 0 = information irp status := by simp [information, hmajor]
    simp only [addIrpTrace, hmajor, processFlushTrace]
    split_ifs with hro hflush
    · exact complete_completed (.inl rfl) (hinfo _)
    · exact complete_completed (.inr (.inr rfl)) (hinfo _)
    · exact complete_completed (.inr (.inr rfl)) (hinfo _)
  | other code =>
    simp only [addIrpTrace, hmajor]
    exact hfailed (by decide)

end Discipline

section Refinement
variable (P : CipherSuite) {ext : Extension} {irp : Irp} {answers : KernelAnswers} {host : Bytes}

/-- The sector loops of a mounted volume. -/
def volumeLoops (ext : Extension) : SectorLoops where
  decryptSectors := SectorIo.decryptSectors P ext.cryptoInfo
  encryptSectors := SectorIo.encryptSectors P ext.cryptoInfo

def kernelCall : IrpEvent → Option KernelCall
  | .exAllocatePool size _ => some (.exAllocatePool size)
  | .zwReadFile byteOffset length => some (.zwReadFile byteOffset length)
  | .zwWriteFile byteOffset length data => some (.zwWriteFile byteOffset length data)
  | .zwFlushBuffersFile => some .zwFlushBuffersFile
  | .exFreePool => some .exFreePool
  | .ioCompleteRequest status information => some (.ioCompleteRequest status information)
  | _ => none

/-- A trace shows the kernel calls of a run and ends as the run does. -/
def toRun (t : IrpTrace) : IrpRun where
  status := t.status
  calls := t.events.filterMap kernelCall
  host := t.host
  userBuffer := t.userBuffer

private theorem toRun_complete (events : List IrpEvent) (host userBuffer : Bytes)
    (status : NtStatus) (info : ℕ) :
    (complete events host userBuffer status info).map toRun =
      some (completeDiskIrp (events.filterMap kernelCall) host userBuffer status info) := by
  rw [complete, Option.map_some, toRun, completeDiskIrp, List.filterMap_append]
  rfl

private theorem readTrace_eq {p : SectorIoParams} {h : UInt64}
    (hw : WidensWord p h irp.length.toUInt64) :
    (readTrace (volumeLoops P ext) irp answers host p).map toRun =
      some (readSectors P ext irp answers host p) := by
  have hslice := Nat.not_lt.mpr hw.user_fits
  have hsectors := Nat.not_lt.mpr hw.length_eq.ge
  simp only [readTrace, readSectors, volumeLoops, hsectors, hslice, if_false]
  split
  · exact toRun_complete _ _ _ _ _
  · generalize SectorIo.decryptSectors P ext.cryptoInfo p.firstSectorIndex p.sectorCount _ = loop
    rcases loop with ⟨error | done, sectorSlice⟩
    · exact toRun_complete _ _ _ _ _
    · dsimp only
      split <;> exact toRun_complete _ _ _ _ _

private theorem writeTrace_eq {p : SectorIoParams} {h : UInt64}
    (hw : WidensWord p h irp.length.toUInt64) :
    (writeTrace (volumeLoops P ext) irp answers host p).map toRun =
      some (writeSectors P ext irp answers host p) := by
  have hslice := Nat.not_lt.mpr hw.user_fits
  have hsectors := Nat.not_lt.mpr hw.length_eq.ge
  simp only [writeTrace, writeSectors, volumeLoops, hsectors, hslice, if_false]
  split
  · exact toRun_complete _ _ _ _ _
  · split
    · exact toRun_complete _ _ _ _ _
    · generalize SectorIo.encryptSectors P ext.cryptoInfo p.firstSectorIndex p.sectorCount _ = loop
      rcases loop with ⟨error | done, sectorSlice⟩
      · exact toRun_complete _ _ _ _ _
      · dsimp only
        split <;> exact toRun_complete _ _ _ _ _

private theorem allocateTrace_eq {transfer : SectorIoParams → Option IrpTrace}
    {run : SectorIoParams → IrpRun} (hnonneg : ¬ irp.byteOffset < 0)
    (htransfer : ∀ p h, WidensWord p h irp.length.toUInt64 →
      (transfer p).map toRun = some (run p)) :
    (allocateTrace ext irp answers host transfer).map toRun = some
      (match (ioParams ext irp).val with
      | .error .zeroLength => completeDiskIrp [] host irp.userBuffer statusSuccess 0
      | .error _ => completeDiskIrp [] host irp.userBuffer statusInvalidParameter 0
      | .ok params =>
        if ¬ answers.poolAllocated then
          completeDiskIrp [.exAllocatePool params.alignedLength.toNat] host irp.userBuffer
            statusInsufficientResources 0
        else
          run params) := by
  by_cases hlength : irp.length = 0
  · rw [allocateTrace, ioParams_zero hlength]
    exact toRun_complete _ _ _ _ _
  · rcases @ioParams_cases ext irp hnonneg hlength with ⟨-, hout⟩ | ⟨-, p, hp, hw⟩
    · rw [allocateTrace, hout]
      exact toRun_complete _ _ _ _ _
    · rw [allocateTrace, hp]
      by_cases hpool : answers.poolAllocated
      · simp only [hpool, not_true_eq_false, if_false]
        exact htransfer p _ hw
      · simp only [hpool]
        exact toRun_complete _ _ _ _ _

/-- On a volume with its own sector loops the traces are those of the request pipeline. -/
theorem addIrpTrace_eq (irp : Irp) (answers : KernelAnswers) (host : Bytes) :
    (addIrpTrace (volumeLoops P ext) ext irp answers host).map toRun =
      some (addIrp P ext irp answers host) := by
  cases hmajor : irp.major with
  | read =>
    simp only [addIrpTrace, addIrp, hmajor, processReadTrace, processReadIrp]
    by_cases hlength : irp.length = 0
    · rw [if_pos hlength, if_pos hlength]
      exact toRun_complete _ _ _ _ _
    · rw [if_neg hlength, if_neg hlength]
      by_cases hneg : irp.byteOffset < 0
      · rw [if_pos hneg, if_pos hneg]
        exact toRun_complete _ _ _ _ _
      · rw [if_neg hneg, if_neg hneg]
        exact allocateTrace_eq hneg fun _ _ hw => readTrace_eq P hw
  | write =>
    simp only [addIrpTrace, addIrp, hmajor, processWriteTrace, processWriteIrp]
    by_cases hro : ext.bReadOnly ≠ 0
    · rw [if_pos hro, if_pos hro]
      exact toRun_complete _ _ _ _ _
    · rw [if_neg hro, if_neg hro]
      by_cases hneg : irp.byteOffset < 0
      · rw [if_pos hneg, if_pos hneg]
        exact toRun_complete _ _ _ _ _
      · rw [if_neg hneg, if_neg hneg]
        exact allocateTrace_eq hneg fun _ _ hw => writeTrace_eq P hw
  | flushBuffers =>
    simp only [addIrpTrace, addIrp, hmajor, processFlushTrace, processFlushIrp]
    split_ifs <;> exact toRun_complete _ _ _ _ _
  | other code =>
    simp only [addIrpTrace, addIrp, hmajor]
    exact toRun_complete _ _ _ _ _

end Refinement

end Oxhide.IrpCompletion
