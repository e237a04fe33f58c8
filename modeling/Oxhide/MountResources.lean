import Oxhide.Custody
import Oxhide.MountRequest

/-! # What a mount acquires and what it gives back

A mount takes its resources in three functions and on two threads. The starter waits
until the volume thread has opened the volume or failed, so the calls come in one order;
each function here returns its status, the handles left in the device extension and the
trace of what it acquired and released. -/
namespace Oxhide.MountResources
open Custody EncryptedIoQueue
open HostVolume hiding openHostFile tcOpenVolume
open MountRequest hiding tcStartVolumeThread volumeThreadProc

inductive Resource where
  | deviceObject
  | threadBlock
  | threadHandle
  | threadObject
  | pathBuffer
  | hostFileHandle
  | hostFileObject
  | cipher
  deriving DecidableEq, Repr

abbrev Trace := List (Event Resource)

/-- The pointers of the device extension that stand for a resource: null or not. -/
structure Ext where
  hDeviceFile : Bool
  pfoDeviceFile : Bool
  cryptoInfo : Bool
  peThread : Bool
  deriving DecidableEq, Repr

/-- `IoCreateDevice` zeroes the extension. -/
def Ext.zeroed : Ext := ⟨false, false, false, false⟩

structure Outcome where
  status : NtStatus
  ext : Ext
  trace : Trace
  deriving DecidableEq, Repr

section Opening

/-- The way out of `open_host_file` behind a successful open. -/
def hostFileOpened (answers : OpenAnswers) (ext : Ext) : Outcome where
  status := statusSuccess
  ext := {
    ext with
    hDeviceFile := true
    pfoDeviceFile := ext.pfoDeviceFile || ntSuccess answers.referenceObject }
  trace := [.acquire .pathBuffer, .acquire .hostFileHandle, .release .pathBuffer] ++
    if ntSuccess answers.referenceObject then [.acquire .hostFileObject] else []

/-- The ways out behind a failed open. -/
def hostFileRefused (status : NtStatus) (ext : Ext) : Outcome where
  status := status
  ext := ext
  trace := [.acquire .pathBuffer, .release .pathBuffer]

def openHostFile (volumePath : List UInt16) (readOnly preserveTimestamp : Bool)
    (answers : OpenAnswers) (ext : Ext) : Outcome :=
  let path := (volumePath.take tcMaxPath).takeWhile (· ≠ 0)
  if path.length = 0 then
    ⟨statusInvalidParameter, ext, []⟩
  else if ¬ answers.pathAllocated then
    ⟨statusInsufficientResources, ext, []⟩
  else if ntSuccess answers.createReadWrite then
    hostFileOpened answers ext
  else
    let status := mapOpenStatus answers.createReadWrite
    if status = statusAccessDenied ∨ status = statusSharingViolation ∨ readOnly then
      if ntSuccess answers.createReadOnly then
        hostFileOpened answers ext
      else if preserveTimestamp then
        if ntSuccess answers.createReadOnlyRetry then
          hostFileOpened answers ext
        else
          hostFileRefused answers.createReadOnlyRetry ext
      else
        hostFileRefused answers.createReadOnly ext
    else
      hostFileRefused status ext

/-- `ZwClose` on the host file, behind a check that failed. -/
def rejectVolume (opened : Outcome) : Outcome where
  status := statusInvalidParameter
  ext := { opened.ext with hDeviceFile := false }
  trace := opened.trace ++ [.release .hostFileHandle]

def tcOpenVolume (request : OpenRequest) (answers : OpenAnswers) (ext : Ext) : Outcome :=
  if request.bytesPerSector = 0 ∨ request.bytesPerSector > maxSectorSize then
    ⟨statusInvalidParameter, ext, []⟩
  else
    let opened := openHostFile request.wszVolume (request.readOnly ≠ 0)
      request.preserveTimestamps answers ext
    if ¬ ntSuccess opened.status then
      opened
    else if request.diskLength < tcMinVolumeSizeLegacy ∨ request.diskLength > tcMaxVolumeSize then
      rejectVolume opened
    else
      match initCipherFromEaAndKey request.ea request.masterKey with
      | none => rejectVolume opened
      | some _ => {
          status := statusSuccess
          ext := { opened.ext with cryptoInfo := true }
          trace := opened.trace ++ [.acquire .cipher] }

def tcCloseVolume (ext : Ext) : Ext × Trace :=
  ({ ext with hDeviceFile := false, pfoDeviceFile := false, cryptoInfo := false },
    (if ext.hDeviceFile then [.release .hostFileHandle] else []) ++
      (if ext.pfoDeviceFile then [.release .hostFileObject] else []) ++
      if ext.cryptoInfo then [.release .cipher] else [])

theorem ntSuccess_mapOpenStatus {status : NtStatus} (h : ¬ ntSuccess status = true) :
    ¬ ntSuccess (mapOpenStatus status) = true := by
  rw [mapOpenStatus]
  split_ifs
  · decide
  · exact h

/-- The open is the one of `HostVolume`, with the same status. -/
theorem openHostFile_agrees (volumePath : List UInt16) (readOnly preserveTimestamp : Bool)
    (answers : OpenAnswers) (ext : Ext) :
    match HostVolume.openHostFile volumePath readOnly preserveTimestamp answers with
    | .ok host =>
      openHostFile volumePath readOnly preserveTimestamp answers ext = hostFileOpened answers ext ∧
        host.fileObjectReferenced = ntSuccess answers.referenceObject
    | .error status =>
      (openHostFile volumePath readOnly preserveTimestamp answers ext).status = status ∧
        ntSuccess status = false := by
  simp only [openHostFile, HostVolume.openHostFile, reopenReadOnly]
  split_ifs with hpath hpool hrw hfallback hro hpreserve hpreserve hretry
  · exact ⟨rfl, by decide⟩
  · exact ⟨rfl, rfl⟩
  · exact ⟨rfl, rfl⟩
  · exact ⟨rfl, rfl⟩
  · exact ⟨rfl, rfl⟩
  · exact ⟨rfl, Bool.eq_false_iff.mpr hretry⟩
  · exact ⟨rfl, Bool.eq_false_iff.mpr hro⟩
  · exact ⟨rfl, Bool.eq_false_iff.mpr (ntSuccess_mapOpenStatus hrw)⟩
  · exact ⟨rfl, by decide⟩

/-- So is the opening of the volume. -/
theorem tcOpenVolume_status (request : OpenRequest) (answers : OpenAnswers) (ext : Ext) :
    (tcOpenVolume request answers ext).status =
      match HostVolume.tcOpenVolume request answers with
      | .ok _ => statusSuccess
      | .error status => status := by
  have hfile := openHostFile_agrees request.wszVolume (request.readOnly ≠ 0)
    request.preserveTimestamps answers ext
  by_cases hsector : request.bytesPerSector = 0 ∨ request.bytesPerSector > maxSectorSize
  · rw [tcOpenVolume, HostVolume.tcOpenVolume, if_pos hsector, if_pos hsector]
  · simp only [tcOpenVolume, HostVolume.tcOpenVolume, if_neg hsector]
    cases hopen : HostVolume.openHostFile request.wszVolume (request.readOnly ≠ 0)
        request.preserveTimestamps answers with
    | error status =>
      rw [hopen] at hfile
      obtain ⟨hstatus, hfailed⟩ := hfile
      rw [if_pos (by rw [hstatus, hfailed]; decide)]
      exact hstatus
    | ok host =>
      rw [hopen] at hfile
      have hstatus : ntSuccess (hostFileOpened answers ext).status = true := rfl
      rw [hfile.1, if_neg (not_not_intro hstatus)]
      dsimp only
      by_cases hsize : request.diskLength < tcMinVolumeSizeLegacy ∨
          request.diskLength > tcMaxVolumeSize
      · rw [if_pos hsize, if_pos hsize]
        rfl
      · rw [if_neg hsize, if_neg hsize]
        cases initCipherFromEaAndKey request.ea request.masterKey with
        | none => rfl
        | some cipher => rfl

end Opening

section Mounting

/-- The answers to the calls of a mount, in the order they are made. -/
structure MountAnswers where
  rootDevice : Bool
  driverObject : Bool
  createDevice : NtStatus
  deviceObject : UInt64
  threadBlockAllocated : Bool
  createThread : NtStatus
  openAnswers : OpenAnswers
  queueStart : NtStatus
  referenceThread : NtStatus
  deriving DecidableEq, Repr

/-- `volume_thread_proc` up to the event its starter waits for. -/
def volumeThreadProc (request : OpenRequest) (answers : MountAnswers) (ext : Ext) : Outcome :=
  let opened := tcOpenVolume request answers.openAnswers ext
  if ¬ ntSuccess opened.status then
    opened
  else if ¬ ntSuccess answers.queueStart then
    let closed := tcCloseVolume opened.ext
    ⟨answers.queueStart, closed.1, opened.trace ++ closed.2⟩
  else
    opened

def tcStartVolumeThread (request : OpenRequest) (answers : MountAnswers) (ext : Ext) : Outcome :=
  if ¬ ntSuccess answers.createThread then
    ⟨answers.createThread, ext, []⟩
  else
    let thread := volumeThreadProc request answers ext
    { status := thread.status
      ext := { thread.ext with peThread := ntSuccess answers.referenceThread }
      trace := [.acquire .threadHandle] ++ thread.trace ++
        (if ntSuccess answers.referenceThread then [.acquire .threadObject] else []) ++
        [.release .threadHandle] }

abbrev maxDrive : ℕ := 26

/-- A device object in `VOLUME_DEVICES`, with its extension. -/
structure VolumeDevice where
  deviceObject : UInt64
  ext : Ext
  deriving DecidableEq, Repr

/-- `VOLUME_DEVICES`, `none` for a null pointer. -/
abbrev VolumeDevices := Fin maxDrive → Option VolumeDevice

def errSuccess : Int32 := 0
def errOsError : Int32 := 1
def errOutOfMemory : Int32 := 2
def errVolMountFailed : Int32 := 24

theorem errors_ne_errSuccess :
    errOsError ≠ errSuccess ∧ errOutOfMemory ≠ errSuccess ∧ errVolMountFailed ≠ errSuccess := by
  decide

structure MountOutcome where
  code : Int32
  volumeDevices : VolumeDevices
  trace : Trace

def mountDevice (mount : MountStruct) (driveNo : Fin maxDrive) (answers : MountAnswers)
    (volumeDevices : VolumeDevices) : MountOutcome :=
  if ¬ answers.rootDevice then
    ⟨errOsError, volumeDevices, []⟩
  else if ¬ answers.driverObject then
    ⟨errOsError, volumeDevices, []⟩
  else if ¬ ntSuccess answers.createDevice then
    ⟨errOsError, volumeDevices, []⟩
  else if ¬ answers.threadBlockAllocated then
    ⟨errOutOfMemory, volumeDevices, [.acquire .deviceObject, .release .deviceObject]⟩
  else
    let request := MountRequest.volumeThreadProc (blockMount answers.deviceObject mount)
    let started := tcStartVolumeThread request answers .zeroed
    let trace := [.acquire .deviceObject, .acquire .threadBlock] ++ started.trace ++
      [.release .threadBlock]
    if ¬ ntSuccess started.status then
      -- The handles left in the extension go with the device.
      ⟨errVolMountFailed, volumeDevices, trace ++ [.release .deviceObject]⟩
    else
      ⟨errSuccess,
        Function.update volumeDevices driveNo (some ⟨answers.deviceObject, started.ext⟩), trace⟩

/-- `tc_stop_volume_thread`, with the clean-up of the thread it waits for. Without a
reference to the thread there is no wait: `endsFirst` says whether the thread gets through
its clean-up before the device is gone, and the extension with it. -/
def tcStopVolumeThread (ext : Ext) (endsFirst : Bool) : Trace :=
  if ext.peThread then (tcCloseVolume ext).2 ++ [.release .threadObject]
  else if endsFirst then (tcCloseVolume ext).2
  else []

def unmountDevice (driveNo : Fin maxDrive) (volumeDevices : VolumeDevices) (endsFirst : Bool) :
    VolumeDevices × Trace :=
  match volumeDevices driveNo with
  | none => (volumeDevices, [])
  | some device =>
    (Function.update volumeDevices driveNo none,
      tcStopVolumeThread device.ext endsFirst ++ [.release .deviceObject])

end Mounting

section Holdings

/-! What is held is exactly what the extension points to. -/

def Ext.owned (ext : Ext) : Multiset Resource :=
  (if ext.hDeviceFile then {.hostFileHandle} else 0) +
    (if ext.pfoDeviceFile then {.hostFileObject} else 0) +
    (if ext.cryptoInfo then {.cipher} else 0) +
    if ext.peThread then {.threadObject} else 0

theorem owned_eq_zero_iff (ext : Ext) : ext.owned = 0 ↔ ext = .zeroed := by
  obtain ⟨hDeviceFile, pfoDeviceFile, cryptoInfo, peThread⟩ := ext
  revert hDeviceFile pfoDeviceFile cryptoInfo peThread
  decide

/-- Closing a volume gives back everything but the thread. -/
theorem replay_tcCloseVolume (ext : Ext) :
    replay ext.owned (tcCloseVolume ext).2 = some (tcCloseVolume ext).1.owned := by
  obtain ⟨hDeviceFile, pfoDeviceFile, cryptoInfo, peThread⟩ := ext
  revert hDeviceFile pfoDeviceFile cryptoInfo peThread
  decide

/-- An outcome that failed and left nothing behind. -/
structure Outcome.Clean (out : Outcome) : Prop where
  status : ntSuccess out.status = false
  ext : out.ext = .zeroed
  trace : replay 0 out.trace = some 0

private theorem clean_hostFileRefused {status : NtStatus} (h : ¬ ntSuccess status = true) :
    (hostFileRefused status .zeroed).Clean where
  status := Bool.eq_false_iff.mpr h
  ext := rfl
  trace := rfl

/-- The host file is opened by one of the three attempts. -/
def HostFileOpens (volumePath : List UInt16) (readOnly preserveTimestamp : Bool)
    (answers : OpenAnswers) : Prop :=
  ((volumePath.take tcMaxPath).takeWhile (· ≠ 0)).length ≠ 0 ∧ answers.pathAllocated = true ∧
    (ntSuccess answers.createReadWrite = true ∨
      (mapOpenStatus answers.createReadWrite = statusAccessDenied ∨
          mapOpenStatus answers.createReadWrite = statusSharingViolation ∨ readOnly = true) ∧
        (ntSuccess answers.createReadOnly = true ∨
          preserveTimestamp = true ∧ ntSuccess answers.createReadOnlyRetry = true))

/-- A failed open keeps nothing. -/
private theorem openHostFile_cases (volumePath : List UInt16) (readOnly preserveTimestamp : Bool)
    (answers : OpenAnswers) :
    (HostFileOpens volumePath readOnly preserveTimestamp answers ∧
        openHostFile volumePath readOnly preserveTimestamp answers .zeroed =
          hostFileOpened answers .zeroed) ∨
      (¬ HostFileOpens volumePath readOnly preserveTimestamp answers ∧
        (openHostFile volumePath readOnly preserveTimestamp answers .zeroed).Clean) := by
  rw [openHostFile, HostFileOpens]
  dsimp only
  split_ifs with hpath hpool hrw hfallback hro hpreserve hretry
  · exact .inr ⟨fun h => h.1 hpath, by decide, rfl, rfl⟩
  · exact .inl ⟨⟨hpath, hpool, .inl hrw⟩, rfl⟩
  · exact .inl ⟨⟨hpath, hpool, .inr ⟨hfallback, .inl hro⟩⟩, rfl⟩
  · exact .inl ⟨⟨hpath, hpool, .inr ⟨hfallback, .inr ⟨hpreserve, hretry⟩⟩⟩, rfl⟩
  · exact .inr ⟨by simp [hrw, hro, hretry], clean_hostFileRefused hretry⟩
  · exact .inr ⟨by simp [hrw, hro, hpreserve], clean_hostFileRefused hro⟩
  · exact .inr ⟨by simp [hrw, hfallback], clean_hostFileRefused (ntSuccess_mapOpenStatus hrw)⟩
  · exact .inr ⟨fun h => hpool h.2.1, by decide, rfl, rfl⟩

def SectorSizeFits (request : OpenRequest) : Prop :=
  ¬ (request.bytesPerSector = 0 ∨ request.bytesPerSector > maxSectorSize)

/-- The size is in range and the cipher takes the key. -/
def VolumeFits (request : OpenRequest) : Prop :=
  ¬ (request.diskLength < tcMinVolumeSizeLegacy ∨ request.diskLength > tcMaxVolumeSize) ∧
    (initCipherFromEaAndKey request.ea request.masterKey).isSome = true

/-- The host file of the request is opened. -/
def FileOpens (request : OpenRequest) (answers : OpenAnswers) : Prop :=
  SectorSizeFits request ∧
    HostFileOpens request.wszVolume (request.readOnly ≠ 0) request.preserveTimestamps answers

/-- What an open volume holds. -/
def volumeOpened (answers : OpenAnswers) : Ext :=
  ⟨true, ntSuccess answers.referenceObject, true, false⟩

/-- What a volume holds whose host file was closed again. -/
def volumeRejected (answers : OpenAnswers) : Ext :=
  ⟨false, ntSuccess answers.referenceObject, false, false⟩

private theorem rejectVolume_hostFileOpened (answers : OpenAnswers) :
    replay 0 (rejectVolume (hostFileOpened answers .zeroed)).trace =
        some (volumeRejected answers).owned ∧
      (rejectVolume (hostFileOpened answers .zeroed)).ext = volumeRejected answers ∧
      ntSuccess (rejectVolume (hostFileOpened answers .zeroed)).status = false := by
  rw [rejectVolume, hostFileOpened, volumeRejected]
  cases ntSuccess answers.referenceObject <;> decide

private theorem hostFileOpened_cipher (answers : OpenAnswers) :
    replay 0 ((hostFileOpened answers .zeroed).trace ++ [.acquire .cipher]) =
        some (volumeOpened answers).owned ∧
      { (hostFileOpened answers .zeroed).ext with cryptoInfo := true } = volumeOpened answers ∧
      ntSuccess (hostFileOpened answers .zeroed).status = true := by
  rw [hostFileOpened, volumeOpened]
  cases ntSuccess answers.referenceObject <;> decide

/-- What `tc_open_volume` comes to, and what the extension is left with. -/
private theorem tcOpenVolume_cases (request : OpenRequest) (answers : OpenAnswers) :
    let out := tcOpenVolume request answers .zeroed
    replay 0 out.trace = some out.ext.owned ∧
      ((FileOpens request answers ∧ VolumeFits request ∧ ntSuccess out.status = true ∧
          out.ext = volumeOpened answers) ∨
        (FileOpens request answers ∧ ¬ VolumeFits request ∧ ntSuccess out.status = false ∧
          out.ext = volumeRejected answers) ∨
        (¬ FileOpens request answers ∧ ntSuccess out.status = false ∧ out.ext = .zeroed)) := by
  obtain ⟨hrejectedTrace, hrejectedExt, hrejectedStatus⟩ := rejectVolume_hostFileOpened answers
  obtain ⟨hopenedTrace, hopenedExt, hopenedStatus⟩ := hostFileOpened_cipher answers
  intro out
  by_cases hsector : request.bytesPerSector = 0 ∨ request.bytesPerSector > maxSectorSize
  · have hout : out = ⟨statusInvalidParameter, .zeroed, []⟩ := if_pos hsector
    rw [hout]
    exact ⟨rfl, .inr (.inr ⟨fun h => h.1 hsector, by decide, rfl⟩)⟩
  · rcases openHostFile_cases request.wszVolume (request.readOnly ≠ 0) request.preserveTimestamps
      answers with ⟨hopens, hfile⟩ | ⟨hopens, hclean⟩
    · have hout : out = tcOpenVolume request answers .zeroed := rfl
      simp only [tcOpenVolume, if_neg hsector, hfile, hopenedStatus, not_true_eq_false,
        if_false] at hout
      by_cases hsize : request.diskLength < tcMinVolumeSizeLegacy ∨
          request.diskLength > tcMaxVolumeSize
      · rw [if_pos hsize] at hout
        rw [hout, hrejectedExt]
        exact ⟨hrejectedTrace,
          .inr (.inl ⟨⟨hsector, hopens⟩, fun h => h.1 hsize, hrejectedStatus, rfl⟩)⟩
      · rw [if_neg hsize] at hout
        cases hcipher : initCipherFromEaAndKey request.ea request.masterKey with
        | none =>
          rw [hcipher] at hout
          dsimp only at hout
          rw [hout, hrejectedExt]
          refine ⟨hrejectedTrace, .inr (.inl ⟨⟨hsector, hopens⟩, ?_, hrejectedStatus, rfl⟩)⟩
          rintro ⟨-, hfits⟩
          rw [hcipher] at hfits
          cases hfits
        | some cipher =>
          rw [hcipher] at hout
          dsimp only at hout
          rw [hout]
          dsimp only
          rw [hopenedExt]
          exact ⟨hopenedTrace, .inl ⟨⟨hsector, hopens⟩, ⟨hsize, by rw [hcipher]; rfl⟩, rfl, rfl⟩⟩
    · have hout : out = openHostFile request.wszVolume (request.readOnly ≠ 0)
          request.preserveTimestamps answers .zeroed := by
        have hstatus := hclean.status
        simp only [out, tcOpenVolume, if_neg hsector, hstatus]
        rfl
      rw [hout, hclean.ext]
      exact ⟨hclean.trace, .inr (.inr ⟨fun h => hopens h.2, hclean.status, rfl⟩)⟩

end Holdings

section Starting

variable (request : OpenRequest) (answers : MountAnswers)

/-- The volume thread reaches its main loop. -/
def Mounts : Prop :=
  FileOpens request answers.openAnswers ∧ VolumeFits request ∧ ntSuccess answers.queueStart = true

/-- The host file was opened and referenced for a volume that is then rejected. -/
def FileLeaks : Prop :=
  FileOpens request answers.openAnswers ∧ ¬ VolumeFits request ∧
    ntSuccess answers.openAnswers.referenceObject = true

private theorem volumeThreadProc_cases :
    let out := volumeThreadProc request answers .zeroed
    replay 0 out.trace = some out.ext.owned ∧
      ((Mounts request answers ∧ ntSuccess out.status = true ∧
          out.ext = volumeOpened answers.openAnswers) ∨
        (¬ Mounts request answers ∧ ntSuccess out.status = false ∧ out.ext.peThread = false ∧
          (out.ext = .zeroed ↔ ¬ FileLeaks request answers))) := by
  intro out
  have hout : out = volumeThreadProc request answers .zeroed := rfl
  rw [volumeThreadProc] at hout
  obtain ⟨htrace, ⟨hopens, hfits, hstatus, hext⟩ | ⟨hopens, hfits, hstatus, hext⟩ |
    ⟨hopens, hstatus, hext⟩⟩ := tcOpenVolume_cases request answers.openAnswers
  · have hkept : ¬ FileLeaks request answers := fun h => h.2.1 hfits
    simp only [hstatus, not_true_eq_false, if_false] at hout
    by_cases hqueue : ntSuccess answers.queueStart = true
    · simp only [hqueue, not_true_eq_false, if_false] at hout
      rw [hout]
      exact ⟨htrace, .inl ⟨⟨hopens, hfits, hqueue⟩, hstatus, hext⟩⟩
    · rw [if_pos hqueue] at hout
      have hclosed : (tcCloseVolume (volumeOpened answers.openAnswers)).1 = .zeroed := rfl
      rw [hout, hext]
      refine ⟨?_, .inr ⟨fun h => hqueue h.2.2, Bool.eq_false_iff.mpr hqueue, rfl, ?_⟩⟩
      · exact replay_trans (hext ▸ htrace) (replay_tcCloseVolume _)
      · exact iff_of_true hclosed hkept
  · simp only [hstatus, Bool.false_eq_true, not_false_eq_true, if_true] at hout
    rw [hout]
    refine ⟨htrace, .inr ⟨fun h => hfits h.2.1, hstatus, by rw [hext]; rfl, ?_⟩⟩
    rw [hext]
    simp [FileLeaks, hopens, hfits, volumeRejected, Ext.zeroed]
  · simp only [hstatus, Bool.false_eq_true, not_false_eq_true, if_true] at hout
    rw [hout]
    exact ⟨htrace, .inr ⟨fun h => hopens h.1, hstatus, by rw [hext]; rfl,
      iff_of_true hext fun h => hopens h.1⟩⟩

private theorem replay_referenceThread (ext : Ext) (h : ext.peThread = false) (referenced : Bool) :
    replay ext.owned (if referenced then [.acquire .threadObject] else []) =
      some { ext with peThread := referenced }.owned := by
  obtain ⟨hDeviceFile, pfoDeviceFile, cryptoInfo, peThread⟩ := ext
  cases h
  revert hDeviceFile pfoDeviceFile cryptoInfo referenced
  decide

private theorem tcStartVolumeThread_cases (hthread : ntSuccess answers.createThread = true) :
    let out := tcStartVolumeThread request answers .zeroed
    replay 0 out.trace = some out.ext.owned ∧
      ((Mounts request answers ∧ ntSuccess out.status = true ∧
          out.ext = { volumeOpened answers.openAnswers with
            peThread := ntSuccess answers.referenceThread }) ∨
        (¬ Mounts request answers ∧ ntSuccess out.status = false ∧
          (out.ext = .zeroed ↔
            ntSuccess answers.referenceThread = false ∧ ¬ FileLeaks request answers))) := by
  intro out
  have hout : out = tcStartVolumeThread request answers .zeroed := rfl
  rw [tcStartVolumeThread, if_neg (not_not_intro hthread)] at hout
  have hcases := volumeThreadProc_cases request answers
  generalize volumeThreadProc request answers .zeroed = thread at hcases hout
  obtain ⟨htrace, hends⟩ := hcases
  have hthread : thread.ext.peThread = false := by
    rcases hends with ⟨-, -, hext⟩ | ⟨-, -, hnull, -⟩
    · rw [hext]
      rfl
    · exact hnull
  rw [hout]
  constructor
  · exact replay_bracket (replay_trans htrace (replay_referenceThread _ hthread _)) .threadHandle
  · rcases hends with ⟨hmounts, hstatus, hext⟩ | ⟨hmounts, hstatus, -, hkept⟩
    · refine .inl ⟨hmounts, hstatus, ?_⟩
      dsimp only
      rw [hext]
    · refine .inr ⟨hmounts, hstatus, ?_⟩
      rw [← hkept]
      obtain ⟨status, ⟨hDeviceFile, pfoDeviceFile, cryptoInfo, peThread⟩, trace⟩ := thread
      cases hthread
      simp only [Ext.zeroed, Ext.mk.injEq, and_true]
      tauto

end Starting

section Balance

variable (mount : MountStruct) (answers : MountAnswers)

/-- The request as the volume thread reads it. -/
def seenRequest : OpenRequest :=
  MountRequest.volumeThreadProc (blockMount answers.deviceObject mount)

/-- Everything up to the thread is there. -/
def ThreadStarts : Prop :=
  answers.rootDevice = true ∧ answers.driverObject = true ∧
    ntSuccess answers.createDevice = true ∧ answers.threadBlockAllocated = true ∧
    ntSuccess answers.createThread = true

/-- A thread that started is not referenced by a mount that fails and is referenced, or fast
enough, in one that succeeds; and no rejected volume had its host file referenced. -/
def Meets (endsFirst : Bool) : Prop :=
  ThreadStarts answers →
    (Mounts (seenRequest mount answers) answers →
      ntSuccess answers.referenceThread = true ∨ endsFirst = true) ∧
    (¬ Mounts (seenRequest mount answers) answers →
      ntSuccess answers.referenceThread = false ∧ ¬ FileLeaks (seenRequest mount answers) answers)

/-- A failed mount gives back what it acquired and leaves the drives as they were; a
successful one does so together with the unmount of its drive, whatever happened to the other
drives in between. -/
def GivesBack (driveNo : Fin maxDrive) (volumeDevices : VolumeDevices) (endsFirst : Bool) : Prop :=
  let mounted := mountDevice mount driveNo answers volumeDevices
  (mounted.code ≠ errSuccess → Settled mounted.trace ∧ mounted.volumeDevices = volumeDevices) ∧
    (mounted.code = errSuccess → ∀ later : VolumeDevices,
      later driveNo = mounted.volumeDevices driveNo →
        Settled (mounted.trace ++ (unmountDevice driveNo later endsFirst).2))

variable {answers}

private theorem settled_failed {started : Trace} {held : Multiset Resource}
    (h : replay 0 started = some held) :
    Settled ([.acquire .deviceObject, .acquire .threadBlock] ++ started ++
      [.release .threadBlock] ++ [.release .deviceObject]) ↔ held = 0 := by
  have hreplay := replay_bracket (replay_bracket h Resource.threadBlock) .deviceObject
  refine (Eq.congr_left hreplay).trans ?_
  rw [Option.some_inj]

private theorem settled_unmounted {started stopped : Trace} {owned held : Multiset Resource}
    (hstarted : replay 0 started = some owned) (hstopped : replay owned stopped = some held) :
    Settled ([.acquire .deviceObject, .acquire .threadBlock] ++ started ++
      [.release .threadBlock] ++ (stopped ++ [.release .deviceObject])) ↔ held = 0 := by
  have hreplay := replay_bracket
    (replay_trans (replay_bracket hstarted Resource.threadBlock) hstopped) .deviceObject
  rw [← List.append_assoc]
  refine (Eq.congr_left hreplay).trans ?_
  rw [Option.some_inj]

private theorem mountDevice_refused (driveNo : Fin maxDrive) (volumeDevices : VolumeDevices)
    (h : ¬ ThreadStarts answers) :
    let mounted := mountDevice mount driveNo answers volumeDevices
    mounted.code ≠ errSuccess ∧ Settled mounted.trace ∧
      mounted.volumeDevices = volumeDevices := by
  rw [mountDevice]
  dsimp only
  split_ifs with hroot hdriver hdevice hblock hstatus
  · have hthread : ¬ ntSuccess answers.createThread = true := fun hthread =>
      h ⟨hroot, hdriver, hdevice, hblock, hthread⟩
    rw [tcStartVolumeThread, if_pos hthread] at hstatus
    exact absurd hstatus hthread
  · have hthread : ¬ ntSuccess answers.createThread = true := fun hthread =>
      h ⟨hroot, hdriver, hdevice, hblock, hthread⟩
    refine ⟨errors_ne_errSuccess.2.2, ?_, rfl⟩
    rw [tcStartVolumeThread, if_pos hthread]
    exact (settled_failed rfl).mpr rfl
  · exact ⟨errors_ne_errSuccess.2.1, rfl, rfl⟩
  · exact ⟨errors_ne_errSuccess.1, rfl, rfl⟩
  · exact ⟨errors_ne_errSuccess.1, rfl, rfl⟩
  · exact ⟨errors_ne_errSuccess.1, rfl, rfl⟩

private theorem mountDevice_started (driveNo : Fin maxDrive) (volumeDevices : VolumeDevices)
    (h : ThreadStarts answers) :
    let started := tcStartVolumeThread (seenRequest mount answers) answers .zeroed
    let trace := [.acquire .deviceObject, .acquire .threadBlock] ++ started.trace ++
      [.release .threadBlock]
    (ntSuccess started.status = true → mountDevice mount driveNo answers volumeDevices =
        ⟨errSuccess,
          Function.update volumeDevices driveNo (some ⟨answers.deviceObject, started.ext⟩), trace⟩) ∧
      (ntSuccess started.status = false → mountDevice mount driveNo answers volumeDevices =
        ⟨errVolMountFailed, volumeDevices, trace ++ [.release .deviceObject]⟩) := by
  obtain ⟨hroot, hdriver, hdevice, hblock, -⟩ := h
  constructor
  · intro hstatus
    simp only [mountDevice, hroot, hdriver, hdevice, hblock, not_true_eq_false, if_false]
    rw [seenRequest] at hstatus
    rw [if_neg (not_not_intro hstatus)]
    rfl
  · intro hstatus
    simp only [mountDevice, hroot, hdriver, hdevice, hblock, not_true_eq_false, if_false]
    rw [seenRequest] at hstatus
    rw [if_pos (by rw [hstatus]; decide)]
    rfl

/-- Stopping an open volume gives everything back if the thread is waited for or is fast. -/
private theorem replay_tcStopVolumeThread (answers : OpenAnswers) (referenced endsFirst : Bool) :
    replay { volumeOpened answers with peThread := referenced }.owned
        (tcStopVolumeThread { volumeOpened answers with peThread := referenced } endsFirst) =
      some (if referenced = true ∨ endsFirst = true then 0 else (volumeOpened answers).owned) := by
  rw [volumeOpened]
  generalize ntSuccess answers.referenceObject = held
  revert held referenced endsFirst
  decide

private theorem owned_volumeOpened_ne_zero (answers : OpenAnswers) :
    (volumeOpened answers).owned ≠ 0 := by
  rw [Ne, owned_eq_zero_iff]
  intro h
  cases congrArg Ext.hDeviceFile h

variable {driveNo : Fin maxDrive} {volumeDevices : VolumeDevices} {endsFirst : Bool}

/-- The volume is mounted: all depends on how its thread is stopped. -/
private theorem givesBack_mounted (hstarts : ThreadStarts answers)
    (hstatus : ntSuccess
      (tcStartVolumeThread (seenRequest mount answers) answers .zeroed).status = true)
    (htrace : replay 0 (tcStartVolumeThread (seenRequest mount answers) answers .zeroed).trace =
      some (tcStartVolumeThread (seenRequest mount answers) answers .zeroed).ext.owned)
    (hext : (tcStartVolumeThread (seenRequest mount answers) answers .zeroed).ext =
      { volumeOpened answers.openAnswers with peThread := ntSuccess answers.referenceThread }) :
    GivesBack mount answers driveNo volumeDevices endsFirst ↔
      ntSuccess answers.referenceThread = true ∨ endsFirst = true := by
  have hstopped := replay_tcStopVolumeThread answers.openAnswers
    (ntSuccess answers.referenceThread) endsFirst
  rw [← hext] at hstopped
  have hunmount (later : VolumeDevices)
      (hlater : later driveNo = some ⟨answers.deviceObject,
        (tcStartVolumeThread (seenRequest mount answers) answers .zeroed).ext⟩) :
      Settled ([.acquire .deviceObject, .acquire .threadBlock] ++
          (tcStartVolumeThread (seenRequest mount answers) answers .zeroed).trace ++
          [.release .threadBlock] ++ (unmountDevice driveNo later endsFirst).2) ↔
        ntSuccess answers.referenceThread = true ∨ endsFirst = true := by
    rw [unmountDevice, hlater]
    refine (settled_unmounted htrace hstopped).trans ?_
    split_ifs with hstop
    · exact iff_of_true rfl hstop
    · exact iff_of_false (owned_volumeOpened_ne_zero _) hstop
  rw [GivesBack, (mountDevice_started mount driveNo volumeDevices hstarts).1 hstatus]
  dsimp only
  constructor
  · rintro ⟨-, hafter⟩
    exact (hunmount _ (Function.update_self ..)).mp (hafter rfl _ rfl)
  · intro hstop
    refine ⟨fun hcode => absurd rfl hcode, fun _ later hlater => ?_⟩
    rw [Function.update_self] at hlater
    exact (hunmount later hlater).mpr hstop

/-- The mount fails: the extension goes with what it still points to. -/
private theorem givesBack_failed (hstarts : ThreadStarts answers)
    (hstatus : ntSuccess
      (tcStartVolumeThread (seenRequest mount answers) answers .zeroed).status = false)
    (htrace : replay 0 (tcStartVolumeThread (seenRequest mount answers) answers .zeroed).trace =
      some (tcStartVolumeThread (seenRequest mount answers) answers .zeroed).ext.owned) :
    GivesBack mount answers driveNo volumeDevices endsFirst ↔
      (tcStartVolumeThread (seenRequest mount answers) answers .zeroed).ext = .zeroed := by
  have hsettled := settled_failed htrace
  rw [owned_eq_zero_iff] at hsettled
  rw [GivesBack, (mountDevice_started mount driveNo volumeDevices hstarts).2 hstatus, ← hsettled]
  dsimp only
  constructor
  · rintro ⟨hcode, -⟩
    exact (hcode errors_ne_errSuccess.2.2).1
  · intro hback
    exact ⟨fun _ => ⟨hback, rfl⟩, fun hcode => absurd hcode errors_ne_errSuccess.2.2⟩

/-- A mount gives back what it acquired exactly when a started thread is handled as `Meets`
says. -/
theorem givesBack_iff (mount : MountStruct) (answers : MountAnswers) (driveNo : Fin maxDrive)
    (volumeDevices : VolumeDevices) (endsFirst : Bool) :
    GivesBack mount answers driveNo volumeDevices endsFirst ↔ Meets mount answers endsFirst := by
  by_cases hstarts : ThreadStarts answers
  · obtain ⟨htrace, hcases⟩ := tcStartVolumeThread_cases (seenRequest mount answers) answers
      hstarts.2.2.2.2
    rcases hcases with ⟨hmounts, hstatus, hext⟩ | ⟨hmounts, hstatus, hext⟩
    · rw [givesBack_mounted mount hstarts hstatus htrace hext]
      exact ⟨fun h _ => ⟨fun _ => h, fun hnot => absurd hmounts hnot⟩,
        fun h => (h hstarts).1 hmounts⟩
    · rw [givesBack_failed mount hstarts hstatus htrace, hext]
      exact ⟨fun h _ => ⟨fun hyes => absurd hyes hmounts, fun _ => h⟩,
        fun h => (h hstarts).2 hmounts⟩
  · have hrefused := mountDevice_refused mount driveNo volumeDevices hstarts
    have hmeets : Meets mount answers endsFirst := fun h => absurd h hstarts
    exact iff_of_true ⟨fun _ => hrefused.2, fun hcode => absurd hcode hrefused.1⟩ hmeets

variable {mount}

/-- Then a failed mount releases each resource as often as it acquired it. -/
theorem GivesBack.count_release (h : GivesBack mount answers driveNo volumeDevices endsFirst)
    (hcode : (mountDevice mount driveNo answers volumeDevices).code ≠ errSuccess) (r : Resource) :
    (mountDevice mount driveNo answers volumeDevices).trace.count (.release r) =
      (mountDevice mount driveNo answers volumeDevices).trace.count (.acquire r) :=
  (h.1 hcode).1.count_eq r

end Balance

/-- Every call succeeds. -/
def allSucceed : MountAnswers where
  rootDevice := true
  driverObject := true
  createDevice := statusSuccess
  deviceObject := 0
  threadBlockAllocated := true
  createThread := statusSuccess
  openAnswers := {
    pathAllocated := true
    createReadWrite := statusSuccess
    createReadOnly := statusSuccess
    createReadOnlyRetry := statusSuccess
    basicInformation := statusSuccess
    standardInformation := statusSuccess
    endOfFile := 0
    referenceObject := statusSuccess }
  queueStart := statusSuccess
  referenceThread := statusSuccess

/-- A request whose size the thread reads as zero, and one whose size and cipher it takes. -/
def emptyRequest : MountStruct := MountStruct.zeroed.writeWord .ea 512
def fittingRequest : MountStruct := emptyRequest.writeBytes .masterKey [0, 0, 4, 0, 0, 0, 0, 0, 1]

def noVolumes : VolumeDevices := fun _ => none

example :
    let mounted := mountDevice fittingRequest 3 allSucceed noVolumes
    mounted.code = errSuccess ∧
      Settled (mounted.trace ++ (unmountDevice 3 mounted.volumeDevices false).2) := by
  decide +kernel

/-- A rejected size leaves the references to the thread and to the host file. -/
private theorem mountDevice_emptyRequest :
    (mountDevice emptyRequest 3 allSucceed noVolumes).code = errVolMountFailed ∧
      replay 0 (mountDevice emptyRequest 3 allSucceed noVolumes).trace =
        some {.threadObject, .hostFileObject} := by
  decide +kernel

/-- Without a reference to its thread an unmounted volume stays open. -/
private theorem mountDevice_fittingRequest :
    let answers := { allSucceed with referenceThread := statusInsufficientResources }
    let mounted := mountDevice fittingRequest 3 answers noVolumes
    mounted.code = errSuccess ∧
      replay 0 (mounted.trace ++ (unmountDevice 3 mounted.volumeDevices false).2) =
        some {.hostFileHandle, .hostFileObject, .cipher} := by
  decide +kernel

theorem not_givesBack :
    ¬ GivesBack emptyRequest allSucceed 3 noVolumes false ∧
      ¬ GivesBack fittingRequest
        { allSucceed with referenceThread := statusInsufficientResources } 3 noVolumes false := by
  constructor
  · rintro ⟨hfailed, -⟩
    obtain ⟨hcode, hheld⟩ := mountDevice_emptyRequest
    rw [hcode] at hfailed
    have hsettled := (hfailed errors_ne_errSuccess.2.2).1
    rw [Settled, hheld] at hsettled
    revert hsettled
    decide
  · rintro ⟨-, hmounted⟩
    obtain ⟨hcode, hheld⟩ := mountDevice_fittingRequest
    have hsettled := hmounted hcode _ rfl
    rw [Settled, hheld] at hsettled
    revert hsettled
    decide

end Oxhide.MountResources
