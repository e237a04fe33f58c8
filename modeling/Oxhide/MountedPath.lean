import Oxhide.MountedViews

/-! # The path of the container on its way to the host file system

The command line copies the path into the 260 units of the request, the volume thread puts
the four units of the NT prefix in front, and `open_host_file` reads 260 units of that. What
is opened is the prefix and the first 256 units. -/
namespace Oxhide.MountedPath
open EncryptedIoQueue HostVolume ListSplice MountedViews MountRequest VolumeOpening WordBytes

/-- The names that `open_host_file` passes to `ZwCreateFile`, one for each attempt. -/
def openHostFileNames (volumePath : List UInt16) (readOnly preserveTimestamp : Bool)
    (answers : OpenAnswers) : List (List UInt16) :=
  let path := (volumePath.take tcMaxPath).takeWhile (· ≠ 0)
  if path.length = 0 then
    []
  else if ¬ answers.pathAllocated then
    []
  else if ntSuccess answers.createReadWrite then
    [path]
  else
    let status := mapOpenStatus answers.createReadWrite
    if status = statusAccessDenied ∨ status = statusSharingViolation ∨ readOnly then
      if ¬ ntSuccess answers.createReadOnly ∧ preserveTimestamp then [path, path, path]
      else [path, path]
    else
      [path]

def tcOpenVolumeNames (request : OpenRequest) (answers : OpenAnswers) : List (List UInt16) :=
  if request.bytesPerSector = 0 ∨ request.bytesPerSector > maxSectorSize then []
  else
    openHostFileNames request.wszVolume (request.readOnly ≠ 0) request.preserveTimestamps answers

/-- Every attempt opens the same name. -/
theorem eq_of_mem_openHostFileNames {volumePath name : List UInt16}
    {readOnly preserveTimestamp : Bool} {answers : OpenAnswers}
    (h : name ∈ openHostFileNames volumePath readOnly preserveTimestamp answers) :
    name = (volumePath.take tcMaxPath).takeWhile (· ≠ 0) := by
  simp only [openHostFileNames] at h
  split_ifs at h <;> simp_all

theorem openHostFileNames_eq_nil_iff {volumePath : List UInt16}
    {readOnly preserveTimestamp : Bool} {answers : OpenAnswers} :
    openHostFileNames volumePath readOnly preserveTimestamp answers = [] ↔
      (volumePath.take tcMaxPath).takeWhile (· ≠ 0) = [] ∨ answers.pathAllocated = false := by
  simp only [openHostFileNames, List.length_eq_zero_iff]
  split_ifs <;> simp_all

/-- No file is opened only if the mount fails. -/
theorem tcOpenVolume_of_names_eq_nil {request : OpenRequest} {answers : OpenAnswers}
    (h : tcOpenVolumeNames request answers = []) :
    ∃ status, tcOpenVolume request answers = .error status := by
  rw [tcOpenVolumeNames] at h
  rw [tcOpenVolume]
  by_cases hsector : request.bytesPerSector = 0 ∨ request.bytesPerSector > maxSectorSize
  · exact ⟨_, if_pos hsector⟩
  · rw [if_neg hsector] at h ⊢
    have hrefused : ∃ status, openHostFile request.wszVolume (request.readOnly ≠ 0)
        request.preserveTimestamps answers = .error status := by
      rw [openHostFile]
      rcases openHostFileNames_eq_nil_iff.mp h with hempty | hpool
      · exact ⟨_, if_pos (List.length_eq_zero_iff.mpr hempty)⟩
      · by_cases hempty : ((request.wszVolume.take tcMaxPath).takeWhile (· ≠ 0)).length = 0
        · exact ⟨_, if_pos hempty⟩
        · exact ⟨_, (if_neg hempty).trans (if_pos (by simp [hpool]))⟩
    obtain ⟨status, hstatus⟩ := hrefused
    exact ⟨status, by rw [hstatus]⟩

section Units

/-! A list of units and its bytes. -/

def unitBytes (u : UInt16) : Bytes := leBytes 2 u.toNat

theorem take_flatMap_unitBytes (us : List UInt16) (k : ℕ) :
    (us.flatMap unitBytes).take (2 * k) = (us.take k).flatMap unitBytes := by
  induction k generalizing us with
  | zero => simp
  | succ k ih =>
    cases us with
    | nil => simp
    | cons u us =>
      have hlen : (unitBytes u).length = 2 := length_leBytes _ _
      have hcount : 2 * (k + 1) - 2 = 2 * k := by omega
      rw [List.flatMap_cons, List.take_append, hlen, hcount, ih, List.take_succ_cons,
        List.flatMap_cons, List.take_of_length_le (by omega)]

theorem wideUnits_flatMap_append (us : List UInt16) (rest : Bytes) :
    wideUnits (us.flatMap unitBytes ++ rest) = us ++ wideUnits rest := by
  induction us with
  | nil => rfl
  | cons u us ih =>
    have hbytes : unitBytes u = [UInt8.ofNat u.toNat, UInt8.ofNat (u.toNat / 256)] := rfl
    have hunit : UInt16.ofNat (ofLeBytes [UInt8.ofNat u.toNat, UInt8.ofNat (u.toNat / 256)]) =
        u := by
      have hlt : u.toNat < 256 ^ 2 := u.toNat_lt
      rw [← hbytes, unitBytes, ofLeBytes_leBytes, Nat.mod_eq_of_lt hlt, UInt16.ofNat_toNat]
    rw [List.flatMap_cons, hbytes, List.append_assoc, List.cons_append, List.cons_append,
      List.nil_append, wideUnits, ih, hunit, List.cons_append]

/-- A copy of a terminated path, cut off at `k` units, is scanned up to its terminator. -/
theorem takeWhile_wideUnits {path : List UInt16} (h : 0 ∉ path) (k : ℕ) :
    (wideUnits (splice (List.replicate (2 * k) 0) 0
      (((path ++ [0]).flatMap unitBytes).take (2 * k)))).takeWhile (· ≠ 0) = path.take k := by
  have hlen (us : List UInt16) : (us.flatMap unitBytes).length = 2 * us.length := by
    induction us with
    | nil => rfl
    | cons u us ih =>
      have hunit : (unitBytes u).length = 2 := length_leBytes _ _
      rw [List.flatMap_cons, List.length_append, ih, hunit, List.length_cons]
      omega
  have hnonzero (us : List UInt16) (hus : us ⊆ path) : ∀ u ∈ us, u ≠ 0 := by
    rintro u hu rfl
    exact h (hus hu)
  rw [take_flatMap_unitBytes, splice, List.take_zero, List.nil_append, wideUnits_flatMap_append]
  by_cases hshort : path.length < k
  · have hwhole : (path ++ [0]).take k = path ++ [0] :=
      List.take_of_length_le (by rw [List.length_append, List.length_singleton]; omega)
    rw [hwhole, List.append_assoc, List.takeWhile_append_of_pos
      (fun u hu => by simpa using hnonzero path (List.Subset.refl _) u hu),
      List.take_of_length_le hshort.le]
    simp
  · have hcut : (path ++ [0]).take k = path.take k :=
      List.take_append_of_le_length (Nat.not_lt.mp hshort)
    have hfull : ((path.take k).flatMap unitBytes).length = 2 * k := by
      rw [hlen, List.length_take, Nat.min_eq_left (Nat.not_lt.mp hshort)]
    have hrest : (List.replicate (2 * k) (0 : UInt8)).drop (0 + 2 * k) = [] :=
      List.drop_eq_nil_of_le (by rw [List.length_replicate]; omega)
    rw [hcut, hfull, hrest]
    rw [List.takeWhile_append_of_pos
      (fun u hu => by simpa using hnonzero _ (List.take_subset k path) u hu)]
    exact List.append_nil _

end Units

section Request
variable {openResult : OpenResult} {driveNo : UInt8} {readOnly : Bool} {path : List UInt16}

theorem readBytes_wszVolume : (mountViaDriver openResult driveNo readOnly path).readBytes .wszVolume =
    splice (List.replicate (2 * tcMaxPath) 0) 0
      (((path ++ [0]).flatMap unitBytes).take (2 * tcMaxPath)) := by
  have hzeroed : MountStruct.zeroed.readBytes .wszVolume = List.replicate (2 * tcMaxPath) 0 :=
    slice_replicate (by decide) 0
  simp only [mountViaDriver, MountStruct.readBytes_writeBytes_self]
  simp (disch := decide) only [MountStruct.writeWord, MountStruct.readBytes_writeBytes_of_ne,
    hzeroed]
  rfl

/-- The buffer of the thread: the prefix, the path as far as the request holds it, zeros. -/
theorem ntPath_mountViaDriver (h : 0 ∉ path) :
    ntPath (mountViaDriver openResult driveNo readOnly path) =
      ntPathPrefix ++ path.take tcMaxPath ++
        (List.replicate (tcMaxPath + 8) 0).drop (ntPathPrefix ++ path.take tcMaxPath).length := by
  rw [ntPath, readBytes_wszVolume, takeWhile_wideUnits h, splice, List.take_zero, List.nil_append,
    Nat.zero_add]

/-- A scan of `k` units stops behind the units that are not zero. -/
theorem takeWhile_take_append_zeros {us : List UInt16} (h : 0 ∉ us) (k m : ℕ) :
    ((us ++ List.replicate m 0).take k).takeWhile (· ≠ 0) = us.take k := by
  have hzeros (j : ℕ) : (List.replicate j (0 : UInt16)).takeWhile (· ≠ 0) = [] := by
    cases j <;> rfl
  have hnonzero : ∀ u ∈ us.take k, u ≠ 0 := by
    rintro u hu rfl
    exact h (List.mem_of_mem_take hu)
  rw [List.take_append, List.takeWhile_append_of_pos (fun u hu => by simpa using hnonzero u hu),
    List.take_replicate, hzeros, List.append_nil]

/-- What `open_host_file` reads is the prefix and the first 256 units of the path. -/
theorem hostFileName (h : 0 ∉ path) :
    ((ntPath (mountViaDriver openResult driveNo readOnly path)).take tcMaxPath).takeWhile (· ≠ 0) =
      ntPathPrefix ++ path.take 256 := by
  have hnames : 0 ∉ ntPathPrefix := by decide
  have hnonzero : 0 ∉ ntPathPrefix ++ path.take tcMaxPath := by
    rw [List.mem_append, not_or]
    exact ⟨hnames, fun hmem => h (List.mem_of_mem_take hmem)⟩
  have hlen : ntPathPrefix.length = 4 := rfl
  have hcut : min 256 tcMaxPath = 256 := rfl
  have hrest : tcMaxPath - 4 = 256 := rfl
  rw [ntPath_mountViaDriver h, List.drop_replicate, takeWhile_take_append_zeros hnonzero,
    List.take_append, hlen, hrest, List.take_take, hcut, List.take_of_length_le (by decide)]

end Request

section Mount
variable {openResult : OpenResult} {driveNo : UInt8} {readOnly : Bool} {path : List UInt16}
  {answers : OpenAnswers}

/-- The mount is refused before a file is opened, or the file that is opened is the one that
was asked for. -/
def MountsRequestedPath (openResult : OpenResult) (driveNo : UInt8) (readOnly : Bool)
    (path : List UInt16) (answers : OpenAnswers) : Prop :=
  let request := volumeThreadProc (mountViaDriver openResult driveNo readOnly path)
  (tcOpenVolumeNames request answers = [] ∧ ∃ status, tcOpenVolume request answers = .error status) ∨
    tcOpenVolumeNames request answers ≠ [] ∧
      ∀ name ∈ tcOpenVolumeNames request answers, name = ntPathPrefix ++ path

private theorem tcOpenVolumeNames_mountViaDriver :
    tcOpenVolumeNames (volumeThreadProc (mountViaDriver openResult driveNo readOnly path)) answers =
      openHostFileNames (ntPath (mountViaDriver openResult driveNo readOnly path))
        ((volumeThreadProc (mountViaDriver openResult driveNo readOnly path)).readOnly ≠ 0)
        (volumeThreadProc (mountViaDriver openResult driveNo readOnly path)).preserveTimestamps
        answers := by
  have hword : (mountViaDriver openResult driveNo readOnly path).readWord .bytesPerSector = 512 := by
    simp (disch := decide) only [mountViaDriver, MountStruct.readWord_writeBytes_of_ne,
      MountStruct.readWord_writeWord_of_ne, MountStruct.readWord_writeWord_self]
    rfl
  have hsector : ¬ ((volumeThreadProc (mountViaDriver openResult driveNo readOnly path)
      ).bytesPerSector = 0 ∨ (volumeThreadProc (mountViaDriver openResult driveNo readOnly path)
      ).bytesPerSector > maxSectorSize) := by
    simp only [volumeThreadProc, hword]
    decide
  rw [tcOpenVolumeNames, if_neg hsector]
  rfl

/-- Without memory for the path nothing is opened; otherwise the first 256 units are. -/
theorem tcOpenVolumeNames_cases (h : 0 ∉ path) :
    let names := tcOpenVolumeNames
      (volumeThreadProc (mountViaDriver openResult driveNo readOnly path)) answers
    (names = [] ↔ answers.pathAllocated = false) ∧
      ∀ name ∈ names, name = ntPathPrefix ++ path.take 256 := by
  have hne : ntPathPrefix ++ path.take 256 ≠ [] := List.cons_ne_nil _ _
  constructor
  · rw [tcOpenVolumeNames_mountViaDriver, openHostFileNames_eq_nil_iff, hostFileName h]
    exact or_iff_right hne
  · intro name hname
    rw [tcOpenVolumeNames_mountViaDriver] at hname
    rw [eq_of_mem_openHostFileNames hname, hostFileName h]

private theorem not_mountsRequestedPath (h : 0 ∉ path) (hlong : 256 < path.length)
    (hpool : answers.pathAllocated = true) :
    ¬ MountsRequestedPath openResult driveNo readOnly path answers := by
  obtain ⟨hnil, hnames⟩ := @tcOpenVolumeNames_cases openResult driveNo readOnly path answers h
  rintro (⟨hempty, -⟩ | ⟨hne, hsame⟩)
  · rw [hnil, hpool] at hempty
    cases hempty
  · obtain ⟨name, hname⟩ := List.exists_mem_of_ne_nil _ hne
    have hcut := (hsame name hname).symm.trans (hnames name hname)
    have hlen := congrArg List.length (List.append_cancel_left hcut)
    rw [List.length_take] at hlen
    omega

/-- The requested path is mounted exactly if it has at most 256 units, or nothing is opened. -/
theorem mountsRequestedPath_iff (openResult : OpenResult) (driveNo : UInt8) (readOnly : Bool)
    (path : List UInt16) (answers : OpenAnswers) (h : 0 ∉ path) :
    MountsRequestedPath openResult driveNo readOnly path answers ↔
      path.length ≤ 256 ∨ answers.pathAllocated = false := by
  obtain ⟨hnil, hnames⟩ := @tcOpenVolumeNames_cases openResult driveNo readOnly path answers h
  constructor
  · intro hmounts
    by_contra hcut
    rw [not_or, Nat.not_le, Bool.not_eq_false] at hcut
    exact not_mountsRequestedPath h hcut.1 hcut.2 hmounts
  · intro hcases
    by_cases hempty : answers.pathAllocated = false
    · exact .inl ⟨hnil.mpr hempty, tcOpenVolume_of_names_eq_nil (hnil.mpr hempty)⟩
    · have hshort : path.take 256 = path :=
        List.take_of_length_le (hcases.resolve_right hempty)
      rw [hshort] at hnames
      exact .inr ⟨mt hnil.mp hempty, hnames⟩

end Mount

def sampleResult : OpenResult where
  headerCipher := .aes
  dataCipher := .aes
  kdf := .pbkdf2Sha512
  pim := 1
  iterations := 16000
  memoryCostKib := none
  masterKey := List.replicate 64 0
  dataOffset := 262144
  dataLength := 262144
  salt := zeroSalt.1
  header := headerAtOffset 262144
  usedBackupHeader := false
  volumeType := .normal

/-- The path `v`. -/
theorem mountsRequestedPath_short :
    MountsRequestedPath sampleResult 23 false [0x76] promptOpen ↔
      [(0x76 : UInt16)].length ≤ 256 ∨ promptOpen.pathAllocated = false :=
  mountsRequestedPath_iff sampleResult 23 false [0x76] promptOpen (by decide)

/-- Of a path of 257 units the last one is missing in what is opened. -/
theorem longPath_not_mounted :
    (∀ name ∈ tcOpenVolumeNames (volumeThreadProc
        (mountViaDriver sampleResult 23 false (List.replicate 257 0x61))) promptOpen,
      name = ntPathPrefix ++ List.replicate 256 0x61) ∧
      ¬ MountsRequestedPath sampleResult 23 false (List.replicate 257 0x61) promptOpen := by
  have hnonzero : 0 ∉ List.replicate 257 (0x61 : UInt16) := by
    rw [List.mem_replicate]
    rintro ⟨-, hzero⟩
    cases hzero
  obtain ⟨-, hnames⟩ := @tcOpenVolumeNames_cases sampleResult 23 false _ promptOpen hnonzero
  rw [List.take_replicate] at hnames
  exact ⟨hnames, not_mountsRequestedPath hnonzero
    (by rw [List.length_replicate]; exact Nat.lt_succ_self 256) rfl⟩

end Oxhide.MountedPath
