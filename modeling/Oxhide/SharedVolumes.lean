import Oxhide.HiddenProtection
import Oxhide.VolumeHistories

/-! # An outer and a hidden volume on one file

Both volumes are open at the same time, each through its own handle, and their calls come
in any order. The outer one protects the range of the hidden data. Each volume then shows
a history of its own plain disk, as if the other one were not there: the hidden volume all
of its sectors, the outer one the sectors that keep clear of the range. -/
namespace Oxhide.SharedVolumes
open BlockCiphers ChangedHeaders CipherChain DataWrites DiskHistories FaultyFile HeaderFormat
  HeaderSlots HiddenProtection KeyDerivation ListSplice OpeningSearch OpenVolumes PlainDevice
  SealedHeaders SectorCiphers UserStoreLaw VolumeCreation VolumeErrors VolumeHistories
  VolumeOpening WordBytes

/-- The two volumes and what the file holds. -/
structure Shared where
  outer : OpenVolume
  hidden : OpenVolume
  contents : Bytes

inductive SharedCall where
  | outer (call : SectorCall)
  | hidden (call : SectorCall)

def SharedCall.InRange (s : Shared) : SharedCall → Prop
  | .outer call => call.sector.toNat < s.outer.maxSector.toNat
  | .hidden call => call.sector.toNat < s.hidden.maxSector.toNat

/-- A volume that finds the file as another handle has left it. -/
def onFile (volume : OpenVolume) (contents : Bytes) : OpenVolume :=
  { volume with file := { volume.file with contents := contents } }

section System
variable (P : CipherSuite)

def Shared.serve (s : Shared) : SharedCall → Shared
  | .outer call =>
    let volume := VolumeHistories.serve P (onFile s.outer s.contents) call
    { s with outer := volume, contents := volume.file.contents }
  | .hidden call =>
    let volume := VolumeHistories.serve P (onFile s.hidden s.contents) call
    { s with hidden := volume, contents := volume.file.contents }

/-- The sector that begins at byte `first` of the file keeps clear of the range. -/
def Clear (start stop first : ℕ) : Prop := first + 512 ≤ start ∨ stop ≤ first

instance (start stop first : ℕ) : Decidable (Clear start stop first) :=
  inferInstanceAs (Decidable (_ ∨ _))

/-- Byte `i` of the volume lies in such a sector. -/
def ClearByte (volume : OpenVolume) (start stop i : ℕ) : Prop :=
  Clear start stop (volume.inner.dataOffset.toNat + 512 * (i / 512))

instance (volume : OpenVolume) (start stop : ℕ) : DecidablePred (ClearByte volume start stop) :=
  fun _ => inferInstanceAs (Decidable (Clear _ _ _))

/-- What the user of the outer volume sees of a call, in the sectors that keep clear. -/
def outerEvent (start stop : ℕ) (s : Shared) : SharedCall → Event UInt8
  | .outer call =>
    if Clear start stop (s.outer.inner.dataOffset.toNat + 512 * call.sector.toNat) then
      event P (onFile s.outer s.contents) call
    else .refused
  | .hidden _ => .refused

/-- What the user of the hidden volume sees. -/
def hiddenEvent (s : Shared) : SharedCall → Event UInt8
  | .hidden call => event P (onFile s.hidden s.contents) call
  | .outer _ => .refused

def outerDisk (volume : OpenVolume) (start stop : ℕ) (contents : Bytes) : Device UInt8 :=
  restrict (ClearByte volume start stop) (disk P volume contents)

end System

/-- Both data areas lie in the file, and the protected range holds the hidden sectors. -/
structure Coexist (start stop : ℕ) (s : Shared) : Prop where
  outerReady : Ready s.outer s.contents
  hiddenReady : Ready s.hidden s.contents
  guarded : ∃ first last, s.outer.protectedRange = some (first, last) ∧ first.toNat = start ∧
    last.toNat = stop
  hiddenStart : s.hidden.inner.dataOffset.toNat = start
  hiddenStop : start + 512 * s.hidden.maxSector.toNat ≤ stop

section Steps
variable {P : CipherSuite} {start stop : ℕ} {s : Shared} {call : SectorCall}

theorem ready_onFile {volume : OpenVolume} {contents : Bytes} (h : Ready volume contents) :
    Ready (onFile volume contents) (onFile volume contents).file.contents :=
  ⟨h.inside, h.fileSize⟩

@[simp] theorem disk_onFile (P : CipherSuite) (volume : OpenVolume) (contents : Bytes) :
    disk P (onFile volume contents) = disk P volume := rfl

/-- What a call leaves of a volume on the file. -/
theorem serve_onFile (P : CipherSuite) (volume : OpenVolume) (contents : Bytes)
    (call : SectorCall) :
    (VolumeHistories.serve P (onFile volume contents) call).inner = volume.inner ∧
      (VolumeHistories.serve P (onFile volume contents) call).protectedRange =
        volume.protectedRange ∧
      disk P (VolumeHistories.serve P (onFile volume contents) call) = disk P volume := by
  obtain ⟨file, triggered, hframe⟩ := serve_frame P (onFile volume contents) call
  rw [hframe]
  exact ⟨rfl, rfl, rfl⟩

/-- A call leaves the file as it is, or stores in its sector. -/
theorem contents_serve (volume : OpenVolume) {contents : Bytes} (h : Ready volume contents)
    (hsector : call.sector.toNat < volume.maxSector.toNat) :
    (VolumeHistories.serve P (onFile volume contents) call).file.contents.length =
        contents.length ∧
      ∀ off n, off + n ≤ volume.inner.dataOffset.toNat + 512 * call.sector.toNat ∨
          volume.inner.dataOffset.toNat + 512 * call.sector.toNat + 512 ≤ off →
        slice (VolumeHistories.serve P (onFile volume contents) call).file.contents off n =
          slice contents off n := by
  cases call with
  | read sector plan =>
    obtain ⟨file, hrun, hcontents⟩ :=
      OpenVolume.read_effect P (onFile volume contents) sector plan 512
    have hsame : (VolumeHistories.serve P (onFile volume contents)
        (.read sector plan)).file.contents = contents := by
      rw [VolumeHistories.serve, hrun]
      exact hcontents
    rw [hsame]
    exact ⟨rfl, fun _ _ _ => rfl⟩
  | write w =>
    have heffect := sectorEffect_write (P := P) (ready_onFile h) w hsector
    exact ⟨heffect.length, heffect.spared⟩

/-- The outer volume stores nothing in a sector that meets the range. -/
theorem contents_of_not_clear (h : Coexist start stop s)
    (hsector : call.sector.toNat < s.outer.maxSector.toNat)
    (hclear : ¬ Clear start stop (s.outer.inner.dataOffset.toNat + 512 * call.sector.toNat)) :
    (VolumeHistories.serve P (onFile s.outer s.contents) call).file.contents = s.contents := by
  cases call with
  | read sector plan =>
    obtain ⟨file, hrun, hcontents⟩ :=
      OpenVolume.read_effect P (onFile s.outer s.contents) sector plan 512
    rw [VolumeHistories.serve, hrun]
    exact hcontents
  | write w =>
    obtain ⟨hposition, hin⟩ := position_of_ready h.outerReady hsector
    have hfile := h.outerReady.fileSize
    have hmax : maxPosition < 2 ^ 63 := by decide
    obtain ⟨first, last, hrange, hfirst, hlast⟩ := h.guarded
    have hfits : (hostPosition s.outer.inner.dataOffset w.sector).val.toNat + 512 < 2 ^ 64 := by
      change s.outer.position w.sector + 512 < 2 ^ 64
      simp only [SectorCall.sector] at hposition hin
      omega
    have hmeets : ¬ s.outer.checkProtectedRange
        (hostPosition s.outer.inner.dataOffset w.sector).val (UInt64.ofNat 512) = false := by
      intro hfree
      have hapart := (checkProtectedRange_eq_false_iff hfits).mp hfree _ hrange
      change last.toNat ≤ s.outer.position w.sector ∨ s.outer.position w.sector + 512 ≤
        first.toNat at hapart
      simp only [SectorCall.sector] at hposition hclear
      rw [Clear] at hclear
      omega
    refine @contents_of_refused P (onFile s.outer s.contents) w ?_
    by_cases hro : s.outer.readOnly = true
    · exact .inr hro
    · rcases OpenVolume.write_cases P (onFile s.outer s.contents) w.sector w.plan (n := 1)
        (by omega) w.buf_length (Bool.not_eq_true _ ▸ hro) with
          ⟨hrun, -⟩ | ⟨_, _, _, -, -, -, hfree, -⟩
      · rw [hrun]
        exact .inl rfl
      · rw [w.buf_length] at hfree
        exact absurd hfree hmeets

theorem disk_congr {volume : OpenVolume} {before after : Bytes}
    (h : ∀ n < volume.maxSector.toNat, slice after (volume.inner.dataOffset.toNat + 512 * n) 512 =
      slice before (volume.inner.dataOffset.toNat + 512 * n) 512) :
    disk P volume after = disk P volume before := by
  funext i
  rw [disk, disk]
  split_ifs with hi
  · rw [plainSector, plainSector, h _ hi]
  · rfl

theorem outerDisk_congr {volume : OpenVolume} {before after : Bytes}
    (h : ∀ first, Clear start stop first → slice after first 512 = slice before first 512) :
    outerDisk P volume start stop after = outerDisk P volume start stop before := by
  funext i
  rw [outerDisk, outerDisk, restrict, restrict]
  split_ifs with hi
  · rw [disk, disk, plainSector, plainSector, h _ hi]
  · rfl

/-- What a call shows lies in its sector. -/
theorem event_within {volume : OpenVolume} {keep : ℕ → Prop}
    (hkeep : ∀ i, i / 512 = call.sector.toNat → keep i) : (event P volume call).Within keep := by
  have hsector (i : ℕ) (hlow : 512 * call.sector.toNat ≤ i)
      (hhigh : i < 512 * call.sector.toNat + 512) : keep i := hkeep i (by omega)
  cases call with
  | read sector plan =>
    rw [event]
    cases hread : (volume.read P sector 512 plan).1 with
    | error e => trivial
    | ok data =>
      obtain ⟨-, hin⟩ := OpenVolume.of_read_eq_ok (by omega) hread
      have hslice := length_slice_of_le hin
      have hlen : data.length = 512 := by
        rw [eq_of_read_eq_ok (n := 1) (by omega) hread, length_decryptUnit (n := 1 * 32) hslice]
        exact hslice
      intro i hlow hhigh
      rw [hlen] at hhigh
      exact hsector i hlow hhigh
  | write w =>
    rw [event]
    split
    · intro i hlow hhigh
      rw [w.buf_length] at hhigh
      exact hsector i hlow hhigh
    · trivial
    · split_ifs <;> trivial

/-- A call to the outer volume serves its clear sectors and leaves the hidden disk alone. -/
private theorem outer_step (h : Coexist start stop s)
    (hsector : call.sector.toNat < s.outer.maxSector.toNat) :
    Step (outerDisk P s.outer start stop s.contents) (outerEvent P start stop s (.outer call))
        (outerDisk P s.outer start stop
          (VolumeHistories.serve P (onFile s.outer s.contents) call).file.contents) ∧
      disk P s.hidden (VolumeHistories.serve P (onFile s.outer s.contents) call).file.contents =
        disk P s.hidden s.contents := by
  by_cases hclear : Clear start stop (s.outer.inner.dataOffset.toNat + 512 * call.sector.toNat)
  · obtain ⟨-, hstep⟩ := VolumeHistories.step_serve (P := P) (ready_onFile h.outerReady) hsector
    rw [disk_onFile] at hstep
    rw [outerEvent, if_pos hclear]
    refine ⟨hstep.restrict (event_within fun i hi => ?_), disk_congr fun n hn => ?_⟩
    · rw [ClearByte, hi]
      exact hclear
    · have hstart := h.hiddenStart
      have hstop := h.hiddenStop
      rw [Clear] at hclear
      exact (contents_serve s.outer h.outerReady hsector).2 _ _ (by omega)
  · rw [contents_of_not_clear h hsector hclear, outerEvent, if_neg hclear]
    exact ⟨Step.refused _, rfl⟩

/-- A call to the hidden volume serves its disk and leaves the clear sectors of the outer one
alone. -/
private theorem hidden_step (h : Coexist start stop s)
    (hsector : call.sector.toNat < s.hidden.maxSector.toNat) :
    Step (disk P s.hidden s.contents) (hiddenEvent P s (.hidden call))
        (disk P s.hidden
          (VolumeHistories.serve P (onFile s.hidden s.contents) call).file.contents) ∧
      outerDisk P s.outer start stop
          (VolumeHistories.serve P (onFile s.hidden s.contents) call).file.contents =
        outerDisk P s.outer start stop s.contents := by
  obtain ⟨-, hstep⟩ := VolumeHistories.step_serve (P := P) (ready_onFile h.hiddenReady) hsector
  rw [disk_onFile] at hstep
  refine ⟨hstep, outerDisk_congr fun first hclear => ?_⟩
  have hstart := h.hiddenStart
  have hstop := h.hiddenStop
  rw [Clear] at hclear
  exact (contents_serve s.hidden h.hiddenReady hsector).2 _ _ (by omega)

/-- What a run of calls leaves of the two volumes. -/
structure SameVolumes (P : CipherSuite) (s s' : Shared) : Prop where
  outer : s'.outer.inner = s.outer.inner
  hidden : s'.hidden.inner = s.hidden.inner
  guard : s'.outer.protectedRange = s.outer.protectedRange
  outerDisk : disk P s'.outer = disk P s.outer
  hiddenDisk : disk P s'.hidden = disk P s.hidden
  length : s'.contents.length = s.contents.length

theorem sameVolumes_serve (P : CipherSuite) (h : Coexist start stop s) {call : SharedCall}
    (hcall : call.InRange s) : SameVolumes P s (s.serve P call) := by
  cases call with
  | outer call =>
    obtain ⟨hinner, hrange, hdisk⟩ := serve_onFile P s.outer s.contents call
    exact ⟨hinner, rfl, hrange, hdisk, rfl, (contents_serve s.outer h.outerReady hcall).1⟩
  | hidden call =>
    obtain ⟨hinner, -, hdisk⟩ := serve_onFile P s.hidden s.contents call
    exact ⟨rfl, hinner, rfl, rfl, hdisk, (contents_serve s.hidden h.hiddenReady hcall).1⟩

theorem SameVolumes.trans {s s' s'' : Shared} (h : SameVolumes P s s')
    (h' : SameVolumes P s' s'') : SameVolumes P s s'' :=
  ⟨h'.outer.trans h.outer, h'.hidden.trans h.hidden, h'.guard.trans h.guard,
    h'.outerDisk.trans h.outerDisk, h'.hiddenDisk.trans h.hiddenDisk, h'.length.trans h.length⟩

theorem SameVolumes.coexist {s s' : Shared} (h : SameVolumes P s s') (hs : Coexist start stop s) :
    Coexist start stop s' := by
  refine ⟨⟨?_, ?_⟩, ⟨?_, ?_⟩, ?_, ?_, ?_⟩
  · rw [h.outer, h.length]
    exact hs.outerReady.inside
  · rw [h.length]
    exact hs.outerReady.fileSize
  · rw [h.hidden, h.length]
    exact hs.hiddenReady.inside
  · rw [h.length]
    exact hs.hiddenReady.fileSize
  · rw [h.guard]
    exact hs.guarded
  · rw [h.hidden]
    exact hs.hiddenStart
  · rw [OpenVolume.maxSector, h.hidden]
    exact hs.hiddenStop

theorem SameVolumes.inRange {s s' : Shared} (h : SameVolumes P s s') {call : SharedCall}
    (hcall : call.InRange s) : call.InRange s' := by
  cases call with
  | outer call =>
    rw [SharedCall.InRange, OpenVolume.maxSector, h.outer]
    exact hcall
  | hidden call =>
    rw [SharedCall.InRange, OpenVolume.maxSector, h.hidden]
    exact hcall

theorem SameVolumes.outerDisk_eq {s s' : Shared} (h : SameVolumes P s s') (start stop : ℕ) :
    SharedVolumes.outerDisk P s'.outer start stop =
      SharedVolumes.outerDisk P s.outer start stop := by
  funext contents i
  have hsame : ClearByte s'.outer start stop i ↔ ClearByte s.outer start stop i := by
    rw [ClearByte, ClearByte, h.outer]
  rw [SharedVolumes.outerDisk, SharedVolumes.outerDisk, restrict, restrict, h.outerDisk]
  by_cases hclear : ClearByte s.outer start stop i
  · rw [if_pos hclear, if_pos (hsame.mpr hclear)]
  · rw [if_neg hclear, if_neg fun hbyte => hclear (hsame.mp hbyte)]

/-- A call to either volume serves both disks. -/
theorem step_serve (h : Coexist start stop s) {call : SharedCall} (hcall : call.InRange s) :
    Step (outerDisk P s.outer start stop s.contents) (outerEvent P start stop s call)
        (outerDisk P s.outer start stop (s.serve P call).contents) ∧
      Step (disk P s.hidden s.contents) (hiddenEvent P s call)
        (disk P s.hidden (s.serve P call).contents) := by
  cases call with
  | outer call =>
    obtain ⟨houter, hhidden⟩ := outer_step (P := P) h hcall
    refine ⟨houter, ?_⟩
    change Step _ .refused (disk P s.hidden
      (VolumeHistories.serve P (onFile s.outer s.contents) call).file.contents)
    rw [hhidden]
    exact Step.refused _
  | hidden call =>
    obtain ⟨hhidden, houter⟩ := hidden_step (P := P) h hcall
    refine ⟨?_, hhidden⟩
    change Step _ .refused (outerDisk P s.outer start stop
      (VolumeHistories.serve P (onFile s.hidden s.contents) call).file.contents)
    rw [houter]
    exact Step.refused _

end Steps

/-- In any order of calls each volume shows a history of its own disk. -/
theorem serves_both (P : CipherSuite) {start stop : ℕ} {s : Shared} (h : Coexist start stop s)
    (calls : List SharedCall) (hcalls : ∀ call ∈ calls, call.InRange s) :
    Serves (outerDisk P s.outer start stop s.contents)
        (history (Shared.serve P) (outerEvent P start stop) s calls)
        (outerDisk P s.outer start stop (calls.foldl (Shared.serve P) s).contents) ∧
      Serves (disk P s.hidden s.contents) (history (Shared.serve P) (hiddenEvent P) s calls)
        (disk P s.hidden (calls.foldl (Shared.serve P) s).contents) := by
  have hnext (t : Shared) (call : SharedCall) (ht : SameVolumes P s t) (hcall : call.InRange s) :
      SameVolumes P s (t.serve P call) :=
    ht.trans (sameVolumes_serve P (ht.coexist h) (ht.inRange hcall))
  have hself : SameVolumes P s s := ⟨rfl, rfl, rfl, rfl, rfl, rfl⟩
  constructor
  · refine @serves_history _ _ _ (Shared.serve P) (outerEvent P start stop)
      (fun t => outerDisk P s.outer start stop t.contents) (SameVolumes P s)
      (fun call => call.InRange s) (fun t call ht hcall => ⟨hnext t call ht hcall, ?_⟩) s hself
      calls hcalls
    have hstep := (step_serve (P := P) (ht.coexist h) (ht.inRange hcall)).1
    rwa [ht.outerDisk_eq] at hstep
  · refine @serves_history _ _ _ (Shared.serve P) (hiddenEvent P)
      (fun t => disk P s.hidden t.contents) (SameVolumes P s)
      (fun call => call.InRange s) (fun t call ht hcall => ⟨hnext t call ht hcall, ?_⟩) s hself
      calls hcalls
    have hstep := (step_serve (P := P) (ht.coexist h) (ht.inRange hcall)).2
    rwa [ht.hiddenDisk] at hstep

/-- Volumes that were opened on one file, the outer one with protection, can be used together. -/
theorem coexist_opened {P : CipherSuite} {K : KdfLibrary} {contents : Bytes}
    {credentials hiddenCredentials : Credentials} {kdf : Option KdfAlgorithm}
    {pim : Option Int32} {readOnly : Bool} {outer hidden : OpenVolume}
    (houter : OpenVolume.openWithProtection P K (.ok contents) (.ok ⟨contents, 0, 0⟩) credentials
      kdf pim hiddenCredentials = .ok outer)
    (hhidden : OpenVolume.openWith P K (.ok contents) (.ok ⟨contents, 0, 0⟩) hiddenCredentials
      none (some 0) readOnly = .ok hidden)
    (houterReady : Ready outer contents) (hhiddenReady : Ready hidden contents) :
    Coexist hidden.inner.dataOffset.toNat
      (hidden.inner.dataOffset.toNat + hidden.inner.dataLength.toNat)
      ⟨outer, hidden, contents⟩ := by
  obtain ⟨r, cipher, hresult, -, hvolume⟩ := OpenVolume.openWith_eq_ok.mp hhidden
  have hinner : hidden.inner = r := by rw [hvolume]
  have hmax : maxPosition < 2 ^ 64 := by decide
  have hinside := hhiddenReady.inside
  have hfile := hhiddenReady.fileSize
  have hguarded := guarded_openWithProtection houter hresult (by rw [← hinner]; omega)
  refine ⟨houterReady, hhiddenReady, ?_, rfl, ?_⟩
  · rw [hinner]
    exact hguarded.range
  · exact Nat.add_le_add_left (sectors_fit hidden) _

/-- An outer volume opened with protection and the hidden volume inside it, used in any order:
each one shows a history of its own disk. -/
theorem opened_serve_both (P : CipherSuite) (K : KdfLibrary) (contents : Bytes)
    (credentials hiddenCredentials : Credentials) (kdf : Option KdfAlgorithm)
    (pim : Option Int32) (readOnly : Bool) (outer hidden : OpenVolume)
    (houter : OpenVolume.openWithProtection P K (.ok contents) (.ok ⟨contents, 0, 0⟩) credentials
      kdf pim hiddenCredentials = .ok outer)
    (hhidden : OpenVolume.openWith P K (.ok contents) (.ok ⟨contents, 0, 0⟩) hiddenCredentials
      none (some 0) readOnly = .ok hidden)
    (houterReady : Ready outer contents) (hhiddenReady : Ready hidden contents)
    (calls : List SharedCall) (hcalls : ∀ call ∈ calls, call.InRange ⟨outer, hidden, contents⟩) :
    let start := hidden.inner.dataOffset.toNat
    let stop := start + hidden.inner.dataLength.toNat
    Serves (outerDisk P outer start stop contents)
        (history (Shared.serve P) (outerEvent P start stop) ⟨outer, hidden, contents⟩ calls)
        (outerDisk P outer start stop
          (calls.foldl (Shared.serve P) ⟨outer, hidden, contents⟩).contents) ∧
      Serves (disk P hidden contents)
        (history (Shared.serve P) (hiddenEvent P) ⟨outer, hidden, contents⟩ calls)
        (disk P hidden (calls.foldl (Shared.serve P) ⟨outer, hidden, contents⟩).contents) := by
  exact serves_both P (coexist_opened houter hhidden houterReady hhiddenReady) calls hcalls

section Sample

/-! A hidden volume of one sector in an outer one of 256 KiB. -/

/-- The four headers twice: those in the middle stand in the outer data. -/
def sharedFile : Bytes :=
  protectedFile (hiddenAt 327680 512) ++ protectedFile (hiddenAt 327680 512)

private theorem sharedFile_spec : sharedFile.length = 8 * volumeHeaderSize ∧
    headerAt sharedFile 0 = (saltOf 0x6F 0x6F).1 ++ encryptedArea outerHeader ∧
      headerAt sharedFile volumeHeaderSize =
        (saltOf 0x68 0x68).1 ++ encryptedArea (hiddenAt 327680 512) ∧
      headerAt sharedFile (6 * volumeHeaderSize) =
        (saltOf 0x6F 0x6F).1 ++ encryptedArea outerHeader := by
  obtain ⟨hlen, hfirst, hsecond, hbackup⟩ := protectedFile_spec (hiddenAt 327680 512)
  have hsizes : volumeHeaderEffectiveSize ≤ volumeHeaderSize := by decide
  have hsplit : 6 * volumeHeaderSize - 4 * volumeHeaderSize = 2 * volumeHeaderSize := by omega
  refine ⟨?_, ?_, ?_, ?_⟩
  · rw [sharedFile, List.length_append, hlen]
    omega
  · rw [← hfirst, headerAt, headerAt, sharedFile, slice_append_left (by omega)]
  · rw [← hsecond, headerAt, headerAt, sharedFile, slice_append_left (by omega)]
  · rw [← hbackup, headerAt, headerAt, sharedFile, slice_append_right (by omega), hlen, hsplit]

private theorem shared_found : FoundIn maskingSuite sharedFile hiddenCredentials
    (autoKdfCandidates fittingLibrary (some 0)) [0x68, 0x68] (.v2Hidden sharedFile.length,
      volumeHeaderSize) (openResult .aes (makeKdfCandidate fittingLibrary .pbkdf2Sha512 0)
      (saltOf 0x68 0x68).1 ((hiddenAt 327680 512).stored (saltOf 0x68 0x68).1
        (saltOf 0x68 0x68).2) (slotIsBackup (.v2Hidden sharedFile.length, volumeHeaderSize))) := by
  obtain ⟨hlen, hfirst, hinner, hbackup⟩ := sharedFile_spec
  have hreject : Rejects maskingSuite [0x68, 0x68] _
      (autoKdfCandidates fittingLibrary (some 0)) :=
    rejects_unfit (a := 0x6F) (b := 0x6F) sample_firstBlock.1 (by decide)
  have hfile : 4 * volumeHeaderSize ≤ sharedFile.length := by omega
  have hback : sharedFile.length - 2 * volumeHeaderSize = 6 * volumeHeaderSize := by omega
  refine sample_found 0 [(.v2Normal _, 0), (.v2Normal _, _), (.v1Legacy, 0)] (saltOf 0x68 0x68)
    hfile (slots_eq hfile) ?_ hinner rfl (wellformed_hiddenAt 327680 512)
  intro slot hslot
  simp only [List.mem_cons, List.not_mem_nil, or_false] at hslot
  rcases hslot with rfl | rfl | rfl
  · rwa [hfirst]
  · rwa [hback, hbackup]
  · rwa [hfirst]

/-- Both volumes open on the file. -/
private theorem exists_sharedVolumes : ∃ outer hidden,
    OpenVolume.openWithProtection maskingSuite fittingLibrary (.ok sharedFile)
        (.ok ⟨sharedFile, 0, 0⟩) outerCredentials none (some 1) hiddenCredentials = .ok outer ∧
      OpenVolume.openWith maskingSuite fittingLibrary (.ok sharedFile) (.ok ⟨sharedFile, 0, 0⟩)
        hiddenCredentials none (some 0) false = .ok hidden ∧
      outer.inner.dataOffset = 262144 ∧ outer.inner.dataLength = 262144 ∧
      hidden.inner.dataOffset = 327680 ∧ hidden.inner.dataLength = 512 := by
  obtain ⟨hlen, hfirst, -, -⟩ := sharedFile_spec
  have hfile : 4 * volumeHeaderSize ≤ sharedFile.length := by omega
  have hnormal : FoundIn maskingSuite sharedFile outerCredentials _ _ _ _ :=
    sample_found 1 [] (saltOf 0x6F 0x6F) hfile (slots_eq hfile) (by simp) hfirst rfl
      wellformed_outerHeader
  have hhidden := shared_found
  obtain ⟨outerCipher, houterCipher, -⟩ :=
    createSectorCipher_of_length (length_masterKey hnormal.opens)
  obtain ⟨hiddenCipher, hhiddenCipher, -⟩ :=
    createSectorCipher_of_length (length_masterKey hhidden.opens)
  exact ⟨_, _, OpenVolume.openWithProtection_eq_ok.mpr ⟨_, _, _, outerCipher, hnormal.opens, rfl,
    hhidden.opens, rfl, rfl, houterCipher, rfl⟩, OpenVolume.openWith_eq_ok.mpr ⟨_, hiddenCipher,
    hhidden.opens, hhiddenCipher, rfl⟩, rfl, rfl, rfl, rfl⟩

/-- Each volume writes its first sector and the hidden one reads its own back. -/
def firstSectors : List SharedCall :=
  [.outer (.write (sectorOf 1)), .hidden (.write (sectorOf 2)), .outer (.write (sectorOf 3)),
    .hidden (.read 0 noFaults)]

theorem firstSectors_serve_both : ∃ outer hidden,
    OpenVolume.openWithProtection maskingSuite fittingLibrary (.ok sharedFile)
        (.ok ⟨sharedFile, 0, 0⟩) outerCredentials none (some 1) hiddenCredentials = .ok outer ∧
      OpenVolume.openWith maskingSuite fittingLibrary (.ok sharedFile) (.ok ⟨sharedFile, 0, 0⟩)
        hiddenCredentials none (some 0) false = .ok hidden ∧
      Serves (disk maskingSuite hidden sharedFile)
        (history (Shared.serve maskingSuite) (hiddenEvent maskingSuite)
          ⟨outer, hidden, sharedFile⟩ firstSectors)
        (disk maskingSuite hidden (firstSectors.foldl (Shared.serve maskingSuite)
          ⟨outer, hidden, sharedFile⟩).contents) := by
  obtain ⟨outer, hidden, houter, hhidden, houterOffset, houterLength, hhiddenOffset,
    hhiddenLength⟩ := exists_sharedVolumes
  have hlen : sharedFile.length = 524288 := sharedFile_spec.1
  have hmax : sharedFile.length ≤ maxPosition := by
    rw [hlen, maxPosition]
    norm_num
  have houterReady : Ready outer sharedFile := by
    refine ⟨?_, hmax⟩
    rw [houterOffset, houterLength, hlen]
    decide
  have hhiddenReady : Ready hidden sharedFile := by
    refine ⟨?_, hmax⟩
    rw [hhiddenOffset, hhiddenLength, hlen]
    decide
  have hcalls : ∀ call ∈ firstSectors, call.InRange ⟨outer, hidden, sharedFile⟩ := by
    have houterSectors : 0 < outer.maxSector.toNat := by
      rw [OpenVolume.maxSector, houterLength]
      decide
    have hhiddenSectors : 0 < hidden.maxSector.toNat := by
      rw [OpenVolume.maxSector, hhiddenLength]
      decide
    intro call hcall
    simp only [firstSectors, List.mem_cons, List.not_mem_nil, or_false] at hcall
    rcases hcall with rfl | rfl | rfl | rfl
    · exact houterSectors
    · exact hhiddenSectors
    · exact houterSectors
    · exact hhiddenSectors
  exact ⟨outer, hidden, houter, hhidden, (opened_serve_both maskingSuite fittingLibrary sharedFile
    outerCredentials hiddenCredentials none (some 1) false outer hidden houter hhidden houterReady
    hhiddenReady firstSectors hcalls).2⟩

end Sample

end Oxhide.SharedVolumes
