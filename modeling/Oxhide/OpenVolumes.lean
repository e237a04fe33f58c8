import Oxhide.CheckedWords
import Oxhide.FaultyFile
import Oxhide.SectorCiphers
import Oxhide.VolumeOpening

/-! # Reading and writing the sectors of an open volume

A read or a write of several sectors is one call of the file and one call of the
cipher: the number of its first sector is the data-unit number of the whole
buffer. `OpenVolume.read_eq` and `OpenVolume.write_eq` say what the calls do when
the file answers them. -/
namespace Oxhide.OpenVolumes
open BlockCiphers CheckedWords CipherChain FaultyFile InPlaceBuffer KeyDerivation ListSplice
  SectorCiphers VolumeErrors VolumeOpening WordBytes Xts

def dataUnitSize : UInt64 := 512

theorem aligned_of_sectors {length n : ℕ} (h : length = n * 512) :
    ¬ length % dataUnitSize.toNat ≠ 0 := by
  rw [show dataUnitSize.toNat = 512 from rfl]
  omega

/-- Where a sector lies in the file. -/
def hostPosition (dataOffset sector : UInt64) : Checked UInt64 := do
  Checked.add dataOffset (← Checked.mul sector dataUnitSize)

/-- What an in-place computation leaves, when it succeeds. -/
def outcome {ε α : Type} (f : InPlace ε α) (data : List α) : Except ε (List α) :=
  match f data with
  | (.ok (), out) => .ok out
  | (.error e, _) => .error e

section Sectors
variable (P : CipherSuite) (cipher : SectorCipher) (dataOffset sector : UInt64)

/-- Fill a buffer of `n` bytes. -/
def readSectors (n : ℕ) : FileIo UInt8 VolumeError Bytes := do
  let pos := (hostPosition dataOffset sector).val
  FileIo.mapError (fun e => .readError sector s!"seek: {e}") (seekStart pos.toNat)
  let buffer ← FileIo.mapError (fun e => .readError sector s!"read: {e}") (readExact n)
  FileIo.lift (outcome (cipher.decryptSector P sector) buffer)

def writeSectors (buffer : Bytes) : FileIo UInt8 VolumeError Unit := do
  let encrypted ← FileIo.lift (outcome (cipher.encryptSector P sector) buffer)
  let pos := (hostPosition dataOffset sector).val
  FileIo.mapError (fun e => .writeError sector s!"seek: {e}") (seekStart pos.toNat)
  FileIo.mapError (fun e => .writeError sector s!"write: {e}") (writeAll 0 encrypted)

end Sectors

structure OpenVolume where
  inner : OpenResult
  file : FileState UInt8
  cipher : SectorCipher
  readOnly : Bool
  protectedRange : Option (UInt64 × UInt64)
  hiddenProtectionTriggered : Bool

namespace OpenVolume

/-- The last steps of opening: open the file again and build the cipher. -/
def ofResult (readOnly : Bool) (result : OpenResult) (file : Except String (FileState UInt8)) :
    Except VolumeError OpenVolume := do
  let file ← file.mapError .openError
  let cipher ← createSectorCipher result.dataCipher result.masterKey
  return {
    inner := result
    file := file
    cipher := cipher
    readOnly := readOnly
    protectedRange := none
    hiddenProtectionTriggered := false }

section Opening
variable (P : CipherSuite) (K : KdfLibrary) (data : Except String Bytes)
  (file : Except String (FileState UInt8)) (credentials : Credentials) (kdf : Option KdfAlgorithm)
  (pim : Option Int32)

def openResultOf : Except VolumeError OpenResult :=
  match kdf with
  | some k => openVolumeFileWithKdf P K data credentials k (pim.getD 0)
  | none => openVolumeFile P K data credentials pim

/-- The key derivations of the search. -/
def searchCandidates : List KdfCandidate :=
  match kdf with
  | some k => [makeKdfCandidate K k (pim.getD 0)]
  | none => autoKdfCandidates K pim

theorem openResultOf_eq : openResultOf P K data credentials kdf pim =
    openVolumeWith P data credentials (searchCandidates K kdf pim) := by
  cases kdf <;> rfl

/-- `open` and `open_read_only`: the search reads the file before it is opened again. -/
def openWith (readOnly : Bool) : Except VolumeError OpenVolume := do
  ofResult readOnly (← openResultOf P K data credentials kdf pim) file

/-- The outer volume, with the data of the hidden one protected from writes. -/
def openWithProtection (hidden : Credentials) : Except VolumeError OpenVolume := do
  let outerResult ← openResultOf P K data credentials kdf pim
  if outerResult.volumeType ≠ .normal then
    throw (.unsupported "Outer volume appears to be hidden (wrong password?)")
  let hiddenResult ← openVolumeFile P K data hidden (some 0)
  if hiddenResult.volumeType ≠ .hidden then
    throw (.authFailed "Hidden volume not found (wrong password?)")
  let volume ← ofResult false outerResult file
  return { volume with
    protectedRange := some (hiddenResult.dataOffset,
      hiddenResult.dataOffset + hiddenResult.dataLength) }

variable {P K data credentials kdf pim}

theorem ofResult_eq (readOnly : Bool) (r : OpenResult) (file : FileState UInt8) :
    ofResult readOnly r (.ok file) = (createSectorCipher r.dataCipher r.masterKey).map
      fun cipher => ⟨r, file, cipher, readOnly, none, false⟩ := by
  change (createSectorCipher r.dataCipher r.masterKey >>= fun cipher => _) = _
  cases createSectorCipher r.dataCipher r.masterKey <;> rfl

/-- What opening a volume goes through. -/
theorem openWith_eq_ok {file : FileState UInt8} {readOnly : Bool} {volume : OpenVolume} :
    openWith P K data (.ok file) credentials kdf pim readOnly = .ok volume ↔
      ∃ r cipher, openResultOf P K data credentials kdf pim = .ok r ∧
        createSectorCipher r.dataCipher r.masterKey = .ok cipher ∧
        volume = ⟨r, file, cipher, readOnly, none, false⟩ := by
  rw [openWith]
  cases hresult : openResultOf P K data credentials kdf pim with
  | error e =>
    refine ⟨fun h => (by cases h), ?_⟩
    rintro ⟨r, cipher, hr, -⟩
    cases hr
  | ok r =>
    change ofResult readOnly r (.ok file) = .ok volume ↔ _
    rw [ofResult_eq]
    cases hcipher : createSectorCipher r.dataCipher r.masterKey with
    | error e =>
      refine ⟨fun h => (by cases h), ?_⟩
      rintro ⟨r', cipher, hr, hc, -⟩
      obtain rfl := Except.ok.inj hr
      rw [hcipher] at hc
      cases hc
    | ok cipher =>
      constructor
      · intro h
        exact ⟨r, cipher, rfl, hcipher, (Except.ok.inj h).symm⟩
      · rintro ⟨r', cipher', hr, hc, rfl⟩
        obtain rfl := Except.ok.inj hr
        obtain rfl := Except.ok.inj (hcipher.symm.trans hc)
        rfl

/-- What opening a volume with protection goes through. -/
theorem openWithProtection_eq_ok {file : Except String (FileState UInt8)} {hidden : Credentials}
    {volume : OpenVolume} :
    openWithProtection P K data file credentials kdf pim hidden = .ok volume ↔
      ∃ r hiddenResult st cipher, openResultOf P K data credentials kdf pim = .ok r ∧
        r.volumeType = .normal ∧ openVolumeFile P K data hidden (some 0) = .ok hiddenResult ∧
        hiddenResult.volumeType = .hidden ∧ file = .ok st ∧
        createSectorCipher r.dataCipher r.masterKey = .ok cipher ∧
        volume = ⟨r, st, cipher, false, some (hiddenResult.dataOffset,
          hiddenResult.dataOffset + hiddenResult.dataLength), false⟩ := by
  rw [openWithProtection]
  constructor
  · intro h
    cases houter : openResultOf P K data credentials kdf pim with
    | error e => simp [bind, Except.bind, houter] at h
    | ok r =>
      by_cases hnormal : r.volumeType = .normal
      · cases hhidden : openVolumeFile P K data hidden (some 0) with
        | error e => simp [bind, Except.bind, houter, hnormal, hhidden] at h
        | ok hiddenResult =>
          by_cases htype : hiddenResult.volumeType = .hidden
          · cases file with
            | error e =>
              simp [bind, Except.bind, houter, hnormal, hhidden, htype, ofResult,
                Except.mapError] at h
            | ok st =>
              simp only [bind, Except.bind, pure, Except.pure, houter, hnormal, hhidden, htype,
                ofResult_eq, ne_eq, not_true_eq_false, if_false] at h
              cases hcipher : createSectorCipher r.dataCipher r.masterKey with
              | error e => simp [hcipher, Except.map] at h
              | ok cipher =>
                simp only [hcipher, Except.map, Except.ok.injEq] at h
                exact ⟨r, hiddenResult, st, cipher, rfl, hnormal, rfl, htype, rfl, hcipher,
                  h.symm⟩
          · simp [bind, Except.bind, houter, hnormal, hhidden, htype] at h
      · simp [bind, Except.bind, houter, hnormal] at h
  · rintro ⟨r, hiddenResult, st, cipher, houter, hnormal, hhidden, htype, rfl, hcipher, rfl⟩
    simp [bind, Except.bind, pure, Except.pure, houter, hnormal, hhidden, htype, ofResult_eq,
      hcipher, Except.map]

end Opening

def maxSector (volume : OpenVolume) : UInt64 := volume.inner.dataLength / dataUnitSize

/-- Whether a write overlaps the protected range. -/
def checkProtectedRange (volume : OpenVolume) (hostOffset length : UInt64) : Bool :=
  match volume.protectedRange with
  | some (start, stop) =>
    let writeEnd := hostOffset + length
    hostOffset < stop ∧ writeEnd > start
  | none => false

section Access
variable (P : CipherSuite) (sector : UInt64)

/-- Fill a buffer of `n` bytes; the volume is returned with the file as it was left. -/
def read (n : ℕ) (plan : FaultPlan) (volume : OpenVolume) :
    Except VolumeError Bytes × OpenVolume :=
  if n % dataUnitSize.toNat ≠ 0 then
    (.error (.unsupported "read buffer must be sector-aligned (multiple of 512)"), volume)
  else
    let (result, file) := readSectors P volume.cipher volume.inner.dataOffset sector n plan
      volume.file
    (result, { volume with file := file })

def write (buf : Bytes) (plan : FaultPlan) (volume : OpenVolume) :
    Except VolumeError Unit × OpenVolume :=
  if volume.readOnly then
    (.error (.unsupported "volume opened read-only"), volume)
  else if volume.hiddenProtectionTriggered then
    (.error .hiddenVolumeProtection, volume)
  else if buf.length % dataUnitSize.toNat ≠ 0 then
    (.error (.unsupported "write buffer must be sector-aligned (multiple of 512)"), volume)
  else
    let hostOffset := (hostPosition volume.inner.dataOffset sector).val
    if volume.checkProtectedRange hostOffset (UInt64.ofNat buf.length) then
      (.error .hiddenVolumeProtection, { volume with hiddenProtectionTriggered := true })
    else
      let (result, file) := writeSectors P volume.cipher volume.inner.dataOffset sector buf plan
        volume.file
      (result, { volume with file := file })

end Access

/-! What the calls do to a whole number of sectors. -/

section Specs
variable {P : CipherSuite} {sector : UInt64} {buf : Bytes} {plan : FaultPlan}
  {volume : OpenVolume}

/-- The position of a sector in the file. -/
def position (volume : OpenVolume) (sector : UInt64) : ℕ :=
  (hostPosition volume.inner.dataOffset sector).val.toNat

/-- Where a sector should lie: its position computed without wrapping. -/
def firstByte (volume : OpenVolume) (sector : UInt64) : ℕ :=
  volume.inner.dataOffset.toNat + 512 * sector.toNat

theorem position_eq (volume : OpenVolume) (sector : UInt64) :
    volume.position sector = volume.firstByte sector % 2 ^ 64 := by
  have hunit : dataUnitSize.toNat = 512 := rfl
  simp only [firstByte, position, hostPosition, Checked.bind_val, Checked.mul_val, Checked.add_val,
    UInt64.toNat_add, UInt64.toNat_mul, hunit]
  omega

/-- The sectors of a buffer as they are written: one data unit. -/
def encrypted (P : CipherSuite) (volume : OpenVolume) (sector : UInt64) (buf : Bytes) : Bytes :=
  encryptUnit P volume.cipher.chain sector (buf.length / 16) buf

/-- The volume with the sectors stored. -/
def written (P : CipherSuite) (volume : OpenVolume) (sector : UInt64) (buf : Bytes) : OpenVolume :=
  { volume with file :=
    ⟨storeAt 0 volume.file.contents (volume.position sector) (encrypted P volume sector buf),
      volume.position sector + buf.length, volume.file.calls + 1 + 1⟩ }

/-- A write of `n` bytes that nothing forbids. -/
structure Accepts (volume : OpenVolume) (sector : UInt64) (n : ℕ) : Prop where
  writable : volume.readOnly = false
  untriggered : volume.hiddenProtectionTriggered = false
  unprotected : volume.checkProtectedRange (hostPosition volume.inner.dataOffset sector).val
    (UInt64.ofNat n) = false
  inside : volume.position sector + n ≤ maxPosition

private theorem blocks_of_sectors {n : ℕ} (hn : 0 < n) {data : Bytes}
    (h : data.length = n * 512) : 0 < data.length / 16 ∧ data.length = data.length / 16 * 16 := by
  omega

theorem length_encrypted (P : CipherSuite) (volume : OpenVolume) (sector : UInt64) {n : ℕ}
    (hn : 0 < n) (h : buf.length = n * 512) :
    (encrypted P volume sector buf).length = buf.length :=
  length_encryptUnit (blocks_of_sectors hn h).2

theorem length_written (P : CipherSuite) (volume : OpenVolume) (sector : UInt64) {n : ℕ}
    (hn : 0 < n) (h : buf.length = n * 512) :
    (written P volume sector buf).file.contents.length =
      max volume.file.contents.length (volume.position sector + buf.length) := by
  have hlength := length_encrypted P volume sector hn h
  have hne : encrypted P volume sector buf ≠ [] :=
    List.ne_nil_of_length_pos (by omega)
  rw [← hlength]
  exact length_storeAt_eq_max 0 volume.file.contents (volume.position sector) hne

private theorem outcome_encryptSector (cipher : SectorCipher) {n : ℕ} (hn : 0 < n)
    (h : buf.length = n * 512) : outcome (cipher.encryptSector P sector) buf =
      .ok (encryptUnit P cipher.chain sector (buf.length / 16) buf) := by
  obtain ⟨hpos, hblocks⟩ := blocks_of_sectors hn h
  rw [outcome, cipher.encryptSector_eq sector hpos hblocks]

private theorem outcome_decryptSector (cipher : SectorCipher) {n : ℕ} (hn : 0 < n)
    (h : buf.length = n * 512) : outcome (cipher.decryptSector P sector) buf =
      .ok (decryptUnit P cipher.chain sector (buf.length / 16) buf) := by
  obtain ⟨hpos, hblocks⟩ := blocks_of_sectors hn h
  rw [outcome, cipher.decryptSector_eq sector hpos hblocks]

/-- A read succeeds when the file holds the whole range. -/
theorem read_eq_ok_iff (P : CipherSuite) (volume : OpenVolume) (sector : UInt64) {n : ℕ}
    (hn : 0 < n) (out : Bytes) :
    (volume.read P sector (n * 512) noFaults).1 = .ok out ↔
      volume.position sector ≤ maxPosition ∧
        volume.position sector + n * 512 ≤ volume.file.contents.length ∧
        out = decryptUnit P volume.cipher.chain sector (n * 32)
          (slice volume.file.contents (volume.position sector) (n * 512)) := by
  have haligned := aligned_of_sectors (rfl : n * 512 = n * 512)
  have hrun : (volume.read P sector (n * 512) noFaults).1 = .ok out ↔
      ∃ st', readSectors P volume.cipher volume.inner.dataOffset sector (n * 512) noFaults
        volume.file = (.ok out, st') := by
    rw [read, if_neg haligned]
    exact ⟨fun h => ⟨_, Prod.ext h rfl⟩, fun ⟨_, h⟩ => by simp only [h]⟩
  have hdecrypt (hin : volume.position sector + n * 512 ≤ volume.file.contents.length) :
      outcome (volume.cipher.decryptSector P sector)
        (slice volume.file.contents (volume.position sector) (n * 512)) =
      .ok (decryptUnit P volume.cipher.chain sector (n * 32)
        (slice volume.file.contents (volume.position sector) (n * 512))) := by
    have hlen := length_slice_of_le hin
    have hblocks : n * 512 / 16 = n * 32 := by omega
    rw [outcome_decryptSector volume.cipher hn hlen, hlen, hblocks]
  rw [hrun]
  simp only [readSectors, FileIo.bind_eq_ok, FileIo.mapError_eq_ok, seekStart_eq_ok,
    readExact_eq_ok (show n * 512 ≠ 0 by omega), FileIo.lift_eq_ok, noFaults, true_and]
  constructor
  · rintro ⟨_, _, _, ⟨hseek, rfl⟩, _, _, ⟨hin, rfl, rfl⟩, hout, -⟩
    have hplain := (hdecrypt hin).symm.trans hout
    exact ⟨hseek, hin, (Except.ok.inj hplain).symm⟩
  · rintro ⟨hseek, hin, rfl⟩
    exact ⟨_, (), _, ⟨hseek, rfl⟩, _, _, ⟨hin, rfl, rfl⟩, hdecrypt hin, rfl⟩

/-- The sectors behind a buffer follow it in the file. -/
theorem position_add (n : ℕ) : volume.position (sector + UInt64.ofNat n) =
    (volume.position sector + n * 512) % 2 ^ 64 := by
  rw [position_eq, position_eq, firstByte, firstByte, UInt64.toNat_add, UInt64.toNat_ofNat']
  omega

/-- An accepted write stores the encrypted sectors. -/
theorem write_of_accepts {n : ℕ} (hn : 0 < n) (h : buf.length = n * 512)
    (haccepts : volume.Accepts sector buf.length) :
    volume.write P sector buf noFaults = (.ok (), volume.written P sector buf) := by
  have haligned := aligned_of_sectors h
  have hlen := length_encrypted P volume sector hn h
  have hinside := haccepts.inside
  have hrun : writeSectors P volume.cipher volume.inner.dataOffset sector buf noFaults
      volume.file = (.ok (), (volume.written P sector buf).file) := by
    simp only [writeSectors, FileIo.bind_eq_ok, FileIo.mapError_eq_ok, seekStart_eq_ok,
      writeAll_eq_ok, FileIo.lift_eq_ok, noFaults, true_and]
    refine ⟨_, _, ⟨outcome_encryptSector volume.cipher hn h, rfl⟩, (), _, ⟨?_, rfl⟩, ?_, ?_⟩
    · change volume.position sector ≤ maxPosition
      omega
    · change volume.position sector + (encrypted P volume sector buf).length ≤ maxPosition
      omega
    · change _ = FileState.mk _ (volume.position sector + (encrypted P volume sector buf).length) _
      rw [hlen]
      rfl
  have hro : ¬ volume.readOnly = true := Bool.not_eq_true _ ▸ haccepts.writable
  have htriggered : ¬ volume.hiddenProtectionTriggered = true :=
    Bool.not_eq_true _ ▸ haccepts.untriggered
  rw [write, if_neg hro, if_neg htriggered, if_neg haligned]
  simp only [haccepts.unprotected, Bool.false_eq_true, if_false, hrun]
  rfl

/-- Whatever the file answers, what was read stands in it. -/
theorem of_read_eq_ok {plan : FaultPlan} {n : ℕ} (hn : n ≠ 0) {out : Bytes}
    (h : (volume.read P sector n plan).1 = .ok out) :
    volume.position sector ≤ maxPosition ∧
      volume.position sector + n ≤ volume.file.contents.length := by
  by_cases haligned : n % dataUnitSize.toNat = 0
  · rw [read, if_neg (not_not_intro haligned)] at h
    cases hrun : readSectors P volume.cipher volume.inner.dataOffset sector n plan volume.file with
    | mk result file =>
      rw [hrun] at h
      obtain rfl : result = .ok out := h
      simp only [readSectors, FileIo.bind_eq_ok, FileIo.mapError_eq_ok, seekStart_eq_ok,
        readExact_eq_ok hn] at hrun
      obtain ⟨_, _, ⟨-, hseek, rfl⟩, _, _, ⟨-, hin, -⟩, -⟩ := hrun
      exact ⟨hseek, hin⟩
  · rw [read, if_pos haligned] at h
    cases h

/-- A read only moves the position in the file. -/
theorem read_effect (P : CipherSuite) (volume : OpenVolume) (sector : UInt64) (plan : FaultPlan)
    (n : ℕ) : ∃ file, (volume.read P sector n plan).2 = { volume with file := file } ∧
      file.contents = volume.file.contents := by
  have hrun : (readSectors P volume.cipher volume.inner.dataOffset sector n plan
      volume.file).2.contents = volume.file.contents := by
    have hseek : (seekStart (volume.position sector) plan volume.file).2.contents = _ :=
      seekStart_contents
    cases hresult : readSectors P volume.cipher volume.inner.dataOffset sector n plan
        volume.file with
    | mk result file =>
      simp only [readSectors] at hresult
      cases result with
      | ok out =>
        simp only [FileIo.bind_eq_ok, FileIo.mapError_eq_ok, FileIo.lift_eq_ok,
          seekStart_eq_ok] at hresult
        obtain ⟨_, _, ⟨-, -, rfl⟩, _, _, hread, -, rfl⟩ := hresult
        exact (congrArg (fun run => run.2.contents) hread).symm.trans readExact_contents
      | error e =>
        simp only [FileIo.bind_eq_error, FileIo.mapError_eq_error, FileIo.mapError_eq_ok,
          FileIo.lift_eq_error, seekStart_eq_ok] at hresult
        rcases hresult with ⟨_, hfail, -⟩ | ⟨_, _, ⟨-, -, rfl⟩, ⟨_, hfail, -⟩ |
          ⟨_, _, hread, -, rfl⟩⟩
        · exact (congrArg (fun run => run.2.contents) hfail).symm.trans hseek
        · exact (congrArg (fun run => run.2.contents) hfail).symm.trans readExact_contents
        · exact (congrArg (fun run => run.2.contents) hread).symm.trans readExact_contents
  simp only [read]
  split_ifs
  · exact ⟨volume.file, rfl, rfl⟩
  · exact ⟨_, rfl, hrun⟩

/-- Whatever the file answers, only bytes of the range are stored, and none of them when
the file cannot grow that far or has no such position. -/
private theorem writeSectors_effect (P : CipherSuite) (volume : OpenVolume) (sector : UInt64)
    (plan : FaultPlan) {n : ℕ} (hn : 0 < n) (h : buf.length = n * 512) :
    ∃ k, (writeSectors P volume.cipher volume.inner.dataOffset sector buf plan
        volume.file).2.contents = storeAt 0 volume.file.contents (volume.position sector)
          ((encrypted P volume sector buf).take k) ∧
      (plan = noFaults → maxPosition < volume.position sector + buf.length → k = 0) ∧
      (maxPosition < volume.position sector → k = 0 ∧ ∃ e, (writeSectors P volume.cipher
        volume.inner.dataOffset sector buf plan volume.file).1 = .error e) ∧
      (writeSectors P volume.cipher volume.inner.dataOffset sector buf plan volume.file).1 ≠
        .error .hiddenVolumeProtection := by
  have hencrypt : outcome (volume.cipher.encryptSector P sector) buf = _ :=
    outcome_encryptSector volume.cipher hn h
  have hlen := length_encrypted P volume sector hn h
  cases hresult : writeSectors P volume.cipher volume.inner.dataOffset sector buf plan
      volume.file with
  | mk result file =>
    simp only [writeSectors] at hresult
    cases result with
    | ok u =>
      simp only [FileIo.bind_eq_ok, FileIo.mapError_eq_ok, seekStart_eq_ok, writeAll_eq_ok,
        FileIo.lift_eq_ok] at hresult
      obtain ⟨out, _, ⟨hout, rfl⟩, _, _, ⟨-, hseek, rfl⟩, -, hfits, rfl⟩ := hresult
      obtain rfl := Except.ok.inj (hencrypt.symm.trans hout)
      refine ⟨(encrypted P volume sector buf).length, ?_, fun _ hgt => ?_,
        fun hgt => absurd hseek (not_le.mpr hgt), fun hrefused => by cases hrefused⟩
      · rw [List.take_length]
        rfl
      · rw [← hlen] at hgt
        exact absurd hfits (not_le.mpr hgt)
    | error e =>
      simp only [FileIo.bind_eq_error, FileIo.mapError_eq_error, FileIo.mapError_eq_ok,
        FileIo.lift_eq_error, FileIo.lift_eq_ok, hencrypt] at hresult
      rcases hresult with ⟨hfail, -⟩ | ⟨out, _, ⟨hout, rfl⟩, ⟨_, hseek, rfl⟩ |
        ⟨_, _, hseek, _, hwrite, rfl⟩⟩
      · cases hfail
      · have hsame := congrArg (fun run => run.2.contents) hseek
        exact ⟨0, hsame.symm.trans seekStart_contents, fun _ _ => rfl,
          fun _ => ⟨rfl, _, rfl⟩, fun hrefused => by cases hrefused⟩
      · obtain rfl := Except.ok.inj hout
        obtain ⟨-, hinside, rfl⟩ := seekStart_eq_ok.mp hseek
        have hfile := congrArg (fun run => run.2.contents) hwrite
        obtain ⟨k, hk, hzero⟩ := writeAll_contents plan { volume.file with
          pos := volume.position sector, calls := volume.file.calls + 1 } 0
          (encrypted P volume sector buf)
        refine ⟨k, hfile.symm.trans hk, fun hplan hgt => hzero (by rw [hplan]; rfl) ?_,
          fun hgt => absurd hinside (not_le.mpr hgt), fun hrefused => by cases hrefused⟩
        rw [hlen]
        exact hgt

/-- Whatever the file answers, a write only stores bytes of its range, and it leaves
everything but the file and the protection flag alone. -/
theorem write_effect (P : CipherSuite) (volume : OpenVolume) (sector : UInt64) (plan : FaultPlan)
    {n : ℕ} (hn : 0 < n) (h : buf.length = n * 512) :
    ∃ file triggered k, (volume.write P sector buf plan).2 =
        { volume with file := file, hiddenProtectionTriggered := triggered } ∧
      file.contents = storeAt 0 volume.file.contents (volume.position sector)
        ((encrypted P volume sector buf).take k) := by
  have haligned := aligned_of_sectors h
  obtain ⟨k, hk, -⟩ := writeSectors_effect P volume sector plan hn h
  simp only [write, if_neg haligned]
  split_ifs
  · exact ⟨volume.file, volume.hiddenProtectionTriggered, 0, rfl, rfl⟩
  · exact ⟨volume.file, volume.hiddenProtectionTriggered, 0, rfl, rfl⟩
  · exact ⟨volume.file, true, 0, rfl, rfl⟩
  · exact ⟨_, volume.hiddenProtectionTriggered, k, rfl, hk⟩

/-- What a write to a writable volume can do, whatever the file answers. -/
theorem write_cases (P : CipherSuite) (volume : OpenVolume) (sector : UInt64) (plan : FaultPlan)
    {n : ℕ} (hn : 0 < n) (h : buf.length = n * 512) (hro : volume.readOnly = false) :
    (volume.write P sector buf plan = (.error .hiddenVolumeProtection,
        { volume with hiddenProtectionTriggered := true }) ∧
      (volume.hiddenProtectionTriggered = true ∨ volume.checkProtectedRange
        (hostPosition volume.inner.dataOffset sector).val (UInt64.ofNat buf.length) = true)) ∨
    ∃ result file k, volume.write P sector buf plan = (result, { volume with file := file }) ∧
      result ≠ .error .hiddenVolumeProtection ∧
      volume.hiddenProtectionTriggered = false ∧
      volume.checkProtectedRange (hostPosition volume.inner.dataOffset sector).val
        (UInt64.ofNat buf.length) = false ∧
      file.contents = storeAt 0 volume.file.contents (volume.position sector)
        ((encrypted P volume sector buf).take k) ∧
      (maxPosition < volume.position sector → k = 0 ∧ ∃ e, result = .error e) := by
  have haligned := aligned_of_sectors h
  have hwritable : ¬ volume.readOnly = true := Bool.not_eq_true _ ▸ hro
  obtain ⟨k, hk, -, hzero, hresult⟩ := writeSectors_effect P volume sector plan hn h
  simp only [write, if_neg hwritable, if_neg haligned]
  split_ifs with htriggered hprotected
  · refine Or.inl ⟨?_, Or.inl htriggered⟩
    rw [← htriggered]
  · exact Or.inl ⟨rfl, Or.inr hprotected⟩
  · exact Or.inr ⟨_, _, k, rfl, hresult, Bool.not_eq_true _ ▸ htriggered,
      Bool.not_eq_true _ ▸ hprotected, hk, hzero⟩

/-- A write leaves everything but the file and the protection flag alone. -/
theorem write_frame (P : CipherSuite) (volume : OpenVolume) (sector : UInt64) (plan : FaultPlan)
    (buf : Bytes) : ∃ file triggered, (volume.write P sector buf plan).2 =
      { volume with file := file, hiddenProtectionTriggered := triggered } := by
  simp only [write]
  split_ifs
  · exact ⟨volume.file, volume.hiddenProtectionTriggered, rfl⟩
  · exact ⟨volume.file, volume.hiddenProtectionTriggered, rfl⟩
  · exact ⟨volume.file, volume.hiddenProtectionTriggered, rfl⟩
  · exact ⟨volume.file, true, rfl⟩
  · exact ⟨_, volume.hiddenProtectionTriggered, rfl⟩

/-- A write that is refused leaves the file as it is. Hitting the protected range makes the
volume refuse all later writes. -/
theorem write_of_refused {n : ℕ} (hn : 0 < n) (h : buf.length = n * 512)
    (hrefused : ¬ volume.Accepts sector buf.length) :
    ∃ file triggered, (volume.write P sector buf noFaults).2 =
        { volume with file := file, hiddenProtectionTriggered := triggered } ∧
      file.contents = volume.file.contents ∧
      (triggered = false → volume.readOnly = false → volume.hiddenProtectionTriggered = false ∧
        volume.checkProtectedRange (hostPosition volume.inner.dataOffset sector).val
          (UInt64.ofNat buf.length) = false) ∧
      (volume.checkProtectedRange (hostPosition volume.inner.dataOffset sector).val
        (UInt64.ofNat buf.length) = false → triggered = volume.hiddenProtectionTriggered) := by
  have haligned := aligned_of_sectors h
  simp only [write, if_neg haligned]
  split_ifs with hro htriggered hprotected
  · exact ⟨volume.file, volume.hiddenProtectionTriggered, rfl, rfl,
      fun _ hwritable => absurd (hro.symm.trans hwritable) (by decide), fun _ => rfl⟩
  · exact ⟨volume.file, volume.hiddenProtectionTriggered, rfl, rfl,
      fun hoff => absurd (htriggered.symm.trans hoff) (by decide), fun _ => rfl⟩
  · exact ⟨volume.file, true, rfl, rfl, fun hoff => absurd hoff (by decide),
      fun hfree => absurd (hprotected.symm.trans hfree) (by decide)⟩
  · rw [Bool.not_eq_true] at hro htriggered hprotected
    have htoo : maxPosition < volume.position sector + buf.length := by
      by_contra hfits
      exact hrefused ⟨hro, htriggered, hprotected, not_lt.mp hfits⟩
    obtain ⟨k, hk, hzero, -⟩ := writeSectors_effect P volume sector noFaults hn h
    rw [hzero rfl htoo, List.take_zero, storeAt_nil] at hk
    exact ⟨_, volume.hiddenProtectionTriggered, rfl, hk, fun _ _ => ⟨htriggered, hprotected⟩,
      fun _ => rfl⟩

end Specs

end OpenVolume

end Oxhide.OpenVolumes
