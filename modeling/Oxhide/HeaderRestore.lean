import Oxhide.ChangedHeaders

/-! # Restoring the first header from its backup

The backup header is read, opened with the credentials and then written to the first
slot and once more to its own. The second write is not allowed to fail the operation.
In a file with little more room than two slots it overlaps the first one. -/
namespace Oxhide.HeaderRestore
open BlockCiphers CipherTypes ChangedHeaders FaultyFile HeaderFormat KeyDerivation ListSplice
  OpeningSearch PasswordChange SealedHeaders VolumeErrors VolumeOpening WordBytes

def backupOffset (fileEnd : ℕ) : ℕ := fileEnd - 2 * volumeHeaderSize

/-- The result of a computation is not looked at. -/
def ignored {ε ε' β : Type} (m : FileIo UInt8 ε β) : FileIo UInt8 ε' Unit := fun plan st =>
  (.ok (), (m plan st).2)

def restoreKdfs (K : KdfLibrary) (kdf : Option KdfAlgorithm) (pim : Option Int32) :
    List KdfCandidate :=
  match kdf with
  | some k =>
    let pimVal := pim.getD 0
    [makeKdfCandidate K k pimVal]
  | none => autoKdfCandidates K pim

/-- The backup header, once it has been opened. -/
def validatedBackup (P : CipherSuite) (K : KdfLibrary) (credentials : Credentials)
    (kdf : Option KdfAlgorithm) (pim : Option Int32) : FileIo UInt8 VolumeError (ℕ × Bytes) := do
  let fileEnd ← FileIo.mapError .ioError seekEnd
  if fileEnd < 2 * volumeHeaderSize then
    FileIo.throw (.invalidFormat "File too small to contain a backup header")
  FileIo.mapError .ioError (seekStart (backupOffset fileEnd))
  let backupHeader ← FileIo.mapError .ioError (readExact volumeHeaderSize)
  let pw ← FileIo.lift credentials.mixed
  let effective := backupHeader.take volumeHeaderEffectiveSize
  let _ ← FileIo.lift (tryOpen P effective pw (restoreKdfs K kdf pim) true)
  return (backupOffset fileEnd, backupHeader)

/-- The refresh of the backup header is best-effort. -/
def restoreVolumeHeader (P : CipherSuite) (K : KdfLibrary) (credentials : Credentials)
    (kdf : Option KdfAlgorithm) (pim : Option Int32) : FileIo UInt8 VolumeError Unit := do
  let (backupOffset, backupHeader) ← validatedBackup P K credentials kdf pim
  writeHeaderAt 0 backupHeader
  ignored (writeHeaderAt backupOffset backupHeader)

section Validation
variable {P : CipherSuite} {K : KdfLibrary} {credentials : Credentials}
  {kdf : Option KdfAlgorithm} {pim : Option Int32} {plan : FaultPlan} {st st' : FileState UInt8}

/-- The slot that holds the backup header. -/
def backupSlot (contents : Bytes) : Bytes :=
  slice contents (backupOffset contents.length) volumeHeaderSize

/-- The credentials open the backup header. -/
def Validates (P : CipherSuite) (K : KdfLibrary) (credentials : Credentials)
    (kdf : Option KdfAlgorithm) (pim : Option Int32) (contents : Bytes) : Prop :=
  ∃ password r, credentials.mixed = .ok password ∧
    tryOpen P ((backupSlot contents).take volumeHeaderEffectiveSize) password
      (restoreKdfs K kdf pim) true = .ok r

theorem length_backupSlot {contents : Bytes} (h : 2 * volumeHeaderSize ≤ contents.length) :
    (backupSlot contents).length = volumeHeaderSize := by
  apply length_slice_of_le
  rw [backupOffset]
  omega

/-- Up to the validation the file is only read. -/
theorem validatedBackup_contents (plan : FaultPlan) (st : FileState UInt8) :
    (validatedBackup P K credentials kdf pim plan st).2.contents = st.contents := by
  have hreads : FileIo.KeepsContents (validatedBackup P K credentials kdf pim) := by
    refine .bind (.mapError (fun _ _ => seekEnd_contents) _) fun fileEnd => ?_
    have hrest : FileIo.KeepsContents (ε := VolumeError) (do
        FileIo.mapError .ioError (seekStart (backupOffset fileEnd))
        let backupHeader ← FileIo.mapError .ioError (readExact volumeHeaderSize)
        let pw ← FileIo.lift credentials.mixed
        let _ ← FileIo.lift (tryOpen P (backupHeader.take volumeHeaderEffectiveSize) pw
          (restoreKdfs K kdf pim) true)
        return (backupOffset fileEnd, backupHeader)) :=
      .bind (.mapError (fun _ _ => seekStart_contents) _) fun _ =>
        .bind (.mapError (fun _ _ => readExact_contents) _) fun _ =>
          .bind (.lift _) fun _ => .bind (.lift _) fun _ => .pure _
    split_ifs
    · exact .bind (.throw _) fun _ => hrest
    · exact hrest
  exact hreads plan st

theorem validatedBackup_eq_ok {offset : ℕ} {backupHeader : Bytes} :
    validatedBackup P K credentials kdf pim plan st = (.ok (offset, backupHeader), st') ↔
      plan st.calls = none ∧ plan (st.calls + 1) = none ∧ plan (st.calls + 2) = none ∧
        2 * volumeHeaderSize ≤ st.contents.length ∧
        backupOffset st.contents.length ≤ maxPosition ∧
        Validates P K credentials kdf pim st.contents ∧
        offset = backupOffset st.contents.length ∧ backupHeader = backupSlot st.contents ∧
        st' = ⟨st.contents, offset + volumeHeaderSize, st.calls + 3⟩ := by
  have hsize : volumeHeaderSize ≠ 0 := by decide
  rw [validatedBackup, FileIo.bind_eq_ok]
  simp only [FileIo.mapError_eq_ok, seekEnd_eq_ok]
  constructor
  · rintro ⟨_, _, ⟨hend, rfl, rfl⟩, hrest⟩
    by_cases hshort : st.contents.length < 2 * volumeHeaderSize
    · rw [if_pos hshort, FileIo.bind_eq_ok] at hrest
      obtain ⟨_, _, hthrow, -⟩ := hrest
      exact absurd hthrow FileIo.throw_ne_ok
    · simp only [if_neg hshort, FileIo.bind_eq_ok, FileIo.mapError_eq_ok, seekStart_eq_ok,
        readExact_eq_ok hsize, FileIo.lift_eq_ok] at hrest
      obtain ⟨_, _, ⟨hseek, hmax, hst₁⟩, bytes, _, ⟨hread, -, hbytes, hst₂⟩, password, _,
        ⟨hmixed, hst₃⟩, r, _, ⟨hopen, hst₄⟩, hpure⟩ := hrest
      rw [hst₁] at hread hbytes hst₂
      obtain ⟨hresult, hst⟩ := Prod.mk.inj hpure
      obtain ⟨hoffset, hheader⟩ := Prod.mk.inj (Except.ok.inj hresult)
      rw [hbytes] at hopen hheader
      refine ⟨hend, hseek, hread, not_lt.mp hshort, hmax, ⟨password, r, hmixed, hopen⟩,
        hoffset.symm, hheader.symm, ?_⟩
      rw [← hst, hst₄, hst₃, hst₂, ← hoffset]
  · rintro ⟨hend, hseek, hread, hlong, hmax, ⟨password, r, hmixed, hopen⟩, hoffset, hheader, hst⟩
    have hin : backupOffset st.contents.length + volumeHeaderSize ≤ st.contents.length := by
      rw [backupOffset]
      omega
    refine ⟨_, _, ⟨hend, rfl, rfl⟩, ?_⟩
    simp only [if_neg (not_lt.mpr hlong), FileIo.bind_eq_ok, FileIo.mapError_eq_ok, seekStart_eq_ok,
      readExact_eq_ok hsize, FileIo.lift_eq_ok]
    refine ⟨(), ⟨st.contents, backupOffset st.contents.length, st.calls + 1 + 1⟩, ?_, ?_⟩
    · exact ⟨hseek, hmax, rfl⟩
    refine ⟨backupSlot st.contents, ⟨st.contents, backupOffset st.contents.length +
      volumeHeaderSize, st.calls + 1 + 1 + 1⟩, ?_, ?_⟩
    · exact ⟨hread, hin, rfl, rfl⟩
    refine ⟨password, _, ⟨hmixed, rfl⟩, r, _, ⟨hopen, rfl⟩, ?_⟩
    rw [hst, hoffset, hheader]
    rfl

end Validation

section Effect
variable {P : CipherSuite} {K : KdfLibrary} {credentials : Credentials}
  {kdf : Option KdfAlgorithm} {pim : Option Int32} {plan : FaultPlan} {st st' : FileState UInt8}

private theorem writeHeaderAt_stored {offset : ℕ} {headerBuf : Bytes}
    (h : writeHeaderAt offset headerBuf plan st = (.ok (), st')) :
    st'.contents = storeAt 0 st.contents offset headerBuf := by
  simp only [writeHeaderAt, FileIo.bind_eq_ok, FileIo.mapError_eq_ok, seekStart_eq_ok,
    writeAll_eq_ok, flush_eq_ok] at h
  obtain ⟨_, _, ⟨-, -, hseek⟩, _, _, ⟨-, -, hwrite⟩, -, hflush⟩ := h
  rw [hflush, hwrite, hseek]
  rfl

/-- Calls of a run before the first write. -/
def callsBeforeWrite : ℕ := 4

/-- What fails before the first write leaves the file as it was. -/
theorem restoreVolumeHeader_error {e : VolumeError}
    (h : restoreVolumeHeader P K credentials kdf pim plan st = (.error e, st'))
    (hfew : st'.calls ≤ st.calls + callsBeforeWrite) : st'.contents = st.contents := by
  rw [restoreVolumeHeader, FileIo.bind_eq_error] at h
  rcases h with hbackup | ⟨⟨offset, backupHeader⟩, st₁, hbackup, hwrites⟩
  · have hkeeps : (validatedBackup P K credentials kdf pim plan st).2.contents = st.contents :=
      validatedBackup_contents plan st
    rw [hbackup] at hkeeps
    exact hkeeps
  · obtain ⟨-, -, -, hlong, -, -, -, hheader, hst⟩ := validatedBackup_eq_ok.mp hbackup
    have hcontents : st₁.contents = st.contents := by rw [hst]
    have hcalls : st₁.calls = st.calls + 3 := by rw [hst]
    have hlen : backupHeader.length = volumeHeaderSize := by
      rw [hheader, length_backupSlot hlong]
    have hin : 0 + backupHeader.length ≤ st₁.contents.length := by
      rw [hcontents]
      omega
    obtain ⟨k, hstored, hnone, -⟩ := writeHeaderAt_effect plan st₁ hin
    rcases FileIo.bind_eq_error.mp hwrites with hfirst | ⟨_, _, -, hsecond⟩
    · rw [hfirst] at hstored hnone
      rw [callsBeforeWrite] at hfew
      rw [hstored, hnone (by simp only; omega), List.take_zero, splice_nil, hcontents]
    · cases hsecond

/-- The backup header is in the first slot, under as much of it as the second write
stored in its own. -/
theorem restoreVolumeHeader_ok
    (h : restoreVolumeHeader P K credentials kdf pim plan st = (.ok (), st')) :
    Validates P K credentials kdf pim st.contents ∧
      ∃ k, st'.contents = splice (splice st.contents 0 (backupSlot st.contents))
        (backupOffset st.contents.length) ((backupSlot st.contents).take k) := by
  rw [restoreVolumeHeader, FileIo.bind_eq_ok] at h
  obtain ⟨⟨offset, backupHeader⟩, st₁, hbackup, hwrites⟩ := h
  obtain ⟨-, -, -, hlong, -, hvalid, hoffset, hheader, hst⟩ := validatedBackup_eq_ok.mp hbackup
  obtain ⟨_, st₂, hfirst, hsecond⟩ := FileIo.bind_eq_ok.mp hwrites
  have hlen := length_backupSlot hlong
  have hfirstSlot : st₂.contents = splice st.contents 0 (backupSlot st.contents) := by
    rw [writeHeaderAt_stored hfirst, hst, hheader, storeAt_of_le (Nat.zero_le _)]
  have hsame : (splice st.contents 0 (backupSlot st.contents)).length = st.contents.length :=
    length_splice (by omega)
  have hin : backupOffset st.contents.length + (backupSlot st.contents).length ≤
      st₂.contents.length := by
    rw [hfirstSlot, hsame, hlen, backupOffset]
    omega
  obtain ⟨k, hstored, -⟩ := writeHeaderAt_effect plan st₂ hin
  refine ⟨hvalid, k, ?_⟩
  have hst' : st' = (writeHeaderAt offset backupHeader plan st₂).2 :=
    (congrArg Prod.snd hsecond).symm
  rw [hst', hoffset, hheader, hstored, hfirstSlot]

private theorem restoreVolumeHeader_of_ok {offset : ℕ} {backupHeader : Bytes}
    (h : validatedBackup P K credentials kdf pim plan st = (.ok (offset, backupHeader), st')) :
    restoreVolumeHeader P K credentials kdf pim plan st = (do
      writeHeaderAt 0 backupHeader
      ignored (writeHeaderAt offset backupHeader)) plan st' :=
  FileIo.bind_of_ok h

/-- Without faults the second write is a whole one. -/
theorem exists_restored {contents : Bytes} (hlong : 2 * volumeHeaderSize ≤ contents.length)
    (hmax : contents.length ≤ maxPosition)
    (hvalid : Validates P K credentials kdf pim contents) :
    ∃ st', restoreVolumeHeader P K credentials kdf pim noFaults ⟨contents, 0, 0⟩ = (.ok (), st') ∧
      st'.contents = splice (splice contents 0 (backupSlot contents))
        (backupOffset contents.length) (backupSlot contents) := by
  have hlen := length_backupSlot hlong
  have hin : backupOffset contents.length + (backupSlot contents).length ≤ contents.length := by
    rw [hlen, backupOffset]
    omega
  have hsame : (splice contents 0 (backupSlot contents)).length = contents.length :=
    length_splice (by omega)
  have hfits : backupOffset contents.length ≤ maxPosition := by omega
  have hroom : 0 + (backupSlot contents).length ≤ contents.length := by omega
  have hbackup : validatedBackup P K credentials kdf pim noFaults ⟨contents, 0, 0⟩ =
      (.ok (backupOffset contents.length, backupSlot contents),
        ⟨contents, backupOffset contents.length + volumeHeaderSize, 3⟩) :=
    validatedBackup_eq_ok.mpr ⟨rfl, rfl, rfl, hlong, hfits, hvalid, rfl, rfl, rfl⟩
  have hfirst : writeHeaderAt 0 (backupSlot contents) noFaults
      ⟨contents, backupOffset contents.length + volumeHeaderSize, 3⟩ =
        (.ok (), ⟨splice contents 0 (backupSlot contents), 0 + (backupSlot contents).length, 6⟩) :=
    (writeHeaderAt_eq_ok ⟨contents, _, 3⟩ hroom hmax).mpr ⟨rfl, rfl, rfl, rfl⟩
  have hsecond : writeHeaderAt (backupOffset contents.length) (backupSlot contents) noFaults
      ⟨splice contents 0 (backupSlot contents), 0 + (backupSlot contents).length, 6⟩ =
        (.ok (), ⟨splice (splice contents 0 (backupSlot contents)) (backupOffset contents.length)
          (backupSlot contents), backupOffset contents.length + (backupSlot contents).length, 9⟩) :=
    (writeHeaderAt_eq_ok ⟨splice contents 0 (backupSlot contents), _, 6⟩ (hin.trans_eq hsame.symm)
      (hsame.trans_le hmax)).mpr ⟨rfl, rfl, rfl, rfl⟩
  rw [restoreVolumeHeader_of_ok hbackup, FileIo.bind_of_ok hfirst, ignored, hsecond]
  exact ⟨_, rfl, rfl⟩

end Effect

section Restored

/-- The header that begins `bs` repeats with period `d`. Any header does for 0, and for a
period that is not shorter than a header. -/
def Repeats (bs : Bytes) (d : ℕ) : Prop :=
  ∀ i, d ≤ i → i < volumeHeaderEffectiveSize → bs[i]? = bs[i - d]?

/-- What an operation on the headers has to leave alone. -/
def OutsideSlots (fileEnd i : ℕ) : Prop :=
  volumeHeaderSize ≤ i ∧ (i < backupOffset fileEnd ∨ backupOffset fileEnd + volumeHeaderSize ≤ i)

/-- The promise of a restore, for one run. -/
structure Restores (P : CipherSuite) (K : KdfLibrary) (credentials : Credentials)
    (kdf : Option KdfAlgorithm) (pim : Option Int32) (plan : FaultPlan) (st : FileState UInt8) :
    Prop where
  unchanged : ∀ e st', restoreVolumeHeader P K credentials kdf pim plan st = (.error e, st') →
    st'.calls ≤ st.calls + callsBeforeWrite → st'.contents = st.contents
  header : ∀ st', restoreVolumeHeader P K credentials kdf pim plan st = (.ok (), st') →
    headerAt st'.contents 0 = (backupSlot st.contents).take volumeHeaderEffectiveSize
  opens : ∀ st', restoreVolumeHeader P K credentials kdf pim plan st = (.ok (), st') →
    ∃ password r, credentials.mixed = .ok password ∧
      tryOpen P (slice st'.contents 0 volumeHeaderSize) password (restoreKdfs K kdf pim) false =
        .ok r
  outside : ∀ st', restoreVolumeHeader P K credentials kdf pim plan st = (.ok (), st') →
    ∀ i, OutsideSlots st.contents.length i → st'.contents[i]? = st.contents[i]?

variable {P : CipherSuite} {K : KdfLibrary} {credentials : Credentials}
  {kdf : Option KdfAlgorithm} {pim : Option Int32} {contents : Bytes}
  (hlong : 2 * volumeHeaderSize ≤ contents.length)
include hlong

/-- The file after both writes, byte by byte. -/
private theorem getElem?_restored (k i : ℕ) :
    (splice (splice contents 0 (backupSlot contents)) (backupOffset contents.length)
        ((backupSlot contents).take k))[i]? =
      if backupOffset contents.length ≤ i ∧
          i < backupOffset contents.length + min k volumeHeaderSize then
        (backupSlot contents)[i - backupOffset contents.length]?
      else if i < volumeHeaderSize then (backupSlot contents)[i]?
      else contents[i]? := by
  have hlen := length_backupSlot hlong
  have hsame : (splice contents 0 (backupSlot contents)).length = contents.length :=
    length_splice (by omega)
  have hfit : backupOffset contents.length ≤
      (splice contents 0 (backupSlot contents)).length := by
    rw [hsame, backupOffset]
    omega
  rw [getElem?_splice hfit, getElem?_splice (Nat.zero_le _), List.length_take, hlen]
  simp only [Nat.not_lt_zero, if_false, Nat.zero_add, Nat.sub_zero]
  by_cases hlow : i < backupOffset contents.length
  · have hout : ¬ (backupOffset contents.length ≤ i ∧
        i < backupOffset contents.length + min k volumeHeaderSize) := by omega
    rw [if_pos hlow, if_neg hout]
  · by_cases hin : i < backupOffset contents.length + min k volumeHeaderSize
    · rw [if_neg hlow, if_pos hin, if_pos ⟨not_lt.mp hlow, hin⟩, List.getElem?_take,
        if_pos (by omega)]
    · have hout : ¬ (backupOffset contents.length ≤ i ∧
          i < backupOffset contents.length + min k volumeHeaderSize) := by omega
      rw [if_neg hlow, if_neg hin, if_neg hout]

private theorem length_restored (k : ℕ) :
    (splice (splice contents 0 (backupSlot contents)) (backupOffset contents.length)
      ((backupSlot contents).take k)).length = contents.length := by
  have hlen := length_backupSlot hlong
  have hsame : (splice contents 0 (backupSlot contents)).length = contents.length :=
    length_splice (by omega)
  rw [length_splice, hsame]
  rw [hsame, List.length_take, hlen, backupOffset]
  omega

/-- A header that repeats with the distance of the slots survives the second write. -/
private theorem headerAt_restored (hrepeats : Repeats (backupSlot contents)
    (backupOffset contents.length)) (k : ℕ) :
    headerAt (splice (splice contents 0 (backupSlot contents)) (backupOffset contents.length)
        ((backupSlot contents).take k)) 0 =
      (backupSlot contents).take volumeHeaderEffectiveSize := by
  have hsizes : volumeHeaderEffectiveSize ≤ volumeHeaderSize := by decide
  apply List.ext_getElem?
  intro i
  rw [headerAt, getElem?_slice, List.getElem?_take, Nat.zero_add]
  by_cases hi : i < volumeHeaderEffectiveSize
  · rw [if_pos hi, if_pos hi, getElem?_restored hlong]
    by_cases hover : backupOffset contents.length ≤ i ∧
        i < backupOffset contents.length + min k volumeHeaderSize
    · rw [if_pos hover, hrepeats i hover.1 hi]
    · rw [if_neg hover, if_pos (hi.trans_le hsizes)]
  · rw [if_neg hi, if_neg hi]

/-- A first slot that holds a validated header opens. -/
private theorem opens_of_header {contents' : Bytes}
    (hvalid : Validates P K credentials kdf pim contents)
    (hlen : contents'.length = contents.length)
    (hheader : headerAt contents' 0 = (backupSlot contents).take volumeHeaderEffectiveSize) :
    ∃ password r, credentials.mixed = .ok password ∧
      tryOpen P (slice contents' 0 volumeHeaderSize) password (restoreKdfs K kdf pim) false =
        .ok r := by
  have hsizes : volumeHeaderEffectiveSize ≤ volumeHeaderSize := by decide
  have hslot := length_backupSlot hlong
  have heffective : volumeHeaderEffectiveSize ≤
      ((backupSlot contents).take volumeHeaderEffectiveSize).length := by
    rw [List.length_take]
    omega
  have hfirst : volumeHeaderEffectiveSize ≤ (slice contents' 0 volumeHeaderSize).length := by
    rw [length_slice]
    omega
  have hsame : (slice contents' 0 volumeHeaderSize).take volumeHeaderEffectiveSize =
      ((backupSlot contents).take volumeHeaderEffectiveSize).take volumeHeaderEffectiveSize := by
    rw [← headerAt_eq rfl, hheader, List.take_take, Nat.min_self]
  obtain ⟨password, r, hmixed, hopen⟩ := hvalid
  obtain ⟨kdf, hkdf, cipher, result, hattempt⟩ := (exists_tryOpen_iff heffective).mp ⟨r, hopen⟩
  rw [← hsame] at hattempt
  obtain ⟨r', hopen'⟩ := (exists_tryOpen_iff hfirst).mpr ⟨kdf, hkdf, cipher, result, hattempt⟩
  exact ⟨password, r', hmixed, hopen'⟩

/-- A restore keeps its promise on a header that is not overwritten or repeats. -/
theorem restores_of_repeats (hrepeats : Validates P K credentials kdf pim contents →
      Repeats (backupSlot contents) (backupOffset contents.length))
    (plan : FaultPlan) (pos calls : ℕ) :
    Restores P K credentials kdf pim plan ⟨contents, pos, calls⟩ where
  unchanged e st' h hfew := restoreVolumeHeader_error h hfew
  header st' h := by
    obtain ⟨hvalid, k, hcontents⟩ := restoreVolumeHeader_ok h
    rw [hcontents]
    exact headerAt_restored hlong (hrepeats hvalid) k
  opens st' h := by
    obtain ⟨hvalid, k, hcontents⟩ := restoreVolumeHeader_ok h
    rw [hcontents]
    exact opens_of_header hlong hvalid (length_restored hlong k)
      (headerAt_restored hlong (hrepeats hvalid) k)
  outside st' h i hi := by
    obtain ⟨hvalid, k, hcontents⟩ := restoreVolumeHeader_ok h
    obtain ⟨hfirst, hbackup⟩ : volumeHeaderSize ≤ i ∧ (i < backupOffset contents.length ∨
      backupOffset contents.length + volumeHeaderSize ≤ i) := hi
    rw [hcontents, getElem?_restored hlong, if_neg (by omega), if_neg (by omega)]

/-- Without faults the header is damaged when it does not repeat. -/
theorem repeats_of_restores (hvalid : Validates P K credentials kdf pim contents)
    (h : Restores P K credentials kdf pim noFaults ⟨contents, 0, 0⟩) :
    Repeats (backupSlot contents) (backupOffset contents.length) := by
  intro i hd hi
  have hsizes : volumeHeaderEffectiveSize ≤ volumeHeaderSize := by decide
  have hlen := length_backupSlot hlong
  by_cases hmax : contents.length ≤ maxPosition
  · obtain ⟨st', hrun, hcontents⟩ := exists_restored hlong hmax hvalid
    have hheader := congrArg (·[i]?) (h.header st' hrun)
    have hwhole := getElem?_restored hlong volumeHeaderSize i
    rw [List.take_of_length_le hlen.le, Nat.min_self,
      if_pos ⟨hd, by omega⟩] at hwhole
    simp only [headerAt, getElem?_slice, List.getElem?_take, if_pos hi, Nat.zero_add] at hheader
    rw [← hheader, hcontents, hwhole]
  · have hhuge : maxPosition = 2 ^ 63 - 1 := rfl
    rw [backupOffset, volumeHeaderSize] at hd
    rw [volumeHeaderEffectiveSize] at hi
    omega

end Restored

/-- A restore keeps its promise exactly when the header it validates repeats with the
distance of the two slots, which every header does unless they are less than a header
apart. -/
theorem restores_iff (P : CipherSuite) (K : KdfLibrary) (credentials : Credentials)
    (kdf : Option KdfAlgorithm) (pim : Option Int32) (contents : Bytes)
    (hlong : 2 * volumeHeaderSize ≤ contents.length) :
    (∀ plan pos calls, Restores P K credentials kdf pim plan ⟨contents, pos, calls⟩) ↔
      (Validates P K credentials kdf pim contents →
        Repeats (backupSlot contents) (backupOffset contents.length)) := by
  constructor
  · intro h hvalid
    exact repeats_of_restores hlong hvalid (h noFaults 0 0)
  · intro hrepeats plan pos calls
    exact restores_of_repeats hlong hrepeats plan pos calls

theorem repeats_of_apart {bs : Bytes} {d : ℕ} (h : d = 0 ∨ volumeHeaderEffectiveSize ≤ d) :
    Repeats bs d := by
  intro i hd hi
  cases h with
  | inl hzero => rw [hzero, Nat.sub_zero]
  | inr hapart => omega

section Sample

/-- The slots of a sample file are further apart than a header is long. -/
theorem restores_sampleFile : Restores maskingSuite fittingLibrary ⟨[0x6F, 0x6F], []⟩
    (some .pbkdf2Sha512) (some 1) noFaults ⟨sampleFile 0x6F, 0, 0⟩ := by
  obtain ⟨hlen, -⟩ := sampleFile_spec 0x6F
  have hapart : volumeHeaderEffectiveSize ≤ backupOffset (sampleFile 0x6F).length := by
    rw [hlen]
    decide
  have hall := (restores_iff maskingSuite fittingLibrary ⟨[0x6F, 0x6F], []⟩
    (some .pbkdf2Sha512) (some 1) (sampleFile 0x6F) (by rw [hlen]; decide)).mpr
      fun _ => repeats_of_apart (Or.inr hapart)
  exact hall noFaults 0 0

/-- A backup header 256 bytes behind the start of the file. -/
def overlappingFile : Bytes :=
  List.replicate 256 0 ++ (outerSlot 0x6F ++ List.replicate volumeHeaderSize 0)

private theorem overlappingFile_spec :
    2 * volumeHeaderSize ≤ overlappingFile.length ∧ backupOffset overlappingFile.length = 256 ∧
      backupSlot overlappingFile = outerSlot 0x6F := by
  have hslot : (outerSlot 0x6F).length = volumeHeaderSize :=
    (slotBytes_zeroChain (saltOf 0x6F 0x6F) outerHeader).1
  have hlen : overlappingFile.length = 256 + (volumeHeaderSize + volumeHeaderSize) := by
    rw [overlappingFile, List.length_append, List.length_append, List.length_replicate,
      List.length_replicate, hslot]
  have hoffset : backupOffset overlappingFile.length = 256 := by
    rw [hlen, backupOffset]
    omega
  refine ⟨by omega, hoffset, ?_⟩
  rw [backupSlot, hoffset, overlappingFile, slice_append_right (List.length_replicate).le,
    List.length_replicate, Nat.sub_self, slice_append_left (by omega), slice_all hslot.le]

/-- The second write leaves a part of the header in the middle of it. -/
theorem not_restores_overlappingFile : 2 * volumeHeaderSize ≤ overlappingFile.length ∧
    ¬ ∀ plan pos calls, Restores maskingSuite fittingLibrary ⟨[0x6F, 0x6F], []⟩
      (some .pbkdf2Sha512) (some 1) plan ⟨overlappingFile, pos, calls⟩ := by
  obtain ⟨hlong, hoffset, hslot⟩ := overlappingFile_spec
  obtain ⟨hslotLen, htake⟩ := slotBytes_zeroChain (saltOf 0x6F 0x6F) outerHeader
  have heffective : ((saltOf 0x6F 0x6F).1 ++ encryptedArea outerHeader).length =
      volumeHeaderEffectiveSize := by
    rw [← htake, List.length_take, hslotLen]
    rfl
  have hvalid : Validates maskingSuite fittingLibrary ⟨[0x6F, 0x6F], []⟩ (some .pbkdf2Sha512)
      (some 1) overlappingFile := by
    have haccepts := accepts_fitting 1 (saltOf 0x6F 0x6F) rfl wellformed_outerHeader false
    rw [← List.take_of_length_le heffective.le] at haccepts
    obtain ⟨r, hopen⟩ : ∃ r, tryOpen maskingSuite ((saltOf 0x6F 0x6F).1 ++
        encryptedArea outerHeader) [0x6F, 0x6F]
        (restoreKdfs fittingLibrary (some .pbkdf2Sha512) (some 1)) true = .ok r :=
      (exists_tryOpen_iff heffective.ge).mpr ⟨_, List.mem_singleton_self _, .aes, _, haccepts⟩
    refine ⟨[0x6F, 0x6F], r, rfl, ?_⟩
    rw [hslot, outerSlot, htake]
    exact hopen
  refine ⟨hlong, fun h => ?_⟩
  have hrepeats := repeats_of_restores hlong hvalid (h noFaults 0 0) 256 hoffset.le (by decide)
  have hread (i : ℕ) (hi : i < volumeHeaderEffectiveSize) :
      (outerSlot 0x6F)[i]? = ((saltOf 0x6F 0x6F).1 ++ encryptedArea outerHeader)[i]? := by
    rw [← htake, List.getElem?_take, if_pos hi, outerSlot]
  have hkey : ((saltOf 0x6F 0x6F).1 ++ encryptedArea outerHeader)[256]? = some 0 := by
    have hsalt := (saltOf 0x6F 0x6F).2
    rw [List.getElem?_append_right (by rw [hsalt]; decide), hsalt, encryptedArea_eq,
      List.getElem?_append_right (by rw [length_headerFields]; decide), length_headerFields]
    rfl
  rw [hoffset, hslot, Nat.sub_self, hread 256 (by decide), hread 0 (by decide), hkey] at hrepeats
  exact absurd (Option.some.inj hrepeats) (by decide)

end Sample

end Oxhide.HeaderRestore
