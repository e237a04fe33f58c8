import Oxhide.ChangedHeaders
import Oxhide.UserStoreLaw

/-! # The protected range of an outer volume

An outer volume opened with the credentials of the hidden one refuses a write that
overlaps the hidden data, and after the first such write it refuses every write.
`Guarded` is what all states of a run have in common; that the end of a write can wrap
does not matter, since a range that wraps begins behind the largest position of a file. -/
namespace Oxhide.HiddenProtection
open BlockCiphers ChangedHeaders FaultyFile HeaderFormat HeaderSlots KeyDerivation OpeningSearch
  OpenVolumes SealedHeaders SectorCiphers UserStoreLaw VolumeCreation VolumeErrors VolumeOpening
  WordBytes

/-- The longest a slice can be, `isize::MAX`. -/
def maxSliceLength : ℕ := 2 ^ 63 - 1

/-- One call of `write`, with the faults of the file during it. -/
structure WriteCall where
  sector : UInt64
  buf : Bytes
  plan : FaultPlan
  nonempty : buf ≠ []
  length_le : buf.length ≤ maxSliceLength

def WriteCall.run (P : CipherSuite) (call : WriteCall) (volume : OpenVolume) :
    Except VolumeError Unit × OpenVolume :=
  volume.write P call.sector call.buf call.plan

/-- The results of the calls, and the volume they leave. -/
def runWrites (P : CipherSuite) : List WriteCall → OpenVolume →
    List (Except VolumeError Unit) × OpenVolume
  | [], volume => ([], volume)
  | call :: calls, volume =>
    let (result, volume) := call.run P volume
    let (results, volume) := runWrites P calls volume
    (result :: results, volume)

/-- The result of a write that the protection refuses. -/
def refusal : Except VolumeError Unit := .error .hiddenVolumeProtection

/-- `[h, h + n)` begins in front of the end of `[start, stop)` and ends behind its start. -/
def Overlaps (h n start stop : ℕ) : Prop := h < stop ∧ start < h + n

/-- The two ranges have a byte in common. -/
def SharesByte (h n start stop : ℕ) : Prop := ∃ i, (h ≤ i ∧ i < h + n) ∧ start ≤ i ∧ i < stop

/-- In every run of writes the bytes of `[start, stop)` stay as they are. A write of whole
sectors that does not wrap is refused exactly when an earlier one was or it overlaps the
range, and after a refusal nothing is written any more. -/
structure Protects (P : CipherSuite) (volume : OpenVolume) (start stop : ℕ) : Prop where
  spares : ∀ calls i b, start ≤ i → i < stop → volume.file.contents[i]? = some b →
    (runWrites P calls volume).2.file.contents[i]? = some b
  refuses : ∀ calls (call : WriteCall), 512 ∣ call.buf.length →
    volume.firstByte call.sector + call.buf.length < 2 ^ 64 →
      ((call.run P (runWrites P calls volume).2).1 = refusal ↔
        refusal ∈ (runWrites P calls volume).1 ∨
          Overlaps (volume.firstByte call.sector) call.buf.length start stop)
  latches : ∀ calls (call : WriteCall), refusal ∈ (runWrites P calls volume).1 →
    (call.run P (runWrites P calls volume).2).1 = refusal ∧
      (call.run P (runWrites P calls volume).2).2.file.contents =
        (runWrites P calls volume).2.file.contents

/-- A range that is not empty is overlapped by what shares a byte with it. -/
theorem overlaps_iff_sharesByte {h n start stop : ℕ} (hn : 0 < n) (hrange : start < stop) :
    Overlaps h n start stop ↔ SharesByte h n start stop := by
  constructor
  · rintro ⟨hbefore, hbehind⟩
    exact ⟨max h start, by omega, by omega⟩
  · rintro ⟨i, hin, hprotected⟩
    exact ⟨by omega, by omega⟩

/-- What all states of a run have in common with the volume as it was opened. -/
structure Guarded (opened : OpenVolume) (start stop : ℕ)
    (results : List (Except VolumeError Unit)) (volume : OpenVolume) : Prop where
  inner : volume.inner = opened.inner
  writable : volume.readOnly = false
  range : ∃ first last, volume.protectedRange = some (first, last) ∧ first.toNat = start ∧
    last.toNat = stop
  latch : volume.hiddenProtectionTriggered = true ↔ refusal ∈ results
  spared : ∀ i b, start ≤ i → i < stop → opened.file.contents[i]? = some b →
    volume.file.contents[i]? = some b

section Run
variable {P : CipherSuite} {opened volume : OpenVolume} {start stop : ℕ}
  {results : List (Except VolumeError Unit)} {call : WriteCall}

/-- A range that does not wrap is free exactly when it does not overlap. -/
theorem Guarded.checkProtectedRange_eq (h : Guarded opened start stop results volume)
    {hostOffset : UInt64} {n : ℕ} (hfits : hostOffset.toNat + n < 2 ^ 64) :
    volume.checkProtectedRange hostOffset (UInt64.ofNat n) = true ↔
      Overlaps hostOffset.toNat n start stop := by
  obtain ⟨first, last, hrange, rfl, rfl⟩ := h.range
  have hfree : volume.checkProtectedRange hostOffset (UInt64.ofNat n) = false ↔ _ :=
    checkProtectedRange_eq_false_iff hfits
  rw [hrange] at hfree
  rw [← Bool.not_eq_false, hfree, Overlaps]
  simp only [Option.some.injEq, forall_eq']
  omega

/-- A write that is not of whole sectors is refused or reported. -/
private theorem write_of_not_aligned (call : WriteCall) (hwritable : volume.readOnly = false)
    (haligned : ¬ 512 ∣ call.buf.length) :
    (volume.hiddenProtectionTriggered = true ∧ call.run P volume = (refusal, volume)) ∨
      volume.hiddenProtectionTriggered = false ∧
        ∃ msg, call.run P volume = (.error (.unsupported msg), volume) := by
  have hmod : call.buf.length % dataUnitSize.toNat ≠ 0 := fun hzero =>
    haligned (Nat.dvd_of_mod_eq_zero hzero)
  rw [WriteCall.run, OpenVolume.write, hwritable, if_neg Bool.false_ne_true]
  cases htriggered : volume.hiddenProtectionTriggered with
  | true => exact Or.inl ⟨rfl, by rw [if_pos rfl]; rfl⟩
  | false => exact Or.inr ⟨rfl, _, by rw [if_neg Bool.false_ne_true, if_pos hmod]⟩

/-- What the file holds after a write that the check let through. -/
private theorem spared_of_unprotected (h : Guarded opened start stop results volume)
    {file : FileState UInt8} {k n : ℕ} (hn : call.buf.length = n * 512) (hpos : 0 < n)
    (hfree : volume.checkProtectedRange (hostPosition volume.inner.dataOffset call.sector).val
      (UInt64.ofNat call.buf.length) = false)
    (hstored : file.contents = storeAt 0 volume.file.contents (volume.position call.sector)
      ((volume.encrypted P call.sector call.buf).take k))
    (hseek : maxPosition < volume.position call.sector → k = 0) {i : ℕ} {b : UInt8}
    (hstart : start ≤ i) (hstop : i < stop) (hbyte : volume.file.contents[i]? = some b) :
    file.contents[i]? = some b := by
  have hlength := call.length_le
  have hmaxPosition : maxPosition < 2 ^ 63 := by decide
  have hmaxSlice : maxSliceLength < 2 ^ 63 := by decide
  have hin : i < volume.file.contents.length := (List.getElem?_eq_some_iff.mp hbyte).1
  rw [hstored]
  by_cases hfar : maxPosition < volume.position call.sector
  · rw [hseek hfar, List.take_zero, storeAt_nil]
    exact hbyte
  · have hfits : (hostPosition volume.inner.dataOffset call.sector).val.toNat +
        call.buf.length < 2 ^ 64 := by
      change volume.position call.sector + call.buf.length < 2 ^ 64
      omega
    have hnot : ¬ Overlaps (volume.position call.sector) call.buf.length start stop := fun hover =>
      Bool.false_ne_true (hfree.symm.trans ((h.checkProtectedRange_eq hfits).mpr hover))
    have htake : ((volume.encrypted P call.sector call.buf).take k).length ≤ call.buf.length := by
      rw [List.length_take, OpenVolume.length_encrypted P volume call.sector hpos hn]
      exact min_le_right k _
    rw [Overlaps, not_and_or] at hnot
    rw [getElem?_storeAt_of_disjoint 0 hin (by omega)]
    exact hbyte

/-- One call keeps the range. -/
theorem Guarded.run (h : Guarded opened start stop results volume) (call : WriteCall) :
    Guarded opened start stop (results ++ [(call.run P volume).1]) (call.run P volume).2 := by
  have hlatch (result : Except VolumeError Unit) :
      refusal ∈ results ++ [result] ↔ refusal ∈ results ∨ refusal = result := by
    rw [List.mem_append, List.mem_singleton]
  by_cases haligned : 512 ∣ call.buf.length
  · obtain ⟨n, hn⟩ := haligned
    have hlength : 0 < call.buf.length := List.length_pos_iff.mpr call.nonempty
    have hcases := OpenVolume.write_cases P volume call.sector call.plan (n := n) (by omega)
      (hn.trans (Nat.mul_comm 512 n)) h.writable
    rw [WriteCall.run]
    rcases hcases with ⟨hrun, -⟩ | ⟨result, file, k, hrun, hresult, htriggered, hfree, hstored,
      hseek⟩
    · rw [hrun]
      refine ⟨h.inner, h.writable, h.range, ?_, h.spared⟩
      rw [hlatch]
      exact iff_of_true rfl (Or.inr rfl)
    · rw [hrun]
      refine ⟨h.inner, h.writable, h.range, ?_, fun i b hstart hstop hbyte => ?_⟩
      · rw [hlatch, ← h.latch]
        exact ⟨Or.inl, fun hor => hor.resolve_right fun heq => hresult heq.symm⟩
      · exact spared_of_unprotected h (hn.trans (Nat.mul_comm 512 n)) (by omega) hfree hstored
          (fun hfar => (hseek hfar).1) hstart hstop (h.spared i b hstart hstop hbyte)
  · rcases write_of_not_aligned (P := P) call h.writable haligned with ⟨htriggered, hrun⟩ |
      ⟨htriggered, msg, hrun⟩
    · rw [hrun]
      refine ⟨h.inner, h.writable, h.range, ?_, h.spared⟩
      rw [hlatch]
      exact iff_of_true htriggered (Or.inr rfl)
    · rw [hrun]
      refine ⟨h.inner, h.writable, h.range, ?_, h.spared⟩
      rw [hlatch, ← h.latch]
      exact ⟨Or.inl, fun hor => hor.resolve_right fun heq => by cases heq⟩

theorem Guarded.runWrites (h : Guarded opened start stop results volume) (calls : List WriteCall) :
    Guarded opened start stop (results ++ (runWrites P calls volume).1)
      (runWrites P calls volume).2 := by
  induction calls generalizing results volume with
  | nil =>
    rw [HiddenProtection.runWrites, List.append_nil]
    exact h
  | cons call calls ih =>
    have hrest := ih (h.run (P := P) call)
    rw [List.append_assoc] at hrest
    exact hrest

/-- A call on a guarded volume is refused because an earlier one was, or for its range. -/
theorem Guarded.refused_iff (h : Guarded opened start stop results volume)
    (haligned : 512 ∣ call.buf.length)
    (hfits : opened.firstByte call.sector + call.buf.length < 2 ^ 64) :
    (call.run P volume).1 = refusal ↔
      refusal ∈ results ∨ Overlaps (opened.firstByte call.sector) call.buf.length start stop := by
  obtain ⟨n, hn⟩ := haligned
  have hlength : 0 < call.buf.length := List.length_pos_iff.mpr call.nonempty
  have hposition : volume.position call.sector = opened.firstByte call.sector := by
    rw [OpenVolume.position_eq, OpenVolume.firstByte, h.inner, ← OpenVolume.firstByte]
    exact Nat.mod_eq_of_lt (by omega)
  have hover : volume.checkProtectedRange
      (hostPosition volume.inner.dataOffset call.sector).val (UInt64.ofNat call.buf.length) =
        true ↔ Overlaps (opened.firstByte call.sector) call.buf.length start stop := by
    rw [← hposition] at hfits ⊢
    exact h.checkProtectedRange_eq hfits
  rw [← h.latch, ← hover]
  rcases OpenVolume.write_cases P volume call.sector call.plan (n := n) (by omega)
    (hn.trans (Nat.mul_comm 512 n)) h.writable with ⟨hrun, hwhy⟩ |
      ⟨result, file, k, hrun, hresult, htriggered, hfree, -⟩
  · exact iff_of_true (congrArg Prod.fst hrun) hwhy
  · have hfst : (call.run P volume).1 = result := congrArg Prod.fst hrun
    rw [hfst, htriggered, hfree]
    exact iff_of_false hresult (by simp)

/-- After a refusal every call is refused. -/
theorem Guarded.latched (h : Guarded opened start stop results volume)
    (hrefused : refusal ∈ results) (call : WriteCall) :
    (call.run P volume).1 = refusal ∧
      (call.run P volume).2.file.contents = volume.file.contents := by
  have htriggered := h.latch.mpr hrefused
  have hrun : call.run P volume = (refusal, volume) := by
    rw [WriteCall.run, OpenVolume.write, h.writable, htriggered, if_neg Bool.false_ne_true,
      if_pos rfl]
    rfl
  rw [hrun]
  exact ⟨rfl, rfl⟩

theorem Guarded.protects (h : Guarded volume start stop [] volume) :
    Protects P volume start stop where
  spares calls i b hstart hstop hbyte :=
    (h.runWrites calls).spared i b hstart hstop hbyte
  refuses calls _ haligned hfits := (h.runWrites calls).refused_iff haligned hfits
  latches calls call hrefused := (h.runWrites calls).latched hrefused call

end Run

/-- Opening with protection guards the data of the hidden volume. -/
theorem guarded_openWithProtection {P : CipherSuite} {K : KdfLibrary}
    {data : Except String Bytes} {file : Except String (FileState UInt8)}
    {credentials hidden : Credentials} {kdf : Option KdfAlgorithm} {pim : Option Int32}
    {volume : OpenVolume} {r : OpenResult}
    (hopen : OpenVolume.openWithProtection P K data file credentials kdf pim hidden = .ok volume)
    (hhidden : openVolumeFile P K data hidden (some 0) = .ok r)
    (hfits : r.dataOffset.toNat + r.dataLength.toNat < 2 ^ 64) :
    Guarded volume r.dataOffset.toNat (r.dataOffset.toNat + r.dataLength.toNat) [] volume := by
  obtain ⟨outer, r', st, cipher, -, -, hresult, -, -, -, rfl⟩ :=
    OpenVolume.openWithProtection_eq_ok.mp hopen
  obtain rfl := Except.ok.inj (hhidden.symm.trans hresult)
  refine ⟨rfl, rfl, ⟨_, _, rfl, rfl, CheckedWords.toNat_add_of_lt hfits⟩, ?_, fun _ _ _ _ => id⟩
  exact iff_of_false Bool.false_ne_true List.not_mem_nil

/-- A volume opened with protection protects the data of the hidden one, whatever the file
answers. -/
theorem protects_openWithProtection (P : CipherSuite) (K : KdfLibrary)
    (data : Except String Bytes) (file : Except String (FileState UInt8))
    (credentials hidden : Credentials) (kdf : Option KdfAlgorithm) (pim : Option Int32)
    (volume : OpenVolume) (r : OpenResult)
    (hopen : OpenVolume.openWithProtection P K data file credentials kdf pim hidden = .ok volume)
    (hhidden : openVolumeFile P K data hidden (some 0) = .ok r)
    (hfits : r.dataOffset.toNat + r.dataLength.toNat < 2 ^ 64) :
    Protects P volume r.dataOffset.toNat (r.dataOffset.toNat + r.dataLength.toNat) ∧
      (0 < r.dataLength.toNat → ∀ h n, 0 < n →
        (Overlaps h n r.dataOffset.toNat (r.dataOffset.toNat + r.dataLength.toNat) ↔
          SharesByte h n r.dataOffset.toNat (r.dataOffset.toNat + r.dataLength.toNat))) := by
  refine ⟨(guarded_openWithProtection hopen hhidden hfits).protects, ?_⟩
  intro hlength h n hn
  exact overlaps_iff_sharesByte hn (by omega)

section Sample

/-! Volumes with a hidden one whose data lie where the hidden header says. -/

/-- A file of four headers with a given hidden one. -/
def protectedFile (inner : VolumeHeader) : Bytes :=
  outerSlot 0x6F ++ slotBytes maskingSuite zeroChain (saltOf 0x68 0x68).1 inner ++
    outerSlot 0x6F ++ slotBytes maskingSuite zeroChain (saltOf 0x68 0x68).1 inner

def outerCredentials : Credentials := ⟨[0x6F, 0x6F], []⟩

def hiddenCredentials : Credentials := ⟨[0x68, 0x68], []⟩

theorem protectedFile_spec (inner : VolumeHeader) :
    (protectedFile inner).length = 4 * volumeHeaderSize ∧
      headerAt (protectedFile inner) 0 = (saltOf 0x6F 0x6F).1 ++ encryptedArea outerHeader ∧
      headerAt (protectedFile inner) volumeHeaderSize =
        (saltOf 0x68 0x68).1 ++ encryptedArea inner ∧
      headerAt (protectedFile inner) (2 * volumeHeaderSize) =
        (saltOf 0x6F 0x6F).1 ++ encryptedArea outerHeader := by
  obtain ⟨houter, htake⟩ := slotBytes_zeroChain (saltOf 0x6F 0x6F) outerHeader
  obtain ⟨hinner, hinnerTake⟩ := slotBytes_zeroChain (saltOf 0x68 0x68) inner
  obtain ⟨hlen, hfirst, hsecond, hbackup, -⟩ := headers_of_slots houter hinner houter hinner
  rw [← htake, ← hinnerTake]
  exact ⟨hlen, hfirst, hsecond, hbackup⟩

/-- The file opens with protection. -/
theorem exists_protectedVolume {inner : VolumeHeader} (hinner : Wellformed inner)
    (hsize : inner.hiddenVolumeSize ≠ 0) : ∃ volume r,
    OpenVolume.openWithProtection maskingSuite fittingLibrary (.ok (protectedFile inner))
        (.ok ⟨protectedFile inner, 0, 0⟩) outerCredentials none (some 1) hiddenCredentials =
          .ok volume ∧
      openVolumeFile maskingSuite fittingLibrary (.ok (protectedFile inner)) hiddenCredentials
        (some 0) = .ok r ∧
      r.dataOffset = inner.encryptedAreaStart ∧
      r.dataLength = (if inner.encryptedAreaLength > 0 then inner.encryptedAreaLength
        else inner.volumeSize) ∧
      volume.inner.dataOffset = 262144 := by
  obtain ⟨hlen, hfirst, hsecond, hbackup⟩ := protectedFile_spec inner
  have hnormal : FoundIn maskingSuite (protectedFile inner) outerCredentials _ _ _ _ :=
    sample_found 1 [] (saltOf 0x6F 0x6F) hlen.ge (slots_eq hlen.ge) (by simp) hfirst rfl
      wellformed_outerHeader
  have hhidden : FoundIn maskingSuite (protectedFile inner) hiddenCredentials _ _ _ _ :=
    hidden_found 0 hinner hlen hfirst hsecond hbackup
  obtain ⟨cipher, hcipher, -⟩ := createSectorCipher_of_length (length_masterKey hnormal.opens)
  refine ⟨_, _, OpenVolume.openWithProtection_eq_ok.mpr ⟨_, _, _, cipher, hnormal.opens, rfl,
    hhidden.opens, ?_, rfl, hcipher, rfl⟩, hhidden.opens, rfl, rfl, rfl⟩
  exact if_pos hsize

/-- A hidden volume of one sector, or of none, at a position of the outer data. -/
def hiddenAt (start size : UInt64) : VolumeHeader :=
  { hiddenHeader 512 start (saltOf 0x68 0x68) (List.replicate 64 0) with
    volumeSize := size
    encryptedAreaLength := size }

theorem wellformed_hiddenAt (start size : UInt64) : Wellformed (hiddenAt start size) := ⟨rfl, by
  change ValidSectorSize 512
  decide⟩

/-- A write of `n` sectors of zeros at the start of the data. -/
def writeZeros (n : ℕ) (h : 0 < n) (hn : n ≤ 2) : WriteCall where
  sector := 0
  buf := List.replicate (n * 512) 0
  plan := noFaults
  nonempty := List.ne_nil_of_length_pos (by rw [List.length_replicate]; omega)
  length_le := by
    rw [List.length_replicate, maxSliceLength]
    omega

def oneSector : WriteCall := writeZeros 1 (by decide) (by decide)

def twoSectors : WriteCall := writeZeros 2 (by decide) (by decide)

/-- The first sector of an outer volume is refused where the hidden data stand. -/
theorem protects_firstSector : ∃ volume r,
    OpenVolume.openWithProtection maskingSuite fittingLibrary
        (.ok (protectedFile (hiddenAt 262144 512)))
        (.ok ⟨protectedFile (hiddenAt 262144 512), 0, 0⟩) outerCredentials none (some 1)
        hiddenCredentials = .ok volume ∧
      openVolumeFile maskingSuite fittingLibrary (.ok (protectedFile (hiddenAt 262144 512)))
        hiddenCredentials (some 0) = .ok r ∧
      (oneSector.run maskingSuite volume).1 = refusal := by
  obtain ⟨volume, r, hopen, hhidden, hoffset, hlength, houter⟩ :=
    exists_protectedVolume (wellformed_hiddenAt 262144 512) (by decide)
  have hstart : r.dataOffset.toNat = 262144 := by
    rw [hoffset]
    rfl
  have hsize : r.dataLength.toNat = 512 := by
    rw [hlength]
    rfl
  obtain ⟨hprotects, -⟩ := protects_openWithProtection maskingSuite fittingLibrary _ _
    outerCredentials hiddenCredentials none (some 1) volume r hopen hhidden (by omega)
  refine ⟨volume, r, hopen, hhidden, ?_⟩
  have hfirst : volume.firstByte oneSector.sector = 262144 := by
    rw [OpenVolume.firstByte, houter]
    rfl
  have hbuf : oneSector.buf.length = 512 := List.length_replicate
  refine (hprotects.refuses [] oneSector ?_ ?_).mpr (Or.inr ?_)
  · rw [hbuf]
  · rw [hfirst, hbuf]
    decide
  · rw [hfirst, hbuf, hstart, hsize, Overlaps]
    decide

/-- Hidden data of no bytes: a write of the two sectors around their position is refused,
though it shares no byte with them. -/
theorem emptyRange_refused : ∃ volume r,
    OpenVolume.openWithProtection maskingSuite fittingLibrary
        (.ok (protectedFile (hiddenAt 262656 0)))
        (.ok ⟨protectedFile (hiddenAt 262656 0), 0, 0⟩) outerCredentials none (some 1)
        hiddenCredentials = .ok volume ∧
      openVolumeFile maskingSuite fittingLibrary (.ok (protectedFile (hiddenAt 262656 0)))
        hiddenCredentials (some 0) = .ok r ∧
      r.dataOffset.toNat + r.dataLength.toNat < 2 ^ 64 ∧
      (twoSectors.run maskingSuite volume).1 = refusal ∧
      512 ∣ twoSectors.buf.length ∧
      volume.firstByte twoSectors.sector +
        twoSectors.buf.length < 2 ^ 64 ∧
      ¬ SharesByte (volume.firstByte twoSectors.sector)
        twoSectors.buf.length r.dataOffset.toNat
        (r.dataOffset.toNat + r.dataLength.toNat) := by
  obtain ⟨volume, r, hopen, hhidden, hoffset, hlength, houter⟩ :=
    exists_protectedVolume (wellformed_hiddenAt 262656 0) (by decide)
  have hstart : r.dataOffset.toNat = 262656 := by
    rw [hoffset]
    rfl
  have hsize : r.dataLength.toNat = 0 := by
    rw [hlength]
    rfl
  have hfirst : volume.firstByte twoSectors.sector = 262144 := by
    rw [OpenVolume.firstByte, houter]
    rfl
  have hbuf : twoSectors.buf.length = 1024 := List.length_replicate
  have haligned : 512 ∣ twoSectors.buf.length := by
    rw [hbuf]
    decide
  have hfits : volume.firstByte twoSectors.sector +
      twoSectors.buf.length < 2 ^ 64 := by
    rw [hfirst, hbuf]
    decide
  have hguarded := guarded_openWithProtection hopen hhidden (by omega)
  refine ⟨volume, r, hopen, hhidden, by omega, ?_, haligned, hfits, ?_⟩
  · refine (hguarded.refused_iff haligned hfits).mpr (Or.inr ?_)
    rw [hfirst, hbuf, hstart, hsize, Overlaps]
    decide
  · rintro ⟨i, -, hin⟩
    omega

end Sample

end Oxhide.HiddenProtection
