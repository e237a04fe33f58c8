import Oxhide.DataWrites

/-! # Sector accesses and the bounds of the data area

The position of a sector is computed with unchecked 64-bit arithmetic and is never
compared with the length of the data area. `Confined` says that an access behind the
area fails and that a write inside it stays in its range; `confined_iff` gives the
accesses of which this is true. -/
namespace Oxhide.ConfinedAccess
open BlockCiphers CheckedWords CipherChain DataWrites FaultyFile HeaderFormat KeyDerivation
  ListSplice OpenVolumes SectorCiphers VolumeErrors VolumeOpening WordBytes

/-- A volume that was opened, whatever was done since with it and with its file. -/
inductive IsOpen (P : CipherSuite) (K : KdfLibrary) : OpenVolume → Prop
  | openWith {data : Except String Bytes} {file : FileState UInt8} {credentials : Credentials}
      {kdf : Option KdfAlgorithm} {pim : Option Int32} {readOnly : Bool} {volume : OpenVolume}
      (h : OpenVolume.openWith P K data (.ok file) credentials kdf pim readOnly = .ok volume) :
      IsOpen P K volume
  | openWithProtection {data : Except String Bytes} {file : FileState UInt8}
      {credentials hidden : Credentials} {kdf : Option KdfAlgorithm} {pim : Option Int32}
      {volume : OpenVolume} (h : OpenVolume.openWithProtection P K data (.ok file) credentials kdf
        pim hidden = .ok volume) : IsOpen P K volume
  | read {volume : OpenVolume} (sector : UInt64) (n : ℕ) (plan : FaultPlan)
      (h : IsOpen P K volume) : IsOpen P K (volume.read P sector n plan).2
  | write {volume : OpenVolume} (sector : UInt64) (buf : Bytes) (plan : FaultPlan)
      (h : IsOpen P K volume) : IsOpen P K (volume.write P sector buf plan).2
  | file {volume : OpenVolume} (st : FileState UInt8) (h : IsOpen P K volume) :
      IsOpen P K { volume with file := st }

/-- The access lies in the data area, computed without wrapping. -/
def InDataArea (volume : OpenVolume) (sector : UInt64) (n : ℕ) : Prop :=
  512 * sector.toNat + n ≤ volume.inner.dataLength.toNat

/-- Behind the data area an access of `n` bytes fails and leaves the file as it is; inside it
a write changes no byte outside its range. -/
structure Confined (P : CipherSuite) (volume : OpenVolume) (sector : UInt64) (n : ℕ) : Prop where
  read_fails : ¬ InDataArea volume sector n → ∀ plan,
    (∃ e, (volume.read P sector n plan).1 = .error e) ∧
      (volume.read P sector n plan).2.file.contents = volume.file.contents
  write_fails : ¬ InDataArea volume sector n → ∀ plan buf, buf.length = n →
    (∃ e, (volume.write P sector buf plan).1 = .error e) ∧
      (volume.write P sector buf plan).2.file.contents = volume.file.contents
  spares : InDataArea volume sector n → ∀ plan buf, buf.length = n → ∀ i b,
    (i < volume.firstByte sector ∨ volume.firstByte sector + n ≤ i) →
      volume.file.contents[i]? = some b →
        (volume.write P sector buf plan).2.file.contents[i]? = some b

/-- A write that the volume refuses whatever its file is like. -/
def RefusesWrite (volume : OpenVolume) (sector : UInt64) (n : ℕ) : Prop :=
  volume.readOnly = true ∨ volume.hiddenProtectionTriggered = true ∨
    volume.checkProtectedRange (hostPosition volume.inner.dataOffset sector).val
      (UInt64.ofNat n) = true

/-- The accesses that stay confined: those of no bytes, those that no file has a position for,
those behind the data area that are also behind the end of the file and are not written, and
those inside the data area that are not written, do not wrap or wrap to behind the end. -/
def StaysConfined (volume : OpenVolume) (sector : UInt64) (n : ℕ) : Prop :=
  n = 0 ∨ maxPosition < volume.position sector ∨
    (¬ InDataArea volume sector n → RefusesWrite volume sector n ∧
      volume.file.contents.length < volume.position sector + n) ∧
    (InDataArea volume sector n → RefusesWrite volume sector n ∨
      volume.firstByte sector < 2 ^ 64 ∨
      volume.file.contents.length ≤ volume.position sector)

section Empty
variable {P : CipherSuite} {K : KdfLibrary} {volume : OpenVolume}

/-- Nothing that is done with a volume changes its cipher. -/
theorem IsOpen.chain_ne_nil (h : IsOpen P K volume) : volume.cipher.chain ≠ [] := by
  induction h with
  | openWith h =>
    obtain ⟨r, cipher, -, hcipher, rfl⟩ := OpenVolume.openWith_eq_ok.mp h
    exact chain_ne_nil_of_createSectorCipher hcipher
  | openWithProtection h =>
    obtain ⟨r, _, _, cipher, -, -, -, -, -, hcipher, rfl⟩ :=
      OpenVolume.openWithProtection_eq_ok.mp h
    exact chain_ne_nil_of_createSectorCipher hcipher
  | @read volume sector n plan _ ih =>
    obtain ⟨file, hrun, -⟩ := OpenVolume.read_effect P volume sector plan n
    rw [hrun]
    exact ih
  | @write volume sector buf plan _ ih =>
    obtain ⟨file, triggered, hrun⟩ := OpenVolume.write_frame P volume sector plan buf
    rw [hrun]
    exact ih
  | file st _ ih => exact ih

private theorem outcome_eq_error {ε α : Type} {f : InPlaceBuffer.InPlace ε α} {xs : List α} {e : ε}
    (h : (f xs).1 = .error e) : outcome f xs = .error e := by
  rw [outcome]
  cases hrun : f xs with
  | mk result out =>
    rw [hrun] at h
    obtain rfl : result = .error e := h
    rfl

/-- Nothing can be read into an empty buffer. -/
theorem read_zero (h : volume.cipher.chain ≠ []) (sector : UInt64) (plan : FaultPlan) :
    ∃ e, (volume.read P sector 0 plan).1 = .error e := by
  obtain ⟨e, he⟩ := volume.cipher.decryptSector_nil (P := P) sector h
  cases hread : (volume.read P sector 0 plan).1 with
  | error e' => exact ⟨e', rfl⟩
  | ok out =>
    have haligned : ¬ 0 % dataUnitSize.toNat ≠ 0 := by decide
    rw [OpenVolume.read, if_neg haligned] at hread
    cases hrun : readSectors P volume.cipher volume.inner.dataOffset sector 0 plan volume.file with
    | mk result file =>
      rw [hrun] at hread
      obtain rfl : result = .ok out := hread
      simp only [readSectors, FileIo.bind_eq_ok, FileIo.mapError_eq_ok, FileIo.lift_eq_ok] at hrun
      obtain ⟨_, _, -, buffer, _, hbuffer, hout, -⟩ := hrun
      obtain ⟨rfl, -⟩ : [] = buffer ∧ _ := by simpa [readExact, pure] using hbuffer
      rw [outcome_eq_error he] at hout
      cases hout

/-- An empty buffer is not written. -/
theorem write_nil (h : volume.cipher.chain ≠ []) (sector : UInt64) (plan : FaultPlan) :
    (∃ e, (volume.write P sector [] plan).1 = .error e) ∧
      (volume.write P sector [] plan).2.file.contents = volume.file.contents := by
  obtain ⟨e, he⟩ := volume.cipher.encryptSector_nil (P := P) sector h
  have hrun : writeSectors P volume.cipher volume.inner.dataOffset sector [] plan volume.file =
      (.error e, volume.file) := by
    rw [writeSectors, FileIo.bind_of_error]
    rw [FileIo.lift, outcome_eq_error he]
  simp only [OpenVolume.write, hrun]
  split_ifs
  · exact ⟨⟨_, rfl⟩, rfl⟩
  · exact ⟨⟨_, rfl⟩, rfl⟩
  · exact ⟨⟨_, rfl⟩, rfl⟩
  · exact ⟨⟨_, rfl⟩, rfl⟩
  · exact ⟨⟨e, rfl⟩, rfl⟩

end Empty

section Sectors
variable {P : CipherSuite} {volume : OpenVolume} {sector : UInt64} {n : ℕ} {buf : Bytes}

/-- Without a position or in front of nothing, nothing is read. -/
theorem read_fails_of_unreachable (hn : n ≠ 0) (h : maxPosition < volume.position sector ∨
    volume.file.contents.length < volume.position sector + n) (plan : FaultPlan) :
    ∃ e, (volume.read P sector n plan).1 = .error e := by
  cases hread : (volume.read P sector n plan).1 with
  | error e => exact ⟨e, rfl⟩
  | ok out =>
    obtain ⟨hseek, hin⟩ := OpenVolume.of_read_eq_ok hn hread
    omega

theorem write_of_refuses (hn : 512 ∣ n) (hbuf : buf.length = n)
    (h : RefusesWrite volume sector n) (plan : FaultPlan) :
    (∃ e, (volume.write P sector buf plan).1 = .error e) ∧
      (volume.write P sector buf plan).2.file.contents = volume.file.contents := by
  have haligned : ¬ buf.length % dataUnitSize.toNat ≠ 0 := by
    rw [hbuf]
    exact not_not_intro (Nat.mod_eq_zero_of_dvd hn)
  rw [RefusesWrite, ← hbuf] at h
  simp only [OpenVolume.write, if_neg haligned]
  split_ifs with hro htriggered hprotected
  · exact ⟨⟨_, rfl⟩, rfl⟩
  · exact ⟨⟨_, rfl⟩, rfl⟩
  · exact ⟨⟨_, rfl⟩, rfl⟩
  · rcases h with h | h | h
    · exact absurd h hro
    · exact absurd h htriggered
    · exact absurd h hprotected

/-- A write of sectors that the volume does not refuse. -/
private theorem writable_of_not_refuses (h : ¬ RefusesWrite volume sector n) :
    volume.readOnly = false ∧ volume.hiddenProtectionTriggered = false ∧
      volume.checkProtectedRange (hostPosition volume.inner.dataOffset sector).val
        (UInt64.ofNat n) = false := by
  rw [RefusesWrite, not_or, not_or] at h
  exact ⟨Bool.not_eq_true _ ▸ h.1, Bool.not_eq_true _ ▸ h.2.1, Bool.not_eq_true _ ▸ h.2.2⟩

/-- What a write of sectors leaves: nothing new without a position, else part of its data
from its position on. -/
theorem write_stores (hn : 512 ∣ n) (hpos : n ≠ 0) (hbuf : buf.length = n) (plan : FaultPlan) :
    ∃ ys : Bytes, ys.length ≤ n ∧ (volume.write P sector buf plan).2.file.contents =
        storeAt 0 volume.file.contents (volume.position sector) ys ∧
      (maxPosition < volume.position sector → ys = [] ∧
        ∃ e, (volume.write P sector buf plan).1 = .error e) := by
  by_cases hrefuses : RefusesWrite volume sector n
  · obtain ⟨herror, hsame⟩ := write_of_refuses hn hbuf hrefuses plan (P := P)
    exact ⟨[], Nat.zero_le n, hsame, fun _ => ⟨rfl, herror⟩⟩
  · obtain ⟨hwritable, htriggered, hfree⟩ := writable_of_not_refuses hrefuses
    obtain ⟨m, rfl⟩ := hn
    rw [← hbuf] at hfree
    have hlength := OpenVolume.length_encrypted P volume sector (n := m) (by omega)
      (hbuf.trans (Nat.mul_comm 512 m))
    rcases OpenVolume.write_cases P volume sector plan (n := m) (by omega)
      (hbuf.trans (Nat.mul_comm 512 m)) hwritable with ⟨-, hwhy⟩ |
        ⟨result, file, k, hrun, -, -, -, hstored, hfar⟩
    · rw [htriggered, hfree] at hwhy
      exact absurd hwhy (by simp)
    · refine ⟨(volume.encrypted P sector buf).take k, ?_, ?_, fun hgt => ?_⟩
      · rw [List.length_take, hlength, hbuf]
        exact min_le_right k _
      · rw [hrun]
        exact hstored
      · obtain ⟨rfl, e, rfl⟩ := hfar hgt
        exact ⟨List.take_zero, e, by rw [hrun]⟩

/-- Any bytes at all can be what a buffer is encrypted to. -/
theorem exists_encrypted_eq (P : CipherSuite) (volume : OpenVolume) (sector : UInt64) {ys : Bytes}
    (h : 16 ∣ ys.length) : ∃ buf : Bytes, buf.length = ys.length ∧
      volume.encrypted P sector buf = ys := by
  have hblocks : ys.length = ys.length / 16 * 16 := (Nat.div_mul_cancel h).symm
  have hlength : (decryptUnit P volume.cipher.chain sector (ys.length / 16) ys).length =
      ys.length := length_decryptUnit hblocks
  refine ⟨_, hlength, ?_⟩
  rw [OpenVolume.encrypted, hlength]
  exact encryptUnit_decryptUnit hblocks

/-- The file can fail behind the last byte of a write. -/
theorem exists_faulted_write (hn : 512 ∣ n) (hpos : n ≠ 0) (hbuf : buf.length = n)
    (hseek : volume.position sector ≤ maxPosition) (h : ¬ RefusesWrite volume sector n) :
    ∃ plan, (volume.write P sector buf plan).2.file.contents =
      storeAt 0 volume.file.contents (volume.position sector) (volume.encrypted P sector buf) := by
  obtain ⟨hwritable, htriggered, hfree⟩ := writable_of_not_refuses h
  obtain ⟨m, rfl⟩ := hn
  have hsectors : buf.length = m * 512 := hbuf.trans (Nat.mul_comm 512 m)
  have hblocks : buf.length = buf.length / 16 * 16 := by omega
  have haligned := aligned_of_sectors hsectors
  have hlength := OpenVolume.length_encrypted P volume sector (n := m) (by omega) hsectors
  -- The seek is the first call, the write the second one.
  let plan : FaultPlan := fun k =>
    if k = volume.file.calls + 1 then some ⟨"no space left", buf.length⟩ else none
  refine ⟨plan, ?_⟩
  have hencrypt : outcome (volume.cipher.encryptSector P sector) buf =
      .ok (volume.encrypted P sector buf) := by
    rw [outcome, volume.cipher.encryptSector_eq sector (by omega) hblocks]
    rfl
  have hseeks : FileIo.mapError (fun e => VolumeError.writeError sector s!"seek: {e}")
      (seekStart (volume.position sector)) plan volume.file =
        (.ok (), { volume.file with
          pos := volume.position sector, calls := volume.file.calls + 1 }) :=
    FileIo.mapError_eq_ok.mpr (seekStart_eq_ok.mpr ⟨if_neg (by omega), hseek, rfl⟩)
  have hwrites : writeAll 0 (volume.encrypted P sector buf) plan { volume.file with
      pos := volume.position sector, calls := volume.file.calls + 1 } =
        (.error "no space left", (volume.written P sector buf).file) := by
    rw [writeAll, call]
    simp only [plan, if_true, FileState.stored, ← hlength, List.take_length]
    rw [OpenVolume.written, hlength]
  have hrun : writeSectors P volume.cipher volume.inner.dataOffset sector buf plan volume.file =
      (.error (.writeError sector "write: no space left"), (volume.written P sector buf).file) :=
    FileIo.bind_eq_error.mpr (Or.inr ⟨_, _, FileIo.lift_eq_ok.mpr ⟨hencrypt, rfl⟩,
      FileIo.bind_eq_error.mpr (Or.inr ⟨_, _, hseeks,
        FileIo.mapError_eq_error.mpr ⟨_, hwrites, rfl⟩⟩)⟩)
  rw [← hbuf] at hfree
  simp only [OpenVolume.write, hwritable, htriggered, haligned, hfree, Bool.false_eq_true, if_false,
    hrun, OpenVolume.written]

end Sectors

section Confinement
variable {P : CipherSuite} {volume : OpenVolume} {sector : UInt64} {n : ℕ}

theorem confined_zero (h : volume.cipher.chain ≠ []) : Confined P volume sector 0 where
  read_fails _ plan := by
    obtain ⟨file, hrun, hsame⟩ := OpenVolume.read_effect P volume sector plan 0
    exact ⟨read_zero h sector plan, by rw [hrun]; exact hsame⟩
  write_fails _ plan buf hbuf := by
    rw [List.length_eq_zero_iff.mp hbuf]
    exact write_nil h sector plan
  spares _ plan buf hbuf i b _ hbyte := by
    rw [List.length_eq_zero_iff.mp hbuf, (write_nil h sector plan).2]
    exact hbyte

theorem confined_of_staysConfined (hn : 512 ∣ n) (hpos : n ≠ 0)
    (h : StaysConfined volume sector n) : Confined P volume sector n := by
  have hpossible := h.resolve_left hpos
  refine ⟨fun hout plan => ?_, fun hout plan buf hbuf => ?_,
    fun hin plan buf hbuf i b hi hbyte => ?_⟩
  · obtain ⟨file, hrun, hsame⟩ := OpenVolume.read_effect P volume sector plan n
    refine ⟨read_fails_of_unreachable hpos ?_ plan, by rw [hrun]; exact hsame⟩
    exact hpossible.imp_right fun hcases => (hcases.1 hout).2
  · rcases hpossible with hfar | hcases
    · obtain ⟨ys, -, hstored, hfail⟩ := write_stores hn hpos hbuf plan (P := P)
      obtain ⟨rfl, herror⟩ := hfail hfar
      exact ⟨herror, hstored⟩
    · exact write_of_refuses hn hbuf (hcases.1 hout).1 plan
  · have hlength : i < volume.file.contents.length := (List.getElem?_eq_some_iff.mp hbyte).1
    obtain ⟨ys, hys, hstored, hfail⟩ := write_stores hn hpos hbuf plan (P := P)
    rcases hpossible with hfar | hcases
    · rw [hstored, (hfail hfar).1, storeAt_nil]
      exact hbyte
    · rcases hcases.2 hin with hrefuses | hfits | hbehind
      · rw [(write_of_refuses hn hbuf hrefuses plan).2]
        exact hbyte
      · have hposition : volume.position sector = volume.firstByte sector := by
          rw [OpenVolume.position_eq, Nat.mod_eq_of_lt hfits]
        rw [hstored, hposition, getElem?_storeAt_of_disjoint 0 hlength (by omega)]
        exact hbyte
      · rw [hstored, getElem?_storeAt_of_disjoint 0 hlength (by omega)]
        exact hbyte

private theorem refused_of_confined (hn : 512 ∣ n) (hpos : n ≠ 0) (h : Confined P volume sector n)
    (hseek : volume.position sector ≤ maxPosition) (hout : ¬ InDataArea volume sector n) :
    RefusesWrite volume sector n ∧
      volume.file.contents.length < volume.position sector + n := by
  obtain ⟨m, hm⟩ := hn
  have hend : volume.file.contents.length < volume.position sector + n := by
    by_contra hheld
    obtain ⟨e, hread⟩ := (h.read_fails hout noFaults).1
    have hok := (OpenVolume.read_eq_ok_iff P volume sector (n := m) (by omega) _).mpr
      ⟨hseek, by omega, rfl⟩
    rw [Nat.mul_comm, ← hm, hread] at hok
    cases hok
  refine ⟨?_, hend⟩
  by_contra hrefuses
  -- A write that fails after its last byte leaves the file longer than it was.
  obtain ⟨plan, hstored⟩ : ∃ plan,
      (volume.write P sector (List.replicate n 0) plan).2.file.contents = _ :=
    exists_faulted_write ⟨m, hm⟩ hpos List.length_replicate hseek hrefuses
  have hsame := (h.write_fails hout plan (List.replicate n 0) List.length_replicate).2
  have hsectors : (List.replicate n (0 : UInt8)).length = m * 512 := by
    rw [List.length_replicate, hm, Nat.mul_comm]
  have hlonger := OpenVolume.length_written P volume sector (by omega) hsectors
  rw [OpenVolume.written, ← hstored, hsame, List.length_replicate] at hlonger
  omega

private theorem unwrapped_of_confined (hn : 512 ∣ n) (hpos : n ≠ 0)
    (h : Confined P volume sector n) (hseek : volume.position sector ≤ maxPosition)
    (hin : InDataArea volume sector n) :
    RefusesWrite volume sector n ∨ volume.firstByte sector < 2 ^ 64 ∨
      volume.file.contents.length ≤ volume.position sector := by
  have hblocks : 16 ∣ n := Dvd.dvd.trans (by decide) hn
  by_contra hnone
  rw [not_or, not_or] at hnone
  obtain ⟨hrefuses, hwraps, hheld⟩ := hnone
  -- A write at the wrapped position can change the byte that stands there.
  obtain ⟨b, hbyte⟩ : ∃ b, volume.file.contents[volume.position sector]? = some b :=
    ⟨_, List.getElem?_eq_getElem (not_le.mp hheld)⟩
  obtain ⟨buf, hbuf, hencrypted⟩ : ∃ buf : Bytes, buf.length = _ ∧
      volume.encrypted P sector buf = List.replicate n (b + 1) :=
    exists_encrypted_eq P volume sector (by rw [List.length_replicate]; exact hblocks)
  rw [List.length_replicate] at hbuf
  obtain ⟨plan, hstored⟩ := exists_faulted_write (P := P) hn hpos hbuf hseek hrefuses
  have hwrap : volume.position sector < volume.firstByte sector := by
    rw [OpenVolume.position_eq]
    omega
  have hkept := h.spares hin plan buf hbuf _ b (Or.inl hwrap) hbyte
  have hself := slice_storeAt_self 0 volume.file.contents (volume.encrypted P sector buf)
    (volume.position sector)
  rw [hencrypted, List.length_replicate] at hself
  have hfirst := congrArg (fun ys => ys[0]?) hself
  rw [hstored, hencrypted] at hkept
  simp only [getElem?_slice, Nat.add_zero, if_pos (Nat.pos_of_ne_zero hpos), hkept,
    List.getElem?_replicate, Option.some.injEq] at hfirst
  have hone : (1 : UInt8) = 0 := by simpa using hfirst.symm
  exact absurd hone (by decide)

theorem staysConfined_of_confined (hn : 512 ∣ n) (hpos : n ≠ 0)
    (h : Confined P volume sector n) : StaysConfined volume sector n := by
  refine Or.inr (or_iff_not_imp_left.mpr fun hnear => ?_)
  have hseek : volume.position sector ≤ maxPosition := not_lt.mp hnear
  exact ⟨refused_of_confined hn hpos h hseek, unwrapped_of_confined hn hpos h hseek⟩

/-- The accesses that stay confined, for every volume that was opened, every sector number
and every buffer of whole sectors, whatever the file answers. -/
theorem confined_iff (P : CipherSuite) (K : KdfLibrary) (volume : OpenVolume) (sector : UInt64)
    (n : ℕ) (hopen : IsOpen P K volume) (hn : 512 ∣ n) :
    Confined P volume sector n ↔ StaysConfined volume sector n := by
  by_cases hpos : n = 0
  · subst hpos
    exact iff_of_true (confined_zero hopen.chain_ne_nil) (Or.inl rfl)
  · exact ⟨staysConfined_of_confined hn hpos, confined_of_staysConfined hn hpos⟩

/-- The first sector of a new volume of 128 KiB. -/
theorem confined_firstSector : ∃ volumeSize : UInt64, volumeSize = 131072 ∧ ∀ P K,
    ∃ data volume, OpenVolume.openWith P K (.ok data) (.ok ⟨data, 0, 0⟩) ⟨[0x70], []⟩
        (some .pbkdf2Sha512) (some 1) false = .ok volume ∧ Confined P volume 0 512 := by
  refine ⟨131072, rfl, fun P K => ?_⟩
  obtain ⟨-, -, st', volume, -, hopen, -, -, hoffset, hdataLength, -⟩ :=
    exists_openedVolume P K 131072 (by decide)
  refine ⟨st'.contents, volume, hopen,
    (confined_iff P K volume 0 512 (.openWith hopen) (by decide)).mpr (Or.inr (Or.inr ⟨?_, ?_⟩))⟩
  · intro hout
    exact absurd (by rw [InDataArea, hdataLength]; decide) hout
  · intro _
    refine Or.inr (Or.inl ?_)
    rw [OpenVolume.firstByte, hoffset]
    decide

/-- The sector behind the last one of a new volume of 128 KiB is written, and the file is
longer then. -/
theorem maxSector_not_confined : ∃ volumeSize : UInt64, volumeSize = 131072 ∧ ∀ P K,
    ∃ data volume, OpenVolume.openWith P K (.ok data) (.ok ⟨data, 0, 0⟩) ⟨[0x70], []⟩
        (some .pbkdf2Sha512) (some 1) false = .ok volume ∧
      ¬ InDataArea volume volume.maxSector 512 ∧
      (volume.write P volume.maxSector (List.replicate 512 0) noFaults).1 = .ok () ∧
      (volume.write P volume.maxSector (List.replicate 512 0) noFaults).2.file.contents ≠
        volume.file.contents := by
  refine ⟨131072, rfl, fun P K => ?_⟩
  obtain ⟨-, -, st', volume, -, hopen, hlength, hfile, hoffset, hdataLength, hro, htriggered,
    hrange⟩ := exists_openedVolume P K 131072 (by decide)
  have hlength' : volume.file.contents.length = 393216 := by
    rw [hfile]
    exact hlength
  have hsector : volume.maxSector = 256 := by
    rw [OpenVolume.maxSector, hdataLength]
    decide
  have hposition : volume.position 256 = 393216 := by
    rw [OpenVolume.position_eq, OpenVolume.firstByte, hoffset]
    decide
  have haccepts : volume.Accepts 256 (List.replicate 512 (0 : UInt8)).length := by
    refine ⟨hro, htriggered, by rw [OpenVolume.checkProtectedRange, hrange], ?_⟩
    rw [hposition, List.length_replicate, maxPosition]
    norm_num
  have hbuf : (List.replicate 512 (0 : UInt8)).length = 1 * 512 := List.length_replicate
  have hwrite := OpenVolume.write_of_accepts (P := P) (by omega) hbuf haccepts
  refine ⟨st'.contents, volume, hopen, ?_, ?_, fun hsame => ?_⟩
  · rw [hsector, InDataArea, hdataLength]
    decide
  · rw [hsector, hwrite]
  · rw [hsector, hwrite] at hsame
    have hlonger := congrArg List.length hsame
    rw [OpenVolume.length_written P volume 256 (by omega) hbuf, hposition, hlength', hbuf] at hlonger
    omega

end Confinement

end Oxhide.ConfinedAccess
