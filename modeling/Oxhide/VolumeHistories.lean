import Oxhide.DataWrites
import Oxhide.DiskHistories
import Oxhide.UserStoreLaw

/-! # An open volume under a history of sector calls

The sectors of an open volume are read and written one at a time, with any faults of the
file. The calls show a history of one plain disk (`calls_serve`): what a sector holds is what
the last write stored there, as long as no failed write has torn it. -/
namespace Oxhide.VolumeHistories
open BlockCiphers CheckedWords CipherChain DataWrites DiskHistories FaultyFile ListBlocks
  ListSplice OpenVolumes PlainDevice SectorCiphers UserStoreLaw VolumeErrors WordBytes

section Calls
variable {P : CipherSuite} {volume : OpenVolume} {sector : UInt64} {plan : FaultPlan}

/-- What a successful read returns, whatever faults the file still has. -/
theorem eq_of_read_eq_ok {n : ℕ} (hn : 0 < n) {out : Bytes}
    (h : (volume.read P sector (n * 512) plan).1 = .ok out) :
    out = decryptUnit P volume.cipher.chain sector (n * 32)
      (slice volume.file.contents (volume.position sector) (n * 512)) := by
  rw [OpenVolume.read, if_neg (aligned_of_sectors rfl)] at h
  cases hrun : readSectors P volume.cipher volume.inner.dataOffset sector (n * 512) plan
      volume.file with
  | mk result file =>
    rw [hrun] at h
    obtain rfl : result = .ok out := h
    simp only [readSectors, FileIo.bind_eq_ok, FileIo.mapError_eq_ok, seekStart_eq_ok,
      readExact_eq_ok (show n * 512 ≠ 0 by omega), FileIo.lift_eq_ok] at hrun
    obtain ⟨_, _, ⟨-, -, rfl⟩, buffer, _, ⟨-, hin, hbuffer, -⟩, hout, -⟩ := hrun
    have hslice : buffer = slice volume.file.contents (volume.position sector) (n * 512) := hbuffer
    have hlen : buffer.length = n * 512 := by
      rw [hslice]
      exact length_slice_of_le hin
    have hblocks : n * 512 / 16 = n * 32 := by omega
    rw [outcome, volume.cipher.decryptSector_eq sector (show 0 < buffer.length / 16 by omega)
      (by omega), hlen, hblocks, hslice] at hout
    exact (Except.ok.inj hout).symm

/-- What a successful write leaves in the file. -/
theorem contents_of_write_eq_ok {n : ℕ} (hn : 0 < n) {buf : Bytes} (h : buf.length = n * 512)
    (hok : (volume.write P sector buf plan).1 = .ok ()) :
    (volume.write P sector buf plan).2.file.contents =
      storeAt 0 volume.file.contents (volume.position sector)
        (volume.encrypted P sector buf) := by
  have haligned := aligned_of_sectors h
  simp only [OpenVolume.write, if_neg haligned] at hok ⊢
  split_ifs at hok ⊢
  cases hrun : writeSectors P volume.cipher volume.inner.dataOffset sector buf plan
      volume.file with
  | mk result file =>
    rw [hrun] at hok
    obtain rfl : result = .ok () := hok
    simp only [writeSectors, FileIo.bind_eq_ok, FileIo.mapError_eq_ok, seekStart_eq_ok,
      writeAll_eq_ok, FileIo.lift_eq_ok] at hrun
    obtain ⟨out, _, ⟨hout, rfl⟩, _, _, ⟨-, -, rfl⟩, -, -, rfl⟩ := hrun
    rw [outcome, volume.cipher.encryptSector_eq sector (show 0 < buf.length / 16 by omega)
      (by omega)] at hout
    obtain rfl := Except.ok.inj hout
    rfl

end Calls

/-- One call for a single sector, with the faults of the file during it. -/
inductive SectorCall where
  | read (sector : UInt64) (plan : FaultPlan)
  | write (w : SectorWrite)

def SectorCall.sector : SectorCall → UInt64
  | .read sector _ => sector
  | .write w => w.sector

section Histories
variable (P : CipherSuite)

/-- The volume behind a call. -/
def serve (volume : OpenVolume) : SectorCall → OpenVolume
  | .read sector plan => (volume.read P sector 512 plan).2
  | .write w => (volume.write P w.sector w.buf w.plan).2

/-- What a call shows to its caller. -/
def event (volume : OpenVolume) : SectorCall → Event UInt8
  | .read sector plan =>
    match (volume.read P sector 512 plan).1 with
    | .ok data => .read (512 * sector.toNat) data
    | .error _ => .refused
  | .write w =>
    match (volume.write P w.sector w.buf w.plan).1 with
    | .ok _ => .stored (512 * w.sector.toNat) w.buf
    | .error .hiddenVolumeProtection => .refused
    | .error _ => if volume.readOnly then .refused else .torn (512 * w.sector.toNat) 512

/-- Sector `s` of the data area of a volume on a file. -/
def plainSector (volume : OpenVolume) (contents : Bytes) (s : ℕ) : Bytes :=
  decryptUnit P volume.cipher.chain (UInt64.ofNat s) 32
    (slice contents (volume.inner.dataOffset.toNat + 512 * s) 512)

/-- The disk that a volume shows on a file: its sectors up to the last whole one. -/
def disk (volume : OpenVolume) (contents : Bytes) : Device UInt8 := fun i =>
  if i / 512 < volume.maxSector.toNat then (plainSector P volume contents (i / 512))[i % 512]?
  else none

end Histories

/-- The data area of the volume lies in the file. -/
structure Ready (volume : OpenVolume) (contents : Bytes) : Prop where
  inside : volume.inner.dataOffset.toNat + volume.inner.dataLength.toNat ≤ contents.length
  fileSize : contents.length ≤ maxPosition

section Steps
variable {P : CipherSuite} {volume : OpenVolume} {contents : Bytes} {call : SectorCall}

theorem sectors_fit (volume : OpenVolume) :
    512 * volume.maxSector.toNat ≤ volume.inner.dataLength.toNat := by
  rw [OpenVolume.maxSector, UInt64.toNat_div, show dataUnitSize.toNat = 512 from rfl]
  exact Nat.mul_div_le _ _

/-- A sector of the volume lies in the file where it should. -/
theorem position_of_ready (h : Ready volume contents) {sector : UInt64}
    (hsector : sector.toNat < volume.maxSector.toNat) :
    volume.position sector = volume.inner.dataOffset.toNat + 512 * sector.toNat ∧
      volume.inner.dataOffset.toNat + 512 * sector.toNat + 512 ≤ contents.length := by
  have hfit := sectors_fit volume
  have hinside := h.inside
  have hfile := h.fileSize
  have hmax : maxPosition < 2 ^ 64 := by decide
  rw [OpenVolume.position_eq, OpenVolume.firstByte, Nat.mod_eq_of_lt (by omega)]
  exact ⟨rfl, by omega⟩

/-- What a call does to a file: nothing, or it stores in the sector, and all of the sector
when it succeeds. -/
structure SectorEffect (P : CipherSuite) (volume : OpenVolume) (w : SectorWrite)
    (before after : Bytes) : Prop where
  length : after.length = before.length
  spared : ∀ off n, off + n ≤ volume.inner.dataOffset.toNat + 512 * w.sector.toNat ∨
    volume.inner.dataOffset.toNat + 512 * w.sector.toNat + 512 ≤ off →
      slice after off n = slice before off n
  stored : (volume.write P w.sector w.buf w.plan).1 = .ok () →
    slice after (volume.inner.dataOffset.toNat + 512 * w.sector.toNat) 512 =
      encryptUnit P volume.cipher.chain w.sector 32 w.buf

theorem sectorEffect_write (h : Ready volume volume.file.contents) (w : SectorWrite)
    (hsector : w.sector.toNat < volume.maxSector.toNat) :
    SectorEffect P volume w volume.file.contents
      (volume.write P w.sector w.buf w.plan).2.file.contents := by
  obtain ⟨hposition, hin⟩ := position_of_ready h hsector
  have hlen := OpenVolume.length_encrypted P volume w.sector (n := 1) (by omega) w.buf_length
  rw [w.buf_length] at hlen
  obtain ⟨file, triggered, k, hrun, hcontents⟩ :=
    OpenVolume.write_effect P volume w.sector w.plan (n := 1) (by omega) w.buf_length
  have htake : ((volume.encrypted P w.sector w.buf).take k).length ≤ 512 := by
    rw [List.length_take, hlen]
    exact min_le_right _ _
  rw [hposition, storeAt_of_le (by omega)] at hcontents
  refine ⟨?_, fun off n hout => ?_, fun hok => ?_⟩
  · rw [hrun]
    exact (congrArg List.length hcontents).trans (length_splice (by omega))
  · rw [hrun]
    change slice file.contents off n = _
    rw [hcontents]
    exact slice_splice_of_disjoint (by omega) (by omega)
  · rw [contents_of_write_eq_ok (n := 1) (by omega) w.buf_length hok, hposition]
    have hself := slice_storeAt_self 0 volume.file.contents (volume.encrypted P w.sector w.buf)
      (volume.inner.dataOffset.toNat + 512 * w.sector.toNat)
    rw [hlen] at hself
    rw [hself, OpenVolume.encrypted, w.buf_length]

/-- A sector that was stored shows what was stored. -/
theorem plainSector_stored {after : Bytes} {w : SectorWrite}
    (hstored : slice after (volume.inner.dataOffset.toNat + 512 * w.sector.toNat) 512 =
      encryptUnit P volume.cipher.chain w.sector 32 w.buf) :
    plainSector P volume after w.sector.toNat = w.buf := by
  rw [plainSector, hstored, UInt64.ofNat_toNat, decryptUnit_encryptUnit (n := 32) w.buf_length]

/-- The disk after a write. -/
theorem SectorEffect.disk_spared {after : Bytes} {w : SectorWrite}
    (h : SectorEffect P volume w contents after) {i : ℕ}
    (hi : i < 512 * w.sector.toNat ∨ 512 * w.sector.toNat + 512 ≤ i) :
    disk P volume after i = disk P volume contents i := by
  have hsector : i / 512 < w.sector.toNat ∨ w.sector.toNat + 1 ≤ i / 512 := by omega
  rw [disk, disk, plainSector, plainSector, h.spared _ _ (by omega)]

theorem SectorEffect.disk_stored {after : Bytes} {w : SectorWrite}
    (h : SectorEffect P volume w contents after)
    (hsector : w.sector.toNat < volume.maxSector.toNat)
    (hok : (volume.write P w.sector w.buf w.plan).1 = .ok ()) :
    disk P volume after = (disk P volume contents).store (512 * w.sector.toNat) w.buf := by
  funext i
  rw [Device.store, w.buf_length]
  by_cases hi : 512 * w.sector.toNat ≤ i ∧ i < 512 * w.sector.toNat + 512
  · have hnumber : i / 512 = w.sector.toNat := by omega
    have hbyte : i % 512 = i - 512 * w.sector.toNat := by omega
    rw [if_pos hi, disk, hnumber, if_pos hsector, plainSector_stored (h.stored hok), hbyte]
  · rw [if_neg hi, h.disk_spared (by omega)]

/-- The part of a volume that no call changes. -/
theorem serve_frame (P : CipherSuite) (volume : OpenVolume) (call : SectorCall) :
    ∃ file triggered, serve P volume call =
      { volume with file := file, hiddenProtectionTriggered := triggered } := by
  cases call with
  | read sector plan =>
    obtain ⟨file, hrun, -⟩ := OpenVolume.read_effect P volume sector plan 512
    exact ⟨file, volume.hiddenProtectionTriggered, hrun⟩
  | write w => exact OpenVolume.write_frame P volume w.sector w.plan w.buf

@[simp] theorem disk_serve (P : CipherSuite) (volume : OpenVolume) (call : SectorCall) :
    disk P (serve P volume call) = disk P volume := by
  obtain ⟨file, triggered, hframe⟩ := serve_frame P volume call
  rw [hframe]
  rfl

/-- A refused write leaves the file as it is. -/
theorem contents_of_refused {w : SectorWrite}
    (h : (volume.write P w.sector w.buf w.plan).1 = .error .hiddenVolumeProtection ∨
      volume.readOnly = true) :
    (volume.write P w.sector w.buf w.plan).2.file.contents = volume.file.contents := by
  by_cases hro : volume.readOnly = true
  · rw [OpenVolume.write, if_pos hro]
  · rcases OpenVolume.write_cases P volume w.sector w.plan (n := 1) (by omega) w.buf_length
      (Bool.not_eq_true _ ▸ hro) with ⟨hrun, -⟩ | ⟨result, file, k, hrun, hresult, -⟩
    · rw [hrun]
    · rw [hrun] at h
      exact absurd h (not_or.mpr ⟨hresult, hro⟩)

private theorem step_read (sector : UInt64) (plan : FaultPlan)
    (h : Ready volume volume.file.contents) (hsector : sector.toNat < volume.maxSector.toNat) :
    Step (disk P volume volume.file.contents) (event P volume (.read sector plan))
      (disk P volume volume.file.contents) := by
  rw [event]
  cases hresult : (volume.read P sector 512 plan).1 with
  | error e => exact Step.refused _
  | ok data =>
    obtain ⟨hposition, hin⟩ := position_of_ready h hsector
    have hdata := eq_of_read_eq_ok (n := 1) (by omega) hresult
    rw [hposition] at hdata
    have hsame : data = plainSector P volume volume.file.contents sector.toNat := by
      rw [hdata, plainSector, UInt64.ofNat_toNat]
    have hlen : data.length = 512 := by
      rw [hdata, length_decryptUnit (n := 1 * 32) (length_slice_of_le hin)]
      exact length_slice_of_le hin
    refine Step.read fun k hk => ?_
    have hnumber : (512 * sector.toNat + k) / 512 = sector.toNat := by omega
    have hbyte : (512 * sector.toNat + k) % 512 = k := by omega
    rw [disk, hnumber, hbyte, if_pos hsector, ← hsame]

private theorem step_write (w : SectorWrite) (h : Ready volume volume.file.contents)
    (hsector : w.sector.toNat < volume.maxSector.toNat) :
    Step (disk P volume volume.file.contents) (event P volume (.write w))
      (disk P volume (volume.write P w.sector w.buf w.plan).2.file.contents) := by
  have heffect := sectorEffect_write (P := P) h w hsector
  have htorn : Step (disk P volume volume.file.contents) (.torn (512 * w.sector.toNat) 512)
      (disk P volume (volume.write P w.sector w.buf w.plan).2.file.contents) :=
    Step.torn fun i hi => heffect.disk_spared hi
  have hrefused (hwhy : (volume.write P w.sector w.buf w.plan).1 =
      .error .hiddenVolumeProtection ∨ volume.readOnly = true) :
      Step (disk P volume volume.file.contents) .refused
        (disk P volume (volume.write P w.sector w.buf w.plan).2.file.contents) := by
    rw [contents_of_refused hwhy]
    exact Step.refused _
  rw [event]
  split
  · next u hok =>
    rw [heffect.disk_stored hsector hok]
    exact Step.stored _ _ _
  · next hprotected => exact hrefused (.inl hprotected)
  · split_ifs with hro
    · exact hrefused (.inr hro)
    · exact htorn

/-- A call for a sector of the volume serves its disk. -/
theorem step_serve (h : Ready volume volume.file.contents)
    (hsector : call.sector.toNat < volume.maxSector.toNat) :
    Ready volume (serve P volume call).file.contents ∧
      Step (disk P volume volume.file.contents) (event P volume call)
        (disk P volume (serve P volume call).file.contents) := by
  cases call with
  | read sector plan =>
    obtain ⟨file, hrun, hcontents⟩ := OpenVolume.read_effect P volume sector plan 512
    have hsame : (serve P volume (.read sector plan)).file.contents = volume.file.contents := by
      rw [serve, hrun]
      exact hcontents
    rw [hsame]
    exact ⟨h, step_read sector plan h hsector⟩
  | write w =>
    have heffect := sectorEffect_write (P := P) h w hsector
    exact ⟨⟨heffect.length ▸ h.inside, heffect.length ▸ h.fileSize⟩, step_write w h hsector⟩

end Steps

/-- A history of calls for sectors of the volume is a history of one plain disk, and each of
its reads returns what was stored last. -/
theorem calls_serve (P : CipherSuite) (volume : OpenVolume)
    (h : Ready volume volume.file.contents) (calls : List SectorCall)
    (hcalls : ∀ call ∈ calls, call.sector.toNat < volume.maxSector.toNat) :
    Serves (disk P volume volume.file.contents) (history (serve P) (event P) volume calls)
        (disk P volume (calls.foldl (serve P) volume).file.contents) ∧
      ∀ before o data after,
        history (serve P) (event P) volume calls = before ++ .read o data :: after →
        ∀ k < data.length, ∀ entry,
          remembered (disk P volume volume.file.contents) before (o + k) = some entry →
            data[k]? = entry := by
  have hstep : ∀ v call, (v.inner = volume.inner ∧ disk P v = disk P volume ∧
      Ready v v.file.contents) → call.sector.toNat < volume.maxSector.toNat →
        ((serve P v call).inner = volume.inner ∧ disk P (serve P v call) = disk P volume ∧
          Ready (serve P v call) (serve P v call).file.contents) ∧
        Step (disk P volume v.file.contents) (event P v call)
          (disk P volume (serve P v call).file.contents) := by
    rintro v call ⟨hinner, hdisk, hready⟩ hsector
    have hsize : v.maxSector = volume.maxSector := by
      rw [OpenVolume.maxSector, hinner, ← OpenVolume.maxSector]
    obtain ⟨hnext, hstep⟩ := step_serve (P := P) hready (hsize ▸ hsector)
    obtain ⟨file, triggered, hframe⟩ := serve_frame P v call
    have hsame : (serve P v call).inner = v.inner := by rw [hframe]
    rw [hdisk] at hstep
    refine ⟨⟨hsame.trans hinner, (disk_serve P v call).trans hdisk, ?_⟩, hstep⟩
    exact ⟨hsame ▸ hnext.inside, hnext.fileSize⟩
  have hserves := @serves_history _ _ _ (serve P) (event P)
    (fun v => disk P volume v.file.contents) _ (fun call => call.sector.toNat <
      volume.maxSector.toNat) hstep volume ⟨rfl, rfl, h⟩ calls hcalls
  refine ⟨hserves, fun before o data after hsplit k hk entry hentry => ?_⟩
  rw [hsplit] at hserves
  exact hserves.read_known hk hentry

section Sample

/-! The first sector of the all-zero volume is written and read back. -/

private theorem zeroVolume_ready : Ready zeroVolume zeroVolume.file.contents ∧
    0 < zeroVolume.maxSector.toNat ∧ zeroVolume.position 0 = 262144 := by
  have hlen : zeroVolume.file.contents.length = 524288 := List.length_replicate
  have hoffset : zeroVolume.inner.dataOffset.toNat = 262144 ∧
      zeroVolume.inner.dataLength.toNat = 262144 := by decide
  refine ⟨⟨?_, ?_⟩, by decide, by decide⟩
  · rw [hlen, hoffset.1, hoffset.2]
  · rw [hlen, maxPosition]
    norm_num

/-- What was written is read back. -/
theorem written_sector_read : ∃ data,
    history (serve zeroKeyUnits) (event zeroKeyUnits) zeroVolume
        [.write (sectorOf 1), .read 0 noFaults] =
      [.stored 0 (List.replicate 512 1), .read 0 data] ∧ data = List.replicate 512 1 := by
  obtain ⟨hready, hsectors, hposition⟩ := zeroVolume_ready
  have hlen : zeroVolume.file.contents.length = 524288 := List.length_replicate
  have hbuf : (sectorOf 1).buf.length = 512 := (sectorOf 1).buf_length
  have haccepts : zeroVolume.Accepts (sectorOf 1).sector (sectorOf 1).buf.length := by
    refine ⟨rfl, rfl, rfl, ?_⟩
    rw [show (sectorOf 1).sector = 0 from rfl, hposition, hbuf, maxPosition]
    norm_num
  have hwrite := OpenVolume.write_of_accepts (P := zeroKeyUnits) (n := 1) (by omega) hbuf
    haccepts
  have hlen' := (sectorEffect_write (P := zeroKeyUnits) hready (sectorOf 1) hsectors).length
  obtain ⟨file, triggered, hframe⟩ := serve_frame zeroKeyUnits zeroVolume (.write (sectorOf 1))
  have hnext : (serve zeroKeyUnits zeroVolume (.write (sectorOf 1))).position 0 = 262144 := by
    rw [hframe]
    exact hposition
  have hnextLen : (serve zeroKeyUnits zeroVolume
      (.write (sectorOf 1))).file.contents.length = 524288 := by
    rw [serve, hlen', hlen]
  obtain ⟨data, hread⟩ : ∃ data, ((serve zeroKeyUnits zeroVolume (.write (sectorOf 1))).read
      zeroKeyUnits 0 512 noFaults).1 = .ok data := by
    refine ⟨_, (OpenVolume.read_eq_ok_iff zeroKeyUnits _ 0 (n := 1) (by omega) _).mpr
      ⟨?_, ?_, rfl⟩⟩
    · rw [hnext, maxPosition]
      norm_num
    · rw [hnext, hnextLen]
      norm_num
  have hfirst : event zeroKeyUnits zeroVolume (.write (sectorOf 1)) =
      .stored 0 (List.replicate 512 1) := by
    rw [event]
    simp only [show (sectorOf 1).plan = noFaults from rfl, hwrite]
    rfl
  have hsecond : event zeroKeyUnits (serve zeroKeyUnits zeroVolume (.write (sectorOf 1)))
      (.read 0 noFaults) = .read 0 data := by
    rw [event, hread]
    rfl
  have hhistory : history (serve zeroKeyUnits) (event zeroKeyUnits) zeroVolume
      [.write (sectorOf 1), .read 0 noFaults] =
        [.stored 0 (List.replicate 512 1), .read 0 data] := by
    rw [history, history, history, hfirst, hsecond]
  have hcalls : ∀ call ∈ [SectorCall.write (sectorOf 1), .read 0 noFaults],
      call.sector.toNat < zeroVolume.maxSector.toNat := by
    intro call hcall
    simp only [List.mem_cons, List.not_mem_nil, or_false] at hcall
    rcases hcall with rfl | rfl <;> exact hsectors
  have hserves := (calls_serve zeroKeyUnits zeroVolume hready _ hcalls).1
  rw [hhistory] at hserves
  refine ⟨data, hhistory, hserves.read_stored ?_⟩
  have hslice : (slice (serve zeroKeyUnits zeroVolume (.write (sectorOf 1))).file.contents
      ((serve zeroKeyUnits zeroVolume (.write (sectorOf 1))).position 0) (1 * 512)).length =
        1 * 512 := length_slice_of_le (by rw [hnext, hnextLen]; norm_num)
  rw [eq_of_read_eq_ok (n := 1) (by omega) hread, length_decryptUnit (n := 1 * 32) hslice, hslice,
    List.length_replicate]

end Sample

end Oxhide.VolumeHistories
