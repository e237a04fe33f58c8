import Oxhide.DriverView
import Oxhide.PlainDevice

/-! # What a write does to the virtual disk

After a write, reads should show the old disk with the written data laid over it.
The pipeline lays the data over the sectors as they are stored in the host file,
without decrypting them first, so the rest of a partly written sector ends up
encrypted twice. The law therefore holds exactly when those bytes are stored as
their own plaintext, in particular for every write of whole sectors. -/
namespace Oxhide.DriverStoreLaw
open BlockCiphers DriverView EncryptedIoQueue FaultyFile ListSplice PlainDevice WordBytes

/-- Every read in bounds returns what it returned before, with the data of `w` laid
over it. -/
def StoreLaw (P : CipherSuite) (ext : Extension) (host : Bytes) (w : Irp) (host' : Bytes) : Prop :=
  ∀ (r : Irp) (before after : KernelAnswers), InBounds ext r → ReadServed ext r before host →
    ReadServed ext r after host' →
    (processReadIrp P ext r after host').userBuffer =
      overlayAt (offset r) (processReadIrp P ext r before host).userBuffer (offset w) w.userBuffer

/-- Byte `i` lies in a sector that `w` writes to. -/
def Touches (w : Irp) (i : ℕ) : Prop := ∃ k < w.length.toNat, (offset w + k) / 512 = i / 512

/-- In the sectors that `w` writes to, the bytes of the disk that it does not overwrite are
stored as their own plaintext. -/
def SparesBoundary (P : CipherSuite) (ext : Extension) (host : Bytes) (w : Irp) : Prop :=
  ∀ i < diskSize ext, Touches w i → ¬ (offset w ≤ i ∧ i < offset w + w.length.toNat) →
    host[dataStart ext + i]? = plainByte P ext host i

section Law
variable {P : CipherSuite} {ext : Extension} {host : Bytes} {w : Irp} {answers : KernelAnswers}

private theorem touches_iff {n i : ℕ}
    (hn : offset w / 512 + n = (offset w + w.length.toNat + 511) / 512)
    (hpos : 0 < w.length.toNat) :
    Touches w i ↔ offset w / 512 ≤ i / 512 ∧ i / 512 < offset w / 512 + n := by
  constructor
  · rintro ⟨k, hk, hsector⟩
    omega
  · rintro ⟨hlow, hhigh⟩
    rcases Nat.eq_or_lt_of_le hlow with heq | hlt
    · exact ⟨0, hpos, by omega⟩
    · exact ⟨i / 512 * 512 - offset w, by omega, by omega⟩

/-- What a successful write leaves in the host file, seen through reads. -/
structure Written (P : CipherSuite) (ext : Extension) (host : Bytes) (w : Irp) (host' : Bytes) :
    Prop where
  length : host'.length = host.length
  inside : ∀ i, Touches w i → dataStart ext + i / 512 * 512 + 512 ≤ host.length
  data : ∀ i, offset w ≤ i → i < offset w + w.length.toNat →
    plainByte P ext host' i = w.userBuffer[i - offset w]?
  boundary : ∀ i, Touches w i → ¬ (offset w ≤ i ∧ i < offset w + w.length.toNat) →
    plainByte P ext host' i = host[dataStart ext + i]?
  elsewhere : ∀ i, ¬ Touches w i → plainByte P ext host' i = plainByte P ext host i

private theorem processWriteIrp_zero_length (h : w.length = 0) :
    (processWriteIrp P ext w answers host).host = host := by
  have hzero : (ioParams ext w).val = .error .zeroLength := by
    simp [ioParams, SectorIo.computeSectorIoParams, h]
  rw [processWriteIrp, hzero]
  split_ifs <;> rfl

/-- A successful write has this effect. -/
theorem written_of_success (hm : Mounted ext host) (hw : InBounds ext w)
    (ht : WriteTransfers ext w answers host)
    (hok : (processWriteIrp P ext w answers host).status = statusSuccess) :
    Written P ext host w (processWriteIrp P ext w answers host).host := by
  by_cases hzero : w.length = 0
  · have hlen : w.length.toNat = 0 := by rw [hzero]; rfl
    have hnone (i : ℕ) : ¬ Touches w i := fun ⟨k, hk, _⟩ => by omega
    rw [processWriteIrp_zero_length hzero]
    exact ⟨rfl, fun i hi => absurd hi (hnone i), fun i hlow hhigh => by omega,
      fun i hi => absurd hi (hnone i), fun i _ => rfl⟩
  · have hpos := uint32_pos hzero
    obtain ⟨n, hn, hin, hhost⟩ := processWriteIrp_host hm hw hpos ht hok
    have hfits : offset w % 512 + w.length.toNat ≤ n * 512 := by omega
    have htouch (i : ℕ) := touches_iff (i := i) hn hpos
    have hbyte (i : ℕ) := plainByte_written (P := P) (i := i) hin hfits
    obtain ⟨-, hwritten⟩ := length_writtenSectors P ext w host n hin hfits
    rw [hhost]
    refine ⟨length_splice (by rw [hwritten]; omega), fun i hi => ?_, fun i hlow hhigh => ?_,
      fun i hi hout => ?_, fun i hi => ?_⟩
    · obtain ⟨-, hlast⟩ := (htouch i).mp hi
      linarith
    · rw [hbyte, if_pos (by omega), if_pos ⟨hlow, hhigh⟩]
    · rw [hbyte, if_pos ((htouch i).mp hi), if_neg hout]
    · rw [hbyte, if_neg fun h => hi ((htouch i).mpr h)]

theorem Written.mounted {host' : Bytes} (h : Written P ext host w host') (hm : Mounted ext host) :
    Mounted ext host' :=
  ⟨hm.aligned, h.length ▸ hm.covered, h.length ▸ hm.fileSize⟩

/-- Where the boundary bytes are their own plaintext, the law holds. -/
theorem Written.storeLaw {host' : Bytes} (h : Written P ext host w host')
    (hm : Mounted ext host) (hspares : SparesBoundary P ext host w) :
    StoreLaw P ext host w host' := by
  intro r before after hr hbefore hafter
  obtain ⟨-, hlen, hshows⟩ := processReadIrp_plain (P := P) hm hr hbefore
  obtain ⟨-, hlen', hshows'⟩ := processReadIrp_plain (P := P) (h.mounted hm) hr hafter
  have hold : Shows (plainByte P ext host) (offset r)
      (processReadIrp P ext r before host).userBuffer := by
    rw [Shows, hlen]
    exact hshows
  have hnew : Shows (plainByte P ext host') (offset r)
      (processReadIrp P ext r after host').userBuffer := by
    rw [Shows, hlen']
    exact hshows'
  refine Shows.unique (hnew.congr fun k hk => ?_) (hold.overlay (offset w) w.userBuffer)
    (by rw [length_overlayAt, hlen, hlen'])
  have hdisk : offset r + k < diskSize ext := by
    have hbound := hr.inside
    omega
  rw [Device.store, w.userBuffer_length]
  by_cases hin : offset w ≤ offset r + k ∧ offset r + k < offset w + w.length.toNat
  · rw [if_pos hin, h.data _ hin.1 hin.2]
  · rw [if_neg hin]
    by_cases htouched : Touches w (offset r + k)
    · rw [h.boundary _ htouched hin, hspares _ hdisk htouched hin]
    · rw [h.elsewhere _ htouched]

/-- A read of the single byte at `i`. -/
def byteRead (i : ℕ) : Irp where
  major := .read
  byteOffset := Int64.ofNat i
  length := 1
  userBuffer := [0]
  userBuffer_length := rfl

theorem byteRead_spec (hdisk : diskSize ext ≤ 2 ^ 63) {i : ℕ} (hi : i < diskSize ext) :
    offset (byteRead i) = i ∧ (byteRead i).length.toNat = 1 ∧ InBounds ext (byteRead i) := by
  have hoffset : offset (byteRead i) = i := by
    rw [offset, byteRead, Int64.toUInt64_ofNat', UInt64.toNat_ofNat', Nat.mod_eq_of_lt (by omega)]
  refine ⟨hoffset, rfl, ?_, ?_⟩
  · change Int64.ofNat 0 ≤ Int64.ofNat i
    rw [Int64.ofNat_le_iff_le (by omega) (by omega)]
    omega
  · rw [hoffset]
    exact hi

/-- The law forces the boundary bytes to be their own plaintext: read them back. -/
theorem Written.sparesBoundary {host' : Bytes} (h : Written P ext host w host')
    (hm : Mounted ext host) (hlaw : StoreLaw P ext host w host') :
    SparesBoundary P ext host w := by
  intro i hi htouched hout
  have hdisk : diskSize ext ≤ 2 ^ 63 := by
    have hcovered := hm.covered
    have hfile := hm.fileSize
    rw [maxPosition] at hfile
    omega
  obtain ⟨hoffset, hlength, hb⟩ := byteRead_spec hdisk hi
  have hinside := h.inside i htouched
  have hfits : dataStart ext + (offset (byteRead i) + (byteRead i).length.toNat + 511) / 512 *
      512 ≤ host.length := by
    rw [hoffset, hlength]
    omega
  have hshort : (byteRead i).length.toNat + 1024 < 2 ^ 32 := by
    rw [hlength]
    norm_num
  have hbefore := readServed_prompt hm hb hfits hshort
  have hafter := readServed_prompt (h.mounted hm) hb (h.length ▸ hfits) hshort
  obtain ⟨-, hlen, hshows⟩ := processReadIrp_plain (P := P) hm hb hbefore
  obtain ⟨-, -, hshows'⟩ := processReadIrp_plain (P := P) (h.mounted hm) hb hafter
  have hlaw' := hlaw (byteRead i) promptAnswers promptAnswers hb hbefore hafter
  have hold : Shows (plainByte P ext host) (offset (byteRead i))
      (processReadIrp P ext (byteRead i) promptAnswers host).userBuffer := by
    rw [Shows, hlen]
    exact hshows
  have hoverlay := hold.overlay (offset w) w.userBuffer 0 (by rw [length_overlayAt]; omega)
  have hnew := hshows' 0 (by omega)
  rw [hlaw', hoverlay, Device.store, w.userBuffer_length, hoffset, Nat.add_zero, if_neg hout] at hnew
  rw [hnew, h.boundary i htouched hout]

/-- A write of whole sectors has no boundary bytes. -/
theorem sparesBoundary_of_whole_sectors (hoffset : offset w % 512 = 0)
    (hlength : w.length.toNat % 512 = 0) : SparesBoundary P ext host w := by
  rintro i - ⟨k, hk, hsector⟩ hout
  omega

end Law

section Sample

/-! A volume of 256 KiB under the all-zero AES key, on a host file of zeros. The first
sector decrypts to something else than zeros. -/

/-- AES-256 under the zero key, as far as the first block of the volume asks for it. -/
def zeroKeyAes : CipherSuite := CipherSuite.ofPairs [(0, 0x8720849214A248AD898940A278C095DC)]

def zeroKey : BlockCipher := ⟨.aes, List.replicate 32 0, by simp⟩

def zeroVolume : Extension where
  volDataAreaOffset := 262144
  firstDataUnitNo := 0
  diskLength := 262144
  bReadOnly := 0
  cryptoInfo := .single ⟨zeroKey, zeroKey⟩

def zeroHost : Bytes := List.replicate 524288 0

def oneByteWrite : Irp where
  major := .write
  byteOffset := 0
  length := 1
  userBuffer := [0]
  userBuffer_length := rfl

theorem zeroVolume_mounted : Mounted zeroVolume zeroHost := by
  refine ⟨by decide, ?_, ?_⟩
  · rw [zeroHost, List.length_replicate]
    decide
  · rw [zeroHost, List.length_replicate]
    decide

theorem oneByteWrite_inBounds : InBounds zeroVolume oneByteWrite := ⟨by decide, by decide⟩

private theorem oneByteWrite_fits : dataStart zeroVolume +
    (offset oneByteWrite + oneByteWrite.length.toNat + 511) / 512 * 512 ≤ zeroHost.length := by
  rw [zeroHost, List.length_replicate]
  decide

theorem oneByteWrite_transfers : WriteTransfers zeroVolume oneByteWrite promptAnswers zeroHost :=
  writeTransfers_prompt zeroVolume_mounted oneByteWrite_inBounds oneByteWrite_fits (by decide)

theorem oneByteWrite_success :
    (processWriteIrp zeroKeyAes zeroVolume oneByteWrite promptAnswers zeroHost).status =
      statusSuccess :=
  processWriteIrp_prompt zeroVolume_mounted oneByteWrite_inBounds oneByteWrite_fits (by decide)
    rfl

end Sample

/-- A successful write in bounds obeys the store law exactly when it spares its boundary. -/
theorem storeLaw_processWriteIrp_iff (P : CipherSuite) (ext : Extension) (host : Bytes) (w : Irp)
    (answers : KernelAnswers) (hm : Mounted ext host) (hw : InBounds ext w)
    (ht : WriteTransfers ext w answers host)
    (hok : (processWriteIrp P ext w answers host).status = statusSuccess) :
    StoreLaw P ext host w (processWriteIrp P ext w answers host).host ↔
      SparesBoundary P ext host w := by
  have h := written_of_success hm hw ht hok
  exact ⟨h.sparesBoundary hm, h.storeLaw hm⟩

theorem storeLaw_oneByteWrite_iff :
    StoreLaw zeroKeyAes zeroVolume zeroHost oneByteWrite
        (processWriteIrp zeroKeyAes zeroVolume oneByteWrite promptAnswers zeroHost).host ↔
      SparesBoundary zeroKeyAes zeroVolume zeroHost oneByteWrite :=
  storeLaw_processWriteIrp_iff zeroKeyAes zeroVolume zeroHost oneByteWrite promptAnswers
    zeroVolume_mounted oneByteWrite_inBounds oneByteWrite_transfers oneByteWrite_success

/-- Writing one byte changes what the next byte of the sector reads as. -/
theorem oneByteWrite_breaks_storeLaw : Mounted zeroVolume zeroHost ∧
    InBounds zeroVolume oneByteWrite ∧
    WriteTransfers zeroVolume oneByteWrite promptAnswers zeroHost ∧
    (processWriteIrp zeroKeyAes zeroVolume oneByteWrite promptAnswers zeroHost).status =
      statusSuccess ∧
    ¬ StoreLaw zeroKeyAes zeroVolume zeroHost oneByteWrite
      (processWriteIrp zeroKeyAes zeroVolume oneByteWrite promptAnswers zeroHost).host := by
  refine ⟨zeroVolume_mounted, oneByteWrite_inBounds, oneByteWrite_transfers, oneByteWrite_success,
    fun hlaw => ?_⟩
  have hwritten := written_of_success zeroVolume_mounted oneByteWrite_inBounds
    oneByteWrite_transfers oneByteWrite_success
  have hbyte := hwritten.sparesBoundary zeroVolume_mounted hlaw 1 (by decide)
    ⟨0, by decide, by decide⟩ (by decide)
  have hinside : dataStart zeroVolume + 1 / 512 * 512 + 512 ≤ zeroHost.length := by
    rw [zeroHost, List.length_replicate]
    decide
  have hstart : dataStart zeroVolume = 262144 := rfl
  rw [plainByte_eq_block hinside, hstart, zeroHost, slice_replicate (by norm_num),
    List.getElem?_replicate, if_pos (by norm_num)] at hbyte
  revert hbyte
  decide

end Oxhide.DriverStoreLaw
