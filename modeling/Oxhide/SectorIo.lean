import Oxhide.CheckedWords
import Oxhide.SectorCiphers

/-! # Sector-aligned I/O parameters and sector loops

A request for bytes `[v, v + l)` of the virtual disk is widened to whole sectors
of the host file. `computeSectorIoParams_spec` gives the widened range and the
first data-unit number in ordinary arithmetic, for every data area offset: when
the offset is not a multiple of 512 the unit number is computed from a wrapped
difference for requests that begin in the first, partial sector. -/
namespace Oxhide.SectorIo
open CheckedWords CipherChain InPlaceBuffer ListBlocks ListSplice SectorCiphers BlockCiphers
  WordBytes

def encryptionDataUnitSize : UInt64 := 512

inductive SectorIoError where
  | outOfBounds
  | zeroLength
  | invalidAlignment
  deriving DecidableEq, Repr

structure SectorIoParams where
  alignedHostOffset : UInt64
  alignedLength : UInt64
  userDataOffset : ℕ
  userDataLength : ℕ
  sectorCount : ℕ
  firstSectorIndex : UInt64
  deriving DecidableEq, Repr

def computeSectorIoParams (volDataAreaOffset firstDataUnitNo virtualOffset length
    diskLength : UInt64) : Checked (Except SectorIoError SectorIoParams) := do
  if length = 0 then
    return .error .zeroLength
  let requestEnd ← Checked.add virtualOffset length
  if requestEnd > diskLength then
    return .error .outOfBounds
  let hostOffset ← Checked.add volDataAreaOffset virtualOffset
  let unit := encryptionDataUnitSize
  let alignedOff ← Checked.mul (hostOffset / unit) unit
  let endByte ← Checked.add hostOffset length
  let alignedEnd ← Checked.mul ((← Checked.sub (← Checked.add endByte unit) 1) / unit) unit
  let bufSize ← Checked.sub alignedEnd alignedOff
  let sectorCount := bufSize.toNat / unit.toNat
  let userOff ← Checked.sub hostOffset alignedOff
  if bufSize.toNat % unit.toNat ≠ 0 then
    return .error .invalidAlignment
  let baseUnit ← Checked.add firstDataUnitNo ((← Checked.sub alignedOff volDataAreaOffset) / unit)
  return .ok {
    alignedHostOffset := alignedOff
    alignedLength := bufSize
    userDataOffset := userOff.toNat
    userDataLength := length.toNat
    sectorCount := sectorCount
    firstSectorIndex := baseUnit }

/-- `data` holds at least `sectorCount` sectors. -/
def encryptSectors (P : CipherSuite) (cipher : KernelSectorCipher) (firstSectorIndex : UInt64)
    (sectorCount : ℕ) : InPlace CryptoError UInt8 :=
  InPlace.forBlocks encryptionDataUnitSize.toNat
    (fun i => cipher.encryptSector P (firstSectorIndex + UInt64.ofNat i)) sectorCount

def decryptSectors (P : CipherSuite) (cipher : KernelSectorCipher) (firstSectorIndex : UInt64)
    (sectorCount : ℕ) : InPlace CryptoError UInt8 :=
  InPlace.forBlocks encryptionDataUnitSize.toNat
    (fun i => cipher.decryptSector P (firstSectorIndex + UInt64.ofNat i)) sectorCount

section Loops
variable {P : CipherSuite}

/-- Every sector is encrypted as the data unit with its own number. -/
theorem encryptSectors_eq (cipher : KernelSectorCipher) (first : UInt64) {n : ℕ} {data : Bytes}
    (h : n * 512 ≤ data.length) :
    encryptSectors P cipher first n data =
      (.ok (), mapBlocks 512 (fun i => encryptUnit P cipher.chain (first + UInt64.ofNat i) 32) n
        data) := by
  apply InPlace.forBlocks_eq_mapBlocks (w := 512) _ h
  · intro i _ blk hblk
    exact cipher.encryptSector_eq _ hblk
  · intro i blk hblk
    rw [length_encryptUnit (n := 32) hblk, hblk]

theorem decryptSectors_eq (cipher : KernelSectorCipher) (first : UInt64) {n : ℕ} {data : Bytes}
    (h : n * 512 ≤ data.length) :
    decryptSectors P cipher first n data =
      (.ok (), mapBlocks 512 (fun i => decryptUnit P cipher.chain (first + UInt64.ofNat i) 32) n
        data) := by
  apply InPlace.forBlocks_eq_mapBlocks (w := 512) _ h
  · intro i _ blk hblk
    exact cipher.decryptSector_eq _ hblk
  · intro i blk hblk
    rw [length_decryptUnit (n := 32) hblk, hblk]

end Loops

section Alignment

/-- `p` describes the whole sectors that `[h, h + l)` of the host file touches. -/
structure Widens (p : SectorIoParams) (h l : ℕ) : Prop where
  offset : p.alignedHostOffset.toNat = h / 512 * 512
  length : p.alignedLength.toNat = p.sectorCount * 512
  stop : h / 512 * 512 + p.sectorCount * 512 = (h + l + 511) / 512 * 512
  userOffset : p.userDataOffset = h % 512
  userLength : p.userDataLength = l

/-- The requested bytes lie inside the widened range. -/
theorem Widens.user_fits {p : SectorIoParams} {h l : ℕ} (hw : Widens p h l) :
    p.userDataOffset + p.userDataLength ≤ p.sectorCount * 512 := by
  have hstop := hw.stop
  rw [hw.userOffset, hw.userLength]
  omega

theorem Widens.unique {p q : SectorIoParams} {h l : ℕ} (hp : Widens p h l) (hq : Widens q h l) :
    p.alignedHostOffset = q.alignedHostOffset ∧ p.alignedLength = q.alignedLength := by
  have hcount : p.sectorCount = q.sectorCount := by
    have h1 := hp.stop
    have h2 := hq.stop
    omega
  constructor
  · exact UInt64.toNat_inj.mp (hp.offset.trans hq.offset.symm)
  · exact UInt64.toNat_inj.mp (by rw [hp.length, hq.length, hcount])

theorem toNat_roundDown (x : UInt64) : (x / 512 * 512).toNat = x.toNat / 512 * 512 := by
  have hx := x.toNat_lt
  have hdiv : (x / 512).toNat = x.toNat / 512 := UInt64.toNat_div x 512
  rw [toNat_mul_of_lt, hdiv]
  · rfl
  · rw [hdiv, show (512 : UInt64).toNat = 512 from rfl]
    omega

private theorem toNat_roundUp {x : UInt64} (h : x.toNat + 512 < 2 ^ 64) :
    ((x + 512 - 1) / 512 * 512).toNat = (x.toNat + 511) / 512 * 512 := by
  have hadd : (x + 512).toNat = x.toNat + 512 := toNat_add_of_lt h
  have hone : (1 : UInt64).toNat = 1 := rfl
  have hsub : (x + 512 - 1).toNat = x.toNat + 511 := by
    rw [toNat_sub_of_le (by omega), hadd, hone]
    omega
  rw [toNat_roundDown, hsub]

variable {volDataAreaOffset firstDataUnitNo virtualOffset length diskLength : UInt64}

/-- The intermediate words of the computation, when the request fits. -/
private theorem intermediate_words {h l : UInt64} {n m : ℕ} (hn : h.toNat = n) (hm : l.toNat = m)
    (hfit : n + m + 512 < 2 ^ 64) :
    (h + l).toNat = n + m ∧ (h / 512 * 512).toNat = n / 512 * 512 ∧
      ((h + l + 512 - 1) / 512 * 512).toNat = (n + m + 511) / 512 * 512 ∧
      ((h + l + 512 - 1) / 512 * 512 - h / 512 * 512).toNat =
        (n + m + 511) / 512 * 512 - n / 512 * 512 ∧
      (h - h / 512 * 512).toNat = n % 512 := by
  have hsum : (h + l).toNat = n + m := by rw [toNat_add_of_lt (by omega), hn, hm]
  have hdown : (h / 512 * 512).toNat = n / 512 * 512 := by rw [toNat_roundDown, hn]
  have hup : ((h + l + 512 - 1) / 512 * 512).toNat = (n + m + 511) / 512 * 512 := by
    rw [toNat_roundUp (by omega), hsum]
  refine ⟨hsum, hdown, hup, ?_, ?_⟩
  · rw [toNat_sub_of_le (by omega), hup, hdown]
  · rw [toNat_sub_of_le (by omega), hdown, hn]
    omega

section Fits
variable (hlength : 0 < length.toNat)
  (hbounds : virtualOffset.toNat + length.toNat ≤ diskLength.toNat)
  (hfit : volDataAreaOffset.toNat + virtualOffset.toNat + length.toNat + 512 < 2 ^ 64)
include hlength hbounds hfit

/-- In bounds and without wrapping, the parameters widen the requested range, and the
unit number counts sectors from the start of the data area. -/
theorem computeSectorIoParams_spec (firstDataUnitNo : UInt64) :
    ∃ p, (computeSectorIoParams volDataAreaOffset firstDataUnitNo virtualOffset length
        diskLength).val = .ok p ∧
      Widens p (volDataAreaOffset.toNat + virtualOffset.toNat) length.toNat ∧
      p.firstSectorIndex =
        firstDataUnitNo + (p.alignedHostOffset - volDataAreaOffset) / 512 := by
  have hne : length ≠ 0 := fun h => by simp [h] at hlength
  have hhost : (volDataAreaOffset + virtualOffset).toNat =
      volDataAreaOffset.toNat + virtualOffset.toNat := toNat_add_of_lt (by omega)
  have hend : (virtualOffset + length).toNat = virtualOffset.toNat + length.toNat :=
    toNat_add_of_lt (by omega)
  have hle : ¬ virtualOffset + length > diskLength := by
    rw [gt_iff_lt, UInt64.lt_iff_toNat_lt]
    omega
  obtain ⟨-, hdown, -, hbuf, huser⟩ := intermediate_words hhost rfl hfit
  let alignedOff := (volDataAreaOffset + virtualOffset) / 512 * 512
  let bufSize := (volDataAreaOffset + virtualOffset + length + 512 - 1) / 512 * 512 - alignedOff
  change bufSize.toNat = _ at hbuf
  refine ⟨{
    alignedHostOffset := alignedOff
    alignedLength := bufSize
    userDataOffset := (volDataAreaOffset + virtualOffset - alignedOff).toNat
    userDataLength := length.toNat
    sectorCount := bufSize.toNat / 512
    firstSectorIndex := firstDataUnitNo + (alignedOff - volDataAreaOffset) / 512 },
    ?_, ⟨hdown, ?_, ?_, huser, rfl⟩, rfl⟩
  · have hunit : (512 : UInt64).toNat = 512 := rfl
    have hmod : bufSize.toNat % 512 = 0 := by omega
    simp only [computeSectorIoParams, encryptionDataUnitSize, hne, hle, if_false, hunit,
      Checked.bind_val, Checked.add_val, Checked.mul_val, Checked.sub_val]
    simp only [bufSize, alignedOff] at hmod ⊢
    simp [hmod]
  · change bufSize.toNat = bufSize.toNat / 512 * 512
    omega
  · change _ + bufSize.toNat / 512 * 512 = _
    omega

/-- Nothing wraps exactly when the first sector begins inside the data area and its
number is a `u64`. -/
theorem computeSectorIoParams_overflow :
    (computeSectorIoParams volDataAreaOffset firstDataUnitNo virtualOffset length
        diskLength).overflow = false ↔
      volDataAreaOffset.toNat ≤
          (volDataAreaOffset.toNat + virtualOffset.toNat) / 512 * 512 ∧
        firstDataUnitNo.toNat + ((volDataAreaOffset.toNat + virtualOffset.toNat) / 512 * 512 -
          volDataAreaOffset.toNat) / 512 < 2 ^ 64 := by
  have hne : length ≠ 0 := fun h => by simp [h] at hlength
  have hhost : (volDataAreaOffset + virtualOffset).toNat =
      volDataAreaOffset.toNat + virtualOffset.toNat := toNat_add_of_lt (by omega)
  have hend : (virtualOffset + length).toNat = virtualOffset.toNat + length.toNat :=
    toNat_add_of_lt (by omega)
  have hle : ¬ virtualOffset + length > diskLength := by
    rw [gt_iff_lt, UInt64.lt_iff_toNat_lt]
    omega
  obtain ⟨hstop, hdown, hup, hbuf, -⟩ := intermediate_words hhost rfl hfit
  have hunit : (512 : UInt64).toNat = 512 := rfl
  have hmod : ((volDataAreaOffset + virtualOffset + length + 512 - 1) / 512 * 512 -
      (volDataAreaOffset + virtualOffset) / 512 * 512).toNat % 512 = 0 := by omega
  simp only [computeSectorIoParams, encryptionDataUnitSize, hne, hle, if_false, hunit, hmod,
    Checked.bind_overflow, Checked.add_val, Checked.mul_val, Checked.sub_val, ne_eq, not_true_eq_false,
    Checked.pure_overflow, Bool.or_eq_false_iff, Checked.add_overflow, Checked.mul_overflow,
    Checked.sub_overflow]
  have hone : (1 : UInt64).toNat = 1 := rfl
  have htop : (volDataAreaOffset + virtualOffset + length + 512).toNat =
      volDataAreaOffset.toNat + virtualOffset.toNat + length.toNat + 512 := by
    rw [toNat_add_of_lt (by omega), hstop, hunit]
  have hquot : ((volDataAreaOffset + virtualOffset) / 512).toNat =
      (volDataAreaOffset.toNat + virtualOffset.toNat) / 512 := by
    rw [UInt64.toNat_div, hhost, hunit]
  have hquot' : ((volDataAreaOffset + virtualOffset + length + 512 - 1) / 512).toNat =
      (volDataAreaOffset.toNat + virtualOffset.toNat + length.toNat + 511) / 512 := by
    rw [UInt64.toNat_div, toNat_sub_of_le (by omega), htop, hunit, hone]
    omega
  have hunits (hin : volDataAreaOffset.toNat ≤
      (volDataAreaOffset.toNat + virtualOffset.toNat) / 512 * 512) :
      (((volDataAreaOffset + virtualOffset) / 512 * 512 - volDataAreaOffset) / 512).toNat =
        ((volDataAreaOffset.toNat + virtualOffset.toNat) / 512 * 512 -
          volDataAreaOffset.toNat) / 512 := by
    rw [UInt64.toNat_div, toNat_sub_of_le (by omega), hdown, hunit]
  rw [hhost, hstop, hup, hdown, htop, hquot, hquot', hone]
  constructor
  · rintro ⟨-, -, -, -, -, -, -, -, -, hin, hnumber, -⟩
    exact ⟨hin, by rwa [hunits hin] at hnumber⟩
  · rintro ⟨hin, hnumber⟩
    refine ⟨?_, ?_, ?_, ?_, ?_, ?_, ?_, ?_, ?_, hin, by rwa [hunits hin], trivial⟩ <;> omega

end Fits

end Alignment

end Oxhide.SectorIo
