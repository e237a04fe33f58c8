import Oxhide.Rounding
import Oxhide.SectorIo

/-! # Exactness of the sector alignment

The widened range is the smallest aligned interval around the request. From that
every derived quantity is consistent with the others, and each requested byte lies
in the buffer sector that its own data unit was read into.

The unit divides `2 ^ 64`, so rounding commutes with wrapping: the buffer around
a short request has the right size even where the host offset wraps. -/
namespace Oxhide.SectorAlignment
open CheckedWords Rounding SectorIo

/-- No sum of the computation leaves a `u64`. -/
structure SumsFit (volDataAreaOffset firstDataUnitNo virtualOffset length : UInt64) : Prop where
  requestEnd : virtualOffset.toNat + length.toNat < 2 ^ 64
  hostOffset : volDataAreaOffset.toNat + virtualOffset.toNat < 2 ^ 64
  endByte : volDataAreaOffset.toNat + virtualOffset.toNat + length.toNat < 2 ^ 64
  alignedEnd : volDataAreaOffset.toNat + virtualOffset.toNat + length.toNat + 512 < 2 ^ 64
  baseUnit : firstDataUnitNo.toNat + (roundDown 512 (volDataAreaOffset.toNat +
    virtualOffset.toNat) - volDataAreaOffset.toNat) / 512 < 2 ^ 64

/-- What the parameters of a request promise about the bytes `[virtualOffset,
virtualOffset + length)` of a virtual disk whose data area begins at
`volDataAreaOffset`. -/
structure ExactAlignment (volDataAreaOffset firstDataUnitNo virtualOffset length diskLength : ℕ)
    (p : SectorIoParams) : Prop where
  offset_dvd : 512 ∣ p.alignedHostOffset.toNat
  stop_dvd : 512 ∣ p.alignedHostOffset.toNat + p.alignedLength.toNat
  contains : p.alignedHostOffset.toNat ≤ volDataAreaOffset + virtualOffset ∧
    volDataAreaOffset + virtualOffset + length ≤ p.alignedHostOffset.toNat + p.alignedLength.toNat
  smallest : ∀ a b, 512 ∣ a → 512 ∣ b → a ≤ volDataAreaOffset + virtualOffset →
    volDataAreaOffset + virtualOffset + length ≤ b →
      a ≤ p.alignedHostOffset.toNat ∧ p.alignedHostOffset.toNat + p.alignedLength.toNat ≤ b
  sectorCount : p.sectorCount * 512 = p.alignedLength.toNat
  userOffset : p.alignedHostOffset.toNat + p.userDataOffset = volDataAreaOffset + virtualOffset
  userLength : p.userDataLength = length
  userFits : p.userDataOffset + length ≤ p.alignedLength.toNat
  firstUnit : firstDataUnitNo ≤ p.firstSectorIndex.toNat
  byteSector : ∀ v, virtualOffset ≤ v → v < virtualOffset + length →
    p.firstSectorIndex.toNat - firstDataUnitNo ≤ v / 512 ∧
      (p.userDataOffset + (v - virtualOffset)) / 512 =
        v / 512 - (p.firstSectorIndex.toNat - firstDataUnitNo)
  inDataArea : 512 ∣ diskLength → volDataAreaOffset ≤ p.alignedHostOffset.toNat ∧
    p.alignedHostOffset.toNat + p.alignedLength.toNat ≤ volDataAreaOffset + diskLength

/-- Both ends of the widened range are roundings of the ends of the request. -/
theorem Widens.roundings {p : SectorIoParams} {h l : ℕ} (hw : Widens p h l) :
    p.alignedHostOffset.toNat = roundDown 512 h ∧
      p.alignedHostOffset.toNat + p.alignedLength.toNat = roundUp 512 (h + l) := by
  constructor
  · exact hw.offset
  · rw [hw.offset, hw.length]
    exact hw.stop

section Sums
variable {volDataAreaOffset firstDataUnitNo virtualOffset length diskLength : UInt64}

/-- With an aligned data area the unit number counts whole sectors of the virtual disk. -/
theorem roundDown_sub_of_aligned {vol virt : ℕ} (hvol : 512 ∣ vol) :
    (roundDown 512 (vol + virt) - vol) / 512 = virt / 512 := by
  rw [roundDown]
  omega

/-- A checked build runs through an in-bounds request exactly when the sums fit and the
first sector begins inside the data area. -/
theorem computeSectorIoParams_overflow_iff_sumsFit (hlength : 0 < length.toNat)
    (hbounds : virtualOffset.toNat + length.toNat ≤ diskLength.toNat) :
    (computeSectorIoParams volDataAreaOffset firstDataUnitNo virtualOffset length
        diskLength).overflow = false ↔
      SumsFit volDataAreaOffset firstDataUnitNo virtualOffset length ∧
        volDataAreaOffset.toNat ≤
          roundDown 512 (volDataAreaOffset.toNat + virtualOffset.toNat) := by
  have hdisk := diskLength.toNat_lt
  constructor
  · intro h
    have hne : length ≠ 0 := fun h => by simp [h] at hlength
    have hend : (virtualOffset + length).toNat = virtualOffset.toNat + length.toNat :=
      toNat_add_of_lt (by omega)
    have hle : ¬ virtualOffset + length > diskLength := by
      rw [gt_iff_lt, UInt64.lt_iff_toNat_lt]
      omega
    have hsums := h
    simp only [computeSectorIoParams, encryptionDataUnitSize, hne, hle, if_false,
      Checked.bind_overflow, Checked.add_val, Bool.or_eq_false_iff, Checked.add_overflow] at hsums
    obtain ⟨hreq, hhost, -, hbyte, htop, -⟩ := hsums
    rw [toNat_add_of_lt hhost] at hbyte
    rw [toNat_add_of_lt (by rwa [toNat_add_of_lt hhost]), toNat_add_of_lt hhost] at htop
    obtain ⟨hin, hunit⟩ := (computeSectorIoParams_overflow hlength hbounds htop).mp h
    exact ⟨⟨hreq, hhost, hbyte, htop, hunit⟩, hin⟩
  · rintro ⟨h, hin⟩
    rw [computeSectorIoParams_overflow hlength hbounds h.alignedEnd]
    exact ⟨hin, h.baseUnit⟩

/-- The parameters of an aligned, in-bounds request are exact. -/
theorem computeSectorIoParams_exact (hvol : 512 ∣ volDataAreaOffset.toNat)
    (hlength : 0 < length.toNat)
    (hbounds : virtualOffset.toNat + length.toNat ≤ diskLength.toNat)
    (hfit : SumsFit volDataAreaOffset firstDataUnitNo virtualOffset length) :
    ∃ p, (computeSectorIoParams volDataAreaOffset firstDataUnitNo virtualOffset length
        diskLength).val = .ok p ∧
      ExactAlignment volDataAreaOffset.toNat firstDataUnitNo.toNat virtualOffset.toNat
        length.toNat diskLength.toNat p := by
  obtain ⟨p, hp, hw, hfirst⟩ := computeSectorIoParams_spec hlength hbounds hfit.alignedEnd
    firstDataUnitNo
  obtain ⟨hoff, hstop⟩ := Widens.roundings hw
  have hpos : 0 < 512 := by norm_num
  have hin : volDataAreaOffset.toNat ≤ p.alignedHostOffset.toNat := by
    rw [hoff]
    exact (le_roundDown_iff hpos hvol).mpr (Nat.le_add_right _ _)
  have hunit : p.firstSectorIndex.toNat = firstDataUnitNo.toNat + virtualOffset.toNat / 512 := by
    have hsub : ((p.alignedHostOffset - volDataAreaOffset) / 512).toNat =
        virtualOffset.toNat / 512 := by
      rw [UInt64.toNat_div, toNat_sub_of_le hin, hoff]
      exact roundDown_sub_of_aligned hvol
    have hbase := hfit.baseUnit
    rw [roundDown_sub_of_aligned hvol] at hbase
    rw [hfirst, toNat_add_of_lt (by rwa [hsub]), hsub]
  have huser : p.alignedHostOffset.toNat + p.userDataOffset =
      volDataAreaOffset.toNat + virtualOffset.toNat := by
    rw [hw.offset, hw.userOffset]
    omega
  have hstop_le := le_roundUp hpos
    (volDataAreaOffset.toNat + virtualOffset.toNat + length.toNat)
  refine ⟨p, hp, ?_⟩
  constructor
  case offset_dvd =>
    rw [hoff]
    exact dvd_roundDown _ _
  case stop_dvd =>
    rw [hstop]
    exact dvd_roundUp _ _
  case contains =>
    rw [hstop, hoff]
    exact ⟨roundDown_le _ _, hstop_le⟩
  case smallest =>
    intro a b ha hb hle hstop'
    rw [hstop, hoff]
    exact ⟨(le_roundDown_iff hpos ha).mpr hle, (roundUp_le_iff hpos hb).mpr hstop'⟩
  case sectorCount => exact hw.length.symm
  case userOffset => exact huser
  case userLength => exact hw.userLength
  case userFits => omega
  case firstUnit => omega
  case byteSector =>
    intro v hv _
    rw [hunit, Nat.add_sub_cancel_left, hw.userOffset]
    omega
  case inDataArea =>
    intro hdisk
    refine ⟨hin, ?_⟩
    rw [hstop, roundUp_le_iff hpos (Nat.dvd_add hvol hdisk)]
    omega

/-- A request for the last bytes of a disk of four sectors. -/
theorem computeSectorIoParams_exact_sample :
    ∃ p, (computeSectorIoParams 131072 0 1400 648 2048).val = .ok p ∧
      ExactAlignment (131072 : UInt64).toNat (0 : UInt64).toNat (1400 : UInt64).toNat
        (648 : UInt64).toNat (2048 : UInt64).toNat p :=
  computeSectorIoParams_exact (by decide) (by decide) (by decide)
    { requestEnd := by decide
      hostOffset := by decide
      endByte := by decide
      alignedEnd := by decide
      baseUnit := by decide }

end Sums

section Wrapping

/-- `p` describes the sectors around a request at the word `h`, which may have wrapped. -/
structure WidensWord (p : SectorIoParams) (h l : UInt64) : Prop where
  offset : p.alignedHostOffset = h / 512 * 512
  length : p.alignedLength.toNat = (h.toNat % 512 + l.toNat + 511) / 512 * 512
  count : p.sectorCount = p.alignedLength.toNat / 512
  userOffset : p.userDataOffset = h.toNat % 512
  userLength : p.userDataLength = l.toNat

/-- The buffer consists of whole sectors. -/
theorem WidensWord.length_eq {p : SectorIoParams} {h l : UInt64} (hw : WidensWord p h l) :
    p.alignedLength.toNat = p.sectorCount * 512 := by
  rw [hw.count, hw.length]
  omega

/-- The requested bytes lie inside the buffer. -/
theorem WidensWord.user_fits {p : SectorIoParams} {h l : UInt64} (hw : WidensWord p h l) :
    p.userDataOffset + p.userDataLength ≤ p.alignedLength.toNat := by
  rw [hw.length, hw.userOffset, hw.userLength]
  omega

private theorem sub_roundDown_mod {q r l : ℕ} (hr : r < 512) (hl : l < 2 ^ 32)
    (hq : q * 512 + r < 2 ^ 64) :
    (2 ^ 64 - q * 512 + (q * 512 + r + l + 511) % 2 ^ 64 / 512 * 512) % 2 ^ 64 =
      (r + l + 511) / 512 * 512 := by
  have hmod : (q * 512 + r + l + 511) % 2 ^ 64 / 512 = (q * 512 + r + l + 511) / 512 % 2 ^ 55 := by
    omega
  have hdiv : (q * 512 + r + l + 511) / 512 = q + (r + l + 511) / 512 := by omega
  have hcount : (r + l + 511) / 512 < 2 ^ 24 := by omega
  rw [hmod, hdiv]
  generalize (r + l + 511) / 512 = c at *
  omega

/-- The size of the buffer survives wrapping. -/
private theorem toNat_bufSize (h : UInt64) {l : UInt64} (hl : l.toNat < 2 ^ 32) :
    ((h + l + 512 - 1) / 512 * 512 - h / 512 * 512).toNat =
      (h.toNat % 512 + l.toNat + 511) / 512 * 512 := by
  have hh := h.toNat_lt
  have hunit : (512 : UInt64).toNat = 512 := rfl
  have htop : (h + l + 512 - 1).toNat = (h.toNat + l.toNat + 511) % 2 ^ 64 := by
    rw [UInt64.toNat_sub, UInt64.toNat_add, UInt64.toNat_add, hunit,
      show (1 : UInt64).toNat = 1 from rfl]
    omega
  have hsplit : h.toNat / 512 * 512 + h.toNat % 512 = h.toNat := by omega
  have hrounded := sub_roundDown_mod (q := h.toNat / 512) (Nat.mod_lt h.toNat (by omega)) hl
    (by omega)
  rw [hsplit] at hrounded
  rw [UInt64.toNat_sub, toNat_roundDown, toNat_roundDown, htop]
  exact hrounded

variable {virtualOffset length : UInt64}

/-- A short request that does not start far beyond every disk is either out of bounds or
gets its parameters, whatever the data area offset is. -/
theorem computeSectorIoParams_cases (volDataAreaOffset firstDataUnitNo diskLength : UInt64)
    (hlength : length ≠ 0) (hshort : length.toNat < 2 ^ 32)
    (hstart : virtualOffset.toNat < 2 ^ 63) :
    (diskLength.toNat < virtualOffset.toNat + length.toNat ∧
        computeSectorIoParams volDataAreaOffset firstDataUnitNo virtualOffset length diskLength =
          ⟨.error .outOfBounds, false⟩) ∨
      (virtualOffset.toNat + length.toNat ≤ diskLength.toNat ∧
        ∃ p, (computeSectorIoParams volDataAreaOffset firstDataUnitNo virtualOffset length
            diskLength).val = .ok p ∧
          WidensWord p (volDataAreaOffset + virtualOffset) length) := by
  have hend : (virtualOffset + length).toNat = virtualOffset.toNat + length.toNat :=
    toNat_add_of_lt (by omega)
  have hnowrap : (Checked.add virtualOffset length).overflow = false := by
    rw [Checked.add_overflow]
    omega
  by_cases hout : virtualOffset + length > diskLength
  · left
    have hlt : diskLength.toNat < virtualOffset.toNat + length.toNat := by
      rw [← hend, ← UInt64.lt_iff_toNat_lt]
      exact hout
    refine ⟨hlt, ?_⟩
    have hval : (computeSectorIoParams volDataAreaOffset firstDataUnitNo virtualOffset length
        diskLength).val = .error .outOfBounds := by
      simp [computeSectorIoParams, hlength, hout]
    have hflag : (computeSectorIoParams volDataAreaOffset firstDataUnitNo virtualOffset length
        diskLength).overflow = false := by
      simp [computeSectorIoParams, hlength, hout, hnowrap]
    rw [← hval, ← hflag]
  · right
    have hle : virtualOffset.toNat + length.toNat ≤ diskLength.toNat := by
      rw [gt_iff_lt, UInt64.lt_iff_toNat_lt] at hout
      omega
    let hostOffset := volDataAreaOffset + virtualOffset
    let alignedOff := hostOffset / 512 * 512
    let bufSize := (hostOffset + length + 512 - 1) / 512 * 512 - alignedOff
    have hbuf : bufSize.toNat = (hostOffset.toNat % 512 + length.toNat + 511) / 512 * 512 :=
      toNat_bufSize hostOffset hshort
    have huser : (hostOffset - alignedOff).toNat = hostOffset.toNat % 512 := by
      rw [toNat_sub_of_le (by rw [toNat_roundDown]; omega), toNat_roundDown]
      omega
    have hunit : (512 : UInt64).toNat = 512 := rfl
    have hmod : bufSize.toNat % 512 = 0 := by omega
    refine ⟨hle, {
      alignedHostOffset := alignedOff
      alignedLength := bufSize
      userDataOffset := (hostOffset - alignedOff).toNat
      userDataLength := length.toNat
      sectorCount := bufSize.toNat / 512
      firstSectorIndex := firstDataUnitNo + (alignedOff - volDataAreaOffset) / 512 },
      ?_, ⟨rfl, hbuf, rfl, huser, rfl⟩⟩
    simp only [computeSectorIoParams, encryptionDataUnitSize, hlength, hout, if_false, hunit,
      Checked.bind_val, Checked.add_val, Checked.mul_val, Checked.sub_val]
    simp only [bufSize, alignedOff, hostOffset] at hmod ⊢
    simp [hmod]

end Wrapping

end Oxhide.SectorAlignment
