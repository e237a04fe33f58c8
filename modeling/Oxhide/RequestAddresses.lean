import Oxhide.DriverStoreLaw
import Oxhide.HostVolume
import Oxhide.ReadOnlyMounts
import Oxhide.SectorAlignment

/-! # Addresses of disk requests on mounted volumes

The mount takes the data offset as it is given, so nothing bounds the addresses a
request is sent to. A request reaches the host file only in bounds of the virtual
disk; there its words stay in range exactly when the sectors around it begin
inside the data area and below `2 ^ 63`. -/
namespace Oxhide.RequestAddresses
open BlockCiphers CheckedWords DriverStoreLaw DriverView EncryptedIoQueue HostVolume ReadOnlyMounts
  Rounding SectorAlignment SectorIo

section Definitions

/-- The offset a host file call is made with. -/
def hostOffset : KernelCall → Option Int64
  | .zwReadFile byteOffset _ => some byteOffset
  | .zwWriteFile byteOffset _ _ => some byteOffset
  | _ => none

variable (ext : Extension) (irp : Irp)

/-- The parameters and the end of the user's bytes in the sector buffer. -/
def bufferWords : Checked Unit := do
  match ← ioParams ext irp with
  | .error _ => return ()
  | .ok params =>
    let _ ← Checked.add (UInt64.ofNat params.userDataOffset) (UInt64.ofNat params.userDataLength)
    return ()

/-- The 64-bit arithmetic of a read or write request, after the checks before it. -/
def requestWords : Checked Unit :=
  match irp.major with
  | .read => if irp.length = 0 ∨ irp.byteOffset < 0 then pure () else bufferWords ext irp
  | .write => if ext.bReadOnly ≠ 0 ∨ irp.byteOffset < 0 then pure () else bufferWords ext irp
  | _ => pure ()

/-- A request that is sent to the host file. -/
structure Addressed : Prop where
  nonempty : irp.length ≠ 0
  inBounds : InBounds ext irp
  writable : irp.major = .write → ext.bReadOnly = 0

/-- No word of the request wraps, the host file is only called with non-negative offsets,
and out-of-bounds requests are the ones refused before any host call. -/
structure AddressesSafe (P : CipherSuite) : Prop where
  noWrap : (requestWords ext irp).overflow = false
  nonneg : ∀ answers host, ∀ call ∈ (addIrp P ext irp answers host).calls,
    ∀ byteOffset, hostOffset call = some byteOffset → 0 ≤ byteOffset
  refused : ext.bReadOnly = 0 → irp.length ≠ 0 → ∀ answers host,
    ((addIrp P ext irp answers host).status = statusInvalidParameter ∧
        ∀ call ∈ (addIrp P ext irp answers host).calls, hostOffset call = none) ↔
      irp.byteOffset < 0 ∨ ext.diskLength.toInt < irp.byteOffset.toInt + irp.length.toNat

end Definitions

section Requests
variable {P : CipherSuite} {ext : Extension} {irp : Irp} {answers : KernelAnswers}
  {host : WordBytes.Bytes}

/-- A request that passed the sign check is either out of bounds or gets the sectors
around its host offset. -/
theorem ioParams_cases (hnonneg : ¬ irp.byteOffset < 0) (hlength : irp.length ≠ 0) :
    (diskSize ext < offset irp + irp.length.toNat ∧
        ioParams ext irp = ⟨.error .outOfBounds, false⟩) ∨
      (offset irp + irp.length.toNat ≤ diskSize ext ∧ ∃ p, (ioParams ext irp).val = .ok p ∧
        WidensWord p (ext.volDataAreaOffset + irp.byteOffset.toUInt64) irp.length.toUInt64) := by
  have hlen : irp.length.toUInt64.toNat = irp.length.toNat := UInt32.toNat_toUInt64 irp.length
  have hne : irp.length.toUInt64 ≠ 0 := by
    intro h
    rw [h] at hlen
    exact hlength (UInt32.toNat_inj.mp hlen.symm)
  have hshort := irp.length.toNat_lt
  have hstart := (toNat_toUInt64_of_nonneg (Int64.not_lt.mp hnonneg)).2
  have hcases := computeSectorIoParams_cases ext.volDataAreaOffset ext.firstDataUnitNo
    ext.diskLength.toUInt64 hne (by rw [hlen]; exact hshort) hstart
  rw [hlen] at hcases
  exact hcases

/-- A request that is not sent to the host file is completed at once and needs no words
that could wrap. -/
private theorem addIrp_of_not_addressed (hmajor : irp.major = .read ∨ irp.major = .write)
    (h : ¬ Addressed ext irp) :
    (requestWords ext irp).overflow = false ∧
      ∃ status, (∀ P answers host,
          addIrp P ext irp answers host = completeDiskIrp [] host irp.userBuffer status 0) ∧
        (ext.bReadOnly = 0 → irp.length ≠ 0 → status = statusInvalidParameter) := by
  -- a request of some bytes that passed every check is out of bounds
  have hout (hnonneg : ¬ irp.byteOffset < 0) (hlength : irp.length ≠ 0)
      (hwritable : irp.major = .write → ext.bReadOnly = 0) :
      ioParams ext irp = ⟨.error .outOfBounds, false⟩ := by
    rcases ioParams_cases hnonneg hlength with ⟨-, hparams⟩ | ⟨hinside, -⟩
    · exact hparams
    · exact absurd ⟨hlength, ⟨Int64.not_lt.mp hnonneg, hinside⟩, hwritable⟩ h
  rcases hmajor with hmajor | hmajor
  · by_cases hlength : irp.length = 0
    · refine ⟨by simp [requestWords, hmajor, hlength], statusSuccess, ?_, ?_⟩
      · intro P answers host
        simp [addIrp, hmajor, processReadIrp, hlength]
      · intro _ hne
        exact absurd hlength hne
    · by_cases hneg : irp.byteOffset < 0
      · refine ⟨by simp [requestWords, hmajor, hneg], statusInvalidParameter, ?_, fun _ _ => rfl⟩
        intro P answers host
        simp [addIrp, hmajor, processReadIrp, hlength, hneg]
      · have hparams := hout hneg hlength (fun hw => by rw [hmajor] at hw; cases hw)
        refine ⟨by simp [requestWords, hmajor, hlength, hneg, bufferWords, hparams],
          statusInvalidParameter, ?_, fun _ _ => rfl⟩
        intro P answers host
        simp [addIrp, hmajor, processReadIrp, hlength, hneg, hparams]
  · by_cases hro : ext.bReadOnly = 0
    · by_cases hneg : irp.byteOffset < 0
      · refine ⟨by simp [requestWords, hmajor, hneg], statusInvalidParameter, ?_, fun _ _ => rfl⟩
        intro P answers host
        simp [addIrp, hmajor, processWriteIrp, hro, hneg]
      · by_cases hlength : irp.length = 0
        · have hparams : ioParams ext irp = ⟨.error .zeroLength, false⟩ := by
            simp [ioParams, computeSectorIoParams, hlength]
            rfl
          refine ⟨by simp [requestWords, hmajor, hro, hneg, bufferWords, hparams],
            statusSuccess, ?_, fun _ hne => absurd hlength hne⟩
          intro P answers host
          simp [addIrp, hmajor, processWriteIrp, hro, hneg, hparams]
        · have hparams := hout hneg hlength (fun _ => hro)
          refine ⟨by simp [requestWords, hmajor, hro, hneg, bufferWords, hparams],
            statusInvalidParameter, ?_, fun _ _ => rfl⟩
          intro P answers host
          simp [addIrp, hmajor, processWriteIrp, hro, hneg, hparams]
    · refine ⟨by simp [requestWords, hmajor, hro], statusMediaWriteProtected, ?_, ?_⟩
      · intro P answers host
        simp [addIrp, hmajor, processWriteIrp, hro]
      · intro hzero
        exact absurd hzero hro

/-- An addressed request gets the sectors around its host offset; with a pool block it
goes on to the host file. -/
theorem addIrp_of_addressed (hmajor : irp.major = .read ∨ irp.major = .write)
    (h : Addressed ext irp) :
    ∃ p, (ioParams ext irp).val = .ok p ∧
      WidensWord p (ext.volDataAreaOffset + irp.byteOffset.toUInt64) irp.length.toUInt64 ∧
      requestWords ext irp = bufferWords ext irp ∧
      ∀ P answers host, addIrp P ext irp answers host =
        if ¬ answers.poolAllocated then
          completeDiskIrp [.exAllocatePool p.alignedLength.toNat] host irp.userBuffer
            statusInsufficientResources 0
        else if irp.major = .read then readSectors P ext irp answers host p
        else writeSectors P ext irp answers host p := by
  have hnonneg : ¬ irp.byteOffset < 0 := Int64.not_lt.mpr h.inBounds.nonneg
  rcases ioParams_cases hnonneg h.nonempty with ⟨hout, -⟩ | ⟨-, p, hp, hwidens⟩
  · exact absurd h.inBounds.inside (Nat.not_le.mpr hout)
  · refine ⟨p, hp, hwidens, ?_, ?_⟩
    · rcases hmajor with hmajor | hmajor
      · simp [requestWords, hmajor, h.nonempty, hnonneg]
      · simp [requestWords, hmajor, h.writable hmajor, hnonneg]
    · intro P answers host
      rcases hmajor with hmajor | hmajor
      · simp [addIrp, hmajor, processReadIrp, h.nonempty, hnonneg, hp]
      · simp [addIrp, hmajor, processWriteIrp, h.writable hmajor, hnonneg, hp]

/-- The host file calls of an addressed request all go to the aligned offset; without a
pool block there are none. -/
private theorem hostOffset_of_addressed {p : SectorIoParams} {run : IrpRun}
    (hrun : run =
      if ¬ answers.poolAllocated then
        completeDiskIrp [.exAllocatePool p.alignedLength.toNat] host irp.userBuffer
          statusInsufficientResources 0
      else if irp.major = .read then readSectors P ext irp answers host p
      else writeSectors P ext irp answers host p) :
    (∀ call ∈ run.calls, ∀ byteOffset, hostOffset call = some byteOffset →
        byteOffset = p.alignedHostOffset.toInt64) ∧
      (answers.poolAllocated = false → run.status = statusInsufficientResources) ∧
      (answers.poolAllocated = true →
        .zwReadFile p.alignedHostOffset.toInt64 p.alignedLength.toUInt32 ∈ run.calls) := by
  cases hpool : answers.poolAllocated with
  | false =>
    rw [hpool] at hrun
    subst hrun
    simp [completeDiskIrp, hostOffset]
  | true =>
    rw [hpool] at hrun
    by_cases hread : irp.major = .read
    · obtain ⟨information, hcalls⟩ := @readSectors_calls P ext irp answers host p
      rw [show run = readSectors P ext irp answers host p by simpa [hread] using hrun, hcalls]
      simp [hostOffset]
    · obtain ⟨written, information, hcalls, hwritten⟩ :=
        @writeSectors_calls P ext irp answers host p
      rw [show run = writeSectors P ext irp answers host p by simpa [hread] using hrun, hcalls]
      rcases hwritten with rfl | ⟨data, rfl⟩ <;> simp [hostOffset]

/-- The words of an addressed request stay in range exactly when the sums fit and the
sectors begin inside the data area. -/
theorem bufferWords_overflow_iff (h : Addressed ext irp) :
    (bufferWords ext irp).overflow = false ↔
      SumsFit ext.volDataAreaOffset ext.firstDataUnitNo irp.byteOffset.toUInt64
          irp.length.toUInt64 ∧
        dataStart ext ≤ roundDown 512 (dataStart ext + offset irp) := by
  have hlen : irp.length.toUInt64.toNat = irp.length.toNat := UInt32.toNat_toUInt64 irp.length
  have hpos : 0 < irp.length.toUInt64.toNat := by
    rw [hlen]
    exact uint32_pos h.nonempty
  have hinside : irp.byteOffset.toUInt64.toNat + irp.length.toUInt64.toNat ≤
      ext.diskLength.toUInt64.toNat := by
    rw [hlen]
    exact h.inBounds.inside
  have hsums : (ioParams ext irp).overflow = false ↔ _ :=
    computeSectorIoParams_overflow_iff_sumsFit hpos hinside
  rcases ioParams_cases (Int64.not_lt.mpr h.inBounds.nonneg) h.nonempty with
    ⟨hout, -⟩ | ⟨-, p, hp, hwidens⟩
  · exact absurd h.inBounds.inside (Nat.not_le.mpr hout)
  · have hend : (Checked.add (UInt64.ofNat p.userDataOffset)
        (UInt64.ofNat p.userDataLength)).overflow = false := by
      have hoffset := hwidens.userOffset
      have hlength := hwidens.userLength
      have hshort := irp.length.toNat_lt
      rw [Checked.add_overflow, UInt64.toNat_ofNat', UInt64.toNat_ofNat']
      omega
    simp only [bufferWords, Checked.bind_overflow, hp, hend, Checked.pure_overflow, Bool.or_false]
    exact hsums

end Requests

section Mounted
variable {P : CipherSuite} {request : OpenRequest} {answers : OpenAnswers} {opened : OpenedVolume}
  {irp : Irp}

/-- The length of a mounted disk is a non-negative number of bytes. -/
private theorem diskLength_of_opened (h : tcOpenVolume request answers = .ok opened) :
    opened.ext.diskLength.toInt = diskSize opened.ext ∧
      diskSize opened.ext = request.diskLength.toNat := by
  obtain ⟨-, -, hmax, -, -, -, hdisk, -⟩ := tcOpenVolume_eq_ok h
  have hlt : request.diskLength.toNat < 2 ^ 63 := by
    rw [UInt64.le_iff_toNat_le] at hmax
    exact Nat.lt_of_le_of_lt hmax (by decide)
  have hsize : diskSize opened.ext = request.diskLength.toNat := by
    rw [diskSize, hdisk, UInt64.toUInt64_toInt64]
  refine ⟨?_, hsize⟩
  rw [hsize, hdisk, toInt_toInt64, if_pos hlt]

private theorem inBounds_iff {ext : Extension} (h : ext.diskLength.toInt = diskSize ext) :
    InBounds ext irp ↔ ¬ (irp.byteOffset < 0 ∨
      ext.diskLength.toInt < irp.byteOffset.toInt + irp.length.toNat) := by
  rw [not_or, Int64.not_lt, Int.not_lt, h]
  constructor
  · intro hb
    have hoffset := (toNat_toUInt64_of_nonneg hb.nonneg).1
    have hinside := hb.inside
    rw [offset] at hinside
    exact ⟨hb.nonneg, by omega⟩
  · rintro ⟨hnonneg, hinside⟩
    have hoffset := (toNat_toUInt64_of_nonneg hnonneg).1
    refine ⟨hnonneg, ?_⟩
    rw [offset]
    omega

/-- A request that is not sent to the host file has no addresses. -/
private theorem addressesSafe_of_not_addressed (P : CipherSuite)
    (h : tcOpenVolume request answers = .ok opened)
    (hmajor : irp.major = .read ∨ irp.major = .write) (haddr : ¬ Addressed opened.ext irp) :
    AddressesSafe opened.ext irp P := by
  obtain ⟨hdiskInt, -⟩ := diskLength_of_opened h
  obtain ⟨hwords, status, hrun, hstatus⟩ := addIrp_of_not_addressed hmajor haddr
  refine ⟨hwords, ?_, ?_⟩
  · intro answers host call hcall
    rw [hrun] at hcall
    simp only [completeDiskIrp, List.nil_append, List.mem_singleton] at hcall
    simp [hcall, hostOffset]
  · intro hro hlength answers host
    have hout : ¬ InBounds opened.ext irp := fun hb => haddr ⟨hlength, hb, fun _ => hro⟩
    rw [inBounds_iff hdiskInt, not_not] at hout
    rw [hrun, hstatus hro hlength]
    exact ⟨fun _ => hout, fun _ => ⟨rfl, by simp [completeDiskIrp, hostOffset]⟩⟩

/-- One request on a mounted volume. -/
private theorem addressesSafe_request (P : CipherSuite)
    (h : tcOpenVolume request answers = .ok opened)
    (hmajor : irp.major = .read ∨ irp.major = .write) :
    AddressesSafe opened.ext irp P ↔ (Addressed opened.ext irp →
      request.dataOffset.toNat ≤ roundDown 512 (request.dataOffset.toNat + offset irp) ∧
        request.dataOffset.toNat + offset irp < 2 ^ 63) := by
  obtain ⟨hdiskInt, -⟩ := diskLength_of_opened h
  obtain ⟨-, -, -, -, hstart, hunit, -, -⟩ := tcOpenVolume_eq_ok h
  have hdata : dataStart opened.ext = request.dataOffset.toNat := by rw [dataStart, hstart]
  by_cases haddr : Addressed opened.ext irp
  · obtain ⟨p, hp, hwidens, hwords, hrun⟩ := addIrp_of_addressed hmajor haddr
    have hoverflow := bufferWords_overflow_iff haddr
    rw [← hwords, hdata] at hoverflow
    constructor
    · intro hsafe _
      obtain ⟨hsums, hin⟩ := hoverflow.mp hsafe.noWrap
      obtain ⟨-, -, hcall⟩ := hostOffset_of_addressed (hrun P promptAnswers [])
      have hnonneg := hsafe.nonneg promptAnswers [] _ (hcall rfl) _ rfl
      rw [toInt64_nonneg_iff, hwidens.offset, toNat_roundDown, toNat_add_of_lt hsums.hostOffset,
        hstart] at hnonneg
      refine ⟨hin, ?_⟩
      change _ / 512 * 512 < 2 ^ 63 at hnonneg
      rw [offset]
      omega
    · intro hfits
      obtain ⟨hin, hlow⟩ := hfits haddr
      have hshort := irp.length.toNat_lt
      have hlen : irp.length.toUInt64.toNat = irp.length.toNat :=
        UInt32.toNat_toUInt64 irp.length
      have hsums : SumsFit opened.ext.volDataAreaOffset opened.ext.firstDataUnitNo
          irp.byteOffset.toUInt64 irp.length.toUInt64 := by
        have hzero : (0 : UInt64).toNat = 0 := rfl
        have hdown := roundDown_le 512 (request.dataOffset.toNat + irp.byteOffset.toUInt64.toNat)
        rw [offset] at hlow
        rw [hstart, hunit]
        constructor <;> omega
      refine ⟨hoverflow.mpr ⟨hsums, hin⟩, ?_, ?_⟩
      · intro answers host call hcall byteOffset hoffset
        obtain ⟨hto, -, -⟩ := hostOffset_of_addressed (hrun P answers host)
        rw [hto call hcall byteOffset hoffset, toInt64_nonneg_iff, hwidens.offset,
          toNat_roundDown, toNat_add_of_lt hsums.hostOffset, hstart]
        rw [offset] at hlow
        omega
      · intro _ _ answers host
        obtain ⟨-, hno, hcall⟩ := hostOffset_of_addressed (hrun P answers host)
        have hinside := (inBounds_iff hdiskInt).mp haddr.inBounds
        refine ⟨?_, fun hout => absurd hout hinside⟩
        rintro ⟨hstatus, hnone⟩
        exfalso
        cases hpool : answers.poolAllocated with
        | false =>
          rw [hno hpool] at hstatus
          exact absurd hstatus (by decide)
        | true => exact absurd (hnone _ (hcall hpool)) (by simp [hostOffset])
  · have hsafe := addressesSafe_of_not_addressed P h hmajor haddr
    exact ⟨fun _ haddr' => absurd haddr' haddr, fun _ => hsafe⟩

/-- A request on a mounted volume keeps its addresses in range exactly when it is not sent
to the host file or the sectors around it begin inside the data area and below `2 ^ 63`. -/
theorem addressesSafe_iff (P : CipherSuite) (h : tcOpenVolume request answers = .ok opened)
    (hmajor : irp.major = .read ∨ irp.major = .write) :
    AddressesSafe opened.ext irp P ↔ (Addressed opened.ext irp →
      request.dataOffset.toNat ≤ roundDown 512 (request.dataOffset.toNat + offset irp) ∧
        request.dataOffset.toNat + offset irp < 2 ^ 63) :=
  addressesSafe_request P h hmajor

/-- All requests on a volume are safe exactly when its data area begins at a sector
boundary and ends at or below `2 ^ 63`. -/
theorem addressesSafe_volume_iff (P : CipherSuite)
    (h : tcOpenVolume request answers = .ok opened) :
    (∀ irp : Irp, irp.major = .read ∨ irp.major = .write → AddressesSafe opened.ext irp P) ↔
      512 ∣ request.dataOffset.toNat ∧
        request.dataOffset.toNat + request.diskLength.toNat ≤ 2 ^ 63 := by
  obtain ⟨-, hmin, hmax, -, -, -, -, -⟩ := tcOpenVolume_eq_ok h
  obtain ⟨-, hsize⟩ := diskLength_of_opened h
  have hmin' : 1 ≤ request.diskLength.toNat := by
    rw [UInt64.le_iff_toNat_le] at hmin
    exact Nat.le_trans (by decide) hmin
  have hmax' : diskSize opened.ext ≤ 2 ^ 63 := by
    rw [UInt64.le_iff_toNat_le] at hmax
    rw [hsize]
    exact Nat.le_trans hmax (by decide)
  constructor
  · intro hsafe
    -- the first and the last byte of the disk bound all the others
    have hbyte (i : ℕ) (hi : i < diskSize opened.ext) :
        request.dataOffset.toNat ≤ roundDown 512 (request.dataOffset.toNat + i) ∧
          request.dataOffset.toNat + i < 2 ^ 63 := by
      obtain ⟨hoffset, -, hb⟩ := byteRead_spec hmax' hi
      have hone : (byteRead i).length ≠ 0 := show (1 : UInt32) ≠ 0 by decide
      have hread := (addressesSafe_request P h (.inl rfl)).mp (hsafe (byteRead i) (.inl rfl))
        ⟨hone, hb, nofun⟩
      rwa [hoffset] at hread
    obtain ⟨hfirst, -⟩ := hbyte 0 (by omega)
    obtain ⟨-, hlast⟩ := hbyte (diskSize opened.ext - 1) (by omega)
    have hdown := roundDown_le 512 (request.dataOffset.toNat + 0)
    refine ⟨?_, by omega⟩
    rw [show request.dataOffset.toNat = roundDown 512 (request.dataOffset.toNat + 0) by omega]
    exact dvd_roundDown _ _
  · rintro ⟨haligned, hend⟩ irp hmajor
    rw [addressesSafe_request P h hmajor]
    intro haddr
    have hinside := haddr.inBounds.inside
    have hpos := uint32_pos haddr.nonempty
    exact ⟨(le_roundDown_iff (by omega) haligned).mpr (Nat.le_add_right _ _), by omega⟩

end Mounted

section Sample

/-- A request for the first sector. -/
def sectorRead : Irp where
  major := .read
  byteOffset := 0
  length := 512
  userBuffer := List.replicate 512 0
  userBuffer_length := length_sectorBuffer

/-- A volume whose data area begins at byte 262144. -/
theorem addressesSafe_sectorRead : ∃ opened,
    tcOpenVolume readOnlyRequest (answersWith statusSuccess) = .ok opened ∧
      ∀ P, AddressesSafe opened.ext sectorRead P ↔ (Addressed opened.ext sectorRead →
        readOnlyRequest.dataOffset.toNat ≤
            roundDown 512 (readOnlyRequest.dataOffset.toNat + offset sectorRead) ∧
          readOnlyRequest.dataOffset.toNat + offset sectorRead < 2 ^ 63) := by
  obtain ⟨opened, hopened⟩ := exists_tcOpenVolume_readOnlyRequest statusSuccess
  exact ⟨opened, hopened, fun P => addressesSafe_iff P hopened (.inl rfl)⟩

/-- The same volume with its data area in the last sector below `2 ^ 64`. -/
def highRequest : OpenRequest := { readOnlyRequest with dataOffset := 0xFFFFFFFFFFFFFE00 }

/-- It is mounted, and reading its first sector wraps. -/
theorem highRequest_not_addressesSafe : ∃ opened,
    tcOpenVolume highRequest (answersWith statusSuccess) = .ok opened ∧
      ∀ P, ¬ AddressesSafe opened.ext sectorRead P := by
  obtain ⟨opened, hopened⟩ := exists_tcOpenVolume_readOnlyRequest statusSuccess
  have hhigh := tcOpenVolume_dataOffset hopened 0xFFFFFFFFFFFFFE00
  refine ⟨_, hhigh, fun P hsafe => ?_⟩
  have hsize := (diskLength_of_opened hhigh).2
  have haddr : Addressed _ sectorRead := ⟨by decide, ⟨by decide, by rw [hsize]; decide⟩, nofun⟩
  obtain ⟨-, hlow⟩ := (addressesSafe_request P hhigh (.inl rfl)).mp hsafe haddr
  exact absurd hlow (by decide)

end Sample

end Oxhide.RequestAddresses
