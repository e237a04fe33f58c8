import Oxhide.CheckedWords
import Oxhide.CreateThenOpen

/-! # Where a hidden volume is placed

The size check of the hidden volume only leaves room for the two backup slots. The
hidden data keep clear of the primary slots and inside the outer data area exactly
when they leave two header sizes of the outer volume free. -/
namespace Oxhide.HiddenPlacement
open BlockCiphers CheckedWords CipherTypes CreateThenOpen FaultyFile HeaderFormat KeyDerivation
  ListSplice OpeningSearch SealedHeaders VolumeCreation VolumeErrors VolumeOpening WordBytes Xts

/-- Byte `i` lies in one of the four header slots of a file of length `n`. -/
def InHeaderSlot (n i : ℕ) : Prop :=
  i < volumeHeaderSize ∨ (volumeHeaderSize ≤ i ∧ i < 2 * volumeHeaderSize) ∨
    (n - 2 * volumeHeaderSize ≤ i ∧ i < n - volumeHeaderSize) ∨ (n - volumeHeaderSize ≤ i ∧ i < n)

/-- The data recorded in an opened header lie in the outer data area and in no slot. -/
def DataInside (n : ℕ) (r : OpenResult) : Prop :=
  ∀ i, r.dataOffset.toNat ≤ i → i < r.dataOffset.toNat + r.dataLength.toNat →
    4 * volumeHeaderSize ≤ i ∧ i < n ∧ ¬ InHeaderSlot n i

/-- A hidden volume that is where it should be: its header opens as the one of a
hidden volume, its data are inside and the outer headers are as they were. -/
structure Placed (P : CipherSuite) (password : Bytes) (kdf : KdfCandidate) (cipher : CipherType)
    (hiddenSize : UInt64) (before after : Bytes) (r : OpenResult) : Prop where
  sameSlots : slice after (before.length - volumeHeaderSize) volumeHeaderSize =
    slice after volumeHeaderSize volumeHeaderSize
  opens : attemptOn P password (slice after volumeHeaderSize volumeHeaderSize) false kdf cipher =
    some r
  found : NoEarlierCipher P password (slice after volumeHeaderSize volumeHeaderSize) kdf cipher →
    tryOpen P (slice after volumeHeaderSize volumeHeaderSize) password [kdf] false = .ok r
  volumeType : r.volumeType = .hidden
  dataLength : r.dataLength = hiddenSize
  dataInside : DataInside before.length r
  primary : slice after 0 volumeHeaderSize = slice before 0 volumeHeaderSize
  backup : slice after (before.length - 2 * volumeHeaderSize) volumeHeaderSize =
    slice before (before.length - 2 * volumeHeaderSize) volumeHeaderSize

section Run
variable {P : CipherSuite} {R : RandomSource} {plan : FaultPlan} {st st' : FileState UInt8}
  {volumeSize hiddenSize : UInt64} {password : Bytes} {cipher : CipherType} {kdf : KdfCandidate}

theorem wellformed_hiddenHeader (hiddenSize dataStart : UInt64)
    (salt : {bs : Bytes // bs.length = pkcs5SaltSize}) (masterKey : Bytes) :
    Wellformed (hiddenHeader hiddenSize dataStart salt masterKey) := ⟨rfl, by
      change ValidSectorSize 512
      decide⟩

/-- What a successful creation does to the slots, and what the hidden header opens to. -/
theorem exists_hiddenSlots (hfile : 4 * volumeHeaderSize ≤ st.contents.length)
    (hmax : st.contents.length ≤ maxPosition)
    (h : createHiddenVolume P R hiddenSize password cipher kdf.implementation kdf.iterations plan
      st = (.ok (), st')) :
    ¬ UInt64.ofNat st.contents.length < UInt64.ofNat (2 * volumeHeaderSize) + hiddenSize ∧
      ∃ r, attemptOn P password (slice st'.contents volumeHeaderSize volumeHeaderSize) false kdf
          cipher = some r ∧
        r.dataOffset = UInt64.ofNat st.contents.length - UInt64.ofNat (2 * volumeHeaderSize) -
          hiddenSize ∧ r.dataLength = hiddenSize ∧
        (r.volumeType = .hidden ↔ hiddenSize ≠ 0) ∧
        (slice st'.contents volumeHeaderSize volumeHeaderSize).length = volumeHeaderSize ∧
        slice st'.contents (st.contents.length - volumeHeaderSize) volumeHeaderSize =
          slice st'.contents volumeHeaderSize volumeHeaderSize ∧
        slice st'.contents 0 volumeHeaderSize = slice st.contents 0 volumeHeaderSize ∧
        slice st'.contents (st.contents.length - 2 * volumeHeaderSize) volumeHeaderSize =
          slice st.contents (st.contents.length - 2 * volumeHeaderSize) volumeHeaderSize := by
  obtain ⟨salt, masterKey, key, chain, hfits, -, -, hkey, hchain, hcontents⟩ :=
    createHiddenVolume_eq_ok h
  refine ⟨hfits, ?_⟩
  simp only [toNat_backup hfile hmax] at hcontents
  generalize hheader : hiddenHeader hiddenSize (UInt64.ofNat st.contents.length -
    UInt64.ofNat (2 * volumeHeaderSize) - hiddenSize) salt masterKey.1 = header at hcontents
  have hwellformed : Wellformed header := hheader ▸ wellformed_hiddenHeader _ _ _ _
  have hlen : (slotBytes P chain salt.1 header).length = volumeHeaderSize :=
    length_slotBytes salt.2
  have hpos : 0 < volumeHeaderSize := by decide
  have h₁ : (splice st.contents volumeHeaderSize (slotBytes P chain salt.1 header)).length =
      st.contents.length := length_splice (by omega)
  rw [storeAt_of_le (by omega : volumeHeaderSize ≤ st.contents.length), storeAt_of_le (by omega)]
    at hcontents
  have hself {xs : Bytes} {off : ℕ} (hoff : off ≤ xs.length) :
      slice (splice xs off (slotBytes P chain salt.1 header)) off volumeHeaderSize =
        slotBytes P chain salt.1 header := by
    have hwhole := slice_splice_self hoff (slotBytes P chain salt.1 header)
    rwa [hlen] at hwhole
  have hslot : slice st'.contents volumeHeaderSize volumeHeaderSize =
      slotBytes P chain salt.1 header := by
    rw [hcontents, slice_splice_of_disjoint (by omega) (by omega), hself (by omega)]
  have hbackupSlot : slice st'.contents (st.contents.length - volumeHeaderSize)
      volumeHeaderSize = slotBytes P chain salt.1 header := by
    rw [hcontents, hself (by omega)]
  have haccept : attemptOn P password (slotBytes P chain salt.1 header) false kdf cipher =
      some (openResult cipher kdf salt.1 (header.stored salt.1 salt.2) false) := by
    rw [← attemptOn_take, take_slotBytes P chain _ salt.2]
    exact attemptOn_sealedHeader salt.2 hwellformed hkey hchain false
  refine ⟨_, by rw [hslot, haccept], ?_, ?_, ?_, by rw [hslot, hlen],
    hbackupSlot.trans hslot.symm, ?_, ?_⟩
  · rw [← hheader]
    rfl
  · rw [← hheader]
    change (if hiddenSize > 0 then hiddenSize else hiddenSize) = hiddenSize
    rw [ite_self]
  · rw [← hheader]
    change (if hiddenSize ≠ 0 then VolumeType.hidden else VolumeType.normal) = .hidden ↔ _
    by_cases hzero : hiddenSize ≠ 0
    · simp [hzero]
    · simp [hzero]
  · rw [hcontents, slice_splice_of_disjoint (by omega) (by omega),
      slice_splice_of_disjoint (by omega) (by omega)]
  · rw [hcontents, slice_splice_of_disjoint (by omega) (by omega),
      slice_splice_of_disjoint (by omega) (by omega)]

section Arithmetic
variable {n : ℕ} {r : OpenResult} (hmax : n ≤ maxPosition)
  (hoffset : r.dataOffset = UInt64.ofNat n - UInt64.ofNat (2 * volumeHeaderSize) - hiddenSize)
  (hlength : r.dataLength = hiddenSize)
include hmax hoffset hlength

omit hlength in
/-- Without wrapping the data end in front of the backup slots. -/
private theorem toNat_dataOffset (hle : 2 * volumeHeaderSize + hiddenSize.toNat ≤ n) :
    r.dataOffset.toNat = n - 2 * volumeHeaderSize - hiddenSize.toNat := by
  rw [maxPosition] at hmax
  rw [volumeHeaderSize] at hle hoffset ⊢
  have hn : (UInt64.ofNat n).toNat = n := by
    rw [UInt64.toNat_ofNat', Nat.mod_eq_of_lt (by omega)]
  have harea : (UInt64.ofNat (2 * 65536)).toNat = 2 * 65536 := rfl
  have hfirst : (UInt64.ofNat n - UInt64.ofNat (2 * 65536)).toNat = n - 2 * 65536 := by
    rw [toNat_sub_of_le (by omega), hn, harea]
  rw [hoffset, toNat_sub_of_le (by omega), hfirst]

theorem dataInside_of_fits (hfits : hiddenSize.toNat + 6 * volumeHeaderSize ≤ n) :
    DataInside n r := by
  have hstart := toNat_dataOffset hmax hoffset (by omega)
  intro i hlow hhigh
  rw [hlength] at hhigh
  refine ⟨by omega, by omega, ?_⟩
  rintro (hslot | hslot | hslot | hslot) <;> omega

theorem fits_of_dataInside (hpos : 0 < hiddenSize.toNat)
    (hcheck : ¬ UInt64.ofNat n < UInt64.ofNat (2 * volumeHeaderSize) + hiddenSize)
    (hinside : DataInside n r) : hiddenSize.toNat + 6 * volumeHeaderSize ≤ n := by
  have hsize : hiddenSize.toNat < 2 ^ 64 := hiddenSize.toNat_lt
  have hn : (UInt64.ofNat n).toNat = n := by
    rw [maxPosition] at hmax
    rw [UInt64.toNat_ofNat', Nat.mod_eq_of_lt (by omega)]
  have harea : (UInt64.ofNat (2 * volumeHeaderSize)).toNat = 2 * volumeHeaderSize := rfl
  by_cases hwrap : 2 * volumeHeaderSize + hiddenSize.toNat < 2 ^ 64
  · rw [UInt64.lt_iff_toNat_lt, hn, toNat_add_of_lt (by rw [harea]; exact hwrap), harea,
      not_lt] at hcheck
    have hstart := toNat_dataOffset hmax hoffset hcheck
    obtain ⟨hlow, -, -⟩ := hinside r.dataOffset.toNat le_rfl (by rw [hlength]; omega)
    omega
  · -- The sum wrapped: the data are longer than any file.
    obtain ⟨-, hhigh, -⟩ := hinside (r.dataOffset.toNat + (hiddenSize.toNat - 1)) (by omega)
      (by rw [hlength]; omega)
    rw [maxPosition] at hmax
    rw [volumeHeaderSize] at hwrap
    omega

end Arithmetic

section Claim
variable (hlen : st.contents.length = volumeSize.toNat + 4 * volumeHeaderSize)
  (hmax : st.contents.length ≤ maxPosition)
  (h : createHiddenVolume P R hiddenSize password cipher kdf.implementation kdf.iterations plan
    st = (.ok (), st'))
include hlen hmax h

theorem placed_of_fits (hpos : 0 < hiddenSize.toNat)
    (hfits : hiddenSize.toNat + 2 * volumeHeaderSize ≤ volumeSize.toNat) :
    ∃ r, Placed P password kdf cipher hiddenSize st.contents st'.contents r := by
  obtain ⟨-, r, haccept, hoffset, hlength, htype, hslot, hsame, hprimary, hbackup⟩ :=
    exists_hiddenSlots (by omega) hmax h
  have hinside := dataInside_of_fits hmax hoffset hlength (by omega)
  have hne : hiddenSize ≠ 0 := by
    rintro rfl
    exact absurd hpos (by decide)
  have hroom : volumeHeaderEffectiveSize ≤
      (slice st'.contents volumeHeaderSize volumeHeaderSize).length := by
    rw [hslot]
    decide
  exact ⟨r, hsame, haccept, fun hearlier => tryOpen_of_attemptOn hroom hearlier haccept,
    htype.mpr hne, hlength, hinside, hprimary, hbackup⟩

theorem fits_of_placed {r : OpenResult}
    (hplaced : Placed P password kdf cipher hiddenSize st.contents st'.contents r) :
    0 < hiddenSize.toNat ∧ hiddenSize.toNat + 2 * volumeHeaderSize ≤ volumeSize.toNat := by
  obtain ⟨hcheck, r', haccept, hoffset, hlength, htype, -⟩ := exists_hiddenSlots (by omega) hmax h
  obtain rfl : r' = r := Option.some.inj (haccept.symm.trans hplaced.opens)
  have hpos : 0 < hiddenSize.toNat := by
    have hne := htype.mp hplaced.volumeType
    rw [Nat.pos_iff_ne_zero]
    exact fun hzero => hne (UInt64.toNat_inj.mp hzero)
  have hfits := fits_of_dataInside hmax hoffset hlength hpos hcheck hplaced.dataInside
  exact ⟨hpos, by omega⟩

end Claim

end Run

/-- A hidden volume is placed as it should be exactly when it is not empty and leaves
two header sizes of the outer data area free. -/
theorem placed_createHiddenVolume_iff (P : CipherSuite) (R : RandomSource) (plan : FaultPlan)
    (st st' : FileState UInt8) (volumeSize hiddenSize : UInt64) (password : Bytes)
    (cipher : CipherType) (kdf : KdfCandidate)
    (hlen : st.contents.length = volumeSize.toNat + 4 * volumeHeaderSize)
    (hmax : st.contents.length ≤ maxPosition)
    (h : createHiddenVolume P R hiddenSize password cipher kdf.implementation kdf.iterations plan
      st = (.ok (), st')) :
    (∃ r, Placed P password kdf cipher hiddenSize st.contents st'.contents r) ↔
      0 < hiddenSize.toNat ∧ hiddenSize.toNat + 2 * volumeHeaderSize ≤ volumeSize.toNat :=
  ⟨fun ⟨_, hplaced⟩ => fits_of_placed hlen hmax h hplaced,
    fun ⟨hpos, hfits⟩ => placed_of_fits hlen hmax h hpos hfits⟩

section Sample

/-! An outer volume of 256 KiB with zeros for randomness. -/

def blankFile : FileState UInt8 := ⟨List.replicate 524288 0, 0, 0⟩

private theorem blankFile_spec : blankFile.contents.length = 524288 ∧
    4 * volumeHeaderSize ≤ blankFile.contents.length ∧
      blankFile.contents.length ≤ maxPosition := by
  have hlen : blankFile.contents.length = 524288 := List.length_replicate
  refine ⟨hlen, ?_, ?_⟩
  · rw [hlen]
    decide
  · rw [hlen, maxPosition]
    norm_num

/-- Hidden volumes up to the size that the check admits get created in it. -/
theorem exists_hiddenInBlankFile (P : CipherSuite) (kdf : KdfCandidate) {key : Bytes}
    (hkey : kdf.implementation.derive [0x70] (List.replicate pkcs5SaltSize 0) kdf.iterations
      maxHeaderKeySize = .ok key)
    (hiddenSize : UInt64) (hfits : ¬ 524288 < UInt64.ofNat (2 * volumeHeaderSize) + hiddenSize) :
    ∃ st st', createVolumeFull P zeroRandom 262144 [0x70] .aes kdf.implementation kdf.iterations
        noFaults blankFile = (.ok (), st) ∧ st.contents.length = 524288 ∧
      createHiddenVolume P zeroRandom hiddenSize [0x70] .aes kdf.implementation kdf.iterations
        noFaults st = (.ok (), st') := by
  obtain ⟨hlen, hfile, hmax⟩ := blankFile_spec
  have hR : ∀ k len, ∃ bs, zeroRandom.fill k len = .ok bs := fun k len => ⟨_, rfl⟩
  obtain ⟨st, hcreate⟩ : ∃ st, createVolumeFull P zeroRandom 262144 [0x70] .aes
      kdf.implementation kdf.iterations noFaults blankFile = (.ok (), st) :=
    exists_createVolumeFull hR hfile hmax rfl hkey rfl
  obtain ⟨salt, masterKey, _, chain, decoy, -, -, -, -, hdecoy, hcontents⟩ :=
    createVolumeFull_eq_ok hcreate
  have hhdr : (slotBytes P chain salt (normalHeader 262144 salt masterKey.1)).length = _ :=
    length_slotBytes salt.2
  obtain ⟨hlength, -⟩ := fourSlots_spec hfile hhdr hdecoy
  have hst : st.contents.length = 524288 := by
    rw [hcontents]
    exact hlength.trans hlen
  obtain ⟨st', hhidden⟩ : ∃ st', createHiddenVolume P zeroRandom hiddenSize [0x70] .aes
      kdf.implementation kdf.iterations noFaults st = (.ok (), st') :=
    exists_createHiddenVolume hR (by rw [hst]; decide) (by rw [hst, maxPosition]; norm_num) rfl
      hkey (by rw [hst]; exact hfits)
  exact ⟨st, st', hcreate, hst, hhidden⟩

/-- The smallest hidden volume is placed as it should be. -/
theorem smallHiddenVolume_placed : ∃ hiddenSize : UInt64, hiddenSize = 512 ∧
    ∀ P K, ∃ st st', createVolumeFull P zeroRandom 262144 [0x70] .aes
        (makeKdfCandidate K .pbkdf2Sha512 1).implementation
        (makeKdfCandidate K .pbkdf2Sha512 1).iterations noFaults blankFile = (.ok (), st) ∧
      createHiddenVolume P zeroRandom hiddenSize [0x70] .aes
        (makeKdfCandidate K .pbkdf2Sha512 1).implementation
        (makeKdfCandidate K .pbkdf2Sha512 1).iterations noFaults st = (.ok (), st') ∧
      ∃ r, Placed P [0x70] (makeKdfCandidate K .pbkdf2Sha512 1) .aes hiddenSize st.contents
        st'.contents r := by
  refine ⟨512, rfl, fun P K => ?_⟩
  obtain ⟨st, st', hcreate, hst, hhidden⟩ := exists_hiddenInBlankFile P
    (makeKdfCandidate K .pbkdf2Sha512 1) rfl 512 (by decide)
  exact ⟨st, st', hcreate, hhidden, (placed_createHiddenVolume_iff P zeroRandom noFaults st st'
    262144 512 [0x70] .aes (makeKdfCandidate K .pbkdf2Sha512 1) hst
    (by rw [hst, maxPosition]; norm_num) hhidden).mpr (by decide)⟩

/-- The largest hidden volume that the check admits starts at the primary header. -/
theorem largeHiddenVolume_not_placed : ∃ hiddenSize : UInt64, hiddenSize = 393216 ∧
    ∀ P K, ∃ st st', createVolumeFull P zeroRandom 262144 [0x70] .aes
        (makeKdfCandidate K .pbkdf2Sha512 1).implementation
        (makeKdfCandidate K .pbkdf2Sha512 1).iterations noFaults blankFile = (.ok (), st) ∧
      createHiddenVolume P zeroRandom hiddenSize [0x70] .aes
        (makeKdfCandidate K .pbkdf2Sha512 1).implementation
        (makeKdfCandidate K .pbkdf2Sha512 1).iterations noFaults st = (.ok (), st') ∧
      ¬ ∃ r, Placed P [0x70] (makeKdfCandidate K .pbkdf2Sha512 1) .aes hiddenSize st.contents
        st'.contents r := by
  refine ⟨393216, rfl, fun P K => ?_⟩
  obtain ⟨st, st', hcreate, hst, hhidden⟩ := exists_hiddenInBlankFile P
    (makeKdfCandidate K .pbkdf2Sha512 1) rfl 393216 (by decide)
  refine ⟨st, st', hcreate, hhidden, fun ⟨r, hplaced⟩ => ?_⟩
  have hvolume : st.contents.length = (262144 : UInt64).toNat + 4 * volumeHeaderSize := hst
  obtain ⟨-, hfits⟩ := fits_of_placed hvolume (by rw [hst, maxPosition]; norm_num) hhidden hplaced
  exact absurd hfits (by decide)

end Sample

end Oxhide.HiddenPlacement
