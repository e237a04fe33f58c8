import Oxhide.HeaderRestore
import Oxhide.SharedVolumes
import Oxhide.TornHeaders

/-! # The life of a volume

A volume is opened, read and written, its password is changed and its header restored, in
any order and with any faults of the file. As long as a password is not changed over a
damaged first header some login opens the volume, and the data written under one password
is the data read under the next: every handle shows a history of one plain disk. -/
namespace Oxhide.VolumeLives
open BlockCiphers ChangedHeaders CipherChain CipherTypes CreateThenOpen DiskHistories FaultyFile
  HeaderFormat HeaderRestore HeaderSlots KeyDerivation ListSplice OpeningSearch OpenVolumes
  PasswordChange PlainDevice SealedHeaders SectorCiphers SharedVolumes UserStoreLaw VolumeCreation
  VolumeErrors VolumeHistories VolumeOpening WordBytes

/-- What a user opens a volume with. -/
structure Login where
  credentials : Credentials
  kdf : Option KdfAlgorithm
  pim : Option Int32

section Logins
variable (P : CipherSuite) (K : KdfLibrary)

def Login.candidates (l : Login) : List KdfCandidate :=
  OpenVolume.searchCandidates K l.kdf l.pim

def Login.opened (l : Login) (contents : Bytes) : Except VolumeError OpenResult :=
  OpenVolume.openResultOf P K (.ok contents) l.credentials l.kdf l.pim

/-- What the header in a slot opens to. -/
def Login.found (l : Login) (contents : Bytes) (slot : HeaderLayout × ℕ) : Option OpenResult :=
  match l.credentials.mixed with
  | .ok password => slotResult P contents password (l.candidates K) slot
  | .error _ => none

variable (logins : List Login)

/-- The headers that the logins open are headers of one volume. -/
def Coherent (contents : Bytes) : Prop :=
  ∀ l ∈ logins, ∀ l' ∈ logins, ∀ slot ∈ slots contents.length, ∀ slot' ∈ slots contents.length,
    ∀ r r', l.found P K contents slot = some r → l'.found P K contents slot' = some r' →
      SameData r r'

/-- A header of the volume can be opened. -/
def Holds (volume : OpenResult) (contents : Bytes) : Prop :=
  ∃ l ∈ logins, ∃ slot ∈ slots contents.length, ∃ r,
    l.found P K contents slot = some r ∧ SameData volume r

end Logins

theorem sameData_refl (r : OpenResult) : SameData r r := ⟨rfl, rfl, rfl, rfl, rfl⟩

theorem sameData_trans {r r' r'' : OpenResult} (h : SameData r r') (h' : SameData r' r'') :
    SameData r r'' :=
  ⟨h'.dataCipher.trans h.dataCipher, h'.masterKey.trans h.masterKey,
    h'.dataOffset.trans h.dataOffset, h'.dataLength.trans h.dataLength,
    h'.volumeType.trans h.volumeType⟩

section Found
variable {P : CipherSuite} {K : KdfLibrary} {logins : List Login} {l : Login}
  {contents contents' : Bytes} {slot : HeaderLayout × ℕ} {r volume : OpenResult}

theorem found_eq_some : l.found P K contents slot = some r ↔ ∃ password,
    l.credentials.mixed = .ok password ∧
      slotResult P contents password (l.candidates K) slot = some r := by
  rw [Login.found]
  cases hmixed : l.credentials.mixed with
  | error e => simp
  | ok password => simp

/-- The result says whether the slot is a backup. -/
theorem usedBackupHeader_of_found (h : l.found P K contents slot = some r) :
    r.usedBackupHeader = slotIsBackup slot := by
  obtain ⟨password, -, hresult⟩ := found_eq_some.mp h
  obtain ⟨kdf, -, htry⟩ := List.exists_of_findSome?_eq_some hresult
  rw [tryKdf_eq] at htry
  obtain ⟨cipher, -, hattempt⟩ := List.exists_of_findSome?_eq_some htry
  rw [attemptOn_isBackup, Option.map_eq_some_iff] at hattempt
  obtain ⟨r', -, rfl⟩ := hattempt
  rfl

theorem found_congr (h : headerAt contents' slot.2 = headerAt contents slot.2) :
    l.found P K contents' slot = l.found P K contents slot := by
  rw [Login.found, Login.found]
  cases l.credentials.mixed with
  | error e => rfl
  | ok password =>
    change slotResult P contents' _ _ slot = slotResult P contents _ _ slot
    rw [slotResult, slotResult, h]

/-- A header that a cipher accepts can be opened in any slot. -/
theorem exists_found {password : Bytes} {kdf : KdfCandidate} {cipher : CipherType}
    {isBackup : Bool} (hmixed : l.credentials.mixed = .ok password)
    (hcandidates : l.candidates K = [kdf])
    (hearlier : NoEarlierCipher P password (headerAt contents slot.2) kdf cipher)
    (haccept : attemptOn P password (headerAt contents slot.2) isBackup kdf cipher = some r) :
    ∃ r', l.found P K contents slot = some r' ∧ SameData r r' := by
  rw [attemptOn_isBackup, Option.map_eq_some_iff] at haccept
  obtain ⟨found, haccept, rfl⟩ := haccept
  have hslot : attemptOn P password (headerAt contents slot.2) (slotIsBackup slot) kdf cipher =
      some { found with usedBackupHeader := slotIsBackup slot } := by
    rw [attemptOn_isBackup, haccept, Option.map_some]
  refine ⟨{ found with usedBackupHeader := slotIsBackup slot }, found_eq_some.mpr
    ⟨password, hmixed, ?_⟩, ⟨rfl, rfl, rfl, rfl, rfl⟩⟩
  rw [slotResult, hcandidates, List.findSome?_cons, tryKdf_of_attemptOn hearlier hslot]

section Sizes
variable (hfile : 4 * volumeHeaderSize ≤ contents.length)
include hfile

theorem exists_slot_of_opened (h : l.opened P K contents = .ok r) :
    ∃ slot ∈ slots contents.length, l.found P K contents slot = some r := by
  rw [Login.opened, OpenVolume.openResultOf_eq] at h
  obtain ⟨_, password, _, _, _, _, _, _, -, hmixed, -⟩ := openVolumeWith_eq_ok h
  obtain ⟨slot, hslot, hresult⟩ := (openVolumeWith_eq_ok_iff_slot hfile hmixed).mp h
  exact ⟨slot, List.mem_of_find?_eq_some hslot, found_eq_some.mpr ⟨password, hmixed, hresult⟩⟩

theorem exists_opened (hslot : slot ∈ slots contents.length)
    (h : l.found P K contents slot = some r) : ∃ r', l.opened P K contents = .ok r' := by
  obtain ⟨password, hmixed, hresult⟩ := found_eq_some.mp h
  have hsome : (acceptingSlot P contents password (l.candidates K)).isSome := by
    rw [acceptingSlot, List.find?_isSome]
    exact ⟨slot, hslot, by rw [hresult]; rfl⟩
  obtain ⟨first, hfirst⟩ := Option.isSome_iff_exists.mp hsome
  have haccepts := List.find?_some hfirst
  obtain ⟨r', hr'⟩ := Option.isSome_iff_exists.mp haccepts
  refine ⟨r', ?_⟩
  rw [Login.opened, OpenVolume.openResultOf_eq]
  exact (openVolumeWith_eq_ok_iff_slot hfile hmixed).mpr ⟨first, hfirst, hr'⟩

/-- What the logins open is the volume. -/
theorem Holds.sameData (h : Holds P K logins volume contents)
    (hcoherent : Coherent P K logins contents) (hl : l ∈ logins)
    (hopen : l.opened P K contents = .ok r) : SameData volume r := by
  obtain ⟨l', hl', slot', hslot', r', hfound', hsame⟩ := h
  obtain ⟨slot, hslot, hfound⟩ := exists_slot_of_opened hfile hopen
  exact sameData_trans hsame (hcoherent l' hl' l hl slot' hslot' slot hslot r' r hfound' hfound)

theorem Holds.opens (h : Holds P K logins volume contents)
    (hcoherent : Coherent P K logins contents) :
    ∃ l ∈ logins, ∃ r, l.opened P K contents = .ok r ∧ SameData volume r := by
  obtain ⟨l, hl, slot, hslot, r, hfound, -⟩ := id h
  obtain ⟨r', hopen⟩ := exists_opened hfile hslot hfound
  exact ⟨l, hl, r', hopen, h.sameData hfile hcoherent hl hopen⟩

theorem holds_of_opened (hl : l ∈ logins) (h : l.opened P K contents = .ok r) :
    Holds P K logins r contents := by
  obtain ⟨slot, hslot, hfound⟩ := exists_slot_of_opened hfile h
  exact ⟨l, hl, slot, hslot, r, hfound, sameData_refl r⟩

end Sizes

end Found

section Effects
variable {P : CipherSuite} {K : KdfLibrary} {R : RandomSource} {logins : List Login}
  {volume : OpenResult}

/-- Nothing between the first two slots and the last two changes. -/
structure HeaderEffect (before after : Bytes) : Prop where
  length : after.length = before.length
  spared : ∀ off n, volumeHeaderSize ≤ off → off + n ≤ before.length - 2 * volumeHeaderSize →
    slice after off n = slice before off n

theorem HeaderEffect.refl (contents : Bytes) : HeaderEffect contents contents :=
  ⟨rfl, fun _ _ _ _ => rfl⟩

theorem HeaderEffect.trans {before between after : Bytes} (h : HeaderEffect before between)
    (h' : HeaderEffect between after) : HeaderEffect before after := by
  refine ⟨h'.length.trans h.length, fun off n hlow hhigh => ?_⟩
  rw [h'.spared off n hlow (by rwa [h.length]), h.spared off n hlow hhigh]

/-- A header written to one of the two normal slots. -/
theorem headerEffect_splice {contents header : Bytes} {offset : ℕ}
    (hfile : 4 * volumeHeaderSize ≤ contents.length) (hheader : header.length ≤ volumeHeaderSize)
    (hoffset : offset ∈ normalOffsets contents.length) :
    HeaderEffect contents (splice contents offset header) := by
  simp only [normalOffsets, List.mem_cons, List.not_mem_nil, or_false] at hoffset
  exact ⟨length_splice (by omega), fun off n hlow hhigh =>
    slice_splice_of_disjoint (by omega) (by omega)⟩

theorem Holds.congr {before after : Bytes} (hfile : 4 * volumeHeaderSize ≤ before.length)
    (h : Holds P K logins volume before) (hlen : after.length = before.length)
    (hsame : ∀ off ∈ normalOffsets before.length ++ hiddenOffsets before.length,
      headerAt after off = headerAt before off) : Holds P K logins volume after := by
  obtain ⟨l, hl, slot, hslot, r, hfound, hdata⟩ := h
  refine ⟨l, hl, slot, hlen.symm ▸ hslot, r, ?_, hdata⟩
  rw [found_congr (hsame _ (slot_fits hfile hslot).1)]
  exact hfound

section Restore
variable {credentials : Credentials} {kdf : Option KdfAlgorithm} {pim : Option Int32}
  {plan : FaultPlan} {st : FileState UInt8}

/-- Wherever a restore stops, a prefix of the backup header is in the first slot, and none of
it before the header has been opened. -/
theorem restoreVolumeHeader_effect (hfile : 4 * volumeHeaderSize ≤ st.contents.length)
    (hmax : st.contents.length ≤ maxPosition) :
    ∃ k, (restoreVolumeHeader P K credentials kdf pim plan st).2.contents =
        splice st.contents 0 ((backupSlot st.contents).take k) ∧
      (k = 0 ∨ Validates P K credentials kdf pim st.contents) := by
  rcases hbackup : validatedBackup P K credentials kdf pim plan st with ⟨e | ⟨offset, hdr⟩, st₁⟩
  · have hkeeps : (validatedBackup P K credentials kdf pim plan st).2.contents = _ :=
      validatedBackup_contents plan st
    rw [hbackup] at hkeeps
    refine ⟨0, ?_, .inl rfl⟩
    rw [restoreVolumeHeader, FileIo.bind_of_error hbackup, List.take_zero, splice_nil]
    exact hkeeps
  · obtain ⟨-, -, -, hlong, -, hvalid, hoffset, hheader, hst⟩ := validatedBackup_eq_ok.mp hbackup
    have hcontents : st₁.contents = st.contents := by rw [hst]
    have hlen := length_backupSlot hlong
    have hroom : 0 + (backupSlot st.contents).length ≤ st.contents.length := by omega
    have hrun : restoreVolumeHeader P K credentials kdf pim plan st = (do
        writeHeaderAt 0 (backupSlot st.contents)
        ignored (writeHeaderAt offset (backupSlot st.contents))) plan st₁ := by
      rw [← hheader]
      exact FileIo.bind_of_ok hbackup
    rw [hrun]
    obtain ⟨k, hstored, -⟩ := writeHeaderAt_effect plan st₁ (hcontents.symm ▸ hroom)
    rw [hcontents] at hstored
    rcases hfirst : writeHeaderAt 0 (backupSlot st.contents) plan st₁ with ⟨e | u, st₂⟩
    · rw [hfirst] at hstored
      rw [FileIo.bind_of_error hfirst]
      exact ⟨k, hstored, .inr hvalid⟩
    · -- What the second write stores is there already.
      have hwhole : st₂.contents = splice st.contents 0 (backupSlot st.contents) := by
        obtain ⟨-, -, -, hst₂⟩ := (writeHeaderAt_eq_ok st₁ (hcontents.symm ▸ hroom)
          (hcontents.symm ▸ hmax)).mp hfirst
        rw [hst₂, hcontents]
      have hsame : st₂.contents.length = st.contents.length := by
        rw [hwhole]
        exact length_splice hroom
      have hin : offset + (backupSlot st.contents).length ≤ st₂.contents.length := by
        rw [hsame, hoffset, hlen, backupOffset]
        omega
      obtain ⟨k', hstored', -⟩ := writeHeaderAt_effect plan st₂ hin
      refine ⟨(backupSlot st.contents).length, ?_, .inr hvalid⟩
      rw [List.take_length, FileIo.bind_of_ok hfirst]
      change (writeHeaderAt offset (backupSlot st.contents) plan st₂).2.contents = _
      rw [hstored', ← hwhole]
      have htake : ((backupSlot st.contents).take k').length ≤ volumeHeaderSize := by
        rw [List.length_take, hlen]
        exact min_le_right _ _
      apply (splice_eq_self_iff (by omega)).mpr
      rw [hwhole, slice_splice_of_disjoint (Nat.zero_le _)
        (.inr (by rw [hlen, hoffset, backupOffset]; omega)), hoffset]
      have hprefix : slice (backupSlot st.contents) 0 ((backupSlot st.contents).take k').length =
          _ := slice_slice (by omega)
      rw [Nat.add_zero] at hprefix
      rw [← hprefix, slice, List.drop_zero]
      exact (List.prefix_iff_eq_take.mp (List.take_prefix k' _)).symm

theorem headerEffect_restore (hfile : 4 * volumeHeaderSize ≤ st.contents.length)
    (hmax : st.contents.length ≤ maxPosition) : HeaderEffect st.contents
      (restoreVolumeHeader P K credentials kdf pim plan st).2.contents := by
  obtain ⟨k, hcontents, -⟩ :=
    @restoreVolumeHeader_effect P K credentials kdf pim plan st hfile hmax
  rw [hcontents]
  apply headerEffect_splice hfile
  · rw [List.length_take, length_backupSlot (by omega)]
    exact min_le_right _ _
  · simp [normalOffsets]

/-- After a restore the volume is still held: the header in the first slot is its backup, or
the backup itself is. -/
theorem Holds.restored {contents : Bytes} {l : Login} (h : Holds P K logins volume contents)
    (hfile : 4 * volumeHeaderSize ≤ contents.length) (hl : l ∈ logins)
    (hcoherent : Coherent P K logins contents) {k : ℕ}
    (hvalid : k = 0 ∨ Validates P K l.credentials l.kdf l.pim contents) :
    Holds P K logins volume (splice contents 0 ((backupSlot contents).take k)) := by
  have hpos : 0 < volumeHeaderSize := by decide
  have hsizes : volumeHeaderEffectiveSize ≤ volumeHeaderSize := by decide
  have htake : ((backupSlot contents).take k).length ≤ volumeHeaderSize := by
    rw [List.length_take, length_backupSlot (by omega)]
    exact min_le_right _ _
  have hlen : (splice contents 0 ((backupSlot contents).take k)).length = contents.length :=
    length_splice (by omega)
  have hkeep (off : ℕ) (hoff : volumeHeaderSize ≤ off) :
      headerAt (splice contents 0 ((backupSlot contents).take k)) off = headerAt contents off :=
    slice_splice_of_disjoint (Nat.zero_le _) (.inr (by omega))
  have hlater {l : Login} {slot : HeaderLayout × ℕ} {r : OpenResult} (hl : l ∈ logins)
      (hslot : slot ∈ slots contents.length) (hfound : l.found P K contents slot = some r)
      (hdata : SameData volume r) (hoff : volumeHeaderSize ≤ slot.2) :
      Holds P K logins volume (splice contents 0 ((backupSlot contents).take k)) :=
    ⟨l, hl, slot, hlen.symm ▸ hslot, r, (found_congr (hkeep _ hoff)).trans hfound, hdata⟩
  obtain ⟨l', hl', slot, hslot, r, hfound, hdata⟩ := id h
  have hoffset := (slot_fits hfile hslot).1
  simp only [normalOffsets, hiddenOffsets, List.cons_append, List.nil_append, List.mem_cons,
    List.not_mem_nil, or_false] at hoffset
  by_cases hfirst : slot.2 = 0
  · rcases hvalid with rfl | ⟨password, r', hmixed, hopen⟩
    · rw [List.take_zero, splice_nil]
      exact h
    · have hbackup : (HeaderLayout.v2Normal contents.length,
          contents.length - 2 * volumeHeaderSize) ∈ slots contents.length := by
        rw [slots_eq hfile]
        simp
      have hopened : l.found P K contents (HeaderLayout.v2Normal contents.length,
          contents.length - 2 * volumeHeaderSize) = some r' := by
        refine found_eq_some.mpr ⟨password, hmixed, ?_⟩
        have hbytes : (backupSlot contents).take volumeHeaderEffectiveSize =
            headerAt contents (contents.length - 2 * volumeHeaderSize) := (headerAt_eq rfl).symm
        have hkdfs : restoreKdfs K l.kdf l.pim = l.candidates K := by
          rw [Login.candidates]
          cases l.kdf <;> rfl
        rw [hbytes, hkdfs, tryOpen, if_neg (by
          rw [headerAt, length_slice_of_le (by omega)]
          exact lt_irrefl _)] at hopen
        have hmark : slotIsBackup (HeaderLayout.v2Normal contents.length,
            contents.length - 2 * volumeHeaderSize) = true := by
          simp [slotIsBackup, HeaderLayout.v2Normal]
        rw [slotResult, hmark]
        split at hopen
        · next found hresult => rw [hresult, Except.ok.inj hopen]
        · cases hopen
      exact hlater hl hbackup hopened (sameData_trans hdata (hcoherent l' hl' l hl slot hslot _
        hbackup r r' hfound hopened)) (by simp only; omega)
  · exact hlater hl' hslot hfound hdata (by omega)

end Restore

section Change
variable {contents : Bytes} {old : Login} {new : Credentials} {kdf : KdfAlgorithm} {pim : Int32}
  {r : OpenResult}

theorem headerEffect_change {plan : FaultPlan} (hfile : 4 * volumeHeaderSize ≤ contents.length)
    (hmax : contents.length ≤ maxPosition) : HeaderEffect contents
      (changeVolumePassword P K R r new kdf pim plan ⟨contents, 0, 0⟩).2.contents := by
  cases hheader : newHeader P K R r new kdf pim with
  | error e =>
    rw [changeVolumePassword_of_error hheader]
    exact .refl contents
  | ok headerBuf =>
    have hlenBuf := length_newHeader hheader
    have htake (k : ℕ) : (headerBuf.take k).length ≤ volumeHeaderSize := by
      rw [List.length_take, hlenBuf]
      exact min_le_right _ _
    have heffect := writeHeaders_effect plan ⟨contents, 0, 0⟩ hfile hmax hlenBuf
    rw [changeVolumePassword_of_ok hheader]
    obtain ⟨k, ⟨hcontents, -⟩ | ⟨hcontents, -⟩⟩ := heffect
    · rw [hcontents]
      exact headerEffect_splice hfile (htake k) (by simp [normalOffsets])
    · have hbackup : HeaderEffect contents (splice contents
          (contents.length - 2 * volumeHeaderSize) headerBuf) :=
        headerEffect_splice hfile hlenBuf.le (by simp [normalOffsets])
      rw [hcontents]
      refine hbackup.trans (headerEffect_splice ?_ (htake k) (by simp [normalOffsets]))
      rw [hbackup.length]
      exact hfile

/-- A new header in a slot holds the volume. -/
theorem holds_of_newHeader {after headerBuf : Bytes} {slot : HeaderLayout × ℕ}
    (hslot : slot ∈ slots after.length) (hopen : old.opened P K contents = .ok r)
    (hsame : SameData volume r) (hnew : ⟨new, some kdf, some pim⟩ ∈ logins)
    (hheader : newHeader P K R r new kdf pim = .ok headerBuf)
    (hearlier : ∀ password, new.mixed = .ok password → NoEarlierCipher P password
      (headerBuf.take volumeHeaderEffectiveSize) (makeKdfCandidate K kdf pim) r.headerCipher)
    (hat : headerAt after slot.2 = headerBuf.take volumeHeaderEffectiveSize) :
    Holds P K logins volume after := by
  obtain ⟨salt, password, key, chain, -, hmixed, hkey, hchain, hbuf⟩ := newHeader_eq_ok.mp hheader
  rw [Login.opened, OpenVolume.openResultOf_eq] at hopen
  obtain ⟨hwellformed, hdata⟩ :=
    resealed_sameData hopen salt.2 (makeKdfCandidate K kdf pim) false
  have haccept := attemptOn_sealedHeader (P := P) salt.2 hwellformed hkey hchain false
  rw [← take_slotBytes P chain r.header salt.2, ← hbuf, ← hat] at haccept
  obtain ⟨r', hfound, hfoundData⟩ := @exists_found P K ⟨new, some kdf, some pim⟩ after slot _ _ _ _
    false hmixed rfl (hat.symm ▸ hearlier password hmixed) haccept
  exact ⟨_, hnew, slot, hslot, r', hfound, sameData_trans hsame (sameData_trans hdata hfoundData)⟩

/-- Wherever a change stops, the volume is still held: by the old header while the backup is
written, by the new backup while the first header is. -/
theorem Holds.changed {plan : FaultPlan} (h : Holds P K logins volume contents)
    (hfile : 4 * volumeHeaderSize ≤ contents.length) (hmax : contents.length ≤ maxPosition)
    (hold : old ∈ logins) (hnew : ⟨new, some kdf, some pim⟩ ∈ logins)
    (hcoherent : Coherent P K logins contents) (hopen : old.opened P K contents = .ok r)
    (hearlier : ∀ headerBuf password, newHeader P K R r new kdf pim = .ok headerBuf →
      new.mixed = .ok password → NoEarlierCipher P password
        (headerBuf.take volumeHeaderEffectiveSize) (makeKdfCandidate K kdf pim) r.headerCipher)
    (hcareful : r.usedBackupHeader = true →
      (changeVolumePassword P K R r new kdf pim plan ⟨contents, 0, 0⟩).1 = .ok ()) :
    Holds P K logins volume
      (changeVolumePassword P K R r new kdf pim plan ⟨contents, 0, 0⟩).2.contents := by
  have hsame := h.sameData hfile hcoherent hold hopen
  cases hheader : newHeader P K R r new kdf pim with
  | error e =>
    rw [changeVolumePassword_of_error hheader]
    exact h
  | ok headerBuf =>
    have hlenBuf := length_newHeader hheader
    have hbackup (k : ℕ) : Holds P K logins volume (splice (splice contents
        (contents.length - 2 * volumeHeaderSize) headerBuf) 0 (headerBuf.take k)) := by
      obtain ⟨hlen, -, hslot, -⟩ := primaryTorn_spec hfile hlenBuf k
      refine @holds_of_newHeader P K R logins volume contents old new kdf pim r _ headerBuf
        (.v2Normal contents.length, contents.length - 2 * volumeHeaderSize) ?_ hopen hsame hnew
        hheader (hearlier headerBuf · hheader) hslot
      rw [hlen, slots_eq hfile]
      simp
    have heffect := writeHeaders_effect plan ⟨contents, 0, 0⟩ hfile hmax hlenBuf
    rw [changeVolumePassword_of_ok hheader] at hcareful ⊢
    obtain ⟨k, ⟨hcontents, -⟩ | ⟨hcontents, -⟩⟩ := heffect
    · by_cases hused : r.usedBackupHeader = true
      · have hrun : writeHeaders headerBuf plan ⟨contents, 0, 0⟩ = (.ok (), _) :=
          Prod.ext (hcareful hused) rfl
        have hwhole := hbackup headerBuf.length
        rw [List.take_length] at hwhole
        rw [writeHeaders_eq_ok hfile hmax hlenBuf hrun]
        exact hwhole
      · rw [hcontents]
        obtain ⟨hlen, hfirst, -, hhidden⟩ := backupTorn_spec hfile hlenBuf k
        obtain ⟨slot, hslot, hfound⟩ := exists_slot_of_opened hfile hopen
        rw [usedBackupHeader_of_found hfound] at hused
        have hkeep : headerAt (splice contents (contents.length - 2 * volumeHeaderSize)
            (headerBuf.take k)) slot.2 = headerAt contents slot.2 := by
          rw [slots_eq hfile] at hslot
          simp only [List.mem_cons, List.not_mem_nil, or_false] at hslot
          rcases hslot with rfl | rfl | rfl | rfl | rfl
          · exact hfirst
          · simp [slotIsBackup, HeaderLayout.v2Normal] at hused
          · exact hfirst
          · rw [headerAt_eq (hhidden _ List.mem_cons_self), ← headerAt_eq rfl]
          · simp [slotIsBackup, HeaderLayout.v2Hidden] at hused
        exact ⟨old, hold, slot, hlen.symm ▸ hslot, r, (found_congr hkeep).trans hfound, hsame⟩
    · rw [hcontents]
      exact hbackup k

end Change

end Effects

/-- A volume file and the handles that are open on it. -/
structure Life where
  contents : Bytes
  volumes : List OpenVolume

inductive Act where
  | openVolume (l : Login) (readOnly : Bool)
  | call (handle : ℕ) (call : SectorCall)
  | change (old : Login) (new : Credentials) (kdf : KdfAlgorithm) (pim : Int32)
      (random : RandomSource) (plan : FaultPlan)
  | restore (l : Login) (plan : FaultPlan)

section Machine
variable (P : CipherSuite) (K : KdfLibrary)

/-- A change works on the header that the old login opens, and both it and a restore on a
file handle of their own. -/
def Life.step (s : Life) : Act → Life
  | .openVolume l readOnly =>
    match OpenVolume.openWith P K (.ok s.contents) (.ok ⟨s.contents, 0, 0⟩) l.credentials l.kdf
      l.pim readOnly with
    | .ok volume => { s with volumes := s.volumes ++ [volume] }
    | .error _ => s
  | .call handle call =>
    match s.volumes[handle]? with
    | some volume =>
      let volume := VolumeHistories.serve P (onFile volume s.contents) call
      ⟨volume.file.contents, s.volumes.set handle volume⟩
    | none => s
  | .change old new kdf pim random plan =>
    match old.opened P K s.contents with
    | .ok r =>
      { s with contents := (changeVolumePassword P K random r new kdf pim plan
          ⟨s.contents, 0, 0⟩).2.contents }
    | .error _ => s
  | .restore l plan =>
    { s with contents := (restoreVolumeHeader P K l.credentials l.kdf l.pim plan
        ⟨s.contents, 0, 0⟩).2.contents }

/-- What an action shows of the data. -/
def Life.event (s : Life) : Act → Event UInt8
  | .call handle call =>
    match s.volumes[handle]? with
    | some volume => VolumeHistories.event P (onFile volume s.contents) call
    | none => .refused
  | _ => .refused

variable (logins : List Login) (volume : OpenVolume) (size : ℕ)

/-- The sectors of the volume that keep away from the backup slots at the end of the file. -/
def clearDisk (contents : Bytes) : Device UInt8 :=
  outerDisk P volume (size - 2 * volumeHeaderSize) size contents

/-- No cipher that is tried before its own opens the header that a change writes. -/
def Unmistaken (r : OpenResult) (new : Credentials) (kdf : KdfAlgorithm) (pim : Int32)
    (random : RandomSource) : Prop :=
  ∀ headerBuf password, newHeader P K random r new kdf pim = .ok headerBuf →
    new.mixed = .ok password → NoEarlierCipher P password
      (headerBuf.take volumeHeaderEffectiveSize) (makeKdfCandidate K kdf pim) r.headerCipher

/-- The actions of a run: calls for clear sectors, and with the logins that are given. A
password changed through the backup header, because the first one does not open, is not
interrupted. -/
def Meets (s : Life) : Act → Prop
  | .openVolume l _ => l ∈ logins ∧ Coherent P K logins s.contents
  | .call _ call => call.sector.toNat < volume.maxSector.toNat ∧
      Clear (size - 2 * volumeHeaderSize) size
        (volume.inner.dataOffset.toNat + 512 * call.sector.toNat)
  | .change old new kdf pim random plan =>
    old ∈ logins ∧ ⟨new, some kdf, some pim⟩ ∈ logins ∧ Coherent P K logins s.contents ∧
      ∀ r, old.opened P K s.contents = .ok r → Unmistaken P K r new kdf pim random ∧
        (r.usedBackupHeader = true → (changeVolumePassword P K random r new kdf pim plan
          ⟨s.contents, 0, 0⟩).1 = .ok ())
  | .restore l _ => l ∈ logins ∧ Coherent P K logins s.contents

/-- What every state of a life has in common with the first. -/
structure Alive (s : Life) : Prop where
  length : s.contents.length = size
  held : Holds P K logins volume.inner s.contents
  handles : ∀ v ∈ s.volumes, SameData volume.inner v.inner ∧ v.cipher = volume.cipher

end Machine

/-- The data area lies behind the first two slots and in the file. -/
structure Laid (volume : OpenVolume) (size : ℕ) : Prop where
  file : 4 * volumeHeaderSize ≤ size
  fileSize : size ≤ maxPosition
  behind : 2 * volumeHeaderSize ≤ volume.inner.dataOffset.toNat
  inside : volume.inner.dataOffset.toNat + volume.inner.dataLength.toNat ≤ size

section Steps
variable {P : CipherSuite} {K : KdfLibrary} {logins : List Login} {volume : OpenVolume} {size : ℕ}
  {s : Life}

theorem disk_of_same {v : OpenVolume} (h : SameData volume.inner v.inner)
    (hcipher : v.cipher = volume.cipher) : disk P v = disk P volume := by
  funext contents i
  rw [disk, disk, plainSector, plainSector, OpenVolume.maxSector, OpenVolume.maxSector, hcipher,
    h.dataLength, h.dataOffset]

/-- What leaves the middle of the file alone leaves the clear sectors alone. -/
theorem HeaderEffect.clearDisk_eq {before after : Bytes} (hlaid : Laid volume size)
    (hsize : before.length = size) (h : HeaderEffect before after) :
    clearDisk P volume size after = clearDisk P volume size before := by
  have hpos : 0 < volumeHeaderSize := by decide
  have hbehind := hlaid.behind
  have hinside := hlaid.inside
  have hfit := sectors_fit volume
  funext i
  rw [clearDisk, clearDisk, outerDisk, outerDisk, restrict, restrict]
  split_ifs with hclear
  · rw [disk, disk]
    split_ifs with hi
    · rw [ClearByte, Clear] at hclear
      rw [plainSector, plainSector, h.spared _ _ (by omega) (by omega)]
    · rfl
  · rfl

/-- A handle that is alive reaches the sectors of the volume. -/
theorem ready_handle (hlaid : Laid volume size) (h : Alive P K logins volume size s)
    {v : OpenVolume} (hv : v ∈ s.volumes) :
    Ready v s.contents ∧ v.maxSector = volume.maxSector ∧
      v.inner.dataOffset = volume.inner.dataOffset := by
  obtain ⟨hsame, -⟩ := h.handles v hv
  have hlength := h.length
  refine ⟨⟨?_, hlength.trans_le hlaid.fileSize⟩, ?_, hsame.dataOffset⟩
  · rw [hsame.dataOffset, hsame.dataLength, hlength]
    exact hlaid.inside
  · rw [OpenVolume.maxSector, OpenVolume.maxSector, hsame.dataLength]

/-- A call for a clear sector leaves every header alone. -/
theorem headerAt_call (hlaid : Laid volume size) (h : Alive P K logins volume size s)
    {handle : ℕ} {call : SectorCall} (hmeets : Meets P K logins volume size s (.call handle call)) :
    (s.step P K (.call handle call)).contents.length = s.contents.length ∧
      ∀ off ∈ normalOffsets s.contents.length ++ hiddenOffsets s.contents.length,
        headerAt (s.step P K (.call handle call)).contents off = headerAt s.contents off := by
  obtain ⟨hsector, hclear⟩ := hmeets
  rw [Life.step]
  cases hvolume : s.volumes[handle]? with
  | none => exact ⟨rfl, fun _ _ => rfl⟩
  | some v =>
    obtain ⟨hready, hmax, hoffset⟩ := ready_handle hlaid h (List.mem_of_getElem? hvolume)
    obtain ⟨hlen, hspared⟩ := contents_serve (P := P) v hready (hmax ▸ hsector)
    have hlength := h.length
    have hfit := sectors_fit volume
    have hbehind := hlaid.behind
    have hinside := hlaid.inside
    have hfile := hlaid.file
    have hsizes : volumeHeaderEffectiveSize ≤ volumeHeaderSize := by decide
    rw [hoffset] at hspared
    rw [Clear] at hclear
    refine ⟨hlen, fun off hoff => hspared _ _ ?_⟩
    simp only [normalOffsets, hiddenOffsets, List.cons_append, List.nil_append, List.mem_cons,
      List.not_mem_nil, or_false] at hoff
    omega

/-- A call through a handle serves the clear sectors. -/
private theorem step_call (hlaid : Laid volume size) (h : Alive P K logins volume size s)
    {handle : ℕ} {call : SectorCall} (hmeets : Meets P K logins volume size s (.call handle call)) :
    Alive P K logins volume size (s.step P K (.call handle call)) ∧
      Step (clearDisk P volume size s.contents) (s.event P (.call handle call))
        (clearDisk P volume size (s.step P K (.call handle call)).contents) := by
  obtain ⟨hlen, hheaders⟩ := headerAt_call hlaid h hmeets
  have hheld := h.held.congr (h.length.symm ▸ hlaid.file) hlen hheaders
  obtain ⟨hsector, hclear⟩ := hmeets
  rw [Life.step] at hlen hheld ⊢
  rw [Life.event]
  cases hvolume : s.volumes[handle]? with
  | none => exact ⟨h, Step.refused _⟩
  | some v =>
    rw [hvolume] at hlen hheld
    obtain ⟨hsame, hcipher⟩ := h.handles v (List.mem_of_getElem? hvolume)
    obtain ⟨hready, hmax, -⟩ := ready_handle hlaid h (List.mem_of_getElem? hvolume)
    rw [← hmax] at hsector
    refine ⟨⟨hlen.trans h.length, hheld, fun w hw => ?_⟩, ?_⟩
    · rcases List.mem_or_eq_of_mem_set hw with hmem | rfl
      · exact h.handles w hmem
      · obtain ⟨file, triggered, hframe⟩ := serve_frame P (onFile v s.contents) call
        rw [hframe]
        exact ⟨hsame, hcipher⟩
    · obtain ⟨-, hstep⟩ := VolumeHistories.step_serve (P := P) (ready_onFile hready) hsector
      rw [disk_onFile, disk_of_same hsame hcipher] at hstep
      have hbyte (i : ℕ) (hi : i / 512 = call.sector.toNat) :
          ClearByte volume (size - 2 * volumeHeaderSize) size i := by
        rw [ClearByte, hi]
        exact hclear
      have hserved := @Step.restrict _ (ClearByte volume (size - 2 * volumeHeaderSize) size) _ _ _
        _ hstep (event_within hbyte)
      exact hserved

theorem contents_change {old : Login} {r : OpenResult} (hopen : old.opened P K s.contents = .ok r)
    (new : Credentials) (kdf : KdfAlgorithm) (pim : Int32) (random : RandomSource)
    (plan : FaultPlan) : (s.step P K (.change old new kdf pim random plan)).contents =
      (changeVolumePassword P K random r new kdf pim plan ⟨s.contents, 0, 0⟩).2.contents := by
  rw [Life.step, hopen]

theorem contents_openVolume (l : Login) (readOnly : Bool) :
    (s.step P K (.openVolume l readOnly)).contents = s.contents := by
  rw [Life.step]
  cases OpenVolume.openWith P K (.ok s.contents) (.ok ⟨s.contents, 0, 0⟩) l.credentials l.kdf l.pim
    readOnly <;> rfl

/-- Every action keeps the volume alive and serves its clear sectors. -/
theorem step_alive (hlaid : Laid volume size)
    (hbuilt : createSectorCipher volume.inner.dataCipher volume.inner.masterKey =
      .ok volume.cipher)
    (h : Alive P K logins volume size s) {a : Act} (hmeets : Meets P K logins volume size s a) :
    Alive P K logins volume size (s.step P K a) ∧
      Step (clearDisk P volume size s.contents) (s.event P a)
        (clearDisk P volume size (s.step P K a).contents) := by
  have hfile : 4 * volumeHeaderSize ≤ s.contents.length := h.length.symm ▸ hlaid.file
  have hmax : s.contents.length ≤ maxPosition := h.length.symm ▸ hlaid.fileSize
  cases a with
  | call handle call => exact step_call hlaid h hmeets
  | openVolume l readOnly =>
    obtain ⟨hl, hcoherent⟩ := hmeets
    rw [Life.step]
    cases hopen : OpenVolume.openWith P K (.ok s.contents) (.ok ⟨s.contents, 0, 0⟩) l.credentials
      l.kdf l.pim readOnly with
    | error e => exact ⟨h, Step.refused _⟩
    | ok v =>
      obtain ⟨r, cipher, hresult, hcipher, rfl⟩ := OpenVolume.openWith_eq_ok.mp hopen
      have hsame := h.held.sameData hfile hcoherent hl hresult
      refine ⟨⟨h.length, h.held, fun w hw => ?_⟩, Step.refused _⟩
      rcases List.mem_append.mp hw with hmem | hlast
      · exact h.handles w hmem
      · rw [List.mem_singleton.mp hlast]
        refine ⟨hsame, ?_⟩
        rw [hsame.dataCipher, hsame.masterKey, hbuilt] at hcipher
        exact (Except.ok.inj hcipher).symm
  | change old new kdf pim random plan =>
    obtain ⟨hold, hnew, hcoherent, hcareful⟩ := hmeets
    rw [Life.step]
    cases hopen : old.opened P K s.contents with
    | error e => exact ⟨h, Step.refused _⟩
    | ok r =>
      obtain ⟨hearlier, hbackup⟩ := hcareful r hopen
      have heffect := @headerEffect_change P K random s.contents new kdf pim r plan hfile hmax
      refine ⟨⟨heffect.length.trans h.length, ?_, h.handles⟩, ?_⟩
      · exact h.held.changed hfile hmax hold hnew hcoherent hopen hearlier hbackup
      · simp only [heffect.clearDisk_eq hlaid h.length]
        exact Step.refused _
  | restore l plan =>
    obtain ⟨hl, hcoherent⟩ := hmeets
    obtain ⟨k, hcontents, hvalid⟩ := @restoreVolumeHeader_effect P K l.credentials l.kdf l.pim
      plan ⟨s.contents, 0, 0⟩ hfile hmax
    have heffect := @headerEffect_restore P K l.credentials l.kdf l.pim plan
      ⟨s.contents, 0, 0⟩ hfile hmax
    rw [Life.step]
    refine ⟨⟨heffect.length.trans h.length, ?_, h.handles⟩, ?_⟩
    · rw [hcontents]
      exact h.held.restored hfile hl hcoherent hvalid
    · simp only [heffect.clearDisk_eq hlaid h.length]
      exact Step.refused _

/-- Every run keeps the volume alive and serves its clear sectors. -/
theorem run_alive (hlaid : Laid volume size)
    (hbuilt : createSectorCipher volume.inner.dataCipher volume.inner.masterKey =
      .ok volume.cipher)
    (h : Alive P K logins volume size s) {acts : List Act}
    (hacts : Meeting (Life.step P K) (Meets P K logins volume size) s acts) :
    Alive P K logins volume size (acts.foldl (Life.step P K) s) ∧
      Serves (clearDisk P volume size s.contents)
        (history (Life.step P K) (Life.event P) s acts)
        (clearDisk P volume size (acts.foldl (Life.step P K) s).contents) :=
  @serves_meeting _ _ _ (Life.step P K) (Life.event P)
    (fun s => clearDisk P volume size s.contents) (Alive P K logins volume size)
    (Meets P K logins volume size) (fun _ _ hs ha => step_alive hlaid hbuilt hs ha) s h acts hacts

end Steps

/-- A life begins when the volume is opened. -/
theorem alive_opened {P : CipherSuite} {K : KdfLibrary} {logins : List Login} {contents : Bytes}
    {l : Login} {readOnly : Bool} {volume : OpenVolume} (hl : l ∈ logins)
    (hopen : OpenVolume.openWith P K (.ok contents) (.ok ⟨contents, 0, 0⟩) l.credentials l.kdf
      l.pim readOnly = .ok volume) (hlaid : Laid volume contents.length) :
    createSectorCipher volume.inner.dataCipher volume.inner.masterKey = .ok volume.cipher ∧
      Alive P K logins volume contents.length ⟨contents, [volume]⟩ := by
  obtain ⟨r, cipher, hresult, hcipher, hvolume⟩ := OpenVolume.openWith_eq_ok.mp hopen
  have hinner : volume.inner = r := by rw [hvolume]
  refine ⟨by rw [hinner, hcipher, hvolume], rfl, ?_, fun v hv => ?_⟩
  · rw [hinner]
    exact holds_of_opened hlaid.file hl hresult
  · rw [List.mem_singleton.mp hv]
    exact ⟨sameData_refl _, rfl⟩

/-- The life of a volume from its first opening: however it is used, some login opens it, to
the same data, and the handles on it show a history of one plain disk. -/
theorem life_serves (P : CipherSuite) (K : KdfLibrary) (logins : List Login) (contents : Bytes)
    (l : Login) (readOnly : Bool) (volume : OpenVolume) (acts : List Act) (hl : l ∈ logins)
    (hopen : OpenVolume.openWith P K (.ok contents) (.ok ⟨contents, 0, 0⟩) l.credentials l.kdf
      l.pim readOnly = .ok volume)
    (hlaid : Laid volume contents.length)
    (hacts : Meeting (Life.step P K) (Meets P K logins volume contents.length)
      ⟨contents, [volume]⟩ acts)
    (hcoherent : Coherent P K logins
      (acts.foldl (Life.step P K) ⟨contents, [volume]⟩).contents) :
    (∃ l' ∈ logins, ∃ r, l'.opened P K
        (acts.foldl (Life.step P K) ⟨contents, [volume]⟩).contents = .ok r ∧
          SameData volume.inner r) ∧
      Serves (clearDisk P volume contents.length contents)
        (history (Life.step P K) (Life.event P) ⟨contents, [volume]⟩ acts)
        (clearDisk P volume contents.length
          (acts.foldl (Life.step P K) ⟨contents, [volume]⟩).contents) ∧
      ∀ before o data after,
        history (Life.step P K) (Life.event P) ⟨contents, [volume]⟩ acts =
          before ++ .read o data :: after →
        ∀ k < data.length, ∀ entry,
          remembered (clearDisk P volume contents.length contents) before (o + k) = some entry →
            data[k]? = entry := by
  obtain ⟨hbuilt, halive⟩ := alive_opened hl hopen hlaid
  obtain ⟨hend, hserves⟩ := run_alive hlaid hbuilt halive hacts
  refine ⟨hend.held.opens (hend.length.symm ▸ hlaid.file) hcoherent, hserves,
    fun before o data after hsplit k hk entry hentry => ?_⟩
  rw [hsplit] at hserves
  exact hserves.read_known hk hentry

section Sample

/-! A volume of 256 KiB with a header in every slot. Its password is changed, it is opened
again and a sector is written through the new handle. -/

def fourHeaders : Bytes := outerSlot 0x6F ++ outerSlot 0x6F ++ outerSlot 0x6F ++ outerSlot 0x6F

def lifeFile : Bytes := fourHeaders ++ fourHeaders

def loginOf (a : UInt8) : Login := ⟨⟨[a, a], []⟩, some .pbkdf2Sha512, some 1⟩

/-- The outer volume, found under a salt that begins with `aa`. -/
def foundOuter (a : UInt8) (isBackup : Bool) : OpenResult :=
  openResult .aes fittingKdf (saltOf a a).1
    (outerHeader.stored (saltOf a a).1 (saltOf a a).2) isBackup

/-- Every slot of the file holds a header of the outer volume. -/
def AllOuter (contents : Bytes) : Prop :=
  ∀ off ∈ normalOffsets contents.length ++ hiddenOffsets contents.length,
    ∃ a, headerAt contents off = (saltOf a a).1 ++ encryptedArea outerHeader

/-- A login with such a password, with the KDF named or searched for. -/
def OuterLogin (a : UInt8) (l : Login) : Prop := l = loginOf a ∨ l = { loginOf a with kdf := none }

/-- Its first candidate fits, and the others are those of the search. -/
private theorem OuterLogin.spec {a : UInt8} {l : Login} (h : OuterLogin a l) :
    l.credentials = ⟨[a, a], []⟩ ∧ ∃ kdfs, l.candidates fittingLibrary = fittingKdf :: kdfs ∧
      ∀ kdf ∈ fittingKdf :: kdfs, kdf ∈ autoKdfCandidates fittingLibrary (some 1) := by
  have hmem : fittingKdf ∈ autoKdfCandidates fittingLibrary (some 1) := List.mem_cons_self
  rcases h with rfl | rfl
  · refine ⟨rfl, [], rfl, fun kdf hkdf => ?_⟩
    rw [List.mem_singleton.mp hkdf]
    exact hmem
  · exact ⟨rfl, _, rfl, fun _ hkdf => hkdf⟩

/-- A login opens the headers under its own salt. -/
private theorem found_outer {contents : Bytes} {slot : HeaderLayout × ℕ} {a b : UInt8}
    {l : Login} {r : OpenResult} (hl : OuterLogin b l)
    (hslot : headerAt contents slot.2 = (saltOf a a).1 ++ encryptedArea outerHeader)
    (hfound : l.found maskingSuite fittingLibrary contents slot = some r) :
    r = foundOuter b (slotIsBackup slot) := by
  obtain ⟨hcredentials, kdfs, hkdfs, hsearched⟩ := hl.spec
  obtain ⟨_, hmixed, hresult⟩ := found_eq_some.mp hfound
  rw [hcredentials] at hmixed
  obtain rfl := Except.ok.inj hmixed
  rw [hkdfs] at hresult
  change slotResult maskingSuite contents [b, b] (fittingKdf :: kdfs) slot = some r at hresult
  rw [slotResult, hslot] at hresult
  by_cases hfit : [b, b] = [a, a]
  · obtain rfl : b = a := (List.cons.inj hfit).1
    have haccept : attemptOn maskingSuite [b, b] ((saltOf b b).1 ++ encryptedArea outerHeader)
        (slotIsBackup slot) fittingKdf .aes = some (foundOuter b (slotIsBackup slot)) :=
      accepts_fitting 1 (saltOf b b) rfl wellformed_outerHeader _
    rw [List.findSome?_cons, tryKdf_of_attemptOn noEarlierCipher_aes haccept] at hresult
    exact (Option.some.inj hresult).symm
  · have hreject : Rejects maskingSuite [b, b] ((saltOf a a).1 ++ encryptedArea outerHeader)
        (fittingKdf :: kdfs) := fun kdf hkdf =>
      rejects_unfit sample_firstBlock.1 hfit kdf (hsearched kdf hkdf)
    rw [(rejects_iff _).mp hreject] at hresult
    cases hresult

theorem coherent_allOuter {contents : Bytes} {logins : List Login}
    (hfile : 4 * volumeHeaderSize ≤ contents.length) (h : AllOuter contents)
    (hlogins : ∀ l ∈ logins, ∃ a, OuterLogin a l) :
    Coherent maskingSuite fittingLibrary logins contents := by
  intro l hl l' hl' slot hslot slot' hslot' r r' hfound hfound'
  obtain ⟨b, hb⟩ := hlogins l hl
  obtain ⟨b', hb'⟩ := hlogins l' hl'
  obtain ⟨a, ha⟩ := h slot.2 (slot_fits hfile hslot).1
  obtain ⟨a', ha'⟩ := h slot'.2 (slot_fits hfile hslot').1
  rw [found_outer hb ha hfound, found_outer hb' ha' hfound']
  exact ⟨rfl, rfl, rfl, rfl, rfl⟩

/-- The first header opens under its own salt. -/
theorem opened_outer {contents : Bytes} {a : UInt8} {l : Login}
    (hfile : 4 * volumeHeaderSize ≤ contents.length)
    (hfirst : headerAt contents 0 = (saltOf a a).1 ++ encryptedArea outerHeader)
    (hl : OuterLogin a l) :
    l.opened maskingSuite fittingLibrary contents = .ok (foundOuter a false) := by
  obtain ⟨hcredentials, kdfs, hkdfs, -⟩ := hl.spec
  have haccept : attemptOn maskingSuite [a, a] ((saltOf a a).1 ++ encryptedArea outerHeader) false
      fittingKdf .aes = some (foundOuter a false) :=
    accepts_fitting 1 (saltOf a a) rfl wellformed_outerHeader false
  rw [← hfirst] at haccept
  rw [Login.opened, OpenVolume.openResultOf_eq]
  change openVolumeWith _ _ _ (l.candidates fittingLibrary) = _
  rw [hcredentials, hkdfs]
  change openVolumeWith _ _ _ ([] ++ fittingKdf :: kdfs) = _
  exact openVolumeWith_primary hfile rfl (fun _ hk => absurd hk List.not_mem_nil)
    noEarlierCipher_aes haccept

theorem lifeFile_spec : lifeFile.length = 8 * volumeHeaderSize ∧ AllOuter lifeFile ∧
    headerAt lifeFile 0 = (saltOf 0x6F 0x6F).1 ++ encryptedArea outerHeader := by
  obtain ⟨houter, htake⟩ := slotBytes_zeroChain (saltOf 0x6F 0x6F) outerHeader
  obtain ⟨hlen, hfirst, hsecond, hthird, hfourth⟩ :=
    headers_of_slots houter houter houter houter
  rw [htake] at hfirst hsecond hthird hfourth
  change fourHeaders.length = _ at hlen
  have hsizes : volumeHeaderEffectiveSize ≤ volumeHeaderSize := by decide
  have hlength : lifeFile.length = 8 * volumeHeaderSize := by
    rw [lifeFile, List.length_append, hlen]
    omega
  have hsecondHalf (off : ℕ) (hoff : 4 * volumeHeaderSize ≤ off) :
      headerAt lifeFile off = headerAt fourHeaders (off - 4 * volumeHeaderSize) := by
    rw [headerAt, headerAt, lifeFile, slice_append_right (by omega), hlen]
  have hfirstHalf (off : ℕ) (hoff : off + volumeHeaderEffectiveSize ≤ fourHeaders.length) :
      headerAt lifeFile off = headerAt fourHeaders off := by
    rw [headerAt, headerAt, lifeFile, slice_append_left hoff]
  refine ⟨hlength, fun off hoff => ⟨0x6F, ?_⟩, (hfirstHalf 0 (by omega)).trans hfirst⟩
  simp only [normalOffsets, hiddenOffsets, List.cons_append, List.nil_append, List.mem_cons,
    List.not_mem_nil, or_false, hlength] at hoff
  rcases hoff with rfl | rfl | rfl | rfl
  · exact (hfirstHalf 0 (by omega)).trans hfirst
  · have hback : 8 * volumeHeaderSize - 2 * volumeHeaderSize - 4 * volumeHeaderSize =
        2 * volumeHeaderSize := by omega
    rw [hsecondHalf _ (by omega), hback]
    exact hthird
  · exact (hfirstHalf _ (by omega)).trans hsecond
  · have hback : 8 * volumeHeaderSize - volumeHeaderSize - 4 * volumeHeaderSize =
        3 * volumeHeaderSize := by omega
    rw [hsecondHalf _ (by omega), hback]
    exact hfourth

/-- The change to the password `nn`. -/
def toNn : Act :=
  .change (loginOf 0x6F) ⟨[0x6E, 0x6E], []⟩ .pbkdf2Sha512 1 TornHeaders.fittingRandom noFaults

/-- The header that the change writes. -/
private theorem newHeader_toNn : ∃ headerBuf,
    newHeader maskingSuite fittingLibrary TornHeaders.fittingRandom (foundOuter 0x6F false)
      ⟨[0x6E, 0x6E], []⟩ .pbkdf2Sha512 1 = .ok headerBuf ∧
    headerBuf.take volumeHeaderEffectiveSize =
      (saltOf 0x6E 0x6E).1 ++ encryptedArea outerHeader := by
  obtain ⟨-, htake⟩ := slotBytes_zeroChain (saltOf 0x6E 0x6E) (foundOuter 0x6F false).header
  have hbytes : encryptedArea (foundOuter 0x6F false).header = encryptedArea outerHeader :=
    encryptedArea_stored _ _
  have hsalt : TornHeaders.fittingRandom.fill 0 pkcs5SaltSize = .ok (saltOf 0x6E 0x6E) := rfl
  have hkey : fittingKdf.implementation.derive [0x6E, 0x6E] (saltOf 0x6E 0x6E).1
      fittingKdf.iterations maxHeaderKeySize = .ok (List.replicate maxHeaderKeySize 0) := rfl
  have hchain : cipherChain .aes ((List.replicate maxHeaderKeySize (0 : UInt8)).take
      (CipherType.aes.keySize * 2)) = .ok zeroChain := rfl
  rw [hbytes] at htake
  exact ⟨_, newHeader_eq_ok.mpr ⟨saltOf 0x6E 0x6E, [0x6E, 0x6E], _, zeroChain, hsalt, rfl, hkey,
    hchain, rfl⟩, htake⟩

theorem allOuter_changed {s : Life} (hfile : 4 * volumeHeaderSize ≤ s.contents.length)
    (hmax : s.contents.length ≤ maxPosition) (houter : AllOuter s.contents)
    (hfirst : headerAt s.contents 0 = (saltOf 0x6F 0x6F).1 ++ encryptedArea outerHeader) :
    (s.step maskingSuite fittingLibrary toNn).contents.length = s.contents.length ∧
      AllOuter (s.step maskingSuite fittingLibrary toNn).contents ∧
      headerAt (s.step maskingSuite fittingLibrary toNn).contents 0 =
        (saltOf 0x6E 0x6E).1 ++ encryptedArea outerHeader := by
  obtain ⟨headerBuf, hheader, htake⟩ := newHeader_toNn
  have hlenBuf := length_newHeader hheader
  obtain ⟨st', hrun⟩ := exists_writeHeaders ⟨s.contents, 0, 0⟩ hfile hmax hlenBuf
  have hcontents : (s.step maskingSuite fittingLibrary toNn).contents = st'.contents := by
    rw [toNn, contents_change (opened_outer hfile hfirst (.inl rfl)),
      changeVolumePassword_of_ok hheader, hrun]
  have hwritten : st'.contents = splice (splice s.contents
      (s.contents.length - 2 * volumeHeaderSize) headerBuf) 0 headerBuf :=
    @writeHeaders_eq_ok noFaults ⟨s.contents, 0, 0⟩ st' headerBuf hfile hmax hlenBuf hrun
  obtain ⟨hlen, hprimary, hbackup, hhidden⟩ := primaryTorn_spec hfile hlenBuf headerBuf.length
  rw [List.take_length] at hlen hprimary hbackup hhidden
  have hold : (headerAt s.contents 0).length ≤ headerBuf.length := by
    rw [headerAt, length_slice_of_le (le_trans (by decide) hfile), hlenBuf]
    decide
  rw [PasswordChange.tornHeader_whole (List.length_take_le' volumeHeaderEffectiveSize headerBuf)
    hold] at hprimary
  rw [hcontents, hwritten]
  refine ⟨hlen, fun off hoff => ?_, hprimary.trans htake⟩
  rw [hlen] at hoff
  rcases List.mem_append.mp hoff with hnormal | hlast
  · refine ⟨0x6E, ?_⟩
    rcases List.mem_cons.mp hnormal with rfl | hback
    · exact hprimary.trans htake
    · rw [List.mem_singleton.mp hback]
      exact hbackup.trans htake
  · obtain ⟨a, ha⟩ := houter off (List.mem_append_right _ hlast)
    exact ⟨a, by rw [headerAt_eq (hhidden off hlast), ← headerAt_eq rfl, ha]⟩

theorem meets_toNn {volume : OpenVolume} {size : ℕ} {s : Life} {logins : List Login}
    (hold : loginOf 0x6F ∈ logins) (hnew : loginOf 0x6E ∈ logins)
    (hlogins : ∀ l ∈ logins, ∃ a, OuterLogin a l)
    (hfile : 4 * volumeHeaderSize ≤ s.contents.length) (houter : AllOuter s.contents)
    (hfirst : headerAt s.contents 0 = (saltOf 0x6F 0x6F).1 ++ encryptedArea outerHeader) :
    Meets maskingSuite fittingLibrary logins volume size s toNn := by
  refine ⟨hold, hnew, coherent_allOuter hfile houter hlogins, fun r hr => ?_⟩
  rw [opened_outer hfile hfirst (.inl rfl)] at hr
  obtain rfl := Except.ok.inj hr
  exact ⟨fun _ _ _ _ => noEarlierCipher_aes, fun hused => absurd hused (by decide)⟩

def lifeActs : List Act :=
  [toNn, .openVolume (loginOf 0x6E) false, .call 1 (.write (DataWrites.sectorOf 1))]

theorem exists_handle {contents : Bytes} {a : UInt8}
    (hopened : (loginOf a).opened maskingSuite fittingLibrary contents =
      .ok (foundOuter a false)) : ∃ volume,
    OpenVolume.openWith maskingSuite fittingLibrary (.ok contents) (.ok ⟨contents, 0, 0⟩)
        (loginOf a).credentials (loginOf a).kdf (loginOf a).pim false = .ok volume ∧
      volume.inner = foundOuter a false := by
  have hsearch : openVolumeWith maskingSuite (.ok contents) (loginOf a).credentials [fittingKdf] =
      .ok (foundOuter a false) := hopened
  obtain ⟨cipher, hcipher, -⟩ := createSectorCipher_of_length (length_masterKey hsearch)
  exact ⟨_, OpenVolume.openWith_eq_ok.mpr ⟨_, cipher, hopened, hcipher, rfl⟩, rfl⟩

/-- The run meets its conditions, and no header is mistaken for another at its end. -/
private theorem meeting_lifeActs {volume : OpenVolume} {s : Life}
    (hlaid : Laid volume s.contents.length) (hlength : s.contents.length = 8 * volumeHeaderSize)
    (houter : AllOuter s.contents)
    (hfirst : headerAt s.contents 0 = (saltOf 0x6F 0x6F).1 ++ encryptedArea outerHeader)
    (hinner : volume.inner = foundOuter 0x6F false)
    (hbuilt : createSectorCipher volume.inner.dataCipher volume.inner.masterKey =
      .ok volume.cipher)
    (halive : Alive maskingSuite fittingLibrary ([0x6F, 0x6E].map loginOf) volume
      s.contents.length s) :
    Meeting (Life.step maskingSuite fittingLibrary) (Meets maskingSuite fittingLibrary
        ([0x6F, 0x6E].map loginOf) volume s.contents.length) s lifeActs ∧
      Coherent maskingSuite fittingLibrary ([0x6F, 0x6E].map loginOf)
        (lifeActs.foldl (Life.step maskingSuite fittingLibrary) s).contents := by
  have hfile := hlaid.file
  have hmax := hlaid.fileSize
  have hlogins : ∀ l ∈ [0x6F, 0x6E].map loginOf, ∃ a, OuterLogin a l := by
    intro l hl
    obtain ⟨a, -, rfl⟩ := List.mem_map.mp hl
    exact ⟨a, .inl rfl⟩
  have hchange : Meets maskingSuite fittingLibrary ([0x6F, 0x6E].map loginOf) volume
      s.contents.length s toNn := meets_toNn List.mem_cons_self
    (List.mem_cons_of_mem _ List.mem_cons_self) hlogins hfile houter hfirst
  obtain ⟨hchanged, -⟩ := step_alive hlaid hbuilt halive hchange
  obtain ⟨hlen, houter', -⟩ := allOuter_changed hfile hmax houter hfirst
  have hopen : Meets maskingSuite fittingLibrary ([0x6F, 0x6E].map loginOf) volume
      s.contents.length (s.step maskingSuite fittingLibrary toNn)
        (.openVolume (loginOf 0x6E) false) :=
    ⟨List.mem_cons_of_mem _ List.mem_cons_self, coherent_allOuter (hlen ▸ hfile) houter' hlogins⟩
  obtain ⟨hopened, -⟩ := step_alive hlaid hbuilt hchanged hopen
  have hoffset : (foundOuter 0x6F false).dataOffset.toNat = 262144 ∧
      (foundOuter 0x6F false).dataLength = 262144 := by decide
  have hcall : Meets maskingSuite fittingLibrary ([0x6F, 0x6E].map loginOf) volume
      s.contents.length ((s.step maskingSuite fittingLibrary toNn).step maskingSuite
        fittingLibrary (.openVolume (loginOf 0x6E) false))
          (.call 1 (.write (DataWrites.sectorOf 1))) := by
    have hsize : volumeHeaderSize = 65536 := rfl
    refine ⟨?_, .inl ?_⟩
    · rw [OpenVolume.maxSector, hinner, hoffset.2]
      decide
    · rw [hinner, hoffset.1, hlength, hsize]
      decide
  obtain ⟨hlast, hheaders⟩ := headerAt_call hlaid hopened hcall
  rw [contents_openVolume] at hlast hheaders
  refine ⟨⟨hchange, hopen, hcall, trivial⟩, ?_⟩
  rw [lifeActs, List.foldl_cons, List.foldl_cons, List.foldl_cons, List.foldl_nil]
  refine coherent_allOuter (hfile.trans_eq (hlast.trans hlen).symm) (fun off hoff => ?_) hlogins
  rw [hlast] at hoff
  obtain ⟨a, ha⟩ := houter' off hoff
  exact ⟨a, (hheaders off hoff).trans ha⟩

theorem foundOuter_area : (foundOuter 0x6F false).dataOffset.toNat = 262144 ∧
    (foundOuter 0x6F false).dataLength.toNat = 262144 := by decide

theorem laid_lifeFile {volume : OpenVolume} (hinner : volume.inner = foundOuter 0x6F false) :
    Laid volume lifeFile.length := by
  have hlength := lifeFile_spec.1
  have hsize : volumeHeaderSize = 65536 := rfl
  refine ⟨by omega, ?_, ?_, ?_⟩
  · rw [hlength]
    decide
  · rw [hinner, foundOuter_area.1, hsize]
    decide
  · rw [hinner, foundOuter_area.1, foundOuter_area.2, hlength, hsize]

/-- The volume opens after its password was changed and a sector was written. -/
theorem changed_volume_opens : ∃ volume,
    OpenVolume.openWith maskingSuite fittingLibrary (.ok lifeFile) (.ok ⟨lifeFile, 0, 0⟩)
        (loginOf 0x6F).credentials (loginOf 0x6F).kdf (loginOf 0x6F).pim false = .ok volume ∧
      ∃ l ∈ [0x6F, 0x6E].map loginOf, ∃ r,
        l.opened maskingSuite fittingLibrary (lifeActs.foldl (Life.step maskingSuite fittingLibrary)
          ⟨lifeFile, [volume]⟩).contents = .ok r ∧ SameData volume.inner r := by
  obtain ⟨hlength, houter, hfirst⟩ := lifeFile_spec
  have hfile : 4 * volumeHeaderSize ≤ lifeFile.length := by omega
  have hopened := opened_outer hfile hfirst (.inl rfl)
  obtain ⟨volume, hopen, hinner⟩ := exists_handle hopened
  have hlaid := laid_lifeFile hinner
  have hlogin : loginOf 0x6F ∈ [0x6F, 0x6E].map loginOf := List.mem_cons_self
  obtain ⟨hbuilt, halive⟩ := alive_opened hlogin hopen hlaid
  obtain ⟨hacts, hcoherent⟩ :=
    @meeting_lifeActs volume ⟨lifeFile, [volume]⟩ hlaid hlength houter hfirst hinner hbuilt halive
  exact ⟨volume, hopen, (life_serves maskingSuite fittingLibrary ([0x6F, 0x6E].map loginOf)
    lifeFile (loginOf 0x6F) false volume lifeActs hlogin hopen hlaid hacts hcoherent).1⟩

end Sample

end Oxhide.VolumeLives
