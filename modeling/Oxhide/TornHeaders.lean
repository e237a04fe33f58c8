import Oxhide.ChangedHeaders

/-! # Stopping in the middle of a password change

The backup slot is overwritten before the first slot. A volume that opens from its first
slot therefore opens wherever the change stops: until the backup is whole nothing was done
to the first slot. A volume whose first slot is damaged loses its only header. -/
namespace Oxhide.TornHeaders
open BlockCiphers ChangedHeaders CipherChain CipherTypes CreateThenOpen FaultyFile HeaderFormat
  HeaderSlots KeyDerivation ListSplice OpeningSearch PasswordChange SealedHeaders VolumeCreation
  VolumeErrors VolumeOpening WordBytes Xts

/-- The two ways into a volume during a change. -/
structure Access where
  old : Credentials
  oldKdfs : List KdfCandidate
  new : Credentials
  newKdfs : List KdfCandidate

/-- The old or the new credentials open the file to the master key. -/
def Access.Opens (P : CipherSuite) (access : Access) (contents masterKey : Bytes) : Prop :=
  ∃ r, (openVolumeWith P (.ok contents) access.old access.oldKdfs = .ok r ∨
      openVolumeWith P (.ok contents) access.new access.newKdfs = .ok r) ∧
    r.masterKey = masterKey

/-- Wherever a change stops, the volume opens, and up to the second call, the seek in front
of the first write, nothing has changed. -/
def CrashSafe (P : CipherSuite) (K : KdfLibrary) (R : RandomSource) (data : Bytes) (r : OpenResult)
    (access : Access) (kdf : KdfAlgorithm) (pim : Int32) : Prop :=
  ∀ plan pos calls result st',
    changeVolumePassword P K R r access.new kdf pim plan ⟨data, pos, calls⟩ = (result, st') →
      access.Opens P st'.contents r.masterKey ∧ (st'.calls ≤ calls + 2 → st'.contents = data)

/-- There are randomness, keyfiles and a key for the new header. -/
def Sealable (R : RandomSource) (credentials : Credentials) (kdf : KdfCandidate) : Prop :=
  ∃ salt password key, R.fill 0 pkcs5SaltSize = .ok salt ∧ credentials.mixed = .ok password ∧
    kdf.implementation.derive password salt.1 kdf.iterations maxHeaderKeySize = .ok key

/-- No header is accepted by chance: not by other credentials than its own, not by another
cipher than its own, and not when only its beginning was replaced. -/
structure NoAccident (P : CipherSuite) (data : Bytes) (access : Access) (password : Bytes)
    (slot : HeaderLayout × ℕ) (cipher : CipherType) (kdf : KdfCandidate) (hdr newPassword : Bytes) :
    Prop where
  newFirst : ∃ ks₁ ks₂, access.newKdfs = ks₁ ++ kdf :: ks₂ ∧ Rejects P newPassword hdr ks₁ ∧
    NoEarlierCipher P newPassword hdr kdf cipher
  newTorn : ∀ k, tornHeader hdr (headerAt data 0) k ≠ headerAt data 0 →
    tornHeader hdr (headerAt data 0) k ≠ hdr →
    Rejects P newPassword (tornHeader hdr (headerAt data 0) k) access.newKdfs
  oldTorn : slot.2 ∈ hiddenOffsets data.length → ∀ off ∈ normalOffsets data.length, ∀ k,
    tornHeader hdr (headerAt data off) k = headerAt data off ∨
      Rejects P password (tornHeader hdr (headerAt data off) k) access.oldKdfs
  hidden : slot.2 = data.length - 2 * volumeHeaderSize → ∀ off ∈ hiddenOffsets data.length,
    Rejects P password (headerAt data off) access.oldKdfs ∧
      Rejects P newPassword (headerAt data off) access.newKdfs
  torn : slot.2 = data.length - 2 * volumeHeaderSize → ∃ k,
    Rejects P password (tornHeader hdr (headerAt data slot.2) k) access.oldKdfs ∧
      Rejects P newPassword (tornHeader hdr (headerAt data slot.2) k) access.newKdfs ∧
      Rejects P newPassword (headerAt data 0) access.newKdfs

section Change
variable {P : CipherSuite} {K : KdfLibrary} {R : RandomSource} {data : Bytes} {access : Access}
  {password : Bytes} {slot : HeaderLayout × ℕ} {r : OpenResult} {kdf : KdfAlgorithm} {pim : Int32}
  {headerBuf : Bytes}

theorem sealable_iff : Sealable R access.new (makeKdfCandidate K kdf pim) ↔
    ∃ headerBuf, newHeader P K R r access.new kdf pim = .ok headerBuf := by
  constructor
  · rintro ⟨salt, newPassword, key, hsalt, hmixed, hkey⟩
    obtain ⟨-, chain, hchain⟩ := exists_headerChain
      ((makeKdfCandidate K kdf pim).implementation.derive_length hkey) r.headerCipher
    exact ⟨_, newHeader_eq_ok.mpr ⟨salt, newPassword, key, chain, hsalt, hmixed, hkey, hchain, rfl⟩⟩
  · rintro ⟨headerBuf, hheader⟩
    obtain ⟨salt, newPassword, key, -, hsalt, hmixed, hkey, -⟩ := newHeader_eq_ok.mp hheader
    exact ⟨salt, newPassword, key, hsalt, hmixed, hkey⟩

/-- The new header opens to the master key of the old one. -/
private theorem newHeader_accepts (hopen : openVolumeWith P (.ok data) access.old access.oldKdfs =
      .ok r) (hheader : newHeader P K R r access.new kdf pim = .ok headerBuf) :
    ∃ newPassword, access.new.mixed = .ok newPassword ∧ ∀ isBackup, ∃ r',
      attemptOn P newPassword (headerBuf.take volumeHeaderEffectiveSize) isBackup
          (makeKdfCandidate K kdf pim) r.headerCipher = some r' ∧ r'.masterKey = r.masterKey := by
  obtain ⟨salt, newPassword, key, chain, -, hmixed, hkey, hchain, rfl⟩ :=
    newHeader_eq_ok.mp hheader
  refine ⟨newPassword, hmixed, fun isBackup => ?_⟩
  obtain ⟨hwellformed, hsame⟩ :=
    resealed_sameData hopen salt.2 (makeKdfCandidate K kdf pim) isBackup
  rw [take_slotBytes P chain r.header salt.2]
  exact ⟨_, attemptOn_sealedHeader salt.2 hwellformed hkey hchain isBackup, hsame.masterKey⟩

section Contents
variable {newPassword : Bytes} (hfile : 4 * volumeHeaderSize ≤ data.length)
  (hfound : FoundIn P data access.old access.oldKdfs password slot r)
  (hheader : newHeader P K R r access.new kdf pim = .ok headerBuf)
  (hmixed : access.new.mixed = .ok newPassword)
  (hclean : NoAccident P data access password slot r.headerCipher (makeKdfCandidate K kdf pim)
    (headerBuf.take volumeHeaderEffectiveSize) newPassword)
include hfile hfound hheader hmixed hclean

omit hheader hmixed in
/-- A hidden volume keeps its header, so the old credentials still find it. -/
private theorem opens_hidden {contents : Bytes} (hhidden : slot.2 ∈ hiddenOffsets data.length)
    (hlen : contents.length = data.length)
    (hkeep : ∀ off ∈ hiddenOffsets data.length,
      slice contents off volumeHeaderSize = slice data off volumeHeaderSize)
    (htorn : ∀ off ∈ normalOffsets data.length, ∃ k, headerAt contents off =
      tornHeader (headerBuf.take volumeHeaderEffectiveSize) (headerAt data off) k) :
    access.Opens P contents r.masterKey := by
  have hsame (off : ℕ) (hoff : off ∈ hiddenOffsets data.length) :
      headerAt contents off = headerAt data off :=
    (headerAt_eq (hkeep off hoff)).trans (headerAt_eq rfl).symm
  refine ⟨r, Or.inl (openVolumeWith_of_headers hfile hfound hlen (hsame _ hhidden) ?_), rfl⟩
  intro off hoff
  rcases List.mem_append.mp hoff with hnormal | hoff
  · obtain ⟨k, hk⟩ := htorn off hnormal
    rw [hk]
    exact hclean.oldTorn hhidden off hnormal k
  · exact Or.inl (hsame off hoff)

omit hmixed in
/-- While the backup slot is written the old header is found. -/
private theorem opens_backupTorn (hslot : slot.2 ≠ data.length - 2 * volumeHeaderSize) (k : ℕ) :
    access.Opens P (splice data (data.length - 2 * volumeHeaderSize) (headerBuf.take k))
      r.masterKey := by
  obtain ⟨hlen, hfirst, hbackup, hhidden⟩ := backupTorn_spec hfile (length_newHeader hheader) k
  rcases offset_cases hfile hfound with hzero | heq | hoff
  · exact ⟨r, Or.inl (openVolumeWith_of_first hfile hfound hzero hlen hfirst), rfl⟩
  · exact absurd heq hslot
  · refine opens_hidden hfile hfound hclean hoff hlen hhidden fun off hnormal => ?_
    rcases List.mem_cons.mp hnormal with rfl | hlast
    · exact ⟨0, hfirst⟩
    · rw [List.mem_singleton.mp hlast]
      exact ⟨k, hbackup⟩

/-- While the first slot is written the new header is in the backup slot. -/
private theorem opens_primaryTorn (hslot : slot.2 ≠ data.length - 2 * volumeHeaderSize) (k : ℕ) :
    access.Opens P (splice (splice data (data.length - 2 * volumeHeaderSize) headerBuf) 0
      (headerBuf.take k)) r.masterKey := by
  have hlenBuf := length_newHeader hheader
  obtain ⟨hlen, hfirst, hbackup, hhidden⟩ := primaryTorn_spec hfile hlenBuf k
  rcases offset_cases hfile hfound with hzero | heq | hoff
  · obtain ⟨ks₁, ks₂, hkdfs, hreject, hearlier⟩ := hclean.newFirst
    obtain ⟨newPassword', hmixed', haccept⟩ := newHeader_accepts hfound.opens hheader
    obtain rfl := Except.ok.inj (hmixed.symm.trans hmixed')
    by_cases hkeep : tornHeader (headerBuf.take volumeHeaderEffectiveSize) (headerAt data 0) k =
        headerAt data 0
    · exact ⟨r, Or.inl (openVolumeWith_of_first hfile hfound hzero hlen (hfirst.trans hkeep)), rfl⟩
    by_cases hwhole : tornHeader (headerBuf.take volumeHeaderEffectiveSize) (headerAt data 0) k =
        headerBuf.take volumeHeaderEffectiveSize
    · rw [hwhole] at hfirst
      obtain ⟨r', hr', hkey⟩ := haccept false
      refine ⟨r', Or.inr ?_, hkey⟩
      rw [hkdfs]
      exact openVolumeWith_primary (hfile.trans_eq hlen.symm) hmixed (by rwa [hfirst])
        (by rwa [hfirst]) (by rw [hfirst, hr'])
    · obtain ⟨r', hr', hkey⟩ := haccept true
      have hnewTorn := hclean.newTorn k hkeep hwhole
      refine ⟨r', Or.inr ?_, hkey⟩
      rw [hkdfs] at hnewTorn ⊢
      exact openVolumeWith_backup (hfile.trans_eq hlen.symm) hmixed (by rwa [hfirst])
        (by rwa [hlen, hbackup]) (by rwa [hlen, hbackup]) (by rw [hlen, hbackup, hr'])
  · exact absurd heq hslot
  · refine opens_hidden hfile hfound hclean hoff hlen hhidden fun off hnormal => ?_
    rcases List.mem_cons.mp hnormal with rfl | hlast
    · exact ⟨k, hfirst⟩
    · have hold : (headerAt data off).length ≤ headerBuf.length := by
        rw [headerAt, List.mem_singleton.mp hlast, length_slice_of_le (by
          have hsizes : volumeHeaderEffectiveSize ≤ volumeHeaderSize := by decide
          omega), hlenBuf]
        decide
      rw [List.mem_singleton.mp hlast] at hold ⊢
      exact ⟨headerBuf.length, by rw [hbackup, tornHeader_whole
        (List.length_take_le' volumeHeaderEffectiveSize headerBuf) hold]⟩

/-- With the only header torn and nothing else to find, neither credentials open the file. -/
private theorem not_opens_backupTorn (hslot : slot.2 = data.length - 2 * volumeHeaderSize) :
    ∃ k, ¬ access.Opens P (splice data (data.length - 2 * volumeHeaderSize) (headerBuf.take k))
      r.masterKey := by
  obtain ⟨k, holdTorn, hnewTorn, hnewFirst⟩ := hclean.torn hslot
  have holdFirst : Rejects P password (headerAt data 0) access.oldKdfs :=
    rejects_first hfile hfound.accepting (by
      have hpos : 0 < volumeHeaderSize := by decide
      omega)
  obtain ⟨hlen, hfirst, hbackup, hhidden⟩ := backupTorn_spec hfile (length_newHeader hheader) k
  refine ⟨k, ?_⟩
  generalize splice data (data.length - 2 * volumeHeaderSize) (headerBuf.take k) = contents at *
  have hall {kdfs : List KdfCandidate} {pw : Bytes} (hzero : Rejects P pw (headerAt data 0) kdfs)
      (htorn : Rejects P pw (tornHeader (headerBuf.take volumeHeaderEffectiveSize)
        (headerAt data slot.2) k) kdfs)
      (hrest : ∀ off ∈ hiddenOffsets data.length, Rejects P pw (headerAt data off) kdfs) (off : ℕ)
      (hoff : off ∈ normalOffsets contents.length ++ hiddenOffsets contents.length) :
      Rejects P pw (headerAt contents off) kdfs := by
    rw [hlen] at hoff
    rcases List.mem_append.mp hoff with hnormal | hoff
    · rcases List.mem_cons.mp hnormal with rfl | hlast
      · rwa [hfirst]
      · rwa [List.mem_singleton.mp hlast, hbackup, ← hslot]
    · rw [headerAt_eq (hhidden off hoff), ← headerAt_eq rfl]
      exact hrest off hoff
  rintro ⟨r', hold | hnew, -⟩
  · exact openVolumeWith_ne_ok (hfile.trans_eq hlen.symm) hfound.mixed
      (hall holdFirst holdTorn fun off hoff => (hclean.hidden hslot off hoff).1) hold
  · exact openVolumeWith_ne_ok (hfile.trans_eq hlen.symm) hmixed
      (hall hnewFirst hnewTorn fun off hoff => (hclean.hidden hslot off hoff).2) hnew

/-- What was opened from its backup header can be lost. -/
theorem not_crashSafe_of_backup (hmax : data.length ≤ maxPosition)
    (hslot : slot.2 = data.length - 2 * volumeHeaderSize) :
    ¬ CrashSafe P K R data r access kdf pim := by
  intro hsafe
  obtain ⟨k, hlost⟩ := not_opens_backupTorn hfile hfound hheader hmixed hclean hslot
  obtain ⟨plan, htorn⟩ := exists_tornBackup ⟨data, 0, 0⟩ headerBuf hfile hmax k
  rcases hwrite : writeHeaders headerBuf plan ⟨data, 0, 0⟩ with ⟨result, st'⟩
  have hopens := (hsafe plan 0 0 result st' (by rw [changeVolumePassword_of_ok hheader, hwrite])).1
  rw [hwrite] at htorn
  rw [htorn] at hopens
  exact hlost hopens

end Contents

end Change

/-- A password change can be stopped anywhere exactly when the volume was not opened from its
backup header, unless there is no new header to be written. -/
theorem crashSafe_changeVolumePassword_iff (P : CipherSuite) (K : KdfLibrary) (R : RandomSource)
    (data : Bytes) (access : Access) (password : Bytes) (slot : HeaderLayout × ℕ) (r : OpenResult)
    (kdf : KdfAlgorithm) (pim : Int32) (hfile : 4 * volumeHeaderSize ≤ data.length)
    (hmax : data.length ≤ maxPosition)
    (hfound : FoundIn P data access.old access.oldKdfs password slot r)
    (hclean : ∀ headerBuf newPassword, newHeader P K R r access.new kdf pim = .ok headerBuf →
      access.new.mixed = .ok newPassword →
      NoAccident P data access password slot r.headerCipher (makeKdfCandidate K kdf pim)
        (headerBuf.take volumeHeaderEffectiveSize) newPassword) :
    CrashSafe P K R data r access kdf pim ↔
      (Sealable R access.new (makeKdfCandidate K kdf pim) →
        slot.2 ≠ data.length - 2 * volumeHeaderSize) := by
  constructor
  · intro hsafe hseal hslot
    obtain ⟨headerBuf, hheader⟩ := (sealable_iff (P := P) (r := r)).mp hseal
    obtain ⟨_, newPassword, _, -, hmixed, -⟩ := hseal
    exact not_crashSafe_of_backup hfile hfound hheader hmixed (hclean _ _ hheader hmixed) hmax hslot
      hsafe
  · intro hslot plan pos calls result st' hrun
    cases hheader : newHeader P K R r access.new kdf pim with
    | error e =>
      rw [changeVolumePassword_of_error hheader] at hrun
      cases hrun
      exact ⟨⟨r, Or.inl hfound.opens, rfl⟩, fun _ => rfl⟩
    | ok headerBuf =>
      have hslot' := hslot ((sealable_iff (P := P) (r := r)).mpr ⟨headerBuf, hheader⟩)
      obtain ⟨_, newPassword, _, _, -, hmixed, -⟩ := newHeader_eq_ok.mp hheader
      have hclean' := hclean _ _ hheader hmixed
      have heffect := writeHeaders_effect plan ⟨data, pos, calls⟩ hfile hmax
        (length_newHeader hheader)
      rw [changeVolumePassword_of_ok hheader] at hrun
      rw [hrun] at heffect
      obtain ⟨k, ⟨hcontents, hnone⟩ | ⟨hcontents, hcalls⟩⟩ := heffect
      · rw [hcontents]
        refine ⟨opens_backupTorn hfile hfound hheader hclean' hslot' k, fun hfew => ?_⟩
        rw [hnone hfew, List.take_zero, splice_nil]
      · rw [hcontents]
        exact ⟨opens_primaryTorn hfile hfound hheader hmixed hclean' hslot' k,
          fun hfew => absurd hfew (not_le.mpr hcalls)⟩

section Sample

/-- A header whose salt is torn is one of the two headers, or has the one byte of the new salt
that tells its first byte apart. -/
private theorem tornHeader_saltOf (a b c d : UInt8) (area : Bytes) (k : ℕ) :
    ∃ e f, tornHeader ((saltOf a b).1 ++ area) ((saltOf c d).1 ++ area) k = (saltOf e f).1 ++ area ∧
      ((e = c ∧ f = d) ∨ (e = a ∧ f = d) ∨ (e = a ∧ f = b)) := by
  match k with
  | 0 => exact ⟨c, d, rfl, Or.inl ⟨rfl, rfl⟩⟩
  | 1 => exact ⟨a, d, rfl, Or.inr (Or.inl ⟨rfl, rfl⟩)⟩
  | k + 2 =>
    refine ⟨a, b, ?_, Or.inr (Or.inr ⟨rfl, rfl⟩)⟩
    have hrest := List.take_append_drop k (List.replicate 62 0 ++ area)
    simp only [tornHeader, saltOf, List.cons_append, List.take_succ_cons, List.drop_succ_cons, hrest]

/-- A generator that returns a salt for the password `nn`. -/
def fittingRandom : RandomSource where
  fill _ len := .ok ⟨(0x6E :: 0x6E :: List.replicate len 0).take len, by simp; omega⟩

def sampleAccess : Access := ⟨⟨[0x6F, 0x6F], []⟩, fittingKdfs, ⟨[0x6E, 0x6E], []⟩, fittingKdfs⟩

/-- The new header of the outer volume. -/
private theorem newHeader_sample {headerBuf : Bytes} {isBackup : Bool}
    (h : newHeader maskingSuite fittingLibrary fittingRandom (outerResult isBackup) sampleAccess.new
      .pbkdf2Sha512 1 = .ok headerBuf) : headerBuf.take volumeHeaderEffectiveSize =
        (saltOf 0x6E 0x6E).1 ++ encryptedArea outerHeader := by
  obtain ⟨salt, password, key, chain, hsalt, hmixed, hkey, hchain, rfl⟩ := newHeader_eq_ok.mp h
  obtain rfl : saltOf 0x6E 0x6E = salt := Except.ok.inj hsalt
  obtain rfl : [0x6E, 0x6E] = password := Except.ok.inj hmixed
  obtain rfl : List.replicate maxHeaderKeySize 0 = key := Except.ok.inj hkey
  obtain rfl : zeroChain = chain := Except.ok.inj hchain
  rw [take_slotBytes _ _ _ (saltOf 0x6E 0x6E).2, sealedHeader_zeroChain, outerResult, openResult,
    encryptedArea_stored]

/-- Of the torn first headers the new password fits only the whole new one. -/
private theorem rejects_tornSample {a : UInt8} (ha : a ≠ 0x6E) (k : ℕ)
    (htorn : tornHeader ((saltOf 0x6E 0x6E).1 ++ encryptedArea outerHeader)
      (headerAt (sampleFile a) 0) k ≠ (saltOf 0x6E 0x6E).1 ++ encryptedArea outerHeader) :
    Rejects maskingSuite [0x6E, 0x6E] (tornHeader
      ((saltOf 0x6E 0x6E).1 ++ encryptedArea outerHeader) (headerAt (sampleFile a) 0) k)
        fittingKdfs := by
  obtain ⟨-, hfirst, -⟩ := sampleFile_spec a
  rw [hfirst] at htorn ⊢
  obtain ⟨e, f, hmix, ⟨rfl, rfl⟩ | ⟨rfl, rfl⟩ | ⟨rfl, rfl⟩⟩ :=
    tornHeader_saltOf 0x6E 0x6E a a (encryptedArea outerHeader) k
  · rw [hmix]
    exact rejects_unfit sample_firstBlock.1 (by simp [ha.symm])
  · rw [hmix]
    exact rejects_unfit sample_firstBlock.1 (by simp [ha.symm])
  · exact absurd hmix htorn

/-- The outer volume of a sample file can be stopped anywhere in a change. -/
theorem crashSafe_outerVolume : CrashSafe maskingSuite fittingLibrary fittingRandom (sampleFile 0x6F)
    (outerResult false) sampleAccess .pbkdf2Sha512 1 := by
  obtain ⟨hlen, hfirst, -⟩ := sampleFile_spec 0x6F
  have hpos : 0 < volumeHeaderSize := by decide
  refine (crashSafe_changeVolumePassword_iff maskingSuite fittingLibrary fittingRandom
    (sampleFile 0x6F) sampleAccess [0x6F, 0x6F] _ (outerResult false) .pbkdf2Sha512 1 hlen.ge
    (by rw [hlen]; decide) outerVolume_found ?_).mpr fun _ => by simp only; omega
  intro headerBuf newPassword hheader hmixed
  obtain rfl : [0x6E, 0x6E] = newPassword := Except.ok.inj hmixed
  rw [newHeader_sample hheader]
  refine ⟨⟨[], _, rfl, fun _ hk => absurd hk List.not_mem_nil, noEarlierCipher_aes⟩, ?_, ?_, ?_, ?_⟩
  · exact fun k _ => rejects_tornSample (by decide) k
  · intro hhidden
    simp only [hiddenOffsets, List.mem_cons, List.not_mem_nil, or_false] at hhidden
    omega
  · intro hslot
    simp only at hslot
    omega
  · intro hslot
    simp only at hslot
    omega

/-- The outer volume of a file whose first salt is damaged: stopped after the first byte of the
backup header neither password opens it. -/
theorem not_crashSafe_damaged : ∃ data slot,
    FoundIn maskingSuite data sampleAccess.old sampleAccess.oldKdfs [0x6F, 0x6F] slot
        (outerResult true) ∧ slot.1.volumeType = .normal ∧
      ¬ CrashSafe maskingSuite fittingLibrary fittingRandom data (outerResult true) sampleAccess
        .pbkdf2Sha512 1 := by
  obtain ⟨hlen, hfirst, hinner, hbackup, hlast⟩ := sampleFile_spec 0x78
  have hhalf : (sampleFile 0x78).length - 2 * volumeHeaderSize = 2 * volumeHeaderSize := by omega
  have hunfit {password : Bytes} (h : password ≠ [0x78, 0x78]) :
      Rejects maskingSuite password (headerAt (sampleFile 0x78) 0) fittingKdfs := by
    rw [hfirst]
    exact rejects_unfit sample_firstBlock.1 h
  have hslot : (HeaderLayout.v2Normal (4 * volumeHeaderSize), 2 * volumeHeaderSize).2 =
      (sampleFile 0x78).length - 2 * volumeHeaderSize := hhalf.symm
  have hfound : FoundIn maskingSuite (sampleFile 0x78) sampleAccess.old sampleAccess.oldKdfs
      [0x6F, 0x6F] (.v2Normal (4 * volumeHeaderSize), 2 * volumeHeaderSize) (outerResult true) := by
    have hsplit := slots_eq hlen.ge
    rw [hhalf, hlen] at hsplit
    refine sample_found 1 [(.v2Normal (4 * volumeHeaderSize), 0)] (saltOf 0x6F 0x6F) hlen.ge
      (by rw [hlen]; exact hsplit) ?_ hbackup rfl wellformed_outerHeader
    intro s hs
    rw [List.mem_singleton.mp hs]
    exact hunfit (by decide)
  have hseal : Sealable fittingRandom sampleAccess.new fittingKdf :=
    ⟨saltOf 0x6E 0x6E, [0x6E, 0x6E], List.replicate maxHeaderKeySize 0, rfl, rfl, rfl⟩
  have hheader : ∃ headerBuf, newHeader maskingSuite fittingLibrary fittingRandom (outerResult true)
      sampleAccess.new .pbkdf2Sha512 1 = .ok headerBuf := sealable_iff.mp hseal
  obtain ⟨headerBuf, hheader⟩ := hheader
  refine ⟨_, _, hfound, rfl, not_crashSafe_of_backup hlen.ge hfound hheader rfl ?_
    (by rw [hlen]; decide) hslot⟩
  rw [newHeader_sample hheader]
  refine ⟨⟨[], _, rfl, fun _ hk => absurd hk List.not_mem_nil, noEarlierCipher_aes⟩, ?_, ?_, ?_, ?_⟩
  · exact fun k _ => rejects_tornSample (by decide) k
  · intro hhidden
    simp only [hiddenOffsets, List.mem_cons, List.not_mem_nil, or_false] at hhidden
    have hpos : 0 < volumeHeaderSize := by decide
    omega
  · intro _ off hoff
    have heq : headerAt (sampleFile 0x78) off = (saltOf 0x68 0x68).1 ++ encryptedArea innerHeader := by
      rcases List.mem_cons.mp hoff with rfl | hoff
      · exact hinner
      · have hback : (sampleFile 0x78).length - volumeHeaderSize = 3 * volumeHeaderSize := by omega
        rw [List.mem_singleton.mp hoff, hback, hlast]
    rw [heq]
    exact ⟨rejects_unfit sample_firstBlock.2 (by decide),
      rejects_unfit sample_firstBlock.2 (by decide)⟩
  · intro _
    have htorn : tornHeader ((saltOf 0x6E 0x6E).1 ++ encryptedArea outerHeader)
        (headerAt (sampleFile 0x78) (2 * volumeHeaderSize)) 1 =
          (saltOf 0x6E 0x6F).1 ++ encryptedArea outerHeader := by
      rw [hbackup]
      generalize encryptedArea outerHeader = area
      rfl
    refine ⟨1, ?_, ?_, hunfit (by decide)⟩
    · rw [htorn]
      exact rejects_unfit sample_firstBlock.1 (by decide)
    · rw [htorn]
      exact rejects_unfit sample_firstBlock.1 (by decide)

end Sample

end Oxhide.TornHeaders
