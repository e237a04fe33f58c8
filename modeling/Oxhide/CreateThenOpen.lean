import Oxhide.VolumeCreation

/-! # A created volume opens

The opener finds the new header in the primary slot, or in the backup slot when
the primary one was overwritten by something that does not parse. -/
namespace Oxhide.CreateThenOpen
open BlockCiphers CipherChain CipherTypes FaultyFile HeaderFormat KeyDerivation ListSplice
  OpeningSearch SealedHeaders VolumeCreation VolumeErrors VolumeOpening WordBytes Xts

/-- A result that describes the volume that was created. -/
structure Describes (r : OpenResult) (cipher : CipherType) (masterKey : Bytes)
    (volumeSize : UInt64) (usedBackupHeader : Bool) : Prop where
  headerCipher : r.headerCipher = cipher
  dataCipher : r.dataCipher = cipher
  masterKey : r.masterKey = masterKey
  dataOffset : r.dataOffset = 262144
  dataLength : r.dataLength = volumeSize
  volumeType : r.volumeType = .normal
  usedBackupHeader : r.usedBackupHeader = usedBackupHeader

/-- The key data of a new header starts with the master key. -/
theorem take_keyArea_headerWithKey {header : VolumeHeader} {masterKey : Bytes}
    {cipher : CipherType} (hkey : masterKey.length = cipher.keySize * 2)
    (hheader : header.masterKeydata = splice (List.replicate masterKeydataSize 0) 0 masterKey) :
    (keyArea header).take (cipher.keySize * 2) = masterKey := by
  have hle := keySize_le cipher
  have hsize : cipher.keySize * 2 ≤ masterKeydataSize := by
    rw [masterKeydataSize]
    omega
  rw [keyArea, fillTo, hheader, splice, List.take_zero, List.nil_append]
  rw [List.take_append_of_le_length (by simp; omega), List.take_take, Nat.min_eq_left hsize,
    List.take_append_of_le_length hkey.ge, ← hkey, List.take_length]

theorem wellformed_normalHeader (volumeSize : UInt64)
    (salt : {bs : Bytes // bs.length = pkcs5SaltSize}) (masterKey : Bytes) :
    Wellformed (normalHeader volumeSize salt masterKey) := ⟨rfl, by
      change ValidSectorSize 512
      decide⟩

theorem describes_openResult {volumeSize : UInt64} {cipher : CipherType} {kdf : KdfCandidate}
    {salt : {bs : Bytes // bs.length = pkcs5SaltSize}} {masterKey : Bytes}
    (hkey : masterKey.length = cipher.keySize * 2) (isBackup : Bool) :
    Describes (openResult cipher kdf salt.1
      ((normalHeader volumeSize salt masterKey).stored salt.1 salt.2) isBackup)
      cipher masterKey volumeSize isBackup where
  headerCipher := rfl
  dataCipher := rfl
  masterKey := take_keyArea_headerWithKey hkey rfl
  dataOffset := rfl
  dataLength := by
    change (if volumeSize > 0 then volumeSize else volumeSize) = volumeSize
    rw [ite_self]
  volumeType := rfl
  usedBackupHeader := rfl

section Openings
variable {P : CipherSuite} {data password : Bytes} {credentials : Credentials}
  {ks₁ ks₂ : List KdfCandidate} {kdf : KdfCandidate} {cipher : CipherType} {r : OpenResult}

private theorem attempt_normal {off : ℕ} (hoff : off + volumeHeaderEffectiveSize ≤ data.length)
    (kdf : KdfCandidate) (cipher : CipherType) :
    attempt P data password ⟨(.v2Normal data.length, off), kdf, cipher⟩ =
      attemptOn P password (headerAt data off) (slotIsBackup (.v2Normal data.length, off)) kdf
        cipher :=
  attempt_eq (a := ⟨(.v2Normal data.length, off), kdf, cipher⟩) hoff (by
    change volumeHeaderEffectiveSize ≤ volumeHeaderSize
    decide)

/-- The primary slot is the first one to be tried. -/
theorem openVolumeWith_primary (hfile : 4 * volumeHeaderSize ≤ data.length)
    (hmixed : credentials.mixed = .ok password)
    (hkdfs : Rejects P password (headerAt data 0) ks₁)
    (hearlier : NoEarlierCipher P password (headerAt data 0) kdf cipher)
    (haccept : attemptOn P password (headerAt data 0) false kdf cipher = some r) :
    openVolumeWith P (.ok data) credentials (ks₁ ++ kdf :: ks₂) = .ok r := by
  have hin : 0 + volumeHeaderEffectiveSize ≤ data.length :=
    le_trans (by decide) hfile
  have hbackup : slotIsBackup (.v2Normal data.length, 0) = false := by
    have hne : data.length - 2 * volumeHeaderSize ≠ 0 := by
      have hpos : 0 < volumeHeaderSize := by decide
      omega
    simp [slotIsBackup, HeaderLayout.v2Normal, hne]
  obtain ⟨later, hall⟩ := exists_allSupported_split cipher
  refine openVolumeWith_of_findSome? hmixed ?_
  rw [slots_eq hfile]
  refine findSome?_attempts [] (by simp) ?_ hall ?_ ?_
  · intro k hk c
    rw [attempt_normal hin]
    exact attemptOn_eq_none (hkdfs k hk c)
  · intro c hc
    rw [attempt_normal hin]
    exact attemptOn_eq_none (hearlier c hc)
  · rw [attempt_normal hin, hbackup, haccept]

/-- The backup slot comes next, when nothing opens the primary one. -/
theorem openVolumeWith_backup (hfile : 4 * volumeHeaderSize ≤ data.length)
    (hmixed : credentials.mixed = .ok password)
    (hreject : Rejects P password (headerAt data 0) (ks₁ ++ kdf :: ks₂))
    (hkdfs : Rejects P password (headerAt data (data.length - 2 * volumeHeaderSize)) ks₁)
    (hearlier : NoEarlierCipher P password (headerAt data (data.length - 2 * volumeHeaderSize))
      kdf cipher)
    (haccept : attemptOn P password (headerAt data (data.length - 2 * volumeHeaderSize)) true kdf
      cipher = some r) :
    openVolumeWith P (.ok data) credentials (ks₁ ++ kdf :: ks₂) = .ok r := by
  have hsizes : volumeHeaderEffectiveSize ≤ volumeHeaderSize := by decide
  have hin : data.length - 2 * volumeHeaderSize + volumeHeaderEffectiveSize ≤ data.length := by
    omega
  have hbackup : slotIsBackup (.v2Normal data.length, data.length - 2 * volumeHeaderSize) =
      true := by
    simp [slotIsBackup, HeaderLayout.v2Normal]
  obtain ⟨later, hall⟩ := exists_allSupported_split cipher
  refine openVolumeWith_of_findSome? hmixed ?_
  rw [slots_eq hfile]
  refine findSome?_attempts [(.v2Normal data.length, 0)] ?_ ?_ hall ?_ ?_
  · intro s hs k hk c
    rw [List.mem_singleton.mp hs, attempt_normal (le_trans (by decide) hfile)]
    exact attemptOn_eq_none (hreject k hk c)
  · intro k hk c
    rw [attempt_normal hin]
    exact attemptOn_eq_none (hkdfs k hk c)
  · intro c hc
    rw [attempt_normal hin]
    exact attemptOn_eq_none (hearlier c hc)
  · rw [attempt_normal hin, hbackup, haccept]

end Openings

/-- Both normal slots of a new volume hold one header, which the credentials and the cipher
of the creation accept. -/
theorem exists_createdHeader {P : CipherSuite} {R : RandomSource} {plan : FaultPlan}
    {st st' : FileState UInt8} {volumeSize : UInt64} {password : Bytes} {cipher : CipherType}
    {kdf : KdfCandidate} (hfile : 4 * volumeHeaderSize ≤ st.contents.length) (hpos : st.pos = 0)
    (hcreate : createVolumeFull P R volumeSize password cipher kdf.implementation kdf.iterations
      plan st = (.ok (), st')) :
    ∃ masterKey hdr, R.fill 1 (cipher.keySize * 2) = .ok masterKey ∧
      st'.contents.length = st.contents.length ∧ headerAt st'.contents 0 = hdr ∧
      headerAt st'.contents (st.contents.length - 2 * volumeHeaderSize) = hdr ∧
      ∀ isBackup, ∃ r, attemptOn P password hdr isBackup kdf cipher = some r ∧
        Describes r cipher masterKey.1 volumeSize isBackup := by
  obtain ⟨salt, masterKey, key, chain, decoy, -, hmaster, hkey, hchain, hdecoy, hcontents⟩ :=
    createVolumeFull_eq_ok hcreate
  rw [hpos] at hcontents
  obtain ⟨hlength, hprimary, -, hbackup, -, -⟩ :=
    fourSlots_spec hfile (length_slotBytes salt.2) hdecoy
  rw [← hcontents] at hlength hprimary hbackup
  have hcut := take_slotBytes P chain (normalHeader volumeSize salt masterKey.1) salt.2
  exact ⟨masterKey, _, hmaster, hlength, (headerAt_eq hprimary).trans hcut,
    (headerAt_eq hbackup).trans hcut, fun isBackup => ⟨_, attemptOn_sealedHeader salt.2
      (wellformed_normalHeader volumeSize salt masterKey.1) hkey hchain isBackup,
      describes_openResult masterKey.2 isBackup⟩⟩

/-- A file with the header in both normal slots opens from the first one, and from the second
one when the first is overwritten so that nothing there parses. -/
theorem opens_of_headers {P : CipherSuite} {contents hdr password masterKey : Bytes}
    {credentials : Credentials} (ks₁ ks₂ : List KdfCandidate) {kdf : KdfCandidate}
    {cipher : CipherType} {volumeSize : UInt64} (hfile : 4 * volumeHeaderSize ≤ contents.length)
    (hmixed : credentials.mixed = .ok password) (hfirst : headerAt contents 0 = hdr)
    (hsecond : headerAt contents (contents.length - 2 * volumeHeaderSize) = hdr)
    (hkdfs : Rejects P password hdr ks₁) (hearlier : NoEarlierCipher P password hdr kdf cipher)
    (haccept : ∀ isBackup, ∃ r, attemptOn P password hdr isBackup kdf cipher = some r ∧
      Describes r cipher masterKey volumeSize isBackup) :
    (∃ r, openVolumeWith P (.ok contents) credentials (ks₁ ++ kdf :: ks₂) = .ok r ∧
        Describes r cipher masterKey volumeSize false) ∧
      ∀ data, data.length = contents.length →
        data.drop volumeHeaderSize = contents.drop volumeHeaderSize →
        Rejects P password (headerAt data 0) (ks₁ ++ kdf :: ks₂) →
        ∃ r, openVolumeWith P (.ok data) credentials (ks₁ ++ kdf :: ks₂) = .ok r ∧
          Describes r cipher masterKey volumeSize true := by
  refine ⟨?_, fun data hdata hdrop hreject => ?_⟩
  · obtain ⟨r, hr, hdescribes⟩ := haccept false
    exact ⟨r, openVolumeWith_primary hfile hmixed (by rwa [hfirst]) (by rwa [hfirst])
      (by rw [hfirst, hr]), hdescribes⟩
  · have hsame : headerAt data (data.length - 2 * volumeHeaderSize) = hdr := by
      have hsplit : contents.length - 2 * volumeHeaderSize =
          volumeHeaderSize + (contents.length - 3 * volumeHeaderSize) := by omega
      rw [← hsecond, headerAt, headerAt, slice, slice, hdata, hsplit, ← List.drop_drop,
        ← List.drop_drop, hdrop]
    obtain ⟨r, hr, hdescribes⟩ := haccept true
    exact ⟨r, openVolumeWith_backup (by omega) hmixed hreject (by rwa [hsame]) (by rwa [hsame])
      (by rw [hsame, hr]), hdescribes⟩

/-- After a successful creation the volume opens, and it still does when the first
64 KiB are overwritten so that nothing there parses. -/
theorem openVolumeFileWithKdf_created (P : CipherSuite) (K : KdfLibrary) (R : RandomSource)
    (plan : FaultPlan) (st st' : FileState UInt8) (volumeSize : UInt64) (password : Bytes)
    (cipher : CipherType) (kdf : KdfAlgorithm) (pim : Int32)
    (hfile : 4 * volumeHeaderSize ≤ st.contents.length) (hpos : st.pos = 0)
    (hcreate : createVolumeFull P R volumeSize password cipher
      (makeKdfCandidate K kdf pim).implementation (makeKdfCandidate K kdf pim).iterations plan st =
        (.ok (), st')) :
    ∃ masterKey, R.fill 1 (cipher.keySize * 2) = .ok masterKey ∧
      (NoEarlierCipher P password (headerAt st'.contents 0) (makeKdfCandidate K kdf pim) cipher →
        (∃ r, openVolumeFileWithKdf P K (.ok st'.contents) ⟨password, []⟩ kdf pim = .ok r ∧
          Describes r cipher masterKey.1 volumeSize false) ∧
        ∀ data, data.length = st'.contents.length →
          data.drop volumeHeaderSize = st'.contents.drop volumeHeaderSize →
          Rejects P password (headerAt data 0) [makeKdfCandidate K kdf pim] →
          ∃ r, openVolumeFileWithKdf P K (.ok data) ⟨password, []⟩ kdf pim = .ok r ∧
            Describes r cipher masterKey.1 volumeSize true) := by
  obtain ⟨masterKey, hdr, hmaster, hlength, hfirst, hsecond, haccept⟩ :=
    exists_createdHeader hfile hpos hcreate
  refine ⟨masterKey, hmaster, fun hearlier => ?_⟩
  rw [hfirst] at hearlier
  exact opens_of_headers [] [] (by omega) rfl hfirst
    (by rw [hlength, hsecond]) (fun _ hk => absurd hk List.not_mem_nil) hearlier haccept

/-- A volume of 64 KiB with zeros for randomness, whatever the ciphers and hashes are. -/
theorem zeroRandomVolume_opens : ∃ st : FileState UInt8,
    4 * volumeHeaderSize ≤ st.contents.length ∧ st.pos = 0 ∧
      ∀ P K, ∃ st' r, createVolumeFull P zeroRandom 65536 [0x70] .aes
          (makeKdfCandidate K .pbkdf2Sha512 1).implementation
          (makeKdfCandidate K .pbkdf2Sha512 1).iterations noFaults st = (.ok (), st') ∧
        openVolumeFileWithKdf P K (.ok st'.contents) ⟨[0x70], []⟩ .pbkdf2Sha512 1 = .ok r ∧
        Describes r .aes (List.replicate 64 0) 65536 false := by
  have hlen : (List.replicate 327680 (0 : UInt8)).length = 327680 := List.length_replicate
  have hfile : 4 * volumeHeaderSize ≤ (List.replicate 327680 (0 : UInt8)).length := by
    rw [hlen]
    decide
  have hmax : (List.replicate 327680 (0 : UInt8)).length ≤ maxPosition := by
    rw [hlen, maxPosition]
    norm_num
  refine ⟨⟨List.replicate 327680 0, 0, 0⟩, hfile, rfl, fun P K => ?_⟩
  obtain ⟨st', hcreate⟩ : ∃ st', createVolumeFull P zeroRandom 65536 [0x70] .aes
      (makeKdfCandidate K .pbkdf2Sha512 1).implementation
      (makeKdfCandidate K .pbkdf2Sha512 1).iterations noFaults ⟨List.replicate 327680 0, 0, 0⟩ = (.ok (), st') :=
    exists_createVolumeFull (fun k len => ⟨_, rfl⟩) hfile hmax rfl rfl rfl
  obtain ⟨masterKey, hmaster, hopens⟩ := openVolumeFileWithKdf_created P K zeroRandom noFaults _ st'
    65536 [0x70] .aes .pbkdf2Sha512 1 hfile rfl hcreate
  obtain ⟨⟨r, hr, hdescribes⟩, -⟩ := hopens noEarlierCipher_aes
  obtain rfl := Except.ok.inj hmaster
  exact ⟨st', r, hcreate, hr, hdescribes⟩

end Oxhide.CreateThenOpen
