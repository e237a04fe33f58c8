import Oxhide.HiddenPlacement
import Oxhide.SharedVolumes

/-! # A hidden volume from its creation on

An outer volume is created in a file and a hidden one inside it. The credentials of both
open the file, the outer ones with protection of the hidden data, and the two volumes are
then used side by side as if each were alone. -/
namespace Oxhide.CreatedVolumes
open BlockCiphers ChangedHeaders CipherTypes CreateThenOpen DiskHistories FaultyFile HeaderFormat
  HeaderSlots HiddenPlacement HiddenProtection KeyDerivation ListSplice OpeningSearch OpenVolumes
  SealedHeaders SectorCiphers SharedVolumes VolumeCreation VolumeErrors VolumeHistories
  VolumeOpening WordBytes

section Search
variable {P : CipherSuite} {data password : Bytes} {credentials : Credentials}
  {ks₁ ks₂ : List KdfCandidate} {kdf : KdfCandidate} {cipher : CipherType}
  {slot : HeaderLayout × ℕ} {r : OpenResult}

/-- A volume opens to the header of a slot when no slot before it and no key derivation and
cipher tried before its own accepts the password. -/
theorem openVolumeWith_of_slot {before after : List (HeaderLayout × ℕ)}
    (hfile : 4 * volumeHeaderSize ≤ data.length) (hmixed : credentials.mixed = .ok password)
    (hsplit : slots data.length = before ++ slot :: after)
    (hbefore : ∀ s ∈ before, Rejects P password (headerAt data s.2) (ks₁ ++ kdf :: ks₂))
    (hkdfs : Rejects P password (headerAt data slot.2) ks₁)
    (hearlier : NoEarlierCipher P password (headerAt data slot.2) kdf cipher)
    (haccept : attemptOn P password (headerAt data slot.2) (slotIsBackup slot) kdf cipher =
      some r) : openVolumeWith P (.ok data) credentials (ks₁ ++ kdf :: ks₂) = .ok r := by
  have hresult : slotResult P data password (ks₁ ++ kdf :: ks₂) slot = some r := by
    rw [slotResult, List.findSome?_append, (rejects_iff _).mp hkdfs, Option.none_or,
      List.findSome?_cons, tryKdf_of_attemptOn hearlier haccept]
  have haccepting : acceptingSlot P data password (ks₁ ++ kdf :: ks₂) = some slot := by
    rw [acceptingSlot, List.find?_eq_some_iff_append]
    refine ⟨by rw [hresult]; rfl, before, after, hsplit, fun s hs => ?_⟩
    rw [slotResult, (rejects_iff _).mp (hbefore s hs)]
    rfl
  exact (openVolumeWith_eq_ok_iff_slot hfile hmixed).mpr ⟨slot, haccepting, hresult⟩

end Search

/-- A password with the key derivation and the cipher of the header it was chosen for, and
the key derivations that are tried before and after it. -/
structure Choice where
  password : Bytes
  cipher : CipherType
  earlier : List KdfCandidate
  kdf : KdfCandidate
  later : List KdfCandidate

def Choice.candidates (c : Choice) : List KdfCandidate := c.earlier ++ c.kdf :: c.later

/-- Nothing that is tried before its own key derivation and cipher opens the header. -/
structure FirstToOpen (P : CipherSuite) (c : Choice) (header : Bytes) : Prop where
  kdfs : Rejects P c.password header c.earlier
  ciphers : NoEarlierCipher P c.password header c.kdf c.cipher

/-- Where the two volumes lie in a file with an outer volume of the given size. -/
structure Nested (volumeSize hiddenSize : UInt64) (outer hidden : OpenResult) : Prop where
  outerOffset : outer.dataOffset = 262144
  outerLength : outer.dataLength = volumeSize
  outerType : outer.volumeType = .normal
  hiddenLength : hidden.dataLength = hiddenSize
  hiddenType : hidden.volumeType = .hidden
  behind : 4 * volumeHeaderSize ≤ hidden.dataOffset.toNat
  ahead : hidden.dataOffset.toNat + hiddenSize.toNat ≤ 2 * volumeHeaderSize + volumeSize.toNat

section Creation
variable {P : CipherSuite} {R R' : RandomSource} {plan plan' : FaultPlan}
  {st st₁ st₂ : FileState UInt8} {volumeSize hiddenSize : UInt64} {outer hidden : Choice}
  {credentials hiddenCredentials : Credentials}

theorem length_createHiddenVolume {password : Bytes} {cipher : CipherType} {kdf : Kdf}
    {iterations : UInt32} (hfile : 4 * volumeHeaderSize ≤ st.contents.length)
    (hmax : st.contents.length ≤ maxPosition)
    (h : createHiddenVolume P R hiddenSize password cipher kdf iterations plan st = (.ok (), st₁)) :
    st₁.contents.length = st.contents.length := by
  obtain ⟨salt, masterKey, _, chain, -, -, -, -, -, hcontents⟩ := createHiddenVolume_eq_ok h
  simp only [toNat_backup hfile hmax] at hcontents
  have hlen := @length_slotBytes P chain salt.1 (hiddenHeader hiddenSize (UInt64.ofNat
    st.contents.length - UInt64.ofNat (2 * volumeHeaderSize) - hiddenSize) salt masterKey.1) salt.2
  generalize slotBytes P chain salt.1 _ = hdr at hcontents hlen
  have hfirst : (storeAt 0 st.contents volumeHeaderSize hdr).length = st.contents.length := by
    rw [storeAt_of_le (by omega)]
    exact length_splice (by omega)
  rw [hcontents, storeAt_of_le (by omega)]
  exact (length_splice (by omega)).trans hfirst

/-- Both volumes are found by their own credentials. -/
theorem opens_created
    (hlen : st.contents.length = volumeSize.toNat + 4 * volumeHeaderSize)
    (hmax : st.contents.length ≤ maxPosition) (hpos : st.pos = 0)
    (hcreate : createVolumeFull P R volumeSize outer.password outer.cipher
      outer.kdf.implementation outer.kdf.iterations plan st = (.ok (), st₁))
    (hhidden : createHiddenVolume P R' hiddenSize hidden.password hidden.cipher
      hidden.kdf.implementation hidden.kdf.iterations plan' st₁ = (.ok (), st₂))
    (hsome : 0 < hiddenSize.toNat)
    (hfits : hiddenSize.toNat + 2 * volumeHeaderSize ≤ volumeSize.toNat)
    (hmixed : credentials.mixed = .ok outer.password)
    (hmixed' : hiddenCredentials.mixed = .ok hidden.password)
    (houter : FirstToOpen P outer (headerAt st₂.contents 0))
    (hinner : FirstToOpen P hidden (headerAt st₂.contents volumeHeaderSize))
    (hapart : ∀ off ∈ normalOffsets st.contents.length,
      Rejects P hidden.password (headerAt st₂.contents off) hidden.candidates) :
    st₂.contents.length = st.contents.length ∧
      ∃ r r', openVolumeWith P (.ok st₂.contents) credentials outer.candidates = .ok r ∧
        openVolumeWith P (.ok st₂.contents) hiddenCredentials hidden.candidates = .ok r' ∧
        Nested volumeSize hiddenSize r r' := by
  have hpos' : 0 < volumeHeaderSize := by decide
  have hfile : 4 * volumeHeaderSize ≤ st.contents.length := by omega
  obtain ⟨masterKey, hdr, -, hlength, hfirst, -, haccept⟩ := exists_createdHeader hfile hpos hcreate
  have hsame := length_createHiddenVolume (hlength.symm ▸ hfile) (hlength.symm ▸ hmax) hhidden
  obtain ⟨r', hplaced⟩ := placed_of_fits (hlength.trans hlen) (hlength.symm ▸ hmax) hhidden hsome
    hfits
  obtain ⟨r, hr, hdescribes⟩ := haccept false
  rw [hlength] at hsame
  have hfile' : 4 * volumeHeaderSize ≤ st₂.contents.length := hsame.symm ▸ hfile
  refine ⟨hsame, r, r', openVolumeWith_primary hfile' hmixed houter.kdfs houter.ciphers ?_, ?_, ?_⟩
  · rw [headerAt_eq hplaced.primary, ← headerAt_eq rfl, hfirst, hr]
  · have hbytes : headerAt st₂.contents volumeHeaderSize =
        (slice st₂.contents volumeHeaderSize volumeHeaderSize).take volumeHeaderEffectiveSize :=
      headerAt_eq rfl
    have hmark : slotIsBackup (.v2Hidden st₂.contents.length, volumeHeaderSize) = false := by
      have hne : st₂.contents.length - volumeHeaderSize ≠ volumeHeaderSize := by omega
      simp [slotIsBackup, HeaderLayout.v2Hidden, hne]
    have hsplit : slots st₂.contents.length =
        [(.v2Normal _, 0), (.v2Normal _, _), (.v1Legacy, 0)] ++
          (.v2Hidden _, volumeHeaderSize) :: [_] := slots_eq hfile'
    refine openVolumeWith_of_slot hfile' hmixed' hsplit ?_ hinner.kdfs hinner.ciphers ?_
    · intro s hs
      have hoff : s.2 ∈ normalOffsets st.contents.length := by
        rw [← hsame]
        simp only [List.mem_cons, List.not_mem_nil, or_false] at hs
        rcases hs with rfl | rfl | rfl <;> simp [normalOffsets]
      exact hapart s.2 hoff
    · rw [hmark, hbytes, attemptOn_take]
      exact hplaced.opens
  · have hlow := hplaced.dataInside r'.dataOffset.toNat le_rfl (by rw [hplaced.dataLength]; omega)
    have hhigh := hplaced.dataInside (r'.dataOffset.toNat + (hiddenSize.toNat - 1)) (by omega)
      (by rw [hplaced.dataLength]; omega)
    refine ⟨hdescribes.dataOffset, hdescribes.dataLength, hdescribes.volumeType,
      hplaced.dataLength, hplaced.volumeType, hlow.1, ?_⟩
    obtain ⟨-, hend, hslot⟩ := hhigh
    rw [InHeaderSlot, hlength] at hslot
    rw [hlength] at hend
    omega

end Creation

/-- A hidden volume created inside a new outer one: both open, each to its own data, and used
in any order each shows a history of its own disk. -/
theorem created_serve_both (P : CipherSuite) (K : KdfLibrary) (R R' : RandomSource)
    (plan plan' : FaultPlan) (st st₁ st₂ : FileState UInt8) (volumeSize hiddenSize : UInt64)
    (outer hidden : Choice) (credentials hiddenCredentials : Credentials)
    (kdf : Option KdfAlgorithm) (pim : Option Int32) (readOnly : Bool)
    (hlen : st.contents.length = volumeSize.toNat + 4 * volumeHeaderSize)
    (hmax : st.contents.length ≤ maxPosition) (hpos : st.pos = 0)
    (hcreate : createVolumeFull P R volumeSize outer.password outer.cipher
      outer.kdf.implementation outer.kdf.iterations plan st = (.ok (), st₁))
    (hhidden : createHiddenVolume P R' hiddenSize hidden.password hidden.cipher
      hidden.kdf.implementation hidden.kdf.iterations plan' st₁ = (.ok (), st₂))
    (hsome : 0 < hiddenSize.toNat)
    (hfits : hiddenSize.toNat + 2 * volumeHeaderSize ≤ volumeSize.toNat)
    (hmixed : credentials.mixed = .ok outer.password)
    (hmixed' : hiddenCredentials.mixed = .ok hidden.password)
    (hsearch : OpenVolume.searchCandidates K kdf pim = outer.candidates)
    (hsearch' : autoKdfCandidates K (some 0) = hidden.candidates)
    (houter : FirstToOpen P outer (headerAt st₂.contents 0))
    (hinner : FirstToOpen P hidden (headerAt st₂.contents volumeHeaderSize))
    (hapart : ∀ off ∈ normalOffsets st.contents.length,
      Rejects P hidden.password (headerAt st₂.contents off) hidden.candidates) :
    ∃ volume inner, OpenVolume.openWithProtection P K (.ok st₂.contents)
        (.ok ⟨st₂.contents, 0, 0⟩) credentials kdf pim hiddenCredentials = .ok volume ∧
      OpenVolume.openWith P K (.ok st₂.contents) (.ok ⟨st₂.contents, 0, 0⟩) hiddenCredentials
        none (some 0) readOnly = .ok inner ∧
      Nested volumeSize hiddenSize volume.inner inner.inner ∧
      ∀ calls, (∀ call ∈ calls, SharedCall.InRange ⟨volume, inner, st₂.contents⟩ call) →
        let start := inner.inner.dataOffset.toNat
        let stop := start + inner.inner.dataLength.toNat
        Serves (outerDisk P volume start stop st₂.contents)
            (history (Shared.serve P) (outerEvent P start stop) ⟨volume, inner, st₂.contents⟩ calls)
            (outerDisk P volume start stop
              (calls.foldl (Shared.serve P) ⟨volume, inner, st₂.contents⟩).contents) ∧
          Serves (disk P inner st₂.contents)
            (history (Shared.serve P) (hiddenEvent P) ⟨volume, inner, st₂.contents⟩ calls)
            (disk P inner
              (calls.foldl (Shared.serve P) ⟨volume, inner, st₂.contents⟩).contents) := by
  obtain ⟨hlength, r, r', hr, hr', hnested⟩ := opens_created hlen hmax hpos hcreate hhidden hsome
    hfits hmixed hmixed' houter hinner hapart
  obtain ⟨cipher, hcipher, -⟩ := createSectorCipher_of_length (length_masterKey hr)
  obtain ⟨cipher', hcipher', -⟩ := createSectorCipher_of_length (length_masterKey hr')
  rw [← hsearch, ← OpenVolume.openResultOf_eq] at hr
  rw [← hsearch'] at hr'
  have hopen := OpenVolume.openWithProtection_eq_ok.mpr ⟨r, r', ⟨st₂.contents, 0, 0⟩, cipher, hr,
    hnested.outerType, hr', hnested.hiddenType, rfl, hcipher, rfl⟩
  have hopen' : OpenVolume.openWith P K (.ok st₂.contents) (.ok ⟨st₂.contents, 0, 0⟩)
      hiddenCredentials none (some 0) readOnly = _ :=
    OpenVolume.openWith_eq_ok.mpr ⟨r', cipher', hr', hcipher', rfl⟩
  refine ⟨_, _, hopen, hopen', hnested, fun calls hcalls => serves_both P (coexist_opened hopen
    hopen' ⟨?_, ?_⟩ ⟨?_, ?_⟩) calls hcalls⟩
  · simp only [hnested.outerOffset, hnested.outerLength]
    have hoffset : (262144 : UInt64).toNat = 4 * volumeHeaderSize := rfl
    omega
  · rwa [hlength]
  · simp only [hnested.hiddenLength]
    have hahead := hnested.ahead
    omega
  · rwa [hlength]

section Sample

/-! An outer volume of 256 KiB and a hidden one of one sector, with salts that begin with the
passwords. -/

/-- A generator that returns a salt that begins with `aa`, and zeros as master key. -/
def saltedRandom (a : UInt8) : RandomSource where
  fill k len := .ok ⟨((if k = 0 then [a, a] else []) ++ List.replicate len 0).take len, by
    rw [List.length_take, List.length_append, List.length_replicate]
    omega⟩

def outerChoice : Choice :=
  ⟨[0x6F, 0x6F], .aes, [], makeKdfCandidate fittingLibrary .pbkdf2Sha512 1,
    (autoKdfCandidates fittingLibrary (some 1)).tail⟩

def hiddenChoice : Choice :=
  ⟨[0x68, 0x68], .aes, [], makeKdfCandidate fittingLibrary .pbkdf2Sha512 0,
    (autoKdfCandidates fittingLibrary (some 0)).tail⟩

private theorem exists_fill (a : UInt8) (k len : ℕ) : ∃ bs, (saltedRandom a).fill k len = .ok bs :=
  ⟨_, rfl⟩

private theorem fill_salt (a : UInt8) :
    (saltedRandom a).fill 0 pkcs5SaltSize = .ok (saltOf a a) := rfl

private theorem derive_fitting (a : UInt8) (pim : Int32) :
    (makeKdfCandidate fittingLibrary .pbkdf2Sha512 pim).implementation.derive [a, a] (saltOf a a).1
      (makeKdfCandidate fittingLibrary .pbkdf2Sha512 pim).iterations maxHeaderKeySize =
        .ok (List.replicate maxHeaderKeySize 0) := by
  change Except.ok (List.replicate maxHeaderKeySize
    (if (saltOf a a).1.take 2 = [a, a] then (0 : UInt8) else 1)) = _
  have hfit : (saltOf a a).1.take 2 = [a, a] := rfl
  rw [if_pos hfit]

private theorem exists_created {st : FileState UInt8}
    (hlen : st.contents.length = 8 * volumeHeaderSize) (hpos : st.pos = 0) :
    ∃ st₁, createVolumeFull maskingSuite (saltedRandom 0x6F) 262144 outerChoice.password
        outerChoice.cipher outerChoice.kdf.implementation outerChoice.kdf.iterations noFaults st =
          (.ok (), st₁) ∧ st₁.contents.length = st.contents.length ∧
      ∀ off ∈ normalOffsets st.contents.length,
        headerAt st₁.contents off = (saltOf 0x6F 0x6F).1 ++ encryptedArea outerHeader := by
  have hfile : 4 * volumeHeaderSize ≤ st.contents.length := by omega
  have hmax : st.contents.length ≤ maxPosition := by
    rw [hlen]
    decide
  obtain ⟨st₁, hcreate⟩ : ∃ st₁, createVolumeFull maskingSuite (saltedRandom 0x6F) 262144
      outerChoice.password outerChoice.cipher outerChoice.kdf.implementation
      outerChoice.kdf.iterations noFaults st = (.ok (), st₁) :=
    exists_createVolumeFull (exists_fill 0x6F) hfile hmax (fill_salt 0x6F)
      (derive_fitting 0x6F 1) hpos
  obtain ⟨salt, masterKey, key, chain, decoy, hsalt, hmaster, hkey, hchain, hdecoy, hcontents⟩ :=
    createVolumeFull_eq_ok hcreate
  obtain rfl : saltOf 0x6F 0x6F = salt := Except.ok.inj ((fill_salt 0x6F).symm.trans hsalt)
  obtain rfl : List.replicate maxHeaderKeySize 0 = key :=
    Except.ok.inj ((derive_fitting 0x6F 1).symm.trans hkey)
  obtain rfl : zeroChain = chain := Except.ok.inj hchain
  have hzeros : masterKey.1 = List.replicate 64 0 :=
    congrArg Subtype.val (Except.ok.inj hmaster).symm
  rw [hzeros, hpos] at hcontents
  obtain ⟨hslot, htake⟩ := slotBytes_zeroChain (saltOf 0x6F 0x6F) outerHeader
  obtain ⟨hlength, hprimary, -, hbackup, -, -⟩ := fourSlots_spec hfile hslot hdecoy
  change st₁.contents = fourSlots st.contents 0
    (slotBytes maskingSuite zeroChain (saltOf 0x6F 0x6F).1 outerHeader) decoy at hcontents
  rw [← hcontents] at hlength hprimary hbackup
  refine ⟨st₁, hcreate, hlength, fun off hoff => ?_⟩
  rcases List.mem_cons.mp hoff with rfl | hlast
  · exact (headerAt_eq hprimary).trans htake
  · rw [List.mem_singleton.mp hlast]
    exact (headerAt_eq hbackup).trans htake

/-- Both volumes are created and opened. -/
theorem nested_serve_both : ∃ st₁ st₂ volume inner,
    createVolumeFull maskingSuite (saltedRandom 0x6F) 262144 outerChoice.password
        outerChoice.cipher outerChoice.kdf.implementation outerChoice.kdf.iterations noFaults
          blankFile = (.ok (), st₁) ∧
      createHiddenVolume maskingSuite (saltedRandom 0x68) 512 hiddenChoice.password
        hiddenChoice.cipher hiddenChoice.kdf.implementation hiddenChoice.kdf.iterations noFaults
          st₁ = (.ok (), st₂) ∧
      OpenVolume.openWithProtection maskingSuite fittingLibrary (.ok st₂.contents)
        (.ok ⟨st₂.contents, 0, 0⟩) outerCredentials none (some 1) hiddenCredentials =
          .ok volume ∧
      OpenVolume.openWith maskingSuite fittingLibrary (.ok st₂.contents)
        (.ok ⟨st₂.contents, 0, 0⟩) hiddenCredentials none (some 0) false = .ok inner ∧
      Nested 262144 512 volume.inner inner.inner := by
  have hlen : blankFile.contents.length = 8 * volumeHeaderSize := List.length_replicate
  have hmax : blankFile.contents.length ≤ maxPosition := by
    rw [hlen]
    decide
  obtain ⟨st₁, hcreate, hlength, hheaders⟩ := exists_created hlen rfl
  obtain ⟨st₂, hhidden⟩ : ∃ st₂, createHiddenVolume maskingSuite (saltedRandom 0x68) 512
      hiddenChoice.password hiddenChoice.cipher hiddenChoice.kdf.implementation
      hiddenChoice.kdf.iterations noFaults st₁ = (.ok (), st₂) := by
    refine exists_createHiddenVolume (exists_fill 0x68) (by omega) (by omega) (fill_salt 0x68)
      (derive_fitting 0x68 0) ?_
    rw [hlength, hlen]
    decide
  obtain ⟨-, _, -, -, -, -, -, -, hprimary, hbackup⟩ :=
    exists_hiddenSlots (by omega) (hlength.symm ▸ hmax) hhidden
  have hkept (off : ℕ) (hoff : off ∈ normalOffsets blankFile.contents.length) :
      headerAt st₂.contents off = (saltOf 0x6F 0x6F).1 ++ encryptedArea outerHeader := by
    have hsame : headerAt st₂.contents off = headerAt st₁.contents off := by
      rw [hlength] at hbackup
      rcases List.mem_cons.mp hoff with rfl | hlast
      · rw [headerAt_eq hprimary, ← headerAt_eq rfl]
      · rw [List.mem_singleton.mp hlast, headerAt_eq hbackup, ← headerAt_eq rfl]
    rw [hsame, hheaders off hoff]
  have hapart (off : ℕ) (hoff : off ∈ normalOffsets blankFile.contents.length) :
      Rejects maskingSuite hiddenChoice.password (headerAt st₂.contents off)
        hiddenChoice.candidates := by
    have hunfit : hiddenChoice.password ≠ [0x6F, 0x6F] := by decide
    have hall : hiddenChoice.candidates = autoKdfCandidates fittingLibrary (some 0) := rfl
    rw [hkept off hoff, hall]
    exact rejects_unfit sample_firstBlock.1 hunfit
  have hfirst (c : Choice) (header : Bytes) (hearlier : c.earlier = []) (haes : c.cipher = .aes) :
      FirstToOpen maskingSuite c header := by
    refine ⟨fun _ hk => absurd hk ?_, haes ▸ noEarlierCipher_aes⟩
    rw [hearlier]
    exact List.not_mem_nil
  have hsizes : blankFile.contents.length = (262144 : UInt64).toNat + 4 * volumeHeaderSize := hlen
  obtain ⟨volume, inner, hopen, hopen', hnested, -⟩ := created_serve_both maskingSuite
    fittingLibrary (saltedRandom 0x6F) (saltedRandom 0x68) noFaults noFaults blankFile st₁ st₂
    262144 512 outerChoice hiddenChoice outerCredentials hiddenCredentials none (some 1) false
    hsizes hmax rfl hcreate hhidden (by decide) (by decide) rfl rfl rfl rfl
    (hfirst outerChoice _ rfl rfl) (hfirst hiddenChoice _ rfl rfl) hapart
  exact ⟨st₁, st₂, volume, inner, hcreate, hhidden, hopen, hopen', hnested⟩

end Sample

end Oxhide.CreatedVolumes
