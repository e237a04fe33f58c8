import Oxhide.CreateThenOpen
import Oxhide.PasswordChange

/-! # Which volume a password change is about

The opener remembers a header but not the slots it came from, and the new header always
goes to the normal slots. For a header from a normal slot the other volume is left alone
and the volume opens as before; a header from a hidden slot replaces the outer volume's. -/
namespace Oxhide.ChangedHeaders
open BlockCiphers CipherChain CipherTypes Crc32 CreateThenOpen FaultyFile HeaderFormat HeaderSlots
  KeyDerivation ListBlocks ListSplice OpeningSearch PasswordChange SealedHeaders VolumeCreation VolumeErrors VolumeOpening
  WordBytes Xts

/-- The slots of the volume that a header was found for, and those of the other one. -/
def ownOffsets (fileSize : ℕ) (slot : HeaderLayout × ℕ) : List ℕ :=
  match slot.1.volumeType with
  | .normal => normalOffsets fileSize
  | .hidden => hiddenOffsets fileSize

def otherOffsets (fileSize : ℕ) (slot : HeaderLayout × ℕ) : List ℕ :=
  match slot.1.volumeType with
  | .normal => hiddenOffsets fileSize
  | .hidden => normalOffsets fileSize

/-- Two results for one volume. -/
structure SameData (r r' : OpenResult) : Prop where
  dataCipher : r'.dataCipher = r.dataCipher
  masterKey : r'.masterKey = r.masterKey
  dataOffset : r'.dataOffset = r.dataOffset
  dataLength : r'.dataLength = r.dataLength
  volumeType : r'.volumeType = r.volumeType

/-- What a successful change promises: the volume opens with the new credentials unless
something else accepts them, and the other volume's slots stay, so that it opens as before. -/
structure Faithful (P : CipherSuite) (data : Bytes) (slot : HeaderLayout × ℕ) (r : OpenResult)
    (credentials : Credentials) (kdf : KdfCandidate) (contents : Bytes) : Prop where
  reopens : ∀ ks₁ ks₂ password, credentials.mixed = .ok password →
    (∀ off ∈ otherOffsets data.length slot,
      Rejects P password (headerAt contents off) (ks₁ ++ kdf :: ks₂)) →
    (∀ off ∈ ownOffsets data.length slot, Rejects P password (headerAt contents off) ks₁ ∧
      NoEarlierCipher P password (headerAt contents off) kdf r.headerCipher) →
    ∃ r', openVolumeWith P (.ok contents) credentials (ks₁ ++ kdf :: ks₂) = .ok r' ∧ SameData r r'
  otherSlots : ∀ off ∈ otherOffsets data.length slot,
    slice contents off volumeHeaderSize = slice data off volumeHeaderSize
  otherOpens : ∀ others candidates password otherSlot r',
    FoundIn P data others candidates password otherSlot r' →
    otherSlot.2 ∈ otherOffsets data.length slot →
    (∀ off ∈ ownOffsets data.length slot, Rejects P password (headerAt contents off) candidates) →
    openVolumeWith P (.ok contents) others candidates = .ok r'

/-- The Argon2 library looks at the lengths of what it hashes, not at the bytes. -/
def SaltsAlike (K : KdfLibrary) : Prop :=
  ∀ mCost tCost pCost password salt salt' len, salt.length = salt'.length →
    (K.argon2Hash mCost tCost pCost password salt len).isOk =
      (K.argon2Hash mCost tCost pCost password salt' len).isOk

/-- The new credentials give a key. -/
def Derivable (credentials : Credentials) (kdf : KdfCandidate) : Prop :=
  ∃ password salt key, credentials.mixed = .ok password ∧ salt.length = pkcs5SaltSize ∧
    kdf.implementation.derive password salt kdf.iterations maxHeaderKeySize = .ok key

section Change
variable {P : CipherSuite} {K : KdfLibrary} {R : RandomSource} {data : Bytes} {old new : Credentials}
  {candidates : List KdfCandidate} {slot : HeaderLayout × ℕ} {r : OpenResult}
  {kdf : KdfAlgorithm} {pim : Int32}

/-- The header of an opened volume is well-formed, and sealed again it opens to the same data. -/
theorem resealed_sameData {salt : Bytes} (hopen : openVolumeWith P (.ok data) old candidates = .ok r)
    (hsalt : salt.length = pkcs5SaltSize) (k : KdfCandidate) (isBackup : Bool) :
    Wellformed r.header ∧ SameData r (openResult r.headerCipher k salt (r.header.stored salt hsalt)
      isBackup) := by
  obtain ⟨_, _, _, _, cipher, _, _, header, -, -, -, -, -, -, hheader, rfl⟩ :=
    openVolumeWith_eq_ok hopen
  obtain ⟨hmagic, hsector, hkeydata, -⟩ := deserializeHeader_eq_ok hheader
  have hkeyArea : keyArea header = header.masterKeydata := by
    rw [keyArea, fillTo, List.take_of_length_le hkeydata.le, hkeydata, Nat.sub_self,
      List.replicate_zero, List.append_nil]
  refine ⟨⟨hmagic, hsector⟩, rfl, ?_, rfl, rfl, rfl⟩
  change (keyArea header).take _ = header.masterKeydata.take _
  rw [hkeyArea]
  rfl

variable (hfile : 4 * volumeHeaderSize ≤ data.length) (hmax : data.length ≤ maxPosition)
include hfile hmax

/-- A header from a normal slot is changed as promised. -/
theorem faithful_of_normal {plan : FaultPlan} {pos calls : ℕ} {st' : FileState UInt8}
    (hopen : openVolumeWith P (.ok data) old candidates = .ok r)
    (hnormal : slot.1.volumeType = .normal)
    (hchange : changeVolumePassword P K R r new kdf pim plan ⟨data, pos, calls⟩ =
      (.ok (), st')) : Faithful P data slot r new (makeKdfCandidate K kdf pim) st'.contents := by
  obtain ⟨headerBuf, hheader, hcontents⟩ := changeVolumePassword_eq_ok hfile hmax hchange
  obtain ⟨salt, password, key, chain, -, hmixed, hkey, hchain, hbuf⟩ := newHeader_eq_ok.mp hheader
  have hlenBuf := length_newHeader hheader
  obtain ⟨hlen, hfirst, hbackup, hhidden⟩ := primaryTorn_spec hfile hlenBuf headerBuf.length
  rw [List.take_length] at hlen hfirst hbackup hhidden
  have hsealed : headerBuf.take volumeHeaderEffectiveSize = sealedHeader P chain salt.1 r.header :=
    hbuf ▸ take_slotBytes P chain r.header salt.2
  have hown : ownOffsets data.length slot = normalOffsets data.length := by
    rw [ownOffsets, hnormal]
  have hother : otherOffsets data.length slot = hiddenOffsets data.length := by
    rw [otherOffsets, hnormal]
  have hold : (headerAt data 0).length ≤ headerBuf.length := by
    rw [headerAt, length_slice_of_le (le_trans (by decide) hfile), hlenBuf]
    decide
  rw [tornHeader_whole (List.length_take_le' volumeHeaderEffectiveSize headerBuf) hold,
    hsealed] at hfirst
  rw [hcontents]
  refine ⟨?_, by rwa [hother], ?_⟩
  · intro ks₁ ks₂ password' hmixed' _ hearlier
    obtain rfl := Except.ok.inj (hmixed.symm.trans hmixed')
    obtain ⟨hkdfs, hciphers⟩ := hearlier 0 (by simp [hown, normalOffsets])
    obtain ⟨hwellformed, hsame⟩ :=
      resealed_sameData hopen salt.2 (makeKdfCandidate K kdf pim) false
    have haccept := attemptOn_sealedHeader (P := P) salt.2 hwellformed hkey hchain false
    exact ⟨_, openVolumeWith_primary (hfile.trans_eq hlen.symm) hmixed hkdfs hciphers
      (by rw [hfirst, haccept]), hsame⟩
  · intro others candidates' password' otherSlot r' hfound hslot hreject
    have hkeep (off : ℕ) (hoff : off ∈ hiddenOffsets data.length) :
        headerAt _ off = headerAt data off :=
      (headerAt_eq (hhidden off hoff)).trans (headerAt_eq rfl).symm
    refine openVolumeWith_of_headers hfile hfound hlen ?_ fun off hoff => ?_
    · exact hkeep _ (by rwa [← hother])
    · rcases List.mem_append.mp hoff with hnormal' | hhidden'
      · exact Or.inr (hreject off (by rwa [hown]))
      · exact Or.inl (hkeep off hhidden')

end Change

section Salts
variable {P : CipherSuite} {K : KdfLibrary} {data : Bytes} {new : Credentials}
  {slot : HeaderLayout × ℕ} {r : OpenResult} {kdf : KdfAlgorithm} {pim : Int32}

/-- A generator that only returns one byte. -/
def constantRandom (b : UInt8) : RandomSource where
  fill _ len := .ok ⟨List.replicate len b, List.length_replicate⟩

private theorem argon2idDerive_isOk (hK : SaltsAlike K) {mCost tCost pCost iterations : UInt32}
    {password salt salt' : Bytes} (hsalt : salt.length = salt'.length) (len : ℕ) :
    (argon2idDerive K mCost tCost pCost password salt iterations len).isOk =
      (argon2idDerive K mCost tCost pCost password salt' iterations len).isOk := by
  have halike := hK mCost (if iterations = 0 then tCost else iterations) pCost password salt salt'
    len hsalt
  simp only [argon2idDerive]
  cases K.argon2Params mCost (if iterations = 0 then tCost else iterations) pCost len with
  | error e => rfl
  | ok u =>
    cases hhash : K.argon2Hash mCost (if iterations = 0 then tCost else iterations) pCost password
        salt len <;>
      cases hhash' : K.argon2Hash mCost (if iterations = 0 then tCost else iterations) pCost
        password salt' len <;>
      rw [hhash, hhash'] at halike
    · rfl
    · cases halike
    · cases halike
    · rfl

/-- A password that gives a key with one salt gives one with every other salt. -/
theorem exists_derived (hK : SaltsAlike K) {password salt salt' key : Bytes}
    (hsalt : salt.length = salt'.length)
    (hkey : (makeKdfCandidate K kdf pim).implementation.derive password salt
      (makeKdfCandidate K kdf pim).iterations maxHeaderKeySize = .ok key) :
    ∃ key', (makeKdfCandidate K kdf pim).implementation.derive password salt'
      (makeKdfCandidate K kdf pim).iterations maxHeaderKeySize = .ok key' := by
  cases kdf with
  | argon2id =>
    have halike : ((makeKdfCandidate K .argon2id pim).implementation.derive password salt
        (makeKdfCandidate K .argon2id pim).iterations maxHeaderKeySize).isOk =
          ((makeKdfCandidate K .argon2id pim).implementation.derive password salt'
            (makeKdfCandidate K .argon2id pim).iterations maxHeaderKeySize).isOk :=
      argon2idDerive_isOk hK hsalt maxHeaderKeySize
    rw [hkey] at halike
    cases hkey' : (makeKdfCandidate K .argon2id pim).implementation.derive password salt'
        (makeKdfCandidate K .argon2id pim).iterations maxHeaderKeySize with
    | ok key' => exact ⟨key', rfl⟩
    | error e =>
      rw [hkey'] at halike
      cases halike
  | _ => exact ⟨_, rfl⟩

variable (hK : SaltsAlike K) (hfile : 4 * volumeHeaderSize ≤ data.length)
  (hmax : data.length ≤ maxPosition)
include hK hfile hmax

/-- Whatever the random generator returns is the salt at the start of the file. -/
private theorem exists_change (hderivable : Derivable new (makeKdfCandidate K kdf pim)) (b : UInt8) :
    ∃ st', changeVolumePassword P K (constantRandom b) r new kdf pim noFaults ⟨data, 0, 0⟩ =
        (.ok (), st') ∧
      (slice st'.contents 0 volumeHeaderSize).take pkcs5SaltSize =
        List.replicate pkcs5SaltSize b := by
  obtain ⟨password, salt, key, hmixed, hsalt, hkey⟩ := hderivable
  have hlength : (List.replicate pkcs5SaltSize b).length = pkcs5SaltSize := List.length_replicate
  obtain ⟨key', hkey'⟩ := exists_derived hK (hsalt.trans hlength.symm) hkey
  obtain ⟨-, chain, hchain⟩ := exists_headerChain
    ((makeKdfCandidate K kdf pim).implementation.derive_length hkey') r.headerCipher
  have hheader : newHeader P K (constantRandom b) r new kdf pim =
      .ok (slotBytes P chain (List.replicate pkcs5SaltSize b) r.header) :=
    newHeader_eq_ok.mpr ⟨⟨_, hlength⟩, password, key', chain, rfl, hmixed, hkey', hchain, rfl⟩
  have hlenBuf := length_newHeader hheader
  obtain ⟨st', hrun⟩ := exists_writeHeaders ⟨data, 0, 0⟩ hfile hmax hlenBuf
  refine ⟨st', by rw [changeVolumePassword_of_ok hheader, hrun], ?_⟩
  have hin : (splice data (data.length - 2 * volumeHeaderSize) (slotBytes P chain
      (List.replicate pkcs5SaltSize b) r.header)).length = data.length :=
    length_splice (by omega)
  have hself := slice_splice_self (Nat.zero_le (splice data (data.length - 2 * volumeHeaderSize)
    (slotBytes P chain (List.replicate pkcs5SaltSize b) r.header)).length)
    (slotBytes P chain (List.replicate pkcs5SaltSize b) r.header)
  rw [hlenBuf] at hself
  rw [writeHeaders_eq_ok hfile hmax hlenBuf hrun, hself, slotBytes, sealedHeader,
    List.append_assoc, List.take_append_of_le_length hlength.ge, List.take_of_length_le hlength.le]

/-- A header from a hidden slot is never changed as promised: two salts cannot both be what
stood at the start of the file. -/
theorem not_faithful_of_hidden (hderivable : Derivable new (makeKdfCandidate K kdf pim))
    (hhidden : slot.1.volumeType = .hidden) : ¬ ∀ R plan pos calls st',
      changeVolumePassword P K R r new kdf pim plan ⟨data, pos, calls⟩ = (.ok (), st') →
        Faithful P data slot r new (makeKdfCandidate K kdf pim) st'.contents := by
  intro hfaithful
  have hfirst : 0 ∈ otherOffsets data.length slot := by
    simp [otherOffsets, hhidden, normalOffsets]
  have hstart (b : UInt8) :
      (slice data 0 volumeHeaderSize).take pkcs5SaltSize = List.replicate pkcs5SaltSize b := by
    obtain ⟨st', hrun, hsalt⟩ := exists_change (P := P) (r := r) hK hfile hmax hderivable b
    rw [← (hfaithful _ _ _ _ _ hrun).otherSlots 0 hfirst, hsalt]
  have hsame := (hstart 0).symm.trans (hstart 1)
  exact absurd hsame (by decide)

end Salts

/-- A password change is about the volume it was asked for exactly when the header was read
from a normal slot, unless the new credentials give no key and it never succeeds. -/
theorem faithful_changeVolumePassword_iff (P : CipherSuite) (K : KdfLibrary) (data : Bytes)
    (old new : Credentials) (candidates : List KdfCandidate) (password : Bytes)
    (slot : HeaderLayout × ℕ) (r : OpenResult) (kdf : KdfAlgorithm) (pim : Int32)
    (hK : SaltsAlike K) (hfile : 4 * volumeHeaderSize ≤ data.length)
    (hmax : data.length ≤ maxPosition)
    (hfound : FoundIn P data old candidates password slot r) :
    (∀ R plan pos calls st',
      changeVolumePassword P K R r new kdf pim plan ⟨data, pos, calls⟩ = (.ok (), st') →
        Faithful P data slot r new (makeKdfCandidate K kdf pim) st'.contents) ↔
      (Derivable new (makeKdfCandidate K kdf pim) → slot.1.volumeType = .normal) := by
  constructor
  · intro hfaithful hderivable
    cases htype : slot.1.volumeType with
    | normal => rfl
    | hidden => exact absurd hfaithful (not_faithful_of_hidden hK hfile hmax hderivable htype)
  · intro hnormal R plan pos calls st' hchange
    have hderivable : Derivable new (makeKdfCandidate K kdf pim) := by
      obtain ⟨_, hheader, -⟩ := changeVolumePassword_eq_ok hfile hmax hchange
      obtain ⟨salt, password', key, _, -, hmixed', hkey, -, -⟩ := newHeader_eq_ok.mp hheader
      exact ⟨password', salt.1, key, hmixed', salt.2, hkey⟩
    exact faithful_of_normal hfile hmax hfound.opens (hnormal hderivable) hchange

section Sample

/-! Small files with an outer volume and a hidden one, and libraries simple enough to
compute with: a password fits the salts that begin with it, and a key for a salt that the
password does not fit decrypts to something else. -/

/-- Zeros when the salt begins with the password, ones otherwise. -/
def fittingLibrary : KdfLibrary where
  pbkdf2Hmac _ password salt _ len := List.replicate len (if salt.take 2 = password then 0 else 1)
  argon2Params _ _ _ _ := .error "unsupported"
  argon2Hash _ _ _ _ _ _ := .error "unsupported"
  pbkdf2Hmac_length := List.length_replicate
  argon2Hash_length h := by cases h

def kindMask : CipherKind → Block
  | .aes => 0x01010101010101010101010101010101
  | .serpent => 0x02020202020202020202020202020202
  | .twofish => 0x04040404040404040404040404040404
  | .camellia => 0x08080808080808080808080808080808
  | .kuznyechik => 0x10101010101010101010101010101010

/-- Every cipher has a mask of its own, which only zeros as key do not apply. -/
def maskingSuite : CipherSuite where
  encrypt kind key blk := if key.head? = some 0 then blk else blk ^^^ kindMask kind
  decrypt kind key blk := if key.head? = some 0 then blk else blk ^^^ kindMask kind
  decrypt_encrypt kind key blk := by
    split
    · rfl
    · rw [BitVec.xor_assoc, BitVec.xor_self, BitVec.xor_zero]
  encrypt_decrypt kind key blk := by
    split
    · rfl
    · rw [BitVec.xor_assoc, BitVec.xor_self, BitVec.xor_zero]

/-- The key derivations that are tried, and the first one of them. -/
def fittingKdfs : List KdfCandidate := autoKdfCandidates fittingLibrary (some 1)

def fittingKdf : KdfCandidate := makeKdfCandidate fittingLibrary .pbkdf2Sha512 1

/-- Every one of them gives zeros or ones. -/
private theorem fitting_derive {pim : Option Int32} {kdf : KdfCandidate}
    (h : kdf ∈ autoKdfCandidates fittingLibrary pim) {password salt key : Bytes}
    {iterations : UInt32} {len : ℕ}
    (hkey : kdf.implementation.derive password salt iterations len = .ok key) :
    key = List.replicate len (if salt.take 2 = password then 0 else 1) := by
  obtain ⟨algorithm, -, rfl⟩ := List.mem_map.mp h
  cases algorithm with
  | argon2id => cases hkey
  | _ => exact (Except.ok.inj hkey).symm

/-- AES under zeros. -/
def zeroChain : List XtsMode :=
  [⟨⟨.aes, List.replicate 32 0, length_zeroKey⟩, ⟨.aes, List.replicate 32 0, length_zeroKey⟩⟩]

/-- A salt that begins with two given bytes. -/
def saltOf (a b : UInt8) : {bs : Bytes // bs.length = pkcs5SaltSize} :=
  ⟨a :: b :: List.replicate 62 0, by simp [pkcs5SaltSize]⟩

/-- Under zeros as key a header stands in its slot as it is. -/
theorem sealedHeader_zeroChain (salt : Bytes) (header : VolumeHeader) :
    sealedHeader maskingSuite zeroChain salt header = salt ++ encryptedArea header := by
  have hblock (j : ℕ) (blk : Block) : chainEncryptAt maskingSuite zeroChain 0 j blk = blk := by
    change (blk ^^^ tweak maskingSuite _ 0 j) ^^^ tweak maskingSuite _ 0 j = blk
    rw [BitVec.xor_assoc, BitVec.xor_self, BitVec.xor_zero]
  have harea := length_encryptedArea header
  rw [sealedHeader, encryptUnit, mapBlocks_eq_self (keepsWidth_blockBytes _) (by rw [harea]; decide)]
  intro i hi
  have hlen : (slice (encryptedArea header) (i * 16) 16).length = 16 :=
    length_slice_of_le (by rw [harea, show encryptedHeaderSize = 448 from rfl]; omega)
  rw [blockBytes, hblock, bytesOfBlock_blockOfBytes hlen]

theorem slotBytes_zeroChain (salt : {bs : Bytes // bs.length = pkcs5SaltSize})
    (header : VolumeHeader) :
    (slotBytes maskingSuite zeroChain salt.1 header).length = volumeHeaderSize ∧
      (slotBytes maskingSuite zeroChain salt.1 header).take volumeHeaderEffectiveSize =
        salt.1 ++ encryptedArea header :=
  ⟨length_slotBytes salt.2, (take_slotBytes maskingSuite zeroChain header salt.2).trans
    (sealedHeader_zeroChain _ _)⟩

/-- The headers of a file that consists of four slots. -/
theorem headers_of_slots {s₀ s₁ s₂ s₃ : Bytes} (h₀ : s₀.length = volumeHeaderSize)
    (h₁ : s₁.length = volumeHeaderSize) (h₂ : s₂.length = volumeHeaderSize)
    (h₃ : s₃.length = volumeHeaderSize) :
    (s₀ ++ s₁ ++ s₂ ++ s₃).length = 4 * volumeHeaderSize ∧
      headerAt (s₀ ++ s₁ ++ s₂ ++ s₃) 0 = s₀.take volumeHeaderEffectiveSize ∧
      headerAt (s₀ ++ s₁ ++ s₂ ++ s₃) volumeHeaderSize = s₁.take volumeHeaderEffectiveSize ∧
      headerAt (s₀ ++ s₁ ++ s₂ ++ s₃) (2 * volumeHeaderSize) =
        s₂.take volumeHeaderEffectiveSize ∧
      headerAt (s₀ ++ s₁ ++ s₂ ++ s₃) (3 * volumeHeaderSize) =
        s₃.take volumeHeaderEffectiveSize := by
  have hsizes : volumeHeaderEffectiveSize ≤ volumeHeaderSize := by decide
  have htwo : (s₀ ++ s₁).length = 2 * volumeHeaderSize := by
    rw [List.length_append, h₀, h₁]
    omega
  have hthree : (s₀ ++ s₁ ++ s₂).length = 3 * volumeHeaderSize := by
    rw [List.length_append, htwo, h₂]
    omega
  refine ⟨by rw [List.length_append, hthree, h₃]; omega, ?_, ?_, ?_, ?_⟩
  · rw [headerAt, List.append_assoc, List.append_assoc, slice_append_left (by omega), slice,
      List.drop_zero]
  · rw [headerAt, List.append_assoc, List.append_assoc, slice_append_right h₀.le, h₀,
      Nat.sub_self, slice_append_left (by omega), slice, List.drop_zero]
  · rw [headerAt, List.append_assoc, slice_append_right htwo.le, htwo, Nat.sub_self,
      slice_append_left (by omega), slice, List.drop_zero]
  · rw [headerAt, slice_append_right hthree.le, hthree, Nat.sub_self, slice, List.drop_zero]

/-- The first block of the headers here. -/
def sampleBlock : Bytes := [86, 69, 82, 65, 0, 5, 1, 11, 13, 150, 133, 88, 0, 0, 0, 0]

/-- What a password that does not fit the salt makes of a header is not the magic. -/
theorem rejects_unfit {pim : Option Int32} {password : Bytes} {header : VolumeHeader} {a b : UInt8}
    (hblock : slice (encryptedArea header) 0 16 = sampleBlock) (hunfit : password ≠ [a, b]) :
    Rejects maskingSuite password ((saltOf a b).1 ++ encryptedArea header)
      (autoKdfCandidates fittingLibrary pim) := by
  intro kdf hkdf cipher
  have hsalt := (saltOf a b).2
  have hdata : volumeHeaderEffectiveSize ≤ ((saltOf a b).1 ++ encryptedArea header).length := by
    rw [List.length_append, length_encryptedArea, hsalt]
    decide
  refine attemptOn_eq_none_of_firstBlock hdata fun key chain hkey hchain => ?_
  rw [List.take_left' hsalt] at hkey
  rw [slice_append_right hsalt.le, hsalt, Nat.sub_self, hblock]
  have hones : key = List.replicate maxHeaderKeySize 1 := by
    rw [fitting_derive hkdf hkey, if_neg fun h => hunfit h.symm]
  subst hones
  have hall : ∀ cipher ∈ CipherType.allSupported,
      ((cipherChain cipher ((List.replicate maxHeaderKeySize 1).take (cipher.keySize * 2))).map
        fun chain => readU32 (blockBytes (chainDecryptAt maskingSuite chain 0 0) sampleBlock)
          Offsets.magic).toOption ≠ some volumeMagic := by
    decide +kernel
  have hone := hall cipher (mem_allSupported cipher)
  rw [hchain] at hone
  exact fun hmagic => hone (congrArg some hmagic)

/-- An outer header under the password `oo` and a hidden one under `hh`. -/
def outerHeader : VolumeHeader := normalHeader 262144 (saltOf 0x6F 0x6F) (List.replicate 64 0)

def innerHeader : VolumeHeader := hiddenHeader 512 131072 (saltOf 0x68 0x68) (List.replicate 64 0)

/-- A slot of the outer volume, under a salt that begins with `aa`. -/
def outerSlot (a : UInt8) : Bytes := slotBytes maskingSuite zeroChain (saltOf a a).1 outerHeader

def innerSlot : Bytes := slotBytes maskingSuite zeroChain (saltOf 0x68 0x68).1 innerHeader

/-- A file of four headers, with a salt of its own in the first one. -/
def sampleFile (a : UInt8) : Bytes := outerSlot a ++ innerSlot ++ outerSlot 0x6F ++ innerSlot

theorem sampleFile_spec (a : UInt8) : (sampleFile a).length = 4 * volumeHeaderSize ∧
    headerAt (sampleFile a) 0 = (saltOf a a).1 ++ encryptedArea outerHeader ∧
    headerAt (sampleFile a) volumeHeaderSize =
      (saltOf 0x68 0x68).1 ++ encryptedArea innerHeader ∧
    headerAt (sampleFile a) (2 * volumeHeaderSize) =
      (saltOf 0x6F 0x6F).1 ++ encryptedArea outerHeader ∧
    headerAt (sampleFile a) (3 * volumeHeaderSize) =
      (saltOf 0x68 0x68).1 ++ encryptedArea innerHeader := by
  obtain ⟨houter, htake⟩ := slotBytes_zeroChain (saltOf a a) outerHeader
  obtain ⟨hinner, hinnerTake⟩ := slotBytes_zeroChain (saltOf 0x68 0x68) innerHeader
  obtain ⟨hbackup, hbackupTake⟩ := slotBytes_zeroChain (saltOf 0x6F 0x6F) outerHeader
  rw [← htake, ← hinnerTake, ← hbackupTake]
  exact headers_of_slots houter hinner hbackup hinner

/-- Zeros as key open a header to its fields. -/
theorem accepts_fitting {password : Bytes} {header : VolumeHeader} (pim : Int32)
    (salt : {bs : Bytes // bs.length = pkcs5SaltSize}) (hfit : salt.1.take 2 = password)
    (hheader : Wellformed header) (isBackup : Bool) :
    attemptOn maskingSuite password (salt.1 ++ encryptedArea header) isBackup
        (makeKdfCandidate fittingLibrary .pbkdf2Sha512 pim) .aes =
      some (openResult .aes (makeKdfCandidate fittingLibrary .pbkdf2Sha512 pim) salt.1
        (header.stored salt.1 salt.2) isBackup) := by
  have hkey : (makeKdfCandidate fittingLibrary .pbkdf2Sha512 pim).implementation.derive password
      salt.1 (makeKdfCandidate fittingLibrary .pbkdf2Sha512 pim).iterations maxHeaderKeySize =
        .ok (List.replicate maxHeaderKeySize 0) := by
    change Except.ok (List.replicate _ (if salt.1.take 2 = password then 0 else 1)) = _
    rw [if_pos hfit]
  have hchain : cipherChain .aes ((List.replicate maxHeaderKeySize (0 : UInt8)).take
      (CipherType.aes.keySize * 2)) = .ok zeroChain := rfl
  rw [← sealedHeader_zeroChain]
  exact attemptOn_sealedHeader salt.2 hheader hkey hchain isBackup

/-- A volume of a sample file is found behind slots that its password does not fit. -/
theorem sample_found {data password : Bytes} {header : VolumeHeader} {slot : HeaderLayout × ℕ}
    (pim : Int32) (before : List (HeaderLayout × ℕ)) {after : List (HeaderLayout × ℕ)}
    (salt : {bs : Bytes // bs.length = pkcs5SaltSize}) (hfile : 4 * volumeHeaderSize ≤ data.length)
    (hsplit : slots data.length = before ++ slot :: after)
    (hbefore : ∀ s ∈ before, Rejects maskingSuite password (headerAt data s.2)
      (autoKdfCandidates fittingLibrary (some pim)))
    (hslot : headerAt data slot.2 = salt.1 ++ encryptedArea header)
    (hfit : salt.1.take 2 = password) (hheader : Wellformed header) :
    FoundIn maskingSuite data ⟨password, []⟩ (autoKdfCandidates fittingLibrary (some pim)) password
      slot (openResult .aes (makeKdfCandidate fittingLibrary .pbkdf2Sha512 pim) salt.1
        (header.stored salt.1 salt.2) (slotIsBackup slot)) := by
  obtain ⟨later, hkdfs⟩ : ∃ later, autoKdfCandidates fittingLibrary (some pim) =
      makeKdfCandidate fittingLibrary .pbkdf2Sha512 pim :: later := ⟨_, rfl⟩
  rw [hkdfs] at hbefore ⊢
  refine foundIn_of_accepts hfile rfl hsplit hbefore noEarlierCipher_aes ?_
  rw [hslot]
  exact accepts_fitting pim salt hfit hheader _

theorem wellformed_outerHeader : Wellformed outerHeader := wellformed_normalHeader _ _ _

theorem wellformed_innerHeader : Wellformed innerHeader := ⟨rfl, by
  change ValidSectorSize 512
  decide⟩

/-- The checksum of an empty key area, computed in steps of 32 bytes. -/
private theorem crc32_zeros : crc32 (List.replicate 256 0) = 0x0D968558 := by
  have hstep {crc crc' : UInt32} (h : (List.replicate 32 0).foldl crcUpdate crc = crc') (n : ℕ) :
      (List.replicate (32 + n) 0).foldl crcUpdate crc = (List.replicate n 0).foldl crcUpdate crc' := by
    rw [← List.replicate_append_replicate, List.foldl_append, h]
  have hfold : (List.replicate 256 0).foldl crcUpdate 0xFFFFFFFF = 0xF2697AA7 :=
    calc (List.replicate 256 0).foldl crcUpdate 0xFFFFFFFF
      _ = (List.replicate 224 0).foldl crcUpdate 0xE6F5AA52 := hstep (by decide +kernel) 224
      _ = (List.replicate 192 0).foldl crcUpdate 0x8A729CC9 := hstep (by decide +kernel) 192
      _ = (List.replicate 160 0).foldl crcUpdate 0x450B9A51 := hstep (by decide +kernel) 160
      _ = (List.replicate 128 0).foldl crcUpdate 0x3D570562 := hstep (by decide +kernel) 128
      _ = (List.replicate 96 0).foldl crcUpdate 0x55F8AC9C := hstep (by decide +kernel) 96
      _ = (List.replicate 64 0).foldl crcUpdate 0x7400F70D := hstep (by decide +kernel) 64
      _ = (List.replicate 32 0).foldl crcUpdate 0xC2DEA49C := hstep (by decide +kernel) 32
      _ = 0xF2697AA7 := by decide +kernel
  rw [crc32, hfold]
  rfl

/-- Both headers have an empty key area and begin alike. -/
theorem sample_firstBlock : slice (encryptedArea outerHeader) 0 16 = sampleBlock ∧
    slice (encryptedArea innerHeader) 0 16 = sampleBlock := by
  have houter : keyArea outerHeader = List.replicate 256 0 := by decide +kernel
  have hinner : keyArea innerHeader = List.replicate 256 0 := by decide +kernel
  constructor
  · rw [encryptedArea_eq, keyAreaChecksum, houter, crc32_zeros]
    rfl
  · rw [encryptedArea_eq, keyAreaChecksum, hinner, crc32_zeros]
    rfl

/-- The outer volume of a sample file, read from one of its slots. -/
def outerResult (isBackup : Bool) : OpenResult :=
  openResult .aes fittingKdf (saltOf 0x6F 0x6F).1
    (outerHeader.stored (saltOf 0x6F 0x6F).1 (saltOf 0x6F 0x6F).2) isBackup

def innerResult : OpenResult :=
  openResult .aes fittingKdf (saltOf 0x68 0x68).1
    (innerHeader.stored (saltOf 0x68 0x68).1 (saltOf 0x68 0x68).2) false

/-- Between headers of the outer volume a hidden one is found behind them. -/
theorem hidden_found {data : Bytes} {header : VolumeHeader} (pim : Int32)
    (hheader : Wellformed header) (hlen : data.length = 4 * volumeHeaderSize)
    (hfirst : headerAt data 0 = (saltOf 0x6F 0x6F).1 ++ encryptedArea outerHeader)
    (hinner : headerAt data volumeHeaderSize = (saltOf 0x68 0x68).1 ++ encryptedArea header)
    (hbackup : headerAt data (2 * volumeHeaderSize) =
      (saltOf 0x6F 0x6F).1 ++ encryptedArea outerHeader) :
    FoundIn maskingSuite data ⟨[0x68, 0x68], []⟩ (autoKdfCandidates fittingLibrary (some pim))
      [0x68, 0x68] (.v2Hidden data.length, volumeHeaderSize)
      (openResult .aes (makeKdfCandidate fittingLibrary .pbkdf2Sha512 pim) (saltOf 0x68 0x68).1
        (header.stored (saltOf 0x68 0x68).1 (saltOf 0x68 0x68).2)
        (slotIsBackup (.v2Hidden data.length, volumeHeaderSize))) := by
  have hreject : Rejects maskingSuite [0x68, 0x68] _ (autoKdfCandidates fittingLibrary (some pim)) :=
    rejects_unfit (a := 0x6F) (b := 0x6F) sample_firstBlock.1 (by decide)
  have hhalf : data.length - 2 * volumeHeaderSize = 2 * volumeHeaderSize := by omega
  refine sample_found pim [(.v2Normal _, 0), (.v2Normal _, _), (.v1Legacy, 0)] (saltOf 0x68 0x68)
    hlen.ge (slots_eq hlen.ge) ?_ hinner rfl hheader
  intro s hs
  simp only [List.mem_cons, List.not_mem_nil, or_false] at hs
  rcases hs with rfl | rfl | rfl
  · rwa [hfirst]
  · rwa [hhalf, hbackup]
  · rwa [hfirst]

theorem outerVolume_found : FoundIn maskingSuite (sampleFile 0x6F) ⟨[0x6F, 0x6F], []⟩
    fittingKdfs [0x6F, 0x6F] (.v2Normal (sampleFile 0x6F).length, 0) (outerResult false) := by
  obtain ⟨hlen, hfirst, -⟩ := sampleFile_spec 0x6F
  have hresult : outerResult false = openResult .aes fittingKdf (saltOf 0x6F 0x6F).1
      (outerHeader.stored (saltOf 0x6F 0x6F).1 (saltOf 0x6F 0x6F).2)
      (slotIsBackup (.v2Normal (sampleFile 0x6F).length, 0)) := by
    rw [hlen]
    rfl
  rw [hresult]
  exact sample_found 1 [] (saltOf 0x6F 0x6F) hlen.ge (slots_eq hlen.ge) (by simp)
    hfirst rfl wellformed_outerHeader

theorem innerVolume_found : FoundIn maskingSuite (sampleFile 0x6F) ⟨[0x68, 0x68], []⟩
    fittingKdfs [0x68, 0x68] (.v2Hidden (sampleFile 0x6F).length, volumeHeaderSize)
    innerResult := by
  obtain ⟨hlen, hfirst, hinner, hbackup, -⟩ := sampleFile_spec 0x6F
  have hresult : innerResult = openResult .aes fittingKdf (saltOf 0x68 0x68).1
      (innerHeader.stored (saltOf 0x68 0x68).1 (saltOf 0x68 0x68).2)
      (slotIsBackup (.v2Hidden (sampleFile 0x6F).length, volumeHeaderSize)) := by
    rw [hlen]
    rfl
  rw [hresult]
  exact hidden_found 1 wellformed_innerHeader hlen hfirst hinner hbackup

/-- The password of the outer volume of a sample file is changed as promised. -/
theorem faithful_outerVolume : ∃ data slot r,
    FoundIn maskingSuite data ⟨[0x6F, 0x6F], []⟩ fittingKdfs [0x6F, 0x6F] slot r ∧
      ∀ R plan pos calls st',
        changeVolumePassword maskingSuite fittingLibrary R r ⟨[0x6E, 0x6E], []⟩ .pbkdf2Sha512 1 plan
          ⟨data, pos, calls⟩ = (.ok (), st') →
        Faithful maskingSuite data slot r ⟨[0x6E, 0x6E], []⟩
          (makeKdfCandidate fittingLibrary .pbkdf2Sha512 1) st'.contents := by
  obtain ⟨hlen, -⟩ := sampleFile_spec 0x6F
  exact ⟨_, _, _, outerVolume_found, (faithful_changeVolumePassword_iff maskingSuite fittingLibrary
    (sampleFile 0x6F) ⟨[0x6F, 0x6F], []⟩ ⟨[0x6E, 0x6E], []⟩ fittingKdfs [0x6F, 0x6F] _ _
    .pbkdf2Sha512 1 (fun _ _ _ _ _ _ _ _ => rfl) hlen.ge (by rw [hlen]; decide)
    outerVolume_found).mpr fun _ => rfl⟩

/-- After the password of the hidden volume was changed, the first slot of the outer one,
which opened before, holds something else. -/
theorem hiddenVolume_changes_outer : ∃ data outer hidden outerSlot hiddenSlot st',
    FoundIn maskingSuite data ⟨[0x6F, 0x6F], []⟩ fittingKdfs [0x6F, 0x6F] outerSlot outer ∧
      FoundIn maskingSuite data ⟨[0x68, 0x68], []⟩ fittingKdfs [0x68, 0x68] hiddenSlot hidden ∧
      hiddenSlot.1.volumeType = .hidden ∧ outerSlot.2 ∈ otherOffsets data.length hiddenSlot ∧
      changeVolumePassword maskingSuite fittingLibrary (constantRandom 1) hidden
        ⟨[0x6E, 0x6E], []⟩ .pbkdf2Sha512 1 noFaults ⟨data, 0, 0⟩ = (.ok (), st') ∧
      slice st'.contents outerSlot.2 volumeHeaderSize ≠ slice data outerSlot.2 volumeHeaderSize := by
  obtain ⟨hlen, hfirst, -⟩ := sampleFile_spec 0x6F
  have hderivable : Derivable ⟨[0x6E, 0x6E], []⟩ (makeKdfCandidate fittingLibrary .pbkdf2Sha512 1) :=
    ⟨[0x6E, 0x6E], List.replicate pkcs5SaltSize 0, _, rfl, List.length_replicate, rfl⟩
  have hchange : ∃ st', changeVolumePassword maskingSuite fittingLibrary (constantRandom 1)
      innerResult ⟨[0x6E, 0x6E], []⟩ .pbkdf2Sha512 1 noFaults ⟨sampleFile 0x6F, 0, 0⟩ = (.ok (), st') ∧
        _ := exists_change (fun _ _ _ _ _ _ _ _ => rfl) hlen.ge (by rw [hlen]; decide) hderivable 1
  obtain ⟨st', hrun, hsalt⟩ := hchange
  refine ⟨_, _, _, _, _, st', outerVolume_found, innerVolume_found, rfl, by
    simp [otherOffsets, HeaderLayout.v2Hidden, normalOffsets], hrun, fun hsame => ?_⟩
  have hstart : (slice (sampleFile 0x6F) 0 volumeHeaderSize).take pkcs5SaltSize =
      (saltOf 0x6F 0x6F).1 := by
    have hcut := congrArg (List.take pkcs5SaltSize) hfirst
    rw [List.take_left' (saltOf 0x6F 0x6F).2] at hcut
    rw [← hcut, headerAt, slice, slice, List.take_take, List.take_take]
    rfl
  rw [hsame, hstart] at hsalt
  exact absurd hsalt (by decide)

end Sample

end Oxhide.ChangedHeaders
