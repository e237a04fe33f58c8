import Oxhide.OpeningSearch

/-! # What a sealed header opens to

A sealed header is a salt followed by the encrypted header area. The credentials
and the cipher it was sealed with accept it, and the result carries the fields of
the header. Every accepted header has passed the checks of the parser. -/
namespace Oxhide.SealedHeaders
open BlockCiphers CipherChain CipherTypes HeaderEncryption HeaderFormat KeyDerivation ListBlocks
  ListSplice OpeningSearch VolumeErrors VolumeOpening WordBytes Xts

/-- A header in the form in which a slot holds it. -/
def sealedHeader (P : CipherSuite) (chain : List XtsMode) (salt : Bytes) (header : VolumeHeader) :
    Bytes := salt ++ encryptUnit P chain 0 28 (encryptedArea header)

/-- A header that the parser accepts once serialized. -/
structure Wellformed (header : VolumeHeader) : Prop where
  magic : header.magic = volumeMagic
  sectorSize : ValidSectorSize header.sectorSize

variable {P : CipherSuite} {chain : List XtsMode} {salt : Bytes} {header : VolumeHeader}

theorem length_sealedHeader (P : CipherSuite) (chain : List XtsMode) {salt : Bytes}
    (header : VolumeHeader) (hsalt : salt.length = pkcs5SaltSize) :
    (sealedHeader P chain salt header).length = volumeHeaderEffectiveSize := by
  rw [sealedHeader, List.length_append, hsalt,
    length_encryptUnit (n := 28) (length_encryptedArea header), length_encryptedArea]
  rfl

/-- The part of a derived key that a cipher uses. -/
theorem exists_headerChain {key : Bytes} (h : key.length = maxHeaderKeySize)
    (cipher : CipherType) :
    (key.take (cipher.keySize * 2)).length = cipher.keySize * 2 ∧
      ∃ chain, cipherChain cipher (key.take (cipher.keySize * 2)) = .ok chain := by
  have hle := keySize_le cipher
  have hlen : (key.take (cipher.keySize * 2)).length = cipher.keySize * 2 := by
    rw [List.length_take, h, maxHeaderKeySize]
    omega
  exact ⟨hlen, exists_cipherChain hlen⟩

private theorem take_eq_salt_area {data : Bytes} (h : volumeHeaderEffectiveSize ≤ data.length) :
    data.take volumeHeaderEffectiveSize =
        data.take pkcs5SaltSize ++ slice data pkcs5SaltSize encryptedHeaderSize ∧
      (data.take pkcs5SaltSize).length = pkcs5SaltSize ∧
      (slice data pkcs5SaltSize encryptedHeaderSize).length = encryptedHeaderSize := by
  have hsizes : pkcs5SaltSize + encryptedHeaderSize = volumeHeaderEffectiveSize := by decide
  refine ⟨?_, ?_, length_slice_of_le (by omega)⟩
  · have hhead : slice data 0 pkcs5SaltSize = data.take pkcs5SaltSize := by
      rw [slice, List.drop_zero]
    have happend := slice_append_slice data 0 pkcs5SaltSize encryptedHeaderSize
    rw [hhead, Nat.zero_add, hsizes] at happend
    rw [happend, slice, List.drop_zero]
  · rw [List.length_take]
    omega

/-- An attempt with the right key length is the parse of the decrypted area. -/
theorem tryDecrypt_eq {data key : Bytes} {cipher : CipherType}
    (hdata : volumeHeaderEffectiveSize ≤ data.length) (hkey : key.length = cipher.keySize * 2)
    (hchain : cipherChain cipher key = .ok chain) (kdf : KdfCandidate) (isBackup : Bool) :
    (tryDecrypt P data cipher key kdf isBackup).toOption =
      (deserializeHeader (data.take pkcs5SaltSize ++
        decryptUnit P chain 0 28 (slice data pkcs5SaltSize encryptedHeaderSize))).toOption.map
          fun header => openResult cipher kdf (data.take pkcs5SaltSize) header isBackup := by
  obtain ⟨htake, hsalt, harea⟩ := take_eq_salt_area hdata
  have hdecrypt := decryptHeaderArea_eq (P := P) hkey hchain hsalt harea
  rw [← htake] at hdecrypt
  simp only [tryDecrypt, hdecrypt]
  cases hparse : deserializeHeader (data.take pkcs5SaltSize ++
      decryptUnit P chain 0 28 (slice data pkcs5SaltSize encryptedHeaderSize)) with
  | error e => rfl
  | ok header =>
    obtain ⟨-, -, hkeydata, -⟩ := deserializeHeader_eq_ok hparse
    have hle := keySize_le cipher
    have hroom : ¬ header.masterKeydata.length < cipher.keySize * 2 := by
      rw [hkeydata, masterKeydataSize]
      omega
    simp only [if_neg hroom]
    rfl

/-- The credentials and the cipher a header was sealed with accept it. -/
theorem attemptOn_sealedHeader {password key : Bytes} {kdf : KdfCandidate} {cipher : CipherType}
    (hsalt : salt.length = pkcs5SaltSize) (hheader : Wellformed header)
    (hkey : kdf.implementation.derive password salt kdf.iterations maxHeaderKeySize = .ok key)
    (hchain : cipherChain cipher (key.take (cipher.keySize * 2)) = .ok chain) (isBackup : Bool) :
    attemptOn P password (sealedHeader P chain salt header) isBackup kdf cipher =
      some (openResult cipher kdf salt (header.stored salt hsalt) isBackup) := by
  have harea := length_encryptedArea header
  have hsealed : (encryptUnit P chain 0 28 (encryptedArea header)).length = _ :=
    length_encryptUnit harea
  have hlen : volumeHeaderEffectiveSize ≤ (sealedHeader P chain salt header).length :=
    (length_sealedHeader P chain header hsalt).ge
  have hhead : (sealedHeader P chain salt header).take pkcs5SaltSize = salt := by
    rw [sealedHeader, ← hsalt, List.take_left]
  have htail : slice (sealedHeader P chain salt header) pkcs5SaltSize encryptedHeaderSize =
      encryptUnit P chain 0 28 (encryptedArea header) := by
    rw [sealedHeader, slice_append_right hsalt.le, hsalt, Nat.sub_self]
    exact slice_all (hsealed.trans harea).le
  have hparse := deserializeHeader_encryptedArea header hsalt hheader.magic hheader.sectorSize
  have hcut := (exists_headerChain (kdf.implementation.derive_length hkey) cipher).1
  rw [attemptOn, hhead, hkey]
  simp only
  rw [tryDecrypt_eq hlen hcut hchain, hhead, htail, decryptUnit_encryptUnit (n := 28) harea, hparse]
  rfl

/-- What every accepted header went through. -/
theorem attemptOn_eq_some {password data : Bytes} {isBackup : Bool} {kdf : KdfCandidate}
    {cipher : CipherType} {r : OpenResult} (hdata : volumeHeaderEffectiveSize ≤ data.length)
    (h : attemptOn P password data isBackup kdf cipher = some r) :
    ∃ key chain header, kdf.implementation.derive password (data.take pkcs5SaltSize)
        kdf.iterations maxHeaderKeySize = .ok key ∧
      cipherChain cipher (key.take (cipher.keySize * 2)) = .ok chain ∧
      deserializeHeader (data.take pkcs5SaltSize ++
        decryptUnit P chain 0 28 (slice data pkcs5SaltSize encryptedHeaderSize)) = .ok header ∧
      r = openResult cipher kdf (data.take pkcs5SaltSize) header isBackup := by
  rw [attemptOn] at h
  split at h
  · cases h
  · next key hkey =>
    obtain ⟨hcut, chain, hchain⟩ :=
      exists_headerChain (kdf.implementation.derive_length hkey) cipher
    rw [tryDecrypt_eq hdata hcut hchain, Option.map_eq_some_iff] at h
    obtain ⟨header, hheader, rfl⟩ := h
    refine ⟨key, chain, header, hkey, hchain, ?_, rfl⟩
    cases hparse : deserializeHeader (data.take pkcs5SaltSize ++
        decryptUnit P chain 0 28 (slice data pkcs5SaltSize encryptedHeaderSize)) with
    | error e => simp [hparse, Except.toOption] at hheader
    | ok parsed =>
      rw [hparse, Except.toOption, Option.some.injEq] at hheader
      rw [hheader]

/-- A first block that does not decrypt to the magic is not accepted. -/
theorem attemptOn_eq_none_of_firstBlock {password data : Bytes} {isBackup : Bool}
    {kdf : KdfCandidate} {cipher : CipherType} (hdata : volumeHeaderEffectiveSize ≤ data.length)
    (h : ∀ key chain, kdf.implementation.derive password (data.take pkcs5SaltSize) kdf.iterations
        maxHeaderKeySize = .ok key →
      cipherChain cipher (key.take (cipher.keySize * 2)) = .ok chain →
      readU32 (blockBytes (chainDecryptAt P chain 0 0) (slice data pkcs5SaltSize 16))
        Offsets.magic ≠ volumeMagic) :
    attemptOn P password data isBackup kdf cipher = none := by
  cases hattempt : attemptOn P password data isBackup kdf cipher with
  | none => rfl
  | some r =>
    obtain ⟨key, chain, header, hkey, hchain, hparse, -⟩ := attemptOn_eq_some hdata hattempt
    obtain ⟨-, hpasses, -⟩ := deserializeHeader_eq_ok_iff.mp hparse
    obtain ⟨-, hsalt, harea⟩ := take_eq_salt_area hdata
    have hblocks : 28 * 16 ≤ (slice data pkcs5SaltSize encryptedHeaderSize).length := harea.ge
    have hdecrypted : (decryptUnit P chain 0 28 (slice data pkcs5SaltSize
        encryptedHeaderSize)).length = encryptedHeaderSize :=
      (length_decryptUnit (n := 28) harea).trans harea
    have hfirst := slice_mapBlocks (keepsWidth_blockBytes fun j => chainDecryptAt P chain 0 j)
      hblocks (show 0 < 28 by omega)
    rw [Nat.zero_mul, slice_slice (by decide), Nat.add_zero] at hfirst
    have hmagic := hpasses.magic
    rw [slice_append_right hsalt.le, hsalt, Nat.sub_self, slice_all hdecrypted.le] at hmagic
    refine absurd ?_ (h key chain hkey hchain)
    rw [← hfirst, readU32, Offsets.magic, slice_slice (by decide)]
    exact hmagic

/-- What every opened volume went through: a slot whose first 512 bytes one of the key
derivations and one cipher accept. -/
theorem openVolumeWith_eq_ok {file : Except String Bytes} {credentials : Credentials}
    {candidates : List KdfCandidate} {r : OpenResult}
    (h : openVolumeWith P file credentials candidates = .ok r) :
    ∃ data password slot kdf cipher key chain header, file = .ok data ∧
      credentials.mixed = .ok password ∧ slot ∈ slots data.length ∧ kdf ∈ candidates ∧
      kdf.implementation.derive password ((slotHeader data slot).take pkcs5SaltSize)
        kdf.iterations maxHeaderKeySize = .ok key ∧
      cipherChain cipher (key.take (cipher.keySize * 2)) = .ok chain ∧
      deserializeHeader ((slotHeader data slot).take pkcs5SaltSize ++ decryptUnit P chain 0 28
        (slice (slotHeader data slot) pkcs5SaltSize encryptedHeaderSize)) = .ok header ∧
      r = openResult cipher kdf ((slotHeader data slot).take pkcs5SaltSize) header
        (slotIsBackup slot) := by
  obtain ⟨data, password, before, a, after, hfile, hmixed, hsplit, ha, -⟩ :=
    openVolumeWith_eq_ok_iff.mp h
  have hmem : a ∈ attempts candidates (slots data.length) := by
    rw [hsplit]
    exact List.mem_append_right before List.mem_cons_self
  obtain ⟨hslot, hkdf⟩ := mem_attempts.mp hmem
  rw [attempt] at ha
  split at ha
  · cases ha
  · next hlen =>
    obtain ⟨key, chain, header, hkey, hchain, hheader, hr⟩ :=
      attemptOn_eq_some (not_lt.mp hlen) ha
    exact ⟨data, password, a.slot, a.kdf, a.cipher, key, chain, header, hfile, hmixed, hslot, hkdf,
      hkey, hchain, hheader, hr⟩

/-- The master key of an opened volume has the length that its data cipher asks for. -/
theorem length_masterKey {file : Except String Bytes} {credentials : Credentials}
    {candidates : List KdfCandidate} {r : OpenResult}
    (h : openVolumeWith P file credentials candidates = .ok r) :
    r.masterKey.length = r.dataCipher.keySize * 2 := by
  obtain ⟨_, _, _, _, cipher, _, _, header, -, -, -, -, -, -, hheader, rfl⟩ :=
    openVolumeWith_eq_ok h
  obtain ⟨-, -, hkeydata, -⟩ := deserializeHeader_eq_ok hheader
  have hle := keySize_le cipher
  change (header.masterKeydata.take (cipher.keySize * 2)).length = cipher.keySize * 2
  rw [List.length_take, hkeydata, masterKeydataSize]
  omega

section Acceptance
variable (P) (password data : Bytes)

/-- No key derivation and no cipher opens the header. -/
def Rejects (candidates : List KdfCandidate) : Prop :=
  ∀ kdf ∈ candidates, ∀ cipher, attemptOn P password data false kdf cipher = none

/-- No cipher that is tried before `cipher` opens the header. -/
def NoEarlierCipher (kdf : KdfCandidate) (cipher : CipherType) : Prop :=
  ∀ c ∈ CipherType.allSupported.takeWhile (· ≠ cipher),
    attemptOn P password data false kdf c = none

variable {P password data}

theorem attemptOn_eq_none {isBackup : Bool} {kdf : KdfCandidate} {cipher : CipherType}
    (h : attemptOn P password data false kdf cipher = none) :
    attemptOn P password data isBackup kdf cipher = none := by
  rw [attemptOn_isBackup, h, Option.map_none]

/-- AES is the first cipher to be tried. -/
theorem noEarlierCipher_aes {kdf : KdfCandidate} : NoEarlierCipher P password data kdf .aes := by
  simp [NoEarlierCipher, CipherType.allSupported]

theorem exists_allSupported_split (cipher : CipherType) : ∃ later, CipherType.allSupported =
    CipherType.allSupported.takeWhile (· ≠ cipher) ++ cipher :: later := by
  cases cipher <;> exact ⟨_, rfl⟩

/-- The first cipher that opens a header decides the result of the search. -/
theorem tryKdf_of_attemptOn {kdf : KdfCandidate} {cipher : CipherType} {header : Bytes}
    {isBackup : Bool} {r : OpenResult} (hearlier : NoEarlierCipher P password header kdf cipher)
    (h : attemptOn P password header isBackup kdf cipher = some r) :
    tryKdf P header password isBackup kdf = some r := by
  obtain ⟨later, hall⟩ := exists_allSupported_split cipher
  have hnone : (CipherType.allSupported.takeWhile (· ≠ cipher)).findSome?
      (attemptOn P password header isBackup kdf) = none :=
    List.findSome?_eq_none_iff.mpr fun c hc => attemptOn_eq_none (hearlier c hc)
  rw [tryKdf_eq, hall, List.findSome?_append, hnone, Option.none_or, List.findSome?_cons, h]

theorem tryOpen_of_attemptOn {kdf : KdfCandidate} {cipher : CipherType} {header : Bytes}
    {isBackup : Bool} {r : OpenResult}
    (hlen : volumeHeaderEffectiveSize ≤ header.length)
    (hearlier : NoEarlierCipher P password header kdf cipher)
    (h : attemptOn P password header isBackup kdf cipher = some r) :
    tryOpen P header password [kdf] isBackup = .ok r := by
  simp only [tryOpen, if_neg (not_lt.mpr hlen), List.findSome?_cons,
    tryKdf_of_attemptOn hearlier h]

/-- The header in the slot at `off`. -/
def headerAt (data : Bytes) (off : ℕ) : Bytes := slice data off volumeHeaderEffectiveSize

theorem headerAt_eq {off : ℕ} {slot : Bytes} (h : slice data off volumeHeaderSize = slot) :
    headerAt data off = slot.take volumeHeaderEffectiveSize := by
  rw [headerAt, ← h, slice, slice, List.take_take]
  rfl

end Acceptance

end Oxhide.SealedHeaders
