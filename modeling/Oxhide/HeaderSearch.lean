import Oxhide.ChangedHeaders

/-! # The search for a header in a file of any length

The opener goes through the layouts, the slots of a layout, the key derivations and the
ciphers. A short file has slots that coincide or end behind the file. The search takes
every slice inside its buffer, and it finds the first combination that decrypts to a
header; whether it says that this header is a backup is another matter. -/
namespace Oxhide.HeaderSearch
open BlockCiphers ChangedHeaders CipherChain CipherTypes HeaderEncryption HeaderFormat
  KeyDerivation ListSplice OpeningSearch SealedHeaders VolumeErrors VolumeOpening WordBytes

section Indexing

/-! The search again, with its index expressions checked: `none` is a panic. -/

variable (P : CipherSuite)

/-- `&data[off..off + n]` -/
def indexed (data : Bytes) (off n : ℕ) : Option Bytes :=
  if off + n ≤ data.length then some (slice data off n) else none

def tryDecryptIndexed (data : Bytes) (headerCipher : CipherType) (headerKey : Bytes)
    (kdf : KdfCandidate) (isBackup : Bool) : Option (Except VolumeError OpenResult) := do
  let area ← indexed data 0 volumeHeaderEffectiveSize
  match decryptHeaderArea P headerKey headerCipher area with
  | (.error _, _) => return .error (.authFailed "header decrypt")
  | (.ok (), decrypted) =>
    match deserializeHeader decrypted with
    | .error _ => return .error (.authFailed "header parse")
    | .ok header =>
      let salt ← indexed data 0 pkcs5SaltSize
      if header.masterKeydata.length < headerCipher.keySize * 2 then
        let name := headerCipher.name
        return .error (.invalidFormat s!"Master key area too small for {name}")
      else
        let masterKey ← indexed header.masterKeydata 0 (headerCipher.keySize * 2)
        return .ok { openResult headerCipher kdf salt header isBackup with masterKey := masterKey }

def tryCiphersIndexed (header key : Bytes) (kdf : KdfCandidate) (isBackup : Bool) :
    List CipherType → Option (Option OpenResult)
  | [] => some none
  | cipher :: rest => do
    let headerKey ← indexed key 0 (cipher.keySize * 2)
    match ← tryDecryptIndexed P header cipher headerKey kdf isBackup with
    | .ok result => return some result
    | .error _ => tryCiphersIndexed header key kdf isBackup rest

def tryKdfsIndexed (header password salt : Bytes) (isBackup : Bool) :
    List KdfCandidate → Option (Option OpenResult)
  | [] => some none
  | kdf :: rest =>
    match kdf.implementation.derive password salt kdf.iterations maxHeaderKeySize with
    | .error _ => tryKdfsIndexed header password salt isBackup rest
    | .ok key => do
      match ← tryCiphersIndexed P header key kdf isBackup CipherType.allSupported with
      | some result => return some result
      | none => tryKdfsIndexed header password salt isBackup rest

def tryOpenIndexed (header password : Bytes) (candidates : List KdfCandidate) (isBackup : Bool) :
    Option (Except VolumeError OpenResult) :=
  if header.length < volumeHeaderEffectiveSize then
    some (.error (.invalidFormat "Header too small"))
  else do
    let salt ← indexed header 0 pkcs5SaltSize
    match ← tryKdfsIndexed P header password salt isBackup candidates with
    | some result => return .ok result
    | none => return .error (.authFailed "Password incorrect or volume corrupted")

def openSlotsIndexed (data password : Bytes) (candidates : List KdfCandidate) :
    List (HeaderLayout × ℕ) → Option (Except VolumeError OpenResult)
  | [] => some (.error (.authFailed "Password incorrect or volume corrupted"))
  | slot :: rest =>
    let readSize := min slot.1.readSize (data.length - slot.2)
    if readSize < volumeHeaderEffectiveSize then
      openSlotsIndexed data password candidates rest
    else do
      let header ← indexed data slot.2 readSize
      match ← tryOpenIndexed P header password candidates (slotIsBackup slot) with
      | .ok result => return .ok result
      | .error (.authFailed _) => openSlotsIndexed data password candidates rest
      | .error e => return .error e

def openVolumeFileIndexed (K : KdfLibrary) (file : Except String Bytes) (credentials : Credentials)
    (pim : Option Int32) : Option (Except VolumeError OpenResult) :=
  match file with
  | .error e => some (.error (.openError s!"read: {e}"))
  | .ok data =>
    match credentials.mixed with
    | .error e => some (.error e)
    | .ok password =>
      openSlotsIndexed P data password (autoKdfCandidates K pim) (slots data.length)

variable {P}

private theorem indexed_of_le {data : Bytes} {off n : ℕ} (h : off + n ≤ data.length) :
    indexed data off n = some (slice data off n) := if_pos h

private theorem indexed_zero {data : Bytes} {n : ℕ} (h : n ≤ data.length) :
    indexed data 0 n = some (data.take n) := by
  rw [indexed_of_le (by omega), slice, List.drop_zero]

theorem tryDecryptIndexed_eq {data : Bytes} (h : volumeHeaderEffectiveSize ≤ data.length)
    (cipher : CipherType) (key : Bytes) (kdf : KdfCandidate) (isBackup : Bool) :
    tryDecryptIndexed P data cipher key kdf isBackup =
      some (tryDecrypt P data cipher key kdf isBackup) := by
  have hsalt : pkcs5SaltSize ≤ data.length := le_trans (by decide) h
  simp only [tryDecryptIndexed, tryDecrypt, indexed_zero h, indexed_zero hsalt]
  rcases hdecrypt : decryptHeaderArea P key cipher (data.take volumeHeaderEffectiveSize)
    with ⟨e | u, decrypted⟩
  · simp [hdecrypt]
  · cases hparse : deserializeHeader decrypted with
    | error e => simp [hdecrypt, hparse]
    | ok header =>
      by_cases hkey : header.masterKeydata.length < cipher.keySize * 2
      · simp [hdecrypt, hparse, hkey]
      · simp [hdecrypt, hparse, hkey, indexed_zero (not_lt.mp hkey), openResult]

theorem tryCiphersIndexed_eq {header key : Bytes}
    (hheader : volumeHeaderEffectiveSize ≤ header.length) (hkey : key.length = maxHeaderKeySize)
    (kdf : KdfCandidate) (isBackup : Bool) (ciphers : List CipherType) :
    tryCiphersIndexed P header key kdf isBackup ciphers =
      some (ciphers.findSome? fun cipher =>
        (tryDecrypt P header cipher (key.take (cipher.keySize * 2)) kdf isBackup).toOption) := by
  induction ciphers with
  | nil => rfl
  | cons cipher ciphers ih =>
    have hcut : cipher.keySize * 2 ≤ key.length := by
      have hsize := keySize_le cipher
      rw [hkey, maxHeaderKeySize]
      omega
    rw [tryCiphersIndexed, indexed_zero hcut, List.findSome?_cons]
    simp only [Option.bind_eq_bind, Option.bind_some, tryDecryptIndexed_eq hheader]
    cases tryDecrypt P header cipher (key.take (cipher.keySize * 2)) kdf isBackup with
    | error e => exact ih
    | ok result => rfl

theorem tryKdfsIndexed_eq {header password : Bytes}
    (hheader : volumeHeaderEffectiveSize ≤ header.length) (isBackup : Bool)
    (candidates : List KdfCandidate) :
    tryKdfsIndexed P header password (header.take pkcs5SaltSize) isBackup candidates =
      some (candidates.findSome? (tryKdf P header password isBackup)) := by
  induction candidates with
  | nil => rfl
  | cons kdf candidates ih =>
    rw [tryKdfsIndexed, List.findSome?_cons, tryKdf]
    cases hkey : kdf.implementation.derive password (header.take pkcs5SaltSize) kdf.iterations
        maxHeaderKeySize with
    | error e => exact ih
    | ok key =>
      simp only [tryCiphersIndexed_eq hheader (kdf.implementation.derive_length hkey),
        Option.bind_eq_bind, Option.bind_some, tryCiphers]
      cases CipherType.allSupported.findSome? fun cipher =>
          (tryDecrypt P header cipher (key.take (cipher.keySize * 2)) kdf isBackup).toOption with
      | none => exact ih
      | some result => rfl

theorem tryOpenIndexed_eq (header password : Bytes) (candidates : List KdfCandidate)
    (isBackup : Bool) : tryOpenIndexed P header password candidates isBackup =
      some (tryOpen P header password candidates isBackup) := by
  rw [tryOpenIndexed, tryOpen]
  split_ifs with hshort
  · rfl
  · have hlong : volumeHeaderEffectiveSize ≤ header.length := not_lt.mp hshort
    have hsalt : pkcs5SaltSize ≤ header.length := le_trans (by decide) hlong
    simp only [indexed_zero hsalt, tryKdfsIndexed_eq hlong, Option.bind_eq_bind, Option.bind_some]
    cases candidates.findSome? (tryKdf P header password isBackup) <;> rfl

/-- No slice of the search leaves its buffer. -/
theorem openSlotsIndexed_eq (data password : Bytes) (candidates : List KdfCandidate)
    (slots : List (HeaderLayout × ℕ)) : openSlotsIndexed P data password candidates slots =
      some (openSlots P data password candidates slots) := by
  induction slots with
  | nil => rfl
  | cons slot slots ih =>
    rw [openSlotsIndexed, openSlots]
    split_ifs with hshort
    · exact ih
    · have hpos : 0 < volumeHeaderEffectiveSize := by decide
      have hin : slot.2 + min slot.1.readSize (data.length - slot.2) ≤ data.length := by omega
      rw [indexed_of_le hin, ← slotHeader]
      simp only [Option.bind_eq_bind, Option.bind_some, tryOpenIndexed_eq]
      cases tryOpen P (slotHeader data slot) password candidates (slotIsBackup slot) with
      | ok result => rfl
      | error e =>
        cases e with
        | authFailed msg => exact ih
        | _ => rfl

theorem openVolumeFileIndexed_eq (K : KdfLibrary) (file : Except String Bytes)
    (credentials : Credentials) (pim : Option Int32) :
    openVolumeFileIndexed P K file credentials pim =
      some (openVolumeFile P K file credentials pim) := by
  cases file with
  | error e => rfl
  | ok data =>
    simp only [openVolumeFileIndexed, openVolumeFile, openVolumeWith]
    cases credentials.mixed with
    | error e => rfl
    | ok password => exact openSlotsIndexed_eq data password _ _

end Indexing

section Combinations

/-- A header in a slot of a layout, with the key that opens it. -/
structure Combination where
  layout : HeaderLayout
  offset : ℕ
  kdf : KdfCandidate
  cipher : CipherType

/-- Every slot of a layout, the primary one first, also when they coincide. -/
def layoutOffsets (layout : HeaderLayout) : List ℕ :=
  layout.headerOffset :: layout.backupOffset.toList

def combinations (fileSize : ℕ) (kdfs : List KdfCandidate) : List Combination :=
  (HeaderLayout.candidates fileSize).flatMap fun layout =>
    (layoutOffsets layout).flatMap fun offset =>
      kdfs.flatMap fun kdf => CipherType.allSupported.map fun cipher =>
        ⟨layout, offset, kdf, cipher⟩

variable (P : CipherSuite) (data password : Bytes)

/-- The header that 512 bytes of the file decrypt to. -/
def decryptedHeader (offset : ℕ) (kdf : KdfCandidate) (cipher : CipherType) :
    Option VolumeHeader :=
  if offset + volumeHeaderEffectiveSize ≤ data.length then
    match kdf.implementation.derive password (slice data offset pkcs5SaltSize) kdf.iterations
        maxHeaderKeySize with
    | .error _ => none
    | .ok key =>
      match decryptHeaderArea P (key.take (cipher.keySize * 2)) cipher
          (slice data offset volumeHeaderEffectiveSize) with
      | (.error _, _) => none
      | (.ok (), decrypted) => (deserializeHeader decrypted).toOption
  else none

/-- What a combination opens to. Its header is a backup unless it is in the primary slot. -/
def Combination.result (c : Combination) (header : VolumeHeader) : OpenResult :=
  openResult c.cipher c.kdf (slice data c.offset pkcs5SaltSize) header
    (c.offset ≠ c.layout.headerOffset)

/-- The first combination with a header. -/
def firstOpening (kdfs : List KdfCandidate) : Option OpenResult :=
  (combinations data.length kdfs).findSome? fun c =>
    (decryptedHeader P data password c.offset c.kdf c.cipher).map (c.result data)

end Combinations

section Search
variable {P : CipherSuite} {data password : Bytes}

private theorem attemptOn_slice {offset : ℕ}
    (hin : offset + volumeHeaderEffectiveSize ≤ data.length)
    (isBackup : Bool) (kdf : KdfCandidate) (cipher : CipherType) :
    attemptOn P password (slice data offset volumeHeaderEffectiveSize) isBackup kdf cipher =
      (decryptedHeader P data password offset kdf cipher).map fun header =>
        openResult cipher kdf (slice data offset pkcs5SaltSize) header isBackup := by
  have hsalt : (slice data offset volumeHeaderEffectiveSize).take pkcs5SaltSize =
      slice data offset pkcs5SaltSize := by
    rw [slice, List.take_take]
    rfl
  have hwhole : (slice data offset volumeHeaderEffectiveSize).take volumeHeaderEffectiveSize =
      slice data offset volumeHeaderEffectiveSize := by
    rw [slice, List.take_take, Nat.min_self]
  rw [attemptOn, decryptedHeader, if_pos hin, hsalt]
  cases kdf.implementation.derive password (slice data offset pkcs5SaltSize) kdf.iterations
    maxHeaderKeySize with
  | error e => rfl
  | ok key =>
    simp only [tryDecrypt, hwhole, hsalt]
    rcases hdecrypt : decryptHeaderArea P (key.take (cipher.keySize * 2)) cipher
      (slice data offset volumeHeaderEffectiveSize) with ⟨e | u, decrypted⟩
    · rfl
    · cases hparse : deserializeHeader decrypted with
      | error e =>
        simp only [hparse]
        rfl
      | ok header =>
        obtain ⟨-, -, hkeydata, -⟩ := deserializeHeader_eq_ok hparse
        have hsize := keySize_le cipher
        have hroom : ¬ header.masterKeydata.length < cipher.keySize * 2 := by
          rw [hkeydata, masterKeydataSize]
          omega
        simp only [hparse, if_neg hroom]
        rfl

/-- An attempt of the search on a slot of a layout. -/
private theorem attempt_slot {layout : HeaderLayout} {fileSize : ℕ}
    (hlayout : layout ∈ HeaderLayout.candidates fileSize) (offset : ℕ) (kdf : KdfCandidate)
    (cipher : CipherType) : attempt P data password ⟨(layout, offset), kdf, cipher⟩ =
      (decryptedHeader P data password offset kdf cipher).map fun header =>
        openResult cipher kdf (slice data offset pkcs5SaltSize) header
          (slotIsBackup (layout, offset)) := by
  have hread : volumeHeaderEffectiveSize ≤ layout.readSize := by
    have hsizes : volumeHeaderEffectiveSize ≤ volumeHeaderSize := by decide
    simp only [HeaderLayout.candidates, List.mem_cons, List.not_mem_nil, or_false] at hlayout
    rcases hlayout with rfl | rfl | rfl
    · exact hsizes
    · exact le_refl 512
    · exact hsizes
  by_cases hin : offset + volumeHeaderEffectiveSize ≤ data.length
  · rw [attempt_eq hin hread]
    exact attemptOn_slice hin _ kdf cipher
  · have hpos : 0 < volumeHeaderEffectiveSize := by decide
    have hshort : (slotHeader data (layout, offset)).length < volumeHeaderEffectiveSize := by
      rw [length_slotHeader]
      simp only
      omega
    rw [attempt, if_pos hshort, decryptedHeader, if_neg hin]
    rfl

/-- What the slot at `offset` opens to, with the label of a primary header. -/
def opened (P : CipherSuite) (data password : Bytes) (kdfs : List KdfCandidate) (offset : ℕ) :
    Option OpenResult :=
  kdfs.findSome? fun kdf => CipherType.allSupported.findSome? fun cipher =>
    (decryptedHeader P data password offset kdf cipher).map fun header =>
      openResult cipher kdf (slice data offset pkcs5SaltSize) header false

def labelled (isBackup : Bool) (r : OpenResult) : OpenResult :=
  { r with usedBackupHeader := isBackup }

/-- The label is only recorded in the result. -/
private theorem findSome?_labelled (kdfs : List KdfCandidate) (offset : ℕ) (isBackup : Bool) :
    (kdfs.findSome? fun kdf => CipherType.allSupported.findSome? fun cipher =>
      (decryptedHeader P data password offset kdf cipher).map fun header =>
        openResult cipher kdf (slice data offset pkcs5SaltSize) header isBackup) =
      (opened P data password kdfs offset).map (labelled isBackup) := by
  rw [opened, List.map_findSome?]
  congr 1
  funext kdf
  rw [Function.comp_apply, List.map_findSome?]
  congr 1
  funext cipher
  rw [Function.comp_apply, Option.map_map]
  rfl

/-- Nothing opens behind the end of the file. -/
private theorem opened_of_le {kdfs : List KdfCandidate} {offset : ℕ} (h : data.length ≤ offset) :
    opened P data password kdfs offset = none := by
  have hpos : 0 < volumeHeaderEffectiveSize := by decide
  have hout : ¬ offset + volumeHeaderEffectiveSize ≤ data.length := by omega
  rw [opened, List.findSome?_eq_none_iff]
  intro kdf _
  rw [List.findSome?_eq_none_iff]
  intro cipher _
  rw [decryptedHeader, if_neg hout, Option.map_none]

theorem opened_eq_none_iff {kdfs : List KdfCandidate} {offset : ℕ} :
    opened P data password kdfs offset = none ↔
      ∀ kdf ∈ kdfs, ∀ cipher, decryptedHeader P data password offset kdf cipher = none := by
  simp only [opened, List.findSome?_eq_none_iff, Option.map_eq_none_iff]
  exact forall₂_congr fun kdf _ => ⟨fun h cipher => h cipher (mem_allSupported cipher),
    fun h cipher _ => h cipher⟩

/-- A slot that coincides with the primary one of its layout adds nothing. -/
private theorem candidateOffsets_findSome? {β : Type} (layout : HeaderLayout) {fileSize : ℕ}
    {f : ℕ → Option β} (hout : ∀ offset, fileSize ≤ offset → f offset = none) :
    (candidateOffsets layout fileSize).findSome? f = (layoutOffsets layout).findSome? f := by
  rw [candidateOffsets, layoutOffsets]
  cases layout.backupOffset with
  | none => rfl
  | some backup =>
    simp only [Option.toList_some]
    split_ifs with h
    · rfl
    · rw [List.findSome?_cons, List.findSome?_cons]
      cases hfirst : f layout.headerOffset with
      | some r => rfl
      | none =>
        rw [List.findSome?_cons]
        have hbackup : f backup = none := by
          by_cases hin : backup < fileSize
          · rw [not_not.mp fun hne => h ⟨hin, hne⟩, hfirst]
          · exact hout backup (not_lt.mp hin)
        rw [hbackup]

/-- Every slot of every layout. -/
def allSlots (fileSize : ℕ) : List (HeaderLayout × ℕ) :=
  (HeaderLayout.candidates fileSize).flatMap fun layout => (layoutOffsets layout).map (layout, ·)

/-- What the opener returns, slot by slot. -/
theorem openSlots_eq_opened (kdfs : List KdfCandidate) :
    openSlots P data password kdfs (slots data.length) =
      match (allSlots data.length).findSome? fun slot =>
        (opened P data password kdfs slot.2).map (labelled (slotIsBackup slot)) with
      | some result => .ok result
      | none => .error (.authFailed "Password incorrect or volume corrupted") := by
  have hslots : (attempts kdfs (slots data.length)).findSome? (attempt P data password) =
      (slots data.length).findSome? fun slot =>
        (opened P data password kdfs slot.2).map (labelled (slotIsBackup slot)) := by
    rw [findSome?_attempts_eq]
    apply findSome?_congr
    intro slot hslot
    obtain ⟨layout, hlayout, hoffset⟩ := List.mem_flatMap.mp hslot
    obtain ⟨offset, -, rfl⟩ := List.mem_map.mp hoffset
    simp only [attempt_slot hlayout, findSome?_labelled]
  have hall : ((slots data.length).findSome? fun slot =>
        (opened P data password kdfs slot.2).map (labelled (slotIsBackup slot))) =
      (allSlots data.length).findSome? fun slot =>
        (opened P data password kdfs slot.2).map (labelled (slotIsBackup slot)) := by
    rw [slots, allSlots, findSome?_flatMap, findSome?_flatMap]
    congr 1
    funext layout
    rw [List.findSome?_map, List.findSome?_map]
    apply candidateOffsets_findSome?
    intro offset hout
    rw [Function.comp_apply, opened_of_le hout, Option.map_none]
  have hopen := @openSlots_eq P data password kdfs (slots data.length)
  rw [hslots.trans hall] at hopen
  exact hopen

theorem firstOpening_eq (kdfs : List KdfCandidate) : firstOpening P data password kdfs =
    (allSlots data.length).findSome? fun slot =>
      (opened P data password kdfs slot.2).map (labelled (slot.2 ≠ slot.1.headerOffset)) := by
  rw [firstOpening, combinations, allSlots, findSome?_flatMap, findSome?_flatMap]
  congr 1
  funext layout
  rw [findSome?_flatMap, List.findSome?_map]
  congr 1
  funext offset
  rw [findSome?_flatMap, Function.comp_apply, ← findSome?_labelled]
  simp only [List.findSome?_map]
  rfl

end Search

section Labels
variable (P : CipherSuite) (K : KdfLibrary) (data : Bytes) (credentials : Credentials)
  (pim : Option Int32)

/-- The promise of the search: no panic, and the first combination that opens, with its label. -/
structure SearchCorrect : Prop where
  inBounds : openVolumeFileIndexed P K (.ok data) credentials pim =
    some (openVolumeFile P K (.ok data) credentials pim)
  result : ∃ password, credentials.mixed = .ok password ∧
    openVolumeFile P K (.ok data) credentials pim =
      match firstOpening P data password (autoKdfCandidates K pim) with
      | some r => .ok r
      | none => .error (.authFailed "Password incorrect or volume corrupted")

/-- No slot that is both the primary and the backup slot of its layout opens. -/
def NoSharedSlot : Prop :=
  ∀ password, credentials.mixed = .ok password →
    ∀ layout ∈ HeaderLayout.candidates data.length,
      layout.backupOffset = some layout.headerOffset →
        ∀ kdf ∈ autoKdfCandidates K pim, ∀ cipher,
          decryptedHeader P data password layout.headerOffset kdf cipher = none

def Readable (credentials : Credentials) : Prop :=
  ∀ keyfile ∈ credentials.keyfiles, ∃ bytes, keyfile = .ok bytes

variable {P K data credentials pim} {password : Bytes}

private theorem exists_mixKeyfiles {paths : List (Except String Bytes)}
    (h : ∀ keyfile ∈ paths, ∃ bytes, keyfile = .ok bytes) (pool : Bytes) (total : ℕ) :
    ∃ out, Keyfiles.mixKeyfiles pool total paths = .ok out := by
  induction paths generalizing pool total with
  | nil => exact ⟨pool, rfl⟩
  | cons keyfile paths ih =>
    obtain ⟨bytes, rfl⟩ := h keyfile List.mem_cons_self
    rw [Keyfiles.mixKeyfiles]
    split_ifs
    · exact ⟨pool, rfl⟩
    · exact ih (fun keyfile hmem => h keyfile (List.mem_cons_of_mem _ hmem)) _ _

theorem Readable.exists_mixed (h : Readable credentials) :
    ∃ password, credentials.mixed = .ok password := by
  rw [Credentials.mixed]
  split_ifs with hempty
  · exact ⟨credentials.password, rfl⟩
  · obtain ⟨pool, hpool⟩ := exists_mixKeyfiles h (List.replicate Keyfiles.poolSize 0) 0
    simp only [Keyfiles.applyKeyfiles, if_neg hempty, hpool]
    exact ⟨_, rfl⟩

private theorem openVolumeFile_eq (hmixed : credentials.mixed = .ok password) :
    openVolumeFile P K (.ok data) credentials pim =
      openSlots P data password (autoKdfCandidates K pim) (slots data.length) := by
  simp only [openVolumeFile, openVolumeWith, hmixed]

/-- A slot is labelled as it should be, or it is shared and nothing opens it. -/
private theorem labelled_slot (hshared : NoSharedSlot P K data credentials pim)
    (hmixed : credentials.mixed = .ok password) {slot : HeaderLayout × ℕ}
    (hslot : slot ∈ allSlots data.length) :
    (opened P data password (autoKdfCandidates K pim) slot.2).map (labelled (slotIsBackup slot)) =
      (opened P data password (autoKdfCandidates K pim) slot.2).map
        (labelled (slot.2 ≠ slot.1.headerOffset)) := by
  obtain ⟨layout, hlayout, hoffset⟩ := List.mem_flatMap.mp hslot
  obtain ⟨offset, hmem, rfl⟩ := List.mem_map.mp hoffset
  simp only [slotIsBackup]
  rcases List.mem_cons.mp hmem with rfl | hbackup
  · by_cases hsame : layout.backupOffset = some layout.headerOffset
    · rw [opened_eq_none_iff.mpr (hshared password hmixed layout hlayout hsame), Option.map_none,
        Option.map_none]
    · simp [hsame]
  · rw [Option.mem_toList] at hbackup
    by_cases hsame : offset = layout.headerOffset
    · rw [hsame] at hbackup ⊢
      rw [opened_eq_none_iff.mpr (hshared password hmixed layout hlayout hbackup), Option.map_none,
        Option.map_none]
    · simp [hbackup, hsame]

/-- A header in a shared slot is labelled a backup, although it is in the primary slot. -/
private theorem label_shared {kdfs : List KdfCandidate} {layout : HeaderLayout}
    (hlayout : layout ∈ HeaderLayout.candidates data.length)
    (hsame : layout.backupOffset = some layout.headerOffset) {r : OpenResult}
    (hopened : opened P data password kdfs layout.headerOffset = some r) :
    ∃ r, (allSlots data.length).findSome? (fun slot =>
        (opened P data password kdfs slot.2).map (labelled (slotIsBackup slot))) =
          some (labelled true r) ∧
      (allSlots data.length).findSome? (fun slot =>
        (opened P data password kdfs slot.2).map (labelled (slot.2 ≠ slot.1.headerOffset))) =
          some (labelled false r) := by
  have hpos : 0 < volumeHeaderSize := by decide
  have hall : allSlots data.length = [(.v2Normal data.length, 0),
      (.v2Normal data.length, data.length - 2 * volumeHeaderSize), (.v1Legacy, 0),
      (.v2Hidden data.length, volumeHeaderSize),
      (.v2Hidden data.length, data.length - volumeHeaderSize)] := rfl
  have hcases : (layout.headerOffset = 0 ∧ data.length - 2 * volumeHeaderSize = 0) ∨
      (layout.headerOffset = volumeHeaderSize ∧
        data.length - volumeHeaderSize = volumeHeaderSize) := by
    simp only [HeaderLayout.candidates, List.mem_cons, List.not_mem_nil, or_false] at hlayout
    rcases hlayout with rfl | rfl | rfl
    · exact Or.inl ⟨rfl, Option.some.inj hsame⟩
    · cases hsame
    · exact Or.inr ⟨rfl, Option.some.inj hsame⟩
  have hnormal : data.length - 2 * volumeHeaderSize = 0 := by omega
  rw [hall, hnormal]
  cases hzero : opened P data password kdfs 0 with
  | some r₀ =>
    refine ⟨r₀, ?_, ?_⟩
    · simp [hzero, slotIsBackup, HeaderLayout.v2Normal, hnormal]
    · simp [hzero, HeaderLayout.v2Normal]
  | none =>
    have hhidden : data.length - volumeHeaderSize = volumeHeaderSize ∧
        opened P data password kdfs volumeHeaderSize = some r := by
      rcases hcases with ⟨hfirst, -⟩ | ⟨hsecond, hback⟩
      · rw [hfirst, hzero] at hopened
        cases hopened
      · rw [hsecond] at hopened
        exact ⟨hback, hopened⟩
    refine ⟨r, ?_, ?_⟩
    · simp [hzero, hhidden, slotIsBackup, HeaderLayout.v2Hidden]
    · simp [hzero, hhidden, HeaderLayout.v2Hidden]

theorem noSharedSlot_of_searchCorrect (h : SearchCorrect P K data credentials pim) :
    NoSharedSlot P K data credentials pim := by
  obtain ⟨-, password, hmixed, hresult⟩ := h
  intro password' hmixed' layout hlayout hsame
  obtain rfl := Except.ok.inj (hmixed.symm.trans hmixed')
  rw [← opened_eq_none_iff]
  cases hopened : opened P data password (autoKdfCandidates K pim) layout.headerOffset with
  | none => rfl
  | some r =>
    obtain ⟨r₀, hlabelled, hfirst⟩ := label_shared hlayout hsame hopened
    rw [openVolumeFile_eq hmixed, openSlots_eq_opened, firstOpening_eq, hlabelled, hfirst]
      at hresult
    have hlabels := congrArg OpenResult.usedBackupHeader (Except.ok.inj hresult)
    cases hlabels

theorem searchCorrect_of_noSharedSlot (hmixed : credentials.mixed = .ok password)
    (h : NoSharedSlot P K data credentials pim) : SearchCorrect P K data credentials pim := by
  refine ⟨openVolumeFileIndexed_eq K _ credentials pim, password, hmixed, ?_⟩
  have hslots := findSome?_congr fun slot hslot => labelled_slot h hmixed hslot
  rw [openVolumeFile_eq hmixed, openSlots_eq_opened, firstOpening_eq, hslots]

end Labels

/-- The search finds what it should, and labels it so exactly when nothing opens a slot that
is the primary and the backup slot of its layout at once. -/
theorem searchCorrect_iff (P : CipherSuite) (K : KdfLibrary) (data : Bytes)
    (credentials : Credentials) (pim : Option Int32) (hreadable : Readable credentials) :
    SearchCorrect P K data credentials pim ↔ NoSharedSlot P K data credentials pim := by
  obtain ⟨password, hmixed⟩ := hreadable.exists_mixed
  constructor
  · exact noSharedSlot_of_searchCorrect
  · exact searchCorrect_of_noSharedSlot hmixed

/-- In a file longer than two headers no slot is shared. -/
theorem noSharedSlot_of_long {P : CipherSuite} {K : KdfLibrary} {data : Bytes}
    {credentials : Credentials} {pim : Option Int32} (h : 2 * volumeHeaderSize < data.length) :
    NoSharedSlot P K data credentials pim := by
  intro password _ layout hlayout hsame
  simp only [HeaderLayout.candidates, List.mem_cons, List.not_mem_nil, or_false] at hlayout
  rcases hlayout with rfl | rfl | rfl
  · have hzero : data.length - 2 * volumeHeaderSize = 0 := Option.some.inj hsame
    omega
  · cases hsame
  · have hmiddle : data.length - volumeHeaderSize = volumeHeaderSize := Option.some.inj hsame
    omega

section Sample

theorem searchCorrect_sampleFile :
    SearchCorrect maskingSuite fittingLibrary (sampleFile 0x6F) ⟨[0x6F, 0x6F], []⟩ (some 1) := by
  obtain ⟨hlen, -⟩ := sampleFile_spec 0x6F
  have hlong : 2 * volumeHeaderSize < (sampleFile 0x6F).length := by
    rw [hlen]
    decide
  exact (searchCorrect_iff maskingSuite fittingLibrary (sampleFile 0x6F) ⟨[0x6F, 0x6F], []⟩ (some 1)
    (by simp [Readable])).mpr (noSharedSlot_of_long hlong)

/-- A file that is one header long: its header is found in the primary slot, and labelled a
backup. -/
theorem outerSlot_labelled_backup :
    ¬ SearchCorrect maskingSuite fittingLibrary (outerSlot 0x6F) ⟨[0x6F, 0x6F], []⟩ (some 1) := by
  obtain ⟨hlen, htake⟩ := slotBytes_zeroChain (saltOf 0x6F 0x6F) outerHeader
  rw [← outerSlot] at hlen htake
  intro h
  have hshared : HeaderLayout.v2Normal (outerSlot 0x6F).length ∈
      HeaderLayout.candidates (outerSlot 0x6F).length := List.mem_cons_self
  have hbackup : (HeaderLayout.v2Normal (outerSlot 0x6F).length).backupOffset =
      some (HeaderLayout.v2Normal (outerSlot 0x6F).length).headerOffset := by
    rw [hlen]
    rfl
  have hnone : decryptedHeader maskingSuite (outerSlot 0x6F) [0x6F, 0x6F] 0
      (makeKdfCandidate fittingLibrary .pbkdf2Sha512 1) .aes = none :=
    noSharedSlot_of_searchCorrect h [0x6F, 0x6F] rfl _ hshared hbackup _
      (List.mem_map_of_mem (mem_autoKdfOrder .pbkdf2Sha512)) .aes
  have hfit : (saltOf 0x6F 0x6F).1.take 2 = [0x6F, 0x6F] := rfl
  have haccepts := accepts_fitting 1 (saltOf 0x6F 0x6F) hfit wellformed_outerHeader false
  have hin : 0 + volumeHeaderEffectiveSize ≤ (outerSlot 0x6F).length := by
    rw [hlen]
    decide
  have hhead : slice (outerSlot 0x6F) 0 volumeHeaderEffectiveSize =
      (saltOf 0x6F 0x6F).1 ++ encryptedArea outerHeader := by
    rw [← htake, slice, List.drop_zero]
  rw [← hhead, attemptOn_slice hin, hnone] at haccepts
  cases haccepts

end Sample

end Oxhide.HeaderSearch
