import Oxhide.HeaderEncryption
import Oxhide.KeyDerivation
import Oxhide.Keyfiles

/-! # Opening a volume file

The opener walks over the header slots of a file; on each it tries every key
derivation and with its key every cipher, and it returns the first header that
parses. A slot that nothing opens is passed over. -/
namespace Oxhide.VolumeOpening
open BlockCiphers CipherChain CipherTypes HeaderEncryption HeaderFormat KeyDerivation ListSplice
  VolumeErrors WordBytes Xts

inductive VolumeType where
  | normal
  | hidden
  deriving DecidableEq, Repr

structure HeaderLayout where
  headerOffset : ℕ
  backupOffset : Option ℕ
  readSize : ℕ
  name : String
  volumeType : VolumeType
  deriving DecidableEq, Repr

namespace HeaderLayout

def v2Normal (fileSize : ℕ) : HeaderLayout where
  headerOffset := 0
  backupOffset := some (fileSize - 2 * volumeHeaderSize)
  readSize := volumeHeaderSize
  name := "V2 Normal"
  volumeType := .normal

def v1Legacy : HeaderLayout where
  headerOffset := 0
  backupOffset := none
  readSize := 512
  name := "V1 Legacy"
  volumeType := .normal

def v2Hidden (fileSize : ℕ) : HeaderLayout where
  headerOffset := volumeHeaderSize
  backupOffset := some (fileSize - volumeHeaderSize)
  readSize := volumeHeaderSize
  name := "V2 Hidden"
  volumeType := .hidden

def candidates (fileSize : ℕ) : List HeaderLayout :=
  [v2Normal fileSize, v1Legacy, v2Hidden fileSize]

end HeaderLayout

def candidateOffsets (layout : HeaderLayout) (fileSize : ℕ) : List ℕ :=
  match layout.backupOffset with
  | some backup =>
    if backup < fileSize ∧ backup ≠ layout.headerOffset then [layout.headerOffset, backup]
    else [layout.headerOffset]
  | none => [layout.headerOffset]

structure OpenResult where
  headerCipher : CipherType
  dataCipher : CipherType
  kdf : KdfAlgorithm
  pim : Int32
  iterations : UInt32
  memoryCostKib : Option UInt32
  masterKey : Bytes
  dataOffset : UInt64
  dataLength : UInt64
  salt : Bytes
  header : VolumeHeader
  usedBackupHeader : Bool
  volumeType : VolumeType
  deriving DecidableEq

def maxHeaderKeySize : ℕ := 192

/-- What a parsed header says about the volume. -/
def openResult (headerCipher : CipherType) (kdf : KdfCandidate) (salt : Bytes)
    (header : VolumeHeader) (isBackup : Bool) : OpenResult where
  headerCipher := headerCipher
  dataCipher := headerCipher
  kdf := kdf.algorithm
  pim := kdf.pim
  iterations := kdf.iterations
  memoryCostKib := kdf.memoryCostKib
  masterKey := header.masterKeydata.take (headerCipher.keySize * 2)
  dataOffset := header.encryptedAreaStart
  dataLength :=
    if header.encryptedAreaLength > 0 then header.encryptedAreaLength else header.volumeSize
  salt := salt
  header := header
  usedBackupHeader := isBackup
  volumeType := if header.hiddenVolumeSize ≠ 0 then .hidden else .normal

section Search
variable (P : CipherSuite)

/-- One attempt: decrypt the header area and parse it. The data cipher is always
inferred to be the header cipher. -/
def tryDecrypt (data : Bytes) (headerCipher : CipherType) (headerKey : Bytes) (kdf : KdfCandidate)
    (isBackup : Bool) : Except VolumeError OpenResult :=
  match decryptHeaderArea P headerKey headerCipher (data.take volumeHeaderEffectiveSize) with
  | (.error _, _) => .error (.authFailed "header decrypt")
  | (.ok (), decrypted) =>
    match deserializeHeader decrypted with
    | .error _ => .error (.authFailed "header parse")
    | .ok header =>
      if header.masterKeydata.length < headerCipher.keySize * 2 then
        let name := headerCipher.name
        .error (.invalidFormat s!"Master key area too small for {name}")
      else
        .ok (openResult headerCipher kdf (data.take pkcs5SaltSize) header isBackup)

/-- Every cipher with its part of one derived key. -/
def tryCiphers (header key : Bytes) (kdf : KdfCandidate) (isBackup : Bool) : Option OpenResult :=
  CipherType.allSupported.findSome? fun cipher =>
    (tryDecrypt P header cipher (key.take (cipher.keySize * 2)) kdf isBackup).toOption

/-- One key derivation; its failure passes on to the next one. -/
def tryKdf (header password : Bytes) (isBackup : Bool) (kdf : KdfCandidate) : Option OpenResult :=
  match kdf.implementation.derive password (header.take pkcs5SaltSize) kdf.iterations
      maxHeaderKeySize with
  | .error _ => none
  | .ok key => tryCiphers P header key kdf isBackup

def tryOpen (header password : Bytes) (candidates : List KdfCandidate) (isBackup : Bool) :
    Except VolumeError OpenResult :=
  if header.length < volumeHeaderEffectiveSize then
    .error (.invalidFormat "Header too small")
  else
    match candidates.findSome? (tryKdf P header password isBackup) with
    | some result => .ok result
    | none => .error (.authFailed "Password incorrect or volume corrupted")

/-- The slots in the order in which they are tried, with the layout they belong to. -/
def slots (fileSize : ℕ) : List (HeaderLayout × ℕ) :=
  (HeaderLayout.candidates fileSize).flatMap fun layout =>
    (candidateOffsets layout fileSize).map (layout, ·)

def slotHeader (data : Bytes) (slot : HeaderLayout × ℕ) : Bytes :=
  slice data slot.2 (min slot.1.readSize (data.length - slot.2))

def slotIsBackup (slot : HeaderLayout × ℕ) : Bool := slot.1.backupOffset = some slot.2

/-- The loop over the slots. -/
def openSlots (data password : Bytes) (candidates : List KdfCandidate) :
    List (HeaderLayout × ℕ) → Except VolumeError OpenResult
  | [] => .error (.authFailed "Password incorrect or volume corrupted")
  | slot :: rest =>
    let readSize := min slot.1.readSize (data.length - slot.2)
    if readSize < volumeHeaderEffectiveSize then
      openSlots data password candidates rest
    else
      match tryOpen P (slotHeader data slot) password candidates (slotIsBackup slot) with
      | .ok result => .ok result
      | .error (.authFailed _) => openSlots data password candidates rest
      | .error e => .error e

/-- A password with its keyfiles, the latter given by the outcome of reading them. -/
structure Credentials where
  password : Bytes
  keyfiles : List (Except String Bytes)

def Credentials.mixed (credentials : Credentials) : Except VolumeError Bytes :=
  if credentials.keyfiles.isEmpty then .ok credentials.password
  else (Keyfiles.applyKeyfiles credentials.password credentials.keyfiles).mapError fun e =>
    .cryptoError s!"keyfile: {e}"

variable (K : KdfLibrary)

/-- Both openers read the whole file first. -/
def openVolumeWith (file : Except String Bytes) (credentials : Credentials)
    (candidates : List KdfCandidate) : Except VolumeError OpenResult :=
  match file with
  | .error e => .error (.openError s!"read: {e}")
  | .ok data =>
    match credentials.mixed with
    | .error e => .error e
    | .ok password => openSlots P data password candidates (slots data.length)

def openVolumeFileWithKdf (file : Except String Bytes) (credentials : Credentials)
    (kdf : KdfAlgorithm) (pim : Int32) : Except VolumeError OpenResult :=
  openVolumeWith P file credentials [makeKdfCandidate K kdf pim]

def openVolumeFile (file : Except String Bytes) (credentials : Credentials)
    (pim : Option Int32) : Except VolumeError OpenResult :=
  openVolumeWith P file credentials (autoKdfCandidates K pim)

end Search

end Oxhide.VolumeOpening
