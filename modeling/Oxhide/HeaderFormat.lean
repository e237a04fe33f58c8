import Oxhide.Crc32
import Oxhide.FieldBytes
import Oxhide.VolumeErrors

/-! # The volume header and its serialized form

A header is a 64-byte salt followed by an area of 448 bytes: big-endian fields,
a checksum over them, and the key data with a checksum of its own among the
fields. Reading back what was serialized restores every field, with the two
checksums filled in and the key data padded. -/
namespace Oxhide.HeaderFormat
open Crc32 FieldBytes ListSplice VolumeErrors WordBytes

def volumeHeaderSize : ℕ := 65536
def volumeHeaderEffectiveSize : ℕ := 512
def pkcs5SaltSize : ℕ := 64
def encryptedHeaderSize : ℕ := volumeHeaderEffectiveSize - pkcs5SaltSize
def masterKeydataSize : ℕ := 256
def volumeMagic : UInt32 := 0x56455241
def currentHeaderVersion : UInt16 := 0x0005

/-! Offsets within the encrypted area. -/

namespace Offsets

def magic : ℕ := 0
def headerVersion : ℕ := 4
def requiredVersion : ℕ := 6
def keyAreaCrc : ℕ := 8
def volumeCreationTime : ℕ := 12
def modificationTime : ℕ := 20
def hiddenVolumeSize : ℕ := 28
def volumeSize : ℕ := 36
def encryptedAreaStart : ℕ := 44
def encryptedAreaLength : ℕ := 52
def flags : ℕ := 60
def sectorSize : ℕ := 64
def headerCrc : ℕ := 188
def masterKeydata : ℕ := 192

end Offsets

structure VolumeHeader where
  salt : Bytes
  salt_length : salt.length = pkcs5SaltSize
  magic : UInt32
  headerVersion : UInt16
  requiredVersion : UInt16
  keyAreaCrc : UInt32
  volumeCreationTime : UInt64
  modificationTime : UInt64
  hiddenVolumeSize : UInt64
  volumeSize : UInt64
  encryptedAreaStart : UInt64
  encryptedAreaLength : UInt64
  flags : UInt32
  sectorSize : UInt32
  masterKeydata : Bytes
  headerCrc : UInt32
  deriving DecidableEq, Repr

theorem length_zeroSalt : (List.replicate pkcs5SaltSize (0 : UInt8)).length = pkcs5SaltSize :=
  List.length_replicate

def VolumeHeader.new : VolumeHeader where
  salt := List.replicate pkcs5SaltSize 0
  salt_length := length_zeroSalt
  magic := volumeMagic
  headerVersion := currentHeaderVersion
  requiredVersion := 0x010b
  keyAreaCrc := 0
  volumeCreationTime := 0
  modificationTime := 0
  hiddenVolumeSize := 0
  volumeSize := 0
  encryptedAreaStart := 0
  encryptedAreaLength := 0
  flags := 0
  sectorSize := 512
  masterKeydata := List.replicate masterKeydataSize 0
  headerCrc := 0

section Serialize

/-- Zeros are pushed until the buffer has length `n`. -/
def fillTo (n : ℕ) (xs : Bytes) : Bytes := xs ++ List.replicate (n - xs.length) 0

def resize (n : ℕ) (xs : Bytes) : Bytes := (fillTo n xs).take n

/-- The fields up to the sector size, with a placeholder for the first checksum. -/
def writtenFields (header : VolumeHeader) : Bytes :=
  beBytes 4 header.magic.toNat ++ beBytes 2 header.headerVersion.toNat ++
    beBytes 2 header.requiredVersion.toNat ++ beBytes 4 0 ++
    beBytes 8 header.volumeCreationTime.toNat ++ beBytes 8 header.modificationTime.toNat ++
    beBytes 8 header.hiddenVolumeSize.toNat ++ beBytes 8 header.volumeSize.toNat ++
    beBytes 8 header.encryptedAreaStart.toNat ++ beBytes 8 header.encryptedAreaLength.toNat ++
    beBytes 4 header.flags.toNat ++ beBytes 4 header.sectorSize.toNat

/-- The 448 bytes that get encrypted. The checksum of the key area is stored before
the one of the fields, which covers it. -/
def encryptedArea (header : VolumeHeader) : Bytes :=
  let enc := writtenFields header
  let enc := fillTo Offsets.headerCrc enc
  let crcPos := enc.length
  let enc := fillTo Offsets.masterKeydata (enc ++ beBytes 4 0)
  let kdStart := enc.length
  let writeLen := min header.masterKeydata.length masterKeydataSize
  let enc := fillTo (kdStart + masterKeydataSize) (enc ++ header.masterKeydata.take writeLen)
  let enc := resize encryptedHeaderSize enc
  let keyCrc := crc32 (enc.drop kdStart)
  let enc := splice enc Offsets.keyAreaCrc (beBytes 4 keyCrc.toNat)
  let headerCrc := crc32 (enc.take crcPos)
  splice enc crcPos (beBytes 4 headerCrc.toNat)

/-- Writing into a growing buffer does not fail. -/
def serializeHeader (header : VolumeHeader) : Except FormatError Bytes :=
  .ok (header.salt ++ encryptedArea header)

def serializeHeaderFull (header : VolumeHeader) : Except FormatError Bytes := do
  let effective ← serializeHeader header
  return splice (List.replicate volumeHeaderSize 0) 0 effective

end Serialize

section Deserialize

def readU16 (enc : Bytes) (off : ℕ) : UInt16 := UInt16.ofNat (ofBeBytes (slice enc off 2))

def readU32 (enc : Bytes) (off : ℕ) : UInt32 := UInt32.ofNat (ofBeBytes (slice enc off 4))

def readU64 (enc : Bytes) (off : ℕ) : UInt64 := UInt64.ofNat (ofBeBytes (slice enc off 8))

def ValidSectorSize (sectorSize : UInt32) : Prop :=
  ¬ (sectorSize < 512 ∨ sectorSize > 4096 ∨ sectorSize % 512 ≠ 0)

instance (sectorSize : UInt32) : Decidable (ValidSectorSize sectorSize) :=
  inferInstanceAs (Decidable (¬ _))

/-- The header that the bytes describe when every check passes. -/
def parsedHeader (data : Bytes) (h : ¬ data.length < volumeHeaderEffectiveSize) : VolumeHeader :=
  let enc := slice data pkcs5SaltSize encryptedHeaderSize
  { salt := slice data 0 pkcs5SaltSize
    salt_length := length_slice_of_le (by
      rw [volumeHeaderEffectiveSize] at h
      rw [pkcs5SaltSize]
      omega)
    magic := volumeMagic
    headerVersion := readU16 enc Offsets.headerVersion
    requiredVersion := readU16 enc Offsets.requiredVersion
    keyAreaCrc := readU32 enc Offsets.keyAreaCrc
    volumeCreationTime := readU64 enc Offsets.volumeCreationTime
    modificationTime := readU64 enc Offsets.modificationTime
    hiddenVolumeSize := readU64 enc Offsets.hiddenVolumeSize
    volumeSize := readU64 enc Offsets.volumeSize
    encryptedAreaStart := readU64 enc Offsets.encryptedAreaStart
    encryptedAreaLength := readU64 enc Offsets.encryptedAreaLength
    flags := readU32 enc Offsets.flags
    sectorSize := readU32 enc Offsets.sectorSize
    masterKeydata := slice enc Offsets.masterKeydata masterKeydataSize
    headerCrc := readU32 enc Offsets.headerCrc }

def deserializeHeader (data : Bytes) : Except FormatError VolumeHeader :=
  if h : data.length < volumeHeaderEffectiveSize then
    .error (.invalidHeaderSize volumeHeaderEffectiveSize data.length)
  else
    let enc := slice data pkcs5SaltSize encryptedHeaderSize
    let magic := readU32 enc Offsets.magic
    let sectorSize := readU32 enc Offsets.sectorSize
    let storedCrc := readU32 enc Offsets.headerCrc
    let computedCrc := crc32 (enc.take Offsets.headerCrc)
    let keyAreaCrc := readU32 enc Offsets.keyAreaCrc
    let computedKeyCrc := crc32 (enc.drop Offsets.masterKeydata)
    if magic ≠ volumeMagic then .error (.invalidMagic volumeMagic magic)
    else if sectorSize < 512 ∨ sectorSize > 4096 ∨ sectorSize % 512 ≠ 0 then
      .error (.invalidHeaderSize 512 sectorSize.toNat)
    else if storedCrc ≠ computedCrc then .error (.invalidCrc computedCrc storedCrc)
    else if keyAreaCrc ≠ computedKeyCrc then .error (.invalidCrc computedKeyCrc keyAreaCrc)
    else .ok (parsedHeader data h)

end Deserialize

section RoundTrip

/-- The fields in front of the key data. -/
def headerFields (header : VolumeHeader) (keyCrc headerCrc : UInt32) : List (ℕ × ℕ) :=
  [(4, header.magic.toNat), (2, header.headerVersion.toNat), (2, header.requiredVersion.toNat),
    (4, keyCrc.toNat), (8, header.volumeCreationTime.toNat), (8, header.modificationTime.toNat),
    (8, header.hiddenVolumeSize.toNat), (8, header.volumeSize.toNat),
    (8, header.encryptedAreaStart.toNat), (8, header.encryptedAreaLength.toNat),
    (4, header.flags.toNat), (4, header.sectorSize.toNat), (120, 0), (4, headerCrc.toNat)]

def keyArea (header : VolumeHeader) : Bytes :=
  fillTo masterKeydataSize (header.masterKeydata.take masterKeydataSize)

def keyAreaChecksum (header : VolumeHeader) : UInt32 := crc32 (keyArea header)

def headerChecksum (header : VolumeHeader) : UInt32 :=
  crc32 ((fieldsBytes (headerFields header (keyAreaChecksum header) 0)).take Offsets.headerCrc)

theorem length_keyArea (header : VolumeHeader) : (keyArea header).length = masterKeydataSize := by
  rw [keyArea, fillTo, List.length_append, List.length_replicate, List.length_take]
  omega

theorem length_headerFields (header : VolumeHeader) (keyCrc headerCrc : UInt32) :
    (fieldsBytes (headerFields header keyCrc headerCrc)).length = Offsets.masterKeydata := by
  simp [length_fieldsBytes, headerFields, Offsets.masterKeydata]

private theorem fillTo_of_le {n : ℕ} {xs : Bytes} (h : n ≤ xs.length) : fillTo n xs = xs := by
  simp [fillTo, Nat.sub_eq_zero_of_le h]

private theorem resize_of_length {n : ℕ} {xs : Bytes} (h : xs.length = n) :
    resize n xs = xs := by
  rw [resize, fillTo_of_le h.ge, List.take_of_length_le h.le]

private theorem fillTo_fields (header : VolumeHeader) :
    fillTo Offsets.headerCrc (writtenFields header) ++ beBytes 4 0 =
      fieldsBytes (headerFields header 0 0) := by
  have hlen : (writtenFields header).length = Offsets.sectorSize + 4 := by
    simp [writtenFields, Offsets.sectorSize]
  rw [fillTo, hlen, ← beBytes_zero]
  simp [fieldsBytes, headerFields, writtenFields, Offsets.headerCrc, Offsets.sectorSize]

private theorem fillTo_keydata (header : VolumeHeader) (fields : Bytes) :
    fillTo (fields.length + masterKeydataSize)
        (fields ++ header.masterKeydata.take (min header.masterKeydata.length masterKeydataSize)) =
      fields ++ keyArea header := by
  have htake : header.masterKeydata.take (min header.masterKeydata.length masterKeydataSize) =
      header.masterKeydata.take masterKeydataSize := by
    rw [Nat.min_comm, ← List.take_take, List.take_length]
  rw [htake, keyArea, fillTo, fillTo, List.length_append, Nat.add_sub_add_left,
    List.append_assoc]

private theorem splice_keyAreaCrc (header : VolumeHeader) (crc : UInt32) (rest : Bytes) :
    splice (fieldsBytes (headerFields header 0 0) ++ rest) Offsets.keyAreaCrc
        (beBytes 4 crc.toNat) =
      fieldsBytes (headerFields header crc 0) ++ rest :=
  splice_fieldsBytes (show (headerFields header 0 0)[3]? = some (4, 0) from rfl) crc.toNat rest

private theorem splice_headerCrc (header : VolumeHeader) (keyCrc crc : UInt32) (rest : Bytes) :
    splice (fieldsBytes (headerFields header keyCrc 0) ++ rest) Offsets.headerCrc
        (beBytes 4 crc.toNat) =
      fieldsBytes (headerFields header keyCrc crc) ++ rest := by
  have hoffset : fieldOffset (headerFields header keyCrc 0) 13 = Offsets.headerCrc := by
    simp [fieldOffset, headerFields, Offsets.headerCrc]
  have hfield : (headerFields header keyCrc 0)[13]? = some (4, 0) := by
    simp [headerFields]
  have hset : (headerFields header keyCrc 0).set 13 (4, crc.toNat) =
      headerFields header keyCrc crc := by
    simp [headerFields]
  rw [← hoffset, splice_fieldsBytes hfield, hset]

/-- The serialized area is the row of fields with both checksums, then the key area. -/
theorem encryptedArea_eq (header : VolumeHeader) :
    encryptedArea header =
      fieldsBytes (headerFields header (keyAreaChecksum header) (headerChecksum header)) ++
        keyArea header := by
  have hlen (keyCrc : UInt32) := length_headerFields header keyCrc 0
  have hcrcPos : (fillTo Offsets.headerCrc (writtenFields header)).length =
      Offsets.headerCrc := by
    simp [fillTo, writtenFields, Offsets.headerCrc]
  have hresize : resize encryptedHeaderSize
        (fieldsBytes (headerFields header 0 0) ++ keyArea header) =
      fieldsBytes (headerFields header 0 0) ++ keyArea header := by
    apply resize_of_length
    rw [List.length_append, hlen, length_keyArea]
    decide
  have hkeyCrc : crc32 ((fieldsBytes (headerFields header 0 0) ++ keyArea header).drop
      Offsets.masterKeydata) = keyAreaChecksum header := by
    rw [← hlen 0, List.drop_left, keyAreaChecksum]
  have hheaderCrc : crc32 ((fieldsBytes (headerFields header (keyAreaChecksum header) 0) ++
      keyArea header).take Offsets.headerCrc) = headerChecksum header := by
    rw [List.take_append_of_le_length (by rw [hlen]; decide), headerChecksum]
  have hwhole := fillTo_of_le (n := Offsets.masterKeydata) (hlen 0).ge
  have hkeydata := fillTo_keydata header (fieldsBytes (headerFields header 0 0))
  rw [hlen] at hkeydata
  simp only [encryptedArea, hcrcPos, fillTo_fields, hwhole, hlen, hkeydata, hresize, hkeyCrc,
    splice_keyAreaCrc, hheaderCrc, splice_headerCrc]

theorem length_encryptedArea (header : VolumeHeader) :
    (encryptedArea header).length = encryptedHeaderSize := by
  rw [encryptedArea_eq, List.length_append, length_headerFields, length_keyArea]
  decide

/-- What reading back a serialized header gives, behind any salt. -/
def VolumeHeader.stored (header : VolumeHeader) (salt : Bytes) (h : salt.length = pkcs5SaltSize) :
    VolumeHeader :=
  { header with
    salt := salt
    salt_length := h
    keyAreaCrc := keyAreaChecksum header
    masterKeydata := keyArea header
    headerCrc := headerChecksum header }

/-- A header that was read back serializes to the same bytes. -/
theorem encryptedArea_stored (header : VolumeHeader) {salt : Bytes} (h : salt.length = pkcs5SaltSize) :
    encryptedArea (header.stored salt h) = encryptedArea header := by
  have hlen := length_keyArea header
  have hkeyArea : keyArea (header.stored salt h) = keyArea header := by
    rw [keyArea, VolumeHeader.stored, fillTo, List.take_of_length_le hlen.le, hlen, Nat.sub_self,
      List.replicate_zero, List.append_nil]
  have hchecksum : keyAreaChecksum (header.stored salt h) = keyAreaChecksum header := by
    rw [keyAreaChecksum, hkeyArea, keyAreaChecksum]
  rw [encryptedArea_eq, encryptedArea_eq, hkeyArea, headerChecksum, headerChecksum, hchecksum]
  rfl

section Fields
variable {header : VolumeHeader} {off : ℕ} (i : ℕ)

/-- The row of fields as it is stored. -/
def storedFields (header : VolumeHeader) : List (ℕ × ℕ) :=
  headerFields header (keyAreaChecksum header) (headerChecksum header)

private theorem slice_encryptedArea {w v : ℕ} (h : (storedFields header)[i]? = some (w, v))
    (hoff : fieldOffset (storedFields header) i = off) :
    slice (encryptedArea header) off w = beBytes w v := by
  rw [encryptedArea_eq, ← hoff]
  exact slice_fieldsBytes h _

private theorem readU16_encryptedArea {v : UInt16}
    (h : (storedFields header)[i]? = some (2, v.toNat))
    (hoff : fieldOffset (storedFields header) i = off) :
    readU16 (encryptedArea header) off = v := by
  rw [readU16, slice_encryptedArea i h hoff, ofNat_ofBeBytes_beBytes_16]

private theorem readU32_encryptedArea {v : UInt32}
    (h : (storedFields header)[i]? = some (4, v.toNat))
    (hoff : fieldOffset (storedFields header) i = off) :
    readU32 (encryptedArea header) off = v := by
  rw [readU32, slice_encryptedArea i h hoff, ofNat_ofBeBytes_beBytes_32]

private theorem readU64_encryptedArea {v : UInt64}
    (h : (storedFields header)[i]? = some (8, v.toNat))
    (hoff : fieldOffset (storedFields header) i = off) :
    readU64 (encryptedArea header) off = v := by
  rw [readU64, slice_encryptedArea i h hoff, ofNat_ofBeBytes_beBytes_64]

end Fields

theorem masterKeydata_encryptedArea (header : VolumeHeader) :
    slice (encryptedArea header) Offsets.masterKeydata masterKeydataSize = keyArea header ∧
      (encryptedArea header).drop Offsets.masterKeydata = keyArea header := by
  have hlen := length_headerFields header (keyAreaChecksum header) (headerChecksum header)
  have hdrop : (encryptedArea header).drop Offsets.masterKeydata = keyArea header := by
    rw [encryptedArea_eq, ← hlen, List.drop_left]
  refine ⟨?_, hdrop⟩
  rw [slice, hdrop, List.take_of_length_le (length_keyArea header).le]

/-- The fields that the second checksum covers, and the checksum behind them. -/
theorem fieldsBytes_headerFields (header : VolumeHeader) (keyCrc crc : UInt32) :
    fieldsBytes (headerFields header keyCrc crc) =
      fieldsBytes ((headerFields header keyCrc 0).take 13) ++ beBytes 4 crc.toNat := by
  have hsplit : headerFields header keyCrc crc =
      (headerFields header keyCrc 0).take 13 ++ [(4, crc.toNat)] := by
    simp [headerFields]
  rw [hsplit, fieldsBytes, List.flatMap_append, ← fieldsBytes]
  simp

theorem headerChecksum_eq (header : VolumeHeader) : headerChecksum header =
    crc32 (fieldsBytes ((headerFields header (keyAreaChecksum header) 0).take 13)) := by
  have hlen : (fieldsBytes ((headerFields header (keyAreaChecksum header) 0).take 13)).length =
      Offsets.headerCrc := by
    simp [length_fieldsBytes, headerFields, Offsets.headerCrc]
  rw [headerChecksum, fieldsBytes_headerFields, ← hlen, List.take_left]

theorem take_headerCrc (header : VolumeHeader) :
    crc32 ((encryptedArea header).take Offsets.headerCrc) = headerChecksum header := by
  have hlen : (fieldsBytes ((headerFields header (keyAreaChecksum header) 0).take 13)).length =
      Offsets.headerCrc := by
    simp [length_fieldsBytes, headerFields, Offsets.headerCrc]
  rw [encryptedArea_eq, fieldsBytes_headerFields, List.append_assoc, ← hlen, List.take_left,
    ← headerChecksum_eq]

/-- A serialized header behind any salt reads back field by field. -/
theorem deserializeHeader_encryptedArea (header : VolumeHeader) {salt : Bytes}
    (hsalt : salt.length = pkcs5SaltSize) (hmagic : header.magic = volumeMagic)
    (hsector : ValidSectorSize header.sectorSize) :
    deserializeHeader (salt ++ encryptedArea header) = .ok (header.stored salt hsalt) := by
  have hlen : ¬ (salt ++ encryptedArea header).length < volumeHeaderEffectiveSize := by
    rw [List.length_append, hsalt, length_encryptedArea]
    decide
  have henc : slice (salt ++ encryptedArea header) pkcs5SaltSize encryptedHeaderSize =
      encryptedArea header := by
    rw [slice_append_right hsalt.le, hsalt, Nat.sub_self]
    exact slice_all (length_encryptedArea header).le
  have hhead : slice (salt ++ encryptedArea header) 0 pkcs5SaltSize = salt := by
    rw [slice_append_left hsalt.ge]
    exact slice_all hsalt.le
  have hmagic' : readU32 (encryptedArea header) Offsets.magic = volumeMagic := by
    rw [← hmagic]
    exact readU32_encryptedArea 0 rfl rfl
  have hkeyCrc : readU32 (encryptedArea header) Offsets.keyAreaCrc = keyAreaChecksum header :=
    readU32_encryptedArea 3 rfl rfl
  have hsize : readU32 (encryptedArea header) Offsets.sectorSize = header.sectorSize :=
    readU32_encryptedArea 11 rfl rfl
  have hheaderCrc : readU32 (encryptedArea header) Offsets.headerCrc = headerChecksum header :=
    readU32_encryptedArea 13 (by simp [storedFields, headerFields])
      (by simp [storedFields, fieldOffset, headerFields, Offsets.headerCrc])
  obtain ⟨hkeydata, hkeydrop⟩ := masterKeydata_encryptedArea header
  have hparsed : parsedHeader (salt ++ encryptedArea header) hlen = header.stored salt hsalt := by
    simp only [parsedHeader, VolumeHeader.stored, henc, hhead, hkeyCrc, hsize, hheaderCrc, hkeydata,
      VolumeHeader.mk.injEq, hmagic, true_and, and_true]
    exact ⟨readU16_encryptedArea 1 rfl rfl, readU16_encryptedArea 2 rfl rfl,
      readU64_encryptedArea 4 rfl rfl, readU64_encryptedArea 5 rfl rfl,
      readU64_encryptedArea 6 rfl rfl, readU64_encryptedArea 7 rfl rfl,
      readU64_encryptedArea 8 rfl rfl, readU64_encryptedArea 9 rfl rfl,
      readU32_encryptedArea 10 rfl rfl⟩
  rw [deserializeHeader, dif_neg hlen]
  simp only [henc, hmagic', hsize, hheaderCrc, hkeyCrc, take_headerCrc, hkeydrop, hparsed,
    ne_eq, not_true_eq_false, if_false]
  rw [if_neg hsector, if_neg (by rw [keyAreaChecksum]; simp)]

/-- The checks of the parser on the encoded area. -/
structure PassesChecks (enc : Bytes) : Prop where
  magic : readU32 enc Offsets.magic = volumeMagic
  sectorSize : ValidSectorSize (readU32 enc Offsets.sectorSize)
  headerCrc : readU32 enc Offsets.headerCrc = crc32 (enc.take Offsets.headerCrc)
  keyAreaCrc : readU32 enc Offsets.keyAreaCrc = crc32 (enc.drop Offsets.masterKeydata)

/-- Bytes are accepted exactly when they are long enough and pass the checks. -/
theorem deserializeHeader_eq_ok_iff {data : Bytes} {header : VolumeHeader} :
    deserializeHeader data = .ok header ↔ ∃ h : ¬ data.length < volumeHeaderEffectiveSize,
      PassesChecks (slice data pkcs5SaltSize encryptedHeaderSize) ∧
        header = parsedHeader data h := by
  rw [deserializeHeader]
  constructor
  · intro h
    split at h
    · cases h
    · next hlen =>
      simp only at h
      split_ifs at h with hmagic hsector hcrc hkey
      exact ⟨hlen, ⟨not_not.mp hmagic, hsector, not_not.mp hcrc, not_not.mp hkey⟩,
        (Except.ok.inj h).symm⟩
  · rintro ⟨hlen, hpasses, rfl⟩
    have hsector := hpasses.sectorSize
    rw [ValidSectorSize] at hsector
    simp only [dif_neg hlen, hpasses.magic, ← hpasses.headerCrc, ← hpasses.keyAreaCrc, hsector,
      ne_eq, not_true_eq_false, if_false]

/-- Everything an accepted header satisfies. -/
theorem deserializeHeader_eq_ok {data : Bytes} {header : VolumeHeader}
    (h : deserializeHeader data = .ok header) :
    header.magic = volumeMagic ∧ ValidSectorSize header.sectorSize ∧
      header.masterKeydata.length = masterKeydataSize ∧ header.salt = data.take pkcs5SaltSize := by
  obtain ⟨hlen, hpasses, rfl⟩ := deserializeHeader_eq_ok_iff.mp h
  have henc : (slice data pkcs5SaltSize encryptedHeaderSize).length = encryptedHeaderSize := by
    apply length_slice_of_le
    rw [not_lt] at hlen
    exact hlen
  rw [parsedHeader]
  refine ⟨rfl, hpasses.sectorSize, ?_, ?_⟩
  · exact length_slice_of_le (by rw [henc]; decide)
  · simp only [slice, List.drop_zero]

end RoundTrip

end Oxhide.HeaderFormat
