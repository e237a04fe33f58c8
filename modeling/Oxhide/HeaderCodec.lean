import Oxhide.HeaderFormat

/-! # The header codec

Serializing and parsing are inverse to each other: on the headers that can be accepted, up
to the padding of the key data and the two checksums, and on the accepted bytes whose
reserved bytes are zero. -/
namespace Oxhide.HeaderCodec
open Crc32 FieldBytes HeaderFormat ListSplice VolumeErrors WordBytes

/-- The widths of the fields in front of the second checksum. -/
def fieldWidths : List ℕ := [4, 2, 2, 4, 8, 8, 8, 8, 8, 8, 4, 4, 120]

section Reads
variable {enc : Bytes} {off : ℕ}

private theorem ofBeBytes_slice_lt (enc : Bytes) (off n : ℕ) :
    ofBeBytes (slice enc off n) < 256 ^ n := by
  have hlt := ofLeBytes_lt (slice enc off n).reverse
  have hlen : (slice enc off n).reverse.length ≤ n := by
    rw [List.length_reverse, length_slice]
    omega
  exact lt_of_lt_of_le hlt (Nat.pow_le_pow_right (by decide) hlen)

/-- A word that is read is the number in its bytes. -/
theorem toNat_readU16 (enc : Bytes) (off : ℕ) :
    (readU16 enc off).toNat = ofBeBytes (slice enc off 2) :=
  UInt16.toNat_ofNat_of_lt (ofBeBytes_slice_lt enc off 2)

theorem toNat_readU32 (enc : Bytes) (off : ℕ) :
    (readU32 enc off).toNat = ofBeBytes (slice enc off 4) :=
  UInt32.toNat_ofNat_of_lt (ofBeBytes_slice_lt enc off 4)

theorem toNat_readU64 (enc : Bytes) (off : ℕ) :
    (readU64 enc off).toNat = ofBeBytes (slice enc off 8) :=
  UInt64.toNat_ofNat_of_lt (ofBeBytes_slice_lt enc off 8)

theorem beBytes_readU32 (h : off + 4 ≤ enc.length) :
    beBytes 4 (readU32 enc off).toNat = slice enc off 4 := by
  have hback := beBytes_ofBeBytes (slice enc off 4)
  rw [length_slice_of_le h] at hback
  rw [toNat_readU32, hback]

end Reads

section Parsed
variable {data : Bytes} (hlong : ¬ data.length < volumeHeaderEffectiveSize)
include hlong

theorem length_area :
    (slice data pkcs5SaltSize encryptedHeaderSize).length = encryptedHeaderSize := by
  apply length_slice_of_le
  rw [not_lt] at hlong
  exact hlong

/-- The key area of a parsed header is the one it was parsed from. -/
theorem keyArea_parsedHeader : keyArea (parsedHeader data hlong) =
    (slice data pkcs5SaltSize encryptedHeaderSize).drop Offsets.masterKeydata := by
  have hlen := length_area hlong
  have hdrop : slice (slice data pkcs5SaltSize encryptedHeaderSize) Offsets.masterKeydata
      masterKeydataSize = (slice data pkcs5SaltSize encryptedHeaderSize).drop
        Offsets.masterKeydata := by
    rw [slice, List.take_of_length_le (by rw [List.length_drop, hlen]; decide)]
  have hkey : ((slice data pkcs5SaltSize encryptedHeaderSize).drop
      Offsets.masterKeydata).length = masterKeydataSize := by
    rw [List.length_drop, hlen]
    rfl
  rw [keyArea, parsedHeader]
  simp only [hdrop]
  rw [List.take_of_length_le hkey.le, fillTo, hkey, Nat.sub_self, List.replicate_zero,
    List.append_nil]

variable (hpasses : PassesChecks (slice data pkcs5SaltSize encryptedHeaderSize))
  (hreserved : slice (slice data pkcs5SaltSize encryptedHeaderSize) 68 120 =
    List.replicate 120 0)
include hpasses hreserved

/-- Every field that the second checksum covers is written as it was read. -/
theorem headerFields_parsedHeader :
    (headerFields (parsedHeader data hlong) (keyAreaChecksum (parsedHeader data hlong)) 0).take 13 =
      readFields (slice data pkcs5SaltSize encryptedHeaderSize) 0 fieldWidths := by
  have hmagic : volumeMagic.toNat =
      ofBeBytes (slice (slice data pkcs5SaltSize encryptedHeaderSize) 0 4) := by
    rw [← hpasses.magic]
    exact toNat_readU32 _ _
  have hkeyCrc : (keyAreaChecksum (parsedHeader data hlong)).toNat =
      ofBeBytes (slice (slice data pkcs5SaltSize encryptedHeaderSize) 8 4) := by
    rw [keyAreaChecksum, keyArea_parsedHeader hlong, ← hpasses.keyAreaCrc]
    exact toNat_readU32 _ _
  have hzeros : ofBeBytes (slice (slice data pkcs5SaltSize encryptedHeaderSize) 68 120) = 0 := by
    rw [hreserved, ← beBytes_zero, ofBeBytes_beBytes, Nat.zero_mod]
  rw [headerFields, hkeyCrc]
  simp [parsedHeader, readFields, fieldWidths, toNat_readU16, toNat_readU32, toNat_readU64, hmagic,
    hzeros, Offsets.headerVersion, Offsets.requiredVersion, Offsets.volumeCreationTime,
    Offsets.modificationTime, Offsets.hiddenVolumeSize, Offsets.volumeSize,
    Offsets.encryptedAreaStart, Offsets.encryptedAreaLength, Offsets.flags, Offsets.sectorSize]

/-- An accepted area is serialized again as it was. -/
theorem encryptedArea_parsedHeader : encryptedArea (parsedHeader data hlong) =
    slice data pkcs5SaltSize encryptedHeaderSize := by
  have hlen := length_area hlong
  have hwidths : fieldWidths.sum = Offsets.headerCrc := rfl
  have hfields : fieldsBytes ((headerFields (parsedHeader data hlong)
      (keyAreaChecksum (parsedHeader data hlong)) 0).take 13) =
        slice (slice data pkcs5SaltSize encryptedHeaderSize) 0 Offsets.headerCrc := by
    rw [headerFields_parsedHeader hlong hpasses hreserved, fieldsBytes_readFields, hwidths]
    rw [hwidths, hlen]
    decide
  have hfirst : slice (slice data pkcs5SaltSize encryptedHeaderSize) 0 Offsets.headerCrc =
      (slice data pkcs5SaltSize encryptedHeaderSize).take Offsets.headerCrc := by
    rw [slice, List.drop_zero]
  have hchecksum : headerChecksum (parsedHeader data hlong) =
      readU32 (slice data pkcs5SaltSize encryptedHeaderSize) Offsets.headerCrc := by
    rw [headerChecksum_eq, hfields, hfirst, hpasses.headerCrc]
  have hcovered := slice_append_slice (slice data pkcs5SaltSize encryptedHeaderSize) 0
    Offsets.headerCrc 4
  have htake : slice (slice data pkcs5SaltSize encryptedHeaderSize) 0 (Offsets.headerCrc + 4) =
      (slice data pkcs5SaltSize encryptedHeaderSize).take Offsets.masterKeydata := by
    rw [slice, List.drop_zero]
    rfl
  rw [Nat.zero_add] at hcovered
  rw [encryptedArea_eq, fieldsBytes_headerFields, hfields, hchecksum,
    beBytes_readU32 (by rw [hlen]; decide), keyArea_parsedHeader hlong, hcovered, htake]
  exact List.take_append_drop _ _

end Parsed

/-- The codec: what is serialized is parsed, what is parsed is serialized, and what is
accepted. -/
theorem headerCodec :
    (∀ header : VolumeHeader, header.magic = volumeMagic → ValidSectorSize header.sectorSize →
      header.masterKeydata.length ≤ masterKeydataSize → ∃ bytes,
        serializeHeader header = .ok bytes ∧ deserializeHeader bytes = .ok { header with
          masterKeydata := header.masterKeydata ++
            List.replicate (masterKeydataSize - header.masterKeydata.length) 0
          keyAreaCrc := crc32 (bytes.drop (pkcs5SaltSize + Offsets.masterKeydata))
          headerCrc := crc32 (slice bytes pkcs5SaltSize Offsets.headerCrc) }) ∧
    (∀ data header, deserializeHeader data = .ok header →
      slice data (pkcs5SaltSize + 68) 120 = List.replicate 120 0 →
        serializeHeader header = .ok (data.take volumeHeaderEffectiveSize)) ∧
    ∀ data, (∃ header, deserializeHeader data = .ok header) ↔
      volumeHeaderEffectiveSize ≤ data.length ∧
        PassesChecks (slice data pkcs5SaltSize encryptedHeaderSize) := by
  refine ⟨fun header hmagic hsector hkey => ?_, fun data header hparse hreserved => ?_,
    fun data => ?_⟩
  · refine ⟨_, rfl, ?_⟩
    have hsalt := header.salt_length
    have hkeyArea : keyArea header = header.masterKeydata ++
        List.replicate (masterKeydataSize - header.masterKeydata.length) 0 := by
      rw [keyArea, List.take_of_length_le hkey, fillTo]
    have harea : (header.salt ++ encryptedArea header).drop
        (pkcs5SaltSize + Offsets.masterKeydata) = keyArea header := by
      rw [← List.drop_drop, List.drop_left' hsalt, (masterKeydata_encryptedArea header).2]
    have hfields : slice (header.salt ++ encryptedArea header) pkcs5SaltSize Offsets.headerCrc =
        (encryptedArea header).take Offsets.headerCrc := by
      rw [slice_append_right hsalt.le, hsalt, Nat.sub_self, slice, List.drop_zero]
    rw [deserializeHeader_encryptedArea header hsalt hmagic hsector, VolumeHeader.stored, harea,
      hfields, take_headerCrc, keyAreaChecksum, hkeyArea]
  · obtain ⟨hlong, hpasses, rfl⟩ := deserializeHeader_eq_ok_iff.mp hparse
    have harea := encryptedArea_parsedHeader hlong hpasses (by
      rw [slice_slice (by decide)]
      exact hreserved)
    have hsplit := slice_append_slice data 0 pkcs5SaltSize encryptedHeaderSize
    rw [Nat.zero_add] at hsplit
    rw [serializeHeader, harea]
    refine congrArg Except.ok (hsplit.trans ?_)
    rw [slice, List.drop_zero]
    rfl
  · constructor
    · rintro ⟨header, hparse⟩
      obtain ⟨hlong, hpasses, -⟩ := deserializeHeader_eq_ok_iff.mp hparse
      exact ⟨not_lt.mp hlong, hpasses⟩
    · rintro ⟨hlong, hpasses⟩
      exact ⟨_, deserializeHeader_eq_ok_iff.mpr ⟨not_lt.mpr hlong, hpasses, rfl⟩⟩

end Oxhide.HeaderCodec
