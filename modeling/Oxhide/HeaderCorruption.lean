import Oxhide.CrcBursts
import Oxhide.HeaderCodec

/-! # Corrupted headers are rejected

Each byte of the encrypted area is under one of the two checksums or belongs to a
stored one. A burst of four bytes in the fields, in the stored checksum of the
fields or in the key area changes one side of a comparison and not the other. -/
namespace Oxhide.HeaderCorruption
open Crc32 CrcBursts HeaderCodec HeaderFormat ListSplice VolumeErrors WordBytes

section Area
variable {enc enc' : Bytes} {off n : ℕ}

/-- The stored checksum stays while the computed one changes. The checksum of the key
area is among the fields. -/
private theorem not_passesChecks_of_fields (h : PassesChecks enc)
    (hburst : DiffersWithin enc enc' off n) (hn : n ≤ 4) (hin : off + n ≤ Offsets.headerCrc) :
    ¬ PassesChecks enc' := by
  intro h'
  have hstored : readU32 enc' Offsets.headerCrc = readU32 enc Offsets.headerCrc := by
    rw [readU32, readU32, hburst.slice_eq_of_disjoint (Or.inr hin)]
  have hfields : DiffersWithin (slice enc 0 Offsets.headerCrc) (slice enc' 0 Offsets.headerCrc)
      off n := by
    apply DiffersWithin.window 0 _ hin
    rwa [Nat.zero_add]
  apply crc32_ne hfields hn
  simpa [slice, ← h.headerCrc, ← h'.headerCrc] using hstored

/-- The stored checksum changes while the fields stay. -/
private theorem not_passesChecks_of_headerCrc (h : PassesChecks enc)
    (hburst : DiffersWithin enc enc' off n) (hlong : Offsets.headerCrc + 4 ≤ enc.length)
    (hfrom : Offsets.headerCrc ≤ off) (hin : off + n ≤ Offsets.masterKeydata) :
    ¬ PassesChecks enc' := by
  intro h'
  obtain ⟨o, rfl⟩ := Nat.exists_eq_add_of_le hfrom
  have hstored : DiffersWithin (slice enc Offsets.headerCrc 4) (slice enc' Offsets.headerCrc 4)
      o n := by
    apply hburst.window
    rw [Offsets.headerCrc, Offsets.masterKeydata] at hin
    omega
  have hfields : enc'.take Offsets.headerCrc = enc.take Offsets.headerCrc := by
    have hslice := hburst.slice_eq_of_disjoint (o := 0) (m := Offsets.headerCrc)
      (Or.inl (by omega))
    simpa [slice] using hslice
  have hread : readU32 enc' Offsets.headerCrc = readU32 enc Offsets.headerCrc := by
    rw [h'.headerCrc, h.headerCrc, hfields]
  apply hstored.ne
  rw [← beBytes_readU32 hlong, ← beBytes_readU32 (hburst.length_eq ▸ hlong), hread]

/-- The checksum that the fields hold stays while the one of the key area changes. -/
private theorem not_passesChecks_of_keyArea (h : PassesChecks enc)
    (hburst : DiffersWithin enc enc' off n) (hlen : enc.length = encryptedHeaderSize)
    (hn : n ≤ 4) (hfrom : Offsets.masterKeydata ≤ off) (hin : off + n ≤ encryptedHeaderSize) :
    ¬ PassesChecks enc' := by
  intro h'
  obtain ⟨o, rfl⟩ := Nat.exists_eq_add_of_le hfrom
  have hstored : readU32 enc' Offsets.keyAreaCrc = readU32 enc Offsets.keyAreaCrc := by
    rw [readU32, readU32, hburst.slice_eq_of_disjoint (Or.inl _)]
    rw [Offsets.keyAreaCrc, Offsets.masterKeydata]
    omega
  have hdrop {xs : Bytes} (hxs : xs.length = encryptedHeaderSize) :
      slice xs Offsets.masterKeydata masterKeydataSize = xs.drop Offsets.masterKeydata := by
    rw [slice, List.take_of_length_le]
    rw [List.length_drop, hxs]
    decide
  have harea : DiffersWithin (enc.drop Offsets.masterKeydata) (enc'.drop Offsets.masterKeydata)
      o n := by
    rw [← hdrop hlen, ← hdrop (hburst.length_eq.trans hlen)]
    apply hburst.window
    rw [Nat.add_assoc] at hin
    exact Nat.le_of_add_le_add_left hin
  apply crc32_ne harea hn
  rw [← h.keyAreaCrc, ← h'.keyAreaCrc, hstored]

/-- A range of the encrypted area in which every short burst is caught. -/
def Covered (off n : ℕ) : Prop :=
  off + n ≤ Offsets.headerCrc ∨
    (Offsets.headerCrc ≤ off ∧ off + n ≤ Offsets.masterKeydata) ∨
    (Offsets.masterKeydata ≤ off ∧ off + n ≤ encryptedHeaderSize)

private theorem Covered.le (h : Covered off n) : off + n ≤ encryptedHeaderSize := by
  have hkey : Offsets.masterKeydata ≤ encryptedHeaderSize := by decide
  have hcrc : Offsets.headerCrc ≤ encryptedHeaderSize := by decide
  rcases h with hfields | ⟨-, hin⟩ | ⟨-, hin⟩
  · exact hfields.trans hcrc
  · exact hin.trans hkey
  · exact hin

theorem not_passesChecks_of_burst (h : PassesChecks enc) (hburst : DiffersWithin enc enc' off n)
    (hlen : enc.length = encryptedHeaderSize) (hn : n ≤ 4) (hcovered : Covered off n) :
    ¬ PassesChecks enc' := by
  rcases hcovered with hfields | ⟨hfrom, hin⟩ | ⟨hfrom, hin⟩
  · exact not_passesChecks_of_fields h hburst hn hfields
  · exact not_passesChecks_of_headerCrc h hburst (by rw [hlen]; decide) hfrom hin
  · exact not_passesChecks_of_keyArea h hburst hlen hn hfrom hin

end Area

/-- No short burst in the encrypted area of an accepted header is accepted. -/
theorem deserializeHeader_burst {data data' : Bytes} {header : VolumeHeader} {off n : ℕ}
    (h : deserializeHeader data = .ok header) (hn : n ≤ 4) (hcovered : Covered off n)
    (hburst : DiffersWithin data data' (pkcs5SaltSize + off) n) :
    ∃ e, deserializeHeader data' = .error e := by
  obtain ⟨hlong, hpasses, -⟩ := deserializeHeader_eq_ok_iff.mp h
  have harea : DiffersWithin (slice data pkcs5SaltSize encryptedHeaderSize)
      (slice data' pkcs5SaltSize encryptedHeaderSize) off n :=
    hburst.window pkcs5SaltSize hcovered.le
  cases hparse : deserializeHeader data' with
  | error e => exact ⟨e, rfl⟩
  | ok header' =>
    obtain ⟨-, hpasses', -⟩ := deserializeHeader_eq_ok_iff.mp hparse
    exact absurd hpasses'
      (not_passesChecks_of_burst hpasses harea (length_area hlong) hn hcovered)

theorem deserializeHeader_burst_keyArea :
    ∃ data' e, DiffersWithin (List.replicate pkcs5SaltSize 0 ++ encryptedArea VolumeHeader.new)
        data' (pkcs5SaltSize + Offsets.masterKeydata) 1 ∧
      deserializeHeader data' = .error e := by
  have hsalt : (List.replicate pkcs5SaltSize (0 : UInt8)).length = pkcs5SaltSize :=
    List.length_replicate
  have hparse := deserializeHeader_encryptedArea VolumeHeader.new hsalt rfl (by decide)
  have hlast : (List.replicate pkcs5SaltSize 0 ++
      encryptedArea VolumeHeader.new)[pkcs5SaltSize + Offsets.masterKeydata]? = some 0 := by
    rw [List.getElem?_append_right (by rw [hsalt]; omega), hsalt, Nat.add_sub_cancel_left,
      encryptedArea_eq, List.getElem?_append_right (by rw [length_headerFields]),
      length_headerFields, Nat.sub_self, keyArea, fillTo, VolumeHeader.new, List.take_replicate,
      Nat.min_self, List.length_replicate, Nat.sub_self, List.replicate_zero, List.append_nil]
    rfl
  have hburst : DiffersWithin (List.replicate pkcs5SaltSize 0 ++ encryptedArea VolumeHeader.new)
      ((List.replicate pkcs5SaltSize 0 ++ encryptedArea VolumeHeader.new).set
        (pkcs5SaltSize + Offsets.masterKeydata) 1) (pkcs5SaltSize + Offsets.masterKeydata) 1 := by
    refine ⟨List.length_set, ?_, ?_⟩
    · intro i hi
      exact List.getElem?_set_ne (by omega)
    · intro heq
      have hread := congrArg (·[pkcs5SaltSize + Offsets.masterKeydata]?) heq
      rw [List.getElem?_set_self (List.getElem?_eq_some_iff.mp hlast).1, hlast] at hread
      exact absurd (Option.some.inj hread) (by decide)
  obtain ⟨e, he⟩ := deserializeHeader_burst hparse (by decide)
    (Or.inr (Or.inr ⟨le_rfl, by decide⟩)) hburst
  exact ⟨_, e, hburst, he⟩

end Oxhide.HeaderCorruption
