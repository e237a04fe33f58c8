import Oxhide.OpenVolumes

/-! # Several sectors in one call and in two

Writing or reading two buffers in one call should do what two calls do. A call has
one data-unit number and counts its blocks on from there, so the law holds exactly
when the second buffer is encrypted and decrypted in the same way with the
continued block numbers of the first unit as with its own unit number. -/
namespace Oxhide.UserStoreLaw
open BlockCiphers CheckedWords CipherChain FaultyFile HeaderFormat ListBlocks ListSplice OpenVolumes
  SectorCiphers VolumeErrors VolumeOpening WordBytes Xts

/-- The sector behind a buffer that starts at `sector`. -/
def nextSector (sector : UInt64) (buf : Bytes) : UInt64 :=
  sector + UInt64.ofNat (buf.length / 512)

/-- One call and two calls store the same and read the same. -/
structure StoreLaw (P : CipherSuite) (volume : OpenVolume) (sector : UInt64) (b₁ b₂ : Bytes) :
    Prop where
  write : (volume.write P sector (b₁ ++ b₂) noFaults).2.file.contents =
    ((volume.write P sector b₁ noFaults).2.write P (nextSector sector b₁) b₂
      noFaults).2.file.contents
  read : ∀ out, (volume.read P sector (b₁ ++ b₂).length noFaults).1 = .ok out ↔
    ∃ out₁ out₂, (volume.read P sector b₁.length noFaults).1 = .ok out₁ ∧
      ((volume.read P sector b₁.length noFaults).2.read P (nextSector sector b₁) b₂.length
        noFaults).1 = .ok out₂ ∧ out = out₁ ++ out₂

/-- On the blocks of `data`, which lie `n` sectors behind `sector`, the continued unit acts
as their own units do. -/
def ContinuesAs (f : UInt64 → ℕ → Block → Block) (sector : UInt64) (n : ℕ) (data : Bytes) :
    Prop :=
  ∀ j < data.length / 16,
    blockBytes (f sector (n * 32 + j)) (slice data (j * 16) 16) =
      blockBytes (f (sector + UInt64.ofNat n) j) (slice data (j * 16) 16)

/-- A write that is refused, or that stores what stands in the file already. -/
def StoresNothingNew (P : CipherSuite) (volume : OpenVolume) (sector : UInt64) (buf : Bytes) :
    Prop :=
  volume.Accepts sector buf.length →
    StandsAt volume.file.contents (volume.position sector) (volume.encrypted P sector buf)

/-- The condition: an accepted write and a readable range continue as their own units, and
where the write of both is refused none of the two stores anything new. -/
structure OneUnit (P : CipherSuite) (volume : OpenVolume) (sector : UInt64) (b₁ b₂ : Bytes) :
    Prop where
  accepted : volume.Accepts sector (b₁ ++ b₂).length →
    ContinuesAs (chainEncryptAt P volume.cipher.chain) sector (b₁.length / 512) b₂
  refused : ¬ volume.Accepts sector (b₁ ++ b₂).length →
    StoresNothingNew P volume sector b₁ ∧
      (volume.checkProtectedRange (hostPosition volume.inner.dataOffset sector).val
          (UInt64.ofNat b₁.length) = false →
        StoresNothingNew P volume (nextSector sector b₁) b₂)
  readable : volume.position sector + (b₁ ++ b₂).length ≤ volume.file.contents.length →
    ContinuesAs (chainDecryptAt P volume.cipher.chain) sector (b₁.length / 512)
      (slice volume.file.contents (volume.position sector + b₁.length) b₂.length)

section Law
variable {P : CipherSuite} {volume : OpenVolume} {sector : UInt64} {b₁ b₂ : Bytes} {n₁ n₂ : ℕ}

theorem checkProtectedRange_eq_false_iff {hostOffset : UInt64} {n : ℕ}
    (h : hostOffset.toNat + n < 2 ^ 64) :
    volume.checkProtectedRange hostOffset (UInt64.ofNat n) = false ↔
      ∀ range, volume.protectedRange = some range →
        range.2.toNat ≤ hostOffset.toNat ∨ hostOffset.toNat + n ≤ range.1.toNat := by
  have hn : (UInt64.ofNat n).toNat = n := by
    rw [UInt64.toNat_ofNat', Nat.mod_eq_of_lt (by omega)]
  have hend : (hostOffset + UInt64.ofNat n).toNat = hostOffset.toNat + n := by
    rw [toNat_add_of_lt (by rw [hn]; exact h), hn]
  rw [OpenVolume.checkProtectedRange]
  cases volume.protectedRange with
  | none => simp
  | some range =>
    simp only [Option.some.injEq, forall_eq', decide_eq_false_iff_not, not_and_or, not_lt, gt_iff_lt,
      UInt64.lt_iff_toNat_lt, hend]

/-- The next sector stands behind the buffer, where the address does not wrap. -/
private theorem position_nextSector (volume : OpenVolume) (sector : UInt64)
    (h₁ : b₁.length = n₁ * 512) (hlt : volume.position sector + b₁.length < 2 ^ 64) :
    volume.position (nextSector sector b₁) = volume.position sector + b₁.length := by
  have hsectors : b₁.length / 512 = n₁ := by omega
  rw [h₁] at hlt
  rw [nextSector, hsectors, OpenVolume.position_add, Nat.mod_eq_of_lt hlt, h₁]

/-- Storing does not change what is accepted later. -/
private theorem accepts_written_iff {next : UInt64} {n : ℕ} :
    (volume.written P sector b₁).Accepts next n ↔ volume.Accepts next n :=
  ⟨fun h => ⟨h.writable, h.untriggered, h.unprotected, h.inside⟩,
    fun h => ⟨h.writable, h.untriggered, h.unprotected, h.inside⟩⟩

/-- A write that is accepted in one call is accepted in two. -/
theorem Accepts.split (h : volume.Accepts sector (b₁ ++ b₂).length) (h₁ : b₁.length = n₁ * 512) :
    volume.Accepts sector b₁.length ∧ volume.Accepts (nextSector sector b₁) b₂.length ∧
      volume.position (nextSector sector b₁) = volume.position sector + b₁.length := by
  have hinside := h.inside
  have hfree := h.unprotected
  rw [List.length_append] at hinside hfree
  rw [maxPosition] at hinside
  have hnext := position_nextSector volume sector h₁ (by omega)
  have hpos : volume.position sector = (hostPosition volume.inner.dataOffset sector).val.toNat :=
    rfl
  have hpos₂ : volume.position (nextSector sector b₁) =
      (hostPosition volume.inner.dataOffset (nextSector sector b₁)).val.toNat := rfl
  rw [checkProtectedRange_eq_false_iff (by omega)] at hfree
  refine ⟨⟨h.writable, h.untriggered, ?_, by rw [maxPosition]; omega⟩,
    ⟨h.writable, h.untriggered, ?_, by rw [maxPosition]; omega⟩, hnext⟩
  · rw [checkProtectedRange_eq_false_iff (by omega)]
    intro range hrange
    have hout := hfree range hrange
    omega
  · rw [checkProtectedRange_eq_false_iff (by omega)]
    intro range hrange
    have hout := hfree range hrange
    omega

private theorem continuesAs_iff {f : UInt64 → ℕ → Block → Block} {data : Bytes}
    (h : data.length = n₂ * 512) :
    mapBlocks 16 (fun j => blockBytes (f sector (n₁ * 32 + j))) (n₂ * 32) data =
        mapBlocks 16 (fun j => blockBytes (f (sector + UInt64.ofNat n₁) j)) (n₂ * 32) data ↔
      ContinuesAs f sector n₁ data := by
  have hblocks : data.length / 16 = n₂ * 32 := by omega
  rw [mapBlocks_eq_iff (keepsWidth_blockBytes _) (keepsWidth_blockBytes _) (by omega), ContinuesAs,
    hblocks]

private theorem encrypted_ne_nil (P : CipherSuite) (volume : OpenVolume) (sector : UInt64) {n : ℕ}
    {buf : Bytes} (hn : 0 < n) (h : buf.length = n * 512) :
    volume.encrypted P sector buf ≠ [] := by
  intro hempty
  have hlength := OpenVolume.length_encrypted P volume sector hn h
  rw [hempty, List.length_nil] at hlength
  omega

/-- One call encrypts the first buffer and, behind it, the continued unit. -/
private theorem encrypted_append (P : CipherSuite) (volume : OpenVolume) (sector : UInt64)
    (h₁ : b₁.length = n₁ * 512) (h₂ : b₂.length = n₂ * 512) :
    volume.encrypted P sector (b₁ ++ b₂) =
      volume.encrypted P sector b₁ ++ mapBlocks 16 (fun j =>
        blockBytes (chainEncryptAt P volume.cipher.chain sector (n₁ * 32 + j))) (n₂ * 32) b₂ := by
  have happend := encryptUnit_data_append (P := P) volume.cipher.chain sector
    (show b₁.length = n₁ * 32 * 16 by omega) (show b₂.length = n₂ * 32 * 16 by omega)
  have hblocks : (b₁ ++ b₂).length / 16 = n₁ * 32 + n₂ * 32 := by
    rw [List.length_append]
    omega
  have hblocks₁ : b₁.length / 16 = n₁ * 32 := by omega
  rw [OpenVolume.encrypted, OpenVolume.encrypted, hblocks, hblocks₁, happend]

/-- Two calls encrypt the second buffer under its own unit. -/
private theorem encrypted_nextSector (P : CipherSuite) (volume : OpenVolume) (sector : UInt64)
    (h₁ : b₁.length = n₁ * 512) (h₂ : b₂.length = n₂ * 512) :
    volume.encrypted P (nextSector sector b₁) b₂ = mapBlocks 16 (fun j =>
      blockBytes (chainEncryptAt P volume.cipher.chain (sector + UInt64.ofNat n₁) j)) (n₂ * 32)
        b₂ := by
  have hsectors : b₁.length / 512 = n₁ := by omega
  have hblocks₂ : b₂.length / 16 = n₂ * 32 := by omega
  rw [OpenVolume.encrypted, hblocks₂, nextSector, hsectors, encryptUnit]

/-- A write that stores nothing new leaves the file as it is, and only such a write does. -/
theorem write_eq_self_iff {n : ℕ} {buf : Bytes} (hn : 0 < n) (h : buf.length = n * 512) :
    (volume.write P sector buf noFaults).2.file.contents = volume.file.contents ↔
      StoresNothingNew P volume sector buf := by
  rw [StoresNothingNew]
  by_cases haccepts : volume.Accepts sector buf.length
  · have hiff : storeAt 0 volume.file.contents (volume.position sector)
        (volume.encrypted P sector buf) = volume.file.contents ↔ _ :=
      storeAt_eq_self_iff (encrypted_ne_nil P volume sector hn h)
    rw [OpenVolume.write_of_accepts hn h haccepts]
    exact hiff.trans ⟨fun hstands _ => hstands, fun hstands => hstands haccepts⟩
  · obtain ⟨file, triggered, hrun, hcontents, -⟩ :=
      OpenVolume.write_of_refused (P := P) hn h haccepts
    rw [hrun]
    exact iff_of_true hcontents fun hyes => absurd hyes haccepts

section Writes
variable (hn₁ : 0 < n₁) (h₁ : b₁.length = n₁ * 512) (hn₂ : 0 < n₂) (h₂ : b₂.length = n₂ * 512)
include hn₁ h₁ hn₂ h₂

theorem write_append_of_accepts (h : volume.Accepts sector (b₁ ++ b₂).length) :
    (volume.write P sector (b₁ ++ b₂) noFaults).2.file.contents =
        ((volume.write P sector b₁ noFaults).2.write P (nextSector sector b₁) b₂
          noFaults).2.file.contents ↔
      ContinuesAs (chainEncryptAt P volume.cipher.chain) sector (b₁.length / 512) b₂ := by
  have hlen : (b₁ ++ b₂).length = (n₁ + n₂) * 512 := by
    rw [List.length_append, h₁, h₂]
    ring
  have hsectors : b₁.length / 512 = n₁ := by omega
  obtain ⟨hfirst, hsecond, hnext⟩ := Accepts.split h h₁
  have hpositive := encrypted_ne_nil P volume sector hn₁ h₁
  have hjoint := encrypted_append P volume sector h₁ h₂
  have hown := encrypted_nextSector P volume sector h₁ h₂
  have hone : (volume.write P sector (b₁ ++ b₂) noFaults).2.file.contents =
      storeAt 0 volume.file.contents (volume.position sector)
        (OpenVolume.encrypted P volume sector (b₁ ++ b₂)) := by
    rw [OpenVolume.write_of_accepts (by omega) hlen h]
    rfl
  have htwo : ((volume.write P sector b₁ noFaults).2.write P (nextSector sector b₁) b₂
      noFaults).2.file.contents =
        storeAt 0 (storeAt 0 volume.file.contents (volume.position sector)
          (OpenVolume.encrypted P volume sector b₁)) (volume.position (nextSector sector b₁))
          (OpenVolume.encrypted P volume (nextSector sector b₁) b₂) := by
    rw [OpenVolume.write_of_accepts hn₁ h₁ hfirst,
      OpenVolume.write_of_accepts hn₂ h₂ (accepts_written_iff.mpr hsecond)]
    rfl
  have hlength₁ := OpenVolume.length_encrypted P volume sector hn₁ h₁
  rw [hone, htwo, hjoint, storeAt_append _ _ _ _ _ hpositive, hlength₁, hnext, hown, hsectors,
    ← continuesAs_iff h₂]
  constructor
  · intro hsame
    have hblocks₂ : n₂ * 32 * 16 ≤ b₂.length := by omega
    have hkeep₁ := length_mapBlocks (keepsWidth_blockBytes
      fun j => chainEncryptAt P volume.cipher.chain sector (n₁ * 32 + j)) hblocks₂
    have hkeep₂ := length_mapBlocks (keepsWidth_blockBytes
      fun j => chainEncryptAt P volume.cipher.chain (sector + UInt64.ofNat n₁) j) hblocks₂
    have hread₁ := slice_storeAt_self (0 : UInt8) (storeAt 0 volume.file.contents
      (volume.position sector) (OpenVolume.encrypted P volume sector b₁)) (mapBlocks 16 (fun j =>
        blockBytes (chainEncryptAt P volume.cipher.chain sector (n₁ * 32 + j))) (n₂ * 32) b₂)
      (volume.position sector + b₁.length)
    have hread₂ := slice_storeAt_self (0 : UInt8) (storeAt 0 volume.file.contents
      (volume.position sector) (OpenVolume.encrypted P volume sector b₁)) (mapBlocks 16 (fun j =>
        blockBytes (chainEncryptAt P volume.cipher.chain (sector + UInt64.ofNat n₁) j)) (n₂ * 32) b₂)
      (volume.position sector + b₁.length)
    rw [hsame, hkeep₁, ← hkeep₂, hread₂] at hread₁
    exact hread₁.symm
  · intro hsame
    rw [hsame]

omit hn₂ h₂ in
/-- What the second call sees after a first one that was refused. -/
private theorem storesNothingNew_after_refused (h : ¬ volume.Accepts sector b₁.length) :
    StoresNothingNew P (volume.write P sector b₁ noFaults).2 (nextSector sector b₁) b₂ ↔
      (volume.checkProtectedRange (hostPosition volume.inner.dataOffset sector).val
          (UInt64.ofNat b₁.length) = false →
        StoresNothingNew P volume (nextSector sector b₁) b₂) := by
  obtain ⟨file, triggered, hrun, hcontents, hoff, hsame⟩ :=
    OpenVolume.write_of_refused (P := P) hn₁ h₁ h
  rw [hrun]
  constructor
  · intro hnothing hfree haccepts
    have hstands := hnothing ⟨haccepts.writable, (hsame hfree).trans haccepts.untriggered,
      haccepts.unprotected, haccepts.inside⟩
    exact hcontents ▸ hstands
  · intro hnothing haccepts
    obtain ⟨huntriggered, hfree⟩ := hoff haccepts.untriggered haccepts.writable
    have hstands := hnothing hfree ⟨haccepts.writable, huntriggered, haccepts.unprotected,
      haccepts.inside⟩
    exact hcontents.symm ▸ hstands

theorem write_append_of_refused (h : ¬ volume.Accepts sector (b₁ ++ b₂).length) :
    (volume.write P sector (b₁ ++ b₂) noFaults).2.file.contents =
        ((volume.write P sector b₁ noFaults).2.write P (nextSector sector b₁) b₂
          noFaults).2.file.contents ↔
      StoresNothingNew P volume sector b₁ ∧
        (volume.checkProtectedRange (hostPosition volume.inner.dataOffset sector).val
            (UInt64.ofNat b₁.length) = false →
          StoresNothingNew P volume (nextSector sector b₁) b₂) := by
  have hlen : (b₁ ++ b₂).length = (n₁ + n₂) * 512 := by
    rw [List.length_append, h₁, h₂]
    ring
  have hjoint : (volume.write P sector (b₁ ++ b₂) noFaults).2.file.contents =
      volume.file.contents :=
    (write_eq_self_iff (by omega) hlen).mpr fun haccepts => absurd haccepts h
  rw [hjoint, eq_comm]
  by_cases hfirst : volume.Accepts sector b₁.length
  · have hfree := hfirst.unprotected
    have hinside := hfirst.inside
    rw [maxPosition] at hinside
    have hnext := position_nextSector volume sector h₁ (by omega)
    have hstored : StoresNothingNew P volume sector b₁ ↔ StandsAt volume.file.contents
        (volume.position sector) (volume.encrypted P sector b₁) :=
      ⟨fun hnothing => hnothing hfirst, fun hstands _ => hstands⟩
    have hlength := OpenVolume.length_encrypted P volume sector hn₁ h₁
    rw [OpenVolume.write_of_accepts hn₁ h₁ hfirst, hstored]
    by_cases hsecond : volume.Accepts (nextSector sector b₁) b₂.length
    · -- Both land: together they store one range.
      have hthen : (volume.written P sector b₁).Accepts (nextSector sector b₁) b₂.length :=
        accepts_written_iff.mpr hsecond
      have hboth : StoresNothingNew P volume (nextSector sector b₁) b₂ ↔
          StandsAt volume.file.contents (volume.position sector + b₁.length)
            (volume.encrypted P (nextSector sector b₁) b₂) := by
        rw [← hnext]
        exact ⟨fun hnothing => hnothing hsecond, fun hstands _ => hstands⟩
      have hfirstNonempty := encrypted_ne_nil P volume sector hn₁ h₁
      have hrange : storeAt 0 volume.file.contents (volume.position sector)
          (volume.encrypted P sector b₁ ++ volume.encrypted P (nextSector sector b₁) b₂) =
            volume.file.contents ↔ _ :=
        storeAt_eq_self_iff (List.append_ne_nil_of_left_ne_nil hfirstNonempty _)
      rw [standsAt_append, storeAt_append _ _ _ _ _ hfirstNonempty, hlength, ← hnext] at hrange
      rw [OpenVolume.write_of_accepts hn₂ h₂ hthen, hboth, ← hnext]
      exact hrange.trans (and_congr_right fun _ => ⟨fun hstands _ => hstands,
        fun hstands => hstands hfree⟩)
    · have hthen : ¬ (volume.written P sector b₁).Accepts (nextSector sector b₁) b₂.length :=
        fun haccepts => hsecond (accepts_written_iff.mp haccepts)
      have hsame : ((volume.written P sector b₁).write P (nextSector sector b₁) b₂
          noFaults).2.file.contents = (volume.written P sector b₁).file.contents :=
        (write_eq_self_iff hn₂ h₂).mpr fun haccepts => absurd haccepts hthen
      have hnothing : StoresNothingNew P volume (nextSector sector b₁) b₂ :=
        fun haccepts => absurd haccepts hsecond
      rw [hsame]
      exact (storeAt_eq_self_iff (encrypted_ne_nil P volume sector hn₁ h₁)).trans
        ⟨fun hstands => ⟨hstands, fun _ => hnothing⟩, fun hstands => hstands.1⟩
  · have hnothing : StoresNothingNew P volume sector b₁ := fun haccepts => absurd haccepts hfirst
    have hsame := (write_eq_self_iff hn₁ h₁).mpr hnothing
    rw [← storesNothingNew_after_refused hn₁ h₁ hfirst, ← write_eq_self_iff hn₂ h₂, hsame]
    exact ⟨fun hboth => ⟨hnothing, hboth⟩, fun hboth => hboth.2⟩

end Writes

section Reads
variable (hn₁ : 0 < n₁) (h₁ : b₁.length = n₁ * 512) (hn₂ : 0 < n₂) (h₂ : b₂.length = n₂ * 512)
  (hmax : volume.file.contents.length ≤ maxPosition)
include hn₁ h₁ hn₂ h₂ hmax

/-- The two reads succeed on a range that lies in the file. -/
private theorem two_reads_iff (P : CipherSuite) (sector : UInt64) (out : Bytes) :
    (∃ out₁ out₂, (volume.read P sector b₁.length noFaults).1 = .ok out₁ ∧
      ((volume.read P sector b₁.length noFaults).2.read P (nextSector sector b₁) b₂.length
        noFaults).1 = .ok out₂ ∧ out = out₁ ++ out₂) ↔
      volume.position sector + (b₁ ++ b₂).length ≤ volume.file.contents.length ∧
        out = decryptUnit P volume.cipher.chain sector (n₁ * 32)
            (slice volume.file.contents (volume.position sector) b₁.length) ++
          decryptUnit P volume.cipher.chain (sector + UInt64.ofNat n₁) (n₂ * 32)
            (slice volume.file.contents (volume.position sector + b₁.length) b₂.length) := by
  have hsectors : b₁.length / 512 = n₁ := by omega
  have hbound : maxPosition < 2 ^ 64 := by norm_num [maxPosition]
  have hnext (hin : volume.position sector + b₁.length ≤ volume.file.contents.length) :
      volume.position (nextSector sector b₁) = volume.position sector + b₁.length :=
    position_nextSector volume sector h₁ (by omega)
  obtain ⟨file, hread, hcontents⟩ := OpenVolume.read_effect P volume sector noFaults b₁.length
  have hfirst := OpenVolume.read_eq_ok_iff P volume sector hn₁
  have hsecond := OpenVolume.read_eq_ok_iff P { volume with file := file } (nextSector sector b₁) hn₂
  have hpos : OpenVolume.position { volume with file := file } (nextSector sector b₁) =
      volume.position (nextSector sector b₁) := rfl
  rw [hpos, hcontents] at hsecond
  rw [hread, h₁, h₂, List.length_append, h₁, h₂]
  rw [h₁] at hnext
  constructor
  · rintro ⟨out₁, out₂, hout₁, hout₂, rfl⟩
    obtain ⟨-, hin₁, rfl⟩ := (hfirst out₁).mp hout₁
    obtain ⟨-, hin₂, rfl⟩ := (hsecond out₂).mp hout₂
    rw [hnext hin₁] at hin₂ ⊢
    refine ⟨by linarith, ?_⟩
    rw [nextSector, hsectors]
  · rintro ⟨hin, rfl⟩
    have hin₁ : volume.position sector + n₁ * 512 ≤ volume.file.contents.length := by linarith
    have hstart := hnext hin₁
    have hin₂ : volume.position (nextSector sector b₁) + n₂ * 512 ≤
        volume.file.contents.length := by linarith
    refine ⟨_, _, (hfirst _).mpr ⟨by omega, hin₁, rfl⟩,
      (hsecond _).mpr ⟨by omega, hin₂, rfl⟩, ?_⟩
    rw [hstart, nextSector, hsectors]

theorem read_append_iff :
    (∀ out, (volume.read P sector (b₁ ++ b₂).length noFaults).1 = .ok out ↔
      ∃ out₁ out₂, (volume.read P sector b₁.length noFaults).1 = .ok out₁ ∧
        ((volume.read P sector b₁.length noFaults).2.read P (nextSector sector b₁) b₂.length
          noFaults).1 = .ok out₂ ∧ out = out₁ ++ out₂) ↔
      (volume.position sector + (b₁ ++ b₂).length ≤ volume.file.contents.length →
        ContinuesAs (chainDecryptAt P volume.cipher.chain) sector (b₁.length / 512)
          (slice volume.file.contents (volume.position sector + b₁.length) b₂.length)) := by
  have hlen : (b₁ ++ b₂).length = (n₁ + n₂) * 512 := by
    rw [List.length_append, h₁, h₂]
    ring
  have hsectors : b₁.length / 512 = n₁ := by omega
  have htwo := two_reads_iff hn₁ h₁ hn₂ h₂ hmax P sector
  have hone := OpenVolume.read_eq_ok_iff P volume sector (Nat.add_pos_left hn₁ n₂)
  rw [← hlen] at hone
  by_cases hin : volume.position sector + (b₁ ++ b₂).length ≤ volume.file.contents.length
  · have hslices : (slice volume.file.contents (volume.position sector) b₁.length).length =
        n₁ * 512 ∧ (slice volume.file.contents (volume.position sector + b₁.length)
          b₂.length).length = n₂ * 512 := by
      rw [List.length_append] at hin
      exact ⟨by rw [length_slice_of_le (by omega), h₁],
        by rw [length_slice_of_le (by omega), h₂]⟩
    obtain ⟨hslice₁, hslice₂⟩ := hslices
    have hsplit : slice volume.file.contents (volume.position sector) (b₁ ++ b₂).length =
        slice volume.file.contents (volume.position sector) b₁.length ++
          slice volume.file.contents (volume.position sector + b₁.length) b₂.length := by
      rw [List.length_append, slice_append_slice]
    have hjoint := decryptUnit_data_append (P := P) volume.cipher.chain sector
      (show _ = n₁ * 32 * 16 by rw [hslice₁]; omega) (show _ = n₂ * 32 * 16 by rw [hslice₂]; omega)
    have hblocks : (n₁ + n₂) * 32 = n₁ * 32 + n₂ * 32 := by ring
    have hseek : volume.position sector ≤ maxPosition := by omega
    simp only [hone, htwo, hin, hseek, true_and, forall_true_left, hblocks, hsplit, hjoint, hsectors]
    rw [← continuesAs_iff hslice₂]
    constructor
    · intro hsame
      exact List.append_cancel_left ((hsame _).mp rfl)
    · intro hsame out
      rw [hsame]
      exact Iff.rfl
  · refine iff_of_true (fun out => ?_) (fun hyes => absurd hyes hin)
    rw [hone, htwo]
    exact iff_of_false (fun h => hin h.2.1) (fun h => hin h.1)

end Reads

/-- The law in one direction and in the other. -/
theorem storeLaw_iff_oneUnit (hn₁ : 0 < n₁) (h₁ : b₁.length = n₁ * 512) (hn₂ : 0 < n₂)
    (h₂ : b₂.length = n₂ * 512) (hmax : volume.file.contents.length ≤ maxPosition) :
    StoreLaw P volume sector b₁ b₂ ↔ OneUnit P volume sector b₁ b₂ := by
  constructor
  · rintro ⟨hwrite, hread⟩
    exact ⟨fun haccepts => (write_append_of_accepts hn₁ h₁ hn₂ h₂ haccepts).mp hwrite,
      fun hrefused => (write_append_of_refused hn₁ h₁ hn₂ h₂ hrefused).mp hwrite,
      (read_append_iff hn₁ h₁ hn₂ h₂ hmax).mp hread⟩
  · rintro ⟨haccepted, hrefused, hreadable⟩
    refine ⟨?_, (read_append_iff hn₁ h₁ hn₂ h₂ hmax).mpr hreadable⟩
    by_cases haccepts : volume.Accepts sector (b₁ ++ b₂).length
    · exact (write_append_of_accepts hn₁ h₁ hn₂ h₂ haccepts).mpr (haccepted haccepts)
    · exact (write_append_of_refused hn₁ h₁ hn₂ h₂ haccepts).mpr (hrefused haccepts)

end Law

/-- Two buffers of whole sectors obey the law exactly when the second one is treated in one
call as it is in its own. -/
theorem storeLaw_iff (P : CipherSuite) (volume : OpenVolume) (sector : UInt64) (b₁ b₂ : Bytes)
    (hpos₁ : 0 < b₁.length) (hpos₂ : 0 < b₂.length) (hsectors₁ : b₁.length % 512 = 0)
    (hsectors₂ : b₂.length % 512 = 0) (hmax : volume.file.contents.length ≤ maxPosition) :
    StoreLaw P volume sector b₁ b₂ ↔ OneUnit P volume sector b₁ b₂ := by
  obtain ⟨n₁, h₁⟩ : ∃ n, b₁.length = n * 512 := ⟨b₁.length / 512, by omega⟩
  obtain ⟨n₂, h₂⟩ : ∃ n, b₂.length = n * 512 := ⟨b₂.length / 512, by omega⟩
  exact storeLaw_iff_oneUnit (by omega) h₁ (by omega) h₂ hmax

section Sample

/-! A volume of 256 KiB under the all-zero AES key, on a file of zeros, and its first two
sectors. -/

/-- AES-256 under the zero key: what the two sectors ask for, the data-unit numbers `0` and `1`
and the block that decrypts the tweak of block 32. -/
def zeroKeyUnits : CipherSuite := CipherSuite.ofPairs
  [(0, 0x8720849214A248AD898940A278C095DC), (1, 0xD33CA5BF3E13934568B84F6BD8F37552),
    (0x3F6034BE28B4ED19CA2D4A986C9AA163, 0x14A248AD898940A278C0959C05A1D6FE)]

def zeroXts : XtsMode :=
  ⟨⟨.aes, List.replicate 32 0, length_zeroKey⟩, ⟨.aes, List.replicate 32 0, length_zeroKey⟩⟩

def zeroResult : OpenResult where
  headerCipher := .aes
  dataCipher := .aes
  kdf := .pbkdf2Sha512
  pim := 1
  iterations := 16000
  memoryCostKib := none
  masterKey := List.replicate 64 0
  dataOffset := 262144
  dataLength := 262144
  salt := List.replicate pkcs5SaltSize 0
  header := { VolumeHeader.new with
    volumeSize := 262144
    encryptedAreaStart := 262144
    encryptedAreaLength := 262144 }
  usedBackupHeader := false
  volumeType := .normal

def zeroVolume : OpenVolume where
  inner := zeroResult
  file := ⟨List.replicate 524288 0, 0, 0⟩
  cipher := .single zeroXts
  readOnly := false
  protectedRange := none
  hiddenProtectionTriggered := false

def zeroSector : Bytes := List.replicate 512 0

private theorem zeroVolume_spec : zeroSector.length = 512 ∧
    zeroVolume.file.contents.length = 524288 ∧
      zeroVolume.file.contents.length ≤ maxPosition := by
  have hlen : zeroVolume.file.contents.length = 524288 := List.length_replicate
  refine ⟨List.length_replicate, hlen, ?_⟩
  rw [hlen, maxPosition]
  norm_num

theorem storeLaw_zeroVolume_iff : StoreLaw zeroKeyUnits zeroVolume 0 zeroSector zeroSector ↔
    OneUnit zeroKeyUnits zeroVolume 0 zeroSector zeroSector := by
  obtain ⟨hsector, -, hmax⟩ := zeroVolume_spec
  exact storeLaw_iff zeroKeyUnits zeroVolume 0 zeroSector zeroSector (by omega) (by omega)
    (by omega) (by omega) hmax

/-- The second of two zero sectors reads differently in one call and in its own. -/
theorem zeroVolume_breaks_storeLaw :
    createSectorCipher .aes zeroVolume.inner.masterKey = .ok zeroVolume.cipher ∧
      ¬ StoreLaw zeroKeyUnits zeroVolume 0 zeroSector zeroSector := by
  obtain ⟨hsector, hlen, hmax⟩ := zeroVolume_spec
  refine ⟨rfl, fun hlaw => ?_⟩
  have hone : zeroSector.length = 1 * 512 := hsector
  have hunit := (storeLaw_iff_oneUnit Nat.one_pos hone Nat.one_pos hone hmax).mp hlaw
  have hposition : zeroVolume.position 0 = 262144 := by decide
  have hblock := hunit.readable (by rw [hlen, hposition, List.length_append, hsector]; omega) 0
    (by rw [length_slice_of_le (by rw [hlen, hposition, hsector]; omega), hsector]; omega)
  have hzeros : slice (slice zeroVolume.file.contents (zeroVolume.position 0 + zeroSector.length)
      zeroSector.length) (0 * 16) 16 = List.replicate 16 0 := by
    rw [hsector, hposition, slice_slice (by omega)]
    exact slice_replicate (by omega) 0
  rw [hzeros, hsector] at hblock
  revert hblock
  decide +kernel

end Sample

end Oxhide.UserStoreLaw
