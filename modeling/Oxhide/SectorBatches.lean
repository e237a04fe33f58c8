import Oxhide.SectorIo

/-! # Batches of sectors

A batch maps every sector on its own, by the unit with the sector's number. So it can be
undone, it can be cut anywhere, and what is behind the batch stays. -/
namespace Oxhide.SectorBatches
open BlockCiphers CipherChain CipherTypes InPlaceBuffer ListBlocks ListSplice SectorCiphers SectorIo
  WordBytes Xts

/-- The bytes behind the first `n` blocks. -/
theorem drop_mapBlocks {w : ℕ} {f : ℕ → Bytes → Bytes} (hf : KeepsWidth w f) {n : ℕ} {data : Bytes}
    (h : n * w ≤ data.length) : (mapBlocks w f n data).drop (n * w) = data.drop (n * w) := by
  have hlen := length_mapBlocks hf h
  have hslice := slice_mapBlocks_of_le hf h (m := data.length) (le_refl (n * w))
  rwa [slice, slice, List.take_of_length_le (by rw [List.length_drop]; omega),
    List.take_of_length_le (by rw [List.length_drop]; omega)] at hslice

/-- A direction of the batches: the routine, and the map of one sector. -/
structure Batch (run : UInt64 → ℕ → InPlace CryptoError UInt8) (unit : UInt64 → Bytes → Bytes) :
    Prop where
  width : ∀ s, ∀ blk : Bytes, blk.length = 512 → (unit s blk).length = 512
  run_eq : ∀ first n data, n * 512 ≤ data.length →
    run first n data = (.ok (), mapBlocks 512 (fun i => unit (first + UInt64.ofNat i)) n data)

theorem batch_encrypt (P : CipherSuite) (kc : KernelSectorCipher) :
    Batch (encryptSectors P kc) fun s => encryptUnit P kc.chain s 32 where
  width _ _ h := (length_encryptUnit (n := 32) h).trans h
  run_eq first _ _ h := encryptSectors_eq kc first h

theorem batch_decrypt (P : CipherSuite) (kc : KernelSectorCipher) :
    Batch (decryptSectors P kc) fun s => decryptUnit P kc.chain s 32 where
  width _ _ h := (length_decryptUnit (n := 32) h).trans h
  run_eq first _ _ h := decryptSectors_eq kc first h

/-- What a batch does: nothing behind it, every sector by itself, and any two parts in turn. -/
structure Local (run : UInt64 → ℕ → InPlace CryptoError UInt8) (unit : UInt64 → Bytes → Bytes)
    (first : UInt64) (n : ℕ) (data out : Bytes) : Prop where
  runs : run first n data = (.ok (), out)
  length : out.length = data.length
  behind : out.drop (512 * n) = data.drop (512 * n)
  sector : ∀ i < n, slice out (512 * i) 512 =
    unit (first + UInt64.ofNat i) (slice data (512 * i) 512)
  parts : ∀ a b, n = a + b → ∃ front back,
    run first a (data.take (512 * a)) = (.ok (), front) ∧
      run (first + UInt64.ofNat a) b (data.drop (512 * a)) = (.ok (), back) ∧ out = front ++ back

section Laws
variable {run : UInt64 → ℕ → InPlace CryptoError UInt8} {unit unit' : UInt64 → Bytes → Bytes}
  {first : UInt64} {n : ℕ} {data : Bytes}

theorem Batch.keepsWidth (h : Batch run unit) (first : UInt64) :
    KeepsWidth 512 (fun i => unit (first + UInt64.ofNat i)) := fun _ blk hblk => h.width _ blk hblk

theorem Batch.exists_local (h : Batch run unit) (first : UInt64) (hdata : n * 512 ≤ data.length) :
    ∃ out, Local run unit first n data out := by
  have hwidth := h.keepsWidth first
  refine ⟨_, h.run_eq first n data hdata, length_mapBlocks hwidth hdata, ?_, fun i hi => ?_, ?_⟩
  · rw [mul_comm]
    exact drop_mapBlocks hwidth hdata
  · rw [mul_comm]
    exact slice_mapBlocks hwidth hdata hi
  · rintro a b rfl
    have hfront : (data.take (512 * a)).length = a * 512 := by
      rw [List.length_take]
      omega
    have hback : b * 512 ≤ (data.drop (512 * a)).length := by
      rw [List.length_drop]
      exact Nat.le_sub_of_add_le (by linarith)
    refine ⟨_, _, h.run_eq first a _ hfront.ge, h.run_eq _ b _ hback, ?_⟩
    have happend := mapBlocks_append hwidth hfront hback
    rw [List.take_append_drop] at happend
    rw [happend]
    congr 1
    refine mapBlocks_congr (fun i _ => ?_) _
    rw [UInt64.ofNat_add, UInt64.add_assoc]

/-- One direction undoes the other. -/
theorem Batch.run_local {run' : UInt64 → ℕ → InPlace CryptoError UInt8} (h : Batch run unit)
    (h' : Batch run' unit') (hinv : ∀ s, ∀ blk : Bytes, blk.length = 512 →
      unit' s (unit s blk) = blk) {out : Bytes} (hdata : n * 512 ≤ data.length)
    (hout : Local run unit first n data out) : run' first n out = (.ok (), data) := by
  have hlocal : out = mapBlocks 512 (fun i => unit (first + UInt64.ofNat i)) n data :=
    (Prod.mk.inj (hout.runs.symm.trans (h.run_eq first n data hdata))).2
  rw [h'.run_eq first n out (hout.length ▸ hdata), hlocal,
    mapBlocks_mapBlocks (h'.keepsWidth first) (h.keepsWidth first) hdata]
  refine congrArg (Prod.mk _) (mapBlocks_eq_self
    ((h'.keepsWidth first).comp (h.keepsWidth first)) hdata fun i hi => ?_)
  have hend : (i + 1) * 512 ≤ n * 512 := Nat.mul_le_mul_right 512 hi
  exact hinv _ _ (length_slice_of_le (by linarith))

end Laws

/-- Batches are invertible and local, under every cipher and key. -/
theorem sectorBatches (P : CipherSuite) (cipher : CipherType) (key : Bytes)
    (hkey : key.length = cipher.keySize * 2) :
    ∃ kc, KernelSectorCipher.new cipher key = .ok kc ∧ ∃ encUnit decUnit : UInt64 → Bytes → Bytes,
      ∀ (first : UInt64) (n : ℕ) (data : Bytes), first.toNat + n < 2 ^ 64 →
        512 * n ≤ data.length → ∃ enc dec,
          Local (encryptSectors P kc) encUnit first n data enc ∧
          Local (decryptSectors P kc) decUnit first n data dec ∧
          decryptSectors P kc first n enc = (.ok (), data) ∧
          encryptSectors P kc first n dec = (.ok (), data) := by
  obtain ⟨kc, hnew, -⟩ := KernelSectorCipher.new_of_length hkey
  have henc := batch_encrypt P kc
  have hdec := batch_decrypt P kc
  refine ⟨kc, hnew, fun s => encryptUnit P kc.chain s 32, fun s => decryptUnit P kc.chain s 32,
    fun first n data _ hdata => ?_⟩
  have hdata' : n * 512 ≤ data.length := by omega
  obtain ⟨enc, hencrypted⟩ := henc.exists_local first hdata'
  obtain ⟨dec, hdecrypted⟩ := hdec.exists_local first hdata'
  exact ⟨enc, dec, hencrypted, hdecrypted,
    henc.run_local hdec (fun s blk h => decryptUnit_encryptUnit (n := 32) h) hdata' hencrypted,
    hdec.run_local henc (fun s blk h => encryptUnit_decryptUnit (n := 32) h) hdata' hdecrypted⟩

/-- Two sectors under AES with zeros as key, whatever AES is. -/
theorem sectorBatches_aes : ∃ key, key = List.replicate 64 0 ∧ ∀ P, ∃ kc,
    KernelSectorCipher.new .aes key = .ok kc ∧
      ∀ data, data.length = 1024 → ∃ enc, encryptSectors P kc 7 2 data = (.ok (), enc) ∧
        decryptSectors P kc 7 2 enc = (.ok (), data) := by
  refine ⟨_, rfl, fun P => ?_⟩
  obtain ⟨kc, hnew, _, _, hbatch⟩ := sectorBatches P .aes (List.replicate 64 0) (by decide)
  refine ⟨kc, hnew, fun data hdata => ?_⟩
  obtain ⟨enc, _, hencrypted, -, hback, -⟩ := hbatch 7 2 data (by decide) (by omega)
  exact ⟨enc, hencrypted.runs, hback⟩

end Oxhide.SectorBatches
