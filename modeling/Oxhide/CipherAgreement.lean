import Oxhide.HeaderEncryption
import Oxhide.SectorCiphers

/-! # Three implementations of one cascade

The user-mode sector cipher, the kernel one and the header code cut the key, order the
passes and run them by separate code. All three run the passes of `cipherChain`, so they
agree wherever two of them apply. -/
namespace Oxhide.CipherAgreement
open BlockCiphers CipherChain CipherTypes HeaderEncryption InPlaceBuffer SectorCiphers VolumeErrors
  WordBytes Xts

/-- Two runs on buffers of one program that both succeed and leave the same bytes. -/
def SameBytes {ε ε' : Type} (run : InPlace ε UInt8) (run' : InPlace ε' UInt8) (data : Bytes) :
    Prop := ∃ out, run data = (.ok (), out) ∧ run' data = (.ok (), out)

section Agreement
variable {P : CipherSuite} {cipher : CipherType} {key : Bytes} {chain : List XtsMode}
  {sc : SectorCipher} {kc : KernelSectorCipher}

/-- On a sector the two sector ciphers with one chain agree. -/
theorem sector_agree (hchain : sc.chain = kc.chain) (n : UInt64) {data : Bytes}
    (h : data.length = 512) : SameBytes (sc.encryptSector P n) (kc.encryptSector P n) data ∧
      SameBytes (sc.decryptSector P n) (kc.decryptSector P n) data := by
  constructor
  · refine ⟨_, sc.encryptSector_eq n (show 0 < 32 by decide) h, ?_⟩
    rw [hchain]
    exact kc.encryptSector_eq n h
  · refine ⟨_, sc.decryptSector_eq n (show 0 < 32 by decide) h, ?_⟩
    rw [hchain]
    exact kc.decryptSector_eq n h

/-- The header code is the user-mode sector cipher on data unit 0. -/
theorem header_agree (hkey : key.length = cipher.keySize * 2)
    (hchain : cipherChain cipher key = .ok sc.chain) {m : ℕ} (hm : 0 < m) {data : Bytes}
    (h : data.length = m * 16) :
    SameBytes (applyXts P cipher key true) (sc.encryptSector P 0) data ∧
      SameBytes (applyXts P cipher key false) (sc.decryptSector P 0) data := by
  obtain ⟨hencrypt, hdecrypt⟩ := applyXts_eq (P := P) hkey hchain hm h
  exact ⟨⟨_, hencrypt, sc.encryptSector_eq 0 hm h⟩, ⟨_, hdecrypt, sc.decryptSector_eq 0 hm h⟩⟩

end Agreement

/-- For every cipher and every key of its length the three implementations agree. -/
theorem cascades_agree (P : CipherSuite) (cipher : CipherType) (key : Bytes)
    (hkey : key.length = cipher.keySize * 2) :
    ∃ sc kc, createSectorCipher cipher key = .ok sc ∧ KernelSectorCipher.new cipher key = .ok kc ∧
      (∀ (n : UInt64) (data : Bytes), data.length = 512 →
        SameBytes (sc.encryptSector P n) (kc.encryptSector P n) data ∧
        SameBytes (sc.decryptSector P n) (kc.decryptSector P n) data) ∧
      ∀ data : Bytes, 0 < data.length → 16 ∣ data.length →
        SameBytes (applyXts P cipher key true) (sc.encryptSector P 0) data ∧
        SameBytes (applyXts P cipher key false) (sc.decryptSector P 0) data := by
  obtain ⟨sc, hsc, hchain⟩ := createSectorCipher_of_length hkey
  obtain ⟨kc, hkc, hchain'⟩ := KernelSectorCipher.new_of_length hkey
  have hsame : sc.chain = kc.chain := Except.ok.inj (hchain.symm.trans hchain')
  refine ⟨sc, kc, hsc, hkc, fun n data h => sector_agree hsame n h, fun data hpos hdvd => ?_⟩
  obtain ⟨m, hm⟩ := hdvd
  exact header_agree hkey hchain (show 0 < m by omega) (show data.length = m * 16 by omega)

/-- The cascade of AES, Twofish and Serpent with zeros as key, whatever the three are. -/
theorem cascades_agree_aesTwofishSerpent : ∃ key, key = List.replicate 192 0 ∧ ∀ P, ∃ sc kc,
    createSectorCipher .aesTwofishSerpent key = .ok sc ∧
      KernelSectorCipher.new .aesTwofishSerpent key = .ok kc ∧
      SameBytes (sc.encryptSector P 5) (kc.encryptSector P 5) (List.replicate 512 1) := by
  refine ⟨_, rfl, fun P => ?_⟩
  obtain ⟨sc, kc, hsc, hkc, hsector, -⟩ :=
    cascades_agree P .aesTwofishSerpent (List.replicate 192 0) List.length_replicate
  exact ⟨sc, kc, hsc, hkc, (hsector 5 (List.replicate 512 1) List.length_replicate).1⟩

end Oxhide.CipherAgreement
