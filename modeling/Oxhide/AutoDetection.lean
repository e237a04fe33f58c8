import Oxhide.SealedHeaders

/-! # Auto-detection and explicit opening

The opener that detects the key derivation tries all of them on every slot, the other one
only the given one. What the first finds the second finds too, with the derivation that the
result names, and a volume that the second opens with some derivation is opened by the
first. -/
namespace Oxhide.AutoDetection
open BlockCiphers CipherTypes KeyDerivation OpeningSearch SealedHeaders VolumeErrors VolumeOpening
  WordBytes

section Nested
variable {α β γ : Type} {f : α → β → Option γ} {xs : List α} {ys : List β} {r : γ}

/-- The first hit of two nested searches is the first hit for the inner value alone. -/
theorem exists_findSome?_of_nested (h : xs.findSome? (fun x => ys.findSome? (f x)) = some r) :
    ∃ y ∈ ys, (∃ x ∈ xs, f x y = some r) ∧ xs.findSome? (fun x => f x y) = some r := by
  induction xs with
  | nil => cases h
  | cons x xs ih =>
    rw [List.findSome?_cons] at h
    cases hx : ys.findSome? (f x) with
    | none =>
      rw [hx] at h
      obtain ⟨y, hy, ⟨x', hx', hhit⟩, hfirst⟩ := ih h
      refine ⟨y, hy, ⟨x', List.mem_cons_of_mem x hx', hhit⟩, ?_⟩
      rw [List.findSome?_cons, List.findSome?_eq_none_iff.mp hx y hy]
      exact hfirst
    | some hit =>
      rw [hx] at h
      obtain rfl := Option.some.inj h
      obtain ⟨y, hy, hhit⟩ := List.exists_of_findSome?_eq_some hx
      exact ⟨y, hy, ⟨x, List.mem_cons_self, hhit⟩, by rw [List.findSome?_cons, hhit]⟩

variable (f) in
/-- A hit for one inner value makes the nested search succeed. -/
theorem exists_nested_of_findSome? {y : β} (hy : y ∈ ys)
    (h : xs.findSome? (fun x => f x y) = some r) :
    ∃ r', xs.findSome? (fun x => ys.findSome? (f x)) = some r' := by
  obtain ⟨x, hx, hhit⟩ := List.exists_of_findSome?_eq_some h
  rw [← Option.isSome_iff_exists, List.findSome?_isSome_iff]
  refine ⟨x, hx, ?_⟩
  rw [List.findSome?_isSome_iff]
  exact ⟨y, hy, by rw [hhit]; rfl⟩

end Nested

section Search
variable {P : CipherSuite} {file : Except String Bytes} {credentials : Credentials}
  {candidates : List KdfCandidate} {kdf : KdfCandidate} {r : OpenResult}

/-- A result names the key derivation that it was found with. -/
private theorem result_kdf {data password : Bytes} {slot : HeaderLayout × ℕ}
    (h : (CipherType.allSupported.findSome? fun cipher =>
      attempt P data password ⟨slot, kdf, cipher⟩) = some r) :
    r.kdf = kdf.algorithm ∧ r.pim = kdf.pim := by
  obtain ⟨cipher, -, hattempt⟩ := List.exists_of_findSome?_eq_some h
  rw [attempt] at hattempt
  split at hattempt
  · cases hattempt
  · next hlong =>
    obtain ⟨_, _, _, -, -, -, rfl⟩ := attemptOn_eq_some (not_lt.mp hlong) hattempt
    exact ⟨rfl, rfl⟩

/-- Only one of the candidates matters for a result, the one that it names. -/
theorem openVolumeWith_singleton (h : openVolumeWith P file credentials candidates = .ok r) :
    ∃ kdf ∈ candidates, r.kdf = kdf.algorithm ∧ r.pim = kdf.pim ∧
      openVolumeWith P file credentials [kdf] = .ok r := by
  obtain ⟨data, password, hfile, hmixed, hfirst⟩ := openVolumeWith_eq_ok_iff_findSome?.mp h
  rw [findSome?_attempts_eq] at hfirst
  obtain ⟨kdf, hkdf, ⟨slot, -, hhit⟩, halone⟩ := exists_findSome?_of_nested hfirst
  obtain ⟨halgorithm, hpim⟩ := result_kdf hhit
  refine ⟨kdf, hkdf, halgorithm, hpim,
    openVolumeWith_eq_ok_iff_findSome?.mpr ⟨data, password, hfile, hmixed, ?_⟩⟩
  rw [findSome?_attempts_eq, ← halone]
  congr 1
  funext slot
  rw [List.findSome?_cons, List.findSome?_nil]
  cases CipherType.allSupported.findSome? fun cipher => attempt P data password ⟨slot, kdf, cipher⟩
    <;> rfl

/-- More candidates do not lose a volume. -/
theorem exists_openVolumeWith (hkdf : kdf ∈ candidates)
    (h : openVolumeWith P file credentials [kdf] = .ok r) :
    ∃ r', openVolumeWith P file credentials candidates = .ok r' := by
  obtain ⟨data, password, hfile, hmixed, hfirst⟩ := openVolumeWith_eq_ok_iff_findSome?.mp h
  rw [findSome?_attempts_eq] at hfirst
  obtain ⟨kdf', hkdf', -, halone⟩ := exists_findSome?_of_nested hfirst
  obtain rfl := List.mem_singleton.mp hkdf'
  obtain ⟨r', hr'⟩ := exists_nested_of_findSome? (fun slot kdf =>
    CipherType.allSupported.findSome? fun cipher => attempt P data password ⟨slot, kdf, cipher⟩)
    hkdf halone
  exact ⟨r', openVolumeWith_eq_ok_iff_findSome?.mpr ⟨data, password, hfile, hmixed, by
    rw [findSome?_attempts_eq, hr']⟩⟩

end Search

/-- The two openers agree, on every file and for all credentials. -/
theorem openVolumeFile_agrees (P : CipherSuite) (K : KdfLibrary) (file : Except String Bytes)
    (credentials : Credentials) (pim : Option Int32) :
    (∀ r, openVolumeFile P K file credentials pim = .ok r →
      openVolumeFileWithKdf P K file credentials r.kdf r.pim = .ok r) ∧
    ∀ kdf r, openVolumeFileWithKdf P K file credentials kdf (pim.getD 0) = .ok r →
      ∃ r', openVolumeFile P K file credentials pim = .ok r' := by
  constructor
  · intro r hopen
    obtain ⟨candidate, hcandidate, halgorithm, hpim, halone⟩ := openVolumeWith_singleton hopen
    obtain ⟨algorithm, -, rfl⟩ := List.mem_map.mp hcandidate
    rw [makeKdfCandidate_algorithm] at halgorithm
    rw [makeKdfCandidate_pim] at hpim
    rw [openVolumeFileWithKdf, halgorithm, hpim]
    exact halone
  · intro kdf r hopen
    exact exists_openVolumeWith (List.mem_map.mpr ⟨kdf, mem_autoKdfOrder kdf, rfl⟩) hopen

end Oxhide.AutoDetection
