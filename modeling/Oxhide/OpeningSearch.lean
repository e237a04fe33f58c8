import Oxhide.VolumeOpening

/-! # The search for a header as one list of attempts

An attempt is a slot, a key derivation and a cipher. Opening a file takes the
result of the first attempt that has one, in the order in which the loops are
nested, and an attempt looks at nothing but the first 512 bytes of its slot. -/
namespace Oxhide.OpeningSearch
open BlockCiphers CipherChain CipherTypes HeaderEncryption HeaderFormat KeyDerivation ListSplice
  VolumeErrors VolumeOpening WordBytes

structure Attempt where
  slot : HeaderLayout × ℕ
  kdf : KdfCandidate
  cipher : CipherType

section Attempts
variable (P : CipherSuite) (data password : Bytes)

/-- An attempt on a slot's bytes. -/
def attemptOn (header : Bytes) (isBackup : Bool) (kdf : KdfCandidate) (cipher : CipherType) :
    Option OpenResult :=
  match kdf.implementation.derive password (header.take pkcs5SaltSize) kdf.iterations
      maxHeaderKeySize with
  | .error _ => none
  | .ok key =>
    (tryDecrypt P header cipher (key.take (cipher.keySize * 2)) kdf isBackup).toOption

def attempt (a : Attempt) : Option OpenResult :=
  if (slotHeader data a.slot).length < volumeHeaderEffectiveSize then none
  else attemptOn P password (slotHeader data a.slot) (slotIsBackup a.slot) a.kdf a.cipher

/-- The attempts in the order of the nested loops. -/
def attempts (candidates : List KdfCandidate) (ss : List (HeaderLayout × ℕ)) : List Attempt :=
  ss.flatMap fun slot => candidates.flatMap fun kdf => CipherType.allSupported.map fun cipher =>
    ⟨slot, kdf, cipher⟩

variable {P data password}

theorem tryKdf_eq (header : Bytes) (isBackup : Bool) (kdf : KdfCandidate) :
    tryKdf P header password isBackup kdf =
      CipherType.allSupported.findSome? (attemptOn P password header isBackup kdf) := by
  rw [tryKdf]
  unfold attemptOn
  cases kdf.implementation.derive password (header.take pkcs5SaltSize) kdf.iterations
    maxHeaderKeySize with
  | error e => exact (List.findSome?_eq_none_iff.mpr fun _ _ => rfl).symm
  | ok key => rfl

theorem findSome?_flatMap {α β γ : Type} (f : α → Option β) (g : γ → List α)
    (xs : List γ) : (xs.flatMap g).findSome? f = xs.findSome? fun x => (g x).findSome? f := by
  induction xs with
  | nil => rfl
  | cons x xs ih =>
    rw [List.flatMap_cons, List.findSome?_append, ih, List.findSome?_cons]
    cases (g x).findSome? f <;> rfl

theorem findSome?_congr {α β : Type} {f g : α → Option β} {xs : List α}
    (h : ∀ x ∈ xs, f x = g x) : xs.findSome? f = xs.findSome? g := by
  induction xs with
  | nil => rfl
  | cons x xs ih =>
    rw [List.findSome?_cons, List.findSome?_cons, h x List.mem_cons_self,
      ih fun y hy => h y (List.mem_cons_of_mem x hy)]

theorem length_slotHeader (slot : HeaderLayout × ℕ) :
    (slotHeader data slot).length = min slot.1.readSize (data.length - slot.2) := by
  rw [slotHeader, length_slice]
  omega

/-- Opening is the search through the attempts. -/
theorem openSlots_eq (candidates : List KdfCandidate) (ss : List (HeaderLayout × ℕ)) :
    openSlots P data password candidates ss =
      match (attempts candidates ss).findSome? (attempt P data password) with
      | some result => .ok result
      | none => .error (.authFailed "Password incorrect or volume corrupted") := by
  induction ss with
  | nil => rfl
  | cons slot rest ih =>
    have hsplit : (attempts candidates (slot :: rest)).findSome? (attempt P data password) =
        (candidates.findSome? fun kdf => CipherType.allSupported.findSome? fun cipher =>
          attempt P data password ⟨slot, kdf, cipher⟩).or
        ((attempts candidates rest).findSome? (attempt P data password)) := by
      rw [attempts, List.flatMap_cons, List.findSome?_append, ← attempts, findSome?_flatMap]
      congr 2
    rw [openSlots, ← length_slotHeader, hsplit]
    by_cases hshort : (slotHeader data slot).length < volumeHeaderEffectiveSize
    · have hnone (kdf : KdfCandidate) (cipher : CipherType) :
          attempt P data password ⟨slot, kdf, cipher⟩ = none := by
        rw [attempt, if_pos hshort]
      have hskip : (candidates.findSome? fun kdf => CipherType.allSupported.findSome? fun cipher =>
          attempt P data password ⟨slot, kdf, cipher⟩) = none := by
        simp [hnone]
      rw [if_pos hshort, ih, hskip, Option.none_or]
    · have hsame : (candidates.findSome? fun kdf => CipherType.allSupported.findSome? fun cipher =>
            attempt P data password ⟨slot, kdf, cipher⟩) =
          candidates.findSome? (tryKdf P (slotHeader data slot) password (slotIsBackup slot)) := by
        congr 1
        funext kdf
        rw [tryKdf_eq]
        congr 1
        funext cipher
        rw [attempt, if_neg hshort]
      simp only [hshort, if_false, hsame, tryOpen, ih]
      cases candidates.findSome? (tryKdf P (slotHeader data slot) password (slotIsBackup slot)) with
      | none => rfl
      | some result => rfl

theorem mem_attempts {candidates : List KdfCandidate} {ss : List (HeaderLayout × ℕ)} {a : Attempt} :
    a ∈ attempts candidates ss ↔ a.slot ∈ ss ∧ a.kdf ∈ candidates := by
  simp only [attempts, List.mem_flatMap, List.mem_map]
  constructor
  · rintro ⟨slot, hslot, kdf, hkdf, cipher, -, rfl⟩
    exact ⟨hslot, hkdf⟩
  · rintro ⟨hslot, hkdf⟩
    exact ⟨a.slot, hslot, a.kdf, hkdf, a.cipher, mem_allSupported a.cipher, rfl⟩

/-- The three loops as nested searches. -/
theorem findSome?_attempts_eq (candidates : List KdfCandidate) (ss : List (HeaderLayout × ℕ)) :
    (attempts candidates ss).findSome? (attempt P data password) =
      ss.findSome? fun slot => candidates.findSome? fun kdf =>
        CipherType.allSupported.findSome? fun cipher =>
          attempt P data password ⟨slot, kdf, cipher⟩ := by
  rw [attempts, findSome?_flatMap]
  congr 1
  funext slot
  rw [findSome?_flatMap]
  simp only [List.findSome?_map, Function.comp_def]

/-- The attempt that an opener returns is the first one with a result. -/
theorem openVolumeWith_eq_ok_iff {file : Except String Bytes} {credentials : Credentials}
    {candidates : List KdfCandidate} {r : OpenResult} :
    openVolumeWith P file credentials candidates = .ok r ↔
      ∃ data password before a after, file = .ok data ∧ credentials.mixed = .ok password ∧
        attempts candidates (slots data.length) = before ++ a :: after ∧
        attempt P data password a = some r ∧ ∀ b ∈ before, attempt P data password b = none := by
  constructor
  · intro h
    cases hfile : file with
    | error e => simp [openVolumeWith, hfile] at h
    | ok data =>
      cases hmixed : credentials.mixed with
      | error e => simp [openVolumeWith, hfile, hmixed] at h
      | ok password =>
        simp only [openVolumeWith, hfile, hmixed, openSlots_eq] at h
        split at h
        · next result hresult =>
          obtain rfl := Except.ok.inj h
          obtain ⟨before, a, after, hsplit, ha, hbefore⟩ := List.findSome?_eq_some_iff.mp hresult
          exact ⟨data, password, before, a, after, rfl, rfl, hsplit, ha, hbefore⟩
        · cases h
  · rintro ⟨data, password, before, a, after, rfl, hmixed, hsplit, ha, hbefore⟩
    have hfirst := List.findSome?_eq_some_iff.mpr ⟨before, a, after, hsplit, ha, hbefore⟩
    simp only [openVolumeWith, hmixed, openSlots_eq, hfirst]

theorem openVolumeWith_eq_ok_iff_findSome? {file : Except String Bytes} {credentials : Credentials}
    {candidates : List KdfCandidate} {r : OpenResult} :
    openVolumeWith P file credentials candidates = .ok r ↔
      ∃ data password, file = .ok data ∧ credentials.mixed = .ok password ∧
        (attempts candidates (slots data.length)).findSome? (attempt P data password) =
          some r := by
  rw [openVolumeWith_eq_ok_iff]
  constructor
  · rintro ⟨data, password, before, a, after, hfile, hmixed, hfirst⟩
    exact ⟨data, password, hfile, hmixed,
      List.findSome?_eq_some_iff.mpr ⟨before, a, after, hfirst⟩⟩
  · rintro ⟨data, password, hfile, hmixed, hfirst⟩
    obtain ⟨before, a, after, hsplit⟩ := List.findSome?_eq_some_iff.mp hfirst
    exact ⟨data, password, before, a, after, hfile, hmixed, hsplit⟩

theorem openVolumeWith_of_findSome? {credentials : Credentials} {candidates : List KdfCandidate}
    {r : OpenResult} (hmixed : credentials.mixed = .ok password)
    (h : (attempts candidates (slots data.length)).findSome? (attempt P data password) = some r) :
    openVolumeWith P (.ok data) credentials candidates = .ok r := by
  simp only [openVolumeWith, hmixed, openSlots_eq, h]

/-- The first attempt with a result, by its place in the three loops. -/
theorem findSome?_attempts {ks₁ ks₂ : List KdfCandidate} {kdf : KdfCandidate}
    (ss₁ : List (HeaderLayout × ℕ)) {ss₂ : List (HeaderLayout × ℕ)} {slot : HeaderLayout × ℕ}
    {cs₁ cs₂ : List CipherType}
    {cipher : CipherType} {r : OpenResult}
    (hslots : ∀ s ∈ ss₁, ∀ k ∈ ks₁ ++ kdf :: ks₂, ∀ c, attempt P data password ⟨s, k, c⟩ = none)
    (hkdfs : ∀ k ∈ ks₁, ∀ c, attempt P data password ⟨slot, k, c⟩ = none)
    (hall : CipherType.allSupported = cs₁ ++ cipher :: cs₂)
    (hciphers : ∀ c ∈ cs₁, attempt P data password ⟨slot, kdf, c⟩ = none)
    (ha : attempt P data password ⟨slot, kdf, cipher⟩ = some r) :
    (attempts (ks₁ ++ kdf :: ks₂) (ss₁ ++ slot :: ss₂)).findSome? (attempt P data password) =
      some r := by
  have hearlier : (attempts (ks₁ ++ kdf :: ks₂) ss₁).findSome? (attempt P data password) =
      none := by
    rw [List.findSome?_eq_none_iff]
    rintro ⟨s, k, c⟩ hmem
    obtain ⟨hs, hk⟩ := mem_attempts.mp hmem
    exact hslots s hs k hk c
  have hslot : (ks₁ ++ kdf :: ks₂).findSome? (fun k => CipherType.allSupported.findSome? fun c =>
      attempt P data password ⟨slot, k, c⟩) = some r := by
    have hks : ks₁.findSome? (fun k => CipherType.allSupported.findSome? fun c =>
        attempt P data password ⟨slot, k, c⟩) = none := by
      rw [List.findSome?_eq_none_iff]
      intro k hk
      rw [List.findSome?_eq_none_iff]
      exact fun c _ => hkdfs k hk c
    have hcs : cs₁.findSome? (fun c => attempt P data password ⟨slot, kdf, c⟩) = none :=
      List.findSome?_eq_none_iff.mpr hciphers
    rw [List.findSome?_append, hks, Option.none_or, List.findSome?_cons, hall,
      List.findSome?_append, hcs, Option.none_or, List.findSome?_cons, ha]
  rw [attempts, List.flatMap_append, List.findSome?_append, ← attempts, hearlier, Option.none_or,
    List.flatMap_cons, List.findSome?_append, findSome?_flatMap]
  simp only [List.findSome?_map, Function.comp_def, hslot, Option.some_or]

/-- An attempt looks at no more than 512 bytes. -/
theorem attemptOn_take (header : Bytes) (isBackup : Bool) (kdf : KdfCandidate)
    (cipher : CipherType) :
    attemptOn P password (header.take volumeHeaderEffectiveSize) isBackup kdf cipher =
      attemptOn P password header isBackup kdf cipher := by
  have hsalt : (header.take volumeHeaderEffectiveSize).take pkcs5SaltSize =
      header.take pkcs5SaltSize := by
    rw [List.take_take]
    rfl
  have hwhole : (header.take volumeHeaderEffectiveSize).take volumeHeaderEffectiveSize =
      header.take volumeHeaderEffectiveSize := by
    rw [List.take_take, Nat.min_self]
  simp only [attemptOn, tryDecrypt, hsalt, hwhole]

/-- Whether a slot is a backup is only recorded in the result. -/
theorem attemptOn_isBackup (header : Bytes) (isBackup : Bool) (kdf : KdfCandidate)
    (cipher : CipherType) :
    attemptOn P password header isBackup kdf cipher =
      (attemptOn P password header false kdf cipher).map fun r =>
        { r with usedBackupHeader := isBackup } := by
  unfold attemptOn
  split
  · rfl
  · simp only [tryDecrypt]
    split
    · rfl
    · split
      · rfl
      · split <;> rfl

/-- A header opens exactly when some attempt on its first 512 bytes does. -/
theorem exists_tryOpen_iff {header : Bytes} {candidates : List KdfCandidate} {isBackup : Bool}
    (hlong : volumeHeaderEffectiveSize ≤ header.length) :
    (∃ r, tryOpen P header password candidates isBackup = .ok r) ↔
      ∃ kdf ∈ candidates, ∃ cipher r,
        attemptOn P password (header.take volumeHeaderEffectiveSize) false kdf cipher = some r := by
  have hopen : (∃ r, tryOpen P header password candidates isBackup = .ok r) ↔
      (candidates.findSome? (tryKdf P header password isBackup)).isSome := by
    simp only [tryOpen, if_neg (not_lt.mpr hlong)]
    cases candidates.findSome? (tryKdf P header password isBackup) <;> simp
  rw [hopen, List.findSome?_isSome_iff]
  refine exists_congr fun kdf => and_congr_right fun _ => ?_
  rw [tryKdf_eq, List.findSome?_isSome_iff]
  constructor
  · rintro ⟨cipher, -, hsome⟩
    rw [attemptOn_isBackup, Option.isSome_map] at hsome
    rw [← attemptOn_take] at hsome
    exact ⟨cipher, Option.isSome_iff_exists.mp hsome⟩
  · rintro ⟨cipher, r, hr⟩
    refine ⟨cipher, mem_allSupported cipher, ?_⟩
    rw [attemptOn_isBackup, Option.isSome_map, ← attemptOn_take, hr]
    rfl

/-- A slot that lies in the file. -/
theorem attempt_eq {a : Attempt} (hin : a.slot.2 + volumeHeaderEffectiveSize ≤ data.length)
    (hread : volumeHeaderEffectiveSize ≤ a.slot.1.readSize) :
    attempt P data password a =
      attemptOn P password (slice data a.slot.2 volumeHeaderEffectiveSize) (slotIsBackup a.slot)
        a.kdf a.cipher := by
  have hlen : (slotHeader data a.slot).length = _ := length_slotHeader a.slot
  have htake : (slotHeader data a.slot).take volumeHeaderEffectiveSize =
      slice data a.slot.2 volumeHeaderEffectiveSize := by
    rw [slotHeader, slice, slice, List.take_take]
    congr 1
    omega
  rw [attempt, if_neg (by omega), ← attemptOn_take, htake]

end Attempts

section Slots

/-- In a file with room for four headers no two slots meet. -/
theorem slots_eq {n : ℕ} (h : 4 * volumeHeaderSize ≤ n) :
    slots n = [(.v2Normal n, 0), (.v2Normal n, n - 2 * volumeHeaderSize), (.v1Legacy, 0),
      (.v2Hidden n, volumeHeaderSize), (.v2Hidden n, n - volumeHeaderSize)] := by
  have hpos : 0 < volumeHeaderSize := by decide
  have hnormal : n - 2 * volumeHeaderSize < n ∧ n - 2 * volumeHeaderSize ≠ 0 := by omega
  have hhidden : n - volumeHeaderSize < n ∧ n - volumeHeaderSize ≠ volumeHeaderSize := by omega
  simp [slots, HeaderLayout.candidates, candidateOffsets, HeaderLayout.v2Normal,
    HeaderLayout.v1Legacy, HeaderLayout.v2Hidden, hnormal, hhidden]

end Slots

end Oxhide.OpeningSearch
