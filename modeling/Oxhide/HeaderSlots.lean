import Oxhide.SealedHeaders

/-! # The search for a header, slot by slot

In a file with room for four headers the opener looks at the first 512 bytes of each
slot. The volume it opens is the one of the first slot that accepts the password; what
stands in the later slots, and behind the headers, does not matter. -/
namespace Oxhide.HeaderSlots
open BlockCiphers CipherTypes HeaderEncryption HeaderFormat KeyDerivation ListSplice OpeningSearch
  SealedHeaders VolumeErrors VolumeOpening WordBytes

/-- Where the headers of the outer volume and those of the hidden one are. -/
def normalOffsets (fileSize : ℕ) : List ℕ := [0, fileSize - 2 * volumeHeaderSize]

def hiddenOffsets (fileSize : ℕ) : List ℕ := [volumeHeaderSize, fileSize - volumeHeaderSize]

section Search
variable (P : CipherSuite) (data password : Bytes) (candidates : List KdfCandidate)

/-- What a slot opens to. -/
def slotResult (slot : HeaderLayout × ℕ) : Option OpenResult :=
  candidates.findSome? (tryKdf P (headerAt data slot.2) password (slotIsBackup slot))

/-- The first slot that opens. -/
def acceptingSlot : Option (HeaderLayout × ℕ) :=
  (slots data.length).find? fun slot => (slotResult P data password candidates slot).isSome

end Search

/-- The credentials open the file, and what they open is the header in `slot`. -/
structure FoundIn (P : CipherSuite) (data : Bytes) (credentials : Credentials)
    (candidates : List KdfCandidate) (password : Bytes) (slot : HeaderLayout × ℕ)
    (r : OpenResult) : Prop where
  mixed : credentials.mixed = .ok password
  opens : openVolumeWith P (.ok data) credentials candidates = .ok r
  accepting : acceptingSlot P data password candidates = some slot

variable {P : CipherSuite} {data data' password header : Bytes} {candidates : List KdfCandidate}
  {credentials : Credentials} {r : OpenResult} {slot : HeaderLayout × ℕ}

private theorem tryKdf_eq_none_iff {isBackup : Bool} {kdf : KdfCandidate} :
    tryKdf P header password isBackup kdf = none ↔
      ∀ cipher, attemptOn P password header isBackup kdf cipher = none := by
  rw [tryKdf_eq, List.findSome?_eq_none_iff]
  exact ⟨fun h cipher => h cipher (mem_allSupported cipher), fun h cipher _ => h cipher⟩

/-- A header that is rejected opens to nothing, whichever slot it stands in. -/
theorem rejects_iff (isBackup : Bool) : Rejects P password header candidates ↔
    candidates.findSome? (tryKdf P header password isBackup) = none := by
  rw [List.findSome?_eq_none_iff]
  constructor
  · intro h kdf hkdf
    exact tryKdf_eq_none_iff.mpr fun cipher => attemptOn_eq_none (h kdf hkdf cipher)
  · intro h kdf hkdf cipher
    have hnone := tryKdf_eq_none_iff.mp (h kdf hkdf) cipher
    rw [attemptOn_isBackup, Option.map_eq_none_iff] at hnone
    exact hnone

section Slots
variable (hfile : 4 * volumeHeaderSize ≤ data.length)
include hfile

/-- Every slot lies in the file, and it is read far enough. -/
theorem slot_fits {s : HeaderLayout × ℕ} (h : s ∈ slots data.length) :
    s.2 ∈ normalOffsets data.length ++ hiddenOffsets data.length ∧
      s.2 + volumeHeaderSize ≤ data.length ∧ volumeHeaderEffectiveSize ≤ s.1.readSize := by
  have hsizes : volumeHeaderEffectiveSize ≤ volumeHeaderSize := by decide
  have hpos : 0 < volumeHeaderSize := by decide
  rw [slots_eq hfile] at h
  simp only [List.mem_cons, List.not_mem_nil, or_false] at h
  rcases h with rfl | rfl | rfl | rfl | rfl
  · exact ⟨by simp [normalOffsets], by omega, hsizes⟩
  · exact ⟨by simp [normalOffsets], by omega, hsizes⟩
  · exact ⟨by simp [normalOffsets], by omega, le_refl 512⟩
  · exact ⟨by simp [hiddenOffsets], by omega, hsizes⟩
  · exact ⟨by simp [hiddenOffsets], by omega, hsizes⟩

private theorem tryOpen_slot (P : CipherSuite) (password : Bytes) (candidates : List KdfCandidate)
    {s : HeaderLayout × ℕ} (h : s ∈ slots data.length) :
    ¬ min s.1.readSize (data.length - s.2) < volumeHeaderEffectiveSize ∧
      tryOpen P (slotHeader data s) password candidates (slotIsBackup s) =
        match slotResult P data password candidates s with
        | some result => .ok result
        | none => .error (.authFailed "Password incorrect or volume corrupted") := by
  have hsizes : volumeHeaderEffectiveSize ≤ volumeHeaderSize := by decide
  obtain ⟨-, hin, hread⟩ := slot_fits hfile h
  have hlong : ¬ min s.1.readSize (data.length - s.2) < volumeHeaderEffectiveSize := by omega
  have hlength : (slotHeader data s).length = min s.1.readSize (data.length - s.2) := by
    rw [slotHeader, length_slice]
    omega
  have htake : (slotHeader data s).take volumeHeaderEffectiveSize = headerAt data s.2 := by
    rw [slotHeader, headerAt, slice, slice, List.take_take]
    congr 1
    omega
  have hsame : tryKdf P (slotHeader data s) password (slotIsBackup s) =
      tryKdf P (headerAt data s.2) password (slotIsBackup s) := by
    funext kdf
    rw [tryKdf_eq, tryKdf_eq, ← htake]
    congr 1
    funext cipher
    rw [attemptOn_take]
  refine ⟨hlong, ?_⟩
  have hshort : ¬ (slotHeader data s).length < volumeHeaderEffectiveSize := by omega
  cases hresult : slotResult P data password candidates s with
  | some result =>
    rw [slotResult] at hresult
    simp only [tryOpen, if_neg hshort, hsame, hresult]
  | none =>
    rw [slotResult] at hresult
    simp only [tryOpen, if_neg hshort, hsame, hresult]

private theorem openSlots_eq_findSome? {ss : List (HeaderLayout × ℕ)}
    (h : ∀ s ∈ ss, s ∈ slots data.length) : openSlots P data password candidates ss =
      match ss.findSome? (slotResult P data password candidates) with
      | some result => .ok result
      | none => .error (.authFailed "Password incorrect or volume corrupted") := by
  induction ss with
  | nil => rfl
  | cons s ss ih =>
    obtain ⟨hlong, hopen⟩ := tryOpen_slot hfile P password candidates (h s List.mem_cons_self)
    rw [openSlots, if_neg hlong, hopen, List.findSome?_cons]
    cases slotResult P data password candidates s with
    | some result => rfl
    | none => exact ih fun s' hs' => h s' (List.mem_cons_of_mem s hs')

/-- A volume opens to what its accepting slot says. -/
theorem openVolumeWith_eq_ok_iff_slot (hmixed : credentials.mixed = .ok password) :
    openVolumeWith P (.ok data) credentials candidates = .ok r ↔
      ∃ slot, acceptingSlot P data password candidates = some slot ∧
        slotResult P data password candidates slot = some r := by
  simp only [openVolumeWith, hmixed, openSlots_eq_findSome? hfile fun _ => id, acceptingSlot]
  induction slots data.length with
  | nil => simp
  | cons s ss ih =>
    rw [List.findSome?_cons, List.find?_cons]
    cases hs : slotResult P data password candidates s with
    | some result => simp [hs]
    | none => simpa using ih

theorem FoundIn.result (h : FoundIn P data credentials candidates password slot r) :
    slotResult P data password candidates slot = some r := by
  obtain ⟨slot', hslot, hresult⟩ := (openVolumeWith_eq_ok_iff_slot hfile h.mixed).mp h.opens
  obtain rfl := Option.some.inj (h.accepting.symm.trans hslot)
  exact hresult

/-- A volume is found in the first slot whose header is accepted. -/
theorem foundIn_of_accepts {before after : List (HeaderLayout × ℕ)} {kdf : KdfCandidate}
    {later : List KdfCandidate} {cipher : CipherType} (hmixed : credentials.mixed = .ok password)
    (hsplit : slots data.length = before ++ slot :: after)
    (hbefore : ∀ s ∈ before, Rejects P password (headerAt data s.2) (kdf :: later))
    (hearlier : NoEarlierCipher P password (headerAt data slot.2) kdf cipher)
    (haccept : attemptOn P password (headerAt data slot.2) (slotIsBackup slot) kdf cipher =
      some r) : FoundIn P data credentials (kdf :: later) password slot r := by
  have hresult : slotResult P data password (kdf :: later) slot = some r := by
    rw [slotResult, List.findSome?_cons, tryKdf_of_attemptOn hearlier haccept]
  have haccepting : acceptingSlot P data password (kdf :: later) = some slot := by
    rw [acceptingSlot, List.find?_eq_some_iff_append]
    refine ⟨by rw [hresult]; rfl, before, after, hsplit, fun s hs => ?_⟩
    rw [slotResult, (rejects_iff _).mp (hbefore s hs)]
    rfl
  exact ⟨hmixed, (openVolumeWith_eq_ok_iff_slot hfile hmixed).mpr ⟨slot, haccepting, hresult⟩,
    haccepting⟩

/-- Credentials that every slot rejects open nothing. -/
theorem openVolumeWith_ne_ok (hmixed : credentials.mixed = .ok password)
    (h : ∀ off ∈ normalOffsets data.length ++ hiddenOffsets data.length,
      Rejects P password (headerAt data off) candidates) :
    openVolumeWith P (.ok data) credentials candidates ≠ .ok r := by
  intro hopen
  obtain ⟨slot, hslot, hresult⟩ := (openVolumeWith_eq_ok_iff_slot hfile hmixed).mp hopen
  obtain ⟨hoff, -⟩ := slot_fits hfile (List.mem_of_find?_eq_some hslot)
  rw [slotResult, (rejects_iff _).mp (h slot.2 hoff)] at hresult
  cases hresult

/-- Changing other headers to ones that the password does not open changes nothing for it. -/
theorem openVolumeWith_of_headers (hfound : FoundIn P data credentials candidates password slot r)
    (hlen : data'.length = data.length) (hsame : headerAt data' slot.2 = headerAt data slot.2)
    (hother : ∀ off ∈ normalOffsets data.length ++ hiddenOffsets data.length,
      headerAt data' off = headerAt data off ∨ Rejects P password (headerAt data' off) candidates) :
    openVolumeWith P (.ok data') credentials candidates = .ok r := by
  have hresult' : slotResult P data' password candidates slot = some r := by
    rw [slotResult, hsame]
    exact hfound.result hfile
  have hslot := hfound.accepting
  refine (openVolumeWith_eq_ok_iff_slot (by omega) hfound.mixed).mpr ⟨slot, ?_, hresult'⟩
  rw [acceptingSlot, List.find?_eq_some_iff_append] at hslot ⊢
  obtain ⟨-, before, after, hsplit, hbefore⟩ := hslot
  refine ⟨by rw [hresult']; rfl, before, after, by rw [hlen, hsplit], fun s hs => ?_⟩
  have hnone := hbefore s hs
  have hmem : s ∈ slots data.length := hsplit ▸ List.mem_append_left _ hs
  rcases hother s.2 (slot_fits hfile hmem).1 with heq | hreject
  · rw [slotResult, heq]
    exact hnone
  · rw [slotResult, (rejects_iff _).mp hreject]
    rfl

/-- Where the accepting slot can be. -/
theorem offset_cases (hfound : FoundIn P data credentials candidates password slot r) :
    slot.2 = 0 ∨ slot.2 = data.length - 2 * volumeHeaderSize ∨
      slot.2 ∈ hiddenOffsets data.length := by
  obtain ⟨hoff, -⟩ := slot_fits hfile (List.mem_of_find?_eq_some hfound.accepting)
  simpa [normalOffsets, or_assoc] using hoff

/-- What is found at the start of the file stays found as long as that header stays. -/
theorem openVolumeWith_of_first (hfound : FoundIn P data credentials candidates password slot r)
    (hslot : slot.2 = 0) (hlen : data'.length = data.length)
    (hsame : headerAt data' 0 = headerAt data 0) :
    openVolumeWith P (.ok data') credentials candidates = .ok r := by
  have hpos : 0 < volumeHeaderSize := by decide
  have hbackup : slotIsBackup slot = slotIsBackup (.v2Normal data.length, 0) := by
    have hmem := List.mem_of_find?_eq_some hfound.accepting
    rw [slots_eq hfile] at hmem
    simp only [List.mem_cons, List.not_mem_nil, or_false] at hmem
    rcases hmem with rfl | rfl | rfl | rfl | rfl
    · rfl
    · rw [← hslot]
    · simp only [slotIsBackup, HeaderLayout.v1Legacy, HeaderLayout.v2Normal, Option.some.injEq,
        reduceCtorEq, decide_false]
      exact (decide_eq_false (by omega)).symm
    · exact absurd hslot hpos.ne'
    · exact absurd hslot (by simp only; omega)
  have hresult := hfound.result hfile
  rw [slotResult, hbackup, hslot, ← hsame, ← hlen] at hresult
  refine (openVolumeWith_eq_ok_iff_slot (by omega) hfound.mixed).mpr
    ⟨(.v2Normal data'.length, 0), ?_, hresult⟩
  rw [acceptingSlot, slots_eq (hfile.trans_eq hlen.symm), List.find?_cons, slotResult, hresult]
  rfl

/-- The slots in front of the accepting one reject the password. -/
theorem rejects_first (hslot : acceptingSlot P data password candidates = some slot)
    (hne : slot.2 ≠ 0) : Rejects P password (headerAt data 0) candidates := by
  rw [acceptingSlot, slots_eq hfile, List.find?_cons] at hslot
  cases hfirst : slotResult P data password candidates (.v2Normal data.length, 0) with
  | some result =>
    simp only [hfirst, Option.isSome_some, Option.some.injEq] at hslot
    exact absurd (congrArg Prod.snd hslot).symm hne
  | none => exact (rejects_iff _).mpr hfirst

end Slots

end Oxhide.HeaderSlots
