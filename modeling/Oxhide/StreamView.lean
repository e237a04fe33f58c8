import Oxhide.ConfinedAccess
import Oxhide.HiddenProtection

/-! # The byte stream view of an open volume

`OpenVolume` also implements the reading, seeking and writing traits of the standard
library. These calls go to the file as they are: positions are positions of the file, what
is read is the ciphertext, and what is written is neither encrypted nor compared with the
protected range. `Conforms` says that a run of such calls shows the plaintext device of
the sector interface: where the data begin at 0 and no call transfers anything it does. -/
namespace Oxhide.StreamView
open BlockCiphers ChangedHeaders ConfinedAccess DataWrites FaultyFile HeaderFormat HeaderSlots
  HiddenProtection KeyDerivation ListSplice OpeningSearch OpenVolumes SealedHeaders SectorCiphers
  VolumeCreation VolumeErrors VolumeOpening WordBytes

inductive SeekFrom where
  | fromStart (p : UInt64)
  | fromEnd (p : Int64)
  | fromCurrent (p : Int64)
  deriving DecidableEq, Repr

section Calls
variable (start stop : UInt64)

/-- The position of the file that a seek asks for. -/
def targetOf : SeekFrom → FileIo UInt8 String UInt64
  | .fromStart p => pure (start + p)
  | .fromEnd p => pure (stop.toInt64 + p).toUInt64
  | .fromCurrent p => do
    let cur ← tell
    pure ((UInt64.ofNat cur).toInt64 + p).toUInt64

/-- Seek in a file whose data area is `[start, stop)`; errors are their displayed text. -/
def seekFile (pos : SeekFrom) : FileIo UInt8 String UInt64 := do
  let target ← targetOf start stop pos
  if target < start ∨ target > stop then
    FileIo.throw "seek out of data area"
  else do
    seekStart target.toNat
    pure target

/-- Read into a buffer of `n` bytes; the file returns at most `limit` bytes. -/
def readFile (limit n : ℕ) : FileIo UInt8 String Bytes :=
  if n = 0 then pure []
  else do
    let current ← tell
    if current ≥ stop.toNat then pure []
    else readSome limit (min n (stop.toNat - current))

/-- A file that was opened for reading only takes nothing. -/
def writeFile (readOnly : Bool) (limit : ℕ) (buf : Bytes) : FileIo UInt8 String ℕ :=
  if readOnly then FileIo.throw "Bad file descriptor (os error 9)" else writeSome 0 limit buf

end Calls

inductive Call where
  | seek (pos : SeekFrom)
  | read (n : ℕ)
  | write (buf : Bytes)

inductive Reply where
  | position (p : UInt64)
  | bytes (bs : Bytes)
  | count (k : ℕ)
  | error (msg : String)
  deriving DecidableEq, Repr

/-- One call, and how the file behaves during it. -/
structure Step where
  call : Call
  plan : FaultPlan
  limit : ℕ

/-- The end of the data area. -/
def stopOf (volume : OpenVolume) : UInt64 := volume.inner.dataOffset + volume.inner.dataLength

/-- The reply to a call of the file, and the file it leaves. -/
def replyOf {β : Type} (reply : β → Reply) (m : FileIo UInt8 String β) (plan : FaultPlan)
    (volume : OpenVolume) : Reply × OpenVolume :=
  match m plan volume.file with
  | (.ok b, file) => (reply b, { volume with file := file })
  | (.error msg, file) => (.error msg, { volume with file := file })

def Step.run (step : Step) (volume : OpenVolume) : Reply × OpenVolume :=
  match step.call with
  | .seek pos =>
    replyOf .position (seekFile volume.inner.dataOffset (stopOf volume) pos) step.plan volume
  | .read n => replyOf .bytes (readFile (stopOf volume) step.limit n) step.plan volume
  | .write buf => replyOf .count (writeFile volume.readOnly step.limit buf) step.plan volume

section Device

/-! The device that the calls should show: a cursor in the plaintext of the data area. -/

/-- Where the cursor is after a reply. -/
def cursorAfter (cursor : ℕ) : Reply → ℕ
  | .position p => p.toNat
  | .bytes bs => cursor + bs.length
  | .count k => cursor + k
  | .error _ => cursor

/-- Where a seek should go, relative to the data area. -/
def target (volume : OpenVolume) (cursor : ℕ) : SeekFrom → ℤ
  | .fromStart p => p.toNat
  | .fromEnd p => volume.inner.dataLength.toNat + p.toInt
  | .fromCurrent p => cursor + p.toInt

/-- The positions of the data area, its end included. -/
def InDevice (volume : OpenVolume) (t : ℤ) : Prop := 0 ≤ t ∧ t ≤ volume.inner.dataLength.toNat

/-- A byte of the plaintext as a read of its sector gives it. -/
def plainByte (P : CipherSuite) (volume : OpenVolume) (p : ℕ) : Option UInt8 :=
  match (volume.read P (UInt64.ofNat (p / 512)) 512 noFaults).1 with
  | .ok out => out[p % 512]?
  | .error _ => none

/-- A byte of the file that no call may change. -/
def Untouchable (volume : OpenVolume) (i : ℕ) : Prop :=
  volume.readOnly = true ∨ i < volume.inner.dataOffset.toNat ∨
    volume.inner.dataOffset.toNat + volume.inner.dataLength.toNat ≤ i ∨
    ∃ range, volume.protectedRange = some range ∧ range.1.toNat ≤ i ∧ i < range.2.toNat

/-- What one call with the cursor at `cursor` should do. -/
structure StepConforms (P : CipherSuite) (cursor : ℕ) (volume : OpenVolume) (step : Step) :
    Prop where
  seeks : ∀ pos, step.call = .seek pos → (∀ k, step.plan k = none) →
    InDevice volume (target volume cursor pos) → ∃ p, (step.run volume).1 = .position p
  reports : ∀ pos p, step.call = .seek pos → (step.run volume).1 = .position p →
    (p.toNat : ℤ) = target volume cursor pos ∧ InDevice volume (target volume cursor pos)
  reads : ∀ n bs, step.call = .read n → (step.run volume).1 = .bytes bs →
    bs.length ≤ n ∧ ∀ j b, bs[j]? = some b → plainByte P volume (cursor + j) = some b
  writes : ∀ buf k, step.call = .write buf → (step.run volume).1 = .count k →
    k ≤ buf.length ∧ ∀ j < k, plainByte P (step.run volume).2 (cursor + j) = buf[j]?
  spares : ∀ i b, Untouchable volume i → volume.file.contents[i]? = some b →
    (step.run volume).2.file.contents[i]? = some b

/-- The cursor that the volume reports, when the file answers. -/
def Reports (volume : OpenVolume) (cursor : ℕ) : Prop :=
  ((Step.mk (.seek (.fromCurrent 0)) noFaults 0).run volume).1 = .position (UInt64.ofNat cursor)

/-- In every state of the run the volume reports the cursor, and every call does what it
should. -/
def Conforms (P : CipherSuite) : ℕ → OpenVolume → List Step → Prop
  | cursor, volume, [] => Reports volume cursor
  | cursor, volume, step :: steps => Reports volume cursor ∧ StepConforms P cursor volume step ∧
    Conforms P (cursorAfter cursor (step.run volume).1) (step.run volume).2 steps

end Device

/-- The calls that transfer nothing: a seek to a position that a file can have or that is
refused, a read of nothing or behind the data, a write of nothing or to a volume that is
read-only. -/
def Harmless (volume : OpenVolume) (call : Call) : Prop :=
  match call with
  | .seek pos => target volume volume.file.pos pos < 2 ^ 64 ∧
    (InDevice volume (target volume volume.file.pos pos) →
      target volume volume.file.pos pos ≤ maxPosition)
  | .read n => n = 0 ∨ volume.inner.dataLength.toNat ≤ volume.file.pos ∨
    volume.file.contents.length ≤ volume.file.pos
  | .write buf => buf = [] ∨ volume.readOnly = true

/-- Every call of the run transfers nothing. -/
def RunHarmless : OpenVolume → List Step → Prop
  | _, [] => True
  | volume, step :: steps => Harmless volume step.call ∧ RunHarmless (step.run volume).2 steps

/-- A volume that was just opened, with its file at the start. -/
inductive IsFresh (P : CipherSuite) (K : KdfLibrary) : OpenVolume → Prop
  | openWith {data : Except String Bytes} {contents : Bytes} {credentials : Credentials}
      {kdf : Option KdfAlgorithm} {pim : Option Int32} {readOnly : Bool} {volume : OpenVolume}
      (h : OpenVolume.openWith P K data (.ok ⟨contents, 0, 0⟩) credentials kdf pim readOnly =
        .ok volume) : IsFresh P K volume
  | openWithProtection {data : Except String Bytes} {contents : Bytes}
      {credentials hidden : Credentials} {kdf : Option KdfAlgorithm} {pim : Option Int32}
      {volume : OpenVolume} (h : OpenVolume.openWithProtection P K data (.ok ⟨contents, 0, 0⟩)
        credentials kdf pim hidden = .ok volume) : IsFresh P K volume

section Calls
variable {start stop : UInt64} {pos : SeekFrom} {plan : FaultPlan} {st st' : FileState UInt8}

/-- The position that `targetOf` computes when the file is at `cur`. -/
def targetWord (start stop : UInt64) (cur : ℕ) : SeekFrom → UInt64
  | .fromStart p => start + p
  | .fromEnd p => (stop.toInt64 + p).toUInt64
  | .fromCurrent p => ((UInt64.ofNat cur).toInt64 + p).toUInt64

theorem targetOf_eq_ok {p : UInt64} (h : targetOf start stop pos plan st = (.ok p, st')) :
    p = targetWord start stop st.pos pos ∧ st'.contents = st.contents ∧ st'.pos = st.pos := by
  cases pos with
  | fromStart q =>
    cases h
    exact ⟨rfl, rfl, rfl⟩
  | fromEnd q =>
    cases h
    exact ⟨rfl, rfl, rfl⟩
  | fromCurrent q =>
    obtain ⟨cur, mid, htell, hpure⟩ := FileIo.bind_eq_ok.mp h
    obtain ⟨-, rfl, rfl⟩ := tell_eq_ok.mp htell
    cases hpure
    exact ⟨rfl, rfl, rfl⟩

theorem targetOf_eq_error {msg : String}
    (h : targetOf start stop pos plan st = (.error msg, st')) :
    st'.contents = st.contents ∧ st'.pos = st.pos := by
  cases pos with
  | fromStart q => cases h
  | fromEnd q => cases h
  | fromCurrent q =>
    rcases FileIo.bind_eq_error.mp h with htell | ⟨_, _, -, hpure⟩
    · obtain rfl := tell_eq_error htell
      exact ⟨rfl, rfl⟩
    · cases hpure

/-- A seek that succeeds has gone where it should, inside the area. -/
theorem seekFile_eq_ok {p : UInt64} (h : seekFile start stop pos plan st = (.ok p, st')) :
    p = targetWord start stop st.pos pos ∧ start ≤ p ∧ p ≤ stop ∧ p.toNat ≤ maxPosition ∧
      st'.contents = st.contents ∧ st'.pos = p.toNat := by
  obtain ⟨target, mid, htarget, hrest⟩ := FileIo.bind_eq_ok.mp h
  obtain ⟨rfl, hcontents, -⟩ := targetOf_eq_ok htarget
  split_ifs at hrest with hout
  · exact absurd hrest FileIo.throw_ne_ok
  · obtain ⟨_, last, hseek, hpure⟩ := FileIo.bind_eq_ok.mp hrest
    obtain ⟨-, hmax, rfl⟩ := seekStart_eq_ok.mp hseek
    cases hpure
    rw [not_or] at hout
    exact ⟨rfl, UInt64.not_lt.mp hout.1, UInt64.not_lt.mp hout.2, hmax, hcontents, rfl⟩

theorem seekFile_eq_error {msg : String}
    (h : seekFile start stop pos plan st = (.error msg, st')) :
    st'.contents = st.contents ∧ st'.pos = st.pos := by
  rcases FileIo.bind_eq_error.mp h with hfail | ⟨target, mid, htarget, hrest⟩
  · exact targetOf_eq_error hfail
  · obtain ⟨-, hcontents, hpos⟩ := targetOf_eq_ok htarget
    split_ifs at hrest with hout
    · cases hrest
      exact ⟨hcontents, hpos⟩
    · rcases FileIo.bind_eq_error.mp hrest with hseek | ⟨_, _, -, hpure⟩
      · obtain rfl := seekStart_eq_error hseek
        exact ⟨hcontents, hpos⟩
      · cases hpure

/-- When the file answers, a seek inside the area succeeds. -/
theorem exists_seekFile (hplan : ∀ k, plan k = none)
    (hstart : start ≤ targetWord start stop st.pos pos)
    (hstop : targetWord start stop st.pos pos ≤ stop)
    (hmax : (targetWord start stop st.pos pos).toNat ≤ maxPosition) :
    ∃ st', seekFile start stop pos plan st = (.ok (targetWord start stop st.pos pos), st') := by
  obtain ⟨mid, htarget⟩ : ∃ mid, targetOf start stop pos plan st =
      (.ok (targetWord start stop st.pos pos), mid) := by
    cases pos with
    | fromStart q => exact ⟨st, rfl⟩
    | fromEnd q => exact ⟨st, rfl⟩
    | fromCurrent q =>
      exact ⟨_, FileIo.bind_of_ok (tell_eq_ok.mpr ⟨hplan _, rfl, rfl⟩)⟩
  have hout : ¬ (targetWord start stop st.pos pos < start ∨
      targetWord start stop st.pos pos > stop) := by
    rw [not_or]
    exact ⟨UInt64.not_lt.mpr hstart, UInt64.not_lt.mpr hstop⟩
  have hseek : seekStart (targetWord start stop st.pos pos).toNat plan mid = (.ok (), _) :=
    seekStart_eq_ok.mpr ⟨hplan _, hmax, rfl⟩
  refine ⟨{ mid with
    pos := (targetWord start stop st.pos pos).toNat
    calls := mid.calls + 1 }, ?_⟩
  rw [seekFile, FileIo.bind_of_ok htarget, if_neg hout]
  exact FileIo.bind_of_ok hseek

theorem readFile_eq_ok {limit n : ℕ} {bs : Bytes}
    (h : readFile stop limit n plan st = (.ok bs, st')) :
    st'.contents = st.contents ∧ st'.pos = st.pos + bs.length ∧
      (bs = [] ∨ n ≠ 0 ∧ st.pos < stop.toNat ∧
        bs = slice st.contents st.pos (min limit (min n (stop.toNat - st.pos)))) := by
  rw [readFile] at h
  split_ifs at h with hn
  · cases h
    exact ⟨rfl, rfl, Or.inl rfl⟩
  · obtain ⟨current, mid, htell, hrest⟩ := FileIo.bind_eq_ok.mp h
    obtain ⟨-, rfl, rfl⟩ := tell_eq_ok.mp htell
    split_ifs at hrest with hbehind
    · cases hrest
      exact ⟨rfl, rfl, Or.inl rfl⟩
    · obtain ⟨-, rfl, rfl⟩ := readSome_eq_ok.mp hrest
      exact ⟨rfl, rfl, Or.inr ⟨hn, not_le.mp hbehind, rfl⟩⟩

theorem readFile_eq_error {limit n : ℕ} {msg : String}
    (h : readFile stop limit n plan st = (.error msg, st')) :
    st'.contents = st.contents ∧ st'.pos = st.pos := by
  rw [readFile] at h
  split_ifs at h with hn
  · cases h
  · rcases FileIo.bind_eq_error.mp h with htell | ⟨current, mid, htell, hrest⟩
    · obtain rfl := tell_eq_error htell
      exact ⟨rfl, rfl⟩
    · obtain ⟨-, rfl, rfl⟩ := tell_eq_ok.mp htell
      split_ifs at hrest with hbehind
      · cases hrest
      · obtain rfl := readSome_eq_error hrest
        exact ⟨rfl, rfl⟩

/-- A signed offset, added as machine words are. -/
theorem toNat_add_signed (x : UInt64) (p : Int64) :
    ((x.toInt64 + p).toUInt64.toNat : ℤ) = (x.toNat + p.toInt) % 2 ^ 64 := by
  have hword : (x.toInt64 + p).toUInt64 = x + p.toUInt64 := rfl
  have hp : p.toInt % 2 ^ 64 = (p.toUInt64.toNat : ℤ) % 2 ^ 64 := by
    rw [show p.toInt = Int.bmod p.toUInt64.toNat (2 ^ 64) from
      BitVec.toInt_eq_toNat_bmod p.toBitVec]
    exact Int.bmod_emod
  rw [hword, UInt64.toNat_add]
  push_cast
  omega

end Calls

/-- The cursor of the device is the position of the file: the data area begins at 0. -/
structure Tracks (cursor : ℕ) (volume : OpenVolume) : Prop where
  start : volume.inner.dataOffset = 0
  pos : volume.file.pos = cursor
  inside : cursor ≤ volume.inner.dataLength.toNat
  fits : cursor ≤ maxPosition

section Run
variable {P : CipherSuite} {cursor : ℕ} {volume : OpenVolume} {step : Step}

theorem Tracks.stopOf_eq (h : Tracks cursor volume) : stopOf volume = volume.inner.dataLength := by
  rw [stopOf, h.start, UInt64.zero_add]

/-- The word that is computed is the target, as far as it fits. -/
theorem Tracks.targetWord_eq (h : Tracks cursor volume) (pos : SeekFrom) :
    ((targetWord volume.inner.dataOffset (stopOf volume) volume.file.pos pos).toNat : ℤ) =
      target volume cursor pos % 2 ^ 64 := by
  have hmax : maxPosition < 2 ^ 64 := by decide
  have hcursor : (UInt64.ofNat cursor).toNat = cursor := by
    rw [UInt64.toNat_ofNat', Nat.mod_eq_of_lt (h.fits.trans_lt hmax)]
  rw [h.stopOf_eq, h.start, h.pos]
  cases pos with
  | fromStart p =>
    have hp := p.toNat_lt
    rw [targetWord, target, UInt64.zero_add, Int.emod_eq_of_lt (by omega) (by omega)]
  | fromEnd p => exact toNat_add_signed volume.inner.dataLength p
  | fromCurrent p =>
    have hsum := toNat_add_signed (UInt64.ofNat cursor) p
    rw [hcursor] at hsum
    exact hsum

/-- No target lies farther in front of the area than a signed word reaches. -/
theorem le_target (volume : OpenVolume) (cursor : ℕ) (pos : SeekFrom) :
    -2 ^ 63 ≤ target volume cursor pos := by
  cases pos with
  | fromStart p =>
    rw [target]
    omega
  | fromEnd p =>
    have hp := p.le_toInt
    rw [target]
    omega
  | fromCurrent p =>
    have hp := p.le_toInt
    rw [target]
    omega

/-- What a harmless seek does. -/
theorem Tracks.seek (h : Tracks cursor volume) {pos : SeekFrom}
    (hfits : target volume cursor pos < 2 ^ 64) (plan : FaultPlan) {reply : Reply}
    {volume' : OpenVolume} (hrun : replyOf .position (seekFile volume.inner.dataOffset
      (stopOf volume) pos) plan volume = (reply, volume')) :
    volume'.inner = volume.inner ∧ volume'.file.contents = volume.file.contents ∧
      ((∃ p, reply = .position p ∧ (p.toNat : ℤ) = target volume cursor pos ∧
          InDevice volume (target volume cursor pos) ∧ volume'.file.pos = p.toNat ∧
          p.toNat ≤ maxPosition) ∨
        (∃ msg, reply = .error msg) ∧ volume'.file.pos = volume.file.pos) := by
  rw [replyOf] at hrun
  cases hseek : seekFile volume.inner.dataOffset (stopOf volume) pos plan volume.file with
  | mk result file =>
    rw [hseek] at hrun
    cases result with
    | error msg =>
      obtain ⟨rfl, rfl⟩ := Prod.mk.inj hrun
      obtain ⟨hcontents, hpos⟩ := seekFile_eq_error hseek
      exact ⟨rfl, hcontents, Or.inr ⟨⟨msg, rfl⟩, hpos⟩⟩
    | ok p =>
      obtain ⟨rfl, rfl⟩ := Prod.mk.inj hrun
      obtain ⟨hp, -, hstop, hmax, hcontents, hpos⟩ := seekFile_eq_ok hseek
      have hword := h.targetWord_eq pos
      have hlow := le_target volume cursor pos
      rw [← hp] at hword
      rw [h.stopOf_eq, UInt64.le_iff_toNat_le] at hstop
      have hbound : maxPosition = 2 ^ 63 - 1 := rfl
      have htarget : (p.toNat : ℤ) = target volume cursor pos := by omega
      exact ⟨rfl, hcontents, Or.inl ⟨p, rfl, htarget, ⟨by omega, by omega⟩, hpos, hmax⟩⟩

/-- A read of nothing or behind the data returns nothing. -/
private theorem Tracks.read (h : Tracks cursor volume) {n : ℕ}
    (hharmless : Harmless volume (.read n)) {limit : ℕ} {plan : FaultPlan} {reply : Reply}
    {volume' : OpenVolume}
    (hrun : replyOf .bytes (readFile (stopOf volume) limit n) plan volume = (reply, volume')) :
    volume'.inner = volume.inner ∧ volume'.file.contents = volume.file.contents ∧
      volume'.file.pos = volume.file.pos ∧ (reply = .bytes [] ∨ ∃ msg, reply = .error msg) := by
  cases hread : readFile (stopOf volume) limit n plan volume.file with
  | mk result file =>
    simp only [replyOf, hread] at hrun
    cases result with
    | error msg =>
      obtain ⟨rfl, rfl⟩ := Prod.mk.inj hrun
      obtain ⟨hcontents, hpos⟩ := readFile_eq_error hread
      exact ⟨rfl, hcontents, hpos, Or.inr ⟨msg, rfl⟩⟩
    | ok bs =>
      obtain ⟨rfl, rfl⟩ := Prod.mk.inj hrun
      obtain ⟨hcontents, hpos, hbs⟩ := readFile_eq_ok hread
      have hnil : bs = [] := by
        rcases hbs with rfl | ⟨hn, hbefore, rfl⟩
        · rfl
        · rw [h.stopOf_eq] at hbefore
          rcases hharmless with hzero | hbehind | hend
          · exact absurd hzero hn
          · exact absurd hbefore (not_lt.mpr hbehind)
          · simp [slice, hend]
      rw [hnil, List.length_nil] at hpos
      exact ⟨rfl, hcontents, hpos, Or.inl (by rw [hnil])⟩

/-- A write of nothing, or to a file that takes nothing, stores nothing. -/
private theorem write_harmless {buf : Bytes} (hharmless : Harmless volume (.write buf))
    {limit : ℕ} {plan : FaultPlan} {reply : Reply} {volume' : OpenVolume}
    (hrun : replyOf .count (writeFile volume.readOnly limit buf) plan volume =
      (reply, volume')) :
    volume'.inner = volume.inner ∧ volume'.file.contents = volume.file.contents ∧
      volume'.file.pos = volume.file.pos ∧ (reply = .count 0 ∨ ∃ msg, reply = .error msg) := by
  cases hwrite : writeFile volume.readOnly limit buf plan volume.file with
  | mk result file =>
    simp only [replyOf, hwrite] at hrun
    rw [writeFile] at hwrite
    cases hro : volume.readOnly with
    | true =>
      rw [hro, if_pos rfl] at hwrite
      cases hwrite
      obtain ⟨rfl, rfl⟩ := Prod.mk.inj hrun
      exact ⟨rfl, rfl, rfl, Or.inr ⟨_, rfl⟩⟩
    | false =>
      have hnil : buf = [] := hharmless.resolve_right (by rw [hro]; decide)
      rw [hro, if_neg Bool.false_ne_true, hnil] at hwrite
      cases result with
      | error msg =>
        obtain ⟨rfl, rfl⟩ := Prod.mk.inj hrun
        obtain rfl := writeSome_eq_error hwrite
        exact ⟨rfl, rfl, rfl, Or.inr ⟨msg, rfl⟩⟩
      | ok k =>
        obtain ⟨rfl, rfl⟩ := Prod.mk.inj hrun
        obtain ⟨-, -, rfl, rfl⟩ := writeSome_eq_ok.mp hwrite
        exact ⟨rfl, by simp [FileState.stored, storeAt_nil], by simp [FileState.stored],
          Or.inl (by simp)⟩

/-- A harmless read or write transfers nothing. -/
theorem Tracks.transfer (h : Tracks cursor volume) (hharmless : Harmless volume step.call)
    (hcall : ∀ pos, step.call ≠ .seek pos) {reply : Reply} {volume' : OpenVolume}
    (hrun : step.run volume = (reply, volume')) :
    volume'.inner = volume.inner ∧ volume'.file.contents = volume.file.contents ∧
      volume'.file.pos = volume.file.pos ∧
      (reply = .bytes [] ∨ reply = .count 0 ∨ ∃ msg, reply = .error msg) := by
  rw [Step.run] at hrun
  cases hkind : step.call with
  | seek pos => exact absurd hkind (hcall pos)
  | read n =>
    rw [hkind] at hrun hharmless
    obtain ⟨hinner, hcontents, hpos, hreply⟩ := h.read hharmless hrun
    exact ⟨hinner, hcontents, hpos, hreply.imp_right Or.inr⟩
  | write buf =>
    rw [hkind] at hrun hharmless
    obtain ⟨hinner, hcontents, hpos, hreply⟩ := write_harmless hharmless hrun
    exact ⟨hinner, hcontents, hpos, Or.inr hreply⟩

/-- A seek that the device has a position for succeeds when the file answers. -/
theorem Tracks.seek_succeeds (h : Tracks cursor volume) (pos : SeekFrom) (plan : FaultPlan)
    (hin : InDevice volume (target volume cursor pos))
    (hmax : target volume cursor pos ≤ maxPosition) (hplan : ∀ k, plan k = none) :
    ∃ p : UInt64, (p.toNat : ℤ) = target volume cursor pos ∧
      (replyOf .position (seekFile volume.inner.dataOffset (stopOf volume) pos) plan volume).1 =
        .position p := by
  have hword := h.targetWord_eq pos
  have hbound : maxPosition = 2 ^ 63 - 1 := rfl
  obtain ⟨hlow, hhigh⟩ := hin
  rw [Int.emod_eq_of_lt hlow (by omega)] at hword
  have hstart : volume.inner.dataOffset ≤
      targetWord volume.inner.dataOffset (stopOf volume) volume.file.pos pos := by
    rw [h.start]
    exact UInt64.zero_le
  have hstop : targetWord volume.inner.dataOffset (stopOf volume) volume.file.pos pos ≤
      stopOf volume := by
    have hlength := congrArg UInt64.toNat h.stopOf_eq
    rw [UInt64.le_iff_toNat_le]
    omega
  obtain ⟨file, hseek⟩ := exists_seekFile hplan hstart hstop (by omega)
  exact ⟨_, hword, by rw [replyOf, hseek]⟩

theorem Tracks.reports (h : Tracks cursor volume) : Reports volume cursor := by
  have htarget : target volume cursor (.fromCurrent 0) = cursor := by
    rw [target, Int64.toInt_zero, Int.add_zero]
  have hinside := h.inside
  have hfits := h.fits
  obtain ⟨p, hp, hreply⟩ := h.seek_succeeds (.fromCurrent 0) noFaults
    (by rw [htarget, InDevice]; omega) (by rw [htarget]; omega) fun _ => rfl
  have hword : p = UInt64.ofNat cursor := by
    rw [htarget] at hp
    rw [← UInt64.ofNat_toNat (x := p)]
    exact congrArg UInt64.ofNat (by omega)
  rw [Reports, ← hword]
  exact hreply

private theorem Tracks.conforms_seek (h : Tracks cursor volume)
    (hharmless : Harmless volume step.call) {pos : SeekFrom} (hkind : step.call = .seek pos) :
    StepConforms P cursor volume step ∧
      Tracks (cursorAfter cursor (step.run volume).1) (step.run volume).2 := by
  have hrun : replyOf .position (seekFile volume.inner.dataOffset (stopOf volume) pos) step.plan
      volume = ((step.run volume).1, (step.run volume).2) := by
    simp only [Step.run, hkind]
  rw [hkind, Harmless, h.pos] at hharmless
  obtain ⟨hfits, hmax⟩ := hharmless
  obtain ⟨hinner, hcontents, hcases⟩ := h.seek hfits step.plan hrun
  refine ⟨⟨?_, ?_, ?_, ?_, ?_⟩, ?_⟩
  · rintro pos' hpos' hplan hin
    obtain rfl := Call.seek.inj (hkind.symm.trans hpos')
    obtain ⟨p, -, hreply⟩ := h.seek_succeeds pos step.plan hin (hmax hin) hplan
    exact ⟨p, (congrArg Prod.fst hrun).symm.trans hreply⟩
  · rintro pos' p hpos' hreply
    obtain rfl := Call.seek.inj (hkind.symm.trans hpos')
    rcases hcases with ⟨q, hq, htarget, hin, -⟩ | ⟨⟨msg, hmsg⟩, -⟩
    · obtain rfl := Reply.position.inj (hreply.symm.trans hq)
      exact ⟨htarget, hin⟩
    · cases hreply.symm.trans hmsg
  · intro n bs hread
    cases hkind.symm.trans hread
  · intro buf k hwrite
    cases hkind.symm.trans hwrite
  · intro i b _ hbyte
    rw [hcontents]
    exact hbyte
  · rcases hcases with ⟨p, hp, htarget, hin, hpos, hle⟩ | ⟨⟨msg, hmsg⟩, hpos⟩
    · have hinside : p.toNat ≤ volume.inner.dataLength.toNat := by
        rw [InDevice, ← htarget] at hin
        exact Int.ofNat_le.mp hin.2
      rw [hp]
      exact ⟨hinner ▸ h.start, hpos, hinner ▸ hinside, hle⟩
    · rw [hmsg]
      exact ⟨hinner ▸ h.start, hpos.trans h.pos, hinner ▸ h.inside, h.fits⟩

private theorem Tracks.conforms_transfer (h : Tracks cursor volume)
    (hharmless : Harmless volume step.call) (hcall : ∀ pos, step.call ≠ .seek pos) :
    StepConforms P cursor volume step ∧
      Tracks (cursorAfter cursor (step.run volume).1) (step.run volume).2 := by
  obtain ⟨hinner, hcontents, hpos, hreply⟩ := h.transfer hharmless hcall
    (show step.run volume = ((step.run volume).1, (step.run volume).2) from rfl)
  refine ⟨⟨?_, ?_, ?_, ?_, ?_⟩, ?_⟩
  · intro pos hseek
    exact absurd hseek (hcall pos)
  · intro pos p hseek
    exact absurd hseek (hcall pos)
  · intro n bs _ hbytes
    rcases hreply with hnil | hzero | ⟨msg, hmsg⟩
    · obtain rfl := Reply.bytes.inj (hbytes.symm.trans hnil)
      exact ⟨Nat.zero_le n, fun j b hb => by cases hb⟩
    · cases hbytes.symm.trans hzero
    · cases hbytes.symm.trans hmsg
  · intro buf k _ hcount
    rcases hreply with hnil | hzero | ⟨msg, hmsg⟩
    · cases hcount.symm.trans hnil
    · obtain rfl := Reply.count.inj (hcount.symm.trans hzero)
      exact ⟨Nat.zero_le _, fun j hj => absurd hj (Nat.not_lt_zero j)⟩
    · cases hcount.symm.trans hmsg
  · intro i b _ hbyte
    rw [hcontents]
    exact hbyte
  · have hcursor : cursorAfter cursor (step.run volume).1 = cursor := by
      rcases hreply with hnil | hzero | ⟨msg, hmsg⟩
      · rw [hnil]
        rfl
      · rw [hzero]
        rfl
      · rw [hmsg]
        rfl
    rw [hcursor]
    exact ⟨hinner ▸ h.start, hpos.trans h.pos, hinner ▸ h.inside, h.fits⟩

/-- A harmless call does what it should, and the cursor stays tracked. -/
theorem Tracks.conforms_step (h : Tracks cursor volume) (hharmless : Harmless volume step.call) :
    StepConforms P cursor volume step ∧
      Tracks (cursorAfter cursor (step.run volume).1) (step.run volume).2 := by
  cases hkind : step.call with
  | seek pos => exact h.conforms_seek hharmless hkind
  | read n => exact h.conforms_transfer hharmless fun pos hseek => by cases hkind.symm.trans hseek
  | write buf =>
    exact h.conforms_transfer hharmless fun pos hseek => by cases hkind.symm.trans hseek

theorem Tracks.conforms (h : Tracks cursor volume) {steps : List Step}
    (hharmless : RunHarmless volume steps) : Conforms P cursor volume steps := by
  induction steps generalizing cursor volume with
  | nil => exact h.reports
  | cons step steps ih =>
    obtain ⟨hconforms, hnext⟩ := h.conforms_step (P := P) hharmless.1
    exact ⟨h.reports, hconforms, ih hnext hharmless.2⟩

end Run

theorem IsFresh.pos {P : CipherSuite} {K : KdfLibrary} {volume : OpenVolume}
    (h : IsFresh P K volume) : volume.file.pos = 0 := by
  cases h with
  | openWith h =>
    obtain ⟨_, _, -, -, rfl⟩ := OpenVolume.openWith_eq_ok.mp h
    rfl
  | openWithProtection h =>
    obtain ⟨_, _, st, _, -, -, -, -, hfile, -, rfl⟩ := OpenVolume.openWithProtection_eq_ok.mp h
    obtain rfl := Except.ok.inj hfile
    rfl

/-- Where the data do not begin at 0 a fresh volume does not report its position. -/
theorem not_reports {volume : OpenVolume} (hpos : volume.file.pos = 0)
    (hstart : volume.inner.dataOffset ≠ 0) : ¬ Reports volume 0 := by
  intro hreports
  change (replyOf .position (seekFile volume.inner.dataOffset (stopOf volume) (.fromCurrent 0))
    noFaults volume).1 = _ at hreports
  rw [replyOf] at hreports
  cases hseek : seekFile volume.inner.dataOffset (stopOf volume) (.fromCurrent 0) noFaults
      volume.file with
  | mk result file =>
    rw [hseek] at hreports
    cases result with
    | error msg => cases hreports
    | ok p =>
      obtain ⟨hp, hle, -⟩ := seekFile_eq_ok hseek
      have hzero : p = 0 := by
        rw [hp, hpos]
        rfl
      rw [hzero] at hle
      exact hstart (UInt64.le_zero_iff.mp hle)

/-- In every run from a fresh volume whose data begin at 0 and whose calls are harmless, the
byte stream shows the plaintext device; where the data begin elsewhere, no run does. -/
theorem conforms_of_runHarmless (P : CipherSuite) (K : KdfLibrary) (volume : OpenVolume)
    (steps : List Step) (hfresh : IsFresh P K volume) :
    (volume.inner.dataOffset = 0 → RunHarmless volume steps → Conforms P 0 volume steps) ∧
      (volume.inner.dataOffset ≠ 0 → ¬ Conforms P 0 volume steps) := by
  constructor
  · intro hstart hharmless
    exact Tracks.conforms ⟨hstart, hfresh.pos, Nat.zero_le _, Nat.zero_le _⟩ hharmless
  · intro hstart hconforms
    refine not_reports hfresh.pos hstart ?_
    cases steps with
    | nil => exact hconforms
    | cons step steps => exact hconforms.1

section Sample

/-- A volume whose data begin at the start of its file. -/
def headerAtZero : VolumeHeader := { outerHeader with encryptedAreaStart := 0 }

/-- A seek and two calls that transfer nothing. -/
def emptySteps : List Step :=
  [⟨.seek (.fromStart 5), noFaults, 1⟩, ⟨.read 0, noFaults, 1⟩, ⟨.write [], noFaults, 1⟩]

/-- Four slots with the same header. -/
def fileAtZero : Bytes :=
  let slot := slotBytes maskingSuite zeroChain (saltOf 0x6F 0x6F).1 headerAtZero
  slot ++ slot ++ slot ++ slot

theorem exists_volumeAtZero : ∃ volume,
    OpenVolume.openWith maskingSuite fittingLibrary (.ok fileAtZero) (.ok ⟨fileAtZero, 0, 0⟩)
        outerCredentials none (some 1) false = .ok volume ∧
      volume.inner.dataOffset = 0 := by
  obtain ⟨hslot, htake⟩ := slotBytes_zeroChain (saltOf 0x6F 0x6F) headerAtZero
  obtain ⟨hlen, hfirst⟩ : fileAtZero.length = 4 * volumeHeaderSize ∧
      headerAt fileAtZero 0 = (saltOf 0x6F 0x6F).1 ++ encryptedArea headerAtZero := by
    obtain ⟨hlen, hfirst, -⟩ := headers_of_slots hslot hslot hslot hslot
    exact ⟨hlen, hfirst.trans htake⟩
  have hheader : Wellformed headerAtZero := ⟨rfl, wellformed_outerHeader.2⟩
  have hfound : FoundIn maskingSuite fileAtZero outerCredentials _ _ _ _ :=
    sample_found 1 [] (saltOf 0x6F 0x6F) hlen.ge (slots_eq hlen.ge) (by simp) hfirst rfl hheader
  obtain ⟨cipher, hcipher, -⟩ := createSectorCipher_of_length (length_masterKey hfound.opens)
  exact ⟨_, OpenVolume.openWith_eq_ok.mpr ⟨_, cipher, hfound.opens, hcipher, rfl⟩, rfl⟩

theorem conforms_emptySteps : ∃ volume,
    OpenVolume.openWith maskingSuite fittingLibrary (.ok fileAtZero) (.ok ⟨fileAtZero, 0, 0⟩)
        outerCredentials none (some 1) false = .ok volume ∧
      volume.inner.dataOffset = 0 ∧ Conforms maskingSuite 0 volume emptySteps := by
  obtain ⟨volume, hopen, hstart⟩ := exists_volumeAtZero
  refine ⟨volume, hopen, hstart, (conforms_of_runHarmless maskingSuite fittingLibrary volume
    emptySteps (.openWith hopen)).1 hstart ⟨⟨?_, fun _ => ?_⟩, Or.inl rfl, Or.inl rfl, trivial⟩⟩
  · change ((5 : ℕ) : ℤ) < 2 ^ 64
    decide
  · change ((5 : ℕ) : ℤ) ≤ maxPosition
    decide

/-- A fresh volume of 128 KiB: a seek to the start reports the position of the data in the
file, and the first bytes that are read are those of the header. -/
theorem freshVolume_not_conforms : ∃ volumeSize : UInt64, volumeSize = 131072 ∧ ∀ P K,
    ∃ data volume, OpenVolume.openWith P K (.ok data) (.ok ⟨data, 0, 0⟩) ⟨[0x70], []⟩
        (some .pbkdf2Sha512) (some 1) false = .ok volume ∧
      ¬ Conforms P 0 volume [] ∧
      ((Step.mk (.seek (.fromStart 0)) noFaults 64).run volume).1 = .position 262144 ∧
      ((Step.mk (.read 64) noFaults 64).run volume).1 = .bytes (slice data 0 64) := by
  refine ⟨131072, rfl, fun P K => ?_⟩
  obtain ⟨-, -, st', volume, -, hopen, hlength, hfile, hoffset, hdataLength, -⟩ :=
    exists_openedVolume P K 131072 (by decide)
  have hstop : stopOf volume = 393216 := by
    rw [stopOf, hoffset, hdataLength]
    rfl
  refine ⟨st'.contents, volume, hopen, ?_, ?_, ?_⟩
  · exact not_reports (by rw [hfile]) (by rw [hoffset]; decide)
  · obtain ⟨file, hseek⟩ : ∃ file, seekFile 262144 393216 (.fromStart 0) noFaults volume.file =
        (.ok 262144, file) :=
      exists_seekFile (fun _ => rfl) (show (262144 : UInt64) ≤ 262144 by decide)
        (show (262144 : UInt64) ≤ 393216 by decide)
        (show (262144 : UInt64).toNat ≤ maxPosition by decide)
    change (replyOf .position (seekFile volume.inner.dataOffset (stopOf volume) (.fromStart 0))
      noFaults volume).1 = _
    rw [hoffset, hstop, replyOf, hseek]
  · obtain ⟨file, hread⟩ : ∃ file, readFile 393216 64 64 noFaults volume.file =
        (.ok (slice st'.contents 0 64), file) := by
      rw [hfile, readFile, if_neg (by decide),
        FileIo.bind_of_ok (tell_eq_ok.mpr ⟨rfl, rfl, rfl⟩),
        if_neg (show ¬ 0 ≥ (393216 : UInt64).toNat by decide)]
      exact ⟨_, readSome_eq_ok.mpr ⟨rfl, rfl, rfl⟩⟩
    change (replyOf .bytes (readFile (stopOf volume) 64 64) noFaults volume).1 = _
    rw [hstop, replyOf, hread]

end Sample

end Oxhide.StreamView
