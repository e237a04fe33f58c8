import Oxhide.HeaderSlots
import Oxhide.VolumeCreation

/-! # Changing the password of a volume

The header of an opened volume is sealed again, under a new salt and a key from the new
credentials. It is then written to the normal backup slot and after that to the first
slot, whatever slots it was read from. -/
namespace Oxhide.PasswordChange
open BlockCiphers CipherChain CipherTypes FaultyFile HeaderEncryption HeaderFormat HeaderSlots
  InPlaceBuffer KeyDerivation ListSplice SealedHeaders VolumeCreation VolumeErrors VolumeOpening
  WordBytes Xts

/-- Argon2id is handled by the caller. -/
def kdfBox (K : KdfLibrary) (kdf : KdfAlgorithm) (h : kdf ≠ .argon2id) : Kdf :=
  match kdf with
  | .pbkdf2Sha512 => pbkdf2Sha512 K
  | .pbkdf2Sha256 => pbkdf2Sha256 K
  | .pbkdf2Blake2s => pbkdf2Blake2s K
  | .pbkdf2Whirlpool => pbkdf2Whirlpool K
  | .pbkdf2Streebog => pbkdf2Streebog K
  | .argon2id => absurd rfl h

/-- The new key derivation with its iterations and its memory cost. -/
def selectKdf (K : KdfLibrary) (newKdf : KdfAlgorithm) (newPim : Int32) :
    Kdf × UInt32 × Option UInt32 :=
  if h : newKdf = .argon2id then
    let (mem, t) := argon2ParamsForPim newPim
    (argon2idKdf K mem t 1, t, some mem)
  else
    let imp := kdfBox K newKdf h
    (imp, imp.getIterationCount newPim, none)

/-- The opener derives with the same parameters. -/
theorem selectKdf_eq (K : KdfLibrary) (kdf : KdfAlgorithm) (pim : Int32) :
    selectKdf K kdf pim = ((makeKdfCandidate K kdf pim).implementation,
      (makeKdfCandidate K kdf pim).iterations, (makeKdfCandidate K kdf pim).memoryCostKib) := by
  cases kdf <;> rfl

def encryptFailure (e : FormatError) : VolumeError :=
  let text := e.toText
  .cryptoError s!"encrypt: {text}"

/-- The header buffer that is written. The salt is the random draw 0. -/
def newHeader (P : CipherSuite) (K : KdfLibrary) (R : RandomSource) (openResult : OpenResult)
    (newCredentials : Credentials) (newKdf : KdfAlgorithm) (newPim : Int32) :
    Except VolumeError Bytes := do
  let newSalt ← (fillRandom R 0 pkcs5SaltSize).mapError (cryptoFailure "rng")
  let pwBytes ← newCredentials.mixed
  let (kdfImpl, iterations, _) := selectKdf K newKdf newPim
  let headerKey ← (kdfImpl.derive pwBytes newSalt.1 iterations maxHeaderKeySize).mapError
    (cryptoFailure "derive")
  let headerCipherXtsKeySize := openResult.headerCipher.keySize * 2
  let effectiveKey := headerKey.take headerCipherXtsKeySize
  let headerBuf := splice (List.replicate volumeHeaderSize 0) 0 newSalt.1
  let plaintext ← (serializeHeader openResult.header).mapError (formatFailure "serialize")
  let headerBuf := splice headerBuf pkcs5SaltSize (plaintext.drop pkcs5SaltSize)
  (encryptInto P headerBuf effectiveKey openResult.headerCipher).mapError encryptFailure

/-- Seek, write and flush. -/
def writeHeaderAt (offset : ℕ) (headerBuf : Bytes) : FileIo UInt8 VolumeError Unit := do
  FileIo.mapError .ioError (seekStart offset)
  FileIo.mapError .ioError (writeAll 0 headerBuf)
  FileIo.mapError .ioError flush

/-- The backup slot is written before the first slot. -/
def writeHeaders (headerBuf : Bytes) : FileIo UInt8 VolumeError Unit := do
  let fileEnd ← FileIo.mapError .ioError seekEnd
  if fileEnd < 4 * volumeHeaderSize then
    FileIo.throw (.invalidFormat "Volume file too small for header backup")
  let backupOffset := fileEnd - 2 * volumeHeaderSize
  writeHeaderAt backupOffset headerBuf
  writeHeaderAt 0 headerBuf

def changeVolumePassword (P : CipherSuite) (K : KdfLibrary) (R : RandomSource)
    (openResult : OpenResult) (newCredentials : Credentials) (newKdf : KdfAlgorithm)
    (newPim : Int32) : FileIo UInt8 VolumeError Unit := do
  let headerBuf ← FileIo.lift (newHeader P K R openResult newCredentials newKdf newPim)
  writeHeaders headerBuf

section Header
variable {P : CipherSuite} {K : KdfLibrary} {R : RandomSource} {r : OpenResult}
  {credentials : Credentials} {kdf : KdfAlgorithm} {pim : Int32}

/-- The buffer is the slot of the header behind the new salt. -/
private theorem encryptInto_resealed (header : VolumeHeader) {cipher : CipherType}
    {chain : List XtsMode} {key : Bytes} (salt : {bs : Bytes // bs.length = pkcs5SaltSize})
    (hkey : key.length = cipher.keySize * 2) (hchain : cipherChain cipher key = .ok chain) :
    encryptInto P (splice (splice (List.replicate volumeHeaderSize 0) 0 salt.1) pkcs5SaltSize
      ((header.salt ++ encryptedArea header).drop pkcs5SaltSize)) key cipher =
        .ok (slotBytes P chain salt.1 header) := by
  let resealed : VolumeHeader := { header with salt := salt.1, salt_length := salt.2 }
  obtain ⟨chain', bytes, hchain', hser, henc⟩ :=
    encryptInto_serializeHeaderFull (P := P) resealed hkey
  obtain rfl := Except.ok.inj (hchain.symm.trans hchain')
  have hsalt := salt.2
  have htail : (header.salt ++ encryptedArea header).drop pkcs5SaltSize = encryptedArea header := by
    rw [← header.salt_length, List.drop_left]
  have hbytes : splice (List.replicate volumeHeaderSize 0) 0 (salt.1 ++ encryptedArea header) =
      bytes := Except.ok.inj hser
  rw [splice_append _ _ (Nat.zero_le _), hsalt, Nat.zero_add] at hbytes
  rw [htail, hbytes, henc]
  rfl

/-- The new header can be built when there are randomness, keyfiles and a key. -/
theorem newHeader_eq_ok {headerBuf : Bytes} :
    newHeader P K R r credentials kdf pim = .ok headerBuf ↔
      ∃ salt password key chain, R.fill 0 pkcs5SaltSize = .ok salt ∧
        credentials.mixed = .ok password ∧
        (makeKdfCandidate K kdf pim).implementation.derive password salt.1
          (makeKdfCandidate K kdf pim).iterations maxHeaderKeySize = .ok key ∧
        cipherChain r.headerCipher (key.take (r.headerCipher.keySize * 2)) = .ok chain ∧
        headerBuf = slotBytes P chain salt.1 r.header := by
  simp only [newHeader, selectKdf_eq]
  cases hsalt : R.fill 0 pkcs5SaltSize with
  | error e => simp [fillRandom, hsalt, Except.mapError, bind, Except.bind]
  | ok salt =>
    cases hmixed : credentials.mixed with
    | error e => simp [fillRandom, hsalt, Except.mapError, bind, Except.bind]
    | ok password =>
      cases hkey : (makeKdfCandidate K kdf pim).implementation.derive password salt.1
          (makeKdfCandidate K kdf pim).iterations maxHeaderKeySize with
      | error e => simp [fillRandom, hsalt, hkey, Except.mapError, bind, Except.bind]
      | ok key =>
        obtain ⟨hcut, chain, hchain⟩ := exists_headerChain
          ((makeKdfCandidate K kdf pim).implementation.derive_length hkey) r.headerCipher
        have hbuf := encryptInto_resealed (P := P) r.header salt hcut hchain
        simp [fillRandom, hsalt, hkey, hchain, serializeHeader, hbuf, Except.mapError, bind,
          Except.bind, eq_comm]

theorem length_newHeader {headerBuf : Bytes}
    (h : newHeader P K R r credentials kdf pim = .ok headerBuf) :
    headerBuf.length = volumeHeaderSize := by
  obtain ⟨salt, _, _, _, -, -, -, -, rfl⟩ := newHeader_eq_ok.mp h
  exact length_slotBytes salt.2

end Header

section Effect
variable {plan : FaultPlan} {st st' : FileState UInt8} {offset : ℕ} {headerBuf : Bytes}

theorem writeHeaderAt_eq_ok (st : FileState UInt8)
    (hin : offset + headerBuf.length ≤ st.contents.length)
    (hmax : st.contents.length ≤ maxPosition) :
    writeHeaderAt offset headerBuf plan st = (.ok (), st') ↔
      plan st.calls = none ∧ plan (st.calls + 1) = none ∧ plan (st.calls + 2) = none ∧
        st' = ⟨splice st.contents offset headerBuf, offset + headerBuf.length, st.calls + 3⟩ := by
  have hstore : storeAt 0 st.contents offset headerBuf = splice st.contents offset headerBuf :=
    storeAt_of_le (by omega) headerBuf
  simp only [writeHeaderAt, FileIo.bind_eq_ok, FileIo.mapError_eq_ok, seekStart_eq_ok,
    writeAll_eq_ok, flush_eq_ok]
  constructor
  · rintro ⟨_, _, ⟨hseek, -, rfl⟩, _, _, ⟨hwrite, -, rfl⟩, hflush, rfl⟩
    refine ⟨hseek, hwrite, hflush, ?_⟩
    rw [← hstore]
    rfl
  · rintro ⟨hseek, hwrite, hflush, rfl⟩
    refine ⟨(), _, ⟨hseek, by omega, rfl⟩, (), _, ⟨hwrite, by simp only; omega, rfl⟩, hflush, ?_⟩
    rw [← hstore]
    rfl

/-- Wherever it stops, a prefix of the buffer is stored, and nothing before the write. -/
theorem writeHeaderAt_effect (plan : FaultPlan) (st : FileState UInt8)
    (hin : offset + headerBuf.length ≤ st.contents.length) :
    ∃ k, (writeHeaderAt offset headerBuf plan st).2.contents =
        splice st.contents offset (headerBuf.take k) ∧
      ((writeHeaderAt offset headerBuf plan st).2.calls ≤ st.calls + 1 → k = 0) ∧
      st.calls < (writeHeaderAt offset headerBuf plan st).2.calls := by
  have hseek : (seekStart offset plan st).2.contents = _ := seekStart_contents
  have hseekCalls : (seekStart offset plan st).2.calls = _ := seekStart_calls
  rcases h₁ : seekStart offset plan st with ⟨e | u, st₁⟩
  · rw [h₁] at hseek hseekCalls
    have hrun : writeHeaderAt offset headerBuf plan st = (.error (.ioError e), st₁) :=
      FileIo.bind_of_error (FileIo.mapError_eq_error.mpr ⟨e, h₁, rfl⟩)
    rw [hrun]
    exact ⟨0, by rw [List.take_zero, splice_nil]; exact hseek, fun _ => rfl, by
      rw [hseekCalls]
      exact Nat.lt_succ_self _⟩
  · obtain ⟨-, -, rfl⟩ := seekStart_eq_ok.mp h₁
    obtain ⟨k, hwrite, -⟩ := writeAll_contents plan
      { st with pos := offset, calls := st.calls + 1 } 0 headerBuf
    have hwriteCalls : (writeAll 0 headerBuf plan { st with pos := offset, calls := st.calls + 1
      }).2.calls = _ := writeAll_calls
    rw [storeAt_of_le (by simp only; omega)] at hwrite
    simp only at hwrite hwriteCalls
    rcases h₂ : writeAll 0 headerBuf plan { st with pos := offset, calls := st.calls + 1 }
      with ⟨e | u, st₂⟩
    · rw [h₂] at hwrite hwriteCalls
      simp only at hwrite hwriteCalls
      have hrun : writeHeaderAt offset headerBuf plan st = (.error (.ioError e), st₂) :=
        (FileIo.bind_of_ok (FileIo.mapError_eq_ok.mpr h₁)).trans
          (FileIo.bind_of_error (FileIo.mapError_eq_error.mpr ⟨e, h₂, rfl⟩))
      rw [hrun]
      exact ⟨k, hwrite, fun h => by simp only at h; omega, by simp only; omega⟩
    · rw [h₂] at hwrite hwriteCalls
      have hflush : (FileIo.mapError VolumeError.ioError flush plan st₂).2.contents = _ :=
        flush_contents
      have hflushCalls : (FileIo.mapError VolumeError.ioError flush plan st₂).2.calls = _ :=
        flush_calls
      have hrun : writeHeaderAt offset headerBuf plan st =
          FileIo.mapError VolumeError.ioError flush plan st₂ :=
        (FileIo.bind_of_ok (FileIo.mapError_eq_ok.mpr h₁)).trans
          (FileIo.bind_of_ok (FileIo.mapError_eq_ok.mpr h₂))
      rw [hrun]
      simp only at hwrite hwriteCalls
      exact ⟨k, hflush.trans hwrite, fun h => by omega, by omega⟩

private theorem backup_fits (hfile : 4 * volumeHeaderSize ≤ st.contents.length)
    (hbuf : headerBuf.length = volumeHeaderSize) :
    st.contents.length - 2 * volumeHeaderSize + headerBuf.length ≤ st.contents.length ∧
      (splice st.contents (st.contents.length - 2 * volumeHeaderSize) headerBuf).length =
        st.contents.length ∧
      0 + headerBuf.length ≤
        (splice st.contents (st.contents.length - 2 * volumeHeaderSize) headerBuf).length := by
  have hin : st.contents.length - 2 * volumeHeaderSize + headerBuf.length ≤
      st.contents.length := by omega
  have hlen := length_splice hin
  exact ⟨hin, hlen, by omega⟩

private theorem writeHeaders_eq {st₁ : FileState UInt8}
    (hfile : 4 * volumeHeaderSize ≤ st.contents.length)
    (h : FileIo.mapError VolumeError.ioError seekEnd plan st = (.ok st.contents.length, st₁)) :
    writeHeaders headerBuf plan st = (do
      writeHeaderAt (st.contents.length - 2 * volumeHeaderSize) headerBuf
      writeHeaderAt 0 headerBuf) plan st₁ := by
  rw [writeHeaders, FileIo.bind_of_ok h, if_neg (not_lt.mpr hfile)]

section Headers
variable (hfile : 4 * volumeHeaderSize ≤ st.contents.length)
  (hmax : st.contents.length ≤ maxPosition) (hbuf : headerBuf.length = volumeHeaderSize)
include hfile hmax hbuf

/-- A whole run writes the buffer to both normal slots. -/
theorem writeHeaders_eq_ok (h : writeHeaders headerBuf plan st = (.ok (), st')) :
    st'.contents = splice (splice st.contents (st.contents.length - 2 * volumeHeaderSize)
      headerBuf) 0 headerBuf := by
  obtain ⟨hin, hlen, hnext⟩ := backup_fits hfile hbuf
  rcases hend : seekEnd plan st with ⟨e | n, st₁⟩
  · rw [writeHeaders, FileIo.bind_of_error (FileIo.mapError_eq_error.mpr ⟨e, hend, rfl⟩)] at h
    cases h
  · obtain ⟨-, rfl, rfl⟩ := seekEnd_eq_ok.mp hend
    rw [writeHeaders_eq hfile (FileIo.mapError_eq_ok.mpr hend), FileIo.bind_eq_ok] at h
    obtain ⟨_, _, hbackup, hprimary⟩ := h
    obtain ⟨-, -, -, rfl⟩ := (writeHeaderAt_eq_ok
      ⟨st.contents, st.contents.length, st.calls + 1⟩ hin hmax).mp hbackup
    obtain ⟨-, -, -, rfl⟩ := (writeHeaderAt_eq_ok
      ⟨splice st.contents (st.contents.length - 2 * volumeHeaderSize) headerBuf,
        st.contents.length - 2 * volumeHeaderSize + headerBuf.length, st.calls + 1 + 3⟩ hnext
      (hlen.trans_le hmax)).mp hprimary
    rfl

variable (plan st) in
/-- Wherever a run stops, a prefix of the buffer is in the backup slot, or the whole of it
and a prefix is in the first slot. The first write is the third call. -/
theorem writeHeaders_effect : ∃ k,
    ((writeHeaders headerBuf plan st).2.contents =
        splice st.contents (st.contents.length - 2 * volumeHeaderSize) (headerBuf.take k) ∧
      ((writeHeaders headerBuf plan st).2.calls ≤ st.calls + 2 → k = 0)) ∨
    ((writeHeaders headerBuf plan st).2.contents = splice (splice st.contents
        (st.contents.length - 2 * volumeHeaderSize) headerBuf) 0 (headerBuf.take k) ∧
      st.calls + 2 < (writeHeaders headerBuf plan st).2.calls) := by
  obtain ⟨hin, hlen, hnext⟩ := backup_fits hfile hbuf
  have hendContents : (seekEnd plan st).2.contents = _ := seekEnd_contents
  rcases hend : seekEnd plan st with ⟨e | n, st₁⟩
  · have hrun : writeHeaders headerBuf plan st = (.error (.ioError e), st₁) :=
      FileIo.bind_of_error (FileIo.mapError_eq_error.mpr ⟨e, hend, rfl⟩)
    rw [hend] at hendContents
    rw [hrun]
    refine ⟨0, Or.inl ⟨?_, fun _ => rfl⟩⟩
    rw [List.take_zero, splice_nil]
    exact hendContents
  · obtain ⟨-, rfl, rfl⟩ := seekEnd_eq_ok.mp hend
    rw [writeHeaders_eq hfile (FileIo.mapError_eq_ok.mpr hend)]
    obtain ⟨k, hcontents, hnone, -⟩ := writeHeaderAt_effect plan
      ⟨st.contents, st.contents.length, st.calls + 1⟩ hin
    rcases hbackup : writeHeaderAt (st.contents.length - 2 * volumeHeaderSize) headerBuf plan
      ⟨st.contents, st.contents.length, st.calls + 1⟩ with ⟨e | u, st₂⟩
    · rw [hbackup] at hcontents hnone
      rw [FileIo.bind_of_error hbackup]
      exact ⟨k, Or.inl ⟨hcontents, hnone⟩⟩
    · obtain ⟨-, -, -, rfl⟩ := (writeHeaderAt_eq_ok
        ⟨st.contents, st.contents.length, st.calls + 1⟩ hin hmax).mp hbackup
      rw [FileIo.bind_of_ok hbackup]
      obtain ⟨k', hcontents', -, hcalls⟩ := writeHeaderAt_effect plan
        ⟨splice st.contents (st.contents.length - 2 * volumeHeaderSize) headerBuf,
          st.contents.length - 2 * volumeHeaderSize + headerBuf.length, st.calls + 1 + 3⟩
        hnext
      have hthird : st.calls + 2 < st.calls + 1 + 3 := by omega
      exact ⟨k', Or.inr ⟨hcontents', hthird.trans hcalls⟩⟩

variable (st) in
/-- Without faults the run is a whole one. -/
theorem exists_writeHeaders : ∃ st', writeHeaders headerBuf noFaults st = (.ok (), st') := by
  obtain ⟨hin, hlen, hnext⟩ := backup_fits hfile hbuf
  have hend : seekEnd noFaults st = (.ok st.contents.length, _) :=
    seekEnd_eq_ok.mpr ⟨rfl, rfl, rfl⟩
  have hbackup : writeHeaderAt (st.contents.length - 2 * volumeHeaderSize) headerBuf noFaults
      ⟨st.contents, st.contents.length, st.calls + 1⟩ = (.ok (), _) :=
    (writeHeaderAt_eq_ok ⟨st.contents, st.contents.length, st.calls + 1⟩ hin hmax).mpr
      ⟨rfl, rfl, rfl, rfl⟩
  have hprimary : writeHeaderAt 0 headerBuf noFaults
      ⟨splice st.contents (st.contents.length - 2 * volumeHeaderSize) headerBuf,
        st.contents.length - 2 * volumeHeaderSize + headerBuf.length, st.calls + 1 + 3⟩ =
          (.ok (), _) :=
    (writeHeaderAt_eq_ok ⟨splice st.contents (st.contents.length - 2 * volumeHeaderSize) headerBuf,
      st.contents.length - 2 * volumeHeaderSize + headerBuf.length, st.calls + 1 + 3⟩ hnext
      (hlen.trans_le hmax)).mpr ⟨rfl, rfl, rfl, rfl⟩
  rw [writeHeaders_eq hfile (FileIo.mapError_eq_ok.mpr hend), FileIo.bind_of_ok hbackup]
  exact ⟨_, hprimary⟩

omit hbuf in
variable (st headerBuf) in
/-- The backup write can stop after any number of bytes. -/
theorem exists_tornBackup (k : ℕ) : ∃ plan, (writeHeaders headerBuf plan st).2.contents =
    splice st.contents (st.contents.length - 2 * volumeHeaderSize) (headerBuf.take k) := by
  obtain ⟨plan, hplan⟩ : ∃ plan : FaultPlan, ∀ n, plan n =
      if n = st.calls + 1 + 1 then some ⟨"stopped", k⟩ else none := ⟨_, fun _ => rfl⟩
  refine ⟨plan, ?_⟩
  have hend : seekEnd plan st =
      (.ok st.contents.length, ⟨st.contents, st.contents.length, st.calls + 1⟩) :=
    seekEnd_eq_ok.mpr ⟨by rw [hplan, if_neg (by omega)], rfl, rfl⟩
  have hseek : seekStart (st.contents.length - 2 * volumeHeaderSize) plan
      ⟨st.contents, st.contents.length, st.calls + 1⟩ =
        (.ok (), ⟨st.contents, st.contents.length - 2 * volumeHeaderSize, st.calls + 1 + 1⟩) :=
    seekStart_eq_ok.mpr ⟨by simp [hplan], (Nat.sub_le _ _).trans hmax, rfl⟩
  have hwrite : writeAll 0 headerBuf plan
      ⟨st.contents, st.contents.length - 2 * volumeHeaderSize, st.calls + 1 + 1⟩ =
        (.error "stopped", FileState.stored 0 (headerBuf.take k)
          ⟨st.contents, st.contents.length - 2 * volumeHeaderSize, st.calls + 1 + 1 + 1⟩) := by
    rw [writeAll, call, hplan, if_pos rfl]
  have hbackup : writeHeaderAt (st.contents.length - 2 * volumeHeaderSize) headerBuf plan
      ⟨st.contents, st.contents.length, st.calls + 1⟩ = (.error (.ioError "stopped"), _) :=
    (FileIo.bind_of_ok (FileIo.mapError_eq_ok.mpr hseek)).trans
      (FileIo.bind_of_error (FileIo.mapError_eq_error.mpr ⟨_, hwrite, rfl⟩))
  rw [writeHeaders_eq hfile (FileIo.mapError_eq_ok.mpr hend), FileIo.bind_of_error hbackup]
  exact storeAt_of_le (Nat.sub_le _ _) _

end Headers

end Effect

section Change
variable {P : CipherSuite} {K : KdfLibrary} {R : RandomSource} {r : OpenResult}
  {credentials : Credentials} {kdf : KdfAlgorithm} {pim : Int32} {headerBuf : Bytes}

theorem changeVolumePassword_of_ok
    (h : newHeader P K R r credentials kdf pim = .ok headerBuf) :
    changeVolumePassword P K R r credentials kdf pim = writeHeaders headerBuf := by
  funext plan st
  rw [changeVolumePassword, h]
  rfl

/-- Without a new header the file is not touched. -/
theorem changeVolumePassword_of_error {e : VolumeError}
    (h : newHeader P K R r credentials kdf pim = .error e) (plan : FaultPlan)
    (st : FileState UInt8) :
    changeVolumePassword P K R r credentials kdf pim plan st = (.error e, st) := by
  rw [changeVolumePassword, h]
  rfl

/-- What a successful change leaves. -/
theorem changeVolumePassword_eq_ok {plan : FaultPlan} {st st' : FileState UInt8}
    (hfile : 4 * volumeHeaderSize ≤ st.contents.length) (hmax : st.contents.length ≤ maxPosition)
    (h : changeVolumePassword P K R r credentials kdf pim plan st = (.ok (), st')) :
    ∃ headerBuf, newHeader P K R r credentials kdf pim = .ok headerBuf ∧
      st'.contents = splice (splice st.contents (st.contents.length - 2 * volumeHeaderSize)
        headerBuf) 0 headerBuf := by
  cases hheader : newHeader P K R r credentials kdf pim with
  | error e =>
    rw [changeVolumePassword_of_error hheader] at h
    cases h
  | ok headerBuf =>
    rw [changeVolumePassword_of_ok hheader] at h
    exact ⟨headerBuf, rfl, writeHeaders_eq_ok hfile hmax (length_newHeader hheader) h⟩

end Change

section Contents

/-- A header of which only the first `k` bytes were replaced. -/
def tornHeader (new old : Bytes) (k : ℕ) : Bytes := new.take k ++ old.drop k

theorem tornHeader_whole {new old : Bytes} {k : ℕ} (hnew : new.length ≤ k) (hold : old.length ≤ k) :
    tornHeader new old k = new := by
  rw [tornHeader, List.take_of_length_le hnew, List.drop_of_length_le hold, List.append_nil]

variable {data headerBuf : Bytes} (hfile : 4 * volumeHeaderSize ≤ data.length)
  (hbuf : headerBuf.length = volumeHeaderSize)
include hfile hbuf

/-- With a part of the buffer in the backup slot. -/
theorem backupTorn_spec (k : ℕ) :
    let contents := splice data (data.length - 2 * volumeHeaderSize) (headerBuf.take k)
    contents.length = data.length ∧ headerAt contents 0 = headerAt data 0 ∧
      headerAt contents (data.length - 2 * volumeHeaderSize) =
        tornHeader (headerBuf.take volumeHeaderEffectiveSize)
          (headerAt data (data.length - 2 * volumeHeaderSize)) k ∧
      ∀ off ∈ hiddenOffsets data.length,
        slice contents off volumeHeaderSize = slice data off volumeHeaderSize := by
  have hsizes : volumeHeaderEffectiveSize ≤ volumeHeaderSize := by decide
  have htake : (headerBuf.take k).length ≤ volumeHeaderSize := hbuf ▸ List.length_take_le' k headerBuf
  refine ⟨length_splice (by omega), slice_splice_of_disjoint (by omega) (Or.inl (by omega)),
    slice_splice_take (by omega) (by omega) k, fun off hoff => ?_⟩
  rcases List.mem_cons.mp hoff with rfl | hlast
  · exact slice_splice_of_disjoint (by omega) (Or.inl (by omega))
  · rw [List.mem_singleton.mp hlast]
    exact slice_splice_of_disjoint (by omega) (Or.inr (by omega))

/-- With the buffer in the backup slot and a part of it in the first slot. -/
theorem primaryTorn_spec (k : ℕ) :
    let contents := splice (splice data (data.length - 2 * volumeHeaderSize) headerBuf) 0
      (headerBuf.take k)
    contents.length = data.length ∧
      headerAt contents 0 =
        tornHeader (headerBuf.take volumeHeaderEffectiveSize) (headerAt data 0) k ∧
      headerAt contents (data.length - 2 * volumeHeaderSize) =
        headerBuf.take volumeHeaderEffectiveSize ∧
      ∀ off ∈ hiddenOffsets data.length,
        slice contents off volumeHeaderSize = slice data off volumeHeaderSize := by
  have hsizes : volumeHeaderEffectiveSize ≤ volumeHeaderSize := by decide
  have hpos : 0 < volumeHeaderSize := by decide
  have htake : (headerBuf.take k).length ≤ volumeHeaderSize := hbuf ▸ List.length_take_le' k headerBuf
  obtain ⟨hlen, hfirst, hbackup, hhidden⟩ := backupTorn_spec hfile hbuf headerBuf.length
  rw [List.take_length] at hlen hfirst hbackup hhidden
  have hold : (headerAt data (data.length - 2 * volumeHeaderSize)).length =
      volumeHeaderEffectiveSize := length_slice_of_le (by omega)
  have hwhole := tornHeader_whole (List.length_take_le' volumeHeaderEffectiveSize headerBuf)
    (show (headerAt data (data.length - 2 * volumeHeaderSize)).length ≤ _ by omega)
  have hkeep {off n : ℕ} (hoff : volumeHeaderSize ≤ off) :
      slice (splice (splice data (data.length - 2 * volumeHeaderSize) headerBuf) 0
        (headerBuf.take k)) off n =
          slice (splice data (data.length - 2 * volumeHeaderSize) headerBuf) off n :=
    slice_splice_of_disjoint (Nat.zero_le _) (Or.inr (by omega))
  refine ⟨(length_splice (by omega)).trans hlen, ?_, ?_, fun off hoff => ?_⟩
  · rw [← hfirst]
    exact slice_splice_take (by omega) (by omega) k
  · rw [headerAt, hkeep (by omega)]
    exact hbackup.trans hwhole
  · rw [hkeep, hhidden off hoff]
    rcases List.mem_cons.mp hoff with rfl | hlast
    · exact le_refl _
    · rw [List.mem_singleton.mp hlast]
      omega

end Contents

end Oxhide.PasswordChange
