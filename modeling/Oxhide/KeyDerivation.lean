import Oxhide.BlockCiphers

/-! # Key derivation functions

The password hashing itself is a parameter: for every hash the PBKDF2 bytes, and
for Argon2id what its parameter check and its hashing answer. Around it stand the
iteration counts and memory costs that a personal iterations multiplier selects. -/
namespace Oxhide.KeyDerivation
open BlockCiphers WordBytes

inductive PbkdfHash where
  | sha256
  | sha512
  | blake2s
  | whirlpool
  | streebog
  deriving DecidableEq, Repr

/-- The hashing libraries. Outputs have the length that was asked for. -/
structure KdfLibrary where
  pbkdf2Hmac (hash : PbkdfHash) (password salt : Bytes) (rounds : UInt32) (len : ℕ) : Bytes
  argon2Params (mCost tCost pCost : UInt32) (len : ℕ) : Except String Unit
  argon2Hash (mCost tCost pCost : UInt32) (password salt : Bytes) (len : ℕ) : Except String Bytes
  pbkdf2Hmac_length {hash password salt rounds len} :
    (pbkdf2Hmac hash password salt rounds len).length = len
  argon2Hash_length {mCost tCost pCost password salt len key} :
    argon2Hash mCost tCost pCost password salt len = .ok key → key.length = len

/-- An implementation of key derivation. -/
structure Kdf where
  derive (password salt : Bytes) (iterations : UInt32) (len : ℕ) : Except CryptoError Bytes
  getIterationCount (pim : Int32) : UInt32
  name : String
  derive_length {password salt iterations len key} :
    derive password salt iterations len = .ok key → key.length = len

/-- The default of the trait. The product wraps like the machine word it is. -/
def defaultIterationCount (pim : Int32) : UInt32 :=
  if pim > 0 then 15000 + pim.toUInt32 * 1000 else 500000

inductive KdfAlgorithm where
  | pbkdf2Sha256
  | pbkdf2Sha512
  | pbkdf2Blake2s
  | pbkdf2Whirlpool
  | pbkdf2Streebog
  | argon2id
  deriving DecidableEq, Repr

def KdfAlgorithm.name : KdfAlgorithm → String
  | pbkdf2Sha256 => "PBKDF2-HMAC-SHA-256"
  | pbkdf2Sha512 => "PBKDF2-HMAC-SHA-512"
  | pbkdf2Blake2s => "PBKDF2-HMAC-BLAKE2s"
  | pbkdf2Whirlpool => "PBKDF2-HMAC-Whirlpool"
  | pbkdf2Streebog => "PBKDF2-HMAC-Streebog"
  | argon2id => "Argon2id"

section Implementations
variable (K : KdfLibrary)

/-- The five PBKDF2 implementations, which never fail. -/
def pbkdf2 (hash : PbkdfHash) (algorithm : KdfAlgorithm) : Kdf where
  derive password salt iterations len := .ok (K.pbkdf2Hmac hash password salt iterations len)
  getIterationCount := defaultIterationCount
  name := algorithm.name
  derive_length h := Except.ok.inj h ▸ K.pbkdf2Hmac_length

def pbkdf2Sha256 : Kdf := pbkdf2 K .sha256 .pbkdf2Sha256
def pbkdf2Sha512 : Kdf := pbkdf2 K .sha512 .pbkdf2Sha512
def pbkdf2Blake2s : Kdf := pbkdf2 K .blake2s .pbkdf2Blake2s
def pbkdf2Whirlpool : Kdf := pbkdf2 K .whirlpool .pbkdf2Whirlpool
def pbkdf2Streebog : Kdf := pbkdf2 K .streebog .pbkdf2Streebog

/-- Memory cost in KiB and time cost. -/
def argon2ParamsForPim (pim : Int32) : UInt32 × UInt32 :=
  let effectivePim : Int32 := if max pim 0 = 0 then 12 else max pim 0
  let effectivePim := effectivePim.toUInt32
  let grown := (effectivePim - 1) * 32
  let saturated : UInt32 := if 64 + grown < grown then 0xFFFFFFFF else 64 + grown
  let memoryCostMib := min saturated 1024
  let timeCost :=
    if effectivePim ≤ 31 then 3 + (effectivePim - 1) / 3 else 13 + (effectivePim - 31)
  (memoryCostMib * 1024, timeCost)

def argon2idDerive (memoryCost timeCost parallelism : UInt32) (password salt : Bytes)
    (iterations : UInt32) (len : ℕ) : Except CryptoError Bytes :=
  let timeCost := if iterations = 0 then timeCost else iterations
  match K.argon2Params memoryCost timeCost parallelism len with
  | .error e => .error (.keyDerivationFailed s!"Argon2id params: {e}")
  | .ok () =>
    match K.argon2Hash memoryCost timeCost parallelism password salt len with
    | .error e => .error (.keyDerivationFailed s!"Argon2id: {e}")
    | .ok key => .ok key

def argon2idKdf (memoryCost timeCost parallelism : UInt32) : Kdf where
  derive := argon2idDerive K memoryCost timeCost parallelism
  getIterationCount pim := (argon2ParamsForPim pim).2
  name := KdfAlgorithm.argon2id.name
  derive_length := by
    intro password salt iterations len key h
    rw [argon2idDerive] at h
    split at h
    · cases h
    · split at h
      · cases h
      · next hhash =>
        obtain rfl := Except.ok.inj h
        exact K.argon2Hash_length hhash

def kdfImpl : KdfAlgorithm → Kdf
  | .pbkdf2Sha512 => pbkdf2Sha512 K
  | .pbkdf2Whirlpool => pbkdf2Whirlpool K
  | .pbkdf2Sha256 => pbkdf2Sha256 K
  | .pbkdf2Blake2s => pbkdf2Blake2s K
  | .pbkdf2Streebog => pbkdf2Streebog K
  | .argon2id =>
    let (memoryCost, timeCost) := argon2ParamsForPim 0
    argon2idKdf K memoryCost timeCost 1

end Implementations

/-- A key derivation to try, with the parameters it is tried with. -/
structure KdfCandidate where
  algorithm : KdfAlgorithm
  implementation : Kdf
  pim : Int32
  iterations : UInt32
  memoryCostKib : Option UInt32

def makeKdfCandidate (K : KdfLibrary) (kdf : KdfAlgorithm) (pim : Int32) : KdfCandidate :=
  match kdf with
  | .argon2id =>
    let (memoryCostKib, timeCost) := argon2ParamsForPim pim
    { algorithm := kdf, implementation := argon2idKdf K memoryCostKib timeCost 1, pim := pim
      iterations := timeCost, memoryCostKib := some memoryCostKib }
  | _ =>
    let implementation := kdfImpl K kdf
    { algorithm := kdf, implementation := implementation, pim := pim
      iterations := implementation.getIterationCount pim, memoryCostKib := none }

/-- Tried during auto-detection, from the fastest to the slowest. -/
def autoKdfOrder : List KdfAlgorithm :=
  [.pbkdf2Sha512, .pbkdf2Sha256, .pbkdf2Blake2s, .pbkdf2Whirlpool, .pbkdf2Streebog, .argon2id]

def autoKdfCandidates (K : KdfLibrary) (pim : Option Int32) : List KdfCandidate :=
  autoKdfOrder.map fun alg => makeKdfCandidate K alg (pim.getD 0)

theorem mem_autoKdfOrder (kdf : KdfAlgorithm) : kdf ∈ autoKdfOrder := by
  cases kdf <;> decide

/-- Auto-detection tries every explicit choice of a key derivation. -/
theorem makeKdfCandidate_mem_auto (K : KdfLibrary) (kdf : KdfAlgorithm) (pim : Int32) :
    makeKdfCandidate K kdf pim ∈ autoKdfCandidates K (some pim) :=
  List.mem_map.mpr ⟨kdf, mem_autoKdfOrder kdf, rfl⟩

@[simp] theorem makeKdfCandidate_algorithm (K : KdfLibrary) (kdf : KdfAlgorithm) (pim : Int32) :
    (makeKdfCandidate K kdf pim).algorithm = kdf := by
  cases kdf <;> rfl

@[simp] theorem makeKdfCandidate_pim (K : KdfLibrary) (kdf : KdfAlgorithm) (pim : Int32) :
    (makeKdfCandidate K kdf pim).pim = pim := by
  cases kdf <;> rfl

end Oxhide.KeyDerivation
