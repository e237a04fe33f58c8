import Oxhide.WordBytes

/-! # HMAC and PBKDF2 over an arbitrary hash

HMAC for any hash, and the key derivation of RFC 2898 for any pseudorandom function.
A derived key is cut out of the concatenation of the blocks `T 1 ++ T 2 ++ …`, so that a
shorter key is a prefix of a longer one. -/
namespace Oxhide.HmacChains
open WordBytes

section Hmac
variable (hash : Bytes → Bytes) (blockSize : ℕ)

/-- The key filled up to a block; a longer one is hashed first. -/
def blockKey (key : Bytes) : Bytes :=
  let short := if key.length > blockSize then hash key else key
  short ++ List.replicate (blockSize - short.length) 0

def hmac (key message : Bytes) : Bytes :=
  let inner := (blockKey hash blockSize key).map (· ^^^ 0x36)
  let outer := (blockKey hash blockSize key).map (· ^^^ 0x5C)
  hash (outer ++ hash (inner ++ message))

end Hmac

def xorBytes (xs ys : Bytes) : Bytes := List.zipWith (· ^^^ ·) xs ys

@[simp] theorem length_xorBytes (xs ys : Bytes) :
    (xorBytes xs ys).length = min xs.length ys.length := by
  simp [xorBytes]

section Blocks

/-! The concatenation `T 1 ++ T 2 ++ … ++ T k` of blocks of one length. -/

variable (T : ℕ → Bytes)

def blocks : ℕ → Bytes
  | 0 => []
  | k + 1 => blocks k ++ T (k + 1)

/-- The first `n` bytes of `T 1 ++ T 2 ++ …`, from as many blocks as that takes. -/
def derivedKey (hLen n : ℕ) : Bytes := (blocks T ((n + hLen - 1) / hLen)).take n

variable {T} {hLen : ℕ}

theorem length_blocks (hT : ∀ i, (T i).length = hLen) (k : ℕ) :
    (blocks T k).length = k * hLen := by
  induction k with
  | zero => simp [blocks]
  | succ k ih => rw [blocks, List.length_append, ih, hT, Nat.succ_mul]

/-- More blocks than needed change nothing. -/
theorem take_blocks (hT : ∀ i, (T i).length = hLen) {n k : ℕ} (h : n ≤ k * hLen) (j : ℕ) :
    (blocks T (k + j)).take n = (blocks T k).take n := by
  induction j with
  | zero => rfl
  | succ j ih =>
    have hlen : n ≤ (blocks T (k + j)).length := by
      rw [length_blocks hT]
      exact h.trans (Nat.mul_le_mul_right hLen (Nat.le_add_right k j))
    rw [← Nat.add_assoc, blocks, List.take_append_of_le_length hlen, ih]

private theorem le_ceil_mul (hpos : 0 < hLen) (n : ℕ) : n ≤ (n + hLen - 1) / hLen * hLen := by
  have hdiv := Nat.div_add_mod (n + hLen - 1) hLen
  have hmod := Nat.mod_lt (n + hLen - 1) hpos
  rw [Nat.mul_comm] at hdiv
  omega

/-- Any number of blocks that is enough gives the derived key. -/
theorem derivedKey_eq_take (hT : ∀ i, (T i).length = hLen) (hpos : 0 < hLen) {n k : ℕ}
    (h : n ≤ k * hLen) : derivedKey T hLen n = (blocks T k).take n := by
  have hceil := le_ceil_mul hpos n
  rcases Nat.le_total k ((n + hLen - 1) / hLen) with hle | hle
  · obtain ⟨j, hj⟩ := Nat.exists_eq_add_of_le hle
    rw [derivedKey, hj, take_blocks hT h]
  · obtain ⟨j, hj⟩ := Nat.exists_eq_add_of_le hle
    rw [derivedKey, hj, take_blocks hT hceil]

theorem length_derivedKey (hT : ∀ i, (T i).length = hLen) (hpos : 0 < hLen) (n : ℕ) :
    (derivedKey T hLen n).length = n := by
  rw [derivedKey, List.length_take, length_blocks hT, Nat.min_eq_left (le_ceil_mul hpos n)]

/-- A shorter derived key is a prefix of a longer one. -/
theorem take_derivedKey (hT : ∀ i, (T i).length = hLen) (hpos : 0 < hLen) {m n : ℕ}
    (h : m ≤ n) : (derivedKey T hLen n).take m = derivedKey T hLen m := by
  have hceil := le_ceil_mul hpos n
  rw [derivedKey_eq_take hT hpos (h.trans hceil), derivedKey, List.take_take, Nat.min_eq_left h]

end Blocks

section Pbkdf2

/-! A block is the exclusive or of `c` chained values of the pseudorandom function. -/

variable (prf : Bytes → Bytes) (salt : Bytes)

/-- `U (j + 1)` of block `i`: the first value is that of the salt and the block number. -/
def chainValue (i : ℕ) : ℕ → Bytes
  | 0 => prf (salt ++ beBytes 4 i)
  | j + 1 => prf (chainValue i j)

/-- `U 1 xor … xor U (j + 1)` of block `i`. -/
def chainXor (i : ℕ) : ℕ → Bytes
  | 0 => chainValue prf salt i 0
  | j + 1 => xorBytes (chainXor i j) (chainValue prf salt i (j + 1))

/-- The block `T i` with iteration count `c`. -/
def pbkdf2Block (c i : ℕ) : Bytes := chainXor prf salt i (c - 1)

def pbkdf2 (hLen c n : ℕ) : Bytes := derivedKey (pbkdf2Block prf salt c) hLen n

variable {prf} {hLen : ℕ}

theorem length_chainValue (h : ∀ m, (prf m).length = hLen) (i j : ℕ) :
    (chainValue prf salt i j).length = hLen := by
  cases j <;> exact h _

theorem length_pbkdf2Block (h : ∀ m, (prf m).length = hLen) (c i : ℕ) :
    (pbkdf2Block prf salt c i).length = hLen := by
  rw [pbkdf2Block]
  induction c - 1 with
  | zero => exact length_chainValue salt h i 0
  | succ j ih =>
    rw [chainXor, length_xorBytes, ih, length_chainValue salt h, Nat.min_self]

end Pbkdf2

end Oxhide.HmacChains
