import Oxhide.CipherChain
import Oxhide.TwofishTables
import Mathlib.Data.List.FinRange

/-! # Twofish

The key schedule composes the key-dependent S-boxes with the MDS matrix ahead of time, and a
pass of the round loop does two rounds without exchanging the halves. The loops of the two
directions undo each other for whatever a context holds. -/
namespace Oxhide.TwofishBlocks
open BlockCiphers CipherChain CipherTypes InPlaceBuffer ListSplice TwofishTables WordBytes

section KeySchedule

variable {n : ℕ}

/-- An entry of a table for every byte. -/
def entry {α : Type} (t : Vector α 256) (x : UInt8) : α := t.get ⟨x.toNat, x.toNat_lt⟩

/-- The `len` entries from `off` on. -/
def arrayRef (key : Vector UInt8 n) (off len : ℕ) (h : off + len ≤ n) : Vector UInt8 len :=
  Vector.ofFn fun i => key.get ⟨off + i, by omega⟩

def rotateLeft (x : UInt32) (j : ℕ) : UInt32 := UInt32.ofBitVec (x.toBitVec.rotateLeft j)

def rotateRight (x : UInt32) (j : ℕ) : UInt32 := UInt32.ofBitVec (x.toBitVec.rotateRight j)

def splat (i : UInt8) : Vector UInt8 4 := #v[i, i, i, i]

def unsplat (i : Vector UInt32 4) : UInt32 := i.get 0 ^^^ i.get 1 ^^^ i.get 2 ^^^ i.get 3

/-! The key is passed without the four bytes that the last lookup would skip. -/

def h128 (x : Vector UInt8 4) (key : Vector UInt8 12) : Vector UInt32 4 := #v[
  entry (mdsq.get 0) (entry q0 (entry q0 (x.get 0) ^^^ key.get 8) ^^^ key.get 0),
  entry (mdsq.get 1) (entry q0 (entry q1 (x.get 1) ^^^ key.get 9) ^^^ key.get 1),
  entry (mdsq.get 2) (entry q1 (entry q0 (x.get 2) ^^^ key.get 10) ^^^ key.get 2),
  entry (mdsq.get 3) (entry q1 (entry q1 (x.get 3) ^^^ key.get 11) ^^^ key.get 3)]

def h192 (x : Vector UInt8 4) (key : Vector UInt8 20) : Vector UInt32 4 :=
  h128 #v[
    entry q1 (x.get 0) ^^^ key.get 16,
    entry q1 (x.get 1) ^^^ key.get 17,
    entry q0 (x.get 2) ^^^ key.get 18,
    entry q0 (x.get 3) ^^^ key.get 19] (arrayRef key 0 12 (by decide))

def h256 (x : Vector UInt8 4) (key : Vector UInt8 28) : Vector UInt32 4 :=
  h192 #v[
    entry q1 (x.get 0) ^^^ key.get 24,
    entry q0 (x.get 1) ^^^ key.get 25,
    entry q0 (x.get 2) ^^^ key.get 26,
    entry q1 (x.get 3) ^^^ key.get 27] (arrayRef key 0 20 (by decide))

def h128NoSkip (x : Vector UInt8 4) (key : Vector UInt8 8) : Vector UInt32 4 := #v[
  entry (mdsq.get 0) (entry q0 (entry q0 (x.get 0) ^^^ key.get 4) ^^^ key.get 0),
  entry (mdsq.get 1) (entry q0 (entry q1 (x.get 1) ^^^ key.get 5) ^^^ key.get 1),
  entry (mdsq.get 2) (entry q1 (entry q0 (x.get 2) ^^^ key.get 6) ^^^ key.get 2),
  entry (mdsq.get 3) (entry q1 (entry q1 (x.get 3) ^^^ key.get 7) ^^^ key.get 3)]

def h192NoSkip (x : Vector UInt8 4) (key : Vector UInt8 12) : Vector UInt32 4 :=
  h128NoSkip #v[
    entry q1 (x.get 0) ^^^ key.get 8,
    entry q1 (x.get 1) ^^^ key.get 9,
    entry q0 (x.get 2) ^^^ key.get 10,
    entry q0 (x.get 3) ^^^ key.get 11] (arrayRef key 0 8 (by decide))

def h256NoSkip (x : Vector UInt8 4) (key : Vector UInt8 16) : Vector UInt32 4 :=
  h192NoSkip #v[
    entry q1 (x.get 0) ^^^ key.get 12,
    entry q0 (x.get 1) ^^^ key.get 13,
    entry q0 (x.get 2) ^^^ key.get 14,
    entry q1 (x.get 3) ^^^ key.get 15] (arrayRef key 0 12 (by decide))

/-- Add a column of the RS matrix times a byte of the key. The column holds exponents. -/
def rsMulColumn (m s : Vector UInt8 4) (keyByte : UInt8) : Vector UInt8 4 :=
  if keyByte ≠ 0 then
    Vector.ofFn fun i => s.get i ^^^ rsPower (rsExponent keyByte + (m.get i).toNat)
  else s

/-- The key-dependent data: the S-boxes composed with the MDS matrix, the whitening subkeys
and the round subkeys. -/
structure Twofish where
  s : Vector (Vector UInt32 256) 4
  w : Vector UInt32 8
  k : Vector UInt32 32

variable {chunks : ℕ}

theorem column_fits (column : Fin 8) : column.val * 4 + 4 ≤ 32 := by omega

/-- The RS matrix times eight bytes of the key. -/
def rsChunk (key : Vector UInt8 (chunks * 8)) (i : Fin chunks) : Vector UInt8 4 :=
  (List.finRange 8).foldl (fun s column =>
    rsMulColumn (arrayRef rsMatrix (column.val * 4) 4 (column_fits column)) s
      (key.get ⟨i.val * 8 + column.val, by omega⟩)) #v[0, 0, 0, 0]

/-- The chunks of the key stand in reverse order. -/
def rsBytes (key : Vector UInt8 (chunks * 8)) : Vector UInt8 (chunks * 4) :=
  Vector.ofFn fun j => (rsChunk key ⟨chunks - j / 4 - 1, by omega⟩).get ⟨j % 4, by omega⟩

/-- The two subkeys of step `j`. -/
def subkeyPair (hfunc : Vector UInt8 4 → Vector UInt8 (chunks * 8 - 4) → Vector UInt32 4)
    (hkey : 4 ≤ chunks * 8) (key : Vector UInt8 (chunks * 8)) (j : ℕ) : UInt32 × UInt32 :=
  let a := unsplat (hfunc (splat (UInt8.ofNat (2 * j)))
    (arrayRef key 0 (chunks * 8 - 4) (by omega)))
  let b := rotateLeft (unsplat (hfunc (splat (UInt8.ofNat (2 * j + 1)))
    (arrayRef key 4 (chunks * 8 - 4) (by omega)))) 8
  (a + b, rotateLeft (a + b <<< 1) 9)

/-- Subkeys `2 * j` and `2 * j + 1` for `j` from `first` on. -/
def subkeys (pairs : ℕ → UInt32 × UInt32) (first count : ℕ) : Vector UInt32 count :=
  Vector.ofFn fun p =>
    if p.val % 2 = 0 then (pairs (first + p / 2)).1 else (pairs (first + p / 2)).2

def defineTwofishNew (hfunc : Vector UInt8 4 → Vector UInt8 (chunks * 8 - 4) → Vector UInt32 4)
    (hnoskipfunc : Vector UInt8 4 → Vector UInt8 (chunks * 4) → Vector UInt32 4)
    (hkey : 4 ≤ chunks * 8) (key : Vector UInt8 (chunks * 8)) : Twofish where
  s := Vector.ofFn fun row => Vector.ofFn fun x =>
    (hnoskipfunc (splat (UInt8.ofNat x)) (rsBytes key)).get row
  w := subkeys (subkeyPair hfunc hkey key) 0 8
  k := subkeys (subkeyPair hfunc hkey key) 4 32

namespace Twofish

def new128 (key : Vector UInt8 (2 * 8)) : Twofish :=
  defineTwofishNew h128 h128NoSkip (by decide) key

def new192 (key : Vector UInt8 (3 * 8)) : Twofish :=
  defineTwofishNew h192 h192NoSkip (by decide) key

def new256 (key : Vector UInt8 (4 * 8)) : Twofish :=
  defineTwofishNew h256 h256NoSkip (by decide) key

end Twofish

end KeySchedule

section Rounds

def fromLeBytes (bs : Bytes) : UInt32 := UInt32.ofNat (ofLeBytes bs)

def toLeBytes (x : UInt32) : Bytes := leBytes 4 x.toNat

/-- The sixteen bytes of four words. -/
def ofWords (a b c d : UInt32) : Bytes :=
  toLeBytes a ++ toLeBytes b ++ toLeBytes c ++ toLeBytes d

def g (s : Vector (Vector UInt32 256) 4) (input : UInt32) : UInt32 :=
  let bytes := toLeBytes input
  entry (s.get 0) (bytes.getD 0 0) ^^^ entry (s.get 1) (bytes.getD 1 0) ^^^
    entry (s.get 2) (bytes.getD 2 0) ^^^ entry (s.get 3) (bytes.getD 3 0)

/-- The four registers of the round loop. -/
structure Registers where
  r0 : UInt32
  r1 : UInt32
  r2 : UInt32
  r3 : UInt32
  deriving DecidableEq

namespace Twofish

def f (t : Twofish) (round : ℕ) (h : round + 1 < 32) (r0 r1 : UInt32) : UInt32 × UInt32 :=
  let t0 := g t.s r0
  let t1 := g t.s (rotateLeft r1 8)
  (t0 + t1 + t.k.get ⟨round, by omega⟩, t0 + t1 <<< 1 + t.k.get ⟨round + 1, h⟩)

/-- The body of the encryption loop at `round = 4 * i`. -/
def encryptRounds (t : Twofish) (i : Fin 8) (r : Registers) : Registers :=
  let fr := t.f (4 * i) (by omega) r.r0 r.r1
  let r2 := rotateRight (r.r2 ^^^ fr.1) 1
  let r3 := rotateLeft r.r3 1 ^^^ fr.2
  let fr := t.f (4 * i + 2) (by omega) r2 r3
  ⟨rotateRight (r.r0 ^^^ fr.1) 1, rotateLeft r.r1 1 ^^^ fr.2, r2, r3⟩

/-- The body of the decryption loop at `round = 4 * i`. -/
def decryptRounds (t : Twofish) (i : Fin 8) (r : Registers) : Registers :=
  let fr := t.f (4 * i + 2) (by omega) r.r2 r.r3
  let r0 := rotateLeft r.r0 1 ^^^ fr.1
  let r1 := rotateRight (r.r1 ^^^ fr.2) 1
  let fr := t.f (4 * i) (by omega) r0 r1
  ⟨r0, r1, rotateLeft r.r2 1 ^^^ fr.1, rotateRight (r.r3 ^^^ fr.2) 1⟩

def encrypt (t : Twofish) (i : Bytes) : Bytes :=
  -- whiten input
  let r := composeAlong t.encryptRounds (List.finRange 8)
    ⟨fromLeBytes (slice i 0 4) ^^^ t.w.get 0, fromLeBytes (slice i 4 4) ^^^ t.w.get 1,
      fromLeBytes (slice i 8 4) ^^^ t.w.get 2, fromLeBytes (slice i 12 4) ^^^ t.w.get 3⟩
  -- whiten output: the halves were not exchanged after the last round
  ofWords (r.r2 ^^^ t.w.get 4) (r.r3 ^^^ t.w.get 5) (r.r0 ^^^ t.w.get 6) (r.r1 ^^^ t.w.get 7)

def decrypt (t : Twofish) (i : Bytes) : Bytes :=
  let r := composeAlong t.decryptRounds (List.finRange 8).reverse
    ⟨fromLeBytes (slice i 8 4) ^^^ t.w.get 6, fromLeBytes (slice i 12 4) ^^^ t.w.get 7,
      fromLeBytes (slice i 0 4) ^^^ t.w.get 4, fromLeBytes (slice i 4 4) ^^^ t.w.get 5⟩
  ofWords (r.r0 ^^^ t.w.get 0) (r.r1 ^^^ t.w.get 1) (r.r2 ^^^ t.w.get 2) (r.r3 ^^^ t.w.get 3)

end Twofish

end Rounds

section Inverse

theorem rotateRight_rotateLeft (x : UInt32) : rotateRight (rotateLeft x 1) 1 = x := by
  apply UInt32.toBitVec_inj.mp
  change (x.toBitVec.rotateLeft 1).rotateRight 1 = x.toBitVec
  refine BitVec.eq_of_getLsbD_eq fun i hi => ?_
  rw [BitVec.getLsbD_rotateRight, BitVec.getLsbD_rotateLeft, BitVec.getLsbD_rotateLeft]
  by_cases hlast : i = 31
  · subst hlast
    simp
  · have hlow : i < 31 := by omega
    simp [hlow, hi]
    intro h
    omega

theorem rotateLeft_rotateRight (x : UInt32) : rotateLeft (rotateRight x 1) 1 = x := by
  apply UInt32.toBitVec_inj.mp
  change (x.toBitVec.rotateRight 1).rotateLeft 1 = x.toBitVec
  refine BitVec.eq_of_getLsbD_eq fun i hi => ?_
  rw [BitVec.getLsbD_rotateLeft, BitVec.getLsbD_rotateRight, BitVec.getLsbD_rotateRight]
  cases i with
  | zero => simp
  | succ i => simp [show i < 31 by omega, hi, Nat.add_comm 1 i]

theorem xor_cancel (x y : UInt32) : x ^^^ y ^^^ y = x := by
  rw [UInt32.xor_assoc, UInt32.xor_self, UInt32.xor_zero]

theorem fromLeBytes_toLeBytes (x : UInt32) : fromLeBytes (toLeBytes x) = x := by
  have hlt : x.toNat < 2 ^ 32 := x.toNat_lt
  rw [fromLeBytes, toLeBytes, ofLeBytes_leBytes, Nat.mod_eq_of_lt (by simpa using hlt),
    UInt32.ofNat_toNat]

theorem toLeBytes_fromLeBytes {bs : Bytes} (h : bs.length = 4) :
    toLeBytes (fromLeBytes bs) = bs := by
  have hlt := ofLeBytes_lt bs
  have himage := leBytes_ofLeBytes bs
  rw [h] at hlt himage
  have hval : (fromLeBytes bs).toNat = ofLeBytes bs := by
    rw [fromLeBytes, UInt32.toNat_ofNat', Nat.mod_eq_of_lt (by simpa using hlt)]
  rw [toLeBytes, hval, himage]

@[simp] theorem length_ofWords (a b c d : UInt32) : (ofWords a b c d).length = 16 := by
  simp [ofWords, toLeBytes]

theorem slice_ofWords (a b c d : UInt32) :
    slice (ofWords a b c d) 0 4 = toLeBytes a ∧ slice (ofWords a b c d) 4 4 = toLeBytes b ∧
      slice (ofWords a b c d) 8 4 = toLeBytes c ∧ slice (ofWords a b c d) 12 4 = toLeBytes d := by
  simp [ofWords, slice, toLeBytes, leBytes]

theorem ofWords_slice {i : Bytes} (h : i.length = 16) :
    ofWords (fromLeBytes (slice i 0 4)) (fromLeBytes (slice i 4 4)) (fromLeBytes (slice i 8 4))
      (fromLeBytes (slice i 12 4)) = i := by
  have hword (off : ℕ) (hoff : off + 4 ≤ 16) :
      toLeBytes (fromLeBytes (slice i off 4)) = slice i off 4 :=
    toLeBytes_fromLeBytes (length_slice_of_le (by omega))
  rw [ofWords, hword 0 (by omega), hword 4 (by omega), hword 8 (by omega), hword 12 (by omega),
    slice_append_slice i 0 4 4, slice_append_slice i 0 8 4, slice_append_slice i 0 12 4]
  exact slice_all h.le

namespace Twofish

variable (t : Twofish)

theorem decryptRounds_encryptRounds (i : Fin 8) :
    Function.LeftInverse (t.decryptRounds i) (t.encryptRounds i) := by
  intro r
  simp only [decryptRounds, encryptRounds, xor_cancel, rotateLeft_rotateRight,
    rotateRight_rotateLeft]

theorem encryptRounds_decryptRounds (i : Fin 8) :
    Function.LeftInverse (t.encryptRounds i) (t.decryptRounds i) := by
  intro r
  simp only [decryptRounds, encryptRounds, xor_cancel, rotateLeft_rotateRight,
    rotateRight_rotateLeft]

theorem length_encrypt (i : Bytes) : (t.encrypt i).length = 16 := length_ofWords _ _ _ _

theorem length_decrypt (i : Bytes) : (t.decrypt i).length = 16 := length_ofWords _ _ _ _

/-- The key does not matter: a context with any tables and subkeys decrypts what it encrypts. -/
theorem decrypt_encrypt {i : Bytes} (h : i.length = 16) : t.decrypt (t.encrypt i) = i := by
  have hrounds := composeAlong_reverse_leftInverse t.decryptRounds_encryptRounds (List.finRange 8)
  rw [encrypt, decrypt]
  simp only [slice_ofWords, fromLeBytes_toLeBytes, xor_cancel, hrounds _, ofWords_slice h]

theorem encrypt_decrypt {i : Bytes} (h : i.length = 16) : t.encrypt (t.decrypt i) = i := by
  have hrounds := composeAlong_reverse_leftInverse t.encryptRounds_decryptRounds
    (List.finRange 8).reverse
  rw [List.reverse_reverse] at hrounds
  rw [encrypt, decrypt]
  simp only [slice_ofWords, fromLeBytes_toLeBytes, xor_cancel, hrounds _, ofWords_slice h]

end Twofish

end Inverse

section Wrapper

/-- A slice of the right length as an array. -/
def toArray (n : ℕ) (bs : Bytes) : Vector UInt8 n := Vector.ofFn fun i => bs.getD i 0

/-- The cipher as the program uses it, with its checks on lengths. -/
structure TwofishCipher where
  cipher : Twofish

namespace TwofishCipher

def new (key : Bytes) : Except CryptoError TwofishCipher :=
  if key.length ≠ BlockCipher.keySize then
    .error (.invalidKeySize BlockCipher.keySize key.length)
  else .ok ⟨Twofish.new256 (toArray (4 * 8) key)⟩

def onBlock (f : Bytes → Bytes) : InPlace CryptoError UInt8 := fun block =>
  if block.length ≠ BlockCipher.blockSize then
    (.error (.invalidBlockSize BlockCipher.blockSize block.length), block)
  else (.ok (), f block)

def encryptBlock (c : TwofishCipher) : InPlace CryptoError UInt8 := onBlock c.cipher.encrypt

def decryptBlock (c : TwofishCipher) : InPlace CryptoError UInt8 := onBlock c.cipher.decrypt

end TwofishCipher

/-- A suite of ciphers with this Twofish in it. -/
def withTwofish (P : CipherSuite) : CipherSuite where
  encrypt kind key blk :=
    match kind with
    | .twofish =>
      blockOfBytes ((Twofish.new256 (toArray (4 * 8) key)).encrypt (bytesOfBlock blk))
    | kind => P.encrypt kind key blk
  decrypt kind key blk :=
    match kind with
    | .twofish =>
      blockOfBytes ((Twofish.new256 (toArray (4 * 8) key)).decrypt (bytesOfBlock blk))
    | kind => P.decrypt kind key blk
  decrypt_encrypt kind key blk := by
    cases kind with
    | twofish =>
      have hblock := bytesOfBlock_blockOfBytes
        ((Twofish.new256 (toArray (4 * 8) key)).length_encrypt (bytesOfBlock blk))
      simp only [hblock, Twofish.decrypt_encrypt _ (length_bytesOfBlock blk),
        blockOfBytes_bytesOfBlock]
    | _ => exact P.decrypt_encrypt _ key blk
  encrypt_decrypt kind key blk := by
    cases kind with
    | twofish =>
      have hblock := bytesOfBlock_blockOfBytes
        ((Twofish.new256 (toArray (4 * 8) key)).length_decrypt (bytesOfBlock blk))
      simp only [hblock, Twofish.encrypt_decrypt _ (length_bytesOfBlock blk),
        blockOfBytes_bytesOfBlock]
    | _ => exact P.encrypt_decrypt _ key blk

theorem onBlock_of_length {f : Bytes → Bytes} {block : Bytes} (h : block.length = 16) :
    TwofishCipher.onBlock f block = (.ok (), f block) :=
  if_neg (not_not.mpr h)

theorem onBlock_of_length_ne (f : Bytes → Bytes) {block : Bytes} (h : block.length ≠ 16) :
    TwofishCipher.onBlock f block = (.error (.invalidBlockSize 16 block.length), block) :=
  if_pos h

/-- A block function that is a byte function in disguise. -/
private theorem onBlock_eq {f : Bytes → Bytes} {F : Block → Block}
    (hF : ∀ blk, F blk = blockOfBytes (f (bytesOfBlock blk))) (hlen : ∀ i, (f i).length = 16) :
    BlockCipher.onBlock F = TwofishCipher.onBlock f := by
  funext block
  by_cases h : block.length = 16
  · have hrun : BlockCipher.onBlock F block = (.ok (), bytesOfBlock (F (blockOfBytes block))) :=
      if_neg (not_not.mpr h)
    rw [onBlock_of_length h, hrun, hF, bytesOfBlock_blockOfBytes h,
      bytesOfBlock_blockOfBytes (hlen block)]
  · rw [onBlock_of_length_ne f h]
    exact if_pos h

/-- On buffers of any length the program's cipher acts as the suite's Twofish. -/
theorem onBlock_withTwofish (P : CipherSuite) {c : BlockCipher} (hkind : c.kind = .twofish) :
    ∃ t, TwofishCipher.new c.key = .ok t ∧ c.encryptBlock (withTwofish P) = t.encryptBlock ∧
      c.decryptBlock (withTwofish P) = t.decryptBlock := by
  have hnew : TwofishCipher.new c.key = .ok ⟨Twofish.new256 (toArray (4 * 8) c.key)⟩ :=
    if_neg (not_not.mpr c.key_length)
  refine ⟨_, hnew, ?_, ?_⟩
  · rw [BlockCipher.encryptBlock, hkind]
    exact onBlock_eq (fun _ => rfl) (Twofish.length_encrypt _)
  · rw [BlockCipher.decryptBlock, hkind]
    exact onBlock_eq (fun _ => rfl) (Twofish.length_decrypt _)

/-- Whatever its tables and subkeys are, the cipher permutes the blocks of sixteen bytes, its
two directions are inverse, and other buffers are refused and left alone. -/
theorem twofish_inverse (c : TwofishCipher) (block : Bytes) :
    (block.length = 16 → ∃ enc dec, enc.length = 16 ∧ dec.length = 16 ∧
      c.encryptBlock block = (.ok (), enc) ∧ c.decryptBlock enc = (.ok (), block) ∧
      c.decryptBlock block = (.ok (), dec) ∧ c.encryptBlock dec = (.ok (), block)) ∧
    (block.length ≠ 16 → ∃ e, c.encryptBlock block = (.error e, block) ∧
      c.decryptBlock block = (.error e, block)) := by
  have henc := c.cipher.length_encrypt block
  have hdec := c.cipher.length_decrypt block
  refine ⟨fun h => ⟨_, _, henc, hdec, onBlock_of_length h, ?_, onBlock_of_length h, ?_⟩,
    fun h => ⟨_, onBlock_of_length_ne _ h, onBlock_of_length_ne _ h⟩⟩
  · rw [TwofishCipher.decryptBlock, onBlock_of_length henc, c.cipher.decrypt_encrypt h]
  · rw [TwofishCipher.encryptBlock, onBlock_of_length hdec, c.cipher.encrypt_decrypt h]

end Wrapper

end Oxhide.TwofishBlocks
