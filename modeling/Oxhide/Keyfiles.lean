import Oxhide.Crc32

/-! # Mixing keyfiles into a password

The running checksum of a keyfile is added byte by byte to a pool of 128 bytes,
which is added to the password. A keyfile is given by the outcome of reading it. -/
namespace Oxhide.Keyfiles
open Crc32 WordBytes

def poolSize : ℕ := 128
def maxRead : ℕ := 1048576

/-- Add a byte at position `i`, counted around the pool. -/
def addAt (pool : Bytes) (i : ℕ) (b : UInt8) : Bytes :=
  pool.modify (i % poolSize) (· + b)

structure Mixing where
  pool : Bytes
  crc : UInt32
  pos : ℕ

/-- One keyfile byte: the four bytes of the new checksum, the highest first. -/
def mixByte (m : Mixing) (b : UInt8) : Mixing :=
  let crc := digestWithInitial m.crc [b]
  let pool := addAt m.pool m.pos (crc >>> 24).toUInt8
  let pool := addAt pool (m.pos + 1) (crc >>> 16).toUInt8
  let pool := addAt pool (m.pos + 2) (crc >>> 8).toUInt8
  let pool := addAt pool (m.pos + 3) crc.toUInt8
  ⟨pool, crc, m.pos + 4⟩

/-- The loop over the keyfiles. It stops at an empty one and when `maxRead` bytes
were taken. -/
def mixKeyfiles (pool : Bytes) (total : ℕ) : List (Except String Bytes) → Except String Bytes
  | [] => .ok pool
  | .error e :: _ => .error e
  | .ok data :: paths =>
    let n := min data.length (maxRead - total)
    if n = 0 then .ok pool
    else mixKeyfiles ((data.take n).foldl mixByte ⟨pool, 0, 0⟩).pool (total + n) paths

def applyKeyfiles (password : Bytes) (paths : List (Except String Bytes)) : Except String Bytes :=
  if paths.isEmpty then .ok password
  else do
    let pool ← mixKeyfiles (List.replicate poolSize 0) 0 paths
    let password := password ++ List.replicate (poolSize - password.length) 0
    return List.zipWith (· + ·) password pool ++ password.drop poolSize

end Oxhide.Keyfiles
