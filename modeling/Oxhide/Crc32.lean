import Oxhide.WordBytes

/-! # CRC-32/ISO-HDLC

Reflected, polynomial `0x04C11DB7`, initial value and final mask all ones. -/
namespace Oxhide.Crc32
open WordBytes

def crcStep (crc : UInt32) : UInt32 :=
  if crc &&& 1 = 1 then (crc >>> 1) ^^^ 0xEDB88320 else crc >>> 1

def crcUpdate (crc : UInt32) (b : UInt8) : UInt32 := crcStep^[8] (crc ^^^ b.toUInt32)

def crc32 (bs : Bytes) : UInt32 := bs.foldl crcUpdate 0xFFFFFFFF ^^^ 0xFFFFFFFF

/-- A digest with an initial value of its own, which is reflected like the input. -/
def digestWithInitial (initial : UInt32) (bs : Bytes) : UInt32 :=
  bs.foldl crcUpdate (UInt32.ofBitVec initial.toBitVec.reverse) ^^^ 0xFFFFFFFF

example : crc32 [0x31, 0x32, 0x33, 0x34, 0x35, 0x36, 0x37, 0x38, 0x39] = 0xCBF43926 := by
  decide +kernel

end Oxhide.Crc32
