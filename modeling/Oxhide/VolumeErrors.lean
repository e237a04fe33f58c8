import Oxhide.BlockCiphers

/-! # Errors of the volume and format layers

Errors of the standard library's I/O are represented by their displayed text. -/
namespace Oxhide.VolumeErrors

inductive VolumeError where
  | openError (msg : String)
  | invalidFormat (msg : String)
  | authFailed (msg : String)
  | readError (sector : UInt64) (msg : String)
  | writeError (sector : UInt64) (msg : String)
  | alreadyMounted
  | notMounted
  | hiddenVolumeProtection
  | unsupported (msg : String)
  | ioError (msg : String)
  | cryptoError (msg : String)
  | formatError (msg : String)
  deriving DecidableEq, Repr

inductive FormatError where
  | invalidMagic (expected actual : UInt32)
  | invalidCrc (expected actual : UInt32)
  | unsupportedVersion (version : UInt16)
  | invalidHeaderSize (expected actual : ℕ)
  | decryptionFailed (msg : String)
  | encryptionFailed (msg : String)
  | ioError (msg : String)
  | cryptoError (msg : String)
  deriving DecidableEq, Repr

private def hexDigits : ℕ → ℕ → List Char
  | 0, _ => []
  | n + 1, v => hexDigits n (v / 16) ++ [Nat.digitChar (v % 16)]

/-- `0x` and eight hexadecimal digits. -/
def hex08 (v : UInt32) : String := "0x" ++ String.ofList (hexDigits 8 v.toNat)

def FormatError.toText : FormatError → String
  | .invalidMagic expected actual =>
    "Invalid magic number: expected " ++ hex08 expected ++ ", got " ++ hex08 actual
  | .invalidCrc expected actual =>
    "Invalid header CRC32: expected " ++ hex08 expected ++ ", got " ++ hex08 actual
  | .unsupportedVersion version => s!"Unsupported volume version: {version}"
  | .invalidHeaderSize expected actual => s!"Invalid header size: expected {expected}, got {actual}"
  | .decryptionFailed msg => s!"Header decryption failed: {msg}"
  | .encryptionFailed msg => s!"Header encryption failed: {msg}"
  | .ioError msg => s!"I/O error: {msg}"
  | .cryptoError msg => s!"Crypto error: {msg}"

example : (FormatError.invalidMagic 0x56455241 0xBEEF).toText =
    "Invalid magic number: expected 0x56455241, got 0x0000beef" := by decide

end Oxhide.VolumeErrors
