import Mathlib.Data.List.Basic

/-! # Cipher choices, cascade orders and the driver's cipher codes

A volume is encrypted with one of five block ciphers or with one of ten cascades
of two or three of them. A cascade applies its ciphers in the reverse of the order
its name lists them. -/
namespace Oxhide.CipherTypes

/-- The implementations of the block cipher trait that a volume can use. -/
inductive CipherKind where
  | aes
  | serpent
  | twofish
  | camellia
  | kuznyechik
  deriving DecidableEq, Repr

inductive CascadeMode where
  | aesTwofish
  | aesTwofishSerpent
  | serpentAes
  | serpentTwofishAes
  | twofishSerpent
  | camelliaKuznyechik
  | camelliaSerpent
  | kuznyechikAes
  | kuznyechikSerpentCamellia
  | kuznyechikTwofish
  deriving DecidableEq, Repr

inductive CipherType where
  | aes
  | serpent
  | twofish
  | camellia
  | kuznyechik
  | aesTwofish
  | aesTwofishSerpent
  | serpentAes
  | serpentTwofishAes
  | twofishSerpent
  | camelliaKuznyechik
  | camelliaSerpent
  | kuznyechikAes
  | kuznyechikSerpentCamellia
  | kuznyechikTwofish
  deriving DecidableEq, Repr

namespace CipherType

/-- The search order of the openers. -/
def allSupported : List CipherType :=
  [aes, serpent, twofish, camellia, kuznyechik, aesTwofish, aesTwofishSerpent, serpentAes,
    serpentTwofishAes, twofishSerpent, camelliaKuznyechik, camelliaSerpent, kuznyechikAes,
    kuznyechikSerpentCamellia, kuznyechikTwofish]

def keySize : CipherType → ℕ
  | aes => 32
  | serpent => 32
  | twofish => 32
  | camellia => 32
  | kuznyechik => 32
  | aesTwofish => 64
  | aesTwofishSerpent => 96
  | serpentAes => 64
  | serpentTwofishAes => 96
  | twofishSerpent => 64
  | camelliaKuznyechik => 64
  | camelliaSerpent => 64
  | kuznyechikAes => 64
  | kuznyechikSerpentCamellia => 96
  | kuznyechikTwofish => 64

def name : CipherType → String
  | aes => "AES"
  | serpent => "Serpent"
  | twofish => "Twofish"
  | camellia => "Camellia"
  | kuznyechik => "Kuznyechik"
  | aesTwofish => "AES-Twofish"
  | aesTwofishSerpent => "AES-Twofish-Serpent"
  | serpentAes => "Serpent-AES"
  | serpentTwofishAes => "Serpent-Twofish-AES"
  | twofishSerpent => "Twofish-Serpent"
  | camelliaKuznyechik => "Camellia-Kuznyechik"
  | camelliaSerpent => "Camellia-Serpent"
  | kuznyechikAes => "Kuznyechik-AES"
  | kuznyechikSerpentCamellia => "Kuznyechik-Serpent-Camellia"
  | kuznyechikTwofish => "Kuznyechik-Twofish"

end CipherType

namespace CascadeMode

def cipherCount : CascadeMode → ℕ
  | aesTwofish | serpentAes | twofishSerpent | camelliaKuznyechik | camelliaSerpent
  | kuznyechikAes | kuznyechikTwofish => 2
  | aesTwofishSerpent | serpentTwofishAes | kuznyechikSerpentCamellia => 3

def keySize (mode : CascadeMode) : ℕ := mode.cipherCount * 32

def name : CascadeMode → String
  | aesTwofish => "AES-Twofish"
  | aesTwofishSerpent => "AES-Twofish-Serpent"
  | serpentAes => "Serpent-AES"
  | serpentTwofishAes => "Serpent-Twofish-AES"
  | twofishSerpent => "Twofish-Serpent"
  | camelliaKuznyechik => "Camellia-Kuznyechik"
  | camelliaSerpent => "Camellia-Serpent"
  | kuznyechikAes => "Kuznyechik-AES"
  | kuznyechikSerpentCamellia => "Kuznyechik-Serpent-Camellia"
  | kuznyechikTwofish => "Kuznyechik-Twofish"

/-- The ciphers in the order encryption applies them, each with the offset of its
key within the data half and within the tweak half of the combined key. -/
def veracryptOrder : CascadeMode → List (CipherType × ℕ)
  | aesTwofish => [(.twofish, 0), (.aes, 32)]
  | aesTwofishSerpent => [(.serpent, 0), (.twofish, 32), (.aes, 64)]
  | serpentAes => [(.aes, 0), (.serpent, 32)]
  | serpentTwofishAes => [(.aes, 0), (.twofish, 32), (.serpent, 64)]
  | twofishSerpent => [(.serpent, 0), (.twofish, 32)]
  | camelliaKuznyechik => [(.kuznyechik, 0), (.camellia, 32)]
  | camelliaSerpent => [(.serpent, 0), (.camellia, 32)]
  | kuznyechikAes => [(.aes, 0), (.kuznyechik, 32)]
  | kuznyechikSerpentCamellia => [(.camellia, 0), (.serpent, 32), (.kuznyechik, 64)]
  | kuznyechikTwofish => [(.twofish, 0), (.kuznyechik, 32)]

end CascadeMode

/-- How every dispatcher splits the cipher types. The arm for an unknown type that
some of them end with is never taken. -/
inductive CipherShape where
  | single (kind : CipherKind)
  | cascade (mode : CascadeMode)
  deriving DecidableEq, Repr

def CipherType.shape : CipherType → CipherShape
  | aes => .single .aes
  | serpent => .single .serpent
  | twofish => .single .twofish
  | camellia => .single .camellia
  | kuznyechik => .single .kuznyechik
  | aesTwofish => .cascade .aesTwofish
  | aesTwofishSerpent => .cascade .aesTwofishSerpent
  | serpentAes => .cascade .serpentAes
  | serpentTwofishAes => .cascade .serpentTwofishAes
  | twofishSerpent => .cascade .twofishSerpent
  | camelliaKuznyechik => .cascade .camelliaKuznyechik
  | camelliaSerpent => .cascade .camelliaSerpent
  | kuznyechikAes => .cascade .kuznyechikAes
  | kuznyechikSerpentCamellia => .cascade .kuznyechikSerpentCamellia
  | kuznyechikTwofish => .cascade .kuznyechikTwofish

/-- The code of a cipher in a mount request. -/
def cipherToEa : CipherType → UInt32
  | .aes => 0x01
  | .serpent => 0x02
  | .twofish => 0x03
  | .camellia => 0x04
  | .kuznyechik => 0x05
  | .aesTwofish => 0x11
  | .aesTwofishSerpent => 0x12
  | .serpentAes => 0x13
  | .serpentTwofishAes => 0x14
  | .twofishSerpent => 0x15
  | .camelliaKuznyechik => 0x16
  | .camelliaSerpent => 0x17
  | .kuznyechikAes => 0x18
  | .kuznyechikSerpentCamellia => 0x19
  | .kuznyechikTwofish => 0x1A

/-- The driver's reading of that code; every other code is refused. -/
def cipherTypeFromEa (ea : UInt32) : Option CipherType :=
  match ea.toNat with
  | 0x01 => some .aes
  | 0x02 => some .serpent
  | 0x03 => some .twofish
  | 0x04 => some .camellia
  | 0x05 => some .kuznyechik
  | 0x11 => some .aesTwofish
  | 0x12 => some .aesTwofishSerpent
  | 0x13 => some .serpentAes
  | 0x14 => some .serpentTwofishAes
  | 0x15 => some .twofishSerpent
  | 0x16 => some .camelliaKuznyechik
  | 0x17 => some .camelliaSerpent
  | 0x18 => some .kuznyechikAes
  | 0x19 => some .kuznyechikSerpentCamellia
  | 0x1A => some .kuznyechikTwofish
  | _ => none

@[simp] theorem cipherTypeFromEa_cipherToEa (cipher : CipherType) :
    cipherTypeFromEa (cipherToEa cipher) = some cipher := by
  cases cipher <;> rfl

/-! The sizes that the key slicing of the dispatchers relies on. -/

theorem keySize_of_single {cipher : CipherType} {kind : CipherKind}
    (h : cipher.shape = .single kind) : cipher.keySize = 32 := by
  cases cipher <;> first | rfl | cases h

theorem keySize_of_cascade {cipher : CipherType} {mode : CascadeMode}
    (h : cipher.shape = .cascade mode) : mode.keySize = cipher.keySize := by
  cases cipher <;> cases h <;> rfl

theorem keySize_le (cipher : CipherType) : cipher.keySize ≤ 96 := by
  cases cipher <;> decide

theorem mem_allSupported (cipher : CipherType) : cipher ∈ CipherType.allSupported := by
  cases cipher <;> decide

/-- Every pass of a cascade is a single cipher whose key lies inside both halves. -/
theorem veracryptOrder_spec (mode : CascadeMode) {pass : CipherType × ℕ}
    (h : pass ∈ mode.veracryptOrder) :
    (∃ kind, pass.1.shape = .single kind) ∧ pass.2 + 32 ≤ mode.keySize := by
  cases mode <;> simp only [CascadeMode.veracryptOrder, List.mem_cons, List.not_mem_nil,
    or_false] at h <;> rcases h with rfl | rfl | rfl <;>
    exact ⟨⟨_, rfl⟩, by decide⟩

theorem length_veracryptOrder (mode : CascadeMode) :
    mode.veracryptOrder.length = mode.cipherCount := by
  cases mode <;> rfl

end Oxhide.CipherTypes
