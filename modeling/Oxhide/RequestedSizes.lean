import Oxhide.CheckedWords
import Oxhide.DecimalNumerals
import Oxhide.HeaderFormat

/-! # The size asked for on the command line

`parse_size` reads a decimal numeral and a unit. A numeral that no `u64` holds is replaced
by a default, the product with the unit saturates, and `cmd_create` adds four header slots
to the result without a check. -/
namespace Oxhide.RequestedSizes
open CheckedWords DecimalNumerals HeaderFormat

def digitOf (c : Char) : ℕ := c.toNat - '0'.toNat

def checkedMul (a b : UInt64) : Option UInt64 :=
  if a.toNat * b.toNat < 2 ^ 64 then some (a * b) else none

def checkedAdd (a b : UInt64) : Option UInt64 :=
  if a.toNat + b.toNat < 2 ^ 64 then some (a + b) else none

def saturatingMul (a b : UInt64) : UInt64 :=
  if a.toNat * b.toNat < 2 ^ 64 then a * b else 0xFFFFFFFFFFFFFFFF

/-- The loop of `u64::from_str`, from the value so far. -/
def parseFrom : List Char → UInt64 → Option UInt64
  | [], n => some n
  | c :: cs, n => do
    let n ← checkedMul n 10
    let n ← checkedAdd n (UInt64.ofNat (digitOf c))
    parseFrom cs n

/-- `u64::from_str`, on digits. -/
def parseU64 (num : List Char) : Option UInt64 := if num = [] then none else parseFrom num 0

def endsWith (s : List Char) (t : String) : Bool := t.toList.isSuffixOf s

/-- Upper case changes ASCII letters only: no other character has an upper case that is a
digit or ends in one of the letters looked for. -/
def parseSize (s : List Char) : UInt64 :=
  let s := s.map Char.toUpper
  let num := s.takeWhile Char.isDigit
  let n := (parseU64 num).getD 100
  if endsWith s "G" ∨ endsWith s "GB" then saturatingMul n (1024 * 1024 * 1024)
  else if endsWith s "M" ∨ endsWith s "MB" then saturatingMul n (1024 * 1024)
  else if endsWith s "K" ∨ endsWith s "KB" then saturatingMul n 1024
  else n

/-- The file length that `cmd_create` sets. -/
def totalSize (volumeSize : UInt64) : Checked UInt64 := do
  let headers ← Checked.mul (UInt64.ofNat volumeHeaderSize) 4
  Checked.add volumeSize headers

inductive SizeUnit where
  | byte
  | kib
  | mib
  | gib
  deriving DecidableEq, Repr

namespace SizeUnit

def suffixes : SizeUnit → List String
  | byte => [""]
  | kib => ["K", "KB"]
  | mib => ["M", "MB"]
  | gib => ["G", "GB"]

def size : SizeUnit → ℕ
  | byte => 1
  | kib => 1024
  | mib => 1024 * 1024
  | gib => 1024 * 1024 * 1024

end SizeUnit

/-- A numeral of any length and the suffix of a unit, in any letter case. -/
structure SizeText where
  numeral : List Char
  suffix : List Char
  unit : SizeUnit
  numeral_ne_nil : numeral ≠ []
  isDigit_of_mem : ∀ c ∈ numeral, c.isDigit
  suffix_mem : suffix.map Char.toUpper ∈ unit.suffixes.map String.toList

namespace SizeText
variable (t : SizeText)

def chars : List Char := t.numeral ++ t.suffix

/-- The number in front of the unit. -/
def number : ℕ := value (t.numeral.map digitOf)

end SizeText

section Parsing

theorem digitOf_lt {c : Char} (h : c.isDigit) : digitOf c < 10 := by
  have hzero : '0'.toNat = 48 := rfl
  rw [Char.isDigit, Bool.and_eq_true, decide_eq_true_eq, decide_eq_true_eq, ge_iff_le,
    UInt32.le_iff_toNat_le, UInt32.le_iff_toNat_le] at h
  have hlow : '0'.val.toNat = 48 := rfl
  have hhigh : '9'.val.toNat = 57 := rfl
  have hval : c.toNat = c.val.toNat := rfl
  rw [digitOf, hzero, hval]
  omega

theorem toUpper_of_isDigit {c : Char} (h : c.isDigit) : c.toUpper = c := by
  rw [Char.isDigit, Bool.and_eq_true, decide_eq_true_eq, decide_eq_true_eq, ge_iff_le,
    UInt32.le_iff_toNat_le, UInt32.le_iff_toNat_le] at h
  have hhigh : '9'.val.toNat = 57 := rfl
  have hletter : 'a'.val.toNat = 97 := rfl
  refine dif_neg fun hlower => ?_
  have hle := UInt32.le_iff_toNat_le.mp hlower.1
  omega

/-- The loop fails exactly when the number does not fit. -/
theorem parseFrom_eq {cs : List Char} (h : ∀ c ∈ cs, c.isDigit) (n : UInt64) :
    parseFrom cs n =
      if valueFrom n.toNat (cs.map digitOf) < 2 ^ 64 then
        some (UInt64.ofNat (valueFrom n.toNat (cs.map digitOf)))
      else none := by
  induction cs generalizing n with
  | nil =>
    have hn : valueFrom n.toNat ([].map digitOf) = n.toNat := rfl
    rw [hn, if_pos n.toNat_lt, UInt64.ofNat_toNat]
    rfl
  | cons c cs ih =>
    have hdigit := digitOf_lt (h c List.mem_cons_self)
    have hvalue : valueFrom n.toNat ((c :: cs).map digitOf) =
        valueFrom (10 * n.toNat + digitOf c) (cs.map digitOf) := rfl
    have hbound := le_valueFrom (10 * n.toNat + digitOf c) (cs.map digitOf)
    have hten : (10 : UInt64).toNat = 10 := rfl
    have hd : (UInt64.ofNat (digitOf c)).toNat = digitOf c :=
      UInt64.toNat_ofNat_of_lt' (lt_of_lt_of_le hdigit (by decide))
    rw [hvalue, parseFrom, checkedMul, hten]
    by_cases hmul : n.toNat * 10 < 2 ^ 64
    · have hscaled : (n * 10).toNat = n.toNat * 10 := toNat_mul_of_lt hmul
      rw [if_pos hmul, Option.bind_eq_bind, Option.bind_some, checkedAdd, hscaled, hd]
      by_cases hadd : n.toNat * 10 + digitOf c < 2 ^ 64
      · have hsum : (n * 10 + UInt64.ofNat (digitOf c)).toNat = 10 * n.toNat + digitOf c := by
          rw [toNat_add_of_lt (by rw [hscaled, hd]; exact hadd), hscaled, hd, Nat.mul_comm]
        have hrest := ih (fun c' hc' => h c' (List.mem_cons_of_mem c hc'))
          (n * 10 + UInt64.ofNat (digitOf c))
        rw [hsum] at hrest
        rw [if_pos hadd]
        exact hrest
      · rw [if_neg hadd, if_neg (by omega)]
        rfl
    · rw [if_neg hmul, if_neg (by omega)]
      rfl

/-- A number that does not fit is read as one hundred. -/
theorem parseU64_getD {cs : List Char} (hne : cs ≠ []) (h : ∀ c ∈ cs, c.isDigit) :
    ((parseU64 cs).getD 100).toNat =
      if value (cs.map digitOf) < 2 ^ 64 then value (cs.map digitOf) else 100 := by
  have hzero : (0 : UInt64).toNat = 0 := rfl
  rw [parseU64, if_neg hne, parseFrom_eq h, hzero]
  by_cases hfits : value (cs.map digitOf) < 2 ^ 64
  · rw [if_pos hfits]
    refine (congrArg UInt64.toNat (congrArg (Option.getD · 100) (if_pos hfits))).trans ?_
    exact UInt64.toNat_ofNat_of_lt' hfits
  · rw [if_neg hfits]
    exact congrArg UInt64.toNat (congrArg (Option.getD · 100) (if_neg hfits))

theorem toNat_saturatingMul (a b : UInt64) :
    (saturatingMul a b).toNat = min (a.toNat * b.toNat) (2 ^ 64 - 1) := by
  have hmax : (0xFFFFFFFFFFFFFFFF : UInt64).toNat = 2 ^ 64 - 1 := rfl
  rw [saturatingMul]
  split_ifs with hfits
  · rw [toNat_mul_of_lt hfits]
    omega
  · rw [hmax]
    omega

private theorem takeWhile_chars {numeral suffix : List Char} (h : ∀ c ∈ numeral, c.isDigit)
    (hsuffix : suffix.takeWhile Char.isDigit = []) :
    (numeral ++ suffix).takeWhile Char.isDigit = numeral := by
  rw [List.takeWhile_append_of_pos h, hsuffix, List.append_nil]

/-- The factor that the tests of the suffix select. -/
def factor (s : List Char) : ℕ :=
  if endsWith s "G" ∨ endsWith s "GB" then 1024 * 1024 * 1024
  else if endsWith s "M" ∨ endsWith s "MB" then 1024 * 1024
  else if endsWith s "K" ∨ endsWith s "KB" then 1024
  else 1

theorem toNat_parseSize (s : List Char) : (parseSize s).toNat =
    min (((parseU64 ((s.map Char.toUpper).takeWhile Char.isDigit)).getD 100).toNat *
      factor (s.map Char.toUpper)) (2 ^ 64 - 1) := by
  have hlt := ((parseU64 ((s.map Char.toUpper).takeWhile Char.isDigit)).getD 100).toNat_lt
  simp only [parseSize, factor]
  split_ifs
  · exact toNat_saturatingMul _ _
  · exact toNat_saturatingMul _ _
  · exact toNat_saturatingMul _ _
  · omega

/-- The factor of a text is the size of its unit. -/
theorem factor_append {numeral suffix : List Char} {unit : SizeUnit} (hne : numeral ≠ [])
    (h : ∀ c ∈ numeral, c.isDigit) (hsuffix : suffix ∈ unit.suffixes.map String.toList) :
    suffix.takeWhile Char.isDigit = [] ∧ factor (numeral ++ suffix) = unit.size := by
  cases unit with
  | byte =>
    obtain rfl : suffix = [] := by simpa [SizeUnit.suffixes] using hsuffix
    obtain ⟨digits, c, hlast⟩ := (List.eq_nil_or_concat' numeral).resolve_left hne
    -- The last digit is none of the letters that are looked for.
    have hdigit : c.isDigit := h c (by rw [hlast]; simp)
    have hletter (l : Char) (hl : ¬ l.isDigit) : l ≠ c := by
      rintro rfl
      exact hl hdigit
    have hG := hletter 'G' (by decide)
    have hM := hletter 'M' (by decide)
    have hK := hletter 'K' (by decide)
    have hB := hletter 'B' (by decide)
    refine ⟨rfl, ?_⟩
    rw [List.append_nil, hlast]
    simp [factor, endsWith, List.isSuffixOf, List.isPrefixOf, SizeUnit.size, hG, hM, hK, hB]
  | kib =>
    obtain rfl | rfl : suffix = ['K'] ∨ suffix = ['K', 'B'] := by
      simpa [SizeUnit.suffixes] using hsuffix
    · exact ⟨by decide, by simp [factor, endsWith, List.isSuffixOf, List.isPrefixOf, SizeUnit.size]⟩
    · exact ⟨by decide, by simp [factor, endsWith, List.isSuffixOf, List.isPrefixOf, SizeUnit.size]⟩
  | mib =>
    obtain rfl | rfl : suffix = ['M'] ∨ suffix = ['M', 'B'] := by
      simpa [SizeUnit.suffixes] using hsuffix
    · exact ⟨by decide, by simp [factor, endsWith, List.isSuffixOf, List.isPrefixOf, SizeUnit.size]⟩
    · exact ⟨by decide, by simp [factor, endsWith, List.isSuffixOf, List.isPrefixOf, SizeUnit.size]⟩
  | gib =>
    obtain rfl | rfl : suffix = ['G'] ∨ suffix = ['G', 'B'] := by
      simpa [SizeUnit.suffixes] using hsuffix
    · exact ⟨by decide, by simp [factor, endsWith, List.isSuffixOf, List.isPrefixOf, SizeUnit.size]⟩
    · exact ⟨by decide, by simp [factor, endsWith, List.isSuffixOf, List.isPrefixOf, SizeUnit.size]⟩

end Parsing

section Sizes
variable (t : SizeText)

/-- A number that fits is honoured; another one counts as one hundred. -/
theorem toNat_parseSize_chars : (parseSize t.chars).toNat =
    min ((if t.number < 2 ^ 64 then t.number else 100) * t.unit.size) (2 ^ 64 - 1) := by
  have hupper : t.chars.map Char.toUpper = t.numeral ++ t.suffix.map Char.toUpper := by
    rw [SizeText.chars, List.map_append]
    congr 1
    exact (List.map_congr_left fun c hc => toUpper_of_isDigit (t.isDigit_of_mem c hc)).trans
      (List.map_id _)
  obtain ⟨hsuffix, hfactor⟩ :=
    factor_append t.numeral_ne_nil t.isDigit_of_mem t.suffix_mem
  rw [toNat_parseSize, hupper, hfactor, takeWhile_chars t.isDigit_of_mem hsuffix,
    parseU64_getD t.numeral_ne_nil t.isDigit_of_mem]
  rfl

theorem totalSize_overflow (volumeSize : UInt64) :
    (totalSize volumeSize).overflow = false ↔ volumeSize.toNat + 4 * 65536 < 2 ^ 64 := by
  have hheader : (UInt64.ofNat volumeHeaderSize).toNat = 65536 := rfl
  have hfour : (4 : UInt64).toNat = 4 := rfl
  have hheaders : (UInt64.ofNat volumeHeaderSize * 4).toNat = 4 * 65536 := rfl
  rw [totalSize, Checked.bind_overflow, Bool.or_eq_false_iff, Checked.mul_overflow,
    Checked.add_overflow, Checked.mul_val, hheader, hfour, hheaders]
  exact and_iff_right (by norm_num)

/-- The size is the one that was asked for, as far as a `u64` holds it, and the file
length that follows from it does not wrap. -/
structure SizeHonoured : Prop where
  size : (parseSize t.chars).toNat = min (t.number * t.unit.size) (2 ^ 64 - 1)
  length : (totalSize (parseSize t.chars)).overflow = false

private theorem size_le (unit : SizeUnit) : 1 ≤ unit.size ∧ unit.size ≤ 2 ^ 30 := by
  cases unit <;> decide

/-- Exactly the sizes are honoured that leave room for the header slots. -/
theorem sizeHonoured_iff : SizeHonoured t ↔ t.number * t.unit.size + 4 * 65536 < 2 ^ 64 := by
  obtain ⟨hone, hgib⟩ := size_le t.unit
  have hparsed := toNat_parseSize_chars t
  have hle : t.number ≤ t.number * t.unit.size := Nat.le_mul_of_pos_right _ hone
  constructor
  · rintro ⟨hsize, hlength⟩
    rw [totalSize_overflow, hsize] at hlength
    omega
  · intro hroom
    have hfits : t.number < 2 ^ 64 := by omega
    rw [if_pos hfits] at hparsed
    refine ⟨hparsed, ?_⟩
    rw [totalSize_overflow, hparsed]
    omega

end Sizes

/-- The smallest number that no `u64` holds. -/
def tooManyBytes : SizeText where
  numeral := "18446744073709551616".toList
  suffix := []
  unit := .byte
  numeral_ne_nil := by decide
  isDigit_of_mem := List.all_eq_true.mp (by decide)
  suffix_mem := by decide

/-- One hundred bytes for 2^64. -/
theorem tooManyBytes_not_honoured :
    (parseSize tooManyBytes.chars).toNat = 100 ∧ ¬ SizeHonoured tooManyBytes := by
  have hnumber : tooManyBytes.number = 2 ^ 64 := by decide
  have hsize : tooManyBytes.unit.size = 1 := rfl
  have hparsed := toNat_parseSize_chars tooManyBytes
  rw [hnumber, hsize, if_neg (lt_irrefl _)] at hparsed
  refine ⟨hparsed, fun honoured => ?_⟩
  have hhonoured := honoured.size
  rw [hparsed, hnumber, hsize] at hhonoured
  omega

end Oxhide.RequestedSizes
