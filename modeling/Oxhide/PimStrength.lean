import Oxhide.CheckedWords
import Oxhide.KeyDerivation

/-! # The strength a personal iterations multiplier selects

The multiplier is an `i32` that comes from the command line unchecked. The iteration
count and the Argon2id parameters are computed from it in 32-bit words; beside the
values stands here whether an operation on the way left its word. -/
namespace Oxhide.PimStrength
open CheckedWords KeyDerivation

/-- `get_iteration_count` with the check of every operation. -/
def getIterationCount (pim : Int32) : Checked UInt32 :=
  if pim > 0 then do
    let scaled ← Checked.mul32 pim.toUInt32 1000
    Checked.add32 15000 scaled
  else
    pure 500000

theorem getIterationCount_val (pim : Int32) :
    (getIterationCount pim).val = defaultIterationCount pim := by
  rw [getIterationCount, defaultIterationCount]
  split <;> rfl

def saturatingAdd32 (a b : UInt32) : UInt32 := if a + b < b then 0xFFFFFFFF else a + b

def timeCost (effectivePim : UInt32) : Checked UInt32 :=
  if effectivePim ≤ 31 then do
    let steps ← Checked.sub32 effectivePim 1
    Checked.add32 3 (steps / 3)
  else do
    let above ← Checked.sub32 effectivePim 31
    Checked.add32 13 above

theorem timeCost_val (effectivePim : UInt32) : (timeCost effectivePim).val =
    if effectivePim ≤ 31 then 3 + (effectivePim - 1) / 3 else 13 + (effectivePim - 31) := by
  rw [timeCost]
  split <;> rfl

def memoryCostMib (effectivePim : UInt32) : Checked UInt32 := do
  let steps ← Checked.sub32 effectivePim 1
  let grown ← Checked.mul32 steps 32
  return min (saturatingAdd32 64 grown) 1024

def effectivePim (pim : Int32) : Int32 := if max pim 0 = 0 then 12 else max pim 0

/-- `params_for_pim` with the check of every operation: memory in KiB and time. -/
def paramsForPim (pim : Int32) : Checked (UInt32 × UInt32) := do
  let memoryCostMib ← memoryCostMib (effectivePim pim).toUInt32
  let timeCost ← timeCost (effectivePim pim).toUInt32
  let memoryCost ← Checked.mul32 memoryCostMib 1024
  return (memoryCost, timeCost)

theorem paramsForPim_val (pim : Int32) : (paramsForPim pim).val = argon2ParamsForPim pim := by
  simp only [paramsForPim, argon2ParamsForPim, effectivePim, memoryCostMib, timeCost_val,
    saturatingAdd32, Checked.bind_val, Checked.pure_val, Checked.mul32_val, Checked.sub32_val]
  rfl

/-! The formulas on unbounded numbers. -/

def iterationsFor (p : ℕ) : ℕ := 15000 + 1000 * p

def memoryKibFor (p : ℕ) : ℕ := min (64 + 32 * (p - 1)) 1024 * 1024

def timeFor (p : ℕ) : ℕ := if p ≤ 31 then 3 + (p - 1) / 3 else 13 + (p - 31)

theorem iterationsFor_mono : Monotone iterationsFor := by
  intro p q h
  simp only [iterationsFor]
  omega

theorem memoryKibFor_mono : Monotone memoryKibFor := by
  intro p q h
  simp only [memoryKibFor]
  omega

theorem timeFor_mono : Monotone timeFor := by
  intro p q h
  simp only [timeFor]
  split_ifs <;> omega

section Words
variable {pim : Int32}

private theorem pos_iff (pim : Int32) : 0 < pim ↔ 0 < pim.toNatClampNeg := by
  rw [Int32.lt_iff_toInt_lt, Int32.toInt_zero, Int32.toNatClampNeg, Int.lt_toNat]
  rfl

private theorem toNat_of_pos (h : 0 < pim) :
    pim.toUInt32.toNat = pim.toNatClampNeg ∧ 0 < pim.toNatClampNeg ∧
      pim.toNatClampNeg < 2 ^ 31 := by
  obtain ⟨hval, hlt⟩ := toNat_toUInt32_of_nonneg (Int32.le_of_lt h)
  exact ⟨hval, (pos_iff pim).mp h, hlt⟩

private theorem effectivePim_of_pos (h : 0 < pim) : effectivePim pim = pim := by
  have hmax : max pim 0 = pim := if_neg (Int32.not_le.mpr h)
  have hne : pim ≠ 0 := (Int32.ne_of_lt h).symm
  rw [effectivePim, hmax, if_neg hne]

private theorem effectivePim_of_nonpos (h : pim ≤ 0) : effectivePim pim = 12 := by
  have hmax : max pim 0 = 0 := if_pos h
  rw [effectivePim, hmax, if_pos rfl]

/-- The iteration count of a positive multiplier is exact as long as it fits. -/
theorem getIterationCount_overflow (h : 0 < pim) :
    (getIterationCount pim).overflow = false ↔ iterationsFor pim.toNatClampNeg < 2 ^ 32 := by
  obtain ⟨hval, -, hlt⟩ := toNat_of_pos h
  have hthousand : (1000 : UInt32).toNat = 1000 := rfl
  have hbase : (15000 : UInt32).toNat = 15000 := rfl
  rw [getIterationCount, if_pos h, Checked.bind_overflow, Bool.or_eq_false_iff,
    Checked.mul32_overflow, Checked.add32_overflow, Checked.mul32_val, UInt32.toNat_mul, hval,
    hthousand, hbase, iterationsFor]
  have hmod (hfits : pim.toNatClampNeg * 1000 < 2 ^ 32) :
      pim.toNatClampNeg * 1000 % 2 ^ 32 = pim.toNatClampNeg * 1000 := Nat.mod_eq_of_lt hfits
  constructor
  · rintro ⟨hmul, hadd⟩
    rw [hmod hmul] at hadd
    omega
  · intro hfits
    have hmul : pim.toNatClampNeg * 1000 < 2 ^ 32 := by omega
    exact ⟨hmul, by rw [hmod hmul]; omega⟩

theorem toNat_defaultIterationCount (h : 0 < pim) :
    (defaultIterationCount pim).toNat = iterationsFor pim.toNatClampNeg % 2 ^ 32 := by
  obtain ⟨hval, -, -⟩ := toNat_of_pos h
  have hthousand : (1000 : UInt32).toNat = 1000 := rfl
  have hbase : (15000 : UInt32).toNat = 15000 := rfl
  rw [defaultIterationCount, if_pos h, UInt32.toNat_add, UInt32.toNat_mul, hval, hthousand, hbase,
    iterationsFor]
  omega

theorem toNat_saturatingAdd32 (a b : UInt32) :
    (saturatingAdd32 a b).toNat = min (a.toNat + b.toNat) (2 ^ 32 - 1) := by
  have ha := a.toNat_lt
  have hb := b.toNat_lt
  have hmax : (0xFFFFFFFF : UInt32).toNat = 2 ^ 32 - 1 := rfl
  rw [saturatingAdd32]
  by_cases hwrap : a + b < b
  · rw [if_pos hwrap, hmax]
    rw [UInt32.lt_iff_toNat_lt, UInt32.toNat_add] at hwrap
    omega
  · rw [if_neg hwrap, UInt32.toNat_add]
    rw [UInt32.lt_iff_toNat_lt, UInt32.toNat_add] at hwrap
    omega

section Argon2
variable {e : UInt32}

private theorem toNat_sub32 {a b : UInt32} (h : b.toNat ≤ a.toNat) :
    (a - b).toNat = a.toNat - b.toNat :=
  UInt32.toNat_sub_of_le a b (UInt32.le_iff_toNat_le.mpr h)

/-- The time cost never leaves its word. -/
theorem timeCost_spec (hpos : 0 < e.toNat) (hlt : e.toNat < 2 ^ 31) :
    (timeCost e).overflow = false ∧ (timeCost e).val.toNat = timeFor e.toNat := by
  have hone : (1 : UInt32).toNat = 1 := rfl
  have hthree : (3 : UInt32).toNat = 3 := rfl
  have hbase : (13 : UInt32).toNat = 13 := rfl
  have hknee : (31 : UInt32).toNat = 31 := rfl
  have hle : e ≤ 31 ↔ e.toNat ≤ 31 := by rw [UInt32.le_iff_toNat_le, hknee]
  rw [timeCost_val, timeCost, timeFor]
  by_cases hsmall : e.toNat ≤ 31
  · have hsub : (e - 1).toNat = e.toNat - 1 := toNat_sub32 hpos
    rw [if_pos (hle.mpr hsmall), if_pos (hle.mpr hsmall), if_pos hsmall, Checked.bind_overflow,
      Bool.or_eq_false_iff, Checked.sub32_overflow, Checked.add32_overflow, Checked.sub32_val,
      UInt32.toNat_add, UInt32.toNat_div, hsub, hone, hthree]
    omega
  · have hsub : (e - 31).toNat = e.toNat - 31 := toNat_sub32 (by omega)
    rw [if_neg (mt hle.mp hsmall), if_neg (mt hle.mp hsmall), if_neg hsmall,
      Checked.bind_overflow, Bool.or_eq_false_iff, Checked.sub32_overflow,
      Checked.add32_overflow, Checked.sub32_val, UInt32.toNat_add, hsub, hknee, hbase]
    omega

/-- The memory cost is exact as long as the unchecked product fits; the saturating sum
behind it always does. -/
theorem memoryCostMib_spec (hpos : 0 < e.toNat) :
    ((memoryCostMib e).overflow = false ↔ e.toNat ≤ 2 ^ 27) ∧
      (memoryCostMib e).val.toNat = min (64 + (e.toNat - 1) * 32 % 2 ^ 32) 1024 := by
  have hone : (1 : UInt32).toNat = 1 := rfl
  have hstep : (32 : UInt32).toNat = 32 := rfl
  have hbase : (64 : UInt32).toNat = 64 := rfl
  have hcap : (1024 : UInt32).toNat = 1024 := rfl
  have hsub : (e - 1).toNat = e.toNat - 1 := toNat_sub32 hpos
  constructor
  · rw [memoryCostMib, Checked.bind_overflow, Bool.or_eq_false_iff, Checked.sub32_overflow,
      Checked.bind_overflow, Bool.or_eq_false_iff, Checked.mul32_overflow, Checked.sub32_val,
      Checked.pure_overflow, hsub, hone, hstep, eq_self_iff_true, and_true]
    omega
  · have hgrown : ((e - 1) * 32).toNat = (e.toNat - 1) * 32 % 2 ^ 32 := by
      rw [UInt32.toNat_mul, hsub, hstep]
    have hsum := toNat_saturatingAdd32 64 ((e - 1) * 32)
    rw [hgrown, hbase] at hsum
    change (if _ ≤ (1024 : UInt32) then _ else (1024 : UInt32)).toNat = _
    split_ifs with hle
    · rw [UInt32.le_iff_toNat_le, hcap] at hle
      change (saturatingAdd32 64 ((e - 1) * 32)).toNat = _
      change (saturatingAdd32 64 ((e - 1) * 32)).toNat ≤ _ at hle
      omega
    · rw [UInt32.le_iff_toNat_le, hcap] at hle
      change ¬ (saturatingAdd32 64 ((e - 1) * 32)).toNat ≤ _ at hle
      omega

end Argon2

/-- The parameters of a positive multiplier, where nothing wraps. -/
theorem paramsForPim_spec (h : 0 < pim) :
    ((paramsForPim pim).overflow = false ↔ pim.toNatClampNeg ≤ 2 ^ 27) ∧
      (argon2ParamsForPim pim).2.toNat = timeFor pim.toNatClampNeg ∧
      (pim.toNatClampNeg ≤ 2 ^ 27 →
        (argon2ParamsForPim pim).1.toNat = memoryKibFor pim.toNatClampNeg) := by
  obtain ⟨hval, hpos, hlt⟩ := toNat_of_pos h
  obtain ⟨htime, htimeVal⟩ := timeCost_spec (hval ▸ hpos) (hval ▸ hlt)
  obtain ⟨hmemory, hmemoryVal⟩ := memoryCostMib_spec (hval ▸ hpos)
  have hkib : (1024 : UInt32).toNat = 1024 := rfl
  rw [hval] at htimeVal hmemory hmemoryVal
  rw [← paramsForPim_val]
  simp only [paramsForPim, effectivePim_of_pos h, Checked.bind_overflow, Checked.bind_val,
    Checked.pure_overflow, Checked.pure_val, Checked.mul32_val, Bool.or_eq_false_iff, htime,
    Checked.mul32_overflow, hmemory, hmemoryVal, htimeVal, hkib, UInt32.toNat_mul, memoryKibFor,
    true_and, and_true]
  omega

end Words

section Strength

/-- The iteration count of a multiplier is the documented one, computed in range. -/
def IterationsExact (pim : Int32) : Prop :=
  (getIterationCount pim).overflow = false ∧
    (defaultIterationCount pim).toNat = iterationsFor pim.toNatClampNeg

def ParamsExact (pim : Int32) : Prop :=
  (paramsForPim pim).overflow = false ∧
    (argon2ParamsForPim pim).1.toNat = memoryKibFor pim.toNatClampNeg ∧
    (argon2ParamsForPim pim).2.toNat = timeFor pim.toNatClampNeg

/-- Both counts are exact and the larger multiplier is at least as strong. -/
structure IterationsStrong (p q : Int32) : Prop where
  smaller : IterationsExact p
  larger : IterationsExact q
  monotone : defaultIterationCount p ≤ defaultIterationCount q

structure ParamsStrong (p q : Int32) : Prop where
  smaller : ParamsExact p
  larger : ParamsExact q
  memoryMonotone : (argon2ParamsForPim p).1 ≤ (argon2ParamsForPim q).1
  timeMonotone : (argon2ParamsForPim p).2 ≤ (argon2ParamsForPim q).2

/-- No multiplier given: 500000 iterations, and the Argon2id parameters of PIM 12. -/
def UsesDefault (pim : Int32) : Prop :=
  (getIterationCount pim).overflow = false ∧ defaultIterationCount pim = 500000 ∧
    (paramsForPim pim).overflow = false ∧ argon2ParamsForPim pim = (416 * 1024, 6) ∧
    argon2ParamsForPim pim = argon2ParamsForPim 12

/-- The strength of two multipliers, and the default for all that are not positive. -/
def PimStrong (p q : Int32) : Prop :=
  (0 < p → p ≤ q → IterationsStrong p q ∧ ParamsStrong p q) ∧ ∀ r ≤ 0, UsesDefault r

variable {p q : Int32}

theorem iterationsExact_iff (h : 0 < p) :
    IterationsExact p ↔ iterationsFor p.toNatClampNeg < 2 ^ 32 := by
  rw [IterationsExact, getIterationCount_overflow h, toNat_defaultIterationCount h]
  constructor
  · exact And.left
  · intro hfits
    exact ⟨hfits, Nat.mod_eq_of_lt hfits⟩

theorem paramsExact_iff (h : 0 < p) : ParamsExact p ↔ p.toNatClampNeg ≤ 2 ^ 27 := by
  obtain ⟨hoverflow, htime, hmemory⟩ := paramsForPim_spec h
  rw [ParamsExact, hoverflow]
  constructor
  · exact And.left
  · intro hfits
    exact ⟨hfits, hmemory hfits, htime⟩

private theorem toNatClampNeg_mono (h : p ≤ q) : p.toNatClampNeg ≤ q.toNatClampNeg :=
  Int.toNat_le_toNat (Int32.le_iff_toInt_le.mp h)

theorem iterationsStrong_iff (hp : 0 < p) (h : p ≤ q) :
    IterationsStrong p q ↔ iterationsFor q.toNatClampNeg < 2 ^ 32 := by
  have hq := Int32.lt_of_lt_of_le hp h
  have hmono := iterationsFor_mono (toNatClampNeg_mono h)
  constructor
  · intro hstrong
    exact (iterationsExact_iff hq).mp hstrong.larger
  · intro hfits
    have hsmaller := (iterationsExact_iff hp).mpr (by omega)
    have hlarger := (iterationsExact_iff hq).mpr hfits
    refine ⟨hsmaller, hlarger, ?_⟩
    rw [UInt32.le_iff_toNat_le, hsmaller.2, hlarger.2]
    exact hmono

theorem paramsStrong_iff (hp : 0 < p) (h : p ≤ q) :
    ParamsStrong p q ↔ q.toNatClampNeg ≤ 2 ^ 27 := by
  have hq := Int32.lt_of_lt_of_le hp h
  have hle := toNatClampNeg_mono h
  constructor
  · intro hstrong
    exact (paramsExact_iff hq).mp hstrong.larger
  · intro hfits
    have hsmaller := (paramsExact_iff hp).mpr (hle.trans hfits)
    have hlarger := (paramsExact_iff hq).mpr hfits
    refine ⟨hsmaller, hlarger, ?_, ?_⟩
    · rw [UInt32.le_iff_toNat_le, hsmaller.2.1, hlarger.2.1]
      exact memoryKibFor_mono hle
    · rw [UInt32.le_iff_toNat_le, hsmaller.2.2, hlarger.2.2]
      exact timeFor_mono hle

theorem usesDefault_of_nonpos (h : p ≤ 0) : UsesDefault p := by
  have hpos : ¬ p > 0 := Int32.not_lt.mpr h
  have htwelve : effectivePim 12 = 12 := rfl
  have hparams : paramsForPim p = paramsForPim 12 := by
    rw [paramsForPim, paramsForPim, effectivePim_of_nonpos h, htwelve]
  have hsame : argon2ParamsForPim p = argon2ParamsForPim 12 := by
    rw [← paramsForPim_val, ← paramsForPim_val, hparams]
  refine ⟨?_, ?_, ?_, ?_, hsame⟩
  · rw [getIterationCount, if_neg hpos]
    rfl
  · rw [defaultIterationCount, if_neg hpos]
  · rw [hparams]
    decide
  · rw [hsame]
    decide

/-- The strength is as documented exactly for multipliers whose iteration count fits: the
product and the sum of `get_iteration_count` are not checked. -/
theorem pimStrong_iff (p q : Int32) :
    PimStrong p q ↔ (0 < p → p ≤ q → q ≤ 4294952) := by
  have hbound (hp : 0 < p) (h : p ≤ q) :
      q ≤ 4294952 ↔ iterationsFor q.toNatClampNeg < 2 ^ 32 := by
    have hq := Int32.lt_of_lt_of_le hp h
    have hlimit : (4294952 : Int32).toInt = 4294952 := rfl
    rw [Int32.lt_iff_toInt_lt, Int32.toInt_zero] at hq
    rw [Int32.le_iff_toInt_le, hlimit, iterationsFor, Int32.toNatClampNeg]
    omega
  constructor
  · rintro ⟨hstrong, -⟩ hp h
    exact (hbound hp h).mpr ((iterationsStrong_iff hp h).mp (hstrong hp h).1)
  · intro hfits
    refine ⟨fun hp h => ?_, fun r hr => usesDefault_of_nonpos hr⟩
    have hiterations := (hbound hp h).mp (hfits hp h)
    refine ⟨(iterationsStrong_iff hp h).mpr hiterations, (paramsStrong_iff hp h).mpr ?_⟩
    rw [iterationsFor] at hiterations
    omega

/-- 704 iterations for a multiplier of more than four millions. -/
theorem wrappedCount_not_pimStrong :
    defaultIterationCount 4294953 = 704 ∧ ¬ PimStrong 4294953 4294953 := by
  have hcount : defaultIterationCount 4294953 = 704 := by decide
  refine ⟨hcount, fun hstrong => ?_⟩
  have hexact := (hstrong.1 (by decide) (by decide)).1.larger.2
  rw [hcount] at hexact
  exact absurd hexact (by decide)

end Strength

/-- A candidate is tried with these parameters. -/
theorem makeKdfCandidate_strength (K : KdfLibrary) (kdf : KdfAlgorithm) (pim : Int32) :
    let candidate := makeKdfCandidate K kdf pim
    if kdf = .argon2id then
      candidate.memoryCostKib = some (argon2ParamsForPim pim).1 ∧
        candidate.iterations = (argon2ParamsForPim pim).2
    else
      candidate.memoryCostKib = none ∧ candidate.iterations = defaultIterationCount pim := by
  cases kdf <;> exact ⟨rfl, rfl⟩

end Oxhide.PimStrength
