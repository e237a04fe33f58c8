import Mathlib.Data.Fintype.Card
import Mathlib.Data.List.Sort

/-! # Emptying a table by repeated search for the maximum

One search scans the positions for the largest key above a sentinel; the position found is
removed and the search starts again. Keys need only a decidable comparison that agrees with
the order of some rank, as that of machine words does. -/
namespace Oxhide.MaxSelection

variable {ι κ ρ : Type}

section Eligible
variable [Fintype ι] [LinearOrder ρ] {rank : κ → ρ} {key : ι → κ} {sentinel : κ}

/-- The live positions above the sentinel. -/
def eligible (rank : κ → ρ) (key : ι → κ) (sentinel : κ) (live : ι → Bool) : Finset ι :=
  Finset.univ.filter fun i => live i ∧ rank sentinel < rank (key i)

theorem mem_eligible {live : ι → Bool} {i : ι} :
    i ∈ eligible rank key sentinel live ↔ live i ∧ rank sentinel < rank (key i) := by
  simp [eligible]

theorem eligible_update [DecidableEq ι] (live : ι → Bool) (i : ι) :
    eligible rank key sentinel (Function.update live i false) =
      (eligible rank key sentinel live).erase i := by
  ext j
  rw [Finset.mem_erase, mem_eligible, mem_eligible]
  by_cases hj : j = i
  · subst hj
    simp
  · simp [hj]

end Eligible

section Search
variable [LT κ] [DecidableLT κ]

/-- One comparison of the scan, on the largest key so far and its position. -/
def compareAt (live : ι → Bool) (key : ι → κ) (best : κ × Option ι) (i : ι) : κ × Option ι :=
  if live i ∧ best.1 < key i then (key i, some i) else best

def search (live : ι → Bool) (key : ι → κ) (sentinel : κ) (is : List ι) : Option ι :=
  (is.foldl (compareAt live key) (sentinel, none)).2

variable [LinearOrder ρ] {rank : κ → ρ} {live : ι → Bool} {key : ι → κ}

/-- What a scan from `best` on has found. -/
private theorem foldl_compareAt (live : ι → Bool) (key : ι → κ)
    (hrank : ∀ a b : κ, a < b ↔ rank a < rank b) (is : List ι) (best : κ × Option ι) :
    let found := is.foldl (compareAt live key) best
    (∀ j ∈ is, live j → rank (key j) ≤ rank found.1) ∧ rank best.1 ≤ rank found.1 ∧
      (found = best ∨
        ∃ i ∈ is, live i ∧ found = (key i, some i) ∧ rank best.1 < rank (key i)) := by
  induction is generalizing best with
  | nil => exact ⟨fun j hj => absurd hj List.not_mem_nil, le_rfl, .inl rfl⟩
  | cons i is ih =>
    obtain ⟨hmax, hle, hfound⟩ := ih (compareAt live key best i)
    rw [List.foldl_cons]
    by_cases hnew : live i ∧ best.1 < key i
    · have hstep : compareAt live key best i = (key i, some i) := if_pos hnew
      have hlt := (hrank _ _).mp hnew.2
      rw [hstep] at hmax hle hfound ⊢
      refine ⟨?_, hlt.le.trans hle, ?_⟩
      · intro j hj hlive
        rcases List.mem_cons.mp hj with rfl | hj
        · exact hle
        · exact hmax j hj hlive
      · rcases hfound with hsame | ⟨j, hj, hlive, hfound, hlarger⟩
        · exact .inr ⟨i, List.mem_cons_self, hnew.1, hsame, hlt⟩
        · exact .inr ⟨j, List.mem_cons_of_mem i hj, hlive, hfound, hlt.trans hlarger⟩
    · have hstep : compareAt live key best i = best := if_neg hnew
      rw [hstep] at hmax hle hfound ⊢
      refine ⟨?_, hle, ?_⟩
      · intro j hj hlive
        rcases List.mem_cons.mp hj with rfl | hj
        · have hnot : ¬ rank best.1 < rank (key j) := fun hlt => hnew ⟨hlive, (hrank _ _).mpr hlt⟩
          exact (not_lt.mp hnot).trans hle
        · exact hmax j hj hlive
      · rcases hfound with hsame | ⟨j, hj, hrest⟩
        · exact .inl hsame
        · exact .inr ⟨j, List.mem_cons_of_mem i hj, hrest⟩

/-- The position found is live, above the sentinel and the largest of the live ones. -/
theorem search_eq_some (hrank : ∀ a b : κ, a < b ↔ rank a < rank b) {sentinel : κ}
    {is : List ι} {i : ι} (h : search live key sentinel is = some i) :
    live i ∧ rank sentinel < rank (key i) ∧ ∀ j ∈ is, live j → rank (key j) ≤ rank (key i) := by
  obtain ⟨hmax, -, hfound⟩ := foldl_compareAt live key hrank is (sentinel, none)
  rcases hfound with hsame | ⟨j, -, hlive, hfound, hlarger⟩
  · rw [search, hsame] at h
    cases h
  · rw [search, hfound] at h
    obtain rfl := Option.some.inj h
    rw [hfound] at hmax
    exact ⟨hlive, hlarger, hmax⟩

/-- Nothing is found only if no live position is above the sentinel. -/
theorem search_eq_none (hrank : ∀ a b : κ, a < b ↔ rank a < rank b) {sentinel : κ}
    {is : List ι} (h : search live key sentinel is = none) :
    ∀ j ∈ is, live j → rank (key j) ≤ rank sentinel := by
  obtain ⟨hmax, -, hfound⟩ := foldl_compareAt live key hrank is (sentinel, none)
  rcases hfound with hsame | ⟨j, -, -, hfound, -⟩
  · rw [hsame] at hmax
    exact hmax
  · rw [search, hfound] at h
    cases h

end Search

section Drain
variable [LT κ] [DecidableLT κ] [DecidableEq ι]

/-- `n` searches, each followed by the removal of what it found. -/
def drain (key : ι → κ) (sentinel : κ) (is : List ι) : ℕ → (ι → Bool) → List ι
  | 0, _ => []
  | n + 1, live =>
    match search live key sentinel is with
    | none => drain key sentinel is n live
    | some i => i :: drain key sentinel is n (Function.update live i false)

variable [Fintype ι] [LinearOrder ρ] {rank : κ → ρ} {key : ι → κ} {sentinel : κ} {is : List ι}

/-- With enough searches every eligible position is removed once, the largest key first. -/
theorem drain_spec (hrank : ∀ a b : κ, a < b ↔ rank a < rank b) (his : ∀ i, i ∈ is) (n : ℕ)
    (live : ι → Bool) (hn : (eligible rank key sentinel live).card ≤ n) :
    (drain key sentinel is n live).Nodup ∧
      (∀ i, i ∈ drain key sentinel is n live ↔ i ∈ eligible rank key sentinel live) ∧
      (drain key sentinel is n live).Pairwise fun i j => rank (key j) ≤ rank (key i) := by
  induction n generalizing live with
  | zero =>
    have hempty := Finset.card_eq_zero.mp (Nat.le_zero.mp hn)
    exact ⟨.nil, fun i => by simp [drain, hempty], .nil⟩
  | succ n ih =>
    rw [drain]
    cases hsearch : search live key sentinel is with
    | none =>
      have hnone := search_eq_none hrank hsearch
      have hempty : eligible rank key sentinel live = ∅ := by
        apply Finset.eq_empty_of_forall_notMem
        intro i hi
        obtain ⟨hlive, habove⟩ := mem_eligible.mp hi
        exact absurd (hnone i (his i) hlive) (not_le.mpr habove)
      exact ih live (by rw [hempty, Finset.card_empty]; exact Nat.zero_le n)
    | some i =>
      obtain ⟨hlive, habove, hmax⟩ := search_eq_some hrank hsearch
      have hi : i ∈ eligible rank key sentinel live := mem_eligible.mpr ⟨hlive, habove⟩
      have hcard : (eligible rank key sentinel (Function.update live i false)).card ≤ n := by
        rw [eligible_update, Finset.card_erase_of_mem hi]
        omega
      obtain ⟨hnodup, hmem, hsorted⟩ := ih _ hcard
      simp only [eligible_update, Finset.mem_erase] at hmem
      refine ⟨List.nodup_cons.mpr ⟨?_, hnodup⟩, ?_, List.pairwise_cons.mpr ⟨?_, hsorted⟩⟩
      · intro hagain
        exact ((hmem i).mp hagain).1 rfl
      · intro j
        rw [List.mem_cons, hmem]
        by_cases hj : j = i
        · subst hj
          exact iff_of_true (.inl rfl) hi
        · simp [hj]
      · intro j hj
        exact hmax j (his j) (mem_eligible.mp ((hmem j).mp hj).2).1

end Drain

end Oxhide.MaxSelection
