import Mathlib.Logic.Basic

/-! # Runs of a state machine

A machine is a partial function from a state and an action to the next state, and a run is
a list of actions. `invariant_run` carries an invariant along a run; `bad_run_iff` says
when a run reaches a bad state, for machines whose steps make a state bad exactly where a
condition on the state and the action fails. -/
namespace Oxhide.Runs

variable {σ α : Type} (step : σ → α → Option σ)

/-- The state behind a run, if every action has a step. -/
def run : σ → List α → Option σ
  | s, [] => some s
  | s, a :: as => (step s a).bind fun s' => run s' as

/-- Every step of the run meets a condition on the action and the state before it. -/
def Along (meets : σ → α → Prop) : σ → List α → Prop
  | _, [] => True
  | s, a :: as => meets s a ∧ ∀ s' ∈ step s a, Along meets s' as

instance Along.decidable (meets : σ → α → Prop) [∀ s a, Decidable (meets s a)] :
    ∀ s as, Decidable (Along step meets s as)
  | _, [] => inferInstanceAs (Decidable True)
  | s, a :: as =>
    have := fun s' => Along.decidable meets s' as
    inferInstanceAs (Decidable (meets s a ∧ ∀ s' ∈ step s a, Along step meets s' as))

variable {step}

theorem run_cons_eq_some {s t : σ} {a : α} {as : List α} :
    run step s (a :: as) = some t ↔ ∃ s', step s a = some s' ∧ run step s' as = some t :=
  Option.bind_eq_some_iff

/-- What holds at the start and is kept by every step holds in every state reached. -/
theorem invariant_run {Inv : σ → Prop}
    (hstep : ∀ s a s', Inv s → step s a = some s' → Inv s') {s t : σ} {as : List α} (h : Inv s)
    (hrun : run step s as = some t) : Inv t := by
  induction as generalizing s with
  | nil =>
    cases hrun
    exact h
  | cons a as ih =>
    obtain ⟨s', hfirst, hrest⟩ := run_cons_eq_some.mp hrun
    exact ih (hstep s a s' h hfirst) hrest

/-- A run reaches a bad state exactly when it started in one or a step missed the condition. -/
theorem bad_run_iff {Inv Bad : σ → Prop} {meets : σ → α → Prop}
    (hstep : ∀ s a s', Inv s → step s a = some s' → Inv s')
    (hbad : ∀ s a s', Inv s → step s a = some s' → (Bad s' ↔ Bad s ∨ ¬ meets s a))
    {s t : σ} {as : List α} (h : Inv s) (hrun : run step s as = some t) :
    Bad t ↔ Bad s ∨ ¬ Along step meets s as := by
  induction as generalizing s with
  | nil =>
    cases hrun
    simp [Along]
  | cons a as ih =>
    obtain ⟨s', hfirst, hrest⟩ := run_cons_eq_some.mp hrun
    have hnext : (∀ s'' ∈ step s a, Along step meets s'' as) ↔
        Along step meets s' as := by
      constructor
      · intro hall
        exact hall s' hfirst
      · intro halong s'' hsecond
        cases hfirst.symm.trans hsecond
        exact halong
    rw [ih (hstep s a s' h hfirst) hrest, hbad s a s' h hfirst, Along, hnext, not_and_or,
      or_assoc]

end Oxhide.Runs
