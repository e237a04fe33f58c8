import Mathlib.Data.Multiset.AddSub

/-! # Traces of acquisitions and releases

`replay` follows a trace from the resources that are held at its start and fails at a
release of something that is not held. A trace that starts and ends with nothing held
releases every acquisition exactly once. -/
namespace Oxhide.Custody

inductive Event (R : Type) where
  | acquire (r : R)
  | release (r : R)
  deriving DecidableEq, Repr

variable {R : Type} [DecidableEq R]

def replay : Multiset R → List (Event R) → Option (Multiset R)
  | held, [] => some held
  | held, .acquire r :: es => replay (r ::ₘ held) es
  | held, .release r :: es => if r ∈ held then replay (held.erase r) es else none

/-- Every acquisition is released, later and once. -/
def Settled (es : List (Event R)) : Prop := replay 0 es = some 0

instance (es : List (Event R)) : Decidable (Settled es) :=
  inferInstanceAs (Decidable (replay 0 es = some 0))

@[simp] theorem replay_nil (held : Multiset R) : replay held [] = some held := rfl

@[simp] theorem replay_acquire (held : Multiset R) (r : R) (es : List (Event R)) :
    replay held (.acquire r :: es) = replay (r ::ₘ held) es := rfl

@[simp] theorem replay_release (held : Multiset R) (r : R) (es : List (Event R)) :
    replay (r ::ₘ held) (.release r :: es) = replay held es := by
  rw [replay, if_pos (Multiset.mem_cons_self r held), Multiset.erase_cons_head]

theorem replay_append (held : Multiset R) (es fs : List (Event R)) :
    replay held (es ++ fs) = (replay held es).bind (replay · fs) := by
  induction es generalizing held with
  | nil => rfl
  | cons e es ih =>
    cases e with
    | acquire r => exact ih _
    | release r =>
      rw [List.cons_append, replay, replay]
      split_ifs
      · exact ih _
      · rfl

/-- One trace after another. -/
theorem replay_trans {held held' held'' : Multiset R} {es fs : List (Event R)}
    (hes : replay held es = some held') (hfs : replay held' fs = some held'') :
    replay held (es ++ fs) = some held'' := by
  rw [replay_append, hes]
  exact hfs

/-- What else is held does not matter. -/
theorem replay_frame {held held' : Multiset R} {es : List (Event R)}
    (h : replay held es = some held') (rest : Multiset R) :
    replay (held + rest) es = some (held' + rest) := by
  induction es generalizing held with
  | nil =>
    cases h
    rfl
  | cons e es ih =>
    cases e with
    | acquire r =>
      rw [replay_acquire, ← Multiset.cons_add]
      exact ih h
    | release r =>
      rw [replay] at h ⊢
      split_ifs at h with hr
      rw [if_pos (Multiset.mem_add.mpr (.inl hr)), Multiset.erase_add_left_pos _ hr]
      exact ih h

/-- A resource held for the length of a trace. -/
theorem replay_bracket {held : Multiset R} {es : List (Event R)} (h : replay 0 es = some held)
    (r : R) : replay 0 (.acquire r :: (es ++ [.release r])) = some held := by
  have hinside : replay {r} es = some (r ::ₘ held) := by
    have hframe := replay_frame h {r}
    rwa [Multiset.zero_add, Multiset.add_comm, Multiset.singleton_add] at hframe
  exact replay_trans hinside (replay_release held r [])

/-- What was held and acquired is what is held and released. -/
theorem count_of_replay {held held' : Multiset R} {es : List (Event R)}
    (h : replay held es = some held') (r : R) :
    held.count r + es.count (.acquire r) = held'.count r + es.count (.release r) := by
  induction es generalizing held with
  | nil =>
    cases h
    rfl
  | cons e es ih =>
    cases e with
    | acquire q =>
      have hrest := ih h
      by_cases hq : r = q
      · subst hq
        rw [Multiset.count_cons_self] at hrest
        rw [List.count_cons_self, List.count_cons_of_ne (by simp)]
        omega
      · rw [Multiset.count_cons_of_ne hq] at hrest
        rw [List.count_cons_of_ne (by simpa using Ne.symm hq), List.count_cons_of_ne (by simp)]
        exact hrest
    | release q =>
      rw [replay] at h
      split_ifs at h with hheld
      have hrest := ih h
      by_cases hq : r = q
      · subst hq
        have hpos := Multiset.count_pos.mpr hheld
        rw [Multiset.count_erase_self] at hrest
        rw [List.count_cons_self, List.count_cons_of_ne (by simp)]
        omega
      · rw [Multiset.count_erase_of_ne hq] at hrest
        rw [List.count_cons_of_ne (by simp), List.count_cons_of_ne (by simpa using Ne.symm hq)]
        exact hrest

theorem Settled.count_eq {es : List (Event R)} (h : Settled es) (r : R) :
    es.count (.release r) = es.count (.acquire r) := by
  have hcount := count_of_replay h r
  rw [Multiset.count_zero] at hcount
  omega

end Oxhide.Custody
