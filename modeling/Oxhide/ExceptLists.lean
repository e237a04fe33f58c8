import Mathlib.Data.List.Forall2

/-! # Fallible maps and searches over lists

`mapM_eq_ok_iff` reads a successful fallible map as a relation between the two
lists, entry by entry. -/
namespace Oxhide.ExceptLists

variable {ε ε' α β γ : Type}

theorem mapM_eq_ok_iff {f : α → Except ε β} {as : List α} {bs : List β} :
    as.mapM f = .ok bs ↔ List.Forall₂ (fun a b => f a = .ok b) as bs := by
  induction as generalizing bs with
  | nil =>
    rw [List.mapM_nil, List.forall₂_nil_left_iff]
    exact ⟨fun h => (Except.ok.inj h).symm, fun h => h ▸ rfl⟩
  | cons a as ih =>
    rw [List.mapM_cons, List.forall₂_cons_left_iff]
    cases ha : f a with
    | error e => simp [bind, Except.bind]
    | ok b =>
      cases has : as.mapM f with
      | error e =>
        have hnone (bs' : List β) : ¬ List.Forall₂ (fun a b => f a = .ok b) as bs' := by
          rw [← ih, has]
          simp
        simp [bind, Except.bind, hnone]
      | ok bs' =>
        have hrel : List.Forall₂ (fun a b => f a = .ok b) as bs' := ih.mp has
        have hunique (cs : List β) (h : List.Forall₂ (fun a b => f a = .ok b) as cs) :
            cs = bs' := by
          rw [← ih, has] at h
          exact (Except.ok.inj h).symm
        constructor
        · intro h
          exact ⟨b, bs', rfl, hrel, (Except.ok.inj h).symm⟩
        · rintro ⟨b', cs, hb, hcs, rfl⟩
          obtain rfl := Except.ok.inj hb
          rw [hunique cs hcs]
          rfl

theorem exists_mapM_eq_ok {f : α → Except ε β} {as : List α} (h : ∀ a ∈ as, ∃ b, f a = .ok b) :
    ∃ bs, as.mapM f = .ok bs := by
  induction as with
  | nil => exact ⟨[], rfl⟩
  | cons a as ih =>
    obtain ⟨b, hb⟩ := h a List.mem_cons_self
    obtain ⟨bs, hbs⟩ := ih fun a' ha' => h a' (List.mem_cons_of_mem a ha')
    exact ⟨b :: bs, mapM_eq_ok_iff.mpr (.cons hb (mapM_eq_ok_iff.mp hbs))⟩

theorem mapM_congr {f g : α → Except ε β} {as : List α} (h : ∀ a ∈ as, f a = g a) :
    as.mapM f = as.mapM g := by
  induction as with
  | nil => rfl
  | cons a as ih =>
    rw [List.mapM_cons, List.mapM_cons, h a List.mem_cons_self,
      ih fun a' ha' => h a' (List.mem_cons_of_mem a ha')]

/-- Two fallible maps that succeed alike have the same results. -/
theorem mapM_eq_ok_congr {f : α → Except ε β} {g : α → Except ε' β}
    (h : ∀ a b, f a = .ok b ↔ g a = .ok b) {as : List α} {bs : List β} :
    as.mapM f = .ok bs ↔ as.mapM g = .ok bs := by
  simp only [mapM_eq_ok_iff, h]

end Oxhide.ExceptLists
