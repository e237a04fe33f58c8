import Oxhide.PlainDevice

/-! # Histories of a disk

A request to a disk reads data, stores data, fails while it stores and may leave anything
in its range, or is refused. `Serves` relates the disk before a history to the disk behind
it. A position is known by the entry that was stored there last, as long as no failed
write has hit it since, and every read returns what is known: `Serves.read_known`. A
machine whose steps serve single requests serves every history: `serves_history`. -/
namespace Oxhide.DiskHistories
open PlainDevice

variable {α : Type*}

@[simp] theorem store_nil (d : Device α) (v : ℕ) : d.store v [] = d := by
  funext i
  rw [Device.store, List.length_nil, if_neg (by omega)]

inductive Event (α : Type*) where
  | read (o : ℕ) (data : List α)
  | stored (v : ℕ) (data : List α)
  | torn (v n : ℕ)
  | refused
  deriving DecidableEq, Repr

inductive Step : Device α → Event α → Device α → Prop where
  | read {d : Device α} {o : ℕ} {data : List α} (shown : Shows d o data) : Step d (.read o data) d
  | stored (d : Device α) (v : ℕ) (data : List α) : Step d (.stored v data) (d.store v data)
  | torn {d d' : Device α} {v n : ℕ} (spared : ∀ i, i < v ∨ v + n ≤ i → d' i = d i) :
      Step d (.torn v n) d'
  | refused (d : Device α) : Step d .refused d

inductive Serves : Device α → List (Event α) → Device α → Prop where
  | nil (d : Device α) : Serves d [] d
  | cons {d d' d'' : Device α} {e : Event α} {es : List (Event α)} (first : Step d e d')
      (rest : Serves d' es d'') : Serves d (e :: es) d''

/-- The entries of the positions that are known. -/
abbrev Knowledge (α : Type*) := ℕ → Option (Option α)

/-- What a request adds to the knowledge, and what it takes away. -/
def learn (known : Knowledge α) : Event α → Knowledge α
  | .stored v data, i => if v ≤ i ∧ i < v + data.length then some data[i - v]? else known i
  | .torn v n, i => if v ≤ i ∧ i < v + n then none else known i
  | .read _ _, i => known i
  | .refused, i => known i

def Knows (known : Knowledge α) (d : Device α) : Prop :=
  ∀ i entry, known i = some entry → d i = entry

theorem Step.knows {d d' : Device α} {e : Event α} {known : Knowledge α} (h : Step d e d')
    (hknown : Knows known d) : Knows (learn known e) d' := by
  cases h with
  | read shown => exact hknown
  | refused => exact hknown
  | stored v data =>
    intro i entry hi
    rw [learn] at hi
    rw [Device.store]
    split_ifs at hi ⊢ with hin
    · exact Option.some.inj hi
    · exact hknown i entry hi
  | torn spared =>
    intro i entry hi
    rw [learn] at hi
    split_ifs at hi with hin
    rw [spared i (by omega)]
    exact hknown i entry hi

theorem Serves.knows {d d' : Device α} {es : List (Event α)} {known : Knowledge α}
    (h : Serves d es d') (hknown : Knows known d) : Knows (es.foldl learn known) d' := by
  induction h generalizing known with
  | nil => exact hknown
  | cons first rest ih => exact ih (first.knows hknown)

theorem Serves.append {d d'' : Device α} {es fs : List (Event α)} :
    Serves d (es ++ fs) d'' ↔ ∃ d', Serves d es d' ∧ Serves d' fs d'' := by
  induction es generalizing d with
  | nil =>
    constructor
    · intro h
      exact ⟨d, .nil d, h⟩
    · rintro ⟨d', hnil, h⟩
      cases hnil
      exact h
  | cons e es ih =>
    constructor
    · intro h
      cases h with
      | cons first rest =>
        obtain ⟨d', hes, hfs⟩ := ih.mp rest
        exact ⟨d', .cons first hes, hfs⟩
    · rintro ⟨d', hes, hfs⟩
      cases hes with
      | cons first rest => exact .cons first (ih.mpr ⟨d', rest, hfs⟩)

/-- What is known after a history: the entries of the disk it started with, and what was
stored since. -/
def remembered (d : Device α) (es : List (Event α)) : Knowledge α :=
  es.foldl learn fun i => some (d i)

/-- Every read of a history returns what is known at its time. -/
theorem Serves.read_known {d d' : Device α} {es fs : List (Event α)} {o : ℕ} {data : List α}
    (h : Serves d (es ++ .read o data :: fs) d') {k : ℕ} (hk : k < data.length)
    {entry : Option α} (hknown : remembered d es (o + k) = some entry) : data[k]? = entry := by
  obtain ⟨middle, hes, hrest⟩ := Serves.append.mp h
  have hknows : Knows (remembered d es) middle := hes.knows fun i entry hi => Option.some.inj hi
  cases hrest with
  | cons first rest =>
    cases first with
    | read shown => rw [shown k hk, hknows (o + k) entry hknown]

/-- In particular a read behind a write of the same range returns its data. -/
theorem Serves.read_stored {d d' : Device α} {v : ℕ} {data out : List α}
    (h : Serves d [.stored v data, .read v out] d') (hlen : out.length = data.length) :
    out = data := by
  apply List.ext_getElem?
  intro k
  by_cases hk : k < out.length
  · refine @Serves.read_known _ _ _ [.stored v data] [] _ _ h _ hk _ ?_
    rw [remembered, List.foldl_cons, List.foldl_nil, learn, if_pos (by omega),
      Nat.add_sub_cancel_left]
  · rw [List.getElem?_eq_none (by omega), List.getElem?_eq_none (by omega)]

section Parts
variable (keep : ℕ → Prop) [DecidablePred keep]

/-- A part of a disk. -/
def restrict (d : Device α) : Device α := fun i => if keep i then d i else none

/-- What a request shows lies in the part. -/
def Event.Within : Event α → Prop
  | .read o data => ∀ i, o ≤ i → i < o + data.length → keep i
  | .stored v data => ∀ i, v ≤ i → i < v + data.length → keep i
  | .torn _ _ => True
  | .refused => True

variable {keep}

/-- Requests to a part of a disk serve the part. -/
theorem Step.restrict {d d' : Device α} {e : Event α} (h : Step d e d') (hin : e.Within keep) :
    Step (restrict keep d) e (restrict keep d') := by
  cases h with
  | read shown =>
    refine Step.read fun k hk => ?_
    rw [DiskHistories.restrict, if_pos (hin _ (by omega) (by omega)), shown k hk]
  | refused => exact Step.refused _
  | stored v data =>
    have hstore : DiskHistories.restrict keep (d.store v data) =
        (DiskHistories.restrict keep d).store v data := by
      funext i
      rw [DiskHistories.restrict, Device.store, Device.store]
      by_cases hi : v ≤ i ∧ i < v + data.length
      · rw [if_pos hi, if_pos hi, if_pos (hin i hi.1 hi.2)]
      · rw [if_neg hi, if_neg hi, DiskHistories.restrict]
    rw [hstore]
    exact Step.stored _ _ _
  | torn spared =>
    refine Step.torn fun i hi => ?_
    rw [DiskHistories.restrict, DiskHistories.restrict, spared i hi]

end Parts

section Machines
variable {σ ρ : Type*} (next : σ → ρ → σ) (event : σ → ρ → Event α)

/-- What a run of a machine shows of each request. -/
def history : σ → List ρ → List (Event α)
  | _, [] => []
  | s, r :: rs => event s r :: history (next s r) rs

/-- Every request of a run meets a condition on it and on the state before it. -/
def Meeting (Meets : σ → ρ → Prop) : σ → List ρ → Prop
  | _, [] => True
  | s, r :: rs => Meets s r ∧ Meeting Meets (next s r) rs

variable {next event}

theorem meeting_of_forall {Meets : ρ → Prop} {rs : List ρ} (h : ∀ r ∈ rs, Meets r) (s : σ) :
    Meeting next (fun _ => Meets) s rs := by
  induction rs generalizing s with
  | nil => trivial
  | cons r rs ih =>
    exact ⟨h r List.mem_cons_self, ih (fun r' hr' => h r' (List.mem_cons_of_mem r hr')) _⟩

/-- A machine that serves every request it meets serves every run, and keeps its invariant. -/
theorem serves_meeting {view : σ → Device α} {Inv : σ → Prop} {Meets : σ → ρ → Prop}
    (hstep : ∀ s r, Inv s → Meets s r →
      Inv (next s r) ∧ Step (view s) (event s r) (view (next s r)))
    {s : σ} (h : Inv s) {rs : List ρ} (hrs : Meeting next Meets s rs) :
    Inv (rs.foldl next s) ∧
      Serves (view s) (history next event s rs) (view (rs.foldl next s)) := by
  induction rs generalizing s with
  | nil => exact ⟨h, .nil (view s)⟩
  | cons r rs ih =>
    obtain ⟨hfirst, hrest⟩ := hrs
    obtain ⟨hnext, hserved⟩ := hstep s r h hfirst
    obtain ⟨hinv, hserves⟩ := ih hnext hrest
    exact ⟨hinv, .cons hserved hserves⟩

theorem serves_history {view : σ → Device α} {Inv : σ → Prop} {Meets : ρ → Prop}
    (hstep : ∀ s r, Inv s → Meets r →
      Inv (next s r) ∧ Step (view s) (event s r) (view (next s r)))
    {s : σ} (h : Inv s) {rs : List ρ} (hrs : ∀ r ∈ rs, Meets r) :
    Serves (view s) (history next event s rs) (view (rs.foldl next s)) :=
  (serves_meeting hstep h (meeting_of_forall hrs s)).2

end Machines

end Oxhide.DiskHistories
