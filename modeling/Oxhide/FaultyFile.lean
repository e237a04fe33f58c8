import Oxhide.ListSplice
import Mathlib.Algebra.Group.Nat.Defs

/-! # A seekable file whose calls can fail

A computation on a file threads the contents, the position and the number of
calls made so far, also through errors. A fault plan says which calls fail; a
failing write stores a prefix of its data first. `bind_eq_ok` and
`bind_eq_error` take a sequence of calls apart: a successful run is a run of
successful calls, and a failed one stopped at the first call that failed. -/
namespace Oxhide.FaultyFile
open ListSplice

variable {α ε ε' β γ : Type}

section Store

/-- Store `ys` from `off` on; a gap after the end is filled with `pad`. Storing
nothing does not extend the file. -/
def storeAt (pad : α) (xs : List α) (off : ℕ) (ys : List α) : List α :=
  if ys.isEmpty then xs else splice (xs ++ List.replicate (off - xs.length) pad) off ys

theorem storeAt_of_le {pad : α} {xs : List α} {off : ℕ} (h : off ≤ xs.length) (ys : List α) :
    storeAt pad xs off ys = splice xs off ys := by
  cases ys with
  | nil => simp [storeAt]
  | cons y ys => simp [storeAt, Nat.sub_eq_zero_of_le h]

theorem storeAt_nil (pad : α) (xs : List α) (off : ℕ) : storeAt pad xs off [] = xs := rfl

private theorem storeAt_of_ne_nil {pad : α} {xs ys : List α} {off : ℕ} (h : ys ≠ []) :
    storeAt pad xs off ys = splice (xs ++ List.replicate (off - xs.length) pad) off ys := by
  cases ys with
  | nil => exact absurd rfl h
  | cons y ys => rfl

private theorem le_length_padded (pad : α) (xs : List α) (off : ℕ) :
    off ≤ (xs ++ List.replicate (off - xs.length) pad).length := by
  rw [List.length_append, List.length_replicate]
  omega

theorem length_storeAt_eq_max (pad : α) (xs : List α) {ys : List α} (off : ℕ) (h : ys ≠ []) :
    (storeAt pad xs off ys).length = max xs.length (off + ys.length) := by
  rw [storeAt_of_ne_nil h, length_splice_eq_max (le_length_padded pad xs off), List.length_append,
    List.length_replicate]
  omega

/-- What was stored can be read back. -/
theorem slice_storeAt_self (pad : α) (xs ys : List α) (off : ℕ) :
    slice (storeAt pad xs off ys) off ys.length = ys := by
  by_cases h : ys = []
  · rw [h]
    exact slice_zero xs off
  · rw [storeAt_of_ne_nil h]
    exact slice_splice_self (le_length_padded pad xs off) ys

/-- Storing a concatenation is storing its parts one after the other. -/
theorem storeAt_append (pad : α) (xs ys zs : List α) (off : ℕ) (h : ys ≠ []) :
    storeAt pad xs off (ys ++ zs) =
      storeAt pad (storeAt pad xs off ys) (off + ys.length) zs := by
  have hpadded := le_length_padded pad xs off
  have hlen := length_storeAt_eq_max pad xs off h
  have hne : ys ++ zs ≠ [] := List.append_ne_nil_of_left_ne_nil h zs
  have hreach : off + ys.length ≤ (storeAt pad xs off ys).length := by omega
  rw [storeAt_of_le hreach, storeAt_of_ne_nil hne, storeAt_of_ne_nil h,
    splice_append ys zs hpadded]

/-- Storing does not change the entries outside its range. -/
theorem getElem?_storeAt_of_disjoint (pad : α) {xs ys : List α} {off i : ℕ} (hi : i < xs.length)
    (h : i < off ∨ off + ys.length ≤ i) : (storeAt pad xs off ys)[i]? = xs[i]? := by
  by_cases hys : ys = []
  · rw [hys, storeAt_nil]
  · have hpadded : (xs ++ List.replicate (off - xs.length) pad)[i]? = xs[i]? :=
      List.getElem?_append_left hi
    rw [storeAt_of_ne_nil hys, getElem?_splice (le_length_padded pad xs off), hpadded]
    rcases h with hlow | hhigh
    · rw [if_pos hlow]
    · rw [if_neg (by omega), if_neg (by omega)]

/-- `ys` stands in `xs` from position `off` on. -/
def StandsAt (xs : List α) (off : ℕ) (ys : List α) : Prop :=
  off + ys.length ≤ xs.length ∧ slice xs off ys.length = ys

theorem standsAt_append {xs ys zs : List α} {off : ℕ} :
    StandsAt xs off (ys ++ zs) ↔ StandsAt xs off ys ∧ StandsAt xs (off + ys.length) zs := by
  rw [StandsAt, StandsAt, StandsAt, List.length_append, ← slice_append_slice]
  constructor
  · rintro ⟨hin, hslice⟩
    obtain ⟨hys, hzs⟩ := List.append_inj hslice (length_slice_of_le (by omega))
    exact ⟨⟨by omega, hys⟩, by omega, hzs⟩
  · rintro ⟨⟨_, hys⟩, hin, hzs⟩
    exact ⟨by omega, by rw [hys, hzs]⟩

/-- Storing changes nothing exactly when the data stand there already. -/
theorem storeAt_eq_self_iff {pad : α} {xs ys : List α} {off : ℕ} (h : ys ≠ []) :
    storeAt pad xs off ys = xs ↔ StandsAt xs off ys := by
  constructor
  · intro hsame
    have hlen := length_storeAt_eq_max pad xs off h
    have hself := slice_storeAt_self pad xs ys off
    rw [hsame] at hlen hself
    exact ⟨by omega, hself⟩
  · rintro ⟨hin, hslice⟩
    rw [storeAt_of_le (by omega)]
    exact (splice_eq_self_iff hin).mpr hslice

end Store

structure FileState (α : Type) where
  contents : List α
  pos : ℕ
  calls : ℕ
  deriving DecidableEq, Repr

/-- A failing call reports `msg`; a failing write stores `stored` entries first. -/
structure Fault where
  msg : String
  stored : ℕ
  deriving DecidableEq, Repr

/-- Which calls fail, by their number. -/
abbrev FaultPlan := ℕ → Option Fault

def noFaults : FaultPlan := fun _ => none

def FileIo (α ε β : Type) := FaultPlan → FileState α → Except ε β × FileState α

namespace FileIo

instance : Monad (FileIo α ε) where
  pure b := fun _ st => (.ok b, st)
  bind m f := fun plan st =>
    match m plan st with
    | (.ok b, st') => f b plan st'
    | (.error e, st') => (.error e, st')

def throw (e : ε) : FileIo α ε β := fun _ st => (.error e, st)

/-- A computation that does not touch the file. -/
def lift (x : Except ε β) : FileIo α ε β := fun _ st => (x, st)

def mapError (h : ε → ε') (m : FileIo α ε β) : FileIo α ε' β := fun plan st =>
  ((m plan st).1.mapError h, (m plan st).2)

theorem bind_eq_ok {m : FileIo α ε β} {f : β → FileIo α ε γ} {plan : FaultPlan}
    {st st'' : FileState α} {c : γ} :
    (m >>= f) plan st = (.ok c, st'') ↔
      ∃ b st', m plan st = (.ok b, st') ∧ f b plan st' = (.ok c, st'') := by
  change (match m plan st with
    | (.ok b, st') => f b plan st'
    | (.error e, st') => (.error e, st')) = _ ↔ _
  rcases m plan st with ⟨_ | b, st'⟩ <;> simp

theorem bind_eq_error {m : FileIo α ε β} {f : β → FileIo α ε γ} {plan : FaultPlan}
    {st st'' : FileState α} {e : ε} :
    (m >>= f) plan st = (.error e, st'') ↔
      m plan st = (.error e, st'') ∨
        ∃ b st', m plan st = (.ok b, st') ∧ f b plan st' = (.error e, st'') := by
  change (match m plan st with
    | (.ok b, st') => f b plan st'
    | (.error e, st') => (.error e, st')) = _ ↔ _
  rcases m plan st with ⟨_ | b, st'⟩ <;> simp

theorem bind_of_ok {m : FileIo α ε β} {f : β → FileIo α ε γ} {plan : FaultPlan}
    {st st' : FileState α} {b : β} (h : m plan st = (.ok b, st')) :
    (m >>= f) plan st = f b plan st' := by
  change (match m plan st with
    | (.ok b, st') => f b plan st'
    | (.error e, st') => (.error e, st')) = _
  rw [h]

theorem bind_of_error {m : FileIo α ε β} {f : β → FileIo α ε γ} {plan : FaultPlan}
    {st st' : FileState α} {e : ε} (h : m plan st = (.error e, st')) :
    (m >>= f) plan st = (.error e, st') := by
  change (match m plan st with
    | (.ok b, st') => f b plan st'
    | (.error e, st') => (.error e, st')) = _
  rw [h]

theorem throw_ne_ok {e : ε} {plan : FaultPlan} {st st' : FileState α} {b : β} :
    (throw e : FileIo α ε β) plan st ≠ (.ok b, st') := by
  simp [throw]

theorem mapError_eq_ok {h : ε → ε'} {m : FileIo α ε β} {plan : FaultPlan} {st st' : FileState α}
    {b : β} : mapError h m plan st = (.ok b, st') ↔ m plan st = (.ok b, st') := by
  rw [mapError]
  rcases m plan st with ⟨_ | b, st'⟩ <;> simp [Except.mapError]

theorem mapError_eq_error {h : ε → ε'} {m : FileIo α ε β} {plan : FaultPlan}
    {st st' : FileState α} {e' : ε'} :
    mapError h m plan st = (.error e', st') ↔ ∃ e, m plan st = (.error e, st') ∧ h e = e' := by
  rw [mapError]
  rcases m plan st with ⟨_ | b, st'⟩ <;> simp [Except.mapError, and_comm]

theorem lift_eq_ok {x : Except ε β} {plan : FaultPlan} {st st' : FileState α} {b : β} :
    lift x plan st = (.ok b, st') ↔ x = .ok b ∧ st' = st := by
  simp [lift, eq_comm]

/-- Renaming the error of a computation that does not touch the file. -/
theorem lift_mapError_eq_ok {h : ε → ε'} {x : Except ε β} {plan : FaultPlan}
    {st st' : FileState α} {b : β} :
    lift (x.mapError h) plan st = (.ok b, st') ↔ x = .ok b ∧ st' = st := by
  cases x <;> simp [lift, Except.mapError, eq_comm]

theorem lift_eq_error {x : Except ε β} {plan : FaultPlan} {st st' : FileState α} {e : ε} :
    lift x plan st = (.error e, st') ↔ x = .error e ∧ st' = st := by
  simp [lift, eq_comm]

end FileIo

section Calls

/-- The largest position a file can have, `i64::MAX`. -/
def maxPosition : ℕ := 2 ^ 63 - 1

/-- One call: `onFault` is what a failing one leaves. -/
def call (onFault : Fault → FileState α → FileState α)
    (op : FileState α → Except String β × FileState α) : FileIo α String β := fun plan st =>
  match plan st.calls with
  | some fault => (.error fault.msg, onFault fault { st with calls := st.calls + 1 })
  | none => op { st with calls := st.calls + 1 }

def seekStart (offset : ℕ) : FileIo α String Unit :=
  call (fun _ st => st) fun st =>
    if offset ≤ maxPosition then (.ok (), { st with pos := offset })
    else (.error "Invalid argument (os error 22)", st)

/-- Returns the length of the file. -/
def seekEnd : FileIo α String ℕ :=
  call (fun _ st => st) fun st =>
    (.ok st.contents.length, { st with pos := st.contents.length })

/-- To fill an empty buffer the file is not asked at all. -/
def readExact (n : ℕ) : FileIo α String (List α) :=
  if n = 0 then pure [] else
    call (fun _ st => st) fun st =>
      if st.pos + n ≤ st.contents.length then
        (.ok (slice st.contents st.pos n), { st with pos := st.pos + n })
      else
        (.error "failed to fill whole buffer", { st with pos := max st.pos st.contents.length })

/-- What `ys` written at the position leaves. -/
def FileState.stored (pad : α) (ys : List α) (st : FileState α) : FileState α :=
  { st with contents := storeAt pad st.contents st.pos ys, pos := st.pos + ys.length }

def writeAll (pad : α) (ys : List α) : FileIo α String Unit :=
  call (fun fault st => st.stored pad (ys.take fault.stored)) fun st =>
    if st.pos + ys.length ≤ maxPosition then (.ok (), st.stored pad ys)
    else (.error "File too large (os error 27)", st)

/-- Returns the position. -/
def tell : FileIo α String ℕ := call (fun _ st => st) fun st => (.ok st.pos, st)

/-- One read call, which returns at most `limit` entries. -/
def readSome (limit n : ℕ) : FileIo α String (List α) :=
  call (fun _ st => st) fun st =>
    let got := slice st.contents st.pos (min limit n)
    (.ok got, { st with pos := st.pos + got.length })

/-- One write call, which takes at most `limit` entries and returns how many it took. -/
def writeSome (pad : α) (limit : ℕ) (ys : List α) : FileIo α String ℕ :=
  call (fun _ st => st) fun st =>
    let taken := ys.take limit
    if st.pos + taken.length ≤ maxPosition then (.ok taken.length, st.stored pad taken)
    else (.error "File too large (os error 27)", st)

def flush : FileIo α String Unit := call (fun _ st => st) fun st => (.ok (), st)

variable {plan : FaultPlan} {st st' : FileState α}

theorem seekStart_eq_ok {offset : ℕ} {u : Unit} : seekStart offset plan st = (.ok u, st') ↔
    plan st.calls = none ∧ offset ≤ maxPosition ∧
      st' = { st with pos := offset, calls := st.calls + 1 } := by
  rw [seekStart, call]
  cases plan st.calls with
  | some fault => simp
  | none => by_cases h : offset ≤ maxPosition <;> simp [h, eq_comm]

theorem seekEnd_eq_ok {n : ℕ} : seekEnd plan st = (.ok n, st') ↔
    plan st.calls = none ∧ n = st.contents.length ∧
      st' = { st with pos := st.contents.length, calls := st.calls + 1 } := by
  rw [seekEnd, call]
  cases plan st.calls with
  | some fault => simp
  | none => simp [eq_comm]

theorem writeAll_eq_ok {pad : α} {ys : List α} {u : Unit} :
    writeAll pad ys plan st = (.ok u, st') ↔
    plan st.calls = none ∧ st.pos + ys.length ≤ maxPosition ∧
      st' = { st.stored pad ys with calls := st.calls + 1 } := by
  rw [writeAll, call]
  cases plan st.calls with
  | some fault => simp
  | none => by_cases h : st.pos + ys.length ≤ maxPosition <;>
      simp [h, FileState.stored, eq_comm]

theorem flush_eq_ok {u : Unit} : flush plan st = (.ok u, st') ↔
    plan st.calls = none ∧ st' = { st with calls := st.calls + 1 } := by
  rw [flush, call]
  cases plan st.calls with
  | some fault => simp
  | none => simp [eq_comm]

theorem readExact_eq_ok {n : ℕ} {bs : List α} (hn : n ≠ 0) :
    readExact n plan st = (.ok bs, st') ↔
      plan st.calls = none ∧ st.pos + n ≤ st.contents.length ∧ bs = slice st.contents st.pos n ∧
        st' = { st with pos := st.pos + n, calls := st.calls + 1 } := by
  rw [readExact, if_neg hn, call]
  cases plan st.calls with
  | some fault => simp
  | none => by_cases h : st.pos + n ≤ st.contents.length <;> simp [h, eq_comm]

theorem tell_eq_ok {n : ℕ} : tell plan st = (.ok n, st') ↔
    plan st.calls = none ∧ n = st.pos ∧ st' = { st with calls := st.calls + 1 } := by
  rw [tell, call]
  cases plan st.calls with
  | some fault => simp
  | none => simp [eq_comm]

theorem readSome_eq_ok {limit n : ℕ} {bs : List α} : readSome limit n plan st = (.ok bs, st') ↔
    plan st.calls = none ∧ bs = slice st.contents st.pos (min limit n) ∧
      st' = { st with pos := st.pos + bs.length, calls := st.calls + 1 } := by
  rw [readSome, call]
  cases plan st.calls with
  | some fault => simp
  | none =>
    simp only [Prod.mk.injEq, Except.ok.injEq, true_and]
    constructor
    · rintro ⟨rfl, rfl⟩
      exact ⟨rfl, rfl⟩
    · rintro ⟨rfl, rfl⟩
      exact ⟨rfl, rfl⟩

theorem writeSome_eq_ok {pad : α} {limit k : ℕ} {ys : List α} :
    writeSome pad limit ys plan st = (.ok k, st') ↔
      plan st.calls = none ∧ st.pos + (ys.take limit).length ≤ maxPosition ∧
        k = (ys.take limit).length ∧
        st' = { st.stored pad (ys.take limit) with calls := st.calls + 1 } := by
  rw [writeSome, call]
  cases plan st.calls with
  | some fault => simp
  | none => by_cases h : st.pos + min limit ys.length ≤ maxPosition <;>
      simp [h, FileState.stored, eq_comm]

/-- A call whose failures store nothing only counts when it fails. -/
private theorem call_eq_error {op : FileState α → Except String β × FileState α}
    (hop : ∀ s s' e, op s = (.error e, s') → s' = s) {e : String}
    (h : call (fun _ st => st) op plan st = (.error e, st')) :
    st' = { st with calls := st.calls + 1 } := by
  rw [call] at h
  cases hplan : plan st.calls with
  | some fault => simpa [hplan, eq_comm] using congrArg Prod.snd h
  | none =>
    rw [hplan] at h
    exact hop _ _ _ h

theorem tell_eq_error {e : String} (h : tell plan st = (.error e, st')) :
    st' = { st with calls := st.calls + 1 } :=
  call_eq_error (fun s s' e hs => by simp at hs) h

theorem seekStart_eq_error {offset : ℕ} {e : String}
    (h : seekStart offset plan st = (.error e, st')) :
    st' = { st with calls := st.calls + 1 } := by
  refine call_eq_error (fun s s' e hs => ?_) h
  by_cases hle : offset ≤ maxPosition
  · simp [hle] at hs
  · simpa [hle, eq_comm] using congrArg Prod.snd hs

theorem readSome_eq_error {limit n : ℕ} {e : String}
    (h : readSome limit n plan st = (.error e, st')) :
    st' = { st with calls := st.calls + 1 } :=
  call_eq_error (fun s s' e hs => by simp at hs) h

theorem writeSome_eq_error {pad : α} {limit : ℕ} {ys : List α} {e : String}
    (h : writeSome pad limit ys plan st = (.error e, st')) :
    st' = { st with calls := st.calls + 1 } := by
  refine call_eq_error (fun s s' e hs => ?_) h
  by_cases hle : s.pos + min limit ys.length ≤ maxPosition
  · simp [hle] at hs
  · simpa [hle, eq_comm] using congrArg Prod.snd hs

/-- A failed seek or flush leaves the contents alone. -/
theorem seekStart_contents {offset : ℕ} : (seekStart offset plan st).2.contents = st.contents := by
  rw [seekStart, call]
  cases plan st.calls with
  | some fault => rfl
  | none => by_cases h : offset ≤ maxPosition <;> simp [h]

theorem seekEnd_contents : (seekEnd plan st).2.contents = st.contents := by
  rw [seekEnd, call]
  cases plan st.calls <;> rfl

theorem flush_contents : (flush plan st).2.contents = st.contents := by
  rw [flush, call]
  cases plan st.calls <;> rfl

theorem readExact_contents {n : ℕ} : (readExact n plan st).2.contents = st.contents := by
  rw [readExact]
  by_cases hn : n = 0
  · rw [if_pos hn]
    rfl
  · rw [if_neg hn, call]
    cases plan st.calls with
    | some fault => rfl
    | none => by_cases h : st.pos + n ≤ st.contents.length <;> simp [h]

/-- A computation that at most reads. -/
def FileIo.KeepsContents (m : FileIo α ε β) : Prop :=
  ∀ plan st, (m plan st).2.contents = st.contents

namespace FileIo.KeepsContents

theorem pure (b : β) : KeepsContents (Pure.pure b : FileIo α ε β) := fun _ _ => rfl

theorem throw (e : ε) : KeepsContents (FileIo.throw e : FileIo α ε β) := fun _ _ => rfl

theorem lift (x : Except ε β) : KeepsContents (FileIo.lift x : FileIo α ε β) := fun _ _ => rfl

theorem mapError {m : FileIo α ε β} (hm : KeepsContents m) (h : ε → ε') :
    KeepsContents (FileIo.mapError h m) := hm

theorem bind {m : FileIo α ε β} {f : β → FileIo α ε γ} (hm : KeepsContents m)
    (hf : ∀ b, KeepsContents (f b)) : KeepsContents (m >>= f) := by
  intro plan st
  have hfirst := hm plan st
  cases h : m plan st with
  | mk result st' =>
    rw [h] at hfirst
    cases result with
    | error e => rw [bind_of_error h, hfirst]
    | ok b => rw [bind_of_ok h, hf b plan st', hfirst]

end FileIo.KeepsContents

/-- Every call is counted, also a failing one. -/
theorem seekStart_calls {offset : ℕ} : (seekStart offset plan st).2.calls = st.calls + 1 := by
  rw [seekStart, call]
  cases plan st.calls with
  | some fault => rfl
  | none => by_cases h : offset ≤ maxPosition <;> simp [h]

theorem writeAll_calls {pad : α} {ys : List α} :
    (writeAll pad ys plan st).2.calls = st.calls + 1 := by
  rw [writeAll, call]
  cases plan st.calls with
  | some fault => rfl
  | none => by_cases h : st.pos + ys.length ≤ maxPosition <;> simp [h, FileState.stored]

theorem flush_calls : (flush plan st).2.calls = st.calls + 1 := by
  rw [flush, call]
  cases plan st.calls <;> rfl

/-- Whatever happens, a write leaves some prefix of its data stored, and none of them
when the file cannot grow that far. -/
theorem writeAll_contents (plan : FaultPlan) (st : FileState α) (pad : α) (ys : List α) :
    ∃ k, (writeAll pad ys plan st).2.contents = storeAt pad st.contents st.pos (ys.take k) ∧
      (plan st.calls = none → maxPosition < st.pos + ys.length → k = 0) := by
  rw [writeAll, call]
  cases plan st.calls with
  | some fault => exact ⟨fault.stored, rfl, fun h => by cases h⟩
  | none =>
    by_cases h : st.pos + ys.length ≤ maxPosition
    · refine ⟨ys.length, ?_, fun _ hgt => absurd h (Nat.not_le.mpr hgt)⟩
      simp [h, FileState.stored]
    · refine ⟨0, ?_, fun _ _ => rfl⟩
      simp [h, storeAt]

end Calls

end Oxhide.FaultyFile
