import Oxhide.Keyfiles

/-! # What each keyfile contributes

Pools are added position by position, so the pool of a list of keyfiles is the sum
of the pools each of them yields alone and does not depend on their order
(`poolSum_perm`). The loop adds the keyfiles up to the first empty one: the result
is the sum over the whole list exactly when only empty keyfiles come after it. -/
namespace Oxhide.KeyfileOrder
open Keyfiles WordBytes

section Pools

def zeroPool : Bytes := List.replicate poolSize 0

def addPools (p q : Bytes) : Bytes := List.zipWith (· + ·) p q

theorem length_addPools {p q : Bytes} (h : p.length = q.length) :
    (addPools p q).length = q.length := by
  rw [addPools, List.length_zipWith, h, Nat.min_self]

theorem addPools_comm (p q : Bytes) : addPools p q = addPools q p := by
  induction p generalizing q with
  | nil => cases q <;> rfl
  | cons a p ih =>
    cases q with
    | nil => rfl
    | cons b q => exact congrArg₂ List.cons (UInt8.add_comm a b) (ih q)

theorem addPools_assoc (p q r : Bytes) :
    addPools (addPools p q) r = addPools p (addPools q r) := by
  induction p generalizing q r with
  | nil => rfl
  | cons a p ih =>
    cases q with
    | nil => rfl
    | cons b q =>
      cases r with
      | nil => rfl
      | cons c r => exact congrArg₂ List.cons (UInt8.add_assoc a b c) (ih q r)

theorem addPools_left_comm (p q r : Bytes) :
    addPools p (addPools q r) = addPools q (addPools p r) := by
  rw [← addPools_assoc, addPools_comm p q, addPools_assoc]

theorem addPools_replicate_zero (p : Bytes) : addPools p (List.replicate p.length 0) = p := by
  induction p with
  | nil => rfl
  | cons a p ih => exact congrArg₂ List.cons (UInt8.add_zero a) ih

theorem addPools_zeroPool {p : Bytes} (h : p.length = poolSize) : addPools p zeroPool = p := by
  rw [zeroPool, ← h]
  exact addPools_replicate_zero p

@[simp] theorem length_addAt (p : Bytes) (i : ℕ) (b : UInt8) :
    (addAt p i b).length = p.length := by
  simp [addAt]

/-- Adding a byte to a sum is adding it to one of the pools. -/
theorem addAt_addPools {p q : Bytes} (i : ℕ) (b : UInt8) :
    addAt (addPools p q) i b = addPools p (addAt q i b) := by
  simp only [addAt, addPools]
  generalize i % poolSize = j
  induction p generalizing q j with
  | nil => cases j <;> rfl
  | cons a p ih =>
    cases q with
    | nil => cases j <;> rfl
    | cons c q =>
      cases j with
      | zero => exact congrArg₂ List.cons (UInt8.add_assoc a c b) rfl
      | succ j => exact congrArg₂ List.cons rfl (ih j)

end Pools

section Mixing

/-- The pool that a keyfile yields alone. -/
def keyfilePool (data : Bytes) : Bytes := (data.foldl mixByte ⟨zeroPool, 0, 0⟩).pool

/-- The sum of what the keyfiles yield. -/
def poolSum (files : List Bytes) : Bytes :=
  files.foldr (fun data sum => addPools (keyfilePool data) sum) zeroPool

theorem length_foldl_mixByte (data : Bytes) (m : Mixing) :
    (data.foldl mixByte m).pool.length = m.pool.length := by
  induction data generalizing m with
  | nil => rfl
  | cons b data ih => simp [ih, mixByte]

@[simp] theorem length_keyfilePool (data : Bytes) : (keyfilePool data).length = poolSize := by
  rw [keyfilePool, length_foldl_mixByte]
  exact List.length_replicate

@[simp] theorem length_poolSum (files : List Bytes) : (poolSum files).length = poolSize := by
  induction files with
  | nil => exact List.length_replicate
  | cons data files ih =>
    exact (length_addPools ((length_keyfilePool data).trans ih.symm)).trans ih

theorem poolSum_cons (data : Bytes) (files : List Bytes) :
    poolSum (data :: files) = addPools (keyfilePool data) (poolSum files) := rfl

/-- The order of the keyfiles does not matter to their sum. -/
theorem poolSum_perm {files files' : List Bytes} (h : files.Perm files') :
    poolSum files = poolSum files' := by
  induction h with
  | nil => rfl
  | cons data _ ih => rw [poolSum_cons, poolSum_cons, ih]
  | swap a b files => exact addPools_left_comm _ _ _
  | trans _ _ ih ih' => exact ih.trans ih'

/-- An empty keyfile yields nothing. -/
theorem poolSum_filter_ne_nil (files : List Bytes) :
    poolSum (files.filter (· ≠ [])) = poolSum files := by
  induction files with
  | nil => rfl
  | cons data files ih =>
    cases data with
    | nil =>
      have hzero : addPools zeroPool (poolSum files) = poolSum files := by
        rw [addPools_comm, addPools_zeroPool (length_poolSum files)]
      exact ih.trans hzero.symm
    | cons b data => exact congrArg (addPools _) ih

/-- Mixing a keyfile into a pool adds what it yields alone. -/
theorem foldl_mixByte_addPools (p : Bytes) (data : Bytes) (m : Mixing) :
    (data.foldl mixByte ⟨addPools p m.pool, m.crc, m.pos⟩).pool =
      addPools p (data.foldl mixByte m).pool := by
  induction data generalizing m with
  | nil => rfl
  | cons b data ih =>
    rw [List.foldl_cons, List.foldl_cons, ← ih]
    simp only [mixByte, addAt_addPools]

theorem foldl_mixByte_eq {pool : Bytes} (h : pool.length = poolSize) (data : Bytes) :
    (data.foldl mixByte ⟨pool, 0, 0⟩).pool = addPools pool (keyfilePool data) := by
  have hadd := foldl_mixByte_addPools pool data ⟨zeroPool, 0, 0⟩
  rw [addPools_zeroPool h] at hadd
  exact hadd

end Mixing

section Loop

/-- The keyfile bytes that the loop mixes into the pool. -/
def mixedFiles (total : ℕ) : List (Except String Bytes) → List Bytes
  | [] => []
  | .error _ :: _ => []
  | .ok data :: paths =>
    let n := min data.length (maxRead - total)
    if n = 0 then []
    else data.take n :: mixedFiles (total + n) paths

/-- The pool of a run of the loop is the sum over what it mixed in. -/
theorem mixKeyfiles_eq_ok {paths : List (Except String Bytes)} {pool out : Bytes} {total : ℕ}
    (hpool : pool.length = poolSize) (h : mixKeyfiles pool total paths = .ok out) :
    out = addPools pool (poolSum (mixedFiles total paths)) := by
  induction paths generalizing pool total with
  | nil =>
    obtain rfl := Except.ok.inj h
    exact (addPools_zeroPool hpool).symm
  | cons path paths ih =>
    cases path with
    | error e => cases h
    | ok data =>
      rw [mixKeyfiles] at h
      rw [mixedFiles]
      by_cases hn : min data.length (maxRead - total) = 0
      · rw [if_pos hn] at h ⊢
        obtain rfl := Except.ok.inj h
        exact (addPools_zeroPool hpool).symm
      · rw [if_neg hn] at h ⊢
        have hnext := ih (by rw [length_foldl_mixByte, hpool]) h
        rw [hnext, foldl_mixByte_eq hpool, poolSum_cons, addPools_assoc]

/-- The number of bytes of the keyfiles. -/
def totalSize (files : List Bytes) : ℕ := (files.map List.length).sum

/-- Within the limit the loop runs to the first empty keyfile. -/
theorem mixedFiles_eq_takeWhile {files : List Bytes} {total : ℕ}
    (h : total + totalSize files ≤ maxRead) :
    mixedFiles total (files.map .ok) = files.takeWhile (· ≠ []) := by
  induction files generalizing total with
  | nil => rfl
  | cons data files ih =>
    have hsum : totalSize (data :: files) = data.length + totalSize files := List.sum_cons
    have hn : min data.length (maxRead - total) = data.length := by omega
    rw [List.map_cons, mixedFiles, hn]
    cases data with
    | nil => rfl
    | cons b data =>
      rw [if_neg (by simp), List.take_length, ih (by omega)]
      rfl

theorem exists_mixKeyfiles_ok (files : List Bytes) (pool : Bytes) (total : ℕ) :
    ∃ out, mixKeyfiles pool total (files.map .ok) = .ok out := by
  induction files generalizing pool total with
  | nil => exact ⟨pool, rfl⟩
  | cons data files ih =>
    rw [List.map_cons, mixKeyfiles]
    split
    · exact ⟨pool, rfl⟩
    · exact ih _ _

/-- The keyfiles are read one after the other without a stop: each has some bytes and
begins before the limit. -/
def NoStop : ℕ → List Bytes → Prop
  | _, [] => True
  | total, data :: files => data ≠ [] ∧ total < maxRead ∧ NoStop (total + data.length) files

/-- Beyond the limit the exact number of bytes does not matter. -/
private theorem noStop_of_le {files : List Bytes} {t t' : ℕ} (h : maxRead ≤ t) (h' : maxRead ≤ t') :
    NoStop t files ↔ NoStop t' files := by
  cases files with
  | nil => rfl
  | cons data files => simp [NoStop, Nat.not_lt.mpr h, Nat.not_lt.mpr h']

/-- The loop fails exactly at an unreadable keyfile that it reaches. -/
theorem mixKeyfiles_eq_error_iff {paths : List (Except String Bytes)} {pool : Bytes} {total : ℕ} :
    (∃ e, mixKeyfiles pool total paths = .error e) ↔
      ∃ pre e post, paths = pre.map .ok ++ .error e :: post ∧ NoStop total pre := by
  induction paths generalizing pool total with
  | nil => simp [mixKeyfiles]
  | cons path paths ih =>
    cases path with
    | error e => exact ⟨fun _ => ⟨[], e, paths, rfl, trivial⟩, fun _ => ⟨e, rfl⟩⟩
    | ok data =>
      rw [mixKeyfiles]
      by_cases hn : min data.length (maxRead - total) = 0
      · rw [if_pos hn]
        constructor
        · rintro ⟨e, he⟩
          cases he
        · rintro ⟨pre, e, post, hsplit, hpre⟩
          exfalso
          cases pre with
          | nil => cases hsplit
          | cons data' pre =>
            obtain ⟨rfl, -⟩ : data = data' ∧ _ := by simpa using hsplit
            obtain ⟨hne, hlt, -⟩ := hpre
            have hlen := List.length_pos_iff.mpr hne
            omega
      · rw [if_neg hn, ih]
        -- a truncated keyfile reaches the limit, like a whole one
        have hrest (pre : List Bytes) : NoStop (total + min data.length (maxRead - total)) pre ↔
            NoStop (total + data.length) pre := by
          by_cases hfits : data.length ≤ maxRead - total
          · rw [Nat.min_eq_left hfits]
          · exact noStop_of_le (by omega) (by omega)
        constructor
        · rintro ⟨pre, e, post, rfl, hpre⟩
          have hne : data ≠ [] := by
            intro hnil
            simp [hnil] at hn
          exact ⟨data :: pre, e, post, rfl, hne, by omega, (hrest pre).mp hpre⟩
        · rintro ⟨pre, e, post, hsplit, hpre⟩
          cases pre with
          | nil => cases hsplit
          | cons data' pre =>
            obtain ⟨rfl, rfl⟩ : data = data' ∧ paths = pre.map .ok ++ .error e :: post := by
              simpa using hsplit
            exact ⟨pre, e, post, rfl, (hrest pre).mpr hpre.2.2⟩

end Loop

section Passwords

/-- The outcome of `applyKeyfiles` and the password its caller is left with, which is only
changed after the loop. -/
def applyKeyfilesTo (password : Bytes) (paths : List (Except String Bytes)) :
    Except String Unit × Bytes :=
  if paths.isEmpty then (.ok (), password)
  else
    match mixKeyfiles (List.replicate poolSize 0) 0 paths with
    | .error e => (.error e, password)
    | .ok pool =>
      let password := password ++ List.replicate (poolSize - password.length) 0
      (.ok (), List.zipWith (· + ·) password pool ++ password.drop poolSize)

theorem applyKeyfiles_eq (password : Bytes) (paths : List (Except String Bytes)) :
    applyKeyfiles password paths =
      (applyKeyfilesTo password paths).1.map fun _ => (applyKeyfilesTo password paths).2 := by
  rw [applyKeyfiles, applyKeyfilesTo]
  split
  · rfl
  · cases mixKeyfiles (List.replicate poolSize 0) 0 paths <;> rfl

/-- The password, zero-padded to the size of a pool, with a pool added to its first bytes. -/
def addToPassword (password pool : Bytes) : Bytes :=
  let padded := password ++ List.replicate (poolSize - password.length) 0
  addPools padded pool ++ padded.drop poolSize

/-- Every keyfile adds the pool it yields alone, and none is left out of the loop. -/
structure ContributesAll (password : Bytes) (files : List Bytes) : Prop where
  sum : applyKeyfilesTo password (files.map .ok) =
    (.ok (), addToPassword password (poolSum files))
  none_ignored : mixedFiles 0 (files.map .ok) = files.filter (· ≠ [])

/-- What is promised of a list of keyfiles: readable ones of at most `maxRead` bytes all
contribute, and an unreadable one is an error that leaves the password alone. -/
structure KeyfilesLaw (password : Bytes) (paths : List (Except String Bytes)) : Prop where
  contributes : ∀ files, paths = files.map .ok → files ≠ [] → totalSize files ≤ maxRead →
    ContributesAll password files
  refuses : ∀ e, .error e ∈ paths → ∃ e', applyKeyfilesTo password paths = (.error e', password)

/-- Only empty keyfiles come after an empty one. -/
def EmptyLast (files : List Bytes) : Prop := files.Pairwise fun a b => a = [] → b = []

/-- Nothing that matters comes after the place where the loop stops. -/
structure Unstopped (paths : List (Except String Bytes)) : Prop where
  emptyLast : ∀ files, paths = files.map .ok → totalSize files ≤ maxRead → EmptyLast files
  readsAll : ∀ e, .error e ∈ paths →
    ∃ pre e' post, paths = pre.map .ok ++ .error e' :: post ∧ NoStop 0 pre

theorem takeWhile_eq_filter_iff (files : List Bytes) :
    files.takeWhile (· ≠ []) = files.filter (· ≠ []) ↔ EmptyLast files := by
  induction files with
  | nil => simp [EmptyLast]
  | cons data files ih =>
    cases data with
    | nil =>
      have hnil : (files.filter (· ≠ []) = []) ↔ ∀ b ∈ files, b = [] := by
        simp [List.filter_eq_nil_iff]
      have hrest : EmptyLast ([] :: files) ↔ ∀ b ∈ files, b = [] := by
        rw [EmptyLast, List.pairwise_cons]
        constructor
        · intro h b hb
          exact h.1 b hb rfl
        · intro h
          exact ⟨fun b hb _ => h b hb, List.pairwise_of_forall_mem_list fun a _ b hb _ => h b hb⟩
      rw [hrest, ← hnil]
      exact eq_comm
    | cons b data =>
      have hrest : EmptyLast ((b :: data) :: files) ↔ EmptyLast files := by
        rw [EmptyLast, List.pairwise_cons]
        exact and_iff_right fun _ _ h => absurd h (List.cons_ne_nil b data)
      rw [hrest, ← ih]
      exact List.cons_inj_right (b :: data)

/-- A list of readable keyfiles contributes as a whole exactly when none of them comes
after an empty one. -/
theorem contributesAll_iff {files : List Bytes} (password : Bytes) (hne : files ≠ [])
    (hsize : totalSize files ≤ maxRead) :
    ContributesAll password files ↔ EmptyLast files := by
  have hmixed : mixedFiles 0 (files.map .ok) = files.takeWhile (· ≠ []) :=
    mixedFiles_eq_takeWhile (by omega)
  rw [← takeWhile_eq_filter_iff, ← hmixed]
  refine ⟨fun h => h.none_ignored, fun h => ⟨?_, h⟩⟩
  obtain ⟨out, hout⟩ := exists_mixKeyfiles_ok files zeroPool 0
  have hzero : zeroPool.length = poolSize := List.length_replicate
  have hsum : out = poolSum files := by
    rw [mixKeyfiles_eq_ok hzero hout, h, poolSum_filter_ne_nil, addPools_comm,
      addPools_zeroPool (length_poolSum files)]
  have hempty : (files.map (Except.ok (ε := String))).isEmpty = false := by simpa using hne
  rw [zeroPool] at hout
  rw [applyKeyfilesTo, hempty, hout, hsum]
  rfl

/-- An unreadable keyfile is reported exactly when the loop reads up to one. -/
theorem refuses_iff {paths : List (Except String Bytes)} (password : Bytes)
    (hne : paths ≠ []) :
    (∃ e, applyKeyfilesTo password paths = (.error e, password)) ↔
      ∃ pre e post, paths = pre.map .ok ++ .error e :: post ∧ NoStop 0 pre := by
  have hempty : paths.isEmpty = false := by simpa using hne
  rw [← @mixKeyfiles_eq_error_iff paths (List.replicate poolSize 0) 0, applyKeyfilesTo, hempty]
  cases mixKeyfiles (List.replicate poolSize 0) 0 paths with
  | error e => simp
  | ok pool => simp

/-- One list of keyfiles. -/
private theorem keyfilesLaw_of_paths (password : Bytes) (paths : List (Except String Bytes)) :
    KeyfilesLaw password paths ↔ Unstopped paths := by
  constructor
  · intro h
    refine ⟨fun files hfiles hsize => ?_, fun e he => ?_⟩
    · cases files with
      | nil => exact List.Pairwise.nil
      | cons data files =>
        have hne : data :: files ≠ [] := List.cons_ne_nil _ _
        exact (contributesAll_iff password hne hsize).mp (h.contributes _ hfiles hne hsize)
    · exact (refuses_iff password (List.ne_nil_of_mem he)).mp (h.refuses e he)
  · intro h
    refine ⟨fun files hfiles hne hsize => ?_, fun e he => ?_⟩
    · exact (contributesAll_iff password hne hsize).mpr (h.emptyLast files hfiles hsize)
    · exact (refuses_iff password (List.ne_nil_of_mem he)).mpr (h.readsAll e he)

/-- Two orders of the same keyfiles, with the empty ones last, give the same password. -/
private theorem applyKeyfilesTo_perm {files files' : List Bytes} (password : Bytes)
    (hperm : files.Perm files') (hsize : totalSize files ≤ maxRead) (h : EmptyLast files)
    (h' : EmptyLast files') :
    applyKeyfilesTo password (files.map .ok) = applyKeyfilesTo password (files'.map .ok) := by
  have hsize' : totalSize files' ≤ maxRead := by
    rw [totalSize, ← (hperm.map List.length).sum_nat]
    exact hsize
  by_cases hne : files = []
  · subst hne
    rw [List.nil_perm.mp hperm]
  · have hne' : files' ≠ [] := fun hnil => hne (List.perm_nil.mp (hnil ▸ hperm))
    rw [((contributesAll_iff password hne hsize).mpr h).sum,
      ((contributesAll_iff password hne' hsize').mpr h').sum, poolSum_perm hperm]

/-- An empty keyfile with only empty ones after it changes nothing. -/
private theorem applyKeyfilesTo_insert {pre post : List Bytes} (password : Bytes)
    (hne : pre ++ post ≠ []) (hsize : totalSize (pre ++ post) ≤ maxRead)
    (h : EmptyLast (pre ++ [] :: post)) :
    applyKeyfilesTo password ((pre ++ [] :: post).map .ok) =
      applyKeyfilesTo password ((pre ++ post).map .ok) := by
  have hmiddle : (pre ++ [] :: post).Perm ([] :: (pre ++ post)) := List.perm_middle
  have hsize' : totalSize (pre ++ [] :: post) ≤ maxRead := by
    rw [totalSize, (hmiddle.map List.length).sum_nat, List.map_cons, List.sum_cons]
    simpa [totalSize] using hsize
  have hrest : EmptyLast (pre ++ post) :=
    List.Pairwise.sublist ((List.sublist_cons_self [] post).append_left pre) h
  have hsum : poolSum (pre ++ [] :: post) = poolSum (pre ++ post) := by
    rw [poolSum_perm hmiddle, ← poolSum_filter_ne_nil, ← poolSum_filter_ne_nil (pre ++ post)]
    rfl
  rw [((contributesAll_iff password (by simp) hsize').mpr h).sum,
    ((contributesAll_iff password hne hsize).mpr hrest).sum, hsum]

/-- For every password and every list of keyfiles the law holds exactly when nothing that
matters comes after the place where the loop stops; among the lists of readable keyfiles
for which it holds, their order and further empty keyfiles make no difference. -/
theorem keyfilesLaw_iff (password : Bytes) :
    (∀ paths, KeyfilesLaw password paths ↔ Unstopped paths) ∧
      (∀ files files' : List Bytes, files.Perm files' → totalSize files ≤ maxRead →
        EmptyLast files → EmptyLast files' →
        applyKeyfilesTo password (files.map .ok) = applyKeyfilesTo password (files'.map .ok)) ∧
      ∀ pre post : List Bytes, pre ++ post ≠ [] → totalSize (pre ++ post) ≤ maxRead →
        EmptyLast (pre ++ [] :: post) →
        applyKeyfilesTo password ((pre ++ [] :: post).map .ok) =
          applyKeyfilesTo password ((pre ++ post).map .ok) :=
  ⟨keyfilesLaw_of_paths password,
    fun _ _ hperm hsize h h' => applyKeyfilesTo_perm password hperm hsize h h',
    fun _ _ hne hsize h => applyKeyfilesTo_insert password hne hsize h⟩

/-- An empty keyfile in front of another one: the second is ignored, and turning them
around gives another password. -/
theorem emptyFirst_not_keyfilesLaw :
    ¬ KeyfilesLaw [] [.ok [], .ok [0x61]] ∧
      applyKeyfilesTo [] [.ok [], .ok [0x61]] ≠ applyKeyfilesTo [] [.ok [0x61], .ok []] := by
  constructor
  · intro h
    have hlast := ((keyfilesLaw_of_paths [] _).mp h).emptyLast [[], [0x61]] rfl (by decide)
    exact absurd hlast (by simp [EmptyLast])
  · decide +kernel

end Passwords

end Oxhide.KeyfileOrder
